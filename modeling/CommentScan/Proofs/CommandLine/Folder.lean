import CommentScan.CommandLine.Folder

/-!
# Looking up a name in a folder

A name leads from a folder to what stands in it under that name.  Such a name
is one part of a path, which no slash cuts and no dots turn aside.
-/

namespace CommentScan.CommandLine

namespace Folder

variable {folder : Folder} {name : String} {content : ByteArray}

end Folder

end CommentScan.CommandLine
