import CommentScan.CommandLine

/-!
# Folders in memory

A folder holds files and other folders under relative paths.  Looking a path
up walks through it part by part, as a file system does: an empty part or a
single dot stays in place, two dots lead to the folder above, and a name leads
into a folder.  Nothing is known about what lies outside the folder.
-/

namespace CommentScan.CommandLine

/-- What a name in a folder stands for. -/
inductive Entry where
  | file (content : ByteArray)
  | folder

/-- A folder, as the parts of each path in it and what the path stands for. -/
structure Folder where
  entries : List (List String × Entry)

namespace Folder

/-- The parts of a path between its slashes. -/
def parts (path : String) : List String :=
  (path.toList.splitOn '/').map String.ofList

/-- A folder from paths and what they stand for. -/
def ofEntries (entries : List (String × Entry)) : Folder :=
  ⟨entries.map fun entry => (parts entry.1, entry.2)⟩

/--
What stands at a place in a folder.  The folder itself is the place without
any parts, and every place above an entry is a folder.
-/
def entryAt? (folder : Folder) (place : List String) : Option Entry :=
  match folder.entries.find? fun entry => entry.1 == place with
  | some entry => some entry.2
  | none =>
      if place.isEmpty || folder.entries.any (place.isPrefixOf ·.1) then
        some .folder
      else
        none

/-- Something that is not a folder stands in the middle of a path. -/
def notFolder : ReadError :=
  .system "Not a directory" 20

/-- A folder stands where a file is to be read. -/
def isFolder : ReadError :=
  .system "Is a directory" 21

/-- A part of a path, or all of it, is longer than a path can be. -/
def tooLong : ReadError :=
  .system "File name too long" 36

/-- The most bytes in a part of a path. -/
def longestPart : Nat := 255

/-- The most bytes in a path. -/
def longestPath : Nat := 4095

/--
Walk on through the parts of a path.  A place of `none` lies outside the
folder.
-/
def walk (folder : Folder) :
    Option (List String) → List String → Except ReadError ByteArray
  | none, [] => .error isFolder
  | none, part :: rest =>
      if part ∈ ["", ".", ".."] then
        walk folder none rest
      else
        .error .notFound
  | some place, remaining =>
      match folder.entryAt? place, remaining with
      | none, _ => .error .notFound
      | some (.file content), [] => .ok content
      | some (.file _), _ :: _ => .error notFolder
      | some .folder, [] => .error isFolder
      | some .folder, part :: rest =>
          if part ∈ ["", "."] then
            walk folder (some place) rest
          else if part = ".." then
            walk folder (if place.isEmpty then none else some place.dropLast)
              rest
          else if longestPart < part.utf8ByteSize then
            .error tooLong
          else
            walk folder (some (place ++ [part])) rest

/-- The bytes of the file that a path names. -/
def contentAt (folder : Folder) (path : String) :
    Except ReadError ByteArray :=
  if path.isEmpty then
    .error .notFound
  else if longestPath < path.utf8ByteSize then
    .error tooLong
  else
    walk folder (if path.toList.head? = some '/' then none else some [])
      (parts path)

/-- The text of the file that a path names. -/
def read (folder : Folder) : String → Except ReadError Text :=
  readText folder.contentAt

end Folder

end CommentScan.CommandLine
