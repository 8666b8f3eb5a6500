import RoomAir.Source.Feed
import RoomAir.Text.Form

/-! Folders and files, and what a path leads to among them. -/

namespace RoomAir

/-- A file with its content, or a folder with its named entries. -/
inductive Entry where
  | file (content : Bytes)
  | folder (entries : List (String × Entry))

/-- Why a path leads to no file that can be read. -/
inductive PathFault where
  | notFound
  | notFolder
  | isFolder
  | nameTooLong
  | nullCharacter
  deriving DecidableEq, Repr

/-- The wording of a path's fault, with the number that operating systems give it. -/
def PathFault.message : PathFault → String
  | .notFound => "No such file or directory (os error 2)"
  | .notFolder => "Not a directory (os error 20)"
  | .isFolder => "Is a directory (os error 21)"
  | .nameTooLong => "File name too long (os error 36)"
  | .nullCharacter => "file name contained an unexpected NUL byte"

/-- A tree of folders and the folder in it where relative paths begin. -/
structure Disk where
  root : Entry
  /-- The names that lead from the root to the folder of relative paths. -/
  current : List String

namespace Disk

/-- The most bytes that a name may take. -/
def longestName : Nat := 255

/-- The most bytes that a path may take. -/
def longestPath : Nat := 4095

/-- What names lead to from a folder, the folders above it being given nearest first. -/
def follow : List Entry → Entry → List String → Except PathFault Entry
  | _, here, [] => .ok here
  | _, .file _, _ :: _ => .error .notFolder
  | above, .folder entries, name :: names =>
    if name = "" ∨ name = "." then follow above (.folder entries) names
    else if name = ".." then
      -- Above the root is the root itself.
      match above with
      | [] => follow [] (.folder entries) names
      | parent :: further => follow further parent names
    else if longestName < Utf8.byteLength name then .error .nameTooLong
    else match entries.lookup name with
      | some entry => follow (.folder entries :: above) entry names
      | none => .error .notFound

/-- The content of the file that a path leads to. -/
def read (disk : Disk) (path : String) : Except PathFault Bytes := do
  let names := (Form.splitAt '/' path.toList).map String.ofList
  let start := if path.toList.head? = some '/' then [] else disk.current
  if path.toList.contains '\x00' then .error .nullCharacter
  else if path = "" then .error .notFound
  else if longestPath < Utf8.byteLength path then .error .nameTooLong
  else match ← follow [] disk.root (start ++ names) with
    | .file content => .ok content
    | .folder _ => .error .isFolder

end Disk

/-- The fetch of a file's document. -/
def Fetch.ofFile (disk : Disk) (path : String) : Fetch :=
  match disk.read path with
  | .ok content => .ofDocument content
  | .error fault => .ofFailure (.file path fault.message)

end RoomAir
