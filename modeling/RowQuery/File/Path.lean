import RowQuery.Text.Blank

/-!
Paths as they are written.

* `File.Path`: the names that a path lists, and where it starts.
* `File.Path.ofString`: the path that a text stands for.
* `File.Path.parents`: the names of the directories on the way.
* `File.join`: a path with more names behind it, as text.
* `File.Fault`: why something cannot be done with a path.
-/
namespace RowQuery.File

/-- Why a path cannot be read, made or written. -/
inductive Fault where
  /-- Nothing is there. -/
  | missing
  /-- A file stands where the path goes on. -/
  | notDirectory
  /-- A directory stands where a file is wanted. -/
  | isDirectory
  /-- A file stands where a directory is to be made. -/
  | occupied
  /-- A name is longer than file systems allow. -/
  | nameTooLong
  /-- The path holds a NUL, which no name can. -/
  | nul
  /-- The bytes of the file are not UTF-8. -/
  | notText
deriving DecidableEq, Repr

/-- What is said of a fault: the words of the operating system and its number for it. -/
def Fault.message : Fault → String
  | .missing => "No such file or directory (os error 2)"
  | .notDirectory => "Not a directory (os error 20)"
  | .isDirectory => "Is a directory (os error 21)"
  | .occupied => "File exists (os error 17)"
  | .nameTooLong => "File name too long (os error 36)"
  | .nul => "file name contained an unexpected NUL byte"
  | .notText => "stream did not contain valid UTF-8"

/-- A path: the names on the way, `.` and `..` among them, whether the way starts at the root
directory, and whether the path ends with a slash and so asks for a directory. -/
structure Path where
  rooted : Bool
  names : List String
  closed : Bool
deriving DecidableEq, Repr

namespace Path

/-- The path that a text stands for. Slashes in a row count as one, and the empty text leads
nowhere. -/
def ofString (s : String) : Except Fault Path :=
  let cs := s.toList
  if '\x00' ∈ cs then .error .nul
  else if cs = [] then .error .missing
  else
    .ok {
      rooted := cs.head? = some '/'
      names := ((Text.split '/' cs).filter fun name => !name.isEmpty).map String.ofList
      closed := cs.getLast? = some '/' }

/-- The names of the directories on the way to the last name. Names that only stay where they are
count for nothing. -/
def parents (path : Path) : List String := (path.names.filter (· ≠ ".")).dropLast

end Path

/-- A path with another behind it. A path from the root directory replaces what stands before it. -/
def join (base path : String) : String :=
  if path.toList.head? = some '/' ∨ base = "" then path
  else if base.toList.getLast? = some '/' then base ++ path
  else base ++ "/" ++ path

end RowQuery.File
