import RowQuery.Config.Document
import RowQuery.File.Tree

/-!
The configuration file among the files.

* `Config.load`: the configuration of the file at a path.
* `Config.install`: the file that is written for a start, put at a path.
-/
namespace RowQuery.Config

/-- The configuration at a path. Where there is nothing, nothing is set. -/
def load (tree : File.Tree) (path : String) : Except Fault Config :=
  if tree.contains path then
    match tree.readText path with
    | .error fault => .error (.unreadable fault)
    | .ok text =>
      match parse? text with
      | some config => .ok config
      | none => .error .malformed
  else .ok empty

/-- Puts the file for a start at a path, where there must be nothing unless `force` is given. The
directories on the way are made, and stay even where the file cannot be written. -/
def install (tree : File.Tree) (path : String) (force : Bool) : File.Tree × Except Fault Unit :=
  if tree.contains path && !force then (tree, .error (.present path))
  else
    match tree.makeParents path with
    | (tree, .error fault) => (tree, .error (.noDirectory fault))
    | (tree, .ok ()) =>
      match tree.write path template.toUTF8 with
      | .error fault => (tree, .error (.unwritable fault))
      | .ok tree => (tree, .ok ())

end RowQuery.Config
