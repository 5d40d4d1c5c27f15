import RowQuery.File.Path

/-!
Files and directories.

* `File.Tree`: what there is, by the place where it is, and the working directory.
* `File.Tree.place`: where a path leads.
* `File.Tree.contains`, `File.Tree.read`, `File.Tree.readText`: looking at a path.
* `File.Tree.makeDirectories`, `File.Tree.write`: changing what is there.

A place is the list of names that lead to it from the root directory. What changes a tree changes it
by `File.Tree.put` alone, and says nothing of other places (`get?_put_ne`).
-/
namespace RowQuery.File

/-- What stands at a place. -/
inductive Entry where
  | file (bytes : ByteArray)
  | directory

instance : DecidableEq Entry
  | .file a, .file b =>
    if h : a.data = b.data then isTrue (congrArg Entry.file (ByteArray.ext h))
    else isFalse fun he => h (congrArg ByteArray.data (Entry.file.inj he))
  | .file _, .directory => isFalse nofun
  | .directory, .file _ => isFalse nofun
  | .directory, .directory => isTrue rfl

/-- A place: the names that lead to it from the root directory. -/
abbrev Place := List String

/-- Files and directories, the first entry for a place being the one that counts. -/
structure Tree where
  entries : List (Place × Entry)
  /-- The working directory, where paths start that do not start at the root directory. -/
  here : Place

namespace Tree

/-- What stands at a place. The root directory is always there. -/
def get? (tree : Tree) (place : Place) : Option Entry :=
  if place = [] then some .directory else tree.entries.lookup place

/-- The tree with something else at a place. -/
def put (tree : Tree) (place : Place) (entry : Entry) : Tree :=
  { tree with entries := (place, entry) :: tree.entries }

theorem get?_put_self (tree : Tree) {place : Place} (entry : Entry) (h : place ≠ []) :
    (tree.put place entry).get? place = some entry := by
  simp [get?, put, h]

theorem get?_put_ne (tree : Tree) {place other : Place} (entry : Entry) (h : other ≠ place) :
    (tree.put place entry).get? other = tree.get? other := by
  have : (other == place) = false := by simpa using h
  simp [get?, put, List.lookup_cons, this]

theorem here_put (tree : Tree) (place : Place) (entry : Entry) :
    (tree.put place entry).here = tree.here := rfl

/-- Whether a directory stands at a place. -/
def isDirectory (tree : Tree) (place : Place) : Bool := tree.get? place = some .directory

/-! ## Where paths lead -/

/-- A fault unless a directory stands at the place. -/
def enter (tree : Tree) (place : Place) : Except Fault Unit :=
  match tree.get? place with
  | some .directory => .ok ()
  | some (.file _) => .error .notDirectory
  | none => .error .missing

/-- The place of a name in a directory. Names have at most 255 bytes. -/
def step (place : Place) (name : String) : Except Fault Place :=
  if name = "." then .ok place
  else if name = ".." then .ok place.dropLast
  else if 255 < name.utf8ByteSize then .error .nameTooLong
  else .ok (place ++ [name])

/-- Where names lead from a place. All but the last must lead to directories. -/
def walk (tree : Tree) (place : Place) : List String → Except Fault Place
  | [] => .ok place
  | name :: rest => do
    tree.enter place
    tree.walk (← step place name) rest

/-- Where the way of a path starts. -/
def start (tree : Tree) (path : Path) : Place := if path.rooted then [] else tree.here

/-- Where a path leads, whether or not something stands there. -/
def place (tree : Tree) (path : Path) : Except Fault Place :=
  tree.walk (tree.start path) path.names

/-- What a path leads to. A path that ends with a slash leads to directories alone. -/
def find (tree : Tree) (path : Path) : Except Fault Entry := do
  match tree.get? (← tree.place path) with
  | none => .error .missing
  | some .directory => .ok .directory
  | some (.file bytes) => if path.closed then .error .notDirectory else .ok (.file bytes)

/-! ## Looking -/

/-- Whether a path leads to something. -/
def contains (tree : Tree) (path : String) : Bool :=
  match Path.ofString path >>= tree.find with
  | .ok _ => true
  | .error _ => false

/-- The bytes of a file. -/
def read (tree : Tree) (path : String) : Except Fault ByteArray := do
  match ← tree.find (← Path.ofString path) with
  | .directory => .error .isDirectory
  | .file bytes => .ok bytes

/-- The text that bytes stand for. -/
def decode (bytes : ByteArray) : Except Fault String :=
  match String.fromUTF8? bytes with
  | some text => .ok text
  | none => .error .notText

/-- The text of a file. -/
def readText (tree : Tree) (path : String) : Except Fault String := do
  decode (← tree.read path)

/-! ## Changing -/

/-- Makes one directory, at the place of the last of the names. -/
def makeDirectory (tree : Tree) (start : Place) (names : List String) : Except Fault Tree := do
  let place ← tree.walk start names
  match tree.get? place with
  | some _ => .error .occupied
  | none => .ok (tree.put place .directory)

/-- Whether names lead to a directory. -/
def leadsToDirectory (tree : Tree) (start : Place) (names : List String) : Bool :=
  match tree.walk start names with
  | .ok place => tree.isDirectory place
  | .error _ => false

/-- Makes the directory that names lead to, last name first, and those on the way that are missing.
Directories made before a fault stay. -/
def makeDirectoriesBack (tree : Tree) (start : Place) : List String → Tree × Except Fault Unit
  | [] => (tree, .ok ())
  | name :: above =>
    match tree.makeDirectory start (name :: above).reverse with
    | .ok made => (made, .ok ())
    | .error .missing =>
      match tree.makeDirectoriesBack start above with
      | (tree, .error fault) => (tree, .error fault)
      | (tree, .ok ()) =>
        match tree.makeDirectory start (name :: above).reverse with
        | .ok made => (made, .ok ())
        | .error fault =>
          if tree.leadsToDirectory start (name :: above).reverse then (tree, .ok ())
          else (tree, .error fault)
    | .error fault =>
      if tree.leadsToDirectory start (name :: above).reverse then (tree, .ok ())
      else (tree, .error fault)

/-- Makes the directories on the way of a path that are missing. -/
def makeParents (tree : Tree) (path : String) : Tree × Except Fault Unit :=
  match Path.ofString path with
  | .error _ => (tree, .ok ())
  | .ok path => tree.makeDirectoriesBack (tree.start path) path.parents.reverse

/-- Writes a file, in place of the one that is there. -/
def write (tree : Tree) (path : String) (bytes : ByteArray) : Except Fault Tree := do
  let path ← Path.ofString path
  let place ← tree.place path
  if path.closed then .error .isDirectory
  else
    match tree.get? place with
    | some .directory => .error .isDirectory
    | _ => .ok (tree.put place (.file bytes))

/-- A tree of one working directory and the files in it. The directories that hold them are there
too. -/
def ofFiles (here : Place) (files : List (List String × ByteArray)) : Tree :=
  let above (place : Place) : List (Place × Entry) :=
    (List.range place.length).map fun n => (place.take n, .directory)
  { entries :=
      files.map (fun (names, bytes) => (here ++ names, .file bytes)) ++
        files.flatMap (fun (names, _) => above (here ++ names)) ++
        (here, .directory) :: above here
    here }

/-- The entries that are not in another tree in the same form. -/
def changes (tree before : Tree) : List (Place × Entry) :=
  tree.entries.filter fun (place, entry) => before.get? place ≠ some entry

end Tree
end RowQuery.File
