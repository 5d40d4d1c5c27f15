import Mathlib.Data.List.Induction
import RowQuery.File.Tree
import RowQuery.Proofs.Results
import RowQuery.Proofs.Text.Lines

/-!
What is left as it is where a tree is changed.

* `File.Tree.walk_of_directories`: names lead where they did, as long as no directory is gone.
* `File.Tree.Grows`: what stood in a tree still stands there, as it was.
* `File.Tree.Paves`: what has come is directories on a way.
* `File.Tree.paves_makeParents`: these are the changes that making the directories of a path can make.
* `File.Tree.exists_of_write`: a file is written where its path leads.
* `File.Tree.Grounded`: what stands somewhere stands in a directory. There, names without `..` lead to it
  already before anything is made.
-/
namespace RowQuery.File.Tree

variable {tree made : Tree} {start place next : Place} {name : String} {names rest : List String} {entry : Entry}

/-! ## Where names lead -/

theorem enter_eq_ok_iff {u : Unit} : tree.enter place = .ok u ↔ tree.get? place = some .directory := by
  unfold enter
  split <;> simp [*]

/-- A name stays where it is, goes one up, or goes one further down. -/
theorem step_cases (h : step start name = .ok next) :
    name = "." ∧ next = start ∨ name = ".." ∧ next = start.dropLast ∨
      name.utf8ByteSize ≤ 255 ∧ next = start ++ [name] := by
  unfold step at h
  split at h
  · next hdot => exact .inl ⟨hdot, (Except.ok.inj h).symm⟩
  · split at h
    · next hup => exact .inr (.inl ⟨hup, (Except.ok.inj h).symm⟩)
    · split at h
      · cases h
      · next hsize => exact .inr (.inr ⟨Nat.le_of_not_lt hsize, (Except.ok.inj h).symm⟩)

/-- The first name is that of something in the directory where the way starts. -/
theorem walk_cons_eq_ok_iff :
    tree.walk start (name :: rest) = .ok place ↔ tree.get? start = some .directory ∧
      ∃ next, step start name = .ok next ∧ tree.walk next rest = .ok place := by
  rw [walk, bind_eq_ok_iff]
  simp only [bind_eq_ok_iff, enter_eq_ok_iff, exists_const]

/-- Names lead where they did, as long as no directory is gone. -/
theorem walk_of_directories
    (h : ∀ other, tree.get? other = some .directory → made.get? other = some .directory)
    (hwalk : tree.walk start names = .ok place) : made.walk start names = .ok place := by
  induction names generalizing start with
  | nil => exact hwalk
  | cons name rest ih =>
    obtain ⟨hdirectory, next, hstep, hrest⟩ := walk_cons_eq_ok_iff.mp hwalk
    exact walk_cons_eq_ok_iff.mpr ⟨h start hdirectory, next, hstep, ih hrest⟩

/-- A path leads to a place. -/
def LeadsTo (tree : Tree) (path : String) (place : Place) : Prop :=
  ∃ parsed, Path.ofString path = .ok parsed ∧ tree.place parsed = .ok place

/-- Some of the first of the names lead to a place. -/
def Passes (tree : Tree) (start : Place) (names : List String) (place : Place) : Prop :=
  ∃ front, front <+: names ∧ tree.walk start front = .ok place

/-- A path goes through a place on its way to the last of its names. -/
def OnTheWay (tree : Tree) (path : String) (place : Place) : Prop :=
  ∃ parsed, Path.ofString path = .ok parsed ∧ tree.Passes (tree.start parsed) parsed.parents place

/-! ## Trees that grow -/

/-- What stands in a tree stands in the other as it is. -/
structure Grows (tree made : Tree) : Prop where
  here : made.here = tree.here
  kept : ∀ place entry, tree.get? place = some entry → made.get? place = some entry

namespace Grows

theorem refl (tree : Tree) : tree.Grows tree := ⟨rfl, fun _ _ h => h⟩

theorem trans {after : Tree} (h : tree.Grows made) (h' : made.Grows after) : tree.Grows after :=
  ⟨h'.here.trans h.here, fun place entry hentry => h'.kept place entry (h.kept place entry hentry)⟩

theorem put (h : tree.get? place = none) (entry : Entry) : tree.Grows (tree.put place entry) where
  here := rfl
  kept := fun other entry' hother => by
    have hne : other ≠ place := by
      rintro rfl
      rw [h] at hother
      cases hother
    rwa [get?_put_ne _ _ hne]

variable (h : tree.Grows made)
include h

theorem walk (hwalk : tree.walk start names = .ok place) : made.walk start names = .ok place :=
  walk_of_directories (fun other => h.kept other .directory) hwalk

theorem start_eq (path : Path) : made.start path = tree.start path := by
  rw [start, start, h.here]

theorem leadsTo {path : String} (hleads : tree.LeadsTo path place) : made.LeadsTo path place := by
  obtain ⟨parsed, hparsed, hplace⟩ := hleads
  refine ⟨parsed, hparsed, ?_⟩
  rw [Tree.place, h.start_eq]
  exact h.walk hplace

theorem passes (hpasses : tree.Passes start names place) : made.Passes start names place := by
  obtain ⟨front, hfront, hwalk⟩ := hpasses
  exact ⟨front, hfront, h.walk hwalk⟩

end Grows

/-! ## Making directories -/

/-- What has come to a tree is directories, and they are on the way. -/
structure Paves (tree made : Tree) (way : Place → Prop) : Prop extends tree.Grows made where
  new : ∀ place, tree.get? place = none → made.get? place ≠ none →
    made.get? place = some .directory ∧ way place

namespace Paves

variable {way way' : Place → Prop}

theorem refl (tree : Tree) (way : Place → Prop) : tree.Paves tree way where
  toGrows := .refl tree
  new := fun _ hnone hsome => absurd hnone hsome

theorem imp (h : tree.Paves made way) (himp : ∀ place, way place → way' place) : tree.Paves made way' where
  toGrows := h.toGrows
  new := fun place hnone hsome =>
    ⟨(h.new place hnone hsome).1, himp place (h.new place hnone hsome).2⟩

theorem trans {after : Tree} (h : tree.Paves made way) (h' : made.Paves after way) :
    tree.Paves after way where
  toGrows := h.toGrows.trans h'.toGrows
  new := fun place hnone hsome => by
    by_cases hmade : made.get? place = none
    · exact h'.new place hmade hsome
    · obtain ⟨hdirectory, hway⟩ := h.new place hnone hmade
      exact ⟨h'.kept place _ hdirectory, hway⟩

end Paves

theorem exists_of_makeDirectory (h : tree.makeDirectory start names = .ok made) :
    ∃ place, tree.walk start names = .ok place ∧ tree.get? place = none ∧ made = tree.put place .directory := by
  rw [makeDirectory, bind_eq_ok_iff] at h
  obtain ⟨place, hwalk, hmade⟩ := h
  split at hmade
  · cases hmade
  · next hnone => exact ⟨place, hwalk, hnone, (Except.ok.inj hmade).symm⟩

/-- A directory is made where its names lead. -/
theorem paves_makeDirectory (h : tree.makeDirectory start names = .ok made) :
    tree.Paves made (made.Passes start names) := by
  obtain ⟨place, hwalk, hnone, rfl⟩ := exists_of_makeDirectory h
  have hgrows : tree.Grows (tree.put place .directory) := .put hnone .directory
  refine ⟨hgrows, fun other hother hsome => ?_⟩
  by_cases heq : other = place
  · subst heq
    have hroot : other ≠ [] := by
      rintro rfl
      cases hother
    exact ⟨get?_put_self tree .directory hroot, names, List.prefix_rfl, hgrows.walk hwalk⟩
  · rw [get?_put_ne _ _ heq] at hsome
    exact absurd hother hsome

/-- What holds of a tree and stays true when one directory on the way is made holds when all are. The last name
is taken off as the directories are tried. -/
theorem makeDirectoriesBack_keeps {P : Tree → Prop}
    (hmake : ∀ {front tree made}, front <+: names → front ≠ [] → P tree →
      tree.makeDirectory start front = .ok made → P made)
    {back : List String} (hback : back.reverse <+: names) (h : P tree) :
    P (tree.makeDirectoriesBack start back).1 := by
  induction back with
  | nil => exact h
  | cons name above ih =>
    have hne : (name :: above).reverse ≠ [] := by simp
    have habove : above.reverse <+: names := by
      rw [List.reverse_cons] at hback
      exact (List.prefix_append _ _).trans hback
    unfold makeDirectoriesBack
    split
    · next made hmade => exact hmake hback hne h hmade
    · have hrest := ih habove
      split
      · next made fault heq =>
        rw [heq] at hrest
        exact hrest
      · next made heq =>
        rw [heq] at hrest
        split
        · next last hlast => exact hmake hback hne hrest hlast
        · split <;> exact hrest
    · split <;> exact h

/-- The directories made are those that some of the names lead to. -/
theorem paves_makeDirectoriesBack (tree : Tree) (start : Place) (back : List String) :
    tree.Paves (tree.makeDirectoriesBack start back).1
      ((tree.makeDirectoriesBack start back).1.Passes start back.reverse) := by
  refine makeDirectoriesBack_keeps (P := fun made => tree.Paves made (made.Passes start back.reverse))
    (fun {front made next} hfront _ hmade hnext => ?_) List.prefix_rfl (.refl tree _)
  have hlast := paves_makeDirectory hnext
  have hmono (place : Place) (h : next.Passes start front place) : next.Passes start back.reverse place := by
    obtain ⟨names, hnames, hwalk⟩ := h
    exact ⟨names, hnames.trans hfront, hwalk⟩
  exact (hmade.imp fun _ => hlast.toGrows.passes).trans (hlast.imp hmono)

/-- Making the directories on the way of a path does nothing else. -/
theorem paves_makeParents (tree : Tree) (path : String) :
    tree.Paves (tree.makeParents path).1 ((tree.makeParents path).1.OnTheWay path) := by
  unfold makeParents
  cases hparsed : Path.ofString path with
  | error fault => exact .refl tree _
  | ok parsed =>
    have hpaves := tree.paves_makeDirectoriesBack (tree.start parsed) parsed.parents.reverse
    refine hpaves.imp fun place hpasses => ⟨parsed, hparsed, ?_⟩
    rw [List.reverse_reverse] at hpasses
    dsimp only
    rwa [hpaves.start_eq parsed]

/-! ## Writing files -/

/-- A file is written where its path leads, unless the path ends with a slash or a directory stands there. -/
theorem exists_of_write {path : String} {bytes : ByteArray} (h : tree.write path bytes = .ok made) :
    ∃ parsed place, Path.ofString path = .ok parsed ∧ tree.place parsed = .ok place ∧
      parsed.closed = false ∧ tree.get? place ≠ some .directory ∧ made = tree.put place (.file bytes) := by
  rw [write, bind_eq_ok_iff] at h
  obtain ⟨parsed, hparsed, h⟩ := h
  obtain ⟨place, hplace, h⟩ := bind_eq_ok_iff.mp h
  split at h
  · cases h
  · next hclosed =>
    split at h
    · cases h
    · next hdirectory =>
      exact ⟨parsed, place, hparsed, hplace, Bool.eq_false_iff.mpr hclosed, hdirectory,
        (Except.ok.inj h).symm⟩

theorem ne_root_of_get? (h : tree.get? place ≠ some .directory) : place ≠ [] := by
  rintro rfl
  exact h rfl

/-- What replaces a file, or comes where nothing is, does not change where names lead. -/
theorem walk_put (h : tree.get? place ≠ some .directory) {other : Place}
    (hwalk : tree.walk start names = .ok other) (entry : Entry) :
    (tree.put place entry).walk start names = .ok other := by
  refine walk_of_directories (fun q hq => ?_) hwalk
  have hne : q ≠ place := by
    rintro rfl
    exact h hq
  rwa [get?_put_ne _ _ hne]

/-! ## Looking -/

theorem contains_of_place {path : String} {parsed : Path} (hparsed : Path.ofString path = .ok parsed)
    (hplace : tree.place parsed = .ok place) (hclosed : parsed.closed = false)
    (hentry : tree.get? place = some entry) : tree.contains path = true := by
  have hfind : (Path.ofString path >>= tree.find) = .ok entry := by
    simp only [hparsed, bind, Except.bind, find, hplace, hentry, hclosed]
    cases entry <;> rfl
  rw [contains, hfind]

theorem read_of_place {path : String} {parsed : Path} {bytes : ByteArray}
    (hparsed : Path.ofString path = .ok parsed) (hplace : tree.place parsed = .ok place)
    (hclosed : parsed.closed = false) (hentry : tree.get? place = some (.file bytes)) :
    tree.read path = .ok bytes := by
  simp only [read, hparsed, bind, Except.bind, find, hplace, hentry, hclosed, Bool.false_eq_true, if_false]

/-! ## Trees without gaps -/

/-- What stands somewhere stands in a directory. -/
def Grounded (tree : Tree) : Prop :=
  ∀ place entry, tree.get? place = some entry → tree.get? place.dropLast = some .directory

/-- It is enough to look at what is listed. -/
theorem grounded_of_entries (h : ∀ listed ∈ tree.entries, tree.get? listed.1.dropLast = some .directory) :
    tree.Grounded := by
  intro place entry hentry
  by_cases hroot : place = []
  · subst hroot
    rfl
  · rw [get?, if_neg hroot, List.lookup_eq_some_iff] at hentry
    obtain ⟨front, back, heq, -⟩ := hentry
    exact h (place, entry) (by simp [heq])

/-- It stays so where something other than a directory is put into a directory, or replaced. -/
theorem Grounded.put (hg : tree.Grounded) (hplace : tree.get? place ≠ some .directory)
    (habove : tree.get? place.dropLast = some .directory) (entry : Entry) : (tree.put place entry).Grounded := by
  have hkeeps (other : Place) (hother : tree.get? other = some .directory) :
      (tree.put place entry).get? other = some .directory := by
    have hne : other ≠ place := by
      rintro rfl
      exact hplace hother
    rwa [get?_put_ne _ _ hne]
  intro other entry' hother
  by_cases heq : other = place
  · rw [heq]
    exact hkeeps _ habove
  · rw [get?_put_ne _ _ heq] at hother
    exact hkeeps _ (hg other entry' hother)

/-- Names that lead to no directory lead into one. -/
theorem Grounded.directory_of_walk (hg : tree.Grounded) (hnames : names ≠ [])
    (hwalk : tree.walk start names = .ok place) (hplace : tree.get? place ≠ some .directory) :
    tree.get? place.dropLast = some .directory := by
  induction names generalizing start with
  | nil => exact absurd rfl hnames
  | cons name rest ih =>
    obtain ⟨hdirectory, next, hstep, hrest⟩ := walk_cons_eq_ok_iff.mp hwalk
    by_cases hlast : rest = []
    · subst hlast
      cases hrest
      -- The last name is that of a place in `start`: `.` and `..` would lead to directories.
      obtain ⟨-, rfl⟩ | ⟨-, rfl⟩ | ⟨-, rfl⟩ := step_cases hstep
      · exact absurd hdirectory hplace
      · exact absurd (hg _ _ hdirectory) hplace
      · rwa [List.dropLast_concat]
    · exact ih hlast hrest

theorem Grounded.makeParents (hg : tree.Grounded) (path : String) : (tree.makeParents path).1.Grounded := by
  unfold Tree.makeParents
  split
  · exact hg
  · next parsed _ =>
    refine makeDirectoriesBack_keeps (fun {front tree made} _ hfront hg hmade => ?_) List.prefix_rfl hg
    obtain ⟨place, hwalk, hnone, rfl⟩ := exists_of_makeDirectory hmade
    have hplace : tree.get? place ≠ some .directory := by simp [hnone]
    exact hg.put hplace (hg.directory_of_walk hfront hwalk hplace) .directory

/-- A text that does not end with a slash has a name in it. -/
theorem names_ne_nil_of_ofString {path : String} {parsed : Path} (h : Path.ofString path = .ok parsed)
    (hclosed : parsed.closed = false) : parsed.names ≠ [] := by
  unfold Path.ofString at h
  simp only at h
  split at h
  · cases h
  · split at h
    · cases h
    · next hne =>
      cases h
      obtain ⟨c, hlast⟩ := Option.ne_none_iff_exists'.mp (mt List.getLast?_eq_none_iff.mp hne)
      have hslash : c ≠ '/' := by
        rintro rfl
        simp [hlast] at hclosed
      have hmem : c ∈ [] ∨ c ∈ path.toList := .inr (List.mem_of_mem_getLast? hlast)
      obtain ⟨piece, hpiece, hc⟩ := Text.exists_mem_splitFrom hslash hmem
      have hkept : piece ∈ (Text.split '/' path.toList).filter fun name => !name.isEmpty :=
        List.mem_filter.mpr ⟨hpiece, by cases piece <;> simp at hc ⊢⟩
      exact List.ne_nil_of_mem (List.mem_map_of_mem hkept)

theorem Grounded.write (hg : tree.Grounded) {path : String} {bytes : ByteArray}
    (h : tree.write path bytes = .ok made) : made.Grounded := by
  obtain ⟨parsed, place, hparsed, hplace, hclosed, hfree, rfl⟩ := exists_of_write h
  have hnames : parsed.names ≠ [] := names_ne_nil_of_ofString hparsed hclosed
  exact hg.put hfree (hg.directory_of_walk hnames hplace hfree) (.file bytes)

/-- All on the way to it are directories. -/
theorem Grounded.directory_of_append (hg : tree.Grounded) {front back : Place} (hne : back ≠ [])
    (h : tree.get? (front ++ back) = some entry) : tree.get? front = some .directory := by
  induction back using List.reverseRecOn generalizing entry with
  | nil => exact absurd rfl hne
  | append_singleton back name ih =>
    have habove := hg _ _ h
    rw [← List.append_assoc, List.dropLast_concat] at habove
    by_cases hback : back = []
    · rwa [hback, List.append_nil] at habove
    · exact ih hback habove

/-- Without `..` names only lead further down. -/
theorem prefix_of_walk (hnames : ".." ∉ names) (hwalk : tree.walk start names = .ok place) : start <+: place := by
  induction names generalizing start with
  | nil =>
    cases hwalk
    exact List.prefix_rfl
  | cons name rest ih =>
    obtain ⟨-, next, hstep, hrest⟩ := walk_cons_eq_ok_iff.mp hwalk
    obtain ⟨hname, hnot⟩ := not_or.mp (mt List.mem_cons.mpr hnames)
    have hnext : start <+: next := by
      obtain ⟨-, rfl⟩ | ⟨hup, -⟩ | ⟨-, rfl⟩ := step_cases hstep
      · exact List.prefix_rfl
      · exact absurd hup.symm hname
      · exact List.prefix_append _ _
    exact hnext.trans (ih hnot hrest)

/-- If names without `..` lead to something that has been there, then they have led there. -/
theorem Grounded.walk_of_grows (hg : tree.Grounded) (h : tree.Grows made) (hnames : ".." ∉ names)
    (hentry : tree.get? place = some entry) (hwalk : made.walk start names = .ok place) :
    tree.walk start names = .ok place := by
  induction names generalizing start with
  | nil => exact hwalk
  | cons name rest ih =>
    have hprefix : start <+: place := prefix_of_walk hnames hwalk
    obtain ⟨hdirectory, next, hstep, hrest⟩ := walk_cons_eq_ok_iff.mp hwalk
    have hstart : tree.get? start = some .directory := by
      obtain ⟨back, rfl⟩ := hprefix
      by_cases hback : back = []
      · rw [hback, List.append_nil] at hentry
        rw [hentry, ← hdirectory, h.kept _ _ hentry]
      · exact hg.directory_of_append hback hentry
    exact walk_cons_eq_ok_iff.mpr
      ⟨hstart, next, hstep, ih (fun hmem => hnames (List.mem_cons_of_mem _ hmem)) hrest⟩

end RowQuery.File.Tree
