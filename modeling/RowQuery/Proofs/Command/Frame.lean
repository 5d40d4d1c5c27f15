import RowQuery.Command.Arguments
import RowQuery.Command.Run
import RowQuery.Proofs.File.Tree

/-!
What a run leaves as it is among the files.

* `Config.Installs`: the ways in which putting the file for a start at a path can end.
* `Config.Installs.kept_of_unforced`: if nothing is to be replaced, nothing is, unless `..` is among the names of
  a path that leads nowhere yet.
* `Invocation.TouchesOnlyConfig`: what a run does to the files.
* `Invocation.touchesOnlyConfig`: every run does that and no more.
* `Invocation.run_replaces_file`: a file is replaced that a path with `..` leads to only when directories have
  been made for it.
* `Invocation.grounded_run`: no run leaves anything outside of a directory.
-/
namespace RowQuery

open File (Tree Place Entry Path)

/-! ## The file for a start -/

namespace Config

/-- The ways in which the file for a start is put at a path: something is there and stays, or it fails with
directories made perhaps, or the file is written where the path leads then. -/
inductive Installs (tree : Tree) (path : String) (force : Bool) : Tree → Except Fault Unit → Prop
  | present (hforce : force = false) (h : tree.contains path = true) :
      Installs tree path force tree (.error (.present path))
  | failed {made : Tree} {fault : Fault} (hfree : force = false → tree.contains path = false)
      (h : tree.Paves made (made.OnTheWay path)) : Installs tree path force made (.error fault)
  | done {made : Tree} {parsed : Path} {place : Place} (hfree : force = false → tree.contains path = false)
      (h : tree.Paves made (made.OnTheWay path)) (hparsed : Path.ofString path = .ok parsed)
      (hplace : made.place parsed = .ok place) (hclosed : parsed.closed = false)
      (hdirectory : made.get? place ≠ some .directory) :
      Installs tree path force (made.put place (.file template.toUTF8)) (.ok ())

theorem installs (tree : Tree) (path : String) (force : Bool) :
    Installs tree path force (install tree path force).1 (install tree path force).2 := by
  unfold install
  split
  · next h =>
    simp only [Bool.and_eq_true, Bool.not_eq_true'] at h
    exact .present h.2 h.1
  · next h =>
    have hfree : force = false → tree.contains path = false := by
      rintro rfl
      simpa using h
    have hpaves := tree.paves_makeParents path
    cases hmade : tree.makeParents path with
    | mk made result =>
      rw [hmade] at hpaves
      cases result with
      | error fault => exact .failed hfree hpaves
      | ok _ =>
        simp only
        cases hwrite : made.write path template.toUTF8 with
        | error fault => exact .failed hfree hpaves
        | ok written =>
          obtain ⟨parsed, place, hparsed, hplace, hclosed, hdirectory, rfl⟩ := Tree.exists_of_write hwrite
          exact .done hfree hpaves hparsed hplace hclosed hdirectory

namespace Installs

variable {tree after : Tree} {path : String} {force : Bool} {result : Except Fault Unit} {place : Place}
  {entry : Entry}

/-- What was there and has changed is a file, and the path leads to it. -/
theorem exists_of_ne (h : Installs tree path force after result) (hentry : tree.get? place = some entry)
    (hne : after.get? place ≠ some entry) : (∃ bytes, entry = .file bytes) ∧ after.LeadsTo path place := by
  cases h with
  | present => exact absurd hentry hne
  | failed _ hpaves => exact absurd (hpaves.kept _ _ hentry) hne
  | @done made parsed target _ hpaves hparsed hplace _ hdirectory =>
    have hmade := hpaves.kept _ _ hentry
    have heq : place = target := by
      by_contra hother
      rw [Tree.get?_put_ne _ _ hother] at hne
      exact hne hmade
    subst heq
    refine ⟨?_, parsed, hparsed, Tree.walk_put hdirectory hplace _⟩
    cases entry with
    | file bytes => exact ⟨bytes, rfl⟩
    | directory => exact absurd hmade hdirectory

/-- What is new is the file where the path leads, or a directory on the way. -/
theorem new (h : Installs tree path force after result) (hnone : tree.get? place = none)
    (hsome : after.get? place ≠ none) :
    result = .ok () ∧ after.LeadsTo path place ∨
      after.get? place = some .directory ∧ after.OnTheWay path place := by
  cases h with
  | present => exact absurd hnone hsome
  | failed _ hpaves => exact .inr (hpaves.new place hnone hsome)
  | @done made parsed target _ hpaves hparsed hplace _ hdirectory =>
    by_cases heq : place = target
    · subst heq
      exact .inl ⟨rfl, parsed, hparsed, Tree.walk_put hdirectory hplace _⟩
    · rw [Tree.get?_put_ne _ _ heq] at hsome ⊢
      obtain ⟨hplace', parsed', hparsed', front, hfront, hwalk⟩ := hpaves.new place hnone hsome
      exact .inr ⟨hplace', parsed', hparsed', front, hfront, Tree.walk_put hdirectory hwalk _⟩

/-- If it does not fail, the file for a start can be read at the path. -/
theorem read (h : Installs tree path force after (.ok ())) : after.read path = .ok template.toUTF8 := by
  cases h with
  | done _ _ hparsed hplace hclosed hdirectory =>
    exact Tree.read_of_place hparsed (Tree.walk_put hdirectory hplace _) hclosed
      (Tree.get?_put_self _ _ (Tree.ne_root_of_get? hdirectory))

/-- What is seen at the path and may not be replaced stays, with all else. -/
theorem eq_of_contains (h : Installs tree path false after result) (hcontains : tree.contains path = true) :
    after = tree ∧ result = .error (.present path) := by
  cases h with
  | present => exact ⟨rfl, rfl⟩
  | failed hfree => rw [hfree rfl] at hcontains; cases hcontains
  | done hfree => rw [hfree rfl] at hcontains; cases hcontains

/-- Where the path has led to something and it may not be replaced, it stays, and there is a fault. -/
theorem error_of_leadsTo (h : Installs tree path false after result) (hleads : tree.LeadsTo path place)
    (hentry : tree.get? place = some entry) : result ≠ .ok () ∧ tree.Grows after := by
  cases h with
  | present => exact ⟨nofun, .refl tree⟩
  | failed _ hpaves => exact ⟨nofun, hpaves.toGrows⟩
  | @done made parsed target hfree hpaves hparsed hplace hclosed hdirectory =>
    obtain ⟨parsed', hparsed', hplace'⟩ := hleads
    cases hparsed.symm.trans hparsed'
    have hcontains := Tree.contains_of_place hparsed hplace' hclosed hentry
    rw [hfree rfl] at hcontains
    cases hcontains

/-- Nothing is replaced that may not be, if the path has led somewhere before or there is no `..` in it. -/
theorem kept_of_unforced (h : Installs tree path false after result) (hg : tree.Grounded)
    (hpath : (∃ place, tree.LeadsTo path place) ∨
      ∀ parsed, Path.ofString path = .ok parsed → ".." ∉ parsed.names) : tree.Grows after := by
  cases h with
  | present => exact .refl tree
  | failed _ hpaves => exact hpaves.toGrows
  | @done made parsed target hfree hpaves hparsed hplace hclosed hdirectory =>
    have hnone : tree.get? target = none := by
      by_contra hsome
      obtain ⟨entry, hentry⟩ := Option.ne_none_iff_exists'.mp hsome
      have hbefore : tree.place parsed = .ok target := by
        rcases hpath with ⟨place, parsed', hparsed', hplace'⟩ | hnames
        · cases hparsed.symm.trans hparsed'
          obtain ⟨parsed', hparsed', hafter⟩ := hpaves.leadsTo ⟨parsed, hparsed, hplace'⟩
          cases hparsed.symm.trans hparsed'
          cases hplace.symm.trans hafter
          exact hplace'
        · rw [Tree.place, hpaves.start_eq] at hplace
          exact hg.walk_of_grows hpaves.toGrows (hnames parsed hparsed) hentry hplace
      have hcontains := Tree.contains_of_place hparsed hbefore hclosed hentry
      rw [hfree rfl] at hcontains
      cases hcontains
    refine ⟨hpaves.here, fun place entry hentry => ?_⟩
    have hne : place ≠ target := by
      rintro rfl
      rw [hnone] at hentry
      cases hentry
    rw [Tree.get?_put_ne _ _ hne]
    exact hpaves.kept place entry hentry

end Installs

theorem grounded_install {tree : Tree} (hg : tree.Grounded) (path : String) (force : Bool) :
    (install tree path force).1.Grounded := by
  have hparents := hg.makeParents path
  unfold install
  split
  · exact hg
  · cases hmade : tree.makeParents path with
    | mk made result =>
      rw [hmade] at hparents
      cases result with
      | error fault => exact hparents
      | ok _ =>
        simp only
        cases hwrite : made.write path template.toUTF8 with
        | error fault => exact hparents
        | ok written => exact hparents.write hwrite

end Config

/-! ## Runs -/

namespace Invocation

/-- What a run does to the files. -/
structure TouchesOnlyConfig (invocation : Invocation) (world : World) : Prop where
  /-- No other command changes anything. -/
  other : (∀ force, invocation.command ≠ .initConfig force) → (invocation.run world).tree = world.tree
  /-- What was there and has changed is a file, and the path of the configuration leads to it. -/
  changed : ∀ place entry, world.tree.get? place = some entry →
    (invocation.run world).tree.get? place ≠ some entry →
      (∃ bytes, entry = .file bytes) ∧
        (invocation.run world).tree.LeadsTo world.environment.configPath place
  /-- What is new is the configuration, or a directory on the way to it. -/
  new : ∀ place, world.tree.get? place = none → (invocation.run world).tree.get? place ≠ none →
    (invocation.run world).failure = none ∧
        (invocation.run world).tree.LeadsTo world.environment.configPath place ∨
      (invocation.run world).tree.get? place = some .directory ∧
        (invocation.run world).tree.OnTheWay world.environment.configPath place
  /-- The configuration is the one for a start. -/
  written : ∀ force, invocation.command = .initConfig force → (invocation.run world).failure = none →
    (invocation.run world).tree.read world.environment.configPath = .ok Config.template.toUTF8
  /-- Something that is seen at the path beforehand stays, with all else. -/
  present : invocation.command = .initConfig false →
    world.tree.contains world.environment.configPath = true →
      (invocation.run world).tree = world.tree ∧
        (invocation.run world).failure = some (.config (.present world.environment.configPath))
  /-- The run fails too where the path leads to something but asks for a directory. -/
  fails : invocation.command = .initConfig false → ∀ place entry,
    world.tree.LeadsTo world.environment.configPath place → world.tree.get? place = some entry →
      (invocation.run world).failure ≠ none ∧ (invocation.run world).tree.get? place = some entry
  /-- Nothing is replaced, if the path leads somewhere beforehand or there is no `..` in it. -/
  kept : invocation.command = .initConfig false → world.tree.Grounded →
    ((∃ place, world.tree.LeadsTo world.environment.configPath place) ∨
      ∀ parsed, Path.ofString world.environment.configPath = .ok parsed → ".." ∉ parsed.names) →
    ∀ place entry, world.tree.get? place = some entry → (invocation.run world).tree.get? place = some entry

variable {invocation : Invocation} {world : World}

theorem tree_outcomeOf (world : World) (result : Except Failure Written) :
    (outcomeOf world result).tree = world.tree := by
  cases result <;> rfl

theorem tree_run_of_ne (h : ∀ force, invocation.command ≠ .initConfig force) :
    (invocation.run world).tree = world.tree := by
  unfold run
  split
  · exact tree_outcomeOf world _
  · exact tree_outcomeOf world _
  · rfl
  · rfl
  · rfl
  · next force hcommand => exact absurd hcommand (h force)
  · rfl

/-- Setting up the configuration ends as putting the file for a start at its path does. -/
theorem installs_run {force : Bool} (h : invocation.command = .initConfig force) :
    (∃ fault, Config.Installs world.tree world.environment.configPath force (invocation.run world).tree
        (.error fault) ∧ (invocation.run world).failure = some (.config fault)) ∨
      Config.Installs world.tree world.environment.configPath force (invocation.run world).tree (.ok ()) ∧
        (invocation.run world).failure = none := by
  have hinstalls := Config.installs world.tree world.environment.configPath force
  simp only [run, h]
  cases hinstall : Config.install world.tree world.environment.configPath force with
  | mk after result =>
    rw [hinstall] at hinstalls
    cases result with
    | error fault => exact .inl ⟨fault, hinstalls, rfl⟩
    | ok _ => exact .inr ⟨hinstalls, rfl⟩

/-- Of all that was there a run replaces at most the configuration, and only `initConfig` changes anything. -/
theorem touchesOnlyConfig (invocation : Invocation) (world : World) : invocation.TouchesOnlyConfig world := by
  by_cases hinit : ∃ force, invocation.command = .initConfig force
  · obtain ⟨force, hforce⟩ := hinit
    obtain ⟨result, hinstalls, hfailure⟩ : ∃ result, Config.Installs world.tree world.environment.configPath
        force (invocation.run world).tree result ∧
          (result = .ok () ↔ (invocation.run world).failure = none) := by
      rcases installs_run hforce with ⟨fault, hinstalls, hfailure⟩ | ⟨hinstalls, hfailure⟩
      · exact ⟨_, hinstalls, by simp [hfailure]⟩
      · exact ⟨_, hinstalls, by simp [hfailure]⟩
    constructor
    · intro hother
      exact absurd hforce (hother force)
    · intro place entry hentry hne
      exact hinstalls.exists_of_ne hentry hne
    · intro place hnone hsome
      rw [← hfailure]
      exact hinstalls.new hnone hsome
    · intro _ _ hnone
      obtain rfl := hfailure.mpr hnone
      exact hinstalls.read
    · intro hunforced hcontains
      obtain rfl : force = false := Command.initConfig.inj (hforce.symm.trans hunforced)
      rcases installs_run hforce with ⟨fault, hinstalls, hfailure⟩ | ⟨hinstalls, -⟩
      · obtain ⟨htree, hfault⟩ := hinstalls.eq_of_contains hcontains
        exact ⟨htree, by rw [hfailure, Except.error.inj hfault]⟩
      · cases (hinstalls.eq_of_contains hcontains).2
    · intro hunforced place entry hleads hentry
      obtain rfl : force = false := Command.initConfig.inj (hforce.symm.trans hunforced)
      obtain ⟨herror, hgrows⟩ := hinstalls.error_of_leadsTo hleads hentry
      exact ⟨fun hnone => herror (hfailure.mpr hnone), hgrows.kept place entry hentry⟩
    · intro hunforced hg hpath
      obtain rfl : force = false := Command.initConfig.inj (hforce.symm.trans hunforced)
      exact (hinstalls.kept_of_unforced hg hpath).kept
  · have hne : ∀ force, invocation.command ≠ .initConfig force := fun force h => hinit ⟨force, h⟩
    have htree : (invocation.run world).tree = world.tree := tree_run_of_ne hne
    constructor
    · intro _
      exact htree
    · intro place entry hentry hchanged
      rw [htree] at hchanged
      exact absurd hentry hchanged
    · intro place hnone hsome
      rw [htree] at hsome
      exact absurd hnone hsome
    · intro force h
      exact absurd h (hne force)
    · intro h
      exact absurd h (hne false)
    · intro h
      exact absurd h (hne false)
    · intro h
      exact absurd h (hne false)

/-- With the data in `a.txt` and the configuration to be in `rf/config.toml`, which is not there, setting up the
configuration leaves the data as it is and writes the file for a start. -/
theorem touchesOnlyConfig_of_init :
    let tree := Tree.ofFiles [] [(["a.txt"], "mine\n".toUTF8)]
    let world : World := ⟨⟨some "rf/config.toml", none, none, none, ""⟩, tree, ByteArray.empty⟩
    let invocation : Invocation := ⟨.initConfig false, false, false, false, false, false⟩
    (invocation.run world).tree.get? ["a.txt"] = some (.file "mine\n".toUTF8) ∧
      (invocation.run world).tree.read "rf/config.toml" = .ok Config.template.toUTF8 := by
  intro tree world invocation
  have hframe := touchesOnlyConfig invocation world
  refine ⟨?_, hframe.written false rfl (by decide +kernel)⟩
  have hgrounded : tree.Grounded := Tree.grounded_of_entries (by decide +kernel)
  have hparsed : Path.ofString "rf/config.toml" = .ok ⟨false, ["rf", "config.toml"], false⟩ := by decide +kernel
  have hnames : ∀ parsed, Path.ofString "rf/config.toml" = .ok parsed → ".." ∉ parsed.names := by
    intro parsed h
    cases hparsed.symm.trans h
    decide
  exact hframe.kept rfl hgrounded (.inr hnames) ["a.txt"] _ (by decide +kernel)

/-- A file is replaced though that is not asked for. Its path leads to it once `newdir` has been made, and before
that to nothing. -/
theorem run_replaces_file :
    let tree := Tree.ofFiles [] [(["a.txt"], "mine\n".toUTF8)]
    let world : World := ⟨⟨some "newdir/../a.txt", none, some "home", none, ""⟩, tree, ByteArray.empty⟩
    ∃ invocation, ofArguments ["config", "init"] = .ok invocation ∧
      invocation.command = .initConfig false ∧
      world.tree.get? ["a.txt"] = some (.file "mine\n".toUTF8) ∧
      (invocation.run world).failure = none ∧
      (invocation.run world).tree.get? ["a.txt"] = some (.file Config.template.toUTF8) ∧
      Config.template.toUTF8 ≠ "mine\n".toUTF8 := by
  refine ⟨⟨.initConfig false, false, false, false, false, false⟩, by decide +kernel, rfl, by decide +kernel,
    by decide +kernel, rfl, by decide +kernel⟩

/-! ## Trees without gaps -/

/-- No run leaves anything outside of a directory. -/
theorem grounded_run (invocation : Invocation) (hg : world.tree.Grounded) :
    (invocation.run world).tree.Grounded := by
  by_cases hinit : ∃ force, invocation.command = .initConfig force
  · obtain ⟨force, hforce⟩ := hinit
    have hinstall := Config.grounded_install hg world.environment.configPath force
    simp only [run, hforce]
    cases hresult : Config.install world.tree world.environment.configPath force with
    | mk after result =>
      rw [hresult] at hinstall
      cases result <;> exact hinstall
  · rwa [tree_run_of_ne fun force h => hinit ⟨force, h⟩]

end Invocation
end RowQuery
