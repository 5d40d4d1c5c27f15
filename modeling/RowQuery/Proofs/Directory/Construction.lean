import Mathlib.Data.List.Pairwise
import RowQuery.Proofs.Directory
import RowQuery.Proofs.Text.Numeral

/-!
Directories of declared columns.

* `Directory.Compatible`: declarations that can stand in one directory.
* `Directory.Offence`: what is wrong with a declaration that follows others.
* `Directory.Built`: what a directory is while declarations are added to it.
* `Directory.Built.of_buildFrom`, `Directory.Built.buildFrom_eq_error_iff`: how a run over more of them ends.
* `Directory.Built.resolve?_of_mem`, `Directory.Built.resolve?_eq_some_iff`: what keys stand for.
* `Directory.build_resolves_or_offends`: which declarations make a directory, and what it answers.
-/
namespace RowQuery

/-! ## Declarations -/

namespace Declaration

/-- The names that a declaration gives to a column. -/
def names : Declaration → List String
  | .skip => []
  | .column name fullName _ => name :: fullName.toList

/-- The index that a declaration gives to a column. -/
def index? : Declaration → Option Nat
  | .skip => none
  | .column _ _ index => index

/-- Whether a column is declared. -/
def isColumn : Declaration → Bool
  | .skip => false
  | .column .. => true

/-- Two declarations have no name in common, nor an index. -/
structure Apart (declaration other : Declaration) : Prop where
  names : ∀ name ∈ declaration.names, name ∉ other.names
  index : ∀ index, declaration.index? = some index → other.index? ≠ some index

variable {declaration other : Declaration}

theorem Apart.symm (h : declaration.Apart other) : other.Apart declaration :=
  ⟨fun name hn hn' => h.names name hn' hn, fun index hi hi' => h.index index hi' hi⟩

theorem apart_skip (declaration : Declaration) : declaration.Apart .skip :=
  ⟨fun _ _ => List.not_mem_nil, fun _ _ h => nomatch h⟩

theorem isColumn_of_mem_names {name : String} (h : name ∈ declaration.names) :
    declaration.isColumn = true := by
  cases declaration with
  | skip => cases h
  | column => rfl

theorem isColumn_of_index? {index : Nat} (h : declaration.index? = some index) :
    declaration.isColumn = true := by
  cases declaration with
  | skip => cases h
  | column => rfl

end Declaration

/-- What a column was declared as. -/
def Column.declaration (column : Column) : Declaration :=
  .column column.name column.fullName column.index

namespace Directory

variable {declarations before rest : List Declaration} {declaration : Declaration}
  {directory next : Directory} {column : Column} {e : DirectoryError} {key name : String} {index : Nat}

/-- Every column has a name that is not empty, and no name and no index is given twice. A column may have
one text as its name and its full name. -/
structure Compatible (declarations : List Declaration) : Prop where
  named : ∀ fullName index, .column "" fullName index ∉ declarations
  apart : declarations.Pairwise Declaration.Apart

/-- Some declaration gives a name. -/
def IsTaken (declarations : List Declaration) (name : String) : Prop :=
  ∃ declaration ∈ declarations, name ∈ declaration.names

/-- Some declaration gives an index. -/
def IsIndexTaken (declarations : List Declaration) (index : Nat) : Prop :=
  ∃ declaration ∈ declarations, declaration.index? = some index

/-- What is wrong with a declaration that follows others: the first of an empty name, a name that is taken, a
full name that is taken, and an index that is taken. -/
inductive Offence (before : List Declaration) : Declaration → DirectoryError → Prop
  | emptyName {fullName : Option String} {index : Option Nat} :
      Offence before (.column "" fullName index) (.emptyName before.length)
  | name {name : String} {fullName : Option String} {index : Option Nat} (hne : name ≠ "")
      (h : IsTaken before name) :
      Offence before (.column name fullName index) (.duplicateColumn name)
  | fullName {name fullName : String} {index : Option Nat} (hne : name ≠ "")
      (hname : ¬ IsTaken before name) (h : IsTaken before fullName) :
      Offence before (.column name (some fullName) index) (.duplicateColumn fullName)
  | index {name : String} {fullName : Option String} {index : Nat} (hne : name ≠ "")
      (hnames : ∀ name' ∈ name :: fullName.toList, ¬ IsTaken before name') (h : IsIndexTaken before index) :
      Offence before (.column name fullName (some index)) (.duplicateIndex index)

/-- An error is what is wrong with the first declaration that something is wrong with. -/
def FirstOffence (declarations : List Declaration) (e : DirectoryError) : Prop :=
  ∃ before declaration after, declarations = before ++ declaration :: after ∧ Compatible before ∧
    Offence before declaration e

theorem Compatible.of_append (h : Compatible (before ++ rest)) : Compatible before :=
  ⟨fun fullName index hmem => h.named fullName index (List.mem_append_left _ hmem),
    (List.pairwise_append.mp h.apart).1⟩

theorem Compatible.skip (h : Compatible before) : Compatible (before ++ [.skip]) where
  named fullName index hmem := h.named fullName index (by simpa using hmem)
  apart := List.pairwise_append.mpr ⟨h.apart, List.pairwise_singleton _ _, fun earlier _ other hother => by
    obtain rfl := List.mem_singleton.mp hother
    exact earlier.apart_skip⟩

/-- A declaration that nothing is wrong with goes with those before it. -/
theorem Compatible.concat (hc : Compatible before) (h : ∀ e, ¬ Offence before declaration e) :
    Compatible (before ++ [declaration]) := by
  cases declaration with
  | skip => exact hc.skip
  | column name fullName index? =>
    have hne : name ≠ "" := by
      rintro rfl
      exact h _ .emptyName
    have hname : ¬ IsTaken before name := fun htaken => h _ (.name hne htaken)
    have hnames : ∀ name' ∈ name :: fullName.toList, ¬ IsTaken before name' := by
      intro name' hn
      rcases List.mem_cons.mp hn with rfl | hn
      · exact hname
      · obtain rfl : fullName = some name' := Option.mem_toList.mp hn
        exact fun htaken => h _ (.fullName hne hname htaken)
    have hindex : ∀ index, index? = some index → ¬ IsIndexTaken before index := by
      rintro index rfl htaken
      exact h _ (.index hne hnames htaken)
    constructor
    · intro fullName' index' hmem
      rcases List.mem_append.mp hmem with hmem | hmem
      · exact hc.named fullName' index' hmem
      · obtain ⟨hempty, -⟩ := Declaration.column.inj (List.mem_singleton.mp hmem)
        exact hne hempty.symm
    · refine List.pairwise_append.mpr ⟨hc.apart, List.pairwise_singleton _ _, ?_⟩
      intro earlier hearlier other hother
      obtain rfl := List.mem_singleton.mp hother
      exact ⟨fun name' hn hn' => hnames name' hn' ⟨earlier, hearlier, hn⟩,
        fun index hi hi' => hindex index hi' ⟨earlier, hearlier, hi⟩⟩

/-- Declarations that something is wrong with are not compatible. -/
theorem Offence.not_compatible (h : Offence before declaration e) (rest : List Declaration) :
    ¬ Compatible (before ++ declaration :: rest) := by
  intro hc
  have hapart : ∀ earlier ∈ before, earlier.Apart declaration := fun earlier hearlier =>
    (List.pairwise_append.mp hc.apart).2.2 earlier hearlier declaration List.mem_cons_self
  cases h with
  | emptyName => exact hc.named _ _ (List.mem_append_right _ List.mem_cons_self)
  | name _ htaken =>
    obtain ⟨earlier, hearlier, hn⟩ := htaken
    exact (hapart earlier hearlier).names _ hn List.mem_cons_self
  | fullName _ _ htaken =>
    obtain ⟨earlier, hearlier, hn⟩ := htaken
    exact (hapart earlier hearlier).names _ hn (by simp [Declaration.names])
  | index _ _ htaken =>
    obtain ⟨earlier, hearlier, hi⟩ := htaken
    exact (hapart earlier hearlier).index _ hi rfl

theorem FirstOffence.not_compatible (h : FirstOffence declarations e) : ¬ Compatible declarations := by
  obtain ⟨before, declaration, after, rfl, -, hoffence⟩ := h
  exact hoffence.not_compatible after

/-- The first declaration that something is wrong with is the one at hand or a later one. -/
theorem exists_offence_cons_iff (hc : Compatible before) :
    (∃ middle other after, declaration :: rest = middle ++ other :: after ∧ Compatible (before ++ middle) ∧
        Offence (before ++ middle) other e) ↔
      Offence before declaration e ∨
        ∃ middle other after, rest = middle ++ other :: after ∧
          Compatible (before ++ [declaration] ++ middle) ∧
          Offence (before ++ [declaration] ++ middle) other e := by
  constructor
  · rintro ⟨middle, other, after, heq, hmiddle, ho⟩
    cases middle with
    | nil =>
      cases heq
      exact .inl (by rwa [List.append_nil] at ho)
    | cons _ middle =>
      cases heq
      rw [List.append_cons] at hmiddle ho
      exact .inr ⟨middle, other, after, rfl, hmiddle, ho⟩
  · rintro (ho | ⟨middle, other, after, rfl, hmiddle, ho⟩)
    · exact ⟨[], declaration, rest, rfl, by rwa [List.append_nil], by rwa [List.append_nil]⟩
    · rw [← List.append_cons] at hmiddle ho
      exact ⟨declaration :: middle, other, after, rfl, hmiddle, ho⟩

/-! ## Directories under construction -/

/-- A directory that has the columns of some declarations. -/
structure Built (declarations : List Declaration) (directory : Directory) : Prop where
  compatible : Compatible declarations
  columns_eq : directory.columns.map Column.declaration = declarations.filter Declaration.isColumn
  numbered : directory.Numbered
  placed : ∀ column ∈ directory.columns, declarations[column.position]? = some column.declaration

theorem built_empty : Built [] empty where
  compatible := ⟨fun _ _ => List.not_mem_nil, .nil⟩
  columns_eq := rfl
  numbered := numbered_empty
  placed _ h := nomatch h

namespace Built

variable (h : Built before directory)
include h

theorem mem_of_mem_columns (hc : column ∈ directory.columns) : column.declaration ∈ before := by
  have hmem : column.declaration ∈ directory.columns.map Column.declaration := List.mem_map_of_mem hc
  rw [h.columns_eq] at hmem
  exact (List.mem_filter.mp hmem).1

theorem exists_column (hd : declaration ∈ before) (hcolumn : declaration.isColumn = true) :
    ∃ column ∈ directory.columns, column.declaration = declaration := by
  rw [← List.mem_map, h.columns_eq]
  exact List.mem_filter.mpr ⟨hd, hcolumn⟩

theorem hasName_iff : directory.hasName name = true ↔ IsTaken before name := by
  simp only [hasName, List.any_eq_true, List.contains_iff_mem]
  constructor
  · rintro ⟨column, hc, hn⟩
    exact ⟨column.declaration, h.mem_of_mem_columns hc, hn⟩
  · rintro ⟨declaration, hd, hn⟩
    obtain ⟨column, hc, rfl⟩ := h.exists_column hd (Declaration.isColumn_of_mem_names hn)
    exact ⟨column, hc, hn⟩

theorem hasIndex_iff : directory.hasIndex index = true ↔ IsIndexTaken before index := by
  simp only [hasIndex, List.any_eq_true, beq_iff_eq]
  constructor
  · rintro ⟨column, hc, hi⟩
    exact ⟨column.declaration, h.mem_of_mem_columns hc, hi⟩
  · rintro ⟨declaration, hd, hi⟩
    obtain ⟨column, hc, rfl⟩ := h.exists_column hd (Declaration.isColumn_of_index? hi)
    exact ⟨column, hc, hi⟩

/-- The checks of one column, made on the directory, find what is wrong with its declaration. -/
theorem offence_of_conflict? (hp : column.position = before.length)
    (hc : directory.conflict? column = some e) : Offence before column.declaration e := by
  obtain ⟨name, fullName, index?, position, offset⟩ := column
  obtain rfl : position = before.length := hp
  unfold conflict? at hc
  split at hc
  · next hempty =>
    obtain rfl : name = "" := String.isEmpty_iff.mp hempty
    cases hc
    exact .emptyName
  · next hempty =>
    have hne : name ≠ "" := fun hname => hempty (String.isEmpty_iff.mpr hname)
    split at hc
    · next taken hfind =>
      cases hc
      have htaken : IsTaken before taken := h.hasName_iff.mp (List.find?_some hfind)
      rw [Column.names, List.find?_cons] at hfind
      split at hfind
      · cases hfind
        exact .name hne htaken
      · next hname =>
        have hfree : ¬ IsTaken before name := mt h.hasName_iff.mpr (Bool.eq_false_iff.mp hname)
        obtain rfl : fullName = some taken := Option.mem_toList.mp (List.mem_of_find?_eq_some hfind)
        exact .fullName hne hfree htaken
    · next hfind =>
      have hfree : ∀ name' ∈ name :: fullName.toList, ¬ IsTaken before name' := fun name' hn htaken =>
        List.find?_eq_none.mp hfind name' hn (h.hasName_iff.mpr htaken)
      split at hc
      · cases hc
      · next index hindex =>
        obtain rfl : index? = some index := hindex
        split at hc
        · next htaken =>
          cases hc
          exact .index hne hfree (h.hasIndex_iff.mp htaken)
        · cases hc

theorem conflict?_of_offence (hp : column.position = before.length)
    (ho : Offence before column.declaration e) : directory.conflict? column = some e := by
  obtain ⟨name, fullName, index?, position, offset⟩ := column
  obtain rfl : position = before.length := hp
  have hfalse {name : String} (hfree : ¬ IsTaken before name) : directory.hasName name = false :=
    Bool.eq_false_iff.mpr (mt h.hasName_iff.mp hfree)
  unfold conflict?
  cases ho with
  | emptyName => simp
  | name hne htaken => simp [hne, Column.names, h.hasName_iff.mpr htaken]
  | fullName hne hname htaken =>
    simp [hne, Column.names, hfalse hname, h.hasName_iff.mpr htaken]
  | index hne hnames htaken =>
    have hfind : (name :: fullName.toList).find? directory.hasName = none :=
      List.find?_eq_none.mpr fun name' hn => Bool.eq_false_iff.mp (hfalse (hnames name' hn))
    simp [hne, Column.names, hfind, h.hasIndex_iff.mpr htaken]

/-- A column that passes the checks goes with those before it. -/
theorem compatible_of_conflict? (hp : column.position = before.length)
    (hc : directory.conflict? column = none) : Compatible (before ++ [column.declaration]) := by
  refine h.compatible.concat fun e ho => ?_
  rw [h.conflict?_of_offence hp ho] at hc
  cases hc

/-! ## One declaration, and then more of them -/

theorem placed_append (rest : List Declaration) (hc : column ∈ directory.columns) :
    (before ++ rest)[column.position]? = some column.declaration := by
  have hplaced := h.placed column hc
  rwa [List.getElem?_append_left (List.getElem?_eq_some_iff.mp hplaced).1]

theorem skip : Built (before ++ [.skip]) directory where
  compatible := h.compatible.skip
  columns_eq := by
    rw [List.filter_append, h.columns_eq]
    exact (List.append_nil _).symm
  numbered := h.numbered
  placed _ := h.placed_append [.skip]

theorem add {fullName : Option String} {index : Option Nat}
    (hadd : directory.add before.length name fullName index = .ok next) :
    Built (before ++ [.column name fullName index]) next := by
  have hnumbered := h.numbered.add hadd
  simp only [Directory.add] at hadd
  split at hadd
  · cases hadd
  · next hconflict =>
    cases hadd
    constructor
    · exact h.compatible_of_conflict? rfl hconflict
    · rw [List.map_append, List.filter_append, h.columns_eq]
      rfl
    · exact hnumbered
    · intro column hc
      rcases List.mem_append.mp hc with hc | hc
      · exact h.placed_append _ hc
      · obtain rfl := List.mem_singleton.mp hc
        exact List.getElem?_concat_length

theorem add_eq_error_iff {fullName : Option String} {index : Option Nat} :
    directory.add before.length name fullName index = .error e ↔
      Offence before (.column name fullName index) e := by
  constructor
  · intro hadd
    simp only [Directory.add] at hadd
    split at hadd
    · next hconflict =>
      cases hadd
      exact h.offence_of_conflict? rfl hconflict
    · cases hadd
  · intro ho
    have hconflict : directory.conflict?
        ⟨name, fullName, index, before.length, directory.columns.length + 1⟩ = some e :=
      h.conflict?_of_offence rfl ho
    simp only [Directory.add, hconflict]

/-- A run that ends well has the columns of all declarations. -/
theorem of_buildFrom (hrun : directory.buildFrom before.length rest = .ok next) :
    Built (before ++ rest) next := by
  -- The invariant moves on with each declaration: what is built so far grows, what is left gets shorter.
  induction rest generalizing before directory with
  | nil =>
    cases hrun
    rwa [List.append_nil]
  | cons declaration rest ih =>
    rw [List.append_cons]
    cases declaration with
    | skip => exact ih h.skip (by rwa [List.length_append])
    | column name fullName index =>
      simp only [Directory.buildFrom, bind, Except.bind] at hrun
      cases hadd : directory.add before.length name fullName index with
      | error e => simp [hadd] at hrun
      | ok directory' =>
        rw [hadd] at hrun
        exact ih (h.add hadd) (by rwa [List.length_append])

/-- A run that fails stops at the first declaration that something is wrong with. -/
theorem buildFrom_eq_error_iff :
    directory.buildFrom before.length rest = .error e ↔
      ∃ middle declaration after, rest = middle ++ declaration :: after ∧ Compatible (before ++ middle) ∧
        Offence (before ++ middle) declaration e := by
  induction rest generalizing before directory with
  | nil => simp [Directory.buildFrom]
  | cons declaration rest ih =>
    rw [exists_offence_cons_iff h.compatible]
    cases declaration with
    | skip =>
      have hrest := ih h.skip
      rw [List.length_append] at hrest
      rw [← hrest]
      constructor
      · exact .inr
      · rintro (ho | hlater)
        · cases ho
        · exact hlater
    | column name fullName index =>
      have hfirst (e : DirectoryError) : directory.add before.length name fullName index = .error e ↔
          Offence before (.column name fullName index) e := h.add_eq_error_iff
      simp only [Directory.buildFrom, bind, Except.bind]
      cases hadd : directory.add before.length name fullName index with
      | error e' =>
        simp only [hadd] at hfirst
        constructor
        · intro heq
          exact .inl ((hfirst e).mp heq)
        · rintro (ho | ⟨middle, other, after, -, hc, -⟩)
          · exact (hfirst e).mpr ho
          -- A later one is not the first: what is before it would have to go together.
          · exact absurd hc.of_append (((hfirst e').mp rfl).not_compatible [])
      | ok directory' =>
        simp only [hadd] at hfirst
        have hrest := ih (h.add hadd)
        rw [List.length_append] at hrest
        rw [← hrest]
        constructor
        · exact .inr
        · rintro (ho | hlater)
          · cases (hfirst e).mpr ho
          · exact hlater

end Built

theorem built_of_build (h : build declarations = .ok directory) : Built declarations directory :=
  built_empty.of_buildFrom h

theorem build_eq_error_iff : build declarations = .error e ↔ FirstOffence declarations e :=
  built_empty.buildFrom_eq_error_iff

theorem exists_build_iff : (∃ directory, build declarations = .ok directory) ↔ Compatible declarations := by
  constructor
  · rintro ⟨directory, h⟩
    exact (built_of_build h).compatible
  · intro hc
    cases h : build declarations with
    | ok directory => exact ⟨directory, rfl⟩
    | error e => exact absurd hc (build_eq_error_iff.mp h).not_compatible

/-! ## What keys stand for -/

/-- The index that a key stands for is the number of which it is a numeral. -/
theorem indexOfKey?_eq_some_iff :
    indexOfKey? key = some index ↔ Text.IsNumeral key.toList index ∧ index < UInt64.size := by
  have hvalue : key.toList.foldl (fun n d => n * 10 + (d.toNat - 48)) 0 = Nat.ofDigitChars 10 key.toList 0 := by
    simp only [Nat.ofDigitChars, Nat.mul_comm]
    rfl
  rw [Text.isNumeral_iff]
  simp only [indexOfKey?, hvalue]
  constructor
  · intro h
    split at h
    · cases h
    · next hdigits =>
      simp only [Bool.or_eq_true, List.isEmpty_iff, Bool.not_eq_true', not_or, Bool.not_eq_false,
        List.all_eq_true] at hdigits
      split at h
      · next hlt =>
        cases h
        exact ⟨⟨hdigits.1, hdigits.2, rfl⟩, hlt⟩
      · cases h
  · rintro ⟨⟨hne, hdigits, rfl⟩, hlt⟩
    have hall : key.toList.all Char.isDigit = true := List.all_eq_true.mpr hdigits
    have hsome : key.toList.isEmpty = false := List.isEmpty_eq_false_iff.mpr hne
    rw [hall, hsome]
    exact if_pos hlt

/-- A key is a name of the column that it stands for, or it is no name at all. -/
theorem mem_names_or_of_resolve? (h : directory.resolve? key = some column) :
    key ∈ column.names ∨ ∀ other ∈ directory.columns, key ∉ other.names := by
  unfold resolve? at h
  split at h
  · next hfind =>
    cases h
    obtain rfl : column.name = key := by simpa using List.find?_some hfind
    exact .inl List.mem_cons_self
  · next hname =>
    split at h
    · next hfind =>
      cases h
      have hfull : column.fullName = some key := by simpa using List.find?_some hfind
      exact .inl (List.mem_cons_of_mem _ (Option.mem_toList.mpr hfull))
    · next hfullName =>
      refine .inr fun other ho hn => ?_
      rcases List.mem_cons.mp hn with rfl | hn
      · exact absurd (by simp) (List.find?_eq_none.mp hname other ho)
      · have hfull : other.fullName = some key := Option.mem_toList.mp hn
        exact absurd (by simp [hfull]) (List.find?_eq_none.mp hfullName other ho)

theorem resolve?_of_no_name (h : ∀ column ∈ directory.columns, key ∉ column.names) :
    directory.resolve? key =
      (indexOfKey? key).bind fun index => directory.columns.find? (·.index == some index) := by
  have hname : directory.columns.find? (·.name == key) = none :=
    List.find?_eq_none.mpr fun column hc heq => h column hc (by simp [Column.names, eq_of_beq heq])
  have hfullName : directory.columns.find? (·.fullName == some key) = none :=
    List.find?_eq_none.mpr fun column hc heq => h column hc (by simp [Column.names, eq_of_beq heq])
  rw [resolve?, hname, hfullName]
  cases indexOfKey? key with
  | none => rfl
  | some index => rfl

namespace Built

variable (h : Built declarations directory)
include h

theorem apart_columns :
    directory.columns.Pairwise fun column other => column.declaration.Apart other.declaration := by
  rw [← List.pairwise_map, h.columns_eq]
  exact h.compatible.apart.filter _

/-- Columns that share a name are the same, and so are columns that share an index. -/
theorem eq_of_not_apart {other : Column} (hc : column ∈ directory.columns) (ho : other ∈ directory.columns)
    (hapart : ¬ column.declaration.Apart other.declaration) : column = other := by
  have hsymm : Std.Symm fun column other : Column => column.declaration.Apart other.declaration :=
    ⟨fun _ _ => Declaration.Apart.symm⟩
  by_contra hne
  exact hapart (h.apart_columns.forall hc ho hne)

/-- A name stands for the column that has it. -/
theorem resolve?_of_mem (hc : column ∈ directory.columns) (hn : name ∈ column.names) :
    directory.resolve? name = some column := by
  obtain ⟨found, hfound⟩ := Option.isSome_iff_exists.mp (isSome_resolve?_of_mem hc hn)
  have hshared : name ∈ found.names :=
    (mem_names_or_of_resolve? hfound).resolve_right fun hno => hno column hc hn
  obtain rfl := h.eq_of_not_apart (mem_of_resolve? hfound) hc fun hapart => hapart.names name hshared hn
  exact hfound

theorem find?_index_eq_some_iff :
    directory.columns.find? (·.index == some index) = some column ↔
      column ∈ directory.columns ∧ column.index = some index := by
  constructor
  · intro hfind
    exact ⟨List.mem_of_find?_eq_some hfind, by simpa using List.find?_some hfind⟩
  · rintro ⟨hc, hi⟩
    cases hfind : directory.columns.find? (·.index == some index) with
    | none => exact absurd (by simpa using hi) (List.find?_eq_none.mp hfind column hc)
    | some found =>
      have hfound : found.index = some index := by simpa using List.find?_some hfind
      exact congrArg some (h.eq_of_not_apart (List.mem_of_find?_eq_some hfind) hc fun hapart =>
        hapart.index index hfound hi)

/-- A key that is no name stands for the column whose index it is, if there is one. -/
theorem resolve?_eq_some_iff (hno : ∀ column ∈ directory.columns, key ∉ column.names) :
    directory.resolve? key = some column ↔
      column ∈ directory.columns ∧
        ∃ index < UInt64.size, column.index = some index ∧ Text.IsNumeral key.toList index := by
  rw [resolve?_of_no_name hno, Option.bind_eq_some_iff]
  simp only [indexOfKey?_eq_some_iff, h.find?_index_eq_some_iff]
  constructor
  · rintro ⟨index, ⟨hnumeral, hlt⟩, hc, hi⟩
    exact ⟨hc, index, hlt, hi, hnumeral⟩
  · rintro ⟨hc, index, hlt, hi, hnumeral⟩
    exact ⟨index, ⟨hnumeral, hlt⟩, hc, hi⟩

theorem byOffset?_eq_some_iff {offset : Nat} :
    directory.byOffset? offset = some column ↔ column ∈ directory.columns ∧ column.offset = offset := by
  constructor
  · intro hoffset
    cases offset with
    | zero => cases hoffset
    | succ i => exact ⟨List.mem_of_getElem? hoffset, h.numbered i column hoffset⟩
  · rintro ⟨hc, rfl⟩
    obtain ⟨i, hi⟩ := List.mem_iff_getElem?.mp hc
    rw [h.numbered i column hi]
    exact hi

end Built

/-- Declarations make a directory exactly if they are compatible, and if they do not, the error is that of the
first declaration that something is wrong with. The directory has the declared columns in their order: each at
the offset of its place among them, and at the position of its declaration, which is the number of declarations
before it. A name or full name of a column stands for that column. Any other key stands for the column that was
declared with the index of which the key is a numeral, and where there is no such index or column, for none. -/
theorem build_resolves_or_offends (declarations : List Declaration) :
    ((∃ directory, build declarations = .ok directory) ↔ Compatible declarations) ∧
    (∀ e, build declarations = .error e ↔ FirstOffence declarations e) ∧
    ∀ directory, build declarations = .ok directory →
      directory.columns.map Column.declaration = declarations.filter Declaration.isColumn ∧
      (∀ (i : Nat) column, directory.columns[i]? = some column →
        column.offset = i + 1 ∧ declarations[column.position]? = some column.declaration) ∧
      (∀ offset column, directory.byOffset? offset = some column ↔
        column ∈ directory.columns ∧ column.offset = offset) ∧
      (∀ column ∈ directory.columns, ∀ name ∈ column.names, directory.resolve? name = some column) ∧
      ∀ key, (∀ column ∈ directory.columns, key ∉ column.names) →
        ∀ column, directory.resolve? key = some column ↔
          column ∈ directory.columns ∧
            ∃ index < UInt64.size, column.index = some index ∧ Text.IsNumeral key.toList index := by
  refine ⟨exists_build_iff, fun e => build_eq_error_iff, fun directory h => ?_⟩
  have hbuilt : Built declarations directory := built_of_build h
  refine ⟨hbuilt.columns_eq, fun i column hi => ?_, fun _ _ => hbuilt.byOffset?_eq_some_iff,
    fun _ hc _ hn => hbuilt.resolve?_of_mem hc hn, fun _ hno _ => hbuilt.resolve?_eq_some_iff hno⟩
  exact ⟨hbuilt.numbered i column hi, hbuilt.placed column (List.mem_of_getElem? hi)⟩

end Directory
end RowQuery
