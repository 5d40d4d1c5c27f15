import RowQuery.Proofs.Directory
import RowQuery.Proofs.Query.Qualifier
import RowQuery.Proofs.Query.Unchecked

/-!
The errors of queries that are refused only for the names of columns.

* `Token.openings`: the colons at the start of a text or after white space.
* `Grammar.Columns`: the columns of a query, if names are not checked.
* `Grammar.Apparent`: the columns stand at such colons, and nothing else does.
* `Grammar.Columns.sees`: then the names of the columns are the names that are looked for.
* `Query.error_of_parseUnchecked?`: the error of such a query.

The columns of a query are found by the grammar, and the names in a query that is refused by another
search. A query such as `a:x b`, where no white space comes before a column, shows the difference.
-/
namespace RowQuery

open Text (Blank Solid)

namespace Token

variable {fresh : Bool} {c : Char} {p s w r x : List Char} {keys : List (List Char)}

/-- The parts of a text that begin at a colon which stands at the start or after white space. At the start
of a part of a text it is told whether a colon there counts. -/
def openings : Bool → List Char → List (List Char)
  | _, [] => []
  | fresh, c :: r => (if fresh && c == ':' then [c :: r] else []) ++ openings (Text.isBlank c) r

/-- Whether a colon counts behind a text. -/
def after (fresh : Bool) (s : List Char) : Bool := s.foldl (fun _ c => Text.isBlank c) fresh

theorem openings_append (fresh : Bool) (p r : List Char) :
    openings fresh (p ++ r) = (openings fresh p).map (· ++ r) ++ openings (after fresh p) r := by
  induction p generalizing fresh with
  | nil => rfl
  | cons c p ih =>
    rw [List.cons_append, openings, openings, ih, List.map_append, List.append_assoc]
    congr 1
    split <;> rfl

/-- Such a part is a part that the text ends with. -/
theorem suffix_of_mem_openings (h : x ∈ openings fresh s) : x <:+ s ∧ x ≠ [] := by
  induction s generalizing fresh with
  | nil => cases h
  | cons c s ih =>
    rcases List.mem_append.mp h with h | h
    · split at h
      · obtain rfl := List.mem_singleton.mp h
        exact ⟨List.suffix_rfl, List.cons_ne_nil _ _⟩
      · cases h
    · exact ⟨(ih h).1.trans (List.suffix_cons _ _), (ih h).2⟩

theorem openings_eq_nil (h : ':' ∉ s) (fresh : Bool) : openings fresh s = [] := by
  induction s generalizing fresh with
  | nil => rfl
  | cons c s ih =>
    have hc : c ≠ ':' := fun hc => h (by simp [hc])
    rw [openings, ih fun hs => h (List.mem_cons_of_mem _ hs)]
    simp [hc]

/-- A colon at the start counts only if it is told to. -/
theorem eq_true_of_mem_openings (h : s ∈ openings fresh s) : fresh = true := by
  cases s with
  | nil => cases h
  | cons c s =>
    rcases List.mem_append.mp h with h | h
    · cases fresh with
      | true => rfl
      | false => cases h
    · have hlength := (suffix_of_mem_openings h).1.length_le
      exact absurd hlength (Nat.not_succ_le_self _)

theorem after_append (fresh : Bool) (p r : List Char) :
    after fresh (p ++ r) = after (after fresh p) r := List.foldl_append

theorem after_of_solid (h : Solid p) (fresh : Bool) : after fresh p = false := by
  have hp : p = p.dropLast ++ [p.getLast h.ne_nil] := (List.dropLast_append_getLast h.ne_nil).symm
  rw [after, hp, List.foldl_append]
  exact h.last _ (List.getLast?_eq_some_getLast h.ne_nil)

theorem colon_not_mem_of_blank (hw : Blank w) : ':' ∉ w := fun h => absurd (hw ':' h) (by decide)

/-- No name is found in a part of a text without colons that count. -/
theorem firstSeen_append (h : openings fresh p = []) (r : List Char) :
    firstSeen fresh (p ++ r) = firstSeen (after fresh p) r := by
  induction p generalizing fresh with
  | nil => rfl
  | cons c p ih =>
    obtain ⟨hc, hp⟩ := List.append_eq_nil_iff.mp h
    have hnone : (if fresh then qualifier? (c :: (p ++ r)) else none) = none := by
      cases fresh with
      | false => rfl
      | true => exact qualifier?_eq_none (by simpa using hc) _
    rw [List.cons_append, firstSeen, hnone, Option.none_or]
    exact ih hp

theorem firstSeen_of_qualifier? {b : List Char × List Char} (h : qualifier? s = some b) :
    firstSeen true s = some b := by
  cases s with
  | nil => cases h
  | cons c s =>
    rw [firstSeen, if_pos rfl, h]
    rfl

theorem Sees.of_append (h : openings fresh p = []) (hr : Sees (after fresh p) r keys) :
    Sees fresh (p ++ r) keys := by
  have hseen := firstSeen_append h r
  cases hr with
  | nil hr => exact .nil (hseen.trans hr)
  | cons hr hrest => exact .cons (hseen.trans hr) hrest

end Token

theorem Scan.Cut.suffix {s k r : List Char} (h : Scan.Cut s k r) : r <:+ s := by
  obtain ⟨w, -, hs⟩ := h.split
  exact .trans ⟨k ++ w, by rw [hs, List.append_assoc]⟩ (Text.trimStart_suffix s)

namespace Grammar

open Token (name? quotedName? qualifier? plainName? openings after Sees)

variable {fresh : Bool} {known : String → Bool} {s p r rest : List Char} {key : String} {term : Term}
  {terms : List Term}

/-! ## The columns of a query -/

/-- A column in a query: the text from its colon on, its name, and the text behind its name. -/
structure ColumnAt where
  place : List Char
  key : String
  rest : List Char

/-- The columns of a text that is read to its end if names are not checked. The column of a term stands
at the first colon of it. -/
inductive Columns : List Char → List Term → List ColumnAt → Prop
  | nil : Columns [] [] []
  | bare {s r : List Char} {term : Term} {terms : List Term} {columns : List ColumnAt}
      (h : scanTermWhere anyName s = some (term, r)) (hc : term.column = none)
      (hr : Columns r terms columns) : Columns s (term :: terms) columns
  | column {s r rest : List Char} {key : String} {term : Term} {terms : List Term}
      {columns : List ColumnAt} (h : scanTermWhere anyName s = some (term, r))
      (hc : term.column = some key)
      (hk : scanColumnWhere anyName (s.dropWhile (· != ':')) = some (key, rest))
      (hr : Columns r terms columns) :
      Columns s (term :: terms) (⟨s.dropWhile (· != ':'), key, rest⟩ :: columns)

/-- The columns of a text stand at colons that count, all other colons that count stand in their names,
and there is no quotation mark in the names. -/
structure Apparent (fresh : Bool) (s : List Char) (columns : List ColumnAt) : Prop where
  opens : ∀ column ∈ columns, column.place ∈ openings fresh s
  inside : ∀ place ∈ openings fresh s, ∃ column ∈ columns,
    column.rest.length < place.length ∧ place.length ≤ column.place.length
  unquoted : ∀ column ∈ columns, '"' ∉ column.key.toList

theorem dropWhile_of_head? (h : s.head? = some ':') : s.dropWhile (· != ':') = s := by
  obtain ⟨t, rfl⟩ := List.head?_eq_some_iff.mp h
  rfl

/-- Up to a column there is no other colon. -/
theorem dropWhile_append (hp : ':' ∉ p) (h : s.head? = some ':') :
    (p ++ s).dropWhile (· != ':') = s := by
  rw [List.dropWhile_append_of_pos, dropWhile_of_head? h]
  intro c hc
  simpa using fun he : c = ':' => hp (he ▸ hc)

/-- The column of a term stands at its first colon, and the rest of the term behind it. -/
theorem ReadsTerm.column_at (h : ReadsTerm known s r term) (hc : term.column = some key) :
    ∃ rest, scanColumnWhere known (s.dropWhile (· != ':')) = some (key, rest) ∧ r <:+ rest := by
  obtain ⟨w, hw, hs⟩ := Text.exists_eq_append_trimStart s
  cases h with
  | @negated _ _ _ _ _ y hnot hcolumn hpattern =>
    cases hc
    obtain ⟨t, ht, rfl⟩ := exists_of_scanNot hnot
    obtain ⟨w', hw', ht'⟩ := Text.exists_eq_append_trimStart t
    have hcolon := head?_of_scanColumnWhere hcolumn
    rw [Text.trimStart_trimStart] at hcolon
    have hplace : s.dropWhile (· != ':') = Text.trimStart t := by
      have hsplit : s = (w ++ (['N', 'O', 'T'] ++ w')) ++ Text.trimStart t := by
        rw [List.append_assoc, List.append_assoc, ← ht']
        exact hs.trans (congrArg (w ++ ·) ht)
      rw [hsplit, dropWhile_append _ hcolon]
      simp [Token.colon_not_mem_of_blank hw, Token.colon_not_mem_of_blank hw']
    obtain ⟨k, hk, -⟩ := begins_scanPattern hpattern
    exact ⟨y, by rw [hplace, hcolumn], hk.toCut.suffix⟩
  | @column _ _ _ _ y hcolumn hnegatable =>
    cases hc
    have hplace : s.dropWhile (· != ':') = Text.trimStart s := by
      rw [← dropWhile_append (Token.colon_not_mem_of_blank hw) (head?_of_scanColumnWhere hcolumn), ← hs]
    have hstart : scanColumnWhere known (Text.trimStart s) = scanColumnWhere known s := by
      simp only [scanColumnWhere, Scan.orElse, Scan.keep, Scan.trim_trimStart]
    obtain ⟨k, hk, -⟩ := ends_scanNegatable hnegatable
    exact ⟨y, by rw [hplace, hstart, hcolumn], hk.toCut.suffix⟩
  | bare => cases hc

theorem ReadsTerm.suffix_of_bare (h : ReadsTerm known s r term) (hc : term.column = none) : r <:+ s := by
  cases h with
  | negated => cases hc
  | column => cases hc
  | bare _ hnegatable =>
    obtain ⟨k, hk, -⟩ := ends_scanNegatable hnegatable
    exact hk.toCut.suffix

/-- The text from the first colon on begins with it. -/
theorem head?_place (h : scanColumnWhere known (s.dropWhile (· != ':')) = some (key, rest)) :
    (s.dropWhile (· != ':')).head? = some ':' := by
  have hnot := List.head?_dropWhile_not (· != ':') s
  cases hplace : s.dropWhile (· != ':') with
  | nil =>
    rw [hplace] at h
    exact absurd (head?_of_scanColumnWhere h) (by simp)
  | cons c r =>
    rw [hplace] at hnot
    simpa using hnot

/-- Every text that is read to its end has its columns. -/
theorem exists_columns (h : (scanTermWhere anyName).Chain s terms) :
    ∃ columns, Columns s terms columns := by
  induction h with
  | nil => exact ⟨[], .nil⟩
  | @cons s r term terms hterm _ ih =>
    obtain ⟨columns, hr⟩ := ih
    cases hc : term.column with
    | none => exact ⟨columns, .bare hterm hc hr⟩
    | some key =>
      obtain ⟨rest, hk, -⟩ := (scanTermWhere_eq_some_iff.mp hterm).column_at hc
      exact ⟨_, .column hterm hc hk hr⟩

theorem Columns.keys {columns : List ColumnAt} (h : Columns s terms columns) :
    columns.map ColumnAt.key = terms.filterMap Term.column := by
  induction h with
  | nil => rfl
  | bare _ hc _ ih => rw [ih, List.filterMap_cons_none hc]
  | column _ hc _ _ ih => rw [List.map_cons, ih, List.filterMap_cons_some hc]

theorem Columns.length_le {columns : List ColumnAt} (h : Columns s terms columns) :
    ∀ column ∈ columns, column.place.length ≤ s.length := by
  induction h with
  | nil => simp
  | bare hterm _ _ ih =>
    intro column hcolumn
    have hshorter := shrinks_scanTermWhere anyName _ _ _ hterm
    exact Nat.le_of_lt (Nat.lt_of_le_of_lt (ih column hcolumn) hshorter)
  | column hterm _ _ _ ih =>
    intro column hcolumn
    have hshorter := shrinks_scanTermWhere anyName _ _ _ hterm
    rcases List.mem_cons.mp hcolumn with rfl | hcolumn
    · exact (List.dropWhile_suffix _).length_le
    · exact Nat.le_of_lt (Nat.lt_of_le_of_lt (ih column hcolumn) hshorter)

/-! ## The names that are looked for -/

/-- A column without a quotation mark in its name is found by both. -/
theorem qualifier?_of_scanColumnWhere (hs : s.head? = some ':')
    (h : scanColumnWhere anyName s = some (key, rest)) (hq : '"' ∉ key.toList) :
    ∃ k r, s = k ++ r ∧ Solid k ∧ qualifier? s = some (key.toList, r) ∧ Text.trimStart r = rest := by
  have htrim : Text.trimStart s = s := by
    obtain ⟨t, rfl⟩ := List.head?_eq_some_iff.mp hs
    exact Text.trimStart_cons_ink (by decide) t
  rw [scanColumnWhere_anyName] at h
  rcases Option.or_eq_some_iff.mp h with h | ⟨hnone, h⟩
  · obtain ⟨r, h, hrest⟩ := Scan.trim_eq_some_iff.mp h
    obtain ⟨body, hbody, rfl⟩ := Scan.map_eq_some_iff.mp h
    rw [htrim] at hbody
    obtain ⟨k, hsplit, hk, -⟩ := Token.settled_quotedName? s body r hbody
    refine ⟨k, r, hsplit, hk, ?_, hrest⟩
    rw [String.toList_ofList, qualifier?, Scan.orElse, hbody]
    rfl
  · obtain ⟨r, h, hrest⟩ := Scan.trim_eq_some_iff.mp h
    obtain ⟨body, hbody, rfl⟩ := Scan.map_eq_some_iff.mp h
    rw [htrim] at hbody
    rw [String.toList_ofList] at hq ⊢
    obtain ⟨k, hsplit, hk, -⟩ := Token.settled_name? s body r hbody
    -- The search prefers a name in quotes too, and the other names end alike without a quotation mark.
    have hquoted : quotedName? s = none := by
      have hmap := Option.map_eq_none_iff.mp hnone
      rw [htrim] at hmap
      exact Scan.map_eq_none_iff.mp hmap
    refine ⟨k, r, hsplit, hk, ?_, hrest⟩
    obtain ⟨t, rfl⟩ := List.head?_eq_some_iff.mp hs
    have hrun : Token.run? Token.isNameChar t = some (body, r) := hbody
    obtain ⟨ht, hne, hall, hhead⟩ := Token.run?_eq_some_iff.mp hrun
    rw [qualifier?, Scan.orElse, hquoted, Option.none_or, plainName?, if_pos rfl]
    refine Token.run?_eq_some_iff.mpr ⟨ht, hne, fun c hc => ?_, fun c hc => ?_⟩
    · have hmark : c ≠ '"' := fun he => hq (he ▸ hc)
      rw [Token.isPlainChar_eq, hall c hc]
      simpa using hmark
    · rw [Token.isPlainChar_eq, hhead c hc]
      rfl

/-- In a part of a text without columns no colon counts, and behind it the columns are as apparent. -/
theorem Apparent.drop {columns : List ColumnAt} (h : Apparent fresh (p ++ r) columns)
    (hin : ∀ column ∈ columns, column.place.length ≤ r.length) :
    openings fresh p = [] ∧ Apparent (after fresh p) r columns := by
  -- A colon that counts lies in a column, and the columns begin behind this part.
  have hnone : openings fresh p = [] := by
    rw [List.eq_nil_iff_forall_not_mem]
    intro x hx
    have hmem : x ++ r ∈ openings fresh (p ++ r) := by
      rw [Token.openings_append]
      exact List.mem_append_left _ (List.mem_map_of_mem hx)
    obtain ⟨column, hcolumn, -, hle⟩ := h.inside _ hmem
    have hlength := List.length_pos_iff.mpr (Token.suffix_of_mem_openings hx).2
    have hplace := hin column hcolumn
    rw [List.length_append] at hle
    omega
  have hrest : openings fresh (p ++ r) = openings (after fresh p) r := by
    rw [Token.openings_append, hnone, List.map_nil, List.nil_append]
  exact ⟨hnone, hrest ▸ h.opens, hrest ▸ h.inside, h.unquoted⟩

/-- Behind a column the others are as apparent. -/
theorem Apparent.behind {place : List Char} {columns : List ColumnAt}
    (h : Apparent fresh (p ++ rest) (⟨place, key, rest⟩ :: columns))
    (hin : ∀ column ∈ columns, column.place.length ≤ rest.length) :
    Apparent (after fresh p) rest columns where
  opens := by
    intro column hcolumn
    have hmem := h.opens column (List.mem_cons_of_mem _ hcolumn)
    rw [Token.openings_append] at hmem
    rcases List.mem_append.mp hmem with hmem | hmem
    · -- What begins before the end of the name is longer than what follows it.
      obtain ⟨x, hx, hplace⟩ := List.mem_map.mp hmem
      have hlength := List.length_pos_iff.mpr (Token.suffix_of_mem_openings hx).2
      have hle := hin column hcolumn
      rw [← hplace, List.length_append] at hle
      omega
    · exact hmem
  inside := by
    intro place hplace
    have hmem : place ∈ openings fresh (p ++ rest) := by
      rw [Token.openings_append]
      exact List.mem_append_right _ hplace
    obtain ⟨column, hcolumn, hlt, hle⟩ := h.inside place hmem
    rcases List.mem_cons.mp hcolumn with rfl | hcolumn
    · exact absurd (Token.suffix_of_mem_openings hplace).1.length_le (Nat.not_le_of_lt hlt)
    · exact ⟨column, hcolumn, hlt, hle⟩
  unquoted := fun column hcolumn => h.unquoted column (List.mem_cons_of_mem _ hcolumn)

/-- The name of the first column is found, and then those behind it. -/
theorem Apparent.sees_column {u place : List Char} {columns : List ColumnAt}
    (h : Apparent fresh (u ++ place) (⟨place, key, rest⟩ :: columns)) (hcolon : place.head? = some ':')
    (hk : scanColumnWhere anyName place = some (key, rest))
    (hlater : ∀ column ∈ columns, column.place.length ≤ rest.length) :
    ∃ fresh', Apparent fresh' rest columns ∧
      ∀ keys, Sees fresh' rest keys → Sees fresh (u ++ place) (key.toList :: keys) := by
  obtain ⟨k, y, hky, hsolid, hname, hy⟩ :=
    qualifier?_of_scanColumnWhere hcolon hk (h.unquoted _ List.mem_cons_self)
  obtain ⟨w, hw, hwy⟩ := Text.exists_eq_append_trimStart y
  rw [hy] at hwy
  have hsplit : place = (k ++ w) ++ rest := by rw [hky, hwy, List.append_assoc]
  have hle : rest.length ≤ place.length := by
    rw [hsplit, List.length_append]
    exact Nat.le_add_left _ _
  obtain ⟨hbefore, h⟩ := h.drop (by
    intro column hcolumn
    rcases List.mem_cons.mp hcolumn with rfl | hcolumn
    · exact Nat.le_refl _
    · exact (hlater column hcolumn).trans hle)
  have hfresh : after fresh u = true := Token.eq_true_of_mem_openings (h.opens _ List.mem_cons_self)
  refine ⟨after false w, ?_, fun keys hkeys => ?_⟩
  · rw [hsplit] at h
    have hbehind : Apparent (after (after fresh u) (k ++ w)) rest columns := Apparent.behind h hlater
    rwa [Token.after_append, Token.after_of_solid hsolid] at hbehind
  · refine .of_append hbefore ?_
    rw [hfresh]
    refine .cons (Token.firstSeen_of_qualifier? hname) ?_
    rw [hwy]
    exact .of_append (Token.openings_eq_nil (Token.colon_not_mem_of_blank hw) false) hkeys

/-- The names that are looked for in a text are those of its columns. -/
theorem Columns.sees {columns : List ColumnAt} (h : Columns s terms columns)
    (ha : Apparent fresh s columns) : Sees fresh s (columns.map fun column => column.key.toList) := by
  -- Term by term; whether a colon at the start of the next term counts depends on the one before.
  induction h generalizing fresh with
  | nil => exact .nil rfl
  | bare hterm hc hr ih =>
    obtain ⟨p, rfl⟩ := (scanTermWhere_eq_some_iff.mp hterm).suffix_of_bare hc
    obtain ⟨hp, ha⟩ := ha.drop hr.length_le
    exact .of_append hp (ih ha)
  | @column s r rest key term terms columns hterm hc hk hr ih =>
    obtain ⟨rest', hk', q, hq⟩ := (scanTermWhere_eq_some_iff.mp hterm).column_at hc
    cases hk.symm.trans hk'
    have hcolon := head?_place hk
    obtain ⟨u, hs⟩ := List.dropWhile_suffix (· != ':') (l := s)
    generalize s.dropWhile (· != ':') = place at hs hk ha hcolon
    rw [← hs] at ha ⊢
    have hlater (column : ColumnAt) (hcolumn : column ∈ columns) :
        column.place.length ≤ rest.length := by
      have hle := hr.length_le column hcolumn
      rw [← hq, List.length_append]
      omega
    obtain ⟨fresh', ha, hsees⟩ := ha.sees_column hcolon hk hlater
    -- Behind the name stands what is left of the term, and then the other terms.
    rw [← hq] at ha hsees
    obtain ⟨hquiet, ha⟩ := ha.drop hr.length_le
    exact hsees _ (.of_append hquiet (ih ha))

end Grammar

/-- An error reports a name that stands for no column. What it suggests, if anything, does stand for one. -/
structure QueryError.Reports (directory : Directory) (error : QueryError) (name : String) : Prop where
  unknown : directory.resolve? name = none
  reported : ∃ suggestion, error = .unknownColumn name suggestion ∧
    ∀ key, suggestion = some key → (directory.resolve? key).isSome = true

namespace Query

variable {diagnostics : Diagnostics} {directory : Directory} {query name : String} {text : List Char}
  {terms : List Term}

theorem reports_unknownColumn (h : directory.resolve? name = none) :
    (unknownColumn directory name).Reports directory name where
  unknown := h
  reported := ⟨directory.suggest? name, rfl, fun _ => Directory.isSome_resolve?_of_suggest?⟩

theorem explain_of_find? (h : (qualifiers text).find? (fun name => (directory.resolve? name).isNone) =
    some name) : (explain directory text).Reports directory name := by
  have hnone : directory.resolve? name = none := by simpa using List.find?_some h
  rw [explain, h]
  exact reports_unknownColumn hnone

/-- What is wrong with a query that does not follow the grammar: it as a whole, or a name in it. -/
theorem explain_or (directory : Directory) (text : List Char) :
    explain directory text = .malformed (String.ofList text) ∨
      ∃ name, (explain directory text).Reports directory name := by
  cases hfind : (qualifiers text).find? fun name => (directory.resolve? name).isNone with
  | none =>
    rw [explain, hfind]
    exact .inl rfl
  | some name => exact .inr ⟨name, explain_of_find? hfind⟩

/-- A query that does not follow the grammar is refused. -/
theorem error_of_parse?_eq_none (hne : Text.trim query.toList ≠ [])
    (h : Grammar.parse? diagnostics directory (Text.trim query.toList) = none) :
    parse diagnostics directory query = .error (explain directory (Text.trim query.toList)) ∧
      compile diagnostics directory query = .error (explain directory (Text.trim query.toList)) := by
  have hempty : (Text.trim query.toList).isEmpty = false := by simpa using hne
  have hparse : parse diagnostics directory query =
      .error (explain directory (Text.trim query.toList)) := by
    simp only [parse, hempty, h, Bool.false_eq_true, if_false]
  refine ⟨hparse, ?_⟩
  rw [compile, hempty, hparse]
  rfl

/-- If the columns of a query are apparent, a name of one of them is reported. -/
theorem explain_of_apparent {columns : List Grammar.ColumnAt} (h : Grammar.Columns text terms columns)
    (ha : Grammar.Apparent true text columns)
    (hunknown : ∃ key ∈ terms.filterMap Term.column, directory.resolve? key = none) :
    ∃ name ∈ terms.filterMap Term.column, (explain directory text).Reports directory name := by
  have hnames : qualifiers text = terms.filterMap Term.column := by
    rw [qualifiers_of_sees (h.sees ha), ← h.keys, List.map_map]
    exact List.map_congr_left fun column _ => String.ofList_toList
  obtain ⟨key, hkey, hnone⟩ := hunknown
  have hfind : ((qualifiers text).find? fun name => (directory.resolve? name).isNone).isSome = true := by
    rw [List.find?_isSome, hnames]
    exact ⟨key, hkey, by rw [hnone]; rfl⟩
  obtain ⟨name, hname⟩ := Option.isSome_iff_exists.mp hfind
  exact ⟨name, hnames ▸ List.mem_of_find?_eq_some hname, explain_of_find? hname⟩

/-- A query that is refused only for the names of columns. Some name of a column in it stands for no
column. Either the query as a whole is called malformed or a name that stands for no column is reported. If
the columns are apparent, the name of one of them is reported. -/
theorem error_of_parseUnchecked?
    (hno : Grammar.parse? diagnostics directory (Text.trim query.toList) = none)
    (hyes : Grammar.parseUnchecked? diagnostics (Text.trim query.toList) = some terms) :
    (∃ key ∈ terms.filterMap Term.column, directory.resolve? key = none) ∧
      ∃ error, parse diagnostics directory query = .error error ∧
        compile diagnostics directory query = .error error ∧
        (error = .malformed (Text.trimmed query) ∨ ∃ name, error.Reports directory name) ∧
        (∃ columns, Grammar.Columns (Text.trim query.toList) terms columns) ∧
        ∀ columns, Grammar.Columns (Text.trim query.toList) terms columns →
          Grammar.Apparent true (Text.trim query.toList) columns →
          ∃ name ∈ terms.filterMap Term.column, error.Reports directory name := by
  obtain ⟨hterms, hchain⟩ := (Grammar.parse?_queryWhere_iff _ _ _ _).mp hyes
  have hne : Text.trim query.toList ≠ [] := Grammar.ne_nil_of_chain hterms hchain
  have hunknown : ∃ key ∈ terms.filterMap Term.column, directory.resolve? key = none := by
    obtain ⟨key, hkey, hnone⟩ := Grammar.exists_unknown hno hyes
    obtain ⟨term, hterm, hcolumn⟩ := List.mem_map.mp hkey
    exact ⟨key, List.mem_filterMap.mpr ⟨term, hterm, hcolumn⟩, hnone⟩
  obtain ⟨hparse, hcompile⟩ := error_of_parse?_eq_none hne hno
  refine ⟨hunknown, _, hparse, hcompile, explain_or directory _, Grammar.exists_columns hchain,
    fun columns hcolumns ha => ?_⟩
  exact explain_of_apparent hcolumns ha hunknown

/-- The misspelt name of a column, after white space and `NOT`, is reported. -/
theorem error_of_misspelt_column :
    ∃ error, parse .silent ⟨[⟨"name", none, some 1, 0, 1⟩]⟩ "a NOT :nmae b" = .error error ∧
      error.Reports ⟨[⟨"name", none, some 1, 0, 1⟩]⟩ "nmae" := by
  have hno : Grammar.parse? .silent ⟨[⟨"name", none, some 1, 0, 1⟩]⟩
      (Text.trim "a NOT :nmae b".toList) = none := by decide +kernel
  have hyes : Grammar.parseUnchecked? .silent (Text.trim "a NOT :nmae b".toList) =
      some [⟨none, .word, "a", false⟩, ⟨some "nmae", .word, "b", true⟩] := by decide +kernel
  have hcolumns : Grammar.Columns (Text.trim "a NOT :nmae b".toList)
      [⟨none, .word, "a", false⟩, ⟨some "nmae", .word, "b", true⟩]
      [⟨"NOT :nmae b".toList.dropWhile (· != ':'), "nmae", ['b']⟩] :=
    .bare (r := "NOT :nmae b".toList) (by decide +kernel) rfl
      (.column (r := []) (by decide +kernel) rfl (by decide +kernel) .nil)
  have ha : Grammar.Apparent true (Text.trim "a NOT :nmae b".toList)
      [⟨"NOT :nmae b".toList.dropWhile (· != ':'), "nmae", ['b']⟩] :=
    ⟨by decide +kernel, by decide +kernel, by decide +kernel⟩
  obtain ⟨-, error, hparse, -, -, -, h⟩ := error_of_parseUnchecked? hno hyes
  obtain ⟨name, hname, hreports⟩ := h _ hcolumns ha
  obtain rfl : name = "nmae" := by simpa using hname
  exact ⟨error, hparse, hreports⟩

/-- Without white space before it, an unknown column is not found. -/
theorem malformed_of_adjacent_column :
    Grammar.parse? .silent ⟨[⟨"name", none, some 1, 0, 1⟩]⟩ "a:x b".toList = none ∧
      Grammar.parseUnchecked? .silent "a:x b".toList =
        some [⟨none, .word, "a", false⟩, ⟨some "x", .word, "b", false⟩] ∧
      parse .silent ⟨[⟨"name", none, some 1, 0, 1⟩]⟩ "a:x b" = .error (.malformed "a:x b") := by
  decide +kernel

end Query
end RowQuery
