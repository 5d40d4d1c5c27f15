import RowQuery.Proofs.Query.Literal
import RowQuery.Proofs.Regex.Joining

/-!
Which queries are valid.

* `Compiles`: some terms have clauses, within some limit of size.
* `compiles_iff_conjuncts`: terms compile just if each of their conjuncts does.
* `Compatible`: patterns that can stand in one pattern, each in a group of its own.
* `compiles_iff_of_contained`: terms compile just if the ordered ones have one pattern together and the
  others compile each by itself; where patterns keep to their groups, just if each compiles by itself and
  the ordered ones are compatible.
-/
namespace RowQuery.Query

variable {limit limit' : Regex.Limit} {directory : Directory} {term : Term} {terms : List Term}

/-! ## Clauses within some limit -/

/-- The pattern of a text stands for an expression. -/
def IsPattern (pattern : String) : Prop := (Regex.Pattern.parse? pattern.toList).isSome = true

instance (pattern : String) : Decidable (IsPattern pattern) :=
  inferInstanceAs (Decidable ((Regex.Pattern.parse? pattern.toList).isSome = true))

/-- A column that the term names is one of the directory. -/
def Resolves (directory : Directory) (term : Term) : Prop :=
  ∃ t, target directory term = .ok t

/-- Some terms have clauses, within some limit of size. -/
def Compiles (directory : Directory) (terms : List Term) : Prop :=
  ∃ limit clauses, compileWithin limit directory terms = .ok clauses

/-- A conjunct has a clause, within some limit of size. -/
def Conjunct.Compiles (directory : Directory) (c : Conjunct) : Prop :=
  ∃ limit clause, c.compile limit directory = .ok clause

/-- A pattern that stands for an expression is compiled where the limit lies above its size. -/
theorem compilePattern_eq_ok_iff {pattern : String} {regex : Regex} :
    compilePattern limit pattern = .ok regex ↔
      ∃ node, Regex.Pattern.parse? pattern.toList = some node ∧ node.weight < limit ∧
        regex = .ofNode pattern node := by
  unfold compilePattern Regex.compile
  cases Regex.Pattern.parse? pattern.toList with
  | none => simp
  | some node =>
    by_cases hw : node.weight < limit
    · simp [hw, eq_comm]
    · simp [hw]

theorem compilePattern_mono {pattern : String} {regex : Regex}
    (h : compilePattern limit pattern = .ok regex) (hl : limit ≤ limit') :
    compilePattern limit' pattern = .ok regex := by
  obtain ⟨node, hnode, hweight, rfl⟩ := compilePattern_eq_ok_iff.mp h
  exact compilePattern_eq_ok_iff.mpr ⟨node, hnode, Nat.lt_of_lt_of_le hweight hl, rfl⟩

theorem exists_compilePattern_iff {pattern : String} :
    (∃ limit regex, compilePattern limit pattern = .ok regex) ↔ IsPattern pattern := by
  simp only [compilePattern_eq_ok_iff, IsPattern, Option.isSome_iff_exists]
  constructor
  · rintro ⟨limit, regex, node, hnode, -⟩
    exact ⟨node, hnode⟩
  · rintro ⟨node, hnode⟩
    exact ⟨node.weight + 1, _, node, hnode, Nat.lt_succ_self _, rfl⟩

theorem compileTerm_eq_ok_iff {clause : Clause} :
    compileTerm limit directory term = .ok clause ↔
      ∃ regex t, compilePattern limit (derive term) = .ok regex ∧ target directory term = .ok t ∧
        clause = { terms := [term], regex, target := t, negate := term.negate } := by
  simp only [compileTerm, bind, Except.bind]
  cases compilePattern limit (derive term) with
  | error e => simp
  | ok regex =>
    cases target directory term with
    | error e => simp
    | ok t => simp [pure, Except.pure, eq_comm]

theorem compileOrdered_eq_ok_iff {clause : Clause} :
    compileOrdered limit terms = .ok clause ↔
      ∃ regex, compilePattern limit (deriveAll terms) = .ok regex ∧
        clause = { terms, regex, target := .row, negate := false } := by
  simp only [compileOrdered, bind, Except.bind]
  cases compilePattern limit (deriveAll terms) with
  | error e => simp
  | ok regex => simp [pure, Except.pure, eq_comm]

theorem Conjunct.compile_mono {c : Conjunct} {clause : Clause}
    (h : c.compile limit directory = .ok clause) (hl : limit ≤ limit') :
    c.compile limit' directory = .ok clause := by
  cases c with
  | single term =>
    obtain ⟨regex, t, hregex, ht, rfl⟩ := compileTerm_eq_ok_iff.mp h
    exact compileTerm_eq_ok_iff.mpr ⟨regex, t, compilePattern_mono hregex hl, ht, rfl⟩
  | ordered terms =>
    obtain ⟨regex, hregex, rfl⟩ := compileOrdered_eq_ok_iff.mp h
    exact compileOrdered_eq_ok_iff.mpr ⟨regex, compilePattern_mono hregex hl, rfl⟩

theorem compiles_single_iff :
    (Conjunct.single term).Compiles directory ↔
      IsPattern (derive term) ∧ Resolves directory term := by
  simp only [Conjunct.Compiles, Conjunct.compile, compileTerm_eq_ok_iff,
    ← exists_compilePattern_iff, Resolves]
  constructor
  · rintro ⟨limit, clause, regex, t, hregex, ht, -⟩
    exact ⟨⟨limit, regex, hregex⟩, t, ht⟩
  · rintro ⟨⟨limit, regex, hregex⟩, t, ht⟩
    exact ⟨limit, _, regex, t, hregex, ht, rfl⟩

theorem compiles_ordered_iff :
    (Conjunct.ordered terms).Compiles directory ↔ IsPattern (deriveAll terms) := by
  simp only [Conjunct.Compiles, Conjunct.compile, compileOrdered_eq_ok_iff,
    ← exists_compilePattern_iff]
  constructor
  · rintro ⟨limit, clause, regex, hregex, -⟩
    exact ⟨limit, regex, hregex⟩
  · rintro ⟨limit, regex, hregex⟩
    exact ⟨limit, _, regex, hregex, rfl⟩

/-- Conjuncts that have clauses have them within one limit. -/
theorem exists_clauses {l : List Conjunct} (h : ∀ c ∈ l, c.Compiles directory) :
    ∃ limit clauses,
      List.Forall₂ (fun (c : Conjunct) clause => c.compile limit directory = .ok clause) l
        clauses := by
  induction l with
  | nil => exact ⟨0, [], .nil⟩
  | cons c l ih =>
    obtain ⟨⟨limit, clause, hc⟩, hl⟩ := List.forall_mem_cons.mp h
    obtain ⟨limit', clauses, hclauses⟩ := ih hl
    refine ⟨max limit limit', clause :: clauses, .cons ?_ (hclauses.imp fun c' clause' hc' => ?_)⟩
    · exact Conjunct.compile_mono hc (Nat.le_max_left _ _)
    · exact Conjunct.compile_mono hc' (Nat.le_max_right _ _)

/-- Terms compile just if each of their conjuncts does. -/
theorem compiles_iff_conjuncts :
    Compiles directory terms ↔ terms ≠ [] ∧ ∀ c ∈ conjuncts terms, c.Compiles directory := by
  constructor
  · rintro ⟨limit, clauses, h⟩
    refine ⟨(compileWithin_eq_ok_iff.mp h).1, fun c hc => ?_⟩
    obtain ⟨clause, hclause⟩ := exists_clause h hc
    exact ⟨limit, clause, hclause⟩
  · rintro ⟨hne, h⟩
    obtain ⟨limit, clauses, hclauses⟩ := exists_clauses h
    exact ⟨limit, clauses, compileWithin_eq_ok_iff.mpr ⟨hne, hclauses⟩⟩

/-! ## Terms by themselves -/

theorem resolves_of_isOrdered (h : term.isOrdered = true) : Resolves directory term :=
  ⟨.row, by rw [target, (Term.isOrdered_iff.mp h).1]⟩

/-- A term compiles by itself just if its pattern stands for an expression and its column is known. -/
theorem compiles_singleton_iff :
    Compiles directory [term] ↔ IsPattern (derive term) ∧ Resolves directory term := by
  rw [compiles_iff_conjuncts, and_iff_right (List.cons_ne_nil term [])]
  cases ho : term.isOrdered with
  | true =>
    rw [and_iff_left (resolves_of_isOrdered ho)]
    simp [conjuncts, conjunctsFrom, ho, compiles_ordered_iff, deriveAll]
  | false =>
    simp [conjuncts, conjunctsFrom, ho, compiles_single_iff]

/-- Terms compile just if those that are not ordered do so each by itself, and the ordered ones do together. -/
theorem compiles_iff (hne : terms ≠ []) :
    Compiles directory terms ↔
      (∀ t ∈ terms, t.isOrdered = false → Compiles directory [t]) ∧
        (terms.filter Term.isOrdered ≠ [] → IsPattern (deriveAll (terms.filter Term.isOrdered))) := by
  rw [compiles_iff_conjuncts, and_iff_right hne]
  constructor
  · intro h
    refine ⟨fun t ht ho => ?_, fun hord => ?_⟩
    · exact compiles_singleton_iff.mpr
        (compiles_single_iff.mp (h _ (mem_conjuncts.mpr (.inl ⟨t, ht, ho, rfl⟩))))
    · exact compiles_ordered_iff.mp (h _ (mem_conjuncts.mpr (.inr ⟨hord, rfl⟩)))
  · rintro ⟨hsingle, hord⟩ c hc
    rcases mem_conjuncts.mp hc with ⟨t, ht, ho, rfl⟩ | ⟨hne', rfl⟩
    · exact compiles_single_iff.mpr (compiles_singleton_iff.mp (hsingle t ht ho))
    · exact compiles_ordered_iff.mpr (hord hne')

/-! ## Terms beside each other -/

/-- Patterns that can stand in one pattern, each in a group of its own: no two have a group of one name,
and the groups around them are not nested too deep. -/
structure Compatible (patterns : List (List Char)) : Prop where
  names : (patterns.map Regex.Pattern.names).Pairwise List.Disjoint
  depth : ∀ p ∈ patterns, Regex.Pattern.depth p + 2 ≤ Regex.depthLimit

/-- The patterns of some terms. -/
def patterns (terms : List Term) : List (List Char) := terms.map fun t => (derive t).toList

theorem compiles_singleton_iff_of_isOrdered (h : term.isOrdered = true) :
    Compiles directory [term] ↔ IsPattern (derive term) := by
  rw [compiles_singleton_iff, and_iff_left (resolves_of_isOrdered h)]

/-- The pattern of a word or a quote that is asked for in its order keeps to its group. -/
theorem contained_derive (ho : term.isOrdered = true)
    (hc : term.kind = .regex → Regex.Contained term.text.toList) :
    Regex.Contained (derive term).toList := by
  by_cases hk : term.kind = .regex
  · have hderive : derive term = term.text := by
      simp only [derive, hk]
    rw [hderive]
    exact hc hk
  · rw [derive_of_isOrdered hk ho, String.toList_ofList]
    exact Regex.contained_escape _

/-- Ordered terms have one pattern together just if each has one by itself and the patterns are compatible,
unless there is one term only. -/
theorem isPattern_deriveAll_iff (hne : terms ≠ []) (ho : ∀ t ∈ terms, t.isOrdered = true)
    (hc : 2 ≤ terms.length → ∀ t ∈ terms, t.kind = .regex → Regex.Contained t.text.toList) :
    IsPattern (deriveAll terms) ↔
      (∀ t ∈ terms, IsPattern (derive t)) ∧
        (2 ≤ terms.length → Compatible (patterns terms)) := by
  match terms with
  | [] => exact absurd rfl hne
  | [t] => simp [deriveAll]
  | t :: t' :: rest =>
    have hlen : 2 ≤ (t :: t' :: rest).length := by simp
    have hone : ∀ u, t :: t' :: rest ≠ [u] := by simp
    have hcontained : ∀ p ∈ patterns (t :: t' :: rest), Regex.Contained p := by
      intro p hp
      obtain ⟨u, hu, rfl⟩ := List.mem_map.mp hp
      exact contained_derive (ho u hu) (hc hlen u hu)
    have hjoined : IsPattern (deriveAll (t :: t' :: rest)) ↔
        (Regex.Pattern.parse? (Regex.joined (patterns (t :: t' :: rest)))).isSome = true := by
      rw [IsPattern, deriveAll_eq_joined hone, String.toList_ofList]
      rfl
    have heach : (∀ p ∈ patterns (t :: t' :: rest), (Regex.Pattern.parse? p).isSome = true) ↔
        ∀ u ∈ t :: t' :: rest, IsPattern (derive u) :=
      List.forall_mem_map
    rw [hjoined, Regex.isSome_parse?_joined_iff (by simp [patterns]) hcontained, heach]
    constructor
    · rintro ⟨heach, hnames, hdepth⟩
      exact ⟨heach, fun _ => ⟨hnames, hdepth⟩⟩
    · rintro ⟨heach, hcompatible⟩
      exact ⟨heach, (hcompatible hlen).names, (hcompatible hlen).depth⟩

/-- Terms compile just if those that are not asked for in their order compile each by itself and the ordered
ones have one pattern together. If the ordered patterns keep to their groups, or there is one only, this is
so just if each term compiles by itself and the ordered patterns are compatible. -/
theorem compiles_iff_of_contained (directory : Directory) (terms : List Term) (hne : terms ≠ []) :
    (Compiles directory terms ↔
      (∀ t ∈ terms, t.isOrdered = false → Compiles directory [t]) ∧
        (terms.filter Term.isOrdered ≠ [] →
          IsPattern (deriveAll (terms.filter Term.isOrdered)))) ∧
    ((2 ≤ (terms.filter Term.isOrdered).length →
        ∀ t ∈ terms.filter Term.isOrdered, t.kind = .regex → Regex.Contained t.text.toList) →
      (Compiles directory terms ↔
        (∀ t ∈ terms, Compiles directory [t]) ∧
          (2 ≤ (terms.filter Term.isOrdered).length →
            Compatible (patterns (terms.filter Term.isOrdered))))) := by
  refine ⟨compiles_iff hne, fun hc => ?_⟩
  have ho : ∀ t ∈ terms.filter Term.isOrdered, t.isOrdered = true := fun t ht =>
    (List.mem_filter.mp ht).2
  rw [compiles_iff hne]
  constructor
  · rintro ⟨hsingle, hordered⟩
    -- Where there is an ordered term, there is a pattern of the ordered terms.
    have hall : ∀ t ∈ terms, t.isOrdered = true → (∀ u ∈ terms.filter Term.isOrdered,
        IsPattern (derive u)) ∧ (2 ≤ (terms.filter Term.isOrdered).length →
          Compatible (patterns (terms.filter Term.isOrdered))) := by
      intro t ht hto
      have hne' := List.ne_nil_of_mem (List.mem_filter.mpr ⟨ht, hto⟩)
      exact (isPattern_deriveAll_iff hne' ho hc).mp (hordered hne')
    refine ⟨fun t ht => ?_, fun hlen => ?_⟩
    · cases hto : t.isOrdered with
      | false => exact hsingle t ht hto
      | true =>
        rw [compiles_singleton_iff_of_isOrdered hto]
        exact (hall t ht hto).1 t (List.mem_filter.mpr ⟨ht, hto⟩)
    · obtain ⟨t, ht⟩ := List.exists_mem_of_length_pos (Nat.lt_of_lt_of_le Nat.zero_lt_two hlen)
      obtain ⟨ht, hto⟩ := List.mem_filter.mp ht
      exact (hall t ht hto).2 hlen
  · rintro ⟨heach, hcompatible⟩
    refine ⟨fun t ht _ => heach t ht, fun hne' => ?_⟩
    refine (isPattern_deriveAll_iff hne' ho hc).mpr ⟨fun t ht => ?_, hcompatible⟩
    exact (compiles_singleton_iff_of_isOrdered (ho t ht)).mp (heach t (List.mem_of_mem_filter ht))

/-- `/a|b/ c` compiles, as `/a|b/` keeps to its group. -/
theorem compiles_choice_and_word :
    Compiles .empty [⟨none, .regex, "a|b", false⟩, ⟨none, .word, "c", false⟩] := by
  let terms : List Term := [⟨none, .regex, "a|b", false⟩, ⟨none, .word, "c", false⟩]
  have ho : ∀ t ∈ terms, t.isOrdered = true := by decide
  have hc : ∀ t ∈ terms, t.kind = .regex → Regex.Contained t.text.toList := by
    intro t ht hk
    rcases List.mem_cons.mp ht with rfl | ht
    · have hwf : Regex.Pattern.WellFormed "a|b".toList := by decide +kernel
      have hcomment : ¬ Regex.Pattern.WellFormed ("a|b".toList ++ [')']) := by decide +kernel
      exact ⟨fun _ _ => hwf, fun _ => hcomment⟩
    · obtain rfl := List.mem_singleton.mp ht
      cases hk
  have heach : ∀ t ∈ terms, IsPattern (derive t) := by decide +kernel
  have hcompatible : Compatible (patterns terms) := by
    have hnames : (patterns terms).map Regex.Pattern.names = [[], []] := by decide +kernel
    exact ⟨by simp [hnames], by decide +kernel⟩
  refine ((compiles_iff_of_contained .empty terms (by decide)).2 ?_).mpr ⟨fun t ht => ?_, fun _ => ?_⟩
  · exact fun _ t ht => hc t (List.mem_of_mem_filter ht)
  · exact (compiles_singleton_iff_of_isOrdered (ho t ht)).mpr (heach t ht)
  · rw [List.filter_eq_self.mpr ho]
    exact hcompatible

/-- `/a)|(b/ c` compiles, though `/a)|(b/` is no pattern: as a pattern, `(?:a)|(b).+(?:c)` is well formed.
`/(?P<n>a)/ /(?P<n>b)/` does not compile, though each of the two does: there are two groups of one name in
their pattern. -/
theorem compiles_apart_from_each :
    (Compiles .empty [⟨none, .regex, "a)|(b", false⟩, ⟨none, .word, "c", false⟩] ∧
      ¬ Compiles .empty [⟨none, .regex, "a)|(b", false⟩]) ∧
    (¬ Compiles .empty [⟨none, .regex, "(?P<n>a)", false⟩, ⟨none, .regex, "(?P<n>b)", false⟩] ∧
      Compiles .empty [⟨none, .regex, "(?P<n>a)", false⟩] ∧
      Compiles .empty [⟨none, .regex, "(?P<n>b)", false⟩]) := by
  have hordered : ∀ t ∈ [(⟨none, .regex, "a)|(b", false⟩ : Term), ⟨none, .word, "c", false⟩],
      t.isOrdered = true := by decide
  refine ⟨⟨(compiles_iff (by decide)).mpr ⟨fun t ht ho => ?_, fun _ => by decide +kernel⟩, ?_⟩, ?_, ?_, ?_⟩
  · rw [hordered t ht] at ho
    cases ho
  · rw [compiles_singleton_iff_of_isOrdered rfl]
    decide +kernel
  · rw [compiles_iff (by decide)]
    exact fun h => absurd (h.2 (by decide)) (by decide +kernel)
  · rw [compiles_singleton_iff_of_isOrdered rfl]
    decide +kernel
  · rw [compiles_singleton_iff_of_isOrdered rfl]
    decide +kernel

end RowQuery.Query
