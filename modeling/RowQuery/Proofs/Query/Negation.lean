import RowQuery.Proofs.Query.Literal
import RowQuery.Proofs.Query.Trimming
import RowQuery.Proofs.Query.Unchecked
import RowQuery.Proofs.Row.Evaluator

/-!
`NOT` before a query.

* `Term.negated`: a term as it is with `NOT` before it.
* `Grammar.parse?_not`: a query of one term reads as this term negated, if `NOT` stands before it.
* `Query.compileTerm_negated`: the clause of a negated term has the same expression and the same target.
* `RowCache.perm_matchedRows`: two filters that never agree share the rows between them.
* `Query.complement_of_parse?`: all of this for a query and the one with `NOT` before it.
-/
namespace RowQuery

/-- A term as it is with `NOT` before it. -/
def Term.negated (term : Term) : Term := { term with negate := true }

/-! ## Reading -/

namespace Grammar

variable {known : String → Bool} {directory : Directory} {diagnostics : Diagnostics} {term : Term}
  {s r text : List Char}

/-- What is read without `NOT` is a pattern. -/
theorem scanPattern_of_scanNegatable {v : PatternKind × String}
    (h : scanNegatable s = some ((false, v), r)) : scanPattern s = some (v, r) := by
  rcases Option.or_eq_some_iff.mp h with h | ⟨-, h⟩
  · obtain ⟨p, -, hp⟩ := Scan.map_eq_some_iff.mp h
    cases hp
  · obtain ⟨p, hpattern, hp⟩ := Scan.map_eq_some_iff.mp h
    cases hp
    exact hpattern

/-- With `NOT` before it a term is read negated. The ways to read it are tried in turn, and which of them it
is depends on whether there is a column. -/
theorem ReadsTerm.not (h : ReadsTerm known s r term) (hneg : term.negate = false) :
    ReadsTerm known ('N' :: 'O' :: 'T' :: ' ' :: s) r term.negated := by
  have hgap : Text.Gap [' '] := ⟨by simp, by simp [Text.Blank, Text.isBlank]⟩
  have hnot : scanNot ('N' :: 'O' :: 'T' :: ' ' :: s) = some ("NOT", Text.trimStart s) :=
    scanNot_gap hgap s
  cases h with
  | negated => cases hneg
  | column hcolumn hnegatable =>
    cases hneg
    rw [← (trims_scanColumnWhere known).front] at hcolumn
    exact .negated hnot hcolumn (scanPattern_of_scanNegatable hnegatable)
  | @bare text kind _ _ hnegatable =>
    cases hneg
    have hpattern : scanPattern (Text.trimStart s) = some ((kind, text), r) := by
      rw [trims_scanPattern.front]
      exact scanPattern_of_scanNegatable hnegatable
    -- No column stands where a pattern does, so `NOT` goes with the pattern.
    have hcolumn : scanColumnWhere known (Text.trimStart s) = none := by
      refine scanColumnWhere_eq_none fun hhead => ?_
      rw [scanPattern_eq_none hhead] at hpattern
      cases hpattern
    refine .bare (Scan.pair_eq_none_right hnot (Scan.pair_eq_none_left hcolumn)) ?_
    exact Option.or_eq_some_iff.mpr (.inl (Scan.map_eq_some_iff.mpr
      ⟨_, Scan.pair_eq_some_iff.mpr ⟨_, hnot, hpattern⟩, rfl⟩))

theorem parse?_singleton_iff :
    parse? diagnostics directory text = some [term] ↔ scanTerm directory text = some (term, []) := by
  rw [parse?_iff, and_iff_right (List.cons_ne_nil term [])]
  constructor
  · intro h
    cases h with
    | cons hterm hr =>
      cases hr
      exact hterm
  · intro h
    exact .cons h .nil

/-- A query of one term reads as this term negated, if `NOT` stands before it. -/
theorem parse?_not (h : parse? diagnostics directory text = some [term]) (hneg : term.negate = false) :
    parse? diagnostics directory ('N' :: 'O' :: 'T' :: ' ' :: text) = some [term.negated] := by
  have hreads : ReadsTerm (isKnown directory) text [] term :=
    scanTermWhere_eq_some_iff.mp (parse?_singleton_iff.mp h)
  exact parse?_singleton_iff.mpr (scanTermWhere_eq_some_iff.mpr (hreads.not hneg))

end Grammar

/-! ## Compiling -/

namespace Query

variable {directory : Directory} {diagnostics : Diagnostics} {limit : Regex.Limit} {term : Term}
  {query : String}

/-- An ordered term by itself has the clause of a single term. -/
theorem compileOrdered_singleton (directory : Directory) (h : term.isOrdered = true) :
    compileOrdered limit [term] = compileTerm limit directory term := by
  obtain ⟨hbare, hneg⟩ := Term.isOrdered_iff.mp h
  have htarget : target directory term = .ok .row := by rw [target, hbare]
  simp only [compileOrdered, compileTerm, htarget, hneg, deriveAll]
  rfl

theorem compileWithin_singleton (limit : Regex.Limit) (directory : Directory) (term : Term) :
    compileWithin limit directory [term] = (compileTerm limit directory term).map fun clause => [clause] := by
  rw [compileWithin, if_neg (by simp)]
  cases ho : term.isOrdered with
  | true =>
    have hfilter : [term].filter Term.isOrdered = [term] := by simp [ho]
    simp only [hfilter, compileFrom, ho, if_true, compileOrdered_singleton directory ho]
    cases compileTerm limit directory term <;> rfl
  | false =>
    simp only [compileFrom, ho, Bool.false_eq_true, if_false]
    cases compileTerm limit directory term <;> rfl

/-- A negated term has the clause of the term, negated. -/
theorem compileTerm_negated (limit : Regex.Limit) (directory : Directory) (term : Term) :
    compileTerm limit directory term.negated = (compileTerm limit directory term).map fun clause =>
      { clause with terms := [term.negated], negate := true } := by
  have hderive : derive term.negated = derive term := rfl
  have htarget : target directory term.negated = target directory term := rfl
  rw [compileTerm, compileTerm, hderive, htarget]
  cases compilePattern limit (derive term) with
  | error e => rfl
  | ok regex => cases target directory term <;> rfl

end Query

/-! ## Rows -/

theorem Clause.holds_negated (clause : Clause) (hneg : clause.negate = false) (terms : List Term)
    (data : RowData) : ({ clause with terms, negate := true } : Clause).holds data = !clause.holds data := by
  simp only [holds, hneg]
  cases clause.regex.isMatch (clause.target.extract data).toList <;> rfl

/-- Two filters that never agree share the rows of every table between them, whatever is held of the rows. -/
theorem RowCache.perm_matchedRows {filter complement : Filter}
    (h : ∀ data, complement.accepts data = !filter.accepts data) (cache : RowCache)
    (directory : Directory) (rows : Rows) :
    ((cache.evaluate filter directory rows).1.matchedRows ++
      (cache.evaluate complement directory rows).1.matchedRows).Perm (List.range rows.length) := by
  rw [decisions_evaluate, decisions_evaluate, Evaluation.matchedRows_map_range,
    Evaluation.matchedRows_map_range]
  simp only [h]
  exact List.filter_append_perm _ _

namespace Query

variable {directory : Directory} {diagnostics : Diagnostics} {term : Term} {query : String}

/-- If a query reads as one term that is not negated, then with `NOT` before it, it reads as this term
negated. The two queries are refused with the same error, or they have filters of which exactly one accepts a
row, whichever row it is; so the rows of a table that the one keeps are those that the other does not. -/
theorem complement_of_parse?
    (hparse : Grammar.parse? diagnostics directory query.toList = some [term])
    (hneg : term.negate = false) :
    Grammar.parse? diagnostics directory ("NOT " ++ query).toList = some [term.negated] ∧
    ((∃ e, compile diagnostics directory query = .error e ∧
        compile diagnostics directory ("NOT " ++ query) = .error e) ∨
      ∃ filter complement, compile diagnostics directory query = .ok filter ∧
        compile diagnostics directory ("NOT " ++ query) = .ok complement ∧
        (∀ data, complement.accepts data = !filter.accepts data) ∧
        ∀ (cache : RowCache) (rows : Rows),
          ((cache.evaluate filter directory rows).1.matchedRows ++
            (cache.evaluate complement directory rows).1.matchedRows).Perm (List.range rows.length)) := by
  have hnot : Grammar.parse? diagnostics directory ("NOT " ++ query).toList = some [term.negated] := by
    rw [String.toList_append]
    exact Grammar.parse?_not hparse hneg
  refine ⟨hnot, ?_⟩
  rw [compile_of_parse? hparse, compile_of_parse? hnot, compileTerms, compileTerms,
    compileWithin_singleton, compileWithin_singleton, compileTerm_negated]
  cases hclause : compileTerm sizeLimit directory term with
  | error e => exact .inl ⟨e, rfl, rfl⟩
  | ok clause =>
    have hclauseNeg : clause.negate = false := by
      rw [← hneg]
      exact (of_compileTerm hclause).2.2
    have hcomplement : ∀ data, (Filter.allOf [{ clause with terms := [term.negated], negate := true }]).accepts
        data = !(Filter.allOf [clause]).accepts data := by
      intro data
      simpa [Filter.accepts] using clause.holds_negated hclauseNeg [term.negated] data
    exact .inr ⟨_, _, rfl, rfl, hcomplement, fun cache rows =>
      RowCache.perm_matchedRows hcomplement cache directory rows⟩

/-- `NOT`, read as a word, and `NOT NOT`, its negation. -/
theorem complement_of_not : Grammar.parse? .silent .empty "NOT NOT".toList = some [⟨none, .word, "NOT", true⟩] ∧
    ∃ filter complement, compile .silent .empty "NOT" = .ok filter ∧
      compile .silent .empty "NOT NOT" = .ok complement ∧
      ∀ data, complement.accepts data = !filter.accepts data := by
  have hparse : Grammar.parse? .silent .empty "NOT".toList = some [⟨none, .word, "NOT", false⟩] := by
    decide +kernel
  have hok : (compile .silent .empty "NOT").isOk = true := by decide +kernel
  obtain ⟨hnot, ⟨e, he, -⟩ | ⟨filter, complement, hfilter, hcomplement, haccepts, -⟩⟩ :=
    complement_of_parse? hparse rfl
  · rw [he] at hok
    cases hok
  · exact ⟨hnot, filter, complement, hfilter, hcomplement, haccepts⟩

end Query
end RowQuery
