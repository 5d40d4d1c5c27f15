import RowQuery.Proofs.Parser.Suffix
import RowQuery.Proofs.Query.Validity
import RowQuery.Proofs.Regex.Span
import RowQuery.Proofs.Regex.Wrapped

/-!
Parsers of patterns begin where their input does.

* `Regex.exists_comesFrom_of_search`: what a search finds goes back to one of its tasks.
* `Regex.exists_spans_of_find?`: a match begins where the expression spans some text, and lies in the text.
* `Regex.offset_eq_zero_of_spans`: an expression behind the mark of the start spans nothing elsewhere.
* `Parser.anchored_of_regex?`: for a pattern that is one by itself, the value of the parser and the rest make
  up the input. A parser is built of another pattern only if a parenthesis of the pattern closes the group in
  which the pattern is written.
-/
namespace RowQuery

namespace Regex

variable {insts : Array Inst} {text : List Char} {task t : Task} {inst : Inst} {found : Found}

/-! ## Where a match lies -/

/-- A task stands in a text, no earlier than its match began. -/
structure Task.Stands (text : List Char) (task : Task) : Prop where
  lies : task.place.Lies text
  origin_le : task.origin ≤ task.place.offset

theorem Task.Stands.next (h : task.Stands text) (ht : t ∈ task.next inst) : t.Stands text := by
  obtain ⟨horigin, hplace⟩ := Task.of_mem_next ht
  have hoffset : task.place.offset ≤ t.place.offset := by
    rcases hplace with hplace | ⟨c, r, -, hplace⟩
    · rw [hplace]
    · rw [hplace]
      exact Nat.le_succ _
  exact ⟨Task.lies_of_mem_next h.lies ht, horigin ▸ Nat.le_trans h.origin_le hoffset⟩

/-- A match goes back to a task: it began where the task's match did, it lies in the text, and the task can
go on to the end. -/
structure Found.ComesFrom (insts : Array Inst) (text : List Char) (found : Found) (task : Task) : Prop where
  start_eq : found.start = task.origin
  accepts : ∃ n, Accepts insts n task.inst task.place
  start_le : found.start ≤ found.stop
  stop_le : found.stop ≤ text.length

/-- What comes from a task comes from the task that led to it. -/
theorem Found.ComesFrom.of_next (h : found.ComesFrom insts text t) (hi : insts[task.inst]? = some inst)
    (ht : t ∈ task.next inst) : found.ComesFrom insts text task := by
  obtain ⟨n, hacc⟩ := h.accepts
  exact ⟨h.start_eq.trans (Task.of_mem_next ht).1, ⟨n + 1, .of_next hi ht hacc⟩, h.start_le, h.stop_le⟩

/-- What a search finds goes back to one of its tasks. -/
theorem exists_comesFrom_of_search (steps : Nat) {tasks : List Task} {seen : Seen}
    (hs : ∀ t ∈ tasks, t.Stands text) (h : search insts steps tasks seen = some found) :
    ∃ t ∈ tasks, found.ComesFrom insts text t := by
  induction steps generalizing tasks seen with
  | zero => cases h
  | succ steps ih =>
    cases tasks with
    | nil => cases h
    | cons task tasks =>
      have htask : task.Stands text := hs task List.mem_cons_self
      have hrest : ∀ t ∈ tasks, t.Stands text := fun t ht => hs t (List.mem_cons_of_mem _ ht)
      rw [List.exists_mem_cons_iff]
      by_cases htest : seen.test task.place.offset task.inst = true
      · rw [search, if_pos htest] at h
        exact .inr (ih hrest h)
      cases hi : insts[task.inst]? with
      | none =>
        rw [search, if_neg htest, hi] at h
        exact .inr (ih hrest h)
      | some inst =>
        by_cases ha : inst = .accept
        · subst ha
          rw [search, if_neg htest, hi] at h
          cases h
          exact .inl ⟨rfl, ⟨0, .here hi⟩, htask.origin_le, htask.lies.offset_le⟩
        · rw [search_of_step (by simpa using htest) hi ha] at h
          have hnext : ∀ t ∈ task.next inst ++ tasks, t.Stands text := fun t ht =>
            (List.mem_append.mp ht).elim htask.next (hrest t)
          obtain ⟨t, ht, hcomes⟩ := ih hnext h
          rcases List.mem_append.mp ht with ht | ht
          · exact .inl (hcomes.of_next hi ht)
          · exact .inr ⟨t, ht, hcomes⟩

theorem Program.stands_of_mem_tasks {program : Program} (h : t ∈ program.tasks text 0) : t.Stands text := by
  refine ⟨lies_of_mem_tasks h, ?_⟩
  obtain ⟨p, -, rfl⟩ := List.mem_map.mp h
  exact Nat.le_refl _

/-- A match begins where the expression spans some text, and lies in the text. -/
theorem exists_spans_of_find? {regex : RowQuery.Regex} (h : regex.find? text = some found) :
    (∃ p q, found.start = p.offset ∧ p.Lies text ∧ regex.node.Spans p q) ∧
      found.start ≤ found.stop ∧ found.stop ≤ text.length := by
  obtain ⟨t, ht, hcomes⟩ := exists_comesFrom_of_search _ (fun _ => Program.stands_of_mem_tasks) h
  have hlies : t.place.Lies text := Program.lies_of_mem_tasks ht
  obtain ⟨p, -, rfl⟩ := List.mem_map.mp ht
  have haccepts := hcomes.accepts
  rw [regex.program_eq] at haccepts
  obtain ⟨q, hspans⟩ := (Program.accepts_iff_spans regex.node p).mp haccepts
  exact ⟨⟨p, q, hcomes.start_eq, hlies, hspans⟩, hcomes.start_le, hcomes.stop_le⟩

/-- An expression behind the mark of the start spans text from the start of a text only. -/
theorem offset_eq_zero_of_spans {p q : Place} {a : Node} (hp : p.Lies text)
    (h : (Node.sequence [.look .textStart, a]).Spans p q) : p.offset = 0 := by
  obtain ⟨m, ⟨hlook, -⟩, -⟩ := (Node.spans_sequence _).mp h
  obtain ⟨front, -, hoffset, hbefore⟩ := hp
  have hnone : front.getLast? = none := by
    rw [← hbefore]
    simpa [Look.holds] using hlook
  rw [hoffset, List.getLast?_eq_none_iff.mp hnone]
  rfl

end Regex

/-! ## Parsers of patterns -/

namespace Parser

variable {pattern : String} {parser : Parser String} {diagnostics : Diagnostics} {value : String}
  {input rest : List Char}

/-- A parser built of a pattern looks for the anchored pattern. -/
theorem regex?_eq_ok_iff : regex? pattern = .ok parser ↔
    ∃ compiled, Regex.compile sizeLimit (anchored pattern) = .ok compiled ∧
      parser = .regex pattern compiled := by
  rw [regex?, compile?]
  cases Regex.compile sizeLimit (anchored pattern) with
  | error fault => simp
  | ok compiled => simp [eq_comm]

theorem exists_regex?_of_isOk (h : (Regex.compile sizeLimit (anchored pattern)).isOk = true) :
    ∃ parser, regex? pattern = .ok parser := by
  obtain ⟨compiled, hcompiled⟩ := exists_of_isOk h
  exact ⟨_, regex?_eq_ok_iff.mpr ⟨compiled, hcompiled, rfl⟩⟩

theorem toList_anchored (pattern : String) :
    (anchored pattern).toList = '^' :: Regex.grouped pattern.toList := by
  simp [anchored, Regex.grouped]

/-- The value of a match is what lies before the rest, from the place at which the match begins. -/
theorem eq_append_of_regexMatch {regex : Regex} (h : regexMatch regex 0 input = .found value rest) :
    ∃ found, regex.find? input = some found ∧ input = input.take found.start ++ (value.toList ++ rest) := by
  rw [regexMatch] at h
  split at h
  · cases h
  · next found hfound =>
    cases h
    obtain ⟨-, hle, -⟩ := Regex.exists_spans_of_find? hfound
    refine ⟨found, hfound, ?_⟩
    simp only [Regex.Found.text?, Regex.Found.group?, if_pos, Option.map_some, Option.getD_some,
      Regex.slice, String.toList_ofList]
    conv_lhs => rw [← List.take_append_drop found.start input,
      ← List.take_append_drop (found.stop - found.start) (input.drop found.start), List.drop_drop,
      Nat.add_sub_cancel' hle]

/-- Where a parser is built of a pattern, the pattern is one by itself unless one of its parentheses closes
the group in which it is written. What the parser takes and what it leaves are an end of the input, and all
of it if the pattern is one by itself. -/
theorem anchored_of_regex? (h : regex? pattern = .ok parser) :
    (Query.IsPattern pattern ↔ ¬Regex.Pattern.Stray pattern.toList) ∧
      ∀ diagnostics input value rest, (parser.run diagnostics input).outcome = .ok (.found value rest) →
        value.toList ++ rest <:+ input ∧ (Query.IsPattern pattern → value.toList ++ rest = input) := by
  obtain ⟨compiled, hcompiled, rfl⟩ := regex?_eq_ok_iff.mp h
  have hparse : Regex.Pattern.parse? ('^' :: Regex.grouped pattern.toList) = some compiled.node := by
    rw [← toList_anchored]
    exact Regex.parse?_of_compile hcompiled
  have hstray (hp : Query.IsPattern pattern) : ¬Regex.Pattern.Stray pattern.toList := fun hs =>
    hs.not_wellFormed ((Regex.isSome_parse?_iff _).mp hp).1
  have hpattern (hs : ¬Regex.Pattern.Stray pattern.toList) : Query.IsPattern pattern :=
    (Regex.of_parse?_marked hparse hs).1
  refine ⟨⟨hstray, hpattern⟩, fun diagnostics input value rest hrun => ?_⟩
  rw [Parser.run] at hrun
  obtain ⟨found, hfound, happend⟩ := eq_append_of_regexMatch (Run.outcome_done_eq_ok_iff.mp hrun)
  refine ⟨⟨_, happend.symm⟩, fun hp => ?_⟩
  obtain ⟨⟨p, q, hstart, hlies, hspans⟩, -⟩ := Regex.exists_spans_of_find? hfound
  obtain ⟨-, inner, hnode⟩ := Regex.of_parse?_marked hparse (hstray hp)
  rw [hnode] at hspans
  rw [hstart, Regex.offset_eq_zero_of_spans hlies hspans, List.take_zero, List.nil_append] at happend
  exact happend.symm

/-- The parser of `a|b` finds either letter where its input begins, and nowhere else. -/
theorem anchored_choice : ∃ parser, regex? "a|b" = .ok parser ∧
    ∀ diagnostics input value rest, (parser.run diagnostics input).outcome = .ok (.found value rest) →
      value.toList ++ rest = input := by
  have hok : (Regex.compile sizeLimit (anchored "a|b")).isOk = true := by decide +kernel
  have hp : Query.IsPattern "a|b" := by decide +kernel
  obtain ⟨parser, hparser⟩ := exists_regex?_of_isOk hok
  exact ⟨parser, hparser, fun diagnostics input value rest hrun =>
    ((anchored_of_regex? hparser).2 diagnostics input value rest hrun).2 hp⟩

/-- A parser is built of `a)|(b`, which is no pattern, and it finds the `b` of `xb`: the pattern anchored is
`^(?:a)|(b)`, of which only the first alternative is bound to the start. -/
theorem not_anchored_choice : ∃ parser, regex? "a)|(b" = .ok parser ∧ ¬Query.IsPattern "a)|(b" ∧
    ∀ diagnostics, (parser.run diagnostics "xb".toList).outcome = .ok (.found "b" []) ∧
      "b".toList ++ [] ≠ "xb".toList := by
  have hok : (Regex.compile sizeLimit (anchored "a)|(b")).isOk = true := by decide +kernel
  have hmatch : (Regex.compile sizeLimit (anchored "a)|(b")).map (regexMatch · 0 "xb".toList) =
      .ok (.found "b" []) := by rfl
  obtain ⟨parser, hparser⟩ := exists_regex?_of_isOk hok
  obtain ⟨compiled, hcompiled, rfl⟩ := regex?_eq_ok_iff.mp hparser
  rw [hcompiled] at hmatch
  refine ⟨_, hparser, by decide +kernel, fun diagnostics => ⟨?_, by decide⟩⟩
  rw [Parser.run]
  exact congrArg _ (Except.ok.inj hmatch)

end Parser
end RowQuery
