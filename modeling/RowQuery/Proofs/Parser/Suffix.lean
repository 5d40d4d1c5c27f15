import RowQuery.Parser.Run

/-!
What parsers leave over.

* `Run.outcome_bind_eq_ok_iff`, `Run.outcome_ifFound_iff`: how runs that follow each other end.
* `LeavesSuffix`: a step through a text leaves an end of it, with one lemma for each kind of parser.
* `Parser.Sound`: the user code in a parser leaves ends of its inputs.
* `Parser.consumed_append_of_run`: every parser of such code does, and what it takes and what it leaves
  make up its input.

Texts are lists of characters, so an end of a text begins at a character. Nothing is said of runs that
end with a fault.
-/
namespace RowQuery

variable {α β : Type}

/-! ## How runs end -/

namespace Run

theorem outcome_done_eq_ok_iff {a b : α} : (done a).outcome = .ok b ↔ a = b :=
  ⟨fun h => Except.ok.inj h, fun h => congrArg _ h⟩

/-- A run that goes on ends as what it goes on with, unless it ends with a fault before. -/
theorem outcome_bind (run : Run α) (next : α → Run β) :
    (run.bind next).outcome = run.outcome.bind fun a => (next a).outcome := by
  rw [Run.bind]
  cases run.outcome <;> rfl

theorem outcome_bind_eq_ok_iff {run : Run α} {next : α → Run β} {b : β} :
    (run.bind next).outcome = .ok b ↔
      ∃ a, run.outcome = .ok a ∧ (next a).outcome = .ok b := by
  rw [outcome_bind]
  cases run.outcome with
  | error fault => simp [Except.bind]
  | ok a => simp [Except.bind]

/-- A run that goes on after a match ends with a match if both parts do. -/
theorem outcome_ifFound_iff {run : Run (Match α)} {next : α → List Char → Run (Match β)} {b : β}
    {rest : List Char} :
    (run.ifFound next).outcome = .ok (.found b rest) ↔
      ∃ a r, run.outcome = .ok (.found a r) ∧ (next a r).outcome = .ok (.found b rest) := by
  rw [ifFound, outcome_bind_eq_ok_iff]
  constructor
  · rintro ⟨m, hm, h⟩
    cases m with
    | found a r => exact ⟨a, r, hm, h⟩
    | absent => cases h
  · rintro ⟨a, r, ha, h⟩
    exact ⟨.found a r, ha, h⟩

end Run

/-! ## Where nothing is taken -/

namespace Parser

variable {diagnostics : Diagnostics} {p : Parser α} {input rest : List Char}

/-- A parser for what must not come next takes nothing. -/
theorem rest_of_negatePresence
    (h : (p.negatePresence.run diagnostics input).outcome = .ok (.found () rest)) : rest = input := by
  rw [Parser.run] at h
  obtain ⟨m, -, h⟩ := Run.outcome_bind_eq_ok_iff.mp h
  rw [Run.outcome_done_eq_ok_iff] at h
  split at h
  · cases h
  · cases h
    rfl

/-- Where something optional is not there, nothing is taken. -/
theorem rest_of_optional_none
    (h : (p.optional.run diagnostics input).outcome = .ok (.found none rest)) : rest = input := by
  rw [Parser.run] at h
  obtain ⟨m, -, h⟩ := Run.outcome_bind_eq_ok_iff.mp h
  cases m with
  | found a r => cases h
  | absent =>
    cases h
    rfl

end Parser

/-! ## Steps that leave an end of their text -/

/-- Whatever a step matches, it leaves an end of its text. -/
def LeavesSuffix (step : List Char → Run (Match α)) : Prop :=
  ∀ input value rest, (step input).outcome = .ok (.found value rest) → rest <:+ input

namespace LeavesSuffix

variable {step : List Char → Run (Match α)} {diagnostics : Diagnostics} {p : Parser α} {q : Parser β}

/-- A step is followed by what leaves an end of what it left. -/
theorem ifFound (h : LeavesSuffix step) {next : α → List Char → Run (Match β)}
    (hn : ∀ a r b rest, (next a r).outcome = .ok (.found b rest) → rest <:+ r) :
    LeavesSuffix fun input => (step input).ifFound next := by
  intro input b rest hb
  obtain ⟨a, r, ha, hb⟩ := Run.outcome_ifFound_iff.mp hb
  exact (hn a r b rest hb).trans (h input a r ha)

/-- A step that is applied again and again leaves an end of what the round before left. -/
theorem repeatFrom (h : LeavesSuffix step) {rounds : Nat} {input rest : List Char} {values : List α}
    (hr : (repeatFrom step rounds input).outcome = .ok (values, rest)) : rest <:+ input := by
  induction rounds generalizing input values with
  | zero =>
    cases hr
    exact List.suffix_refl _
  | succ rounds ih =>
    rw [RowQuery.repeatFrom, Run.outcome_bind_eq_ok_iff] at hr
    obtain ⟨m, hm, hr⟩ := hr
    cases m with
    | absent =>
      cases hr
      exact List.suffix_refl _
    | found value r =>
      simp only at hr
      split at hr
      · obtain ⟨⟨values', r'⟩, hrest, hr⟩ := Run.outcome_bind_eq_ok_iff.mp hr
        cases hr
        exact (ih hrest).trans (h input value r hm)
      · -- The round took nothing, so what it left does not count.
        cases hr
        exact List.suffix_refl _

/-- A repetition leaves what its last round left, or does not match. -/
theorem repeated (h : LeavesSuffix step) (enough : List α → Bool) :
    LeavesSuffix fun input => (RowQuery.repeated step input).bind fun (values, rest) =>
      .done (if enough values then .found values rest else .absent) := by
  intro input values rest hr
  obtain ⟨⟨values', rest'⟩, hrounds, hr⟩ := Run.outcome_bind_eq_ok_iff.mp hr
  rw [Run.outcome_done_eq_ok_iff] at hr
  split at hr
  · cases hr
    exact h.repeatFrom hrounds
  · cases hr

theorem literal (text : String) : LeavesSuffix ((Parser.literal text).run diagnostics) := by
  intro input value rest h
  rw [Parser.run, Run.outcome_done_eq_ok_iff] at h
  split at h
  · cases h
    exact List.drop_suffix _ _
  · cases h

theorem capture (pattern : String) (regex : Regex) (group : Nat) :
    LeavesSuffix ((Parser.capture pattern regex group).run diagnostics) := by
  intro input value rest h
  rw [Parser.run, Run.outcome_done_eq_ok_iff, Parser.regexMatch] at h
  split at h
  · cases h
  · cases h
    exact List.drop_suffix _ _

/-- A regular expression leaves what it leaves as a capture of the whole match. -/
theorem regex (pattern : String) (regex : Regex) :
    LeavesSuffix ((Parser.regex pattern regex).run diagnostics) := by
  intro input value rest h
  rw [Parser.run] at h
  exact @capture diagnostics pattern regex 0 input value rest (by rwa [Parser.run])

theorem endOfInput : LeavesSuffix (Parser.endOfInput.run diagnostics) := by
  intro input value rest h
  rw [Parser.run, Run.outcome_done_eq_ok_iff] at h
  split at h
  · cases h
    exact List.suffix_refl _
  · cases h

theorem trim (h : LeavesSuffix (p.run diagnostics)) : LeavesSuffix (p.trim.run diagnostics) := by
  intro input value rest hr
  rw [Parser.run] at hr
  obtain ⟨value', r, hm, hr⟩ := Run.outcome_ifFound_iff.mp hr
  cases hr
  exact ((Text.trimStart_suffix r).trans (h _ _ r hm)).trans (Text.trimStart_suffix input)

theorem pair (h : LeavesSuffix (p.run diagnostics)) (h' : LeavesSuffix (q.run diagnostics)) :
    LeavesSuffix ((p.pair q).run diagnostics) := by
  intro input value rest hr
  rw [Parser.run] at hr
  refine h.ifFound (fun a r b rest hb => ?_) input value rest hr
  refine h'.ifFound (fun b r c rest hc => ?_) r b rest hb
  cases hc
  exact List.suffix_refl _

theorem zeroOrMore (h : LeavesSuffix (p.run diagnostics)) :
    LeavesSuffix (p.zeroOrMore.run diagnostics) := by
  intro input values rest hr
  rw [Parser.run] at hr
  exact h.repeated (fun _ => true) input values rest hr

theorem atLeast (n : Nat) (h : LeavesSuffix (p.run diagnostics)) :
    LeavesSuffix ((Parser.atLeast n p).run diagnostics) := by
  intro input values rest hr
  rw [Parser.run] at hr
  exact h.repeated (fun values => n ≤ values.length) input values rest (by simpa using hr)

theorem oneOrMore (h : LeavesSuffix (p.run diagnostics)) :
    LeavesSuffix (p.oneOrMore.run diagnostics) := by
  intro input values rest hr
  rw [Parser.run] at hr
  exact h.repeated (fun values => 1 ≤ values.length) input values rest (by simpa using hr)

theorem optional (h : LeavesSuffix (p.run diagnostics)) :
    LeavesSuffix (p.optional.run diagnostics) := by
  intro input value rest hr
  rw [Parser.run] at hr
  obtain ⟨m, hm, hr⟩ := Run.outcome_bind_eq_ok_iff.mp hr
  cases m with
  | found a r =>
    cases hr
    exact h input a rest hm
  | absent =>
    cases hr
    exact List.suffix_refl _

theorem labeled {p : Parser (List α)} (names : List String) (h : LeavesSuffix (p.run diagnostics)) :
    LeavesSuffix ((Parser.labeled names p).run diagnostics) := by
  intro input value rest hr
  rw [Parser.run] at hr
  refine h.ifFound (fun a r b rest hb => ?_) input value rest hr
  rw [Run.outcome_done_eq_ok_iff] at hb
  split at hb
  · cases hb
    exact List.suffix_refl _
  · cases hb

theorem transform (f : α → Except Fault β) (h : LeavesSuffix (p.run diagnostics)) :
    LeavesSuffix ((p.transform f).run diagnostics) := by
  intro input value rest hr
  rw [Parser.run] at hr
  refine h.ifFound (fun a r b rest hb => ?_) input value rest hr
  obtain ⟨c, -, hb⟩ := Run.outcome_bind_eq_ok_iff.mp hb
  cases hb
  exact List.suffix_refl _

theorem filter (test : α → Except Fault Bool) (h : LeavesSuffix (p.run diagnostics)) :
    LeavesSuffix ((p.filter test).run diagnostics) := by
  intro input value rest hr
  rw [Parser.run] at hr
  refine h.ifFound (fun a r b rest hb => ?_) input value rest hr
  obtain ⟨passed, -, hb⟩ := Run.outcome_bind_eq_ok_iff.mp hb
  rw [Run.outcome_done_eq_ok_iff] at hb
  split at hb
  · cases hb
    exact List.suffix_refl _
  · cases hb

theorem negatePresence : LeavesSuffix (p.negatePresence.run diagnostics) := by
  intro input value rest hr
  obtain rfl : rest = input := Parser.rest_of_negatePresence hr
  exact List.suffix_refl _

theorem all (h : LeavesSuffix (p.run diagnostics)) : LeavesSuffix (p.all.run diagnostics) := by
  intro input value rest hr
  rw [Parser.run] at hr
  obtain ⟨m, hm, hr⟩ := Run.outcome_bind_eq_ok_iff.mp hr
  rw [Run.outcome_done_eq_ok_iff] at hr
  split at hr
  · cases hr
    exact h input value rest hm
  · cases hr

/-- A guard turns a fault into no match, and then there is nothing left to speak of. -/
theorem guarded (reported : Bool) (h : LeavesSuffix (p.run diagnostics)) :
    LeavesSuffix ((p.guarded reported).run diagnostics) := by
  intro input value rest hr
  rw [Parser.run] at hr
  simp only at hr
  split at hr
  · exact h input value rest hr
  · cases hr

theorem traced (h : LeavesSuffix (p.run diagnostics)) : LeavesSuffix (p.traced.run diagnostics) := by
  intro input value rest hr
  rw [Parser.run] at hr
  obtain ⟨m, hm, hr⟩ := Run.outcome_bind_eq_ok_iff.mp hr
  cases hr
  exact h input value rest hm

theorem described (description : String) (h : LeavesSuffix (p.run diagnostics)) :
    LeavesSuffix ((p.described description).run diagnostics) := by
  intro input value rest hr
  rw [Parser.run] at hr
  exact h input value rest hr

end LeavesSuffix

/-! ## Parsers in any nesting -/

mutual

/-- All user code in a parser leaves an end of its input where it matches. -/
def Parser.Sound {α : Type} : Parser α → Prop
  | .literal _ => True
  | .regex _ _ => True
  | .capture _ _ _ => True
  | .endOfInput => True
  | .leaf _ run => ∀ input value rest, run input = .ok (.found value rest) → rest <:+ input
  | .trim p => p.Sound
  | .sequence ps => ps.Sound
  | .pair p q => p.Sound ∧ q.Sound
  | .alternation ps => ps.Sound
  | .conjunction ps => ps.Sound
  | .zeroOrMore p => p.Sound
  | .atLeast _ p => p.Sound
  | .oneOrMore p => p.Sound
  | .optional p => p.Sound
  | .labeled _ p => p.Sound
  | .transform p _ => p.Sound
  | .filter p _ => p.Sound
  | .negatePresence p => p.Sound
  | .all p => p.Sound
  | .guarded _ p => p.Sound
  | .traced p => p.Sound
  | .described _ p => p.Sound

/-- All user code in some parsers leaves an end of its input where it matches. -/
def Parsers.Sound {α : Type} : Parsers α → Prop
  | .nil => True
  | .cons p ps => p.Sound ∧ ps.Sound

end

mutual

/-- A parser of sound user code leaves an end of its input. -/
theorem Parser.leavesSuffix_run (diagnostics : Diagnostics) :
    {α : Type} → (p : Parser α) → p.Sound → LeavesSuffix (p.run diagnostics)
  | _, .literal text, _ => .literal text
  | _, .regex pattern regex, _ => .regex pattern regex
  | _, .capture pattern regex group, _ => .capture pattern regex group
  | _, .endOfInput, _ => .endOfInput
  | _, .leaf _ _, hp => fun input value rest h => hp input value rest (by rwa [Parser.run] at h)
  | _, .trim p, hp => (p.leavesSuffix_run diagnostics hp).trim
  | _, .sequence ps, hp => fun input value rest h =>
    ps.leavesSuffix_runAll diagnostics hp input value rest (by rwa [Parser.run] at h)
  | _, .pair p q, hp =>
    (p.leavesSuffix_run diagnostics hp.1).pair (q.leavesSuffix_run diagnostics hp.2)
  | _, .alternation ps, hp => fun input value rest h =>
    ps.leavesSuffix_runFirst diagnostics hp input value rest (by rwa [Parser.run] at h)
  | _, .conjunction ps, hp => fun input value rest h =>
    ps.suffix_of_runEach diagnostics hp input .absent value rest (fun _ _ hl => nomatch hl)
      (by rwa [Parser.run] at h)
  | _, .zeroOrMore p, hp => (p.leavesSuffix_run diagnostics hp).zeroOrMore
  | _, .atLeast n p, hp => (p.leavesSuffix_run diagnostics hp).atLeast n
  | _, .oneOrMore p, hp => (p.leavesSuffix_run diagnostics hp).oneOrMore
  | _, .optional p, hp => (p.leavesSuffix_run diagnostics hp).optional
  | _, .labeled names p, hp => (p.leavesSuffix_run diagnostics hp).labeled names
  | _, .transform p f, hp => (p.leavesSuffix_run diagnostics hp).transform f
  | _, .filter p test, hp => (p.leavesSuffix_run diagnostics hp).filter test
  | _, .negatePresence _, _ => .negatePresence
  | _, .all p, hp => (p.leavesSuffix_run diagnostics hp).all
  | _, .guarded reported p, hp => (p.leavesSuffix_run diagnostics hp).guarded reported
  | _, .traced p, hp => (p.leavesSuffix_run diagnostics hp).traced
  | _, .described description p, hp => (p.leavesSuffix_run diagnostics hp).described description

theorem Parsers.leavesSuffix_runAll (diagnostics : Diagnostics) :
    {α : Type} → (ps : Parsers α) → ps.Sound → LeavesSuffix (ps.runAll diagnostics)
  | _, .nil, _ => fun input values rest h => by
    cases h
    exact List.suffix_refl _
  | _, .cons p ps, hp => fun input values rest h => by
    rw [Parsers.runAll] at h
    refine (p.leavesSuffix_run diagnostics hp.1).ifFound (fun a r b rest hb => ?_) _ _ _ h
    refine (ps.leavesSuffix_runAll diagnostics hp.2).ifFound (fun a r b rest hb => ?_) _ _ _ hb
    cases hb
    exact List.suffix_refl _

theorem Parsers.leavesSuffix_runFirst (diagnostics : Diagnostics) :
    {α : Type} → (ps : Parsers α) → ps.Sound → LeavesSuffix (ps.runFirst diagnostics)
  | _, .nil, _ => fun input value rest h => nomatch h
  | _, .cons p ps, hp => fun input value rest h => by
    rw [Parsers.runFirst] at h
    obtain ⟨m, hm, h⟩ := Run.outcome_bind_eq_ok_iff.mp h
    cases m with
    | found a r =>
      cases h
      exact p.leavesSuffix_run diagnostics hp.1 input value rest hm
    | absent => exact ps.leavesSuffix_runFirst diagnostics hp.2 input value rest h

/-- Parsers that all have to match answer as the last of them does, or as the one before them if there are
none. -/
theorem Parsers.suffix_of_runEach (diagnostics : Diagnostics) :
    {α : Type} → (ps : Parsers α) → ps.Sound → ∀ (input : List Char) (last : Match α) (value : α)
      (rest : List Char), (∀ v r, last = .found v r → r <:+ input) →
      (ps.runEach diagnostics input last).outcome = .ok (.found value rest) → rest <:+ input
  | _, .nil, _, _, _, value, rest, hl, h => hl value rest (Except.ok.inj h)
  | _, .cons p ps, hp, input, last, value, rest, hl, h => by
    rw [Parsers.runEach] at h
    obtain ⟨a, r, ha, h⟩ := Run.outcome_ifFound_iff.mp h
    refine ps.suffix_of_runEach diagnostics hp.2 input _ value rest (fun v r' hv => ?_) h
    cases hv
    exact p.leavesSuffix_run diagnostics hp.1 input a r ha

end

namespace Parser

/-- What a parser takes and what it leaves make up its input: what it leaves is an end of the input, and
what it took is the part of the input before that. A parser for what must not come next and one for
something optional that is not there leave all of their input. -/
theorem consumed_append_of_run (diagnostics : Diagnostics) (p : Parser α) (hp : p.Sound)
    (input rest : List Char) :
    (∀ value, (p.run diagnostics input).outcome = .ok (.found value rest) →
      rest <:+ input ∧
        ∃ taken, (Match.found value rest).consumed? input = some taken ∧ taken ++ rest = input) ∧
    ((p.negatePresence.run diagnostics input).outcome = .ok (.found () rest) → rest = input) ∧
    ((p.optional.run diagnostics input).outcome = .ok (.found none rest) → rest = input) := by
  refine ⟨fun value h => ?_, rest_of_negatePresence, rest_of_optional_none⟩
  have hsuffix : rest <:+ input := p.leavesSuffix_run diagnostics hp input value rest h
  have htaken : (Match.found value rest).consumed? input =
      some (input.take (input.length - rest.length)) :=
    if_pos (List.isSuffixOf_iff_suffix.mpr hsuffix)
  exact ⟨hsuffix, _, htaken, Match.consumed?_append htaken rfl⟩

/-- User code that reads one character. -/
def anyChar : Parser Char := .leaf "any" fun
  | [] => .ok .absent
  | c :: r => .ok (.found c r)

theorem sound_anyChar : anyChar.Sound := by
  intro input value rest h
  cases input with
  | nil => cases h
  | cons c r =>
    cases h
    exact List.suffix_cons _ _

/-- Characters are read between spaces up to a mark. Of ` a b!` all but the mark is taken, though a guarded
parser faults before each character. -/
theorem consumed_append_of_marked :
    let faulty : Parser Char := .guarded true (.transform anyChar fun _ => .error .other)
    let letter : Parser Char := .filter anyChar fun c => .ok (c != '!')
    let letters : Parser (List Char) := .oneOrMore (.trim (.alternation (.ofList [faulty, letter])))
    letters.Sound ∧
      (letters.run .recording [' ', 'a', ' ', 'b', '!']).outcome = .ok (.found ['a', 'b'] ['!']) ∧
      ['!'] <:+ [' ', 'a', ' ', 'b', '!'] ∧
      ∃ taken, (Match.found ['a', 'b'] ['!']).consumed? [' ', 'a', ' ', 'b', '!'] = some taken ∧
        taken ++ ['!'] = [' ', 'a', ' ', 'b', '!'] := by
  intro faulty letter letters
  have hsound : letters.Sound := ⟨sound_anyChar, sound_anyChar, trivial⟩
  have hrun : (letters.run .recording [' ', 'a', ' ', 'b', '!']).outcome =
      .ok (.found ['a', 'b'] ['!']) := by rfl
  exact ⟨hsound, hrun, (consumed_append_of_run .recording letters hsound _ _).1 _ hrun⟩

end Parser
end RowQuery
