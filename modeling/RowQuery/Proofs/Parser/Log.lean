import RowQuery.Proofs.Parser.Suffix

/-!
What the events of a run tell.

* `Parser.record`: a run whose events are kept.
* `Parser.exposed`: the parts of a parser that a run comes to first.
* `Raises`: user code and a fault of it.
* `Balanced`: events in which each traced part that begins also ends; `close?` checks this with a stack.
* `Log`: events of any run, with the faults that were caught and the one that got out.
* `Parser.unguarded`: a parser whose guards catch nothing. It ends with an answer just if nothing faults.
* `Parser.log_record`: the events of a run are such a log, and they are balanced if nothing faults.

Both relations say of each piece of the events which part of the parser was run, and on which text; the piece
is all that the run of that part reports.
-/
namespace RowQuery

variable {α β : Type}

/-! ## Runs and parts -/

/-- The fault that a run ended with, if any. -/
def Run.fault? (run : Run α) : Option Fault :=
  match run.outcome with
  | .ok _ => none
  | .error fault => some fault

/-- The run of a parser whose events are kept. -/
def Parser.record (p : Parser α) (input : List Char) : Run (Match α) := p.run .recording input

/-- How a parser shows itself in these events. -/
def Parser.name (p : Parser α) : String := p.description .recording

mutual

/-- The traced parts, the guarded parts and the user code of a parser that are not inside a traced part or a
guarded part: what else a run does reports nothing and does not fault. -/
def Parser.exposed {α : Type} : Parser α → List ((β : Type) × Parser β)
  | .literal _ => []
  | .regex _ _ => []
  | .capture _ _ _ => []
  | .endOfInput => []
  | .leaf description run => [⟨_, .leaf description run⟩]
  | .trim p => p.exposed
  | .sequence ps => ps.exposed
  | .pair p q => p.exposed ++ q.exposed
  | .alternation ps => ps.exposed
  | .conjunction ps => ps.exposed
  | .zeroOrMore p => p.exposed
  | .atLeast _ p => p.exposed
  | .oneOrMore p => p.exposed
  | .optional p => p.exposed
  | .labeled _ p => p.exposed
  | .transform p f => ⟨_, .transform p f⟩ :: p.exposed
  | .filter p test => ⟨_, .filter p test⟩ :: p.exposed
  | .negatePresence p => p.exposed
  | .all p => p.exposed
  | .guarded reported p => [⟨_, .guarded reported p⟩]
  | .traced p => [⟨_, .traced p⟩]
  | .described _ p => p.exposed

/-- These parts of some parsers. -/
def Parsers.exposed {α : Type} : Parsers α → List ((β : Type) × Parser β)
  | .nil => []
  | .cons p ps => p.exposed ++ ps.exposed

end

/-- The user code of a parser may raise a fault. -/
inductive Raises : {β : Type} → Parser β → Fault → Prop
  | leaf {β : Type} {description : String} {run : List Char → Except Fault (Match β)}
      {input : List Char} {fault : Fault} (h : run input = .error fault) :
      Raises (.leaf description run) fault
  | transform {α β : Type} {p : Parser α} {f : α → Except Fault β} {a : α} {fault : Fault}
      (h : f a = .error fault) : Raises (.transform p f) fault
  | filter {β : Type} {p : Parser β} {test : β → Except Fault Bool} {b : β} {fault : Fault}
      (h : test b = .error fault) : Raises (.filter p test) fault

mutual

/-- A parser whose guards catch nothing. Its traced parts are named as those of the parser; a fault anywhere
ends its run, and up to there it does as the parser does. -/
def Parser.unguarded {α : Type} : Parser α → Parser α
  | .literal text => .literal text
  | .regex pattern regex => .regex pattern regex
  | .capture pattern regex group => .capture pattern regex group
  | .endOfInput => .endOfInput
  | .leaf description run => .leaf description run
  | .trim p => .trim p.unguarded
  | .sequence ps => .sequence ps.unguarded
  | .pair p q => .pair p.unguarded q.unguarded
  | .alternation ps => .alternation ps.unguarded
  | .conjunction ps => .conjunction ps.unguarded
  | .zeroOrMore p => .zeroOrMore p.unguarded
  | .atLeast n p => .atLeast n p.unguarded
  | .oneOrMore p => .oneOrMore p.unguarded
  | .optional p => .optional p.unguarded
  | .labeled names p => .labeled names p.unguarded
  | .transform p f => .transform p.unguarded f
  | .filter p test => .filter p.unguarded test
  | .negatePresence p => .negatePresence p.unguarded
  | .all p => .all p.unguarded
  | .guarded _ p => p.unguarded
  | .traced p => .traced (.described p.name p.unguarded)
  | .described description p => .described description p.unguarded

/-- Some parsers whose guards catch nothing. -/
def Parsers.unguarded {α : Type} : Parsers α → Parsers α
  | .nil => .nil
  | .cons p ps => .cons p.unguarded ps.unguarded

end

/-! ## Balanced events -/

/-- The events of traced parts that were run one after another and all ended with an answer. In each, the
first event and the last go together: they name the part and its text, and the last tells what the part
left over. -/
inductive Balanced : List ((β : Type) × Parser β) → List Event → Prop
  | nil {exposed : List ((β : Type) × Parser β)} : Balanced exposed []
  | span {exposed : List ((β : Type) × Parser β)} {β : Type} {q : Parser β} {input : List Char}
      {m : Match β} {rest : List Event} (hq : ⟨β, .traced q⟩ ∈ exposed)
      (h : (q.record input).outcome = .ok m) (inside : Balanced q.exposed (q.record input).events)
      (hr : Balanced exposed rest) :
      Balanced exposed (.enter q.name input ::
        ((q.record input).events ++ .exit q.name input m.rest? :: rest))
  | guarded {exposed : List ((β : Type) × Parser β)} {β : Type} {q : Parser β} {reported : Bool}
      {input : List Char} {m : Match β} {rest : List Event}
      (hq : ⟨β, .guarded reported q⟩ ∈ exposed) (h : (q.record input).outcome = .ok m)
      (inside : Balanced q.exposed (q.record input).events) (hr : Balanced exposed rest) :
      Balanced exposed ((q.record input).events ++ rest)

/-- What has begun and not ended after one more event, the innermost first. An end has to name the parser and
the text of the innermost; a fault has no place here. -/
def close? (opened : List (String × List Char)) : Event → Option (List (String × List Char))
  | .enter parser input => some ((parser, input) :: opened)
  | .exit parser input _ =>
    match opened with
    | [] => none
    | innermost :: outer => if innermost = (parser, input) then some outer else none
  | .fault _ _ _ => none

namespace Balanced

variable {exposed more : List ((β : Type) × Parser β)} {events others : List Event}

theorem append (h : Balanced exposed events) (h' : Balanced exposed others) :
    Balanced exposed (events ++ others) := by
  induction h with
  | nil => exact h'
  | span hq hm inside _ _ ih =>
    rw [List.cons_append, List.append_assoc, List.cons_append]
    exact .span hq hm inside (ih h')
  | guarded hq hm inside _ _ ih =>
    rw [List.append_assoc]
    exact .guarded hq hm inside (ih h')

theorem mono (h : Balanced exposed events) (hw : exposed ⊆ more) : Balanced more events := by
  induction h with
  | nil => exact .nil
  | span hq hm inside _ _ ih => exact .span (hw hq) hm inside (ih hw)
  | guarded hq hm inside _ _ ih => exact .guarded (hw hq) hm inside (ih hw)

/-- Everything that begins ends, the innermost first. -/
theorem foldlM_close? (h : Balanced exposed events) (opened : List (String × List Char)) :
    events.foldlM close? opened = some opened := by
  induction h generalizing opened with
  | nil => rfl
  | span _ _ _ _ ihInside ih => simp [close?, ihInside, ih]
  | guarded _ _ _ _ ihInside ih => simp [ihInside, ih]

end Balanced

/-! ## Events of any run -/

/-- The events of exposed parts that were run one after another, up to the fault if there is one.

A traced part that ended with an answer has its two events around those inside. A guarded part has only
those inside, and one of the guard if that caught a fault and reports it. If a fault gets out, then
either user code raised it just there, or the last part run was a traced one that it went through, which has
begun and not ended. -/
inductive Log : List ((β : Type) × Parser β) → Option Fault → List Event → Prop
  | nil {exposed : List ((β : Type) × Parser β)} : Log exposed none []
  | span {exposed : List ((β : Type) × Parser β)} {fault : Option Fault} {β : Type} {q : Parser β}
      {input : List Char} {m : Match β} {rest : List Event} (hq : ⟨β, .traced q⟩ ∈ exposed)
      (h : (q.record input).outcome = .ok m) (inside : Log q.exposed none (q.record input).events)
      (hr : Log exposed fault rest) :
      Log exposed fault (.enter q.name input ::
        ((q.record input).events ++ .exit q.name input m.rest? :: rest))
  | guarded {exposed : List ((β : Type) × Parser β)} {fault : Option Fault} {β : Type}
      {q : Parser β} {reported : Bool} {input : List Char} {m : Match β} {rest : List Event}
      (hq : ⟨β, .guarded reported q⟩ ∈ exposed) (h : (q.record input).outcome = .ok m)
      (inside : Log q.exposed none (q.record input).events) (hr : Log exposed fault rest) :
      Log exposed fault ((q.record input).events ++ rest)
  | caught {exposed : List ((β : Type) × Parser β)} {fault : Option Fault} {β : Type} {q : Parser β}
      {reported : Bool} {input : List Char} {held : Fault} {rest : List Event}
      (hq : ⟨β, .guarded reported q⟩ ∈ exposed) (h : (q.record input).outcome = .error held)
      (inside : Log q.exposed (some held) (q.record input).events) (hr : Log exposed fault rest) :
      Log exposed fault ((q.record input).events ++
        ((if reported then [.fault q.name input held.message] else []) ++ rest))
  | raised {exposed : List ((β : Type) × Parser β)} {fault : Fault} {β : Type} {q : Parser β}
      (hq : ⟨β, q⟩ ∈ exposed) (h : Raises q fault) : Log exposed (some fault) []
  | left {exposed : List ((β : Type) × Parser β)} {fault : Fault} {β : Type} {q : Parser β}
      {input : List Char} (hq : ⟨β, .traced q⟩ ∈ exposed)
      (h : (q.record input).outcome = .error fault)
      (inside : Log q.exposed (some fault) (q.record input).events) :
      Log exposed (some fault) (.enter q.name input :: (q.record input).events)

namespace Log

variable {exposed more : List ((β : Type) × Parser β)} {fault : Option Fault}
  {events others : List Event}

theorem append (h : Log exposed none events) (h' : Log exposed fault others) :
    Log exposed fault (events ++ others) := by
  generalize hnone : (none : Option Fault) = ending at h
  induction h with
  | nil => exact h'
  | span hq hm inside _ _ ih =>
    rw [List.cons_append, List.append_assoc, List.cons_append]
    exact .span hq hm inside (ih h' hnone)
  | guarded hq hm inside _ _ ih =>
    rw [List.append_assoc]
    exact .guarded hq hm inside (ih h' hnone)
  | caught hq hm inside _ _ ih =>
    rw [List.append_assoc, List.append_assoc]
    exact .caught hq hm inside (ih h' hnone)
  | raised => cases hnone
  | left => cases hnone

theorem mono (h : Log exposed fault events) (hw : exposed ⊆ more) : Log more fault events := by
  induction h with
  | nil => exact .nil
  | span hq hm inside _ _ ih => exact .span (hw hq) hm inside (ih hw)
  | guarded hq hm inside _ _ ih => exact .guarded (hw hq) hm inside (ih hw)
  | caught hq hm inside _ _ ih => exact .caught (hw hq) hm inside (ih hw)
  | raised hq h => exact .raised (hw hq) h
  | left hq hm inside => exact .left (hw hq) hm inside

end Log

/-- The run of a traced parser is that of the parser between two events. -/
theorem Parser.record_traced (p : Parser α) (input : List Char) :
    p.traced.record input =
      ((p.record input).bind fun m => ⟨[.exit p.name input m.rest?], .ok m⟩).before
        [.enter p.name input] := by
  rw [record, Parser.run]
  rfl

/-- The run of a guarded parser that faults ends there without a match. -/
theorem Parser.record_guarded_of_fault {p : Parser α} {input : List Char} {fault : Fault}
    (h : (p.record input).outcome = .error fault) (reported : Bool) :
    (p.guarded reported).record input =
      ⟨(p.record input).events ++
        if reported then [.fault p.name input fault.message] else [], .ok .absent⟩ := by
  unfold record at h
  rw [record, Parser.run]
  simp only [h]
  rfl

/-- Where nothing faults, a guard does nothing. -/
theorem Parser.record_guarded_of_ok {p : Parser α} {input : List Char} {m : Match α}
    (h : (p.record input).outcome = .ok m) (reported : Bool) :
    (p.guarded reported).record input = p.record input := by
  unfold record at h
  rw [record, Parser.run]
  simp only [h]
  rfl

/-! ## Runs with such events -/

/-- The events of a run are a log of exposed parts, with the fault that the run ended with. -/
def Logged (exposed : List ((β : Type) × Parser β)) (run : Run α) : Prop :=
  Log exposed run.fault? run.events

namespace Logged

variable {exposed more : List ((β : Type) × Parser β)} {run : Run α}

theorem done (a : α) : Logged exposed (Run.done a) := Log.nil

/-- User code reports nothing, and its faults are its own. -/
theorem lift {q : Parser β} (hq : ⟨β, q⟩ ∈ exposed) {outcome : Except Fault α}
    (h : ∀ fault, outcome = .error fault → Raises q fault) : Logged exposed (Run.lift outcome) := by
  cases outcome with
  | ok a => exact Log.nil
  | error fault => exact Log.raised hq (h fault rfl)

theorem mono (h : Logged exposed run) (hw : exposed ⊆ more) : Logged more run := Log.mono h hw

/-- A fault ends the log; after an answer it goes on. -/
theorem bind {next : α → Run β} (h : Logged exposed run) (hn : ∀ a, Logged exposed (next a)) :
    Logged exposed (run.bind next) := by
  unfold Logged Run.fault? at h
  unfold Logged Run.fault? Run.bind
  cases hrun : run.outcome with
  | error fault =>
    rw [hrun] at h
    exact h
  | ok a =>
    rw [hrun] at h
    exact h.append (hn a)

theorem ifFound {run : Run (Match α)} {next : α → List Char → Run (Match β)}
    (h : Logged exposed run) (hn : ∀ a rest, Logged exposed (next a rest)) :
    Logged exposed (run.ifFound next) := by
  refine h.bind fun m => ?_
  cases m with
  | found a rest => exact hn a rest
  | absent => exact done _

theorem repeatFrom {step : List Char → Run (Match α)} (h : ∀ input, Logged exposed (step input))
    (rounds : Nat) (input : List Char) : Logged exposed (RowQuery.repeatFrom step rounds input) := by
  induction rounds generalizing input with
  | zero => exact done _
  | succ rounds ih =>
    refine (h input).bind fun m => ?_
    cases m with
    | absent => exact done _
    | found value rest =>
      simp only
      split
      · exact (ih rest).bind fun _ => done _
      · exact done _

/-- A repetition has the events of its rounds, whatever is made of their answers. -/
theorem repeated {step : List Char → Run (Match α)} (h : ∀ input, Logged exposed (step input))
    (input : List Char) (next : List α × List Char → β) :
    Logged exposed ((RowQuery.repeated step input).bind fun rounds => .done (next rounds)) :=
  (repeatFrom h _ input).bind fun _ => done _

/-- The two events of a traced parser go around its own; after a fault there is no second one. -/
theorem traced {p : Parser α} {input : List Char} (h : Logged p.exposed (p.record input)) :
    Logged p.traced.exposed (p.traced.record input) := by
  have hmem : ⟨α, p.traced⟩ ∈ p.traced.exposed := List.mem_cons_self
  unfold Logged Run.fault? at h
  rw [p.record_traced]
  unfold Logged Run.fault? Run.before Run.bind
  cases hp : (p.record input).outcome with
  | error fault =>
    rw [hp] at h
    exact .left hmem hp h
  | ok m =>
    rw [hp] at h
    exact .span hmem hp h .nil

/-- A guard that catches a fault may add an event, and then there is no fault. -/
theorem guarded {p : Parser α} {input : List Char} (h : Logged p.exposed (p.record input))
    (reported : Bool) : Logged (p.guarded reported).exposed ((p.guarded reported).record input) := by
  have hmem : ⟨α, p.guarded reported⟩ ∈ (p.guarded reported).exposed := List.mem_cons_self
  cases hp : (p.record input).outcome with
  | error fault =>
    unfold Logged Run.fault? at h
    rw [hp] at h
    have hlog : Log (p.guarded reported).exposed none ((p.record input).events ++
        ((if reported then [.fault p.name input fault.message] else []) ++ [])) :=
      .caught hmem hp h .nil
    rw [List.append_nil] at hlog
    rw [Parser.record_guarded_of_fault hp]
    exact hlog
  | ok m =>
    unfold Logged Run.fault? at h
    rw [hp] at h
    have hlog : Log (p.guarded reported).exposed none ((p.record input).events ++ []) :=
      .guarded hmem hp h .nil
    rw [List.append_nil] at hlog
    rw [Parser.record_guarded_of_ok hp]
    unfold Logged Run.fault?
    rw [hp]
    exact hlog

end Logged

mutual

theorem Parser.logged_record :
    {α : Type} → (p : Parser α) → (input : List Char) → Logged p.exposed (p.record input)
  | _, .literal _, _ => .done _
  | _, .regex _ _, _ => .done _
  | _, .capture _ _ _, _ => .done _
  | _, .endOfInput, _ => .done _
  | _, .leaf _ _, _ => .lift List.mem_cons_self fun _ => .leaf
  | _, .trim p, input => by
    rw [Parser.record, Parser.run]
    exact (p.logged_record _).ifFound fun _ _ => .done _
  | _, .sequence ps, input => by
    rw [Parser.record, Parser.run]
    exact ps.logged_runAll input
  | _, .pair p q, input => by
    rw [Parser.record, Parser.run]
    exact ((p.logged_record input).mono (List.subset_append_left _ _)).ifFound fun _ rest =>
      ((q.logged_record rest).mono (List.subset_append_right _ _)).ifFound fun _ _ => .done _
  | _, .alternation ps, input => by
    rw [Parser.record, Parser.run]
    exact ps.logged_runFirst input
  | _, .conjunction ps, input => by
    rw [Parser.record, Parser.run]
    exact ps.logged_runEach input .absent
  | _, .zeroOrMore p, input => by
    rw [Parser.record, Parser.run]
    exact .repeated p.logged_record input _
  | _, .atLeast _ p, input => by
    rw [Parser.record, Parser.run]
    exact .repeated p.logged_record input _
  | _, .oneOrMore p, input => by
    rw [Parser.record, Parser.run]
    exact .repeated p.logged_record input _
  | _, .optional p, input => by
    rw [Parser.record, Parser.run]
    refine (p.logged_record input).bind fun m => ?_
    cases m with
    | found => exact .done _
    | absent => exact .done _
  | _, .labeled _ p, input => by
    rw [Parser.record, Parser.run]
    exact (p.logged_record input).ifFound fun _ _ => .done _
  | _, .transform p _, input => by
    rw [Parser.record, Parser.run]
    exact ((p.logged_record input).mono (List.subset_cons_self _ _)).ifFound fun _ _ =>
      (Logged.lift List.mem_cons_self fun _ => .transform).bind fun _ => .done _
  | _, .filter p _, input => by
    rw [Parser.record, Parser.run]
    exact ((p.logged_record input).mono (List.subset_cons_self _ _)).ifFound fun _ _ =>
      (Logged.lift List.mem_cons_self fun _ => .filter).bind fun _ => .done _
  | _, .negatePresence p, input => by
    rw [Parser.record, Parser.run]
    exact (p.logged_record input).bind fun _ => .done _
  | _, .all p, input => by
    rw [Parser.record, Parser.run]
    exact (p.logged_record input).bind fun _ => .done _
  | _, .guarded reported p, input => (p.logged_record input).guarded reported
  | _, .traced p, input => (p.logged_record input).traced
  | _, .described _ p, input => by
    rw [Parser.record, Parser.run]
    exact p.logged_record input

theorem Parsers.logged_runAll :
    {α : Type} → (ps : Parsers α) → (input : List Char) →
      Logged ps.exposed (ps.runAll .recording input)
  | _, .nil, _ => .done _
  | _, .cons p ps, input => by
    rw [Parsers.runAll]
    exact ((p.logged_record input).mono (List.subset_append_left _ _)).ifFound fun _ rest =>
      ((ps.logged_runAll rest).mono (List.subset_append_right _ _)).ifFound fun _ _ => .done _

theorem Parsers.logged_runFirst :
    {α : Type} → (ps : Parsers α) → (input : List Char) →
      Logged ps.exposed (ps.runFirst .recording input)
  | _, .nil, _ => .done _
  | _, .cons p ps, input => by
    rw [Parsers.runFirst]
    refine ((p.logged_record input).mono (List.subset_append_left _ _)).bind fun m => ?_
    cases m with
    | found => exact .done _
    | absent => exact (ps.logged_runFirst input).mono (List.subset_append_right _ _)

theorem Parsers.logged_runEach :
    {α : Type} → (ps : Parsers α) → (input : List Char) → (last : Match α) →
      Logged ps.exposed (ps.runEach .recording input last)
  | _, .nil, _, _ => .done _
  | _, .cons p ps, input, _ => by
    rw [Parsers.runEach]
    exact ((p.logged_record input).mono (List.subset_append_left _ _)).ifFound fun _ _ =>
      (ps.logged_runEach input _).mono (List.subset_append_right _ _)

end

/-! ## Where nothing faults -/

/-- If a run without guards ends with an answer, it is the run with guards, and its events are balanced. -/
def Quiet (exposed : List ((β : Type) × Parser β)) (run run' : Run α) : Prop :=
  ∀ a, run'.outcome = .ok a → run = run' ∧ Balanced exposed run.events

namespace Quiet

variable {exposed more : List ((β : Type) × Parser β)} {run run' : Run α}

theorem of_silent (h : run.events = []) : Quiet exposed run run :=
  fun _ _ => ⟨rfl, h ▸ .nil⟩

theorem done (a : α) : Quiet exposed (Run.done a) (Run.done a) := of_silent rfl

theorem lift (outcome : Except Fault α) : Quiet exposed (Run.lift outcome) (Run.lift outcome) :=
  of_silent rfl

theorem mono (h : Quiet exposed run run') (hw : exposed ⊆ more) : Quiet more run run' :=
  fun a ha => ⟨(h a ha).1, (h a ha).2.mono hw⟩

/-- A run that ends with an answer has no part that ended otherwise. -/
theorem bind {next next' : α → Run β} (h : Quiet exposed run run')
    (hn : ∀ a, Quiet exposed (next a) (next' a)) : Quiet exposed (run.bind next) (run'.bind next') := by
  intro b hb
  obtain ⟨a, ha, hanswer⟩ := Run.outcome_bind_eq_ok_iff.mp hb
  obtain ⟨rfl, hbefore⟩ := h a ha
  obtain ⟨hnext, hafter⟩ := hn a b hanswer
  simp only [Run.bind, ha]
  rw [hnext] at hafter ⊢
  exact ⟨rfl, hbefore.append hafter⟩

theorem ifFound {run run' : Run (Match α)} {next next' : α → List Char → Run (Match β)}
    (h : Quiet exposed run run') (hn : ∀ a rest, Quiet exposed (next a rest) (next' a rest)) :
    Quiet exposed (run.ifFound next) (run'.ifFound next') := by
  refine h.bind fun m => ?_
  cases m with
  | found a rest => exact hn a rest
  | absent => exact done _

theorem repeatFrom {step step' : List Char → Run (Match α)}
    (h : ∀ input, Quiet exposed (step input) (step' input)) (rounds : Nat) (input : List Char) :
    Quiet exposed (RowQuery.repeatFrom step rounds input)
      (RowQuery.repeatFrom step' rounds input) := by
  induction rounds generalizing input with
  | zero => exact done _
  | succ rounds ih =>
    refine (h input).bind fun m => ?_
    cases m with
    | absent => exact done _
    | found value rest =>
      simp only
      split
      · exact (ih rest).bind fun _ => done _
      · exact done _

theorem repeated {step step' : List Char → Run (Match α)}
    (h : ∀ input, Quiet exposed (step input) (step' input)) (input : List Char)
    (next : List α × List Char → β) :
    Quiet exposed ((RowQuery.repeated step input).bind fun rounds => .done (next rounds))
      ((RowQuery.repeated step' input).bind fun rounds => .done (next rounds)) :=
  (repeatFrom h _ input).bind fun _ => done _

theorem traced {p : Parser α} {input : List Char}
    (h : Quiet p.exposed (p.record input) (p.unguarded.record input)) :
    Quiet p.traced.exposed (p.traced.record input) (p.traced.unguarded.record input) := by
  have hunguarded : p.traced.unguarded.record input =
      ((p.unguarded.record input).bind fun m => ⟨[.exit p.name input m.rest?], .ok m⟩).before
        [.enter p.name input] := by
    rw [Parser.unguarded, Parser.record_traced, Parser.record, Parser.run]
    rfl
  rw [p.record_traced, hunguarded]
  intro m hm
  obtain ⟨m, hm, -⟩ := Run.outcome_bind_eq_ok_iff.mp hm
  obtain ⟨hrun, hinside⟩ := h m hm
  rw [← hrun] at hm ⊢
  refine ⟨rfl, ?_⟩
  have hspan : Balanced p.traced.exposed (.enter p.name input ::
      ((p.record input).events ++ .exit p.name input m.rest? :: [])) :=
    .span List.mem_cons_self hm hinside .nil
  simpa [Run.before, Run.bind, hm] using hspan

theorem guarded {p : Parser α} {input : List Char}
    (h : Quiet p.exposed (p.record input) (p.unguarded.record input)) (reported : Bool) :
    Quiet (p.guarded reported).exposed ((p.guarded reported).record input)
      ((p.guarded reported).unguarded.record input) := by
  rw [Parser.unguarded]
  intro m hm
  obtain ⟨hrun, hinside⟩ := h m hm
  rw [← hrun] at hm ⊢
  rw [Parser.record_guarded_of_ok hm]
  have hguarded : Balanced (p.guarded reported).exposed ((p.record input).events ++ []) :=
    .guarded List.mem_cons_self hm hinside .nil
  exact ⟨rfl, by rwa [List.append_nil] at hguarded⟩

end Quiet

mutual

theorem Parser.quiet_record :
    {α : Type} → (p : Parser α) → (input : List Char) →
      Quiet p.exposed (p.record input) (p.unguarded.record input)
  | _, .literal _, _ => .of_silent rfl
  | _, .regex _ _, _ => .of_silent rfl
  | _, .capture _ _ _, _ => .of_silent rfl
  | _, .endOfInput, _ => .of_silent rfl
  | _, .leaf _ _, _ => .of_silent rfl
  | _, .trim p, input => by
    rw [Parser.unguarded, Parser.record, Parser.record, Parser.run, Parser.run]
    exact (p.quiet_record _).ifFound fun _ _ => .done _
  | _, .sequence ps, input => by
    rw [Parser.unguarded, Parser.record, Parser.record, Parser.run, Parser.run]
    exact ps.quiet_runAll input
  | _, .pair p q, input => by
    rw [Parser.unguarded, Parser.record, Parser.record, Parser.run, Parser.run]
    exact ((p.quiet_record input).mono (List.subset_append_left _ _)).ifFound fun _ rest =>
      ((q.quiet_record rest).mono (List.subset_append_right _ _)).ifFound fun _ _ => .done _
  | _, .alternation ps, input => by
    rw [Parser.unguarded, Parser.record, Parser.record, Parser.run, Parser.run]
    exact ps.quiet_runFirst input
  | _, .conjunction ps, input => by
    rw [Parser.unguarded, Parser.record, Parser.record, Parser.run, Parser.run]
    exact ps.quiet_runEach input .absent
  | _, .zeroOrMore p, input => by
    rw [Parser.unguarded, Parser.record, Parser.record, Parser.run, Parser.run]
    exact .repeated p.quiet_record input _
  | _, .atLeast _ p, input => by
    rw [Parser.unguarded, Parser.record, Parser.record, Parser.run, Parser.run]
    exact .repeated p.quiet_record input _
  | _, .oneOrMore p, input => by
    rw [Parser.unguarded, Parser.record, Parser.record, Parser.run, Parser.run]
    exact .repeated p.quiet_record input _
  | _, .optional p, input => by
    rw [Parser.unguarded, Parser.record, Parser.record, Parser.run, Parser.run]
    refine (p.quiet_record input).bind fun m => ?_
    cases m with
    | found => exact .done _
    | absent => exact .done _
  | _, .labeled _ p, input => by
    rw [Parser.unguarded, Parser.record, Parser.record, Parser.run, Parser.run]
    exact (p.quiet_record input).ifFound fun _ _ => .done _
  | _, .transform p _, input => by
    rw [Parser.unguarded, Parser.record, Parser.record, Parser.run, Parser.run]
    exact ((p.quiet_record input).mono (List.subset_cons_self _ _)).ifFound fun _ _ =>
      (Quiet.lift _).bind fun _ => .done _
  | _, .filter p _, input => by
    rw [Parser.unguarded, Parser.record, Parser.record, Parser.run, Parser.run]
    exact ((p.quiet_record input).mono (List.subset_cons_self _ _)).ifFound fun _ _ =>
      (Quiet.lift _).bind fun _ => .done _
  | _, .negatePresence p, input => by
    rw [Parser.unguarded, Parser.record, Parser.record, Parser.run, Parser.run]
    exact (p.quiet_record input).bind fun _ => .done _
  | _, .all p, input => by
    rw [Parser.unguarded, Parser.record, Parser.record, Parser.run, Parser.run]
    exact (p.quiet_record input).bind fun _ => .done _
  | _, .guarded reported p, input => (p.quiet_record input).guarded reported
  | _, .traced p, input => (p.quiet_record input).traced
  | _, .described _ p, input => by
    rw [Parser.unguarded, Parser.record, Parser.record, Parser.run, Parser.run]
    exact p.quiet_record input

theorem Parsers.quiet_runAll :
    {α : Type} → (ps : Parsers α) → (input : List Char) →
      Quiet ps.exposed (ps.runAll .recording input) (ps.unguarded.runAll .recording input)
  | _, .nil, _ => .done _
  | _, .cons p ps, input => by
    rw [Parsers.unguarded, Parsers.runAll, Parsers.runAll]
    exact ((p.quiet_record input).mono (List.subset_append_left _ _)).ifFound fun _ rest =>
      ((ps.quiet_runAll rest).mono (List.subset_append_right _ _)).ifFound fun _ _ => .done _

theorem Parsers.quiet_runFirst :
    {α : Type} → (ps : Parsers α) → (input : List Char) →
      Quiet ps.exposed (ps.runFirst .recording input) (ps.unguarded.runFirst .recording input)
  | _, .nil, _ => .done _
  | _, .cons p ps, input => by
    rw [Parsers.unguarded, Parsers.runFirst, Parsers.runFirst]
    refine ((p.quiet_record input).mono (List.subset_append_left _ _)).bind fun m => ?_
    cases m with
    | found => exact .done _
    | absent => exact (ps.quiet_runFirst input).mono (List.subset_append_right _ _)

theorem Parsers.quiet_runEach :
    {α : Type} → (ps : Parsers α) → (input : List Char) → (last : Match α) →
      Quiet ps.exposed (ps.runEach .recording input last)
        (ps.unguarded.runEach .recording input last)
  | _, .nil, _, _ => .done _
  | _, .cons p ps, input, _ => by
    rw [Parsers.unguarded, Parsers.runEach, Parsers.runEach]
    exact ((p.quiet_record input).mono (List.subset_append_left _ _)).ifFound fun _ _ =>
      (ps.quiet_runEach input _).mono (List.subset_append_right _ _)

end

/-! ## What is left over at an end -/

mutual

theorem Parser.sound_of_mem_exposed :
    {α : Type} → (p : Parser α) → p.Sound → ∀ part ∈ p.exposed, part.2.Sound
  | _, .literal _, _, _, h => nomatch h
  | _, .regex _ _, _, _, h => nomatch h
  | _, .capture _ _ _, _, _, h => nomatch h
  | _, .endOfInput, _, _, h => nomatch h
  | _, .leaf _ _, hp, _, h => by
    obtain rfl := List.mem_singleton.mp h
    exact hp
  | _, .trim p, hp, _, h => p.sound_of_mem_exposed hp _ h
  | _, .sequence ps, hp, _, h => ps.sound_of_mem_exposed hp _ h
  | _, .pair p q, hp, _, h =>
    (List.mem_append.mp h).elim (p.sound_of_mem_exposed hp.1 _) (q.sound_of_mem_exposed hp.2 _)
  | _, .alternation ps, hp, _, h => ps.sound_of_mem_exposed hp _ h
  | _, .conjunction ps, hp, _, h => ps.sound_of_mem_exposed hp _ h
  | _, .zeroOrMore p, hp, _, h => p.sound_of_mem_exposed hp _ h
  | _, .atLeast _ p, hp, _, h => p.sound_of_mem_exposed hp _ h
  | _, .oneOrMore p, hp, _, h => p.sound_of_mem_exposed hp _ h
  | _, .optional p, hp, _, h => p.sound_of_mem_exposed hp _ h
  | _, .labeled _ p, hp, _, h => p.sound_of_mem_exposed hp _ h
  | _, .transform p _, hp, _, h => by
    obtain rfl | h := List.mem_cons.mp h
    · exact hp
    · exact p.sound_of_mem_exposed hp _ h
  | _, .filter p _, hp, _, h => by
    obtain rfl | h := List.mem_cons.mp h
    · exact hp
    · exact p.sound_of_mem_exposed hp _ h
  | _, .negatePresence p, hp, _, h => p.sound_of_mem_exposed hp _ h
  | _, .all p, hp, _, h => p.sound_of_mem_exposed hp _ h
  | _, .guarded _ _, hp, _, h => by
    obtain rfl := List.mem_singleton.mp h
    exact hp
  | _, .traced _, hp, _, h => by
    obtain rfl := List.mem_singleton.mp h
    exact hp
  | _, .described _ p, hp, _, h => p.sound_of_mem_exposed hp _ h

theorem Parsers.sound_of_mem_exposed :
    {α : Type} → (ps : Parsers α) → ps.Sound → ∀ part ∈ ps.exposed, part.2.Sound
  | _, .nil, _, _, h => nomatch h
  | _, .cons p ps, hp, _, h =>
    (List.mem_append.mp h).elim (p.sound_of_mem_exposed hp.1 _) (ps.sound_of_mem_exposed hp.2 _)

end

/-- Where all user code is sound, a traced part that ends with a match reports an end of its text. -/
theorem Log.suffix_of_exit {exposed : List ((β : Type) × Parser β)} {fault : Option Fault}
    {events : List Event} (h : Log exposed fault events) (hs : ∀ part ∈ exposed, part.2.Sound)
    {name : String} {text rest : List Char} (he : .exit name text (some rest) ∈ events) :
    rest <:+ text := by
  induction h with
  | nil => cases he
  | @span _ _ _ q input m tail hq hm _ _ ihInside ih =>
    have hsound : q.Sound := hs _ hq
    simp only [List.mem_cons, List.mem_append, reduceCtorEq, Event.exit.injEq, false_or] at he
    obtain he | ⟨rfl, rfl, hrest⟩ | he := he
    · exact ihInside (q.sound_of_mem_exposed hsound) he
    · cases m with
      | absent => cases hrest
      | found value r =>
        cases hrest
        exact q.leavesSuffix_run .recording hsound _ value _ hm
    · exact ih hs he
  | @guarded _ _ _ q _ _ _ _ hq _ _ _ ihInside ih =>
    exact (List.mem_append.mp he).elim (ihInside (q.sound_of_mem_exposed (hs _ hq))) (ih hs)
  | @caught _ _ _ q reported _ _ _ hq _ _ _ ihInside ih =>
    obtain he | he := List.mem_append.mp he
    · exact ihInside (q.sound_of_mem_exposed (hs _ hq)) he
    · obtain he | he := List.mem_append.mp he
      · cases reported <;> simp at he
      · exact ih hs he
  | raised => cases he
  | @left _ _ _ q _ hq _ _ ihInside =>
    obtain he | he := List.mem_cons.mp he
    · cases he
    · exact ihInside (q.sound_of_mem_exposed (hs _ hq)) he

namespace Parser

/-- The events of a run are those of its exposed parts, each as far as it went.

If nothing faults, in the run or in what a guard would catch, every traced part that begins also ends, the
innermost first, and both events name it and its text. Otherwise the events before a fault stay, and those
parts that it goes through have no second event; a guard catches it, adds one event if it is to report, and
goes on as if there were no match. An end tells what the part answered, which is an end of its text where all
user code is sound. -/
theorem log_record (p : Parser α) (input : List Char) :
    (∀ m, (p.unguarded.record input).outcome = .ok m →
      p.record input = p.unguarded.record input ∧
        Balanced p.exposed (p.record input).events ∧
        (p.record input).events.foldlM close? [] = some []) ∧
    Log p.exposed (p.record input).fault? (p.record input).events ∧
    (∀ fault, (p.record input).outcome = .error fault →
      p.traced.record input = ⟨.enter p.name input :: (p.record input).events, .error fault⟩ ∧
      (p.guarded true).record input = ⟨(p.record input).events ++
        [.fault p.name input (match fault with | .text text => text | .other => "unknown fault")],
        .ok .absent⟩ ∧
      (p.guarded false).record input = ⟨(p.record input).events, .ok .absent⟩) ∧
    (p.Sound → ∀ name text rest, .exit name text (some rest) ∈ (p.record input).events →
      rest <:+ text) := by
  have hlog : Log p.exposed (p.record input).fault? (p.record input).events := p.logged_record input
  refine ⟨fun m hm => ?_, hlog, fun fault hfault => ⟨?_, ?_, ?_⟩, fun hp name text rest he => ?_⟩
  · obtain ⟨hrun, hbalanced⟩ := p.quiet_record input m hm
    exact ⟨hrun, hbalanced, hbalanced.foldlM_close? []⟩
  · rw [record_traced, Run.bind, hfault]
    rfl
  · rw [record_guarded_of_fault hfault]
    cases fault <;> rfl
  · rw [record_guarded_of_fault hfault]
    exact congrArg (Run.mk · _) (List.append_nil _)
  · exact hlog.suffix_of_exit (p.sound_of_mem_exposed hp) he

/-- A letter is read and faults; the guard reports this and the letter is read again. -/
theorem log_record_letter :
    let letter : Parser Char := .traced anyChar
    let faulty : Parser Char :=
      .described "faulty" (.traced (.described "raising" (.transform letter fun _ => .error .other)))
    let choice : Parser Char := .alternation (.ofList [.guarded true faulty, letter])
    let read : List Event := [.enter "any" ['a', 'b'], .exit "any" ['a', 'b'] (some ['b'])]
    (letter.record ['a', 'b']).events = read ∧
      Balanced letter.exposed read ∧ read.foldlM close? [] = some [] ∧
      (faulty.guarded true).record ['a', 'b'] =
        ⟨.enter "raising" ['a', 'b'] :: read ++ [.fault "faulty" ['a', 'b'] "unknown fault"],
          .ok .absent⟩ ∧
      Log choice.exposed none (.enter "raising" ['a', 'b'] :: read ++
        [.fault "faulty" ['a', 'b'] "unknown fault"] ++ read) ∧
      choice.Sound ∧ ['b'] <:+ ['a', 'b'] := by
  intro letter faulty choice read
  have hquiet := (log_record letter ['a', 'b']).1 (.found 'a' ['b']) rfl
  have hfault := (log_record faulty ['a', 'b']).2.2.1 .other rfl
  have hchoice := (log_record choice ['a', 'b']).2
  have hsound : choice.Sound := ⟨sound_anyChar, sound_anyChar, trivial⟩
  refine ⟨rfl, hquiet.2.1, hquiet.2.2, hfault.2.1, hchoice.1, hsound, ?_⟩
  exact hchoice.2.2 hsound "any" ['a', 'b'] ['b'] (by decide)

end Parser
end RowQuery
