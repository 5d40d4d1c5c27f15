import RowQuery.Query.Session

/-!
Sessions over whole runs.

* `Query.compile_trimmed`: white space around a query makes no difference to its filter or error.
* `Session.Action`, `Session.run`: what is done with a session, one action after another.
* `Session.Action.refusal?`, `Session.heeded`: the actions that are refused, and those that are not.
* `Session.Follows`: what the state of a session is after some actions, with a lemma for one more.
* `Session.run_start`: the state after any actions, and that those refused may as well be left out.
-/
namespace RowQuery

namespace Query

variable (diagnostics : Diagnostics) (directory : Directory) (query : String)

theorem parse_trimmed :
    parse diagnostics directory (Text.trimmed query) = parse diagnostics directory query := by
  rw [parse, parse, Text.trim_toList_trimmed]

/-- White space around a query makes no difference. -/
theorem compile_trimmed :
    compile diagnostics directory (Text.trimmed query) = compile diagnostics directory query := by
  rw [compile, compile, Text.trim_toList_trimmed, parse_trimmed]

theorem compile_empty : compile diagnostics directory "" = .ok .acceptAll := rfl

end Query

namespace Session

/-! ## Actions -/

/-- What is done with a session. -/
inductive Action where
  | submit (query : String)
  | clear
deriving DecidableEq, Repr

/-- The error with which a submission is refused. Nothing else is refused. -/
def Action.refusal? (directory : Directory) : Action → Option QueryError
  | .submit query =>
    match Query.compile .silent directory query with
    | .ok _ => none
    | .error e => some e
  | .clear => none

/-- The query that an action puts into effect if it is not refused. -/
def Action.query : Action → String
  | .submit query => Text.trimmed query
  | .clear => ""

/-- A session after an action. -/
def act (session : Session) : Action → Session
  | .submit query => session.submit query
  | .clear => session.clear

/-- A session after some actions. -/
def run (session : Session) (actions : List Action) : Session := actions.foldl act session

/-- The actions that are not refused. -/
def heeded (directory : Directory) (actions : List Action) : List Action :=
  actions.filter fun a => (a.refusal? directory).isNone

variable {directory : Directory} {actions : List Action} {session other : Session} {a : Action}
  {query : String} {filter : Filter} {e : QueryError}

theorem run_append (session : Session) (actions more : List Action) :
    session.run (actions ++ more) = (session.run actions).run more :=
  List.foldl_append

/-! ## One action -/

/-- A valid query takes effect without the white space around it. -/
theorem submit_of_ok (h : Query.compile .silent session.directory query = .ok filter) :
    session.submit query = { session with query := Text.trimmed query, filter, error := none } := by
  rw [submit, Query.compile_trimmed, h]

/-- A query that is refused changes nothing but the error. -/
theorem submit_of_error (h : Query.compile .silent session.directory query = .error e) :
    session.submit query = { session with error := some e } := by
  rw [submit, Query.compile_trimmed, h]

theorem act_of_refusal (h : a.refusal? session.directory = some e) :
    session.act a = { session with error := some e } := by
  cases a with
  | submit query =>
    simp only [Action.refusal?] at h
    cases hc : Query.compile .silent session.directory query with
    | ok filter =>
      rw [hc] at h
      cases h
    | error e' =>
      rw [hc] at h
      cases h
      rw [act, submit_of_error hc]
  | clear => cases h

/-- An action that is not refused puts its query into effect. -/
theorem act_of_not_refusal (h : a.refusal? session.directory = none) :
    ∃ filter, Query.compile .silent session.directory a.query = .ok filter ∧
      session.act a = { session with query := a.query, filter, error := none } := by
  cases a with
  | submit query =>
    simp only [Action.refusal?] at h
    cases hc : Query.compile .silent session.directory query with
    | ok filter =>
      refine ⟨filter, ?_, ?_⟩
      · rw [Action.query, Query.compile_trimmed, hc]
      · rw [act, submit_of_ok hc, Action.query]
    | error e =>
      rw [hc] at h
      cases h
  | clear => exact ⟨.acceptAll, Query.compile_empty _ _, rfl⟩

theorem directory_act (session : Session) (a : Action) :
    (session.act a).directory = session.directory := by
  cases h : a.refusal? session.directory with
  | none =>
    obtain ⟨filter, -, hact⟩ := act_of_not_refusal h
    rw [hact]
  | some e => rw [act_of_refusal h]

/-! ## Any actions -/

/-- The state of a session that began without a query, after some actions: the query is that of the last
action that was not refused, the filter is the query's, and the error is there if the last action was
refused. -/
structure Follows (directory : Directory) (actions : List Action) (session : Session) : Prop where
  directory_eq : session.directory = directory
  query_eq : session.query = (heeded directory actions).getLast?.elim "" Action.query
  compile_query : Query.compile .silent directory session.query = .ok session.filter
  error_eq : session.error = actions.getLast?.bind (Action.refusal? directory)

namespace Follows

theorem start (directory : Directory) : Follows directory [] (start directory) :=
  ⟨rfl, rfl, Query.compile_empty _ _, rfl⟩

theorem act (h : Follows directory actions session) (a : Action) :
    Follows directory (actions ++ [a]) (session.act a) := by
  have hlast : (actions ++ [a]).getLast?.bind (Action.refusal? directory) = a.refusal? directory := by
    simp
  cases hr : a.refusal? session.directory with
  | none =>
    obtain ⟨filter, hfilter, hact⟩ := act_of_not_refusal hr
    rw [h.directory_eq] at hr hfilter
    have hheeded : heeded directory (actions ++ [a]) = heeded directory actions ++ [a] := by
      simp [heeded, hr]
    rw [hact]
    refine ⟨h.directory_eq, ?_, hfilter, ?_⟩
    · simp [hheeded]
    · rw [hlast, hr]
  | some e =>
    rw [act_of_refusal hr]
    rw [h.directory_eq] at hr
    have hheeded : heeded directory (actions ++ [a]) = heeded directory actions := by
      simp [heeded, hr]
    refine ⟨h.directory_eq, ?_, h.compile_query, ?_⟩
    · rw [hheeded]
      exact h.query_eq
    · rw [hlast, hr]

theorem run (h : Follows directory actions session) (more : List Action) :
    Follows directory (actions ++ more) (session.run more) := by
  induction more generalizing actions session with
  | nil =>
    rw [List.append_nil]
    exact h
  | cons a more ih =>
    have hrest : Follows directory (actions ++ [a] ++ more) ((session.act a).run more) := ih (h.act a)
    rw [List.append_assoc] at hrest
    exact hrest

end Follows

/-- Two sessions show the same rows, whatever errors they report. -/
structure Agrees (session other : Session) : Prop where
  directory_eq : session.directory = other.directory
  query_eq : session.query = other.query
  filter_eq : session.filter = other.filter

namespace Agrees

theorem refl (session : Session) : Agrees session session := ⟨rfl, rfl, rfl⟩

theorem act (h : Agrees session other) (a : Action) : Agrees (session.act a) (other.act a) := by
  cases hr : a.refusal? session.directory with
  | none =>
    obtain ⟨filter, hfilter, hact⟩ := act_of_not_refusal hr
    rw [h.directory_eq] at hr hfilter
    obtain ⟨filter', hfilter', hact'⟩ := act_of_not_refusal hr
    rw [hfilter] at hfilter'
    cases hfilter'
    rw [hact, hact']
    exact ⟨h.directory_eq, rfl, rfl⟩
  | some e =>
    have hr' : a.refusal? other.directory = some e := by rw [← h.directory_eq, hr]
    rw [act_of_refusal hr, act_of_refusal hr']
    exact ⟨h.directory_eq, h.query_eq, h.filter_eq⟩

theorem run (h : Agrees session other) (actions : List Action) :
    Agrees (session.run actions) (other.run actions) := by
  induction actions generalizing session other with
  | nil => exact h
  | cons a actions ih => exact ih (h.act a)

/-- Actions that are refused may be left out. -/
theorem run_heeded (h : Agrees session other) (actions : List Action) :
    Agrees (session.run (heeded session.directory actions)) (other.run actions) := by
  induction actions generalizing session other with
  | nil => exact h
  | cons a actions ih =>
    cases hr : a.refusal? session.directory with
    | none =>
      have hheeded : heeded session.directory (a :: actions) =
          a :: heeded session.directory actions := by
        simp [heeded, hr]
      rw [hheeded]
      have := ih (h.act a)
      rw [directory_act] at this
      exact this
    | some e =>
      have hheeded : heeded session.directory (a :: actions) = heeded session.directory actions := by
        simp [heeded, hr]
      have hr' : a.refusal? other.directory = some e := by rw [← h.directory_eq, hr]
      have hkept : Agrees session (other.act a) := by
        rw [act_of_refusal hr']
        exact ⟨h.directory_eq, h.query_eq, h.filter_eq⟩
      rw [hheeded]
      exact ih hkept

end Agrees

/-- After any actions the query of a session is that of the last action that was not refused, without the
white space around it; the filter is the one that this query has; and there is an error just if the last
action was refused, and then it is the error of that action. A query that is refused changes nothing else,
so that leaving out all that are refused changes neither the query nor the filter, nor what is decided
after any further actions. -/
theorem run_start (directory : Directory) (actions : List Action) :
    ((start directory).run actions).query =
      (heeded directory actions).getLast?.elim "" Action.query ∧
    Query.compile .silent directory ((start directory).run actions).query =
      .ok ((start directory).run actions).filter ∧
    ((start directory).run actions).error = actions.getLast?.bind (Action.refusal? directory) ∧
    (∀ query e, Query.compile .silent directory query = .error e →
      ((start directory).run actions).submit query =
        { (start directory).run actions with error := some e }) ∧
    ((start directory).run (heeded directory actions)).query =
      ((start directory).run actions).query ∧
    ((start directory).run (heeded directory actions)).filter =
      ((start directory).run actions).filter ∧
    ∀ more data, ((start directory).run (heeded directory actions ++ more)).filter.accepts data =
      ((start directory).run (actions ++ more)).filter.accepts data := by
  have hfollows : Follows directory actions ((start directory).run actions) :=
    (Follows.start directory).run actions
  have hagrees : Agrees ((start directory).run (heeded directory actions))
      ((start directory).run actions) :=
    (Agrees.refl (start directory)).run_heeded actions
  refine ⟨hfollows.query_eq, hfollows.compile_query, hfollows.error_eq, fun query e he => ?_,
    hagrees.query_eq, hagrees.filter_eq, fun more data => ?_⟩
  · exact submit_of_error (by rw [hfollows.directory_eq, he])
  · rw [run_append, run_append, (hagrees.run more).filter_eq]

end Session
end RowQuery
