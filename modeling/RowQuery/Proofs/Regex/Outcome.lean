import RowQuery.Proofs.Regex.Search
import RowQuery.Regex.Basic

/-!
What a regular expression matches, in the order of preference.

* `Trail`: a place reached in a text, with the marks made on the way.
* `Node.outcomes`: all trails that an expression leads to from a given one, the preferred one first.
* `Node.steady`: whether each loop of an expression takes a character in every round.
* `Leads`: an instruction of a program leads to another by given outcomes.
* `find?_eq_findSome?`: a search finds the first outcome of the first place that has one.

For expressions with a loop whose rounds may take nothing the outcomes are not finite in this form;
they are left to statements that do not ask which match is preferred.
-/
namespace RowQuery.Regex

/-- A place reached in a text, and the places marked on the way with their slots, the latest
first. -/
structure Trail where
  place : Place
  marks : List (Nat × Nat)

namespace Trail

/-- The trail with the place reached marked. -/
def mark (slot : Nat) (t : Trail) : Trail :=
  { t with marks := (slot, t.place.offset) :: t.marks }

/-- The trail one character further on. -/
def after (t : Trail) (c : Char) (rest : List Char) : Trail :=
  { t with place := t.place.after c rest }

/-- How many characters follow. -/
def left (t : Trail) : Nat := t.place.rest.length

/-- The task that goes on from a trail with an instruction. -/
def task (origin inst : Nat) (t : Trail) : Task :=
  { inst, place := t.place, origin, marks := t.marks }

/-- One character of a set. -/
def take (s : Unicode.CharSet) (t : Trail) : List Trail :=
  match t.place.rest with
  | [] => []
  | c :: r => if s.mem c then [t.after c r] else []

/-- The characters of a text one after another. -/
def takeText : List Char → Trail → List Trail
  | [], t => [t]
  | c :: r, t => (t.take (.single c)).flatMap (takeText r)

/-- A number of rounds. -/
def times (round : Trail → List Trail) : Nat → Trail → List Trail
  | 0, t => [t]
  | n + 1, t => (times round n t).flatMap round

/-- At most a number of rounds, more of them first if the repetition is greedy. -/
def upTo (round : Trail → List Trail) (greedy : Bool) : Nat → Trail → List Trail
  | 0, t => [t]
  | n + 1, t =>
    if greedy then (round t).flatMap (upTo round greedy n) ++ [t]
    else t :: (round t).flatMap (upTo round greedy n)

end Trail

namespace Node

/-- The trails that an expression leads to, the preferred one first. Without an upper limit there are
no more rounds than characters left. -/
def outcomes : Node → Trail → List Trail
  | .empty, t => [t]
  | .text s, t => t.takeText s
  | .set s _, t => t.take s
  | .look l, t => if l.holds t.place.before t.place.rest then [t] else []
  | .cat a b, t => (a.outcomes t).flatMap b.outcomes
  | .alt a b, t => a.outcomes t ++ b.outcomes t
  | .group index a, t => (a.outcomes (t.mark (2 * index))).map (.mark (2 * index + 1))
  | .iterate a min max greedy, t =>
    (Trail.times a.outcomes min t).flatMap fun u =>
      Trail.upTo a.outcomes greedy
        (match max with
          | some max => max - min
          | none => u.left) u

/-- Whether each repetition without an upper limit takes a character in every round. -/
def steady : Node → Bool
  | .empty => true
  | .text _ => true
  | .set _ _ => true
  | .look _ => true
  | .cat a b => a.steady && b.steady
  | .alt a b => a.steady && b.steady
  | .group _ a => a.steady
  | .iterate a _ max _ => a.steady && (max.isSome || a.alwaysConsumes)

end Node

/-! ## How much is taken -/

section Left

variable {s : Unicode.CharSet} {t u : Trail} {round : Trail → List Trail}

theorem Trail.left_of_mem_take (h : u ∈ t.take s) : u.left + 1 = t.left := by
  simp only [Trail.take] at h
  split at h
  · simp at h
  · next c r hr =>
    split at h
    · rw [List.mem_singleton] at h
      subst h
      simp [Trail.left, Trail.after, Place.after, hr]
    · simp at h

theorem Trail.left_of_mem_takeText {text : List Char} (h : u ∈ t.takeText text) :
    u.left + text.length = t.left := by
  induction text generalizing t with
  | nil =>
    rw [Trail.takeText, List.mem_singleton] at h
    simp [h]
  | cons c r ih =>
    rw [Trail.takeText, List.mem_flatMap] at h
    obtain ⟨v, hv, hu⟩ := h
    have h₁ := Trail.left_of_mem_take hv
    have h₂ := ih hu
    rw [List.length_cons]
    omega

theorem Trail.left_of_mem_times {n : Nat} (hr : ∀ t, ∀ u ∈ round t, u.left + n ≤ t.left)
    {count : Nat} (h : u ∈ Trail.times round count t) : u.left + n * count ≤ t.left := by
  induction count generalizing u with
  | zero =>
    rw [Trail.times, List.mem_singleton] at h
    simp [h]
  | succ count ih =>
    rw [Trail.times, List.mem_flatMap] at h
    obtain ⟨v, hv, hu⟩ := h
    have h₁ := ih hv
    have h₂ := hr v u hu
    rw [Nat.mul_succ]
    omega

theorem Trail.left_of_mem_upTo (hr : ∀ t, ∀ u ∈ round t, u.left ≤ t.left) {greedy : Bool}
    {count : Nat} (h : u ∈ Trail.upTo round greedy count t) : u.left ≤ t.left := by
  induction count generalizing t with
  | zero =>
    rw [Trail.upTo, List.mem_singleton] at h
    simp [h]
  | succ count ih =>
    have hcases : u ∈ (round t).flatMap (Trail.upTo round greedy count) ∨ u = t := by
      simp only [Trail.upTo] at h
      split at h
      · simpa using h
      · simpa [or_comm] using h
    rcases hcases with h | rfl
    · obtain ⟨v, hv, hu⟩ := List.mem_flatMap.mp h
      exact Nat.le_trans (ih hu) (hr t v hv)
    · exact Nat.le_refl _

/-- No outcome goes back in the text. -/
theorem Node.left_le_of_mem_outcomes {a : Node} (h : u ∈ a.outcomes t) : u.left ≤ t.left := by
  induction a generalizing t u with
  | empty =>
    rw [Node.outcomes, List.mem_singleton] at h
    simp [h]
  | text s =>
    have := Trail.left_of_mem_takeText h
    omega
  | set s basic =>
    have := Trail.left_of_mem_take h
    omega
  | look l =>
    simp only [Node.outcomes] at h
    split at h
    · rw [List.mem_singleton] at h
      simp [h]
    · simp at h
  | cat a b iha ihb =>
    rw [Node.outcomes, List.mem_flatMap] at h
    obtain ⟨v, hv, hu⟩ := h
    exact Nat.le_trans (ihb hu) (iha hv)
  | alt a b iha ihb =>
    rw [Node.outcomes, List.mem_append] at h
    rcases h with h | h
    · exact iha h
    · exact ihb h
  | group index a ih =>
    rw [Node.outcomes, List.mem_map] at h
    obtain ⟨v, hv, rfl⟩ := h
    exact ih (u := v) (t := t.mark (2 * index)) hv
  | iterate a min max greedy ih =>
    rw [Node.outcomes, List.mem_flatMap] at h
    obtain ⟨v, hv, hu⟩ := h
    have h₁ := Trail.left_of_mem_times (n := 0) (fun t u hu => ih hu) hv
    have h₂ := Trail.left_of_mem_upTo (fun t u hu => ih hu) hu
    omega

/-- Each outcome takes at least the length of the shortest text. -/
theorem Node.left_add_of_mem_outcomes {a : Node} {n : Nat} (hn : a.minLength? = some n)
    (h : u ∈ a.outcomes t) : u.left + n ≤ t.left := by
  induction a generalizing t u n with
  | empty =>
    cases hn
    exact Node.left_le_of_mem_outcomes h
  | text s =>
    cases hn
    exact Nat.le_of_eq (Trail.left_of_mem_takeText h)
  | set s basic =>
    obtain ⟨_, _, rfl⟩ := Option.map_eq_some_iff.mp hn
    exact Nat.le_of_eq (Trail.left_of_mem_take h)
  | look l =>
    cases hn
    exact Node.left_le_of_mem_outcomes h
  | cat a b iha ihb =>
    obtain ⟨n₁, h₁, hn⟩ := Option.bind_eq_some_iff.mp hn
    obtain ⟨n₂, h₂, hn⟩ := Option.bind_eq_some_iff.mp hn
    cases hn
    rw [Node.outcomes, List.mem_flatMap] at h
    obtain ⟨v, hv, hu⟩ := h
    have := iha h₁ hv
    have := ihb h₂ hu
    omega
  | alt a b iha ihb =>
    obtain ⟨n₁, h₁, hn⟩ := Option.bind_eq_some_iff.mp hn
    obtain ⟨n₂, h₂, hn⟩ := Option.bind_eq_some_iff.mp hn
    cases hn
    have hmin₁ : Nat.min n₁ n₂ ≤ n₁ := Nat.min_le_left _ _
    have hmin₂ : Nat.min n₁ n₂ ≤ n₂ := Nat.min_le_right _ _
    rw [Node.outcomes, List.mem_append] at h
    rcases h with h | h
    · have := iha h₁ h
      omega
    · have := ihb h₂ h
      omega
  | group index a ih =>
    rw [Node.outcomes, List.mem_map] at h
    obtain ⟨v, hv, rfl⟩ := h
    exact ih (u := v) (t := t.mark (2 * index)) hn hv
  | iterate a min max greedy ih =>
    obtain ⟨k, hk, rfl⟩ := Option.map_eq_some_iff.mp hn
    rw [Node.outcomes, List.mem_flatMap] at h
    obtain ⟨v, hv, hu⟩ := h
    have h₁ := Trail.left_of_mem_times (fun t u hu => ih hk hu) hv
    have h₂ := Trail.left_of_mem_upTo (fun t u hu => Node.left_le_of_mem_outcomes hu) hu
    omega

/-- An expression that is known to take a character does so in each outcome. -/
theorem Node.left_lt_of_mem_outcomes {a : Node} (ha : a.alwaysConsumes = true)
    (h : u ∈ a.outcomes t) : u.left < t.left := by
  cases hn : a.minLength? with
  | none => simp [Node.alwaysConsumes, hn] at ha
  | some n =>
    have hpos : 0 < n := by simpa [Node.alwaysConsumes, hn] using ha
    have := Node.left_add_of_mem_outcomes hn h
    omega

end Left

/-! ## Instructions that lead on -/

/-- What tasks come to, after some number of steps. -/
def Comes (insts : Array Inst) (tasks : List Task) (r : Option Found) : Prop :=
  ∃ n, Settles insts tasks n r

/-- Tasks behind may be replaced by others that come to the same. -/
theorem Comes.append {insts : Array Inst} {front behind others : List Task} {r : Option Found}
    (hb : ∀ r, Comes insts behind r → Comes insts others r)
    (h : Comes insts (front ++ behind) r) : Comes insts (front ++ others) r := by
  obtain ⟨n, h⟩ := h
  -- By induction on the steps: those of the tasks in front stay, and once there are none left it is
  -- the turn of the tasks behind.
  generalize ht : front ++ behind = tasks at h
  induction h generalizing front with
  | nil =>
    obtain ⟨rfl, rfl⟩ := List.append_eq_nil_iff.mp ht
    exact hb none ⟨0, .nil⟩
  | @stray task tasks n r hi h ih =>
    cases front with
    | nil =>
      cases ht
      exact hb r ⟨n + 1, .stray hi h⟩
    | cons t front =>
      cases ht
      obtain ⟨m, h⟩ := ih rfl
      exact ⟨m + 1, .stray hi h⟩
  | @accept task tasks hi =>
    cases front with
    | nil =>
      cases ht
      exact hb _ ⟨0, .accept hi⟩
    | cons t front =>
      cases ht
      exact ⟨0, .accept hi⟩
  | @step task tasks inst n r hi ha h ih =>
    cases front with
    | nil =>
      cases ht
      exact hb r ⟨n + 1, .step hi ha h⟩
    | cons t front =>
      cases ht
      obtain ⟨m, h⟩ := ih (List.append_assoc _ _ _)
      exact ⟨m + 1, .step hi ha ((List.append_assoc _ _ _).symm ▸ h)⟩

/-- From a trail, the instruction at `start` comes to what some trails come to at `stop`. -/
def Leads (insts : Array Inst) (t : Trail) (start : Nat) (trails : List Trail) (stop : Nat) : Prop :=
  ∀ (origin : Nat) (tasks : List Task) (r : Option Found),
    Comes insts (trails.map (Trail.task origin stop) ++ tasks) r →
      Comes insts (t.task origin start :: tasks) r

namespace Leads

variable {insts : Array Inst} {t : Trail} {start middle stop : Nat} {trails others : List Trail}
  {g : Trail → List Trail}

theorem refl : Leads insts t start [t] start := fun _ _ _ h => h

/-- Several trails at once go on one after another. -/
theorem comes (h : ∀ u ∈ trails, Leads insts u start (g u) stop) {origin : Nat} {tasks : List Task}
    {r : Option Found}
    (hc : Comes insts ((trails.flatMap g).map (Trail.task origin stop) ++ tasks) r) :
    Comes insts (trails.map (Trail.task origin start) ++ tasks) r := by
  induction trails generalizing r with
  | nil => exact hc
  | cons u trails ih =>
    rw [List.flatMap_cons, List.map_append, List.append_assoc] at hc
    have hrest := fun r => ih (fun v hv => h v (List.mem_cons_of_mem _ hv)) (r := r)
    exact h u List.mem_cons_self origin _ r (hc.append hrest)

theorem trans (h : Leads insts t start trails middle)
    (h' : ∀ u ∈ trails, Leads insts u middle (g u) stop) :
    Leads insts t start (trails.flatMap g) stop :=
  fun origin tasks r hc => h origin tasks r (comes h' hc)

/-- An instruction that leads to other instructions by a step leads to where these lead. -/
theorem of_next {inst : Inst} (hi : insts[start]? = some inst) (ha : inst ≠ .accept)
    (hn : ∀ (origin : Nat) (tasks : List Task) (r : Option Found),
      Comes insts (trails.map (Trail.task origin stop) ++ tasks) r →
        Comes insts ((t.task origin start).next inst ++ tasks) r) :
    Leads insts t start trails stop := by
  intro origin tasks r hc
  obtain ⟨n, h⟩ := hn origin tasks r hc
  exact ⟨n + 1, .step hi ha h⟩

theorem set {s : Unicode.CharSet} (hi : insts[start]? = some (.set s stop)) :
    Leads insts t start (t.take s) stop := by
  refine of_next hi (by simp) fun origin tasks r hc => ?_
  cases hr : t.place.rest with
  | nil => simpa [Task.next, Trail.task, Trail.take, hr] using hc
  | cons c rest =>
    by_cases hs : s.mem c = true
    · simpa [Task.next, Trail.task, Trail.take, hr, hs, Trail.after] using hc
    · simpa [Task.next, Trail.task, Trail.take, hr, hs] using hc

theorem look {l : Look} (hi : insts[start]? = some (.look l stop)) :
    Leads insts t start ((Node.look l).outcomes t) stop := by
  refine of_next hi (by simp) fun origin tasks r hc => ?_
  by_cases hl : l.holds t.place.before t.place.rest = true
  · simpa [Task.next, Trail.task, Node.outcomes, hl] using hc
  · simpa [Task.next, Trail.task, Node.outcomes, hl] using hc

theorem mark {slot : Nat} (hi : insts[start]? = some (.mark slot stop)) :
    Leads insts t start [t.mark slot] stop :=
  of_next hi (by simp) fun _ _ _ hc => hc

theorem fork {first second : Nat} (hi : insts[start]? = some (.fork first second))
    (h : Leads insts t first trails stop) (h' : Leads insts t second others stop) :
    Leads insts t start (trails ++ others) stop := by
  refine of_next hi (by simp) fun origin tasks r hc => ?_
  rw [List.map_append, List.append_assoc] at hc
  exact h origin _ r (hc.append (h' origin tasks))

/-- A choice between another round and leaving. -/
theorem choice {greedy : Bool} {round leave : Nat}
    (hi : insts[start]? = some (Program.choice greedy round leave))
    (h : Leads insts t round trails stop) (h' : Leads insts t leave others stop) :
    Leads insts t start (if greedy then trails ++ others else others ++ trails) stop := by
  cases greedy with
  | true => exact fork hi h h'
  | false => exact fork hi h' h

/-- A loop leads on by as many rounds as there are characters left, since each takes one. -/
theorem loop {greedy : Bool} {round : Nat}
    (hi : insts[start]? = some (Program.choice greedy round stop))
    (h : ∀ u, Leads insts u round (g u) start) (hg : ∀ u, ∀ v ∈ g u, v.left < u.left) :
    Leads insts t start (Trail.upTo g greedy t.left t) stop := by
  -- The induction is on a bound of what is left: a round leads back to the loop with less of it.
  have key : ∀ n u, u.left ≤ n → Leads insts u start (Trail.upTo g greedy n u) stop := by
    intro n
    induction n with
    | zero =>
      intro u hu
      have hnil : g u = [] := by
        refine List.eq_nil_iff_forall_not_mem.mpr fun v hv => ?_
        have := hg u v hv
        omega
      have hround : Leads insts u round [] stop := fun origin tasks r hc =>
        h u origin tasks r (by rwa [hnil])
      have := choice hi hround refl
      simpa [Trail.upTo] using this
    | succ n ih =>
      intro u hu
      have hround : Leads insts u round ((g u).flatMap (Trail.upTo g greedy n)) stop :=
        (h u).trans fun v hv => ih v (by have := hg u v hv; omega)
      have := choice hi hround refl
      simpa [Trail.upTo] using this
  exact key t.left t (Nat.le_refl _)

end Leads

/-! ## Programs of expressions -/

/-- Instructions were only added behind those that were there. -/
def Grows (insts more : Array Inst) : Prop :=
  insts.size ≤ more.size ∧ ∀ i, i < insts.size → more[i]? = insts[i]?

namespace Grows

variable {insts more most : Array Inst}

theorem refl : Grows insts insts := ⟨Nat.le_refl _, fun _ _ => rfl⟩

theorem trans (h : Grows insts more) (h' : Grows more most) : Grows insts most :=
  ⟨Nat.le_trans h.1 h'.1, fun i hi => by rw [h'.2 i (Nat.lt_of_lt_of_le hi h.1), h.2 i hi]⟩

theorem push (inst : Inst) : Grows insts (insts.push inst) :=
  ⟨by simp, fun i hi => by simp [Array.getElem?_push, Nat.ne_of_lt hi]⟩

/-- A place that was kept may be filled later. -/
theorem fill {kept : Inst} (h : Grows (insts.push kept) more) (inst : Inst) :
    Grows insts (more.setIfInBounds insts.size inst) := by
  have h' := (push kept).trans h
  refine ⟨by simpa using h'.1, fun i hi => ?_⟩
  rw [Array.getElem?_setIfInBounds_ne (Nat.ne_of_gt hi), h'.2 i hi]

end Grows

/-- A way to compile adds instructions only. -/
def Adds (f : Nat → Array Inst → Nat × Array Inst) : Prop :=
  ∀ next insts, Grows insts (f next insts).2

namespace Program

theorem grows_text (s : List Char) : Adds (text s) := by
  intro next insts
  induction s with
  | nil => exact .refl
  | cons c r ih => exact ih.trans (.push _)

theorem grows_copies {f : Nat → Array Inst → Nat × Array Inst} (hf : Adds f) (count : Nat) :
    Adds (copies f count) := by
  induction count with
  | zero => exact fun next insts => .refl
  | succ count ih => exact fun next insts => (hf next insts).trans (ih _ _)

theorem grows_optionals {f : Nat → Array Inst → Nat × Array Inst} (hf : Adds f) (greedy : Bool)
    (leave count : Nat) : Adds (optionals f greedy leave count) := by
  induction count with
  | zero => exact fun next insts => .refl
  | succ count ih => exact fun next insts => ((hf next insts).trans (.push _)).trans (ih _ _)

theorem grows_compile (a : Node) : Adds (compile a) := by
  induction a with
  | empty => exact fun next insts => .refl
  | text s => exact grows_text s
  | set s basic => exact fun next insts => .push _
  | look l => exact fun next insts => .push _
  | cat a b iha ihb => exact fun next insts => (ihb next insts).trans (iha _ _)
  | alt a b iha ihb =>
    exact fun next insts => ((iha next insts).trans (ihb next _)).trans (.push _)
  | group index a ih =>
    exact fun next insts => ((Grows.push _).trans (ih _ _)).trans (.push _)
  | iterate a min max greedy ih =>
    intro next insts
    cases max with
    | some max => exact (grows_optionals ih _ _ _ _ _).trans (grows_copies ih _ _ _)
    | none =>
      have hloop := (ih insts.size (insts.push .accept)).fill
        (choice greedy (compile a insts.size (insts.push .accept)).1 next)
      cases min with
      | zero =>
        simp only [compile]
        split
        · exact hloop
        · exact hloop.trans (.push _)
      | succ min => exact hloop.trans (grows_copies ih _ _ _)

end Program

/-- The instructions from `first` on are in a program. -/
def Holds (prog : Array Inst) (first : Nat) (insts : Array Inst) : Prop :=
  ∀ i, first ≤ i → i < insts.size → prog[i]? = insts[i]?

namespace Holds

variable {prog insts more : Array Inst} {first : Nat}

theorem before (h : Holds prog first more) (hg : Grows insts more) : Holds prog first insts :=
  fun i hi hlt => by rw [h i hi (Nat.lt_of_lt_of_le hlt hg.1), hg.2 i hlt]

theorem since (h : Holds prog first more) {later : Nat} (hl : first ≤ later) :
    Holds prog later more :=
  fun i hi hlt => h i (Nat.le_trans hl hi) hlt

/-- The instruction added last. -/
theorem getElem?_push {inst : Inst} (h : Holds prog first (insts.push inst))
    (hf : first ≤ insts.size) : prog[insts.size]? = some inst := by
  rw [h insts.size hf (by simp)]
  simp

/-- The code of a loop: its choice stands at the place that was kept for it, and the round after it. -/
theorem loop {f : Nat → Array Inst → Nat × Array Inst} (hf : Adds f) {inst : Inst}
    (h : Holds prog insts.size
      ((f insts.size (insts.push .accept)).2.setIfInBounds insts.size inst)) :
    prog[insts.size]? = some inst ∧
      Holds prog (insts.push .accept).size (f insts.size (insts.push .accept)).2 := by
  have hlt : insts.size < (f insts.size (insts.push .accept)).2.size :=
    Nat.lt_of_lt_of_le (by simp) (hf insts.size (insts.push .accept)).1
  refine ⟨?_, fun i hi hsize => ?_⟩
  · rw [h insts.size (Nat.le_refl _) (by simpa using hlt)]
    simp [hlt]
  · -- The place kept lies before the round, so filling it leaves the round as it is.
    have hlater : insts.size < i := by
      rw [Array.size_push] at hi
      omega
    rw [h i (Nat.le_of_lt hlater) (by simpa using hsize),
      Array.getElem?_setIfInBounds_ne (Nat.ne_of_lt hlater)]

end Holds

/-- A way to compile that gives each expression's outcomes: wherever the instructions that it adds are
part of a program, they lead from their start to what follows. -/
def Yields (f : Nat → Array Inst → Nat × Array Inst) (g : Trail → List Trail) : Prop :=
  ∀ (next : Nat) (insts prog : Array Inst), Holds prog insts.size (f next insts).2 →
    ∀ t, Leads prog t (f next insts).1 (g t) next

namespace Program

variable {f : Nat → Array Inst → Nat × Array Inst} {g : Trail → List Trail}

theorem yields_text (s : List Char) : Yields (text s) (Trail.takeText s) := by
  induction s with
  | nil => exact fun next insts prog _ t => .refl
  | cons c r ih =>
    intro next insts prog h t
    have hgrows := grows_text r next insts
    have hset := Leads.set (t := t) (h.getElem?_push hgrows.1)
    exact hset.trans fun u _ => ih next insts prog (h.before (.push _)) u

theorem yields_copies (hf : Adds f) (hg : Yields f g) (count : Nat) :
    Yields (copies f count) (Trail.times g count) := by
  induction count with
  | zero => exact fun next insts prog _ t => .refl
  | succ count ih =>
    intro next insts prog h t
    have hgrows := hf next insts
    have hlast := hg next insts prog (h.before (grows_copies hf count _ _))
    exact (ih _ _ prog (h.since hgrows.1) t).trans fun u _ => hlast u

/-- Optional rounds before an instruction that leads to `leave` by some optional rounds more. -/
theorem leads_optionals (hf : Adds f) (hg : Yields f g) {greedy : Bool} {leave : Nat} (count : Nat) :
    ∀ (more next : Nat) (insts prog : Array Inst),
      Holds prog insts.size (optionals f greedy leave count next insts).2 →
      (∀ t, Leads prog t next (Trail.upTo g greedy more t) leave) →
      ∀ t, Leads prog t (optionals f greedy leave count next insts).1
        (Trail.upTo g greedy (count + more) t) leave := by
  induction count with
  | zero =>
    intro more next insts prog _ hnext t
    rw [Nat.zero_add]
    exact hnext t
  | succ count ih =>
    intro more next insts prog h hnext t
    have hgrows := hf next insts
    have hall := grows_optionals hf greedy leave count (f next insts).2.size
      ((f next insts).2.push (choice greedy (f next insts).1 leave))
    have hround := hg next insts prog (h.before ((Grows.push _).trans hall))
    have hchoice : prog[(f next insts).2.size]? = some (choice greedy (f next insts).1 leave) :=
      (h.before hall).getElem?_push hgrows.1
    have hmore : ∀ u, Leads prog u (f next insts).2.size (Trail.upTo g greedy (more + 1) u) leave :=
      fun u => Leads.choice hchoice ((hround u).trans fun v _ => hnext v) .refl
    have := ih (more + 1) _ _ prog (h.since (Nat.le_trans hgrows.1 (Grows.push _).1)) hmore t
    rwa [show count + (more + 1) = count + 1 + more by omega] at this

/-- Where the code of a loop is part of a program, a round leads back to the loop's choice, and the
choice leads on after as many rounds as there are characters left. -/
theorem leads_loop (hf : Adds f) (hg : Yields f g) (hless : ∀ t, ∀ u ∈ g t, u.left < t.left)
    {greedy : Bool} {next : Nat} {insts prog : Array Inst}
    (h : Holds prog insts.size ((f insts.size (insts.push .accept)).2.setIfInBounds insts.size
      (choice greedy (f insts.size (insts.push .accept)).1 next))) (t : Trail) :
    Leads prog t (f insts.size (insts.push .accept)).1 (g t) insts.size ∧
      Leads prog t insts.size (Trail.upTo g greedy t.left t) next := by
  obtain ⟨hchoice, hround⟩ := h.loop hf
  have hleads := hg _ _ prog hround
  exact ⟨hleads t, .loop hchoice hleads hless⟩

/-- The program of a steady expression goes through its outcomes. -/
theorem yields_compile {a : Node} (ha : a.steady = true) : Yields (compile a) a.outcomes := by
  induction a with
  | empty => exact fun next insts prog _ t => .refl
  | text s => exact yields_text s
  | set s basic => exact fun next insts prog h t => .set (h.getElem?_push (Nat.le_refl _))
  | look l => exact fun next insts prog h t => .look (h.getElem?_push (Nat.le_refl _))
  | cat a b iha ihb =>
    obtain ⟨ha, hb⟩ := Bool.and_eq_true_iff.mp ha
    intro next insts prog h t
    have hgrows := grows_compile b next insts
    have hsecond := ihb hb next insts prog (h.before (grows_compile a _ _))
    exact (iha ha _ _ prog (h.since hgrows.1) t).trans fun u _ => hsecond u
  | alt a b iha ihb =>
    obtain ⟨ha, hb⟩ := Bool.and_eq_true_iff.mp ha
    intro next insts prog h t
    have hgrows := grows_compile a next insts
    have hboth := hgrows.trans (grows_compile b next _)
    have hcode := h.before (.push _)
    have hfirst := iha ha next insts prog (hcode.before (grows_compile b next _)) t
    have hsecond := ihb hb next _ prog (hcode.since hgrows.1) t
    exact .fork (h.getElem?_push hboth.1) hfirst hsecond
  | group index a ih =>
    intro next insts prog h t
    have hgrows : Grows insts (insts.push (.mark (2 * index + 1) next)) := .push _
    have hinner := grows_compile a insts.size (insts.push (.mark (2 * index + 1) next))
    have hcode := h.before (.push _)
    have hopen := h.getElem?_push (hgrows.trans hinner).1
    have hclose := (hcode.before hinner).getElem?_push (Nat.le_refl _)
    have hbody := ih ha _ _ prog (hcode.since hgrows.1) (t.mark (2 * index))
    have hend := hbody.trans (g := fun u => [u.mark (2 * index + 1)]) fun u _ => .mark hclose
    rw [← List.map_eq_flatMap] at hend
    exact fun origin tasks r hc => Leads.mark hopen origin tasks r (hend origin tasks r hc)
  | iterate a min max greedy ih =>
    obtain ⟨ha', hloop⟩ := Bool.and_eq_true_iff.mp ha
    intro next insts prog h t
    have ih := ih ha'
    have hadds : Adds (compile a) := grows_compile a
    cases max with
    | some max =>
      have hgrows := grows_optionals hadds greedy next (max - min) next insts
      have hrest := leads_optionals hadds ih (max - min) 0 next insts prog
        (h.before (grows_copies hadds min _ _)) fun t => .refl
      exact (yields_copies hadds ih min _ _ prog (h.since hgrows.1) t).trans fun u _ => hrest u
    | none =>
      have hconsumes : a.alwaysConsumes = true := by simpa using hloop
      have hless := fun t u => Node.left_lt_of_mem_outcomes (t := t) (u := u) hconsumes
      have hgrows := (hadds insts.size (insts.push .accept)).fill
        (choice greedy (compile a insts.size (insts.push .accept)).1 next)
      cases min with
      | zero =>
        simp only [compile, hconsumes, if_true] at h ⊢
        simpa [Node.outcomes, Trail.times] using (leads_loop hadds ih hless h t).2
      | succ min =>
        have hcode := h.before (grows_copies hadds min _ _)
        have hcopies := yields_copies hadds ih min _ _ prog (h.since hgrows.1) t
        have hrounds := hcopies.trans fun u _ => (leads_loop hadds ih hless hcode u).1
        exact hrounds.trans fun u _ => (leads_loop hadds ih hless hcode u).2

/-! ## Searches -/

/-- The match that a trail makes of its place and marks. -/
def found (origin : Nat) (t : Trail) : Found := ⟨origin, t.place.offset, t.marks⟩

/-- The preferred match of an expression that begins at a place. -/
def first? (a : Node) (place : Place) : Option Found :=
  (a.outcomes ⟨place, []⟩).head?.map (found place.offset)

/-- Tasks at the end of a program come to the first of them. -/
theorem comes_accept {insts : Array Inst} (hi : insts[0]? = some .accept) {origin : Nat}
    {trails : List Trail} {tasks : List Task} {r : Option Found} (h : Comes insts tasks r) :
    Comes insts (trails.map (Trail.task origin 0) ++ tasks)
      (trails.head?.map (found origin) <|> r) := by
  cases trails with
  | nil => simpa using h
  | cons t trails => exact ⟨0, .accept hi⟩

/-- A search finds the preferred match at the first place that has one. -/
theorem find?_eq_findSome? {a : Node} (ha : a.steady = true) (text : List Char) (offset : Nat) :
    (ofNode a).find? text offset =
      ((Place.from 0 none text).drop offset).findSome? (first? a) := by
  have hgrows := grows_compile a 0 #[.accept]
  have hi : (ofNode a).insts[0]? = some .accept := by
    rw [show (ofNode a).insts = (compile a 0 #[.accept]).2 from rfl, hgrows.2 0 (by simp)]
    rfl
  have hleads := yields_compile ha 0 #[.accept] (ofNode a).insts fun _ _ _ => rfl
  suffices h : ∀ places : List Place, Comes (ofNode a).insts
      (places.map fun p => { inst := (ofNode a).start, place := p, origin := p.offset, marks := [] })
      (places.findSome? (first? a)) by
    obtain ⟨n, h⟩ := h ((Place.from 0 none text).drop offset)
    exact find?_eq_of_settles h
  intro places
  induction places with
  | nil => exact ⟨0, .nil⟩
  | cons p places ih =>
    have := hleads ⟨p, []⟩ p.offset _ _ (comes_accept hi ih)
    rw [List.findSome?_cons]
    cases hp : first? a p with
    | none =>
      rw [show (a.outcomes ⟨p, []⟩).head?.map (found p.offset) = none from hp] at this
      exact this
    | some f =>
      rw [show (a.outcomes ⟨p, []⟩).head?.map (found p.offset) = some f from hp] at this
      exact this

end Program
end RowQuery.Regex
