import Mathlib.Data.Finset.Prod
import RowQuery.Regex.Search

/-!
The search of a program, without its memory.

* `Place.Lies`, `Place.mem_from_iff`: a place lies in a text.
* `Settles`: what tasks come to if each is followed up, tried before or not, and in how many steps.
* `Memory`: the pairs of place and instruction that a search has taken note of.
* `Late`: what was tried and leads to acceptance cannot be met again.
* `search_eq_of_settles`: a search that drops what was tried comes to the same.

A task that was tried before and did not lead to acceptance may be dropped. One that leads to
acceptance is never met again: it would have to take more steps than are left.
-/
namespace RowQuery.Regex

/-! ## Places of a text -/

/-- A place lies in a text: what is before it and what follows make up the text. -/
def Place.Lies (place : Place) (text : List Char) : Prop :=
  ∃ front, text = front ++ place.rest ∧ place.offset = front.length ∧
    place.before = front.getLast?

theorem Place.Lies.offset_le {place : Place} {text : List Char} (h : place.Lies text) :
    place.offset ≤ text.length := by
  obtain ⟨front, rfl, ho, -⟩ := h
  simp [ho]

/-- A text has one place at each offset. -/
theorem Place.Lies.eq_of_offset_eq {p q : Place} {text : List Char} (hp : p.Lies text)
    (hq : q.Lies text) (h : p.offset = q.offset) : p = q := by
  obtain ⟨front, ht, ho, hb⟩ := hp
  obtain ⟨front', ht', ho', hb'⟩ := hq
  have hf := List.append_inj (ht.symm.trans ht') (by omega)
  obtain ⟨rfl, hr⟩ := hf
  cases p
  cases q
  simp_all

theorem Place.Lies.after {place : Place} {text r : List Char} {c : Char} (h : place.Lies text)
    (hr : place.rest = c :: r) : (place.after c r).Lies text := by
  obtain ⟨front, ht, ho, -⟩ := h
  exact ⟨front ++ [c], by simp [Place.after, ht, hr], by simp [Place.after, ho],
    by simp [Place.after]⟩

theorem Place.lies_of_mem_from {p : Place} (front : List Char) {rest : List Char}
    (h : p ∈ Place.from front.length front.getLast? rest) : p.Lies (front ++ rest) := by
  induction rest generalizing front with
  | nil =>
    simp only [Place.from, List.mem_singleton] at h
    subst h
    exact ⟨front, rfl, rfl, rfl⟩
  | cons c r ih =>
    simp only [Place.from, List.mem_cons] at h
    rcases h with rfl | h
    · exact ⟨front, rfl, rfl, rfl⟩
    · have := ih (front ++ [c]) (by simpa using h)
      simpa using this

theorem Place.mem_from_of_lies {p : Place} (front : List Char) {rest : List Char}
    (h : p.Lies (front ++ rest)) (hf : front.length ≤ p.offset) :
    p ∈ Place.from front.length front.getLast? rest := by
  induction rest generalizing front with
  | nil =>
    have hp : Place.Lies ⟨front.length, front.getLast?, []⟩ (front ++ []) :=
      ⟨front, rfl, rfl, rfl⟩
    have hle := h.offset_le
    rw [h.eq_of_offset_eq hp (by simp only [List.append_nil] at hle; simp only; omega)]
    simp [Place.from]
  | cons c r ih =>
    rcases Nat.eq_or_lt_of_le hf with he | hlt
    · have hp : Place.Lies ⟨front.length, front.getLast?, c :: r⟩ (front ++ c :: r) :=
        ⟨front, rfl, rfl, rfl⟩
      rw [h.eq_of_offset_eq hp he.symm]
      exact List.mem_cons_self
    · have hf' : (front ++ [c]).length ≤ p.offset := by
        rw [List.length_append]
        exact hlt
      have := ih (front ++ [c]) (by simpa using h) hf'
      exact List.mem_cons_of_mem _ (by simpa using this)

/-- The places of a text are all that lie in it. -/
theorem Place.mem_from_iff {p : Place} {text : List Char} :
    p ∈ Place.from 0 none text ↔ p.Lies text :=
  ⟨Place.lies_of_mem_from [], fun h => Place.mem_from_of_lies [] h (Nat.zero_le _)⟩

/-- A task leads on from its own place or from the place one character further on, in the same match. -/
theorem Task.of_mem_next {task t : Task} {inst : Inst} (h : t ∈ task.next inst) :
    t.origin = task.origin ∧
      (t.place = task.place ∨ ∃ c r, task.place.rest = c :: r ∧ t.place = task.place.after c r) := by
  cases inst with
  | set s next =>
    simp only [Task.next] at h
    split at h
    · simp at h
    · next c r hr =>
      split at h
      · rw [List.mem_singleton] at h
        subst h
        exact ⟨rfl, .inr ⟨c, r, hr, rfl⟩⟩
      · simp at h
  | look l next =>
    simp only [Task.next] at h
    split at h
    · rw [List.mem_singleton] at h
      subst h
      exact ⟨rfl, .inl rfl⟩
    · simp at h
  | fork first second =>
    simp only [Task.next, List.mem_cons, List.not_mem_nil, or_false] at h
    rcases h with rfl | rfl
    · exact ⟨rfl, .inl rfl⟩
    · exact ⟨rfl, .inl rfl⟩
  | mark slot next =>
    rw [Task.next, List.mem_singleton] at h
    subst h
    exact ⟨rfl, .inl rfl⟩
  | accept => simp [Task.next] at h

/-- A task leads to places of the text that its own place lies in. -/
theorem Task.lies_of_mem_next {task : Task} {text : List Char} (h : task.place.Lies text)
    {inst : Inst} {t : Task} (ht : t ∈ task.next inst) : t.place.Lies text := by
  rcases (Task.of_mem_next ht).2 with hplace | ⟨c, r, hr, hplace⟩
  · rwa [hplace]
  · rw [hplace]
    exact h.after hr

/-- A task leads to two tasks at most. -/
theorem Task.length_next_le (task : Task) (inst : Inst) : (task.next inst).length ≤ 2 := by
  cases inst with
  | set s next =>
    simp only [Task.next]
    split
    · simp
    · split <;> simp
  | look l next =>
    simp only [Task.next]
    split <;> simp
  | fork first second => exact Nat.le_refl 2
  | mark slot next => exact Nat.le_succ 1
  | accept => exact Nat.zero_le 2

/-! ## Tasks followed up without memory -/

/-- What some tasks come to, and after how many steps, if each is followed up when its turn
comes. -/
inductive Settles (insts : Array Inst) : List Task → Nat → Option Found → Prop
  | nil : Settles insts [] 0 none
  | stray {task : Task} {tasks : List Task} {n : Nat} {r : Option Found}
      (hi : insts[task.inst]? = none) (h : Settles insts tasks n r) :
      Settles insts (task :: tasks) (n + 1) r
  | accept {task : Task} {tasks : List Task} (hi : insts[task.inst]? = some .accept) :
      Settles insts (task :: tasks) 0 (some ⟨task.origin, task.place.offset, task.marks⟩)
  | step {task : Task} {tasks : List Task} {inst : Inst} {n : Nat} {r : Option Found}
      (hi : insts[task.inst]? = some inst) (ha : inst ≠ .accept)
      (h : Settles insts (task.next inst ++ tasks) n r) : Settles insts (task :: tasks) (n + 1) r

namespace Settles

variable {insts : Array Inst}

theorem unique {tasks : List Task} {n m : Nat} {r s : Option Found}
    (h : Settles insts tasks n r) (h' : Settles insts tasks m s) : n = m ∧ r = s := by
  induction h generalizing m s with
  | nil =>
    cases h'
    exact ⟨rfl, rfl⟩
  | stray hi _ ih =>
    cases h' with
    | stray _ h' =>
      obtain ⟨rfl, rfl⟩ := ih h'
      exact ⟨rfl, rfl⟩
    | accept hi' => simp [hi] at hi'
    | step hi' => simp [hi] at hi'
  | accept hi =>
    cases h' with
    | stray hi' => simp [hi] at hi'
    | accept => exact ⟨rfl, rfl⟩
    | step hi' ha =>
      rw [hi] at hi'
      cases hi'
      exact absurd rfl ha
  | step hi ha _ ih =>
    cases h' with
    | stray hi' => simp [hi] at hi'
    | accept hi' =>
      rw [hi] at hi'
      cases hi'
      exact absurd rfl ha
    | step hi' _ h' =>
      rw [hi] at hi'
      cases hi'
      obtain ⟨rfl, rfl⟩ := ih h'
      exact ⟨rfl, rfl⟩

/-- The tasks in front either lead to acceptance themselves, or fail and leave the decision to
those behind. -/
theorem append_cases (front : List Task) {behind : List Task} {n : Nat} {r : Option Found}
    (h : Settles insts (front ++ behind) n r) :
    (Settles insts front n r ∧ r.isSome) ∨
      ∃ m k, n = m + k ∧ Settles insts front m none ∧ Settles insts behind k r := by
  -- By induction on the steps, which are those of the tasks in front until there are none left.
  generalize ht : front ++ behind = tasks at h
  induction h generalizing front with
  | nil =>
    obtain ⟨rfl, rfl⟩ := List.append_eq_nil_iff.mp ht
    exact .inr ⟨0, 0, rfl, nil, nil⟩
  | @stray task tasks n r hi h ih =>
    cases front with
    | nil =>
      cases ht
      exact .inr ⟨0, n + 1, by omega, nil, stray hi h⟩
    | cons t front =>
      cases ht
      rcases ih front rfl with ⟨h, hs⟩ | ⟨m, k, rfl, hf, hb⟩
      · exact .inl ⟨stray hi h, hs⟩
      · exact .inr ⟨m + 1, k, by omega, stray hi hf, hb⟩
  | @accept task tasks hi =>
    cases front with
    | nil =>
      cases ht
      exact .inr ⟨0, 0, rfl, nil, accept hi⟩
    | cons t front =>
      cases ht
      exact .inl ⟨accept hi, rfl⟩
  | @step task tasks inst n r hi ha h ih =>
    cases front with
    | nil =>
      cases ht
      exact .inr ⟨0, n + 1, by omega, nil, step hi ha h⟩
    | cons t front =>
      cases ht
      rcases ih _ (List.append_assoc _ _ _) with ⟨h, hs⟩ | ⟨m, k, rfl, hf, hb⟩
      · exact .inl ⟨step hi ha h, hs⟩
      · exact .inr ⟨m + 1, k, by omega, step hi ha hf, hb⟩

/-- Whether tasks lead to acceptance does not depend on where their matches began and on what they
have marked. -/
theorem congr {tasks : List Task} {n : Nat} {r : Option Found} (h : Settles insts tasks n r)
    (others : List Task)
    (ht : others.map (fun t => (t.inst, t.place)) = tasks.map fun t => (t.inst, t.place)) :
    ∃ s, Settles insts others n s ∧ s.isSome = r.isSome := by
  induction h generalizing others with
  | nil =>
    obtain rfl := List.map_eq_nil_iff.mp ht
    exact ⟨none, nil, rfl⟩
  | stray hi _ ih =>
    obtain ⟨t, others, rfl, he, ht⟩ := List.map_eq_cons_iff.mp ht
    obtain ⟨s, h, hs⟩ := ih others ht
    exact ⟨s, stray (by simp_all) h, hs⟩
  | accept hi =>
    obtain ⟨t, others, rfl, he, ht⟩ := List.map_eq_cons_iff.mp ht
    exact ⟨_, accept (by simp_all), rfl⟩
  | @step task tasks inst n r hi ha _ ih =>
    obtain ⟨t, others, rfl, he, ht⟩ := List.map_eq_cons_iff.mp ht
    obtain ⟨hinst, hplace⟩ := Prod.mk.inj he
    have hn : (t.next inst).map (fun t => (t.inst, t.place)) =
        (task.next inst).map fun t => (t.inst, t.place) := by
      cases inst with
      | set s next =>
        simp only [Task.next, hplace]
        split
        · rfl
        · split <;> simp
      | look l next =>
        simp only [Task.next, hplace]
        split <;> simp
      | fork first second => simp [Task.next, hplace]
      | mark slot next => simp [Task.next, hplace]
      | accept => rfl
    obtain ⟨s, h, hs⟩ := ih (t.next inst ++ others) (by simp [hn, ht])
    exact ⟨s, step (by rw [hinst, hi]) ha h, hs⟩

end Settles

/-! ## The memory of a search -/

theorem Seen.test_none (length offset inst : Nat) : (Seen.none length).test offset inst = false := by
  simp only [Seen.test, Seen.none, Array.getElem?_replicate]
  split <;> simp

theorem Seen.size_add (seen : Seen) (offset inst : Nat) :
    (seen.add offset inst).size = seen.size := by
  simp [Seen.add]

theorem Seen.test_add (seen : Seen) {offset : Nat} (h : offset < seen.size)
    (inst offset' inst' : Nat) :
    (seen.add offset inst).test offset' inst' =
      (seen.test offset' inst' || decide (offset' = offset ∧ inst' = inst)) := by
  by_cases ho : offset = offset'
  · subst ho
    by_cases hi : inst' = inst
    · subst hi
      simp [Seen.test, Seen.add, h, Array.getElem_modify]
    · have : (1 <<< inst).testBit inst' = false := by
        simp [Nat.one_shiftLeft, Ne.symm hi]
      simp [Seen.test, Seen.add, h, hi, this, Array.getElem_modify]
  · simp [Seen.test, Seen.add, Array.getElem?_modify, ho, Ne.symm ho]

/-- What a search has taken note of: the pairs of offset and instruction tried, all of them of the
text and of the program. -/
structure Memory (size length : Nat) (seen : Seen) (tried : Finset (Nat × Nat)) : Prop where
  size_eq : seen.size = length + 1
  test_eq : ∀ offset inst, seen.test offset inst = decide ((offset, inst) ∈ tried)
  subset : tried ⊆ Finset.range (length + 1) ×ˢ Finset.range size

namespace Memory

variable {size length : Nat} {seen : Seen} {tried : Finset (Nat × Nat)}

theorem empty (size length : Nat) : Memory size length (.none length) ∅ where
  size_eq := by simp [Seen.none]
  test_eq := by simp [Seen.test_none]
  subset := by simp

theorem card_le (h : Memory size length seen tried) : tried.card ≤ (length + 1) * size := by
  have := Finset.card_le_card h.subset
  rwa [Finset.card_product, Finset.card_range, Finset.card_range] at this

theorem add (h : Memory size length seen tried) {offset inst : Nat} (ho : offset ≤ length)
    (hi : inst < size) : Memory size length (seen.add offset inst) (insert (offset, inst) tried) where
  size_eq := by rw [Seen.size_add, h.size_eq]
  test_eq offset' inst' := by
    rw [Seen.test_add seen (by rw [h.size_eq]; omega), h.test_eq]
    simp [Bool.or_comm]
  subset := by
    intro p hp
    rcases Finset.mem_insert.mp hp with rfl | hp
    · simp only [Finset.mem_product, Finset.mem_range]
      omega
    · exact h.subset hp

end Memory

/-- What leads to acceptance and was tried before takes more steps than are left. -/
def Late (insts : Array Inst) (text : List Char) (tried : Finset (Nat × Nat)) (n : Nat) : Prop :=
  ∀ t : Task, t.place.Lies text → (t.place.offset, t.inst) ∈ tried →
    ∀ m f, Settles insts [t] m (some f) → n < m

namespace Late

variable {insts : Array Inst} {text : List Char} {tried : Finset (Nat × Nat)} {n m : Nat}

theorem mono (h : Late insts text tried n) (hm : m ≤ n) : Late insts text tried m :=
  fun t ht hmem k f hf => Nat.lt_of_le_of_lt hm (h t ht hmem k f hf)

/-- The task that is tried now takes a step itself, so whatever is at its place and instruction takes
one step more than is left behind it. -/
theorem insert {task : Task} {tasks : List Task} {inst : Inst} {r : Option Found}
    (h : Late insts text tried (n + 1)) (hl : task.place.Lies text)
    (hi : insts[task.inst]? = some inst) (ha : inst ≠ .accept)
    (hs : Settles insts (task.next inst ++ tasks) n r) :
    Late insts text (insert (task.place.offset, task.inst) tried) n := by
  intro t ht hmem m f hf
  rcases Finset.mem_insert.mp hmem with he | hmem
  · obtain ⟨hoffset, hinst⟩ := Prod.mk.inj he
    have hplace := ht.eq_of_offset_eq hl hoffset
    obtain ⟨s, hs', hsome⟩ := hf.congr [task] (by simp [hinst, hplace])
    obtain ⟨g, rfl⟩ := Option.isSome_iff_exists.mp hsome
    rcases Settles.append_cases [task] (Settles.step hi ha hs) with ⟨h', -⟩ | ⟨k, _, -, h', -⟩
    · have := (hs'.unique h').1
      omega
    · exact absurd (hs'.unique h').2 (by simp)
  · have := h t ht hmem m f hf
    omega

end Late

/-! ## The search -/

/-- A task that was not tried before is followed up, in front of the others. -/
theorem search_of_step {insts : Array Inst} {steps : Nat} {task : Task} {tasks : List Task}
    {seen : Seen} {inst : Inst} (hs : seen.test task.place.offset task.inst = false)
    (hi : insts[task.inst]? = some inst) (ha : inst ≠ .accept) :
    search insts (steps + 1) (task :: tasks) seen =
      search insts steps (task.next inst ++ tasks) (seen.add task.place.offset task.inst) := by
  rw [search, if_neg (by simp [hs]), hi]
  cases inst with
  | accept => exact absurd rfl ha
  | set s next => rfl
  | look l next => rfl
  | fork first second => rfl
  | mark slot next => rfl

/-- A search comes to what its tasks come to without memory, if there are steps enough. -/
theorem search_eq_of_settles {insts : Array Inst} {text : List Char} :
    ∀ (steps : Nat) {tasks : List Task} {seen : Seen} {tried : Finset (Nat × Nat)} {n : Nat}
      {r : Option Found}, Settles insts tasks n r → (∀ t ∈ tasks, t.place.Lies text) →
      Memory insts.size text.length seen tried → Late insts text tried n →
      tasks.length + 2 * ((text.length + 1) * insts.size - tried.card) < steps →
      search insts steps tasks seen = r := by
  intro steps
  induction steps with
  | zero =>
    intro tasks seen tried n r _ _ _ _ hs
    omega
  | succ steps ih =>
    intro tasks seen tried n r h hl hm late hs
    cases tasks with
    | nil =>
      cases h
      rfl
    | cons task tasks =>
      have hlies : task.place.Lies text := hl task (by simp)
      have hrest : ∀ t ∈ tasks, t.place.Lies text := fun t ht => hl t (by simp [ht])
      rw [List.length_cons] at hs
      by_cases htried : (task.place.offset, task.inst) ∈ tried
      · -- It was tried, and cannot be what leads to acceptance: there are too few steps left for it.
        have htest : seen.test task.place.offset task.inst = true := by simp [hm.test_eq, htried]
        rw [search, if_pos htest]
        rcases Settles.append_cases [task] h with ⟨h', hsome⟩ | ⟨m, k, rfl, _, hb⟩
        · obtain ⟨f, rfl⟩ := Option.isSome_iff_exists.mp hsome
          exact absurd (late task hlies htried n f h') (Nat.lt_irrefl n)
        · exact ih hb hrest hm (late.mono (by omega)) (by omega)
      · have htest : seen.test task.place.offset task.inst = false := by simp [hm.test_eq, htried]
        cases h with
        | stray hi h =>
          rw [search, if_neg (by simp [htest]), hi]
          exact ih h hrest hm (late.mono (by omega)) (by omega)
        | accept hi => rw [search, if_neg (by simp [htest]), hi]
        | @step _ _ inst n _ hi ha h =>
          have hsize : task.inst < insts.size := (Array.getElem?_eq_some_iff.mp hi).1
          have hadd := hm.add hlies.offset_le hsize
          have hcard := hadd.card_le
          rw [Finset.card_insert_of_notMem htried] at hcard
          have hnext := task.length_next_le inst
          rw [search_of_step htest hi ha]
          refine ih h (fun t ht => ?_) hadd (late.insert hlies hi ha h) ?_
          · rcases List.mem_append.mp ht with ht | ht
            · exact Task.lies_of_mem_next hlies ht
            · exact hrest t ht
          · -- Two tasks more at most, and one pair less to be tried.
            rw [Finset.card_insert_of_notMem htried, List.length_append]
            omega

theorem Place.length_from (offset : Nat) (before : Option Char) (text : List Char) :
    (Place.from offset before text).length = text.length + 1 := by
  induction text generalizing offset before with
  | nil => rfl
  | cons c r ih => simp [Place.from, ih]

theorem Program.lies_of_mem_tasks {program : Program} {text : List Char} {offset : Nat} {t : Task}
    (h : t ∈ program.tasks text offset) : t.place.Lies text := by
  obtain ⟨p, hp, rfl⟩ := List.mem_map.mp h
  exact Place.lies_of_mem_from [] (List.mem_of_mem_drop hp)

/-- There are steps enough for all tasks and for all pairs of place and instruction. -/
theorem Program.lt_steps (program : Program) (text : List Char) (offset : Nat) :
    (program.tasks text offset).length + 2 * ((text.length + 1) * program.insts.size) <
      program.steps text.length := by
  have hlen : (program.tasks text offset).length ≤ text.length + 1 := by
    simp only [Program.tasks, List.length_map, List.length_drop, Place.length_from]
    omega
  have hmul : (2 * program.insts.size + 1) * (text.length + 1) =
      2 * ((text.length + 1) * program.insts.size) + (text.length + 1) := by
    rw [Nat.add_mul, Nat.one_mul, Nat.mul_assoc, Nat.mul_comm program.insts.size]
  rw [Program.steps]
  omega

/-- A program finds what its tasks come to. -/
theorem Program.find?_eq_of_settles {program : Program} {text : List Char} {offset n : Nat}
    {r : Option Found} (h : Settles program.insts (program.tasks text offset) n r) :
    program.find? text offset = r :=
  search_eq_of_settles _ h (fun _ => lies_of_mem_tasks) (Memory.empty _ _) (by simp [Late])
    (by simpa using program.lt_steps text offset)

end RowQuery.Regex
