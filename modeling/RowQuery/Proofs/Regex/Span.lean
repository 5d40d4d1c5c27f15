import RowQuery.Proofs.Regex.Outcome

/-!
What a regular expression matches, whatever is preferred.

* `Node.Spans`: an expression matches the text from one place to another.
* `Node.spans_sequence`: a sequence in its simplest form matches what its parts match one after another.
* `Accepts`: a program can go on to its end from an instruction and a place.
* `search_isSome_iff`: a search finds a match just if one of its tasks can go on to the end.
* `Passes`: from one instruction to another a program gets from a place just to those that a relation gives.
* `isMatch_iff_spans`: there is a match just if the expression spans some part of the text.

Nothing is asked of the loops of an expression here: a round may take nothing.
-/
namespace RowQuery.Regex

/-! ## What expressions span -/

/-- A place is reached from another over a text. -/
def Place.Over : List Char → Place → Place → Prop
  | [], p, q => p = q
  | c :: s, p, q => ∃ r, p.rest = c :: r ∧ Over s (p.after c r) q

/-- A number of rounds one after another. -/
def Rounds (R : Place → Place → Prop) : Nat → Place → Place → Prop
  | 0, p, q => p = q
  | n + 1, p, q => ∃ m, R p m ∧ Rounds R n m q

/-- At most a number of rounds, or any number of them if there is no limit. -/
def UpTo (R : Place → Place → Prop) (limit : Option Nat) (p q : Place) : Prop :=
  ∃ n, (∀ m ∈ limit, n ≤ m) ∧ Rounds R n p q

/-- An expression matches the text from one place to another. -/
def Node.Spans : Node → Place → Place → Prop
  | .empty, p, q => p = q
  | .text s, p, q => Place.Over s p q
  | .set s _, p, q => ∃ c r, p.rest = c :: r ∧ s.mem c = true ∧ q = p.after c r
  | .look l, p, q => l.holds p.before p.rest = true ∧ p = q
  | .cat a b, p, q => ∃ m, a.Spans p m ∧ b.Spans m q
  | .alt a b, p, q => a.Spans p q ∨ b.Spans p q
  | .group _ a, p, q => a.Spans p q
  | .iterate a min max _, p, q =>
    ∃ m, Rounds a.Spans min p m ∧ UpTo a.Spans (max.map (· - min)) m q

section Rounds

variable {R : Place → Place → Prop} {p q : Place}

theorem rounds_succ {n : Nat} : Rounds R (n + 1) p q ↔ ∃ m, Rounds R n p m ∧ R m q := by
  induction n generalizing p with
  | zero => simp [Rounds]
  | succ n ih =>
    constructor
    · rintro ⟨m, hm, h⟩
      obtain ⟨x, hx, hq⟩ := ih.mp h
      exact ⟨x, ⟨m, hm, hx⟩, hq⟩
    · rintro ⟨x, ⟨m, hm, hx⟩, hq⟩
      exact ⟨m, hm, ih.mpr ⟨x, hx, hq⟩⟩

theorem upTo_zero : UpTo R (some 0) p q ↔ p = q := by
  constructor
  · rintro ⟨n, hn, h⟩
    obtain rfl : n = 0 := Nat.le_zero.mp (hn 0 rfl)
    exact h
  · rintro rfl
    exact ⟨0, fun m _ => Nat.zero_le m, rfl⟩

/-- There is no round, or a first one and one less at most after it. -/
theorem upTo_succ {k : Nat} : UpTo R (some (k + 1)) p q ↔ p = q ∨ ∃ m, R p m ∧ UpTo R (some k) m q := by
  constructor
  · rintro ⟨n, hn, h⟩
    cases n with
    | zero => exact .inl h
    | succ n =>
      obtain ⟨m, hm, h⟩ := h
      exact .inr ⟨m, hm, n, by simpa using hn, h⟩
  · rintro (rfl | ⟨m, hm, n, hn, h⟩)
    · exact ⟨0, fun m _ => Nat.zero_le m, rfl⟩
    · exact ⟨n + 1, by simpa using hn, m, hm, h⟩

/-- There is no round, or a first one and any number after it. -/
theorem upTo_none : UpTo R none p q ↔ p = q ∨ ∃ m, R p m ∧ UpTo R none m q := by
  constructor
  · rintro ⟨n, -, h⟩
    cases n with
    | zero => exact .inl h
    | succ n =>
      obtain ⟨m, hm, h⟩ := h
      exact .inr ⟨m, hm, n, by simp, h⟩
  · rintro (rfl | ⟨m, hm, n, -, h⟩)
    · exact ⟨0, by simp, rfl⟩
    · exact ⟨n + 1, by simp, m, hm, h⟩

end Rounds

/-! ## Texts -/

section Over

variable {s t : List Char} {p q : Place}

theorem over_append : Place.Over (s ++ t) p q ↔ ∃ m, Place.Over s p m ∧ Place.Over t m q := by
  induction s generalizing p with
  | nil => simp [Place.Over]
  | cons c s ih =>
    simp only [List.cons_append, Place.Over, ih]
    constructor
    · rintro ⟨r, hr, m, hs, ht⟩
      exact ⟨m, ⟨r, hr, hs⟩, ht⟩
    · rintro ⟨m, ⟨r, hr, hs⟩, ht⟩
      exact ⟨r, hr, m, hs, ht⟩

/-- A text gone over is what comes next. -/
theorem Place.Over.rest_eq (h : Place.Over s p q) : p.rest = s ++ q.rest := by
  induction s generalizing p with
  | nil =>
    obtain rfl : p = q := h
    rfl
  | cons c s ih =>
    obtain ⟨r, hr, h⟩ := h
    rw [hr, List.cons_append, ← ih h]
    rfl

theorem Place.Lies.over {text : List Char} (hp : p.Lies text) (h : Place.Over s p q) : q.Lies text := by
  induction s generalizing p with
  | nil =>
    obtain rfl : p = q := h
    exact hp
  | cons c s ih =>
    obtain ⟨r, hr, h⟩ := h
    exact ih (hp.after hr) h

/-- Rounds of one character of a set go over texts of such characters. -/
theorem rounds_set {set : Unicode.CharSet} {basic : Bool} {n : Nat} :
    Rounds (Node.set set basic).Spans n p q ↔
      ∃ s : List Char, s.length = n ∧ (∀ c ∈ s, set.mem c = true) ∧ Place.Over s p q := by
  induction n generalizing p with
  | zero => simp [Rounds, Place.Over]
  | succ n ih =>
    simp only [Rounds, ih]
    constructor
    · rintro ⟨m, ⟨c, r, hr, hc, rfl⟩, s, hn, hs, h⟩
      exact ⟨c :: s, by rw [List.length_cons, hn], List.forall_mem_cons.mpr ⟨hc, hs⟩, r, hr, h⟩
    · rintro ⟨s, hn, hs, h⟩
      cases s with
      | nil => cases hn
      | cons c s =>
        obtain ⟨hc, hs⟩ := List.forall_mem_cons.mp hs
        obtain ⟨r, hr, h⟩ := h
        exact ⟨_, ⟨c, r, hr, hc, rfl⟩, s, Nat.succ.inj hn, hs, h⟩

/-- One character or more of a set. -/
theorem spans_run {set : Unicode.CharSet} {basic greedy : Bool} :
    (Node.iterate (.set set basic) 1 none greedy).Spans p q ↔
      ∃ s : List Char, s ≠ [] ∧ (∀ c ∈ s, set.mem c = true) ∧ Place.Over s p q := by
  rw [Node.Spans]
  simp only [UpTo, rounds_set]
  constructor
  · rintro ⟨m, ⟨s, hs, hset, hover⟩, n, -, t, -, hset', hover'⟩
    refine ⟨s ++ t, ?_, ?_, over_append.mpr ⟨m, hover, hover'⟩⟩
    · exact List.append_ne_nil_of_left_ne_nil (List.ne_nil_of_length_eq_add_one hs) t
    · exact List.forall_mem_append.mpr ⟨hset, hset'⟩
  · rintro ⟨s, hne, hset, hover⟩
    cases s with
    | nil => exact absurd rfl hne
    | cons c s =>
      obtain ⟨hc, hset⟩ := List.forall_mem_cons.mp hset
      obtain ⟨r, hr, hover⟩ := hover
      exact ⟨p.after c r, ⟨[c], rfl, by simpa using hc, r, hr, rfl⟩, s.length, by simp, s, rfl, hset, hover⟩

theorem exists_over_of_rounds {R : Place → Place → Prop} (hR : ∀ p q, R p q → ∃ s, Place.Over s p q)
    {n : Nat} (h : Rounds R n p q) : ∃ s, Place.Over s p q := by
  induction n generalizing p with
  | zero => exact ⟨[], h⟩
  | succ n ih =>
    obtain ⟨m, hm, h⟩ := h
    obtain ⟨s, hs⟩ := hR p m hm
    obtain ⟨t, ht⟩ := ih h
    exact ⟨s ++ t, over_append.mpr ⟨m, hs, ht⟩⟩

/-- Whatever an expression spans is some text. -/
theorem Node.exists_over_of_spans {a : Node} (h : a.Spans p q) : ∃ s, Place.Over s p q := by
  induction a generalizing p q with
  | empty => exact ⟨[], h⟩
  | text s => exact ⟨s, h⟩
  | set set basic =>
    obtain ⟨c, r, hr, -, rfl⟩ := h
    exact ⟨[c], r, hr, rfl⟩
  | look l => exact ⟨[], h.2⟩
  | cat a b iha ihb =>
    obtain ⟨m, ha, hb⟩ := h
    obtain ⟨s, hs⟩ := iha ha
    obtain ⟨t, ht⟩ := ihb hb
    exact ⟨s ++ t, over_append.mpr ⟨m, hs, ht⟩⟩
  | alt a b iha ihb => exact h.elim iha ihb
  | group index a ih => exact ih h
  | iterate a min max greedy ih =>
    obtain ⟨m, hmin, n, -, hmore⟩ := h
    obtain ⟨s, hs⟩ := exists_over_of_rounds (fun _ _ => ih) hmin
    obtain ⟨t, ht⟩ := exists_over_of_rounds (fun _ _ => ih) hmore
    exact ⟨s ++ t, over_append.mpr ⟨m, hs, ht⟩⟩

end Over

/-! ## Sequences -/

namespace Node

/-- Some expressions match one after another. -/
def SpansAll : List Node → Place → Place → Prop
  | [], p, q => p = q
  | a :: r, p, q => ∃ m, a.Spans p m ∧ SpansAll r m q

variable {p q : Place}

theorem spansAll_append (l r : List Node) :
    SpansAll (l ++ r) p q ↔ ∃ m, SpansAll l p m ∧ SpansAll r m q := by
  induction l generalizing p with
  | nil => simp [SpansAll]
  | cons a l ih =>
    simp only [List.cons_append, SpansAll, ih]
    constructor
    · rintro ⟨x, hx, m, hl, hr⟩
      exact ⟨m, ⟨x, hx, hl⟩, hr⟩
    · rintro ⟨m, ⟨x, hx, hl⟩, hr⟩
      exact ⟨x, hx, m, hl, hr⟩

theorem spans_cats (l : List Node) : (cats l).Spans p q ↔ SpansAll l p q := by
  fun_induction cats l generalizing p with
  | case1 => rfl
  | case2 a => simp [SpansAll]
  | case3 a r hr ih => simp only [Spans, SpansAll, ih]

theorem spansAll_parts (a : Node) : SpansAll a.parts p q ↔ a.Spans p q := by
  induction a generalizing p q with
  | empty => rfl
  | cat a b iha ihb => simp only [parts, spansAll_append, iha, ihb, Spans]
  | _ => simp [parts, SpansAll]

theorem spansAll_before (a : Node) (r : List Node) :
    SpansAll (before a r) p q ↔ SpansAll (a :: r) p q := by
  fun_cases before a r with
  | case1 s t r =>
    simp only [SpansAll, Spans, over_append]
    constructor
    · rintro ⟨m, ⟨x, hs, ht⟩, h⟩
      exact ⟨x, hs, m, ht, h⟩
    · rintro ⟨x, hs, m, ht, h⟩
      exact ⟨m, ⟨x, hs, ht⟩, h⟩
  | case2 => rfl

/-- A sequence in its simplest form matches what its parts match one after another. -/
theorem spans_sequence (items : List Node) : (sequence items).Spans p q ↔ SpansAll items p q := by
  have hfold : ∀ (l : List Node) (p : Place), SpansAll (l.foldr before []) p q ↔ SpansAll l p q := by
    intro l
    induction l with
    | nil => exact fun p => .rfl
    | cons a l ih =>
      intro p
      simp only [List.foldr_cons, spansAll_before, SpansAll, ih]
  rw [sequence, spans_cats, hfold]
  induction items generalizing p with
  | nil => rfl
  | cons a items ih =>
    simp only [List.flatMap_cons, spansAll_append, spansAll_parts, SpansAll, ih]

end Node

/-- An alternative without changes of flags matches what its parts match one after another. -/
theorem Measured.spans_ofItems {items : List Item} (h : ∀ i ∈ items, i.repeatable = true) {p q : Place} :
    (Measured.ofItems items).node.Spans p q ↔ Node.SpansAll (items.reverse.map (·.node)) p q := by
  match items with
  | [] => rfl
  | [i] => simp [Measured.ofItems, Node.SpansAll]
  | i :: j :: items =>
    rw [Measured.ofItems, Node.spans_sequence, List.filter_eq_self.mpr h, List.map_reverse]
    · simp
    · simp

/-! ## Programs that go on to their end -/

/-- The instructions and places that an instruction leads to from a place. -/
def Inst.ways (place : Place) : Inst → List (Nat × Place)
  | .set s next =>
    match place.rest with
    | [] => []
    | c :: r => if s.mem c then [(next, place.after c r)] else []
  | .look l next => if l.holds place.before place.rest then [(next, place)] else []
  | .fork first second => [(first, place), (second, place)]
  | .mark _ next => [(next, place)]
  | .accept => []

/-- A choice leads to another round and to leaving, whichever is preferred. -/
theorem Program.mem_ways_choice (greedy : Bool) {round leave j : Nat} {p q : Place} :
    (j, q) ∈ (choice greedy round leave).ways p ↔ (j = round ∨ j = leave) ∧ q = p := by
  cases greedy with
  | true => simp [choice, Inst.ways, or_and_right]
  | false => simp [choice, Inst.ways, or_and_right, or_comm]

/-- A task leads on by the ways of its instruction. -/
theorem Task.map_next (task : Task) (inst : Inst) :
    (task.next inst).map (fun t => (t.inst, t.place)) = inst.ways task.place := by
  cases inst with
  | set s next =>
    cases hr : task.place.rest with
    | nil => simp [Task.next, Inst.ways, hr]
    | cons c r => by_cases hc : s.mem c <;> simp [Task.next, Inst.ways, hr, hc]
  | look l next =>
    simp only [Task.next, Inst.ways]
    split <;> rfl
  | fork first second => rfl
  | mark slot next => rfl
  | accept => rfl

/-- From an instruction and a place a program can go on to its end, in a number of steps. -/
inductive Accepts (insts : Array Inst) : Nat → Nat → Place → Prop
  | here {i : Nat} {p : Place} (hi : insts[i]? = some .accept) : Accepts insts 0 i p
  | step {n i j : Nat} {p q : Place} {inst : Inst} (hi : insts[i]? = some inst)
      (hway : (j, q) ∈ inst.ways p) (h : Accepts insts n j q) : Accepts insts (n + 1) i p

namespace Accepts

variable {insts : Array Inst} {n i : Nat} {p : Place} {inst : Inst}

/-- An instruction that is not the end takes a step. -/
theorem exists_way (h : Accepts insts n i p) (hi : insts[i]? = some inst) (ha : inst ≠ .accept) :
    ∃ m j q, n = m + 1 ∧ (j, q) ∈ inst.ways p ∧ Accepts insts m j q := by
  cases h with
  | here hi' =>
    rw [hi] at hi'
    cases hi'
    exact absurd rfl ha
  | step hi' hway h =>
    rw [hi] at hi'
    cases hi'
    exact ⟨_, _, _, rfl, hway, h⟩

theorem exists_next {task : Task} (h : Accepts insts n task.inst task.place)
    (hi : insts[task.inst]? = some inst) (ha : inst ≠ .accept) :
    ∃ next ∈ task.next inst, ∃ m < n, Accepts insts m next.inst next.place := by
  obtain ⟨m, j, q, rfl, hway, h⟩ := h.exists_way hi ha
  rw [← task.map_next inst] at hway
  obtain ⟨next, hnext, heq⟩ := List.mem_map.mp hway
  cases heq
  exact ⟨next, hnext, m, Nat.lt_succ_self m, h⟩

theorem of_next {task next : Task} (hi : insts[task.inst]? = some inst)
    (hnext : next ∈ task.next inst) (h : Accepts insts n next.inst next.place) :
    Accepts insts (n + 1) task.inst task.place :=
  .step hi (task.map_next inst ▸ List.mem_map.mpr ⟨next, hnext, rfl⟩) h

end Accepts

/-! ## Searches -/

/-- One of some tasks can go on to the end, in fewer steps than a number. -/
def Open (insts : Array Inst) (tasks : List Task) (n : Nat) : Prop :=
  ∃ task ∈ tasks, ∃ m < n, Accepts insts m task.inst task.place

/-- Whatever was tried and can go on to the end, one of the tasks can do so in fewer steps. -/
def Ahead (insts : Array Inst) (text : List Char) (tried : Finset (Nat × Nat)) (tasks : List Task) :
    Prop :=
  ∀ (i : Nat) (p : Place), p.Lies text → (p.offset, i) ∈ tried → ∀ n, Accepts insts n i p →
    Open insts tasks n

namespace Ahead

variable {insts : Array Inst} {text : List Char} {tried : Finset (Nat × Nat)} {task : Task}
  {tasks : List Task}

/-- A task that cannot go on to the end may be dropped. -/
theorem drop (h : Ahead insts text tried (task :: tasks))
    (hstray : ∀ n, ¬ Accepts insts n task.inst task.place) : Ahead insts text tried tasks := by
  intro i p hp hmem n hn
  obtain ⟨t, ht, m, hm, hacc⟩ := h i p hp hmem n hn
  rcases List.mem_cons.mp ht with rfl | ht
  · exact absurd hacc (hstray m)
  · exact ⟨t, ht, m, hm, hacc⟩

/-- A task that was tried may be dropped: if it can go on to the end, another can do so sooner. -/
theorem drop_tried (h : Ahead insts text tried (task :: tasks)) (hl : task.place.Lies text)
    (htried : (task.place.offset, task.inst) ∈ tried) : Ahead insts text tried tasks := by
  intro i p hp hmem n
  induction n using Nat.strongRecOn generalizing i p with
  | ind n ih =>
    intro hn
    obtain ⟨t, ht, m, hm, hacc⟩ := h i p hp hmem n hn
    rcases List.mem_cons.mp ht with rfl | ht
    · obtain ⟨u, hu, k, hk, hacc⟩ := ih m hm t.inst t.place hl htried hacc
      exact ⟨u, hu, k, hk.trans hm, hacc⟩
    · exact ⟨t, ht, m, hm, hacc⟩

/-- A task that is tried now is followed by those that it leads to. -/
theorem insert {inst : Inst} (h : Ahead insts text tried (task :: tasks)) (hl : task.place.Lies text)
    (hi : insts[task.inst]? = some inst) (ha : inst ≠ .accept) :
    Ahead insts text (insert (task.place.offset, task.inst) tried) (task.next inst ++ tasks) := by
  have hnext : ∀ n, Accepts insts n task.inst task.place → Open insts (task.next inst ++ tasks) n := by
    intro n hn
    obtain ⟨next, hmem, m, hm, hacc⟩ := hn.exists_next hi ha
    exact ⟨next, List.mem_append_left _ hmem, m, hm, hacc⟩
  intro i p hp hmem n hn
  rcases Finset.mem_insert.mp hmem with heq | hmem
  · obtain ⟨hoffset, rfl⟩ := Prod.mk.inj heq
    obtain rfl := hp.eq_of_offset_eq hl hoffset
    exact hnext n hn
  · obtain ⟨t, ht, m, hm, hacc⟩ := h i p hp hmem n hn
    rcases List.mem_cons.mp ht with rfl | ht
    · obtain ⟨u, hu, k, hk, hacc⟩ := hnext m hacc
      exact ⟨u, hu, k, hk.trans hm, hacc⟩
    · exact ⟨t, List.mem_append_right _ ht, m, hm, hacc⟩

end Ahead

/-- A search finds something just if one of its tasks can go on to the end, if there are steps enough. -/
theorem search_isSome_iff {insts : Array Inst} {text : List Char} :
    ∀ (steps : Nat) {tasks : List Task} {seen : Seen} {tried : Finset (Nat × Nat)},
      (∀ t ∈ tasks, t.place.Lies text) → Memory insts.size text.length seen tried →
      Ahead insts text tried tasks →
      tasks.length + 2 * ((text.length + 1) * insts.size - tried.card) < steps →
      ((search insts steps tasks seen).isSome = true ↔
        ∃ t ∈ tasks, ∃ n, Accepts insts n t.inst t.place) := by
  intro steps
  induction steps with
  | zero =>
    intro tasks seen tried _ _ _ hs
    omega
  | succ steps ih =>
    intro tasks seen tried hl hm hahead hs
    cases tasks with
    | nil => simp [search]
    | cons task tasks =>
      have hlies : task.place.Lies text := hl task List.mem_cons_self
      have hrest : ∀ t ∈ tasks, t.place.Lies text := fun t ht => hl t (List.mem_cons_of_mem _ ht)
      rw [List.length_cons] at hs
      rw [List.exists_mem_cons_iff]
      by_cases htried : (task.place.offset, task.inst) ∈ tried
      · have htest : seen.test task.place.offset task.inst = true := by simp [hm.test_eq, htried]
        have hdrop := hahead.drop_tried hlies htried
        rw [search, if_pos htest, ih hrest hm hdrop (by omega)]
        refine ⟨.inr, ?_⟩
        rintro (⟨n, hn⟩ | h)
        · obtain ⟨t, ht, m, -, hacc⟩ := hdrop _ _ hlies htried n hn
          exact ⟨t, ht, m, hacc⟩
        · exact h
      · have htest : seen.test task.place.offset task.inst = false := by simp [hm.test_eq, htried]
        cases hi : insts[task.inst]? with
        | none =>
          have hstray : ∀ n, ¬ Accepts insts n task.inst task.place := by
            intro n hn
            cases hn with
            | here hi' => simp [hi] at hi'
            | step hi' => simp [hi] at hi'
          rw [search, if_neg (by simp [htest]), hi]
          simp only [ih hrest hm (hahead.drop hstray) (by omega), hstray, exists_const, false_or]
        | some inst =>
          by_cases ha : inst = .accept
          · subst ha
            rw [search, if_neg (by simp [htest]), hi]
            exact ⟨fun _ => .inl ⟨0, .here hi⟩, fun _ => rfl⟩
          · have hsize : task.inst < insts.size := (Array.getElem?_eq_some_iff.mp hi).1
            have hadd := hm.add hlies.offset_le hsize
            have hcard := hadd.card_le
            rw [Finset.card_insert_of_notMem htried] at hcard
            have hnext := task.length_next_le inst
            rw [search_of_step htest hi ha, ih ?_ hadd (hahead.insert hlies hi ha) ?_]
            · constructor
              · rintro ⟨t, ht, n, hn⟩
                rcases List.mem_append.mp ht with ht | ht
                · exact .inl ⟨n + 1, .of_next hi ht hn⟩
                · exact .inr ⟨t, ht, n, hn⟩
              · rintro (⟨n, hn⟩ | ⟨t, ht, n, hn⟩)
                · obtain ⟨next, hmem, m, -, hacc⟩ := hn.exists_next hi ha
                  exact ⟨next, List.mem_append_left _ hmem, m, hacc⟩
                · exact ⟨t, List.mem_append_right _ ht, n, hn⟩
            · intro t ht
              rcases List.mem_append.mp ht with ht | ht
              · exact Task.lies_of_mem_next hlies ht
              · exact hrest t ht
            · rw [Finset.card_insert_of_notMem htried, List.length_append]
              omega

/-! ## What programs span -/

/-- From `start` a program can go on to its end just if it can do so from `stop` and a place that the relation
gives, in no more steps. -/
structure Passes (prog : Array Inst) (start : Nat) (R : Place → Place → Prop) (stop : Nat) : Prop where
  sound : ∀ {n p}, Accepts prog n start p → ∃ q m, R p q ∧ m ≤ n ∧ Accepts prog m stop q
  complete : ∀ {p q n}, R p q → Accepts prog n stop q → ∃ m, Accepts prog m start p

namespace Passes

variable {prog : Array Inst} {start middle stop : Nat} {R S : Place → Place → Prop}

theorem congr (h : Passes prog start R stop) (hR : ∀ p q, R p q ↔ S p q) : Passes prog start S stop := by
  obtain rfl : R = S := funext fun p => funext fun q => propext (hR p q)
  exact h

theorem refl : Passes prog start (fun p q => p = q) start where
  sound {n p} h := ⟨p, n, rfl, Nat.le_refl n, h⟩
  complete {_ _ n} hpq h := ⟨n, hpq ▸ h⟩

theorem trans (h : Passes prog start R middle) (h' : Passes prog middle S stop) :
    Passes prog start (fun p q => ∃ m, R p m ∧ S m q) stop where
  sound hacc := by
    obtain ⟨m, k, hm, hk, hacc⟩ := h.sound hacc
    obtain ⟨q, l, hq, hl, hacc⟩ := h'.sound hacc
    exact ⟨q, l, ⟨m, hm, hq⟩, Nat.le_trans hl hk, hacc⟩
  complete := by
    rintro p q n ⟨m, hm, hq⟩ hacc
    obtain ⟨k, hacc⟩ := h'.complete hq hacc
    exact h.complete hm hacc

/-- An instruction with one way on, to `stop`. -/
theorem one {inst : Inst} (hi : prog[start]? = some inst) (ha : inst ≠ .accept)
    (hways : ∀ p j q, (j, q) ∈ inst.ways p ↔ j = stop ∧ R p q) : Passes prog start R stop where
  sound {n p} hacc := by
    obtain ⟨m, j, q, rfl, hway, hacc⟩ := hacc.exists_way hi ha
    obtain ⟨rfl, hq⟩ := (hways p j q).mp hway
    exact ⟨q, m, hq, Nat.le_succ m, hacc⟩
  complete {p q n} hq hacc := ⟨n + 1, .step hi ((hways p stop q).mpr ⟨rfl, hq⟩) hacc⟩

theorem set {s : Unicode.CharSet} {basic : Bool} (hi : prog[start]? = some (.set s stop)) :
    Passes prog start (Node.set s basic).Spans stop := by
  refine one hi (by simp) fun p j q => ?_
  cases hr : p.rest with
  | nil => simp [Inst.ways, Node.Spans, hr]
  | cons c r => by_cases hc : s.mem c <;> simp [Inst.ways, Node.Spans, hr, hc]

theorem look {l : Look} (hi : prog[start]? = some (.look l stop)) :
    Passes prog start (Node.look l).Spans stop := by
  refine one hi (by simp) fun p j q => ?_
  by_cases hl : l.holds p.before p.rest <;> simp [Inst.ways, Node.Spans, hl, @eq_comm _ p q]

theorem mark {slot : Nat} (hi : prog[start]? = some (.mark slot stop)) :
    Passes prog start (fun p q => p = q) stop :=
  one hi (by simp) fun p j q => by simp [Inst.ways, @eq_comm _ p q]

theorem fork {first second : Nat} (hi : prog[start]? = some (.fork first second))
    (h : Passes prog first R stop) (h' : Passes prog second S stop) :
    Passes prog start (fun p q => R p q ∨ S p q) stop where
  sound {n p} hacc := by
    obtain ⟨m, j, x, rfl, hway, hnext⟩ := hacc.exists_way hi (by simp)
    simp only [Inst.ways, List.mem_cons, Prod.mk.injEq, List.not_mem_nil, or_false] at hway
    obtain ⟨rfl, rfl⟩ | ⟨rfl, rfl⟩ := hway
    · obtain ⟨q, k, hq, hk, hstop⟩ := h.sound hnext
      exact ⟨q, k, .inl hq, Nat.le_succ_of_le hk, hstop⟩
    · obtain ⟨q, k, hq, hk, hstop⟩ := h'.sound hnext
      exact ⟨q, k, .inr hq, Nat.le_succ_of_le hk, hstop⟩
  complete {p q n} hpq hacc := by
    rcases hpq with hq | hq
    · obtain ⟨m, hacc⟩ := h.complete hq hacc
      exact ⟨m + 1, .step hi (by simp [Inst.ways]) hacc⟩
    · obtain ⟨m, hacc⟩ := h'.complete hq hacc
      exact ⟨m + 1, .step hi (by simp [Inst.ways]) hacc⟩

/-- A choice between another round and leaving, whichever is preferred. -/
theorem choice {greedy : Bool} {round leave : Nat}
    (hi : prog[start]? = some (Program.choice greedy round leave))
    (h : Passes prog round R stop) (h' : Passes prog leave S stop) :
    Passes prog start (fun p q => R p q ∨ S p q) stop := by
  cases greedy with
  | true => exact fork hi h h'
  | false => exact (fork hi h' h).congr fun _ _ => or_comm

/-- A loop goes on by any number of rounds. -/
theorem loop {greedy : Bool} {round : Nat}
    (hi : prog[start]? = some (Program.choice greedy round stop)) (h : Passes prog round R start) :
    Passes prog start (UpTo R none) stop where
  sound {n p} hacc := by
    -- Each round begins with a step of its own, so fewer steps are left after it.
    induction n using Nat.strongRecOn generalizing p with
    | ind n ih =>
      obtain ⟨m, j, x, rfl, hway, hnext⟩ := hacc.exists_way hi (by cases greedy <;> simp [Program.choice])
      obtain ⟨rfl | rfl, rfl⟩ := (Program.mem_ways_choice greedy).mp hway
      · obtain ⟨y, k, hy, hk, hback⟩ := h.sound hnext
        obtain ⟨q, l, hq, hl, hstop⟩ := ih k (by omega) hback
        exact ⟨q, l, upTo_none.mpr (.inr ⟨y, hy, hq⟩), by omega, hstop⟩
      · exact ⟨x, m, upTo_none.mpr (.inl rfl), Nat.le_succ m, hnext⟩
  complete := by
    rintro p q n ⟨count, -, hrounds⟩ hacc
    induction count generalizing p with
    | zero =>
      obtain rfl : p = q := hrounds
      exact ⟨n + 1, .step hi ((Program.mem_ways_choice greedy).mpr ⟨.inr rfl, rfl⟩) hacc⟩
    | succ count ih =>
      obtain ⟨m, hm, hrounds⟩ := hrounds
      obtain ⟨k, hacc⟩ := ih hrounds
      obtain ⟨k, hacc⟩ := h.complete hm hacc
      exact ⟨k + 1, .step hi ((Program.mem_ways_choice greedy).mpr ⟨.inl rfl, rfl⟩) hacc⟩

end Passes

/-- A way to compile that goes over just what a relation gives: wherever the instructions that it adds are part
of a program, they pass from their start to what follows. -/
def Follows (f : Nat → Array Inst → Nat × Array Inst) (R : Place → Place → Prop) : Prop :=
  ∀ (next : Nat) (insts prog : Array Inst), Holds prog insts.size (f next insts).2 →
    Passes prog (f next insts).1 R next

namespace Program

variable {f : Nat → Array Inst → Nat × Array Inst} {R : Place → Place → Prop}

theorem follows_text (s : List Char) : Follows (text s) (Place.Over s) := by
  induction s with
  | nil => exact fun next insts prog _ => .refl
  | cons c r ih =>
    intro next insts prog h
    have hgrows := grows_text r next insts
    have hset : Passes prog (text (c :: r) next insts).1 (Node.set (.single c) false).Spans _ :=
      .set (h.getElem?_push hgrows.1)
    refine (hset.trans (ih next insts prog (h.before (.push _)))).congr fun p q => ?_
    constructor
    · rintro ⟨m, ⟨d, rest, hrest, hd, rfl⟩, hq⟩
      obtain rfl : d = c := by simpa using hd
      exact ⟨rest, hrest, hq⟩
    · rintro ⟨rest, hrest, hq⟩
      exact ⟨_, ⟨c, rest, hrest, by simp, rfl⟩, hq⟩

theorem follows_copies (hf : Adds f) (hR : Follows f R) (count : Nat) :
    Follows (copies f count) (Rounds R count) := by
  induction count with
  | zero => exact fun next insts prog _ => .refl
  | succ count ih =>
    intro next insts prog h
    have hgrows := hf next insts
    have hlast := hR next insts prog (h.before (grows_copies hf count _ _))
    exact ((ih _ _ prog (h.since hgrows.1)).trans hlast).congr fun p q => rounds_succ.symm

/-- Optional rounds before an instruction that passes to `leave` by some optional rounds more. -/
theorem passes_optionals (hf : Adds f) (hR : Follows f R) {greedy : Bool} {leave : Nat} (count : Nat) :
    ∀ (more next : Nat) (insts prog : Array Inst),
      Holds prog insts.size (optionals f greedy leave count next insts).2 →
      Passes prog next (UpTo R (some more)) leave →
      Passes prog (optionals f greedy leave count next insts).1 (UpTo R (some (count + more))) leave := by
  induction count with
  | zero =>
    intro more next insts prog _ hnext
    rw [Nat.zero_add]
    exact hnext
  | succ count ih =>
    intro more next insts prog h hnext
    have hgrows := hf next insts
    have hall := grows_optionals hf greedy leave count (f next insts).2.size
      ((f next insts).2.push (choice greedy (f next insts).1 leave))
    have hround := hR next insts prog (h.before ((Grows.push _).trans hall))
    have hchoice : prog[(f next insts).2.size]? = some (choice greedy (f next insts).1 leave) :=
      (h.before hall).getElem?_push hgrows.1
    have hmore : Passes prog (f next insts).2.size (UpTo R (some (more + 1))) leave :=
      (Passes.choice hchoice (hround.trans hnext) .refl).congr fun p q => by rw [upTo_succ, or_comm]
    have := ih (more + 1) _ _ prog (h.since (Nat.le_trans hgrows.1 (Grows.push _).1)) hmore
    rwa [show count + (more + 1) = count + 1 + more by omega] at this

/-- Where the code of a loop is part of a program, a round passes back to the loop's choice, and the choice
passes on by any number of rounds. -/
theorem passes_loop (hf : Adds f) (hR : Follows f R) {greedy : Bool} {next : Nat}
    {insts prog : Array Inst}
    (h : Holds prog insts.size ((f insts.size (insts.push .accept)).2.setIfInBounds insts.size
      (choice greedy (f insts.size (insts.push .accept)).1 next))) :
    Passes prog (f insts.size (insts.push .accept)).1 R insts.size ∧
      Passes prog insts.size (UpTo R none) next := by
  obtain ⟨hchoice, hround⟩ := h.loop hf
  exact ⟨hR _ _ prog hround, .loop hchoice (hR _ _ prog hround)⟩

/-- The program of an expression goes over what the expression spans. -/
theorem follows_compile (a : Node) : Follows (compile a) a.Spans := by
  induction a with
  | empty => exact fun next insts prog _ => .refl
  | text s => exact follows_text s
  | set s basic => exact fun next insts prog h => .set (h.getElem?_push (Nat.le_refl _))
  | look l => exact fun next insts prog h => .look (h.getElem?_push (Nat.le_refl _))
  | cat a b iha ihb =>
    intro next insts prog h
    have hgrows := grows_compile b next insts
    have hsecond := ihb next insts prog (h.before (grows_compile a _ _))
    exact (iha _ _ prog (h.since hgrows.1)).trans hsecond
  | alt a b iha ihb =>
    intro next insts prog h
    have hgrows := grows_compile a next insts
    have hboth := hgrows.trans (grows_compile b next _)
    have hcode := h.before (.push _)
    have hfirst := iha next insts prog (hcode.before (grows_compile b next _))
    have hsecond := ihb next _ prog (hcode.since hgrows.1)
    exact .fork (h.getElem?_push hboth.1) hfirst hsecond
  | group index a ih =>
    intro next insts prog h
    have hgrows : Grows insts (insts.push (.mark (2 * index + 1) next)) := .push _
    have hinner := grows_compile a insts.size (insts.push (.mark (2 * index + 1) next))
    have hcode := h.before (.push _)
    have hopen := Passes.mark (h.getElem?_push (hgrows.trans hinner).1)
    have hclose := Passes.mark ((hcode.before hinner).getElem?_push (Nat.le_refl _))
    have hbody := ih _ _ prog (hcode.since hgrows.1)
    exact (hopen.trans (hbody.trans hclose)).congr fun p q => by simp [Node.Spans]
  | iterate a min max greedy ih =>
    intro next insts prog h
    have hadds : Adds (compile a) := grows_compile a
    cases max with
    | some max =>
      have hgrows := grows_optionals hadds greedy next (max - min) next insts
      have hrest := passes_optionals hadds ih (max - min) 0 next insts prog
        (h.before (grows_copies hadds min _ _)) (Passes.refl.congr fun p q => upTo_zero.symm)
      exact (follows_copies hadds ih min _ _ prog (h.since hgrows.1)).trans hrest
    | none =>
      have hgrows := (hadds insts.size (insts.push .accept)).fill
        (choice greedy (compile a insts.size (insts.push .accept)).1 next)
      cases min with
      | zero =>
        have hspans : ∀ p q, UpTo a.Spans none p q ↔ (Node.iterate a 0 none greedy).Spans p q := by
          intro p q
          simp [Node.Spans, Rounds]
        simp only [compile] at h ⊢
        split
        · next hconsumes =>
          rw [if_pos hconsumes] at h
          exact (passes_loop hadds ih h).2.congr hspans
        · next hconsumes =>
          rw [if_neg hconsumes] at h
          obtain ⟨hround, hloop⟩ := passes_loop hadds ih (h.before (.push _))
          have hchoice := h.getElem?_push hgrows.1
          refine (Passes.choice hchoice (hround.trans hloop) .refl).congr fun p q => ?_
          rw [← hspans, upTo_none, or_comm]
      | succ min =>
        obtain ⟨hround, hloop⟩ := passes_loop hadds ih (h.before (grows_copies hadds min _ _))
        have hcopies := follows_copies hadds ih min _ _ prog (h.since hgrows.1)
        refine ((hcopies.trans hround).trans hloop).congr fun p q => ?_
        simp only [Node.Spans, rounds_succ, Option.map_none]

end Program

namespace Program

/-- A program finds something just if it can go on to its end from some place at `offset` or later. -/
theorem isSome_find?_iff (program : Program) (text : List Char) (offset : Nat) :
    (program.find? text offset).isSome = true ↔
      ∃ p ∈ (Place.from 0 none text).drop offset, ∃ n, Accepts program.insts n program.start p := by
  rw [find?, search_isSome_iff _ (fun _ => lies_of_mem_tasks) (Memory.empty _ _) (by simp [Ahead])
    (by simpa using program.lt_steps text offset)]
  simp only [tasks, List.mem_map, exists_exists_and_eq_and]

/-- The program of an expression can go on to its end from the places from which the expression spans some
text. -/
theorem accepts_iff_spans (a : Node) (p : Place) :
    (∃ n, Accepts (ofNode a).insts n (ofNode a).start p) ↔ ∃ q, a.Spans p q := by
  have hpasses : Passes (ofNode a).insts (ofNode a).start a.Spans 0 :=
    follows_compile a 0 #[.accept] (ofNode a).insts fun _ _ _ => rfl
  have hend : (ofNode a).insts[0]? = some .accept := by
    rw [show (ofNode a).insts = (compile a 0 #[.accept]).2 from rfl,
      (grows_compile a 0 #[.accept]).2 0 (by simp)]
    rfl
  constructor
  · rintro ⟨n, hacc⟩
    obtain ⟨q, -, hq, -⟩ := hpasses.sound hacc
    exact ⟨q, hq⟩
  · rintro ⟨q, hq⟩
    exact hpasses.complete hq (.here hend)

end Program

/-- There is a match just if the expression spans the text from some place to another. -/
theorem isMatch_iff_spans (regex : RowQuery.Regex) (text : List Char) :
    regex.isMatch text = true ↔ ∃ p q, p.Lies text ∧ regex.node.Spans p q := by
  rw [isMatch, find?, findFrom?, Program.isSome_find?_iff, List.drop_zero, regex.program_eq]
  simp only [Place.mem_from_iff, Program.accepts_iff_spans, exists_and_left]

end RowQuery.Regex
