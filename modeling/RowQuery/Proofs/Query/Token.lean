import RowQuery.Proofs.Parser.Scan
import RowQuery.Proofs.Regex.Extent
import RowQuery.Query.Token

/-!
What each token of a query takes.

* `word?`, `name?`, `quotedName?`, `not?`, `delimited?`: the tokens as functions.
* `inner`: the text between two delimiters. A delimiter after a backslash ends the text only if no
  other does.
* `regexMatch_word`, `regexMatch_name`, …: the expressions of the tokens answer as these functions.
-/
namespace RowQuery.Token

open Regex (Node Trail Place)
open Unicode (CharSet)

/-! ## The tokens as functions -/

/-- As many characters with a property as come first, but at least one. -/
def run? (p : Char → Bool) : Scan (List Char) := fun s =>
  if s.takeWhile p = [] then none else some (s.takeWhile p, s.dropWhile p)

/-- The characters of words. -/
def isWordChar (c : Char) : Bool := c != ':' && c != '"' && c != '/' && !Text.isBlank c

/-- The characters of names that are not in quotes. -/
def isNameChar (c : Char) : Bool := c != ':' && !Text.isBlank c

/-- A word. -/
def word? : Scan (List Char) := run? isWordChar

/-- A column's name after a colon. -/
def name? : Scan (List Char)
  | [] => none
  | c :: r => if c = ':' then run? isNameChar r else none

/-- A column's name in quotes after a colon. -/
def quotedName? : Scan (List Char)
  | c :: d :: r =>
    if c = ':' ∧ d = '"' then
      match run? (· != '"') r with
      | some (key, _ :: r) => some (key, r)
      | _ => none
    else none
  | _ => none

/-- The word that negates. -/
def not? : Scan (List Char)
  | 'N' :: 'O' :: 'T' :: r =>
    if Regex.inWord false r.head? then none else some (['N', 'O', 'T'], r)
  | _ => none

/-- What stands before the delimiter that ends a text. A backslash goes with a delimiter or a backslash
after it if this leads to an end, and else stands for itself. -/
def inner (d : Char) : List Char → Option (List Char)
  | [] => none
  | [c] => if c = d then some [] else none
  | c :: x :: r =>
    if c = d then some []
    else if c = '\\' ∧ (x = d ∨ x = '\\') then
      ((inner d r).map (c :: x :: ·)).or ((inner d (x :: r)).map (c :: ·))
    else (inner d (x :: r)).map (c :: ·)

/-- A text between two delimiters. -/
def delimited? (d : Char) : Scan (List Char)
  | [] => none
  | c :: r =>
    if c = d then (inner d r).map fun body => (body, r.drop (body.length + 1)) else none

/-! ## Expressions at the start of a text -/

/-- The trail that begins at the start of a text. -/
def origin (s : List Char) : Trail := ⟨⟨0, none, s⟩, []⟩

/-- Past the start of a text there is a character before each place. -/
theorem isSome_before_of_mem_from {p : Place} {offset : Nat} {c : Char} {s : List Char}
    (h : p ∈ Place.from offset (some c) s) : p.before.isSome = true := by
  induction s generalizing offset c with
  | nil =>
    simp only [Place.from, List.mem_singleton] at h
    rw [h]
    rfl
  | cons d s ih =>
    rcases List.mem_cons.mp h with rfl | h
    · rfl
    · exact ih h

/-- An expression at the start of a text matches as the first of its outcomes there. -/
theorem find?_atStart {a : Node} (ha : a.steady = true) (s : List Char) :
    (Regex.Program.ofNode (atStart a)).find? s 0 =
      (a.outcomes (origin s)).head?.map (Regex.Program.found 0) := by
  have hsteady : (atStart a).steady = true := by simpa [atStart, Node.steady] using ha
  have hfirst : ∀ p : Place, Regex.Program.first? (atStart a) p =
      if p.before.isNone then Regex.Program.first? a p else none := by
    intro p
    have houtcomes : (atStart a).outcomes ⟨p, []⟩ =
        if p.before.isNone then a.outcomes ⟨p, []⟩ else [] := by
      rw [atStart, Node.outcomes, Node.outcomes]
      by_cases hb : p.before.isNone = true
      · rw [if_pos (show Regex.Look.textStart.holds _ _ = true from hb), if_pos hb,
          List.flatMap_singleton]
      · rw [if_neg (show ¬Regex.Look.textStart.holds _ _ = true from hb), if_neg hb]
        rfl
    rw [Regex.Program.first?, houtcomes]
    split <;> rfl
  have hlater : ∀ (n : Nat) (c : Char) (r : List Char),
      (Place.from n (some c) r).findSome? (Regex.Program.first? (atStart a)) = none := by
    intro n c r
    rw [List.findSome?_eq_none_iff]
    intro p hp
    have hb := isSome_before_of_mem_from hp
    rw [hfirst, if_neg (by simp [Option.isSome_iff_ne_none.mp hb])]
  rw [Regex.Program.find?_eq_findSome? hsteady, List.drop_zero]
  cases s with
  | nil =>
    rw [Place.from, List.findSome?_singleton, hfirst]
    rfl
  | cons c r =>
    rw [Place.from, List.findSome?_cons, hfirst, hlater, Regex.Program.first?, origin]
    simp only [Option.isNone_none, if_true]
    cases (a.outcomes ⟨⟨0, none, c :: r⟩, []⟩).head? <;> rfl

/-- The answer for an expression at the start of a text, whose first outcome is known. -/
theorem regexMatch_atStart {known : Regex.Known} {a : Node} (hn : known.node = atStart a)
    (ha : a.steady = true) (group : Nat) (s : List Char) :
    Parser.regexMatch known.regex group s =
      match (a.outcomes (origin s)).head? with
      | none => .absent
      | some t => .found
          (String.ofList (((Regex.Program.found 0 t).text? s group).getD []))
          (s.drop t.place.offset) := by
  have hfind : known.regex.find? s = (a.outcomes (origin s)).head?.map (Regex.Program.found 0) := by
    rw [← find?_atStart ha, ← hn]
    rfl
  rw [Parser.regexMatch, hfind]
  cases (a.outcomes (origin s)).head? <;> rfl

/-! ## Runs -/

/-- What is taken of a text and what is left of it. -/
theorem run?_eq_some_iff {p : Char → Bool} {s w r : List Char} :
    run? p s = some (w, r) ↔
      s = w ++ r ∧ w ≠ [] ∧ (∀ c ∈ w, p c = true) ∧ ∀ c ∈ r.head?, p c = false := by
  rw [run?]
  constructor
  · intro h
    split at h
    · cases h
    · next hne =>
      cases h
      refine ⟨List.takeWhile_append_dropWhile.symm, hne, fun c hc => ?_, fun c hc => ?_⟩
      · exact List.all_eq_true.mp List.all_takeWhile c hc
      · have := List.head?_dropWhile_not p s
        rw [hc] at this
        simpa using this
  · rintro ⟨rfl, hne, hw, hr⟩
    have htake : r.takeWhile p = [] ∧ r.dropWhile p = r := by
      cases r with
      | nil => exact ⟨rfl, rfl⟩
      | cons c r => simp [hr c (by simp)]
    rw [List.takeWhile_append_of_pos hw, List.dropWhile_append_of_pos hw, htake.1, htake.2,
      List.append_nil, if_neg hne]

/-- The preferred outcome of a run is the longest. -/
theorem head?_outcomes_run (set : CharSet) (basic : Bool) (t : Trail) :
    ((Node.iterate (.set set basic) 1 none true).outcomes t).head? =
      (run? set.mem t.place.rest).map fun b => t.advance b.1.length := by
  rw [Node.outcomes_run, List.head?_map, run?]
  cases h : t.place.rest.takeWhile set.mem with
  | nil => rfl
  | cons c w =>
    rw [List.length_cons, List.range_succ, List.reverse_append]
    rfl

/-- Where nothing goes on before a character of the set, a run leads on from its end or not at all. -/
theorem findSome?_run {β : Type} {f : Trail → Option β} (set : CharSet) (basic : Bool)
    (hf : ∀ (u : Trail) (c : Char) (r : List Char), u.place.rest = c :: r → set.mem c = true →
      f u = none) (t : Trail) :
    ((Node.iterate (.set set basic) 1 none true).outcomes t).findSome? f =
      (run? set.mem t.place.rest).bind fun b => f (t.advance b.1.length) := by
  rw [Node.outcomes_run, run?]
  have hprefix := List.takeWhile_prefix set.mem (l := t.place.rest)
  have hall : (t.place.rest.takeWhile set.mem).all set.mem = true := List.all_takeWhile
  revert hprefix hall
  generalize t.place.rest.takeWhile set.mem = w
  intro hprefix hall
  by_cases hw : w = []
  · rw [if_pos hw, hw]
    rfl
  · obtain ⟨n, hn⟩ := Nat.exists_eq_succ_of_ne_zero (mt List.length_eq_zero_iff.mp hw)
    -- A shorter run stops before a character of the set.
    have hshorter : ((List.range n).reverse.map fun i => t.advance (i + 1)).findSome? f = none := by
      rw [List.findSome?_eq_none_iff]
      intro u hu
      obtain ⟨i, hi, rfl⟩ := List.mem_map.mp hu
      have hi : i + 1 < w.length := by
        rw [List.mem_reverse, List.mem_range] at hi
        omega
      obtain ⟨r, hr⟩ := hprefix
      refine hf _ w[i + 1] (w.drop (i + 2) ++ r) ?_ (List.all_eq_true.mp hall _ (List.getElem_mem hi))
      rw [Trail.rest_advance, ← hr, List.drop_append_of_le_length (Nat.le_of_lt hi),
        List.drop_eq_getElem_cons hi]
      rfl
    rw [if_neg hw, Option.bind_some, hn, List.range_succ, List.reverse_append,
      List.reverse_singleton, List.singleton_append, List.map_cons, List.findSome?_cons, hshorter]
    cases f (t.advance (n + 1)) <;> rfl

theorem mem_orSpace (c : Char) :
    (CharSet.compl (orSpace [':', '"', '/'])).mem c = isWordChar c := by
  simp [orSpace, isWordChar, CharSet.mem_space, bne, BEq.beq, Bool.and_assoc]

theorem mem_spaceOr (c : Char) :
    (CharSet.compl (spaceOr [':'])).mem c = isNameChar c := by
  simp [spaceOr, isNameChar, CharSet.mem_space, bne, BEq.beq, Bool.and_comm]

/-! ## Answers -/

section Answers

variable {s : List Char} {d : Char}

@[simp] theorem rest_origin (s : List Char) : (origin s).place.rest = s := rfl

theorem offset_origin_advance {n : Nat} (h : n ≤ s.length) :
    ((origin s).advance n).place.offset = n := by
  rw [Trail.offset_advance h]
  exact Nat.zero_add n

theorem takeText_singleton (d : Char) (t : Trail) :
    t.takeText [d] = if t.place.rest.head? = some d then [t.advance 1] else [] := by
  rw [Trail.takeText_eq]
  cases h : t.place.rest with
  | nil => simp
  | cons c r => simp [eq_comm]

/-- A word is read as far as it goes. -/
theorem regexMatch_word (s : List Char) :
    Parser.regexMatch word.regex 0 s = .ofOption (word?.map String.ofList s) := by
  have hsteady : (runOutside (orSpace [':', '"', '/'])).steady = true := by decide +kernel
  rw [regexMatch_atStart rfl hsteady, runOutside, head?_outcomes_run, funext mem_orSpace,
    rest_origin, Scan.map, word?]
  cases hrun : run? isWordChar s with
  | none => rfl
  | some b =>
    obtain ⟨w, r⟩ := b
    obtain ⟨rfl, -⟩ := run?_eq_some_iff.mp hrun
    have hoffset := offset_origin_advance (s := w ++ r) (n := w.length) (by simp)
    simp [Regex.Found.text?, Regex.Found.group?, Regex.Program.found, Regex.slice, hoffset,
      Match.ofOption]

/-- The trail after some characters and then a text that is group 1. -/
def afterGroup (front w r : List Char) : Trail :=
  ((((origin (front ++ (w ++ r))).advance front.length).mark 2).advance w.length).mark 3

@[simp] theorem rest_afterGroup (front w r : List Char) :
    (afterGroup front w r).place.rest = r := by
  simp [afterGroup, Trail.mark]

theorem offset_afterGroup (front w r : List Char) :
    (afterGroup front w r).place.offset = front.length + w.length := by
  show ((((origin (front ++ (w ++ r))).advance front.length).mark 2).advance w.length).place.offset = _
  rw [Trail.offset_advance (by simp [Trail.mark])]
  show ((origin (front ++ (w ++ r))).advance front.length).place.offset + w.length = _
  rw [offset_origin_advance (by simp)]

theorem marks_afterGroup (front w r : List Char) :
    (afterGroup front w r).marks = [(3, front.length + w.length), (2, front.length)] := by
  have hoffset := offset_afterGroup front w r
  have hstart : ((origin (front ++ (w ++ r))).advance front.length).place.offset = front.length :=
    offset_origin_advance (by simp)
  simp only [afterGroup, Trail.mark, Trail.marks_advance] at hoffset ⊢
  rw [hoffset, hstart]
  rfl

/-- The answer that such a trail gives, some characters further on. -/
theorem answer_afterGroup (front w r : List Char) {n : Nat} (hn : n ≤ r.length) :
    (match some ((afterGroup front w r).advance n) with
      | none => Match.absent
      | some t => .found
          (String.ofList (((Regex.Program.found 0 t).text? (front ++ (w ++ r)) 1).getD []))
          ((front ++ (w ++ r)).drop t.place.offset)) =
      .found (String.ofList w) (r.drop n) := by
  have hoffset : ((afterGroup front w r).advance n).place.offset =
      front.length + (w.length + n) := by
    rw [Trail.offset_advance (by simpa using hn), offset_afterGroup, Nat.add_assoc]
  simp [Regex.Found.text?, Regex.Found.group?, Regex.Found.slot?, Regex.Program.found,
    marks_afterGroup, Regex.slice, hoffset]

theorem regexMatch_name (s : List Char) :
    Parser.regexMatch name.regex 1 s = .ofOption (name?.map String.ofList s) := by
  have hsteady : (Node.cat (.char ':') (.group 1 (runOutside (spaceOr [':'])))).steady = true := by
    decide +kernel
  rw [regexMatch_atStart rfl hsteady, Node.outcomes, Node.char, Node.outcomes, takeText_singleton,
    rest_origin, Scan.map]
  cases s with
  | nil => rfl
  | cons c s =>
    by_cases hc : c = ':'
    · subst hc
      rw [List.head?_cons, if_pos rfl, List.flatMap_singleton, Node.outcomes, List.head?_map,
        runOutside, head?_outcomes_run, funext mem_spaceOr, name?, if_pos rfl,
        show (((origin (':' :: s)).advance 1).mark (2 * 1)).place.rest = s from rfl]
      cases hrun : run? isNameChar s with
      | none => rfl
      | some b =>
        obtain ⟨w, r⟩ := b
        obtain ⟨rfl, -⟩ := run?_eq_some_iff.mp hrun
        exact answer_afterGroup [':'] w r (n := 0) (Nat.zero_le _)
    · simp [hc, name?, Match.ofOption]

/-- The outcomes of the end of a text between delimiters. -/
theorem head?_takeText_mark (d : Char) (u : Trail) :
    ((u.mark 3).takeText [d]).head? =
      if u.place.rest.head? = some d then some ((u.mark 3).advance 1) else none := by
  rw [takeText_singleton, show (u.mark 3).place.rest = u.place.rest from rfl]
  split <;> rfl

theorem quotedName?_eq_none (h : ¬[':', '"'] <+: s) : quotedName? s = none := by
  unfold quotedName?
  split
  · next c d r =>
    refine if_neg fun he => h ?_
    obtain ⟨rfl, rfl⟩ := he
    exact ⟨r, rfl⟩
  · rfl

theorem not?_eq_none (h : ¬['N', 'O', 'T'] <+: s) : not? s = none := by
  unfold not?
  split
  · next r => exact absurd ⟨r, rfl⟩ h
  · rfl

theorem regexMatch_quotedName (s : List Char) :
    Parser.regexMatch quotedName.regex 1 s = .ofOption (quotedName?.map String.ofList s) := by
  have hsteady : (Node.cat (.text [':', '"'])
      (.cat (.group 1 (runOutside (.single '"'))) (.char '"'))).steady = true := by
    decide +kernel
  have hmem : (CharSet.compl (.single '"')).mem = (· != '"') := by
    funext c
    simp [bne, BEq.beq]
  rw [regexMatch_atStart rfl hsteady, Node.outcomes, Node.outcomes, Trail.takeText_eq, rest_origin,
    Scan.map]
  by_cases hfront : [':', '"'] <+: s
  · obtain ⟨s, rfl⟩ := hfront
    rw [if_pos (List.prefix_append _ _), List.flatMap_singleton, Node.outcomes, Node.outcomes,
      List.head?_flatMap, List.findSome?_map, Node.char, runOutside, findSome?_run _ _ ?_, hmem]
    · have hrest : (((origin ([':', '"'] ++ s)).advance 2).mark (2 * 1)).place.rest = s := rfl
      rw [show [':', '"'].length = 2 from rfl, hrest]
      simp only [List.cons_append, List.nil_append, quotedName?, and_self, if_true]
      cases hrun : run? (· != '"') s with
      | none => rfl
      | some b =>
        obtain ⟨w, r⟩ := b
        obtain ⟨rfl, -, -, hhead⟩ := run?_eq_some_iff.mp hrun
        have hend := head?_takeText_mark '"'
          (((origin ([':', '"'] ++ (w ++ r))).advance 2 |>.mark 2).advance w.length)
        rw [Trail.rest_advance, hrest, List.drop_left] at hend
        rw [Option.bind_some, show ((fun a => ((Node.text ['"']).outcomes a).head?) ∘
          Trail.mark (2 * 1 + 1)) ((Trail.mark (2 * 1) ((origin (':' :: '"' :: (w ++ r))).advance
            2)).advance w.length) = _ from hend]
        cases r with
        | nil => rfl
        | cons c r =>
          obtain rfl : c = '"' := by simpa using hhead c rfl
          rw [List.head?_cons, if_pos rfl]
          exact answer_afterGroup [':', '"'] w ('"' :: r) (n := 1) (by simp)
    · intro u c r hu hc
      have hne : c ≠ '"' := by simpa using hc
      show ((u.mark 3).takeText ['"']).head? = none
      rw [head?_takeText_mark, hu]
      simp [hne]
  · rw [if_neg hfront, quotedName?_eq_none hfront]
    rfl

theorem regexMatch_not (s : List Char) :
    Parser.regexMatch not.regex 0 s = .ofOption (not?.map String.ofList s) := by
  rw [regexMatch_atStart (a := .cat (.text ['N', 'O', 'T']) (.look (.word false .either))) rfl rfl,
    Node.outcomes, Node.outcomes, Trail.takeText_eq, rest_origin, Scan.map]
  by_cases hfront : ['N', 'O', 'T'] <+: s
  · obtain ⟨r, rfl⟩ := hfront
    have hplace : ((origin (['N', 'O', 'T'] ++ r)).advance 3) = ⟨⟨3, some 'T', r⟩, []⟩ := rfl
    have hbefore : Regex.inWord false (some 'T') = true := by decide +kernel
    rw [if_pos (List.prefix_append _ _), List.flatMap_singleton, Node.outcomes,
      show ['N', 'O', 'T'].length = 3 from rfl, hplace]
    simp only [Regex.Look.holds, Regex.Boundary.holds, hbefore, List.cons_append, List.nil_append,
      not?]
    cases Regex.inWord false r.head? <;> rfl
  · rw [if_neg hfront, not?_eq_none hfront]
    rfl

/-! ## Texts between delimiters -/

/-- One round of the text between two delimiters. -/
def unit (d : Char) : Node :=
  .alt (.cat (.char '\\') (.set (.unionAll [.single d, .single '\\']) false))
    (.set (.compl (.single d)) false)

section Unit

variable {d c x : Char} {r : List Char} {t : Trail}

theorem outcomes_unit (d : Char) (t : Trail) :
    (unit d).outcomes t =
      (t.takeText ['\\']).flatMap (Trail.take (.unionAll [.single d, .single '\\'])) ++
        t.take (.compl (.single d)) := rfl

theorem outcomes_unit_nil (ht : t.place.rest = []) : (unit d).outcomes t = [] := by
  rw [outcomes_unit, takeText_singleton, Trail.take_nil ht, ht]
  rfl

theorem outcomes_unit_end (hd : d ≠ '\\') (ht : t.place.rest = d :: r) :
    (unit d).outcomes t = [] := by
  rw [outcomes_unit, takeText_singleton, Trail.take_of_not_mem ht (by simp), ht,
    if_neg (by simpa using hd)]
  rfl

/-- A pair is taken as a whole first, and then its backslash alone. -/
theorem outcomes_unit_pair (hd : d ≠ '\\') (hx : x = d ∨ x = '\\')
    (ht : t.place.rest = '\\' :: x :: r) :
    (unit d).outcomes t = [(t.after '\\' (x :: r)).after x r, t.after '\\' (x :: r)] := by
  rw [outcomes_unit, takeText_singleton, Trail.take_of_mem ht (by simpa using hd.symm), ht,
    List.head?_cons, if_pos rfl, List.flatMap_singleton, Trail.advance_succ ht, Trail.advance,
    Trail.take_of_mem (Trail.rest_after t _ _) (by simpa using hx)]
  rfl

theorem outcomes_unit_of_ne (hc : c ≠ d) (hp : ¬(c = '\\' ∧ ∃ y ∈ r.head?, y = d ∨ y = '\\'))
    (ht : t.place.rest = c :: r) : (unit d).outcomes t = [t.after c r] := by
  rw [outcomes_unit, takeText_singleton, Trail.take_of_mem ht (by simpa using hc), ht,
    List.head?_cons]
  by_cases hb : c = '\\'
  · rw [if_pos (by rw [hb]), List.flatMap_singleton, Trail.advance_succ ht, Trail.advance]
    cases r with
    | nil =>
      rw [Trail.take_nil (Trail.rest_after t _ _)]
      rfl
    | cons y r =>
      have hy : ¬(y = d ∨ y = '\\') := fun hy => hp ⟨hb, y, by simp, hy⟩
      rw [Trail.take_of_not_mem (Trail.rest_after t _ _) (by simpa using hy)]
      rfl
  · rw [if_neg (by simpa using hb)]
    rfl

end Unit

@[simp] theorem inner_cons_self (d : Char) (s : List Char) : inner d (d :: s) = some [] := by
  cases s <;> simp [inner]

/-- After the inner text comes a delimiter. -/
theorem eq_of_inner {body : List Char} (h : inner d s = some body) :
    ∃ r, s = body ++ d :: r := by
  fun_induction inner d s generalizing body with
  | case1 => cases h
  | case2 =>
    cases h
    exact ⟨[], rfl⟩
  | case3 c hc => cases h
  | case4 x r =>
    cases h
    exact ⟨x :: r, rfl⟩
  | case5 c x r hc hp ihpair ih =>
    rcases Option.or_eq_some_iff.mp h with h | ⟨-, h⟩
    · obtain ⟨body, hbody, rfl⟩ := Option.map_eq_some_iff.mp h
      obtain ⟨r', rfl⟩ := ihpair hbody
      exact ⟨r', rfl⟩
    · obtain ⟨body, hbody, rfl⟩ := Option.map_eq_some_iff.mp h
      obtain ⟨r', hr⟩ := ih hbody
      exact ⟨r', by rw [hr]; rfl⟩
  | case6 c x r hc hp ih =>
    obtain ⟨body, hbody, rfl⟩ := Option.map_eq_some_iff.mp h
    obtain ⟨r', hr⟩ := ih hbody
    exact ⟨r', by rw [hr]; rfl⟩

/-- A character that makes no pair stands for itself. -/
theorem inner_cons_of_unpaired {c : Char} {r : List Char} (hc : c ≠ d)
    (hp : ¬(c = '\\' ∧ ∃ y ∈ r.head?, y = d ∨ y = '\\')) : inner d (c :: r) = (inner d r).map (c :: ·) := by
  cases r with
  | nil => simp [inner, hc]
  | cons y r => rw [inner, if_neg hc, if_neg fun hy => hp ⟨hy.1, y, rfl, hy.2⟩]

/-- What the rest of a text gives after a character that makes no pair. -/
theorem bind_inner_of_ne {β : Type} {c : Char} {r : List Char} {t : Trail} (hc : c ≠ d)
    (hp : ¬(c = '\\' ∧ ∃ y ∈ r.head?, y = d ∨ y = '\\')) (ht : t.place.rest = c :: r)
    (f : Trail → Option β) :
    ((inner d (c :: r)).bind fun body => f (t.advance body.length)) =
      (inner d r).bind fun body => f ((t.after c r).advance body.length) := by
  rw [inner_cons_of_unpaired hc hp, Option.bind_map]
  congr 1
  funext body
  exact congrArg f (Trail.advance_succ ht _)

/-- What the rest of a text gives after a pair: what it gives behind the pair if the pair is taken as a
whole, and what it gives behind the backslash otherwise. -/
theorem bind_inner_pair {β : Type} {x : Char} {r : List Char} {t : Trail} (hd : d ≠ '\\')
    (hx : x = d ∨ x = '\\') (ht : t.place.rest = '\\' :: x :: r) {f : Trail → Option β}
    (hf : ∀ u : Trail, u.place.rest.head? = some d → (f u).isSome = true) :
    ((inner d ('\\' :: x :: r)).bind fun body => f (t.advance body.length)) =
      ((inner d r).bind fun body =>
        f (((t.after '\\' (x :: r)).after x r).advance body.length)).or
          ((inner d (x :: r)).bind fun body =>
            f ((t.after '\\' (x :: r)).advance body.length)) := by
  have hpair : ∀ body : List Char, t.advance ('\\' :: x :: body).length =
      ((t.after '\\' (x :: r)).after x r).advance body.length := by
    intro body
    rw [List.length_cons, List.length_cons, Trail.advance_succ ht,
      Trail.advance_succ (Trail.rest_after t _ _)]
  have hsingle : ∀ body : List Char, t.advance ('\\' :: body).length =
      (t.after '\\' (x :: r)).advance body.length := fun body =>
    Trail.advance_succ ht body.length
  rw [inner, if_neg hd.symm, if_pos ⟨rfl, hx⟩]
  cases hin : inner d r with
  | none =>
    rw [Option.bind_none, Option.none_or, Option.map_none, Option.none_or, Option.bind_map]
    congr 1
    funext body
    exact congrArg f (hsingle body)
  | some body =>
    -- There is an end behind the pair, so it goes on there.
    obtain ⟨r', hr⟩ := eq_of_inner hin
    have hsome : (f (((t.after '\\' (x :: r)).after x r).advance body.length)).isSome :=
      hf _ (by simp [hr])
    rw [Option.bind_some, Option.or_of_isSome hsome, Option.map_some, Option.some_or,
      Option.bind_some, hpair]

/-- Where it goes on just before a delimiter, rounds lead on from the end of the inner text. -/
theorem findSome?_upTo_unit {β : Type} (hd : d ≠ '\\') {f : Trail → Option β}
    (hf : ∀ u : Trail, (f u).isSome = true ↔ u.place.rest.head? = some d) {n : Nat} {t : Trail}
    (hn : t.left ≤ n) :
    (Trail.upTo (unit d).outcomes true n t).findSome? f =
      (inner d t.place.rest).bind fun body => f (t.advance body.length) := by
  have hnone : ∀ u : Trail, u.place.rest.head? ≠ some d → f u = none := fun u hu =>
    Option.not_isSome_iff_eq_none.mp (mt (hf u).mp hu)
  induction n generalizing t with
  | zero =>
    have ht : t.place.rest = [] := List.length_eq_zero_iff.mp (Nat.le_zero.mp hn)
    simp [Trail.upTo, ht, inner, hnone t]
  | succ n ih =>
    have hcons : ∀ {c r}, t.place.rest = c :: r → (t.after c r).left ≤ n := by
      intro c r ht
      simpa [Trail.left, ht] using hn
    rw [Trail.upTo, if_pos rfl, List.findSome?_append, List.findSome?_singleton]
    cases ht : t.place.rest with
    | nil => simp [outcomes_unit_nil ht, ht, inner, hnone t]
    | cons c r =>
      by_cases hc : c = d
      · subst hc
        rw [outcomes_unit_end hd ht, inner_cons_self]
        rfl
      · have hstop : f t = none := hnone t (by simpa [ht] using hc)
        rw [hstop, Option.or_none]
        by_cases hp : c = '\\' ∧ ∃ y ∈ r.head?, y = d ∨ y = '\\'
        · obtain ⟨rfl, x, hx, hxd⟩ := hp
          obtain ⟨r, rfl⟩ : ∃ r', r = x :: r' := List.head?_eq_some_iff.mp hx
          have hleft : ((t.after '\\' (x :: r)).after x r).left ≤ n := by
            have := hcons ht
            simp [Trail.left] at this ⊢
            omega
          rw [outcomes_unit_pair hd hxd ht, List.flatMap_cons, List.flatMap_singleton,
            List.findSome?_append, ih hleft, ih (hcons ht), Trail.rest_after, Trail.rest_after,
            bind_inner_pair hd hxd ht fun u => (hf u).mpr]
        · rw [outcomes_unit_of_ne hc hp ht, List.flatMap_singleton, ih (hcons ht), Trail.rest_after,
            bind_inner_of_ne hc hp ht]

/-- The inner text is group 1, and its delimiter follows. -/
theorem head?_outcomes_inner (hd : d ≠ '\\') (t : Trail) :
    ((Node.cat (.group 1 (.iterate (unit d) 0 none true)) (.text [d])).outcomes t).head? =
      (inner d t.place.rest).bind fun body =>
        ((((t.mark 2).advance body.length).mark 3).takeText [d]).head? := by
  have hf : ∀ v : Trail, ((((v.mark 3).takeText [d]).head?).isSome = true) ↔
      v.place.rest.head? = some d := by
    intro v
    rw [head?_takeText_mark]
    split <;> simp_all
  have hfind := findSome?_upTo_unit hd hf (Nat.le_refl (t.mark 2).left)
  show (((([t.mark 2].flatMap fun v => Trail.upTo (unit d).outcomes true v.left v).map
    (Trail.mark 3)).flatMap (Trail.takeText [d])).head?) = _
  rw [List.flatMap_singleton, List.head?_flatMap, List.findSome?_map]
  exact hfind

/-- A text between delimiters ends where its inner text does. -/
theorem regexMatch_delimited (hd : d ≠ '\\') {known : Regex.Known}
    (hn : known.node = atStart (delimited d))
    (hsteady : (delimited d).steady = true) (s : List Char) :
    Parser.regexMatch known.regex 1 s = .ofOption ((delimited? d).map String.ofList s) := by
  have hdelimited : ∀ t : Trail, (delimited d).outcomes t = (t.takeText [d]).flatMap
      (Node.cat (.group 1 (.iterate (unit d) 0 none true)) (.text [d])).outcomes := fun t => rfl
  rw [regexMatch_atStart hn hsteady, hdelimited, takeText_singleton, rest_origin, Scan.map]
  cases s with
  | nil => rfl
  | cons c s =>
    by_cases hc : c = d
    · subst hc
      have hrest : ((origin (c :: s)).advance 1).place.rest = s := rfl
      rw [List.head?_cons, if_pos rfl, List.flatMap_singleton, delimited?, if_pos rfl,
        head?_outcomes_inner hd, hrest]
      cases hin : inner c s with
      | none => rfl
      | some body =>
        obtain ⟨r, rfl⟩ := eq_of_inner hin
        rw [Option.bind_some, head?_takeText_mark, Trail.rest_advance,
          show (((origin (c :: (body ++ c :: r))).advance 1).mark 2).place.rest = body ++ c :: r from rfl,
          List.drop_left, List.head?_cons, if_pos rfl]
        have := answer_afterGroup [c] body (c :: r) (n := 1) (by simp)
        refine this.trans ?_
        simp [Match.ofOption]
    · simp [hc, delimited?, Match.ofOption]

theorem regexMatch_quote (s : List Char) :
    Parser.regexMatch quote.regex 1 s = .ofOption ((delimited? '"').map String.ofList s) :=
  regexMatch_delimited (by decide) rfl (by decide +kernel) s

theorem regexMatch_regex (s : List Char) :
    Parser.regexMatch regex.regex 1 s = .ofOption ((delimited? '/').map String.ofList s) :=
  regexMatch_delimited (by decide) rfl (by decide +kernel) s

end Answers

end RowQuery.Token
