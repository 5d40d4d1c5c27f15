import RowQuery.Proofs.Query.Cutting
import RowQuery.Query.Compile

/-!
The names that are looked for in a query that does not follow the grammar.

* `Token.qualifier?`: a colon and the name after it.
* `Token.firstSeen`: the first name whose colon stands at the start of a text or after white space.
* `Token.Sees`: the names of a text that are found one after another.
* `Token.answers_findSome?`: a search from a place in a text finds the first name from there on.
* `Query.qualifiers_of_sees`: the names that are looked for are those of `Token.Sees`.

The expression may begin at a `NOT` before the colon. This makes no difference to the name: before `NOT`
and white space there is nothing else that it could find.
-/
namespace RowQuery.Token

open Regex (Node Trail Place Found)
open Unicode (CharSet)

variable {s w r key rest text : List Char}

/-! ## Names -/

/-- The characters of names that are not in quotes, in the search for names. -/
def isPlainChar (c : Char) : Bool := c != ':' && c != '"' && !Text.isBlank c

/-- Names that are not in quotes have no quotation marks here. The grammar allows them. -/
theorem isPlainChar_eq (c : Char) : isPlainChar c = (isNameChar c && c != '"') :=
  Bool.and_right_comm _ _ _

/-- A colon and a name that is not in quotes. -/
def plainName? : Scan (List Char)
  | [] => none
  | c :: r => if c = ':' then run? isPlainChar r else none

/-- A colon and the name after it. -/
def qualifier? : Scan (List Char) := quotedName?.orElse plainName?

/-- The first name whose colon stands at the start or after white space, and what follows it. At the start
of a part of a text it is told whether a colon there counts. -/
def firstSeen : Bool → Scan (List Char)
  | _, [] => none
  | fresh, c :: r => (if fresh then qualifier? (c :: r) else none).or (firstSeen (Text.isBlank c) r)

/-- The names in a text, each looked for behind the one before. -/
inductive Sees : Bool → List Char → List (List Char) → Prop
  | nil {fresh : Bool} {s : List Char} (h : firstSeen fresh s = none) : Sees fresh s []
  | cons {fresh : Bool} {s key rest : List Char} {keys : List (List Char)}
      (h : firstSeen fresh s = some (key, rest)) (hr : Sees false rest keys) :
      Sees fresh s (key :: keys)

theorem qualifier?_eq_none {c : Char} (h : c ≠ ':') (r : List Char) : qualifier? (c :: r) = none := by
  have hquoted : quotedName? (c :: r) = none := by
    refine quotedName?_eq_none ?_
    rintro ⟨t, ht⟩
    exact h (List.cons.inj ht).1.symm
  rw [qualifier?, Scan.orElse, hquoted, plainName?, if_neg h]
  rfl

theorem firstSeen_cons_of_ne {c : Char} (h : c ≠ ':') (fresh : Bool) (r : List Char) :
    firstSeen fresh (c :: r) = firstSeen (Text.isBlank c) r := by
  rw [firstSeen, qualifier?_eq_none h, ite_self]
  rfl

theorem shrinks_qualifier? : qualifier?.Shrinks := by
  refine .orElse Grammar.shrinks_quotedName? fun s a r h => ?_
  unfold plainName? at h
  split at h
  · cases h
  · split at h
    · exact Nat.lt_succ_of_lt (Grammar.shrinks_run? _ _ a r h)
    · cases h

theorem shrinks_firstSeen (fresh : Bool) : (firstSeen fresh).Shrinks := by
  intro s a r h
  induction s generalizing fresh with
  | nil => cases h
  | cons c s ih =>
    rcases Option.or_eq_some_iff.mp h with h | ⟨-, h⟩
    · cases fresh with
      | true => exact shrinks_qualifier? _ a r h
      | false => cases h
    · exact Nat.lt_succ_of_lt (ih _ h)

/-- After white space a colon counts. -/
theorem firstSeen_append_of_blank (hne : w ≠ []) (hw : Text.Blank w) (fresh : Bool) (s : List Char) :
    firstSeen fresh (w ++ s) = firstSeen true s := by
  induction w generalizing fresh with
  | nil => exact absurd rfl hne
  | cons c w ih =>
    have hc : Text.isBlank c = true := hw c List.mem_cons_self
    have hcolon : c ≠ ':' := by
      rintro rfl
      exact absurd hc (by decide)
    rw [List.cons_append, firstSeen_cons_of_ne hcolon, hc]
    cases w with
    | nil => rfl
    | cons d w => exact ih (List.cons_ne_nil _ _) (fun x hx => hw x (List.mem_cons_of_mem _ hx)) true

/-! ## Names after `NOT` -/

/-- What the expression finds behind its start: a name, maybe with `NOT` and white space before it. -/
def aimed? : Scan (List Char)
  | 'N' :: 'O' :: 'T' :: r => (run? Text.isBlank r).bind fun b => qualifier? b.2
  | s => qualifier? s

theorem aimed?_of_not_prefix (h : ¬['N', 'O', 'T'] <+: s) : aimed? s = qualifier? s := by
  unfold aimed?
  split
  · next r => exact absurd ⟨r, rfl⟩ h
  · rfl

/-- To look for a name behind `NOT` first makes no difference. -/
theorem aimed?_or_firstSeen (s : List Char) :
    (aimed? s).or (firstSeen false s) = firstSeen true s := by
  unfold aimed?
  split
  · next r =>
    have hnot (fresh : Bool) : firstSeen fresh ('N' :: 'O' :: 'T' :: r) = firstSeen false r := by
      rw [firstSeen_cons_of_ne (by decide), firstSeen_cons_of_ne (by decide),
        firstSeen_cons_of_ne (by decide)]
      rfl
    rw [hnot, hnot]
    cases hrun : run? Text.isBlank r with
    | none => rfl
    | some b =>
      obtain ⟨w, x⟩ := b
      obtain ⟨rfl, hne, hw, -⟩ := run?_eq_some_iff.mp hrun
      rw [firstSeen_append_of_blank hne hw, Option.bind_some]
      cases x with
      | nil => rfl
      | cons c x => rw [firstSeen, if_pos rfl, ← Option.or_assoc, Option.or_self]
  · cases s with
    | nil => rfl
    | cons c s => rfl

/-- The first name is found at the first place that leads to one: the start of the text, or white space. -/
theorem firstSeen_cons (start : Bool) (c : Char) (s : List Char) :
    firstSeen start (c :: s) = ((if start then aimed? (c :: s) else none).or
      (if Text.isBlank c then aimed? s else none)).or (firstSeen false s) := by
  have hnext : (if Text.isBlank c then aimed? s else none).or (firstSeen false s) =
      firstSeen (Text.isBlank c) s := by
    cases Text.isBlank c with
    | true => exact aimed?_or_firstSeen s
    | false => rfl
  rw [Option.or_assoc, hnext]
  cases start with
  | true => exact (aimed?_or_firstSeen (c :: s)).symm
  | false => rfl

/-! ## The expression -/

/-- A trail that has read a name and stands before the rest of the text. -/
structure Reads (text : List Char) (t : Trail) (key rest : List Char) : Prop where
  lies : t.place.Lies text
  rest_eq : t.place.rest = rest
  name : ∀ origin, ((Regex.Program.found origin t).text? text 1 <|>
    (Regex.Program.found origin t).text? text 2) = some key

/-- A trail has read the name of an answer; there is none if there is no answer. -/
abbrev Agrees (text : List Char) : Option Trail → Option (List Char × List Char) → Prop :=
  Option.Rel fun t answer => Reads text t answer.1 answer.2

theorem rel_or {α β : Type} {R : α → β → Prop} {a a' : Option α} {b b' : Option β}
    (h : Option.Rel R a b) (h' : Option.Rel R a' b') : Option.Rel R (a.or a') (b.or b') := by
  cases h with
  | none => exact h'
  | some h => exact .some h

theorem lies_advance {t : Trail} (h : t.place.Lies text) (n : Nat) : (t.advance n).place.Lies text := by
  induction n generalizing t with
  | zero => exact h
  | succ n ih =>
    cases hr : t.place.rest with
    | nil => rwa [Trail.advance, hr]
    | cons c r =>
      rw [Trail.advance_succ hr]
      exact ih (h.after hr)

/-- The text between the marks of a group is what was read between them. -/
theorem slice_advance {t : Trail} (h : t.place.Lies text) (hr : t.place.rest = key ++ r) :
    Regex.slice text t.place.offset (t.advance key.length).place.offset = key := by
  obtain ⟨front, rfl, hoffset, -⟩ := h
  rw [Trail.offset_advance (by rw [hr]; simp), hoffset, Regex.slice, hr]
  simp

/-- A colon with a name in quotes or without. -/
def aim : Node :=
  .cat (.char ':')
    (.alt (.cats [.char '"', .group 1 (runOutside (.single '"')), .char '"'])
      (.group 2 (runOutside (spaceOr [':', '"']))))

theorem mem_plain (c : Char) : (CharSet.compl (spaceOr [':', '"'])).mem c = isPlainChar c := by
  simp [spaceOr, isPlainChar, CharSet.mem_space, bne, BEq.beq, Bool.and_assoc, Bool.and_comm]

/-- A trail that has read a group and some characters behind it. -/
theorem reads_group {t : Trail} (hm : t.marks = []) (h : t.place.Lies text)
    (hr : t.place.rest = key ++ r) {index : Nat} (hi : index = 1 ∨ index = 2) (n : Nat) :
    Reads text ((((t.mark (2 * index)).advance key.length).mark (2 * index + 1)).advance n) key
      (r.drop n) where
  lies := by
    have hread : ((t.mark (2 * index)).advance key.length).place.Lies text :=
      lies_advance (t := t.mark (2 * index)) h key.length
    exact lies_advance (t := .mark (2 * index + 1) _) hread n
  rest_eq := by
    have hmark (u : Trail) (slot : Nat) : (u.mark slot).place.rest = u.place.rest := rfl
    rw [Trail.rest_advance, hmark, Trail.rest_advance, hmark, hr, List.drop_left]
  name := by
    intro origin
    have hslice := slice_advance (t := t.mark (2 * index)) h hr
    rcases hi with rfl | rfl
    · simpa [Regex.Found.text?, Regex.Found.group?, Regex.Found.slot?, Regex.Program.found, Trail.mark,
        hm] using hslice
    · simpa [Regex.Found.text?, Regex.Found.group?, Regex.Found.slot?, Regex.Program.found, Trail.mark,
        hm] using hslice

theorem agrees_plain {t : Trail} (hm : t.marks = []) (h : t.place.Lies text) :
    Agrees text (((Node.group 2 (runOutside (spaceOr [':', '"']))).outcomes t).head?)
      (run? isPlainChar t.place.rest) := by
  have hset : (CharSet.compl (spaceOr [':', '"'])).mem = isPlainChar := funext mem_plain
  have hplace : (t.mark (2 * 2)).place = t.place := rfl
  rw [Node.outcomes, List.head?_map, runOutside, head?_outcomes_run, hset, hplace]
  cases hrun : run? isPlainChar t.place.rest with
  | none => exact .none
  | some b =>
    obtain ⟨key, r⟩ := b
    obtain ⟨hr, -⟩ := run?_eq_some_iff.mp hrun
    exact .some (reads_group hm h hr (.inr rfl) 0)

theorem agrees_quoted {t : Trail} (hm : t.marks = []) (h : t.place.Lies text) :
    Agrees text
      (((Node.cats [.char '"', .group 1 (runOutside (.single '"')), .char '"']).outcomes t).head?)
      (quotedName? (':' :: t.place.rest)) := by
  have hset : (CharSet.compl (.single '"')).mem = (· != '"') := by
    funext c
    simp [bne, BEq.beq]
  have houtcomes : (Node.cats [.char '"', .group 1 (runOutside (.single '"')), .char '"']).outcomes t =
      (t.takeText ['"']).flatMap fun v => (((Node.iterate (.set (.compl (.single '"')) false) 1 none
        true).outcomes (v.mark (2 * 1))).map (.mark (2 * 1 + 1))).flatMap (Trail.takeText ['"']) := rfl
  rw [houtcomes, takeText_singleton]
  cases hs : t.place.rest with
  | nil => exact .none
  | cons c x =>
    by_cases hc : c = '"'
    · subst hc
      have hrest : ((t.advance 1).mark (2 * 1)).place.rest = x := by
        show (t.advance 1).place.rest = x
        rw [Trail.rest_advance, hs]
        rfl
      rw [List.head?_cons, if_pos rfl, List.flatMap_singleton, List.head?_flatMap, List.findSome?_map,
        findSome?_run _ _ ?_, hset, hrest]
      · simp only [quotedName?, and_self, if_true]
        cases hrun : run? (· != '"') x with
        | none => exact .none
        | some b =>
          obtain ⟨key, r⟩ := b
          obtain ⟨rfl, -, -, hhead⟩ := run?_eq_some_iff.mp hrun
          have hend := head?_takeText_mark '"' (((t.advance 1).mark (2 * 1)).advance key.length)
          rw [Trail.rest_advance, hrest, List.drop_left] at hend
          rw [Option.bind_some]
          show Agrees text (((((t.advance 1).mark (2 * 1)).advance key.length).mark 3).takeText ['"']).head? _
          rw [hend]
          cases r with
          | nil => exact .none
          | cons d r =>
            obtain rfl : d = '"' := by simpa using hhead d rfl
            rw [List.head?_cons, if_pos rfl]
            have hmarks : (t.advance 1).marks = [] := by rw [Trail.marks_advance, hm]
            exact .some (reads_group hmarks (lies_advance h 1) hrest (.inl rfl) 1)
      · intro u d r hu hd
        have hne : d ≠ '"' := by simpa using hd
        show ((u.mark 3).takeText ['"']).head? = none
        rw [head?_takeText_mark, hu]
        simp [hne]
    · have hnone : quotedName? (':' :: c :: x) = none := if_neg fun he => hc he.2
      rw [hnone, List.head?_cons, if_neg (by simpa using hc)]
      exact .none

/-- A colon and a name are read as `qualifier?` says. -/
theorem agrees_aim {t : Trail} (hm : t.marks = []) (h : t.place.Lies text) :
    Agrees text (aim.outcomes t).head? (qualifier? t.place.rest) := by
  have houtcomes : aim.outcomes t = (t.takeText [':']).flatMap fun v =>
      (Node.cats [.char '"', .group 1 (runOutside (.single '"')), .char '"']).outcomes v ++
        (Node.group 2 (runOutside (spaceOr [':', '"']))).outcomes v := rfl
  rw [houtcomes, takeText_singleton]
  cases hs : t.place.rest with
  | nil => exact .none
  | cons c x =>
    by_cases hc : c = ':'
    · subst hc
      have hrest : (t.advance 1).place.rest = x := by
        rw [Trail.rest_advance, hs]
        rfl
      have hmarks : (t.advance 1).marks = [] := by rw [Trail.marks_advance, hm]
      have hquoted := agrees_quoted hmarks (lies_advance h 1)
      have hplain := agrees_plain hmarks (lies_advance h 1)
      rw [hrest] at hquoted hplain
      rw [List.head?_cons, if_pos rfl, List.flatMap_singleton, List.head?_append, qualifier?, Scan.orElse,
        plainName?, if_pos rfl]
      exact rel_or hquoted hplain
    · rw [qualifier?_eq_none hc, List.head?_cons, if_neg (by simpa using hc)]
      exact .none

/-- `NOT` and white space. -/
def negation : Node :=
  .iterate (.cat (.text ['N', 'O', 'T']) (.iterate (.set .space false) 1 none true)) 0 (some 1) true

/-- Behind `NOT` it goes on at the end of the white space, as a colon is to come next. -/
theorem agrees_negation {t : Trail} (hm : t.marks = []) (h : t.place.Lies text) :
    Agrees text ((negation.outcomes t).flatMap aim.outcomes).head? (aimed? t.place.rest) := by
  have houtcomes : negation.outcomes t = (t.takeText ['N', 'O', 'T']).flatMap
      (Node.iterate (.set .space false) 1 none true).outcomes ++ [t] := by
    simp [negation, Node.outcomes, Trail.times, Trail.upTo]
  have haim (u : Trail) (c : Char) (r : List Char) (hu : u.place.rest = c :: r)
      (hc : CharSet.space.mem c = true) : (aim.outcomes u).head? = none := by
    have hcolon : c ≠ ':' := by
      rintro rfl
      exact absurd hc (by decide)
    have houtcomes : aim.outcomes u = (u.takeText [':']).flatMap (Node.alt _ _).outcomes := rfl
    rw [houtcomes, takeText_singleton, hu, List.head?_cons, if_neg (by simpa using hcolon)]
    rfl
  have hself := agrees_aim hm h
  rw [houtcomes, List.flatMap_append, List.flatMap_singleton, List.head?_append, Trail.takeText_eq]
  by_cases hfront : ['N', 'O', 'T'] <+: t.place.rest
  · obtain ⟨r, hr⟩ := hfront
    have hnone : qualifier? (['N', 'O', 'T'] ++ r) = none := qualifier?_eq_none (by decide) _
    have hrest : (t.advance 3).place.rest = r := by
      rw [Trail.rest_advance, ← hr]
      rfl
    rw [← hr, hnone] at hself
    have haimed : aimed? (['N', 'O', 'T'] ++ r) =
        ((run? Text.isBlank r).bind fun b => qualifier? b.2).or none := (Option.or_none).symm
    rw [← hr, if_pos (List.prefix_append _ _), List.flatMap_singleton, haimed]
    refine rel_or ?_ hself
    rw [List.head?_flatMap, findSome?_run _ _ haim, funext CharSet.mem_space,
      show ['N', 'O', 'T'].length = 3 from rfl, hrest]
    cases hrun : run? Text.isBlank r with
    | none => exact .none
    | some b =>
      obtain ⟨w, x⟩ := b
      obtain ⟨rfl, -⟩ := run?_eq_some_iff.mp hrun
      have hmarks : ((t.advance 3).advance w.length).marks = [] := by simp [hm]
      have hread := agrees_aim hmarks (lies_advance (lies_advance h 3) w.length)
      rwa [Trail.rest_advance, hrest, List.drop_left] at hread
  · rw [if_neg hfront, aimed?_of_not_prefix hfront]
    exact hself

/-- What the expression finds that begins at a place: a name there if it is the start of the text, or else
behind one character of white space. -/
theorem agrees_qualifier {p : Place} (h : p.Lies text) :
    Agrees text (qualifier.node.outcomes ⟨p, []⟩).head?
      ((if p.before.isNone then aimed? p.rest else none).or
        (match p.rest with
          | [] => none
          | c :: r => if Text.isBlank c then aimed? r else none)) := by
  have houtcomes : qualifier.node.outcomes ⟨p, []⟩ =
      ((if p.before.isNone then [Trail.mk p []] else []) ++ Trail.take .space ⟨p, []⟩).flatMap fun t =>
        (negation.outcomes t).flatMap aim.outcomes := rfl
  rw [houtcomes, List.flatMap_append, List.head?_append]
  refine rel_or ?_ ?_
  · cases p.before with
    | none =>
      rw [Option.isNone_none, if_pos rfl, if_pos rfl, List.flatMap_singleton]
      exact agrees_negation rfl h
    | some c => exact .none
  · cases hr : p.rest with
    | nil =>
      rw [Trail.take_nil hr]
      exact .none
    | cons c r =>
      show Agrees text _ (if Text.isBlank c then aimed? r else none)
      cases hc : Text.isBlank c with
      | true =>
        rw [Trail.take_of_mem hr (by rwa [CharSet.mem_space]), List.flatMap_singleton]
        exact agrees_negation (t := ⟨p.after c r, []⟩) rfl (h.after hr)
      | false =>
        rw [Trail.take_of_not_mem hr (by rwa [CharSet.mem_space])]
        exact .none

/-! ## Searches -/

/-- A match that has found a name, and what follows it. -/
structure Finds (text : List Char) (found : Found) (key rest : List Char) : Prop where
  moved : found.start < found.stop
  stop : ∃ front, front ≠ [] ∧ text = front ++ rest ∧ found.stop = front.length
  name : (found.text? text 1 <|> found.text? text 2) = some key

/-- The match that begins at a place answers as the trail from there. -/
theorem answers_first? {p : Place} (h : p.Lies text) {answer : Option (List Char × List Char)}
    (ha : Agrees text (qualifier.node.outcomes ⟨p, []⟩).head? answer) :
    Option.Rel (fun found answer => Finds text found answer.1 answer.2)
      (Regex.Program.first? qualifier.node p) answer := by
  rw [Regex.Program.first?]
  generalize hhead : (qualifier.node.outcomes ⟨p, []⟩).head? = first at ha ⊢
  cases ha with
  | none => exact .none
  | @some t answer ha =>
    obtain ⟨front, hp, hstart, -⟩ := h
    obtain ⟨front', ht, hstop, -⟩ := ha.lies
    -- Every match of the expression takes a character, so there is a text before the trail's end.
    have hless : t.left < (Trail.mk p []).left :=
      Node.left_lt_of_mem_outcomes (by decide +kernel) (List.mem_of_mem_head? hhead)
    have hlengths : front.length + p.rest.length = front'.length + t.place.rest.length := by
      rw [← List.length_append, ← List.length_append, ← hp, ← ht]
    have hmoved : p.offset < t.place.offset := by
      simp only [Trail.left] at hless
      omega
    refine .some ⟨hmoved, ⟨front', ?_, by rwa [← ha.rest_eq], hstop⟩, ha.name _⟩
    rintro rfl
    simp only [hstop, List.length_nil, Nat.not_lt_zero] at hmoved

/-- A search from a place in a text finds the first name from there on. -/
theorem answers_findSome? (front s : List Char) :
    Option.Rel (fun found answer => Finds (front ++ s) found answer.1 answer.2)
      ((Place.from front.length front.getLast? s).findSome? (Regex.Program.first? qualifier.node))
      (firstSeen front.isEmpty s) := by
  have hstart : front.getLast?.isNone = front.isEmpty := by cases front <;> simp
  induction s generalizing front with
  | nil =>
    have hlies : Place.Lies ⟨front.length, front.getLast?, []⟩ (front ++ []) := ⟨front, rfl, rfl, rfl⟩
    have hfirst := answers_first? hlies (agrees_qualifier hlies)
    have hnone : (if front.getLast?.isNone then aimed? [] else none).or none =
        firstSeen front.isEmpty [] := by
      split <;> rfl
    rw [Place.from, List.findSome?_singleton]
    rwa [← hnone]
  | cons c s ih =>
    have hlies : Place.Lies ⟨front.length, front.getLast?, c :: s⟩ (front ++ c :: s) :=
      ⟨front, rfl, rfl, rfl⟩
    have hfirst := answers_first? hlies (agrees_qualifier hlies)
    have hrest := ih (front ++ [c]) (by simp)
    rw [List.append_assoc, List.length_append, List.getLast?_concat] at hrest
    rw [hstart] at hfirst
    have hmore : (front ++ [c]).isEmpty = false := by simp
    rw [hmore] at hrest
    rw [Place.from, List.findSome?_cons, firstSeen_cons]
    cases hfound : Regex.Program.first? qualifier.node ⟨front.length, front.getLast?, c :: s⟩ <;>
      · rw [hfound] at hfirst
        exact rel_or hfirst hrest

theorem drop_from (n : Nat) (before : Option Char) (front s : List Char) :
    (Place.from n before (front ++ s)).drop front.length =
      Place.from (n + front.length) (front.getLast?.or before) s := by
  induction front generalizing n before with
  | nil => rfl
  | cons c front ih =>
    rw [List.cons_append, Place.from, List.length_cons, List.drop_succ_cons, ih, List.getLast?_cons]
    congr 1
    · omega
    · cases front.getLast? <;> rfl

theorem findFrom?_eq (front s : List Char) :
    qualifier.regex.findFrom? (front ++ s) front.length =
      (Place.from front.length front.getLast? s).findSome? (Regex.Program.first? qualifier.node) := by
  have hsteady : qualifier.node.steady = true := by decide +kernel
  have hfind := Regex.Program.find?_eq_findSome? hsteady (front ++ s) front.length
  rwa [drop_from, Nat.zero_add, Option.or_none] at hfind

/-- The names found from a place in a text on. -/
theorem names_findAllFrom (front : List Char) {s : List Char} {keys : List (List Char)}
    (h : Sees front.isEmpty s keys) (steps : Nat) (hsteps : s.length < steps) (last : Option Nat) :
    (qualifier.regex.findAllFrom (front ++ s) steps front.length last).filterMap
      (fun found => found.text? (front ++ s) 1 <|> found.text? (front ++ s) 2) = keys := by
  generalize hstart : front.isEmpty = start at h
  -- Each match is not empty, so the next search begins at its end, and a step for each character is enough.
  induction h generalizing front steps last with
  | @nil start s h =>
    obtain ⟨steps, rfl⟩ := Nat.exists_eq_succ_of_ne_zero (Nat.ne_of_gt (Nat.zero_lt_of_lt hsteps))
    have hfound := answers_findSome? front s
    rw [hstart, h, ← findFrom?_eq] at hfound
    rw [Regex.findAllFrom]
    cases hfind : qualifier.regex.findFrom? (front ++ s) front.length with
    | none => rfl
    | some found =>
      rw [hfind] at hfound
      cases hfound
  | @cons start s key rest keys h _ ih =>
    obtain ⟨steps, rfl⟩ := Nat.exists_eq_succ_of_ne_zero (Nat.ne_of_gt (Nat.zero_lt_of_lt hsteps))
    have hfound := answers_findSome? front s
    rw [hstart, h, ← findFrom?_eq] at hfound
    rw [Regex.findAllFrom]
    cases hfind : qualifier.regex.findFrom? (front ++ s) front.length with
    | none =>
      rw [hfind] at hfound
      cases hfound
    | some found =>
      rw [hfind, Option.rel_some_some] at hfound
      obtain ⟨front', hne, (htext : front ++ s = front' ++ rest), hstop⟩ := hfound.stop
      have hmoved : (found.start = found.stop && last = some found.stop) = false := by
        simp [Nat.ne_of_lt hfound.moved]
      have hshorter := shrinks_firstSeen start s key rest h
      have hrest := ih front' steps (by omega) (some front'.length) (by simpa using hne)
      simp only [hmoved, Bool.false_eq_true, if_false, List.filterMap_cons, hfound.name]
      rw [htext, hstop, hrest]

end RowQuery.Token

namespace RowQuery.Query

/-- The names that are looked for in a text are those that are seen in it. -/
theorem qualifiers_of_sees {text : List Char} {keys : List (List Char)}
    (h : Token.Sees true text keys) : qualifiers text = keys.map String.ofList := by
  have hnames := Token.names_findAllFrom [] h (2 * text.length + 3) (by omega) none
  rw [List.nil_append] at hnames
  rw [qualifiers, ← hnames, List.map_filterMap]
  rfl

end RowQuery.Query
