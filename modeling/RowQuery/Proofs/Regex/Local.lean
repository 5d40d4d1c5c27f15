import Mathlib.Data.List.TakeWhile
import RowQuery.Proofs.Regex.Significant
import RowQuery.Regex.Bracket

/-!
Readers of parts of a pattern do not look far ahead.

* `Local`: a reader takes a front part of a text, and takes the same if the text goes on with a closing
  parenthesis.
* `Local.bind`, `Local.skip`: readers that are put together from such readers.
* `local_escape?`, `local_bracketed?`: the readers of escapes and sets are local.
-/
namespace RowQuery.Regex

/-- A reader leaves an end of its text, and reads the same if a closing parenthesis and more follow
the text. -/
def Local {α : Type} (f : List Char → Option (α × List Char)) : Prop :=
  ∀ s a r, f s = some (a, r) → r <:+ s ∧ ∀ u, f (s ++ ')' :: u) = some (a, r ++ ')' :: u)

variable {x : Bool} {c d : Char} {s r t u : List Char}

/-! ## Readers put together -/

namespace Local

variable {α β : Type}

theorem pure (a : α) : Local fun s => some (a, s) :=
  fun s b r h => by
    cases h
    exact ⟨List.suffix_refl s, fun _ => rfl⟩

theorem none : Local fun _ => (Option.none : Option (α × List Char)) :=
  fun _ _ _ h => nomatch h

theorem bind {f : List Char → Option (α × List Char)} {g : α → List Char → Option (β × List Char)}
    (hf : Local f) (hg : ∀ a, Local (g a)) : Local fun s => f s >>= fun (a, r) => g a r := by
  intro s b r h
  obtain ⟨⟨a, s'⟩, ha, hb⟩ := Option.bind_eq_some_iff.mp h
  obtain ⟨hs, hf⟩ := hf s a s' ha
  obtain ⟨hr, hg⟩ := hg a s' b r hb
  refine ⟨hr.trans hs, fun u => ?_⟩
  simp only [hf u, Option.bind_eq_bind, Option.bind_some, hg u]

/-- A reader goes on with what it makes of a value that does not depend on the text. -/
theorem of_option (a : Option α) {g : α → List Char → Option (β × List Char)}
    (hg : ∀ a, Local (g a)) : Local fun s => a >>= fun a => g a s := by
  cases a with
  | none => exact .none
  | some a => exact hg a

theorem ite (p : Prop) [Decidable p] {f g : List Char → Option (α × List Char)} (hf : p → Local f)
    (hg : ¬ p → Local g) : Local fun s => if p then f s else g s := by
  by_cases hp : p
  · simpa only [if_pos hp] using hf hp
  · simpa only [if_neg hp] using hg hp

/-- A reader of a text that is not empty. -/
theorem cons {g : Char → List Char → Option (α × List Char)} (hg : ∀ c, Local (g c)) :
    Local fun s => match s with
      | [] => Option.none
      | c :: r => g c r := by
  intro s a r h
  cases s with
  | nil => cases h
  | cons c s =>
    obtain ⟨hr, hg⟩ := hg c s a r h
    exact ⟨hr.trans (List.suffix_cons c s), hg⟩

/-- A reader that takes the first character, or leaves it to another. -/
theorem branch (p : Char → Prop) [DecidablePred p] {f g : List Char → Option (α × List Char)}
    (hf : Local f) (hg : Local g) :
    Local fun s => match s with
      | [] => Option.none
      | c :: r => if p c then f r else g (c :: r) := by
  intro s a r h
  cases s with
  | nil => cases h
  | cons c s =>
    simp only [List.cons_append] at h ⊢
    by_cases hc : p c
    · simp only [if_pos hc] at h ⊢
      obtain ⟨hr, hf⟩ := hf s a r h
      exact ⟨hr.trans (List.suffix_cons c s), hf⟩
    · simp only [if_neg hc] at h ⊢
      exact hg (c :: s) a r h

/-- A reader of what comes first. -/
theorem skip {f : List Char → Option (α × List Char)} (hf : Local f) (hnil : f [] = Option.none)
    (x : Bool) : Local fun s => f (Regex.skip x s) := by
  intro s a r h
  cases hs : Regex.skip x s with
  | nil =>
    simp only [hs, hnil] at h
    cases h
  | cons c s' =>
    simp only [hs] at h
    obtain ⟨hr, hf⟩ := hf (c :: s') a r h
    refine ⟨hr.trans (hs ▸ skip_suffix x s), fun u => ?_⟩
    simp only [skip_append hs]
    exact hf u

end Local

/-! ## Escapes -/

theorem bracedHex?_append {digits name : List Char} {l : List (Char × List Char)}
    (h : bracedHex? digits l = some (name, r)) :
    (∃ c, (c, r) ∈ l) ∧
      ∀ t more, bracedHex? digits (l.map (extend t) ++ more) = some (name, r ++ t) := by
  induction l generalizing digits with
  | nil => cases h
  | cons q l ih =>
    obtain ⟨c, r'⟩ := q
    rw [bracedHex?] at h
    simp only [List.map_cons, List.cons_append, extend, bracedHex?]
    split at h
    · next hc =>
      cases h
      exact ⟨⟨c, List.mem_cons_self⟩, fun t more => if_pos hc⟩
    · next hc =>
      split at h
      · next hx =>
        obtain ⟨⟨d, hd⟩, ih⟩ := ih h
        exact ⟨⟨d, List.mem_cons_of_mem _ hd⟩, fun t more => by rw [if_neg hc, if_pos hx, ih]⟩
      · cases h

theorem braced?_append {front name : List Char} {l : List (Char × List Char)}
    (h : braced? front l = some (name, r)) :
    (∃ c, (c, r) ∈ l) ∧
      ∀ t more, braced? front (l.map (extend t) ++ more) = some (name, r ++ t) := by
  induction l generalizing front with
  | nil => cases h
  | cons q l ih =>
    obtain ⟨c, r'⟩ := q
    rw [braced?] at h
    simp only [List.map_cons, List.cons_append, extend, braced?]
    split at h
    · next hc =>
      cases h
      exact ⟨⟨c, List.mem_cons_self⟩, fun t more => if_pos hc⟩
    · next hc =>
      obtain ⟨⟨d, hd⟩, ih⟩ := ih h
      exact ⟨⟨d, List.mem_cons_of_mem _ hd⟩, fun t more => by rw [if_neg hc, ih]⟩

/-- A reader of the characters that count stops at one of them, and does so in a longer text. -/
theorem Local.of_significant {α : Type} {f : List (Char × List Char) → Option (α × List Char)}
    (hf : ∀ l a r, f l = some (a, r) →
      (∃ c, (c, r) ∈ l) ∧ ∀ t more, f (l.map (extend t) ++ more) = some (a, r ++ t)) (x : Bool) :
    Local fun s => f (significant x s) := by
  intro s a r h
  obtain ⟨⟨c, hc⟩, hf⟩ := hf _ a r h
  refine ⟨(List.suffix_cons c r).trans (suffix_of_mem_significant hc), fun u => ?_⟩
  obtain ⟨more, hmore⟩ := significant_append x s (')' :: u)
  simp only [hmore, hf]

theorem local_propertyEscape? (x negated : Bool) : Local (propertyEscape? x negated) := by
  refine .skip (.cons fun c => .ite _ (fun _ => ?_) fun _ => .ite _ (fun _ => .none) fun _ => .pure _)
    rfl x
  exact .bind (g := fun name r => some (propertyQuery name negated, r))
    (.of_significant (fun _ _ _ => braced?_append) x) fun name => .pure _

/-- A number of characters that count. -/
theorem take_significant_append {n : Nat} (h : ((significant x s).take n).length = n)
    (t : List Char) :
    (significant x (s ++ t)).take n = ((significant x s).take n).map (extend t) := by
  obtain ⟨more, hmore⟩ := significant_append x s t
  have hn : n ≤ ((significant x s).map (extend t)).length := by
    rw [List.length_map]
    rw [List.length_take] at h
    omega
  rw [hmore, List.take_append_of_le_length hn, List.map_take]

theorem local_bracedCode? (x : Bool) : Local (bracedCode? x) := by
  refine .bind (g := fun digits r => if digits.isEmpty then none else
    scalar? (hexValue digits) >>= fun c => some (Primitive.literal c false, r))
    (.of_significant (fun _ _ _ => bracedHex?_append) x) ?_
  exact fun digits => .ite _ (fun _ => .none) fun _ => .of_option _ fun c => .pure _

theorem local_code? (x : Bool) (letter : Char) : Local (code? x letter) := by
  intro s p r h
  unfold code? at h ⊢
  simp only at h ⊢
  generalize (if letter = 'x' then 2 else if letter = 'u' then 4 else 8 : Nat) = n at h ⊢
  split at h
  · next hdigits =>
    simp only [Option.bind_eq_bind, Option.bind_eq_some_iff] at h
    obtain ⟨c, hc, ⟨d, r'⟩, hlast, he⟩ := h
    cases he
    have hmem := List.mem_of_mem_take (List.mem_of_getLast? hlast)
    refine ⟨(List.suffix_cons d _).trans (suffix_of_mem_significant hmem), fun u => ?_⟩
    simp only [Bool.and_eq_true, decide_eq_true_eq] at hdigits
    rw [take_significant_append hdigits.1]
    generalize (significant x s).take n = digits at *
    simp [Function.comp_def, extend, hdigits.1, hc, hlast]
    simpa using hdigits.2
  · cases h

theorem local_hexEscape? (x : Bool) (letter : Char) : Local (hexEscape? x letter) :=
  .skip (.branch (· = '\x7b') (local_bracedCode? x) (local_code? x letter)) rfl x

/-- A brace that is left to be read as a count, or the name of a boundary in braces. -/
theorem local_boundaryEscape? (x : Bool) : Local (boundaryEscape? x) := by
  intro s p r h
  unfold boundaryEscape? at h ⊢
  cases s with
  | nil =>
    cases h
    exact ⟨List.suffix_refl _, fun u => rfl⟩
  | cons c s =>
    simp only [List.cons_append] at h ⊢
    split at h
    · next hc =>
      cases hs : skip x s with
      | nil =>
        rw [hs] at h
        cases h
      | cons d s' =>
        have hsuffix : d :: s' <:+ s := hs ▸ skip_suffix x s
        simp only [hs] at h
        simp only [if_pos hc, skip_append hs]
        split at h
        · next hd =>
          simp only [Option.bind_eq_bind, Option.bind_eq_some_iff] at h
          obtain ⟨⟨e, r'⟩, hlast, kind, hkind, h⟩ := h
          simp only at h
          have hmem := (List.takeWhile_prefix _).subset (List.mem_of_getLast? hlast)
          have hr' : r' <:+ c :: s := ((List.suffix_cons e r').trans
            (suffix_of_mem_significant hmem)).trans (hsuffix.trans (List.suffix_cons c s))
          -- The name ends at a brace, so it ends there in a longer text as well.
          cases hs' : skip x r' with
          | nil =>
            rw [hs'] at h
            cases h
          | cons f rest =>
            simp only [hs'] at h
            split at h
            · next hf =>
              cases h
              refine ⟨(suffix_of_skip hs').trans hr', fun u => ?_⟩
              have hletters := takeWhile_significant_append hlast (by simp [hs']) (')' :: u)
              rw [List.cons_append] at hletters
              simp [hd, hletters, hlast, extend, Function.comp_def, hkind, skip_append hs', hf]
            · cases h
        · next hd =>
          cases h
          exact ⟨List.suffix_refl _, fun u => by rw [if_neg hd]; rfl⟩
    · next hc =>
      cases h
      exact ⟨List.suffix_refl _, fun u => by rw [if_neg hc]; rfl⟩

theorem local_escape? (x : Bool) : Local (escape? x) := by
  refine .cons fun c => .ite _ (fun _ => local_hexEscape? x c) fun _ => ?_
  refine .ite _ (fun _ => local_propertyEscape? x _) fun _ => .ite _ (fun _ => .pure _) fun _ => ?_
  split
  all_goals first | exact .pure _ | exact local_boundaryEscape? x | exact .none

/-! ## Bracketed sets -/

theorem peek_append {x : Bool} (h : peek x s = some c) (t : List Char) :
    peek x (s ++ t) = some c := by
  have key : ∀ (s : List Char) (comment : Bool), peekFrom comment s = some c →
      peekFrom comment (s ++ t) = some c := by
    intro s
    induction s with
    | nil => exact fun _ h => nomatch h
    | cons d s ih =>
      intro comment h
      rw [List.cons_append, peekFrom]
      rw [peekFrom] at h
      split at h
      · next hb => rw [if_pos hb, ih comment h]
      · next hb =>
        rw [if_neg hb]
        split at h
        · next hd => rw [if_pos hd, ih true h]
        · next hd => rw [if_neg hd, h]
  cases x with
  | true => exact key s false h
  | false =>
    cases s with
    | nil => cases h
    | cons d s => exact h

/-- Where nothing comes next, nothing is left that counts. -/
theorem skip_of_peek {x : Bool} (h : peek x s = none) : skip x s = [] := by
  have key : ∀ (s : List Char) (comment inside : Bool), comment = true ∨ inside = false →
      peekFrom comment s = none → skipFrom inside s = [] := by
    intro s
    induction s with
    | nil => exact fun _ _ _ _ => rfl
    | cons d s ih =>
      intro comment inside hc h
      rw [peekFrom] at h
      rw [skipFrom]
      split at h
      · next hb =>
        split
        · exact ih comment _ (hc.imp_right fun hi => by simp_all) h
        · exact ih comment false (.inr rfl) h
      · next hb =>
        split at h
        · next hd =>
          simp only [Bool.and_eq_true, Bool.not_eq_true', decide_eq_true_eq] at hd
          obtain rfl : inside = false := by simpa [hd.1] using hc
          rw [if_neg (by simp), if_neg hb, if_pos hd.2]
          exact ih true true (.inl rfl) h
        · cases h
  cases x with
  | true => exact key s false false (.inr rfl) h
  | false =>
    cases s with
    | nil => rfl
    | cons d s => cases h

theorem makesRange_append {x : Bool} (h : makesRange x c r = true → skip x r ≠ [])
    (t : List Char) : makesRange x c (r ++ t) = makesRange x c r := by
  cases hp : peek x r with
  | some d => simp only [makesRange, hp, peek_append hp]
  | none =>
    have hc : c ≠ '-' := by
      rintro rfl
      exact h (by simp [makesRange, hp]) (skip_of_peek hp)
    simp [makesRange, hc]

theorem local_setPrimitive? (x : Bool) : Local (setPrimitive? x) :=
  .cons fun _ => .ite _ (fun _ => local_escape? x) fun _ => .pure _

theorem local_rangeTo? (flags : Flags) (first : Primitive) : Local (rangeTo? flags first) := by
  refine .bind (g := fun (second : Primitive) rest => first.member? flags >>= fun lo =>
      second.member? flags >>= fun hi =>
        if lo ≤ hi then some (Unicode.CharSet.interval lo.toNat hi.toNat, rest) else none)
    (local_setPrimitive? flags.ignoreSpace) fun second => ?_
  refine .of_option _ fun lo => .of_option _ fun hi => ?_
  exact .ite _ (fun _ => .pure _) fun _ => .none

theorem local_rangeFrom? (flags : Flags) (first : Primitive) : Local (rangeFrom? flags first) := by
  intro s a rest h
  cases s with
  | nil => cases h
  | cons c r =>
    unfold rangeFrom? at h ⊢
    simp only [List.cons_append] at h ⊢
    split at h
    · next hm =>
      have hne : skip flags.ignoreSpace r ≠ [] := by
        intro hs
        rw [hs] at h
        cases h
      obtain ⟨hr, hu⟩ := (local_rangeTo? flags first).skip rfl flags.ignoreSpace r a rest h
      refine ⟨hr.trans (List.suffix_cons c r), fun u => ?_⟩
      rw [makesRange_append fun _ => hne, if_pos hm]
      exact hu u
    · next hm =>
      obtain ⟨item, hitem, he⟩ := Option.bind_eq_some_iff.mp h
      cases he
      refine ⟨List.suffix_refl _, fun u => ?_⟩
      rw [makesRange_append fun h => absurd h hm, if_neg hm, hitem]
      rfl

theorem local_setItem? (flags : Flags) : Local (setItem? flags) :=
  .bind (g := fun first s => rangeFrom? flags first (skip flags.ignoreSpace s))
    (local_setPrimitive? flags.ignoreSpace) fun first =>
      .skip (local_rangeFrom? flags first) rfl flags.ignoreSpace

theorem hyphensFrom_append {n m : Nat} {l : List (Char × List Char)}
    (h : hyphensFrom n l = some (m, c, r)) :
    (c, r) ∈ l ∧ ∀ t more, hyphensFrom n (l.map (extend t) ++ more) = some (m, c, r ++ t) := by
  induction l generalizing n with
  | nil => cases h
  | cons q l ih =>
    obtain ⟨d, r'⟩ := q
    rw [hyphensFrom] at h
    simp only [List.map_cons, List.cons_append, extend, hyphensFrom]
    split at h
    · next hd =>
      obtain ⟨hmem, ih⟩ := ih h
      exact ⟨List.mem_cons_of_mem _ hmem, fun t more => by rw [if_pos hd, ih]⟩
    · next hd =>
      cases h
      exact ⟨List.mem_cons_self, fun t more => if_neg hd⟩

theorem local_firstItems? (x negated : Bool) : Local (firstItems? x negated) := by
  intro s bracket rest h
  obtain ⟨⟨n, c, r⟩, hn, h⟩ := Option.bind_eq_some_iff.mp h
  obtain ⟨hmem, hn⟩ := hyphensFrom_append hn
  have hc : c :: r <:+ s := suffix_of_mem_significant hmem
  have hlonger : ∀ u, hyphensFrom 0 (significant x (s ++ ')' :: u)) = some (n, c, r ++ ')' :: u) := by
    intro u
    obtain ⟨more, hmore⟩ := significant_append x s (')' :: u)
    rw [hmore, hn]
  simp only [firstItems?, hlonger, Option.bind_eq_bind, Option.bind_some]
  simp only at h
  split at h
  · next hclosing =>
    simp only [if_pos hclosing]
    cases hs : skip x r with
    | nil =>
      rw [hs] at h
      cases h
    | cons d r' =>
      simp only [hs] at h
      cases h
      refine ⟨(hs ▸ skip_suffix x r).trans ((List.suffix_cons c r).trans hc), fun u => ?_⟩
      simp only [skip_append hs]
      rfl
  · next hclosing =>
    cases h
    exact ⟨hc, fun u => if_neg hclosing⟩

theorem local_openBracket? (flags : Flags) : Local (openBracket? flags) :=
  .skip (.branch (· = '^') (local_firstItems? flags.ignoreSpace true)
    (local_firstItems? flags.ignoreSpace false)) rfl flags.ignoreSpace

theorem ofSign?_append (c : Char) (r u : List Char) :
    SetOp.ofSign? c (r ++ ')' :: u) = SetOp.ofSign? c r := by
  cases r with
  | cons d r => rfl
  | nil =>
    by_cases hc : c = ')'
    · subst hc
      rfl
    · simp [SetOp.ofSign?, Ne.symm hc]

theorem exists_cons_of_ofSign? {op : SetOp} (h : SetOp.ofSign? c r = some op) :
    ∃ d t, r = d :: t := by
  cases r with
  | nil => cases h
  | cons d t => exact ⟨d, t, rfl⟩

/-- No named set has a closing parenthesis in its name. -/
theorem namedSet?_eq_none {name : String} (h : ')' ∈ name.toList) : namedSet? name = none := by
  unfold namedSet?
  split
  all_goals first | rfl | simp at h

/-- A closing parenthesis after a text makes no name of what was none. -/
theorem named?_append (s u : List Char) :
    named? (s ++ ')' :: u) = (named? s).map fun (set, r) => (set, r ++ ')' :: u) := by
  cases hs : s.dropWhile (· != ':') with
  | nil =>
    have hall : ∀ c ∈ s, (c != ':') = true := List.dropWhile_eq_nil_iff.mp hs
    have hname : ')' ∈ (String.ofList ((s ++ ')' :: u).takeWhile (· != ':'))).toList := by
      rw [List.takeWhile_append_of_pos hall, String.toList_ofList]
      simp
    have hnone := namedSet?_eq_none hname
    unfold named?
    rw [hs]
    split
    · rw [hnone]
      rfl
    · rfl
  | cons c r =>
    unfold named?
    rw [takeWhile_append_of_dropWhile hs, dropWhile_append_cons hs, hs]
    cases r with
    | nil =>
      simp
    | cons d r =>
      by_cases hcd : c = ':' ∧ d = ']'
      · obtain ⟨rfl, rfl⟩ := hcd
        simp [Option.map_map, Function.comp_def]
      · have hne : ∀ q q' : List Char, ¬ (c :: d :: q = ':' :: ']' :: q') := by
          rintro q q' h
          cases h
          exact hcd ⟨rfl, rfl⟩
        rw [List.cons_append]
        split
        · next h => exact absurd h (hne _ _)
        · split
          · next h => exact absurd h (hne _ _)
          · rfl

theorem asciiSet?_append (flags : Flags) (s u : List Char) :
    asciiSet? flags (s ++ ')' :: u) =
      (asciiSet? flags s).map fun (item, r) => (item, r ++ ')' :: u) := by
  fun_cases asciiSet? flags s with
  | case1 r => simp [asciiSet?, named?_append, Option.map_map, Function.comp_def]
  | case2 r hr =>
    rw [List.cons_append, asciiSet?]
    · simp [named?_append, Option.map_map, Function.comp_def]
    · intro r' h
      cases r with
      | nil => cases h
      | cons c r =>
        cases h
        exact hr _ rfl
  | case3 s _ hs =>
    cases s with
    | nil => rfl
    | cons c s =>
      have hc : c ≠ ':' := fun hc => hs s (hc ▸ rfl)
      rw [List.cons_append, asciiSet?]
      · rfl
      · exact fun r h => hc (List.cons.inj h).1
      · exact fun r h => hc (List.cons.inj h).1

theorem suffix_of_named? {set : Unicode.CharSet} (h : named? s = some (set, r)) : r <:+ s := by
  unfold named? at h
  split at h
  · next rest hs =>
    obtain ⟨_, -, he⟩ := Option.map_eq_some_iff.mp h
    cases he
    have hsuffix : ':' :: ']' :: r <:+ s := hs ▸ List.dropWhile_suffix _
    exact (List.suffix_cons ']' r).trans ((List.suffix_cons ':' _).trans hsuffix)
  · cases h

theorem suffix_of_asciiSet? {flags : Flags} {item : Option Unicode.CharSet}
    (h : asciiSet? flags s = some (item, r)) : r <:+ s := by
  unfold asciiSet? at h
  split at h
  · next r' =>
    obtain ⟨⟨set, rest⟩, hn, he⟩ := Option.map_eq_some_iff.mp h
    cases he
    exact (suffix_of_named? hn).trans ⟨[':', '^'], rfl⟩
  · next r' hr =>
    obtain ⟨⟨set, rest⟩, hn, he⟩ := Option.map_eq_some_iff.mp h
    cases he
    exact (suffix_of_named? hn).trans (List.suffix_cons ':' r')
  · cases h

theorem setFrom_append {flags : Flags} {n m : Nat} (hm : n ≤ m) {bracket : Bracket}
    {outer : List Bracket} {whole : Nested} (h : setFrom flags n bracket outer s = some (whole, r)) :
    r <:+ s ∧ ∀ u, setFrom flags m bracket outer (s ++ ')' :: u) = some (whole, r ++ ')' :: u) := by
  -- By induction on the steps: each item, sign or bracket is read the same in the longer text, and
  -- there are as many steps left behind it at least.
  induction n generalizing m bracket outer s with
  | zero => cases h
  | succ n ih =>
    obtain ⟨m, rfl⟩ : ∃ k, m = k + 1 := ⟨m - 1, by omega⟩
    have hnm : n ≤ m := Nat.le_of_succ_le_succ hm
    simp only [setFrom] at h ⊢
    cases hs : skip flags.ignoreSpace s with
    | nil =>
      rw [hs] at h
      cases h
    | cons c s' =>
      have hs' : s' <:+ s := suffix_of_skip hs
      simp only [hs] at h
      simp only [skip_append hs]
      by_cases hopen : c = '['
      · simp only [if_pos hopen] at h ⊢
        simp only [asciiSet?_append]
        split at h
        · cases h
        · next item rest hset =>
          obtain ⟨hr, hu⟩ := ih hnm h
          simp only [hset, Option.map_some]
          exact ⟨hr.trans ((suffix_of_asciiSet? hset).trans hs'), hu⟩
        · next hset =>
          obtain ⟨⟨inner, rest⟩, hinner, h⟩ := Option.bind_eq_some_iff.mp h
          obtain ⟨hrest, hinner⟩ := local_openBracket? flags s' inner rest hinner
          obtain ⟨hr, hu⟩ := ih hnm h
          refine ⟨hr.trans (hrest.trans hs'), fun u => ?_⟩
          simp only [hset, Option.map_none, hinner, Option.bind_eq_bind, Option.bind_some]
          exact hu u
      · simp only [if_neg hopen] at h ⊢
        by_cases hclose : c = ']'
        · simp only [if_pos hclose] at h ⊢
          -- The set closes: it is the answer, or an item of the set around it.
          obtain ⟨closed, hclosed, h⟩ := Option.bind_eq_some_iff.mp h
          simp only [hclosed, Option.bind_eq_bind, Option.bind_some]
          cases outer with
          | nil =>
            cases h
            exact ⟨hs', fun u => rfl⟩
          | cons around outer =>
            obtain ⟨hr, hu⟩ := ih hnm h
            exact ⟨hr.trans hs', hu⟩
        · simp only [if_neg hclose] at h ⊢
          simp only [ofSign?_append]
          split at h
          · next op hop =>
            obtain ⟨d, t, rfl⟩ := exists_cons_of_ofSign? hop
            obtain ⟨hr, hu⟩ := ih hnm h
            exact ⟨hr.trans ((List.suffix_cons d t).trans hs'), hu⟩
          · next hop =>
            obtain ⟨⟨item, rest⟩, hitem, h⟩ := Option.bind_eq_some_iff.mp h
            obtain ⟨hrest, hitem⟩ := local_setItem? flags (c :: s') item rest hitem
            simp only [List.cons_append] at hitem
            obtain ⟨hr, hu⟩ := ih hnm h
            refine ⟨hr.trans (hrest.trans (hs ▸ skip_suffix _ s)), fun u => ?_⟩
            simp only [hitem, Option.bind_eq_bind, Option.bind_some]
            exact hu u

/-- A bracketed set is read the same whatever follows its closing bracket. -/
theorem local_bracketed? (flags : Flags) : Local (bracketed? flags) := by
  intro s whole r h
  obtain ⟨⟨bracket, rest⟩, hbracket, h⟩ := Option.bind_eq_some_iff.mp h
  obtain ⟨hrest, hu⟩ := local_openBracket? flags s bracket rest hbracket
  refine ⟨(setFrom_append (Nat.le_refl _) h).1.trans hrest, fun u => ?_⟩
  have hlen : rest.length + 1 ≤ (rest ++ ')' :: u).length + 1 := by
    rw [List.length_append]
    omega
  simp only [bracketed?, hu u, Option.bind_eq_bind, Option.bind_some]
  exact (setFrom_append hlen h).2 u

end RowQuery.Regex
