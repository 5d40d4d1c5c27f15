import RowQuery.Proofs.Regex.Element

/-!
Readers of parts of a pattern leave a closing parenthesis after their text alone, or take it.

* `FirmBut`, `Firm`: what a reader takes of a text with a closing parenthesis after it, but not the
  parenthesis, it takes of the text itself.
* `FirmBut.bind`, `FirmBut.skip`: readers that are put together from such readers.
* `firmBut_escape?`, `firm_bracketed?`, `move?_back`: the readers of escapes, sets and elements are firm, but for
  a brace after the boundary of a word, which needs something behind it to be read as a count.
-/
namespace RowQuery.Regex

/-- What a reader reads of a text with a closing parenthesis after it, it reads of the text itself, unless
nothing is left or the answer is one of the exceptions. -/
def ReadsBack {α : Type} (but : α → List Char → Prop) (f : List Char → Option (α × List Char)) : Prop :=
  ∀ s a r, f (s ++ [')']) = some (a, r) → (r = [] ∨ but a r) ∨ ∃ r', r = r' ++ [')'] ∧ f s = some (a, r')

/-- A local reader that reads the same, but for exceptions, without a closing parenthesis after its text. -/
structure FirmBut {α : Type} (but : α → List Char → Prop) (f : List Char → Option (α × List Char)) :
    Prop where
  toLocal : Local f
  back : ReadsBack but f

/-- A reader takes a closing parenthesis after a text, or reads the same of the text. -/
abbrev Firm {α : Type} (f : List Char → Option (α × List Char)) : Prop := FirmBut (fun _ _ => False) f

variable {x : Bool} {c d : Char} {s r t : List Char}

/-! ## What counts before a closing parenthesis -/

theorem skip_append_parenthesis (x : Bool) (s : List Char) :
    skip x (s ++ [')']) = skip x s ++ [')'] ∨ skip x s = [] ∧ skip x (s ++ [')']) = [] := by
  cases hs : skip x s with
  | nil =>
    rcases skip_parenthesis hs with h | h
    · exact .inl (h [])
    · exact .inr ⟨rfl, h⟩
  | cons c r => exact .inl (skip_append hs [')'])

/-- The characters that count in a text count with a parenthesis after it, and the parenthesis may. -/
theorem significant_append_parenthesis (x : Bool) (s : List Char) :
    ∃ more, (more = [] ∨ more = [(')', [])]) ∧
      significant x (s ++ [')']) = (significant x s).map (extend [')']) ++ more := by
  induction s using significant_induction x with
  | hnil s hs =>
    rw [significant_eq x s, hs, significant_eq x (s ++ [')'])]
    rcases skip_append_parenthesis x s with h | ⟨-, h⟩
    · rw [h, hs]
      refine ⟨_, .inr ?_, rfl⟩
      cases x <;> rfl
    · rw [h]
      exact ⟨[], .inl rfl, rfl⟩
  | hcons s c r hs ih =>
    obtain ⟨more, hmore, ih⟩ := ih
    refine ⟨more, hmore, ?_⟩
    rw [significant_of_skip hs, significant_of_skip (skip_append hs [')']), ih]
    rfl

/-- Characters with a property that a parenthesis has not are the same before a parenthesis. -/
theorem takeWhile_significant_parenthesis {p : Char → Bool} (hp : p ')' = false) (x : Bool)
    (s : List Char) :
    (significant x (s ++ [')'])).takeWhile (p ·.1) =
      ((significant x s).takeWhile (p ·.1)).map (extend [')']) := by
  obtain ⟨more, hmore, h⟩ := significant_append_parenthesis x s
  have hend : more.takeWhile (p ·.1) = [] := by
    rcases hmore with rfl | rfl
    · rfl
    · simp [hp]
  rw [h]
  generalize significant x s = l
  induction l with
  | nil => exact hend
  | cons q l ih =>
    rw [List.map_cons, List.cons_append, takeWhile_cons_fst, takeWhile_cons_fst, ih]
    by_cases hq : p q.1 = true
    · rw [if_pos hq, if_pos (show p (extend [')'] q).1 = true from hq)]
      rfl
    · rw [if_neg hq, if_neg (show ¬p (extend [')'] q).1 = true from hq)]
      rfl

/-! ## Readers put together -/

/-- What is read of the empty text leaves nothing. -/
theorem Local.eq_nil {α : Type} {f : List Char → Option (α × List Char)} (hf : Local f) {a : α}
    (h : f [] = some (a, r)) : r = [] :=
  List.suffix_nil.mp (hf [] a r h).1

namespace FirmBut

variable {α β : Type} {but : β → List Char → Prop}

theorem pure (b : β) : FirmBut but fun s => some (b, s) where
  toLocal := .pure b
  back s b r h := by
    cases h
    exact .inr ⟨s, rfl, rfl⟩

theorem none : FirmBut but fun _ => (Option.none : Option (β × List Char)) where
  toLocal := .none
  back _ _ _ h := nomatch h

/-- A reader followed by another, which makes no more than an exception of the exceptions of the first. -/
theorem bindBut {first : α → List Char → Prop} {f : List Char → Option (α × List Char)}
    {g : α → List Char → Option (β × List Char)} (hf : FirmBut first f) (hg : ∀ a, FirmBut but (g a))
    (hfirst : ∀ a s b r, first a s → g a s = some (b, r) → r = [] ∨ but b r) :
    FirmBut but fun s => f s >>= fun (a, r) => g a r where
  toLocal := .bind hf.toLocal fun a => (hg a).toLocal
  back s b r h := by
    obtain ⟨⟨a, s'⟩, ha, hb⟩ := Option.bind_eq_some_iff.mp h
    rcases hf.back s a s' ha with (rfl | hs) | ⟨s', rfl, ha'⟩
    · exact .inl (.inl ((hg a).toLocal.eq_nil hb))
    · exact .inl (hfirst a s' b r hs hb)
    · refine ((hg a).back s' b r hb).imp_right ?_
      rintro ⟨r', rfl, hb'⟩
      exact ⟨r', rfl, Option.bind_eq_some_iff.mpr ⟨(a, s'), ha', hb'⟩⟩

theorem bind {f : List Char → Option (α × List Char)} {g : α → List Char → Option (β × List Char)}
    (hf : Firm f) (hg : ∀ a, FirmBut but (g a)) : FirmBut but fun s => f s >>= fun (a, r) => g a r :=
  hf.bindBut hg fun _ _ _ _ h => h.elim

/-- A firm reader, where there may be exceptions. -/
theorem weaken {f : List Char → Option (β × List Char)} (hf : Firm f) : FirmBut but f where
  toLocal := hf.toLocal
  back s b r h := (hf.back s b r h).imp_left (·.imp_right False.elim)

theorem of_option (a : Option α) {g : α → List Char → Option (β × List Char)}
    (hg : ∀ a, FirmBut but (g a)) : FirmBut but fun s => a >>= fun a => g a s := by
  cases a with
  | none => exact .none
  | some a => exact hg a

theorem ite (p : Prop) [Decidable p] {f g : List Char → Option (β × List Char)} (hf : p → FirmBut but f)
    (hg : ¬ p → FirmBut but g) : FirmBut but fun s => if p then f s else g s := by
  by_cases hp : p
  · simpa only [if_pos hp] using hf hp
  · simpa only [if_neg hp] using hg hp

theorem cons {g : Char → List Char → Option (β × List Char)} (hg : ∀ c, FirmBut but (g c)) :
    FirmBut but fun s => match s with
      | [] => Option.none
      | c :: r => g c r where
  toLocal := .cons fun c => (hg c).toLocal
  back s b r h := by
    cases s with
    | nil => exact .inl (.inl ((hg ')').toLocal.eq_nil h))
    | cons c s => exact (hg c).back s b r h

theorem branch (p : Char → Prop) [DecidablePred p] {f g : List Char → Option (β × List Char)}
    (hf : FirmBut but f) (hg : FirmBut but g) (hnil : g [] = Option.none) :
    FirmBut but fun s => match s with
      | [] => Option.none
      | c :: r => if p c then f r else g (c :: r) where
  toLocal := .branch p hf.toLocal hg.toLocal
  back s b r h := by
    cases s with
    | nil =>
      simp only [List.nil_append] at h
      split at h
      · exact .inl (.inl (hf.toLocal.eq_nil h))
      · refine (hg.back [] b r h).imp_right ?_
        rintro ⟨r', -, hb⟩
        rw [hnil] at hb
        cases hb
    | cons c s =>
      simp only [List.cons_append] at h ⊢
      by_cases hc : p c
      · simp only [if_pos hc] at h ⊢
        exact hf.back s b r h
      · simp only [if_neg hc] at h ⊢
        exact hg.back (c :: s) b r h

theorem skip {f : List Char → Option (β × List Char)} (hf : FirmBut but f) (hnil : f [] = Option.none)
    (x : Bool) : FirmBut but fun s => f (Regex.skip x s) where
  toLocal := hf.toLocal.skip hnil x
  back s b r h := by
    rcases skip_append_parenthesis x s with hs | ⟨-, hs⟩
    · simp only [hs] at h
      exact hf.back _ b r h
    · simp only [hs, hnil] at h
      cases h

/-- A reader of the characters that count stops at one of them, and does so without the parenthesis. -/
theorem of_significant {f : List (Char × List Char) → Option (β × List Char)}
    (hlocal : ∀ x, Local fun s => f (significant x s))
    (hf : ∀ l more b r, (more = [] ∨ more = [(')', [])]) → f (l.map (extend [')']) ++ more) = some (b, r) →
      ∃ r', r = r' ++ [')'] ∧ f l = some (b, r')) (x : Bool) :
    FirmBut but fun s => f (significant x s) where
  toLocal := hlocal x
  back s b r h := by
    obtain ⟨more, hmore, hs⟩ := significant_append_parenthesis x s
    simp only [hs] at h
    exact .inr (hf _ more b r hmore h)

end FirmBut

/-! ## Escapes -/

theorem bracedHex?_back {digits name : List Char} {l more : List (Char × List Char)}
    (hmore : more = [] ∨ more = [(')', [])])
    (h : bracedHex? digits (l.map (extend [')']) ++ more) = some (name, r)) :
    ∃ r', r = r' ++ [')'] ∧ bracedHex? digits l = some (name, r') := by
  induction l generalizing digits with
  | nil => rcases hmore with rfl | rfl <;> cases h
  | cons q l ih =>
    simp only [List.map_cons, List.cons_append, extend, bracedHex?] at h ⊢
    split at h
    · next hc =>
      cases h
      exact ⟨q.2, rfl, if_pos hc⟩
    · next hc =>
      split at h
      · next hx =>
        obtain ⟨r', hr, h⟩ := ih h
        exact ⟨r', hr, by rw [if_neg hc, if_pos hx, h]⟩
      · cases h

theorem braced?_back {front name : List Char} {l more : List (Char × List Char)}
    (hmore : more = [] ∨ more = [(')', [])])
    (h : braced? front (l.map (extend [')']) ++ more) = some (name, r)) :
    ∃ r', r = r' ++ [')'] ∧ braced? front l = some (name, r') := by
  induction l generalizing front with
  | nil => rcases hmore with rfl | rfl <;> cases h
  | cons q l ih =>
    simp only [List.map_cons, List.cons_append, extend, braced?] at h ⊢
    split at h
    · next hc =>
      cases h
      exact ⟨q.2, rfl, if_pos hc⟩
    · next hc =>
      obtain ⟨r', hr, h⟩ := ih h
      exact ⟨r', hr, by rw [if_neg hc, h]⟩

theorem firm_propertyEscape? (x negated : Bool) : Firm (propertyEscape? x negated) := by
  refine .skip (.cons fun c => .ite _ (fun _ => ?_) fun _ => .ite _ (fun _ => .none) fun _ => .pure _)
    rfl x
  exact .bind (g := fun name r => some (propertyQuery name negated, r))
    (.of_significant (.of_significant fun _ _ _ => braced?_append) (fun _ _ _ _ => braced?_back) x)
    fun name => .pure _

theorem firm_bracedCode? (x : Bool) : Firm (bracedCode? x) := by
  refine .bind (g := fun digits r => if digits.isEmpty then none else
    scalar? (hexValue digits) >>= fun c => some (Primitive.literal c false, r))
    (.of_significant (.of_significant fun _ _ _ => bracedHex?_append) (fun _ _ _ _ => bracedHex?_back) x) ?_
  exact fun digits => .ite _ (fun _ => .none) fun _ => .of_option _ fun c => .pure _

/-- No parenthesis is among the first characters that count if they are hexadecimal digits. -/
theorem take_significant_parenthesis {n : Nat}
    (hlen : ((significant x (s ++ [')'])).take n).length = n)
    (hhex : ((significant x (s ++ [')'])).take n).all (isHex ·.1) = true) :
    (significant x (s ++ [')'])).take n = ((significant x s).take n).map (extend [')']) := by
  obtain ⟨more, hmore, hs⟩ := significant_append_parenthesis x s
  rw [hs] at hlen hhex ⊢
  have hn : n ≤ ((significant x s).map (extend [')'])).length := by
    refine Nat.le_of_not_lt fun hlt => ?_
    rcases hmore with rfl | rfl
    · rw [List.append_nil, List.length_take] at hlen
      omega
    · have hmem : (')', []) ∈ ((significant x s).map (extend [')']) ++ [(')', [])]).take n := by
        rw [List.take_of_length_le (by simpa using Nat.succ_le_of_lt hlt)]
        simp
      exact absurd (List.all_eq_true.mp hhex _ hmem) (by decide)
  rw [List.take_append_of_le_length hn, List.map_take]

theorem firm_code? (x : Bool) (letter : Char) : Firm (code? x letter) where
  toLocal := local_code? x letter
  back s p r h := by
    unfold code? at h ⊢
    simp only at h ⊢
    generalize (if letter = 'x' then 2 else if letter = 'u' then 4 else 8 : Nat) = n at h ⊢
    split at h
    · next hdigits =>
      simp only [Bool.and_eq_true, decide_eq_true_eq] at hdigits
      rw [take_significant_parenthesis hdigits.1 hdigits.2] at h hdigits
      generalize (significant x s).take n = digits at *
      rw [List.length_map, List.all_map] at hdigits
      rw [List.map_map, List.getLast?_map] at h
      simp only [Option.bind_eq_bind, Option.bind_eq_some_iff, Option.map_eq_some_iff] at h
      obtain ⟨c, hc, _, ⟨⟨d, r'⟩, hlast, rfl⟩, he⟩ := h
      cases he
      refine .inr ⟨r', rfl, ?_⟩
      rw [if_pos (by simpa [extend] using hdigits)]
      replace hc : scalar? (hexValue (digits.map (·.1))) = some c := hc
      simp only [hc, hlast, Option.bind_eq_bind, Option.bind_some]
      rfl
    · cases h

theorem code?_nil (x : Bool) (letter : Char) : code? x letter [] = none := by
  have hnil : significant x [] = [] := by cases x <;> rfl
  unfold code?
  simp only [hnil, List.take_nil, List.length_nil]
  split <;> [skip; split] <;> rfl

theorem firm_hexEscape? (x : Bool) (letter : Char) : Firm (hexEscape? x letter) :=
  .skip (.branch (· = '\x7b') (firm_bracedCode? x) (firm_code? x letter) (code?_nil x letter)) rfl x

/-- A brace with nothing in it but a closing parenthesis. -/
def Dangling (x : Bool) (r : List Char) : Prop :=
  ∃ w, r = '\x7b' :: w ∧ (skip x w = [] ∨ skip x w = [')'])

/-- The name of a boundary, up to its closing brace. -/
def boundaryName? (x : Bool) (s : List Char) : Option (Primitive × List Char) :=
  let letters := (significant x s).takeWhile (isBoundaryChar ·.1)
  letters.getLast?.bind fun (_, rest) =>
    (Boundary.ofName? (letters.map (·.1))).bind fun kind =>
      match skip x rest with
      | [] => none
      | e :: rest => if e = '\x7d' then some (.boundary kind, rest) else none

theorem boundaryEscape?_of_name {t : List Char} (hs : skip x s = c :: t) (hc : isBoundaryChar c = true) :
    boundaryEscape? x ('\x7b' :: s) = boundaryName? x (c :: t) := by
  simp only [boundaryEscape?, if_true, hs, if_pos hc]
  rfl

/-- What closes a name is no parenthesis, so it stands in the text. -/
theorem boundaryName?_back {p : Primitive} (h : boundaryName? x (s ++ [')']) = some (p, r)) :
    ∃ r', r = r' ++ [')'] ∧ boundaryName? x s = some (p, r') := by
  rw [boundaryName?, takeWhile_significant_parenthesis (by decide) x s] at h
  rw [boundaryName?]
  generalize (significant x s).takeWhile (isBoundaryChar ·.1) = letters at h ⊢
  simp only [List.getLast?_map, List.map_map, Option.bind_eq_some_iff, Option.map_eq_some_iff] at h
  obtain ⟨_, ⟨⟨e, rest⟩, hlast, rfl⟩, kind, hkind, h⟩ := h
  replace hkind : Boundary.ofName? (letters.map (·.1)) = some kind := hkind
  simp only [extend] at h
  simp only [hlast, hkind, Option.bind_some]
  rcases skip_append_parenthesis x rest with hskip | ⟨-, hskip⟩
  · rw [hskip] at h
    cases hs : skip x rest with
    | nil =>
      rw [hs] at h
      cases h
    | cons d r' =>
      simp only [hs, List.cons_append] at h
      split at h
      · next hd =>
        cases h
        exact ⟨r', rfl, if_pos hd⟩
      · cases h
  · rw [hskip] at h
    cases h

/-- A boundary of a word is read before a brace with no more than a parenthesis in it, but not at the end of a
pattern. -/
theorem firmBut_boundaryEscape? (x : Bool) :
    FirmBut (fun p r => p = .boundary .either ∧ Dangling x r) (boundaryEscape? x) where
  toLocal := local_boundaryEscape? x
  back s p r h := by
    cases s with
    | nil =>
      cases h
      exact .inr ⟨[], rfl, rfl⟩
    | cons c s =>
      rw [List.cons_append] at h
      by_cases hc : c = '\x7b'
      · subst hc
        cases hs : skip x s with
        | nil =>
          rw [boundaryEscape?, if_pos rfl] at h
          rcases skip_parenthesis hs with hskip | hskip
          · rw [hskip []] at h
            cases h
            exact .inl (.inr ⟨rfl, s ++ [')'], rfl, .inr (hskip [])⟩)
          · rw [hskip] at h
            cases h
        | cons d t =>
          by_cases hd : isBoundaryChar d = true
          · rw [boundaryEscape?_of_name (skip_append hs [')']) hd] at h
            rw [boundaryEscape?_of_name hs hd]
            exact .inr (boundaryName?_back h)
          · simp only [boundaryEscape?, if_true, skip_append hs, if_neg hd] at h
            cases h
            refine .inr ⟨'\x7b' :: s, rfl, ?_⟩
            simp only [boundaryEscape?, if_true, hs, if_neg hd]
      · rw [boundaryEscape?, if_neg hc] at h
        cases h
        exact .inr ⟨_, rfl, if_neg hc⟩

theorem firmBut_escape? (x : Bool) :
    FirmBut (fun p r => p = .boundary .either ∧ Dangling x r) (escape? x) := by
  refine .cons fun c => .ite _ (fun _ => (firm_hexEscape? x c).weaken) fun _ => ?_
  refine .ite _ (fun _ => (firm_propertyEscape? x _).weaken) fun _ => .ite _ (fun _ => .pure _) fun _ => ?_
  split
  all_goals first | exact .pure _ | exact firmBut_boundaryEscape? x | exact .none

/-! ## Bracketed sets -/

theorem firmBut_setPrimitive? (x : Bool) :
    FirmBut (fun p r => p = .boundary .either ∧ Dangling x r) (setPrimitive? x) :=
  .cons fun _ => .ite _ (fun _ => firmBut_escape? x) fun _ => .pure _

theorem firm_rangeTo? (flags : Flags) (first : Primitive) : Firm (rangeTo? flags first) := by
  refine .bindBut (g := fun (second : Primitive) rest => first.member? flags >>= fun lo =>
      second.member? flags >>= fun hi =>
        if lo ≤ hi then some (Unicode.CharSet.interval lo.toNat hi.toNat, rest) else none)
    (firmBut_setPrimitive? flags.ignoreSpace) (fun second => ?_) ?_
  · refine .of_option _ fun lo => .of_option _ fun hi => ?_
    exact .ite _ (fun _ => .pure _) fun _ => .none
  · -- A boundary is no character, so it ends no range.
    rintro _ s b r ⟨rfl, -⟩ h
    obtain ⟨lo, -, h⟩ := Option.bind_eq_some_iff.mp h
    cases h

theorem peek_append_parenthesis {x : Bool} (h : peek x s = none) : peek x (s ++ [')']) = some ')' := by
  have key : ∀ (s : List Char) (comment : Bool), peekFrom comment s = none →
      peekFrom comment (s ++ [')']) = some ')' := by
    intro s
    induction s with
    | nil =>
      intro comment _
      cases comment <;> rfl
    | cons d s ih =>
      intro comment h
      rw [List.cons_append, peekFrom]
      rw [peekFrom] at h
      split at h
      · next hb => rw [if_pos hb, ih comment h]
      · next hb =>
        rw [if_neg hb]
        split at h
        · next hd => rw [if_pos hd, ih true h]
        · cases h
  cases x with
  | true => exact key s false h
  | false =>
    cases s with
    | nil => rfl
    | cons d s => cases h

theorem makesRange_append_parenthesis (x : Bool) (c : Char) (r : List Char) :
    makesRange x c (r ++ [')']) = makesRange x c r := by
  cases hp : peek x r with
  | some d => simp only [makesRange, hp, peek_append hp]
  | none =>
    rw [makesRange, makesRange, hp, peek_append_parenthesis hp]
    rfl

/-- An item is read only if something is behind it, which may be a parenthesis. -/
theorem firmBut_rangeFrom? (flags : Flags) (first : Primitive) :
    FirmBut (fun _ r => r = [')']) (rangeFrom? flags first) where
  toLocal := local_rangeFrom? flags first
  back s a rest h := by
    cases s with
    | nil =>
      obtain ⟨item, -, he⟩ := Option.bind_eq_some_iff.mp h
      cases he
      exact .inl (.inr rfl)
    | cons c r =>
      unfold rangeFrom? at h ⊢
      simp only [List.cons_append, makesRange_append_parenthesis] at h ⊢
      split at h
      · next hm =>
        rw [if_pos hm]
        have hto := ((firm_rangeTo? flags first).skip rfl flags.ignoreSpace).back r a rest h
        exact hto.imp_left (·.imp_right False.elim)
      · next hm =>
        obtain ⟨item, hitem, he⟩ := Option.bind_eq_some_iff.mp h
        cases he
        refine .inr ⟨c :: r, rfl, ?_⟩
        rw [if_neg hm, hitem]
        rfl

/-- A boundary is no item of a set. -/
theorem rangeFrom?_boundary (flags : Flags) (kind : Boundary) (s : List Char) :
    rangeFrom? flags (.boundary kind) s = none := by
  cases s with
  | nil => rfl
  | cons c r =>
    rw [rangeFrom?]
    split
    · rw [rangeTo?]
      cases setPrimitive? flags.ignoreSpace (skip flags.ignoreSpace r) <;> rfl
    · rfl

theorem firmBut_setItem? (flags : Flags) : FirmBut (fun _ r => r = [')']) (setItem? flags) := by
  refine .bindBut (g := fun first s => rangeFrom? flags first (skip flags.ignoreSpace s))
    (firmBut_setPrimitive? flags.ignoreSpace)
    (fun first => .skip (firmBut_rangeFrom? flags first) rfl flags.ignoreSpace) ?_
  rintro _ s b r ⟨rfl, -⟩ h
  cases (rangeFrom?_boundary flags .either _).symm.trans h

theorem hyphensFrom_back {n m : Nat} {l more : List (Char × List Char)}
    (hmore : more = [] ∨ more = [(')', [])])
    (h : hyphensFrom n (l.map (extend [')']) ++ more) = some (m, c, r)) :
    (c = ')' ∧ r = []) ∨ ∃ r', r = r' ++ [')'] ∧ hyphensFrom n l = some (m, c, r') := by
  induction l generalizing n with
  | nil =>
    rcases hmore with rfl | rfl
    · cases h
    · cases h
      exact .inl ⟨rfl, rfl⟩
  | cons q l ih =>
    simp only [List.map_cons, List.cons_append, extend, hyphensFrom] at h ⊢
    split at h
    · next hd =>
      rw [if_pos hd]
      exact ih h
    · next hd =>
      cases h
      exact .inr ⟨q.2, rfl, if_neg hd⟩

/-- The first items of a set are read only if something is behind them, which may be a parenthesis. -/
theorem firmBut_firstItems? (x negated : Bool) : FirmBut (fun _ r => r = [')']) (firstItems? x negated) where
  toLocal := local_firstItems? x negated
  back s bracket rest h := by
    obtain ⟨⟨n, c, r⟩, hn, h⟩ := Option.bind_eq_some_iff.mp h
    obtain ⟨more, hmore, hs⟩ := significant_append_parenthesis x s
    rw [hs] at hn
    simp only at h
    rcases hyphensFrom_back hmore hn with ⟨rfl, rfl⟩ | ⟨r, rfl, hn'⟩
    · rw [if_neg (by simp)] at h
      cases h
      exact .inl (.inr rfl)
    · simp only [firstItems?, hn', Option.bind_eq_bind, Option.bind_some]
      split at h
      · next hclosing =>
        rw [if_pos hclosing]
        rcases skip_append_parenthesis x r with hskip | ⟨-, hskip⟩
        · cases hs' : skip x r with
          | nil =>
            rw [hskip, hs'] at h
            cases h
            exact .inl (.inr rfl)
          | cons d r' =>
            rw [hskip, hs'] at h
            cases h
            exact .inr ⟨d :: r', rfl, rfl⟩
        · rw [hskip] at h
          cases h
      · next hclosing =>
        cases h
        exact .inr ⟨c :: r, rfl, if_neg hclosing⟩

theorem firmBut_openBracket? (flags : Flags) : FirmBut (fun _ r => r = [')']) (openBracket? flags) := by
  refine .skip (.branch (· = '^') (firmBut_firstItems? flags.ignoreSpace true)
    (firmBut_firstItems? flags.ignoreSpace false) ?_) rfl flags.ignoreSpace
  cases flags.ignoreSpace <;> rfl

/-- An item of a set takes a character at least. -/
theorem suffix_of_setItem? {flags : Flags} {item : Unicode.CharSet}
    (h : setItem? flags (c :: s) = some (item, r)) : r <:+ s := by
  obtain ⟨⟨first, t⟩, hfirst, h⟩ := Option.bind_eq_some_iff.mp h
  have ht : t <:+ s := by
    simp only [setPrimitive?] at hfirst
    split at hfirst
    · exact (local_escape? flags.ignoreSpace s first t hfirst).1
    · cases hfirst
      exact List.suffix_refl _
  exact ((local_rangeFrom? flags first).skip rfl flags.ignoreSpace t item r h).1.trans ht

/-- A set does not end where its text does, nor with a closing parenthesis. -/
theorem setFrom_eq_none {flags : Flags} (hs : skip flags.ignoreSpace s = [] ∨ skip flags.ignoreSpace s = [')'])
    (n : Nat) (bracket : Bracket) (outer : List Bracket) : setFrom flags n bracket outer s = none := by
  have hitem : setItem? flags [')'] = none := by
    cases hx : flags.ignoreSpace <;> simp [setItem?, setPrimitive?, rangeFrom?, skip, skipFrom, hx]
  cases n with
  | zero => rfl
  | succ n =>
    rcases hs with hs | hs
    · rw [setFrom, hs]
    · rw [setFrom, hs]
      simp [SetOp.ofSign?, hitem]

theorem setFrom_end {flags : Flags} (h : s = [] ∨ s = [')']) (n : Nat) (bracket : Bracket)
    (outer : List Bracket) : setFrom flags n bracket outer s = none := by
  refine setFrom_eq_none ?_ n bracket outer
  rcases h with rfl | rfl <;> cases flags.ignoreSpace <;> simp [skip, skipFrom, Text.isBlank]

/-- The bracket that closes a set stands in the text, and the set is read the same without a parenthesis behind
the text. -/
theorem setFrom_back {flags : Flags} {n m : Nat} (hm : s.length < m) {bracket : Bracket}
    {outer : List Bracket} {whole : Nested} (h : setFrom flags n bracket outer (s ++ [')']) = some (whole, r)) :
    ∃ r', r = r' ++ [')'] ∧ setFrom flags m bracket outer s = some (whole, r') := by
  -- By induction on the steps: what is read of each item, sign or bracket leaves more than a parenthesis, as
  -- the set goes on behind it.
  induction n generalizing m bracket outer s with
  | zero => cases h
  | succ n ih =>
    obtain ⟨m, rfl⟩ : ∃ k, m = k + 1 := ⟨m - 1, by omega⟩
    cases hs : skip flags.ignoreSpace s with
    | nil =>
      have hend := skip_append_parenthesis flags.ignoreSpace s
      rw [hs, List.nil_append] at hend
      rw [setFrom_eq_none (hend.symm.imp_left (·.2))] at h
      cases h
    | cons c s' =>
      have hlen : s'.length < m := by
        have := (hs ▸ skip_suffix flags.ignoreSpace s : c :: s' <:+ s).length_le
        rw [List.length_cons] at this
        omega
      have hgo : ∀ {bracket outer t rest}, t <:+ s' → rest = t ++ [')'] →
          setFrom flags n bracket outer rest = some (whole, r) →
            ∃ r', r = r' ++ [')'] ∧ setFrom flags m bracket outer t = some (whole, r') := by
        rintro bracket outer t _ ht rfl h
        exact ih (Nat.lt_of_le_of_lt ht.length_le hlen) h
      simp only [setFrom, skip_append hs] at h
      simp only [setFrom, hs]
      by_cases hopen : c = '['
      · simp only [if_pos hopen, asciiSet?_append] at h ⊢
        cases hset : asciiSet? flags s' with
        | none =>
          simp only [hset, Option.map_none] at h ⊢
          obtain ⟨⟨inner, rest⟩, hinner, h⟩ := Option.bind_eq_some_iff.mp h
          rcases (firmBut_openBracket? flags).back s' inner rest hinner with hrest | ⟨t, rfl, ht⟩
          · cases (setFrom_end hrest n inner _).symm.trans h
          · simp only [ht, Option.bind_eq_bind, Option.bind_some]
            exact hgo (local_openBracket? flags s' inner t ht).1 rfl h
        | some p =>
          obtain ⟨item, t⟩ := p
          simp only [hset, Option.map_some] at h ⊢
          cases item with
          | none => cases h
          | some item => exact hgo (suffix_of_asciiSet? hset) rfl h
      · simp only [if_neg hopen] at h ⊢
        by_cases hclose : c = ']'
        · simp only [if_pos hclose] at h ⊢
          obtain ⟨closed, hclosed, h⟩ := Option.bind_eq_some_iff.mp h
          simp only [hclosed, Option.bind_eq_bind, Option.bind_some]
          cases outer with
          | nil =>
            cases h
            exact ⟨s', rfl, rfl⟩
          | cons around outer => exact hgo (List.suffix_refl _) rfl h
        · simp only [if_neg hclose, ofSign?_append] at h ⊢
          cases hop : SetOp.ofSign? c s' with
          | some op =>
            obtain ⟨d, t, rfl⟩ := exists_cons_of_ofSign? hop
            simp only [hop] at h ⊢
            exact hgo (List.suffix_cons d t) rfl h
          | none =>
            simp only [hop] at h ⊢
            obtain ⟨⟨item, rest⟩, hitem, h⟩ := Option.bind_eq_some_iff.mp h
            rcases (firmBut_setItem? flags).back (c :: s') item rest hitem with hrest | ⟨t, rfl, ht⟩
            · cases (setFrom_end hrest n _ _).symm.trans h
            · simp only [ht, Option.bind_eq_bind, Option.bind_some]
              exact hgo (suffix_of_setItem? ht) rfl h

/-- A bracketed set is read the same without a parenthesis behind the text. -/
theorem firm_bracketed? (flags : Flags) : Firm (bracketed? flags) where
  toLocal := local_bracketed? flags
  back s whole r h := by
    obtain ⟨⟨bracket, rest⟩, hbracket, h⟩ := Option.bind_eq_some_iff.mp h
    rcases (firmBut_openBracket? flags).back s bracket rest hbracket with hrest | ⟨t, rfl, ht⟩
    · cases (setFrom_end hrest _ _ _).symm.trans h
    · obtain ⟨r', hr, hset⟩ := setFrom_back (Nat.lt_succ_self t.length) h
      refine .inr ⟨r', hr, ?_⟩
      simp only [bracketed?, ht, Option.bind_eq_bind, Option.bind_some]
      exact hset

/-! ## Elements -/

theorem dropWhile_isBlank_append_parenthesis (s : List Char) :
    (s ++ [')']).dropWhile Text.isBlank = s.dropWhile Text.isBlank ++ [')'] := by
  cases hs : s.dropWhile Text.isBlank with
  | nil => rw [List.dropWhile_append_of_pos (List.dropWhile_eq_nil_iff.mp hs)]; rfl
  | cons c t => exact dropWhile_append_cons hs [')']

/-- A number is read the same without a parenthesis behind the text, unless a comment takes the parenthesis. -/
theorem decimal?_back {n : Nat} (h : decimal? x (s ++ [')']) = some (n, r)) :
    r = [] ∨ ∃ r', r = r' ++ [')'] ∧ decimal? x s = some (n, r') := by
  unfold decimal? at h ⊢
  rw [dropWhile_isBlank_append_parenthesis, takeWhile_significant_parenthesis (p := Char.isDigit) rfl] at h
  generalize (significant x (s.dropWhile Text.isBlank)).takeWhile (·.1.isDigit) = digits at h ⊢
  simp only [List.getLast?_map] at h ⊢
  cases hlast : digits.getLast? with
  | none => rw [hlast] at h; cases h
  | some q =>
    obtain ⟨d, t⟩ := q
    simp only [hlast, Option.map_some, extend, List.foldl_map] at h ⊢
    split at h
    · next hn =>
      cases h
      cases x with
      | true =>
        rcases skip_append_parenthesis true t with ht | ⟨-, ht⟩
        · exact .inr ⟨skip true t, ht, if_pos hn⟩
        · exact .inl ht
      | false => exact .inr ⟨_, dropWhile_isBlank_append_parenthesis t, if_pos hn⟩
    · cases h

theorem firm_decimal {α : Type} {g : Nat → Char → List Char → Option (α × List Char)}
    (hg : ∀ n c, Firm (g n c)) (x : Bool) :
    Firm fun s => decimal? x s >>= fun (n, s) =>
      match s with
      | [] => Option.none
      | c :: r => g n c r where
  toLocal := .decimal (fun n c => (hg n c).toLocal) x
  back s a rest h := by
    obtain ⟨⟨n, s'⟩, hn, h⟩ := Option.bind_eq_some_iff.mp h
    rcases decimal?_back hn with rfl | ⟨t, rfl, ht⟩
    · cases h
    · cases t with
      | nil => exact .inl (.inl ((hg n ')').toLocal.eq_nil h))
      | cons c t =>
        refine ((hg n c).back t a rest h).imp_right ?_
        rintro ⟨r', hr, hback⟩
        exact ⟨r', hr, Option.bind_eq_some_iff.mpr ⟨_, ht, hback⟩⟩

theorem firm_upperCount? (x : Bool) (min : Nat) : Firm (upperCount? x min) := by
  have hmax : Firm fun s => decimal? x s >>= fun (max, s) => match s with
      | [] => none
      | d :: rest => if d = '\x7d' && min ≤ max then some ((min, some max), rest) else none :=
    firm_decimal (g := fun max d rest =>
      if d = '\x7d' && min ≤ max then some ((min, some max), rest) else none)
      (fun max d => .ite _ (fun _ => .pure (min, some max)) fun _ => .none) x
  exact .branch (· = '\x7d') (.pure (min, none)) hmax (by rw [decimal?_nil]; rfl)

theorem firm_counts? (x : Bool) : Firm (counts? x) := by
  refine firm_decimal (g := fun min c r => if c = '\x7d' then some ((min, some min), r)
    else if c = ',' then upperCount? x min (skip x r) else none) (fun min c => ?_) x
  refine .ite _ (fun _ => .pure _) fun _ => .ite _ (fun _ => ?_) fun _ => .none
  exact .skip (firm_upperCount? x min) rfl x

theorem flagsFrom?_back {flags inner : Flags} {used : List Char} {negating dangling bare : Bool}
    (h : flagsFrom? flags used negating dangling (s ++ [')']) = some (inner, bare, c, r)) :
    r = [] ∨ ∃ r', r = r' ++ [')'] ∧ flagsFrom? flags used negating dangling s = some (inner, bare, c, r') := by
  induction s generalizing flags used negating dangling with
  | nil =>
    simp only [List.nil_append, flagsFrom?] at h
    split at h
    · split at h
      · cases h
      · cases h
        exact .inl rfl
    · next hc => simp at hc
  | cons d s ih =>
    simp only [List.cons_append, flagsFrom?] at h ⊢
    split at h
    · next hend =>
      rw [if_pos hend]
      split at h
      · cases h
      · next hd =>
        cases h
        exact .inr ⟨s, rfl, if_neg hd⟩
    · next hend =>
      rw [if_neg hend]
      split at h
      · next hneg =>
        rw [if_pos hneg]
        split at h
        · cases h
        · next hn =>
          rw [if_neg hn]
          exact ih h
      · next hneg =>
        rw [if_neg hneg]
        split at h
        · cases h
        · next hused =>
          rw [if_neg hused]
          obtain ⟨flags', hput, h⟩ := Option.bind_eq_some_iff.mp h
          rw [hput]
          exact ih h

theorem firm_flagGroup? (flags : Flags) : Firm (flagGroup? flags) where
  toLocal := local_flagGroup? flags
  back s move rest h := by
    obtain ⟨⟨inner, bare, c, r⟩, hflags, h⟩ := Option.bind_eq_some_iff.mp h
    have hrest : Firm fun r => if c = ':' then some (Move.group inner, r)
        else if bare then none else some (Move.switch inner, r) :=
      .ite _ (fun _ => .pure _) fun _ => .ite _ (fun _ => .none) fun _ => .pure _
    rcases flagsFrom?_back hflags with rfl | ⟨r, rfl, hback⟩
    · exact .inl (.inl (hrest.toLocal.eq_nil h))
    · refine (hrest.back r move rest h).imp_right ?_
      rintro ⟨r', hr, h'⟩
      exact ⟨r', hr, Option.bind_eq_some_iff.mpr ⟨_, hback, h'⟩⟩

theorem firm_groupName? : Firm groupName? where
  toLocal := local_groupName?
  back s name rest h := by
    unfold groupName? at h ⊢
    cases hs : s.dropWhile (· != '>') with
    | nil =>
      have hall := List.dropWhile_eq_nil_iff.mp hs
      rw [List.dropWhile_append_of_pos hall] at h
      cases h
    | cons c r =>
      simp only [dropWhile_append_cons hs, takeWhile_append_of_dropWhile hs] at h
      split at h
      · next hname =>
        cases h
        exact .inr ⟨r, rfl, if_pos hname⟩
      · cases h

theorem firm_namedGroup? : Firm namedGroup? :=
  .bind (g := fun name r => some (Move.named name, r)) firm_groupName? fun _ => .pure _

theorem firm_specialGroup? (flags : Flags) : Firm (specialGroup? flags) where
  toLocal := local_specialGroup? flags
  back s move rest h := by
    fun_cases specialGroup? flags s with
    | case1 r => exact firm_namedGroup?.back r move rest h
    | case2 r => exact firm_namedGroup?.back r move rest h
    | case3 s hP hN =>
      refine (firm_flagGroup? flags).back s move rest ?_
      rw [← h, specialGroup?]
      · intro r hr
        rcases s with _ | ⟨_, _ | ⟨_, s⟩⟩
        · cases hr
        · cases hr
        · cases hr
          exact hP s rfl
      · intro r hr
        rcases s with _ | ⟨_, s⟩
        · cases hr
        · cases hr
          exact hN s rfl

/-- A closing parenthesis brings no question mark. -/
theorem guarded_nil (x : Bool) (s : List Char) : Guarded x s [] := by
  intro hs
  rcases skip_append_parenthesis x s with h | ⟨-, h⟩
  · rw [h, hs]
    simp
  · rw [h]
    simp

variable {but : Move → List Char → Prop}

theorem ReadsBack.ite (p : Prop) [Decidable p] {f g : List Char → Option (Move × List Char)}
    (hf : ReadsBack but f) (hg : ReadsBack but g) : ReadsBack but fun s => if p then f s else g s := by
  by_cases hp : p
  · simpa only [if_pos hp] using hf
  · simpa only [if_neg hp] using hg

theorem readsBack_repetition (x : Bool) (min : Nat) (max : Option Nat) :
    ReadsBack but fun s => some (repetition x min max s) := by
  intro s move r h
  have hlazy := (laziness_append x s).2 [] (guarded_nil _ _)
  simp only [repetition, hlazy] at h
  cases h
  exact .inr ⟨_, rfl, rfl⟩

theorem readsBack_counted? (x : Bool) : ReadsBack but (counted? x) := by
  intro s move r h
  obtain ⟨⟨⟨min, max⟩, rest⟩, hcounts, h⟩ := Option.bind_eq_some_iff.mp h
  have hfirm := (firm_counts? x).skip (by rw [counts?, decimal?_nil]; rfl) x
  rcases hfirm.back s _ rest hcounts with (rfl | hno) | ⟨t, rfl, hback⟩
  · have hnil : laziness x [] = (false, []) := by cases x <;> rfl
    simp only [repetition, hnil] at h
    cases h
    exact .inl (.inl rfl)
  · exact hno.elim
  · refine (readsBack_repetition x min max t move r h).imp_right ?_
    rintro ⟨r', hr, h'⟩
    exact ⟨r', hr, Option.bind_eq_some_iff.mpr ⟨_, hback, h'⟩⟩

theorem readsBack_group? (flags : Flags) : ReadsBack but (group? flags) := by
  intro s move r h
  have hcapture : ∀ {t : List Char}, (skip flags.ignoreSpace t).head? ≠ some '?' →
      group? flags t = some (.capture, t) := by
    intro t ht
    unfold group?
    split
    · next hq => exact absurd (by rw [hq]; rfl) ht
    · rfl
  by_cases hq : (skip flags.ignoreSpace s).head? = some '?'
  · obtain ⟨r', hs⟩ := List.head?_eq_some_iff.mp hq
    simp only [group?, hs, skip_append hs] at h ⊢
    exact ((firm_specialGroup? flags).weaken).back r' move r h
  · have hq' : (skip flags.ignoreSpace (s ++ [')'])).head? ≠ some '?' := by
      rcases skip_append_parenthesis flags.ignoreSpace s with hs | ⟨-, hs⟩
      · rw [hs]
        cases hs' : skip flags.ignoreSpace s with
        | nil => simp
        | cons c t => rw [hs'] at hq; simpa using hq
      · rw [hs]
        simp
    rw [hcapture hq'] at h
    cases h
    exact .inr ⟨s, rfl, hcapture hq⟩

/-- What an element leaves that can be read only with a parenthesis behind the text: a brace in which nothing
else stands, behind the boundary of a word. -/
def Loose (x : Bool) (move : Move) (r : List Char) : Prop :=
  (∃ node depth, move = .push node depth) ∧ Dangling x r

theorem firm_primitive? (flags : Flags) (p : Primitive) : Firm (flags.primitive? p) where
  toLocal := local_primitive? flags p
  back s move r h := by
    obtain ⟨node, hnode, he⟩ := Option.map_eq_some_iff.mp h
    cases he
    refine .inr ⟨s, rfl, ?_⟩
    rw [Flags.primitive?, hnode]
    rfl

theorem firmBut_escaped? (flags : Flags) : FirmBut (Loose flags.ignoreSpace) flags.escaped? := by
  refine .bindBut (firmBut_escape? flags.ignoreSpace) (fun p => (firm_primitive? flags p).weaken) ?_
  rintro _ s move r ⟨rfl, hs⟩ h
  cases h
  exact .inr ⟨⟨_, _, rfl⟩, hs⟩

theorem firm_oneOf? (flags : Flags) : Firm flags.oneOf? :=
  .bind (g := fun (whole : Nested) r => some (Move.push (flags.oneOf whole.set) whole.depth, r))
    (firm_bracketed? flags) fun _ => .pure _

/-- An element is read the same without a closing parenthesis behind the text, unless it takes the parenthesis
or a brace with nothing in it is left. -/
theorem move?_back {flags : Flags} {move : Move} (h : flags.move? c (s ++ [')']) = some (move, r)) :
    (r = [] ∨ Loose flags.ignoreSpace move r) ∨ ∃ r', r = r' ++ [')'] ∧ flags.move? c s = some (move, r') := by
  have hfirm : ReadsBack (Loose flags.ignoreSpace) (flags.move? c) := by
    refine .ite _ (readsBack_group? flags) ?_
    refine .ite _ (FirmBut.pure _).back (.ite _ (FirmBut.pure _).back ?_)
    refine .ite _ (firm_oneOf? flags).weaken.back ?_
    refine .ite _ (readsBack_repetition _ 0 _) (.ite _ (readsBack_repetition _ 0 _) ?_)
    refine .ite _ (readsBack_repetition _ 1 _) (.ite _ (readsBack_counted? _) ?_)
    refine .ite _ (firmBut_escaped? flags).back (.ite _ (firm_primitive? flags _).weaken.back ?_)
    refine .ite _ (firm_primitive? flags _).weaken.back (.ite _ (firm_primitive? flags _).weaken.back ?_)
    exact (firm_primitive? flags _).weaken.back
  exact hfirm s move r h

end RowQuery.Regex
