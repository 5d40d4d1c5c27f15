import Mathlib.Data.List.Basic
import RowQuery.Text.Quoted

/-!
Written forms that show where they end.

* `Text.Delimits`: a written form tells what is shown of a value, whatever stands behind it.
* `Text.delimits_numeral`: a numeral with a mark behind it.
* `Text.delimits_quoteChar`, `Text.delimits_quote`: the characters of a text in quotes, and the whole text.
* `Text.delimits_items`: a list with commas between its items and a parenthesis at its end.

That a form shows its end is what makes forms within forms readable: without it the end of one could be taken
for the beginning of the next.
-/
namespace RowQuery.Text

variable {α β γ : Type}

/-- A written form tells what is shown of a value, and where it ends: of two forms at the front of one text,
both the shown part and what stands behind them agree. -/
def Delimits (write : α → List Char) (shown : α → β) : Prop :=
  ∀ a b r r', write a ++ r = write b ++ r' → shown a = shown b ∧ r = r'

namespace Delimits

variable {write : α → List Char} {shown : α → β}

/-- Nothing else shows the same. -/
theorem shown_eq (h : Delimits write shown) {a b : α} (hab : write a = write b) : shown a = shown b :=
  (h a b [] [] (by rw [hab])).1

/-- A fixed text in front of a form and one behind it. -/
theorem between (h : Delimits write shown) (front back : List Char) :
    Delimits (fun a => front ++ (write a ++ back)) shown := by
  intro a b r r' hab
  simp only [List.append_assoc, List.append_cancel_left_eq] at hab
  obtain ⟨hshown, hrest⟩ := h a b _ _ hab
  exact ⟨hshown, List.append_cancel_left hrest⟩

/-- The form of a part of a value. -/
theorem comap (h : Delimits write shown) (f : γ → α) :
    Delimits (fun c => write (f c)) fun c => shown (f c) :=
  fun c d => h (f c) (f d)

end Delimits

/-! ## Numerals -/

/-- A mark ends what it is no part of. -/
theorem append_cons_inj_of_not_mem {c : Char} {s t r r' : List Char} (hs : c ∉ s) (ht : c ∉ t)
    (h : s ++ c :: r = t ++ c :: r') : s = t ∧ r = r' := by
  rcases List.append_eq_append_iff.mp h with ⟨u, rfl, hu⟩ | ⟨u, rfl, hu⟩
  · cases u with
    | nil => exact ⟨(List.append_nil s).symm, (List.cons.inj hu).2⟩
    | cons d u =>
      obtain ⟨rfl, -⟩ := List.cons.inj hu
      exact absurd (List.mem_append_right s List.mem_cons_self) ht
  · cases u with
    | nil => exact ⟨List.append_nil t, (List.cons.inj hu).2.symm⟩
    | cons d u =>
      obtain ⟨rfl, -⟩ := List.cons.inj hu
      exact absurd (List.mem_append_right t List.mem_cons_self) hs

variable {base : Nat}

theorem exists_digit_of_mem_toDigits (hbase : 1 < base) {c : Char} {n : Nat}
    (h : c ∈ Nat.toDigits base n) : ∃ d < base, c = Nat.digitChar d := by
  induction n using Nat.strongRecOn with
  | ind n ih =>
    rw [Nat.toDigits_eq_if hbase] at h
    split at h
    · next hlt => exact ⟨n, hlt, List.mem_singleton.mp h⟩
    · next hge =>
      rcases List.mem_append.mp h with h | h
      · exact ih (n / base) (Nat.div_lt_self (by omega) hbase) h
      · exact ⟨n % base, Nat.mod_lt n (by omega), List.mem_singleton.mp h⟩

theorem digitChar_injOn {d e : Nat} (hd : d < 16) (he : e < 16) (h : Nat.digitChar d = Nat.digitChar e) :
    d = e := by
  have hall : ∀ d < 16, ∀ e < 16, Nat.digitChar d = Nat.digitChar e → d = e := by decide
  exact hall d hd e he h

/-- A number has one numeral. The induction takes the last digit off: `Nat.ofDigitChars_toDigits` reads
numerals back up to base ten only. -/
theorem toDigits_inj (hbase : 1 < base) (hbase' : base ≤ 16) {m n : Nat}
    (h : Nat.toDigits base m = Nat.toDigits base n) : m = n := by
  induction m using Nat.strongRecOn generalizing n with
  | ind m ih =>
    have hshort : m < base ↔ n < base := by
      rw [← Nat.pow_one base, ← Nat.length_toDigits_le_iff hbase Nat.one_pos,
        ← Nat.length_toDigits_le_iff hbase Nat.one_pos, h]
    by_cases hm : m < base
    · rw [Nat.toDigits_of_lt_base hm, Nat.toDigits_of_lt_base (hshort.mp hm)] at h
      exact digitChar_injOn (by omega) (by omega) (List.singleton_inj.mp h)
    · have hn : base ≤ n := Nat.le_of_not_lt (mt hshort.mpr hm)
      rw [Nat.toDigits_of_base_le hbase (Nat.le_of_not_lt hm), Nat.toDigits_of_base_le hbase hn] at h
      obtain ⟨hfront, hlast⟩ := List.append_inj' h rfl
      have hdiv : m / base = n / base := ih (m / base) (Nat.div_lt_self (by omega) hbase) hfront
      have hmod : m % base = n % base :=
        digitChar_injOn (Nat.lt_of_lt_of_le (Nat.mod_lt m (by omega)) hbase')
          (Nat.lt_of_lt_of_le (Nat.mod_lt n (by omega)) hbase') (List.singleton_inj.mp hlast)
      rw [← Nat.div_add_mod m base, ← Nat.div_add_mod n base, hdiv, hmod]

/-- A numeral ends at a mark that is no digit. -/
theorem delimits_numeral (hbase : 1 < base) (hbase' : base ≤ 16) {mark : Char}
    (hmark : ∀ d < 16, Nat.digitChar d ≠ mark) :
    Delimits (fun n => Nat.toDigits base n ++ [mark]) id := by
  have hnot (n : Nat) : mark ∉ Nat.toDigits base n := by
    intro hmem
    obtain ⟨d, hd, rfl⟩ := exists_digit_of_mem_toDigits hbase hmem
    exact hmark d (by omega) rfl
  intro m n r r' h
  simp only [List.append_assoc, List.singleton_append] at h
  obtain ⟨hdigits, hrest⟩ := append_cons_inj_of_not_mem (hnot m) (hnot n) h
  exact ⟨toDigits_inj hbase hbase' hdigits, hrest⟩

/-! ## Texts in quotes -/

/-- The characters that are written as a backslash and a letter, with the letter. -/
def named : List (Char × Char) :=
  [('"', '"'), ('\\', '\\'), ('\n', 'n'), ('\r', 'r'), ('\t', 't'), ('\x00', '0')]

/-- The ways in which a character stands between quotes: as a backslash and a letter, as it is, or as its code
point. -/
inductive Stands : Char → List Char → Prop
  | named {c letter : Char} (h : (c, letter) ∈ named) : Stands c ['\\', letter]
  | plain {c : Char} (hquote : c ≠ '"') (hback : c ≠ '\\') : Stands c [c]
  | code (c : Char) : Stands c (codePoint c)

theorem stands_quoteChar (c : Char) : Stands c (quoteChar c) := by
  unfold quoteChar
  split_ifs with hquote hback hline hreturn htab hnul hshown
  · exact .named (by simp [named, hquote])
  · exact .named (by simp [named, hback])
  · exact .named (by simp [named, hline])
  · exact .named (by simp [named, hreturn])
  · exact .named (by simp [named, htab])
  · exact .named (by simp [named, hnul])
  · exact .plain hquote hback
  · exact .code c

/-- No letter stands for two characters, and none begins a code point. -/
theorem named_inj {c d letter : Char} (hc : (c, letter) ∈ named) (hd : (d, letter) ∈ named) : c = d := by
  have hall : ∀ p ∈ named, ∀ q ∈ named, p.2 = q.2 → p.1 = q.1 := by decide
  exact hall _ hc _ hd rfl

theorem letter_ne_u {c letter : Char} (h : (c, letter) ∈ named) : letter ≠ 'u' := by
  have hall : ∀ p ∈ named, p.2 ≠ 'u' := by decide
  exact hall _ h

/-- A code point ends at its brace. -/
theorem codePoint_append_inj {c d : Char} {r r' : List Char} (h : codePoint c ++ r = codePoint d ++ r') :
    c = d ∧ r = r' := by
  have hnumeral : Delimits (fun n => Nat.toDigits 16 n ++ ['\x7d']) id :=
    delimits_numeral (by decide) (by decide) (by decide)
  have hform (c : Char) (r : List Char) : codePoint c ++ r =
      ['\\', 'u', '\x7b'] ++ (Nat.toDigits 16 c.toNat ++ ['\x7d'] ++ []) ++ r := by
    simp [codePoint, hexDigits]
  rw [hform, hform] at h
  obtain ⟨hcode, hrest⟩ := hnumeral.between ['\\', 'u', '\x7b'] [] c.toNat d.toNat r r' h
  exact ⟨Char.toNat_inj.mp hcode, hrest⟩

/-- A character stands for itself alone. -/
theorem Stands.append_inj {c d : Char} {s t r r' : List Char} (hc : Stands c s) (hd : Stands d t)
    (h : s ++ r = t ++ r') : c = d ∧ r = r' := by
  cases hc with
  | named hc =>
    cases hd with
    | named hd =>
      simp only [List.cons_append, List.nil_append, List.cons.injEq, true_and] at h
      obtain ⟨rfl, hrest⟩ := h
      exact ⟨named_inj hc hd, hrest⟩
    | plain _ hback => exact absurd (List.cons.inj h).1.symm hback
    | code => exact absurd (List.cons.inj (List.cons.inj h).2).1 (letter_ne_u hc)
  | plain hquote hback =>
    cases hd with
    | named => exact absurd (List.cons.inj h).1 hback
    | plain => exact ⟨(List.cons.inj h).1, (List.cons.inj h).2⟩
    | code => exact absurd (List.cons.inj h).1 hback
  | code =>
    cases hd with
    | named hd => exact absurd (List.cons.inj (List.cons.inj h).2).1.symm (letter_ne_u hd)
    | plain _ hback => exact absurd (List.cons.inj h).1.symm hback
    | code => exact codePoint_append_inj h

theorem delimits_quoteChar : Delimits quoteChar id :=
  fun c d _ _ => (stands_quoteChar c).append_inj (stands_quoteChar d)

/-- The form of a character does not begin with a quotation mark. -/
theorem quoteChar_append_ne (c : Char) (r s : List Char) : quoteChar c ++ r ≠ '"' :: s := by
  intro h
  cases hform : quoteChar c with
  | nil =>
    have hstands := stands_quoteChar c
    rw [hform] at hstands
    cases hstands
  | cons d t =>
    have hstands := stands_quoteChar c
    rw [hform] at hstands h
    obtain ⟨rfl, -⟩ := List.cons.inj h
    cases hstands with
    | plain hquote => exact hquote rfl

/-- A text in quotes ends at the first quotation mark that does not belong to a character of it. -/
theorem delimits_quote : Delimits quote id := by
  have hbody : Delimits (fun s : List Char => s.flatMap quoteChar ++ ['"']) id := by
    intro s
    induction s with
    | nil =>
      intro t r r' h
      cases t with
      | nil => exact ⟨rfl, List.append_cancel_left h⟩
      | cons d t =>
        simp only [List.flatMap_cons, List.append_assoc] at h
        exact absurd h.symm (quoteChar_append_ne d _ _)
    | cons c s ih =>
      intro t r r' h
      cases t with
      | nil =>
        simp only [List.flatMap_cons, List.append_assoc] at h
        exact absurd h (quoteChar_append_ne c _ _)
      | cons d t =>
        simp only [List.flatMap_cons, List.append_assoc] at h
        obtain ⟨hhead, hrest⟩ := delimits_quoteChar c d _ _ h
        obtain ⟨htail, hbehind⟩ := ih t r r' (by simpa using hrest)
        exact ⟨congrArg₂ List.cons hhead htail, hbehind⟩
  have hquote := hbody.between ['"'] []
  intro s t r r' h
  exact hquote s t r r' (by simpa [quote] using h)

/-- Texts in quotes are the same only if the texts are. -/
theorem quoted_injective : Function.Injective quoted := by
  intro s t h
  have hquote : quote s.toList = quote t.toList := String.ofList_injective h
  exact String.toList_inj.mp (delimits_quote.shown_eq hquote)

/-! ## Lists -/

/-- The forms of some values with commas between them and a parenthesis behind them. -/
def items (write : α → List Char) (as : List α) : List Char := [','].intercalate (as.map write) ++ [')']

theorem items_cons_cons (write : α → List Char) (a b : α) (as : List α) :
    items write (a :: b :: as) = write a ++ ',' :: items write (b :: as) := by
  simp [items, List.intercalate_cons_cons]

theorem items_singleton (write : α → List Char) (a : α) : items write [a] = write a ++ [')'] := by
  simp [items]

/-- A list ends at the parenthesis, if no item begins with one. -/
theorem delimits_items {write : α → List Char} {shown : α → β} (h : Delimits write shown)
    (hhead : ∀ a r s, write a ++ r ≠ ')' :: s) : Delimits (items write) (List.map shown) := by
  have hnil (b : α) (bs : List α) (r r' : List Char) : items write [] ++ r ≠ items write (b :: bs) ++ r' := by
    intro hab
    cases bs with
    | nil =>
      rw [items_singleton, List.append_assoc] at hab
      exact hhead b _ _ hab.symm
    | cons c bs =>
      rw [items_cons_cons, List.append_assoc] at hab
      exact hhead b _ _ hab.symm
  intro as
  induction as with
  | nil =>
    intro bs r r' hab
    cases bs with
    | nil => exact ⟨rfl, List.append_cancel_left hab⟩
    | cons b bs => exact absurd hab (hnil b bs r r')
  | cons a as ih =>
    intro bs r r' hab
    cases bs with
    | nil => exact absurd hab.symm (hnil a as r' r)
    | cons b bs =>
      -- Behind the first items stand a comma or the parenthesis, so both lists go on or both end.
      cases as with
      | nil =>
        cases bs with
        | nil =>
          simp only [items_singleton, List.append_assoc] at hab
          obtain ⟨hshown, hrest⟩ := h a b _ _ hab
          exact ⟨by rw [List.map_singleton, List.map_singleton, hshown], List.append_cancel_left hrest⟩
        | cons c bs =>
          simp only [items_singleton, items_cons_cons, List.append_assoc] at hab
          obtain ⟨-, hrest⟩ := h a b _ _ hab
          cases (List.cons.inj hrest).1
      | cons a' as =>
        cases bs with
        | nil =>
          simp only [items_singleton, items_cons_cons, List.append_assoc] at hab
          obtain ⟨-, hrest⟩ := h a b _ _ hab
          cases (List.cons.inj hrest).1
        | cons b' bs =>
          simp only [items_cons_cons, List.append_assoc] at hab
          obtain ⟨hshown, hrest⟩ := h a b _ _ hab
          obtain ⟨hrestShown, hbehind⟩ := ih (b' :: bs) r r' (List.cons.inj hrest).2
          exact ⟨congrArg₂ List.cons hshown hrestShown, hbehind⟩

end RowQuery.Text
