import RowQuery.Proofs.Regex.Local
import RowQuery.Regex.Pattern

/-!
Elements of a pattern are read without looking far ahead.

* `local_counts?`, `local_specialGroup?`: the readers of counts and of groups are local.
* `Guarded`: a text that does not go on with a question mark after a comment at its end.
* `localMove_move?`: an element is read the same if a closing parenthesis and more follow, but for a
  question mark that might belong to it.
-/
namespace RowQuery.Regex

variable {x : Bool} {c : Char} {s r : List Char}

/-! ## Counts -/

/-- A number before something else is read whatever follows. -/
theorem decimal?_append {n : Nat} (h : decimal? x s = some (n, c :: r)) :
    c :: r <:+ s ∧ ∀ t, decimal? x (s ++ t) = some (n, c :: (r ++ t)) := by
  unfold decimal? at h ⊢
  simp only at h ⊢
  split at h
  · cases h
  · next d r' hlast =>
    split at h
    · next hn =>
      obtain ⟨hn', hr⟩ : _ = n ∧ (if x then skip true r' else r'.dropWhile Text.isBlank) = c :: r := by
        simpa using h
      have hmem := (List.takeWhile_prefix _).subset (List.mem_of_getLast? hlast)
      obtain ⟨e, s', hs⟩ : ∃ e s', s.dropWhile Text.isBlank = e :: s' := by
        refine List.exists_cons_of_ne_nil fun hs => ?_
        rw [hs] at hlast
        cases x <;> cases hlast
      -- After the digits there is more that counts, so their run ends there in a longer text too.
      obtain ⟨hskip, hrest, hafter⟩ : skip x r' ≠ [] ∧ c :: r <:+ r' ∧
          ∀ t, (if x then skip true (r' ++ t) else (r' ++ t).dropWhile Text.isBlank) =
            c :: (r ++ t) := by
        cases x with
        | true =>
          have hr : skip true r' = c :: r := hr
          exact ⟨by simp [hr], hr ▸ skip_suffix true r', skip_append hr⟩
        | false =>
          have hr : r'.dropWhile Text.isBlank = c :: r := hr
          refine ⟨?_, hr ▸ List.dropWhile_suffix _, dropWhile_append_cons hr⟩
          rintro (rfl : r' = [])
          cases hr
      refine ⟨?_, fun t => ?_⟩
      · have hsuffix : s.dropWhile Text.isBlank <:+ s := List.dropWhile_suffix _
        exact hrest.trans (((List.suffix_cons d r').trans (suffix_of_mem_significant hmem)).trans hsuffix)
      · have hdigits := takeWhile_significant_append hlast hskip t
        rw [hs, List.cons_append] at hdigits
        rw [dropWhile_append_cons hs, hdigits, List.getLast?_map, ← hs, hlast]
        simp only [Option.map_some, extend, List.foldl_map, hafter]
        rw [if_pos hn, hn']
    · cases h

/-- A reader goes on after a number, with what makes no sense at the end of a text. -/
theorem Local.decimal {α : Type} {g : Nat → Char → List Char → Option (α × List Char)}
    (hg : ∀ n c, Local (g n c)) (x : Bool) :
    Local fun s => decimal? x s >>= fun (n, s) =>
      match s with
      | [] => Option.none
      | c :: r => g n c r := by
  intro s a rest h
  obtain ⟨⟨n, s'⟩, hn, h⟩ := Option.bind_eq_some_iff.mp h
  cases s' with
  | nil => cases h
  | cons c r =>
    obtain ⟨hr, hn⟩ := decimal?_append hn
    obtain ⟨hrest, hg⟩ := hg n c r a rest h
    refine ⟨hrest.trans ((List.suffix_cons c r).trans hr), fun u => ?_⟩
    simp only [hn, Option.bind_eq_bind, Option.bind_some, hg]

theorem decimal?_nil (x : Bool) : decimal? x [] = none := by
  cases x <;> rfl

theorem local_upperCount? (x : Bool) (min : Nat) : Local (upperCount? x min) := by
  have hmax := Local.decimal (g := fun max d rest =>
    if d = '\x7d' && min ≤ max then some ((min, some max), rest) else none)
    (fun max d => .ite _ (fun _ => .pure (min, some max)) fun _ => .none) x
  exact .branch (· = '\x7d') (.pure (min, none)) hmax

theorem local_counts? (x : Bool) : Local (counts? x) := by
  refine .decimal (g := fun min c r => if c = '\x7d' then some ((min, some min), r)
    else if c = ',' then upperCount? x min (skip x r) else none) (fun min c => ?_) x
  refine .ite _ (fun _ => .pure _) fun _ => .ite _ (fun _ => ?_) fun _ => .none
  exact .skip (local_upperCount? x min) rfl x

/-! ## Groups and repetitions -/

theorem flagsFrom?_append {flags inner : Flags} {used : List Char} {negating dangling bare : Bool}
    (h : flagsFrom? flags used negating dangling s = some (inner, bare, c, r)) :
    r <:+ s ∧
      ∀ t, flagsFrom? flags used negating dangling (s ++ t) = some (inner, bare, c, r ++ t) := by
  induction s generalizing flags used negating dangling with
  | nil => cases h
  | cons d s ih =>
    simp only [List.cons_append, flagsFrom?] at h ⊢
    by_cases hend : (d = ':' || d = ')') = true
    · simp only [if_pos hend] at h ⊢
      split at h
      · cases h
      · next hd =>
        cases h
        exact ⟨List.suffix_cons c r, fun t => if_neg hd⟩
    · simp only [if_neg hend] at h ⊢
      by_cases hneg : d = '-'
      · simp only [if_pos hneg] at h ⊢
        split at h
        · cases h
        · next hd =>
          obtain ⟨hr, ih⟩ := ih h
          exact ⟨hr.trans (List.suffix_cons d s), fun t => (if_neg hd).trans (ih t)⟩
      · simp only [if_neg hneg] at h ⊢
        split at h
        · cases h
        · next hd =>
          obtain ⟨flags', hput, h⟩ := Option.bind_eq_some_iff.mp h
          obtain ⟨hr, ih⟩ := ih h
          refine ⟨hr.trans (List.suffix_cons d s), fun t => (if_neg hd).trans ?_⟩
          rw [hput]
          exact ih t

theorem local_flagGroup? (flags : Flags) : Local (flagGroup? flags) := by
  intro s move rest h
  obtain ⟨⟨inner, bare, c, r⟩, hflags, h⟩ := Option.bind_eq_some_iff.mp h
  obtain ⟨hr, hflags⟩ := flagsFrom?_append hflags
  simp only [flagGroup?, hflags, Option.bind_eq_bind, Option.bind_some]
  have hrest : Local fun r => if c = ':' then some (Move.group inner, r)
      else if bare then none else some (Move.switch inner, r) :=
    .ite _ (fun _ => .pure _) fun _ => .ite _ (fun _ => .none) fun _ => .pure _
  obtain ⟨hrest, hu⟩ := hrest r move rest h
  exact ⟨hrest.trans hr, hu⟩

theorem local_groupName? : Local groupName? := by
  intro s name rest h
  unfold groupName? at h ⊢
  cases hs : s.dropWhile (· != '>') with
  | nil =>
    rw [hs] at h
    cases h
  | cons c r =>
    have hsuffix : c :: r <:+ s := hs ▸ List.dropWhile_suffix _
    simp only [hs] at h
    simp only [dropWhile_append_cons hs, takeWhile_append_of_dropWhile hs]
    split at h
    · next hname =>
      cases h
      exact ⟨(List.suffix_cons c _).trans hsuffix, fun u => if_pos hname⟩
    · cases h

theorem local_namedGroup? : Local namedGroup? :=
  .bind (g := fun name r => some (Move.named name, r)) local_groupName? fun _ => .pure _

theorem local_specialGroup? (flags : Flags) : Local (specialGroup? flags) := by
  intro s move rest h
  fun_cases specialGroup? flags s with
  | case1 r =>
    obtain ⟨hr, hu⟩ := local_namedGroup? r move rest h
    exact ⟨hr.trans ⟨['P', '<'], rfl⟩, hu⟩
  | case2 r =>
    obtain ⟨hr, hu⟩ := local_namedGroup? r move rest h
    exact ⟨hr.trans (List.suffix_cons '<' r), hu⟩
  | case3 s hP hN =>
    rw [specialGroup?] at h
    · obtain ⟨hr, hu⟩ := local_flagGroup? flags s move rest h
      refine ⟨hr, fun u => ?_⟩
      cases s with
      | nil => cases h
      | cons c s =>
        rw [List.cons_append, specialGroup?]
        · exact hu u
        · rintro r h
          cases s with
          | nil => cases h
          | cons d s =>
            cases h
            exact hP s rfl
        · rintro r h
          cases h
          exact hN s rfl
    · exact hP
    · exact hN

/-- A question mark after an element may belong to it. -/
def Move.isOpenEnded : Move → Bool
  | .capture | .again _ _ _ => true
  | _ => false

/-- No question mark comes next once a closing parenthesis and more follow a text, though the text
ends here. It might, if the text ends in a comment. -/
def Guarded (x : Bool) (s u : List Char) : Prop :=
  skip x s = [] → (skip x (s ++ ')' :: u)).head? ≠ some '?'

theorem Guarded.of_not_ignoreSpace (s u : List Char) : Guarded false s u := by
  rintro (rfl : s = [])
  simp [skip]

/-- A reader of elements leaves an end of its text, and reads the same if a closing parenthesis and
more follow the text, unless they bring a question mark that belongs to the element. -/
def LocalMove (x : Bool) (f : List Char → Option (Move × List Char)) : Prop :=
  ∀ s move r, f s = some (move, r) → r <:+ s ∧
    ∀ u, (move.isOpenEnded = true → Guarded x r u) → f (s ++ ')' :: u) = some (move, r ++ ')' :: u)

theorem Local.move {f : List Char → Option (Move × List Char)} (hf : Local f) : LocalMove x f := by
  intro s move r h
  obtain ⟨hr, hf⟩ := hf s move r h
  exact ⟨hr, fun u _ => hf u⟩

theorem LocalMove.ite (p : Prop) [Decidable p] {f g : List Char → Option (Move × List Char)}
    (hf : LocalMove x f) (hg : LocalMove x g) : LocalMove x fun s => if p then f s else g s := by
  by_cases hp : p
  · simpa only [if_pos hp] using hf
  · simpa only [if_neg hp] using hg

theorem laziness_append (x : Bool) (s : List Char) :
    (laziness x s).2 <:+ s ∧ ∀ u, Guarded x (laziness x s).2 u →
      laziness x (s ++ ')' :: u) = ((laziness x s).1, (laziness x s).2 ++ ')' :: u) := by
  cases hs : skip x s with
  | nil =>
    have hl : laziness x s = (false, s) := by simp [laziness, hs]
    rw [hl]
    refine ⟨List.suffix_refl s, fun u hu => ?_⟩
    unfold laziness
    split
    · next r hq => exact absurd (by rw [hq]; rfl) (hu hs)
    · rfl
  | cons c r =>
    by_cases hc : c = '?'
    · subst hc
      simp only [laziness, hs, skip_append hs]
      exact ⟨suffix_of_skip hs, fun _ _ => trivial⟩
    · have hl : ∀ t, laziness x (s ++ t) = (false, s ++ t) := by
        intro t
        simp [laziness, skip_append hs, hc]
      have hs' := hl []
      rw [List.append_nil] at hs'
      rw [hs']
      exact ⟨List.suffix_refl s, fun u _ => hl _⟩

theorem localMove_repetition (x : Bool) (min : Nat) (max : Option Nat) :
    LocalMove x fun s => some (repetition x min max s) := by
  intro s move r h
  obtain ⟨hr, hu⟩ := laziness_append x s
  obtain ⟨rfl, rfl⟩ : .again min max (laziness x s).1 = move ∧ (laziness x s).2 = r := by
    simpa [repetition] using h
  refine ⟨hr, fun u hg => ?_⟩
  simp only [repetition, hu u (hg rfl)]

/-- White space and comments do not stand before the question mark of a repetition in one sign. -/
theorem localMove_sign (x : Bool) (min : Nat) (max : Option Nat) :
    LocalMove x fun s => some (repetition false min max s) := by
  intro s move r h
  obtain ⟨hr, hu⟩ := localMove_repetition false min max s move r h
  exact ⟨hr, fun u _ => hu u fun _ => .of_not_ignoreSpace r u⟩

theorem localMove_counted? (x : Bool) : LocalMove x (counted? x) := by
  intro s move r h
  obtain ⟨⟨⟨min, max⟩, rest⟩, hcounts, h⟩ := Option.bind_eq_some_iff.mp h
  obtain ⟨hrest, hcounts⟩ :=
    (local_counts? x).skip (by rw [counts?, decimal?_nil]; rfl) x s _ _ hcounts
  obtain ⟨hr, hu⟩ := localMove_repetition x min max rest move r h
  refine ⟨hr.trans hrest, fun u hg => ?_⟩
  have hcounts := hcounts u
  simp only at hcounts
  simp only [counted?, hcounts, Option.bind_eq_bind, Option.bind_some]
  exact hu u hg

theorem localMove_group? (flags : Flags) : LocalMove flags.ignoreSpace (group? flags) := by
  intro s move r h
  cases hs : skip flags.ignoreSpace s with
  | nil =>
    obtain ⟨rfl, rfl⟩ : .capture = move ∧ s = r := by simpa [group?, hs] using h
    refine ⟨List.suffix_refl s, fun u hu => ?_⟩
    unfold group?
    split
    · next r hq => exact absurd (by rw [hq]; rfl) (hu rfl hs)
    · rfl
  | cons c r' =>
    by_cases hc : c = '?'
    · subst hc
      obtain ⟨hr, hu⟩ := local_specialGroup? flags r' move r (by simpa only [group?, hs] using h)
      refine ⟨hr.trans (suffix_of_skip hs), fun u _ => ?_⟩
      simp only [group?, skip_append hs, hu u]
    · obtain ⟨rfl, rfl⟩ : .capture = move ∧ s = r := by simpa [group?, hs, hc] using h
      refine ⟨List.suffix_refl s, fun u _ => ?_⟩
      simp [group?, skip_append hs, hc]

theorem local_primitive? (flags : Flags) (p : Primitive) : Local (flags.primitive? p) := by
  intro s move r h
  obtain ⟨node, hnode, he⟩ := Option.map_eq_some_iff.mp h
  cases he
  refine ⟨List.suffix_refl s, fun u => ?_⟩
  rw [Flags.primitive?, hnode]
  rfl

theorem local_escaped? (flags : Flags) : Local flags.escaped? :=
  .bind (local_escape? flags.ignoreSpace) fun p => local_primitive? flags p

theorem local_oneOf? (flags : Flags) : Local flags.oneOf? :=
  .bind (g := fun (whole : Nested) r => some (Move.push (flags.oneOf whole.set) whole.depth, r))
    (local_bracketed? flags) fun _ => .pure _

/-- An element is read the same if a closing parenthesis and more follow the text. -/
theorem localMove_move? (flags : Flags) (c : Char) :
    LocalMove flags.ignoreSpace (flags.move? c) := by
  refine .ite _ (localMove_group? flags) ?_
  refine .ite _ (Local.pure _).move (.ite _ (Local.pure _).move ?_)
  refine .ite _ (local_oneOf? flags).move ?_
  refine .ite _ (localMove_sign _ 0 _) (.ite _ (localMove_sign _ 0 _) ?_)
  refine .ite _ (localMove_sign _ 1 _) (.ite _ (localMove_counted? _) ?_)
  refine .ite _ (local_escaped? flags).move (.ite _ (local_primitive? flags _).move ?_)
  refine .ite _ (local_primitive? flags _).move (.ite _ (local_primitive? flags _).move ?_)
  exact (local_primitive? flags _).move

end RowQuery.Regex
