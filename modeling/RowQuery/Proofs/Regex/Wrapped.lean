import RowQuery.Proofs.Regex.Firm
import RowQuery.Proofs.Regex.Joining

/-!
What is known of a pattern when the pattern in a group of its own can be read.

* `Pattern.Stray`: a closing parenthesis of a pattern that closes no group of the pattern.
* `Reads.exists_exit`: where a group is left, the pattern in it comes to a closing parenthesis.
* `Reads.back`: what is read of a pattern with a parenthesis behind it is read of the pattern.
* `wellFormed_or_stray`: a pattern in a group that can be read is well formed, or it has a parenthesis that
  closes the group before its end.
-/
namespace RowQuery.Regex

variable {n : Nat} {c : Char} {p s t r : List Char} {reader next last base a : Reader}

/-- The reader of a pattern comes to a closing parenthesis while no group of the pattern is open. -/
def Pattern.Stray (p : List Char) : Prop :=
  ∃ n reader s r, Reads n .start p reader s ∧ reader.opened = [] ∧
    skip reader.level.flags.ignoreSpace s = ')' :: r

theorem Reads.suffix (h : Reads n reader s last t) : t <:+ s := by
  induction h with
  | refl => exact List.suffix_refl _
  | step hs hstep _ ih =>
    exact ih.trans ((suffix_of_step? hstep).trans (suffix_of_skip hs))

theorem step?_parenthesis (ho : reader.opened = []) (r : List Char) : reader.step? ')' r = none := by
  simp [Reader.step?, Flags.move?, Reader.follow?, Reader.closeGroup?, ho]

/-- A pattern with such a parenthesis is not well formed. -/
theorem Pattern.Stray.not_wellFormed (h : Pattern.Stray p) : ¬Pattern.WellFormed p := by
  obtain ⟨n, reader, s, r, hreads, ho, hs⟩ := h
  rw [Pattern.WellFormed, Pattern.read?, hreads.close?_eq, Reader.close?, finish?_of_skip_cons hs,
    step?_parenthesis ho]
  simp

/-! ## Groups that are left -/

/-- A reader of elements reads no end of a group. -/
def ReadsNoEnd (f : List Char → Option (Move × List Char)) : Prop :=
  ∀ s r, f s ≠ some (.close, r)

namespace ReadsNoEnd

theorem ite (p : Prop) [Decidable p] {f g : List Char → Option (Move × List Char)} (hf : p → ReadsNoEnd f)
    (hg : ReadsNoEnd g) : ReadsNoEnd fun s => if p then f s else g s := by
  by_cases hp : p
  · simpa only [if_pos hp] using hf hp
  · simpa only [if_neg hp] using hg

/-- What goes on to something other than the end of a group is none. -/
theorem bind {α : Type} {f : List Char → Option α} {g : α → Option (Move × List Char)}
    (hg : ∀ a r, g a ≠ some (.close, r)) : ReadsNoEnd fun s => (f s).bind g := by
  intro s r h
  obtain ⟨a, -, ha⟩ := Option.bind_eq_some_iff.mp h
  exact hg a r ha

theorem flagGroup? (flags : Flags) : ReadsNoEnd (flagGroup? flags) := by
  refine .bind fun _ r h => ?_
  simp only at h
  split at h
  · cases h
  · split at h <;> cases h

theorem group? (flags : Flags) : ReadsNoEnd (group? flags) := by
  have hnamed : ReadsNoEnd namedGroup? := .bind fun _ r h => by cases h
  intro s r h
  unfold Regex.group? specialGroup? at h
  split at h
  · split at h
    · exact hnamed _ _ h
    · exact hnamed _ _ h
    · exact flagGroup? flags _ _ h
  · cases h

theorem primitive? (flags : Flags) (p : Primitive) : ReadsNoEnd (flags.primitive? p) := by
  intro s r h
  obtain ⟨node, -, h⟩ := Option.map_eq_some_iff.mp h
  cases h

theorem move? (flags : Flags) (hc : c ≠ ')') : ReadsNoEnd (flags.move? c) := by
  have hagain (x : Bool) (min : Nat) (max : Option Nat) :
      ReadsNoEnd fun s => some (repetition x min max s) := fun s r h => by cases h
  refine .ite _ (fun _ => group? flags) (.ite _ (fun h => absurd h hc) ?_)
  refine .ite _ (fun _ s r h => by cases h) (.ite _ (fun _ => .bind fun _ r h => by cases h) ?_)
  refine .ite _ (fun _ => hagain _ _ _) (.ite _ (fun _ => hagain _ _ _) (.ite _ (fun _ => hagain _ _ _) ?_))
  refine .ite _ (fun _ => .bind fun _ r h => by cases h) ?_
  refine .ite _ (fun _ => .bind fun p r => primitive? flags p.1 p.2 r) ?_
  refine .ite _ (fun _ => primitive? flags _) (.ite _ (fun _ => primitive? flags _) ?_)
  exact .ite _ (fun _ => primitive? flags _) (primitive? flags _)

end ReadsNoEnd

/-- Only a closing parenthesis ends a group. -/
theorem eq_parenthesis_of_close {flags : Flags} (h : flags.move? c s = some (.close, r)) : c = ')' :=
  Decidable.byContradiction fun hc => ReadsNoEnd.move? flags hc s r h

/-- What can be done in a group can be done in its pattern, but for the end of the group itself. -/
theorem isSome_follow?_of_within {move : Move} (h : (base.within a).follow? move = some next)
    (hclose : move = .close → a.opened ≠ []) : (a.follow? move).isSome = true := by
  cases move with
  | named name =>
    simp only [Reader.follow?, Reader.openNamed?] at h ⊢
    split at h
    · cases h
    · next hname =>
      have hname' : ¬a.names.contains name = true := by
        rw [List.contains_iff_mem] at hname ⊢
        exact fun hmem => hname (List.mem_append_left _ hmem)
      rw [if_neg hname']
      rfl
  | close =>
    obtain ⟨opening, opened, ho⟩ := List.exists_cons_of_ne_nil (hclose rfl)
    simp [Reader.follow?, Reader.closeGroup?, ho]
  | again min max lazy =>
    simp only [Reader.follow?, Reader.repeatLast?, Reader.within, Level.shift] at h ⊢
    cases hitems : a.level.items with
    | nil =>
      rw [hitems] at h
      cases h
    | cons item items =>
      simp only [hitems, List.map_cons] at h ⊢
      split at h
      · next hr =>
        rw [if_pos (show item.repeatable = true from hr)]
        rfl
      · cases h
  | _ => rfl

/-- Where a group is left, the pattern in it comes to a closing parenthesis while none of its own groups is
open. -/
theorem Reads.exists_exit (h : Reads n (base.within a) s last t) (hd : a.names.Disjoint base.names)
    (hlast : last.opened.length ≤ base.opened.length) :
    ∃ m exit s' r, Reads m a s exit s' ∧ exit.opened = [] ∧
      skip exit.level.flags.ignoreSpace s' = ')' :: r := by
  -- Each step in the group is one of the pattern, until the group itself ends.
  generalize hreader : base.within a = reader at h
  induction h generalizing a with
  | refl =>
    subst hreader
    simp only [Reader.within, List.length_append, List.length_map, List.length_cons] at hlast
    omega
  | @step n reader next last s r s₁ s' c hskip hstep hrest ih =>
    subst hreader
    obtain ⟨move, hmove, hfollow⟩ := step?_eq_some_iff.mp hstep
    by_cases hclose : move = .close ∧ a.opened = []
    · obtain ⟨rfl, ho⟩ := hclose
      obtain rfl := eq_parenthesis_of_close hmove
      exact ⟨0, a, s, r, .refl, ho, hskip⟩
    · have hsome := isSome_follow?_of_within hfollow fun hm ho => hclose ⟨hm, ho⟩
      obtain ⟨a', ha⟩ := Option.isSome_iff_exists.mp hsome
      rcases follow?_within (plain_of_move? _ c r move s₁ hmove) ha hd with ⟨hd', hb⟩ | ⟨-, hb⟩
      · cases hb.symm.trans hfollow
        obtain ⟨m, exit, s'', r', hreads, ho, hs⟩ := ih hd' hlast rfl
        exact ⟨m + 1, exit, s'', r', .step hskip (step?_eq_some_iff.mpr ⟨move, hmove, ha⟩) hreads, ho, hs⟩
      · cases hb.symm.trans hfollow

/-! ## Patterns with a parenthesis behind them -/

/-- There is no count in a brace in which nothing but a parenthesis stands. -/
theorem counted?_eq_none {x : Bool} (h : skip x s = [] ∨ skip x s = [')']) : counted? x s = none := by
  have hnone : decimal? x [')'] = none := by cases x <;> rfl
  rcases h with h | h <;> simp [counted?, counts?, h, hnone, decimal?_nil]

theorem skip_brace (x : Bool) (s : List Char) : skip x ('\x7b' :: s) = '\x7b' :: s := by
  cases x <;> rfl

/-- Behind the boundary of a word, a brace with nothing in it cannot be read. -/
theorem step?_dangling {r : List Char} (h : Dangling reader.level.flags.ignoreSpace s)
    (hs : skip reader.level.flags.ignoreSpace s = c :: r) : reader.step? c r = none := by
  obtain ⟨w, rfl, hw⟩ := h
  rw [skip_brace] at hs
  cases hs
  simp [Reader.step?, Flags.move?, counted?_eq_none hw]

/-- What is read of a pattern with a parenthesis behind it, up to a parenthesis, is read of the pattern. -/
theorem Reads.back (h : Reads n reader (s ++ [')']) last (t ++ [')']))
    (hend : (skip last.level.flags.ignoreSpace (t ++ [')'])).head? = some ')') : Reads n reader s last t := by
  -- Each element leaves the parenthesis, as it is left in the end, so it is read the same without it.
  generalize hs : s ++ [')'] = u at h
  generalize ht : t ++ [')'] = v at h
  induction h generalizing s with
  | refl =>
    obtain rfl : s = t := List.append_cancel_right (hs.trans ht.symm)
    exact .refl
  | @step n reader next last _ r s₁ _ c hskip hstep hrest ih =>
    subst hs ht
    have hne : s₁ ≠ [] := by
      rintro rfl
      have := hrest.suffix.length_le
      simp at this
    obtain ⟨move, hmove, hfollow⟩ := step?_eq_some_iff.mp hstep
    obtain ⟨r', hskip', rfl⟩ : ∃ r', skip reader.level.flags.ignoreSpace s = c :: r' ∧ r = r' ++ [')'] := by
      rcases skip_append_parenthesis reader.level.flags.ignoreSpace s with heq | ⟨-, hnil⟩
      · rw [hskip] at heq
        cases hs : skip reader.level.flags.ignoreSpace s with
        | nil =>
          rw [hs] at heq
          cases heq
          exact absurd (List.suffix_nil.mp (suffix_of_step? hstep)) hne
        | cons d r' =>
          rw [hs] at heq
          cases heq
          exact ⟨r', rfl, rfl⟩
      · cases hskip.symm.trans hnil
    rcases move?_back hmove with (rfl | ⟨⟨node, depth, rfl⟩, hloose⟩) | ⟨s', rfl, hback⟩
    · exact absurd rfl hne
    · cases hfollow
      replace hloose : Dangling (reader.push node depth).level.flags.ignoreSpace s₁ := hloose
      cases hrest with
      | refl =>
        obtain ⟨w, hw, -⟩ := hloose
        rw [hw, skip_brace] at hend
        cases hend
      | step hskip' hstep' _ => cases (step?_dangling hloose hskip').symm.trans hstep'
    · exact .step hskip' (step?_eq_some_iff.mpr ⟨move, hback, hfollow⟩) (ih hend rfl rfl)

/-- A pattern in a group that can be read is well formed and does not end in a comment, or it has a parenthesis
that closes the group before its end. -/
theorem wellFormed_or_stray (hf : base.level.flags = .default)
    (h : (base.close? (grouped p)).isSome = true) :
    Pattern.Stray p ∨ Pattern.WellFormed p ∧ ¬Pattern.WellFormed (p ++ [')']) := by
  have hopen : base.close? (grouped p) = (base.within .start).close? (p ++ [')']) := by
    rw [Reader.within_start]
    exact (Reads.openGroup hf (p ++ [')'])).close?_eq
  obtain ⟨last, hlast⟩ := Option.isSome_iff_exists.mp h
  rw [hopen] at hlast
  obtain ⟨hfinish, hopened⟩ := close?_eq_some_iff.mp hlast
  obtain ⟨n, s, hreads, -⟩ := reads_of_finish? hfinish
  have hd : Reader.start.names.Disjoint base.names := List.disjoint_nil_left _
  obtain ⟨m, exit, s', r, hin, hexit, hskip⟩ := hreads.exists_exit hd (by rw [hopened]; simp)
  obtain ⟨t, rfl⟩ : ∃ t, s' = t ++ [')'] := by
    rcases List.suffix_concat_iff.mp hin.suffix with rfl | ⟨t, rfl, -⟩
    · have hnil : skip exit.level.flags.ignoreSpace [] = [] := by cases exit.level.flags.ignoreSpace <;> rfl
      cases hskip.symm.trans hnil
    · exact ⟨t, rfl⟩
  have hback : Reads m .start p exit t := hin.back (by rw [hskip]; rfl)
  cases ht : skip exit.level.flags.ignoreSpace t with
  | cons c r' =>
    rw [skip_append ht] at hskip
    cases hskip
    exact .inl ⟨m, exit, t, r', hback, hexit, ht⟩
  | nil =>
    refine .inr ⟨?_, ?_⟩
    · rw [Pattern.WellFormed, Pattern.read?, hback.close?_eq, Reader.close?, finish?_of_skip_nil ht]
      simp [Option.filter, hexit]
    · exact Pattern.Stray.not_wellFormed ⟨m, exit, t ++ [')'], r, hin, hexit, hskip⟩

/-! ## Patterns behind the mark of the start -/

/-- The reader behind the mark of the start. -/
def Reader.marked : Reader := Reader.start.push (.look .textStart) 0

theorem Reader.marked_flags : Reader.marked.level.flags = .default := rfl

theorem read?_marked (p : List Char) : Pattern.read? ('^' :: grouped p) = Reader.marked.close? (grouped p) := by
  have hmark : Reads 1 .start ('^' :: grouped p) .marked (grouped p) := .one rfl rfl
  rw [Pattern.read?, hmark.close?_eq]

/-- A pattern in a group behind the mark of the start is read as the mark and the pattern, if it is well formed
and does not end in a comment. -/
theorem exists_read?_marked (hp : Pattern.WellFormed p) (hc : ¬Pattern.WellFormed (p ++ [')'])) :
    ∃ last, AfterGroup .marked p last ∧ Pattern.read? ('^' :: grouped p) = some last := by
  rcases close?_grouped Reader.marked_flags hp hc [] with ⟨-, last, hlast, hread⟩ | ⟨hclash, -⟩
  · rw [List.append_nil, close?_nil hlast.flags hlast.opened] at hread
    exact ⟨last, hlast, (read?_marked p).trans hread⟩
  · exact absurd (List.disjoint_nil_right _) hclash

/-- A pattern without such a parenthesis that stands for an expression in a group behind the mark of the start
stands for one by itself, and the expression begins with the mark. -/
theorem of_parse?_marked {node : Node} (h : Pattern.parse? ('^' :: grouped p) = some node)
    (hs : ¬Pattern.Stray p) :
    (Pattern.parse? p).isSome = true ∧ ∃ inner, node = .sequence [.look .textStart, inner] := by
  obtain ⟨hwf, hdepth⟩ := (isSome_parse?_iff ('^' :: grouped p)).mp (by rw [h]; rfl)
  rw [Pattern.WellFormed, read?_marked] at hwf
  obtain ⟨hp, hc⟩ := (wellFormed_or_stray Reader.marked_flags hwf).resolve_left hs
  obtain ⟨last, hlast, hread⟩ := exists_read?_marked hp hc
  have hvalue : last.level.value = .ofItems
      [⟨(Pattern.node p).shift 0, Pattern.depth p + 1, true⟩, ⟨.look .textStart, 0, true⟩] := by
    rw [hlast.level]
    rfl
  rw [Pattern.depth, hread, Option.elim_some, hvalue, Measured.depth_ofItems_le_iff (by simp)] at hdepth
  refine ⟨(isSome_parse?_iff p).mpr ⟨hp, ?_⟩, (Pattern.node p).shift 0, ?_⟩
  · have := hdepth _ List.mem_cons_self
    simp only at this
    omega
  · rw [eq_node_of_parse? h, Pattern.node, hread, Option.elim_some, hvalue]
    rfl

end RowQuery.Regex
