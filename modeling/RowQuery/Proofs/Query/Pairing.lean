import RowQuery.Proofs.Query.Spelling

/-!
How the backslashes of a delimited token pair off.

* `Token.pieces`: a text cut from the left into pairs and single characters.
* `Token.Closes`: the delimiter that ends a text, by the pieces of the text alone.
* `Token.closes_iff`: a token between delimiters ends where its pieces say.
* `Token.unescape_eq`: a text without its escapes, by the same pieces.
* `Token.pieces_of_closes`: the text inside falls into the pieces that it falls into where it stands.
* `Token.Fence.exists_closing`: what each of the two tokens between delimiters reads as.

The written pattern of such a token lets a backslash stand for itself wherever it lets it start a pair, so it is
only the order in which a match tries them that says where the token ends.
-/
namespace RowQuery.Token

variable {c d x : Char} {s t body rest listed : List Char}

/-! ## Pieces -/

/-- A piece of a text: a backslash with the character that it goes with, or a character by itself. -/
inductive Piece where
  | pair (c : Char)
  | single (c : Char)
deriving DecidableEq, Repr

/-- The characters of a piece. -/
def Piece.written : Piece → List Char
  | .pair c => ['\\', c]
  | .single c => [c]

/-- What a piece stands for. The backslash of a pair is dropped before the characters listed. -/
def Piece.meaning (listed : List Char) : Piece → List Char
  | .pair c => if listed.contains c then [c] else ['\\', c]
  | .single c => [c]

/-- A text cut from the left into pieces. A backslash goes with a delimiter or a backslash right after it. -/
def pieces (d : Char) : List Char → List Piece
  | [] => []
  | [c] => [.single c]
  | c :: x :: r =>
    if c = '\\' ∧ (x = d ∨ x = '\\') then .pair x :: pieces d r else .single c :: pieces d (x :: r)

/-- The characters of some pieces. -/
def written (ps : List Piece) : List Char := ps.flatMap Piece.written

@[simp] theorem written_nil : written [] = [] := rfl

@[simp] theorem written_pair (c : Char) (ps : List Piece) : written (.pair c :: ps) = '\\' :: c :: written ps := rfl

@[simp] theorem written_single (c : Char) (ps : List Piece) : written (.single c :: ps) = c :: written ps := rfl

@[simp] theorem written_append (ps qs : List Piece) : written (ps ++ qs) = written ps ++ written qs :=
  List.flatMap_append

theorem pieces_pair (hx : x = d ∨ x = '\\') (r : List Char) :
    pieces d ('\\' :: x :: r) = .pair x :: pieces d r := by
  rw [pieces, if_pos ⟨rfl, hx⟩]

/-- A character is a piece by itself, unless it is a backslash with something after it to go with. -/
theorem pieces_single (hp : ¬(c = '\\' ∧ ∃ y ∈ s.head?, y = d ∨ y = '\\')) :
    pieces d (c :: s) = .single c :: pieces d s := by
  cases s with
  | nil => rfl
  | cons y s => exact if_neg fun hy => hp ⟨hy.1, y, rfl, hy.2⟩

/-- Cutting a text loses nothing. -/
@[simp] theorem written_pieces (d : Char) (s : List Char) : written (pieces d s) = s := by
  fun_induction pieces d s with
  | case1 => rfl
  | case2 c => rfl
  | case3 c x r hp ih => rw [written_pair, ih, hp.1]
  | case4 c x r hp ih => rw [written_single, ih]

/-- What the first piece of a text tells of the text. -/
theorem pieces_eq_cons {p : Piece} {ps : List Piece} (h : pieces d s = p :: ps) :
    (∃ x r, p = .pair x ∧ s = '\\' :: x :: r ∧ (x = d ∨ x = '\\') ∧ pieces d r = ps) ∨
      ∃ c r, p = .single c ∧ s = c :: r ∧ ¬(c = '\\' ∧ ∃ y ∈ r.head?, y = d ∨ y = '\\') ∧ pieces d r = ps := by
  unfold pieces at h
  split at h
  · cases h
  · next c =>
    cases h
    exact .inr ⟨c, [], rfl, rfl, by simp, rfl⟩
  · next c x r =>
    split at h
    · next hp =>
      obtain ⟨rfl, hx⟩ := hp
      cases h
      exact .inl ⟨x, r, rfl, rfl, hx, rfl⟩
    · next hp =>
      cases h
      exact .inr ⟨c, x :: r, rfl, rfl, by simpa using hp, rfl⟩

/-- Pieces at the front of a text are its pieces too where another text follows that begins in the same way. -/
theorem pieces_written_append {ps qs : List Piece} (h : pieces d s = ps ++ qs)
    (ht : ∀ y ∈ t.head?, y ∈ (written qs).head?) : pieces d (written ps ++ t) = ps ++ pieces d t := by
  induction ps generalizing s with
  | nil => rfl
  | cons p ps ih =>
    rw [List.cons_append] at h
    rcases pieces_eq_cons h with ⟨x, r, rfl, -, hx, hr⟩ | ⟨c, r, rfl, -, hc, hr⟩
    · rw [written_pair, List.cons_append, List.cons_append, pieces_pair hx, ih hr]
      rfl
    · -- What comes behind `c` begins as it did before, so `c` stays by itself.
      have hhead : ∀ y ∈ (written ps ++ t).head?, y ∈ r.head? := by
        intro y hy
        rw [← written_pieces d r, hr, written_append, List.head?_append]
        rw [List.head?_append] at hy
        cases hps : (written ps).head? with
        | none =>
          rw [hps] at hy
          exact ht y hy
        | some z =>
          rw [hps] at hy
          exact hy
      have hpair : ¬(c = '\\' ∧ ∃ y ∈ (written ps ++ t).head?, y = d ∨ y = '\\') := by
        rintro ⟨hb, y, hy, hyd⟩
        exact hc ⟨hb, y, hhead y hy, hyd⟩
      rw [written_single, List.cons_append, pieces_single hpair, ih hr]
      rfl

/-! ## Where a token ends -/

/-- How a delimiter closes a text, with the text inside and what is left: the first delimiter outside a pair does,
or the last of all if each stands in a pair, and without one nothing does. -/
inductive Closes (d : Char) (s : List Char) : Option (List Char × List Char) → Prop
  | outside {ps qs : List Piece} (hs : pieces d s = ps ++ .single d :: qs) (hps : .single d ∉ ps) :
      Closes d s (some (written ps, written qs))
  | last {body rest : List Char} (hpairs : .single d ∉ pieces d s) (hs : s = body ++ d :: rest)
      (hrest : d ∉ rest) : Closes d s (some (body, rest))
  | never (hs : d ∉ s) : Closes d s none

/-- Every text is closed somewhere or nowhere. -/
theorem exists_closes (d : Char) (s : List Char) : ∃ answer, Closes d s answer := by
  by_cases hsingle : .single d ∈ pieces d s
  · obtain ⟨ps, qs, hs, hps⟩ := List.eq_append_cons_of_mem hsingle
    exact ⟨_, .outside hs hps⟩
  · by_cases hmem : d ∈ s
    · obtain ⟨back, front, hs, hback⟩ := List.eq_append_cons_of_mem (List.mem_reverse.mpr hmem)
      refine ⟨some (front.reverse, back.reverse), .last hsingle ?_ (mt List.mem_reverse.mp hback)⟩
      rw [← List.reverse_reverse s, hs]
      simp
    · exact ⟨none, .never hmem⟩

theorem inner_of_not_mem (h : d ∉ s) : inner d s = none := by
  cases hin : inner d s with
  | none => rfl
  | some body =>
    obtain ⟨r, rfl⟩ := eq_of_inner hin
    exact absurd (List.mem_append_right body List.mem_cons_self) h

/-- Pieces that are no delimiters are read one by one, if there is an end behind them. -/
theorem inner_of_pieces (hd : d ≠ '\\') {ps qs : List Piece} (hs : pieces d s = ps ++ qs) (hps : .single d ∉ ps)
    (hin : inner d (written qs) = some body) : inner d s = some (written ps ++ body) := by
  induction ps generalizing s with
  | nil =>
    rw [List.nil_append] at hs
    rwa [← hs, written_pieces] at hin
  | cons p ps ih =>
    rw [List.cons_append] at hs
    obtain ⟨hp, hrest⟩ := not_or.mp (mt List.mem_cons.mpr hps)
    rcases pieces_eq_cons hs with ⟨x, r, rfl, rfl, hx, hr⟩ | ⟨c, r, rfl, rfl, hc, hr⟩
    · exact inner_pair hd hx (ih hr hrest)
    · rw [inner_cons_of_unpaired (fun h => hp (by rw [h])) hc, ih hr hrest]
      rfl

theorem inner_of_outside (hd : d ≠ '\\') {ps qs : List Piece} (hs : pieces d s = ps ++ .single d :: qs)
    (hps : .single d ∉ ps) : inner d s = some (written ps) := by
  have hin : inner d (written (.single d :: qs)) = some [] := inner_cons_self d _
  rw [inner_of_pieces hd hs hps hin, List.append_nil]

/-- Where every delimiter is in a pair, what stands before one of them ends with the backslash of its pair. -/
theorem exists_pair (hd : d ≠ '\\') (hs : s = body ++ d :: rest) (hpairs : .single d ∉ pieces d s) :
    ∃ ps qs, pieces d s = ps ++ .pair d :: qs ∧ body = written ps ++ ['\\'] ∧ rest = written qs := by
  fun_induction pieces d s generalizing body with
  | case1 => simp at hs
  | case2 c =>
    rcases List.cons_eq_append_iff.mp hs with ⟨-, hc⟩ | ⟨body, -, hr⟩
    · cases hc
      exact absurd (List.mem_singleton_self _) hpairs
    · simp at hr
  | case3 c x r hp ih =>
    rcases List.cons_eq_append_iff.mp hs with ⟨-, hc⟩ | ⟨body, rfl, hxr⟩
    · exact absurd ((List.cons.inj hc).1.trans hp.1) hd
    · rcases List.cons_eq_append_iff.mp hxr with ⟨rfl, hc⟩ | ⟨body, rfl, hr⟩
      · cases hc
        exact ⟨[], _, rfl, by rw [hp.1]; rfl, (written_pieces _ _).symm⟩
      · obtain ⟨ps, qs, hps, rfl, hqs⟩ := ih hr fun h => hpairs (List.mem_cons_of_mem _ h)
        exact ⟨.pair x :: ps, qs, by rw [hps]; rfl, by rw [hp.1]; rfl, hqs⟩
  | case4 c x r hp ih =>
    rcases List.cons_eq_append_iff.mp hs with ⟨-, hc⟩ | ⟨body, rfl, hr⟩
    · exact absurd (by rw [(List.cons.inj hc).1]; exact List.mem_cons_self) hpairs
    · obtain ⟨ps, qs, hps, rfl, hqs⟩ := ih hr fun h => hpairs (List.mem_cons_of_mem _ h)
      exact ⟨.single c :: ps, qs, by rw [hps]; rfl, rfl, hqs⟩

/-- If every delimiter is in a pair, then the last pair with one is broken up. -/
theorem inner_of_last (hd : d ≠ '\\') (hs : s = body ++ d :: rest) (hpairs : .single d ∉ pieces d s)
    (hrest : d ∉ rest) : inner d s = some body := by
  obtain ⟨ps, qs, hps, rfl, rfl⟩ := exists_pair hd hs hpairs
  -- No delimiter comes behind this pair, so its backslash is left to itself.
  have hin : inner d (written (.pair d :: qs)) = some ['\\'] := by
    rw [written_pair, inner, if_neg hd.symm, if_pos ⟨rfl, .inl rfl⟩, inner_of_not_mem hrest, inner_cons_self]
    rfl
  refine inner_of_pieces hd hps (fun h => hpairs ?_) hin
  rw [hps]
  exact List.mem_append_left _ h

/-- A delimited token ends where the pieces behind its first delimiter say, and nowhere else. -/
theorem closes_iff (hd : d ≠ '\\') {answer : Option (List Char × List Char)} :
    Closes d s answer ↔ delimited? d (d :: s) = answer := by
  have hforth : ∀ {answer}, Closes d s answer → delimited? d (d :: s) = answer := by
    intro answer h
    rw [delimited?, if_pos rfl]
    cases h with
    | @outside ps qs hs hps =>
      have hwritten : s = written ps ++ d :: written qs := by
        rw [← written_pieces d s, hs, written_append, written_single]
      rw [inner_of_outside hd hs hps, hwritten]
      simp
    | last hpairs hs hrest =>
      rw [inner_of_last hd hs hpairs hrest, hs]
      simp
    | never hs =>
      rw [inner_of_not_mem hs]
      rfl
  constructor
  · exact hforth
  · rintro rfl
    obtain ⟨answer, h⟩ := exists_closes d s
    rw [hforth h]
    exact h

/-! ## Texts without escapes -/

/-- Dropping escapes is dropping the backslashes of pairs, if only the characters of pairs are escaped. -/
theorem unescape_eq (hlisted : ∀ c ∈ listed, c = d ∨ c = '\\') (s : List Char) :
    unescape listed s = (pieces d s).flatMap (Piece.meaning listed) := by
  fun_induction unescape listed s with
  | case1 => rfl
  | case2 c => rfl
  | case3 x r hx ih =>
    rw [pieces_pair (hlisted x (by simpa using hx)), List.flatMap_cons, Piece.meaning, if_pos hx, ih]
    rfl
  | case4 x r hx ih =>
    by_cases hpair : x = d ∨ x = '\\'
    · rw [pieces_pair hpair, List.flatMap_cons, Piece.meaning, if_neg hx, ih]
      rfl
    · -- Both characters are kept, as one pair by the one reading and as two pieces by the other.
      have hback : x ≠ '\\' := fun h => hpair (.inr h)
      rw [pieces_single (by simpa using hpair), pieces_single fun h => hback h.1, ih]
      rfl
  | case5 c x r hc ih =>
    rw [pieces_single fun h => hc h.1, ih]
    rfl

/-- The text inside falls into the pieces that it falls into where it stands: those before the delimiter, or
those before the last pair with a delimiter, of which the backslash alone is left. -/
theorem pieces_of_closes (hd : d ≠ '\\') (h : Closes d s (some (body, rest))) :
    (∃ qs, pieces d s = pieces d body ++ .single d :: qs) ∨
      ∃ ps qs, pieces d s = ps ++ .pair d :: qs ∧ pieces d body = ps ++ [.single '\\'] := by
  cases h with
  | @outside ps qs hs hps =>
    have hbody : pieces d (written ps) = ps := by
      have happend := pieces_written_append (t := []) hs (by simp)
      simpa [pieces] using happend
    exact .inl ⟨qs, by rw [hbody, hs]⟩
  | last hpairs hs hrest =>
    obtain ⟨ps, qs, hps, rfl, -⟩ := exists_pair hd hs hpairs
    exact .inr ⟨ps, qs, hps, pieces_written_append (t := ['\\']) hps (by simp)⟩

/-! ## The two tokens -/

/-- The tokens between delimiters. -/
inductive Fence where
  | quote
  | regex
deriving DecidableEq, Repr

namespace Fence

/-- The character at both ends of the token. -/
def mark : Fence → Char
  | quote => '"'
  | regex => '/'

/-- The parser of the token, whose value is the text inside as written. -/
def token : Fence → Parser String
  | quote => bodyParser quotePattern Token.quote
  | regex => bodyParser regexPattern Token.regex

/-- The kind of the patterns that are written as the token. -/
def kind : Fence → PatternKind
  | quote => .quote
  | regex => .regex

/-- The characters before which the backslash of a pair is dropped. -/
def escapable : Fence → List Char
  | quote => ['"', '\\']
  | regex => ['/']

/-- What the text inside stands for, by its pieces. -/
def meaning (fence : Fence) (body : List Char) : String :=
  String.ofList ((pieces fence.mark body).flatMap (Piece.meaning fence.escapable))

theorem mark_ne (fence : Fence) : fence.mark ≠ '\\' := by
  cases fence <;> decide

theorem eq_mark_or_of_mem_escapable (fence : Fence) : ∀ c ∈ fence.escapable, c = fence.mark ∨ c = '\\' := by
  cases fence <;> simp [escapable, mark]

theorem computes_token (fence : Fence) : fence.token.Computes ((delimited? fence.mark).map String.ofList) := by
  cases fence with
  | quote => exact .capture regexMatch_quote
  | regex => exact .capture regexMatch_regex

/-- A pattern that begins with a delimiter is the token of that delimiter. -/
theorem scanPattern_mark (fence : Fence) (s : List Char) :
    Grammar.scanPattern (fence.mark :: s) = (delimited? fence.mark (fence.mark :: s)).map fun (body, rest) =>
      ((fence.kind, String.ofList (unescape fence.escapable body)), Text.trimStart rest) := by
  rw [Grammar.scanPattern_eq, Scan.trim, Text.trimStart_cons_ink (by cases fence <;> decide)]
  cases fence with
  | quote => simp [Grammar.pattern?, mark, kind, escapable, unescapeQuote, Function.comp_def]
  | regex => simp [Grammar.pattern?, mark, kind, escapable, unescapeRegex, Function.comp_def]

theorem ofList_unescape (fence : Fence) (body : List Char) :
    String.ofList (unescape fence.escapable body) = fence.meaning body := by
  rw [unescape_eq fence.eq_mark_or_of_mem_escapable, meaning]

/-- A quote with its quotation marks and backslashes escaped reads as its text. -/
theorem scanPattern_escaped (text : String) (behind : List Char) :
    Grammar.scanPattern ('"' :: (escaped ['"', '\\'] text.toList ++ '"' :: behind)) =
      some ((.quote, text), Text.trimStart behind) := by
  rw [show '"' = quote.mark from rfl, scanPattern_mark, delimited?, if_pos rfl]
  simp [mark, kind, escapable, inner_escaped_quote, unescape_escaped_quote]

/-- What a text reads as that begins with a delimiter. One delimiter closes it at most, and that is where the
token ends: its value is the text inside as written, and the pattern made of it is what the pieces of that text
stand for. These pieces are those that stand there, up to the backslash of a pair that is broken up. A quote read
in this way, written again with its quotation marks and backslashes escaped, reads as the same text, whatever
stands behind it. -/
theorem exists_closing (fence : Fence) (s : List Char) : ∃ answer,
    (∀ other, Closes fence.mark s other ↔ other = answer) ∧
    (∀ diagnostics, (fence.token.run diagnostics (fence.mark :: s)).outcome =
      .ok (.ofOption (answer.map fun (body, rest) => (String.ofList body, rest)))) ∧
    (∀ diagnostics, (Grammar.pattern.run diagnostics (fence.mark :: s)).outcome =
      .ok (.ofOption (answer.map fun (body, rest) =>
        ((fence.kind, fence.meaning body), Text.trimStart rest)))) ∧
    (∀ body rest, answer = some (body, rest) →
      (∃ qs, pieces fence.mark s = pieces fence.mark body ++ .single fence.mark :: qs) ∨
        ∃ ps qs, pieces fence.mark s = ps ++ .pair fence.mark :: qs ∧
          pieces fence.mark body = ps ++ [.single '\\']) ∧
    ∀ diagnostics text rest,
      (Grammar.pattern.run diagnostics (fence.mark :: s)).outcome = .ok (.found (.quote, text) rest) →
        ∀ behind, (Grammar.pattern.run diagnostics
            ('"' :: (escaped ['"', '\\'] text.toList ++ '"' :: behind))).outcome =
          .ok (.found (.quote, text) (Text.trimStart behind)) := by
  have hcloses : ∀ other, Closes fence.mark s other ↔ other = delimited? fence.mark (fence.mark :: s) :=
    fun other => (closes_iff fence.mark_ne).trans eq_comm
  refine ⟨delimited? fence.mark (fence.mark :: s), hcloses, fun diagnostics => ?_, fun diagnostics => ?_,
    fun body rest h => ?_, fun diagnostics text rest _ behind => ?_⟩
  · exact fence.computes_token diagnostics _
  · rw [Grammar.computes_pattern diagnostics, scanPattern_mark]
    simp only [ofList_unescape]
  · exact pieces_of_closes fence.mark_ne ((hcloses _).mpr h.symm)
  · rw [Grammar.computes_pattern diagnostics, scanPattern_escaped]
    rfl

/-- The only quotation mark behind the first is in a pair, which is broken up. -/
example : delimited? '"' ['"', '\\', '\\', '\\', '"', 'a'] = some (['\\', '\\', '\\'], ['a']) ∧
    quote.meaning ['\\', '\\', '\\'] = "\\\\" := by decide

end Fence

end RowQuery.Token
