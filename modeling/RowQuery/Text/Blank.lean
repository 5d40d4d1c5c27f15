/-!
White space and the lines of a text.

* `isBlank`: the characters that count as white space.
* `trimStart`, `trimEnd`, `trim`: a text without white space at its ends.
* `lines`: a text cut at its line ends.

Texts are lists of characters here; `String` appears at the edges of the library.
-/
namespace RowQuery.Text

/-- White space is the Unicode property `White_Space`. Zero-width spaces and byte order marks do
not have it. -/
def isBlank (c : Char) : Bool :=
  let n := c.toNat
  n == 0x20 || (0x09 ≤ n && n ≤ 0x0d) || n == 0x85 || n == 0xa0 || n == 0x1680 ||
    (0x2000 ≤ n && n ≤ 0x200a) || n == 0x2028 || n == 0x2029 || n == 0x202f || n == 0x205f ||
    n == 0x3000

/-- White space of the basic kind is white space here too. -/
theorem isBlank_of_isWhitespace {c : Char} (h : c.isWhitespace = true) : isBlank c = true := by
  simp only [Char.isWhitespace, Bool.or_eq_true, decide_eq_true_eq] at h
  rcases h with ((rfl | rfl) | rfl) | rfl <;> decide

/-- A text without its leading white space. -/
def trimStart (s : List Char) : List Char := s.dropWhile isBlank

/-- A text without its trailing white space. -/
def trimEnd : List Char → List Char
  | [] => []
  | c :: r =>
    match trimEnd r with
    | [] => if isBlank c then [] else [c]
    | d :: t => c :: d :: t

/-- A text without white space at either end. -/
def trim (s : List Char) : List Char := trimEnd (trimStart s)

/-- Trimming of a string. -/
def trimmed (s : String) : String := String.ofList (trim s.toList)

theorem trimStart_suffix (s : List Char) : trimStart s <:+ s := List.dropWhile_suffix _

theorem trimStart_cons_blank {c : Char} (h : isBlank c = true) (s : List Char) :
    trimStart (c :: s) = trimStart s := by
  simp [trimStart, h]

theorem trimStart_cons_ink {c : Char} (h : isBlank c = false) (s : List Char) :
    trimStart (c :: s) = c :: s := by
  simp [trimStart, h]

/-- What is left after `trimStart` does not begin with white space. -/
theorem isBlank_of_trimStart_eq_cons {s r : List Char} {c : Char}
    (h : trimStart s = c :: r) : isBlank c = false := by
  induction s with
  | nil => simp [trimStart] at h
  | cons d t ih =>
    cases hd : isBlank d with
    | true => exact ih (by rwa [trimStart_cons_blank hd] at h)
    | false =>
      rw [trimStart_cons_ink hd] at h
      cases h
      exact hd

/-- A text that begins with a character other than white space keeps it when its end is trimmed. -/
theorem trimEnd_cons_ink {c : Char} (h : isBlank c = false) (s : List Char) :
    ∃ t, trimEnd (c :: s) = c :: t := by
  rw [trimEnd]
  cases trimEnd s with
  | nil => exact ⟨[], by simp [h]⟩
  | cons d t => exact ⟨d :: t, rfl⟩

theorem trimEnd_trimEnd (s : List Char) : trimEnd (trimEnd s) = trimEnd s := by
  induction s with
  | nil => rfl
  | cons c r ih =>
    rw [trimEnd]
    cases hr : trimEnd r with
    | nil => cases hc : isBlank c <;> simp [trimEnd, hc]
    | cons d t =>
      rw [hr] at ih
      simp only [trimEnd.eq_2 c (d :: t), ih]

/-- A trimmed text does not begin with white space. -/
theorem trimStart_trim (s : List Char) : trimStart (trim s) = trim s := by
  rw [trim]
  cases hs : trimStart s with
  | nil => rfl
  | cons c r =>
    have hc : isBlank c = false := isBlank_of_trimStart_eq_cons hs
    obtain ⟨t, ht⟩ := trimEnd_cons_ink hc r
    rw [ht, trimStart_cons_ink hc]

theorem trim_trim (s : List Char) : trim (trim s) = trim s := by
  rw [trim, trimStart_trim, trim, trimEnd_trimEnd]

/-- White space at the end of a text is dropped with the rest of it. -/
theorem trimEnd_append {w : List Char} (hw : ∀ c ∈ w, isBlank c = true) (s : List Char) :
    trimEnd (s ++ w) = trimEnd s := by
  induction s with
  | nil =>
    induction w with
    | nil => rfl
    | cons c w ih =>
      have hrest : trimEnd w = [] := ih fun d hd => hw d (List.mem_cons_of_mem c hd)
      simp [trimEnd, hrest, hw c List.mem_cons_self]
  | cons c s ih => rw [List.cons_append, trimEnd, ih, trimEnd]

/-- A text that does not end with white space stays as it is. -/
theorem trimEnd_of_last {s : List Char} (h : ∀ c ∈ s.getLast?, isBlank c = false) :
    trimEnd s = s := by
  induction s with
  | nil => rfl
  | cons c r ih =>
    cases r with
    | nil => simp [trimEnd, h c rfl]
    | cons d t =>
      have hrest : trimEnd (d :: t) = d :: t := ih fun e he => h e (by rwa [List.getLast?_cons_cons])
      rw [trimEnd, hrest]

/-- White space at the end of a text makes no difference when it is trimmed. -/
theorem trim_append {w : List Char} (hw : ∀ c ∈ w, isBlank c = true) (s : List Char) :
    trim (s ++ w) = trim s := by
  have hblank : trimStart w = [] := by
    have hnil : trimStart (w ++ []) = trimStart [] := List.dropWhile_append_of_pos hw
    rwa [List.append_nil] at hnil
  rw [trim, trim, trimStart, trimStart, List.dropWhile_append]
  split
  · next h =>
    rw [List.isEmpty_iff.mp h]
    exact congrArg trimEnd hblank
  · exact trimEnd_append hw _

@[simp] theorem trim_toList_trimmed (s : String) : trim (trimmed s).toList = trim s.toList := by
  rw [trimmed, String.toList_ofList, trim_trim]

/-- A line without the carriage return that ends it. -/
def dropReturn (line : List Char) : List Char :=
  if line.getLast? = some '\r' then line.dropLast else line

/-- The lines of a text, the line being read held in reverse. A line end is `\n` or `\r\n`; a text
that ends with one has no empty last line, and a lone `\r` at the end of the text is kept. -/
def linesFrom (current : List Char) : List Char → List (List Char)
  | [] => if current.isEmpty then [] else [current.reverse]
  | c :: r =>
    if c = '\n' then dropReturn current.reverse :: linesFrom [] r
    else linesFrom (c :: current) r

/-- The lines of a text. -/
def lines (s : List Char) : List (List Char) := linesFrom [] s

/-- The pieces of a text between the occurrences of `d`, the piece being read held in reverse. -/
def splitFrom (d : Char) (current : List Char) : List Char → List (List Char)
  | [] => [current.reverse]
  | c :: r =>
    if c = d then current.reverse :: splitFrom d [] r
    else splitFrom d (c :: current) r

/-- The pieces of a text between the occurrences of `d`: one more than there are occurrences. -/
def split (d : Char) (s : List Char) : List (List Char) := splitFrom d [] s

theorem length_splitFrom (d : Char) (current s : List Char) :
    (splitFrom d current s).length = s.count d + 1 := by
  induction s generalizing current with
  | nil => rfl
  | cons c r ih =>
    by_cases h : c = d
    · simp [splitFrom, h, ih]
    · simp [splitFrom, h, ih]

/-- There is one piece more than there are separators. -/
theorem length_split (d : Char) (s : List Char) : (split d s).length = s.count d + 1 :=
  length_splitFrom d [] s

end RowQuery.Text
