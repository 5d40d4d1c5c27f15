/-!
What a parser answers.

* `Match`: a value with the text left over, or no match.
* `Match.consumed?`: the text that a match took from the front of a given one.
-/
namespace RowQuery

/-- The answer of a parser. A match has a value and leaves a rest; without a match there is neither,
so that a parser that fails reports no partial progress. -/
inductive Match (α : Type) where
  | found (value : α) (rest : List Char)
  | absent
deriving BEq, DecidableEq, Repr

namespace Match

/-- Whether there is a match. -/
def isFound {α : Type} : Match α → Bool
  | .found _ _ => true
  | .absent => false

/-- Whether there is a match that leaves nothing over. -/
def isComplete {α : Type} : Match α → Bool
  | .found _ rest => rest.isEmpty
  | .absent => false

/-- The value of a match. -/
def value? {α : Type} : Match α → Option α
  | .found value _ => some value
  | .absent => none

/-- What a match leaves over. -/
def rest? {α : Type} : Match α → Option (List Char)
  | .found _ rest => some rest
  | .absent => none

/-- The value and what is left over. -/
def toOption {α : Type} : Match α → Option (α × List Char)
  | .found value rest => some (value, rest)
  | .absent => none

/-- A match with its value changed. -/
def map {α β : Type} (f : α → β) : Match α → Match β
  | .found value rest => .found (f value) rest
  | .absent => .absent

/-- What a match took from `input`, if what it left is an end of `input`. -/
def consumed? {α : Type} (m : Match α) (input : List Char) : Option (List Char) :=
  match m with
  | .absent => none
  | .found _ rest =>
    if rest.isSuffixOf input then some (input.take (input.length - rest.length)) else none

/-- What is taken and what is left make up the input. -/
theorem consumed?_append {α : Type} {m : Match α} {input taken rest : List Char}
    (h : m.consumed? input = some taken) (hr : m.rest? = some rest) : taken ++ rest = input := by
  cases m with
  | absent => simp [consumed?] at h
  | found value r =>
    cases hr
    simp only [consumed?] at h
    split at h
    · next hs =>
      cases h
      obtain ⟨front, rfl⟩ := List.isSuffixOf_iff_suffix.mp hs
      simp
    · simp at h

end Match
end RowQuery
