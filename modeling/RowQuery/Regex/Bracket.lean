import RowQuery.Regex.Escape

/-!
Bracketed sets, such as `[a-z&&[^aeiou]]`.

* `Flags.close`, `Flags.negate?`: sets under the settings in force.
* `Bracket`: a set that is being read.
* `bracketed?`: reads a set, with nesting and set operations.

Brackets that are open are held in a list, so a set nested in others is read in one pass.
-/
namespace RowQuery.Regex

open Unicode (CharSet)

/-- The basic Latin characters. -/
def basicLatin : CharSet := .interval 0 0x7f

/-- A set closed under change of case if the flags ask for it. Without Unicode, only the basic
letters have case. -/
def Flags.close (flags : Flags) (s : CharSet) : CharSet :=
  if flags.caseInsensitive then
    if flags.unicode then .anyCase s else .inter (.anyCase s) basicLatin
  else s

/-- The complement of a set if it is negated. Without Unicode it would hold half of a character, so
there is none. -/
def Flags.negate? (flags : Flags) (negated : Bool) (s : CharSet) : Option CharSet :=
  if negated then if flags.unicode then some s.complement else none
  else some s

/-- The set of one character in a bracketed set. Without Unicode it has to be a basic one. -/
def Flags.member? (flags : Flags) (c : Char) : Option Char :=
  if flags.unicode || c.toNat < 0x80 then some c else none

/-- The set of a shorthand. -/
def Flags.shorthand? (flags : Flags) (kind : Shorthand) (negated : Bool) : Option CharSet :=
  flags.negate? negated (kind.set flags.unicode)

/-- The set of a property. -/
def Flags.property? (flags : Flags) (query : Unicode.Query) (negated : Bool) : Option CharSet :=
  if flags.unicode then do
    let s ← query.set?
    flags.negate? negated (flags.close s)
  else none

/-- The named sets of basic Latin characters. -/
def namedSet? (name : String) : Option CharSet :=
  match name with
  | "alnum" => some (.ofIntervals [(0x30, 0x39), (0x41, 0x5a), (0x61, 0x7a)])
  | "alpha" => some (.ofIntervals [(0x41, 0x5a), (0x61, 0x7a)])
  | "ascii" => some basicLatin
  | "blank" => some (.ofIntervals [(0x09, 0x09), (0x20, 0x20)])
  | "cntrl" => some (.ofIntervals [(0x00, 0x1f), (0x7f, 0x7f)])
  | "digit" => some Unicode.Property.basicDigit
  | "graph" => some (.interval 0x21 0x7e)
  | "lower" => some Unicode.Property.basicLower
  | "print" => some (.interval 0x20 0x7e)
  | "punct" => some (.ofIntervals [(0x21, 0x2f), (0x3a, 0x40), (0x5b, 0x60), (0x7b, 0x7e)])
  | "space" => some (.ofIntervals [(0x09, 0x0d), (0x20, 0x20)])
  | "upper" => some Unicode.Property.basicUpper
  | "word" => some Unicode.Property.basicWord
  | "xdigit" => some (.ofIntervals [(0x30, 0x39), (0x41, 0x46), (0x61, 0x66)])
  | _ => none

/-- A set with how deep its written form is nested. -/
structure Nested where
  set : CharSet
  depth : Nat

/-- The union of the items of a set, which are held with the last first. Several items are nested
one deeper than one. -/
def Nested.union (items : List Nested) : Nested :=
  match items with
  | [] => ⟨.none, 0⟩
  | [a] => a
  | _ =>
    ⟨.unionAll (items.reverse.map (·.set)), (items.foldl (fun n a => Nat.max n a.depth) 0) + 1⟩

/-- The operations on sets. -/
inductive SetOp where
  | inter
  | diff
  | symmDiff
deriving DecidableEq, Repr

/-- The operation of a sign that stands twice. -/
def SetOp.ofSign? (c : Char) (r : List Char) : Option SetOp :=
  if r.head? = some c then
    match c with
    | '&' => some .inter
    | '-' => some .diff
    | '~' => some .symmDiff
    | _ => none
  else none

/-- An operation applied, each side closed under change of case first. -/
def SetOp.apply (op : SetOp) (flags : Flags) (a b : Nested) : Nested :=
  let x := flags.close a.set
  let y := flags.close b.set
  ⟨match op with
    | .inter => .inter x y
    | .diff => .diff x y
    | .symmDiff => .symmDiff x y,
   Nat.max a.depth b.depth + 1⟩

/-- A bracketed set being read: whether it is negated, the operation whose right side is being
read, and the items read, the last first. -/
structure Bracket where
  negated : Bool
  pending : Option (SetOp × Nested)
  items : List Nested

/-- What has been read since the opening bracket, as one set. -/
def Bracket.value (bracket : Bracket) (flags : Flags) : Nested :=
  let right := Nested.union bracket.items
  match bracket.pending with
  | none => right
  | some (op, left) => op.apply flags left right

/-- The whole set at its closing bracket. -/
def Bracket.close? (bracket : Bracket) (flags : Flags) : Option Nested := do
  let value := bracket.value flags
  let s ← flags.negate? bracket.negated (flags.close value.set)
  return ⟨s, value.depth + 1⟩

/-- A bracketed set with one more item. -/
def Bracket.push (bracket : Bracket) (item : Nested) : Bracket :=
  { bracket with items := item :: bracket.items }

/-- A bracketed set with an operation whose right side is still to be read. -/
def Bracket.operate (bracket : Bracket) (flags : Flags) (op : SetOp) : Bracket :=
  ⟨bracket.negated, some (op, bracket.value flags), []⟩

/-- The hyphens at the start of a set, which stand for themselves, and what follows. -/
def hyphensFrom (count : Nat) : List (Char × List Char) → Option (Nat × Char × List Char)
  | [] => none
  | (c, r) :: more => if c = '-' then hyphensFrom (count + 1) more else some (count, c, r)

/-- The first items of a set. Hyphens that come first stand for themselves, and so does a closing bracket
that comes first. -/
def firstItems? (ignoreSpace negated : Bool) (s : List Char) : Option (Bracket × List Char) := do
  let (hyphens, c, r) ← hyphensFrom 0 (significant ignoreSpace s)
  if hyphens = 0 && c = ']' then
    match skip ignoreSpace r with
    | [] => none
    | rest => return (⟨negated, none, [⟨.single ']', 0⟩]⟩, rest)
  else return (⟨negated, none, List.replicate hyphens ⟨.single '-', 0⟩⟩, c :: r)

/-- A set just opened, after its bracket. A caret negates it. -/
def openBracket? (flags : Flags) (s : List Char) : Option (Bracket × List Char) :=
  match skip flags.ignoreSpace s with
  | [] => none
  | c :: r =>
    if c = '^' then firstItems? flags.ignoreSpace true r
    else firstItems? flags.ignoreSpace false (c :: r)

/-- The set of a name that is written before `:]`, and what follows. -/
def named? (s : List Char) : Option (CharSet × List Char) :=
  match s.dropWhile (· != ':') with
  | ':' :: ']' :: rest =>
    (namedSet? (String.ofList (s.takeWhile (· != ':')))).map fun set => (set, rest)
  | _ => none

/-- A named set such as `[:alpha:]`, after its opening bracket. A caret negates it. -/
def asciiSet? (flags : Flags) (s : List Char) : Option (Option CharSet × List Char) :=
  match s with
  | ':' :: '^' :: r => (named? r).map fun (set, rest) => (flags.negate? true (flags.close set), rest)
  | ':' :: r => (named? r).map fun (set, rest) => (flags.negate? false (flags.close set), rest)
  | _ => none

/-- What stands for one item of a set. -/
def setPrimitive? (ignoreSpace : Bool) : List Char → Option (Primitive × List Char)
  | [] => none
  | c :: r => if c = '\\' then escape? ignoreSpace r else some (.literal c false, r)

/-- The character that may end a range. -/
def Primitive.member? (flags : Flags) : Primitive → Option Char
  | .literal c wide => if wide && !flags.unicode then none else flags.member? c
  | _ => none

/-- A primitive as an item of a set. -/
def Primitive.set? (flags : Flags) (p : Primitive) : Option CharSet :=
  match p with
  | .literal _ _ => (p.member? flags).map .single
  | .shorthand kind negated => flags.shorthand? kind negated
  | .property query negated => flags.property? query negated
  | _ => none

/-- Whether a character after an item makes a range of it. A hyphen before the closing bracket or before
another hyphen makes none. -/
def makesRange (ignoreSpace : Bool) (c : Char) (r : List Char) : Bool :=
  c = '-' && peek ignoreSpace r != some ']' && peek ignoreSpace r != some '-'

/-- A range, where its second character is written. -/
def rangeTo? (flags : Flags) (first : Primitive) (s : List Char) :
    Option (CharSet × List Char) := do
  let (second, rest) ← setPrimitive? flags.ignoreSpace s
  let lo ← first.member? flags
  let hi ← second.member? flags
  if lo ≤ hi then return (.interval lo.toNat hi.toNat, rest) else none

/-- What begins with a primitive in a set, given what comes after the primitive. -/
def rangeFrom? (flags : Flags) (first : Primitive) : List Char → Option (CharSet × List Char)
  | [] => none
  | c :: r =>
    if makesRange flags.ignoreSpace c r then rangeTo? flags first (skip flags.ignoreSpace r)
    else do
      let item ← first.set? flags
      return (item, c :: r)

/-- A range of characters or a single item. -/
def setItem? (flags : Flags) (s : List Char) : Option (CharSet × List Char) := do
  let (first, s) ← setPrimitive? flags.ignoreSpace s
  rangeFrom? flags first (skip flags.ignoreSpace s)

/-- Reads a bracketed set to its end. `outer` are the sets around it, the innermost first. -/
def setFrom (flags : Flags) : Nat → Bracket → List Bracket → List Char →
    Option (Nested × List Char)
  | 0, _, _, _ => none
  | steps + 1, bracket, outer, s =>
    match skip flags.ignoreSpace s with
    | [] => none
    | c :: r =>
      if c = '[' then
        match asciiSet? flags r with
        | some (none, _) => none
        | some (some item, rest) => setFrom flags steps (bracket.push ⟨item, 0⟩) outer rest
        | none => do
          let (inner, rest) ← openBracket? flags r
          setFrom flags steps inner (bracket :: outer) rest
      else if c = ']' then do
        let whole ← bracket.close? flags
        match outer with
        | [] => return (whole, r)
        | around :: outer => setFrom flags steps (around.push whole) outer r
      else
        match SetOp.ofSign? c r with
        | some op => setFrom flags steps (bracket.operate flags op) outer (r.drop 1)
        | none => do
          let (item, rest) ← setItem? flags (c :: r)
          setFrom flags steps (bracket.push ⟨item, 0⟩) outer rest

/-- A bracketed set, after its bracket. -/
def bracketed? (flags : Flags) (s : List Char) : Option (Nested × List Char) := do
  let (bracket, rest) ← openBracket? flags s
  setFrom flags (rest.length + 1) bracket [] rest

end RowQuery.Regex
