import RowQuery.Regex.Bracket
import RowQuery.Regex.Factor
import RowQuery.Unicode.Additions

/-!
The written form of regular expressions.

* `Reader`: a pattern that is being read, with the groups that are open.
* `Move`: what an element of a pattern does.
* `Reader.step?`: reads one element.
* `Pattern.parse?`: the expression that a pattern stands for, if it is well formed.

The reader keeps the groups that are open in a list, so that what stands before an open group never
bears on what it reads next. Each step consumes a character or more, which bounds their number by
the length of the pattern.
-/
namespace RowQuery.Regex

open Unicode (CharSet)

/-- A literal character. -/
def Flags.literal? (flags : Flags) (c : Char) (wide : Bool) : Option Node :=
  if wide && !flags.unicode then none
  else if flags.caseInsensitive then
    if flags.unicode then
      some (.ofSet (.unionAll ((c :: Unicode.Casing.equivalents c).map .single)) false)
    else if c.isAlpha then some (.ofSet (.unionAll [.single c.toLower, .single c.toUpper]) true)
    else some (.char c)
  else some (.char c)

/-- The dot: any character that is no line end, or any at all. -/
def Flags.dot? (flags : Flags) : Option Node :=
  if !flags.unicode then none
  else if flags.dotAll then some (.set .all false)
  else if flags.crlf then some (.set (.compl (.union (.single '\r') (.single '\n'))) false)
  else some (.set (.compl (.single '\n')) false)

/-- One character of a set written under some flags. -/
def Flags.oneOf (flags : Flags) (s : CharSet) : Node := .ofSet s (!flags.unicode)

/-- A primitive as an expression. -/
def Primitive.node? (flags : Flags) : Primitive → Option Node
  | .literal c wide => flags.literal? c wide
  | .dot => flags.dot?
  | .look l => some (.look l)
  | .lineStart =>
    some (.look (if flags.multiLine then if flags.crlf then .crlfStart else .lineStart
      else .textStart))
  | .lineEnd =>
    some (.look (if flags.multiLine then if flags.crlf then .crlfEnd else .lineEnd
      else .textEnd))
  | .boundary kind => some (.look (.word (!flags.unicode) kind))
  | .shorthand kind negated => (flags.shorthand? kind negated).map flags.oneOf
  | .property query negated => (flags.property? query negated).map flags.oneOf

/-- A part of an alternative: its expression, how deep it is nested, and whether it can be
repeated, as a change of flags cannot. -/
structure Item where
  node : Node
  depth : Nat
  repeatable : Bool

/-- An expression with how deep its written form is nested. -/
structure Measured where
  node : Node
  depth : Nat

/-- The greatest of some depths. -/
def deepest (depths : List Nat) : Nat := depths.foldl Nat.max 0

/-- An alternative, given its parts with the last first. -/
def Measured.ofItems : List Item → Measured
  | [] => ⟨.empty, 0⟩
  | [a] => ⟨a.node, a.depth⟩
  | items =>
    ⟨.sequence ((items.filter (·.repeatable)).reverse.map (·.node)),
      deepest (items.map (·.depth)) + 1⟩

/-- A choice, given its alternatives with the last first. -/
def Measured.ofBranches : List Measured → Measured
  | [a] => a
  | branches =>
    ⟨.choice (branches.reverse.map (·.node)), deepest (branches.map (·.depth)) + 1⟩

/-- The group being read, or the pattern outside of groups: the flags in force, the alternatives
read and the parts of the present one, each with the last first. -/
structure Level where
  flags : Flags
  branches : List Measured
  items : List Item

/-- The group as a whole. -/
def Level.value (level : Level) : Measured :=
  .ofBranches (.ofItems level.items :: level.branches)

/-- A level with one more part. -/
def Level.push (level : Level) (item : Item) : Level :=
  { level with items := item :: level.items }

/-- A group that is open: what was read around it, and its index if it keeps its text. -/
structure Opening where
  outer : Level
  index : Option Nat

/-- The state of the reader. `captures` is the index of the last group that keeps its text, and
`names` are the names of groups. -/
structure Reader where
  level : Level
  opened : List Opening
  captures : Nat
  names : List (List Char)

namespace Reader

/-- The state at the start of a pattern. -/
def start : Reader :=
  { level := ⟨.default, [], []⟩, opened := [], captures := 0, names := [] }

/-- Reads one more part. -/
def push (reader : Reader) (node : Node) (depth : Nat) : Reader :=
  { reader with level := reader.level.push ⟨node, depth, true⟩ }

/-- Begins a group under its flags. -/
def openGroup (reader : Reader) (index : Option Nat) (flags : Flags) : Reader :=
  { reader with level := ⟨flags, [], []⟩, opened := ⟨reader.level, index⟩ :: reader.opened }

/-- Begins a group that keeps its text. -/
def openCapture (reader : Reader) : Reader :=
  let reader := { reader with captures := reader.captures + 1 }
  reader.openGroup (some reader.captures) reader.level.flags

/-- Ends the innermost group. The flags go back to what they were before it. -/
def closeGroup? (reader : Reader) : Option Reader :=
  match reader.opened with
  | [] => none
  | opening :: opened =>
    let inner := reader.level.value
    let node := match opening.index with
      | some index => .group index inner.node
      | none => inner.node
    some { reader with level := opening.outer.push ⟨node, inner.depth + 1, true⟩, opened }

/-- Ends an alternative. -/
def nextBranch (reader : Reader) : Reader :=
  { reader with
    level := { reader.level with
      branches := .ofItems reader.level.items :: reader.level.branches, items := [] } }

/-- Repeats the last part, if there is one that can be repeated. -/
def repeatLast? (reader : Reader) (min : Nat) (max : Option Nat) (lazy : Bool) :
    Option Reader :=
  match reader.level.items with
  | [] => none
  | item :: items =>
    if item.repeatable then
      let node := item.node.repeated min max (lazy == reader.level.flags.swapGreed)
      some { reader with
        level := { reader.level with items := ⟨node, item.depth + 1, true⟩ :: items } }
    else none

/-- Begins a group with a name that keeps its text. No two groups have one name. -/
def openNamed? (reader : Reader) (name : List Char) : Option Reader :=
  if reader.names.contains name then none
  else some ({ reader with names := name :: reader.names } : Reader).openCapture

/-- Changes the flags for the rest of the group. -/
def switch (reader : Reader) (flags : Flags) : Reader :=
  { reader with
    level := { reader.level with flags, items := ⟨.empty, 0, false⟩ :: reader.level.items } }

end Reader

/-- What an element of a pattern does: it is a part by itself, it begins or ends a group or an
alternative, it changes the flags, or it repeats the part before it. -/
inductive Move where
  | push (node : Node) (depth : Nat)
  | capture
  | named (name : List Char)
  | group (flags : Flags)
  | switch (flags : Flags)
  | close
  | branch
  | again (min : Nat) (max : Option Nat) (lazy : Bool)

/-- The state after an element, if it can stand there. -/
def Reader.follow? (reader : Reader) : Move → Option Reader
  | .push node depth => some (reader.push node depth)
  | .capture => some reader.openCapture
  | .named name => reader.openNamed? name
  | .group flags => some (reader.openGroup none flags)
  | .switch flags => some (reader.switch flags)
  | .close => reader.closeGroup?
  | .branch => some reader.nextBranch
  | .again min max lazy => reader.repeatLast? min max lazy

/-- The limits of a repetition in braces, given the lower one, where the upper one or the closing brace
begins. -/
def upperCount? (ignoreSpace : Bool) (min : Nat) :
    List Char → Option ((Nat × Option Nat) × List Char)
  | [] => none
  | c :: r =>
    if c = '\x7d' then some ((min, none), r)
    else do
      let (max, s) ← decimal? ignoreSpace (c :: r)
      match s with
      | [] => none
      | d :: rest => if d = '\x7d' && min ≤ max then return ((min, some max), rest) else none

/-- The count of a repetition in braces, where its number begins: its limits and what follows the
closing brace. -/
def counts? (ignoreSpace : Bool) (s : List Char) : Option ((Nat × Option Nat) × List Char) := do
  let (min, s) ← decimal? ignoreSpace s
  match s with
  | [] => none
  | c :: r =>
    if c = '\x7d' then return ((min, some min), r)
    else if c = ',' then upperCount? ignoreSpace min (skip ignoreSpace r)
    else none

/-- A group of flags: the flags as they become, the character that ends the group, and what follows
it. `used` are the letters read, `negating` tells whether a hyphen was read, and `dangling` whether
it was the last thing read. -/
def flagsFrom? (flags : Flags) (used : List Char) (negating dangling : Bool) :
    List Char → Option (Flags × Bool × Char × List Char)
  | [] => none
  | c :: r =>
    if c = ':' || c = ')' then
      if dangling then none else some (flags, used.isEmpty, c, r)
    else if c = '-' then
      if negating then none else flagsFrom? flags used true true r
    else if used.contains c then none
    else do
      let flags ← flags.put? c (!negating)
      flagsFrom? flags (c :: used) negating false r

/-- Whether a character may stand in the name of a group. -/
def isNameChar (first : Bool) (c : Char) : Bool :=
  c = '_' ||
    if first then Unicode.Additions.alphabetic.mem c
    else c = '.' || c = '[' || c = ']' || Unicode.Additions.alphanumeric.mem c

/-- Whether a text may be the name of a group. -/
def isGroupName : List Char → Bool
  | [] => false
  | c :: r => isNameChar true c && r.all (isNameChar false)

/-- The name of a group up to its closing bracket, and what follows. -/
def groupName? (s : List Char) : Option (List Char × List Char) :=
  match s.dropWhile (· != '>') with
  | [] => none
  | _ :: rest =>
    let name := s.takeWhile (· != '>')
    if isGroupName name then some (name, rest) else none

/-- A group with a name, where the name begins. -/
def namedGroup? (s : List Char) : Option (Move × List Char) := do
  let (name, rest) ← groupName? s
  return (.named name, rest)

/-- A group under flags, or a change of flags, where the flags begin. -/
def flagGroup? (flags : Flags) (s : List Char) : Option (Move × List Char) := do
  let (inner, bare, ending, rest) ← flagsFrom? flags [] false false s
  if ending = ':' then return (.group inner, rest)
  else if bare then none
  else return (.switch inner, rest)

/-- A group, after its opening parenthesis and a question mark. Conditions on what stands around a place,
such as `(?=` or `(?<!`, are no part of the language: their signs are neither flags nor names. -/
def specialGroup? (flags : Flags) : List Char → Option (Move × List Char)
  | 'P' :: '<' :: r => namedGroup? r
  | '<' :: r => namedGroup? r
  | s => flagGroup? flags s

/-- A group, after its opening parenthesis: one that keeps its text, one that does not, or a change
of flags. -/
def group? (flags : Flags) (s : List Char) : Option (Move × List Char) :=
  match skip flags.ignoreSpace s with
  | '?' :: r => specialGroup? flags r
  | _ => some (.capture, s)

/-- Whether a question mark makes a repetition prefer fewer rounds, and what follows. -/
def laziness (ignoreSpace : Bool) (s : List Char) : Bool × List Char :=
  match skip ignoreSpace s with
  | '?' :: r => (true, r)
  | _ => (false, s)

/-- A repetition, after its sign. -/
def repetition (ignoreSpace : Bool) (min : Nat) (max : Option Nat) (s : List Char) :
    Move × List Char :=
  let (lazy, rest) := laziness ignoreSpace s
  (.again min max lazy, rest)

/-- A primitive, if it has an expression under the flags. -/
def Flags.primitive? (flags : Flags) (p : Primitive) (rest : List Char) :
    Option (Move × List Char) :=
  (p.node? flags).map fun node => (.push node 0, rest)

/-- An escape, after its backslash. -/
def Flags.escaped? (flags : Flags) (s : List Char) : Option (Move × List Char) := do
  let (p, rest) ← escape? flags.ignoreSpace s
  flags.primitive? p rest

/-- A bracketed set, after its bracket. -/
def Flags.oneOf? (flags : Flags) (s : List Char) : Option (Move × List Char) := do
  let (whole, rest) ← bracketed? flags s
  return (.push (flags.oneOf whole.set) whole.depth, rest)

/-- A repetition in braces, after the opening brace. -/
def counted? (ignoreSpace : Bool) (s : List Char) : Option (Move × List Char) := do
  let ((min, max), rest) ← counts? ignoreSpace (skip ignoreSpace s)
  return repetition ignoreSpace min max rest

/-- What an element of a pattern does that starts with the given character, and what follows it. -/
def Flags.move? (flags : Flags) (c : Char) (r : List Char) : Option (Move × List Char) :=
  if c = '(' then group? flags r
  else if c = ')' then some (.close, r)
  else if c = '|' then some (.branch, r)
  else if c = '[' then flags.oneOf? r
  else if c = '?' then some (repetition false 0 (some 1) r)
  else if c = '*' then some (repetition false 0 none r)
  else if c = '+' then some (repetition false 1 none r)
  else if c = '\x7b' then counted? flags.ignoreSpace r
  else if c = '\\' then flags.escaped? r
  else if c = '.' then flags.primitive? .dot r
  else if c = '^' then flags.primitive? .lineStart r
  else if c = '$' then flags.primitive? .lineEnd r
  else flags.primitive? (.literal c false) r

/-- Reads one element of a pattern that starts with the given character. -/
def Reader.step? (reader : Reader) (c : Char) (r : List Char) : Option (Reader × List Char) := do
  let (move, rest) ← reader.level.flags.move? c r
  let reader ← reader.follow? move
  return (reader, rest)

/-- Reads a pattern to its end. -/
def Reader.run : Nat → Reader → List Char → Option Reader
  | 0, _, _ => none
  | steps + 1, reader, s =>
    match skip reader.level.flags.ignoreSpace s with
    | [] => some reader
    | c :: r => do
      let (reader, rest) ← reader.step? c r
      Reader.run steps reader rest

/-- How deep a pattern may be nested. -/
def depthLimit : Nat := 250

/-- The expression that a pattern stands for, if the pattern is well formed: each group is closed,
each escape and set is known, and it is not nested too deep. -/
def Pattern.parse? (pattern : List Char) : Option Node := do
  let reader ← Reader.start.run (pattern.length + 1) pattern
  let whole := reader.level.value
  if reader.opened.isEmpty && whole.depth ≤ depthLimit then return whole.node else none

end RowQuery.Regex
