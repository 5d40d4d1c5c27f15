import RowQuery.Unicode.Age
import RowQuery.Unicode.Breaks

/-!
Sets of characters asked for by name.

* `looseName`: a name in the form that names are compared in.
* `Query`: what a pattern can ask for.
* `Query.set?`: the set asked for, if the names are known.
-/
namespace RowQuery.Unicode

/-- A name without case, spaces, hyphens and underscores, and without a leading `is`. Characters
beyond the basic Latin ones count for nothing. `isc` stays, since it is the name of a property and
not the category `c`. -/
def looseName (name : List Char) : String :=
  let fold (s : List Char) : List Char :=
    (s.filter fun c => c != ' ' && c != '_' && c != '-' && c.toNat < 0x80).map Char.toLower
  match name with
  | i :: s :: rest =>
    if i.toLower = 'i' && s.toLower = 's' then
      if fold rest = ['c'] then "isc" else String.ofList (fold rest)
    else String.ofList (fold name)
  | _ => String.ofList (fold name)

/-- A question for a set: by one name, or by a property and its value. -/
inductive Query where
  | named (name : List Char)
  | valued (property value : List Char)

/-- The set of a general category, given its name. -/
def categorySet? (name : String) : Option CharSet :=
  if name = "any" then some .all
  else if name = "ascii" then some (.interval 0 0x7f)
  else if name = "assigned" then some (.compl (.table Category.unassigned.members))
  else match Category.groups.find? (·.1.contains name) with
    | some group => some (Property.ofCategories group.2)
    | none =>
      match Category.all.find? (·.names.contains name) with
      | some .decimalNumber => some Property.digit
      | some category => some (.table category.members)
      | none => none

/-- The script of a name. -/
def script? (name : String) : Option Script := Script.all.find? (·.names.contains name)

/-- The characters used with a script. Of the characters of no single script, those used with
particular scripts only are no part of it. -/
def Script.usedSet (script : Script) : CharSet :=
  if script.names.contains "common" || script.names.contains "inherited" then
    .diff script.set (.unionAll (Script.all.map fun s => .table (.ofTable s.shared)))
  else .union script.set (.table (.ofTable script.shared))

/-- Whether a version of the standard goes by the given name, as in `3.0` or `v30`. -/
def Age.named (name : String) (version : String) : Bool :=
  name == version || name == "v" ++ String.ofList (version.toList.filter (· != '.'))

/-- The characters that the standard has had since a version or longer. -/
def Age.set? (name : String) : Option CharSet :=
  if Age.versions.any fun v => Age.named name v.1 then
    let older := Age.versions.takeWhile fun v => !Age.named name v.1
    let own := (Age.versions.drop older.length).take 1
    some (.unionAll ((older ++ own).map fun v => .table (.ofTable v.2)))
  else none

/-- The set that a question asks for. A name is a binary property, a general category or a script,
in this order; three short names of categories are also names of properties and mean the
categories. -/
def Query.set? : Query → Option CharSet
  | .named name =>
    let name := looseName name
    let property := if name = "cf" || name = "sc" || name = "lc" then none
      else Property.lookup? name
    property <|> categorySet? name <|> (script? name).map Script.set
  | .valued property value =>
    let property := looseName property
    let value := looseName value
    if property = "gc" || property = "generalcategory" then categorySet? value
    else if property = "sc" || property = "script" then (script? value).map Script.set
    else if property = "scx" || property = "scriptextensions" then
      (script? value).map Script.usedSet
    else if property = "age" then Age.set? value
    else if property = "gcb" || property = "graphemeclusterbreak" then
      Breaks.lookup? Breaks.graphemes value
    else if property = "wb" || property = "wordbreak" then Breaks.lookup? Breaks.words value
    else if property = "sb" || property = "sentencebreak" then
      Breaks.lookup? Breaks.sentences value
    else none

end RowQuery.Unicode
