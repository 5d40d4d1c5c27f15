/-!
Values under names.

* `Record`: pairs of a name and a value, in the order of the names.
* `Record.ofList`: the record of a list, in which the last value of a name counts.
-/
namespace RowQuery

/-- Values under names, in increasing order of the names. -/
abbrev Record (α : Type) := List (String × α)

namespace Record

/-- The record with a value put under a name. -/
def insert {α : Type} (name : String) (value : α) : Record α → Record α
  | [] => [(name, value)]
  | (n, v) :: r =>
    if name < n then (name, value) :: (n, v) :: r
    else if name = n then (name, value) :: r
    else (n, v) :: insert name value r

/-- The record of a list of pairs. -/
def ofList {α : Type} (pairs : List (String × α)) : Record α :=
  pairs.foldl (fun record pair => record.insert pair.1 pair.2) []

/-- The value under a name. -/
def get? {α : Type} (record : Record α) (name : String) : Option α :=
  (record.find? (·.1 == name)).map (·.2)

end Record
end RowQuery
