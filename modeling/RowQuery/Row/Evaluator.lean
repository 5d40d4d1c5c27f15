import RowQuery.Query.Filter

/-!
Filters applied to the rows of a table.

* `RowCache`: the data of rows, kept from when it was first read.
* `Evaluation`: which rows were kept.
* `RowCache.evaluate`: the evaluation of a filter on all rows.

The cache cannot tell that a row changed; whoever changes one has to invalidate it.
-/
namespace RowQuery

/-- The data of rows, by their number. -/
structure RowCache where
  slots : List (Option RowData)
deriving DecidableEq, Repr

namespace RowCache

/-- The cache that holds nothing. -/
def empty : RowCache := ⟨[]⟩

/-- The data held for a row. -/
def get? (cache : RowCache) (row : Nat) : Option RowData := (cache.slots[row]?).join

/-- The slots with data put at a place, empty ones added up to it if need be. -/
def put (data : RowData) : Nat → List (Option RowData) → List (Option RowData)
  | 0, [] => [some data]
  | 0, _ :: r => some data :: r
  | n + 1, [] => none :: put data n []
  | n + 1, s :: r => s :: put data n r

/-- The data of a row, read from the table if none is held, and the cache that holds it. -/
def getOrBuild (cache : RowCache) (directory : Directory) (rows : Rows) (row : Nat) :
    RowData × RowCache :=
  match cache.get? row with
  | some data => (data, cache)
  | none =>
    let data := RowData.ofRows directory rows row
    (data, ⟨put data row cache.slots⟩)

/-- Forgets the data of a row. -/
def invalidate (cache : RowCache) (row : Nat) : RowCache := ⟨cache.slots.set row none⟩

/-- Forgets everything. -/
def clear (_ : RowCache) : RowCache := empty

/-- The number of rows whose data is held. -/
def cached (cache : RowCache) : Nat := (cache.slots.filter Option.isSome).length

end RowCache

/-- For each row whether it was kept, and how many were. -/
structure Evaluation where
  decisions : List Bool
  matched : Nat
deriving DecidableEq, Repr

namespace Evaluation

/-- The evaluation with the given decisions. -/
def ofDecisions (decisions : List Bool) : Evaluation := ⟨decisions, decisions.count true⟩

/-- The number of rows. -/
def total (evaluation : Evaluation) : Nat := evaluation.decisions.length

/-- The numbers of the rows kept. -/
def matchedRows (evaluation : Evaluation) : List Nat :=
  evaluation.decisions.zipIdx.filterMap fun (kept, row) => if kept then some row else none

end Evaluation

namespace RowCache

/-- The decisions on `count` rows from `row` on, and the cache after them. -/
def evaluateFrom (filter : Filter) (directory : Directory) (rows : Rows) :
    Nat → Nat → RowCache → List Bool × RowCache
  | 0, _, cache => ([], cache)
  | count + 1, row, cache =>
    let (data, cache) := cache.getOrBuild directory rows row
    let (decisions, cache) := evaluateFrom filter directory rows count (row + 1) cache
    (filter.accepts data :: decisions, cache)

/-- Applies a filter to every row. A filter that keeps all rows reads none of them. -/
def evaluate (cache : RowCache) (filter : Filter) (directory : Directory) (rows : Rows) :
    Evaluation × RowCache :=
  if filter.acceptsAll then (.ofDecisions (rows.map fun _ => true), cache)
  else
    let (decisions, cache) := evaluateFrom filter directory rows rows.length 0 cache
    (.ofDecisions decisions, cache)

end RowCache
end RowQuery
