import RowQuery.Query.Compile

/-!
The filter in effect while queries are edited.

* `Session`: the last query that was valid, its filter, and the error of the last submission.
* `Session.submit`, `Session.clear`: what changes a session.
-/
namespace RowQuery

/-- The state of a table's filter. A query that is refused is reported and changes nothing else, so
that the rows shown stay as they are. -/
structure Session where
  directory : Directory
  query : String
  filter : Filter
  error : Option QueryError

namespace Session

/-- A session without a query. -/
def start (directory : Directory) : Session :=
  { directory, query := "", filter := .acceptAll, error := none }

/-- Compiles a query and puts it into effect if it is valid. -/
def submit (session : Session) (query : String) : Session :=
  let query := Text.trimmed query
  match Query.compile .silent session.directory query with
  | .ok filter => { session with query, filter, error := none }
  | .error e => { session with error := some e }

/-- Goes back to the state without a query. -/
def clear (session : Session) : Session := start session.directory

end Session
end RowQuery
