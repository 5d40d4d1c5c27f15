import RowQuery.Text.Quoted

/-!
What a parser reports while it runs.

* `Diagnostics`: how much is reported.
* `Event`: a traced parser begun or ended, and a fault that was caught.
* `Event.render`: the line that stands for an event.
-/
namespace RowQuery

/-- How much parsers report: nothing; traces that are not kept; or traces that are kept. -/
inductive Diagnostics where
  | silent
  | tracing
  | recording
deriving DecidableEq, Repr

/-- Whether parsers that are to be traced are. -/
def Diagnostics.enabled : Diagnostics → Bool
  | .silent => false
  | .tracing => true
  | .recording => true

/-- A report about the parser of a description and the text it was given. At its end a traced parser
has left a rest, or there was no match. -/
inductive Event where
  | enter (parser : String) (input : List Char)
  | exit (parser : String) (input : List Char) (rest : Option (List Char))
  | fault (parser : String) (input : List Char) (message : String)
deriving DecidableEq, Repr

/-- The events of a report: the event itself if events are kept. -/
def Diagnostics.report (diagnostics : Diagnostics) (event : Event) : List Event :=
  match diagnostics with
  | .recording => [event]
  | _ => []

/-- The line of an event. -/
def Event.render : Event → String
  | .enter parser input => "enter " ++ parser ++ " " ++ String.ofList (Text.quote input)
  | .exit parser input rest =>
    "exit " ++ parser ++ " " ++ String.ofList (Text.quote input) ++ " => " ++
      match rest with
      | some rest => "matched, rest " ++ String.ofList (Text.quote rest)
      | none => "no match"
  | .fault parser input message =>
    "fault " ++ parser ++ " " ++ String.ofList (Text.quote input) ++ ": " ++ message

end RowQuery
