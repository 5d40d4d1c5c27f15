import RowQuery.Command.Run
import RowQuery.Proofs.Parser.Diagnostics

/-!
Watching the work on a query makes no difference to its outcome.

* `Grammar.parse?_eq`, `Query.parse_eq`, `Query.compile_eq`: a query has the same terms, the same filter and the
  same error under any two diagnostics.
* `Invocation.run_traceParser`: the program does the same with and without a trace of its parser.
* `Invocation.outcome_eq_of_diagnostics`: all of this in one.
-/
namespace RowQuery

variable (diagnostics diagnostics' : Diagnostics) (directory : Directory)

theorem Parser.parse?_eq {α : Type} (p : Parser α) (input : List Char) :
    p.parse? diagnostics input = p.parse? diagnostics' input := by
  have h : (p.run diagnostics input).outcome = (p.run diagnostics' input).outcome :=
    p.alike_run diagnostics diagnostics' input
  rw [parse?, parse?, h]

theorem Grammar.parse?_eq (text : List Char) :
    parse? diagnostics directory text = parse? diagnostics' directory text :=
  (query directory).parse?_eq diagnostics diagnostics' text

namespace Query

theorem parse_eq (query : String) :
    parse diagnostics directory query = parse diagnostics' directory query := by
  rw [parse, parse, Grammar.parse?_eq diagnostics diagnostics']

theorem compile_eq (query : String) :
    compile diagnostics directory query = compile diagnostics' directory query := by
  rw [compile, compile, parse_eq diagnostics diagnostics']

end Query

namespace Invocation

/-- Whether the parser is traced changes nothing that a run leaves behind. -/
theorem run_traceParser (invocation : Invocation) (traced : Bool) (world : World) :
    ({ invocation with traceParser := traced }).run world = invocation.run world := by
  obtain ⟨command, verbose, quiet, json, noColor, traceParser⟩ := invocation
  cases command with
  | filter query source showing =>
    simp only [run, runFilter, colors, wantsColors]
    simp only [Query.compile_eq (diagnostics _) .silent]
  | _ => rfl

/-- Diagnostics never change what is done. Under any two of them every parser answers or faults alike on every
input, and every query has the same terms and the same filter or error; and every run of the program
writes the same and ends with the same code, whether its parser is traced or not. -/
theorem outcome_eq_of_diagnostics :
    (∀ (diagnostics diagnostics' : Diagnostics) (α : Type) (p : Parser α) (input : List Char),
      (p.run diagnostics input).outcome = (p.run diagnostics' input).outcome) ∧
    (∀ (diagnostics diagnostics' : Diagnostics) (directory : Directory),
      (∀ text, Grammar.parse? diagnostics directory text =
        Grammar.parse? diagnostics' directory text) ∧
      ∀ query, Query.parse diagnostics directory query = Query.parse diagnostics' directory query ∧
        Query.compile diagnostics directory query = Query.compile diagnostics' directory query) ∧
    ∀ (invocation : Invocation) (world : World),
      let traced := ({ invocation with traceParser := true }).run world
      let plain := ({ invocation with traceParser := false }).run world
      traced.output = plain.output ∧ traced.exitCode = plain.exitCode := by
  refine ⟨fun diagnostics diagnostics' α p => p.alike_run diagnostics diagnostics',
    fun diagnostics diagnostics' directory => ⟨fun text => ?_, fun query => ⟨?_, ?_⟩⟩,
    fun invocation world => ?_⟩
  · exact Grammar.parse?_eq diagnostics diagnostics' directory text
  · exact Query.parse_eq diagnostics diagnostics' directory query
  · exact Query.compile_eq diagnostics diagnostics' directory query
  · intro traced plain
    have h : traced = plain :=
      (run_traceParser invocation true world).trans (run_traceParser invocation false world).symm
    exact ⟨congrArg Outcome.output h, congrArg Outcome.exitCode h⟩

end Invocation
end RowQuery
