import Backtrack.Binding.Candidates
import Backtrack.Condition
import Backtrack.Program.Basic

/-!
Selection among the candidates of an overloaded name: the first whose parameters accept the
arguments is called, and a call that none accepts raises a condition.
-/

namespace Backtrack.Program

/-- Candidates without a code unit accept nothing. -/
def acceptedBy (program : Program) (args : List Value) (id : FunctionId) : Bool :=
  match program.function? id with
  | some unit => unit.accepts args
  | none => false

def select (program : Program) (set : CandidateSet) (args : List Value) : Except Cause FunctionId :=
  match set.functions.find? (program.acceptedBy args) with
  | some id => .ok id
  | none => .error (.unresolvedCall (program.symbolName set.name) args.length)

end Backtrack.Program
