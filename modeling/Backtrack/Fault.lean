import Backtrack.Value.Basic

/-!
Faults stop a machine for good: the interpreter's state is corrupt or the code breaks an invariant.
The running program never observes one.
-/

namespace Backtrack

/-- The two ways to close a rollback log. -/
inductive Closing where
  | commit | rollback
deriving DecidableEq, Repr

def Closing.text : Closing → String
  | .commit => "commit"
  | .rollback => "rollback"

inductive Fault where
  | copyStarted
  | logClosed (attempt : Closing)
  | ranOffEnd (function : String)
  | reentered (coroutine : CoroutineId)
  | exhausted (coroutine : CoroutineId)
  | yieldOutside
  | yieldInsideRegion (coroutine : CoroutineId) (count : Nat)
  | missingCaller (coroutine : CoroutineId)
  | staleCaller (coroutine : CoroutineId)
  | suspendedIdle (coroutine : CoroutineId)
  | noRegion
  | foreignRegion
  | unbalancedRegion (function : String) (count : Nat)
  | noHandler
  | scopeUnderflow
  | deadContainer
  | arenaFull
  | frameLimit (limit : Nat)
  | coroutineLimit (limit : Nat)
  | regionLimit (limit : Nat)
  | invalidRegister (reg : Reg)
  | emptyRegister (reg : Reg)
  | typeMismatch (expected found : ValueKind)
  | unknownId (entity : Entity) (index : Nat)
  | arityMismatch (function : String) (expected found : Nat)
  | fieldOutOfRange (position arity : Nat)
  | noActiveFrame
  | trap (message : String)
deriving DecidableEq

/-- How a value of the wrong kind is reported. -/
def kindMismatch (expected found : String) : String :=
  s!"expected {expected}, got {found}"

/-- How a position that names nothing is reported. -/
def invalidId (entity : String) (index : Nat) : String :=
  s!"invalid {entity} id {index}"

/-- How an attempt to close a closed rollback log is reported. -/
def closedLog (attempt : String) : String :=
  s!"cannot {attempt} a rollback log that is no longer enabled"

def Fault.message : Fault → String
  | .copyStarted => "cannot copy a coroutine that has already started"
  | .logClosed attempt => closedLog attempt.text
  | .ranOffEnd function => s!"function `{function}` ran past the end of its code"
  | .reentered coroutine => s!"coroutine {coroutine.index} is already running"
  | .exhausted coroutine => s!"coroutine {coroutine.index} is exhausted"
  | .yieldOutside => "yield outside of a coroutine"
  | .yieldInsideRegion coroutine count =>
      s!"coroutine {coroutine.index} yielded while owning {count} open region(s)"
  | .missingCaller coroutine => s!"coroutine {coroutine.index} has no caller to return to"
  | .staleCaller coroutine =>
      s!"caller link of coroutine {coroutine.index} does not name an active frame"
  | .suspendedIdle coroutine => s!"trap: suspend of coroutine {coroutine.index} while not running"
  | .noRegion => "no open backtracking region"
  | .foreignRegion => "innermost backtracking region belongs to another frame"
  | .unbalancedRegion function count =>
      s!"function `{function}` returned while owning {count} open region(s)"
  | .noHandler => "pop_catch without a handler owned by the current frame"
  | .scopeUnderflow => "pop_scope at the base scope of the frame"
  | .deadContainer => "binding container no longer exists"
  | .arenaFull => "trap: scope table overflow"
  | .frameLimit limit => s!"frame limit of {limit} exceeded"
  | .coroutineLimit limit => s!"coroutine limit of {limit} exceeded"
  | .regionLimit limit => s!"open region limit of {limit} exceeded"
  | .invalidRegister reg => s!"reg {reg} out of range"
  | .emptyRegister reg => s!"read from uninitialized reg {reg}"
  | .typeMismatch expected found => kindMismatch expected.text found.text
  | .unknownId entity index => invalidId entity.text index
  | .arityMismatch function expected found =>
      s!"`{function}` expects {expected} argument(s), got {found}"
  | .fieldOutOfRange position arity =>
      s!"field {position} out of range for node of arity {arity}"
  | .noActiveFrame => "no active frame"
  | .trap message => s!"trap: {message}"

end Backtrack
