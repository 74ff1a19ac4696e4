import Backtrack.Machine.Step
import Backtrack.Program.Check

/-!
Starting a machine on a program. The entry function runs as the root coroutine, directly in the
global container, with the arguments in its first registers.
-/

namespace Backtrack

/-- Why a machine cannot start. -/
inductive StartError where
  | rejected (defect : Defect)
  | unknownEntry (id : FunctionId)
  | entryArity (function : String) (parameters args : Nat)
  | noGlobals (fault : Fault)
  | entryArgument (fault : Fault)
deriving DecidableEq

/-- How a refused start is reported, save for a program that does not pass the check. -/
def refusal (message : String) : String :=
  s!"invalid vm state: {message}"

/-- How a program that does not pass the check is reported. -/
def invalidProgram (message : String) : String :=
  s!"invalid module: {rejection message}"

def StartError.message : StartError → String
  | .rejected defect => invalidProgram defect.message
  | .unknownEntry id => refusal s!"invalid entry function id {id.index}"
  | .entryArity function parameters args =>
      refusal s!"entry function `{function}` expects {parameters} argument(s), got {args}"
  | .noGlobals fault => refusal fault.message
  | .entryArgument fault => refusal s!"entry argument: {fault.message}"

def CodeUnit.arityCheck (unit : CodeUnit) (args : List Value) : Except StartError Unit :=
  if unit.parameterCount = args.length then .ok ()
  else .error (.entryArity unit.name unit.parameterCount args.length)

namespace Machine

def start (program : Program) (args : List Value) (settings : Settings) :
    Except StartError Machine := do
  (if settings.checkProgram then program.check else .ok ()).mapError .rejected
  match program.function? program.entry with
  | none => .error (.unknownEntry program.entry)
  | some unit =>
      unit.arityCheck args
      let (globals, arena) ← (Arena.empty.alloc none).mapError .noGlobals
      let frame ← ((Frame.new ⟨0⟩ program.entry unit.registerCount .entry globals).withArguments
        args).mapError .entryArgument
      return {
        program
        settings
        status := .running
        coroutines := #[.root frame]
        current := .root
        arena
        globals
        regions := .empty
        nextSerial := 0
        nodes := .empty
        nextFrame := 1
        counters := .zero
        collecting := settings.collectCounters }

end Machine

end Backtrack
