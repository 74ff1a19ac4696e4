import Backtrack.Machine.Run

/-!
What a host can see of a machine and change about its counters.
-/

namespace Backtrack

/-- A frame and its position. -/
structure FrameView where
  id : FrameId
  function : FunctionId
  pc : Nat
  coroutine : CoroutineId
  depth : Nat
  isEntry : Bool
deriving DecidableEq, Repr

namespace Machine

def activeView? (machine : Machine) : Option FrameView := do
  let coroutine ← machine.coroutine? machine.current
  let frame ← coroutine.active?
  return {
    id := frame.id
    function := frame.function
    pc := frame.pc
    coroutine := machine.current
    depth := coroutine.depth - 1
    isEntry := frame.isEntry }

def symbolId? (machine : Machine) (name : String) : Option SymbolId :=
  machine.program.symbolIndex[name]?

/-- A variable bound in the global container. -/
def global? (machine : Machine) (name : String) : Option Value := do
  machine.arena.var? machine.globals (← machine.symbolId? name)

/-- The candidates that the global container has for a name, in the order of trying. -/
def globalCandidates? (machine : Machine) (name : String) : Option (List FunctionId) := do
  return (← machine.arena.candidates? machine.globals (← machine.symbolId? name)).functions

/-- A variable as the active frame sees it. -/
def visible? (machine : Machine) (name : String) : Option Value := do
  let symbol ← machine.symbolId? name
  machine.arena.lookupVar? (← machine.active?).scope symbol

def openRegions (machine : Machine) : Nat :=
  machine.regions.size

def collectCounters (machine : Machine) (collecting : Bool) : Machine :=
  { machine with collecting }

def resetCounters (machine : Machine) : Machine :=
  { machine with counters := .zero }

end Machine

end Backtrack
