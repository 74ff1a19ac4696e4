import Backtrack.Machine.Unwind

/-!
Reading and changing named bindings. Before a binding changes, every open region logs what it was.
-/

namespace Backtrack.Action

def loadVar (dst : Reg) (name : SymbolId) : Action Outcome := do
  let scope := (← frame).scope
  let machine ← get
  match machine.arena.lookupVar? scope name with
  | some value =>
      write dst value
      return .proceed
  | none => raise (.undefinedVariable (machine.program.symbolName name))

/-- Lets every open region log a binding. -/
@[inline] def logAll (save : RollbackLog → RollbackLog) : Action Unit :=
  modify fun machine => { machine with
    regions := machine.regions.map fun region => { region with log := save region.log } }

/-- Binds a variable in a container and logs what it was bound to before. -/
def bindVar (target : ContainerId) (name : SymbolId) (value : Value) : Action Unit := do
  let prior := (← get).arena.var? target name
  logAll fun log => (log.saveVariable ⟨target, name⟩ prior).2
  ensure ((← get).arena.isLive target) .deadContainer
  updateArena (·.putVar target name (some value))

def storeVar (name : SymbolId) (src : Reg) : Action Unit := do
  let frame ← frame
  let value ← ofExcept (frame.read src)
  let target := ((← get).arena.findVar? frame.scope name).getD frame.scope
  bindVar target name value

def declareVar (name : SymbolId) (src : Reg) : Action Unit := do
  let frame ← frame
  let value ← ofExcept (frame.read src)
  bindVar frame.scope name value

def declareFunction (name : SymbolId) (function : FunctionId) : Action Unit := do
  let target := (← frame).scope
  ensure ((← get).arena.isLive target) .deadContainer
  let prior := (← get).arena.candidates? target name
  logAll fun log => (log.saveCandidates ⟨target, name⟩ prior).2
  let set := (prior.getD (.empty name)).prepend function
  updateArena (·.putCandidates target name (some set))

def pushScope : Action Unit := do
  let scope ← allocContainer (← frame).scope
  updateFrame ({ · with scope })

/-- Leaves the innermost container, which must not be the base of the frame. -/
def popScope : Action Unit := do
  let frame ← frame
  ensure (frame.scope ≠ frame.base) .scopeUnderflow
  match (← get).arena.parent? frame.scope with
  | none => throw .deadContainer
  | some parent =>
      releaseContainer frame.scope
      updateFrame ({ · with scope := parent })

end Backtrack.Action
