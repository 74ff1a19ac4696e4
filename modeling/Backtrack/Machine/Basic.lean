import Backtrack.Binding.RollbackLog
import Backtrack.Condition
import Backtrack.Dispatch
import Backtrack.Machine.Coroutine
import Backtrack.Machine.Counters
import Backtrack.Machine.NodeTable
import Backtrack.Machine.Settings

/-!
The state of a machine, and actions on it. An action may fault; the state then is what the action
had made of it when the fault arose. Coroutine 0 runs the entry function, and the current coroutine
is the one whose active frame executes the next instruction.
-/

namespace Backtrack

/-- An open backtracking region and the frame that must close it. -/
structure Region where
  /-- Increases with every region that the machine opens. -/
  serial : Nat
  owner : FrameId
  log : RollbackLog
deriving Inhabited

inductive Status where
  | running
  | done (value : Value)
  | uncaught (condition : Condition)
  | trapped (fault : Fault)
deriving DecidableEq

structure Machine where
  program : Program
  settings : Settings
  status : Status
  coroutines : Array Coroutine
  current : CoroutineId
  arena : Arena
  /-- The container that every chain ends in. -/
  globals : ContainerId
  /-- The open regions, the innermost on top. -/
  regions : Stack Region
  nextSerial : Nat
  nodes : NodeTable
  nextFrame : Nat
  counters : Counters
  collecting : Bool

abbrev Action := EStateM Fault Machine

/-- How an instruction leaves the machine. -/
inductive Outcome where
  | proceed
  | done (value : Value)
  | uncaught (condition : Condition)

@[inline] def Action.ofExcept {α : Type} : Except Fault α → Action α
  | .ok a => pure a
  | .error fault => throw fault

/-- Goes on only if a rule holds. -/
@[inline] def Action.ensure (rule : Prop) [Decidable rule] (fault : Fault) : Action Unit :=
  if rule then pure () else throw fault

namespace Machine

/-- Counts something while counters are collected. -/
@[inline] def count (machine : Machine) (change : Counters → Counters) : Machine :=
  if machine.collecting then { machine with counters := change machine.counters } else machine

@[inline] def updateCoroutine (machine : Machine) (id : CoroutineId)
    (change : Coroutine → Coroutine) : Machine :=
  { machine with coroutines := machine.coroutines.modify id.index change }

@[inline] def updateFrame (machine : Machine) (id : CoroutineId) (change : Frame → Frame) :
    Machine :=
  machine.updateCoroutine id (·.updateActive change)

def coroutine? (machine : Machine) (id : CoroutineId) : Option Coroutine :=
  machine.coroutines[id.index]?

/-- The frame that executes the next instruction. -/
def active? (machine : Machine) : Option Frame := do
  (← machine.coroutine? machine.current).active?

def depth (machine : Machine) : Nat :=
  ((machine.coroutine? machine.current).map Coroutine.depth).getD 0

end Machine

namespace Action

@[inline] def count (change : Counters → Counters) : Action Unit :=
  modify (·.count change)

def coroutine (id : CoroutineId) : Action Coroutine := do
  match (← get).coroutine? id with
  | some coroutine => return coroutine
  | none => throw (.unknownId .coroutine id.index)

/-- The active frame of a coroutine. -/
def frameOf (id : CoroutineId) : Action Frame := do
  match (← coroutine id).active? with
  | some frame => return frame
  | none => throw .noActiveFrame

def frame : Action Frame := do
  frameOf (← get).current

@[inline] def updateCoroutine (id : CoroutineId) (change : Coroutine → Coroutine) : Action Unit :=
  modify (·.updateCoroutine id change)

/-- Changes the active frame of the current coroutine. -/
@[inline] def updateFrame (change : Frame → Frame) : Action Unit :=
  modify fun machine => machine.updateFrame machine.current change

/-- Writes a register of the active frame of a coroutine. -/
def writeOf (id : CoroutineId) (reg : Reg) (value : Value) : Action Unit := do
  ensure ((← frameOf id).hasRegister reg) (.invalidRegister reg)
  modify (·.updateFrame id (·.put reg (some value)))

/-- Writes a register that may be left out. -/
def writeOptionOf (id : CoroutineId) (reg : Option Reg) (value : Value) : Action Unit :=
  match reg with
  | some reg => writeOf id reg value
  | none => pure ()

def write (reg : Reg) (value : Value) : Action Unit := do
  writeOf (← get).current reg value

def writeOption (reg : Option Reg) (value : Value) : Action Unit := do
  writeOptionOf (← get).current reg value

def read (reg : Reg) : Action Value := do
  ofExcept ((← frame).read reg)

def freshFrameId : Action FrameId :=
  modifyGet fun machine =>
    (⟨machine.nextFrame⟩, { machine with nextFrame := machine.nextFrame + 1 })

def intern (node : Node) : Action Value :=
  modifyGet fun machine =>
    let (value, nodes) := machine.nodes.intern node
    (value, { machine with nodes })

@[inline] def updateArena (change : Arena → Arena) : Action Unit :=
  modify fun machine => { machine with arena := change machine.arena }

def allocContainer (parent : ContainerId) : Action ContainerId := do
  ensure (← get).arena.hasRoom .arenaFull
  modifyGet fun machine =>
    let (id, arena) := machine.arena.place (some parent)
    (id, { machine with arena })

def releaseContainer (id : ContainerId) : Action Unit :=
  updateArena (·.release id)

end Action

end Backtrack
