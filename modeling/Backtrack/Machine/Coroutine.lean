import Backtrack.Machine.Frame
import Backtrack.Stack

/-!
A coroutine is a stack of frames, the entry frame at the bottom, with its catch handlers. It is
fresh until it is first entered, then runs until it suspends itself or has no frames left; while it
runs, it knows the frame that entered it.
-/

namespace Backtrack

/-- Where a coroutine hands control back. -/
structure CallerLink where
  coroutine : CoroutineId
  /-- The position of the waiting frame. -/
  depth : Nat
  /-- Receives whether the coroutine yielded. -/
  ok : Option Reg
  /-- Receives what it yielded. -/
  out : Option Reg
deriving DecidableEq, Repr

/-- A catch handler belongs to the frame at its depth. -/
structure Handler where
  depth : Nat
  target : Nat
  dst : Option Reg
  /-- The serial that the first region opened after the handler receives. -/
  regionSerial : Nat
  /-- The container that was innermost when the handler was pushed. -/
  scope : ContainerId
deriving DecidableEq, Repr

inductive CoroutineState where
  | fresh
  /-- Entered and not suspended, possibly waiting for a coroutine that it entered itself. -/
  | running
  | suspended
  | exhausted
deriving DecidableEq, Repr

structure Coroutine where
  frames : Stack Frame
  /-- The handler pushed last first. -/
  handlers : List Handler
  started : Bool
  suspended : Bool
  /-- Known while the coroutine runs; the root has none. -/
  caller : Option CallerLink
deriving Inhabited

namespace Coroutine

def new (entry : Frame) : Coroutine :=
  ⟨.push .empty entry, [], false, false, none⟩

/-- The root runs from the start. -/
def root (entry : Frame) : Coroutine :=
  { new entry with started := true }

def state (coroutine : Coroutine) : CoroutineState :=
  if !coroutine.started then .fresh
  else if coroutine.frames.isEmpty then .exhausted
  else if coroutine.suspended then .suspended
  else .running

def depth (coroutine : Coroutine) : Nat :=
  coroutine.frames.size

def active? (coroutine : Coroutine) : Option Frame :=
  coroutine.frames.top?

def entry? (coroutine : Coroutine) : Option Frame :=
  coroutine.frames.bottom?

@[inline] def updateActive (coroutine : Coroutine) (change : Frame → Frame) : Coroutine :=
  { coroutine with frames := coroutine.frames.modifyTop change }

def pushFrame (coroutine : Coroutine) (frame : Frame) : Coroutine :=
  { coroutine with frames := coroutine.frames.push frame }

/-- Drops the active frame and its handlers. The caller is forgotten with the last frame. -/
def popFrame (coroutine : Coroutine) : Coroutine :=
  let below := coroutine.frames.pop
  { coroutine with
    frames := below
    handlers := coroutine.handlers.filter (·.depth < below.size)
    caller := if below.isEmpty then none else coroutine.caller }

/-- Transfers control into a coroutine that is fresh or suspended. -/
def enter (coroutine : Coroutine) (id : CoroutineId) (link : CallerLink) :
    Except Fault Coroutine :=
  match coroutine.state with
  | .running => .error (.reentered id)
  | .exhausted => .error (.exhausted id)
  | .fresh | .suspended =>
      if coroutine.frames.isEmpty then .error .noActiveFrame
      else .ok { coroutine with caller := some link, suspended := false, started := true }

/-- Parks a running coroutine and yields the link to its caller. -/
def suspend (coroutine : Coroutine) (id : CoroutineId) : Except Fault (CallerLink × Coroutine) :=
  if coroutine.state = .running then
    match coroutine.caller with
    | some link => .ok (link, { coroutine with caller := none, suspended := true })
    | none => .error (.missingCaller id)
  else .error (.suspendedIdle id)

/-- A coroutine that will not run again. -/
def dead : Coroutine :=
  ⟨.empty, [], true, false, none⟩

/-- Duplicates a coroutine before its first instruction, with an identity and a container of its
own. -/
def copy (coroutine : Coroutine) (id : FrameId) (scope : ContainerId) : Except Fault Coroutine :=
  match coroutine.frames.items with
  | [entry] =>
      if coroutine.suspended || entry.pc ≠ 0 then .error .copyStarted
      else .ok (.new { entry with id, scope, base := scope })
  | _ => .error .copyStarted

end Coroutine

end Backtrack
