import Backtrack.Binding.Arena

/-!
One activation of a code unit: its program counter, its registers, and the chain of containers it
pushed above its base container.
-/

namespace Backtrack

/-- What happens when the activation returns. -/
inductive Role where
  /-- The first frame of a coroutine. -/
  | entry
  /-- A call, with the caller's register for the result. -/
  | callee (dst : Option Reg)
deriving DecidableEq, Repr, Inhabited

structure Frame where
  id : FrameId
  function : FunctionId
  pc : Nat
  registers : Array (Option Value)
  role : Role
  /-- The innermost container. -/
  scope : ContainerId
  /-- The outermost container of this activation. -/
  base : ContainerId
deriving Inhabited

namespace Frame

def new (id : FrameId) (function : FunctionId) (registerCount : Nat) (role : Role)
    (scope : ContainerId) : Frame where
  id
  function
  pc := 0
  registers := Array.replicate registerCount none
  role
  scope
  base := scope

def isEntry (frame : Frame) : Bool :=
  frame.role = .entry

def read (frame : Frame) (reg : Reg) : Except Fault Value :=
  match frame.registers[reg]? with
  | none => .error (.invalidRegister reg)
  | some none => .error (.emptyRegister reg)
  | some (some value) => .ok value

def readAll (frame : Frame) (regs : List Reg) : Except Fault (List Value) :=
  regs.mapM frame.read

def readInt (frame : Frame) (reg : Reg) : Except Fault Int64 := do
  match ← frame.read reg with
  | .int n => return n
  | other => .error (.typeMismatch .int other.kind)

def readBool (frame : Frame) (reg : Reg) : Except Fault Bool := do
  match ← frame.read reg with
  | .bool b => return b
  | other => .error (.typeMismatch .bool other.kind)

def readCoroutine (frame : Frame) (reg : Reg) : Except Fault CoroutineId := do
  match ← frame.read reg with
  | .coroutine id => return id
  | other => .error (.typeMismatch .coroutine other.kind)

/-- Field `position` of the node in a register. -/
def readField (frame : Frame) (reg : Reg) (position : Nat) : Except Fault Value := do
  match ← frame.read reg with
  | .node _ _ fields =>
      match fields[position]? with
      | some field => return field
      | none => .error (.fieldOutOfRange position fields.length)
  | other => .error (.typeMismatch .node other.kind)

/-- Sets a register, if the frame has it. -/
def put (frame : Frame) (reg : Reg) (content : Option Value) : Frame :=
  { frame with registers := frame.registers.setIfInBounds reg content }

def hasRegister (frame : Frame) (reg : Reg) : Bool :=
  reg < frame.registers.size

/-- Passes arguments in the first registers, in order. -/
def withArguments (frame : Frame) (args : List Value) : Except Fault Frame :=
  args.zipIdx.foldlM (fun frame (value, reg) =>
    if frame.hasRegister reg then .ok (frame.put reg (some value))
    else .error (.invalidRegister reg)) frame

end Frame

end Backtrack
