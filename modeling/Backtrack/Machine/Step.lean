import Backtrack.Machine.Bindings
import Backtrack.Machine.Call

/-!
One instruction. `Machine.step` fetches the instruction that the active frame points to, moves the
frame on and executes it. The status then says whether the machine goes on, and if not, why.
-/

namespace Backtrack

namespace Action

/-- Builds a node and writes the one that it is interned as. -/
def makeNode (dst : Reg) (ctor : ConstructorId) (fields : List Reg) : Action Unit := do
  match (← get).program.constructor? ctor with
  | none => throw (.unknownId .constructor ctor.index)
  | some decl =>
      ensure (decl.arity = fields.length) (.arityMismatch decl.name decl.arity fields.length)
      let values ← ofExcept ((← frame).readAll fields)
      write dst (← intern ⟨ctor, values⟩)

def hasShape (dst value : Reg) (type : TypeId) : Action Unit := do
  match (← get).program.type? type with
  | none => throw (.unknownId .type type.index)
  | some shape => write dst (.bool (shape.accepts (← read value)))

/-- Empties a register and moves its value. -/
def move (dst src : Reg) : Action Unit := do
  let value ← read src
  updateFrame (·.put src none)
  write dst value

def intOp (op : IntOp) (dst a b : Reg) : Action Unit := do
  let frame ← frame
  let a ← ofExcept (frame.readInt a)
  let b ← ofExcept (frame.readInt b)
  write dst (op.apply a b)

def branch (condition : Reg) (whenTrue whenFalse : Nat) : Action Unit := do
  let holds ← ofExcept ((← frame).readBool condition)
  updateFrame ({ · with pc := if holds then whenTrue else whenFalse })

/-- After an instruction that neither ends the run nor raises, the machine goes on. -/
@[inline] def thenProceed (action : Action Unit) : Action Outcome := do
  action
  return .proceed

def execute : Instruction → Action Outcome
  | .const dst value => thenProceed (write dst (.ofLiteral value))
  | .copy dst src => thenProceed do write dst (← read src)
  | .move dst src => thenProceed (move dst src)
  | .int op dst a b => thenProceed (intOp op dst a b)
  | .not dst value => thenProceed do
      write dst (.bool !(← ofExcept ((← frame).readBool value)))
  | .equal dst a b => thenProceed do
      let left ← read a
      let right ← read b
      write dst (.bool (left.same right))
  | .makeNode dst ctor fields => thenProceed (makeNode dst ctor fields)
  | .field dst node position => thenProceed do
      write dst (← ofExcept ((← frame).readField node position))
  | .hasShape dst value type => thenProceed (hasShape dst value type)
  | .loadVar dst name => loadVar dst name
  | .storeVar name src => thenProceed (storeVar name src)
  | .declareVar name src => thenProceed (declareVar name src)
  | .declareFunction name function => thenProceed (declareFunction name function)
  | .pushScope => thenProceed pushScope
  | .popScope => thenProceed popScope
  | .call dst callee args => call dst callee args
  | .return value => do returnValue (← read value)
  | .createCoroutine dst function args => thenProceed (createCoroutine dst function args)
  | .enterCoroutine dst coroutine out => thenProceed (enterCoroutine dst coroutine out)
  | .hasNext dst coroutine => thenProceed (hasNext dst coroutine)
  | .copyCoroutine dst coroutine => thenProceed (copyCoroutine dst coroutine)
  | .yield value => thenProceed (yieldValue value)
  | .openRegion => thenProceed openRegion
  | .commitRegion => thenProceed (closeRegion .commit)
  | .rollbackRegion => thenProceed (closeRegion .rollback)
  | .noSolution => raise .noSolution
  | .pushCatch target dst => thenProceed (pushHandler target dst)
  | .popCatch => thenProceed popHandler
  | .throw value => do raise (.thrown (← read value))
  | .jump target => thenProceed (updateFrame ({ · with pc := target }))
  | .branch condition whenTrue whenFalse => thenProceed (branch condition whenTrue whenFalse)
  | .trap message => throw (.trap message)

/-- The next instruction. The active frame moves past it before it is executed. -/
def fetch : Action Instruction := do
  let active ← frame
  updateFrame fun frame => { frame with pc := frame.pc + 1 }
  match (← get).program.function? active.function with
  | none => throw (.unknownId .function active.function.index)
  | some unit =>
      match unit.code[active.pc]? with
      | some instruction => return instruction
      | none => throw (.ranOffEnd unit.name)

def noteDepth : Action Unit :=
  modify fun machine =>
    let depth := machine.depth
    machine.count (·.noteDepth depth)

def cycle : Action Outcome := do
  noteDepth
  let instruction ← fetch
  count (·.record instruction)
  execute instruction

end Action

namespace Machine

/-- The machine after one instruction. A fault stops it in the state that the instruction left. -/
def step (machine : Machine) : Machine :=
  match Action.cycle machine with
  | .ok .proceed after => after
  | .ok (.done value) after => { after with status := .done value }
  | .ok (.uncaught condition) after => { after with status := .uncaught condition }
  | .error fault after =>
      { after.count (·.noteDepth after.depth) with status := .trapped fault }

end Machine

end Backtrack
