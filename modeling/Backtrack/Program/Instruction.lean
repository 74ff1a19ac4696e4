import Backtrack.Value.Basic

/-!
Instructions of a code unit. Registers are local to an activation; named bindings live in
containers, so that a backtracking region can log and undo what happens to them. A destination that
may be left out is an option.
-/

namespace Backtrack

/-- Operations on two integers. The first three wrap around at 64 bits; the others yield a truth
value. -/
inductive IntOp where
  | add | sub | mul | lt | le | eq | ne
deriving DecidableEq, Repr

def IntOp.apply : IntOp → Int64 → Int64 → Value
  | .add, a, b => .int (a + b)
  | .sub, a, b => .int (a - b)
  | .mul, a, b => .int (a * b)
  | .lt, a, b => .bool (a < b)
  | .le, a, b => .bool (a ≤ b)
  | .eq, a, b => .bool (a = b)
  | .ne, a, b => .bool (a ≠ b)

/-- A fixed code unit, or an overloaded name whose candidates are found when the call is made. -/
inductive Callee where
  | direct (id : FunctionId)
  | overloaded (name : SymbolId)
deriving DecidableEq, Repr

inductive Instruction where
  | const (dst : Reg) (value : Literal)
  | copy (dst src : Reg)
  | move (dst src : Reg)
  | int (op : IntOp) (dst a b : Reg)
  | not (dst value : Reg)
  | equal (dst a b : Reg)
  | makeNode (dst : Reg) (ctor : ConstructorId) (fields : List Reg)
  | field (dst node : Reg) (position : Nat)
  | hasShape (dst value : Reg) (type : TypeId)
  /-- Reads the nearest binding of the name along the container chain. -/
  | loadVar (dst : Reg) (name : SymbolId)
  /-- Rebinds the name where it is bound nearest, or else binds it in the current container. -/
  | storeVar (name : SymbolId) (src : Reg)
  /-- Binds the name in the current container, shadowing outer bindings. -/
  | declareVar (name : SymbolId) (src : Reg)
  /-- Puts the function before the candidates that the current container has for the name. -/
  | declareFunction (name : SymbolId) (function : FunctionId)
  | pushScope
  | popScope
  | call (dst : Option Reg) (callee : Callee) (args : List Reg)
  | return (value : Reg)
  | createCoroutine (dst : Reg) (function : FunctionId) (args : List Reg)
  /-- Enters a coroutine. `dst` tells whether it yielded, and `out` receives what it yielded. -/
  | enterCoroutine (dst : Option Reg) (coroutine : Reg) (out : Option Reg)
  | hasNext (dst coroutine : Reg)
  | copyCoroutine (dst coroutine : Reg)
  | yield (value : Option Reg)
  | openRegion
  | commitRegion
  | rollbackRegion
  | noSolution
  | pushCatch (target : Nat) (dst : Option Reg)
  | popCatch
  | throw (value : Reg)
  | jump (target : Nat)
  | branch (condition : Reg) (whenTrue whenFalse : Nat)
  | trap (message : String)
deriving DecidableEq, Inhabited

/-- Control never falls through to the instruction behind a terminator. -/
def Instruction.isTerminator : Instruction → Bool
  | .return _ | .jump _ | .throw _ | .noSolution | .trap _ => true
  | _ => false

end Backtrack
