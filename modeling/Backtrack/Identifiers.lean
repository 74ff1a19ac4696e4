/-!
Positions in the tables of a program and of a running machine. Every table has a position type of
its own, so a position of one table cannot be looked up in another.
-/

namespace Backtrack

structure FunctionId where
  index : Nat
deriving DecidableEq, Repr, Inhabited

structure ConstructorId where
  index : Nat
deriving DecidableEq, Repr, Inhabited

structure TypeId where
  index : Nat
deriving DecidableEq, Repr, Inhabited

structure SymbolId where
  index : Nat
deriving DecidableEq, Repr, Inhabited

instance : Ord SymbolId := ⟨compareOn SymbolId.index⟩

instance : Std.TransOrd SymbolId :=
  inferInstanceAs (Std.TransCmp (compareOn SymbolId.index))

instance : Std.LawfulEqOrd SymbolId where
  eq_of_compare equal := congrArg SymbolId.mk (Std.LawfulEqOrd.eq_of_compare (α := Nat) equal)

structure CoroutineId where
  index : Nat
deriving DecidableEq, Repr, Inhabited

/-- The coroutine that runs the entry function. -/
def CoroutineId.root : CoroutineId := ⟨0⟩

structure FrameId where
  index : Nat
deriving DecidableEq, Repr, Inhabited

/-- Positions are 32-bit words, so this is how many entries a table can hold. -/
def tableLimit : Nat := UInt32.size

/-- A register of the active frame. -/
abbrev Reg := Nat

/-- What an unknown position was meant to name. -/
inductive Entity where
  | function | constructor | type | symbol | coroutine
deriving DecidableEq, Repr

def Entity.text : Entity → String
  | .function => "function"
  | .constructor => "constructor"
  | .type => "type"
  | .symbol => "symbol"
  | .coroutine => "coroutine"

end Backtrack
