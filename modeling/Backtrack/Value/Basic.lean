import Backtrack.Identifiers

/-!
The values a program computes with, and the literals it can write down. Integers are 64-bit words;
a node is a constructor applied to field values and is kept in an allocation. Two values are equal
when their nodes are kept in the same allocations as well; programs compare structure only.
-/

namespace Backtrack

inductive Literal where
  | unit
  | bool (b : Bool)
  | int (n : Int64)
  | str (text : String)
  | function (id : FunctionId)
deriving DecidableEq, Inhabited

/-- Where a node is kept. A table of nodes numbers its allocations, and so does a host that builds
nodes of its own. -/
inductive Allocation where
  | host (number : Nat)
  | table (number : Nat)
deriving DecidableEq, Repr, Inhabited

inductive Value where
  | unit
  | bool (b : Bool)
  | int (n : Int64)
  | str (text : String)
  | node (home : Allocation) (ctor : ConstructorId) (fields : List Value)
  | function (id : FunctionId)
  | coroutine (id : CoroutineId)
deriving Inhabited

mutual

def Value.decEq : (v w : Value) → Decidable (v = w)
  | .unit, .unit => isTrue rfl
  | .bool a, .bool b => decidable_of_iff (a = b) (by simp)
  | .int a, .int b => decidable_of_iff (a = b) (by simp)
  | .str a, .str b => decidable_of_iff (a = b) (by simp)
  | .function a, .function b => decidable_of_iff (a = b) (by simp)
  | .coroutine a, .coroutine b => decidable_of_iff (a = b) (by simp)
  | .node home c xs, .node home' d ys =>
      if same : home = home' ∧ c = d then
        match Value.listDecEq xs ys with
        | isTrue equal => isTrue (by rw [same.1, same.2, equal])
        | isFalse differ => isFalse fun equal => differ (Value.node.inj equal).2.2
      else isFalse fun equal => same ⟨(Value.node.inj equal).1, (Value.node.inj equal).2.1⟩
  | .unit, .bool _ | .unit, .int _ | .unit, .str _ | .unit, .node .. | .unit, .function _
  | .unit, .coroutine _ => isFalse nofun
  | .bool _, .unit | .bool _, .int _ | .bool _, .str _ | .bool _, .node ..
  | .bool _, .function _ | .bool _, .coroutine _ => isFalse nofun
  | .int _, .unit | .int _, .bool _ | .int _, .str _ | .int _, .node .. | .int _, .function _
  | .int _, .coroutine _ => isFalse nofun
  | .str _, .unit | .str _, .bool _ | .str _, .int _ | .str _, .node .. | .str _, .function _
  | .str _, .coroutine _ => isFalse nofun
  | .node .., .unit | .node .., .bool _ | .node .., .int _ | .node .., .str _
  | .node .., .function _ | .node .., .coroutine _ => isFalse nofun
  | .function _, .unit | .function _, .bool _ | .function _, .int _ | .function _, .str _
  | .function _, .node .. | .function _, .coroutine _ => isFalse nofun
  | .coroutine _, .unit | .coroutine _, .bool _ | .coroutine _, .int _ | .coroutine _, .str _
  | .coroutine _, .node .. | .coroutine _, .function _ => isFalse nofun

def Value.listDecEq : (xs ys : List Value) → Decidable (xs = ys)
  | [], [] => isTrue rfl
  | [], _ :: _ | _ :: _, [] => isFalse nofun
  | x :: xs, y :: ys =>
      match Value.decEq x y with
      | isTrue same =>
          match Value.listDecEq xs ys with
          | isTrue equal => isTrue (by rw [same, equal])
          | isFalse differ => isFalse fun equal => differ (List.cons.inj equal).2
      | isFalse differ => isFalse fun equal => differ (List.cons.inj equal).1

end

instance : DecidableEq Value := Value.decEq

/-- The sort of a value, as type errors name it. -/
inductive ValueKind where
  | unit | bool | int | string | node | function | coroutine
deriving DecidableEq, Repr

def ValueKind.text : ValueKind → String
  | .unit => "unit"
  | .bool => "bool"
  | .int => "int"
  | .string => "string"
  | .node => "node"
  | .function => "function"
  | .coroutine => "coroutine"

namespace Value

def kind : Value → ValueKind
  | .unit => .unit
  | .bool _ => .bool
  | .int _ => .int
  | .str _ => .string
  | .node .. => .node
  | .function _ => .function
  | .coroutine _ => .coroutine

def ofLiteral : Literal → Value
  | .unit => .unit
  | .bool b => .bool b
  | .int n => .int n
  | .str text => .str text
  | .function id => .function id

/-- Whether a value is what a literal stands for. A literal of another sort is not. -/
def isLiteral : Value → Literal → Bool
  | .unit, .unit => true
  | .bool a, .bool b => a = b
  | .int a, .int b => a = b
  | .str a, .str b => a = b
  | .function a, .function b => a = b
  | _, _ => false

theorem isLiteral_iff {value : Value} {literal : Literal} :
    value.isLiteral literal = true ↔ value = ofLiteral literal := by
  cases value <;> cases literal <;> simp [isLiteral, ofLiteral]

/-- Where the node is kept, if the value is one. -/
def home? : Value → Option Allocation
  | .node home _ _ => some home
  | _ => none

end Value

/-- A constructor and its fields, before they are kept anywhere. -/
structure Node where
  ctor : ConstructorId
  fields : List Value
deriving DecidableEq, Inhabited

def Node.keptAt (node : Node) (home : Allocation) : Value :=
  .node home node.ctor node.fields

end Backtrack
