import Backtrack.Value.Basic

/-!
Shapes describe values by structure. Overload selection and shape tests accept a value exactly when
its shape does: `accepts` descends into the fields of a node as far as the shape spells them out.
-/

namespace Backtrack

inductive Shape where
  | any
  | unit
  | bool
  | int
  | str
  | function
  | coroutine
  /-- A node of any constructor. -/
  | node
  | literal (value : Literal)
  /-- A node of this constructor whose fields have these shapes, one for one. -/
  | constructed (ctor : ConstructorId) (fields : List Shape)
deriving Inhabited

mutual

def Shape.accepts : Shape → Value → Bool
  | .any, _ => true
  | .unit, .unit => true
  | .bool, .bool _ => true
  | .int, .int _ => true
  | .str, .str _ => true
  | .function, .function _ => true
  | .coroutine, .coroutine _ => true
  | .node, .node .. => true
  | .literal expected, found => found.isLiteral expected
  | .constructed ctor shapes, .node _ found fields => found = ctor && Shape.acceptsAll shapes fields
  | _, _ => false

def Shape.acceptsAll : List Shape → List Value → Bool
  | [], [] => true
  | shape :: shapes, value :: values => shape.accepts value && Shape.acceptsAll shapes values
  | _, _ => false

end

end Backtrack
