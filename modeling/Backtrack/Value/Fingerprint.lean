import Backtrack.Value.Same

/-!
Fingerprints of values: values of the same structure have the same fingerprint, and others rarely
do. A table of nodes looks for a node only among those with its fingerprint.
-/

namespace Backtrack

namespace Value

/-- Adds a word to a fingerprint. -/
@[inline] def mix (mark word : UInt64) : UInt64 :=
  let mixed := (mark ^^^ word) * 0x9E3779B97F4A7C15
  mixed ^^^ (mixed >>> 32)

mutual

/-- Adds a value to a fingerprint: a word for its constructor, then its contents. -/
def mark (found : UInt64) : Value → UInt64
  | .unit => mix found 1
  | .bool b => mix (mix found 2) b.toUInt64
  | .int n => mix (mix found 3) n.toUInt64
  | .str text => text.toList.foldl (fun found c => mix found c.val.toUInt64) (mix found 4)
  | .node _ ctor fields => fieldsMark (mix (mix found 5) (.ofNat ctor.index)) fields
  | .function id => mix (mix found 6) (.ofNat id.index)
  | .coroutine id => mix (mix found 7) (.ofNat id.index)

def fieldsMark (found : UInt64) : List Value → UInt64
  | [] => mix found 8
  | field :: rest => fieldsMark (field.mark found) rest

end

mutual

theorem mark_bare (found : UInt64) : (value : Value) → value.bare.mark found = value.mark found
  | .node _ ctor fields => by rw [bare, mark, mark, fieldsMark_bares]
  | .unit | .bool _ | .int _ | .str _ | .function _ | .coroutine _ => rfl

theorem fieldsMark_bares (found : UInt64) :
    (fields : List Value) → fieldsMark found (bares fields) = fieldsMark found fields
  | [] => rfl
  | field :: rest => by rw [bares, fieldsMark, fieldsMark, mark_bare, fieldsMark_bares]

end

end Value

namespace Node

def fingerprint (node : Node) : UInt64 :=
  Value.fieldsMark (Value.mix 0 (.ofNat node.ctor.index)) node.fields

theorem fingerprint_bare (node : Node) : node.bare.fingerprint = node.fingerprint :=
  Value.fieldsMark_bares ..

theorem fingerprint_eq_of_same {node other : Node} (same : node.same other = true) :
    node.fingerprint = other.fingerprint := by
  rw [← fingerprint_bare, same_iff.mp same, fingerprint_bare]

end Node

end Backtrack
