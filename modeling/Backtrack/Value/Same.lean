import Backtrack.Value.Basic

/-!
Sameness of structure. Values are the same when they are built alike, wherever their nodes are kept.
This is the equality that programs see: one value cannot be told from another that is the same.
-/

namespace Backtrack

namespace Value

mutual

def same : Value → Value → Bool
  | .unit, .unit => true
  | .bool a, .bool b => a = b
  | .int a, .int b => a = b
  | .str a, .str b => a = b
  | .node _ c xs, .node _ d ys => c = d && allSame xs ys
  | .function a, .function b => a = b
  | .coroutine a, .coroutine b => a = b
  | _, _ => false

def allSame : List Value → List Value → Bool
  | [], [] => true
  | x :: xs, y :: ys => x.same y && allSame xs ys
  | _, _ => false

end

mutual

/-- The structure of a value alone: all its nodes are kept in one place. -/
def bare : Value → Value
  | .node _ ctor fields => .node (.host 0) ctor (bares fields)
  | other => other

def bares : List Value → List Value
  | [] => []
  | value :: rest => value.bare :: bares rest

end

variable {v w x : Value}

mutual

theorem same_iff : (v w : Value) → (v.same w = true ↔ v.bare = w.bare)
  | .node _ c xs, .node _ d ys => by simp [same, bare, allSame_iff xs ys]
  | .unit, w | .bool _, w | .int _, w | .str _, w | .function _, w | .coroutine _, w => by
      cases w <;> simp [same, bare]
  | .node .., .unit | .node .., .bool _ | .node .., .int _ | .node .., .str _
  | .node .., .function _ | .node .., .coroutine _ => by simp [same, bare]

theorem allSame_iff : (vs ws : List Value) → (allSame vs ws = true ↔ bares vs = bares ws)
  | [], [] => by simp [allSame]
  | [], _ :: _ | _ :: _, [] => by simp [allSame, bares]
  | v :: vs, w :: ws => by simp [allSame, bares, same_iff v w, allSame_iff vs ws]

end

theorem same_refl (v : Value) : v.same v = true :=
  (same_iff v v).mpr rfl

theorem same_symm (same : v.same w = true) : w.same v = true :=
  (same_iff w v).mpr ((same_iff v w).mp same).symm

theorem same_trans (same : v.same w = true) (same' : w.same x = true) : v.same x = true :=
  (same_iff v x).mpr (((same_iff v w).mp same).trans ((same_iff w x).mp same'))

theorem same_equivalence : Equivalence fun v w : Value => v.same w = true :=
  ⟨same_refl, same_symm, same_trans⟩

end Value

namespace Node

/-- Nodes of the same structure. -/
def same (node other : Node) : Bool :=
  node.ctor = other.ctor && Value.allSame node.fields other.fields

/-- The structure of a node alone. -/
def bare (node : Node) : Node :=
  ⟨node.ctor, Value.bares node.fields⟩

variable {node other : Node} {home home' : Allocation}

theorem same_iff : node.same other = true ↔ node.bare = other.bare := by
  simp [same, bare, Value.allSame_iff]

theorem same_refl (node : Node) : node.same node = true :=
  same_iff.mpr rfl

/-- It does not matter where nodes are kept. -/
theorem same_keptAt : (node.keptAt home).same (other.keptAt home') = node.same other := rfl

end Node

end Backtrack
