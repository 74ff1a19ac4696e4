import Backtrack.Value.Fingerprint
import Std.Data.TreeMap

/-!
The nodes a machine has built, each structure once. A node is kept in the allocation that the table
made for the first node of its structure.
-/

namespace Backtrack

structure NodeTable where
  /-- The node in each allocation. -/
  nodes : Array Node
  /-- The allocations of the nodes with a fingerprint. -/
  positions : Std.TreeMap UInt64 (List Nat)
deriving Inhabited

namespace NodeTable

def empty : NodeTable :=
  ⟨#[], ∅⟩

def size (table : NodeTable) : Nat :=
  table.nodes.size

/-- The node in an allocation of the table. -/
def kept? (table : NodeTable) (position : Nat) : Option Value := do
  return (← table.nodes[position]?).keptAt (.table position)

/-- The node of the same structure that the table has. -/
def find? (table : NodeTable) (node : Node) : Option Value :=
  (table.positions.getD node.fingerprint []).findSome? fun position => do
    if (← table.nodes[position]?).same node then table.kept? position else none

/-- The node that the table has, or else the node itself in a new allocation of the table. -/
def intern (table : NodeTable) (node : Node) : Value × NodeTable :=
  match table.find? node with
  | some existing => (existing, table)
  | none =>
      let position := table.nodes.size
      let alike := table.positions.getD node.fingerprint []
      (node.keptAt (.table position), {
        nodes := table.nodes.push node
        positions := table.positions.insert node.fingerprint (position :: alike) })

/-- What is found is a node of the table. -/
theorem find?_eq_some {table : NodeTable} {node : Node} {value : Value}
    (found : table.find? node = some value) : ∃ (stored : Node) (position : Nat),
      value = stored.keptAt (.table position) ∧ table.nodes[position]? = some stored ∧
        stored.same node = true := by
  obtain ⟨position, -, found⟩ := List.exists_of_findSome?_eq_some found
  obtain ⟨stored, within, found⟩ := Option.bind_eq_some_iff.mp found
  split at found
  · next same =>
      rw [kept?, within] at found
      exact ⟨stored, position, (Option.some.inj found).symm, within, same⟩
  · cases found

/-- A node is interned as one of its structure, which then is in the table. -/
theorem intern_eq (table : NodeTable) (node : Node) : ∃ (stored : Node) (position : Nat),
    (table.intern node).1 = stored.keptAt (.table position) ∧
      (table.intern node).2.nodes[position]? = some stored ∧ stored.same node = true := by
  unfold intern
  split
  · next found => exact find?_eq_some found
  · exact ⟨node, table.nodes.size, rfl, Array.getElem?_push_size, node.same_refl⟩

end NodeTable

end Backtrack
