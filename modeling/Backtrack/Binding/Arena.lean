import Backtrack.Binding.Candidates
import Backtrack.Chain
import Backtrack.Fault
import Backtrack.Stack
import Std.Data.ExtTreeMap

/-!
Containers of bindings and the arena that owns them. A handle names a slot together with the
generation it was given out in, so that after a container is freed no handle to it resolves, even
when the slot is used again. Lookups follow the parents of a container while they are live.
-/

namespace Backtrack

structure ContainerId where
  index : Nat
  generation : UInt32
deriving DecidableEq, Repr, Inhabited

instance : Ord ContainerId :=
  ⟨compareLex (compareOn ContainerId.index) (compareOn ContainerId.generation)⟩

instance : Std.TransOrd ContainerId :=
  inferInstanceAs
    (Std.TransCmp (compareLex (compareOn ContainerId.index) (compareOn ContainerId.generation)))

instance : Std.LawfulEqOrd ContainerId where
  eq_of_compare {left right} equal := by
    have both := Ordering.then_eq_eq.mp equal
    rcases left with ⟨index, generation⟩
    rcases right with ⟨index', generation'⟩
    simpa [compareOn] using both

structure Container where
  parent : Option ContainerId
  vars : Std.ExtTreeMap SymbolId Value
  candidates : Std.ExtTreeMap SymbolId CandidateSet
deriving Inhabited

def Container.new (parent : Option ContainerId) : Container :=
  ⟨parent, ∅, ∅⟩

structure Slot where
  /-- How often a container of this slot was freed. -/
  frees : Nat
  content : Option Container
deriving Inhabited

/-- Handles have a 32-bit generation, which wraps around. -/
def Slot.generation (slot : Slot) : UInt32 :=
  .ofNat slot.frees

structure Arena where
  slots : Array Slot
  /-- The slots without a container. The one on top is used next. -/
  free : Stack Nat
deriving Inhabited

namespace Arena

def empty : Arena :=
  ⟨#[], .empty⟩

def get? (arena : Arena) (id : ContainerId) : Option Container := do
  let slot ← arena.slots[id.index]?
  if slot.generation = id.generation then slot.content else none

def isLive (arena : Arena) (id : ContainerId) : Bool :=
  (arena.get? id).isSome

def live (arena : Arena) : Nat :=
  arena.slots.size - arena.free.size

/-- Whether there is a slot for one more container. -/
def hasRoom (arena : Arena) : Bool :=
  !arena.free.isEmpty || arena.slots.size < tableLimit

/-- A new container, in the slot that was freed last or else in a new slot. -/
def place (arena : Arena) (parent : Option ContainerId) : ContainerId × Arena :=
  match arena.free.top? with
  | some index =>
      let generation := (arena.slots[index]?.getD default).generation
      (⟨index, generation⟩, {
        slots := arena.slots.modify index fun slot => { slot with content := some (.new parent) }
        free := arena.free.pop })
  | none =>
      (⟨arena.slots.size, 0⟩, { arena with slots := arena.slots.push ⟨0, some (.new parent)⟩ })

def alloc (arena : Arena) (parent : Option ContainerId) : Except Fault (ContainerId × Arena) :=
  if arena.hasRoom then .ok (arena.place parent) else .error .arenaFull

/-- Frees a live container; a stale handle changes nothing. -/
def release (arena : Arena) (id : ContainerId) : Arena :=
  if arena.isLive id then {
    slots := arena.slots.modify id.index fun slot => ⟨slot.frees + 1, none⟩
    free := arena.free.push id.index }
  else arena

/-- Frees a container and tells whether there was one to free. -/
def dispose (arena : Arena) (id : ContainerId) : Bool × Arena :=
  match arena.slots[id.index]? with
  | none => (false, arena)
  | some slot =>
      if slot.generation ≠ id.generation ∨ slot.content.isNone then (false, arena)
      else (true, {
        slots := arena.slots.modify id.index fun slot => ⟨slot.frees + 1, none⟩
        free := arena.free.push id.index })

theorem dispose_eq (arena : Arena) (id : ContainerId) :
    arena.dispose id = (arena.isLive id, arena.release id) := by
  unfold dispose release isLive get?
  cases arena.slots[id.index]? with
  | none => rfl
  | some slot =>
      by_cases same : slot.generation = id.generation
      · cases content : slot.content <;> simp [same, content]
      · simp [same]

def parent? (arena : Arena) (id : ContainerId) : Option ContainerId := do
  (← arena.get? id).parent

/-- Live containers along a chain of parents lie in different slots, and only the last handle may be
stale. So this many steps reach the end of every chain. -/
def reach (arena : Arena) : Nat :=
  arena.slots.size + 1

/-- A handle, its parent, and so on, up to the first that has no parent or is stale. -/
def ancestry (arena : Arena) (id : ContainerId) : List ContainerId :=
  chain arena.parent? arena.reach id

def var? (arena : Arena) (id : ContainerId) (name : SymbolId) : Option Value := do
  (← arena.get? id).vars[name]?

def candidates? (arena : Arena) (id : ContainerId) (name : SymbolId) : Option CandidateSet := do
  (← arena.get? id).candidates[name]?

/-- The nearest container that binds the variable. -/
def findVar? (arena : Arena) (start : ContainerId) (name : SymbolId) : Option ContainerId :=
  firstAlong arena.parent? (fun id => (arena.var? id name).isSome) arena.reach start

theorem findVar?_eq_find? (arena : Arena) (start : ContainerId) (name : SymbolId) :
    arena.findVar? start name =
      (arena.ancestry start).find? fun id => (arena.var? id name).isSome :=
  firstAlong_eq_find? ..

def lookupVar? (arena : Arena) (start : ContainerId) (name : SymbolId) : Option Value := do
  arena.var? (← arena.findVar? start name) name

/-- All candidates visible from a container, those of inner containers first. -/
def resolve (arena : Arena) (start : ContainerId) (name : SymbolId) : Option CandidateSet :=
  match (arena.ancestry start).filterMap (arena.candidates? · name) with
  | [] => none
  | inner :: outer => some (inner.joinAll outer)

/-- Changes a live container; a stale handle changes nothing. -/
@[inline] def modify (arena : Arena) (id : ContainerId) (change : Container → Container) : Arena :=
  if arena.isLive id then
    { arena with
      slots := arena.slots.modify id.index fun slot =>
        { slot with content := slot.content.map change } }
  else arena

/-- Binds the variable, or removes its binding. -/
def putVar (arena : Arena) (id : ContainerId) (name : SymbolId) (value : Option Value) : Arena :=
  arena.modify id fun container =>
    { container with
      vars := match value with
        | some value => container.vars.insert name value
        | none => container.vars.erase name }

def putCandidates (arena : Arena) (id : ContainerId) (name : SymbolId)
    (set : Option CandidateSet) : Arena :=
  arena.modify id fun container =>
    { container with
      candidates := match set with
        | some set => container.candidates.insert name set
        | none => container.candidates.erase name }

def setVar (arena : Arena) (id : ContainerId) (name : SymbolId) (value : Value) :
    Except Fault Arena :=
  if arena.isLive id then .ok (arena.putVar id name (some value)) else .error .deadContainer

def setCandidates (arena : Arena) (id : ContainerId) (name : SymbolId) (set : CandidateSet) :
    Except Fault Arena :=
  if arena.isLive id then .ok (arena.putCandidates id name (some set)) else .error .deadContainer

end Arena

end Backtrack
