/-!
Stacks that know their size. The items are a list, the one pushed last first; a position counts from
the bottom, so an item keeps its position while others are pushed and popped above it.
-/

namespace Backtrack

structure Stack (α : Type) where
  /-- The item on top comes first. -/
  items : List α
  size : Nat
  size_eq : size = items.length

namespace Stack

variable {α : Type}

@[ext] theorem ext {left right : Stack α} (same : left.items = right.items) : left = right := by
  rcases left with ⟨items, size, counted⟩
  rcases right with ⟨items', size', counted'⟩
  cases same
  cases counted
  cases counted'
  rfl

def empty : Stack α :=
  ⟨[], 0, rfl⟩

instance : Inhabited (Stack α) := ⟨empty⟩

def isEmpty (stack : Stack α) : Bool :=
  stack.items.isEmpty

def top? (stack : Stack α) : Option α :=
  stack.items.head?

def bottom? (stack : Stack α) : Option α :=
  stack.items.getLast?

def push (stack : Stack α) (item : α) : Stack α :=
  ⟨item :: stack.items, stack.size + 1, by simp [stack.size_eq]⟩

/-- Drops the item on top, if there is one. -/
def pop (stack : Stack α) : Stack α :=
  ⟨stack.items.tail, stack.size - 1, by simp [stack.size_eq]⟩

def modifyTop (stack : Stack α) (change : α → α) : Stack α :=
  ⟨stack.items.modifyHead change, stack.size, by simp [stack.size_eq]⟩

def map (stack : Stack α) (change : α → α) : Stack α :=
  ⟨stack.items.map change, stack.size, by simp [stack.size_eq]⟩

/-- The item at a position. -/
def at? (stack : Stack α) (position : Nat) : Option α :=
  if position < stack.size then stack.items[stack.size - (position + 1)]? else none

/-- The items below a position. -/
def below (stack : Stack α) (position : Nat) : Stack α :=
  ⟨stack.items.drop (stack.size - position), min position stack.size, by
    simp only [List.length_drop, ← stack.size_eq]
    omega⟩

/-- The items at a position and above it, the one on top first. -/
def above (stack : Stack α) (position : Nat) : List α :=
  stack.items.take (stack.size - position)

theorem at?_eq (stack : Stack α) (position : Nat) :
    stack.at? position = stack.items.reverse[position]? := by
  have counted := stack.size_eq
  unfold at?
  split
  · next within =>
      rw [List.getElem?_reverse (by omega), counted, Nat.sub_sub, Nat.add_comm 1]
  · next beyond =>
      rw [List.getElem?_eq_none (by rw [List.length_reverse]; omega)]

theorem above_append_below (stack : Stack α) (position : Nat) :
    stack.above position ++ (stack.below position).items = stack.items :=
  List.take_append_drop ..

@[simp] theorem items_empty : (empty : Stack α).items = [] := rfl

@[simp] theorem items_push (stack : Stack α) (item : α) :
    (stack.push item).items = item :: stack.items := rfl

@[simp] theorem items_pop (stack : Stack α) : stack.pop.items = stack.items.tail := rfl

@[simp] theorem items_modifyTop (stack : Stack α) (change : α → α) :
    (stack.modifyTop change).items = stack.items.modifyHead change := rfl

@[simp] theorem items_map (stack : Stack α) (change : α → α) :
    (stack.map change).items = stack.items.map change := rfl

end Stack

end Backtrack
