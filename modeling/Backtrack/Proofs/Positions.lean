import Backtrack.Machine.Basic

/-!
Where things are in a machine: items of a stack by position, coroutines by identity, frames by
coroutine and depth. The laws say which position an update changes and that it leaves every other
one as it was.
-/

namespace Backtrack

namespace Stack

variable {α : Type} {stack : Stack α} {item : α} {position : Nat} {change : α → α}

@[simp] theorem size_empty : (empty : Stack α).size = 0 := rfl

@[simp] theorem size_push : (stack.push item).size = stack.size + 1 := rfl

@[simp] theorem size_pop : stack.pop.size = stack.size - 1 := rfl

@[simp] theorem size_modifyTop : (stack.modifyTop change).size = stack.size := rfl

@[simp] theorem size_below {cut : Nat} : (stack.below cut).size = min cut stack.size := rfl

theorem isEmpty_iff : stack.isEmpty = true ↔ stack.size = 0 := by
  rw [isEmpty, List.isEmpty_iff, stack.size_eq, List.length_eq_zero_iff]

theorem at?_isSome : (stack.at? position).isSome = true ↔ position < stack.size := by
  rw [at?_eq, stack.size_eq]
  simp

theorem lt_of_at? (found : stack.at? position = some item) : position < stack.size :=
  at?_isSome.mp (by rw [found]; rfl)

theorem at?_eq_none (beyond : stack.size ≤ position) : stack.at? position = none := by
  rw [at?_eq, List.getElem?_eq_none]
  rw [List.length_reverse, ← stack.size_eq]
  exact beyond

@[simp] theorem at?_empty : (empty : Stack α).at? position = none := rfl

theorem at?_push :
    (stack.push item).at? position = if position = stack.size then some item
      else stack.at? position := by
  simp only [at?_eq, items_push, List.reverse_cons, List.getElem?_append, List.length_reverse,
    ← stack.size_eq]
  split
  · next below => rw [if_neg (by omega)]
  · next beyond =>
      split
      · next same => simp [same]
      · next other =>
          rw [List.getElem?_eq_none (by simp; omega),
            List.getElem?_eq_none (by simp [← stack.size_eq]; omega)]

theorem at?_pop :
    stack.pop.at? position = if position + 1 < stack.size then stack.at? position else none := by
  simp only [at?_eq, items_pop, stack.size_eq]
  cases stack.items with
  | nil => simp
  | cons top rest =>
      simp only [List.tail_cons, List.reverse_cons, List.length_cons]
      split
      · next within => rw [List.getElem?_append_left (by simp; omega)]
      · next beyond => rw [List.getElem?_eq_none (by simp; omega)]

theorem at?_modifyTop :
    (stack.modifyTop change).at? position =
      if position + 1 = stack.size then (stack.at? position).map change
      else stack.at? position := by
  simp only [at?_eq, items_modifyTop, stack.size_eq]
  cases stack.items with
  | nil => simp
  | cons top rest =>
      simp only [List.modifyHead_cons, List.reverse_cons, List.length_cons,
        Nat.add_right_cancel_iff]
      split
      · next last => simp [last]
      · next other =>
          by_cases below : position < rest.length
          · rw [List.getElem?_append_left (by simpa using below),
              List.getElem?_append_left (by simpa using below)]
          · rw [List.getElem?_eq_none (by simp; omega), List.getElem?_eq_none (by simp; omega)]

theorem at?_below {cut : Nat} :
    (stack.below cut).at? position = if position < cut then stack.at? position else none := by
  simp only [at?_eq, below, List.reverse_drop, stack.size_eq]
  have kept : stack.items.length - (stack.items.length - cut) = min cut stack.items.length := by
    omega
  rw [kept, List.getElem?_take]
  by_cases inside : position < stack.items.length
  · simp only [Nat.lt_min, inside, and_true]
  · rw [if_neg (by omega), List.getElem?_eq_none (by simp; omega), ite_self]

theorem mem_above_iff {cut : Nat} :
    item ∈ stack.above cut ↔ ∃ position, cut ≤ position ∧ stack.at? position = some item := by
  simp only [above, List.mem_take_iff_getElem, at?]
  have counted := stack.size_eq
  constructor
  · rintro ⟨index, within, rfl⟩
    refine ⟨stack.size - (index + 1), by omega, ?_⟩
    have back : stack.size - (stack.size - (index + 1) + 1) = index := by omega
    rw [if_pos (by omega), back, List.getElem?_eq_getElem]
  · rintro ⟨position, high, located⟩
    split at located
    · obtain ⟨within, same⟩ := List.getElem?_eq_some_iff.mp located
      exact ⟨_, by omega, same⟩
    · cases located

theorem above_zero : stack.above 0 = stack.items := by
  rw [above, Nat.sub_zero, stack.size_eq, List.take_length]

/-- Items are related when they are so for their positions. -/
theorem pairwise_items {relates : α → α → Prop}
    (holds : ∀ low high {lower upper}, low < high → stack.at? low = some lower →
      stack.at? high = some upper → relates upper lower) : stack.items.Pairwise relates := by
  have counted := stack.size_eq
  refine List.pairwise_iff_getElem.mpr fun first second inside inside' before => ?_
  refine holds (stack.size - (second + 1)) (stack.size - (first + 1)) (by omega) ?_ ?_
  · have back : stack.size - (stack.size - (second + 1) + 1) = second := by omega
    rw [at?, if_pos (by omega), back, List.getElem?_eq_getElem]
  · have back : stack.size - (stack.size - (first + 1) + 1) = first := by omega
    rw [at?, if_pos (by omega), back, List.getElem?_eq_getElem]

theorem top?_eq_at? : stack.top? = stack.at? (stack.size - 1) := by
  rw [at?_eq, top?, stack.size_eq]
  cases stack.items <;> simp

theorem mem_items_iff : item ∈ stack.items ↔ ∃ position, stack.at? position = some item := by
  simp only [at?_eq, ← List.mem_iff_getElem?, List.mem_reverse]

end Stack

namespace Machine

variable {machine : Machine} {id other : CoroutineId} {depth : Nat}

/-- The frame of a coroutine at a depth. -/
def frame? (machine : Machine) (id : CoroutineId) (depth : Nat) : Option Frame := do
  (← machine.coroutine? id).frames.at? depth

theorem coroutine?_updateCoroutine {change : Coroutine → Coroutine} :
    (machine.updateCoroutine id change).coroutine? other =
      if other = id then (machine.coroutine? other).map change else machine.coroutine? other := by
  simp only [coroutine?, updateCoroutine, Array.getElem?_modify]
  by_cases same : other = id
  · rw [if_pos same, if_pos (by rw [same])]
  · rw [if_neg same, if_neg fun equal => same (by cases other; cases id; simp_all)]

theorem updateCoroutine_twice {first second : Coroutine → Coroutine} :
    (machine.updateCoroutine id first).updateCoroutine id second =
      machine.updateCoroutine id (fun coroutine => second (first coroutine)) := by
  have twice : (machine.coroutines.modify id.index first).modify id.index second =
      machine.coroutines.modify id.index (fun coroutine => second (first coroutine)) := by
    apply Array.ext_getElem?
    intro index
    simp only [Array.getElem?_modify]
    split
    · exact Option.map_map ..
    · rfl
  simp only [updateCoroutine, twice]

/-- Only what becomes of the coroutine that is there matters. -/
theorem updateCoroutine_congr {change change' : Coroutine → Coroutine} {coroutine : Coroutine}
    (found : machine.coroutine? id = some coroutine) (same : change coroutine = change' coroutine) :
    machine.updateCoroutine id change = machine.updateCoroutine id change' := by
  have modified : machine.coroutines.modify id.index change =
      machine.coroutines.modify id.index change' := by
    apply Array.ext_getElem?
    intro index
    rw [Array.getElem?_modify, Array.getElem?_modify]
    split
    · next here =>
        have located : machine.coroutines[index]? = some coroutine := here ▸ found
        rw [located, Option.map_some, Option.map_some, same]
    · rfl
  rw [updateCoroutine, updateCoroutine, modified]

/-- Coroutines that change to themselves leave the machine as it is. -/
theorem updateCoroutine_eq_self {change : Coroutine → Coroutine}
    (same : ∀ coroutine, change coroutine = coroutine) :
    machine.updateCoroutine id change = machine := by
  have unchanged : machine.coroutines.modify id.index change = machine.coroutines := by
    apply Array.ext_getElem?
    intro index
    rw [Array.getElem?_modify, funext same]
    split
    · exact congrFun Option.map_id_fun' _
    · rfl
  rw [updateCoroutine, unchanged]

theorem updateFrame_eq_self {change : Frame → Frame} (same : ∀ frame, change frame = frame) :
    machine.updateFrame id change = machine :=
  updateCoroutine_eq_self fun coroutine => by
    rw [Coroutine.updateActive, funext same]
    cases coroutine
    exact congrArg (Coroutine.mk · _ _ _ _) (Stack.ext (congrFun List.modifyHead_id _))

theorem updateFrame_twice {first second : Frame → Frame} :
    (machine.updateFrame id first).updateFrame id second =
      machine.updateFrame id (fun frame => second (first frame)) := by
  rw [updateFrame, updateFrame, updateCoroutine_twice, updateFrame]
  congr 1
  funext coroutine
  simp only [Coroutine.updateActive]
  exact congrArg (Coroutine.mk · _ _ _ _) (Stack.ext List.modifyHead_modifyHead)

end Machine

theorem Coroutine.active?_updateActive {coroutine : Coroutine} {change : Frame → Frame}
    {frame : Frame} (active : coroutine.active? = some frame) :
    (coroutine.updateActive change).active? = some (change frame) := by
  obtain ⟨below, stacked⟩ := List.head?_eq_some_iff.mp active
  simp [Coroutine.active?, Coroutine.updateActive, Stack.top?, stacked]

end Backtrack
