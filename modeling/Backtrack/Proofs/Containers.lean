import Backtrack.Proofs.Trails
import Backtrack.Binding.RollbackLog

/-!
What the operations of an arena do to its containers, handle by handle: a container that is placed
is new and empty, a release takes away one container, a change of bindings keeps every parent. The
free slots of a sound arena are exactly those without a container.
-/

namespace Backtrack.Arena

variable {arena : Arena} {id other : ContainerId} {parent : Option ContainerId}
  {container : Container} {name : SymbolId}

structure Sound (arena : Arena) : Prop where
  vacant (index : Nat) :
    index ∈ arena.free.items ↔ ∃ slot, arena.slots[index]? = some slot ∧ slot.content = none
  distinct : arena.free.items.Nodup

theorem get?_eq_some_iff :
    arena.get? id = some container ↔
      ∃ slot, arena.slots[id.index]? = some slot ∧ slot.generation = id.generation ∧
        slot.content = some container := by
  cases found : arena.slots[id.index]? with
  | none => simp [get?, found]
  | some slot => simp [get?, found]

theorem get?_eq_none_of_vacant {slot : Slot} (found : arena.slots[id.index]? = some slot)
    (vacant : slot.content = none) : arena.get? id = none := by
  simp [get?, found, vacant]

/-- Two handles for one slot are not both live. -/
theorem eq_of_live (live : arena.isLive id = true) (live' : arena.isLive other = true)
    (sameSlot : id.index = other.index) : id = other := by
  obtain ⟨container, found⟩ := Option.isSome_iff_exists.mp live
  obtain ⟨container', found'⟩ := Option.isSome_iff_exists.mp live'
  obtain ⟨slot, stored, generation, -⟩ := get?_eq_some_iff.mp found
  obtain ⟨slot', stored', generation', -⟩ := get?_eq_some_iff.mp found'
  rw [← sameSlot, stored] at stored'
  cases stored'
  cases id
  cases other
  simp_all

theorem index_lt (live : arena.isLive id = true) : id.index < arena.slots.size := by
  obtain ⟨container, found⟩ := Option.isSome_iff_exists.mp live
  obtain ⟨slot, stored, -⟩ := get?_eq_some_iff.mp found
  exact (Array.getElem?_eq_some_iff.mp stored).1

theorem nodup_indices {ids : List ContainerId} (distinct : ids.Nodup)
    (live : ∀ id ∈ ids, arena.isLive id = true) : (ids.map ContainerId.index).Nodup := by
  refine List.pairwise_map.mpr (distinct.imp_of_mem fun first second differ same => ?_)
  exact differ (eq_of_live (live _ first) (live _ second) same)

theorem empty_sound : empty.Sound where
  vacant index := by simp [empty]
  distinct := by simp [empty]

/-! ## Placing -/

theorem place_fresh (sound : arena.Sound) : arena.get? (arena.place parent).1 = none := by
  unfold place
  cases top : arena.free.top? with
  | none =>
      simp [get?]
  | some index =>
      have member : index ∈ arena.free.items := List.mem_of_head? top
      obtain ⟨slot, found, vacant⟩ := (sound.vacant index).mp member
      exact get?_eq_none_of_vacant found vacant

theorem get?_place (sound : arena.Sound) :
    (arena.place parent).2.get? id =
      if id = (arena.place parent).1 then some (.new parent) else arena.get? id := by
  unfold place
  cases top : arena.free.top? with
  | none =>
      rcases id with ⟨index, generation⟩
      by_cases last : index = arena.slots.size
      · cases last
        by_cases first : generation = 0
        · simp [get?, first, Slot.generation]
        · have zero : UInt32.ofNat 0 = 0 := rfl
          simp [get?, Slot.generation, zero, first, Ne.symm first]
      · simp [get?, Array.getElem?_push, last]
  | some freed =>
      have member : freed ∈ arena.free.items := List.mem_of_head? top
      obtain ⟨slot, found, vacant⟩ := (sound.vacant freed).mp member
      rcases id with ⟨index, generation⟩
      by_cases same : index = freed
      · cases same
        by_cases current : generation = slot.generation
        · simp [get?, Array.getElem?_modify, found, current, Slot.generation]
        · simp [get?, Array.getElem?_modify, found, Slot.generation, vacant] at current ⊢
          simp [current, Ne.symm current]
      · simp [get?, Array.getElem?_modify, Ne.symm same, same]

/-- A container that lives is not the new one, and stays as it is. -/
theorem get?_place_live (sound : arena.Sound) (live : arena.isLive id = true) :
    id ≠ (arena.place parent).1 ∧ (arena.place parent).2.get? id = arena.get? id := by
  have apart : id ≠ (arena.place parent).1 := by
    rintro rfl
    rw [isLive, place_fresh sound] at live
    cases live
  rw [get?_place sound, if_neg apart]
  exact ⟨apart, rfl⟩

theorem place_sound (sound : arena.Sound) : (arena.place parent).2.Sound := by
  unfold place
  cases top : arena.free.top? with
  | none =>
      refine ⟨fun index => ?_, sound.distinct⟩
      rw [sound.vacant index, Array.getElem?_push]
      by_cases last : index = arena.slots.size <;> simp [last]
  | some freed =>
      obtain ⟨rest, items⟩ : ∃ rest, arena.free.items = freed :: rest := by
        simpa [Stack.top?, List.head?_eq_some_iff] using top
      have distinct := sound.distinct
      rw [items, List.nodup_cons] at distinct
      refine ⟨fun index => ?_, by simpa [items] using distinct.2⟩
      have vacant := sound.vacant index
      rw [items, List.mem_cons] at vacant
      by_cases same : index = freed
      · cases same
        simp [items, distinct.1, Array.getElem?_modify]
      · simp [items, Array.getElem?_modify, Ne.symm same, ← vacant, same]

/-! ## Releasing -/

theorem get?_release :
    (arena.release id).get? other = if other = id then none else arena.get? other := by
  unfold release
  split
  · next live =>
      obtain ⟨container, found⟩ := Option.isSome_iff_exists.mp live
      obtain ⟨slot, stored, generation, held⟩ := get?_eq_some_iff.mp found
      rcases id with ⟨index, generation'⟩
      rcases other with ⟨index', generation''⟩
      by_cases same : index' = index
      · cases same
        simp only at stored generation
        by_cases current : generation'' = generation'
        · simp [get?, Array.getElem?_modify, stored, current]
        · simp [get?, Array.getElem?_modify, stored, generation, current, Ne.symm current]
      · simp [get?, Array.getElem?_modify, same, Ne.symm same]
  · next stale =>
      split
      · next same =>
          rw [same]
          simpa [isLive] using stale
      · rfl

theorem release_sound (sound : arena.Sound) : (arena.release id).Sound := by
  unfold release
  split
  · next live =>
      obtain ⟨container, found⟩ := Option.isSome_iff_exists.mp live
      obtain ⟨slot, stored, generation, held⟩ := get?_eq_some_iff.mp found
      have occupied : id.index ∉ arena.free.items := by
        rw [sound.vacant]
        simp [stored, held]
      refine ⟨fun index => ?_, by simpa using ⟨occupied, sound.distinct⟩⟩
      rw [Stack.items_push, List.mem_cons, sound.vacant, Array.getElem?_modify]
      by_cases same : index = id.index
      · simp [same, stored]
      · simp [same, Ne.symm same]
  · exact sound

/-! ## Changing bindings -/

theorem get?_modify {change : Container → Container} :
    (arena.modify id change).get? other =
      if other = id then (arena.get? other).map change else arena.get? other := by
  unfold modify
  split
  · next live =>
      obtain ⟨container, found⟩ := Option.isSome_iff_exists.mp live
      obtain ⟨slot, stored, generation, held⟩ := get?_eq_some_iff.mp found
      rcases id with ⟨index, generation'⟩
      rcases other with ⟨index', generation''⟩
      by_cases same : index' = index
      · cases same
        simp only at stored generation
        by_cases current : generation'' = generation'
        · simp [get?, Array.getElem?_modify, stored, current, held, Slot.generation]
        · rw [Slot.generation] at generation
          simp [get?, Array.getElem?_modify, stored, current, Slot.generation, generation,
            Ne.symm current]
      · simp [get?, Array.getElem?_modify, same, Ne.symm same]
  · next stale =>
      split
      · next same =>
          rw [same]
          have gone : arena.get? id = none := by simpa [isLive] using stale
          simp [gone]
      · rfl

theorem modify_sound {change : Container → Container} (sound : arena.Sound) :
    (arena.modify id change).Sound := by
  unfold modify
  split
  · refine ⟨fun index => ?_, sound.distinct⟩
    rw [sound.vacant, Array.getElem?_modify]
    by_cases same : id.index = index
    · cases found : arena.slots[index]? <;> simp [same]
    · simp [same]
  · exact sound

end Backtrack.Arena

namespace Backtrack.RollbackLog

/-! Recording does not close a log. -/

variable {log : RollbackLog} {key other : BindingKey}

@[simp] theorem enabled_saveVariable {prior : Option Value} :
    (log.saveVariable key prior).2.enabled = log.enabled := by
  unfold saveVariable
  split <;> rfl

@[simp] theorem enabled_saveCandidates {prior : Option CandidateSet} :
    (log.saveCandidates key prior).2.enabled = log.enabled := by
  unfold saveCandidates
  split <;> rfl

/-! Only the first change of a binding is recorded. -/

@[simp] theorem vars_saveCandidates {prior : Option CandidateSet} :
    (log.saveCandidates key prior).2.vars = log.vars := by
  unfold saveCandidates
  split <;> rfl

@[simp] theorem candidates_saveVariable {prior : Option Value} :
    (log.saveVariable key prior).2.candidates = log.candidates := by
  unfold saveVariable
  split <;> rfl

theorem getElem?_insertIfNew {α : Type} {entries : Std.TreeMap BindingKey α} {prior : α} :
    (if entries.contains key then entries else entries.insert key prior)[other]? =
      if other = key then some (entries[key]?.getD prior) else entries[other]? := by
  rw [Std.TreeMap.contains_eq_isSome_getElem?]
  cases held : entries[key]? with
  | none =>
      by_cases same : other = key
      · simp [same]
      · simp [Std.TreeMap.getElem?_insert, Ne.symm same, same]
  | some earlier =>
      by_cases same : other = key
      · simp [same, held]
      · simp [same]

theorem getElem?_saveVariable {prior : Option Value} (enabled : log.enabled = true) :
    (log.saveVariable key prior).2.vars[other]? =
      if other = key then some (log.vars[key]?.getD prior) else log.vars[other]? := by
  rw [← getElem?_insertIfNew, saveVariable, enabled]
  cases log.vars.contains key <;> rfl

theorem getElem?_saveCandidates {prior : Option CandidateSet} (enabled : log.enabled = true) :
    (log.saveCandidates key prior).2.candidates[other]? =
      if other = key then some (log.candidates[key]?.getD prior) else log.candidates[other]? := by
  rw [← getElem?_insertIfNew, saveCandidates, enabled]
  cases log.candidates.contains key <;> rfl

end Backtrack.RollbackLog
