import Backtrack.Proofs.Unwinding

/-!
Handles of containers over time. A handle is issued when a container is placed, and from then on
stays issued. As long as no slot was freed so often that its generations repeat, the handle of the
next container is one that was not issued before.
-/

namespace Backtrack

namespace Arena

variable {arena before middle after : Arena} {id : ContainerId} {parent : Option ContainerId}

/-- No slot has used up its generations. -/
def Rare (arena : Arena) : Prop :=
  ∀ (index : Nat) (slot : Slot), arena.slots[index]? = some slot → slot.frees < UInt32.size

instance : Decidable arena.Rare :=
  decidable_of_iff (∀ slot ∈ arena.slots.toList, slot.frees < UInt32.size) <| by
    simp only [Rare, List.mem_iff_getElem?, Array.getElem?_toList]
    exact ⟨fun all index slot stored => all slot ⟨index, stored⟩,
      fun all slot ⟨index, stored⟩ => all index slot stored⟩

/-- Whether a container with this handle was ever placed, if the generations do not repeat. -/
def Issued (arena : Arena) (id : ContainerId) : Prop :=
  ∃ slot, arena.slots[id.index]? = some slot ∧ (id.generation.toNat < slot.frees ∨
    (id.generation.toNat = slot.frees ∧ slot.content.isSome = true))

/-- Slots stay, and the content of a slot goes only when the slot is freed. -/
def Ages (before after : Arena) : Prop :=
  ∀ (index : Nat) (slot : Slot), before.slots[index]? = some slot →
    ∃ slot', after.slots[index]? = some slot' ∧ (slot.frees < slot'.frees ∨
      (slot.frees = slot'.frees ∧ (slot.content.isSome = true → slot'.content.isSome = true)))

theorem Ages.refl : arena.Ages arena :=
  fun _ slot stored => ⟨slot, stored, .inr ⟨rfl, id⟩⟩

theorem Ages.trans (first : before.Ages middle) (second : middle.Ages after) :
    before.Ages after := by
  intro index slot stored
  obtain ⟨slot', stored', older⟩ := first index slot stored
  obtain ⟨slot'', stored'', older'⟩ := second index slot' stored'
  refine ⟨slot'', stored'', ?_⟩
  rcases older with freed | ⟨same, kept⟩ <;> rcases older' with freed' | ⟨same', kept'⟩
  · exact .inl (Nat.lt_trans freed freed')
  · exact .inl (same' ▸ freed)
  · exact .inl (same ▸ freed')
  · exact .inr ⟨same.trans same', kept' ∘ kept⟩

theorem Ages.issued (ages : before.Ages after) (issued : before.Issued id) : after.Issued id := by
  obtain ⟨slot, stored, earlier⟩ := issued
  obtain ⟨slot', stored', older⟩ := ages id.index slot stored
  refine ⟨slot', stored', ?_⟩
  rcases earlier with past | ⟨present, held⟩ <;> rcases older with freed | ⟨same, kept⟩
  · exact .inl (Nat.lt_trans past freed)
  · exact .inl (same ▸ past)
  · exact .inl (present ▸ freed)
  · exact .inr ⟨present.trans same, kept held⟩

theorem Ages.rare (ages : before.Ages after) (rare : after.Rare) : before.Rare := by
  intro index slot stored
  obtain ⟨slot', stored', older⟩ := ages index slot stored
  have bound := rare index slot' stored'
  rcases older with freed | ⟨same, -⟩ <;> omega

/-- One slot changes. -/
theorem slot_ages {position : Nat} {change : Slot → Slot} {free : Stack Nat}
    (older : ∀ slot, slot.frees < (change slot).frees ∨ (slot.frees = (change slot).frees ∧
      (slot.content.isSome = true → (change slot).content.isSome = true))) :
    arena.Ages ⟨arena.slots.modify position change, free⟩ := by
  intro index slot stored
  by_cases same : position = index
  · cases same
    exact ⟨change slot, by simp [Array.getElem?_modify, stored], older slot⟩
  · exact ⟨slot, by simp [Array.getElem?_modify, same, stored], .inr ⟨rfl, fun held => held⟩⟩

theorem place_ages : arena.Ages (arena.place parent).2 := by
  unfold place
  split
  · exact slot_ages fun slot => .inr ⟨rfl, fun _ => rfl⟩
  · intro index slot stored
    have within := (Array.getElem?_eq_some_iff.mp stored).1
    exact ⟨slot, by simp [Array.getElem?_push, Nat.ne_of_lt within, stored], .inr ⟨rfl, id⟩⟩

theorem release_ages : arena.Ages (arena.release id) := by
  unfold release
  split
  · exact slot_ages fun slot => .inl (Nat.lt_succ_self _)
  · exact .refl

theorem modify_ages {change : Container → Container} : arena.Ages (arena.modify id change) := by
  unfold modify
  split
  · exact slot_ages fun slot => .inr ⟨rfl, fun held => by simpa using held⟩
  · exact .refl

theorem releaseAll_ages {ids : List ContainerId} : arena.Ages (arena.releaseAll ids) := by
  induction ids generalizing arena with
  | nil => exact .refl
  | cons id rest ih => exact release_ages.trans ih

theorem vacateAll_ages {globals : ContainerId} {frames : List Frame} :
    arena.Ages (arena.vacateAll globals frames) := by
  induction frames generalizing arena with
  | nil => exact .refl
  | cons frame rest ih => exact releaseAll_ages.trans ih

theorem restore_ages {log : RollbackLog} : arena.Ages (log.restore arena) := by
  have vars (entries : List (BindingKey × Option Value)) {arena : Arena} :
      arena.Ages (arena.putVars entries) := by
    induction entries generalizing arena with
    | nil => exact .refl
    | cons entry rest ih => exact modify_ages.trans ih
  have candidates (entries : List (BindingKey × Option CandidateSet)) {arena : Arena} :
      arena.Ages (arena.putAllCandidates entries) := by
    induction entries generalizing arena with
    | nil => exact .refl
    | cons entry rest ih => exact modify_ages.trans ih
  exact (vars _).trans (candidates _)

theorem undo_ages {regions : List Region} : arena.Ages (arena.undo regions) := by
  induction regions generalizing arena with
  | nil => exact .refl
  | cons region rest ih => exact restore_ages.trans ih

/-- The slot of a container has been freed in the meantime. -/
def Freed (before after : Arena) (id : ContainerId) : Prop :=
  ∃ slot slot', before.slots[id.index]? = some slot ∧ after.slots[id.index]? = some slot' ∧
    slot.frees < slot'.frees

theorem Ages.freed (ages : before.Ages after) (live : before.isLive id = true)
    (gone : after.isLive id = false) : before.Freed after id := by
  obtain ⟨container, found⟩ := Option.isSome_iff_exists.mp live
  obtain ⟨slot, stored, generation, held⟩ := get?_eq_some_iff.mp found
  obtain ⟨slot', stored', older⟩ := ages id.index slot stored
  refine ⟨slot, slot', stored, stored', older.resolve_right ?_⟩
  rintro ⟨same, kept⟩
  obtain ⟨content, held'⟩ := Option.isSome_iff_exists.mp (kept (by rw [held]; rfl))
  have generation' : slot'.generation = id.generation := by
    rw [← generation, Slot.generation, Slot.generation, same]
  have found' := get?_eq_some_iff.mpr ⟨slot', stored', generation', held'⟩
  rw [isLive, found'] at gone
  cases gone

theorem Freed.later (freed : before.Freed middle id) (ages : middle.Ages after) :
    before.Freed after id := by
  obtain ⟨slot, slot', stored, stored', older⟩ := freed
  obtain ⟨slot'', stored'', older'⟩ := ages id.index slot' stored'
  refine ⟨slot, slot'', stored, stored'', ?_⟩
  rcases older' with further | ⟨same, -⟩ <;> omega

theorem Freed.earlier (ages : before.Ages middle) (live : before.isLive id = true)
    (freed : middle.Freed after id) : before.Freed after id := by
  obtain ⟨container, found⟩ := Option.isSome_iff_exists.mp live
  obtain ⟨slot, stored, -⟩ := get?_eq_some_iff.mp found
  obtain ⟨slot', stored', older⟩ := ages id.index slot stored
  obtain ⟨middle', slot'', stored'', final, later⟩ := freed
  cases Option.some.inj (stored'.symm.trans stored'')
  refine ⟨slot, slot'', stored, final, ?_⟩
  rcases older with further | ⟨same, -⟩ <;> omega

/-- A handle that was freed is not live again, as long as the generations do not repeat. -/
theorem Freed.gone (freed : before.Freed after id) (rare : after.Rare)
    (live : before.isLive id = true) : after.isLive id = false := by
  obtain ⟨slot, slot', stored, stored', older⟩ := freed
  obtain ⟨container, found⟩ := Option.isSome_iff_exists.mp live
  obtain ⟨first, storedFirst, generation, -⟩ := get?_eq_some_iff.mp found
  cases Option.some.inj (stored.symm.trans storedFirst)
  have bound := rare _ _ stored'
  have issued : slot.generation.toNat = slot.frees :=
    UInt32.toNat_ofNat_of_lt' (Nat.lt_trans older bound)
  refine Bool.eq_false_iff.mpr fun again => ?_
  obtain ⟨container', found'⟩ := Option.isSome_iff_exists.mp again
  obtain ⟨last, storedLast, generation', -⟩ := get?_eq_some_iff.mp found'
  cases Option.some.inj (stored'.symm.trans storedLast)
  have reissued : slot'.generation.toNat = slot'.frees := UInt32.toNat_ofNat_of_lt' bound
  have same := congrArg UInt32.toNat (generation.trans generation'.symm)
  omega

theorem issued_of_live (rare : arena.Rare) (live : arena.isLive id = true) : arena.Issued id := by
  obtain ⟨container, found⟩ := Option.isSome_iff_exists.mp live
  obtain ⟨slot, stored, generation, held⟩ := get?_eq_some_iff.mp found
  refine ⟨slot, stored, .inr ⟨?_, by simp [held]⟩⟩
  rw [← generation, Slot.generation]
  exact UInt32.toNat_ofNat_of_lt' (rare _ _ stored)

/-- A container is placed with a handle that was not issued. -/
theorem place_unissued (sound : arena.Sound) (rare : arena.Rare) :
    ¬ arena.Issued (arena.place parent).1 := by
  rintro ⟨slot, stored, earlier⟩
  unfold place at stored earlier
  cases top : arena.free.top? with
  | none =>
      rw [top] at stored
      simp at stored
  | some index =>
      rw [top] at stored earlier
      obtain ⟨slot', stored', vacant⟩ := (sound.vacant index).mp (List.mem_of_head? top)
      cases Option.some.inj (stored.symm.trans stored')
      have whole : (Slot.generation slot).toNat = slot.frees :=
        UInt32.toNat_ofNat_of_lt' (rare _ _ stored)
      simp only [stored', Option.getD_some, whole, vacant] at earlier
      simp at earlier

end Arena

namespace Machine

variable {before after : Machine} {code : Instruction}

theorem effect_ages (effect : Effect code before after) : before.arena.Ages after.arena := by
  cases effect with
  | pushScope | call | create | copy => exact Arena.place_ages
  | bindVar | bindCandidates => exact Arena.modify_ages
  | rollbackRegion => exact Arena.restore_ages
  | undoAll => exact Arena.undo_ages
  | popScope => exact Arena.release_ages
  | «return» | finish => exact Arena.releaseAll_ages
  | abandon => exact Arena.undo_ages.trans Arena.vacateAll_ages
  | «catch» => exact (Arena.undo_ages.trans Arena.vacateAll_ages).trans Arena.releaseAll_ages
  | _ => exact .refl

theorem Evolves.ages (evolves : before.Evolves code after) : before.arena.Ages after.arena := by
  induction evolves with
  | refl => exact .refl
  | tail _ effect ih => exact ih.trans (effect_ages effect)

end Machine

end Backtrack
