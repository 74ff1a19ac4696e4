import Backtrack.Proofs.Tracing

/-!
What a step does to candidate sets. A declaration puts a function before the others that a container
has for the name. Apart from that only a rollback changes what a container has, and a new container
has nothing.
-/

namespace Backtrack

namespace Machine

variable {code : Instruction} {before middle after machine : Machine} {container : ContainerId}
  {name : SymbolId} {function : FunctionId} {frame : Frame}

/-- The numbers of the open regions, the innermost first. -/
def serials (machine : Machine) : List Nat :=
  machine.regions.items.map Region.serial

/-! ### Effects -/

theorem candidates?_dead {arena : Arena} (dead : arena.isLive container = false) :
    arena.candidates? container name = none := by
  rw [Arena.candidates?, Option.not_isSome_iff_eq_none.mp (ne_true_of_eq_false dead)]
  rfl

/-- A container that is placed has what the one before it had: nothing. -/
theorem candidates?_place {arena : Arena} {parent : Option ContainerId} (sound : arena.Sound) :
    (arena.place parent).2.candidates? container name = arena.candidates? container name := by
  cases stood : arena.isLive container with
  | true => rw [Arena.candidates?, (Arena.get?_place_live sound stood).2, ← Arena.candidates?]
  | false =>
      rw [candidates?_dead stood, Arena.candidates?, Arena.get?_place sound]
      split
      · exact @BindingKind.pick_new _ .candidates parent name
      · exact candidates?_dead stood

/-- Effects other than a declaration leave what containers have, or roll back regions. -/
theorem effect_agrees (sound : before.Sound) (effect : Effect code before after)
    (other : ∀ name function, code ≠ .declareFunction name function) :
    BindingKind.candidates.Agrees before.arena after.arena ∨
      code.undoes ∧ after.regions.size < before.regions.size := by
  have trims {arena : Arena} (trims : arena.Trims before.arena) :
      BindingKind.candidates.Agrees before.arena arena :=
    fun _ _ live => (BindingKind.read_trims trims live).symm
  have undone {closed rest : List Region} (undoes : code.undoes)
      (parts : before.regions.items = closed ++ rest) (left : after.regions.items = rest)
      (trimmed : after.arena.Trims (before.arena.undo closed)) :
      BindingKind.candidates.Agrees before.arena after.arena ∨
        code.undoes ∧ after.regions.size < before.regions.size := by
    cases closed with
    | nil => exact .inl (trims trimmed)
    | cons region closed =>
        rw [Stack.size_eq, Stack.size_eq, left, parts, List.length_append, List.length_cons]
        exact .inr ⟨undoes, by omega⟩
  cases effect with
  | bindVar => exact .inl fun _ _ _ => Arena.candidates?_putVar.symm
  | bindCandidates _ _ _ binding =>
      obtain ⟨function, declares⟩ := binding
      exact absurd declares (other _ _)
  | pushScope | call | create | copy =>
      exact .inl fun _ _ _ => (candidates?_place (Backtrack.Housed.sound sound.housed)).symm
  | popScope => exact .inl (trims Arena.release_trims)
  | «return» | finish => exact .inl (trims Arena.releaseAll_trims)
  | @rollbackRegion region rest _ top undoing => exact @undone [region] rest (.inl undoing) top rfl .refl
  | abandon _ _ _ _ raising =>
      exact undone (.inr raising) List.takeWhile_append_dropWhile.symm rfl Arena.vacateAll_trims
  | «catch» _ _ _ _ raising =>
      exact undone (.inr raising) List.takeWhile_append_dropWhile.symm rfl
        (Arena.releaseAll_trims.trans Arena.vacateAll_trims)
  | undoAll raising => exact undone (.inr raising) (List.append_nil _).symm rfl .refl
  | _ => exact .inl (trims .refl)

/-- Only the opening of a region changes the counter, and it alone adds to the open regions. -/
theorem effect_serials (effect : Effect code before after) (other : code ≠ .openRegion) :
    after.serials <:+ before.serials ∧ after.nextSerial = before.nextSerial := by
  cases effect with
  | bindVar | bindCandidates =>
      refine ⟨?_, rfl⟩
      rw [serials, Stack.items_map, List.map_map]
      exact List.suffix_rfl
  | openRegion opening => exact absurd opening other
  | commitRegion top | rollbackRegion top =>
      rw [serials, serials, top]
      exact ⟨List.suffix_cons .., rfl⟩
  | abandon | «catch» => exact ⟨(List.dropWhile_suffix _).map _, rfl⟩
  | undoAll => exact ⟨List.nil_suffix, rfl⟩
  | _ => exact ⟨List.suffix_rfl, rfl⟩

theorem evolves_serials (evolves : before.Evolves code after) (other : code ≠ .openRegion) :
    after.serials <:+ before.serials ∧ after.nextSerial = before.nextSerial := by
  induction evolves with
  | refl => exact ⟨List.suffix_rfl, rfl⟩
  | tail _ effect ih =>
      obtain ⟨fewer, counter⟩ := effect_serials effect other
      exact ⟨fewer.trans ih.1, counter.trans ih.2⟩

theorem length_serials : machine.serials.length = machine.regions.size := by
  rw [serials, List.length_map, Stack.size_eq]

theorem evolves_size_le (evolves : before.Evolves code after) (other : code ≠ .openRegion) :
    after.regions.size ≤ before.regions.size := by
  rw [← length_serials, ← length_serials]
  exact (evolves_serials evolves other).1.length_le

/-- A container that comes to life is new. -/
theorem evolves_unissued (sound : before.Sound) (rare : after.arena.Rare)
    (evolves : before.Evolves code after) (dead : before.arena.isLive container = false)
    (live : after.arena.isLive container = true) : ¬ before.arena.Issued container := by
  induction evolves with
  | refl => exact absurd (dead.symm.trans live) nofun
  | @tail middle after soFar effect ih =>
      have rare' := (effect_ages effect).rare rare
      cases between : middle.arena.isLive container with
      | true => exact ih rare' between
      | false =>
          intro issued
          exact effect_unissued (sound.evolves soFar) rare' effect live between
            ((Evolves.ages soFar).issued issued)

theorem evolves_agrees (sound : before.Sound) (rare : after.arena.Rare)
    (evolves : before.Evolves code after) (opens : code ≠ .openRegion)
    (declares : ∀ name function, code ≠ .declareFunction name function) :
    BindingKind.candidates.Agrees before.arena after.arena ∨
      code.undoes ∧ after.regions.size < before.regions.size := by
  induction evolves with
  | refl => exact .inl fun _ _ _ => rfl
  | @tail middle after soFar effect ih =>
      have sound' := sound.evolves soFar
      have rare' := (effect_ages effect).rare rare
      have fewer := evolves_size_le soFar opens
      have fewer' := evolves_size_le (Evolves.refl.then effect) opens
      rcases ih rare' with first | ⟨undoes, less⟩
      · rcases effect_agrees sound' effect declares with second | ⟨undoes, less⟩
        · refine .inl fun container name live => ?_
          rw [← second container name live]
          cases between : middle.arena.isLive container with
          | true => exact first container name between
          | false =>
              -- A container that comes to life now was never issued, so it did not live before.
              have dead : before.arena.isLive container = false := by
                by_contra stood
                have issued := Arena.issued_of_live ((Evolves.ages soFar).rare rare')
                  (Bool.not_eq_false _ ▸ stood)
                exact effect_unissued sound' rare' effect live between
                  ((Evolves.ages soFar).issued issued)
              exact (candidates?_dead dead).trans (candidates?_dead between).symm
        · exact .inr ⟨undoes, by omega⟩
      · exact .inr ⟨undoes, by omega⟩

/-! ### Declarations -/

theorem step_declares (goesOn : machine.step.isRunning = true)
    (next : machine.instruction? = some (.declareFunction name function))
    (active : machine.active? = some frame) :
    machine.step.arena = machine.arena.putCandidates frame.scope name
        (((machine.arena.candidates? frame.scope name).getD (.empty name)).prepend function) ∧
      machine.arena.isLive frame.scope = true ∧
      machine.step.regions.size = machine.regions.size := by
  have leads : (Action.execute (.declareFunction name function)).Leads
      (machine.fetched (.declareFunction name function))
      (fun _ after => after.arena = machine.arena.putCandidates frame.scope name
          (((machine.arena.candidates? frame.scope name).getD (.empty name)).prepend function) ∧
        machine.arena.isLive frame.scope = true ∧ after.regions.size = machine.regions.size)
      fun _ _ => True := by
    simp only [Action.execute, Action.thenProceed, Action.declareFunction, Action.logAll,
      Action.leads_bind, Action.leads_frame_active (active?_fetched active), Action.leads_get,
      Action.leads_modify, Action.leads_ensure, Action.leads_updateArena, Action.leads_pure,
      Stack.map, implies_true, and_true, true_and, arena_fetched, regions_fetched, imp_self]
  exact step_of_leads next goesOn leads

end Machine

end Backtrack
