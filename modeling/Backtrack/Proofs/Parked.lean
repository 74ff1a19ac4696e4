import Backtrack.Proofs.Discipline
import Backtrack.Proofs.Mirrors
import Backtrack.Proofs.Outcomes
import Backtrack.Proofs.Resting

/-!
The containers of coroutines that do not run. They stay live and chained, however an instruction
ends. Only a rollback changes a binding in them, and only one that a log of the region holds.
-/

namespace Backtrack

/-- Whether an instruction can roll regions back. -/
def Instruction.undoes (code : Instruction) : Prop :=
  code = .rollbackRegion ∨ code.raises = true

/-- Whether an instruction enters a coroutine, or would if that were not exhausted. -/
def Instruction.enters (code : Instruction) : Prop :=
  ∃ dst target out, code = .enterCoroutine dst target out

namespace Machine

variable {code : Instruction} {before middle after machine : Machine} {id : CoroutineId}
  {coroutine : Coroutine} {depth : Nat} {frame : Frame} {container : ContainerId}

/-- The containers of a coroutine stay live and chained. -/
structure Shelters (before after : Machine) (coroutine : Coroutine) : Prop where
  globals : after.globals = before.globals
  parent {depth : Nat} {frame : Frame} {container : ContainerId}
    (located : coroutine.frames.at? depth = some frame)
    (member : container ∈ before.arena.ancestry frame.scope) :
    after.arena.parent? container = before.arena.parent? container
  live {depth : Nat} {frame : Frame} {container : ContainerId}
    (located : coroutine.frames.at? depth = some frame)
    (member : container ∈ before.arena.ancestry frame.scope) :
    after.arena.isLive container = true

namespace Shelters

theorem dwells (shelters : before.Shelters after coroutine) (housed : before.Housed)
    (found : before.coroutine? id = some coroutine)
    (located : coroutine.frames.at? depth = some frame) :
    ∃ blocks, before.arena.Dwells before.globals frame blocks ∧
      after.arena.Dwells before.globals frame blocks ∧
      before.arena.ancestry frame.scope = blocks ++ [before.globals] ∧
      after.arena.ancestry frame.scope = blocks ++ [before.globals] := by
  obtain ⟨blocks, dwells⟩ := Backtrack.Housed.dwells housed ⟨coroutine, found, located⟩
  have chain := dwells.ancestry (Backtrack.Housed.live housed)
  have dwells' : after.arena.Dwells before.globals frame blocks := by
    refine dwells.congr (fun container member => ?_) rfl rfl
    exact shelters.parent located (chain ▸ member)
  have live : after.arena.isLive before.globals = true := by
    refine shelters.live located ?_
    rw [chain]
    exact List.mem_append_right _ List.mem_cons_self
  exact ⟨blocks, dwells, dwells', chain, dwells'.ancestry live⟩

theorem ancestry (shelters : before.Shelters after coroutine) (housed : before.Housed)
    (found : before.coroutine? id = some coroutine)
    (located : coroutine.frames.at? depth = some frame) :
    after.arena.ancestry frame.scope = before.arena.ancestry frame.scope := by
  obtain ⟨blocks, -, -, chain, chain'⟩ := shelters.dwells housed found located
  exact chain'.trans chain.symm

theorem containersOf (shelters : before.Shelters after coroutine) (housed : before.Housed)
    (found : before.coroutine? id = some coroutine)
    (located : coroutine.frames.at? depth = some frame) :
    after.containersOf frame = before.containersOf frame := by
  rw [containersOf_eq, containersOf_eq, Arena.dwelling, Arena.dwelling, shelters.globals,
    shelters.ancestry housed found located]

theorem refl (housed : before.Housed) (found : before.coroutine? id = some coroutine) :
    before.Shelters before coroutine where
  globals := rfl
  parent _ _ := rfl
  live located member := (Housed.lineage housed ⟨coroutine, found, located⟩).2 _ member

end Shelters

/-! Effects -/

/-- Entering a coroutine concerns no container. -/
theorem effect_enters (effect : Effect code before after) (enters : code.enters) :
    after.arena = before.arena ∧ after.regions = before.regions ∧
      after.globals = before.globals := by
  obtain ⟨dst, target, out, rfl⟩ := enters
  cases effect with
  | count | intern | compute | enter => exact ⟨rfl, rfl, rfl⟩
  | bindVar _ _ _ binding => obtain ⟨_, binding | binding⟩ := binding <;> cases binding
  | bindCandidates _ _ _ binding => obtain ⟨_, binding⟩ := binding; cases binding
  | pushScope _ other | popScope other | pushHandler _ _ _ _ other | popHandler _ _ _ other
  | openRegion other | commitRegion _ other | rollbackRegion _ other => cases other
  | call _ _ _ _ other | «return» _ _ _ _ other | finish _ _ _ _ _ other | create _ _ other
  | copy _ _ _ _ other | yield _ _ _ _ other => simp at other
  | abandon _ _ _ _ raising | «catch» _ _ _ _ raising | undoAll raising => cases raising

theorem evolves_enters (evolves : before.Evolves code after) (enters : code.enters) :
    after.arena = before.arena ∧ after.regions = before.regions ∧
      after.globals = before.globals := by
  induction evolves with
  | refl => exact ⟨rfl, rfl, rfl⟩
  | tail _ effect ih =>
      obtain ⟨arena, regions, globals⟩ := effect_enters effect enters
      exact ⟨arena.trans ih.1, regions.trans ih.2.1, globals.trans ih.2.2⟩

theorem evolves_parked (sound : before.Sound) (evolves : before.Evolves code after)
    (found : before.coroutine? id = some coroutine) (resting : coroutine.state ≠ .running)
    (other : ¬ code.enters) : after.coroutine? id = some coroutine :=
  evolves_resting sound evolves found resting fun dst target out same =>
    other ⟨dst, target, out, same⟩

theorem evolves_shelters (sound : before.Sound) (evolves : before.Evolves code after)
    (found : before.coroutine? id = some coroutine) (resting : coroutine.state ≠ .running) :
    before.Shelters after coroutine := by
  have refl : before.Shelters before coroutine := .refl sound.housed found
  by_cases enters : code.enters
  · obtain ⟨arena, -, globals⟩ := evolves_enters evolves enters
    refine ⟨globals, fun located member => ?_, fun located member => ?_⟩
    · rw [arena]
    · rw [arena]
      exact refl.live located member
  · induction evolves with
    | refl => exact refl
    | @tail middle after soFar effect ih =>
        have sound' := sound.evolves soFar
        have parked := evolves_parked sound soFar found resting enters
        have parked' := evolves_parked sound (soFar.tail effect) found resting enters
        have live {depth : Nat} {frame : Frame} {container : ContainerId}
            (located : coroutine.frames.at? depth = some frame)
            (member : container ∈ before.arena.ancestry frame.scope) :
            after.arena.isLive container = true := by
          have stands : Stands after.coroutine? id depth frame := ⟨coroutine, parked', located⟩
          refine (Housed.lineage (sound'.effect effect).housed stands).2 container ?_
          rw [effect_ancestry sound'.housed (sound'.effect effect).housed effect
            ⟨coroutine, parked, located⟩ stands rfl, ih.ancestry sound.housed found located]
          exact member
        refine ⟨(effect_globals effect).trans ih.globals, fun located member => ?_, live⟩
        rw [← ih.parent located member]
        exact effect_parents sound'.housed effect (ih.live located member) (live located member)

/-! Bindings -/

section Bindings

variable {β : Type} {kind : BindingKind β} {name : SymbolId} {arena : Arena} {closed : List Region}

/-- A rollback changes what the logs hold. -/
theorem read_undo (live : arena.isLive container = true) :
    kind.read (arena.undo closed) container name = kind.read arena container name ∨
      ∃ region ∈ closed, (kind.logged region.log ⟨container, name⟩).isSome = true := by
  induction closed generalizing arena with
  | nil => exact .inl rfl
  | cons region rest ih =>
      have restored : kind.read (region.log.restore arena) container name =
        (kind.logged region.log ⟨container, name⟩).getD (kind.read arena container name) :=
          kind.restored live
      have live' : (region.log.restore arena).isLive container = true := by
        rw [Arena.restore_alike.live, live]
      cases held : kind.logged region.log ⟨container, name⟩ with
      | some prior => exact .inr ⟨region, List.mem_cons_self, by rw [held]; rfl⟩
      | none =>
          rw [held, Option.getD_none] at restored
          rcases ih live' with same | ⟨inner, member, logged⟩
          · exact .inl (same.trans restored)
          · exact .inr ⟨inner, List.mem_cons_of_mem _ member, logged⟩

/-- A region that is closed does not stay open. -/
theorem closed_mark {rest : List Region} {region : Region} (sound : before.Sound)
    (parts : before.regions.items = closed ++ rest) (member : region ∈ closed) :
    region.mark ∉ rest.map Region.mark := by
  intro again
  obtain ⟨other, stays, same⟩ := List.mem_map.mp again
  have increasing := sound.increasing
  rw [parts] at increasing
  have less := (List.pairwise_append.mp increasing).2.2 region member other stays
  have equal : other.serial = region.serial := congrArg Mark.serial same
  omega

theorem effect_read (sound : before.Sound) (effect : Effect code before after)
    (stood : Stands before.coroutine? id depth frame)
    (stands : Stands after.coroutine? id depth frame) (apart : id ≠ before.current)
    (member : container ∈ before.containersOf frame) :
    kind.read after.arena container name = kind.read before.arena container name ∨
      code.undoes ∧ ∃ region ∈ before.regions.items, region.mark ∉ after.marks ∧
        (kind.logged region.log ⟨container, name⟩).isSome = true := by
  have sound' := sound.effect effect
  obtain ⟨chained, inner⟩ := (mem_containersOf_iff sound.housed stood).mp member
  have live := (Housed.lineage sound.housed stood).2 container chained
  have live' : after.arena.isLive container = true := by
    refine (Housed.lineage sound'.housed stands).2 container ?_
    rwa [effect_ancestry sound.housed sound'.housed effect stood stands rfl]
  -- What the active frame has in scope does not belong to another coroutine.
  have foreign {target : ContainerId} {active : Frame} (active' : before.active? = some active)
      (inScope : target ∈ before.arena.ancestry active.scope) : container ≠ target := by
    rintro rfl
    obtain ⟨running, current, top⟩ := Option.bind_eq_some_iff.mp active'
    have own : Stands before.coroutine? before.current (running.depth - 1) active :=
      ⟨running, current, (Coroutine.at?_top top).2⟩
    have owned := (mem_containersOf_iff sound.housed own).mpr ⟨inScope, inner⟩
    exact apart (containersOf_apart sound.housed stood own member owned).1
  have kept (same : after.arena.get? container = before.arena.get? container) :
      kind.read after.arena container name = kind.read before.arena container name := by
    rw [BindingKind.read, BindingKind.read, same]
  have undone {closed rest : List Region} (undoes : code.undoes)
      (parts : before.regions.items = closed ++ rest) (after' : after.regions.items = rest)
      (trims : after.arena.Trims (before.arena.undo closed)) :
      kind.read after.arena container name = kind.read before.arena container name ∨
        code.undoes ∧ ∃ region ∈ before.regions.items, region.mark ∉ after.marks ∧
          (kind.logged region.log ⟨container, name⟩).isSome = true := by
    rcases read_undo live with same | ⟨region, opened, logged⟩
    · exact .inl ((BindingKind.read_trims trims live').trans same)
    · refine .inr ⟨undoes, region, parts ▸ List.mem_append_left _ opened, ?_, logged⟩
      rw [marks, after']
      exact closed_mark sound parts opened
  have placed {parent : ContainerId} :
      (before.arena.place (some parent)).2.get? container = before.arena.get? container :=
    (Arena.get?_place_live (Backtrack.Housed.sound sound.housed) live).2
  cases effect with
  | bindVar _ _ _ _ active inScope | bindCandidates _ _ _ _ active inScope =>
      exact .inl (kept (Arena.get?_modify.trans (if_neg (foreign active inScope))))
  | pushScope | call | create | copy => exact .inl (kept placed)
  | popScope => exact .inl (BindingKind.read_trims Arena.release_trims live')
  | «return» | finish => exact .inl (BindingKind.read_trims Arena.releaseAll_trims live')
  | @rollbackRegion region rest _ top undoing =>
      exact @undone [region] rest (.inl undoing) top rfl .refl
  | abandon _ _ _ _ raising =>
      exact undone (.inr raising) List.takeWhile_append_dropWhile.symm rfl Arena.vacateAll_trims
  | «catch» _ _ _ _ raising =>
      exact undone (.inr raising) List.takeWhile_append_dropWhile.symm rfl
        (Arena.releaseAll_trims.trans Arena.vacateAll_trims)
  | undoAll raising => exact undone (.inr raising) (List.append_nil _).symm rfl .refl
  | _ => exact .inl (kept rfl)

/-- What rolls back regions opens none and writes to no log. -/
theorem effect_undoes (effect : Effect code before after) (undoes : code.undoes) :
    after.regions.items <:+ before.regions.items := by
  cases effect with
  | bindVar _ _ _ binding =>
      obtain ⟨_, rfl | rfl⟩ := binding <;> rcases undoes with undoing | raising <;> cases ‹_›
  | bindCandidates _ _ _ binding =>
      obtain ⟨_, rfl⟩ := binding
      rcases undoes with undoing | raising <;> cases ‹_›
  | openRegion opening =>
      subst opening
      rcases undoes with undoing | raising <;> cases ‹_›
  | commitRegion top | rollbackRegion top => exact ⟨[_], top.symm⟩
  | abandon | «catch» => exact List.dropWhile_suffix _
  | undoAll => exact List.nil_suffix
  | _ => exact List.suffix_rfl

theorem evolves_undoes (evolves : before.Evolves code after) (undoes : code.undoes) :
    after.regions.items <:+ before.regions.items := by
  induction evolves with
  | refl => exact List.suffix_rfl
  | tail _ effect ih => exact (effect_undoes effect undoes).trans ih

theorem evolves_read (sound : before.Sound) (evolves : before.Evolves code after)
    (found : before.coroutine? id = some coroutine) (resting : coroutine.state ≠ .running)
    (located : coroutine.frames.at? depth = some frame)
    (member : container ∈ before.containersOf frame) :
    kind.read after.arena container name = kind.read before.arena container name ∨
      code.undoes ∧ ∃ region ∈ before.regions.items, region.mark ∉ after.marks ∧
        (kind.logged region.log ⟨container, name⟩).isSome = true := by
  by_cases enters : code.enters
  · obtain ⟨arena, -, -⟩ := evolves_enters evolves enters
    exact .inl (by rw [arena])
  · induction evolves with
    | refl => exact .inl rfl
    | @tail middle after soFar effect ih =>
        have parked := evolves_parked sound soFar found resting enters
        have parked' := evolves_parked sound (soFar.tail effect) found resting enters
        have sound' := sound.evolves soFar
        rcases ih with same | ⟨undoes, region, opened, gone, logged⟩
        · have shelters := evolves_shelters sound soFar found resting
          have member' : container ∈ middle.containersOf frame := by
            rwa [shelters.containersOf sound.housed found located]
          have changed : kind.read after.arena container name = _ ∨ _ :=
            effect_read sound' effect ⟨coroutine, parked, located⟩ ⟨coroutine, parked', located⟩
              (sound'.apart parked resting) member'
          rcases changed with same' | ⟨undoes, region, opened, gone, logged⟩
          · exact .inl (same'.trans same)
          · exact .inr ⟨undoes, region, (evolves_undoes soFar undoes).subset opened, gone, logged⟩
        · refine .inr ⟨undoes, region, opened, fun again => gone ?_, logged⟩
          exact ((effect_undoes effect undoes).map Region.mark).subset again

end Bindings

/-! Steps -/

/-- Where an instruction breaks off or the root ends, what is left of a coroutine that rests is what
the effects so far have left of it. -/
theorem Becomes.resting (becomes : machine.Becomes code after) (sound : machine.Sound)
    (found : machine.coroutine? id = some coroutine) (resting : coroutine.state ≠ .running) :
    ∃ middle, machine.Evolves code middle ∧ after.globals = middle.globals ∧
      after.regions = middle.regions ∧ ∀ {depth : Nat} {frame : Frame} {container : ContainerId},
        coroutine.frames.at? depth = some frame →
        container ∈ machine.arena.ancestry frame.scope →
          after.arena.get? container = middle.arena.get? container := by
  have placed {middle : Machine} (soFar : machine.Evolves code middle) {depth : Nat} {frame : Frame}
      {container parent : ContainerId} (located : coroutine.frames.at? depth = some frame)
      (member : container ∈ machine.arena.ancestry frame.scope) :
      container ≠ (middle.arena.place (some parent)).1 ∧
        (middle.arena.place (some parent)).2.get? container = middle.arena.get? container :=
    Arena.get?_place_live (Backtrack.Housed.sound (sound.evolves soFar).housed)
      ((evolves_shelters sound soFar found resting).live located member)
  cases becomes with
  | evolves evolves => exact ⟨after, evolves, rfl, rfl, fun _ _ => rfl⟩
  | @ends middle running frame fetched current active =>
      have soFar : machine.Evolves code middle := fetched ▸ fetched_evolves
      refine ⟨middle, soFar, rfl, rfl, fun {depth frame' container} located member => ?_⟩
      have sound' := sound.evolves soFar
      have apart := sound.apart found resting
      obtain ⟨asking, asks, -⟩ := sound.linked.current_running
      have parked : middle.coroutine? id = some coroutine := by
        rw [fetched, coroutine?_fetched asks, replace_other apart, found]
      have elsewhere : middle.current = machine.current := fetched ▸ current_fetched
      have stands : Stands middle.coroutine? id depth frame' := ⟨coroutine, parked, located⟩
      rw [← (evolves_shelters sound soFar found resting).ancestry sound.housed found located] at member
      refine Arena.get?_releaseAll.trans (if_neg fun vacated => ?_)
      have own : Stands middle.coroutine? middle.current (running.depth - 1) frame :=
        ⟨running, current, (Coroutine.at?_top active).2⟩
      have inner := ((mem_containersOf_iff sound'.housed own).mp vacated).2
      have owned := (mem_containersOf_iff sound'.housed stands).mpr ⟨member, inner⟩
      exact apart ((containersOf_apart sound'.housed stands own owned vacated).1.trans elsewhere)
  | breaks breaks =>
      cases breaks with
      | between soFar | unbalanced soFar | outside soFar =>
          exact ⟨_, soFar, rfl, rfl, fun _ _ => rfl⟩
      | unswitched _ soFar => exact ⟨_, soFar, rfl, rfl, fun _ _ => rfl⟩
      | placed soFar =>
          exact ⟨_, soFar, rfl, rfl, fun located member => (placed soFar located member).2⟩
      | withdrawn soFar =>
          refine ⟨_, soFar, rfl, rfl, fun located member => ?_⟩
          obtain ⟨apart, same⟩ := placed soFar located member
          exact (Arena.get?_release.trans (if_neg apart)).trans same
      | stale soFar active inScope gone => exact (sound.not_stale soFar active inScope gone).elim
      | orphaned soFar current inner alone =>
          exact (sound.not_orphaned soFar current inner alone).elim

theorem Becomes.shelters (becomes : machine.Becomes code after) (sound : machine.Sound)
    (found : machine.coroutine? id = some coroutine) (resting : coroutine.state ≠ .running) :
    machine.Shelters after coroutine := by
  obtain ⟨middle, evolves, globals, -, same⟩ := becomes.resting sound found resting
  have shelters := evolves_shelters sound evolves found resting
  refine ⟨globals.trans shelters.globals, fun located member => ?_, fun located member => ?_⟩
  · rw [← shelters.parent located member, Arena.parent?, Arena.parent?, same located member]
  · have live := shelters.live located member
    rwa [Arena.isLive, ← same located member] at live

/-- However a step ends, the containers of a coroutine that does not run stay. -/
theorem step_shelters (sound : machine.Sound) (running : machine.isRunning = true)
    (found : machine.coroutine? id = some coroutine) (resting : coroutine.state ≠ .running) :
    machine.Shelters machine.step coroutine := by
  obtain ⟨code, after, _, _, -, becomes, same⟩ := step_becomes sound running
  obtain ⟨globals, parent, live⟩ := becomes.shelters sound found resting
  rw [same]
  exact ⟨globals, parent, live⟩

/-- A step rolls back a region. -/
structure RollsBack (machine : Machine) (region : Region) : Prop where
  next : ∃ code, machine.instruction? = some code ∧ code.undoes
  opened : region ∈ machine.regions.items
  closed : region.mark ∉ machine.step.marks

/-- However a step ends, only a rollback changes a binding of a coroutine that does not run. -/
theorem step_read {β : Type} {kind : BindingKind β} {name : SymbolId} (sound : machine.Sound)
    (running : machine.isRunning = true) (found : machine.coroutine? id = some coroutine)
    (resting : coroutine.state ≠ .running) (located : coroutine.frames.at? depth = some frame)
    (member : container ∈ machine.containersOf frame)
    (changed : kind.read machine.step.arena container name ≠
      kind.read machine.arena container name) :
    ∃ region, machine.RollsBack region ∧
      (kind.logged region.log ⟨container, name⟩).isSome = true := by
  obtain ⟨code, after, _, _, executes, becomes, stepped⟩ := step_becomes sound running
  obtain ⟨middle, evolves, -, regions, same⟩ := becomes.resting sound found resting
  have chained := (mem_containersOf_iff sound.housed ⟨coroutine, found, located⟩).mp member
  have rest : kind.read machine.step.arena container name =
      kind.read middle.arena container name := by
    rw [BindingKind.read, BindingKind.read, ← same located chained.1, stepped]
  have read : kind.read middle.arena container name = _ ∨ _ :=
    evolves_read sound evolves found resting located member
  rcases read with kept | ⟨undoes, region, opened, closed, logged⟩
  · exact absurd (rest.trans kept) changed
  · refine ⟨region, ⟨⟨code, executes.resolve_right ?_, undoes⟩, opened, ?_⟩, logged⟩
    · rintro ⟨-, rfl⟩
      rcases undoes with undoing | raising
      · cases undoing
      · cases raising
    · rw [stepped]
      rw [marks, ← regions] at closed
      exact closed

end Machine

end Backtrack
