import Backtrack.Proofs.Bracketing
import Mathlib.Algebra.GroupWithZero.Nat

/-!
No container leaks. Every container that lives is the global one or belongs to exactly one frame: a
frame that goes takes its containers with it, and what an instruction allocates belongs to a frame
when the instruction is over. So the number of live containers is known from the frames alone.
-/

namespace Backtrack

namespace Arena

variable {arena : Arena} {ids : List ContainerId}

/-- A list of all live containers is as long as the arena says. -/
theorem live_eq_length (sound : arena.Sound) (distinct : ids.Nodup)
    (all : ∀ id, id ∈ ids ↔ arena.isLive id = true) : arena.live = ids.length := by
  have occupied : (ids.map ContainerId.index).Nodup :=
    nodup_indices distinct fun id => (all id).mp
  have divided : (ids.map ContainerId.index ++ arena.free.items).Perm
      (List.range arena.slots.size) := by
    refine (List.perm_ext_iff_of_nodup ?_ List.nodup_range).mpr fun index => ?_
    · refine List.nodup_append.mpr ⟨occupied, sound.distinct, ?_⟩
      rintro _ member _ vacant rfl
      obtain ⟨id, listed, rfl⟩ := List.mem_map.mp member
      obtain ⟨container, found⟩ := Option.isSome_iff_exists.mp ((all id).mp listed)
      obtain ⟨slot, stored, -, held⟩ := get?_eq_some_iff.mp found
      obtain ⟨slot', stored', empty⟩ := (sound.vacant _).mp vacant
      cases Option.some.inj (stored.symm.trans stored')
      cases held.symm.trans empty
    · rw [List.mem_append, List.mem_range]
      constructor
      · rintro (member | vacant)
        · obtain ⟨id, listed, rfl⟩ := List.mem_map.mp member
          exact index_lt ((all id).mp listed)
        · obtain ⟨slot, stored, -⟩ := (sound.vacant index).mp vacant
          exact (Array.getElem?_eq_some_iff.mp stored).1
      · intro within
        have stored := Array.getElem?_eq_getElem within
        cases content : arena.slots[index].content with
        | none => exact .inr ((sound.vacant index).mpr ⟨_, stored, content⟩)
        | some container =>
            have found : arena.get? ⟨index, arena.slots[index].generation⟩ = some container :=
              get?_eq_some_iff.mpr ⟨_, stored, rfl, content⟩
            have live : arena.isLive ⟨index, arena.slots[index].generation⟩ = true := by
              rw [isLive, found]
              rfl
            exact .inl (List.mem_map.mpr ⟨_, (all _).mpr live, rfl⟩)
  have total := divided.length_eq
  rw [List.length_append, List.length_map, List.length_range, ← arena.free.size_eq] at total
  rw [live]
  omega

end Arena

namespace Machine

variable {code : Instruction} {before after machine : Machine} {id : CoroutineId} {depth : Nat}
  {coroutine : Coroutine} {frame stood : Frame} {container : ContainerId}

/-! What an instruction does to the frames that stood before it -/

/-- A frame stays at its place, or it goes with its containers. -/
def Clears (before after : Machine) (id : CoroutineId) (depth : Nat) (stood : Frame) : Prop :=
  (∃ frame, Stands after.coroutine? id depth frame ∧ frame.id = stood.id) ∨
  ((∀ frame, ¬ Stands after.coroutine? id depth frame) ∧
    ∀ container ∈ before.containersOf stood, after.arena.isLive container = false)

/-- One coroutine changes, but it keeps its frames. -/
theorem clears_update {other : CoroutineId} {change : Coroutine → Coroutine}
    (found : before.coroutine? other = some coroutine)
    (kept : ∀ {depth frame}, coroutine.frames.at? depth = some frame →
      ∃ frame', (change coroutine).frames.at? depth = some frame' ∧ frame'.id = frame.id)
    (stands : Stands before.coroutine? id depth stood) :
    ∃ frame, Stands (before.updateCoroutine other change).coroutine? id depth frame ∧
      frame.id = stood.id := by
  by_cases here : id = other
  · subst here
    obtain ⟨_, found', located⟩ := stands
    cases Option.some.inj (found.symm.trans found')
    obtain ⟨frame, located', same⟩ := kept located
    exact ⟨frame, (stands_update found).mpr (.inl ⟨rfl, located'⟩), same⟩
  · exact ⟨stood, (stands_update found).mpr (.inr ⟨here, stands⟩), rfl⟩

theorem clears_updateFrame {change : Frame → Frame} (same : ∀ frame, (change frame).id = frame.id)
    (found : before.coroutine? before.current = some coroutine)
    (stands : Stands before.coroutine? id depth stood) :
    ∃ frame, Stands (before.updateFrame before.current change).coroutine? id depth frame ∧
      frame.id = stood.id := by
  refine clears_update found (fun {depth frame} located => ?_) stands
  rw [Coroutine.updateActive, Stack.at?_modifyTop, located]
  split
  · exact ⟨change frame, rfl, same frame⟩
  · exact ⟨frame, rfl, rfl⟩

theorem clears_push {added : Coroutine} (stands : Stands before.coroutine? id depth stood) :
    Stands { before with coroutines := before.coroutines.push added }.coroutine? id depth stood := by
  obtain ⟨coroutine, found, located⟩ := stands
  exact ⟨coroutine, found_push found, located⟩

/-- The upper frames of the current coroutine go with their containers. -/
theorem clears_above (regions : List Region) (ids : List ContainerId) (cut : Nat)
    (change : Coroutine → Coroutine)
    (housed : before.Housed) (found : before.coroutine? before.current = some coroutine)
    (lower : ∀ {depth frame}, depth < cut → coroutine.frames.at? depth = some frame →
      ∃ frame', (change coroutine).frames.at? depth = some frame' ∧ frame'.id = frame.id)
    (upper : ∀ {depth frame}, (change coroutine).frames.at? depth = some frame → depth < cut)
    (coroutines : after.coroutine? = (before.updateCoroutine before.current change).coroutine?)
    (arena : after.arena = ((before.arena.undo regions).vacateAll before.globals
      (coroutine.frames.above cut)).releaseAll ids)
    (stands : Stands before.coroutine? id depth stood) : before.Clears after id depth stood := by
  unfold Clears
  rw [coroutines, arena]
  by_cases here : id = before.current
  · subst here
    have stands' := stands
    obtain ⟨_, found', located⟩ := stands
    cases Option.some.inj (found.symm.trans found')
    by_cases low : depth < cut
    · obtain ⟨frame, located', same⟩ := lower low located
      exact .inl ⟨frame, (stands_update found).mpr (.inl ⟨rfl, located'⟩), same⟩
    · refine .inr ⟨fun frame stands => ?_, fun container member => ?_⟩
      · rcases (stands_update found).mp stands with ⟨-, located'⟩ | ⟨other, -⟩
        · exact low (upper located')
        · exact other rfl
      · obtain ⟨blocks, dwells⟩ := Backtrack.Housed.dwells housed stands'
        have live := Backtrack.Housed.live housed
        rw [containersOf_eq, dwells.dwelling live] at member
        have undone : Backtrack.Housed before.coroutine? (before.arena.undo regions)
            before.globals := Backtrack.Housed.alike housed Arena.undo_alike
        have dwells' : (before.arena.undo regions).Dwells before.globals stood blocks :=
          dwells.congr (fun _ _ => by rw [Arena.undo_alike.parents]) rfl rfl
        have released : container ∈
            Housed.above (before.arena.undo regions) before.globals coroutine cut := by
          refine List.mem_flatMap.mpr ⟨stood, ?_, ?_⟩
          · exact Stack.mem_above_iff.mpr ⟨depth, Nat.le_of_not_lt low, located⟩
          · rw [dwells'.dwelling (Backtrack.Housed.live undone)]
            exact member
        rw [Backtrack.Housed.vacateAll_above undone found, ← Arena.releaseAll_append]
        exact Arena.not_live_releaseAll (List.mem_append_left _ released)
  · exact .inl ⟨stood, (stands_update found).mpr (.inr ⟨here, stands⟩), rfl⟩

theorem clears_popFrame {active : Frame} (housed : before.Housed)
    (found : before.coroutine? before.current = some coroutine)
    (top : coroutine.active? = some active)
    (coroutines : after.coroutine? =
      (before.updateCoroutine before.current (·.popFrame)).coroutine?)
    (arena : after.arena = before.arena.vacate before.globals active)
    (stands : Stands before.coroutine? id depth stood) : before.Clears after id depth stood := by
  have bottom := (Coroutine.at?_top top).1
  refine clears_above [] [] (coroutine.depth - 1) (·.popFrame) housed found
    (fun {depth frame} low located => ?_) (fun {depth frame} located => ?_) coroutines ?_ stands
  · rw [Coroutine.popFrame, Stack.at?_pop, if_pos (by rw [Coroutine.depth] at low; omega)]
    exact ⟨frame, located, rfl⟩
  · rw [Coroutine.popFrame, Stack.at?_pop] at located
    split at located
    · next low =>
        rw [Coroutine.depth]
        omega
    · cases located
  · rw [arena, Coroutine.above_active top]
    rfl

theorem effect_clears (sound : before.Sound) (effect : Effect code before after)
    (stands : Stands before.coroutine? id depth stood) : before.Clears after id depth stood := by
  obtain ⟨running, found, -⟩ := sound.linked.current_running
  cases effect with
  | compute change same => exact .inl (clears_updateFrame (fun frame => (same frame).id) found stands)
  | pushScope active => exact .inl (clears_updateFrame (fun _ => rfl) found stands)
  | popScope _ active => exact .inl (clears_updateFrame (fun _ => rfl) found stands)
  | call =>
      refine .inl (clears_update found (fun {depth frame} located => ⟨frame, ?_, rfl⟩) stands)
      rw [Coroutine.pushFrame, Stack.at?_push, if_neg (Nat.ne_of_lt (Stack.lt_of_at? located))]
      exact located
  | create | copy => exact .inl ⟨stood, clears_push stands, rfl⟩
  | «return» current active => exact clears_popFrame sound.housed current active rfl rfl stands
  | finish current active => exact clears_popFrame sound.housed current active rfl rfl stands
  | enter _ _ _ entered =>
      exact .inl (clears_update entered (fun located => ⟨_, located, rfl⟩) stands)
  | yield current | pushHandler _ _ current | popHandler current =>
      exact .inl (clears_update current (fun located => ⟨_, located, rfl⟩) stands)
  | @abandon coroutine link current =>
      have whole : coroutine.frames.above 0 = coroutine.frames.items := Stack.above_zero
      exact clears_above _ [] 0 (fun _ => .dead) sound.housed current
        (fun low => absurd low (Nat.not_lt_zero _)) (fun located => by cases located) rfl
        (by rw [whole]; rfl) stands
  | @«catch» coroutine handler outer owner current installed owned =>
      refine clears_above _ _ (handler.depth + 1)
        (fun coroutine => (coroutine.caught handler outer).updateActive
          ({ · with scope := handler.scope, pc := handler.target })) sound.housed current
        (fun {depth frame} low located => ?_) (fun {depth frame} located => ?_) ?_ rfl stands
      · rw [Coroutine.updateActive, Coroutine.caught, Stack.at?_modifyTop, Stack.at?_below,
          if_pos low, located]
        split
        · exact ⟨_, rfl, rfl⟩
        · exact ⟨frame, rfl, rfl⟩
      · have within := Stack.lt_of_at? located
        rw [Coroutine.updateActive, Coroutine.caught, Stack.size_modifyTop, Stack.size_below]
          at within
        omega
      · have twice : ((before.updateCoroutine before.current (·.caught handler outer)).updateFrame
            before.current ({ · with scope := handler.scope, pc := handler.target })).coroutine? =
            (before.updateCoroutine before.current fun coroutine =>
              (coroutine.caught handler outer).updateActive
                ({ · with scope := handler.scope, pc := handler.target })).coroutine? :=
          congrArg coroutine? updateCoroutine_twice
        exact twice
  | _ => exact .inl ⟨stood, stands, rfl⟩

/-! What an instruction allocates -/

/-- A frame whose innermost container is not the global one has it. -/
theorem scope_mem_containersOf (housed : machine.Housed)
    (stands : Stands machine.coroutine? id depth frame) (inner : frame.scope ≠ machine.globals) :
    frame.scope ∈ machine.containersOf frame :=
  (mem_containersOf_iff housed stands).mpr ⟨Arena.mem_ancestry, inner⟩

/-- A container that an effect allocates is the innermost one of a frame. -/
theorem effect_allocates (sound : before.Sound) (effect : Effect code before after)
    (unused : before.arena.isLive container = false) (live : after.arena.isLive container = true) :
    ∃ id depth frame, Stands after.coroutine? id depth frame ∧ frame.scope = container := by
  obtain ⟨running, found, -⟩ := sound.linked.current_running
  have placed {parent : ContainerId}
      (live : (before.arena.place (some parent)).2.isLive container = true) :
      container = (before.arena.place (some parent)).1 := by
    rw [Arena.isLive, Arena.get?_place (Backtrack.Housed.sound sound.housed)] at live
    split at live
    · next same => exact same
    · exact absurd (unused.symm.trans live) Bool.false_ne_true
  have trimmed {later : Arena} (trims : later.Trims before.arena)
      (live : later.isLive container = true) : False :=
    absurd (unused.symm.trans (trims.live live)) Bool.false_ne_true
  have rebound {later : Arena} (alike : before.arena.Alike later)
      (live : later.isLive container = true) : False :=
    absurd (unused.symm.trans (alike.live ▸ live)) Bool.false_ne_true
  cases effect with
  | @pushScope active active' =>
      obtain ⟨coroutine, current, top⟩ := Option.bind_eq_some_iff.mp active'
      have moved : (coroutine.updateActive fun frame => { frame with
          scope := (before.arena.place (some active.scope)).1 }).active? = some _ :=
        Coroutine.active?_updateActive top
      exact ⟨_, _, _, (stands_update current).mpr (.inl ⟨rfl, (Coroutine.at?_top moved).2⟩),
        (placed live).symm⟩
  | call dst function registers =>
      have pushed (callee : Frame) :
          (running.pushFrame callee).frames.at? running.depth = some callee := by
        rw [Coroutine.pushFrame, Stack.at?_push]
        exact if_pos rfl
      exact ⟨_, _, _, (stands_update found).mpr (.inl ⟨rfl, pushed _⟩), (placed live).symm⟩
  | create | copy =>
      exact ⟨⟨before.coroutines.size⟩, 0, _, ⟨_, Array.getElem?_push_size, rfl⟩,
        (placed live).symm⟩
  | popScope => exact (trimmed Arena.release_trims live).elim
  | bindVar => exact (rebound Arena.putVar_alike live).elim
  | bindCandidates => exact (rebound Arena.putCandidates_alike live).elim
  | rollbackRegion => exact (rebound Arena.restore_alike live).elim
  | undoAll => exact (rebound Arena.undo_alike live).elim
  | «return» | finish => exact (trimmed Arena.releaseAll_trims live).elim
  | abandon =>
      exact (rebound Arena.undo_alike (Arena.vacateAll_trims.live live)).elim
  | «catch» =>
      exact (rebound Arena.undo_alike
        (Arena.vacateAll_trims.live (Arena.releaseAll_trims.live live))).elim
  | _ => exact (trimmed Arena.Trims.refl live).elim

/-! Machines in which every container has an owner -/

structure Occupied (machine : Machine) : Prop where
  housed : machine.Housed
  owned {container : ContainerId} (live : machine.arena.isLive container = true)
    (inner : container ≠ machine.globals) : ∃ id depth frame,
      Stands machine.coroutine? id depth frame ∧ container ∈ machine.containersOf frame
  /-- Only the first frame of the root is based in the global container. -/
  anchored {id : CoroutineId} {depth : Nat} {frame : Frame}
    (stands : Stands machine.coroutine? id depth frame) :
    frame.base = machine.globals ↔ id = .root ∧ depth = 0

namespace Occupied

theorem stands_unique {find : CoroutineId → Option Coroutine} {frame' : Frame}
    (stands : Stands find id depth frame) (stands' : Stands find id depth frame') :
    frame = frame' := by
  obtain ⟨coroutine, found, located⟩ := stands
  obtain ⟨_, found', located'⟩ := stands'
  cases Option.some.inj (found.symm.trans found')
  exact Option.some.inj (located.symm.trans located')

/-- A frame that begins is not the first one of the root, for that has begun already. -/
theorem begins_inner (sound : before.Sound) (effect : Effect code before after)
    (stands : Stands after.coroutine? id depth frame) (begins : before.Begins code after frame) :
    ¬ (id = .root ∧ depth = 0) := by
  rintro ⟨rfl, rfl⟩
  obtain ⟨root, found, runs⟩ := sound.awake_running sound.awake_rooted
  obtain ⟨first, located⟩ := Option.isSome_iff_exists.mp
    (Stack.at?_isSome.mpr (Coroutine.state_eq_running_iff.mp runs).2.1)
  rcases effect_clears sound effect ⟨root, found, located⟩ with ⟨frame', stands', same⟩ | ⟨gone, -⟩
  · have known := Layered.bounded sound.layered found (Stack.mem_items_iff.mpr ⟨0, located⟩)
    rw [← same, stands_unique stands' stands, begins.fresh] at known
    exact Nat.lt_irrefl _ known
  · exact gone frame stands

theorem effect (occupied : before.Occupied) (sound : before.Sound)
    (effect : Effect code before after) : after.Occupied where
  housed := (sound.effect effect).housed
  owned {container} live inner := by
    have sound' := sound.effect effect
    rw [effect_globals effect] at inner
    cases earlier : before.arena.isLive container with
    | false =>
        obtain ⟨id, depth, frame, stands, rfl⟩ := effect_allocates sound effect earlier live
        exact ⟨id, depth, frame, stands, scope_mem_containersOf sound'.housed stands
          (by rwa [effect_globals effect])⟩
    | true =>
        obtain ⟨id, depth, stood, stood', member⟩ := occupied.owned earlier inner
        rcases effect_clears sound effect stood' with ⟨frame, stands, same⟩ | ⟨-, freed⟩
        · obtain ⟨coroutine, found, located⟩ := stood'
          have known := Layered.bounded sound.layered found (Stack.mem_items_iff.mpr ⟨_, located⟩)
          obtain ⟨_, goes⟩ :=
            effect_stood sound effect (frame?_eq_some_iff.mpr stands) (same ▸ known)
          cases stands_unique goes.earlier ⟨coroutine, found, located⟩
          refine ⟨id, depth, frame, stands, ?_⟩
          refine (containersOf_effect sound effect goes.earlier stands goes.shifts member).resolve_left
            fun released => absurd (released.symm.trans live) Bool.false_ne_true
        · exact absurd ((freed container member).symm.trans live) Bool.false_ne_true
  anchored {id depth frame} stands := by
    rw [effect_globals effect]
    rcases stands_effect sound effect stands with ⟨stood, goes⟩ | begins
    · rw [goes.base]
      exact occupied.anchored goes.earlier
    · refine iff_of_false ?_ (begins_inner sound effect stands begins)
      rw [begins.base]
      exact (Arena.get?_place_live (Backtrack.Housed.sound sound.housed)
        (Backtrack.Housed.live sound.housed)).1.symm

theorem evolves (occupied : before.Occupied) (sound : before.Sound)
    (evolves : before.Evolves code after) : after.Occupied := by
  induction evolves with
  | refl => exact occupied
  | tail soFar effect ih => exact ih.effect (sound.evolves soFar) effect

/-- The frames below the active one keep their containers when it goes. -/
theorem containersOf_popped {active : Frame} (housed : before.Housed)
    (found : before.coroutine? before.current = some coroutine)
    (top : coroutine.active? = some active)
    (stands : Stands (before.updateCoroutine before.current (·.popFrame)).coroutine? id depth frame) :
    Stands before.coroutine? id depth frame ∧
      ({ before with arena := before.arena.vacate before.globals active }).containersOf frame =
        before.containersOf frame := by
  have lower : Stands before.coroutine? id depth frame ∧
      (id = before.current → depth < coroutine.depth - 1) := by
    rcases (stands_update found).mp stands with ⟨rfl, located⟩ | ⟨other, stood⟩
    · rw [Coroutine.popFrame, Stack.at?_pop] at located
      split at located
      · next low => exact ⟨⟨coroutine, found, located⟩, fun _ => Nat.lt_sub_of_add_lt low⟩
      · cases located
    · exact ⟨stood, fun same => absurd same other⟩
  obtain ⟨stood, low⟩ := lower
  obtain ⟨blocks, dwells⟩ := Backtrack.Housed.dwells housed stood
  have kept := Backtrack.Housed.vacated_dwells housed found stood low dwells
  rw [Coroutine.above_active top] at kept
  have live := Backtrack.Housed.live (housed_popFrame housed found top)
  refine ⟨stood, ?_⟩
  rw [containersOf_eq, containersOf_eq, dwells.dwelling (Backtrack.Housed.live housed)]
  exact kept.dwelling live

/-- The active frame goes. -/
theorem popped {active : Frame} (occupied : before.Occupied)
    (found : before.coroutine? before.current = some coroutine)
    (top : coroutine.active? = some active) :
    ({ before with arena := before.arena.vacate before.globals active }.updateCoroutine
      before.current (·.popFrame)).Occupied where
  housed := housed_popFrame occupied.housed found top
  owned {container} live inner := by
    have earlier := Arena.releaseAll_trims.live live
    obtain ⟨id, depth, stood, stood', member⟩ := occupied.owned earlier inner
    have clears : before.Clears ({ before with
        arena := before.arena.vacate before.globals active }.updateCoroutine before.current
          (·.popFrame)) id depth stood :=
      clears_popFrame occupied.housed found top rfl rfl stood'
    rcases clears with ⟨frame, stands, -⟩ | ⟨-, freed⟩
    · obtain ⟨same, kept⟩ := containersOf_popped occupied.housed found top stands
      refine ⟨id, depth, frame, stands, ?_⟩
      rw [← stands_unique same stood', ← kept] at member
      exact member
    · exact absurd ((freed container member).symm.trans live) Bool.false_ne_true
  anchored stands := occupied.anchored (containersOf_popped occupied.housed found top stands).1

/-- At the start there is only the global container. -/
theorem initial {program : Program} {args : List Value} {settings : Settings}
    (started : start program args settings = .ok machine) : machine.Occupied := by
  obtain ⟨unit, registers, -, -, -, -, rfl⟩ := start_eq started
  refine ⟨housed_alone rfl rfl, fun {container} live inner => ?_, fun {id depth frame} stands => ?_⟩
  · rw [Arena.isLive, Arena.get?_place Arena.empty_sound, if_neg inner] at live
    cases live
  · obtain ⟨coroutine, found, located⟩ := stands
    obtain ⟨rfl, rfl⟩ := eq_of_alone found
    rw [Coroutine.root, Coroutine.new, Stack.at?_push] at located
    split at located
    · next bottom =>
        cases located
        exact iff_of_true rfl ⟨rfl, bottom⟩
    · cases located

end Occupied

/-- A step that does not fault. -/
theorem Occupied.step (occupied : machine.Occupied) (sound : machine.Sound)
    (running : machine.isRunning = true) (sane : ∀ fault, machine.step.status ≠ .trapped fault) :
    machine.step.Occupied := by
  rcases step_cases sound.enabled with ⟨code, -, evolves | stops⟩ | ⟨value, done⟩ | ⟨fault, trapped⟩
  · exact occupied.evolves sound evolves
  · obtain ⟨after, condition, evolves, stopped⟩ := stops
    have occupied' := occupied.evolves sound evolves
    rw [stopped]
    exact ⟨occupied'.housed, occupied'.owned, occupied'.anchored⟩
  · obtain ⟨code, coroutine, frame, -, -, current, active, same⟩ := step_done sound running done
    have soFar : machine.Evolves code (machine.fetched code) := fetched_evolves
    have occupied' := (occupied.evolves sound soFar).popped current active
    rw [same]
    exact ⟨occupied'.housed, occupied'.owned, occupied'.anchored⟩
  · exact absurd trapped (sane fault)

/-- The frames of all coroutines. -/
def frames (machine : Machine) : List Frame :=
  machine.coroutines.toList.flatMap (·.frames.items)

/-- The containers on the chain of a frame, but for the global one. -/
def blocks (machine : Machine) (frame : Frame) : List ContainerId :=
  (machine.arena.ancestry frame.scope).filter (· ≠ machine.globals)

/-- Who has the containers. -/
structure Occupancy (machine : Machine) : Prop where
  /-- The chain of a frame leads through live containers to its base container and from there to
  the global one. The first frame of the root is based in the global container itself. -/
  chained {id : CoroutineId} {depth : Nat} {frame : Frame}
    (stands : machine.frame? id depth = some frame) :
    Trail machine.arena.parent? frame.scope (machine.arena.ancestry frame.scope) ∧
      (∀ container ∈ machine.arena.ancestry frame.scope, machine.arena.isLive container = true) ∧
      ∃ inner, machine.arena.ancestry frame.scope = inner ++
        if id = .root ∧ depth = 0 then [machine.globals] else [frame.base, machine.globals]
  rooted {frame : Frame} (stands : machine.frame? .root 0 = some frame) :
    frame.base = machine.globals
  /-- Two chains share the global container only. -/
  apart {id id' : CoroutineId} {depth depth' : Nat} {frame frame' : Frame}
    {container : ContainerId} (stands : machine.frame? id depth = some frame)
    (stands' : machine.frame? id' depth' = some frame')
    (passed : container ∈ machine.arena.ancestry frame.scope)
    (passed' : container ∈ machine.arena.ancestry frame'.scope) (inner : container ≠ machine.globals) :
    id = id' ∧ depth = depth'
  owned {container : ContainerId} (live : machine.arena.isLive container = true)
    (inner : container ≠ machine.globals) : ∃ id depth frame,
      machine.frame? id depth = some frame ∧ container ∈ machine.arena.ancestry frame.scope
  counted : machine.arena.live =
    1 + (machine.frames.map fun frame => (machine.blocks frame).length).sum

theorem mem_frames_iff : frame ∈ machine.frames ↔ ∃ id depth, machine.frame? id depth = some frame := by
  rw [frames, List.mem_flatMap]
  constructor
  · rintro ⟨coroutine, member, stacked⟩
    obtain ⟨index, found⟩ := List.mem_iff_getElem?.mp member
    obtain ⟨depth, located⟩ := Stack.mem_items_iff.mp stacked
    rw [Array.getElem?_toList] at found
    exact ⟨⟨index⟩, depth, frame?_eq_some_iff.mpr ⟨coroutine, found, located⟩⟩
  · rintro ⟨id, depth, stands⟩
    obtain ⟨coroutine, found, located⟩ := frame?_eq_some_iff.mp stands
    exact ⟨coroutine, Array.mem_toList_iff.mpr (Array.mem_of_getElem? found),
      Stack.mem_items_iff.mpr ⟨depth, located⟩⟩

/-- What holds of any two frames holds along the list of all frames. -/
theorem pairwise_frames {relates : Frame → Frame → Prop}
    (holds : ∀ {id id' depth depth' frame frame'}, machine.frame? id depth = some frame →
      machine.frame? id' depth' = some frame' → ¬ (id = id' ∧ depth = depth') →
      relates frame frame') : machine.frames.Pairwise relates := by
  apply List.pairwise_flatMap.mpr
  constructor
  · intro coroutine member
    obtain ⟨index, found⟩ := List.mem_iff_getElem?.mp member
    rw [Array.getElem?_toList] at found
    apply Stack.pairwise_items
    intro low high lower upper less located located'
    have stands : machine.frame? ⟨index⟩ low = some lower :=
      frame?_eq_some_iff.mpr ⟨coroutine, found, located⟩
    have stands' : machine.frame? ⟨index⟩ high = some upper :=
      frame?_eq_some_iff.mpr ⟨coroutine, found, located'⟩
    exact holds stands' stands fun same => Nat.ne_of_gt less same.2
  · apply List.pairwise_iff_getElem.mpr
    intro first second inside inside' before frame stacked frame' stacked'
    obtain ⟨depth, located⟩ := Stack.mem_items_iff.mp stacked
    obtain ⟨depth', located'⟩ := Stack.mem_items_iff.mp stacked'
    have found := List.getElem?_eq_getElem inside
    have found' := List.getElem?_eq_getElem inside'
    rw [Array.getElem?_toList] at found found'
    have stands : machine.frame? ⟨first⟩ depth = some frame :=
      frame?_eq_some_iff.mpr ⟨_, found, located⟩
    have stands' : machine.frame? ⟨second⟩ depth' = some frame' :=
      frame?_eq_some_iff.mpr ⟨_, found', located'⟩
    exact holds stands stands' fun same => Nat.ne_of_lt before (congrArg CoroutineId.index same.1)

namespace Occupied

theorem mem_blocks_iff (occupied : machine.Occupied) (stands : Stands machine.coroutine? id depth frame) :
    container ∈ machine.blocks frame ↔ container ∈ machine.containersOf frame := by
  rw [mem_containersOf_iff occupied.housed stands, blocks, List.mem_filter, decide_eq_true_iff]

theorem blocks_nodup (occupied : machine.Occupied)
    (stands : Stands machine.coroutine? id depth frame) : (machine.blocks frame).Nodup :=
  (Housed.lineage occupied.housed stands).1.nodup.filter _

/-- The live containers, each of them once. -/
theorem live_eq (occupied : machine.Occupied) : machine.arena.live =
    (machine.globals :: machine.frames.flatMap machine.blocks).length := by
  refine Arena.live_eq_length (Backtrack.Housed.sound occupied.housed) ?_ fun container => ?_
  · refine List.nodup_cons.mpr ⟨fun member => ?_, List.pairwise_flatMap.mpr ⟨?_, ?_⟩⟩
    · obtain ⟨frame, -, listed⟩ := List.mem_flatMap.mp member
      exact of_decide_eq_true (List.mem_filter.mp listed).2 rfl
    · intro frame member
      obtain ⟨id, depth, stands⟩ := mem_frames_iff.mp member
      exact occupied.blocks_nodup (frame?_eq_some_iff.mp stands)
    · apply pairwise_frames
      intro id id' depth depth' frame frame' stands stands' differ first listed second listed' same
      subst same
      rw [occupied.mem_blocks_iff (frame?_eq_some_iff.mp stands)] at listed
      rw [occupied.mem_blocks_iff (frame?_eq_some_iff.mp stands')] at listed'
      exact differ (containersOf_apart occupied.housed (frame?_eq_some_iff.mp stands)
        (frame?_eq_some_iff.mp stands') listed listed')
  · rw [List.mem_cons, List.mem_flatMap]
    constructor
    · rintro (rfl | ⟨frame, member, listed⟩)
      · exact Backtrack.Housed.live occupied.housed
      · obtain ⟨id, depth, stands⟩ := mem_frames_iff.mp member
        exact (Housed.lineage occupied.housed (frame?_eq_some_iff.mp stands)).2 container
          (List.mem_of_mem_filter listed)
    · intro live
      by_cases outermost : container = machine.globals
      · exact .inl outermost
      · obtain ⟨id, depth, frame, stands, member⟩ := occupied.owned live outermost
        exact .inr ⟨frame, mem_frames_iff.mpr ⟨id, depth, frame?_eq_some_iff.mpr stands⟩,
          (occupied.mem_blocks_iff stands).mpr member⟩

theorem accounts (occupied : machine.Occupied) : machine.Occupancy where
  chained {id depth frame} stands := by
    have stands' := frame?_eq_some_iff.mp stands
    obtain ⟨trail, live⟩ := Housed.lineage occupied.housed stands'
    obtain ⟨blocks, dwells⟩ := Backtrack.Housed.dwells occupied.housed stands'
    have chain := dwells.ancestry (Backtrack.Housed.live occupied.housed)
    refine ⟨trail, live, ?_⟩
    split
    · exact ⟨blocks, chain⟩
    · next inner =>
        have based := dwells.based.resolve_left fun base =>
          inner ((occupied.anchored stands').mp base)
        obtain ⟨front, rfl⟩ := List.getLast?_eq_some_iff.mp based
        exact ⟨front, chain.trans (List.append_assoc ..)⟩
  rooted stands := (occupied.anchored (frame?_eq_some_iff.mp stands)).mpr ⟨rfl, rfl⟩
  apart stands stands' passed passed' inner :=
    containersOf_apart occupied.housed (frame?_eq_some_iff.mp stands)
      (frame?_eq_some_iff.mp stands')
      ((mem_containersOf_iff occupied.housed (frame?_eq_some_iff.mp stands)).mpr ⟨passed, inner⟩)
      ((mem_containersOf_iff occupied.housed (frame?_eq_some_iff.mp stands')).mpr ⟨passed', inner⟩)
  owned live inner := by
    obtain ⟨id, depth, frame, stands, member⟩ := occupied.owned live inner
    exact ⟨id, depth, frame, frame?_eq_some_iff.mpr stands,
      ((mem_containersOf_iff occupied.housed stands).mp member).1⟩
  counted := by
    rw [occupied.live_eq, List.length_cons, List.length_flatMap, Nat.add_comm]

end Occupied

/-! Runs -/

section Reachable

variable {program : Program} {args : List Value} {settings : Settings}

theorem Reachable.occupied (reachable : Reachable program args settings machine)
    (sane : ∀ fault, machine.status ≠ .trapped fault) : machine.Occupied := by
  obtain ⟨initial, started, reaches⟩ := reachable
  induction reaches with
  | refl => exact .initial started
  | @tail earlier _ reached moves ih =>
      cases moves with
      | collect | reset =>
          have occupied := ih sane
          exact ⟨occupied.housed, occupied.owned, occupied.anchored⟩
      | step running =>
          have goesOn : earlier.status = .running := of_decide_eq_true running
          have occupied := ih fun fault trapped => absurd (goesOn.symm.trans trapped) nofun
          exact occupied.step (Reachable.sound ⟨initial, started, reached⟩ running) running sane

/-- As long as a machine has not faulted, no container leaks and none is freed that is in use. -/
theorem Reachable.occupancy (reachable : Reachable program args settings machine)
    (sane : ∀ fault, machine.status ≠ .trapped fault) : machine.Occupancy :=
  (reachable.occupied sane).accounts

end Reachable

/-- The entry function creates a coroutine that is not entered and calls a function that pushes a
container. -/
def lodgingProgram : Program :=
  { Program.empty with
    functions := #[
      { name := "main", registerCount := 1, parameterCount := 0, parameters := []
        code := #[.createCoroutine 0 ⟨1⟩ [], .pushScope, .call none (.direct ⟨2⟩) [], .return 0] },
      { name := "idle", registerCount := 0, parameterCount := 0, parameters := []
        code := #[.noSolution] },
      { name := "leaf", registerCount := 0, parameterCount := 0, parameters := []
        code := #[.pushScope, .noSolution] }]
    functionIndex :=
      .ofList [("main", FunctionId.mk 0), ("idle", FunctionId.mk 1), ("leaf", FunctionId.mk 2)] }

theorem occupancy_lodging :
    ∃ initial, start lodgingProgram [] .standard = .ok initial ∧
      (initial.run 4).arena.live = 5 ∧ (initial.run 4).isRunning = true ∧
      (initial.run 4).Occupancy ∧
      (initial.run 5).arena.live = 5 ∧ (initial.run 5).isRunning = false ∧
      (initial.run 5).Occupancy := by
  have runs : (match start lodgingProgram [] .standard with
      | .ok initial => decide ((initial.run 4).arena.live = 5 ∧ (initial.run 4).status = .running ∧
          (initial.run 5).arena.live = 5 ∧ (initial.run 5).isRunning = false ∧
          (initial.run 5).status = .uncaught ⟨.noSolution, [⟨"leaf", 1⟩, ⟨"main", 2⟩]⟩)
      | .error _ => false) = true := by decide +kernel
  split at runs
  · next initial started =>
      obtain ⟨live, goesOn, live', stops, escapes⟩ := of_decide_eq_true runs
      have before : (initial.run 4).Occupancy := by
        apply Reachable.occupancy ⟨initial, started, reaches_run 4⟩
        rw [goesOn]
        exact nofun
      have after : (initial.run 5).Occupancy := by
        apply Reachable.occupancy ⟨initial, started, reaches_run 5⟩
        rw [escapes]
        exact nofun
      exact ⟨initial, started, live, decide_eq_true goesOn, before, live', stops, after⟩
  · cases runs

end Machine

end Backtrack
