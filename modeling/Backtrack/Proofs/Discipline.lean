import Backtrack.Proofs.Turns

/-!
The discipline of open regions. Nothing checks it while a machine runs; it follows from the guards
on closing a region, returning, yielding and giving up a coroutine. The regions lie on the stack in
the order of the frames that own them, and every owner stands on the path of callers. So the loops
that undo regions from the top on and stop at the first that is to stay undo all that are to go.
-/

namespace Backtrack

namespace Machine

/-- The frame at a place on the path of callers: so many coroutines above the root, and so deep. -/
def placed? (machine : Machine) (level depth : Nat) : Option Frame := do
  machine.frame? (← machine.awake.reverse[level]?) depth

/-- The loop over the open regions undoes all of them that are to go, wherever they lie. -/
def Undoes (machine : Machine) (undone : Region → Bool) : Prop :=
  ∃ counters, Action.rollbackWhile undone machine = .ok () { machine with
    regions := .ofItems (machine.regions.items.filter (!undone ·))
    arena := machine.arena.undo (machine.regions.items.filter undone)
    counters }

/-- The machines that a condition passes, from the one in which it is raised on. It goes on from a
coroutine without handlers to the one that waits for it. -/
inductive Passes (raised : Machine) : Machine → Prop
  | here : Passes raised raised
  | further {passed next : Machine} {coroutine : Coroutine} (earlier : Passes raised passed)
      (found : passed.coroutine? passed.current = some coroutine)
      (bare : coroutine.handlers = []) (inner : passed.current ≠ .root)
      (left : Action.abandon coroutine passed = .ok () next) : Passes raised next

structure Disciplined (machine : Machine) : Prop where
  distinct {id id' : CoroutineId} {depth depth' : Nat} {frame frame' : Frame}
    (stands : machine.frame? id depth = some frame)
    (stands' : machine.frame? id' depth' = some frame') (same : frame.id = frame'.id) :
    id = id' ∧ depth = depth'
  increasing : machine.regions.items.Pairwise fun upper lower => lower.serial < upper.serial
  owned {region : Region} (opened : region ∈ machine.regions.items) :
    ∃ level depth owner, machine.placed? level depth = some owner ∧ owner.id = region.owner
  stacked : machine.regions.items.Pairwise fun upper lower =>
    ∀ {level depth level' depth' : Nat} {owner owner' : Frame},
      machine.placed? level depth = some owner → owner.id = upper.owner →
      machine.placed? level' depth' = some owner' → owner'.id = lower.owner →
      level' < level ∨ level' = level ∧ depth' ≤ depth
  resting {id : CoroutineId} {coroutine : Coroutine} {frame : Frame} {region : Region}
    (found : machine.coroutine? id = some coroutine)
    (parked : coroutine.state = .fresh ∨ coroutine.state = .suspended)
    (stands : frame ∈ coroutine.frames.items) (opened : region ∈ machine.regions.items) :
    region.owner ≠ frame.id
  /-- Giving up a coroutine undoes every region of its frames. -/
  abandoned {code : Instruction} {passed : Machine} {coroutine : Coroutine}
    (running : machine.isRunning = true) (passes : (machine.fetched code).Passes passed)
    (found : passed.coroutine? passed.current = some coroutine) :
    (passed.updateCoroutine passed.current fun _ => .dead).Undoes fun region =>
      region.owner ∈ coroutine.frames.items.map (·.id)
  /-- A catch undoes every region that was opened after the handler was pushed by its frame or a
  frame above it. -/
  caught {code : Instruction} {passed : Machine} {coroutine : Coroutine} {handler : Handler}
    {outer : List Handler} {target : Frame} (running : machine.isRunning = true)
    (passes : (machine.fetched code).Passes passed)
    (found : passed.coroutine? passed.current = some coroutine)
    (installed : coroutine.handlers = handler :: outer)
    (owned : coroutine.frames.at? handler.depth = some target) :
    (passed.updateCoroutine passed.current ({ · with handlers := outer })).Undoes fun region =>
      handler.regionSerial ≤ region.serial &&
        region.owner ∈ (coroutine.frames.above (handler.depth + 1) ++ [target]).map (·.id)
  stopped (stops : machine.isRunning = false) : machine.openRegions = 0

variable {machine : Machine} {id : CoroutineId} {depth level : Nat} {frame : Frame}
  {coroutine : Coroutine}

theorem frame?_eq_some_iff :
    machine.frame? id depth = some frame ↔ Stands machine.coroutine? id depth frame :=
  Option.bind_eq_some_iff

theorem frame?_found (found : machine.coroutine? id = some coroutine) :
    machine.frame? id depth = coroutine.frames.at? depth := by
  rw [frame?, found]
  rfl

theorem mem_frameIds_iff {owner : FrameId} :
    owner ∈ frameIds machine.coroutine? id ↔
      ∃ depth frame, machine.frame? id depth = some frame ∧ frame.id = owner := by
  unfold frameIds
  constructor
  · intro member
    split at member
    · next coroutine found =>
        obtain ⟨frame, stacked, same⟩ := List.mem_map.mp member
        obtain ⟨depth, located⟩ := Stack.mem_items_iff.mp stacked
        exact ⟨depth, frame, frame?_eq_some_iff.mpr ⟨coroutine, found, located⟩, same⟩
    · cases member
  · rintro ⟨depth, frame, stands, rfl⟩
    obtain ⟨coroutine, found, located⟩ := frame?_eq_some_iff.mp stands
    rw [found]
    exact List.mem_map_of_mem (Stack.mem_items_iff.mpr ⟨depth, located⟩)

theorem placed?_eq_some_iff :
    machine.placed? level depth = some frame ↔
      ∃ id, machine.awake.reverse[level]? = some id ∧ machine.frame? id depth = some frame :=
  Option.bind_eq_some_iff

theorem undoes_of_first {undone : Region → Bool} (enabled : machine.AllEnabled)
    (first : machine.regions.items.Pairwise fun upper lower =>
      undone lower = true → undone upper = true) : machine.Undoes undone := by
  have leads : (Action.rollbackWhile undone).Leads machine
      (fun _ after => ∃ counters, after = { machine with
        regions := .ofItems (machine.regions.items.filter (!undone ·))
        arena := machine.arena.undo (machine.regions.items.filter undone)
        counters }) fun _ _ => False := by
    refine Action.leads_rollbackWhile enabled fun counters => ⟨counters, ?_⟩
    rw [takeWhile_eq_filter first, dropWhile_eq_filter first]
  unfold Action.Leads at leads
  split at leads
  · next result after ended =>
      obtain ⟨counters, rfl⟩ := leads
      exact ⟨counters, ended⟩
  · exact leads.elim

namespace Sound

theorem distinct {id' : CoroutineId} {depth' : Nat} {frame' : Frame} (sound : machine.Sound)
    (stands : machine.frame? id depth = some frame)
    (stands' : machine.frame? id' depth' = some frame') (same : frame.id = frame'.id) :
    id = id' ∧ depth = depth' := by
  obtain ⟨coroutine, found, located⟩ := frame?_eq_some_iff.mp stands
  obtain ⟨coroutine', found', located'⟩ := frame?_eq_some_iff.mp stands'
  exact Layered.distinct sound.layered found found' located located' same

/-- The frames of two coroutines are different. -/
theorem owner_home {other : CoroutineId} (sound : machine.Sound)
    (stands : machine.frame? id depth = some frame)
    (member : frame.id ∈ frameIds machine.coroutine? other) : other = id := by
  obtain ⟨depth', frame', stands', same⟩ := mem_frameIds_iff.mp member
  exact (sound.distinct stands' stands same).1

theorem increasing (sound : machine.Sound) :
    machine.regions.items.Pairwise fun upper lower => lower.serial < upper.serial :=
  List.pairwise_map.mp (Layered.ordered sound.layered)

theorem nested_awake (sound : machine.Sound) :
    Nested (machine.awake.flatMap (frameIds machine.coroutine?)) machine.marks := by
  obtain ⟨path, trail, nested⟩ := Layered.nested sound.layered
  have trail' := (awake_trail sound.linked).1
  rw [waiter?_eq] at trail'
  rw [← trail.unique trail']
  exact nested

theorem owner_awake {region : Region} (sound : machine.Sound)
    (opened : region ∈ machine.regions.items) :
    ∃ id ∈ machine.awake, ∃ depth owner, machine.frame? id depth = some owner ∧
      owner.id = region.owner := by
  have member := sound.nested_awake.owner_mem (List.mem_map_of_mem opened)
  obtain ⟨id, passed, own⟩ := List.mem_flatMap.mp member
  exact ⟨id, passed, mem_frameIds_iff.mp own⟩

theorem owned {region : Region} (sound : machine.Sound) (opened : region ∈ machine.regions.items) :
    ∃ level depth owner, machine.placed? level depth = some owner ∧ owner.id = region.owner := by
  obtain ⟨id, passed, depth, owner, stands, same⟩ := sound.owner_awake opened
  obtain ⟨level, located⟩ := List.mem_iff_getElem?.mp (List.mem_reverse.mpr passed)
  exact ⟨level, depth, owner, placed?_eq_some_iff.mpr ⟨id, located, stands⟩, same⟩

/-- The path of callers before a coroutine, the coroutine, and the path behind it. -/
theorem awake_at (located : machine.awake.reverse[level]? = some id) :
    ∃ front rest, machine.awake = front ++ id :: rest ∧ level = rest.length := by
  have within := (List.getElem?_eq_some_iff.mp located).1
  rw [List.length_reverse] at within
  rw [List.getElem?_reverse within] at located
  obtain ⟨inside, same⟩ := List.getElem?_eq_some_iff.mp located
  refine ⟨machine.awake.take (machine.awake.length - 1 - level),
    machine.awake.drop (machine.awake.length - 1 - level + 1), ?_, ?_⟩
  · rw [← same, List.getElem_cons_drop, List.take_append_drop]
  · rw [List.length_drop]
    omega

/-- A coroutine has one place on the path of callers. -/
theorem awake_once {front rest front' rest' : List CoroutineId} (sound : machine.Sound)
    (path : machine.awake = front ++ id :: rest) (path' : machine.awake = front' ++ id :: rest') :
    rest = rest' := by
  have distinct := (awake_trail sound.linked).1.nodup
  rw [path] at distinct path'
  obtain ⟨-, after, apart⟩ := List.nodup_append.mp distinct
  have absent : id ∉ front := fun member => apart id member id (by simp) rfl
  exact ((List.append_cons_inj_of_notMem absent (List.nodup_cons.mp after).1).mp path').2.2

theorem stacked (sound : machine.Sound) : machine.regions.items.Pairwise fun upper lower =>
    ∀ {level depth level' depth' : Nat} {owner owner' : Frame},
      machine.placed? level depth = some owner → owner.id = upper.owner →
      machine.placed? level' depth' = some owner' → owner'.id = lower.owner →
      level' < level ∨ level' = level ∧ depth' ≤ depth := by
  refine List.pairwise_iff_forall_sublist.mpr ?_
  intro upper lower pair level depth level' depth' owner owner' placed own placed' own'
  obtain ⟨id, located, stands⟩ := placed?_eq_some_iff.mp placed
  obtain ⟨id', located', stands'⟩ := placed?_eq_some_iff.mp placed'
  obtain ⟨coroutine', found', at'⟩ := frame?_eq_some_iff.mp stands'
  obtain ⟨front, rest, path, rfl⟩ := awake_at located'
  -- The frames from the active one down to the owner of the lower region come first.
  have frames : machine.awake.flatMap (frameIds machine.coroutine?) =
      (front.flatMap (frameIds machine.coroutine?) ++
        (coroutine'.frames.above depth').map Frame.id) ++
      ((coroutine'.frames.below depth').items.map Frame.id ++
        rest.flatMap (frameIds machine.coroutine?)) := by
    have own : frameIds machine.coroutine? id' = (coroutine'.frames.above depth').map Frame.id ++
        (coroutine'.frames.below depth').items.map Frame.id := by
      rw [frameIds, found', ← List.map_append, Stack.above_append_below]
    rw [path, List.flatMap_append, List.flatMap_cons, own]
    simp only [List.append_assoc]
  have nodup := (awake_trail sound.linked).1.nodup
  have nested := sound.nested_awake
  have distinct := Layered.frameIds_nodup sound.layered nodup
  rw [frames] at nested distinct
  have first := List.pairwise_iff_forall_sublist.mp (nested.first distinct) (pair.map Region.mark)
  have below : lower.mark.owner ∈ front.flatMap (frameIds machine.coroutine?) ++
      (coroutine'.frames.above depth').map Frame.id := by
    refine List.mem_append_right _ (List.mem_map.mpr ⟨owner', ?_, own'⟩)
    exact Stack.mem_above_iff.mpr ⟨depth', Nat.le_refl _, at'⟩
  rcases List.mem_append.mp (first below) with further | same
  · obtain ⟨other, passed, member⟩ := List.mem_flatMap.mp further
    have here : other = id := sound.owner_home stands (own ▸ member)
    subst here
    obtain ⟨front', rest', path', rfl⟩ := awake_at located
    obtain ⟨before, between, rfl⟩ := List.append_of_mem passed
    rw [List.append_assoc, List.cons_append] at path
    left
    rw [← sound.awake_once path path', List.length_append, List.length_cons]
    omega
  · obtain ⟨frame, above, same⟩ := List.mem_map.mp same
    obtain ⟨depth'', higher, there⟩ := Stack.mem_above_iff.mp above
    obtain ⟨rfl, rfl⟩ := sound.distinct (frame?_eq_some_iff.mpr ⟨coroutine', found', there⟩) stands
      (same.trans own.symm)
    obtain ⟨front', rest', path', rfl⟩ := awake_at located
    exact .inr ⟨congrArg List.length (sound.awake_once path path'), higher⟩

theorem resting {region : Region} (sound : machine.Sound)
    (found : machine.coroutine? id = some coroutine)
    (parked : coroutine.state = .fresh ∨ coroutine.state = .suspended)
    (stands : frame ∈ coroutine.frames.items) (opened : region ∈ machine.regions.items) :
    region.owner ≠ frame.id := by
  intro own
  obtain ⟨depth, located⟩ := Stack.mem_items_iff.mp stands
  obtain ⟨id', passed, depth', owner, stands', same⟩ := sound.owner_awake opened
  obtain ⟨rfl, -⟩ := sound.distinct (frame?_eq_some_iff.mpr ⟨coroutine, found, located⟩) stands'
    (own.symm.trans same.symm)
  obtain ⟨running, found', state⟩ := sound.awake_running passed
  cases Option.some.inj (found.symm.trans found')
  rcases parked with fresh | suspended
  · rw [fresh] at state
    cases state
  · rw [suspended] at state
    cases state

/-! The loops over open regions -/

theorem undoes_abandoned (sound : machine.Sound)
    (found : machine.coroutine? machine.current = some coroutine) :
    (machine.updateCoroutine machine.current fun _ => .dead).Undoes fun region =>
      region.owner ∈ coroutine.frames.items.map (·.id) := by
  refine undoes_of_first sound.enabled ?_
  have first := regions_first sound.layered found (List.append_nil _).symm
  exact first.imp fun claims gone => decide_eq_true (claims (of_decide_eq_true gone))

theorem undoes_caught {handler : Handler} {outer : List Handler} {target : Frame}
    (sound : machine.Sound) (found : machine.coroutine? machine.current = some coroutine)
    (owned : coroutine.frames.at? handler.depth = some target) :
    (machine.updateCoroutine machine.current ({ · with handlers := outer })).Undoes fun region =>
      handler.regionSerial ≤ region.serial &&
        region.owner ∈ (coroutine.frames.above (handler.depth + 1) ++ [target]).map (·.id) := by
  refine undoes_of_first sound.enabled ?_
  have parts : coroutine.frames.items.map Frame.id =
      (coroutine.frames.above (handler.depth + 1) ++ [target]).map Frame.id ++
        (coroutine.frames.below handler.depth).items.map Frame.id := by
    rw [← List.map_append, List.append_assoc, List.singleton_append, ← Stack.items_push,
      ← Stack.below_succ owned, Stack.above_append_below]
  have first := regions_first sound.layered found parts
  refine (sound.increasing.and first).imp ?_
  intro upper lower relates gone
  have undone := Handler.undoes_iff.mp gone
  exact Handler.undoes_iff.mpr
    ⟨Nat.le_of_lt (Nat.lt_of_le_of_lt undone.1 relates.1), relates.2 undone.2⟩

theorem passes {passed : Machine} (sound : machine.Sound) (passes : machine.Passes passed) :
    passed.Sound := by
  induction passes with
  | here => exact sound
  | further earlier found bare inner left ih =>
      have leads : (Action.abandon _).Leads _ (fun _ after => after.Sound) fun _ _ => True :=
        Action.abandon_leads ih found bare inner fun _ _ _ sound => sound
      exact leads.ended left

theorem discipline (sound : machine.Sound) (running : machine.isRunning = true) :
    machine.Disciplined where
  distinct := sound.distinct
  increasing := sound.increasing
  owned := sound.owned
  stacked := sound.stacked
  resting := sound.resting
  abandoned _ passes found := (sound.fetched.passes passes).undoes_abandoned found
  caught _ passes found _ owned := (sound.fetched.passes passes).undoes_caught found owned
  stopped stops := absurd (running.symm.trans stops) nofun

end Sound

/-! Machines that have stopped -/

/-- Without regions, nothing is left to show but that the frames are distinct. -/
theorem disciplined_of_closed (closed : machine.regions.items = [])
    (stops : machine.isRunning = false)
    (distinct : ∀ {id id' : CoroutineId} {depth depth' : Nat} {frame frame' : Frame},
      machine.frame? id depth = some frame → machine.frame? id' depth' = some frame' →
      frame.id = frame'.id → id = id' ∧ depth = depth') : machine.Disciplined where
  distinct := distinct
  increasing := by rw [closed]; exact .nil
  owned opened := by rw [closed] at opened; cases opened
  stacked := by rw [closed]; exact .nil
  resting _ _ _ opened := by rw [closed] at opened; cases opened
  abandoned running := absurd (running.symm.trans stops) nofun
  caught running := absurd (running.symm.trans stops) nofun
  stopped _ := by rw [openRegions, Stack.size_eq, closed]; rfl

/-- A coroutine keeps some of its frames. -/
theorem distinct_of_fewer {after : Machine} (sound : machine.Sound)
    (fewer : ∀ {id depth frame}, after.frame? id depth = some frame →
      ∃ stood, machine.frame? id depth = some stood ∧ stood.id = frame.id)
    {id id' : CoroutineId} {depth depth' : Nat} {frame frame' : Frame}
    (stands : after.frame? id depth = some frame)
    (stands' : after.frame? id' depth' = some frame') (same : frame.id = frame'.id) :
    id = id' ∧ depth = depth' := by
  obtain ⟨stood, earlier, equal⟩ := fewer stands
  obtain ⟨stood', earlier', equal'⟩ := fewer stands'
  exact sound.distinct earlier earlier' (equal.trans (same.trans equal'.symm))

/-- The root returns only when it has closed every region. -/
theorem closed_of_root (sound : machine.Sound) (root : machine.current = .root)
    (current : machine.coroutine? machine.current = some coroutine)
    (active : coroutine.active? = some frame) (entry : frame.role = .entry)
    (closed : ∀ region ∈ machine.regions.items, region.owner ≠ frame.id) :
    machine.regions.items = [] := by
  have alone := sound.alone root
  obtain ⟨below, stacked⟩ := List.head?_eq_some_iff.mp active
  have single : coroutine.frames.items = [frame] := by
    have last := ((sound.linked.sound current).active_entry active).mp entry
    rw [Coroutine.depth, Stack.size_eq, stacked, List.length_cons] at last
    rw [stacked, List.length_eq_zero_iff.mp (Nat.succ.inj last)]
  apply List.eq_nil_iff_forall_not_mem.mpr
  intro region opened
  obtain ⟨id, passed, depth, owner, stands, same⟩ := sound.owner_awake opened
  rw [alone, List.mem_singleton, ← root] at passed
  subst passed
  obtain ⟨coroutine', found, located⟩ := frame?_eq_some_iff.mp stands
  cases Option.some.inj (current.symm.trans found)
  have member := Stack.mem_items_iff.mpr ⟨depth, located⟩
  rw [single, List.mem_singleton] at member
  subst member
  exact closed region opened same.symm

/-- What stops without a fault has no open region. -/
theorem closed_of_turns {code : Instruction} {outcome : Outcome} {after : Machine}
    (sound : machine.Sound) (turns : machine.Turns code outcome after)
    (stops : outcome ≠ .proceed) :
    after.regions.items = [] ∧ ∀ {id depth frame}, after.frame? id depth = some frame →
      ∃ stood, machine.frame? id depth = some stood ∧ stood.id = frame.id := by
  cases turns with
  | @ends coroutine ended value root current active entry closed =>
      have closed' : machine.regions.items = [] :=
        closed_of_root sound root current active entry closed
      have popped : ({ machine with arena := machine.arena.vacate machine.globals ended
          }.updateCoroutine machine.current (·.popFrame)).coroutine? =
            replace machine.coroutine? machine.current coroutine.popFrame :=
        coroutine?_replace current
      refine ⟨closed', ?_⟩
      intro id depth frame stands
      obtain ⟨left, found, located⟩ := frame?_eq_some_iff.mp stands
      rw [popped] at found
      by_cases same : id = machine.current
      · subst same
        cases found.symm.trans replace_same
        obtain ⟨stood, there, equal, -⟩ := Coroutine.Reduces.popFrame.frames located
        exact ⟨stood, frame?_eq_some_iff.mpr ⟨coroutine, current, there⟩, equal⟩
      · rw [replace_other same] at found
        exact ⟨frame, frame?_eq_some_iff.mpr ⟨left, found, located⟩, rfl⟩
  | raises raises unwound =>
      cases unwound with
      | caught => exact absurd rfl stops
      | escaped uncaught escaped =>
          refine ⟨escaped.regions, ?_⟩
          intro id depth frame stands
          obtain ⟨coroutine, found, located⟩ := frame?_eq_some_iff.mp stands
          by_cases passed : id ∈ machine.awake
          · by_cases outermost : id = .root
            · subst outermost
              rw [escaped.root] at found
              exact ⟨frame, frame?_eq_some_iff.mpr ⟨coroutine, found, located⟩, rfl⟩
            · rw [escaped.gone passed outermost] at found
              cases found
              cases located
          · rw [escaped.kept passed] at found
            exact ⟨frame, frame?_eq_some_iff.mpr ⟨coroutine, found, located⟩, rfl⟩
  | _ => exact absurd rfl stops

section Reachable

variable {program : Program} {args : List Value} {settings : Settings}

/-- A machine that has stopped without a fault has closed all regions. -/
theorem Reachable.closed (reachable : Reachable program args settings machine)
    (stops : machine.isRunning = false) (sane : ∀ fault, machine.status ≠ .trapped fault) :
    machine.regions.items = [] ∧
      ∀ {id id' : CoroutineId} {depth depth' : Nat} {frame frame' : Frame},
        machine.frame? id depth = some frame → machine.frame? id' depth' = some frame' →
        frame.id = frame'.id → id = id' ∧ depth = depth' := by
  obtain ⟨initial, started, reaches⟩ := reachable
  induction reaches with
  | refl =>
      obtain ⟨_, _, -, -, -, -, rfl⟩ := start_eq started
      cases stops
  | @tail earlier _ reached moves ih =>
      cases moves with
      | collect | reset => exact ih stops sane
      | step running =>
          have sound := Reachable.sound ⟨initial, started, reached⟩ running
          rcases step_turns sound with ⟨code, outcome, after, next, turns, same⟩ | ⟨fault, trapped⟩
          · have halts : outcome ≠ .proceed := by
              rintro rfl
              have status := turns.status
              rw [same, Machine.ended, isRunning, status] at stops
              have fetched : earlier.Evolves code (earlier.fetched code) := fetched_evolves
              rw [fetched.status, of_decide_eq_true running] at stops
              cases stops
            obtain ⟨closed, fewer⟩ := closed_of_turns sound.fetched turns halts
            rw [same]
            have kept : (after.ended outcome).regions = after.regions ∧
                (after.ended outcome).frame? = after.frame? := by
              cases outcome <;> exact ⟨rfl, rfl⟩
            rw [kept.1, kept.2]
            exact ⟨closed, distinct_of_fewer sound.fetched fewer⟩
          · exact absurd trapped (sane fault)

/-- As long as a machine has not faulted, the stack of open regions is in order. -/
theorem Reachable.disciplined (reachable : Reachable program args settings machine)
    (sane : ∀ fault, machine.status ≠ .trapped fault) : machine.Disciplined := by
  cases running : machine.isRunning with
  | true => exact (reachable.sound running).discipline running
  | false =>
      obtain ⟨closed, distinct⟩ := reachable.closed running sane
      exact disciplined_of_closed closed running distinct

end Reachable

/-- The entry function opens a region and enters a coroutine that opens another. -/
def openingProgram : Program :=
  { Program.empty with
    functions := #[
      { name := "main", registerCount := 1, parameterCount := 0, parameters := []
        code := #[.createCoroutine 0 ⟨1⟩ [], .openRegion, .enterCoroutine none 0 none,
          .noSolution] },
      { name := "inner", registerCount := 1, parameterCount := 0, parameters := []
        code := #[.openRegion, .noSolution] }]
    functionIndex := .ofList [("main", FunctionId.mk 0), ("inner", FunctionId.mk 1)] }

theorem disciplined_opening :
    ∃ initial, start openingProgram [] .standard = .ok initial ∧
      (initial.run 4).openRegions = 2 ∧ (initial.run 4).awake = [⟨1⟩, .root] ∧
      (initial.run 4).Disciplined ∧ (initial.run 5).isRunning = false ∧
      (initial.run 5).Disciplined := by
  have runs : (match start openingProgram [] .standard with
      | .ok initial => decide ((initial.run 4).openRegions = 2 ∧
          (initial.run 4).awake = [⟨1⟩, .root] ∧ (initial.run 4).status = .running ∧
          (initial.run 5).isRunning = false ∧
          (initial.run 5).status = .uncaught ⟨.noSolution, [⟨"inner", 1⟩, ⟨"main", 2⟩]⟩)
      | .error _ => false) = true := by decide +kernel
  split at runs
  · next initial started =>
      obtain ⟨opened, awake, goesOn, stops, escapes⟩ := of_decide_eq_true runs
      have before : (initial.run 4).Disciplined := by
        apply Reachable.disciplined ⟨initial, started, reaches_run 4⟩
        rw [goesOn]
        exact nofun
      have after : (initial.run 5).Disciplined := by
        apply Reachable.disciplined ⟨initial, started, reaches_run 5⟩
        rw [escapes]
        exact nofun
      exact ⟨initial, started, opened, awake, before, stops, after⟩
  · cases runs

end Machine

end Backtrack
