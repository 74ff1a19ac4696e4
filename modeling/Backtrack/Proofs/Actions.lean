import Backtrack.Proofs.Leads
import Backtrack.Machine.Call
import Backtrack.Machine.Bindings

/-!
Where the actions that instructions are made of lead: reading and writing frames, taking and
freeing containers, closing regions. Loops over containers and regions are brought to one change of
the machine.
-/

namespace Backtrack

def Stack.ofItems {α : Type} (items : List α) : Stack α :=
  ⟨items, items.length, rfl⟩

@[simp] theorem Stack.items_ofItems {α : Type} (items : List α) :
    (Stack.ofItems items).items = items := rfl

namespace Arena

def releaseAll (arena : Arena) (ids : List ContainerId) : Arena :=
  ids.foldl release arena

/-- The containers of an activation: from its innermost container to its base container, but never
the global one. -/
def dwelling (arena : Arena) (globals : ContainerId) (frame : Frame) : List ContainerId :=
  through (· = frame.base) ((arena.ancestry frame.scope).takeWhile (· ≠ globals))

def vacate (arena : Arena) (globals : ContainerId) (frame : Frame) : Arena :=
  arena.releaseAll (arena.dwelling globals frame)

def vacateAll (arena : Arena) (globals : ContainerId) (frames : List Frame) : Arena :=
  frames.foldl (·.vacate globals) arena

/-- Rolls back regions, the one that comes first in the list first. -/
def undo (arena : Arena) (regions : List Region) : Arena :=
  regions.foldl (fun arena region => region.log.restore arena) arena

end Arena

namespace Machine

def AllEnabled (machine : Machine) : Prop :=
  ∀ region ∈ machine.regions.items, region.log.enabled = true

theorem containersOf_eq (machine : Machine) (frame : Frame) :
    machine.containersOf frame = machine.arena.dwelling machine.globals frame := rfl

theorem count_eq (machine : Machine) (change : Counters → Counters) :
    ∃ counters, machine.count change = { machine with counters } := by
  unfold count
  split
  · exact ⟨_, rfl⟩
  · exact ⟨_, rfl⟩

end Machine

namespace Coroutine

variable {coroutine result : Coroutine} {id : CoroutineId} {link : CallerLink}

theorem enter_eq (entered : coroutine.enter id link = .ok result) :
    (coroutine.state = .fresh ∨ coroutine.state = .suspended) ∧
      result = { coroutine with caller := some link, suspended := false, started := true } := by
  unfold enter at entered
  cases state : coroutine.state <;> simp only [state] at entered
  case running | exhausted => cases entered
  case fresh | suspended =>
    split at entered
    · cases entered
    · cases entered
      exact ⟨by simp, rfl⟩

theorem suspend_eq (suspended : coroutine.suspend id = .ok (link, result)) :
    coroutine.state = .running ∧ coroutine.caller = some link ∧
      result = { coroutine with caller := none, suspended := true } := by
  unfold suspend at suspended
  split at suspended
  · next running =>
      cases waiting : coroutine.caller with
      | none => simp [waiting] at suspended
      | some caller =>
          simp only [waiting, Except.ok.injEq, Prod.mk.injEq] at suspended
          exact ⟨running, congrArg some suspended.1, suspended.2.symm⟩
  · cases suspended

/-- Only a coroutine that stands before its first instruction is copied. -/
theorem copy_eq {frame : FrameId} {scope : ContainerId}
    (copied : coroutine.copy frame scope = .ok result) :
    ∃ entry, coroutine.frames.items = [entry] ∧ entry.pc = 0 ∧ coroutine.suspended = false ∧
      result = .new { entry with id := frame, scope, base := scope } := by
  unfold copy at copied
  split at copied
  · next entry single =>
      split at copied
      · cases copied
      · next unstarted =>
          cases copied
          simp only [Bool.or_eq_true, decide_eq_true_eq, not_or, ne_eq, Decidable.not_not,
            Bool.not_eq_true] at unstarted
          exact ⟨entry, single, unstarted.2, unstarted.1, rfl⟩
  · cases copied

end Coroutine

namespace Action

variable {good : Unit → Machine → Prop} {bad : Fault → Machine → Prop} {machine : Machine}
  {id : CoroutineId} {reg : Reg} {value : Value}

@[simp] theorem leads_coroutine {good : Coroutine → Machine → Prop} :
    (coroutine id).Leads machine good bad ↔
      (∀ found, machine.coroutine? id = some found → good found machine) ∧
        (machine.coroutine? id = none → bad (.unknownId .coroutine id.index) machine) := by
  cases found : machine.coroutine? id <;> simp [coroutine, found]

@[simp] theorem leads_frameOf {good : Frame → Machine → Prop} :
    (frameOf id).Leads machine good bad ↔
      (∀ found, machine.coroutine? id = some found → ∀ frame, found.active? = some frame →
        good frame machine) ∧
      (∀ found, machine.coroutine? id = some found → found.active? = none →
        bad .noActiveFrame machine) ∧
      (machine.coroutine? id = none → bad (.unknownId .coroutine id.index) machine) := by
  simp only [frameOf, leads_bind, leads_coroutine]
  cases machine.coroutine? id with
  | none => simp
  | some coroutine => cases active : coroutine.active? <;> simp [active]

@[simp] theorem leads_frame {good : Frame → Machine → Prop} :
    frame.Leads machine good bad ↔
      (∀ frame, machine.active? = some frame → good frame machine) ∧
      (∀ found, machine.coroutine? machine.current = some found → found.active? = none →
        bad .noActiveFrame machine) ∧
      (machine.coroutine? machine.current = none →
        bad (.unknownId .coroutine machine.current.index) machine) := by
  simp only [frame, leads_bind, leads_get, leads_frameOf, Machine.active?]
  cases machine.coroutine? machine.current with
  | none => simp
  | some coroutine => cases active : coroutine.active? <;> simp [active]

@[simp] theorem leads_updateCoroutine {change : Coroutine → Coroutine} :
    (updateCoroutine id change).Leads machine good bad ↔
      good () (machine.updateCoroutine id change) := Iff.rfl

@[simp] theorem leads_updateFrame {change : Frame → Frame} :
    (updateFrame change).Leads machine good bad ↔
      good () (machine.updateFrame machine.current change) := Iff.rfl

@[simp] theorem leads_updateArena {change : Arena → Arena} :
    (updateArena change).Leads machine good bad ↔
      good () { machine with arena := change machine.arena } := Iff.rfl

@[simp] theorem leads_count {change : Counters → Counters} :
    (count change).Leads machine good bad ↔ good () (machine.count change) := Iff.rfl

@[simp] theorem leads_freshFrameId {good : FrameId → Machine → Prop} :
    freshFrameId.Leads machine good bad ↔
      good ⟨machine.nextFrame⟩ { machine with nextFrame := machine.nextFrame + 1 } := Iff.rfl

@[simp] theorem leads_intern {node : Node} {good : Value → Machine → Prop} :
    (intern node).Leads machine good bad ↔
      good (machine.nodes.intern node).1
        { machine with nodes := (machine.nodes.intern node).2 } := Iff.rfl

@[simp] theorem leads_read {good : Value → Machine → Prop} :
    (read reg).Leads machine good bad ↔
      frame.Leads machine (fun frame after =>
        (∀ value, frame.read reg = .ok value → good value after) ∧
          ∀ fault, frame.read reg = .error fault → bad fault after) bad := by
  simp only [read, leads_bind, leads_ofExcept]

@[simp] theorem leads_writeOf :
    (writeOf id reg value).Leads machine good bad ↔
      (frameOf id).Leads machine (fun frame after =>
        (frame.hasRegister reg = true →
          good () (after.updateFrame id (·.put reg (some value)))) ∧
        (¬ frame.hasRegister reg = true → bad (.invalidRegister reg) after)) bad := by
  simp only [writeOf, leads_bind, leads_ensure, leads_modify]

@[simp] theorem leads_write :
    (write reg value).Leads machine good bad ↔
      (writeOf machine.current reg value).Leads machine good bad := by
  simp only [write, leads_bind, leads_get]

@[simp] theorem leads_writeOptionOf {reg : Option Reg} :
    (writeOptionOf id reg value).Leads machine good bad ↔
      match reg with
      | some reg => (writeOf id reg value).Leads machine good bad
      | none => good () machine := by
  cases reg <;> rfl

@[simp] theorem leads_writeOption {reg : Option Reg} :
    (writeOption reg value).Leads machine good bad ↔
      (writeOptionOf machine.current reg value).Leads machine good bad := by
  simp only [writeOption, leads_bind, leads_get]

/-! A yield, with the value that is handed back -/

def suspendWith (value : Value) : Action Unit := do
  let current := (← get).current
  let yielding ← coroutine current
  let owned := (← get).regions.items.countP fun region =>
    yielding.frames.items.any (·.id = region.owner)
  ensure (owned = 0) (.yieldInsideRegion current owned)
  let (link, parked) ← ofExcept (yielding.suspend current)
  updateCoroutine current fun _ => parked
  handBack link true (some value)

theorem suspendWith_leads
    (handed : ∀ coroutine link, machine.coroutine? machine.current = some coroutine →
      coroutine.state = .running → coroutine.caller = some link →
      (∀ region ∈ machine.regions.items, ∀ frame ∈ coroutine.frames.items,
        frame.id ≠ region.owner) →
      (handBack link true (some value)).Leads (machine.updateCoroutine machine.current fun _ =>
        { coroutine with caller := none, suspended := true }) good bad)
    (inside : ∀ owned, bad (.yieldInsideRegion machine.current owned) machine)
    (refused : ∀ coroutine fault, machine.coroutine? machine.current = some coroutine →
      coroutine.suspend machine.current = .error fault → bad fault machine)
    (missing : machine.coroutine? machine.current = none →
      bad (.unknownId .coroutine machine.current.index) machine) :
    (suspendWith value).Leads machine good bad := by
  simp only [suspendWith, leads_bind, leads_get, leads_coroutine, leads_ensure, leads_ofExcept,
    leads_updateCoroutine, List.countP_eq_zero]
  refine ⟨fun coroutine current => ⟨fun closed => ⟨fun parts suspending => ?_, fun fault failed =>
    refused coroutine fault current failed⟩, fun _ => inside _⟩, missing⟩
  obtain ⟨link, parked⟩ := parts
  obtain ⟨running, waiting, rfl⟩ := Coroutine.suspend_eq suspending
  refine handed coroutine link current running waiting fun region opened frame member own => ?_
  exact closed region opened (List.any_eq_true.mpr ⟨frame, member, by simpa using own⟩)

theorem leads_yieldValue_none :
    (yieldValue none).Leads machine good bad ↔
      (machine.current ≠ .root → (suspendWith .unit).Leads machine good bad) ∧
      (¬ machine.current ≠ .root → bad .yieldOutside machine) := by
  simp only [yieldValue, suspendWith, leads_bind, leads_get, leads_ensure, leads_pure]

theorem leads_yieldValue_some :
    (yieldValue (some reg)).Leads machine good bad ↔
      (machine.current ≠ .root → frame.Leads machine (fun frame _ =>
        (∀ value, frame.read reg = .ok value → (suspendWith value).Leads machine good bad) ∧
          ∀ fault, frame.read reg = .error fault → bad fault machine) bad) ∧
      (¬ machine.current ≠ .root → bad .yieldOutside machine) := by
  simp only [yieldValue, suspendWith, leads_bind, leads_get, leads_ensure, leads_read, leads_frame]

/-! With an active frame, reading and writing fail only at a register. -/

theorem leads_frameOf_active {good : Frame → Machine → Prop} {coroutine : Coroutine} {active : Frame}
    (found : machine.coroutine? id = some coroutine) (top : coroutine.active? = some active) :
    (frameOf id).Leads machine good bad ↔ good active machine := by
  simp [found, top]

theorem leads_frame_active {good : Frame → Machine → Prop} {active : Frame}
    (found : machine.active? = some active) :
    frame.Leads machine good bad ↔ good active machine := by
  obtain ⟨coroutine, current, top⟩ := Option.bind_eq_some_iff.mp found
  simp only [frame, leads_bind, leads_get]
  exact leads_frameOf_active current top

theorem leads_writeOf_active {coroutine : Coroutine} {active : Frame}
    (found : machine.coroutine? id = some coroutine) (top : coroutine.active? = some active) :
    (writeOf id reg value).Leads machine good bad ↔
      (active.hasRegister reg = true →
        good () (machine.updateFrame id (·.put reg (some value)))) ∧
      (¬ active.hasRegister reg = true → bad (.invalidRegister reg) machine) := by
  rw [leads_writeOf, leads_frameOf_active found top]

theorem leads_write_active {active : Frame} (found : machine.active? = some active) :
    (write reg value).Leads machine good bad ↔
      (active.hasRegister reg = true →
        good () (machine.updateFrame machine.current (·.put reg (some value)))) ∧
      (¬ active.hasRegister reg = true → bad (.invalidRegister reg) machine) := by
  obtain ⟨coroutine, current, top⟩ := Option.bind_eq_some_iff.mp found
  rw [leads_write, leads_writeOf_active current top]

theorem leads_writeOption_active {reg : Option Reg} {active : Frame}
    (found : machine.active? = some active) :
    (writeOption reg value).Leads machine good bad ↔
      match reg with
      | some reg =>
          (active.hasRegister reg = true →
            good () (machine.updateFrame machine.current (·.put reg (some value)))) ∧
          (¬ active.hasRegister reg = true → bad (.invalidRegister reg) machine)
      | none => good () machine := by
  cases reg with
  | none => simp
  | some reg =>
      simp only [leads_writeOption, leads_writeOptionOf, ← leads_write]
      exact leads_write_active found

@[simp] theorem leads_allocContainer {parent : ContainerId}
    {good : ContainerId → Machine → Prop} :
    (allocContainer parent).Leads machine good bad ↔
      (machine.arena.hasRoom = true →
        good (machine.arena.place (some parent)).1
          { machine with arena := (machine.arena.place (some parent)).2 }) ∧
      (¬ machine.arena.hasRoom = true → bad .arenaFull machine) := by
  simp only [allocContainer, leads_bind, leads_get, leads_ensure, leads_modifyGet]

@[simp] theorem leads_releaseContainer {id : ContainerId} :
    (releaseContainer id).Leads machine good bad ↔
      good () { machine with arena := machine.arena.release id } := Iff.rfl

@[simp] theorem leads_releaseContainers {ids : List ContainerId} :
    (ids.forM releaseContainer).Leads machine good bad ↔
      good () { machine with arena := machine.arena.releaseAll ids } := by
  induction ids generalizing machine with
  | nil => rfl
  | cons id rest ih =>
      simp only [List.forM_eq_forM] at ih
      simp only [List.forM_eq_forM, List.forM_cons, leads_bind, leads_releaseContainer, ih]
      rfl

@[simp] theorem leads_releaseFrame {frame : Frame} :
    (releaseFrame frame).Leads machine good bad ↔
      good () { machine with arena := machine.arena.vacate machine.globals frame } := by
  simp only [releaseFrame, leads_bind, leads_get, leads_releaseContainers]
  rfl

@[simp] theorem leads_releaseFrames {frames : List Frame} :
    (frames.forM releaseFrame).Leads machine good bad ↔
      good () { machine with arena := machine.arena.vacateAll machine.globals frames } := by
  induction frames generalizing machine with
  | nil => rfl
  | cons frame rest ih =>
      simp only [List.forM_eq_forM] at ih
      simp only [List.forM_eq_forM, List.forM_cons, leads_bind, leads_releaseFrame, ih]
      rfl

/-- A region that is open has an open log, so its rollback succeeds. -/
theorem leads_rollbackInnermost {region : Region} {rest : List Region}
    (top : machine.regions.items = region :: rest) (enabled : region.log.enabled = true)
    (after : ∀ counters, good () { machine with
      regions := .ofItems rest
      arena := region.log.restore machine.arena
      counters }) :
    rollbackInnermost.Leads machine good bad := by
  have rest_eq : machine.regions.pop = .ofItems rest := Stack.ext (by simp [top])
  simp only [rollbackInnermost, popRegion, leads_bind, leads_get, Stack.top?, top, List.head?_cons,
    leads_modify, leads_pure, leads_ensure, enabled, not_true_eq_false, false_implies, and_true,
    forall_const, leads_updateArena, leads_count, rest_eq]
  obtain ⟨counters, counted⟩ := Machine.count_eq
    { machine with regions := .ofItems rest, arena := region.log.restore machine.arena }
    fun counters => { counters with
      regionsRolledBack := counters.regionsRolledBack + 1
      bindingsRestored := counters.bindingsRestored + region.log.restorable machine.arena }
  rw [counted]
  exact after counters

theorem leads_rollbacks {closed rest : List Region}
    (stacked : machine.regions.items = closed ++ rest) (enabled : machine.AllEnabled)
    (after : ∀ counters, good () { machine with
      regions := .ofItems rest
      arena := machine.arena.undo closed
      counters }) :
    (closed.forM fun _ => rollbackInnermost).Leads machine good bad := by
  induction closed generalizing machine with
  | nil =>
      have same : .ofItems rest = machine.regions := Stack.ext stacked.symm
      have unchanged := after machine.counters
      rw [same] at unchanged
      exact unchanged
  | cons region closed ih =>
      simp only [List.forM_eq_forM, List.forM_cons, leads_bind] at ih ⊢
      refine leads_rollbackInnermost stacked (enabled region (by simp [stacked])) fun counters => ?_
      refine ih rfl (fun region member => enabled region ?_) after
      rw [stacked]
      exact List.mem_cons_of_mem _ member

theorem leads_rollbackWhile {undone : Region → Bool} (enabled : machine.AllEnabled)
    (after : ∀ counters, good () { machine with
      regions := .ofItems (machine.regions.items.dropWhile undone)
      arena := machine.arena.undo (machine.regions.items.takeWhile undone)
      counters }) :
    (rollbackWhile undone).Leads machine good bad := by
  simp only [rollbackWhile, leads_bind, leads_get]
  exact leads_rollbacks List.takeWhile_append_dropWhile.symm enabled after

end Action

namespace Frame

/-- Passing arguments fills registers and changes nothing else. -/
theorem withArguments_eq {frame filled : Frame} {args : List Value}
    (passed : frame.withArguments args = .ok filled) :
    ∃ registers, registers.size = frame.registers.size ∧ filled = { frame with registers } := by
  unfold withArguments at passed
  generalize args.zipIdx = numbered at passed
  induction numbered generalizing frame with
  | nil =>
      cases passed
      exact ⟨_, rfl, rfl⟩
  | cons argument rest ih =>
      rcases argument with ⟨value, reg⟩
      rw [List.foldlM_cons] at passed
      by_cases room : frame.hasRegister reg = true
      · simp only [room, if_true] at passed
        obtain ⟨registers, size, same⟩ := ih passed
        exact ⟨registers, by simpa [put] using size, same⟩
      · simp only [room] at passed
        cases passed

end Frame

namespace Action

/-- The frame of a new activation: it has not started, and its container is its own. -/
theorem leads_newFrame {machine : Machine} {function : FunctionId} {args : List Value} {role : Role}
    {good : Frame → Machine → Prop} {bad : Fault → Machine → Prop}
    (unknown : machine.program.function? function = none →
      bad (.unknownId .function function.index) machine)
    (arity : ∀ unit, machine.program.function? function = some unit →
      unit.parameterCount ≠ args.length →
      bad (.arityMismatch unit.name unit.parameterCount args.length) machine)
    (full : ¬ machine.arena.hasRoom = true → bad .arenaFull machine)
    (argument : ∀ unit, machine.program.function? function = some unit →
      unit.parameterCount = args.length → ∀ id scope fault,
      (Frame.new id function unit.registerCount role scope).withArguments args = .error fault →
      bad fault { machine with
        arena := (machine.arena.place (some machine.globals)).2
        nextFrame := machine.nextFrame + 1 })
    (begun : ∀ unit registers, machine.program.function? function = some unit →
      unit.parameterCount = args.length → machine.arena.hasRoom = true →
      (Frame.new ⟨machine.nextFrame⟩ function unit.registerCount role
        (machine.arena.place (some machine.globals)).1).withArguments args =
        .ok ⟨⟨machine.nextFrame⟩, function, 0, registers, role,
          (machine.arena.place (some machine.globals)).1,
          (machine.arena.place (some machine.globals)).1⟩ →
      good ⟨⟨machine.nextFrame⟩, function, 0, registers, role,
          (machine.arena.place (some machine.globals)).1,
          (machine.arena.place (some machine.globals)).1⟩
        { machine with
          arena := (machine.arena.place (some machine.globals)).2
          nextFrame := machine.nextFrame + 1 }) :
    (newFrame function args role).Leads machine good bad := by
  simp only [newFrame, leads_bind, leads_get]
  cases found : machine.program.function? function with
  | none => exact unknown found
  | some unit =>
      simp only [leads_bind, leads_ensure, leads_allocContainer, leads_freshFrameId,
        leads_ofExcept]
      refine ⟨fun fits => ⟨fun room => ⟨fun frame passed => ?_, fun fault failed => ?_⟩,
        full⟩, arity unit found⟩
      · obtain ⟨registers, -, rfl⟩ := Frame.withArguments_eq passed
        exact begun unit registers found fits room passed
      · exact argument unit found fits _ _ fault failed

end Action

end Backtrack
