import Backtrack.Proofs.Faulting
import Backtrack.Proofs.Unstarted
import Backtrack.Proofs.Waiting

/-!
Copies of coroutines. A copy looks at the frames of a coroutine only: it needs a single one, before
its first instruction. That tells a fresh coroutine from all others, since a coroutine that runs
stands behind an instruction while another one is executed.
-/

namespace Backtrack

namespace Coroutine

variable {coroutine : Coroutine} {entry : Frame} {id : FrameId} {scope : ContainerId} {fault : Fault}

theorem copy_new (start : entry.pc = 0) :
    (new entry).copy id scope = .ok (new { entry with id, scope, base := scope }) := by
  simp [copy, new, start]

theorem copy_fault (failed : coroutine.copy id scope = .error fault) : fault = .copyStarted := by
  unfold copy at failed
  split at failed
  · split at failed
    · cases failed
      rfl
    · cases failed
  · cases failed
    rfl

end Coroutine

theorem Frame.pc_of_passed {program : Program} {frame : Frame} {code : Instruction}
    (passed : frame.passed? program = some code) : frame.pc ≠ 0 := by
  intro start
  rw [passed?, start] at passed
  cases passed

namespace Machine

variable {program : Program} {args : List Value} {settings : Settings} {machine : Machine}
  {id : CoroutineId} {original : Coroutine} {entry frame : Frame} {dst source : Reg}
  {frameId : FrameId} {scope : ContainerId}

/-- The entry frame of a copy. -/
def twin (machine : Machine) (entry : Frame) : Frame :=
  { entry with
    id := ⟨machine.nextFrame⟩
    scope := (machine.arena.place (some machine.globals)).1
    base := (machine.arena.place (some machine.globals)).1 }

/-- The machine in which a copy of a coroutine was made. -/
def duplicated (machine : Machine) (entry : Frame) : Machine :=
  { machine with
    arena := (machine.arena.place (some machine.globals)).2
    nextFrame := machine.nextFrame + 1
    coroutines := machine.coroutines.push (.new (machine.twin entry)) }

/-- The machine that knows the number of the copy. -/
def copied (machine : Machine) (dst : Reg) (entry : Frame) : Machine :=
  (machine.duplicated entry).updateFrame machine.current
    (·.put dst (some (.coroutine ⟨machine.coroutines.size⟩)))

/-- A step has copied a coroutine that had not been entered. The copy has a frame id and a container
that no other frame has; the containers of both are empty. -/
structure Copied (machine : Machine) (dst : Reg) (id : CoroutineId) (original : Coroutine)
    (entry twin : Frame) : Prop where
  single : original = .new entry
  start : entry.pc = 0
  kept : machine.step.coroutine? id = some original
  added : machine.step.coroutine? ⟨machine.coroutines.size⟩ = some (.new twin)
  count : machine.step.coroutines.size = machine.coroutines.size + 1
  told : ∃ frame, machine.step.active? = some frame ∧
    frame.read dst = .ok (.coroutine ⟨machine.coroutines.size⟩)
  alike : twin = { entry with id := twin.id, scope := twin.scope, base := twin.base }
  frameId {other : CoroutineId} {depth : Nat} {frame : Frame}
    (stands : Stands machine.step.coroutine? other depth frame) (same : frame.id = twin.id) :
    other = ⟨machine.coroutines.size⟩ ∧ depth = 0
  container {other : CoroutineId} {depth : Nat} {frame : Frame}
    (stands : Stands machine.step.coroutine? other depth frame)
    (member : twin.base ∈ machine.step.containersOf frame) :
    other = ⟨machine.coroutines.size⟩ ∧ depth = 0
  new : machine.arena.isLive twin.base = false
  untouched : machine.step.arena.Untouched machine.step.globals entry
  untouched' : machine.step.arena.Untouched machine.step.globals twin

/-- What an instruction does that copies a coroutine. -/
structure Copies (machine : Machine) (dst : Reg) (id : CoroutineId) (original : Coroutine) : Prop where
  succeeds (room : machine.arena.hasRoom = true) :
    machine.step.isRunning = true ↔ original.state = .fresh
  copied (running : machine.step.isRunning = true) :
    ∃ entry twin, machine.Copied dst id original entry twin
  refused (room : machine.arena.hasRoom = true) (known : original.state ≠ .fresh) :
    machine.step.status = .trapped .copyStarted
  crowded (full : machine.arena.hasRoom = false) : machine.step.status = .trapped .arenaFull
  unchanged (failed : machine.step.isRunning = false) :
    machine.step.coroutines.size = machine.coroutines.size ∧
      machine.step.arena.live = machine.arena.live

/-! ### Which coroutines can be copied -/

/-- A coroutine that was entered is not copied: if it runs, its active frame is behind the
instruction that it executes or waits for. -/
theorem copy_started {active : Frame}
    (waiting : Waiting program machine.coroutine? machine.current)
    (active' : machine.active? = some active) (moved : active.pc ≠ 0)
    (found : machine.coroutine? id = some original) (known : original.state ≠ .fresh) :
    original.copy frameId scope = .error .copyStarted := by
  cases result : original.copy frameId scope with
  | error fault => rw [Coroutine.copy_fault result]
  | ok copy =>
      obtain ⟨entry, single, start, awake, -⟩ := Coroutine.copy_eq result
      have top : original.active? = some entry := by
        rw [Coroutine.active?, Stack.top?, single]
        rfl
      have deep : 0 < original.depth := by
        rw [Coroutine.depth, Stack.size_eq, single]
        exact Nat.zero_lt_one
      rw [Ne, Coroutine.state_eq_fresh_iff, Bool.not_eq_false] at known
      have runs := Coroutine.state_eq_running_iff.mpr ⟨known, deep, awake⟩
      by_cases here : id = machine.current
      · rw [active?, ← here, found] at active'
        cases Option.some.inj (top.symm.trans active')
        exact absurd start moved
      · obtain ⟨_, _, _, passed⟩ := waiting.aside found runs here top
        exact absurd start (Frame.pc_of_passed passed)

/-! ### The instruction -/

theorem coroutine?_duplicated : (machine.duplicated entry).coroutine? =
    replace machine.coroutine? ⟨machine.coroutines.size⟩ (.new (machine.twin entry)) :=
  coroutine?_push

theorem active?_duplicated (active : machine.active? = some frame) :
    (machine.duplicated entry).active? = some frame :=
  active?_push active

theorem copyCoroutine_copies (active : machine.active? = some frame)
    (named : frame.readCoroutine source = .ok id) (found : machine.coroutine? id = some original)
    (few : machine.coroutines.size < machine.settings.maxCoroutines)
    (few' : machine.coroutines.size < tableLimit) (fits : frame.hasRegister dst = true) :
    (Action.execute (.copyCoroutine dst source)).Leads machine
      (fun outcome after => outcome = .proceed ∧ machine.arena.hasRoom = true ∧
        ∃ entry copy, original.frames.items = [entry] ∧
          original.copy ⟨machine.nextFrame⟩ (machine.arena.place (some machine.globals)).1 = .ok copy ∧
          after = machine.copied dst entry)
      fun fault after => (machine.arena.hasRoom = true ∧ fault = .copyStarted ∧
        original.copy ⟨machine.nextFrame⟩ (machine.arena.place (some machine.globals)).1 =
          .error .copyStarted ∧
        after = { machine with
          arena := (machine.arena.place (some machine.globals)).2.release
            (machine.arena.place (some machine.globals)).1
          nextFrame := machine.nextFrame + 1 }) ∨
        (machine.arena.hasRoom = false ∧ fault = .arenaFull ∧ after = machine) := by
  simp only [Action.execute, Action.thenProceed, Action.copyCoroutine, Action.nextCoroutine,
    Action.leads_bind, Action.leads_get, Action.leads_ensure, Action.leads_pure,
    Action.leads_frame_active active, Action.leads_ofExcept, Action.leads_allocContainer,
    Action.leads_freshFrameId, Action.leads_coroutine, named, Except.ok.injEq, forall_eq',
    reduceCtorEq, false_implies, implies_true, and_true]
  have below : machine.coroutines.size < machine.settings.maxCoroutines ∧
      machine.coroutines.size < tableLimit := ⟨few, few'⟩
  refine ⟨fun _ => ⟨fun room => ⟨fun same found' => ?made, fun missing => ?lost⟩, fun full => ?full⟩,
    fun full => absurd below full⟩
  case lost => exact absurd (found.symm.trans missing) (by simp)
  case full => exact .inr (Bool.eq_false_iff.mpr full)
  case made =>
    cases Option.some.inj (found.symm.trans found')
    split
    · next copy result =>
        obtain ⟨entry, single, -, -, rfl⟩ := Coroutine.copy_eq result
        simp only [Action.addCoroutine, Action.leads_bind, Action.leads_modify]
        change (Action.write dst _).Leads (machine.duplicated entry) _ _
        apply (Action.leads_write_active (active?_duplicated active)).mpr
        exact ⟨fun _ => ⟨trivial, room, entry, _, single, result, rfl⟩, fun unfit => absurd fits unfit⟩
    · next fault failed =>
        cases Coroutine.copy_fault failed
        simp only [Action.leads_bind, Action.leads_releaseContainer, Action.leads_throw]
        exact .inl ⟨room, trivial, failed, trivial⟩

/-- The register for the number of the copy is one that the frame has. -/
theorem copy_fits (checked : program.check = .ok ()) {strays : Nat}
    (poised : machine.Poised program strays) (sound : machine.Sound)
    (next : machine.instruction? = some (.copyCoroutine dst source))
    (active : machine.active? = some frame) : frame.hasRegister dst = true := by
  obtain ⟨top, unit, code, active', found, fetches, next'⟩ := poised.instruction sound
  cases Option.some.inj (active.symm.trans active')
  cases Option.some.inj (next.symm.trans next')
  have allowed := (program.unit_checked checked found).allowed fetches
  simp only [Program.instructionDefects, Program.registersDefects_eq_nil] at allowed
  exact poised.typed.hasRegister active found (allowed dst (by simp))

/-- A step that copies a coroutine makes the copy or stops. -/
theorem step_copies (sound : machine.Sound)
    (next : machine.instruction? = some (.copyCoroutine dst source))
    (active : machine.active? = some frame) (named : frame.readCoroutine source = .ok id)
    (found : (machine.fetched (.copyCoroutine dst source)).coroutine? id = some original)
    (few : machine.coroutines.size < machine.settings.maxCoroutines)
    (few' : machine.coroutines.size < tableLimit) (fits : frame.hasRegister dst = true) :
    (machine.arena.hasRoom = true ∧ ∃ entry copy, original.frames.items = [entry] ∧
      original.copy ⟨machine.nextFrame⟩ (machine.arena.place (some machine.globals)).1 = .ok copy ∧
      machine.step = (machine.fetched (.copyCoroutine dst source)).copied dst entry) ∨
    ((machine.arena.hasRoom = true ∧
        original.copy ⟨machine.nextFrame⟩ (machine.arena.place (some machine.globals)).1 =
          .error .copyStarted ∧ machine.step.status = .trapped .copyStarted ∨
      machine.arena.hasRoom = false ∧ machine.step.status = .trapped .arenaFull) ∧
      machine.step.coroutines.size = machine.coroutines.size ∧
      machine.step.arena.live = machine.arena.live) := by
  have leads := copyCoroutine_copies (active?_fetched active) named found
    (by rwa [size_fetched, settings_fetched]) (by rwa [size_fetched]) fits
  have withdrawn := (@Intact.withdrawn machine (some machine.globals)
    (Backtrack.Housed.sound sound.housed)).live
  rw [arena_fetched, globals_fetched, nextFrame_fetched] at leads
  rcases step_of_proceeds next leads with made | ⟨fault, after, counters, stopped, same⟩
  · exact .inl made
  · right
    rw [same]
    rcases stopped with ⟨room, rfl, failed, rfl⟩ | ⟨full, rfl, rfl⟩
    · exact ⟨.inl ⟨room, failed, rfl⟩, size_fetched, withdrawn⟩
    · exact ⟨.inr ⟨full, rfl⟩, size_fetched, congrArg Arena.live arena_fetched⟩

/-- What a copy of a fresh coroutine has in common with it, and what not. -/
theorem copied_of_step (sound : machine.Sound) (sound' : machine.step.Sound)
    (unstarted : machine.step.Unstarted) (active : machine.active? = some frame)
    (fits : frame.hasRegister dst = true) (start : entry.pc = 0)
    (found : machine.coroutine? id = some (.new entry))
    (made : machine.step = (machine.fetched (.copyCoroutine dst source)).copied dst entry) :
    machine.Copied dst id (.new entry) entry
      ((machine.fetched (.copyCoroutine dst source)).twin entry) := by
  obtain ⟨coroutine, current, -⟩ := Option.bind_eq_some_iff.mp active
  have size : (machine.fetched (.copyCoroutine dst source)).coroutines.size =
    machine.coroutines.size := size_fetched
  have within {other : CoroutineId} {coroutine : Coroutine}
      (found : machine.coroutine? other = some coroutine) : other ≠ ⟨machine.coroutines.size⟩ := by
    rintro rfl
    exact Nat.lt_irrefl _ (Array.getElem?_eq_some_iff.mp found).1
  have apart : id ≠ machine.current := sound.apart found (by rintro ⟨⟩)
  have kept : machine.step.coroutine? id = some (.new entry) := by
    rw [made, Machine.copied, updateFrame, coroutine?_updateCoroutine, current_fetched, if_neg apart,
      coroutine?_duplicated, size, replace_other (within found), coroutine?_fetched current,
      replace_other apart, found]
  have added : machine.step.coroutine? ⟨machine.coroutines.size⟩ =
      some (.new ((machine.fetched (.copyCoroutine dst source)).twin entry)) := by
    rw [made, Machine.copied, updateFrame, coroutine?_updateCoroutine, current_fetched,
      if_neg (within current).symm, coroutine?_duplicated, size, replace_same]
  have own := (sound'.owns_base added (unstarted.untouched added)).2
  have placed : Stands machine.step.coroutine? ⟨machine.coroutines.size⟩ 0
      ((machine.fetched (.copyCoroutine dst source)).twin entry) := ⟨_, added, rfl⟩
  exact {
    single := rfl
    start
    kept
    added
    count := by
      rw [made, Machine.copied, size_updateFrame, ← size]
      exact Array.size_push _
    told := by
      have active' : ((machine.fetched (.copyCoroutine dst source)).duplicated entry).active? = _ :=
        active?_duplicated (active?_fetched active)
      rw [made, Machine.copied, ← size]
      exact ⟨_, active?_updateFrame active', Frame.read_receive fits⟩
    alike := rfl
    frameId := by
      intro other depth located stands same
      obtain ⟨coroutine, stood, located⟩ := stands
      exact Layered.distinct sound'.layered stood added located rfl same
    container := fun stands member => containersOf_apart sound'.housed stands placed member own
    new := by
      change machine.arena.isLive ((machine.fetched _).arena.place _).1 = false
      rw [arena_fetched, Arena.isLive, Arena.place_fresh (Backtrack.Housed.sound sound.housed)]
      rfl
    untouched := unstarted.untouched kept
    untouched' := unstarted.untouched added }

/-- Where no copy is made, the machine stops as it was. -/
theorem copies_of_stopped (stopped : machine.arena.hasRoom = true ∧ original.state ≠ .fresh ∧
        machine.step.status = .trapped .copyStarted ∨
      machine.arena.hasRoom = false ∧ machine.step.status = .trapped .arenaFull)
    (unchanged : machine.step.coroutines.size = machine.coroutines.size ∧
      machine.step.arena.live = machine.arena.live) : machine.Copies dst id original := by
  have failed : machine.step.isRunning = false := by
    rcases stopped with ⟨-, -, trapped⟩ | ⟨-, trapped⟩
    · rw [isRunning, trapped]
      rfl
    · rw [isRunning, trapped]
      rfl
  have running (goesOn : machine.step.isRunning = true) : False :=
    Bool.noConfusion (goesOn.symm.trans failed)
  rcases stopped with ⟨room, known, trapped⟩ | ⟨full, trapped⟩
  · exact {
      succeeds := fun _ => ⟨fun goesOn => (running goesOn).elim, fun fresh => absurd fresh known⟩
      copied := fun goesOn => (running goesOn).elim
      refused := fun _ _ => trapped
      crowded := fun full => Bool.noConfusion (room.symm.trans full)
      unchanged := fun _ => unchanged }
  · exact {
      succeeds := fun room => Bool.noConfusion (room.symm.trans full)
      copied := fun goesOn => (running goesOn).elim
      refused := fun room => Bool.noConfusion (room.symm.trans full)
      crowded := fun _ => trapped
      unchanged := fun _ => unchanged }

/-- A coroutine is copied if it is fresh, and only then. -/
theorem Reachable.copies (checked : program.check = .ok ())
    (reachable : Reachable program args settings machine) (running : machine.isRunning = true)
    (rare : machine.arena.Rare) (next : machine.instruction? = some (.copyCoroutine dst source))
    (active : machine.active? = some frame) (named : frame.readCoroutine source = .ok id)
    (found : machine.coroutine? id = some original)
    (few : machine.coroutines.size < machine.settings.maxCoroutines)
    (few' : machine.coroutines.size < tableLimit) : machine.Copies dst id original := by
  have sound := reachable.sound running
  have waiting : Waiting program (machine.fetched (.copyCoroutine dst source)).coroutine?
      (machine.fetched (.copyCoroutine dst source)).current :=
    waiting_fetched sound.linked (reachable.waiting running)
  obtain ⟨strays, bounded⟩ :=
    Value.exists_bounded_list fun value (_ : value ∈ args) => value.exists_bounded
  have fits := copy_fits checked (reachable.poised checked bounded running) sound next active
  obtain ⟨initial, started, reaches⟩ := reachable
  by_cases fresh : original.state = .fresh
  · have unstarted := reaches.unstarted started running rare
    obtain ⟨entry, rfl, untouched⟩ := unstarted id original found fresh
    obtain ⟨coroutine, current, -⟩ := Option.bind_eq_some_iff.mp active
    have apart : id ≠ machine.current := sound.apart found nofun
    have found' : (machine.fetched (.copyCoroutine dst source)).coroutine? id = some (.new entry) := by
      rw [coroutine?_fetched current, replace_other apart, found]
    rcases step_copies sound next active named found' few few' fits with
      ⟨room, single, copy, items, -, made⟩ | ⟨⟨-, refused, -⟩ | full, unchanged⟩
    · cases items
      have goesOn : machine.step.isRunning = true := by
        rw [made]
        exact (congrArg (decide <| · = Status.running) status_fetched).trans running
      have sound' := Reachable.sound ⟨initial, started, reaches.tail (.step running)⟩ goesOn
      have unstarted' := step_unstarted started reaches running goesOn rare unstarted
      have copied := copied_of_step sound sound' unstarted' active fits untouched.pc found made
      exact {
        succeeds := fun _ => ⟨fun _ => fresh, fun _ => goesOn⟩
        copied := fun _ => ⟨entry, _, copied⟩
        refused := fun _ known => absurd fresh known
        crowded := fun full => absurd (room.symm.trans full) nofun
        unchanged := fun failed => absurd (goesOn.symm.trans failed) nofun }
    · rw [Coroutine.copy_new untouched.pc] at refused
      cases refused
    · exact copies_of_stopped (.inr full) unchanged
  · have begun : (machine.fetched (.copyCoroutine dst source)).Begun id :=
      @evolves_begun default _ _ _ fetched_evolves (begun_of_not_fresh found fresh)
    have ⟨moved, found', _⟩ := begun
    obtain ⟨top, active', passed⟩ := passed?_fetched next
    have failed {frameId : FrameId} {scope : ContainerId} :
        moved.copy frameId scope = .error .copyStarted :=
      copy_started waiting active' (Frame.pc_of_passed passed) found' (begun.not_fresh found')
    rcases step_copies sound next active named found' few few' fits with
      ⟨-, single, copy, -, made, -⟩ | ⟨⟨room, -, trapped⟩ | full, unchanged⟩
    · exact absurd (failed.symm.trans made) nofun
    · exact copies_of_stopped (.inl ⟨room, fresh, trapped⟩) unchanged
    · exact copies_of_stopped (.inr full) unchanged

/-- The entry function copies a coroutine before it enters it, and again afterwards. -/
def duplicatingProgram : Program :=
  { Program.empty with
    functions := #[
      { name := "main", registerCount := 2, parameterCount := 0, parameters := []
        code := #[.createCoroutine 0 ⟨1⟩ [], .copyCoroutine 1 0, .enterCoroutine none 0 none,
          .copyCoroutine 1 0, .return 0] },
      { name := "inner", registerCount := 1, parameterCount := 0, parameters := []
        code := #[.yield none, .jump 0] }]
    functionIndex := .ofList [("main", FunctionId.mk 0), ("inner", FunctionId.mk 1)] }

/-- The next instruction copies the coroutine that was created first. -/
def AboutToCopy (machine : Machine) : Prop :=
  machine.isRunning = true ∧ machine.arena.Rare ∧
    machine.instruction? = some (.copyCoroutine 1 0) ∧
    (machine.active?.bind fun frame => (frame.readCoroutine 0).toOption) = some ⟨1⟩ ∧
    machine.coroutines.size < machine.settings.maxCoroutines ∧ machine.coroutines.size < tableLimit

instance : Decidable machine.AboutToCopy :=
  inferInstanceAs (Decidable (_ ∧ _))

theorem copies_twice :
    ∃ initial original entered, start duplicatingProgram [] .standard = .ok initial ∧
      (initial.run 1).Copies 1 ⟨1⟩ original ∧ original.state = .fresh ∧
      (initial.run 1).step.isRunning = true ∧
      (initial.run 4).Copies 1 ⟨1⟩ entered ∧ entered.state = .suspended ∧
      (initial.run 4).step.status = .trapped .copyStarted := by
  have runs : (match start duplicatingProgram [] .standard with
      | .ok initial => decide ((initial.run 1).AboutToCopy ∧
          ((initial.run 1).coroutine? ⟨1⟩).map Coroutine.state = some .fresh ∧
          (initial.run 1).step.isRunning = true ∧ (initial.run 4).AboutToCopy ∧
          ((initial.run 4).coroutine? ⟨1⟩).map Coroutine.state = some .suspended ∧
          (initial.run 4).step.status = .trapped .copyStarted)
      | .error _ => false) = true := by decide +kernel
  have checked : duplicatingProgram.check = .ok () := by decide +kernel
  split at runs
  · next initial started =>
      have copies {fuel : Nat} {original : Coroutine} (about : (initial.run fuel).AboutToCopy)
          (found : (initial.run fuel).coroutine? ⟨1⟩ = some original) :
          (initial.run fuel).Copies 1 ⟨1⟩ original := by
        obtain ⟨running, rare, next, names, few, few'⟩ := about
        obtain ⟨frame, active, named⟩ := Option.bind_eq_some_iff.mp names
        exact Reachable.copies checked ⟨initial, started, reaches_run fuel⟩ running rare next active
          (Action.toOption_eq_some named) found few few'
      obtain ⟨about, first, goesOn, about', second, trapped⟩ := of_decide_eq_true runs
      obtain ⟨original, found, fresh⟩ := Option.map_eq_some_iff.mp first
      obtain ⟨entered, found', suspended⟩ := Option.map_eq_some_iff.mp second
      exact ⟨initial, original, entered, started, copies about found, fresh, goesOn,
        copies about' found', suspended, trapped⟩
  · cases runs

end Machine

end Backtrack
