import Backtrack.Proofs.Delivery
import Backtrack.Proofs.Tracing

/-!
A coroutine resumes as it was left. As long as it does not run, its frames, handlers and flags stay,
and its containers stay live. A binding in them changes only when a region is rolled back that was
open while the coroutine wrote the binding. A coroutine that is exhausted stays so, and its number
is not used again.
-/

namespace Backtrack

/-- Whether an instruction creates a coroutine and tells its number in a register. -/
def Instruction.creates (code : Instruction) (dst : Reg) : Prop :=
  (∃ function args, code = .createCoroutine dst function args) ∨
    ∃ source, code = .copyCoroutine dst source

namespace Machine

variable {program : Program} {args : List Value} {settings : Settings} {code : Instruction}
  {before middle after machine origin initial : Machine} {id : CoroutineId}
  {coroutine : Coroutine} {depth : Nat} {frame : Frame} {dst : Reg}

/-! Runs without the coroutine -/

theorem Shelters.trans (first : before.Shelters middle coroutine)
    (second : middle.Shelters after coroutine) (housed : before.Housed)
    (found : before.coroutine? id = some coroutine) : before.Shelters after coroutine where
  globals := second.globals.trans first.globals
  parent located member := by
    rw [← first.parent located member]
    exact second.parent located (first.ancestry housed found located ▸ member)
  live located member := second.live located (first.ancestry housed found located ▸ member)

/-- A coroutine that does not run stays as it is until it is entered. -/
theorem Away.parked (away : origin.Away id machine) (reachable : Reachable program args settings origin)
    (running : origin.isRunning = true) (found : origin.coroutine? id = some coroutine)
    (resting : coroutine.state ≠ .running) :
    machine.coroutine? id = some coroutine ∧ origin.Shelters machine coroutine := by
  have housed := (reachable.sound running).housed
  induction away with
  | here => exact ⟨found, .refl housed found⟩
  | @next machine after soFar moves away ih =>
      obtain ⟨parked, shelters⟩ := ih
      cases moves with
      | collect | reset => exact ⟨parked, shelters.globals, shelters.parent, shelters.live⟩
      | step ran =>
          have sound := (reachable.further soFar.reaches).sound ran
          have kept : machine.step.coroutine? id = some coroutine := by
            refine (step_resting sound ran parked resting).resolve_right ?_
            rintro ⟨dst, target, out, enters⟩
            exact away enters.current
          exact ⟨kept, shelters.trans (step_shelters sound ran parked resting) housed found⟩

/-- A coroutine that is exhausted stays as it is. -/
theorem Reaches.exhausted (reachable : Reachable program args settings origin)
    (reaches : origin.Reaches machine) (found : origin.coroutine? id = some coroutine)
    (finished : coroutine.state = .exhausted) : machine.coroutine? id = some coroutine := by
  induction reaches with
  | refl => exact found
  | @tail machine after reached moves ih =>
      cases moves with
      | collect | reset => exact ih
      | step ran =>
          have sound := (reachable.further reached).sound ran
          have resting : coroutine.state ≠ .running := by
            rw [finished]
            nofun
          refine (step_resting sound ran ih resting).resolve_right ?_
          rintro ⟨dst, target, out, enters⟩
          have parked := enters.parked
          simp [finished] at parked

/-! Coroutines that are created -/

theorem coroutine?_eq_none_iff : machine.coroutine? id = none ↔ machine.coroutines.size ≤ id.index :=
  Array.getElem?_eq_none_iff

/-- The active frame has the number of a coroutine that is fresh. -/
def Gains (machine : Machine) (dst : Reg) (id : CoroutineId) : Prop :=
  ∃ frame coroutine, machine.active? = some frame ∧ frame.read dst = .ok (.coroutine id) ∧
    machine.coroutine? id = some coroutine ∧ coroutine.state = .fresh

theorem added_gains {entry : Frame} (active : machine.active? = some frame) :
    (Action.write dst (.coroutine ⟨machine.coroutines.size⟩)).Leads
      { machine with coroutines := machine.coroutines.push (.new entry) }
      (fun _ after => after.Gains dst ⟨machine.coroutines.size⟩) fun _ _ => True := by
  obtain ⟨running, current, top⟩ := Option.bind_eq_some_iff.mp active
  have pushed : { machine with coroutines := machine.coroutines.push (.new entry) }.active? =
      some frame := by
    have found : { machine with coroutines := machine.coroutines.push (.new entry) }.coroutine?
        machine.current = some running := found_push current
    rw [active?, found]
    exact top
  have apart : (⟨machine.coroutines.size⟩ : CoroutineId) ≠ machine.current := by
    intro same
    have within := (Array.getElem?_eq_some_iff.mp current).1
    rw [← same] at within
    exact Nat.lt_irrefl _ within
  refine (Action.leads_write_active pushed).mpr ⟨fun room => ?_, fun _ => trivial⟩
  refine ⟨_, .new entry, active?_updateFrame pushed, Frame.read_receive room, ?_,
    Coroutine.state_eq_fresh_iff.mpr rfl⟩
  rw [updateFrame, coroutine?_updateCoroutine, if_neg apart, coroutine?_push, replace_same]

theorem step_creates (sound : machine.Sound) (goesOn : machine.step.isRunning = true)
    (next : machine.instruction? = some code) (creates : code.creates dst) :
    machine.step.Gains dst ⟨machine.coroutines.size⟩ := by
  obtain ⟨waiting, frame, current, top, active⟩ := sound.active
  have active' : (machine.fetched code).active? = some { frame with pc := frame.pc + 1 } :=
    active?_fetched active
  rw [← @size_fetched machine code]
  refine @step_of_leads code machine (fun _ after => after.Gains dst _) next goesOn ?_
  generalize machine.fetched code = before at active'
  have gains (entry : Frame) : (Action.write dst (.coroutine ⟨before.coroutines.size⟩)).Leads
      { before with
        arena := (before.arena.place (some before.globals)).2
        nextFrame := before.nextFrame + 1
        coroutines := before.coroutines.push (.new entry) }
      (fun _ after => after.Gains dst ⟨before.coroutines.size⟩) fun _ _ => True :=
    @added_gains { before with
      arena := (before.arena.place (some before.globals)).2
      nextFrame := before.nextFrame + 1 } _ _ entry active'
  rcases creates with ⟨function, args, rfl⟩ | ⟨source, rfl⟩
  · simp only [Action.execute, Action.thenProceed, Action.createCoroutine, Action.nextCoroutine,
      Action.addCoroutine, Action.leads_bind, Action.leads_get, Action.leads_ensure,
      Action.leads_pure, Action.leads_frame_active active', Action.leads_ofExcept, implies_true,
      and_true]
    intro _ values passed
    refine Action.leads_newFrame (fun _ => trivial) (fun _ _ _ => trivial) (fun _ => trivial)
      (fun _ _ _ _ _ _ _ => trivial) fun unit registers _ _ _ _ => ?_
    exact gains _
  · simp only [Action.execute, Action.thenProceed, Action.copyCoroutine, Action.nextCoroutine,
      Action.leads_bind, Action.leads_get, Action.leads_ensure, Action.leads_pure,
      Action.leads_frame_active active', Action.leads_ofExcept, Action.leads_allocContainer,
      Action.leads_freshFrameId, Action.leads_coroutine, implies_true, and_true]
    intro _ _ _ _ original found
    split
    · next copy copied =>
        obtain ⟨entry, single, unstarted, parked, rfl⟩ := Coroutine.copy_eq copied
        simp only [Action.addCoroutine, Action.leads_bind, Action.leads_modify]
        exact gains _
    · simp

/-! Fidelity -/

/-- What one step of a run does to a coroutine that does not run. -/
structure Rests (machine initial : Machine) (id : CoroutineId) (coroutine : Coroutine) : Prop where
  outside : id ∉ machine.awake
  kept : machine.step.coroutine? id = some coroutine ∨
    ∃ dst target out, machine.Enters id coroutine dst target out
  /-- Where it is entered, it goes on with the instruction at which it stands. -/
  resumes {dst out : Option Reg} {target : Reg} (enters : machine.Enters id coroutine dst target out) :
    ∃ frame, coroutine.active? = some frame ∧ machine.step.active? = some frame ∧
      machine.step.instruction? = (machine.program.function? frame.function).bind (·.code[frame.pc]?)
  sheltered {depth : Nat} {frame : Frame} (located : coroutine.frames.at? depth = some frame) :
    machine.step.containersOf frame = machine.containersOf frame ∧
      ∀ container ∈ machine.containersOf frame, machine.step.arena.isLive container = true
  vars {depth : Nat} {frame : Frame} {container : ContainerId} {name : SymbolId}
    (located : coroutine.frames.at? depth = some frame)
    (member : container ∈ machine.containersOf frame)
    (changed : machine.step.arena.var? container name ≠ machine.arena.var? container name) :
    ∃ region, machine.RollsBack region ∧
      Wrote BindsVariable initial machine id region.mark ⟨container, name⟩
  candidates {depth : Nat} {frame : Frame} {container : ContainerId} {name : SymbolId}
    (located : coroutine.frames.at? depth = some frame)
    (member : container ∈ machine.containersOf frame)
    (changed : machine.step.arena.candidates? container name ≠
      machine.arena.candidates? container name) :
    ∃ region, machine.RollsBack region ∧
      Wrote BindsCandidates initial machine id region.mark ⟨container, name⟩
  /-- Until it is entered, nothing in it changes and its containers live. -/
  parked {later : Machine} (away : machine.Away id later) :
    later.coroutine? id = some coroutine ∧
      ∀ {depth : Nat} {frame : Frame}, coroutine.frames.at? depth = some frame →
        later.containersOf frame = machine.containersOf frame ∧
          ∀ container ∈ machine.containersOf frame, later.arena.isLive container = true
  exhausted {later : Machine} (finished : coroutine.state = .exhausted) (reaches : machine.Reaches later) :
    later.coroutine? id = some coroutine

/-- The machine keeps the coroutines that do not run, and gives a new coroutine a number that none
had before. -/
structure Faithful (initial machine : Machine) : Prop where
  rests {id : CoroutineId} {coroutine : Coroutine} (found : machine.coroutine? id = some coroutine)
    (resting : coroutine.state ≠ .running) : machine.Rests initial id coroutine
  created {code : Instruction} {dst : Reg} (next : machine.instruction? = some code)
    (creates : code.creates dst) (goesOn : machine.step.isRunning = true) :
    ∃ id, machine.step.Gains dst id ∧ ∀ earlier : Machine, initial.Reaches earlier →
      earlier.Reaches machine → earlier.coroutine? id = none

theorem Shelters.stays (shelters : before.Shelters after coroutine) (sound : before.Sound)
    (found : before.coroutine? id = some coroutine)
    (located : coroutine.frames.at? depth = some frame) :
    after.containersOf frame = before.containersOf frame ∧
      ∀ container ∈ before.containersOf frame, after.arena.isLive container = true := by
  refine ⟨shelters.containersOf sound.housed found located, fun container member => ?_⟩
  exact shelters.live located ((mem_containersOf_iff sound.housed ⟨_, found, located⟩).mp member).1

theorem Enters.resumes {wanted out : Option Reg} {target : Reg}
    (enters : machine.Enters id coroutine wanted target out) (sound : machine.Sound)
    (found : machine.coroutine? id = some coroutine) :
    ∃ frame, coroutine.active? = some frame ∧ machine.step.active? = some frame ∧
      machine.step.instruction? =
        (machine.program.function? frame.function).bind (·.code[frame.pc]?) := by
  obtain ⟨asking, frame, asks, top, active⟩ := sound.active
  obtain ⟨frame', active', named⟩ := enters.named
  cases Option.some.inj (active.symm.trans active')
  have same : machine.step.program = machine.program := by
    rw [step_enters sound enters.next asks top named found enters.parked]
    exact program_fetched
  have deep := ((sound.linked.sound found).enterable enters.parked).1
  obtain ⟨resumed, top'⟩ : ∃ frame, coroutine.active? = some frame := by
    refine Option.isSome_iff_exists.mp ?_
    rw [Coroutine.active?, Stack.top?_eq_at?]
    apply Stack.at?_isSome.mpr
    rw [Coroutine.depth] at deep
    omega
  have active'' : machine.step.active? = some resumed := by
    rw [active?, enters.current, enters.entered]
    exact top'
  refine ⟨resumed, top', active'', ?_⟩
  rw [instruction?, active'', same]
  rfl

/-- A binding changes only with a region in which the coroutine wrote it. -/
theorem Reaches.rewritten {β : Type} {kind : BindingKind β} {binds : Machine → BindingKey → Prop}
    {container : ContainerId} {name : SymbolId} (traces : kind.Traces binds)
    (started : start program args settings = .ok initial) (reaches : initial.Reaches machine)
    (running : machine.isRunning = true) (rare : machine.arena.Rare)
    (found : machine.coroutine? id = some coroutine) (resting : coroutine.state ≠ .running)
    (located : coroutine.frames.at? depth = some frame)
    (member : container ∈ machine.containersOf frame)
    (changed : kind.read machine.step.arena container name ≠
      kind.read machine.arena container name) :
    ∃ region, machine.RollsBack region ∧
      Wrote binds initial machine id region.mark ⟨container, name⟩ := by
  have sound := Reachable.sound ⟨initial, started, reaches⟩ running
  obtain ⟨region, undone, logged⟩ := step_read sound running found resting located member changed
  have traced := reaches.traced traces started running rare
  exact ⟨region, undone, traced.wrote undone.opened logged ⟨coroutine, found, located⟩ member⟩

theorem Reaches.faithful (started : start program args settings = .ok initial)
    (reaches : initial.Reaches machine) (running : machine.isRunning = true)
    (rare : machine.arena.Rare) : initial.Faithful machine := by
  have reachable : Reachable program args settings machine := ⟨initial, started, reaches⟩
  have sound := reachable.sound running
  constructor
  · intro id coroutine found resting
    have shelters := step_shelters sound running found resting
    exact {
      outside := fun passed => by
        obtain ⟨other, found', runs⟩ := sound.awake_running passed
        cases Option.some.inj (found.symm.trans found')
        exact resting runs
      kept := step_resting sound running found resting
      resumes := fun enters => enters.resumes sound found
      sheltered := shelters.stays sound found
      vars := reaches.rewritten BindingKind.vars_traces started running rare found resting
      candidates := reaches.rewritten BindingKind.candidates_traces started running rare found resting
      parked := fun away => by
        obtain ⟨same, kept⟩ := away.parked reachable running found resting
        exact ⟨same, fun located => kept.stays sound found located⟩
      exhausted := fun finished reaches => reaches.exhausted reachable found finished }
  · intro code dst next creates goesOn
    refine ⟨_, step_creates sound goesOn next creates, fun earlier reached onward => ?_⟩
    exact coroutine?_eq_none_iff.mpr (onward.size ⟨initial, started, reached⟩)

/-- A coroutine writes a variable while a region of the entry function is open, and is suspended
when that region is rolled back. -/
def wakingProgram : Program :=
  { Program.empty with
    functions := #[
      { name := "main", registerCount := 1, parameterCount := 0, parameters := []
        code := #[.createCoroutine 0 ⟨1⟩ [], .openRegion, .enterCoroutine none 0 none,
          .rollbackRegion, .enterCoroutine none 0 none, .return 0] },
      { name := "inner", registerCount := 1, parameterCount := 0, parameters := []
        code := #[.const 0 (.bool true), .declareVar ⟨0⟩ 0, .yield none, .return 0] }]
    functionIndex := .ofList [("main", FunctionId.mk 0), ("inner", FunctionId.mk 1)]
    symbols := #["x"]
    symbolIndex := .ofList [("x", SymbolId.mk 0)] }

/-- What the coroutine finds the variable bound to. -/
def wakingValue (machine : Machine) : Option Value := do
  machine.arena.var? (← (← machine.coroutine? ⟨1⟩).active?).scope ⟨0⟩

theorem faithful_waking :
    ∃ initial, start wakingProgram [] .standard = .ok initial ∧ initial.Faithful (initial.run 6) ∧
      ((initial.run 6).coroutine? ⟨1⟩).map Coroutine.state = some .suspended ∧
      wakingValue (initial.run 6) = some (.bool true) ∧ wakingValue (initial.run 7) = none ∧
      (initial.run 7).instruction? = some (.enterCoroutine none 0 none) ∧
      (initial.run 8).instruction? = some (.return 0) ∧ (initial.run 8).current = ⟨1⟩ := by
  have runs : (match start wakingProgram [] .standard with
      | .ok initial => decide ((initial.run 6).isRunning = true ∧ (initial.run 6).arena.Rare ∧
          ((initial.run 6).coroutine? ⟨1⟩).map Coroutine.state = some .suspended ∧
          wakingValue (initial.run 6) = some (.bool true) ∧ wakingValue (initial.run 7) = none ∧
          (initial.run 7).instruction? = some (.enterCoroutine none 0 none) ∧
          (initial.run 8).instruction? = some (.return 0) ∧ (initial.run 8).current = ⟨1⟩)
      | .error _ => false) = true := by decide +kernel
  split at runs
  · next initial started =>
      obtain ⟨running, rare, rest⟩ := of_decide_eq_true runs
      exact ⟨initial, started, Reaches.faithful started (reaches_run 6) running rare, rest⟩
  · cases runs

end Machine

end Backtrack
