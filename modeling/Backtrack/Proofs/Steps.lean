import Backtrack.Proofs.Containers
import Backtrack.Proofs.Evolutions
import Backtrack.Machine.Start
import Backtrack.Machine.View

/-!
Steps of a machine. A step executes the instruction that the active frame points to, in the machine
where that frame already points behind it; `step_cases` says what it can do. The reachable machines
are those of any run from any start, between which the host may switch and reset the counters.
-/

namespace Backtrack

namespace Machine

variable {machine : Machine} {code : Instruction}

/-- The instruction that the active frame points to. -/
def instruction? (machine : Machine) : Option Instruction := do
  let frame ← machine.active?
  let unit ← machine.program.function? frame.function
  unit.code[frame.pc]?

/-- The machine when its next instruction is executed: the active frame points behind it. -/
def fetched (machine : Machine) (instruction : Instruction) : Machine :=
  (((machine.count (·.noteDepth machine.depth)).updateFrame machine.current fun frame =>
    { frame with pc := frame.pc + 1 }).count (·.record instruction))

theorem fetched_eq (machine : Machine) (instruction : Instruction) :
    ∃ counters, machine.fetched instruction =
      { machine.updateFrame machine.current (fun frame => { frame with pc := frame.pc + 1 }) with
        counters } := by
  unfold fetched
  obtain ⟨noted, counted⟩ := machine.count_eq (·.noteDepth machine.depth)
  rw [counted]
  exact count_eq _ _

/-! Only the active frame and the counters change. -/

@[simp] theorem program_fetched : (machine.fetched code).program = machine.program :=
  (machine.fetched_eq code).elim fun _ same => (congrArg program same).trans rfl

@[simp] theorem settings_fetched : (machine.fetched code).settings = machine.settings :=
  (machine.fetched_eq code).elim fun _ same => (congrArg settings same).trans rfl

@[simp] theorem status_fetched : (machine.fetched code).status = machine.status :=
  (machine.fetched_eq code).elim fun _ same => (congrArg status same).trans rfl

@[simp] theorem current_fetched : (machine.fetched code).current = machine.current :=
  (machine.fetched_eq code).elim fun _ same => (congrArg current same).trans rfl

@[simp] theorem arena_fetched : (machine.fetched code).arena = machine.arena :=
  (machine.fetched_eq code).elim fun _ same => (congrArg arena same).trans rfl

@[simp] theorem globals_fetched : (machine.fetched code).globals = machine.globals :=
  (machine.fetched_eq code).elim fun _ same => (congrArg globals same).trans rfl

@[simp] theorem regions_fetched : (machine.fetched code).regions = machine.regions :=
  (machine.fetched_eq code).elim fun _ same => (congrArg regions same).trans rfl

@[simp] theorem nextSerial_fetched : (machine.fetched code).nextSerial = machine.nextSerial :=
  (machine.fetched_eq code).elim fun _ same => (congrArg nextSerial same).trans rfl

@[simp] theorem nextFrame_fetched : (machine.fetched code).nextFrame = machine.nextFrame :=
  (machine.fetched_eq code).elim fun _ same => (congrArg nextFrame same).trans rfl

theorem fetched_evolves {code other : Instruction} :
    machine.Evolves other (machine.fetched code) := by
  obtain ⟨counters, same⟩ := machine.fetched_eq code
  rw [same]
  exact (Evolves.refl.goto fun frame => frame.pc + 1).then (.count counters)

theorem fetched_enabled {code : Instruction} (enabled : machine.AllEnabled) :
    (machine.fetched code).AllEnabled := by
  obtain ⟨counters, same⟩ := machine.fetched_eq code
  rw [same]
  exact enabled

theorem instruction?_eq_some_iff {instruction : Instruction} :
    machine.instruction? = some instruction ↔ ∃ frame unit, machine.active? = some frame ∧
      machine.program.function? frame.function = some unit ∧
        unit.code[frame.pc]? = some instruction := by
  simp only [instruction?, Option.bind_eq_bind, Option.bind_eq_some_iff]
  constructor
  · rintro ⟨frame, active, unit, found, fetches⟩
    exact ⟨frame, unit, active, found, fetches⟩
  · rintro ⟨frame, unit, active, found, fetches⟩
    exact ⟨frame, active, unit, found, fetches⟩

theorem instruction?_count {change : Counters → Counters} :
    (machine.count change).instruction? = machine.instruction? := by
  obtain ⟨counters, counted⟩ := machine.count_eq change
  rw [counted]
  rfl

theorem cycle_eq {instruction : Instruction} (next : machine.instruction? = some instruction) :
    Action.cycle machine = Action.execute instruction (machine.fetched instruction) := by
  refine Action.eq_of_leads fun good bad leads => ?_
  simp only [Action.cycle, Action.noteDepth, Action.leads_bind, Action.leads_modify,
    Action.leads_count]
  obtain ⟨frame, unit, active, found, fetches⟩ :=
    instruction?_eq_some_iff.mp (instruction?_count.trans next)
  simp only [Action.fetch, Action.leads_bind, Action.leads_frame, Action.leads_updateFrame,
    Action.leads_get]
  refine ⟨fun frame' active' => ?_, fun coroutine current idle => ?_, fun missing => ?_⟩
  · cases Option.some.inj (active.symm.trans active')
    have program : ((machine.count (·.noteDepth machine.depth)).updateFrame
        (machine.count (·.noteDepth machine.depth)).current fun frame =>
          { frame with pc := frame.pc + 1 }).program.function? frame.function = some unit := found
    simp only [program, fetches, Action.leads_pure]
    have stays : (machine.count (·.noteDepth machine.depth)).current = machine.current := by
      obtain ⟨counters, counted⟩ := machine.count_eq (·.noteDepth machine.depth)
      rw [counted]
    rw [stays]
    exact leads
  · rw [active?, current] at active
    exact absurd (idle.symm.trans active) (by simp)
  · rw [active?, missing] at active
    exact absurd active (by simp)

/-- A machine either executes the instruction it fetches, or faults where it has none to fetch. -/
theorem leads_cycle {good : Outcome → Machine → Prop} {bad : Fault → Machine → Prop}
    (executed : ∀ code, machine.instruction? = some code →
      (Action.execute code).Leads (machine.fetched code) good bad)
    (missing : machine.instruction? = none → ∀ fault after,
      (∀ code, machine.Evolves code after) → bad fault after) :
    Action.cycle.Leads machine good bad := by
  cases next : machine.instruction? with
  | some code =>
      have leads := executed code next
      unfold Action.Leads at leads ⊢
      rw [cycle_eq next]
      exact leads
  | none =>
      obtain ⟨counters, counted⟩ := machine.count_eq (·.noteDepth machine.depth)
      have noted (code : Instruction) : machine.Evolves code { machine with counters } :=
        Evolves.refl.then (.count counters)
      simp only [Action.cycle, Action.noteDepth, Action.fetch, Action.leads_bind,
        Action.leads_modify, Action.leads_frame, Action.leads_updateFrame, Action.leads_get, counted]
      refine ⟨fun frame active => ?_, fun _ _ _ => missing next _ _ noted,
        fun _ => missing next _ _ noted⟩
      split
      · exact missing next _ _ fun code => (noted code).goto _
      · next unit found =>
          split
          · next instruction fetches =>
              have present := instruction?_eq_some_iff.mpr ⟨frame, unit, active, found, fetches⟩
              exact absurd (next.symm.trans present) (by simp)
          · exact missing next _ _ fun code => (noted code).goto _

/-- A step that goes on does what its instruction leads to. -/
theorem step_of_leads {code : Instruction} {machine : Machine}
    {good : Outcome → Machine → Prop} (next : machine.instruction? = some code)
    (running : machine.step.isRunning = true)
    (leads : (Action.execute code).Leads (machine.fetched code) good fun _ _ => True) :
    good .proceed machine.step := by
  have goesOn : machine.step.status = .running := of_decide_eq_true running
  rw [step, cycle_eq next] at goesOn ⊢
  unfold Action.Leads at leads
  split at leads
  · next outcome after ended =>
      rw [ended] at goesOn ⊢
      cases outcome with
      | proceed => exact leads
      | done | uncaught => cases goesOn
  · next fault after faulted =>
      rw [faulted] at goesOn
      cases goesOn

/-- A step whose instruction goes on unless it faults. -/
theorem step_of_proceeds {code : Instruction} {machine : Machine} {good : Machine → Prop}
    {bad : Fault → Machine → Prop} (next : machine.instruction? = some code)
    (leads : (Action.execute code).Leads (machine.fetched code)
      (fun outcome after => outcome = .proceed ∧ good after) bad) :
    good machine.step ∨ ∃ fault after counters, bad fault after ∧
      machine.step = { after with counters, status := .trapped fault } := by
  rw [step, cycle_eq next]
  unfold Action.Leads at leads
  split at leads
  · next outcome after ended =>
      obtain ⟨rfl, holds⟩ := leads
      rw [ended]
      exact .inl holds
  · next fault after faulted =>
      rw [faulted]
      obtain ⟨counters, counted⟩ := after.count_eq (·.noteDepth after.depth)
      exact .inr ⟨fault, after, counters, leads, by simp only [counted]⟩

/-- What one step does: the instruction changes the machine in the ways of `Effect`, and then the
machine goes on or has an uncaught condition; or the run ends with a value or a fault. -/
theorem step_cases (enabled : machine.AllEnabled) :
    (∃ code, machine.instruction? = some code ∧ (machine.Evolves code machine.step ∨
      ∃ after condition, machine.Evolves code after ∧
        machine.step = { after with status := .uncaught condition })) ∨
      (∃ value, machine.step.status = .done value) ∨
      ∃ fault, machine.step.status = .trapped fault := by
  have leads : Action.cycle.Leads machine
      (fun outcome after => (∃ value, outcome = .done value) ∨
        ∃ code, machine.instruction? = some code ∧ machine.Evolves code after)
      fun _ _ => True := by
    refine leads_cycle (fun code next => ?_) fun _ _ _ _ => trivial
    refine (Action.execute_evolves (fetched_enabled enabled) fetched_evolves).mono
      (fun outcome after evolved => ?_) fun _ _ _ => trivial
    exact evolved.imp id fun evolved => ⟨code, next, evolved⟩
  unfold Action.Leads at leads
  unfold step
  split at leads
  · next outcome after ended =>
      rw [ended]
      cases outcome with
      | proceed =>
          obtain ⟨code, next, evolved⟩ := leads.resolve_left nofun
          exact .inl ⟨code, next, .inl evolved⟩
      | done value => exact .inr (.inl ⟨value, rfl⟩)
      | uncaught condition =>
          obtain ⟨code, next, evolved⟩ := leads.resolve_left nofun
          exact .inl ⟨code, next, .inr ⟨after, condition, evolved, rfl⟩⟩
  · next fault after faulted =>
      rw [faulted]
      exact .inr (.inr ⟨fault, rfl⟩)

/-- A step after which the machine still runs consists of effects of its instruction. -/
theorem step_evolves (enabled : machine.AllEnabled) (running : machine.step.isRunning = true) :
    ∃ code, machine.instruction? = some code ∧ machine.Evolves code machine.step := by
  have goesOn : machine.step.status = .running := of_decide_eq_true running
  rcases step_cases enabled with ⟨code, next, evolves | stops⟩ | ⟨value, stops⟩ | ⟨fault, stops⟩
  · exact ⟨code, next, evolves⟩
  · obtain ⟨after, condition, -, same⟩ := stops
    rw [same] at goesOn
    cases goesOn
  · cases stops.symm.trans goesOn
  · cases stops.symm.trans goesOn

/-- Where a step faults, the instruction has broken off. If there is none to fetch, any would do. -/
theorem step_breaks {fault : Fault} (enabled : machine.AllEnabled)
    (running : machine.isRunning = true) (trapped : machine.step.status = .trapped fault) :
    ∃ after counters, Action.cycle machine = .error fault after ∧
      machine.step = { after with counters, status := .trapped fault } ∧
        ∀ code, machine.instruction? = some code ∨ machine.instruction? = none →
          machine.Breaks code after := by
  have goesOn : machine.status = .running := of_decide_eq_true running
  have leads : Action.cycle.Leads machine
      (fun outcome after => outcome = .proceed → after.status = machine.status)
      fun _ after => ∀ code, machine.instruction? = some code ∨ machine.instruction? = none →
        machine.Breaks code after := by
    refine leads_cycle (fun code next => ?_) fun missing fault after evolves code _ =>
      .between (evolves code)
    refine (Action.execute_evolves (fetched_enabled enabled) fetched_evolves).mono ?_ ?_
    · rintro outcome after (⟨value, rfl⟩ | evolves) proceeds
      · cases proceeds
      · exact evolves.status
    · rintro fault after breaks other (same | missing)
      · exact Option.some.inj (next.symm.trans same) ▸ breaks
      · exact absurd (next.symm.trans missing) nofun
  unfold Action.Leads at leads
  unfold step at trapped ⊢
  split at leads
  · next outcome after ended =>
      rw [ended] at trapped
      cases outcome with
      | proceed => cases trapped.symm.trans ((leads rfl).trans goesOn)
      | done | uncaught => cases trapped
  · next other after faulted =>
      rw [faulted] at trapped ⊢
      cases trapped
      obtain ⟨counters, counted⟩ := after.count_eq (·.noteDepth after.depth)
      refine ⟨after, counters, rfl, ?_, leads⟩
      simp only [counted]

end Machine

/-! Reachable machines -/

namespace Machine

/-- A machine goes on with one instruction, or the host switches or resets its counters. -/
inductive Moves : Machine → Machine → Prop
  | step {machine : Machine} (running : machine.isRunning = true) : Moves machine machine.step
  | collect {machine : Machine} (collecting : Bool) :
      Moves machine (machine.collectCounters collecting)
  | reset {machine : Machine} : Moves machine machine.resetCounters

def Reaches : Machine → Machine → Prop :=
  Relation.ReflTransGen Moves

def Reachable (program : Program) (args : List Value) (settings : Settings) (machine : Machine) :
    Prop :=
  ∃ initial, start program args settings = .ok initial ∧ initial.Reaches machine

variable {program : Program} {args : List Value} {settings : Settings} {machine : Machine}

theorem reaches_run (fuel : Nat) : machine.Reaches (machine.run fuel) := by
  induction fuel generalizing machine with
  | zero => exact .refl
  | succ fuel ih =>
      rw [run]
      split
      · next running => exact .head (.step running) ih
      · exact .refl

theorem Reachable.further {origin : Machine} (reachable : Reachable program args settings origin)
    (reaches : origin.Reaches machine) : Reachable program args settings machine := by
  obtain ⟨initial, started, reached⟩ := reachable
  exact ⟨initial, started, reached.trans reaches⟩

/-- A machine that has stopped does not go on. -/
theorem Reaches.running {origin : Machine} (reaches : origin.Reaches machine)
    (running : machine.isRunning = true) : origin.isRunning = true := by
  induction reaches with
  | refl => exact running
  | tail _ moves ih =>
      cases moves with
      | step ran => exact ih ran
      | collect | reset => exact ih running

/-- What every step of a run keeps that goes on, the run keeps. -/
theorem Reaches.induction {origin : Machine} (reaches : origin.Reaches machine)
    (running : machine.isRunning = true) (holds : Machine → Prop) (started : holds origin)
    (counted : ∀ (machine : Machine) counters collecting, holds machine →
      holds { machine with counters, collecting })
    (stepped : ∀ middle : Machine, origin.Reaches middle → middle.isRunning = true →
      middle.step.isRunning = true → middle.step.Reaches machine → holds middle →
        holds middle.step) : holds machine := by
  have along {middle : Machine} (reached : origin.Reaches middle) (further : middle.Reaches machine) :
      holds middle := by
    induction reached with
    | refl => exact started
    | @tail earlier middle reached moves ih =>
        have held := ih (.head moves further)
        cases moves with
        | collect collecting => exact counted _ _ collecting held
        | reset => exact counted _ .zero _ held
        | step ran => exact stepped earlier reached ran (further.running running) further held
  exact along reaches .refl

theorem except_bind_eq_ok {ε α β : Type} {first : Except ε α} {next : α → Except ε β} {result : β}
    (ended : first >>= next = .ok result) :
    ∃ value, first = .ok value ∧ next value = .ok result := by
  cases first with
  | error => cases ended
  | ok value => exact ⟨value, rfl, ended⟩

theorem except_mapError_eq_ok {ε ε' α : Type} {first : Except ε α} {change : ε → ε'} {result : α}
    (ended : first.mapError change = .ok result) : first = .ok result := by
  cases first with
  | error => cases ended
  | ok value => exact congrArg Except.ok (Except.ok.inj ended)

/-- A machine starts with its root in the global container, which is the only one. -/
theorem start_eq (started : start program args settings = .ok machine) :
    ∃ unit registers, program.function? program.entry = some unit ∧
      unit.parameterCount = args.length ∧
      (settings.checkProgram = true → program.check = .ok ()) ∧
      (Frame.new ⟨0⟩ program.entry unit.registerCount .entry (Arena.empty.place none).1
        ).withArguments args = .ok (.initial ⟨0⟩ program.entry registers .entry
          (Arena.empty.place none).1) ∧
      machine = {
        program
        settings
        status := .running
        coroutines := #[.root (.initial ⟨0⟩ program.entry registers .entry
          (Arena.empty.place none).1)]
        current := .root
        arena := (Arena.empty.place none).2
        globals := (Arena.empty.place none).1
        regions := .empty
        nextSerial := 0
        nodes := .empty
        nextFrame := 1
        counters := .zero
        collecting := settings.collectCounters } := by
  obtain ⟨_, checked, started⟩ := except_bind_eq_ok started
  split at started
  · cases started
  · next unit found =>
      obtain ⟨_, fits, started⟩ := except_bind_eq_ok started
      obtain ⟨⟨globals, arena⟩, placed, started⟩ := except_bind_eq_ok started
      obtain ⟨frame, passed, started⟩ := except_bind_eq_ok started
      have room : Arena.empty.hasRoom = true := rfl
      have first := except_mapError_eq_ok placed
      simp only [Arena.alloc, room, if_true, Except.ok.injEq] at first
      have filled := except_mapError_eq_ok passed
      obtain ⟨registers, -, rfl⟩ := Frame.withArguments_eq filled
      refine ⟨unit, registers, found, ?_, fun required => ?_, ?_, ?_⟩
      · unfold CodeUnit.arityCheck at fits
        split at fits
        · assumption
        · cases fits
      · rw [if_pos required] at checked
        exact except_mapError_eq_ok checked
      · rw [first]
        exact filled
      · cases started
        rw [first]
        rfl

theorem initial_enabled (started : start program args settings = .ok machine) :
    machine.AllEnabled := by
  obtain ⟨_, _, -, -, -, -, rfl⟩ := start_eq started
  simp [AllEnabled]

theorem effect_enabled {code : Instruction} {before after : Machine} (enabled : before.AllEnabled)
    (effect : Effect code before after) : after.AllEnabled := by
  cases effect with
  | bindVar | bindCandidates =>
      intro region member
      obtain ⟨earlier, stacked, rfl⟩ := List.mem_map.mp member
      simpa using enabled earlier stacked
  | openRegion =>
      intro region member
      rcases List.mem_cons.mp member with rfl | inner
      · rfl
      · exact enabled region inner
  | commitRegion top | rollbackRegion top =>
      exact fun region member => enabled region (top ▸ List.mem_cons_of_mem _ member)
  | abandon | «catch» =>
      exact fun region member => enabled region ((List.dropWhile_sublist _).subset member)
  | undoAll => exact nofun
  | _ => exact enabled

/-- What holds at the start and is kept by every effect holds as long as the machine runs. -/
theorem Reachable.induction (reachable : Reachable program args settings machine)
    (holds : Machine → Prop) (running : machine.isRunning = true)
    (started : ∀ initial, start program args settings = .ok initial → holds initial)
    (counted : ∀ (machine : Machine) counters collecting, holds machine →
      holds { machine with counters, collecting })
    (kept : ∀ code before after, holds before → Effect code before after → holds after) :
    machine.AllEnabled ∧ holds machine := by
  obtain ⟨initial, start, reaches⟩ := reachable
  induction reaches with
  | refl => exact ⟨initial_enabled start, started initial start⟩
  | @tail earlier _ _ moves ih =>
      cases moves with
      | collect collecting => exact ⟨(ih running).1, counted _ _ collecting (ih running).2⟩
      | reset => exact ⟨(ih running).1, counted _ .zero _ (ih running).2⟩
      | step ran =>
          obtain ⟨enabled, held⟩ := ih ran
          have cases := step_cases enabled
          generalize earlier.step = later at cases running ⊢
          rcases cases with ⟨code, -, evolves | stops⟩ | ⟨value, stops⟩ | ⟨fault, stops⟩
          · clear running
            induction evolves with
            | refl => exact ⟨enabled, held⟩
            | tail _ effect ih => exact ⟨effect_enabled ih.1 effect, kept code _ _ ih.2 effect⟩
          · obtain ⟨after, condition, -, same⟩ := stops
            simp [same, isRunning] at running
          · simp [stops, isRunning] at running
          · simp [stops, isRunning] at running

theorem Reachable.program_eq (reachable : Reachable program args settings machine)
    (running : machine.isRunning = true) : machine.program = program := by
  refine (reachable.induction (fun machine => machine.program = program) running ?_
    (fun _ _ _ same => same) fun code before after same effect => ?_).2
  · intro initial started
    obtain ⟨_, _, -, -, -, -, rfl⟩ := start_eq started
    rfl
  · cases effect <;> exact same

end Machine

end Backtrack
