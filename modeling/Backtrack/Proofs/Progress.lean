import Backtrack.Proofs.Typing

/-!
Runs of checked programs. The machine stands before an instruction of its program as long as it
runs, and a step stops it with a fault only where the fault is benign or where a condition reaches a
handler whose container is gone.
-/

namespace Backtrack.Machine

variable {program : Program} {strays : Nat} {args : List Value} {settings : Settings} {machine : Machine}
  {frame : Frame} {unit : CodeUnit} {code : Instruction} {fault : Fault}

/-- A fault that can stop a checked program at an instruction. -/
def Faults (strays : Nat) (machine : Machine) (code : Instruction) (fault : Fault) : Prop :=
  fault.Benign strays ∨ (fault = .deadContainer ∧ machine.Stuck fault ∧
    ∃ cause, machine.raised? code = some cause)

/-- There is always an instruction to execute. -/
theorem Poised.instruction (poised : machine.Poised program strays) (sound : machine.Sound) :
    ∃ frame unit code, machine.active? = some frame ∧
      program.function? frame.function = some unit ∧ unit.code[frame.pc]? = some code ∧
      machine.instruction? = some code := by
  obtain ⟨-, frame, -, -, active⟩ := sound.active
  obtain ⟨unit, found, within⟩ := poised.lands active
  have fetches := Array.getElem?_eq_getElem within
  refine ⟨frame, unit, _, active, found, fetches, ?_⟩
  exact instruction?_eq_some_iff.mpr ⟨frame, unit, active, poised.typed.runs ▸ found, fetches⟩

/-- A fetch leaves everything typed. -/
theorem Poised.fetched_typed (poised : machine.Poised program strays) (sound : machine.Sound) :
    (machine.fetched code).Typed program strays := by
  obtain ⟨counters, same⟩ := machine.fetched_eq code
  rw [same]
  obtain ⟨coroutine, frame, current, top, active⟩ := sound.active
  have typed : (machine.updateFrame machine.current fun frame =>
      { frame with pc := frame.pc + 1 }).Typed program strays :=
    poised.typed.update sound.linked current
      ((poised.typed.coroutines.coroutines current).updateActive top ⟨rfl, rfl, rfl⟩
        (poised.typed.active active).bounded) rfl
  exact { typed with }

/-- Only after the last instruction of a function is there none to go on with. -/
theorem Poised.fetched (checked : program.check = .ok ()) (poised : machine.Poised program strays)
    (sound : machine.Sound) (active : machine.active? = some frame)
    (found : program.function? frame.function = some unit)
    (fetches : unit.code[frame.pc]? = some code) (falls : code.isTerminator = false) :
    (machine.fetched code).Poised program strays := by
  refine ⟨poised.fetched_typed sound, fun {other} active' => ?_⟩
  cases Option.some.inj ((active?_fetched active).symm.trans active')
  exact ⟨unit, found, (program.unit_checked checked found).onward fetches falls⟩

/-- One instruction of a checked program. -/
theorem Poised.cycle_leads (checked : program.check = .ok ()) (poised : machine.Poised program strays)
    (sound : machine.Sound) :
    ∃ code, machine.instruction? = some code ∧
      Action.cycle.Leads machine (fun outcome after => outcome = .proceed → after.Poised program strays)
        fun fault _ => (machine.fetched code).Faults strays code fault := by
  obtain ⟨frame, unit, code, active, found, fetches, next⟩ := poised.instruction sound
  have typed : (machine.fetched code).Typed program strays := poised.fetched_typed sound
  have ready := poised.fetched checked sound active found fetches
  have sound' : (machine.fetched code).Sound := sound.fetched
  have allowed := (program.unit_checked checked found).allowed fetches
  refine ⟨code, next, ?_⟩
  unfold Action.Leads
  rw [cycle_eq next]
  cases raises : (machine.fetched code).raised? code with
  | none =>
      exact Action.Leads.mono
        (Action.execute_safe checked typed sound' (active?_fetched active) found allowed ready raises)
        (fun _ _ goesOn => goesOn) fun _ _ benign => .inl benign
  | some cause =>
      exact Action.Leads.mono (Action.execute_raise_safe typed sound' raises)
        (fun _ _ goesOn => goesOn) fun _ _ ⟨dead, stuck⟩ => .inr ⟨dead, stuck, cause, raises⟩

/-- A step either goes on before another instruction, or stops. -/
theorem Poised.step (checked : program.check = .ok ()) (poised : machine.Poised program strays)
    (sound : machine.Sound) (running : machine.step.isRunning = true) :
    machine.step.Poised program strays := by
  obtain ⟨code, -, leads⟩ := poised.cycle_leads checked sound
  unfold Action.Leads at leads
  unfold Machine.step at running ⊢
  split at leads
  · next outcome after ended =>
      rw [ended] at running ⊢
      cases outcome with
      | proceed => exact leads rfl
      | done | uncaught => simp [isRunning] at running
  · next fault after faulted =>
      rw [faulted] at running
      simp [isRunning] at running

/-- Instructions that go on leave the status alone. -/
theorem cycle_status (enabled : machine.AllEnabled) :
    Action.cycle.Leads machine
      (fun outcome after => outcome = .proceed → after.status = machine.status)
      fun _ _ => True := by
  refine leads_cycle (fun code next => ?_) fun _ _ _ _ => trivial
  refine (Action.execute_evolves (fetched_enabled enabled) fetched_evolves).mono
    (fun outcome after evolved goesOn => ?_) fun _ _ _ => trivial
  exact (evolved.resolve_left (by simp [goesOn])).status

/-- A machine that a fault stops is as the instruction left it, save for its status and counters. -/
theorem step_trapped {good : Outcome → Machine → Prop} {bad : Fault → Machine → Prop}
    (enabled : machine.AllEnabled) (running : machine.isRunning = true)
    (trapped : machine.step.status = .trapped fault) (leads : Action.cycle.Leads machine good bad) :
    ∃ after, bad fault after ∧
      machine.step = { after.count (·.noteDepth after.depth) with status := .trapped fault } := by
  have kept := cycle_status enabled
  unfold Action.Leads at leads kept
  unfold Machine.step at trapped ⊢
  split at leads
  · next outcome after ended =>
      rw [ended] at trapped kept
      cases outcome with
      | proceed =>
          rw [kept rfl] at trapped
          exact absurd trapped (by simp [of_decide_eq_true running])
      | done | uncaught => cases trapped
  · next other after faulted =>
      rw [faulted] at trapped ⊢
      cases trapped
      exact ⟨after, leads, rfl⟩

theorem Poised.faults (checked : program.check = .ok ()) (poised : machine.Poised program strays)
    (sound : machine.Sound) (running : machine.isRunning = true)
    (trapped : machine.step.status = .trapped fault) :
    ∃ code, machine.instruction? = some code ∧ (machine.fetched code).Faults strays code fault := by
  obtain ⟨code, next, leads⟩ := poised.cycle_leads checked sound
  obtain ⟨after, faults, -⟩ := step_trapped sound.enabled running trapped leads
  exact ⟨code, next, faults⟩

/-- A run begins before the first instruction of the entry function. -/
theorem initial_poised (checked : program.check = .ok ())
    (started : start program args settings = .ok machine)
    (bounded : ∀ value ∈ args, value.Bounded strays) : machine.Poised program strays := by
  obtain ⟨unit, registers, found, -, -, passed, rfl⟩ := start_eq started
  have known (value : Value) (member : value ∈ args) : value.Bounded (1 + strays) :=
    (bounded value member).mono (Nat.le_add_left ..)
  have unbound : Arena.empty.Bounded (1 + strays) := by
    intro id name value bound
    simp [Arena.var?, Arena.get?, Arena.empty] at bound
  refine ⟨⟨rfl, .alone (.root (.begun found known passed)) rfl, ?_, by simp⟩,
    fun {frame} active => ?_⟩
  · exact unbound.place Arena.empty_sound
  · cases active
    exact ⟨unit, found, (program.unit_checked checked found).begun⟩

/-- As long as it runs, a checked program has a next instruction. -/
theorem Reachable.poised (checked : program.check = .ok ())
    (bounded : ∀ value ∈ args, value.Bounded strays)
    (reachable : Reachable program args settings machine) (running : machine.isRunning = true) :
    machine.Poised program strays := by
  obtain ⟨initial, started, reaches⟩ := reachable
  induction reaches with
  | refl => exact initial_poised checked started bounded
  | @tail earlier later reaches moves ih =>
      cases moves with
      | collect collecting =>
          have poised := ih running
          exact ⟨{ poised.typed with }, poised.lands⟩
      | reset =>
          have poised := ih running
          exact ⟨{ poised.typed with }, poised.lands⟩
      | step ran =>
          exact (ih ran).step checked (Reachable.sound ⟨initial, started, reaches⟩ ran) running

end Backtrack.Machine
