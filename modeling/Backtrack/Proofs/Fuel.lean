import Backtrack.Machine.Run
import Mathlib.Algebra.GroupWithZero.Nat

/-!
Fuel. A host runs a machine by calls, each with an amount of fuel or without a limit. How the fuel
is divided among the calls makes no difference to what the machine computes; a call without a limit
ends as calls with enough fuel do; and what a machine that has stopped reports does not change.
-/

namespace Backtrack

namespace Report

/-- Whether a machine can be run further after a call. -/
def isPause : Report → Bool
  | .paused _ => true
  | _ => false

end Report

namespace Machine

variable {machine final : Machine} {report : Report} {fuel : Nat} {fuels : List Nat}

/-- One call of the host, what it reports, and the machine after it. -/
inductive Answers (machine : Machine) : Option Nat → Report → Machine → Prop
  | limited (fuel : Nat) :
      Answers machine (some fuel) (machine.run fuel).report (machine.run fuel)
  | unlimited {final : Machine} (ends : machine.Ends final) :
      Answers machine none final.report final

/-- Calls with these amounts of fuel, what the last of them reports, and the machine after it. -/
inductive Session : Machine → List Nat → Report → Machine → Prop
  | once {machine final : Machine} {fuel : Nat} {report : Report}
      (answers : machine.Answers (some fuel) report final) : Session machine [fuel] report final
  | more {machine middle final : Machine} {fuel : Nat} {fuels : List Nat} {earlier report : Report}
      (answers : machine.Answers (some fuel) earlier middle)
      (rest : Session middle fuels report final) : Session machine (fuel :: fuels) report final

theorem run_idle (idle : machine.isRunning = false) : machine.run fuel = machine := by
  cases fuel with
  | zero => rfl
  | succ fuel => simp [run, idle]

/-- Where one run paused, another goes on. -/
theorem run_add (first second : Nat) :
    (machine.run first).run second = machine.run (first + second) := by
  induction first generalizing machine with
  | zero => rw [Nat.zero_add, run]
  | succ first ih =>
      rw [Nat.succ_add, run, run]
      cases running : machine.isRunning with
      | true => exact ih
      | false => exact run_idle running

theorem isPause_report : machine.report.isPause = machine.isRunning := by
  unfold report isRunning
  cases machine.status <;> rfl

/-! Calls -/

theorem answers_some_iff :
    machine.Answers (some fuel) report final ↔
      report = (machine.run fuel).report ∧ final = machine.run fuel := by
  constructor
  · intro answers
    cases answers
    exact ⟨rfl, rfl⟩
  · rintro ⟨rfl, rfl⟩
    exact .limited fuel

theorem answers_none_iff :
    machine.Answers none report final ↔ machine.Ends final ∧ report = final.report := by
  constructor
  · intro answers
    cases answers with
    | unlimited ends => exact ⟨ends, rfl⟩
  · rintro ⟨ends, rfl⟩
    exact .unlimited ends

/-- A machine ends where it ends after a run. -/
theorem Ends.of_run (ends : (machine.run fuel).Ends final) : machine.Ends final := by
  obtain ⟨more, reached, idle⟩ := ends_iff_run.mp ends
  rw [run_add] at reached
  exact ends_iff_run.mpr ⟨fuel + more, reached, idle⟩

/-- A machine that has stopped ends where it is. -/
theorem ends_idle_iff (idle : machine.isRunning = false) : machine.Ends final ↔ final = machine := by
  constructor
  · intro ends
    obtain ⟨fuel, reached, _⟩ := ends_iff_run.mp ends
    rw [← reached, run_idle idle]
  · rintro rfl
    exact .stopped idle

/-- A machine has stopped exactly when a call reports anything but a pause. -/
theorem Answers.isPause {limit : Option Nat} (answers : machine.Answers limit report final) :
    report.isPause = final.isRunning := by
  cases answers <;> exact isPause_report

/-- A machine that has stopped answers every call, and always alike. -/
theorem answers_idle_iff {limit : Option Nat} (idle : machine.isRunning = false) :
    machine.Answers limit report final ↔ report = machine.report ∧ final = machine := by
  cases limit with
  | some fuel => rw [answers_some_iff, run_idle idle]
  | none =>
      rw [answers_none_iff, ends_idle_iff idle]
      constructor
      · rintro ⟨rfl, rfl⟩
        exact ⟨rfl, rfl⟩
      · rintro ⟨rfl, rfl⟩
        exact ⟨rfl, rfl⟩

/-! Sessions -/

/-- Calls one after another amount to a single call with all their fuel. -/
theorem session_iff :
    machine.Session fuels report final ↔
      fuels ≠ [] ∧ machine.Answers (some fuels.sum) report final := by
  constructor
  · intro session
    refine ⟨by cases session <;> simp, ?_⟩
    induction session with
    | once answers => simpa using answers
    | more answers rest ih =>
        obtain ⟨-, rfl⟩ := answers_some_iff.mp answers
        rw [List.sum_cons, answers_some_iff, ← run_add]
        exact answers_some_iff.mp ih
  · rintro ⟨nonempty, answers⟩
    induction fuels generalizing machine with
    | nil => exact absurd rfl nonempty
    | cons fuel rest ih =>
        cases rest with
        | nil => exact .once (by simpa using answers)
        | cons further rest =>
            rw [List.sum_cons, answers_some_iff, ← run_add] at answers
            exact .more (.limited fuel) (ih (by simp) (answers_some_iff.mpr answers))

/-- A call without a limit ends where some session stops. -/
theorem answers_none_iff_session :
    machine.Answers none report final ↔ report.isPause = false ∧
      ∃ fuels : List Nat, (∀ fuel ∈ fuels, fuel < 2 ^ 64) ∧ machine.Session fuels report final := by
  constructor
  · intro answers
    obtain ⟨ends, same⟩ := answers_none_iff.mp answers
    obtain ⟨fuel, reached, idle⟩ := ends_iff_run.mp ends
    refine ⟨answers.isPause.trans idle, List.replicate (fuel + 1) 1, by simp, session_iff.mpr ?_⟩
    -- the call that comes on top finds the machine stopped already
    have stays : machine.run (fuel + 1) = final := by
      rw [← run_add, reached, run_idle idle]
    refine ⟨by simp, answers_some_iff.mpr ?_⟩
    rw [List.sum_replicate_nat, Nat.mul_one, stays]
    exact ⟨same, rfl⟩
  · rintro ⟨stopped, fuels, -, session⟩
    obtain ⟨-, answers⟩ := session_iff.mp session
    have idle := answers.isPause.symm.trans stopped
    obtain ⟨same, reached⟩ := answers_some_iff.mp answers
    rw [← reached] at same
    exact answers_none_iff.mpr ⟨ends_iff_run.mpr ⟨_, reached.symm, idle⟩, same⟩

/-- How the fuel is divided among calls makes no difference. -/
structure FuelTransparent (machine : Machine) : Prop where
  /-- Two calls amount to one. -/
  joined (first second : Nat) (report : Report) (final : Machine) :
    machine.Session [first, second] report final ↔
      machine.Answers (some (first + second)) report final
  /-- Any number of calls do. -/
  sliced {fuels : List Nat} (called : fuels ≠ []) (report : Report) (final : Machine) :
    machine.Session fuels report final ↔ machine.Answers (some fuels.sum) report final
  /-- A call without a limit ends where calls with limits can. -/
  unlimited (report : Report) (final : Machine) :
    machine.Answers none report final ↔ report.isPause = false ∧
      ∃ fuels : List Nat, (∀ fuel ∈ fuels, fuel < 2 ^ 64) ∧ machine.Session fuels report final
  /-- After the machine has stopped, every call answers, and answers the same. -/
  settled {limit : Option Nat} {report : Report} {final : Machine}
    (answers : machine.Answers limit report final) (stopped : report.isPause = false)
    (later : Option Nat) (report' : Report) (final' : Machine) :
    final.Answers later report' final' ↔ report' = report ∧ final' = final

theorem fuel_transparent (machine : Machine) : machine.FuelTransparent where
  joined first second report final := by
    have total : [first, second].sum = first + second := by simp
    rw [session_iff, total]
    exact and_iff_right (by simp)
  sliced called report final := by
    rw [session_iff]
    exact and_iff_right called
  unlimited report final := answers_none_iff_session
  settled answers stopped later report' final' := by
    have idle := answers.isPause.symm.trans stopped
    rw [answers_idle_iff idle]
    cases answers <;> rfl

end Machine

end Backtrack
