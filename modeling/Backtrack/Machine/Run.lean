import Backtrack.Machine.Step

/-!
Runs of a machine. A run executes instructions until the machine stops or its fuel is used up, and
can be continued from where it paused; a stopped machine stays as it is. A run without a fuel limit
is the relation `Ends`, which holds for a machine and its final state if there is one;
`ends_iff_run` says that enough fuel finds it.
-/

namespace Backtrack

/-- How a run ended. -/
inductive Report where
  | done (value : Value)
  | paused (remainingFuel : Nat)
  | uncaught (condition : Condition)
  | trapped (fault : Fault)
deriving DecidableEq

namespace Machine

def isRunning (machine : Machine) : Bool :=
  machine.status = .running

/-- Executes at most `fuel` instructions. -/
def run : Nat → Machine → Machine
  | 0, machine => machine
  | fuel + 1, machine => if machine.isRunning then run fuel machine.step else machine

/-- The machine stops, and then is `final`. -/
inductive Ends : Machine → Machine → Prop where
  | stopped {machine : Machine} (idle : machine.isRunning = false) : Ends machine machine
  | step {machine final : Machine} (running : machine.isRunning = true)
      (rest : Ends machine.step final) : Ends machine final

theorem ends_iff_run {machine final : Machine} :
    machine.Ends final ↔ ∃ fuel, machine.run fuel = final ∧ final.isRunning = false := by
  constructor
  · intro ends
    induction ends with
    | stopped idle => exact ⟨0, rfl, idle⟩
    | step running _ ih =>
        obtain ⟨fuel, reached, idle⟩ := ih
        exact ⟨fuel + 1, by rw [run, if_pos running, reached], idle⟩
  · rintro ⟨fuel, reached, idle⟩
    induction fuel generalizing machine with
    | zero =>
        cases reached
        exact .stopped idle
    | succ fuel ih =>
        cases running : machine.isRunning with
        | true => exact .step running (ih (by rw [← reached, run, if_pos running]))
        | false =>
            have same : machine = final := by
              rw [← reached, run, if_neg (by rw [running]; exact Bool.false_ne_true)]
            cases same
            exact .stopped running

/-- A machine that still runs after a run has used up the fuel. -/
def report (machine : Machine) : Report :=
  match machine.status with
  | .running => .paused 0
  | .done value => .done value
  | .uncaught condition => .uncaught condition
  | .trapped fault => .trapped fault

end Machine

end Backtrack
