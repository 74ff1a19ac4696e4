import Backtrack.Proofs.Tandem
import Backtrack.Proofs.Fuel
import Backtrack.Proofs.Steps

/-!
Counters and what a machine computes. A host can switch the counters on and off, and read and reset
them, between any two runs. A machine that never counts does the same without all that: it reports
the same to every run, and is the same but for the counters.
-/

namespace Backtrack

/-- What a host does about the counters of a machine. -/
inductive Metering where
  | collect (collecting : Bool)
  | reset
  /-- The host reads the counters, which then start anew. -/
  | take
deriving DecidableEq

/-- What a host asks of a machine. -/
inductive Request where
  /-- The machine runs, with or without a limit. -/
  | run (limit : Option Nat)
  | meter (metering : Metering)
deriving DecidableEq

def Request.isRun : Request → Bool
  | .run _ => true
  | .meter _ => false

namespace Machine

variable {machine final : Machine} {report : Report} {settings : Settings} {limit : Option Nat}
  {requests : List Request} {notes : List (Report × Machine)}

def meter (machine : Machine) : Metering → Machine
  | .collect collecting => machine.collectCounters collecting
  | .reset | .take => machine.resetCounters

/-- A machine does what a host asks, one request after the other. Every run is noted with its report
and with the machine after it, whose counters do not matter here. -/
inductive Serves : Machine → List Request → List (Report × Machine) → Machine → Prop
  | idle {machine : Machine} : Serves machine [] [] machine
  | run {machine middle final : Machine} {limit : Option Nat} {report : Report}
      {requests : List Request} {notes : List (Report × Machine)}
      (answers : machine.Answers limit report middle)
      (rest : Serves middle requests notes final) :
      Serves machine (.run limit :: requests) ((report, middle.unmetered) :: notes) final
  | meter {machine final : Machine} {metering : Metering} {requests : List Request}
      {notes : List (Report × Machine)}
      (rest : Serves (machine.meter metering) requests notes final) :
      Serves machine (.meter metering :: requests) notes final

theorem serves_nil_iff : machine.Serves [] notes final ↔ notes = [] ∧ final = machine := by
  constructor
  · rintro ⟨⟩
    exact ⟨rfl, rfl⟩
  · rintro ⟨rfl, rfl⟩
    exact .idle

theorem serves_run_iff :
    machine.Serves (.run limit :: requests) notes final ↔ ∃ report middle later,
      machine.Answers limit report middle ∧ middle.Serves requests later final ∧
        notes = (report, middle.unmetered) :: later := by
  constructor
  · rintro ⟨⟩
    exact ⟨_, _, _, ‹_›, ‹_›, rfl⟩
  · rintro ⟨report, middle, later, answers, rest, rfl⟩
    exact .run answers rest

theorem serves_meter_iff {metering : Metering} :
    machine.Serves (.meter metering :: requests) notes final ↔
      (machine.meter metering).Serves requests notes final := by
  constructor
  · rintro ⟨⟩
    assumption
  · exact .meter

@[simp] theorem unmetered_meter {metering : Metering} :
    (machine.meter metering).unmetered = machine.unmetered := by
  cases metering <;> rfl

@[simp] theorem settings_meter {metering : Metering} :
    (machine.meter metering).settings = machine.settings := by
  cases metering <;> rfl

@[simp] theorem unmetered_count {change : Counters → Counters} :
    (machine.count change).unmetered = machine.unmetered := by
  unfold count
  split <;> rfl

@[simp] theorem settings_count {change : Counters → Counters} :
    (machine.count change).settings = machine.settings := by
  unfold count
  split <;> rfl

/-! A machine and what it is without its counters -/

/-- The second machine is the first without its counters, and the first has these settings. -/
def Unmeters (settings : Settings) (left right : Machine) : Prop :=
  right = left.unmetered ∧ left.settings = settings

/-- A machine that collects no counters does not notice that something is counted. -/
theorem unmeters_count {left right : Machine} (change change' : Counters → Counters)
    (unmeters : left.Unmeters settings right) :
    (left.count change).Unmeters settings (right.count change') := by
  obtain ⟨rfl, same⟩ := unmeters
  exact ⟨unmetered_count.symm, settings_count.trans same⟩

theorem parallel_unmeters : Parallel (Unmeters settings) (Unmeters settings) where
  alike := by
    rintro left _ ⟨rfl, -⟩
    rfl
  fault unmeters := unmeters
  coroutine := by
    rintro left _ ⟨rfl, same⟩ id change
    exact ⟨rfl, same⟩
  current := by
    rintro left _ ⟨rfl, same⟩ current
    exact ⟨rfl, same⟩
  arena := by
    rintro left _ ⟨rfl, same⟩ arena
    exact ⟨rfl, same⟩
  nextFrame := by
    rintro left _ ⟨rfl, same⟩ nextFrame
    exact ⟨rfl, same⟩
  logs := by
    rintro left _ ⟨rfl, same⟩ change
    exact ⟨rfl, same⟩
  opened := by
    rintro left _ ⟨rfl, same⟩ region nextSerial
    exact unmeters_count _ _ ⟨rfl, same⟩
  committed := by
    rintro left _ ⟨rfl, same⟩ region top
    exact unmeters_count _ _ ⟨rfl, same⟩
  undone := by
    rintro left _ ⟨rfl, same⟩ region top restored arena
    exact unmeters_count _ _ ⟨rfl, same⟩
  popped := by
    rintro left _ ⟨rfl, same⟩
    exact ⟨rfl, same⟩

theorem carries_unmeters (code : Instruction) :
    Carries code (Unmeters settings) (Unmeters settings) (fun _ => Unmeters settings)
      (Unmeters settings) where
  first := parallel_unmeters
  second := parallel_unmeters
  proceeds _ _ _ unmeters := unmeters
  ends _ _ _ _ unmeters := unmeters
  created := by
    rintro - coroutine left _ ⟨rfl, same⟩
    exact ⟨rfl, same⟩
  built := by
    rintro - nodes left _ ⟨rfl, same⟩
    exact ⟨rfl, same⟩
  added _ _ _ unmeters := unmeters
  tried _ _ _ _ unmeters := unmeters_count _ _ unmeters
  raised _ _ _ unmeters := unmeters_count _ _ unmeters
  caught _ _ _ unmeters := unmeters_count _ _ unmeters
  uncaught _ _ _ _ unmeters := unmeters

theorem cycle_unmeters : Action.cycle.Keeps (Unmeters settings) (Unmeters settings) := by
  refine Action.Tandem.through (fun _ => Unmeters settings)
    (Action.tandem_modify fun left right unmeters => ?_) fun _ =>
      (Action.keeps_fetch parallel_unmeters).bind fun instruction =>
        Action.Tandem.through (fun _ => Unmeters settings)
          (Action.tandem_modify fun left right unmeters => ?_) fun _ =>
            Action.execute_tandem (carries_unmeters instruction)
  · exact unmeters_count _ _ unmeters
  · exact unmeters_count _ _ unmeters

/-! Steps and runs -/

theorem step_unmeters (machine : Machine) :
    machine.step.Unmeters machine.settings machine.unmetered.step := by
  have ran := cycle_unmeters machine machine.unmetered ⟨rfl, rfl⟩
  unfold step
  revert ran
  cases Action.cycle machine with
  | ok outcome after =>
      cases Action.cycle machine.unmetered with
      | error => exact False.elim
      | ok outcome' after' =>
          rintro ⟨rfl, rfl, same⟩
          cases outcome <;> exact ⟨rfl, same⟩
  | error fault after =>
      cases Action.cycle machine.unmetered with
      | ok => exact False.elim
      | error fault' after' =>
          rintro ⟨rfl, unmeters⟩
          obtain ⟨counted, same⟩ :=
            unmeters_count (·.noteDepth after.depth) (·.noteDepth after'.depth) unmeters
          exact ⟨congrArg ({ · with status := .trapped fault }) counted, same⟩

theorem run_unmeters (machine : Machine) (fuel : Nat) :
    (machine.run fuel).Unmeters machine.settings (machine.unmetered.run fuel) := by
  induction fuel generalizing machine with
  | zero => exact ⟨rfl, rfl⟩
  | succ fuel ih =>
      have idle : machine.unmetered.isRunning = machine.isRunning := rfl
      obtain ⟨stepped, same⟩ := machine.step_unmeters
      rw [run, run, idle, stepped]
      split
      · exact same ▸ ih _
      · exact ⟨rfl, rfl⟩

theorem ends_unmetered_iff :
    machine.unmetered.Ends final ↔
      ∃ metered, machine.Ends metered ∧ metered.Unmeters machine.settings final := by
  simp only [ends_iff_run]
  constructor
  · rintro ⟨fuel, rfl, idle⟩
    have unmeters := machine.run_unmeters fuel
    rw [unmeters.1] at idle
    exact ⟨machine.run fuel, ⟨fuel, rfl, idle⟩, unmeters⟩
  · rintro ⟨metered, ⟨fuel, rfl, idle⟩, rfl, -⟩
    exact ⟨fuel, (machine.run_unmeters fuel).1, idle⟩

theorem answers_unmetered_iff {limit : Option Nat} :
    machine.unmetered.Answers limit report final ↔
      ∃ metered, machine.Answers limit report metered ∧ metered.Unmeters machine.settings final := by
  cases limit with
  | some fuel =>
      simp only [answers_some_iff]
      have unmeters := machine.run_unmeters fuel
      have reports : (machine.unmetered.run fuel).report = (machine.run fuel).report := by
        rw [unmeters.1]
        rfl
      constructor
      · rintro ⟨rfl, rfl⟩
        exact ⟨machine.run fuel, ⟨reports, rfl⟩, unmeters⟩
      · rintro ⟨metered, ⟨rfl, rfl⟩, rfl, -⟩
        exact ⟨reports.symm, unmeters.1.symm⟩
  | none =>
      simp only [answers_none_iff, ends_unmetered_iff]
      constructor
      · rintro ⟨⟨metered, ends, rfl, same⟩, rfl⟩
        exact ⟨metered, ⟨ends, rfl⟩, rfl, same⟩
      · rintro ⟨metered, ⟨ends, rfl⟩, rfl, same⟩
        exact ⟨⟨metered, ends, rfl, same⟩, rfl⟩

theorem settings_answers (answers : machine.Answers limit report final) :
    final.settings = machine.settings := by
  cases answers with
  | limited fuel => exact (machine.run_unmeters fuel).2
  | unlimited ends =>
      obtain ⟨fuel, rfl, -⟩ := ends_iff_run.mp ends
      exact (machine.run_unmeters fuel).2

/-- Without its counters a machine serves the runs that it serves with them. -/
theorem serves_unmetered_iff :
    machine.unmetered.Serves (requests.filter (·.isRun)) notes final ↔
      ∃ metered, machine.Serves requests notes metered ∧
        metered.Unmeters machine.settings final := by
  induction requests generalizing machine notes with
  | nil =>
      simp only [List.filter_nil, serves_nil_iff]
      constructor
      · rintro ⟨rfl, rfl⟩
        exact ⟨machine, ⟨rfl, rfl⟩, rfl, rfl⟩
      · rintro ⟨metered, ⟨rfl, rfl⟩, rfl, -⟩
        exact ⟨rfl, rfl⟩
  | cons request requests ih =>
      cases request with
      | run limit =>
          rw [List.filter_cons_of_pos rfl]
          simp only [serves_run_iff, answers_unmetered_iff]
          constructor
          · rintro ⟨report, _, later, ⟨middle, answers, rfl, same⟩, rest, rfl⟩
            obtain ⟨metered, rest, unmeters⟩ := ih.mp rest
            exact ⟨metered, ⟨report, middle, later, answers, rest, rfl⟩, same ▸ unmeters⟩
          · rintro ⟨metered, ⟨report, middle, later, answers, rest, rfl⟩, unmeters⟩
            have same := settings_answers answers
            exact ⟨report, middle.unmetered, later, ⟨middle, answers, rfl, same⟩,
              ih.mpr ⟨metered, rest, same ▸ unmeters⟩, rfl⟩
      | meter metering =>
          have metered := @ih (machine.meter metering) notes
          rw [unmetered_meter, settings_meter] at metered
          rw [List.filter_cons_of_neg Bool.false_ne_true, metered]
          simp only [serves_meter_iff]

/-- A machine whose settings ask for no counters starts as others do, but for the counters. -/
theorem start_unmetered (program : Program) (args : List Value) (settings : Settings) :
    start program args { settings with collectCounters := false } =
      (start program args settings).map unmetered := by
  unfold start
  dsimp only
  cases (if settings.checkProgram then program.check else .ok ()).mapError StartError.rejected with
  | error defect => rfl
  | ok =>
      cases program.function? program.entry with
      | none => rfl
      | some unit =>
          dsimp only [bind, Except.bind]
          cases unit.arityCheck args with
          | error defect => rfl
          | ok =>
              cases (Arena.empty.alloc none).mapError StartError.noGlobals with
              | error fault => rfl
              | ok placed =>
                  dsimp only
                  cases ((Frame.new ⟨0⟩ program.entry unit.registerCount .entry
                    placed.1).withArguments args).mapError StartError.entryArgument <;> rfl

/-- Counters do not influence a machine. Whether it starts does not depend on them. If it is asked
for runs only and has no counters, its reports and its states are those of a machine that is asked
for the same runs and, before, between and after them, for anything about its counters. -/
theorem serves_unmetered (program : Program) (args : List Value) (settings : Settings) :
    start program args { settings with collectCounters := false } =
        (start program args settings).map unmetered ∧
      ∀ (machine final : Machine) (requests : List Request) (notes : List (Report × Machine)),
        machine.unmetered.Serves (requests.filter (·.isRun)) notes final ↔
          ∃ metered, machine.Serves requests notes metered ∧ final = metered.unmetered ∧
            metered.settings = machine.settings :=
  ⟨start_unmetered program args settings, fun _ _ _ _ => serves_unmetered_iff⟩

end Machine

end Backtrack
