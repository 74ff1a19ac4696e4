import Backtrack.Proofs.Progress

/-!
Conditions in runs of checked programs. Whatever instruction raises a condition, and wherever the
run has got to, the condition ends in one of three ways: the topmost handler of the first coroutine
that has any catches it, it leaves the whole machine because no coroutine has one, or it stops the
machine because the container of that handler is gone.
-/

namespace Backtrack.Machine

variable {program : Program} {args : List Value} {settings : Settings} {machine : Machine}
  {code : Instruction} {cause : Cause}

/-- The machine that a condition leads to. -/
inductive Resolved (before : Machine) (condition : Condition) (after : Machine) : Prop
  | caught {id : CoroutineId} {coroutine : Coroutine} {handler : Handler} {outer : List Handler}
      {owner : Frame} (catches : before.Catches id coroutine handler outer owner)
      (inScope : handler.scope ∈ before.arena.ancestry owner.scope)
      (running : after.isRunning = true)
      (caught : before.Caught condition.value id coroutine handler outer owner after)
  | escaped {stopped : Machine} (uncaught : before.catcher? = none)
      (escaped : before.Escaped stopped)
      (stops : after = { stopped with status := .uncaught condition })
  | stranded {id : CoroutineId} {coroutine : Coroutine} {handler : Handler} {outer : List Handler}
      {owner : Frame} (catches : before.Catches id coroutine handler outer owner)
      (gone : handler.scope ∉ before.arena.ancestry owner.scope)
      (stops : after.status = .trapped .deadContainer)

/-- A condition that is raised is resolved in one step. -/
theorem Reachable.resolved (checked : program.check = .ok ())
    (reachable : Reachable program args settings machine) (running : machine.isRunning = true)
    (next : machine.instruction? = some code)
    (raises : (machine.fetched code).raised? code = some cause) :
    (machine.fetched code).Resolved ⟨cause, (machine.fetched code).trace⟩ machine.step := by
  obtain ⟨strays, bounded⟩ :=
    Value.exists_bounded_list fun value (_ : value ∈ args) => value.exists_bounded
  have sound := reachable.sound running
  have poised := reachable.poised checked bounded running
  have typed : (machine.fetched code).Typed program strays := poised.fetched_typed sound
  have leads := Action.execute_raise_leads sound.fetched raises
  unfold Action.Leads at leads
  unfold Machine.step
  rw [cycle_eq next]
  split at leads
  · next outcome after ended =>
      rw [ended]
      cases leads with
      | caught catches inScope caught =>
          refine .caught catches inScope ?_ caught
          obtain ⟨_, _, _, _, _, same⟩ := caught.ground
          have evolves : machine.Evolves code (machine.fetched code) := fetched_evolves
          simp only [same, isRunning, evolves.status]
          exact running
      | escaped uncaught escaped => exact .escaped uncaught escaped rfl
  · next fault after faulted =>
      rw [faulted]
      cases leads with
      | outside catches gone => exact .stranded catches gone rfl
      | unreceived catches wanted missing =>
          exact absurd ((Stuck.unreceived catches wanted missing).outside_only typed) (by simp)

/-- A coroutine throws to a handler of the coroutine that entered it. -/
def throwingProgram : Program :=
  { Program.empty with
    functions := #[
      { name := "main", registerCount := 2, parameterCount := 0, parameters := []
        code := #[.createCoroutine 0 ⟨1⟩ [], .pushCatch 3 (some 1), .enterCoroutine none 0 none,
          .return 1] },
      { name := "inner", registerCount := 1, parameterCount := 0, parameters := []
        code := #[.openRegion, .const 0 (.bool true), .throw 0] }]
    functionIndex := .ofList [("main", FunctionId.mk 0), ("inner", FunctionId.mk 1)] }

theorem resolved_throwing :
    ∃ initial, start throwingProgram [] .standard = .ok initial ∧
      (initial.run 5).instruction? = some (.throw 0) ∧
      (initial.run 6).status = .running ∧ (initial.run 7).status = .done (.bool true) ∧
      ((initial.run 5).fetched (.throw 0)).Resolved
        ⟨.thrown (.bool true), ((initial.run 5).fetched (.throw 0)).trace⟩ (initial.run 5).step := by
  have runs : (match start throwingProgram [] .standard with
      | .ok initial => decide ((initial.run 5).isRunning = true ∧
          (initial.run 5).instruction? = some (.throw 0) ∧
          ((initial.run 5).fetched (.throw 0)).raised? (.throw 0) = some (.thrown (.bool true)) ∧
          (initial.run 6).status = .running ∧ (initial.run 7).status = .done (.bool true))
      | .error _ => false) = true := by decide +kernel
  split at runs
  · next initial started =>
      obtain ⟨running, next, raises, goesOn, ends⟩ := of_decide_eq_true runs
      have checked : throwingProgram.check = .ok () := by decide +kernel
      exact ⟨initial, started, next, goesOn, ends,
        Reachable.resolved checked ⟨initial, started, reaches_run 5⟩ running next raises⟩
  · cases runs

end Backtrack.Machine
