import Backtrack.Proofs.Popped
import Backtrack.Proofs.Progress

/-!
The check of programs is sound. A run of a checked program whose arguments hold no coroutines never
stops with one of the faults that the check rules out. It stops at a container that is gone only
when a condition reaches a handler whose container was popped while the handler was installed.
-/

namespace Backtrack.Machine

variable {program : Program} {args : List Value} {settings : Settings} {initial machine : Machine}
  {fault : Fault}

/-- A condition reaches a handler whose container was popped after the handler was pushed. -/
inductive Strands (initial machine : Machine) : Prop
  | reached {code : Instruction} {cause : Cause} {id : CoroutineId} {coroutine : Coroutine}
      {handler : Handler} {outer : List Handler} {owner : Frame}
      (next : machine.instruction? = some code)
      (raises : (machine.fetched code).raised? code = some cause)
      (catches : (machine.fetched code).Catches id coroutine handler outer owner)
      (gone : handler.scope ∉ (machine.fetched code).arena.ancestry owner.scope)
      (popped : initial.Popped machine id handler outer) : Strands initial machine

theorem Stuck.strands {code : Instruction} {cause : Cause}
    (sound : machine.Sound) (sheltered : machine.Sheltered (initial.Popped machine))
    (next : machine.instruction? = some code)
    (raises : (machine.fetched code).raised? code = some cause)
    (stuck : (machine.fetched code).Stuck .deadContainer) : initial.Strands machine := by
  cases stuck with
  | @outside id coroutine handler outer owner catches gone =>
      have sheltered' : (machine.fetched code).Sheltered (initial.Popped machine) :=
        sheltered.fetched sound
      have topmost : coroutine.handlers = [] ++ handler :: outer := catches.installed
      have popped := (sheltered'.covered catches.found topmost catches.owned).resolve_right
        fun covers => gone covers.inside
      exact .reached next raises catches gone popped

theorem Reaches.trapped (checked : program.check = .ok ())
    (bounded : ∀ value ∈ args, value.Bounded 0)
    (started : start program args settings = .ok initial) (reaches : initial.Reaches machine)
    (running : machine.isRunning = true) (trapped : machine.step.status = .trapped fault) :
    fault.internal = false ∧ (fault = .deadContainer → initial.Strands machine) := by
  have reachable : Reachable program args settings machine := ⟨initial, started, reaches⟩
  have sound := reachable.sound running
  obtain ⟨code, next, faults⟩ :=
    (reachable.poised checked bounded running).faults checked sound running trapped
  rcases faults with benign | ⟨rfl, stuck, cause, raises⟩
  · exact ⟨benign.1 (.inl rfl), fun dead => absurd dead benign.2⟩
  · exact ⟨rfl, fun _ => stuck.strands sound (reaches.sheltered started running) next raises⟩

/-- The entry function leaves the container of a handler and raises. -/
def strandingProgram : Program :=
  { Program.empty with
    functions := #[
      { name := "main", registerCount := 0, parameterCount := 0, parameters := []
        code := #[.pushScope, .pushCatch 3 none, .popScope, .noSolution] }]
    functionIndex := .ofList [("main", FunctionId.mk 0)] }

theorem trapped_stranding :
    ∃ initial, start strandingProgram [] .standard = .ok initial ∧
      (initial.run 3).step.status = .trapped .deadContainer ∧ initial.Strands (initial.run 3) := by
  have runs : (match start strandingProgram [] .standard with
      | .ok initial => decide ((initial.run 3).isRunning = true ∧
          (initial.run 3).step.status = .trapped .deadContainer)
      | .error _ => false) = true := by decide +kernel
  split at runs
  · next initial started =>
      obtain ⟨running, trapped⟩ := of_decide_eq_true runs
      have checked : strandingProgram.check = .ok () := by decide +kernel
      exact ⟨initial, started, trapped,
        (Reaches.trapped checked (by simp) started (reaches_run 3) running trapped).2 rfl⟩
  · cases runs

end Backtrack.Machine
