import Backtrack.Proofs.Bounded
import Backtrack.Proofs.Turns

/-!
What a call does. It pushes the frame of a function on the current coroutine, with the arguments in
its first registers and in a new container under the global one, or it changes nothing because there
is no room for a frame or a container.
-/

namespace Backtrack

namespace Machine

/-- The machine in which an activation of a function has begun. -/
def called (machine : Machine) (function : FunctionId) (registers : Array (Option Value))
    (dst : Option Reg) : Machine :=
  { machine with
    arena := (machine.arena.place (some machine.globals)).2
    nextFrame := machine.nextFrame + 1 }.updateCoroutine machine.current
      (·.pushFrame (.initial ⟨machine.nextFrame⟩ function registers (.callee dst)
        (machine.arena.place (some machine.globals)).1))

/-- The machine after a call with arguments. -/
def CallsWith (machine : Machine) (function : FunctionId) (args : List Value) (dst : Option Reg)
    (after : Machine) : Prop :=
  ∃ unit registers, machine.program.function? function = some unit ∧
    (Frame.new ⟨machine.nextFrame⟩ function unit.registerCount (.callee dst)
      (machine.arena.place (some machine.globals)).1).withArguments args =
        .ok (.initial ⟨machine.nextFrame⟩ function registers (.callee dst)
          (machine.arena.place (some machine.globals)).1) ∧
    after = machine.called function registers dst

/-- There is no room for a frame or for its container. -/
def Crowded (machine : Machine) (fault : Fault) : Prop :=
  fault = .frameLimit machine.settings.maxFrames ∧ machine.settings.maxFrames ≤ machine.depth ∨
    fault = .arenaFull ∧ machine.arena.hasRoom = false

/-- Arguments that a call of a function can pass. -/
def Admits (machine : Machine) (function : FunctionId) (args : List Value) : Prop :=
  ∃ unit, machine.program.function? function = some unit ∧ unit.parameterCount = args.length ∧
    unit.parameterCount ≤ unit.registerCount

end Machine

namespace Action

open Machine

variable {machine : Machine} {function : FunctionId} {values : List Value} {dst : Option Reg}
  {caller : Frame} {args : List Reg} {name : SymbolId}

theorem pushCall_calls (active : machine.active? = some caller) :
    (pushCall function values dst).Leads machine (fun _ => machine.CallsWith function values dst)
      fun fault after => machine.Admits function values → after = machine ∧ machine.Crowded fault := by
  obtain ⟨coroutine, current, top⟩ := Option.bind_eq_some_iff.mp active
  simp only [pushCall, leads_bind, leads_get, leads_coroutine, leads_ensure]
  refine ⟨fun current' found => ⟨fun _ => ?_, fun deep _ => ⟨trivial, .inl ⟨rfl, ?depth⟩⟩⟩,
    fun missing => absurd (current.symm.trans missing) (by simp)⟩
  case depth =>
    rw [depth, found]
    exact Nat.le_of_not_lt deep
  refine leads_newFrame ?unknown ?arity ?full ?argument ?begun
  case unknown =>
    rintro unknown ⟨unit, found, -⟩
    exact absurd (found.symm.trans unknown) (by simp)
  case arity =>
    rintro unit found differ ⟨unit', found', counted, -⟩
    cases Option.some.inj (found.symm.trans found')
    exact absurd counted differ
  case full => exact fun full _ => ⟨rfl, .inr ⟨rfl, eq_false_of_ne_true full⟩⟩
  case argument =>
    rintro unit found counted id scope fault failed ⟨unit', found', -, fits⟩
    cases Option.some.inj (found.symm.trans found')
    refine absurd failed (Frame.withArguments_fits ?_)
    rw [← counted]
    simpa [Frame.new] using fits
  case begun =>
    intro unit registers found _ _ passed
    exact ⟨unit, registers, found, passed, rfl⟩

/-- An overloaded call that finds a candidate is a call of it, save for counting. -/
theorem call_overloaded_calls (active : machine.active? = some caller)
    (passed : caller.readAll args = .ok values)
    (selected : machine.program.select
      ((machine.arena.resolve caller.scope name).getD (.empty name)) values = .ok function) :
    ∃ counters, (call dst (.overloaded name) args).Leads machine
      (fun outcome after => outcome = .proceed ∧
        { machine with counters }.CallsWith function values dst after)
      fun fault after => { machine with counters }.Admits function values →
        after = { machine with counters } ∧ { machine with counters }.Crowded fault := by
  obtain ⟨counters, counted⟩ := machine.count_eq fun counters =>
    { counters with candidatesTried := counters.candidatesTried +
      ((machine.arena.resolve caller.scope name).getD (.empty name)).tried (some function) }
  refine ⟨counters, ?_⟩
  simp only [call, leads_bind, leads_frame_active active, leads_ofExcept, leads_get, passed,
    Except.ok.injEq, forall_eq', reduceCtorEq, false_implies, implies_true, and_true, selected,
    countTried, leads_count, counted, leads_pure, true_and]
  exact pushCall_calls active

end Action

end Backtrack
