import Backtrack.Proofs.Persistence

/-!
What a step leaves behind, however it ends. A step consists of effects of its instruction, and then
the machine goes on, or has an uncaught condition; or the root ends; or the instruction breaks off.
In each case the handles of containers age, and no coroutine goes.
-/

namespace Backtrack

namespace Machine

/-- What becomes of a machine with an instruction, up to its status. -/
inductive Becomes (code : Instruction) (machine : Machine) : Machine → Prop
  | evolves {after : Machine} (evolves : machine.Evolves code after) : Becomes code machine after
  /-- The root ends. -/
  | ends {middle : Machine} {coroutine : Coroutine} {frame : Frame}
      (fetched : middle = machine.fetched code)
      (current : middle.coroutine? middle.current = some coroutine)
      (active : coroutine.active? = some frame) :
      Becomes code machine ({ middle with
        arena := middle.arena.vacate middle.globals frame }.updateCoroutine middle.current
          (·.popFrame))
  | breaks {after : Machine} (breaks : machine.Breaks code after) : Becomes code machine after

variable {code : Instruction} {before after machine origin : Machine} {id : CoroutineId}

/-- The instruction of a step. Where there is none to fetch, any other does as well. -/
def Executes (machine : Machine) (code : Instruction) : Prop :=
  machine.instruction? = some code ∨ machine.instruction? = none ∧ code = .jump 0

/-- Only the root ends a run with a value, and it takes its containers with it. -/
theorem step_done {value : Value} (sound : machine.Sound) (running : machine.isRunning = true)
    (done : machine.step.status = .done value) :
    ∃ code coroutine frame, machine.instruction? = some code ∧
      (machine.fetched code).current = .root ∧
      (machine.fetched code).coroutine? (machine.fetched code).current = some coroutine ∧
      coroutine.active? = some frame ∧
      machine.step = { { machine.fetched code with
        arena := (machine.fetched code).arena.vacate (machine.fetched code).globals frame
        }.updateCoroutine (machine.fetched code).current (·.popFrame) with
          status := .done value } := by
  rcases step_turns sound with ⟨code, outcome, after, next, turns, same⟩ | ⟨fault, trapped⟩
  · rw [same] at done
    cases outcome with
    | done =>
        cases done
        cases turns with
        | ends root current active => exact ⟨code, _, _, next, root, current, active, same⟩
        | raises raises unwound => cases unwound
    | proceed =>
        have goesOn := (turns.status.trans status_fetched).trans (of_decide_eq_true running)
        exact absurd (goesOn.symm.trans done) nofun
    | uncaught => cases done
  · exact absurd (done.symm.trans trapped) nofun

theorem step_becomes (sound : machine.Sound) (running : machine.isRunning = true) :
    ∃ code after counters status, machine.Executes code ∧ machine.Becomes code after ∧
      machine.step = { after with counters, status } := by
  have broken {fault : Fault} (trapped : machine.step.status = .trapped fault) :
      ∃ code after counters status, machine.Executes code ∧ machine.Becomes code after ∧
        machine.step = { after with counters, status } := by
    obtain ⟨after, counters, -, stopped, breaks⟩ := step_breaks sound.enabled running trapped
    cases next : machine.instruction? with
    | some code =>
        exact ⟨code, after, counters, _, .inl next, .breaks (breaks code (.inl next)), stopped⟩
    | none =>
        exact ⟨.jump 0, after, counters, _, .inr ⟨next, rfl⟩, .breaks (breaks _ (.inr next)), stopped⟩
  rcases step_cases sound.enabled with ⟨code, next, evolves | stops⟩ | ⟨value, done⟩ | ⟨_, trapped⟩
  · exact ⟨code, machine.step, _, _, .inl next, .evolves evolves, rfl⟩
  · obtain ⟨after, condition, evolves, stopped⟩ := stops
    exact ⟨code, after, _, _, .inl next, .evolves evolves, stopped⟩
  · obtain ⟨code, _, _, next, _, current, active, same⟩ := step_done sound running done
    exact ⟨code, _, _, _, .inl next, .ends rfl current active, same⟩
  · exact broken trapped

/-! Handles -/

theorem breaks_ages (sound : before.Sound) (breaks : before.Breaks code after) :
    before.arena.Ages after.arena := by
  cases breaks with
  | between soFar | unswitched _ soFar | unbalanced soFar | outside soFar => exact soFar.ages
  | placed soFar => exact soFar.ages.trans Arena.place_ages
  | withdrawn soFar => exact soFar.ages.trans (Arena.place_ages.trans Arena.release_ages)
  | stale soFar active inScope gone => exact (sound.not_stale soFar active inScope gone).elim
  | orphaned soFar current inner alone =>
      exact (sound.not_orphaned soFar current inner alone).elim

theorem Becomes.ages (becomes : machine.Becomes code after) (sound : machine.Sound) :
    machine.arena.Ages after.arena := by
  cases becomes with
  | evolves evolves => exact evolves.ages
  | ends fetched =>
      have soFar : machine.Evolves code (machine.fetched code) := fetched_evolves
      subst fetched
      exact soFar.ages.trans Arena.releaseAll_ages
  | breaks breaks => exact breaks_ages sound breaks

/-- No step takes back that a slot was freed. -/
theorem step_ages (sound : machine.Sound) (running : machine.isRunning = true) :
    machine.arena.Ages machine.step.arena := by
  obtain ⟨code, after, _, _, -, becomes, same⟩ := step_becomes sound running
  have ages := becomes.ages sound
  rw [same]
  exact ages

/-! Coroutines -/

theorem effect_size (effect : Effect code before after) :
    before.coroutines.size ≤ after.coroutines.size := by
  cases effect with
  | create | copy =>
      rw [Array.size_push]
      exact Nat.le_succ _
  | compute | pushScope | popScope | call | «return» | finish | enter | yield | pushHandler
  | popHandler | abandon => exact Nat.le_of_eq size_updateCoroutine.symm
  | «catch» =>
      refine Nat.le_of_eq (Eq.trans ?_ size_updateCoroutine.symm)
      exact size_updateCoroutine.symm
  | _ => exact Nat.le_refl _

theorem evolves_size (evolves : before.Evolves code after) :
    before.coroutines.size ≤ after.coroutines.size := by
  induction evolves with
  | refl => exact Nat.le_refl _
  | tail _ effect ih => exact Nat.le_trans ih (effect_size effect)

theorem breaks_size (sound : before.Sound) (breaks : before.Breaks code after) :
    before.coroutines.size ≤ after.coroutines.size := by
  cases breaks with
  | between soFar | placed soFar | withdrawn soFar =>
      have grown := evolves_size soFar
      exact grown
  | unswitched _ soFar =>
      have grown := evolves_size soFar
      exact grown
  | unbalanced soFar | outside soFar =>
      rw [size_updateCoroutine]
      exact evolves_size soFar
  | stale soFar active inScope gone => exact (sound.not_stale soFar active inScope gone).elim
  | orphaned soFar current inner alone =>
      exact (sound.not_orphaned soFar current inner alone).elim

theorem Becomes.size (becomes : machine.Becomes code after) (sound : machine.Sound) :
    machine.coroutines.size ≤ after.coroutines.size := by
  cases becomes with
  | evolves evolves => exact evolves_size evolves
  | ends fetched =>
      subst fetched
      have soFar : machine.Evolves code (machine.fetched code) := fetched_evolves
      have grown := evolves_size soFar
      rw [size_updateCoroutine]
      exact grown
  | breaks breaks => exact breaks_size sound breaks

theorem step_size (sound : machine.Sound) (running : machine.isRunning = true) :
    machine.coroutines.size ≤ machine.step.coroutines.size := by
  obtain ⟨code, after, _, _, -, becomes, same⟩ := step_becomes sound running
  have grown := becomes.size sound
  rw [same]
  exact grown

/-! Runs -/

section Run

variable {program : Program} {args : List Value} {settings : Settings}

theorem Reaches.ages (reachable : Reachable program args settings origin)
    (reaches : origin.Reaches machine) : origin.arena.Ages machine.arena := by
  induction reaches with
  | refl => exact .refl
  | tail reached moves ih =>
      cases moves with
      | step ran => exact ih.trans (step_ages ((reachable.further reached).sound ran) ran)
      | collect | reset => exact ih

/-- A coroutine that was created stays. -/
theorem Reaches.size (reachable : Reachable program args settings origin)
    (reaches : origin.Reaches machine) : origin.coroutines.size ≤ machine.coroutines.size := by
  induction reaches with
  | refl => exact Nat.le_refl _
  | tail reached moves ih =>
      cases moves with
      | step ran => exact Nat.le_trans ih (step_size ((reachable.further reached).sound ran) ran)
      | collect | reset => exact ih

end Run

end Machine

end Backtrack
