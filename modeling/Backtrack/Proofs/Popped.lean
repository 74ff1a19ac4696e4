import Backtrack.Proofs.Sheltered

/-!
The history of handlers whose container is gone. In every run, whenever the container of an
installed handler is no longer on the chain of its frame, there was a step earlier in the run at
which that frame left the container with a `popScope`, and the handler has been installed ever
since.
-/

namespace Backtrack.Machine

variable {program : Program} {args : List Value} {settings : Settings}
  {initial machine before after : Machine} {id : CoroutineId} {handler : Handler}
  {outer : List Handler} {code : Instruction}

/-- A coroutine has a handler, with the given ones further out. -/
def Installed (machine : Machine) (id : CoroutineId) (handler : Handler) (outer : List Handler) :
    Prop :=
  ∃ coroutine, machine.coroutine? id = some coroutine ∧ handler :: outer <:+ coroutine.handlers

/-- The next instruction takes the frame of an installed handler out of the handler's container. -/
structure Leaves (machine : Machine) (id : CoroutineId) (handler : Handler)
    (outer : List Handler) : Prop where
  running : machine.isRunning = true
  next : machine.instruction? = some .popScope
  current : machine.current = id
  installed : machine.Installed id handler outer
  level : handler.depth = machine.depth - 1
  innermost : ∃ frame, machine.active? = some frame ∧ frame.scope = handler.scope

/-- A move that a handler outlasts. -/
def Retains (id : CoroutineId) (handler : Handler) (outer : List Handler)
    (before after : Machine) : Prop :=
  before.Moves after ∧ after.Installed id handler outer

/-- The container of a handler was popped and freed after the handler was pushed. -/
def Popped (initial machine : Machine) (id : CoroutineId) (handler : Handler)
    (outer : List Handler) : Prop :=
  ∃ earlier, initial.Reaches earlier ∧ earlier.Leaves id handler outer ∧
    earlier.step.arena.isLive handler.scope = false ∧
    earlier.step.Installed id handler outer ∧
    Relation.ReflTransGen (Retains id handler outer) earlier.step machine

theorem Popped.move (popped : initial.Popped before id handler outer) (moves : before.Moves after)
    (installed : after.Installed id handler outer) : initial.Popped after id handler outer := by
  obtain ⟨earlier, reached, leaves, freed, kept, onward⟩ := popped
  exact ⟨earlier, reached, leaves, freed, kept, onward.tail ⟨moves, installed⟩⟩

theorem Sheltered.mono {left left' : CoroutineId → Handler → List Handler → Prop}
    (sheltered : machine.Sheltered left)
    (more : ∀ {id handler outer}, machine.Installed id handler outer → left id handler outer →
      left' id handler outer) : machine.Sheltered left' := by
  refine ⟨fun found installed owned => ?_⟩
  refine (sheltered.covered found installed owned).imp_left fun gone => more ⟨_, found, ?_⟩ gone
  exact installed ▸ List.suffix_append _ _

/-- Any number of effects, none of which leaves a container. -/
theorem Sheltered.evolves {left : CoroutineId → Handler → List Handler → Prop}
    (sheltered : before.Sheltered left) (sound : before.Sound) (evolves : before.Evolves code after)
    (stays : code ≠ .popScope) : after.Sheltered left := by
  induction evolves with
  | refl => exact sheltered
  | tail soFar effect ih =>
      have sound' := sound.evolves soFar
      exact sheltered_effect sound'.linked sound'.housed ih effect fun leaving =>
        absurd leaving stays

theorem Sheltered.fetched {left : CoroutineId → Handler → List Handler → Prop}
    (sheltered : machine.Sheltered left) (sound : machine.Sound) :
    (machine.fetched code).Sheltered left := by
  have evolves : machine.Evolves .noSolution (machine.fetched code) := fetched_evolves
  exact sheltered.evolves sound evolves nofun

/-- The active frame leaves its innermost container. -/
theorem step_popScope (sound : machine.Sound) (next : machine.instruction? = some .popScope)
    (running : machine.step.isRunning = true) :
    ∃ frame parent, (machine.fetched .popScope).active? = some frame ∧
      frame.scope ≠ frame.base ∧
      (machine.fetched .popScope).arena.parent? frame.scope = some parent ∧
      machine.step = { machine.fetched .popScope with
        arena := (machine.fetched .popScope).arena.release frame.scope }.updateFrame
          (machine.fetched .popScope).current ({ · with scope := parent }) := by
  have fetched : (machine.fetched .popScope).Sound := sound.fetched
  obtain ⟨-, frame, -, -, active⟩ := fetched.active
  have leads : (Action.execute .popScope).Leads (machine.fetched .popScope)
      (fun outcome after => outcome = .proceed ∧ frame.scope ≠ frame.base ∧
        ∃ parent, (machine.fetched .popScope).arena.parent? frame.scope = some parent ∧
          after = { machine.fetched .popScope with
            arena := (machine.fetched .popScope).arena.release frame.scope }.updateFrame
              (machine.fetched .popScope).current ({ · with scope := parent }))
      fun _ _ => True := by
    simp only [Action.execute, Action.thenProceed, Action.popScope, Action.leads_bind,
      Action.leads_frame_active active, Action.leads_ensure, Action.leads_get, Action.leads_pure]
    refine ⟨fun inner => ?_, fun _ => trivial⟩
    split
    · trivial
    · next parent enclosed =>
        simp only [Action.leads_bind, Action.leads_releaseContainer, Action.leads_updateFrame]
        exact ⟨trivial, inner, parent, enclosed, rfl⟩
  unfold Action.Leads at leads
  rw [← cycle_eq next] at leads
  unfold Machine.step at running ⊢
  split at leads
  · next outcome after ended =>
      obtain ⟨rfl, inner, parent, enclosed, same⟩ := leads
      rw [ended]
      exact ⟨frame, parent, active, inner, enclosed, same⟩
  · next fault after faulted =>
      rw [faulted] at running
      simp [isRunning] at running

/-- What was about to be left has been left. -/
theorem Leaves.popped {frame : Frame} {parent : ContainerId}
    (leaves : machine.Leaves id handler outer) (reached : initial.Reaches machine)
    (active : (machine.fetched .popScope).active? = some frame)
    (same : machine.step = { machine.fetched .popScope with
      arena := (machine.fetched .popScope).arena.release frame.scope }.updateFrame
        (machine.fetched .popScope).current ({ · with scope := parent }))
    (installed : machine.step.Installed id handler outer) :
    initial.Popped machine.step id handler outer := by
  refine ⟨machine, reached, leaves, ?_, installed, .refl⟩
  obtain ⟨frame', active', scope⟩ := leaves.innermost
  cases Option.some.inj (active.symm.trans (active?_fetched active'))
  have released : machine.step.arena =
      (machine.fetched .popScope).arena.release handler.scope := by
    rw [same, ← scope]
    rfl
  rw [released, Arena.isLive, Arena.get?_release, if_pos rfl]
  rfl

/-- A step leaves no container of a handler but in the way that the history tells. -/
theorem Sheltered.step (sheltered : machine.Sheltered (initial.Popped machine))
    (sound : machine.Sound) (reached : initial.Reaches machine)
    (running : machine.isRunning = true) (running' : machine.step.isRunning = true) :
    machine.step.Sheltered (initial.Popped machine.step) := by
  by_cases leaving : machine.instruction? = some .popScope
  · obtain ⟨frame, parent, active, inner, enclosed, same⟩ := step_popScope sound leaving running'
    have stays : (machine.fetched .popScope).Sheltered fun id handler outer =>
        initial.Popped machine id handler outer ∨ machine.Leaves id handler outer :=
      (sheltered.mono fun _ popped => .inl popped).fetched sound
    have effect : Effect .popScope (machine.fetched .popScope) machine.step :=
      same ▸ .popScope rfl active inner enclosed
    refine (sheltered_effect sound.fetched.linked sound.fetched.housed stays effect
      fun _ {coroutine frame' front handler outer} found top installed level scope =>
        .inr ?_).mono fun installed gone => ?_
    · obtain ⟨earlier, stood, current, active', same'⟩ := sound.active
      rw [coroutine?_fetched current, current_fetched, replace_same] at found
      cases found
      rw [current_fetched]
      have depth : machine.depth = earlier.depth := by
        rw [Machine.depth, current]
        rfl
      refine ⟨running, leaving, rfl, ⟨earlier, current, installed ▸ List.suffix_append _ _⟩, ?_,
        stood, same', ?_⟩
      · rw [level, depth, Coroutine.depth, Coroutine.updateActive, Stack.size_modifyTop]
        rfl
      · obtain ⟨below, stacked⟩ := List.head?_eq_some_iff.mp active'
        simp only [Coroutine.active?, Coroutine.updateActive, Stack.top?, Stack.items_modifyTop,
          stacked, List.modifyHead_cons, List.head?_cons, Option.some.injEq] at top
        rw [scope, ← top]
    · rcases gone with popped | leaves
      · exact popped.move (.step running) installed
      · exact leaves.popped reached active same installed
  · rcases step_cases sound.enabled with ⟨code, next, evolves | stops⟩ | ⟨value, stops⟩ |
      ⟨fault, stops⟩
    · have other : code ≠ .popScope := by
        rintro rfl
        exact leaving next
      exact (sheltered.evolves sound evolves other).mono fun installed popped =>
        popped.move (.step running) installed
    · obtain ⟨after, condition, -, same⟩ := stops
      simp [same, isRunning] at running'
    · simp [stops, isRunning] at running'
    · simp [stops, isRunning] at running'

/-- The history of every run accounts for the handlers whose container is gone. -/
theorem Reaches.sheltered (started : start program args settings = .ok initial)
    (reaches : initial.Reaches machine) (running : machine.isRunning = true) :
    machine.Sheltered (initial.Popped machine) := by
  induction reaches with
  | refl =>
      obtain ⟨unit, registers, -, -, -, -, rfl⟩ := start_eq started
      refine ⟨fun found installed => ?_⟩
      obtain ⟨-, rfl⟩ := eq_of_alone found
      simp [Coroutine.root, Coroutine.new] at installed
  | @tail earlier later reaches moves ih =>
      cases moves with
      | collect collecting =>
          have sheltered := ih running
          have same : (earlier.collectCounters collecting).Sheltered (initial.Popped earlier) :=
            ⟨sheltered.covered⟩
          exact same.mono fun installed popped => popped.move (.collect collecting) installed
      | reset =>
          have sheltered := ih running
          have same : earlier.resetCounters.Sheltered (initial.Popped earlier) :=
            ⟨sheltered.covered⟩
          exact same.mono fun installed popped => popped.move .reset installed
      | step ran =>
          exact (ih ran).step (Reachable.sound ⟨initial, started, reaches⟩ ran) reaches ran running

end Backtrack.Machine
