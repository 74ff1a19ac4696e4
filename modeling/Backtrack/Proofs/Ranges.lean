import Backtrack.Proofs.Outcomes
import Backtrack.Proofs.Strict

/-!
Ranges that hold without a check of the program. The handlers of a coroutine belong to frames that
it has, those pushed last to the topmost, and were pushed one after the other; the current coroutine
has a frame; the free slots of the arena are slots without a container, each listed once. So nothing
that a machine takes for granted about indices, slices and differences ever fails, whatever its
program and its arguments are and wherever a fault stopped it.
-/

namespace Backtrack

namespace Arena

variable {arena : Arena}

/-- There are no more free slots than slots. -/
theorem free_le (sound : arena.Sound) : arena.free.size ≤ arena.slots.size := by
  have listed : arena.free.items ⊆ List.range arena.slots.size := by
    intro index member
    obtain ⟨slot, stored, -⟩ := (sound.vacant index).mp member
    exact List.mem_range.mpr (Array.getElem?_eq_some_iff.mp stored).1
  simpa [arena.free.size_eq] using sound.distinct.length_le_of_subset listed

end Arena

/-- The handlers of a coroutine, the one pushed last first. -/
structure Coroutine.Guarded (coroutine : Coroutine) (nextSerial : Nat) : Prop where
  owned : ∀ handler ∈ coroutine.handlers, handler.depth < coroutine.depth
  depths : coroutine.handlers.Pairwise fun inner outer => outer.depth ≤ inner.depth
  serials : coroutine.handlers.Pairwise fun inner outer => outer.regionSerial ≤ inner.regionSerial
  opened : ∀ handler ∈ coroutine.handlers, handler.regionSerial ≤ nextSerial

namespace Machine

variable {machine before after : Machine} {code : Instruction} {id target : CoroutineId}
  {coroutine : Coroutine}

/-! Handlers were pushed one after the other. -/

def Ascending (machine : Machine) : Prop :=
  ∀ id coroutine, machine.coroutine? id = some coroutine →
    (coroutine.handlers.Pairwise fun inner outer => outer.regionSerial ≤ inner.regionSerial) ∧
      ∀ handler ∈ coroutine.handlers, handler.regionSerial ≤ machine.nextSerial

/-- Where the handlers of a coroutine come from: they are left of those that it had, or there are
none, or one of them is pushed. -/
inductive Handles (before : Machine) (id : CoroutineId) (handlers : List Handler) : Prop
  | left (shrinks : ∃ earlier, before.coroutine? id = some earlier ∧
      handlers.Sublist earlier.handlers)
  | none (bare : handlers = [])
  | pushed {earlier : Coroutine} {handler : Handler} (found : before.coroutine? id = some earlier)
      (now : handler.regionSerial = before.nextSerial)
      (top : handlers = handler :: earlier.handlers)

theorem Handles.same (found : machine.coroutine? id = some coroutine) :
    machine.Handles id coroutine.handlers :=
  .left ⟨coroutine, found, List.Sublist.refl _⟩

theorem shrinks_update {change : Coroutine → Coroutine}
    (found : (machine.updateCoroutine target change).coroutine? id = some coroutine)
    (fewer : ∀ earlier, machine.coroutine? target = some earlier →
      (change earlier).handlers.Sublist earlier.handlers) :
    ∃ earlier, machine.coroutine? id = some earlier ∧
      coroutine.handlers.Sublist earlier.handlers := by
  rw [coroutine?_updateCoroutine] at found
  split at found
  · next same =>
      obtain ⟨earlier, stood, rfl⟩ := Option.map_eq_some_iff.mp found
      exact ⟨earlier, stood, fewer earlier (same ▸ stood)⟩
  · exact ⟨coroutine, found, List.Sublist.refl _⟩

/-- The frame that goes on is changed after the frames above it are cut off. -/
theorem shrinks_caught {earlier : Coroutine} {handler : Handler} {outer : List Handler}
    {change : Frame → Frame} (current : machine.coroutine? machine.current = some earlier)
    (installed : earlier.handlers = handler :: outer)
    (found : ((machine.updateCoroutine machine.current (·.caught handler outer)).updateFrame
      machine.current change).coroutine? id = some coroutine) :
    ∃ earlier, machine.coroutine? id = some earlier ∧
      coroutine.handlers.Sublist earlier.handlers := by
  obtain ⟨middle, found', fewer⟩ := shrinks_update found fun _ _ => List.Sublist.refl _
  obtain ⟨first, stood, fewer'⟩ := shrinks_update found' fun other current' => by
    cases Option.some.inj (current.symm.trans current')
    rw [installed]
    exact List.sublist_cons_self ..
  exact ⟨first, stood, fewer.trans fewer'⟩

theorem handles_push {added : Coroutine} (bare : added.handlers = [])
    (found : { machine with coroutines := machine.coroutines.push added }.coroutine? id =
      some coroutine) : machine.Handles id coroutine.handlers := by
  rw [coroutine?_push, replace] at found
  split at found
  · cases found
    exact .none bare
  · exact .same found

theorem effect_handles (effect : Effect code before after)
    (found : after.coroutine? id = some coroutine) : before.Handles id coroutine.handlers := by
  cases effect with
  | count | intern | bindVar | bindCandidates | openRegion | commitRegion | rollbackRegion
  | undoAll => exact .same found
  | compute | pushScope | popScope | call => exact .left (shrinks_update found fun _ _ => .refl _)
  | «return» | finish => exact .left (shrinks_update found fun _ _ => List.filter_sublist)
  | create | copy => exact handles_push rfl found
  | enter dst out active stood | yield stood =>
      refine .left (shrinks_update found fun earlier stood' => ?_)
      cases Option.some.inj (stood.symm.trans stood')
      exact .refl _
  | pushHandler target dst current =>
      rw [coroutine?_updateCoroutine] at found
      split at found
      · obtain ⟨earlier, stood, rfl⟩ := Option.map_eq_some_iff.mp found
        exact .pushed stood rfl rfl
      · exact .same found
  | popHandler current installed =>
      refine .left (shrinks_update found fun earlier current' => ?_)
      cases Option.some.inj (current.symm.trans current')
      rw [installed]
      exact List.sublist_cons_self ..
  | abandon => exact .left (shrinks_update found fun _ _ => List.nil_sublist _)
  | «catch» current installed => exact .left (shrinks_caught current installed found)

theorem ascending_effect (ascending : before.Ascending) (effect : Effect code before after) :
    after.Ascending := by
  intro id coroutine found
  have later : before.nextSerial ≤ after.nextSerial := by
    cases effect with
    | openRegion => exact Nat.le_succ _
    | _ => exact Nat.le_refl _
  cases effect_handles effect found with
  | left shrinks =>
      obtain ⟨earlier, found, fewer⟩ := shrinks
      obtain ⟨sorted, opened⟩ := ascending id earlier found
      exact ⟨sorted.sublist fewer, fun handler member =>
        Nat.le_trans (opened handler (fewer.subset member)) later⟩
  | none bare =>
      rw [bare]
      exact ⟨.nil, nofun⟩
  | pushed found now top =>
      obtain ⟨sorted, opened⟩ := ascending id _ found
      rw [top]
      refine ⟨.cons (fun outer member => now ▸ opened outer member) sorted, ?_⟩
      rintro handler member
      rcases List.mem_cons.mp member with rfl | earlier
      · exact now ▸ later
      · exact Nat.le_trans (opened handler earlier) later

section Reachable

variable {program : Program} {args : List Value} {settings : Settings}

theorem Reachable.ascending (reachable : Reachable program args settings machine)
    (running : machine.isRunning = true) : machine.Ascending := by
  refine (reachable.induction Ascending running ?_ (fun _ _ _ ascending => ascending)
    fun _ _ _ => ascending_effect).2
  intro initial started id coroutine found
  obtain ⟨unit, registers, -, -, -, -, rfl⟩ := start_eq started
  obtain ⟨-, rfl⟩ := eq_of_alone found
  exact ⟨.nil, nofun⟩

/-! The arena is sound even where a fault stopped the machine. -/

theorem Becomes.arena_sound (becomes : machine.Becomes code after) (sound : machine.Sound) :
    after.arena.Sound := by
  have kept {middle : Machine} (soFar : machine.Evolves code middle) : middle.arena.Sound :=
    Backtrack.Housed.sound (sound.evolves soFar).housed
  cases becomes with
  | evolves evolves => exact kept evolves
  | ends fetched =>
      subst fetched
      exact Arena.releaseAll_sound (kept fetched_evolves)
  | breaks breaks =>
      cases breaks with
      | between soFar => exact kept soFar
      | unswitched _ soFar | unbalanced soFar | outside soFar =>
          have same := kept soFar
          exact same
      | placed soFar => exact Arena.place_sound (kept soFar)
      | withdrawn soFar => exact Arena.release_sound (Arena.place_sound (kept soFar))
      | stale soFar active inScope gone => exact (sound.not_stale soFar active inScope gone).elim
      | orphaned soFar current inner alone =>
          exact (sound.not_orphaned soFar current inner alone).elim

theorem Reachable.arena_sound (reachable : Reachable program args settings machine) :
    machine.arena.Sound := by
  obtain ⟨initial, started, reaches⟩ := reachable
  induction reaches with
  | refl =>
      obtain ⟨unit, registers, -, -, -, -, rfl⟩ := start_eq started
      exact Arena.place_sound Arena.empty_sound
  | @tail earlier later reached moves ih =>
      cases moves with
      | collect | reset => exact ih
      | step running =>
          have sound := Reachable.sound ⟨initial, started, reached⟩ running
          obtain ⟨code, after, _, _, -, becomes, same⟩ := step_becomes sound running
          rw [same]
          exact becomes.arena_sound sound

theorem Reachable.strictRun (reachable : Reachable program args settings machine) (fuel : Nat) :
    Strict.run fuel machine = some (machine.run fuel) := by
  induction fuel generalizing machine with
  | zero => rfl
  | succ fuel ih =>
      rw [Strict.run, run]
      split
      · next running =>
          rw [Strict.step_eq reachable.arena_sound, Option.bind_some]
          exact ih (reachable.further (.single (.step running)))
      · rfl

/-- Nothing that a machine takes for granted about ranges fails. -/
structure InBounds (machine : Machine) : Prop where
  /-- No index, slice or difference is out of range in the course of any instruction. -/
  runs (fuel : Nat) : Strict.run fuel machine = some (machine.run fuel)
  guarded (running : machine.isRunning = true) {id : CoroutineId} {coroutine : Coroutine}
    (found : machine.coroutine? id = some coroutine) : coroutine.Guarded machine.nextSerial
  active (running : machine.isRunning = true) :
    ∃ coroutine, machine.coroutine? machine.current = some coroutine ∧ 0 < coroutine.depth
  /-- What a host looks at is in range as well. -/
  live : difference? machine.arena.slots.size machine.arena.free.size = some machine.arena.live
  viewed {coroutine : Coroutine} {frame : Frame}
    (current : machine.coroutine? machine.current = some coroutine)
    (active : coroutine.active? = some frame) :
    difference? coroutine.depth 1 = some (coroutine.depth - 1)

/-- The container that a start places gets the first slot. From then on all ranges hold, also for
programs that would not pass a check and for arguments that name coroutines. -/
theorem in_bounds (program : Program) (args : List Value) (settings : Settings) :
    Arena.empty.place? none = some (Arena.empty.place none) ∧
      ∀ machine, Reachable program args settings machine → machine.InBounds := by
  refine ⟨Arena.place?_eq Arena.empty_sound, fun machine reachable => ?_⟩
  exact {
    runs := reachable.strictRun
    guarded := fun running id coroutine found => by
      have sound := (reachable.sound running).linked.sound found
      obtain ⟨sorted, opened⟩ := reachable.ascending running id coroutine found
      exact ⟨fun _ => sound.owned, sound.nested, sorted, opened⟩
    active := fun running => by
      obtain ⟨coroutine, frame, current, top, -⟩ := (reachable.sound running).active
      exact ⟨coroutine, current, (Coroutine.at?_top top).1⟩
    live := Strict.difference?_eq (Arena.free_le reachable.arena_sound)
    viewed := fun _ active => Strict.difference?_eq (Coroutine.at?_top active).1 }

end Reachable

/-- Pushes handlers that go on outside of the code, and throws what it is passed. -/
def strayingProgram : Program :=
  { Program.empty with
    functions := #[
      { name := "main", registerCount := 1, parameterCount := 1, parameters := []
        code := #[.pushCatch 99 (some 7), .pushScope, .pushCatch 98 none, .throw 0] }]
    functionIndex := .ofList [("main", FunctionId.mk 0)] }

/-- Nothing is checked and nothing is allowed. -/
def forbidding : Settings :=
  { Settings.standard with
    maxFrames := 0, maxCoroutines := 0, maxOpenRegions := 0, checkProgram := false }

theorem in_bounds_straying :
    strayingProgram.check.toOption = none ∧
      ∃ initial, start strayingProgram [.coroutine ⟨7⟩] forbidding = .ok initial ∧
        (initial.run 3).InBounds ∧
        ((initial.run 3).coroutine? .root).map (·.handlers.map Handler.target) = some [98, 99] ∧
        (initial.run 5).InBounds ∧
        (initial.run 5).status = .trapped (.ranOffEnd "main") := by
  have runs : (match start strayingProgram [.coroutine ⟨7⟩] forbidding with
      | .ok initial => decide (
          ((initial.run 3).coroutine? .root).map (·.handlers.map Handler.target) = some [98, 99] ∧
          (initial.run 5).status = .trapped (.ranOffEnd "main"))
      | .error _ => false) = true := by decide +kernel
  refine ⟨by decide +kernel, ?_⟩
  split at runs
  · next initial started =>
      obtain ⟨installed, trapped⟩ := of_decide_eq_true runs
      have inBounds (fuel : Nat) : (initial.run fuel).InBounds :=
        (in_bounds strayingProgram [.coroutine ⟨7⟩] forbidding).2 _
          ⟨initial, started, reaches_run fuel⟩
      exact ⟨initial, started, inBounds 3, installed, inBounds 5, trapped⟩
  · cases runs

end Machine

end Backtrack
