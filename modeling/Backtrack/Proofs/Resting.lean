import Backtrack.Proofs.Switching

/-!
Coroutines that do not run. An instruction leaves them as they are, whether it ends or faults; only
entering one starts it, and then it goes on exactly where it stands.
-/

namespace Backtrack

namespace Machine

variable {code : Instruction} {before after machine : Machine} {id : CoroutineId}
  {coroutine : Coroutine}

/-- The instruction of a machine enters a coroutine, which keeps its frames and handlers. -/
structure Enters (machine : Machine) (id : CoroutineId) (coroutine : Coroutine) (dst : Option Reg)
    (target : Reg) (out : Option Reg) : Prop where
  next : machine.instruction? = some (.enterCoroutine dst target out)
  named : ∃ frame, machine.active? = some frame ∧ frame.readCoroutine target = .ok id
  parked : coroutine.state = .fresh ∨ coroutine.state = .suspended
  running : machine.step.isRunning = true
  current : machine.step.current = id
  entered : machine.step.coroutine? id = some { coroutine with
    caller := some ⟨machine.current, machine.depth - 1, dst, out⟩
    suspended := false
    started := true }

theorem Sound.apart (sound : machine.Sound) (found : machine.coroutine? id = some coroutine)
    (resting : coroutine.state ≠ .running) : id ≠ machine.current := by
  rintro rfl
  exact resting (sound.linked.running_of_current found)

theorem evolves_resting (sound : before.Sound) (evolves : before.Evolves code after)
    (found : before.coroutine? id = some coroutine) (resting : coroutine.state ≠ .running)
    (other : ∀ dst target out, code ≠ .enterCoroutine dst target out) :
    after.coroutine? id = some coroutine := by
  induction evolves with
  | refl => exact found
  | tail soFar effect ih =>
      have sound' := sound.evolves soFar
      refine (effect_apart effect ih (sound'.apart ih resting)).resolve_right ?_
      rintro ⟨dst, target, out, enters, -⟩
      exact other dst target out enters

/-- What a fault leaves of an instruction leaves it alone as well. -/
theorem breaks_resting (sound : before.Sound) (breaks : before.Breaks code after)
    (found : before.coroutine? id = some coroutine) (resting : coroutine.state ≠ .running)
    (other : ∀ dst target out, code ≠ .enterCoroutine dst target out) :
    after.coroutine? id = some coroutine := by
  have kept {machine : Machine} (soFar : before.Evolves code machine) :
      machine.coroutine? id = some coroutine := evolves_resting sound soFar found resting other
  have updated {machine : Machine} (soFar : before.Evolves code machine)
      (change : Coroutine → Coroutine) :
      (machine.updateCoroutine machine.current change).coroutine? id = some coroutine := by
    have apart := (sound.evolves soFar).apart (kept soFar) resting
    rw [coroutine?_updateCoroutine, if_neg apart, kept soFar]
  cases breaks with
  | between soFar => exact kept soFar
  | placed soFar | withdrawn soFar =>
      have same := kept soFar
      exact same
  | unswitched switched soFar =>
      have same := kept soFar
      exact same
  | unbalanced soFar | outside soFar => exact updated soFar _
  | stale soFar active inScope gone => exact (sound.not_stale soFar active inScope gone).elim
  | orphaned soFar current inner alone =>
      exact (sound.not_orphaned soFar current inner alone).elim

/-- Entering a coroutine faults before it changes anything. -/
theorem enterCoroutine_faults {dst out : Option Reg} {target : Reg} (sound : machine.Sound) :
    (Action.enterCoroutine dst target out).Leads machine (fun _ _ => True)
      fun _ after => after = machine := by
  obtain ⟨coroutine, frame, current, top, active⟩ := sound.active
  simp only [Action.enterCoroutine, Action.leads_bind, Action.leads_frame_active active,
    Action.leads_ofExcept, Action.leads_coroutine, implies_true, and_true]
  intro entered named coroutine found
  split
  · rw [Action.leads_writeOption_active active]
    split <;> simp
  · simp

theorem step_resting (sound : machine.Sound) (running : machine.isRunning = true)
    (found : machine.coroutine? id = some coroutine) (resting : coroutine.state ≠ .running) :
    machine.step.coroutine? id = some coroutine ∨
      ∃ dst target out, machine.Enters id coroutine dst target out := by
  have goesOn : machine.status = .running := of_decide_eq_true running
  obtain ⟨waiting, frame, current, top, active⟩ := sound.active
  have still {code : Instruction} : (machine.fetched code).coroutine? id = some coroutine := by
    rw [coroutine?_fetched current, replace_other (sound.apart found resting), found]
  rcases step_turns sound with ⟨code, outcome, after, next, turns, same⟩ | ⟨fault, trapped⟩
  · rcases turns.resting sound.fetched still resting with kept |
      ⟨dst, target, out, frame', rfl, active', named, parked, rfl, switched, entered⟩
    · left
      rw [same]
      cases outcome <;> exact kept
    · right
      cases Option.some.inj (active'.symm.trans (active?_fetched active))
      rw [current_fetched, depth_fetched current] at entered
      refine ⟨dst, target, out, next, ⟨frame, active, named⟩, parked, ?_, ?_, ?_⟩
      · rw [same]
        exact decide_eq_true (turns.status.trans (status_fetched.trans goesOn))
      · rw [same]
        exact switched
      · rw [same]
        exact entered
  · left
    obtain ⟨after, counters, faulted, same, breaks⟩ := step_breaks sound.enabled running trapped
    have kept {code : Instruction} (breaks : machine.Breaks code after)
        (other : ∀ dst target out, code ≠ .enterCoroutine dst target out) :
        machine.step.coroutine? id = some coroutine := by
      have unchanged := breaks_resting sound breaks found resting other
      rw [same]
      exact unchanged
    cases next : machine.instruction? with
    | none => exact kept (breaks .noSolution (.inr next)) nofun
    | some code =>
        by_cases entering : ∃ dst target out, code = .enterCoroutine dst target out
        · obtain ⟨dst, target, out, rfl⟩ := entering
          have leads : (Action.execute (.enterCoroutine dst target out)).Leads
              (machine.fetched (.enterCoroutine dst target out)) (fun _ _ => True)
              fun _ after => after.coroutine? id = some coroutine := by
            simp only [Action.execute, Action.thenProceed, Action.leads_bind, Action.leads_pure]
            refine (enterCoroutine_faults sound.fetched).mono (fun _ _ _ => trivial) ?_
            rintro fault after rfl
            exact still
          rw [cycle_eq next] at faulted
          have unchanged := leads.faulted faulted
          rw [same]
          exact unchanged
        · refine kept (breaks code (.inl next)) fun dst target out same => entering ?_
          exact ⟨dst, target, out, same⟩

/-- A coroutine that rests can always be entered. -/
theorem enterCoroutine_enters {dst out : Option Reg} {target : Reg} {frame : Frame}
    (active : machine.active? = some frame) (named : frame.readCoroutine target = .ok id)
    (found : machine.coroutine? id = some coroutine)
    (parked : coroutine.state = .fresh ∨ coroutine.state = .suspended)
    (deep : 0 < coroutine.depth) :
    (Action.execute (.enterCoroutine dst target out)).Leads machine
      (fun outcome after => outcome = .proceed ∧
        after = { machine.updateCoroutine id (fun _ => { coroutine with
          caller := some ⟨machine.current, machine.depth - 1, dst, out⟩
          suspended := false
          started := true }) with current := id })
      fun _ _ => False := by
  have alive : coroutine.state ≠ .exhausted := by
    rcases parked with state | state <;> simp [state]
  have stacked : coroutine.frames.isEmpty = false := by
    refine Bool.eq_false_iff.mpr fun bare => ?_
    exact Nat.ne_of_gt deep (Stack.isEmpty_iff.mp bare)
  have enters (link : CallerLink) : coroutine.enter id link =
      .ok { coroutine with caller := some link, suspended := false, started := true } := by
    unfold Coroutine.enter
    rcases parked with state | state <;> rw [state] <;> simp [stacked]
  simp only [Action.execute, Action.thenProceed, Action.enterCoroutine, Action.leads_bind,
    Action.leads_frame_active active, named, Action.leads_ofExcept, Action.leads_coroutine,
    Except.ok.injEq, forall_eq', reduceCtorEq, false_implies, implies_true, and_true]
  refine ⟨fun entered same => ?_, fun missing => absurd (found.symm.trans missing) (by simp)⟩
  cases Option.some.inj (found.symm.trans same)
  rw [if_neg alive]
  simp [enters]

theorem step_enters {dst out : Option Reg} {target : Reg} {asking : Coroutine} {frame : Frame}
    (sound : machine.Sound) (next : machine.instruction? = some (.enterCoroutine dst target out))
    (asks : machine.coroutine? machine.current = some asking)
    (active : asking.active? = some frame) (named : frame.readCoroutine target = .ok id)
    (found : machine.coroutine? id = some coroutine)
    (parked : coroutine.state = .fresh ∨ coroutine.state = .suspended) :
    machine.step = { (machine.fetched (.enterCoroutine dst target out)).updateCoroutine id
      (fun _ => { coroutine with
        caller := some ⟨machine.current, machine.depth - 1, dst, out⟩
        suspended := false
        started := true }) with current := id } := by
  obtain ⟨deep, resting⟩ := (sound.linked.sound found).enterable parked
  have active' : machine.active? = some frame := by
    rw [active?, asks]
    exact active
  have here : (machine.fetched (.enterCoroutine dst target out)).coroutine? id = some coroutine := by
    rw [coroutine?_fetched asks, replace_other (sound.apart found resting), found]
  have leads : (Action.execute (.enterCoroutine dst target out)).Leads
      (machine.fetched (.enterCoroutine dst target out)) _ _ :=
    enterCoroutine_enters (active?_fetched active') named here parked deep
  unfold Action.Leads at leads
  rw [step, cycle_eq next]
  split at leads
  · next outcome after ended =>
      obtain ⟨rfl, rfl⟩ := leads
      rw [ended, current_fetched, depth_fetched asks]
  · exact leads.elim

end Machine

end Backtrack
