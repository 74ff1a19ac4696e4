import Backtrack.Proofs.Raising

/-!
What one instruction does in all. `Effect` lists what instructions are made of; `Turns` says how
they end: those that neither transfer control nor raise are effects of the current coroutine, and
entering, suspending, returning and raising each lead to exactly one machine.
-/

namespace Backtrack

/-- Whether an instruction can hand control to another coroutine or end an activation. -/
def Instruction.transfers : Instruction → Bool
  | .enterCoroutine _ _ _ | .yield _ | .return _ => true
  | _ => false

/-- An instruction does what the other one does where that one raises no condition. -/
inductive Instruction.Tames : Instruction → Instruction → Prop
  | same {code : Instruction} : Tames code code
  | load {dst : Reg} {name : SymbolId} : Tames (.jump 0) (.loadVar dst name)
  | call {dst : Option Reg} {name : SymbolId} {args : List Reg} {function : FunctionId} :
      Tames (.call dst (.direct function) args) (.call dst (.overloaded name) args)

/-- Writes a register that may be left out. -/
def Frame.receive (frame : Frame) (reg : Option Reg) (value : Value) : Frame :=
  match reg with
  | some reg => frame.put reg (some value)
  | none => frame

/-- What the frame that waits learns: whether the coroutine yielded, and then what. -/
def CallerLink.deliver (link : CallerLink) (ok : Bool) (out : Option Value) (frame : Frame) : Frame :=
  match out with
  | some value => (frame.receive link.ok (.bool ok)).receive link.out value
  | none => frame.receive link.ok (.bool ok)

namespace Frame

variable {frame : Frame} {reg : Reg} {wanted : Option Reg} {value : Value}

theorem sameActivation_receive : frame.SameActivation (frame.receive wanted value) := by
  cases wanted with
  | none => exact ⟨rfl, rfl, rfl, rfl, rfl, rfl⟩
  | some reg => exact ⟨rfl, rfl, by simp [receive, put], rfl, rfl, rfl⟩

theorem hasRegister_receive : (frame.receive wanted value).hasRegister reg = frame.hasRegister reg := by
  rw [hasRegister, hasRegister, sameActivation_receive.registers]

/-- What a frame receives, it reads. -/
theorem read_receive (fits : frame.hasRegister reg = true) :
    (frame.receive (some reg) value).read reg = .ok value := by
  have room : reg < frame.registers.size := of_decide_eq_true fits
  simp [receive, read, put, room]

theorem read_receive_other (other : wanted ≠ some reg) :
    (frame.receive wanted value).read reg = frame.read reg := by
  cases wanted with
  | none => rfl
  | some reg' =>
      have differ : reg' ≠ reg := fun same => other (congrArg some same)
      simp [receive, read, put, differ]

end Frame

namespace CallerLink

variable {link : CallerLink} {ok : Bool} {out : Option Value} {frame : Frame} {reg : Reg}
  {value : Value}

theorem read_deliver_ok (wanted : link.ok = some reg) (fits : frame.hasRegister reg = true)
    (apart : out = none ∨ link.out ≠ some reg) :
    (link.deliver ok out frame).read reg = .ok (.bool ok) := by
  cases out with
  | none =>
      rw [deliver, wanted]
      exact Frame.read_receive fits
  | some value =>
      rw [deliver, Frame.read_receive_other (apart.resolve_left nofun), wanted]
      exact Frame.read_receive fits

theorem read_deliver_out (wanted : link.out = some reg) (fits : frame.hasRegister reg = true) :
    (link.deliver ok (some value) frame).read reg = .ok value := by
  rw [deliver, wanted]
  exact Frame.read_receive (Frame.hasRegister_receive.trans fits)

theorem read_deliver_other (apart : link.ok ≠ some reg) (apart' : out = none ∨ link.out ≠ some reg) :
    (link.deliver ok out frame).read reg = frame.read reg := by
  cases out with
  | none => exact Frame.read_receive_other apart
  | some value =>
      rw [deliver, Frame.read_receive_other (apart'.resolve_left nofun)]
      exact Frame.read_receive_other apart

theorem sameActivation_deliver : frame.SameActivation (link.deliver ok out frame) := by
  cases out with
  | none => exact Frame.sameActivation_receive
  | some value =>
      have first : frame.SameActivation (frame.receive link.ok (.bool ok)) :=
        Frame.sameActivation_receive
      have second : (frame.receive link.ok (.bool ok)).SameActivation
          ((frame.receive link.ok (.bool ok)).receive link.out value) := Frame.sameActivation_receive
      exact ⟨second.id.trans first.id, second.function.trans first.function,
        second.registers.trans first.registers, second.role.trans first.role,
        second.scope.trans first.scope, second.base.trans first.base⟩

end CallerLink

namespace Machine

theorem updateFrame_receive_none {machine : Machine} {id : CoroutineId} {value : Value} :
    machine.updateFrame id (·.receive none value) = machine :=
  updateFrame_eq_self fun _ => rfl

/-- How an instruction ends that does not fault. -/
inductive Turns (code : Instruction) (before : Machine) : Outcome → Machine → Prop
  /-- Control and the activations of the other coroutines stay as they are. -/
  | stays {other : Instruction} {after : Machine} (tames : other.Tames code)
      (stays : other.transfers = false) (quiet : other.raises = false)
      (evolves : before.Evolves other after) :
      Turns code before .proceed after
  | enters {frame : Frame} {dst out : Option Reg} {target : Reg} {id : CoroutineId}
      {entered : Coroutine} (entering : code = .enterCoroutine dst target out)
      (active : before.active? = some frame) (named : frame.readCoroutine target = .ok id)
      (found : before.coroutine? id = some entered)
      (parked : entered.state = .fresh ∨ entered.state = .suspended) :
      Turns code before .proceed { before.updateCoroutine id (fun _ => { entered with
        caller := some ⟨before.current, before.depth - 1, dst, out⟩
        suspended := false
        started := true }) with current := id }
  /-- Entering an exhausted coroutine only tells so. -/
  | refused {frame : Frame} {dst out : Option Reg} {target : Reg} {id : CoroutineId}
      {entered : Coroutine} (entering : code = .enterCoroutine dst target out)
      (active : before.active? = some frame) (named : frame.readCoroutine target = .ok id)
      (found : before.coroutine? id = some entered) (exhausted : entered.state = .exhausted)
      (fits : ∀ reg, dst = some reg → frame.hasRegister reg = true) :
      Turns code before .proceed
        (before.updateFrame before.current (·.receive dst (.bool false)))
  | yields {coroutine waiter : Coroutine} {frame waiting : Frame} {link : CallerLink}
      {reg : Option Reg} {value : Value} (yielding : code = .yield reg)
      (current : before.coroutine? before.current = some coroutine)
      (active : coroutine.active? = some frame)
      (held : value = .unit ∧ reg = none ∨ ∃ src, reg = some src ∧ frame.read src = .ok value)
      (waits : coroutine.caller = some link)
      (closed : ∀ region ∈ before.regions.items, ∀ frame ∈ coroutine.frames.items,
        frame.id ≠ region.owner)
      (found : before.coroutine? link.coroutine = some waiter)
      (top : waiter.active? = some waiting)
      (fits : ∀ reg, link.ok = some reg ∨ link.out = some reg → waiting.hasRegister reg = true) :
      Turns code before .proceed { (before.updateCoroutine before.current (fun _ => { coroutine with
        caller := none
        suspended := true })).updateFrame link.coroutine (link.deliver true (some value)) with
          current := link.coroutine }
  /-- A call ends. -/
  | returns {coroutine : Coroutine} {frame caller : Frame} {dst : Option Reg} {reg : Reg}
      {value : Value} (returning : code = .return reg)
      (current : before.coroutine? before.current = some coroutine)
      (active : coroutine.active? = some frame) (held : frame.read reg = .ok value)
      (callee : frame.role = .callee dst)
      (closed : ∀ region ∈ before.regions.items, region.owner ≠ frame.id)
      (below : coroutine.popFrame.active? = some caller)
      (fits : ∀ reg, dst = some reg → caller.hasRegister reg = true) :
      Turns code before .proceed (({ before with
        arena := before.arena.vacate before.globals frame }.updateCoroutine before.current
          (·.popFrame)).updateFrame before.current (·.receive dst value))
  /-- A coroutine ends. -/
  | finishes {coroutine waiter : Coroutine} {frame waiting : Frame} {link : CallerLink} {reg : Reg}
      (returning : code = .return reg)
      (current : before.coroutine? before.current = some coroutine)
      (active : coroutine.active? = some frame) (entry : frame.role = .entry)
      (closed : ∀ region ∈ before.regions.items, region.owner ≠ frame.id)
      (waits : coroutine.caller = some link)
      (found : before.coroutine? link.coroutine = some waiter)
      (top : waiter.active? = some waiting)
      (fits : ∀ reg, link.ok = some reg → waiting.hasRegister reg = true) :
      Turns code before .proceed { ({ before with
        arena := before.arena.vacate before.globals frame }.updateCoroutine before.current
          (·.popFrame)).updateFrame link.coroutine (link.deliver false none) with
            current := link.coroutine }
  /-- The root ends. -/
  | ends {coroutine : Coroutine} {frame : Frame} {value : Value}
      (root : before.current = .root)
      (current : before.coroutine? before.current = some coroutine)
      (active : coroutine.active? = some frame) (entry : frame.role = .entry)
      (closed : ∀ region ∈ before.regions.items, region.owner ≠ frame.id) :
      Turns code before (.done value) ({ before with
        arena := before.arena.vacate before.globals frame }.updateCoroutine before.current
          (·.popFrame))
  | raises {cause : Cause} {outcome : Outcome} {after : Machine}
      (raises : before.raised? code = some cause)
      (unwound : before.Unwound ⟨cause, before.trace⟩ outcome after) :
      Turns code before outcome after

/-- The machine after an instruction with an outcome. -/
def ended (machine : Machine) : Outcome → Machine
  | .proceed => machine
  | .done value => { machine with status := .done value }
  | .uncaught condition => { machine with status := .uncaught condition }

theorem coroutine?_ended {machine : Machine} {outcome : Outcome} :
    (machine.ended outcome).coroutine? = machine.coroutine? := by
  cases outcome <;> rfl

theorem current_ended {machine : Machine} {outcome : Outcome} :
    (machine.ended outcome).current = machine.current := by
  cases outcome <;> rfl

end Machine

namespace Action

open Machine

variable {machine : Machine} {code : Instruction}

/-- Wherever an action leads, it leads somewhere. -/
theorem leads_somewhere {α : Type} {action : Action α} :
    action.Leads machine (fun _ _ => True) fun _ _ => True := by
  unfold Leads
  split <;> trivial

theorem execute_proceeds (stays : code.transfers = false) (quiet : code.raises = false) :
    (execute code).Leads machine (fun outcome _ => outcome = .proceed) fun _ _ => True := by
  have goesOn {machine : Machine} {action : Action Unit} :
      (action >>= fun _ => pure Outcome.proceed : Action Outcome).Leads machine
        (fun outcome _ => outcome = .proceed) fun _ _ => True := by
    simp only [leads_bind]
    exact leads_somewhere.mono (fun _ _ _ => rfl) fun _ _ _ => trivial
  cases code with
  | call dst callee args =>
      cases callee with
      | direct function =>
          simp only [execute, call, leads_bind, leads_frame, leads_ofExcept, implies_true, and_true]
          intro _ _ _ _
          exact leads_somewhere.mono (fun _ _ _ => rfl) fun _ _ _ => trivial
      | overloaded => cases quiet
  | loadVar | noSolution | throw => cases quiet
  | «return» => cases stays
  | trap message => exact trivial
  | _ => exact goesOn

theorem execute_stays (sound : machine.Sound) (stays : code.transfers = false)
    (quiet : code.raises = false) :
    (execute code).Leads machine (machine.Turns code) fun _ _ => True := by
  refine Leads.mono (leads_and.mpr ⟨execute_evolves sound.enabled .refl,
    execute_proceeds stays quiet⟩) ?_ fun _ _ _ => trivial
  rintro outcome after ⟨ended, rfl⟩
  rcases ended with ⟨_, ended⟩ | evolves
  · cases ended
  · exact .stays .same stays quiet evolves

/-- Reading a variable that is bound is no more than writing a register. -/
theorem loadVar_turns {dst : Reg} {name : SymbolId} (sound : machine.Sound)
    (bound : machine.raised? (.loadVar dst name) = none) :
    (loadVar dst name).Leads machine (machine.Turns (.loadVar dst name)) fun _ _ => True := by
  obtain ⟨coroutine, frame, current, top, active⟩ := sound.active
  rw [raised?, active] at bound
  simp only [loadVar, leads_bind, leads_get, leads_frame_active active]
  split
  · next value found =>
      have written : (write dst value).Leads machine (fun _ => machine.Evolves (.jump 0))
        fun _ => machine.Breaks (.jump 0) := write_evolves .refl
      simp only [leads_bind, leads_pure]
      exact written.mono (fun _ _ evolves => .stays .load rfl rfl evolves) fun _ _ _ => trivial
  · next unbound =>
      simp [unbound] at bound

/-- Calling a candidate that has been found is no more than a direct call. -/
theorem call_turns {dst : Option Reg} {callee : Callee} {args : List Reg} (sound : machine.Sound)
    (resolved : machine.raised? (.call dst callee args) = none) :
    (call dst callee args).Leads machine (machine.Turns (.call dst callee args))
      fun _ _ => True := by
  obtain ⟨coroutine, frame, current, top, active⟩ := sound.active
  have pushes (function : FunctionId) (values : List Value) {counted : Machine}
      (tames : Instruction.Tames (.call dst (.direct function) args) (.call dst callee args))
      (same : counted.active? = some frame)
      (soFar : machine.Evolves (.call dst (.direct function) args) counted) :
      (pushCall function values dst).Leads counted
        (fun _ after => (pure Outcome.proceed : Action Outcome).Leads after
          (machine.Turns (.call dst callee args)) fun _ _ => True) fun _ _ => True := by
    refine (pushCall_evolves same ⟨_, _, rfl⟩ soFar).mono (fun _ after evolves => ?_)
      fun _ _ _ => trivial
    rw [leads_pure]
    exact .stays tames rfl rfl evolves
  simp only [call, leads_bind, leads_frame_active active, leads_ofExcept, implies_true, and_true]
  intro values passed
  cases callee with
  | direct function =>
      simp only [leads_bind]
      exact pushes function values .same active .refl
  | overloaded name =>
      simp only [leads_bind, leads_get]
      split
      · next function selected =>
          simp only [countTried, leads_bind, leads_count]
          obtain ⟨counters, counted⟩ := machine.count_eq _
          rw [counted]
          exact pushes function values .call active (Evolves.refl.then (.count counters))
      · next cause unresolved =>
          simp [raised?, active, passed, unresolved, Except.toOption] at resolved

/-! Transfers -/

/-- The waiting frame learns what it waits for, and goes on. -/
theorem handBack_leads {link : CallerLink} {ok : Bool} {out : Option Value} {waiter : Coroutine}
    {waiting : Frame} {good : Machine → Prop}
    (found : machine.coroutine? link.coroutine = some waiter)
    (top : waiter.active? = some waiting)
    (handed : (∀ reg, link.ok = some reg ∨ (out ≠ none ∧ link.out = some reg) →
        waiting.hasRegister reg = true) →
      good { machine.updateFrame link.coroutine (link.deliver ok out) with
        current := link.coroutine }) :
    (handBack link ok out).Leads machine (fun _ => good) fun _ _ => True := by
  simp only [handBack, leads_bind, leads_get, leads_coroutine, leads_ensure, implies_true, and_true]
  intro waiter' here ready
  have told {machine' : Machine} (reg : Option Reg) (value : Value) {waiter : Coroutine}
      {waiting : Frame} {good : Machine → Prop}
      (found : machine'.coroutine? link.coroutine = some waiter) (top : waiter.active? = some waiting)
      (written : (∀ wanted, reg = some wanted → waiting.hasRegister wanted = true) →
        good (machine'.updateFrame link.coroutine (·.receive reg value))) :
      (writeOptionOf link.coroutine reg value).Leads machine' (fun _ => good) fun _ _ => True := by
    cases reg with
    | none =>
        rw [updateFrame_receive_none] at written
        exact written (by simp)
    | some reg =>
        rw [leads_writeOptionOf]
        simp only
        rw [leads_writeOf_active found top]
        refine ⟨fun room => written ?_, fun _ => trivial⟩
        rintro wanted same
        cases same
        exact room
  refine told link.ok (.bool ok) found top fun fits => ?_
  cases out with
  | none =>
      refine handed ?_
      rintro reg (wanted | ⟨present, -⟩)
      · exact fits reg wanted
      · exact absurd rfl present
  | some value =>
      have found' : (machine.updateFrame link.coroutine
          (·.receive link.ok (.bool ok))).coroutine? link.coroutine =
            some (waiter.updateActive (·.receive link.ok (.bool ok))) := by
        rw [Machine.updateFrame, coroutine?_replace found, replace_same]
      have top' : (waiter.updateActive (·.receive link.ok (.bool ok))).active? =
          some (waiting.receive link.ok (.bool ok)) :=
        Coroutine.active?_updateActive top
      simp only [leads_bind, leads_modify]
      refine told link.out value found' top' fun fits' => ?_
      rw [updateFrame_twice]
      refine handed ?_
      rintro reg (wanted | ⟨-, wanted⟩)
      · exact fits reg wanted
      · have room := fits' reg wanted
        rwa [Frame.hasRegister_receive] at room

theorem enterCoroutine_turns {dst out : Option Reg} {target : Reg} (sound : machine.Sound)
    (entering : code = .enterCoroutine dst target out) :
    (enterCoroutine dst target out).Leads machine (fun _ => machine.Turns code .proceed)
      fun _ _ => True := by
  obtain ⟨coroutine, frame, current, top, active⟩ := sound.active
  simp only [enterCoroutine, leads_bind, leads_frame_active active, leads_ofExcept,
    leads_coroutine, implies_true, and_true]
  intro id named entered found
  split
  · next exhausted =>
      rw [leads_writeOption_active active]
      cases dst with
      | none =>
          have refused := Turns.refused entering active named found exhausted (by simp)
          rw [updateFrame_receive_none] at refused
          exact refused
      | some reg =>
          refine ⟨fun room => .refused entering active named found exhausted ?_, fun _ => trivial⟩
          rintro wanted same
          cases same
          exact room
  · next alive =>
      simp only [leads_bind, leads_get, leads_ofExcept, leads_updateCoroutine, leads_modify,
        implies_true, and_true]
      intro running changed
      obtain ⟨parked, rfl⟩ := Coroutine.enter_eq changed
      exact .enters entering active named found parked

/-- The coroutine that waits for the current one has an active frame, and is another one. -/
theorem waiter_active {coroutine : Coroutine} {link : CallerLink} (sound : machine.Sound)
    (current : machine.coroutine? machine.current = some coroutine)
    (waits : coroutine.caller = some link) :
    ∃ waiter waiting, machine.coroutine? link.coroutine = some waiter ∧
      waiter.active? = some waiting ∧ link.coroutine ≠ machine.current := by
  obtain ⟨waiter, found, deep⟩ := sound.linked.waits current waits
  have top : waiter.active?.isSome = true := by
    rw [Coroutine.active?, Stack.top?_eq_at?]
    apply Stack.at?_isSome.mpr
    rw [Coroutine.depth] at deep
    omega
  obtain ⟨waiting, active⟩ := Option.isSome_iff_exists.mp top
  exact ⟨waiter, waiting, found, active, sound.linked.not_waited current waits⟩

theorem yieldValue_turns {reg : Option Reg} (sound : machine.Sound) (yielding : code = .yield reg) :
    (yieldValue reg).Leads machine (fun _ => machine.Turns code .proceed) fun _ _ => True := by
  obtain ⟨coroutine, frame, current, top, active⟩ := sound.active
  have suspends (value : Value)
      (held : value = .unit ∧ reg = none ∨ ∃ src, reg = some src ∧ frame.read src = .ok value) :
      (suspendWith value).Leads machine (fun _ => machine.Turns code .proceed)
        fun _ _ => True := by
    refine suspendWith_leads (fun yielding link same running waits closed => ?_)
      (fun _ => trivial) (fun _ _ _ _ => trivial) fun _ => trivial
    cases Option.some.inj (current.symm.trans same)
    obtain ⟨waiter, waiting, found, waiting', differ⟩ := waiter_active sound current waits
    refine handBack_leads ?_ waiting' fun fits => ?_
    · rw [coroutine?_replace current, replace_other differ]
      exact found
    · refine .yields yielding current top held waits closed found waiting' fun wanted asked =>
        fits wanted ?_
      exact asked.imp_right fun out => ⟨by simp, out⟩
  cases reg with
  | none =>
      exact leads_yieldValue_none.mpr ⟨fun _ => suspends .unit (.inl ⟨rfl, rfl⟩), fun _ => trivial⟩
  | some reg =>
      refine leads_yieldValue_some.mpr ⟨fun _ => (leads_frame_active active).mpr
        ⟨fun value held => suspends value (.inr ⟨reg, rfl, held⟩), fun _ _ => trivial⟩,
        fun _ => trivial⟩

theorem returnValue_turns {reg : Reg} {value : Value} {frame : Frame} (sound : machine.Sound)
    (returning : code = .return reg) (active : machine.active? = some frame)
    (held : frame.read reg = .ok value) :
    (returnValue value).Leads machine (machine.Turns code) fun _ _ => True := by
  obtain ⟨coroutine, frame', current, top, active'⟩ := sound.active
  cases Option.some.inj (active.symm.trans active')
  simp only [returnValue, leads_bind, leads_get, leads_coroutine, implies_true, and_true]
  intro coroutine' same
  cases Option.some.inj (current.symm.trans same)
  simp only [top, leads_bind, leads_updateCoroutine, leads_get, leads_ensure, leads_releaseFrame,
    implies_true, and_true, List.countP_eq_zero, decide_eq_true_eq]
  intro closed
  split
  · next dst callee =>
      have sound' := sound.effect (.return current top callee closed ⟨reg, rfl⟩)
      obtain ⟨left, caller, found, below, active''⟩ := sound'.active
      have popped : coroutine.popFrame.active? = some caller :=
        (active?_updateCoroutine current).symm.trans active''
      simp only [leads_bind]
      refine (leads_frame_active active'').mpr ?_
      refine (leads_writeOption_active active'').mpr ?_
      cases dst with
      | none =>
          have returned := Turns.returns returning current top held callee closed popped (by simp)
          rw [updateFrame_receive_none] at returned
          exact returned
      | some dst =>
          refine ⟨fun room => .returns returning current top held callee closed popped ?_,
            fun _ => trivial⟩
          rintro wanted same
          cases same
          exact room
  · next entry =>
      split
      · next root => exact .ends root current top entry closed
      · next inner =>
          obtain ⟨link, waits⟩ := sound.waiting current inner
          obtain ⟨waiter, waiting, found, waiting', differ⟩ := waiter_active sound current waits
          simp only [waits, leads_bind]
          have still : (machine.updateCoroutine machine.current
              (·.popFrame)).coroutine? link.coroutine = some waiter := by
            rw [coroutine?_replace current, replace_other differ, found]
          refine handBack_leads still waiting' fun fits => ?_
          · exact .finishes returning current top entry closed waits found waiting'
              fun wanted asked => fits wanted (.inl asked)

theorem execute_turns (sound : machine.Sound) :
    (execute code).Leads machine (machine.Turns code) fun _ _ => True := by
  cases raises : machine.raised? code with
  | some cause =>
      exact (execute_raise_leads sound raises).mono (fun _ _ unwound => .raises raises unwound)
        fun _ _ _ => trivial
  | none =>
      have goesOn {action : Action Unit} (turns : action.Leads machine
          (fun _ => machine.Turns code .proceed) fun _ _ => True) :
          (thenProceed action).Leads machine (machine.Turns code) fun _ _ => True := by
        simp only [thenProceed, leads_bind]
        exact turns
      cases code with
      | loadVar dst name => exact loadVar_turns sound raises
      | call dst callee args => exact call_turns sound raises
      | enterCoroutine dst target out => exact goesOn (enterCoroutine_turns sound rfl)
      | yield reg => exact goesOn (yieldValue_turns sound rfl)
      | «return» reg =>
          obtain ⟨coroutine, frame, current, top, active⟩ := sound.active
          simp only [execute, leads_bind, leads_read, leads_frame_active active, implies_true,
            and_true]
          exact fun value held => returnValue_turns sound rfl active held
      | noSolution => cases raises
      | throw reg =>
          obtain ⟨coroutine, frame, current, top, active⟩ := sound.active
          simp only [execute, leads_bind, leads_read, leads_frame_active active, implies_true,
            and_true]
          intro value held
          simp [raised?, active, held, Except.toOption] at raises
      | _ => exact execute_stays sound rfl rfl

end Action

namespace Machine

variable {machine : Machine} {code : Instruction}

theorem Turns.status {after : Machine} (turns : machine.Turns code .proceed after) :
    after.status = machine.status := by
  cases turns with
  | stays tames stays quiet evolves => exact evolves.status
  | raises raises unwound =>
      cases unwound with
      | caught catches inScope caught =>
          obtain ⟨_, _, _, _, _, rfl⟩ := caught.ground
          rfl
  | _ => rfl

/-- What a step does that does not fault. -/
theorem step_turns (sound : machine.Sound) :
    (∃ code outcome after, machine.instruction? = some code ∧
      (machine.fetched code).Turns code outcome after ∧ machine.step = after.ended outcome) ∨
      ∃ fault, machine.step.status = .trapped fault := by
  have leads : Action.cycle.Leads machine
      (fun outcome after => ∃ code, machine.instruction? = some code ∧
        (machine.fetched code).Turns code outcome after) fun _ _ => True := by
    refine leads_cycle (fun code next => ?_) fun _ _ _ _ => trivial
    exact (Action.execute_turns sound.fetched).mono (fun _ _ turns => ⟨code, next, turns⟩)
      fun _ _ _ => trivial
  unfold Action.Leads at leads
  rw [step]
  split at leads
  · next outcome after ended =>
      obtain ⟨code, next, turns⟩ := leads
      rw [ended]
      refine .inl ⟨code, outcome, after, next, turns, ?_⟩
      cases outcome <;> rfl
  · next fault after faulted =>
      rw [faulted]
      exact .inr ⟨fault, rfl⟩

/-- A step after which the machine still runs. -/
theorem step_proceeds (sound : machine.Sound) (running : machine.step.isRunning = true) :
    ∃ code, machine.instruction? = some code ∧
      (machine.fetched code).Turns code .proceed machine.step := by
  have goesOn : machine.step.status = .running := of_decide_eq_true running
  rcases step_turns sound with ⟨code, outcome, after, next, turns, same⟩ | ⟨fault, stops⟩
  · rw [same] at goesOn ⊢
    cases outcome with
    | proceed => exact ⟨code, next, turns⟩
    | done | uncaught => cases goesOn
  · rw [stops] at goesOn
    cases goesOn

end Machine

end Backtrack
