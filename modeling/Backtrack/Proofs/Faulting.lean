import Backtrack.Proofs.Progress

/-!
What a fault leaves behind. An instruction tests before it changes anything that a host can see, so a
fault leaves every frame, container and region in place. There are three exceptions: a frame that
returns with a region of its own still open is gone when that is found out, a condition has given up
coroutines when it reaches a handler whose container is gone, and a copy of a coroutine that does
not exist leaves the container of the copy behind.
-/

namespace Backtrack

namespace Machine

variable {before middle after machine : Machine} {id : CoroutineId} {coroutine : Coroutine}

/-! What a host can see -/

/-- Control is where it was, and so are all frames, containers and regions. -/
structure Intact (before after : Machine) : Prop where
  current : after.current = before.current
  frames (id : CoroutineId) : (after.coroutine? id).map (·.frames.items.map Frame.id) =
    (before.coroutine? id).map (·.frames.items.map Frame.id)
  live : after.arena.live = before.arena.live
  containers : after.arena.get? = before.arena.get?
  marks : after.marks = before.marks

namespace Intact

theorem refl : machine.Intact machine :=
  ⟨rfl, fun _ => rfl, rfl, rfl, rfl⟩

theorem trans (first : before.Intact middle) (second : middle.Intact after) : before.Intact after where
  current := second.current.trans first.current
  frames id := (second.frames id).trans (first.frames id)
  live := second.live.trans first.live
  containers := second.containers.trans first.containers
  marks := second.marks.trans first.marks

/-- A coroutine changes that keeps its frames. -/
theorem updateCoroutine {change : Coroutine → Coroutine}
    (same : ∀ coroutine, machine.coroutine? id = some coroutine →
      (change coroutine).frames.items.map Frame.id = coroutine.frames.items.map Frame.id) :
    machine.Intact (machine.updateCoroutine id change) where
  current := rfl
  frames other := by
    rw [coroutine?_updateCoroutine]
    split
    · next here =>
        subst here
        cases found : machine.coroutine? other with
        | none => rfl
        | some coroutine => exact congrArg some (same coroutine found)
    · rfl
  live := rfl
  containers := rfl
  marks := rfl

theorem updateFrame {change : Frame → Frame} (same : ∀ frame, (change frame).id = frame.id) :
    machine.Intact (machine.updateFrame id change) := by
  refine updateCoroutine fun coroutine _ => ?_
  rw [Coroutine.updateActive, Stack.items_modifyTop]
  cases coroutine.frames.items with
  | nil => rfl
  | cons top rest => exact congrArg (· :: rest.map Frame.id) (same top)

theorem count {change : Counters → Counters} : machine.Intact (machine.count change) := by
  obtain ⟨counters, counted⟩ := machine.count_eq change
  rw [counted]
  exact ⟨rfl, fun _ => rfl, rfl, rfl, rfl⟩

theorem fetched {code : Instruction} : machine.Intact (machine.fetched code) := by
  have noted : machine.Intact (machine.count (·.noteDepth machine.depth)) := count
  have moved : (machine.count (·.noteDepth machine.depth)).Intact
      ((machine.count (·.noteDepth machine.depth)).updateFrame machine.current fun frame =>
        { frame with pc := frame.pc + 1 }) := updateFrame fun _ => rfl
  exact (noted.trans moved).trans count

/-- The logs of the open regions change. -/
theorem logged (machine : Machine) (save : RollbackLog → RollbackLog) :
    machine.Intact { machine with
      regions := machine.regions.map fun region => { region with log := save region.log } } where
  current := rfl
  frames _ := rfl
  live := rfl
  containers := rfl
  marks := by simp [Machine.marks, Function.comp_def, Region.mark]

/-- A container that is freed as soon as it was allocated. -/
theorem withdrawn {parent : Option ContainerId} (sound : machine.arena.Sound) :
    machine.Intact { machine with
      arena := (machine.arena.place parent).2.release (machine.arena.place parent).1
      nextFrame := machine.nextFrame + 1 } where
  current := rfl
  frames _ := rfl
  live := by
    have placed : (machine.arena.place parent).2.isLive (machine.arena.place parent).1 = true := by
      rw [Arena.isLive, Arena.get?_place sound, if_pos rfl]
      rfl
    rw [Arena.release, if_pos placed, Arena.live, Arena.live, Array.size_modify]
    unfold Arena.place
    cases top : machine.arena.free.top? with
    | none =>
        rw [Array.size_push]
        exact Nat.add_sub_add_right ..
    | some index =>
        obtain ⟨rest, items⟩ := List.head?_eq_some_iff.mp top
        have counted := machine.arena.free.size_eq
        rw [items, List.length_cons] at counted
        simp only [Array.size_modify, Stack.size_push, Stack.size_pop]
        omega
  containers := by
    funext container
    change ((machine.arena.place parent).2.release (machine.arena.place parent).1).get? container = _
    rw [Arena.get?_release, Arena.get?_place sound]
    split
    · next same => rw [same, Arena.place_fresh sound]
    · rfl
  marks := rfl

end Intact

end Machine

namespace Action

open Machine

variable {α β : Type} {code : Instruction} {before machine : Machine} {id : CoroutineId} {reg : Reg}
  {value : Value} {frame : Frame}

/-- Faults that can come after a change. -/
inductive Upsets (code : Instruction) : Fault → Prop
  | unfit (reg : Reg) : Upsets code (.invalidRegister reg)
  | unbalanced {reg : Reg} (function : String) (count : Nat) (returning : code = .return reg) :
      Upsets code (.unbalancedRegion function count)
  | unknown {dst source : Reg} (index : Nat) (copying : code = .copyCoroutine dst source) :
      Upsets code (.unknownId .coroutine index)

/-- Other faults leave all in place. -/
def Careful (code : Instruction) (before : Machine) (action : Action α) (machine : Machine) : Prop :=
  action.Leads machine (fun _ _ => True) fun fault after => Upsets code fault ∨ before.Intact after

/-- An action that only looks. -/
def Quiet (action : Action α) : Prop :=
  ∀ machine, action.Leads machine (fun _ after => after = machine) fun _ after => after = machine

/-- An action that changes nothing before it faults. -/
def Prompt (action : Action α) : Prop :=
  ∀ machine, action.Leads machine (fun _ _ => True) fun _ after => after = machine

/-! Looking -/

theorem quiet_pure {result : α} : (pure result : Action α).Quiet :=
  fun _ => rfl

theorem quiet_throw {fault : Fault} : (throw fault : Action α).Quiet :=
  fun _ => rfl

theorem quiet_get : (get : Action Machine).Quiet :=
  fun _ => rfl

theorem quiet_ofExcept {result : Except Fault α} : (ofExcept result).Quiet := by
  cases result with
  | ok => exact quiet_pure
  | error => exact quiet_throw

theorem quiet_ensure {rule : Prop} [Decidable rule] {fault : Fault} : (ensure rule fault).Quiet := by
  unfold ensure
  split
  · exact quiet_pure
  · exact quiet_throw

theorem Quiet.bind {first : Action β} {next : β → Action α} (quiet : first.Quiet)
    (goesOn : ∀ result, (next result).Quiet) : (first >>= next).Quiet := by
  intro machine
  rw [leads_bind]
  refine (quiet machine).mono (fun result after same => ?_) fun _ _ same => same
  subst same
  exact goesOn result after

theorem quiet_coroutine : (coroutine id).Quiet := by
  refine quiet_get.bind fun machine => ?_
  split
  · exact quiet_pure
  · exact quiet_throw

theorem quiet_frameOf : (frameOf id).Quiet := by
  refine quiet_coroutine.bind fun coroutine => ?_
  split
  · exact quiet_pure
  · exact quiet_throw

theorem quiet_frame : Action.frame.Quiet :=
  quiet_get.bind fun _ => quiet_frameOf

theorem quiet_read : (read reg).Quiet :=
  quiet_frame.bind fun _ => quiet_ofExcept

theorem quiet_nextCoroutine : nextCoroutine.Quiet :=
  quiet_get.bind fun _ => quiet_ensure.bind fun _ => quiet_pure

/-! Looking first -/

theorem Quiet.prompt {action : Action α} (quiet : action.Quiet) : action.Prompt :=
  fun machine => (quiet machine).mono (fun _ _ _ => trivial) fun _ _ same => same

theorem prompt_modify {change : Machine → Machine} : (modify change : Action Unit).Prompt :=
  fun _ => trivial

theorem prompt_throw {fault : Fault} : (throw fault : Action α).Prompt :=
  quiet_throw.prompt

theorem Quiet.then {first : Action β} {next : β → Action α} (quiet : first.Quiet)
    (goesOn : ∀ result, (next result).Prompt) : (first >>= next).Prompt := by
  intro machine
  rw [leads_bind]
  refine (quiet machine).mono (fun result after same => ?_) fun _ _ same => same
  subst same
  exact goesOn result after

/-- What never faults can come last. -/
theorem Prompt.sure {first : Action β} {next : β → Action α} (prompt : first.Prompt)
    (sure : ∀ result machine, (next result).Leads machine (fun _ _ => True) fun _ _ => False) :
    (first >>= next).Prompt := by
  intro machine
  rw [leads_bind]
  refine (prompt machine).mono (fun result after _ => ?_) fun _ _ same => same
  exact (sure result after).mono (fun _ _ _ => trivial) fun _ _ never => never.elim

theorem prompt_writeOf : (writeOf id reg value).Prompt :=
  quiet_frameOf.then fun _ => quiet_ensure.then fun _ => prompt_modify

theorem prompt_write : (write reg value).Prompt :=
  quiet_get.then fun _ => prompt_writeOf

theorem prompt_writeOption {reg : Option Reg} : (writeOption reg value).Prompt := by
  refine quiet_get.then fun machine => ?_
  cases reg with
  | none => exact quiet_pure.prompt
  | some reg => exact prompt_writeOf

theorem prompt_thenProceed {action : Action Unit} (prompt : action.Prompt) :
    (thenProceed action).Prompt :=
  prompt.sure fun _ _ => trivial

/-! Careful actions -/

theorem Prompt.careful {action : Action α} (prompt : action.Prompt) (kept : before.Intact machine) :
    action.Careful code before machine :=
  (prompt machine).mono (fun _ _ _ => trivial) fun _ _ same => .inr (same ▸ kept)

theorem Careful.thenProceed {action : Action Unit} (careful : action.Careful code before machine) :
    (thenProceed action).Careful code before machine := by
  unfold Careful Action.thenProceed
  rw [leads_bind]
  exact careful.mono (fun _ _ _ => trivial) fun _ _ bad => bad

theorem careful_bind {first : Action β} {next : β → Action α} (quiet : first.Quiet)
    (kept : before.Intact machine) (goesOn : ∀ result, (next result).Careful code before machine) :
    (first >>= next).Careful code before machine := by
  unfold Careful
  rw [leads_bind]
  refine (quiet machine).mono (fun result after same => ?_) fun _ _ same => .inr (same ▸ kept)
  subst same
  exact goesOn result

theorem careful_modify {change : Machine → Machine} {next : Unit → Action α}
    (goesOn : (next ()).Careful code before (change machine)) :
    (modify change >>= next).Careful code before machine := by
  unfold Careful
  rw [leads_bind, leads_modify]
  exact goesOn

theorem careful_intern {node : Node} {next : Value → Action α}
    (goesOn : (next (machine.nodes.intern node).1).Careful code before
      { machine with nodes := (machine.nodes.intern node).2 }) :
    (intern node >>= next).Careful code before machine := by
  unfold Careful
  rw [leads_bind, leads_intern]
  exact goesOn

/-- With an active frame, only a register that the frame does not have is in the way of a write. -/
theorem write_careful (active : machine.active? = some frame) :
    (write reg value).Careful code before machine := by
  unfold Careful
  rw [leads_write_active active]
  exact ⟨fun _ => trivial, fun _ => .inl (.unfit reg)⟩

theorem makeNode_careful {ctor : ConstructorId} {fields : List Reg} :
    (makeNode reg ctor fields).Careful code machine machine := by
  refine careful_bind quiet_get .refl fun current => ?_
  split
  · exact quiet_throw.prompt.careful .refl
  · refine careful_bind quiet_ensure .refl fun _ => ?_
    refine careful_bind quiet_frame .refl fun active => ?_
    refine careful_bind quiet_ofExcept .refl fun values => ?_
    exact careful_intern (prompt_write.careful ⟨rfl, fun _ => rfl, rfl, rfl, rfl⟩)

theorem move_careful {source : Reg} : (move reg source).Careful code machine machine := by
  refine careful_bind quiet_read .refl fun value => ?_
  exact careful_modify (prompt_write.careful (.updateFrame fun _ => rfl))

theorem bindVar_careful {target : ContainerId} {name : SymbolId} :
    (bindVar target name value).Careful code machine machine := by
  refine careful_bind quiet_get .refl fun current => ?_
  have logged := Intact.logged machine fun log =>
    (log.saveVariable ⟨target, name⟩ (current.arena.var? target name)).2
  refine careful_modify (careful_bind quiet_get logged fun _ => ?_)
  exact careful_bind quiet_ensure logged fun _ => prompt_modify.careful logged

theorem storeVar_careful {name : SymbolId} : (storeVar name reg).Careful code machine machine := by
  refine careful_bind quiet_frame .refl fun frame => ?_
  refine careful_bind quiet_ofExcept .refl fun value => ?_
  exact careful_bind quiet_get .refl fun _ => bindVar_careful

theorem declareVar_careful {name : SymbolId} : (declareVar name reg).Careful code machine machine := by
  refine careful_bind quiet_frame .refl fun frame => ?_
  exact careful_bind quiet_ofExcept .refl fun value => bindVar_careful

theorem closeRegion_careful {closing : Closing} (enabled : machine.AllEnabled) :
    (closeRegion closing).Careful code machine machine := by
  refine careful_bind quiet_frame .refl fun frame => ?_
  unfold Careful
  rw [leads_bind, leads_get]
  split
  · exact .inr .refl
  · next region top =>
      obtain ⟨rest, stacked⟩ := List.head?_eq_some_iff.mp top
      have logs := enabled region (stacked ▸ List.mem_cons_self)
      simp only [leads_bind, leads_ensure]
      refine ⟨fun _ => ?_, fun _ => .inr .refl⟩
      cases closing with
      | commit =>
          simp only [commitInnermost, popRegion, leads_bind, leads_get, top, leads_modify,
            leads_pure, leads_ofExcept, leads_count, RollbackLog.commit, logs, if_true]
          exact ⟨fun _ _ => trivial, by simp⟩
      | rollback => exact leads_rollbackInnermost stacked logs fun _ => trivial

/-! Activations -/

/-- Arguments do not fit where there is no register for one. -/
theorem withArguments_unfit {frame : Frame} {args : List Value} {fault : Fault}
    (failed : frame.withArguments args = .error fault) : ∃ reg, fault = .invalidRegister reg := by
  unfold Frame.withArguments at failed
  generalize args.zipIdx = numbered at failed
  induction numbered generalizing frame with
  | nil => cases failed
  | cons argument rest ih =>
      rcases argument with ⟨value, reg⟩
      rw [List.foldlM_cons] at failed
      by_cases room : frame.hasRegister reg = true
      · simp only [room, if_true] at failed
        exact ih failed
      · simp only [room] at failed
        cases failed
        exact ⟨reg, rfl⟩

/-- An activation begins, if all goes well, with a container and a frame of its own. -/
theorem newFrame_careful {function : FunctionId} {args : List Value} {role : Role}
    {next : Frame → Action α} (kept : before.Intact machine)
    (goesOn : ∀ entry, (next entry).Careful code before { machine with
      arena := (machine.arena.place (some machine.globals)).2
      nextFrame := machine.nextFrame + 1 }) :
    (newFrame function args role >>= next).Careful code before machine := by
  unfold Careful
  rw [leads_bind]
  refine leads_newFrame (fun _ => .inr kept) (fun _ _ _ => .inr kept) (fun _ => .inr kept)
    (fun _ _ _ _ _ fault failed => ?_) fun _ _ _ _ _ _ => goesOn _
  obtain ⟨reg, rfl⟩ := withArguments_unfit failed
  exact .inl (.unfit reg)

theorem pushCall_careful {function : FunctionId} {args : List Value} {dst : Option Reg}
    (kept : before.Intact machine) :
    (pushCall function args dst).Careful code before machine := by
  refine careful_bind quiet_get kept fun current => ?_
  refine careful_bind quiet_get kept fun limits => ?_
  refine careful_bind quiet_coroutine kept fun coroutine => ?_
  refine careful_bind quiet_ensure kept fun _ => ?_
  exact newFrame_careful kept fun _ => trivial

theorem call_careful {dst : Option Reg} {callee : Callee} {args : List Reg}
    (active : machine.active? = some frame)
    (accepted : machine.raised? (.call dst callee args) = none) :
    (call dst callee args).Careful code machine machine := by
  have proceeds (function : FunctionId) (values : List Value) {counted : Machine}
      (kept : machine.Intact counted) :
      (do pushCall function values dst; return Outcome.proceed : Action Outcome).Careful code
        machine counted := by
    unfold Careful
    rw [leads_bind]
    exact (pushCall_careful kept).mono (fun _ _ _ => trivial) fun _ _ bad => bad
  unfold Careful
  simp only [call, leads_bind, leads_frame_active active, leads_ofExcept]
  refine ⟨fun values passed => ?_, fun _ _ => .inr .refl⟩
  cases callee with
  | direct function => exact proceeds function values .refl
  | overloaded name =>
      simp only [leads_bind, leads_get]
      split
      · next function selected => exact careful_modify (proceeds function values .count)
      · next cause unresolved =>
          simp [raised?, active, passed, unresolved, Except.toOption] at accepted

theorem createCoroutine_careful {function : FunctionId} {args : List Reg}
    (active : machine.active? = some frame) :
    (createCoroutine reg function args).Careful code machine machine := by
  refine careful_bind quiet_nextCoroutine .refl fun id => ?_
  refine careful_bind quiet_frame .refl fun caller => ?_
  refine careful_bind quiet_ofExcept .refl fun values => ?_
  refine newFrame_careful .refl fun entry => ?_
  exact careful_modify (write_careful (active?_push active))

theorem copyCoroutine_careful {source : Reg} (sound : machine.arena.Sound)
    (active : machine.active? = some frame) :
    (copyCoroutine reg source).Careful (.copyCoroutine reg source) machine machine := by
  refine careful_bind quiet_frame .refl fun caller => ?_
  refine careful_bind quiet_ofExcept .refl fun target => ?_
  refine careful_bind quiet_nextCoroutine .refl fun id => ?_
  unfold Careful
  simp only [leads_bind, leads_get, leads_allocContainer, leads_freshFrameId, leads_coroutine]
  refine ⟨fun _ => ⟨fun original found => ?_, fun _ => .inl (.unknown target.index rfl)⟩,
    fun _ => .inr .refl⟩
  split
  · exact careful_modify (write_careful (active?_push active))
  · simp only [leads_bind, leads_releaseContainer, leads_throw]
    exact .inr (.withdrawn sound)

/-! Transfers -/

theorem enterCoroutine_prompt {dst out : Option Reg} {target : Reg} :
    (enterCoroutine dst target out).Prompt := by
  refine quiet_frame.then fun caller => quiet_ofExcept.then fun id => ?_
  refine quiet_coroutine.then fun entered => ?_
  split
  · exact prompt_writeOption
  · exact quiet_get.then fun _ => quiet_ofExcept.then fun running =>
      prompt_modify.sure fun _ _ => trivial

/-- Handing control back changes registers, and then who is current. -/
theorem handBack_careful {link : CallerLink} {ok : Bool} {out : Option Value}
    (kept : before.Intact machine) : (handBack link ok out).Careful code before machine := by
  have told {reg : Option Reg} {value : Value} {machine : Machine} {next : Unit → Action Unit}
      (kept : before.Intact machine)
      (goesOn : ∀ {later}, before.Intact later → (next ()).Careful code before later) :
      (writeOptionOf link.coroutine reg value >>= next).Careful code before machine := by
    unfold Careful
    rw [leads_bind]
    cases reg with
    | none => exact goesOn kept
    | some reg =>
        simp only [leads_writeOptionOf, leads_writeOf, leads_frameOf]
        have written : before.Intact
            (machine.updateFrame link.coroutine (·.put reg (some value))) :=
          kept.trans (.updateFrame fun _ => rfl)
        exact ⟨fun _ _ _ _ => ⟨fun _ => goesOn written, fun _ => .inr kept⟩,
          fun _ _ _ => .inr kept, fun _ => .inr kept⟩
  refine careful_bind quiet_get kept fun current => ?_
  refine careful_bind quiet_coroutine kept fun waiter => ?_
  refine careful_bind quiet_ensure kept fun _ => ?_
  refine told kept fun kept => ?_
  cases out with
  | none => exact prompt_modify.careful kept
  | some value => exact told kept fun kept => prompt_modify.careful kept

/-- A waiting frame that is where the link says can only lack a register. -/
theorem handBack_unfit {link : CallerLink} {waiter : Coroutine} {ok : Bool}
    (found : machine.coroutine? link.coroutine = some waiter) (deep : waiter.depth = link.depth + 1)
    (top : waiter.active? = some frame) :
    (handBack link ok none).Leads machine (fun _ _ => True)
      fun fault _ => ∃ reg, fault = .invalidRegister reg := by
  simp only [handBack, leads_bind, leads_get, leads_coroutine, leads_ensure]
  refine ⟨fun same here => ⟨fun _ => ?_, fun stale => ?_⟩,
    fun missing => absurd (found.symm.trans missing) (by simp)⟩
  · cases link.ok with
    | none => trivial
    | some reg =>
        rw [leads_writeOptionOf]
        simp only [leads_writeOf_active found top]
        exact ⟨fun _ => trivial, fun _ => ⟨reg, rfl⟩⟩
  · cases Option.some.inj (found.symm.trans here)
    exact absurd deep stale

theorem yieldValue_careful {reg : Option Reg} : (yieldValue reg).Careful code machine machine := by
  have suspends (value : Value) : (suspendWith value).Careful code machine machine := by
    refine suspendWith_leads (fun coroutine link current running waiting closed => ?_)
      (fun _ => .inr .refl) (fun _ _ _ _ => .inr .refl) fun _ => .inr .refl
    refine handBack_careful (.updateCoroutine fun other found => ?_)
    cases Option.some.inj (current.symm.trans found)
    rfl
  cases reg with
  | none => exact leads_yieldValue_none.mpr ⟨fun _ => suspends .unit, fun _ => .inr .refl⟩
  | some reg =>
      refine leads_yieldValue_some.mpr ⟨fun _ => ?_, fun _ => .inr .refl⟩
      refine (quiet_frame machine).mono (fun frame _ _ => ?_) fun _ _ same => .inr (same ▸ .refl)
      exact ⟨fun value _ => suspends value, fun _ _ => .inr .refl⟩

/-- Once the regions of a frame are known to be closed, its return can fail only where its result is
not wanted. -/
theorem returnValue_careful (sound : machine.Sound) :
    (returnValue value).Careful (.return reg) machine machine := by
  obtain ⟨coroutine, frame, current, top, active⟩ := sound.active
  unfold Careful
  simp only [returnValue, leads_bind, leads_get, leads_coroutine]
  refine ⟨fun same here => ?_, fun missing => absurd (current.symm.trans missing) (by simp)⟩
  cases Option.some.inj (current.symm.trans here)
  simp only [top, leads_bind, leads_updateCoroutine, leads_get, leads_ensure, leads_releaseFrame,
    List.countP_eq_zero, decide_eq_true_eq]
  refine ⟨fun closed => ?_, fun _ => .inl (.unbalanced _ _ rfl)⟩
  split
  · next dst callee =>
      have sound' := sound.effect (.return current top callee closed ⟨reg, rfl⟩)
      obtain ⟨left, caller, found, below, active'⟩ := sound'.active
      simp only [leads_bind]
      refine (leads_frame_active active').mpr ((leads_writeOption_active active').mpr ?_)
      cases dst with
      | none => trivial
      | some wanted => exact ⟨fun _ => trivial, fun _ => .inl (.unfit wanted)⟩
  · next entry =>
      split
      · trivial
      · next inner =>
          obtain ⟨link, waiting⟩ := sound.waiting current inner
          obtain ⟨waiter, found, deep⟩ := sound.linked.waits current waiting
          have differ := sound.linked.not_waited current waiting
          have sound' := sound.effect (.finish current top entry waiting closed ⟨reg, rfl⟩)
          obtain ⟨waiter', caller, found', top', -⟩ := sound'.active
          have there : (machine.updateCoroutine machine.current (·.popFrame)).coroutine?
              link.coroutine = some waiter := by
            rw [coroutine?_replace current, replace_other differ, found]
          cases Option.some.inj (there.symm.trans found')
          simp only [waiting, leads_bind]
          refine Leads.mono (handBack_unfit found' deep top') (fun _ _ _ => trivial) ?_
          rintro fault after ⟨wanted, rfl⟩
          exact .inl (.unfit wanted)

/-! One instruction -/

theorem pushScope_prompt : pushScope.Prompt := by
  refine quiet_frame.then fun frame => Prompt.sure ?_ fun _ _ => trivial
  intro machine
  rw [leads_allocContainer]
  exact ⟨fun _ => trivial, fun _ => rfl⟩

theorem popScope_prompt : popScope.Prompt := by
  refine quiet_frame.then fun frame => quiet_ensure.then fun _ => quiet_get.then fun _ => ?_
  split
  · exact prompt_throw
  · exact prompt_modify.sure fun _ _ => trivial

theorem declareFunction_prompt {name : SymbolId} {function : FunctionId} :
    (declareFunction name function).Prompt := by
  refine quiet_frame.then fun frame => quiet_get.then fun _ => quiet_ensure.then fun _ => ?_
  exact quiet_get.then fun _ => prompt_modify.sure fun _ _ => trivial

theorem openRegion_prompt : openRegion.Prompt := by
  refine quiet_get.then fun _ => quiet_get.then fun _ => quiet_ensure.then fun _ => ?_
  exact quiet_frame.then fun frame => prompt_modify.sure fun _ _ => trivial

theorem pushHandler_prompt {target : Nat} {dst : Option Reg} : (pushHandler target dst).Prompt :=
  quiet_get.then fun _ => quiet_frame.then fun _ => quiet_get.then fun _ => prompt_modify

theorem popHandler_prompt : popHandler.Prompt := by
  refine quiet_get.then fun _ => quiet_coroutine.then fun coroutine => ?_
  split
  · exact quiet_ensure.then fun _ => prompt_modify
  · exact prompt_throw

theorem hasNext_prompt {source : Reg} : (hasNext reg source).Prompt :=
  quiet_frame.then fun _ => quiet_ofExcept.then fun _ => quiet_coroutine.then fun _ => prompt_write

theorem hasShape_prompt {source : Reg} {type : TypeId} : (hasShape reg source type).Prompt := by
  refine quiet_get.then fun _ => ?_
  split
  · exact prompt_throw
  · exact quiet_read.then fun _ => prompt_write

theorem intOp_prompt {op : IntOp} {a b : Reg} : (intOp op reg a b).Prompt :=
  quiet_frame.then fun _ => quiet_ofExcept.then fun _ => quiet_ofExcept.then fun _ => prompt_write

theorem branch_prompt {condition : Reg} {whenTrue whenFalse : Nat} :
    (branch condition whenTrue whenFalse).Prompt :=
  quiet_frame.then fun _ => quiet_ofExcept.then fun _ => prompt_modify

/-- An instruction that raises nothing leaves all in place when it faults, save for `Upsets`. -/
theorem execute_careful (sound : machine.Sound) (active : machine.active? = some frame)
    (raises : machine.raised? code = none) : (execute code).Careful code machine machine := by
  have prompt {action : Action Unit} (prompt : action.Prompt) :
      (thenProceed action).Careful code machine machine :=
    (prompt_thenProceed prompt).careful .refl
  cases code with
  | const => exact prompt prompt_write
  | copy => exact prompt (quiet_read.then fun _ => prompt_write)
  | move => exact move_careful.thenProceed
  | int => exact prompt intOp_prompt
  | not => exact prompt (quiet_frame.then fun _ => quiet_ofExcept.then fun _ => prompt_write)
  | equal => exact prompt (quiet_read.then fun _ => quiet_read.then fun _ => prompt_write)
  | makeNode => exact makeNode_careful.thenProceed
  | field => exact prompt (quiet_frame.then fun _ => quiet_ofExcept.then fun _ => prompt_write)
  | hasShape => exact prompt hasShape_prompt
  | loadVar dst name =>
      unfold Careful
      simp only [execute, loadVar, leads_bind, leads_frame_active active, leads_get]
      split
      · simp only [leads_bind]
        exact (write_careful active).mono (fun _ _ _ => trivial) fun _ _ bad => bad
      · next unbound => simp [raised?, active, unbound] at raises
  | storeVar => exact storeVar_careful.thenProceed
  | declareVar => exact declareVar_careful.thenProceed
  | declareFunction => exact prompt declareFunction_prompt
  | pushScope => exact prompt pushScope_prompt
  | popScope => exact prompt popScope_prompt
  | call => exact call_careful active raises
  | «return» => exact careful_bind quiet_read .refl fun _ => returnValue_careful sound
  | createCoroutine => exact (createCoroutine_careful active).thenProceed
  | enterCoroutine => exact prompt enterCoroutine_prompt
  | hasNext => exact prompt hasNext_prompt
  | copyCoroutine => exact (copyCoroutine_careful sound.housed.sound active).thenProceed
  | yield => exact yieldValue_careful.thenProceed
  | openRegion => exact prompt openRegion_prompt
  | commitRegion => exact (closeRegion_careful sound.enabled).thenProceed
  | rollbackRegion => exact (closeRegion_careful sound.enabled).thenProceed
  | noSolution => cases raises
  | pushCatch => exact prompt pushHandler_prompt
  | popCatch => exact prompt popHandler_prompt
  | throw reg =>
      unfold Careful
      simp only [execute, leads_bind, leads_read, leads_frame_active active]
      refine ⟨fun value held => ?_, fun _ _ => .inr .refl⟩
      simp [raised?, active, held, Except.toOption] at raises
  | jump => exact prompt prompt_modify
  | branch => exact prompt branch_prompt
  | trap => exact prompt_throw.careful .refl

/-- A handler of the current coroutine that cannot catch is gone, and nothing else. -/
theorem catchCondition_intact {coroutine : Coroutine} {handler : Handler} {outer : List Handler}
    {condition : Condition} (sound : machine.Sound)
    (found : machine.coroutine? machine.current = some coroutine)
    (installed : coroutine.handlers = handler :: outer) :
    (catchCondition handler condition).Leads
      (machine.updateCoroutine machine.current ({ · with handlers := outer }))
      (fun _ _ => True) fun fault after => fault = .deadContainer → machine.Intact after := by
  have within := (sound.linked.sound found).owned (installed ▸ List.mem_cons_self)
  obtain ⟨owner, owned⟩ := Option.isSome_iff_exists.mp (Stack.at?_isSome.mpr within)
  have found' : (machine.updateCoroutine machine.current
      ({ · with handlers := outer })).coroutine? machine.current =
        some { coroutine with handlers := outer } := by
    rw [coroutine?_replace found, replace_same]
  have kept : machine.Intact
      (machine.updateCoroutine machine.current ({ · with handlers := outer })) :=
    .updateCoroutine fun _ _ => rfl
  simp only [catchCondition, leads_bind, leads_get, leads_coroutine]
  refine ⟨fun popped same => ?_, fun _ => by simp⟩
  cases Option.some.inj (found'.symm.trans same)
  simp only [owned, leads_bind, leads_get, leads_ensure]
  refine ⟨fun inScope => ?_, fun _ _ => kept⟩
  refine leads_rollbackWhile sound.enabled fun counters => ?_
  simp only [leads_updateCoroutine, leads_releaseFrames, leads_releaseContainers, leads_updateFrame,
    leads_count, leads_pure, leads_writeOption, leads_writeOptionOf]
  split
  · simp
  · trivial

theorem raise_intact {coroutine : Coroutine} {handler : Handler} {outer : List Handler}
    {cause : Cause} (sound : machine.Sound)
    (found : machine.coroutine? machine.current = some coroutine)
    (installed : coroutine.handlers = handler :: outer) :
    (raise cause).Leads machine (fun _ _ => True)
      fun fault after => fault = .deadContainer → machine.Intact after := by
  simp only [raise, leads_bind, leads_get, leads_count]
  obtain ⟨counters, counted⟩ := machine.count_eq fun counters =>
    { counters with raised := counters.raised + 1 }
  rw [counted]
  have sound' : { machine with counters }.Sound :=
    ⟨sound.enabled, sound.linked, sound.layered, sound.housed⟩
  have some_steps : ∃ steps, { machine with counters }.coroutines.size = steps + 1 :=
    ⟨_, (Nat.succ_pred_eq_of_pos (Nat.zero_lt_of_lt (Array.getElem?_eq_some_iff.mp found).1)).symm⟩
  obtain ⟨steps, size⟩ := some_steps
  rw [size, unwind]
  simp only [leads_bind, leads_get, leads_coroutine]
  refine ⟨fun same here => ?_, fun _ => by simp⟩
  cases Option.some.inj (found.symm.trans here)
  simp only [installed, leads_bind, leads_updateCoroutine]
  have counts : machine.Intact { machine with counters } := ⟨rfl, fun _ => rfl, rfl, rfl, rfl⟩
  exact (catchCondition_intact sound' found installed).mono (fun _ _ _ => trivial)
    fun _ _ intact dead => counts.trans (intact dead)

/-- A handler of the current coroutine is tried before anything is given up. -/
theorem execute_raise_intact {coroutine : Coroutine} {handler : Handler} {outer : List Handler}
    {cause : Cause} (sound : machine.Sound) (raises : machine.raised? code = some cause)
    (found : machine.coroutine? machine.current = some coroutine)
    (installed : coroutine.handlers = handler :: outer) :
    (execute code).Leads machine (fun _ _ => True)
      fun fault after => fault = .deadContainer → machine.Intact after := by
  obtain ⟨counters, same⟩ := execute_raise_eq raises
  have sound' : { machine with counters }.Sound :=
    ⟨sound.enabled, sound.linked, sound.layered, sound.housed⟩
  have counts : machine.Intact { machine with counters } := ⟨rfl, fun _ => rfl, rfl, rfl, rfl⟩
  unfold Leads
  rw [same]
  exact (raise_intact sound' found installed).mono (fun _ _ _ => trivial)
    fun _ _ intact dead => counts.trans (intact dead)

end Action

namespace Machine

variable {program : Program} {args : List Value} {settings : Settings}
  {before after machine : Machine}
  {coroutine : Coroutine} {frame : Frame} {code : Instruction} {fault : Fault} {strays : Nat}

/-- Faults that are found out only when something has been given up. -/
inductive Late (machine : Machine) : Fault → Prop
  | returned {reg : Reg} {function : String} {count : Nat}
      (next : machine.instruction? = some (.return reg)) :
      Late machine (.unbalancedRegion function count)
  | abandoned (bare : machine.bare machine.current = true) : Late machine .deadContainer
  | copied {dst source : Reg} {index : Nat}
      (next : machine.instruction? = some (.copyCoroutine dst source)) :
      Late machine (.unknownId .coroutine index)

/-- A coroutine with a handler keeps it while its frame moves on. -/
theorem exists_handler (code : Instruction) (sound : machine.Sound)
    (handled : ¬ machine.bare machine.current = true) :
    ∃ coroutine handler outer,
      (machine.fetched code).coroutine? (machine.fetched code).current = some coroutine ∧
      coroutine.handlers = handler :: outer := by
  obtain ⟨coroutine, -, current, -, -⟩ := sound.active
  rw [current_fetched, coroutine?_fetched current, replace_same]
  cases installed : coroutine.handlers with
  | nil => exact absurd (by simp [bare, current, installed]) handled
  | cons handler outer => exact ⟨_, handler, outer, rfl, installed⟩

/-- What the check rules out leaves only faults that are late. -/
theorem Poised.execute_intact (poised : machine.Poised program strays) (sound : machine.Sound)
    (next : machine.instruction? = some code)
    (faults : (machine.fetched code).Faults strays code fault) (inTime : ¬ machine.Late fault) :
    (Action.execute code).Leads (machine.fetched code) (fun _ _ => True)
      fun other after => other = fault → (machine.fetched code).Intact after := by
  have sound' : (machine.fetched code).Sound := sound.fetched
  cases raises : (machine.fetched code).raised? code with
  | none =>
      have benign : fault.Benign strays :=
        faults.resolve_right fun ⟨_, _, _, raised⟩ => by simp [raises] at raised
      obtain ⟨-, frame, -, -, active⟩ := sound'.active
      refine (Action.execute_careful sound' active raises).mono (fun _ _ _ => trivial) ?_
      rintro other after (upsets | intact) rfl
      · cases upsets with
        | unfit reg => exact absurd (benign.1 (.inr (by simp))) (by simp [Fault.internal])
        | unbalanced function count returning => exact absurd (.returned (returning ▸ next)) inTime
        | unknown index copying => exact absurd (.copied (copying ▸ next)) inTime
      · exact intact
  | some cause =>
      by_cases dead : fault = .deadContainer
      · subst dead
        obtain ⟨coroutine, handler, outer, found, installed⟩ :=
          exists_handler code sound fun bare => inTime (.abandoned bare)
        exact Action.execute_raise_intact sound' raises found installed
      · have typed : (machine.fetched code).Typed program strays := poised.fetched_typed sound
        refine (Action.execute_raise_safe typed sound' raises).mono (fun _ _ _ => trivial) ?_
        intro other _ stuck same
        exact absurd (same ▸ stuck.1) dead

/-- An instruction of a checked program that faults in time leaves all in place. -/
theorem Poised.intact (checked : program.check = .ok ()) (poised : machine.Poised program strays)
    (sound : machine.Sound) (running : machine.isRunning = true)
    (trapped : machine.step.status = .trapped fault) (inTime : ¬ machine.Late fault) :
    machine.Intact machine.step := by
  obtain ⟨code, next, faults⟩ := poised.faults checked sound running trapped
  have leads := poised.execute_intact sound next faults inTime
  unfold Action.Leads at leads
  rw [← cycle_eq next] at leads
  obtain ⟨after, intact, stopped⟩ := step_trapped sound.enabled running trapped leads
  rw [stopped]
  have ended : after.Intact { after.count (·.noteDepth after.depth) with
      status := .trapped fault } :=
    Intact.trans .count ⟨rfl, fun _ => rfl, rfl, rfl, rfl⟩
  exact (Intact.fetched.trans (intact rfl)).trans ended

/-- A host sees the same machine as before the instruction that faulted. -/
structure KeepsView (before after : Machine) : Prop extends before.Intact after where
  /-- The active frame is where it was, save for its position in the code. -/
  active : ∃ view view', before.activeView? = some view ∧ after.activeView? = some view' ∧
    view'.id = view.id ∧ view'.coroutine = view.coroutine ∧ view'.depth = view.depth

theorem activeView?_eq (current : machine.coroutine? machine.current = some coroutine)
    (top : coroutine.active? = some frame) :
    machine.activeView? = some ⟨frame.id, frame.function, frame.pc, machine.current,
      coroutine.depth - 1, frame.isEntry⟩ := by
  simp [activeView?, current, top]

theorem Intact.keepsView (intact : before.Intact after) (sound : before.Sound) :
    before.KeepsView after := by
  obtain ⟨coroutine, frame, current, top, -⟩ := sound.active
  have same := intact.frames before.current
  rw [current] at same
  obtain ⟨coroutine', current', ids⟩ := Option.map_eq_some_iff.mp same
  obtain ⟨below, items⟩ := List.head?_eq_some_iff.mp top
  simp only [items, List.map_cons] at ids
  obtain ⟨frame', below', items', id, -⟩ := List.map_eq_cons_iff.mp ids
  have top' : coroutine'.active? = some frame' := by rw [Coroutine.active?, Stack.top?, items']; rfl
  have deep : coroutine'.depth = coroutine.depth := by
    rw [Coroutine.depth, Coroutine.depth, Stack.size_eq, Stack.size_eq, ← List.length_map Frame.id,
      ids, items, List.length_cons, List.length_cons, List.length_map]
  have viewed := activeView?_eq current top
  have viewed' := activeView?_eq (intact.current.symm ▸ current') top'
  exact { intact with active := ⟨_, _, viewed, viewed', id, intact.current, congrArg (· - 1) deep⟩ }

/-- A fault of a checked program leaves the view of the instruction that failed, save where it is
late. -/
theorem Reachable.trapped_view (checked : program.check = .ok ())
    (reachable : Reachable program args settings machine) (running : machine.isRunning = true)
    (trapped : machine.step.status = .trapped fault) (inTime : ¬ machine.Late fault) :
    machine.KeepsView machine.step := by
  obtain ⟨strays, bounded⟩ :=
    Value.exists_bounded_list fun value (_ : value ∈ args) => value.exists_bounded
  have sound := reachable.sound running
  have poised := reachable.poised checked bounded running
  exact (poised.intact checked sound running trapped inTime).keepsView sound

/-- The entry function copies a coroutine that it has entered. -/
def copyingProgram : Program :=
  { Program.empty with
    functions := #[
      { name := "main", registerCount := 2, parameterCount := 0, parameters := []
        code := #[.createCoroutine 0 ⟨1⟩ [], .enterCoroutine none 0 none, .copyCoroutine 1 0,
          .return 0] },
      { name := "inner", registerCount := 1, parameterCount := 0, parameters := []
        code := #[.pushScope, .yield none, .return 0] }]
    functionIndex := .ofList [("main", FunctionId.mk 0), ("inner", FunctionId.mk 1)] }

theorem trapped_view_copying :
    ∃ initial, start copyingProgram [] .standard = .ok initial ∧
      (initial.run 4).step.status = .trapped .copyStarted ∧
      (initial.run 4).KeepsView (initial.run 4).step := by
  have runs : (match start copyingProgram [] .standard with
      | .ok initial => decide ((initial.run 4).isRunning = true ∧
          (initial.run 4).step.status = .trapped .copyStarted)
      | .error _ => false) = true := by decide +kernel
  split at runs
  · next initial started =>
      obtain ⟨running, trapped⟩ := of_decide_eq_true runs
      have checked : copyingProgram.check = .ok () := by decide +kernel
      exact ⟨initial, started, trapped,
        Reachable.trapped_view checked ⟨initial, started, reaches_run 4⟩ running trapped
          fun late => by cases late⟩
  · cases runs

/-- The entry function returns while a region of its own is open. -/
def unbalancedProgram : Program :=
  { Program.empty with
    functions := #[
      { name := "main", registerCount := 1, parameterCount := 0, parameters := []
        code := #[.openRegion, .const 0 (.int 1), .return 0] }]
    functionIndex := .ofList [("main", FunctionId.mk 0)] }

/-- A frame that returns too early is gone when that is found out. -/
theorem trapped_view_unbalanced :
    ¬ ∀ (program : Program) (args : List Value) (settings : Settings) (machine : Machine)
      (fault : Fault), program.check = .ok () → Reachable program args settings machine →
      machine.isRunning = true → machine.step.status = .trapped fault →
      machine.KeepsView machine.step := by
  intro keeps
  have runs : (match start unbalancedProgram [] .standard with
      | .ok initial => decide ((initial.run 2).isRunning = true ∧
          (initial.run 2).step.status = .trapped (.unbalancedRegion "main" 1) ∧
          (initial.run 2).step.activeView? = none)
      | .error _ => false) = true := by decide +kernel
  split at runs
  · next initial started =>
      obtain ⟨running, trapped, gone⟩ := of_decide_eq_true runs
      have checked : unbalancedProgram.check = .ok () := by decide +kernel
      have kept := keeps unbalancedProgram [] .standard (initial.run 2) _ checked
        ⟨initial, started, reaches_run 2⟩ running trapped
      obtain ⟨_, _, -, active, -⟩ := kept.active
      rw [gone] at active
      cases active
  · cases runs

end Machine

end Backtrack
