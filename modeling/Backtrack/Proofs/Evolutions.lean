import Backtrack.Proofs.Effects
import Backtrack.Proofs.Positions
import Backtrack.Machine.Step
import Mathlib.Data.List.TakeWhile

/-!
Instructions as effects: wherever an instruction does not fault and does not end the run, it is
nothing but effects in a row, and where it faults it stands between two effects or at one of the few
places within one. There is one lemma for each action that instructions are made of; those that undo
regions need every open region to have an open log.
-/

namespace Backtrack

namespace Arena

variable {arena : Arena} {id : ContainerId} {name : SymbolId}

theorem mem_ancestry : id ∈ arena.ancestry id := by
  rw [ancestry, reach, chain_succ]
  exact List.mem_cons_self

/-- A variable is stored in a container on the chain. -/
theorem target_mem_ancestry : (arena.findVar? id name).getD id ∈ arena.ancestry id := by
  rw [findVar?_eq_find?]
  cases found : (arena.ancestry id).find? fun id => (arena.var? id name).isSome with
  | none => exact mem_ancestry
  | some target => exact List.mem_of_find?_eq_some found

end Arena

namespace Action

open Machine

variable {code : Instruction} {before machine : Machine} {reg : Reg} {value : Value}

/-! Writing registers -/

theorem write_evolves (soFar : before.Evolves code machine) :
    (write reg value).Leads machine (fun _ => before.Evolves code) fun _ => before.Breaks code := by
  simp only [leads_write, leads_writeOf, leads_frameOf, Breaks.between soFar, implies_true, and_true]
  exact fun _ _ _ _ _ => soFar.put

/-- A coroutine that is about to become current is written to. -/
theorem writeOptionOf_evolves {id : CoroutineId} {reg : Option Reg}
    (soFar : before.Evolves code { machine with current := id }) :
    (writeOptionOf id reg value).Leads machine
      (fun _ after => before.Evolves code { after with current := id })
      fun _ => before.Breaks code := by
  cases reg with
  | none => exact soFar
  | some reg =>
      simp only [leads_writeOptionOf, leads_writeOf, leads_frameOf, Breaks.unswitched id soFar,
        implies_true, and_true]
      exact fun _ _ _ _ _ => soFar.put

theorem writeOption_evolves {reg : Option Reg} (soFar : before.Evolves code machine) :
    (writeOption reg value).Leads machine (fun _ => before.Evolves code)
      fun _ => before.Breaks code := by
  cases reg with
  | none => simpa using soFar
  | some reg =>
      have written : (write reg value).Leads machine (fun _ => before.Evolves code)
        fun _ => before.Breaks code := write_evolves soFar
      simpa using written

theorem handBack_evolves {link : CallerLink} {ok : Bool} {out : Option Value}
    (soFar : before.Evolves code { machine with current := link.coroutine }) :
    (handBack link ok out).Leads machine (fun _ => before.Evolves code)
      fun _ => before.Breaks code := by
  simp only [handBack, leads_bind, leads_get, leads_coroutine, leads_ensure,
    Breaks.unswitched _ soFar, implies_true, and_true]
  intro target found ready
  refine (writeOptionOf_evolves soFar).mono (fun _ after told => ?_) fun _ _ breaks => breaks
  cases out with
  | none => exact told
  | some value =>
      simp only [leads_bind, leads_modify]
      exact writeOptionOf_evolves told

/-! Computation -/

theorem makeNode_evolves {ctor : ConstructorId} {fields : List Reg}
    (soFar : before.Evolves code machine) :
    (makeNode reg ctor fields).Leads machine (fun _ => before.Evolves code)
      fun _ => before.Breaks code := by
  simp only [makeNode, leads_bind, leads_get]
  split
  · exact .between soFar
  · simp only [leads_bind, leads_ensure, leads_frame, leads_ofExcept, leads_intern,
      Breaks.between soFar, implies_true, and_true]
    exact fun _ _ _ _ _ => write_evolves (soFar.then (.intern _))

theorem hasShape_evolves {type : TypeId} {source : Reg} (soFar : before.Evolves code machine) :
    (hasShape reg source type).Leads machine (fun _ => before.Evolves code)
      fun _ => before.Breaks code := by
  simp only [hasShape, leads_bind, leads_get]
  split
  · exact .between soFar
  · simp only [leads_bind, leads_read, leads_frame, Breaks.between soFar, implies_true, and_true]
    exact fun _ _ _ _ => write_evolves soFar

theorem move_evolves {source : Reg} (soFar : before.Evolves code machine) :
    (move reg source).Leads machine (fun _ => before.Evolves code)
      fun _ => before.Breaks code := by
  simp only [move, leads_bind, leads_read, leads_frame, leads_updateFrame, Breaks.between soFar,
    implies_true, and_true]
  exact fun _ _ _ _ => write_evolves soFar.put

theorem branch_evolves {whenTrue whenFalse : Nat} (soFar : before.Evolves code machine) :
    (branch reg whenTrue whenFalse).Leads machine (fun _ => before.Evolves code)
      fun _ => before.Breaks code := by
  simp only [branch, leads_bind, leads_frame, leads_ofExcept, leads_updateFrame,
    Breaks.between soFar, implies_true, and_true]
  exact fun _ _ holds _ => soFar.goto fun _ => if holds then whenTrue else whenFalse

/-! Bindings -/

theorem bindVar_evolves {target : ContainerId} {name : SymbolId} {frame : Frame}
    (binding : ∃ src, code = .storeVar name src ∨ code = .declareVar name src)
    (active : machine.active? = some frame) (inScope : target ∈ machine.arena.ancestry frame.scope)
    (soFar : before.Evolves code machine) :
    (bindVar target name value).Leads machine (fun _ => before.Evolves code)
      fun _ => before.Breaks code := by
  simp only [bindVar, logAll, leads_bind, leads_get, leads_modify, leads_ensure, leads_updateArena]
  exact ⟨fun live => soFar.then (.bindVar name value live binding active inScope),
    .stale soFar active inScope⟩

theorem storeVar_evolves {name : SymbolId} (storing : code = .storeVar name reg)
    (soFar : before.Evolves code machine) :
    (storeVar name reg).Leads machine (fun _ => before.Evolves code)
      fun _ => before.Breaks code := by
  simp only [storeVar, leads_bind, leads_frame, leads_ofExcept, leads_get, Breaks.between soFar,
    implies_true, and_true]
  exact fun frame active _ _ =>
    bindVar_evolves ⟨reg, .inl storing⟩ active Arena.target_mem_ancestry soFar

theorem declareVar_evolves {name : SymbolId} (declaring : code = .declareVar name reg)
    (soFar : before.Evolves code machine) :
    (declareVar name reg).Leads machine (fun _ => before.Evolves code)
      fun _ => before.Breaks code := by
  simp only [declareVar, leads_bind, leads_frame, leads_ofExcept, Breaks.between soFar,
    implies_true, and_true]
  exact fun frame active _ _ =>
    bindVar_evolves ⟨reg, .inr declaring⟩ active Arena.mem_ancestry soFar

theorem declareFunction_evolves {name : SymbolId} {function : FunctionId}
    (declaring : code = .declareFunction name function) (soFar : before.Evolves code machine) :
    (declareFunction name function).Leads machine (fun _ => before.Evolves code)
      fun _ => before.Breaks code := by
  simp only [declareFunction, logAll, leads_bind, leads_frame, leads_get, leads_ensure,
    leads_modify, leads_updateArena, Breaks.between soFar, implies_true, and_true]
  exact fun frame active live => soFar.then
    (.bindCandidates name _ live ⟨function, declaring⟩ active Arena.mem_ancestry)

theorem pushScope_evolves (pushing : code = .pushScope) (soFar : before.Evolves code machine) :
    pushScope.Leads machine (fun _ => before.Evolves code) fun _ => before.Breaks code := by
  simp only [pushScope, leads_bind, leads_frame, leads_allocContainer, leads_updateFrame,
    Breaks.between soFar, implies_true, and_true]
  exact fun _ active _ => soFar.then (.pushScope active pushing)

theorem popScope_evolves (popping : code = .popScope) (soFar : before.Evolves code machine) :
    popScope.Leads machine (fun _ => before.Evolves code) fun _ => before.Breaks code := by
  simp only [popScope, leads_bind, leads_frame, leads_ensure, leads_get, Breaks.between soFar,
    implies_true, and_true]
  intro frame active inner
  split
  · exact .between soFar
  · next parent enclosed =>
      simp only [leads_bind, leads_releaseContainer, leads_updateFrame]
      exact soFar.then (.popScope popping active inner enclosed)

/-! Calls and coroutines -/

theorem pushCall_evolves {function : FunctionId} {args : List Value} {dst : Option Reg}
    {caller : Frame} (active : machine.active? = some caller)
    (calling : ∃ callee args, code = .call dst callee args) (soFar : before.Evolves code machine) :
    (pushCall function args dst).Leads machine (fun _ => before.Evolves code)
      fun _ => before.Breaks code := by
  simp only [pushCall, leads_bind, leads_get, leads_coroutine, leads_ensure, Breaks.between soFar,
    implies_true, and_true]
  intro _ _ _
  refine leads_newFrame (fun _ => .between soFar) (fun _ _ _ => .between soFar)
    (fun _ => .between soFar) (fun _ _ _ _ _ _ _ => .placed soFar) fun unit registers _ _ _ _ => ?_
  exact soFar.then (.call dst function registers active calling)

theorem createCoroutine_evolves {function : FunctionId} {args : List Reg}
    (creating : code = .createCoroutine reg function args) (soFar : before.Evolves code machine) :
    (createCoroutine reg function args).Leads machine (fun _ => before.Evolves code)
      fun _ => before.Breaks code := by
  simp only [createCoroutine, nextCoroutine, addCoroutine, leads_bind, leads_get, leads_ensure,
    leads_pure, leads_frame, leads_ofExcept, Breaks.between soFar, implies_true, and_true]
  intro _ _ _ _ _
  refine leads_newFrame (fun _ => .between soFar) (fun _ _ _ => .between soFar)
    (fun _ => .between soFar) (fun _ _ _ _ _ _ _ => .placed soFar) fun unit registers _ _ _ _ => ?_
  exact write_evolves (soFar.then (.create function registers ⟨reg, args, creating⟩))

theorem copyCoroutine_evolves {source : Reg} (copying : code = .copyCoroutine reg source)
    (soFar : before.Evolves code machine) :
    (copyCoroutine reg source).Leads machine (fun _ => before.Evolves code)
      fun _ => before.Breaks code := by
  have placed := Breaks.placed soFar
  simp only [copyCoroutine, nextCoroutine, leads_bind, leads_frame, leads_ofExcept, leads_get,
    leads_ensure, leads_pure, leads_allocContainer, leads_freshFrameId, leads_coroutine,
    Breaks.between soFar, implies_true, and_true]
  intro _ _ _ _ _ _
  refine ⟨fun original found => ?_, fun _ => placed⟩
  split
  · next copy copied =>
      obtain ⟨entry, single, unstarted, parked, rfl⟩ := Coroutine.copy_eq copied
      simp only [addCoroutine, leads_bind, leads_modify]
      exact write_evolves (soFar.then (.copy found single unstarted parked ⟨reg, source, copying⟩))
  · simp only [leads_bind, leads_releaseContainer, leads_throw]
    exact .withdrawn soFar

theorem enterCoroutine_evolves {dst out : Option Reg} (entering : code = .enterCoroutine dst reg out)
    (soFar : before.Evolves code machine) :
    (enterCoroutine dst reg out).Leads machine (fun _ => before.Evolves code)
      fun _ => before.Breaks code := by
  simp only [enterCoroutine, leads_bind, leads_frame, leads_ofExcept, leads_coroutine,
    Breaks.between soFar, implies_true, and_true]
  intro frame active id _ entered found
  split
  · exact writeOption_evolves soFar
  · next alive =>
      simp only [leads_bind, leads_get, leads_ofExcept, leads_updateCoroutine, leads_modify,
        Breaks.between soFar, implies_true, and_true]
      intro running changed
      obtain ⟨parked, rfl⟩ := Coroutine.enter_eq changed
      exact soFar.then (.enter dst out active found parked ⟨reg, entering⟩)

theorem hasNext_evolves {source : Reg} (soFar : before.Evolves code machine) :
    (hasNext reg source).Leads machine (fun _ => before.Evolves code)
      fun _ => before.Breaks code := by
  simp only [hasNext, leads_bind, leads_frame, leads_ofExcept, leads_coroutine,
    Breaks.between soFar, implies_true, and_true]
  exact fun _ _ _ _ _ _ => write_evolves soFar

theorem yieldValue_evolves {reg : Option Reg} (yields : code = .yield reg)
    (soFar : before.Evolves code machine) :
    (yieldValue reg).Leads machine (fun _ => before.Evolves code)
      fun _ => before.Breaks code := by
  have suspends (value : Value) : (suspendWith value).Leads machine
      (fun _ => before.Evolves code) fun _ => before.Breaks code := by
    refine suspendWith_leads (fun coroutine link current running waiting closed => ?_)
      (fun _ => .between soFar) (fun _ _ _ _ => .between soFar) fun _ => .between soFar
    exact handBack_evolves (soFar.then (.yield current running waiting closed ⟨reg, yields⟩))
  cases reg with
  | none => exact leads_yieldValue_none.mpr ⟨fun _ => suspends .unit, fun _ => .between soFar⟩
  | some reg =>
      simp only [leads_yieldValue_some, leads_frame, Breaks.between soFar, implies_true, and_true]
      exact fun _ _ _ value _ => suspends value

/-! Regions and handlers -/

theorem openRegion_evolves (opening : code = .openRegion) (soFar : before.Evolves code machine) :
    openRegion.Leads machine (fun _ => before.Evolves code) fun _ => before.Breaks code := by
  simp only [openRegion, leads_bind, leads_get, leads_ensure, leads_frame, leads_modify,
    leads_count, Breaks.between soFar, implies_true, and_true]
  exact fun _ _ active => (soFar.then (.openRegion opening active)).count

theorem closeRegion_evolves {closing : Closing} (enabled : machine.AllEnabled)
    (closes : code = match closing with | .commit => .commitRegion | .rollback => .rollbackRegion)
    (soFar : before.Evolves code machine) :
    (closeRegion closing).Leads machine (fun _ => before.Evolves code)
      fun _ => before.Breaks code := by
  simp only [closeRegion, leads_bind, leads_frame, leads_get, Breaks.between soFar, implies_true,
    and_true]
  intro frame active
  split
  · exact .between soFar
  · next region top =>
      obtain ⟨rest, stacked⟩ := List.head?_eq_some_iff.mp top
      have below : machine.regions.pop = .ofItems rest := Stack.ext (by simp [stacked])
      have opened := enabled region (by simp [stacked])
      simp only [leads_bind, leads_ensure, Breaks.between soFar, implies_true, and_true]
      intro own
      cases closing with
      | commit =>
          simp only [commitInnermost, popRegion, leads_bind, leads_get, top, leads_modify,
            leads_pure, leads_ofExcept, RollbackLog.commit, opened, if_true, Except.ok.injEq,
            leads_count, reduceCtorEq, false_implies, implies_true, and_true, below, forall_eq']
          exact (soFar.then (.commitRegion stacked closes active own)).count
      | rollback =>
          exact leads_rollbackInnermost stacked opened fun counters =>
            (soFar.then (.rollbackRegion stacked closes active own)).then (.count counters)

theorem pushHandler_evolves {target : Nat} {dst : Option Reg} (guarding : code = .pushCatch target dst)
    (soFar : before.Evolves code machine) :
    (pushHandler target dst).Leads machine (fun _ => before.Evolves code)
      fun _ => before.Breaks code := by
  simp only [pushHandler, leads_bind, leads_get, leads_frame, leads_updateCoroutine,
    Breaks.between soFar, implies_true, and_true]
  intro frame active
  obtain ⟨coroutine, current, top⟩ := Option.bind_eq_some_iff.mp active
  exact soFar.then (.pushHandler target dst current top guarding)

theorem popHandler_evolves (popping : code = .popCatch) (soFar : before.Evolves code machine) :
    popHandler.Leads machine (fun _ => before.Evolves code) fun _ => before.Breaks code := by
  simp only [popHandler, leads_bind, leads_get, leads_coroutine, Breaks.between soFar,
    implies_true, and_true]
  intro coroutine current
  split
  · next handler outer installed =>
      simp only [leads_bind, leads_ensure, leads_updateCoroutine, Breaks.between soFar,
        implies_true, and_true]
      exact fun innermost => soFar.then (.popHandler current installed innermost popping)
  · exact .between soFar

/-! Conditions -/

theorem abandon_evolves {coroutine : Coroutine} (enabled : machine.AllEnabled)
    (raising : code.raises = true)
    (current : machine.coroutine? machine.current = some coroutine)
    (bare : coroutine.handlers = []) (inner : machine.current ≠ .root)
    (soFar : before.Evolves code machine) :
    (abandon coroutine).Leads machine
      (fun _ after => before.Evolves code after ∧ after.AllEnabled)
      fun _ => before.Breaks code := by
  simp only [abandon, leads_bind, leads_get, leads_updateCoroutine]
  refine leads_rollbackWhile enabled fun counters => ?_
  simp only [leads_releaseFrames]
  split
  · next alone => exact .orphaned soFar current inner alone
  · next link waiting =>
      have left := (soFar.then (.abandon current bare inner waiting raising)).then (.count counters)
      simp only [leads_bind, leads_coroutine, leads_ensure, leads_modify]
      refine ⟨fun waiter found => ⟨fun ready => ⟨left, fun region member => enabled region ?_⟩,
        fun stale => ?_⟩, fun missing => ?_⟩
      · exact (List.dropWhile_sublist _).subset member
      · exact .unswitched link.coroutine left
      · exact .unswitched link.coroutine left

theorem catchCondition_evolves {coroutine : Coroutine} {handler : Handler} {outer : List Handler}
    {condition : Condition} (enabled : machine.AllEnabled) (raising : code.raises = true)
    (current : machine.coroutine? machine.current = some coroutine)
    (installed : coroutine.handlers = handler :: outer) (soFar : before.Evolves code machine) :
    (catchCondition handler condition).Leads
      (machine.updateCoroutine machine.current ({ · with handlers := outer }))
      (fun _ => before.Evolves code) fun _ => before.Breaks code := by
  have found : (machine.updateCoroutine machine.current
      ({ · with handlers := outer })).coroutine? machine.current =
        some { coroutine with handlers := outer } := by
    rw [Machine.coroutine?_updateCoroutine, if_pos rfl, current]
    rfl
  have outside := Breaks.outside soFar current installed
  simp only [catchCondition, leads_bind, leads_get, leads_coroutine]
  refine ⟨fun popped same => ?_, fun _ => outside⟩
  cases Option.some.inj (found.symm.trans same)
  split
  · exact outside
  · next owner owned =>
      simp only [leads_bind, leads_get, leads_ensure]
      refine ⟨fun inScope => ?_, fun _ => outside⟩
      refine leads_rollbackWhile enabled fun counters => ?_
      simp only [leads_updateCoroutine, leads_releaseFrames, leads_releaseContainers,
        leads_updateFrame]
      have caught :=
        (soFar.then (.catch current installed owned inScope raising)).then (.count counters)
      have inTurn : machine.updateCoroutine machine.current (fun coroutine => { coroutine with
          handlers := outer
          frames := coroutine.frames.below (handler.depth + 1) }) =
            (machine.updateCoroutine machine.current ({ · with handlers := outer })).updateCoroutine
              machine.current fun coroutine => { coroutine with
                frames := coroutine.frames.below (handler.depth + 1) } := by
        rw [Machine.updateCoroutine_twice]
      rw [inTurn] at caught
      refine (writeOption_evolves caught).mono (fun _ after written => ?_) fun _ _ breaks => breaks
      exact written.count

theorem unwind_evolves {condition : Condition} {steps : Nat} (enabled : machine.AllEnabled)
    (raising : code.raises = true) (soFar : before.Evolves code machine) :
    (unwind condition steps).Leads machine (fun _ => before.Evolves code)
      fun _ => before.Breaks code := by
  induction steps generalizing machine with
  | zero => exact .between soFar
  | succ steps ih =>
      simp only [unwind, leads_bind, leads_get, leads_coroutine, Breaks.between soFar,
        implies_true, and_true]
      intro coroutine current
      split
      · next handler outer installed =>
          simp only [leads_bind, leads_updateCoroutine]
          exact catchCondition_evolves enabled raising current installed soFar
      · next bare =>
          split
          · simp only [leads_bind, leads_pure]
            refine leads_rollbackWhile enabled fun counters => ?_
            have everything : machine.regions.items.takeWhile (fun _ => true) =
                machine.regions.items := List.takeWhile_eq_self_iff.mpr fun _ _ => rfl
            have nothing : machine.regions.items.dropWhile (fun _ => true) = [] :=
              List.dropWhile_eq_nil_iff.mpr fun _ _ => rfl
            rw [everything, nothing]
            exact (soFar.then (.undoAll raising)).then (.count counters)
          · next inner =>
              simp only [leads_bind]
              exact (abandon_evolves enabled raising current bare inner soFar).mono
                (fun _ _ reached => ih reached.2 reached.1) fun _ _ breaks => breaks

theorem raise_evolves {cause : Cause} (enabled : machine.AllEnabled) (raising : code.raises = true)
    (soFar : before.Evolves code machine) :
    (raise cause).Leads machine (fun _ => before.Evolves code) fun _ => before.Breaks code := by
  simp only [raise, leads_bind, leads_get, leads_count]
  obtain ⟨counters, counted⟩ := machine.count_eq fun counters =>
    { counters with raised := counters.raised + 1 }
  rw [counted]
  exact unwind_evolves enabled raising (soFar.then (.count counters))

theorem loadVar_evolves {name : SymbolId} (enabled : machine.AllEnabled)
    (raising : code.raises = true) (soFar : before.Evolves code machine) :
    (loadVar reg name).Leads machine (fun _ => before.Evolves code)
      fun _ => before.Breaks code := by
  simp only [loadVar, leads_bind, leads_frame, leads_get, Breaks.between soFar, implies_true,
    and_true]
  intro frame active
  split
  · simpa only [leads_bind, leads_pure] using write_evolves soFar
  · exact raise_evolves enabled raising soFar

theorem call_evolves {dst : Option Reg} {callee : Callee} {args : List Reg}
    (enabled : machine.AllEnabled) (calling : code = .call dst callee args)
    (soFar : before.Evolves code machine) :
    (call dst callee args).Leads machine (fun _ => before.Evolves code)
      fun _ => before.Breaks code := by
  simp only [call, leads_bind, leads_frame, leads_ofExcept, Breaks.between soFar, implies_true,
    and_true]
  intro caller active values passed
  cases callee with
  | direct function =>
      simpa only [leads_bind, leads_pure] using pushCall_evolves active ⟨_, _, calling⟩ soFar
  | overloaded name =>
      simp only [leads_bind, leads_get]
      split
      · next function selected =>
          simp only [countTried, leads_bind, leads_count, leads_pure]
          obtain ⟨counters, counted⟩ := machine.count_eq _
          rw [counted]
          exact pushCall_evolves active ⟨_, _, calling⟩ (soFar.then (.count counters))
      · next cause unresolved =>
          simp only [countTried, leads_bind, leads_count]
          obtain ⟨counters, counted⟩ := machine.count_eq _
          rw [counted]
          exact raise_evolves enabled (by rw [calling]; rfl) (soFar.then (.count counters))

/-! Instructions -/

/-- Only the end of the root's entry frame ends a run with a value. -/
theorem returnValue_evolves (returning : ∃ reg, code = .return reg)
    (soFar : before.Evolves code machine) :
    (returnValue value).Leads machine
      (fun outcome after => (∃ value, outcome = .done value) ∨ before.Evolves code after)
      fun _ => before.Breaks code := by
  simp only [returnValue, leads_bind, leads_get, leads_coroutine, Breaks.between soFar,
    implies_true, and_true]
  intro coroutine current
  split
  · exact .between soFar
  · next frame active =>
      simp only [leads_bind, leads_updateCoroutine, leads_get, leads_ensure, leads_releaseFrame,
        Breaks.unbalanced soFar current active, implies_true, and_true, List.countP_eq_zero,
        decide_eq_true_eq]
      intro closed
      split
      · next dst callee =>
          have returned := soFar.then (.return current active callee closed returning)
          simp only [leads_bind, leads_frame]
          refine ⟨fun _ _ => ?_, fun _ _ _ => .between returned, fun _ => .between returned⟩
          exact (writeOption_evolves returned).mono
            (fun _ _ written => .inr written) fun _ _ breaks => breaks
      · next entry =>
          split
          · exact .inl ⟨value, rfl⟩
          · next inner =>
              split
              · next alone => exact .orphaned soFar current inner alone
              · next link waiting =>
                  simp only [leads_bind]
                  exact (handBack_evolves
                    (soFar.then (.finish current active entry waiting closed returning))).mono
                      (fun _ _ handed => .inr handed) fun _ _ breaks => breaks

theorem execute_evolves (enabled : machine.AllEnabled)
    (soFar : before.Evolves code machine) :
    (execute code).Leads machine
      (fun outcome after => (∃ value, outcome = .done value) ∨ before.Evolves code after)
      fun _ => before.Breaks code := by
  have goesOn {action : Action Unit} (evolves : action.Leads machine
      (fun _ => before.Evolves code) fun _ => before.Breaks code) :
      (thenProceed action).Leads machine
        (fun outcome after => (∃ value, outcome = .done value) ∨ before.Evolves code after)
        fun _ => before.Breaks code := by
    simp only [thenProceed, leads_bind]
    exact evolves.mono (fun _ _ evolved => .inr evolved) fun _ _ breaks => breaks
  have orRaises {action : Action Outcome} (evolves : action.Leads machine
      (fun _ => before.Evolves code) fun _ => before.Breaks code) :
      action.Leads machine
        (fun outcome after => (∃ value, outcome = .done value) ∨ before.Evolves code after)
        fun _ => before.Breaks code :=
    evolves.mono (fun _ _ evolved => .inr evolved) fun _ _ breaks => breaks
  have stops := Breaks.between soFar
  cases code with
  | const dst literal => exact goesOn (write_evolves soFar)
  | copy dst src =>
      refine goesOn ?_
      simp only [leads_bind, leads_read, leads_frame, stops, implies_true, and_true]
      exact fun _ _ _ _ => write_evolves soFar
  | move dst src => exact goesOn (move_evolves soFar)
  | int op dst a b =>
      refine goesOn ?_
      simp only [intOp, leads_bind, leads_frame, leads_ofExcept, stops, implies_true, and_true]
      exact fun _ _ _ _ _ _ => write_evolves soFar
  | not dst source =>
      refine goesOn ?_
      simp only [leads_bind, leads_frame, leads_ofExcept, stops, implies_true, and_true]
      exact fun _ _ _ _ => write_evolves soFar
  | equal dst a b =>
      refine goesOn ?_
      simp only [leads_bind, leads_read, leads_frame, stops, implies_true, and_true]
      exact fun _ _ _ _ _ _ _ _ => write_evolves soFar
  | makeNode dst ctor fields => exact goesOn (makeNode_evolves soFar)
  | field dst node position =>
      refine goesOn ?_
      simp only [leads_bind, leads_frame, leads_ofExcept, stops, implies_true, and_true]
      exact fun _ _ _ _ => write_evolves soFar
  | hasShape dst source type => exact goesOn (hasShape_evolves soFar)
  | loadVar dst name => exact orRaises (loadVar_evolves enabled rfl soFar)
  | storeVar name src => exact goesOn (storeVar_evolves rfl soFar)
  | declareVar name src => exact goesOn (declareVar_evolves rfl soFar)
  | declareFunction name function => exact goesOn (declareFunction_evolves rfl soFar)
  | pushScope => exact goesOn (pushScope_evolves rfl soFar)
  | popScope => exact goesOn (popScope_evolves rfl soFar)
  | call dst callee args => exact orRaises (call_evolves enabled rfl soFar)
  | «return» reg =>
      simp only [execute, leads_bind, leads_read, leads_frame, stops, implies_true, and_true]
      exact fun _ _ _ _ => returnValue_evolves ⟨reg, rfl⟩ soFar
  | createCoroutine dst function args => exact goesOn (createCoroutine_evolves rfl soFar)
  | enterCoroutine dst coroutine out => exact goesOn (enterCoroutine_evolves rfl soFar)
  | hasNext dst coroutine => exact goesOn (hasNext_evolves soFar)
  | copyCoroutine dst coroutine => exact goesOn (copyCoroutine_evolves rfl soFar)
  | yield reg => exact goesOn (yieldValue_evolves rfl soFar)
  | openRegion => exact goesOn (openRegion_evolves rfl soFar)
  | commitRegion => exact goesOn (closeRegion_evolves enabled rfl soFar)
  | rollbackRegion => exact goesOn (closeRegion_evolves enabled rfl soFar)
  | noSolution => exact orRaises (raise_evolves enabled rfl soFar)
  | pushCatch target dst => exact goesOn (pushHandler_evolves rfl soFar)
  | popCatch => exact goesOn (popHandler_evolves rfl soFar)
  | throw reg =>
      refine orRaises ?_
      simp only [execute, leads_bind, leads_read, leads_frame, stops, implies_true, and_true]
      exact fun _ _ _ _ => raise_evolves enabled rfl soFar
  | jump target => exact goesOn (soFar.goto _)
  | branch condition whenTrue whenFalse => exact goesOn (branch_evolves soFar)
  | trap message => exact stops

end Action

end Backtrack
