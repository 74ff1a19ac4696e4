import Backtrack.Proofs.Effects
import Backtrack.Machine.Step

/-!
Two machines in tandem. Nothing that a machine does depends on what it counted, or on whether it
counts. So two machines that differ in nothing else do the same with every instruction, and whatever
relates them is kept by the instruction if each small change of state keeps it. A property of one
machine is the case in which the two are the same.
-/

namespace Backtrack

namespace Machine

/-- The machine as it would be with these counters. -/
def metered (machine : Machine) (counters : Counters) (collecting collectCounters : Bool) :
    Machine :=
  { machine with
    counters
    collecting
    settings := { machine.settings with collectCounters } }

/-- The machine without its counters and the switches for them. -/
def unmetered (machine : Machine) : Machine :=
  machine.metered .zero false false

/-- Machines that are alike without their counters differ in their counters only. -/
theorem metered_of_unmetered {left right : Machine} (alike : left.unmetered = right.unmetered) :
    right = left.metered right.counters right.collecting right.settings.collectCounters := by
  obtain ⟨_, settings, _, _, _, _, _, _, _, _, _, _, _⟩ := left
  obtain ⟨_, settings', _, _, _, _, _, _, _, _, _, _, _⟩ := right
  obtain ⟨_, _, _, _, _⟩ := settings
  obtain ⟨_, _, _, _, _⟩ := settings'
  simpa [unmetered, metered, eq_comm] using alike

end Machine

/-! What is counted in the course of an instruction -/

namespace Counters

def opening (counters : Counters) : Counters :=
  { counters with regionsOpened := counters.regionsOpened + 1 }

def committing (counters : Counters) : Counters :=
  { counters with regionsCommitted := counters.regionsCommitted + 1 }

def undoing (restored : Nat) (counters : Counters) : Counters :=
  { counters with
    regionsRolledBack := counters.regionsRolledBack + 1
    bindingsRestored := counters.bindingsRestored + restored }

def trying (tried : Nat) (counters : Counters) : Counters :=
  { counters with candidatesTried := counters.candidatesTried + tried }

def raising (counters : Counters) : Counters :=
  { counters with raised := counters.raised + 1 }

def catching (counters : Counters) : Counters :=
  { counters with caught := counters.caught + 1 }

end Counters

/-- A relation that every small change of two machines keeps. Regions change together with their
counters. What is left out here differs between instructions. -/
structure Parallel (good : Machine → Machine → Prop) (bad : Machine → Machine → Prop) : Prop where
  alike {left right : Machine} (holds : good left right) : left.unmetered = right.unmetered
  fault {left right : Machine} (holds : good left right) : bad left right
  coroutine {left right : Machine} (holds : good left right) (id : CoroutineId)
    (change : Coroutine → Coroutine) :
    good (left.updateCoroutine id change) (right.updateCoroutine id change)
  current {left right : Machine} (holds : good left right) (current : CoroutineId) :
    good { left with current } { right with current }
  arena {left right : Machine} (holds : good left right) (arena : Arena) :
    good { left with arena } { right with arena }
  nextFrame {left right : Machine} (holds : good left right) (nextFrame : Nat) :
    good { left with nextFrame } { right with nextFrame }
  logs {left right : Machine} (holds : good left right) (change : Region → Region) :
    good { left with regions := left.regions.map change }
      { right with regions := right.regions.map change }
  opened {left right : Machine} (holds : good left right) (region : Region) (nextSerial : Nat) :
    good ({ left with regions := left.regions.push region, nextSerial }.count .opening)
      ({ right with regions := right.regions.push region, nextSerial }.count .opening)
  committed {left right : Machine} (holds : good left right) {region : Region}
    (top : left.regions.top? = some region) :
    good ({ left with regions := left.regions.pop }.count .committing)
      ({ right with regions := right.regions.pop }.count .committing)
  undone {left right : Machine} (holds : good left right) {region : Region}
    (top : left.regions.top? = some region) (restored : Nat) (arena : Arena) :
    good ({ left with regions := left.regions.pop, arena }.count (.undoing restored))
      ({ right with regions := right.regions.pop, arena }.count (.undoing restored))
  /-- A region is taken off the stack, but its log is closed already. -/
  popped {left right : Machine} (holds : good left right) :
    bad { left with regions := left.regions.pop } { right with regions := right.regions.pop }

/-- Related machines differ in their counters only. -/
theorem Parallel.split {good bad : Machine → Machine → Prop} (parallel : Parallel good bad)
    {left right : Machine} (holds : good left right) :
    ∃ counters collecting collectCounters,
      right = left.metered counters collecting collectCounters :=
  ⟨_, _, _, Machine.metered_of_unmetered (parallel.alike holds)⟩

namespace Action

variable {α β : Type} {before good bad : Machine → Machine → Prop} {id : CoroutineId} {reg : Reg}
  {value : Value}

/-- From two machines that are related, the action has the same result and leaves machines that are
related, or it has the same fault. -/
def Tandem (before : Machine → Machine → Prop) (after : α → Machine → Machine → Prop)
    (bad : Machine → Machine → Prop) (action : Action α) : Prop :=
  ∀ left right, before left right →
    match action left, action right with
    | .ok result left, .ok result' right => result = result' ∧ after result left right
    | .error fault left, .error fault' right => fault = fault' ∧ bad left right
    | _, _ => False

/-! Laws -/

section Laws

variable {after after' : α → Machine → Machine → Prop} {middle : β → Machine → Machine → Prop}

theorem Tandem.mono {action : Action α} (tandem : action.Tandem before after bad)
    (better : ∀ result left right, after result left right → after' result left right) :
    action.Tandem before after' bad := by
  intro left right holds
  have ran := tandem left right holds
  revert ran
  cases action left <;> cases action right <;> intro ran
  · exact ⟨ran.1, better _ _ _ ran.2⟩
  · exact ran
  · exact ran
  · exact ran

theorem tandem_pure {result : α}
    (holds : ∀ left right, before left right → after result left right) :
    (pure result : Action α).Tandem before after bad :=
  fun left right related => ⟨rfl, holds left right related⟩

theorem tandem_throw {fault : Fault} (holds : ∀ left right, before left right → bad left right) :
    (throw fault : Action α).Tandem before after bad :=
  fun left right related => ⟨rfl, holds left right related⟩

theorem tandem_modify {change : Machine → Machine} {after : Unit → Machine → Machine → Prop}
    (holds : ∀ left right, before left right → after () (change left) (change right)) :
    (modify change : Action Unit).Tandem before after bad :=
  fun left right related => ⟨rfl, holds left right related⟩

theorem Tandem.bind {first : Action β} {next : β → Action α}
    (tandem : first.Tandem before middle bad)
    (goesOn : ∀ result, (next result).Tandem (middle result) after bad) :
    (first >>= next).Tandem before after bad := by
  intro left right related
  have ran := tandem left right related
  simp only [Bind.bind, EStateM.bind]
  revert ran
  cases first left <;> cases first right <;> intro ran
  · obtain ⟨rfl, related⟩ := ran
    exact goesOn _ _ _ related
  · exact ran.elim
  · exact ran.elim
  · exact ran

/-- The relation in between is given. -/
theorem Tandem.through {first : Action β} {next : β → Action α}
    (middle : β → Machine → Machine → Prop) (tandem : first.Tandem before middle bad)
    (goesOn : ∀ result, (next result).Tandem (middle result) after bad) :
    (first >>= next).Tandem before after bad :=
  tandem.bind goesOn

/-- A change follows. -/
theorem Tandem.thenModify {first : Action β} {change : Machine → Machine}
    {after : Unit → Machine → Machine → Prop}
    (tandem : first.Tandem before (fun _ left right => after () (change left) (change right)) bad) :
    (first >>= fun _ => modify change).Tandem before after bad :=
  tandem.bind fun _ => tandem_modify fun _ _ holds => holds

theorem Tandem.weaken {earlier : Machine → Machine → Prop} {action : Action α}
    (tandem : action.Tandem before after bad)
    (implies : ∀ left right, earlier left right → before left right) :
    action.Tandem earlier after bad :=
  fun left right holds => tandem left right (implies left right holds)

/-- What is read of the machines is the same of both. -/
theorem tandem_get {body : Machine → Action α}
    (alike : ∀ left right, before left right → left.unmetered = right.unmetered)
    (blind : ∀ machine counters collecting collectCounters,
      body (machine.metered counters collecting collectCounters) = body machine)
    (each : ∀ machine,
      (body machine).Tandem (fun left right => left = machine ∧ before left right) after bad) :
    (get >>= body).Tandem before after bad := by
  intro left right related
  have same : body right = body left := by
    rw [Machine.metered_of_unmetered (alike left right related), blind]
  have reads (machine : Machine) : (get >>= body) machine = body machine machine := rfl
  rw [reads, reads, same]
  exact each left left right ⟨rfl, related⟩

theorem tandem_ofExcept {result : Except Fault α}
    (holds : ∀ value left right, before left right → after value left right)
    (fails : ∀ left right, before left right → bad left right) :
    (ofExcept result).Tandem before after bad := by
  cases result with
  | ok value => exact tandem_pure (holds value)
  | error fault => exact tandem_throw fails

theorem tandem_ensure {rule : Prop} [Decidable rule] {fault : Fault}
    {after : Unit → Machine → Machine → Prop}
    (holds : ∀ left right, before left right → after () left right)
    (fails : ∀ left right, before left right → bad left right) :
    (ensure rule fault).Tandem before after bad := by
  unfold ensure
  split
  · exact tandem_pure holds
  · exact tandem_throw fails

end Laws

/-! Small actions -/

section Small

variable (parallel : Parallel good bad)

/-- The action keeps a relation. -/
abbrev Keeps (good bad : Machine → Machine → Prop) (action : Action α) : Prop :=
  action.Tandem good (fun _ => good) bad

include parallel

omit parallel in
theorem keeps_pure {result : α} : (pure result : Action α).Keeps good bad :=
  tandem_pure fun _ _ holds => holds

theorem keeps_throw {fault : Fault} : (throw fault : Action α).Keeps good bad :=
  tandem_throw fun _ _ => parallel.fault

theorem keeps_ofExcept {result : Except Fault α} : (ofExcept result).Keeps good bad :=
  tandem_ofExcept (fun _ _ _ holds => holds) fun _ _ => parallel.fault

theorem keeps_ensure {rule : Prop} [Decidable rule] {fault : Fault} :
    (ensure rule fault).Keeps good bad :=
  tandem_ensure (fun _ _ holds => holds) fun _ _ => parallel.fault

theorem keeps_get {body : Machine → Action α} {after : α → Machine → Machine → Prop}
    (blind : ∀ machine counters collecting collectCounters,
      body (machine.metered counters collecting collectCounters) = body machine)
    (each : ∀ machine, (body machine).Tandem good after bad) :
    (get >>= body).Tandem good after bad :=
  tandem_get (fun _ _ => parallel.alike) blind fun machine =>
    (each machine).weaken fun _ _ => And.right

theorem keeps_coroutine : (coroutine id).Keeps good bad := by
  refine keeps_get parallel (fun _ _ _ _ => rfl) fun machine => ?_
  split
  · exact keeps_pure
  · exact keeps_throw parallel

theorem keeps_frameOf : (frameOf id).Keeps good bad := by
  refine (keeps_coroutine parallel).bind fun coroutine => ?_
  split
  · exact keeps_pure
  · exact keeps_throw parallel

theorem keeps_frame : Action.frame.Keeps good bad :=
  keeps_get parallel (fun _ _ _ _ => rfl) fun _ => keeps_frameOf parallel

theorem keeps_read : (read reg).Keeps good bad :=
  (keeps_frame parallel).bind fun _ => keeps_ofExcept parallel

theorem keeps_updateCoroutine {change : Coroutine → Coroutine} :
    (updateCoroutine id change).Keeps good bad :=
  tandem_modify fun _ _ holds => parallel.coroutine holds id change

theorem keeps_updateFrame {change : Frame → Frame} : (updateFrame change).Keeps good bad := by
  refine tandem_modify fun left right holds => ?_
  obtain ⟨_, _, _, rfl⟩ := parallel.split holds
  exact parallel.coroutine holds left.current _

theorem keeps_goTo {current : CoroutineId} :
    (modify ({ · with current }) : Action Unit).Keeps good bad :=
  tandem_modify fun _ _ holds => parallel.current holds current

theorem keeps_updateArena {change : Arena → Arena} : (updateArena change).Keeps good bad := by
  refine tandem_modify fun left right holds => ?_
  obtain ⟨_, _, _, rfl⟩ := parallel.split holds
  exact parallel.arena holds (change left.arena)

omit parallel in
theorem keeps_forM {items : List α} {action : α → Action Unit}
    (each : ∀ item, (action item).Keeps good bad) : (items.forM action).Keeps good bad := by
  induction items with
  | nil => exact keeps_pure
  | cons item rest ih => exact (each item).bind fun _ => ih

theorem keeps_writeOf : (writeOf id reg value).Keeps good bad :=
  (keeps_frameOf parallel).bind fun _ => (keeps_ensure parallel).bind fun _ =>
    tandem_modify fun _ _ holds => parallel.coroutine holds id _

theorem keeps_writeOptionOf {reg : Option Reg} : (writeOptionOf id reg value).Keeps good bad := by
  cases reg with
  | none => exact keeps_pure
  | some reg => exact keeps_writeOf parallel

theorem keeps_write : (write reg value).Keeps good bad :=
  keeps_get parallel (fun _ _ _ _ => rfl) fun _ => keeps_writeOf parallel

theorem keeps_writeOption {reg : Option Reg} : (writeOption reg value).Keeps good bad :=
  keeps_get parallel (fun _ _ _ _ => rfl) fun _ => keeps_writeOptionOf parallel

theorem keeps_hasShape {type : TypeId} {source : Reg} :
    (hasShape reg source type).Keeps good bad := by
  refine keeps_get parallel (fun _ _ _ _ => rfl) fun machine => ?_
  split
  · exact keeps_throw parallel
  · exact (keeps_read parallel).bind fun _ => keeps_write parallel

theorem keeps_move {source : Reg} : (move reg source).Keeps good bad :=
  (keeps_read parallel).bind fun _ => (keeps_updateFrame parallel).bind fun _ =>
    keeps_write parallel

theorem keeps_intOp {op : IntOp} {a b : Reg} : (intOp op reg a b).Keeps good bad :=
  (keeps_frame parallel).bind fun _ => (keeps_ofExcept parallel).bind fun _ =>
    (keeps_ofExcept parallel).bind fun _ => keeps_write parallel

theorem keeps_branch {whenTrue whenFalse : Nat} :
    (branch reg whenTrue whenFalse).Keeps good bad :=
  (keeps_frame parallel).bind fun _ => (keeps_ofExcept parallel).bind fun _ =>
    keeps_updateFrame parallel

omit parallel in
theorem keeps_thenProceed {action : Action Unit} {after : Outcome → Machine → Machine → Prop}
    (tandem : action.Tandem before (fun _ => after .proceed) bad) :
    (thenProceed action).Tandem before after bad :=
  tandem.bind fun _ => tandem_pure fun _ _ holds => holds

/-! Containers and bindings -/

theorem keeps_freshFrameId : freshFrameId.Keeps good bad := by
  intro left right holds
  obtain ⟨_, _, _, rfl⟩ := parallel.split holds
  exact ⟨rfl, parallel.nextFrame holds _⟩

theorem keeps_allocContainer {parent : ContainerId} : (allocContainer parent).Keeps good bad := by
  refine keeps_get parallel (fun _ _ _ _ => rfl) fun machine =>
    (keeps_ensure parallel).bind fun _ => ?_
  intro left right holds
  obtain ⟨_, _, _, rfl⟩ := parallel.split holds
  exact ⟨rfl, parallel.arena holds _⟩

theorem keeps_releaseContainer {container : ContainerId} :
    (releaseContainer container).Keeps good bad :=
  keeps_updateArena parallel

theorem keeps_releaseFrame {frame : Frame} : (releaseFrame frame).Keeps good bad :=
  keeps_get parallel (fun _ _ _ _ => rfl) fun _ =>
    keeps_forM fun _ => keeps_releaseContainer parallel

theorem keeps_newFrame {function : FunctionId} {args : List Value} {role : Role} :
    (newFrame function args role).Keeps good bad := by
  refine keeps_get parallel (fun _ _ _ _ => rfl) fun machine => ?_
  split
  · exact keeps_throw parallel
  · exact (keeps_ensure parallel).bind fun _ => (keeps_allocContainer parallel).bind fun _ =>
      (keeps_freshFrameId parallel).bind fun _ => keeps_ofExcept parallel

theorem keeps_logAll {save : RollbackLog → RollbackLog} : (logAll save).Keeps good bad :=
  tandem_modify fun _ _ holds => parallel.logs holds _

theorem keeps_bindVar {target : ContainerId} {name : SymbolId} :
    (bindVar target name value).Keeps good bad :=
  keeps_get parallel (fun _ _ _ _ => rfl) fun _ => (keeps_logAll parallel).bind fun _ =>
    keeps_get parallel (fun _ _ _ _ => rfl) fun _ => (keeps_ensure parallel).bind fun _ =>
      keeps_updateArena parallel

theorem keeps_storeVar {name : SymbolId} : (storeVar name reg).Keeps good bad :=
  (keeps_frame parallel).bind fun _ => (keeps_ofExcept parallel).bind fun _ =>
    keeps_get parallel (fun _ _ _ _ => rfl) fun _ => keeps_bindVar parallel

theorem keeps_declareVar {name : SymbolId} : (declareVar name reg).Keeps good bad :=
  (keeps_frame parallel).bind fun _ => (keeps_ofExcept parallel).bind fun _ =>
    keeps_bindVar parallel

theorem keeps_declareFunction {name : SymbolId} {function : FunctionId} :
    (declareFunction name function).Keeps good bad :=
  (keeps_frame parallel).bind fun _ => keeps_get parallel (fun _ _ _ _ => rfl) fun _ =>
    (keeps_ensure parallel).bind fun _ => keeps_get parallel (fun _ _ _ _ => rfl) fun _ =>
      (keeps_logAll parallel).bind fun _ => keeps_updateArena parallel

theorem keeps_pushScope : pushScope.Keeps good bad :=
  (keeps_frame parallel).bind fun _ => (keeps_allocContainer parallel).bind fun _ =>
    keeps_updateFrame parallel

theorem keeps_popScope : popScope.Keeps good bad := by
  refine (keeps_frame parallel).bind fun frame => (keeps_ensure parallel).bind fun _ =>
    keeps_get parallel (fun _ _ _ _ => rfl) fun machine => ?_
  split
  · exact keeps_throw parallel
  · exact (keeps_releaseContainer parallel).bind fun _ => keeps_updateFrame parallel

/-! Coroutines -/

theorem keeps_handBack {link : CallerLink} {ok : Bool} {out : Option Value} :
    (handBack link ok out).Keeps good bad := by
  refine keeps_get parallel (fun _ _ _ _ => rfl) fun machine =>
    (keeps_coroutine parallel).bind fun _ => (keeps_ensure parallel).bind fun _ =>
      (keeps_writeOptionOf parallel).bind fun _ => ?_
  cases out with
  | none => exact keeps_goTo parallel
  | some value => exact (keeps_writeOptionOf parallel).bind fun _ => keeps_goTo parallel

theorem keeps_nextCoroutine : nextCoroutine.Keeps good bad :=
  keeps_get parallel (fun _ _ _ _ => rfl) fun _ => (keeps_ensure parallel).bind fun _ => keeps_pure

theorem keeps_enterCoroutine {dst out : Option Reg} :
    (enterCoroutine dst reg out).Keeps good bad := by
  refine (keeps_frame parallel).bind fun frame => (keeps_ofExcept parallel).bind fun target =>
    (keeps_coroutine parallel).bind fun entered => ?_
  split
  · exact keeps_writeOption parallel
  · exact keeps_get parallel (fun _ _ _ _ => rfl) fun _ => (keeps_ofExcept parallel).bind fun _ =>
      (keeps_updateCoroutine parallel).bind fun _ => keeps_goTo parallel

theorem keeps_hasNext {source : Reg} : (hasNext reg source).Keeps good bad :=
  (keeps_frame parallel).bind fun _ => (keeps_ofExcept parallel).bind fun _ =>
    (keeps_coroutine parallel).bind fun _ => keeps_write parallel

theorem keeps_yieldValue {reg : Option Reg} : (yieldValue reg).Keeps good bad := by
  refine keeps_get parallel (fun _ _ _ _ => rfl) fun machine =>
    (keeps_ensure parallel).bind fun _ => ?_
  have yields (value : Value) : Keeps good bad (do
      let yielding ← Action.coroutine machine.current
      let owned := (← get).regions.items.countP fun region =>
        yielding.frames.items.any (·.id = region.owner)
      ensure (owned = 0) (.yieldInsideRegion machine.current owned)
      let handed ← ofExcept (yielding.suspend machine.current)
      updateCoroutine machine.current fun _ => handed.2
      handBack handed.1 true (some value)) :=
    (keeps_coroutine parallel).bind fun _ => keeps_get parallel (fun _ _ _ _ => rfl) fun _ =>
      (keeps_ensure parallel).bind fun _ => (keeps_ofExcept parallel).bind fun _ =>
        (keeps_updateCoroutine parallel).bind fun _ => keeps_handBack parallel
  cases reg with
  | none => exact yields .unit
  | some reg => exact (keeps_read parallel).bind yields

theorem keeps_pushCall {function : FunctionId} {args : List Value} {dst : Option Reg} :
    (pushCall function args dst).Keeps good bad :=
  keeps_get parallel (fun _ _ _ _ => rfl) fun _ => keeps_get parallel (fun _ _ _ _ => rfl) fun _ =>
    (keeps_coroutine parallel).bind fun _ => (keeps_ensure parallel).bind fun _ =>
      (keeps_newFrame parallel).bind fun _ => keeps_updateCoroutine parallel

/-- The machines go on, or the run ends with the value. -/
theorem returnValue_tandem {after : Outcome → Machine → Machine → Prop}
    (proceeds : ∀ left right, good left right → after .proceed left right)
    (ends : ∀ left right, good left right → after (.done value) left right) :
    (returnValue value).Tandem good after bad := by
  refine keeps_get parallel (fun _ _ _ _ => rfl) fun machine =>
    (keeps_coroutine parallel).bind fun coroutine => ?_
  split
  · exact tandem_throw fun _ _ => parallel.fault
  · refine (keeps_updateCoroutine parallel).bind fun _ => keeps_get parallel (fun _ _ _ _ => rfl)
      fun _ => keeps_get parallel (fun _ _ _ _ => rfl) fun _ => (keeps_ensure parallel).bind
        fun _ => (keeps_releaseFrame parallel).bind fun _ => ?_
    split
    · exact (keeps_frame parallel).bind fun _ => (keeps_writeOption parallel).bind fun _ =>
        tandem_pure proceeds
    · split
      · exact tandem_pure ends
      · split
        · exact tandem_throw fun _ _ => parallel.fault
        · exact (keeps_handBack parallel).bind fun _ => tandem_pure proceeds

/-! Regions and handlers -/

theorem keeps_openRegion : openRegion.Keeps good bad := by
  refine keeps_get parallel (fun _ _ _ _ => rfl) fun _ =>
    keeps_get parallel (fun _ _ _ _ => rfl) fun _ => (keeps_ensure parallel).bind fun _ =>
      (keeps_frame parallel).bind fun frame => ?_
  refine Tandem.thenModify (tandem_modify fun left right holds => ?_)
  obtain ⟨_, _, _, rfl⟩ := parallel.split holds
  exact parallel.opened holds _ _

/-- The innermost region is off the stack, and its end is not counted yet. -/
def HalfClosed (good : Machine → Machine → Prop) (region : Region) (left right : Machine) : Prop :=
  ∃ left₀ right₀, good left₀ right₀ ∧ left₀.regions.top? = some region ∧
    left = { left₀ with regions := left₀.regions.pop } ∧
      right = { right₀ with regions := right₀.regions.pop }

theorem popRegion_tandem : popRegion.Tandem good (HalfClosed good) bad := by
  refine tandem_get (fun _ _ => parallel.alike) (fun _ _ _ _ => rfl) fun machine => ?_
  split
  · exact tandem_throw fun _ _ holds => parallel.fault holds.2
  · next region top =>
      refine Tandem.through (fun _ => HalfClosed good region) (tandem_modify ?_)
        fun _ => tandem_pure fun _ _ holds => holds
      rintro left right ⟨rfl, holds⟩
      exact ⟨left, right, holds, top, rfl, rfl⟩

theorem keeps_commitInnermost : commitInnermost.Keeps good bad := by
  refine (popRegion_tandem parallel).bind fun region => ?_
  refine Tandem.through (fun _ => HalfClosed good region)
    (tandem_ofExcept (fun _ _ _ holds => holds) ?_) fun _ => tandem_modify ?_
  · rintro _ _ ⟨left, right, holds, -, rfl, rfl⟩
    exact parallel.popped holds
  · rintro _ _ ⟨left, right, holds, top, rfl, rfl⟩
    exact parallel.committed holds top

theorem keeps_rollbackInnermost : rollbackInnermost.Keeps good bad := by
  refine (popRegion_tandem parallel).bind fun region => ?_
  refine Tandem.through (fun _ => HalfClosed good region)
    (tandem_ensure (fun _ _ holds => holds) ?_) fun _ => tandem_get ?_ (fun _ _ _ _ => rfl)
      fun machine => Tandem.thenModify (tandem_modify fun left right holds => ?_)
  · rintro _ _ ⟨left, right, holds, -, rfl, rfl⟩
    exact parallel.popped holds
  · rintro _ _ ⟨left, right, holds, -, rfl, rfl⟩
    obtain ⟨_, _, _, rfl⟩ := parallel.split holds
    rfl
  · obtain ⟨-, left, right, holds, top, rfl, rfl⟩ := holds
    obtain ⟨_, _, _, rfl⟩ := parallel.split holds
    exact parallel.undone holds top _ _

theorem keeps_rollbackWhile {undone : Region → Bool} : (rollbackWhile undone).Keeps good bad :=
  keeps_get parallel (fun _ _ _ _ => rfl) fun _ =>
    keeps_forM fun _ => keeps_rollbackInnermost parallel

theorem keeps_closeRegion {closing : Closing} : (closeRegion closing).Keeps good bad := by
  refine (keeps_frame parallel).bind fun _ =>
    keeps_get parallel (fun _ _ _ _ => rfl) fun machine => ?_
  split
  · exact keeps_throw parallel
  · refine (keeps_ensure parallel).bind fun _ => ?_
    cases closing with
    | commit => exact keeps_commitInnermost parallel
    | rollback => exact keeps_rollbackInnermost parallel

theorem keeps_pushHandler {target : Nat} {dst : Option Reg} :
    (pushHandler target dst).Keeps good bad :=
  keeps_get parallel (fun _ _ _ _ => rfl) fun _ => (keeps_frame parallel).bind fun _ =>
    keeps_get parallel (fun _ _ _ _ => rfl) fun _ => keeps_updateCoroutine parallel

theorem keeps_popHandler : popHandler.Keeps good bad := by
  refine keeps_get parallel (fun _ _ _ _ => rfl) fun _ =>
    (keeps_coroutine parallel).bind fun _ => ?_
  split
  · exact (keeps_ensure parallel).bind fun _ => keeps_updateCoroutine parallel
  · exact keeps_throw parallel

/-! Conditions -/

theorem keeps_abandon {coroutine : Coroutine} : (abandon coroutine).Keeps good bad := by
  refine keeps_get parallel (fun _ _ _ _ => rfl) fun _ =>
    (keeps_updateCoroutine parallel).bind fun _ => (keeps_rollbackWhile parallel).bind fun _ =>
      (keeps_forM fun _ => keeps_releaseFrame parallel).bind fun _ => ?_
  split
  · exact keeps_throw parallel
  · exact (keeps_coroutine parallel).bind fun _ => (keeps_ensure parallel).bind fun _ =>
      keeps_goTo parallel

theorem catchCondition_tandem {handler : Handler} {condition : Condition}
    {after : Outcome → Machine → Machine → Prop}
    (caught : ∀ left right, good left right →
      after .proceed (left.count .catching) (right.count .catching)) :
    (catchCondition handler condition).Tandem good after bad := by
  refine keeps_get parallel (fun _ _ _ _ => rfl) fun _ =>
    (keeps_coroutine parallel).bind fun _ => ?_
  dsimp only
  split
  · exact tandem_throw fun _ _ => parallel.fault
  · refine keeps_get parallel (fun _ _ _ _ => rfl) fun _ => (keeps_ensure parallel).bind fun _ =>
      (keeps_rollbackWhile parallel).bind fun _ => (keeps_updateCoroutine parallel).bind fun _ =>
        (keeps_forM fun _ => keeps_releaseFrame parallel).bind fun _ =>
          (keeps_forM fun _ => keeps_releaseContainer parallel).bind fun _ =>
            (keeps_updateFrame parallel).bind fun _ => (keeps_writeOption parallel).bind fun _ => ?_
    exact Tandem.through (fun _ => after .proceed) (tandem_modify caught) fun _ =>
      tandem_pure fun _ _ holds => holds

/-- A condition is caught, or nothing catches it. -/
theorem unwind_tandem {condition : Condition} {steps : Nat}
    {after : Outcome → Machine → Machine → Prop}
    (caught : ∀ left right, good left right →
      after .proceed (left.count .catching) (right.count .catching))
    (uncaught : ∀ left right, good left right → after (.uncaught condition) left right) :
    (unwind condition steps).Tandem good after bad := by
  induction steps with
  | zero => exact tandem_throw fun _ _ => parallel.fault
  | succ steps ih =>
      refine keeps_get parallel (fun _ _ _ _ => rfl) fun _ =>
        (keeps_coroutine parallel).bind fun _ => ?_
      split
      · exact (keeps_updateCoroutine parallel).bind fun _ => catchCondition_tandem parallel caught
      · split
        · exact (keeps_rollbackWhile parallel).bind fun _ => tandem_pure uncaught
        · exact (keeps_abandon parallel).bind fun _ => ih

theorem raise_tandem {cause : Cause} {raised : Machine → Machine → Prop}
    {after : Outcome → Machine → Machine → Prop} (beyond : Parallel raised bad)
    (raises : ∀ left right, good left right →
      raised (left.count .raising) (right.count .raising))
    (caught : ∀ left right, raised left right →
      after .proceed (left.count .catching) (right.count .catching))
    (uncaught : ∀ condition left right, raised left right →
      after (.uncaught condition) left right) :
    (raise cause).Tandem good after bad :=
  keeps_get parallel (fun _ _ _ _ => rfl) fun _ =>
    Tandem.through (fun _ => raised) (tandem_modify raises) fun _ =>
      keeps_get beyond (fun _ _ _ _ => rfl) fun _ => unwind_tandem beyond caught (uncaught _)

end Small

end Action

/-! Instructions -/

/-- Whether an instruction builds a node. -/
def Instruction.builds : Instruction → Bool
  | .makeNode .. => true
  | _ => false

/-- Whether an instruction looks for a function among candidates. -/
def Instruction.chooses : Instruction → Bool
  | .call _ (.overloaded _) _ => true
  | _ => false

/-- What an instruction does to related machines beyond the small changes. Once it has added
something or raised a condition, the machines are related as `later` says. -/
structure Carries (code : Instruction) (good later : Machine → Machine → Prop)
    (after : Outcome → Machine → Machine → Prop) (bad : Machine → Machine → Prop) : Prop where
  first : Parallel good bad
  second : Parallel later bad
  proceeds (plain : code.adds = false ∧ code.builds = false) {left right : Machine}
    (holds : good left right) : after .proceed left right
  ends (plain : code.adds = false ∧ code.builds = false) (value : Value) {left right : Machine}
    (holds : good left right) : after (.done value) left right
  created (adds : code.adds = true) (coroutine : Coroutine) {left right : Machine}
    (holds : good left right) :
    later { left with coroutines := left.coroutines.push coroutine }
      { right with coroutines := right.coroutines.push coroutine }
  built (builds : code.builds = true) (nodes : NodeTable) {left right : Machine}
    (holds : good left right) : later { left with nodes } { right with nodes }
  added (special : code.adds = true ∨ code.builds = true) {left right : Machine}
    (holds : later left right) : after .proceed left right
  tried (chooses : code.chooses = true) (count : Nat) {left right : Machine}
    (holds : good left right) : good (left.count (.trying count)) (right.count (.trying count))
  raised (raises : code.raises = true) {left right : Machine} (holds : good left right) :
    later (left.count .raising) (right.count .raising)
  caught (raises : code.raises = true) {left right : Machine} (holds : later left right) :
    after .proceed (left.count .catching) (right.count .catching)
  uncaught (raises : code.raises = true) (condition : Condition) {left right : Machine}
    (holds : later left right) : after (.uncaught condition) left right

namespace Action

variable {code : Instruction} {good later bad : Machine → Machine → Prop}
  {after : Outcome → Machine → Machine → Prop} {dst source : Reg} {cause : Cause}
  (carries : Carries code good later after bad)

include carries

theorem raises_tandem (raises : code.raises = true) :
    (raise cause).Tandem good after bad :=
  raise_tandem carries.first carries.second (fun _ _ => carries.raised raises)
    (fun _ _ => carries.caught raises) fun condition _ _ => carries.uncaught raises condition

theorem makeNode_tandem {ctor : ConstructorId} {fields : List Reg} (builds : code.builds = true) :
    (makeNode dst ctor fields).Tandem good (fun _ => later) bad := by
  refine keeps_get carries.first (fun _ _ _ _ => rfl) fun machine => ?_
  split
  · exact tandem_throw fun _ _ => carries.first.fault
  · refine (keeps_ensure carries.first).bind fun _ => (keeps_frame carries.first).bind fun _ =>
      (keeps_ofExcept carries.first).bind fun values => ?_
    refine Tandem.through (fun _ => later) ?_ fun _ => keeps_write carries.second
    intro left right holds
    obtain ⟨_, _, _, rfl⟩ := carries.first.split holds
    exact ⟨rfl, carries.built builds _ holds⟩

theorem addCoroutine_tandem {coroutine : Coroutine} (adds : code.adds = true) :
    (addCoroutine coroutine).Tandem good (fun _ => later) bad :=
  tandem_modify fun _ _ => carries.created adds coroutine

theorem createCoroutine_tandem {function : FunctionId} {args : List Reg}
    (adds : code.adds = true) :
    (createCoroutine dst function args).Tandem good (fun _ => later) bad :=
  (keeps_nextCoroutine carries.first).bind fun _ => (keeps_frame carries.first).bind fun _ =>
    (keeps_ofExcept carries.first).bind fun _ => (keeps_newFrame carries.first).bind fun _ =>
      (addCoroutine_tandem carries adds).bind fun _ => keeps_write carries.second

theorem copyCoroutine_tandem (adds : code.adds = true) :
    (copyCoroutine dst source).Tandem good (fun _ => later) bad := by
  refine (keeps_frame carries.first).bind fun _ => (keeps_ofExcept carries.first).bind fun _ =>
    (keeps_nextCoroutine carries.first).bind fun _ => keeps_get carries.first (fun _ _ _ _ => rfl)
      fun _ => (keeps_allocContainer carries.first).bind fun _ =>
        (keeps_freshFrameId carries.first).bind fun _ =>
          (keeps_coroutine carries.first).bind fun _ => ?_
  split
  · exact (addCoroutine_tandem carries adds).bind fun _ => keeps_write carries.second
  · exact (keeps_releaseContainer carries.first).bind fun _ =>
      tandem_throw fun _ _ => carries.first.fault

theorem loadVar_tandem {name : SymbolId}
    (proceeds : ∀ left right, good left right → after .proceed left right)
    (raises : code.raises = true) :
    (loadVar dst name).Tandem good after bad := by
  refine (keeps_frame carries.first).bind fun _ => keeps_get carries.first (fun _ _ _ _ => rfl)
    fun _ => ?_
  split
  · exact (keeps_write carries.first).bind fun _ => tandem_pure proceeds
  · exact raises_tandem carries raises

theorem call_tandem {dst : Option Reg} {callee : Callee} {args : List Reg}
    (calls : code = .call dst callee args) : (call dst callee args).Tandem good after bad := by
  have proceeds (left right : Machine) (holds : good left right) : after .proceed left right :=
    carries.proceeds (by rw [calls]; exact ⟨rfl, rfl⟩) holds
  refine (keeps_frame carries.first).bind fun caller =>
    (keeps_ofExcept carries.first).bind fun values => ?_
  cases callee with
  | direct function =>
      exact (keeps_pushCall carries.first).bind fun _ => tandem_pure proceeds
  | overloaded name =>
      have chooses : code.chooses = true := by rw [calls]; rfl
      have tries {set : CandidateSet} {chosen : Option FunctionId} :
          (countTried set chosen).Keeps good bad :=
        tandem_modify fun _ _ => carries.tried chooses _
      refine keeps_get carries.first (fun _ _ _ _ => rfl) fun machine => ?_
      dsimp only
      split
      · exact tries.bind fun _ => (keeps_pushCall carries.first).bind fun _ =>
          tandem_pure proceeds
      · exact tries.bind fun _ => raises_tandem carries (by rw [calls]; rfl)

omit carries in
theorem keeps_fetch (parallel : Parallel good bad) : fetch.Keeps good bad := by
  refine (keeps_frame parallel).bind fun active => (keeps_updateFrame parallel).bind fun _ =>
    keeps_get parallel (fun _ _ _ _ => rfl) fun machine => ?_
  split
  · exact keeps_throw parallel
  · split
    · exact keeps_pure
    · exact keeps_throw parallel

/-- An instruction takes related machines along. -/
theorem execute_tandem : (execute code).Tandem good after bad := by
  have first := carries.first
  have goesOn {action : Action Unit} (keeps : action.Keeps good bad)
      (plain : code.adds = false ∧ code.builds = false) :
      (thenProceed action).Tandem good after bad :=
    keeps_thenProceed (keeps.mono fun _ _ _ => carries.proceeds plain)
  have enlarges {action : Action Unit} (tandem : action.Tandem good (fun _ => later) bad)
      (special : code.adds = true ∨ code.builds = true) :
      (thenProceed action).Tandem good after bad :=
    keeps_thenProceed (tandem.mono fun _ _ _ => carries.added special)
  cases code with
  | const dst literal => exact goesOn (keeps_write first) ⟨rfl, rfl⟩
  | copy dst src => exact goesOn ((keeps_read first).bind fun _ => keeps_write first) ⟨rfl, rfl⟩
  | move dst src => exact goesOn (keeps_move first) ⟨rfl, rfl⟩
  | int op dst a b => exact goesOn (keeps_intOp first) ⟨rfl, rfl⟩
  | not dst source =>
      exact goesOn ((keeps_frame first).bind fun _ => (keeps_ofExcept first).bind fun _ =>
        keeps_write first) ⟨rfl, rfl⟩
  | equal dst a b =>
      exact goesOn ((keeps_read first).bind fun _ => (keeps_read first).bind fun _ =>
        keeps_write first) ⟨rfl, rfl⟩
  | makeNode dst ctor fields => exact enlarges (makeNode_tandem carries rfl) (.inr rfl)
  | field dst node position =>
      exact goesOn ((keeps_frame first).bind fun _ => (keeps_ofExcept first).bind fun _ =>
        keeps_write first) ⟨rfl, rfl⟩
  | hasShape dst source type => exact goesOn (keeps_hasShape first) ⟨rfl, rfl⟩
  | loadVar dst name =>
      exact loadVar_tandem carries (fun _ _ => carries.proceeds ⟨rfl, rfl⟩) rfl
  | storeVar name src => exact goesOn (keeps_storeVar first) ⟨rfl, rfl⟩
  | declareVar name src => exact goesOn (keeps_declareVar first) ⟨rfl, rfl⟩
  | declareFunction name function => exact goesOn (keeps_declareFunction first) ⟨rfl, rfl⟩
  | pushScope => exact goesOn (keeps_pushScope first) ⟨rfl, rfl⟩
  | popScope => exact goesOn (keeps_popScope first) ⟨rfl, rfl⟩
  | call dst callee args => exact call_tandem carries rfl
  | «return» reg =>
      exact (keeps_read first).bind fun value => returnValue_tandem first
        (fun _ _ => carries.proceeds ⟨rfl, rfl⟩) fun _ _ => carries.ends ⟨rfl, rfl⟩ value
  | createCoroutine dst function args =>
      exact enlarges (createCoroutine_tandem carries rfl) (.inl rfl)
  | enterCoroutine dst coroutine out => exact goesOn (keeps_enterCoroutine first) ⟨rfl, rfl⟩
  | hasNext dst coroutine => exact goesOn (keeps_hasNext first) ⟨rfl, rfl⟩
  | copyCoroutine dst coroutine => exact enlarges (copyCoroutine_tandem carries rfl) (.inl rfl)
  | yield reg => exact goesOn (keeps_yieldValue first) ⟨rfl, rfl⟩
  | openRegion => exact goesOn (keeps_openRegion first) ⟨rfl, rfl⟩
  | commitRegion => exact goesOn (keeps_closeRegion first) ⟨rfl, rfl⟩
  | rollbackRegion => exact goesOn (keeps_closeRegion first) ⟨rfl, rfl⟩
  | noSolution => exact raises_tandem carries rfl
  | pushCatch target dst => exact goesOn (keeps_pushHandler first) ⟨rfl, rfl⟩
  | popCatch => exact goesOn (keeps_popHandler first) ⟨rfl, rfl⟩
  | throw reg => exact (keeps_read first).bind fun _ => raises_tandem carries rfl
  | jump target => exact goesOn (keeps_updateFrame first) ⟨rfl, rfl⟩
  | branch condition whenTrue whenFalse => exact goesOn (keeps_branch first) ⟨rfl, rfl⟩
  | trap message => exact tandem_throw fun _ _ => first.fault

end Action

/-! One machine -/

namespace Machine

variable {good later bad : Machine → Prop} {left right : Machine}

/-- The same machine twice, with a property. -/
def Twin (property : Machine → Prop) (left right : Machine) : Prop :=
  left = right ∧ property left

theorem Twin.map (change : Machine → Machine)
    (kept : ∀ machine, good machine → later (change machine)) (twin : Twin good left right) :
    Twin later (change left) (change right) := by
  obtain ⟨rfl, holds⟩ := twin
  exact ⟨rfl, kept left holds⟩

end Machine

/-- A property that every small change of a machine keeps. -/
structure Steady (good bad : Machine → Prop) : Prop where
  fault {machine : Machine} (holds : good machine) : bad machine
  coroutine {machine : Machine} (holds : good machine) (id : CoroutineId)
    (change : Coroutine → Coroutine) : good (machine.updateCoroutine id change)
  current {machine : Machine} (holds : good machine) (current : CoroutineId) :
    good { machine with current }
  arena {machine : Machine} (holds : good machine) (arena : Arena) : good { machine with arena }
  nextFrame {machine : Machine} (holds : good machine) (nextFrame : Nat) :
    good { machine with nextFrame }
  logs {machine : Machine} (holds : good machine) (change : Region → Region) :
    good { machine with regions := machine.regions.map change }
  opened {machine : Machine} (holds : good machine) (region : Region) (nextSerial : Nat) :
    good ({ machine with regions := machine.regions.push region, nextSerial }.count .opening)
  committed {machine : Machine} (holds : good machine) {region : Region}
    (top : machine.regions.top? = some region) :
    good ({ machine with regions := machine.regions.pop }.count .committing)
  undone {machine : Machine} (holds : good machine) {region : Region}
    (top : machine.regions.top? = some region) (restored : Nat) (arena : Arena) :
    good ({ machine with regions := machine.regions.pop, arena }.count (.undoing restored))
  popped {machine : Machine} (holds : good machine) :
    bad { machine with regions := machine.regions.pop }

theorem Steady.parallel {good bad : Machine → Prop} (steady : Steady good bad) :
    Parallel (Machine.Twin good) (Machine.Twin bad) where
  alike twin := congrArg Machine.unmetered twin.1
  fault := .map id fun _ => steady.fault
  coroutine twin id change := twin.map (·.updateCoroutine id change) fun _ holds =>
    steady.coroutine holds id change
  current twin current := twin.map ({ · with current }) fun _ holds => steady.current holds current
  arena twin arena := twin.map ({ · with arena }) fun _ holds => steady.arena holds arena
  nextFrame twin nextFrame := twin.map ({ · with nextFrame }) fun _ holds =>
    steady.nextFrame holds nextFrame
  logs twin change := twin.map (fun machine =>
    { machine with regions := machine.regions.map change }) fun _ holds => steady.logs holds change
  opened twin region nextSerial := twin.map (fun machine =>
    { machine with regions := machine.regions.push region, nextSerial }.count .opening)
      fun _ holds => steady.opened holds region nextSerial
  committed := by
    rintro left _ ⟨rfl, holds⟩ region top
    exact ⟨rfl, steady.committed holds top⟩
  undone := by
    rintro left _ ⟨rfl, holds⟩ region top restored arena
    exact ⟨rfl, steady.undone holds top restored arena⟩
  popped := .map (fun machine => { machine with regions := machine.regions.pop }) fun _ =>
    steady.popped

namespace Action

variable {α : Type} {code : Instruction} {machine : Machine} {good bad : Machine → Prop}

/-- Where an action leads that takes one machine along. -/
theorem Tandem.leads {action : Action α} {after : α → Machine → Prop}
    (tandem : action.Tandem (Machine.Twin good) (fun result => Machine.Twin (after result))
      (Machine.Twin bad))
    (holds : good machine) : action.Leads machine after fun _ => bad := by
  have ran := tandem machine machine ⟨rfl, holds⟩
  unfold Leads
  revert ran
  cases action machine with
  | ok result final => exact fun ran => ran.2.2
  | error fault final => exact fun ran => ran.2.2

end Action

end Backtrack
