import Backtrack.Proofs.Faulting

/-!
A machine that is strict about ranges. It stops where an index or a slice is out of range or where a
difference would be negative, at the places where the machine itself takes for granted that they are
not. It does what the machine does, as long as the free slots of the arena are slots of the arena.
That an instruction is executed at all means that there is an active frame; the frames of a handler
are looked up before they are cut off.
-/

namespace Backtrack

/-! ## Ranges -/

/-- A difference that is not negative. -/
def difference? (whole part : Nat) : Option Nat :=
  if part ≤ whole then some (whole - part) else none

namespace Stack

variable {α : Type} {stack : Stack α} {position : Nat}

/-- The items from a position within the stack upward, the one on top first. -/
def above? (stack : Stack α) (position : Nat) : Option (List α) :=
  if position ≤ stack.size then some (stack.above position) else none

/-- The items below a position within the stack. -/
def below? (stack : Stack α) (position : Nat) : Option (Stack α) :=
  if position ≤ stack.size then some (stack.below position) else none

theorem below_size : stack.below stack.size = stack :=
  Stack.ext (by simp [below])

theorem below_min : stack.below (min stack.size position) = stack.below position := by
  refine Stack.ext (congrArg (List.drop · stack.items) ?_)
  omega

/-- An item is the last of those from its position upward. -/
theorem above_of_at? {item : α} (found : stack.at? position = some item) :
    stack.above position = stack.above (position + 1) ++ [item] := by
  have within := lt_of_at? found
  rw [at?, if_pos within] at found
  have more : stack.size - position = stack.size - (position + 1) + 1 := by omega
  rw [above, above, more, List.take_add_one, found, Option.toList_some]

end Stack

namespace Arena

variable {arena : Arena} {parent : Option ContainerId}

/-- Places a container in the free slot on top or else in a new one, if that is a slot. -/
def place? (arena : Arena) (parent : Option ContainerId) : Option (ContainerId × Arena) := do
  let (index, slots) := match arena.free.top? with
    | some index => (index, arena.slots)
    | none => (arena.slots.size, arena.slots.push ⟨0, none⟩)
  let slot ← slots[index]?
  return (⟨index, slot.generation⟩, {
    slots := slots.modify index fun slot => { slot with content := some (.new parent) }
    free := arena.free.pop })

theorem place?_eq (sound : arena.Sound) : arena.place? parent = some (arena.place parent) := by
  unfold place? place
  cases top : arena.free.top? with
  | some index =>
      obtain ⟨slot, stored, -⟩ := (sound.vacant index).mp (List.mem_of_head? top)
      simp [stored]
  | none =>
      have empty : arena.free.pop = arena.free :=
        Stack.ext (by rw [Stack.items_pop, List.head?_eq_none_iff.mp top]; rfl)
      have pushed : (arena.slots.push ⟨0, none⟩).modify arena.slots.size
          (fun slot => { slot with content := some (.new parent) }) =
            arena.slots.push ⟨0, some (.new parent)⟩ := by
        apply Array.ext_getElem?
        intro index
        rw [Array.getElem?_modify, Array.getElem?_push, Array.getElem?_push]
        by_cases last : index = arena.slots.size
        · simp [last]
        · simp [last, Ne.symm last]
      simp [pushed, empty, Slot.generation]

/-- A free slot that is no slot would be missed. -/
example : (Arena.mk #[] (.push .empty 3)).place? none = none := rfl

end Arena

/-! ## The strict machine -/

/-- Why an instruction breaks off. -/
inductive Stop where
  | fault (fault : Fault)
  | outOfRange

abbrev Strict := EStateM Stop Machine

namespace Strict

variable {α β : Type}

/-- An action that takes nothing for granted. -/
def lift (action : Action α) : Strict α :=
  action.adaptExcept .fault

def within : Option α → Strict α
  | some value => pure value
  | none => throw .outOfRange

def allocContainer (parent : ContainerId) : Strict ContainerId := do
  lift (Action.ensure (← get).arena.hasRoom .arenaFull)
  let (id, arena) ← within ((← get).arena.place? (some parent))
  modify ({ · with arena })
  return id

def newFrame (function : FunctionId) (args : List Value) (role : Role) : Strict Frame := do
  let machine ← get
  match machine.program.function? function with
  | none => throw (.fault (.unknownId .function function.index))
  | some unit =>
      lift (Action.ensure (unit.parameterCount = args.length)
        (.arityMismatch unit.name unit.parameterCount args.length))
      let scope ← allocContainer machine.globals
      lift do
        let id ← Action.freshFrameId
        Action.ofExcept ((Frame.new id function unit.registerCount role scope).withArguments args)

def pushScope : Strict Unit := do
  let scope ← allocContainer (← lift Action.frame).scope
  lift (Action.updateFrame ({ · with scope }))

def pushCall (function : FunctionId) (args : List Value) (dst : Option Reg) : Strict Unit := do
  let current := (← get).current
  let limit := (← get).settings.maxFrames
  lift (Action.ensure ((← lift (Action.coroutine current)).depth < limit) (.frameLimit limit))
  let callee ← newFrame function args (.callee dst)
  lift (Action.updateCoroutine current (·.pushFrame callee))

def createCoroutine (dst : Reg) (function : FunctionId) (args : List Reg) : Strict Unit := do
  let id ← lift Action.nextCoroutine
  let values ← lift (Action.ofExcept ((← lift Action.frame).readAll args))
  let entry ← newFrame function values .entry
  lift do
    Action.addCoroutine (.new entry)
    Action.write dst (.coroutine id)

def copyCoroutine (dst source : Reg) : Strict Unit := do
  let source ← lift (Action.ofExcept ((← lift Action.frame).readCoroutine source))
  let id ← lift Action.nextCoroutine
  let scope ← allocContainer (← get).globals
  lift do
    let frameId ← Action.freshFrameId
    match (← Action.coroutine source).copy frameId scope with
    | .ok copy =>
        Action.addCoroutine copy
        Action.write dst (.coroutine id)
    | .error fault =>
        Action.releaseContainer scope
        throw fault

def enterCoroutine (dst : Option Reg) (target : Reg) (out : Option Reg) : Strict Unit := do
  let target ← lift (Action.ofExcept ((← lift Action.frame).readCoroutine target))
  let entered ← lift (Action.coroutine target)
  if entered.state = .exhausted then lift (Action.writeOption dst (.bool false))
  else
    let machine ← get
    let depth ← within (difference? machine.depth 1)
    lift do
      let running ← Action.ofExcept (entered.enter target ⟨machine.current, depth, dst, out⟩)
      Action.updateCoroutine target fun _ => running
      modify ({ · with current := target })

def pushHandler (target : Nat) (dst : Option Reg) : Strict Unit := do
  let serial := (← get).nextSerial
  let scope := (← lift Action.frame).scope
  let current := (← get).current
  let depth ← within (difference? (← lift (Action.coroutine current)).depth 1)
  lift (Action.updateCoroutine current fun coroutine =>
    { coroutine with handlers := ⟨depth, target, dst, serial, scope⟩ :: coroutine.handlers })

def popHandler : Strict Unit := do
  let current := (← get).current
  let coroutine ← lift (Action.coroutine current)
  let depth ← within (difference? coroutine.depth 1)
  match coroutine.handlers with
  | handler :: outer => lift do
      Action.ensure (handler.depth = depth) .noHandler
      Action.updateCoroutine current ({ · with handlers := outer })
  | [] => throw (.fault .noHandler)

/-- Each activation is in the slice of its coroutine that ends with the one that waits. -/
def trace (machine : Machine) : Option (List TraceEntry) := do
  let active := (machine.coroutine? machine.current).map fun coroutine =>
    coroutine.frames.below? coroutine.frames.size
  let waiting := machine.callers.filterMap fun link =>
    (machine.coroutine? link.coroutine).map fun coroutine =>
      coroutine.frames.below? (min coroutine.frames.size (link.depth + 1))
  let slices ← (active.toList ++ waiting).mapM id
  return (slices.flatMap Stack.items).map machine.traceEntry

def catchCondition (handler : Handler) (condition : Condition) : Strict Outcome := do
  let current := (← get).current
  let frames := (← lift (Action.coroutine current)).frames
  match frames.at? handler.depth with
  | none => throw (.fault .noActiveFrame)
  | some target =>
      let scopes := (← get).arena.ancestry target.scope
      lift (Action.ensure (handler.scope ∈ scopes) .deadContainer)
      let blocks := scopes.takeWhile (· ≠ handler.scope)
      let owners := (← within (frames.above? handler.depth)).map (·.id)
      lift (Action.rollbackWhile fun region =>
        handler.regionSerial ≤ region.serial && region.owner ∈ owners)
      let frames := (← lift (Action.coroutine current)).frames
      let unwound ← within (frames.above? (handler.depth + 1))
      lift do
        Action.updateCoroutine current fun coroutine =>
          { coroutine with frames := coroutine.frames.below (handler.depth + 1) }
        unwound.forM Action.releaseFrame
        blocks.forM Action.releaseContainer
        Action.updateFrame fun frame => { frame with scope := handler.scope, pc := handler.target }
        Action.writeOption handler.dst condition.value
        Action.count fun counters => { counters with caught := counters.caught + 1 }
        return .proceed

def unwind (condition : Condition) : Nat → Strict Outcome
  | 0 => throw (.fault .noActiveFrame)
  | steps + 1 => do
      let current := (← get).current
      let coroutine ← lift (Action.coroutine current)
      match coroutine.handlers with
      | handler :: outer =>
          lift (Action.updateCoroutine current ({ · with handlers := outer }))
          catchCondition handler condition
      | [] =>
          if current = .root then lift do
            Action.rollbackWhile fun _ => true
            return .uncaught condition
          else
            lift (Action.abandon coroutine)
            unwind condition steps

def raise (cause : Cause) : Strict Outcome := do
  let trace ← within (trace (← get))
  lift (Action.count fun counters => { counters with raised := counters.raised + 1 })
  unwind ⟨cause, trace⟩ (← get).coroutines.size

def loadVar (dst : Reg) (name : SymbolId) : Strict Outcome := do
  let scope := (← lift Action.frame).scope
  let machine ← get
  match machine.arena.lookupVar? scope name with
  | some value => lift do
      Action.write dst value
      return .proceed
  | none => raise (.undefinedVariable (machine.program.symbolName name))

def call (dst : Option Reg) (callee : Callee) (args : List Reg) : Strict Outcome := do
  let caller ← lift Action.frame
  let values ← lift (Action.ofExcept (caller.readAll args))
  match callee with
  | .direct function =>
      pushCall function values dst
      return .proceed
  | .overloaded name =>
      let machine ← get
      let set := (machine.arena.resolve caller.scope name).getD (.empty name)
      match machine.program.select set values with
      | .ok function =>
          lift (Action.countTried set (some function))
          pushCall function values dst
          return .proceed
      | .error cause =>
          lift (Action.countTried set none)
          raise cause

def thenProceed (action : Strict Unit) : Strict Outcome := do
  action
  return .proceed

def execute : Instruction → Strict Outcome
  | .loadVar dst name => loadVar dst name
  | .pushScope => thenProceed pushScope
  | .call dst callee args => call dst callee args
  | .createCoroutine dst function args => thenProceed (createCoroutine dst function args)
  | .enterCoroutine dst coroutine out => thenProceed (enterCoroutine dst coroutine out)
  | .copyCoroutine dst coroutine => thenProceed (copyCoroutine dst coroutine)
  | .noSolution => raise .noSolution
  | .pushCatch target dst => thenProceed (pushHandler target dst)
  | .popCatch => thenProceed popHandler
  | .throw value => do raise (.thrown (← lift (Action.read value)))
  | other => lift (Action.execute other)

def cycle : Strict Outcome := do
  lift Action.noteDepth
  let instruction ← lift Action.fetch
  lift (Action.count (·.record instruction))
  execute instruction

/-- The machine after one instruction, unless something is out of range in its course. -/
def step (machine : Machine) : Option Machine :=
  match cycle machine with
  | .ok .proceed after => some after
  | .ok (.done value) after => some { after with status := .done value }
  | .ok (.uncaught condition) after => some { after with status := .uncaught condition }
  | .error (.fault fault) after =>
      some { after.count (·.noteDepth after.depth) with status := .trapped fault }
  | .error .outOfRange _ => none

def run : Nat → Machine → Option Machine
  | 0, machine => some machine
  | fuel + 1, machine => if machine.isRunning then (step machine).bind (run fuel) else some machine

/-! ## Nothing is out of range -/

/-- A strict action does at a machine what an action does. -/
def InRange (strict : Strict α) (action : Action α) (machine : Machine) : Prop :=
  strict machine = lift action machine

variable {machine : Machine}

theorem inRange_lift {action : Action α} : InRange (lift action) action machine := rfl

theorem inRange_bind {strict : Strict β} {first : Action β} {next : β → Strict α}
    {next' : β → Action α} (here : InRange strict first machine)
    (onward : first.Leads machine (fun value after => InRange (next value) (next' value) after)
      fun _ _ => True) : InRange (strict >>= next) (first >>= next') machine := by
  unfold InRange lift at here ⊢
  unfold Action.Leads at onward
  simp only [bind, EStateM.bind, EStateM.adaptExcept] at here ⊢
  rw [here]
  cases ran : first machine with
  | ok value after =>
      rw [ran] at onward
      exact onward
  | error fault after => rfl

theorem inRange_then {strict : Strict β} {first : Action β} {next : β → Strict α}
    {next' : β → Action α} (here : InRange strict first machine)
    (onward : ∀ value after, InRange (next value) (next' value) after) :
    InRange (strict >>= next) (first >>= next') machine := by
  refine inRange_bind here ?_
  unfold Action.Leads
  split
  · exact onward _ _
  · trivial

theorem inRange_quiet {first : Action β} {next : β → Strict α} {next' : β → Action α}
    (quiet : first.Quiet) (onward : ∀ value, InRange (next value) (next' value) machine) :
    InRange (lift first >>= next) (first >>= next') machine :=
  inRange_bind inRange_lift ((quiet machine).mono (fun value _ same => same ▸ onward value)
    fun _ _ _ => trivial)

theorem inRange_get {next : Machine → Strict α} {next' : Machine → Action α}
    (onward : InRange (next machine) (next' machine) machine) :
    InRange (get >>= next) (get >>= next') machine :=
  onward

theorem inRange_within {option : Option β} {value : β} {next : β → Strict α} {action : Action α}
    (found : option = some value) (onward : InRange (next value) action machine) :
    InRange (within option >>= next) action machine := by
  rw [found]
  exact onward

/-! Placing containers -/

section Placing

variable (sound : machine.arena.Sound)

include sound

theorem allocContainer_inRange {parent : ContainerId} :
    InRange (allocContainer parent) (Action.allocContainer parent) machine :=
  inRange_get <| inRange_quiet Action.quiet_ensure fun _ =>
    inRange_within (Arena.place?_eq sound) rfl

theorem newFrame_inRange {function : FunctionId} {args : List Value} {role : Role} :
    InRange (newFrame function args role) (Action.newFrame function args role) machine := by
  refine inRange_get ?_
  cases machine.program.function? function with
  | none => rfl
  | some unit =>
      exact inRange_quiet Action.quiet_ensure fun _ =>
        inRange_then (allocContainer_inRange sound) fun _ _ => inRange_lift

theorem pushScope_inRange : InRange pushScope Action.pushScope machine :=
  inRange_quiet Action.quiet_frame fun _ =>
    inRange_then (allocContainer_inRange sound) fun _ _ => inRange_lift

theorem pushCall_inRange {function : FunctionId} {args : List Value} {dst : Option Reg} :
    InRange (pushCall function args dst) (Action.pushCall function args dst) machine :=
  inRange_get <| inRange_get <| inRange_quiet Action.quiet_coroutine fun _ =>
    inRange_quiet Action.quiet_ensure fun _ =>
      inRange_then (newFrame_inRange sound) fun _ _ => inRange_lift

theorem createCoroutine_inRange {dst : Reg} {function : FunctionId} {args : List Reg} :
    InRange (createCoroutine dst function args) (Action.createCoroutine dst function args)
      machine :=
  inRange_quiet Action.quiet_nextCoroutine fun _ => inRange_quiet Action.quiet_frame fun _ =>
    inRange_quiet Action.quiet_ofExcept fun _ =>
      inRange_then (newFrame_inRange sound) fun _ _ => inRange_lift

theorem copyCoroutine_inRange {dst source : Reg} :
    InRange (copyCoroutine dst source) (Action.copyCoroutine dst source) machine :=
  inRange_quiet Action.quiet_frame fun _ => inRange_quiet Action.quiet_ofExcept fun _ =>
    inRange_quiet Action.quiet_nextCoroutine fun _ => inRange_get <|
      inRange_then (allocContainer_inRange sound) fun _ _ => inRange_lift

end Placing

/-! Depths of active frames -/

section Depths

theorem difference?_eq {whole part : Nat} (enough : part ≤ whole) :
    difference? whole part = some (whole - part) :=
  if_pos enough

variable {id : CoroutineId} {coroutine : Coroutine}

theorem inRange_frame {next : Frame → Strict α} {next' : Frame → Action α}
    (onward : ∀ frame, machine.active? = some frame → InRange (next frame) (next' frame) machine) :
    InRange (lift Action.frame >>= next) (Action.frame >>= next') machine :=
  inRange_bind inRange_lift
    (Action.leads_frame.mpr ⟨onward, fun _ _ _ => trivial, fun _ => trivial⟩)

theorem inRange_coroutine {next : Coroutine → Strict α} {next' : Coroutine → Action α}
    (onward : ∀ coroutine, machine.coroutine? id = some coroutine →
      InRange (next coroutine) (next' coroutine) machine) :
    InRange (lift (Action.coroutine id) >>= next) (Action.coroutine id >>= next') machine :=
  inRange_bind inRange_lift (Action.leads_coroutine.mpr ⟨onward, fun _ => trivial⟩)

/-- A coroutine that is known is looked up once more. -/
theorem inRange_again {next : Coroutine → Strict α} {action : Action α}
    (found : machine.coroutine? id = some coroutine)
    (onward : InRange (next coroutine) action machine) :
    InRange (lift (Action.coroutine id) >>= next) action machine := by
  have leads : (Action.coroutine id).Leads machine
      (fun same after => same = coroutine ∧ after = machine) fun _ _ => False := by
    refine Action.leads_coroutine.mpr ⟨fun same found' => ⟨?_, rfl⟩, fun missing => ?_⟩
    · exact Option.some.inj (found'.symm.trans found)
    · cases found.symm.trans missing
  unfold InRange lift at onward ⊢
  simp only [bind, EStateM.bind, EStateM.adaptExcept] at onward ⊢
  cases ran : Action.coroutine id machine with
  | ok same after =>
      obtain ⟨rfl, rfl⟩ := leads.ended ran
      exact onward
  | error fault after => exact (leads.faulted ran).elim

theorem enterCoroutine_inRange {dst out : Option Reg} {target : Reg} :
    InRange (enterCoroutine dst target out) (Action.enterCoroutine dst target out) machine := by
  refine inRange_frame fun frame active => inRange_quiet Action.quiet_ofExcept fun id =>
    inRange_quiet Action.quiet_coroutine fun entered => ?_
  by_cases exhausted : entered.state = .exhausted
  · simp only [if_pos exhausted]
    exact inRange_lift
  · simp only [if_neg exhausted]
    have deep : 1 ≤ machine.depth := by
      obtain ⟨coroutine, current, top⟩ := Option.bind_eq_some_iff.mp active
      rw [Machine.depth, current]
      exact (Coroutine.at?_top top).1
    exact inRange_get <| inRange_within (difference?_eq deep) inRange_lift

theorem pushHandler_inRange {target : Nat} {dst : Option Reg} :
    InRange (pushHandler target dst) (Action.pushHandler target dst) machine := by
  refine inRange_get <| inRange_frame fun frame active => inRange_get ?_
  obtain ⟨coroutine, current, top⟩ := Option.bind_eq_some_iff.mp active
  refine inRange_again current (inRange_within (difference?_eq (Coroutine.at?_top top).1) ?_)
  exact congrArg (EStateM.Result.ok ()) (Machine.updateCoroutine_congr current rfl)

theorem popHandler_inRange {frame : Frame} (active : machine.active? = some frame) :
    InRange popHandler Action.popHandler machine := by
  obtain ⟨coroutine, current, top⟩ := Option.bind_eq_some_iff.mp active
  refine inRange_get <| inRange_coroutine fun coroutine' current' => ?_
  cases Option.some.inj (current.symm.trans current')
  refine inRange_within (difference?_eq (Coroutine.at?_top top).1) ?_
  cases coroutine.handlers with
  | nil => rfl
  | cons handler outer => exact inRange_lift

end Depths

/-! Slices of coroutines -/

section Slices

theorem trace_eq : trace machine = some machine.trace := by
  have whole (stack : Stack Frame) : stack.below? stack.size = some stack := by
    rw [Stack.below?, if_pos (Nat.le_refl _), Stack.below_size]
  have part (stack : Stack Frame) (stop : Nat) :
      stack.below? (min stack.size stop) = some (stack.below stop) := by
    rw [Stack.below?, if_pos (Nat.min_le_left ..), Stack.below_min]
  let active := ((machine.coroutine? machine.current).map Coroutine.frames).toList
  let waiting := machine.callers.filterMap fun link =>
    (machine.coroutine? link.coroutine).map fun coroutine => coroutine.frames.below (link.depth + 1)
  have cut : ((machine.coroutine? machine.current).map fun coroutine =>
        some coroutine.frames).toList ++ (machine.callers.filterMap fun link =>
          (machine.coroutine? link.coroutine).map fun coroutine =>
            some (coroutine.frames.below (link.depth + 1))) = (active ++ waiting).map some := by
    rw [List.map_append, List.map_filterMap, ← Option.toList_map]
    simp only [Option.map_map]
    rfl
  have slices : ((active ++ waiting).map some).mapM id = some (active ++ waiting) := by
    rw [List.mapM_map]
    exact List.mapM_pure.trans (by simp)
  have listed : (active ++ waiting).flatMap Stack.items =
      (((machine.coroutine? machine.current).map (·.frames.items)).toList ++
        machine.callers.filterMap fun link =>
          (machine.coroutine? link.coroutine).map fun coroutine =>
            (coroutine.frames.below (link.depth + 1)).items).flatten := by
    rw [List.flatMap_def, List.map_append, List.map_filterMap, ← Option.toList_map]
    simp only [Option.map_map]
    rfl
  simp only [trace, whole, part]
  rw [cut, slices]
  exact congrArg (fun frames => some (frames.map machine.traceEntry)) listed

/-- Rolling regions back leaves the coroutines alone. -/
theorem rollbackInnermost_leads : Action.rollbackInnermost.Leads machine
    (fun _ after => after.coroutines = machine.coroutines) fun _ _ => True := by
  simp only [Action.rollbackInnermost, Action.popRegion, Action.leads_bind, Action.leads_get]
  cases machine.regions.top? with
  | none => trivial
  | some region =>
      simp only [Action.leads_bind, Action.leads_modify, Action.leads_pure, Action.leads_ensure,
        Action.leads_updateArena, Action.leads_count, implies_true, and_true]
      intro _
      rw [(Machine.count_eq _ _).choose_spec]

theorem rollbackWhile_leads {undone : Region → Bool} : (Action.rollbackWhile undone).Leads machine
    (fun _ after => after.coroutines = machine.coroutines) fun _ _ => True := by
  simp only [Action.rollbackWhile, Action.leads_bind, Action.leads_get]
  generalize machine.regions.items.takeWhile undone = regions
  induction regions generalizing machine with
  | nil => rfl
  | cons region rest ih =>
      simp only [List.forM_eq_forM, List.forM_cons, Action.leads_bind] at ih ⊢
      refine rollbackInnermost_leads.mono (fun _ after kept => ?_) fun _ _ _ => trivial
      exact ih.mono (fun _ _ kept' => kept'.trans kept) fun _ _ _ => trivial

theorem catchCondition_inRange {handler : Handler} {condition : Condition} :
    InRange (catchCondition handler condition) (Action.catchCondition handler condition)
      machine := by
  refine inRange_get <| inRange_coroutine fun coroutine current => ?_
  cases owned : coroutine.frames.at? handler.depth with
  | none =>
      simp only [owned]
      rfl
  | some target =>
      have deep := Stack.lt_of_at? owned
      simp only [owned]
      refine inRange_get <| inRange_quiet Action.quiet_ensure fun _ => ?_
      refine inRange_within (if_pos (Nat.le_of_lt deep)) ?_
      rw [Stack.above_of_at? owned]
      refine inRange_bind inRange_lift (rollbackWhile_leads.mono ?_ fun _ _ _ => trivial)
      intro _ after kept
      have current' : after.coroutine? machine.current = some coroutine := by
        rw [Machine.coroutine?, kept]
        exact current
      exact inRange_again current' (inRange_within (if_pos deep) inRange_lift)

theorem unwind_inRange {condition : Condition} {steps : Nat} :
    InRange (unwind condition steps) (Action.unwind condition steps) machine := by
  induction steps generalizing machine with
  | zero => rfl
  | succ steps ih =>
      refine inRange_get <| inRange_quiet Action.quiet_coroutine fun coroutine => ?_
      cases coroutine.handlers with
      | cons handler outer => exact inRange_then inRange_lift fun _ _ => catchCondition_inRange
      | nil =>
          by_cases root : machine.current = .root
          · simp only [if_pos root]
            exact inRange_lift
          · simp only [if_neg root]
            exact inRange_then inRange_lift fun _ _ => ih

theorem raise_inRange {cause : Cause} : InRange (raise cause) (Action.raise cause) machine :=
  inRange_get <| inRange_within trace_eq <| inRange_then inRange_lift fun _ _ =>
    inRange_get unwind_inRange

theorem loadVar_inRange {dst : Reg} {name : SymbolId} :
    InRange (loadVar dst name) (Action.loadVar dst name) machine := by
  refine inRange_quiet Action.quiet_frame fun frame => inRange_get ?_
  cases machine.arena.lookupVar? frame.scope name with
  | some value => exact inRange_lift
  | none => exact raise_inRange

theorem call_inRange {dst : Option Reg} {callee : Callee} {args : List Reg}
    (sound : machine.arena.Sound) :
    InRange (call dst callee args) (Action.call dst callee args) machine := by
  refine inRange_quiet Action.quiet_frame fun caller =>
    inRange_quiet Action.quiet_ofExcept fun values => ?_
  cases callee with
  | direct function => exact inRange_then (pushCall_inRange sound) fun _ _ => rfl
  | overloaded name =>
      refine inRange_get ?_
      dsimp only
      cases machine.program.select
          ((machine.arena.resolve caller.scope name).getD (.empty name)) values with
      | ok function =>
          refine inRange_bind inRange_lift (Action.leads_count.mpr ?_)
          obtain ⟨counters, counted⟩ := machine.count_eq _
          rw [counted]
          exact inRange_then (@pushCall_inRange { machine with counters } sound function values dst)
            fun _ _ => rfl
      | error cause => exact inRange_then inRange_lift fun _ _ => raise_inRange

end Slices

/-! Instructions -/

theorem thenProceed_inRange {strict : Strict Unit} {action : Action Unit}
    (here : InRange strict action machine) :
    InRange (thenProceed strict) (Action.thenProceed action) machine :=
  inRange_then here fun _ _ => rfl

theorem execute_inRange {frame : Frame} (sound : machine.arena.Sound)
    (active : machine.active? = some frame) (code : Instruction) :
    InRange (execute code) (Action.execute code) machine := by
  cases code with
  | loadVar => exact loadVar_inRange
  | pushScope => exact thenProceed_inRange (pushScope_inRange sound)
  | call => exact call_inRange sound
  | createCoroutine => exact thenProceed_inRange (createCoroutine_inRange sound)
  | enterCoroutine => exact thenProceed_inRange enterCoroutine_inRange
  | copyCoroutine => exact thenProceed_inRange (copyCoroutine_inRange sound)
  | noSolution => exact raise_inRange
  | pushCatch => exact thenProceed_inRange pushHandler_inRange
  | popCatch => exact thenProceed_inRange (popHandler_inRange active)
  | throw => exact inRange_quiet Action.quiet_read fun _ => raise_inRange
  | _ => exact inRange_lift

/-- An instruction that is fetched has an active frame to execute it. -/
theorem fetch_leads : Action.fetch.Leads machine
    (fun _ after => after.arena = machine.arena ∧ ∃ frame, after.active? = some frame)
    fun _ _ => True := by
  simp only [Action.fetch, Action.leads_bind, Action.leads_frame, Action.leads_updateFrame,
    Action.leads_get, implies_true, and_true]
  intro frame active
  split
  · trivial
  · split
    · exact ⟨rfl, _, Machine.active?_updateFrame active⟩
    · trivial

theorem cycle_inRange (sound : machine.arena.Sound) : InRange cycle Action.cycle machine := by
  refine inRange_bind inRange_lift (Action.leads_modify.mpr ?_)
  obtain ⟨counters, counted⟩ := machine.count_eq (·.noteDepth machine.depth)
  rw [counted]
  refine inRange_bind inRange_lift (fetch_leads.mono ?_ fun _ _ _ => trivial)
  rintro code fetched ⟨arena, frame, active⟩
  refine inRange_bind inRange_lift (Action.leads_count.mpr ?_)
  obtain ⟨counters', counted'⟩ := fetched.count_eq (·.record code)
  rw [counted']
  refine @execute_inRange { fetched with counters := counters' } frame ?_ active code
  exact arena ▸ sound

/-- Nothing is out of range in the course of an instruction. -/
theorem step_eq (sound : machine.arena.Sound) : step machine = some machine.step := by
  have here : cycle machine = lift Action.cycle machine := cycle_inRange sound
  rw [step, here, Machine.step, lift, EStateM.adaptExcept]
  cases Action.cycle machine with
  | ok outcome after => cases outcome <;> rfl
  | error => rfl

end Strict

end Backtrack
