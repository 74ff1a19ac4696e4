import Backtrack.Proofs.Calling
import Backtrack.Proofs.Ledger
import Mathlib

/-!
Overloaded calls. The candidates are the functions that the ledger lists for the name: those of the
innermost container come first, and the last declaration of a container before the earlier ones. The
first of them that takes the arguments is called. If none does, the call raises a condition with
the name and the number of the arguments.
-/

namespace Backtrack

namespace Shape

/-- The values that have a shape. -/
inductive Matches : Shape → Value → Prop
  | any {value : Value} : Matches .any value
  | unit : Matches .unit .unit
  | bool {b : Bool} : Matches .bool (.bool b)
  | int {n : Int64} : Matches .int (.int n)
  | str {text : String} : Matches .str (.str text)
  | function {id : FunctionId} : Matches .function (.function id)
  | coroutine {id : CoroutineId} : Matches .coroutine (.coroutine id)
  | node {home : Allocation} {ctor : ConstructorId} {fields : List Value} :
      Matches .node (.node home ctor fields)
  | literal {value : Literal} : Matches (.literal value) (.ofLiteral value)
  | constructed {home : Allocation} {ctor : ConstructorId} {shapes : List Shape}
      {fields : List Value} (each : List.Forall₂ Matches shapes fields) :
      Matches (.constructed ctor shapes) (.node home ctor fields)

mutual

theorem accepts_iff (shape : Shape) (value : Value) :
    shape.accepts value = true ↔ shape.Matches value := by
  constructor
  · intro accepted
    unfold accepts at accepted
    split at accepted
    · exact .any
    · exact .unit
    · exact .bool
    · exact .int
    · exact .str
    · exact .function
    · exact .coroutine
    · exact .node
    · cases Value.isLiteral_iff.mp accepted
      exact .literal
    · next ctor shapes home found fields =>
        obtain ⟨same, each⟩ := Bool.and_eq_true_iff.mp accepted
        cases of_decide_eq_true same
        exact .constructed ((acceptsAll_iff shapes fields).mp each)
    · cases accepted
  · intro holds
    cases holds with
    | literal => exact Value.isLiteral_iff.mpr rfl
    | @constructed home ctor shapes fields each =>
        rw [accepts, (acceptsAll_iff shapes fields).mpr each, decide_eq_true rfl]
        rfl
    | _ => rfl

theorem acceptsAll_iff : (shapes : List Shape) → (values : List Value) →
    (acceptsAll shapes values = true ↔ List.Forall₂ Matches shapes values)
  | [], [] => ⟨fun _ => .nil, fun _ => rfl⟩
  | [], _ :: _ | _ :: _, [] => ⟨nofun, nofun⟩
  | shape :: shapes, value :: values => by
      rw [acceptsAll, Bool.and_eq_true, accepts_iff shape value, acceptsAll_iff shapes values,
        List.forall₂_cons]

end

end Shape

namespace Program

variable {program : Program} {function : FunctionId} {values : List Value} {set : CandidateSet}
  {cause : Cause}

/-- A function has as many parameters as there are arguments, and each argument has the shape of its
parameter. -/
def Takes (program : Program) (function : FunctionId) (values : List Value) : Prop :=
  ∃ unit, program.function? function = some unit ∧ unit.parameterCount = values.length ∧
    List.Forall₂ Shape.Matches unit.parameters values

/-- The first of the functions that takes the arguments. -/
def Chooses (program : Program) (order : List FunctionId) (values : List Value)
    (function : FunctionId) : Prop :=
  ∃ earlier later, order = earlier ++ function :: later ∧ program.Takes function values ∧
    ∀ other ∈ earlier, ¬ program.Takes other values

theorem acceptedBy_iff : program.acceptedBy values function = true ↔ program.Takes function values := by
  unfold acceptedBy Takes
  cases program.function? function with
  | none => exact ⟨nofun, nofun⟩
  | some unit =>
      simp only [CodeUnit.accepts, Bool.and_eq_true, decide_eq_true_eq, Shape.acceptsAll_iff,
        Option.some.injEq, exists_eq_left']

theorem not_chooses_nil : ¬ program.Chooses [] values function := by
  intro ⟨earlier, later, parts, _⟩
  simp at parts

theorem chooses_of_select (selected : program.select set values = .ok function) :
    program.Chooses set.functions values function := by
  unfold select at selected
  split at selected
  · next found =>
      cases selected
      obtain ⟨takes, earlier, later, parts, others⟩ := List.find?_eq_some_iff_append.mp found
      refine ⟨earlier, later, parts, acceptedBy_iff.mp takes, fun other member takes => ?_⟩
      have refused := others other member
      rw [acceptedBy_iff.mpr takes] at refused
      cases refused
  · cases selected

theorem refused_of_select (refused : program.select set values = .error cause) :
    (∀ function ∈ set.functions, ¬ program.Takes function values) ∧
      cause = .unresolvedCall (program.symbolName set.name) values.length := by
  unfold select at refused
  split at refused
  · cases refused
  · next none =>
      cases refused
      refine ⟨fun function member takes => ?_, rfl⟩
      exact List.find?_eq_none.mp none function member (acceptedBy_iff.mpr takes)

end Program

namespace Ledger

variable {ledger : Ledger} {containers : List ContainerId} {name : SymbolId} {set : CandidateSet}

theorem name_candidates? {container : ContainerId}
    (held : ledger.candidates? container name = some set) : set.name = name := by
  unfold candidates? at held
  split at held
  · cases held
  · cases held
    rfl

/-- Containers without candidates make no difference. -/
theorem functions_filterMap :
    (containers.filterMap (ledger.candidates? · name)).flatMap CandidateSet.functions =
      containers.flatMap (ledger.listed · name) := by
  induction containers with
  | nil => rfl
  | cons container outer ih =>
      rw [List.filterMap_cons, List.flatMap_cons, ← ih, ← functions_candidates?]
      cases ledger.candidates? container name <;> rfl

end Ledger

namespace Machine

variable {program : Program} {args : List Value} {settings : Settings} {initial machine : Machine}
  {ledger : Ledger} {copies : List Arena} {scope : ContainerId} {name : SymbolId} {frame : Frame}
  {dst : Option Reg} {regs : List Reg} {values : List Value} {function : FunctionId}

/-- The functions that are tried: those of the containers from one outward to the global one, and
in each container those that were declared last first. -/
def candidates (machine : Machine) (ledger : Ledger) (scope : ContainerId) (name : SymbolId) :
    List FunctionId :=
  (machine.arena.ancestry scope).flatMap (ledger.listed · name)

/-- Resolution finds what the ledger lists. -/
theorem Listed.resolve (listed : machine.Listed copies ledger)
    (live : ∀ container ∈ machine.arena.ancestry scope, machine.arena.isLive container = true) :
    (machine.arena.resolve scope name).getD (.empty name) =
      ⟨name, machine.candidates ledger scope name⟩ := by
  have same : (machine.arena.ancestry scope).filterMap (machine.arena.candidates? · name) =
      (machine.arena.ancestry scope).filterMap (ledger.candidates? · name) :=
    List.filterMap_congr fun container member => listed.current container name (live container member)
  rw [candidates, ← Ledger.functions_filterMap, Arena.resolve, same]
  split
  · next none =>
      rw [none]
      rfl
  · next inner outer some =>
      have named : inner.name = name := by
        obtain ⟨container, -, held⟩ := List.mem_filterMap.mp (some ▸ List.mem_cons_self)
        exact Ledger.name_candidates? held
      rw [some, ← named]
      rfl

/-- How an overloaded call ends when functions are tried in an order. -/
inductive Dispatched (machine : Machine) (code : Instruction) (name : SymbolId) (dst : Option Reg)
    (values : List Value) (order : List FunctionId) : Prop
  | calls {function : FunctionId} {counters : Counters}
      (first : machine.program.Chooses order values function)
      (running : machine.step.isRunning = true)
      (calls : { machine.fetched code with counters }.CallsWith function values dst machine.step)
      (kept : ∀ container, machine.arena.isLive container = true →
        machine.step.arena.get? container = machine.arena.get? container)
  | crowded {function : FunctionId} {fault : Fault}
      (first : machine.program.Chooses order values function) (crowded : machine.Crowded fault)
      (trapped : machine.step.status = .trapped fault) (kept : machine.step.arena = machine.arena)
  | unresolved {cause : Cause} {counters : Counters}
      (none : ∀ function ∈ order, ¬ machine.program.Takes function values)
      (unresolved : cause = .unresolvedCall (machine.program.symbolName name) values.length)
      (raises : (machine.fetched code).raised? code = some cause)
      (raised : Action.execute code (machine.fetched code) =
        Action.raise cause { machine.fetched code with counters })
      (kept : (machine.fetched code).arena = machine.arena)

/-- A function that takes the arguments is called with them, or there is no room. -/
theorem step_overloaded (running : machine.isRunning = true)
    (next : machine.instruction? = some (.call dst (.overloaded name) regs))
    (active : machine.active? = some frame) (passed : frame.readAll regs = .ok values)
    (selected : machine.program.select
      ((machine.arena.resolve frame.scope name).getD (.empty name)) values = .ok function)
    (admits : machine.Admits function values) :
    (∃ counters, machine.step.isRunning = true ∧
      { machine.fetched (.call dst (.overloaded name) regs) with counters }.CallsWith function values
        dst machine.step) ∨
    ∃ fault, machine.Crowded fault ∧ machine.step.status = .trapped fault ∧
      machine.step.arena = machine.arena := by
  obtain ⟨coroutine, current, -⟩ := Option.bind_eq_some_iff.mp active
  obtain ⟨unit, found, arity, fits⟩ := admits
  have active' : (machine.fetched (.call dst (.overloaded name) regs)).active? = _ :=
    active?_fetched active
  rw [← @program_fetched machine (.call dst (.overloaded name) regs),
    ← @arena_fetched machine (.call dst (.overloaded name) regs)] at selected
  obtain ⟨counters, leads⟩ := @Action.call_overloaded_calls _ function values dst _ regs name active'
    passed selected
  rcases step_of_proceeds next leads with calls | ⟨fault, after, counted, stopped, same⟩
  · left
    refine ⟨counters, ?_, calls⟩
    obtain ⟨unit, registers, -, -, same⟩ := calls
    rw [same]
    exact decide_eq_true (status_fetched.trans (of_decide_eq_true running))
  · right
    obtain ⟨rfl, crowded⟩ := stopped
      ⟨unit, (congrArg (·.function? function) program_fetched).trans found, arity, fits⟩
    change _ ∧ _ ≤ (machine.fetched _).depth ∨ _ at crowded
    rw [same]
    refine ⟨fault, ?_, rfl, arena_fetched⟩
    simpa only [Crowded, settings_fetched, depth_fetched current, arena_fetched] using crowded

theorem dispatched_of_listed
    (listed : machine.Listed copies ledger) (checked : machine.program.check = .ok ())
    (sound : machine.Sound) (running : machine.isRunning = true)
    (next : machine.instruction? = some (.call dst (.overloaded name) regs))
    (active : machine.active? = some frame) (passed : frame.readAll regs = .ok values) :
    machine.Dispatched (.call dst (.overloaded name) regs) name dst values
      (machine.candidates ledger frame.scope name) := by
  have live : ∀ container ∈ machine.arena.ancestry frame.scope,
      machine.arena.isLive container = true := fun _ => sound.live_of_inScope active
  have resolved := @Listed.resolve _ _ _ _ name listed live
  cases selected : machine.program.select
      ((machine.arena.resolve frame.scope name).getD (.empty name)) values with
  | ok function =>
      have first := Program.chooses_of_select selected
      rw [resolved] at first
      have admits : machine.Admits function values := by
        obtain ⟨-, -, -, ⟨unit, found, arity, -⟩, -⟩ := first
        exact ⟨unit, found, arity, (machine.program.unit_checked checked found).parameters⟩
      rcases step_overloaded running next active passed selected admits with
        ⟨counters, goesOn, calls⟩ | ⟨fault, crowded, trapped, kept⟩
      · refine .calls first goesOn calls fun container stood => ?_
        obtain ⟨_, _, -, -, same⟩ := calls
        rw [same]
        change ((machine.fetched _).arena.place _).2.get? container = _
        rw [arena_fetched]
        exact (Arena.get?_place_live (Backtrack.Housed.sound sound.housed) stood).2
      · exact .crowded first crowded trapped kept
  | error cause =>
      obtain ⟨none, unresolved⟩ := Program.refused_of_select selected
      rw [resolved] at none unresolved
      have raises : (machine.fetched (.call dst (.overloaded name) regs)).raised?
          (.call dst (.overloaded name) regs) = some cause := by
        have passed' : ({ frame with pc := frame.pc + 1 } : Frame).readAll regs = .ok values := passed
        simp [raised?, active?_fetched active, passed', selected, Except.toOption]
      obtain ⟨counters, raised⟩ := Action.execute_raise_eq raises
      exact .unresolved none unresolved raises raised arena_fetched

/-- An overloaded call calls the first function that takes the arguments, of those that were declared
in the containers from the scope of the frame to the global one and were not rolled back. -/
theorem Reaches.dispatched (checked : program.check = .ok ())
    (started : start program args settings = .ok initial) (reaches : initial.Reaches machine)
    (running : machine.isRunning = true) (rare : machine.arena.Rare)
    (next : machine.instruction? = some (.call dst (.overloaded name) regs))
    (active : machine.active? = some frame) (passed : frame.readAll regs = .ok values) :
    Trail machine.arena.parent? frame.scope (machine.arena.ancestry frame.scope) ∧
      (machine.arena.ancestry frame.scope).getLast? = some machine.globals ∧
      (∃ ledger, initial.Records machine ledger) ∧
      ∀ ledger, initial.Records machine ledger →
        machine.Dispatched (.call dst (.overloaded name) regs) name dst values
          (machine.candidates ledger frame.scope name) := by
  have reachable : Reachable program args settings machine := ⟨initial, started, reaches⟩
  have sound := reachable.sound running
  obtain ⟨coroutine, found, top⟩ := Option.bind_eq_some_iff.mp active
  have stands : Stands machine.coroutine? machine.current (coroutine.depth - 1) frame :=
    ⟨coroutine, found, (Coroutine.at?_top top).2⟩
  refine ⟨(Housed.lineage sound.housed stands).1, ?_, reaches.records, fun ledger records => ?_⟩
  · obtain ⟨blocks, dwells⟩ := Backtrack.Housed.dwells sound.housed stands
    rw [dwells.ancestry (Backtrack.Housed.live sound.housed), List.getLast?_concat]
  · obtain ⟨copies, listed⟩ := records.listed started running rare
    have checked' : machine.program.check = .ok () := by rw [reachable.program_eq running, checked]
    exact dispatched_of_listed listed checked' sound running next active passed

/-- Declares a function for any argument, and in an inner container one for strings and, in a region
that it rolls back, one for integers. Then it calls the name with an integer and with nothing. -/
def overloadingProgram : Program :=
  { Program.empty with
    functions := #[
      { name := "main", registerCount := 2, parameterCount := 0, parameters := []
        code := #[.declareFunction ⟨0⟩ ⟨1⟩, .pushScope, .declareFunction ⟨0⟩ ⟨2⟩, .openRegion,
          .declareFunction ⟨0⟩ ⟨3⟩, .rollbackRegion, .const 0 (.int 1),
          .call (some 1) (.overloaded ⟨0⟩) [0], .call (some 1) (.overloaded ⟨0⟩) [], .return 1] },
      { name := "any", registerCount := 1, parameterCount := 1, parameters := [.any]
        code := #[.return 0] },
      { name := "text", registerCount := 1, parameterCount := 1, parameters := [.str]
        code := #[.return 0] },
      { name := "number", registerCount := 1, parameterCount := 1, parameters := [.int]
        code := #[.return 0] }]
    functionIndex := .ofList [("main", FunctionId.mk 0), ("any", FunctionId.mk 1),
      ("text", FunctionId.mk 2), ("number", FunctionId.mk 3)]
    symbols := #["show"]
    symbolIndex := .ofList [("show", SymbolId.mk 0)] }

/-- The next instruction is an overloaded call. -/
def AboutToCall (machine : Machine) (regs : List Reg) (values : List Value)
    (order : List FunctionId) (ledger : Ledger) : Prop :=
  machine.isRunning = true ∧ machine.arena.Rare ∧
    machine.instruction? = some (.call (some 1) (.overloaded ⟨0⟩) regs) ∧
    (machine.active?.bind fun frame => (frame.readAll regs).toOption) = some values ∧
    (machine.active?.map fun frame => machine.candidates ledger frame.scope ⟨0⟩) = some order

instance {regs : List Reg} {order : List FunctionId} :
    Decidable (machine.AboutToCall regs values order ledger) :=
  inferInstanceAs (Decidable (_ ∧ _))

theorem dispatched_overloading :
    ∃ initial, start overloadingProgram [] .standard = .ok initial ∧
      (initial.run 7).Dispatched (.call (some 1) (.overloaded ⟨0⟩) [0]) ⟨0⟩ (some 1) [.int 1]
        [⟨2⟩, ⟨1⟩] ∧
      (initial.run 8).active?.map Frame.function = some ⟨1⟩ ∧
      (initial.run 9).Dispatched (.call (some 1) (.overloaded ⟨0⟩) []) ⟨0⟩ (some 1) [] [⟨2⟩, ⟨1⟩] ∧
      (initial.run 10).status = .uncaught ⟨.unresolvedCall "show" 0, [⟨"main", 8⟩]⟩ := by
  have runs : (match start overloadingProgram [] .standard with
      | .ok initial => decide (
          (initial.run 7).AboutToCall [0] [.int 1] [⟨2⟩, ⟨1⟩] (initial.recordRun 7 []) ∧
          (initial.run 8).active?.map Frame.function = some ⟨1⟩ ∧
          (initial.run 9).AboutToCall [] [] [⟨2⟩, ⟨1⟩] (initial.recordRun 9 []) ∧
          (initial.run 10).status = .uncaught ⟨.unresolvedCall "show" 0, [⟨"main", 8⟩]⟩)
      | .error _ => false) = true := by decide +kernel
  have checked : overloadingProgram.check = .ok () := by decide +kernel
  split at runs
  · next initial started =>
      have dispatched {fuel : Nat} {regs : List Reg} {values : List Value} {order : List FunctionId}
          (about : (initial.run fuel).AboutToCall regs values order (initial.recordRun fuel [])) :
          (initial.run fuel).Dispatched (.call (some 1) (.overloaded ⟨0⟩) regs) ⟨0⟩ (some 1) values
            order := by
        obtain ⟨running, rare, next, reads, tried⟩ := about
        obtain ⟨frame, active, passed⟩ := Option.bind_eq_some_iff.mp reads
        rw [active] at tried
        cases tried
        exact (Reaches.dispatched checked started (reaches_run fuel) running rare next active
          (Action.toOption_eq_some passed)).2.2.2 _ (Records.empty.run fuel)
      obtain ⟨about, called, about', uncaught⟩ := of_decide_eq_true runs
      exact ⟨initial, started, dispatched about, called, dispatched about', uncaught⟩
  · cases runs

end Machine

/-! ### Handles that come round again

A handle has a 32-bit generation. Once its slot was freed so often that the generation is the same
again, the handle names a new container. What a rollback then restores was not declared in it. -/

namespace Reuse

/-- Declares a function in an inner container, and again in a region. Leaves that container, enters
and leaves others `n` times, then rolls the region back in one more of them. -/
def main (n : Nat) : CodeUnit where
  name := "main"
  registerCount := 4
  parameterCount := 0
  parameters := []
  code := #[
    .const 0 (.int 0),
    .const 1 (.int 1),
    .const 2 (.int (.ofNat n)),
    .pushScope,
    .declareFunction ⟨0⟩ ⟨1⟩,
    .openRegion,
    .declareFunction ⟨0⟩ ⟨1⟩,
    .popScope,
    -- a round
    .pushScope,
    .popScope,
    .int .add 0 0 1,
    .int .lt 3 0 2,
    .branch 3 8 13,
    -- one more container
    .pushScope,
    .rollbackRegion,
    .call (some 3) (.overloaded ⟨0⟩) [],
    .return 3]

def target : CodeUnit where
  name := "f"
  registerCount := 1
  parameterCount := 0
  parameters := []
  code := #[.const 0 .unit, .return 0]

def program (n : Nat) : Program :=
  { Program.empty with
    functions := #[main n, target]
    functionIndex := .ofList [("main", FunctionId.mk 0), ("f", FunctionId.mk 1)]
    symbols := #["f"]
    symbolIndex := .ofList [("f", SymbolId.mk 0)] }

section States

variable (n : Nat) (count : Int64) (frees pc : Nat) (verdict : Option Value)

def frame (scope : ContainerId) : Frame where
  id := ⟨0⟩
  function := ⟨0⟩
  pc
  registers := #[some (.int count), some (.int 1), some (.int (.ofNat n)), verdict]
  role := .entry
  scope
  base := ⟨0, 0⟩

/-- The region has logged what its first declaration found. -/
def log : RollbackLog :=
  (RollbackLog.new.saveCandidates ⟨⟨1, 0⟩, ⟨0⟩⟩ (some ⟨⟨0⟩, [⟨1⟩]⟩)).2

/-- Between two rounds the second slot has no container. -/
def outside : Machine where
  program := program n
  settings := .standard
  status := .running
  coroutines := #[.root (frame n count pc verdict ⟨0, 0⟩)]
  current := .root
  arena := ⟨#[⟨0, some (.new none)⟩, ⟨frees, none⟩], .push .empty 1⟩
  globals := ⟨0, 0⟩
  regions := Stack.empty.push ⟨0, ⟨0⟩, log⟩
  nextSerial := 1
  nodes := .empty
  nextFrame := 1
  counters := .zero
  collecting := false

def inside : Machine :=
  { outside n count frees pc verdict with
    coroutines := #[.root (frame n count pc verdict ⟨1, .ofNat frees⟩)]
    arena := ⟨#[⟨0, some (.new none)⟩, ⟨frees, some (.new (some ⟨0, 0⟩))⟩], .empty⟩ }

theorem checked : (program n).check = .ok () := by
  cbv

theorem starts : ∃ initial, Machine.start (program n) [] .standard = .ok initial ∧
    initial.run 8 = outside n 0 1 8 none ∧ initial.recordRun 8 [] = [] := by
  exact ⟨_, by cbv, by cbv, by cbv⟩

theorem enters : (outside n count frees 8 verdict).step = inside n count frees 9 verdict :=
  rfl

theorem leaves : (inside n count frees 9 verdict).step =
    outside n count (frees + 1) 10 verdict := by
  cbv

theorem counts : (outside n count frees 10 verdict).step =
    outside n (count + 1) frees 11 verdict :=
  rfl

theorem compares : (outside n count frees 11 verdict).step =
    outside n count frees 12 (some (.bool (count < .ofNat n))) :=
  rfl

theorem repeats : (outside n count frees 12 (some (.bool true))).step =
    outside n count frees 8 (some (.bool true)) :=
  rfl

theorem ends : (outside n count frees 12 (some (.bool false))).step =
    outside n count frees 13 (some (.bool false)) :=
  rfl

end States

section Rounds

variable {n rounds frees : Nat} {verdict : Option Value} {initial : Machine}

/-- A round frees the second slot once more. -/
theorem round (records : initial.Records (outside n (.ofNat rounds) frees 8 verdict) []) :
    initial.Records (outside n (.ofNat (rounds + 1)) (frees + 1) 12
      (some (.bool (Int64.ofNat (rounds + 1) < .ofNat n)))) [] := by
  have inner := records.still (enters ..) rfl rfl
  have outer := inner.still (leaves ..) rfl rfl
  have counted := outer.still (counts ..) rfl rfl
  rw [Int64.ofNat_add]
  exact counted.still (compares ..) rfl rfl

theorem ofNat_lt_iff {counted bound : Nat} (within : counted < UInt32.size)
    (within' : bound < UInt32.size) : Int64.ofNat counted < .ofNat bound ↔ counted < bound :=
  Int64.ofNat_lt_iff_lt (Nat.lt_of_lt_of_le within (by decide))
    (Nat.lt_of_lt_of_le within' (by decide))

/-- The induction is on the rounds that are left after this one. -/
theorem all_rounds (left : Nat) (within : rounds + 1 + left < UInt32.size)
    (records : initial.Records
      (outside (rounds + 1 + left) (.ofNat rounds) frees 8 verdict) []) :
    initial.Records (outside (rounds + 1 + left) (.ofNat (rounds + 1 + left)) (frees + 1 + left) 13
      (some (.bool false))) [] := by
  induction left generalizing rounds frees verdict with
  | zero =>
      have records := round records
      have last : ¬ Int64.ofNat (rounds + 1) < .ofNat (rounds + 1) := by
        rw [ofNat_lt_iff (by omega) (by omega)]
        omega
      rw [Nat.add_zero, decide_eq_false last] at records
      exact records.still (ends ..) rfl rfl
  | succ left ih =>
      have records := round records
      have more : Int64.ofNat (rounds + 1) < .ofNat (rounds + 1 + (left + 1)) := by
        rw [ofNat_lt_iff (by omega) (by omega)]
        omega
      rw [decide_eq_true more] at records
      have records := records.still (repeats ..) rfl rfl
      have same : rounds + 1 + (left + 1) = rounds + 1 + 1 + left := by omega
      have same' : frees + 1 + (left + 1) = frees + 1 + 1 + left := by omega
      rw [same] at records ⊢
      rw [same']
      exact ih (by omega) records

/-- After so many rounds the second slot was freed once more than that. -/
theorem freed (n : Nat) (some : 0 < n) (within : n < UInt32.size) :
    ∃ initial, Machine.start (program n) [] .standard = .ok initial ∧
      initial.Records (outside n (.ofNat n) (n + 1) 13 (.some (.bool false))) [] := by
  obtain ⟨initial, started, same, empty⟩ := starts n
  have records := (Machine.Records.empty : initial.Records initial []).run 8
  rw [same, empty] at records
  obtain ⟨left, rfl⟩ : ∃ left, n = 0 + 1 + left := ⟨n - 1, by omega⟩
  have records := all_rounds left within records
  have same : 1 + 1 + left = 0 + 1 + left + 1 := by omega
  rw [same] at records
  exact ⟨initial, started, records⟩

end Rounds

/-- Before the call, when the generation is the first again. -/
def calling : Machine :=
  (outside (UInt32.size - 1) (.ofNat (UInt32.size - 1)) UInt32.size 13 (some (.bool false))).step.step

theorem calling_recorded :
    ∃ initial, Machine.start (program (UInt32.size - 1)) [] .standard = .ok initial ∧
      initial.Records calling [] := by
  obtain ⟨initial, started, records⟩ := freed (UInt32.size - 1) (by decide) (by decide)
  have entered := records.still rfl rfl rfl
  exact ⟨initial, started, entered.still rfl (by cbv) (by cbv)⟩

theorem calling_calls : calling.isRunning = true ∧
    calling.instruction? = some (.call (some 3) (.overloaded ⟨0⟩) []) ∧
    calling.active?.map Frame.scope = some ⟨1, 0⟩ ∧
    (calling.fetched (.call (some 3) (.overloaded ⟨0⟩) [])).raised?
      (.call (some 3) (.overloaded ⟨0⟩) []) = none ∧
    calling.step.isRunning = true ∧ calling.step.active?.map Frame.function = some ⟨1⟩ := by
  refine ⟨rfl, rfl, rfl, ?_⟩
  cbv

end Reuse

namespace Machine

/-- Declares a function and calls it. -/
def crowdedProgram : Program :=
  { Program.empty with
    functions := #[
      { name := "main", registerCount := 1, parameterCount := 0, parameters := []
        code := #[.declareFunction ⟨0⟩ ⟨1⟩, .call (some 0) (.overloaded ⟨0⟩) [], .return 0] },
      Reuse.target]
    functionIndex := .ofList [("main", FunctionId.mk 0), ("f", FunctionId.mk 1)]
    symbols := #["f"]
    symbolIndex := .ofList [("f", SymbolId.mk 0)] }

/-- Where handles come round again, a function is called that the ledger does not list. And where
there is no room for another frame, the first of those that it lists is not called. -/
theorem overloading_exceptions :
    (∃ initial machine frame, (Reuse.program (UInt32.size - 1)).check = .ok () ∧
      start (Reuse.program (UInt32.size - 1)) [] .standard = .ok initial ∧
      initial.Records machine [] ∧ machine.isRunning = true ∧
      machine.instruction? = some (.call (some 3) (.overloaded ⟨0⟩) []) ∧
      machine.active? = some frame ∧ machine.candidates [] frame.scope ⟨0⟩ = [] ∧
      ¬ machine.Dispatched (.call (some 3) (.overloaded ⟨0⟩) []) ⟨0⟩ (some 3) []
        (machine.candidates [] frame.scope ⟨0⟩) ∧
      machine.step.isRunning = true ∧ machine.step.active?.map Frame.function = some ⟨1⟩) ∧
    ∃ initial machine ledger frame, crowdedProgram.check = .ok () ∧
      start crowdedProgram [] { Settings.standard with maxFrames := 1 } = .ok initial ∧
      initial.Records machine ledger ∧ machine.isRunning = true ∧
      machine.instruction? = some (.call (some 0) (.overloaded ⟨0⟩) []) ∧
      machine.active? = some frame ∧
      machine.program.Chooses (machine.candidates ledger frame.scope ⟨0⟩) [] ⟨1⟩ ∧
      machine.step.status = .trapped (.frameLimit 1) ∧
      machine.step.active?.map Frame.function = some ⟨0⟩ := by
  constructor
  · obtain ⟨initial, started, records⟩ := Reuse.calling_recorded
    obtain ⟨running, next, scope, raises, goesOn, called⟩ := Reuse.calling_calls
    obtain ⟨frame, active, -⟩ := Option.map_eq_some_iff.mp scope
    have none : Reuse.calling.candidates [] frame.scope ⟨0⟩ = [] :=
      List.flatMap_eq_nil_iff.mpr fun _ _ => rfl
    refine ⟨initial, _, frame, Reuse.checked _, started, records, running, next, active, none, ?_,
      goesOn, called⟩
    rw [none]
    rintro (⟨first, -, -, -⟩ | ⟨first, -, -, -⟩ | ⟨-, -, raises', -, -⟩)
    · exact Program.not_chooses_nil first
    · exact Program.not_chooses_nil first
    · exact absurd (raises.symm.trans raises') nofun
  · have runs : (match start crowdedProgram [] { Settings.standard with maxFrames := 1 } with
        | .ok initial => decide ((initial.run 1).isRunning = true ∧
            (initial.run 1).instruction? = some (.call (some 0) (.overloaded ⟨0⟩) []) ∧
            ((initial.run 1).active?.map fun frame =>
              (initial.run 1).candidates (initial.recordRun 1 []) frame.scope ⟨0⟩) = some [⟨1⟩] ∧
            (initial.run 1).program.acceptedBy [] ⟨1⟩ = true ∧
            (initial.run 1).step.status = .trapped (.frameLimit 1) ∧
            (initial.run 1).step.active?.map Frame.function = some ⟨0⟩)
        | .error _ => false) = true := by decide +kernel
    have checked : crowdedProgram.check = .ok () := by decide +kernel
    split at runs
    · next initial started =>
        obtain ⟨running, next, tried, takes, trapped, stays⟩ := of_decide_eq_true runs
        obtain ⟨frame, active, order⟩ := Option.map_eq_some_iff.mp tried
        refine ⟨initial, initial.run 1, _, frame, checked, started, Records.empty.run 1, running,
          next, active, ?_, trapped, stays⟩
        rw [order]
        exact ⟨[], [], rfl, Program.acceptedBy_iff.mp takes, nofun⟩
    · cases runs

end Machine

end Backtrack
