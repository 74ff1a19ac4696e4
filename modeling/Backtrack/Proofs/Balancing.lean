import Backtrack.Proofs.Tandem
import Backtrack.Proofs.Linked
import Backtrack.Proofs.Fuel
import Mathlib.Data.List.TakeWhile

/-!
Balances of the counters. While a machine counts, what it counts in one place agrees with what it
counts in another and with what it has: instructions with their classes, regions opened with those
closed and those still open, conditions raised with those caught, coroutines created with those
there are, and the candidates counted at a call with those that selection looks at.
-/

namespace Backtrack

namespace Counters

/-- The instructions of all classes. -/
def total (counters : Counters) : Nat :=
  counters.calls + counters.returns + counters.created + counters.entered + counters.yielded +
    counters.jumps + counters.others

theorem total_record (counters : Counters) (code : Instruction) :
    (counters.record code).total = counters.total + 1 := by
  unfold record classify total
  split <;> dsimp only <;> omega

theorem executed_record (counters : Counters) (code : Instruction) :
    (counters.record code).executed = min (counters.executed + 1) ceiling := by
  unfold record classify
  split <;> rfl

theorem created_record (counters : Counters) (code : Instruction) :
    (counters.record code).created = counters.created + code.adds.toNat := by
  cases code with
  | call dst callee args => cases callee <;> rfl
  | _ => rfl

/-- The other counters stay as they are. -/
theorem record_eq (counters : Counters) (code : Instruction) :
    ∃ executed calls overloadedCalls returns created entered yielded jumps others,
      counters.record code = { counters with
        executed, calls, overloadedCalls, returns, created, entered, yielded, jumps, others } := by
  unfold record classify
  split <;> exact ⟨_, _, _, _, _, _, _, _, _, rfl⟩

end Counters

namespace Instruction

variable {code : Instruction}

theorem raises_of_special (special : code.adds = true ∨ code.builds = true) :
    code.raises = false := by
  cases code with
  | makeNode | createCoroutine | copyCoroutine => rfl
  | _ => exact absurd special (by simp [adds, builds])

theorem adds_of_raises (raises : code.raises = true) : code.adds = false := by
  cases adds : code.adds with
  | false => rfl
  | true => exact absurd (raises.symm.trans (raises_of_special (.inl adds))) nofun

theorem adds_of_builds (builds : code.builds = true) : code.adds = false := by
  cases code with
  | makeNode => rfl
  | _ => cases builds

end Instruction

/-! Candidates -/

theorem idxOf?_of_find? {α : Type} [DecidableEq α] {last : α → Bool} {items : List α} {item : α}
    (found : items.find? last = some item) :
    items.idxOf? item = some (items.takeWhile (!last ·)).length := by
  induction items with
  | nil => cases found
  | cons head rest ih =>
      cases ends : last head with
      | true =>
          rw [List.find?_cons_of_pos ends] at found
          cases found
          simp [List.idxOf?_cons, ends]
      | false =>
          have further : rest.find? last = some item := by
            rwa [List.find?_cons_of_neg (by simp [ends])] at found
          have differ : head ≠ item := by
            rintro rfl
            exact absurd (ends.symm.trans (List.find?_some further)) nofun
          simp [List.idxOf?_cons, ends, differ, ih further]

/-- What is counted at an overloaded call are the candidates that selection looks at. -/
theorem tried_select {program : Program} {set : CandidateSet} {values : List Value} :
    set.tried (program.select set values).toOption =
      (through (program.acceptedBy values) set.functions).length := by
  unfold Program.select through
  cases found : set.functions.find? (program.acceptedBy values) with
  | none =>
      have all : set.functions.takeWhile (!program.acceptedBy values ·) = set.functions := by
        rw [List.takeWhile_eq_self_iff]
        intro function member
        simpa using List.find?_eq_none.mp found function member
      simp [CandidateSet.tried, Except.toOption, all]
  | some function =>
      simp [CandidateSet.tried, Except.toOption, idxOf?_of_find? found]

/-- How many conditions have not been caught when an instruction ends so. -/
def Outcome.escaped : Outcome → Nat
  | .uncaught _ => 1
  | _ => 0

/-- How many conditions have not been caught in a machine with the status. -/
def Status.escaped : Status → Nat
  | .uncaught _ => 1
  | _ => 0

namespace Machine

variable {machine initial : Machine} {code : Instruction} {tally pending escaped : Nat}
  {program : Program} {args : List Value} {settings : Settings}

/-! Books -/

/-- The books of a machine that runs and counts, where so many coroutines are counted that are not
there yet, and so many conditions that nothing has caught. -/
structure Books (pending escaped : Nat) (machine : Machine) : Prop where
  running : machine.status = .running
  collecting : machine.collecting = true
  executed : machine.counters.executed = min machine.counters.total Counters.ceiling
  regions : machine.counters.regionsOpened =
    machine.counters.regionsCommitted + machine.counters.regionsRolledBack + machine.regions.size
  coroutines : machine.counters.created + 1 = machine.coroutines.size + pending
  conditions : machine.counters.raised = machine.counters.caught + escaped

theorem count_collecting {change : Counters → Counters} (collecting : machine.collecting = true) :
    machine.count change = { machine with counters := change machine.counters } :=
  if_pos collecting

theorem size_pop {region : Region} (top : machine.regions.top? = some region) :
    machine.regions.pop.size + 1 = machine.regions.size := by
  obtain ⟨below, stacked⟩ := List.head?_eq_some_iff.mp top
  rw [Stack.size_eq, Stack.size_eq, Stack.items_pop, stacked]
  rfl

theorem steady_books : Steady (Books pending escaped) fun _ => True where
  fault _ := trivial
  coroutine books id change := { books with
    coroutines := by simpa [updateCoroutine] using books.coroutines }
  current books _ := { books with }
  arena books _ := { books with }
  nextFrame books _ := { books with }
  logs books _ := { books with }
  opened {machine} books region nextSerial := by
    rw [count_collecting (by exact books.collecting)]
    refine { books with regions := ?_ }
    change machine.counters.regionsOpened + 1 = _ + (machine.regions.size + 1)
    rw [books.regions]
    rfl
  committed {machine} books region top := by
    rw [count_collecting (by exact books.collecting)]
    refine { books with regions := ?_ }
    change machine.counters.regionsOpened =
      machine.counters.regionsCommitted + 1 + machine.counters.regionsRolledBack +
        machine.regions.pop.size
    have popped := size_pop top
    have balance := books.regions
    omega
  undone {machine} books region top restored arena := by
    rw [count_collecting (by exact books.collecting)]
    refine { books with regions := ?_ }
    change machine.counters.regionsOpened =
      machine.counters.regionsCommitted + (machine.counters.regionsRolledBack + 1) +
        machine.regions.pop.size
    have popped := size_pop top
    have balance := books.regions
    omega
  popped _ := trivial

/-- What a machine counts when it fetches an instruction. -/
theorem books_fetched (code : Instruction) (books : machine.Books 0 0) :
    (machine.fetched code).Books code.adds.toNat 0 := by
  have counted : machine.fetched code = { machine.updateFrame machine.current
      (fun frame => { frame with pc := frame.pc + 1 }) with
        counters := (machine.counters.noteDepth machine.depth).record code } := by
    rw [fetched, count_collecting books.collecting]
    exact count_collecting books.collecting
  obtain ⟨_, _, _, _, _, _, _, _, _, recorded⟩ :=
    (machine.counters.noteDepth machine.depth).record_eq code
  have executed := books.executed
  have coroutines := books.coroutines
  rw [counted]
  exact {
    running := books.running
    collecting := books.collecting
    executed := by
      rw [Counters.executed_record, Counters.total_record]
      change min (machine.counters.executed + 1) _ = min (machine.counters.total + 1) _
      omega
    regions := by
      rw [recorded]
      exact books.regions
    coroutines := by
      rw [Counters.created_record]
      change machine.counters.created + code.adds.toNat + 1 =
        (machine.updateFrame machine.current _).coroutines.size + code.adds.toNat
      rw [updateFrame, updateCoroutine, Array.size_modify]
      omega
    conditions := by
      rw [recorded]
      exact books.conditions }

theorem carries_books (code : Instruction) :
    Carries code (Twin (Books code.adds.toNat 0)) (Twin (Books 0 code.raises.toNat))
      (fun outcome => Twin (Books 0 outcome.escaped)) (Twin fun _ => True) where
  first := steady_books.parallel
  second := steady_books.parallel
  proceeds plain _ _ twin := by
    rwa [plain.1] at twin
  ends plain _ _ _ twin := by
    rwa [plain.1] at twin
  created adds coroutine _ _ := .map (fun machine =>
      { machine with coroutines := machine.coroutines.push coroutine }) fun machine books => by
    rw [Instruction.raises_of_special (.inl adds)]
    rw [adds] at books
    refine { books with coroutines := ?_ }
    rw [Array.size_push]
    exact books.coroutines
  built builds nodes _ _ := .map ({ · with nodes }) fun machine books => by
    rw [Instruction.raises_of_special (.inr builds)]
    rw [Instruction.adds_of_builds builds] at books
    exact { books with }
  added special _ _ twin := by
    rwa [Instruction.raises_of_special special] at twin
  tried _ count _ _ := .map (·.count (.trying count)) fun machine books => by
    rw [count_collecting books.collecting]
    exact { books with }
  raised raises _ _ := .map (·.count .raising) fun machine books => by
    rw [raises, count_collecting books.collecting]
    rw [Instruction.adds_of_raises raises] at books
    exact { books with conditions := congrArg (· + 1) books.conditions }
  caught raises _ _ := .map (·.count .catching) fun machine books => by
    rw [raises] at books
    rw [count_collecting books.collecting]
    exact { books with conditions := books.conditions }
  uncaught raises condition _ _ twin := by
    rwa [raises] at twin

/-! Candidates tried -/

/-- The candidates that an instruction of the active frame looks at: at an overloaded call those up
to the first that accepts the arguments, or else all. -/
def tries (machine : Machine) : Instruction → List FunctionId
  | .call _ (.overloaded name) args =>
      let order : Option (List FunctionId) := do
        let frame ← machine.active?
        let values ← (frame.readAll args).toOption
        let set := (machine.arena.resolve frame.scope name).getD (.empty name)
        return through (machine.program.acceptedBy values) set.functions
      order.getD []
  | _ => []

/-- The candidates that the next instruction looks at. -/
def examined (machine : Machine) : List FunctionId :=
  (machine.instruction?.map machine.tries).getD []

/-- How many candidates so many steps look at. -/
def examinedIn : Nat → Machine → Nat
  | 0, _ => 0
  | fuel + 1, machine =>
      if machine.isRunning then machine.examined.length + examinedIn fuel machine.step else 0

/-- What counts something else does not count candidates. -/
theorem tried_count {change : Counters → Counters}
    (apart : ∀ counters, (change counters).candidatesTried = counters.candidatesTried)
    (same : machine.counters.candidatesTried = tally) :
    (machine.count change).counters.candidatesTried = tally := by
  unfold count
  split
  · exact (apart _).trans same
  · exact same

theorem tried_fetched :
    (machine.fetched code).counters.candidatesTried = machine.counters.candidatesTried := by
  refine tried_count (fun counters => ?_) (tried_count (fun _ => rfl) rfl)
  obtain ⟨_, _, _, _, _, _, _, _, _, recorded⟩ := counters.record_eq code
  rw [recorded]

theorem steady_tried : Steady (·.counters.candidatesTried = tally) fun _ => True where
  fault _ := trivial
  coroutine same _ _ := same
  current same _ := same
  arena same _ := same
  nextFrame same _ := same
  logs same _ := same
  opened same _ _ := tried_count (fun _ => rfl) same
  committed same _ _ := tried_count (fun _ => rfl) same
  undone same _ _ _ _ := tried_count (fun _ => rfl) same
  popped _ := trivial

theorem carries_tried (other : code.chooses = false) :
    Carries code (Twin (·.counters.candidatesTried = tally))
      (Twin (·.counters.candidatesTried = tally))
      (fun _ => Twin (·.counters.candidatesTried = tally)) (Twin fun _ => True) where
  first := steady_tried.parallel
  second := steady_tried.parallel
  proceeds _ _ _ twin := twin
  ends _ _ _ _ twin := twin
  created _ coroutine _ _ := .map (fun machine =>
    { machine with coroutines := machine.coroutines.push coroutine }) fun _ same => same
  built _ nodes _ _ := .map ({ · with nodes }) fun _ same => same
  added _ _ _ twin := twin
  tried chooses := absurd (chooses.symm.trans other) nofun
  raised _ _ _ := .map (·.count .raising) fun _ => tried_count fun _ => rfl
  caught _ _ _ := .map (·.count .catching) fun _ => tried_count fun _ => rfl
  uncaught _ _ _ _ twin := twin

theorem raise_leads_tried {cause : Cause} :
    (Action.raise cause).Leads machine
      (fun _ after => after.counters.candidatesTried = machine.counters.candidatesTried)
      fun _ _ => True :=
  (Action.raise_tandem steady_tried.parallel steady_tried.parallel
    (fun _ _ => .map (·.count .raising) fun _ => tried_count fun _ => rfl)
    (fun _ _ => .map (·.count .catching) fun _ => tried_count fun _ => rfl)
    fun _ _ _ twin => twin).leads rfl

theorem call_leads_tried {frame : Frame} {dst : Option Reg} {name : SymbolId} {args : List Reg}
    (collecting : machine.collecting = true) (active : machine.active? = some frame) :
    (Action.call dst (.overloaded name) args).Leads machine
      (fun _ after => after.counters.candidatesTried = machine.counters.candidatesTried +
        (machine.tries (.call dst (.overloaded name) args)).length)
      fun _ _ => True := by
  simp only [Action.call, Action.leads_bind, Action.leads_frame_active active,
    Action.leads_ofExcept, Action.leads_get]
  refine ⟨fun values passed => ?_, fun _ _ => trivial⟩
  have tries : machine.tries (.call dst (.overloaded name) args) =
      through (machine.program.acceptedBy values)
        ((machine.arena.resolve frame.scope name).getD (.empty name)).functions := by
    simp [Machine.tries, active, passed, Except.toOption]
  have counted (set : CandidateSet) (chosen : Option FunctionId) :
      (machine.count (.trying (set.tried chosen))).counters.candidatesTried =
        machine.counters.candidatesTried + set.tried chosen := by
    rw [count_collecting collecting]
    rfl
  rw [tries, ← tried_select]
  split
  · next function selected =>
      simp only [Action.leads_bind, Action.countTried, Action.leads_count, selected]
      rw [Except.toOption, ← counted]
      exact ((Action.keeps_pushCall steady_tried.parallel).leads rfl).mono (fun _ _ same => same)
        fun _ _ _ => trivial
  · next cause refused =>
      simp only [Action.leads_bind, Action.countTried, Action.leads_count, refused]
      rw [Except.toOption, ← counted]
      exact raise_leads_tried

/-- An instruction counts the candidates that it looks at. -/
theorem execute_leads_tried {frame : Frame} (code : Instruction)
    (collecting : machine.collecting = true) (active : machine.active? = some frame) :
    (Action.execute code).Leads machine
      (fun _ after => after.counters.candidatesTried =
        machine.counters.candidatesTried + (machine.tries code).length)
      fun _ _ => True := by
  cases chooses : code.chooses with
  | false =>
      have none : machine.tries code = [] := by
        unfold tries
        split
        · cases chooses
        · rfl
      rw [none]
      exact (Action.execute_tandem (carries_tried chooses)).leads rfl
  | true =>
      cases code with
      | call dst callee args =>
          cases callee with
          | direct => cases chooses
          | overloaded name => exact call_leads_tried collecting active
      | _ => cases chooses

theorem tries_fetched {frame : Frame} (active : machine.active? = some frame) :
    (machine.fetched code).tries code = machine.tries code := by
  cases code with
  | call dst callee args =>
      cases callee with
      | direct => rfl
      | overloaded name =>
          have same : { frame with pc := frame.pc + 1 }.readAll args = frame.readAll args := rfl
          simp only [tries, active?_fetched active, active, program_fetched, arena_fetched,
            Option.bind_eq_bind, Option.bind_some, same]
  | _ => rfl

/-! Steps and runs -/

/-- The machine when an instruction has ended so. -/
def settled (machine : Machine) : Outcome → Machine
  | .proceed => machine
  | .done value => { machine with status := .done value }
  | .uncaught condition => { machine with status := .uncaught condition }

/-- A step that does not fault ends as its instruction does. -/
theorem step_settled {good : Outcome → Machine → Prop}
    (spared : ∀ fault, machine.step.status ≠ .trapped fault)
    (leads : ∀ code, machine.instruction? = some code →
      (Action.execute code).Leads (machine.fetched code) good fun _ _ => True) :
    ∃ outcome after, good outcome after ∧ machine.step = after.settled outcome := by
  have cycle : Action.cycle.Leads machine good fun _ _ => True :=
    leads_cycle leads fun _ _ _ _ => trivial
  unfold Action.Leads at cycle
  unfold step at spared ⊢
  split at cycle
  · next outcome after ended =>
      rw [ended]
      refine ⟨outcome, after, cycle, ?_⟩
      cases outcome <;> rfl
  · next fault after faulted =>
      rw [faulted] at spared
      exact absurd rfl (spared fault)

/-- The balances of a machine that has counted from the start. -/
structure Balanced (tried : Nat) (machine : Machine) : Prop where
  collecting : machine.collecting = true
  /-- Every instruction is in one class. The sum stops at the largest count that is kept. -/
  executed : machine.counters.executed = min machine.counters.total Counters.ceiling
  regions : machine.counters.regionsOpened = machine.counters.regionsCommitted +
    machine.counters.regionsRolledBack + machine.openRegions
  conditions : machine.counters.raised = machine.counters.caught + machine.status.escaped
  /-- The root was not created. -/
  coroutines : machine.counters.created + 1 = machine.coroutines.size
  tried : machine.counters.candidatesTried = tried

theorem Balanced.books (balanced : machine.Balanced tally) (running : machine.status = .running) :
    machine.Books 0 0 where
  running := running
  collecting := balanced.collecting
  executed := balanced.executed
  regions := balanced.regions
  coroutines := balanced.coroutines
  conditions := by
    rw [balanced.conditions, running]
    rfl

theorem Books.settled {outcome : Outcome} (books : machine.Books 0 outcome.escaped)
    (tried : machine.counters.candidatesTried = tally) :
    (machine.settled outcome).Balanced tally := by
  cases outcome with
  | proceed =>
      refine { books with conditions := ?_, tried }
      change machine.counters.raised = machine.counters.caught + machine.status.escaped
      rw [books.running]
      exact books.conditions
  | done | uncaught => exact { books with conditions := books.conditions, tried }

theorem Balanced.step (balanced : machine.Balanced tally) (running : machine.isRunning = true)
    (spared : ∀ fault, machine.step.status ≠ .trapped fault) :
    machine.step.Balanced (tally + machine.examined.length) := by
  have books := balanced.books (of_decide_eq_true running)
  have leads (code : Instruction) (next : machine.instruction? = some code) :
      (Action.execute code).Leads (machine.fetched code)
        (fun outcome after => after.Books 0 outcome.escaped ∧
          after.counters.candidatesTried = tally + machine.examined.length) fun _ _ => True := by
    obtain ⟨frame, -, active, -⟩ := instruction?_eq_some_iff.mp next
    have active' : (machine.fetched code).active? = _ := active?_fetched active
    have fetched := books_fetched code books
    have counted := execute_leads_tried code fetched.collecting active'
    have examined : machine.examined = machine.tries code := by simp [examined, next]
    rw [tries_fetched active, tried_fetched, balanced.tried, ← examined] at counted
    have kept := (Action.execute_tandem (carries_books code)).leads fetched
    exact (Action.leads_and.mpr ⟨kept, counted⟩).mono (fun _ _ both => both) fun _ _ _ => trivial
  obtain ⟨outcome, after, ⟨kept, counted⟩, same⟩ := step_settled spared leads
  rw [same]
  exact kept.settled counted

theorem Balanced.run (balanced : machine.Balanced tally) (fuel : Nat)
    (spared : ∀ fault, (machine.run fuel).status ≠ .trapped fault) :
    (machine.run fuel).Balanced (tally + machine.examinedIn fuel) := by
  induction fuel generalizing machine tally with
  | zero => exact balanced
  | succ fuel ih =>
      rw [Machine.run] at spared ⊢
      rw [examinedIn]
      split
      · next running =>
          rw [if_pos running] at spared
          have stepped := balanced.step running fun fault trapped => ?_
          · rw [← Nat.add_assoc]
            exact ih stepped spared
          · have idle : machine.step.isRunning = false := by
              simp [isRunning, trapped]
            rw [run_idle idle] at spared
            exact spared fault trapped
      · exact balanced

theorem start_balanced (started : start program args settings = .ok initial)
    (collects : settings.collectCounters = true) : initial.Balanced 0 := by
  obtain ⟨_, _, -, -, -, -, rfl⟩ := start_eq started
  exact {
    collecting := collects
    executed := rfl
    regions := rfl
    conditions := rfl
    coroutines := rfl
    tried := rfl }

/-- As long as a machine that counts from the start does not fault, its counters balance. -/
theorem run_balanced (started : start program args settings = .ok initial)
    (collects : settings.collectCounters = true) (fuel : Nat)
    (spared : ∀ fault, (initial.run fuel).status ≠ .trapped fault) :
    (initial.run fuel).Balanced (initial.examinedIn fuel) ∧
      ((initial.run fuel).counters.total < UInt64.size →
        (initial.run fuel).counters.executed = (initial.run fuel).counters.total) := by
  have balanced := (start_balanced started collects).run fuel spared
  rw [Nat.zero_add] at balanced
  refine ⟨balanced, fun below => ?_⟩
  rw [balanced.executed, Counters.ceiling]
  omega

/-- Declares a function for strings twice before one for integers, and calls the name with an
integer. Then it commits a region and rolls one back, and catches a condition that a coroutine
raises with a region open. At last it calls the name with nothing, in another region. -/
def balancingProgram : Program :=
  { Program.empty with
    functions := #[
      { name := "main", registerCount := 3, parameterCount := 0, parameters := []
        code := #[.declareFunction ⟨0⟩ ⟨2⟩, .declareFunction ⟨0⟩ ⟨1⟩, .declareFunction ⟨0⟩ ⟨1⟩,
          .const 0 (.int 1), .call (some 1) (.overloaded ⟨0⟩) [0], .openRegion, .openRegion,
          .commitRegion, .rollbackRegion, .createCoroutine 2 ⟨3⟩ [], .pushCatch 12 none,
          .enterCoroutine none 2 none, .openRegion, .call none (.overloaded ⟨0⟩) [], .return 1] },
      { name := "text", registerCount := 1, parameterCount := 1, parameters := [.str]
        code := #[.return 0] },
      { name := "number", registerCount := 1, parameterCount := 1, parameters := [.int]
        code := #[.return 0] },
      { name := "fruitless", registerCount := 0, parameterCount := 0, parameters := []
        code := #[.openRegion, .noSolution] }]
    functionIndex := .ofList [("main", FunctionId.mk 0), ("text", FunctionId.mk 1),
      ("number", FunctionId.mk 2), ("fruitless", FunctionId.mk 3)]
    symbols := #["show"]
    symbolIndex := .ofList [("show", SymbolId.mk 0)] }

theorem run_balanced_balancing :
    ∃ initial, start balancingProgram [] { Settings.standard with collectCounters := true } =
        .ok initial ∧
      (initial.run 16).status = .running ∧ (initial.run 16).openRegions = 1 ∧
      (initial.run 16).Balanced 3 ∧
      (initial.run 17).status = .uncaught ⟨.unresolvedCall "show" 0, [⟨"main", 13⟩]⟩ ∧
      (initial.run 17).Balanced 6 ∧ (initial.run 17).counters.executed = 17 ∧
      (initial.run 17).counters.total = 17 := by
  have runs :
      (match start balancingProgram [] { Settings.standard with collectCounters := true } with
      | .ok initial => decide (
          (initial.run 16).status = .running ∧ (initial.run 16).openRegions = 1 ∧
          initial.examinedIn 16 = 3 ∧
          (initial.run 17).status = .uncaught ⟨.unresolvedCall "show" 0, [⟨"main", 13⟩]⟩ ∧
          initial.examinedIn 17 = 6 ∧ (initial.run 17).counters.total = 17)
      | .error _ => false) = true := by decide +kernel
  split at runs
  · next initial started =>
      obtain ⟨goesOn, opened, tried, uncaught, tried', total⟩ := of_decide_eq_true runs
      have before := run_balanced started rfl 16 fun fault trapped => by
        cases goesOn.symm.trans trapped
      have after := run_balanced started rfl 17 fun fault trapped => by
        cases uncaught.symm.trans trapped
      rw [tried] at before
      rw [tried', total] at after
      exact ⟨initial, started, goesOn, opened, before.1, uncaught, after.1, after.2 (by decide),
        total⟩
  · cases runs

end Machine

end Backtrack
