import Backtrack.Proofs.Waiting
import Backtrack.Proofs.WellFormed
import Mathlib.Data.List.Chain

/-!
The trace of a condition. It has one entry for every activation of the coroutines from the current
one to the root. The first names the instruction that raises the condition, and every other one
names the instruction for which its activation waits: a call, or the entering of the coroutine that
the activation before it belongs to. The condition that is caught or leaves the machine carries this
trace, whatever it crosses on its way.
-/

namespace Backtrack

/-- The instruction that an entry of a trace names. -/
def Program.at? (program : Program) (entry : TraceEntry) : Option Instruction := do
  let id ← program.functionIndex[entry.function]?
  (← program.function? id).code[entry.pc]?

/-- In a checked program, the function index is the function table read backwards. -/
theorem Program.functionIndex_exact {program : Program} (checked : program.check = .ok ()) :
    Indexed FunctionId.index program.functionIndex (program.functions.toList.map CodeUnit.name) := by
  have clean := check_eq_ok_iff.mp checked
  simp only [defects, List.append_eq_nil_iff,
    nameDefects_eq_nil FunctionId.index_bijective] at clean
  exact clean.1.1.1.1.2

namespace Machine

variable {program : Program} {machine before middle : Machine} {code : Instruction}
  {condition : Condition} {closed : List Region}

/-- The activations of a coroutine, the active one first. -/
def stacked (machine : Machine) (id : CoroutineId) : List (CoroutineId × Frame) :=
  match machine.coroutine? id with
  | some coroutine => coroutine.frames.items.map fun frame => (id, frame)
  | none => []

/-- The activations of the current coroutine, then of the one that waits for it, and so on. -/
def activations (machine : Machine) : List (CoroutineId × Frame) :=
  machine.awake.flatMap machine.stacked

/-- What the outer of two neighbouring activations waits for. -/
def WaitsFor (machine : Machine) (inner outer : CoroutineId × Frame) : Prop :=
  if outer.1 = inner.1 then
    ∃ dst callee args,
      machine.program.at? (machine.traceEntry outer.2) = some (.call dst callee args)
  else
    ∃ dst target out,
      machine.program.at? (machine.traceEntry outer.2) = some (.enterCoroutine dst target out)

/-- What the trace of a condition says that an instruction raises. -/
structure ExactTrace (machine : Machine) (code : Instruction) (trace : List TraceEntry) : Prop where
  chain : Trail machine.waiter? machine.current machine.awake
  rooted : machine.awake.getLast? = some .root
  entries : trace = machine.activations.map fun activation => machine.traceEntry activation.2
  raising : code.raises = true
  raised : ∃ entry rest, trace = entry :: rest ∧ machine.program.at? entry = some code
  waits : machine.activations.IsChain machine.WaitsFor

/-- Where a condition gets to: the handler that catches it is given the condition itself, after the
coroutines on the way were given up, or it leaves the machine. -/
inductive Carries (machine : Machine) (condition : Condition) :
    EStateM.Result Fault Machine Outcome → Prop
  | caught {id : CoroutineId} {coroutine : Coroutine} {handler : Handler} {outer : List Handler}
      {owner : Frame} {middle : Machine} (catches : machine.Catches id coroutine handler outer owner)
      (current : middle.current = id)
      (popped : middle.coroutine? id = some { coroutine with handlers := outer })
      (gone : ∀ other ∈ machine.dropped, middle.coroutine? other = some .dead)
      (kept : ∀ other, other ∉ machine.dropped → other ≠ id →
        middle.coroutine? other = machine.coroutine? other) :
      Carries machine condition (Action.catchCondition handler condition middle)
  | escaped {after : Machine} (uncaught : machine.catcher? = none) :
      Carries machine condition (.ok (.uncaught condition) after)

/-! ### The activations -/

theorem snd_stacked {id : CoroutineId} {coroutine : Coroutine}
    (found : machine.coroutine? id = some coroutine) :
    (machine.stacked id).map Prod.snd = coroutine.frames.items := by
  simp [stacked, found, Function.comp_def]

/-- The frames that a link hands back to. -/
def framesAt (machine : Machine) (link : CallerLink) : Option (List Frame) :=
  (machine.coroutine? link.coroutine).map fun coroutine =>
    (coroutine.frames.below (link.depth + 1)).items

/-- Following links one by one gives the frames of the coroutines behind the first. -/
theorem frames_behind {id : CoroutineId} {path : List CoroutineId} {steps : Nat}
    (linked : Linked machine.coroutine? machine.current) (trail : Trail machine.waiter? id path)
    (enough : path.length ≤ steps + 1) :
    (((machine.caller? id).map
        (chain (fun link => machine.caller? link.coroutine) steps)).getD []).filterMap
      machine.framesAt = path.tail.map fun id => (machine.stacked id).map Prod.snd := by
  induction trail generalizing steps with
  | last ends =>
      rw [waiter?, Option.map_eq_none_iff] at ends
      rw [ends]
      rfl
  | @more id following rest leads onward ih =>
      obtain ⟨link, waits, rfl⟩ := Option.map_eq_some_iff.mp leads
      obtain ⟨coroutine, found, waiting⟩ := Option.bind_eq_some_iff.mp waits
      obtain ⟨waiter, found', deep⟩ := linked.waits found waiting
      obtain ⟨further, rfl⟩ := List.head?_eq_some_iff.mp onward.head?
      obtain ⟨fewer, rfl⟩ : ∃ fewer, steps = fewer + 1 := by
        refine ⟨steps - 1, ?_⟩
        simp only [List.length_cons] at enough
        omega
      have frames : machine.framesAt link = some ((machine.stacked link.coroutine).map Prod.snd) := by
        have whole : waiter.frames.size = link.depth + 1 := deep
        simp [framesAt, snd_stacked found', found', Stack.below, whole]
      have behind := ih (Nat.le_of_succ_le_succ enough)
      rw [waits, Option.map_some, Option.getD_some, chain_succ, List.filterMap_cons_some frames,
        List.tail_cons, List.map_cons]
      congr 1
      rw [List.tail_cons] at behind
      rw [← behind]
      cases machine.caller? link.coroutine <;> rfl

theorem trace_eq (linked : Linked machine.coroutine? machine.current) :
    machine.trace = machine.activations.map fun activation => machine.traceEntry activation.2 := by
  obtain ⟨trail, -, -⟩ := awake_trail linked
  have short : machine.awake.length ≤ machine.coroutines.size + 1 :=
    Nat.le_succ_of_le chain_length_le
  have behind := frames_behind linked trail short
  obtain ⟨rest, path⟩ := List.head?_eq_some_iff.mp trail.head?
  obtain ⟨coroutine, found, -⟩ := linked.current_running
  have links : machine.callers = ((machine.caller? machine.current).map
      (chain (fun link => machine.caller? link.coroutine) machine.coroutines.size)).getD [] := by
    rw [callers]
    cases machine.caller? machine.current <;> rfl
  have frames : machine.activations.map Prod.snd =
      coroutine.frames.items ++ (machine.callers.filterMap machine.framesAt).flatten := by
    rw [links, behind, activations, path, List.flatMap_cons, List.map_append,
      snd_stacked found, List.map_flatMap, List.flatMap_def, List.tail_cons]
  have traced : machine.trace = (coroutine.frames.items ++
      (machine.callers.filterMap machine.framesAt).flatten).map machine.traceEntry := by
    rw [trace, found]
    rfl
  rw [traced, ← frames, List.map_map]
  rfl

/-! ### What the entries name -/

/-- The entry of a frame names the instruction that the frame has passed. -/
theorem at?_traceEntry {frame : Frame} (checked : machine.program.check = .ok ())
    (passed : frame.passed? machine.program = some code) :
    machine.program.at? (machine.traceEntry frame) = some code := by
  unfold Frame.passed? at passed
  split at passed
  · cases passed
  · next pc here =>
      obtain ⟨unit, found, fetches⟩ := Option.bind_eq_some_iff.mp passed
      have named : machine.program.functionIndex[unit.name]? = some frame.function := by
        rw [(Program.functionIndex_exact checked).exact, List.getElem?_map, Array.getElem?_toList]
        exact congrArg (Option.map CodeUnit.name) found
      have entry : machine.traceEntry frame = ⟨unit.name, pc⟩ := by
        simp [traceEntry, Program.functionName, found, here]
      simp only [entry, Program.at?, named, Option.bind_eq_bind, Option.bind_some, found]
      exact fetches

/-- A relation between neighbours that follows from what holds of the later one. -/
theorem isChain_of_tail {α : Type} {items : List α} {differ relates : α → α → Prop}
    (apart : items.Pairwise differ)
    (each : ∀ earlier, ∀ later ∈ items.tail, differ earlier later → relates earlier later) :
    items.IsChain relates := by
  induction items with
  | nil => exact .nil
  | cons first rest ih =>
      obtain ⟨before, apart'⟩ := List.pairwise_cons.mp apart
      cases rest with
      | nil => exact .singleton _
      | cons second rest =>
          apply List.isChain_cons_cons.mpr
          constructor
          · exact each first second List.mem_cons_self (before second List.mem_cons_self)
          · exact ih apart' fun earlier later member =>
              each earlier later (List.mem_cons_of_mem _ member)

theorem stacked_eq {id : CoroutineId} {coroutine : Coroutine}
    (found : machine.coroutine? id = some coroutine) :
    machine.stacked id = coroutine.frames.items.map fun frame => (id, frame) := by
  rw [stacked, found]

/-- Within a coroutine, every activation but the active one waits for a call. -/
theorem stacked_awaits {id : CoroutineId} {coroutine : Coroutine}
    (checked : machine.program.check = .ok ())
    (waiting : Waiting machine.program machine.coroutine? machine.current)
    (found : machine.coroutine? id = some coroutine) :
    (machine.stacked id).IsChain machine.WaitsFor := by
  rw [stacked_eq found, List.isChain_map]
  have apart : coroutine.frames.items.Pairwise fun _ _ => True :=
    List.pairwise_of_forall fun _ _ => trivial
  apply isChain_of_tail apart
  intro inner outer under _
  obtain ⟨dst, callee, args, passed⟩ := waiting.below found under
  rw [WaitsFor, if_pos rfl]
  exact ⟨dst, callee, args, at?_traceEntry checked passed⟩

/-- Between two coroutines, the activation that waits has entered the inner one. -/
theorem activations_awaits (checked : machine.program.check = .ok ())
    (linked : Linked machine.coroutine? machine.current)
    (waiting : Waiting machine.program machine.coroutine? machine.current) :
    machine.activations.IsChain machine.WaitsFor := by
  obtain ⟨trail, -, running⟩ := awake_trail linked
  have filled : [] ∉ machine.awake.map machine.stacked := by
    intro empty
    obtain ⟨id, passed, none⟩ := List.mem_map.mp empty
    obtain ⟨coroutine, found, runs⟩ := (running id).mp passed
    have deep := (Coroutine.state_eq_running_iff.mp runs).2.1
    rw [stacked_eq found, List.map_eq_nil_iff] at none
    rw [Coroutine.depth, Stack.size_eq, none] at deep
    exact Nat.lt_irrefl 0 deep
  rw [activations, List.flatMap_def, List.isChain_flatten filled, List.isChain_map]
  constructor
  · intro own member
    obtain ⟨id, passed, rfl⟩ := List.mem_map.mp member
    obtain ⟨coroutine, found, -⟩ := (running id).mp passed
    exact stacked_awaits checked waiting found
  · apply isChain_of_tail trail.nodup
    intro id id' behind differ inner last outer first
    obtain ⟨coroutine', found', runs⟩ := (running id').mp (List.mem_of_mem_tail behind)
    obtain ⟨rest, path⟩ := List.head?_eq_some_iff.mp trail.head?
    have away : id' ≠ machine.current := by
      intro same
      have distinct := trail.nodup
      rw [path] at distinct behind
      rw [List.tail_cons, same] at behind
      exact (List.nodup_cons.mp distinct).1 behind
    rw [stacked_eq found', List.head?_map] at first
    obtain ⟨frame, active, rfl⟩ := Option.map_eq_some_iff.mp first
    have named : inner.1 = id := by
      have member := List.mem_of_getLast? last
      unfold stacked at member
      split at member
      · obtain ⟨_, _, rfl⟩ := List.mem_map.mp member
        rfl
      · cases member
    obtain ⟨dst, target, out, passed⟩ := waiting.aside found' runs away active
    rw [WaitsFor, if_neg (named ▸ differ.symm)]
    exact ⟨dst, target, out, at?_traceEntry checked passed⟩

/-! ### Where a condition gets to -/

theorem Carries.counted {counters : Counters} {result : EStateM.Result Fault Machine Outcome}
    (carries : { machine with counters }.Carries condition result) :
    machine.Carries condition result := by
  cases carries with
  | caught catches current popped gone kept =>
      exact .caught catches.counted current popped gone kept
  | escaped uncaught => exact .escaped uncaught

/-- What is carried on from the caller of a coroutine that is given up was carried to it. -/
theorem Abandons.carries {result : EStateM.Result Fault Machine Outcome}
    (abandons : before.Abandons middle closed) (carries : middle.Carries condition result) :
    before.Carries condition result := by
  cases carries with
  | escaped uncaught => exact .escaped (abandons.catcher?.trans uncaught)
  | @caught id coroutine handler outer owner later catches current popped gone kept =>
      have passed := List.mem_of_find?_eq_some catches.first
      have differ : before.current ≠ id := fun same => abandons.away (same ▸ passed)
      have stays : before.current ∉ middle.dropped := fun left =>
        abandons.away ((List.takeWhile_sublist _).subset left)
      refine .caught (abandons.catches catches) current popped ?_ ?_
      · intro other left
        rw [abandons.dropped] at left
        rcases List.mem_cons.mp left with same | further
        · rw [same, kept _ stays differ, abandons.coroutines, replace_same]
        · exact gone other further
      · intro other left apart
        rw [abandons.dropped, List.mem_cons, not_or] at left
        rw [kept other left.2 apart, abandons.coroutines, replace_other left.1]

end Machine

namespace Action

open Machine

variable {machine : Machine} {condition : Condition}

/-- An action leads to its own result. -/
theorem leads_result {α : Type} {action : Action α} {holds : EStateM.Result Fault Machine α → Prop} :
    action.Leads machine (fun result after => holds (.ok result after))
      (fun fault after => holds (.error fault after)) ↔ holds (action machine) := by
  unfold Leads
  cases action machine <;> rfl

theorem unwind_carries {steps : Nat} (sound : machine.Sound)
    (enough : machine.awake.length ≤ steps) :
    (unwind condition steps).Leads machine
      (fun outcome after => machine.Carries condition (.ok outcome after))
      fun fault after => machine.Carries condition (.error fault after) := by
  induction steps generalizing machine with
  | zero =>
      have passed := sound.awake_rooted
      rw [List.length_eq_zero_iff.mp (Nat.le_zero.mp enough)] at passed
      cases passed
  | succ steps ih =>
      obtain ⟨coroutine, found, -⟩ := sound.linked.current_running
      simp only [unwind, leads_bind, leads_get, leads_coroutine]
      refine ⟨fun same found' => ?_, fun missing => absurd (found.symm.trans missing) (by simp)⟩
      cases Option.some.inj (found.symm.trans found')
      split
      · next handler outer installed =>
          have within := (sound.linked.sound found).owned (installed ▸ List.mem_cons_self)
          obtain ⟨owner, owned⟩ := Option.isSome_iff_exists.mp (Stack.at?_isSome.mpr within)
          obtain ⟨catches, first⟩ := sound.catches found installed owned
          have popped : (machine.updateCoroutine machine.current
              ({ · with handlers := outer })).coroutine? =
                replace machine.coroutine? machine.current { coroutine with handlers := outer } :=
            coroutine?_replace found
          simp only [leads_bind, leads_updateCoroutine]
          rw [leads_result]
          refine .caught catches rfl (by rw [popped, replace_same]) ?_ ?_
          · intro other left
            rw [first] at left
            cases left
          · intro other _ apart
            rw [popped, replace_other apart]
      · next bare =>
          have uncovered : machine.bare machine.current = true := by
            rw [Machine.bare, found, Option.all_some, bare]
            rfl
          split
          · next outermost =>
              simp only [leads_bind, leads_pure]
              apply leads_rollbackWhile sound.enabled
              intro counters
              exact .escaped (sound.outermost outermost uncovered).2
          · next inner =>
              simp only [leads_bind]
              apply abandon_leads sound found bare inner
              intro middle closed abandons sound'
              have shorter : middle.awake.length ≤ steps := by
                rw [abandons.awake, List.length_cons] at enough
                exact Nat.le_of_succ_le_succ enough
              exact (ih sound' shorter).mono (fun _ _ carries => abandons.carries carries)
                fun _ _ carries => abandons.carries carries

theorem raise_carries {cause : Cause} (sound : machine.Sound) :
    (raise cause).Leads machine
      (fun outcome after => machine.Carries ⟨cause, machine.trace⟩ (.ok outcome after))
      fun fault after => machine.Carries ⟨cause, machine.trace⟩ (.error fault after) := by
  simp only [raise, leads_bind, leads_get, leads_count]
  obtain ⟨counters, counted⟩ := machine.count_eq fun counters =>
    { counters with raised := counters.raised + 1 }
  rw [counted]
  have sound' : { machine with counters }.Sound :=
    ⟨sound.enabled, sound.linked, sound.layered, sound.housed⟩
  exact (unwind_carries sound' chain_length_le).mono (fun _ _ carries => carries.counted)
    fun _ _ carries => carries.counted

/-- Whatever instruction raises a condition, the condition has the trace of the machine. -/
theorem execute_carries {code : Instruction} {cause : Cause} (sound : machine.Sound)
    (raises : machine.raised? code = some cause) :
    machine.Carries ⟨cause, machine.trace⟩ (execute code machine) := by
  obtain ⟨counters, same⟩ := execute_raise_eq raises
  have sound' : { machine with counters }.Sound :=
    ⟨sound.enabled, sound.linked, sound.layered, sound.housed⟩
  rw [same]
  exact (leads_result.mp (raise_carries sound')).counted

end Action

namespace Machine

variable {program : Program} {machine : Machine} {code : Instruction} {cause : Cause}

theorem raises_of_raised? (raises : machine.raised? code = some cause) : code.raises = true := by
  unfold raised? at raises
  split at raises
  · rfl
  · rfl
  · rfl
  · rfl
  · cases raises

theorem exactTrace_of_waiting (checked : machine.program.check = .ok ()) (sound : machine.Sound)
    (waiting : Waiting machine.program machine.coroutine? machine.current) {frame : Frame}
    (active : machine.active? = some frame) (passed : frame.passed? machine.program = some code)
    (raises : machine.raised? code = some cause) : machine.ExactTrace code machine.trace := by
  obtain ⟨trail, rooted, -⟩ := awake_trail sound.linked
  obtain ⟨coroutine, found, top⟩ := Option.bind_eq_some_iff.mp active
  obtain ⟨below, stacked⟩ := List.head?_eq_some_iff.mp top
  obtain ⟨rest, path⟩ := List.head?_eq_some_iff.mp trail.head?
  have entries := trace_eq sound.linked
  refine ⟨trail, rooted, entries, raises_of_raised? raises, ?_,
    activations_awaits checked sound.linked waiting⟩
  have first : machine.activations = (machine.current, frame) ::
      (below.map (fun frame => (machine.current, frame)) ++ rest.flatMap machine.stacked) := by
    rw [activations, path, List.flatMap_cons, stacked_eq found, stacked, List.map_cons,
      List.cons_append]
  rw [entries, first, List.map_cons]
  exact ⟨_, _, rfl, at?_traceEntry checked passed⟩

/-- The trace of a condition is exact, and the condition carries it to where it ends. -/
theorem Reachable.trace_exact {args : List Value} {settings : Settings}
    (checked : program.check = .ok ()) (reachable : Reachable program args settings machine)
    (running : machine.isRunning = true) (next : machine.instruction? = some code)
    (raises : (machine.fetched code).raised? code = some cause) :
    (machine.fetched code).ExactTrace code (machine.fetched code).trace ∧
      (machine.fetched code).Carries ⟨cause, (machine.fetched code).trace⟩
        (Action.execute code (machine.fetched code)) ∧
      ((machine.fetched code).catcher? = none →
        machine.step.status = .uncaught ⟨cause, (machine.fetched code).trace⟩) := by
  have sound := reachable.sound running
  have waiting := reachable.waiting running
  have same := reachable.program_eq running
  obtain ⟨frame, active, passed⟩ := passed?_fetched next
  have waiting' : Waiting (machine.fetched code).program (machine.fetched code).coroutine?
      (machine.fetched code).current := by
    rw [program_fetched, same]
    exact waiting_fetched sound.linked waiting
  have carries := Action.execute_carries sound.fetched raises
  refine ⟨?_, carries, fun uncaught => ?_⟩
  · rw [← @program_fetched machine code] at passed
    exact exactTrace_of_waiting (by rw [program_fetched, same, checked]) sound.fetched waiting' active
      passed raises
  · unfold step
    rw [cycle_eq next]
    generalize Action.execute code (machine.fetched code) = result at carries
    cases carries with
    | caught catches => exact absurd (uncaught.symm.trans catches.first) nofun
    | escaped => rfl

/-- A coroutine calls a function that throws, and nothing catches it. -/
def escapingProgram : Program :=
  { Program.empty with
    functions := #[
      { name := "main", registerCount := 1, parameterCount := 0, parameters := []
        code := #[.createCoroutine 0 ⟨1⟩ [], .enterCoroutine none 0 none, .return 0] },
      { name := "inner", registerCount := 1, parameterCount := 0, parameters := []
        code := #[.call (some 0) (.direct ⟨2⟩) [], .return 0] },
      { name := "deep", registerCount := 1, parameterCount := 0, parameters := []
        code := #[.const 0 (.bool true), .throw 0] }]
    functionIndex := .ofList
      [("main", FunctionId.mk 0), ("inner", FunctionId.mk 1), ("deep", FunctionId.mk 2)] }

theorem trace_exact_escaping :
    ∃ initial, start escapingProgram [] .standard = .ok initial ∧
      (initial.run 4).instruction? = some (.throw 0) ∧
      (initial.run 5).status = .uncaught
        ⟨.thrown (.bool true), [⟨"deep", 1⟩, ⟨"inner", 0⟩, ⟨"main", 1⟩]⟩ ∧
      ((initial.run 4).fetched (.throw 0)).ExactTrace (.throw 0)
        ((initial.run 4).fetched (.throw 0)).trace := by
  have runs : (match start escapingProgram [] .standard with
      | .ok initial => decide ((initial.run 4).isRunning = true ∧
          (initial.run 4).instruction? = some (.throw 0) ∧
          ((initial.run 4).fetched (.throw 0)).raised? (.throw 0) = some (.thrown (.bool true)) ∧
          (initial.run 5).status = .uncaught
            ⟨.thrown (.bool true), [⟨"deep", 1⟩, ⟨"inner", 0⟩, ⟨"main", 1⟩]⟩)
      | .error _ => false) = true := by decide +kernel
  split at runs
  · next initial started =>
      obtain ⟨running, next, raises, uncaught⟩ := of_decide_eq_true runs
      have checked : escapingProgram.check = .ok () := by decide +kernel
      exact ⟨initial, started, next, uncaught,
        (Reachable.trace_exact checked ⟨initial, started, reaches_run 4⟩ running next raises).1⟩
  · cases runs

end Machine

end Backtrack
