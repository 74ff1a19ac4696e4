import Backtrack.Proofs.Calling

/-!
How frames come to wait. A frame below the active one of its coroutine was left by a call, and the
active frame of a coroutine that waits for another was left by the instruction that entered it. The
position of such a frame is right behind the instruction that left it, since nothing moves a frame
that is not active.
-/

namespace Backtrack

namespace Frame

variable {program : Program} {frame : Frame}

/-- The instruction right before the position of a frame. -/
def passed? (program : Program) (frame : Frame) : Option Instruction :=
  match frame.pc with
  | 0 => none
  | pc + 1 => do (← program.function? frame.function).code[pc]?

def Called (program : Program) (frame : Frame) : Prop :=
  ∃ dst callee args, frame.passed? program = some (.call dst callee args)

def Entered (program : Program) (frame : Frame) : Prop :=
  ∃ dst target out, frame.passed? program = some (.enterCoroutine dst target out)

end Frame

/-- Every frame that waits was left by the instruction that made it wait. -/
structure Waiting (program : Program) (find : CoroutineId → Option Coroutine)
    (current : CoroutineId) : Prop where
  below {id : CoroutineId} {coroutine : Coroutine} {frame : Frame}
    (found : find id = some coroutine) (under : frame ∈ coroutine.frames.items.tail) :
    frame.Called program
  aside {id : CoroutineId} {coroutine : Coroutine} {frame : Frame}
    (found : find id = some coroutine) (running : coroutine.state = .running) (away : id ≠ current)
    (active : coroutine.active? = some frame) : frame.Entered program

namespace Waiting

variable {program : Program} {find : CoroutineId → Option Coroutine}
  {current id next : CoroutineId} {coroutine changed : Coroutine}

/-- The current coroutine changes. -/
theorem updated (waiting : Waiting program find current)
    (under : ∀ frame ∈ changed.frames.items.tail, frame.Called program) :
    Waiting program (replace find current changed) current where
  below {id coroutine frame} found inner := by
    by_cases same : id = current
    · cases same
      cases found.symm.trans replace_same
      exact under frame inner
    · exact waiting.below ((replace_other same).symm.trans found) inner
  aside found running away active :=
    waiting.aside ((replace_other away).symm.trans found) running away active

/-- A coroutine joins, or stops running and another one becomes current. -/
theorem rested (waiting : Waiting program find current)
    (under : ∀ frame ∈ changed.frames.items.tail, frame.Called program)
    (resting : changed.state ≠ .running) (control : next = current ∨ id = current) :
    Waiting program (replace find id changed) next where
  below {other coroutine frame} found inner := by
    by_cases same : other = id
    · cases same
      cases found.symm.trans replace_same
      exact under frame inner
    · exact waiting.below ((replace_other same).symm.trans found) inner
  aside {other coroutine frame} found running away active := by
    by_cases same : other = id
    · cases same
      cases found.symm.trans replace_same
      exact absurd running resting
    · refine waiting.aside ((replace_other same).symm.trans found) running ?_ active
      rcases control with stays | leaves
      · rwa [← stays]
      · rwa [← leaves]

/-- The current coroutine enters another one and waits for it. -/
theorem entered {waiter : Coroutine} (waiting : Waiting program find current)
    (under : ∀ frame ∈ changed.frames.items.tail, frame.Called program)
    (found' : find current = some waiter)
    (left : ∀ frame, waiter.active? = some frame → frame.Entered program) :
    Waiting program (replace find id changed) id where
  below {other coroutine frame} found inner := by
    by_cases same : other = id
    · cases same
      cases found.symm.trans replace_same
      exact under frame inner
    · exact waiting.below ((replace_other same).symm.trans found) inner
  aside {other coroutine frame} found running away active := by
    rw [replace_other away] at found
    by_cases back : other = current
    · cases back
      cases Option.some.inj (found'.symm.trans found)
      exact left frame active
    · exact waiting.aside found running back active

end Waiting

namespace Stack

variable {α : Type} {stack : Stack α} {item : α}

theorem mem_tail_modifyTop {change : α → α} :
    item ∈ (stack.modifyTop change).items.tail ↔ item ∈ stack.items.tail := by
  rw [items_modifyTop]
  cases stack.items <;> rfl

theorem mem_tail_pop (under : item ∈ stack.pop.items.tail) : item ∈ stack.items.tail :=
  List.mem_of_mem_tail under

theorem mem_tail_below {position : Nat} (under : item ∈ (stack.below position).items.tail) :
    item ∈ stack.items.tail := by
  rw [below, List.tail_drop, Nat.add_comm, ← List.drop_drop, List.drop_one] at under
  exact List.mem_of_mem_drop under

end Stack

/-- Whether an instruction makes a frame wait. -/
def Instruction.leaves : Instruction → Bool
  | .call _ _ _ | .enterCoroutine _ _ _ => true
  | _ => false

namespace Machine

variable {program : Program} {machine before after : Machine} {code : Instruction}

theorem waiting_update {coroutine : Coroutine} {change : Coroutine → Coroutine}
    (waiting : Waiting program machine.coroutine? machine.current)
    (found : machine.coroutine? machine.current = some coroutine)
    (under : ∀ frame ∈ (change coroutine).frames.items.tail,
      frame ∈ coroutine.frames.items.tail) :
    Waiting program (machine.updateCoroutine machine.current change).coroutine?
      machine.current := by
  rw [coroutine?_replace found]
  exact waiting.updated fun frame inner => waiting.below found (under frame inner)

theorem waiting_updateFrame {change : Frame → Frame}
    (linked : Linked machine.coroutine? machine.current)
    (waiting : Waiting program machine.coroutine? machine.current) :
    Waiting program (machine.updateFrame machine.current change).coroutine? machine.current := by
  obtain ⟨coroutine, found, -⟩ := linked.current_running
  exact waiting_update waiting found fun _ => Stack.mem_tail_modifyTop.mp

theorem waiting_fetched (linked : Linked machine.coroutine? machine.current)
    (waiting : Waiting program machine.coroutine? machine.current) :
    Waiting program (machine.fetched code).coroutine? (machine.fetched code).current := by
  obtain ⟨counters, same⟩ := machine.fetched_eq code
  rw [same]
  exact waiting_updateFrame linked waiting

/-- The current coroutine stops running. -/
theorem waiting_leave {coroutine : Coroutine} {change : Coroutine → Coroutine} {next : CoroutineId}
    (waiting : Waiting program machine.coroutine? machine.current)
    (found : machine.coroutine? machine.current = some coroutine)
    (under : ∀ frame ∈ (change coroutine).frames.items.tail, frame ∈ coroutine.frames.items.tail)
    (resting : (change coroutine).state ≠ .running) :
    Waiting program (machine.updateCoroutine machine.current change).coroutine? next := by
  rw [coroutine?_replace found]
  exact waiting.rested (fun frame inner => waiting.below found (under frame inner)) resting (.inr rfl)

theorem waiting_add {changed : Coroutine} (waiting : Waiting program machine.coroutine? machine.current)
    (single : changed.frames.items.tail = []) (resting : changed.state ≠ .running) :
    Waiting program { machine with coroutines := machine.coroutines.push changed }.coroutine?
      machine.current := by
  rw [coroutine?_push]
  refine waiting.rested (fun frame inner => ?_) resting (.inl rfl)
  rw [single] at inner
  cases inner

/-- Only calling and entering make a frame wait. -/
theorem waiting_effect (linked : Linked before.coroutine? before.current)
    (waiting : Waiting program before.coroutine? before.current)
    (effect : Effect code before after) (goesOn : code.leaves = false) :
    Waiting program after.coroutine? after.current := by
  cases effect with
  | count | intern | bindVar | bindCandidates | openRegion | commitRegion | rollbackRegion
  | undoAll => exact waiting
  | compute | pushScope | popScope => exact waiting_updateFrame linked waiting
  | call _ _ _ _ calling =>
      obtain ⟨_, _, rfl⟩ := calling
      cases goesOn
  | enter _ _ _ _ _ entering =>
      obtain ⟨_, rfl⟩ := entering
      cases goesOn
  | «return» current => exact waiting_update waiting current fun _ => Stack.mem_tail_pop
  | finish current active entry =>
      refine waiting_leave waiting current (fun _ => Stack.mem_tail_pop) ?_
      rw [(linked.sound current).popFrame_entry (linked.running_of_current current) active entry]
      nofun
  | create => exact waiting_add waiting rfl nofun
  | copy => exact waiting_add waiting rfl nofun
  | yield current =>
      refine waiting_leave waiting current (fun _ => id) ?_
      rw [Ne, Coroutine.state_eq_running_iff]
      exact fun awake => nomatch awake.2.2
  | pushHandler _ _ current | popHandler current =>
      exact waiting_update waiting current fun _ => id
  | abandon current => exact waiting_leave waiting current nofun nofun
  | @«catch» coroutine handler outer owner current installed =>
      have runs := linked.running_of_current current
      obtain ⟨sound, running⟩ := (linked.sound current).caught runs installed
      have cut : Linked (before.updateCoroutine before.current
          (·.caught handler outer)).coroutine? before.current :=
        linked_update linked current sound running rfl
      have fewer : Waiting program (before.updateCoroutine before.current
          (·.caught handler outer)).coroutine? before.current :=
        waiting_update waiting current fun _ => Stack.mem_tail_below
      exact waiting_updateFrame cut fewer

theorem waiting_evolves (linked : Linked before.coroutine? before.current)
    (waiting : Waiting program before.coroutine? before.current)
    (evolves : before.Evolves code after) (goesOn : code.leaves = false) :
    Waiting program after.coroutine? after.current := by
  suffices both : Linked after.coroutine? after.current ∧
      Waiting program after.coroutine? after.current from both.2
  induction evolves with
  | refl => exact ⟨linked, waiting⟩
  | tail _ effect ih =>
      exact ⟨linked_effect ih.1 effect, waiting_effect ih.1 ih.2 effect goesOn⟩

/-! Steps -/

/-- The active frame has just passed the instruction that is executed. -/
theorem passed?_fetched (next : machine.instruction? = some code) :
    ∃ frame, (machine.fetched code).active? = some frame ∧
      frame.passed? machine.program = some code := by
  obtain ⟨frame, unit, active, found, fetches⟩ := instruction?_eq_some_iff.mp next
  refine ⟨_, active?_fetched active, ?_⟩
  simp only [Frame.passed?, found, Option.bind_eq_bind, Option.bind_some]
  exact fetches

theorem waiting_called {counters : Counters} {function : FunctionId} {dst : Option Reg}
    {registers : Array (Option Value)} {frame : Frame}
    (waiting : Waiting program machine.coroutine? machine.current)
    (active : machine.active? = some frame) (left : frame.Called program) :
    Waiting program ({ machine with counters }.called function registers dst).coroutine?
      machine.current := by
  obtain ⟨coroutine, current, top⟩ := Option.bind_eq_some_iff.mp active
  obtain ⟨below, stacked⟩ := List.head?_eq_some_iff.mp top
  have found : { machine with
      counters
      arena := (machine.arena.place (some machine.globals)).2
      nextFrame := machine.nextFrame + 1 }.coroutine? machine.current = some coroutine := current
  rw [called, coroutine?_replace found]
  refine waiting.updated fun other inner => ?_
  change other ∈ coroutine.frames.items at inner
  rw [stacked] at inner
  rcases List.mem_cons.mp inner with same | lower
  · rwa [same]
  · exact waiting.below current (by rwa [stacked])

theorem waiting_call {dst : Option Reg} {callee : Callee} {args : List Reg} {frame : Frame}
    (sound : machine.Sound) (waiting : Waiting program machine.coroutine? machine.current)
    (active : machine.active? = some frame) (left : frame.Called program) :
    (Action.execute (.call dst callee args)).Leads machine
      (fun _ after => Waiting program after.coroutine? after.current) fun _ _ => True := by
  have pushed (function : FunctionId) (values : List Value) (counters : Counters) :
      (Action.pushCall function values dst).Leads { machine with counters }
        (fun _ after => Waiting program after.coroutine? after.current) fun _ _ => True := by
    have active' : { machine with counters }.active? = some frame := active
    refine (Action.pushCall_calls active').mono ?_ fun _ _ _ => trivial
    intro _ after ⟨unit, registers, _, _, same⟩
    rw [same]
    exact waiting_called waiting active left
  simp only [Action.execute, Action.call, Action.leads_bind, Action.leads_frame_active active,
    Action.leads_ofExcept, implies_true, and_true]
  intro values passed
  cases callee with
  | direct function =>
      simp only [Action.leads_bind, Action.leads_pure]
      exact pushed function values machine.counters
  | overloaded name =>
      simp only [Action.leads_bind, Action.leads_get]
      split
      · next function selected =>
          simp only [Action.countTried, Action.leads_bind, Action.leads_count, Action.leads_pure]
          obtain ⟨counters, counted⟩ := machine.count_eq _
          rw [counted]
          exact pushed function values counters
      · next cause unresolved =>
          simp only [Action.countTried, Action.leads_bind, Action.leads_count]
          obtain ⟨counters, counted⟩ := machine.count_eq _
          rw [counted]
          have raised : (Action.raise cause).Leads { machine with counters }
              (fun _ => machine.Evolves .noSolution) fun _ => machine.Breaks .noSolution :=
            Action.raise_evolves sound.enabled rfl (Evolves.refl.then (.count counters))
          refine raised.mono (fun _ after evolves => ?_) fun _ _ _ => trivial
          exact waiting_evolves sound.linked waiting evolves rfl

theorem waiting_enter {dst out : Option Reg} {target : Reg} {frame : Frame}
    (sound : machine.Sound) (waiting : Waiting program machine.coroutine? machine.current)
    (active : machine.active? = some frame) (left : frame.Entered program)
    (turns : machine.Turns (.enterCoroutine dst target out) .proceed after) :
    Waiting program after.coroutine? after.current := by
  cases turns with
  | stays tames stays => cases tames with | same => cases stays
  | enters entering active' named found parked =>
      obtain ⟨waiter, current, top⟩ := Option.bind_eq_some_iff.mp active
      change Waiting program (machine.updateCoroutine _ _).coroutine? _
      rw [coroutine?_replace found]
      refine waiting.entered (fun _ inner => waiting.below found inner) current ?_
      intro other same
      cases Option.some.inj (top.symm.trans same)
      exact left
  | refused => exact waiting_updateFrame sound.linked waiting
  | yields yielding => cases yielding
  | returns returning => cases returning
  | finishes returning => cases returning
  | raises raises => cases raises

theorem waiting_step (sound : machine.Sound)
    (waiting : Waiting machine.program machine.coroutine? machine.current)
    (goesOn : machine.step.isRunning = true) :
    Waiting machine.program machine.step.coroutine? machine.step.current := by
  obtain ⟨code, next, turns⟩ := step_proceeds sound goesOn
  obtain ⟨frame, active, passed⟩ := passed?_fetched next
  have waiting' : Waiting machine.program (machine.fetched code).coroutine?
      (machine.fetched code).current := waiting_fetched sound.linked waiting
  cases code with
  | call dst callee args =>
      exact step_of_leads next goesOn
        (waiting_call sound.fetched waiting' active ⟨dst, callee, args, passed⟩)
  | enterCoroutine dst target out =>
      exact waiting_enter sound.fetched waiting' active ⟨dst, target, out, passed⟩ turns
  | _ =>
      obtain ⟨code, next', evolves⟩ := step_evolves sound.enabled goesOn
      cases Option.some.inj (next.symm.trans next')
      exact waiting_evolves sound.linked waiting evolves rfl

/-- At any time, in the run of any program. -/
theorem Reachable.waiting {args : List Value} {settings : Settings}
    (reachable : Reachable program args settings machine) (running : machine.isRunning = true) :
    Waiting program machine.coroutine? machine.current := by
  obtain ⟨initial, started, reaches⟩ := reachable
  refine reaches.induction running
    (fun machine => Waiting program machine.coroutine? machine.current) ?_ (fun _ _ _ held => held) ?_
  · obtain ⟨unit, registers, -, -, -, -, rfl⟩ := start_eq started
    exact {
      below := fun found inner => by
        obtain ⟨-, rfl⟩ := eq_of_alone found
        cases inner
      aside := fun found _ away _ => absurd (eq_of_alone found).1 away }
  · intro middle reached ran goesOn _ held
    have reachable : Reachable program args settings middle := ⟨initial, started, reached⟩
    have same := reachable.program_eq ran
    rw [← same] at held ⊢
    exact waiting_step (reachable.sound ran) held goesOn

end Machine

end Backtrack
