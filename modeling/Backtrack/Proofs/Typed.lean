import Backtrack.Proofs.Bounded
import Backtrack.Proofs.Checked

/-!
Machines that run checked programs. The registers of a frame are those of its function, and whoever
waits to receive a value, be it a caller, a waiting coroutine or a handler, has the register that it
asked for. Every frame but the active one of the current coroutine points to an instruction.
-/

namespace Backtrack

namespace Frame

variable {program : Program} {count count' : Nat} {frame before after : Frame} {reg : Reg}

/-- The function of a frame has an instruction at a position. -/
def Lands (program : Program) (frame : Frame) (target : Nat) : Prop :=
  ∃ unit, program.function? frame.function = some unit ∧ target < unit.code.size

structure Typed (program : Program) (count : Nat) (frame : Frame) : Prop where
  sized : ∃ unit, program.function? frame.function = some unit ∧
    frame.registers.size = unit.registerCount
  bounded : frame.Bounded count

/-- Frames of one function with the same use for their results. -/
structure SameCode (before after : Frame) : Prop where
  function : after.function = before.function
  registers : after.registers.size = before.registers.size
  role : after.role = before.role

theorem SameCode.refl : frame.SameCode frame :=
  ⟨rfl, rfl, rfl⟩

theorem SameCode.hasRegister (same : before.SameCode after) :
    after.hasRegister reg = before.hasRegister reg := by
  rw [Frame.hasRegister, Frame.hasRegister, same.registers]

theorem SameCode.lands (same : before.SameCode after) {target : Nat}
    (lands : before.Lands program target) : after.Lands program target := by
  rw [Lands, same.function]
  exact lands

theorem SameCode.typed (same : before.SameCode after) (typed : before.Typed program count)
    (bounded : after.Bounded count) : after.Typed program count := by
  refine ⟨?_, bounded⟩
  rw [same.function, same.registers]
  exact typed.sized

/-- A frame whose registers hold the arguments. -/
theorem Typed.begun {id : FrameId} {function : FunctionId} {role : Role} {scope : ContainerId}
    {unit : CodeUnit} {args : List Value} (found : program.function? function = some unit)
    (bounded : ∀ value ∈ args, value.Bounded count)
    (passed : (new id function unit.registerCount role scope).withArguments args = .ok frame) :
    frame.Typed program count := by
  refine ⟨?_, withArguments_bounded bounded_new bounded passed⟩
  obtain ⟨registers, size, rfl⟩ := withArguments_eq passed
  exact ⟨unit, found, by simp [size, new]⟩

theorem Typed.mono (typed : frame.Typed program count) (grown : count ≤ count') :
    frame.Typed program count' :=
  ⟨typed.sized, fun reg value found => (typed.bounded reg value found).mono grown⟩

end Frame

namespace Coroutine

variable {program : Program} {count count' : Nat} {coroutine changed : Coroutine}
  {frame active : Frame} {handler : Handler} {outer : List Handler}

structure Typed (program : Program) (count : Nat) (coroutine : Coroutine) : Prop where
  frames {depth : Nat} {frame : Frame} (located : coroutine.frames.at? depth = some frame) :
    frame.Typed program count
  /-- A caller has the register for the result of its call. -/
  results {depth : Nat} {caller callee : Frame} {reg : Reg}
    (located : coroutine.frames.at? depth = some caller)
    (located' : coroutine.frames.at? (depth + 1) = some callee)
    (wanted : callee.role = .callee (some reg)) : caller.hasRegister reg = true
  waiting {depth : Nat} {frame : Frame} (located : coroutine.frames.at? depth = some frame)
    (lower : depth + 1 < coroutine.depth) : frame.Lands program frame.pc
  targets {handler : Handler} {owner : Frame} (installed : handler ∈ coroutine.handlers)
    (owned : coroutine.frames.at? handler.depth = some owner) : owner.Lands program handler.target
  received {handler : Handler} {owner : Frame} {reg : Reg} (installed : handler ∈ coroutine.handlers)
    (owned : coroutine.frames.at? handler.depth = some owner) (wanted : handler.dst = some reg) :
    owner.hasRegister reg = true

namespace Typed

theorem mono (typed : coroutine.Typed program count) (grown : count ≤ count') :
    coroutine.Typed program count' :=
  { typed with frames := fun located => (typed.frames located).mono grown }

/-- Frames and handlers go, and the active frame moves on. -/
theorem transfer (typed : coroutine.Typed program count)
    (frames : ∀ {depth located}, changed.frames.at? depth = some located →
      ∃ stood, coroutine.frames.at? depth = some stood ∧ stood.SameCode located ∧
        located.Bounded count ∧ (depth + 1 < changed.depth →
          depth + 1 < coroutine.depth ∧ located.pc = stood.pc))
    (handlers : ∀ {handler}, handler ∈ changed.handlers → handler ∈ coroutine.handlers) :
    changed.Typed program count where
  frames located := by
    obtain ⟨stood, stands, same, bounded, -⟩ := frames located
    exact same.typed (typed.frames stands) bounded
  results located located' wanted := by
    obtain ⟨stood, stands, same, -⟩ := frames located
    obtain ⟨stood', stands', same', -⟩ := frames located'
    rw [same.hasRegister]
    exact typed.results stands stands' (same'.role.symm.trans wanted)
  waiting located lower := by
    obtain ⟨stood, stands, same, -, stays⟩ := frames located
    obtain ⟨lower', pc⟩ := stays lower
    rw [pc]
    exact same.lands (typed.waiting stands lower')
  targets installed owned := by
    obtain ⟨stood, stands, same, -⟩ := frames owned
    exact same.lands (typed.targets (handlers installed) stands)
  received installed owned wanted := by
    obtain ⟨stood, stands, same, -⟩ := frames owned
    rw [same.hasRegister]
    exact typed.received (handlers installed) stands wanted

/-- Nothing changes but who waits and whether the coroutine runs. -/
theorem same (typed : coroutine.Typed program count) (frames : changed.frames = coroutine.frames)
    (handlers : ∀ {handler}, handler ∈ changed.handlers → handler ∈ coroutine.handlers) :
    changed.Typed program count := by
  refine typed.transfer (fun located => ⟨_, frames ▸ located, .refl, ?_, fun lower => ?_⟩) handlers
  · exact (typed.frames (frames ▸ located)).bounded
  · rw [depth, frames] at lower
    exact ⟨lower, rfl⟩

theorem new (typed : frame.Typed program count) : (Coroutine.new frame).Typed program count where
  frames {depth found} located := by
    rw [Coroutine.new, Stack.at?_push] at located
    split at located
    · cases located
      exact typed
    · cases located
  results {depth caller callee reg} located located' := by
    have within := Stack.lt_of_at? located'
    simp only [Coroutine.new, Stack.size_push, Stack.size_empty] at within
    omega
  waiting located lower := by
    simp only [depth_new] at lower
    omega
  targets := nofun
  received := nofun

/-- The root runs from the start. -/
theorem root (typed : frame.Typed program count) : (Coroutine.root frame).Typed program count :=
  (new typed).same rfl id

theorem dead : Coroutine.dead.Typed program count where
  frames := nofun
  results := nofun
  waiting := nofun
  targets := nofun
  received := nofun

theorem updateActive {change : Frame → Frame} (typed : coroutine.Typed program count)
    (active : coroutine.active? = some frame) (same : frame.SameCode (change frame))
    (bounded : (change frame).Bounded count) : (coroutine.updateActive change).Typed program count := by
  obtain ⟨deep, top⟩ := at?_top active
  refine typed.transfer (fun {depth located} stands => ?_) id
  rcases at?_updateActive stands with ⟨lower, stood⟩ | ⟨level, stood, here, rfl⟩
  · exact ⟨_, stood, .refl, (typed.frames stood).bounded, fun below => ⟨below, rfl⟩⟩
  · have bottom : depth = coroutine.depth - 1 := by omega
    rw [bottom] at here
    cases Option.some.inj (top.symm.trans here)
    rw [bottom]
    refine ⟨_, top, same, bounded, fun below => ?_⟩
    simp only [Coroutine.depth, Coroutine.updateActive, Stack.size_modifyTop] at below level
    omega

theorem pushFrame {dst : Option Reg} (typed : coroutine.Typed program count)
    (caller : coroutine.active? = some active) (lands : active.Lands program active.pc)
    (new : frame.Typed program count) (role : frame.role = .callee dst)
    (wanted : ∀ reg, dst = some reg → active.hasRegister reg = true)
    (owned : ∀ handler ∈ coroutine.handlers, handler.depth < coroutine.depth) :
    (coroutine.pushFrame frame).Typed program count := by
  obtain ⟨deep, top⟩ := at?_top caller
  have old {depth : Nat} {located : Frame}
      (stands : (coroutine.pushFrame frame).frames.at? depth = some located)
      (lower : depth < coroutine.depth) : coroutine.frames.at? depth = some located := by
    rw [Coroutine.pushFrame, Stack.at?_push] at stands
    exact (if_neg (Nat.ne_of_lt lower)).symm.trans stands
  have within {depth : Nat} {located : Frame}
      (stands : (coroutine.pushFrame frame).frames.at? depth = some located) :
      depth < coroutine.depth + 1 := Stack.lt_of_at? stands
  have last {located : Frame}
      (stands : (coroutine.pushFrame frame).frames.at? coroutine.depth = some located) :
      located = frame := by
    rw [Coroutine.pushFrame, Stack.at?_push] at stands
    exact (Option.some.inj ((if_pos rfl).symm.trans stands)).symm
  exact {
    frames := fun {depth located} stands => by
      rcases Nat.lt_or_eq_of_le (Nat.le_of_lt_succ (within stands)) with lower | rfl
      · exact typed.frames (old stands lower)
      · exact last stands ▸ new
    results := fun {depth located callee reg} stands stands' asked => by
      have below : depth < coroutine.depth := Nat.lt_of_succ_lt_succ (within stands')
      have here := old stands below
      rcases Nat.lt_or_eq_of_le (Nat.succ_le_of_lt below) with lower | level
      · exact typed.results here (old stands' lower) asked
      · have level' : depth + 1 = coroutine.depth := level
        rw [level'] at stands'
        rw [last stands', role] at asked
        have bottom : depth = coroutine.depth - 1 := by omega
        rw [bottom, top] at here
        cases here
        exact wanted reg (Role.callee.inj asked)
    waiting := fun {depth located} stands lower => by
      have below : depth < coroutine.depth := Nat.lt_of_succ_lt_succ lower
      have here := old stands below
      rcases Nat.lt_or_eq_of_le (Nat.succ_le_of_lt below) with lower | level
      · exact typed.waiting here lower
      · have bottom : depth = coroutine.depth - 1 := by omega
        rw [bottom, top] at here
        cases here
        exact lands
    targets := fun installed stands =>
      typed.targets installed (old stands (owned _ installed))
    received := fun installed stands asked =>
      typed.received installed (old stands (owned _ installed)) asked }

theorem popFrame (typed : coroutine.Typed program count) :
    coroutine.popFrame.Typed program count := by
  refine typed.transfer (fun {depth located} stands => ?_)
    fun installed => List.mem_of_mem_filter installed
  rw [Coroutine.popFrame, Stack.at?_pop] at stands
  split at stands
  · exact ⟨located, stands, .refl, (typed.frames stands).bounded, fun lower => by
      have shorter : depth + 1 < coroutine.frames.size - 1 := lower
      exact ⟨Nat.lt_of_lt_of_le shorter (Nat.sub_le ..), rfl⟩⟩
  · cases stands

/-- The frame below the active one goes on with its result. -/
theorem popped {caller : Frame} (typed : coroutine.Typed program count)
    (active : coroutine.active? = some frame) (below : coroutine.popFrame.active? = some caller) :
    caller.Lands program caller.pc ∧
      ∀ reg, frame.role = .callee (some reg) → caller.hasRegister reg = true := by
  obtain ⟨-, top⟩ := at?_top active
  obtain ⟨left, located⟩ := at?_top below
  have stands : coroutine.frames.pop.at? (coroutine.depth - 1 - 1) = some caller := located
  have more : 0 < coroutine.depth - 1 := left
  rw [Stack.at?_pop] at stands
  split at stands
  · next lower =>
      refine ⟨typed.waiting stands lower, fun reg wanted => typed.results stands ?_ wanted⟩
      have level : coroutine.depth - 1 - 1 + 1 = coroutine.depth - 1 := by omega
      rw [level, top]
  · cases stands

theorem pushHandler (typed : coroutine.Typed program count)
    (active : coroutine.active? = some frame) (innermost : handler.depth = coroutine.depth - 1)
    (lands : frame.Lands program handler.target)
    (wanted : ∀ reg, handler.dst = some reg → frame.hasRegister reg = true) :
    Typed program count { coroutine with handlers := handler :: coroutine.handlers } := by
  have owner {owner : Frame} (owned : coroutine.frames.at? handler.depth = some owner) :
      owner = frame := by
    rw [innermost, (at?_top active).2] at owned
    exact (Option.some.inj owned).symm
  exact {
    frames := typed.frames
    results := typed.results
    waiting := typed.waiting
    targets := fun installed owned => by
      rcases List.mem_cons.mp installed with rfl | earlier
      · exact owner owned ▸ lands
      · exact typed.targets earlier owned
    received := fun installed owned asked => by
      rcases List.mem_cons.mp installed with rfl | earlier
      · exact owner owned ▸ wanted _ asked
      · exact typed.received earlier owned asked }

/-- The frame of the topmost handler goes on with a value. -/
theorem resumed {owner : Frame} {value : Value} (typed : coroutine.Typed program count)
    (installed : coroutine.handlers = handler :: outer)
    (owned : coroutine.frames.at? handler.depth = some owner) (fits : value.Bounded count) :
    Typed program count { coroutine with
      handlers := outer
      frames := (coroutine.frames.below handler.depth).push (handler.resume owner value) } := by
  have within := Stack.lt_of_at? owned
  have cut : (coroutine.frames.below handler.depth).size = handler.depth := by
    rw [Stack.size_below]
    omega
  refine typed.transfer (fun {depth located} stands => ?_)
    fun member => installed ▸ List.mem_cons_of_mem _ member
  rw [Stack.at?_push, cut] at stands
  split at stands
  · next level =>
      cases stands
      rw [level]
      refine ⟨owner, owned, ?_, ?_, fun lower => ?_⟩
      · unfold Handler.resume
        split <;> exact ⟨rfl, by simp [Frame.put], rfl⟩
      · have bounded : Frame.Bounded count
          { owner with scope := handler.scope, pc := handler.target } :=
          (typed.frames owned).bounded
        unfold Handler.resume
        split
        · exact bounded.put fun _ same => Option.some.inj same ▸ fits
        · exact bounded
      · simp only [Coroutine.depth, Stack.size_push, cut] at lower
        omega
  · rw [Stack.at?_below] at stands
    split at stands
    · next lower =>
        refine ⟨located, stands, .refl, (typed.frames stands).bounded, fun _ => ⟨?_, rfl⟩⟩
        rw [Coroutine.depth]
        omega
    · cases stands

end Typed

end Coroutine

/-! The coroutines of a machine -/

section Coroutines

variable {program : Program} {find : CoroutineId → Option Coroutine} {current id : CoroutineId}
  {coroutine changed : Coroutine} {link : CallerLink} {count count' : Nat}

structure Typed (program : Program) (find : CoroutineId → Option Coroutine) (current : CoroutineId)
    (count : Nat) : Prop where
  coroutines {id : CoroutineId} {coroutine : Coroutine} (found : find id = some coroutine) :
    coroutine.Typed program count
  /-- A frame that waits for a coroutine has the registers for what it learns. -/
  links {id : CoroutineId} {coroutine waiter : Coroutine} {link : CallerLink} {frame : Frame}
    {reg : Reg} (found : find id = some coroutine) (waiting : coroutine.caller = some link)
    (found' : find link.coroutine = some waiter)
    (located : waiter.frames.at? link.depth = some frame)
    (wanted : link.ok = some reg ∨ link.out = some reg) : frame.hasRegister reg = true
  parked {id : CoroutineId} {coroutine : Coroutine} {frame : Frame}
    (found : find id = some coroutine) (differ : id ≠ current)
    (active : coroutine.active? = some frame) : frame.Lands program frame.pc

namespace Typed

theorem coroutines_replace (typed : Typed program find current count)
    (new : changed.Typed program count) {other : CoroutineId} {later : Coroutine}
    (found : replace find id changed other = some later) : later.Typed program count := by
  by_cases same : other = id
  · cases same
    cases found.symm.trans replace_same
    exact new
  · exact typed.coroutines ((replace_other same).symm.trans found)

theorem updated (typed : Typed program find current count) (linked : Linked find current)
    (found : find current = some coroutine) (new : changed.Typed program count)
    (kept : changed.caller = coroutine.caller) :
    Typed program (replace find current changed) current count where
  coroutines := typed.coroutines_replace new
  links {other waiting waiter link frame reg} found' waited target located wanted := by
    have origin : ∃ earlier, find other = some earlier ∧ earlier.caller = some link := by
      by_cases same : other = current
      · cases same
        cases found'.symm.trans replace_same
        exact ⟨coroutine, found, kept ▸ waited⟩
      · exact ⟨waiting, (replace_other same).symm.trans found', waited⟩
    obtain ⟨earlier, found'', waited'⟩ := origin
    rw [replace_other (linked.not_waited found'' waited')] at target
    exact typed.links found'' waited' target located wanted
  parked {other waiting frame} found' differ active := by
    rw [replace_other differ] at found'
    exact typed.parked found' differ active

/-- The current coroutine stops and the one that waits for it goes on. -/
theorem left (typed : Typed program find current count) (linked : Linked find current)
    (new : changed.Typed program count) (idle : changed.caller = none)
    (lands : ∀ frame, changed.active? = some frame → frame.Lands program frame.pc)
    (next : CoroutineId) : Typed program (replace find current changed) next count where
  coroutines := typed.coroutines_replace new
  links {other waiting waiter link frame reg} found' waited target located wanted := by
    by_cases same : other = current
    · cases same
      cases found'.symm.trans replace_same
      exact absurd (idle.symm.trans waited) nofun
    · rw [replace_other same] at found'
      rw [replace_other (linked.not_waited found' waited)] at target
      exact typed.links found' waited target located wanted
  parked {other waiting frame} found' _ active := by
    by_cases same : other = current
    · cases same
      cases found'.symm.trans replace_same
      exact lands frame active
    · exact typed.parked ((replace_other same).symm.trans found') same active

/-- The current coroutine waits for one that starts or continues. -/
theorem entered {waiter : Coroutine} {frame : Frame} (typed : Typed program find current count)
    (found : find id = some coroutine)
    (found' : find current = some waiter) (active : waiter.active? = some frame)
    (lands : frame.Lands program frame.pc) (frames : changed.frames = coroutine.frames)
    (handlers : changed.handlers = coroutine.handlers) (waits : changed.caller = some link)
    (back : link.coroutine = current) (innermost : link.depth = waiter.depth - 1)
    (wanted : ∀ reg, link.ok = some reg ∨ link.out = some reg → frame.hasRegister reg = true) :
    Typed program (replace find id changed) id count where
  coroutines := typed.coroutines_replace
    ((typed.coroutines found).same frames fun member => handlers ▸ member)
  links {other waiting target link' located reg} later waited there stands asked := by
    have origin : ∃ earlier, find link'.coroutine = some earlier ∧
        earlier.frames = target.frames := by
      by_cases same : link'.coroutine = id
      · rw [same, replace_same] at there
        cases there
        exact ⟨coroutine, same ▸ found, frames.symm⟩
      · exact ⟨target, (replace_other same).symm.trans there, rfl⟩
    obtain ⟨earlier, here, alike⟩ := origin
    rw [← alike] at stands
    by_cases same : other = id
    · cases same
      cases later.symm.trans replace_same
      cases Option.some.inj (waits.symm.trans waited)
      rw [back, found'] at here
      cases here
      rw [innermost, (Coroutine.at?_top active).2] at stands
      cases stands
      exact wanted reg asked
    · exact typed.links ((replace_other same).symm.trans later) waited here stands asked
  parked {other parked located} later differ' active' := by
    rw [replace_other differ'] at later
    by_cases same : other = current
    · cases same
      cases Option.some.inj (found'.symm.trans later)
      cases Option.some.inj (active.symm.trans active')
      exact lands
    · exact typed.parked later same active'

/-- The root alone. -/
theorem alone (root : coroutine.Typed program count) (idle : coroutine.caller = none) :
    Typed program (fun id => #[coroutine][id.index]?) .root count where
  coroutines found := (Machine.eq_of_alone found).2 ▸ root
  links found waiting := by
    obtain ⟨-, rfl⟩ := Machine.eq_of_alone found
    exact absurd (idle.symm.trans waiting) nofun
  parked found differ := absurd (Machine.eq_of_alone found).1 differ

theorem added (typed : Typed program find current count) (linked : Linked find current)
    (vacant : find id = none) (grown : count ≤ count') (new : changed.Typed program count')
    (idle : changed.caller = none)
    (lands : ∀ frame, changed.active? = some frame → frame.Lands program frame.pc) :
    Typed program (replace find id changed) current count' where
  coroutines {other later} found := by
    by_cases same : other = id
    · cases same
      cases found.symm.trans replace_same
      exact new
    · exact (typed.coroutines ((replace_other same).symm.trans found)).mono grown
  links {other waiting waiter link frame reg} found waited target located wanted := by
    by_cases same : other = id
    · cases same
      cases found.symm.trans replace_same
      exact absurd (idle.symm.trans waited) nofun
    · rw [replace_other same] at found
      have differ : link.coroutine ≠ id := by
        intro missing
        obtain ⟨_, here, -⟩ := linked.waits found waited
        rw [missing, vacant] at here
        cases here
      rw [replace_other differ] at target
      exact typed.links found waited target located wanted
  parked {other waiting frame} found differ active := by
    by_cases same : other = id
    · cases same
      cases found.symm.trans replace_same
      exact lands frame active
    · exact typed.parked ((replace_other same).symm.trans found) differ active

end Typed

end Coroutines

namespace Machine

variable {program : Program} {machine : Machine} {coroutine changed : Coroutine} {frame : Frame}

/-- Values name at most so many coroutines that are not there yet. -/
structure Typed (program : Program) (strays : Nat) (machine : Machine) : Prop where
  runs : machine.program = program
  coroutines : Backtrack.Typed program machine.coroutine? machine.current
    (machine.coroutines.size + strays)
  arena : machine.arena.Bounded (machine.coroutines.size + strays)
  logs : ∀ region ∈ machine.regions.items, region.log.Bounded (machine.coroutines.size + strays)

/-- The active frame points to an instruction, too. -/
structure Poised (program : Program) (strays : Nat) (machine : Machine) : Prop where
  typed : machine.Typed program strays
  lands {frame : Frame} (active : machine.active? = some frame) : frame.Lands program frame.pc

@[simp] theorem size_updateCoroutine {id : CoroutineId} {change : Coroutine → Coroutine} :
    (machine.updateCoroutine id change).coroutines.size = machine.coroutines.size := by
  simp [updateCoroutine]

@[simp] theorem size_updateFrame {id : CoroutineId} {change : Frame → Frame} :
    (machine.updateFrame id change).coroutines.size = machine.coroutines.size :=
  size_updateCoroutine

@[simp] theorem size_fetched {code : Instruction} :
    (machine.fetched code).coroutines.size = machine.coroutines.size := by
  obtain ⟨counters, same⟩ := machine.fetched_eq code
  rw [same]
  exact size_updateCoroutine

end Machine

end Backtrack
