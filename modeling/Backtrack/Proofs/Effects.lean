import Backtrack.Proofs.Actions
import Mathlib.Logic.Relation

/-!
What one instruction can do to a machine. `Effect` lists the changes of state that instructions are
made of, each with the conditions under which it happens; `Machine.Evolves` is any number of them
in a row. What every effect keeps, a run keeps.
-/

namespace Backtrack

/-- A change that leaves the identity of an activation alone: only its registers' contents and
the position in its code differ. -/
structure Frame.SameActivation (before after : Frame) : Prop where
  id : after.id = before.id
  function : after.function = before.function
  registers : after.registers.size = before.registers.size
  role : after.role = before.role
  scope : after.scope = before.scope
  base : after.base = before.base

/-- The frame of an activation that has not started. -/
def Frame.initial (id : FrameId) (function : FunctionId) (registers : Array (Option Value))
    (role : Role) (scope : ContainerId) : Frame :=
  ⟨id, function, 0, registers, role, scope, scope⟩

/-- Whether a catch undoes a region: it was opened after the handler was pushed, by the frame that
catches or one above it. -/
def Handler.undoes (handler : Handler) (owners : List FrameId) (region : Region) : Bool :=
  handler.regionSerial ≤ region.serial && region.owner ∈ owners

theorem Handler.undoes_iff {handler : Handler} {owners : List FrameId} {region : Region} :
    handler.undoes owners region = true ↔
      handler.regionSerial ≤ region.serial ∧ region.owner ∈ owners := by
  simp [undoes]

/-- Whether an instruction can raise a condition. -/
def Instruction.raises : Instruction → Bool
  | .noSolution | .throw _ | .loadVar _ _ | .call _ (.overloaded _) _ => true
  | _ => false

/-- Whether an instruction creates a coroutine. -/
def Instruction.adds : Instruction → Bool
  | .createCoroutine _ _ _ | .copyCoroutine _ _ => true
  | _ => false

/-- The changes that an instruction is made of. Most of them tell the instruction. -/
inductive Effect (code : Instruction) : Machine → Machine → Prop
  | count {machine : Machine} (counters : Counters) : Effect code machine { machine with counters }
  | intern {machine : Machine} (nodes : NodeTable) : Effect code machine { machine with nodes }
  /-- The active frame computes with its registers or moves on in its code. -/
  | compute {machine : Machine} (change : Frame → Frame)
      (same : ∀ frame : Frame, frame.SameActivation (change frame)) :
      Effect code machine (machine.updateFrame machine.current change)
  | bindVar {machine : Machine} {target : ContainerId} {frame : Frame} (name : SymbolId)
      (value : Value) (live : machine.arena.isLive target = true)
      (binding : ∃ src, code = .storeVar name src ∨ code = .declareVar name src)
      (active : machine.active? = some frame)
      (inScope : target ∈ machine.arena.ancestry frame.scope) :
      Effect code machine { machine with
        regions := machine.regions.map fun region => { region with
          log := (region.log.saveVariable ⟨target, name⟩ (machine.arena.var? target name)).2 }
        arena := machine.arena.putVar target name (some value) }
  | bindCandidates {machine : Machine} {target : ContainerId} {frame : Frame} (name : SymbolId)
      (set : CandidateSet) (live : machine.arena.isLive target = true)
      (binding : ∃ function, code = .declareFunction name function)
      (active : machine.active? = some frame)
      (inScope : target ∈ machine.arena.ancestry frame.scope) :
      Effect code machine { machine with
        regions := machine.regions.map fun region => { region with
          log := (region.log.saveCandidates ⟨target, name⟩
            (machine.arena.candidates? target name)).2 }
        arena := machine.arena.putCandidates target name (some set) }
  | pushScope {machine : Machine} {frame : Frame} (active : machine.active? = some frame)
      (pushing : code = .pushScope) :
      Effect code machine ({ machine with
        arena := (machine.arena.place (some frame.scope)).2 }.updateFrame machine.current
          ({ · with scope := (machine.arena.place (some frame.scope)).1 }))
  | popScope {machine : Machine} {frame : Frame} {parent : ContainerId}
      (popping : code = .popScope) (active : machine.active? = some frame)
      (inner : frame.scope ≠ frame.base)
      (enclosed : machine.arena.parent? frame.scope = some parent) :
      Effect code machine ({ machine with
        arena := machine.arena.release frame.scope }.updateFrame machine.current
          ({ · with scope := parent }))
  | call {machine : Machine} {caller : Frame} (dst : Option Reg) (function : FunctionId)
      (registers : Array (Option Value)) (active : machine.active? = some caller)
      (calling : ∃ callee args, code = .call dst callee args) :
      Effect code machine ({ machine with
        arena := (machine.arena.place (some machine.globals)).2
        nextFrame := machine.nextFrame + 1 }.updateCoroutine machine.current
          (·.pushFrame (.initial ⟨machine.nextFrame⟩ function registers (.callee dst)
            (machine.arena.place (some machine.globals)).1)))
  /-- A call ends. Its result is written by a `compute`. -/
  | return {machine : Machine} {coroutine : Coroutine} {frame : Frame} {dst : Option Reg}
      (current : machine.coroutine? machine.current = some coroutine)
      (active : coroutine.active? = some frame) (callee : frame.role = .callee dst)
      (closed : ∀ region ∈ machine.regions.items, region.owner ≠ frame.id)
      (returning : ∃ reg, code = .return reg) :
      Effect code machine ({ machine with
        arena := machine.arena.vacate machine.globals frame }.updateCoroutine machine.current
          (·.popFrame))
  /-- A coroutine ends. What its caller learns is written by a `compute`. -/
  | finish {machine : Machine} {coroutine : Coroutine} {frame : Frame} {link : CallerLink}
      (current : machine.coroutine? machine.current = some coroutine)
      (active : coroutine.active? = some frame) (entry : frame.role = .entry)
      (waiting : coroutine.caller = some link)
      (closed : ∀ region ∈ machine.regions.items, region.owner ≠ frame.id)
      (returning : ∃ reg, code = .return reg) :
      Effect code machine { { machine with
        arena := machine.arena.vacate machine.globals frame }.updateCoroutine machine.current
          (·.popFrame) with current := link.coroutine }
  | create {machine : Machine} (function : FunctionId) (registers : Array (Option Value))
      (creating : ∃ dst args, code = .createCoroutine dst function args) :
      Effect code machine { machine with
        arena := (machine.arena.place (some machine.globals)).2
        nextFrame := machine.nextFrame + 1
        coroutines := machine.coroutines.push (.new (.initial ⟨machine.nextFrame⟩ function registers
          .entry (machine.arena.place (some machine.globals)).1)) }
  | copy {machine : Machine} {id : CoroutineId} {original : Coroutine} {entry : Frame}
      (found : machine.coroutine? id = some original)
      (single : original.frames.items = [entry]) (unstarted : entry.pc = 0)
      (parked : original.suspended = false)
      (copying : ∃ dst source, code = .copyCoroutine dst source) :
      Effect code machine { machine with
        arena := (machine.arena.place (some machine.globals)).2
        nextFrame := machine.nextFrame + 1
        coroutines := machine.coroutines.push (.new { entry with
          id := ⟨machine.nextFrame⟩
          scope := (machine.arena.place (some machine.globals)).1
          base := (machine.arena.place (some machine.globals)).1 }) }
  | enter {machine : Machine} {frame : Frame} {id : CoroutineId} {entered : Coroutine}
      (dst out : Option Reg) (active : machine.active? = some frame)
      (found : machine.coroutine? id = some entered)
      (parked : entered.state = .fresh ∨ entered.state = .suspended)
      (entering : ∃ target, code = .enterCoroutine dst target out) :
      Effect code machine { machine.updateCoroutine id (fun _ => { entered with
        caller := some ⟨machine.current, machine.depth - 1, dst, out⟩
        suspended := false
        started := true }) with current := id }
  /-- A coroutine suspends itself. What its caller learns is written by a `compute`. -/
  | yield {machine : Machine} {coroutine : Coroutine} {link : CallerLink}
      (current : machine.coroutine? machine.current = some coroutine)
      (running : coroutine.state = .running) (waiting : coroutine.caller = some link)
      (closed : ∀ region ∈ machine.regions.items, ∀ frame ∈ coroutine.frames.items,
        frame.id ≠ region.owner)
      (yielding : ∃ reg, code = .yield reg) :
      Effect code machine { machine.updateCoroutine machine.current (fun _ => { coroutine with
        caller := none
        suspended := true }) with current := link.coroutine }
  | openRegion {machine : Machine} {frame : Frame} (opening : code = .openRegion)
      (active : machine.active? = some frame) :
      Effect code machine { machine with
        regions := machine.regions.push ⟨machine.nextSerial, frame.id, .new⟩
        nextSerial := machine.nextSerial + 1 }
  | commitRegion {machine : Machine} {region : Region} {rest : List Region} {frame : Frame}
      (top : machine.regions.items = region :: rest) (committing : code = .commitRegion)
      (active : machine.active? = some frame) (own : region.owner = frame.id) :
      Effect code machine { machine with regions := .ofItems rest }
  | rollbackRegion {machine : Machine} {region : Region} {rest : List Region} {frame : Frame}
      (top : machine.regions.items = region :: rest) (undoing : code = .rollbackRegion)
      (active : machine.active? = some frame) (own : region.owner = frame.id) :
      Effect code machine { machine with
        regions := .ofItems rest
        arena := region.log.restore machine.arena }
  | pushHandler {machine : Machine} {coroutine : Coroutine} {frame : Frame} (target : Nat)
      (dst : Option Reg) (current : machine.coroutine? machine.current = some coroutine)
      (active : coroutine.active? = some frame) (guarding : code = .pushCatch target dst) :
      Effect code machine (machine.updateCoroutine machine.current fun coroutine => { coroutine with
        handlers := ⟨coroutine.depth - 1, target, dst, machine.nextSerial, frame.scope⟩ ::
          coroutine.handlers })
  | popHandler {machine : Machine} {coroutine : Coroutine} {handler : Handler}
      {outer : List Handler} (current : machine.coroutine? machine.current = some coroutine)
      (installed : coroutine.handlers = handler :: outer)
      (innermost : handler.depth = coroutine.depth - 1) (popping : code = .popCatch) :
      Effect code machine (machine.updateCoroutine machine.current ({ · with handlers := outer }))
  /-- A condition leaves a coroutine, which is given up. -/
  | abandon {machine : Machine} {coroutine : Coroutine} {link : CallerLink}
      (current : machine.coroutine? machine.current = some coroutine)
      (bare : coroutine.handlers = []) (inner : machine.current ≠ .root)
      (waiting : coroutine.caller = some link) (raising : code.raises = true) :
      Effect code machine { machine.updateCoroutine machine.current (fun _ => .dead) with
        regions := .ofItems (machine.regions.items.dropWhile fun region =>
          region.owner ∈ coroutine.frames.items.map Frame.id)
        arena := (machine.arena.undo (machine.regions.items.takeWhile fun region =>
          region.owner ∈ coroutine.frames.items.map Frame.id)).vacateAll machine.globals
            coroutine.frames.items
        current := link.coroutine }
  /-- A handler catches a condition. The condition's value is written by a `compute`. -/
  | catch {machine : Machine} {coroutine : Coroutine} {handler : Handler} {outer : List Handler}
      {owner : Frame} (current : machine.coroutine? machine.current = some coroutine)
      (installed : coroutine.handlers = handler :: outer)
      (owned : coroutine.frames.at? handler.depth = some owner)
      (inScope : handler.scope ∈ machine.arena.ancestry owner.scope)
      (raising : code.raises = true) :
      Effect code machine ({ machine.updateCoroutine machine.current (fun coroutine => {
          coroutine with
            handlers := outer
            frames := coroutine.frames.below (handler.depth + 1) }) with
        regions := .ofItems (machine.regions.items.dropWhile (handler.undoes
          ((coroutine.frames.above (handler.depth + 1) ++ [owner]).map Frame.id)))
        arena := ((machine.arena.undo (machine.regions.items.takeWhile (handler.undoes
          ((coroutine.frames.above (handler.depth + 1) ++ [owner]).map Frame.id)))).vacateAll
            machine.globals (coroutine.frames.above (handler.depth + 1))).releaseAll
              ((machine.arena.ancestry owner.scope).takeWhile (· ≠ handler.scope))
        }.updateFrame machine.current ({ · with scope := handler.scope, pc := handler.target }))
  /-- A condition that nothing catches undoes every region. -/
  | undoAll {machine : Machine} (raising : code.raises = true) :
      Effect code machine { machine with
        regions := .empty
        arena := machine.arena.undo machine.regions.items }

def Machine.Evolves (code : Instruction) : Machine → Machine → Prop :=
  Relation.ReflTransGen (Effect code)

/-- Where a fault can leave a machine: after some effects of the instruction, or in the middle of
one. -/
inductive Machine.Breaks (code : Instruction) (before : Machine) : Machine → Prop
  | between {machine : Machine} (soFar : before.Evolves code machine) : Breaks code before machine
  /-- Control was about to be handed to another coroutine. -/
  | unswitched {machine : Machine} (id : CoroutineId)
      (soFar : before.Evolves code { machine with current := id }) : Breaks code before machine
  /-- A new activation has its container, but its arguments do not fit, or there is no coroutine to
  copy. -/
  | placed {machine : Machine} (soFar : before.Evolves code machine) :
      Breaks code before { machine with
        arena := (machine.arena.place (some machine.globals)).2
        nextFrame := machine.nextFrame + 1 }
  /-- The container of a copy is freed again. -/
  | withdrawn {machine : Machine} (soFar : before.Evolves code machine) :
      Breaks code before { machine with
        arena := (machine.arena.place (some machine.globals)).2.release
          (machine.arena.place (some machine.globals)).1
        nextFrame := machine.nextFrame + 1 }
  /-- A frame ends that has open regions. -/
  | unbalanced {machine : Machine} {coroutine : Coroutine} {frame : Frame}
      (soFar : before.Evolves code machine)
      (current : machine.coroutine? machine.current = some coroutine)
      (active : coroutine.active? = some frame) :
      Breaks code before (machine.updateCoroutine machine.current (·.popFrame))
  /-- A handler is taken whose container is gone. -/
  | outside {machine : Machine} {coroutine : Coroutine} {handler : Handler} {outer : List Handler}
      (soFar : before.Evolves code machine)
      (current : machine.coroutine? machine.current = some coroutine)
      (installed : coroutine.handlers = handler :: outer) :
      Breaks code before (machine.updateCoroutine machine.current ({ · with handlers := outer }))
  /-- A container on the chain of the active frame is not live. No sound machine is like that. -/
  | stale {machine after : Machine} {frame : Frame} {target : ContainerId}
      (soFar : before.Evolves code machine) (active : machine.active? = some frame)
      (inScope : target ∈ machine.arena.ancestry frame.scope)
      (gone : ¬ machine.arena.isLive target = true) : Breaks code before after
  /-- Nothing waits for a coroutine that is not the root. No sound machine is like that. -/
  | orphaned {machine after : Machine} {coroutine : Coroutine}
      (soFar : before.Evolves code machine)
      (current : machine.coroutine? machine.current = some coroutine)
      (inner : machine.current ≠ .root) (alone : coroutine.caller = none) :
      Breaks code before after

namespace Machine

variable {code : Instruction} {before machine : Machine}

theorem Evolves.refl : machine.Evolves code machine :=
  Relation.ReflTransGen.refl

theorem Evolves.then {after : Machine} (soFar : before.Evolves code machine)
    (effect : Effect code machine after) : before.Evolves code after :=
  Relation.ReflTransGen.tail soFar effect

theorem Evolves.status {after : Machine} (evolves : before.Evolves code after) :
    after.status = before.status := by
  induction evolves with
  | refl => rfl
  | tail _ effect ih => cases effect <;> exact ih

theorem Evolves.count {change : Counters → Counters} (soFar : before.Evolves code machine) :
    before.Evolves code (machine.count change) := by
  obtain ⟨counters, counted⟩ := machine.count_eq change
  rw [counted]
  exact soFar.then (.count counters)

theorem Evolves.put {reg : Reg} {content : Option Value} (soFar : before.Evolves code machine) :
    before.Evolves code (machine.updateFrame machine.current (·.put reg content)) :=
  soFar.then (.compute _ fun _ => ⟨rfl, rfl, by simp [Frame.put], rfl, rfl, rfl⟩)

theorem Evolves.goto (soFar : before.Evolves code machine) (next : Frame → Nat) :
    before.Evolves code (machine.updateFrame machine.current fun frame =>
      { frame with pc := next frame }) :=
  soFar.then (.compute _ fun _ => ⟨rfl, rfl, rfl, rfl, rfl, rfl⟩)

end Machine

end Backtrack
