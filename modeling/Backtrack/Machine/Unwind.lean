import Backtrack.Machine.Activation
import Backtrack.Machine.Regions

/-!
Unwinding a condition. The topmost handler of the current coroutine catches it; without one the
coroutine is given up and its caller goes on searching, and at the root the condition is uncaught.
On the way the regions of every frame that is left behind are rolled back and its containers freed.
-/

namespace Backtrack

namespace Machine

/-- The link over which a coroutine hands control back. -/
def caller? (machine : Machine) (id : CoroutineId) : Option CallerLink := do
  (← machine.coroutine? id).caller

/-- The links from the current coroutine back to the root. No coroutine waits twice, which bounds
their number. -/
def callers (machine : Machine) : List CallerLink :=
  match machine.caller? machine.current with
  | some link => chain (fun link => machine.caller? link.coroutine) machine.coroutines.size link
  | none => []

def traceEntry (machine : Machine) (frame : Frame) : TraceEntry :=
  ⟨machine.program.functionName frame.function, frame.pc - 1⟩

/-- The activations of the current coroutine, then those that wait for it, innermost first. -/
def trace (machine : Machine) : List TraceEntry :=
  let active := (machine.coroutine? machine.current).map (·.frames.items)
  let waiting := machine.callers.filterMap fun link =>
    (machine.coroutine? link.coroutine).map fun coroutine =>
      (coroutine.frames.below (link.depth + 1)).items
  (active.toList ++ waiting).flatten.map machine.traceEntry

end Machine

namespace Action

/-- Continues at a handler of the current coroutine, in the container where it was pushed. -/
def catchCondition (handler : Handler) (condition : Condition) : Action Outcome := do
  let current := (← get).current
  let frames := (← coroutine current).frames
  match frames.at? handler.depth with
  | none => throw .noActiveFrame
  | some target =>
      let scopes := (← get).arena.ancestry target.scope
      ensure (handler.scope ∈ scopes) .deadContainer
      let blocks := scopes.takeWhile (· ≠ handler.scope)
      let unwound := frames.above (handler.depth + 1)
      let owners := (unwound ++ [target]).map (·.id)
      rollbackWhile fun region =>
        handler.regionSerial ≤ region.serial && region.owner ∈ owners
      updateCoroutine current fun coroutine =>
        { coroutine with frames := coroutine.frames.below (handler.depth + 1) }
      unwound.forM releaseFrame
      blocks.forM releaseContainer
      updateFrame fun frame => { frame with scope := handler.scope, pc := handler.target }
      writeOption handler.dst condition.value
      count fun counters => { counters with caught := counters.caught + 1 }
      return .proceed

/-- Gives up the current coroutine and makes its caller current. -/
def abandon (coroutine : Coroutine) : Action Unit := do
  let current := (← get).current
  updateCoroutine current fun _ => .dead
  let owners := coroutine.frames.items.map (·.id)
  rollbackWhile fun region => region.owner ∈ owners
  coroutine.frames.items.forM releaseFrame
  match coroutine.caller with
  | none => throw (.missingCaller current)
  | some link =>
      ensure ((← Action.coroutine link.coroutine).depth = link.depth + 1) (.staleCaller current)
      modify ({ · with current := link.coroutine })

/-- Searches for a handler in as many coroutines as `steps` says. -/
def unwind (condition : Condition) : Nat → Action Outcome
  | 0 => throw .noActiveFrame
  | steps + 1 => do
      let current := (← get).current
      let coroutine ← coroutine current
      match coroutine.handlers with
      | handler :: outer =>
          updateCoroutine current ({ · with handlers := outer })
          catchCondition handler condition
      | [] =>
          if current = .root then
            rollbackWhile fun _ => true
            return .uncaught condition
          else
            abandon coroutine
            unwind condition steps

/-- Raises a condition at the active frame. An abandoned coroutine has no frame that could be
waited on again, so there are no more coroutines to search than the machine has. -/
def raise (cause : Cause) : Action Outcome := do
  let trace := (← get).trace
  count fun counters => { counters with raised := counters.raised + 1 }
  unwind ⟨cause, trace⟩ (← get).coroutines.size

def pushHandler (target : Nat) (dst : Option Reg) : Action Unit := do
  let serial := (← get).nextSerial
  let scope := (← frame).scope
  updateCoroutine (← get).current fun coroutine =>
    { coroutine with
      handlers := ⟨coroutine.depth - 1, target, dst, serial, scope⟩ :: coroutine.handlers }

/-- Removes the topmost handler, which must belong to the active frame. -/
def popHandler : Action Unit := do
  let current := (← get).current
  let coroutine ← coroutine current
  match coroutine.handlers with
  | handler :: outer =>
      ensure (handler.depth = coroutine.depth - 1) .noHandler
      updateCoroutine current ({ · with handlers := outer })
  | [] => throw .noHandler

end Action

end Backtrack
