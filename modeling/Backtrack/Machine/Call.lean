import Backtrack.Machine.Transfer
import Backtrack.Machine.Unwind

/-!
Calls and returns. A call pushes a frame with a container of its own; a return pops it, frees its
containers and hands the result to whoever waits for it.
-/

namespace Backtrack.Action

def pushCall (function : FunctionId) (args : List Value) (dst : Option Reg) : Action Unit := do
  let current := (← get).current
  let limit := (← get).settings.maxFrames
  ensure ((← coroutine current).depth < limit) (.frameLimit limit)
  let callee ← newFrame function args (.callee dst)
  updateCoroutine current (·.pushFrame callee)

def countTried (set : CandidateSet) (chosen : Option FunctionId) : Action Unit :=
  count fun counters =>
    { counters with candidatesTried := counters.candidatesTried + set.tried chosen }

def call (dst : Option Reg) (callee : Callee) (args : List Reg) : Action Outcome := do
  let caller ← frame
  let values ← ofExcept (caller.readAll args)
  match callee with
  | .direct function =>
      pushCall function values dst
      return .proceed
  | .overloaded name =>
      let machine ← get
      let set := (machine.arena.resolve caller.scope name).getD (.empty name)
      match machine.program.select set values with
      | .ok function =>
          countTried set (some function)
          pushCall function values dst
          return .proceed
      | .error cause =>
          countTried set none
          raise cause

/-- Ends the active frame with a value. The value of a coroutine's entry frame is dropped, except
at the root. -/
def returnValue (value : Value) : Action Outcome := do
  let current := (← get).current
  let coroutine ← coroutine current
  match coroutine.active? with
  | none => throw .noActiveFrame
  | some frame =>
      updateCoroutine current (·.popFrame)
      let owned := (← get).regions.items.countP (·.owner = frame.id)
      ensure (owned = 0)
        (.unbalancedRegion ((← get).program.functionName frame.function) owned)
      releaseFrame frame
      match frame.role with
      | .callee dst =>
          let _ ← Action.frame
          writeOption dst value
          return .proceed
      | .entry =>
          if current = .root then
            return .done value
          else
            match coroutine.caller with
            | none => throw (.missingCaller current)
            | some link =>
                handBack link false none
                return .proceed

end Backtrack.Action
