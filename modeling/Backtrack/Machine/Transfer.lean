import Backtrack.Machine.Activation

/-!
Transfer of control between coroutines. Entering a coroutine links it to the frame that waits; a
suspension or the end of the coroutine hands control back over that link.
-/

namespace Backtrack.Action

/-- Gives control from the current coroutine to the waiting frame, with the outcome of the wait. -/
def handBack (link : CallerLink) (ok : Bool) (out : Option Value) : Action Unit := do
  let current := (← get).current
  ensure ((← coroutine link.coroutine).depth = link.depth + 1) (.staleCaller current)
  writeOptionOf link.coroutine link.ok (.bool ok)
  match out with
  | some value => writeOptionOf link.coroutine link.out value
  | none => pure ()
  modify ({ · with current := link.coroutine })

/-- The position of the next coroutine. -/
def nextCoroutine : Action CoroutineId := do
  let machine ← get
  let limit := machine.settings.maxCoroutines
  let position := machine.coroutines.size
  ensure (position < limit ∧ position < tableLimit) (.coroutineLimit limit)
  return ⟨position⟩

def addCoroutine (coroutine : Coroutine) : Action Unit :=
  modify fun machine => { machine with coroutines := machine.coroutines.push coroutine }

def createCoroutine (dst : Reg) (function : FunctionId) (args : List Reg) : Action Unit := do
  let id ← nextCoroutine
  let values ← ofExcept ((← frame).readAll args)
  addCoroutine (.new (← newFrame function values .entry))
  write dst (.coroutine id)

def copyCoroutine (dst source : Reg) : Action Unit := do
  let source ← ofExcept ((← frame).readCoroutine source)
  let id ← nextCoroutine
  let scope ← allocContainer (← get).globals
  let frameId ← freshFrameId
  match (← coroutine source).copy frameId scope with
  | .ok copy =>
      addCoroutine copy
      write dst (.coroutine id)
  | .error fault =>
      releaseContainer scope
      throw fault

/-- Enters a coroutine, or reports at once that it is exhausted. -/
def enterCoroutine (dst : Option Reg) (target : Reg) (out : Option Reg) : Action Unit := do
  let target ← ofExcept ((← frame).readCoroutine target)
  let entered ← coroutine target
  if entered.state = .exhausted then writeOption dst (.bool false)
  else
    let machine ← get
    let link : CallerLink := ⟨machine.current, machine.depth - 1, dst, out⟩
    let running ← ofExcept (entered.enter target link)
    updateCoroutine target fun _ => running
    modify ({ · with current := target })

def hasNext (dst source : Reg) : Action Unit := do
  let source ← ofExcept ((← frame).readCoroutine source)
  write dst (.bool (← coroutine source).suspended)

/-- Suspends the current coroutine. It must own no open region. -/
def yieldValue (reg : Option Reg) : Action Unit := do
  let current := (← get).current
  ensure (current ≠ .root) .yieldOutside
  let value ← match reg with
    | some reg => read reg
    | none => pure .unit
  let yielding ← coroutine current
  let owned := (← get).regions.items.countP fun region =>
    yielding.frames.items.any (·.id = region.owner)
  ensure (owned = 0) (.yieldInsideRegion current owned)
  let (link, parked) ← ofExcept (yielding.suspend current)
  updateCoroutine current fun _ => parked
  handBack link true (some value)

end Backtrack.Action
