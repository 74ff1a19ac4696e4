import Backtrack.Machine.Basic

/-!
Backtracking regions. Only the innermost region can be closed: a commit keeps what was bound since
it was opened, a rollback restores the bindings that its log holds.
-/

namespace Backtrack.Action

def openRegion : Action Unit := do
  let limit := (← get).settings.maxOpenRegions
  ensure ((← get).regions.size < limit) (.regionLimit limit)
  let owner := (← frame).id
  modify fun machine => { machine with
    regions := machine.regions.push ⟨machine.nextSerial, owner, .new⟩
    nextSerial := machine.nextSerial + 1 }
  count fun counters => { counters with regionsOpened := counters.regionsOpened + 1 }

/-- Takes the innermost region off the stack. -/
def popRegion : Action Region := do
  match (← get).regions.top? with
  | none => throw .noRegion
  | some region =>
      modify fun machine => { machine with regions := machine.regions.pop }
      return region

def rollbackInnermost : Action Unit := do
  let region ← popRegion
  ensure region.log.enabled (.logClosed .rollback)
  let restored := region.log.restorable (← get).arena
  updateArena region.log.restore
  count fun counters => { counters with
    regionsRolledBack := counters.regionsRolledBack + 1
    bindingsRestored := counters.bindingsRestored + restored }

/-- Rolls back regions, from the innermost on, up to the first that is to stay open. -/
def rollbackWhile (undone : Region → Bool) : Action Unit := do
  ((← get).regions.items.takeWhile undone).forM fun _ => rollbackInnermost

def commitInnermost : Action Unit := do
  let region ← popRegion
  let _ ← ofExcept region.log.commit
  count fun counters => { counters with regionsCommitted := counters.regionsCommitted + 1 }

/-- Closes the innermost region, which must belong to the active frame. -/
def closeRegion (closing : Closing) : Action Unit := do
  let owner := (← frame).id
  match (← get).regions.top? with
  | none => throw .noRegion
  | some region =>
      ensure (region.owner = owner) .foreignRegion
      match closing with
      | .commit => commitInnermost
      | .rollback => rollbackInnermost

end Backtrack.Action
