import Backtrack.Binding.Arena
import Std.Data.TreeMap

/-!
The log of a backtracking region: for every binding changed while the region is open, what it was
before the first change. A log is closed once, by a commit that forgets it or by a rollback that
restores what it holds; after that it records nothing more.
-/

namespace Backtrack

/-- A name within a container. -/
structure BindingKey where
  container : ContainerId
  name : SymbolId
deriving DecidableEq, Repr, Inhabited

instance : Ord BindingKey :=
  ⟨compareLex (compareOn BindingKey.container) (compareOn BindingKey.name)⟩

instance : Std.TransOrd BindingKey :=
  inferInstanceAs
    (Std.TransCmp (compareLex (compareOn BindingKey.container) (compareOn BindingKey.name)))

instance : Std.LawfulEqOrd BindingKey where
  eq_of_compare {left right} equal := by
    have both := Ordering.then_eq_eq.mp equal
    rcases left with ⟨container, name⟩
    rcases right with ⟨container', name'⟩
    simpa [compareOn] using both

structure RollbackLog where
  /-- No value where the variable was not bound. -/
  vars : Std.TreeMap BindingKey (Option Value)
  candidates : Std.TreeMap BindingKey (Option CandidateSet)
  enabled : Bool
deriving Inhabited

namespace RollbackLog

def new : RollbackLog :=
  ⟨∅, ∅, true⟩

def size (log : RollbackLog) : Nat :=
  log.vars.size + log.candidates.size

/-- Records the value before a change, and tells whether it was the first for its key. -/
def saveVariable (log : RollbackLog) (key : BindingKey) (prior : Option Value) :
    Bool × RollbackLog :=
  if log.enabled && !log.vars.contains key then
    (true, { log with vars := log.vars.insert key prior })
  else (false, log)

def saveCandidates (log : RollbackLog) (key : BindingKey) (prior : Option CandidateSet) :
    Bool × RollbackLog :=
  if log.enabled && !log.candidates.contains key then
    (true, { log with candidates := log.candidates.insert key prior })
  else (false, log)

def closed : RollbackLog :=
  ⟨∅, ∅, false⟩

def commit (log : RollbackLog) : Except Fault RollbackLog :=
  if log.enabled then .ok closed else .error (.logClosed .commit)

/-- How many of the logged bindings have a container that was not freed. -/
def restorable (log : RollbackLog) (arena : Arena) : Nat :=
  log.vars.keys.countP (fun key => arena.isLive key.container) +
    log.candidates.keys.countP (fun key => arena.isLive key.container)

/-- Restores every logged binding whose container was not freed. -/
def restore (log : RollbackLog) (arena : Arena) : Arena :=
  let arena := log.vars.toList.foldl
    (fun arena (key, prior) => arena.putVar key.container key.name prior) arena
  log.candidates.toList.foldl
    (fun arena (key, prior) => arena.putCandidates key.container key.name prior) arena

/-- Restores what can be restored and counts it. -/
def rollback (log : RollbackLog) (arena : Arena) : Except Fault (Nat × RollbackLog × Arena) :=
  if log.enabled then .ok (log.restorable arena, closed, log.restore arena)
  else .error (.logClosed .rollback)

end RollbackLog

end Backtrack
