import Backtrack.Program.Instruction

/-!
Counters of what a machine executed. An instruction counts once in `executed` and once in its
class; regions and conditions are counted where they are opened, closed, raised and caught.
-/

namespace Backtrack

structure Counters where
  executed : Nat
  calls : Nat
  overloadedCalls : Nat
  candidatesTried : Nat
  returns : Nat
  created : Nat
  entered : Nat
  yielded : Nat
  regionsOpened : Nat
  regionsCommitted : Nat
  regionsRolledBack : Nat
  bindingsRestored : Nat
  raised : Nat
  caught : Nat
  jumps : Nat
  others : Nat
  /-- The deepest stack of frames seen in any coroutine. -/
  deepest : Nat
deriving DecidableEq, Repr

namespace Counters

def zero : Counters :=
  ⟨0, 0, 0, 0, 0, 0, 0, 0, 0, 0, 0, 0, 0, 0, 0, 0, 0⟩

instance : Inhabited Counters := ⟨zero⟩

/-- The largest count that is kept. -/
def ceiling : Nat := UInt64.size - 1

/-- A sum that stops at the ceiling. -/
def sum (a b : Nat) : Nat := min (a + b) ceiling

def classify (counters : Counters) : Instruction → Counters
  | .call _ (.direct _) _ => { counters with calls := counters.calls + 1 }
  | .call _ (.overloaded _) _ =>
      { counters with
        calls := counters.calls + 1
        overloadedCalls := counters.overloadedCalls + 1 }
  | .return _ => { counters with returns := counters.returns + 1 }
  | .createCoroutine .. | .copyCoroutine .. => { counters with created := counters.created + 1 }
  | .enterCoroutine .. => { counters with entered := counters.entered + 1 }
  | .yield _ => { counters with yielded := counters.yielded + 1 }
  | .jump _ | .branch .. => { counters with jumps := counters.jumps + 1 }
  | _ => { counters with others := counters.others + 1 }

def record (counters : Counters) (instruction : Instruction) : Counters :=
  { counters with executed := sum counters.executed 1 }.classify instruction

def noteDepth (counters : Counters) (depth : Nat) : Counters :=
  { counters with deepest := max counters.deepest depth }

/-- The counts of two runs together. -/
def add (a b : Counters) : Counters where
  executed := sum a.executed b.executed
  calls := sum a.calls b.calls
  overloadedCalls := sum a.overloadedCalls b.overloadedCalls
  candidatesTried := sum a.candidatesTried b.candidatesTried
  returns := sum a.returns b.returns
  created := sum a.created b.created
  entered := sum a.entered b.entered
  yielded := sum a.yielded b.yielded
  regionsOpened := sum a.regionsOpened b.regionsOpened
  regionsCommitted := sum a.regionsCommitted b.regionsCommitted
  regionsRolledBack := sum a.regionsRolledBack b.regionsRolledBack
  bindingsRestored := sum a.bindingsRestored b.bindingsRestored
  raised := sum a.raised b.raised
  caught := sum a.caught b.caught
  jumps := sum a.jumps b.jumps
  others := sum a.others b.others
  deepest := max a.deepest b.deepest

end Counters

end Backtrack
