import Backtrack.Identifiers

/-!
Candidates of one overloaded name, in the order in which a call tries them.
-/

namespace Backtrack

structure CandidateSet where
  name : SymbolId
  functions : List FunctionId
deriving DecidableEq, Repr, Inhabited

namespace CandidateSet

def empty (name : SymbolId) : CandidateSet :=
  ⟨name, []⟩

/-- The function is tried before every candidate already there. -/
def prepend (set : CandidateSet) (function : FunctionId) : CandidateSet :=
  { set with functions := function :: set.functions }

/-- The candidates of an inner set come before those of an enclosing one. -/
def join (inner outer : CandidateSet) : CandidateSet :=
  { inner with functions := inner.functions ++ outer.functions }

/-- An inner set joined with those of the enclosing containers, one after the other. -/
def joinAll (inner : CandidateSet) (outer : List CandidateSet) : CandidateSet :=
  { inner with functions := inner.functions ++ outer.flatMap functions }

theorem joinAll_eq_foldl (inner : CandidateSet) (outer : List CandidateSet) :
    inner.joinAll outer = outer.foldl join inner := by
  induction outer generalizing inner with
  | nil => simp [joinAll]
  | cons next rest ih => simp [← ih, joinAll, join]

/-- How many candidates were tried when this one was chosen, or when none was. -/
def tried (set : CandidateSet) (chosen : Option FunctionId) : Nat :=
  match chosen.bind set.functions.idxOf? with
  | some position => position + 1
  | none => set.functions.length

end CandidateSet

end Backtrack
