import Backtrack.Dispatch
import Backtrack.Program.Check

/-!
What the check of a program promises. In a program that passes, every code unit ends in a terminator
and every instruction names only registers, functions, constructors and types that exist, and passes
as many arguments as are expected.
-/

namespace Backtrack

theorem demand_eq_nil {rule : Prop} [Decidable rule] {defect : Defect} :
    demand rule defect = [] ↔ rule := by
  unfold demand
  split <;> simp [*]

namespace Program

variable {program : Program} {unit : CodeUnit} {pc : Nat} {operand : Operand} {reg : Reg}
  {regs args : List Reg} {target : Nat} {id : FunctionId} {ctor : ConstructorId} {type : TypeId}

@[simp] theorem registerDefects_eq_nil :
    registerDefects unit pc operand reg = [] ↔ reg < unit.registerCount :=
  demand_eq_nil

@[simp] theorem registersDefects_eq_nil :
    registersDefects unit pc operand regs = [] ↔ ∀ reg ∈ regs, reg < unit.registerCount := by
  simp [registersDefects]

@[simp] theorem targetDefects_eq_nil :
    targetDefects unit pc operand target = [] ↔ target < unit.code.size :=
  demand_eq_nil

@[simp] theorem functionDefects_eq_nil :
    functionDefects program unit pc id = [] ↔ (program.function? id).isSome = true :=
  demand_eq_nil

@[simp] theorem typeDefects_eq_nil :
    typeDefects program unit pc type = [] ↔ (program.type? type).isSome = true :=
  demand_eq_nil

@[simp] theorem callDefects_eq_nil :
    callDefects program unit pc id args = [] ↔
      ∃ callee, program.function? id = some callee ∧ callee.parameterCount = args.length := by
  unfold callDefects
  split
  · next missing => simp [missing, rule, demand_eq_nil]
  · next callee found => simp [found, rule, demand_eq_nil]

@[simp] theorem nodeDefects_eq_nil :
    nodeDefects program unit pc ctor regs = [] ↔
      ∃ decl, program.constructor? ctor = some decl ∧ decl.arity = regs.length := by
  unfold nodeDefects
  split
  · next missing => simp [missing, rule, demand_eq_nil]
  · next decl found => simp [found, rule, demand_eq_nil]

/-- A candidate that is selected takes as many arguments as are passed. -/
theorem select_arity {set : CandidateSet} {args : List Value}
    (selected : program.select set args = .ok id) :
    ∃ callee, program.function? id = some callee ∧ callee.parameterCount = args.length := by
  unfold select at selected
  split at selected
  · next chosen found =>
      cases selected
      have accepts := List.find?_some found
      unfold acceptedBy at accepts
      split at accepts
      · next callee known =>
          simp only [CodeUnit.accepts, Bool.and_eq_true, decide_eq_true_eq] at accepts
          exact ⟨callee, known, accepts.1⟩
      · cases accepts
  · cases selected

end Program

/-- What the check promises of a code unit. -/
structure CodeUnit.Checked (program : Program) (unit : CodeUnit) : Prop where
  parameters : unit.parameterCount ≤ unit.registerCount
  ended : ∃ last, unit.code.back? = some last ∧ last.isTerminator = true
  allowed {pc : Nat} {code : Instruction} (fetches : unit.code[pc]? = some code) :
    Program.instructionDefects program unit pc code = []

namespace CodeUnit.Checked

variable {program : Program} {unit : CodeUnit} {pc : Nat} {code : Instruction}

theorem begun (checked : unit.Checked program) : 0 < unit.code.size := by
  obtain ⟨last, ends, -⟩ := checked.ended
  refine Nat.pos_of_ne_zero fun empty => ?_
  rw [Array.eq_empty_of_size_eq_zero empty] at ends
  cases ends

/-- Control that falls through finds a next instruction. -/
theorem onward (checked : unit.Checked program) (fetches : unit.code[pc]? = some code)
    (falls : code.isTerminator = false) : pc + 1 < unit.code.size := by
  obtain ⟨last, ends, terminates⟩ := checked.ended
  have within := (Array.getElem?_eq_some_iff.mp fetches).1
  refine Nat.lt_of_le_of_ne within fun final => ?_
  rw [Array.back?_eq_getElem?, ← final, Nat.add_sub_cancel, fetches] at ends
  cases ends
  rw [falls] at terminates
  cases terminates

end CodeUnit.Checked

theorem Program.unit_checked {program : Program} {unit : CodeUnit} {id : FunctionId}
    (checked : program.check = .ok ()) (found : program.function? id = some unit) :
    unit.Checked program := by
  have clean : program.defects = [] := by
    unfold check at checked
    split at checked
    · assumption
    · cases checked
  simp only [defects, List.append_eq_nil_iff, List.flatMap_eq_nil_iff] at clean
  have member : unit ∈ program.functions.toList :=
    Array.mem_toList_iff.mpr (Array.mem_of_getElem? found)
  have own := clean.2 unit member
  simp only [unitDefects, List.append_eq_nil_iff, List.flatMap_eq_nil_iff, demand_eq_nil] at own
  obtain ⟨⟨⟨⟨⟨parameters, -⟩, -⟩, ended⟩, -⟩, instructions⟩ := own
  refine ⟨parameters, ?_, fun {pc code} fetches => ?_⟩
  · unfold endDefects at ended
    split at ended
    · cases ended
    · next last ends => exact ⟨last, ends, demand_eq_nil.mp ended⟩
  · refine instructions (code, pc) ?_
    rw [List.mem_zipIdx_iff_getElem?]
    simpa using fetches

end Backtrack
