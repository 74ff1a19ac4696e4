import Backtrack.Proofs.Checked
import Mathlib.Data.List.Nodup
import Mathlib.Logic.Function.Basic
import Mathlib.Tactic.MkIffOfInductiveProp

/-!
The check of a program is exact. `Program.WellFormed` says what a program has to be without a word
about defects: names are their own and the indexes invert them, shapes and instructions refer only
to what exists, and to that with the right number of fields or arguments. A program passes the check
when it is well-formed, and only then.
-/

namespace Backtrack

/-! ### What the check is about -/

/-- Every name belongs to one entry of a table, and the index is the table read backwards. -/
structure Indexed {ι : Type} (position : ι → Nat) (index : Std.TreeMap String ι)
    (names : List String) : Prop where
  unique : names.Nodup
  exact (name : String) (id : ι) : index[name]? = some id ↔ names[position id]? = some name

/-- A shape occurs in itself and in whatever a field of it occurs in. -/
inductive Shape.Occurs (part : Shape) : Shape → Prop
  | whole : Occurs part part
  | field {ctor : ConstructorId} {fields : List Shape} {field : Shape} (member : field ∈ fields)
      (deeper : Occurs part field) : Occurs part (.constructed ctor fields)

/-- What the outermost form of a shape refers to. -/
def Shape.Refers (program : Program) : Shape → Prop
  | .literal (.function id) => ∃ unit, program.function? id = some unit
  | .constructed ctor fields =>
      ∃ decl, program.constructor? ctor = some decl ∧ decl.arity = fields.length
  | _ => True

def Shape.WellFormed (program : Program) (shape : Shape) : Prop :=
  ∀ part, Shape.Occurs part shape → part.Refers program

namespace Instruction

@[simp] def registers : Instruction → List Reg
  | .const dst _ => [dst]
  | .copy dst src | .move dst src => [dst, src]
  | .int _ dst a b | .equal dst a b => [dst, a, b]
  | .not dst value => [dst, value]
  | .makeNode dst _ fields => dst :: fields
  | .field dst node _ => [dst, node]
  | .hasShape dst value _ => [dst, value]
  | .loadVar reg _ | .storeVar _ reg | .declareVar _ reg => [reg]
  | .call dst _ args => dst.toList ++ args
  | .return value | .throw value => [value]
  | .createCoroutine dst _ args => dst :: args
  | .enterCoroutine dst coroutine out => coroutine :: dst.toList ++ out.toList
  | .hasNext dst coroutine | .copyCoroutine dst coroutine => [dst, coroutine]
  | .yield value => value.toList
  | .pushCatch _ dst => dst.toList
  | .branch condition _ _ => [condition]
  | .declareFunction .. | .pushScope | .popScope | .openRegion | .commitRegion | .rollbackRegion
  | .noSolution | .popCatch | .jump _ | .trap _ => []

/-- Where control may go besides the next instruction. -/
@[simp] def targets : Instruction → List Nat
  | .pushCatch target _ | .jump target => [target]
  | .branch _ whenTrue whenFalse => [whenTrue, whenFalse]
  | _ => []

@[simp] def functions : Instruction → List FunctionId
  | .const _ (.function id) | .declareFunction _ id | .call _ (.direct id) _
  | .createCoroutine _ id _ => [id]
  | _ => []

@[simp] def constructors : Instruction → List ConstructorId
  | .makeNode _ ctor _ => [ctor]
  | _ => []

@[simp] def types : Instruction → List TypeId
  | .hasShape _ _ type => [type]
  | _ => []

@[simp] def symbols : Instruction → List SymbolId
  | .loadVar _ name | .storeVar name _ | .declareVar name _ | .declareFunction name _
  | .call _ (.overloaded name) _ => [name]
  | _ => []

/-- The instructions that code may end in. -/
inductive Ends : Instruction → Prop
  | return (value : Reg) : Ends (.return value)
  | jump (target : Nat) : Ends (.jump target)
  | throw (value : Reg) : Ends (.throw value)
  | noSolution : Ends .noSolution
  | trap (message : String) : Ends (.trap message)

/-- As many fields or arguments are given as the constructor or the function asks for. -/
@[simp] def Supplied (program : Program) : Instruction → Prop
  | .makeNode _ ctor fields =>
      ∀ decl, program.constructor? ctor = some decl → decl.arity = fields.length
  | .call _ (.direct id) args | .createCoroutine _ id args =>
      ∀ callee, program.function? id = some callee → callee.parameterCount = args.length
  | _ => True

@[mk_iff]
structure WellFormed (program : Program) (unit : CodeUnit) (code : Instruction) : Prop where
  registers : ∀ reg ∈ code.registers, reg < unit.registerCount
  targets : ∀ target ∈ code.targets, target < unit.code.size
  functions : ∀ id ∈ code.functions, ∃ callee, program.function? id = some callee
  constructors : ∀ ctor ∈ code.constructors, ∃ decl, program.constructor? ctor = some decl
  types : ∀ type ∈ code.types, ∃ shape, program.type? type = some shape
  symbols : ∀ name ∈ code.symbols, ∃ text, program.symbol? name = some text
  supplied : code.Supplied program

end Instruction

structure CodeUnit.WellFormed (program : Program) (unit : CodeUnit) : Prop where
  parameters : unit.parameters.length = unit.parameterCount
  registers : unit.parameterCount ≤ unit.registerCount
  shapes : ∀ shape ∈ unit.parameters, shape.WellFormed program
  ended : ∃ last, unit.code.back? = some last ∧ last.Ends
  code : ∀ code ∈ unit.code, code.WellFormed program unit

structure Program.WellFormed (program : Program) : Prop where
  entry : ∃ unit, program.function? program.entry = some unit
  functions : Indexed FunctionId.index program.functionIndex
    (program.functions.toList.map CodeUnit.name)
  constructors : Indexed ConstructorId.index program.constructorIndex
    (program.constructors.toList.map Constructor.name)
  symbols : Indexed SymbolId.index program.symbolIndex program.symbols.toList
  types : ∀ shape ∈ program.types, shape.WellFormed program
  units : ∀ unit ∈ program.functions, unit.WellFormed program

/-! ### Names -/

theorem repeated_eq_nil {names seen : List String} :
    repeated seen names = [] ↔ names.Nodup ∧ ∀ name ∈ names, name ∉ seen := by
  induction names generalizing seen with
  | nil => simp [repeated]
  | cons name rest ih =>
      unfold repeated
      by_cases known : name ∈ seen
      · simp [known]
      · simp only [known, if_false, ih, List.nodup_cons, List.mem_cons, not_or]
        constructor
        · intro ⟨unique, apart⟩
          refine ⟨⟨fun again => (apart name again).1 rfl, unique⟩, ?_⟩
          intro other member
          obtain rfl | later := member
          · exact known
          · exact (apart other later).2
        · intro ⟨⟨fresh, unique⟩, apart⟩
          refine ⟨unique, fun other later => ⟨fun same => ?_, apart other (.inr later)⟩⟩
          exact fresh (same ▸ later)

theorem idxOf?_eq_some_iff {names : List String} (unique : names.Nodup) {name : String}
    {position : Nat} : names.idxOf? name = some position ↔ names[position]? = some name := by
  rw [List.idxOf?, List.findIdx?_eq_some_iff_getElem, List.getElem?_eq_some_iff]
  constructor
  · intro ⟨within, found, _⟩
    exact ⟨within, eq_of_beq found⟩
  · intro ⟨within, found⟩
    refine ⟨within, beq_iff_eq.mpr found, fun earlier before again => ?_⟩
    have same : names[earlier] = names[position] := (eq_of_beq again).trans found.symm
    exact Nat.ne_of_lt before ((unique.getElem_inj_iff).mp same)

section Index

variable {ι : Type} {position : ι → Nat} {index : Std.TreeMap String ι} {names : List String}

/-- Names that neither side knows need no comparison. -/
theorem indexFits_iff : indexFits position index names = true ↔
    ∀ name, index[name]?.map position = names.idxOf? name := by
  simp only [indexFits, List.all_eq_true, List.mem_append, decide_eq_true_eq]
  constructor
  · intro fits name
    by_cases known : name ∈ index.keys ∨ name ∈ names
    · exact fits name known
    · obtain ⟨unkeyed, unnamed⟩ := not_or.mp known
      rw [Std.TreeMap.mem_keys] at unkeyed
      rw [Std.TreeMap.getElem?_eq_none unkeyed, List.idxOf?_eq_none_iff.mpr unnamed]
      rfl
  · intro fits name _
    exact fits name

theorem nameDefects_eq_nil {duplicate : String → Defect} {mismatch : Defect}
    (numbered : Function.Bijective position) :
    Program.nameDefects duplicate mismatch position index names = [] ↔
      Indexed position index names := by
  simp only [Program.nameDefects, List.append_eq_nil_iff, List.map_eq_nil_iff, repeated_eq_nil,
    demand_eq_nil, indexFits_iff, List.not_mem_nil, not_false_eq_true, implies_true, and_true]
  constructor
  · rintro ⟨unique, fits⟩
    refine ⟨unique, fun name id => ?_⟩
    rw [← idxOf?_eq_some_iff unique, ← fits name, Option.map_eq_some_iff]
    constructor
    · intro found
      exact ⟨id, found, rfl⟩
    · rintro ⟨other, found, same⟩
      rw [← numbered.1 same]
      exact found
  · rintro ⟨unique, exact⟩
    refine ⟨unique, fun name => ?_⟩
    refine Option.ext fun place => ?_
    obtain ⟨id, rfl⟩ := numbered.2 place
    rw [idxOf?_eq_some_iff unique, ← exact, Option.map_eq_some_iff]
    constructor
    · rintro ⟨other, found, same⟩
      rw [← numbered.1 same]
      exact found
    · intro found
      exact ⟨id, found, rfl⟩

end Index

theorem FunctionId.index_bijective : Function.Bijective FunctionId.index :=
  ⟨fun _ _ same => congrArg FunctionId.mk same, fun index => ⟨⟨index⟩, rfl⟩⟩

theorem ConstructorId.index_bijective : Function.Bijective ConstructorId.index :=
  ⟨fun _ _ same => congrArg ConstructorId.mk same, fun index => ⟨⟨index⟩, rfl⟩⟩

theorem SymbolId.index_bijective : Function.Bijective SymbolId.index :=
  ⟨fun _ _ same => congrArg SymbolId.mk same, fun index => ⟨⟨index⟩, rfl⟩⟩

/-! ### Shapes -/

section Shapes

variable {program : Program} {place : Place}

theorem Shape.wellFormed_constructed {ctor : ConstructorId} {fields : List Shape} :
    (Shape.constructed ctor fields).WellFormed program ↔
      (∃ decl, program.constructor? ctor = some decl ∧ decl.arity = fields.length) ∧
        ∀ field ∈ fields, field.WellFormed program := by
  constructor
  · intro sound
    refine ⟨sound _ .whole, ?_⟩
    intro field member part occurs
    exact sound part (.field member occurs)
  · rintro ⟨outermost, deeper⟩ part occurs
    cases occurs with
    | whole => exact outermost
    | field member occurs => exact deeper _ member part occurs

/-- A shape without fields has no part but itself. -/
theorem Shape.wellFormed_of_flat {shape : Shape}
    (flat : ∀ ctor fields, shape ≠ .constructed ctor fields) :
    shape.WellFormed program ↔ shape.Refers program := by
  constructor
  · intro sound
    exact sound shape .whole
  · intro outermost part occurs
    cases occurs with
    | whole => exact outermost
    | field member occurs => exact (flat _ _ rfl).elim

mutual

theorem Program.shapeDefects_eq_nil (shape : Shape) :
    program.shapeDefects place shape = [] ↔ shape.WellFormed program := by
  match shape with
  | .constructed ctor fields =>
      rw [Shape.wellFormed_constructed, ← Program.shapeListDefects_eq_nil fields, shapeDefects]
      split
      · next missing => simp [missing]
      · next decl found => simp [found, demand_eq_nil]
  | .literal (.function id) =>
      rw [Shape.wellFormed_of_flat (by simp), shapeDefects, demand_eq_nil, Option.isSome_iff_exists]
      rfl
  | .any | .unit | .bool | .int | .str | .function | .coroutine | .node | .literal .unit
  | .literal (.bool _) | .literal (.int _) | .literal (.str _) =>
      simp [Shape.wellFormed_of_flat, shapeDefects, Shape.Refers]

theorem Program.shapeListDefects_eq_nil (shapes : List Shape) :
    program.shapeListDefects place shapes = [] ↔ ∀ shape ∈ shapes, shape.WellFormed program := by
  match shapes with
  | [] => simp [shapeListDefects]
  | shape :: rest =>
      rw [shapeListDefects, List.append_eq_nil_iff, List.forall_mem_cons,
        Program.shapeDefects_eq_nil shape, Program.shapeListDefects_eq_nil rest]

end

end Shapes

/-! ### Instructions -/

theorem Instruction.isTerminator_iff {code : Instruction} :
    code.isTerminator = true ↔ code.Ends := by
  constructor
  · intro terminates
    cases code with
    | «return» value => exact .return value
    | jump target => exact .jump target
    | throw value => exact .throw value
    | noSolution => exact .noSolution
    | trap message => exact .trap message
    | _ => cases terminates
  · intro ends
    cases ends <;> rfl

/-- What is found and found right is found, and is right whenever it is found. -/
theorem exists_some_and_iff {α : Type} {found : Option α} {right : α → Prop} :
    (∃ entry, found = some entry ∧ right entry) ↔
      (∃ entry, found = some entry) ∧ ∀ entry, found = some entry → right entry := by
  cases found <;> simp

namespace Program

variable {program : Program} {unit : CodeUnit} {pc : Nat}

@[simp] theorem symbolDefects_eq_nil {name : SymbolId} :
    symbolDefects program unit pc name = [] ↔ (program.symbol? name).isSome = true :=
  demand_eq_nil

theorem instructionDefects_eq_nil {code : Instruction} :
    program.instructionDefects unit pc code = [] ↔ code.WellFormed program unit := by
  rw [Instruction.wellFormed_iff]
  cases code with
  | const dst value => cases value <;> simp [instructionDefects, Option.isSome_iff_exists]
  | call dst callee args =>
      cases callee <;>
        simp [instructionDefects, Option.isSome_iff_exists, exists_some_and_iff, or_imp, forall_and,
          and_assoc]
  | declareFunction name function =>
      simp [instructionDefects, Option.isSome_iff_exists, and_comm]
  | pushCatch target dst => simp [instructionDefects, and_comm]
  | _ => simp [instructionDefects, Option.isSome_iff_exists, exists_some_and_iff, and_assoc]

/-! ### Code units and programs -/

theorem endDefects_eq_nil :
    endDefects unit = [] ↔ ∃ last, unit.code.back? = some last ∧ last.Ends := by
  unfold endDefects
  split
  · next empty => simp [empty]
  · next last found => simp [found, demand_eq_nil, Instruction.isTerminator_iff]

/-- Entries that are checked one by one, each with its position for the sake of messages. -/
theorem flatMap_zipIdx_eq_nil {α : Type} {entries : Array α} {defects : α × Nat → List Defect}
    {good : α → Prop} (exact : ∀ entry position, defects (entry, position) = [] ↔ good entry) :
    entries.toList.zipIdx.flatMap defects = [] ↔ ∀ entry ∈ entries, good entry := by
  rw [List.flatMap_eq_nil_iff]
  constructor
  · intro clean entry member
    obtain ⟨position, within, found⟩ := Array.mem_iff_getElem.mp member
    refine (exact entry position).mp (clean (entry, position) ?_)
    rw [List.mem_zipIdx_iff_getElem?]
    simp [found, within]
  · intro sound (entry, position) member
    rw [List.mem_zipIdx_iff_getElem?, Array.getElem?_toList] at member
    exact (exact entry position).mpr (sound entry (Array.mem_of_getElem? member))

theorem unitDefects_eq_nil (short : unit.code.size < tableLimit) :
    program.unitDefects unit = [] ↔ unit.WellFormed program := by
  simp only [unitDefects, List.append_eq_nil_iff, demand_eq_nil, shapeListDefects_eq_nil,
    endDefects_eq_nil]
  rw [@flatMap_zipIdx_eq_nil _ _ _ (Instruction.WellFormed program unit)
    fun _ _ => instructionDefects_eq_nil]
  constructor
  · rintro ⟨⟨⟨⟨⟨registers, parameters⟩, shapes⟩, ended⟩, _⟩, code⟩
    exact ⟨parameters, registers, shapes, ended, code⟩
  · intro sound
    exact ⟨⟨⟨⟨⟨sound.registers, sound.parameters⟩, sound.shapes⟩, sound.ended⟩, short⟩, sound.code⟩

theorem defects_eq_nil (short : ∀ unit ∈ program.functions, unit.code.size < tableLimit) :
    program.defects = [] ↔ program.WellFormed := by
  have entry : program.entry.index < program.functions.size ↔
      ∃ unit, program.function? program.entry = some unit := by
    simp [function?, Array.getElem?_eq_some_iff]
  have units : program.functions.toList.flatMap program.unitDefects = [] ↔
      ∀ unit ∈ program.functions, unit.WellFormed program := by
    simp only [List.flatMap_eq_nil_iff, Array.mem_toList_iff]
    exact forall₂_congr fun unit member => unitDefects_eq_nil (short unit member)
  simp only [defects, List.append_eq_nil_iff, demand_eq_nil, entry, units,
    nameDefects_eq_nil FunctionId.index_bijective,
    nameDefects_eq_nil ConstructorId.index_bijective, nameDefects_eq_nil SymbolId.index_bijective]
  rw [@flatMap_zipIdx_eq_nil _ _ _ (Shape.WellFormed program) fun shape _ => shapeDefects_eq_nil shape]
  constructor
  · rintro ⟨⟨⟨⟨⟨entry, functions⟩, constructors⟩, symbols⟩, types⟩, units⟩
    exact ⟨entry, functions, constructors, symbols, types, units⟩
  · intro sound
    exact ⟨⟨⟨⟨⟨sound.entry, sound.functions⟩, sound.constructors⟩, sound.symbols⟩, sound.types⟩,
      sound.units⟩

theorem check_eq_ok_iff : program.check = .ok () ↔ program.defects = [] := by
  unfold check
  split
  · next clean => simp [clean]
  · next defect rest found => simp [found]

/-- The check accepts the well-formed programs and no others. Positions are natural numbers here, so
the tables need no bound of their own. -/
theorem check_accepts_iff (short : ∀ unit ∈ program.functions, unit.code.size < tableLimit) :
    program.check = .ok () ↔ program.WellFormed := by
  rw [check_eq_ok_iff]
  exact defects_eq_nil short

end Program

/-- A node is built and tested against a shape that is nested two deep. -/
def nestingProgram : Program :=
  { Program.empty with
    functions := #[
      { name := "main", registerCount := 2, parameterCount := 0, parameters := []
        code := #[.const 0 (.function ⟨1⟩), .makeNode 1 ⟨0⟩ [0], .call (some 1) (.direct ⟨1⟩) [1],
          .hasShape 0 1 ⟨0⟩, .return 0] },
      { name := "wrap", registerCount := 1, parameterCount := 1
        parameters := [.constructed ⟨0⟩ [.any]]
        code := #[.declareVar ⟨0⟩ 0, .makeNode 0 ⟨0⟩ [0], .return 0] }]
    functionIndex := .ofList [("main", FunctionId.mk 0), ("wrap", FunctionId.mk 1)]
    constructors := #[⟨"box", 1⟩]
    constructorIndex := .ofList [("box", ConstructorId.mk 0)]
    types := #[.constructed ⟨0⟩ [.constructed ⟨0⟩ [.literal (.function ⟨1⟩)]]]
    symbols := #["x"]
    symbolIndex := .ofList [("x", SymbolId.mk 0)] }

/-- The same program with a symbol index that has lost its entry. -/
def unindexedProgram : Program :=
  { nestingProgram with symbolIndex := ∅ }

theorem nesting_accepted :
    (∀ unit ∈ nestingProgram.functions, unit.code.size < tableLimit) ∧
      nestingProgram.WellFormed ∧ ¬ unindexedProgram.WellFormed := by
  have short : ∀ unit ∈ nestingProgram.functions, unit.code.size < tableLimit := by
    decide +kernel
  have unindexed : ∀ unit ∈ unindexedProgram.functions, unit.code.size < tableLimit := short
  refine ⟨short, (Program.check_accepts_iff short).mp (by decide +kernel), fun sound => ?_⟩
  exact absurd ((Program.check_accepts_iff unindexed).mpr sound) (by decide +kernel)

end Backtrack
