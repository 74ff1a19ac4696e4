import Backtrack.Proofs.Transcripts
import Backtrack.Proofs.WellFormed

/-!
Tables of a program through every history. An index is always its table read backwards; a position
that was given out names the same entry from then on; a name that is taken is refused, or found
again where it is interned; and the check never has anything to say about names.
-/

namespace Backtrack

section Index

variable {ι : Type} {position : ι → Nat} {index : Std.TreeMap String ι} {names : List String}
  {name : String} {id : ι}

theorem Indexed.mem_iff (indexed : Indexed position index names)
    (numbered : Function.Bijective position) :
    name ∈ names ↔ ∃ id, index[name]? = some id := by
  simp only [indexed.exact, List.mem_iff_getElem?]
  constructor
  · intro ⟨place, found⟩
    obtain ⟨id, rfl⟩ := numbered.2 place
    exact ⟨id, found⟩
  · intro ⟨id, found⟩
    exact ⟨position id, found⟩

theorem Indexed.absent (indexed : Indexed position index names)
    (numbered : Function.Bijective position) (absent : name ∉ names) : index[name]? = none := by
  rw [indexed.mem_iff numbered] at absent
  cases found : index[name]? with
  | none => rfl
  | some id => exact absurd ⟨id, found⟩ absent

/-- A new name gets the position behind all others. -/
theorem Indexed.push (indexed : Indexed position index names)
    (numbered : Function.Bijective position) (new : index[name]? = none)
    (next : position id = names.length) :
    Indexed position (index.insert name id) (names ++ [name]) := by
  have absent : name ∉ names := by
    rw [indexed.mem_iff numbered]
    simp [new]
  refine ⟨by simpa using indexed.unique.concat absent, fun name' id' => ?_⟩
  have earlier := indexed.exact name' id'
  by_cases last : position id' = names.length
  · -- The last position is that of the new name only.
    have same : id' = id := numbered.1 (last.trans next.symm)
    have beyond : index[name']? ≠ some id' := by
      intro found
      have stored := earlier.mp found
      rw [last, List.getElem?_eq_none (Nat.le_refl _)] at stored
      cases stored
    subst same
    by_cases equal : name' = name
    · simp [equal, last]
    · simp [last, Std.TreeMap.getElem?_insert, Std.LawfulEqCmp.compare_eq_iff_eq,
        Ne.symm equal, beyond]
  · have kept : (names ++ [name])[position id']? = names[position id']? := by
      by_cases within : position id' < names.length
      · exact List.getElem?_append_left within
      · rw [List.getElem?_eq_none (by simp; omega), List.getElem?_eq_none (by omega)]
    rw [kept, ← earlier, Std.TreeMap.getElem?_insert]
    by_cases equal : name = name'
    · subst equal
      have other : id ≠ id' := by
        rintro rfl
        exact last next
      simp [new, other]
    · simp [Std.LawfulEqCmp.compare_eq_iff_eq, equal]

end Index

namespace Program

inductive Call where
  | addFunction (unit : CodeUnit)
  | addConstructor (ctor : Constructor)
  | addType (shape : Shape)
  | internSymbol (name : String)

inductive Answer where
  | function (id : FunctionId)
  | constructor (id : ConstructorId)
  | type (id : TypeId)
  | symbol (id : SymbolId)
  | refused (error : TableError)
deriving DecidableEq

/-- A call that is refused leaves the program as it was. -/
def answer {ι : Type} (given : ι → Answer) (program : Program) :
    Except TableError (ι × Program) → Answer × Program
  | .ok (id, after) => (given id, after)
  | .error error => (.refused error, program)

def perform (program : Program) : Call → Answer × Program
  | .addFunction unit => answer .function program (program.addFunction unit)
  | .addConstructor ctor => answer .constructor program (program.addConstructor ctor)
  | .addType shape => answer .type program (program.addType shape)
  | .internSymbol name => answer .symbol program (program.internSymbol name)

/-- What a call can do: add an entry behind the others of its table, find a symbol, or nothing. -/
inductive Performs (program : Program) : Call → Answer → Program → Prop
  | function {unit : CodeUnit} (new : program.functionIndex[unit.name]? = none) :
      Performs program (.addFunction unit) (.function ⟨program.functions.size⟩)
        { program with
          functions := program.functions.push unit
          functionIndex := program.functionIndex.insert unit.name ⟨program.functions.size⟩ }
  | constructor {ctor : Constructor} (new : program.constructorIndex[ctor.name]? = none) :
      Performs program (.addConstructor ctor) (.constructor ⟨program.constructors.size⟩)
        { program with
          constructors := program.constructors.push ctor
          constructorIndex :=
            program.constructorIndex.insert ctor.name ⟨program.constructors.size⟩ }
  | type {shape : Shape} :
      Performs program (.addType shape) (.type ⟨program.types.size⟩)
        { program with types := program.types.push shape }
  | symbol {name : String} (new : program.symbolIndex[name]? = none) :
      Performs program (.internSymbol name) (.symbol ⟨program.symbols.size⟩)
        { program with
          symbols := program.symbols.push name
          symbolIndex := program.symbolIndex.insert name ⟨program.symbols.size⟩ }
  | known {name : String} {id : SymbolId} (found : program.symbolIndex[name]? = some id) :
      Performs program (.internSymbol name) (.symbol id) program
  | refused {call : Call} {error : TableError} : Performs program call (.refused error) program

section

variable {program : Program} {unit : CodeUnit} {ctor : Constructor} {shape : Shape} {name : String}

theorem addFunction_taken {id : FunctionId}
    (taken : program.functionIndex[unit.name]? = some id) :
    program.addFunction unit = .error (.duplicate .function unit.name) := by
  simp [addFunction, Std.TreeMap.contains_eq_isSome_getElem?, taken]

theorem addFunction_new (new : program.functionIndex[unit.name]? = none) :
    program.addFunction unit =
      if program.functions.size < tableLimit then .ok (⟨program.functions.size⟩, { program with
        functions := program.functions.push unit
        functionIndex := program.functionIndex.insert unit.name ⟨program.functions.size⟩ })
      else .error (.full .function) := by
  by_cases room : program.functions.size < tableLimit <;>
    simp [addFunction, Std.TreeMap.contains_eq_isSome_getElem?, new, nextPosition, room, bind,
      Except.bind, pure, Except.pure]

theorem addConstructor_taken {id : ConstructorId}
    (taken : program.constructorIndex[ctor.name]? = some id) :
    program.addConstructor ctor = .error (.duplicate .constructor ctor.name) := by
  simp [addConstructor, Std.TreeMap.contains_eq_isSome_getElem?, taken]

theorem addConstructor_new (new : program.constructorIndex[ctor.name]? = none) :
    program.addConstructor ctor =
      if program.constructors.size < tableLimit then
        .ok (⟨program.constructors.size⟩, { program with
          constructors := program.constructors.push ctor
          constructorIndex :=
            program.constructorIndex.insert ctor.name ⟨program.constructors.size⟩ })
      else .error (.full .constructor) := by
  by_cases room : program.constructors.size < tableLimit <;>
    simp [addConstructor, Std.TreeMap.contains_eq_isSome_getElem?, new, nextPosition, room, bind,
      Except.bind, pure, Except.pure]

theorem addType_eq : program.addType shape =
    if program.types.size < tableLimit then
      .ok (⟨program.types.size⟩, { program with types := program.types.push shape })
    else .error (.full .type) := by
  by_cases room : program.types.size < tableLimit <;>
    simp [addType, nextPosition, room, bind, Except.bind, pure, Except.pure]

theorem internSymbol_known {id : SymbolId} (known : program.symbolIndex[name]? = some id) :
    program.internSymbol name = .ok (id, program) := by
  simp [internSymbol, known]

theorem internSymbol_new (new : program.symbolIndex[name]? = none) :
    program.internSymbol name =
      if program.symbols.size < tableLimit then .ok (⟨program.symbols.size⟩, { program with
        symbols := program.symbols.push name
        symbolIndex := program.symbolIndex.insert name ⟨program.symbols.size⟩ })
      else .error (.full .symbol) := by
  by_cases room : program.symbols.size < tableLimit <;>
    simp [internSymbol, new, nextPosition, room, bind, Except.bind, pure, Except.pure]

theorem performs (program : Program) (call : Call) :
    program.Performs call (program.perform call).1 (program.perform call).2 := by
  cases call with
  | addFunction unit =>
      rw [perform]
      cases found : program.functionIndex[unit.name]? with
      | some id =>
          rw [addFunction_taken found]
          exact .refused
      | none =>
          rw [addFunction_new found]
          split
          · exact .function found
          · exact .refused
  | addConstructor ctor =>
      rw [perform]
      cases found : program.constructorIndex[ctor.name]? with
      | some id =>
          rw [addConstructor_taken found]
          exact .refused
      | none =>
          rw [addConstructor_new found]
          split
          · exact .constructor found
          · exact .refused
  | addType shape =>
      rw [perform, addType_eq]
      split
      · exact .type
      · exact .refused
  | internSymbol name =>
      rw [perform]
      cases found : program.symbolIndex[name]? with
      | some id =>
          rw [internSymbol_known found]
          exact .known found
      | none =>
          rw [internSymbol_new found]
          split
          · exact .symbol found
          · exact .refused

end

/-! ### Indexes and positions -/

structure Consistent (program : Program) : Prop where
  functions : Indexed FunctionId.index program.functionIndex
    (program.functions.toList.map CodeUnit.name)
  constructors : Indexed ConstructorId.index program.constructorIndex
    (program.constructors.toList.map Constructor.name)
  symbols : Indexed SymbolId.index program.symbolIndex program.symbols.toList

/-- What a position names, it names from then on. -/
structure Extends (before after : Program) : Prop where
  functions {id : FunctionId} {unit : CodeUnit} (found : before.function? id = some unit) :
    after.function? id = some unit
  constructors {id : ConstructorId} {ctor : Constructor}
    (found : before.constructor? id = some ctor) : after.constructor? id = some ctor
  types {id : TypeId} {shape : Shape} (found : before.type? id = some shape) :
    after.type? id = some shape
  symbols {id : SymbolId} {name : String} (found : before.symbol? id = some name) :
    after.symbol? id = some name

/-- A position that was given out names what it was given out for. -/
def Names (program : Program) : Call × Answer → Prop
  | (.addFunction unit, .function id) => program.function? id = some unit
  | (.addConstructor ctor, .constructor id) => program.constructor? id = some ctor
  | (.addType shape, .type id) => program.type? id = some shape
  | (.internSymbol name, .symbol id) => program.symbol? id = some name
  | (_, .refused _) => True
  | _ => False

variable {program after start : Program} {calls : List Call} {call : Call} {answer : Answer}
  {entries : List (Call × Answer)}

theorem indexed_empty {ι : Type} {position : ι → Nat} :
    Indexed position (∅ : Std.TreeMap String ι) [] :=
  ⟨.nil, by simp⟩

theorem consistent_empty : empty.Consistent :=
  ⟨indexed_empty, indexed_empty, indexed_empty⟩

theorem Consistent.performs (consistent : program.Consistent)
    (performs : program.Performs call answer after) : after.Consistent := by
  obtain ⟨functions, constructors, symbols⟩ := consistent
  cases performs with
  | function new =>
      refine ⟨?_, constructors, symbols⟩
      simpa using functions.push FunctionId.index_bijective new (by simp)
  | constructor new =>
      refine ⟨functions, ?_, symbols⟩
      simpa using constructors.push ConstructorId.index_bijective new (by simp)
  | symbol new =>
      refine ⟨functions, constructors, ?_⟩
      simpa using symbols.push SymbolId.index_bijective new (by simp)
  | _ => exact ⟨functions, constructors, symbols⟩

theorem getElem?_push_of_some {α : Type} {entries : Array α} {place : Nat} {entry added : α}
    (found : entries[place]? = some entry) : (entries.push added)[place]? = some entry := by
  have within := (Array.getElem?_eq_some_iff.mp found).1
  simp [Array.getElem?_push, Nat.ne_of_lt within, found]

theorem Performs.extends (performs : program.Performs call answer after) :
    program.Extends after := by
  cases performs with
  | function => exact ⟨getElem?_push_of_some, id, id, id⟩
  | constructor => exact ⟨id, getElem?_push_of_some, id, id⟩
  | type => exact ⟨id, id, getElem?_push_of_some, id⟩
  | symbol => exact ⟨id, id, id, getElem?_push_of_some⟩
  | _ => exact ⟨id, id, id, id⟩

theorem Extends.names {entry : Call × Answer} (grown : program.Extends after)
    (names : program.Names entry) : after.Names entry := by
  obtain ⟨call, answer⟩ := entry
  cases answer with
  | refused => cases call <;> trivial
  | function id =>
      cases call with
      | addFunction => exact grown.functions names
      | _ => cases names
  | constructor id =>
      cases call with
      | addConstructor => exact grown.constructors names
      | _ => cases names
  | type id =>
      cases call with
      | addType => exact grown.types names
      | _ => cases names
  | symbol id =>
      cases call with
      | internSymbol => exact grown.symbols names
      | _ => cases names

theorem Performs.names (performs : program.Performs call answer after)
    (consistent : program.Consistent) : after.Names (call, answer) := by
  cases performs with
  | function => exact Array.getElem?_push_size
  | constructor => exact Array.getElem?_push_size
  | type => exact Array.getElem?_push_size
  | symbol => exact Array.getElem?_push_size
  | known found =>
      have named := (consistent.symbols.exact _ _).mp found
      rwa [Array.getElem?_toList] at named
  | refused => cases call <;> trivial

/-- What holds of the tables after any calls. -/
structure Kept (program : Program) (entries : List (Call × Answer)) : Prop where
  consistent : program.Consistent
  names (entry : Call × Answer) (member : entry ∈ entries) : program.Names entry

theorem Kept.performs (kept : program.Kept entries)
    (performs : program.Performs call answer after) :
    after.Kept (entries ++ [(call, answer)]) where
  consistent := kept.consistent.performs performs
  names entry member := by
    rw [List.mem_append, List.mem_singleton] at member
    cases member with
    | inl earlier => exact performs.extends.names (kept.names entry earlier)
    | inr last => exact last ▸ performs.names kept.consistent

theorem kept_of_transcribed (transcribed : transcribe perform .empty calls = (entries, program)) :
    program.Kept entries := by
  apply holds_of_transcribed ⟨consistent_empty, by simp⟩ ?_ transcribed
  intro entries program call kept
  exact kept.performs (program.performs call)

end Program

/-! ### The check -/

/-- Two entries of a table have one name, or an index does not fit its table. -/
@[simp] def Defect.AboutNames : Defect → Prop
  | .duplicateFunction _ | .duplicateConstructor _ | .duplicateSymbol _ | .functionIndex
  | .constructorIndex | .symbolIndex => True
  | _ => False

/-- None of the defects is about names. -/
def Unnamed (defects : List Defect) : Prop :=
  ∀ defect ∈ defects, ¬ defect.AboutNames

section

variable {left right defects : List Defect}

@[simp] theorem unnamed_nil : Unnamed [] := by
  simp [Unnamed]

@[simp] theorem unnamed_append : Unnamed (left ++ right) ↔ Unnamed left ∧ Unnamed right := by
  simp [Unnamed, or_imp, forall_and]

theorem unnamed_flatMap {α : Type} {items : List α} {each : α → List Defect}
    (unnamed : ∀ item ∈ items, Unnamed (each item)) : Unnamed (items.flatMap each) := by
  intro defect member
  obtain ⟨item, listed, found⟩ := List.mem_flatMap.mp member
  exact unnamed item listed defect found

@[simp] theorem unnamed_demand {rule : Prop} [Decidable rule] {defect : Defect} :
    Unnamed (demand rule defect) ↔ rule ∨ ¬ defect.AboutNames := by
  unfold demand
  split <;> simp [Unnamed, *]

end

namespace Program

section

variable {program : Program} {place : Place} {unit : CodeUnit} {pc : Nat} {operand : Operand}

@[simp] theorem unnamed_rule {kept : Prop} [Decidable kept] {violation : Violation} :
    Unnamed (rule unit pc operand kept violation) :=
  unnamed_demand.mpr (.inr id)

@[simp] theorem unnamed_registers {regs : List Reg} :
    Unnamed (registersDefects unit pc operand regs) :=
  unnamed_flatMap fun _ _ => unnamed_rule

mutual

theorem unnamed_shape (shape : Shape) : Unnamed (program.shapeDefects place shape) := by
  match shape with
  | .constructed ctor fields =>
      rw [shapeDefects]
      split
      · simp [Unnamed]
      · simp [unnamed_shapes fields]
  | .literal (.function id) => simp [shapeDefects]
  | .any | .unit | .bool | .int | .str | .function | .coroutine | .node | .literal .unit
  | .literal (.bool _) | .literal (.int _) | .literal (.str _) =>
      simp [shapeDefects]

theorem unnamed_shapes (shapes : List Shape) :
    Unnamed (program.shapeListDefects place shapes) := by
  match shapes with
  | [] => simp [shapeListDefects]
  | shape :: rest => simp [shapeListDefects, unnamed_shape shape, unnamed_shapes rest]

end

theorem unnamed_call {id : FunctionId} {args : List Reg} :
    Unnamed (callDefects program unit pc id args) := by
  unfold callDefects
  split <;> exact unnamed_rule

theorem unnamed_instruction (code : Instruction) :
    Unnamed (program.instructionDefects unit pc code) := by
  cases code with
  | const dst value =>
      cases value <;> simp [instructionDefects, registerDefects, functionDefects]
  | call dst callee args =>
      cases callee <;> simp [instructionDefects, symbolDefects, unnamed_call]
  | makeNode dst ctor fields =>
      have node : Unnamed (nodeDefects program unit pc ctor fields) := by
        unfold nodeDefects
        split <;> exact unnamed_rule
      simp [instructionDefects, registerDefects, node]
  | _ =>
      simp [instructionDefects, registerDefects, targetDefects, functionDefects, symbolDefects,
        typeDefects, unnamed_call]

theorem unnamed_unit (unit : CodeUnit) : Unnamed (program.unitDefects unit) := by
  have ended : Unnamed (endDefects unit) := by
    unfold endDefects
    split
    · simp [Unnamed]
    · simp
  simp only [unitDefects, unnamed_append, unnamed_demand]
  refine ⟨⟨⟨⟨⟨.inr id, .inr id⟩, unnamed_shapes _⟩, ended⟩, .inr id⟩, ?_⟩
  apply unnamed_flatMap
  intro entry _
  exact unnamed_instruction _

end

theorem Consistent.unnamed {program : Program} (consistent : program.Consistent) :
    Unnamed program.defects := by
  have functions : nameDefects .duplicateFunction .functionIndex FunctionId.index
      program.functionIndex (program.functions.toList.map CodeUnit.name) = [] :=
    (nameDefects_eq_nil FunctionId.index_bijective).mpr consistent.functions
  have constructors : nameDefects .duplicateConstructor .constructorIndex ConstructorId.index
      program.constructorIndex (program.constructors.toList.map Constructor.name) = [] :=
    (nameDefects_eq_nil ConstructorId.index_bijective).mpr consistent.constructors
  have symbols : nameDefects .duplicateSymbol .symbolIndex SymbolId.index program.symbolIndex
      program.symbols.toList = [] :=
    (nameDefects_eq_nil SymbolId.index_bijective).mpr consistent.symbols
  rw [defects, functions, constructors, symbols]
  simp only [unnamed_append, unnamed_demand, unnamed_nil]
  refine ⟨⟨⟨⟨⟨.inr id, trivial⟩, trivial⟩, trivial⟩, ?_⟩, ?_⟩
  · apply unnamed_flatMap
    intro entry _
    exact unnamed_shape _
  · apply unnamed_flatMap
    intro unit _
    exact unnamed_unit unit

/-- A check that fails does so for another reason than names. -/
theorem Consistent.check {program : Program} {defect : Defect} (consistent : program.Consistent)
    (failed : program.check = .error defect) : ¬ defect.AboutNames := by
  have unnamed := consistent.unnamed
  unfold Program.check at failed
  split at failed
  · cases failed
  · next first rest found =>
      cases failed
      exact unnamed _ (by simp [found])

/-! ### Whole sequences of calls -/

/-- No table is full. -/
structure Roomy (program : Program) : Prop where
  functions : program.functions.size < tableLimit
  constructors : program.constructors.size < tableLimit
  types : program.types.size < tableLimit
  symbols : program.symbols.size < tableLimit

/-- Names and positions of each table belong together one by one. -/
structure Paired (program : Program) : Prop where
  functions (name : String) (id : FunctionId) : program.functionIndex[name]? = some id ↔
    ∃ unit, program.function? id = some unit ∧ unit.name = name
  constructors (name : String) (id : ConstructorId) : program.constructorIndex[name]? = some id ↔
    ∃ ctor, program.constructor? id = some ctor ∧ ctor.name = name
  symbols (name : String) (id : SymbolId) :
    program.symbolIndex[name]? = some id ↔ program.symbol? id = some name

theorem Consistent.paired {program : Program} (consistent : program.Consistent) :
    program.Paired where
  functions name id := by
    rw [consistent.functions.exact, List.getElem?_map, Option.map_eq_some_iff,
      Array.getElem?_toList]
    rfl
  constructors name id := by
    rw [consistent.constructors.exact, List.getElem?_map, Option.map_eq_some_iff,
      Array.getElem?_toList]
    rfl
  symbols name id := by
    rw [consistent.symbols.exact, Array.getElem?_toList]
    rfl

/-- What the next call answers: a new name is added, a known one is refused or found. -/
structure Grows (program : Program) : Prop where
  function (unit : CodeUnit) (new : ∀ known ∈ program.functions, known.name ≠ unit.name) :
    ∃ id after, program.perform (.addFunction unit) = (.function id, after) ∧
      after.function? id = some unit
  functionTaken {unit known : CodeUnit} (taken : known ∈ program.functions)
    (same : known.name = unit.name) : program.perform (.addFunction unit) =
      (.refused (.duplicate .function unit.name), program)
  constructor (ctor : Constructor)
    (new : ∀ known ∈ program.constructors, known.name ≠ ctor.name) :
    ∃ id after, program.perform (.addConstructor ctor) = (.constructor id, after) ∧
      after.constructor? id = some ctor
  constructorTaken {ctor known : Constructor} (taken : known ∈ program.constructors)
    (same : known.name = ctor.name) : program.perform (.addConstructor ctor) =
      (.refused (.duplicate .constructor ctor.name), program)
  type (shape : Shape) : ∃ id after, program.perform (.addType shape) = (.type id, after) ∧
    after.type? id = some shape
  symbol (name : String) : ∃ id after,
    program.perform (.internSymbol name) = (.symbol id, after) ∧ after.symbol? id = some name ∧
      (name ∈ program.symbols → after = program)

theorem Consistent.grows {program : Program} (consistent : program.Consistent)
    (roomy : program.Roomy) : program.Grows where
  function unit new := by
    have absent : unit.name ∉ program.functions.toList.map CodeUnit.name := by simpa using new
    have added := addFunction_new (consistent.functions.absent FunctionId.index_bijective absent)
    rw [if_pos roomy.functions] at added
    refine ⟨_, _, by rw [perform, added]; rfl, ?_⟩
    exact Array.getElem?_push_size
  functionTaken taken same := by
    obtain ⟨id, found⟩ := (consistent.functions.mem_iff FunctionId.index_bijective).mp
      (List.mem_map_of_mem (Array.mem_toList_iff.mpr taken))
    rw [same] at found
    rw [perform, addFunction_taken found]
    rfl
  constructor ctor new := by
    have absent : ctor.name ∉ program.constructors.toList.map Constructor.name := by
      simpa using new
    have added :=
      addConstructor_new (consistent.constructors.absent ConstructorId.index_bijective absent)
    rw [if_pos roomy.constructors] at added
    refine ⟨_, _, by rw [perform, added]; rfl, ?_⟩
    exact Array.getElem?_push_size
  constructorTaken taken same := by
    obtain ⟨id, found⟩ := (consistent.constructors.mem_iff ConstructorId.index_bijective).mp
      (List.mem_map_of_mem (Array.mem_toList_iff.mpr taken))
    rw [same] at found
    rw [perform, addConstructor_taken found]
    rfl
  type shape := by
    have added := @addType_eq program shape
    rw [if_pos roomy.types] at added
    refine ⟨_, _, by rw [perform, added]; rfl, ?_⟩
    exact Array.getElem?_push_size
  symbol name := by
    cases found : program.symbolIndex[name]? with
    | some id =>
        have named := (consistent.paired.symbols name id).mp found
        exact ⟨id, program, by rw [perform, internSymbol_known found]; rfl, named, fun _ => rfl⟩
    | none =>
        have added := internSymbol_new found
        rw [if_pos roomy.symbols] at added
        refine ⟨_, _, by rw [perform, added]; rfl, ?_, fun known => ?_⟩
        · exact Array.getElem?_push_size
        obtain ⟨id, found'⟩ := (consistent.symbols.mem_iff SymbolId.index_bijective).mp
          (Array.mem_toList_iff.mpr known)
        cases found.symm.trans found'

/-- Whatever was added, the indexes are the tables read backwards, and what was given out stays. -/
theorem tabled (transcribed : transcribe perform .empty calls = (entries, program))
    (roomy : program.Roomy) :
    program.Consistent ∧ program.Paired ∧ (∀ entry ∈ entries, program.Names entry) ∧
      (∀ name name' id id', (.internSymbol name, .symbol id) ∈ entries →
        (.internSymbol name', .symbol id') ∈ entries → (id = id' ↔ name = name')) ∧
      program.Grows ∧ ∀ defect, program.check = .error defect → ¬ defect.AboutNames := by
  have kept := kept_of_transcribed transcribed
  have consistent := kept.consistent
  refine ⟨consistent, consistent.paired, kept.names, ?_, consistent.grows roomy,
    fun defect => consistent.check⟩
  intro name name' id id' given given'
  have named : program.symbol? id = some name := kept.names _ given
  have named' : program.symbol? id' = some name' := kept.names _ given'
  constructor
  · intro same
    simpa [same, named'] using named.symm
  · intro same
    have found := (consistent.paired.symbols name id).mpr named
    have found' := (consistent.paired.symbols name' id').mpr named'
    simpa [same, found'] using found.symm

/-- Adds entries under new names and under names that are taken. -/
def fillingCalls : List Call :=
  [.internSymbol "x", .addFunction ⟨"main", 1, 0, [], #[.const 0 .unit, .return 0]⟩,
    .addConstructor ⟨"pair", 2⟩, .internSymbol "y", .addType (.constructed ⟨1⟩ []),
    .addFunction ⟨"main", 0, 0, [], #[]⟩, .addConstructor ⟨"pair", 3⟩, .internSymbol "x"]

def filledBy (calls : List Call) : List (Call × Answer) × Program :=
  transcribe perform .empty calls

theorem tabled_filling :
    (filledBy fillingCalls).1.map Prod.snd =
        [.symbol ⟨0⟩, .function ⟨0⟩, .constructor ⟨0⟩, .symbol ⟨1⟩, .type ⟨0⟩,
          .refused (.duplicate .function "main"), .refused (.duplicate .constructor "pair"),
          .symbol ⟨0⟩] ∧
      (filledBy fillingCalls).2.Paired ∧ (filledBy fillingCalls).2.Grows ∧
      (filledBy fillingCalls).2.check =
        .error (.violation (.type 0) (.unknownId .constructor 1)) := by
  have transcribed : transcribe perform .empty fillingCalls =
      ((filledBy fillingCalls).1, (filledBy fillingCalls).2) := rfl
  have roomy : (filledBy fillingCalls).2.Roomy :=
    ⟨by decide +kernel, by decide +kernel, by decide +kernel, by decide +kernel⟩
  obtain ⟨-, paired, -, -, grows, -⟩ := tabled transcribed roomy
  exact ⟨by decide +kernel, paired, grows, by decide +kernel⟩

end Program

end Backtrack
