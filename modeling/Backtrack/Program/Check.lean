import Backtrack.Program.Basic
import Backtrack.Program.Defect

/-!
The check of a program before it runs. `Program.defects` lists everything that is wrong, in reading
order: the entry, the names and their indexes, the types, then each function with its parameters
and its code. A program passes when the list is empty and is rejected with its first defect.
-/

namespace Backtrack

/-- A rule that is kept has no defect. -/
def demand (rule : Prop) [Decidable rule] (defect : Defect) : List Defect :=
  if rule then [] else [defect]

/-- The names that occur earlier in the list, or among those already seen. -/
def repeated (seen : List String) : List String → List String
  | [] => []
  | name :: rest =>
      if name ∈ seen then name :: repeated seen rest else repeated (name :: seen) rest

/-- An index fits a list of names when it maps each name to its position and nothing else. -/
def indexFits {ι : Type} (position : ι → Nat) (index : Std.TreeMap String ι) (names : List String) :
    Bool :=
  (index.keys ++ names).all fun name => index[name]?.map position = names.idxOf? name

namespace Program

section Rules

variable (program : Program)

mutual

def shapeDefects (place : Place) : Shape → List Defect
  | .literal (.function id) =>
      demand (program.function? id).isSome (.violation place (.unknownId .function id.index))
  | .constructed ctor fields =>
      match program.constructor? ctor with
      | none => [.violation place (.unknownId .constructor ctor.index)]
      | some decl =>
          demand (decl.arity = fields.length)
            (.violation place (.shapeArity decl.name fields.length decl.arity)) ++
          shapeListDefects place fields
  | _ => []

def shapeListDefects (place : Place) : List Shape → List Defect
  | [] => []
  | shape :: rest => shapeDefects place shape ++ shapeListDefects place rest

end

variable (unit : CodeUnit) (pc : Nat)

/-- A defect of the instruction at `pc`. -/
def rule (operand : Operand) (kept : Prop) [Decidable kept] (violation : Violation) : List Defect :=
  demand kept (.violation (.instruction unit.name pc operand) violation)

def registerDefects (operand : Operand) (reg : Reg) : List Defect :=
  rule unit pc operand (reg < unit.registerCount) (.register reg unit.registerCount)

def registersDefects (operand : Operand) (regs : List Reg) : List Defect :=
  regs.flatMap (registerDefects unit pc operand)

def targetDefects (operand : Operand) (target : Nat) : List Defect :=
  rule unit pc operand (target < unit.code.size) (.target target unit.code.size)

def functionDefects (id : FunctionId) : List Defect :=
  rule unit pc .any (program.function? id).isSome (.unknownId .function id.index)

def symbolDefects (id : SymbolId) : List Defect :=
  rule unit pc .any (program.symbol? id).isSome (.unknownId .symbol id.index)

def typeDefects (id : TypeId) : List Defect :=
  rule unit pc .any (program.type? id).isSome (.unknownId .type id.index)

def nodeDefects (ctor : ConstructorId) (fields : List Reg) : List Defect :=
  match program.constructor? ctor with
  | none => rule unit pc .any False (.unknownId .constructor ctor.index)
  | some decl =>
      rule unit pc .any (decl.arity = fields.length)
        (.nodeArity decl.name decl.arity fields.length)

def callDefects (id : FunctionId) (args : List Reg) : List Defect :=
  match program.function? id with
  | none => rule unit pc .any False (.unknownId .function id.index)
  | some callee =>
      rule unit pc .any (callee.parameterCount = args.length)
        (.callArity callee.name callee.parameterCount args.length)

def instructionDefects : Instruction → List Defect
  | .const dst value =>
      registerDefects unit pc .constDst dst ++
      match value with
      | .function id => functionDefects program unit pc id
      | _ => []
  | .copy dst src | .move dst src =>
      registerDefects unit pc .dst dst ++ registerDefects unit pc .src src
  | .int _ dst a b | .equal dst a b => registersDefects unit pc .any [dst, a, b]
  | .not dst value => registersDefects unit pc .any [dst, value]
  | .makeNode dst ctor fields =>
      registerDefects unit pc .dst dst ++ registersDefects unit pc .field fields ++
      nodeDefects program unit pc ctor fields
  | .field dst node _ => registersDefects unit pc .any [dst, node]
  | .hasShape dst value type =>
      registersDefects unit pc .any [dst, value] ++ typeDefects program unit pc type
  | .loadVar reg name | .storeVar name reg | .declareVar name reg =>
      registerDefects unit pc .any reg ++ symbolDefects program unit pc name
  | .declareFunction name function =>
      symbolDefects program unit pc name ++ functionDefects program unit pc function
  | .pushScope | .popScope | .openRegion | .commitRegion | .rollbackRegion | .noSolution
  | .popCatch | .trap _ => []
  | .call dst callee args =>
      registersDefects unit pc .callDst dst.toList ++ registersDefects unit pc .callArg args ++
      match callee with
      | .direct id => callDefects program unit pc id args
      | .overloaded name => symbolDefects program unit pc name
  | .return value | .throw value => registerDefects unit pc .any value
  | .createCoroutine dst function args =>
      registerDefects unit pc .dst dst ++ registersDefects unit pc .coroutineArg args ++
      callDefects program unit pc function args
  | .enterCoroutine dst coroutine out =>
      registersDefects unit pc .any (coroutine :: dst.toList ++ out.toList)
  | .hasNext dst coroutine | .copyCoroutine dst coroutine =>
      registersDefects unit pc .any [dst, coroutine]
  | .yield value => registersDefects unit pc .any value.toList
  | .pushCatch target dst =>
      targetDefects unit pc .catchTarget target ++ registersDefects unit pc .any dst.toList
  | .jump target => targetDefects unit pc .any target
  | .branch condition whenTrue whenFalse =>
      registerDefects unit pc .any condition ++ targetDefects unit pc .whenTrue whenTrue ++
      targetDefects unit pc .whenFalse whenFalse

/-- Code ends in a terminator. -/
def endDefects : List Defect :=
  match unit.code.back? with
  | none => [.emptyBody unit.name]
  | some last => demand last.isTerminator (.openEnd unit.name)

def unitDefects : List Defect :=
  demand (unit.parameterCount ≤ unit.registerCount)
    (.tooManyParameters unit.name unit.parameterCount unit.registerCount) ++
  demand (unit.parameters.length = unit.parameterCount)
    (.parameterShapes unit.name unit.parameters.length unit.parameterCount) ++
  shapeListDefects program (.parameters unit.name) unit.parameters ++
  endDefects unit ++
  demand (unit.code.size < tableLimit) (.tooLong unit.name) ++
  unit.code.toList.zipIdx.flatMap fun (instruction, pc) =>
    instructionDefects program unit pc instruction

end Rules

/-- Every name of a table is its own, and the index fits the table. -/
def nameDefects {ι : Type} (duplicate : String → Defect) (mismatch : Defect) (position : ι → Nat)
    (index : Std.TreeMap String ι) (names : List String) : List Defect :=
  (repeated [] names).map duplicate ++ demand (indexFits position index names) mismatch

def defects (program : Program) : List Defect :=
  demand (program.entry.index < program.functions.size)
    (.unknownEntry program.entry.index program.functions.size) ++
  nameDefects .duplicateFunction .functionIndex FunctionId.index program.functionIndex
    (program.functions.toList.map CodeUnit.name) ++
  nameDefects .duplicateConstructor .constructorIndex ConstructorId.index program.constructorIndex
    (program.constructors.toList.map Constructor.name) ++
  nameDefects .duplicateSymbol .symbolIndex SymbolId.index program.symbolIndex
    program.symbols.toList ++
  (program.types.toList.zipIdx.flatMap fun (shape, position) =>
    shapeDefects program (.type position) shape) ++
  program.functions.toList.flatMap (unitDefects program)

def check (program : Program) : Except Defect Unit :=
  match program.defects with
  | [] => .ok ()
  | defect :: _ => .error defect

end Program

end Backtrack
