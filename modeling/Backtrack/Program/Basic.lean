import Backtrack.Program.Instruction
import Backtrack.Shape
import Std.Data.TreeMap

/-!
A program is a set of code units with the tables they refer to. Functions, constructors and symbols
have names, and every named table is paired with an index from name to position; types are
positions only. The operations that grow a table keep its index in step.
-/

namespace Backtrack

structure CodeUnit where
  name : String
  /-- Registers of one activation. The parameters arrive in the first of them. -/
  registerCount : Nat
  parameterCount : Nat
  /-- What overload selection asks of the arguments. -/
  parameters : List Shape
  code : Array Instruction
deriving Inhabited

/-- Arguments are acceptable when their number is right and each has the shape of its parameter. -/
def CodeUnit.accepts (unit : CodeUnit) (args : List Value) : Bool :=
  unit.parameterCount = args.length && Shape.acceptsAll unit.parameters args

structure Constructor where
  name : String
  arity : Nat
deriving DecidableEq, Inhabited

structure Program where
  functions : Array CodeUnit
  functionIndex : Std.TreeMap String FunctionId
  constructors : Array Constructor
  constructorIndex : Std.TreeMap String ConstructorId
  types : Array Shape
  symbols : Array String
  symbolIndex : Std.TreeMap String SymbolId
  entry : FunctionId
deriving Inhabited

/-- Why an entry could not be added to a table. -/
inductive TableError where
  | duplicate (entity : Entity) (name : String)
  | full (entity : Entity)
deriving DecidableEq

/-- How a name that is already in a table is reported. -/
def duplicateEntry (entity name : String) : String :=
  s!"duplicate {entity} `{name}`"

/-- How a full table is reported. -/
def tableOverflow (entity : String) : String :=
  s!"{entity} table overflow"

def TableError.message : TableError → String
  | .duplicate entity name => duplicateEntry entity.text name
  | .full entity => tableOverflow entity.text

namespace Program

def empty : Program where
  functions := #[]
  functionIndex := ∅
  constructors := #[]
  constructorIndex := ∅
  types := #[]
  symbols := #[]
  symbolIndex := ∅
  entry := ⟨0⟩

def function? (program : Program) (id : FunctionId) : Option CodeUnit :=
  program.functions[id.index]?

def constructor? (program : Program) (id : ConstructorId) : Option Constructor :=
  program.constructors[id.index]?

def type? (program : Program) (id : TypeId) : Option Shape :=
  program.types[id.index]?

def symbol? (program : Program) (id : SymbolId) : Option String :=
  program.symbols[id.index]?

/-- A function's name in messages and traces; its number where it has none. -/
def functionName (program : Program) (id : FunctionId) : String :=
  match program.function? id with
  | some unit => unit.name
  | none => s!"fn#{id.index}"

def symbolName (program : Program) (id : SymbolId) : String :=
  (program.symbol? id).getD s!"#{id.index}"

/-- The position of the next entry of a table that has `size` of them. -/
def nextPosition (entity : Entity) (size : Nat) : Except TableError Nat :=
  if size < tableLimit then .ok size else .error (.full entity)

def addFunction (program : Program) (unit : CodeUnit) : Except TableError (FunctionId × Program) :=
  if program.functionIndex.contains unit.name then .error (.duplicate .function unit.name)
  else do
    let id := ⟨← nextPosition .function program.functions.size⟩
    return (id, { program with
      functions := program.functions.push unit
      functionIndex := program.functionIndex.insert unit.name id })

def addConstructor (program : Program) (ctor : Constructor) :
    Except TableError (ConstructorId × Program) :=
  if program.constructorIndex.contains ctor.name then .error (.duplicate .constructor ctor.name)
  else do
    let id := ⟨← nextPosition .constructor program.constructors.size⟩
    return (id, { program with
      constructors := program.constructors.push ctor
      constructorIndex := program.constructorIndex.insert ctor.name id })

def addType (program : Program) (shape : Shape) : Except TableError (TypeId × Program) := do
  let id := ⟨← nextPosition .type program.types.size⟩
  return (id, { program with types := program.types.push shape })

/-- The position of a symbol, which joins the table on first use. -/
def internSymbol (program : Program) (name : String) : Except TableError (SymbolId × Program) :=
  match program.symbolIndex[name]? with
  | some id => .ok (id, program)
  | none => do
      let id := ⟨← nextPosition .symbol program.symbols.size⟩
      return (id, { program with
        symbols := program.symbols.push name
        symbolIndex := program.symbolIndex.insert name id })

end Program

end Backtrack
