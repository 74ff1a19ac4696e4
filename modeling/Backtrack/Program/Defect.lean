import Backtrack.Identifiers

/-!
What can be wrong with a program, and where. A defect is a cause; `Defect.message` words it.
-/

namespace Backtrack

/-- The operand of an instruction that a defect is about, where messages tell operands apart. -/
inductive Operand where
  | any | constDst | dst | src | field | callDst | callArg | coroutineArg | catchTarget
  | whenTrue | whenFalse
deriving DecidableEq, Repr

def Operand.text : Operand → String
  | .any => ""
  | .constDst => ": const dst"
  | .dst => ": dst"
  | .src => ": src"
  | .field => ": node field"
  | .callDst => ": call dst"
  | .callArg => ": call arg"
  | .coroutineArg => ": coroutine arg"
  | .catchTarget => ": catch target"
  | .whenTrue => ": then"
  | .whenFalse => ": else"

inductive Place where
  | type (position : Nat)
  | parameters (function : String)
  | instruction (function : String) (pc : Nat) (operand : Operand)
deriving DecidableEq, Repr

def Place.text : Place → String
  | .type position => s!"type #{position}"
  | .parameters function => s!"function `{function}` params"
  | .instruction function pc operand => s!"function `{function}` pc {pc}{operand.text}"

/-- A rule that a shape or an instruction breaks. -/
inductive Violation where
  | unknownId (entity : Entity) (index : Nat)
  | shapeArity (constructor : String) (fields arity : Nat)
  | register (reg count : Nat)
  | target (pc length : Nat)
  | nodeArity (constructor : String) (arity fields : Nat)
  | callArity (function : String) (parameters args : Nat)
deriving DecidableEq, Repr

def Violation.text : Violation → String
  | .unknownId entity index => s!"invalid {entity.text} id {index}"
  | .shapeArity constructor fields arity =>
      s!"shape for `{constructor}` has {fields} fields but arity is {arity}"
  | .register reg count => s!"reg {reg} out of range (reg_count={count})"
  | .target pc length => s!"pc {pc} out of range (code_len={length})"
  | .nodeArity constructor arity fields =>
      s!"constructor `{constructor}` expects {arity} fields but got {fields}"
  | .callArity function parameters args =>
      s!"`{function}` expects {parameters} args but got {args}"

inductive Defect where
  | unknownEntry (index functions : Nat)
  | duplicateFunction (name : String)
  | duplicateConstructor (name : String)
  | duplicateSymbol (name : String)
  | functionIndex
  | constructorIndex
  | symbolIndex
  | tooManyParameters (function : String) (parameters registers : Nat)
  | parameterShapes (function : String) (shapes parameters : Nat)
  | emptyBody (function : String)
  | openEnd (function : String)
  | tooLong (function : String)
  | violation (place : Place) (rule : Violation)
deriving DecidableEq, Repr

def Defect.message : Defect → String
  | .unknownEntry index functions =>
      s!"entry function id {index} out of range (functions={functions})"
  | .duplicateFunction name => s!"duplicate function name `{name}`"
  | .duplicateConstructor name => s!"duplicate constructor name `{name}`"
  | .duplicateSymbol name => s!"duplicate symbol `{name}`"
  | .functionIndex => "function_ids map does not match functions table"
  | .constructorIndex => "constructor_ids map does not match constructors table"
  | .symbolIndex => "symbol_ids map does not match symbols table"
  | .tooManyParameters function parameters registers =>
      s!"function `{function}` has param_count {parameters} > reg_count {registers}"
  | .parameterShapes function shapes parameters =>
      s!"function `{function}` declares {shapes} parameter shapes for {parameters} parameters"
  | .emptyBody function => s!"function `{function}` has an empty body"
  | .openEnd function => s!"function `{function}` can fall off the end of its code"
  | .tooLong function => s!"function `{function}` instruction stream too large"
  | .violation place rule => s!"{place.text}: {rule.text}"

/-- How a rejection is reported. -/
def rejection (message : String) : String :=
  s!"verify error: {message}"

end Backtrack
