import Backtrack.Value.Display

/-!
Conditions are what a running program raises and catches. A condition carries its cause and the
activations at the raise point, innermost first; a handler receives its value.
-/

namespace Backtrack

inductive Cause where
  /-- No candidate of an overloaded name accepted the arguments. -/
  | unresolvedCall (name : String) (arity : Nat)
  | noSolution
  | undefinedVariable (name : String)
  | thrown (value : Value)
deriving DecidableEq

def Cause.text : Cause → String
  | .unresolvedCall name arity => s!"no alternative of `{name}` accepts {arity} argument(s)"
  | .noSolution => "no solution"
  | .undefinedVariable name => s!"undefined variable `{name}`"
  | .thrown value => s!"thrown: {value.text}"

/-- One activation of a trace. -/
structure TraceEntry where
  function : String
  pc : Nat
deriving DecidableEq, Repr

/-- One line for each activation. -/
def traceText (trace : List TraceEntry) : String :=
  "\n".intercalate (trace.map fun entry => s!"  at {entry.function} (pc {entry.pc})")

structure Condition where
  cause : Cause
  trace : List TraceEntry
deriving DecidableEq

namespace Condition

/-- A thrown value reaches its handler unchanged; other causes arrive as their text. -/
def value (condition : Condition) : Value :=
  match condition.cause with
  | .thrown value => value
  | cause => .str cause.text

def text (condition : Condition) : String :=
  if condition.trace.isEmpty then condition.cause.text
  else condition.cause.text ++ "\n" ++ traceText condition.trace

end Condition

end Backtrack
