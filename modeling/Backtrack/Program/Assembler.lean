import Backtrack.Program.Basic

/-!
Assembling a code unit with labels. A label is bound at most once, to the instruction that is emitted
next. An instruction that refers to labels is emitted without its targets and noted as a patch, and
`finish` writes the targets into the code once all labels are known.
-/

namespace Backtrack

structure Label where
  index : Nat
deriving DecidableEq, Repr, Inhabited

/-- Where an instruction was emitted without its targets, and the labels that they go to. -/
inductive Patch where
  | jump (position : Nat) (target : Label)
  | branch (position : Nat) (whenTrue whenFalse : Label)
  | pushCatch (position : Nat) (target : Label)
deriving DecidableEq, Repr, Inhabited

inductive AssemblyError where
  | unboundLabel (label : Label) (function : String)
  | reboundLabel (label : Label) (function : String)
  | tooLong (function : String)
deriving DecidableEq, Repr

def AssemblyError.message : AssemblyError → String
  | .unboundLabel label function => s!"label {label.index} was never bound in `{function}`"
  | .reboundLabel label function => s!"label {label.index} bound twice in `{function}`"
  | .tooLong function => s!"function `{function}` is too large (pc overflow)"

structure Assembler where
  /-- What was emitted so far. -/
  unit : CodeUnit
  /-- What each created label is bound to. -/
  labels : Array (Option Nat)
  patches : Array Patch
deriving Inhabited

namespace Assembler

/-- An empty unit whose parameters accept any value. -/
def new (name : String) (parameterCount registerCount : Nat) : Assembler where
  unit := {
    name
    registerCount
    parameterCount
    parameters := List.replicate parameterCount .any
    code := #[] }
  labels := #[]
  patches := #[]

def withParameters (assembler : Assembler) (parameters : List Shape) : Assembler :=
  { assembler with unit := { assembler.unit with parameters } }

/-- The position of the instruction that is emitted next. -/
def position (assembler : Assembler) : Nat :=
  assembler.unit.code.size

def label (assembler : Assembler) : Label × Assembler :=
  (⟨assembler.labels.size⟩, { assembler with labels := assembler.labels.push none })

/-- Binds a label that was created and is still free to the instruction that comes next. -/
def bind (assembler : Assembler) (label : Label) : Except AssemblyError Assembler :=
  if assembler.position < tableLimit then
    match assembler.labels[label.index]? with
    | some none =>
        .ok { assembler with
          labels := assembler.labels.setIfInBounds label.index (some assembler.position) }
    | _ => .error (.reboundLabel label assembler.unit.name)
  else .error (.tooLong assembler.unit.name)

def emit (assembler : Assembler) (instruction : Instruction) : Assembler :=
  { assembler with
    unit := { assembler.unit with code := assembler.unit.code.push instruction } }

/-- Notes a patch. -/
def note (assembler : Assembler) (patch : Patch) : Assembler :=
  { assembler with patches := assembler.patches.push patch }

def jump (assembler : Assembler) (target : Label) : Assembler :=
  (assembler.note (.jump assembler.position target)).emit (.jump 0)

def branch (assembler : Assembler) (condition : Reg) (whenTrue whenFalse : Label) : Assembler :=
  (assembler.note (.branch assembler.position whenTrue whenFalse)).emit (.branch condition 0 0)

def pushCatch (assembler : Assembler) (target : Label) (dst : Option Reg) : Assembler :=
  (assembler.note (.pushCatch assembler.position target)).emit (.pushCatch 0 dst)

def resolve (assembler : Assembler) (label : Label) : Except AssemblyError Nat :=
  match assembler.labels[label.index]? with
  | some (some pc) => .ok pc
  | _ => .error (.unboundLabel label assembler.unit.name)

/-- Writes the targets of a patch. Where the code has no instruction of the sort that the patch is
for, it stays as it is. -/
def patch (assembler : Assembler) (code : Array Instruction) :
    Patch → Except AssemblyError (Array Instruction)
  | .jump position target => do
      let pc ← assembler.resolve target
      match code[position]? with
      | some (.jump _) => return code.setIfInBounds position (.jump pc)
      | _ => return code
  | .branch position whenTrue whenFalse => do
      let pcTrue ← assembler.resolve whenTrue
      let pcFalse ← assembler.resolve whenFalse
      match code[position]? with
      | some (.branch condition _ _) =>
          return code.setIfInBounds position (.branch condition pcTrue pcFalse)
      | _ => return code
  | .pushCatch position target => do
      let pc ← assembler.resolve target
      match code[position]? with
      | some (.pushCatch _ dst) => return code.setIfInBounds position (.pushCatch pc dst)
      | _ => return code

/-- The unit with all targets, the patches written in the order in which they were noted. -/
def finish (assembler : Assembler) : Except AssemblyError CodeUnit := do
  let code ← assembler.patches.toList.foldlM assembler.patch assembler.unit.code
  return { assembler.unit with code }

end Assembler

end Backtrack
