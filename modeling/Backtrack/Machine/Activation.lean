import Backtrack.Machine.Basic

/-!
Activations from beginning to end. An activation begins with a frame in a container of its own
under the global one. It ends with the release of its containers: the chain from its innermost
container to its base container, but never the global one.
-/

namespace Backtrack

/-- A list up to its first member with a property, which is included. -/
def through {α : Type} (last : α → Bool) (items : List α) : List α :=
  items.takeWhile (!last ·) ++ (items.find? last).toList

/-- The containers that end with an activation, innermost first. -/
def Machine.containersOf (machine : Machine) (frame : Frame) : List ContainerId :=
  through (· = frame.base)
    ((machine.arena.ancestry frame.scope).takeWhile (· ≠ machine.globals))

namespace Action

/-- A frame for a function, with the arguments in its first registers. -/
def newFrame (function : FunctionId) (args : List Value) (role : Role) : Action Frame := do
  let machine ← get
  match machine.program.function? function with
  | none => throw (.unknownId .function function.index)
  | some unit =>
      ensure (unit.parameterCount = args.length)
        (.arityMismatch unit.name unit.parameterCount args.length)
      let scope ← allocContainer machine.globals
      let id ← freshFrameId
      ofExcept ((Frame.new id function unit.registerCount role scope).withArguments args)

def releaseFrame (frame : Frame) : Action Unit := do
  ((← get).containersOf frame).forM releaseContainer

end Action

end Backtrack
