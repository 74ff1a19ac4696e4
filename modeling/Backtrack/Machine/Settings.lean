/-!
Limits and switches of a machine.
-/

namespace Backtrack

structure Settings where
  /-- Frames in one coroutine. -/
  maxFrames : Nat
  /-- Coroutines ever created, with the root. -/
  maxCoroutines : Nat
  maxOpenRegions : Nat
  collectCounters : Bool
  /-- Whether a program is checked before it starts. -/
  checkProgram : Bool
deriving DecidableEq, Repr

def Settings.standard : Settings where
  maxFrames := 4096
  maxCoroutines := 65536
  maxOpenRegions := 1024
  collectCounters := false
  checkProgram := true

instance : Inhabited Settings := ⟨.standard⟩

end Backtrack
