import Mathlib.Data.List.Induction

/-!
Transcripts: calls made one after the other on a state, each with what it answered. What holds before
the first call and is kept by every call holds of a whole transcript.
-/

namespace Backtrack

variable {σ κ ρ : Type} {perform : σ → κ → ρ × σ} {start state : σ} {calls : List κ} {call : κ}
  {entries : List (κ × ρ)}

/-- The calls with their answers, the first of them first, and the state that they leave. -/
def transcribe (perform : σ → κ → ρ × σ) (start : σ) (calls : List κ) : List (κ × ρ) × σ :=
  calls.foldl (fun (entries, state) call =>
    (entries ++ [(call, (perform state call).1)], (perform state call).2)) ([], start)

theorem transcribe_concat (earlier : List κ) :
    transcribe perform start (earlier ++ [call]) =
      ((transcribe perform start earlier).1 ++
          [(call, (perform (transcribe perform start earlier).2 call).1)],
        (perform (transcribe perform start earlier).2 call).2) := by
  simp [transcribe]

theorem calls_transcribe (calls : List κ) :
    (transcribe perform start calls).1.map Prod.fst = calls := by
  induction calls using List.reverseRecOn with
  | nil => rfl
  | append_singleton earlier call ih =>
      rw [transcribe_concat, List.map_append, ih]
      rfl

/-- Induction on the calls, the last of them last. -/
theorem holds_of_transcribed {motive : List (κ × ρ) → σ → Prop} (first : motive [] start)
    (kept : ∀ entries state call, motive entries state →
      motive (entries ++ [(call, (perform state call).1)]) (perform state call).2)
    (transcribed : transcribe perform start calls = (entries, state)) : motive entries state := by
  induction calls using List.reverseRecOn generalizing entries state with
  | nil =>
      cases transcribed
      exact first
  | append_singleton earlier call ih =>
      rw [transcribe_concat] at transcribed
      cases transcribed
      exact kept _ _ call (ih rfl)

end Backtrack
