/-!
Chains: an item, the item it leads to, and so on, up to the first that leads nowhere. A chain is
followed for a bounded number of items. `firstAlong` finds the first item with a property without
following the chain any further.
-/

namespace Backtrack

variable {α : Type}

/-- Follows a chain, with the items passed so far in reverse order. -/
@[specialize] def chainOnto (next : α → Option α) : Nat → α → List α → List α
  | 0, _, passed => passed.reverse
  | steps + 1, item, passed =>
      match next item with
      | some following => chainOnto next steps following (item :: passed)
      | none => (item :: passed).reverse

/-- The first items of the chain from a start, at most `steps` of them. -/
@[inline] def chain (next : α → Option α) (steps : Nat) (start : α) : List α :=
  chainOnto next steps start []

@[specialize] def firstAlong (next : α → Option α) (holds : α → Bool) : Nat → α → Option α
  | 0, _ => none
  | steps + 1, item =>
      if holds item then some item
      else
        match next item with
        | some following => firstAlong next holds steps following
        | none => none

theorem chainOnto_eq (next : α → Option α) (steps : Nat) (item : α) (passed : List α) :
    chainOnto next steps item passed = passed.reverse ++ chain next steps item := by
  induction steps generalizing item passed with
  | zero => simp [chain, chainOnto]
  | succ steps ih =>
      rw [chain, chainOnto, chainOnto]
      cases next item with
      | none => simp
      | some following =>
          simp only [ih following (item :: passed), ih following [item]]
          simp

theorem chain_zero (next : α → Option α) (start : α) : chain next 0 start = [] := rfl

theorem chain_succ (next : α → Option α) (steps : Nat) (start : α) :
    chain next (steps + 1) start =
      start :: match next start with
        | some following => chain next steps following
        | none => [] := by
  rw [chain, chainOnto]
  cases next start with
  | none => rfl
  | some following => simp only [chainOnto_eq]; rfl

theorem firstAlong_eq_find? (next : α → Option α) (holds : α → Bool) (steps : Nat) (start : α) :
    firstAlong next holds steps start = (chain next steps start).find? holds := by
  induction steps generalizing start with
  | zero => rfl
  | succ steps ih =>
      rw [firstAlong, chain_succ]
      by_cases held : holds start = true
      · simp [held]
      · cases leads : next start with
        | none => simp [held]
        | some following => simp [held, ih]

end Backtrack
