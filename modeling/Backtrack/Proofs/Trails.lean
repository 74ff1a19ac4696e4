import Backtrack.Chain

/-!
Trails: chains followed to their end. The list of a trail begins with its start and ends with the
first item that leads nowhere, so nothing is left out and nothing occurs twice. `Trail.chain_eq`
says that a chain followed for enough steps is a trail.
-/

namespace Backtrack

variable {α : Type} {next next' : α → Option α} {start item : α} {items : List α}

inductive Trail (next : α → Option α) : α → List α → Prop
  | last {item : α} (ends : next item = none) : Trail next item [item]
  | more {item following : α} {rest : List α} (leads : next item = some following)
      (onward : Trail next following rest) : Trail next item (item :: rest)

namespace Trail

theorem unique {others : List α} (trail : Trail next start items) (other : Trail next start others) :
    items = others := by
  induction trail generalizing others with
  | last ends =>
      cases other with
      | last => rfl
      | more leads => simp [ends] at leads
  | more leads _ ih =>
      cases other with
      | last ends => simp [ends] at leads
      | more leads' onward' =>
          cases Option.some.inj (leads.symm.trans leads')
          rw [ih onward']

theorem onward {following : α} (trail : Trail next start items)
    (leads : next start = some following) :
    ∃ rest, items = start :: rest ∧ Trail next following rest := by
  cases trail with
  | last ends => exact absurd (ends.symm.trans leads) nofun
  | more leads' onward =>
      cases Option.some.inj (leads.symm.trans leads')
      exact ⟨_, rfl, onward⟩

theorem head? (trail : Trail next start items) : items.head? = some start := by
  cases trail <;> rfl

theorem mem_start (trail : Trail next start items) : start ∈ items := by
  cases trail <;> simp

theorem getLast? (trail : Trail next start items) :
    ∃ final, items.getLast? = some final ∧ next final = none := by
  induction trail with
  | last ends => exact ⟨_, rfl, ends⟩
  | more leads onward ih =>
      obtain ⟨final, last, ends⟩ := ih
      refine ⟨final, ?_, ends⟩
      cases onward <;> simpa using last

/-- A trail depends only on where its own items lead. -/
theorem congr (trail : Trail next start items) (same : ∀ item ∈ items, next' item = next item) :
    Trail next' start items := by
  induction trail with
  | last ends => exact .last ((same _ (by simp)).trans ends)
  | more leads _ ih =>
      exact .more ((same _ (by simp)).trans leads) (ih fun item member => same item (by simp [member]))

/-- Two trails from one start agree if they lead on alike from the items that they share. -/
theorem agree {others : List α} (trail : Trail next start items) (other : Trail next' start others)
    (same : ∀ item ∈ items, item ∈ others → next' item = next item) : others = items := by
  induction trail generalizing others with
  | last ends =>
      cases other with
      | last => rfl
      | more leads =>
          have stays := same _ List.mem_cons_self List.mem_cons_self
          rw [ends, leads] at stays
          cases stays
  | more leads _ ih =>
      have stays := same _ List.mem_cons_self other.mem_start
      obtain ⟨rest, rfl, onward⟩ := other.onward (stays.trans leads)
      rw [ih onward fun item member member' => same item (by simp [member]) (by simp [member'])]

/-- What follows an item of a trail is a trail. -/
theorem split (trail : Trail next start items) (member : item ∈ items) :
    ∃ before after, items = before ++ after ∧ Trail next item after := by
  induction trail with
  | last ends =>
      cases List.mem_singleton.mp member
      exact ⟨[], _, rfl, .last ends⟩
  | more leads onward ih =>
      rcases List.mem_cons.mp member with same | inner
      · cases same
        exact ⟨[], _, rfl, .more leads onward⟩
      · obtain ⟨before, after, parts, tail⟩ := ih inner
        exact ⟨_ :: before, after, by rw [parts]; rfl, tail⟩

theorem drop {before after : List α} (trail : Trail next start (before ++ item :: after)) :
    Trail next item (item :: after) := by
  induction before generalizing start with
  | nil =>
      cases Option.some.inj trail.head?
      exact trail
  | cons first rest ih =>
      generalize whole : first :: rest ++ item :: after = items at trail
      cases trail with
      | last => simp at whole
      | more leads onward =>
          obtain ⟨-, rfl⟩ := List.cons.inj whole
          exact ih onward

/-- No item leads back to itself, for then the trail would not end. -/
theorem nodup (trail : Trail next start items) : items.Nodup := by
  induction trail with
  | last => simp
  | more leads onward ih =>
      refine List.nodup_cons.mpr ⟨fun again => ?_, ih⟩
      obtain ⟨before, after, parts, tail⟩ := onward.split again
      have same := tail.unique (.more leads onward)
      have shorter := congrArg List.length parts
      simp only [same, List.length_append, List.length_cons] at shorter
      omega

/-- Every item but the last leads somewhere. -/
theorem leads_of_mem (trail : Trail next start items) (member : item ∈ items)
    (inner : items.getLast? ≠ some item) : (next item).isSome = true := by
  obtain ⟨before, after, parts, tail⟩ := trail.split member
  cases tail with
  | last => simp [parts] at inner
  | more leads => simp [leads]

theorem chain_eq {steps : Nat} (trail : Trail next start items) (enough : items.length ≤ steps) :
    chain next steps start = items := by
  induction trail generalizing steps with
  | last ends =>
      obtain ⟨steps, rfl⟩ : ∃ more, steps = more + 1 := ⟨steps - 1, by simp at enough; omega⟩
      rw [chain_succ, ends]
  | more leads onward ih =>
      obtain ⟨steps, rfl⟩ : ∃ more, steps = more + 1 := ⟨steps - 1, by simp at enough; omega⟩
      rw [chain_succ, leads]
      simp only [ih (Nat.le_of_succ_le_succ enough)]

end Trail

theorem chain_length_le {steps : Nat} : (chain next steps start).length ≤ steps := by
  induction steps generalizing start with
  | zero => simp [chain_zero]
  | succ steps ih =>
      rw [chain_succ, List.length_cons]
      refine Nat.succ_le_succ ?_
      cases next start with
      | none => simp
      | some following => exact ih

end Backtrack
