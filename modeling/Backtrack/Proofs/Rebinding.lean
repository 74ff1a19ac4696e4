import Backtrack.Proofs.Actions
import Backtrack.Proofs.Containers

/-!
Bindings after a change. A write changes one binding of one container; the rollback of a log sets
every binding that the log holds, if its container still lives, and no other. Neither changes which
containers there are and how they are chained.
-/

namespace Backtrack

namespace Arena

variable {arena before middle after : Arena} {id other : ContainerId} {name name' : SymbolId}
  {value : Option Value} {set : Option CandidateSet}

/-- At most bindings differ. -/
structure Alike (before after : Arena) : Prop where
  parents : after.parent? = before.parent?
  live : after.isLive = before.isLive
  frees (index : Nat) : after.slots[index]?.map Slot.frees = before.slots[index]?.map Slot.frees
  sound (sound : before.Sound) : after.Sound

theorem Alike.refl : arena.Alike arena :=
  ⟨rfl, rfl, fun _ => rfl, id⟩

theorem Alike.trans (first : before.Alike middle) (second : middle.Alike after) :
    before.Alike after :=
  ⟨second.parents.trans first.parents, second.live.trans first.live,
    fun index => (second.frees index).trans (first.frees index),
    fun sound => second.sound (first.sound sound)⟩

theorem modify_alike {change : Container → Container}
    (same : ∀ container, (change container).parent = container.parent) :
    arena.Alike (arena.modify id change) where
  parents := by
    funext other
    rw [parent?, parent?, get?_modify]
    split
    · cases arena.get? other <;> simp [same]
    · rfl
  live := by
    funext other
    rw [isLive, isLive, get?_modify]
    split
    · exact Option.isSome_map ..
    · rfl
  frees index := by
    unfold modify
    split
    · rw [Array.getElem?_modify]
      split
      · rw [Option.map_map]
        rfl
      · rfl
    · rfl
  sound := modify_sound

theorem putVar_alike : arena.Alike (arena.putVar id name value) :=
  modify_alike fun _ => rfl

theorem putCandidates_alike : arena.Alike (arena.putCandidates id name set) :=
  modify_alike fun _ => rfl

/-! ## Single bindings -/

theorem var?_putVar :
    (arena.putVar id name value).var? other name' =
      if other = id ∧ name' = name ∧ arena.isLive id = true then value
      else arena.var? other name' := by
  unfold putVar var?
  rw [get?_modify]
  by_cases same : other = id
  · cases same
    rw [if_pos rfl, isLive]
    cases arena.get? id with
    | none => simp
    | some container =>
        by_cases equal : name' = name
        · cases equal
          cases value <;> simp
        · cases value <;>
            simp [equal, Std.ExtTreeMap.getElem?_insert, Std.ExtTreeMap.getElem?_erase,
              Std.LawfulEqCmp.compare_eq_iff_eq, Ne.symm equal]
  · simp [same]

theorem candidates?_putVar :
    (arena.putVar id name value).candidates? other name' = arena.candidates? other name' := by
  unfold putVar candidates?
  rw [get?_modify]
  by_cases same : other = id
  · cases same
    cases arena.get? id <;> simp
  · simp [same]

theorem candidates?_putCandidates :
    (arena.putCandidates id name set).candidates? other name' =
      if other = id ∧ name' = name ∧ arena.isLive id = true then set
      else arena.candidates? other name' := by
  unfold putCandidates candidates?
  rw [get?_modify]
  by_cases same : other = id
  · cases same
    rw [if_pos rfl, isLive]
    cases arena.get? id with
    | none => simp
    | some container =>
        by_cases equal : name' = name
        · cases equal
          cases set <;> simp
        · cases set <;>
            simp [equal, Std.ExtTreeMap.getElem?_insert, Std.ExtTreeMap.getElem?_erase,
              Std.LawfulEqCmp.compare_eq_iff_eq, Ne.symm equal]
  · simp [same]

theorem var?_putCandidates :
    (arena.putCandidates id name set).var? other name' = arena.var? other name' := by
  unfold putCandidates var?
  rw [get?_modify]
  by_cases same : other = id
  · cases same
    cases arena.get? id <;> simp
  · simp [same]

/-! ## Rollback -/

/-- Sets bindings, the first of the list first. -/
def putVars (arena : Arena) (entries : List (BindingKey × Option Value)) : Arena :=
  entries.foldl (fun arena (key, prior) => arena.putVar key.container key.name prior) arena

def putAllCandidates (arena : Arena) (entries : List (BindingKey × Option CandidateSet)) : Arena :=
  entries.foldl (fun arena (key, prior) => arena.putCandidates key.container key.name prior) arena

theorem putVars_alike {entries : List (BindingKey × Option Value)} :
    arena.Alike (arena.putVars entries) := by
  induction entries generalizing arena with
  | nil => exact .refl
  | cons entry rest ih => exact putVar_alike.trans ih

theorem putAllCandidates_alike {entries : List (BindingKey × Option CandidateSet)} :
    arena.Alike (arena.putAllCandidates entries) := by
  induction entries generalizing arena with
  | nil => exact .refl
  | cons entry rest ih => exact putCandidates_alike.trans ih

theorem restore_eq (log : RollbackLog) :
    log.restore arena =
      (arena.putVars log.vars.toList).putAllCandidates log.candidates.toList := rfl

theorem restore_alike {log : RollbackLog} : arena.Alike (log.restore arena) :=
  putVars_alike.trans putAllCandidates_alike

theorem undo_alike {regions : List Region} : arena.Alike (arena.undo regions) := by
  induction regions generalizing arena with
  | nil => exact .refl
  | cons region rest ih => exact restore_alike.trans ih

theorem var?_putVars_absent {entries : List (BindingKey × Option Value)}
    (absent : ∀ prior, (⟨other, name'⟩, prior) ∉ entries) :
    (arena.putVars entries).var? other name' = arena.var? other name' := by
  induction entries generalizing arena with
  | nil => rfl
  | cons entry rest ih =>
      rcases entry with ⟨⟨container, name⟩, prior⟩
      rw [putVars, List.foldl_cons, ← putVars, ih fun prior member => absent prior (by simp [member]),
        var?_putVar, if_neg]
      rintro ⟨rfl, rfl, -⟩
      exact absent prior (by simp)

theorem var?_putVars_present {entries : List (BindingKey × Option Value)} {prior : Option Value}
    (distinct : entries.Pairwise fun first second => first.1 ≠ second.1)
    (member : (⟨other, name'⟩, prior) ∈ entries) (live : arena.isLive other = true) :
    (arena.putVars entries).var? other name' = prior := by
  induction entries generalizing arena with
  | nil => cases member
  | cons entry rest ih =>
      obtain ⟨apart, others⟩ := List.pairwise_cons.mp distinct
      rw [putVars, List.foldl_cons, ← putVars]
      rcases List.mem_cons.mp member with rfl | later
      · rw [var?_putVars_absent fun _ again => apart _ again rfl, var?_putVar,
          if_pos ⟨rfl, rfl, live⟩]
      · exact ih others later (by rw [putVar_alike.live, live])

theorem candidates?_putVars {entries : List (BindingKey × Option Value)} :
    (arena.putVars entries).candidates? other name' = arena.candidates? other name' := by
  induction entries generalizing arena with
  | nil => rfl
  | cons entry rest ih => rw [putVars, List.foldl_cons, ← putVars, ih, candidates?_putVar]

theorem var?_putAllCandidates {entries : List (BindingKey × Option CandidateSet)} :
    (arena.putAllCandidates entries).var? other name' = arena.var? other name' := by
  induction entries generalizing arena with
  | nil => rfl
  | cons entry rest ih =>
      rw [putAllCandidates, List.foldl_cons, ← putAllCandidates, ih, var?_putCandidates]

theorem candidates?_putAllCandidates_absent {entries : List (BindingKey × Option CandidateSet)}
    (absent : ∀ prior, (⟨other, name'⟩, prior) ∉ entries) :
    (arena.putAllCandidates entries).candidates? other name' = arena.candidates? other name' := by
  induction entries generalizing arena with
  | nil => rfl
  | cons entry rest ih =>
      rcases entry with ⟨⟨container, name⟩, prior⟩
      rw [putAllCandidates, List.foldl_cons, ← putAllCandidates,
        ih fun prior member => absent prior (by simp [member]), candidates?_putCandidates, if_neg]
      rintro ⟨rfl, rfl, -⟩
      exact absent prior (by simp)

theorem candidates?_putAllCandidates_present {entries : List (BindingKey × Option CandidateSet)}
    {prior : Option CandidateSet}
    (distinct : entries.Pairwise fun first second => first.1 ≠ second.1)
    (member : (⟨other, name'⟩, prior) ∈ entries) (live : arena.isLive other = true) :
    (arena.putAllCandidates entries).candidates? other name' = prior := by
  induction entries generalizing arena with
  | nil => cases member
  | cons entry rest ih =>
      obtain ⟨apart, others⟩ := List.pairwise_cons.mp distinct
      rw [putAllCandidates, List.foldl_cons, ← putAllCandidates]
      rcases List.mem_cons.mp member with rfl | later
      · rw [candidates?_putAllCandidates_absent fun _ again => apart _ again rfl,
          candidates?_putCandidates, if_pos ⟨rfl, rfl, live⟩]
      · exact ih others later (by rw [putCandidates_alike.live, live])

theorem toList_distinct {α : Type} {map : Std.TreeMap BindingKey α} :
    map.toList.Pairwise fun first second => first.1 ≠ second.1 :=
  Std.TreeMap.distinct_keys_toList.imp fun differ same => differ (by rw [same]; exact Std.ReflCmp.compare_self)

/-- A rollback sets what the log holds and leaves every other binding. -/
theorem var?_restore {log : RollbackLog} (live : arena.isLive id = true) :
    (log.restore arena).var? id name =
      (log.vars[(⟨id, name⟩ : BindingKey)]?).getD (arena.var? id name) := by
  rw [restore_eq, var?_putAllCandidates]
  cases stored : log.vars[(⟨id, name⟩ : BindingKey)]? with
  | none =>
      refine var?_putVars_absent fun prior member => ?_
      rw [Std.TreeMap.mem_toList_iff_getElem?_eq_some, stored] at member
      cases member
  | some prior =>
      exact var?_putVars_present toList_distinct
        (Std.TreeMap.mem_toList_iff_getElem?_eq_some.mpr stored) live

theorem candidates?_restore {log : RollbackLog} (live : arena.isLive id = true) :
    (log.restore arena).candidates? id name =
      (log.candidates[(⟨id, name⟩ : BindingKey)]?).getD (arena.candidates? id name) := by
  rw [restore_eq]
  cases stored : log.candidates[(⟨id, name⟩ : BindingKey)]? with
  | none =>
      rw [candidates?_putAllCandidates_absent, candidates?_putVars]
      · rfl
      · intro prior member
        rw [Std.TreeMap.mem_toList_iff_getElem?_eq_some, stored] at member
        cases member
  | some prior =>
      exact candidates?_putAllCandidates_present toList_distinct
        (Std.TreeMap.mem_toList_iff_getElem?_eq_some.mpr stored) (by rw [putVars_alike.live, live])

end Arena

end Backtrack
