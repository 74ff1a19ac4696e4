import Backtrack.Proofs.Parked
import Backtrack.Proofs.Tracing

/-!
What an instruction does to logs and to copies. As long as it opens no region, it closes some and
leaves the logs of the others true to their copies. If it does not commit, then in the end things
are as in the oldest of the copies that it gives up, if any.
-/

namespace Backtrack

namespace BindingKind

variable {β : Type} {kind : BindingKind β} {code : Instruction} {copies : List Arena} {closed : Nat}
  {regions : List Region} {arena arena' : Arena} {before after machine : Machine}

/-- How an instruction came to give up some of the copies, the newest first. -/
inductive Closing (kind : BindingKind β) (code : Instruction) (copies : List Arena)
    (arena : Arena) : Nat → Prop
  | kept : Closing kind code copies arena 0
  | commits {closed : Nat} (commits : code = .commitRegion) : Closing kind code copies arena closed
  | reverts {closed : Nat} {copy : Arena} (undoes : code.undoes)
      (oldest : (copies.take closed).getLast? = some copy) (reverted : kind.Reverted copy arena) :
      Closing kind code copies arena closed

/-- Regions were closed and their copies given up. The others are as they should be. -/
structure Follows (kind : BindingKind β) (code : Instruction) (copies : List Arena) (closed : Nat)
    (regions : List Region) (arena : Arena) : Prop where
  counted : closed + regions.length = copies.length
  mirrors : kind.Mirrors regions (copies.drop closed) arena
  closing : kind.Closing code copies arena closed

theorem Closing.mono (closing : kind.Closing code copies arena closed)
    (keeps : ∀ copy, kind.Reverted copy arena → kind.Reverted copy arena') :
    kind.Closing code copies arena' closed := by
  cases closing with
  | kept => exact .kept
  | commits commits => exact .commits commits
  | reverts undoes oldest reverted => exact .reverts undoes oldest (keeps _ reverted)

/-- An instruction that writes gives up no copy. -/
theorem Closing.binds (closing : kind.Closing code copies arena closed) (binds : code.binds = true) :
    closed = 0 := by
  cases closing with
  | kept => rfl
  | commits commits =>
      subst commits
      cases binds
  | reverts undoes =>
      rcases undoes with undoing | raising
      · subst undoing
        cases binds
      · revert binds raising
        cases code <;> nofun

namespace Follows

theorem refl (mirrors : kind.Mirrors regions copies arena) :
    kind.Follows code copies 0 regions arena where
  counted := (Nat.zero_add _).trans mirrors.tracks.length_eq
  mirrors := mirrors
  closing := .kept

theorem trims (follows : kind.Follows code copies closed regions arena) (trims : arena'.Trims arena)
    (ages : arena.Ages arena') : kind.Follows code copies closed regions arena' where
  counted := follows.counted
  mirrors := follows.mirrors.trims trims ages
  closing := follows.closing.mono fun _ reverted => reverted.trims trims ages

theorem place {parent : Option ContainerId}
    (follows : kind.Follows code copies closed regions arena) (sound : arena.Sound)
    (rare : arena.Rare) : kind.Follows code copies closed regions (arena.place parent).2 where
  counted := follows.counted
  mirrors := follows.mirrors.place sound rare
  closing := follows.closing.mono fun _ reverted => reverted.place sound rare

theorem write {save : RollbackLog → RollbackLog}
    (follows : kind.Follows code copies closed regions arena)
    (writes : kind.Writes save arena arena')
    (enabled : ∀ region ∈ regions, region.log.enabled = true) (binds : code.binds = true) :
    kind.Follows code copies closed
      (regions.map fun region => { region with log := save region.log }) arena' where
  counted := by rw [List.length_map, follows.counted]
  mirrors := follows.mirrors.write writes enabled
  closing := follows.closing.binds binds ▸ .kept

theorem commit {region : Region} (follows : kind.Follows code copies closed (region :: regions) arena)
    (commits : code = .commitRegion) : kind.Follows code copies (closed + 1) regions arena where
  counted := by
    have counted := follows.counted
    rw [List.length_cons] at counted
    omega
  mirrors := List.drop_drop ▸ follows.mirrors.commit
  closing := .commits commits

/-- The innermost regions are rolled back. -/
theorem undo {inner : List Region}
    (follows : kind.Follows code copies closed (inner ++ regions) arena) (undoes : code.undoes) :
    kind.Follows code copies (closed + inner.length) regions (arena.undo inner) := by
  obtain ⟨onward, reverted⟩ := follows.mirrors.undo
  have counted := follows.counted
  rw [List.length_append] at counted
  refine ⟨by omega, List.drop_drop ▸ onward, ?_⟩
  cases inner with
  | nil => exact follows.closing
  | cons region rest =>
      rw [List.length_cons] at counted reverted ⊢
      have some : (copies.drop closed).take (rest.length + 1) ≠ [] := by
        apply List.ne_nil_of_length_pos
        rw [List.length_take, List.length_drop]
        omega
      have oldest := List.getLast?_eq_some_getLast some
      refine .reverts undoes ?_ (reverted _ oldest)
      rw [List.take_add, List.getLast?_append, oldest]
      rfl

end Follows

/-! Instructions -/

/-- No effect but the opening of a region makes a difference. -/
theorem Follows.effect (recorded : kind.Recorded) (sound : before.Sound)
    (rare : before.arena.Rare) (other : code ≠ .openRegion) (effect : Effect code before after)
    (follows : kind.Follows code copies closed before.regions.items before.arena) :
    ∃ closed, kind.Follows code copies closed after.regions.items after.arena := by
  have undone {inner outer : List Region} (parts : before.regions.items = inner ++ outer)
      (undoes : code.undoes) :
      kind.Follows code copies (closed + inner.length) outer (before.arena.undo inner) :=
    (parts ▸ follows).undo undoes
  cases effect with
  | bindVar name value live binding =>
      have binds : code.binds = true := by
        obtain ⟨_, rfl | rfl⟩ := binding <;> rfl
      exact ⟨closed, follows.write (recorded.bindVar rare live) sound.enabled binds⟩
  | bindCandidates name set live binding =>
      have binds : code.binds = true := by
        obtain ⟨_, rfl⟩ := binding
        rfl
      exact ⟨closed, follows.write (recorded.bindCandidates rare live) sound.enabled binds⟩
  | pushScope | call | create | copy => exact ⟨closed, follows.place sound.housed.sound rare⟩
  | popScope => exact ⟨closed, follows.trims Arena.release_trims Arena.release_ages⟩
  | «return» | finish => exact ⟨closed, follows.trims Arena.releaseAll_trims Arena.releaseAll_ages⟩
  | openRegion opening => exact absurd opening other
  | commitRegion top committing => exact ⟨closed + 1, (top ▸ follows).commit committing⟩
  | @rollbackRegion region rest _ top undoing => exact ⟨_, @undone [region] rest top (.inl undoing)⟩
  | abandon _ _ _ _ raising =>
      refine ⟨_, Follows.trims (undone ?_ (.inr raising)) Arena.vacateAll_trims
        Arena.vacateAll_ages⟩
      exact List.takeWhile_append_dropWhile.symm
  | «catch» _ _ _ _ raising =>
      refine ⟨_, Follows.trims (undone ?_ (.inr raising))
        (Arena.releaseAll_trims.trans Arena.vacateAll_trims)
        (Arena.vacateAll_ages.trans Arena.releaseAll_ages)⟩
      exact List.takeWhile_append_dropWhile.symm
  | undoAll raising => exact ⟨_, undone (List.append_nil _).symm (.inr raising)⟩
  | _ => exact ⟨closed, follows⟩

theorem Follows.evolves (recorded : kind.Recorded) (sound : before.Sound)
    (rare : after.arena.Rare) (other : code ≠ .openRegion) (evolves : before.Evolves code after)
    (mirrors : kind.Mirrors before.regions.items copies before.arena) :
    ∃ closed, kind.Follows code copies closed after.regions.items after.arena := by
  induction evolves with
  | refl => exact ⟨0, .refl mirrors⟩
  | @tail middle after soFar effect ih =>
      have rare' := (Machine.effect_ages effect).rare rare
      obtain ⟨closed, follows⟩ := ih rare'
      exact follows.effect recorded (sound.evolves soFar) rare' other effect

/-- However an instruction ends. -/
theorem Follows.becomes (recorded : kind.Recorded) (sound : machine.Sound)
    (rare : after.arena.Rare) (other : code ≠ .openRegion) (becomes : machine.Becomes code after)
    (mirrors : kind.Mirrors machine.regions.items copies machine.arena) :
    ∃ closed, kind.Follows code copies closed after.regions.items after.arena := by
  have reached {middle : Machine} (soFar : machine.Evolves code middle)
      (rare : middle.arena.Rare) :
      ∃ closed, kind.Follows code copies closed middle.regions.items middle.arena :=
    Follows.evolves recorded sound rare other soFar mirrors
  cases becomes with
  | evolves evolves => exact reached evolves rare
  | @ends middle _ frame fetched =>
      have soFar : machine.Evolves code middle := fetched ▸ Machine.fetched_evolves
      have ages : middle.arena.Ages (middle.arena.vacate middle.globals frame) :=
        Arena.releaseAll_ages
      obtain ⟨closed, follows⟩ := reached soFar (ages.rare rare)
      exact ⟨closed, follows.trims Arena.releaseAll_trims ages⟩
  | breaks breaks =>
      cases breaks with
      | between soFar | unbalanced soFar | outside soFar =>
          have follows := reached soFar rare
          exact follows
      | unswitched _ soFar =>
          have follows := reached soFar rare
          exact follows
      | placed soFar =>
          have rare' := Arena.place_ages.rare rare
          obtain ⟨closed, follows⟩ := reached soFar rare'
          exact ⟨closed, follows.place (sound.evolves soFar).housed.sound rare'⟩
      | withdrawn soFar =>
          have rare' := (Arena.place_ages.trans Arena.release_ages).rare rare
          obtain ⟨closed, follows⟩ := reached soFar rare'
          have sound' := (sound.evolves soFar).housed.sound
          exact ⟨closed, (follows.place sound' rare').trims Arena.release_trims Arena.release_ages⟩
      | stale soFar active inScope gone => exact (sound.not_stale soFar active inScope gone).elim
      | orphaned soFar current inner alone =>
          exact (sound.not_orphaned soFar current inner alone).elim

end BindingKind

end Backtrack
