import Backtrack.Proofs.Handles

/-!
Logs against copies. Suppose that for every open region a complete copy of the bindings is kept from
when it was opened. A log and its copy say the same of every container that lives: the copy has for
a binding what the log holds, or what the binding is now if the log holds nothing. A rollback keeps
that of the logs further out, since an inner log never holds what an outer one does not.
-/

namespace Backtrack

/-- A kind of bindings: what a container has for a name, and what a log holds for it. -/
structure BindingKind (β : Type) where
  pick : Container → SymbolId → Option β
  logged : RollbackLog → BindingKey → Option (Option β)
  pick_new {parent : Option ContainerId} {name : SymbolId} : pick (.new parent) name = none
  logged_new {key : BindingKey} : logged .new key = none
  restored {arena : Arena} {log : RollbackLog} {id : ContainerId} {name : SymbolId}
    (live : arena.isLive id = true) :
    ((log.restore arena).get? id).bind (pick · name) =
      (logged log ⟨id, name⟩).getD ((arena.get? id).bind (pick · name))

namespace BindingKind

def vars : BindingKind Value where
  pick container name := container.vars[name]?
  logged log key := log.vars[key]?
  pick_new := Std.ExtTreeMap.getElem?_empty
  logged_new := Std.TreeMap.getElem?_emptyc
  restored live := Arena.var?_restore live

def candidates : BindingKind CandidateSet where
  pick container name := container.candidates[name]?
  logged log key := log.candidates[key]?
  pick_new := Std.ExtTreeMap.getElem?_empty
  logged_new := Std.TreeMap.getElem?_emptyc
  restored live := Arena.candidates?_restore live

section

variable {β : Type} (kind : BindingKind β)

def read (arena : Arena) (id : ContainerId) (name : SymbolId) : Option β :=
  (arena.get? id).bind (kind.pick · name)

/-- The containers that live are bound as in a copy. -/
def Agrees (copy arena : Arena) : Prop :=
  ∀ id name, arena.isLive id = true → kind.read copy id name = kind.read arena id name

/-- The containers that live are bound as in a copy, and none of those in the copy is to come. -/
structure Reverted (copy arena : Arena) : Prop where
  agrees : kind.Agrees copy arena
  copied {id : ContainerId} (live : copy.isLive id = true) : arena.Issued id

/-- A log and the copy from when its region was opened. -/
structure Tracks (arena : Arena) (region : Region) (copy : Arena) : Prop where
  same {id : ContainerId} {name : SymbolId} (live : arena.isLive id = true) :
    kind.read copy id name = (kind.logged region.log ⟨id, name⟩).getD (kind.read arena id name)
  logged {key : BindingKey} (held : (kind.logged region.log key).isSome = true) :
    arena.Issued key.container
  copied {id : ContainerId} (live : copy.isLive id = true) : arena.Issued id

/-- What one log holds, another holds too. -/
def Within (inner outer : Region) : Prop :=
  ∀ key, (kind.logged inner.log key).isSome = true → (kind.logged outer.log key).isSome = true

structure Mirrors (regions : List Region) (copies : List Arena) (arena : Arena) : Prop where
  tracks : List.Forall₂ (kind.Tracks arena) regions copies
  nested : regions.Pairwise kind.Within

end

variable {β : Type} {kind : BindingKind β} {regions closed : List Region} {copies : List Arena}
  {arena after copy : Arena} {region : Region} {id : ContainerId} {name : SymbolId}

theorem read_trims (trims : after.Trims arena) (live : after.isLive id = true) :
    kind.read after id name = kind.read arena id name := by
  rw [read, read, trims id live]

/-- In a new container nothing is bound, and no copy knows it. -/
theorem read_place_new {parent : Option ContainerId} (sound : arena.Sound) (rare : arena.Rare)
    (copied : ∀ {id : ContainerId}, copy.isLive id = true → arena.Issued id) :
    kind.read copy (arena.place parent).1 name =
      kind.read (arena.place parent).2 (arena.place parent).1 name := by
  have absent : copy.get? (arena.place parent).1 = none := by
    apply Option.not_isSome_iff_eq_none.mp
    intro live
    exact Arena.place_unissued sound rare (copied live)
  rw [read, absent, read, Arena.get?_place sound, if_pos rfl]
  exact kind.pick_new.symm

theorem read_place_other {parent : Option ContainerId} (sound : arena.Sound)
    (other : id ≠ (arena.place parent).1) :
    (arena.place parent).2.isLive id = arena.isLive id ∧
      kind.read (arena.place parent).2 id name = kind.read arena id name := by
  rw [Arena.isLive, read, Arena.get?_place sound, if_neg other]
  exact ⟨rfl, rfl⟩

theorem Reverted.trims (reverted : kind.Reverted copy arena) (trims : after.Trims arena)
    (ages : arena.Ages after) : kind.Reverted copy after where
  agrees id name live := by
    rw [reverted.agrees id name (trims.live live), read_trims trims live]
  copied live := ages.issued (reverted.copied live)

theorem Reverted.place {parent : Option ContainerId} (reverted : kind.Reverted copy arena)
    (sound : arena.Sound) (rare : arena.Rare) : kind.Reverted copy (arena.place parent).2 where
  agrees id name live := by
    by_cases fresh : id = (arena.place parent).1
    · rw [fresh]
      exact read_place_new sound rare reverted.copied
    · obtain ⟨same, kept⟩ := read_place_other sound fresh
      rw [kept]
      exact reverted.agrees id name (same ▸ live)
  copied live := Arena.place_ages.issued (reverted.copied live)

theorem Tracks.trims (tracks : kind.Tracks arena region copy) (trims : after.Trims arena)
    (ages : arena.Ages after) : kind.Tracks after region copy where
  same live := by rw [tracks.same (trims.live live), read_trims trims live]
  logged held := ages.issued (tracks.logged held)
  copied live := ages.issued (tracks.copied live)

theorem Tracks.place {parent : Option ContainerId} (tracks : kind.Tracks arena region copy)
    (sound : arena.Sound) (rare : arena.Rare) :
    kind.Tracks (arena.place parent).2 region copy where
  same {id name} live := by
    by_cases fresh : id = (arena.place parent).1
    · have unlogged : kind.logged region.log ⟨id, name⟩ = none := by
        apply Option.not_isSome_iff_eq_none.mp
        intro held
        exact Arena.place_unissued sound rare (fresh ▸ tracks.logged held)
      rw [unlogged, Option.getD_none, fresh]
      exact read_place_new sound rare tracks.copied
    · obtain ⟨same, kept⟩ := read_place_other sound fresh
      rw [kept]
      exact tracks.same (same ▸ live)
  logged held := Arena.place_ages.issued (tracks.logged held)
  copied live := Arena.place_ages.issued (tracks.copied live)

/-- A region is opened and everything copied. -/
theorem Tracks.open {serial : Nat} {owner : FrameId} (rare : arena.Rare) :
    kind.Tracks arena ⟨serial, owner, .new⟩ arena where
  same live := by rw [kind.logged_new, Option.getD_none]
  logged held := by
    rw [kind.logged_new] at held
    cases held
  copied live := Arena.issued_of_live rare live

/-- The innermost log is restored. -/
theorem Tracks.restored (tracks : kind.Tracks arena region copy) :
    kind.Reverted copy (region.log.restore arena) where
  agrees id name live := by
    rw [Arena.restore_alike.live] at live
    rw [tracks.same live]
    exact (kind.restored live).symm
  copied live := Arena.restore_ages.issued (tracks.copied live)

/-- What a rollback of the innermost region sets, the logs further out hold. -/
theorem Tracks.restore {inner : Region} (tracks : kind.Tracks arena region copy)
    (within : kind.Within inner region) : kind.Tracks (inner.log.restore arena) region copy where
  same {id name} live := by
    rw [Arena.restore_alike.live] at live
    have set : kind.read (inner.log.restore arena) id name =
      (kind.logged inner.log ⟨id, name⟩).getD (kind.read arena id name) := kind.restored live
    rw [tracks.same live, set]
    cases held : kind.logged inner.log ⟨id, name⟩ with
    | none => rfl
    | some prior =>
        obtain ⟨outer, held'⟩ := Option.isSome_iff_exists.mp (within _ (by rw [held]; rfl))
        rw [held']
        rfl
  logged held := Arena.restore_ages.issued (tracks.logged held)
  copied live := Arena.restore_ages.issued (tracks.copied live)

/-! Writes -/

/-- A binding changes, and every log records what it was. -/
structure Writes (kind : BindingKind β) (save : RollbackLog → RollbackLog) (before after : Arena) :
    Prop where
  live : after.isLive = before.isLive
  ages : before.Ages after
  binding (id : ContainerId) (name : SymbolId) :
    (kind.read after id name = kind.read before id name ∧
      ∀ log, log.enabled = true → kind.logged (save log) ⟨id, name⟩ = kind.logged log ⟨id, name⟩) ∨
    (before.Issued id ∧ ∀ log, log.enabled = true → kind.logged (save log) ⟨id, name⟩ =
      some ((kind.logged log ⟨id, name⟩).getD (kind.read before id name)))

theorem Tracks.write {save : RollbackLog → RollbackLog} (tracks : kind.Tracks arena region copy)
    (writes : kind.Writes save arena after) (enabled : region.log.enabled = true) :
    kind.Tracks after { region with log := save region.log } copy where
  same {id name} live := by
    rw [writes.live] at live
    rw [tracks.same live]
    rcases writes.binding id name with ⟨same, kept⟩ | ⟨-, saved⟩
    · rw [kept _ enabled, same]
    · rw [saved _ enabled, Option.getD_some]
  logged {key} held := by
    refine writes.ages.issued ?_
    rcases writes.binding key.container key.name with ⟨-, kept⟩ | ⟨issued, -⟩
    · rw [kept _ enabled] at held
      exact tracks.logged held
    · exact issued
  copied live := writes.ages.issued (tracks.copied live)

theorem Within.write {inner outer : Region} {save : RollbackLog → RollbackLog}
    (within : kind.Within inner outer) (writes : kind.Writes save arena after)
    (enabled : inner.log.enabled = true) (enabled' : outer.log.enabled = true) :
    kind.Within { inner with log := save inner.log } { outer with log := save outer.log } := by
  intro key held
  rcases writes.binding key.container key.name with ⟨-, kept⟩ | ⟨-, saved⟩
  · rw [kept _ enabled] at held
    rw [kept _ enabled']
    exact within key held
  · rw [saved _ enabled']
    rfl

namespace Mirrors

theorem empty : kind.Mirrors [] [] arena :=
  ⟨.nil, .nil⟩

theorem trims (mirrors : kind.Mirrors regions copies arena) (trims : after.Trims arena)
    (ages : arena.Ages after) : kind.Mirrors regions copies after :=
  ⟨mirrors.tracks.imp fun _ _ tracks => tracks.trims trims ages, mirrors.nested⟩

theorem place {parent : Option ContainerId} (mirrors : kind.Mirrors regions copies arena)
    (sound : arena.Sound) (rare : arena.Rare) :
    kind.Mirrors regions copies (arena.place parent).2 :=
  ⟨mirrors.tracks.imp fun _ _ tracks => tracks.place sound rare, mirrors.nested⟩

theorem «open» {serial : Nat} {owner : FrameId} (mirrors : kind.Mirrors regions copies arena)
    (rare : arena.Rare) :
    kind.Mirrors (⟨serial, owner, .new⟩ :: regions) (arena :: copies) arena := by
  refine ⟨.cons (.open rare) mirrors.tracks, List.pairwise_cons.mpr ⟨fun outer _ key held => ?_,
    mirrors.nested⟩⟩
  rw [kind.logged_new] at held
  cases held

theorem write {save : RollbackLog → RollbackLog} (mirrors : kind.Mirrors regions copies arena)
    (writes : kind.Writes save arena after) (enabled : ∀ region ∈ regions, region.log.enabled = true) :
    kind.Mirrors (regions.map fun region => { region with log := save region.log }) copies after := by
  refine ⟨?_, List.pairwise_map.mpr (mirrors.nested.imp_of_mem fun {inner outer} member member' within =>
    within.write writes (enabled inner member) (enabled outer member'))⟩
  have tracks := mirrors.tracks
  clear mirrors
  induction tracks with
  | nil => exact .nil
  | cons first rest ih =>
      refine .cons (first.write writes (enabled _ List.mem_cons_self)) ?_
      exact ih fun region member => enabled region (List.mem_cons_of_mem _ member)

theorem restore (tracks : List.Forall₂ (kind.Tracks arena) regions copies)
    (within : ∀ outer ∈ regions, kind.Within region outer) :
    List.Forall₂ (kind.Tracks (region.log.restore arena)) regions copies := by
  induction tracks with
  | nil => exact .nil
  | cons first rest ih =>
      refine .cons (first.restore (within _ List.mem_cons_self)) ?_
      exact ih fun outer member => within outer (List.mem_cons_of_mem _ member)

/-- Regions are rolled back, the innermost first. -/
theorem undo (mirrors : kind.Mirrors (closed ++ regions) copies arena) :
    kind.Mirrors regions (copies.drop closed.length) (arena.undo closed) ∧
      ∀ copy, (copies.take closed.length).getLast? = some copy →
        kind.Reverted copy (arena.undo closed) := by
  induction closed generalizing copies arena with
  | nil => exact ⟨mirrors, fun _ none => by simp at none⟩
  | cons region rest ih =>
      obtain ⟨tracks, nested⟩ := mirrors
      obtain ⟨within, nested⟩ := List.pairwise_cons.mp nested
      cases tracks with
      | @cons _ copy _ copies first others =>
          have restored := restore others within
          obtain ⟨onward, reverted⟩ := ih ⟨restored, nested⟩
          refine ⟨onward, fun last found => ?_⟩
          cases rest with
          | nil =>
              cases (Option.some.inj found : copy = last)
              exact first.restored
          | cons next further =>
              cases restored with
              | @cons _ copy' _ copies' _ _ =>
                  rw [List.length_cons, List.length_cons, List.take_succ_cons, List.take_succ_cons,
                    List.getLast?_cons_cons] at found
                  exact reverted last (by rw [List.length_cons, List.take_succ_cons, found])

end Mirrors

/-- Both ways of changing bindings are recorded. -/
structure Recorded (kind : BindingKind β) : Prop where
  bindVar {arena : Arena} {target : ContainerId} {name : SymbolId} {value : Value}
    (rare : arena.Rare) (live : arena.isLive target = true) :
    kind.Writes (fun log => (log.saveVariable ⟨target, name⟩ (arena.var? target name)).2) arena
      (arena.putVar target name (some value))
  bindCandidates {arena : Arena} {target : ContainerId} {name : SymbolId} {set : CandidateSet}
    (rare : arena.Rare) (live : arena.isLive target = true) :
    kind.Writes (fun log => (log.saveCandidates ⟨target, name⟩ (arena.candidates? target name)).2)
      arena (arena.putCandidates target name (some set))

theorem vars_recorded : vars.Recorded where
  bindVar {arena target name value} rare live := by
    refine ⟨Arena.putVar_alike.live, Arena.modify_ages, fun id name' => ?_⟩
    have read : vars.read (arena.putVar target name (some value)) id name' = _ :=
      Arena.var?_putVar
    rw [read]
    by_cases same : id = target ∧ name' = name
    · obtain ⟨rfl, rfl⟩ := same
      refine .inr ⟨Arena.issued_of_live rare live, fun log enabled => ?_⟩
      exact (RollbackLog.getElem?_saveVariable enabled).trans (if_pos rfl)
    · refine .inl ⟨if_neg fun both => same ⟨both.1, both.2.1⟩, fun log enabled => ?_⟩
      exact (RollbackLog.getElem?_saveVariable enabled).trans (if_neg (by simpa using same))
  bindCandidates {arena target name set} rare live := by
    refine ⟨Arena.putCandidates_alike.live, Arena.modify_ages, fun id name' => .inl ⟨?_, ?_⟩⟩
    · exact Arena.var?_putCandidates
    · intro log enabled
      exact congrArg (·[(⟨id, name'⟩ : BindingKey)]?) RollbackLog.vars_saveCandidates

theorem candidates_recorded : candidates.Recorded where
  bindVar {arena target name value} rare live := by
    refine ⟨Arena.putVar_alike.live, Arena.modify_ages, fun id name' => .inl ⟨?_, ?_⟩⟩
    · exact Arena.candidates?_putVar
    · intro log enabled
      exact congrArg (·[(⟨id, name'⟩ : BindingKey)]?) RollbackLog.candidates_saveVariable
  bindCandidates {arena target name set} rare live := by
    refine ⟨Arena.putCandidates_alike.live, Arena.modify_ages, fun id name' => ?_⟩
    have read : candidates.read (arena.putCandidates target name (some set)) id name' = _ :=
      Arena.candidates?_putCandidates
    rw [read]
    by_cases same : id = target ∧ name' = name
    · obtain ⟨rfl, rfl⟩ := same
      refine .inr ⟨Arena.issued_of_live rare live, fun log enabled => ?_⟩
      exact (RollbackLog.getElem?_saveCandidates enabled).trans (if_pos rfl)
    · refine .inl ⟨if_neg fun both => same ⟨both.1, both.2.1⟩, fun log enabled => ?_⟩
      exact (RollbackLog.getElem?_saveCandidates enabled).trans (if_neg (by simpa using same))

/-- A commit forgets the innermost log and its copy. -/
theorem Mirrors.commit (mirrors : kind.Mirrors (region :: regions) copies arena) :
    kind.Mirrors regions (copies.drop 1) arena := by
  obtain ⟨tracks, nested⟩ := mirrors
  cases tracks with
  | cons first rest => exact ⟨rest, (List.pairwise_cons.mp nested).2⟩

end BindingKind

end Backtrack
