import Backtrack.Proofs.Occupancy
import Backtrack.Proofs.Transcripts

/-!
Handles through every history of an arena. However often slots are used again, each container that
is placed gets a handle of its own; the handle is live from then on until it is freed, and nothing
that is done to one container shows in another.
-/

namespace Backtrack.Arena

inductive Request where
  | alloc (parent : Option ContainerId)
  | free (id : ContainerId)
  | setVar (id : ContainerId) (name : SymbolId) (value : Value)
  | removeVar (id : ContainerId) (name : SymbolId)
  | setCandidates (id : ContainerId) (name : SymbolId) (set : CandidateSet)
  | removeCandidates (id : ContainerId) (name : SymbolId)

inductive Reply where
  | issued (id : ContainerId)
  /-- Whether there was a container to free. -/
  | freed (done : Bool)
  | written
  /-- What was bound before. -/
  | removedVar (prior : Option Value)
  | removedCandidates (prior : Option CandidateSet)
  | refused (fault : Fault)
deriving DecidableEq

/-- An arena is given back as it was when a request is refused. -/
def perform (arena : Arena) : Request → Reply × Arena
  | .alloc parent =>
      match arena.alloc parent with
      | .ok (id, after) => (.issued id, after)
      | .error fault => (.refused fault, arena)
  | .free id =>
      let (done, after) := arena.dispose id
      (.freed done, after)
  | .setVar id name value =>
      match arena.setVar id name value with
      | .ok after => (.written, after)
      | .error fault => (.refused fault, arena)
  | .removeVar id name => (.removedVar (arena.var? id name), arena.putVar id name none)
  | .setCandidates id name set =>
      match arena.setCandidates id name set with
      | .ok after => (.written, after)
      | .error fault => (.refused fault, arena)
  | .removeCandidates id name =>
      (.removedCandidates (arena.candidates? id name), arena.putCandidates id name none)

/-- The handle that a request gave out. -/
def issued? : Request × Reply → Option ContainerId
  | (_, .issued id) => some id
  | _ => none

/-- The handle whose container a request freed. -/
def freed? : Request × Reply → Option ContainerId
  | (.free id, .freed true) => some id
  | _ => none

def issued (entries : List (Request × Reply)) : List ContainerId :=
  entries.filterMap issued?

def freed (entries : List (Request × Reply)) : List ContainerId :=
  entries.filterMap freed?

/-- The container a request is about, where there is one already. -/
def Request.target? : Request → Option ContainerId
  | .alloc _ => none
  | .free id | .setVar id _ _ | .removeVar id _ | .setCandidates id _ _
  | .removeCandidates id _ => some id

variable {arena before after : Arena} {id : ContainerId} {parent : Option ContainerId}
  {request : Request} {requests : List Request} {entries : List (Request × Reply)}

/-! ## One request -/

/-- No other container changes: neither its bindings nor its parent, nor whether it lives. -/
def Spares (before after : Arena) (id : ContainerId) : Prop :=
  ∀ other, other ≠ id → after.get? other = before.get? other

theorem place_spares (sound : arena.Sound) :
    arena.Spares (arena.place parent).2 (arena.place parent).1 := by
  intro other apart
  simp [get?_place sound, apart]

theorem release_spares : arena.Spares (arena.release id) id := by
  intro other apart
  simp [get?_release, apart]

theorem modify_spares {change : Container → Container} :
    arena.Spares (arena.modify id change) id := by
  intro other apart
  simp [get?_modify, apart]

/-- There is room as long as there are fewer slots than handles can name. -/
theorem alloc_eq (roomy : arena.slots.size < tableLimit) :
    arena.alloc parent = .ok (arena.place parent) := by
  simp [alloc, hasRoom, roomy]

theorem release_stale (stale : arena.isLive id = false) : arena.release id = arena := by
  simp [release, stale]

/-- What a request that neither places nor frees does to its arena. -/
inductive Writes (arena : Arena) (id : ContainerId) : Arena → Prop
  | refused : Writes arena id arena
  | var (name : SymbolId) (value : Option Value) : Writes arena id (arena.putVar id name value)
  | candidates (name : SymbolId) (set : Option CandidateSet) :
      Writes arena id (arena.putCandidates id name set)

theorem Writes.alike (writes : arena.Writes id after) : arena.Alike after := by
  cases writes with
  | refused => exact .refl
  | var => exact putVar_alike
  | candidates => exact putCandidates_alike

theorem Writes.ages (writes : arena.Writes id after) : arena.Ages after := by
  cases writes with
  | refused => exact .refl
  | var => exact modify_ages
  | candidates => exact modify_ages

theorem Writes.spares (writes : arena.Writes id after) : arena.Spares after id := by
  cases writes with
  | refused => exact fun _ _ => rfl
  | var => exact modify_spares
  | candidates => exact modify_spares

/-- A request places a container, finds no room for one, frees one, or writes bindings. -/
inductive Performs (arena : Arena) : Request → Reply → Arena → Prop
  | placed (parent : Option ContainerId) :
      Performs arena (.alloc parent) (.issued (arena.place parent).1) (arena.place parent).2
  | full (parent : Option ContainerId) (fault : Fault) :
      Performs arena (.alloc parent) (.refused fault) arena
  | freed {id : ContainerId} (live : arena.isLive id = true) :
      Performs arena (.free id) (.freed true) (arena.release id)
  | stale {id : ContainerId} (stale : arena.isLive id = false) :
      Performs arena (.free id) (.freed false) arena
  | wrote {request : Request} {reply : Reply} {id : ContainerId} {after : Arena}
      (target : request.target? = some id) (unissued : issued? (request, reply) = none)
      (unfreed : freed? (request, reply) = none) (writes : arena.Writes id after) :
      Performs arena request reply after

theorem performs (arena : Arena) (request : Request) :
    arena.Performs request (arena.perform request).1 (arena.perform request).2 := by
  cases request with
  | alloc parent =>
      rw [perform, alloc]
      cases arena.hasRoom with
      | true => exact .placed parent
      | false => exact .full parent .arenaFull
  | free id =>
      rw [perform, dispose_eq]
      cases live : arena.isLive id with
      | true => exact .freed live
      | false =>
          rw [release_stale live]
          exact .stale live
  | setVar id name value =>
      rw [perform, setVar]
      cases arena.isLive id with
      | true => exact .wrote rfl rfl rfl (.var name (some value))
      | false => exact .wrote rfl rfl rfl .refused
  | removeVar id name => exact .wrote rfl rfl rfl (.var name none)
  | setCandidates id name set =>
      rw [perform, setCandidates]
      cases arena.isLive id with
      | true => exact .wrote rfl rfl rfl (.candidates name (some set))
      | false => exact .wrote rfl rfl rfl .refused
  | removeCandidates id name => exact .wrote rfl rfl rfl (.candidates name none)

theorem Performs.ages {reply : Reply} (performs : arena.Performs request reply after) :
    arena.Ages after := by
  cases performs with
  | placed => exact place_ages
  | full => exact .refl
  | freed => exact release_ages
  | stale => exact .refl
  | wrote _ _ _ writes => exact writes.ages

theorem Performs.spares {reply : Reply} (performs : arena.Performs request reply after)
    (target : request.target? = some id) : arena.Spares after id := by
  cases performs with
  | placed => cases target
  | full => cases target
  | freed =>
      cases target
      exact release_spares
  | stale => exact fun _ _ => rfl
  | wrote target' _ _ writes =>
      cases Option.some.inj (target.symm.trans target')
      exact writes.spares

/-! ## Whole histories -/

/-- No slot was freed so often that its generations repeat. -/
def Seldom (entries : List (Request × Reply)) : Prop :=
  ∀ index, (freed entries).countP (·.index = index) < UInt32.size

/-- How often a container of the slot was freed, none at all where there is no slot. -/
def freesAt (arena : Arena) (index : Nat) : Nat :=
  (arena.slots[index]?.map Slot.frees).getD 0

theorem freesAt_modifySlot {position index : Nat} {change : Slot → Slot} {free : Stack Nat}
    (kept : ∀ slot, (change slot).frees = slot.frees) :
    freesAt ⟨arena.slots.modify position change, free⟩ index = arena.freesAt index := by
  have same : Slot.frees ∘ change = Slot.frees := funext kept
  unfold freesAt
  rw [Array.getElem?_modify]
  split <;> simp [same]

theorem freesAt_place {index : Nat} :
    (arena.place parent).2.freesAt index = arena.freesAt index := by
  unfold place
  split
  · exact freesAt_modifySlot fun _ => rfl
  · unfold freesAt
    rw [Array.getElem?_push]
    split
    · next last => simp [last]
    · rfl

theorem freesAt_modify {change : Container → Container} {index : Nat} :
    (arena.modify id change).freesAt index = arena.freesAt index := by
  unfold modify
  split
  · exact freesAt_modifySlot fun _ => rfl
  · rfl

theorem freesAt_release {index : Nat} (live : arena.isLive id = true) :
    (arena.release id).freesAt index =
      arena.freesAt index + if id.index = index then 1 else 0 := by
  obtain ⟨container, found⟩ := Option.isSome_iff_exists.mp live
  obtain ⟨slot, stored, -⟩ := get?_eq_some_iff.mp found
  rw [release, if_pos live, freesAt, freesAt, Array.getElem?_modify]
  by_cases same : id.index = index
  · simp [same, same ▸ stored]
  · simp [same]

theorem Performs.freesAt {reply : Reply} {index : Nat}
    (performs : arena.Performs request reply after) : after.freesAt index =
      arena.freesAt index + (Arena.freed [(request, reply)]).countP (·.index = index) := by
  cases performs with
  | placed => exact freesAt_place
  | full => rfl
  | freed live => simpa [Arena.freed, freed?, List.countP_cons] using freesAt_release live
  | stale => rfl
  | wrote _ _ unfreed writes =>
      have idle : Arena.freed [(request, reply)] = [] := by simp [Arena.freed, unfreed]
      rw [idle]
      cases writes with
      | refused => rfl
      | var => exact freesAt_modify
      | candidates => exact freesAt_modify

/-- A slot counts how often it was freed. -/
theorem freesAt_of_transcribed {index : Nat}
    (transcribed : transcribe perform .empty requests = (entries, arena)) :
    arena.freesAt index = (freed entries).countP (·.index = index) := by
  apply holds_of_transcribed (motive := fun entries arena =>
    arena.freesAt index = (freed entries).countP (·.index = index)) rfl ?_ transcribed
  intro entries arena request counted
  simp only [(arena.performs request).freesAt, counted, freed, List.filterMap_append,
    List.countP_append]

theorem rare_of_seldom (transcribed : transcribe perform .empty requests = (entries, arena))
    (seldom : Seldom entries) : arena.Rare := by
  intro index slot stored
  have counted := @freesAt_of_transcribed arena requests entries index transcribed
  simp only [freesAt, stored, Option.map_some, Option.getD_some] at counted
  exact counted ▸ seldom index

theorem seldom_of_length (few : (freed entries).length < UInt32.size) : Seldom entries :=
  fun _ => Nat.lt_of_le_of_lt List.countP_le_length few

/-- The handles given out and those freed tell which containers live. -/
structure Accounted (arena : Arena) (entries : List (Request × Reply)) : Prop where
  sound : arena.Sound
  distinct : (issued entries).Nodup
  recorded (id : ContainerId) (given : id ∈ issued entries) : arena.Issued id
  given (id : ContainerId) (gone : id ∈ freed entries) : id ∈ issued entries
  live (id : ContainerId) : arena.isLive id = true ↔ id ∈ issued entries ∧ id ∉ freed entries

theorem accounted_empty : empty.Accounted [] where
  sound := empty_sound
  distinct := .nil
  recorded _ given := by simp [issued] at given
  given _ gone := by simp [freed] at gone
  live id := by simp [issued, isLive, get?, empty]

theorem issued_concat {entry : Request × Reply} :
    issued (entries ++ [entry]) = issued entries ++ (issued? entry).toList := by
  cases given : issued? entry <;> simp [issued, given]

theorem freed_concat {entry : Request × Reply} :
    freed (entries ++ [entry]) = freed entries ++ (freed? entry).toList := by
  cases gone : freed? entry <;> simp [freed, gone]

/-- A request that neither places nor frees changes nothing about handles. -/
theorem Accounted.alike {reply : Reply} (accounted : arena.Accounted entries)
    (alike : arena.Alike after) (ages : arena.Ages after)
    (unissued : issued? (request, reply) = none) (unfreed : freed? (request, reply) = none) :
    after.Accounted (entries ++ [(request, reply)]) where
  sound := alike.sound accounted.sound
  distinct := by simpa [issued_concat, unissued] using accounted.distinct
  recorded id given := by
    simp only [issued_concat, unissued, Option.toList_none, List.append_nil] at given
    exact ages.issued (accounted.recorded id given)
  given id gone := by
    simp only [freed_concat, unfreed, Option.toList_none, List.append_nil] at gone
    simpa [issued_concat, unissued] using accounted.given id gone
  live id := by
    simpa [issued_concat, unissued, freed_concat, unfreed, alike.live] using accounted.live id

theorem Accounted.fresh (accounted : arena.Accounted entries) (rare : arena.Rare) :
    (arena.place parent).1 ∉ issued entries :=
  fun given => place_unissued accounted.sound rare (accounted.recorded _ given)

theorem Accounted.place (accounted : arena.Accounted entries) (rare : (arena.place parent).2.Rare) :
    (arena.place parent).2.Accounted
      (entries ++ [(.alloc parent, .issued (arena.place parent).1)]) := by
  have sound := accounted.sound
  have fresh : (arena.place parent).1 ∉ issued entries := accounted.fresh (place_ages.rare rare)
  have placed : (arena.place parent).2.isLive (arena.place parent).1 = true := by
    simp [isLive, get?_place sound]
  exact {
    sound := place_sound sound
    distinct := by
      simp only [issued_concat, issued?, Option.toList_some]
      simpa using accounted.distinct.concat fresh
    recorded := by
      intro id given
      simp only [issued_concat, issued?, Option.toList_some, List.mem_append,
        List.mem_singleton] at given
      cases given with
      | inl earlier => exact place_ages.issued (accounted.recorded id earlier)
      | inr last => exact last ▸ issued_of_live rare placed
    given := by
      intro id gone
      simp only [freed_concat, freed?, Option.toList_none, List.append_nil] at gone
      simp [issued_concat, accounted.given id gone]
    live := by
      intro id
      simp only [issued_concat, issued?, freed_concat, freed?, Option.toList_some,
        Option.toList_none, List.append_nil, List.mem_append, List.mem_singleton]
      by_cases last : id = (arena.place parent).1
      · subst last
        simpa [placed] using fun gone => fresh (accounted.given _ gone)
      · have same : (arena.place parent).2.isLive id = arena.isLive id := by
          rw [isLive, place_spares sound id last, isLive]
        simp [same, last, accounted.live id] }

theorem Accounted.release (accounted : arena.Accounted entries) (live : arena.isLive id = true) :
    (arena.release id).Accounted (entries ++ [(.free id, .freed true)]) where
  sound := release_sound accounted.sound
  distinct := by simpa [issued_concat, issued?] using accounted.distinct
  recorded other given := by
    simp only [issued_concat, issued?, Option.toList_none, List.append_nil] at given
    exact release_ages.issued (accounted.recorded other given)
  given other gone := by
    simp only [freed_concat, freed?, Option.toList_some, List.mem_append,
      List.mem_singleton] at gone
    simp only [issued_concat, issued?, Option.toList_none, List.append_nil]
    cases gone with
    | inl earlier => exact accounted.given other earlier
    | inr last => exact last ▸ ((accounted.live id).mp live).1
  live other := by
    simp only [issued_concat, issued?, freed_concat, freed?, Option.toList_some,
      Option.toList_none, List.append_nil, List.mem_append, List.mem_singleton, isLive, get?_release]
    by_cases same : other = id
    · simp [same]
    · simpa [same, isLive] using accounted.live other

theorem Accounted.performs {reply : Reply} (accounted : arena.Accounted entries)
    (performs : arena.Performs request reply after) (rare : after.Rare) :
    after.Accounted (entries ++ [(request, reply)]) := by
  cases performs with
  | placed => exact accounted.place rare
  | full => exact accounted.alike .refl .refl rfl rfl
  | freed live => exact accounted.release live
  | stale => exact accounted.alike .refl .refl rfl rfl
  | wrote _ unissued unfreed writes =>
      exact accounted.alike writes.alike writes.ages unissued unfreed

theorem accounted_of_transcribed
    (transcribed : transcribe perform .empty requests = (entries, arena)) (rare : arena.Rare) :
    arena.Accounted entries := by
  -- An earlier arena is rare because a later one is, so the bound is an assumption of the invariant.
  apply holds_of_transcribed (motive := fun entries arena => arena.Rare → arena.Accounted entries)
    (fun _ => accounted_empty) ?_ transcribed rare
  intro entries arena request accounted rare
  have performs := arena.performs request
  exact (accounted (performs.ages.rare rare)).performs performs rare

/-- What the next request answers and does, given the requests before it. -/
structure Serves (arena : Arena) (entries : List (Request × Reply)) : Prop where
  /-- Every placing succeeds, with a new handle for an empty container. -/
  places (parent : Option ContainerId) : ∃ id after,
    arena.perform (.alloc parent) = (.issued id, after) ∧ id ∉ issued entries ∧
      after.get? id = some (.new parent) ∧ arena.Spares after id
  frees (id : ContainerId) : ∃ done after,
    arena.perform (.free id) = (.freed done, after) ∧ (done = true ↔ arena.isLive id = true) ∧
      after.isLive id = false ∧ (done = false → after = arena)
  spares {request : Request} {id : ContainerId} (target : request.target? = some id) :
    arena.Spares (arena.perform request).2 id

/-- No handle is given out twice, a handle is live from its placing until it is freed, and a request
concerns the container it names and no other. -/
theorem generational (transcribed : transcribe perform .empty requests = (entries, arena))
    (seldom : Seldom entries) (roomy : arena.slots.size < tableLimit) :
    (issued entries).Nodup ∧
      (∀ id, arena.isLive id = true ↔ id ∈ issued entries ∧ id ∉ freed entries) ∧
      arena.live = ((issued entries).filter (arena.isLive ·)).length ∧
      arena.Serves entries := by
  have rare := rare_of_seldom transcribed seldom
  have accounted := accounted_of_transcribed transcribed rare
  have sound := accounted.sound
  have counted : arena.live = ((issued entries).filter (arena.isLive ·)).length := by
    apply live_eq_length sound (accounted.distinct.filter _)
    intro id
    rw [List.mem_filter]
    exact ⟨And.right, fun live => ⟨((accounted.live id).mp live).1, live⟩⟩
  refine ⟨accounted.distinct, accounted.live, counted, ?_⟩
  exact {
    places := fun parent => by
      have placed : arena.perform (.alloc parent) =
          (.issued (arena.place parent).1, (arena.place parent).2) := by
        simp [perform, alloc_eq roomy]
      have fresh : (arena.place parent).1 ∉ issued entries :=
        fun given => place_unissued sound rare (accounted.recorded _ given)
      exact ⟨_, _, placed, fresh, by simp [get?_place sound], place_spares sound⟩
    frees := fun id => by
      refine ⟨arena.isLive id, arena.release id, ?_, Iff.rfl, ?_, release_stale⟩
      · rw [perform, dispose_eq]
      · simp [isLive, get?_release]
    spares := (arena.performs _).spares }

/-- Uses a slot again while handles of its first container are still around. -/
def reusingRequests : List Request :=
  [.alloc none, .alloc (some ⟨0, 0⟩), .setVar ⟨1, 0⟩ ⟨0⟩ (.int 7), .free ⟨1, 0⟩, .free ⟨1, 0⟩,
    .alloc (some ⟨1, 0⟩), .setVar ⟨1, 0⟩ ⟨0⟩ (.int 8), .free ⟨1, 0⟩]

theorem generational_reusing :
    (transcribe perform .empty reusingRequests).2.Serves
        (transcribe perform .empty reusingRequests).1 ∧
      issued (transcribe perform .empty reusingRequests).1 = [⟨0, 0⟩, ⟨1, 0⟩, ⟨1, 1⟩] ∧
      freed (transcribe perform .empty reusingRequests).1 = [⟨1, 0⟩] ∧
      (transcribe perform .empty reusingRequests).2.live = 2 ∧
      (transcribe perform .empty reusingRequests).2.var? ⟨1, 1⟩ ⟨0⟩ = none := by
  have transcribed : transcribe perform .empty reusingRequests =
      ((transcribe perform .empty reusingRequests).1,
        (transcribe perform .empty reusingRequests).2) := rfl
  obtain ⟨-, -, -, serves⟩ :=
    generational transcribed (seldom_of_length (by decide +kernel)) (by decide +kernel)
  exact ⟨serves, by decide +kernel, by decide +kernel, by decide +kernel, by decide +kernel⟩

end Backtrack.Arena
