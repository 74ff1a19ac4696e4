import Backtrack.Proofs.Generations
import Mathlib.Data.List.Find

/-!
Lookups through every history of an arena. A container is placed inside one whose handle was given
out earlier. So every chain of parents leads to handles that are older and older, and it ends,
though it may come back to a slot that was used again in between. A lookup sees the live containers
up to the first stale handle, and nothing behind it.
-/

namespace Backtrack.Arena

variable {arena after other : Arena} {id start parent child : ContainerId} {name : SymbolId}
  {path : List ContainerId} {request : Request} {reply : Reply} {requests : List Request}
  {entries : List (Request × Reply)} {known : List ContainerId}

/-! ## The live part of a chain -/

/-- Candidate sets joined one after the other, from the inside outward. -/
def joined? : List CandidateSet → Option CandidateSet
  | [] => none
  | inner :: outer => some (outer.foldl CandidateSet.join inner)

/-- The live containers from a handle outward, up to the first stale handle. -/
inductive LivePath (arena : Arena) : ContainerId → List ContainerId → Prop
  | stale {id : ContainerId} (gone : arena.get? id = none) : LivePath arena id []
  | outermost {id : ContainerId} {container : Container} (found : arena.get? id = some container)
      (ends : container.parent = none) : LivePath arena id [id]
  | within {id parent : ContainerId} {container : Container} {path : List ContainerId}
      (found : arena.get? id = some container) (inside : container.parent = some parent)
      (outward : LivePath arena parent path) : LivePath arena id (id :: path)

/-- A chain that comes back to where it was would have no end. -/
theorem exists_livePath
    (grounded : WellFounded fun parent child => arena.parent? child = some parent)
    (start : ContainerId) : ∃ path, arena.LivePath start path := by
  induction start using grounded.induction with
  | _ id outward =>
      cases found : arena.get? id with
      | none => exact ⟨[], .stale found⟩
      | some container =>
          cases inside : container.parent with
          | none => exact ⟨[id], .outermost found inside⟩
          | some parent =>
              obtain ⟨path, outward⟩ := outward parent (by simp [parent?, found, inside])
              exact ⟨id :: path, .within found inside outward⟩

namespace LivePath

theorem live (livePath : arena.LivePath start path) (member : id ∈ path) :
    arena.isLive id = true := by
  induction livePath with
  | stale => cases member
  | outermost found =>
      rw [List.mem_singleton.mp member, isLive, found]
      rfl
  | within found _ _ ih =>
      rcases List.mem_cons.mp member with rfl | outer
      · rw [isLive, found]
        rfl
      · exact ih outer

/-- Behind the live containers, a chain has at most the stale handle that ends it. -/
theorem trail (livePath : arena.LivePath start path) :
    ∃ behind, Trail arena.parent? start (path ++ behind) ∧ behind.length ≤ 1 ∧
      ∀ id ∈ behind, arena.get? id = none := by
  induction livePath with
  | @stale id gone =>
      refine ⟨[id], .last (by simp [parent?, gone]), Nat.le_refl 1, fun other member => ?_⟩
      rw [List.mem_singleton.mp member, gone]
  | outermost found ends =>
      exact ⟨[], .last (by simp [parent?, found, ends]), Nat.zero_le 1, by simp⟩
  | within found inside _ ih =>
      obtain ⟨behind, trail, short, gone⟩ := ih
      exact ⟨behind, .more (by simp [parent?, found, inside]) trail, short, gone⟩

theorem ancestry (livePath : arena.LivePath start path) :
    ∃ behind, arena.ancestry start = path ++ behind ∧ Trail arena.parent? start (path ++ behind) ∧
      ∀ id ∈ behind, arena.get? id = none := by
  obtain ⟨behind, trail, short, gone⟩ := livePath.trail
  refine ⟨behind, trail.chain_eq ?_, trail, gone⟩
  have few := length_le_of_live (List.Nodup.of_append_left trail.nodup) fun _ => livePath.live
  rw [List.length_append, reach]
  omega

theorem eq_filter (livePath : arena.LivePath start path) :
    path = (arena.ancestry start).filter (arena.isLive ·) := by
  obtain ⟨behind, passed, -, gone⟩ := livePath.ancestry
  have dropped : behind.filter (arena.isLive ·) = [] :=
    List.filter_eq_nil_iff.mpr fun id member => by simp [isLive, gone id member]
  have all : path.filter (arena.isLive ·) = path :=
    List.filter_eq_self.mpr fun _ => livePath.live
  rw [passed, List.filter_append, dropped, all, List.append_nil]

theorem findVar?_eq (livePath : arena.LivePath start path) :
    arena.findVar? start name = path.find? fun id => (arena.var? id name).isSome := by
  obtain ⟨behind, passed, -, gone⟩ := livePath.ancestry
  have unbound : behind.find? (fun id => (arena.var? id name).isSome) = none :=
    List.find?_eq_none.mpr fun id member => by simp [var?, gone id member]
  rw [findVar?_eq_find?, passed, List.find?_append, unbound, Option.or_none]

theorem lookupVar?_eq (livePath : arena.LivePath start path) :
    arena.lookupVar? start name = path.findSome? (arena.var? · name) := by
  rw [lookupVar?, livePath.findVar?_eq]
  clear livePath
  induction path with
  | nil => rfl
  | cons id path ih =>
      rw [List.find?_cons, List.findSome?_cons]
      cases bound : arena.var? id name with
      | none => exact ih
      | some value => exact bound

theorem resolve_eq (livePath : arena.LivePath start path) :
    arena.resolve start name = joined? (path.filterMap (arena.candidates? · name)) := by
  obtain ⟨behind, passed, -, gone⟩ := livePath.ancestry
  have unbound : behind.filterMap (arena.candidates? · name) = [] :=
    List.filterMap_eq_nil_iff.mpr fun id member => by simp [candidates?, gone id member]
  rw [resolve, passed, List.filterMap_append, unbound, List.append_nil]
  cases path.filterMap (arena.candidates? · name) with
  | nil => rfl
  | cons inner outer => exact congrArg some (CandidateSet.joinAll_eq_foldl inner outer)

/-- Only the handles of the chain matter. -/
theorem congr (livePath : arena.LivePath start path)
    (same : ∀ id ∈ arena.ancestry start, other.get? id = arena.get? id) :
    other.LivePath start path := by
  obtain ⟨behind, passed, trail, -⟩ := livePath.ancestry
  rw [passed] at same
  clear passed
  induction livePath with
  | stale gone => exact .stale ((same _ trail.mem_start).trans gone)
  | outermost found ends => exact .outermost ((same _ trail.mem_start).trans found) ends
  | @within id parent container path found inside _ ih =>
      have leads : arena.parent? id = some parent := by simp [parent?, found, inside]
      obtain ⟨rest, items, onward⟩ := trail.onward leads
      obtain ⟨-, rfl⟩ := List.cons.inj items
      exact .within ((same id trail.mem_start).trans found) inside
        (ih (fun id member => same id (List.mem_cons_of_mem _ member)) onward)

theorem lookups_congr (livePath : arena.LivePath start path)
    (same : ∀ id ∈ arena.ancestry start, other.get? id = arena.get? id) :
    other.findVar? start name = arena.findVar? start name ∧
      other.lookupVar? start name = arena.lookupVar? start name ∧
      other.resolve start name = arena.resolve start name := by
  have livePath' := livePath.congr same
  obtain ⟨behind, passed, -⟩ := livePath.ancestry
  have kept : ∀ id ∈ path, other.get? id = arena.get? id := fun id member =>
    same id (passed ▸ List.mem_append_left behind member)
  have vars : path.map (other.var? · name) = path.map (arena.var? · name) :=
    List.map_congr_left fun id member => by rw [var?, var?, kept id member]
  refine ⟨?_, ?_, ?_⟩
  · rw [livePath'.findVar?_eq, livePath.findVar?_eq]
    exact List.find?_congr fun id member => by rw [var?, var?, kept id member]
  · have first (arena : Arena) : path.findSome? (arena.var? · name) =
        (path.map (arena.var? · name)).findSome? fun value => value := by
      rw [List.findSome?_map]
      rfl
    rw [livePath'.lookupVar?_eq, livePath.lookupVar?_eq, first, first, vars]
  · rw [livePath'.resolve_eq, livePath.resolve_eq]
    exact congrArg joined? (List.filterMap_congr fun id member => by
      rw [candidates?, candidates?, kept id member])

end LivePath

/-- What lookups from a handle find, where the live containers from there outward are these. -/
structure Looks (arena : Arena) (start : ContainerId) (path : List ContainerId) : Prop where
  livePath : arena.LivePath start path
  unique (path' : List ContainerId) (livePath' : arena.LivePath start path') : path' = path
  /-- The chain is followed to its end, however many more steps are allowed. -/
  ends : Trail arena.parent? start (arena.ancestry start) ∧
    ∀ steps, arena.reach ≤ steps → chain arena.parent? steps start = arena.ancestry start
  finds (name : SymbolId) :
    arena.findVar? start name = path.find? fun id => (arena.var? id name).isSome
  looksUp (name : SymbolId) : arena.lookupVar? start name = path.findSome? (arena.var? · name)
  resolves (name : SymbolId) :
    arena.resolve start name = joined? (path.filterMap (arena.candidates? · name))
  /-- Nothing else is looked at. -/
  ignores (other : Arena) (same : ∀ id ∈ arena.ancestry start, other.get? id = arena.get? id)
    (name : SymbolId) : other.findVar? start name = arena.findVar? start name ∧
      other.lookupVar? start name = arena.lookupVar? start name ∧
      other.resolve start name = arena.resolve start name

/-- What a lookup sees is decided by the live containers of the chain, which has an end. -/
theorem LivePath.looks (livePath : arena.LivePath start path) : arena.Looks start path := by
  obtain ⟨behind, passed, trail, -⟩ := livePath.ancestry
  have followed : Trail arena.parent? start (arena.ancestry start) := passed ▸ trail
  exact {
    livePath
    unique := fun path' livePath' => livePath'.eq_filter.trans livePath.eq_filter.symm
    ends := ⟨followed, fun steps enough => followed.chain_eq (chain_length_le.trans enough)⟩
    finds := fun _ => livePath.findVar?_eq
    looksUp := fun _ => livePath.lookupVar?_eq
    resolves := fun _ => livePath.resolve_eq
    ignores := fun other same name => livePath.lookups_congr same }

/-! ## Older and older handles -/

/-- The container that a request places a new one inside of. -/
def Request.parent? : Request → Option ContainerId
  | .alloc parent => parent
  | _ => none

/-- Containers are placed only inside of ones whose handles are known by then. -/
def Grounded (known : List ContainerId) : List (Request × Reply) → Prop
  | [] => True
  | entry :: later =>
      (∀ parent ∈ entry.1.parent?, parent ∈ known) ∧
        Grounded (known ++ (issued? entry).toList) later

instance decidableGrounded : (known : List ContainerId) → (entries : List (Request × Reply)) →
    Decidable (Grounded known entries)
  | _, [] => inferInstanceAs (Decidable True)
  | known, entry :: later =>
      have := decidableGrounded (known ++ (issued? entry).toList) later
      inferInstanceAs (Decidable (_ ∧ _))

theorem grounded_concat {entry : Request × Reply} :
    Grounded known (entries ++ [entry]) ↔
      Grounded known entries ∧ ∀ parent ∈ entry.1.parent?, parent ∈ known ++ issued entries := by
  induction entries generalizing known with
  | nil => simp [Grounded, issued]
  | cons first later ih =>
      rw [List.cons_append, Grounded, ih, Grounded, and_assoc]
      have given : issued (first :: later) = (issued? first).toList ++ issued later := by
        cases found : issued? first <;> simp [issued, found]
      rw [given, List.append_assoc]

/-- The parent of every live container has the older handle. -/
def Ordered (arena : Arena) (entries : List (Request × Reply)) : Prop :=
  ∀ child parent, arena.parent? child = some parent →
    (issued entries).idxOf parent < (issued entries).idxOf child

theorem Ordered.wellFounded (ordered : arena.Ordered entries) :
    WellFounded fun parent child => arena.parent? child = some parent :=
  Subrelation.wf (fun {parent child} inside => ordered child parent inside)
    (measure fun id => (issued entries).idxOf id).wf

/-- Handles that are given out later are younger. -/
theorem Ordered.concat {entry : Request × Reply} (ordered : arena.Ordered entries)
    (accounted : arena.Accounted entries) (inside : arena.parent? child = some parent) :
    (issued (entries ++ [entry])).idxOf parent < (issued (entries ++ [entry])).idxOf child := by
  have older := ordered child parent inside
  have given := ((accounted.live child).mp (live_of_parent? inside)).1
  have given' : parent ∈ issued entries :=
    List.idxOf_lt_length_iff.mp (older.trans (List.idxOf_lt_length_of_mem given))
  rw [issued_concat, List.idxOf_append_of_mem given, List.idxOf_append_of_mem given']
  exact older

theorem Ordered.place {outer : Option ContainerId} (ordered : arena.Ordered entries)
    (accounted : arena.Accounted entries) (rare : arena.Rare)
    (known : ∀ parent ∈ outer, parent ∈ issued entries) :
    (arena.place outer).2.Ordered (entries ++ [(.alloc outer, .issued (arena.place outer).1)]) := by
  intro child parent inside
  by_cases new : child = (arena.place outer).1
  · rw [new, parent?_place_self accounted.sound] at inside
    have given := known parent inside
    rw [new, issued_concat, List.idxOf_append_of_mem given,
      List.idxOf_append_of_notMem (accounted.fresh rare)]
    exact (List.idxOf_lt_length_of_mem given).trans_le (Nat.le_add_right ..)
  · rw [Arena.parent?, place_spares accounted.sound child new] at inside
    exact ordered.concat accounted inside

theorem Ordered.performs (ordered : arena.Ordered entries) (accounted : arena.Accounted entries)
    (rare : arena.Rare) (known : ∀ parent ∈ request.parent?, parent ∈ issued entries)
    (performs : arena.Performs request reply after) :
    after.Ordered (entries ++ [(request, reply)]) := by
  cases performs with
  | placed => exact ordered.place accounted rare known
  | full | stale => exact fun child parent inside => ordered.concat accounted inside
  | @freed id live =>
      intro child parent inside
      rw [Arena.parent?, get?_release] at inside
      split at inside
      · cases inside
      · exact ordered.concat accounted inside
  | wrote _ _ _ writes =>
      intro child parent inside
      rw [writes.alike.parents] at inside
      exact ordered.concat accounted inside

theorem ordered_of_transcribed
    (transcribed : transcribe perform .empty requests = (entries, arena))
    (grounded : Grounded [] entries) (rare : arena.Rare) : arena.Ordered entries := by
  suffices holds : arena.Accounted entries ∧ arena.Ordered entries from holds.2
  -- What is assumed of a whole history holds of each part of it.
  apply holds_of_transcribed (motive := fun entries arena => Grounded [] entries → arena.Rare →
    arena.Accounted entries ∧ arena.Ordered entries) ?_ ?_ transcribed grounded rare
  · refine fun _ _ => ⟨accounted_empty, fun child parent inside => ?_⟩
    simp [Arena.parent?, get?, empty] at inside
  · intro entries arena request earlier grounded rare
    have performs := arena.performs request
    obtain ⟨grounded, known⟩ := grounded_concat.mp grounded
    have rare' := performs.ages.rare rare
    obtain ⟨accounted, ordered⟩ := earlier grounded rare'
    exact ⟨accounted.performs performs rare, ordered.performs accounted rare' known performs⟩

/-- No chain of parents comes back to where it was, whichever handles containers were placed inside
of. So lookups from any handle come to an end, and see the live containers up to the first stale
handle. -/
theorem lookups_end (transcribed : transcribe perform .empty requests = (entries, arena))
    (grounded : Grounded [] entries) (seldom : Seldom entries) :
    (WellFounded fun parent child => arena.parent? child = some parent) ∧
      ∀ start, ∃ path, arena.Looks start path := by
  have ordered := ordered_of_transcribed transcribed grounded (rare_of_seldom transcribed seldom)
  refine ⟨ordered.wellFounded, fun start => ?_⟩
  obtain ⟨path, livePath⟩ := exists_livePath ordered.wellFounded start
  exact ⟨path, livePath.looks⟩

/-- A container is placed in the slot of the one that it is placed inside of, which was freed. The
first container binds two names, which cannot be seen from inside of the last. -/
def reboundRequests : List Request :=
  [.alloc none, .setVar ⟨0, 0⟩ ⟨0⟩ (.int 1), .setCandidates ⟨0, 0⟩ ⟨1⟩ ⟨⟨1⟩, [⟨0⟩]⟩,
    .alloc (some ⟨0, 0⟩), .free ⟨1, 0⟩, .alloc (some ⟨1, 0⟩),
    .setCandidates ⟨1, 1⟩ ⟨1⟩ ⟨⟨1⟩, [⟨1⟩]⟩, .alloc (some ⟨1, 1⟩),
    .setCandidates ⟨2, 0⟩ ⟨1⟩ ⟨⟨1⟩, [⟨2⟩, ⟨3⟩]⟩]

theorem lookups_end_rebound :
    (transcribe perform .empty reboundRequests).2.LivePath ⟨2, 0⟩ [⟨2, 0⟩, ⟨1, 1⟩] ∧
      (transcribe perform .empty reboundRequests).2.ancestry ⟨2, 0⟩ = [⟨2, 0⟩, ⟨1, 1⟩, ⟨1, 0⟩] ∧
      (transcribe perform .empty reboundRequests).2.lookupVar? ⟨2, 0⟩ ⟨0⟩ = none ∧
      (transcribe perform .empty reboundRequests).2.resolve ⟨2, 0⟩ ⟨1⟩ =
        some ⟨⟨1⟩, [⟨2⟩, ⟨3⟩, ⟨1⟩]⟩ := by
  have transcribed : transcribe perform .empty reboundRequests =
      ((transcribe perform .empty reboundRequests).1,
        (transcribe perform .empty reboundRequests).2) := rfl
  obtain ⟨-, looks⟩ :=
    lookups_end transcribed (by decide +kernel) (seldom_of_length (by decide +kernel))
  obtain ⟨path, looks⟩ := looks ⟨2, 0⟩
  have passed : path = [⟨2, 0⟩, ⟨1, 1⟩] := by
    rw [looks.livePath.eq_filter]
    decide +kernel
  exact ⟨passed ▸ looks.livePath, by decide +kernel, by decide +kernel, by decide +kernel⟩

end Backtrack.Arena
