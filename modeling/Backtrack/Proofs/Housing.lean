import Backtrack.Proofs.Layers
import Backtrack.Proofs.Rebinding

/-!
Who owns which containers. The containers of a frame are a chain from its innermost container up to
the global one, and the chains of two frames have nothing but the global container in common. So
the release of one frame's containers leaves every other frame's chain as it is.
-/

namespace Backtrack

namespace Arena

variable {arena after : Arena} {globals id other : ContainerId} {frame frame' : Frame}
  {blocks : List ContainerId} {ids : List ContainerId} {parent : Option ContainerId}

theorem get?_releaseAll :
    (arena.releaseAll ids).get? other = if other ∈ ids then none else arena.get? other := by
  induction ids generalizing arena with
  | nil => simp [releaseAll]
  | cons id rest ih =>
      rw [releaseAll, List.foldl_cons, ← releaseAll, ih, get?_release]
      by_cases first : other = id
      · simp [first]
      · simp [first]

theorem releaseAll_sound (sound : arena.Sound) : (arena.releaseAll ids).Sound := by
  induction ids generalizing arena with
  | nil => exact sound
  | cons id rest ih => exact ih (release_sound sound)

theorem parent?_releaseAll (kept : other ∉ ids) :
    (arena.releaseAll ids).parent? other = arena.parent? other := by
  rw [parent?, parent?, get?_releaseAll, if_neg kept]

theorem isLive_releaseAll (kept : other ∉ ids) :
    (arena.releaseAll ids).isLive other = arena.isLive other := by
  rw [isLive, isLive, get?_releaseAll, if_neg kept]

theorem not_live_releaseAll (released : other ∈ ids) :
    (arena.releaseAll ids).isLive other = false := by
  rw [isLive, get?_releaseAll, if_pos released]
  rfl

theorem live_of_parent? (enclosed : arena.parent? id = some other) : arena.isLive id = true := by
  obtain ⟨container, found, -⟩ := Option.bind_eq_some_iff.mp enclosed
  rw [isLive, found]
  rfl

theorem parent?_place (sound : arena.Sound) (live : arena.isLive id = true) :
    (arena.place parent).2.parent? id = arena.parent? id := by
  rw [parent?, parent?, (get?_place_live sound live).2]

theorem parent?_place_self (sound : arena.Sound) :
    (arena.place parent).2.parent? (arena.place parent).1 = parent := by
  rw [parent?, get?_place sound, if_pos rfl]
  rfl

theorem isLive_place (sound : arena.Sound) (live : arena.isLive id = true) :
    (arena.place parent).2.isLive id = true := by
  rw [isLive, get?_place sound]
  split
  · rfl
  · exact live

/-- There are at most as many live handles as slots. -/
theorem length_le_of_live (distinct : ids.Nodup) (live : ∀ id ∈ ids, arena.isLive id = true) :
    ids.length ≤ arena.slots.size := by
  have indices : ids.map ContainerId.index ⊆ List.range arena.slots.size := by
    intro index member
    obtain ⟨id, listed, rfl⟩ := List.mem_map.mp member
    exact List.mem_range.mpr (index_lt (live id listed))
  simpa using (nodup_indices distinct live).length_le_of_subset indices

/-- The containers of a frame, innermost first, lead to the global one. -/
structure Dwells (arena : Arena) (globals : ContainerId) (frame : Frame)
    (blocks : List ContainerId) : Prop where
  trail : Trail arena.parent? frame.scope (blocks ++ [globals])
  based : frame.base = globals ∨ blocks.getLast? = some frame.base

namespace Dwells

theorem unique {others : List ContainerId} (dwells : arena.Dwells globals frame blocks)
    (dwells' : arena.Dwells globals frame others) : blocks = others :=
  List.append_cancel_right (dwells.trail.unique dwells'.trail)

theorem globals_not_mem (dwells : arena.Dwells globals frame blocks) : globals ∉ blocks := by
  have distinct := dwells.trail.nodup
  rw [List.nodup_append] at distinct
  exact fun member => distinct.2.2 globals member globals (by simp) rfl

theorem live (dwells : arena.Dwells globals frame blocks) (member : id ∈ blocks) :
    arena.isLive id = true := by
  have leads := dwells.trail.leads_of_mem (List.mem_append_left _ member) (by
    rw [List.getLast?_concat]
    rintro same
    exact dwells.globals_not_mem (Option.some.inj same ▸ member))
  obtain ⟨parent, enclosed⟩ := Option.isSome_iff_exists.mp leads
  exact live_of_parent? enclosed

theorem live_scope (dwells : arena.Dwells globals frame blocks)
    (live : arena.isLive globals = true) : arena.isLive frame.scope = true := by
  rcases List.mem_append.mp dwells.trail.mem_start with inner | outer
  · exact dwells.live inner
  · exact List.mem_singleton.mp outer ▸ live

theorem ancestry (dwells : arena.Dwells globals frame blocks) (live : arena.isLive globals = true) :
    arena.ancestry frame.scope = blocks ++ [globals] := by
  refine dwells.trail.chain_eq (Nat.le_succ_of_le (length_le_of_live dwells.trail.nodup ?_))
  intro id member
  rcases List.mem_append.mp member with inner | outer
  · exact dwells.live inner
  · exact List.mem_singleton.mp outer ▸ live

theorem through_absent {last : ContainerId} (absent : last ∉ blocks) :
    through (· = last) blocks = blocks := by
  have differ (block : ContainerId) (member : block ∈ blocks) : block ≠ last := by
    rintro rfl
    exact absent member
  have missed : blocks.find? (· = last) = none := by
    simpa [List.find?_eq_none] using differ
  have all : blocks.takeWhile (fun block => !decide (block = last)) = blocks := by
    rw [List.takeWhile_eq_self_iff]
    simpa using differ
  rw [through, missed, all, Option.toList_none, List.append_nil]

theorem through_last {last : ContainerId} {front : List ContainerId} (absent : last ∉ front) :
    through (· = last) (front ++ [last]) = front ++ [last] := by
  have differ (block : ContainerId) (member : block ∈ front) : block ≠ last := by
    rintro rfl
    exact absent member
  have missed : front.find? (· = last) = none := by
    simpa [List.find?_eq_none] using differ
  rw [through, List.find?_append, missed, List.takeWhile_append_of_pos (by simpa using differ)]
  simp

/-- What a frame frees when it ends is its chain below the global container. -/
theorem dwelling (dwells : arena.Dwells globals frame blocks)
    (live : arena.isLive globals = true) : arena.dwelling globals frame = blocks := by
  have below : (blocks ++ [globals]).takeWhile (· ≠ globals) = blocks := by
    have inner (block : ContainerId) (member : block ∈ blocks) :
        decide (block ≠ globals) = true := by
      refine decide_eq_true ?_
      rintro rfl
      exact dwells.globals_not_mem member
    rw [List.takeWhile_append_of_pos inner, List.takeWhile_cons_of_neg (by simp), List.append_nil]
  rw [Arena.dwelling, dwells.ancestry live, below]
  rcases dwells.based with same | last
  · rw [same]
    exact through_absent dwells.globals_not_mem
  · obtain ⟨front, rfl⟩ := List.getLast?_eq_some_iff.mp last
    refine through_last fun again => ?_
    have distinct := (List.nodup_append.mp dwells.trail.nodup).1
    exact (List.nodup_append.mp distinct).2.2 _ again _ (by simp) rfl

/-- Only a frame that starts in the global container is in no other. -/
theorem outermost (dwells : arena.Dwells globals frame blocks) (same : frame.scope = globals) :
    frame.base = globals := by
  refine dwells.based.resolve_right fun last => ?_
  cases blocks with
  | nil => cases last
  | cons block rest =>
      have first := dwells.trail.head?
      rw [List.cons_append, List.head?_cons, same] at first
      exact dwells.globals_not_mem (Option.some.inj first ▸ List.mem_cons_self)

/-- A frame that pushed a container can leave it. -/
theorem inner (dwells : arena.Dwells globals frame blocks) (differ : frame.scope ≠ frame.base) :
    ∃ rest, blocks = frame.scope :: rest ∧ (rest = [] → frame.base = globals) ∧
      (rest ++ [globals]).head? = arena.parent? frame.scope := by
  obtain ⟨trail, based⟩ := dwells
  cases blocks with
  | nil =>
      have first := trail.head?
      rw [List.nil_append, List.head?_cons] at first
      exact absurd ((Option.some.inj first).symm.trans (based.resolve_right nofun).symm) differ
  | cons block rest =>
      have first := trail.head?
      rw [List.cons_append, List.head?_cons] at first
      cases first
      refine ⟨rest, rfl, fun single => based.resolve_right fun last => ?_, ?_⟩
      · rw [single] at last
        exact differ (Option.some.inj last)
      · cases whole : rest ++ [globals] with
        | nil => simp at whole
        | cons following further =>
            rw [List.cons_append, whole] at trail
            cases trail with
            | more leads onward =>
                rw [leads, ← onward.head?, List.head?_cons]

/-- Frames that look alike dwell alike, as long as their containers stay chained. -/
theorem congr (dwells : arena.Dwells globals frame blocks)
    (parents : ∀ id ∈ blocks ++ [globals], after.parent? id = arena.parent? id)
    (scope : frame'.scope = frame.scope) (base : frame'.base = frame.base) :
    after.Dwells globals frame' blocks :=
  ⟨scope ▸ dwells.trail.congr parents, base ▸ dwells.based⟩

end Dwells

theorem releaseAll_append {others : List ContainerId} :
    arena.releaseAll (ids ++ others) = (arena.releaseAll ids).releaseAll others :=
  List.foldl_append

/-- Frames without a container in common are vacated as if all their containers were freed at
once. -/
theorem vacateAll_eq {frames : List Frame} (live : arena.isLive globals = true)
    (dwell : ∀ frame ∈ frames, ∃ blocks, arena.Dwells globals frame blocks)
    (apart : frames.Pairwise fun frame frame' => ∀ blocks blocks',
      arena.Dwells globals frame blocks → arena.Dwells globals frame' blocks' →
        ∀ block ∈ blocks, block ∉ blocks') :
    arena.vacateAll globals frames =
      arena.releaseAll (frames.flatMap (arena.dwelling globals)) := by
  induction frames generalizing arena with
  | nil => rfl
  | cons frame rest ih =>
      obtain ⟨differ, others⟩ := List.pairwise_cons.mp apart
      obtain ⟨blocks, dwells⟩ := dwell frame (by simp)
      have spared := dwells.globals_not_mem
      have stays {other : Frame} {blocks' : List ContainerId} (member : other ∈ rest)
          (dwells' : arena.Dwells globals other blocks') :
          (arena.releaseAll blocks).Dwells globals other blocks' := by
        refine dwells'.congr (fun block inside => parent?_releaseAll fun gone => ?_) rfl rfl
        rcases List.mem_append.mp inside with inner | outer
        · exact differ other member blocks blocks' dwells dwells' block gone inner
        · exact spared (List.mem_singleton.mp outer ▸ gone)
      rw [vacateAll, List.foldl_cons, ← vacateAll, vacate, dwells.dwelling live]
      have live' := (isLive_releaseAll spared).trans live
      rw [ih live' (fun other member => ?_) (others.imp_of_mem fun first second apart => ?_)]
      · rw [List.flatMap_cons, dwells.dwelling live, releaseAll_append]
        refine congrArg _ (List.flatMap_congr fun other member => ?_)
        obtain ⟨blocks', dwells'⟩ := dwell other (by simp [member])
        rw [dwells'.dwelling live, (stays member dwells').dwelling live']
      · obtain ⟨blocks', dwells'⟩ := dwell other (by simp [member])
        exact ⟨blocks', stays member dwells'⟩
      · intro held held' owned owned' block inside
        obtain ⟨blocks', dwells'⟩ := dwell _ (List.mem_cons_of_mem _ first)
        obtain ⟨blocks'', dwells''⟩ := dwell _ (List.mem_cons_of_mem _ second)
        cases (stays first dwells').unique owned
        cases (stays second dwells'').unique owned'
        exact apart _ _ dwells' dwells'' block inside

end Arena

/-! Frames of a machine -/

section Frames

variable {find find' : CoroutineId → Option Coroutine} {arena after : Arena}
  {globals : ContainerId} {current id : CoroutineId} {coroutine changed : Coroutine}
  {ids : List ContainerId}

/-- A coroutine has a frame at a depth. -/
def Stands (find : CoroutineId → Option Coroutine) (id : CoroutineId) (depth : Nat)
    (frame : Frame) : Prop :=
  ∃ coroutine, find id = some coroutine ∧ coroutine.frames.at? depth = some frame

theorem stands_replace {other : CoroutineId} {depth : Nat} {frame : Frame} :
    Stands (replace find id changed) other depth frame ↔
      (other = id ∧ changed.frames.at? depth = some frame) ∨
        (other ≠ id ∧ Stands find other depth frame) := by
  by_cases same : other = id
  · cases same
    simp [Stands]
  · simp [Stands, same, replace_other same]

structure Housed (find : CoroutineId → Option Coroutine) (arena : Arena) (globals : ContainerId) :
    Prop where
  sound : arena.Sound
  live : arena.isLive globals = true
  top : arena.parent? globals = none
  dwells {id : CoroutineId} {depth : Nat} {frame : Frame} (stands : Stands find id depth frame) :
    ∃ blocks, arena.Dwells globals frame blocks
  /-- No container belongs to two frames. -/
  apart {id id' : CoroutineId} {depth depth' : Nat} {frame frame' : Frame}
    {blocks blocks' : List ContainerId} {block : ContainerId} (stands : Stands find id depth frame)
    (stands' : Stands find id' depth' frame') (dwells : arena.Dwells globals frame blocks)
    (dwells' : arena.Dwells globals frame' blocks') (inside : block ∈ blocks)
    (inside' : block ∈ blocks') : id = id' ∧ depth = depth'
  /-- Only the first frame of the root has handlers for the global container. -/
  rooted {id : CoroutineId} {coroutine : Coroutine} {handler : Handler} {owner : Frame}
    (found : find id = some coroutine) (installed : handler ∈ coroutine.handlers)
    (owned : coroutine.frames.at? handler.depth = some owner)
    (outermost : handler.scope = globals) : owner.base = globals

namespace Housed

/-- Frames lose containers, or one frame gains one that was not there before. -/
theorem transfer (housed : Housed find arena globals) (id₀ : CoroutineId) (depth₀ : Nat)
    (sound : after.Sound) (live : after.isLive globals = true) (top : after.parent? globals = none)
    (frames : ∀ {id depth frame'}, Stands find' id depth frame' →
      ∃ blocks', after.Dwells globals frame' blocks' ∧ ∀ block ∈ blocks',
        (∃ frame blocks, Stands find id depth frame ∧ arena.Dwells globals frame blocks ∧
          block ∈ blocks) ∨
        (id = id₀ ∧ depth = depth₀ ∧ arena.isLive block = false))
    (rooted : ∀ {id coroutine handler owner}, find' id = some coroutine →
      handler ∈ coroutine.handlers → coroutine.frames.at? handler.depth = some owner →
      handler.scope = globals → owner.base = globals) :
    Housed find' after globals where
  sound := sound
  live := live
  top := top
  dwells stands := by
    obtain ⟨blocks, dwells, -⟩ := frames stands
    exact ⟨blocks, dwells⟩
  apart {id id' depth depth' frame frame' blocks blocks' block} stands stands' dwells dwells'
      inside inside' := by
    obtain ⟨_, known, origin⟩ := frames stands
    obtain ⟨_, known', origin'⟩ := frames stands'
    cases dwells.unique known
    cases dwells'.unique known'
    rcases origin block inside with ⟨_, _, here, owned, held⟩ | ⟨rfl, rfl, unused⟩ <;>
    rcases origin' block inside' with ⟨_, _, here', owned', held'⟩ | ⟨rfl, rfl, unused'⟩
    · exact housed.apart here here' owned owned' held held'
    · exact absurd ((owned.live held).symm.trans unused') nofun
    · exact absurd ((owned'.live held').symm.trans unused) nofun
    · exact ⟨rfl, rfl⟩
  rooted := rooted

/-- A change of bindings moves nobody. -/
theorem alike (housed : Housed find arena globals) (alike : arena.Alike after) :
    Housed find after globals := by
  refine housed.transfer .root 0 (alike.sound housed.sound) (alike.live ▸ housed.live)
    (alike.parents ▸ housed.top) (fun {id depth frame} stands => ?_) housed.rooted
  obtain ⟨blocks, dwells⟩ := housed.dwells stands
  exact ⟨blocks, dwells.congr (fun _ _ => by rw [alike.parents]) rfl rfl,
    fun block inside => .inl ⟨frame, blocks, stands, dwells, inside⟩⟩

theorem rooted_replace (housed : Housed find arena globals) (found : find id = some coroutine)
    (reduces : coroutine.Reduces changed) {other : CoroutineId} {later : Coroutine}
    {handler : Handler} {owner : Frame} (found' : replace find id changed other = some later)
    (installed : handler ∈ later.handlers) (owned : later.frames.at? handler.depth = some owner)
    (outermost : handler.scope = globals) : owner.base = globals := by
  by_cases same : other = id
  · cases same
    cases found'.symm.trans replace_same
    obtain ⟨stood, stands, -, base⟩ := reduces.frames owned
    exact base ▸ housed.rooted found (reduces.handlers installed) stands outermost
  · exact housed.rooted ((replace_other same).symm.trans found') installed owned outermost

/-- Frames go, and containers that belong to none of those that stay. -/
theorem released (housed : Housed find arena globals)
    (frames : ∀ {id depth frame'}, Stands find' id depth frame' → ∃ frame,
      Stands find id depth frame ∧ frame'.scope = frame.scope ∧ frame'.base = frame.base ∧
        ∀ blocks, arena.Dwells globals frame blocks → ∀ block ∈ blocks, block ∉ ids)
    (spared : globals ∉ ids)
    (rooted : ∀ {id coroutine handler owner}, find' id = some coroutine →
      handler ∈ coroutine.handlers → coroutine.frames.at? handler.depth = some owner →
      handler.scope = globals → owner.base = globals) :
    Housed find' (arena.releaseAll ids) globals := by
  refine housed.transfer .root 0 (Arena.releaseAll_sound housed.sound)
    ((Arena.isLive_releaseAll spared).trans housed.live)
    ((Arena.parent?_releaseAll spared).trans housed.top) (fun {id depth frame'} stands => ?_) rooted
  obtain ⟨frame, stood, scope, base, kept⟩ := frames stands
  obtain ⟨blocks, dwells⟩ := housed.dwells stood
  refine ⟨blocks, dwells.congr (fun block member => Arena.parent?_releaseAll ?_) scope base,
    fun block inside => .inl ⟨frame, blocks, stood, dwells, inside⟩⟩
  rcases List.mem_append.mp member with inner | outer
  · exact kept blocks dwells block inner
  · exact List.mem_singleton.mp outer ▸ spared

/-- Frames change without leaving their containers. -/
theorem stayed (housed : Housed find arena globals)
    (frames : ∀ {id depth frame'}, Stands find' id depth frame' → ∃ frame,
      Stands find id depth frame ∧ frame'.scope = frame.scope ∧ frame'.base = frame.base)
    (rooted : ∀ {id coroutine handler owner}, find' id = some coroutine →
      handler ∈ coroutine.handlers → coroutine.frames.at? handler.depth = some owner →
      handler.scope = globals → owner.base = globals) :
    Housed find' arena globals := by
  have released : Housed find' (arena.releaseAll []) globals :=
    housed.released (fun stands => by
      obtain ⟨frame, stood, scope, base⟩ := frames stands
      exact ⟨frame, stood, scope, base, fun _ _ _ _ => List.not_mem_nil⟩)
      List.not_mem_nil rooted
  exact released

/-- The containers of the upper frames of a coroutine. -/
def above (arena : Arena) (globals : ContainerId) (coroutine : Coroutine) (cut : Nat) :
    List ContainerId :=
  (coroutine.frames.above cut).flatMap (arena.dwelling globals)

theorem mem_above (housed : Housed find arena globals) (found : find id = some coroutine)
    {cut : Nat} {block : ContainerId} (member : block ∈ above arena globals coroutine cut) :
    ∃ depth frame blocks, cut ≤ depth ∧ Stands find id depth frame ∧
      arena.Dwells globals frame blocks ∧ block ∈ blocks := by
  obtain ⟨frame, dropped, held⟩ := List.mem_flatMap.mp member
  obtain ⟨depth, high, located⟩ := Stack.mem_above_iff.mp dropped
  obtain ⟨blocks, dwells⟩ := housed.dwells ⟨coroutine, found, located⟩
  rw [dwells.dwelling housed.live] at held
  exact ⟨depth, frame, blocks, high, ⟨coroutine, found, located⟩, dwells, held⟩

theorem not_mem_above (housed : Housed find arena globals) (found : find id = some coroutine)
    {cut depth : Nat} {other : CoroutineId} {frame : Frame} {blocks : List ContainerId}
    {block : ContainerId} (stood : Stands find other depth frame)
    (low : other = id → depth < cut) (dwells : arena.Dwells globals frame blocks)
    (inside : block ∈ blocks ++ [globals]) : block ∉ above arena globals coroutine cut := by
  intro gone
  obtain ⟨depth', frame', blocks', high, stood', dwells', held⟩ := housed.mem_above found gone
  rcases List.mem_append.mp inside with inner | outer
  · obtain ⟨same, level⟩ := housed.apart stood stood' dwells dwells' inner held
    have lower := low same
    omega
  · exact dwells'.globals_not_mem (List.mem_singleton.mp outer ▸ held)

theorem vacateAll_above (housed : Housed find arena globals) (found : find id = some coroutine)
    (cut : Nat) :
    arena.vacateAll globals (coroutine.frames.above cut) =
      arena.releaseAll (above arena globals coroutine cut) := by
  refine Arena.vacateAll_eq housed.live (fun frame member => ?_) ?_
  · obtain ⟨depth, -, located⟩ := Stack.mem_above_iff.mp member
    exact housed.dwells ⟨coroutine, found, located⟩
  · refine (Stack.pairwise_items fun low high lower upper less here here' => ?_).sublist
      (List.take_sublist ..)
    intro blocks blocks' dwells dwells' block inside inside'
    have same := housed.apart ⟨coroutine, found, here'⟩ ⟨coroutine, found, here⟩ dwells dwells'
      inside inside'
    omega

/-- The upper frames of a coroutine go with their containers. -/
theorem vacated (housed : Housed find arena globals) (found : find id = some coroutine) (cut : Nat)
    (frames : ∀ {other depth frame'}, Stands find' other depth frame' → ∃ frame,
      Stands find other depth frame ∧ frame'.scope = frame.scope ∧ frame'.base = frame.base ∧
        (other = id → depth < cut))
    (rooted : ∀ {id coroutine handler owner}, find' id = some coroutine →
      handler ∈ coroutine.handlers → coroutine.frames.at? handler.depth = some owner →
      handler.scope = globals → owner.base = globals) :
    Housed find' (arena.vacateAll globals (coroutine.frames.above cut)) globals := by
  rw [housed.vacateAll_above found]
  refine housed.released (fun {other depth frame'} stands => ?_) ?_ rooted
  · obtain ⟨frame, stood, scope, base, low⟩ := frames stands
    exact ⟨frame, stood, scope, base, fun blocks dwells block inside =>
      housed.not_mem_above found stood low dwells (List.mem_append_left _ inside)⟩
  · intro gone
    obtain ⟨_, _, _, -, -, dwells, held⟩ := housed.mem_above found gone
    exact dwells.globals_not_mem held

/-- The frames that stay keep their containers. -/
theorem vacated_dwells (housed : Housed find arena globals) (found : find id = some coroutine)
    {cut depth : Nat} {other : CoroutineId} {frame : Frame} {blocks : List ContainerId}
    (stood : Stands find other depth frame) (low : other = id → depth < cut)
    (dwells : arena.Dwells globals frame blocks) :
    (arena.vacateAll globals (coroutine.frames.above cut)).Dwells globals frame blocks := by
  rw [housed.vacateAll_above found]
  exact dwells.congr (fun block inside => Arena.parent?_releaseAll
    (housed.not_mem_above found stood low dwells inside)) rfl rfl

/-- One frame moves into a container that is new. -/
theorem placed {parent : ContainerId} (housed : Housed find arena globals) (id₀ : CoroutineId)
    (depth₀ : Nat)
    (frames : ∀ {id depth frame'}, Stands find' id depth frame' →
      (∃ frame, Stands find id depth frame ∧ frame'.scope = frame.scope ∧
        frame'.base = frame.base) ∨
      (id = id₀ ∧ depth = depth₀ ∧ frame'.scope = (arena.place (some parent)).1 ∧
        ((∃ frame, Stands find id depth frame ∧ frame.scope = parent ∧
          frame'.base = frame.base) ∨
        (parent = globals ∧ frame'.base = frame'.scope))))
    (rooted : ∀ {id coroutine handler owner}, find' id = some coroutine →
      handler ∈ coroutine.handlers → coroutine.frames.at? handler.depth = some owner →
      handler.scope = globals → owner.base = globals) :
    Housed find' (arena.place (some parent)).2 globals := by
  have kept {blocks : List ContainerId} {frame : Frame}
      (dwells : arena.Dwells globals frame blocks) (block : ContainerId)
      (member : block ∈ blocks ++ [globals]) :
      (arena.place (some parent)).2.parent? block = arena.parent? block := by
    refine Arena.parent?_place housed.sound ?_
    rcases List.mem_append.mp member with inner | outer
    · exact dwells.live inner
    · exact List.mem_singleton.mp outer ▸ housed.live
  have unused : arena.isLive (arena.place (some parent)).1 = false := by
    rw [Arena.isLive, Arena.place_fresh housed.sound]
    rfl
  refine housed.transfer id₀ depth₀ (Arena.place_sound housed.sound)
    (Arena.isLive_place housed.sound housed.live)
    ((Arena.parent?_place housed.sound housed.live).trans housed.top)
    (fun {id depth frame'} stands => ?_) rooted
  rcases frames stands with ⟨frame, stood, scope, base⟩ | ⟨rfl, rfl, scope, moved⟩
  · obtain ⟨blocks, dwells⟩ := housed.dwells stood
    exact ⟨blocks, dwells.congr (kept dwells) scope base,
      fun block inside => .inl ⟨frame, blocks, stood, dwells, inside⟩⟩
  · rcases moved with ⟨frame, stood, rfl, base⟩ | ⟨rfl, base⟩
    · obtain ⟨blocks, dwells⟩ := housed.dwells stood
      refine ⟨(arena.place (some frame.scope)).1 :: blocks, ⟨?_, ?_⟩, fun block inside => ?_⟩
      · rw [scope]
        exact .more (Arena.parent?_place_self housed.sound) (dwells.trail.congr (kept dwells))
      · refine dwells.based.imp base.trans fun last => ?_
        rw [List.getLast?_cons, last, base]
        rfl
      · rcases List.mem_cons.mp inside with rfl | earlier
        · exact .inr ⟨rfl, rfl, unused⟩
        · exact .inl ⟨frame, blocks, stood, dwells, earlier⟩
    · refine ⟨[(arena.place (some parent)).1], ⟨?_, .inr ?_⟩, fun block inside => ?_⟩
      · rw [scope]
        refine .more (Arena.parent?_place_self housed.sound) (.last ?_)
        exact (Arena.parent?_place housed.sound housed.live).trans housed.top
      · rw [base, scope]
        rfl
      · cases List.mem_singleton.mp inside
        exact .inr ⟨rfl, rfl, unused⟩

/-- A frame leaves its innermost containers for one further out. -/
theorem shortened {front rest : List ContainerId} {frame : Frame} {scope : ContainerId}
    {id₀ : CoroutineId} {depth₀ : Nat} (housed : Housed find arena globals)
    (stood : Stands find id₀ depth₀ frame) (dwells : arena.Dwells globals frame (front ++ rest))
    (outer : (rest ++ [globals]).head? = some scope) (inner : rest = [] → frame.base = globals)
    (frames : ∀ {id depth frame'}, Stands find' id depth frame' →
      (¬ (id = id₀ ∧ depth = depth₀) ∧ ∃ earlier, Stands find id depth earlier ∧
        frame'.scope = earlier.scope ∧ frame'.base = earlier.base) ∨
      (id = id₀ ∧ depth = depth₀ ∧ frame'.scope = scope ∧ frame'.base = frame.base))
    (rooted : ∀ {id coroutine handler owner}, find' id = some coroutine →
      handler ∈ coroutine.handlers → coroutine.frames.at? handler.depth = some owner →
      handler.scope = globals → owner.base = globals) :
    Housed find' (arena.releaseAll front) globals := by
  have spared : globals ∉ front := fun member =>
    dwells.globals_not_mem (List.mem_append_left _ member)
  refine housed.transfer .root 0 (Arena.releaseAll_sound housed.sound)
    ((Arena.isLive_releaseAll spared).trans housed.live)
    ((Arena.parent?_releaseAll spared).trans housed.top) (fun {id depth frame'} stands => ?_) rooted
  rcases frames stands with ⟨other, earlier, stood', same, base⟩ | ⟨rfl, rfl, moved, base⟩
  · obtain ⟨blocks, dwells'⟩ := housed.dwells stood'
    refine ⟨blocks, dwells'.congr (fun block member => Arena.parent?_releaseAll ?_) same base,
      fun block inside => .inl ⟨earlier, blocks, stood', dwells', inside⟩⟩
    rcases List.mem_append.mp member with inside | last
    · exact fun gone => other
        (housed.apart stood' stood dwells' dwells inside (List.mem_append_left _ gone))
    · exact List.mem_singleton.mp last ▸ spared
  · refine ⟨rest, ⟨?_, ?_⟩, fun block inside =>
      .inl ⟨frame, front ++ rest, stood, dwells, List.mem_append_right _ inside⟩⟩
    · obtain ⟨further, whole⟩ := List.head?_eq_some_iff.mp outer
      have trail := dwells.trail
      have distinct := trail.nodup
      rw [List.append_assoc, whole] at trail distinct
      rw [moved, whole]
      refine trail.drop.congr fun block member => Arena.parent?_releaseAll fun gone => ?_
      exact (List.nodup_append.mp distinct).2.2 block gone block member rfl
    · rw [base]
      cases rest with
      | nil => exact .inl (inner rfl)
      | cons block rest =>
          refine dwells.based.imp (fun same => same) fun last => ?_
          rwa [List.getLast?_append_of_ne_nil _ (by simp)] at last

/-- The innermost containers of a frame, up to one that it leaves them for. -/
theorem dwells_split {frame : Frame} {scope : ContainerId} {blocks : List ContainerId}
    (dwells : arena.Dwells globals frame blocks) (inScope : scope ∈ blocks ++ [globals])
    (rooted : scope = globals → frame.base = globals) :
    ∃ front rest, blocks = front ++ rest ∧ (rest ++ [globals]).head? = some scope ∧
      (rest = [] → frame.base = globals) ∧
      (blocks ++ [globals]).takeWhile (· ≠ scope) = front := by
  by_cases outermost : scope = globals
  · refine ⟨blocks, [], by simp, by simp [outermost], fun _ => rooted outermost, ?_⟩
    have inner (block : ContainerId) (member : block ∈ blocks) : decide (block ≠ scope) = true := by
      refine decide_eq_true ?_
      rintro rfl
      exact dwells.globals_not_mem (outermost ▸ member)
    rw [List.takeWhile_append_of_pos inner, List.takeWhile_cons_of_neg (by simp [outermost]),
      List.append_nil]
  · have member : scope ∈ blocks := by simpa [outermost] using inScope
    obtain ⟨front, rest, rfl⟩ := List.append_of_mem member
    refine ⟨front, scope :: rest, rfl, rfl, nofun, ?_⟩
    have distinct := (List.nodup_append.mp dwells.trail.nodup).1
    have inner (block : ContainerId) (member : block ∈ front) : decide (block ≠ scope) = true :=
      decide_eq_true fun same => (List.nodup_append.mp distinct).2.2 block member scope (by simp) same
    rw [List.append_assoc, List.takeWhile_append_of_pos inner, List.cons_append,
      List.takeWhile_cons_of_neg (by simp), List.append_nil]

end Housed

end Frames

namespace Machine

variable {machine : Machine} {coroutine : Coroutine}

def Housed (machine : Machine) : Prop :=
  Backtrack.Housed machine.coroutine? machine.arena machine.globals

theorem stands_update {change : Coroutine → Coroutine} {id other : CoroutineId} {depth : Nat}
    {frame : Frame} (found : machine.coroutine? id = some coroutine) :
    Stands (machine.updateCoroutine id change).coroutine? other depth frame ↔
      (other = id ∧ (change coroutine).frames.at? depth = some frame) ∨
        (other ≠ id ∧ Stands machine.coroutine? other depth frame) := by
  rw [coroutine?_replace found]
  exact stands_replace

theorem rooted_update {change : Coroutine → Coroutine} {id : CoroutineId} (housed : machine.Housed)
    (found : machine.coroutine? id = some coroutine) (reduces : coroutine.Reduces (change coroutine))
    {other : CoroutineId} {later : Coroutine} {handler : Handler} {owner : Frame}
    (found' : (machine.updateCoroutine id change).coroutine? other = some later)
    (installed : handler ∈ later.handlers) (owned : later.frames.at? handler.depth = some owner)
    (outermost : handler.scope = machine.globals) : owner.base = machine.globals := by
  rw [coroutine?_replace found] at found'
  exact Housed.rooted_replace housed found reduces found' installed owned outermost

/-- A change of one coroutine that leaves its frames in their containers. -/
theorem housed_update {change : Coroutine → Coroutine} {id : CoroutineId} (housed : machine.Housed)
    (found : machine.coroutine? id = some coroutine)
    (reduces : coroutine.Reduces (change coroutine))
    (scope : ∀ {depth frame'}, (change coroutine).frames.at? depth = some frame' →
      ∃ frame, coroutine.frames.at? depth = some frame ∧ frame'.scope = frame.scope ∧
        frame'.base = frame.base) :
    Backtrack.Housed (machine.updateCoroutine id change).coroutine? machine.arena
      machine.globals := by
  refine Housed.stayed housed (fun stands => ?_) (rooted_update housed found reduces)
  rcases (stands_update found).mp stands with ⟨rfl, located⟩ | ⟨-, stood⟩
  · obtain ⟨frame, located', same, base⟩ := scope located
    exact ⟨frame, ⟨coroutine, found, located'⟩, same, base⟩
  · exact ⟨_, stood, rfl, rfl⟩

theorem stands_updateFrame {change : Frame → Frame}
    (found : machine.coroutine? machine.current = some coroutine) {other : CoroutineId}
    {depth : Nat} {frame' : Frame}
    (stands : Stands (machine.updateFrame machine.current change).coroutine? other depth frame') :
    (¬ (other = machine.current ∧ depth = coroutine.depth - 1) ∧
      Stands machine.coroutine? other depth frame') ∨
    (other = machine.current ∧ depth = coroutine.depth - 1 ∧
      ∃ frame, coroutine.frames.at? depth = some frame ∧ frame' = change frame) := by
  rcases (stands_update found).mp stands with ⟨rfl, located⟩ | ⟨differ, stood⟩
  · rcases Coroutine.at?_updateActive located with ⟨lower, stood⟩ | ⟨level, frame, stood, same⟩
    · refine .inl ⟨fun top => lower ?_, coroutine, found, stood⟩
      have within := Stack.lt_of_at? stood
      rw [Coroutine.depth] at top ⊢
      omega
    · exact .inr ⟨rfl, by omega, frame, stood, same⟩
  · exact .inl ⟨fun top => differ top.1, stood⟩

theorem rooted_updateFrame {change : Frame → Frame} (housed : machine.Housed)
    (found : machine.coroutine? machine.current = some coroutine)
    (same : ∀ frame, (change frame).id = frame.id)
    (base : ∀ frame, (change frame).base = frame.base) {other : CoroutineId} {later : Coroutine}
    {handler : Handler} {owner : Frame}
    (found' : (machine.updateFrame machine.current change).coroutine? other = some later)
    (installed : handler ∈ later.handlers) (owned : later.frames.at? handler.depth = some owner)
    (outermost : handler.scope = machine.globals) : owner.base = machine.globals :=
  rooted_update housed found (.updateActive same base) found' installed owned outermost

theorem housed_updateFrame {change : Frame → Frame} (housed : machine.Housed)
    (found : machine.coroutine? machine.current = some coroutine)
    (same : ∀ frame, (change frame).id = frame.id)
    (scope : ∀ frame, (change frame).scope = frame.scope)
    (base : ∀ frame, (change frame).base = frame.base) :
    (machine.updateFrame machine.current change).Housed := by
  refine Housed.stayed housed (fun stands => ?_) (rooted_updateFrame housed found same base)
  rcases stands_updateFrame found stands with ⟨-, stood⟩ | ⟨rfl, rfl, frame, located, rfl⟩
  · exact ⟨_, stood, rfl, rfl⟩
  · exact ⟨frame, ⟨coroutine, found, located⟩, scope frame, base frame⟩

theorem housed_pushScope {frame : Frame} {change : Frame → Frame} (housed : machine.Housed)
    (found : machine.coroutine? machine.current = some coroutine)
    (active : coroutine.active? = some frame) (same : ∀ frame, (change frame).id = frame.id)
    (scope : ∀ other, (change other).scope = (machine.arena.place (some frame.scope)).1)
    (base : ∀ frame, (change frame).base = frame.base) :
    Backtrack.Housed (machine.updateFrame machine.current change).coroutine?
      (machine.arena.place (some frame.scope)).2 machine.globals := by
  obtain ⟨deep, top⟩ := Coroutine.at?_top active
  refine Housed.placed housed machine.current (coroutine.depth - 1) (fun stands => ?_)
    (rooted_updateFrame housed found same base)
  rcases stands_updateFrame found stands with ⟨-, stood⟩ | ⟨rfl, rfl, other, located, rfl⟩
  · exact .inl ⟨_, stood, rfl, rfl⟩
  · cases Option.some.inj (top.symm.trans located)
    exact .inr ⟨rfl, rfl, scope _, .inl ⟨frame, ⟨coroutine, found, top⟩, rfl, base frame⟩⟩

/-- The active frame leaves its innermost containers. -/
theorem housed_shorten {frame : Frame} {change : Frame → Frame} {scope : ContainerId}
    {front rest : List ContainerId} (housed : machine.Housed)
    (found : machine.coroutine? machine.current = some coroutine)
    (active : coroutine.active? = some frame)
    (dwells : machine.arena.Dwells machine.globals frame (front ++ rest))
    (outer : (rest ++ [machine.globals]).head? = some scope)
    (inner : rest = [] → frame.base = machine.globals)
    (same : ∀ frame, (change frame).id = frame.id) (moved : ∀ frame, (change frame).scope = scope)
    (base : ∀ frame, (change frame).base = frame.base) :
    Backtrack.Housed (machine.updateFrame machine.current change).coroutine?
      (machine.arena.releaseAll front) machine.globals := by
  obtain ⟨deep, top⟩ := Coroutine.at?_top active
  refine Housed.shortened housed ⟨coroutine, found, top⟩ dwells outer inner (fun stands => ?_)
    (rooted_updateFrame housed found same base)
  rcases stands_updateFrame found stands with ⟨other, stood⟩ | ⟨rfl, rfl, other, located, rfl⟩
  · exact .inl ⟨other, _, stood, rfl, rfl⟩
  · cases Option.some.inj (top.symm.trans located)
    exact .inr ⟨rfl, rfl, moved frame, base frame⟩

theorem housed_call {active : Frame} (linked : Linked machine.coroutine? machine.current)
    (housed : machine.Housed) (found : machine.coroutine? machine.current = some coroutine)
    (scope : active.scope = (machine.arena.place (some machine.globals)).1)
    (base : active.base = active.scope) :
    Backtrack.Housed (machine.updateCoroutine machine.current (·.pushFrame active)).coroutine?
      (machine.arena.place (some machine.globals)).2 machine.globals := by
  refine Housed.placed housed machine.current coroutine.depth (fun stands => ?_)
    fun {id later handler owner} found' installed owned outermost => ?_
  · rcases (stands_update found).mp stands with ⟨rfl, located⟩ | ⟨-, stood⟩
    · rw [Coroutine.pushFrame, Stack.at?_push] at located
      split at located
      · next top =>
          cases located
          exact .inr ⟨rfl, top, scope, .inr ⟨rfl, base⟩⟩
      · exact .inl ⟨_, ⟨coroutine, found, located⟩, rfl, rfl⟩
    · exact .inl ⟨_, stood, rfl, rfl⟩
  · rw [coroutine?_replace found] at found'
    by_cases same : id = machine.current
    · cases same
      cases found'.symm.trans replace_same
      have within : handler.depth < coroutine.frames.size := (linked.sound found).owned installed
      rw [Coroutine.pushFrame, Stack.at?_push, if_neg (Nat.ne_of_lt within)] at owned
      exact Housed.rooted housed found installed owned outermost
    · exact Housed.rooted housed ((replace_other same).symm.trans found') installed owned outermost

theorem housed_add {entry : Frame} (housed : machine.Housed)
    (scope : entry.scope = (machine.arena.place (some machine.globals)).1)
    (base : entry.base = entry.scope) :
    Backtrack.Housed
      { machine with coroutines := machine.coroutines.push (.new entry) }.coroutine?
      (machine.arena.place (some machine.globals)).2 machine.globals := by
  rw [coroutine?_push]
  refine Housed.placed housed ⟨machine.coroutines.size⟩ 0 (fun stands => ?_)
    fun {id later handler owner} found' installed owned outermost => ?_
  · rcases stands_replace.mp stands with ⟨rfl, located⟩ | ⟨-, stood⟩
    · rw [Coroutine.new, Stack.at?_push] at located
      split at located
      · next bottom =>
          cases located
          exact .inr ⟨rfl, bottom, scope, .inr ⟨rfl, base⟩⟩
      · cases located
    · exact .inl ⟨_, stood, rfl, rfl⟩
  · by_cases same : id = ⟨machine.coroutines.size⟩
    · cases same
      cases found'.symm.trans replace_same
      cases installed
    · exact Housed.rooted housed ((replace_other same).symm.trans found') installed owned outermost

theorem housed_popFrame {frame : Frame} (housed : machine.Housed)
    (found : machine.coroutine? machine.current = some coroutine)
    (active : coroutine.active? = some frame) :
    Backtrack.Housed (machine.updateCoroutine machine.current (·.popFrame)).coroutine?
      (machine.arena.vacate machine.globals frame) machine.globals := by
  have single : machine.arena.vacate machine.globals frame = machine.arena.vacateAll
      machine.globals (coroutine.frames.above (coroutine.depth - 1)) := by
    rw [Coroutine.above_active active]
    rfl
  rw [single]
  refine Housed.vacated housed found _ (fun stands => ?_) (rooted_update housed found .popFrame)
  rcases (stands_update found).mp stands with ⟨rfl, located⟩ | ⟨differ, stood⟩
  · rw [Coroutine.popFrame, Stack.at?_pop] at located
    split at located
    · next lower =>
        refine ⟨_, ⟨coroutine, found, located⟩, rfl, rfl, fun _ => ?_⟩
        rw [Coroutine.depth]
        omega
    · cases located
  · exact ⟨_, stood, rfl, rfl, fun same => absurd same differ⟩

theorem housed_pushHandler {frame : Frame} {handler : Handler} {change : Coroutine → Coroutine}
    (housed : machine.Housed) (found : machine.coroutine? machine.current = some coroutine)
    (active : coroutine.active? = some frame)
    (changes : change coroutine = { coroutine with handlers := handler :: coroutine.handlers })
    (innermost : handler.depth = coroutine.depth - 1) (scope : handler.scope = frame.scope) :
    (machine.updateCoroutine machine.current change).Housed := by
  obtain ⟨deep, top⟩ := Coroutine.at?_top active
  refine Housed.stayed housed (fun stands => ?_)
    fun {id later other owner} found' installed owned outermost => ?_
  · rcases (stands_update found).mp stands with ⟨rfl, located⟩ | ⟨-, stood⟩
    · rw [changes] at located
      exact ⟨_, ⟨coroutine, found, located⟩, rfl, rfl⟩
    · exact ⟨_, stood, rfl, rfl⟩
  · rw [coroutine?_replace found, changes] at found'
    by_cases same : id = machine.current
    · cases same
      cases found'.symm.trans replace_same
      rcases List.mem_cons.mp installed with rfl | earlier
      · rw [innermost] at owned
        cases Option.some.inj (top.symm.trans owned)
        obtain ⟨blocks, dwells⟩ := Housed.dwells housed ⟨coroutine, found, top⟩
        exact dwells.outermost (scope.symm.trans outermost)
      · exact Housed.rooted housed found earlier owned outermost
    · exact Housed.rooted housed ((replace_other same).symm.trans found') installed owned outermost

theorem housed_abandon {regions : List Region} (housed : machine.Housed)
    (found : machine.coroutine? machine.current = some coroutine) :
    Backtrack.Housed (machine.updateCoroutine machine.current fun _ => .dead).coroutine?
      ((machine.arena.undo regions).vacateAll machine.globals coroutine.frames.items)
      machine.globals := by
  have undone : Backtrack.Housed machine.coroutine? (machine.arena.undo regions) machine.globals :=
    Housed.alike housed Arena.undo_alike
  rw [← Stack.above_zero]
  refine Housed.vacated undone found 0 (fun stands => ?_) (rooted_update housed found .dead)
  rcases (stands_update found).mp stands with ⟨rfl, located⟩ | ⟨differ, stood⟩
  · cases located
  · exact ⟨_, stood, rfl, rfl, fun same => absurd same differ⟩

/-- A coroutine that catches keeps the frames up to the handler's. -/
theorem housed_caught {regions : List Region} {handler : Handler} {outer : List Handler}
    (housed : machine.Housed) (found : machine.coroutine? machine.current = some coroutine)
    (installed : coroutine.handlers = handler :: outer) :
    Backtrack.Housed
      (machine.updateCoroutine machine.current (·.caught handler outer)).coroutine?
      ((machine.arena.undo regions).vacateAll machine.globals
        (coroutine.frames.above (handler.depth + 1))) machine.globals := by
  have undone : Backtrack.Housed machine.coroutine? (machine.arena.undo regions) machine.globals :=
    Housed.alike housed Arena.undo_alike
  refine Housed.vacated undone found _ (fun stands => ?_)
    (rooted_update housed found (.caught installed))
  rcases (stands_update found).mp stands with ⟨rfl, located⟩ | ⟨differ, stood⟩
  · rw [Coroutine.caught, Stack.at?_below] at located
    split at located
    · next lower => exact ⟨_, ⟨coroutine, found, located⟩, rfl, rfl, fun _ => lower⟩
    · cases located
  · exact ⟨_, stood, rfl, rfl, fun same => absurd same differ⟩

/-- A frame that catches keeps its containers while the frames above it go. -/
theorem dwells_caught {regions : List Region} {depth : Nat} {owner : Frame}
    {blocks : List ContainerId} (housed : machine.Housed)
    (found : machine.coroutine? machine.current = some coroutine)
    (owned : coroutine.frames.at? depth = some owner)
    (dwells : machine.arena.Dwells machine.globals owner blocks) :
    ((machine.arena.undo regions).vacateAll machine.globals
      (coroutine.frames.above (depth + 1))).Dwells machine.globals owner blocks := by
  have undone : Backtrack.Housed machine.coroutine? (machine.arena.undo regions) machine.globals :=
    Housed.alike housed Arena.undo_alike
  refine Housed.vacated_dwells undone found ⟨coroutine, found, owned⟩
    (fun _ => Nat.lt_succ_self _) ?_
  exact dwells.congr (fun _ _ => by rw [Arena.undo_alike.parents]) rfl rfl

/-- The other coroutines stay where they are when one is given up. -/
theorem ancestry_abandoned {regions : List Region} {id : CoroutineId} {depth : Nat} {frame : Frame}
    (housed : machine.Housed) (found : machine.coroutine? machine.current = some coroutine)
    (differ : id ≠ machine.current) (stands : Stands machine.coroutine? id depth frame) :
    ((machine.arena.undo regions).vacateAll machine.globals coroutine.frames.items).ancestry
      frame.scope = machine.arena.ancestry frame.scope := by
  obtain ⟨blocks, dwells⟩ := Housed.dwells housed stands
  have undone : Backtrack.Housed machine.coroutine? (machine.arena.undo regions) machine.globals :=
    Housed.alike housed Arena.undo_alike
  have dwells' : (machine.arena.undo regions).Dwells machine.globals frame blocks :=
    dwells.congr (fun _ _ => by rw [Arena.undo_alike.parents]) rfl rfl
  have stays : ((machine.arena.undo regions).vacateAll machine.globals
      (coroutine.frames.above 0)).Dwells machine.globals frame blocks :=
    Housed.vacated_dwells undone found stands (fun same => absurd same differ) dwells'
  rw [Stack.above_zero] at stays
  rw [dwells.ancestry (Housed.live housed)]
  exact stays.ancestry (Housed.live (housed_abandon housed found))

theorem housed_effect {code : Instruction} {before after : Machine}
    (linked : Linked before.coroutine? before.current) (housed : before.Housed)
    (effect : Effect code before after) : after.Housed := by
  obtain ⟨running, found, -⟩ := linked.current_running
  cases effect with
  | count | intern | openRegion | commitRegion => exact housed
  | compute change same =>
      exact housed_updateFrame housed found (fun frame => (same frame).id)
        (fun frame => (same frame).scope) fun frame => (same frame).base
  | bindVar | bindCandidates => exact Housed.alike housed (Arena.modify_alike fun _ => rfl)
  | rollbackRegion => exact Housed.alike housed Arena.restore_alike
  | undoAll => exact Housed.alike housed Arena.undo_alike
  | pushScope active =>
      obtain ⟨coroutine, current, top⟩ := Option.bind_eq_some_iff.mp active
      exact housed_pushScope housed current top (fun _ => rfl) (fun _ => rfl) fun _ => rfl
  | popScope popping active inner enclosed =>
      obtain ⟨coroutine, current, top⟩ := Option.bind_eq_some_iff.mp active
      obtain ⟨blocks, dwells⟩ :=
        Housed.dwells housed ⟨coroutine, current, (Coroutine.at?_top top).2⟩
      obtain ⟨rest, rfl, alone, outer⟩ := dwells.inner inner
      rw [← List.singleton_append] at dwells
      exact housed_shorten housed current top dwells (outer.trans enclosed) alone
        (fun _ => rfl) (fun _ => rfl) fun _ => rfl
  | call dst function registers active =>
      exact housed_call linked housed found rfl rfl
  | @«return» coroutine frame dst current active callee closed =>
      exact housed_popFrame housed current active
  | @finish coroutine frame link current active entry waiting closed =>
      exact housed_popFrame housed current active
  | create function registers => exact housed_add housed rfl rfl
  | copy found single => exact housed_add housed rfl rfl
  | enter dst out active found parked =>
      exact housed_update housed found ⟨id, fun stands => ⟨_, stands, rfl, rfl⟩⟩
        fun located => ⟨_, located, rfl, rfl⟩
  | yield current running waiting closed =>
      exact housed_update housed current ⟨id, fun stands => ⟨_, stands, rfl, rfl⟩⟩
        fun located => ⟨_, located, rfl, rfl⟩
  | pushHandler target dst current active =>
      exact housed_pushHandler housed current active rfl rfl rfl
  | popHandler current installed =>
      exact housed_update housed current
        ⟨fun member => installed ▸ List.mem_cons_of_mem _ member, fun stands => ⟨_, stands, rfl, rfl⟩⟩
        fun located => ⟨_, located, rfl, rfl⟩
  | abandon current bare inner waiting => exact housed_abandon housed current
  | @«catch» coroutine handler outer owner current installed owned inScope =>
      obtain ⟨blocks, dwells⟩ := Housed.dwells housed ⟨coroutine, current, owned⟩
      have passed := dwells.ancestry (Housed.live housed)
      obtain ⟨front, rest, rfl, outermost, alone, left⟩ :=
        Housed.dwells_split dwells (passed ▸ inScope)
          (Housed.rooted housed current (installed ▸ List.mem_cons_self) owned)
      rw [← passed] at left
      have cut : Housed { before.updateCoroutine before.current (·.caught handler outer) with
          arena := (before.arena.undo (before.regions.items.takeWhile (handler.undoes
            ((coroutine.frames.above (handler.depth + 1) ++ [owner]).map Frame.id)))).vacateAll
              before.globals (coroutine.frames.above (handler.depth + 1)) } :=
        housed_caught housed current installed
      have caught : (before.updateCoroutine before.current
          (·.caught handler outer)).coroutine? before.current =
            some (coroutine.caught handler outer) := by
        rw [coroutine?_replace current, replace_same]
      rw [left]
      exact housed_shorten cut caught (Coroutine.active_caught owned)
        (dwells_caught housed current owned dwells) outermost alone (fun _ => rfl) (fun _ => rfl)
        fun _ => rfl

theorem housed_alone {entry : Frame} (scope : entry.scope = (Arena.empty.place none).1)
    (base : entry.base = entry.scope) :
    Backtrack.Housed (fun id => #[Coroutine.root entry][id.index]?) (Arena.empty.place none).2
      (Arena.empty.place none).1 := by
  have alone {id : CoroutineId} {depth : Nat} {frame : Frame} (stands : Stands
      (fun id => #[Coroutine.root entry][id.index]?) id depth frame) :
      id = .root ∧ depth = 0 ∧ frame = entry := by
    obtain ⟨coroutine, found, located⟩ := stands
    obtain ⟨rfl, rfl⟩ := eq_of_alone found
    rw [Coroutine.root, Coroutine.new, Stack.at?_push] at located
    split at located
    · next bottom =>
        cases located
        exact ⟨rfl, bottom, rfl⟩
    · cases located
  exact {
    sound := Arena.place_sound Arena.empty_sound
    live := rfl
    top := rfl
    dwells := fun stands => by
      obtain ⟨rfl, rfl, rfl⟩ := alone stands
      refine ⟨[], ⟨?_, .inl (base.trans scope)⟩⟩
      rw [scope]
      exact .last rfl
    apart := fun stands stands' _ _ _ _ => by
      obtain ⟨rfl, rfl, -⟩ := alone stands
      obtain ⟨rfl, rfl, -⟩ := alone stands'
      exact ⟨rfl, rfl⟩
    rooted := fun found installed => by
      obtain ⟨-, rfl⟩ := eq_of_alone found
      cases installed }

theorem Reachable.housed {program : Program} {args : List Value} {settings : Settings}
    (reachable : Reachable program args settings machine) (running : machine.isRunning = true) :
    machine.Housed := by
  refine (reachable.induction
    (fun machine => Linked machine.coroutine? machine.current ∧ machine.Housed)
    running (fun initial started => ?_) (fun _ _ _ held => held)
    fun code before after held effect =>
      ⟨linked_effect held.1 effect, housed_effect held.1 held.2 effect⟩).2.2
  obtain ⟨unit, registers, -, -, -, -, rfl⟩ := start_eq started
  exact ⟨linked_alone (.root rfl) rfl rfl, housed_alone rfl rfl⟩

end Machine

end Backtrack
