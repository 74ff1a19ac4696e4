import Backtrack.Proofs.Linked
import Mathlib.Data.List.Basic

/-!
The order of open regions. The owners of the open regions are frames on the path of callers, and the
regions lie on the stack in the order of their owners, those of the active frame on top. So when a
frame or a coroutine is given up, its regions are the topmost ones. A handler remembers when it was
pushed, which separates the regions below it from those above.
-/

namespace Backtrack

/-- A coroutine keeps some of its frames and handlers, or changes what its frames hold. -/
structure Coroutine.Reduces (before after : Coroutine) : Prop where
  handlers {handler : Handler} (installed : handler ∈ after.handlers) : handler ∈ before.handlers
  frames {depth : Nat} {located : Frame} (stands : after.frames.at? depth = some located) :
    ∃ stood, before.frames.at? depth = some stood ∧ stood.id = located.id ∧
      stood.base = located.base

/-- What the order of regions depends on. -/
structure Mark where
  serial : Nat
  owner : FrameId

def Region.mark (region : Region) : Mark :=
  ⟨region.serial, region.owner⟩

/-- The marks, first those of the frame that comes first. -/
inductive Nested : List FrameId → List Mark → Prop
  | none : Nested [] []
  | own {mark : Mark} {frame : FrameId} {frames : List FrameId} {marks : List Mark}
      (owned : mark.owner = frame) (inner : Nested (frame :: frames) marks) :
      Nested (frame :: frames) (mark :: marks)
  | skip {frame : FrameId} {frames : List FrameId} {marks : List Mark}
      (inner : Nested frames marks) : Nested (frame :: frames) marks

namespace Nested

variable {frame : FrameId} {frames rest : List FrameId} {mark : Mark} {marks fewer : List Mark}

theorem owner_mem (nested : Nested frames marks) (member : mark ∈ marks) : mark.owner ∈ frames := by
  induction nested with
  | none => cases member
  | own owned inner ih =>
      rcases List.mem_cons.mp member with rfl | deeper
      · exact List.mem_cons.mpr (.inl owned)
      · exact ih deeper
  | skip inner ih => exact List.mem_cons_of_mem _ (ih member)

theorem sublist (nested : Nested frames marks) (kept : fewer.Sublist marks) :
    Nested frames fewer := by
  induction nested generalizing fewer with
  | none =>
      cases List.sublist_nil.mp kept
      exact .none
  | own owned inner ih =>
      cases kept with
      | cons _ others => exact ih others
      | cons_cons _ others => exact .own owned (ih others)
  | skip inner ih => exact .skip (ih kept)

theorem skipAll (nested : Nested rest marks) : Nested (frames ++ rest) marks := by
  induction frames with
  | nil => exact nested
  | cons frame frames ih => exact .skip ih

/-- The marks of the first frames come first. -/
theorem split (nested : Nested (frames ++ rest) marks) :
    ∃ first others, marks = first ++ others ∧ (∀ mark ∈ first, mark.owner ∈ frames) ∧
      Nested rest others := by
  generalize whole : frames ++ rest = all at nested
  induction nested generalizing frames with
  | none =>
      obtain ⟨rfl, rfl⟩ := List.append_eq_nil_iff.mp whole
      exact ⟨[], [], rfl, nofun, .none⟩
  | @own mark _ below marks own inner ih =>
      cases frames with
      | nil =>
          cases whole
          exact ⟨[], _, rfl, nofun, .own own inner⟩
      | cons frame frames =>
          obtain ⟨first, others, rfl, owned, left⟩ := ih whole
          refine ⟨mark :: first, others, rfl, fun other member => ?_, left⟩
          rcases List.mem_cons.mp member with rfl | deeper
          · exact List.mem_cons.mpr (.inl (own.trans (List.cons.inj whole).1.symm))
          · exact owned other deeper
  | skip inner ih =>
      cases frames with
      | nil =>
          cases whole
          exact ⟨[], _, rfl, nofun, .skip inner⟩
      | cons frame frames =>
          obtain ⟨first, others, rfl, owned, left⟩ := ih (List.cons.inj whole).2
          exact ⟨first, others, rfl, fun other member => List.mem_cons_of_mem _ (owned other member),
            left⟩

/-- Frames without marks can go. -/
theorem unowned (nested : Nested (frames ++ rest) marks)
    (free : ∀ mark ∈ marks, mark.owner ∉ frames) : Nested rest marks := by
  obtain ⟨first, others, rfl, owned, left⟩ := nested.split
  cases first with
  | nil => exact left
  | cons mark first => exact absurd (owned mark (by simp)) (free mark (by simp))

/-- The first frames go with their regions. -/
theorem dropWhile {regions : List Region} {gone : Region → Bool}
    (nested : Nested (frames ++ rest) (regions.map Region.mark))
    (leaves : ∀ region ∈ regions, region.owner ∈ frames → gone region = true) :
    Nested rest ((regions.dropWhile gone).map Region.mark) := by
  obtain ⟨first, others, parts, owned, left⟩ := nested.split
  obtain ⟨inner, outer, rfl, rfl, rfl⟩ := List.map_eq_append_iff.mp parts
  rw [List.dropWhile_append_of_pos fun region member =>
    leaves region (by simp [member]) (owned _ (List.mem_map_of_mem member))]
  exact left.sublist ((List.dropWhile_sublist _).map _)

end Nested

section Layers

variable {find find' : CoroutineId → Option Coroutine} {current id : CoroutineId}
  {coroutine changed : Coroutine} {marks marks' : List Mark} {serial frame frame' : Nat}

/-- The frames of a coroutine, the active one first. -/
def frameIds (find : CoroutineId → Option Coroutine) (id : CoroutineId) : List FrameId :=
  match find id with
  | some coroutine => coroutine.frames.items.map Frame.id
  | none => []

structure Layered (find : CoroutineId → Option Coroutine) (current : CoroutineId)
    (marks : List Mark) (nextSerial nextFrame : Nat) : Prop where
  distinct {id id' : CoroutineId} {coroutine coroutine' : Coroutine} {depth depth' : Nat}
    {frame frame' : Frame} (found : find id = some coroutine) (found' : find id' = some coroutine')
    (located : coroutine.frames.at? depth = some frame)
    (located' : coroutine'.frames.at? depth' = some frame') (same : frame.id = frame'.id) :
    id = id' ∧ depth = depth'
  bounded {id : CoroutineId} {coroutine : Coroutine} {frame : Frame}
    (found : find id = some coroutine) (stacked : frame ∈ coroutine.frames.items) :
    frame.id.index < nextFrame
  nested : ∃ path, Trail (waiterOf find) current path ∧ Nested (path.flatMap (frameIds find)) marks
  ordered : marks.Pairwise fun inner outer => outer.serial < inner.serial
  opened {mark : Mark} (member : mark ∈ marks) : mark.serial < nextSerial
  pushed {id : CoroutineId} {coroutine : Coroutine} {handler : Handler}
    (found : find id = some coroutine) (installed : handler ∈ coroutine.handlers) :
    handler.regionSerial ≤ nextSerial
  /-- Frames above a handler opened their regions after it was pushed. -/
  above {id : CoroutineId} {coroutine : Coroutine} {handler : Handler} {depth : Nat}
    {frame : Frame} {mark : Mark} (found : find id = some coroutine)
    (installed : handler ∈ coroutine.handlers) (located : coroutine.frames.at? depth = some frame)
    (member : mark ∈ marks) (own : mark.owner = frame.id) (higher : handler.depth < depth) :
    handler.regionSerial ≤ mark.serial
  /-- Frames below a handler opened their regions before it was pushed. -/
  below {id : CoroutineId} {coroutine : Coroutine} {handler : Handler} {depth : Nat}
    {frame : Frame} {mark : Mark} (found : find id = some coroutine)
    (installed : handler ∈ coroutine.handlers) (located : coroutine.frames.at? depth = some frame)
    (member : mark ∈ marks) (own : mark.owner = frame.id) (lower : depth < handler.depth) :
    mark.serial < handler.regionSerial

namespace Layered

theorem owner_bounded (layered : Layered find current marks serial frame) {mark : Mark}
    (member : mark ∈ marks) : mark.owner.index < frame := by
  obtain ⟨path, -, nested⟩ := layered.nested
  obtain ⟨id, -, own⟩ := List.mem_flatMap.mp (nested.owner_mem member)
  unfold frameIds at own
  split at own
  · next coroutine found =>
      obtain ⟨owner, stacked, same⟩ := List.mem_map.mp own
      exact same ▸ layered.bounded found stacked
  · cases own

/-- Frames, handlers and regions go; at most one frame is new. -/
theorem transfer {current' : CoroutineId} (layered : Layered find current marks serial frame)
    (id₀ : CoroutineId) (depth₀ : Nat) (grown : frame ≤ frame')
    (handlers : ∀ {id coroutine handler}, find' id = some coroutine → handler ∈ coroutine.handlers →
      ∃ earlier, find id = some earlier ∧ handler ∈ earlier.handlers)
    (frames : ∀ {id coroutine depth located}, find' id = some coroutine →
      coroutine.frames.at? depth = some located →
      (∃ earlier stood, find id = some earlier ∧ earlier.frames.at? depth = some stood ∧
        stood.id = located.id) ∨
      (id = id₀ ∧ depth = depth₀ ∧ located.id = ⟨frame⟩ ∧ frame < frame'))
    (kept : marks'.Sublist marks)
    (nested : ∃ path, Trail (waiterOf find') current' path ∧
      Nested (path.flatMap (frameIds find')) marks') :
    Layered find' current' marks' serial frame' := by
  have stale {id : CoroutineId} {coroutine : Coroutine} {depth : Nat} {stood : Frame}
      (found : find id = some coroutine) (located : coroutine.frames.at? depth = some stood) :
      stood.id ≠ ⟨frame⟩ := fun same => by
    have old := layered.bounded found (Stack.mem_items_iff.mpr ⟨depth, located⟩)
    rw [same] at old
    exact Nat.lt_irrefl _ old
  have owning {id : CoroutineId} {coroutine : Coroutine} {handler : Handler} {depth : Nat}
      {located : Frame} {mark : Mark} (found : find' id = some coroutine)
      (installed : handler ∈ coroutine.handlers)
      (stands : coroutine.frames.at? depth = some located) (member : mark ∈ marks')
      (own : mark.owner = located.id) : ∃ earlier stood, find id = some earlier ∧
        handler ∈ earlier.handlers ∧ earlier.frames.at? depth = some stood ∧
        mark.owner = stood.id := by
    rcases frames found stands with ⟨earlier, stood, found', stands', same⟩ | ⟨-, -, fresh, -⟩
    · obtain ⟨earlier', found'', installed'⟩ := handlers found installed
      cases Option.some.inj (found'.symm.trans found'')
      exact ⟨earlier, stood, found', installed', stands', own.trans same.symm⟩
    · have old := layered.owner_bounded (kept.subset member)
      rw [own, fresh] at old
      exact absurd old (Nat.lt_irrefl _)
  exact {
    distinct := fun found found' located located' same => by
      rcases frames found located with ⟨_, _, here, stands, old⟩ | ⟨rfl, rfl, fresh, -⟩ <;>
      rcases frames found' located' with ⟨_, _, here', stands', old'⟩ | ⟨rfl, rfl, fresh', -⟩
      · exact layered.distinct here here' stands stands' (old.trans (same.trans old'.symm))
      · exact absurd (old.trans (same.trans fresh')) (stale here stands)
      · exact absurd (old'.trans (same.symm.trans fresh)) (stale here' stands')
      · exact ⟨rfl, rfl⟩
    bounded := fun found stacked => by
      obtain ⟨depth, located⟩ := Stack.mem_items_iff.mp stacked
      rcases frames found located with ⟨_, stood, here, stands, old⟩ | ⟨-, -, fresh, room⟩
      · rw [← old]
        exact Nat.lt_of_lt_of_le
          (layered.bounded here (Stack.mem_items_iff.mpr ⟨depth, stands⟩)) grown
      · rw [fresh]
        exact room
    nested := nested
    ordered := layered.ordered.sublist kept
    opened := fun member => layered.opened (kept.subset member)
    pushed := fun found installed => by
      obtain ⟨_, found', installed'⟩ := handlers found installed
      exact layered.pushed found' installed'
    above := fun found installed located member own higher => by
      obtain ⟨_, _, found', installed', stands, own'⟩ := owning found installed located member own
      exact layered.above found' installed' stands (kept.subset member) own' higher
    below := fun found installed located member own lower => by
      obtain ⟨_, _, found', installed', stands, own'⟩ := owning found installed located member own
      exact layered.below found' installed' stands (kept.subset member) own' lower }

/-- Regions are closed. -/
theorem closed (layered : Layered find current marks serial frame) (kept : marks'.Sublist marks) :
    Layered find current marks' serial frame := by
  obtain ⟨path, trail, nested⟩ := layered.nested
  exact layered.transfer current 0 (Nat.le_refl _)
    (fun found installed => ⟨_, found, installed⟩)
    (fun found located => .inl ⟨_, _, found, located, rfl⟩) kept ⟨path, trail, nested.sublist kept⟩

theorem reduced {current' : CoroutineId} (layered : Layered find current marks serial frame)
    (found : find id = some coroutine) (reduces : coroutine.Reduces changed)
    (kept : marks'.Sublist marks)
    (nested : ∃ path, Trail (waiterOf (replace find id changed)) current' path ∧
      Nested (path.flatMap (frameIds (replace find id changed))) marks') :
    Layered (replace find id changed) current' marks' serial frame := by
  refine layered.transfer current 0 (Nat.le_refl _)
    (fun {other coroutine handler} found' installed => ?_)
    (fun {other coroutine depth located} found' stands => .inl ?_) kept nested
  · by_cases same : other = id
    · cases same
      cases found'.symm.trans replace_same
      exact ⟨_, found, reduces.handlers installed⟩
    · exact ⟨_, (replace_other same).symm.trans found', installed⟩
  · by_cases same : other = id
    · cases same
      cases found'.symm.trans replace_same
      obtain ⟨stood, stands', equal, -⟩ := reduces.frames stands
      exact ⟨_, stood, found, stands', equal⟩
    · exact ⟨_, _, (replace_other same).symm.trans found', stands, rfl⟩

/-- The path begins with the current coroutine and does not come back to it. -/
theorem onward (layered : Layered find current marks serial frame)
    (found : find current = some coroutine) :
    ∃ rest, Trail (waiterOf find) current (current :: rest) ∧ current ∉ rest ∧
      Nested (coroutine.frames.items.map Frame.id ++ rest.flatMap (frameIds find)) marks := by
  obtain ⟨path, trail, nested⟩ := layered.nested
  obtain ⟨rest, rfl⟩ := List.head?_eq_some_iff.mp trail.head?
  refine ⟨rest, trail, (List.nodup_cons.mp trail.nodup).1, ?_⟩
  simpa [frameIds, found] using nested

theorem frameIds_replace {path : List CoroutineId} (absent : id ∉ path) :
    path.flatMap (frameIds (replace find id changed)) = path.flatMap (frameIds find) :=
  List.flatMap_congr fun other member => by
    have differ : other ≠ id := fun same => absent (same ▸ member)
    rw [frameIds, frameIds, replace_other differ]

/-- The current coroutine changes and goes on. -/
theorem updated (layered : Layered find current marks serial frame)
    (found : find current = some coroutine) (reduces : coroutine.Reduces changed)
    (caller : changed.caller = coroutine.caller) (kept : marks'.Sublist marks)
    (nested : ∀ rest, Nested (coroutine.frames.items.map Frame.id ++ rest) marks →
      Nested (changed.frames.items.map Frame.id ++ rest) marks') :
    Layered (replace find current changed) current marks' serial frame := by
  obtain ⟨rest, trail, absent, ordered⟩ := layered.onward found
  refine layered.reduced found reduces kept ⟨current :: rest, ?_, ?_⟩
  · rw [waiterOf_replace_kept found caller]
    exact trail
  · rw [List.flatMap_cons, frameIds_replace absent, frameIds, replace_same]
    exact nested _ ordered

/-- The current coroutine stops running, and its regions are closed. -/
theorem left {link : CallerLink} (layered : Layered find current marks serial frame)
    (found : find current = some coroutine) (waiting : coroutine.caller = some link)
    (reduces : coroutine.Reduces changed) (kept : marks'.Sublist marks)
    (nested : ∀ rest, Nested (coroutine.frames.items.map Frame.id ++ rest) marks →
      Nested rest marks') :
    Layered (replace find current changed) link.coroutine marks' serial frame := by
  obtain ⟨rest, trail, absent, ordered⟩ := layered.onward found
  cases trail with
  | last ends => simp [waiterOf_eq_some found waiting] at ends
  | more leads onward =>
      cases Option.some.inj (leads.symm.trans (waiterOf_eq_some found waiting))
      refine layered.reduced found reduces kept ⟨rest, trail_replace onward absent, ?_⟩
      rw [frameIds_replace absent]
      exact nested _ ordered

theorem entered {link : CallerLink} (layered : Layered find current marks serial frame)
    (found : find id = some coroutine)
    (absent : ∀ path, Trail (waiterOf find) current path → id ∉ path)
    (reduces : coroutine.Reduces changed) (waits : changed.caller = some link)
    (back : link.coroutine = current) :
    Layered (replace find id changed) id marks serial frame := by
  obtain ⟨path, trail, nested⟩ := layered.nested
  have leads : waiterOf (replace find id changed) id = some current :=
    back ▸ waiterOf_eq_some replace_same waits
  refine layered.reduced found reduces (List.Sublist.refl _)
    ⟨id :: path, .more leads (trail_replace trail (absent path trail)), ?_⟩
  rw [List.flatMap_cons, frameIds_replace (absent path trail)]
  exact nested.skipAll

/-- A call. -/
theorem called {active : Frame} (layered : Layered find current marks serial frame)
    (found : find current = some coroutine) (fresh : active.id = ⟨frame⟩) :
    Layered (replace find current (coroutine.pushFrame active)) current marks serial
      (frame + 1) := by
  obtain ⟨rest, trail, absent, ordered⟩ := layered.onward found
  refine layered.transfer current coroutine.frames.size (Nat.le_succ _)
    (fun {other earlier handler} found' installed => ?_)
    (fun {other earlier depth located} found' stands => ?_) (List.Sublist.refl _)
    ⟨current :: rest, ?_, ?_⟩
  · by_cases same : other = current
    · cases same
      cases found'.symm.trans replace_same
      exact ⟨_, found, installed⟩
    · exact ⟨_, (replace_other same).symm.trans found', installed⟩
  · by_cases same : other = current
    · cases same
      cases found'.symm.trans replace_same
      simp only [Coroutine.pushFrame, Stack.at?_push] at stands
      split at stands
      · next top =>
          cases stands
          exact .inr ⟨rfl, top, fresh, Nat.lt_succ_self _⟩
      · exact .inl ⟨_, _, found, stands, rfl⟩
    · exact .inl ⟨_, _, (replace_other same).symm.trans found', stands, rfl⟩
  · have same : waiterOf (replace find current (coroutine.pushFrame active)) = waiterOf find :=
      waiterOf_replace_kept found rfl
    rw [same]
    exact trail
  · rw [List.flatMap_cons, frameIds_replace absent, frameIds, replace_same]
    exact .skip ordered

/-- A coroutine joins. -/
theorem added {entry : Frame} (layered : Layered find current marks serial frame)
    (absent : ∀ path, Trail (waiterOf find) current path → id ∉ path)
    (fresh : entry.id = ⟨frame⟩) :
    Layered (replace find id (.new entry)) current marks serial (frame + 1) := by
  obtain ⟨path, trail, nested⟩ := layered.nested
  refine layered.transfer id 0 (Nat.le_succ _)
    (fun {other earlier handler} found' installed => ?_)
    (fun {other earlier depth located} found' stands => ?_) (List.Sublist.refl _)
    ⟨path, trail_replace trail (absent path trail), ?_⟩
  · by_cases same : other = id
    · cases same
      cases found'.symm.trans replace_same
      cases installed
    · exact ⟨_, (replace_other same).symm.trans found', installed⟩
  · by_cases same : other = id
    · cases same
      cases found'.symm.trans replace_same
      rw [Coroutine.new, Stack.at?_push] at stands
      split at stands
      · next bottom =>
          cases stands
          exact .inr ⟨rfl, bottom, fresh, Nat.lt_succ_self _⟩
      · cases stands
    · exact .inl ⟨_, _, (replace_other same).symm.trans found', stands, rfl⟩
  · rw [frameIds_replace (absent path trail)]
    exact nested

theorem openedRegion {owner : Frame} (layered : Layered find current marks serial frame)
    (linked : Linked find current) (found : find current = some coroutine)
    (active : coroutine.active? = some owner) :
    Layered find current (⟨serial, owner.id⟩ :: marks) (serial + 1) frame := by
  obtain ⟨deep, top⟩ := Coroutine.at?_top active
  obtain ⟨rest, trail, absent, ordered⟩ := layered.onward found
  obtain ⟨waiting, stacked⟩ := List.head?_eq_some_iff.mp active
  exact {
    distinct := layered.distinct
    bounded := layered.bounded
    nested := by
      refine ⟨current :: rest, trail, ?_⟩
      rw [stacked, List.map_cons, List.cons_append] at ordered
      rw [List.flatMap_cons, frameIds, found]
      simp only [stacked, List.map_cons, List.cons_append]
      exact .own rfl ordered
    ordered := .cons (fun _ member => layered.opened member) layered.ordered
    opened := fun member => by
      rcases List.mem_cons.mp member with rfl | earlier
      · exact Nat.lt_succ_self _
      · exact Nat.lt_succ_of_lt (layered.opened earlier)
    pushed := fun found installed => Nat.le_succ_of_le (layered.pushed found installed)
    above := fun found installed located member own higher => by
      rcases List.mem_cons.mp member with rfl | earlier
      · exact layered.pushed found installed
      · exact layered.above found installed located earlier own higher
    below := fun found' installed located member own lower => by
      rcases List.mem_cons.mp member with rfl | earlier
      · -- The new region belongs to the topmost frame, which no handler is above.
        obtain ⟨rfl, rfl⟩ := layered.distinct found found' top located own
        cases Option.some.inj (found.symm.trans found')
        have within := (linked.sound found).owned installed
        omega
      · exact layered.below found' installed located earlier own lower }

theorem pushedHandler {handler : Handler} (layered : Layered find current marks serial frame)
    (found : find current = some coroutine) (innermost : handler.depth = coroutine.depth - 1)
    (now : handler.regionSerial = serial) :
    Layered (replace find current { coroutine with handlers := handler :: coroutine.handlers })
      current marks serial frame := by
  have earlier {id : CoroutineId} {later : Coroutine} (found' : replace find current
      { coroutine with handlers := handler :: coroutine.handlers } id = some later) :
      ∃ earlier, find id = some earlier ∧ earlier.frames = later.frames ∧
        ∀ other ∈ later.handlers, other ∈ earlier.handlers ∨
          (other = handler ∧ later.frames = coroutine.frames) := by
    by_cases same : id = current
    · cases same
      cases found'.symm.trans replace_same
      exact ⟨coroutine, found, rfl, fun other installed =>
        (List.mem_cons.mp installed).symm.imp id fun same => ⟨same, rfl⟩⟩
    · exact ⟨later, (replace_other same).symm.trans found', rfl, fun _ installed => .inl installed⟩
  obtain ⟨rest, trail, absent, ordered⟩ := layered.onward found
  exact {
    distinct := fun found found' located located' same => by
      obtain ⟨_, here, frames, -⟩ := earlier found
      obtain ⟨_, here', frames', -⟩ := earlier found'
      exact layered.distinct here here' (frames ▸ located) (frames' ▸ located') same
    bounded := fun found stacked => by
      obtain ⟨_, here, frames, -⟩ := earlier found
      exact layered.bounded here (frames ▸ stacked)
    nested := by
      refine ⟨current :: rest, ?_, ?_⟩
      · have same : waiterOf (replace find current { coroutine with
            handlers := handler :: coroutine.handlers }) = waiterOf find :=
          waiterOf_replace_kept found rfl
        rw [same]
        exact trail
      · rw [List.flatMap_cons, frameIds_replace absent, frameIds, replace_same]
        exact ordered
    ordered := layered.ordered
    opened := layered.opened
    pushed := fun found installed => by
      obtain ⟨_, here, -, handlers⟩ := earlier found
      rcases handlers _ installed with old | ⟨rfl, -⟩
      · exact layered.pushed here old
      · exact Nat.le_of_eq now
    above := fun found installed located member own higher => by
      obtain ⟨_, here, frames, handlers⟩ := earlier found
      rcases handlers _ installed with old | ⟨rfl, same⟩
      · exact layered.above here old (frames ▸ located) member own higher
      · have within := Stack.lt_of_at? (same ▸ located)
        rw [Coroutine.depth] at innermost
        omega
    below := fun found installed located member own lower => by
      obtain ⟨_, here, frames, handlers⟩ := earlier found
      rcases handlers _ installed with old | ⟨rfl, -⟩
      · exact layered.below here old (frames ▸ located) member own lower
      · rw [now]
        exact layered.opened member }

end Layered

end Layers

namespace Coroutine

variable {coroutine : Coroutine} {handler : Handler} {outer : List Handler}

theorem Reduces.updateActive {change : Frame → Frame}
    (same : ∀ frame, (change frame).id = frame.id)
    (base : ∀ frame, (change frame).base = frame.base) :
    coroutine.Reduces (coroutine.updateActive change) where
  handlers := id
  frames {depth located} stands := by
    simp only [Coroutine.updateActive, Stack.at?_modifyTop] at stands
    split at stands
    · obtain ⟨stood, here, rfl⟩ := Option.map_eq_some_iff.mp stands
      exact ⟨stood, here, (same stood).symm, (base stood).symm⟩
    · exact ⟨located, stands, rfl, rfl⟩

theorem Reduces.popFrame : coroutine.Reduces coroutine.popFrame where
  handlers installed := List.mem_of_mem_filter installed
  frames {depth located} stands := by
    simp only [Coroutine.popFrame, Stack.at?_pop] at stands
    split at stands
    · exact ⟨located, stands, rfl, rfl⟩
    · cases stands

theorem Reduces.caught (installed : coroutine.handlers = handler :: outer) :
    coroutine.Reduces (coroutine.caught handler outer) where
  handlers member := installed ▸ List.mem_cons_of_mem _ member
  frames {depth located} stands := by
    simp only [Coroutine.caught, Stack.at?_below] at stands
    split at stands
    · exact ⟨located, stands, rfl, rfl⟩
    · cases stands

theorem active_caught {owner : Frame}
    (owned : coroutine.frames.at? handler.depth = some owner) :
    (coroutine.caught handler outer).active? = some owner := by
  have within := Stack.lt_of_at? owned
  rw [active?, caught, Stack.top?_eq_at?, Stack.at?_below, Stack.size_below, if_pos (by omega)]
  have top : min (handler.depth + 1) coroutine.frames.size - 1 = handler.depth := by omega
  rw [top, owned]

theorem Reduces.dead : coroutine.Reduces .dead :=
  ⟨nofun, nofun⟩

theorem frameIds_updateActive {change : Frame → Frame}
    (same : ∀ frame, (change frame).id = frame.id) :
    (coroutine.updateActive change).frames.items.map Frame.id =
      coroutine.frames.items.map Frame.id := by
  simp only [Coroutine.updateActive, Stack.items_modifyTop]
  cases coroutine.frames.items with
  | nil => rfl
  | cons frame rest => simp [same]

end Coroutine

namespace Machine

variable {machine : Machine} {coroutine : Coroutine} {fewer : List Mark}

def marks (machine : Machine) : List Mark :=
  machine.regions.items.map Region.mark

def Layered (machine : Machine) : Prop :=
  Backtrack.Layered machine.coroutine? machine.current machine.marks machine.nextSerial
    machine.nextFrame

theorem layered_update {change : Coroutine → Coroutine} (layered : machine.Layered)
    (found : machine.coroutine? machine.current = some coroutine)
    (reduces : coroutine.Reduces (change coroutine))
    (caller : (change coroutine).caller = coroutine.caller) (kept : fewer.Sublist machine.marks)
    (nested : ∀ rest, Nested (coroutine.frames.items.map Frame.id ++ rest) machine.marks →
      Nested ((change coroutine).frames.items.map Frame.id ++ rest) fewer) :
    Backtrack.Layered (machine.updateCoroutine machine.current change).coroutine? machine.current
      fewer machine.nextSerial machine.nextFrame := by
  rw [coroutine?_replace found]
  exact Layered.updated layered found reduces caller kept nested

theorem layered_updateFrame {change : Frame → Frame} (layered : machine.Layered)
    (found : machine.coroutine? machine.current = some coroutine)
    (same : ∀ frame, (change frame).id = frame.id)
    (base : ∀ frame, (change frame).base = frame.base) :
    (machine.updateFrame machine.current change).Layered :=
  layered_update layered found (.updateActive same base) rfl (List.Sublist.refl _) fun _ nested => by
    rw [Coroutine.frameIds_updateActive same]
    exact nested

theorem layered_leave {change : Coroutine → Coroutine} {link : CallerLink}
    (layered : machine.Layered)
    (found : machine.coroutine? machine.current = some coroutine)
    (waiting : coroutine.caller = some link) (reduces : coroutine.Reduces (change coroutine))
    (kept : fewer.Sublist machine.marks)
    (nested : ∀ rest, Nested (coroutine.frames.items.map Frame.id ++ rest) machine.marks →
      Nested rest fewer) :
    Backtrack.Layered (machine.updateCoroutine machine.current change).coroutine? link.coroutine
      fewer machine.nextSerial machine.nextFrame := by
  rw [coroutine?_replace found]
  exact Layered.left layered found waiting reduces kept nested

theorem layered_call {active : Frame} (layered : machine.Layered)
    (found : machine.coroutine? machine.current = some coroutine)
    (fresh : active.id = ⟨machine.nextFrame⟩) :
    Backtrack.Layered (machine.updateCoroutine machine.current (·.pushFrame active)).coroutine?
      machine.current machine.marks machine.nextSerial (machine.nextFrame + 1) := by
  rw [coroutine?_replace found]
  exact Layered.called layered found fresh

theorem layered_pushHandler {handler : Handler} (layered : machine.Layered)
    (found : machine.coroutine? machine.current = some coroutine)
    {change : Coroutine → Coroutine}
    (changes : change coroutine = { coroutine with handlers := handler :: coroutine.handlers })
    (innermost : handler.depth = coroutine.depth - 1)
    (now : handler.regionSerial = machine.nextSerial) :
    Backtrack.Layered (machine.updateCoroutine machine.current change).coroutine? machine.current
      machine.marks machine.nextSerial machine.nextFrame := by
  rw [coroutine?_replace found, changes]
  exact Layered.pushedHandler layered found innermost now

theorem layered_enter {id : CoroutineId} {change : Coroutine → Coroutine} {link : CallerLink}
    (linked : Linked machine.coroutine? machine.current) (layered : machine.Layered)
    (found : machine.coroutine? id = some coroutine) (resting : coroutine.state ≠ .running)
    (reduces : coroutine.Reduces (change coroutine))
    (waits : (change coroutine).caller = some link) (back : link.coroutine = machine.current) :
    Backtrack.Layered (machine.updateCoroutine id change).coroutine? id machine.marks
      machine.nextSerial machine.nextFrame := by
  rw [coroutine?_replace found]
  exact Layered.entered layered found (fun _ trail => linked.not_passed found resting trail)
    reduces waits back

theorem layered_add {entry : Frame} (linked : Linked machine.coroutine? machine.current)
    (layered : machine.Layered) (fresh : entry.id = ⟨machine.nextFrame⟩) :
    Backtrack.Layered
      { machine with coroutines := machine.coroutines.push (.new entry) }.coroutine?
      machine.current machine.marks machine.nextSerial (machine.nextFrame + 1) := by
  rw [coroutine?_push]
  refine Layered.added layered (fun path trail passed => ?_) fresh
  obtain ⟨path', trail', -, running⟩ := linked.path
  cases trail.unique trail'
  obtain ⟨_, found, -⟩ := (running _).mp passed
  exact absurd (Array.getElem?_eq_some_iff.mp found).1 (Nat.lt_irrefl _)

theorem layered_effect {code : Instruction} {before after : Machine}
    (linked : Linked before.coroutine? before.current) (layered : before.Layered)
    (effect : Effect code before after) : after.Layered := by
  obtain ⟨_, found, -⟩ := linked.current_running
  cases effect with
  | count | intern => exact layered
  | bindVar | bindCandidates =>
      unfold Layered marks at layered ⊢
      simp only [Stack.items_map, List.map_map]
      exact layered
  | compute change same =>
      exact layered_updateFrame layered found (fun frame => (same frame).id)
        fun frame => (same frame).base
  | pushScope | popScope => exact layered_updateFrame layered found (fun _ => rfl) fun _ => rfl
  | call dst function registers active =>
      exact layered_call layered found rfl
  | @«return» coroutine frame dst current active callee closed =>
      obtain ⟨below, stacked⟩ := List.head?_eq_some_iff.mp active
      refine layered_update layered current .popFrame
        ((linked.sound current).popFrame_callee (linked.running_of_current current) active
          (by rw [callee]; nofun)).2 (List.Sublist.refl _) fun rest nested => ?_
      rw [stacked] at nested
      simp only [Coroutine.popFrame, Stack.items_pop, stacked, List.tail_cons]
      have top : Nested ([frame.id] ++ (below.map Frame.id ++ rest)) before.marks := nested
      refine top.unowned fun mark member => ?_
      obtain ⟨region, opened, rfl⟩ := List.mem_map.mp member
      simpa [Region.mark] using closed region opened
  | @finish coroutine frame link current active entry waiting closed =>
      obtain ⟨below, stacked⟩ := List.head?_eq_some_iff.mp active
      have single : coroutine.frames.items = [frame] := by
        have last := ((linked.sound current).active_entry active).mp entry
        rw [Coroutine.depth, Stack.size_eq, stacked, List.length_cons] at last
        rw [stacked, List.length_eq_zero_iff.mp (Nat.succ.inj last)]
      refine layered_leave layered current waiting .popFrame (List.Sublist.refl _)
        fun rest nested => ?_
      rw [single] at nested
      refine nested.unowned fun mark member => ?_
      obtain ⟨region, opened, rfl⟩ := List.mem_map.mp member
      simpa [Region.mark] using closed region opened
  | create function registers => exact layered_add linked layered rfl
  | copy found single => exact layered_add linked layered rfl
  | enter dst out active found parked =>
      have resting := ((linked.sound found).enterable parked).2
      exact layered_enter linked layered found resting ⟨id, fun stands => ⟨_, stands, rfl, rfl⟩⟩ rfl rfl
  | @yield coroutine link current running waiting closed =>
      refine layered_leave layered current waiting ⟨id, fun stands => ⟨_, stands, rfl, rfl⟩⟩
        (List.Sublist.refl _) fun rest nested => nested.unowned fun mark member own => ?_
      obtain ⟨region, opened, rfl⟩ := List.mem_map.mp member
      obtain ⟨frame, stacked, same⟩ := List.mem_map.mp own
      exact closed region opened frame stacked same
  | openRegion opening active =>
      obtain ⟨coroutine, current, top⟩ := Option.bind_eq_some_iff.mp active
      exact Layered.openedRegion layered linked current top
  | commitRegion top | rollbackRegion top =>
      refine Layered.closed layered ?_
      simp only [marks, top, List.map_cons, Stack.items_ofItems]
      exact List.sublist_cons_self ..
  | undoAll => exact Layered.closed layered (List.nil_sublist _)
  | pushHandler target dst current active =>
      exact layered_pushHandler layered current rfl rfl rfl
  | popHandler current installed =>
      exact layered_update layered current
        ⟨fun member => installed ▸ List.mem_cons_of_mem _ member, fun stands => ⟨_, stands, rfl, rfl⟩⟩ rfl
        (List.Sublist.refl _) fun _ nested => nested
  | @abandon coroutine link current bare inner waiting =>
      exact layered_leave layered current waiting .dead ((List.dropWhile_sublist _).map _)
        fun rest nested => nested.dropWhile fun region _ own => decide_eq_true own
  | @«catch» coroutine handler outer owner current installed owned inScope =>
      have cut : Layered { before.updateCoroutine before.current (·.caught handler outer) with
          regions := .ofItems (before.regions.items.dropWhile (handler.undoes
            ((coroutine.frames.above (handler.depth + 1) ++ [owner]).map Frame.id))) } := by
        refine layered_update layered current (.caught installed) rfl
          ((List.dropWhile_sublist _).map _) fun rest nested => ?_
        rw [← coroutine.frames.above_append_below (handler.depth + 1), List.map_append,
          List.append_assoc] at nested
        refine nested.dropWhile fun region opened own => ?_
        obtain ⟨frame, above, same⟩ := List.mem_map.mp own
        obtain ⟨depth, higher, located⟩ := Stack.mem_above_iff.mp above
        have later : handler.regionSerial ≤ region.mark.serial :=
          Layered.above layered current (installed ▸ List.mem_cons_self) located
            (List.mem_map_of_mem opened) same.symm higher
        refine Handler.undoes_iff.mpr ⟨later, ?_⟩
        rw [List.map_append]
        exact List.mem_append_left _ own
      have caught : (before.updateCoroutine before.current
          (·.caught handler outer)).coroutine? before.current =
            some (coroutine.caught handler outer) := by
        rw [coroutine?_replace current, replace_same]
      exact layered_updateFrame cut caught (fun _ => rfl) fun _ => rfl

/-- A single coroutine with a single frame and no region. -/
theorem layered_alone {entry : Frame} (first : entry.id = ⟨0⟩) :
    Backtrack.Layered (fun id => #[Coroutine.root entry][id.index]?) .root [] 0 1 where
  distinct found found' located located' _ := by
    obtain ⟨rfl, rfl⟩ := eq_of_alone found
    obtain ⟨rfl, rfl⟩ := eq_of_alone found'
    have bottom := Stack.lt_of_at? located
    have bottom' := Stack.lt_of_at? located'
    simp only [Coroutine.root, Coroutine.new, Stack.size_push, Stack.size_empty] at bottom bottom'
    exact ⟨rfl, by omega⟩
  bounded found stacked := by
    obtain ⟨rfl, rfl⟩ := eq_of_alone found
    cases List.mem_singleton.mp stacked
    rw [first]
    exact Nat.one_pos
  nested := ⟨[.root], .last (waiterOf_eq_none rfl rfl), .skip .none⟩
  ordered := .nil
  opened := nofun
  pushed found installed := by
    obtain ⟨-, rfl⟩ := eq_of_alone found
    cases installed
  above := nofun
  below := nofun

theorem Reachable.layered {program : Program} {args : List Value} {settings : Settings}
    (reachable : Reachable program args settings machine) (running : machine.isRunning = true) :
    machine.Layered := by
  refine (reachable.induction
    (fun machine => Linked machine.coroutine? machine.current ∧ machine.Layered)
    running (fun initial started => ?_) (fun _ _ _ held => held)
    fun code before after held effect =>
      ⟨linked_effect held.1 effect, layered_effect held.1 held.2 effect⟩).2.2
  obtain ⟨unit, registers, -, -, -, -, rfl⟩ := start_eq started
  exact ⟨linked_alone (.root rfl) rfl rfl, layered_alone rfl⟩

end Machine

end Backtrack
