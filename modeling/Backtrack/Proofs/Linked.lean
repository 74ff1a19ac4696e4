import Backtrack.Proofs.Steps

/-!
How coroutines wait for each other. A coroutine that runs either is current or waits for exactly one
other, so the links lead from the current coroutine over every running one to the root. This holds
for any program, since the machine itself refuses to enter a coroutine that runs.
-/

namespace Backtrack

namespace Coroutine

/-- What holds of a coroutine whatever the others do. -/
structure Sound (coroutine : Coroutine) : Prop where
  entry {depth : Nat} {frame : Frame} (found : coroutine.frames.at? depth = some frame) :
    frame.role = .entry ↔ depth = 0
  fresh (unstarted : coroutine.started = false) :
    coroutine.depth = 1 ∧ coroutine.suspended = false ∧ coroutine.handlers = []
  parked (suspended : coroutine.suspended = true) : 0 < coroutine.depth
  owned {handler : Handler} (installed : handler ∈ coroutine.handlers) :
    handler.depth < coroutine.depth
  nested : coroutine.handlers.Pairwise fun inner outer => outer.depth ≤ inner.depth
  awake (waited : coroutine.caller ≠ none) :
    coroutine.started = true ∧ 0 < coroutine.depth ∧ coroutine.suspended = false

variable {coroutine : Coroutine} {frame : Frame} {handler : Handler} {outer : List Handler}
  {change : Frame → Frame}

theorem state_eq_running_iff :
    coroutine.state = .running ↔
      coroutine.started = true ∧ 0 < coroutine.depth ∧ coroutine.suspended = false := by
  unfold state depth
  cases coroutine.started <;> cases coroutine.suspended <;>
    cases gone : coroutine.frames.isEmpty <;>
    simp [Nat.pos_iff_ne_zero, ← Stack.isEmpty_iff, gone]

theorem state_eq_exhausted_iff :
    coroutine.state = .exhausted ↔ coroutine.started = true ∧ coroutine.depth = 0 := by
  unfold state depth
  cases coroutine.started <;> cases coroutine.suspended <;>
    cases gone : coroutine.frames.isEmpty <;>
    simp [← Stack.isEmpty_iff, gone]

theorem state_eq_fresh_iff : coroutine.state = .fresh ↔ coroutine.started = false := by
  unfold state
  cases coroutine.started <;> cases coroutine.suspended <;>
    cases coroutine.frames.isEmpty <;> simp

theorem state_eq_suspended_iff :
    coroutine.state = .suspended ↔
      coroutine.started = true ∧ 0 < coroutine.depth ∧ coroutine.suspended = true := by
  unfold state depth
  cases coroutine.started <;> cases coroutine.suspended <;>
    cases gone : coroutine.frames.isEmpty <;>
    simp [Nat.pos_iff_ne_zero, ← Stack.isEmpty_iff, gone]

@[simp] theorem depth_new : (new frame).depth = 1 := rfl

theorem at?_top (active : coroutine.active? = some frame) :
    0 < coroutine.depth ∧ coroutine.frames.at? (coroutine.depth - 1) = some frame := by
  have top : coroutine.frames.top? = _ := Stack.top?_eq_at?
  rw [← active?, active] at top
  have within := Stack.lt_of_at? top.symm
  exact ⟨Nat.zero_lt_of_lt within, top.symm⟩

theorem Sound.idle (sound : coroutine.Sound) (resting : coroutine.state ≠ .running) :
    coroutine.caller = none := by
  cases waited : coroutine.caller with
  | none => rfl
  | some link => exact absurd (state_eq_running_iff.mpr (sound.awake (by simp [waited]))) resting

/-- An update of the active frame shows at the topmost depth only. -/
theorem at?_updateActive {depth : Nat} {located : Frame}
    (stands : (coroutine.updateActive change).frames.at? depth = some located) :
    (depth + 1 ≠ coroutine.depth ∧ coroutine.frames.at? depth = some located) ∨
      (depth + 1 = coroutine.depth ∧
        ∃ frame, coroutine.frames.at? depth = some frame ∧ located = change frame) := by
  rw [Coroutine.updateActive, Stack.at?_modifyTop] at stands
  split at stands
  · next top =>
      obtain ⟨frame, stood, same⟩ := Option.map_eq_some_iff.mp stands
      exact .inr ⟨top, frame, stood, same.symm⟩
  · next lower => exact .inl ⟨lower, stands⟩

/-- The active frame is the only one at its depth or above. -/
theorem above_active (active : coroutine.active? = some frame) :
    coroutine.frames.above (coroutine.depth - 1) = [frame] := by
  obtain ⟨below, stacked⟩ := List.head?_eq_some_iff.mp active
  have one : coroutine.frames.size - (coroutine.frames.size - 1) = 1 := by
    rw [Stack.size_eq, stacked, List.length_cons]
    omega
  rw [depth, Stack.above, one, stacked]
  rfl

/-! Coroutines come into being sound and stay so. -/

theorem Sound.new (entry : frame.role = .entry) : (Coroutine.new frame).Sound where
  entry {depth found} located := by
    rw [Coroutine.new, Stack.at?_push] at located
    split at located
    · next bottom =>
        cases located
        exact iff_of_true entry bottom
    · cases located
  fresh _ := ⟨rfl, rfl, rfl⟩
  parked := nofun
  owned := nofun
  nested := .nil
  awake waited := absurd rfl waited

theorem Sound.root (entry : frame.role = .entry) : (Coroutine.root frame).Sound :=
  { Sound.new entry with
    fresh := nofun
    awake := fun waited => absurd rfl waited }

theorem Sound.updateActive (sound : coroutine.Sound)
    (same : ∀ frame, (change frame).role = frame.role) : (coroutine.updateActive change).Sound where
  entry {depth found} located := by
    simp only [Coroutine.updateActive, Stack.at?_modifyTop] at located
    split at located
    · obtain ⟨earlier, stood, rfl⟩ := Option.map_eq_some_iff.mp located
      rw [same]
      exact sound.entry stood
    · exact sound.entry located
  fresh := sound.fresh
  parked := sound.parked
  owned := sound.owned
  nested := sound.nested
  awake := sound.awake

theorem Sound.pushFrame (sound : coroutine.Sound) (running : coroutine.state = .running)
    (callee : frame.role ≠ .entry) : (coroutine.pushFrame frame).Sound := by
  obtain ⟨started, deep, awake⟩ := state_eq_running_iff.mp running
  refine {
    entry := fun {depth found} located => ?_
    fresh := fun unstarted => absurd (started.symm.trans unstarted) nofun
    parked := fun _ => Nat.succ_pos _
    owned := fun installed => Nat.lt_succ_of_lt (sound.owned installed)
    nested := sound.nested
    awake := fun _ => ⟨started, Nat.succ_pos _, awake⟩ }
  simp only [Coroutine.pushFrame, Stack.at?_push] at located
  split at located
  · next top =>
      cases located
      rw [top]
      exact iff_of_false callee (Nat.ne_of_gt deep)
  · exact sound.entry located

/-- Only the end of its entry frame ends a coroutine. -/
theorem Sound.active_entry (sound : coroutine.Sound) (active : coroutine.active? = some frame) :
    frame.role = .entry ↔ coroutine.depth = 1 := by
  obtain ⟨deep, top⟩ := at?_top active
  rw [sound.entry top]
  omega

theorem dropWhile_depth {handlers : List Handler} {cut : Nat}
    (nested : handlers.Pairwise fun inner outer => outer.depth ≤ inner.depth) :
    handlers.dropWhile (cut ≤ ·.depth) = handlers.filter (·.depth < cut) := by
  induction handlers with
  | nil => rfl
  | cons handler outer ih =>
      obtain ⟨below, rest⟩ := List.pairwise_cons.mp nested
      by_cases kept : handler.depth < cut
      · have all (other : Handler) (installed : other ∈ handler :: outer) :
            decide (other.depth < cut) = true := by
          rcases List.mem_cons.mp installed with rfl | inner
          · exact decide_eq_true kept
          · exact decide_eq_true (Nat.lt_of_le_of_lt (below other inner) kept)
        rw [List.filter_eq_self.mpr all, List.dropWhile_cons_of_neg (by simpa using kept)]
      · rw [List.dropWhile_cons_of_pos (by simpa using kept), ih rest,
          List.filter_cons_of_neg (by simpa using kept)]

/-- The handlers that go with a frame are those pushed last. -/
theorem Sound.handlers_popFrame (sound : coroutine.Sound) :
    coroutine.popFrame.handlers =
      coroutine.handlers.dropWhile (coroutine.depth - 1 ≤ ·.depth) :=
  (dropWhile_depth sound.nested).symm

theorem Sound.popFrame (sound : coroutine.Sound) (running : coroutine.state = .running) :
    coroutine.popFrame.Sound := by
  obtain ⟨started, deep, awake⟩ := state_eq_running_iff.mp running
  exact {
    entry := fun {depth found} located => by
      simp only [Coroutine.popFrame, Stack.at?_pop] at located
      split at located
      · exact sound.entry located
      · cases located
    fresh := fun unstarted => absurd (started.symm.trans unstarted) nofun
    parked := fun suspended => absurd (awake.symm.trans suspended) nofun
    owned := fun installed => of_decide_eq_true (List.mem_filter.mp installed).2
    nested := sound.nested.sublist List.filter_sublist
    awake := fun waited => by
      refine ⟨started, Nat.pos_of_ne_zero fun gone => waited ?_, awake⟩
      simp only [Coroutine.popFrame]
      exact if_pos (Stack.isEmpty_iff.mpr gone) }

/-- A coroutine goes on running in the frame below. -/
theorem Sound.popFrame_callee (sound : coroutine.Sound) (running : coroutine.state = .running)
    (active : coroutine.active? = some frame) (callee : frame.role ≠ .entry) :
    coroutine.popFrame.state = .running ∧ coroutine.popFrame.caller = coroutine.caller := by
  obtain ⟨started, deep, awake⟩ := state_eq_running_iff.mp running
  have inner : coroutine.frames.size ≠ 1 := fun last =>
    callee ((sound.active_entry active).mpr last)
  have left : coroutine.frames.pop.size ≠ 0 := by
    rw [depth] at deep
    rw [Stack.size_pop]
    omega
  exact ⟨state_eq_running_iff.mpr ⟨started, Nat.pos_of_ne_zero left, awake⟩,
    if_neg fun gone => left (Stack.isEmpty_iff.mp gone)⟩

theorem Sound.popFrame_entry (sound : coroutine.Sound) (running : coroutine.state = .running)
    (active : coroutine.active? = some frame) (entry : frame.role = .entry) :
    coroutine.popFrame.state = .exhausted := by
  have last : coroutine.frames.size = 1 := (sound.active_entry active).mp entry
  refine state_eq_exhausted_iff.mpr ⟨(state_eq_running_iff.mp running).1, ?_⟩
  rw [depth, Coroutine.popFrame, Stack.size_pop, last]

theorem Sound.single_entry (sound : coroutine.Sound) (single : coroutine.frames.items = [frame]) :
    frame.role = .entry := by
  have bottom : coroutine.frames.at? 0 = some frame := by
    rw [Stack.at?_eq, single]
    rfl
  exact (sound.entry bottom).mpr rfl

/-- A coroutine that can be entered has a frame to go on with. -/
theorem Sound.enterable (sound : coroutine.Sound)
    (parked : coroutine.state = .fresh ∨ coroutine.state = .suspended) :
    0 < coroutine.depth ∧ coroutine.state ≠ .running := by
  rcases parked with fresh | suspended
  · refine ⟨?_, by rw [fresh]; nofun⟩
    rw [(sound.fresh (state_eq_fresh_iff.mp fresh)).1]
    exact Nat.one_pos
  · exact ⟨(state_eq_suspended_iff.mp suspended).2.1, by rw [suspended]; nofun⟩

theorem Sound.entered {link : CallerLink} (sound : coroutine.Sound) (deep : 0 < coroutine.depth) :
    Coroutine.Sound { coroutine with
      caller := some link
      suspended := false
      started := true } where
  entry := sound.entry
  fresh := nofun
  parked := nofun
  owned := sound.owned
  nested := sound.nested
  awake _ := ⟨rfl, deep, rfl⟩

theorem Sound.suspended (sound : coroutine.Sound) (running : coroutine.state = .running) :
    Coroutine.Sound { coroutine with caller := none, suspended := true } := by
  obtain ⟨started, deep, awake⟩ := state_eq_running_iff.mp running
  exact {
    entry := sound.entry
    fresh := fun unstarted => absurd (started.symm.trans unstarted) nofun
    parked := fun _ => deep
    owned := sound.owned
    nested := sound.nested
    awake := fun waited => absurd rfl waited }

theorem Sound.dead : Coroutine.dead.Sound where
  entry := nofun
  fresh := nofun
  parked := nofun
  owned := nofun
  nested := .nil
  awake waited := absurd rfl waited

theorem Sound.pushHandler (sound : coroutine.Sound) (running : coroutine.state = .running)
    (innermost : handler.depth = coroutine.depth - 1) :
    Coroutine.Sound { coroutine with handlers := handler :: coroutine.handlers } := by
  obtain ⟨started, deep, awake⟩ := state_eq_running_iff.mp running
  exact {
    entry := sound.entry
    fresh := fun unstarted => absurd (started.symm.trans unstarted) nofun
    parked := sound.parked
    owned := fun installed => by
      rcases List.mem_cons.mp installed with rfl | earlier
      · exact innermost ▸ Nat.sub_lt deep Nat.one_pos
      · exact sound.owned earlier
    nested := .cons (fun earlier installed => by
      have below := sound.owned installed
      omega) sound.nested
    awake := sound.awake }

theorem Sound.popHandler (sound : coroutine.Sound)
    (installed : coroutine.handlers = handler :: outer) :
    Coroutine.Sound { coroutine with handlers := outer } where
  entry := sound.entry
  fresh unstarted := by
    have bare := (sound.fresh unstarted).2.2
    rw [installed] at bare
    cases bare
  parked := sound.parked
  owned member := sound.owned (installed ▸ List.mem_cons_of_mem _ member)
  nested := (List.pairwise_cons.mp (installed ▸ sound.nested)).2
  awake := sound.awake

/-- A coroutine that catches a condition. -/
def caught (coroutine : Coroutine) (handler : Handler) (outer : List Handler) : Coroutine :=
  { coroutine with
    handlers := outer
    frames := coroutine.frames.below (handler.depth + 1) }

theorem Sound.caught (sound : coroutine.Sound) (running : coroutine.state = .running)
    (installed : coroutine.handlers = handler :: outer) :
    (coroutine.caught handler outer).Sound ∧
      (coroutine.caught handler outer).state = .running := by
  obtain ⟨started, deep, awake⟩ := state_eq_running_iff.mp running
  obtain ⟨below, nested⟩ := List.pairwise_cons.mp (installed ▸ sound.nested)
  have within : handler.depth < coroutine.frames.size := sound.owned (by simp [installed])
  have cut : (coroutine.frames.below (handler.depth + 1)).size = handler.depth + 1 := by
    rw [Stack.size_below]
    omega
  have kept : 0 < (coroutine.frames.below (handler.depth + 1)).size := by
    rw [cut]
    exact Nat.succ_pos _
  refine ⟨?_, state_eq_running_iff.mpr ⟨started, kept, awake⟩⟩
  exact {
    entry := fun {depth found} located => by
      simp only [Coroutine.caught, Stack.at?_below] at located
      split at located
      · exact sound.entry located
      · cases located
    fresh := fun unstarted => absurd (started.symm.trans unstarted) nofun
    parked := fun _ => kept
    owned := fun {other} installed => by
      rw [depth, Coroutine.caught, cut]
      exact Nat.lt_succ_of_le (below other installed)
    nested := nested
    awake := fun _ => ⟨started, kept, awake⟩ }

end Coroutine

/-! The links between coroutines -/

section Links

variable {find : CoroutineId → Option Coroutine} {current id other : CoroutineId}
  {coroutine changed : Coroutine} {link : CallerLink}

/-- The coroutine that waits for another. -/
def waiterOf (find : CoroutineId → Option Coroutine) (id : CoroutineId) : Option CoroutineId := do
  return (← (← find id).caller).coroutine

theorem waiterOf_eq_some (found : find id = some coroutine)
    (waiting : coroutine.caller = some link) : waiterOf find id = some link.coroutine := by
  simp [waiterOf, found, waiting]

theorem waiterOf_eq_none (found : find id = some coroutine) (idle : coroutine.caller = none) :
    waiterOf find id = none := by
  simp [waiterOf, found, idle]

/-- One coroutine changes, or is new. -/
def replace (find : CoroutineId → Option Coroutine) (id : CoroutineId) (changed : Coroutine) :
    CoroutineId → Option Coroutine :=
  fun other => if other = id then some changed else find other

@[simp] theorem replace_same : replace find id changed id = some changed := if_pos rfl

theorem replace_other (differ : other ≠ id) : replace find id changed other = find other :=
  if_neg differ

theorem waiterOf_replace_other (differ : other ≠ id) :
    waiterOf (replace find id changed) other = waiterOf find other := by
  simp only [waiterOf, replace_other differ]

/-- A trail that does not pass a coroutine does not depend on it. -/
theorem trail_replace {start : CoroutineId} {path : List CoroutineId}
    (trail : Trail (waiterOf find) start path) (absent : id ∉ path) :
    Trail (waiterOf (replace find id changed)) start path :=
  trail.congr fun _ member => waiterOf_replace_other fun same => absent (same ▸ member)

theorem waiterOf_replace_kept (found : find id = some coroutine)
    (kept : changed.caller = coroutine.caller) :
    waiterOf (replace find id changed) = waiterOf find := by
  funext other
  by_cases same : other = id
  · cases same
    simp [waiterOf, found, kept]
  · exact waiterOf_replace_other same

structure Linked (find : CoroutineId → Option Coroutine) (current : CoroutineId) : Prop where
  sound {id : CoroutineId} {coroutine : Coroutine} (found : find id = some coroutine) :
    coroutine.Sound
  /-- A link names the active frame of the coroutine it points to. -/
  waits {id : CoroutineId} {coroutine : Coroutine} {link : CallerLink}
    (found : find id = some coroutine) (waiting : coroutine.caller = some link) :
    ∃ waiter, find link.coroutine = some waiter ∧ waiter.depth = link.depth + 1
  /-- The coroutines that run are those from the current one back to the root. -/
  path : ∃ path, Trail (waiterOf find) current path ∧ path.getLast? = some .root ∧
    ∀ id, id ∈ path ↔ ∃ coroutine, find id = some coroutine ∧ coroutine.state = .running

namespace Linked

theorem current_running (linked : Linked find current) :
    ∃ coroutine, find current = some coroutine ∧ coroutine.state = .running := by
  obtain ⟨path, trail, -, running⟩ := linked.path
  exact (running current).mp trail.mem_start

theorem running_of_current (linked : Linked find current) (found : find current = some coroutine) :
    coroutine.state = .running := by
  obtain ⟨same, found', running⟩ := linked.current_running
  cases Option.some.inj (found.symm.trans found')
  exact running

/-- Nothing waits for the coroutine that runs now. -/
theorem not_waited (linked : Linked find current) (found : find id = some coroutine)
    (waiting : coroutine.caller = some link) : link.coroutine ≠ current := by
  intro back
  obtain ⟨path, trail, -, running⟩ := linked.path
  have waits : coroutine.state = .running :=
    Coroutine.state_eq_running_iff.mpr ((linked.sound found).awake (by simp [waiting]))
  obtain ⟨before, after, parts, tail⟩ := trail.split ((running id).mpr ⟨coroutine, found, waits⟩)
  have leads := waiterOf_eq_some found waiting
  rw [back] at leads
  have same := tail.unique (.more leads trail)
  have longer := congrArg List.length parts
  simp only [same, List.length_append, List.length_cons] at longer
  omega

/-- A coroutine that does not run is not on the path. -/
theorem not_passed {path : List CoroutineId} (linked : Linked find current)
    (found : find id = some coroutine) (resting : coroutine.state ≠ .running)
    (trail : Trail (waiterOf find) current path) : id ∉ path := by
  obtain ⟨path', trail', -, running⟩ := linked.path
  cases trail.unique trail'
  intro passed
  obtain ⟨same, located, runs⟩ := (running id).mp passed
  cases Option.some.inj (found.symm.trans located)
  exact resting runs

/-- The current coroutine changes and goes on. -/
theorem updated (linked : Linked find current) (found : find current = some coroutine)
    (sound : changed.Sound) (running : changed.state = .running)
    (kept : changed.caller = coroutine.caller) : Linked (replace find current changed) current where
  sound {id coroutine} found := by
    by_cases same : id = current
    · cases same
      cases found.symm.trans replace_same
      exact sound
    · exact linked.sound ((replace_other same).symm.trans found)
  waits {id waiting link} found' waited := by
    have found'' : ∃ earlier, find id = some earlier ∧ earlier.caller = some link := by
      by_cases same : id = current
      · cases same
        cases found'.symm.trans replace_same
        exact ⟨coroutine, found, kept ▸ waited⟩
      · exact ⟨waiting, (replace_other same).symm.trans found', waited⟩
    obtain ⟨earlier, found'', waited'⟩ := found''
    rw [replace_other (linked.not_waited found'' waited')]
    exact linked.waits found'' waited'
  path := by
    obtain ⟨path, trail, last, running'⟩ := linked.path
    rw [waiterOf_replace_kept found kept]
    refine ⟨path, trail, last, fun id => ?_⟩
    rw [running' id]
    by_cases same : id = current
    · cases same
      simp [found, running, linked.running_of_current found]
    · rw [replace_other same]

/-- The current coroutine stops running, and the one that waits for it goes on. -/
theorem left (linked : Linked find current) (found : find current = some coroutine)
    (waiting : coroutine.caller = some link) (sound : changed.Sound)
    (resting : changed.state ≠ .running) :
    Linked (replace find current changed) link.coroutine where
  sound {id coroutine} found := by
    by_cases same : id = current
    · cases same
      cases found.symm.trans replace_same
      exact sound
    · exact linked.sound ((replace_other same).symm.trans found)
  waits {id waiting link} found' waited := by
    by_cases same : id = current
    · cases same
      cases found'.symm.trans replace_same
      rw [sound.idle resting] at waited
      cases waited
    · rw [replace_other same] at found'
      rw [replace_other (linked.not_waited found' waited)]
      exact linked.waits found' waited
  path := by
    obtain ⟨path, trail, last, running⟩ := linked.path
    have distinct := trail.nodup
    cases trail with
    | last ends => simp [waiterOf_eq_some found waiting] at ends
    | @more _ _ rest leads onward =>
        cases Option.some.inj (leads.symm.trans (waiterOf_eq_some found waiting))
        obtain ⟨fresh, -⟩ := List.nodup_cons.mp distinct
        refine ⟨rest, trail_replace onward fresh, ?_, fun id => ?_⟩
        · cases onward <;> simpa using last
        · by_cases same : id = current
          · cases same
            simp [fresh, resting]
          · rw [replace_other same, ← running id]
            simp [same]

/-- The current coroutine waits for one that starts or continues. -/
theorem entered {waiter : Coroutine} (linked : Linked find current)
    (found : find id = some coroutine) (resting : coroutine.state ≠ .running)
    (found' : find current = some waiter) (sound : changed.Sound)
    (running : changed.state = .running) (depth : changed.depth = coroutine.depth)
    (waits : changed.caller = some link) (back : link.coroutine = current)
    (active : waiter.depth = link.depth + 1) : Linked (replace find id changed) id := by
  have differ : current ≠ id := by
    rintro rfl
    exact resting (linked.running_of_current found)
  exact {
    sound := fun {other coroutine} found => by
      by_cases same : other = id
      · cases same
        cases found.symm.trans replace_same
        exact sound
      · exact linked.sound ((replace_other same).symm.trans found)
    waits := fun {other waiting link'} found'' waited => by
      by_cases same : other = id
      · cases same
        cases found''.symm.trans replace_same
        cases Option.some.inj (waits.symm.trans waited)
        rw [back, replace_other differ]
        exact ⟨waiter, found', active⟩
      · rw [replace_other same] at found''
        obtain ⟨target, located, deep⟩ := linked.waits found'' waited
        by_cases entered : link'.coroutine = id
        · rw [entered] at located ⊢
          cases Option.some.inj (found.symm.trans located)
          exact ⟨changed, replace_same, depth.trans deep⟩
        · rw [replace_other entered]
          exact ⟨target, located, deep⟩
    path := by
      obtain ⟨path, trail, last, running'⟩ := linked.path
      have absent := linked.not_passed found resting trail
      have leads : waiterOf (replace find id changed) id = some current :=
        back ▸ waiterOf_eq_some replace_same waits
      refine ⟨id :: path, .more leads (trail_replace trail absent), ?_, fun other => ?_⟩
      · cases trail <;> simpa using last
      · by_cases same : other = id
        · cases same
          simp [running]
        · rw [replace_other same, ← running' other]
          simp [same] }

/-- A coroutine joins that has not been entered. -/
theorem added (linked : Linked find current) (vacant : find id = none) (sound : changed.Sound)
    (resting : changed.state ≠ .running) : Linked (replace find id changed) current := by
  have differ {other : CoroutineId} (found : find other ≠ none) : other ≠ id := by
    rintro rfl
    exact found vacant
  exact {
    sound := fun {other coroutine} found => by
      by_cases same : other = id
      · cases same
        cases found.symm.trans replace_same
        exact sound
      · exact linked.sound ((replace_other same).symm.trans found)
    waits := fun {other waiting link} found waited => by
      by_cases same : other = id
      · cases same
        cases found.symm.trans replace_same
        rw [sound.idle resting] at waited
        cases waited
      · rw [replace_other same] at found
        obtain ⟨target, located, deep⟩ := linked.waits found waited
        rw [replace_other (differ (by simp [located]))]
        exact ⟨target, located, deep⟩
    path := by
      obtain ⟨path, trail, last, running⟩ := linked.path
      have absent : id ∉ path := by
        intro member
        obtain ⟨same, located, -⟩ := (running id).mp member
        exact absurd (vacant.symm.trans located) nofun
      refine ⟨path, trail_replace trail absent, last, fun other => ?_⟩
      by_cases same : other = id
      · cases same
        simp [absent, resting]
      · rw [replace_other same, ← running other] }

end Linked

end Links

namespace Machine

variable {machine : Machine} {id : CoroutineId} {coroutine changed : Coroutine}

theorem coroutine?_replace {change : Coroutine → Coroutine}
    (found : machine.coroutine? id = some coroutine) :
    (machine.updateCoroutine id change).coroutine? =
      replace machine.coroutine? id (change coroutine) := by
  funext other
  rw [coroutine?_updateCoroutine, replace]
  split
  · next same => rw [same, found, Option.map_some]
  · rfl

theorem coroutine?_push :
    { machine with coroutines := machine.coroutines.push changed }.coroutine? =
      replace machine.coroutine? ⟨machine.coroutines.size⟩ changed := by
  funext other
  rcases other with ⟨index⟩
  simp only [coroutine?, replace, Array.getElem?_push, CoroutineId.mk.injEq]

theorem active?_updateCoroutine {change : Coroutine → Coroutine}
    (found : machine.coroutine? machine.current = some coroutine) :
    (machine.updateCoroutine machine.current change).active? = (change coroutine).active? := by
  have current : (machine.updateCoroutine machine.current change).current = machine.current := rfl
  rw [active?, current, coroutine?_replace found, replace_same]
  rfl

theorem active?_updateFrame {change : Frame → Frame} {frame : Frame}
    (active : machine.active? = some frame) :
    (machine.updateFrame machine.current change).active? = some (change frame) := by
  obtain ⟨coroutine, found, top⟩ := Option.bind_eq_some_iff.mp active
  obtain ⟨below, stacked⟩ := List.head?_eq_some_iff.mp top
  rw [updateFrame, active?_updateCoroutine found]
  simp [Coroutine.active?, Coroutine.updateActive, Stack.top?, stacked]

theorem active?_push {frame : Frame} (active : machine.active? = some frame) :
    { machine with coroutines := machine.coroutines.push changed }.active? = some frame := by
  obtain ⟨coroutine, found, top⟩ := Option.bind_eq_some_iff.mp active
  have differ : machine.current ≠ ⟨machine.coroutines.size⟩ := fun same =>
    Nat.lt_irrefl _ (congrArg CoroutineId.index same ▸ (Array.getElem?_eq_some_iff.mp found).1)
  rw [active?, coroutine?_push, replace_other differ, found]
  exact top

/-! Fetching an instruction moves the active frame on. -/

theorem coroutine?_fetched {code : Instruction}
    (found : machine.coroutine? machine.current = some coroutine) :
    (machine.fetched code).coroutine? = replace machine.coroutine? machine.current
      (coroutine.updateActive fun frame => { frame with pc := frame.pc + 1 }) := by
  obtain ⟨counters, same⟩ := machine.fetched_eq code
  rw [same]
  exact coroutine?_replace found

theorem depth_fetched {code : Instruction}
    (found : machine.coroutine? machine.current = some coroutine) :
    (machine.fetched code).depth = machine.depth := by
  rw [depth, depth, current_fetched, coroutine?_fetched found, replace_same, found]
  rfl

theorem active?_fetched {code : Instruction} {frame : Frame}
    (active : machine.active? = some frame) :
    (machine.fetched code).active? = some { frame with pc := frame.pc + 1 } := by
  obtain ⟨counters, same⟩ := machine.fetched_eq code
  rw [same]
  exact active?_updateFrame active

theorem linked_update {change : Coroutine → Coroutine}
    (linked : Linked machine.coroutine? machine.current)
    (found : machine.coroutine? machine.current = some coroutine)
    (sound : (change coroutine).Sound) (running : (change coroutine).state = .running)
    (kept : (change coroutine).caller = coroutine.caller) :
    Linked (machine.updateCoroutine machine.current change).coroutine? machine.current := by
  rw [coroutine?_replace found]
  exact linked.updated found sound running kept

theorem linked_leave {link : CallerLink} (linked : Linked machine.coroutine? machine.current)
    (found : machine.coroutine? machine.current = some coroutine)
    (waiting : coroutine.caller = some link) {change : Coroutine → Coroutine}
    (sound : (change coroutine).Sound) (resting : (change coroutine).state ≠ .running) :
    Linked (machine.updateCoroutine machine.current change).coroutine? link.coroutine := by
  rw [coroutine?_replace found]
  exact linked.left found waiting sound resting

theorem linked_enter {frame : Frame} {link : CallerLink}
    (linked : Linked machine.coroutine? machine.current) (active : machine.active? = some frame)
    (found : machine.coroutine? id = some coroutine) (resting : coroutine.state ≠ .running)
    {change : Coroutine → Coroutine} (sound : (change coroutine).Sound)
    (running : (change coroutine).state = .running)
    (depth : (change coroutine).depth = coroutine.depth)
    (waits : (change coroutine).caller = some link) (back : link.coroutine = machine.current)
    (innermost : link.depth = machine.depth - 1) :
    Linked (machine.updateCoroutine id change).coroutine? id := by
  obtain ⟨waiter, current, top⟩ := Option.bind_eq_some_iff.mp active
  rw [coroutine?_replace found]
  refine linked.entered found resting current sound running depth waits back ?_
  have deep := (Coroutine.at?_top top).1
  simp only [innermost, Machine.depth, current, Option.map_some, Option.getD_some]
  omega

theorem linked_updateFrame {change : Frame → Frame}
    (linked : Linked machine.coroutine? machine.current)
    (same : ∀ frame, (change frame).role = frame.role) :
    Linked (machine.updateFrame machine.current change).coroutine? machine.current := by
  obtain ⟨coroutine, found, runs⟩ := linked.current_running
  obtain ⟨started, deep, awake⟩ := Coroutine.state_eq_running_iff.mp runs
  exact linked_update linked found ((linked.sound found).updateActive same)
    (Coroutine.state_eq_running_iff.mpr ⟨started, deep, awake⟩) rfl

theorem linked_add (linked : Linked machine.coroutine? machine.current) (sound : changed.Sound)
    (resting : changed.state ≠ .running) :
    Linked { machine with coroutines := machine.coroutines.push changed }.coroutine?
      machine.current := by
  rw [coroutine?_push]
  exact linked.added (Array.getElem?_eq_none (Nat.le_refl _)) sound resting

/-- Every effect keeps the links. -/
theorem linked_effect {code : Instruction} {before after : Machine}
    (linked : Linked before.coroutine? before.current) (effect : Effect code before after) :
    Linked after.coroutine? after.current := by
  cases effect with
  | count | intern | bindVar | bindCandidates | openRegion | commitRegion | rollbackRegion
  | undoAll => exact linked
  | compute change same => exact linked_updateFrame linked fun frame => (same frame).role
  | pushScope | popScope => exact linked_updateFrame linked fun _ => rfl
  | call dst function registers active =>
      obtain ⟨coroutine, current, runs⟩ := linked.current_running
      obtain ⟨started, deep, awake⟩ := Coroutine.state_eq_running_iff.mp runs
      exact linked_update linked current ((linked.sound current).pushFrame runs nofun)
        (Coroutine.state_eq_running_iff.mpr ⟨started, Nat.succ_pos _, awake⟩) rfl
  | «return» current active callee =>
      have runs := linked.running_of_current current
      have sound := linked.sound current
      obtain ⟨running, kept⟩ := sound.popFrame_callee runs active (by rw [callee]; nofun)
      exact linked_update linked current (sound.popFrame runs) running kept
  | finish current active entry waiting =>
      have runs := linked.running_of_current current
      have sound := linked.sound current
      refine linked_leave linked current waiting (sound.popFrame runs) ?_
      rw [sound.popFrame_entry runs active entry]
      nofun
  | create => exact linked_add linked (.new rfl) nofun
  | copy found single =>
      have entry := (linked.sound found).single_entry single
      exact linked_add linked (.new entry) nofun
  | enter dst out active found parked =>
      obtain ⟨deep, resting⟩ := (linked.sound found).enterable parked
      exact linked_enter linked active found resting ((linked.sound found).entered deep)
        (Coroutine.state_eq_running_iff.mpr ⟨rfl, deep, rfl⟩) rfl rfl rfl rfl
  | yield current running waiting =>
      refine linked_leave linked current waiting ((linked.sound current).suspended running) ?_
      rw [Ne, Coroutine.state_eq_running_iff]
      exact fun awake => nomatch awake.2.2
  | pushHandler target dst current active =>
      have runs := linked.running_of_current current
      exact linked_update linked current ((linked.sound current).pushHandler runs rfl)
        (Coroutine.state_eq_running_iff.mpr (Coroutine.state_eq_running_iff.mp runs)) rfl
  | popHandler current installed =>
      have runs := linked.running_of_current current
      exact linked_update linked current ((linked.sound current).popHandler installed)
        (Coroutine.state_eq_running_iff.mpr (Coroutine.state_eq_running_iff.mp runs)) rfl
  | abandon current bare inner waiting => exact linked_leave linked current waiting .dead nofun
  | @«catch» coroutine handler outer owner current installed owned inScope =>
      have runs := linked.running_of_current current
      obtain ⟨sound, running⟩ := (linked.sound current).caught runs installed
      have cut : Linked (before.updateCoroutine before.current
          (·.caught handler outer)).coroutine? before.current :=
        linked_update linked current sound running rfl
      exact linked_updateFrame cut fun _ => rfl

theorem eq_of_alone {id : CoroutineId} {other : Coroutine}
    (found : #[coroutine][id.index]? = some other) : id = .root ∧ other = coroutine := by
  rcases id with ⟨_ | index⟩
  · exact ⟨rfl, (Option.some.inj found).symm⟩
  · cases found

/-- The root alone waits for nothing. -/
theorem linked_alone (sound : coroutine.Sound) (running : coroutine.state = .running)
    (idle : coroutine.caller = none) :
    Linked (fun id => #[coroutine][id.index]?) .root := by
  exact {
    sound := fun found => (eq_of_alone found).2 ▸ sound
    waits := fun found waiting => by
      obtain ⟨-, rfl⟩ := eq_of_alone found
      rw [idle] at waiting
      cases waiting
    path := by
      refine ⟨[.root], .last (waiterOf_eq_none rfl idle), rfl, fun id => ?_⟩
      rw [List.mem_singleton]
      constructor
      · rintro rfl
        exact ⟨coroutine, rfl, running⟩
      · rintro ⟨other, found, -⟩
        exact (eq_of_alone found).1 }

theorem Reachable.linked {program : Program} {args : List Value} {settings : Settings}
    (reachable : Reachable program args settings machine) (running : machine.isRunning = true) :
    Linked machine.coroutine? machine.current := by
  refine (reachable.induction (fun machine => Linked machine.coroutine? machine.current)
    running (fun initial started => ?_) (fun _ _ _ linked => linked)
    fun code before after linked effect => linked_effect linked effect).2
  obtain ⟨unit, registers, -, -, -, -, rfl⟩ := start_eq started
  exact linked_alone (.root rfl) rfl rfl

/-! The path of callers -/

/-- The coroutine that waits for another. -/
def waiter? (machine : Machine) (id : CoroutineId) : Option CoroutineId :=
  (machine.caller? id).map CallerLink.coroutine

/-- The current coroutine, the one that waits for it, and so on. -/
def awake (machine : Machine) : List CoroutineId :=
  chain machine.waiter? machine.coroutines.size machine.current

/-- Control can always be handed back: the links lead from the current coroutine over every one
that runs, and no other, to the root. -/
structure Chained (machine : Machine) : Prop where
  rooted : machine.awake.getLast? = some .root
  distinct : machine.awake.Nodup
  running (id : CoroutineId) : id ∈ machine.awake ↔
    ∃ coroutine, machine.coroutine? id = some coroutine ∧ coroutine.state = .running
  active {id : CoroutineId} {coroutine : Coroutine} {link : CallerLink}
    (found : machine.coroutine? id = some coroutine) (waiting : coroutine.caller = some link) :
    ∃ waiter, machine.coroutine? link.coroutine = some waiter ∧ waiter.depth = link.depth + 1
  idle {id : CoroutineId} {coroutine : Coroutine} (found : machine.coroutine? id = some coroutine)
    (alone : id = .root ∨ coroutine.state = .fresh ∨ coroutine.state = .suspended) :
    coroutine.caller = none
  parked {id : CoroutineId} {coroutine : Coroutine} (found : machine.coroutine? id = some coroutine)
    (suspended : coroutine.suspended = true) : coroutine.frames.items ≠ []
  finished {id : CoroutineId} {coroutine : Coroutine} (found : machine.coroutine? id = some coroutine)
    (exhausted : coroutine.state = .exhausted) :
    coroutine.frames.items = [] ∧ coroutine.handlers = []
  entry {id : CoroutineId} {coroutine : Coroutine} {depth : Nat} {frame : Frame}
    (found : machine.coroutine? id = some coroutine)
    (located : coroutine.frames.at? depth = some frame) : frame.isEntry = true ↔ depth = 0

theorem waiter?_eq : machine.waiter? = waiterOf machine.coroutine? := by
  funext id
  simp only [waiter?, caller?, waiterOf, Option.bind_eq_bind, Option.map_eq_bind]
  cases machine.coroutine? id <;> rfl

theorem awake_trail (linked : Linked machine.coroutine? machine.current) :
    Trail machine.waiter? machine.current machine.awake ∧
      machine.awake.getLast? = some .root ∧ ∀ id, id ∈ machine.awake ↔
        ∃ coroutine, machine.coroutine? id = some coroutine ∧ coroutine.state = .running := by
  obtain ⟨path, trail, last, running⟩ := linked.path
  rw [← waiter?_eq] at trail
  have indices : path.map CoroutineId.index ⊆ List.range machine.coroutines.size := by
    intro index member
    obtain ⟨id, passed, rfl⟩ := List.mem_map.mp member
    obtain ⟨coroutine, found, -⟩ := (running id).mp passed
    exact List.mem_range.mpr (Array.getElem?_eq_some_iff.mp found).1
  have distinct : (path.map CoroutineId.index).Nodup :=
    List.pairwise_map.mpr (trail.nodup.imp fun differ same => differ (congrArg CoroutineId.mk same))
  have short : path.length ≤ machine.coroutines.size := by
    simpa using distinct.length_le_of_subset indices
  have followed : machine.awake = path := trail.chain_eq short
  rw [followed]
  exact ⟨trail, last, running⟩

theorem Reachable.chained {program : Program} {args : List Value} {settings : Settings}
    (reachable : Reachable program args settings machine) (running : machine.isRunning = true) :
    machine.Chained := by
  have linked := reachable.linked running
  obtain ⟨trail, last, runs⟩ := awake_trail linked
  exact {
    rooted := last
    distinct := trail.nodup
    running := runs
    active := linked.waits
    idle := fun {id coroutine} found alone => by
      rcases alone with rfl | resting
      · obtain ⟨final, last', ends⟩ := trail.getLast?
        cases Option.some.inj (last.symm.trans last')
        simpa [waiter?, caller?, found] using ends
      · exact (linked.sound found).idle (by rcases resting with state | state <;> rw [state] <;> nofun)
    parked := fun found suspended gone => by
      have deep := (linked.sound found).parked suspended
      simp [Coroutine.depth, Stack.size_eq, gone] at deep
    finished := fun {id coroutine} found exhausted => by
      have gone := (Coroutine.state_eq_exhausted_iff.mp exhausted).2
      refine ⟨by simpa [Coroutine.depth, Stack.size_eq] using gone, ?_⟩
      refine List.eq_nil_iff_forall_not_mem.mpr fun handler installed => ?_
      have within := (linked.sound found).owned installed
      omega
    entry := fun found located => by
      rw [← (linked.sound found).entry located]
      exact decide_eq_true_iff }

/-- The entry function creates a coroutine and enters it. -/
def enteringProgram : Program :=
  { Program.empty with
    functions := #[
      { name := "main", registerCount := 1, parameterCount := 0, parameters := []
        code := #[.createCoroutine 0 ⟨1⟩ [], .enterCoroutine none 0 none, .noSolution] },
      { name := "inner", registerCount := 1, parameterCount := 0, parameters := []
        code := #[.const 0 .unit, .return 0] }]
    functionIndex := .ofList [("main", FunctionId.mk 0), ("inner", FunctionId.mk 1)] }

theorem chained_entering :
    ∃ initial, start enteringProgram [] .standard = .ok initial ∧
      (initial.run 2).isRunning = true ∧ (initial.run 2).awake = [⟨1⟩, .root] ∧
        (initial.run 2).Chained := by
  have runs : (match start enteringProgram [] .standard with
      | .ok initial => decide ((initial.run 2).isRunning = true ∧
          (initial.run 2).awake = [⟨1⟩, .root])
      | .error _ => false) = true := by decide +kernel
  split at runs
  · next initial started =>
      obtain ⟨running, awake⟩ := of_decide_eq_true runs
      exact ⟨initial, started, running, awake,
        Reachable.chained ⟨initial, started, reaches_run 2⟩ running⟩
  · cases runs

end Machine

end Backtrack
