import Backtrack.Proofs.Bracketing
import Backtrack.Proofs.Resting

/-!
Calls are bracketed. Right after the return from a call, the frames of the caller and below are
those from right after the call, apart from the result that the caller receives. The handlers of the
coroutine are those from before the call, and so are the open regions, unless the coroutine was
suspended in between. The containers of the callee have been freed.
-/

namespace Backtrack

namespace Machine

variable {program : Program} {args : List Value} {settings : Settings} {code : Instruction}
  {before machine origin later : Machine} {coroutine : Coroutine} {frame caller pushed : Frame}
  {callee owner : FrameId} {dst : Option Reg} {value : Value} {rest : List CoroutineId}

theorem popFrame_updateActive {change : Frame → Frame} :
    (coroutine.updateActive change).popFrame = coroutine.popFrame := by
  have below : (coroutine.frames.modifyTop change).pop = coroutine.frames.pop := by
    apply Stack.ext
    cases coroutine.frames.items <;> simp
  rw [Coroutine.popFrame, Coroutine.popFrame, Coroutine.updateActive, below]

/-- A value has been returned to a caller. -/
structure Returns (machine : Machine) (coroutine : Coroutine) (frame caller : Frame)
    (dst : Option Reg) (value : Value) : Prop where
  running : machine.step.isRunning = true
  current : machine.step.current = machine.current
  below : coroutine.popFrame.active? = some caller
  fits (reg : Reg) (wanted : dst = some reg) : caller.hasRegister reg = true
  changed : machine.step.coroutine? machine.current =
    some (coroutine.popFrame.updateActive (·.receive dst value))
  marks : machine.step.marks = machine.marks
  closed : ∀ mark ∈ machine.marks, mark.owner ≠ frame.id
  arena : machine.step.arena = machine.arena.vacate machine.globals frame

theorem step_returns {reg : Reg} {value : Value} (sound : machine.Sound)
    (running : machine.isRunning = true) (next : machine.instruction? = some (.return reg))
    (current : machine.coroutine? machine.current = some coroutine)
    (active : coroutine.active? = some frame) (callee : frame.role = .callee dst)
    (held : frame.read reg = .ok value) (sane : ∀ fault, machine.step.status ≠ .trapped fault) :
    ∃ caller, machine.Returns coroutine frame caller dst value := by
  have fetched : (machine.fetched (.return reg)).coroutine? machine.current =
      some (coroutine.updateActive fun frame => { frame with pc := frame.pc + 1 }) :=
    (congrFun (coroutine?_fetched current) _).trans replace_same
  have moved : (coroutine.updateActive fun frame => { frame with pc := frame.pc + 1 }).active? =
      some { frame with pc := frame.pc + 1 } := Coroutine.active?_updateActive active
  have untouched : (machine.fetched (.return reg)).arena = machine.arena ∧
      (machine.fetched (.return reg)).globals = machine.globals :=
    ⟨arena_fetched, globals_fetched⟩
  have unmarked : (machine.fetched (.return reg)).marks = machine.marks := marks_fetched
  have goesOn : (machine.fetched (.return reg)).status = .running :=
    status_fetched.trans (of_decide_eq_true running)
  rcases step_turns sound with ⟨code, outcome, after, next', turns, same⟩ | ⟨fault, trapped⟩
  · cases Option.some.inj (next.symm.trans next')
    have unmoved : (machine.fetched (.return reg)).current = machine.current := current_fetched
    generalize machine.fetched (.return reg) = before at *
    rw [← unmoved] at fetched
    -- The frame that ends is the active one.
    have top {coroutine' : Coroutine} {frame' : Frame}
        (current' : before.coroutine? before.current = some coroutine')
        (active' : coroutine'.active? = some frame') :
        coroutine' = (coroutine.updateActive fun frame => { frame with pc := frame.pc + 1 }) ∧
          frame' = { frame with pc := frame.pc + 1 } := by
      cases Option.some.inj (fetched.symm.trans current')
      exact ⟨rfl, Option.some.inj (active'.symm.trans moved)⟩
    cases turns with
    | stays tames stays quiet =>
        cases tames
        cases stays
    | enters entering | refused entering => cases entering
    | yields yielding => cases yielding
    | ends _ current' active' entry =>
        obtain ⟨rfl, rfl⟩ := top current' active'
        exact absurd (callee.symm.trans entry) nofun
    | finishes _ current' active' entry =>
        obtain ⟨rfl, rfl⟩ := top current' active'
        exact absurd (callee.symm.trans entry) nofun
    | raises raises => cases raises
    | @returns _ _ caller dst' reg' value' returning current' active' held' callee' closed below fits =>
        obtain ⟨rfl, rfl⟩ := top current' active'
        cases returning
        cases Except.ok.inj (held.symm.trans held')
        have wanted : dst = dst' := by
          have same := callee.symm.trans callee'
          cases same
          rfl
        subst wanted
        rw [popFrame_updateActive] at below
        refine ⟨caller, ?_, ?_, below, fits, ?_, ?_, ?_, ?_⟩
        · rw [same]
          exact decide_eq_true goesOn
        · rw [same]
          exact unmoved
        · have popped : ({ before with
              arena := before.arena.vacate before.globals { frame with pc := frame.pc + 1 }
              }.updateCoroutine before.current (·.popFrame)).coroutine? before.current =
                some coroutine.popFrame := by
            rw [← popFrame_updateActive]
            exact (congrFun (coroutine?_replace fetched) _).trans replace_same
          rw [same, ← unmoved]
          exact (congrFun (coroutine?_replace popped) _).trans replace_same
        · rw [same]
          exact unmarked
        · intro mark member
          rw [← unmarked] at member
          obtain ⟨region, opened, rfl⟩ := List.mem_map.mp member
          exact closed region opened
        · rw [same, ← untouched.1, ← untouched.2]
          rfl
  · exact absurd trapped (sane fault)

namespace Returns

variable {depth : Nat}

theorem depth_eq (returns : machine.Returns coroutine frame caller dst value) :
    machine.step.depth = coroutine.depth - 1 := by
  have found : machine.step.coroutine? machine.step.current =
      some (coroutine.popFrame.updateActive (·.receive dst value)) := by
    rw [returns.current]
    exact returns.changed
  rw [Machine.depth_eq found]
  simp [Coroutine.depth, Coroutine.updateActive, Coroutine.popFrame]

/-- The frames below the caller stay. -/
theorem lower (returns : machine.Returns coroutine frame caller dst value)
    (lower : depth + 2 < coroutine.depth) :
    machine.step.frame? machine.current depth = coroutine.frames.at? depth := by
  rw [Coroutine.depth] at lower
  rw [frame?_found returns.changed, Coroutine.updateActive, Stack.at?_modifyTop,
    if_neg, Coroutine.popFrame, Stack.at?_pop, if_pos]
  · omega
  · simp only [Coroutine.popFrame, Stack.size_pop]
    omega

/-- The caller receives the value. -/
theorem received (returns : machine.Returns coroutine frame caller dst value) :
    coroutine.frames.at? (coroutine.depth - 2) = some caller ∧
      machine.step.frame? machine.current (coroutine.depth - 2) =
        some (caller.receive dst value) := by
  obtain ⟨deep, located⟩ := Coroutine.at?_top returns.below
  have height : coroutine.popFrame.depth = coroutine.depth - 1 := by
    simp [Coroutine.depth, Coroutine.popFrame]
  rw [height] at deep located
  have level : coroutine.depth - 1 - 1 = coroutine.depth - 2 := by omega
  rw [level] at located
  constructor
  · rw [Coroutine.popFrame, Stack.at?_pop] at located
    split at located
    · exact located
    · cases located
  · rw [frame?_found returns.changed, Coroutine.updateActive, Stack.at?_modifyTop, located, if_pos,
      Option.map_some]
    rw [Coroutine.depth] at height
    omega

/-- The frames are those from before the return, without the one that has ended. -/
theorem stands_iff (returns : machine.Returns coroutine frame caller dst value) :
    (∃ frame, machine.step.frame? machine.current depth = some frame ∧ frame.id = owner) ↔
      depth + 1 < coroutine.depth ∧
        ∃ frame, coroutine.frames.at? depth = some frame ∧ frame.id = owner := by
  obtain ⟨below, received⟩ := returns.received
  have deep : 0 < coroutine.depth - 1 := by
    have within := (Coroutine.at?_top returns.below).1
    simpa [Coroutine.depth, Coroutine.popFrame] using within
  rcases Nat.lt_trichotomy (depth + 2) coroutine.depth with lower | last | beyond
  · rw [returns.lower lower]
    exact ⟨fun stands => ⟨by omega, stands⟩, And.right⟩
  · have level : depth = coroutine.depth - 2 := by omega
    rw [level, below, received]
    constructor
    · rintro ⟨frame, stands, rfl⟩
      cases stands
      exact ⟨by omega, caller, rfl, Frame.sameActivation_receive.id.symm⟩
    · rintro ⟨-, frame, stands, rfl⟩
      cases stands
      exact ⟨_, rfl, Frame.sameActivation_receive.id⟩
  · constructor
    · rintro ⟨frame, stands, -⟩
      rw [frame?_found returns.changed] at stands
      have within := Stack.lt_of_at? stands
      simp only [Coroutine.updateActive, Coroutine.popFrame, Stack.size_modifyTop,
        Stack.size_pop] at within
      rw [Coroutine.depth] at beyond
      omega
    · rintro ⟨within, -⟩
      omega

end Returns

/-- Nothing is left open that was opened after the coroutine of the callee came to run. -/
theorem Waits.closes (waits : machine.Waits origin rest later) (calls : machine.Calls dst pushed)
    (held : machine.step.Held machine.current machine.depth callee dst later)
    (sound : machine.Sound) (sound' : later.Sound) (here : later.current = machine.current)
    (top : later.depth = machine.depth + 1)
    (stands : later.frame? machine.current machine.depth = some frame) (same : frame.id = callee)
    (closed : ∀ mark ∈ later.marks, mark.owner ≠ frame.id) : later.marks = origin.marks := by
  have path : later.awake = machine.current :: rest := by
    obtain ⟨front, parts⟩ := waits.path
    have first := (awake_trail sound'.linked).1.head?
    have distinct := (awake_trail sound'.linked).1.nodup
    rw [← parts] at first distinct
    cases front with
    | nil => exact parts.symm
    | cons other front =>
        cases Option.some.inj first
        rw [here] at distinct
        exact absurd (by simp) (List.nodup_cons.mp distinct).1
  rw [← waits.marks]
  refine (List.filter_eq_self.mpr fun mark member => decide_eq_true ?_).symm
  have own := sound'.nested_awake.owner_mem member
  rw [path, List.flatMap_cons] at own
  refine List.mem_append.mpr ((List.mem_append.mp own).imp (fun own => ?_) fun own => ?_)
  · obtain ⟨depth, frame', stands', same'⟩ := mem_frameIds_iff.mp own
    refine (held.below_iff calls sound stands same).mpr ⟨depth, ?_, frame', stands', same'⟩
    have apart : depth ≠ machine.depth := by
      rintro rfl
      cases Option.some.inj (stands.symm.trans stands')
      exact closed mark member same'.symm
    obtain ⟨coroutine, found, located⟩ := frame?_eq_some_iff.mp stands'
    have within := Stack.lt_of_at? located
    rw [← here] at found
    rw [Machine.depth_eq found, Coroutine.depth] at top
    omega
  · obtain ⟨id, passed, own⟩ := List.mem_flatMap.mp own
    refine List.mem_flatMap.mpr ⟨id, passed, ?_⟩
    rw [frameIds, ← waits.others passed]
    exact own

/-- The coroutine of a call runs from the call on. -/
theorem Calls.waits (calls : machine.Calls dst pushed) (sound : machine.Sound)
    (sound' : machine.step.Sound) :
    ∃ rest, machine.step.awake = machine.current :: rest ∧
      machine.Waits machine.step rest machine.step := by
  obtain ⟨rest, path⟩ := List.head?_eq_some_iff.mp (awake_trail sound.linked).1.head?
  have distinct := (awake_trail sound.linked).1.nodup
  have path' := (calls.stays.awake_eq sound sound').trans path
  rw [path] at distinct
  refine ⟨rest, path', path' ▸ List.suffix_rfl, fun _ => rfl, ?_⟩
  refine List.filter_eq_self.mpr fun mark member => decide_eq_true ?_
  rw [calls.marks] at member
  have own := sound.nested_awake.owner_mem member
  rw [path, List.flatMap_cons] at own
  refine List.mem_append.mpr ((List.mem_append.mp own).imp_right fun own => ?_)
  obtain ⟨id, passed, own⟩ := List.mem_flatMap.mp own
  refine List.mem_flatMap.mpr ⟨id, passed, ?_⟩
  have apart : id ≠ machine.current := by
    rintro rfl
    exact (List.nodup_cons.mp distinct).1 passed
  obtain ⟨coroutine, found, -⟩ := sound.awake_running (path ▸ List.mem_cons_of_mem _ passed)
  rw [frameIds, calls.stays.others found apart, ← found]
  exact own

/-- The coroutine of a call runs again from the time on at which it is entered. -/
theorem waits_resumed {parked : Coroutine} (sound : before.Sound)
    (running : before.isRunning = true) (found : before.coroutine? machine.current = some parked)
    (suspended : parked.state = .suspended) (sound' : before.step.Sound)
    (awake : before.step.coroutine? machine.current ≠ some parked) :
    before.step.marks = before.marks ∧ before.step.awake = machine.current :: before.awake ∧
      machine.Waits before.step before.awake before.step := by
  have resting : parked.state ≠ .running := by
    rw [suspended]
    nofun
  have asleep : machine.current ∉ before.awake := fun passed => by
    obtain ⟨coroutine, found', runs⟩ := sound.awake_running passed
    cases Option.some.inj (found.symm.trans found')
    exact resting runs
  obtain ⟨dst, target, out, enters⟩ := (step_resting sound running found resting).resolve_left awake
  obtain ⟨code, next, turns⟩ := step_proceeds sound enters.running
  have path : before.step.awake = machine.current :: before.awake := by
    have stays : before.Stays (before.fetched code) := sound.stays_fetched
    have unmoved := stays.awake_eq sound sound.fetched
    have first := (awake_trail sound'.linked).1.head?
    rw [enters.current] at first
    rcases (turns.switches sound.fetched sound').path with ⟨entered, grown⟩ | ⟨front, parts⟩
    · rw [grown, unmoved] at first ⊢
      cases Option.some.inj first
      rfl
    · rw [unmoved] at parts
      refine absurd ?_ asleep
      rw [parts]
      exact List.mem_append_right _ (List.mem_of_head? first)
  have marks : before.step.marks = before.marks := by
    obtain ⟨asking, frame, asks, top, active⟩ := sound.active
    obtain ⟨frame', active', named⟩ := enters.named
    cases Option.some.inj (active.symm.trans active')
    rw [step_enters sound enters.next asks top named found enters.parked]
    exact marks_fetched
  refine ⟨marks, path, path ▸ List.suffix_rfl, fun _ => rfl, ?_⟩
  refine List.filter_eq_self.mpr fun mark member => decide_eq_true ?_
  have own := sound'.nested_awake.owner_mem member
  rw [path, List.flatMap_cons] at own
  refine List.mem_append_right _ ((List.mem_append.mp own).resolve_left fun own => ?_)
  -- No region is open that a frame of a suspended coroutine owns.
  rw [frameIds, enters.entered] at own
  have own : mark.owner ∈ frameIds before.coroutine? machine.current := by
    rw [frameIds, found]
    exact own
  rw [marks] at member
  obtain ⟨id, passed, own'⟩ := List.mem_flatMap.mp (sound.nested_awake.owner_mem member)
  obtain ⟨depth, frame, stands, same⟩ := mem_frameIds_iff.mp own'
  have here : machine.current = id := sound.owner_home stands (same ▸ own)
  exact asleep (here ▸ passed)

/-- The root is never suspended. -/
theorem Reachable.unsuspended_root (reachable : Reachable program args settings origin)
    (running : later.isRunning = true) : origin.Unsuspended later .root := by
  intro middle reached further coroutine found suspended
  have sound := (reachable.further reached).sound (further.running running)
  have last := List.mem_of_getLast? (awake_trail sound.linked).2.1
  obtain ⟨root, found', runs⟩ := sound.awake_running last
  cases Option.some.inj (found.symm.trans found')
  exact absurd (suspended.symm.trans runs) nofun

/-- What holds right after a value is returned from a call. -/
structure Bracketed (machine : Machine) (callee : FrameId) (dst : Option Reg) (value : Value)
    (later : Machine) : Prop where
  running : later.step.isRunning = true
  current : later.step.current = machine.current
  depth : later.step.depth = machine.depth
  lower {depth : Nat} (lower : depth + 1 < machine.depth) :
    later.step.frame? machine.current depth = machine.step.frame? machine.current depth
  caller : ∃ caller, machine.step.frame? machine.current (machine.depth - 1) = some caller ∧
    later.step.frame? machine.current (machine.depth - 1) = some (caller.receive dst value) ∧
      ∀ reg, dst = some reg → (caller.receive dst value).read reg = .ok value
  handlers : (later.step.coroutine? machine.current).map (·.handlers) =
    (machine.coroutine? machine.current).map (·.handlers)
  /-- The coroutine has the same regions open. -/
  own : later.step.marksOf (frameIds later.step.coroutine? machine.current) =
    machine.marksOf (frameIds machine.coroutine? machine.current)
  /-- All regions are the same if the coroutine was not suspended in between, -/
  regions (awake : machine.step.Unsuspended later machine.current) :
    later.step.marks = machine.marks
  /-- and otherwise they are those that were open when it was entered last. -/
  resumed {before : Machine} {parked : Coroutine} (reached : machine.step.Reaches before)
    (running : before.isRunning = true) (found : before.coroutine? machine.current = some parked)
    (suspended : parked.state = .suspended) (further : before.step.Reaches later)
    (awake : before.step.Unsuspended later machine.current) : later.step.marks = before.marks
  freed {middle : Machine} {frame : Frame} {container : ContainerId}
    (reached : machine.step.Reaches middle) (further : middle.Reaches later)
    (stands : middle.frame? machine.current machine.depth = some frame) (same : frame.id = callee)
    (member : container ∈ middle.containersOf frame) :
    middle.arena.Freed later.step.arena container ∧
      (later.step.arena.Rare → later.step.arena.isLive container = false)

/-- The containers that a frame had at some time are freed when it returns. -/
theorem Returns.freed {middle : Machine} {id : CoroutineId} {depth : Nat} {frame' : Frame}
    {container : ContainerId} (returns : later.Returns coroutine frame caller dst value)
    (reachable : Reachable program args settings middle) (further : middle.Reaches later)
    (running : later.isRunning = true) (stands : later.frame? id depth = some frame)
    (stands' : middle.frame? id depth = some frame') (same : frame.id = frame'.id)
    (member : container ∈ middle.containersOf frame') :
    middle.arena.Freed later.step.arena container := by
  have sound := reachable.sound (further.running running)
  have sound' := (reachable.further further).sound running
  have live := live_containersOf sound (frame?_eq_some_iff.mp stands') member
  have ages := step_ages sound' running
  rcases frees_run reachable further running stands' member with gone | has
  · exact gone.later ages
  · have has' := has stands same
    have live' := live_containersOf sound' (frame?_eq_some_iff.mp stands) has'
    have released : later.step.arena.isLive container = false := by
      rw [returns.arena]
      exact Arena.not_live_releaseAll has'
    exact (ages.freed live' released).earlier (further.ages reachable) live

theorem Reachable.bracketed {target : Callee} {passed : List Reg} {reg : Reg}
    (reachable : Reachable program args settings machine) (running : machine.isRunning = true)
    (next : machine.instruction? = some (.call dst target passed))
    (pushes : machine.step.frame? machine.current machine.depth = some pushed)
    (reaches : machine.step.Reaches later) (goesOn : later.isRunning = true)
    (returning : later.instruction? = some (.return reg)) (active : later.active? = some frame)
    (same : frame.id = pushed.id) (read : frame.read reg = .ok value)
    (sane : ∀ fault, later.step.status ≠ .trapped fault) :
    machine.Bracketed pushed.id dst value later := by
  have sound := reachable.sound running
  have begun := reaches.running goesOn
  have reachable' := reachable.further (.single (.step running))
  have sound₁ := reachable'.sound begun
  have sound' := (reachable'.further reaches).sound goesOn
  have calls := step_calls sound begun next pushes
  have held₁ := calls.held sound₁ pushes
  have held := held₁.run reachable' reaches goesOn
  -- The callee is the active frame of the coroutine that called it.
  obtain ⟨coroutine, found, top⟩ := Option.bind_eq_some_iff.mp active
  obtain ⟨deep, located⟩ := Coroutine.at?_top top
  obtain ⟨here, level, role⟩ :=
    held.place (frame?_eq_some_iff.mpr ⟨coroutine, found, located⟩) same
  have height : coroutine.depth = machine.depth + 1 := by omega
  rw [level] at located
  have found' : later.coroutine? machine.current = some coroutine := here ▸ found
  have stands : later.frame? machine.current machine.depth = some frame :=
    frame?_eq_some_iff.mpr ⟨coroutine, found', located⟩
  obtain ⟨caller, returns⟩ := step_returns sound' goesOn returning found top role read sane
  have frames (depth : Nat) : later.step.frame? later.current depth =
      later.step.frame? machine.current depth := by rw [here]
  -- Below it, everything is as right after the call.
  obtain ⟨original, current, -⟩ := sound.linked.current_running
  obtain ⟨called, asked, more⟩ := calls.extends' current
  obtain ⟨earlier, asked', keeps⟩ := held.keeps found' located same
  cases Option.some.inj (asked.symm.trans asked')
  have depth : machine.depth = original.depth := depth_eq current
  obtain ⟨below, received⟩ := returns.received
  rw [frames] at received
  have last : coroutine.depth - 2 = machine.depth - 1 := by omega
  rw [last] at below received
  have inner : machine.depth - 1 < machine.depth := by
    obtain ⟨again, top', current', active', -⟩ := sound.active
    rw [depth_eq current']
    exact Nat.sub_lt (Coroutine.at?_top active').1 Nat.one_pos
  have still {depth : Nat} (lower : depth < machine.depth) :
      coroutine.frames.at? depth = machine.step.frame? machine.current depth :=
    (keeps.frames lower).trans (frame?_found asked).symm
  have marks : later.step.marks = later.marks := returns.marks
  have deep' : later.depth = machine.depth + 1 := (depth_eq found).trans height
  exact {
    running := returns.running
    current := returns.current.trans here
    depth := by
      rw [returns.depth_eq, height]
      rfl
    lower := fun {depth} lower => by
      rw [← frames, returns.lower (by omega), still (by omega)]
    caller := ⟨caller, (still inner).symm.trans below, received, fun reg wanted => by
      subst wanted
      exact Frame.read_receive (returns.fits reg rfl)⟩
    handlers := by
      have kept : coroutine.popFrame.handlers = original.handlers := by
        have below : coroutine.frames.pop.size = machine.depth := Stack.size_pop.trans level
        simp only [Coroutine.popFrame, below]
        rw [keeps.handlers, more.handlers, depth]
        exact List.filter_eq_self.mpr fun handler installed =>
          decide_eq_true ((sound.linked.sound current).owned installed)
      rw [← here, returns.changed, here, current]
      exact congrArg some kept
    own := by
      rw [← calls.marks_run reachable running held₁ reaches goesOn stands same, marksOf, marks]
      refine List.filter_congr fun mark _ => decide_eq_decide.mpr ?_
      rw [held.below_iff calls sound stands same, mem_frameIds_iff, ← here]
      refine exists_congr fun depth => ?_
      rw [returns.stands_iff, frame?_found found, height, Nat.add_lt_add_iff_right]
    regions := fun awake => by
      obtain ⟨rest, path, waits⟩ := calls.waits sound sound₁
      have kept := calls.waits_run reachable running held₁ .refl reaches goesOn path waits awake
        stands same
      rw [marks, kept.closes calls held sound sound' here deep' stands same returns.closed,
        calls.marks]
    resumed := fun {before parked} reached ran found'' suspended further awake => by
      have sound₂ := (reachable'.further reached).sound ran
      have entered := reached.tail (.step ran)
      have sound₃ := (reachable'.further entered).sound (further.running goesOn)
      obtain ⟨unmarked, path, waits⟩ := waits_resumed sound₂ ran found'' suspended sound₃ fun parks =>
        awake _ .refl further _ parks suspended
      have kept := calls.waits_run reachable running held₁ entered further goesOn path waits awake
        stands same
      rw [marks, kept.closes calls held sound sound' here deep' stands same returns.closed, unmarked]
    freed := fun {middle frame' container} reached further stands' same' member => by
      have reachable₂ := reachable'.further reached
      have freed := returns.freed reachable₂ further goesOn stands stands' (same.trans same'.symm)
        member
      have live := live_containersOf (reachable₂.sound (further.running goesOn))
        (frame?_eq_some_iff.mp stands') member
      exact ⟨freed, fun rare => freed.gone rare live⟩ }

/-- The entry function calls another one while a region is open. That one leaves a handler
installed and a scope open. -/
def callingProgram : Program :=
  { Program.empty with
    functions := #[
      { name := "main", registerCount := 1, parameterCount := 0, parameters := []
        code := #[.openRegion, .call (some 0) (.direct ⟨1⟩) [], .commitRegion, .return 0] },
      { name := "inner", registerCount := 1, parameterCount := 0, parameters := []
        code := #[.pushCatch 5 none, .pushScope, .openRegion, .const 0 (.bool true), .commitRegion,
          .return 0] }]
    functionIndex := .ofList [("main", FunctionId.mk 0), ("inner", FunctionId.mk 1)] }

theorem bracketed_calling :
    ∃ initial pushed, start callingProgram [] .standard = .ok initial ∧
      (initial.run 1).step.frame? .root 1 = some pushed ∧
      (initial.run 1).Bracketed pushed.id (some 0) (.bool true) ((initial.run 1).step.run 5) ∧
      ((initial.run 1).step.run 5).step.marks = (initial.run 1).marks := by
  have runs : (match start callingProgram [] .standard with
      | .ok initial => decide ((initial.run 1).isRunning = true ∧ (initial.run 1).current = .root ∧
          (initial.run 1).depth = 1 ∧
          (initial.run 1).instruction? = some (.call (some 0) (.direct ⟨1⟩) []) ∧
          ((initial.run 1).step.frame? .root 1).map (·.id) = some ⟨1⟩ ∧
          ((initial.run 1).step.run 5).isRunning = true ∧
          ((initial.run 1).step.run 5).instruction? = some (.return 0) ∧
          ((initial.run 1).step.run 5).active?.map (·.id) = some ⟨1⟩ ∧
          (((initial.run 1).step.run 5).active?.bind fun frame => (frame.read 0).toOption) =
            some (.bool true) ∧
          ((initial.run 1).step.run 5).step.isRunning = true)
      | .error _ => false) = true := by decide +kernel
  split at runs
  · next initial started =>
      obtain ⟨running, root, depth, next, pushes, goesOn, returning, named, reads, continues⟩ :=
        of_decide_eq_true runs
      obtain ⟨pushed, stands, own⟩ := Option.map_eq_some_iff.mp pushes
      obtain ⟨frame, active, own'⟩ := Option.map_eq_some_iff.mp named
      rw [active] at reads
      have read := Action.toOption_eq_some reads
      have reachable : Reachable callingProgram [] .standard (initial.run 1) :=
        ⟨initial, started, reaches_run 1⟩
      have sane (fault : Fault) : ((initial.run 1).step.run 5).step.status ≠ .trapped fault := by
        rw [of_decide_eq_true continues]
        nofun
      have bracketed := Reachable.bracketed reachable running next (by rwa [root, depth])
        (reaches_run 5) goesOn returning active (own'.trans own.symm) read sane
      refine ⟨initial, pushed, started, stands, bracketed, bracketed.regions ?_⟩
      rw [root]
      exact (reachable.further (.single (.step running))).unsuspended_root goesOn
  · cases runs

/-- The entry function enters a coroutine twice. In between it opens a region, while the coroutine
is suspended in a call. -/
def resumingProgram : Program :=
  { Program.empty with
    functions := #[
      { name := "main", registerCount := 2, parameterCount := 0, parameters := []
        code := #[.createCoroutine 0 ⟨1⟩ [], .enterCoroutine none 0 none, .openRegion,
          .enterCoroutine none 0 none, .commitRegion, .const 1 .unit, .return 1] },
      { name := "generator", registerCount := 1, parameterCount := 0, parameters := []
        code := #[.call (some 0) (.direct ⟨2⟩) [], .return 0] },
      { name := "inner", registerCount := 1, parameterCount := 0, parameters := []
        code := #[.const 0 (.bool true), .yield none, .return 0] }]
    functionIndex := .ofList [("main", FunctionId.mk 0), ("generator", FunctionId.mk 1),
      ("inner", FunctionId.mk 2)] }

/-- A region is open after the return that was not open before the call. -/
theorem marks_resuming :
    ∃ initial, start resumingProgram [] .standard = .ok initial ∧
      (initial.run 2).instruction? = some (.call (some 0) (.direct ⟨2⟩) []) ∧
      ((initial.run 2).step.frame? ⟨1⟩ 1).map (·.id) = some ⟨2⟩ ∧
      ((initial.run 2).step.run 4).instruction? = some (.return 0) ∧
      ((initial.run 2).step.run 4).active?.map (·.id) = some ⟨2⟩ ∧
      ((initial.run 2).step.run 4).step.marks ≠ (initial.run 2).marks ∧
      (initial.run 12).status = .done .unit := by
  have runs : (match start resumingProgram [] .standard with
      | .ok initial => decide (
          (initial.run 2).instruction? = some (.call (some 0) (.direct ⟨2⟩) []) ∧
          ((initial.run 2).step.frame? ⟨1⟩ 1).map (·.id) = some ⟨2⟩ ∧
          ((initial.run 2).step.run 4).instruction? = some (.return 0) ∧
          ((initial.run 2).step.run 4).active?.map (·.id) = some ⟨2⟩ ∧
          ((initial.run 2).step.run 4).step.marks.map (·.serial) = [0] ∧
          (initial.run 2).marks.map (·.serial) = [] ∧ (initial.run 12).status = .done .unit)
      | .error _ => false) = true := by decide +kernel
  split at runs
  · next initial started =>
      obtain ⟨calls, pushes, returns, active, opened, closed, ends⟩ := of_decide_eq_true runs
      refine ⟨initial, started, calls, pushes, returns, active, fun same => ?_, ends⟩
      rw [same, closed] at opened
      cases opened
  · cases runs

end Machine

end Backtrack
