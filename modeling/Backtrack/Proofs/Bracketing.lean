import Backtrack.Proofs.Outcomes
import Backtrack.Proofs.Ownership

/-!
Between a call and the return of the frame that it pushed. Whatever happens, the frame stays at its
place, and the frames below it, their handlers and their regions stay as they are. As long as the
coroutine is not suspended, so do the coroutines that wait for it.
-/

namespace Backtrack

/-- The frames of a coroutine stay at their places, and more may come on top. -/
structure Coroutine.Extends (before after : Coroutine) : Prop where
  handlers : after.handlers = before.handlers
  frames {depth : Nat} {frame : Frame} (located : before.frames.at? depth = some frame) :
    ∃ frame', after.frames.at? depth = some frame' ∧ frame'.id = frame.id

namespace Coroutine.Extends

variable {before middle after : Coroutine} {pushed : Frame} {change : Frame → Frame}

theorem refl : before.Extends before :=
  ⟨rfl, fun located => ⟨_, located, rfl⟩⟩

theorem trans (first : before.Extends middle) (second : middle.Extends after) :
    before.Extends after where
  handlers := second.handlers.trans first.handlers
  frames located := by
    obtain ⟨frame', located', same⟩ := first.frames located
    obtain ⟨frame'', located'', same'⟩ := second.frames located'
    exact ⟨frame'', located'', same'.trans same⟩

theorem updateActive (same : ∀ frame, (change frame).id = frame.id) :
    before.Extends (before.updateActive change) where
  handlers := rfl
  frames {depth frame} located := by
    rw [Coroutine.updateActive, Stack.at?_modifyTop, located]
    split
    · exact ⟨change frame, rfl, same frame⟩
    · exact ⟨frame, rfl, rfl⟩

theorem pushFrame : before.Extends (before.pushFrame pushed) where
  handlers := rfl
  frames {depth frame} located := by
    have within := Stack.lt_of_at? located
    rw [Coroutine.pushFrame, Stack.at?_push, if_neg (Nat.ne_of_lt within)]
    exact ⟨frame, located, rfl⟩

end Coroutine.Extends

namespace Machine

variable {code : Instruction} {before after machine : Machine} {id : CoroutineId}
  {coroutine : Coroutine} {frame : Frame} {callee : FrameId} {level depth : Nat} {dst : Option Reg}

/-! The frame that a call pushed -/

theorem effect_nextFrame (effect : Effect code before after) : before.nextFrame ≤ after.nextFrame := by
  cases effect with
  | call | create | copy => exact Nat.le_succ _
  | _ => exact Nat.le_refl _

/-- A frame that was begun before stood where it stands. -/
theorem effect_stood (sound : before.Sound) (effect : Effect code before after)
    (stands : after.frame? id depth = some frame) (known : frame.id.index < before.nextFrame) :
    ∃ stood, before.Goes after id depth stood frame := by
  refine (stands_effect sound effect (frame?_eq_some_iff.mp stands)).resolve_right fun begins => ?_
  rw [begins.fresh] at known
  exact Nat.lt_irrefl _ known

/-- Wherever the frame of a call stands, it is at its place, and what is below it is as it was. -/
structure Held (called : Machine) (id : CoroutineId) (level : Nat) (callee : FrameId)
    (dst : Option Reg) (machine : Machine) : Prop where
  known : callee.index < machine.nextFrame
  place {id' : CoroutineId} {depth : Nat} {frame : Frame}
    (stands : machine.frame? id' depth = some frame) (same : frame.id = callee) :
    id' = id ∧ depth = level ∧ frame.role = .callee dst
  keeps {frame : Frame} {coroutine : Coroutine} (found : machine.coroutine? id = some coroutine)
    (located : coroutine.frames.at? level = some frame) (same : frame.id = callee) :
    ∃ earlier, called.coroutine? id = some earlier ∧ Coroutine.Keeps level earlier coroutine

variable {called : Machine}

theorem effect_held (sound : before.Sound) (effect : Effect code before after)
    (held : called.Held id level callee dst before) : called.Held id level callee dst after where
  known := Nat.lt_of_lt_of_le held.known (effect_nextFrame effect)
  place stands same := by
    obtain ⟨stood, goes⟩ := effect_stood sound effect stands (same ▸ held.known)
    obtain ⟨here, there, role⟩ :=
      held.place (frame?_eq_some_iff.mpr goes.earlier) (goes.same.symm.trans same)
    exact ⟨here, there, goes.role.trans role⟩
  keeps {frame coroutine} found located same := by
    have stands : after.frame? id level = some frame :=
      frame?_eq_some_iff.mpr ⟨coroutine, found, located⟩
    obtain ⟨stood, goes⟩ := effect_stood sound effect stands (same ▸ held.known)
    obtain ⟨coroutine', found', located'⟩ := goes.earlier
    obtain ⟨earlier, asked, keeps⟩ := held.keeps found' located' (goes.same.symm.trans same)
    exact ⟨earlier, asked, keeps.trans (effect_keeps effect found' found located' located)⟩

theorem evolves_held (sound : before.Sound) (evolves : before.Evolves code after)
    (held : called.Held id level callee dst before) : called.Held id level callee dst after := by
  induction evolves with
  | refl => exact held
  | tail soFar effect ih => exact effect_held (sound.evolves soFar) effect ih

theorem evolves_stood (sound : before.Sound) (evolves : before.Evolves code after)
    (stands : after.frame? id depth = some frame) (known : frame.id.index < before.nextFrame) :
    ∃ stood, before.frame? id depth = some stood ∧ stood.id = frame.id := by
  induction evolves generalizing frame with
  | refl => exact ⟨frame, stands, rfl⟩
  | @tail middle after soFar effect ih =>
      have grows : before.nextFrame ≤ middle.nextFrame := by
        clear ih effect stands
        induction soFar with
        | refl => exact Nat.le_refl _
        | tail _ effect ih => exact Nat.le_trans ih (effect_nextFrame effect)
      obtain ⟨stood, goes⟩ :=
        effect_stood (sound.evolves soFar) effect stands (Nat.lt_of_lt_of_le known grows)
      obtain ⟨stood', stands', same⟩ :=
        ih (frame?_eq_some_iff.mpr goes.earlier) (goes.same ▸ known)
      exact ⟨stood', stands', same.trans goes.same.symm⟩

/-! The call -/

/-- A call does no more to a coroutine than to compute in it and to push frames. -/
theorem effect_extends {args : List Reg} {target : Callee}
    (effect : Effect (.call dst target args) before after)
    (quiet : (Instruction.call dst target args).raises = false)
    (found : before.coroutine? id = some coroutine) :
    ∃ coroutine', after.coroutine? id = some coroutine' ∧ coroutine.Extends coroutine' := by
  have updated {before : Machine} {change : Coroutine → Coroutine}
      (found : before.coroutine? id = some coroutine)
      (extends' : ∀ coroutine : Coroutine, coroutine.Extends (change coroutine)) :
      ∃ coroutine', (before.updateCoroutine before.current change).coroutine? id = some coroutine' ∧
        coroutine.Extends coroutine' := by
    rw [coroutine?_updateCoroutine, found]
    split
    · exact ⟨_, rfl, extends' coroutine⟩
    · exact ⟨coroutine, rfl, .refl⟩
  cases effect with
  | count | intern => exact ⟨coroutine, found, .refl⟩
  | compute change same => exact updated found fun _ => .updateActive fun frame => (same frame).id
  | call => exact updated found fun _ => .pushFrame
  | bindVar _ _ _ binding => obtain ⟨src, binding | binding⟩ := binding <;> cases binding
  | bindCandidates _ _ _ binding => obtain ⟨function, binding⟩ := binding; cases binding
  | pushScope _ other | popScope other | pushHandler _ _ _ _ other | popHandler _ _ _ other
  | openRegion other | commitRegion _ other | rollbackRegion _ other => cases other
  | «return» _ _ _ _ other | finish _ _ _ _ _ other | create _ _ other | enter _ _ _ _ _ other
  | copy _ _ _ _ other | yield _ _ _ _ other => simp at other
  | abandon _ _ _ _ raising => exact absurd (quiet.symm.trans raising) nofun
  | «catch» _ _ _ _ raising => exact absurd (quiet.symm.trans raising) nofun
  | undoAll raising => exact absurd (quiet.symm.trans raising) nofun

theorem evolves_extends {args : List Reg} {target : Callee}
    (evolves : before.Evolves (.call dst target args) after)
    (quiet : (Instruction.call dst target args).raises = false)
    (found : before.coroutine? id = some coroutine) :
    ∃ coroutine', after.coroutine? id = some coroutine' ∧ coroutine.Extends coroutine' := by
  induction evolves with
  | refl => exact ⟨coroutine, found, .refl⟩
  | tail _ effect ih =>
      obtain ⟨middle, found', first⟩ := ih
      obtain ⟨coroutine', found'', second⟩ := effect_extends effect quiet found'
      exact ⟨coroutine', found'', first.trans second⟩

theorem evolves_callee {args : List Reg} {target : Callee} (sound : before.Sound)
    (evolves : before.Evolves (.call dst target args) after) (inner : 0 < depth)
    (vacant : before.frame? id depth = none) (stands : after.frame? id depth = some frame) :
    frame.role = .callee dst := by
  induction evolves generalizing frame with
  | refl => exact absurd (vacant.symm.trans stands) nofun
  | tail soFar effect ih =>
      have sound' := sound.evolves soFar
      rcases stands_effect sound' effect (frame?_eq_some_iff.mp stands) with ⟨stood, goes⟩ | begins
      · exact goes.role.trans (ih (frame?_eq_some_iff.mpr goes.earlier))
      · rcases begins.role with entry | ⟨dst', target', args', calls, role⟩
        · obtain ⟨coroutine, found, located⟩ := frame?_eq_some_iff.mp stands
          have outermost := ((sound'.effect effect).linked.sound found).entry located |>.mp entry
          omega
        · cases calls
          exact role

/-- Nothing is pushed where a condition is caught. -/
theorem Caught.not_pushed {value : Value} {handler : Handler} {outer : List Handler} {owner : Frame}
    (sound : before.Sound) (catches : before.Catches id coroutine handler outer owner)
    (caught : before.Caught value id coroutine handler outer owner after) :
    after.frame? before.current before.depth = none := by
  obtain ⟨rest, path⟩ := catches.awake_eq
  have first := (awake_trail sound.linked).1.head?
  rw [path] at first
  cases left : before.dropped with
  | nil =>
      rw [left] at first
      cases Option.some.inj first
      have within := Stack.lt_of_at? catches.owned
      rw [frame?, caught.catcher, depth_eq catches.found]
      refine Stack.at?_eq_none ?_
      rw [Stack.size_push, Stack.size_below, Coroutine.depth]
      omega
  | cons other others =>
      rw [left] at first
      cases Option.some.inj first
      rw [frame?, caught.gone (left ▸ List.mem_cons_self)]
      rfl

/-- A call that pushes a frame does nothing else. -/
structure Calls (machine : Machine) (dst : Option Reg) (pushed : Frame) : Prop where
  stays : machine.Stays machine.step
  marks : machine.step.marks = machine.marks
  role : pushed.role = .callee dst
  extends' {coroutine : Coroutine} (found : machine.coroutine? machine.current = some coroutine) :
    ∃ coroutine', machine.step.coroutine? machine.current = some coroutine' ∧
      coroutine.Extends coroutine'

theorem step_calls {args : List Reg} {target : Callee} {pushed : Frame} (sound : machine.Sound)
    (running : machine.step.isRunning = true)
    (next : machine.instruction? = some (.call dst target args))
    (pushes : machine.step.frame? machine.current machine.depth = some pushed) :
    machine.Calls dst pushed := by
  obtain ⟨code, next', turns⟩ := step_proceeds sound running
  cases Option.some.inj (next.symm.trans next')
  obtain ⟨coroutine, frame, current, top, -⟩ := sound.active
  have deep := (Coroutine.at?_top top).1
  have moved : coroutine.Extends (coroutine.updateActive fun frame =>
      { frame with pc := frame.pc + 1 }) := .updateActive fun _ => rfl
  rcases turns.parts sound.fetched with ⟨other, tames, quiet, evolves⟩ | ⟨cause, raises, unwound⟩
  · obtain ⟨target', rfl⟩ : ∃ target', other = .call dst target' args := by
      cases tames with
      | same => exact ⟨_, rfl⟩
      | call => exact ⟨_, rfl⟩
    have found : (machine.fetched (.call dst target args)).coroutine? machine.current =
        some (coroutine.updateActive fun frame => { frame with pc := frame.pc + 1 }) :=
      (congrFun (coroutine?_fetched current) _).trans replace_same
    exact {
      stays := sound.stays_fetched.trans (evolves_stays sound.fetched evolves rfl quiet)
      marks := (evolves_marks_kept sound.fetched evolves quiet rfl).trans marks_fetched
      role := by
        refine evolves_callee sound.fetched evolves ?_ ?_ pushes
        · rwa [depth_eq current]
        · rw [frame?, found, depth_eq current]
          exact Stack.at?_eq_none (Nat.le_refl _)
      extends' := fun {other} found' => by
        cases Option.some.inj (current.symm.trans found')
        obtain ⟨coroutine', found'', more⟩ := evolves_extends evolves quiet found
        exact ⟨coroutine', found'', moved.trans more⟩ }
  · cases unwound with
    | caught catches inScope caught =>
        have vacant := caught.not_pushed sound.fetched catches
        rw [current_fetched, depth_fetched current] at vacant
        exact absurd (vacant.symm.trans pushes) (by simp)

/-! Between the call and the return -/

section Run

variable {program : Program} {args : List Value} {settings : Settings} {pushed : Frame}
  {origin later : Machine} {owner : FrameId}

theorem frame?_fetched (sound : machine.Sound) (stands : machine.frame? id depth = some frame) :
    ∃ frame', (machine.fetched code).frame? id depth = some frame' ∧ frame'.id = frame.id := by
  obtain ⟨running, current, -⟩ := sound.linked.current_running
  obtain ⟨coroutine, found, located⟩ := frame?_eq_some_iff.mp stands
  rw [frame?, coroutine?_fetched current]
  by_cases here : id = machine.current
  · subst here
    cases Option.some.inj (current.symm.trans found)
    rw [replace_same]
    have moved : running.Extends (running.updateActive fun frame =>
      { frame with pc := frame.pc + 1 }) := .updateActive fun _ => rfl
    exact moved.frames located
  · rw [replace_other here, found]
    exact ⟨frame, located, rfl⟩

theorem Calls.held (calls : machine.Calls dst pushed) (sound : machine.step.Sound)
    (pushes : machine.step.frame? machine.current machine.depth = some pushed) :
    machine.step.Held machine.current machine.depth pushed.id dst machine.step where
  known := by
    obtain ⟨coroutine, found, located⟩ := frame?_eq_some_iff.mp pushes
    exact Layered.bounded sound.layered found (Stack.mem_items_iff.mpr ⟨_, located⟩)
  place stands same := by
    obtain ⟨rfl, rfl⟩ := sound.distinct stands pushes same
    cases Option.some.inj (stands.symm.trans pushes)
    exact ⟨rfl, rfl, calls.role⟩
  keeps found _ _ := ⟨_, found, .refl⟩

theorem Held.run (held : called.Held id level callee dst called)
    (reachable : Reachable program args settings called) (reaches : called.Reaches later)
    (running : later.isRunning = true) : called.Held id level callee dst later := by
  refine reaches.induction running _ held ?_ ?_
  · intro machine counters collecting held
    exact ⟨held.known, held.place, held.keeps⟩
  · intro middle reached ran goesOn _ held
    have sound := (reachable.further reached).sound ran
    obtain ⟨code, -, evolves⟩ := step_evolves sound.enabled goesOn
    exact evolves_held sound evolves held

/-- The frames below the place of the callee are those that the coroutine had before the call. -/
theorem Held.below_iff (held : machine.step.Held machine.current machine.depth callee dst later)
    (calls : machine.Calls dst pushed) (sound : machine.Sound)
    (stands : later.frame? machine.current machine.depth = some frame) (same : frame.id = callee) :
    owner ∈ frameIds machine.coroutine? machine.current ↔ ∃ depth < machine.depth, ∃ frame,
      later.frame? machine.current depth = some frame ∧ frame.id = owner := by
  obtain ⟨coroutine, found, -⟩ := sound.linked.current_running
  obtain ⟨coroutine', found', more⟩ := calls.extends' found
  obtain ⟨now, found'', located⟩ := frame?_eq_some_iff.mp stands
  obtain ⟨earlier, asked, keeps⟩ := held.keeps found'' located same
  cases Option.some.inj (asked.symm.trans found')
  -- A frame of the coroutine before the call is still at its place.
  have still {depth : Nat} {frame : Frame} (stood : coroutine.frames.at? depth = some frame) :
      depth < machine.depth ∧
        ∃ frame', later.frame? machine.current depth = some frame' ∧ frame'.id = frame.id := by
    have lower : depth < machine.depth := by
      rw [depth_eq found]
      exact Stack.lt_of_at? stood
    obtain ⟨frame', located', same'⟩ := more.frames stood
    refine ⟨lower, frame', frame?_eq_some_iff.mpr ⟨now, found'', ?_⟩, same'⟩
    rw [keeps.frames lower, located']
  rw [mem_frameIds_iff]
  constructor
  · rintro ⟨depth, frame, stood, rfl⟩
    obtain ⟨again, found₀, located₀⟩ := frame?_eq_some_iff.mp stood
    cases Option.some.inj (found.symm.trans found₀)
    obtain ⟨lower, frame', stands', same'⟩ := still located₀
    exact ⟨depth, lower, frame', stands', same'⟩
  · rintro ⟨depth, lower, frame, stands', rfl⟩
    have within : depth < coroutine.frames.size := by
      rw [depth_eq found] at lower
      exact lower
    obtain ⟨stood, located'⟩ := Option.isSome_iff_exists.mp (Stack.at?_isSome.mpr within)
    obtain ⟨-, frame', stands'', same'⟩ := still located'
    cases Option.some.inj (stands'.symm.trans stands'')
    exact ⟨depth, stood, frame?_eq_some_iff.mpr ⟨coroutine, found, located'⟩, same'.symm⟩

/-- What the frame of a call has below it, no instruction touches. -/
theorem Held.under {middle : Machine} {stood : Frame}
    (held : machine.step.Held machine.current machine.depth callee dst middle)
    (held' : machine.step.Held machine.current machine.depth callee dst middle.step)
    (calls : machine.Calls dst pushed) (sound : machine.Sound) (sound' : middle.Sound)
    (stands : middle.frame? machine.current machine.depth = some stood) (same : stood.id = callee)
    (stands' : middle.step.frame? machine.current machine.depth = some frame)
    (same' : frame.id = callee) (member : owner ∈ frameIds machine.coroutine? machine.current) :
    ∃ id depth frame, (middle.fetched code).Under middle.step id depth frame ∧
      frame.id = owner := by
  obtain ⟨depth, lower, frame, below, rfl⟩ := (held.below_iff calls sound stands same).mp member
  obtain ⟨frame', below', own⟩ := frame?_fetched sound' below
  obtain ⟨now, found, located⟩ := frame?_eq_some_iff.mp stands
  obtain ⟨now', found', located'⟩ := frame?_eq_some_iff.mp stands'
  obtain ⟨earlier, asked, keeps⟩ := held.keeps found located same
  obtain ⟨earlier', asked', keeps'⟩ := held'.keeps found' located' same'
  cases Option.some.inj (asked.symm.trans asked')
  refine ⟨machine.current, depth, frame', ⟨below', ?_, fun here => ?_, fun here => ?_⟩, own⟩
  · obtain ⟨coroutine, found'', stood⟩ := frame?_eq_some_iff.mp below
    cases Option.some.inj (found.symm.trans found'')
    have still : middle.step.frame? machine.current depth = some frame := by
      rw [frame?, found']
      exact (keeps'.frames lower).trans ((keeps.frames lower).symm.trans stood)
    rw [still]
    rfl
  · rw [current_fetched] at here
    have within := Stack.lt_of_at? located
    rw [here] at found
    rw [depth_fetched found, depth_eq found, Coroutine.depth]
    omega
  · have within := Stack.lt_of_at? located'
    rw [here] at found'
    rw [depth_eq found', Coroutine.depth]
    omega

/-- The frame of a call has stood at its place since the call. -/
theorem Held.stood {middle : Machine}
    (held : machine.step.Held machine.current machine.depth callee dst middle)
    (sound : middle.Sound) (goesOn : middle.step.isRunning = true)
    (stands : middle.step.frame? machine.current machine.depth = some frame)
    (same : frame.id = callee) :
    ∃ stood, middle.frame? machine.current machine.depth = some stood ∧ stood.id = callee := by
  obtain ⟨code, -, evolves⟩ := step_evolves sound.enabled goesOn
  obtain ⟨stood, stands', same'⟩ := evolves_stood sound evolves stands (same ▸ held.known)
  exact ⟨stood, stands', same'.trans same⟩

/-- The regions of the caller stay open while the frame that it called stands. -/
theorem Calls.marks_run (calls : machine.Calls dst pushed)
    (reachable : Reachable program args settings machine) (running : machine.isRunning = true)
    (held : machine.step.Held machine.current machine.depth callee dst machine.step)
    (reaches : machine.step.Reaches later) (goesOn : later.isRunning = true)
    (stands : later.frame? machine.current machine.depth = some frame) (same : frame.id = callee) :
    later.marksOf (frameIds machine.coroutine? machine.current) =
      machine.marksOf (frameIds machine.coroutine? machine.current) := by
  have sound := reachable.sound running
  have reachable' := reachable.further (.single (.step running))
  have kept := reaches.induction goesOn
    (fun later => ∀ frame, later.frame? machine.current machine.depth = some frame →
      frame.id = callee → later.marksOf (frameIds machine.coroutine? machine.current) =
        machine.marksOf (frameIds machine.coroutine? machine.current))
    (fun _ _ _ => by rw [marksOf, calls.marks, ← marksOf]) (fun _ _ _ kept => kept) ?_
  · exact kept frame stands same
  · intro middle reached ran goesOn' _ kept frame stands' same'
    have sound' := (reachable'.further reached).sound ran
    have held' := held.run reachable' reached ran
    have held'' := held.run reachable' (reached.tail (.step ran)) goesOn'
    obtain ⟨stood, stands, same⟩ := held'.stood sound' goesOn' stands' same'
    obtain ⟨code, -, turns⟩ := step_proceeds sound' goesOn'
    rw [turns.marks sound'.fetched fun owner member =>
      held'.under held'' calls sound sound' stands same stands' same' member]
    exact (congrArg (List.filter _) marks_fetched).trans (kept stood stands same)

/-! While the coroutine is not suspended -/

/-- Two ends of a list without repetitions, of which one has what the other begins with. -/
theorem end_of_mem {whole tail behind : List CoroutineId} (distinct : whole.Nodup)
    (first : id :: tail <:+ whole) (second : behind <:+ whole) (member : id ∈ behind) :
    id :: tail <:+ behind := by
  rcases List.suffix_or_suffix_of_suffix first second with longer | shorter
  · exact longer
  · rcases List.suffix_cons_iff.mp shorter with rfl | deeper
    · exact List.suffix_rfl
    · have once := distinct.sublist first.sublist
      exact absurd (deeper.subset member) (List.nodup_cons.mp once).1

/-- Behind a coroutine on the path, none is current. -/
theorem Sound.current_apart {other : CoroutineId} {rest : List CoroutineId} (sound : machine.Sound)
    (path : id :: rest <:+ machine.awake) (passed : other ∈ rest) : other ≠ machine.current := by
  obtain ⟨front, parts⟩ := path
  have first := (awake_trail sound.linked).1.head?
  have distinct := (awake_trail sound.linked).1.nodup
  rw [← parts] at first distinct
  rintro rfl
  cases front with
  | nil =>
      cases Option.some.inj first
      exact (List.nodup_cons.mp distinct).1 passed
  | cons next front =>
      cases Option.some.inj first
      exact (List.nodup_cons.mp distinct).1 (by simp [passed])

/-- A coroutine with more than its entry frame runs if it is not suspended. -/
theorem Sound.runs (sound : machine.Sound) (found : machine.coroutine? id = some coroutine)
    (located : coroutine.frames.at? level = some frame) (inner : 0 < level)
    (awake : coroutine.state ≠ .suspended) : coroutine.state = .running := by
  have within := Stack.lt_of_at? located
  cases state : coroutine.state with
  | running => rfl
  | suspended => exact absurd state awake
  | fresh =>
      have single := ((sound.linked.sound found).fresh (Coroutine.state_eq_fresh_iff.mp state)).1
      rw [Coroutine.depth] at single
      omega
  | exhausted =>
      have gone := (Coroutine.state_eq_exhausted_iff.mp state).2
      rw [Coroutine.depth] at gone
      omega

/-- A coroutine is not suspended at any time of a run. -/
def Unsuspended (origin later : Machine) (id : CoroutineId) : Prop :=
  ∀ middle : Machine, origin.Reaches middle → middle.Reaches later →
    ∀ coroutine, middle.coroutine? id = some coroutine → coroutine.state ≠ .suspended

/-- The coroutine of a call runs, those behind it wait, and the regions of all of them are open. -/
structure Waits (machine origin : Machine) (rest : List CoroutineId) (later : Machine) : Prop where
  path : machine.current :: rest <:+ later.awake
  others {id : CoroutineId} (passed : id ∈ rest) : later.coroutine? id = origin.coroutine? id
  marks : later.marksOf (frameIds machine.coroutine? machine.current ++
    rest.flatMap (frameIds origin.coroutine?)) = origin.marks

theorem Calls.waits_run {rest : List CoroutineId} (calls : machine.Calls dst pushed)
    (reachable : Reachable program args settings machine) (running : machine.isRunning = true)
    (held : machine.step.Held machine.current machine.depth callee dst machine.step)
    (reached : machine.step.Reaches origin) (reaches : origin.Reaches later)
    (goesOn : later.isRunning = true) (path : origin.awake = machine.current :: rest)
    (opened : machine.Waits origin rest origin)
    (awake : origin.Unsuspended later machine.current)
    (stands : later.frame? machine.current machine.depth = some frame) (same : frame.id = callee) :
    machine.Waits origin rest later := by
  have sound := reachable.sound running
  have reachable' := reachable.further (.single (.step running))
  have inner : 0 < machine.depth := by
    obtain ⟨coroutine, frame, current, top, -⟩ := sound.active
    rw [depth_eq current]
    exact (Coroutine.at?_top top).1
  have kept := reaches.induction goesOn
    (fun later => ∀ frame, later.frame? machine.current machine.depth = some frame →
      frame.id = callee → machine.Waits origin rest later) (fun _ _ _ => opened)
    (fun _ _ _ kept frame stands same => ?_) ?_
  · exact kept frame stands same
  · obtain ⟨path, others, marks⟩ := kept frame stands same
    exact ⟨path, others, marks⟩
  · intro middle reached' ran goesOn' further kept frame stands' same'
    have passed := reached.trans reached'
    have sound' := (reachable'.further passed).sound ran
    have sound'' := (reachable'.further (passed.tail (.step ran))).sound goesOn'
    have held' := held.run reachable' passed ran
    have held'' := held.run reachable' (passed.tail (.step ran)) goesOn'
    obtain ⟨stood, stands, same⟩ := held'.stood sound' goesOn' stands' same'
    obtain ⟨path', others, marks⟩ := kept stood stands same
    obtain ⟨code, -, turns⟩ := step_proceeds sound' goesOn'
    have stays : middle.Stays (middle.fetched code) := sound'.stays_fetched
    have unmoved := stays.awake_eq sound' sound'.fetched
    have switches := turns.switches sound'.fetched sound''
    obtain ⟨coroutine, found, located⟩ := frame?_eq_some_iff.mp stands'
    have runs := sound''.runs found located inner
      (awake _ (reached'.tail (.step ran)) further coroutine found)
    have path'' : machine.current :: rest <:+ middle.step.awake := by
      rcases switches.path with ⟨entered, grown⟩ | ⟨front, parts⟩
      · rw [grown, unmoved]
        exact path'.trans (List.suffix_cons _ _)
      · have passed := ((awake_trail sound''.linked).2.2 _).mpr ⟨coroutine, found, runs⟩
        rw [unmoved] at parts
        exact end_of_mem (awake_trail sound'.linked).1.nodup path' ⟨front, parts.symm⟩ passed
    have still {id : CoroutineId} {coroutine : Coroutine} (passed : id ∈ rest)
        (found : origin.coroutine? id = some coroutine) :
        (middle.fetched code).coroutine? id = some coroutine ∧
          middle.step.coroutine? id = some coroutine := by
      have found' : (middle.fetched code).coroutine? id = some coroutine :=
        stays.others ((others passed).trans found) (sound'.current_apart path' passed)
      refine ⟨found', switches.others found' (fun _ => ?_) ?_ (sound''.current_apart path'' passed)⟩
      · exact path''.subset (List.mem_cons_of_mem _ passed)
      · rw [current_fetched]
        exact sound'.current_apart path' passed
    have begun : origin.isRunning = true := Reaches.running reached' ran
    have sound₀ := (reachable'.further reached).sound begun
    refine ⟨path'', fun {id} passed => ?_, ?_⟩
    · obtain ⟨coroutine, found, -⟩ := sound₀.awake_running (path ▸ List.mem_cons_of_mem _ passed)
      rw [found]
      exact (still passed found).2
    · rw [turns.marks sound'.fetched fun owner member => ?_]
      · exact (congrArg (List.filter _) marks_fetched).trans marks
      · rcases List.mem_append.mp member with own | member
        · exact held'.under held'' calls sound sound' stands same stands' same' own
        · obtain ⟨id, passed, own⟩ := List.mem_flatMap.mp member
          obtain ⟨depth, frame, stands, rfl⟩ := mem_frameIds_iff.mp own
          obtain ⟨coroutine, found, located⟩ := frame?_eq_some_iff.mp stands
          obtain ⟨found', found''⟩ := still passed found
          refine ⟨id, depth, frame, ⟨frame?_eq_some_iff.mpr ⟨coroutine, found', located⟩, ?_,
            fun here => ?_, fun here => ?_⟩, rfl⟩
          · rw [frame?_eq_some_iff.mpr ⟨coroutine, found'', located⟩]
            rfl
          · rw [current_fetched] at here
            exact absurd here (sound'.current_apart path' passed)
          · exact absurd here (sound''.current_apart path'' passed)

/-! The containers of the callee -/

/-- A container of the callee has been freed, or the callee has it still. -/
def Frees (origin : Machine) (id : CoroutineId) (level : Nat) (callee : FrameId)
    (container : ContainerId) (machine : Machine) : Prop :=
  origin.arena.Freed machine.arena container ∨
    ∀ {frame : Frame}, machine.frame? id level = some frame → frame.id = callee →
      container ∈ machine.containersOf frame

variable {container : ContainerId}

theorem effect_frees (sound : before.Sound) (effect : Effect code before after)
    (known : callee.index < before.nextFrame) (ages : origin.arena.Ages before.arena)
    (live : origin.arena.isLive container = true)
    (frees : origin.Frees id level callee container before) :
    origin.Frees id level callee container after := by
  rcases frees with freed | member
  · exact .inl (freed.later (effect_ages effect))
  · by_cases gone : after.arena.isLive container = false ∧ before.arena.isLive container = true
    · exact .inl (((effect_ages effect).freed gone.2 gone.1).earlier ages live)
    · right
      intro frame stands same
      obtain ⟨stood, goes⟩ := effect_stood sound effect stands (same ▸ known)
      have stood' := frame?_eq_some_iff.mpr goes.earlier
      have had := member stood' (goes.same.symm.trans same)
      rcases containersOf_effect sound effect goes.earlier (frame?_eq_some_iff.mp stands)
        goes.shifts had with released | kept
      · exact absurd ⟨released, live_containersOf sound goes.earlier had⟩ gone
      · exact kept

theorem evolves_frees (sound : before.Sound) (evolves : before.Evolves code after)
    (known : callee.index < before.nextFrame) (ages : origin.arena.Ages before.arena)
    (live : origin.arena.isLive container = true)
    (frees : origin.Frees id level callee container before) :
    callee.index < after.nextFrame ∧ origin.Frees id level callee container after := by
  induction evolves with
  | refl => exact ⟨known, frees⟩
  | tail soFar effect ih =>
      obtain ⟨known, frees⟩ := ih
      exact ⟨Nat.lt_of_lt_of_le known (effect_nextFrame effect),
        effect_frees (sound.evolves soFar) effect known
          (ages.trans (Evolves.ages soFar)) live frees⟩

/-- What the callee has at some time, it has later on, unless it is freed. -/
theorem frees_run (reachable : Reachable program args settings origin)
    (reaches : origin.Reaches later) (running : later.isRunning = true)
    (stands : origin.frame? id level = some frame)
    (member : container ∈ origin.containersOf frame) :
    origin.Frees id level frame.id container later := by
  have sound := reachable.sound (reaches.running running)
  have live := live_containersOf sound (frame?_eq_some_iff.mp stands) member
  have kept := reaches.induction running
    (fun later => frame.id.index < later.nextFrame ∧
      origin.Frees id level frame.id container later) ?_ (fun _ _ _ kept => kept) ?_
  · exact kept.2
  · obtain ⟨coroutine, found, located⟩ := frame?_eq_some_iff.mp stands
    refine ⟨Layered.bounded sound.layered found (Stack.mem_items_iff.mpr ⟨_, located⟩), .inr ?_⟩
    intro frame' stands' _
    cases Option.some.inj (stands.symm.trans stands')
    exact member
  · intro middle reached ran goesOn _ kept
    have sound' := (reachable.further reached).sound ran
    obtain ⟨code, -, evolves⟩ := step_evolves sound'.enabled goesOn
    exact evolves_frees sound' evolves kept.1 (reached.ages reachable) live kept.2

end Run

end Machine

end Backtrack
