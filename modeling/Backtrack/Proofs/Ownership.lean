import Backtrack.Proofs.Discipline
import Backtrack.Proofs.Switching

/-!
Who opens and closes regions. The active frame opens and closes its own, and a condition closes
those of the frames that it leaves and of the frame that catches it. So the regions of a frame that
stays, and that is not active before or after an instruction, stay open.
-/

namespace Backtrack

/-- Whether an instruction opens or closes a region. -/
def Instruction.regional : Instruction → Bool
  | .openRegion | .commitRegion | .rollbackRegion => true
  | _ => false

namespace Machine

variable {code : Instruction} {before after machine : Machine} {id : CoroutineId}
  {coroutine : Coroutine} {frame : Frame} {owners : List FrameId}

/-- The regions of some frames. -/
def marksOf (machine : Machine) (owners : List FrameId) : List Mark :=
  machine.marks.filter (·.owner ∈ owners)

/-- Only an instruction for regions opens or closes one, and then the active frame owns it. -/
theorem effect_marks (effect : Effect code before after) (quiet : code.raises = false)
    (active : before.active? = some frame) :
    after.marks = before.marks ∨ code.regional = true ∧ ∃ mark : Mark, mark.owner = frame.id ∧
      (after.marks = mark :: before.marks ∨ before.marks = mark :: after.marks) := by
  have named {other : Frame} (active' : before.active? = some other) : other.id = frame.id := by
    rw [Option.some.inj (active'.symm.trans active)]
  cases effect with
  | bindVar | bindCandidates =>
      left
      simp [marks, Function.comp_def, Region.mark]
  | openRegion opening active' =>
      subst opening
      exact .inr ⟨rfl, ⟨before.nextSerial, _⟩, named active', .inl rfl⟩
  | commitRegion top committing active' own =>
      subst committing
      refine .inr ⟨rfl, Region.mark _, own.trans (named active'), .inr ?_⟩
      rw [marks, top]
      rfl
  | rollbackRegion top undoing active' own =>
      subst undoing
      refine .inr ⟨rfl, Region.mark _, own.trans (named active'), .inr ?_⟩
      rw [marks, top]
      rfl
  | abandon _ _ _ _ raising => exact absurd (quiet.symm.trans raising) (by simp)
  | «catch» _ _ _ _ raising => exact absurd (quiet.symm.trans raising) (by simp)
  | undoAll raising => exact absurd (quiet.symm.trans raising) (by simp)
  | _ => exact .inl rfl

/-- An instruction for regions stays in its frame. -/
theorem effect_regional (effect : Effect code before after) (regional : code.regional = true)
    (active : before.active? = some frame) :
    ∃ frame', after.active? = some frame' ∧ frame'.id = frame.id := by
  have quiet : code.raises = false := by
    cases code <;> first | rfl | cases regional
  cases effect with
  | count | intern | openRegion | commitRegion | rollbackRegion => exact ⟨frame, active, rfl⟩
  | compute change same => exact ⟨_, active?_updateFrame active, (same frame).id⟩
  | bindVar _ _ _ binding =>
      obtain ⟨src, rfl | rfl⟩ := binding <;> cases regional
  | bindCandidates _ _ _ binding =>
      obtain ⟨function, rfl⟩ := binding
      cases regional
  | pushScope _ other | popScope other | pushHandler _ _ _ _ other | popHandler _ _ _ other =>
      subst other
      cases regional
  | call _ _ _ _ calling =>
      obtain ⟨callee, args, rfl⟩ := calling
      cases regional
  | «return» _ _ _ _ returning | finish _ _ _ _ _ returning =>
      obtain ⟨reg, rfl⟩ := returning
      cases regional
  | create _ _ creating =>
      obtain ⟨dst, args, rfl⟩ := creating
      cases regional
  | copy _ _ _ _ copying =>
      obtain ⟨dst, source, rfl⟩ := copying
      cases regional
  | enter _ _ _ _ _ entering =>
      obtain ⟨target, rfl⟩ := entering
      cases regional
  | yield _ _ _ _ yielding =>
      obtain ⟨reg, rfl⟩ := yielding
      cases regional
  | abandon _ _ _ _ raising => exact absurd (quiet.symm.trans raising) nofun
  | «catch» _ _ _ _ raising => exact absurd (quiet.symm.trans raising) nofun
  | undoAll raising => exact absurd (quiet.symm.trans raising) nofun

theorem evolves_marks_kept (sound : before.Sound) (evolves : before.Evolves code after)
    (quiet : code.raises = false) (unregional : code.regional = false) :
    after.marks = before.marks := by
  induction evolves with
  | refl => rfl
  | tail soFar effect ih =>
      obtain ⟨-, frame, -, -, active⟩ := (sound.evolves soFar).active
      rcases effect_marks effect quiet active with kept | ⟨regional, -⟩
      · exact kept.trans ih
      · exact absurd (unregional.symm.trans regional) nofun

theorem marks_fetched : (machine.fetched code).marks = machine.marks := by
  obtain ⟨counters, same⟩ := machine.fetched_eq code
  rw [same]
  rfl

theorem evolves_marks (sound : before.Sound) (evolves : before.Evolves code after)
    (quiet : code.raises = false) (active : before.active? = some frame)
    (apart : frame.id ∉ owners) : after.marksOf owners = before.marksOf owners := by
  have kept : after.marksOf owners = before.marksOf owners ∧ (code.regional = true →
      ∃ frame', after.active? = some frame' ∧ frame'.id = frame.id) := by
    induction evolves with
    | refl => exact ⟨rfl, fun _ => ⟨frame, active, rfl⟩⟩
    | @tail middle after soFar effect ih =>
        obtain ⟨same, goesOn⟩ := ih
        obtain ⟨-, frame', -, -, active'⟩ := (sound.evolves soFar).active
        have changed := effect_marks effect quiet active'
        cases regional : code.regional with
        | false =>
            have kept := changed.resolve_right fun opened => nomatch regional.symm.trans opened.1
            exact ⟨by rw [marksOf, kept, ← marksOf, same], nofun⟩
        | true =>
            obtain ⟨owner, active'', own⟩ := goesOn regional
            cases Option.some.inj (active'.symm.trans active'')
            refine ⟨same ▸ ?_, fun _ => ?_⟩
            · rcases changed with kept | ⟨-, mark, owned, opened | closed⟩
              · rw [marksOf, kept, ← marksOf]
              · rw [marksOf, opened, List.filter_cons_of_neg (by simpa [owned, own] using apart),
                  ← marksOf]
              · rw [marksOf, marksOf, closed,
                  List.filter_cons_of_neg (by simpa [owned, own] using apart)]
            · obtain ⟨frame'', active, same⟩ := effect_regional effect regional active'
              exact ⟨frame'', active, same.trans own⟩
  exact kept.1

/-- An instruction that goes on is made of effects, or a condition that it raises is caught. -/
theorem Turns.parts (turns : before.Turns code .proceed after) (sound : before.Sound) :
    (∃ other : Instruction, other.Tames code ∧ other.raises = false ∧ before.Evolves other after) ∨
      ∃ cause, before.raised? code = some cause ∧
        before.Unwound ⟨cause, before.trace⟩ .proceed after := by
  cases turns with
  | stays tames stays quiet evolves => exact .inl ⟨_, tames, quiet, evolves⟩
  | enters entering active named found parked =>
      subst entering
      exact .inl ⟨_, .same, rfl, Evolves.refl.then (.enter _ _ active found parked ⟨_, rfl⟩)⟩
  | refused entering =>
      subst entering
      exact .inl ⟨_, .same, rfl,
        Evolves.refl.then (.compute _ fun _ => Frame.sameActivation_receive)⟩
  | yields yielding current active held waits closed =>
      subst yielding
      have runs := sound.linked.running_of_current current
      exact .inl ⟨_, .same, rfl,
        (Evolves.refl.then (.yield current runs waits closed ⟨_, rfl⟩)).then
          (.compute _ fun _ => CallerLink.sameActivation_deliver)⟩
  | returns returning current active held callee closed =>
      subst returning
      exact .inl ⟨_, .same, rfl,
        (Evolves.refl.then (.return current active callee closed ⟨_, rfl⟩)).then
          (.compute _ fun _ => Frame.sameActivation_receive)⟩
  | finishes returning current active entry closed waits =>
      subst returning
      exact .inl ⟨_, .same, rfl,
        (Evolves.refl.then (.finish current active entry waits closed ⟨_, rfl⟩)).then
          (.compute _ fun _ => CallerLink.sameActivation_deliver)⟩
  | raises raises unwound => exact .inr ⟨_, raises, unwound⟩

/-- A frame that stays at its place and is active neither before nor after an instruction. -/
structure Under (before after : Machine) (id : CoroutineId) (depth : Nat) (frame : Frame) : Prop where
  stands : before.frame? id depth = some frame
  stays : (after.frame? id depth).isSome = true
  inactive : id = before.current → depth + 1 < before.depth
  inactive' : id = after.current → depth + 1 < after.depth

theorem depth_eq (found : machine.coroutine? machine.current = some coroutine) :
    machine.depth = coroutine.depth := by
  rw [depth, found]
  rfl

/-- What a frame owns that a condition passes over is not undone. -/
theorem Under.undone {caught : CoroutineId} {value : Value} {handler : Handler}
    {outer : List Handler} {owner : Frame} {region : Region} {depth : Nat}
    (under : before.Under after id depth frame) (sound : before.Sound)
    (catches : before.Catches caught coroutine handler outer owner)
    (ended : before.Caught value caught coroutine handler outer owner after)
    (opened : region ∈ before.regions.items) (own : region.owner = frame.id) :
    before.undone caught handler region = false := by
  obtain ⟨stood, found, located⟩ := frame?_eq_some_iff.mp under.stands
  have here {other : CoroutineId} (member : region.owner ∈ frameIds before.coroutine? other) :
      other = id := sound.owner_home under.stands (own ▸ member)
  rw [Machine.undone, Bool.or_eq_false_iff, Bool.and_eq_false_iff, decide_eq_false_iff_not,
    decide_eq_false_iff_not, decide_eq_false_iff_not]
  constructor
  · intro left
    obtain ⟨other, dropped, member⟩ := List.mem_flatMap.mp left
    cases here member
    have stays := under.stays
    rw [frame?, ended.gone dropped] at stays
    cases stays
  · rw [← not_and_or]
    rintro ⟨member, later⟩
    cases here member
    cases Option.some.inj (found.symm.trans catches.found)
    have current : after.coroutine? after.current = _ := ended.current ▸ ended.catcher
    have lower := under.inactive' ended.current.symm
    rw [depth_eq current] at lower
    have below : depth < handler.depth := by
      simp only [Coroutine.depth, Stack.size_push, Stack.size_below] at lower
      omega
    have earlier : region.mark.serial < handler.regionSerial :=
      Layered.below sound.layered found (catches.installed ▸ List.mem_cons_self) located
        (List.mem_map_of_mem opened) own below
    exact absurd later (Nat.not_le_of_lt earlier)

/-- The regions of the frames under the active one stay open. -/
theorem Turns.marks (turns : before.Turns code .proceed after) (sound : before.Sound)
    (under : ∀ owner ∈ owners, ∃ id depth frame, before.Under after id depth frame ∧
      frame.id = owner) : after.marksOf owners = before.marksOf owners := by
  rcases turns.parts sound with ⟨other, -, quiet, evolves⟩ | ⟨cause, raises, unwound⟩
  · obtain ⟨coroutine, frame, current, top, active⟩ := sound.active
    refine evolves_marks sound evolves quiet active fun member => ?_
    obtain ⟨id, depth, frame', held, same⟩ := under frame.id member
    obtain ⟨deep, located⟩ := Coroutine.at?_top top
    obtain ⟨rfl, rfl⟩ := sound.distinct held.stands
      (frame?_eq_some_iff.mpr ⟨coroutine, current, located⟩) same
    have lower := held.inactive rfl
    rw [depth_eq current] at lower
    omega
  · cases unwound with
    | @caught id coroutine handler outer owner _ catches inScope ended =>
        rw [marksOf, marksOf, Machine.marks, Machine.marks, ended.regions, List.filter_map,
          List.filter_map, List.filter_filter]
        congr 1
        refine List.filter_congr fun region opened => ?_
        by_cases member : region.owner ∈ owners
        · obtain ⟨id, depth, frame, held, same⟩ := under region.owner member
          have kept := held.undone sound catches ended opened same.symm
          simp [kept, Region.mark, member]
        · simp [Region.mark, member]

end Machine

end Backtrack
