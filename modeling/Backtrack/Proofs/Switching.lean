import Backtrack.Proofs.Persistence

/-!
How control moves along the path of callers. An instruction goes on in the current coroutine, or
enters one that then comes first on the path, or leaves the first coroutines of the path. Those that
stay on the path keep waiting as they did, and only the one that control goes to changes.
-/

namespace Backtrack

namespace Machine

variable {code : Instruction} {before middle after machine : Machine} {id : CoroutineId}
  {coroutine changed : Coroutine} {frame : Frame} {link : CallerLink}

/-- The current coroutine goes on, and no other one changes. -/
structure Stays (before after : Machine) : Prop where
  current : after.current = before.current
  caller {id : CoroutineId} {coroutine : Coroutine} (found : before.coroutine? id = some coroutine) :
    ∃ changed, after.coroutine? id = some changed ∧ changed.caller = coroutine.caller
  others {id : CoroutineId} {coroutine : Coroutine} (found : before.coroutine? id = some coroutine)
    (apart : id ≠ before.current) : after.coroutine? id = some coroutine

/-- What an instruction does to the path of callers and the coroutines on it. -/
structure Switches (code : Instruction) (before after : Machine) : Prop where
  path : (∃ id, after.awake = id :: before.awake) ∨ ∃ front, before.awake = front ++ after.awake
  caller {id : CoroutineId} (passed : id ∈ before.awake) (passed' : id ∈ after.awake) :
    after.caller? id = before.caller? id
  others {id : CoroutineId} {coroutine : Coroutine} (found : before.coroutine? id = some coroutine)
    (stays : id ∈ before.awake → id ∈ after.awake) (apart : id ≠ before.current)
    (apart' : id ≠ after.current) : after.coroutine? id = some coroutine
  /-- Only a condition leaves coroutines that are not current. -/
  left {id : CoroutineId} (passed : id ∈ before.awake) (gone : id ∉ after.awake)
    (apart : id ≠ before.current) : id ∈ before.dropped ∧ after.coroutine? id = some .dead ∧
      ∃ cause, before.raised? code = some cause

theorem caller?_eq (found : machine.coroutine? id = some coroutine) :
    machine.caller? id = coroutine.caller := by
  simp [caller?, found]

namespace Stays

theorem refl : machine.Stays machine :=
  ⟨rfl, fun found => ⟨_, found, rfl⟩, fun found _ => found⟩

theorem trans (first : before.Stays middle) (second : middle.Stays after) :
    before.Stays after where
  current := second.current.trans first.current
  caller found := by
    obtain ⟨changed, found', same⟩ := first.caller found
    obtain ⟨changed', found'', same'⟩ := second.caller found'
    exact ⟨changed', found'', same'.trans same⟩
  others found apart :=
    second.others (first.others found apart) fun same => apart (same.trans first.current)

/-- Only the current coroutine changes. -/
theorem of_replace (found : before.coroutine? before.current = some coroutine)
    (coroutines : after.coroutine? = replace before.coroutine? before.current changed)
    (current : after.current = before.current) (kept : changed.caller = coroutine.caller) :
    before.Stays after where
  current := current
  caller {id other} found' := by
    rw [coroutines]
    by_cases same : id = before.current
    · subst same
      cases Option.some.inj (found.symm.trans found')
      exact ⟨changed, replace_same, kept⟩
    · exact ⟨other, (replace_other same).trans found', rfl⟩
  others found' apart := by
    rw [coroutines, replace_other apart, found']

theorem updateFrame {arena : Arena} {change : Frame → Frame}
    (found : before.coroutine? before.current = some coroutine) :
    before.Stays ({ before with arena }.updateFrame before.current change) :=
  of_replace found (coroutine?_replace found) rfl rfl

/-- The path of callers does not change, nor does any link on it. -/
theorem caller?_eq (stays : before.Stays after) (found : before.coroutine? id = some coroutine) :
    after.caller? id = before.caller? id := by
  obtain ⟨changed, found', same⟩ := stays.caller found
  rw [Machine.caller?_eq found, Machine.caller?_eq found', same]

end Stays

/-- An effect of an instruction that neither transfers control nor raises. -/
theorem effect_stays (sound : before.Sound) (effect : Effect code before after)
    (stays : code.transfers = false) (quiet : code.raises = false) : before.Stays after := by
  obtain ⟨running, found, -⟩ := sound.linked.current_running
  have updated {change : Coroutine → Coroutine} {after : Machine}
      (kept : (change running).caller = running.caller) (current : after.current = before.current)
      (coroutines : after.coroutine? = (before.updateCoroutine before.current change).coroutine?) :
      before.Stays after :=
    .of_replace found (coroutines.trans (coroutine?_replace found)) current kept
  cases effect with
  | count | intern | bindVar | bindCandidates | openRegion | commitRegion | rollbackRegion
  | undoAll => exact ⟨rfl, fun found => ⟨_, found, rfl⟩, fun found _ => found⟩
  | compute change same => exact .updateFrame found
  | pushScope | popScope =>
      exact .updateFrame found
  | call | pushHandler | popHandler => exact updated rfl rfl rfl
  | create | copy => exact ⟨rfl, fun found => ⟨_, found_push found, rfl⟩, fun found _ => found_push found⟩
  | «return» _ _ _ _ returning | finish _ _ _ _ _ returning =>
      obtain ⟨reg, rfl⟩ := returning
      cases stays
  | enter _ _ _ _ _ entering =>
      obtain ⟨target, rfl⟩ := entering
      cases stays
  | yield _ _ _ _ yielding =>
      obtain ⟨reg, rfl⟩ := yielding
      cases stays
  | abandon _ _ _ _ raising => exact absurd (quiet.symm.trans raising) nofun
  | «catch» _ _ _ _ raising => exact absurd (quiet.symm.trans raising) nofun

theorem evolves_stays (sound : before.Sound) (evolves : before.Evolves code after)
    (stays : code.transfers = false) (quiet : code.raises = false) : before.Stays after := by
  induction evolves with
  | refl => exact .refl
  | tail soFar effect ih => exact ih.trans (effect_stays (sound.evolves soFar) effect stays quiet)

/-! The path of callers -/

namespace Sound

theorem awake_eq {path : List CoroutineId} (sound : machine.Sound)
    (trail : Trail machine.waiter? machine.current path) : machine.awake = path :=
  (awake_trail sound.linked).1.unique trail

/-- A path on which every coroutine keeps its link is still one. -/
theorem trail_kept {start : CoroutineId} {path : List CoroutineId}
    (trail : Trail before.waiter? start path)
    (kept : ∀ id ∈ path, after.caller? id = before.caller? id) :
    Trail after.waiter? start path :=
  trail.congr fun id passed => by rw [waiter?, waiter?, kept id passed]

/-- What follows a coroutine on the path waits for it. -/
theorem onward (sound : machine.Sound) (found : machine.coroutine? machine.current = some coroutine)
    (waits : coroutine.caller = some link) :
    ∃ rest, machine.awake = machine.current :: rest ∧
      Trail machine.waiter? link.coroutine rest := by
  refine (awake_trail sound.linked).1.onward ?_
  rw [waiter?, caller?_eq found, waits]
  rfl

end Sound

theorem Stays.awake_eq (stays : before.Stays after) (sound : before.Sound) (sound' : after.Sound) :
    after.awake = before.awake := by
  obtain ⟨trail, -, running⟩ := awake_trail sound.linked
  refine sound'.awake_eq ?_
  rw [stays.current]
  refine Sound.trail_kept trail fun id passed => ?_
  obtain ⟨coroutine, found, -⟩ := (running id).mp passed
  exact stays.caller?_eq found

theorem Sound.stays_fetched (sound : machine.Sound) : machine.Stays (machine.fetched code) := by
  obtain ⟨running, current, -⟩ := sound.linked.current_running
  obtain ⟨counters, same⟩ := machine.fetched_eq code
  rw [same]
  exact .of_replace current (coroutine?_replace current) rfl rfl

theorem Stays.switches (stays : before.Stays after) (sound : before.Sound) (sound' : after.Sound) :
    before.Switches code after where
  path := .inr ⟨[], (stays.awake_eq sound sound').symm⟩
  caller passed _ := by
    obtain ⟨coroutine, found, -⟩ := sound.awake_running passed
    exact stays.caller?_eq found
  others found _ apart _ := stays.others found apart
  left passed gone _ := absurd (stays.awake_eq sound sound' ▸ passed) gone

/-- A coroutine is entered. -/
theorem switches_enter (sound : before.Sound) (sound' : after.Sound)
    (found : before.coroutine? id = some coroutine)
    (parked : coroutine.state = .fresh ∨ coroutine.state = .suspended)
    (waits : changed.caller = some link) (back : link.coroutine = before.current)
    (coroutines : after.coroutine? = replace before.coroutine? id changed)
    (current : after.current = id) : before.Switches code after := by
  obtain ⟨trail, -, running⟩ := awake_trail sound.linked
  have absent : id ∉ before.awake := by
    intro passed
    obtain ⟨same, found', runs⟩ := (running id).mp passed
    cases Option.some.inj (found.symm.trans found')
    exact ((sound.linked.sound found).enterable parked).2 runs
  have differ {other : CoroutineId} (passed : other ∈ before.awake) : other ≠ id :=
    fun same => absent (same ▸ passed)
  have kept (other : CoroutineId) (passed : other ∈ before.awake) :
      after.caller? other = before.caller? other := by
    rw [caller?, caller?, coroutines, replace_other (differ passed)]
  have leads : after.waiter? id = some before.current := by
    rw [waiter?, caller?_eq (coroutines ▸ replace_same), waits, ← back]
    rfl
  have path : after.awake = id :: before.awake := by
    refine sound'.awake_eq ?_
    rw [current]
    exact .more leads (Sound.trail_kept trail kept)
  exact {
    path := .inl ⟨id, path⟩
    caller := fun passed _ => kept _ passed
    others := fun found _ _ apart => by
      rw [coroutines, replace_other (current ▸ apart), found]
    left := fun passed gone _ => absurd (path ▸ List.mem_cons_of_mem _ passed) gone }

/-- The current coroutine hands control back to the one that waits for it. -/
theorem switches_leave {waiter told : Coroutine} (sound : before.Sound) (sound' : after.Sound)
    (found : before.coroutine? before.current = some coroutine)
    (waits : coroutine.caller = some link)
    (found' : before.coroutine? link.coroutine = some waiter)
    (coroutines : after.coroutine? =
      replace (replace before.coroutine? before.current changed) link.coroutine told)
    (current : after.current = link.coroutine) (kept : told.caller = waiter.caller) :
    before.Switches code after := by
  obtain ⟨rest, outward, onward⟩ := sound.onward found waits
  have distinct := (awake_trail sound.linked).1.nodup
  rw [outward] at distinct
  have differ {other : CoroutineId} (passed : other ∈ rest) : other ≠ before.current := by
    rintro rfl
    exact (List.nodup_cons.mp distinct).1 passed
  have same (other : CoroutineId) (passed : other ∈ rest) :
      after.caller? other = before.caller? other := by
    by_cases here : other = link.coroutine
    · subst here
      rw [caller?_eq found', caller?_eq (coroutines ▸ replace_same), kept]
    · rw [caller?, caller?, coroutines, replace_other here, replace_other (differ passed)]
  have path : after.awake = rest := by
    refine sound'.awake_eq ?_
    rw [current]
    exact Sound.trail_kept onward same
  exact {
    path := .inr ⟨[before.current], path ▸ outward⟩
    caller := fun _ passed => same _ (path ▸ passed)
    others := fun found _ apart apart' => by
      rw [coroutines, replace_other (current ▸ apart'), replace_other apart, found]
    left := fun passed gone apart => by
      rw [outward] at passed
      exact absurd ((List.mem_cons.mp passed).resolve_left apart) (path ▸ gone) }

/-- The coroutines that a condition leaves, the one that catches it, and those behind. -/
theorem Catches.awake_eq {handler : Handler} {outer : List Handler} {owner : Frame}
    (catches : machine.Catches id coroutine handler outer owner) :
    ∃ rest, machine.awake = machine.dropped ++ id :: rest := by
  have first := catches.first
  rw [catcher?, List.find?_not_eq_head?_dropWhile] at first
  obtain ⟨rest, behind⟩ := List.head?_eq_some_iff.mp first
  exact ⟨rest, by rw [dropped, ← behind, List.takeWhile_append_dropWhile]⟩

theorem switches_caught {handler : Handler} {outer : List Handler} {owner : Frame} {cause : Cause}
    {value : Value} (sound : before.Sound) (sound' : after.Sound)
    (raises : before.raised? code = some cause)
    (catches : before.Catches id coroutine handler outer owner)
    (caught : before.Caught value id coroutine handler outer owner after) :
    before.Switches code after := by
  obtain ⟨rest, parts⟩ := catches.awake_eq
  obtain ⟨trail, -, running⟩ := awake_trail sound.linked
  have distinct := trail.nodup
  rw [parts] at trail distinct
  have apart {other : CoroutineId} (passed : other ∈ id :: rest) : other ∉ before.dropped :=
    fun again => (List.nodup_append.mp distinct).2.2 _ again _ passed rfl
  have same (other : CoroutineId) (passed : other ∈ id :: rest) :
      after.caller? other = before.caller? other := by
    by_cases here : other = id
    · subst here
      rw [caller?_eq catches.found, caller?_eq caught.catcher]
    · rw [caller?, caller?, caught.kept (apart passed) here]
  have path : after.awake = id :: rest := by
    refine sound'.awake_eq ?_
    rw [caught.current]
    exact Sound.trail_kept trail.drop same
  exact {
    path := .inr ⟨before.dropped, path ▸ parts⟩
    caller := fun _ passed => same _ (path ▸ passed)
    others := fun {other _} found stays _ differ => by
      rw [caught.kept (fun gone => ?_) (caught.current ▸ differ), found]
      have passed : other ∈ before.awake := (List.takeWhile_sublist _).subset gone
      exact apart (path ▸ stays passed) gone
    left := fun passed gone _ => by
      rw [parts] at passed
      have dropped := (List.mem_append.mp passed).resolve_right (path ▸ gone)
      exact ⟨dropped, caught.gone dropped, cause, raises⟩ }

/-- The frame that a call ended in goes, and the one below receives the result. -/
theorem coroutine?_returned {arena : Arena} {change : Frame → Frame}
    (found : before.coroutine? before.current = some coroutine) :
    (({ before with arena }.updateCoroutine before.current (·.popFrame)).updateFrame
      before.current change).coroutine? =
        replace before.coroutine? before.current (coroutine.popFrame.updateActive change) := by
  rw [updateFrame, updateCoroutine_twice]
  exact coroutine?_replace found

/-- The current coroutine stops, and another one learns of it. -/
theorem coroutine?_handed {arena : Arena} {stop : Coroutine → Coroutine} {change : Frame → Frame}
    {waiter : Coroutine} (found : before.coroutine? before.current = some coroutine)
    (found' : before.coroutine? id = some waiter) (differ : id ≠ before.current) :
    (({ before with arena }.updateCoroutine before.current stop).updateFrame id change).coroutine? =
      replace (replace before.coroutine? before.current (stop coroutine)) id
        (waiter.updateActive change) := by
  have stopped : ({ before with arena }.updateCoroutine before.current stop).coroutine? =
      replace before.coroutine? before.current (stop coroutine) := coroutine?_replace found
  have still : ({ before with arena }.updateCoroutine before.current stop).coroutine? id =
      some waiter := by
    rw [stopped, replace_other differ, found']
  rw [updateFrame, coroutine?_replace still, stopped]

theorem Turns.switches (turns : before.Turns code .proceed after) (sound : before.Sound)
    (sound' : after.Sound) : before.Switches code after := by
  cases turns with
  | stays tames stays quiet evolves =>
      exact (evolves_stays sound evolves stays quiet).switches sound sound'
  | enters entering active named found parked =>
      exact switches_enter sound sound' found parked rfl rfl (coroutine?_replace found) rfl
  | refused entering active named found exhausted fits =>
      obtain ⟨running, current, -⟩ := sound.linked.current_running
      exact (Stays.updateFrame current).switches sound sound'
  | yields _ current _ _ waits _ found =>
      have differ := sound.linked.not_waited current waits
      exact switches_leave sound sound' current waits found
        (coroutine?_handed current found differ) rfl rfl
  | returns _ current active _ callee _ below =>
      have runs := sound.linked.running_of_current current
      have kept := ((sound.linked.sound current).popFrame_callee runs active
        (by rw [callee]; nofun)).2
      exact (Stays.of_replace current (coroutine?_returned current) rfl kept).switches sound sound'
  | finishes _ current _ _ _ waits found =>
      have differ := sound.linked.not_waited current waits
      exact switches_leave sound sound' current waits found
        (coroutine?_handed current found differ) rfl rfl
  | raises raises unwound =>
      cases unwound with
      | caught catches inScope caught =>
          exact switches_caught sound sound' raises catches caught

/-- A coroutine that does not run stays as it is, unless it is entered. -/
theorem Turns.resting {outcome : Outcome} (turns : before.Turns code outcome after)
    (sound : before.Sound) (found : before.coroutine? id = some coroutine)
    (resting : coroutine.state ≠ .running) :
    after.coroutine? id = some coroutine ∨
      ∃ dst target out frame, code = .enterCoroutine dst target out ∧
        before.active? = some frame ∧ frame.readCoroutine target = .ok id ∧
        (coroutine.state = .fresh ∨ coroutine.state = .suspended) ∧ outcome = .proceed ∧
        after.current = id ∧ after.coroutine? id = some { coroutine with
          caller := some ⟨before.current, before.depth - 1, dst, out⟩
          suspended := false
          started := true } := by
  have absent : id ∉ before.awake := by
    intro passed
    obtain ⟨same, found', runs⟩ := sound.awake_running passed
    cases Option.some.inj (found.symm.trans found')
    exact resting runs
  obtain ⟨trail, -, running⟩ := awake_trail sound.linked
  have apart : id ≠ before.current := fun same => absent (same ▸ trail.mem_start)
  have idle {link : CallerLink} {waiting : Coroutine}
      (current : before.coroutine? before.current = some waiting)
      (waits : waiting.caller = some link) : id ≠ link.coroutine := by
    rintro rfl
    obtain ⟨rest, path, onward⟩ := sound.onward current waits
    exact absent (path ▸ List.mem_cons_of_mem _ onward.mem_start)
  cases turns with
  | stays tames stays quiet evolves =>
      exact .inl ((evolves_stays sound evolves stays quiet).others found apart)
  | @enters frame dst out target entered other entering active named found' parked =>
      by_cases same : id = entered
      · subst same
        cases Option.some.inj (found.symm.trans found')
        have changed : (before.updateCoroutine id fun _ => { coroutine with
            caller := some ⟨before.current, before.depth - 1, dst, out⟩
            suspended := false
            started := true }).coroutine? id = some { coroutine with
              caller := some ⟨before.current, before.depth - 1, dst, out⟩
              suspended := false
              started := true } := by
          rw [coroutine?_replace found, replace_same]
        exact .inr ⟨dst, target, out, frame, entering, active, named, parked, rfl, rfl, changed⟩
      · have kept : (before.updateCoroutine entered fun _ => { other with
            caller := some ⟨before.current, before.depth - 1, dst, out⟩
            suspended := false
            started := true }).coroutine? id = some coroutine := by
          rw [coroutine?_replace found', replace_other same, found]
        exact .inl kept
  | refused =>
      obtain ⟨waiting, current, -⟩ := sound.linked.current_running
      exact .inl ((Stays.updateFrame current).others found apart)
  | yields _ current _ _ waits _ found' =>
      have differ := sound.linked.not_waited current waits
      refine .inl ((congrFun (coroutine?_handed current found' differ) id).trans ?_)
      rw [replace_other (idle current waits), replace_other apart, found]
  | returns _ current =>
      refine .inl ((congrFun (coroutine?_returned current) id).trans ?_)
      rw [replace_other apart, found]
  | finishes _ current _ _ _ waits found' =>
      have differ := sound.linked.not_waited current waits
      refine .inl ((congrFun (coroutine?_handed current found' differ) id).trans ?_)
      rw [replace_other (idle current waits), replace_other apart, found]
  | @ends ended frame value root current =>
      have popped : ({ before with arena := before.arena.vacate before.globals frame
          }.updateCoroutine before.current (·.popFrame)).coroutine? id = some coroutine := by
        rw [coroutine?_updateCoroutine, if_neg apart]
        exact found
      exact .inl popped
  | raises raises unwound =>
      left
      cases unwound with
      | caught catches inScope caught =>
          rw [caught.kept (fun left => absent ((List.takeWhile_sublist _).subset left)), found]
          rintro rfl
          exact absent (List.mem_of_find?_eq_some catches.first)
      | escaped uncaught escaped => rw [escaped.kept absent, found]

end Machine

end Backtrack
