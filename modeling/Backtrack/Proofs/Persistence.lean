import Backtrack.Proofs.Handles
import Backtrack.Proofs.Sheltered
import Backtrack.Proofs.Turns

/-!
What persists through an instruction. Effects change the current coroutine and at most enter
another; of the current one they change only the top. A frame that goes on stays at its place, and
its containers change only at the inner end of its chain.
-/

namespace Backtrack

variable {code : Instruction} {before after : Machine} {id : CoroutineId}
  {coroutine coroutine' : Coroutine} {depth level : Nat} {frame stood : Frame}

/-! Coroutines -/

/-- The frames below a level and the handlers they own stay. -/
structure Coroutine.Keeps (level : Nat) (before after : Coroutine) : Prop where
  frames {depth : Nat} (lower : depth < level) :
    after.frames.at? depth = before.frames.at? depth
  handlers : after.handlers.filter (·.depth < level) = before.handlers.filter (·.depth < level)

namespace Coroutine.Keeps

theorem refl : Coroutine.Keeps level coroutine coroutine :=
  ⟨fun _ => rfl, rfl⟩

theorem trans {middle : Coroutine} (first : Coroutine.Keeps level coroutine middle)
    (second : Coroutine.Keeps level middle coroutine') :
    Coroutine.Keeps level coroutine coroutine' :=
  ⟨fun lower => (second.frames lower).trans (first.frames lower),
    second.handlers.trans first.handlers⟩

/-- The active frame changes, which is not below the level. -/
theorem updateActive {change : Frame → Frame} (stands : coroutine.frames.at? level = some frame) :
    Coroutine.Keeps level coroutine (coroutine.updateActive change) := by
  refine ⟨fun {depth} lower => ?_, rfl⟩
  have within := Stack.lt_of_at? stands
  rw [Coroutine.updateActive, Stack.at?_modifyTop, if_neg]
  omega

theorem pushFrame (stands : coroutine.frames.at? level = some frame) :
    Coroutine.Keeps level coroutine (coroutine.pushFrame stood) := by
  refine ⟨fun {depth} lower => ?_, rfl⟩
  have within := Stack.lt_of_at? stands
  rw [Coroutine.pushFrame, Stack.at?_push, if_neg]
  omega

theorem filter_below {handlers : List Handler} {cut : Nat} (higher : level ≤ cut) :
    (handlers.filter (·.depth < cut)).filter (·.depth < level) =
      handlers.filter (·.depth < level) := by
  rw [List.filter_filter]
  refine List.filter_congr fun handler _ => ?_
  rw [← Bool.decide_and]
  exact decide_eq_decide.mpr ⟨And.left, fun low => ⟨low, Nat.lt_of_lt_of_le low higher⟩⟩

/-- The active frame goes, and the one at the level is below it. -/
theorem popFrame (stands : coroutine.popFrame.frames.at? level = some frame) :
    Coroutine.Keeps level coroutine coroutine.popFrame := by
  have within := Stack.lt_of_at? stands
  refine ⟨fun {depth} lower => ?_, ?_⟩
  · simp only [Coroutine.popFrame, Stack.size_pop] at within ⊢
    rw [Stack.at?_pop, if_pos (by omega)]
  · exact filter_below (Nat.le_of_lt within)

/-- A handler of a frame at the level or above it catches. -/
theorem caught {handler : Handler} {outer : List Handler} {changed : Frame}
    (installed : coroutine.handlers = handler :: outer)
    (owned : coroutine.frames.at? handler.depth = some stood)
    (stands : ((coroutine.frames.below handler.depth).push changed).at? level = some frame) :
    Coroutine.Keeps level coroutine { coroutine with
      handlers := outer
      frames := (coroutine.frames.below handler.depth).push changed } := by
  have within := Stack.lt_of_at? stands
  have height := Stack.lt_of_at? owned
  simp only [Stack.size_push, Stack.size_below] at within
  refine ⟨fun {depth} lower => ?_, ?_⟩
  · simp only [Stack.at?_push, Stack.size_below, Stack.at?_below]
    rw [if_neg (by omega), if_pos (by omega)]
  · have above : ¬ handler.depth < level := by omega
    rw [installed, List.filter_cons_of_neg (by simpa using above)]

end Coroutine.Keeps

namespace Machine

theorem found_push {added : Coroutine} (found : before.coroutine? id = some coroutine) :
    (before.coroutines.push added)[id.index]? = some coroutine := by
  have within := (Array.getElem?_eq_some_iff.mp found).1
  rw [Array.getElem?_push, if_neg (Nat.ne_of_lt within)]
  exact found

/-- A coroutine catches: its handler goes, and the frame of the handler becomes the active one. -/
theorem coroutine?_caught {handler : Handler} {outer : List Handler} {owner : Frame}
    {change : Frame → Frame} (found : before.coroutine? before.current = some coroutine)
    (owned : coroutine.frames.at? handler.depth = some owner) :
    ((before.updateCoroutine before.current (·.caught handler outer)).updateFrame before.current
      change).coroutine? = replace before.coroutine? before.current { coroutine with
        handlers := outer
        frames := (coroutine.frames.below handler.depth).push (change owner) } := by
  rw [updateFrame, updateCoroutine_twice, coroutine?_replace found, Coroutine.updateActive,
    Coroutine.caught, Stack.below_succ owned]
  rfl

/-- An instruction leaves a coroutine alone that is not current, unless it enters it. -/
theorem effect_apart (effect : Effect code before after)
    (found : before.coroutine? id = some coroutine) (apart : id ≠ before.current) :
    after.coroutine? id = some coroutine ∨
      ∃ dst target out, code = .enterCoroutine dst target out ∧
        (coroutine.state = .fresh ∨ coroutine.state = .suspended) ∧ after.current = id ∧
        after.coroutine? id = some { coroutine with
          caller := some ⟨before.current, before.depth - 1, dst, out⟩
          suspended := false
          started := true } := by
  have updated {change : Coroutine → Coroutine} :
      (before.updateCoroutine before.current change).coroutine? id = some coroutine := by
    rw [coroutine?_updateCoroutine, if_neg apart, found]
  cases effect with
  | create | copy => exact .inl (found_push found)
  | @enter active target entered dst out top found' parked entering =>
      by_cases same : id = target
      · subst same
        cases Option.some.inj (found.symm.trans found')
        obtain ⟨reg, rfl⟩ := entering
        have changed : (before.updateCoroutine id fun _ => { coroutine with
            caller := some ⟨before.current, before.depth - 1, dst, out⟩
            suspended := false
            started := true }).coroutine? id = some { coroutine with
              caller := some ⟨before.current, before.depth - 1, dst, out⟩
              suspended := false
              started := true } := by
          rw [coroutine?_replace found, replace_same]
        exact .inr ⟨dst, reg, out, rfl, parked, rfl, changed⟩
      · have others : (before.updateCoroutine target fun _ => { entered with
            caller := some ⟨before.current, before.depth - 1, dst, out⟩
            suspended := false
            started := true }).coroutine? id = some coroutine := by
          rw [coroutine?_updateCoroutine, if_neg same, found]
        exact .inl others
  | «catch» =>
      left
      rw [updateFrame, coroutine?_updateCoroutine, if_neg apart]
      exact updated
  | call | «return» | finish | yield | compute | pushScope | popScope | pushHandler | popHandler
  | abandon => exact .inl updated
  | _ => exact .inl found

/-- Below a frame that stays, its coroutine is not touched. -/
theorem effect_keeps (effect : Effect code before after)
    (found : before.coroutine? id = some coroutine) (found' : after.coroutine? id = some coroutine')
    (stands : coroutine.frames.at? level = some stood)
    (stands' : coroutine'.frames.at? level = some frame) :
    Coroutine.Keeps level coroutine coroutine' := by
  by_cases here : id = before.current
  · subst here
    have updated {change : Coroutine → Coroutine}
        (same : (before.updateCoroutine before.current change).coroutine? before.current =
          some coroutine') : coroutine' = change coroutine := by
      rw [coroutine?_replace found, replace_same] at same
      exact (Option.some.inj same).symm
    have within := Stack.lt_of_at? stands
    cases effect with
    | compute | pushScope | popScope =>
        cases updated found'
        exact .updateActive stands
    | call =>
        cases updated found'
        exact .pushFrame stands
    | «return» | finish =>
        cases updated found'
        exact .popFrame stands'
    | create | copy =>
        cases Option.some.inj ((found_push found).symm.trans found')
        exact .refl
    | @enter active target entered dst out top found'' parked entering =>
        by_cases same : before.current = target
        · subst same
          cases Option.some.inj (found.symm.trans found'')
          cases updated found'
          exact ⟨fun _ => rfl, rfl⟩
        · have others : (before.updateCoroutine target fun _ => { entered with
              caller := some ⟨before.current, before.depth - 1, dst, out⟩
              suspended := false
              started := true }).coroutine? before.current = some coroutine := by
            rw [coroutine?_updateCoroutine, if_neg same, found]
          cases Option.some.inj (others.symm.trans found')
          exact .refl
    | yield current =>
        cases Option.some.inj (found.symm.trans current)
        cases updated found'
        exact ⟨fun _ => rfl, rfl⟩
    | pushHandler target dst =>
        cases updated found'
        refine ⟨fun _ => rfl, ?_⟩
        have above : ¬ coroutine.depth - 1 < level := by
          rw [Coroutine.depth]
          omega
        rw [List.filter_cons_of_neg (by simpa using above)]
    | @popHandler _ handler outer current installed innermost =>
        cases Option.some.inj (found.symm.trans current)
        cases updated found'
        refine ⟨fun _ => rfl, ?_⟩
        have above : ¬ handler.depth < level := by
          rw [innermost, Coroutine.depth]
          omega
        rw [installed, List.filter_cons_of_neg (by simpa using above)]
    | abandon =>
        cases updated found'
        cases stands'
    | @«catch» _ handler outer owner current installed owned =>
        cases Option.some.inj (found.symm.trans current)
        have resumed : ((before.updateCoroutine before.current (·.caught handler outer)).updateFrame
            before.current ({ · with scope := handler.scope, pc := handler.target })).coroutine?
              before.current = some { coroutine with
                handlers := outer
                frames := (coroutine.frames.below handler.depth).push
                  { owner with scope := handler.scope, pc := handler.target } } := by
          rw [coroutine?_caught found owned, replace_same]
        cases Option.some.inj (resumed.symm.trans found')
        exact .caught installed owned stands'
    | _ =>
        cases Option.some.inj (found.symm.trans found')
        exact .refl
  · rcases effect_apart effect found here with same | ⟨_, _, _, -, -, -, entered⟩
    · cases Option.some.inj (found'.symm.trans same)
      exact .refl
    · cases Option.some.inj (found'.symm.trans entered)
      exact ⟨fun _ => rfl, rfl⟩

/-! Frames -/

/-- Where the innermost container of a frame goes: nowhere, into a container that the frame pushes,
or further out on its chain, and then what it leaves is freed. -/
inductive Shifts (before after : Machine) (stood frame : Frame) : Prop
  | rests (scope : frame.scope = stood.scope)
  | pushes (scope : frame.scope = (before.arena.place (some stood.scope)).1)
      (arena : after.arena = (before.arena.place (some stood.scope)).2)
  | leaves (inside : frame.scope ∈ before.arena.ancestry stood.scope)
      (freed : ∀ container ∈ (before.arena.ancestry stood.scope).takeWhile (· ≠ frame.scope),
        after.arena.isLive container = false)

/-- A frame stood at the same place before. -/
structure Goes (before after : Machine) (id : CoroutineId) (depth : Nat) (stood frame : Frame) :
    Prop where
  earlier : Stands before.coroutine? id depth stood
  same : frame.id = stood.id
  role : frame.role = stood.role
  base : frame.base = stood.base
  shifts : before.Shifts after stood frame

/-- A frame begins in a new container under the global one. -/
structure Begins (code : Instruction) (before after : Machine) (frame : Frame) : Prop where
  fresh : frame.id = ⟨before.nextFrame⟩
  room : before.nextFrame < after.nextFrame
  role : frame.role = .entry ∨
    ∃ dst callee args, code = .call dst callee args ∧ frame.role = .callee dst
  scope : frame.scope = (before.arena.place (some before.globals)).1
  base : frame.base = (before.arena.place (some before.globals)).1
  arena : after.arena = (before.arena.place (some before.globals)).2

theorem goes_of_stands (stands : Stands before.coroutine? id depth frame) :
    before.Goes after id depth frame frame :=
  ⟨stands, rfl, rfl, rfl, .rests rfl⟩

/-- One coroutine changes, but its frames do not move. -/
theorem goes_update {other : CoroutineId} {change : Coroutine → Coroutine}
    (found : before.coroutine? other = some coroutine)
    (stayed : ∀ {depth frame}, (change coroutine).frames.at? depth = some frame →
      coroutine.frames.at? depth = some frame)
    (stands : Stands (before.updateCoroutine other change).coroutine? id depth frame) :
    before.Goes after id depth frame frame := by
  rcases (stands_update found).mp stands with ⟨rfl, located⟩ | ⟨-, stood⟩
  · exact goes_of_stands ⟨coroutine, found, stayed located⟩
  · exact goes_of_stands stood

/-- The active frame changes. -/
theorem goes_updateFrame {change : Frame → Frame} {active : Frame}
    (found : before.coroutine? before.current = some coroutine)
    (top : coroutine.active? = some active) (same : (change active).id = active.id)
    (role : (change active).role = active.role) (base : (change active).base = active.base)
    (shifts : before.Shifts after active (change active))
    (stands : Stands (before.updateFrame before.current change).coroutine? id depth frame) :
    ∃ stood, before.Goes after id depth stood frame := by
  rcases stands_updateFrame found stands with ⟨-, stood⟩ | ⟨rfl, rfl, stood, located, rfl⟩
  · exact ⟨frame, goes_of_stands stood⟩
  · cases Option.some.inj ((Coroutine.at?_top top).2.symm.trans located)
    exact ⟨active, ⟨coroutine, found, located⟩, same, role, base, shifts⟩

theorem stands_push {added : Coroutine} {entry : Frame} (new : added = .new entry)
    (stands : Stands (fun id => (before.coroutines.push added)[id.index]?) id depth frame) :
    frame = entry ∨ Stands before.coroutine? id depth frame := by
  obtain ⟨coroutine, found, located⟩ := stands
  simp only [Array.getElem?_push] at found
  split at found
  · cases found
    rw [new, Coroutine.new, Stack.at?_push] at located
    split at located
    · exact .inl (Option.some.inj located).symm
    · cases located
  · exact .inr ⟨coroutine, found, located⟩

/-- What one effect does to the frame at a place. -/
theorem stands_effect (sound : before.Sound) (effect : Effect code before after)
    (stands : Stands after.coroutine? id depth frame) :
    (∃ stood, before.Goes after id depth stood frame) ∨ before.Begins code after frame := by
  obtain ⟨running, found, -⟩ := sound.linked.current_running
  cases effect with
  | compute change same =>
      obtain ⟨coroutine, active, current, top, -⟩ := sound.active
      exact .inl (goes_updateFrame current top (same active).id (same active).role
        (same active).base (.rests (same active).scope) stands)
  | pushScope active =>
      obtain ⟨coroutine, current, top⟩ := Option.bind_eq_some_iff.mp active
      exact .inl (goes_updateFrame current top rfl rfl rfl (.pushes rfl rfl) stands)
  | @popScope active parent popping active' inner enclosed =>
      obtain ⟨coroutine, current, top⟩ := Option.bind_eq_some_iff.mp active'
      refine .inl (goes_updateFrame current top rfl rfl rfl ?_ stands)
      obtain ⟨trail, -⟩ := Housed.lineage sound.housed ⟨coroutine, current, (Coroutine.at?_top top).2⟩
      obtain ⟨rest, outward, onward⟩ := trail.onward enclosed
      obtain ⟨further, rfl⟩ := List.head?_eq_some_iff.mp onward.head?
      refine .leaves ?_ ?_
      · rw [outward]
        exact List.mem_cons_of_mem _ List.mem_cons_self
      · intro container left
        have first : container = active.scope := by
          rw [outward, List.takeWhile_cons] at left
          split at left
          · rw [List.takeWhile_cons_of_neg (by simp)] at left
            exact List.mem_singleton.mp left
          · cases left
        have released : (before.arena.releaseAll [active.scope]).isLive container = false :=
          Arena.not_live_releaseAll (List.mem_singleton.mpr first)
        exact released
  | call dst function registers active calling =>
      rcases (stands_update found).mp stands with ⟨rfl, located⟩ | ⟨-, stood⟩
      · rw [Coroutine.pushFrame, Stack.at?_push] at located
        split at located
        · cases located
          obtain ⟨callee, args, calls⟩ := calling
          exact .inr ⟨rfl, Nat.lt_succ_self _, .inr ⟨dst, callee, args, calls, rfl⟩, rfl, rfl, rfl⟩
        · exact .inl ⟨_, goes_of_stands ⟨running, found, located⟩⟩
      · exact .inl ⟨_, goes_of_stands stood⟩
  | create =>
      rcases stands_push rfl stands with rfl | stood
      · exact .inr ⟨rfl, Nat.lt_succ_self _, .inl rfl, rfl, rfl, rfl⟩
      · exact .inl ⟨_, goes_of_stands stood⟩
  | copy original single =>
      rcases stands_push rfl stands with rfl | stood
      · have entry := (sound.linked.sound original).single_entry single
        exact .inr ⟨rfl, Nat.lt_succ_self _, .inl entry, rfl, rfl, rfl⟩
      · exact .inl ⟨_, goes_of_stands stood⟩
  | «return» current | finish current =>
      refine .inl ⟨_, goes_update current (fun {depth frame} located => ?_) stands⟩
      rw [Coroutine.popFrame, Stack.at?_pop] at located
      split at located
      · exact located
      · cases located
  | enter dst out active entered =>
      exact .inl ⟨_, goes_update entered (fun located => located) stands⟩
  | yield current =>
      exact .inl ⟨_, goes_update current (fun located => located) stands⟩
  | pushHandler target dst current =>
      exact .inl ⟨_, goes_update current (fun located => located) stands⟩
  | popHandler current =>
      exact .inl ⟨_, goes_update current (fun located => located) stands⟩
  | abandon current =>
      exact .inl ⟨_, goes_update current (fun located => by cases located) stands⟩
  | @«catch» coroutine handler outer owner current installed owned inScope =>
      have resumed : Stands ((before.updateCoroutine before.current
          (·.caught handler outer)).updateFrame before.current
            ({ · with scope := handler.scope, pc := handler.target })).coroutine? id depth frame :=
        stands
      rw [coroutine?_caught current owned] at resumed
      refine .inl ?_
      rcases stands_replace.mp resumed with ⟨rfl, located⟩ | ⟨-, stood⟩
      · rw [Stack.at?_push] at located
        split at located
        · next top =>
            cases located
            have within := Stack.lt_of_at? owned
            have level : depth = handler.depth := by
              rw [top, Stack.size_below]
              omega
            refine ⟨owner, ⟨coroutine, current, level ▸ owned⟩, rfl, rfl, rfl, .leaves inScope ?_⟩
            intro container left
            exact Arena.not_live_releaseAll left
        · rw [Stack.at?_below] at located
          split at located
          · exact ⟨_, goes_of_stands ⟨coroutine, current, located⟩⟩
          · cases located
      · exact ⟨_, goes_of_stands stood⟩
  | _ => exact .inl ⟨_, goes_of_stands stands⟩

/-! Containers -/

theorem effect_globals (effect : Effect code before after) : after.globals = before.globals := by
  cases effect <;> rfl

theorem mem_containersOf_iff {container : ContainerId} (housed : before.Housed)
    (stands : Stands before.coroutine? id depth frame) :
    container ∈ before.containersOf frame ↔
      container ∈ before.arena.ancestry frame.scope ∧ container ≠ before.globals := by
  obtain ⟨blocks, dwells⟩ := Backtrack.Housed.dwells housed stands
  have live := Backtrack.Housed.live housed
  rw [containersOf_eq, dwells.dwelling live, dwells.ancestry live]
  constructor
  · intro member
    refine ⟨List.mem_append_left _ member, ?_⟩
    rintro rfl
    exact dwells.globals_not_mem member
  · rintro ⟨member, inner⟩
    exact (List.mem_append.mp member).resolve_right fun outer =>
      inner (List.mem_singleton.mp outer)

theorem live_containersOf {container : ContainerId} (sound : before.Sound)
    (stands : Stands before.coroutine? id depth frame) (member : container ∈ before.containersOf frame) :
    before.arena.isLive container = true :=
  (Housed.lineage sound.housed stands).2 container
    ((mem_containersOf_iff sound.housed stands).mp member).1

/-- No container belongs to two frames. -/
theorem containersOf_apart {container : ContainerId} {id' : CoroutineId} {depth' : Nat}
    {frame' : Frame} (housed : before.Housed) (stands : Stands before.coroutine? id depth frame)
    (stands' : Stands before.coroutine? id' depth' frame')
    (member : container ∈ before.containersOf frame)
    (member' : container ∈ before.containersOf frame') : id = id' ∧ depth = depth' := by
  obtain ⟨blocks, dwells⟩ := Backtrack.Housed.dwells housed stands
  obtain ⟨blocks', dwells'⟩ := Backtrack.Housed.dwells housed stands'
  have live := Backtrack.Housed.live housed
  rw [containersOf_eq, dwells.dwelling live] at member
  rw [containersOf_eq, dwells'.dwelling live] at member'
  exact Backtrack.Housed.apart housed stands stands' dwells dwells' member member'

/-- The chain of a frame that stays stays. -/
theorem effect_ancestry (housed : before.Housed) (housed' : after.Housed)
    (effect : Effect code before after) (stood' : Stands before.coroutine? id depth stood)
    (stands : Stands after.coroutine? id depth frame) (scope : frame.scope = stood.scope) :
    after.arena.ancestry frame.scope = before.arena.ancestry frame.scope := by
  have inside : frame.scope ∈ before.arena.ancestry stood.scope := scope ▸ Arena.mem_ancestry
  obtain ⟨rest, first⟩ := List.head?_eq_some_iff.mp (Housed.lineage housed stood').1.head?
  rw [ancestry_effect housed housed' effect stood' stands inside, scope, first,
    List.dropWhile_cons_of_neg (by simp)]

/-- The chain of a frame that goes on, and what of it is left. -/
theorem ancestry_shifts (sound : before.Sound) (effect : Effect code before after)
    (stood' : Stands before.coroutine? id depth stood) (stands : Stands after.coroutine? id depth frame)
    (shifts : before.Shifts after stood frame) :
    (∃ left, before.arena.ancestry stood.scope = left ++ after.arena.ancestry frame.scope ∧
      ∀ container ∈ left, after.arena.isLive container = false) ∨
    (after.arena.ancestry frame.scope = frame.scope :: before.arena.ancestry stood.scope ∧
      before.arena.isLive frame.scope = false) := by
  have sound' := sound.effect effect
  cases shifts with
  | rests scope =>
      refine .inl ⟨[], ?_, nofun⟩
      rw [List.nil_append, effect_ancestry sound.housed sound'.housed effect stood' stands scope,
        scope]
  | pushes scope arena =>
      refine .inr ⟨ancestry_pushScope sound.housed sound'.housed effect stood' stands arena scope, ?_⟩
      rw [scope, Arena.isLive, Arena.place_fresh (Housed.sound sound.housed)]
      rfl
  | leaves inside freed =>
      refine .inl ⟨_, ?_, freed⟩
      rw [ancestry_effect sound.housed sound'.housed effect stood' stands inside,
        List.takeWhile_append_dropWhile]

/-- A container of a frame that goes on is freed or stays with the frame. -/
theorem containersOf_effect {container : ContainerId} (sound : before.Sound)
    (effect : Effect code before after) (stood' : Stands before.coroutine? id depth stood)
    (stands : Stands after.coroutine? id depth frame) (shifts : before.Shifts after stood frame)
    (member : container ∈ before.containersOf stood) :
    after.arena.isLive container = false ∨ container ∈ after.containersOf frame := by
  have sound' := sound.effect effect
  rw [mem_containersOf_iff sound.housed stood'] at member
  rw [mem_containersOf_iff sound'.housed stands, effect_globals effect]
  rcases ancestry_shifts sound effect stood' stands shifts with ⟨left, parts, gone⟩ | ⟨parts, -⟩
  · rw [parts] at member
    rcases List.mem_append.mp member.1 with released | kept
    · exact .inl (gone container released)
    · exact .inr ⟨kept, member.2⟩
  · rw [parts]
    exact .inr ⟨List.mem_cons_of_mem _ member.1, member.2⟩

/-- A container of a frame belonged to it before, or is new. -/
theorem containersOf_origin {container : ContainerId} (sound : before.Sound)
    (effect : Effect code before after) (stands : Stands after.coroutine? id depth frame)
    (member : container ∈ after.containersOf frame) :
    before.arena.isLive container = false ∨
      ∃ stood, Stands before.coroutine? id depth stood ∧ container ∈ before.containersOf stood := by
  have sound' := sound.effect effect
  rw [mem_containersOf_iff sound'.housed stands, effect_globals effect] at member
  rcases stands_effect sound effect stands with ⟨stood, goes⟩ | begins
  · have stood' := goes.earlier
    rcases ancestry_shifts sound effect stood' stands goes.shifts with ⟨left, parts, -⟩ | ⟨parts, fresh⟩
    · refine .inr ⟨stood, stood', (mem_containersOf_iff sound.housed stood').mpr ⟨?_, member.2⟩⟩
      rw [parts]
      exact List.mem_append_right _ member.1
    · rw [parts] at member
      rcases List.mem_cons.mp member.1 with rfl | earlier
      · exact .inl fresh
      · exact .inr ⟨stood, stood', (mem_containersOf_iff sound.housed stood').mpr
          ⟨earlier, member.2⟩⟩
  · left
    have placed := Housed.sound sound.housed
    have enclosed : after.arena.parent? frame.scope = some before.globals := by
      rw [begins.arena, begins.scope]
      exact Arena.parent?_place_self placed
    obtain ⟨trail, -⟩ := Housed.lineage sound'.housed stands
    obtain ⟨rest, chain, onward⟩ := trail.onward enclosed
    have outermost : after.arena.parent? before.globals = none := by
      rw [← effect_globals effect]
      exact Backtrack.Housed.top sound'.housed
    rw [onward.unique (.last outermost)] at chain
    rw [chain] at member
    have first : container = frame.scope :=
      (List.mem_cons.mp member.1).resolve_right fun last =>
        member.2 (List.mem_singleton.mp last)
    rw [first, begins.scope, Arena.isLive, Arena.place_fresh placed]
    rfl

end Machine

end Backtrack
