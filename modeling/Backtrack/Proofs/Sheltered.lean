import Backtrack.Proofs.Unwinding

/-!
When the container of a handler is gone. A handler is pushed in a container on the chain of its
frame, and the only instruction that takes the container off the chain is a `popScope` of that very
frame while the handler is installed: a catch cuts the chain only above the containers of the
handlers further out.
-/

namespace Backtrack

section Lists

variable {α : Type} [DecidableEq α] {before after chain : List α} {item other : α}

theorem dropWhile_append (absent : item ∉ before) :
    (before ++ item :: after).dropWhile (· ≠ item) = item :: after := by
  rw [List.dropWhile_append_of_pos, List.dropWhile_cons_of_neg (by simp)]
  intro earlier member
  refine decide_eq_true ?_
  rintro rfl
  exact absent member

/-- The part of a chain from a later item on is the same from an earlier one. -/
theorem dropWhile_dropWhile (distinct : chain.Nodup) (member : other ∈ chain)
    (later : item ∈ chain.dropWhile (· ≠ other)) :
    (chain.dropWhile (· ≠ other)).dropWhile (· ≠ item) = chain.dropWhile (· ≠ item) := by
  obtain ⟨front, rest, rfl⟩ := List.append_of_mem member
  obtain ⟨-, -, apart⟩ := List.nodup_append.mp distinct
  rw [dropWhile_append fun again => apart other again other (by simp) rfl] at later ⊢
  rw [List.dropWhile_append_of_pos]
  intro earlier gone
  exact decide_eq_true (apart earlier gone item later)

end Lists

/-! Chains of containers -/

section Chains

variable {chain : List ContainerId} {front kept : List Handler} {handler : Handler}
  {scope : ContainerId}

/-- The container of a handler is on the chain of its frame, and stays on it when a handler pushed
later catches. -/
structure Covers (chain : List ContainerId) (front : List Handler) (handler : Handler) : Prop where
  inside : handler.scope ∈ chain
  outside {inner : Handler} (pushed : inner ∈ front) (level : inner.depth = handler.depth)
    (reached : inner.scope ∈ chain) : handler.scope ∈ chain.dropWhile (· ≠ inner.scope)

namespace Covers

/-- The frame leaves its innermost containers, but not the one of the handler. -/
theorem drop (covers : Covers chain front handler) (distinct : chain.Nodup) (member : scope ∈ chain)
    (stays : handler.scope ∈ chain.dropWhile (· ≠ scope)) :
    Covers (chain.dropWhile (· ≠ scope)) front handler where
  inside := stays
  outside pushed level reached := by
    rw [dropWhile_dropWhile distinct member reached]
    exact covers.outside pushed level ((List.dropWhile_sublist _).subset reached)

theorem fewer (covers : Covers chain front handler) (subset : kept ⊆ front) :
    Covers chain kept handler :=
  ⟨covers.inside, fun pushed => covers.outside (subset pushed)⟩

/-- The frame enters a container. -/
theorem push (covers : Covers chain front handler) : Covers (scope :: chain) front handler where
  inside := List.mem_cons_of_mem _ covers.inside
  outside {inner} pushed level reached := by
    by_cases same : scope = inner.scope
    · rw [List.dropWhile_cons_of_neg (by simp [same])]
      exact List.mem_cons_of_mem _ covers.inside
    · rw [List.dropWhile_cons_of_pos (by simpa using same)]
      refine covers.outside pushed level ((List.mem_cons.mp reached).resolve_left ?_)
      exact fun equal => same equal.symm

/-- A handler is pushed in the innermost container. -/
theorem pushHandler {newer : Handler} (covers : Covers chain front handler)
    (innermost : newer.depth = handler.depth → chain.head? = some newer.scope) :
    Covers chain (newer :: front) handler where
  inside := covers.inside
  outside pushed level reached := by
    rcases List.mem_cons.mp pushed with rfl | earlier
    · obtain ⟨rest, rfl⟩ := List.head?_eq_some_iff.mp (innermost level)
      rw [List.dropWhile_cons_of_neg (by simp)]
      exact covers.inside
    · exact covers.outside earlier level reached

end Covers

end Chains

namespace Arena

theorem Trims.parent? {small big : Arena} {id : ContainerId} (trims : small.Trims big)
    (live : small.isLive id = true) : small.parent? id = big.parent? id := by
  rw [Arena.parent?, Arena.parent?, trims id live]

end Arena

namespace Machine

variable {before after : Machine} {code : Instruction}

/-- A container that lives on keeps its parent. -/
theorem effect_parents {container : ContainerId} (housed : before.Housed)
    (effect : Effect code before after) (live : before.arena.isLive container = true)
    (live' : after.arena.isLive container = true) :
    after.arena.parent? container = before.arena.parent? container := by
  cases effect with
  | pushScope | call | create | copy => exact Arena.parent?_place (Housed.sound housed) live
  | bindVar => exact congrFun Arena.putVar_alike.parents container
  | bindCandidates => exact congrFun Arena.putCandidates_alike.parents container
  | rollbackRegion => exact congrFun Arena.restore_alike.parents container
  | undoAll => exact congrFun Arena.undo_alike.parents container
  | popScope => exact Arena.release_trims.parent? live'
  | «return» | finish => exact Arena.releaseAll_trims.parent? live'
  | abandon =>
      refine (Arena.vacateAll_trims.parent? live').trans ?_
      exact congrFun Arena.undo_alike.parents container
  | «catch» =>
      refine ((Arena.releaseAll_trims.trans Arena.vacateAll_trims).parent? live').trans ?_
      exact congrFun Arena.undo_alike.parents container
  | _ => rfl

variable {machine : Machine} {id id' : CoroutineId} {depth depth' : Nat} {frame frame' : Frame}

/-- The chain of a frame is a trail of live containers. -/
theorem Housed.lineage (housed : machine.Housed) (stands : Stands machine.coroutine? id depth frame) :
    Trail machine.arena.parent? frame.scope (machine.arena.ancestry frame.scope) ∧
      ∀ container ∈ machine.arena.ancestry frame.scope, machine.arena.isLive container = true := by
  obtain ⟨blocks, dwells⟩ := Backtrack.Housed.dwells housed stands
  rw [dwells.ancestry (Backtrack.Housed.live housed)]
  refine ⟨dwells.trail, fun container member => ?_⟩
  rcases List.mem_append.mp member with inner | outer
  · exact dwells.live inner
  · exact List.mem_singleton.mp outer ▸ Backtrack.Housed.live housed

theorem Sound.live_of_inScope {target : ContainerId} (sound : machine.Sound)
    (active : machine.active? = some frame)
    (inScope : target ∈ machine.arena.ancestry frame.scope) : machine.arena.isLive target = true := by
  obtain ⟨coroutine, found, top⟩ := Option.bind_eq_some_iff.mp active
  have stands : Stands machine.coroutine? machine.current (coroutine.depth - 1) frame :=
    ⟨coroutine, found, (Coroutine.at?_top top).2⟩
  exact (Housed.lineage sound.housed stands).2 target inScope

theorem Sound.not_stale {target : ContainerId} (sound : before.Sound)
    (soFar : before.Evolves code machine) (active : machine.active? = some frame)
    (inScope : target ∈ machine.arena.ancestry frame.scope)
    (gone : ¬ machine.arena.isLive target = true) : False :=
  gone ((sound.evolves soFar).live_of_inScope active inScope)

theorem Sound.not_orphaned {coroutine : Coroutine} (sound : before.Sound)
    (soFar : before.Evolves code machine)
    (current : machine.coroutine? machine.current = some coroutine)
    (inner : machine.current ≠ .root) (alone : coroutine.caller = none) : False := by
  obtain ⟨link, waits⟩ := (sound.evolves soFar).waiting current inner
  rw [alone] at waits
  cases waits

/-- A frame that moves along its chain leaves the rest of the chain as it is. -/
theorem ancestry_effect (housed : before.Housed) (housed' : after.Housed)
    (effect : Effect code before after) (stands : Stands before.coroutine? id depth frame)
    (stands' : Stands after.coroutine? id' depth' frame')
    (inside : frame'.scope ∈ before.arena.ancestry frame.scope) :
    after.arena.ancestry frame'.scope =
      (before.arena.ancestry frame.scope).dropWhile (· ≠ frame'.scope) := by
  obtain ⟨trail, live⟩ := Housed.lineage housed stands
  obtain ⟨trail', live'⟩ := Housed.lineage housed' stands'
  obtain ⟨front, rest, parts⟩ := List.append_of_mem inside
  have distinct := trail.nodup
  rw [parts] at trail live distinct ⊢
  have apart := (List.nodup_append.mp distinct).2.2
  rw [dropWhile_append fun again => apart _ again _ (by simp) rfl]
  refine trail.drop.agree trail' fun container member member' => ?_
  exact effect_parents housed effect (live _ (List.mem_append_right _ member)) (live' _ member')

end Machine

/-! Handlers that stay -/

/-- A coroutine has at most lost handlers, and the frames of the others have not moved. -/
structure Coroutine.Settled (before after : Coroutine) : Prop where
  handlers : after.handlers <:+ before.handlers
  frames {handler : Handler} {owner' : Frame} (installed : handler ∈ after.handlers)
    (owned' : after.frames.at? handler.depth = some owner') :
    ∃ owner, before.frames.at? handler.depth = some owner ∧ owner'.scope = owner.scope

namespace Coroutine

variable {coroutine : Coroutine} {frame : Frame} {change : Frame → Frame}

theorem Settled.refl : coroutine.Settled coroutine :=
  ⟨List.suffix_refl _, fun _ owned => ⟨_, owned, rfl⟩⟩

theorem Settled.updateActive (scope : ∀ frame, (change frame).scope = frame.scope) :
    coroutine.Settled (coroutine.updateActive change) := by
  refine ⟨List.suffix_refl _, fun _ owned => ?_⟩
  rcases at?_updateActive owned with ⟨-, stood⟩ | ⟨-, frame, stood, rfl⟩
  · exact ⟨_, stood, rfl⟩
  · exact ⟨frame, stood, scope frame⟩

theorem Settled.pushFrame (owned : ∀ handler ∈ coroutine.handlers, handler.depth < coroutine.depth) :
    coroutine.Settled (coroutine.pushFrame frame) := by
  refine ⟨List.suffix_refl _, fun installed stands => ?_⟩
  have lower : _ ≠ coroutine.frames.size := Nat.ne_of_lt (owned _ installed)
  rw [Coroutine.pushFrame, Stack.at?_push, if_neg lower] at stands
  exact ⟨_, stands, rfl⟩

theorem Settled.popFrame (sound : coroutine.Sound) : coroutine.Settled coroutine.popFrame := by
  refine ⟨sound.handlers_popFrame ▸ List.dropWhile_suffix _, fun _ stands => ?_⟩
  rw [Coroutine.popFrame, Stack.at?_pop] at stands
  split at stands
  · exact ⟨_, stands, rfl⟩
  · cases stands

theorem Settled.dead : coroutine.Settled .dead :=
  ⟨List.nil_suffix, nofun⟩

end Coroutine

namespace Machine

variable {left : CoroutineId → Handler → List Handler → Prop} {before after : Machine}
  {code : Instruction} {coroutine : Coroutine}

/-- One coroutine changes. -/
theorem settled_update {change : Coroutine → Coroutine} {id other : CoroutineId} {later : Coroutine}
    (found : before.coroutine? id = some coroutine) (settled : coroutine.Settled (change coroutine))
    (found' : (before.updateCoroutine id change).coroutine? other = some later) :
    ∃ earlier, before.coroutine? other = some earlier ∧ earlier.Settled later := by
  rw [coroutine?_replace found] at found'
  by_cases same : other = id
  · cases same
    cases found'.symm.trans replace_same
    exact ⟨coroutine, found, settled⟩
  · exact ⟨later, (replace_other same).symm.trans found', .refl⟩

/-- A coroutine joins that has no handler. -/
theorem settled_push {entry : Frame} {other : CoroutineId} {later : Coroutine}
    (found' : { before with
      coroutines := before.coroutines.push (.new entry) }.coroutine? other = some later) :
    later.handlers = [] ∨
      ∃ earlier, before.coroutine? other = some earlier ∧ earlier.Settled later := by
  rw [coroutine?_push] at found'
  by_cases same : other = ⟨before.coroutines.size⟩
  · cases same
    cases found'.symm.trans replace_same
    exact .inl rfl
  · exact .inr ⟨later, (replace_other same).symm.trans found', .refl⟩

/-- The handlers whose containers their frames may have left are among those given. -/
structure Sheltered (left : CoroutineId → Handler → List Handler → Prop) (machine : Machine) :
    Prop where
  covered {id : CoroutineId} {coroutine : Coroutine} {front outer : List Handler} {handler : Handler}
    {owner : Frame} (found : machine.coroutine? id = some coroutine)
    (installed : coroutine.handlers = front ++ handler :: outer)
    (owned : coroutine.frames.at? handler.depth = some owner) :
    left id handler outer ∨ Covers (machine.arena.ancestry owner.scope) front handler

/-- A frame that has moved along its chain still covers the handlers on the rest of it. -/
theorem covers_effect {id : CoroutineId} {depth depth' : Nat} {owner owner' : Frame}
    {newer front : List Handler} {handler : Handler} (housed : before.Housed)
    (housed' : after.Housed) (effect : Effect code before after)
    (stands : Stands before.coroutine? id depth owner)
    (stands' : Stands after.coroutine? id depth' owner')
    (covers : Covers (before.arena.ancestry owner.scope) (newer ++ front) handler)
    (inside : owner'.scope ∈ before.arena.ancestry owner.scope)
    (stays : handler.scope ∈ (before.arena.ancestry owner.scope).dropWhile (· ≠ owner'.scope)) :
    Covers (after.arena.ancestry owner'.scope) front handler := by
  rw [ancestry_effect housed housed' effect stands stands' inside]
  have distinct := (Housed.lineage housed stands).1.nodup
  exact (covers.drop distinct inside stays).fewer (List.subset_append_right _ _)

/-- A frame that has not moved covers what it covered. -/
theorem covers_settled {id : CoroutineId} {depth depth' : Nat} {owner owner' : Frame}
    {newer front : List Handler} {handler : Handler} (housed : before.Housed)
    (housed' : after.Housed) (effect : Effect code before after)
    (stands : Stands before.coroutine? id depth owner)
    (stands' : Stands after.coroutine? id depth' owner')
    (covers : Covers (before.arena.ancestry owner.scope) (newer ++ front) handler)
    (scope : owner'.scope = owner.scope) :
    Covers (after.arena.ancestry owner'.scope) front handler := by
  have trail := (Housed.lineage housed stands).1
  refine covers_effect housed housed' effect stands stands' covers (scope ▸ trail.mem_start) ?_
  obtain ⟨rest, parts⟩ := List.head?_eq_some_iff.mp trail.head?
  rw [scope, parts, List.dropWhile_cons_of_neg (by simp), ← parts]
  exact covers.inside

theorem Sheltered.settled (sheltered : before.Sheltered left) (housed : before.Housed)
    (housed' : after.Housed) (effect : Effect code before after)
    (settled : ∀ {id later}, after.coroutine? id = some later → later.handlers = [] ∨
      ∃ earlier, before.coroutine? id = some earlier ∧ earlier.Settled later) :
    after.Sheltered left := by
  refine ⟨fun {id later front outer handler owner'} found' installed owned' => ?_⟩
  rcases settled found' with empty | ⟨earlier, found, settled⟩
  · rw [empty] at installed
    simp at installed
  · obtain ⟨newer, parts⟩ := settled.handlers
    rw [installed, ← List.append_assoc] at parts
    obtain ⟨owner, owned, scope⟩ := settled.frames (installed ▸ by simp) owned'
    refine (sheltered.covered found parts.symm owned).imp_right fun covers => ?_
    exact covers_settled housed housed' effect ⟨earlier, found, owned⟩ ⟨later, found', owned'⟩
      covers scope

/-- Only the current coroutine changes. -/
theorem Sheltered.changed {changed : Coroutine} (sheltered : before.Sheltered left)
    (housed : before.Housed) (housed' : after.Housed) (effect : Effect code before after)
    (coroutines : after.coroutine? = replace before.coroutine? before.current changed)
    (own : ∀ {front outer handler owner'}, changed.handlers = front ++ handler :: outer →
      changed.frames.at? handler.depth = some owner' →
      Stands after.coroutine? before.current handler.depth owner' →
      left before.current handler outer ∨
        Covers (after.arena.ancestry owner'.scope) front handler) :
    after.Sheltered left := by
  refine ⟨fun {id later front outer handler owner'} found' installed owned' => ?_⟩
  have there := found'
  rw [coroutines] at there
  by_cases same : id = before.current
  · cases same
    cases there.symm.trans replace_same
    exact own installed owned' ⟨changed, found', owned'⟩
  · have kept := (replace_other same).symm.trans there
    refine (sheltered.covered kept installed owned').imp_right fun covers => ?_
    rw [← List.nil_append front] at covers
    exact covers_settled housed housed' effect ⟨later, kept, owned'⟩ ⟨later, found', owned'⟩
      covers rfl

/-- The active frame moves. -/
theorem Sheltered.moved {frame : Frame} {change : Frame → Frame} (sheltered : before.Sheltered left)
    (housed : before.Housed) (housed' : after.Housed) (effect : Effect code before after)
    (found : before.coroutine? before.current = some coroutine)
    (active : coroutine.active? = some frame)
    (coroutines : after.coroutine? =
      replace before.coroutine? before.current (coroutine.updateActive change))
    (moved : ∀ {front handler outer}, coroutine.handlers = front ++ handler :: outer →
      handler.depth = coroutine.depth - 1 →
      Stands after.coroutine? before.current handler.depth (change frame) →
      Covers (before.arena.ancestry frame.scope) front handler →
      left before.current handler outer ∨
        Covers (after.arena.ancestry (change frame).scope) front handler) :
    after.Sheltered left := by
  refine sheltered.changed housed housed' effect coroutines
    fun {front outer handler owner'} installed owned' stands => ?_
  rcases Coroutine.at?_updateActive owned' with ⟨-, stood⟩ | ⟨level, owner, stood, rfl⟩
  · refine (sheltered.covered found installed stood).imp_right fun covers => ?_
    rw [← List.nil_append front] at covers
    exact covers_settled housed housed' effect ⟨coroutine, found, stood⟩ stands covers rfl
  · have deepest : handler.depth = coroutine.depth - 1 := by omega
    have top := (Coroutine.at?_top active).2
    rw [← deepest] at top
    cases Option.some.inj (stood.symm.trans top)
    rcases sheltered.covered found installed stood with gone | covers
    · exact .inl gone
    · exact moved installed deepest stands covers

/-- A new container joins the chain of the active frame. -/
theorem ancestry_pushScope {frame : Frame} {id : CoroutineId} {depth depth' : Nat}
    {frame' : Frame} (housed : before.Housed) (housed' : after.Housed)
    (effect : Effect code before after) (stands : Stands before.coroutine? id depth frame)
    (stands' : Stands after.coroutine? id depth' frame')
    (arena : after.arena = (before.arena.place (some frame.scope)).2)
    (scope : frame'.scope = (before.arena.place (some frame.scope)).1) :
    after.arena.ancestry frame'.scope = frame'.scope :: before.arena.ancestry frame.scope := by
  obtain ⟨trail, live⟩ := Housed.lineage housed stands
  obtain ⟨trail', live'⟩ := Housed.lineage housed' stands'
  have enclosed : after.arena.parent? frame'.scope = some frame.scope := by
    rw [arena, scope]
    exact Arena.parent?_place_self (Housed.sound housed)
  generalize after.arena.ancestry frame'.scope = chain at trail' live' ⊢
  obtain ⟨rest, rfl, onward⟩ := trail'.onward enclosed
  refine congrArg _ (trail.agree onward fun container member member' => ?_)
  exact effect_parents housed effect (live _ member) (live' _ (List.mem_cons_of_mem _ member'))

/-- A handler is pushed in the innermost container of the active frame. -/
theorem Sheltered.pushHandler {frame : Frame} {newer : Handler} {changed : Coroutine}
    (sheltered : before.Sheltered left) (housed : before.Housed) (housed' : after.Housed)
    (effect : Effect code before after)
    (found : before.coroutine? before.current = some coroutine)
    (active : coroutine.active? = some frame)
    (coroutines : after.coroutine? = replace before.coroutine? before.current changed)
    (changes : changed = { coroutine with handlers := newer :: coroutine.handlers })
    (innermost : newer.depth = coroutine.depth - 1) (scope : newer.scope = frame.scope) :
    after.Sheltered left := by
  obtain ⟨-, top⟩ := Coroutine.at?_top active
  refine sheltered.changed housed housed' effect coroutines
    fun {front outer handler owner'} installed owned' stands => ?_
  rw [changes] at installed owned'
  have stood : Stands before.coroutine? before.current handler.depth owner' :=
    ⟨coroutine, found, owned'⟩
  have first (level : newer.depth = handler.depth) :
      (before.arena.ancestry owner'.scope).head? = some newer.scope := by
    rw [← level, innermost] at owned'
    cases Option.some.inj (top.symm.trans owned')
    rw [scope]
    exact (Housed.lineage housed stood).1.head?
  have covered : left before.current handler outer ∨
      Covers (before.arena.ancestry owner'.scope) front handler := by
    cases front with
    | nil =>
        obtain ⟨rfl, rfl⟩ := List.cons.inj installed
        exact .inr ⟨List.mem_of_head? (first rfl), nofun⟩
    | cons latest rest =>
        obtain ⟨rfl, earlier⟩ := List.cons.inj installed
        exact (sheltered.covered found earlier owned').imp_right fun covers =>
          covers.pushHandler first
  refine covered.imp_right fun covers => ?_
  rw [← List.nil_append front] at covers
  exact covers_settled housed housed' effect stood stands covers rfl

/-- A handler catches: its frame goes back to the container of the handler. -/
theorem Sheltered.caught {cause : Handler} {inner : List Handler} {frame : Frame}
    (sheltered : before.Sheltered left) (housed : before.Housed) (housed' : after.Housed)
    (effect : Effect code before after)
    (found : before.coroutine? before.current = some coroutine)
    (installed : coroutine.handlers = cause :: inner)
    (owned : coroutine.frames.at? cause.depth = some frame)
    (inScope : cause.scope ∈ before.arena.ancestry frame.scope)
    (coroutines : after.coroutine? = replace before.coroutine? before.current
      ((coroutine.caught cause inner).updateActive
        ({ · with scope := cause.scope, pc := cause.target }))) :
    after.Sheltered left := by
  refine sheltered.changed housed housed' effect coroutines
    fun {front outer handler owner'} parts owned' stands => ?_
  have whole : coroutine.handlers = ([cause] ++ front) ++ handler :: outer := by
    rw [installed]
    exact congrArg (cause :: ·) parts
  have covered {owner : Frame} (stood : coroutine.frames.at? handler.depth = some owner) :=
    sheltered.covered found whole stood
  have kept {owner : Frame}
      (stood : (coroutine.caught cause inner).frames.at? handler.depth = some owner) :
      coroutine.frames.at? handler.depth = some owner := by
    rw [Coroutine.caught, Stack.at?_below] at stood
    split at stood
    · exact stood
    · cases stood
  rcases Coroutine.at?_updateActive owned' with ⟨-, stood⟩ | ⟨level, owner, stood, rfl⟩
  · refine (covered (kept stood)).imp_right fun covers => ?_
    exact covers_settled housed housed' effect ⟨coroutine, found, kept stood⟩ stands covers rfl
  · have within := Stack.lt_of_at? owned
    rw [Coroutine.depth, Coroutine.caught, Stack.size_below] at level
    have same : handler.depth = cause.depth := by omega
    cases Option.some.inj ((same ▸ kept stood).symm.trans owned)
    refine (covered (kept stood)).imp_right fun covers => ?_
    exact covers_effect housed housed' effect ⟨coroutine, found, kept stood⟩ stands covers inScope
      (covers.outside (by simp) same.symm inScope)

/-- What an instruction does to a machine. Only a frame that leaves a container can leave a handler
behind. -/
theorem sheltered_effect (linked : Linked before.coroutine? before.current) (housed : before.Housed)
    (sheltered : before.Sheltered left) (effect : Effect code before after)
    (leaves : code = .popScope → ∀ {coroutine frame front handler outer},
      before.coroutine? before.current = some coroutine → coroutine.active? = some frame →
      coroutine.handlers = front ++ handler :: outer → handler.depth = coroutine.depth - 1 →
      handler.scope = frame.scope → left before.current handler outer) :
    after.Sheltered left := by
  have housed' := housed_effect linked housed effect
  have settled := @Sheltered.settled left before after code sheltered housed housed' effect
  obtain ⟨running, found, -⟩ := linked.current_running
  cases effect with
  | count | intern | openRegion | commitRegion | bindVar | bindCandidates | rollbackRegion
  | undoAll => exact settled fun found => .inr ⟨_, found, .refl⟩
  | compute change same =>
      exact settled fun found' => .inr (settled_update found
        (.updateActive fun frame => (same frame).scope) found')
  | @pushScope frame active pushing =>
      obtain ⟨coroutine, current, top⟩ := Option.bind_eq_some_iff.mp active
      have effect : Effect code before _ := .pushScope active pushing
      refine sheltered.moved housed housed' effect current top (coroutine?_replace current)
        fun installed level stands covers => .inr ?_
      rw [ancestry_pushScope housed housed' effect ⟨coroutine, current, (Coroutine.at?_top top).2⟩
        stands rfl rfl]
      exact covers.push
  | @popScope frame parent popping active inner enclosed =>
      obtain ⟨coroutine, current, top⟩ := Option.bind_eq_some_iff.mp active
      have effect : Effect code before _ := .popScope popping active inner enclosed
      refine sheltered.moved housed housed' effect current top (coroutine?_replace current)
        fun {front handler outer} installed level stands covers => ?_
      by_cases same : handler.scope = frame.scope
      · exact .inl (leaves popping current top installed level same)
      · have stood : Stands before.coroutine? before.current (coroutine.depth - 1) frame :=
          ⟨coroutine, current, (Coroutine.at?_top top).2⟩
        obtain ⟨trail, -⟩ := Housed.lineage housed stood
        rw [← List.nil_append front] at covers
        have inside := covers.inside
        obtain ⟨rest, outward, onward⟩ := trail.onward enclosed
        obtain ⟨further, whole⟩ := List.head?_eq_some_iff.mp onward.head?
        rw [whole] at outward
        have distinct := trail.nodup
        rw [outward] at inside distinct
        have absent : parent ∉ [frame.scope] := fun again =>
          (List.nodup_cons.mp distinct).1 (List.mem_singleton.mp again ▸ List.mem_cons_self)
        refine .inr (covers_effect housed housed' effect stood stands covers ?_ ?_)
        · rw [outward]
          exact List.mem_cons_of_mem _ List.mem_cons_self
        · rw [outward, ← List.singleton_append, dropWhile_append absent]
          exact (List.mem_cons.mp inside).resolve_left same
  | call dst function registers active =>
      exact settled fun found' => .inr (settled_update found
        (.pushFrame fun handler member => (linked.sound found).owned member) found')
  | «return» current | finish current =>
      exact settled fun found' =>
        .inr (settled_update current (.popFrame (linked.sound current)) found')
  | create | copy => exact settled fun found => settled_push found
  | enter dst out active found =>
      exact settled fun found' => .inr (settled_update found
        ⟨List.suffix_refl _, fun _ stands => ⟨_, stands, rfl⟩⟩ found')
  | yield current =>
      exact settled fun found' => .inr (settled_update current
        ⟨List.suffix_refl _, fun _ stands => ⟨_, stands, rfl⟩⟩ found')
  | @pushHandler coroutine frame target dst current active guarding =>
      have effect : Effect code before _ :=
        .pushHandler target dst current active guarding
      exact sheltered.pushHandler housed housed' effect current active (coroutine?_replace current)
        rfl rfl rfl
  | popHandler current installed =>
      exact settled fun found' => .inr (settled_update current
        ⟨installed ▸ List.suffix_cons _ _, fun _ stands => ⟨_, stands, rfl⟩⟩ found')
  | abandon current =>
      exact settled fun found' => .inr (settled_update current .dead found')
  | @«catch» coroutine handler outer owner current installed owned inScope raising =>
      have effect : Effect code before _ := .catch current installed owned inScope raising
      have caught : ((before.updateCoroutine before.current (·.caught handler outer)).updateFrame
          before.current ({ · with scope := handler.scope, pc := handler.target })).coroutine? =
          replace before.coroutine? before.current ((coroutine.caught handler outer).updateActive
            ({ · with scope := handler.scope, pc := handler.target })) := by
        rw [updateFrame, updateCoroutine_twice, coroutine?_replace current]
      exact sheltered.caught housed housed' effect current installed owned inScope caught

end Machine

end Backtrack
