import Backtrack.Proofs.Resumption

/-!
Coroutines that were never entered. Such a coroutine has one frame, which stands before its first
instruction, and the container of that frame holds nothing: only a coroutine that runs writes into
its containers, and one that has run is not fresh again.
-/

namespace Backtrack

/-- A frame has not moved, and has an empty container under the global one. -/
structure Arena.Untouched (arena : Arena) (globals : ContainerId) (entry : Frame) : Prop where
  pc : entry.pc = 0
  scope : entry.scope = entry.base
  empty : arena.get? entry.base = some (.new (some globals))

namespace Machine

variable {program : Program} {args : List Value} {settings : Settings} {code : Instruction}
  {before after origin initial machine : Machine} {id other : CoroutineId}
  {coroutine : Coroutine} {entry : Frame}

/-- A coroutine has been entered at some time, or is the root. -/
def Begun (machine : Machine) (id : CoroutineId) : Prop :=
  ∃ coroutine, machine.coroutine? id = some coroutine ∧ coroutine.started = true

/-- Every coroutine that is fresh is as it was created. -/
def Unstarted (machine : Machine) : Prop :=
  ∀ id coroutine, machine.coroutine? id = some coroutine → coroutine.state = .fresh →
    ∃ entry, coroutine = .new entry ∧ machine.arena.Untouched machine.globals entry

theorem Unstarted.untouched (unstarted : machine.Unstarted)
    (found : machine.coroutine? id = some (.new entry)) :
    machine.arena.Untouched machine.globals entry := by
  obtain ⟨first, same, untouched⟩ := unstarted id _ found rfl
  have items : [entry] = [first] := congrArg (·.frames.items) same
  cases items
  exact untouched

/-- The container of a frame that has not moved is its own. -/
theorem Sound.owns_base (sound : machine.Sound) (found : machine.coroutine? id = some (.new entry))
    (untouched : machine.arena.Untouched machine.globals entry) :
    entry.base ∈ machine.arena.ancestry entry.scope ∧ entry.base ∈ machine.containersOf entry := by
  have stands : Stands machine.coroutine? id 0 entry := ⟨_, found, rfl⟩
  have inScope : entry.base ∈ machine.arena.ancestry entry.scope := by
    rw [untouched.scope]
    exact Arena.mem_ancestry
  refine ⟨inScope, (mem_containersOf_iff sound.housed stands).mpr ⟨inScope, fun same => ?_⟩⟩
  have top := Backtrack.Housed.top sound.housed
  rw [← same, Arena.parent?, untouched.empty] at top
  cases top

/-! ### What has begun -/

theorem Begun.not_fresh (begun : machine.Begun id) (found : machine.coroutine? id = some coroutine) :
    coroutine.state ≠ .fresh := by
  obtain ⟨again, found', started⟩ := begun
  cases Option.some.inj (found.symm.trans found')
  rw [Ne, Coroutine.state_eq_fresh_iff, started]
  nofun

theorem begun_of_not_fresh (found : machine.coroutine? id = some coroutine)
    (known : coroutine.state ≠ .fresh) : machine.Begun id := by
  rw [Ne, Coroutine.state_eq_fresh_iff, Bool.not_eq_false] at known
  exact ⟨coroutine, found, known⟩

theorem Sound.begun (sound : machine.Sound) : machine.Begun machine.current := by
  obtain ⟨coroutine, found, runs⟩ := sound.linked.current_running
  exact ⟨coroutine, found, (Coroutine.state_eq_running_iff.mp runs).1⟩

theorem Begun.update {change : Coroutine → Coroutine} (begun : machine.Begun id)
    (kept : ∀ coroutine : Coroutine, coroutine.started = true → (change coroutine).started = true) :
    (machine.updateCoroutine other change).Begun id := by
  obtain ⟨coroutine, found, started⟩ := begun
  unfold Begun
  rw [coroutine?_updateCoroutine]
  split
  · exact ⟨_, by rw [found]; rfl, kept coroutine started⟩
  · exact ⟨coroutine, found, started⟩

theorem effect_begun (effect : Effect code before after) (begun : before.Begun id) :
    after.Begun id := by
  cases effect with
  | compute | pushScope | popScope | call | «return» | pushHandler | popHandler =>
      exact begun.update fun _ started => started
  | finish =>
      change (before.updateCoroutine _ _).Begun id
      exact begun.update fun _ started => started
  | create | copy =>
      obtain ⟨coroutine, found, started⟩ := begun
      exact ⟨coroutine, found_push found, started⟩
  | enter | abandon =>
      change (before.updateCoroutine _ _).Begun id
      exact begun.update fun _ _ => rfl
  | yield current runs =>
      change (before.updateCoroutine _ _).Begun id
      exact begun.update fun _ _ => (Coroutine.state_eq_running_iff.mp runs).1
  | @«catch» coroutine handler outer =>
      have caught : (before.updateCoroutine before.current (·.caught handler outer)).Begun id :=
        begun.update fun _ started => started
      have resumed : ((before.updateCoroutine before.current (·.caught handler outer)).updateFrame
          before.current ({ · with scope := handler.scope, pc := handler.target })).Begun id :=
        caught.update fun _ started => started
      exact resumed
  | _ => exact begun

theorem evolves_begun (evolves : before.Evolves code after) (begun : before.Begun id) :
    after.Begun id := by
  induction evolves with
  | refl => exact begun
  | tail _ effect ih => exact effect_begun effect ih

/-- What has run is not fresh again. -/
theorem Reaches.begun (reachable : Reachable program args settings origin)
    (reaches : origin.Reaches machine) (running : machine.isRunning = true)
    (begun : origin.Begun id) : machine.Begun id := by
  refine reaches.induction running (fun machine => machine.Begun id) begun (fun _ _ _ held => held) ?_
  intro middle reached ran goesOn _ held
  have sound := (reachable.further reached).sound ran
  obtain ⟨code, -, evolves⟩ := step_evolves sound.enabled goesOn
  exact evolves_begun evolves held

/-! ### What has not -/

/-- Creating a coroutine leaves those that are fresh as they are, and the new one is like them. -/
theorem effect_unstarted (sound : before.Sound) (unstarted : before.Unstarted)
    (effect : Effect code before after) (adds : code.adds = true) : after.Unstarted := by
  have housed := Backtrack.Housed.sound sound.housed
  have added {counted : Nat} {entry : Frame} (start : entry.pc = 0) (scope : entry.scope = entry.base)
      (own : entry.base = (before.arena.place (some before.globals)).1) :
      Unstarted { before with
        arena := (before.arena.place (some before.globals)).2
        nextFrame := counted
        coroutines := before.coroutines.push (.new entry) } := by
    intro id coroutine found fresh
    have found : replace before.coroutine? ⟨before.coroutines.size⟩ (.new entry) id = some coroutine :=
      (congrFun coroutine?_push id).symm.trans found
    by_cases new : id = ⟨before.coroutines.size⟩
    · rw [new, replace_same] at found
      cases found
      refine ⟨entry, rfl, start, scope, ?_⟩
      rw [own, Arena.get?_place housed, if_pos rfl]
    · rw [replace_other new] at found
      obtain ⟨first, rfl, untouched⟩ := unstarted id coroutine found fresh
      refine ⟨first, rfl, untouched.pc, untouched.scope, ?_⟩
      have live : before.arena.isLive first.base = true := by
        rw [Arena.isLive, untouched.empty]
        rfl
      rw [(Arena.get?_place_live housed live).2]
      exact untouched.empty
  cases effect with
  | count | intern => exact unstarted
  | compute change same =>
      intro id coroutine found fresh
      have begun : (before.updateFrame before.current change).Begun before.current :=
        sound.begun.update fun _ started => started
      have apart : id ≠ before.current := by
        rintro rfl
        exact begun.not_fresh found fresh
      rw [updateFrame, coroutine?_updateCoroutine, if_neg apart] at found
      exact unstarted id coroutine found fresh
  | create function registers =>
      exact @added _ (.initial ⟨before.nextFrame⟩ function registers .entry _) rfl rfl rfl
  | @copy _ _ entry _ _ start =>
      exact @added _ { entry with id := ⟨before.nextFrame⟩, scope := _, base := _ } start rfl rfl
  | bindVar _ _ _ binding =>
      obtain ⟨_, rfl | rfl⟩ := binding <;> cases adds
  | bindCandidates _ _ _ binding =>
      obtain ⟨_, rfl⟩ := binding
      cases adds
  | call _ _ _ _ calling =>
      obtain ⟨_, _, rfl⟩ := calling
      cases adds
  | «return» _ _ _ _ other | finish _ _ _ _ _ other | enter _ _ _ _ _ other | yield _ _ _ _ other =>
      obtain ⟨_, rfl⟩ := other
      cases adds
  | pushScope _ other | popScope other | openRegion other | commitRegion _ other
  | rollbackRegion _ other | pushHandler _ _ _ _ other | popHandler _ _ _ other =>
      subst other
      cases adds
  | abandon _ _ _ _ raising | «catch» _ _ _ _ raising | undoAll raising =>
      cases code with
      | createCoroutine | copyCoroutine => cases raising
      | _ => cases adds

theorem evolves_unstarted (sound : before.Sound) (unstarted : before.Unstarted)
    (evolves : before.Evolves code after) (adds : code.adds = true) : after.Unstarted := by
  induction evolves with
  | refl => exact unstarted
  | tail soFar effect ih => exact effect_unstarted (sound.evolves soFar) ih effect adds

/-- Other instructions create no coroutine. -/
theorem effect_absent (effect : Effect code before after) (adds : code.adds = false)
    (absent : before.coroutine? id = none) : after.coroutine? id = none := by
  rw [coroutine?_eq_none_iff] at absent ⊢
  cases effect with
  | create _ _ creating =>
      obtain ⟨_, _, rfl⟩ := creating
      cases adds
  | copy _ _ _ _ copying =>
      obtain ⟨_, _, rfl⟩ := copying
      cases adds
  | compute | pushScope | popScope | call | «return» | finish | enter | yield | pushHandler
  | popHandler | abandon => exact size_updateCoroutine.trans_le absent
  | «catch» =>
      refine (Eq.trans size_updateCoroutine ?_).trans_le absent
      exact size_updateCoroutine
  | _ => exact absent

theorem evolves_absent (evolves : before.Evolves code after) (adds : code.adds = false)
    (absent : before.coroutine? id = none) : after.coroutine? id = none := by
  induction evolves with
  | refl => exact absent
  | tail _ effect ih => exact effect_absent effect adds ih

/-- A container stays empty that stays live and keeps its parent and its bindings. -/
theorem get?_of_kept {arena arena' : Arena} {container : ContainerId} {parent : Option ContainerId}
    (empty : arena.get? container = some (.new parent)) (live : arena'.isLive container = true)
    (parent' : arena'.parent? container = arena.parent? container)
    (vars : ∀ name, arena'.var? container name = arena.var? container name)
    (candidates : ∀ name, arena'.candidates? container name = arena.candidates? container name) :
    arena'.get? container = some (.new parent) := by
  obtain ⟨⟨upper, bound, sets⟩, found⟩ := Option.isSome_iff_exists.mp live
  simp only [Arena.parent?, Arena.var?, Arena.candidates?, found, empty, Option.bind_eq_bind,
    Option.bind_some, Container.new, Std.ExtTreeMap.getElem?_empty] at parent' vars candidates
  have unbound : bound = ∅ := Std.ExtTreeMap.ext_getElem? fun name => by simp [vars name]
  have undeclared : sets = ∅ := Std.ExtTreeMap.ext_getElem? fun name => by simp [candidates name]
  rw [found, parent', unbound, undeclared]
  rfl

/-! ### Runs -/

/-- A coroutine that wrote a binding has begun. -/
theorem Wrote.begun {binds : Machine → BindingKey → Prop} {mark : Mark} {key : BindingKey}
    (started : start program args settings = .ok initial) (running : machine.isRunning = true)
    (wrote : Wrote binds initial machine id mark key) : machine.Begun id := by
  obtain ⟨earlier, reached, ran, onward, rfl, -⟩ := wrote
  have reachable : Reachable program args settings earlier := ⟨initial, started, reached⟩
  exact Reaches.begun reachable (.head (.step ran) onward) running (reachable.sound ran).begun

/-- Where a step leaves a coroutine fresh, it leaves it as it is. -/
theorem fresh_kept {earlier : Coroutine} (sound : machine.Sound) (running : machine.isRunning = true)
    (goesOn : machine.step.isRunning = true) (stood : machine.coroutine? id = some earlier)
    (found : machine.step.coroutine? id = some coroutine) (fresh : coroutine.state = .fresh) :
    coroutine = earlier := by
  obtain ⟨code, -, evolves⟩ := step_evolves sound.enabled goesOn
  have unentered : earlier.state = .fresh := by
    by_contra known
    exact (evolves_begun evolves (begun_of_not_fresh stood known)).not_fresh found fresh
  have resting : earlier.state ≠ .running := by
    rw [unentered]
    nofun
  rcases step_resting sound running stood resting with kept | ⟨dst, target, out, enters⟩
  · exact Option.some.inj (found.symm.trans kept)
  · cases Option.some.inj (found.symm.trans enters.entered)
    exact absurd (Coroutine.state_eq_fresh_iff.mp fresh) nofun

/-- A rollback changes what a coroutine wrote, and a fresh one wrote nothing. -/
theorem untouched_step (started : start program args settings = .ok initial)
    (reaches : initial.Reaches machine) (running : machine.isRunning = true)
    (rare : machine.arena.Rare) (found : machine.coroutine? id = some (.new entry))
    (untouched : machine.arena.Untouched machine.globals entry) :
    machine.step.arena.Untouched machine.step.globals entry := by
  have sound := Reachable.sound ⟨initial, started, reaches⟩ running
  have resting : (Coroutine.new entry).state ≠ .running := nofun
  have located : (Coroutine.new entry).frames.at? 0 = some entry := rfl
  obtain ⟨inScope, member⟩ := sound.owns_base found untouched
  have still {β : Type} {kind : BindingKind β} {binds : Machine → BindingKey → Prop}
      (traces : kind.Traces binds) (name : SymbolId) :
      kind.read machine.step.arena entry.base name = kind.read machine.arena entry.base name := by
    by_contra changed
    obtain ⟨region, -, wrote⟩ :=
      reaches.rewritten traces started running rare found resting located member changed
    exact (wrote.begun started running).not_fresh found rfl
  have shelters := step_shelters sound running found resting
  refine ⟨untouched.pc, untouched.scope, ?_⟩
  rw [shelters.globals]
  exact get?_of_kept untouched.empty (shelters.live located inScope)
    (shelters.parent located inScope) (still BindingKind.vars_traces)
    (still BindingKind.candidates_traces)

theorem step_unstarted (started : start program args settings = .ok initial)
    (reaches : initial.Reaches machine) (running : machine.isRunning = true)
    (goesOn : machine.step.isRunning = true) (rare : machine.arena.Rare)
    (unstarted : machine.Unstarted) : machine.step.Unstarted := by
  have sound := Reachable.sound ⟨initial, started, reaches⟩ running
  obtain ⟨code, -, evolves⟩ := step_evolves sound.enabled goesOn
  cases adds : code.adds with
  | true => exact evolves_unstarted sound unstarted evolves adds
  | false =>
      intro id coroutine found fresh
      cases stood : machine.coroutine? id with
      | none => exact absurd ((evolves_absent evolves adds stood).symm.trans found) nofun
      | some earlier =>
          cases fresh_kept sound running goesOn stood found fresh
          obtain ⟨entry, rfl, untouched⟩ := unstarted id coroutine stood fresh
          exact ⟨entry, rfl, untouched_step started reaches running rare stood untouched⟩

/-- A coroutine that is fresh is as it was created. -/
theorem Reaches.unstarted (started : start program args settings = .ok initial)
    (reaches : initial.Reaches machine) (running : machine.isRunning = true)
    (rare : machine.arena.Rare) : machine.Unstarted := by
  induction reaches with
  | refl =>
      obtain ⟨_, _, -, -, -, -, rfl⟩ := start_eq started
      intro id coroutine found fresh
      obtain ⟨-, rfl⟩ := eq_of_alone found
      exact absurd (Coroutine.state_eq_fresh_iff.mp fresh) nofun
  | @tail earlier machine reached moves ih =>
      cases moves with
      | step ran =>
          have sound := Reachable.sound ⟨initial, started, reached⟩ ran
          have rare' := (step_ages sound ran).rare rare
          exact step_unstarted started reached ran running rare' (ih ran rare')
      | collect | reset => exact ih running rare

end Machine

end Backtrack
