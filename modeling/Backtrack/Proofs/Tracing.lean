import Backtrack.Proofs.Parked

/-!
Where the entries of logs come from. A log holds a binding only if the binding was written while the
region was open; and if the container belongs to a frame of a coroutine, that coroutine wrote it,
since containers do not go from one frame to another.
-/

namespace Backtrack

/-- Whether an instruction writes a binding. -/
def Instruction.binds : Instruction → Bool
  | .storeVar _ _ | .declareVar _ _ | .declareFunction _ _ => true
  | _ => false

namespace Machine

/-- The instruction of a machine writes a variable. -/
def BindsVariable (machine : Machine) (key : BindingKey) : Prop :=
  ∃ frame src, machine.active? = some frame ∧
    (machine.instruction? = some (.declareVar key.name src) ∧ key.container = frame.scope ∨
      machine.instruction? = some (.storeVar key.name src) ∧
        key.container = (machine.arena.findVar? frame.scope key.name).getD frame.scope)

/-- The instruction of a machine writes a candidate set. -/
def BindsCandidates (machine : Machine) (key : BindingKey) : Prop :=
  ∃ frame function, machine.active? = some frame ∧
    machine.instruction? = some (.declareFunction key.name function) ∧ key.container = frame.scope

/-- What the instruction of a machine does to the log of a region that is open. -/
inductive Saves (machine : Machine) (log : RollbackLog) : RollbackLog → Prop
  | nothing : Saves machine log log
  | vars {key : BindingKey} {prior : Option Value} (binds : machine.BindsVariable key) :
      Saves machine log (log.saveVariable key prior).2
  | candidates {key : BindingKey} {prior : Option CandidateSet}
      (binds : machine.BindsCandidates key) : Saves machine log (log.saveCandidates key prior).2

variable {code : Instruction} {before middle after machine initial : Machine} {id : CoroutineId}
  {coroutine : Coroutine} {depth : Nat} {frame : Frame} {container : ContainerId}

/-! Steps -/

theorem effect_logs (effect : Effect code before after) (quiet : code.binds = false) {region : Region}
    (opened : region ∈ after.regions.items) :
    region.log = .new ∨ region ∈ before.regions.items := by
  cases effect with
  | bindVar _ _ _ binding =>
      obtain ⟨_, rfl | rfl⟩ := binding <;> cases quiet
  | bindCandidates _ _ _ binding =>
      obtain ⟨_, rfl⟩ := binding
      cases quiet
  | openRegion =>
      rcases List.mem_cons.mp opened with rfl | stood
      · exact .inl rfl
      · exact .inr stood
  | commitRegion top | rollbackRegion top => exact .inr (top ▸ List.mem_cons_of_mem _ opened)
  | abandon | «catch» => exact .inr ((List.dropWhile_sublist _).subset opened)
  | undoAll => cases opened
  | _ => exact .inr opened

theorem evolves_logs (evolves : before.Evolves code after) (quiet : code.binds = false)
    {region : Region} (opened : region ∈ after.regions.items) :
    region.log = .new ∨ region ∈ before.regions.items := by
  induction evolves with
  | refl => exact .inr opened
  | tail _ effect ih => exact (effect_logs effect quiet opened).elim .inl ih

theorem step_logs (sound : machine.Sound) (running : machine.step.isRunning = true) {region : Region}
    (opened : region ∈ machine.step.regions.items) :
    region.log = .new ∨ ∃ earlier ∈ machine.regions.items, earlier.mark = region.mark ∧
      machine.Saves earlier.log region.log := by
  obtain ⟨code, next, evolves⟩ := step_evolves sound.enabled running
  obtain ⟨coroutine, frame, current, top, active⟩ := sound.active
  have active' : (machine.fetched code).active? = some { frame with pc := frame.pc + 1 } :=
    active?_fetched active
  -- A binding instruction lets every region save what it writes.
  have saved {save : RollbackLog → RollbackLog} (saves : ∀ log, machine.Saves log (save log))
      (leads : (Action.execute code).Leads (machine.fetched code)
        (fun _ after => after.regions = machine.regions.map fun region =>
          { region with log := save region.log }) fun _ _ => True) :
      region.log = .new ∨ ∃ earlier ∈ machine.regions.items, earlier.mark = region.mark ∧
        machine.Saves earlier.log region.log := by
    rw [step_of_leads next running leads, Stack.items_map] at opened
    obtain ⟨earlier, stood, rfl⟩ := List.mem_map.mp opened
    exact .inr ⟨earlier, stood, rfl, saves earlier.log⟩
  have written (key : BindingKey) (binds : machine.BindsVariable key) :=
    @saved (fun log => (log.saveVariable key (machine.arena.var? key.container key.name)).2)
      fun log => .vars binds
  cases code with
  | storeVar name src =>
      refine written ⟨(machine.arena.findVar? frame.scope name).getD frame.scope, name⟩
        ⟨frame, src, active, .inr ⟨next, rfl⟩⟩ ?_
      simp only [Action.execute, Action.thenProceed, Action.storeVar, Action.bindVar, Action.logAll,
        Action.leads_bind, Action.leads_frame_active active', Action.leads_ofExcept,
        Action.leads_get, Action.leads_modify, Action.leads_ensure, Action.leads_updateArena,
        Action.leads_pure, implies_true, and_true, regions_fetched, arena_fetched]
  | declareVar name src =>
      refine written ⟨frame.scope, name⟩ ⟨frame, src, active, .inl ⟨next, rfl⟩⟩ ?_
      simp only [Action.execute, Action.thenProceed, Action.declareVar, Action.bindVar,
        Action.logAll, Action.leads_bind, Action.leads_frame_active active', Action.leads_ofExcept,
        Action.leads_get, Action.leads_modify, Action.leads_ensure, Action.leads_updateArena,
        Action.leads_pure, implies_true, and_true, regions_fetched, arena_fetched]
  | declareFunction name function =>
      have binds : machine.BindsCandidates ⟨frame.scope, name⟩ :=
        ⟨frame, function, active, next, rfl⟩
      refine @saved (fun log => (log.saveCandidates ⟨frame.scope, name⟩
        (machine.arena.candidates? frame.scope name)).2) (fun log => .candidates binds) ?_
      simp only [Action.execute, Action.thenProceed, Action.declareFunction, Action.logAll,
        Action.leads_bind, Action.leads_frame_active active', Action.leads_get,
        Action.leads_modify, Action.leads_ensure, Action.leads_updateArena, Action.leads_pure,
        implies_true, and_true, regions_fetched, arena_fetched]
  | _ =>
      refine (evolves_logs evolves rfl opened).imp_right fun stood => ?_
      exact ⟨region, stood, rfl, .nothing⟩

/-! Containers that come to life -/

/-- The handle of a container that comes to life is new. -/
theorem effect_unissued (sound : before.Sound) (rare : before.arena.Rare)
    (effect : Effect code before after) (live : after.arena.isLive container = true)
    (dead : before.arena.isLive container = false) : ¬ before.arena.Issued container := by
  have alive (kept : before.arena.isLive container = true) : ¬ before.arena.Issued container :=
    absurd (dead.symm.trans kept) nofun
  have trims {arena : Arena} (trims : after.arena.Trims arena)
      (same : arena.isLive container = before.arena.isLive container) :
      ¬ before.arena.Issued container := by
    refine alive ?_
    rw [← same]
    exact trims.live live
  have housed := Backtrack.Housed.sound sound.housed
  have placed {parent : ContainerId}
      (live : (before.arena.place (some parent)).2.isLive container = true) :
      ¬ before.arena.Issued container := by
    rw [Arena.isLive, Arena.get?_place housed] at live
    split at live
    · next fresh =>
        rw [fresh]
        exact Arena.place_unissued housed rare
    · exact alive live
  cases effect with
  | pushScope | call | create | copy => exact placed live
  | bindVar => exact alive (Arena.putVar_alike.live ▸ live)
  | bindCandidates => exact alive (Arena.putCandidates_alike.live ▸ live)
  | rollbackRegion => exact alive (Arena.restore_alike.live ▸ live)
  | undoAll => exact alive (Arena.undo_alike.live ▸ live)
  | popScope => exact trims Arena.release_trims rfl
  | «return» | finish => exact trims Arena.releaseAll_trims rfl
  | abandon => exact trims Arena.vacateAll_trims (congrFun Arena.undo_alike.live container)
  | «catch» =>
      exact trims (Arena.releaseAll_trims.trans Arena.vacateAll_trims)
        (congrFun Arena.undo_alike.live container)
  | _ => exact alive live

/-- A container that is not new belonged to the same frame before. -/
theorem evolves_origin (sound : before.Sound) (rare : after.arena.Rare)
    (evolves : before.Evolves code after) (issued : before.arena.Issued container)
    (stands : Stands after.coroutine? id depth frame) (member : container ∈ after.containersOf frame) :
    ∃ stood, Stands before.coroutine? id depth stood ∧ container ∈ before.containersOf stood := by
  induction evolves generalizing frame with
  | refl => exact ⟨frame, stands, member⟩
  | @tail middle after soFar effect ih =>
      have sound' := sound.evolves soFar
      have rare' := (effect_ages effect).rare rare
      rcases containersOf_origin sound' effect stands member with dead | ⟨stood, stands', member'⟩
      · have live := live_containersOf (sound'.effect effect) stands member
        have later : middle.arena.Issued container := (Evolves.ages soFar).issued issued
        exact absurd later (effect_unissued sound' rare' effect live dead)
      · exact ih rare' stands' member'

end Machine

/-- What puts an entry into a log is a write of the binding. -/
structure BindingKind.Traces {β : Type} (kind : BindingKind β)
    (binds : Machine → BindingKey → Prop) : Prop where
  saves {machine : Machine} {log log' : RollbackLog} {key : BindingKey}
    (saves : machine.Saves log log') (enabled : log.enabled = true)
    (held : (kind.logged log' key).isSome = true) :
    (kind.logged log key).isSome = true ∨ binds machine key
  inScope {machine : Machine} {key : BindingKey} (binds : binds machine key) :
    ∃ frame, machine.active? = some frame ∧ key.container ∈ machine.arena.ancestry frame.scope

theorem BindingKind.vars_traces : vars.Traces Machine.BindsVariable where
  saves {machine log log' key} saves enabled held := by
    cases saves with
    | nothing => exact .inl held
    | @vars written prior binds =>
        have saved : vars.logged (log.saveVariable written prior).2 key = _ :=
          RollbackLog.getElem?_saveVariable enabled
        rw [saved] at held
        split at held
        · next same => exact .inr (same ▸ binds)
        · exact .inl held
    | @candidates written prior binds =>
        have same : vars.logged (log.saveCandidates written prior).2 key = vars.logged log key :=
          congrArg (·[key]?) RollbackLog.vars_saveCandidates
        exact .inl (same ▸ held)
  inScope binds := by
    obtain ⟨frame, src, active, ⟨-, target⟩ | ⟨-, target⟩⟩ := binds
    · exact ⟨frame, active, target ▸ Arena.mem_ancestry⟩
    · exact ⟨frame, active, target ▸ Arena.target_mem_ancestry⟩

theorem BindingKind.candidates_traces : candidates.Traces Machine.BindsCandidates where
  saves {machine log log' key} saves enabled held := by
    cases saves with
    | nothing => exact .inl held
    | @vars written prior binds =>
        have same : candidates.logged (log.saveVariable written prior).2 key =
          candidates.logged log key := congrArg (·[key]?) RollbackLog.candidates_saveVariable
        exact .inl (same ▸ held)
    | @candidates written prior binds =>
        have saved : candidates.logged (log.saveCandidates written prior).2 key = _ :=
          RollbackLog.getElem?_saveCandidates enabled
        rw [saved] at held
        split at held
        · next same => exact .inr (same ▸ binds)
        · exact .inl held
  inScope binds := by
    obtain ⟨frame, function, active, -, target⟩ := binds
    exact ⟨frame, active, target ▸ Arena.mem_ancestry⟩

namespace Machine

variable {machine initial : Machine} {id : CoroutineId} {mark : Mark} {key : BindingKey}

/-- A coroutine has written a binding while a region was open. -/
def Wrote (binds : Machine → BindingKey → Prop) (initial machine : Machine) (id : CoroutineId)
    (mark : Mark) (key : BindingKey) : Prop :=
  ∃ earlier : Machine, initial.Reaches earlier ∧ earlier.isRunning = true ∧
    earlier.step.Reaches machine ∧ earlier.current = id ∧ mark ∈ earlier.marks ∧ binds earlier key

/-- Every entry of a log comes from a write, by the coroutine that the container belongs to. -/
structure Traced {β : Type} (kind : BindingKind β) (binds : Machine → BindingKey → Prop)
    (initial machine : Machine) : Prop where
  issued {region : Region} {key : BindingKey} (opened : region ∈ machine.regions.items)
    (held : (kind.logged region.log key).isSome = true) : machine.arena.Issued key.container
  wrote {region : Region} {key : BindingKey} {id : CoroutineId} {depth : Nat} {frame : Frame}
    (opened : region ∈ machine.regions.items) (held : (kind.logged region.log key).isSome = true)
    (stands : Stands machine.coroutine? id depth frame)
    (member : key.container ∈ machine.containersOf frame) :
    Wrote binds initial machine id region.mark key

section Run

variable {β : Type} {kind : BindingKind β} {binds : Machine → BindingKey → Prop}
  {program : Program} {args : List Value} {settings : Settings}

theorem Wrote.further {later : Machine} (wrote : Wrote binds initial machine id mark key)
    (reaches : machine.Reaches later) : Wrote binds initial later id mark key := by
  obtain ⟨earlier, reached, running, onward, rest⟩ := wrote
  exact ⟨earlier, reached, running, onward.trans reaches, rest⟩

theorem traced_step (traces : kind.Traces binds) (sound : machine.Sound)
    (reached : initial.Reaches machine) (running : machine.isRunning = true)
    (goesOn : machine.step.isRunning = true) (rare : machine.step.arena.Rare)
    (traced : Traced kind binds initial machine) : Traced kind binds initial machine.step := by
  have ages := step_ages sound running
  obtain ⟨code, -, evolves⟩ := step_evolves sound.enabled goesOn
  -- An entry was there before, or the instruction writes the binding.
  have origin {region : Region} {key : BindingKey} (opened : region ∈ machine.step.regions.items)
      (held : (kind.logged region.log key).isSome = true) :
      ∃ earlier ∈ machine.regions.items, earlier.mark = region.mark ∧
        ((kind.logged earlier.log key).isSome = true ∨ binds machine key) := by
    rcases step_logs sound goesOn opened with new | ⟨earlier, stood, same, saves⟩
    · rw [new, kind.logged_new] at held
      cases held
    · exact ⟨earlier, stood, same, traces.saves saves (sound.enabled earlier stood) held⟩
  have issued {region : Region} {key : BindingKey} (opened : region ∈ machine.step.regions.items)
      (held : (kind.logged region.log key).isSome = true) :
      machine.arena.Issued key.container := by
    obtain ⟨earlier, stood, -, logged | writes⟩ := origin opened held
    · exact traced.issued stood logged
    · obtain ⟨frame, active, inScope⟩ := traces.inScope writes
      exact Arena.issued_of_live (ages.rare rare) (sound.live_of_inScope active inScope)
  refine ⟨fun opened held => ages.issued (issued opened held), ?_⟩
  intro region key id depth frame opened held stands member
  obtain ⟨stood, stands', member'⟩ :=
    evolves_origin sound rare evolves (issued opened held) stands member
  obtain ⟨earlier, open', same, logged | writes⟩ := origin opened held
  · rw [← same]
    exact (traced.wrote open' logged stands' member').further (.single (.step running))
  · obtain ⟨active, active', inScope⟩ := traces.inScope writes
    obtain ⟨coroutine, current, top⟩ := Option.bind_eq_some_iff.mp active'
    have own : Stands machine.coroutine? machine.current (coroutine.depth - 1) active :=
      ⟨coroutine, current, (Coroutine.at?_top top).2⟩
    have inner := ((mem_containersOf_iff sound.housed stands').mp member').2
    have owned := (mem_containersOf_iff sound.housed own).mpr ⟨inScope, inner⟩
    refine ⟨machine, reached, running, .refl,
      (containersOf_apart sound.housed own stands' owned member').1, ?_, writes⟩
    rw [← same]
    exact List.mem_map_of_mem open'

theorem Reaches.traced (traces : kind.Traces binds)
    (started : start program args settings = .ok initial) (reaches : initial.Reaches machine)
    (running : machine.isRunning = true) (rare : machine.arena.Rare) :
    Traced kind binds initial machine := by
  induction reaches with
  | refl =>
      obtain ⟨_, _, -, -, -, -, rfl⟩ := start_eq started
      exact ⟨nofun, nofun⟩
  | @tail earlier machine reached moves ih =>
      have reachable : Reachable program args settings earlier := ⟨initial, started, reached⟩
      cases moves with
      | step ran =>
          have sound := reachable.sound ran
          have rare' := (step_ages sound ran).rare rare
          exact traced_step traces sound reached ran running rare (ih ran rare')
      | collect collecting =>
          obtain ⟨issued, wrote⟩ := ih running rare
          exact ⟨issued, fun opened held stands member =>
            (wrote opened held stands member).further (.single (.collect collecting))⟩
      | reset =>
          obtain ⟨issued, wrote⟩ := ih running rare
          exact ⟨issued, fun opened held stands member =>
            (wrote opened held stands member).further (.single .reset)⟩

end Run

end Machine

end Backtrack
