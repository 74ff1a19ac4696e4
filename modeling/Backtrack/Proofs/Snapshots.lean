import Backtrack.Proofs.Following

/-!
Rollback by copies. The reference machine keeps a complete copy of the bindings for every open
region. On a rollback it sets the containers that live to the copy, whatever the log restored. Every
run of it takes the machine through the same states: nothing is lost by logging only what is
written.
-/

namespace Backtrack

/-- The bindings of a container become those of another. -/
def Container.rebind (container copied : Container) : Container :=
  { container with vars := copied.vars, candidates := copied.candidates }

def Slot.rebind (slot : Slot) (copied : Container) : Slot :=
  { slot with content := slot.content.map (·.rebind copied) }

theorem Slot.rebind_rebind {slot : Slot} {first second : Container} :
    (slot.rebind first).rebind second = slot.rebind second := by
  rcases slot with ⟨frees, content⟩
  cases content <;> rfl

namespace Arena

variable {arena copy other : Arena} {copies : List Arena} {id : ContainerId}

/-- What a copy has for a container. A container that it does not have is empty. -/
def copied (copy : Arena) (id : ContainerId) : Container :=
  (copy.get? id).getD (.new none)

/-- Sets every container that lives to a copy. -/
def revert (arena copy : Arena) : Arena :=
  { arena with
    slots := arena.slots.mapIdx fun index slot =>
      slot.rebind (copy.copied ⟨index, slot.generation⟩) }

/-- What was reverted before makes no difference. -/
theorem revert_revert : (arena.revert other).revert copy = arena.revert copy := by
  unfold revert
  congr 1
  apply Array.ext_getElem?
  intro index
  simp only [Array.getElem?_mapIdx]
  cases arena.slots[index]? with
  | none => rfl
  | some slot => exact congrArg some Slot.rebind_rebind

theorem foldl_revert (oldest : copies.getLast? = some copy) :
    copies.foldl revert arena = arena.revert copy := by
  induction copies generalizing arena with
  | nil => cases oldest
  | cons newest rest ih =>
      cases rest with
      | nil =>
          cases oldest
          rfl
      | cons next further =>
          rw [List.getLast?_cons_cons] at oldest
          rw [List.foldl_cons, ih oldest, revert_revert]

theorem read_copied {β : Type} {kind : BindingKind β} {name : SymbolId} :
    kind.pick (copy.copied id) name = kind.read copy id name := by
  unfold copied BindingKind.read
  cases copy.get? id with
  | none => exact kind.pick_new
  | some container => rfl

/-- Where a copy has the bindings that there are, nothing is reverted. -/
theorem revert_eq_self (vars : BindingKind.vars.Agrees copy arena)
    (candidates : BindingKind.candidates.Agrees copy arena) : arena.revert copy = arena := by
  have stays {id : ContainerId} {container : Container} (found : arena.get? id = some container) :
      container.rebind (copy.copied id) = container := by
    have live : arena.isLive id = true := by
      rw [isLive, found]
      rfl
    have vars : (copy.copied id).vars = container.vars := by
      apply Std.ExtTreeMap.ext_getElem?
      intro name
      have same := read_copied.trans (vars id name live)
      rwa [BindingKind.read, found] at same
    have candidates : (copy.copied id).candidates = container.candidates := by
      apply Std.ExtTreeMap.ext_getElem?
      intro name
      have same := read_copied.trans (candidates id name live)
      rwa [BindingKind.read, found] at same
    rw [Container.rebind, vars, candidates]
  have slots : arena.slots.mapIdx (fun index slot =>
      slot.rebind (copy.copied ⟨index, slot.generation⟩)) = arena.slots := by
    apply Array.ext_getElem?
    intro index
    rw [Array.getElem?_mapIdx]
    cases stored : arena.slots[index]? with
    | none => rfl
    | some slot =>
        rcases slot with ⟨frees, content⟩
        cases content with
        | none => rfl
        | some container =>
            have found : arena.get? ⟨index, Slot.generation ⟨frees, some container⟩⟩ = some container :=
              get?_eq_some_iff.mpr ⟨_, stored, rfl, rfl⟩
            exact congrArg (fun container => some (Slot.mk frees (some container))) (stays found)
  rw [revert, slots]

theorem foldl_revert_eq_self (agree : ∀ copy, copies.getLast? = some copy →
    BindingKind.vars.Agrees copy arena ∧ BindingKind.candidates.Agrees copy arena) :
    copies.foldl revert arena = arena := by
  cases oldest : copies.getLast? with
  | none =>
      rw [List.getLast?_eq_none_iff.mp oldest]
      rfl
  | some copy =>
      obtain ⟨vars, candidates⟩ := agree copy oldest
      rw [foldl_revert oldest]
      exact revert_eq_self vars candidates

end Arena

/-- A region is opened, with a number that none had before, or the step faults. -/
theorem Machine.step_openRegion {machine : Machine}
    (next : machine.instruction? = some .openRegion) :
    machine.step.arena = machine.arena ∧
      (machine.step.regions = machine.regions ∧ machine.step.isRunning = false ∨
        machine.step.nextSerial = machine.nextSerial + 1 ∧ ∃ owner,
          machine.step.regions = machine.regions.push ⟨machine.nextSerial, owner, .new⟩) := by
  have leads : (Action.execute .openRegion).Leads (machine.fetched .openRegion)
      (fun outcome after => outcome = .proceed ∧ after.arena = machine.arena ∧
        after.nextSerial = machine.nextSerial + 1 ∧ ∃ owner,
          after.regions = machine.regions.push ⟨machine.nextSerial, owner, .new⟩)
      fun _ after => after.arena = machine.arena ∧ after.regions = machine.regions := by
    simp only [Action.execute, Action.thenProceed, Action.openRegion, Action.leads_bind,
      Action.leads_get, Action.leads_frame, Action.leads_ensure, Action.leads_modify,
      Action.leads_count, Action.leads_pure, arena_fetched, regions_fetched, nextSerial_fetched,
      and_self, implies_true, and_true, true_and]
    intro _ frame _
    generalize counted : Machine.count _ _ = after
    obtain ⟨counters, rfl⟩ : ∃ counters, after = _ := counted ▸ Machine.count_eq _ _
    exact ⟨rfl, rfl, _, rfl⟩
  rcases step_of_proceeds next leads with ⟨arena, opened⟩ | ⟨fault, after, counters, stopped, same⟩
  · exact ⟨arena, .inr opened⟩
  · rw [same]
    exact ⟨stopped.1, .inl ⟨stopped.2, rfl⟩⟩

/-! The reference machine -/

/-- A machine with a copy of the arena for every open region, the newest first. -/
structure Reference where
  machine : Machine
  copies : List Arena

namespace Reference

/-- Where a region is opened, the arena is copied; where one is committed, the newest copy is
dropped. Any other region that is closed is rolled back: every container that lives is set to the
newest copy, and that is dropped. -/
def step (reference : Reference) : Reference :=
  let before := reference.machine
  let after := before.step
  if before.regions.size < after.regions.size then ⟨after, before.arena :: reference.copies⟩
  else
    let closed := before.regions.size - after.regions.size
    let kept := reference.copies.drop closed
    if before.instruction? = some .commitRegion then ⟨after, kept⟩
    else ⟨{ after with arena := (reference.copies.take closed).foldl .revert after.arena }, kept⟩

def run : Nat → Reference → Reference
  | 0, reference => reference
  | fuel + 1, reference =>
      if reference.machine.isRunning then run fuel reference.step else reference

variable {code : Instruction} {machine : Machine} {copies : List Arena} {closed : Nat}

/-- A step that opens no region. -/
theorem step_closes {β : Type} {kind : BindingKind β} (recorded : kind.Recorded)
    (sound : machine.Sound) (running : machine.isRunning = true)
    (rare : machine.step.arena.Rare) (other : machine.instruction? ≠ some .openRegion)
    (mirrors : kind.Mirrors machine.regions.items copies machine.arena) :
    ∃ closed, closed + machine.step.regions.size = machine.regions.size ∧
      kind.Mirrors machine.step.regions.items (copies.drop closed) machine.step.arena ∧
      (machine.instruction? ≠ some .commitRegion → ∀ copy,
        (copies.take closed).getLast? = some copy → kind.Agrees copy machine.step.arena) := by
  obtain ⟨code, after, counters, status, executes, becomes, same⟩ :=
    Machine.step_becomes sound running
  have rare' : after.arena.Rare := by
    rw [same] at rare
    exact rare
  have differs : code ≠ .openRegion := by
    rintro rfl
    rcases executes with opens | ⟨-, never⟩
    · exact other opens
    · cases never
  obtain ⟨closed, follows⟩ := BindingKind.Follows.becomes recorded sound rare' differs becomes mirrors
  rw [same]
  refine ⟨closed, ?_, follows.mirrors, fun stays copy oldest => ?_⟩
  · rw [Stack.size_eq, Stack.size_eq, follows.counted, mirrors.tracks.length_eq]
  · cases follows.closing with
    | kept => cases oldest
    | commits commits =>
        rcases executes with next | ⟨-, never⟩
        · exact absurd (commits ▸ next) stays
        · exact absurd (commits.symm.trans never) nofun
    | reverts undoes last reverted =>
        cases Option.some.inj (last.symm.trans oldest)
        exact reverted.agrees

/-- The reference machine steps as the machine does, and its copies stay true. -/
theorem step_eq (sound : machine.Sound) (running : machine.isRunning = true)
    (rare : machine.arena.Rare) (rare' : machine.step.arena.Rare)
    (vars : BindingKind.vars.Mirrors machine.regions.items copies machine.arena)
    (candidates : BindingKind.candidates.Mirrors machine.regions.items copies machine.arena) :
    ∃ kept, step ⟨machine, copies⟩ = ⟨machine.step, kept⟩ ∧
      BindingKind.vars.Mirrors machine.step.regions.items kept machine.step.arena ∧
      BindingKind.candidates.Mirrors machine.step.regions.items kept machine.step.arena := by
  by_cases opens : machine.instruction? = some .openRegion
  · obtain ⟨still, ⟨same, -⟩ | ⟨-, owner, pushed⟩⟩ := Machine.step_openRegion opens
    · refine ⟨copies, ?_, ?_, ?_⟩
      · have even : machine.regions.size - machine.step.regions.size = 0 := by rw [same, Nat.sub_self]
        have fewer : ¬ machine.regions.size < machine.step.regions.size := by
          rw [same]
          exact Nat.lt_irrefl _
        simp only [step, if_neg fewer, even, List.take_zero, List.drop_zero, List.foldl_nil]
        exact ite_self _
      · rw [still, same]
        exact vars
      · rw [still, same]
        exact candidates
    · refine ⟨machine.arena :: copies, ?_, ?_, ?_⟩
      · have more : machine.regions.size < machine.step.regions.size := by
          rw [pushed]
          exact Nat.lt_succ_self _
        exact if_pos more
      · rw [still, pushed]
        exact vars.open rare
      · rw [still, pushed]
        exact candidates.open rare
  · obtain ⟨closed, counted, vars, varsAgree⟩ :=
      step_closes BindingKind.vars_recorded sound running rare' opens vars
    obtain ⟨closed', counted', candidates, candidatesAgree⟩ :=
      step_closes BindingKind.candidates_recorded sound running rare' opens candidates
    have once : closed' = closed := by omega
    subst once
    refine ⟨copies.drop closed', ?_, vars, candidates⟩
    have fewer : ¬ machine.regions.size < machine.step.regions.size := by omega
    have gone : machine.regions.size - machine.step.regions.size = closed' := by omega
    simp only [step, if_neg fewer, gone]
    by_cases commits : machine.instruction? = some .commitRegion
    · rw [if_pos commits]
    · rw [if_neg commits, Arena.foldl_revert_eq_self fun copy oldest =>
        ⟨varsAgree commits copy oldest, candidatesAgree commits copy oldest⟩]

variable {program : Program} {args : List Value} {settings : Settings} {initial : Machine}

theorem run_eq (fuel : Nat) (reachable : Machine.Reachable program args settings machine)
    (rare : (machine.run fuel).arena.Rare)
    (vars : BindingKind.vars.Mirrors machine.regions.items copies machine.arena)
    (candidates : BindingKind.candidates.Mirrors machine.regions.items copies machine.arena) :
    (run fuel ⟨machine, copies⟩).machine = machine.run fuel := by
  induction fuel generalizing machine copies with
  | zero => rfl
  | succ fuel ih =>
      rw [run, Machine.run]
      rw [Machine.run] at rare
      split
      · next running =>
          rw [if_pos running] at rare
          have sound := reachable.sound running
          have further := reachable.further (.single (.step running))
          have rare' := (Machine.Reaches.ages further (Machine.reaches_run fuel)).rare rare
          obtain ⟨kept, stepped, vars, candidates⟩ := step_eq sound running
            ((Machine.step_ages sound running).rare rare') rare' vars candidates
          rw [stepped]
          exact ih further rare vars candidates
      · rfl

/-- To log what is written amounts to copying everything: a machine that rolls regions back by their
logs goes through the states of the reference machine. -/
theorem run_machine (fuel : Nat) (started : Machine.start program args settings = .ok initial)
    (rare : (initial.run fuel).arena.Rare) : (run fuel ⟨initial, []⟩).machine = initial.run fuel := by
  have empty : initial.regions.items = [] := by
    obtain ⟨_, _, -, -, -, -, rfl⟩ := Machine.start_eq started
    rfl
  apply run_eq fuel ⟨initial, started, .refl⟩ rare
  · rw [empty]
    exact .empty
  · rw [empty]
    exact .empty

/-- Binds a variable in a container that it places while a region is open. A region in that one is
committed, and then the first is rolled back. -/
def nestingProgram : Program :=
  { Program.empty with
    functions := #[
      { name := "main", registerCount := 1, parameterCount := 0, parameters := []
        code := #[.const 0 (.int 1), .declareVar ⟨0⟩ 0, .openRegion, .pushScope, .const 0 (.int 2),
          .declareVar ⟨0⟩ 0, .openRegion, .const 0 (.int 3), .storeVar ⟨0⟩ 0, .commitRegion,
          .rollbackRegion, .return 0] }]
    functionIndex := .ofList [("main", FunctionId.mk 0)]
    symbols := #["x"]
    symbolIndex := .ofList [("x", SymbolId.mk 0)] }

/-- What the active frame would read. -/
def nestingValue (machine : Machine) : Option Value := do
  machine.arena.lookupVar? (← machine.active?).scope ⟨0⟩

theorem run_machine_nesting :
    ∃ initial, Machine.start nestingProgram [] .standard = .ok initial ∧
      (run 11 ⟨initial, []⟩).machine = initial.run 11 ∧
      (run 9 ⟨initial, []⟩).copies.length = 2 ∧ (run 10 ⟨initial, []⟩).copies.length = 1 ∧
      (run 11 ⟨initial, []⟩).copies.length = 0 ∧ nestingValue (initial.run 10) = some (.int 3) ∧
      nestingValue (initial.run 11) = some (.int 1) := by
  have runs : (match Machine.start nestingProgram [] .standard with
      | .ok initial => decide ((initial.run 11).arena.Rare ∧
          (run 9 ⟨initial, []⟩).copies.length = 2 ∧ (run 10 ⟨initial, []⟩).copies.length = 1 ∧
          (run 11 ⟨initial, []⟩).copies.length = 0 ∧ nestingValue (initial.run 10) = some (.int 3) ∧
          nestingValue (initial.run 11) = some (.int 1))
      | .error _ => false) = true := by decide +kernel
  split at runs
  · next initial started =>
      obtain ⟨rare, rest⟩ := of_decide_eq_true runs
      exact ⟨initial, started, run_machine 11 started rare, rest⟩
  · cases runs

end Reference

end Backtrack
