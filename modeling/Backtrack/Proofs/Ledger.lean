import Backtrack.Proofs.Declaring
import Backtrack.Proofs.Snapshots

/-!
The ledger of a run: its declarations, the last one first, without those that a rollback has undone.
It is kept from outside. A declaration is entered with the regions that are open when it is made. It
is struck out when one of these is closed and the instruction is not a commit, and when its container
is freed. What the containers that live have for a name is what the ledger lists for it.
-/

namespace Backtrack

/-- A function that a container was given for a name, and the regions that were open then. -/
structure Declaration where
  container : ContainerId
  name : SymbolId
  function : FunctionId
  within : List Nat
deriving DecidableEq, Repr

abbrev Ledger := List Declaration

namespace Ledger

variable {ledger : Ledger} {entry : Declaration} {container other : ContainerId}
  {name other' : SymbolId} {function : FunctionId} {within serials : List Nat} {arena : Arena}

/-- The functions of a container for a name. -/
def listed (ledger : Ledger) (container : ContainerId) (name : SymbolId) : List FunctionId :=
  (ledger.filter fun entry => entry.container = container ∧ entry.name = name).map
    Declaration.function

/-- The declarations that were not made in any of the regions. -/
def outside (ledger : Ledger) (serials : List Nat) : Ledger :=
  ledger.filter fun entry => ∀ serial ∈ serials, serial ∉ entry.within

/-- The declarations whose containers live. -/
def standing (ledger : Ledger) (arena : Arena) : Ledger :=
  ledger.filter fun entry => arena.isLive entry.container

/-- The functions as a candidate set. A container without any has none. -/
def candidates? (ledger : Ledger) (container : ContainerId) (name : SymbolId) :
    Option CandidateSet :=
  match ledger.listed container name with
  | [] => none
  | function :: earlier => some ⟨name, function :: earlier⟩

theorem functions_candidates? :
    ((ledger.candidates? container name).getD (.empty name)).functions =
      ledger.listed container name := by
  unfold candidates?
  split
  · next none =>
      rw [none]
      rfl
  · next some =>
      rw [some]
      rfl

theorem candidates?_eq_none (absent : ∀ entry ∈ ledger, entry.container ≠ container) :
    ledger.candidates? container name = none := by
  have none : ledger.listed container name = [] := by
    rw [listed, List.map_eq_nil_iff, List.filter_eq_nil_iff]
    intro entry member holds
    exact absent entry member (of_decide_eq_true holds).1
  rw [candidates?, none]

theorem candidates?_cons :
    candidates? (⟨container, name, function, within⟩ :: ledger) other other' =
      if other = container ∧ other' = name then
        some (((ledger.candidates? container name).getD (.empty name)).prepend function)
      else ledger.candidates? other other' := by
  by_cases same : other = container ∧ other' = name
  · obtain ⟨rfl, rfl⟩ := same
    have listed : listed (⟨other, other', function, within⟩ :: ledger) other other' =
        function :: ledger.listed other other' := by
      simp [Ledger.listed]
    rw [candidates?, listed, if_pos ⟨rfl, rfl⟩, candidates?]
    cases ledger.listed other other' <;> rfl
  · have differ : ¬ (container = other ∧ name = other') := fun both => same ⟨both.1.symm, both.2.symm⟩
    have listed : listed (⟨container, name, function, within⟩ :: ledger) other other' =
        ledger.listed other other' := by
      rw [Ledger.listed, List.filter_cons_of_neg (by simpa using differ), ← Ledger.listed]
    rw [candidates?, listed, if_neg same, candidates?]

theorem mem_outside : entry ∈ ledger.outside serials ↔
    entry ∈ ledger ∧ ∀ serial ∈ serials, serial ∉ entry.within := by
  rw [outside, List.mem_filter, decide_eq_true_eq]

theorem outside_nil : ledger.outside [] = ledger :=
  List.filter_eq_self.mpr fun _ _ => decide_eq_true nofun

theorem outside_eq_self
    (apart : ∀ entry ∈ ledger, ∀ serial ∈ serials, serial ∉ entry.within) :
    ledger.outside serials = ledger :=
  List.filter_eq_self.mpr fun entry member => decide_eq_true (apart entry member)

/-- Where the last of the regions is around the others, it alone decides. -/
theorem outside_append_singleton {serial : Nat}
    (around : ∀ entry ∈ ledger, ∀ inner ∈ serials, inner ∈ entry.within → serial ∈ entry.within) :
    ledger.outside (serials ++ [serial]) = ledger.outside [serial] := by
  apply List.filter_congr
  intro entry member
  rw [decide_eq_decide, List.forall_mem_append]
  constructor
  · exact And.right
  · intro apart
    refine ⟨fun inner closed made => ?_, apart⟩
    exact apart serial List.mem_cons_self (around entry member inner closed made)

theorem mem_standing : entry ∈ ledger.standing arena ↔
    entry ∈ ledger ∧ arena.isLive entry.container = true := by
  rw [standing, List.mem_filter]

theorem outside_standing :
    (ledger.standing arena).outside serials = (ledger.outside serials).standing arena := by
  rw [outside, standing, standing, outside, List.filter_filter, List.filter_filter]
  exact List.filter_congr fun entry _ => Bool.and_comm ..

/-- A container that lives keeps all its declarations. -/
theorem candidates?_standing (live : arena.isLive container = true) :
    (ledger.standing arena).candidates? container name = ledger.candidates? container name := by
  have same : (ledger.standing arena).listed container name = ledger.listed container name := by
    rw [listed, listed, standing, List.filter_filter]
    refine congrArg _ (List.filter_congr fun entry _ => ?_)
    by_cases here : entry.container = container ∧ entry.name = name
    · rw [here.1, live, Bool.and_true]
    · rw [decide_eq_false here, Bool.false_and]
  rw [candidates?, candidates?, same]

theorem outside_outside {others : List Nat} :
    (ledger.outside serials).outside others = ledger.outside (serials ++ others) := by
  rw [outside, outside, outside, List.filter_filter]
  apply List.filter_congr
  intro entry _
  rw [← Bool.decide_and, decide_eq_decide, List.forall_mem_append]
  exact and_comm

end Ledger

namespace Machine

variable {machine initial : Machine} {ledger : Ledger} {copies : List Arena} {code : Instruction}
  {closed : Nat}

/-- What the next instruction declares. -/
def declaration? (machine : Machine) : Option Declaration :=
  match machine.instruction?, machine.active? with
  | some (.declareFunction name function), some frame =>
      some ⟨frame.scope, name, function, machine.serials⟩
  | _, _ => none

/-- The regions that the next step rolls back. -/
def rolledBack (machine : Machine) : List Nat :=
  if machine.instruction? = some .commitRegion then []
  else machine.serials.filter (· ∉ machine.step.serials)

/-- The ledger with the declaration of the next step, and without what the step rolls back. -/
def entered (machine : Machine) (ledger : Ledger) : Ledger :=
  machine.declaration?.toList ++ ledger.outside machine.rolledBack

/-- The ledger after the next step. A container that the step frees takes its declarations with
it. -/
def record (machine : Machine) (ledger : Ledger) : Ledger :=
  (machine.entered ledger).standing machine.step.arena

/-- The ledger after a run of so many steps. -/
def recordRun : Nat → Machine → Ledger → Ledger
  | 0, _, ledger => ledger
  | fuel + 1, machine, ledger =>
      if machine.isRunning then recordRun fuel machine.step (machine.record ledger) else ledger

/-- The ledgers of the runs of a machine. -/
inductive Records (initial : Machine) : Machine → Ledger → Prop
  | empty : Records initial initial []
  | step {machine : Machine} {ledger : Ledger} (records : Records initial machine ledger)
      (running : machine.isRunning = true) : Records initial machine.step (machine.record ledger)
  | collect {machine : Machine} {ledger : Ledger} (records : Records initial machine ledger)
      (collecting : Bool) : Records initial (machine.collectCounters collecting) ledger
  | reset {machine : Machine} {ledger : Ledger} (records : Records initial machine ledger) :
      Records initial machine.resetCounters ledger

theorem Reaches.records (reaches : initial.Reaches machine) :
    ∃ ledger, initial.Records machine ledger := by
  induction reaches with
  | refl => exact ⟨[], .empty⟩
  | tail _ moves ih =>
      obtain ⟨ledger, records⟩ := ih
      cases moves with
      | step running => exact ⟨_, .step records running⟩
      | collect collecting => exact ⟨_, .collect records collecting⟩
      | reset => exact ⟨_, .reset records⟩

theorem Records.reaches (records : initial.Records machine ledger) : initial.Reaches machine := by
  induction records with
  | empty => exact .refl
  | step _ running ih => exact ih.tail (.step running)
  | collect _ collecting ih => exact ih.tail (.collect collecting)
  | reset _ ih => exact ih.tail .reset

theorem Records.run (records : initial.Records machine ledger) (fuel : Nat) :
    initial.Records (machine.run fuel) (machine.recordRun fuel ledger) := by
  induction fuel generalizing machine ledger with
  | zero => exact records
  | succ fuel ih =>
      rw [Machine.run, recordRun]
      split
      · next running => exact ih (.step records running)
      · exact records

/-- As long as nothing is declared, an empty ledger stays empty. -/
theorem Records.still (records : initial.Records machine []) {after : Machine}
    (stepped : machine.step = after) (running : machine.isRunning = true)
    (nothing : machine.declaration? = none) : initial.Records after [] := by
  have recorded : machine.record [] = [] := by
    rw [record, entered, nothing]
    rfl
  have records := records.step running
  rwa [recorded, stepped] at records

/-! ### Ledgers and containers -/

/-- For the containers that live, a copy of the arena has what a ledger lists. -/
def Lists (machine : Machine) (copy : Arena) (ledger : Ledger) : Prop :=
  ∀ container name, machine.arena.isLive container = true →
    copy.candidates? container name = ledger.candidates? container name

/-- Without what was declared in a region a ledger lists what there was when the region was
opened. What was declared in a region was also declared in those around it. -/
structure Dated (machine : Machine) (copies : List Arena) (ledger : Ledger) : Prop where
  mirrors : BindingKind.candidates.Mirrors machine.regions.items copies machine.arena
  copied {index serial : Nat} {copy : Arena} (opened : machine.serials[index]? = some serial)
    (copied : copies[index]? = some copy) : machine.Lists copy (ledger.outside [serial])
  issued {entry : Declaration} (member : entry ∈ ledger) : machine.arena.Issued entry.container
  nested : machine.serials.Pairwise fun inner outer =>
    ∀ entry ∈ ledger, inner ∈ entry.within → outer ∈ entry.within
  earlier {entry : Declaration} {serial : Nat} (member : entry ∈ ledger)
    (made : serial ∈ entry.within) : serial < machine.nextSerial

/-- The whole ledger lists what there is now. -/
structure Listed (machine : Machine) (copies : List Arena) (ledger : Ledger) : Prop
    extends machine.Dated copies ledger where
  current : machine.Lists machine.arena ledger

/-- Declarations in containers that are gone make no difference. -/
theorem Listed.standing (listed : machine.Listed copies ledger) :
    machine.Listed copies (ledger.standing machine.arena) where
  mirrors := listed.mirrors
  copied := by
    intro index serial copy opened copied container name live
    rw [Ledger.outside_standing, Ledger.candidates?_standing live]
    exact listed.copied opened copied container name live
  issued := fun member => listed.issued (Ledger.mem_standing.mp member).1
  nested := listed.nested.imp fun nested entry member =>
    nested entry (Ledger.mem_standing.mp member).1
  earlier := fun member => listed.earlier (Ledger.mem_standing.mp member).1
  current := by
    intro container name live
    rw [Ledger.candidates?_standing live]
    exact listed.current container name live

theorem Sound.serials_nodup (sound : machine.Sound) : machine.serials.Nodup := by
  have ordered := List.pairwise_map.mp sound.layered.ordered
  rw [serials, List.Nodup, List.pairwise_map]
  exact ordered.imp Nat.ne_of_gt

theorem Sound.serial_lt (sound : machine.Sound) {serial : Nat} (opened : serial ∈ machine.serials) :
    serial < machine.nextSerial := by
  obtain ⟨region, member, rfl⟩ := List.mem_map.mp opened
  exact sound.layered.opened (List.mem_map_of_mem member)

theorem mem_take_of_rolledBack {serial : Nat}
    (left : machine.step.serials = machine.serials.drop closed)
    (gone : serial ∈ machine.rolledBack) : serial ∈ machine.serials.take closed := by
  unfold rolledBack at gone
  split at gone
  · cases gone
  · obtain ⟨opened, absent⟩ := List.mem_filter.mp gone
    rw [← List.take_append_drop closed machine.serials, List.mem_append] at opened
    exact opened.resolve_right (left ▸ of_decide_eq_true absent)

/-- Unless they are committed, the regions that go are rolled back, the innermost first. -/
theorem rolledBack_eq (sound : machine.Sound)
    (left : machine.step.serials = machine.serials.drop closed)
    (other : machine.instruction? ≠ some .commitRegion) :
    machine.rolledBack = machine.serials.take closed := by
  have parts := List.take_append_drop closed machine.serials
  have apart := List.disjoint_of_nodup_append (parts.symm ▸ sound.serials_nodup)
  rw [rolledBack, if_neg other, left]
  generalize machine.serials.take closed = inner at parts apart ⊢
  generalize machine.serials.drop closed = outer at parts apart ⊢
  rw [← parts, List.filter_append, List.filter_eq_self.mpr, List.filter_eq_nil_iff.mpr,
    List.append_nil]
  · intro serial kept
    simpa using kept
  · intro serial gone
    simpa using apart gone

/-- Containers that come to life were not issued before, and nothing lists them. -/
theorem Lists.step {copy : Arena} (lists : machine.Lists copy ledger) (sound : machine.Sound)
    (goesOn : machine.step.isRunning = true) (rare : machine.step.arena.Rare)
    (copied : ∀ container, copy.isLive container = true → machine.arena.Issued container)
    (issued : ∀ entry ∈ ledger, machine.arena.Issued entry.container) :
    machine.step.Lists copy ledger := by
  obtain ⟨code, -, evolves⟩ := step_evolves sound.enabled goesOn
  intro container name live
  cases stood : machine.arena.isLive container with
  | true => exact lists container name stood
  | false =>
      have new := evolves_unissued sound rare evolves stood live
      have dead : copy.isLive container = false := by
        by_contra stood
        exact new (copied container (Bool.not_eq_false _ ▸ stood))
      rw [candidates?_dead dead, Ledger.candidates?_eq_none]
      rintro entry member rfl
      exact new (issued entry member)

theorem copied_issued (mirrors : BindingKind.candidates.Mirrors machine.regions.items copies
    machine.arena) {copy : Arena} (member : copy ∈ copies) {container : ContainerId}
    (live : copy.isLive container = true) : machine.arena.Issued container := by
  obtain ⟨index, bound, rfl⟩ := List.getElem_of_mem member
  have tracks := mirrors.tracks.get (mirrors.tracks.length_eq ▸ bound) bound
  exact tracks.copied live

/-- Nothing that the ledger has was declared in the region that is opened. -/
theorem Listed.opens (listed : machine.Listed copies ledger)
    (goesOn : machine.step.isRunning = true) (rare : machine.step.arena.Rare)
    (next : machine.instruction? = some .openRegion) :
    machine.step.Listed (machine.arena :: copies) (machine.entered ledger) := by
  obtain ⟨same, ⟨-, stopped⟩ | ⟨counter, owner, pushed⟩⟩ := step_openRegion next
  · exact Bool.noConfusion (goesOn.symm.trans stopped)
  have serials : machine.step.serials = machine.nextSerial :: machine.serials := by
    rw [Machine.serials, pushed]
    rfl
  have recorded : machine.entered ledger = ledger := by
    have nothing : machine.declaration? = none := by
      rw [declaration?, next]
    have none : machine.rolledBack = [] := by
      rw [rolledBack, next, if_neg (by simp), List.filter_eq_nil_iff]
      intro serial opened
      simp [serials, opened]
    rw [entered, nothing, none, Ledger.outside_nil, Option.toList_none, List.nil_append]
  have live {container : ContainerId} (live : machine.step.arena.isLive container = true) :
      machine.arena.isLive container = true :=
    same ▸ live
  have apart : ledger.outside [machine.nextSerial] = ledger := by
    apply Ledger.outside_eq_self
    intro entry member serial new made
    cases List.mem_singleton.mp new
    exact Nat.lt_irrefl _ (listed.earlier member made)
  rw [recorded]
  exact {
    mirrors := by
      rw [same] at rare
      rw [pushed, same]
      exact listed.mirrors.open rare
    copied := by
      intro index serial copy opened copied container name lives
      rw [serials] at opened
      cases index with
      | zero =>
          cases opened
          cases copied
          rw [apart]
          exact listed.current container name (live lives)
      | succ index => exact listed.copied opened copied container name (live lives)
    issued := fun member => same ▸ listed.issued member
    nested := by
      rw [serials, List.pairwise_cons]
      refine ⟨fun outer _ entry member made => ?_, listed.nested⟩
      exact absurd (listed.earlier member made) (Nat.lt_irrefl _)
    earlier := fun member made => by
      rw [counter]
      exact Nat.lt_succ_of_lt (listed.earlier member made)
    current := fun container name lives => by
      rw [same]
      exact listed.current container name (live lives) }

theorem Dated.aged (dated : machine.Dated copies ledger) (sound : machine.Sound)
    (goesOn : machine.step.isRunning = true) (rare : machine.step.arena.Rare) {index serial : Nat}
    {copy : Arena} (opened : machine.serials[index]? = some serial)
    (copied : copies[index]? = some copy) : machine.step.Lists copy (ledger.outside [serial]) :=
  (dated.copied opened copied).step sound goesOn rare
    (fun _ live => copied_issued dated.mirrors (List.mem_of_getElem? copied) live)
    fun _ member => dated.issued (Ledger.mem_outside.mp member).1

theorem Dated.around (dated : machine.Dated copies ledger) {count inner outer : Nat}
    (closed : inner ∈ machine.serials.take count) (kept : outer ∈ machine.serials.drop count)
    (entry : Declaration) (member : entry ∈ ledger) (made : inner ∈ entry.within) :
    outer ∈ entry.within := by
  have nested := dated.nested
  rw [← List.take_append_drop count machine.serials] at nested
  exact (List.pairwise_append.mp nested).2.2 inner closed outer kept entry member made

/-- What was declared in the regions that are closed goes, unless they are committed. -/
theorem Dated.closes (dated : machine.Dated copies ledger) (sound : machine.Sound)
    (running : machine.isRunning = true) (goesOn : machine.step.isRunning = true)
    (rare : machine.step.arena.Rare)
    (left : machine.step.serials = machine.serials.drop closed)
    (counter : machine.step.nextSerial = machine.nextSerial)
    (mirrors : BindingKind.candidates.Mirrors machine.step.regions.items (copies.drop closed)
      machine.step.arena) :
    machine.step.Dated (copies.drop closed) (ledger.outside machine.rolledBack) where
  mirrors := mirrors
  copied := by
    intro index serial copy opened copied
    rw [left] at opened
    rw [Ledger.outside_outside, Ledger.outside_append_singleton fun entry member inner gone =>
      dated.around (mem_take_of_rolledBack left gone) (List.mem_of_getElem? opened) entry member]
    rw [List.getElem?_drop] at opened
    rw [List.getElem?_drop] at copied
    exact dated.aged sound goesOn rare opened copied
  issued := fun member =>
    (step_ages sound running).issued (dated.issued (Ledger.mem_outside.mp member).1)
  nested := by
    rw [left]
    refine (dated.nested.sublist (List.drop_sublist _ _)).imp fun nested entry member => ?_
    exact nested entry (Ledger.mem_outside.mp member).1
  earlier := fun member made => by
    rw [counter]
    exact dated.earlier (Ledger.mem_outside.mp member).1 made

/-- The ledger without what was declared in the regions that are rolled back lists what there was
when the outermost of them was opened. -/
theorem Dated.reverts (dated : machine.Dated copies ledger) (sound : machine.Sound)
    (goesOn : machine.step.isRunning = true) (rare : machine.step.arena.Rare)
    (left : machine.step.serials = machine.serials.drop closed)
    (fewer : closed ≤ machine.serials.length)
    (other : machine.instruction? ≠ some .commitRegion) {copy : Arena}
    (oldest : (copies.take closed).getLast? = some copy) :
    machine.step.Lists copy (ledger.outside machine.rolledBack) := by
  have even : copies.length = machine.serials.length := by
    rw [← dated.mirrors.tracks.length_eq, serials, List.length_map]
  cases closed with
  | zero => cases oldest
  | succ index =>
      have opened := List.getElem?_eq_getElem fewer
      have copied : copies[index]? = some copy := by
        rw [List.take_add_one, List.getElem?_eq_getElem (even ▸ fewer), Option.toList_some,
          List.getLast?_concat] at oldest
        rw [List.getElem?_eq_getElem (even ▸ fewer), oldest]
      rw [rolledBack_eq sound left other, List.take_add_one, opened, Option.toList_some,
        Ledger.outside_append_singleton]
      · exact dated.aged sound goesOn rare opened copied
      · intro entry member inner gone
        refine dated.around gone ?_ entry member
        rw [List.drop_eq_getElem_cons fewer]
        exact List.mem_cons_self

/-- A declaration that is entered was made in all the open regions. -/
theorem Dated.enter {entry : Declaration} (dated : machine.Dated copies ledger)
    (rare : machine.arena.Rare) (made : entry.within = machine.serials)
    (bounded : ∀ serial ∈ machine.serials, serial < machine.nextSerial)
    (live : machine.arena.isLive entry.container = true) :
    machine.Dated copies (entry :: ledger) where
  mirrors := dated.mirrors
  copied := by
    intro index serial copy opened copied
    have struck : Ledger.outside (entry :: ledger) [serial] = ledger.outside [serial] := by
      refine List.filter_cons_of_neg ?_
      simp [made, List.mem_of_getElem? opened]
    rw [struck]
    exact dated.copied opened copied
  issued := by
    intro other member
    rcases List.mem_cons.mp member with rfl | earlier
    · exact Arena.issued_of_live rare live
    · exact dated.issued earlier
  nested := by
    refine dated.nested.imp_of_mem fun _ opened nested other member => ?_
    rcases List.mem_cons.mp member with rfl | earlier
    · rw [made]
      exact fun _ => opened
    · exact nested other earlier
  earlier := by
    intro other serial member within
    rcases List.mem_cons.mp member with rfl | earlier
    · rw [made] at within
      exact bounded serial within
    · exact dated.earlier earlier within

/-- A declaration comes before the others of its container. -/
theorem Listed.declares {name : SymbolId} {function : FunctionId} {frame : Frame}
    (listed : machine.Listed copies ledger) (goesOn : machine.step.isRunning = true)
    (dated : machine.step.Dated copies ledger) (rare : machine.step.arena.Rare)
    (next : machine.instruction? = some (.declareFunction name function))
    (active : machine.active? = some frame)
    (bounded : ∀ serial ∈ machine.step.serials, serial < machine.step.nextSerial)
    (even : machine.step.serials = machine.serials) :
    machine.step.Listed copies (⟨frame.scope, name, function, machine.serials⟩ :: ledger) := by
  obtain ⟨written, live, -⟩ := step_declares goesOn next active
  have same : machine.step.arena.isLive = machine.arena.isLive := by
    rw [written]
    exact Arena.putCandidates_alike.live
  refine ⟨dated.enter rare even.symm bounded (same ▸ live), fun container name' lives => ?_⟩
  rw [same] at lives
  rw [written, Arena.candidates?_putCandidates, Ledger.candidates?_cons, ← listed.current _ _ live]
  by_cases here : container = frame.scope ∧ name' = name
  · rw [if_pos ⟨here.1, here.2, live⟩, if_pos here]
  · rw [if_neg fun both => here ⟨both.1, both.2.1⟩, if_neg here]
    exact listed.current container name' lives

/-- Where nothing is declared, what there was stays, or a rollback goes back to what there was when
a region was opened. -/
theorem Listed.others (listed : machine.Listed copies ledger) (sound : machine.Sound)
    (running : machine.isRunning = true) (goesOn : machine.step.isRunning = true)
    (rare : machine.step.arena.Rare) (next : machine.instruction? = some code)
    (counted : closed + machine.step.regions.size = machine.regions.size)
    (left : machine.step.serials = machine.serials.drop closed)
    (settled : BindingKind.candidates.Agrees machine.arena machine.step.arena ∨
      code.undoes ∧ machine.step.regions.size < machine.regions.size)
    (agrees : code ≠ .commitRegion → ∀ copy, (copies.take closed).getLast? = some copy →
      BindingKind.candidates.Agrees copy machine.step.arena) :
    machine.step.Lists machine.step.arena (ledger.outside machine.rolledBack) := by
  have agreed {copy : Arena} (agrees : BindingKind.candidates.Agrees copy machine.step.arena)
      (lists : machine.step.Lists copy (ledger.outside machine.rolledBack)) :
      machine.step.Lists machine.step.arena (ledger.outside machine.rolledBack) :=
    fun container name live => (agrees container name live).symm.trans (lists container name live)
  have kept (nothing : machine.rolledBack = [])
      (agrees : BindingKind.candidates.Agrees machine.arena machine.step.arena) :
      machine.step.Lists machine.step.arena (ledger.outside machine.rolledBack) := by
    refine agreed agrees ?_
    rw [nothing, Ledger.outside_nil]
    exact listed.current.step sound goesOn rare
      (fun _ => Arena.issued_of_live ((step_ages sound running).rare rare)) fun _ => listed.issued
  by_cases commits : code = .commitRegion
  · subst commits
    refine kept (if_pos next) (settled.resolve_right ?_)
    rintro ⟨undoing | raising, -⟩
    · cases undoing
    · cases raising
  · have other : machine.instruction? ≠ some .commitRegion := by
      rw [next]
      exact fun same => commits (Option.some.inj same)
    cases closed with
    | zero =>
        refine kept (rolledBack_eq sound left other) (settled.resolve_right ?_)
        rintro ⟨-, less⟩
        omega
    | succ index =>
        have fewer : index + 1 ≤ machine.serials.length := by
          rw [length_serials]
          omega
        have some : copies.take (index + 1) ≠ [] := by
          have even := listed.mirrors.tracks.length_eq
          rw [← Stack.size_eq] at even
          apply List.ne_nil_of_length_pos
          rw [List.length_take]
          omega
        have oldest := List.getLast?_eq_some_getLast some
        exact agreed (agrees commits _ oldest)
          (listed.reverts sound goesOn rare left fewer other oldest)

theorem Listed.step (listed : machine.Listed copies ledger) (sound : machine.Sound)
    (running : machine.isRunning = true) (goesOn : machine.step.isRunning = true)
    (rare : machine.step.arena.Rare) :
    ∃ copies', machine.step.Listed copies' (machine.record ledger) := by
  suffices ∃ copies', machine.step.Listed copies' (machine.entered ledger) from
    this.imp fun _ listed => listed.standing
  by_cases opens : machine.instruction? = some .openRegion
  · exact ⟨_, listed.opens goesOn rare opens⟩
  · obtain ⟨closed, counted, mirrors, agrees⟩ := Reference.step_closes
      BindingKind.candidates_recorded sound running rare opens listed.mirrors
    obtain ⟨code, next, evolves⟩ := step_evolves sound.enabled goesOn
    have differs : code ≠ .openRegion := fun same => opens (same ▸ next)
    obtain ⟨fewer, counter⟩ := evolves_serials evolves differs
    have left : machine.step.serials = machine.serials.drop closed := by
      rw [List.suffix_iff_eq_drop.mp fewer, length_serials, length_serials]
      congr 1
      omega
    have dated := listed.toDated.closes sound running goesOn rare left counter mirrors
    refine ⟨copies.drop closed, ?_⟩
    by_cases declares : ∃ name function, code = .declareFunction name function
    · obtain ⟨name, function, rfl⟩ := declares
      obtain ⟨coroutine, frame, -, -, active⟩ := sound.active
      have none : closed = 0 := by
        have size := (step_declares goesOn next active).2.2
        omega
      subst none
      have nothing : machine.rolledBack = [] :=
        rolledBack_eq sound left (by rw [next]; nofun)
      rw [nothing, Ledger.outside_nil] at dated
      rw [entered, declaration?, next, active, nothing, Ledger.outside_nil]
      have bounded : ∀ serial ∈ machine.step.serials, serial < machine.step.nextSerial := by
        rw [left, counter]
        exact fun _ => sound.serial_lt
      exact listed.declares goesOn dated rare next active bounded left
    · have recorded : machine.entered ledger = ledger.outside machine.rolledBack := by
        rw [entered, declaration?]
        split
        · next name function _ declares' _ =>
            exact absurd ⟨name, function, Option.some.inj (next.symm.trans declares')⟩ declares
        · rfl
      rw [recorded]
      refine ⟨dated, ?_⟩
      have settled := evolves_agrees sound rare evolves differs fun name function declares' =>
        declares ⟨name, function, declares'⟩
      refine listed.others sound running goesOn rare next counted left settled fun stays => ?_
      exact agrees fun commits => stays (Option.some.inj (next.symm.trans commits))

section Run

variable {program : Program} {args : List Value} {settings : Settings}

/-- Every ledger of a run lists what the containers have that live. -/
theorem Records.listed (started : start program args settings = .ok initial)
    (records : initial.Records machine ledger) (running : machine.isRunning = true)
    (rare : machine.arena.Rare) : ∃ copies, machine.Listed copies ledger := by
  induction records with
  | empty =>
      obtain ⟨_, _, -, -, -, -, rfl⟩ := start_eq started
      have none (container : ContainerId) (name : SymbolId) :
          (Arena.empty.place none).2.candidates? container name = none :=
        (candidates?_place Arena.empty_sound).trans rfl
      exact ⟨[], ⟨.empty, nofun, nofun, .nil, nofun⟩, fun container name _ => none container name⟩
  | @step machine ledger records ran ih =>
      have reachable : Reachable program args settings machine := ⟨initial, started, records.reaches⟩
      have sound := reachable.sound ran
      obtain ⟨copies, listed⟩ := ih ran ((step_ages sound ran).rare rare)
      exact listed.step sound ran running rare
  | collect | reset =>
      next ih =>
      obtain ⟨copies, listed⟩ := ih running rare
      exact ⟨copies, ⟨listed.mirrors, listed.copied, listed.issued, listed.nested, listed.earlier⟩,
        listed.current⟩

end Run

end Machine

end Backtrack
