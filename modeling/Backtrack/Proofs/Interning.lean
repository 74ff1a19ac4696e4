import Backtrack.Proofs.Tandem
import Backtrack.Proofs.Transcripts
import Backtrack.Proofs.Turns
import Mathlib.Data.List.Dedup
import Std.Data.TreeMap.Lemmas

/-!
Interned nodes. A table has every structure once, so what two nodes are interned as is in the same
allocation exactly when they have the same structure, and the size of the table is the number of
different structures. It makes no difference whether the fields of a node were interned themselves
or built apart. The table of a machine holds the nodes that its instructions have built, and nothing
else, and a register gets the node of the table.
-/

namespace Backtrack

namespace NodeTable

variable {table : NodeTable} {node other : Node} {position : Nat} {value : Value}
  {entries : List (Node × Value)}

/-- How many structures there are among nodes. -/
def structures (nodes : List Node) : Nat :=
  (nodes.map Node.bare).dedup.length

/-- Every structure is in the table once, among the nodes with its fingerprint. -/
structure Tidy (table : NodeTable) : Prop where
  once : (table.nodes.toList.map Node.bare).Nodup
  listed {position : Nat} {node : Node} (stored : table.nodes[position]? = some node) :
    position ∈ table.positions.getD node.fingerprint []

/-- Nodes, each with what it was interned as. -/
structure Shares (entries : List (Node × Value)) : Prop where
  /-- Results are in the same allocation exactly when their nodes have the same structure. -/
  same {node node' : Node} {value value' : Value} (interned : (node, value) ∈ entries)
    (interned' : (node', value') ∈ entries) :
    value.home? = value'.home? ↔ node.same node' = true
  /-- They are in the same allocation exactly when they have the same structure themselves. -/
  results {node node' : Node} {value value' : Value} (interned : (node, value) ∈ entries)
    (interned' : (node', value') ∈ entries) :
    value.home? = value'.home? ↔ value.same value' = true
  /-- An allocation has one node in it. -/
  one {node node' : Node} {value value' : Value} (interned : (node, value) ∈ entries)
    (interned' : (node', value') ∈ entries) (together : value.home? = value'.home?) :
    value = value'
  /-- The result is a node of the table with the structure that was asked for. -/
  alike {node : Node} {value : Value} (interned : (node, value) ∈ entries) :
    ∃ number, value.home? = some (.table number) ∧
      value.same (node.keptAt (.table number)) = true

theorem Shares.mono {entries' : List (Node × Value)} (shares : Shares entries)
    (within : entries' ⊆ entries) : Shares entries' where
  same interned interned' := shares.same (within interned) (within interned')
  results interned interned' := shares.results (within interned) (within interned')
  one interned interned' := shares.one (within interned) (within interned')
  alike interned := shares.alike (within interned)

theorem tidy_empty : empty.Tidy where
  once := List.nodup_nil
  listed stored := by simp [empty] at stored

theorem Tidy.position_unique {position' : Nat} (tidy : table.Tidy)
    (stored : table.nodes[position]? = some node) (stored' : table.nodes[position']? = some other)
    (same : node.same other = true) : position = position' := by
  have bare : (table.nodes.toList.map Node.bare)[position]? = some node.bare := by
    simp [stored]
  have bare' : (table.nodes.toList.map Node.bare)[position']? = some node.bare := by
    simp [stored', Node.same_iff.mp same]
  have within := (List.getElem?_eq_some_iff.mp bare).1
  exact (List.getElem?_inj within tidy.once).mp (bare.trans bare'.symm)

/-- A node of the table is found by its structure. -/
theorem intern_stored (tidy : table.Tidy) (stored : table.nodes[position]? = some other)
    (same : other.same node = true) :
    table.intern node = (other.keptAt (.table position), table) := by
  have listed := tidy.listed stored
  rw [Node.fingerprint_eq_of_same same] at listed
  unfold intern
  split
  · next existing found =>
      obtain ⟨other', position', rfl, stored', same'⟩ := find?_eq_some found
      have alike : other.same other' = true :=
        Node.same_iff.mpr ((Node.same_iff.mp same).trans (Node.same_iff.mp same').symm)
      obtain rfl := tidy.position_unique stored stored' alike
      cases stored.symm.trans stored'
      rfl
  · next missing =>
      have skipped := List.findSome?_eq_none_iff.mp missing position listed
      simp [stored, same, kept?] at skipped

/-- A node of a new structure joins the end of the table. -/
theorem intern_new (absent : node.bare ∉ table.nodes.toList.map Node.bare) :
    table.intern node = (node.keptAt (.table table.nodes.size), {
      nodes := table.nodes.push node
      positions := table.positions.insert node.fingerprint
        (table.nodes.size :: table.positions.getD node.fingerprint []) }) := by
  unfold intern
  split
  · next existing found =>
      obtain ⟨other, position, -, stored, same⟩ := find?_eq_some found
      have member : other ∈ table.nodes.toList :=
        Array.mem_toList_iff.mpr (Array.mem_of_getElem? stored)
      exact absurd (List.mem_map.mpr ⟨other, member, Node.same_iff.mp same⟩) absent
  · rfl

theorem Tidy.intern (tidy : table.Tidy) (node : Node) : (table.intern node).2.Tidy := by
  by_cases member : node.bare ∈ table.nodes.toList.map Node.bare
  · obtain ⟨other, member, same⟩ := List.mem_map.mp member
    obtain ⟨position, stored⟩ := Array.getElem?_of_mem (Array.mem_toList_iff.mp member)
    rwa [intern_stored tidy stored (Node.same_iff.mpr same)]
  · rw [intern_new member]
    refine ⟨?_, fun {position other} stored => ?_⟩
    · rw [Array.toList_push, List.map_append, List.map_singleton, ← List.concat_eq_append]
      exact tidy.once.concat member
    · rw [Std.TreeMap.getD_insert]
      rw [Array.getElem?_push] at stored
      split at stored
      · cases stored
        simp [*]
      · have listed := tidy.listed stored
        split
        · next same =>
            rw [Std.compare_eq_iff_eq.mp same]
            exact List.mem_cons_of_mem _ listed
        · exact listed

theorem nodes_intern_cases (table : NodeTable) (node : Node) :
    (table.intern node).2.nodes = table.nodes ∨
      (table.intern node).2.nodes = table.nodes.push node := by
  unfold intern
  split
  · exact .inl rfl
  · exact .inr rfl

theorem size_le_intern : table.size ≤ (table.intern node).2.size := by
  rcases table.nodes_intern_cases node with same | grown
  · rw [size, size, same]
  · rw [size, size, grown, Array.size_push]
    omega

/-- A node keeps its allocation. -/
theorem stored_intern (stored : table.nodes[position]? = some other) :
    (table.intern node).2.nodes[position]? = some other := by
  rcases table.nodes_intern_cases node with same | grown
  · rwa [same]
  · have within := (Array.getElem?_eq_some_iff.mp stored).1
    rw [grown, Array.getElem?_push_lt within]
    exact (Array.getElem?_eq_getElem within).symm.trans stored

theorem mem_intern (member : other ∈ (table.intern node).2.nodes) :
    other ∈ table.nodes ∨ other = node := by
  rcases table.nodes_intern_cases node with same | grown
  · exact .inl (same ▸ member)
  · exact Array.mem_push.mp (grown ▸ member)

/-! Histories -/

/-- The nodes of a table are those that were interned, and stay in their allocations. -/
structure Accounts (entries : List (Node × Value)) (table : NodeTable) : Prop where
  tidy : table.Tidy
  stored {node : Node} {value : Value} (interned : (node, value) ∈ entries) :
    ∃ (other : Node) (position : Nat), value = other.keptAt (.table position) ∧
      table.nodes[position]? = some other ∧ other.same node = true
  interned {node : Node} (member : node ∈ table.nodes) : ∃ value, (node, value) ∈ entries

theorem accounts_empty : Accounts [] empty where
  tidy := tidy_empty
  stored interned := absurd interned List.not_mem_nil
  interned member := absurd member (Array.not_mem_empty _)

theorem Accounts.intern (accounts : Accounts entries table) (node : Node) :
    Accounts (entries ++ [(node, (table.intern node).1)]) (table.intern node).2 where
  tidy := accounts.tidy.intern node
  stored {node' value} interned := by
    rcases List.mem_append.mp interned with earlier | last
    · obtain ⟨other, position, kept, stored, same⟩ := accounts.stored earlier
      exact ⟨other, position, kept, stored_intern stored, same⟩
    · cases List.mem_singleton.mp last
      exact table.intern_eq node
  interned {other} member := by
    rcases mem_intern member with earlier | rfl
    · obtain ⟨value, interned⟩ := accounts.interned earlier
      exact ⟨value, List.mem_append_left _ interned⟩
    · exact ⟨_, List.mem_append_right _ (List.mem_singleton.mpr rfl)⟩

theorem Accounts.home_eq_iff {node' : Node} {value' : Value} (accounts : Accounts entries table)
    (interned : (node, value) ∈ entries) (interned' : (node', value') ∈ entries) :
    value.home? = value'.home? ↔ node.same node' = true := by
  obtain ⟨other, position, rfl, stored, same⟩ := accounts.stored interned
  obtain ⟨other', position', rfl, stored', same'⟩ := accounts.stored interned'
  rw [Node.same_iff] at same same'
  rw [Node.same_iff, ← same, ← same', ← Node.same_iff]
  constructor
  · intro together
    cases together
    cases stored.symm.trans stored'
    exact other.same_refl
  · intro alike
    rw [accounts.tidy.position_unique stored stored' alike]
    rfl

theorem Accounts.shares (accounts : Accounts entries table) : Shares entries where
  same := accounts.home_eq_iff
  results {node node' value value'} interned interned' := by
    rw [accounts.home_eq_iff interned interned']
    obtain ⟨other, position, rfl, -, same⟩ := accounts.stored interned
    obtain ⟨other', position', rfl, -, same'⟩ := accounts.stored interned'
    rw [Node.same_keptAt, Node.same_iff, Node.same_iff, Node.same_iff.mp same,
      Node.same_iff.mp same']
  one {node node' value value'} interned interned' together := by
    obtain ⟨other, position, rfl, stored, -⟩ := accounts.stored interned
    obtain ⟨other', position', rfl, stored', -⟩ := accounts.stored interned'
    cases together
    cases stored.symm.trans stored'
    rfl
  alike {node value} interned := by
    obtain ⟨other, position, rfl, -, same⟩ := accounts.stored interned
    exact ⟨position, rfl, same⟩

/-- The table has as many nodes as there are structures among those that were interned. -/
theorem Accounts.size_eq (accounts : Accounts entries table) :
    table.size = structures (entries.map Prod.fst) := by
  have perm : (table.nodes.toList.map Node.bare).Perm
      ((entries.map Prod.fst).map Node.bare).dedup := by
    rw [List.perm_ext_iff_of_nodup accounts.tidy.once (List.nodup_dedup _)]
    intro bare
    rw [List.mem_dedup, List.mem_map, List.mem_map]
    constructor
    · rintro ⟨node, member, rfl⟩
      obtain ⟨value, interned⟩ := accounts.interned (Array.mem_toList_iff.mp member)
      exact ⟨node, List.mem_map.mpr ⟨(node, value), interned, rfl⟩, rfl⟩
    · rintro ⟨node, member, rfl⟩
      obtain ⟨⟨node, value⟩, interned, rfl⟩ := List.mem_map.mp member
      obtain ⟨other, position, -, stored, same⟩ := accounts.stored interned
      exact ⟨other, Array.mem_toList_iff.mpr (Array.mem_of_getElem? stored), Node.same_iff.mp same⟩
  rw [structures, ← perm.length_eq, List.length_map, Array.length_toList, NodeTable.size]

theorem accounts_transcribe (nodes : List Node) :
    Accounts (transcribe intern empty nodes).1 (transcribe intern empty nodes).2 :=
  holds_of_transcribed accounts_empty (fun _ _ node accounts => accounts.intern node) rfl

end NodeTable

/-- The table after a node, if there is one, was interned. -/
def NodeTable.adding (table : NodeTable) : Option Node → NodeTable
  | some node => (table.intern node).2
  | none => table

namespace Machine

variable {machine initial : Machine} {table : NodeTable} {code : Instruction} {dst : Reg}
  {ctor : ConstructorId} {fields : List Reg} {frame : Frame} {node : Node} {value : Value}
  {entries : List (Node × Option Value)} {program : Program} {args : List Value}
  {settings : Settings}

/-- The node that an instruction of the active frame builds. It builds none if it faults before. -/
def node? (machine : Machine) (code : Instruction) : Option Node := do
  let frame ← machine.active?
  match code with
  | .makeNode _ ctor fields =>
      let decl ← machine.program.constructor? ctor
      if decl.arity = fields.length then
        return ⟨ctor, ← (frame.readAll fields).toOption⟩
      else none
  | _ => none

/-- The node that the next instruction builds. -/
def built? (machine : Machine) : Option Node := do
  machine.node? (← machine.instruction?)

/-- What is in the register of an instruction that builds a node, once the instruction was executed
and the machine goes on. -/
def result? (machine : Machine) : Option Value := do
  match ← machine.instruction? with
  | .makeNode dst _ _ =>
      if machine.step.isRunning then ((← machine.step.active?).read dst).toOption else none
  | _ => none

/-- The node that the next instruction builds, with its result. -/
def building (machine : Machine) : List (Node × Option Value) :=
  machine.built?.toList.map fun node => (node, machine.result?)

/-- The nodes that a run has built, each with its result, the first of them first. -/
inductive Builds (initial : Machine) : Machine → List (Node × Option Value) → Prop
  | none : Builds initial initial []
  | step {machine : Machine} {entries : List (Node × Option Value)}
      (builds : Builds initial machine entries) (running : machine.isRunning = true) :
      Builds initial machine.step (entries ++ machine.building)
  | collect {machine : Machine} {entries : List (Node × Option Value)}
      (builds : Builds initial machine entries) (collecting : Bool) :
      Builds initial (machine.collectCounters collecting) entries
  | reset {machine : Machine} {entries : List (Node × Option Value)}
      (builds : Builds initial machine entries) : Builds initial machine.resetCounters entries

/-- The nodes whose instructions have written a result, with what they wrote. -/
def written (entries : List (Node × Option Value)) : List (Node × Value) :=
  entries.filterMap fun (node, result) => result.map fun value => (node, value)

/-- The nodes that so many steps build on top of others. -/
def buildRun : Nat → Machine → List (Node × Option Value) → List (Node × Option Value)
  | 0, _, entries => entries
  | fuel + 1, machine, entries =>
      if machine.isRunning then buildRun fuel machine.step (entries ++ machine.building) else entries

@[simp] theorem nodes_count {change : Counters → Counters} :
    (machine.count change).nodes = machine.nodes := by
  unfold count
  split <;> rfl

@[simp] theorem nodes_fetched : (machine.fetched code).nodes = machine.nodes :=
  (machine.fetched_eq code).elim fun _ same => (congrArg nodes same).trans rfl

/-! Other instructions -/

theorem steady_nodes : Steady (·.nodes = table) (·.nodes = table) where
  fault same := same
  coroutine same _ _ := same
  current same _ := same
  arena same _ := same
  nextFrame same _ := same
  logs same _ := same
  opened same _ _ := nodes_count.trans same
  committed same _ _ := nodes_count.trans same
  undone same _ _ _ _ := nodes_count.trans same
  popped same := same

theorem carries_nodes (other : code.builds = false) :
    Carries code (Twin (·.nodes = table)) (Twin (·.nodes = table))
      (fun _ => Twin (·.nodes = table)) (Twin (·.nodes = table)) where
  first := steady_nodes.parallel
  second := steady_nodes.parallel
  proceeds _ _ _ twin := twin
  ends _ _ _ _ twin := twin
  created _ coroutine _ _ := .map (fun machine =>
    { machine with coroutines := machine.coroutines.push coroutine }) fun _ same => same
  built builds := absurd (builds.symm.trans other) nofun
  added _ _ _ twin := twin
  tried _ count _ _ := .map (·.count (.trying count)) fun _ same => nodes_count.trans same
  raised _ _ _ := .map (·.count .raising) fun _ same => nodes_count.trans same
  caught _ _ _ := .map (·.count .catching) fun _ same => nodes_count.trans same
  uncaught _ _ _ _ twin := twin

/-- An instruction that builds no node leaves the table as it is. -/
theorem execute_leads_nodes (other : code.builds = false) :
    (Action.execute code).Leads machine (fun _ after => after.nodes = machine.nodes)
      fun _ after => after.nodes = machine.nodes :=
  (Action.execute_tandem (carries_nodes other)).leads rfl

/-- What the table gives for a node is written to the register. -/
theorem makeNode_leads (active : machine.active? = some frame) :
    (Action.makeNode dst ctor fields).Leads machine
      (fun _ after => ∃ node frame, machine.node? (.makeNode dst ctor fields) = some node ∧
        after.nodes = (machine.nodes.intern node).2 ∧ after.active? = some frame ∧
          frame.read dst = .ok (machine.nodes.intern node).1)
      fun _ after =>
        after.nodes = machine.nodes.adding (machine.node? (.makeNode dst ctor fields)) := by
  simp only [Action.makeNode, Action.leads_bind, Action.leads_get]
  cases found : machine.program.constructor? ctor with
  | none =>
      have none : machine.node? (.makeNode dst ctor fields) = none := by simp [node?, active, found]
      rw [none]
      rfl
  | some decl =>
      simp only [Action.leads_bind, Action.leads_ensure, Action.leads_frame_active active,
        Action.leads_ofExcept, Action.leads_intern]
      refine ⟨fun fits => ⟨fun values passed => ?_, fun fault failed => ?_⟩, fun unfit => ?_⟩
      · have builds : machine.node? (.makeNode dst ctor fields) = some ⟨ctor, values⟩ := by
          simp [node?, active, found, fits, passed, Except.toOption]
        have active' : { machine with
            nodes := (machine.nodes.intern ⟨ctor, values⟩).2 }.active? = some frame := active
        rw [builds, Action.leads_write_active active']
        refine ⟨fun room => ⟨_, _, rfl, rfl, active?_updateFrame active', ?_⟩, fun _ => rfl⟩
        exact Frame.read_receive room
      · have none : machine.node? (.makeNode dst ctor fields) = none := by
          simp [node?, active, found, failed, Except.toOption]
        rw [none]
        rfl
      · have none : machine.node? (.makeNode dst ctor fields) = none := by
          simp [node?, active, found, unfit]
        rw [none]
        rfl

theorem node?_other (other : code.builds = false) : machine.node? code = none := by
  cases code with
  | makeNode => cases other
  | _ => simp [node?]

theorem node?_fetched (active : machine.active? = some frame) :
    (machine.fetched code).node? code = machine.node? code := by
  cases code with
  | makeNode dst ctor fields =>
      have same : { frame with pc := frame.pc + 1 }.readAll fields = frame.readAll fields := rfl
      simp only [node?, active?_fetched active, active, program_fetched, Option.bind_eq_bind,
        Option.bind_some, same]
  | _ => rw [node?_other rfl, node?_other rfl]

/-- Whether an instruction goes on or faults, the table has the node that it builds. -/
theorem execute_leads_adding (code : Instruction) (active : machine.active? = some frame) :
    (Action.execute code).Leads machine
      (fun _ after => after.nodes = machine.nodes.adding (machine.node? code))
      fun _ after => after.nodes = machine.nodes.adding (machine.node? code) := by
  cases code with
  | makeNode dst ctor fields =>
      simp only [Action.execute, Action.thenProceed, Action.leads_bind]
      refine (makeNode_leads active).mono ?_ fun _ _ same => same
      rintro _ after ⟨node, frame, builds, same, -⟩
      rw [builds]
      exact same
  | _ =>
      rw [node?_other rfl]
      exact execute_leads_nodes rfl

/-- Where there is no instruction to fetch, the table stays as it is. -/
theorem cycle_leads_missing (missing : machine.instruction? = none) :
    Action.cycle.Leads machine (fun _ after => after.nodes = machine.nodes)
      fun _ after => after.nodes = machine.nodes := by
  obtain ⟨counters, counted⟩ := machine.count_eq (·.noteDepth machine.depth)
  simp only [Action.cycle, Action.noteDepth, Action.fetch, Action.leads_bind, Action.leads_modify,
    Action.leads_frame, Action.leads_updateFrame, Action.leads_get, counted]
  refine ⟨fun frame active => ?_, fun _ _ _ => trivial, fun _ => trivial⟩
  split
  · rfl
  · next unit found =>
      split
      · next instruction fetches =>
          have present := instruction?_eq_some_iff.mpr ⟨frame, unit, active, found, fetches⟩
          exact absurd (missing.symm.trans present) (by simp)
      · rfl

theorem nodes_step : machine.step.nodes = machine.nodes.adding machine.built? := by
  have leads : Action.cycle.Leads machine
      (fun _ after => after.nodes = machine.nodes.adding machine.built?)
      fun _ after => after.nodes = machine.nodes.adding machine.built? := by
    cases next : machine.instruction? with
    | none =>
        have none : machine.built? = none := by simp [built?, next]
        rw [none]
        exact cycle_leads_missing next
    | some code =>
        obtain ⟨frame, -, active, -⟩ := instruction?_eq_some_iff.mp next
        have builds : machine.built? = machine.node? code := by simp [built?, next]
        have active' : (machine.fetched code).active? = _ := active?_fetched active
        have leads := execute_leads_adding code active'
        rw [nodes_fetched, node?_fetched active, ← builds] at leads
        unfold Action.Leads at leads ⊢
        rw [cycle_eq next]
        exact leads
  unfold Action.Leads at leads
  unfold step
  split at leads
  · next outcome after ended =>
      rw [ended]
      cases outcome <;> exact leads
  · next fault after faulted =>
      rw [faulted]
      exact nodes_count.trans leads

/-- What the table gives for a node is in the register that the instruction names. -/
theorem step_makeNode (next : machine.instruction? = some (.makeNode dst ctor fields))
    (running : machine.step.isRunning = true) :
    ∃ node, machine.built? = some node ∧ machine.result? = some (machine.nodes.intern node).1 := by
  obtain ⟨frame, -, active, -⟩ := instruction?_eq_some_iff.mp next
  have leads : (Action.execute (.makeNode dst ctor fields)).Leads
      (machine.fetched (.makeNode dst ctor fields))
      (fun _ after => ∃ node frame, machine.built? = some node ∧ after.active? = some frame ∧
        frame.read dst = .ok (machine.nodes.intern node).1) fun _ _ => True := by
    simp only [Action.execute, Action.thenProceed, Action.leads_bind]
    refine (makeNode_leads (active?_fetched active)).mono ?_ fun _ _ _ => trivial
    rintro _ after ⟨node, frame', builds, -, active', written⟩
    rw [node?_fetched active] at builds
    rw [nodes_fetched] at written
    have built : machine.built? = some node := by simp [built?, next, builds]
    exact ⟨node, frame', built, active', written⟩
  obtain ⟨node, frame', built, active', written⟩ := step_of_leads next running leads
  have result : machine.result? = some (machine.nodes.intern node).1 := by
    simp [result?, next, running, active', written, Except.toOption]
  exact ⟨node, built, result⟩

/-- The result of an instruction that builds a node is what the table gives for it. -/
theorem result?_eq (built : machine.built? = some node) (result : machine.result? = some value) :
    value = (machine.nodes.intern node).1 := by
  obtain ⟨code, next, builds⟩ := Option.bind_eq_some_iff.mp result
  split at builds
  · next dst ctor fields =>
      split at builds
      · next running =>
          obtain ⟨node', built', result'⟩ := step_makeNode next running
          cases built.symm.trans built'
          exact Option.some.inj (result.symm.trans result')
      · cases builds
  · cases builds

/-! Runs -/

theorem Reaches.builds (reaches : initial.Reaches machine) :
    ∃ entries, initial.Builds machine entries := by
  induction reaches with
  | refl => exact ⟨[], .none⟩
  | tail _ moves ih =>
      obtain ⟨entries, builds⟩ := ih
      cases moves with
      | step running => exact ⟨_, .step builds running⟩
      | collect collecting => exact ⟨_, .collect builds collecting⟩
      | reset => exact ⟨_, .reset builds⟩

/-- A run interns the nodes that it builds, and writes what the table gives for them. -/
theorem Builds.interns (started : start program args settings = .ok initial)
    (builds : initial.Builds machine entries) :
    ∃ interned, NodeTable.Accounts interned machine.nodes ∧
      interned.map Prod.fst = entries.map Prod.fst ∧ written entries ⊆ interned := by
  induction builds with
  | none =>
      obtain ⟨_, _, -, -, -, -, rfl⟩ := start_eq started
      exact ⟨[], NodeTable.accounts_empty, rfl, List.nil_subset _⟩
  | @step machine entries _ _ ih =>
      obtain ⟨interned, accounts, nodes, within⟩ := ih
      rw [nodes_step, building]
      cases built : machine.built? with
      | none => exact ⟨interned, accounts, by simpa using nodes, by simpa using within⟩
      | some node =>
          refine ⟨_, accounts.intern node, by simp [nodes], ?_⟩
          rw [written, List.filterMap_append]
          refine List.append_subset.mpr ⟨List.subset_append_of_subset_left _ within, ?_⟩
          refine List.subset_append_of_subset_right _ ?_
          cases result : machine.result? with
          | none => exact List.nil_subset _
          | some value =>
              rw [result?_eq built result]
              exact List.Subset.refl _
  | collect _ _ ih => exact ih
  | reset _ ih => exact ih

theorem Builds.run (builds : initial.Builds machine entries) (fuel : Nat) :
    initial.Builds (machine.run fuel) (machine.buildRun fuel entries) := by
  induction fuel generalizing machine entries with
  | zero => exact builds
  | succ fuel ih =>
      rw [Machine.run, buildRun]
      split
      · next running => exact ih (.step builds running)
      · exact builds

theorem Moves.nodes_size {after : Machine} (moves : machine.Moves after) :
    machine.nodes.size ≤ after.nodes.size := by
  cases moves with
  | step =>
      rw [nodes_step]
      cases machine.built? with
      | none => exact Nat.le_refl _
      | some node => exact NodeTable.size_le_intern
  | collect | reset => exact Nat.le_refl _

theorem Reaches.nodes_size {after : Machine} (reaches : machine.Reaches after) :
    machine.nodes.size ≤ after.nodes.size := by
  induction reaches with
  | refl => exact Nat.le_refl _
  | tail _ moves ih => exact ih.trans moves.nodes_size

/-- The nodes that a run has built up to a machine, with what was written for them. -/
structure BuildsOnce (initial machine : Machine) : Prop where
  recorded : ∃ entries, initial.Builds machine entries
  /-- Results are in the same allocation exactly when they have the same structure. -/
  shares {entries : List (Node × Option Value)} (builds : initial.Builds machine entries) :
    NodeTable.Shares (written entries)
  /-- The machine has as many nodes as different ones were built. -/
  counts {entries : List (Node × Option Value)} (builds : initial.Builds machine entries) :
    machine.nodes.size = NodeTable.structures (entries.map Prod.fst)
  grows {after : Machine} (reaches : machine.Reaches after) :
    machine.nodes.size ≤ after.nodes.size
  /-- An instruction that builds a node and goes on has a result. -/
  writes {dst : Reg} {ctor : ConstructorId} {fields : List Reg}
    (next : machine.instruction? = some (.makeNode dst ctor fields))
    (running : machine.step.isRunning = true) :
    ∃ node value, machine.building = [(node, some value)]

/-- Nodes that are interned one after the other share an allocation exactly when they have the same
structure. So do the nodes that a machine builds. -/
theorem interned_once (started : start program args settings = .ok initial)
    (reaches : initial.Reaches machine) :
    (∀ nodes : List Node,
      (transcribe NodeTable.intern .empty nodes).1.map Prod.fst = nodes ∧
        NodeTable.Shares (transcribe NodeTable.intern .empty nodes).1 ∧
        (transcribe NodeTable.intern .empty nodes).2.size = NodeTable.structures nodes) ∧
      initial.BuildsOnce machine := by
  refine ⟨fun nodes => ?_, ?_⟩
  · have accounts := NodeTable.accounts_transcribe nodes
    have calls : (transcribe NodeTable.intern .empty nodes).1.map Prod.fst = nodes :=
      calls_transcribe nodes
    refine ⟨calls, accounts.shares, ?_⟩
    rw [accounts.size_eq, calls]
  · exact {
      recorded := reaches.builds
      shares := fun builds => by
        obtain ⟨interned, accounts, -, within⟩ := builds.interns started
        exact accounts.shares.mono within
      counts := fun builds => by
        obtain ⟨interned, accounts, nodes, -⟩ := builds.interns started
        rw [accounts.size_eq, nodes]
      grows := Reaches.nodes_size
      writes := fun next running => by
        obtain ⟨node, built, result⟩ := step_makeNode next running
        exact ⟨node, _, by rw [building, built, result]; rfl⟩ }

/-- Builds a leaf, then a pair of it and an argument in both orders, then another leaf. -/
def buildingProgram : Program :=
  { Program.empty with
    functions := #[
      { name := "main", registerCount := 5, parameterCount := 1, parameters := [.any]
        code := #[.const 1 (.int 3), .makeNode 2 ⟨0⟩ [1], .makeNode 3 ⟨1⟩ [0, 2],
          .makeNode 4 ⟨1⟩ [2, 0], .const 1 (.str "3"), .makeNode 2 ⟨0⟩ [1], .return 3] }]
    functionIndex := .ofList [("main", FunctionId.mk 0)]
    constructors := #[⟨"leaf", 1⟩, ⟨"pair", 2⟩]
    constructorIndex := .ofList [("leaf", ConstructorId.mk 0), ("pair", ConstructorId.mk 1)] }

/-- A leaf that a host has built apart. -/
def copiedLeaf : Value :=
  .node (.host 7) ⟨0⟩ [.int 3]

theorem interned_once_building :
    ∃ initial, start buildingProgram [copiedLeaf] .standard = .ok initial ∧
      initial.BuildsOnce (initial.run 6) ∧ (initial.run 6).nodes.size = 3 ∧
      ∃ leaf pair, leaf = .node (.table 0) ⟨0⟩ [.int 3] ∧
        pair = .node (.table 1) ⟨1⟩ [copiedLeaf, leaf] ∧
        initial.Builds (initial.run 6) [
          (⟨⟨0⟩, [.int 3]⟩, some leaf), (⟨⟨1⟩, [copiedLeaf, leaf]⟩, some pair),
          (⟨⟨1⟩, [leaf, copiedLeaf]⟩, some pair),
          (⟨⟨0⟩, [.str "3"]⟩, some (.node (.table 2) ⟨0⟩ [.str "3"]))] := by
  have runs : (match start buildingProgram [copiedLeaf] .standard with
      | .ok initial => decide ((initial.run 6).nodes.size = 3 ∧ initial.buildRun 6 [] = [
          (⟨⟨0⟩, [.int 3]⟩, some (.node (.table 0) ⟨0⟩ [.int 3])),
          (⟨⟨1⟩, [copiedLeaf, .node (.table 0) ⟨0⟩ [.int 3]]⟩,
            some (.node (.table 1) ⟨1⟩ [copiedLeaf, .node (.table 0) ⟨0⟩ [.int 3]])),
          (⟨⟨1⟩, [.node (.table 0) ⟨0⟩ [.int 3], copiedLeaf]⟩,
            some (.node (.table 1) ⟨1⟩ [copiedLeaf, .node (.table 0) ⟨0⟩ [.int 3]])),
          (⟨⟨0⟩, [.str "3"]⟩, some (.node (.table 2) ⟨0⟩ [.str "3"]))])
      | .error _ => false) = true := by decide +kernel
  split at runs
  · next initial started =>
      obtain ⟨size, built⟩ := of_decide_eq_true runs
      have builds := (Builds.none : initial.Builds initial []).run 6
      rw [built] at builds
      exact ⟨initial, started, (interned_once started (reaches_run 6)).2, size, _, _, rfl, rfl,
        builds⟩
  · cases runs

end Machine

end Backtrack
