import Backtrack.Proofs.Unwinding

/-!
Coroutines that values name. A value is bounded when every coroutine that it holds, at any depth, is
among the first so many. Programs only ever handle values that are bounded by the number of
coroutines there are: the literals hold none, and whatever is read was put somewhere before.
-/

namespace Backtrack

inductive Value.Bounded (count : Nat) : Value → Prop
  | unit : Value.Bounded count .unit
  | bool (b : Bool) : Value.Bounded count (.bool b)
  | int (n : Int64) : Value.Bounded count (.int n)
  | str (text : String) : Value.Bounded count (.str text)
  | node {home : Allocation} {ctor : ConstructorId} {fields : List Value}
      (inner : ∀ field ∈ fields, Value.Bounded count field) :
      Value.Bounded count (.node home ctor fields)
  | function (id : FunctionId) : Value.Bounded count (.function id)
  | coroutine {id : CoroutineId} (known : id.index < count) : Value.Bounded count (.coroutine id)

namespace Value

variable {count count' : Nat} {value : Value}

theorem Bounded.mono (bounded : value.Bounded count) (grown : count ≤ count') :
    value.Bounded count' := by
  induction bounded with
  | node _ ih => exact .node ih
  | coroutine known => exact .coroutine (Nat.lt_of_lt_of_le known grown)
  | _ => constructor

/-- Every list of values has a bound. -/
theorem exists_bounded_list {values : List Value}
    (all : ∀ value ∈ values, ∃ count, value.Bounded count) :
    ∃ count, ∀ value ∈ values, value.Bounded count := by
  induction values with
  | nil => exact ⟨0, by simp⟩
  | cons value rest ih =>
      obtain ⟨first, bounded⟩ := all value (by simp)
      obtain ⟨others, bounded'⟩ := ih fun other member => all other (by simp [member])
      refine ⟨max first others, fun other member => ?_⟩
      rcases List.mem_cons.mp member with rfl | later
      · exact bounded.mono (Nat.le_max_left ..)
      · exact (bounded' other later).mono (Nat.le_max_right ..)

theorem exists_bounded (value : Value) : ∃ count, value.Bounded count := by
  cases value with
  | node home ctor fields =>
      obtain ⟨count, inner⟩ := exists_bounded_list fun field (member : field ∈ fields) =>
        exists_bounded field
      exact ⟨count, .node inner⟩
  | coroutine id => exact ⟨id.index + 1, .coroutine (Nat.lt_succ_self _)⟩
  | _ => exact ⟨0, by constructor⟩
termination_by sizeOf value
decreasing_by
  have smaller := List.sizeOf_lt_of_mem member
  simp
  omega

theorem bounded_node_iff {home : Allocation} {ctor : ConstructorId} {fields : List Value} :
    (node home ctor fields).Bounded count ↔ ∀ field ∈ fields, field.Bounded count := by
  constructor
  · rintro (_ | _ | _ | _ | inner)
    exact inner
  · exact .node

mutual

theorem bounded_bare : (value : Value) → (value.bare.Bounded count ↔ value.Bounded count)
  | .node _ _ fields => by rw [bare, bounded_node_iff, bounded_node_iff, bounded_bares fields]
  | .unit | .bool _ | .int _ | .str _ | .function _ | .coroutine _ => Iff.rfl

theorem bounded_bares : (values : List Value) →
    ((∀ value ∈ bares values, value.Bounded count) ↔ ∀ value ∈ values, value.Bounded count)
  | [] => Iff.rfl
  | value :: rest => by
      rw [bares, List.forall_mem_cons, List.forall_mem_cons, bounded_bare value, bounded_bares rest]

end

/-- Wherever its nodes are kept, a value holds the same coroutines. -/
theorem Bounded.of_same {other : Value} (bounded : value.Bounded count)
    (same : value.same other = true) : other.Bounded count := by
  rw [← bounded_bare, ← (same_iff value other).mp same, bounded_bare]
  exact bounded

theorem bounded_ofLiteral {literal : Literal} : (ofLiteral literal).Bounded count := by
  cases literal <;> constructor

theorem bounded_apply {op : IntOp} {a b : Int64} : (op.apply a b).Bounded count := by
  cases op <;> constructor

theorem bounded_condition {condition : Condition}
    (thrown : ∀ value, condition.cause = .thrown value → value.Bounded count) :
    condition.value.Bounded count := by
  unfold Condition.value
  split
  · next value cause => exact thrown value cause
  · constructor

end Value

/-! Reading registers -/

/-- Faults that the check of a program rules out. -/
def Fault.internal : Fault → Bool
  | .logClosed _ | .ranOffEnd _ | .exhausted _ | .missingCaller _ | .staleCaller _
  | .suspendedIdle _ | .invalidRegister _ | .unknownId .. | .arityMismatch .. | .noActiveFrame =>
      true
  | _ => false

/-- A fault that a checked program may run into anywhere. Where values name coroutines that are not
there yet, it may not find one. -/
def Fault.Benign (strays : Nat) (fault : Fault) : Prop :=
  (strays = 0 ∨ (∀ index, fault ≠ .unknownId .coroutine index) → fault.internal = false) ∧
    fault ≠ .deadContainer

namespace Frame

variable {frame : Frame} {reg : Reg} {regs : List Reg} {count strays : Nat}
  {fault : Fault}

/-- Every value in a register is bounded. -/
def Bounded (count : Nat) (frame : Frame) : Prop :=
  ∀ reg value, frame.read reg = .ok value → value.Bounded count

theorem read_benign (room : frame.hasRegister reg = true) (failed : frame.read reg = .error fault) :
    fault.Benign strays := by
  simp only [hasRegister, decide_eq_true_eq] at room
  unfold read at failed
  split at failed
  · next missing => exact absurd room (Nat.not_lt.mpr (Array.getElem?_eq_none_iff.mp missing))
  · cases failed
    exact ⟨fun _ => rfl, by simp⟩
  · cases failed

theorem read_then_benign {α : Type} {next : Value → Except Fault α}
    (room : frame.hasRegister reg = true)
    (goesOn : ∀ value fault, next value = .error fault → fault.Benign strays)
    (failed : frame.read reg >>= next = .error fault) : fault.Benign strays := by
  cases found : frame.read reg with
  | error other =>
      rw [found] at failed
      cases failed
      exact read_benign room found
  | ok value =>
      rw [found] at failed
      exact goesOn value fault failed

theorem readInt_benign (room : frame.hasRegister reg = true)
    (failed : frame.readInt reg = .error fault) : fault.Benign strays :=
  read_then_benign room
    (fun value _ failed => by cases value <;> cases failed <;> exact ⟨fun _ => rfl, nofun⟩) failed

theorem readBool_benign (room : frame.hasRegister reg = true)
    (failed : frame.readBool reg = .error fault) : fault.Benign strays :=
  read_then_benign room
    (fun value _ failed => by cases value <;> cases failed <;> exact ⟨fun _ => rfl, nofun⟩) failed

theorem readCoroutine_benign (room : frame.hasRegister reg = true)
    (failed : frame.readCoroutine reg = .error fault) : fault.Benign strays :=
  read_then_benign room
    (fun value _ failed => by cases value <;> cases failed <;> exact ⟨fun _ => rfl, nofun⟩) failed

theorem readField_benign {position : Nat} (room : frame.hasRegister reg = true)
    (failed : frame.readField reg position = .error fault) : fault.Benign strays := by
  refine read_then_benign room (fun value _ failed => ?_) failed
  cases value with
  | node home ctor fields =>
      simp only at failed
      split at failed <;> cases failed
      exact ⟨fun _ => rfl, nofun⟩
  | _ =>
      cases failed
      exact ⟨fun _ => rfl, nofun⟩

theorem readAll_benign (room : ∀ reg ∈ regs, frame.hasRegister reg = true)
    (failed : frame.readAll regs = .error fault) : fault.Benign strays := by
  unfold readAll at failed
  induction regs generalizing fault with
  | nil => cases failed
  | cons reg rest ih =>
      rw [List.mapM_cons] at failed
      refine read_then_benign (room reg (by simp)) (fun value fault failed => ?_) failed
      cases others : rest.mapM frame.read with
      | error other =>
          rw [others] at failed
          cases failed
          exact ih (fun reg member => room reg (by simp [member])) others
      | ok values =>
          rw [others] at failed
          cases failed

theorem readAll_bounded {values : List Value} (bounded : frame.Bounded count)
    (passed : frame.readAll regs = .ok values) :
    values.length = regs.length ∧ ∀ value ∈ values, value.Bounded count := by
  unfold readAll at passed
  induction regs generalizing values with
  | nil =>
      cases passed
      exact ⟨rfl, nofun⟩
  | cons reg rest ih =>
      rw [List.mapM_cons] at passed
      obtain ⟨value, first, passed⟩ := Machine.except_bind_eq_ok passed
      obtain ⟨others, second, passed⟩ := Machine.except_bind_eq_ok passed
      cases passed
      obtain ⟨counted, all⟩ := ih second
      refine ⟨by simp [counted], fun other member => ?_⟩
      rcases List.mem_cons.mp member with rfl | later
      · exact bounded reg _ first
      · exact all other later

theorem readField_bounded {position : Nat} {value : Value} (bounded : frame.Bounded count)
    (passed : frame.readField reg position = .ok value) : value.Bounded count := by
  obtain ⟨whole, found, passed⟩ := Machine.except_bind_eq_ok passed
  have inside := bounded reg whole found
  cases inside with
  | node inner =>
      simp only at passed
      split at passed
      · next field located =>
          cases passed
          exact inner _ (List.mem_of_getElem? located)
      · cases passed
  | _ => cases passed

theorem readCoroutine_bounded {id : CoroutineId} (bounded : frame.Bounded count)
    (passed : frame.readCoroutine reg = .ok id) : id.index < count := by
  obtain ⟨value, found, passed⟩ := Machine.except_bind_eq_ok passed
  have inside := bounded reg value found
  cases inside with
  | coroutine known =>
      cases passed
      exact known
  | _ => cases passed

theorem read_put {content : Option Value} {other : Reg} {value : Value}
    (found : (frame.put reg content).read other = .ok value) :
    content = some value ∨ frame.read other = .ok value := by
  by_cases same : other = reg
  · cases same
    simp only [read, put, Array.getElem?_setIfInBounds_self] at found
    split at found
    · cases found
    · cases found
    · next stored =>
        split at stored <;> cases stored
        cases found
        exact .inl rfl
  · refine .inr ?_
    simpa only [read, put, Array.getElem?_setIfInBounds_ne (Ne.symm same)] using found

theorem Bounded.put {content : Option Value} (bounded : frame.Bounded count)
    (fits : ∀ value, content = some value → value.Bounded count) :
    (frame.put reg content).Bounded count := by
  intro other value found
  rcases read_put found with written | kept
  · exact fits value written
  · exact bounded other value kept

/-- Arguments that fit are passed. -/
theorem withArguments_fits {args : List Value} (fits : args.length ≤ frame.registers.size) :
    frame.withArguments args ≠ .error fault := by
  unfold withArguments
  have inside (argument : Value × Nat) (member : argument ∈ args.zipIdx) :
      argument.2 < frame.registers.size := by
    have within := (List.mem_zipIdx member).2.1
    omega
  generalize args.zipIdx = numbered at inside
  induction numbered generalizing frame with
  | nil => nofun
  | cons argument rest ih =>
      rw [List.foldlM_cons]
      have room : frame.hasRegister argument.2 = true := decide_eq_true (inside argument (by simp))
      simp only [room, if_true]
      refine ih (by simpa [put] using fits) fun other member => ?_
      simpa [put] using inside other (by simp [member])

theorem withArguments_bounded {args : List Value} {filled : Frame} (bounded : frame.Bounded count)
    (all : ∀ value ∈ args, value.Bounded count) (passed : frame.withArguments args = .ok filled) :
    filled.Bounded count := by
  unfold withArguments at passed
  have held (argument : Value × Nat) (member : argument ∈ args.zipIdx) :
      argument.1.Bounded count :=
    all _ (List.fst_mem_of_mem_zipIdx member)
  generalize args.zipIdx = numbered at passed held
  induction numbered generalizing frame with
  | nil =>
      cases passed
      exact bounded
  | cons argument rest ih =>
      rcases argument with ⟨value, reg⟩
      rw [List.foldlM_cons] at passed
      by_cases room : frame.hasRegister reg = true
      · simp only [room, if_true] at passed
        refine ih ?_ passed fun other member => held other (by simp [member])
        exact bounded.put fun value same => Option.some.inj same ▸ held _ List.mem_cons_self
      · simp only [room] at passed
        cases passed

theorem bounded_new {id : FrameId} {function : FunctionId} {registerCount : Nat} {role : Role}
    {scope : ContainerId} : (new id function registerCount role scope).Bounded count := by
  intro reg value found
  simp only [read, new, Array.getElem?_replicate] at found
  split at found
  · cases found
  · cases found
  · next stored =>
      split at stored <;> cases stored

end Frame

theorem Coroutine.copy_benign {strays : Nat} {coroutine : Coroutine} {id : FrameId} {scope : ContainerId}
    {fault : Fault} (failed : coroutine.copy id scope = .error fault) : fault.Benign strays := by
  unfold copy at failed
  split at failed
  · split at failed <;> cases failed
    exact ⟨fun _ => rfl, nofun⟩
  · cases failed
    exact ⟨fun _ => rfl, nofun⟩

/-- Only a coroutine that runs already is not entered. -/
theorem Coroutine.enter_benign {strays : Nat} {coroutine : Coroutine} {id : CoroutineId} {link : CallerLink}
    {fault : Fault} (sound : coroutine.Sound) (alive : coroutine.state ≠ .exhausted)
    (failed : coroutine.enter id link = .error fault) : fault.Benign strays := by
  unfold enter at failed
  split at failed
  · cases failed
    exact ⟨fun _ => rfl, nofun⟩
  · next finished => exact absurd finished alive
  · next fresh =>
      rw [if_neg fun empty => Nat.ne_of_gt (sound.enterable (.inl fresh)).1
        (Stack.isEmpty_iff.mp empty)] at failed
      cases failed
  · next parked =>
      rw [if_neg fun empty => Nat.ne_of_gt (sound.enterable (.inr parked)).1
        (Stack.isEmpty_iff.mp empty)] at failed
      cases failed

/-! Bindings and logs -/

/-- Every value that a log holds is bounded. -/
def RollbackLog.Bounded (count : Nat) (log : RollbackLog) : Prop :=
  ∀ (key : BindingKey) (value : Value), log.vars[key]? = some (some value) → value.Bounded count

namespace Arena

variable {arena small big : Arena} {count count' : Nat} {id : ContainerId} {name : SymbolId}
  {parent : Option ContainerId} {log : RollbackLog} {regions : List Region}

/-- Every value that is bound is bounded. -/
def Bounded (count : Nat) (arena : Arena) : Prop :=
  ∀ id name value, arena.var? id name = some value → value.Bounded count

theorem live_of_var? {value : Value} (bound : arena.var? id name = some value) :
    arena.isLive id = true := by
  obtain ⟨container, found, -⟩ := Option.bind_eq_some_iff.mp bound
  rw [isLive, found]
  rfl

theorem Bounded.mono (bounded : arena.Bounded count) (grown : count ≤ count') :
    arena.Bounded count' :=
  fun id name value bound => (bounded id name value bound).mono grown

theorem Bounded.trims (bounded : big.Bounded count) (trims : small.Trims big) :
    small.Bounded count := by
  intro id name value bound
  refine bounded id name value ?_
  rw [var?, ← trims id (live_of_var? bound)]
  exact bound

theorem Bounded.place (sound : arena.Sound) (bounded : arena.Bounded count) :
    (arena.place parent).2.Bounded count := by
  intro id name value bound
  rw [var?, get?_place sound] at bound
  split at bound
  · simp [Container.new] at bound
  · exact bounded id name value bound

theorem Bounded.putVar {value : Value} (bounded : arena.Bounded count)
    (fits : value.Bounded count) : (arena.putVar id name (some value)).Bounded count := by
  intro other name' value' bound
  rw [var?_putVar] at bound
  split at bound
  · cases bound
    exact fits
  · exact bounded other name' value' bound

theorem Bounded.putCandidates {set : Option CandidateSet} (bounded : arena.Bounded count) :
    (arena.putCandidates id name set).Bounded count := by
  intro other name' value' bound
  rw [var?_putCandidates] at bound
  exact bounded other name' value' bound

theorem Bounded.restore (bounded : arena.Bounded count) (logged : log.Bounded count) :
    (log.restore arena).Bounded count := by
  intro id name value bound
  have live := live_of_var? bound
  rw [restore_alike.live] at live
  rw [var?_restore live] at bound
  cases stored : log.vars[(⟨id, name⟩ : BindingKey)]? with
  | none =>
      rw [stored] at bound
      exact bounded id name value bound
  | some prior =>
      rw [stored] at bound
      cases bound
      exact logged _ value stored

theorem Bounded.undo (bounded : arena.Bounded count)
    (logged : ∀ region ∈ regions, region.log.Bounded count) : (arena.undo regions).Bounded count := by
  induction regions generalizing arena with
  | nil => exact bounded
  | cons region rest ih =>
      exact ih (bounded.restore (logged region (by simp)))
        fun other member => logged other (by simp [member])

theorem Bounded.lookup {start : ContainerId} {value : Value} (bounded : arena.Bounded count)
    (found : arena.lookupVar? start name = some value) : value.Bounded count := by
  obtain ⟨id, -, bound⟩ := Option.bind_eq_some_iff.mp found
  exact bounded id name value bound

end Arena

theorem RollbackLog.Bounded.saveVariable {log : RollbackLog} {count : Nat} {key : BindingKey}
    {prior : Option Value} (logged : log.Bounded count)
    (fits : ∀ value, prior = some value → value.Bounded count) :
    (log.saveVariable key prior).2.Bounded count := by
  intro other value found
  unfold RollbackLog.saveVariable at found
  split at found
  · rw [Std.TreeMap.getElem?_insert] at found
    split at found
    · cases found
      exact fits value rfl
    · exact logged other value found
  · exact logged other value found

theorem RollbackLog.Bounded.saveCandidates {log : RollbackLog} {count : Nat} {key : BindingKey}
    {prior : Option CandidateSet} (logged : log.Bounded count) :
    (log.saveCandidates key prior).2.Bounded count := by
  intro other value found
  unfold RollbackLog.saveCandidates at found
  split at found <;> exact logged other value found

end Backtrack
