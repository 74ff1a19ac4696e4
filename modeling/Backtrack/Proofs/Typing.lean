import Backtrack.Proofs.Typed

/-!
Instructions of checked programs. An instruction that the check has passed keeps the machine typed
and can only fault in ways that the check does not rule out. There is one lemma for each action that
instructions are made of.
-/

namespace Backtrack

namespace Machine

variable {program : Program} {strays : Nat} {machine after : Machine} {coroutine : Coroutine}
  {frame : Frame} {code : Instruction}

namespace Typed

/-- The active frame is one of a checked program. -/
theorem active (typed : machine.Typed program strays) (active : machine.active? = some frame) :
    frame.Typed program (machine.coroutines.size + strays) := by
  obtain ⟨coroutine, found, top⟩ := Option.bind_eq_some_iff.mp active
  exact (typed.coroutines.coroutines found).frames (Coroutine.at?_top top).2

theorem hasRegister {unit : CodeUnit} {reg : Reg} (typed : machine.Typed program strays)
    (active : machine.active? = some frame) (found : program.function? frame.function = some unit)
    (within : reg < unit.registerCount) : frame.hasRegister reg = true := by
  obtain ⟨unit', found', sized⟩ := (typed.active active).sized
  cases Option.some.inj (found.symm.trans found')
  rw [Frame.hasRegister, sized]
  exact decide_eq_true within

/-- Where no value names a coroutine that is not there, a register that holds one finds it. -/
theorem known {reg : Reg} {id : CoroutineId} (typed : machine.Typed program strays)
    (active : machine.active? = some frame) (held : frame.readCoroutine reg = .ok id)
    (missing : machine.coroutine? id = none) :
    (Fault.unknownId .coroutine id.index).Benign strays := by
  refine ⟨fun known => ?_, nofun⟩
  rcases known with none | other
  · have within := Frame.readCoroutine_bounded (typed.active active).bounded held
    rw [none] at within
    exact absurd within (Nat.not_lt.mpr (Array.getElem?_eq_none_iff.mp missing))
  · exact absurd rfl (other id.index)

end Typed

theorem Sound.put {reg : Reg} {content : Option Value} (sound : machine.Sound) :
    (machine.updateFrame machine.current (·.put reg content)).Sound :=
  sound.next (.compute _ fun _ => ⟨rfl, rfl, by simp [Frame.put], rfl, rfl, rfl⟩)

/-- The current coroutine changes and goes on. -/
theorem Typed.update {change : Coroutine → Coroutine} (typed : machine.Typed program strays)
    (linked : Linked machine.coroutine? machine.current)
    (found : machine.coroutine? machine.current = some coroutine)
    (new : (change coroutine).Typed program (machine.coroutines.size + strays))
    (kept : (change coroutine).caller = coroutine.caller) :
    (machine.updateCoroutine machine.current change).Typed program strays := by
  refine ⟨typed.runs, ?_, ?_, ?_⟩
  · rw [coroutine?_replace found, size_updateCoroutine]
    exact typed.coroutines.updated linked found new kept
  · rw [size_updateCoroutine]
    exact typed.arena
  · rw [size_updateCoroutine]
    exact typed.logs

/-- The current coroutine stops. -/
theorem Typed.leave {change : Coroutine → Coroutine} (typed : machine.Typed program strays)
    (linked : Linked machine.coroutine? machine.current)
    (found : machine.coroutine? machine.current = some coroutine)
    (new : (change coroutine).Typed program (machine.coroutines.size + strays))
    (idle : (change coroutine).caller = none)
    (lands : ∀ frame, (change coroutine).active? = some frame → frame.Lands program frame.pc)
    (next : CoroutineId) :
    { machine.updateCoroutine machine.current change with current := next }.Typed program strays := by
  have left := typed.coroutines.left linked new idle lands next
  rw [← coroutine?_replace found] at left
  refine ⟨typed.runs, ?_, ?_, ?_⟩
  · rw [size_updateCoroutine]
    exact left
  · rw [size_updateCoroutine]
    exact typed.arena
  · rw [size_updateCoroutine]
    exact typed.logs

/-- The current coroutine waits for another. -/
theorem Poised.enter {id : CoroutineId} {change : Coroutine → Coroutine} {link : CallerLink}
    (poised : machine.Poised program strays) (active : machine.active? = some frame)
    (found : machine.coroutine? id = some coroutine) (differ : id ≠ machine.current)
    (frames : (change coroutine).frames = coroutine.frames)
    (handlers : (change coroutine).handlers = coroutine.handlers)
    (waits : (change coroutine).caller = some link) (back : link.coroutine = machine.current)
    (innermost : link.depth = machine.depth - 1)
    (wanted : ∀ reg, link.ok = some reg ∨ link.out = some reg → frame.hasRegister reg = true) :
    { machine.updateCoroutine id change with current := id }.Poised program strays := by
  obtain ⟨waiter, current, top⟩ := Option.bind_eq_some_iff.mp active
  have depth : machine.depth = waiter.depth := by
    rw [Machine.depth, current]
    rfl
  have entered := poised.typed.coroutines.entered found current top (poised.lands active) frames
    handlers waits back (depth ▸ innermost) wanted
  rw [← coroutine?_replace found] at entered
  refine ⟨⟨poised.typed.runs, ?_, ?_, ?_⟩, fun {other} active' => ?_⟩
  · rw [size_updateCoroutine]
    exact entered
  · rw [size_updateCoroutine]
    exact poised.typed.arena
  · rw [size_updateCoroutine]
    exact poised.typed.logs
  · obtain ⟨target, located, top'⟩ := Option.bind_eq_some_iff.mp active'
    have same : (machine.updateCoroutine id change).coroutine? id = some target := located
    rw [coroutine?_replace found, replace_same] at same
    cases same
    rw [Coroutine.active?, frames] at top'
    exact poised.typed.coroutines.parked found differ top'

/-- The active frame computes. -/
theorem Typed.move {change : Frame → Frame} (typed : machine.Typed program strays)
    (linked : Linked machine.coroutine? machine.current) (active : machine.active? = some frame)
    (same : frame.SameCode (change frame))
    (bounded : (change frame).Bounded (machine.coroutines.size + strays))
    (lands : (change frame).Lands program (change frame).pc) :
    (machine.updateFrame machine.current change).Poised program strays := by
  obtain ⟨coroutine, found, top⟩ := Option.bind_eq_some_iff.mp active
  have new := (typed.coroutines.coroutines found).updateActive top same bounded
  refine ⟨typed.update linked found new rfl, fun {other} active' => ?_⟩
  rw [active?_updateFrame active] at active'
  exact Option.some.inj active' ▸ lands

/-- A coroutine joins that stands before the first instruction of its function. -/
theorem Poised.added {entry : Frame} {parent : Option ContainerId}
    (poised : machine.Poised program strays) (sound : machine.Sound)
    (typed : entry.Typed program (machine.coroutines.size + strays))
    (lands : entry.Lands program entry.pc) :
    { machine with
      arena := (machine.arena.place parent).2
      nextFrame := machine.nextFrame + 1
      coroutines := machine.coroutines.push (.new entry) }.Poised program strays := by
  have grown : machine.coroutines.size + strays ≤
      (machine.coroutines.push (.new entry)).size + strays := by simp
  refine ⟨⟨poised.typed.runs, ?_, ?_, fun region opened key value logged => ?_⟩,
    fun {other} active' => ?_⟩
  · have added : Backtrack.Typed program
        (replace machine.coroutine? ⟨machine.coroutines.size⟩ (.new entry)) machine.current
        ((machine.coroutines.push (.new entry)).size + strays) :=
      poised.typed.coroutines.added sound.linked (Array.getElem?_eq_none (Nat.le_refl _)) grown
        (.new (typed.mono grown)) rfl fun frame active => Option.some.inj active ▸ lands
    rw [← coroutine?_push] at added
    exact added
  · exact (poised.typed.arena.place (Housed.sound sound.housed)).mono grown
  · exact (poised.typed.logs region opened key value logged).mono grown
  · obtain ⟨-, frame, -, -, active⟩ := sound.active
    cases Option.some.inj ((active?_push active).symm.trans active')
    exact poised.lands active

theorem Poised.put {reg : Reg} {content : Option Value} (poised : machine.Poised program strays)
    (sound : machine.Sound) (active : machine.active? = some frame)
    (fits : ∀ value, content = some value → value.Bounded (machine.coroutines.size + strays)) :
    (machine.updateFrame machine.current (·.put reg content)).Poised program strays := by
  have same : frame.SameCode (frame.put reg content) := ⟨rfl, by simp [Frame.put], rfl⟩
  exact poised.typed.move sound.linked active same ((poised.typed.active active).bounded.put fits)
    (same.lands (poised.lands active))

end Machine

namespace Action

open Machine

variable {program : Program} {strays : Nat} {machine : Machine} {coroutine : Coroutine}
  {frame : Frame} {reg : Reg} {value : Value}

/-- An action that checked programs may take. -/
def Safe {α : Type} (program : Program) (strays : Nat) (action : Action α) (machine : Machine) :
    Prop :=
  action.Leads machine (fun _ after => after.Poised program strays) fun fault _ => fault.Benign strays

theorem write_safe (poised : machine.Poised program strays) (sound : machine.Sound)
    (active : machine.active? = some frame) (room : frame.hasRegister reg = true)
    (fits : value.Bounded (machine.coroutines.size + strays)) :
    (write reg value).Safe program strays machine := by
  rw [Safe, leads_write_active active]
  exact ⟨fun _ => poised.put sound active fun _ same => Option.some.inj same ▸ fits,
    fun full => absurd room full⟩

theorem writeOption_safe {reg : Option Reg} (poised : machine.Poised program strays)
    (sound : machine.Sound) (active : machine.active? = some frame)
    (room : ∀ wanted, reg = some wanted → frame.hasRegister wanted = true)
    (fits : value.Bounded (machine.coroutines.size + strays)) :
    (writeOption reg value).Safe program strays machine := by
  cases reg with
  | none => exact poised
  | some reg =>
      have written := write_safe poised sound active (room reg rfl) fits
      simpa [Safe] using written

theorem makeNode_safe {ctor : ConstructorId} {decl : Constructor} {fields : List Reg}
    (poised : machine.Poised program strays) (sound : machine.Sound)
    (active : machine.active? = some frame) (room : frame.hasRegister reg = true)
    (rooms : ∀ field ∈ fields, frame.hasRegister field = true)
    (declared : program.constructor? ctor = some decl) (arity : decl.arity = fields.length) :
    (makeNode reg ctor fields).Safe program strays machine := by
  rw [← poised.typed.runs] at declared
  simp only [Safe, makeNode, leads_bind, leads_get, declared, leads_ensure,
    leads_frame_active active, leads_ofExcept, leads_intern]
  refine ⟨fun _ => ⟨fun values passed => ?_, fun fault failed => Frame.readAll_benign rooms failed⟩,
    fun differ => absurd arity differ⟩
  have inner := (Frame.readAll_bounded (poised.typed.active active).bounded passed).2
  obtain ⟨stored, position, interned, -, same⟩ := machine.nodes.intern_eq ⟨ctor, values⟩
  have built : (Value.node (.table position) ctor values).Bounded
      (machine.coroutines.size + strays) := .node inner
  refine write_safe ⟨{ poised.typed with }, poised.lands⟩ (sound.next (.intern _)) active room ?_
  rw [interned]
  exact built.of_same (Value.same_symm same)

theorem hasShape_safe {source : Reg} {type : TypeId} {shape : Shape}
    (poised : machine.Poised program strays) (sound : machine.Sound)
    (active : machine.active? = some frame) (room : frame.hasRegister reg = true)
    (room' : frame.hasRegister source = true) (declared : program.type? type = some shape) :
    (hasShape reg source type).Safe program strays machine := by
  rw [← poised.typed.runs] at declared
  simp only [Safe, hasShape, leads_bind, leads_get, declared, leads_read,
    leads_frame_active active]
  exact ⟨fun value _ => write_safe poised sound active room (.bool _),
    fun fault failed => Frame.read_benign room' failed⟩

theorem move_safe {source : Reg} (poised : machine.Poised program strays) (sound : machine.Sound)
    (active : machine.active? = some frame) (room : frame.hasRegister reg = true)
    (room' : frame.hasRegister source = true) : (move reg source).Safe program strays machine := by
  simp only [Safe, move, leads_bind, leads_read, leads_frame_active active, leads_updateFrame]
  refine ⟨fun value held => ?_, fun fault failed => Frame.read_benign room' failed⟩
  refine write_safe (poised.put sound active (by simp)) sound.put (active?_updateFrame active)
    (by simpa [Frame.put, Frame.hasRegister] using room) ?_
  simpa using (poised.typed.active active).bounded source value held

theorem branch_safe {whenTrue whenFalse : Nat} (typed : machine.Typed program strays)
    (sound : machine.Sound) (active : machine.active? = some frame)
    (room : frame.hasRegister reg = true) (lands : frame.Lands program whenTrue)
    (lands' : frame.Lands program whenFalse) :
    (branch reg whenTrue whenFalse).Safe program strays machine := by
  simp only [Safe, branch, leads_bind, leads_frame_active active, leads_ofExcept,
    leads_updateFrame]
  refine ⟨fun holds _ => ?_, fun fault failed => Frame.readBool_benign room failed⟩
  refine typed.move sound.linked active ⟨rfl, rfl, rfl⟩ (typed.active active).bounded ?_
  cases holds with
  | true => exact lands
  | false => exact lands'

/-! Bindings -/

/-- The container of the active frame lives, and so does the one that it is in. -/
theorem live_scope (sound : machine.Sound) (active : machine.active? = some frame) :
    machine.arena.isLive frame.scope = true := by
  obtain ⟨coroutine, found, top⟩ := Option.bind_eq_some_iff.mp active
  obtain ⟨blocks, dwells⟩ :=
    Housed.dwells sound.housed ⟨coroutine, found, (Coroutine.at?_top top).2⟩
  exact dwells.live_scope (Housed.live sound.housed)

theorem bindVar_safe {target : ContainerId} {name : SymbolId} (poised : machine.Poised program strays)
    (live : machine.arena.isLive target = true)
    (fits : value.Bounded (machine.coroutines.size + strays)) :
    (bindVar target name value).Safe program strays machine := by
  simp only [Safe, bindVar, logAll, leads_bind, leads_get, leads_modify, leads_ensure,
    leads_updateArena, live, true_implies, not_true_eq_false, false_implies, and_true]
  refine ⟨⟨poised.typed.runs, poised.typed.coroutines, poised.typed.arena.putVar fits, ?_⟩,
    poised.lands⟩
  intro region member
  obtain ⟨earlier, opened, rfl⟩ := List.mem_map.mp member
  exact (poised.typed.logs earlier opened).saveVariable fun prior bound =>
    poised.typed.arena _ _ prior bound

theorem storeVar_safe {name : SymbolId} (poised : machine.Poised program strays) (sound : machine.Sound)
    (active : machine.active? = some frame) (room : frame.hasRegister reg = true) :
    (storeVar name reg).Safe program strays machine := by
  simp only [Safe, storeVar, leads_bind, leads_frame_active active, leads_ofExcept, leads_get]
  refine ⟨fun value held => ?_, fun fault failed => Frame.read_benign room failed⟩
  refine bindVar_safe poised ?_ ((poised.typed.active active).bounded reg value held)
  cases nearest : machine.arena.findVar? frame.scope name with
  | none => exact live_scope sound active
  | some target =>
      rw [Arena.findVar?_eq_find?] at nearest
      have binds := List.find?_some nearest
      obtain ⟨bound, found⟩ := Option.isSome_iff_exists.mp binds
      exact Arena.live_of_var? found

theorem declareVar_safe {name : SymbolId} (poised : machine.Poised program strays) (sound : machine.Sound)
    (active : machine.active? = some frame) (room : frame.hasRegister reg = true) :
    (declareVar name reg).Safe program strays machine := by
  simp only [Safe, declareVar, leads_bind, leads_frame_active active, leads_ofExcept]
  refine ⟨fun value held => ?_, fun fault failed => Frame.read_benign room failed⟩
  exact bindVar_safe poised (live_scope sound active)
    ((poised.typed.active active).bounded reg value held)

theorem declareFunction_safe {name : SymbolId} {function : FunctionId}
    (poised : machine.Poised program strays) (sound : machine.Sound)
    (active : machine.active? = some frame) :
    (declareFunction name function).Safe program strays machine := by
  simp only [Safe, declareFunction, logAll, leads_bind, leads_frame_active active, leads_get,
    leads_ensure, leads_modify, leads_updateArena, live_scope sound active, true_implies,
    not_true_eq_false, false_implies, and_true]
  refine ⟨⟨poised.typed.runs, poised.typed.coroutines, poised.typed.arena.putCandidates, ?_⟩,
    poised.lands⟩
  intro region member
  obtain ⟨earlier, opened, rfl⟩ := List.mem_map.mp member
  exact (poised.typed.logs earlier opened).saveCandidates

theorem pushScope_safe (poised : machine.Poised program strays) (sound : machine.Sound)
    (active : machine.active? = some frame) : pushScope.Safe program strays machine := by
  simp only [Safe, pushScope, leads_bind, leads_frame_active active, leads_allocContainer,
    leads_updateFrame]
  refine ⟨fun room => ?_, fun _ => ⟨fun _ => rfl, by simp⟩⟩
  have typed : { machine with arena := (machine.arena.place (some frame.scope)).2 }.Typed program strays :=
    { poised.typed with arena := poised.typed.arena.place (Housed.sound sound.housed) }
  have lands := poised.lands active
  exact typed.move sound.linked active ⟨rfl, rfl, rfl⟩ (poised.typed.active active).bounded lands

theorem popScope_safe (poised : machine.Poised program strays) (sound : machine.Sound)
    (active : machine.active? = some frame) : popScope.Safe program strays machine := by
  simp only [Safe, popScope, leads_bind, leads_frame_active active, leads_ensure, leads_get]
  refine ⟨fun inner => ?_, fun _ => ⟨fun _ => rfl, by simp⟩⟩
  obtain ⟨coroutine, found, top⟩ := Option.bind_eq_some_iff.mp active
  obtain ⟨blocks, dwells⟩ :=
    Housed.dwells sound.housed ⟨coroutine, found, (Coroutine.at?_top top).2⟩
  obtain ⟨rest, -, -, outer⟩ := dwells.inner inner
  split
  · next outermost =>
      rw [outermost, List.head?_eq_none_iff] at outer
      simp at outer
  · next parent enclosed =>
      simp only [leads_bind, leads_releaseContainer, leads_updateFrame]
      have typed : { machine with arena := machine.arena.release frame.scope }.Typed program strays :=
        { poised.typed with
          arena := poised.typed.arena.trims Arena.release_trims }
      have lands := poised.lands active
      exact typed.move sound.linked active ⟨rfl, rfl, rfl⟩ (poised.typed.active active).bounded
        lands

/-! Calls and coroutines -/

/-- A call that passes the right number of arguments begins. -/
theorem newFrame_safe {function : FunctionId} {callee : CodeUnit} {args : List Value} {role : Role}
    {good : Frame → Machine → Prop} (checked : program.check = .ok ())
    (typed : machine.Typed program strays) (found : program.function? function = some callee)
    (fits : callee.parameterCount = args.length)
    (bounded : ∀ value ∈ args, value.Bounded (machine.coroutines.size + strays))
    (begun : ∀ registers,
      (Frame.initial ⟨machine.nextFrame⟩ function registers role
        (machine.arena.place (some machine.globals)).1).Typed program (machine.coroutines.size + strays) →
      (Frame.initial ⟨machine.nextFrame⟩ function registers role
        (machine.arena.place (some machine.globals)).1).Lands program 0 →
      good (.initial ⟨machine.nextFrame⟩ function registers role
          (machine.arena.place (some machine.globals)).1)
        { machine with
          arena := (machine.arena.place (some machine.globals)).2
          nextFrame := machine.nextFrame + 1 }) :
    (newFrame function args role).Leads machine good fun fault _ => fault.Benign strays := by
  have unit := program.unit_checked checked found
  rw [← typed.runs] at found
  refine leads_newFrame (fun missing => ?_) (fun other found' differ => ?_)
    (fun _ => ⟨fun _ => rfl, nofun⟩) (fun other found' _ id scope fault failed => ?_)
    fun other registers found' _ _ passed => ?_
  · exact absurd (found.symm.trans missing) nofun
  · cases Option.some.inj (found.symm.trans found')
    exact absurd fits differ
  · cases Option.some.inj (found.symm.trans found')
    refine absurd failed (Frame.withArguments_fits ?_)
    rw [← fits]
    simpa [Frame.new] using unit.parameters
  · cases Option.some.inj (found.symm.trans found')
    rw [typed.runs] at found
    exact begun registers (.begun found bounded passed) ⟨callee, found, unit.begun⟩

theorem pushCall_safe {function : FunctionId} {callee : CodeUnit} {args : List Value}
    {dst : Option Reg} (checked : program.check = .ok ()) (poised : machine.Poised program strays)
    (sound : machine.Sound) (active : machine.active? = some frame)
    (found : program.function? function = some callee)
    (fits : callee.parameterCount = args.length)
    (bounded : ∀ value ∈ args, value.Bounded (machine.coroutines.size + strays))
    (room : ∀ wanted, dst = some wanted → frame.hasRegister wanted = true) :
    (pushCall function args dst).Safe program strays machine := by
  obtain ⟨coroutine, current, top⟩ := Option.bind_eq_some_iff.mp active
  simp only [Safe, pushCall, leads_bind, leads_get, leads_coroutine, leads_ensure]
  refine ⟨fun same here => ⟨fun _ => ?_, fun _ => ⟨fun _ => rfl, by simp⟩⟩,
    fun missing => absurd (current.symm.trans missing) (by simp)⟩
  refine newFrame_safe checked poised.typed found fits bounded fun registers typed lands => ?_
  have pushed := (poised.typed.coroutines.coroutines current).pushFrame top (poised.lands active)
    typed rfl room fun handler installed => (sound.linked.sound current).owned installed
  have placed : { machine with
      arena := (machine.arena.place (some machine.globals)).2
      nextFrame := machine.nextFrame + 1 }.Typed program strays :=
    { poised.typed with arena := poised.typed.arena.place (Housed.sound sound.housed) }
  simp only [leads_updateCoroutine]
  refine ⟨placed.update sound.linked current pushed rfl, fun {other} active' => ?_⟩
  have begun : Coroutine.active? (coroutine.pushFrame _) = some other :=
    (active?_updateCoroutine current).symm.trans active'
  cases Option.some.inj begun
  exact lands

/-- A call that does not raise begins. -/
theorem call_safe {callee : Callee} {args : List Reg} {dst : Option Reg}
    (checked : program.check = .ok ()) (poised : machine.Poised program strays) (sound : machine.Sound)
    (active : machine.active? = some frame)
    (rooms : ∀ arg ∈ args, frame.hasRegister arg = true)
    (room : ∀ wanted, dst = some wanted → frame.hasRegister wanted = true)
    (arity : ∀ function, callee = .direct function →
      ∃ unit, program.function? function = some unit ∧ unit.parameterCount = args.length)
    (accepted : machine.raised? (.call dst callee args) = none) :
    (call dst callee args).Leads machine (fun _ after => after.Poised program strays)
      fun fault _ => fault.Benign strays := by
  simp only [call, leads_bind, leads_frame_active active, leads_ofExcept]
  refine ⟨fun values passed => ?_, fun fault failed => Frame.readAll_benign rooms failed⟩
  obtain ⟨counted, bounded⟩ := Frame.readAll_bounded (poised.typed.active active).bounded passed
  cases callee with
  | direct function =>
      obtain ⟨unit, found, fits⟩ := arity function rfl
      simp only [leads_bind, leads_pure]
      exact pushCall_safe checked poised sound active found (fits.trans counted.symm) bounded room
  | overloaded name =>
      simp only [leads_bind, leads_get]
      split
      · next function selected =>
          rw [poised.typed.runs] at selected
          obtain ⟨unit, found, fits⟩ := Program.select_arity selected
          simp only [countTried, leads_bind, leads_count, leads_pure]
          obtain ⟨counters, tried⟩ := machine.count_eq _
          rw [tried]
          exact pushCall_safe checked ⟨{ poised.typed with }, poised.lands⟩
            (sound.next (.count counters)) active found fits bounded room
      · next cause unresolved =>
          simp [raised?, active, passed, unresolved, Except.toOption] at accepted

/-! Coroutines -/

theorem hasNext_safe {source : Reg} (poised : machine.Poised program strays) (sound : machine.Sound)
    (active : machine.active? = some frame) (room : frame.hasRegister reg = true)
    (room' : frame.hasRegister source = true) : (hasNext reg source).Safe program strays machine := by
  simp only [Safe, hasNext, leads_bind, leads_frame_active active, leads_ofExcept,
    leads_coroutine]
  refine ⟨fun id held => ⟨fun coroutine _ => ?_, fun missing => ?_⟩,
    fun fault failed => Frame.readCoroutine_benign room' failed⟩
  · exact write_safe poised sound active room (.bool _)
  · exact poised.typed.known active held missing

theorem createCoroutine_safe {function : FunctionId} {callee : CodeUnit} {args : List Reg}
    (checked : program.check = .ok ()) (poised : machine.Poised program strays) (sound : machine.Sound)
    (active : machine.active? = some frame) (found : program.function? function = some callee)
    (fits : callee.parameterCount = args.length) (room : frame.hasRegister reg = true)
    (rooms : ∀ arg ∈ args, frame.hasRegister arg = true) :
    (createCoroutine reg function args).Safe program strays machine := by
  simp only [Safe, createCoroutine, nextCoroutine, addCoroutine, leads_bind, leads_get,
    leads_ensure, leads_pure, leads_frame_active active, leads_ofExcept]
  refine ⟨fun _ => ⟨fun values passed => ?_, fun fault failed => Frame.readAll_benign rooms failed⟩,
    fun _ => ⟨fun _ => rfl, by simp⟩⟩
  obtain ⟨counted, bounded⟩ := Frame.readAll_bounded (poised.typed.active active).bounded passed
  refine newFrame_safe checked poised.typed found (fits.trans counted.symm) bounded
    fun registers typed lands => ?_
  have sound' := sound.effect (.create function registers ⟨reg, args, rfl⟩)
  simp only [leads_modify]
  exact write_safe (poised.added sound typed lands) sound' (active?_push active) room
    (.coroutine (by simp; omega))

theorem copyCoroutine_safe {source : Reg} (checked : program.check = .ok ())
    (poised : machine.Poised program strays) (sound : machine.Sound)
    (active : machine.active? = some frame) (room : frame.hasRegister reg = true)
    (room' : frame.hasRegister source = true) : (copyCoroutine reg source).Safe program strays machine := by
  simp only [Safe, copyCoroutine, nextCoroutine, leads_bind, leads_frame_active active,
    leads_ofExcept, leads_get, leads_ensure, leads_pure, leads_allocContainer, leads_freshFrameId,
    leads_coroutine]
  refine ⟨fun id held => ⟨fun _ => ⟨fun _ => ⟨fun original found => ?_, fun missing => ?_⟩,
    fun _ => ⟨fun _ => rfl, by simp⟩⟩, fun _ => ⟨fun _ => rfl, by simp⟩⟩,
    fun fault failed => Frame.readCoroutine_benign room' failed⟩
  · split
    · next copy copied =>
        obtain ⟨entry, single, unstarted, parked, rfl⟩ := Coroutine.copy_eq copied
        simp only [addCoroutine, leads_bind, leads_modify]
        have sound' := sound.effect (.copy found single unstarted parked ⟨reg, source, rfl⟩)
        have bottom : original.frames.at? 0 = some entry := by
          rw [Stack.at?_eq, single]
          rfl
        have typed := (poised.typed.coroutines.coroutines found).frames bottom
        obtain ⟨unit, known, -⟩ := typed.sized
        refine write_safe (poised.added sound ⟨typed.sized, typed.bounded⟩ ?_) sound'
          (active?_push active) room (.coroutine (by simp; omega))
        exact ⟨unit, known, unstarted ▸ (program.unit_checked checked known).begun⟩
    · next fault failed =>
        simp only [leads_bind, leads_releaseContainer, leads_throw]
        exact Coroutine.copy_benign failed
  · exact poised.typed.known active held missing

theorem enterCoroutine_safe {dst out : Option Reg} (poised : machine.Poised program strays)
    (sound : machine.Sound) (active : machine.active? = some frame)
    (room : frame.hasRegister reg = true)
    (rooms : ∀ wanted, dst = some wanted ∨ out = some wanted → frame.hasRegister wanted = true) :
    (enterCoroutine dst reg out).Safe program strays machine := by
  obtain ⟨waiter, current, top⟩ := Option.bind_eq_some_iff.mp active
  simp only [Safe, enterCoroutine, leads_bind, leads_frame_active active, leads_ofExcept,
    leads_coroutine]
  refine ⟨fun id held => ⟨fun entered found => ?_, fun missing => ?_⟩,
    fun fault failed => Frame.readCoroutine_benign room failed⟩
  · split
    · exact writeOption_safe poised sound active (fun wanted same => rooms wanted (.inl same))
        (.bool _)
    · next alive =>
        simp only [leads_bind, leads_get, leads_ofExcept, leads_updateCoroutine, leads_modify]
        refine ⟨fun running entering => ?_, fun fault failed => ?_⟩
        · obtain ⟨parked, rfl⟩ := Coroutine.enter_eq entering
          have fresh := ((sound.linked.sound found).enterable parked).2
          have differ : id ≠ machine.current := by
            rintro rfl
            exact fresh (sound.linked.running_of_current found)
          exact poised.enter active found differ rfl rfl rfl rfl rfl rooms
        · exact Coroutine.enter_benign (sound.linked.sound found) alive failed
  · exact poised.typed.known active held missing

/-- A waiting frame is told. -/
theorem writeOptionOf_safe {id : CoroutineId} {reg : Option Reg}
    (poised : { machine with current := id }.Poised program strays)
    (sound : { machine with current := id }.Sound)
    (active : { machine with current := id }.active? = some frame)
    (room : ∀ wanted, reg = some wanted → frame.hasRegister wanted = true)
    (fits : value.Bounded (machine.coroutines.size + strays)) :
    (writeOptionOf id reg value).Leads machine
      (fun _ after => { after with current := id }.Poised program strays ∧
        { after with current := id }.Sound ∧ after.coroutines.size = machine.coroutines.size ∧
        ∃ later, { after with current := id }.active? = some later ∧ frame.SameCode later)
      fun fault _ => fault.Benign strays := by
  cases reg with
  | none => exact ⟨poised, sound, rfl, frame, active, .refl⟩
  | some reg =>
      obtain ⟨coroutine, found, top⟩ := Option.bind_eq_some_iff.mp active
      have found' : machine.coroutine? id = some coroutine := found
      rw [leads_writeOptionOf]
      simp only [leads_writeOf_active found' top]
      refine ⟨fun _ => ⟨?_, sound.put, by simp, frame.put reg (some value), ?_, ?_⟩,
        fun full => absurd (room reg rfl) full⟩
      · exact poised.put sound active fun _ same => Option.some.inj same ▸ fits
      · exact active?_updateFrame active
      · exact ⟨rfl, by simp [Frame.put], rfl⟩

theorem handBack_safe {link : CallerLink} {waiter : Coroutine} {ok : Bool} {out : Option Value}
    (poised : { machine with current := link.coroutine }.Poised program strays)
    (sound : { machine with current := link.coroutine }.Sound)
    (found : machine.coroutine? link.coroutine = some waiter) (deep : waiter.depth = link.depth + 1)
    (top : waiter.active? = some frame)
    (rooms : ∀ wanted, link.ok = some wanted ∨ link.out = some wanted →
      frame.hasRegister wanted = true)
    (fits : ∀ value, out = some value → value.Bounded (machine.coroutines.size + strays)) :
    (handBack link ok out).Safe program strays machine := by
  have active : { machine with current := link.coroutine }.active? = some frame := by
    rw [active?]
    exact (congrArg (Option.bind · Coroutine.active?) found).trans top
  simp only [Safe, handBack, leads_bind, leads_get, leads_coroutine, leads_ensure]
  refine ⟨fun same here => ?_, fun missing => absurd (found.symm.trans missing) (by simp)⟩
  cases Option.some.inj (found.symm.trans here)
  refine ⟨fun _ => ?_, fun stale => absurd deep stale⟩
  refine (writeOptionOf_safe poised sound active (fun wanted same => rooms wanted (.inl same))
    (.bool ok)).mono (fun _ after told => ?_) fun _ _ benign => benign
  obtain ⟨poised', sound', size, later, active', same⟩ := told
  cases out with
  | none => exact poised'
  | some value =>
      simp only [leads_bind, leads_modify]
      refine (writeOptionOf_safe poised' sound' active' (fun wanted same' => ?_)
        (size ▸ fits value rfl)).mono (fun _ _ told => told.1) fun _ _ benign => benign
      rw [same.hasRegister]
      exact rooms wanted (.inr same')

/-- The current coroutine stops and hands control back. -/
theorem stop_safe {link : CallerLink} {ok : Bool} {out : Option Value}
    {change : Coroutine → Coroutine} (typed : machine.Typed program strays)
    (linked : Linked machine.coroutine? machine.current)
    (found : machine.coroutine? machine.current = some coroutine)
    (waiting : coroutine.caller = some link)
    (new : (change coroutine).Typed program (machine.coroutines.size + strays))
    (idle : (change coroutine).caller = none)
    (lands : ∀ frame, (change coroutine).active? = some frame → frame.Lands program frame.pc)
    (sound : { machine.updateCoroutine machine.current change with
      current := link.coroutine }.Sound)
    (fits : ∀ value, out = some value → value.Bounded (machine.coroutines.size + strays)) :
    (handBack link ok out).Safe program strays (machine.updateCoroutine machine.current change) := by
  obtain ⟨waiter, found', deep⟩ := linked.waits found waiting
  have differ := linked.not_waited found waiting
  have here : (machine.updateCoroutine machine.current change).coroutine? link.coroutine =
      some waiter := by
    rw [coroutine?_replace found, replace_other differ, found']
  obtain ⟨same, frame, current, top, active⟩ := sound.active
  cases Option.some.inj (here.symm.trans current)
  obtain ⟨-, located⟩ := Coroutine.at?_top top
  rw [deep, Nat.add_sub_cancel] at located
  refine handBack_safe ⟨typed.leave linked found new idle lands _, fun {other} active' => ?_⟩ sound
    here deep top (fun wanted asked => typed.coroutines.links found waiting found' located asked)
    fun value same => by
      rw [size_updateCoroutine]
      exact fits value same
  cases Option.some.inj (active.symm.trans active')
  exact typed.coroutines.parked found' differ top

theorem yieldValue_safe {reg : Option Reg} (poised : machine.Poised program strays)
    (sound : machine.Sound) (active : machine.active? = some frame)
    (room : ∀ wanted, reg = some wanted → frame.hasRegister wanted = true) :
    (yieldValue reg).Safe program strays machine := by
  obtain ⟨coroutine, current, top⟩ := Option.bind_eq_some_iff.mp active
  have suspends (inner : machine.current ≠ .root) (value : Value)
      (fits : value.Bounded (machine.coroutines.size + strays)) :
      (suspendWith value).Safe program strays machine := by
    refine suspendWith_leads (fun yielding link here running waiting closed => ?_)
      (fun _ => ⟨fun _ => rfl, by simp⟩) (fun yielding fault here failed => ?_)
      fun missing => absurd (current.symm.trans missing) (by simp)
    · cases Option.some.inj (current.symm.trans here)
      have sound' := sound.effect (.yield current running waiting closed ⟨reg, rfl⟩)
      refine stop_safe poised.typed sound.linked current waiting
        ((poised.typed.coroutines.coroutines current).same rfl id) rfl (fun other active' => ?_)
        sound' fun _ same => Option.some.inj same ▸ fits
      cases Option.some.inj (top.symm.trans active')
      exact poised.lands active
    · cases Option.some.inj (current.symm.trans here)
      obtain ⟨link, waiting⟩ := sound.waiting current inner
      have running := sound.linked.running_of_current current
      rw [Coroutine.suspend, if_pos running, waiting] at failed
      cases failed
  cases reg with
  | none =>
      exact leads_yieldValue_none.mpr ⟨fun inner => suspends inner .unit .unit,
        fun _ => ⟨fun _ => rfl, by simp⟩⟩
  | some reg =>
      refine leads_yieldValue_some.mpr ⟨fun inner => (leads_frame_active active).mpr
        ⟨fun value held => suspends inner value ?_, fun fault failed => ?_⟩,
        fun _ => ⟨fun _ => rfl, by simp⟩⟩
      · exact (poised.typed.active active).bounded reg value held
      · exact Frame.read_benign (room reg rfl) failed

/-- Only the root's entry frame ends the run. -/
theorem returnValue_safe (typed : machine.Typed program strays) (sound : machine.Sound)
    (fits : value.Bounded (machine.coroutines.size + strays)) :
    (returnValue value).Leads machine
      (fun outcome after => outcome = .proceed → after.Poised program strays)
      fun fault _ => fault.Benign strays := by
  obtain ⟨coroutine, frame, current, top, active⟩ := sound.active
  simp only [returnValue, leads_bind, leads_get, leads_coroutine]
  refine ⟨fun same here => ?_, fun missing => absurd (current.symm.trans missing) (by simp)⟩
  cases Option.some.inj (current.symm.trans here)
  simp only [top, leads_bind, leads_updateCoroutine, leads_get, leads_ensure, leads_releaseFrame,
    List.countP_eq_zero, decide_eq_true_eq]
  refine ⟨fun closed => ?_, fun _ => ⟨fun _ => rfl, by simp⟩⟩
  have popped := (typed.coroutines.coroutines current).popFrame
  have vacated : { machine with
      arena := machine.arena.vacate machine.globals frame }.Typed program strays :=
    { typed with arena := typed.arena.trims Arena.releaseAll_trims }
  split
  · next dst callee =>
      have sound' := sound.effect (.return current top callee closed ⟨0, rfl⟩)
      obtain ⟨left, caller, found, below, active'⟩ := sound'.active
      have kept := (sound.linked.sound current).popFrame_callee
        (sound.linked.running_of_current current) top (by simp [callee])
      have lower : coroutine.popFrame.active? = some caller :=
        (active?_updateCoroutine current).symm.trans active'
      obtain ⟨lands, wanted⟩ := (typed.coroutines.coroutines current).popped top lower
      have poised : Machine.Poised program strays _ :=
        ⟨vacated.update sound.linked current popped kept.2, fun {other} active'' =>
          Option.some.inj (active'.symm.trans active'') ▸ lands⟩
      simp only [leads_bind]
      refine (leads_frame_active active').mpr ?_
      refine Leads.mono (writeOption_safe poised sound' active'
        (fun reg same => wanted reg (same ▸ callee)) ?_) (fun _ _ written _ => written)
        fun _ _ benign => benign
      rw [size_updateCoroutine]
      exact fits
  · next entry =>
      split
      · simp
      · next inner =>
          obtain ⟨link, waiting⟩ := sound.waiting current inner
          have sound' := sound.effect (.finish current top entry waiting closed ⟨0, rfl⟩)
          have running := sound.linked.running_of_current current
          have finished := (sound.linked.sound current).popFrame_entry running top entry
          simp only [waiting, leads_bind]
          refine Leads.mono (stop_safe vacated sound.linked current waiting popped ?_ ?_ sound' (by simp))
            (fun _ _ poised _ => poised) fun _ _ benign => benign
          · exact ((sound.linked.sound current).popFrame running).idle (by simp [finished])
          · intro other active'
            have left := (Coroutine.at?_top active').1
            rw [(Coroutine.state_eq_exhausted_iff.mp finished).2] at left
            cases left

/-! Regions and handlers -/

theorem openRegion_safe (poised : machine.Poised program strays) (active : machine.active? = some frame) :
    openRegion.Safe program strays machine := by
  simp only [Safe, openRegion, leads_bind, leads_get, leads_ensure, leads_frame_active active,
    leads_modify, leads_count]
  refine ⟨fun _ => ?_, fun _ => ⟨fun _ => rfl, by simp⟩⟩
  obtain ⟨counters, counted⟩ := Machine.count_eq _ _
  rw [counted]
  refine ⟨⟨poised.typed.runs, poised.typed.coroutines, poised.typed.arena, ?_⟩, poised.lands⟩
  intro region member
  rcases List.mem_cons.mp member with rfl | earlier
  · intro key value logged
    simp [RollbackLog.new] at logged
  · exact poised.typed.logs region earlier

theorem closeRegion_safe {closing : Closing} (poised : machine.Poised program strays)
    (sound : machine.Sound) (active : machine.active? = some frame) :
    (closeRegion closing).Safe program strays machine := by
  simp only [Safe, closeRegion, leads_bind, leads_frame_active active, leads_get]
  split
  · exact ⟨fun _ => rfl, by simp⟩
  · next region top =>
      obtain ⟨rest, stacked⟩ := List.head?_eq_some_iff.mp top
      have below : machine.regions.pop = .ofItems rest := Stack.ext (by simp [stacked])
      have enabled := sound.enabled region (by simp [stacked])
      have logs : ∀ other ∈ rest, other.log.Bounded (machine.coroutines.size + strays) := fun other member =>
        poised.typed.logs other (stacked ▸ List.mem_cons_of_mem _ member)
      simp only [leads_bind, leads_ensure]
      refine ⟨fun _ => ?_, fun _ => ⟨fun _ => rfl, by simp⟩⟩
      cases closing with
      | commit =>
          simp only [commitInnermost, popRegion, leads_bind, leads_get, top, leads_modify,
            leads_pure, leads_ofExcept, leads_count, below, RollbackLog.commit, enabled, if_true]
          obtain ⟨counters, counted⟩ := Machine.count_eq _ _
          rw [counted]
          exact ⟨fun _ _ => ⟨{ poised.typed with logs := logs }, poised.lands⟩, (by simp)⟩
      | rollback =>
          refine leads_rollbackInnermost stacked enabled fun counters => ?_
          refine ⟨⟨poised.typed.runs, poised.typed.coroutines, ?_, logs⟩, poised.lands⟩
          exact poised.typed.arena.restore (poised.typed.logs region (by simp [stacked]))

theorem pushHandler_safe {target : Nat} {dst : Option Reg} (poised : machine.Poised program strays)
    (sound : machine.Sound) (active : machine.active? = some frame)
    (lands : frame.Lands program target)
    (room : ∀ wanted, dst = some wanted → frame.hasRegister wanted = true) :
    (pushHandler target dst).Safe program strays machine := by
  obtain ⟨coroutine, current, top⟩ := Option.bind_eq_some_iff.mp active
  simp only [Safe, pushHandler, leads_bind, leads_get, leads_frame_active active,
    leads_updateCoroutine]
  refine ⟨poised.typed.update sound.linked current ?_ rfl, fun {other} active' => ?_⟩
  · exact (poised.typed.coroutines.coroutines current).pushHandler top rfl lands room
  · cases Option.some.inj (top.symm.trans ((active?_updateCoroutine current).symm.trans active'))
    exact poised.lands active

theorem popHandler_safe (poised : machine.Poised program strays) (sound : machine.Sound)
    (active : machine.active? = some frame) : popHandler.Safe program strays machine := by
  obtain ⟨coroutine, current, top⟩ := Option.bind_eq_some_iff.mp active
  simp only [Safe, popHandler, leads_bind, leads_get, leads_coroutine]
  refine ⟨fun same here => ?_, fun missing => absurd (current.symm.trans missing) (by simp)⟩
  cases Option.some.inj (current.symm.trans here)
  split
  · next handler outer installed =>
      simp only [leads_bind, leads_ensure, leads_updateCoroutine]
      refine ⟨fun _ => ⟨poised.typed.update sound.linked current ?_ rfl,
        fun {other} active' => ?_⟩, fun _ => ⟨fun _ => rfl, by simp⟩⟩
      · exact (poised.typed.coroutines.coroutines current).same rfl fun member =>
          installed ▸ List.mem_cons_of_mem _ member
      · cases Option.some.inj (top.symm.trans ((active?_updateCoroutine current).symm.trans active'))
        exact poised.lands active
  · exact ⟨fun _ => rfl, by simp⟩

end Action

/-! Conditions -/

namespace Machine

variable {program : Program} {strays : Nat} {before after : Machine} {id : CoroutineId} {coroutine : Coroutine}
  {handler : Handler} {outer : List Handler} {owner : Frame} {value : Value}

/-- A handler has the register that it asked for. -/
theorem Stuck.outside_only {fault : Fault} (typed : before.Typed program strays)
    (stuck : before.Stuck fault) : fault = .deadContainer := by
  cases stuck with
  | outside => rfl
  | unreceived catches wanted missing =>
      have room := (typed.coroutines.coroutines catches.found).received
        (catches.installed ▸ List.mem_cons_self) catches.owned wanted
      exact absurd (room.symm.trans missing) nofun

/-- The same coroutines are there before and after. -/
theorem size_eq (same : ∀ id, (after.coroutine? id).isSome = (before.coroutine? id).isSome) :
    after.coroutines.size = before.coroutines.size := by
  have within (index : Nat) : index < after.coroutines.size ↔ index < before.coroutines.size := by
    simpa [coroutine?] using Bool.eq_iff_iff.mp (same ⟨index⟩)
  have up := within after.coroutines.size
  have down := within before.coroutines.size
  omega

namespace Caught

/-- Where the coroutines of the machine come from that goes on. -/
theorem coroutine_cases (caught : before.Caught value id coroutine handler outer owner after)
    {other : CoroutineId} {later : Coroutine} (found : after.coroutine? other = some later) :
    later = .dead ∨ (other = id ∧ later = { coroutine with
        handlers := outer
        frames := (coroutine.frames.below handler.depth).push (handler.resume owner value) }) ∨
      (other ∉ before.dropped ∧ other ≠ id ∧ before.coroutine? other = some later) := by
  by_cases gone : other ∈ before.dropped
  · exact .inl (Option.some.inj ((caught.gone gone).symm.trans found)).symm
  · by_cases same : other = id
    · cases same
      exact .inr (.inl ⟨rfl, (Option.some.inj (caught.catcher.symm.trans found)).symm⟩)
    · exact .inr (.inr ⟨gone, same, (caught.kept gone same).symm.trans found⟩)

theorem size (caught : before.Caught value id coroutine handler outer owner after)
    (catches : before.Catches id coroutine handler outer owner) (sound : before.Sound) :
    after.coroutines.size = before.coroutines.size := by
  refine size_eq fun other => ?_
  by_cases gone : other ∈ before.dropped
  · obtain ⟨earlier, found, -⟩ := sound.awake_running ((List.takeWhile_sublist _).subset gone)
    rw [caught.gone gone, found]
    rfl
  · by_cases same : other = id
    · rw [same, caught.catcher, catches.found]
      rfl
    · rw [caught.kept gone same]

/-- The current coroutine is left, or it catches. -/
theorem current_cases (catches : before.Catches id coroutine handler outer owner)
    (sound : before.Sound) : before.current ∈ before.dropped ∨ before.current = id := by
  obtain ⟨rest, path⟩ := List.head?_eq_some_iff.mp (awake_trail sound.linked).1.head?
  have first := catches.first
  rw [catcher?, path] at first
  rw [dropped, path]
  cases uncovered : before.bare before.current with
  | true =>
      rw [List.takeWhile_cons_of_pos uncovered]
      exact .inl List.mem_cons_self
  | false =>
      rw [List.find?_cons_of_pos (by simp [uncovered])] at first
      exact .inr (Option.some.inj first)

theorem poised (caught : before.Caught value id coroutine handler outer owner after)
    (catches : before.Catches id coroutine handler outer owner) (sound : before.Sound)
    (typed : before.Typed program strays) (fits : value.Bounded (before.coroutines.size + strays)) :
    after.Poised program strays := by
  have size := caught.size catches sound
  have resumed := (typed.coroutines.coroutines catches.found).resumed catches.installed
    catches.owned fits
  have resumes : owner.SameCode (handler.resume owner value) := by
    unfold Handler.resume
    split <;> exact ⟨rfl, by simp [Frame.put], rfl⟩
  have within := Stack.lt_of_at? catches.owned
  have cut : (coroutine.frames.below handler.depth).size = handler.depth := by
    rw [Stack.size_below]
    omega
  refine ⟨⟨?_, ⟨fun {other later} found => ?_, ?_, ?_⟩, ?_, ?_⟩, fun {frame} active => ?_⟩
  · obtain ⟨_, _, _, _, _, rfl⟩ := caught.ground
    exact typed.runs
  · rw [size]
    rcases caught.coroutine_cases found with rfl | ⟨-, rfl⟩ | ⟨-, -, found'⟩
    · exact .dead
    · exact resumed
    · exact typed.coroutines.coroutines found'
  · intro other waiting waiter link frame reg found waited found' located wanted
    have waits : ∃ earlier, before.coroutine? other = some earlier ∧ earlier.caller = some link := by
      rcases caught.coroutine_cases found with rfl | ⟨rfl, rfl⟩ | ⟨-, -, here⟩
      · cases waited
      · exact ⟨coroutine, catches.found, waited⟩
      · exact ⟨waiting, here, waited⟩
    obtain ⟨earlier, here, waited'⟩ := waits
    rcases caught.coroutine_cases found' with rfl | ⟨same, rfl⟩ | ⟨-, -, there⟩
    · cases located
    · have there := same ▸ catches.found
      rw [Stack.at?_push, cut] at located
      split at located
      · next level =>
          cases located
          rw [resumes.hasRegister]
          exact typed.coroutines.links here waited' there (level ▸ catches.owned) wanted
      · rw [Stack.at?_below] at located
        split at located
        · exact typed.coroutines.links here waited' there located wanted
        · cases located
    · exact typed.coroutines.links here waited' there located wanted
  · intro other parked frame found differ active
    rw [caught.current] at differ
    rcases caught.coroutine_cases found with rfl | ⟨same, -⟩ | ⟨stays, -, found'⟩
    · cases active
    · exact absurd same differ
    · refine typed.coroutines.parked found' (fun same => ?_) active
      rcases current_cases catches sound with left | catching
      · exact stays (same ▸ left)
      · exact differ (same.trans catching)
  · rw [size]
    refine Arena.Bounded.trims (typed.arena.undo fun region member => ?_) caught.bindings
    exact typed.logs region (List.mem_filter.mp member).1
  · intro region opened
    rw [caught.regions] at opened
    rw [size]
    exact typed.logs region (List.mem_filter.mp opened).1
  · obtain ⟨current, found, top⟩ := Option.bind_eq_some_iff.mp active
    rw [caught.current, caught.catcher] at found
    cases found
    cases top
    have lands := (typed.coroutines.coroutines catches.found).targets
      (catches.installed ▸ List.mem_cons_self) catches.owned
    refine resumes.lands ?_
    have target : (handler.resume owner value).pc = handler.target := by
      unfold Handler.resume
      split <;> rfl
    rw [target]
    exact lands

end Caught

theorem Typed.raised {code : Instruction} {cause : Cause} {machine : Machine}
    (typed : machine.Typed program strays) (raises : machine.raised? code = some cause) (value : Value)
    (thrown : cause = .thrown value) : value.Bounded (machine.coroutines.size + strays) := by
  unfold raised? at raises
  split at raises
  · cases raises
    cases thrown
  · next reg =>
      obtain ⟨frame, active, raises⟩ := Option.bind_eq_some_iff.mp raises
      obtain ⟨held, read, same⟩ := Option.bind_eq_some_iff.mp raises
      cases same
      cases thrown
      exact (typed.active active).bounded reg value (Action.toOption_eq_some read)
  · obtain ⟨frame, active, raises⟩ := Option.bind_eq_some_iff.mp raises
    split at raises <;> cases raises
    cases thrown
  · obtain ⟨frame, active, raises⟩ := Option.bind_eq_some_iff.mp raises
    obtain ⟨values, passed, raises⟩ := Option.bind_eq_some_iff.mp raises
    simp only at raises
    split at raises
    · cases raises
    · next unresolved =>
        cases raises
        unfold Program.select at unresolved
        split at unresolved <;> cases unresolved
        cases thrown
  · cases raises

end Machine

namespace Action

open Machine

variable {program : Program} {strays : Nat} {machine : Machine} {frame : Frame} {unit : CodeUnit} {pc : Nat}
  {code : Instruction}

/-- A condition is caught by a typed machine, unless the handler's container is gone. -/
theorem execute_raise_safe {cause : Cause} (typed : machine.Typed program strays) (sound : machine.Sound)
    (raises : machine.raised? code = some cause) :
    (execute code).Leads machine (fun outcome after => outcome = .proceed → after.Poised program strays)
      fun fault _ => fault = .deadContainer ∧ machine.Stuck fault := by
  refine (execute_raise_leads sound raises).mono (fun outcome after unwound goesOn => ?_)
    fun fault _ stuck => ⟨stuck.outside_only typed, stuck⟩
  cases goesOn
  cases unwound with
  | caught catches inScope caught =>
      refine caught.poised catches sound typed (Value.bounded_condition fun value thrown => ?_)
      exact typed.raised raises value thrown

/-- An instruction that raises no condition. -/
theorem execute_safe (checked : program.check = .ok ()) (typed : machine.Typed program strays)
    (sound : machine.Sound) (active : machine.active? = some frame)
    (found : program.function? frame.function = some unit)
    (allowed : Program.instructionDefects program unit pc code = [])
    (ready : code.isTerminator = false → machine.Poised program strays)
    (raises : machine.raised? code = none) :
    (execute code).Leads machine (fun outcome after => outcome = .proceed → after.Poised program strays)
      fun fault _ => fault.Benign strays := by
  have room {reg : Reg} (within : reg < unit.registerCount) : frame.hasRegister reg = true :=
    typed.hasRegister active found within
  have lands {target : Nat} (within : target < unit.code.size) : frame.Lands program target :=
    ⟨unit, found, within⟩
  have bounded := (typed.active active).bounded
  have goesOn {action : Action Unit} (safe : action.Safe program strays machine) :
      (thenProceed action).Leads machine
        (fun outcome after => outcome = .proceed → after.Poised program strays)
        fun fault _ => fault.Benign strays := by
    simp only [thenProceed, leads_bind]
    exact safe.mono (fun _ _ poised _ => poised) fun _ _ benign => benign
  cases code with
  | const dst literal =>
      simp only [Program.instructionDefects, List.append_eq_nil_iff,
        Program.registerDefects_eq_nil] at allowed
      exact goesOn (write_safe (ready rfl) sound active (room allowed.1) Value.bounded_ofLiteral)
  | copy dst src =>
      simp only [Program.instructionDefects, List.append_eq_nil_iff,
        Program.registerDefects_eq_nil] at allowed
      refine goesOn ?_
      simp only [Safe, leads_bind, leads_read, leads_frame_active active]
      exact ⟨fun value held => write_safe (ready rfl) sound active (room allowed.1)
        (bounded src value held), fun fault failed => Frame.read_benign (room allowed.2) failed⟩
  | move dst src =>
      simp only [Program.instructionDefects, List.append_eq_nil_iff,
        Program.registerDefects_eq_nil] at allowed
      exact goesOn (move_safe (ready rfl) sound active (room allowed.1) (room allowed.2))
  | int op dst a b =>
      simp only [Program.instructionDefects, Program.registersDefects_eq_nil] at allowed
      refine goesOn ?_
      simp only [Safe, intOp, leads_bind, leads_frame_active active, leads_ofExcept]
      exact ⟨fun _ _ => ⟨fun _ _ => write_safe (ready rfl) sound active
          (room (allowed dst (by simp))) Value.bounded_apply,
        fun fault failed => Frame.readInt_benign (room (allowed b (by simp))) failed⟩,
        fun fault failed => Frame.readInt_benign (room (allowed a (by simp))) failed⟩
  | not dst source =>
      simp only [Program.instructionDefects, Program.registersDefects_eq_nil] at allowed
      refine goesOn ?_
      simp only [Safe, leads_bind, leads_frame_active active, leads_ofExcept]
      exact ⟨fun _ _ => write_safe (ready rfl) sound active (room (allowed dst (by simp)))
          (.bool _),
        fun fault failed => Frame.readBool_benign (room (allowed source (by simp))) failed⟩
  | equal dst a b =>
      simp only [Program.instructionDefects, Program.registersDefects_eq_nil] at allowed
      refine goesOn ?_
      simp only [Safe, leads_bind, leads_read, leads_frame_active active]
      exact ⟨fun _ _ => ⟨fun _ _ => write_safe (ready rfl) sound active
          (room (allowed dst (by simp))) (.bool _),
        fun fault failed => Frame.read_benign (room (allowed b (by simp))) failed⟩,
        fun fault failed => Frame.read_benign (room (allowed a (by simp))) failed⟩
  | makeNode dst ctor fields =>
      simp only [Program.instructionDefects, List.append_eq_nil_iff,
        Program.registerDefects_eq_nil, Program.registersDefects_eq_nil,
        Program.nodeDefects_eq_nil] at allowed
      obtain ⟨⟨dst', fields'⟩, decl, declared, arity⟩ := allowed
      exact goesOn (makeNode_safe (ready rfl) sound active (room dst')
        (fun field member => room (fields' field member)) declared arity)
  | field dst node position =>
      simp only [Program.instructionDefects, Program.registersDefects_eq_nil] at allowed
      refine goesOn ?_
      simp only [Safe, leads_bind, leads_frame_active active, leads_ofExcept]
      exact ⟨fun _ held => write_safe (ready rfl) sound active (room (allowed dst (by simp)))
          (Frame.readField_bounded bounded held),
        fun fault failed => Frame.readField_benign (room (allowed node (by simp))) failed⟩
  | hasShape dst source type =>
      simp only [Program.instructionDefects, List.append_eq_nil_iff,
        Program.registersDefects_eq_nil, Program.typeDefects_eq_nil,
        Option.isSome_iff_exists] at allowed
      obtain ⟨regs, shape, declared⟩ := allowed
      exact goesOn (hasShape_safe (ready rfl) sound active (room (regs dst (by simp)))
        (room (regs source (by simp))) declared)
  | loadVar dst name =>
      simp only [Program.instructionDefects, List.append_eq_nil_iff,
        Program.registerDefects_eq_nil] at allowed
      simp only [execute, loadVar, leads_bind, leads_frame_active active, leads_get]
      split
      · next value bound =>
          simp only [leads_bind, leads_pure]
          exact Leads.mono (write_safe (ready rfl) sound active (room allowed.1)
            (typed.arena.lookup bound)) (fun _ _ poised _ => poised) fun _ _ benign => benign
      · next unbound => simp [raised?, active, unbound] at raises
  | storeVar name src =>
      simp only [Program.instructionDefects, List.append_eq_nil_iff,
        Program.registerDefects_eq_nil] at allowed
      exact goesOn (storeVar_safe (ready rfl) sound active (room allowed.1))
  | declareVar name src =>
      simp only [Program.instructionDefects, List.append_eq_nil_iff,
        Program.registerDefects_eq_nil] at allowed
      exact goesOn (declareVar_safe (ready rfl) sound active (room allowed.1))
  | declareFunction name function =>
      exact goesOn (declareFunction_safe (ready rfl) sound active)
  | pushScope => exact goesOn (pushScope_safe (ready rfl) sound active)
  | popScope => exact goesOn (popScope_safe (ready rfl) sound active)
  | call dst callee args =>
      simp only [Program.instructionDefects, List.append_eq_nil_iff,
        Program.registersDefects_eq_nil] at allowed
      obtain ⟨⟨dst', args'⟩, arity⟩ := allowed
      refine (call_safe checked (ready rfl) sound active (fun arg member => room (args' arg member))
        (fun wanted asked => room (dst' wanted (by simp [asked]))) ?_ raises).mono
        (fun _ _ poised _ => poised) fun _ _ benign => benign
      rintro function rfl
      exact Program.callDefects_eq_nil.mp arity
  | «return» reg =>
      simp only [Program.instructionDefects, Program.registerDefects_eq_nil] at allowed
      simp only [execute, leads_bind, leads_read, leads_frame_active active]
      exact ⟨fun value held => (returnValue_safe typed sound (bounded reg value held)).mono
        (fun _ _ poised => poised) fun _ _ benign => benign,
        fun fault failed => Frame.read_benign (room allowed) failed⟩
  | createCoroutine dst function args =>
      simp only [Program.instructionDefects, List.append_eq_nil_iff,
        Program.registerDefects_eq_nil, Program.registersDefects_eq_nil,
        Program.callDefects_eq_nil] at allowed
      obtain ⟨⟨dst', args'⟩, callee, known, fits⟩ := allowed
      exact goesOn (createCoroutine_safe checked (ready rfl) sound active known fits (room dst')
        fun arg member => room (args' arg member))
  | enterCoroutine dst coroutine out =>
      simp only [Program.instructionDefects, Program.registersDefects_eq_nil] at allowed
      refine goesOn (enterCoroutine_safe (ready rfl) sound active
        (room (allowed coroutine (by simp))) fun wanted asked => room (allowed wanted ?_))
      rcases asked with rfl | rfl <;> simp
  | hasNext dst coroutine =>
      simp only [Program.instructionDefects, Program.registersDefects_eq_nil] at allowed
      exact goesOn (hasNext_safe (ready rfl) sound active (room (allowed dst (by simp)))
        (room (allowed coroutine (by simp))))
  | copyCoroutine dst coroutine =>
      simp only [Program.instructionDefects, Program.registersDefects_eq_nil] at allowed
      exact goesOn (copyCoroutine_safe checked (ready rfl) sound active
        (room (allowed dst (by simp))) (room (allowed coroutine (by simp))))
  | yield reg =>
      simp only [Program.instructionDefects, Program.registersDefects_eq_nil] at allowed
      exact goesOn (yieldValue_safe (ready rfl) sound active fun wanted asked =>
        room (allowed wanted (by simp [asked])))
  | openRegion => exact goesOn (openRegion_safe (ready rfl) active)
  | commitRegion => exact goesOn (closeRegion_safe (ready rfl) sound active)
  | rollbackRegion => exact goesOn (closeRegion_safe (ready rfl) sound active)
  | noSolution => cases raises
  | pushCatch target dst =>
      simp only [Program.instructionDefects, List.append_eq_nil_iff,
        Program.targetDefects_eq_nil, Program.registersDefects_eq_nil] at allowed
      exact goesOn (pushHandler_safe (ready rfl) sound active (lands allowed.1)
        fun wanted asked => room (allowed.2 wanted (by simp [asked])))
  | popCatch => exact goesOn (popHandler_safe (ready rfl) sound active)
  | throw reg =>
      simp only [Program.instructionDefects, Program.registerDefects_eq_nil] at allowed
      simp only [execute, leads_bind, leads_read, leads_frame_active active]
      refine ⟨fun value held => ?_, fun fault failed => Frame.read_benign (room allowed) failed⟩
      simp [raised?, active, held, Except.toOption] at raises
  | jump target =>
      simp only [Program.instructionDefects, Program.targetDefects_eq_nil] at allowed
      refine goesOn ?_
      simp only [Safe, leads_updateFrame]
      exact typed.move sound.linked active ⟨rfl, rfl, rfl⟩ bounded (lands allowed)
  | branch condition whenTrue whenFalse =>
      simp only [Program.instructionDefects, List.append_eq_nil_iff,
        Program.registerDefects_eq_nil, Program.targetDefects_eq_nil] at allowed
      exact goesOn (branch_safe typed sound active (room allowed.1.1) (lands allowed.1.2)
        (lands allowed.2))
  | trap message => exact ⟨fun _ => rfl, by simp⟩

end Action

end Backtrack
