import Backtrack.Proofs.Discipline
import Backtrack.Proofs.Resting

/-!
What a coroutine receives from another one that it enters. While it waits nothing in it changes, and
control comes back to it in exactly one of three ways: the other one yields, and the registers that
it named receive what is yielded; the other one ends; or a condition leaves the other one, and then
it receives nothing from it.
-/

namespace Backtrack

/-- How control comes back from a coroutine. -/
inductive Handover
  | yielded (value : Value)
  | finished
  | escaped

namespace Machine

/-- A run during which a coroutine is not current. -/
inductive Away (id : CoroutineId) (start : Machine) : Machine → Prop
  | here (away : start.current ≠ id) : Away id start start
  | next {machine after : Machine} (soFar : Away id start machine) (moves : machine.Moves after)
      (away : after.current ≠ id) : Away id start after

/-- The instruction of a machine raises a condition that leaves a coroutine. -/
def Drops (machine : Machine) (id : CoroutineId) : Prop :=
  ∃ code cause, machine.instruction? = some code ∧
    (machine.fetched code).raised? code = some cause ∧ id ∈ (machine.fetched code).dropped

/-- In a run, a condition has left a coroutine and also the one that waited for it. -/
def Discards (start : Machine) (id waiter : CoroutineId) (later : Machine) : Prop :=
  later.coroutine? waiter = some .dead ∧ ∃ raising : Machine, start.Away waiter raising ∧
    raising.step.Reaches later ∧ raising.Drops id ∧ raising.Drops waiter

/-- A coroutine that waited has received whether the other one yielded, and what. -/
structure Receives (machine : Machine) (link : CallerLink) (waiting : Coroutine) (ok : Bool)
    (out : Option Value) : Prop where
  current : machine.current = link.coroutine
  changed : machine.coroutine? link.coroutine = some (waiting.updateActive (link.deliver ok out))
  told {frame : Frame} {reg : Reg} (active : machine.active? = some frame)
    (wanted : link.ok = some reg) (apart : out = none ∨ link.out ≠ some reg) :
    frame.read reg = .ok (.bool ok)
  given {frame : Frame} {reg : Reg} {value : Value} (active : machine.active? = some frame)
    (sent : out = some value) (wanted : link.out = some reg) : frame.read reg = .ok value
  untouched {frame earlier : Frame} {reg : Reg} (active : machine.active? = some frame)
    (stood : waiting.active? = some earlier) (apart : link.ok ≠ some reg)
    (apart' : out = none ∨ link.out ≠ some reg) : frame.read reg = earlier.read reg

/-- A coroutine that waited goes on after a condition: it catches it, or the machine stops. -/
inductive Survives (machine : Machine) (link : CallerLink) (waiting : Coroutine) (value : Value) :
    Prop
  | caught {handler : Handler} {outer : List Handler} {owner : Frame}
      (running : machine.isRunning = true) (installed : waiting.handlers = handler :: outer)
      (owned : waiting.frames.at? handler.depth = some owner)
      (changed : machine.coroutine? link.coroutine = some { waiting with
        handlers := outer
        frames := (waiting.frames.below handler.depth).push (handler.resume owner value) })
      (untouched : ∀ reg, handler.dst ≠ some reg →
        (handler.resume owner value).read reg = owner.read reg)
  | uncaught {condition : Condition} (stops : machine.status = .uncaught condition)
      (outermost : link.coroutine = .root) (kept : machine.coroutine? .root = some waiting)

/-- One step hands control back from a coroutine to the one that waits for it. -/
inductive HandsBack (machine : Machine) (id : CoroutineId) (link : CallerLink)
    (waiting : Coroutine) : Handover → Prop
  | yielded {reg : Option Reg} {frame : Frame} {value : Value} {parked : Coroutine}
      (current : machine.current = id) (yielding : machine.instruction? = some (.yield reg))
      (active : machine.active? = some frame)
      (held : value = .unit ∧ reg = none ∨ ∃ src, reg = some src ∧ frame.read src = .ok value)
      (found : machine.step.coroutine? id = some parked) (suspended : parked.state = .suspended)
      (receives : machine.step.Receives link waiting true (some value)) :
      HandsBack machine id link waiting (.yielded value)
  | finished {reg : Reg} {frame : Frame} {spent : Coroutine} (current : machine.current = id)
      (returning : machine.instruction? = some (.return reg))
      (active : machine.active? = some frame) (entry : frame.role = .entry)
      (found : machine.step.coroutine? id = some spent) (exhausted : spent.state = .exhausted)
      (receives : machine.step.Receives link waiting false none) :
      HandsBack machine id link waiting .finished
  | escaped {code : Instruction} {cause : Cause} {spent : Coroutine}
      (next : machine.instruction? = some code)
      (raises : (machine.fetched code).raised? code = some cause)
      (left : id ∈ (machine.fetched code).dropped)
      (found : machine.step.coroutine? id = some spent) (exhausted : spent.state = .exhausted)
      (survives : machine.step.Survives link waiting
        (Condition.mk cause (machine.fetched code).trace).value) :
      HandsBack machine id link waiting .escaped

variable {code : Instruction} {before after machine origin : Machine} {id : CoroutineId}
  {link : CallerLink} {waiting coroutine : Coroutine} {frame : Frame} {value : Value}

/-! The coroutine that waits and the one it waits for -/

/-- A coroutine waits for another, and stands as it did. -/
structure Awaits (machine : Machine) (id : CoroutineId) (link : CallerLink) (waiting : Coroutine) :
    Prop where
  linked : machine.caller? id = some link
  stands : machine.coroutine? link.coroutine = some waiting

theorem caller?_eq_some_iff : machine.caller? id = some link ↔
    ∃ coroutine, machine.coroutine? id = some coroutine ∧ coroutine.caller = some link :=
  Option.bind_eq_some_iff

namespace Sound

/-- Next behind a coroutine on the path is the one that waits for it. -/
theorem path_of_caller (sound : machine.Sound) (linked : machine.caller? id = some link) :
    ∃ front rest, machine.awake = front ++ id :: link.coroutine :: rest := by
  obtain ⟨coroutine, found, waits⟩ := caller?_eq_some_iff.mp linked
  obtain ⟨trail, -, running⟩ := awake_trail sound.linked
  have runs : coroutine.state = .running :=
    Coroutine.state_eq_running_iff.mpr ((sound.linked.sound found).awake (by simp [waits]))
  obtain ⟨front, behind, path, onward⟩ := trail.split ((running id).mpr ⟨coroutine, found, runs⟩)
  have leads : machine.waiter? id = some link.coroutine := by
    rw [waiter?, linked]
    rfl
  obtain ⟨rest, rfl, further⟩ := onward.onward leads
  obtain ⟨last, rfl⟩ := List.head?_eq_some_iff.mp further.head?
  exact ⟨front, last, path⟩

theorem caller_apart (sound : machine.Sound) (linked : machine.caller? id = some link) :
    link.coroutine ≠ machine.current := by
  obtain ⟨coroutine, found, waits⟩ := caller?_eq_some_iff.mp linked
  exact sound.linked.not_waited found waits

end Sound

/-- Of two neighbours in a list, the second comes first in a rest of the list without the first. -/
theorem rest_of_neighbours {front front' rest behind : List CoroutineId} {other : CoroutineId}
    (distinct : (front ++ id :: other :: rest).Nodup)
    (parts : front ++ id :: other :: rest = front' ++ behind) (gone : id ∉ behind)
    (stays : other ∈ behind) : behind = other :: rest := by
  have first : front ++ [id] <+: front ++ id :: other :: rest := ⟨other :: rest, by simp⟩
  rcases List.prefix_or_prefix_of_prefix first ⟨behind, parts.symm⟩ with ⟨more, same⟩ | ⟨more, same⟩
  · rw [← same, List.append_cons, List.append_assoc (front ++ [id])] at parts
    have parts := List.append_cancel_left parts
    cases more with
    | nil => exact parts.symm
    | cons next more =>
        obtain ⟨rfl, parts⟩ := List.cons.inj parts
        have twice := (List.nodup_append.mp distinct).2.1
        rw [parts] at twice
        simp [stays] at twice
  · rw [List.append_cons, ← same, List.append_assoc] at parts
    have parts := List.append_cancel_left parts
    rcases List.eq_nil_or_concat' more with rfl | ⟨others, last, rfl⟩
    · exact parts.symm
    · rw [← List.append_assoc] at same
      have last := List.singleton_inj.mp (List.append_inj' same rfl).2
      exact absurd (by simp [← parts, last]) gone

/-- What the condition leaves behind the first coroutine, it leaves with it. -/
theorem Awaits.dropped (awaits : machine.Awaits id link waiting) (sound : machine.Sound)
    (left : link.coroutine ∈ machine.dropped) : id ∈ machine.dropped := by
  obtain ⟨front, rest, path⟩ := sound.path_of_caller awaits.linked
  have distinct := (awake_trail sound.linked).1.nodup
  have first : front ++ [id] <+: machine.awake := ⟨link.coroutine :: rest, by simp [path]⟩
  have dropped : machine.dropped <+: machine.awake := List.takeWhile_prefix _
  rcases List.prefix_or_prefix_of_prefix first dropped with further | shorter
  · exact further.subset (by simp)
  · have again := shorter.subset left
    rw [path, List.append_cons] at distinct
    exact absurd rfl ((List.nodup_append.mp distinct).2.2 _ again _ List.mem_cons_self)

theorem Switches.awaits (switches : before.Switches code after) (sound : before.Sound)
    (sound' : after.Sound) (awaits : before.Awaits id link waiting) :
    after.Awaits id link waiting ∨ after.current = link.coroutine ∨
      (link.coroutine ∈ before.dropped ∧ after.coroutine? link.coroutine = some .dead ∧
        ∃ cause, before.raised? code = some cause) := by
  obtain ⟨front, rest, path⟩ := sound.path_of_caller awaits.linked
  have apart := sound.caller_apart awaits.linked
  have waits : link.coroutine ∈ before.awake := by simp [path]
  by_cases passed : id ∈ after.awake
  · have linked : after.caller? id = some link :=
      (switches.caller (by simp [path]) passed).trans awaits.linked
    obtain ⟨front', rest', path'⟩ := sound'.path_of_caller linked
    exact .inl ⟨linked, switches.others awaits.stands (fun _ => by simp [path']) apart
      (sound'.caller_apart linked)⟩
  · right
    by_cases stays : link.coroutine ∈ after.awake
    · left
      rcases switches.path with ⟨entered, grown⟩ | ⟨front', parts⟩
      · exact absurd (by simp [grown, path]) passed
      · have distinct := (awake_trail sound.linked).1.nodup
        rw [path] at parts distinct
        have first := (awake_trail sound'.linked).1.head?
        rw [rest_of_neighbours distinct parts passed stays] at first
        exact (Option.some.inj first).symm
    · exact .inr (switches.left waits stays apart)

/-- A condition that nothing catches leaves every coroutine on the path. -/
theorem dropped_eq_awake (uncaught : machine.catcher? = none) : machine.dropped = machine.awake := by
  refine List.takeWhile_eq_self_iff.mpr fun other passed => ?_
  simpa using List.find?_eq_none.mp uncaught other passed

/-- The root does not wait. -/
theorem Awaits.not_root (awaits : machine.Awaits id link waiting) (sound : machine.Sound) :
    machine.current ≠ .root := by
  intro root
  obtain ⟨front, rest, path⟩ := sound.path_of_caller awaits.linked
  have short := congrArg List.length ((sound.alone root).symm.trans path)
  simp at short
  omega

theorem Turns.awaits {outcome : Outcome} (turns : before.Turns code outcome after)
    (sound : before.Sound) (sound' : outcome = .proceed → after.Sound)
    (awaits : before.Awaits id link waiting) (away : after.current ≠ link.coroutine) :
    outcome = .proceed ∧ after.Awaits id link waiting ∨
      after.coroutine? link.coroutine = some .dead ∧ id ∈ before.dropped ∧
        link.coroutine ∈ before.dropped ∧ ∃ cause, before.raised? code = some cause := by
  cases outcome with
  | proceed =>
      rcases (turns.switches sound (sound' rfl)).awaits sound (sound' rfl) awaits with
        kept | back | ⟨left, dead, raises⟩
      · exact .inl ⟨rfl, kept⟩
      · exact absurd back away
      · exact .inr ⟨dead, awaits.dropped sound left, left, raises⟩
  | done value =>
      cases turns with
      | ends root => exact absurd root (awaits.not_root sound)
      | raises raises unwound => cases unwound
  | uncaught condition =>
      cases turns with
      | raises raises unwound =>
          cases unwound with
          | escaped uncaught escaped =>
              obtain ⟨front, rest, path⟩ := sound.path_of_caller awaits.linked
              have passed : link.coroutine ∈ before.awake := by simp [path]
              have left := dropped_eq_awake uncaught ▸ passed
              have dead := escaped.gone passed fun root => away (escaped.current.trans root.symm)
              exact .inr ⟨dead, awaits.dropped sound left, left, _, raises⟩

/-! Control comes back -/

theorem active?_eq (found : machine.coroutine? machine.current = some coroutine)
    (active : coroutine.active? = some frame) : machine.active? = some frame := by
  rw [active?, found]
  exact active

theorem receives {ok : Bool} {out : Option Value} {earlier : Frame}
    (current : machine.current = link.coroutine)
    (changed : machine.coroutine? link.coroutine = some (waiting.updateActive (link.deliver ok out)))
    (top : waiting.active? = some earlier)
    (fits : ∀ reg, link.ok = some reg ∨ (out ≠ none ∧ link.out = some reg) →
      earlier.hasRegister reg = true) : machine.Receives link waiting ok out := by
  have active : machine.active? = some (link.deliver ok out earlier) :=
    active?_eq (current ▸ changed) (Coroutine.active?_updateActive top)
  exact {
    current := current
    changed := changed
    told := fun active' wanted apart => by
      cases Option.some.inj (active.symm.trans active')
      exact CallerLink.read_deliver_ok wanted (fits _ (.inl wanted)) apart
    given := fun active' sent wanted => by
      cases Option.some.inj (active.symm.trans active')
      have room := fits _ (.inr ⟨by rw [sent]; nofun, wanted⟩)
      rw [sent]
      exact CallerLink.read_deliver_out wanted room
    untouched := fun active' stood apart apart' => by
      cases Option.some.inj (active.symm.trans active')
      cases Option.some.inj (top.symm.trans stood)
      exact CallerLink.read_deliver_other apart apart' }

theorem HandsBack.unique {how how' : Handover} (hands : machine.HandsBack id link waiting how)
    (hands' : machine.HandsBack id link waiting how') : how = how' := by
  cases hands with
  | yielded current yielding active held found suspended receives =>
      cases hands' with
      | yielded current' yielding' active' held' =>
          cases Option.some.inj (yielding.symm.trans yielding')
          cases Option.some.inj (active.symm.trans active')
          rcases held with ⟨rfl, rfl⟩ | ⟨src, rfl, held⟩ <;>
            rcases held' with ⟨rfl, asked⟩ | ⟨src', asked, held'⟩
          · rfl
          · cases asked
          · cases asked
          · cases asked
            cases held.symm.trans held'
            rfl
      | finished current' returning => cases yielding.symm.trans returning
      | escaped next raises =>
          cases yielding.symm.trans next
          cases raises
  | finished current returning =>
      cases hands' with
      | yielded current' yielding => cases returning.symm.trans yielding
      | finished => rfl
      | escaped next raises =>
          cases returning.symm.trans next
          cases raises
  | escaped next raises =>
      cases hands' with
      | yielded current yielding =>
          cases next.symm.trans yielding
          cases raises
      | finished current returning =>
          cases next.symm.trans returning
          cases raises
      | escaped => rfl

/-! A run -/

theorem Away.away (run : origin.Away id machine) : machine.current ≠ id := by
  cases run with
  | here away => exact away
  | next _ _ away => exact away

theorem Away.reaches (run : origin.Away id machine) : origin.Reaches machine := by
  induction run with
  | here => exact .refl
  | next _ moves _ ih => exact ih.tail moves

section Run

variable {program : Program} {args : List Value} {settings : Settings}

theorem Awaits.fetched (awaits : machine.Awaits id link waiting) (sound : machine.Sound) :
    (machine.fetched code).Awaits id link waiting := by
  have stays : machine.Stays (machine.fetched code) := sound.stays_fetched
  obtain ⟨coroutine, found, -⟩ := caller?_eq_some_iff.mp awaits.linked
  exact ⟨(stays.caller?_eq found).trans awaits.linked,
    stays.others awaits.stands (sound.caller_apart awaits.linked)⟩

/-- As long as it is away, a coroutine waits, unless a condition has left both. -/
theorem Away.awaits (run : origin.Away link.coroutine machine)
    (reachable : Reachable program args settings origin) (running : origin.isRunning = true)
    (awaits : origin.Awaits id link waiting) (sane : ∀ fault, machine.status ≠ .trapped fault) :
    machine.isRunning = true ∧ machine.Awaits id link waiting ∨
      origin.Discards id link.coroutine machine := by
  induction run with
  | here => exact .inl ⟨running, awaits⟩
  | @next machine _ soFar moves away ih =>
      have discarded {after : Machine} (moves : machine.Moves after)
          (status : after.coroutine? = machine.coroutine?)
          (discards : origin.Discards id link.coroutine machine) :
          origin.Discards id link.coroutine after := by
        obtain ⟨dead, raising, run, reached, drops⟩ := discards
        exact ⟨status ▸ dead, raising, run, reached.tail moves, drops⟩
      cases moves with
      | collect collecting =>
          exact (ih sane).imp (fun ⟨ran, awaits⟩ => ⟨ran, awaits.linked, awaits.stands⟩)
            (discarded (.collect collecting) rfl)
      | reset =>
          exact (ih sane).imp (fun ⟨ran, awaits⟩ => ⟨ran, awaits.linked, awaits.stands⟩)
            (discarded .reset rfl)
      | step ran =>
          have here := reachable.further soFar.reaches
          have sound := here.sound ran
          have goesOn (fault : Fault) : machine.status ≠ .trapped fault := by
            rw [of_decide_eq_true ran]
            nofun
          rcases ih goesOn with ⟨-, awaits⟩ | ⟨dead, raising, run, reached, drops⟩
          · rcases step_turns sound with ⟨code, outcome, after, next, turns, same⟩ | ⟨fault, trapped⟩
            · rw [same, current_ended] at away
              have goesOn (proceeds : outcome = .proceed) : machine.step.isRunning = true := by
                subst proceeds
                rw [same]
                exact decide_eq_true
                  (turns.status.trans (status_fetched.trans (of_decide_eq_true ran)))
              have sound' (proceeds : outcome = .proceed) : after.Sound := by
                have later := (here.further (.single (.step ran))).sound (goesOn proceeds)
                subst proceeds
                rw [same] at later
                exact later
              rcases turns.awaits sound.fetched sound' (awaits.fetched sound) away with
                ⟨proceeds, kept⟩ | ⟨dead, left, left', cause, raises⟩
              · refine .inl ⟨goesOn proceeds, ?_⟩
                subst proceeds
                rw [same]
                exact kept
              · have still : machine.step.coroutine? link.coroutine = some .dead := by
                  rw [same, coroutine?_ended, dead]
                exact .inr ⟨still, machine, soFar, .refl, ⟨code, cause, next, raises, left⟩,
                  ⟨code, cause, next, raises, left'⟩⟩
            · exact absurd trapped (sane fault)
          · have still := (step_resting sound ran dead nofun).resolve_right (by
              rintro ⟨dst, target, out, enters⟩
              rcases enters.parked with fresh | suspended
              · cases fresh
              · cases suspended)
            exact .inr ⟨still, raising, run, reached.tail (.step ran), drops⟩

end Run

end Machine

end Backtrack
