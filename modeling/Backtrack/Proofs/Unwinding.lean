import Backtrack.Proofs.Housing
import Mathlib.Data.List.Nodup

/-!
Where a raised condition goes. It leaves the coroutines without a handler, from the current one on
along the callers, and is caught by the topmost handler of the first coroutine that has one. The
regions of what it leaves are undone, and they are exactly the ones that the claims of the handlers
and of the coroutines on the way select; without any handler it leaves the whole machine.
-/

namespace Backtrack

section Lists

variable {α : Type} {items : List α} {holds : α → Bool}

/-- Where the items with a property come first, they can be told apart one by one. -/
theorem takeWhile_eq_filter
    (first : items.Pairwise fun earlier later => holds later = true → holds earlier = true) :
    items.takeWhile holds = items.filter holds := by
  induction items with
  | nil => rfl
  | cons item rest ih =>
      obtain ⟨before, others⟩ := List.pairwise_cons.mp first
      cases held : holds item with
      | true => rw [List.takeWhile_cons_of_pos held, List.filter_cons_of_pos held, ih others]
      | false =>
          have none (later : α) (member : later ∈ item :: rest) : ¬ holds later = true := by
            rcases List.mem_cons.mp member with rfl | deeper
            · rw [held]
              nofun
            · exact fun held' => nomatch held.symm.trans (before later deeper held')
          rw [List.takeWhile_cons_of_neg (by simp [held]), List.filter_eq_nil_iff.mpr none]

theorem dropWhile_eq_filter
    (first : items.Pairwise fun earlier later => holds later = true → holds earlier = true) :
    items.dropWhile holds = items.filter (!holds ·) := by
  induction items with
  | nil => rfl
  | cons item rest ih =>
      obtain ⟨before, others⟩ := List.pairwise_cons.mp first
      cases held : holds item with
      | true =>
          rw [List.dropWhile_cons_of_pos held, ih others, List.filter_cons_of_neg (by simp [held])]
      | false =>
          have all (later : α) (member : later ∈ item :: rest) : (!holds later) = true := by
            rcases List.mem_cons.mp member with rfl | deeper
            · rw [held]
              rfl
            · cases held' : holds later with
              | true => exact nomatch held.symm.trans (before later deeper held')
              | false => rfl
          rw [List.dropWhile_cons_of_neg (by simp [held]), List.filter_eq_self.mpr all]

end Lists

namespace Arena

variable {small middle big : Arena} {id : ContainerId}

/-- The containers that live in the one have the same contents in the other. -/
def Trims (small big : Arena) : Prop :=
  ∀ id, small.isLive id = true → small.get? id = big.get? id

theorem Trims.live (trims : small.Trims big) (live : small.isLive id = true) :
    big.isLive id = true := by
  rw [isLive, ← trims id live]
  exact live

theorem Trims.refl : big.Trims big :=
  fun _ _ => rfl

theorem Trims.trans (first : small.Trims middle) (second : middle.Trims big) :
    small.Trims big := by
  intro id live
  rw [first id live]
  exact second id (first.live live)

theorem releaseAll_trims {ids : List ContainerId} : (big.releaseAll ids).Trims big := by
  intro id live
  rw [isLive, get?_releaseAll] at live
  rw [get?_releaseAll]
  split at live
  · cases live
  · next kept => rw [if_neg kept]

theorem release_trims : (big.release id).Trims big :=
  (releaseAll_trims : (big.releaseAll [id]).Trims big)

theorem vacateAll_trims {globals : ContainerId} {frames : List Frame} :
    (big.vacateAll globals frames).Trims big := by
  induction frames generalizing big with
  | nil => exact .refl
  | cons frame rest ih => exact ih.trans releaseAll_trims

theorem Trims.modify {change : Container → Container} (trims : small.Trims big) :
    (small.modify id change).Trims (big.modify id change) := by
  intro other live
  rw [get?_modify, get?_modify]
  have live' : small.isLive other = true := by
    rw [isLive, get?_modify] at live
    split at live
    · rwa [Option.isSome_map] at live
    · exact live
  rw [trims other live']

/-- A rollback restores the same in both. -/
theorem Trims.restore {log : RollbackLog} (trims : small.Trims big) :
    (log.restore small).Trims (log.restore big) := by
  have vars (entries : List (BindingKey × Option Value)) {small big : Arena}
      (trims : small.Trims big) : (small.putVars entries).Trims (big.putVars entries) := by
    induction entries generalizing small big with
    | nil => exact trims
    | cons entry rest ih => exact ih trims.modify
  have candidates (entries : List (BindingKey × Option CandidateSet)) {small big : Arena}
      (trims : small.Trims big) :
      (small.putAllCandidates entries).Trims (big.putAllCandidates entries) := by
    induction entries generalizing small big with
    | nil => exact trims
    | cons entry rest ih => exact ih trims.modify
  exact candidates _ (vars _ trims)

theorem Trims.undo {regions : List Region} (trims : small.Trims big) :
    (small.undo regions).Trims (big.undo regions) := by
  induction regions generalizing small big with
  | nil => exact trims
  | cons region rest ih => exact ih trims.restore

theorem undo_append {first second : List Region} :
    big.undo (first ++ second) = (big.undo first).undo second :=
  List.foldl_append

end Arena

/-! The order of regions tells what a condition leaves -/

namespace Nested

variable {upper lower : List FrameId} {marks : List Mark}

/-- The marks of the first frames come first. -/
theorem first (nested : Nested (upper ++ lower) marks) (distinct : (upper ++ lower).Nodup) :
    marks.Pairwise fun earlier later => later.owner ∈ upper → earlier.owner ∈ upper := by
  obtain ⟨own, others, rfl, owned, left⟩ := nested.split
  have apart {mark : Mark} (member : mark ∈ others) : mark.owner ∉ upper := fun again =>
    (List.nodup_append.mp distinct).2.2 _ again _ (left.owner_mem member) rfl
  refine List.pairwise_append.mpr ⟨?_, ?_, fun earlier member _ _ _ => owned earlier member⟩
  · exact List.pairwise_iff_forall_sublist.mpr fun pair _ => owned _ (pair.subset (by simp))
  · exact List.pairwise_iff_forall_sublist.mpr fun pair held =>
      absurd held (apart (pair.subset (by simp)))

end Nested

theorem Layered.frameIds_nodup {find : CoroutineId → Option Coroutine} {current : CoroutineId}
    {marks : List Mark} {serial frame : Nat} {path : List CoroutineId}
    (layered : Layered find current marks serial frame) (distinct : path.Nodup) :
    (path.flatMap (frameIds find)).Nodup := by
  refine List.nodup_flatMap.mpr ⟨fun id _ => ?_, distinct.imp fun {id id'} differ => ?_⟩
  · unfold frameIds
    split
    · next coroutine found =>
        refine List.pairwise_map.mpr (Stack.pairwise_items fun low high lower upper less here here' =>
          fun same => ?_)
        have level := (layered.distinct found found here' here same).2
        omega
    · exact .nil
  · intro owner member member'
    unfold frameIds at member member'
    split at member
    · next coroutine found =>
        split at member'
        · next coroutine' found' =>
            obtain ⟨frame, stacked, same⟩ := List.mem_map.mp member
            obtain ⟨frame', stacked', same'⟩ := List.mem_map.mp member'
            obtain ⟨depth, located⟩ := Stack.mem_items_iff.mp stacked
            obtain ⟨depth', located'⟩ := Stack.mem_items_iff.mp stacked'
            exact differ (layered.distinct found found' located located' (same.trans same'.symm)).1
        · cases member'
    · cases member

theorem Stack.below_succ {α : Type} {stack : Stack α} {position : Nat} {item : α}
    (located : stack.at? position = some item) :
    stack.below (position + 1) = (stack.below position).push item := by
  refine Stack.ext ?_
  have within := Stack.lt_of_at? located
  rw [at?, if_pos within] at located
  have counted : stack.size - (position + 1) + 1 = stack.size - position := by omega
  simp only [below, items_push]
  rw [← List.getElem_cons_drop (h := by rw [← stack.size_eq]; omega), counted]
  exact congrArg (· :: _) (List.getElem?_eq_some_iff.mp located).2

namespace Machine

variable {machine : Machine} {coroutine : Coroutine}

/-- The regions of the upper frames of the current coroutine are on top. -/
theorem regions_first {upper lower : List FrameId} (layered : machine.Layered)
    (found : machine.coroutine? machine.current = some coroutine)
    (parts : coroutine.frames.items.map Frame.id = upper ++ lower) :
    machine.regions.items.Pairwise fun earlier later =>
      later.owner ∈ upper → earlier.owner ∈ upper := by
  obtain ⟨rest, trail, -, nested⟩ := Layered.onward layered found
  have distinct := Layered.frameIds_nodup layered trail.nodup
  rw [List.flatMap_cons, frameIds, found] at distinct
  simp only [parts, List.append_assoc] at nested distinct
  exact List.pairwise_map.mp (nested.first distinct)

/-! What a condition does -/

/-- Whether a coroutine has no handler. -/
def bare (machine : Machine) (id : CoroutineId) : Bool :=
  (machine.coroutine? id).all fun coroutine => coroutine.handlers.isEmpty

/-- The coroutines that a condition leaves. -/
def dropped (machine : Machine) : List CoroutineId :=
  machine.awake.takeWhile machine.bare

/-- The coroutine that catches a condition. -/
def catcher? (machine : Machine) : Option CoroutineId :=
  machine.awake.find? (!machine.bare ·)

/-- A condition reaches the topmost handler of a coroutine. -/
structure Catches (machine : Machine) (id : CoroutineId) (coroutine : Coroutine)
    (handler : Handler) (outer : List Handler) (owner : Frame) : Prop where
  first : machine.catcher? = some id
  found : machine.coroutine? id = some coroutine
  installed : coroutine.handlers = handler :: outer
  owned : coroutine.frames.at? handler.depth = some owner

/-- The regions of the coroutines that a condition leaves, and those that the coroutine that catches
it opened after the handler was pushed. -/
def undone (machine : Machine) (id : CoroutineId) (handler : Handler) (region : Region) : Bool :=
  region.owner ∈ machine.dropped.flatMap (frameIds machine.coroutine?) ||
    (region.owner ∈ frameIds machine.coroutine? id && handler.regionSerial ≤ region.serial)

end Machine

/-- The frame that a handler belongs to goes on with the value of a condition. -/
def Handler.resume (handler : Handler) (owner : Frame) (value : Value) : Frame :=
  match handler.dst with
  | some reg => { owner with scope := handler.scope, pc := handler.target }.put reg (some value)
  | none => { owner with scope := handler.scope, pc := handler.target }

namespace Machine

structure Caught (before : Machine) (value : Value) (id : CoroutineId) (coroutine : Coroutine)
    (handler : Handler) (outer : List Handler) (owner : Frame) (after : Machine) : Prop where
  current : after.current = id
  catcher : after.coroutine? id = some { coroutine with
    handlers := outer
    frames := (coroutine.frames.below handler.depth).push (handler.resume owner value) }
  received {reg : Reg} (wanted : handler.dst = some reg) :
    (handler.resume owner value).read reg = .ok value
  gone {other : CoroutineId} (left : other ∈ before.dropped) : after.coroutine? other = some .dead
  kept {other : CoroutineId} (stays : other ∉ before.dropped) (differ : other ≠ id) :
    after.coroutine? other = before.coroutine? other
  regions : after.regions.items = before.regions.items.filter (!before.undone id handler ·)
  bindings : after.arena.Trims
    (before.arena.undo (before.regions.items.filter (before.undone id handler)))
  ground : ∃ coroutines current arena regions counters,
    after = { before with coroutines, current, arena, regions, counters }

structure Escaped (before after : Machine) : Prop where
  current : after.current = .root
  root : after.coroutine? .root = before.coroutine? .root
  gone {other : CoroutineId} (left : other ∈ before.awake) (inner : other ≠ .root) :
    after.coroutine? other = some .dead
  kept {other : CoroutineId} (stays : other ∉ before.awake) :
    after.coroutine? other = before.coroutine? other
  regions : after.regions.items = []
  bindings : after.arena.Trims (before.arena.undo before.regions.items)
  ground : ∃ coroutines current arena regions counters,
    after = { before with coroutines, current, arena, regions, counters }

/-- How a condition ends that does not fault. -/
inductive Unwound (before : Machine) (condition : Condition) : Outcome → Machine → Prop
  | caught {id : CoroutineId} {coroutine : Coroutine} {handler : Handler} {outer : List Handler}
      {owner : Frame} {after : Machine} (catches : before.Catches id coroutine handler outer owner)
      (inScope : handler.scope ∈ before.arena.ancestry owner.scope)
      (caught : before.Caught condition.value id coroutine handler outer owner after) :
      Unwound before condition .proceed after
  | escaped {after : Machine} (uncaught : before.catcher? = none) (escaped : before.Escaped after) :
      Unwound before condition (.uncaught condition) after

/-- A condition faults at the handler that it reaches. -/
inductive Stuck (before : Machine) : Fault → Prop
  | outside {id : CoroutineId} {coroutine : Coroutine} {handler : Handler} {outer : List Handler}
      {owner : Frame} (catches : before.Catches id coroutine handler outer owner)
      (gone : handler.scope ∉ before.arena.ancestry owner.scope) : Stuck before .deadContainer
  | unreceived {id : CoroutineId} {coroutine : Coroutine} {handler : Handler}
      {outer : List Handler} {owner : Frame} {reg : Reg}
      (catches : before.Catches id coroutine handler outer owner) (wanted : handler.dst = some reg)
      (missing : owner.hasRegister reg = false) : Stuck before (.invalidRegister reg)

/-! Counters do not matter. -/

section Counted

variable {machine : Machine} {counters : Counters} {id : CoroutineId} {coroutine : Coroutine}
  {handler : Handler} {outer : List Handler} {owner : Frame}

theorem Catches.counted
    (catches : { machine with counters }.Catches id coroutine handler outer owner) :
    machine.Catches id coroutine handler outer owner :=
  ⟨catches.first, catches.found, catches.installed, catches.owned⟩

theorem Unwound.counted {condition : Condition} {outcome : Outcome} {after : Machine}
    (unwound : { machine with counters }.Unwound condition outcome after) :
    machine.Unwound condition outcome after := by
  cases unwound with
  | caught catches inScope caught => exact .caught catches.counted inScope { caught with }
  | escaped uncaught escaped => exact .escaped uncaught { escaped with }

theorem Stuck.counted {fault : Fault} (stuck : { machine with counters }.Stuck fault) :
    machine.Stuck fault := by
  cases stuck with
  | outside catches gone => exact .outside catches.counted gone
  | unreceived catches wanted missing => exact .unreceived catches.counted wanted missing

end Counted

/-! A coroutine is left -/

/-- A condition leaves the current coroutine and closes its regions. -/
structure Abandons (before after : Machine) (closed : List Region) : Prop where
  awake : before.awake = before.current :: after.awake
  away : before.current ∉ after.awake
  bare : before.bare before.current = true
  inner : before.current ≠ .root
  coroutines : after.coroutine? = replace before.coroutine? before.current .dead
  parts : before.regions.items = closed ++ after.regions.items
  own {region : Region} (undone : region ∈ closed) :
    region.owner ∈ frameIds before.coroutine? before.current
  apart {region : Region} (opened : region ∈ after.regions.items) :
    region.owner ∉ frameIds before.coroutine? before.current
  bindings : after.arena.Trims (before.arena.undo closed)
  ancestry {id : CoroutineId} {depth : Nat} {frame : Frame} (differ : id ≠ before.current)
    (stands : Stands before.coroutine? id depth frame) :
    after.arena.ancestry frame.scope = before.arena.ancestry frame.scope
  ground : ∃ coroutines current arena regions counters,
    after = { before with coroutines, current, arena, regions, counters }

namespace Abandons

variable {before middle after : Machine} {id other : CoroutineId} {handler : Handler}
  {outer : List Handler} {owner : Frame} {condition : Condition} {closed : List Region}

theorem same (abandons : before.Abandons middle closed) (passed : id ∈ middle.awake) :
    middle.coroutine? id = before.coroutine? id := by
  rw [abandons.coroutines]
  exact replace_other fun same => abandons.away (same ▸ passed)

theorem bare_eq (abandons : before.Abandons middle closed) (passed : id ∈ middle.awake) :
    middle.bare id = before.bare id := by
  rw [Machine.bare, Machine.bare, abandons.same passed]

theorem dropped (abandons : before.Abandons middle closed) :
    before.dropped = before.current :: middle.dropped := by
  rw [Machine.dropped, abandons.awake, List.takeWhile_cons_of_pos abandons.bare, Machine.dropped]
  congr 1
  have agree {path : List CoroutineId} (passed : path ⊆ middle.awake) :
      path.takeWhile before.bare = path.takeWhile middle.bare := by
    induction path with
    | nil => rfl
    | cons first rest ih =>
        rw [List.takeWhile_cons, List.takeWhile_cons, abandons.bare_eq (passed (by simp)),
          ih fun _ member => passed (by simp [member])]
  exact agree fun _ => id

theorem catcher? (abandons : before.Abandons middle closed) : before.catcher? = middle.catcher? := by
  rw [Machine.catcher?, abandons.awake, List.find?_cons_of_neg (by simp [abandons.bare]),
    Machine.catcher?]
  have agree {path : List CoroutineId} (passed : path ⊆ middle.awake) :
      path.find? (!before.bare ·) = path.find? (!middle.bare ·) := by
    induction path with
    | nil => rfl
    | cons first rest ih =>
        rw [List.find?_cons, List.find?_cons, abandons.bare_eq (passed (by simp)),
          ih fun _ member => passed (by simp [member])]
  exact agree fun _ => id

theorem catches (abandons : before.Abandons middle closed)
    (catches : middle.Catches id coroutine handler outer owner) :
    before.Catches id coroutine handler outer owner where
  first := abandons.catcher?.trans catches.first
  found := (abandons.same (List.mem_of_find?_eq_some catches.first)).symm.trans catches.found
  installed := catches.installed
  owned := catches.owned

theorem inScope (abandons : before.Abandons middle closed)
    (catches : middle.Catches id coroutine handler outer owner) :
    middle.arena.ancestry owner.scope = before.arena.ancestry owner.scope := by
  have passed := List.mem_of_find?_eq_some catches.first
  refine abandons.ancestry (fun same => abandons.away (same ▸ passed))
    ⟨coroutine, (abandons.catches catches).found, catches.owned⟩

theorem undone_other (abandons : before.Abandons middle closed) (passed : id ∈ middle.awake)
    {region : Region} (opened : region ∈ middle.regions.items) :
    before.undone id handler region = middle.undone id handler region := by
  have here := abandons.apart opened
  have frames (other : CoroutineId) (passed : other ∈ middle.awake) :
      frameIds before.coroutine? other = frameIds middle.coroutine? other := by
    rw [frameIds, frameIds, abandons.same passed]
  have others : middle.dropped.flatMap (frameIds before.coroutine?) =
      middle.dropped.flatMap (frameIds middle.coroutine?) :=
    List.flatMap_congr fun other member => frames other ((List.takeWhile_sublist _).subset member)
  rw [undone, undone, abandons.dropped, List.flatMap_cons, others, frames id passed]
  simp [here]

theorem filter_undone (abandons : before.Abandons middle closed) (passed : id ∈ middle.awake) :
    before.regions.items.filter (before.undone id handler) =
      closed ++ middle.regions.items.filter (middle.undone id handler) ∧
    before.regions.items.filter (!before.undone id handler ·) =
      middle.regions.items.filter (!middle.undone id handler ·) := by
  have undone {region : Region} (member : region ∈ closed) :
      before.undone id handler region = true := by
    rw [Machine.undone, abandons.dropped, List.flatMap_cons]
    simp [abandons.own member]
  rw [abandons.parts, List.filter_append, List.filter_append]
  constructor
  · rw [List.filter_eq_self.mpr fun _ => undone]
    exact congrArg _ (List.filter_congr fun region opened => abandons.undone_other passed opened)
  · rw [List.filter_eq_nil_iff.mpr fun region member => by simp [undone member], List.nil_append]
    exact List.filter_congr fun region opened => by rw [abandons.undone_other passed opened]

theorem grounded (abandons : before.Abandons middle closed)
    (ground : ∃ coroutines current arena regions counters,
      after = { middle with coroutines, current, arena, regions, counters }) :
    ∃ coroutines current arena regions counters,
      after = { before with coroutines, current, arena, regions, counters } := by
  obtain ⟨_, _, _, _, _, rfl⟩ := abandons.ground
  exact ground

/-- What a condition does on its further way, it does in all. -/
theorem caught {value : Value} (abandons : before.Abandons middle closed)
    (catches : middle.Catches id coroutine handler outer owner)
    (caught : middle.Caught value id coroutine handler outer owner after) :
    before.Caught value id coroutine handler outer owner after where
  current := caught.current
  catcher := caught.catcher
  received := caught.received
  gone {other} left := by
    rw [abandons.dropped] at left
    rcases List.mem_cons.mp left with rfl | later
    · rw [caught.kept (fun again => abandons.away ((List.takeWhile_sublist _).subset again))
        fun same => abandons.away (same ▸ List.mem_of_find?_eq_some catches.first),
        abandons.coroutines, replace_same]
    · exact caught.gone later
  kept {other} stays differ := by
    rw [abandons.dropped, List.mem_cons, not_or] at stays
    rw [caught.kept stays.2 differ, abandons.coroutines, replace_other stays.1]
  regions := by
    rw [(abandons.filter_undone (List.mem_of_find?_eq_some catches.first)).2]
    exact caught.regions
  bindings := by
    rw [(abandons.filter_undone (List.mem_of_find?_eq_some catches.first)).1, Arena.undo_append]
    exact caught.bindings.trans abandons.bindings.undo
  ground := abandons.grounded caught.ground

theorem escaped (abandons : before.Abandons middle closed) (escaped : middle.Escaped after)
    (rooted : .root ∈ middle.awake) : before.Escaped after where
  current := escaped.current
  root := escaped.root.trans (abandons.same rooted)
  gone {other} left inner := by
    rw [abandons.awake] at left
    rcases List.mem_cons.mp left with rfl | later
    · rw [escaped.kept abandons.away, abandons.coroutines, replace_same]
    · exact escaped.gone later inner
  kept {other} stays := by
    rw [abandons.awake, List.mem_cons, not_or] at stays
    rw [escaped.kept stays.2, abandons.coroutines, replace_other stays.1]
  regions := escaped.regions
  bindings := by
    rw [abandons.parts, Arena.undo_append]
    exact escaped.bindings.trans abandons.bindings.undo
  ground := abandons.grounded escaped.ground

theorem unwound {outcome : Outcome} (abandons : before.Abandons middle closed)
    (rooted : .root ∈ middle.awake) (unwound : middle.Unwound condition outcome after) :
    before.Unwound condition outcome after := by
  cases unwound with
  | caught catches inScope caught =>
      exact .caught (abandons.catches catches) (abandons.inScope catches ▸ inScope)
        (abandons.caught catches caught)
  | escaped uncaught escaped =>
      exact .escaped (abandons.catcher?.trans uncaught) (abandons.escaped escaped rooted)

theorem stuck {fault : Fault} (abandons : before.Abandons middle closed)
    (stuck : middle.Stuck fault) : before.Stuck fault := by
  cases stuck with
  | outside catches gone =>
      exact .outside (abandons.catches catches) (abandons.inScope catches ▸ gone)
  | unreceived catches wanted missing =>
      exact .unreceived (abandons.catches catches) wanted missing

end Abandons

/-! Machines in which a condition can be raised -/

/-- What holds of a machine whatever its program does. -/
structure Sound (machine : Machine) : Prop where
  enabled : machine.AllEnabled
  linked : Linked machine.coroutine? machine.current
  layered : machine.Layered
  housed : machine.Housed

variable {machine before after : Machine} {coroutine : Coroutine} {code : Instruction}

theorem Sound.effect (sound : before.Sound) (effect : Effect code before after) : after.Sound where
  enabled := effect_enabled sound.enabled effect
  linked := linked_effect sound.linked effect
  layered := layered_effect sound.linked sound.layered effect
  housed := housed_effect sound.linked sound.housed effect

/-- An effect that any instruction can have. -/
theorem Sound.next (sound : before.Sound) (effect : Effect default before after) : after.Sound :=
  sound.effect effect

theorem Sound.evolves (sound : before.Sound) (evolves : before.Evolves code after) :
    after.Sound := by
  induction evolves with
  | refl => exact sound
  | tail _ effect ih => exact ih.effect effect

theorem Sound.fetched (sound : machine.Sound) : (machine.fetched code).Sound := by
  have evolves : machine.Evolves default (machine.fetched code) := fetched_evolves
  exact sound.evolves evolves

theorem Reachable.sound {program : Program} {args : List Value} {settings : Settings}
    (reachable : Reachable program args settings machine) (running : machine.isRunning = true) :
    machine.Sound where
  enabled := (reachable.induction (fun _ => True) running (fun _ _ => trivial)
    (fun _ _ _ _ => trivial) fun _ _ _ _ _ => trivial).1
  linked := reachable.linked running
  layered := reachable.layered running
  housed := reachable.housed running

namespace Sound

theorem active (sound : machine.Sound) :
    ∃ coroutine frame, machine.coroutine? machine.current = some coroutine ∧
      coroutine.active? = some frame ∧ machine.active? = some frame := by
  obtain ⟨coroutine, found, runs⟩ := sound.linked.current_running
  have deep := (Coroutine.state_eq_running_iff.mp runs).2.1
  have top : coroutine.active?.isSome = true := by
    rw [Coroutine.active?, Stack.top?_eq_at?]
    exact Stack.at?_isSome.mpr (Nat.sub_lt deep Nat.one_pos)
  obtain ⟨frame, active⟩ := Option.isSome_iff_exists.mp top
  refine ⟨coroutine, frame, found, active, ?_⟩
  rw [active?, found]
  exact active

theorem awake_rooted (sound : machine.Sound) : .root ∈ machine.awake :=
  List.mem_of_getLast? (awake_trail sound.linked).2.1

theorem awake_running {id : CoroutineId} (sound : machine.Sound) (passed : id ∈ machine.awake) :
    ∃ coroutine, machine.coroutine? id = some coroutine ∧ coroutine.state = .running :=
  ((awake_trail sound.linked).2.2 id).mp passed

/-- Every coroutine on the path but the root has one that waits for it. -/
theorem waiting (sound : machine.Sound)
    (found : machine.coroutine? machine.current = some coroutine)
    (inner : machine.current ≠ .root) : ∃ link, coroutine.caller = some link := by
  obtain ⟨trail, last, -⟩ := awake_trail sound.linked
  cases waited : coroutine.caller with
  | some link => exact ⟨link, rfl⟩
  | none =>
      have ends : machine.waiter? machine.current = none := by
        simp [waiter?, caller?, found, waited]
      rw [trail.unique (.last ends)] at last
      exact absurd (Option.some.inj last) inner

/-- Without the current coroutine, the path is that of the machine that goes on without it. -/
theorem awake_left {link : CallerLink} (sound : machine.Sound) (sound' : after.Sound)
    (found : machine.coroutine? machine.current = some coroutine)
    (waited : coroutine.caller = some link) (current : after.current = link.coroutine)
    (coroutines : after.coroutine? = replace machine.coroutine? machine.current .dead) :
    machine.awake = machine.current :: after.awake := by
  have trail := (awake_trail sound.linked).1
  have onward := (awake_trail sound'.linked).1
  have away : machine.current ∉ after.awake := by
    intro passed
    obtain ⟨gone, found', runs⟩ := sound'.awake_running passed
    rw [coroutines, replace_same] at found'
    cases found'
    cases runs
  rw [waiter?_eq, coroutines] at onward
  have leads : waiterOf machine.coroutine? machine.current = some after.current :=
    current ▸ waiterOf_eq_some found waited
  rw [waiter?_eq] at trail
  refine trail.unique (.more leads (onward.congr fun id member => ?_))
  have differ : id ≠ machine.current := by
    rintro rfl
    exact away member
  exact (waiterOf_replace_other differ).symm

variable {handler : Handler} {outer : List Handler} {owner : Frame}

theorem catches (sound : machine.Sound)
    (found : machine.coroutine? machine.current = some coroutine)
    (installed : coroutine.handlers = handler :: outer)
    (owned : coroutine.frames.at? handler.depth = some owner) :
    machine.Catches machine.current coroutine handler outer owner ∧ machine.dropped = [] := by
  obtain ⟨rest, path⟩ := List.head?_eq_some_iff.mp (awake_trail sound.linked).1.head?
  have covered : machine.bare machine.current = false := by
    rw [bare, found, Option.all_some, installed]
    rfl
  refine ⟨⟨?_, found, installed, owned⟩, ?_⟩
  · rw [catcher?, path, List.find?_cons_of_pos (by simp [covered])]
  · rw [dropped, path, List.takeWhile_cons_of_neg (by simp [covered])]

/-- The root waits for nothing when it is current. -/
theorem alone (sound : machine.Sound) (outermost : machine.current = .root) :
    machine.awake = [.root] := by
  obtain ⟨trail, last, -⟩ := awake_trail sound.linked
  obtain ⟨rest, path⟩ := List.head?_eq_some_iff.mp trail.head?
  rw [outermost] at path
  have distinct := trail.nodup
  rw [path] at last distinct
  cases rest with
  | nil => exact path
  | cons next further =>
      rw [List.getLast?_cons_cons] at last
      exact absurd (List.mem_of_getLast? last) (List.nodup_cons.mp distinct).1

/-- A condition that reaches the root leaves the machine if the root has no handler. -/
theorem outermost (sound : machine.Sound) (outermost : machine.current = .root)
    (uncovered : machine.bare machine.current = true) :
    machine.awake = [.root] ∧ machine.catcher? = none := by
  have path := sound.alone outermost
  rw [outermost] at uncovered
  refine ⟨path, ?_⟩
  rw [catcher?, path, List.find?_cons_of_neg (by simp [uncovered]), List.find?_nil]

/-- The regions that a catch closes are on top, and they are the ones it is meant to undo. -/
theorem undone_eq (sound : machine.Sound)
    (catches : machine.Catches machine.current coroutine handler outer owner)
    (first : machine.dropped = []) :
    machine.regions.items.takeWhile (handler.undoes
        ((coroutine.frames.above (handler.depth + 1) ++ [owner]).map Frame.id)) =
      machine.regions.items.filter (machine.undone machine.current handler) ∧
    machine.regions.items.dropWhile (handler.undoes
        ((coroutine.frames.above (handler.depth + 1) ++ [owner]).map Frame.id)) =
      machine.regions.items.filter (!machine.undone machine.current handler ·) := by
  have stacked : coroutine.frames.items = (coroutine.frames.above (handler.depth + 1) ++ [owner]) ++
      (coroutine.frames.below handler.depth).items := by
    rw [← coroutine.frames.above_append_below (handler.depth + 1), Stack.below_succ catches.owned,
      Stack.items_push, List.append_assoc]
    rfl
  have parts := congrArg (List.map Frame.id) stacked
  rw [List.map_append] at parts
  generalize uppers : (coroutine.frames.above (handler.depth + 1) ++ [owner]).map Frame.id = upper
    at parts ⊢
  have ordered : machine.regions.items.Pairwise fun earlier later => later.serial < earlier.serial :=
    List.pairwise_map.mp (Layered.ordered sound.layered)
  have together : machine.regions.items.Pairwise fun earlier later =>
      handler.undoes upper later = true → handler.undoes upper earlier = true := by
    refine (ordered.and (regions_first sound.layered catches.found parts)).imp ?_
    intro earlier later relates held
    rw [Handler.undoes_iff] at held ⊢
    exact ⟨Nat.le_of_lt (Nat.lt_of_le_of_lt held.1 relates.1), relates.2 held.2⟩
  have same {region : Region} (opened : region ∈ machine.regions.items) :
      handler.undoes upper region = machine.undone machine.current handler region := by
    rw [Bool.eq_iff_iff, Handler.undoes_iff, undone, first, frameIds, catches.found]
    simp only [List.flatMap_nil, List.not_mem_nil, decide_false, Bool.false_or, Bool.and_eq_true,
      decide_eq_true_eq, parts, List.mem_append]
    constructor
    · exact fun held => ⟨.inl held.2, held.1⟩
    · rintro ⟨above | below, later⟩
      · exact ⟨later, above⟩
      · obtain ⟨frame, low, own⟩ := List.mem_map.mp below
        obtain ⟨depth, located⟩ := Stack.mem_items_iff.mp low
        rw [Stack.at?_below] at located
        split at located
        · next lower =>
            have before : region.mark.serial < handler.regionSerial :=
              Layered.below sound.layered catches.found
                (catches.installed ▸ List.mem_cons_self) located (List.mem_map_of_mem opened)
                own.symm lower
            exact absurd later (Nat.not_le_of_lt before)
        · cases located
  constructor
  · rw [takeWhile_eq_filter together]
    exact List.filter_congr fun region opened => same opened
  · rw [dropWhile_eq_filter together]
    exact List.filter_congr fun region opened => by rw [same opened]

end Sound

end Machine

namespace Action

open Machine

variable {machine : Machine} {coroutine : Coroutine} {condition : Condition}

theorem abandon_leads {good : Unit → Machine → Prop} {bad : Fault → Machine → Prop}
    (sound : machine.Sound) (found : machine.coroutine? machine.current = some coroutine)
    (bare : coroutine.handlers = []) (inner : machine.current ≠ .root)
    (left : ∀ middle closed, machine.Abandons middle closed → middle.Sound → good () middle) :
    (abandon coroutine).Leads machine good bad := by
  obtain ⟨link, waited⟩ := sound.waiting found inner
  obtain ⟨waiter, found', deep⟩ := sound.linked.waits found waited
  have differ := sound.linked.not_waited found waited
  have own : frameIds machine.coroutine? machine.current = coroutine.frames.items.map Frame.id := by
    rw [frameIds, found]
  have dies : (machine.updateCoroutine machine.current fun _ => .dead).coroutine? =
      replace machine.coroutine? machine.current .dead := coroutine?_replace found
  simp only [abandon, leads_bind, leads_get, leads_updateCoroutine]
  refine leads_rollbackWhile sound.enabled fun counters => ?_
  simp only [leads_releaseFrames, waited, leads_bind, leads_coroutine, leads_ensure, leads_modify]
  have still : (machine.updateCoroutine machine.current fun _ => .dead).coroutine?
      link.coroutine = some waiter := by
    rw [dies, replace_other differ, found']
  refine ⟨fun waiter' here => ⟨fun _ => ?_, fun stale => ?_⟩, fun missing => ?_⟩
  · have evolves : machine.Evolves .noSolution _ :=
      (Evolves.refl.then (.abandon found bare inner waited rfl)).then (.count counters)
    have sound' := sound.evolves evolves
    refine left _ (machine.regions.items.takeWhile fun region =>
      region.owner ∈ coroutine.frames.items.map Frame.id) ?_ sound'
    have awake := sound.awake_left sound' found waited rfl dies
    have first := regions_first sound.layered found (List.append_nil _).symm
    exact {
      awake := awake
      away := fun passed => by
        have distinct := (awake_trail sound.linked).1.nodup
        rw [awake] at distinct
        exact (List.nodup_cons.mp distinct).1 passed
      bare := by
        rw [Machine.bare, found, Option.all_some, bare]
        rfl
      inner := inner
      coroutines := dies
      parts := List.takeWhile_append_dropWhile.symm
      own := fun undone => by
        have held := List.mem_takeWhile_imp undone
        rw [own]
        exact of_decide_eq_true held
      apart := fun {region} opened again => by
        rw [own] at again
        have kept : region ∈ machine.regions.items.dropWhile fun region =>
          region.owner ∈ coroutine.frames.items.map Frame.id := opened
        rw [dropWhile_eq_filter (by simpa using first)] at kept
        have out := (List.mem_filter.mp kept).2
        rw [decide_eq_true again] at out
        cases out
      bindings := Arena.vacateAll_trims
      ancestry := ancestry_abandoned sound.housed found
      ground := ⟨_, _, _, _, _, rfl⟩ }
  · cases Option.some.inj (still.symm.trans here)
    exact absurd deep stale
  · exact absurd (still.symm.trans missing) (by simp)

/-- The frame of a handler becomes the active one and changes. -/
theorem coroutine?_resumed {handler : Handler} {outer : List Handler} {owner : Frame}
    (found : machine.coroutine? machine.current = some coroutine)
    (owned : coroutine.frames.at? handler.depth = some owner) (change : Frame → Frame) :
    (((machine.updateCoroutine machine.current ({ · with handlers := outer })).updateCoroutine
      machine.current fun coroutine => { coroutine with
        frames := coroutine.frames.below (handler.depth + 1) }).updateFrame machine.current
          change).coroutine? =
      replace machine.coroutine? machine.current { coroutine with
        handlers := outer
        frames := (coroutine.frames.below handler.depth).push (change owner) } := by
  have topmost : (coroutine.frames.below (handler.depth + 1)).modifyTop change =
      (coroutine.frames.below handler.depth).push (change owner) := by
    rw [Stack.below_succ owned]
    exact Stack.ext rfl
  rw [Machine.updateFrame, updateCoroutine_twice, updateCoroutine_twice, coroutine?_replace found,
    Coroutine.updateActive, topmost]

theorem receive_leads {handler : Handler} {outer : List Handler} {owner : Frame}
    {resumed : Machine} {change : Counters → Counters}
    (catches : machine.Catches machine.current coroutine handler outer owner)
    (first : machine.dropped = []) (inScope : handler.scope ∈ machine.arena.ancestry owner.scope)
    (coroutines : resumed.coroutine? = replace machine.coroutine? machine.current { coroutine with
      handlers := outer
      frames := (coroutine.frames.below handler.depth).push
        { owner with scope := handler.scope, pc := handler.target } })
    (bindings : resumed.arena.Trims (machine.arena.undo
      (machine.regions.items.filter (machine.undone machine.current handler))))
    (ground : ∃ coroutines arena counters, resumed = { machine with
      coroutines
      arena
      regions := .ofItems
        (machine.regions.items.filter (!machine.undone machine.current handler ·))
      counters }) :
    (writeOption handler.dst condition.value).Leads resumed
      (fun _ after => machine.Unwound condition .proceed (after.count change))
      fun fault _ => machine.Stuck fault := by
  have caught {after : Machine} (coroutines : after.coroutine? =
      replace machine.coroutine? machine.current { coroutine with
        handlers := outer
        frames := (coroutine.frames.below handler.depth).push
          (handler.resume owner condition.value) })
      (received : ∀ reg, handler.dst = some reg → owner.hasRegister reg = true)
      (same : ∃ coroutines, after = { resumed with coroutines }) :
      machine.Unwound condition .proceed (after.count change) := by
    obtain ⟨_, rfl⟩ := same
    obtain ⟨counters, counted⟩ := Machine.count_eq _ change
    rw [counted]
    obtain ⟨_, _, _, rfl⟩ := ground
    exact .caught catches inScope {
      current := rfl
      catcher := (congrFun coroutines _).trans replace_same
      received := fun {reg} wanted => by
        have room := received reg wanted
        simp only [Frame.hasRegister, decide_eq_true_eq] at room
        simp [Handler.resume, wanted, Frame.read, Frame.put, room]
      gone := fun left => by
        rw [first] at left
        cases left
      kept := fun _ differ => (congrFun coroutines _).trans (replace_other differ)
      regions := rfl
      bindings := bindings
      ground := ⟨_, _, _, _, _, rfl⟩ }
  have current : resumed.current = machine.current := by
    obtain ⟨_, _, _, rfl⟩ := ground
    rfl
  have here := (congrFun coroutines machine.current).trans replace_same
  have active : resumed.active? =
      some { owner with scope := handler.scope, pc := handler.target } := by
    rw [active?, current, here]
    rfl
  rw [leads_writeOption_active active]
  cases wanted : handler.dst with
  | none =>
      refine caught ?_ (fun reg same => absurd (wanted.symm.trans same) (by simp)) ⟨_, rfl⟩
      rw [coroutines, Handler.resume, wanted]
  | some reg =>
      refine ⟨fun room => caught ?_ (fun other same => ?_) ⟨_, rfl⟩, fun full => ?_⟩
      · rw [current, Machine.updateFrame, coroutine?_replace here, coroutines, Handler.resume, wanted]
        funext other
        simp only [replace]
        split <;> rfl
      · cases Option.some.inj (wanted.symm.trans same)
        exact room
      · exact .unreceived catches wanted (Bool.eq_false_iff.mpr full)

theorem catchCondition_leads {handler : Handler} {outer : List Handler}
    (sound : machine.Sound) (found : machine.coroutine? machine.current = some coroutine)
    (installed : coroutine.handlers = handler :: outer) :
    (catchCondition handler condition).Leads
      (machine.updateCoroutine machine.current ({ · with handlers := outer }))
      (machine.Unwound condition) fun fault _ => machine.Stuck fault := by
  have within := (sound.linked.sound found).owned (installed ▸ List.mem_cons_self)
  obtain ⟨owner, owned⟩ := Option.isSome_iff_exists.mp (Stack.at?_isSome.mpr within)
  obtain ⟨catches, first⟩ := sound.catches found installed owned
  obtain ⟨closed, kept⟩ := sound.undone_eq catches first
  have found' : (machine.updateCoroutine machine.current
      ({ · with handlers := outer })).coroutine? machine.current =
        some { coroutine with handlers := outer } := by
    rw [coroutine?_replace found, replace_same]
  simp only [catchCondition, leads_bind, leads_get, leads_coroutine]
  refine ⟨fun popped same => ?_, fun missing => absurd (found'.symm.trans missing) (by simp)⟩
  cases Option.some.inj (found'.symm.trans same)
  simp only [owned, leads_bind, leads_get, leads_ensure]
  refine ⟨fun inScope => ?_, fun gone => .outside catches gone⟩
  refine leads_rollbackWhile sound.enabled fun counters => ?_
  simp only [leads_updateCoroutine, leads_releaseFrames, leads_releaseContainers, leads_updateFrame,
    leads_count, leads_pure]
  refine receive_leads catches first inScope (coroutine?_resumed found owned _) ?_ ?_
  · rw [← closed]
    exact Arena.releaseAll_trims.trans Arena.vacateAll_trims
  · rw [← kept]
    exact ⟨_, _, _, rfl⟩

theorem unwind_leads {steps : Nat} (sound : machine.Sound)
    (enough : machine.awake.length ≤ steps) :
    (unwind condition steps).Leads machine (machine.Unwound condition)
      fun fault _ => machine.Stuck fault := by
  induction steps generalizing machine with
  | zero =>
      have passed := sound.awake_rooted
      rw [List.length_eq_zero_iff.mp (Nat.le_zero.mp enough)] at passed
      cases passed
  | succ steps ih =>
      obtain ⟨coroutine, found, -⟩ := sound.linked.current_running
      simp only [unwind, leads_bind, leads_get, leads_coroutine]
      refine ⟨fun same found' => ?_, fun missing => absurd (found.symm.trans missing) (by simp)⟩
      cases Option.some.inj (found.symm.trans found')
      split
      · next handler outer installed =>
          simp only [leads_bind, leads_updateCoroutine]
          exact catchCondition_leads sound found installed
      · next bare =>
          have uncovered : machine.bare machine.current = true := by
            rw [Machine.bare, found, Option.all_some, bare]
            rfl
          split
          · next outermost =>
              simp only [leads_bind, leads_pure]
              refine leads_rollbackWhile sound.enabled fun counters => ?_
              obtain ⟨alone, uncaught⟩ := sound.outermost outermost uncovered
              have everything : machine.regions.items.takeWhile (fun _ => true) =
                machine.regions.items := List.takeWhile_eq_self_iff.mpr fun _ _ => rfl
              rw [everything]
              exact .escaped uncaught {
                current := outermost
                root := rfl
                gone := fun left inner => by
                  rw [alone] at left
                  exact absurd (List.mem_singleton.mp left) inner
                kept := fun _ => rfl
                regions := List.dropWhile_eq_nil_iff.mpr fun _ _ => rfl
                bindings := .refl
                ground := ⟨_, _, _, _, _, rfl⟩ }
          · next inner =>
              simp only [leads_bind]
              refine abandon_leads sound found bare inner fun middle closed abandons sound' => ?_
              have shorter : middle.awake.length ≤ steps := by
                rw [abandons.awake, List.length_cons] at enough
                exact Nat.le_of_succ_le_succ enough
              exact (ih sound' shorter).mono
                (fun _ _ unwound => abandons.unwound sound'.awake_rooted unwound)
                fun _ _ stuck => abandons.stuck stuck

theorem raise_leads {cause : Cause} (sound : machine.Sound) :
    (raise cause).Leads machine (machine.Unwound ⟨cause, machine.trace⟩)
      fun fault _ => machine.Stuck fault := by
  simp only [raise, leads_bind, leads_get, leads_count]
  obtain ⟨counters, counted⟩ := machine.count_eq fun counters =>
    { counters with raised := counters.raised + 1 }
  rw [counted]
  have sound' : { machine with counters }.Sound :=
    ⟨sound.enabled, sound.linked, sound.layered, sound.housed⟩
  exact (unwind_leads sound' chain_length_le).mono (fun _ _ unwound => unwound.counted)
    fun _ _ stuck => stuck.counted

end Action

namespace Machine

/-- The cause of the condition that an instruction raises. -/
def raised? (machine : Machine) : Instruction → Option Cause
  | .noSolution => some .noSolution
  | .throw reg => do
      let frame ← machine.active?
      let value ← (frame.read reg).toOption
      return .thrown value
  | .loadVar _ name => do
      let frame ← machine.active?
      match machine.arena.lookupVar? frame.scope name with
      | some _ => none
      | none => return .undefinedVariable (machine.program.symbolName name)
  | .call _ (.overloaded name) args => do
      let frame ← machine.active?
      let values ← (frame.readAll args).toOption
      let set := (machine.arena.resolve frame.scope name).getD (.empty name)
      match machine.program.select set values with
      | .ok _ => none
      | .error cause => return cause
  | _ => none

end Machine

namespace Action

open Machine

variable {machine : Machine} {code : Instruction} {cause : Cause}

theorem toOption_eq_some {ε α : Type} {result : Except ε α} {value : α}
    (passed : result.toOption = some value) : result = .ok value := by
  cases result with
  | error => cases passed
  | ok other => exact congrArg Except.ok (Option.some.inj passed)

/-- An instruction that raises does nothing but raise, save for counting. -/
theorem execute_raise_eq (raises : machine.raised? code = some cause) :
    ∃ counters, execute code machine = raise cause { machine with counters } := by
  unfold raised? at raises
  split at raises
  · cases raises
    exact ⟨machine.counters, rfl⟩
  · next reg =>
      obtain ⟨frame, active, raises⟩ := Option.bind_eq_some_iff.mp raises
      obtain ⟨value, held, same⟩ := Option.bind_eq_some_iff.mp raises
      cases same
      refine ⟨machine.counters, eq_of_leads fun good bad leads => ?_⟩
      simp only [execute, leads_bind, leads_read, leads_frame_active active,
        toOption_eq_some held, Except.ok.injEq, forall_eq', reduceCtorEq, false_implies,
        implies_true, and_true]
      exact leads
  · next dst name =>
      obtain ⟨frame, active, raises⟩ := Option.bind_eq_some_iff.mp raises
      split at raises
      · cases raises
      · next unbound =>
          cases raises
          refine ⟨machine.counters, eq_of_leads fun good bad leads => ?_⟩
          simp only [execute, loadVar, leads_bind, leads_get, leads_frame_active active, unbound]
          exact leads
  · next dst name args =>
      obtain ⟨frame, active, raises⟩ := Option.bind_eq_some_iff.mp raises
      obtain ⟨values, passed, raises⟩ := Option.bind_eq_some_iff.mp raises
      simp only at raises
      split at raises
      · cases raises
      · next unresolved =>
          cases raises
          obtain ⟨counters, counted⟩ := machine.count_eq fun counters => { counters with
            candidatesTried := counters.candidatesTried +
              ((machine.arena.resolve frame.scope name).getD (.empty name)).tried none }
          refine ⟨counters, eq_of_leads fun good bad leads => ?_⟩
          simp only [execute, call, leads_bind, leads_get, leads_frame_active active,
            toOption_eq_some passed, leads_ofExcept, Except.ok.injEq, forall_eq', reduceCtorEq,
            false_implies, implies_true, and_true, unresolved, countTried, leads_count, counted]
          exact leads
  · cases raises

theorem execute_raise_leads (sound : machine.Sound) (raises : machine.raised? code = some cause) :
    (execute code).Leads machine (machine.Unwound ⟨cause, machine.trace⟩)
      fun fault _ => machine.Stuck fault := by
  obtain ⟨counters, same⟩ := execute_raise_eq raises
  have sound' : { machine with counters }.Sound :=
    ⟨sound.enabled, sound.linked, sound.layered, sound.housed⟩
  unfold Leads
  rw [same]
  exact (raise_leads sound').mono (fun _ _ unwound => unwound.counted)
    fun _ _ stuck => stuck.counted

end Action

end Backtrack
