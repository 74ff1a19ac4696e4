import Backtrack.Proofs.Generations
import Mathlib.Data.Set.Card

/-!
The life of a rollback log. While it is open it holds, for every binding, the first value that was
saved; it is closed once, by a commit or by a rollback, and holds nothing afterwards. A rollback has
the same result in whatever order the entries of the log are restored.
-/

namespace Backtrack

/-- Different bindings of one container have different names. -/
theorem BindingKey.name_ne {first second : BindingKey} (apart : first ≠ second)
    (same : first.container = second.container) : first.name ≠ second.name := by
  intro named
  cases first
  cases second
  simp_all

namespace Arena

variable {arena : Arena} {id other : ContainerId} {count : Nat}

/-! ## Changes that commute -/

theorem isLive_modify {change : Container → Container} :
    (arena.modify id change).isLive other = arena.isLive other := by
  rw [isLive, isLive, get?_modify]
  split <;> simp

theorem modify_live {change : Container → Container} (live : arena.isLive id = true) :
    arena.modify id change = { arena with
      slots := arena.slots.modify id.index fun slot =>
        { slot with content := slot.content.map change } } :=
  if_pos live

theorem modify_stale {change : Container → Container} (stale : arena.isLive id = false) :
    arena.modify id change = arena :=
  if_neg (by simp [stale])

/-- Changes of different containers commute, those of one container if they do so themselves. -/
theorem modify_comm {change change' : Container → Container}
    (commute : id = other → ∀ container, change' (change container) = change (change' container)) :
    (arena.modify id change).modify other change' =
      (arena.modify other change').modify id change := by
  cases live : arena.isLive id with
  | false => rw [modify_stale live, modify_stale (isLive_modify.trans live)]
  | true =>
      cases live' : arena.isLive other with
      | false => rw [modify_stale live', modify_stale (isLive_modify.trans live')]
      | true =>
          rw [modify_live (isLive_modify.trans live'), modify_live (isLive_modify.trans live),
            modify_live live, modify_live live']
          congr 1
          apply Array.ext_getElem?
          intro index
          simp only [Array.getElem?_modify]
          by_cases first : id.index = index
          · by_cases second : other.index = index
            · -- Two live handles for one slot are the same handle.
              have same := eq_of_live live live' (first.trans second.symm)
              cases arena.slots[index]? with
              | none => simp
              | some slot => cases content : slot.content <;> simp [first, second, content, commute same]
            · simp [first, second]
          · simp [first]

/-- Bindings with one of them set, or removed. -/
def rebound {α : Type} (bindings : Std.ExtTreeMap SymbolId α) (name : SymbolId)
    (value : Option α) : Std.ExtTreeMap SymbolId α :=
  match value with
  | some value => bindings.insert name value
  | none => bindings.erase name

theorem getElem?_rebound {α : Type} {bindings : Std.ExtTreeMap SymbolId α}
    {name name' : SymbolId} {value : Option α} :
    (rebound bindings name value)[name']? = if name' = name then value else bindings[name']? := by
  by_cases same : name' = name
  · cases value <;> simp [rebound, same]
  · cases value <;> simp [rebound, same, Std.ExtTreeMap.getElem?_insert,
      Std.ExtTreeMap.getElem?_erase, Std.LawfulEqCmp.compare_eq_iff_eq, Ne.symm same]

theorem rebound_comm {α : Type} {bindings : Std.ExtTreeMap SymbolId α} {name name' : SymbolId}
    {value value' : Option α} (apart : name ≠ name') :
    rebound (rebound bindings name value) name' value' =
      rebound (rebound bindings name' value') name value := by
  apply Std.ExtTreeMap.ext_getElem?
  intro sought
  simp only [getElem?_rebound]
  by_cases first : sought = name
  · simp [first, apart]
  · simp [first]

theorem putVar_eq {name : SymbolId} {value : Option Value} :
    arena.putVar id name value = arena.modify id fun container =>
      { container with vars := rebound container.vars name value } := by
  cases value <;> rfl

theorem putCandidates_eq {name : SymbolId} {set : Option CandidateSet} :
    arena.putCandidates id name set = arena.modify id fun container =>
      { container with candidates := rebound container.candidates name set } := by
  cases set <;> rfl

theorem putVar_comm {first second : BindingKey} {value value' : Option Value}
    (apart : first ≠ second) :
    (arena.putVar first.container first.name value).putVar second.container second.name value' =
      (arena.putVar second.container second.name value').putVar first.container first.name
        value := by
  simp only [putVar_eq]
  apply modify_comm
  intro same container
  rw [rebound_comm (BindingKey.name_ne apart same)]

theorem putCandidates_comm {first second : BindingKey} {set set' : Option CandidateSet}
    (apart : first ≠ second) :
    (arena.putCandidates first.container first.name set).putCandidates second.container
        second.name set' =
      (arena.putCandidates second.container second.name set').putCandidates first.container
        first.name set := by
  simp only [putCandidates_eq]
  apply modify_comm
  intro same container
  rw [rebound_comm (BindingKey.name_ne apart same)]

/-! ## Draining a log -/

section

variable {α : Type} {set : Arena → ContainerId → SymbolId → α → Except Fault Arena}
  {put : Arena → ContainerId → SymbolId → Option α → Arena}

/-- Restores one entry of a log and counts it, unless its container was freed. -/
def restoreEntry (set : Arena → ContainerId → SymbolId → α → Except Fault Arena)
    (put : Arena → ContainerId → SymbolId → Option α → Arena) :
    Nat × Arena → BindingKey × Option α → Except Fault (Nat × Arena)
  | (count, arena), (key, prior) =>
      if arena.isLive key.container then
        match prior with
        | some value => do return (count + 1, ← set arena key.container key.name value)
        | none => return (count + 1, put arena key.container key.name none)
      else return (count, arena)

/-- A write sets or removes one binding of a container that lives. -/
structure Puts (set : Arena → ContainerId → SymbolId → α → Except Fault Arena)
    (put : Arena → ContainerId → SymbolId → Option α → Arena) : Prop where
  sets {arena : Arena} {id : ContainerId} {name : SymbolId} {value : α}
    (live : arena.isLive id = true) : set arena id name value = .ok (put arena id name (some value))
  stale {arena : Arena} {id : ContainerId} {name : SymbolId} {value : Option α}
    (stale : arena.isLive id = false) : put arena id name value = arena
  live {arena : Arena} {id : ContainerId} {name : SymbolId} {value : Option α} :
    (put arena id name value).isLive = arena.isLive
  comm {arena : Arena} {first second : BindingKey} {value value' : Option α}
    (apart : first ≠ second) :
    put (put arena first.container first.name value) second.container second.name value' =
      put (put arena second.container second.name value') first.container first.name value

theorem puts_var : Puts setVar putVar where
  sets live := by simp [setVar, live]
  stale stale := modify_stale stale
  live := putVar_alike.live
  comm := putVar_comm

theorem puts_candidates : Puts setCandidates putCandidates where
  sets live := by simp [setCandidates, live]
  stale stale := modify_stale stale
  live := putCandidates_alike.live
  comm := putCandidates_comm

/-- Whether the container of a logged binding still lives. -/
def keeps (arena : Arena) (key : BindingKey) : Bool :=
  arena.isLive key.container

theorem restoreEntry_eq (puts : Puts set put) {entry : BindingKey × Option α} :
    restoreEntry set put (count, arena) entry =
      .ok (count + (if arena.keeps entry.1 then 1 else 0),
        put arena entry.1.container entry.1.name entry.2) := by
  cases live : arena.isLive entry.1.container with
  | false => simp [restoreEntry, keeps, live, puts.stale live, pure, Except.pure]
  | true =>
      cases prior : entry.2 with
      | none => simp [restoreEntry, keeps, live, prior, pure, Except.pure]
      | some value =>
          simp [restoreEntry, keeps, live, prior, puts.sets live, bind, Except.bind, pure,
            Except.pure]

/-- Entries restored one after the other: no write fails. -/
theorem foldlM_restoreEntry (puts : Puts set put) {entries : List (BindingKey × Option α)} :
    entries.foldlM (restoreEntry set put) (count, arena) =
      .ok (count + (entries.map Prod.fst).countP arena.keeps,
        entries.foldl (fun arena (key, prior) => put arena key.container key.name prior) arena) := by
  induction entries generalizing count arena with
  | nil => rfl
  | cons entry rest ih =>
      have same : (put arena entry.1.container entry.1.name entry.2).keeps = arena.keeps := by
        funext key
        simp [keeps, puts.live]
      rw [List.foldlM_cons, restoreEntry_eq puts]
      simp only [bind, Except.bind]
      rw [ih, same, List.map_cons, List.countP_cons, List.foldl_cons]
      congr 2
      omega

/-- The order in which different bindings are put makes no difference. -/
theorem foldl_put_perm (puts : Puts set put) {entries entries' : List (BindingKey × Option α)}
    (perm : entries.Perm entries') (distinct : (entries.map Prod.fst).Nodup) :
    entries.foldl (fun arena (key, prior) => put arena key.container key.name prior) arena =
      entries'.foldl (fun arena (key, prior) => put arena key.container key.name prior) arena := by
  apply perm.foldl_eq'
  intro first member second member' arena
  by_cases same : first = second
  · rw [same]
  · apply puts.comm
    intro equal
    exact same (List.inj_on_of_nodup_map distinct member member' equal)

theorem foldlM_restoreEntry_perm (puts : Puts set put)
    {entries entries' : List (BindingKey × Option α)} (perm : entries.Perm entries')
    (distinct : (entries.map Prod.fst).Nodup) :
    entries'.foldlM (restoreEntry set put) (count, arena) =
      entries.foldlM (restoreEntry set put) (count, arena) := by
  rw [foldlM_restoreEntry puts, foldlM_restoreEntry puts, foldl_put_perm puts perm distinct,
    (perm.map Prod.fst).countP_eq]

end

/-- Restores the entries of a log one by one, those of variables first. -/
def drain (arena : Arena) (vars : List (BindingKey × Option Value))
    (candidates : List (BindingKey × Option CandidateSet)) : Except Fault (Nat × Arena) := do
  let (count, arena) ← vars.foldlM (restoreEntry setVar putVar) (0, arena)
  candidates.foldlM (restoreEntry setCandidates putCandidates) (count, arena)

/-- In whatever order the entries come, the result is that of a rollback. -/
theorem drain_eq {log : RollbackLog} {vars : List (BindingKey × Option Value)}
    {candidates : List (BindingKey × Option CandidateSet)} (perm : log.vars.toList.Perm vars)
    (perm' : log.candidates.toList.Perm candidates) :
    arena.drain vars candidates = .ok (log.restorable arena, log.restore arena) := by
  have distinct : (log.vars.toList.map Prod.fst).Nodup := List.pairwise_map.mpr toList_distinct
  have distinct' : (log.candidates.toList.map Prod.fst).Nodup :=
    List.pairwise_map.mpr toList_distinct
  have same : (arena.putVars log.vars.toList).keeps = arena.keeps := by
    funext key
    exact congrFun putVars_alike.live key.container
  rw [drain, foldlM_restoreEntry_perm puts_var perm distinct, foldlM_restoreEntry puts_var]
  simp only [bind, Except.bind]
  rw [foldlM_restoreEntry_perm puts_candidates perm' distinct', foldlM_restoreEntry puts_candidates,
    ← putVars, same, Std.TreeMap.map_fst_toList_eq_keys, Std.TreeMap.map_fst_toList_eq_keys, Nat.zero_add]
  rfl

end Arena

namespace RollbackLog

/-! ## Calls -/

inductive Call where
  | saveVariable (key : BindingKey) (prior : Option Value)
  | saveCandidates (key : BindingKey) (prior : Option CandidateSet)
  | close (attempt : Closing)
  /-- Between calls of the log, anything can happen to the arena. -/
  | change (request : Arena.Request)

inductive Answer where
  /-- Whether this was the first value for its binding. -/
  | saved (first : Bool)
  | committed
  | restored (count : Nat)
  | refused (fault : Fault)
  | changed (reply : Arena.Reply)
deriving DecidableEq

def perform : RollbackLog × Arena → Call → Answer × RollbackLog × Arena
  | (log, arena), .saveVariable key prior =>
      let (first, log) := log.saveVariable key prior
      (.saved first, log, arena)
  | (log, arena), .saveCandidates key prior =>
      let (first, log) := log.saveCandidates key prior
      (.saved first, log, arena)
  | (log, arena), .close .commit =>
      match log.commit with
      | .ok log => (.committed, log, arena)
      | .error fault => (.refused fault, log, arena)
  | (log, arena), .close .rollback =>
      match log.rollback arena with
      | .ok (count, log, arena) => (.restored count, log, arena)
      | .error fault => (.refused fault, log, arena)
  | (log, arena), .change request =>
      let (reply, arena) := arena.perform request
      (.changed reply, log, arena)

/-- Whether a call closed the log. -/
def closes : Call × Answer → Bool
  | (_, .committed) | (_, .restored _) => true
  | _ => false

def savedVar? : Call × Answer → Option (BindingKey × Option Value)
  | (.saveVariable key prior, _) => some (key, prior)
  | _ => none

def savedCandidates? : Call × Answer → Option (BindingKey × Option CandidateSet)
  | (.saveCandidates key prior, _) => some (key, prior)
  | _ => none

/-- What was saved for a binding first, if anything. -/
def first? {α : Type} (saved? : Call × Answer → Option (BindingKey × Option α))
    (entries : List (Call × Answer)) (key : BindingKey) : Option (Option α) :=
  (entries.filterMap saved?).lookup key

variable {log : RollbackLog} {arena start : Arena} {calls : List Call} {call : Call}
  {entries : List (Call × Answer)} {key : BindingKey}

theorem first?_concat {α : Type} {saved? : Call × Answer → Option (BindingKey × Option α)}
    {entry : Call × Answer} :
    first? saved? (entries ++ [entry]) key =
      (first? saved? entries key).or ((saved? entry).toList.lookup key) := by
  cases saved : saved? entry <;> simp [first?, saved, List.lookup_append]

/-- Of two values for one binding, the one that is held stays. -/
theorem held_or_saved {α : Type} {held : Std.TreeMap BindingKey (Option α)} {other : BindingKey}
    {prior : Option α} :
    (if other = key then some (held[key]?.getD prior) else held[other]?) =
      held[other]?.or ([(key, prior)].lookup other) := by
  by_cases same : other = key
  · cases found : held[key]? <;> simp [same, found]
  · simp [same, List.lookup_cons, beq_eq_false_iff_ne.mpr same]

/-- What a log has kept of its calls. -/
structure Keeps (log : RollbackLog) (entries : List (Call × Answer)) : Prop where
  once : (entries.filter closes).length ≤ 1
  opened : log.enabled = true ↔ entries.filter closes = []
  shut (done : log.enabled = false) : log = closed
  vars (key : BindingKey) (opened : log.enabled = true) :
    log.vars[key]? = first? savedVar? entries key
  candidates (key : BindingKey) (opened : log.enabled = true) :
    log.candidates[key]? = first? savedCandidates? entries key

theorem keeps_new : new.Keeps [] where
  once := by simp
  opened := by simp [new]
  shut done := by simp [new] at done
  vars key _ := by simp [new, first?]
  candidates key _ := by simp [new, first?]

/-- A log that is closed refuses to be closed again and ignores what is to be saved. -/
theorem perform_closed :
    (perform (closed, arena) call).2.1 = closed ∧
      closes (call, (perform (closed, arena) call).1) = false := by
  cases call with
  | close attempt => cases attempt <;> exact ⟨rfl, rfl⟩
  | _ => exact ⟨rfl, rfl⟩

theorem perform_close (enabled : log.enabled = true) (attempt : Closing) :
    (perform (log, arena) (.close attempt)).2.1 = closed ∧
      closes (.close attempt, (perform (log, arena) (.close attempt)).1) = true := by
  cases attempt with
  | commit => simp [perform, commit, enabled, closes]
  | rollback => simp [perform, rollback, enabled, closes]

theorem Keeps.closed {entry : Call × Answer} (keeps : closed.Keeps entries)
    (idle : closes entry = false) : closed.Keeps (entries ++ [entry]) where
  once := by simpa [idle] using keeps.once
  opened := by simpa [idle] using keeps.opened
  shut _ := rfl
  vars _ opened := by cases opened
  candidates _ opened := by cases opened

theorem Keeps.close {entry : Call × Answer} (keeps : log.Keeps entries)
    (enabled : log.enabled = true) (last : closes entry = true) :
    RollbackLog.closed.Keeps (entries ++ [entry]) where
  once := by simp [keeps.opened.mp enabled, last]
  opened := by simp [RollbackLog.closed, last]
  shut _ := rfl
  vars _ opened := by cases opened
  candidates _ opened := by cases opened

/-- While the log is open, what it holds grows by what it did not hold. -/
theorem Keeps.save {entry : Call × Answer} {log' : RollbackLog} (keeps : log.Keeps entries)
    (enabled : log.enabled = true) (enabled' : log'.enabled = true) (idle : closes entry = false)
    (vars : ∀ key, log'.vars[key]? = (log.vars[key]?).or ((savedVar? entry).toList.lookup key))
    (candidates : ∀ key, log'.candidates[key]? =
      (log.candidates[key]?).or ((savedCandidates? entry).toList.lookup key)) :
    log'.Keeps (entries ++ [entry]) where
  once := by simpa [idle] using keeps.once
  opened := by simpa [idle, enabled, enabled'] using keeps.opened
  shut done := by simp [enabled'] at done
  vars key _ := by rw [vars, keeps.vars key enabled, first?_concat]
  candidates key _ := by rw [candidates, keeps.candidates key enabled, first?_concat]

theorem Keeps.perform (keeps : log.Keeps entries) :
    (perform (log, arena) call).2.1.Keeps (entries ++ [(call, (perform (log, arena) call).1)]) := by
  cases enabled : log.enabled with
  | false =>
      have shut := keeps.shut enabled
      subst shut
      obtain ⟨same, idle⟩ := @perform_closed arena call
      rw [same]
      exact keeps.closed idle
  | true =>
      cases call with
      | saveVariable key prior =>
          apply keeps.save enabled (enabled_saveVariable.trans enabled) rfl
          · intro other
            exact (getElem?_saveVariable enabled).trans held_or_saved
          · intro other
            simp [savedCandidates?]
      | saveCandidates key prior =>
          apply keeps.save enabled (enabled_saveCandidates.trans enabled) rfl
          · intro other
            simp [savedVar?]
          · intro other
            exact (getElem?_saveCandidates enabled).trans held_or_saved
      | close attempt =>
          obtain ⟨shut, last⟩ := @perform_close log arena enabled attempt
          rw [shut]
          exact keeps.close enabled last
      | change request =>
          apply keeps.save enabled enabled rfl
          · intro other
            simp [savedVar?]
          · intro other
            simp [savedCandidates?]

/-! ## Closing -/

/-- What a rollback does to the bindings, and what it returns. -/
structure Restores (log : RollbackLog) (arena : Arena) (count : Nat) (after : Arena) : Prop where
  vars {id : ContainerId} {name : SymbolId} (live : arena.isLive id = true) :
    after.var? id name = (log.vars[(⟨id, name⟩ : BindingKey)]?).getD (arena.var? id name)
  candidates {id : ContainerId} {name : SymbolId} (live : arena.isLive id = true) :
    after.candidates? id name =
      (log.candidates[(⟨id, name⟩ : BindingKey)]?).getD (arena.candidates? id name)
  live : after.isLive = arena.isLive
  parents : after.parent? = arena.parent?
  counted : count =
    {key | key ∈ log.vars ∧ arena.isLive key.container = true}.ncard +
      {key | key ∈ log.candidates ∧ arena.isLive key.container = true}.ncard
  anyOrder {vars : List (BindingKey × Option Value)}
    {candidates : List (BindingKey × Option CandidateSet)}
    (perm : log.vars.toList.Perm vars) (perm' : log.candidates.toList.Perm candidates) :
    arena.drain vars candidates = .ok (count, after)

theorem ncard_live {α : Type} {entries : Std.TreeMap BindingKey α} :
    {key | key ∈ entries ∧ arena.isLive key.container = true}.ncard =
      entries.keys.countP fun key => arena.isLive key.container := by
  have listed : {key | key ∈ entries ∧ arena.isLive key.container = true} =
      ((entries.keys.filter fun key => arena.isLive key.container).toFinset : Set BindingKey) := by
    ext key
    simp
  rw [listed, Set.ncard_coe_finset, List.countP_eq_length_filter]
  exact List.toFinset_card_of_nodup (Std.TreeMap.nodup_keys.filter _)

theorem restores_restore : log.Restores arena (log.restorable arena) (log.restore arena) where
  vars := Arena.var?_restore
  candidates := Arena.candidates?_restore
  live := Arena.restore_alike.live
  parents := Arena.restore_alike.parents
  counted := by rw [ncard_live, ncard_live, restorable]
  anyOrder := Arena.drain_eq

/-- What the next call does: an open log can be closed in both ways, a closed one in neither. -/
structure Settles (log : RollbackLog) (arena : Arena) : Prop where
  commits (opened : log.enabled = true) :
    perform (log, arena) (.close .commit) = (.committed, closed, arena)
  restores (opened : log.enabled = true) : ∃ count after,
    perform (log, arena) (.close .rollback) = (.restored count, closed, after) ∧
      log.Restores arena count after
  refuses (done : log.enabled = false) (attempt : Closing) :
    perform (log, arena) (.close attempt) = (.refused (.logClosed attempt), log, arena)
  ignoresVar (done : log.enabled = false) (key : BindingKey) (prior : Option Value) :
    perform (log, arena) (.saveVariable key prior) = (.saved false, log, arena)
  ignoresCandidates (done : log.enabled = false) (key : BindingKey)
    (prior : Option CandidateSet) :
    perform (log, arena) (.saveCandidates key prior) = (.saved false, log, arena)

theorem settles : log.Settles arena where
  commits opened := by simp [perform, commit, opened]
  restores opened := ⟨_, _, by simp [perform, rollback, opened], restores_restore⟩
  refuses done attempt := by cases attempt <;> simp [perform, commit, rollback, done]
  ignoresVar done key prior := by simp [perform, saveVariable, done]
  ignoresCandidates done key prior := by simp [perform, saveCandidates, done]

/-- An open log holds what was saved first, and once it is closed it holds nothing and stays so. -/
theorem finalised (transcribed : transcribe perform (new, start) calls = (entries, log, arena)) :
    (entries.filter closes).length ≤ 1 ∧
      (log.enabled = true ↔ entries.filter closes = []) ∧
      (log.enabled = true → ∀ key, log.vars[key]? = first? savedVar? entries key ∧
        log.candidates[key]? = first? savedCandidates? entries key) ∧
      (log.enabled = false → log = closed) ∧ log.Settles arena := by
  have keeps := holds_of_transcribed (motive := fun entries state => state.1.Keeps entries)
    keeps_new (fun _ _ _ keeps => keeps.perform) transcribed
  exact ⟨keeps.once, keeps.opened, fun opened key => ⟨keeps.vars key opened,
    keeps.candidates key opened⟩, keeps.shut, settles⟩

/-- Two containers, of which one is freed after a save and its slot used again. -/
def savingCalls : List Call :=
  [.change (.alloc none), .change (.alloc none), .saveVariable ⟨⟨0, 0⟩, ⟨0⟩⟩ (some (.int 1)),
    .saveVariable ⟨⟨0, 0⟩, ⟨0⟩⟩ (some (.int 2)), .saveVariable ⟨⟨1, 0⟩, ⟨0⟩⟩ none,
    .saveCandidates ⟨⟨0, 0⟩, ⟨1⟩⟩ none, .change (.setVar ⟨0, 0⟩ ⟨0⟩ (.int 3)),
    .change (.setCandidates ⟨0, 0⟩ ⟨1⟩ ⟨⟨1⟩, [⟨0⟩]⟩), .change (.free ⟨1, 0⟩),
    .change (.alloc none), .change (.setVar ⟨1, 1⟩ ⟨0⟩ (.int 9))]

/-- The log and the arena after calls on a new log. -/
def afterCalls (calls : List Call) : RollbackLog × Arena :=
  (transcribe perform (new, .empty) calls).2

theorem finalised_saving :
    (afterCalls savingCalls).1.Settles (afterCalls savingCalls).2 ∧
      (afterCalls savingCalls).1.vars[(⟨⟨0, 0⟩, ⟨0⟩⟩ : BindingKey)]? = some (some (.int 1)) ∧
      (perform (afterCalls savingCalls) (.close .rollback)).1 = .restored 2 ∧
      (afterCalls (savingCalls ++ [.close .rollback])).2.var? ⟨0, 0⟩ ⟨0⟩ = some (.int 1) ∧
      (afterCalls (savingCalls ++ [.close .rollback])).2.candidates? ⟨0, 0⟩ ⟨1⟩ = none ∧
      (afterCalls (savingCalls ++ [.close .rollback])).2.var? ⟨1, 1⟩ ⟨0⟩ = some (.int 9) ∧
      (afterCalls (savingCalls ++ [.close .rollback])).1 = closed := by
  have transcribed (calls : List Call) : transcribe perform (new, .empty) calls =
      ((transcribe perform (new, .empty) calls).1, (afterCalls calls).1, (afterCalls calls).2) := rfl
  obtain ⟨-, -, first, -, settles⟩ := finalised (transcribed savingCalls)
  obtain ⟨-, -, -, shut, -⟩ := finalised (transcribed (savingCalls ++ [.close .rollback]))
  refine ⟨settles, ?_, by decide +kernel, by decide +kernel, by decide +kernel, by decide +kernel,
    shut (by decide +kernel)⟩
  rw [(first (by decide +kernel) _).1]
  rfl

end RollbackLog

end Backtrack
