import Backtrack.Machine.Start
import Backtrack.Machine.View
import Backtrack.Proofs.Actions
import Backtrack.Proofs.Fuel
import Mathlib

/-!
A search by backtracking, from its start to its end. A generator yields the numbers up to a bound;
the entry function binds each to `x` in a region of its own and raises a condition until one passes
a threshold. However many attempts fail, none leaves a trace: the search ends with the bindings of
the one attempt that passes, or with those that it began with.
-/

namespace Backtrack

namespace Action

open Machine

variable {machine : Machine} {good : Unit → Machine → Prop} {bad : Fault → Machine → Prop}

/-- Only what a rollback makes of the open regions matters. -/
theorem leads_rollbackWhile_congr {undone undone' : Region → Bool}
    (same : ∀ region ∈ machine.regions.items, undone region = undone' region) :
    (rollbackWhile undone).Leads machine good bad ↔
      (rollbackWhile undone').Leads machine good bad := by
  have taken : machine.regions.items.takeWhile undone =
      machine.regions.items.takeWhile undone' := by
    generalize machine.regions.items = regions at same
    induction regions with
    | nil => rfl
    | cons region rest ih =>
        rw [List.takeWhile_cons, List.takeWhile_cons, same region List.mem_cons_self,
          ih fun other member => same other (List.mem_cons_of_mem region member)]
  simp only [rollbackWhile, leads_bind, leads_get, taken]

/-- A handler that was pushed before any open region catches like one that was pushed first of
all. -/
theorem catchCondition_first {handler : Handler} {condition : Condition}
    (first : ∀ region ∈ machine.regions.items, handler.regionSerial ≤ region.serial) :
    catchCondition handler condition machine =
      catchCondition { handler with regionSerial := 0 } condition machine := by
  apply eq_of_leads
  intro good bad leads
  simp only [catchCondition, leads_bind, leads_get, leads_coroutine] at leads ⊢
  refine ⟨fun coroutine found => ?_, leads.2⟩
  have leads := leads.1 coroutine found
  cases located : coroutine.frames.at? handler.depth with
  | none => simpa only [located] using leads
  | some target =>
      simp only [located, leads_bind, leads_get, leads_ensure] at leads ⊢
      refine ⟨fun inScope => (leads_rollbackWhile_congr ?_).mpr (leads.1 inScope), leads.2⟩
      intro region opened
      simp [first region opened]

end Action

namespace Search

/-! The program -/

/-- The entry function, for a bound `n` and a threshold `t`. -/
def main (n t : Int64) : CodeUnit where
  name := "main"
  registerCount := 10
  parameterCount := 0
  parameters := []
  code := #[
    .const 0 (.int n),
    .createCoroutine 1 ⟨1⟩ [0],
    .const 6 (.int t),
    .const 7 (.int 0),
    .declareVar ⟨1⟩ 7,
    .const 8 (.int 1),
    -- the next alternative, in register 3
    .enterCoroutine (some 2) 1 (some 3),
    .branch 2 8 22,
    -- an attempt, which goes on at 21 when it fails
    .pushCatch 21 none,
    .openRegion,
    .storeVar ⟨0⟩ 3,
    .loadVar 9 ⟨1⟩,
    .int .add 9 9 8,
    .storeVar ⟨1⟩ 9,
    .int .le 5 6 3,
    .branch 5 17 16,
    .noSolution,
    -- the attempt passes
    .commitRegion,
    .popCatch,
    .loadVar 4 ⟨0⟩,
    .return 4,
    .jump 6,
    -- no alternatives are left
    .noSolution]

/-- Yields the numbers from 1 to its argument. -/
def generator : CodeUnit where
  name := "gen"
  registerCount := 4
  parameterCount := 1
  parameters := [.any]
  code := #[
    .const 1 (.int 1),
    .const 2 (.int 1),
    .int .le 3 1 0,
    .branch 3 4 7,
    .yield (some 1),
    .int .add 1 1 2,
    .jump 2,
    .return 1]

def program (n t : Int64) : Program where
  functions := #[main n t, generator]
  functionIndex := .ofList [("main", FunctionId.mk 0), ("gen", FunctionId.mk 1)]
  constructors := #[]
  constructorIndex := ∅
  types := #[]
  symbols := #["x", "attempts"]
  symbolIndex := .ofList [("x", SymbolId.mk 0), ("attempts", SymbolId.mk 1)]
  entry := ⟨0⟩

/-! The machine in the course of a search -/

/-- What is left in the registers from the round before. -/
structure Scratch where
  more : Option Value
  offer : Option Value
  verdict : Option Value
  count : Option Value
  within : Option Value

section States

variable (n t i : Int64) (pc : Nat) (scratch : Scratch) (serial : Nat)

def mainFrame : Frame where
  id := ⟨0⟩
  function := ⟨0⟩
  pc
  registers := #[some (.int n), some (.coroutine ⟨1⟩), scratch.more, scratch.offer, none,
    scratch.verdict, some (.int t), some (.int 0), some (.int 1), scratch.count]
  role := .entry
  scope := ⟨0, 0⟩
  base := ⟨0, 0⟩

/-- The frame of the generator, whose counter is `i`. -/
def generatorFrame : Frame where
  id := ⟨1⟩
  function := ⟨1⟩
  pc
  registers := #[some (.int n), some (.int i), some (.int 1), scratch.within]
  role := .entry
  scope := ⟨1, 0⟩
  base := ⟨1, 0⟩

/-- The global container, which binds `attempts` alone, and the container of the generator. -/
def arena : Arena :=
  ((Arena.empty.place none).2.place (some ⟨0, 0⟩)).2.putVar ⟨0, 0⟩ ⟨1⟩ (some (.int 0))

/-- The generator runs while the entry function waits for a value. -/
def producing : Machine where
  program := program n t
  settings := .standard
  status := .running
  coroutines := #[
    .root (mainFrame n t 7 scratch),
    { Coroutine.root (generatorFrame n i pc scratch) with
      caller := some ⟨.root, 0, some 2, some 3⟩ }]
  current := ⟨1⟩
  arena
  globals := ⟨0, 0⟩
  regions := .empty
  nextSerial := serial
  nodes := .empty
  nextFrame := 2
  counters := .zero
  collecting := false

/-- Before the first instruction. -/
def starting : Machine :=
  { producing n t 1 0 ⟨none, none, none, none, none⟩ 0 with
    coroutines := #[.root (.new ⟨0⟩ ⟨0⟩ 10 .entry ⟨0, 0⟩)]
    current := .root
    arena := (Arena.empty.place none).2
    nextFrame := 1 }

/-- The registers once `i` has been tried. -/
def Scratch.tried (verdict : Option Value) : Scratch :=
  ⟨some (.bool true), some (.int i), verdict, some (.int 1), some (.bool true)⟩

/-- The entry function runs while the generator, which has yielded `i`, waits. -/
def consuming (verdict : Option Value) : Machine :=
  { producing n t i pc (.tried i verdict) serial with
    coroutines := #[
      .root (mainFrame n t pc (.tried i verdict)),
      { Coroutine.root (generatorFrame n i 5 (.tried i verdict)) with suspended := true }]
    current := .root }

def handler : Handler :=
  ⟨0, 21, none, serial, ⟨0, 0⟩⟩

/-- The log of an attempt. Only `attempts` was bound before it. -/
def log : RollbackLog :=
  let stored := (RollbackLog.new.saveVariable ⟨⟨0, 0⟩, ⟨0⟩⟩ none).2
  (stored.saveVariable ⟨⟨0, 0⟩, ⟨1⟩⟩ (some (.int 0))).2

/-- The same within an attempt that has made both its bindings. The instruction at 14 compares, the
one at 15 branches and the one at 16 gives the attempt up. -/
def attempting (verdict : Option Value) : Machine :=
  { (consuming n t i pc (serial + 1) verdict).updateCoroutine .root
      ({ · with handlers := [handler serial] }) with
    arena := (arena.putVar ⟨0, 0⟩ ⟨0⟩ (some (.int i))).putVar ⟨0, 0⟩ ⟨1⟩ (some (.int 1))
    regions := Stack.empty.push ⟨serial, ⟨0⟩, log⟩ }

/-- A failed attempt, whose handler has been taken. -/
def failing : Machine :=
  (attempting n t i 17 serial (some (.bool false))).updateCoroutine .root
    ({ · with handlers := [] })

end States

/-! From one state to the next. No state depends on the outcome of a comparison, so that between two
comparisons evaluation finds the next state for all numbers at once. -/

section Rounds

variable (n t i : Int64) (scratch : Scratch) (serial : Nat) (verdict : Option Value)

theorem starts : Machine.start (program n t) [] .standard = .ok (starting n t) := by
  cbv

theorem prepares :
    (starting n t).run 9 = producing n t 1 2 ⟨none, none, none, none, none⟩ 0 := by
  cbv

/-- The generator compares its counter with the bound. -/
theorem compares : (producing n t i 2 scratch serial).step =
    producing n t i 3 { scratch with within := some (.bool (i ≤ n)) } serial :=
  rfl

/-- The generator yields, and an attempt begins. -/
theorem yields : (producing n t i 3 { scratch with within := some (.bool true) } serial).run 9 =
    attempting n t i 14 serial scratch.verdict := by
  cbv

/-- The attempt compares its number with the threshold. -/
theorem judges : (attempting n t i 14 serial verdict).step =
    attempting n t i 15 serial (some (.bool (t ≤ i))) :=
  rfl

theorem rejects : (attempting n t i 15 serial (some (.bool false))).run 1 =
    attempting n t i 16 serial (some (.bool false)) := by
  cbv

/-- The handler catches what the attempt raises, and the bindings are as before it. -/
theorem fails : (attempting n t i 16 serial (some (.bool false))).step =
    consuming n t i 21 (serial + 1) (some (.bool false)) := by
  have raised : Action.cycle (attempting n t i 16 serial (some (.bool false))) =
      Action.catchCondition (handler serial) ⟨.noSolution, [⟨"main", 16⟩]⟩ (failing n t i serial) :=
    rfl
  have first : ∀ region ∈ (failing n t i serial).regions.items, serial ≤ region.serial := by
    intro region opened
    have same : region = ⟨serial, ⟨0⟩, log⟩ := List.mem_singleton.mp opened
    rw [same]
  unfold Machine.step
  -- with the serials out of the way there is nothing left to compare
  rw [raised, Action.catchCondition_first first]
  -- no instruction reads the text of the condition
  generalize Condition.mk .noSolution _ = condition
  cbv

theorem resumes : (consuming n t i 21 serial verdict).run 2 =
    producing n t i 5 (.tried i verdict) serial := by
  cbv

theorem counts : (producing n t i 5 scratch serial).step =
    producing n t (i + 1) 6 scratch serial :=
  rfl

theorem repeats : (producing n t i 6 scratch serial).run 1 = producing n t i 2 scratch serial := by
  cbv

/-- The attempt that passes keeps its bindings. -/
theorem commits :
    let final := (attempting n t i 15 serial (some (.bool true))).run 5
    final.status = .done (.int i) ∧ final.global? "x" = some (.int i) ∧
      final.global? "attempts" = some (.int 1) ∧ final.openRegions = 0 := by
  cbv

/-- No attempt has left anything. -/
theorem gives_up :
    let final := (producing n t i 3 { scratch with within := some (.bool false) } serial).run 4
    final.status = .uncaught ⟨.noSolution, [⟨"main", 22⟩]⟩ ∧ final.global? "x" = none ∧
      final.global? "attempts" = some (.int 0) ∧ final.openRegions = 0 := by
  cbv

end Rounds

/-! Round after round -/

section Loop

variable {n t i : Int64} {scratch : Scratch} {serial : Nat} {verdict : Option Value}
  {final : Machine}

/-- While there are numbers left, the search goes on with an attempt. -/
theorem asks (within : i ≤ n) (ends : (attempting n t i 14 serial scratch.verdict).Ends final) :
    (producing n t i 2 scratch serial).Ends final := by
  apply Machine.Ends.step rfl
  rw [compares, decide_eq_true within]
  apply Machine.Ends.of_run
  rw [yields]
  exact ends

/-- After an attempt that fails, the search goes on with the next number. -/
theorem retries (misses : ¬ t ≤ i)
    (ends : (producing n t (i + 1) 2 (.tried i (some (.bool false))) (serial + 1)).Ends final) :
    (attempting n t i 14 serial verdict).Ends final := by
  apply Machine.Ends.step rfl
  rw [judges, decide_eq_false misses]
  apply Machine.Ends.of_run
  rw [rejects]
  apply Machine.Ends.step rfl
  rw [fails]
  apply Machine.Ends.of_run
  rw [resumes]
  apply Machine.Ends.step rfl
  rw [counts]
  apply Machine.Ends.of_run
  rw [repeats]
  exact ends

/-- What a search through the numbers from `i` on comes to. -/
structure Finds (n t i : Int64) (final : Machine) : Prop where
  found (passes : i ≤ n ∧ t ≤ n) : final.status = .done (.int (max i t)) ∧
    final.global? "x" = some (.int (max i t)) ∧ final.global? "attempts" = some (.int 1)
  exhausted (fails : ¬ (i ≤ n ∧ t ≤ n)) :
    final.status = .uncaught ⟨.noSolution, [⟨"main", 22⟩]⟩ ∧ final.global? "x" = none ∧
      final.global? "attempts" = some (.int 0)
  closed : final.openRegions = 0

theorem toInt_succ (room : n < Int64.maxValue) (within : i ≤ n) :
    (i + 1).toInt = i.toInt + 1 := by
  have below : n.toInt < 2 ^ 63 - 1 := Int64.lt_iff_toInt_lt.mp room
  have within' := Int64.le_iff_toInt_le.mp within
  have least := Int64.le_toInt i
  rw [Int64.toInt_add]
  exact Int.bmod_eq_of_le (by simp; omega) (by simp; omega)

theorem max_of_le {a b : Int64} (above : b ≤ a) : max a b = a := by
  have split : max a b = if a ≤ b then b else a := rfl
  rw [split]
  split
  · next below => exact Int64.le_antisymm above below
  · rfl

/-- A number that misses the threshold is no loss. -/
theorem Finds.missed (room : n < Int64.maxValue) (within : i ≤ n) (misses : ¬ t ≤ i)
    (finds : Finds n t (i + 1) final) : Finds n t i final := by
  have next := toInt_succ room within
  rw [Int64.le_iff_toInt_le] at misses
  have onward (below : t ≤ n) : i + 1 ≤ n := by
    rw [Int64.le_iff_toInt_le] at below ⊢
    omega
  have same : max (i + 1) t = max i t := by
    have above : i + 1 ≤ t := by
      rw [Int64.le_iff_toInt_le]
      omega
    have above' : i ≤ t := by
      rw [Int64.le_iff_toInt_le]
      omega
    exact (if_pos above).trans (if_pos above').symm
  refine ⟨fun passes => ?_, fun fails => ?_, finds.closed⟩
  · rw [← same]
    exact finds.found ⟨onward passes.2, passes.2⟩
  · exact finds.exhausted fun passes => fails ⟨within, passes.2⟩

/-- The generator is out of numbers. -/
theorem producing_beyond (beyond : ¬ i ≤ n) :
    ∃ final, (producing n t i 2 scratch serial).Ends final ∧ Finds n t i final := by
  obtain ⟨status, x, attempts, closed⟩ := gives_up n t i scratch serial
  refine ⟨_, ?_, fun passes => absurd passes.1 beyond, fun _ => ⟨status, x, attempts⟩, closed⟩
  apply Machine.Ends.step rfl
  rw [compares, decide_eq_false beyond]
  exact .of_run (.stopped (by simp [Machine.isRunning, status]))

/-- The first number passes. -/
theorem producing_passes (within : i ≤ n) (passes : t ≤ i) :
    ∃ final, (producing n t i 2 scratch serial).Ends final ∧ Finds n t i final := by
  obtain ⟨status, x, attempts, closed⟩ := commits n t i serial
  have below : t ≤ n := Int64.le_trans passes within
  refine ⟨_, asks within ?_, fun _ => ?_, fun fails => absurd ⟨within, below⟩ fails, closed⟩
  · apply Machine.Ends.step rfl
    rw [judges, decide_eq_true passes]
    exact .of_run (.stopped (by simp [Machine.isRunning, status]))
  · rw [max_of_le passes]
    exact ⟨status, x, attempts⟩

/-- The induction is on the numbers that are left. A round that fails leaves one fewer, and all
bindings as they were. -/
theorem producing_finds (room : n < Int64.maxValue) (rounds : Nat) (i : Int64) (scratch : Scratch)
    (serial : Nat) (left : n.toInt - i.toInt < rounds) :
    ∃ final, (producing n t i 2 scratch serial).Ends final ∧ Finds n t i final := by
  induction rounds generalizing i scratch serial with
  | zero =>
      apply producing_beyond
      rw [Int64.le_iff_toInt_le]
      omega
  | succ rounds ih =>
      by_cases within : i ≤ n
      · by_cases passes : t ≤ i
        · exact producing_passes within passes
        · have fewer : n.toInt - (i + 1).toInt < rounds := by
            rw [toInt_succ room within]
            omega
          obtain ⟨final, ends, finds⟩ := ih (i + 1) (.tried i (some (.bool false))) (serial + 1) fewer
          exact ⟨final, asks within (retries passes ends), finds.missed room within passes⟩
      · exact producing_beyond within

/-- The search ends with the first number that passes the threshold, or with a condition when there
is none. -/
theorem program_finds (n t : Int64) (room : n < Int64.maxValue) :
    ∃ initial final, Machine.start (program n t) [] .standard = .ok initial ∧
      initial.Ends final ∧ Finds n t 1 final := by
  have one : (1 : Int64).toInt = 1 := rfl
  obtain ⟨final, ends, finds⟩ := producing_finds room n.toInt.toNat 1
    ⟨none, none, none, none, none⟩ 0 (by rw [one]; omega)
  rw [← prepares] at ends
  exact ⟨_, final, starts n t, .of_run ends, finds⟩

/-- Two attempts fail before the last number passes. -/
theorem program_finds_three :
    ∃ initial final, Machine.start (program 3 3) [] .standard = .ok initial ∧
      initial.Ends final ∧ Finds 3 3 1 final ∧ final.status = .done (.int 3) := by
  obtain ⟨initial, final, started, ends, finds⟩ := program_finds 3 3 (by decide)
  exact ⟨initial, final, started, ends, finds, (finds.found (by decide)).1⟩

end Loop

end Search

end Backtrack
