import Backtrack.Program.Assembler
import Backtrack.Proofs.Transcripts
import Mathlib.Data.List.Forall2

/-!
Labels of assembled code. A label stands for the number of lines before the call that bound it.
Once every label that a line refers to is bound, the code is the lines in order, each reference
replaced by what its label stands for; before that, the first reference without a place is reported.
The code is emitted without targets and patched in the end, which comes to the same as resolving
line after line: a patch was noted with the position of the instruction that it is for.
-/

namespace Backtrack

/-- What a call adds to the code, with the labels that it names. -/
inductive Line where
  | plain (instruction : Instruction)
  | jump (target : Label)
  | branch (condition : Reg) (whenTrue whenFalse : Label)
  | pushCatch (target : Label) (dst : Option Reg)

namespace Line

/-- The labels that a line refers to, in the order in which they are resolved. -/
def references : Line → List Label
  | .plain _ => []
  | .jump target | .pushCatch target _ => [target]
  | .branch _ whenTrue whenFalse => [whenTrue, whenFalse]

/-- The instruction that is emitted for a line, as yet without its targets. -/
def emitted : Line → Instruction
  | .plain instruction => instruction
  | .jump _ => .jump 0
  | .branch condition _ _ => .branch condition 0 0
  | .pushCatch _ dst => .pushCatch 0 dst

/-- The patch that is noted for a line at a position. -/
def patch? (position : Nat) : Line → Option Patch
  | .plain _ => none
  | .jump target => some (.jump position target)
  | .branch _ whenTrue whenFalse => some (.branch position whenTrue whenFalse)
  | .pushCatch target _ => some (.pushCatch position target)

/-- The patches of lines, the first of which is at a position. -/
def patches (position : Nat) : List Line → List Patch
  | [] => []
  | line :: rest => (line.patch? position).toList ++ patches (position + 1) rest

theorem patches_concat {position : Nat} {lines : List Line} {line : Line} :
    patches position (lines ++ [line]) =
      patches position lines ++ (line.patch? (position + lines.length)).toList := by
  induction lines generalizing position with
  | nil => simp [patches]
  | cons first rest ih =>
      rw [List.cons_append, patches, ih, patches, List.append_assoc, List.length_cons,
        Nat.add_right_comm, Nat.add_assoc]

end Line

namespace Assembler

/-- The call that adds a line. -/
def push (assembler : Assembler) : Line → Assembler
  | .plain instruction => assembler.emit instruction
  | .jump target => assembler.jump target
  | .branch condition whenTrue whenFalse => assembler.branch condition whenTrue whenFalse
  | .pushCatch target dst => assembler.pushCatch target dst

inductive Call where
  | label
  | bind (label : Label)
  | line (line : Line)

inductive Answer where
  | created (label : Label)
  | bound
  | refused (error : AssemblyError)
  | added
deriving DecidableEq

/-- A call that is refused leaves the assembler as it was. -/
def perform (assembler : Assembler) : Call → Answer × Assembler
  | .label =>
      let (label, after) := assembler.label
      (.created label, after)
  | .bind label =>
      match assembler.bind label with
      | .ok after => (.bound, after)
      | .error error => (.refused error, assembler)
  | .line line => (.added, assembler.push line)

def line? : Call × Answer → Option Line
  | (.line line, _) => some line
  | _ => none

/-- The lines that were added, in order. -/
def linesOf (entries : List (Call × Answer)) : List Line :=
  entries.filterMap line?

def referencesOf (entries : List (Call × Answer)) : List Label :=
  (linesOf entries).flatMap Line.references

def Created (entries : List (Call × Answer)) (label : Label) : Prop :=
  (.label, .created label) ∈ entries

/-- A call bound the label after this many lines. -/
def StandsFor (entries : List (Call × Answer)) (label : Label) (pc : Nat) : Prop :=
  ∃ before after, entries = before ++ (.bind label, .bound) :: after ∧ pc = (linesOf before).length

/-- The first reference to a label that was never bound. -/
def Dangles (entries : List (Call × Answer)) (references : List Label) (label : Label) : Prop :=
  ∃ before after, references = before ++ label :: after ∧
    (∀ earlier ∈ before, ∃ pc, StandsFor entries earlier pc) ∧ ∀ pc, ¬ StandsFor entries label pc

/-- An instruction in place of a line. What is not a reference stays as it is. -/
inductive Resolves (entries : List (Call × Answer)) : Line → Instruction → Prop
  | plain (instruction : Instruction) : Resolves entries (.plain instruction) instruction
  | jump {target : Label} {pc : Nat} (stands : StandsFor entries target pc) :
      Resolves entries (.jump target) (.jump pc)
  | branch {condition : Reg} {whenTrue whenFalse : Label} {pcTrue pcFalse : Nat}
      (stands : StandsFor entries whenTrue pcTrue)
      (stands' : StandsFor entries whenFalse pcFalse) :
      Resolves entries (.branch condition whenTrue whenFalse) (.branch condition pcTrue pcFalse)
  | pushCatch {target : Label} {dst : Option Reg} {pc : Nat}
      (stands : StandsFor entries target pc) :
      Resolves entries (.pushCatch target dst) (.pushCatch pc dst)

variable {assembler start : Assembler} {calls : List Call} {call : Call} {answer : Answer}
  {entries : List (Call × Answer)} {entry : Call × Answer} {label : Label} {pc : Nat}

theorem linesOf_concat : linesOf (entries ++ [entry]) = linesOf entries ++ (line? entry).toList := by
  cases added : line? entry <;> simp [linesOf, added]

theorem standsFor_concat : StandsFor (entries ++ [entry]) label pc ↔
    StandsFor entries label pc ∨ entry = (.bind label, .bound) ∧ pc = (linesOf entries).length := by
  constructor
  · intro ⟨before, after, same, counted⟩
    cases after using List.reverseRecOn with
    | nil =>
        obtain ⟨rfl, last⟩ := List.append_inj' same rfl
        exact .inr ⟨by simpa using last, counted⟩
    | append_singleton after last =>
        rw [← List.cons_append, ← List.append_assoc] at same
        exact .inl ⟨before, after, (List.append_inj' same rfl).1, counted⟩
  · intro stands
    cases stands with
    | inl earlier =>
        obtain ⟨before, after, same, counted⟩ := earlier
        exact ⟨before, after ++ [entry], by simp [same], counted⟩
    | inr last => exact ⟨entries, [], by simp [last.1], last.2⟩

/-! ## What an assembler remembers of its calls -/

structure Remembers (start assembler : Assembler) (entries : List (Call × Answer)) : Prop where
  same : assembler.unit = { start.unit with code := assembler.unit.code }
  code : assembler.unit.code.toList = (linesOf entries).map Line.emitted
  patches : assembler.patches.toList = Line.patches 0 (linesOf entries)
  created (label : Label) : label.index < assembler.labels.size ↔ Created entries label
  stands (label : Label) (pc : Nat) :
    assembler.labels[label.index]? = some (some pc) ↔ StandsFor entries label pc

theorem remembers_start (unused : start.unit.code = #[]) (unlabelled : start.labels = #[])
    (unpatched : start.patches = #[]) : Remembers start start [] where
  same := rfl
  code := by simp [unused, linesOf]
  patches := by simp [unpatched, linesOf, Line.patches]
  created label := by simp [unlabelled, Created]
  stands label pc := by simp [unlabelled, StandsFor]

theorem Remembers.position_eq (remembers : Remembers start assembler entries) :
    assembler.position = (linesOf entries).length := by
  rw [position, ← Array.length_toList, remembers.code, List.length_map]

/-- A line is emitted behind the others, and its patch, if it has one, has its position. -/
theorem push_eq (assembler : Assembler) (line : Line) : assembler.push line = { assembler with
    unit := { assembler.unit with code := assembler.unit.code.push line.emitted }
    patches := assembler.patches ++ (line.patch? assembler.position).toList } := by
  cases line <;> simp [push, emit, jump, branch, pushCatch, note, position, Line.emitted, Line.patch?]

theorem Remembers.push (remembers : Remembers start assembler entries) (line : Line) :
    Remembers start (assembler.push line) (entries ++ [(.line line, .added)]) where
  same := by
    rw [push_eq, remembers.same]
  code := by simp [push_eq, linesOf_concat, line?, remembers.code]
  patches := by
    rw [push_eq, remembers.position_eq]
    simp [linesOf_concat, line?, Line.patches_concat, remembers.patches]
  created label := by simpa [push_eq, Created] using remembers.created label
  stands label pc := by simpa [push_eq, standsFor_concat] using remembers.stands label pc

theorem Remembers.create (remembers : Remembers start assembler entries) :
    Remembers start assembler.label.2 (entries ++ [(.label, .created assembler.label.1)]) where
  same := remembers.same
  code := by simp [Assembler.label, linesOf_concat, line?, remembers.code]
  patches := by simp [Assembler.label, linesOf_concat, line?, remembers.patches]
  created label := by
    have earlier := remembers.created label
    have last : label = ⟨assembler.labels.size⟩ ↔ label.index = assembler.labels.size := by
      cases label
      simp
    simp only [Created] at earlier
    simp only [Assembler.label, Array.size_push, Created, List.mem_append, List.mem_singleton,
      Prod.mk.injEq, Answer.created.injEq, true_and, last, ← earlier]
    omega
  stands label pc := by
    have earlier := remembers.stands label pc
    simp only [Assembler.label, standsFor_concat, Array.getElem?_push, ← earlier]
    by_cases last : label.index = assembler.labels.size <;> simp [last]

theorem bind_eq (short : assembler.position < tableLimit) : assembler.bind label =
    if assembler.labels[label.index]? = some none then
      .ok { assembler with
        labels := assembler.labels.setIfInBounds label.index (some assembler.position) }
    else .error (.reboundLabel label assembler.unit.name) := by
  rw [Assembler.bind, if_pos short]
  split
  · next free => simp [free]
  · next taken => rw [if_neg taken]

theorem bind_eq_ok {after : Assembler} (bound : assembler.bind label = .ok after) :
    assembler.labels[label.index]? = some none ∧ after = { assembler with
      labels := assembler.labels.setIfInBounds label.index (some assembler.position) } := by
  unfold Assembler.bind at bound
  split at bound
  · split at bound
    · next free =>
        cases bound
        exact ⟨free, rfl⟩
    · cases bound
  · cases bound

/-- A label can be bound when it was created and no call has bound it. -/
theorem Remembers.free_iff (remembers : Remembers start assembler entries) :
    assembler.labels[label.index]? = some none ↔
      Created entries label ∧ ∀ pc, ¬ StandsFor entries label pc := by
  have created := remembers.created label
  have stands := remembers.stands label
  cases found : assembler.labels[label.index]? with
  | none =>
      have absent := Nat.not_lt.mpr (Array.getElem?_eq_none_iff.mp found)
      simp [← created, absent]
  | some place =>
      have within := (Array.getElem?_eq_some_iff.mp found).1
      rw [found] at stands
      cases place with
      | none => simp [← created, within, ← stands]
      | some pc => simp [← stands]

theorem Remembers.bind (remembers : Remembers start assembler entries)
    (free : assembler.labels[label.index]? = some none) :
    Remembers start { assembler with
      labels := assembler.labels.setIfInBounds label.index (some assembler.position) }
      (entries ++ [(.bind label, .bound)]) where
  same := remembers.same
  code := by simp [linesOf_concat, line?, remembers.code]
  patches := by simp [linesOf_concat, line?, remembers.patches]
  created other := by simpa [Created] using remembers.created other
  stands other pc := by
    have earlier := remembers.stands other pc
    have within := (Array.getElem?_eq_some_iff.mp free).1
    simp only [standsFor_concat, ← earlier, ← remembers.position_eq, Prod.mk.injEq,
      Call.bind.injEq, and_true]
    by_cases same : other = label
    · subst same
      have now : (assembler.labels.setIfInBounds other.index
          (some assembler.position))[other.index]? = some (some assembler.position) := by
        simp [within]
      simp [now, free, eq_comm]
    · have apart : label.index ≠ other.index := by
        intro equal
        cases label
        cases other
        simp_all
      simp [apart, Ne.symm same]

theorem Remembers.refuse {label : Label} {error : AssemblyError}
    (remembers : Remembers start assembler entries) :
    Remembers start assembler (entries ++ [(.bind label, .refused error)]) where
  same := remembers.same
  code := by simp [linesOf_concat, line?, remembers.code]
  patches := by simp [linesOf_concat, line?, remembers.patches]
  created other := by simpa [Created] using remembers.created other
  stands other pc := by simpa [standsFor_concat] using remembers.stands other pc

theorem Remembers.perform (remembers : Remembers start assembler entries) (call : Call) :
    Remembers start (assembler.perform call).2
      (entries ++ [(call, (assembler.perform call).1)]) := by
  cases call with
  | label => exact remembers.create
  | line line => exact remembers.push line
  | bind label =>
      rw [Assembler.perform]
      split
      · next after bound =>
          obtain ⟨free, rfl⟩ := bind_eq_ok bound
          exact remembers.bind free
      · exact remembers.refuse

/-! ## Patching -/

/-- The instruction for a line, with its targets. -/
def resolveLine (assembler : Assembler) : Line → Except AssemblyError Instruction
  | .plain instruction => .ok instruction
  | .jump target => do return .jump (← assembler.resolve target)
  | .branch condition whenTrue whenFalse => do
      return .branch condition (← assembler.resolve whenTrue) (← assembler.resolve whenFalse)
  | .pushCatch target dst => do return .pushCatch (← assembler.resolve target) dst

/-- The patch of a line finds the instruction that was emitted for it, and nothing else changes. -/
theorem patch_line (front rest : List Instruction) (line : Line) :
    (line.patch? front.length).toList.foldlM assembler.patch
        (front ++ line.emitted :: rest).toArray =
      (assembler.resolveLine line).map fun instruction => (front ++ instruction :: rest).toArray := by
  have stands (instruction : Instruction) :
      (front ++ instruction :: rest).toArray[front.length]? = some instruction := by simp
  have written (instruction target : Instruction) :
      (front ++ instruction :: rest).toArray.setIfInBounds front.length target =
        (front ++ target :: rest).toArray := by simp
  cases line with
  | plain instruction => rfl
  | jump target | pushCatch target dst =>
      simp only [Line.patch?, Line.emitted, Option.toList_some, List.foldlM_cons, List.foldlM_nil,
        patch, stands, written, resolveLine]
      cases assembler.resolve target <;> rfl
  | branch condition whenTrue whenFalse =>
      simp only [Line.patch?, Line.emitted, Option.toList_some, List.foldlM_cons, List.foldlM_nil,
        patch, stands, written, resolveLine]
      cases assembler.resolve whenTrue <;> cases assembler.resolve whenFalse <;> rfl

/-- To patch what was emitted is to resolve one line after the other. -/
theorem patch_lines (front : List Instruction) (lines : List Line) :
    (Line.patches front.length lines).foldlM assembler.patch
        (front ++ lines.map Line.emitted).toArray =
      (lines.mapM assembler.resolveLine).map fun code => (front ++ code).toArray := by
  induction lines generalizing front with
  | nil => simp [Line.patches, pure, Except.pure, Except.map]
  | cons line rest ih =>
      rw [Line.patches, List.foldlM_append, List.map_cons, patch_line, List.mapM_cons]
      cases assembler.resolveLine line with
      | error error => rfl
      | ok instruction =>
          have onward := ih (front ++ [instruction])
          rw [List.length_append, List.length_singleton, List.append_assoc,
            List.singleton_append] at onward
          refine onward.trans ?_
          cases rest.mapM assembler.resolveLine with
          | error error => rfl
          | ok code => exact congrArg Except.ok (congrArg List.toArray (List.append_assoc ..))

/-- The code of a finished unit is its lines resolved in order. -/
theorem Remembers.finish_eq (remembers : Remembers start assembler entries) :
    assembler.finish = do
      let code ← (linesOf entries).mapM assembler.resolveLine
      return { assembler.unit with code := code.toArray } := by
  have code : assembler.unit.code = ([] ++ (linesOf entries).map Line.emitted).toArray := by
    rw [List.nil_append, ← remembers.code]
  have patched := @patch_lines assembler [] (linesOf entries)
  rw [List.length_nil, ← code, ← remembers.patches] at patched
  rw [Assembler.finish, patched]
  cases (linesOf entries).mapM assembler.resolveLine <;> rfl

/-! ## Resolving -/

/-- References resolved one after the other: all have a place, or the first without one is
reported. -/
inductive Resolution {α : Type} (entries : List (Call × Answer)) (name : String)
    (references : List Label) (good : α → Prop) : Except AssemblyError α → Prop
  | whole {value : α} (placed : ∀ label ∈ references, ∃ pc, StandsFor entries label pc)
      (holds : good value) : Resolution entries name references good (.ok value)
  | broken {label : Label} (dangles : Dangles entries references label) :
      Resolution entries name references good (.error (.unboundLabel label name))

section

variable {α β : Type} {name : String} {references references' : List Label} {good : α → Prop}
  {good' : β → Prop} {result : Except AssemblyError α} {next : α → Except AssemblyError β}

theorem resolution_pure {value : α} (holds : good value) :
    Resolution entries name [] good (pure value) :=
  .whole (by simp) holds

theorem Resolution.bind (first : Resolution entries name references good result)
    (rest : ∀ value, good value → Resolution entries name references' good' (next value)) :
    Resolution entries name (references ++ references') good' (result >>= next) := by
  cases first with
  | broken dangles =>
      obtain ⟨before, after, same, placed, unplaced⟩ := dangles
      exact .broken ⟨before, after ++ references', by simp [same], placed, unplaced⟩
  | @whole value placed holds =>
      change Resolution entries name (references ++ references') good' (next value)
      have second := rest value holds
      generalize next value = outcome at second
      cases second with
      | whole placed' holds' =>
          apply Resolution.whole _ holds'
          intro label member
          cases List.mem_append.mp member with
          | inl earlier => exact placed label earlier
          | inr later => exact placed' label later
      | broken dangles =>
          obtain ⟨before, after, same, placed', unplaced⟩ := dangles
          refine .broken ⟨references ++ before, after, by simp [same], ?_, unplaced⟩
          intro label member
          cases List.mem_append.mp member with
          | inl earlier => exact placed label earlier
          | inr later => exact placed' label later

end

theorem Remembers.resolve (remembers : Remembers start assembler entries) (label : Label) :
    Resolution entries assembler.unit.name [label] (StandsFor entries label)
      (assembler.resolve label) := by
  have stands := remembers.stands label
  unfold Assembler.resolve
  split
  · next pc found =>
      have place := (stands pc).mp found
      exact .whole (by simpa using ⟨pc, place⟩) place
  · next missing =>
      refine .broken ⟨[], [], rfl, by simp, ?_⟩
      intro pc place
      exact missing pc ((stands pc).mpr place)

theorem Remembers.resolveLine (remembers : Remembers start assembler entries) (line : Line) :
    Resolution entries assembler.unit.name line.references (Resolves entries line)
      (assembler.resolveLine line) := by
  cases line with
  | plain instruction => exact resolution_pure (.plain instruction)
  | jump target =>
      exact (remembers.resolve target).bind fun pc stands => resolution_pure (.jump stands)
  | pushCatch target dst =>
      exact (remembers.resolve target).bind fun pc stands => resolution_pure (.pushCatch stands)
  | branch condition whenTrue whenFalse =>
      exact (remembers.resolve whenTrue).bind fun pc stands =>
        (remembers.resolve whenFalse).bind fun pc' stands' =>
          resolution_pure (.branch stands stands')

theorem Remembers.resolveLines (remembers : Remembers start assembler entries)
    (lines : List Line) :
    Resolution entries assembler.unit.name (lines.flatMap Line.references)
      (List.Forall₂ (Resolves entries) lines) (lines.mapM assembler.resolveLine) := by
  induction lines with
  | nil => exact resolution_pure .nil
  | cons line rest ih =>
      rw [List.mapM_cons, List.flatMap_cons, ← List.append_nil (rest.flatMap Line.references)]
      exact (remembers.resolveLine line).bind fun _ resolved =>
        ih.bind fun _ resolved' => resolution_pure (.cons resolved resolved')

/-- A unit with the parameters and registers that the assembler was begun with. -/
def Heads (start : Assembler) (unit : CodeUnit) : Prop :=
  unit = { start.unit with code := unit.code }

/-- The finished unit, or the first reference that dangles. -/
theorem Remembers.finish (remembers : Remembers start assembler entries) :
    Resolution entries start.unit.name (referencesOf entries)
      (fun unit => start.Heads unit ∧
        List.Forall₂ (Resolves entries) (linesOf entries) unit.code.toList)
      assembler.finish := by
  have same := remembers.same
  have named : assembler.unit.name = start.unit.name := by rw [same]
  have resolved := remembers.resolveLines (linesOf entries)
  rw [remembers.finish_eq, referencesOf, ← List.append_nil (List.flatMap _ _), ← named]
  apply resolved.bind
  intro code resolves
  refine resolution_pure ⟨?_, resolves⟩
  rw [Heads, same]

/-! ## Whole sequences of calls -/

theorem remembers_of_transcribed {name : String} {parameterCount registerCount : Nat}
    {parameters : List Shape}
    (transcribed : transcribe perform
      ((new name parameterCount registerCount).withParameters parameters) calls =
        (entries, assembler)) :
    Remembers ((new name parameterCount registerCount).withParameters parameters) assembler
      entries := by
  apply holds_of_transcribed (remembers_start rfl rfl rfl) ?_ transcribed
  intro entries assembler call remembers
  exact remembers.perform call

theorem StandsFor.le (stands : StandsFor entries label pc) : pc ≤ (linesOf entries).length := by
  obtain ⟨before, after, same, counted⟩ := stands
  simp [same, counted, linesOf]

/-- What binding a label answers and does. -/
structure Binds (assembler : Assembler) (entries : List (Call × Answer)) (label : Label) : Prop where
  bound_iff : (assembler.perform (.bind label)).1 = .bound ↔
    Created entries label ∧ ∀ pc, ¬ StandsFor entries label pc
  refused (unbound : (assembler.perform (.bind label)).1 ≠ .bound) :
    assembler.perform (.bind label) =
      (.refused (.reboundLabel label assembler.unit.name), assembler)

theorem Remembers.binds (remembers : Remembers start assembler entries)
    (short : (linesOf entries).length < tableLimit) : assembler.Binds entries label := by
  rw [← remembers.position_eq] at short
  have free_iff := @Remembers.free_iff _ _ _ label remembers
  by_cases free : assembler.labels[label.index]? = some none
  · have bound : (assembler.perform (.bind label)).1 = .bound := by
      simp [Assembler.perform, bind_eq short, free]
    exact ⟨iff_of_true bound (free_iff.mp free), fun unbound => absurd bound unbound⟩
  · have refused : assembler.perform (.bind label) =
        (.refused (.reboundLabel label assembler.unit.name), assembler) := by
      simp [Assembler.perform, bind_eq short, free]
    exact ⟨iff_of_false (by simp [refused]) (fun taken => free (free_iff.mpr taken)),
      fun _ => refused⟩

/-- A label is bound once, to the place of the next line; code is finished once every label that a
line refers to is bound, and each line keeps its position in it. -/
theorem assembled {name : String} {parameterCount registerCount : Nat} {parameters : List Shape}
    (transcribed : transcribe perform
      ((new name parameterCount registerCount).withParameters parameters) calls =
        (entries, assembler))
    (short : (linesOf entries).length < tableLimit) :
    (∀ label, assembler.Binds entries label) ∧
      (∀ label pc pc', StandsFor entries label pc → StandsFor entries label pc' → pc = pc') ∧
      ((∃ unit, assembler.finish = .ok unit) ↔
        ∀ label ∈ referencesOf entries, ∃ pc, StandsFor entries label pc) ∧
      (∀ unit, assembler.finish = .ok unit →
        Heads ((new name parameterCount registerCount).withParameters parameters) unit ∧
          List.Forall₂ (Resolves entries) (linesOf entries) unit.code.toList ∧
          ∀ label pc, StandsFor entries label pc → pc ≤ unit.code.size) ∧
      ∀ error, assembler.finish = .error error → ∃ label, error = .unboundLabel label name ∧
        Dangles entries (referencesOf entries) label := by
  have remembers := remembers_of_transcribed transcribed
  have unique (label : Label) (pc pc' : Nat) (stands : StandsFor entries label pc)
      (stands' : StandsFor entries label pc') : pc = pc' := by
    have found := (remembers.stands label pc).mpr stands
    have found' := (remembers.stands label pc').mpr stands'
    simpa using found.symm.trans found'
  refine ⟨fun label => remembers.binds short, unique, ?_⟩
  have finished := remembers.finish
  generalize assembler.finish = result at finished
  cases finished with
  | @whole unit placed holds =>
      refine ⟨iff_of_true ⟨unit, rfl⟩ placed, ?_, by simp⟩
      intro unit' same
      cases same
      refine ⟨holds.1, holds.2, fun label pc stands => ?_⟩
      rw [← Array.length_toList, ← holds.2.length_eq]
      exact stands.le
  | @broken label dangles =>
      refine ⟨?_, by simp, ?_⟩
      · obtain ⟨before, after, same, -, unplaced⟩ := dangles
        apply iff_of_false (by simp)
        intro placed
        obtain ⟨pc, stands⟩ := placed label (by simp [same])
        exact unplaced pc stands
      · intro error same
        cases same
        exact ⟨label, rfl, dangles⟩

/-- Refers to labels before and after they are bound, and jumps once without a label. -/
def loopingCalls : List Call :=
  [.label, .label, .bind ⟨0⟩, .line (.branch 0 ⟨1⟩ ⟨0⟩), .line (.plain (.jump 9)), .bind ⟨0⟩,
    .line (.jump ⟨0⟩), .bind ⟨1⟩, .line (.plain (.return 0)), .line (.jump ⟨2⟩)]

/-- What the calls make of a new assembler. -/
def assembledBy (calls : List Call) : List (Call × Answer) × Assembler :=
  transcribe perform ((new "loop" 0 1).withParameters []) calls

theorem assembled_looping :
    (assembledBy loopingCalls).1.map Prod.snd =
        [.created ⟨0⟩, .created ⟨1⟩, .bound, .added, .added, .refused (.reboundLabel ⟨0⟩ "loop"),
          .added, .bound, .added, .added] ∧
      (∃ label, (assembledBy loopingCalls).2.finish = .error (.unboundLabel label "loop") ∧
        Dangles (assembledBy loopingCalls).1 (referencesOf (assembledBy loopingCalls).1) label) ∧
      ∃ unit, (assembledBy (loopingCalls ++ [.label, .bind ⟨2⟩])).2.finish = .ok unit ∧
        unit.code = #[.branch 0 3 0, .jump 9, .jump 0, .return 0, .jump 5] := by
  have transcribed (calls : List Call) : transcribe perform ((new "loop" 0 1).withParameters [])
      calls = ((assembledBy calls).1, (assembledBy calls).2) := rfl
  obtain ⟨-, -, -, -, dangling⟩ := assembled (transcribed loopingCalls) (by decide +kernel)
  obtain ⟨label, same, dangles⟩ := dangling _ rfl
  exact ⟨by decide +kernel, ⟨label, congrArg Except.error same, dangles⟩, _, rfl, by decide +kernel⟩

end Assembler

end Backtrack
