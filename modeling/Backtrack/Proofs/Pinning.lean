import Backtrack.Proofs.Bounded
import Backtrack.Proofs.Overloads

/-!
Shapes that spell values out. A value without coroutines has a shape that only values of the same
structure have: its literal, or its constructor with the shapes of its fields. A function whose
parameters have such shapes takes one list of arguments and no other. A coroutine is told from other
sorts of values by its shape, but not from other coroutines.
-/

namespace Backtrack

namespace Shape

variable {value : Value} {values : List Value} {shapes : List Shape}

theorem matches_literal_iff {literal : Literal} :
    (Shape.literal literal).Matches value ↔ value = .ofLiteral literal := by
  constructor
  · intro holds
    cases holds
    rfl
  · rintro rfl
    exact .literal

theorem matches_constructed_iff {ctor : ConstructorId} :
    (Shape.constructed ctor shapes).Matches value ↔
      ∃ home fields, value = .node home ctor fields ∧ List.Forall₂ Matches shapes fields := by
  constructor
  · intro holds
    cases holds with
    | constructed each => exact ⟨_, _, rfl, each⟩
  · rintro ⟨home, fields, rfl, each⟩
    exact .constructed each

end Shape

namespace Value

mutual

/-- The shape that spells a value out as far as shapes can. -/
def exactShape : Value → Shape
  | .unit => .literal .unit
  | .bool b => .literal (.bool b)
  | .int n => .literal (.int n)
  | .str text => .literal (.str text)
  | .function id => .literal (.function id)
  | .coroutine _ => .coroutine
  | .node _ ctor fields => .constructed ctor (exactShapes fields)

def exactShapes : List Value → List Shape
  | [] => []
  | value :: rest => value.exactShape :: exactShapes rest

end

variable {values : List Value}

theorem exactShapes_eq_map : exactShapes values = values.map exactShape := by
  induction values with
  | nil => rfl
  | cons value rest ih => rw [exactShapes, ih, List.map_cons]

/-- A literal has no nodes that could be kept elsewhere. -/
theorem matches_literal_iff_same (literal : Literal) (found : Value) :
    (Shape.literal literal).Matches found ↔ found.same (ofLiteral literal) = true := by
  rw [Shape.matches_literal_iff]
  cases found <;> cases literal <;> simp [ofLiteral, same]

mutual

/-- Fields differ from the spelled-out ones in their number, or one of them differs. -/
theorem matches_exactShape : (value found : Value) → value.Bounded 0 →
    (value.exactShape.Matches found ↔ found.same value = true)
  | .unit, found, _ => matches_literal_iff_same .unit found
  | .bool b, found, _ => matches_literal_iff_same (.bool b) found
  | .int n, found, _ => matches_literal_iff_same (.int n) found
  | .str text, found, _ => matches_literal_iff_same (.str text) found
  | .function id, found, _ => matches_literal_iff_same (.function id) found
  | .coroutine _, _, closed => by
      cases closed with
      | coroutine known => exact absurd known (Nat.not_lt_zero _)
  | .node home ctor fields, found, closed => by
      have inner := bounded_node_iff.mp closed
      rw [exactShape, Shape.matches_constructed_iff]
      constructor
      · rintro ⟨home', fields', rfl, each⟩
        rw [same, (forall₂_exactShapes fields fields' inner).mp each, decide_eq_true rfl,
          Bool.and_self]
      · intro alike
        cases found with
        | node home' ctor' fields' =>
            obtain ⟨rfl, each⟩ : ctor' = ctor ∧ allSame fields' fields = true := by
              simpa [same] using alike
            exact ⟨home', fields', rfl, (forall₂_exactShapes fields fields' inner).mpr each⟩
        | _ => cases alike

theorem forall₂_exactShapes : (values found : List Value) → (∀ value ∈ values, value.Bounded 0) →
    (List.Forall₂ Shape.Matches (exactShapes values) found ↔ allSame found values = true)
  | [], [], _ => by simp [exactShapes, allSame]
  | [], _ :: _, _ | _ :: _, [], _ => by simp [exactShapes, allSame]
  | value :: values, first :: others, closed => by
      obtain ⟨closed, rest⟩ := List.forall_mem_cons.mp closed
      rw [exactShapes, List.forall₂_cons, matches_exactShape value first closed,
        forall₂_exactShapes values others rest, allSame, Bool.and_eq_true]

end

theorem length_eq_of_allSame : (vs ws : List Value) → allSame vs ws = true → vs.length = ws.length
  | [], [], _ => rfl
  | _ :: vs, _ :: ws, alike =>
      congrArg (· + 1) (length_eq_of_allSame vs ws (Bool.and_eq_true_iff.mp alike).2)

/-- The shape of a value without coroutines accepts the values of its structure alone, and parameters
of such shapes accept one list of arguments alone. -/
theorem exactShape_pins :
    (∀ value found : Value, value.Bounded 0 →
        (value.exactShape.accepts found = true ↔ found.same value = true)) ∧
      ∀ (unit : CodeUnit) (values args : List Value), (∀ value ∈ values, value.Bounded 0) →
        unit.parameters = values.map exactShape → unit.parameterCount = values.length →
        (unit.accepts args = true ↔ allSame args values = true) := by
  refine ⟨fun value found closed => ?_, fun unit values args closed shapes arity => ?_⟩
  · rw [Shape.accepts_iff, matches_exactShape value found closed]
  · rw [← exactShapes_eq_map] at shapes
    rw [CodeUnit.accepts, Bool.and_eq_true, Shape.acceptsAll_iff, shapes,
      forall₂_exactShapes values args closed, decide_eq_true_eq, arity]
    exact and_iff_right_of_imp fun alike => (length_eq_of_allSame args values alike).symm

/-- Asks for a node with a node among its fields, and for a function. -/
def pinningUnit : CodeUnit :=
  { name := "pinned", registerCount := 2, parameterCount := 2
    parameters := [
      .constructed ⟨0⟩ [.constructed ⟨1⟩ [.literal (.str "leaf")], .literal (.int 3)],
      .literal (.function ⟨2⟩)]
    code := #[.return 0] }

theorem exactShape_pins_nested :
    pinningUnit.accepts [.node (.table 5) ⟨0⟩ [.node (.host 4) ⟨1⟩ [.str "leaf"], .int 3],
        .function ⟨2⟩] = true ∧
      pinningUnit.accepts [.node (.host 0) ⟨0⟩ [.node (.host 1) ⟨1⟩ [], .int 3], .function ⟨2⟩] =
        false ∧
      pinningUnit.accepts [.node (.host 0) ⟨0⟩ [.node (.host 1) ⟨1⟩ [.str "leaf"], .int 3]] =
        false := by
  have closed (value : Value) (member : value ∈ [.node (.host 0) ⟨0⟩
      [.node (.host 1) ⟨1⟩ [.str "leaf"], .int 3], .function ⟨2⟩]) : value.Bounded 0 := by
    rcases List.mem_pair.mp member with rfl | rfl
    · refine .node fun field member => ?_
      rcases List.mem_pair.mp member with rfl | rfl
      · exact .node fun leaf member => List.mem_singleton.mp member ▸ .str "leaf"
      · exact .int 3
    · exact .function ⟨2⟩
  have pins (args : List Value) := exactShape_pins.2 pinningUnit _ args closed rfl rfl
  refine ⟨(pins _).mpr rfl, ?_, ?_⟩
  · exact Bool.eq_false_iff.mpr fun accepted => absurd ((pins _).mp accepted) (by decide)
  · exact Bool.eq_false_iff.mpr fun accepted => absurd ((pins _).mp accepted) (by decide)

end Value

end Backtrack
