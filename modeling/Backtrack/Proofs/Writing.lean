import Backtrack.Value.Display
import Backtrack.Value.Same
import Mathlib.Data.List.Basic

/-!
Written forms are unambiguous: values that are written alike are equal. A numeral ends where its
digits end, a quoted text at the first quote that no backslash announces, and a list of fields at
the parenthesis after its last field, so a written value can be told from whatever follows it.
-/

namespace Backtrack

namespace Text

variable {c d : Char} {text other rest rest' : List Char} {m n : Nat}

/-- Where the characters of a class end, the text before splits off. -/
theorem append_inj_of_class {p : Char → Bool} (every : ∀ c ∈ text, p c = true)
    (every' : ∀ c ∈ other, p c = true) (ends : ∀ c ∈ rest.head?, p c = false)
    (ends' : ∀ c ∈ rest'.head?, p c = false) (same : text ++ rest = other ++ rest') :
    text = other ∧ rest = rest' := by
  have stops {rest : List Char} (ends : ∀ c ∈ rest.head?, p c = false) : rest.takeWhile p = [] := by
    cases rest with
    | nil => rfl
    | cons c rest => exact List.takeWhile_cons_of_neg (by simp [ends c rfl])
  have front := congrArg (List.takeWhile p) same
  rw [List.takeWhile_append_of_pos every, List.takeWhile_append_of_pos every', stops ends,
    stops ends', List.append_nil, List.append_nil] at front
  subst front
  exact ⟨rfl, List.append_cancel_left same⟩

/-! Numerals -/

theorem digitChar_inj : ∀ {d : Nat}, d < 16 → ∀ {e : Nat}, e < 16 →
    Nat.digitChar d = Nat.digitChar e → d = e := by
  decide

theorem digitChar_open : ∀ d < 16, (Nat.digitChar d != '\x7d') = true := by
  decide

theorem toDigits_inj {base : Nat} (above : 1 < base) (below : base ≤ 16)
    (same : Nat.toDigits base m = Nat.toDigits base n) : m = n := by
  have last {k : Nat} : k % base < 16 :=
    Nat.lt_of_lt_of_le (Nat.mod_lt k (Nat.zero_lt_of_lt above)) below
  induction m using Nat.strongRecOn generalizing n with
  | _ m ih =>
      rw [Nat.toDigits_eq_if above, Nat.toDigits_eq_if (n := n) above] at same
      have nonempty {k : Nat} : Nat.toDigits base k ≠ [] := Nat.toDigits_ne_nil
      split at same <;> split at same
      · next low low' =>
          exact digitChar_inj (by omega) (by omega) (List.cons.inj same).1
      · have padded : [] ++ [_] = _ ++ [_] := same
        exact absurd (List.append_inj' padded rfl).1.symm nonempty
      · have padded : _ ++ [_] = [] ++ [_] := same
        exact absurd (List.append_inj' padded rfl).1 nonempty
      · next high high' =>
          obtain ⟨front, back⟩ := List.append_inj' same rfl
          have quotient : m / base = n / base :=
            ih (m / base) (Nat.div_lt_self (by omega) above) front
          have remainder : m % base = n % base := digitChar_inj last last (List.cons.inj back).1
          rw [← Nat.div_add_mod m base, quotient, remainder, Nat.div_add_mod]

theorem digit_of_mem_toDigits {base : Nat} (above : 1 < base) (member : c ∈ Nat.toDigits base n) :
    ∃ digit < base, c = Nat.digitChar digit := by
  induction n using Nat.strongRecOn with
  | _ n ih =>
      rw [Nat.toDigits_eq_if above] at member
      split at member
      · next low => exact ⟨n, low, List.mem_singleton.mp member⟩
      · rcases List.mem_append.mp member with front | back
        · exact ih (n / base) (Nat.div_lt_self (by omega) above) front
        · exact ⟨n % base, Nat.mod_lt n (by omega), List.mem_singleton.mp back⟩

/-- A text that does not go on a numeral before it. -/
def Apart (rest : List Char) : Prop :=
  ∀ c ∈ rest.head?, c.isDigit = false

theorem apart_nil : Apart [] :=
  nofun

theorem toList_toString : (toString n).toList = Nat.toDigits 10 n := by
  rw [Nat.toString_eq_ofList_toDigits, String.toList_ofList]

theorem numeral_inj (apart : Apart rest) (apart' : Apart rest')
    (same : (toString m).toList ++ rest = (toString n).toList ++ rest') : m = n ∧ rest = rest' := by
  rw [toList_toString, toList_toString] at same
  have digits {k : Nat} : ∀ c ∈ Nat.toDigits 10 k, c.isDigit = true :=
    fun c member => Nat.isDigit_of_mem_toDigits (by decide) (by decide) member
  obtain ⟨front, back⟩ := append_inj_of_class digits digits apart apart' same
  exact ⟨toDigits_inj (by decide) (by decide) front, back⟩

theorem toList_toString_int (z : Int) :
    (toString z).toList =
      if 0 ≤ z then (toString z.toNat).toList else '-' :: (toString (-z).toNat).toList := by
  rw [Int.toString_eq_repr, Int.repr_eq_if]
  split
  · rfl
  · rw [String.toList_append]
    rfl

/-- A numeral begins with a digit. -/
theorem exists_numeral (n : Nat) :
    ∃ digit digits, (toString n).toList = digit :: digits ∧ digit.isDigit = true := by
  cases shown : (toString n).toList with
  | nil => exact absurd (toList_toString.symm.trans shown) Nat.toDigits_ne_nil
  | cons digit digits =>
      refine ⟨digit, digits, rfl, Nat.isDigit_of_mem_toDigits (b := 10) (n := n) ?_ ?_ ?_⟩
      · decide
      · decide
      · rw [← toList_toString, shown]
        exact List.mem_cons_self

theorem signed_inj {y z : Int} (apart : Apart rest) (apart' : Apart rest')
    (same : (toString y).toList ++ rest = (toString z).toList ++ rest') : y = z ∧ rest = rest' := by
  have unsigned (n : Nat) (tail tail' : List Char) : (toString n).toList ++ tail ≠ '-' :: tail' := by
    obtain ⟨digit, digits, shown, isDigit⟩ := exists_numeral n
    rw [shown]
    intro same
    cases (List.cons.inj same).1
    cases isDigit
  rw [toList_toString_int, toList_toString_int] at same
  split at same <;> split at same
  · obtain ⟨magnitude, back⟩ := numeral_inj apart apart' same
    exact ⟨by omega, back⟩
  · exact absurd same (unsigned _ _ _)
  · exact absurd same.symm (unsigned _ _ _)
  · obtain ⟨magnitude, back⟩ := numeral_inj apart apart' (List.cons.inj same).2
    exact ⟨by omega, back⟩

/-! Quoted text -/

/-- The characters that are written as a backslash and a mark. -/
def marks : List (Char × Char) :=
  [('\x00', '0'), ('\t', 't'), ('\r', 'r'), ('\n', 'n'), ('"', '"'), ('\\', '\\')]

/-- How a character is written. -/
inductive Escaped (c : Char) : List Char → Prop
  | marked {mark : Char} (listed : (c, mark) ∈ marks) : Escaped c ['\\', mark]
  | shown (noQuote : c ≠ '"') (noBackslash : c ≠ '\\') : Escaped c [c]
  | numbered : Escaped c (codePoint c)

theorem escaped (c : Char) : Escaped c (escape c) := by
  unfold escape
  split_ifs with nul tab cr lf quote backslash
  · exact .marked (by simp [marks, nul])
  · exact .marked (by simp [marks, tab])
  · exact .marked (by simp [marks, cr])
  · exact .marked (by simp [marks, lf])
  · exact .marked (by simp [marks, quote])
  · exact .marked (by simp [marks, backslash])
  · exact .shown quote backslash
  · exact .numbered

theorem marks_inj : ∀ entry ∈ marks, ∀ entry' ∈ marks, entry.2 = entry'.2 → entry.1 = entry'.1 := by
  decide

theorem marks_unnumbered : ∀ entry ∈ marks, entry.2 ≠ 'u' := by
  decide

theorem codePoint_inj (same : codePoint c ++ rest = codePoint d ++ rest') :
    c = d ∧ rest = rest' := by
  have inner {c : Char} : ∀ x ∈ Nat.toDigits 16 c.toNat, (x != '\x7d') = true := by
    intro x member
    obtain ⟨digit, low, rfl⟩ := digit_of_mem_toDigits (by decide) member
    exact digitChar_open digit low
  have closing {rest : List Char} : ∀ x ∈ ('\x7d' :: rest).head?, (x != '\x7d') = false := by
    rintro x ⟨⟩
    rfl
  simp only [codePoint, List.cons_append, List.append_assoc, List.nil_append, List.cons.injEq,
    true_and] at same
  obtain ⟨front, back⟩ := append_inj_of_class inner inner closing closing same
  exact ⟨Char.toNat_inj.mp (toDigits_inj (by decide) (by decide) front), (List.cons.inj back).2⟩

/-- No character is written as the beginning of another. -/
theorem escape_inj (same : escape c ++ rest = escape d ++ rest') : c = d ∧ rest = rest' := by
  have first := escaped c
  have second := escaped d
  generalize escape c = written at first same
  generalize escape d = written' at second same
  cases first with
  | @marked mark listed =>
      cases second with
      | @marked mark' listed' =>
          simp only [List.cons_append, List.nil_append, List.cons.injEq, true_and] at same
          exact ⟨marks_inj _ listed _ listed' same.1, same.2⟩
      | shown noQuote noBackslash => exact absurd (List.cons.inj same).1.symm noBackslash
      | numbered =>
          simp only [codePoint, List.cons_append, List.nil_append, List.cons.injEq, true_and] at same
          exact absurd same.1 (marks_unnumbered _ listed)
  | shown noQuote noBackslash =>
      cases second with
      | marked => exact absurd (List.cons.inj same).1 noBackslash
      | shown => exact ⟨(List.cons.inj same).1, (List.cons.inj same).2⟩
      | numbered => exact absurd (List.cons.inj same).1 noBackslash
  | numbered =>
      cases second with
      | @marked mark' listed' =>
          simp only [codePoint, List.cons_append, List.nil_append, List.cons.injEq, true_and] at same
          exact absurd same.1.symm (marks_unnumbered _ listed')
      | shown noQuote noBackslash => exact absurd (List.cons.inj same).1.symm noBackslash
      | numbered => exact codePoint_inj same

/-- The quote that ends a text is not a part of it. -/
theorem escape_unquoted : escape c ++ rest ≠ '"' :: rest' := by
  have form := escaped c
  generalize escape c = written at form
  intro same
  cases form with
  | marked | numbered => cases (List.cons.inj same).1
  | shown noQuote => exact noQuote (List.cons.inj same).1

theorem escapes_inj
    (same : text.flatMap escape ++ '"' :: rest = other.flatMap escape ++ '"' :: rest') :
    text = other ∧ rest = rest' := by
  induction text generalizing other with
  | nil =>
      cases other with
      | nil => exact ⟨rfl, (List.cons.inj same).2⟩
      | cons d other =>
          rw [List.flatMap_cons, List.append_assoc] at same
          exact absurd same.symm escape_unquoted
  | cons c text ih =>
      cases other with
      | nil =>
          rw [List.flatMap_cons, List.append_assoc] at same
          exact absurd same escape_unquoted
      | cons d other =>
          rw [List.flatMap_cons, List.flatMap_cons, List.append_assoc, List.append_assoc] at same
          obtain ⟨rfl, tail⟩ := escape_inj same
          obtain ⟨rfl, back⟩ := ih tail
          exact ⟨rfl, back⟩

theorem quoted_inj (same : quoted text ++ rest = quoted other ++ rest') :
    text = other ∧ rest = rest' := by
  simp only [quoted, List.cons_append, List.append_assoc, List.nil_append, List.cons.injEq,
    true_and] at same
  exact escapes_inj same

end Text

namespace Value

open Text

variable {rest rest' : List Char}

/-- The sort of the value that a text begins with. -/
def kindWritten : List Char → Option ValueKind
  | '(' :: _ => some .unit
  | 't' :: _ | 'f' :: 'a' :: _ => some .bool
  | '"' :: _ => some .string
  | '#' :: _ => some .node
  | 'f' :: 'n' :: _ => some .function
  | 'c' :: _ => some .coroutine
  | ')' :: _ => none
  | _ => some .int

theorem kindWritten_digit {digit : Char} (isDigit : digit.isDigit = true) :
    kindWritten (digit :: rest) = some .int := by
  unfold kindWritten
  split <;> simp_all

theorem kindWritten_chars (value : Value) : kindWritten (value.chars ++ rest) = some value.kind := by
  cases value with
  | unit | str | node | function | coroutine => rfl
  | bool b => cases b <;> rfl
  | int n =>
      rw [chars, toList_toString_int]
      split
      · obtain ⟨digit, digits, shown, isDigit⟩ := exists_numeral n.toInt.toNat
        rw [shown]
        exact kindWritten_digit isDigit
      · rfl

/-- What stands behind a field: the next fields, if there are any, and the end of the list. -/
def behindField (fields : List Value) (rest : List Char) : List Char :=
  match fields with
  | [] => ')' :: rest
  | _ => ',' :: ' ' :: (fieldChars fields ++ ')' :: rest)

theorem fieldChars_cons (field : Value) (fields : List Value) :
    fieldChars (field :: fields) ++ ')' :: rest = field.chars ++ behindField fields rest := by
  cases fields with
  | nil => rfl
  | cons next fields => simp [fieldChars, behindField]

theorem apart_behindField (fields : List Value) : Apart (behindField fields rest) := by
  cases fields <;> rintro c ⟨⟩ <;> rfl

mutual

/-- A written value ends where it can be told to end, so equal texts begin with values of the same
structure. -/
theorem chars_inj (value value' : Value) {rest rest' : List Char} (apart : Apart rest)
    (apart' : Apart rest') (written : value.chars ++ rest = value'.chars ++ rest') :
    value.same value' = true ∧ rest = rest' := by
  have kinds : some value.kind = some value'.kind := by
    rw [← kindWritten_chars value, written, kindWritten_chars]
  match value, value' with
  | .unit, .unit => exact ⟨rfl, List.append_cancel_left written⟩
  | .bool b, .bool b' =>
      cases b <;> cases b'
      · exact ⟨rfl, List.append_cancel_left written⟩
      · cases (List.cons.inj written).1
      · cases (List.cons.inj written).1
      · exact ⟨rfl, List.append_cancel_left written⟩
  | .int n, .int n' =>
      obtain ⟨number, back⟩ := signed_inj apart apart' written
      exact ⟨decide_eq_true (Int64.toInt_inj.mp number), back⟩
  | .str text, .str text' =>
      obtain ⟨content, back⟩ := quoted_inj written
      exact ⟨decide_eq_true (String.toList_inj.mp content), back⟩
  | .node _ ⟨m⟩ fields, .node _ ⟨n⟩ fields' =>
      simp only [chars, List.cons_append, List.append_assoc, List.nil_append, List.cons.injEq,
        true_and] at written
      have opens (rest : List Char) : Apart ('(' :: rest) := by
        rintro c ⟨⟩
        rfl
      obtain ⟨rfl, inner⟩ := numeral_inj (opens _) (opens _) written
      obtain ⟨alike, back⟩ := fieldChars_inj fields fields' (List.cons.inj inner).2
      exact ⟨by rw [Value.same, alike, decide_eq_true rfl, Bool.and_self], back⟩
  | .function ⟨m⟩, .function ⟨n⟩ =>
      simp only [chars, List.append_assoc] at written
      obtain ⟨rfl, back⟩ := numeral_inj apart apart' (List.append_cancel_left written)
      exact ⟨decide_eq_true rfl, back⟩
  | .coroutine ⟨m⟩, .coroutine ⟨n⟩ =>
      simp only [chars, List.append_assoc] at written
      obtain ⟨rfl, back⟩ := numeral_inj apart apart' (List.append_cancel_left written)
      exact ⟨decide_eq_true rfl, back⟩

theorem fieldChars_inj (fields fields' : List Value) {rest rest' : List Char}
    (written : fieldChars fields ++ ')' :: rest = fieldChars fields' ++ ')' :: rest') :
    allSame fields fields' = true ∧ rest = rest' := by
  match fields, fields' with
  | [], [] => exact ⟨rfl, (List.cons.inj written).2⟩
  | [], field :: more =>
      rw [fieldChars_cons] at written
      cases (congrArg kindWritten written).trans (kindWritten_chars field)
  | field :: more, [] =>
      rw [fieldChars_cons] at written
      cases (congrArg kindWritten written.symm).trans (kindWritten_chars field)
  | field :: more, field' :: more' =>
      rw [fieldChars_cons, fieldChars_cons] at written
      obtain ⟨alike, behind⟩ :=
        chars_inj field field' (apart_behindField more) (apart_behindField more') written
      rw [allSame, alike, Bool.true_and]
      match more, more' with
      | [], [] => exact ⟨rfl, (List.cons.inj behind).2⟩
      | [], _ :: _ | _ :: _, [] => cases (List.cons.inj behind).1
      | next :: last, next' :: last' =>
          exact fieldChars_inj (next :: last) (next' :: last')
            (List.cons.inj (List.cons.inj behind).2).2

end

mutual

theorem chars_bare : (value : Value) → value.bare.chars = value.chars
  | .node _ ctor fields => by rw [bare, chars, chars, fieldChars_bares fields]
  | .unit | .bool _ | .int _ | .str _ | .function _ | .coroutine _ => rfl

theorem fieldChars_bares : (fields : List Value) → fieldChars (bares fields) = fieldChars fields
  | [] => rfl
  | [field] => by rw [bares, bares, fieldChars, fieldChars, chars_bare field]
  | field :: next :: rest => by
      change field.bare.chars ++ ',' :: ' ' :: fieldChars (bares (next :: rest)) = _
      rw [chars_bare field, fieldChars_bares (next :: rest)]
      rfl

end

/-- Two values have the same written form exactly when they have the same structure. -/
theorem text_unambiguous (value value' : Value) :
    value.text = value'.text ↔ value.same value' = true := by
  constructor
  · intro written
    have alike : value.chars ++ [] = value'.chars ++ [] := by
      rw [List.append_nil, List.append_nil]
      exact String.ofList_injective written
    exact (chars_inj value value' apart_nil apart_nil alike).1
  · intro alike
    rw [text, text, ← chars_bare value, (same_iff value value').mp alike, chars_bare]

end Value

end Backtrack
