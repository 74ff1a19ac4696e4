import Backtrack.Text.Quoted
import Backtrack.Value.Basic

/-!
The written form of a value: literals as in source text, handles by number, and a node as its
constructor's number before the parenthesised fields.
-/

namespace Backtrack.Value

mutual

def chars : Value → List Char
  | .unit => ['(', ')']
  | .bool b => (toString b).toList
  | .int n => (toString n.toInt).toList
  | .str text => Text.quoted text.toList
  | .node _ ctor fields => '#' :: (toString ctor.index).toList ++ '(' :: fieldChars fields ++ [')']
  | .function id => "fn#".toList ++ (toString id.index).toList
  | .coroutine id => "co#".toList ++ (toString id.index).toList

/-- Fields are separated by a comma and a space. -/
def fieldChars : List Value → List Char
  | [] => []
  | [field] => field.chars
  | field :: rest => field.chars ++ ',' :: ' ' :: fieldChars rest

end

def text (value : Value) : String :=
  String.ofList value.chars

end Backtrack.Value
