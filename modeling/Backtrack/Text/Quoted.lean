import Backtrack.Text.Printable

/-!
Quoted text: double quotes around the characters, a backslash before what would end the text or
cannot be seen, and everything else as itself.
-/

namespace Backtrack.Text

/-- A code point by its number, in lower-case hexadecimal without leading zeros. -/
def codePoint (c : Char) : List Char :=
  '\\' :: 'u' :: '\x7b' :: Nat.toDigits 16 c.toNat ++ ['\x7d']

def escape (c : Char) : List Char :=
  if c = '\x00' then ['\\', '0']
  else if c = '\t' then ['\\', 't']
  else if c = '\r' then ['\\', 'r']
  else if c = '\n' then ['\\', 'n']
  else if c = '"' then ['\\', '"']
  else if c = '\\' then ['\\', '\\']
  else if isPrintable c then [c]
  else codePoint c

def quoted (text : List Char) : List Char :=
  '"' :: text.flatMap escape ++ ['"']

end Backtrack.Text
