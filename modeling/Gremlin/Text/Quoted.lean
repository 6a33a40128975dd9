import Gremlin.Text.Marks
import Gremlin.Text.Unprintable

set_option autoImplicit false

/-! Quoted text, as messages and event lines show it. -/

namespace Gremlin.Text

def isPrintable (c : Char) : Bool :=
  if c.toNat < 127 then 32 ≤ c.toNat else !unprintables.has c && !extenders.has c

def hexDigits (n : Nat) : List Char := Nat.toDigits 16 n

/-- One character inside quotes: a quote or backslash is escaped, four controls have a letter of
their own, and what has no glyph is written by its code point. -/
def escape (c : Char) : List Char :=
  if c = '"' then ['\\', '"']
  else if c = '\\' then ['\\', '\\']
  else if c = '\t' then ['\\', 't']
  else if c = '\n' then ['\\', 'n']
  else if c = '\r' then ['\\', 'r']
  else if c.toNat = 0 then ['\\', '0']
  else if isPrintable c then [c]
  else ['\\', 'u', '\x7b'] ++ hexDigits c.toNat ++ ['\x7d']

def quoted (s : String) : String :=
  String.ofList ('"' :: (s.toList.flatMap escape ++ ['"']))

end Gremlin.Text
