import Reconciler.Text.Printed

/-!
# Quoted text in messages

A text in a message stands in double quotes. A quote and a backslash in it get a backslash, the
commonest control characters their letter, and other characters that do not print their number in
hexadecimal digits.
-/

namespace Reconciler

/-- A character as it stands in a quoted text. -/
def quotedChar (c : Char) : List Char :=
  if c = '\x22' then ['\x5c', '\x22']
  else if c = '\x5c' then ['\x5c', '\x5c']
  else if c = '\n' then ['\x5c', 'n']
  else if c = '\r' then ['\x5c', 'r']
  else if c = '\t' then ['\x5c', 't']
  else if c.toNat = 0 then ['\x5c', '0']
  else if isPrinted c then [c]
  else ['\x5c', 'u', '\x7b'] ++ Nat.toDigits 16 c.toNat ++ ['\x7d']

/-- A text in double quotes. -/
def quoted (s : String) : String :=
  "\"" ++ String.ofList (s.toList.flatMap quotedChar) ++ "\""

end Reconciler
