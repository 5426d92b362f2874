import Reconciler.Persist.Document

/-!
# Printing JSON

The JSON text of a document, without white space and on one line.

## The model

Of the characters of a text only the quote, the backslash and those below the blank are escaped. A
double is printed with its shortest digits.
-/

namespace Reconciler.Json

/-- A digit in base sixteen. -/
def hexDigit (n : Nat) : Char := Nat.digitChar (n % 16)

/-- A character as it stands in a text. -/
def escapedChar (c : Char) : List Char :=
  if c = '\x22' then ['\x5c', '\x22']
  else if c = '\x5c' then ['\x5c', '\x5c']
  else if c.toNat < 32 then
    ['\x5c', 'u', '0', '0', hexDigit (c.toNat / 16), hexDigit c.toNat]
  else [c]

/-- A text in quotes. -/
def textOf (s : String) : String :=
  "\"" ++ String.ofList (s.toList.flatMap escapedChar) ++ "\""

mutual

/-- The text of a document. -/
def print : Document → String
  | .null => "null"
  | .boolean b => toString b
  | .integer i => toString i
  | .real x => Decimal.text x
  | .text s => textOf s
  | .list items => "[" ++ ",".intercalate (printItems items) ++ "]"
  | .record fields => "\x7b" ++ ",".intercalate (printFields fields) ++ "\x7d"

/-- The texts of the items of a list. -/
def printItems : List Document → List String
  | [] => []
  | d :: ds => print d :: printItems ds

/-- The texts of the fields of a record. -/
def printFields : List (String × Document) → List String
  | [] => []
  | (name, d) :: fields => (textOf name ++ ":" ++ print d) :: printFields fields

end

end Reconciler.Json
