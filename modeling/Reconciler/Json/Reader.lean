import Reconciler.Ids.Map
import Reconciler.Json.Number

/-!
# Reading JSON

A total reader of the JSON text of documents.

## The model

Each reader takes a list of characters and answers what it read and the rest, or nothing when the
text is not JSON. Texts are read by structural recursion; the readers of lists and records carry a
bound on their steps, which a text cannot exceed when the bound is twice its length. A record is in
ascending order of its names, and of fields with one name the last counts.
-/

namespace Reconciler.Json

/-- A reader answers what it read and the rest of the characters. -/
abbrev Reader (α : Type) := List Char → Option (α × List Char)

/-- White space between the parts of a text. -/
def isSpace (c : Char) : Bool := c = ' ' || c = '\t' || c = '\n' || c = '\r'

/-- Passes over white space. -/
def skipSpace (cs : List Char) : List Char := cs.dropWhile isSpace

/-! ### Texts -/

/-- The character that an escape of one letter stands for. -/
def escaped? : Char → Option Char
  | '\x22' => some '\x22'
  | '\x5c' => some '\x5c'
  | '/' => some '/'
  | 'b' => some '\x08'
  | 'f' => some '\x0c'
  | 'n' => some '\n'
  | 'r' => some '\r'
  | 't' => some '\t'
  | _ => none

/-- The character that two units of sixteen bits stand for. -/
def paired? (high low : Nat) : Option Char :=
  if 0xD800 ≤ high ∧ high < 0xDC00 ∧ 0xDC00 ≤ low ∧ low < 0xE000 then
    charOf? (0x10000 + (high - 0xD800) * 0x400 + (low - 0xDC00))
  else none

/-- Puts a character before what was read. -/
def consTo (c : Char) (r : Option (List Char × List Char)) : Option (List Char × List Char) :=
  r.map fun (text, rest) => (c :: text, rest)

/-- A text, of which the first quote has been read. A character beyond sixteen bits is escaped as
two units. -/
def text? : Reader (List Char)
  | [] => none
  | '\x22' :: cs => some ([], cs)
  | '\x5c' :: 'u' :: a :: b :: c :: d :: cs =>
    match digitsValue? 16 [a, b, c, d] with
    | none => none
    | some unit =>
      match charOf? unit, cs with
      | some c, cs => consTo c (text? cs)
      | none, '\x5c' :: 'u' :: e :: f :: g :: h :: cs =>
        match (digitsValue? 16 [e, f, g, h]).bind (paired? unit) with
        | some c => consTo c (text? cs)
        | none => none
      | none, _ => none
  | '\x5c' :: c :: cs =>
    match escaped? c with
    | some c => consTo c (text? cs)
    | none => none
  | c :: cs => if c.toNat < 32 then none else consTo c (text? cs)

/-! ### Values -/

mutual

/-- A value, read in at most `n` steps. -/
def value? : Nat → Reader Document
  | 0, _ => none
  | n + 1, cs =>
    match cs with
    | 'n' :: 'u' :: 'l' :: 'l' :: cs => some (.null, cs)
    | 't' :: 'r' :: 'u' :: 'e' :: cs => some (.boolean true, cs)
    | 'f' :: 'a' :: 'l' :: 's' :: 'e' :: cs => some (.boolean false, cs)
    | '\x22' :: cs => (text? cs).map fun (t, rest) => (.text (String.ofList t), rest)
    | '[' :: cs =>
      match skipSpace cs with
      | ']' :: rest => some (.list [], rest)
      | cs => (items? n cs).map fun (items, rest) => (.list items, rest)
    | '\x7b' :: cs =>
      match skipSpace cs with
      | '\x7d' :: rest => some (.record [], rest)
      | cs => (fields? n cs).map fun (fields, rest) => (.record (IdMap.ofList fields).entries, rest)
    | '-' :: cs => number? true cs
    | cs => number? false cs

/-- The items of a list, up to its closing bracket. -/
def items? : Nat → Reader (List Document)
  | 0, _ => none
  | n + 1, cs => do
    let (item, rest) ← value? n cs
    match skipSpace rest with
    | ',' :: rest =>
      let (items, rest) ← items? n (skipSpace rest)
      return (item :: items, rest)
    | ']' :: rest => return ([item], rest)
    | _ => none

/-- The fields of a record, up to its closing brace. -/
def fields? : Nat → Reader (List (String × Document))
  | 0, _ => none
  | n + 1, cs =>
    match cs with
    | '\x22' :: cs => do
      let (name, rest) ← text? cs
      match skipSpace rest with
      | ':' :: rest =>
        let (v, rest) ← value? n (skipSpace rest)
        let field := (String.ofList name, v)
        match skipSpace rest with
        | ',' :: rest =>
          let (fields, rest) ← fields? n (skipSpace rest)
          return (field :: fields, rest)
        | '\x7d' :: rest => return ([field], rest)
        | _ => none
      | _ => none
    | _ => none

end

/-- The document of a text. -/
def document? (text : String) : Option Document :=
  let cs := text.toList
  match value? (2 * cs.length + 2) (skipSpace cs) with
  | some (d, rest) => if (skipSpace rest).isEmpty then some d else none
  | none => none

end Reconciler.Json
