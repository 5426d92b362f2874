import Reconciler.Decimal.Shortest
import Reconciler.Text.Quoted

/-!
# Documents

The persisted form of a value is a document: nothing, a truth value, a number, a text, a list or a
record of named documents. A document that does not have the expected form is described in the
failure that says so.
-/

namespace Reconciler

/-- A document. -/
inductive Document where
  /-- Nothing. -/
  | null
  /-- A truth value. -/
  | boolean (value : Bool)
  /-- An integer of sixty-four bits, with a sign or without. -/
  | integer (value : Int)
  /-- Any other number. -/
  | real (value : Float)
  /-- A text. -/
  | text (value : String)
  /-- A list. -/
  | list (items : List Document)
  /-- A record. -/
  | record (fields : List (String × Document))

instance : Inhabited Document := ⟨.null⟩

/-- What a message says was found. -/
def Document.found : Document → String
  | .null => "null"
  | .boolean b => "boolean `" ++ toString b ++ "`"
  | .integer i => "integer `" ++ toString i ++ "`"
  | .real x => "floating point `" ++ Decimal.text x ++ "`"
  | .text s => "string " ++ quoted s
  | .list _ => "sequence"
  | .record _ => "map"

/-- Why a document does not read as a value. -/
inductive DecodeError where
  /-- A record lacks a field that has no default. -/
  | missingField (name : String)
  /-- A document is of another kind than expected. -/
  | wrongKind (found : Document) (expected : String)
  /-- A document is of the expected kind and out of its range. -/
  | outOfRange (found : Document) (expected : String)
  /-- A list that stands for a record has too few items or too many. -/
  | wrongLength (length : Nat) (expected : String)

/-- The text of a failure to read a document. -/
def DecodeError.message : DecodeError → String
  | .missingField name => "missing field `" ++ name ++ "`"
  | .wrongKind found expected => "invalid type: " ++ found.found ++ ", expected " ++ expected
  | .outOfRange found expected => "invalid value: " ++ found.found ++ ", expected " ++ expected
  | .wrongLength length expected =>
    "invalid length " ++ toString length ++ ", expected " ++ expected

/-- A value that was read, or why it could not be. -/
abbrev Decoded (α : Type) := Except DecodeError α

/-- A type whose values are persisted as documents. -/
class Persisted (α : Type) where
  /-- The document of a value. -/
  encode : α → Document
  /-- The value of a document. -/
  decode : Document → Decoded α

end Reconciler
