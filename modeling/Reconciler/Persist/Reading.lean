import Reconciler.Ids.Set
import Reconciler.Persist.Document

/-!
# Reading documents

The pieces that the readers of records are made of.

## The model

A record is read in two passes. First the fields that are present are read in ascending order of
their names, and the first that does not read is the failure. Then the fields without a default are
required, in the order in which the record declares them. Fields with other names are passed over.

A record also reads from a list of its fields in the order of declaration. Fields with a default may
be left out at the end.
-/

namespace Reconciler

namespace Document

/-- The text of a document that is one. -/
def asText : Document → Decoded String
  | .text s => .ok s
  | d => .error (.wrongKind d "a string")

/-- The truth value of a document that is one. -/
def asBoolean : Document → Decoded Bool
  | .boolean b => .ok b
  | d => .error (.wrongKind d "a boolean")

/-- The number of a document that is a natural number of sixty-four bits. -/
def asNatural : Document → Decoded Nat
  | .integer i =>
    if 0 ≤ i ∧ i < Int.pow 2 64 then .ok i.toNat else .error (.outOfRange (.integer i) "u64")
  | d => .error (.wrongKind d "u64")

/-- The value of a document, of which there is none when the document is nothing. -/
def asOption {α : Type} (read : Document → Decoded α) : Document → Decoded (Option α)
  | .null => .ok none
  | d => (read d).map some

/-- The values of the items of a document that is a list; the first item that does not read is the
failure. -/
def asList {α : Type} (read : Document → Decoded α) : Document → Decoded (List α)
  | .list items => items.mapM read
  | d => .error (.wrongKind d "a sequence")

/-- The set of the texts in a document that is a list of them. -/
def asIdSet (d : Document) : Decoded IdSet := (d.asList asText).map .ofList

/-- The document of a value that may be missing. -/
def ofOption {α : Type} (write : α → Document) : Option α → Document
  | none => .null
  | some a => write a

/-- The document of a natural number. -/
def ofNatural (n : Nat) : Document := .integer n

/-- The document of a set of identifiers. -/
def ofIdSet (s : IdSet) : Document := .list (s.members.map .text)

end Document

/-! ### Fields of a record -/

/-- The fields of a record. -/
abbrev Fields := List (String × Document)

namespace Fields

/-- The value of a field that may be missing. -/
def field? {α : Type} (fields : Fields) (name : String) (read : Document → Decoded α) :
    Decoded (Option α) :=
  match fields.lookup name with
  | none => .ok none
  | some d => (read d).map some

end Fields

/-- The value of a field that must not be missing. -/
def required {α : Type} (name : String) : Option α → Decoded α
  | some a => .ok a
  | none => .error (.missingField name)

/-! ### Items of a list that stands for a record -/

/-- How far the items of a list have been read. -/
structure ItemCursor where
  /-- How many fields went before. -/
  position : Nat := 0
  /-- The items that are left. -/
  rest : List Document

/-- Reads items of a list one after another. -/
abbrev ItemReader (α : Type) := StateT ItemCursor Decoded α

/-- How a record is called in a message, and how many fields it has. -/
structure RecordShape where
  /-- Its name. -/
  name : String
  /-- How many fields it has. -/
  size : Nat

namespace RecordShape

/-- What a message expects where the record is to stand. -/
def expected (s : RecordShape) : String := "struct " ++ s.name

/-- What a message expects of a list that stands for the record. -/
def expectedItems (s : RecordShape) : String :=
  s.expected ++ " with " ++ toString s.size ++ " elements"

/-- The value of the next item, which must not be missing. If it is, the message counts the fields
that went before it. -/
def item {α : Type} (s : RecordShape) (read : Document → Decoded α) : ItemReader α := fun cursor =>
  match cursor.rest with
  | [] => .error (.wrongLength cursor.position s.expectedItems)
  | d :: rest => (read d).map (·, { position := cursor.position + 1, rest })

/-- Reads a record from its fields or from a list of its items. -/
def read {α : Type} (s : RecordShape) (ofFields : Fields → Decoded α) (ofItems : ItemReader α) :
    Document → Decoded α
  | .record fields => ofFields fields
  | .list items => do
    let (a, cursor) ← ofItems.run { rest := items }
    if cursor.rest.isEmpty then return a
    else .error (.wrongLength items.length "fewer elements in array")
  | d => .error (.wrongKind d s.expected)

end RecordShape

/-- The value of the next item, or the default if there is none. -/
def itemOr {α : Type} (fallback : α) (read : Document → Decoded α) : ItemReader α := fun cursor =>
  match cursor.rest with
  | [] => .ok (fallback, { cursor with position := cursor.position + 1 })
  | d :: rest => (read d).map (·, { position := cursor.position + 1, rest })

end Reconciler
