/-!
# Tables of a TOML document

The values of the TOML format, and the rules by which the lines of a document build its tables: a
key is given once, a table is opened once, and a table that a dotted key made is not opened again.

## The model

A table remembers its `Origin`, since that decides what may still be added to it. Floats and moments
of time are known to be such and nothing more, as no setting is one.
-/

namespace Reconciler.Toml

/-- How a table came to be. -/
inductive Origin where
  /-- A header named a table inside it. -/
  | implied
  /-- A dotted key passed through it. -/
  | dotted
  /-- A header named it. -/
  | header
  deriving DecidableEq

/-- A value of the TOML format. -/
inductive Value where
  /-- A text. -/
  | string (text : String)
  /-- An integer. -/
  | integer (number : Int)
  /-- A number with a fraction or an exponent, an infinity, or not a number. -/
  | float
  /-- A truth value. -/
  | boolean (value : Bool)
  /-- A date, a time, or both. -/
  | moment
  /-- A list of values in brackets. -/
  | array (items : List Value)
  /-- A table in braces. -/
  | inlineTable (entries : List (String × Value))
  /-- A table. -/
  | table (origin : Origin) (entries : List (String × Value))
  /-- The tables of a repeated header, the latest first. -/
  | tables (items : List (List (String × Value)))

/-- The keys of a table with their values. -/
abbrev Entries := List (String × Value)

namespace Entries

/-- The value of a key. -/
def get? (es : Entries) (key : String) : Option Value := List.lookup key es

/-- Gives a key a value, in the place of the one it has. -/
def set (es : Entries) (key : String) (v : Value) : Entries :=
  if (es.get? key).isSome then es.map fun e => if e.1 = key then (key, v) else e
  else es ++ [(key, v)]

/-- Puts a key with its value at the end. -/
def moveToEnd (es : Entries) (key : String) (v : Value) : Entries :=
  es.filter (fun e => e.1 ≠ key) ++ [(key, v)]

/-- Gives a dotted key a value. The key must be new. The tables it passes through must not have been
opened by a header, save that it may pass through the latest table of a repeated header, and the
last of them must have come from dotted keys. -/
def put (es : Entries) : List String → Value → Option Entries
  | [], _ => none
  | [key], v => if (es.get? key).isSome then none else some (es.set key v)
  | key :: next :: rest, v =>
    match es.get? key with
    | none => (put [] (next :: rest) v).map fun inner => es.set key (.table .dotted inner)
    | some (.table origin inner) =>
      if origin = .header ∨ rest = [] ∧ origin ≠ .dotted then none
      else (put inner (next :: rest) v).map fun inner => es.set key (.table origin inner)
    | some (.tables (last :: before)) =>
      if rest = [] then none
      else (put last (next :: rest) v).map fun last => es.set key (.tables (last :: before))
    | some _ => none

/-- Opens the table that a header names. It becomes the last of those around it. -/
def openTable (es : Entries) : List String → Option Entries
  | [] => none
  | [key] =>
    match es.get? key with
    | none => some (es.set key (.table .header []))
    | some (.table .implied inner) => some (es.moveToEnd key (.table .header inner))
    | some _ => none
  | key :: next :: rest =>
    match es.get? key with
    | none => (openTable [] (next :: rest)).map fun inner => es.set key (.table .implied inner)
    | some (.table origin inner) =>
      (openTable inner (next :: rest)).map fun inner => es.set key (.table origin inner)
    | some (.tables (last :: before)) =>
      (openTable last (next :: rest)).map fun last => es.set key (.tables (last :: before))
    | some _ => none

/-- Begins a new table of a repeated header. -/
def appendTable (es : Entries) : List String → Option Entries
  | [] => none
  | [key] =>
    match es.get? key with
    | none => some (es.set key (.tables [[]]))
    | some (.tables before) => some (es.set key (.tables ([] :: before)))
    | some _ => none
  | key :: next :: rest =>
    match es.get? key with
    | none => (appendTable [] (next :: rest)).map fun inner => es.set key (.table .implied inner)
    | some (.table origin inner) =>
      (appendTable inner (next :: rest)).map fun inner => es.set key (.table origin inner)
    | some (.tables (last :: before)) =>
      (appendTable last (next :: rest)).map fun last => es.set key (.tables (last :: before))
    | some _ => none

/-- Changes the table at a path, the latest one where the path meets a repeated header. -/
def within (es : Entries) (change : Entries → Option Entries) : List String → Option Entries
  | [] => change es
  | key :: rest =>
    match es.get? key with
    | some (.table origin inner) =>
      (within inner change rest).map fun inner => es.set key (.table origin inner)
    | some (.tables (last :: before)) =>
      (within last change rest).map fun last => es.set key (.tables (last :: before))
    | _ => none

end Entries

end Reconciler.Toml
