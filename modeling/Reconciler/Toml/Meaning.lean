import Reconciler.Toml.Reader

/-!
# What the values of a document mean

A few keys are set aside. A table that begins with `momentKey` is the written form of a moment of
time, whose text stands under the key. A table with `valueKey` means the value under that key, and
one with `tagKey` carries the number of the source that it came from.

## The model

`Value.hasMoments` checks the first of these and `Value.meaning?` reads the others, in tables of
every kind and at any depth. A document is `read?` when all of it means something. The root of a
document may be the form of a moment too, but its keys mean themselves.
-/

namespace Reconciler.Toml

/-- The key under which a moment of time has its text. -/
def momentKey : String := "$__toml_private_datetime"

/-- The key under which a table has the value that it means. -/
def valueKey : String := "___figment_value_value"

/-- The key under which a table has the number of its source. -/
def tagKey : String := "___figment_value_tag"

/-- Whether the characters are the distance of a clock from universal time, of at most a day. -/
def isWideOffset : List Char → Bool
  | [sign, a, b, ':', c, d] =>
    match twoDigits? a b, twoDigits? c d with
    | some hour, some minute => (sign = '+' || sign = '-') && hour * 60 + minute ≤ 24 * 60
    | _, _ => false
  | cs => cs = ['Z'] || cs = ['z']

/-- Whether the characters are the text of a moment. It is a little wider than the form that a
moment has in a document: the hour may be 24, and a blank may stand before the time. -/
def isMomentText (cs : List Char) : Bool :=
  timeOfDay? 24 cs = some [] ||
    isDate (cs.take 10) &&
      match cs.drop 10 with
      | [] => true
      | c :: time =>
        (c = 'T' || c = 't' || c = ' ') &&
          match timeOfDay? 24 time with
          | some rest => rest.isEmpty || isWideOffset rest
          | none => false

/-- Whether a value is the text of a moment. -/
def Value.givesMoment : Value → Bool
  | .string text => isMomentText text.toList
  | _ => false

mutual

/-- Whether the tables in a value that begin with `momentKey` are forms of moments. -/
def Value.hasMoments : Value → Bool
  | .array items => itemsHaveMoments items
  | .inlineTable es => tableHasMoments es
  | .table _ es => tableHasMoments es
  | .tables items => tablesHaveMoments items
  | _ => true

/-- Whether `Value.hasMoments` holds of all items of a list. -/
def itemsHaveMoments : List Value → Bool
  | [] => true
  | v :: vs => v.hasMoments && itemsHaveMoments vs

/-- Whether a table is the form of a moment, or does not begin like one and its values pass. -/
def tableHasMoments : List (String × Value) → Bool
  | [] => true
  | (key, v) :: es => if key = momentKey then v.givesMoment else v.hasMoments && restHasMoments es

/-- Whether `Value.hasMoments` holds of the values of entries. -/
def restHasMoments : List (String × Value) → Bool
  | [] => true
  | (_, v) :: es => v.hasMoments && restHasMoments es

/-- Whether `tableHasMoments` holds of all tables of a list. -/
def tablesHaveMoments : List (List (String × Value)) → Bool
  | [] => true
  | es :: rest => tableHasMoments es && tablesHaveMoments rest

end

/-- What a table with the given entries means, of which `table` is the value as it stands. -/
def Entries.meant (es : Entries) (table : Entries → Value) : Value :=
  (es.get? valueKey).getD (table es)

mutual

/-- What a value means. -/
def Value.meaning? : Value → Option Value
  | .array items => (itemMeanings? items).map .array
  | .inlineTable es => (entryMeanings? es).map fun es => Entries.meant es .inlineTable
  | .table origin es => (entryMeanings? es).map fun es => Entries.meant es (.table origin)
  | .tables items => (tableMeanings? items).map .array
  | v => some v

/-- What the items of a list mean. -/
def itemMeanings? : List Value → Option (List Value)
  | [] => some []
  | v :: vs => do return (← v.meaning?) :: (← itemMeanings? vs)

/-- What the values of the entries of a table mean, without the number of its source. -/
def entryMeanings? : List (String × Value) → Option (List (String × Value))
  | [] => some []
  | (key, v) :: es =>
    if key = tagKey then
      match v with
      | .integer _ => entryMeanings? es
      | _ => none
    else do return (key, ← v.meaning?) :: (← entryMeanings? es)

/-- What the tables of a list mean. -/
def tableMeanings? : List (List (String × Value)) → Option (List Value)
  | [] => some []
  | es :: rest => do
    let es ← entryMeanings? es
    return Entries.meant es (.table .header) :: (← tableMeanings? rest)

end

/-- The entries of a document with what their values mean. -/
def read? (text : String) : Option Entries := do
  let root ← document? text
  if tableHasMoments root then root.mapM fun e => e.2.meaning?.map (e.1, ·) else none

end Reconciler.Toml
