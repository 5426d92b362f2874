import Reconciler.Settings.Loader
import Reconciler.Text.Blank
import Reconciler.Text.Digits

/-!
# Variables of the environment

A way to read variables. A variable is named after the key of its setting, with a mark in front and
without regard to case. A dot or two underscores divide a name into the parts of a path.

## The model

The value of a variable is a text, and `Scalar.ofVariable` says which texts are numbers. A variable
with a longer path gives a table for the setting in front. Of several variables for one setting the
last counts.
-/

namespace Reconciler

namespace Scalar

/-- The number that decimal digits spell; there is at least one digit. -/
def decimal? (digits : List Char) : Option Nat :=
  if digits.isEmpty then none else digitsValue? 10 digits

/-- The integer that a text spells: decimal digits, after a sign if there is one. -/
def spelled? (cs : List Char) : Option Int :=
  match cs with
  | '-' :: digits => (decimal? digits).map fun n => -(n : Int)
  | '+' :: digits => (decimal? digits).map Int.ofNat
  | digits => (decimal? digits).map Int.ofNat

/-- What a variable of the environment gives: its text without white space at the ends is `true` or
`false`, or an integer below the limit of numbers, or something else. -/
def ofVariable (text : String) : Scalar :=
  let word := trimBlanks text.toList
  if word = "true".toList then .boolean true
  else if word = "false".toList then .boolean false
  else
    match spelled? word with
    | some i => if i < wordLimit then .integer i else .other
    | none => .other

end Scalar

namespace Environment

/-- The parts of a path, which a dot or two underscores divide. -/
def pathParts : List Char → List (List Char)
  | [] => [[]]
  | '_' :: '_' :: cs => [] :: pathParts cs
  | '.' :: cs => [] :: pathParts cs
  | c :: cs =>
    match pathParts cs with
    | part :: parts => (c :: part) :: parts
    | [] => [[c]]

/-- The path that the name of a variable stands for, in small letters. White space at the ends of
the name and after its mark does not count. A path has no empty parts. -/
def path? (mark name : String) : Option (List String) :=
  let start := (mark.toList ++ ['_']).map Char.toLower
  let cs := (trimBlanks name.toList).map Char.toLower
  if start.isPrefixOf cs then
    let parts := pathParts (trimBlanks (cs.drop start.length))
    if parts.any List.isEmpty then none else some (parts.map String.ofList)
  else none

/-- What a variable gives and for which key. -/
def given? (mark : String) (entry : String × String) : Option (String × Scalar) :=
  match path? mark entry.1 with
  | some [key] => some (key, .ofVariable entry.2)
  | some (key :: _) => some (key, .other)
  | _ => none

/-- What a variable gives for the setting with a key. -/
def gives? (mark key : String) (entry : String × String) : Option Scalar :=
  (given? mark entry).bind fun given => if given.1 = key then some given.2 else none

/-- What an environment gives. -/
def layer (mark : String) (env : Environment) : Layer := fun key =>
  env.reverse.findSome? (gives? mark key)

end Environment

end Reconciler
