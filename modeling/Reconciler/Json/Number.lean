import Reconciler.Persist.Document
import Reconciler.Text.Digits

/-!
# Numbers of JSON

What document the text of a number stands for. A number that is written without a fraction and an
exponent, and has sixty-four bits, is an integer. Any other is a double.

## The model

A double is computed in a fixed way from its digits, with at most three roundings, and so need not
be the nearest to what is written. The digits are gathered into a significand of sixty-four bits
(`Scaled`). Digits that have no room in it are left out; those before the point count as places.
The significand is rounded to a double, and then multiplied or divided once by the power of ten that
is due. Minus zero is a double, and a number too large for one is no number.
-/

namespace Reconciler.Json

/-- The number `significand * 10 ^ exponent`. -/
structure Scaled where
  /-- The digits that were gathered. -/
  significand : Nat := 0
  /-- The place of the last of them. -/
  exponent : Int := 0
  deriving DecidableEq, Repr

/-- What a significand stays below. -/
def significandLimit : Nat := Nat.pow 2 64

namespace Scaled

/-- Gathers digits before the point. After the first that has no room they only count as places. -/
def addWhole (s : Scaled) : List Char → Scaled
  | [] => s
  | d :: ds =>
    let next := s.significand * 10 + (d.toNat - 48)
    if next < significandLimit then addWhole { s with significand := next } ds
    else { s with exponent := s.exponent + (ds.length + 1) }

/-- Gathers digits after the point, up to the first that has no room. -/
def addFraction (s : Scaled) : List Char → Scaled
  | [] => s
  | d :: ds =>
    let next := s.significand * 10 + (d.toNat - 48)
    if next < significandLimit then addFraction ⟨next, s.exponent - 1⟩ ds else s

/-- A power of ten with an exponent up to 308 as a double. -/
def power (n : Nat) : Float := Float.ofScientific 1 false n

/-- A rounded significand divided by `10 ^ n`, at once or in two steps of at most 308 places; two
such steps already leave nothing of it. -/
def dividedBy (x : Float) (n : Nat) : Float :=
  if n ≤ 308 then x / power n else x / power 308 / power (min (n - 308) 308)

/-- The number as a double, unless it is too large for one. -/
def toFloat? (s : Scaled) : Option Float :=
  let x := s.significand.toFloat
  if s.exponent < 0 then some (dividedBy x (-s.exponent).toNat)
  else if s.exponent ≤ 308 then
    let y := x * power s.exponent.toNat
    if y.isInf then none else some y
  else if s.significand = 0 then some x
  else none

end Scaled

/-- The digits at the front, of which there is at least one, and the rest. -/
def digits? (cs : List Char) : Option (List Char × List Char) :=
  match cs.takeWhile Char.isDigit with
  | [] => none
  | ds => some (ds, cs.dropWhile Char.isDigit)

/-- The digits of the whole part, which does not begin with a zero unless that is all of it. -/
def whole? (cs : List Char) : Option (List Char × List Char) :=
  match digits? cs with
  | some ('0' :: _ :: _, _) => none
  | r => r

/-- The exponent after its letter. -/
def exponent? : List Char → Option (Int × List Char)
  | '+' :: cs => do
    let (ds, rest) ← digits? cs
    return (← digitsValue? 10 ds, rest)
  | '-' :: cs => do
    let (ds, rest) ← digits? cs
    let n ← digitsValue? 10 ds
    return (-(n : Int), rest)
  | cs => do
    let (ds, rest) ← digits? cs
    return (← digitsValue? 10 ds, rest)

/-- The fraction, if there is one: its digits and the rest. -/
def fraction? : List Char → Option (List Char × List Char)
  | '.' :: cs => digits? cs
  | cs => some ([], cs)

/-- The exponent with its letter, if there is one. -/
def scale? : List Char → Option (Option Int × List Char)
  | 'e' :: cs => (exponent? cs).map fun (e, rest) => (some e, rest)
  | 'E' :: cs => (exponent? cs).map fun (e, rest) => (some e, rest)
  | cs => some (none, cs)

/-- The document of a number without a fraction and an exponent. -/
def wholeDocument (negative : Bool) (s : Scaled) : Option Document :=
  if negative then
    if s.exponent = 0 ∧ 0 < s.significand ∧ s.significand ≤ Nat.pow 2 63 then
      some (.integer (-(s.significand : Int)))
    else s.toFloat?.map fun x => .real (-x)
  else if s.exponent = 0 then some (.integer s.significand)
  else s.toFloat?.map .real

/-- A number, of which a minus has been read if it is negative. -/
def number? (negative : Bool) (cs : List Char) : Option (Document × List Char) := do
  let (whole, rest) ← whole? cs
  let (fraction, rest) ← fraction? rest
  let (scale, rest) ← scale? rest
  let s := Scaled.addWhole {} whole
  if fraction.isEmpty ∧ scale.isNone then return (← wholeDocument negative s, rest)
  let s := s.addFraction fraction
  let x ← Scaled.toFloat? { s with exponent := s.exponent + scale.getD 0 }
  return (.real (if negative then -x else x), rest)

end Reconciler.Json
