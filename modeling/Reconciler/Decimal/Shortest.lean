/-!
# The shortest decimal of a binary number

A binary floating point number stands for the interval of numbers that round to it. Its shortest
decimal is the one with the fewest digits in that interval, and of those the nearest to the number
itself.

## The model

A number is `m * 2 ^ q` with natural `m`. Everything is done in natural numbers: the number and the
two ends of its interval are numerators over one denominator (`Window`), and a decimal
`c * 10 ^ e` is compared with them after multiplying through. Of all decimals with the exponent `e`
only the two next to the number need a test, since a decimal in the interval has one of them between
itself and the number.
-/

namespace Reconciler.Decimal

/-- A number with the interval of the numbers that round to it. -/
structure Window where
  /-- The number, over the denominator. -/
  num : Nat
  /-- The lower end, over the denominator. -/
  low : Nat
  /-- The upper end, over the denominator. -/
  high : Nat
  /-- The denominator. -/
  den : Nat
  /-- Whether the ends belong to the interval. -/
  closed : Bool
  deriving DecidableEq, Repr

/-- The window of `m * 2 ^ q`. The gap below a number is half as wide (`narrow`) when the number is
the least with its exponent. -/
def Window.ofBinary (m : Nat) (q : Int) (narrow : Bool) : Window :=
  let unit := Nat.pow 2 (q - 2).toNat
  { num := 4 * m * unit
    low := (4 * m - if narrow then 1 else 2) * unit
    high := (4 * m + 2) * unit
    den := Nat.pow 2 (2 - q).toNat
    closed := m % 2 = 0 }

namespace Window

/-- Whether `c` over the denominator lies in the interval. -/
def contains (w : Window) (c : Nat) : Bool :=
  if w.closed then w.low ≤ c && c ≤ w.high else w.low < c && c < w.high

/-- The window in units of `10 ^ e`. -/
def scale (w : Window) (e : Int) : Window :=
  let up := Nat.pow 10 (-e).toNat
  { w with
    num := w.num * up
    low := w.low * up
    high := w.high * up
    den := w.den * Nat.pow 10 e.toNat }

/-- The integer in the interval that is nearest to the number, if one of the two next to the number
is in the interval. Of two that are as near, it is the even one. -/
def nearest? (w : Window) : Option Nat :=
  let c := w.num / w.den
  match w.contains (c * w.den), w.contains ((c + 1) * w.den) with
  | true, true =>
    let twice := 2 * w.num
    let middle := (2 * c + 1) * w.den
    if twice < middle then some c
    else if middle < twice then some (c + 1)
    else some (if c % 2 = 0 then c else c + 1)
  | true, false => some c
  | false, true => some (c + 1)
  | false, false => none

/-- Tries the exponents from `e` downwards, at most `n` of them. -/
def search (w : Window) : Nat → Int → Option (Nat × Int)
  | 0, _ => none
  | n + 1, e =>
    match (w.scale e).nearest? with
    | some c => some (c, e)
    | none => w.search n (e - 1)

/-- The exponent of the leading decimal digit of a positive number below one: the least number of
tenfoldings that bring it to one, negated; at most `n` are tried. -/
def leadingBelowOne (w : Window) : Nat → Nat → Int
  | 0, tenfoldings => -tenfoldings
  | n + 1, tenfoldings =>
    if w.den ≤ w.num * Nat.pow 10 tenfoldings then -tenfoldings
    else leadingBelowOne w n (tenfoldings + 1)

/-- The exponent of the leading decimal digit of a positive number. -/
def leading (w : Window) : Int :=
  if w.den ≤ w.num then ((Nat.toDigits 10 (w.num / w.den)).length : Int) - 1
  else w.leadingBelowOne 400 1

/-- The shortest decimal of the number: its digits and the exponent of the last. Seventeen digits
are enough for a number of fifty-three bits. -/
def shortest (w : Window) : Nat × Int := (w.search 18 w.leading).getD (0, 0)

end Window

/-- Drops the zeros at the end of some digits. -/
def dropTrailingZeros (digits : List Char) : List Char :=
  (digits.reverse.dropWhile (· = '0')).reverse

/-- The layout of a decimal with the given digits, the last of which has the exponent `e`. It is
positional while the point stands at most sixteen places after the first digit or at most five
before it; beyond that it has an exponent with its sign. A whole number is marked as one of this
kind by `.0`. -/
def layout (digits : List Char) (e : Int) : String :=
  let n := digits.length
  let point := n + e
  let zeros (k : Int) := List.replicate k.toNat '0'
  if 0 ≤ e ∧ point ≤ 16 then String.ofList (digits ++ zeros e) ++ ".0"
  else if 0 < point ∧ point ≤ 16 then
    String.ofList (digits.take point.toNat) ++ "." ++ String.ofList (digits.drop point.toNat)
  else if -5 < point ∧ point ≤ 0 then "0." ++ String.ofList (zeros (-point) ++ digits)
  else
    let exponent := (if 0 < point then "e+" else "e") ++ toString (point - 1)
    match digits with
    | [] => exponent
    | [d] => String.ofList [d] ++ exponent
    | d :: ds => String.ofList [d, '.'] ++ String.ofList ds ++ exponent

/-- The text of a positive number `m * 2 ^ q`. -/
def positiveText (m : Nat) (q : Int) (narrow : Bool) : String :=
  let (c, e) := (Window.ofBinary m q narrow).shortest
  let all := Nat.toDigits 10 c
  let digits := dropTrailingZeros all
  layout digits (e + (all.length - digits.length : Nat))

/-- The text of a finite double. -/
def text (x : Float) : String :=
  let bits := x.toBits.toNat
  let sign := if bits / Nat.pow 2 63 = 1 then "-" else ""
  let exponent : Nat := bits / Nat.pow 2 52 % Nat.pow 2 11
  let fraction : Nat := bits % Nat.pow 2 52
  if exponent = 0 ∧ fraction = 0 then sign ++ "0.0"
  else if exponent = 0 then sign ++ positiveText fraction (-1074) false
  else
    sign ++
      positiveText (Nat.pow 2 52 + fraction) ((exponent : Int) - 1075) (fraction = 0 ∧ 1 < exponent)

end Reconciler.Decimal
