import Reconciler.Text.Digits
import Reconciler.Toml.Table

/-!
# Reading TOML

A total reader of TOML documents. It answers the entries of the document's root table, or nothing
when the text is not a document.

## The model

Each reader takes a list of characters and answers what it read and the rest. Texts are read by
structural recursion. Only arrays and inline tables nest; their readers carry a bound on their
steps, which a document cannot exceed when the bound is twice its length.

Documents are bounded where the format leaves it open: a key has at most `maxLevels` parts, arrays
and inline tables nest at most as deep, an integer has sixty-four bits, and no float above zero is
too large for a double.

## Honest scope

Moments of time are checked for their form and the ranges of their fields.
-/

namespace Reconciler.Toml

/-- A reader answers what it read and the rest of the characters. -/
abbrev Reader (α : Type) := List Char → Option (α × List Char)

/-! ### Blanks, comments and line ends -/

/-- The blanks inside a line. -/
def isBlank (c : Char) : Bool := c = ' ' || c = '\t'

/-- Passes over blanks. -/
def skipBlanks (cs : List Char) : List Char := cs.dropWhile isBlank

/-- The control characters, which stand neither in comments nor in texts. -/
def isControl (c : Char) : Bool := (c.toNat < 32 && c ≠ '\t') || c.toNat = 127

/-- Passes over a comment, of which the mark has been read, up to the end of the line. -/
def skipComment : List Char → Option (List Char)
  | [] => some []
  | '\n' :: cs => some ('\n' :: cs)
  | '\r' :: '\n' :: cs => some ('\r' :: '\n' :: cs)
  | c :: cs => if isControl c then none else skipComment cs

/-- Passes over blanks, a comment if there is one, and the end of the line or of the document. -/
def endOfLine (cs : List Char) : Option (List Char) := do
  let rest ← match skipBlanks cs with
    | '#' :: cs => skipComment cs
    | cs => some cs
  match rest with
  | [] => some []
  | '\n' :: cs => some cs
  | '\r' :: '\n' :: cs => some cs
  | _ => none

/-- Passes over blanks, comments and line ends, of which there may be any number inside an array. -/
def skipLines : Nat → List Char → Option (List Char)
  | 0, cs => some cs
  | n + 1, cs =>
    match skipBlanks cs with
    | '\n' :: cs => skipLines n cs
    | '\r' :: '\n' :: cs => skipLines n cs
    | '#' :: cs => do skipLines n (← skipComment cs)
    | cs => some cs

/-! ### Texts -/

/-- The character that an escape of one letter stands for. -/
def escaped? : Char → Option Char
  | 'b' => some '\x08'
  | 't' => some '\t'
  | 'n' => some '\n'
  | 'f' => some '\x0c'
  | 'r' => some '\r'
  | '\x22' => some '\x22'
  | '\x5c' => some '\x5c'
  | _ => none

/-- Puts a character before what was read. -/
def consTo (c : Option Char) (r : Option (List Char × List Char)) :
    Option (List Char × List Char) := do
  let c ← c
  let (text, rest) ← r
  return (c :: text, rest)

/-- A text in double quotes, of which the first has been read. -/
def basicText : Reader (List Char)
  | [] => none
  | '\x22' :: cs => some ([], cs)
  | '\x5c' :: 'u' :: a :: b :: c :: d :: cs =>
    consTo (digitsValue? 16 [a, b, c, d] >>= charOf?) (basicText cs)
  | '\x5c' :: 'U' :: a :: b :: c :: d :: e :: f :: g :: h :: cs =>
    consTo (digitsValue? 16 [a, b, c, d, e, f, g, h] >>= charOf?) (basicText cs)
  | '\x5c' :: c :: cs => consTo (escaped? c) (basicText cs)
  | c :: cs => if isControl c then none else consTo (some c) (basicText cs)

/-- A text in single quotes, of which the first has been read; it knows no escapes. -/
def literalText : Reader (List Char)
  | [] => none
  | '\x27' :: cs => some ([], cs)
  | c :: cs => if isControl c then none else consTo (some c) (literalText cs)

/-- Whether a line ends here, apart from blanks. -/
def endsHere (cs : List Char) : Bool :=
  match skipBlanks cs with
  | '\n' :: _ => true
  | '\r' :: '\n' :: _ => true
  | _ => false

/-- A text in three double quotes, of which the first three have been read. With `skipping`, blanks
and line ends are passed over, as after a backslash at the end of a line. -/
def basicLines (skipping : Bool) : Reader (List Char)
  | [] => none
  | '\x22' :: '\x22' :: '\x22' :: '\x22' :: '\x22' :: cs => some (['\x22', '\x22'], cs)
  | '\x22' :: '\x22' :: '\x22' :: '\x22' :: cs => some (['\x22'], cs)
  | '\x22' :: '\x22' :: '\x22' :: cs => some ([], cs)
  | '\r' :: '\n' :: cs =>
    if skipping then basicLines true cs else consTo (some '\n') (basicLines false cs)
  | '\x5c' :: 'u' :: a :: b :: c :: d :: cs =>
    consTo (digitsValue? 16 [a, b, c, d] >>= charOf?) (basicLines false cs)
  | '\x5c' :: 'U' :: a :: b :: c :: d :: e :: f :: g :: h :: cs =>
    consTo (digitsValue? 16 [a, b, c, d, e, f, g, h] >>= charOf?) (basicLines false cs)
  | '\x5c' :: c :: cs =>
    if endsHere (c :: cs) then basicLines true (c :: cs)
    else consTo (escaped? c) (basicLines false cs)
  | c :: cs =>
    if skipping && (isBlank c || c = '\n') then basicLines true cs
    else if c ≠ '\n' && isControl c then none
    else consTo (some c) (basicLines false cs)

/-- A text in three single quotes, of which the first three have been read. -/
def literalLines : Reader (List Char)
  | [] => none
  | '\x27' :: '\x27' :: '\x27' :: '\x27' :: '\x27' :: cs => some (['\x27', '\x27'], cs)
  | '\x27' :: '\x27' :: '\x27' :: '\x27' :: cs => some (['\x27'], cs)
  | '\x27' :: '\x27' :: '\x27' :: cs => some ([], cs)
  | '\r' :: '\n' :: cs => consTo (some '\n') (literalLines cs)
  | c :: cs =>
    if c ≠ '\n' && isControl c then none else consTo (some c) (literalLines cs)

/-- Passes over the line end right after the quotes that begin a text of several lines. -/
def dropFirstLineEnd : List Char → List Char
  | '\n' :: cs => cs
  | '\r' :: '\n' :: cs => cs
  | cs => cs

/-! ### Keys -/

/-- The characters of a key without quotes. -/
def isBareKeyChar (c : Char) : Bool := c.isAlphanum || c = '_' || c = '-'

/-- One part of a dotted key. -/
def simpleKey : Reader String
  | '\x22' :: cs => (basicText cs).map fun (text, rest) => (String.ofList text, rest)
  | '\x27' :: cs => (literalText cs).map fun (text, rest) => (String.ofList text, rest)
  | cs =>
    match cs.takeWhile isBareKeyChar with
    | [] => none
    | word => some (String.ofList word, cs.dropWhile isBareKeyChar)

/-- How many parts a dotted key may have, and how deep values may nest. -/
def maxLevels : Nat := 79

/-- The parts of a dotted key, at most `n` of them. -/
def dottedKey : Nat → Reader (List String)
  | 0, _ => none
  | n + 1, cs => do
    let (part, rest) ← simpleKey (skipBlanks cs)
    match skipBlanks rest with
    | '.' :: rest =>
      let (parts, rest) ← dottedKey n rest
      return (part :: parts, rest)
    | rest => return ([part], rest)

/-! ### Numbers and moments -/

/-- The number that a run of digits spells after `n`, in which an underscore may stand between two
digits; `afterDigit` says that a digit went before. -/
def digitRun (base : Nat) : Nat → Bool → List Char → Option Nat
  | n, afterDigit, [] => if afterDigit then some n else none
  | n, afterDigit, '_' :: cs => if afterDigit then digitRun base n false cs else none
  | n, _, c :: cs => (digitValue? base c).bind fun v => digitRun base (n * base + v) true cs

/-- A decimal number without zeros in front. -/
def decimal? : List Char → Option Nat
  | ['0'] => some 0
  | '0' :: _ => none
  | cs => digitRun 10 0 false cs

/-- The sign before a number, and the number. -/
def splitSign : List Char → Bool × List Char
  | '-' :: cs => (true, cs)
  | '+' :: cs => (false, cs)
  | cs => (false, cs)

/-- Integers have sixty-four bits. -/
def inRange? (i : Int) : Option Int :=
  if -Int.pow 2 63 ≤ i ∧ i < Int.pow 2 63 then some i else none

/-- An integer: decimal with a sign, or in base sixteen, eight or two without one. -/
def integer? : List Char → Option Int
  | '0' :: 'x' :: cs => (digitRun 16 0 false cs).bind fun n => inRange? n
  | '0' :: 'o' :: cs => (digitRun 8 0 false cs).bind fun n => inRange? n
  | '0' :: 'b' :: cs => (digitRun 2 0 false cs).bind fun n => inRange? n
  | cs =>
    let (negative, digits) := splitSign cs
    (decimal? digits).bind fun n => inRange? (if negative then -n else n)

/-- Whether the characters are an exponent: a sign, if any, and digits. -/
def isExponent (cs : List Char) : Bool := (digitRun 10 0 false (splitSign cs).2).isSome

/-- Whether the characters are a fraction, and an exponent if any. -/
def isFraction (cs : List Char) : Bool :=
  let digits := cs.takeWhile fun c => c ≠ 'e' && c ≠ 'E'
  (digitRun 10 0 false digits).isSome &&
    match cs.dropWhile fun c => c ≠ 'e' && c ≠ 'E' with
    | [] => true
    | _ :: exponent => isExponent exponent

/-- Whether the characters are a number with a fraction or an exponent, an infinity, or the mark for
what is not a number. -/
def isFloat (cs : List Char) : Bool :=
  let (_, body) := splitSign cs
  if body = ['i', 'n', 'f'] ∨ body = ['n', 'a', 'n'] then true
  else
    let whole := body.takeWhile fun c => c.isDigit || c = '_'
    (decimal? whole).isSome &&
      match body.dropWhile fun c => c.isDigit || c = '_' with
      | '.' :: cs => isFraction cs
      | 'e' :: cs => isExponent cs
      | 'E' :: cs => isExponent cs
      | _ => false

/-- The least number that a double rounds to infinity: half a step above the greatest double. -/
def doubleLimit : Nat := (Nat.pow 2 54 - 1) * Nat.pow 2 970

/-- Whether `c * 10 ^ e` reaches `doubleLimit`, which has 309 digits. -/
def reachesLimit (c : Nat) (e : Int) : Bool :=
  if c = 0 then false
  else
    let digits := ((Nat.toDigits 10 c).length : Int) + e
    if digits = 309 then doubleLimit * Nat.pow 10 (-e).toNat ≤ c * Nat.pow 10 e.toNat
    else 309 < digits

/-- Whether a float without a minus is too large for a double. -/
def overflows (word : List Char) : Bool :=
  let (negative, body) := splitSign word
  let isMark (c : Char) := c = 'e' || c = 'E'
  let mantissa := (body.takeWhile (!isMark ·)).filter (· ≠ '_')
  let places := (mantissa.dropWhile (· ≠ '.')).length - 1
  let (down, exponent) := splitSign (((body.dropWhile (!isMark ·)).drop 1).filter (· ≠ '_'))
  match digitsValue? 10 (mantissa.filter (· ≠ '.')), digitsValue? 10 exponent with
  | some c, some e =>
    let e : Int := if down then -(e : Int) else e
    !negative && reachesLimit c (e - places)
  | _, _ => false

/-- A number of two digits. -/
def twoDigits? (a b : Char) : Option Nat := digitsValue? 10 [a, b]

/-- The days of a month. -/
def daysIn (year month : Nat) : Nat :=
  if month = 2 then
    if year % 4 = 0 ∧ (year % 100 ≠ 0 ∨ year % 400 = 0) then 29 else 28
  else if month ∈ [4, 6, 9, 11] then 30 else 31

/-- Whether the characters are a date. -/
def isDate : List Char → Bool
  | [a, b, c, d, '-', e, f, '-', g, h] =>
    match digitsValue? 10 [a, b, c, d], twoDigits? e f, twoDigits? g h with
    | some year, some month, some day =>
      1 ≤ month ∧ month ≤ 12 ∧ 1 ≤ day ∧ day ≤ daysIn year month
    | _, _, _ => false
  | _ => false

/-- The rest after a time of day up to the given hour, whose seconds may have a fraction. -/
def timeOfDay? (lastHour : Nat) : List Char → Option (List Char)
  | a :: b :: ':' :: c :: d :: ':' :: e :: f :: cs => do
    let hour ← twoDigits? a b
    let minute ← twoDigits? c d
    let second ← twoDigits? e f
    if hour ≤ lastHour ∧ minute ≤ 59 ∧ second ≤ 60 then
      match cs with
      | '.' :: cs =>
        if (cs.takeWhile Char.isDigit).isEmpty then none else some (cs.dropWhile Char.isDigit)
      | cs => some cs
    else none
  | _ => none

/-- Whether the characters are the distance of a clock from universal time. -/
def isOffset : List Char → Bool
  | ['Z'] => true
  | ['z'] => true
  | [sign, a, b, ':', c, d] =>
    match twoDigits? a b, twoDigits? c d with
    | some hour, some minute => (sign = '+' || sign = '-') && hour ≤ 23 && minute ≤ 59
    | _, _ => false
  | _ => false

/-- Whether the characters are a time of day. -/
def isTime (cs : List Char) : Bool := timeOfDay? 23 cs = some []

/-- Whether the characters are a time of day, with an offset if any. -/
def isTimeWithOffset (cs : List Char) : Bool :=
  match timeOfDay? 23 cs with
  | some rest => rest.isEmpty || isOffset rest
  | none => false

/-- Whether the characters are a date, a time of day, or a date and a time with a `T` between. -/
def isMoment (cs : List Char) : Bool :=
  isDate cs || isTime cs ||
    (isDate (cs.take 10) &&
      match cs.drop 10 with
      | 'T' :: time => isTimeWithOffset time
      | 't' :: time => isTimeWithOffset time
      | _ => false)

/-- The characters of numbers, truth values and moments. -/
def isWordChar (c : Char) : Bool :=
  c.isAlphanum || c = '_' || c = '+' || c = '-' || c = '.' || c = ':'

/-- The value that a word stands for. -/
def ofWord? (word : List Char) : Option Value :=
  if word = ['t', 'r', 'u', 'e'] then some (.boolean true)
  else if word = ['f', 'a', 'l', 's', 'e'] then some (.boolean false)
  else
    match integer? word with
    | some i => some (.integer i)
    | none =>
      if isFloat word then if overflows word then none else some .float
      else if isMoment word then some .moment
      else none

/-- A value that is a word. A blank may stand between a date and a time. -/
def wordValue (cs : List Char) : Option (Value × List Char) :=
  let word := cs.takeWhile isWordChar
  let rest := cs.dropWhile isWordChar
  match isDate word, rest with
  | true, ' ' :: time =>
    if isTimeWithOffset (time.takeWhile isWordChar) then
      some (.moment, time.dropWhile isWordChar)
    else some (.moment, rest)
  | _, _ => (ofWord? word).map (·, rest)

/-! ### Values -/

mutual

/-- A value, read in at most `n` steps, in which arrays and inline tables nest at most `depth`
deep. -/
def value : Nat → Nat → Reader Value
  | 0, _, _ => none
  | n + 1, depth, cs =>
    match cs with
    | '\x22' :: '\x22' :: '\x22' :: cs =>
      (basicLines false (dropFirstLineEnd cs)).map
        fun (t, rest) => (.string (String.ofList t), rest)
    | '\x22' :: cs => (basicText cs).map fun (t, rest) => (.string (String.ofList t), rest)
    | '\x27' :: '\x27' :: '\x27' :: cs =>
      (literalLines (dropFirstLineEnd cs)).map fun (t, rest) => (.string (String.ofList t), rest)
    | '\x27' :: cs => (literalText cs).map fun (t, rest) => (.string (String.ofList t), rest)
    | '[' :: cs =>
      match depth with
      | 0 => none
      | depth + 1 => (arrayItems n depth cs).map fun (items, rest) => (.array items, rest)
    | '\x7b' :: cs =>
      match depth with
      | 0 => none
      | depth + 1 =>
        match skipBlanks cs with
        | '\x7d' :: rest => some (.inlineTable [], rest)
        | cs => (inlineEntries n depth [] cs).map fun (es, rest) => (.inlineTable es, rest)
    | cs => wordValue cs

/-- The items of an array, up to its closing bracket. -/
def arrayItems : Nat → Nat → Reader (List Value)
  | 0, _, _ => none
  | n + 1, depth, cs => do
    match ← skipLines cs.length cs with
    | ']' :: rest => return ([], rest)
    | cs =>
      let (item, rest) ← value n depth cs
      match ← skipLines rest.length rest with
      | ',' :: rest =>
        let (items, rest) ← arrayItems n depth rest
        return (item :: items, rest)
      | ']' :: rest => return ([item], rest)
      | _ => none

/-- The entries of an inline table after the given ones, up to its closing brace. -/
def inlineEntries : Nat → Nat → Entries → Reader Entries
  | 0, _, _, _ => none
  | n + 1, depth, es, cs => do
    let (path, rest) ← dottedKey maxLevels cs
    match rest with
    | '=' :: rest =>
      let (v, rest) ← value n depth (skipBlanks rest)
      let es ← es.put path v
      match skipBlanks rest with
      | ',' :: rest => inlineEntries n depth es rest
      | '\x7d' :: rest => return (es, rest)
      | _ => none
    | _ => none

end

/-! ### Documents -/

/-- A document that is being read. -/
structure Draft where
  /-- The entries of the root table. -/
  root : Entries := []
  /-- The table that keys go to. -/
  path : List String := []

/-- Reads one line of a document, or one entry whose value takes several. -/
def line (draft : Draft) (cs : List Char) : Option (Draft × List Char) :=
  match skipBlanks cs with
  | '[' :: '[' :: cs => do
    let (path, rest) ← dottedKey maxLevels cs
    match rest with
    | ']' :: ']' :: rest =>
      let root ← draft.root.appendTable path
      return ({ root, path }, ← endOfLine rest)
    | _ => none
  | '[' :: cs => do
    let (path, rest) ← dottedKey maxLevels cs
    match rest with
    | ']' :: rest =>
      let root ← draft.root.openTable path
      return ({ root, path }, ← endOfLine rest)
    | _ => none
  | cs =>
    match endOfLine cs with
    | some rest => some (draft, rest)
    | none => do
      let (key, rest) ← dottedKey maxLevels cs
      match rest with
      | '=' :: rest =>
        let (v, rest) ← value (2 * rest.length + 2) maxLevels (skipBlanks rest)
        let root ← draft.root.within (·.put key v) draft.path
        return ({ draft with root }, ← endOfLine rest)
      | _ => none

/-- Reads at most `n` lines. -/
def lines : Nat → Draft → List Char → Option Entries
  | _, draft, [] => some draft.root
  | 0, _, _ => none
  | n + 1, draft, cs => do
    let (draft, rest) ← line draft cs
    lines n draft rest

/-- The entries of a document, of which a mark of the byte order may stand in front. -/
def document? (text : String) : Option Entries :=
  let cs := match text.toList with
    | '\uFEFF' :: cs => cs
    | cs => cs
  lines (cs.length + 1) {} cs

end Reconciler.Toml
