/-!
# The text of a span of time

A span of milliseconds is written in seconds from one second on, with up to three decimals and
without zeros at the end; below that in milliseconds; and nothing at all is written in nanoseconds.
-/

namespace Reconciler

/-- The decimals of a number of thousandths, without zeros at the end and with their point. -/
def thousandthsText (n : Nat) : String :=
  if n = 0 then ""
  else if n % 100 = 0 then "." ++ toString (n / 100)
  else if n % 10 = 0 then "." ++ toString (n / 100) ++ toString (n / 10 % 10)
  else "." ++ toString (n / 100) ++ toString (n / 10 % 10) ++ toString (n % 10)

/-- The text of a span of milliseconds. -/
def spanText (ms : Nat) : String :=
  if ms = 0 then "0ns"
  else if ms < 1000 then toString ms ++ "ms"
  else toString (ms / 1000) ++ thousandthsText (ms % 1000) ++ "s"

end Reconciler
