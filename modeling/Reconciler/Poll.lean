import Reconciler.Program
import Reconciler.Retry
import Reconciler.Text.Span

/-!
# Waiting for a condition

A wait checks a condition until it holds, until its deadline has passed, or until a check fails in a
way that the policy does not look past. The first check is made at once; between two checks the wait
sleeps for its interval, or for what is left until the deadline if that is less, so that the last
check falls on the deadline. No sleep lasts longer than `longestSleep`.

## The model

* A `Check` is what one look at the condition says. A check is a program with a state that is handed
  from check to check.
* `Wait.run` is the wait. With a positive interval it ends by itself: `Wait.budget` is as many
  checks as fit before the deadline. A wait that does not sleep may go on for ever, so it is given a
  number of checks, and `Program.unfinished` stands for one that needed more.
* A `TimedCheck` answers after a given time, and `Wait.runScript` is the wait for a sequence of
  them: the wait alone, without a provider.
-/

namespace Reconciler

/-- What one look at a condition says. -/
inductive Check (ε β : Type) where
  /-- The condition holds. -/
  | done (value : β)
  /-- The condition does not hold yet. -/
  | notYet
  /-- The look itself failed. -/
  | failed (cause : ε)
  deriving DecidableEq

/-- Why a wait gave up. -/
inductive WaitError (ε : Type) where
  /-- The deadline passed; `lastError` is the text of the last failure that was looked past. -/
  | timeout (waited : Span) (lastError : Option String)
  /-- A check failed in a way that the policy does not look past. -/
  | aborted (cause : ε)
  deriving DecidableEq

/-- The text of the reason a wait gave up. -/
def WaitError.message {ε : Type} [Retryable ε] : WaitError ε → String
  | .timeout waited _ => "condition not met after " ++ spanText waited
  | .aborted cause => "polling aborted: " ++ Retryable.describe cause

/-- The terms of a wait. -/
structure Wait where
  /-- When the wait gives up. -/
  deadline : Instant
  /-- How long it sleeps between two checks. -/
  interval : Span
  /-- What it does about refused requests. -/
  policy : PollPolicy
  /-- How many checks it may make before it is left unfinished, if it does not sleep between
  them. -/
  idleChecks : Nat := Nat.pow 10 15

namespace Wait

variable {σ ε β : Type} [Retryable ε]

/-- The sleep after a check that ended undecided at `now`, before the deadline. -/
def nap (w : Wait) (now : Instant) : Span := min w.interval (w.deadline - now).toNat

/-- How long a sleep of the wait lasts unless the deadline is nearer. -/
def stride (w : Wait) : Span := min w.interval longestSleep

/-- How many checks a wait that began at `started` may make. With a positive interval they are the
strides until the deadline, rounded up, and one: after so many the deadline has come. -/
def budget (w : Wait) (started : Instant) : Nat :=
  if w.interval = 0 then w.idleChecks
  else ((w.deadline - started).toNat + (w.stride - 1)) / w.stride + 1

/-- A wait that began at `started`, with `n` checks left. After a check that decided nothing it
gives up if the deadline has come, and otherwise sleeps and checks again. -/
def loop (w : Wait) (check : σ → Program (σ × Check ε β)) (started : Instant) :
    Nat → σ → Option String → Program (σ × Except (WaitError ε) β)
  | 0, _, _ => .unfinished
  | n + 1, s, lastError => do
    let (s, seen) ← check s
    let again (lastError : Option String) : Program (σ × Except (WaitError ε) β) := do
      let now ← Program.clock
      if w.deadline ≤ now then
        return (s, .error (.timeout (now - started).toNat lastError))
      Program.pause (w.nap now)
      loop w check started n s lastError
    match seen with
    | .done v => return (s, .ok v)
    | .notYet => again lastError
    | .failed e =>
      if w.policy.abortsOn (Retryable.retryClass e) then return (s, .error (.aborted e))
      else again (some (Retryable.describe e))

/-- The wait for a condition, from the state `s` of its checks: the state after the last check, and
the value of the check that succeeded or the reason the wait gave up. -/
def run (w : Wait) (check : σ → Program (σ × Check ε β)) (s : σ) :
    Program (σ × Except (WaitError ε) β) := do
  let started ← Program.clock
  w.loop check started (w.budget started) s none

/-- The wait for a condition whose checks carry no state. -/
def poll (w : Wait) (check : Program (Check ε β)) : Program (Except (WaitError ε) β) := do
  let (_, result) ← w.run (fun _ : Unit => do return ((), ← check)) ()
  return result

end Wait

/-! ### Waits whose checks are given in advance -/

/-- A failure that is nothing but its class and its text. -/
structure PlainError where
  /-- How it bears on a wait. -/
  retryClass : RetryClass
  /-- Its text. -/
  text : String
  deriving DecidableEq

instance : Retryable PlainError := ⟨PlainError.retryClass, PlainError.text⟩

/-- A check that takes a given time and then says a given thing. -/
structure TimedCheck (ε β : Type) where
  /-- How long the check takes. -/
  takes : Span := 0
  /-- What it says. -/
  answer : Check ε β

/-- Which checks have been made. -/
structure CheckLog where
  /-- How many. -/
  count : Nat := 0
  /-- When they began, the latest first. -/
  starts : List Instant := []
  deriving DecidableEq

/-- The next check of a script. -/
def CheckLog.next {ε β : Type} (script : Nat → TimedCheck ε β) (log : CheckLog) :
    Program (CheckLog × Check ε β) := do
  let start ← Program.clock
  let check := script log.count
  Program.pause check.takes
  return ({ count := log.count + 1, starts := start :: log.starts }, check.answer)

/-- The wait whose `n`-th check is the `n`-th of a script. -/
def Wait.runScript {ε β : Type} [Retryable ε] (w : Wait) (script : Nat → TimedCheck ε β) :
    Program (CheckLog × Except (WaitError ε) β) :=
  w.run (CheckLog.next script) {}

/-- The provider of a region in which there is nothing. -/
def Provider.void : Provider Unit where
  answer store _ _ _ := ({ outcome := .error (.notFound "nothing here") }, store)

end Reconciler
