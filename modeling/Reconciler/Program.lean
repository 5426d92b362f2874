import Reconciler.Provider.Call
import Reconciler.Provider.Error

/-!
# Programs that drive a provider

An operation on an instance is a *program*: a tree of calls to a provider, each followed by a
continuation for every answer it may get, with looks at the clock and sleeps between them. What a
program does is thus separated from who answers: `Program.exec` runs it against any `Provider`, and
a statement about every provider is a statement about the tree.

## The model

* `Instant` and `Span` count whole milliseconds. The clock stands still except while a program
  sleeps and while an answer is delayed.
* A sleep that is to last longer than `longestSleep` ends then. The limit is not one of the programs:
  it is that of the runtime by whose timer they sleep, and it was taken from runs in which the timer
  was asked for more than thirty years of 365 days.
* A `Provider` answers one call at a time out of a store of its own. Its answer may depend on the
  instant, the region, the call and everything that happened before, by way of the store.
* `Program.exec` gives the result and the world afterwards; `Program.trace` gives the calls that
  were made, with their instants and outcomes, in order. A program may be *unfinished*: a wait in it
  that does not sleep has used up the checks it may make.

## Honest scope

A program makes one call at a time, and nothing but a sleep or a delayed answer takes time. Times
that are no whole number of milliseconds are left out: no timeout, interval, sleep or delay here has
a fraction of a millisecond, and nothing is said of one that has.
-/

namespace Reconciler

/-- A point of time in milliseconds. -/
abbrev Instant := Int

/-- A length of time in milliseconds. -/
abbrev Span := Nat

/-- How long a sleep may last: thirty years of 365 days. -/
def longestSleep : Span := 30 * 365 * 86400 * 1000

/-- The outcome of a call. -/
abbrev Outcome (c : Call) := Except RemoteError c.Answer

/-- A tree of calls, looks at the clock and sleeps that ends in a value. -/
inductive Program (α : Type) : Type where
  /-- Ends with a value. -/
  | pure (value : α)
  /-- Makes a call and goes on with its outcome. -/
  | call (region : Region) (c : Call) (next : Outcome c → Program α)
  /-- Looks at the clock. -/
  | now (next : Instant → Program α)
  /-- Sleeps. -/
  | sleep (span : Span) (next : Program α)
  /-- Stops without a value, since a wait used up its checks. -/
  | unfinished

namespace Program

variable {α β γ : Type}

/-- Goes on with the value of a program. -/
def bind : Program α → (α → Program β) → Program β
  | .pure a, f => f a
  | .call r c k, f => .call r c fun o => (k o).bind f
  | .now k, f => .now fun t => (k t).bind f
  | .sleep d p, f => .sleep d (p.bind f)
  | .unfinished, _ => .unfinished

instance : Monad Program where
  pure := .pure
  bind := bind

@[simp] theorem pure_bind' (a : α) (f : α → Program β) : (Program.pure a).bind f = f a := rfl

/-- A value that is only handed on changes nothing. -/
theorem bind_pure' (p : Program α) : p.bind .pure = p := by
  induction p with
  | pure a => rfl
  | call r c k ih => simp only [bind, ih]
  | now k ih => simp only [bind, ih]
  | sleep d p ih => simp only [bind, ih]
  | unfinished => rfl

/-- How programs are grouped does not matter. -/
theorem bind_assoc' (p : Program α) (f : α → Program β) (g : β → Program γ) :
    (p.bind f).bind g = p.bind fun a => (f a).bind g := by
  induction p with
  | pure a => rfl
  | call r c k ih => simp only [bind, ih]
  | now k ih => simp only [bind, ih]
  | sleep d p ih => simp only [bind, ih]
  | unfinished => rfl

instance : LawfulMonad Program := LawfulMonad.mk' _
  (fun p => bind_pure' p)
  (fun _ _ => rfl)
  (fun p f g => bind_assoc' p f g)

/-- Makes a call. -/
def request (region : Region) (c : Call) : Program (Outcome c) := .call region c .pure

/-- The instant of the clock. -/
def clock : Program Instant := .now .pure

/-- Sleeps for a span, or as long as a sleep may last if that is less. -/
def pause (span : Span) : Program Unit := .sleep (min span longestSleep) (.pure ())

end Program

/-! ### Running a program -/

/-- The answer to a call, and how long it takes to come. -/
structure Reply (α : Type) where
  /-- What is answered. -/
  outcome : Except RemoteError α
  /-- How long the caller waits for it. -/
  delay : Span := 0

/-- Someone who answers calls out of a store. -/
structure Provider (σ : Type) where
  /-- The answer to a call and the store after it. -/
  answer : σ → Instant → Region → (c : Call) → Reply c.Answer × σ

/-- The store of a provider and the instant of the clock. -/
structure World (σ : Type) where
  /-- The store. -/
  store : σ
  /-- The instant. -/
  now : Instant := 0

/-- A call that was made, and what came of it. -/
structure Exchange where
  /-- When the call was made. -/
  start : Instant
  /-- Where it went. -/
  region : Region
  /-- The call. -/
  call : Call
  /-- What was answered. -/
  outcome : Outcome call

namespace World

variable {σ : Type}

/-- The world after a call has been answered. -/
def afterCall (p : Provider σ) (w : World σ) (region : Region) (c : Call) : World σ :=
  let (reply, store) := p.answer w.store w.now region c
  { store, now := w.now + reply.delay }

/-- What is answered to a call. -/
def outcome (p : Provider σ) (w : World σ) (region : Region) (c : Call) : Outcome c :=
  (p.answer w.store w.now region c).1.outcome

/-- The world after a sleep. -/
def afterSleep (w : World σ) (span : Span) : World σ := { w with now := w.now + span }

end World

namespace Program

variable {α β σ : Type}

/-- Runs a program: its value, unless it is unfinished, and the world afterwards. -/
def exec (p : Provider σ) : Program α → World σ → Option α × World σ
  | .pure a, w => (some a, w)
  | .call r c k, w =>
    let (reply, store) := p.answer w.store w.now r c
    (k reply.outcome).exec p { store, now := w.now + reply.delay }
  | .now k, w => (k w.now).exec p w
  | .sleep d q, w => q.exec p (w.afterSleep d)
  | .unfinished, w => (none, w)

/-- The calls that a run makes, in order. -/
def trace (p : Provider σ) : Program α → World σ → List Exchange
  | .pure _, _ => []
  | .call r c k, w =>
    ⟨w.now, r, c, w.outcome p r c⟩ :: (k (w.outcome p r c)).trace p (w.afterCall p r c)
  | .now k, w => (k w.now).trace p w
  | .sleep d q, w => q.trace p (w.afterSleep d)
  | .unfinished, _ => []

@[simp] theorem exec_pure (p : Provider σ) (a : α) (w : World σ) :
    (Program.pure a).exec p w = (some a, w) := rfl

@[simp] theorem exec_call (p : Provider σ) (r : Region) (c : Call) (k : Outcome c → Program α)
    (w : World σ) :
    (Program.call r c k).exec p w = (k (w.outcome p r c)).exec p (w.afterCall p r c) := rfl

@[simp] theorem exec_now (p : Provider σ) (k : Instant → Program α) (w : World σ) :
    (Program.now k).exec p w = (k w.now).exec p w := rfl

@[simp] theorem exec_sleep (p : Provider σ) (d : Span) (q : Program α) (w : World σ) :
    (Program.sleep d q).exec p w = q.exec p (w.afterSleep d) := rfl

@[simp] theorem exec_unfinished (p : Provider σ) (w : World σ) :
    (Program.unfinished : Program α).exec p w = (none, w) := rfl

/-- A run of two programs in a row runs the second where the first ended. -/
theorem exec_bind (p : Provider σ) (q : Program α) (f : α → Program β) (w : World σ) :
    (q.bind f).exec p w =
      match q.exec p w with
      | (some a, w') => (f a).exec p w'
      | (none, w') => (none, w') := by
  induction q generalizing w with
  | pure a => rfl
  | call r c k ih => exact ih _ _
  | now k ih => exact ih _ _
  | sleep d q ih => exact ih _
  | unfinished => rfl

/-- The calls of two programs in a row are those of the first and then those of the second. -/
theorem trace_bind (p : Provider σ) (q : Program α) (f : α → Program β) (w : World σ) :
    (q.bind f).trace p w = q.trace p w ++
      match q.exec p w with
      | (some a, w') => (f a).trace p w'
      | (none, _) => [] := by
  induction q generalizing w with
  | pure a => rfl
  | call r c k ih =>
    simp only [bind, trace, List.cons_append, exec_call]
    exact congrArg _ (ih _ _)
  | now k ih => exact ih _ _
  | sleep d q ih => exact ih _
  | unfinished => rfl

end Program

end Reconciler
