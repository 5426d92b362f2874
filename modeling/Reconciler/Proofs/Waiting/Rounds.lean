import Reconciler.Poll
import Mathlib.Tactic.Common

/-!
# The rounds of a wait

A wait goes round by round: a check, and if that decides nothing, a look at the clock and a sleep.
What is left until the deadline shrinks by the stride of the wait in each round, so that a wait with
a positive interval comes to its deadline before it runs out of checks.

## What is proved

* `Wait.loop_succ`: a wait as its first check and the rest of it.
* `Wait.rest_afterNap`: what a sleep leaves of the time until the deadline.
* `Wait.enough_budget`, `Wait.Enough.next`: a wait with a positive interval has enough checks.
-/

namespace Reconciler

variable {σ τ ε β : Type} [Retryable ε]

/-! ### One round -/

/-- How a check ends a wait, if it does. -/
def Check.verdict? (policy : PollPolicy) : Check ε β → Option (Except (WaitError ε) β)
  | .done v => some (.ok v)
  | .notYet => none
  | .failed e =>
    if policy.abortsOn (Retryable.retryClass e) then some (.error (.aborted e)) else none

/-- The text of the last failure, after one more check. -/
def Check.lastError (before : Option String) : Check ε β → Option String
  | .failed e => some (Retryable.describe e)
  | _ => before

/-- A check ends a wait when it is done, or when it failed and the policy does not look past it. -/
theorem Check.verdict?_eq_some {policy : PollPolicy} {seen : Check ε β}
    {result : Except (WaitError ε) β} (h : seen.verdict? policy = some result) :
    (∃ v, seen = .done v ∧ result = .ok v) ∨
      ∃ e, seen = .failed e ∧ policy.abortsOn (Retryable.retryClass e) = true ∧
        result = .error (.aborted e) := by
  cases seen with
  | done v => exact .inl ⟨v, rfl, (Option.some.inj h).symm⟩
  | notYet => nomatch h
  | failed e =>
    rw [verdict?] at h
    split_ifs at h with aborts
    exact .inr ⟨e, rfl, aborts, (Option.some.inj h).symm⟩

namespace Wait

variable (w : Wait) (check : τ → Program (τ × Check ε β)) (started : Instant) (n : Nat) (s : τ)
  (lastError : Option String)

/-- The rest of a wait after a check that decided nothing. -/
def goOn : Program (τ × Except (WaitError ε) β) :=
  Program.clock.bind fun now =>
    if w.deadline ≤ now then .pure (s, .error (.timeout (now - started).toNat lastError))
    else (Program.pause (w.nap now)).bind fun _ => w.loop check started n s lastError

/-- The rest of a wait after a check. -/
def afterCheck : τ × Check ε β → Program (τ × Except (WaitError ε) β)
  | (s', seen) =>
    match seen.verdict? w.policy with
    | some result => .pure (s', result)
    | none => w.goOn check started n s' (seen.lastError lastError)

/-- A check that failed ends the wait, unless the policy looks past it. -/
theorem afterCheck_failed {e : ε} : w.afterCheck check started n lastError (s, .failed e) =
    if w.policy.abortsOn (Retryable.retryClass e) then .pure (s, .error (.aborted e))
    else w.goOn check started n s (some (Retryable.describe e)) := by
  dsimp only [afterCheck, Check.verdict?]
  split_ifs <;> rfl

/-- **A wait is its first check** and the rest of it. -/
theorem loop_succ : w.loop check started (n + 1) s lastError =
    (check s).bind (w.afterCheck check started n lastError) := by
  refine congrArg (check s).bind (funext fun ⟨s', seen⟩ => ?_)
  cases seen with
  | done v => rfl
  | notYet => rfl
  | failed e => exact (afterCheck_failed ..).symm

theorem afterCheck_of_some {seen : Check ε β} {result : Except (WaitError ε) β}
    (h : seen.verdict? w.policy = some result) :
    w.afterCheck check started n lastError (s, seen) = .pure (s, result) := by
  rw [afterCheck, h]

theorem afterCheck_of_none {seen : Check ε β} (h : seen.verdict? w.policy = none) :
    w.afterCheck check started n lastError (s, seen) =
      w.goOn check started n s (seen.lastError lastError) := by
  rw [afterCheck, h]

variable {p : Provider σ} {v : World σ}

theorem exec_goOn : (w.goOn check started n s lastError).exec p v =
    if w.deadline ≤ v.now then
      (some (s, .error (.timeout (v.now - started).toNat lastError)), v)
    else (w.loop check started n s lastError).exec p
      (v.afterSleep (min (w.nap v.now) longestSleep)) := by
  show (if w.deadline ≤ v.now then _ else _ : Program _).exec p v = _
  split_ifs <;> rfl

theorem trace_goOn : (w.goOn check started n s lastError).trace p v =
    if w.deadline ≤ v.now then []
    else (w.loop check started n s lastError).trace p
      (v.afterSleep (min (w.nap v.now) longestSleep)) := by
  show (if w.deadline ≤ v.now then _ else _ : Program _).trace p v = _
  split_ifs <;> rfl

/-! ### The time until the deadline -/

variable {w} {now : Instant} {n}

/-- How long it is until the deadline. -/
def rest (w : Wait) (now : Instant) : Nat := (w.deadline - now).toNat

theorem rest_eq_zero_iff : w.rest now = 0 ↔ w.deadline ≤ now :=
  Int.toNat_eq_zero.trans ⟨Int.le_of_sub_nonpos, Int.sub_nonpos_of_le⟩

/-- A way that is cut to what is left of it, and then to the longest there is. -/
theorem toNat_sub_add_min {goal here : Int} (way longest : Nat) (before : here < goal) :
    (goal - (here + (min (min way (goal - here).toNat) longest : Nat))).toNat =
        (goal - here).toNat - min way longest ∧
      here + (min (min way (goal - here).toNat) longest : Nat) ≤ goal := by
  omega

/-- **A sleep shortens the time until the deadline** by the stride, and ends at the deadline if that
is nearer. -/
theorem rest_afterNap (early : ¬ w.deadline ≤ now) :
    w.rest (now + (min (w.nap now) longestSleep : Nat)) = w.rest now - w.stride ∧
      now + (min (w.nap now) longestSleep : Nat) ≤ w.deadline :=
  toNat_sub_add_min w.interval longestSleep (Int.not_le.1 early)

theorem stride_pos (sleeps : w.interval ≠ 0) : 0 < w.stride :=
  Nat.lt_min.2 ⟨Nat.pos_of_ne_zero sleeps, by decide⟩

/-- **Enough checks** are left at an instant: one for the deadline, and before it one for each
stride until then. -/
def Enough (w : Wait) (now : Instant) (n : Nat) : Prop :=
  ∃ strides, n = strides + 1 ∧ w.rest now ≤ strides * w.stride

/-- **A wait that sleeps has enough checks.** -/
theorem enough_budget (interval : w.interval ≠ 0) (started : Instant) :
    w.Enough started (w.budget started) := by
  refine ⟨_, by rw [budget, if_neg interval], ?_⟩
  have whole := Nat.div_add_mod (w.rest started + (w.stride - 1)) w.stride
  have part := Nat.mod_lt (w.rest started + (w.stride - 1)) (stride_pos interval)
  rw [Nat.mul_comm] at whole
  show w.rest started ≤ (w.rest started + (w.stride - 1)) / w.stride * w.stride
  omega

theorem Enough.next (h : w.Enough now (n + 1)) (early : ¬ w.deadline ≤ now) :
    w.Enough (now + (min (w.nap now) longestSleep : Nat)) n := by
  obtain ⟨strides, hn, hrest⟩ := h
  obtain rfl := Nat.succ.inj hn
  have left := mt rest_eq_zero_iff.1 early
  cases n with
  | zero => omega
  | succ m =>
    refine ⟨m, rfl, ?_⟩
    rw [(rest_afterNap early).1]
    rw [Nat.succ_mul] at hrest
    omega

end Wait

end Reconciler
