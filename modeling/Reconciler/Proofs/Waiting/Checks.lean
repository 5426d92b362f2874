import Reconciler.Proofs.Waiting.Timetable
import Mathlib.Algebra.Order.Floor.Div

/-!
# How many checks a wait makes

The time until the deadline measures a wait that sleeps: every sleep takes a stride off it, but for
the last, which ends at the deadline. So a wait makes one check for each stride until the deadline,
rounded up, and one more. It makes as many as that if no check takes time and none decides it, and
then the last check falls on the deadline.

## What is proved

* `Wait.budget_eq`: how many checks a wait may make.
* `Wait.rest_startOf`: the time that checks which take none leave until the deadline.
* `Wait.checks_bounded`: how many checks a wait makes.
-/

namespace Reconciler

namespace Wait

variable {σ ε β : Type} {w : Wait} {started : Instant} {script : ℕ → TimedCheck ε β}

/-- **The checks that a wait may make**: one for each stride until its deadline, rounded up, and
one. -/
theorem budget_eq (sleeps : w.interval ≠ 0) :
    w.budget started = 1 + w.rest started ⌈/⌉ w.stride := by
  rw [budget, if_neg sleeps, Nat.ceilDiv_eq_add_pred_div, Nat.add_comm, rest,
    ← Nat.add_sub_assoc (stride_pos sleeps)]

theorem endOf_of_takes_zero {k : ℕ} (atOnce : (script k).takes = 0) :
    w.endOf script started k = w.startOf script started k := by
  rw [endOf, atOnce]
  exact Int.add_zero _

variable [Retryable ε]

/-- **What is left until the deadline** when checks take no time: each sleep takes a stride off it,
and none goes past the deadline. -/
theorem rest_startOf (atOnce : ∀ k, (script k).takes = 0) {k : ℕ}
    (h : ∀ j < k, ¬ w.OverAt script started j) :
    w.rest (w.startOf script started k) = w.rest started - k * w.stride ∧
      (started ≤ w.deadline → w.startOf script started k ≤ w.deadline) := by
  induction k with
  | zero => exact ⟨by rw [Nat.zero_mul]; rfl, id⟩
  | succ k ih =>
    obtain ⟨left, -⟩ := ih fun j hj => h j (Nat.lt_succ_of_lt hj)
    have early := (not_or.1 (h k (Nat.lt_succ_self k))).2
    obtain ⟨shorter, reached⟩ := rest_afterNap early
    refine ⟨?_, fun _ => reached⟩
    rw [startOf_succ, shorter, endOf_of_takes_zero (atOnce k), left, Nat.succ_mul, Nat.sub_sub]

/-- **A wait that nothing decides** makes all its checks, if they take no time, and the last falls
on the deadline, or on the beginning if the deadline had passed. -/
theorem EndsAt.of_instant {N : ℕ} (ends : w.EndsAt script started N) (sleeps : w.interval ≠ 0)
    (atOnce : ∀ k, (script k).takes = 0)
    (undecided : ∀ k, ¬ (script k).answer.Decides w.policy) :
    N + 1 = w.budget started ∧ w.startOf script started N = max started w.deadline := by
  obtain ⟨left, ahead⟩ := rest_startOf atOnce ends.before
  have late := ends.isOver.resolve_left (undecided N)
  rw [endOf_of_takes_zero (atOnce N)] at late
  refine ⟨Nat.le_antisymm (ends.lt_budget (.inl sleeps)) ?_, ?_⟩
  · rw [rest_eq_zero_iff.2 late, eq_comm, Nat.sub_eq_zero_iff_le] at left
    rw [budget_eq sleeps, Nat.add_comm N]
    have strides := (ceilDiv_le_iff_le_mul (stride_pos sleeps)).2 (Nat.mul_comm N _ ▸ left)
    exact Nat.add_le_add_left strides 1
  · rcases Int.le_total started w.deadline with le | le
    · rw [max_eq_right le]
      exact Int.le_antisymm (ahead le) late
    · have first : N = 0 := by
        by_contra later
        have early := (not_or.1 (ends.before 0 (Nat.pos_of_ne_zero later))).2
        rw [endOf_of_takes_zero (atOnce 0)] at early
        exact early le
      rw [first, max_eq_left le]
      rfl

/-- **How many checks a wait makes** that sleeps: it ends, with no more checks than strides until
its deadline, rounded up, and one. It makes as many if they take no time and decide nothing, and
the last of them begins at the deadline, or at once if the deadline has passed. -/
theorem checks_bounded (sleeps : w.interval ≠ 0) (script : ℕ → TimedCheck ε β) (p : Provider σ)
    (v : World σ) :
    ∃ log result, ((w.runTimed script).exec p v).1 = some (log, result) ∧
      log.count ≤ 1 + (w.deadline - v.now).toNat ⌈/⌉ min w.interval longestSleep ∧
      ((∀ k, (script k).takes = 0 ∧ ¬ (script k).answer.Decides w.policy) →
        log.count = 1 + (w.deadline - v.now).toNat ⌈/⌉ min w.interval longestSleep ∧
          log.starts.head? = some (max v.now w.deadline)) := by
  obtain ⟨k, hk, isOver⟩ := exists_overAt script v.now sleeps
  obtain ⟨N, hN, ends⟩ := exists_endsAt isOver
  obtain ⟨result, -, run⟩ := ends.exec_runTimed (p := p) (Nat.lt_of_le_of_lt hN hk)
  have budgeted : w.budget v.now =
      1 + (w.deadline - v.now).toNat ⌈/⌉ min w.interval longestSleep := budget_eq sleeps
  refine ⟨_, result, congrArg Prod.fst run, ?_, fun idle => ?_⟩
  · rw [← budgeted]
    exact Nat.lt_of_le_of_lt hN hk
  · obtain ⟨count, last⟩ := ends.of_instant sleeps (fun k => (idle k).1) fun k => (idle k).2
    rw [← budgeted, logUpTo_succ, ← last]
    exact ⟨count, rfl⟩

/-- **A sleep that ends before its time** makes a check more than the intervals until the deadline,
rounded up, and one: they are two, but a third check falls on the deadline. -/
theorem checks_exceed_intervals :
    ((patient.runScript neverDone).exec Provider.void ⟨(), 0⟩).1 =
        some ({ count := 3, starts := [946080000001, 946080000000, 0] },
          .error (.timeout 946080000001 none)) ∧
      1 + (patient.deadline - 0).toNat ⌈/⌉ patient.interval = 2 := by
  refine ⟨by decide +kernel, ?_⟩
  rw [Nat.ceilDiv_eq_add_pred_div]
  rfl

end Wait

end Reconciler
