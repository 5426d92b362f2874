import Reconciler.Proofs.Waiting.Timetable

/-!
# Waits with a later deadline

What a wait comes to before its deadline does not depend on how late the deadline is. A later one
only lengthens the sleep that the earlier one cut short, and that sleep is the last: it ends at the
earlier deadline, so that the check after it is the last one that the earlier deadline allows. The
deadlines, the interval and the checks are in whole milliseconds, and fractions are not covered.

## What is proved

* `Wait.startOf_prolong`: when the checks of the two waits begin.
* `Wait.EndsAt.prolong`: a check that decides the wait ends it under a later deadline too.
* `Wait.EndsAt.of_prolong`: a wait that gives up under the later deadline gives up under the earlier
  one.
* `Wait.prolong_keeps_outcome`: a later deadline loses no outcome.
-/

namespace Reconciler

variable {σ ε β : Type}

/-- A wait that gave up for want of time. -/
def WantsTime (result : Except (WaitError ε) β) : Prop :=
  ∃ waited lastError, result = .error (.timeout waited lastError)

namespace Wait

/-- The wait with another deadline. -/
def prolong (w : Wait) (later : Instant) : Wait := { w with deadline := later }

variable [Retryable ε] {w : Wait} {later started : Instant} {script : ℕ → TimedCheck ε β}
  {N k : ℕ}

/-- Two sleeps of the same interval from the same instant, cut short by two deadlines: they end at
the same time, unless the earlier deadline cut one of them short. -/
theorem sleep_prolong {now first second : Int} (interval longest : Nat) (early : now < first)
    (le : first ≤ second) :
    now + (min (min interval (second - now).toNat) longest : Nat) =
        now + (min (min interval (first - now).toNat) longest : Nat) ∨
      now + (min (min interval (first - now).toNat) longest : Nat) = first ∧
        first ≤ now + (min (min interval (second - now).toNat) longest : Nat) := by
  omega

/-- **A check begins at the same time** under a later deadline, unless it begins at the earlier
deadline. -/
theorem startOf_prolong (le : w.deadline ≤ later) (h : ∀ j < k, ¬ w.OverAt script started j) :
    (w.prolong later).startOf script started k = w.startOf script started k ∨
      w.startOf script started k = w.deadline ∧
        w.deadline ≤ (w.prolong later).startOf script started k := by
  induction k with
  | zero => exact .inl rfl
  | succ k ih =>
    -- The check before ended ahead of the deadline, so it began ahead of it, at the same time.
    have early := Int.not_le.1 (not_or.1 (h k (Nat.lt_succ_self k))).2
    rcases ih fun j hj => h j (Nat.lt_succ_of_lt hj) with same | ⟨atDeadline, -⟩
    · rw [startOf_succ, startOf_succ, endOf, endOf, same]
      exact sleep_prolong w.interval longestSleep early le
    · exact absurd atDeadline (Int.ne_of_lt (Int.lt_of_le_of_lt (startOf_le_endOf k) early))

theorem endOf_prolong (le : w.deadline ≤ later) (h : ∀ j < k, ¬ w.OverAt script started j)
    (early : w.endOf script started k < w.deadline) :
    (w.prolong later).startOf script started k = w.startOf script started k ∧
      (w.prolong later).endOf script started k = w.endOf script started k := by
  have began := Int.lt_of_le_of_lt (startOf_le_endOf k) early
  have same := (startOf_prolong le h).resolve_right fun ⟨atDeadline, _⟩ =>
    Int.ne_of_lt began atDeadline
  exact ⟨same, by rw [endOf, endOf, same]⟩

/-- A check after which a wait is not over is made at the same time under a later deadline, and the
wait is not over then either. -/
theorem not_overAt_prolong (le : w.deadline ≤ later) (h : ∀ j ≤ k, ¬ w.OverAt script started j) :
    (w.prolong later).startOf script started k = w.startOf script started k ∧
      ¬ (w.prolong later).OverAt script started k := by
  obtain ⟨undecided, early⟩ := not_or.1 (h k (Nat.le_refl k))
  obtain ⟨same, ended⟩ :=
    endOf_prolong le (fun j hj => h j (Nat.le_of_lt hj)) (Int.not_le.1 early)
  refine ⟨same, not_or.2 ⟨undecided, ?_⟩⟩
  rw [ended]
  exact fun late => early (Int.le_trans le late)

/-- **A check that decides a wait** ends it under a later deadline too, and the checks before it are
made at the same times. -/
theorem EndsAt.prolong (ends : w.EndsAt script started N) (le : w.deadline ≤ later)
    (decides : (script N).answer.Decides w.policy) :
    (w.prolong later).EndsAt script started N ∧
      ∀ k < N, (w.prolong later).startOf script started k = w.startOf script started k :=
  have unchanged (k : ℕ) (hk : k < N) := not_overAt_prolong le fun j (hj : j ≤ k) =>
    ends.before j (Nat.lt_of_le_of_lt hj hk)
  ⟨⟨.inl decides, fun k hk => (unchanged k hk).2⟩, fun k hk => (unchanged k hk).1⟩

/-- **A wait that gives up under the later deadline** gives up under the earlier one, with the same
check or one before it. -/
theorem EndsAt.of_prolong (ends : (w.prolong later).EndsAt script started N)
    (le : w.deadline ≤ later) (undecided : ¬ (script N).answer.Decides w.policy) :
    ∃ M ≤ N, w.EndsAt script started M ∧ ¬ (script M).answer.Decides w.policy := by
  have isOver : ∃ k ≤ N, w.OverAt script started k := by
    by_contra! none_over
    exact (not_overAt_prolong le none_over).2 ends.isOver
  obtain ⟨k, hk, isOver⟩ := isOver
  obtain ⟨M, hM, ends'⟩ := exists_endsAt isOver
  refine ⟨M, Nat.le_trans hM hk, ends', fun decides => ?_⟩
  -- What decides the earlier wait would have decided the later one.
  rcases Nat.lt_or_eq_of_le (Nat.le_trans hM hk) with before | rfl
  · exact ends.before M before (.inl decides)
  · exact undecided decides

theorem Concludes.wantsTime_iff {result : Except (WaitError ε) β}
    (h : w.Concludes script started N result) :
    WantsTime result ↔ ¬ (script N).answer.Decides w.policy := by
  cases h with
  | done is_done =>
    rw [is_done]
    exact ⟨fun ⟨_, _, h⟩ => (nomatch h), fun h => absurd trivial h⟩
  | aborted failed aborts =>
    rw [failed]
    exact ⟨fun ⟨_, _, h⟩ => (nomatch h), fun h => absurd aborts h⟩
  | timeout undecided => exact ⟨fun _ => undecided, fun _ => ⟨_, _, rfl⟩⟩

theorem Concludes.prolong (later : Instant) {result : Except (WaitError ε) β}
    (h : w.Concludes script started N result) (decides : (script N).answer.Decides w.policy) :
    (w.prolong later).Concludes script started N result := by
  cases h with
  | done is_done => exact .done is_done
  | aborted failed aborts => exact .aborted failed aborts
  | timeout undecided => exact absurd decides undecided

/-- **A later deadline loses no outcome.** What a wait comes to before it wants for time, it comes
to under a later deadline as well, with as many checks, all but the last of which begin at the same
times; and if it wants for time under the later deadline, it does so under the earlier one. -/
theorem prolong_keeps_outcome (script : ℕ → TimedCheck ε β) (le : w.deadline ≤ later)
    (p : Provider σ) (v : World σ) :
    (∀ log result, ((w.runTimed script).exec p v).1 = some (log, result) → ¬ WantsTime result →
      ∃ log', (((w.prolong later).runTimed script).exec p v).1 = some (log', result) ∧
        log'.count = log.count ∧ log'.starts.tail = log.starts.tail) ∧
      ∀ log result, (((w.prolong later).runTimed script).exec p v).1 = some (log, result) →
        WantsTime result →
        ∃ log' result', ((w.runTimed script).exec p v).1 = some (log', result') ∧
          WantsTime result' := by
  refine ⟨fun log result run decided => ?_, fun log result run wants => ?_⟩
  · obtain ⟨N, inBudget, ends, rfl, concludes⟩ := endsAt_of_exec run
    have decides := of_not_not (mt concludes.wantsTime_iff.2 decided)
    obtain ⟨ends', same⟩ := ends.prolong le decides
    obtain ⟨result', comesTo, run'⟩ :=
      ends'.exec_runTimed (p := p) (ends'.lt_budget (allowed_of_lt_budget (w := w) inBudget))
    obtain rfl := comesTo.unique (concludes.prolong later decides)
    exact ⟨_, congrArg Prod.fst run', rfl, tail_starts_logUpTo same⟩
  · obtain ⟨N, inBudget, ends, rfl, concludes⟩ := endsAt_of_exec run
    obtain ⟨M, hM, ends', undecided⟩ := ends.of_prolong le (concludes.wantsTime_iff.1 wants)
    have allowed : w.interval ≠ 0 ∨ M < w.idleChecks :=
      (allowed_of_lt_budget (w := w.prolong later) inBudget).imp_right (Nat.lt_of_le_of_lt hM)
    obtain ⟨result', concludes', run'⟩ := ends'.exec_runTimed (p := p) (ends'.lt_budget allowed)
    exact ⟨_, result', congrArg Prod.fst run', concludes'.wantsTime_iff.2 undecided⟩

/-- A wait whose deadline is not a multiple of its interval. -/
def brisk : Wait where
  deadline := 10
  interval := 7
  policy := .retryAll

/-- Checks the third of which succeeds. -/
def thirdSucceeds : ℕ → TimedCheck PlainError Unit
  | 0 | 1 => { answer := .notYet }
  | _ => { answer := .done () }

/-- The third check falls on the deadline. A later deadline delays it, and lets a wait that comes to
nothing go on. -/
theorem prolong_keeps_outcome_brisk :
    brisk.deadline ≤ 100 ∧
      ((brisk.runTimed thirdSucceeds).exec Provider.void ⟨(), 0⟩).1 =
        some (⟨3, [10, 7, 0]⟩, .ok ()) ∧
      (∃ log, (((brisk.prolong 100).runTimed thirdSucceeds).exec Provider.void ⟨(), 0⟩).1 =
        some (log, .ok ()) ∧ log.count = 3 ∧ log.starts.tail = [7, 0]) ∧
      ∃ log result, ((brisk.runTimed neverDone).exec Provider.void ⟨(), 0⟩).1 =
        some (log, result) ∧ WantsTime result := by
  have le : brisk.deadline ≤ 100 := by decide
  have run : ((brisk.runTimed thirdSucceeds).exec Provider.void ⟨(), 0⟩).1 =
      some (⟨3, [10, 7, 0]⟩, .ok ()) := by decide +kernel
  have gaveUp : (((brisk.prolong 100).runTimed neverDone).exec Provider.void ⟨(), 0⟩).1.map
      Prod.snd = some (.error (.timeout 100 none)) := by decide +kernel
  obtain ⟨⟨log, result⟩, late, rfl⟩ := Option.map_eq_some_iff.1 gaveUp
  refine ⟨le, run, (prolong_keeps_outcome thirdSucceeds le Provider.void ⟨(), 0⟩).1 _ _ run ?_,
    (prolong_keeps_outcome neverDone le Provider.void ⟨(), 0⟩).2 log _ late ⟨100, none, rfl⟩⟩
  exact fun ⟨_, _, h⟩ => nomatch h

end Wait

end Reconciler
