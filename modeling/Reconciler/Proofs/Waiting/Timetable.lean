import Reconciler.Proofs.Waiting.Rounds
import Mathlib.Data.Nat.Find

/-!
# The timetable of a wait

Let the checks of a wait be given in advance: how long each takes, and what it says. Then it is
known when each check begins and ends. The first begins at once, and each later one begins when the
one before has ended and the wait has slept: for its interval, or until the deadline if that is
nearer, but never longer than `longestSleep`. The wait is over with the first check that decides it
or that ends when the deadline has come. All times are whole milliseconds: a check or an interval
that lasts a fraction of one is not covered.

## What is proved

* `Wait.exec_after_goesOn`, `Wait.exec_after_over`: one round of the wait.
* `Wait.exec_after_upTo`: the rounds before the wait is over.
* `Wait.exists_overAt`: a wait that sleeps is over before it runs out of checks.
* `Wait.run_keeps_timetable`: which checks are made and when, and what the wait comes to.
* `Wait.interval_cut_short`: a wait whose sleep ends before its interval has passed.
-/

namespace Reconciler

variable {σ ε β : Type}

/-! ### When checks begin and end -/

/-- The next check of a script, which takes all the time that it takes. -/
def CheckLog.take (script : ℕ → TimedCheck ε β) (log : CheckLog) :
    Program (CheckLog × Check ε β) :=
  .now fun start => .sleep (script log.count).takes
    (.pure ({ count := log.count + 1, starts := start :: log.starts }, (script log.count).answer))

theorem CheckLog.exec_take {p : Provider σ} {script : ℕ → TimedCheck ε β} {log : CheckLog}
    {v : World σ} : (log.take script).exec p v =
      (some ({ count := log.count + 1, starts := v.now :: log.starts }, (script log.count).answer),
        v.afterSleep (script log.count).takes) := rfl

namespace Wait

variable (w : Wait) (script : ℕ → TimedCheck ε β) (started : Instant)

/-- When the `k`-th check begins, if the wait is not over before. -/
def startOf : ℕ → Instant
  | 0 => started
  | k + 1 =>
    startOf k + (script k).takes +
      (min (w.nap (startOf k + (script k).takes)) longestSleep : ℕ)

/-- When the `k`-th check ends. -/
def endOf (k : ℕ) : Instant := w.startOf script started k + (script k).takes

/-- The log of the first `k` checks. -/
def logUpTo (k : ℕ) : CheckLog where
  count := k
  starts := ((List.range k).map (w.startOf script started)).reverse

variable {w script started}

/-- A check begins when the wait has slept after the one before. -/
theorem startOf_succ (k : ℕ) : w.startOf script started (k + 1) =
    w.endOf script started k + (min (w.nap (w.endOf script started k)) longestSleep : ℕ) := rfl

theorem logUpTo_succ (k : ℕ) : w.logUpTo script started (k + 1) =
    { count := k + 1,
      starts := w.startOf script started k :: (w.logUpTo script started k).starts } := by
  rw [logUpTo, logUpTo, List.range_succ, List.map_append, List.reverse_append]
  rfl

/-- Logs of checks that began at the same times, but for the last. -/
theorem tail_starts_logUpTo {w' : Wait} {N : ℕ}
    (h : ∀ k < N, w'.startOf script started k = w.startOf script started k) :
    (w'.logUpTo script started (N + 1)).starts.tail =
      (w.logUpTo script started (N + 1)).starts.tail := by
  rw [logUpTo_succ, logUpTo_succ, List.tail_cons, List.tail_cons, logUpTo, logUpTo]
  exact congrArg List.reverse (List.map_congr_left fun k hk => h k (List.mem_range.1 hk))

theorem startOf_le_endOf (k : ℕ) : w.startOf script started k ≤ w.endOf script started k :=
  Int.le_add_of_nonneg_right (Int.natCast_nonneg _)

theorem started_le_startOf (k : ℕ) : started ≤ w.startOf script started k := by
  induction k with
  | zero => exact Int.le_refl _
  | succ k ih =>
    rw [startOf_succ]
    exact Int.le_trans (Int.le_trans ih (startOf_le_endOf k))
      (Int.le_add_of_nonneg_right (Int.natCast_nonneg _))

end Wait

/-! ### When the wait is over -/

variable [Retryable ε]

/-- A check decides a wait if it is done, or if it failed and the policy does not look past it. -/
def Check.Decides (policy : PollPolicy) : Check ε β → Prop
  | .done _ => True
  | .notYet => False
  | .failed e => policy.abortsOn (Retryable.retryClass e) = true

instance (policy : PollPolicy) (seen : Check ε β) : Decidable (seen.Decides policy) :=
  match seen with
  | .done _ => inferInstanceAs (Decidable True)
  | .notYet => inferInstanceAs (Decidable False)
  | .failed e => inferInstanceAs (Decidable (policy.abortsOn (Retryable.retryClass e) = true))

/-- The text of a failure. -/
def Check.failure? : Check ε β → Option String
  | .failed e => some (Retryable.describe e)
  | _ => none

/-- The text of the last failure among the first `n` checks of a script. -/
def lastFailure? (script : ℕ → TimedCheck ε β) (n : ℕ) : Option String :=
  (List.range n).reverse.findSome? fun k => (script k).answer.failure?

/-- **A check that decides nothing** has no verdict. -/
theorem Check.verdict?_eq_none_iff {policy : PollPolicy} {seen : Check ε β} :
    seen.verdict? policy = none ↔ ¬ seen.Decides policy := by
  cases seen with
  | done v => exact ⟨fun h => (nomatch h), fun h => absurd trivial h⟩
  | notYet => exact ⟨fun _ h => h, fun _ => rfl⟩
  | failed e =>
    rw [verdict?, Decides]
    split_ifs with aborts <;> simp [aborts]

/-- Another check leaves the last failure as it was, unless it fails itself. -/
theorem lastFailure?_succ (script : ℕ → TimedCheck ε β) (n : ℕ) :
    lastFailure? script (n + 1) = (script n).answer.lastError (lastFailure? script n) := by
  rw [lastFailure?, List.range_succ, List.reverse_append, List.reverse_singleton,
    List.singleton_append, List.findSome?_cons]
  cases (script n).answer <;> rfl

namespace Wait

/-- The wait whose `n`-th check is the `n`-th of a script, however long the checks take. -/
def runTimed (w : Wait) (script : ℕ → TimedCheck ε β) :
    Program (CheckLog × Except (WaitError ε) β) :=
  w.run (CheckLog.take script) {}

/-- A check that only sleeps is over when its sleep is. -/
theorem runScript_eq_runTimed (w : Wait) (script : ℕ → TimedCheck ε β) :
    w.runScript script =
      w.runTimed fun k => { script k with takes := min (script k).takes longestSleep } := rfl

variable (w : Wait) (script : ℕ → TimedCheck ε β) (started : Instant)

/-- The wait is over after the `k`-th check, if not before: the check decides it, or the deadline
has come. -/
def OverAt (k : ℕ) : Prop :=
  (script k).answer.Decides w.policy ∨ w.deadline ≤ w.endOf script started k

instance (k : ℕ) : Decidable (w.OverAt script started k) :=
  inferInstanceAs (Decidable (_ ∨ _))

/-- The `N`-th check is the first after which the wait is over. -/
structure EndsAt (N : ℕ) : Prop where
  /-- The wait is over. -/
  isOver : w.OverAt script started N
  /-- It was not over before. -/
  before : ∀ k < N, ¬ w.OverAt script started k

/-- **What a wait comes to** with its `N`-th check. A value counts even if it comes late; for want
of time a wait gives up after a check that decides nothing, when the deadline has come. -/
inductive Concludes (N : ℕ) : Except (WaitError ε) β → Prop where
  /-- The check is done. -/
  | done {v : β} : (script N).answer = .done v → Concludes N (.ok v)
  /-- The check failed, and the policy does not look past it. -/
  | aborted {e : ε} : (script N).answer = .failed e →
      w.policy.abortsOn (Retryable.retryClass e) = true → Concludes N (.error (.aborted e))
  /-- The check decides nothing, and the deadline has come. -/
  | timeout {waited : Span} : ¬ (script N).answer.Decides w.policy →
      w.deadline ≤ w.endOf script started N → (waited : Int) = w.endOf script started N - started →
      Concludes N (.error (.timeout waited (lastFailure? script (N + 1))))

variable {w script started}

/-- **The first check after which a wait is over**, if there is one. -/
theorem exists_endsAt {k : ℕ} (isOver : w.OverAt script started k) :
    ∃ N ≤ k, w.EndsAt script started N := by
  have some_over : ∃ k, w.OverAt script started k := ⟨k, isOver⟩
  exact ⟨Nat.find some_over, Nat.find_min' some_over isOver, Nat.find_spec some_over,
    fun _ => Nat.find_min some_over⟩

theorem Concludes.unique {N : ℕ} {r r' : Except (WaitError ε) β}
    (h : w.Concludes script started N r) (h' : w.Concludes script started N r') : r = r' := by
  cases h with
  | done is_done =>
    cases h' with
    | done is_done' => rw [is_done] at is_done'; cases is_done'; rfl
    | aborted failed' => rw [is_done] at failed'; nomatch failed'
    | timeout undecided' => rw [is_done] at undecided'; exact absurd trivial undecided'
  | aborted failed aborts =>
    cases h' with
    | done is_done' => rw [failed] at is_done'; nomatch is_done'
    | aborted failed' => rw [failed] at failed'; cases failed'; rfl
    | timeout undecided' => rw [failed] at undecided'; exact absurd aborts undecided'
  | timeout undecided late waited =>
    cases h' with
    | done is_done' => rw [is_done'] at undecided; exact absurd trivial undecided
    | aborted failed' aborts' => rw [failed'] at undecided; exact absurd aborts' undecided
    | timeout _ _ waited' =>
      obtain rfl := Int.ofNat.inj (waited.trans waited'.symm)
      rfl

/-! ### One round -/

variable {p : Provider σ} {store : σ}

/-- The wait after its first `k` checks, with `n` checks left. -/
def after (w : Wait) (script : ℕ → TimedCheck ε β) (started : Instant) (n k : ℕ) :
    Program (CheckLog × Except (WaitError ε) β) :=
  w.loop (CheckLog.take script) started n (w.logUpTo script started k) (lastFailure? script k)

/-- A round is a check, and then the rest of the wait. -/
theorem exec_after_succ (n k : ℕ) :
    (w.after script started (n + 1) k).exec p ⟨store, w.startOf script started k⟩ =
      (w.afterCheck (CheckLog.take script) started n (lastFailure? script k)
        (w.logUpTo script started (k + 1), (script k).answer)).exec p
          ⟨store, w.endOf script started k⟩ := by
  rw [after, loop_succ, Program.exec_bind, CheckLog.exec_take, logUpTo_succ]
  rfl

/-- **A wait that is not over goes on** with the next check. -/
theorem exec_after_goesOn (n : ℕ) {k : ℕ} (h : ¬ w.OverAt script started k) :
    (w.after script started (n + 1) k).exec p ⟨store, w.startOf script started k⟩ =
      (w.after script started n (k + 1)).exec p ⟨store, w.startOf script started (k + 1)⟩ := by
  obtain ⟨undecided, early⟩ := not_or.1 h
  rw [exec_after_succ, afterCheck_of_none _ _ _ _ _ _ (Check.verdict?_eq_none_iff.2 undecided),
    exec_goOn, if_neg early, ← lastFailure?_succ]
  rfl

/-- **A wait that is over** comes to what its last check leads to. -/
theorem exec_after_over (n : ℕ) {k : ℕ} (h : w.OverAt script started k) :
    ∃ result, w.Concludes script started k result ∧
      (w.after script started (n + 1) k).exec p ⟨store, w.startOf script started k⟩ =
        (some (w.logUpTo script started (k + 1), result), ⟨store, w.endOf script started k⟩) := by
  rw [exec_after_succ]
  cases verdict : (script k).answer.verdict? w.policy with
  | some result =>
    rw [afterCheck_of_some _ _ _ _ _ _ verdict]
    refine ⟨result, ?_, rfl⟩
    rcases Check.verdict?_eq_some verdict with ⟨v, is_done, rfl⟩ | ⟨e, failed, aborts, rfl⟩
    · exact .done is_done
    · exact .aborted failed aborts
  | none =>
    have undecided := Check.verdict?_eq_none_iff.1 verdict
    have late := h.resolve_left undecided
    rw [afterCheck_of_none _ _ _ _ _ _ verdict, exec_goOn, if_pos late, ← lastFailure?_succ]
    refine ⟨_, .timeout undecided late (Int.toNat_of_nonneg (Int.sub_nonneg_of_le ?_)), rfl⟩
    exact Int.le_trans (started_le_startOf k) (startOf_le_endOf k)

/-! ### All rounds -/

/-- **The rounds before a wait is over** are made one after the other. -/
theorem exec_after_upTo (n : ℕ) {k : ℕ} (h : ∀ j < k, ¬ w.OverAt script started j) :
    (w.after script started (n + k) 0).exec p ⟨store, started⟩ =
      (w.after script started n k).exec p ⟨store, w.startOf script started k⟩ := by
  induction k generalizing n with
  | zero => rfl
  | succ k ih =>
    rw [← exec_after_goesOn n (h k (Nat.lt_succ_self k)), ← ih (n + 1) fun j hj =>
      h j (Nat.lt_succ_of_lt hj), Nat.add_right_comm, Nat.add_assoc]

theorem Enough.later {now later : Instant} {n : ℕ} (h : w.Enough now n) (le : now ≤ later) :
    w.Enough later n := by
  obtain ⟨strides, rfl, hrest⟩ := h
  refine ⟨strides, rfl, Nat.le_trans (Int.toNat_le_toNat ?_) hrest⟩
  exact Int.sub_le_sub_left le _

/-- After `k` undecided checks a wait that sleeps still has enough checks. -/
theorem enough_startOf {n k : ℕ} (enough : w.Enough started (n + k))
    (h : ∀ j < k, ¬ w.OverAt script started j) : w.Enough (w.startOf script started k) n := by
  induction k generalizing n with
  | zero => exact enough
  | succ k ih =>
    have early := (not_or.1 (h k (Nat.lt_succ_self k))).2
    rw [← Nat.add_assoc, Nat.add_right_comm] at enough
    have here := ih enough fun j hj => h j (Nat.lt_succ_of_lt hj)
    exact (here.later (startOf_le_endOf k)).next early

/-- **A wait that sleeps is over** before it runs out of checks. -/
theorem exists_overAt (script : ℕ → TimedCheck ε β) (started : Instant)
    (sleeps : w.interval ≠ 0) :
    ∃ k < w.budget started, w.OverAt script started k := by
  by_contra! none_over
  have enough := enough_budget sleeps started
  rw [← Nat.zero_add (w.budget started)] at enough
  obtain ⟨_, none_left, -⟩ := enough_startOf enough none_over
  nomatch none_left

theorem EndsAt.lt_budget {N : ℕ} (h : w.EndsAt script started N)
    (allowed : w.interval ≠ 0 ∨ N < w.idleChecks) : N < w.budget started := by
  by_cases sleeps : w.interval = 0
  · rw [budget, if_pos sleeps]
    exact allowed.resolve_left (not_not_intro sleeps)
  · obtain ⟨k, hk, isOver⟩ := exists_overAt script started sleeps
    exact Nat.lt_of_not_le fun le => h.before k (Nat.lt_of_lt_of_le hk le) isOver

/-- A wait that does not sleep may make no more checks than it is allowed. -/
theorem allowed_of_lt_budget {N : ℕ} (h : N < w.budget started) :
    w.interval ≠ 0 ∨ N < w.idleChecks := by
  by_cases sleeps : w.interval = 0
  · rw [budget, if_pos sleeps] at h
    exact .inr h
  · exact .inl sleeps

/-! ### The wait -/

variable {v : World σ}

theorem exec_runTimed : (w.runTimed script).exec p v =
    (w.after script v.now (w.budget v.now) 0).exec p v := rfl

theorem EndsAt.exec_runTimed {N : ℕ} (h : w.EndsAt script v.now N) (hN : N < w.budget v.now) :
    ∃ result, w.Concludes script v.now N result ∧ (w.runTimed script).exec p v =
      (some (w.logUpTo script v.now (N + 1), result), ⟨v.store, w.endOf script v.now N⟩) := by
  obtain ⟨n, hn⟩ := Nat.exists_eq_add_of_lt hN
  rw [Wait.exec_runTimed, hn, Nat.add_assoc, Nat.add_comm, exec_after_upTo (n + 1) h.before]
  exact exec_after_over n h.isOver

theorem exec_runTimed_unfinished (h : ∀ k < w.budget v.now, ¬ w.OverAt script v.now k) :
    (w.runTimed script).exec p v =
      (none, ⟨v.store, w.startOf script v.now (w.budget v.now)⟩) := by
  have rounds : (w.after script v.now (0 + w.budget v.now) 0).exec p ⟨v.store, v.now⟩ = _ :=
    exec_after_upTo 0 h
  rw [Nat.zero_add] at rounds
  exact rounds

/-- **A run that ends** ends with the first check after which the wait is over. -/
theorem endsAt_of_exec {log : CheckLog} {result : Except (WaitError ε) β}
    (h : ((w.runTimed script).exec p v).1 = some (log, result)) :
    ∃ N < w.budget v.now, w.EndsAt script v.now N ∧ log = w.logUpTo script v.now (N + 1) ∧
      w.Concludes script v.now N result := by
  by_cases within : ∃ k < w.budget v.now, w.OverAt script v.now k
  · obtain ⟨k, hk, isOver⟩ := within
    obtain ⟨N, hN, ends⟩ := exists_endsAt isOver
    have inBudget := Nat.lt_of_le_of_lt hN hk
    obtain ⟨result', concludes, run⟩ := ends.exec_runTimed (p := p) inBudget
    rw [run] at h
    cases h
    exact ⟨N, inBudget, ends, rfl, concludes⟩
  · push Not at within
    rw [exec_runTimed_unfinished within] at h
    nomatch h

/-- **A wait keeps its timetable.** It makes the checks up to the first after which it is over, each
at its time, and comes to what that one leads to, when that one ends. If there is none, the wait
does not end: it goes round as often as it may, however often that is. -/
theorem run_keeps_timetable (w : Wait) (script : ℕ → TimedCheck ε β) (p : Provider σ)
    (v : World σ) :
    (∀ N, w.EndsAt script v.now N → w.interval ≠ 0 ∨ N < w.idleChecks →
      ∃ result, w.Concludes script v.now N result ∧ (w.runTimed script).exec p v =
        (some (w.logUpTo script v.now (N + 1), result), ⟨v.store, w.endOf script v.now N⟩)) ∧
      ((∀ N, ¬ w.EndsAt script v.now N) → (w.runTimed script).exec p v =
        (none, ⟨v.store, w.startOf script v.now w.idleChecks⟩)) := by
  refine ⟨fun N ends allowed => ends.exec_runTimed (ends.lt_budget allowed), fun never => ?_⟩
  have none_over (k : ℕ) : ¬ w.OverAt script v.now k := fun isOver =>
    let ⟨N, _, ends⟩ := exists_endsAt isOver
    never N ends
  have idle : w.interval = 0 := by
    by_contra sleeps
    obtain ⟨k, _, isOver⟩ := exists_overAt script v.now sleeps
    exact none_over k isOver
  have unfinished := exec_runTimed_unfinished (p := p) fun k (_ : k < w.budget v.now) => none_over k
  rwa [budget, if_pos idle] at unfinished

/-- A wait with an interval of a thousand million seconds, and a deadline in thirty years and a
millisecond. -/
def patient : Wait where
  deadline := 946080000001
  interval := 1000000000000
  policy := .retryAll

/-- Checks the second of which succeeds, after three milliseconds. -/
def secondSucceeds : ℕ → TimedCheck PlainError Unit
  | 0 => { answer := .notYet }
  | _ + 1 => { takes := 3, answer := .done () }

/-- A wait that does not sleep, with as many checks as it is given. -/
def restless (checks : ℕ) : Wait where
  deadline := 5
  interval := 0
  policy := .retryAll
  idleChecks := checks

/-- Checks that never say anything. -/
def neverDone : ℕ → TimedCheck PlainError Unit := fun _ => { answer := .notYet }

/-- Checks that take no time leave a wait that does not sleep where it was. -/
theorem startOf_restless (checks k : ℕ) : (restless checks).startOf neverDone 0 k = 0 := by
  induction k with
  | zero => rfl
  | succ k ih => rw [startOf_succ, endOf, ih]; rfl

theorem not_overAt_restless (checks k : ℕ) : ¬ (restless checks).OverAt neverDone 0 k := by
  rintro (decides | late)
  · exact decides
  · rw [endOf, startOf_restless] at late
    exact absurd (show (5 : Int) ≤ 0 from late) (by decide)

/-- The patient wait ends with its second check, and the restless one does not end. -/
theorem run_keeps_timetable_samples :
    (patient.EndsAt secondSucceeds 0 1 ∧ patient.interval ≠ 0 ∧
        ∃ result, patient.Concludes secondSucceeds 0 1 result ∧
          (patient.runTimed secondSucceeds).exec Provider.void ⟨(), 0⟩ =
            (some (patient.logUpTo secondSucceeds 0 2, result),
              ⟨(), patient.endOf secondSucceeds 0 1⟩)) ∧
      ∀ checks, ((restless checks).runTimed neverDone).exec Provider.void ⟨(), 0⟩ =
        (none, ⟨(), (restless checks).startOf neverDone 0 checks⟩) := by
  have ends : patient.EndsAt secondSucceeds 0 1 := ⟨by decide, by decide⟩
  have sleeps : patient.interval ≠ 0 := by decide
  refine ⟨⟨ends, sleeps, (run_keeps_timetable _ _ Provider.void ⟨(), 0⟩).1 1 ends (.inl sleeps)⟩,
    fun checks => (run_keeps_timetable (restless checks) _ _ ⟨(), 0⟩).2 fun N h => ?_⟩
  exact not_overAt_restless checks N h.isOver

/-- **A sleep may end before its time**: the second check begins a millisecond before the deadline,
although the interval would have lasted longer. -/
theorem interval_cut_short :
    ((patient.runScript secondSucceeds).exec Provider.void ⟨(), 0⟩).1 =
        some ({ count := 2, starts := [946080000000, 0] }, .ok ()) ∧
      patient.endOf secondSucceeds 0 0 = 0 ∧
      0 + min (patient.interval : Int) (patient.deadline - 0) = 946080000001 := by
  decide +kernel

end Wait

end Reconciler
