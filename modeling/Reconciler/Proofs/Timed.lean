import Reconciler.Proofs.Straight
import Reconciler.Proofs.Waiting.Rounds

/-!
# When programs end

With a provider whose answers take no time the clock moves only while a program sleeps, so that one
can say when a program ends, whatever it is answered. A wait that sleeps ends by its deadline. It
gives up for want of time when the deadline has come, and not before.

## What is proved

* `Program.Timed.bind` and its companions: one rule for each way to build a program.
* `timed_loop`, `timed_run`, `timed_poll`: when a wait ends.
-/

namespace Reconciler

variable {α β ε τ : Type}

namespace Program

/-- **When a program ends**: run from the instant `start` by a provider whose answers take no time,
it ends with a value, and `post` holds of the value and of the instant. -/
def Timed (start : Instant) (q : Program α) (post : α → Instant → Prop) : Prop :=
  ∀ (σ : Type) (p : Provider σ) (w : World σ), p.Prompt → w.now = start →
    ∃ a, (q.exec p w).1 = some a ∧ post a (q.exec p w).2.now

variable {start : Instant} {post : α → Instant → Prop}

theorem timed_pure {a : α} (h : post a start) : Timed start (.pure a) post :=
  fun _ _ _ _ hw => ⟨a, rfl, hw ▸ h⟩

theorem Timed.bind {q : Program β} {f : β → Program α} {mid : β → Instant → Prop}
    (h : Timed start q mid) (hf : ∀ b now, mid b now → Timed now (f b) post) :
    Timed start (q.bind f) post := by
  intro σ p w prompt hw
  obtain ⟨b, hb, hmid⟩ := h σ p w prompt hw
  rw [exec_bind]
  rcases hr : q.exec p w with ⟨r, w'⟩
  rw [hr] at hb hmid
  obtain rfl : r = some b := hb
  exact hf b w'.now hmid σ p w' prompt rfl

theorem timed_clock_bind {f : Instant → Program α} (h : Timed start (f start) post) :
    Timed start (clock.bind f) post := by
  intro σ p w prompt hw
  show ∃ a, ((f w.now).exec p w).1 = some a ∧ post a ((f w.now).exec p w).2.now
  rw [hw]
  exact h σ p w prompt hw

theorem timed_pause_bind {span : Span} {f : Unit → Program α}
    (h : Timed (start + (min span longestSleep : Nat)) (f ()) post) :
    Timed start ((pause span).bind f) post := by
  rintro σ p w prompt rfl
  exact h σ p (w.afterSleep (min span longestSleep)) prompt rfl

theorem timed_request_bind {region : Region} {c : Call} {f : Outcome c → Program α}
    (h : ∀ o, Timed start (f o) post) : Timed start ((request region c).bind f) post := by
  rintro σ p w prompt rfl
  exact h _ σ p (w.afterCall p region c) prompt (now_afterCall prompt w region c)

/-- A straight program ends when it began. -/
theorem Straight.timed {allowed : Call → Prop} {sound : α → Prop} {q : Program α}
    (h : q.Straight allowed sound) : Timed start q fun a now => now = start ∧ sound a := by
  rintro σ p w prompt rfl
  obtain ⟨a, ha, hsound⟩ := h.gives σ p w
  exact ⟨a, ha, h.now_exec prompt w, hsound⟩

end Program

/-! ### Waits -/

section

variable [Retryable ε]

/-- **A wait has ended in time** at an instant: that is not past the deadline, it is the deadline if
the wait gave up for want of time, and if a failure ended the wait, the failure is `fine`. -/
structure InTime (deadline : Instant) (fine : ε → Prop) (result : Except (WaitError ε) β)
    (now : Instant) : Prop where
  /-- The deadline has not passed. -/
  now_le : now ≤ deadline
  /-- For want of time a wait gives up at the deadline. -/
  timeout : ∀ waited last, result = .error (.timeout waited last) → now = deadline
  /-- The failure that ended the wait. -/
  aborted : ∀ e, result = .error (.aborted e) → fine e

variable {w : Wait} {check : τ → Program (τ × Check ε β)} {fine : ε → Prop}

/-- **When a wait ends** whose checks end when they began. -/
theorem timed_loop
    (h : ∀ s now, Program.Timed now (check s) fun b now' =>
      now' = now ∧ ∀ e, b.2 = .failed e → fine e)
    (started : Instant) {n : Nat} {now : Instant} (enough : w.Enough now n)
    (ahead : now ≤ w.deadline) (s : τ) (lastError : Option String) :
    Program.Timed now (w.loop check started n s lastError) fun r now' =>
      InTime w.deadline fine r.2 now' := by
  induction n generalizing now s lastError with
  | zero =>
    obtain ⟨_, hn, -⟩ := enough
    nomatch hn
  | succ n ih =>
    rw [Wait.loop_succ]
    refine (h s now).bind fun ⟨s', seen⟩ now' ⟨same, hfine⟩ => ?_
    subst same
    cases hseen : seen.verdict? w.policy with
    | some result =>
      rw [Wait.afterCheck_of_some _ _ _ _ _ _ hseen]
      refine Program.timed_pure ⟨ahead, fun waited last hr => ?_, fun e hr => ?_⟩
      · rcases Check.verdict?_eq_some hseen with ⟨v, -, rfl⟩ | ⟨e, -, -, rfl⟩
        · nomatch hr
        · nomatch hr
      · rcases Check.verdict?_eq_some hseen with ⟨v, -, rfl⟩ | ⟨e', hfailed, -, rfl⟩
        · nomatch hr
        · cases hr
          exact hfine e hfailed
    | none =>
      rw [Wait.afterCheck_of_none _ _ _ _ _ _ hseen]
      refine Program.timed_clock_bind ?_
      split_ifs with late
      · refine Program.timed_pure ⟨ahead, fun _ _ _ => ?_, fun _ hr => nomatch hr⟩
        exact Int.le_antisymm ahead late
      · refine Program.timed_pause_bind ?_
        exact ih (enough.next late) (Wait.rest_afterNap late).2 _ _

/-- A wait that sleeps comes to its end. -/
theorem timed_run
    (h : ∀ s now, Program.Timed now (check s) fun b now' =>
      now' = now ∧ ∀ e, b.2 = .failed e → fine e)
    (interval : w.interval ≠ 0) {now : Instant} (ahead : now ≤ w.deadline) (s : τ) :
    Program.Timed now (w.run check s) fun r now' => InTime w.deadline fine r.2 now' :=
  Program.timed_clock_bind (timed_loop h now (Wait.enough_budget interval now) ahead s none)

/-- The same for a wait whose checks carry no state. -/
theorem timed_poll {check : Program (Check ε β)}
    (h : ∀ now, Program.Timed now check fun seen now' =>
      now' = now ∧ ∀ e, seen = .failed e → fine e)
    (interval : w.interval ≠ 0) {now : Instant} (ahead : now ≤ w.deadline) :
    Program.Timed now (w.poll check) (InTime w.deadline fine) := by
  have look (_ : Unit) (now : Instant) :
      Program.Timed now (check.bind fun seen => .pure ((), seen)) fun b now' =>
        now' = now ∧ ∀ e, b.2 = .failed e → fine e :=
    (h now).bind fun _ _ hseen => Program.timed_pure hseen
  exact (timed_run look interval ahead ()).bind fun _ _ hr => Program.timed_pure hr

end

end Reconciler
