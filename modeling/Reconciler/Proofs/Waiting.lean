import Reconciler.Lifecycle.Waiting
import Reconciler.Proofs.Cloud.Servers
import Reconciler.Proofs.Waiting.Rounds

/-!
# Waiting for a status

In a cloud in which no status of the instance is still to come, the first look decides a wait: if
the instance has the status, the wait is over, and if it has not, no later look will find it. Only a
host that refuses calls can keep such a wait from ending at once.

## What is proved

* `Host.Ends.bind`, `Host.ends_request`: what programs end in.
* `ends_run_kept`, `ends_poll_kept`: what a wait keeps.
* `ends_loop`: what a wait ends in.
* `leads_awaitStatus`, `leads_awaitStatus_bind`: when a wait for a status succeeds.
-/

namespace Reconciler

variable {α β σ : Type}

namespace Host

/-- **What a program ends in**: from the cloud `c`, each run ends so that `post` holds of its value,
if it has one, and of the cloud. -/
def Ends (H : Host σ) (c : Cloud) (q : Program α) (post : Option α → Cloud → Prop) : Prop :=
  ∀ w : World σ, H.steady w.store → H.view w.store = c →
    H.steady (q.exec H.provider w).2.store ∧
      post (q.exec H.provider w).1 (H.view (q.exec H.provider w).2.store)

variable {H : Host σ} {c : Cloud} {post : Option α → Cloud → Prop}

theorem ends_pure {a : α} (h : post (some a) c) : H.Ends c (.pure a) post :=
  fun _ hs hw => ⟨hs, hw ▸ h⟩

theorem ends_unfinished (h : post none c) : H.Ends c .unfinished post :=
  fun _ hs hw => ⟨hs, hw ▸ h⟩

theorem Ends.mono {q : Program α} {post' : Option α → Cloud → Prop} (h : H.Ends c q post)
    (hp : ∀ r d, post r d → post' r d) : H.Ends c q post' := fun w hs hw =>
  ⟨(h w hs hw).1, hp _ _ (h w hs hw).2⟩

theorem Ends.bind {q : Program β} {f : β → Program α} {mid : Option β → Cloud → Prop}
    (h : H.Ends c q mid) (hf : ∀ b d, mid (some b) d → H.Ends d (f b) post)
    (unfinished : ∀ d, mid none d → post none d) : H.Ends c (q.bind f) post := by
  intro w hs hw
  have first := h w hs hw
  rw [Program.exec_bind]
  rcases hr : q.exec H.provider w with ⟨_ | b, w'⟩
  all_goals rw [hr] at first
  · exact ⟨first.1, unfinished _ first.2⟩
  · exact hf b _ first.2 w' first.1 rfl

/-- A request is answered by carrying it out, unless the host fails. -/
theorem ends_request {region : Region} {call : Call} {next : Outcome call → Program α}
    (carriedOut : H.Ends (c.perform call).2 (next (c.perform call).1) post)
    (failed : H.fails → ∀ e, H.Ends c (next (.error e)) post) :
    H.Ends c ((Program.request region call).bind next) post := by
  rintro w hs rfl
  have steady := H.steady_answer w.now region call hs
  have step : ((Program.request region call).bind next).exec H.provider w =
      (next (w.outcome H.provider region call)).exec H.provider
        (w.afterCall H.provider region call) := rfl
  rw [step]
  rcases H.answers w.now region call hs with ⟨ho, hv⟩ | ⟨hf, ⟨e, he⟩, hv⟩
  · rw [show w.outcome H.provider region call = _ from ho]
    exact carriedOut (w.afterCall H.provider region call) steady hv
  · rw [show w.outcome H.provider region call = _ from he]
    exact failed hf e (w.afterCall H.provider region call) steady hv

theorem ends_clock {next : Instant → Program α} (h : ∀ now, H.Ends c (next now) post) :
    H.Ends c (Program.clock.bind next) post :=
  fun w hs hw => h w.now w hs hw

theorem ends_pause {span : Span} {next : Unit → Program α} (h : H.Ends c (next ()) post) :
    H.Ends c ((Program.pause span).bind next) post :=
  fun w hs hw => h (w.afterSleep _) hs hw

/-- What a task leads to, from what its program ends in. -/
theorem leads_of_ends {q : Program (Except Failure α)} {done : α → Cloud → Prop}
    {broken : Cloud → Prop}
    (h : H.Ends c q fun r d => match r with
      | some (.ok a) => done a d
      | _ => broken d) : H.Leads c (ExceptT.mk q) done broken := by
  rw [leads_iff]
  intro w hs hw
  have ends := h w hs hw
  unfold Leaves
  rw [ExceptT.run_mk]
  rcases hr : q.exec H.provider w with ⟨_ | (e | a), w'⟩
  all_goals
    rw [hr] at ends
    exact ends

/-- What a program leads to that is part of a task. -/
theorem leads_lift {q : Program α} {done : α → Cloud → Prop} {broken : Cloud → Prop}
    (h : H.Ends c q fun r d => match r with
      | some a => done a d
      | none => broken d) : H.Leads c (liftM q) done broken := by
  show H.Leads c (ExceptT.mk (q.bind fun a => .pure (.ok a))) done broken
  exact leads_of_ends (Ends.bind h (fun _ _ hd => ends_pure hd) fun _ hd => hd)

end Host

/-! ### What waits keep -/

/-- What a check leaves of its state and the cloud: `good` if it is done, and `kept` if not. -/
def CheckLeaves {τ ε : Type} (kept : τ → Cloud → Prop) (good : τ → β → Cloud → Prop) :
    Option (τ × Check ε β) → Cloud → Prop
  | some (s, .done v), d => good s v d
  | some (s, .notYet), d => kept s d
  | some (s, .failed _), d => kept s d
  | none, _ => True

/-- What a wait that succeeds leaves of the state of its checks and the cloud. -/
def WaitLeaves {τ ε : Type} (good : τ → β → Cloud → Prop) :
    Option (τ × Except ε β) → Cloud → Prop
  | some (s, .ok v), d => good s v d
  | _, _ => True

section

variable {τ ε : Type} [Retryable ε] {H : Host σ} {w : Wait}
  {check : τ → Program (τ × Check ε β)} {kept : τ → Cloud → Prop} {good : τ → β → Cloud → Prop}

/-- **What every check keeps, a wait keeps**, so that one that succeeds does so from there. -/
theorem ends_loop_kept
    (h : ∀ s d, kept s d → H.Ends d (check s) (CheckLeaves kept good)) (started : Instant)
    (n : Nat) {s : τ} (lastError : Option String) {c : Cloud} (hc : kept s c) :
    H.Ends c (w.loop check started n s lastError) (WaitLeaves good) := by
  induction n generalizing s lastError c with
  | zero => exact Host.ends_unfinished trivial
  | succ n ih =>
    have again (s : τ) (e : Option String) (d : Cloud) (hd : kept s d) :
        H.Ends d (w.goOn check started n s e) (WaitLeaves good) := by
      refine Host.ends_clock fun now => ?_
      by_cases late : w.deadline ≤ now
      · rw [if_pos late]
        exact Host.ends_pure trivial
      · rw [if_neg late]
        exact Host.ends_pause (ih e hd)
    rw [Wait.loop_succ]
    refine Host.Ends.bind (h s c hc) (fun b d hd => ?_) fun _ _ => trivial
    rcases b with ⟨s', v | _ | e⟩
    · exact Host.ends_pure hd
    · exact again s' _ d hd
    · by_cases aborts : w.policy.abortsOn (Retryable.retryClass e)
      · rw [Wait.afterCheck_failed, if_pos aborts]
        exact Host.ends_pure trivial
      · rw [Wait.afterCheck_failed, if_neg aborts]
        exact again s' _ d hd

theorem ends_run_kept (h : ∀ s d, kept s d → H.Ends d (check s) (CheckLeaves kept good)) {s : τ}
    {c : Cloud} (hc : kept s c) : H.Ends c (w.run check s) (WaitLeaves good) :=
  Host.ends_clock fun started => ends_loop_kept h started _ none hc

/-- The same for a wait whose checks carry no state. -/
theorem ends_poll_kept {check : Program (Check ε β)} {kept : Cloud → Prop}
    {good : β → Cloud → Prop} {c : Cloud}
    (h : ∀ d, kept d → H.Ends d check fun seen e =>
      CheckLeaves (fun _ => kept) (fun _ => good) (seen.map fun seen => ((), seen)) e)
    (hc : kept c) : H.Ends c (w.poll check) fun r d => ∀ v, r = some (.ok v) → good v d := by
  have run : H.Ends c (w.run (fun _ : Unit => check.bind fun seen => .pure ((), seen)) ())
      (WaitLeaves fun _ => good) := by
    have look (_ : Unit) (d : Cloud) (hd : kept d) : H.Ends d
        (check.bind fun seen => .pure ((), seen)) (CheckLeaves (fun _ => kept) fun _ => good) :=
      Host.Ends.bind (h d hd) (fun seen e he => Host.ends_pure he) fun _ _ => trivial
    exact ends_run_kept look hc
  refine Host.Ends.bind run (fun b d hd => ?_) fun _ _ _ h => by simp at h
  rcases b with ⟨_, e | v⟩
  · exact Host.ends_pure fun v h => by simp at h
  · refine Host.ends_pure fun v' h => ?_
    obtain rfl : v = v' := by simpa using h
    exact hd

end

/-! ### Waits -/

variable {H : Host σ} {c : Cloud} {t : Tuning} {region : Region} {id : InstanceId}
  {target : Status} {action : String} {srv : CloudServer}

/-- What a check says is right, unless the host fails. -/
def Host.Decides {ε : Type} (H : Host σ) (holds : Prop) : Option (Check ε β) → Prop
  | some (.done _) => holds
  | _ => H.fails ∨ ¬ holds

/-- What ends with a value does so rightly, and so does what does not, unless the host fails. -/
def Host.Settles {ε : Type} (H : Host σ) (holds : Prop) : Option (Except ε β) → Prop
  | some (.ok _) => holds
  | _ => H.fails ∨ ¬ holds

theorem Host.Settles.congr {ε : Type} {holds holds' : Prop} {r : Option (Except ε β)}
    (h : H.Settles holds r) (hh : holds ↔ holds') : H.Settles holds' r := propext hh ▸ h

/-- **What a wait ends in**, when each of its checks leaves the cloud as it is: it succeeds only if
the condition holds, and it fails only if the condition does not hold, the host fails, or no check
is made. -/
theorem ends_loop {ε : Type} [Retryable ε] {w : Wait} {check : Unit → Program (Unit × Check ε β)}
    {holds : Prop}
    (h : H.Ends c (check ()) fun r d => d = c ∧ H.Decides holds (r.map Prod.snd))
    (started : Instant) (n : Nat) (lastError : Option String) :
    H.Ends c (w.loop check started n () lastError) fun r d =>
      d = c ∧ H.Settles (holds ∧ n ≠ 0) (r.map Prod.snd) := by
  induction n generalizing lastError with
  | zero => exact Host.ends_unfinished ⟨rfl, .inr fun hn => hn.2 rfl⟩
  | succ n ih =>
    have again (e : Option String) (hn : H.fails ∨ ¬ holds) :
        H.Ends c (w.goOn check started n () e)
          fun r d => d = c ∧ H.Settles (holds ∧ n + 1 ≠ 0) (r.map Prod.snd) := by
      have hn' : H.fails ∨ ¬ (holds ∧ n + 1 ≠ 0) := hn.imp_right fun hh h => hh h.1
      refine Host.ends_clock fun now => ?_
      by_cases late : w.deadline ≤ now
      · rw [if_pos late]
        exact Host.ends_pure ⟨rfl, hn'⟩
      · rw [if_neg late]
        refine Host.ends_pause ((ih e).mono fun r d hd => ⟨hd.1, ?_⟩)
        obtain ⟨-, hr⟩ := hd
        rcases r with _ | ⟨_, _ | _⟩
        · exact hn'
        · exact hn'
        · exact ⟨hr.1, Nat.succ_ne_zero n⟩
    rw [Wait.loop_succ]
    refine Host.Ends.bind h (fun b d hd => ?_) fun d hd =>
      ⟨hd.1, hd.2.imp_right fun hh h => hh h.1⟩
    obtain ⟨rfl, hseen⟩ := hd
    rcases b with ⟨_, v | _ | e⟩
    · exact Host.ends_pure ⟨rfl, hseen, Nat.succ_ne_zero n⟩
    · exact again _ hseen
    · by_cases aborts : w.policy.abortsOn (Retryable.retryClass e)
      · rw [Wait.afterCheck_failed, if_pos aborts]
        exact Host.ends_pure ⟨rfl, hseen.imp_right fun hh h => hh h.1⟩
      · rw [Wait.afterCheck_failed, if_neg aborts]
        exact again _ hseen

/-- Waits make at least one check. -/
def Tuning.Waits (t : Tuning) : Prop := t.pollInterval ≠ 0 ∨ t.idleChecks ≠ 0

theorem Tuning.budget_eq_zero_iff {deadline started : Instant} :
    (t.wait deadline).budget started = 0 ↔ ¬ t.Waits := by
  rw [Wait.budget, Tuning.Waits]
  show (if t.pollInterval = 0 then t.idleChecks else _ + 1) = 0 ↔ _
  split_ifs with h
  · simp [h]
  · simp [h]

/-- A look whether an instance has a status. -/
theorem ends_statusCheck (hs : c.server? id = some srv) (hscript : srv.script = []) :
    H.Ends c (statusCheck region id target action) fun r d =>
      d = c ∧ H.Decides (srv.detail.status = target) r := by
  refine Host.ends_request ?_ fun hf e => Host.ends_pure ⟨rfl, .inl hf⟩
  rw [Cloud.perform_getServer hs hscript]
  show H.Ends c (if srv.detail.status = target then _
    else if srv.detail.status = .error then _ else _) _
  by_cases htarget : srv.detail.status = target
  · rw [if_pos htarget]
    exact Host.ends_pure ⟨rfl, htarget⟩
  · rw [if_neg htarget]
    by_cases herror : srv.detail.status = .error
    · rw [if_pos herror]
      exact Host.ends_pure ⟨rfl, .inr htarget⟩
    · rw [if_neg herror]
      exact Host.ends_pure ⟨rfl, .inr htarget⟩

/-- **When a wait for a status succeeds**: exactly when the instance has the status and a check is
made, unless the host fails. It leaves the cloud as it is. -/
theorem leads_awaitStatus {deadline : Instant} (hs : c.server? id = some srv)
    (hscript : srv.script = []) :
    H.Leads c (awaitStatus t region id target action deadline)
      (fun _ d => d = c ∧ srv.detail.status = target ∧ t.Waits)
      fun d => d = c ∧ (H.fails ∨ ¬ (srv.detail.status = target ∧ t.Waits)) := by
  have check : H.Ends c ((statusCheck region id target action).bind fun seen => .pure ((), seen))
      fun r d => d = c ∧ H.Decides (srv.detail.status = target) (r.map Prod.snd) := by
    refine Host.Ends.bind (ends_statusCheck hs hscript) (fun seen d hd => ?_) fun d hd => hd
    obtain ⟨rfl, hseen⟩ := hd
    exact Host.ends_pure ⟨rfl, hseen⟩
  have run : H.Ends c ((t.wait deadline).run (fun _ =>
      (statusCheck region id target action).bind fun seen => .pure ((), seen)) ())
      fun r d => d = c ∧ H.Settles (srv.detail.status = target ∧ t.Waits) (r.map Prod.snd) := by
    refine Host.ends_clock fun started => ?_
    refine (ends_loop check started _ none).mono fun r d hd => ⟨hd.1, hd.2.congr ?_⟩
    rw [Ne, Tuning.budget_eq_zero_iff, not_not]
  have poll : H.Ends c ((t.wait deadline).poll (statusCheck region id target action))
      fun r d => d = c ∧ H.Settles (srv.detail.status = target ∧ t.Waits) r := by
    refine Host.Ends.bind run (fun b d hd => ?_) fun d hd => hd
    obtain ⟨rfl, hb⟩ := hd
    exact Host.ends_pure ⟨rfl, hb⟩
  refine Host.leads_of_ends (Host.Ends.bind poll (fun r d hd => ?_) fun d hd => hd)
  obtain ⟨rfl, hr⟩ := hd
  cases r <;> exact Host.ends_pure ⟨rfl, hr⟩

/-- What follows a wait goes on from the same cloud. -/
theorem leads_awaitStatus_bind {deadline : Instant} {f : Unit → Task α}
    {done : α → Cloud → Prop} {broken : Cloud → Prop} (hs : c.server? id = some srv)
    (hscript : srv.script = [])
    (next : srv.detail.status = target → t.Waits → H.Leads c (f ()) done broken)
    (failed : H.fails ∨ ¬ (srv.detail.status = target ∧ t.Waits) → broken c) :
    H.Leads c (awaitStatus t region id target action deadline >>= f) done broken := by
  refine (leads_awaitStatus hs hscript).followedBy ?_ ?_
  · rintro _ ⟨rfl, hd⟩
    exact failed hd
  · rintro _ _ ⟨rfl, hstatus, hwaits⟩
    exact next hstatus hwaits

end Reconciler
