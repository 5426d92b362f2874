import Reconciler.Cloud.Setup
import Reconciler.Lifecycle.Creation
import Reconciler.Lifecycle.Removal
import Reconciler.Proofs.Timed
import Reconciler.Proofs.Update.Phases
import Reconciler.Proofs.Update.Result

/-!
# The deadlines of the operations

A creation has one deadline for its two waits, a deletion has one, and an update has one for each
phase that waits. With a provider whose answers take no time, and with waits that sleep, an
operation ends by its deadline; and if it fails for want of time, it does so at the deadline and not
before. Timeouts, intervals and instants are whole milliseconds, and fractions are not covered.

## What is proved

* `KeepsDeadline.bind` and its companions: tasks that share a deadline.
* `keepsDeadline_createInstance`, `keepsDeadline_deleteInstance`: creations and deletions.
* `paced_updateInstance`: updates, phase by phase.
* `operations_keep_deadlines`: all of them, whoever answers the calls.
-/

namespace Reconciler

variable {α β σ : Type} {t : Tuning} {deadline now : Instant} {region : Region} {id : InstanceId}
  {observed : InstanceState} {desired : InstanceSpec}

/-- The failure is that of a wait past its deadline, or of a creation for that reason. -/
def Failure.TimedOut : Failure → Prop
  | .timeout _ _ _ => True
  | .incomplete _ cause => cause.TimedOut
  | _ => False

theorem Failure.IsPlain.not_timedOut {e : Failure} (h : e.IsPlain) : ¬ e.TimedOut := by
  cases e <;> simp_all [IsPlain, TimedOut]

/-! ### Tasks that share a deadline -/

/-- **A task that begins at an instant keeps a deadline**: it ends by then, and if it fails for want
of time, right then. -/
def KeepsDeadline (deadline now : Instant) (task : Task α) : Prop :=
  task.run.Timed now fun r now' =>
    now' ≤ deadline ∧ ∀ e, r = .error e → e.TimedOut → now' = deadline

theorem KeepsDeadline.bind {x : Task β} {f : β → Task α} (hx : KeepsDeadline deadline now x)
    (hf : ∀ b now', now' ≤ deadline → KeepsDeadline deadline now' (f b)) :
    KeepsDeadline deadline now (x >>= f) := by
  refine Program.Timed.bind hx fun r now' hr => ?_
  cases r with
  | ok b => exact hf b now' hr.1
  | error e => exact Program.timed_pure ⟨hr.1, fun e' he' => by cases he'; exact hr.2 e rfl⟩

/-- What goes straight through leaves the time to what follows it. -/
theorem GoesStraight.keepsDeadline_bind {allowed : Call → Prop} {x : Task β} {f : β → Task α}
    (hx : GoesStraight allowed x) (ahead : now ≤ deadline)
    (hf : ∀ b, KeepsDeadline deadline now (f b)) : KeepsDeadline deadline now (x >>= f) := by
  refine Program.Timed.bind (Program.Straight.timed hx) fun r now' ⟨same, plain⟩ => ?_
  subst same
  cases r with
  | ok b => exact hf b
  | error e =>
    refine Program.timed_pure ⟨ahead, fun e' he' timedOut => ?_⟩
    cases he'
    exact absurd timedOut (plain e rfl).not_timedOut

theorem keepsDeadline_pure {a : α} (ahead : now ≤ deadline) :
    KeepsDeadline deadline now (pure a : Task α) :=
  Program.timed_pure ⟨ahead, fun _ h => nomatch h⟩

theorem GoesStraight.keepsDeadline {allowed : Call → Prop} {x : Task α}
    (hx : GoesStraight allowed x) (ahead : now ≤ deadline) : KeepsDeadline deadline now x := by
  rw [← bind_pure x]
  exact hx.keepsDeadline_bind ahead fun _ => keepsDeadline_pure ahead

theorem KeepsDeadline.within {s : InstanceState} {step : Task α}
    (h : KeepsDeadline deadline now step) : KeepsDeadline deadline now (within s step) := by
  refine Program.Timed.bind h fun r now' hr => ?_
  cases r with
  | ok a => exact Program.timed_pure ⟨hr.1, fun _ h => nomatch h⟩
  | error e =>
    refine Program.timed_pure ⟨hr.1, fun e' he' timedOut => ?_⟩
    cases he'
    exact hr.2 e rfl timedOut

/-- **A deadline is set** as far ahead as the timeout says, if the clock can represent that. -/
theorem keepsDeadline_deadlineAfter_bind {timeout : Span} {f : Instant → Task α}
    (reachable : timeout < clockLimit) (h : KeepsDeadline (now + timeout) now (f (now + timeout))) :
    KeepsDeadline (now + timeout) now (liftM (deadlineAfter timeout) >>= f) := by
  have reached : reachableTimeout timeout = timeout := if_pos reachable
  refine Program.timed_clock_bind (f := fun now => (f (now + reachableTimeout timeout)).run) ?_
  rw [reached]
  exact h

/-- The result of a wait as that of a task: it failed for want of time if the wait did. -/
theorem InTime.awaited {action : String} {result : Except (WaitError Failure) α}
    (h : InTime deadline Failure.IsPlain result now) :
    now ≤ deadline ∧ ∀ e, awaited action id result = .error e → e.TimedOut → now = deadline := by
  refine ⟨h.now_le, fun e he timedOut => ?_⟩
  cases result with
  | ok a => nomatch he
  | error reason =>
    cases reason with
    | timeout waited last => exact h.timeout waited last rfl
    | aborted cause =>
      obtain rfl := Except.error.inj he
      exact absurd timedOut (h.aborted _ rfl).not_timedOut

theorem keepsDeadline_awaitStatus {target : Status} {action : String}
    (sleeps : t.pollInterval ≠ 0) (ahead : now ≤ deadline) :
    KeepsDeadline deadline now (awaitStatus t region id target action deadline) :=
  (timed_poll (w := t.wait deadline) (fun _ => straight_statusCheck.timed) sleeps ahead).bind
    fun _ _ ended => Program.timed_pure ended.awaited

theorem keepsDeadline_awaitGone (sleeps : t.pollInterval ≠ 0) (ahead : now ≤ deadline) :
    KeepsDeadline deadline now (awaitGone t region id deadline) :=
  (timed_poll (w := t.wait deadline) (fun _ => straight_goneCheck.timed) sleeps ahead).bind
    fun _ _ ended => Program.timed_pure ended.awaited

/-! ### Deletions -/

theorem keepsDeadline_deleteInstance (sleeps : t.pollInterval ≠ 0)
    (reachable : t.timeouts.delete < clockLimit) :
    KeepsDeadline (now + t.timeouts.delete) now (deleteInstance t observed) := by
  have ahead : now ≤ now + (t.timeouts.delete : Int) := Int.le_add_of_nonneg_right (by simp)
  refine Program.timed_request_bind fun o => ?_
  cases o with
  | ok _ =>
    show KeepsDeadline _ now (liftM (deadlineAfter t.timeouts.delete) >>= fun deadline =>
      awaitGone t observed.region observed.id deadline)
    exact keepsDeadline_deadlineAfter_bind reachable (keepsDeadline_awaitGone sleeps ahead)
  | error e =>
    show KeepsDeadline _ now (if e.isNotFound then pure () else throw _ : Task Unit)
    split_ifs
    · exact keepsDeadline_pure ahead
    · exact (goesStraight_throw (e := .remote _ e) trivial : GoesStraight (fun _ => True) _)
        |>.keepsDeadline ahead

/-! ### Creations -/

/-- What a program has come to, and what follows it. -/
theorem keepsDeadline_lift_bind {q : Program β} {f : β → Task α} {mid : β → Instant → Prop}
    (hq : Program.Timed now q mid) (hf : ∀ b now', mid b now' → KeepsDeadline deadline now' (f b)) :
    KeepsDeadline deadline now (liftM q >>= f) := by
  rw [KeepsDeadline, run_liftM_bind]
  exact hq.bind hf

/-- A task that is only its result. -/
theorem keepsDeadline_result {r : Except Failure α}
    (h : now ≤ deadline ∧ ∀ e, r = .error e → e.TimedOut → now = deadline) :
    KeepsDeadline deadline now (ExceptT.mk (return r)) :=
  Program.timed_pure h

theorem straight_lookUpBuilt {s : InstanceState} :
    (lookUpBuilt s).Straight (fun _ => True) fun _ => True := by
  rw [lookUpBuilt]
  split <;> exact ⟨trivial, fun _ => trivial⟩

theorem straight_buildCheck {s : InstanceState} (latest : Option ServerDetail) :
    (buildCheck s latest).Straight (fun _ => True) fun b => b.2.FailsPlainly := by
  refine straight_lookUpBuilt.bind fun o _ => ?_
  cases o with
  | error e => exact Check.failsPlainly_failed (e := .remote _ e) trivial
  | ok detail =>
    show Check.FailsPlainly _
    dsimp only
    split
    · exact Check.failsPlainly_done ()
    · exact Check.failsPlainly_failed (e := .enteredError _ _) trivial
    · exact Check.failsPlainly_notYet

theorem timed_awaitBuilt {s : InstanceState} (sleeps : t.pollInterval ≠ 0)
    (ahead : now ≤ deadline) :
    Program.Timed now (awaitBuilt t s deadline) fun r now' =>
      now' ≤ deadline ∧ ∀ e, r.2 = .error e → e.TimedOut → now' = deadline := by
  have look (latest : Option ServerDetail) (now : Instant) :
      Program.Timed now (buildCheck s latest) fun b now' => now' = now ∧ b.2.FailsPlainly :=
    (straight_buildCheck latest).timed
  exact (timed_run (w := t.wait deadline) look sleeps ahead none).bind
    fun _ _ ended => Program.timed_pure ended.awaited

theorem straight_networksCheck {requested : IdSet} :
    (networksCheck region id requested).Straight (fun _ => True) Check.FailsPlainly := by
  refine ⟨trivial, fun o => ?_⟩
  cases o with
  | error e => exact Check.failsPlainly_failed (e := .remote _ e) trivial
  | ok listing =>
    show Program.Straight _ _ (if _ then _ else _)
    split_ifs
    · exact Check.failsPlainly_done _
    · exact Check.failsPlainly_notYet

theorem keepsDeadline_awaitNetworks {s : InstanceState} (sleeps : t.pollInterval ≠ 0)
    (ahead : now ≤ deadline) : KeepsDeadline deadline now (awaitNetworks t desired s deadline) := by
  rw [awaitNetworks]
  split_ifs
  · exact keepsDeadline_pure ahead
  · refine (timed_poll (w := t.wait deadline) (fun _ => straight_networksCheck.timed) sleeps
      ahead).bind fun result now' ended => Program.timed_pure ⟨ended.now_le, fun e he => ?_⟩
    have settled : now' ≤ deadline ∧ ∀ e, awaited "network attachment" s.id result = .error e →
        e.TimedOut → now' = deadline := ended.awaited
    refine settled.2 e ?_
    cases hr : awaited "network attachment" s.id result with
    | ok found => simp [hr, Except.map] at he
    | error e' => simpa [hr, Except.map] using he

theorem keepsDeadline_attachVolumes (volumes : List String) {s : InstanceState}
    (ahead : now ≤ deadline) : KeepsDeadline deadline now (attachVolumes s volumes) := by
  induction volumes generalizing now s with
  | nil => exact keepsDeadline_pure ahead
  | cons v volumes ih =>
    have attach : GoesStraight (fun _ => True)
        (ask s.region (.attachVolume s.id v) ("attach volume " ++ v)) := goesStraight_ask trivial
    exact (attach.keepsDeadline ahead).within.bind fun _ _ ahead => ih ahead

theorem straight_bindInitialFloatingIp {s : InstanceState} {binding : FloatingIpBinding} :
    GoesStraight Call.LooksAway (bindInitialFloatingIp s binding) := by
  rw [bindInitialFloatingIp]
  split
  · exact goesStraight_throw (e := .missingAttachment _ _) trivial
  · refine straight_publicIpState.bind fun held => ?_
    split
    · exact goesStraight_throw (e := .missingPublicIpRecord _) trivial
    · exact goesStraight_throw (e := publicIpConflict _) trivial
    · exact goesStraight_ask trivial

/-- **Both waits of a creation share its deadline.** -/
theorem keepsDeadline_createInstance (sleeps : t.pollInterval ≠ 0)
    (reachable : t.timeouts.create < clockLimit) :
    KeepsDeadline (now + t.timeouts.create) now (createInstance t desired) := by
  have ahead : now ≤ now + (t.timeouts.create : Int) := Int.le_add_of_nonneg_right (by simp)
  have converge (s : InstanceState) :
      KeepsDeadline (now + t.timeouts.create) now (convergeCreated t desired s) := by
    refine keepsDeadline_deadlineAfter_bind reachable ?_
    refine keepsDeadline_lift_bind (timed_awaitBuilt sleeps ahead) fun ⟨latest, built⟩ now' h => ?_
    refine (keepsDeadline_result h).within.bind fun _ now' ahead => ?_
    refine (keepsDeadline_awaitNetworks sleeps ahead).within.bind fun networks now' ahead => ?_
    refine (keepsDeadline_attachVolumes _ ahead).bind fun s' now' ahead => ?_
    split
    · exact keepsDeadline_pure ahead
    · exact (straight_bindInitialFloatingIp.keepsDeadline ahead).within.bind
        fun _ _ ahead => keepsDeadline_pure ahead
  rw [createInstance]
  split
  · exact (goesStraight_throw (e := .unsupportedFor _) trivial : GoesStraight (fun _ => True) _)
      |>.keepsDeadline ahead
  · exact (goesStraight_ask trivial : GoesStraight (fun _ => True) _)
      |>.keepsDeadline_bind ahead fun _ => converge _

/-! ### Updates -/

section

variable {p : Provider σ} {w : World σ} {timeout : Span} {starts : List Instant}

/-- **A task is paced** by the instants at which its phases begin: it ends, one timeout for each
phase is all that it needs, and if it fails for want of time, then it does so when the timeout of
the last phase that began is over. -/
structure Paced (p : Provider σ) (w : World σ) (timeout : Span) (task : Task α)
    (starts : List Instant) : Prop where
  /-- The task ends. -/
  ends : ∃ r, (task.run.exec p w).1 = some r
  /-- It needs one timeout for each phase. -/
  within : (task.run.exec p w).2.now ≤ w.now + (starts.length * timeout : Nat)
  /-- If it fails for want of time, the last phase has used up its timeout. -/
  timedOut : ∀ e, (task.run.exec p w).1 = some (.error e) → e.TimedOut →
    ∃ start, starts.getLast? = some start ∧ (task.run.exec p w).2.now = start + timeout

/-- The instant at which a step begins after the steps `before` it, if it begins: that is when they
have succeeded and the step is `due`. -/
def begun (p : Provider σ) (w : World σ) (before : Task α) (due : Prop) [Decidable due] :
    List Instant :=
  match before.run.exec p w with
  | (some (.ok _), w') => if due then [w'.now] else []
  | _ => []

theorem length_begun_le (before : Task α) (due : Prop) [Decidable due] :
    (begun p w before due).length ≤ 1 := by
  rw [begun]
  split
  · split_ifs <;> simp
  · simp

theorem begun_of_not_due (before : Task α) {due : Prop} [Decidable due] (h : ¬ due) :
    begun p w before due = [] := by
  rw [begun]
  split
  · exact if_neg h
  · rfl

/-- **Two tasks in a row**, the second of which begins with a phase if that is due. -/
theorem Paced.bind {x : Task β} {f : β → Task α} {due : Prop} [Decidable due]
    (hx : Paced p w timeout x starts)
    (hf : ∀ b w', Paced p w' timeout (f b) (if due then [w'.now] else [])) :
    Paced p w timeout (x >>= f) (starts ++ begun p w x due) := by
  obtain ⟨r, hr⟩ := hx.ends
  have run := exec_run_bind (p := p) (w := w) x f
  have within := hx.within
  rcases hexec : x.run.exec p w with ⟨_, w'⟩
  rw [hexec] at hr run within
  obtain rfl : _ = some r := hr
  cases r with
  | error e =>
    dsimp only at run
    have none_begun : begun p w x due = [] := by rw [begun, hexec]
    rw [none_begun, List.append_nil]
    refine ⟨⟨_, congrArg Prod.fst run⟩, ?_, fun e' he' timedOut => ?_⟩
    · rw [run]
      exact within
    · rw [run] at he' ⊢
      obtain rfl := Except.error.inj (Option.some.inj he')
      have last := hx.timedOut e
      rw [hexec] at last
      exact last rfl timedOut
  | ok b =>
    have later : begun p w x due = if due then [w'.now] else [] := by rw [begun, hexec]
    have paced := hf b w'
    rw [← later] at paced
    refine ⟨?_, ?_, fun e he timedOut => ?_⟩
    · rw [run]
      exact paced.ends
    · rw [run, List.length_append, Nat.add_mul, Int.natCast_add, ← Int.add_assoc]
      exact Int.le_trans paced.within (Int.add_le_add_right within _)
    · rw [run] at he ⊢
      obtain ⟨start, hstart, hnow⟩ := paced.timedOut e he timedOut
      exact ⟨start, by rw [List.getLast?_append, hstart, Option.some_or], hnow⟩

theorem GoesStraight.paced {allowed : Call → Prop} {x : Task α} (h : GoesStraight allowed x)
    (prompt : p.Prompt) : Paced p w timeout x [] := by
  obtain ⟨r, hr, now_le, timedOut⟩ :=
    h.keepsDeadline (Int.le_refl w.now) σ p w prompt rfl
  obtain ⟨r', hr', plain⟩ := Program.Straight.gives h σ p w
  refine ⟨⟨r, hr⟩, by simpa using now_le, fun e he timedOut => ?_⟩
  obtain rfl := Option.some.inj (hr'.symm.trans he)
  exact absurd timedOut (plain e rfl).not_timedOut

theorem Paced.bind_straight {allowed : Call → Prop} {x : Task β} {f : β → Task α}
    (hx : Paced p w timeout x starts) (prompt : p.Prompt)
    (hf : ∀ b, GoesStraight allowed (f b)) : Paced p w timeout (x >>= f) starts := by
  have paced : Paced p w timeout (x >>= f) (starts ++ begun p w x False) :=
    hx.bind fun b w' => (hf b).paced prompt
  rwa [begun_of_not_due x id, List.append_nil] at paced

/-- A task that keeps a deadline is one phase. -/
theorem KeepsDeadline.paced {x : Task α} (h : KeepsDeadline (w.now + timeout) w.now x)
    (prompt : p.Prompt) : Paced p w timeout x [w.now] := by
  obtain ⟨r, hr, now_le, timedOut⟩ := h σ p w prompt rfl
  refine ⟨⟨r, hr⟩, by simpa using now_le, fun e he late => ⟨w.now, rfl, ?_⟩⟩
  exact timedOut e (Option.some.inj (hr.symm.trans he)) late

/-! #### The phases of an update -/

/-- That a task keeps a deadline carries over from its parts. -/
theorem carriesOver_keepsDeadline :
    CarriesOver fun _ x _ => ∀ {now}, now ≤ deadline → KeepsDeadline deadline now x where
  straight hx := fun ahead => hx.keepsDeadline ahead
  bind h hf := fun ahead => (h ahead).bind fun b _ ahead => hf b ahead

theorem keepsDeadline_flavorPhase (sleeps : t.pollInterval ≠ 0) (ahead : now ≤ deadline) :
    KeepsDeadline deadline now (flavorPhase t observed desired deadline) :=
  carriesOver_keepsDeadline.flavorPhase t t deadline deadline
    (fun _ _ => keepsDeadline_awaitStatus sleeps) ahead

theorem keepsDeadline_diskPhase (sleeps : t.pollInterval ≠ 0) (ahead : now ≤ deadline) :
    KeepsDeadline deadline now (diskPhase t observed desired deadline) :=
  carriesOver_keepsDeadline.diskPhase t t deadline deadline
    (fun _ _ => keepsDeadline_awaitStatus sleeps) ahead

/-- A phase that is due begins at once. -/
theorem paced_phase {body : Instant → Task Unit} (prompt : p.Prompt)
    (reachable : t.timeouts.update < clockLimit)
    (h : ∀ {deadline}, w.now ≤ deadline → KeepsDeadline deadline w.now (body deadline)) :
    Paced p w t.timeouts.update (phase t body) [w.now] := by
  have ahead : w.now ≤ w.now + (t.timeouts.update : Int) := Int.le_add_of_nonneg_right (by simp)
  exact (keepsDeadline_deadlineAfter_bind reachable (h ahead)).paced prompt

theorem paced_resizeFlavor (prompt : p.Prompt) (sleeps : t.pollInterval ≠ 0)
    (reachable : t.timeouts.update < clockLimit) :
    Paced p w t.timeouts.update (resizeFlavor t observed desired)
      (if FlavorDue observed desired then [w.now] else []) := by
  rw [resizeFlavor_eq]
  split_ifs
  · have body : Paced p w _ (phase t (flavorPhase t observed desired)) [w.now] :=
      paced_phase prompt reachable fun ahead => keepsDeadline_flavorPhase sleeps ahead
    exact body.bind_straight prompt fun _ => (goesStraight_pure _ : GoesStraight Call.LooksAway _)
  · exact (goesStraight_pure _ : GoesStraight Call.LooksAway _).paced prompt

theorem paced_growRootDisk (prompt : p.Prompt) (sleeps : t.pollInterval ≠ 0)
    (reachable : t.timeouts.update < clockLimit) :
    Paced p w t.timeouts.update
      (growRootDisk t observed (statusAfterFlavor observed desired) desired)
      (if DiskDue observed desired then [w.now] else []) := by
  rw [growRootDisk_eq]
  split_ifs
  · have body : Paced p w _ (phase t (diskPhase t observed desired)) [w.now] :=
      paced_phase prompt reachable fun ahead => keepsDeadline_diskPhase sleeps ahead
    exact body.bind_straight prompt fun _ => (goesStraight_pure _ : GoesStraight Call.LooksAway _)
  · exact (straight_diskVerdict.bind fun _ => goesStraight_pure _).paced prompt

/-- **The instants at which the phases of an update begin**: the phase of the flavor, if the flavor
is to change, once the steps before it have succeeded, and likewise the phase of the root disk. -/
def phaseStarts (p : Provider σ) (w : World σ) (t : Tuning) (observed : InstanceState)
    (desired : InstanceSpec) : List Instant :=
  begun p w (untilFlavor observed desired) (FlavorDue observed desired) ++
    begun p w (untilDisk t observed desired) (DiskDue observed desired)

/-- There are at most two of them. -/
theorem length_phaseStarts_le : (phaseStarts p w t observed desired).length ≤ 2 := by
  rw [phaseStarts, List.length_append]
  exact Nat.add_le_add (length_begun_le _ _) (length_begun_le _ _)

/-- **An update is paced by its phases.** -/
theorem paced_updateInstance (prompt : p.Prompt) (sleeps : t.pollInterval ≠ 0)
    (reachable : t.timeouts.update < clockLimit) :
    Paced p w t.timeouts.update (updateInstance t observed desired)
      (phaseStarts p w t observed desired) := by
  have start : Paced p w t.timeouts.update (untilDisk t observed desired)
      ([] ++ begun p w (untilFlavor observed desired) (FlavorDue observed desired)) := by
    refine (straight_untilFlavor.paced prompt).bind fun groups w' => ?_
    exact (paced_resizeFlavor prompt sleeps reachable).bind_straight prompt
      fun _ => straight_betweenPhases.bind fun _ => goesStraight_pure _
  rw [List.nil_append] at start
  rw [updateInstance_eq_phases, phaseStarts]
  refine start.bind fun (groups, volumes, networks) w' => ?_
  exact (paced_growRootDisk prompt sleeps reachable).bind_straight prompt
    fun _ => straight_afterDisk

end

/-! ### All operations -/

/-- **An operation keeps to a timeout** that is set when it begins: it ends before the timeout is
over, and if it fails for want of time, it does so when the timeout is over. -/
structure EndsWithin (p : Provider σ) (w : World σ) (timeout : Span) (task : Task α) : Prop where
  /-- The operation ends. -/
  ends : ∃ r, (task.run.exec p w).1 = some r
  /-- It ends before the timeout is over. -/
  within : (task.run.exec p w).2.now ≤ w.now + timeout
  /-- If it fails for want of time, the timeout is over. -/
  timedOut : ∀ e, (task.run.exec p w).1 = some (.error e) → e.TimedOut →
    (task.run.exec p w).2.now = w.now + timeout

theorem KeepsDeadline.endsWithin {p : Provider σ} {w : World σ} {timeout : Span} {task : Task α}
    (h : KeepsDeadline (w.now + timeout) w.now task) (prompt : p.Prompt) :
    EndsWithin p w timeout task := by
  obtain ⟨r, hr, within, timedOut⟩ := h σ p w prompt rfl
  exact ⟨⟨r, hr⟩, within, fun e he => timedOut e (Option.some.inj (hr.symm.trans he))⟩

/-- **Every operation keeps its deadlines**, if no answer takes time, the waits sleep, and the clock
can represent the timeouts: whatever is answered, and whatever the policy is. -/
theorem operations_keep_deadlines {p : Provider σ} (prompt : p.Prompt)
    (sleeps : t.pollInterval ≠ 0) (create : t.timeouts.create < clockLimit)
    (update : t.timeouts.update < clockLimit) (delete : t.timeouts.delete < clockLimit)
    (w : World σ) (observed : InstanceState) (desired : InstanceSpec) :
    EndsWithin p w t.timeouts.create (createInstance t desired) ∧
      EndsWithin p w t.timeouts.delete (deleteInstance t observed) ∧
      (phaseStarts p w t observed desired).length ≤ 2 ∧
      Paced p w t.timeouts.update (updateInstance t observed desired)
        (phaseStarts p w t observed desired) :=
  ⟨(keepsDeadline_createInstance sleeps create).endsWithin prompt,
    (keepsDeadline_deleteInstance sleeps delete).endsWithin prompt, length_phaseStarts_le,
    paced_updateInstance prompt sleeps update⟩

/-! ### A run -/

/-- A tuning with little patience, and an interval that does not divide its timeouts. -/
def hastyTuning : Tuning where
  timeouts := { create := 100, update := 100, delete := 100 }
  pollInterval := 30

/-- A cloud in which the server is not seen off for long. -/
def slowSampleCloud : Cloud := sampleCloud.scriptStatuses "vm" (List.replicate 9 .build)

-- The update fails for want of time in the phase of the flavor, at its deadline.
example :
    let run := (updateInstance hastyTuning sampleState sampleSpec).run.exec Cloud.provider
      ⟨slowSampleCloud, 0⟩
    run.1 = some (.error (.timeout "power off" "vm" none)) ∧ run.2.now = 100 := by
  decide +kernel

theorem prompt_cloud : Cloud.provider.Prompt := fun _ _ _ _ => rfl

theorem operations_keep_deadlines_sample :
    Cloud.provider.Prompt ∧ hastyTuning.pollInterval ≠ 0 ∧
      hastyTuning.timeouts.create < clockLimit ∧ hastyTuning.timeouts.update < clockLimit ∧
      hastyTuning.timeouts.delete < clockLimit ∧
      EndsWithin Cloud.provider ⟨slowSampleCloud, 0⟩ 100 (createInstance hastyTuning sampleSpec) ∧
      EndsWithin Cloud.provider ⟨slowSampleCloud, 0⟩ 100 (deleteInstance hastyTuning sampleState) ∧
      (phaseStarts Cloud.provider ⟨slowSampleCloud, 0⟩ hastyTuning sampleState sampleSpec).length ≤
        2 ∧
      Paced Cloud.provider ⟨slowSampleCloud, 0⟩ 100
        (updateInstance hastyTuning sampleState sampleSpec)
        (phaseStarts Cloud.provider ⟨slowSampleCloud, 0⟩ hastyTuning sampleState sampleSpec) :=
  have sleeps : hastyTuning.pollInterval ≠ 0 := by decide
  have reachable : 100 < clockLimit := by decide
  ⟨prompt_cloud, sleeps, reachable, reachable, reachable,
    operations_keep_deadlines prompt_cloud sleeps reachable reachable reachable
      ⟨slowSampleCloud, 0⟩ sampleState sampleSpec⟩

end Reconciler
