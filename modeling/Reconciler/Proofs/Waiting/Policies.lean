import Reconciler.Lifecycle.Creation
import Reconciler.Lifecycle.Removal
import Reconciler.Proofs.Accounts
import Reconciler.Proofs.Update.Phases
import Reconciler.Proofs.Waiting.Rounds

/-!
# What the policy of a wait decides

The two policies differ over one thing, a look of a wait that was refused: one of them looks again,
and under the other the wait is over. So as long as no look is refused, an operation does the same
under both. With the first look that is refused the operation ends under one of them, and its
failure is that of the look.

## What is proved

* `Shortens.bind`, `ShortensTask.bind`: one program that stops where another goes on, put together
  from its parts.
* `shortens_loop`: a wait under the two policies.
* `operations_shortened`: creations, deletions and updates under the two policies, whoever answers
  the calls.
-/

namespace Reconciler

variable {α β ε τ σ : Type}

/-! ### Programs that stop short -/

/-- **Two runs side by side**, of a program `q` and of one that may stop where `q` goes on: either
both do the same, or the second makes the first calls of `q` and no others, and what it stops with,
its last exchange and its value, is as `stop` says. -/
inductive SideBySide (p : Provider σ) (w : World σ) (stop : Exchange → α → Prop)
    (q q' : Program α) : Prop where
  /-- The same calls at the same instants, the same answers, and the same result. -/
  | same (trace : q'.trace p w = q.trace p w) (exec : q'.exec p w = q.exec p w) :
    SideBySide p w stop q q'
  /-- Only the first calls. -/
  | short {last : Exchange} {a : α} (ends : ∃ earlier, q'.trace p w = earlier ++ [last])
    (first : q'.trace p w <+: q.trace p w) (value : (q'.exec p w).1 = some a)
    (stopped : stop last a) : SideBySide p w stop q q'

/-- **The program `q'` may stop where `q` goes on**, whoever answers its calls. -/
def Shortens (stop : Exchange → α → Prop) (q q' : Program α) : Prop :=
  ∀ (σ : Type) (p : Provider σ) (w : World σ), SideBySide p w stop q q'

variable {stop : Exchange → α → Prop} {stop' : Exchange → β → Prop}

theorem Shortens.refl (q : Program α) : Shortens stop q q := fun _ _ _ => .same rfl rfl

/-- What two runs do in the same way may come before. -/
theorem SideBySide.after {p : Provider σ} {w w' : World σ} {q : Program β} {b : β}
    {f f' : β → Program α} (hq : q.exec p w = (some b, w'))
    (h : SideBySide p w' stop (f b) (f' b)) : SideBySide p w stop (q.bind f) (q.bind f') := by
  cases h with
  | same ht he =>
    refine .same ?_ ?_
    · rw [trace_bind_of_exec hq, trace_bind_of_exec hq, ht]
    · rw [exec_bind_of_exec hq, exec_bind_of_exec hq, he]
  | short ht hfirst hvalue hstop =>
    obtain ⟨earlier, ht⟩ := ht
    refine .short ⟨q.trace p w ++ earlier, ?_⟩ ?_ ?_ hstop
    · rw [trace_bind_of_exec hq, ht, List.append_assoc]
    · rw [trace_bind_of_exec hq, trace_bind_of_exec hq]
      exact (List.prefix_append_right_inj _).2 hfirst
    · rw [exec_bind_of_exec hq]
      exact hvalue

/-- What both programs begin with may come before. -/
theorem Shortens.after (q : Program β) {f f' : β → Program α}
    (hf : ∀ b, Shortens stop (f b) (f' b)) : Shortens stop (q.bind f) (q.bind f') := by
  intro σ p w
  rcases hq : q.exec p w with ⟨_ | b, w'⟩
  · refine .same ?_ ?_
    · rw [Program.trace_bind, Program.trace_bind, hq]
    · rw [Program.exec_bind, Program.exec_bind, hq]
  · exact .after hq (hf b σ p w')

/-- **Two programs in a row**: what the first stops with, the second hands on without a call. -/
theorem Shortens.bind {q q' : Program β} {f f' : β → Program α} (h : Shortens stop' q q')
    (hf : ∀ b, Shortens stop (f b) (f' b))
    (handsOn : ∀ last b, stop' last b → ∃ a, f' b = .pure a ∧ stop last a) :
    Shortens stop (q.bind f) (q'.bind f') := by
  intro σ p w
  cases h σ p w with
  | same ht he =>
    have trace : (q'.bind f').trace p w = (q.bind f').trace p w := by
      rw [Program.trace_bind, Program.trace_bind, ht, he]
    have exec : (q'.bind f').exec p w = (q.bind f').exec p w := by
      rw [Program.exec_bind, Program.exec_bind, he]
    cases Shortens.after q hf σ p w with
    | same ht' he' => exact .same (trace.trans ht') (exec.trans he')
    | short ht' hfirst hvalue hstop =>
      exact .short (trace ▸ ht') (trace ▸ hfirst) (exec ▸ hvalue) hstop
  | @short last b ht hfirst hvalue hstop =>
    obtain ⟨a, ha, hstop'⟩ := handsOn last b hstop
    have hq : q'.exec p w = (some b, (q'.exec p w).2) := Prod.ext hvalue rfl
    have trace : (q'.bind f').trace p w = q'.trace p w := by
      rw [trace_bind_of_exec hq, ha]
      exact List.append_nil _
    refine .short (trace ▸ ht) ?_ ?_ hstop'
    · rw [trace, Program.trace_bind]
      exact hfirst.trans (List.prefix_append _ _)
    · rw [exec_bind_of_exec hq, ha]
      rfl

/-- A task stops with a failure. -/
def StopsWith (refused : Exchange → Failure → Prop) (last : Exchange) (r : Except Failure α) :
    Prop :=
  ∃ e, r = .error e ∧ refused last e

/-- **The task `x'` may stop where `x` goes on**, and then it fails. -/
abbrev ShortensTask (refused : Exchange → Failure → Prop) (x x' : Task α) : Prop :=
  Shortens (StopsWith refused) x.run x'.run

variable {refused : Exchange → Failure → Prop}

/-- **Two tasks in a row**: when the first fails, so do both. -/
theorem ShortensTask.bind {x x' : Task β} {f f' : β → Task α} (h : ShortensTask refused x x')
    (hf : ∀ b, ShortensTask refused (f b) (f' b)) :
    ShortensTask refused (x >>= f) (x' >>= f') := by
  refine Shortens.bind h (fun r => ?_) ?_
  · cases r with
    | ok b => exact hf b
    | error e => exact .refl _
  · rintro last _ ⟨e, rfl, hrefused⟩
    exact ⟨.error e, rfl, e, rfl, hrefused⟩

/-- What comes before and is the same. -/
theorem ShortensTask.after (x : Task β) {f f' : β → Task α}
    (hf : ∀ b, ShortensTask refused (f b) (f' b)) :
    ShortensTask refused (x >>= f) (x >>= f') := by
  refine Shortens.after x.run fun r => ?_
  cases r with
  | ok b => exact hf b
  | error e => exact .refl _

/-! ### Waits -/

section

variable [Retryable ε]

/-- The policies differ over refused requests only. -/
theorem Check.verdict?_of_ne {seen : Check ε β}
    (h : seen.verdict? .abortOnClientError ≠ seen.verdict? .retryAll) :
    ∃ e, seen = .failed e ∧ Retryable.retryClass e = .client := by
  cases seen with
  | done v => exact absurd rfl h
  | notYet => exact absurd rfl h
  | failed e =>
    refine ⟨e, rfl, ?_⟩
    simp only [verdict?] at h
    cases hclass : Retryable.retryClass e with
    | client => rfl
    | transient => simp [hclass, PollPolicy.abortsOn] at h
    | fatal => simp [hclass, PollPolicy.abortsOn] at h

/-- The wait under a policy. -/
def Wait.under (w : Wait) (policy : PollPolicy) : Wait := { w with policy }

variable {w : Wait} {check : τ → Program (τ × Check ε β)} {refusedLook : Exchange → ε → Prop}

/-- **A check shows its refusals**: if it failed since a request was refused, that was the last one
that it made. -/
def ShowsRefusals (refusedLook : Exchange → ε → Prop) (r : Option (Check ε β))
    (es : List Exchange) : Prop :=
  ∀ e, r = some (.failed e) → Retryable.retryClass e = .client →
    ∃ earlier last, es = earlier ++ [last] ∧ refusedLook last e

/-- A wait stops with the failure of its last look. -/
def AbortsWith (refusedLook : Exchange → ε → Prop) (last : Exchange)
    (r : Except (WaitError ε) β) : Prop :=
  ∃ e, r = .error (.aborted e) ∧ refusedLook last e

/-- **A wait under the two policies.** -/
theorem shortens_loop
    (h : ∀ s, (check s).Gives fun r => ShowsRefusals refusedLook (r.map (·.2)))
    (started : Instant) (n : Nat) (s : τ) (lastError : Option String) :
    Shortens (fun last r => AbortsWith refusedLook last r.2)
      ((w.under .retryAll).loop check started n s lastError)
      ((w.under .abortOnClientError).loop check started n s lastError) := by
  induction n generalizing s lastError with
  | zero => exact .refl _
  | succ n ih =>
    intro σ p v
    have shows := h s σ p v
    rw [Wait.loop_succ, Wait.loop_succ]
    rcases hcheck : (check s).exec p v with ⟨_ | ⟨s', seen⟩, v'⟩
    · refine .same ?_ ?_
      · rw [Program.trace_bind, Program.trace_bind, hcheck]
      · rw [Program.exec_bind, Program.exec_bind, hcheck]
    rw [hcheck] at shows
    by_cases agree : seen.verdict? .abortOnClientError = seen.verdict? .retryAll
    · refine .after hcheck ?_
      cases hseen : seen.verdict? .retryAll with
      | some result =>
        rw [Wait.afterCheck_of_some _ _ _ _ _ _ hseen,
          Wait.afterCheck_of_some _ _ _ _ _ _ (agree.trans hseen)]
        exact .same rfl rfl
      | none =>
        rw [Wait.afterCheck_of_none _ _ _ _ _ _ hseen,
          Wait.afterCheck_of_none _ _ _ _ _ _ (agree.trans hseen)]
        refine Shortens.after Program.clock (fun now => ?_) σ p v'
        show Shortens _ (if w.deadline ≤ now then _ else _) (if w.deadline ≤ now then _ else _)
        split_ifs
        · exact .refl _
        · exact .after _ fun _ => ih s' _
    · -- The check was refused, so that one wait is over with it and the other is not.
      obtain ⟨e, rfl, hclass⟩ := Check.verdict?_of_ne agree
      obtain ⟨earlier, last, hes, hrefused⟩ := shows e rfl hclass
      have aborts : (Check.failed e : Check ε β).verdict? .abortOnClientError =
          some (.error (.aborted e)) := by
        simp [Check.verdict?, hclass, PollPolicy.abortsOn]
      refine .short (a := (s', .error (.aborted e))) ⟨earlier, ?_⟩ ?_ ?_ ⟨e, rfl, hrefused⟩
      · rw [trace_bind_of_exec hcheck, Wait.afterCheck_of_some _ _ _ _ _ _ aborts, hes]
        exact List.append_nil _
      · rw [trace_bind_of_exec hcheck, trace_bind_of_exec hcheck,
          Wait.afterCheck_of_some _ _ _ _ _ _ aborts]
        exact (List.prefix_append_right_inj _).2 List.nil_prefix
      · rw [exec_bind_of_exec hcheck, Wait.afterCheck_of_some _ _ _ _ _ _ aborts]
        rfl

theorem shortens_run
    (h : ∀ s, (check s).Gives fun r => ShowsRefusals refusedLook (r.map (·.2))) (s : τ) :
    Shortens (fun last r => AbortsWith refusedLook last r.2) ((w.under .retryAll).run check s)
      ((w.under .abortOnClientError).run check s) :=
  .after Program.clock fun started => shortens_loop h started _ s none

/-- The same for a wait whose checks carry no state. -/
theorem shortens_poll {check : Program (Check ε β)} (h : check.Gives (ShowsRefusals refusedLook)) :
    Shortens (AbortsWith refusedLook) ((w.under .retryAll).poll check)
      ((w.under .abortOnClientError).poll check) := by
  have look (_ : Unit) : (check.bind fun seen => .pure ((), seen)).Gives
      fun r => ShowsRefusals refusedLook (r.map (·.2)) := by
    refine Program.Gives.bind h (fun seen es hseen => Program.gives_pure ?_)
      fun es _ e he => nomatch he
    rw [List.append_nil]
    exact hseen
  exact Shortens.bind (shortens_run look ()) (fun _ => .refl _) fun last b hb => ⟨b.2, rfl, hb⟩

end

/-! ### Looks that are refused -/

/-- The policy with which a tuning makes its waits. -/
def Tuning.under (t : Tuning) (policy : PollPolicy) : Tuning := { t with policy }

/-- **A look was refused**: the exchange is one of the `looks`, it was answered that the request is
refused, and the failure says so. -/
def RefusedLook (looks : Call → Prop) (last : Exchange) (cause : Failure) : Prop :=
  looks last.call ∧ ∃ action status detail,
    last.outcome = .error (.client status detail) ∧ cause = .remote action (.client status detail)

variable {t : Tuning} {s : InstanceState} {region : Region} {id : InstanceId}
  {observed : InstanceState} {desired : InstanceSpec} {deadline : Instant} {looks : Call → Prop}

/-- A check that failed with its only call shows whether that was refused. -/
theorem showsRefusals_remote {start : Instant} {c : Call} {action : String} {e : RemoteError}
    (hc : looks c) :
    ShowsRefusals (RefusedLook looks) (some (.failed (.remote action e) : Check Failure β))
      [⟨start, region, c, .error e⟩] := by
  rintro _ ⟨⟩ hclass
  cases e with
  | client status detail => exact ⟨[], _, rfl, hc, action, status, detail, rfl, rfl⟩
  | notFound detail => nomatch hclass
  | server status detail => nomatch hclass

/-- A check that did not fail, or that failed for good, shows nothing. -/
theorem showsRefusals_of_ne {seen : Check Failure β} {es : List Exchange}
    (h : ∀ e, seen = .failed e → e.retryClass ≠ .client) :
    ShowsRefusals (RefusedLook looks) (some seen) es :=
  fun e he hclass => absurd hclass (h e (Option.some.inj he))

theorem gives_statusCheck_refusals {target : Status} {action : String} :
    (statusCheck region id target action).Gives
      (ShowsRefusals (RefusedLook (· = .getServer id))) := by
  refine Program.gives_request_bind fun start o => ?_
  cases o with
  | error e => exact Program.gives_pure (showsRefusals_remote rfl)
  | ok detail =>
    show Program.Gives (if (detail : ServerDetail).status = target then _
      else if (detail : ServerDetail).status = .error then _ else _) _
    split_ifs
    · exact Program.gives_pure (showsRefusals_of_ne fun _ h => nomatch h)
    · exact Program.gives_pure (showsRefusals_of_ne fun _ h => by cases h; exact nofun)
    · exact Program.gives_pure (showsRefusals_of_ne fun _ h => nomatch h)

theorem gives_goneCheck_refusals :
    (goneCheck region id).Gives (ShowsRefusals (RefusedLook (· = .getServer id))) := by
  refine Program.gives_request_bind fun start o => ?_
  cases o with
  | ok detail => exact Program.gives_pure (showsRefusals_of_ne fun _ h => nomatch h)
  | error e =>
    show Program.Gives (if e.isNotFound then _ else _) _
    split_ifs
    · exact Program.gives_pure (showsRefusals_of_ne fun _ h => nomatch h)
    · exact Program.gives_pure (showsRefusals_remote rfl)

/-- The result of a wait as that of a task: both stop with the same failure. -/
theorem AbortsWith.awaited {action : String} {last : Exchange}
    {r : Except (WaitError Failure) α} (h : AbortsWith (RefusedLook looks) last r) :
    StopsWith (RefusedLook looks) last (awaited action id r) := by
  obtain ⟨e, rfl, hrefused⟩ := h
  exact ⟨e, rfl, hrefused⟩

theorem shortens_awaitStatus {target : Status} {action : String} :
    ShortensTask (RefusedLook (· = .getServer id))
      (awaitStatus (t.under .retryAll) region id target action deadline)
      (awaitStatus (t.under .abortOnClientError) region id target action deadline) :=
  Shortens.bind (shortens_poll (w := t.wait deadline) gives_statusCheck_refusals)
    (fun _ => .refl _) fun _ _ hr => ⟨_, rfl, hr.awaited⟩

theorem shortens_awaitGone :
    ShortensTask (RefusedLook (· = .getServer id))
      (awaitGone (t.under .retryAll) region id deadline)
      (awaitGone (t.under .abortOnClientError) region id deadline) :=
  Shortens.bind (shortens_poll (w := t.wait deadline) gives_goneCheck_refusals)
    (fun _ => .refl _) fun _ _ hr => ⟨_, rfl, hr.awaited⟩

/-! ### Deletions and updates -/

theorem shortens_deleteInstance :
    ShortensTask (RefusedLook (· = .getServer observed.id))
      (deleteInstance (t.under .retryAll) observed)
      (deleteInstance (t.under .abortOnClientError) observed) := by
  refine Shortens.after (Program.request observed.region (.deleteServer observed.id)) fun o => ?_
  cases o with
  | ok _ => exact .after (deadlineAfter t.timeouts.delete) fun _ => shortens_awaitGone
  | error e => exact .refl _

theorem shortens_phase {body body' : Instant → Task Unit}
    (h : ∀ deadline, ShortensTask refused (body deadline) (body' deadline)) :
    ShortensTask refused (phase (t.under .retryAll) body)
      (phase (t.under .abortOnClientError) body') :=
  .after (liftM (deadlineAfter t.timeouts.update)) h

/-- That a task may stop short carries over from its parts. -/
theorem carriesOver_shortens : CarriesOver fun _ x x' => ShortensTask refused x x' where
  straight _ := .refl _
  bind h hf := h.bind hf

theorem shortens_updateInstance :
    ShortensTask (RefusedLook (· = .getServer observed.id))
      (updateInstance (t.under .retryAll) observed desired)
      (updateInstance (t.under .abortOnClientError) observed desired) :=
  carriesOver_shortens.updateInstance _ _
    (shortens_phase fun _ =>
      carriesOver_shortens.flavorPhase _ _ _ _ fun _ _ => shortens_awaitStatus)
    (shortens_phase fun _ =>
      carriesOver_shortens.diskPhase _ _ _ _ fun _ _ => shortens_awaitStatus)

/-! ### Creations -/

/-- The failure of a creation that came only part of the way since a look was refused. -/
def InCreation (refused : Exchange → Failure → Prop) (last : Exchange) (e : Failure) : Prop :=
  ∃ s cause, e = .incomplete s cause ∧ refused last cause

theorem ShortensTask.within {step step' : Task α} (h : ShortensTask refused step step') :
    ShortensTask (InCreation refused) (within s step) (within s step') := by
  refine Shortens.bind h (fun _ => .refl _) ?_
  rintro last _ ⟨e, rfl, hrefused⟩
  exact ⟨_, rfl, _, rfl, s, e, rfl, hrefused⟩

/-- The call is one of those that the waits of a creation make. -/
def Call.IsCreationLook : Call → Prop
  | .getServer _ | .inquireTask _ | .listNetworks => True
  | _ => False

/-- A look at an instance being built, by whichever of the two calls, is its only exchange. -/
theorem gives_lookUpBuilt_refusals : (lookUpBuilt s).Gives fun r es => ∃ o, r = some o ∧
    ∀ e, o = .error e → ShowsRefusals (RefusedLook Call.IsCreationLook)
      (some (.failed (.remote "inquire instance" e) : Check Failure Unit)) es := by
  rw [lookUpBuilt]
  cases s.taskId with
  | none =>
    rw [← Program.bind_pure' (Program.request _ _)]
    refine Program.gives_request_bind fun start o => Program.gives_pure ⟨o, rfl, ?_⟩
    rintro e rfl
    exact showsRefusals_remote trivial
  | some task =>
    rw [← Program.bind_pure' (Program.request _ _)]
    refine Program.gives_request_bind fun start o => Program.gives_pure ⟨o, rfl, ?_⟩
    rintro e rfl
    exact showsRefusals_remote trivial

theorem gives_buildCheck_refusals (latest : Option ServerDetail) :
    (buildCheck s latest).Gives fun r =>
      ShowsRefusals (RefusedLook Call.IsCreationLook) (r.map (·.2)) := by
  refine Program.Gives.bind gives_lookUpBuilt_refusals ?_ ?_
  · rintro o es ⟨_, ⟨⟩, failed⟩
    cases o with
    | error e =>
      refine Program.gives_pure ?_
      rw [List.append_nil]
      exact failed e rfl
    | ok detail =>
      refine Program.gives_pure (showsRefusals_of_ne fun e he => ?_)
      dsimp only at he
      split at he
      · nomatch he
      · cases he
        exact nofun
      · nomatch he
  · rintro es ⟨_, ho, -⟩
    nomatch ho

theorem gives_networksCheck_refusals {requested : IdSet} :
    (networksCheck region id requested).Gives
      (ShowsRefusals (RefusedLook Call.IsCreationLook)) := by
  refine Program.gives_request_bind fun start o => ?_
  cases o with
  | error e => exact Program.gives_pure (showsRefusals_remote trivial)
  | ok listing =>
    show Program.Gives (if _ then _ else _) _
    split_ifs
    · exact Program.gives_pure (showsRefusals_of_ne fun _ h => nomatch h)
    · exact Program.gives_pure (showsRefusals_of_ne fun _ h => nomatch h)

theorem shortens_awaitBuilt :
    Shortens (fun last r => StopsWith (RefusedLook Call.IsCreationLook) last r.2)
      (awaitBuilt (t.under .retryAll) s deadline)
      (awaitBuilt (t.under .abortOnClientError) s deadline) :=
  Shortens.bind (shortens_run (w := t.wait deadline) gives_buildCheck_refusals none)
    (fun _ => .refl _) fun _ _ hr => ⟨_, rfl, hr.awaited⟩

theorem shortens_awaitNetworks :
    ShortensTask (RefusedLook Call.IsCreationLook)
      (awaitNetworks (t.under .retryAll) desired s deadline)
      (awaitNetworks (t.under .abortOnClientError) desired s deadline) := by
  rw [awaitNetworks, awaitNetworks]
  split_ifs
  · exact .refl _
  · refine Shortens.bind (shortens_poll (w := t.wait deadline) gives_networksCheck_refusals)
      (fun _ => .refl _) ?_
    rintro last _ ⟨e, rfl, hrefused⟩
    exact ⟨_, rfl, e, rfl, hrefused⟩

theorem shortens_createInstance :
    ShortensTask (InCreation (RefusedLook Call.IsCreationLook))
      (createInstance (t.under .retryAll) desired)
      (createInstance (t.under .abortOnClientError) desired) := by
  have converge (s : InstanceState) :
      ShortensTask (InCreation (RefusedLook Call.IsCreationLook))
        (convergeCreated (t.under .retryAll) desired s)
        (convergeCreated (t.under .abortOnClientError) desired s) := by
    refine .after (liftM (deadlineAfter t.timeouts.create)) fun deadline => ?_
    rw [ShortensTask, run_liftM_bind, run_liftM_bind]
    refine Shortens.bind shortens_awaitBuilt (fun (latest, built) => ?_) ?_
    · refine ShortensTask.after _ fun _ => ?_
      refine shortens_awaitNetworks.within.bind fun networks => ?_
      exact .refl _
    · rintro last ⟨latest, _⟩ ⟨e, rfl, hrefused⟩
      exact ⟨_, rfl, _, rfl, _, e, rfl, hrefused⟩
  rw [createInstance, createInstance]
  cases desired.revertToSnapshotId with
  | some snapshotId => exact .refl _
  | none => exact .after _ fun _ => converge _

/-! ### All operations -/

/-- **The policy matters for refused looks only.** Under the two policies an operation does the
same, or the one that is over with the first look that is refused makes the first calls of the other,
up to such a look, and fails for it. -/
theorem operations_shortened (p : Provider σ) (w : World σ) (t : Tuning) (observed : InstanceState)
    (desired : InstanceSpec) :
    SideBySide p w (StopsWith (InCreation (RefusedLook Call.IsCreationLook)))
        (createInstance (t.under .retryAll) desired).run
        (createInstance (t.under .abortOnClientError) desired).run ∧
      SideBySide p w (StopsWith (RefusedLook (· = .getServer observed.id)))
        (deleteInstance (t.under .retryAll) observed).run
        (deleteInstance (t.under .abortOnClientError) observed).run ∧
      SideBySide p w (StopsWith (RefusedLook (· = .getServer observed.id)))
        (updateInstance (t.under .retryAll) observed desired).run
        (updateInstance (t.under .abortOnClientError) observed desired).run :=
  ⟨shortens_createInstance σ p w, shortens_deleteInstance σ p w, shortens_updateInstance σ p w⟩

end Reconciler
