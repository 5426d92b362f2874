import Reconciler.Proofs.Cloud.Obscured
import Reconciler.Proofs.Update.Moves
import Reconciler.Proofs.Waiting.Deadlines

/-!
# Updates past failures that pass

An update looks at its instance only in its waits, and these look past failures that may pass. A
look that fails so takes a failure off its queue and costs the wait one round, while everything else
in the cloud stays as it is: no status of a script has been used up. So an update in a cloud that is
obscured runs beside the same update in the plain cloud. It makes the same changes, only later, and
as its waits have the same deadlines, it may run out of time.

The two runs are compared step by step. Outside a phase the clouds are the same but for the failures
that are still to come. Within a phase the obscured run *trails* the plain one: it has no more time
until its deadline. A failed look is a round of the obscured run alone, and the plain one waits for
it; any other look is a round of both.

## What is proved

* `Beside.bind`, `Alongside.bind`: two runs beside each other are put together from the runs of
  their parts.
* `beside_loop`: a wait in the two clouds.
* `updateInstance_obscured`: failures that may pass change nothing about an update, unless it runs
  out of time.
-/

namespace Reconciler

variable {α β : Type}

/-! ### Two runs beside each other -/

/-- **Two runs beside each other**, of `q` from `w` and of `q'` from `w'`, by the cloud in memory.
Either both end with the same value after the same changes, and the worlds in which they end are
`alike`; or the second ends `late`, with the first of the changes. -/
inductive Beside (alike : World Cloud → World Cloud → Prop) (late : α → Prop) (q q' : Program α)
    (w w' : World Cloud) : Prop where
  /-- The same value after the same changes. -/
  | same {a : α} {v v' : World Cloud} (exec : q.exec Cloud.provider w = (some a, v))
    (exec' : q'.exec Cloud.provider w' = (some a, v')) (related : alike v v')
    (changes : mutations (q'.trace Cloud.provider w') = mutations (q.trace Cloud.provider w)) :
    Beside alike late q q' w w'
  /-- Too late, after the first changes. -/
  | late {a : α} (value : (q'.exec Cloud.provider w').1 = some a) (isLate : late a)
    (changes : mutations (q'.trace Cloud.provider w') <+:
      mutations (q.trace Cloud.provider w)) :
    Beside alike late q q' w w'

variable {alike alike' : World Cloud → World Cloud → Prop} {late : α → Prop} {w w' : World Cloud}

theorem Beside.mono {q q' : Program α} (h : Beside alike late q q' w w')
    (hw : ∀ v v', alike v v' → alike' v v') : Beside alike' late q q' w w' := by
  cases h with
  | same exec exec' related changes => exact .same exec exec' (hw _ _ related) changes
  | late value isLate changes => exact .late value isLate changes

/-- Two values that are the same. -/
theorem beside_pure {a : α} (h : alike w w') : Beside alike late (.pure a) (.pure a) w w' :=
  .same rfl rfl h rfl

/-- Runs that are like two that are beside each other. -/
theorem Beside.of_eq {q q' r r' : Program α} {v v' : World Cloud}
    (h : Beside alike late r r' v v')
    (exec : q.exec Cloud.provider w = r.exec Cloud.provider v)
    (trace : q.trace Cloud.provider w = r.trace Cloud.provider v)
    (exec' : q'.exec Cloud.provider w' = r'.exec Cloud.provider v')
    (trace' : q'.trace Cloud.provider w' = r'.trace Cloud.provider v') :
    Beside alike late q q' w w' := by
  cases h with
  | same end_ end' related changes =>
    exact .same (exec.trans end_) (exec'.trans end') related (by rw [trace, trace', changes])
  | late value isLate changes =>
    exact .late (exec' ▸ value) isLate (by rw [trace, trace']; exact changes)

/-- What both runs have done with the same changes may come before. -/
theorem Beside.after {q q' : Program β} {f f' : β → Program α} {b b' : β} {v v' : World Cloud}
    (hq : q.exec Cloud.provider w = (some b, v)) (hq' : q'.exec Cloud.provider w' = (some b', v'))
    (changes : mutations (q'.trace Cloud.provider w') = mutations (q.trace Cloud.provider w))
    (h : Beside alike late (f b) (f' b') v v') :
    Beside alike late (q.bind f) (q'.bind f') w w' := by
  cases h with
  | same exec exec' related same =>
    refine .same ((exec_bind_of_exec hq).trans exec) ((exec_bind_of_exec hq').trans exec')
      related ?_
    rw [trace_bind_of_exec hq, trace_bind_of_exec hq', mutations_append, mutations_append, changes,
      same]
  | late value isLate first =>
    refine .late ((congrArg Prod.fst (exec_bind_of_exec hq')).trans value) isLate ?_
    rw [trace_bind_of_exec hq, trace_bind_of_exec hq', mutations_append, mutations_append, changes]
    exact (List.prefix_append_right_inj _).2 first

/-- What the second run has done without a change, while the first did nothing, may come before. -/
theorem Beside.alone {q : Program α} {q' : Program β} {f' : β → Program α} {b : β}
    {v' : World Cloud} (hq' : q'.exec Cloud.provider w' = (some b, v'))
    (silent : mutations (q'.trace Cloud.provider w') = [])
    (h : Beside alike late q (f' b) w v') : Beside alike late q (q'.bind f') w w' :=
  Beside.after (q := .pure b) (f := fun _ => q) rfl hq' silent h

theorem beside_clock {f f' : Instant → Program α}
    (h : Beside alike late (f w.now) (f' w'.now) w w') :
    Beside alike late (Program.clock.bind f) (Program.clock.bind f') w w' :=
  h.of_eq rfl rfl rfl rfl

/-- **Two programs in a row.** What the first ends with too late, the second hands on. -/
theorem Beside.bind {late' : β → Prop} {q q' : Program β} {f f' : β → Program α}
    (h : Beside alike late' q q' w w')
    (hf : ∀ b v v', alike v v' → Beside alike' late (f b) (f' b) v v')
    (handsOn : ∀ b, late' b → ∃ a, f' b = .pure a ∧ late a) :
    Beside alike' late (q.bind f) (q'.bind f') w w' := by
  cases h with
  | same exec exec' related changes => exact .after exec exec' changes (hf _ _ _ related)
  | @late b value isLate changes =>
    obtain ⟨a, ha, late⟩ := handsOn b isLate
    have hq' : q'.exec Cloud.provider w' = (some b, (q'.exec Cloud.provider w').2) :=
      Prod.ext value rfl
    refine .late (a := a) ?_ late ?_
    · rw [exec_bind_of_exec hq', ha]
      rfl
    · rw [trace_bind_of_exec hq', ha, Program.trace_bind, mutations_append, mutations_append]
      exact (List.append_nil _).symm ▸ changes.trans (List.prefix_append _ _)

/-! ### Tasks beside each other -/

/-- A task has run out of time while it waited for an instance. -/
def RunsLate (id : InstanceId) (r : Except Failure α) : Prop :=
  ∃ action lastError, r = .error (.timeout action id lastError)

/-- **Two tasks for an instance run alongside**: from any two worlds that are alike their runs are
beside each other, and the worlds in which they end are alike again. -/
def Alongside (id : InstanceId) (alike : World Cloud → World Cloud → Prop) (x x' : Task α) : Prop :=
  ∀ {w w' : World Cloud}, alike w w' → Beside alike (RunsLate id) x.run x'.run w w'

variable {id : InstanceId}

/-- **Two tasks in a row.** -/
theorem Alongside.bind {x x' : Task β} {f f' : β → Task α} (h : Alongside id alike x x')
    (hf : ∀ b, Alongside id alike (f b) (f' b)) : Alongside id alike (x >>= f) (x' >>= f') := by
  intro w w' related
  refine Beside.bind (h related) (fun r v v' related => ?_) ?_
  · cases r with
    | ok b => exact hf b related
    | error e => exact beside_pure related
  · rintro _ ⟨action, lastError, rfl⟩
    exact ⟨_, rfl, action, lastError, rfl⟩

/-- The clouds of two worlds are the same, but for looks that will fail in the second. -/
def SameClouds (w w' : World Cloud) : Prop := w.store.Obscured w'.store

/-- **The second world trails the first**: their clouds are the same, but for looks that will fail
in the second, and in the second it is no longer until the deadline than in the first. -/
structure Trails (deadline deadline' : Instant) (w w' : World Cloud) : Prop where
  /-- The clouds are the same. -/
  clouds : SameClouds w w'
  /-- The deadline of the second world is no further off. -/
  sooner : (deadline' - w'.now).toNat ≤ (deadline - w.now).toNat

/-- **What goes straight through** and does not look at the instance does the same in both clouds,
and takes no time. -/
theorem straight_beside {x : Task α} (hx : GoesStraight Call.LooksAway x) (h : SameClouds w w') :
    Beside (fun v v' => SameClouds v v' ∧ v.now = w.now ∧ v'.now = w'.now) (RunsLate id) x.run x.run
      w w' := by
  have answers (v v' : World Cloud) (region : Region) (c : Call) (away : c.LooksAway)
      (related : v.store.Obscured v'.store) :
      v.outcome Cloud.provider region c = v'.outcome Cloud.provider region c ∧
        (v.afterCall Cloud.provider region c).store.Obscured
          (v'.afterCall Cloud.provider region c).store :=
    have ⟨answer, next⟩ := related.answer away
    ⟨answer.symm, next⟩
  obtain ⟨value, clouds, calls⟩ := Program.Straight.lockstep answers hx h
  obtain ⟨r, hr, -⟩ := Program.Straight.gives hx Cloud Cloud.provider w
  refine Beside.same (Prod.ext hr rfl) (Prod.ext (value.symm.trans hr) rfl)
    ⟨clouds, hx.now_exec prompt_cloud w, hx.now_exec prompt_cloud w'⟩ ?_
  rw [mutations, mutations, calls]

variable {deadline deadline' : Instant}

/-- Running alongside carries over from the parts of a task, outside a phase and within one. -/
theorem carriesOver_sameClouds : CarriesOver fun _ x x' => Alongside id SameClouds x x' where
  straight hx := fun h => (straight_beside hx h).mono fun _ _ related => related.1
  bind h hf := h.bind hf

theorem carriesOver_trails :
    CarriesOver fun _ x x' => Alongside id (Trails deadline deadline') x x' where
  straight hx := fun h => by
    refine (straight_beside hx h.clouds).mono fun v v' ⟨clouds, now, now'⟩ => ⟨clouds, ?_⟩
    rw [now, now']
    exact h.sooner
  bind h hf := h.bind hf

/-! ### Waits beside each other -/

/-- **A look in the two clouds**: both runs see the same, or the look fails in the obscured cloud
with a failure that may pass. It takes no time. -/
inductive Glance (check : Program (Check Failure β)) (w w' : World Cloud) : Prop where
  /-- Both see the same. -/
  | seen {seen : Check Failure β} {c c' : Cloud}
    (exec : check.exec Cloud.provider w = (some seen, ⟨c, w.now⟩))
    (exec' : check.exec Cloud.provider w' = (some seen, ⟨c', w'.now⟩)) (clouds : c.Obscured c') :
    Glance check w w'
  /-- One fails, and the other need not be made yet. -/
  | missed {e : Failure} {c' : Cloud}
    (exec' : check.exec Cloud.provider w' = (some (.failed e), ⟨c', w'.now⟩))
    (passes : e.retryClass = .transient) (clouds : w.store.Obscured c') : Glance check w w'

theorem RemoteError.MayPass.transient {e : RemoteError} (h : e.MayPass) (action : String) :
    (Failure.remote action e).retryClass = .transient := by
  cases e with
  | client status detail => exact h.elim
  | notFound detail => rfl
  | server status detail => rfl

section

variable {region : Region} {target : Status} {action : String}

/-- What is seen of an instance for which a status is awaited. -/
def statusSeen (id : InstanceId) (target : Status) (action : String) :
    Outcome (.getServer id) → Check Failure Unit
  | .error e => .failed (.remote "get instance" e)
  | .ok (detail : ServerDetail) =>
    if detail.status = target then .done ()
    else if detail.status = .error then .failed (.transitionedToError id action)
    else .notYet

/-- A look for a status sees what it is answered. -/
theorem statusCheck_eq : statusCheck region id target action =
    (Program.request region (.getServer id)).bind fun o =>
      .pure (statusSeen id target action o) := by
  refine congrArg (Program.request region (.getServer id)).bind (funext fun o => ?_)
  cases o with
  | error e => rfl
  | ok detail =>
    dsimp only [statusSeen]
    split_ifs <;> rfl

theorem exec_statusCheck (w : World Cloud) :
    (statusCheck region id target action).exec Cloud.provider w =
      (some (statusSeen id target action (w.store.answer (.getServer id)).1),
        ⟨(w.store.answer (.getServer id)).2, w.now⟩) := by
  have now : w.now + ((0 : Nat) : Int) = w.now := Int.add_zero w.now
  rw [statusCheck_eq, ← now]
  rfl

/-- **A look for a status** in the two clouds. -/
theorem glance_statusCheck (h : SameClouds w w') :
    Glance (statusCheck region id target action) w w' := by
  have exec' : (statusCheck region id target action).exec Cloud.provider w' = _ :=
    exec_statusCheck w'
  rcases Cloud.Obscured.look h id with ⟨answer, clouds⟩ | ⟨e, passes, answer, clouds⟩
  · rw [answer] at exec'
    exact .seen (exec_statusCheck w) exec' clouds
  · rw [answer] at exec'
    exact .missed exec' (passes.transient _) clouds

theorem mutations_statusCheck :
    (statusCheck region id target action).Gives fun _ es => mutations es = [] := by
  rw [statusCheck_eq]
  exact Program.gives_request_bind fun start o => Program.gives_pure rfl

end

variable {t : Tuning} {check : Program (Check Failure β)}

/-- The checks of a wait whose checks carry no state. -/
abbrev looking (check : Program (Check Failure β)) (_ : Unit) : Program (Unit × Check Failure β) :=
  check.bind fun seen => .pure ((), seen)

theorem exec_looking {seen : Check Failure β} {v : World Cloud}
    (h : check.exec Cloud.provider w = (some seen, v)) :
    (looking check ()).exec Cloud.provider w = (some ((), seen), v) :=
  exec_bind_of_exec h

theorem mutations_looking (silent : check.Gives fun _ es => mutations es = [])
    {seen : Check Failure β} {v : World Cloud}
    (h : check.exec Cloud.provider w = (some seen, v)) :
    mutations ((looking check ()).trace Cloud.provider w) = [] := by
  rw [trace_bind_of_exec h, mutations_append, silent Cloud Cloud.provider w]
  rfl

/-- A wait has run out of time. -/
def WaitsLate (r : Except (WaitError Failure) β) : Prop :=
  ∃ waited lastError, r = .error (.timeout waited lastError)

namespace Trails

variable {v v' : World Cloud}

/-- While the second world has time left, so has the first. -/
theorem early (h : Trails deadline deadline' w w') (early' : ¬ deadline' ≤ w'.now) :
    ¬ deadline ≤ w.now := by
  intro past
  have none : (deadline - w.now).toNat = 0 := Int.toNat_eq_zero.2 (Int.sub_nonpos_of_le past)
  have none' := Nat.eq_zero_of_le_zero (none ▸ h.sooner)
  exact early' (Int.le_of_sub_nonpos (Int.toNat_eq_zero.1 none'))

theorem nap_second (h : Trails deadline deadline' w w') (early' : ¬ deadline' ≤ w'.now) :
    Trails deadline deadline' w
      (w'.afterSleep (min ((t.wait deadline').nap w'.now) longestSleep)) := by
  refine ⟨h.clouds, ?_⟩
  show (t.wait deadline').rest _ ≤ (t.wait deadline).rest w.now
  rw [World.afterSleep, (Wait.rest_afterNap (w := t.wait deadline') early').1]
  exact (Nat.sub_le _ _).trans h.sooner

theorem nap_both (h : Trails deadline deadline' w w') (early' : ¬ deadline' ≤ w'.now) :
    Trails deadline deadline' (w.afterSleep (min ((t.wait deadline).nap w.now) longestSleep))
      (w'.afterSleep (min ((t.wait deadline').nap w'.now) longestSleep)) := by
  refine ⟨h.clouds, ?_⟩
  show (t.wait deadline').rest _ ≤ (t.wait deadline).rest _
  rw [World.afterSleep, World.afterSleep, (Wait.rest_afterNap (w := t.wait deadline') early').1,
    (Wait.rest_afterNap (w := t.wait deadline) (h.early early')).1]
  exact Nat.sub_le_sub_right h.sooner _

end Trails

/-- The second run goes on past its deadline. -/
theorem beside_goOn_late {q : Program (Unit × Except (WaitError Failure) β)}
    {check : Unit → Program (Unit × Check Failure β)} {started : Instant} {n : Nat}
    {lastError : Option String} (past : deadline' ≤ w'.now) :
    Beside alike (fun r => WaitsLate r.2) q
      ((t.wait deadline').goOn check started n () lastError) w w' := by
  have exec := (Wait.exec_goOn (t.wait deadline') check started n () lastError
    (p := Cloud.provider) (v := w')).trans (if_pos past)
  have trace := (Wait.trace_goOn (t.wait deadline') check started n () lastError
    (p := Cloud.provider) (v := w')).trans (if_pos past)
  refine .late (congrArg Prod.fst exec) ⟨_, _, rfl⟩ ?_
  rw [trace]
  exact List.nil_prefix

/-- **A wait in the two clouds.** The obscured run has no more time until its deadline than the
plain run, and both have checks enough. -/
theorem beside_loop (silent : check.Gives fun _ es => mutations es = [])
    (glance : ∀ {v v'}, SameClouds v v' → Glance check v v') {started started' : Instant}
    {n n' : Nat} (enough : (t.wait deadline).Enough w.now n)
    (enough' : (t.wait deadline').Enough w'.now n') (trails : Trails deadline deadline' w w')
    (lastError lastError' : Option String) :
    Beside (Trails deadline deadline') (fun r => WaitsLate r.2)
      ((t.wait deadline).loop (looking check) started n () lastError)
      ((t.wait deadline').loop (looking check) started' n' () lastError') w w' := by
  -- Each round is one of the obscured run, and the plain run follows or waits.
  induction n' generalizing n w w' lastError lastError' with
  | zero =>
    obtain ⟨strides, none, -⟩ := enough'
    exact absurd none (Nat.succ_ne_zero strides).symm
  | succ n' ih =>
    rw [Wait.loop_succ (t.wait deadline')]
    cases glance trails.clouds with
    | @missed e c' exec' passes clouds =>
      have undecided : (Check.failed e : Check Failure β).verdict? t.policy = none := by
        have transient : Retryable.retryClass e = .transient := passes
        simp [Check.verdict?, transient, PollPolicy.abortsOn]
      refine Beside.alone (exec_looking exec') (mutations_looking silent exec') ?_
      rw [Wait.afterCheck_of_none (t.wait deadline') _ _ _ _ _ undecided]
      by_cases past : deadline' ≤ w'.now
      · exact beside_goOn_late past
      · have missed : Trails deadline deadline' w ⟨c', w'.now⟩ := ⟨clouds, trails.sooner⟩
        exact (ih enough (enough'.next past) (missed.nap_second past) _ _).of_eq rfl rfl
          ((Wait.exec_goOn ..).trans (if_neg past)) ((Wait.trace_goOn ..).trans (if_neg past))
    | @seen seen c c' exec exec' clouds =>
      obtain ⟨m, rfl⟩ : ∃ m, n = m + 1 := enough.imp fun _ h => h.1
      have both : Trails deadline deadline' ⟨c, w.now⟩ ⟨c', w'.now⟩ := ⟨clouds, trails.sooner⟩
      rw [Wait.loop_succ (t.wait deadline)]
      refine Beside.after (exec_looking exec) (exec_looking exec') ?_ ?_
      · rw [mutations_looking silent exec, mutations_looking silent exec']
      cases verdict : seen.verdict? t.policy with
      | some result =>
        rw [Wait.afterCheck_of_some (t.wait deadline) _ _ _ _ _ verdict,
          Wait.afterCheck_of_some (t.wait deadline') _ _ _ _ _ verdict]
        exact beside_pure both
      | none =>
        rw [Wait.afterCheck_of_none (t.wait deadline) _ _ _ _ _ verdict,
          Wait.afterCheck_of_none (t.wait deadline') _ _ _ _ _ verdict]
        by_cases past : deadline' ≤ w'.now
        · exact beside_goOn_late past
        · have early := trails.early past
          exact (ih (enough.next early) (enough'.next past) (both.nap_both past) _ _).of_eq
            ((Wait.exec_goOn ..).trans (if_neg early)) ((Wait.trace_goOn ..).trans (if_neg early))
            ((Wait.exec_goOn ..).trans (if_neg past)) ((Wait.trace_goOn ..).trans (if_neg past))

theorem beside_poll (sleeps : t.pollInterval ≠ 0)
    (silent : check.Gives fun _ es => mutations es = [])
    (glance : ∀ {v v'}, SameClouds v v' → Glance check v v')
    (trails : Trails deadline deadline' w w') :
    Beside (Trails deadline deadline') WaitsLate ((t.wait deadline).poll check)
      ((t.wait deadline').poll check) w w' := by
  have rounds : Beside (Trails deadline deadline') (fun r => WaitsLate r.2)
      ((t.wait deadline).run (looking check) ()) ((t.wait deadline').run (looking check) ())
      w w' :=
    beside_clock <| beside_loop silent glance (Wait.enough_budget sleeps w.now)
      (Wait.enough_budget sleeps w'.now) trails none none
  exact rounds.bind (fun _ _ _ related => beside_pure related) fun _ late => ⟨_, rfl, late⟩

variable {region : Region} {target : Status} {action : String}

theorem alongside_awaitStatus (sleeps : t.pollInterval ≠ 0) :
    Alongside id (Trails deadline deadline') (awaitStatus t region id target action deadline)
      (awaitStatus t region id target action deadline') := by
  intro w w' trails
  refine Beside.bind (beside_poll sleeps mutations_statusCheck glance_statusCheck trails)
    (fun _ _ _ related => beside_pure related) ?_
  rintro _ ⟨waited, lastError, rfl⟩
  exact ⟨_, rfl, action, lastError, rfl⟩

/-! ### Updates -/

variable {observed : InstanceState} {desired : InstanceSpec}

/-- **A phase** begins with the same time until its deadline in both clouds. -/
theorem alongside_phase {body : Instant → Task Unit}
    (h : ∀ deadline deadline',
      Alongside id (Trails deadline deadline') (body deadline) (body deadline')) :
    Alongside id SameClouds (phase t body) (phase t body) := by
  intro w w' clouds
  have trails : Trails (w.now + reachableTimeout t.timeouts.update)
      (w'.now + reachableTimeout t.timeouts.update) w w' := by
    have left (here : Int) (span : Nat) : (here + span - here).toNat = span := by omega
    exact ⟨clouds, ((left _ _).trans (left _ _).symm).le⟩
  rw [phase, run_liftM_bind]
  exact beside_clock ((h _ _ trails).mono fun _ _ trails => trails.clouds)

theorem alongside_updateInstance (sleeps : t.pollInterval ≠ 0) :
    Alongside observed.id SameClouds (updateInstance t observed desired)
      (updateInstance t observed desired) :=
  carriesOver_sameClouds.updateInstance t t
    (alongside_phase fun d d' => carriesOver_trails.flavorPhase t t d d'
      fun _ _ => alongside_awaitStatus sleeps)
    (alongside_phase fun d d' => carriesOver_trails.diskPhase t t d d'
      fun _ _ => alongside_awaitStatus sleeps)

/-- **Failures that may pass change nothing about an update**: in a cloud whose next looks at an
instance fail, it ends as in the plain cloud, makes the same changes in the same order, and leaves
the same cloud; or it runs out of time after the first of these changes. The plain cloud may script
any statuses, and no failure is queued in it. -/
theorem updateInstance_obscured {c : Cloud} (unfailing : c.Unfailing)
    {failures : List RemoteError} (passing : ∀ e ∈ failures, e.MayPass)
    (sleeps : t.pollInterval ≠ 0) (observed : InstanceState) (desired : InstanceSpec)
    (start : Instant) :
    Beside (fun v v' => v'.store.core = v.store.core) (RunsLate observed.id)
      (updateInstance t observed desired).run (updateInstance t observed desired).run
      ⟨c, start⟩ ⟨c.failLooks failures, start⟩ := by
  have clouds : SameClouds ⟨c, start⟩ ⟨c.failLooks failures, start⟩ :=
    Cloud.obscured_failLooks unfailing passing
  exact (alongside_updateInstance sleeps clouds).mono fun _ _ clouds => clouds.core

/-- Two failures that may pass. -/
def passingSample : List RemoteError := [.server 503 "busy", .notFound "not yet there"]

theorem passingSample_mayPass : ∀ e ∈ passingSample, e.MayPass := by
  simp [passingSample, RemoteError.MayPass]

theorem updateInstance_obscured_sample :
    sampleCloud.Unfailing ∧ (∀ e ∈ passingSample, e.MayPass) ∧ hastyTuning.pollInterval ≠ 0 ∧
      Beside (fun v v' => v'.store.core = v.store.core) (RunsLate sampleState.id)
        (updateInstance hastyTuning sampleState sampleSpec).run
        (updateInstance hastyTuning sampleState sampleSpec).run
        ⟨sampleCloud, 0⟩ ⟨sampleCloud.failLooks passingSample, 0⟩ :=
  have unfailing : sampleCloud.Unfailing := fun _ => rfl
  have sleeps : hastyTuning.pollInterval ≠ 0 := by decide
  ⟨unfailing, passingSample_mayPass, sleeps,
    updateInstance_obscured unfailing passingSample_mayPass sleeps sampleState sampleSpec 0⟩

-- Two failures do not show; five use up the time of a phase.
example :
    let after (failures : List RemoteError) :=
      ((updateInstance hastyTuning sampleState sampleSpec).run.exec Cloud.provider
        ⟨sampleCloud.failLooks failures, 0⟩).1
    after passingSample = after [] ∧
      after (List.replicate 5 (.server 503 "busy")) = some (.error (.timeout "power off" "vm"
        (some "get instance failed: provider failure with status 503: busy"))) := by
  decide +kernel

end Reconciler
