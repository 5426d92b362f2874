import Reconciler.Proofs.Creation.Course
import Reconciler.Proofs.Series
import Reconciler.Proofs.Update.Phases
import Reconciler.Proofs.Update.Result
import Reconciler.Proofs.Waiting.Policies

/-!
# The waits of the operations end

Settings are refused unless each of the four times is at least a second and at most a week. With
such times every wait of an operation ends, after as many checks at most as a week has seconds, and
one: whatever the provider answers, and however long its answers take. A deadline is set before the
waits that it is for, and the clock does not go back, so that no wait has more than its timeout left
when it begins. Settings are whole seconds, and all other times are whole milliseconds: of an
interval or a check that lasts a fraction of one nothing is said.

A run shows its waits as unbroken series of looks, since the operations make another call before
each wait. Only a creation has two waits with nothing between them, and those make different calls.

## What is proved

* `Settings.validate_eq_ok_iff`, `Tuning.ofSettings_usable`: what settings are usable for.
* `Tuning.Usable.enough`: a week of seconds is enough for a wait.
* `polls_createInstance_status`, `polls_createInstance_networks`, `polls_updateInstance`,
  `polls_deleteInstance`: the series of looks of the operations.
* `polling_ends`: every wait ends, and how soon.
-/

namespace Reconciler

variable {α σ : Type} {t : Tuning} {since now : Instant} {region : Region} {id : InstanceId}
  {observed s : InstanceState} {desired : InstanceSpec} {look : Call → Prop} {c : ℕ}

/-! ### Usable settings -/

/-- A setting is in its range: at least a second, and at most a week. -/
def SecondsSetting.InRange (settings : Settings) (k : SecondsSetting) : Prop :=
  k.value settings ≠ 0 ∧ k.value settings ≤ maxWaitSecs

theorem SecondsSetting.check_eq_ok_iff {settings : Settings} {k : SecondsSetting} :
    k.check (k.value settings) = .ok () ↔ k.InRange settings := by
  rw [check, InRange]
  split_ifs with zero long
  · exact ⟨nofun, fun h => absurd zero h.1⟩
  · exact ⟨nofun, fun h => absurd h.2 (Nat.not_le_of_gt long)⟩
  · exact ⟨fun _ => ⟨zero, Nat.le_of_not_gt long⟩, fun _ => rfl⟩

/-- Checks in a row pass exactly when each does. -/
theorem forM_eq_ok_iff {ε ι : Type} {f : ι → Except ε Unit} {l : List ι} :
    l.forM f = .ok () ↔ ∀ i ∈ l, f i = .ok () := by
  induction l with
  | nil => exact ⟨fun _ _ h => absurd h List.not_mem_nil, fun _ => rfl⟩
  | cons i l ih =>
    rw [List.forall_mem_cons, ← ih]
    show (f i >>= fun _ => l.forM f) = .ok () ↔ _
    cases f i with
    | error e => exact ⟨nofun, fun h => nomatch h.1⟩
    | ok u => exact ⟨fun h => ⟨rfl, h⟩, fun h => h.2⟩

/-- **Settings are usable** exactly when all of them are in their range. -/
theorem Settings.validate_eq_ok_iff {settings : Settings} :
    settings.validate = .ok () ↔ ∀ k : SecondsSetting, k.InRange settings := by
  rw [validate, forM_eq_ok_iff]
  constructor
  · intro h k
    exact SecondsSetting.check_eq_ok_iff.1 (h k (by cases k <;> decide))
  · exact fun h k _ => SecondsSetting.check_eq_ok_iff.2 (h k)

/-- **Settings are refused** exactly when one of them is zero or longer than a week. -/
theorem Tuning.ofSettings_error_iff {settings : Settings} :
    (∃ e, ofSettings settings = .error e) ↔
      ∃ k : SecondsSetting, k.value settings = 0 ∨ maxWaitSecs < k.value settings := by
  have refused : (∃ e, ofSettings settings = .error e) ↔ ¬ settings.validate = .ok () := by
    rw [ofSettings]
    cases settings.validate with
    | error e => exact ⟨fun _ => nofun, fun _ => ⟨_, rfl⟩⟩
    | ok u => exact ⟨fun ⟨_, h⟩ => (nomatch h), fun h => absurd rfl h⟩
  rw [refused, Settings.validate_eq_ok_iff, not_forall]
  refine exists_congr fun k => ?_
  rw [SecondsSetting.InRange]
  omega

/-- The times of a tuning are at least a second, for the interval, and at most a week. -/
structure Tuning.Usable (t : Tuning) : Prop where
  /-- The pause between two checks. -/
  interval : 1000 ≤ t.pollInterval
  /-- The time for a creation. -/
  create : t.timeouts.create ≤ 604800000
  /-- The time for each wait during an update. -/
  update : t.timeouts.update ≤ 604800000
  /-- The time for a deletion. -/
  delete : t.timeouts.delete ≤ 604800000

theorem Tuning.ofSettings_usable {settings : Settings} (h : ofSettings settings = .ok t) :
    t.Usable := by
  rw [ofSettings] at h
  cases valid : settings.validate with
  | error e => rw [valid] at h; nomatch h
  | ok u =>
    rw [valid] at h
    obtain rfl := Except.ok.inj h
    have range := Settings.validate_eq_ok_iff.1 valid
    have week : maxWaitSecs = 604800 := rfl
    have poll : settings.pollIntervalSecs ≠ 0 := (range .pollInterval).1
    have create : settings.createTimeoutSecs ≤ maxWaitSecs := (range .createTimeout).2
    have update : settings.updateTimeoutSecs ≤ maxWaitSecs := (range .updateTimeout).2
    have delete : settings.deleteTimeoutSecs ≤ maxWaitSecs := (range .deleteTimeout).2
    refine ⟨?_, ?_, ?_, ?_⟩
    · show 1000 ≤ settings.pollIntervalSecs * 1000
      omega
    · show settings.createTimeoutSecs * 1000 ≤ 604800000
      omega
    · show settings.updateTimeoutSecs * 1000 ≤ 604800000
      omega
    · show settings.deleteTimeoutSecs * 1000 ≤ 604800000
      omega

/-! ### The waits -/

/-- How many checks are enough for a wait: the seconds of a week, and one. -/
def enoughChecks : ℕ := 604801

namespace Tuning.Usable

theorem sleeps (u : t.Usable) : t.pollInterval ≠ 0 :=
  Nat.pos_iff_ne_zero.1 (Nat.lt_of_lt_of_le (by decide) u.interval)

/-- **A week of seconds is enough** for a wait by a deadline that was set when it began, or
before. -/
theorem enough (u : t.Usable) {timeout : Span} (short : timeout ≤ 604800000) :
    (t.wait (now + reachableTimeout timeout)).Enough now enoughChecks := by
  have reachable : timeout < clockLimit := Nat.lt_of_le_of_lt short (by decide)
  have rest : (t.wait (now + reachableTimeout timeout)).rest now = timeout := by
    rw [reachableTimeout, if_pos reachable]
    show (now + (timeout : Int) - now).toNat = timeout
    omega
  have stride : 1000 ≤ (t.wait (now + reachableTimeout timeout)).stride :=
    Nat.le_min.2 ⟨u.interval, by decide⟩
  refine ⟨604800, rfl, ?_⟩
  rw [rest]
  exact Nat.le_trans short (Nat.mul_le_mul_left 604800 stride)

variable {deadline : Instant}

theorem asks_awaitStatus (u : t.Usable) {target : Status} {action : String} {n : ℕ}
    (enough : (t.wait deadline).Enough since n) :
    (awaitStatus t region id target action deadline).run.Asks (· = .getServer id) n since := by
  have once : (statusCheck region id target action).AsksOnce (· = .getServer id) := by
    refine Program.asksOnce_request_bind rfl fun o => ?_
    cases o with
    | error e => exact ⟨_, rfl⟩
    | ok detail =>
      dsimp only
      split_ifs <;> exact ⟨_, rfl⟩
  exact (asks_poll once u.sleeps enough).bind_pure _

theorem asks_awaitGone (u : t.Usable) {n : ℕ} (enough : (t.wait deadline).Enough since n) :
    (awaitGone t region id deadline).run.Asks (· = .getServer id) n since := by
  have once : (goneCheck region id).AsksOnce (· = .getServer id) := by
    refine Program.asksOnce_request_bind rfl fun o => ?_
    cases o with
    | ok detail => exact ⟨_, rfl⟩
    | error e =>
      dsimp only
      split_ifs <;> exact ⟨_, rfl⟩
  exact (asks_poll once u.sleeps enough).bind_pure _

theorem asks_awaitBuilt (u : t.Usable) {n : ℕ} (enough : (t.wait deadline).Enough since n) :
    (awaitBuilt t s deadline).Asks Call.AsksStatus n since := by
  have once (latest : Option ServerDetail) :
      (buildCheck s latest).AsksOnce Call.AsksStatus := by
    rw [buildCheck, lookUpBuilt]
    cases s.taskId with
    | none =>
      refine Program.asksOnce_request_bind trivial fun o => ?_
      cases o <;> exact ⟨_, rfl⟩
    | some task =>
      refine Program.asksOnce_request_bind trivial fun o => ?_
      cases o <;> exact ⟨_, rfl⟩
  exact (asks_run once u.sleeps enough none).bind_pure _

theorem asks_awaitNetworks (u : t.Usable) {n : ℕ} (enough : (t.wait deadline).Enough since n) :
    (awaitNetworks t desired s deadline).run.Asks (· = .listNetworks) n since := by
  rw [awaitNetworks]
  split_ifs
  · exact fun _ _ _ _ => ⟨_, rfl, fun _ h => absurd h List.not_mem_nil, Nat.zero_le n⟩
  · have once : (networksCheck s.region s.id desired.requestedNetworks).AsksOnce
        (· = .listNetworks) := by
      refine Program.asksOnce_request_bind rfl fun o => ?_
      cases o with
      | error e => exact ⟨_, rfl⟩
      | ok listing =>
        dsimp only
        split_ifs <;> exact ⟨_, rfl⟩
    exact (asks_poll once u.sleeps enough).bind_pure _

end Tuning.Usable

/-! ### Deletions -/

theorem polls_deleteInstance (u : t.Usable) :
    Polls (· = .getServer observed.id) enoughChecks since 0 (deleteInstance t observed)
      fun _ => True := by
  refine Program.polls_request_bind (Nat.zero_le _) Call.noConfusion fun o => ?_
  cases o with
  | ok _ =>
    show Polls _ _ since 0 (liftM (deadlineAfter t.timeouts.delete) >>= fun deadline =>
      awaitGone t observed.region observed.id deadline) _
    exact polls_deadlineAfter_bind fun now =>
      polls_of_asks (u.asks_awaitGone (u.enough u.delete))
  | error e =>
    show Polls _ _ since 0 (if e.isNotFound then pure () else throw _ : Task Unit) _
    split_ifs
    · exact polls_pure (Nat.zero_le _) trivial
    · exact polls_throw (Nat.zero_le _)

/-! ### Updates -/

/-- A call that does not look at any instance does not look at this one. -/
theorem Call.LooksAway.ne_getServer {call : Call} (away : call.LooksAway) :
    ¬ call = .getServer id := by
  rintro rfl
  exact away

/-- A wait of an update, by a deadline that was set at the instant or before. -/
theorem polls_awaitStatus (u : t.Usable) (target : Status) (action : String) :
    Polls look enoughChecks now 0 (awaitStatus t region id target action
      (now + reachableTimeout t.timeouts.update)) fun _ => True :=
  polls_of_asks (u.asks_awaitStatus (u.enough u.update))

/-- The phase of the flavor begins with another call. -/
theorem polls_flavorPhase (u : t.Usable) (le : c ≤ enoughChecks) :
    Polls (· = .getServer observed.id) enoughChecks now c
      (flavorPhase t observed desired (now + reachableTimeout t.timeouts.update))
      fun _ => True := by
  refine polls_ask_bind le Call.noConfusion fun _ => ?_
  refine (polls_awaitStatus u _ _).bind fun _ c' le _ => ?_
  refine polls_ask_bind le Call.noConfusion fun _ => ?_
  refine polls_ask_bind (Nat.zero_le _) Call.noConfusion fun _ => ?_
  exact polls_awaitStatus u _ _

/-- So does that of the root disk, or there was no look before. -/
theorem polls_diskPhase (u : t.Usable) (le : c ≤ enoughChecks)
    (noneBefore : statusAfterFlavor observed desired ≠ .active → c = 0) :
    Polls (· = .getServer observed.id) enoughChecks now c
      (diskPhase t observed desired (now + reachableTimeout t.timeouts.update))
      fun _ => True := by
  have off : Polls (· = .getServer observed.id) enoughChecks now c
      (powerOffForDisk observed desired) (· = 0) := by
    rw [powerOffForDisk]
    split_ifs with active
    · exact polls_ask le Call.noConfusion rfl
    · exact polls_pure le (noneBefore active)
  refine off.bind fun _ c' _ h => ?_
  subst h
  refine (polls_awaitStatus u _ _).bind fun _ c' le _ => ?_
  exact polls_ask_bind le Call.noConfusion fun _ => polls_awaitStatus u _ _

theorem polls_resizeFlavor (u : t.Usable) :
    Polls (· = .getServer observed.id) enoughChecks since 0 (resizeFlavor t observed desired)
      fun c => ¬ FlavorDue observed desired → c = 0 := by
  rw [resizeFlavor_eq]
  split_ifs with due
  · have body : Polls (· = .getServer observed.id) enoughChecks since 0
        (phase t (flavorPhase t observed desired)) fun _ => True :=
      polls_deadlineAfter_bind fun now => polls_flavorPhase u (Nat.zero_le _)
    exact body.bind fun _ _ le _ => polls_pure le fun notDue => absurd due notDue
  · exact polls_pure (Nat.zero_le _) fun _ => rfl

/-- **An update** never looks at the instance too often in a row: if it has waited for a new flavor,
then it powers the instance off before it waits again. -/
theorem polls_updateInstance (u : t.Usable) :
    Polls (· = .getServer observed.id) enoughChecks since 0 (updateInstance t observed desired)
      fun _ => True := by
  have away (call : Call) (h : call.LooksAway) : ¬ call = .getServer observed.id := h.ne_getServer
  have start : Polls (· = .getServer observed.id) enoughChecks since 0
      (untilDisk t observed desired) fun c => ¬ FlavorDue observed desired → c = 0 := by
    refine (straight_untilFlavor.polls away (Nat.zero_le _)).bind fun groups c _ none => ?_
    obtain rfl := Nat.le_zero.1 none
    refine (polls_resizeFlavor u).bind fun _ c le h => ?_
    refine (straight_betweenPhases.polls away le).bind fun _ c' le' fewer => ?_
    exact polls_pure le' fun notDue => Nat.le_zero.1 (h notDue ▸ fewer)
  rw [updateInstance_eq_phases]
  refine start.bind fun (groups, volumes, networks) c le h => ?_
  have grow : Polls (· = .getServer observed.id) enoughChecks since c
      (growRootDisk t observed (statusAfterFlavor observed desired) desired) fun _ => True := by
    rw [growRootDisk_eq]
    split_ifs
    · have body : Polls (· = .getServer observed.id) enoughChecks since c
          (phase t (diskPhase t observed desired)) fun _ => True := by
        refine polls_deadlineAfter_bind fun now => polls_diskPhase u le fun inactive => ?_
        -- A new flavor would have left the instance running.
        exact h fun due => inactive (if_neg due)
      exact body.bind fun _ _ le' _ => polls_pure le' trivial
    · refine (straight_diskVerdict.polls away le).bind fun _ c' le' _ => ?_
      exact polls_pure le' trivial
  exact grow.bind fun _ c' le' _ => (straight_afterDisk.polls away le').mono fun _ _ => trivial

/-! ### Creations -/

theorem polls_attachVolumes (other : ∀ call, look call → call.IsCreationLook)
    (volumes : List String) (le : c ≤ enoughChecks) :
    Polls look enoughChecks since c (attachVolumes s volumes) fun _ => True := by
  induction volumes generalizing c s with
  | nil => exact polls_pure le trivial
  | cons v volumes ih =>
    have attach : Polls look enoughChecks since c
        (ask s.region (.attachVolume s.id v) ("attach volume " ++ v)) fun _ => True :=
      polls_ask le (fun h => other _ h) trivial
    exact attach.within.bind fun _ c' le' _ => ih le'

theorem polls_bindInitialFloatingIp (other : ∀ call, look call → call.IsCreationLook)
    {binding : FloatingIpBinding} (le : c ≤ enoughChecks) :
    Polls look enoughChecks since c (bindInitialFloatingIp s binding) fun _ => True := by
  have listed : Polls look enoughChecks since c (publicIpState s.region s.id) fun _ => True :=
    polls_ask_bind le (fun h => other _ h) fun _ => polls_pure (Nat.zero_le _) trivial
  rw [bindInitialFloatingIp]
  split
  · exact polls_throw le
  · refine listed.bind fun held c' le' _ => ?_
    split
    · exact polls_throw le'
    · exact polls_throw le'
    · exact polls_ask le' (fun h => other _ h) trivial

/-- **A creation**, by the looks of one of its two waits. -/
theorem polls_createInstance_of (mid : ℕ → Prop) (other : ∀ call, look call → call.IsCreationLook)
    (built : ∀ s now, (awaitBuilt t s (now + reachableTimeout t.timeouts.create)).Polls look
      enoughChecks now 0 fun _ => mid)
    (networks : ∀ s now c, c ≤ enoughChecks → mid c → Polls look enoughChecks now c
      (awaitNetworks t desired s (now + reachableTimeout t.timeouts.create)) fun _ => True) :
    Polls look enoughChecks since 0 (createInstance t desired) fun _ => True := by
  have converge (s : InstanceState) :
      Polls look enoughChecks since 0 (convergeCreated t desired s) fun _ => True := by
    refine polls_deadlineAfter_bind fun now => ?_
    refine polls_lift_bind (built s now) fun ⟨latest, result⟩ c le hc => ?_
    have isBuilt : Polls look enoughChecks now c (ExceptT.mk (return result) : Task Unit) mid :=
      Program.polls_pure le fun _ _ => hc
    refine isBuilt.within.bind fun _ c le hc => ?_
    refine (networks _ now c le hc).within.bind fun networks c le _ => ?_
    refine (polls_attachVolumes other _ le).bind fun s' c le _ => ?_
    split
    · exact polls_pure le trivial
    · exact (polls_bindInitialFloatingIp other le).within.bind fun _ c le _ => polls_pure le trivial
  rw [createInstance]
  split
  · exact polls_throw (Nat.zero_le _)
  · exact polls_ask_bind (Nat.zero_le _) (fun h => other _ h) fun _ => converge _

/-- The looks for the status of the new instance. -/
theorem polls_createInstance_status (u : t.Usable) :
    Polls Call.AsksStatus enoughChecks since 0 (createInstance t desired) fun _ => True := by
  refine polls_createInstance_of (fun _ => True) (fun call h => ?_) (fun s now => ?_)
    fun s now c le _ => ?_
  · cases call <;> trivial
  · exact (u.asks_awaitBuilt (u.enough u.create)).polls
  · have other (call : Call) (h : call = .listNetworks) : ¬ call.AsksStatus := by
      subst h
      exact id
    exact (polls_of_asides (u.asks_awaitNetworks (u.enough u.create)) other le).mono
      fun _ _ => trivial

/-- The looks for its networks. -/
theorem polls_createInstance_networks (u : t.Usable) :
    Polls (· = .listNetworks) enoughChecks since 0 (createInstance t desired) fun _ => True := by
  refine polls_createInstance_of (· ≤ 0) (fun call h => ?_) (fun s now => ?_)
    fun s now c _ none => ?_
  · subst h
    trivial
  · exact (u.asks_awaitBuilt (u.enough u.create)).polls_aside
      (fun call asks same => by subst same; exact asks) (Nat.zero_le _)
  · obtain rfl := Nat.le_zero.1 none
    exact polls_of_asks (u.asks_awaitNetworks (u.enough u.create))

/-! ### All of them -/

/-- **A run polls within bounds**: it ends, and it never makes more than `n` looks in a row. -/
def LooksAtMost (n : ℕ) (look : Call → Prop) (p : Provider σ) (w : World σ) (task : Task α) :
    Prop :=
  (∃ r, (task.run.exec p w).1 = some r) ∧ ∀ series, series <:+: task.run.trace p w →
    (∀ e ∈ series, look e.call) → series.length ≤ n

theorem Polls.looksAtMost {n : ℕ} {p : Provider σ} {w : World σ} {task : Task α}
    {good : ℕ → Prop} (h : Polls look n w.now 0 task good) : LooksAtMost n look p w task := by
  obtain ⟨r, c', ended, counted, -⟩ := h σ p w (Int.le_refl _)
  exact ⟨⟨r, ended⟩, fun series inside looks => counted.length_le inside looks⟩

/-- **Polling ends.** A wait that sleeps ends, with no more checks than strides until its deadline,
rounded up, and one; it makes as many if they take no time and decide nothing, and then the last
begins at the deadline, or at once if that has passed. So settings are either refused, for a time
that is zero or longer than a week, or every wait of an operation ends after 604801 checks at most,
whoever answers and however long the answers take. -/
theorem polling_ends :
    (∀ (ε β σ : Type) [Retryable ε] (w : Wait) (script : ℕ → TimedCheck ε β) (p : Provider σ)
      (v : World σ), w.interval ≠ 0 →
      ∃ log result, ((w.runTimed script).exec p v).1 = some (log, result) ∧
        log.count ≤ 1 + (w.deadline - v.now).toNat ⌈/⌉ min w.interval longestSleep ∧
        ((∀ k, (script k).takes = 0 ∧ ¬ (script k).answer.Decides w.policy) →
          log.count = 1 + (w.deadline - v.now).toNat ⌈/⌉ min w.interval longestSleep ∧
            log.starts.head? = some (max v.now w.deadline))) ∧
      ∀ settings : Settings,
        ((∃ e, Tuning.ofSettings settings = .error e) ↔
          ∃ k : SecondsSetting, k.value settings = 0 ∨ maxWaitSecs < k.value settings) ∧
        ∀ t, Tuning.ofSettings settings = .ok t →
          ∀ (σ : Type) (p : Provider σ) (w : World σ) (observed : InstanceState)
            (desired : InstanceSpec),
            LooksAtMost 604801 Call.AsksStatus p w (createInstance t desired) ∧
            LooksAtMost 604801 (· = .listNetworks) p w (createInstance t desired) ∧
            LooksAtMost 604801 (· = .getServer observed.id) p w
              (updateInstance t observed desired) ∧
            LooksAtMost 604801 (· = .getServer observed.id) p w (deleteInstance t observed) := by
  refine ⟨fun ε β σ _ w script p v sleeps => Wait.checks_bounded sleeps script p v,
    fun settings => ⟨Tuning.ofSettings_error_iff, fun t usable σ p w observed desired => ?_⟩⟩
  have u := Tuning.ofSettings_usable usable
  exact ⟨(polls_createInstance_status u).looksAtMost, (polls_createInstance_networks u).looksAtMost,
    (polls_updateInstance u).looksAtMost, (polls_deleteInstance u).looksAtMost⟩

/-- A patient wait that nothing decides, and the operations with the settings that go without
saying. -/
theorem polling_ends_samples :
    (Wait.patient.interval ≠ 0 ∧ ∃ log result,
      ((Wait.patient.runTimed Wait.neverDone).exec Provider.void ⟨(), 0⟩).1 = some (log, result) ∧
        log.count = 3 ∧ log.starts.head? = some 946080000001) ∧
      ∃ t, Tuning.ofSettings {} = .ok t ∧
        LooksAtMost 604801 Call.AsksStatus Cloud.provider ⟨sampleCloud, 0⟩
          (createInstance t sampleSpec) ∧
        LooksAtMost 604801 (· = .listNetworks) Cloud.provider ⟨sampleCloud, 0⟩
          (createInstance t sampleSpec) ∧
        LooksAtMost 604801 (· = .getServer "vm") Cloud.provider ⟨sampleCloud, 0⟩
          (updateInstance t sampleState sampleSpec) ∧
        LooksAtMost 604801 (· = .getServer "vm") Cloud.provider ⟨sampleCloud, 0⟩
          (deleteInstance t sampleState) := by
  have sleeps : Wait.patient.interval ≠ 0 := by decide
  obtain ⟨log, result, run, -, idle⟩ := polling_ends.1 PlainError Unit Unit Wait.patient
    Wait.neverDone Provider.void ⟨(), 0⟩ sleeps
  obtain ⟨count, last⟩ := idle fun _ => ⟨rfl, id⟩
  rw [Nat.ceilDiv_eq_add_pred_div] at count
  refine ⟨⟨sleeps, log, result, run, count, last⟩, _, rfl, ?_⟩
  exact (polling_ends.2 {}).2 _ rfl Cloud Cloud.provider ⟨sampleCloud, 0⟩ sampleState sampleSpec

end Reconciler
