import Reconciler.Proofs.Update.Answers
import Reconciler.Proofs.Waiting

/-!
# The steps about the server

What the steps of an update do to the server of the instance: to its name, its flavor and its
status. Each step is looked at from a cloud that has the server and no status for it to come. It is
said on what condition the step succeeds, and what it may leave behind when it does not.

## What is proved

* `leads_rename`, `leads_resizeFlavor`, `leads_growRootDisk`, `leads_revertSnapshot`: what each step
  leads to.
-/

namespace Reconciler

/-- **The server has come along the way** of an update to the flavor: what no step changes is as it
was, and if the status or the flavor is not, the server is running or off. -/
structure Along (flavorId : String) (srv srv' : CloudServer) : Prop where
  /-- The statuses to come. -/
  script : srv'.script = srv.script
  /-- The image. -/
  image : srv'.detail.imageId = srv.detail.imageId
  /-- The dedicated host. -/
  host : srv'.detail.dedicatedServerId = srv.detail.dedicatedServerId
  /-- The status and the flavor. -/
  power : (srv'.detail.status = srv.detail.status ∧ srv'.detail.flavorId = srv.detail.flavorId) ∨
    (srv'.detail.status = .active ∨ srv'.detail.status = .shutoff) ∧
      (srv'.detail.flavorId = srv.detail.flavorId ∨ srv'.detail.flavorId = some flavorId)

namespace Along

variable {flavorId : String} {srv srv' srv'' : CloudServer}

theorem refl (flavorId : String) (srv : CloudServer) : Along flavorId srv srv :=
  ⟨rfl, rfl, rfl, .inl ⟨rfl, rfl⟩⟩

theorem trans (h : Along flavorId srv srv') (h' : Along flavorId srv' srv'') :
    Along flavorId srv srv'' where
  script := h'.script.trans h.script
  image := h'.image.trans h.image
  host := h'.host.trans h.host
  power := by
    rcases h'.power with ⟨hs', hf'⟩ | ⟨hs', hf'⟩
    · rw [hs', hf']
      exact h.power
    · refine .inr ⟨hs', ?_⟩
      rcases hf' with hf' | hf'
      · rw [hf']
        rcases h.power with ⟨-, hf⟩ | ⟨-, hf⟩
        · exact .inl hf
        · exact hf
      · exact .inr hf'

/-- Switching the server on or off goes further along. -/
theorem withStatus {status : Status} (h : Along flavorId srv srv')
    (hs : status = .active ∨ status = .shutoff) : Along flavorId srv (srv'.withStatus status) := by
  refine ⟨h.script, h.image, h.host, .inr ⟨hs, ?_⟩⟩
  rcases h.power with ⟨-, hf⟩ | ⟨-, hf⟩
  · exact .inl hf
  · exact hf

end Along

/-- The cloud has the server of the instance, along the way. -/
def Cloud.HasAlong (c : Cloud) (id : InstanceId) (flavorId : String) (srv : CloudServer) : Prop :=
  ∃ srv', c.server? id = some srv' ∧ Along flavorId srv srv'

variable {σ : Type} {H : Host σ} {c : Cloud} {t : Tuning} {s : InstanceState}
  {desired : InstanceSpec} {srv : CloudServer}

/-! ### The name -/

/-- **The name** becomes the desired one, if it is tracked as it is, unless the host fails. -/
theorem leads_rename (hs : c.server? s.id = some srv) :
    H.Leads c (rename s desired)
      (fun _ d => ∃ name, d.server? s.id = some (srv.named name) ∧
        (srv.detail.name = s.applied.name → name = desired.name))
      fun d => H.fails ∧ d = c := by
  rw [rename]
  split_ifs with same
  · exact Host.leads_pure ⟨srv.detail.name, hs, fun tracked => tracked.trans same⟩
  · exact Host.leads_ask_ok (d := c.editServer s.id (·.named desired.name))
      (Cloud.changeServer_eq hs) ⟨desired.name, Cloud.server?_editServer _ hs rfl, fun _ => rfl⟩
      fun hf => ⟨hf, rfl⟩

/-! ### The flavor -/

/-- A new flavor can be given, if one is wanted: the waits look at least once, and a server that is
powered on is running. -/
def CanResize (t : Tuning) (c : Cloud) (s : InstanceState) (desired : InstanceSpec) : Prop :=
  s.applied.flavorId ≠ desired.flavorId → t.Waits ∧ c.powerOnStatus = .active

/-- **A new flavor** is given exactly when it can be, unless the host fails. -/
theorem leads_resizeFlavor (hs : c.server? s.id = some srv) (hscript : srv.script = []) :
    H.Leads c (resizeFlavor t s desired)
      (fun _ d => CanResize t c s desired ∧ ∃ srv', d.server? s.id = some srv' ∧
        Along desired.flavorId srv srv' ∧
        srv'.detail.securityGroupIds = srv.detail.securityGroupIds ∧
        srv'.detail.status =
          if s.applied.flavorId = desired.flavorId then srv.detail.status else .active)
      fun d => ¬ CanResize t c s desired ∨
        H.fails ∧ d.HasAlong s.id desired.flavorId srv := by
  rw [resizeFlavor]
  by_cases same : s.applied.flavorId = desired.flavorId
  · rw [if_pos same]
    refine Host.leads_pure ⟨fun h => absurd same h, srv, hs, .refl _ _, rfl, ?_⟩
    rw [if_pos same]
  · rw [if_neg same]
    have hoff : Along desired.flavorId srv (srv.withStatus .shutoff) :=
      (Along.refl _ _).withStatus (.inr rfl)
    have hresized : Along desired.flavorId srv
        ((srv.withStatus .shutoff).withFlavor desired.flavorId) :=
      ⟨rfl, rfl, rfl, .inr ⟨.inr rfl, .inr rfl⟩⟩
    refine Host.leads_deadlineAfter_bind fun deadline => ?_
    refine Host.leads_edit_bind (·.withStatus .shutoff) hs (Cloud.changeServer_eq hs) rfl
      (fun soff => ?_) fun hf => .inr ⟨hf, srv, hs, .refl _ _⟩
    refine leads_awaitStatus_bind soff hscript (fun _ hwaits => ?_) ?_
    · refine Host.leads_edit_bind (·.withFlavor desired.flavorId) soff
        (Cloud.changeServer_eq soff) rfl (fun sresized => ?_) fun hf => .inr ⟨hf, _, soff, hoff⟩
      refine Host.leads_edit_bind (·.withStatus c.powerOnStatus) sresized
        (Cloud.changeServer_eq sresized) rfl (fun son => ?_) fun hf =>
          .inr ⟨hf, _, sresized, hresized⟩
      have hon (h : c.powerOnStatus = .active) : Along desired.flavorId srv
          (((srv.withStatus .shutoff).withFlavor desired.flavorId).withStatus c.powerOnStatus) :=
        hresized.withStatus (.inl h)
      refine (leads_awaitStatus son hscript).followedBy ?_ ?_
      · rintro _ ⟨rfl, hfailed⟩
        by_cases hactive : c.powerOnStatus = .active
        · rcases hfailed with hf | hn
          · exact .inr ⟨hf, _, son, hon hactive⟩
          · exact absurd ⟨hactive, hwaits⟩ hn
        · exact .inl fun h => hactive (h same).2
      · rintro _ _ ⟨rfl, hactive, -⟩
        refine Host.leads_pure ⟨fun _ => ⟨hwaits, hactive⟩, _, son, hon hactive, rfl, ?_⟩
        rw [if_neg same]
        exact hactive
    · rintro (hf | hn)
      · exact .inr ⟨hf, _, soff, hoff⟩
      · exact .inl fun h => hn ⟨rfl, (h same).1⟩

/-! ### The root disk -/

/-- A larger root disk can be given, if one is wanted: there is no reason to refuse it, the waits
look at least once, and the server is running or off, unless a new flavor has it running anyway. -/
def CanGrow (t : Tuning) (s : InstanceState) (desired : InstanceSpec) : Prop :=
  s.applied.diskSize ≠ desired.diskSize → rootDiskRefusal? s desired = none ∧ t.Waits ∧
    (s.applied.flavorId = desired.flavorId → s.status = .active ∨ s.status = .shutoff)

theorem canGrow_iff (differs : s.applied.diskSize ≠ desired.diskSize) :
    CanGrow t s desired ↔ rootDiskRefusal? s desired = none ∧ t.Waits ∧
      (statusAfterFlavor s desired = .active ∨ statusAfterFlavor s desired = .shutoff) := by
  rw [CanGrow, statusAfterFlavor]
  by_cases same : s.applied.flavorId = desired.flavorId
  · simp [differs, same]
  · simp [differs, same]

/-- What is left to do once the server is to be off: an update waits for that, has the disk grown,
and waits for the server to run. -/
theorem leads_growStopped {srv₀ : CloudServer} {deadline : Instant}
    (hs : c.server? s.id = some srv) (hscript : srv.script = [])
    (along : Along desired.flavorId srv₀ srv)
    (differs : s.applied.diskSize ≠ desired.diskSize) (accepted : rootDiskRefusal? s desired = none)
    (hoff : srv.detail.status = .shutoff ↔
      statusAfterFlavor s desired = .active ∨ statusAfterFlavor s desired = .shutoff) :
    H.Leads c (do
        awaitStatus t s.region s.id .shutoff "power off" deadline
        ask s.region (.resizeRootVolume s.id desired.diskSize) "resize root volume"
        awaitStatus t s.region s.id .active "root volume resize" deadline
        return .active : Task Status)
      (fun _ d => CanGrow t s desired ∧ d.server? s.id = some (srv.withStatus .active))
      fun d => ¬ CanGrow t s desired ∨ H.fails ∧ d.HasAlong s.id desired.flavorId srv₀ := by
  refine leads_awaitStatus_bind hs hscript (fun hshutoff hwaits => ?_) ?_
  · refine Host.leads_edit_bind (·.withStatus .active) hs (Cloud.changeServer_eq hs) rfl
      (fun son => ?_) fun hf => .inr ⟨hf, _, hs, along⟩
    refine (leads_awaitStatus son hscript).followedBy ?_ ?_
    · rintro _ ⟨rfl, hf | hn⟩
      · exact .inr ⟨hf, _, son, along.withStatus (.inl rfl)⟩
      · exact absurd ⟨rfl, hwaits⟩ hn
    · rintro _ _ ⟨rfl, -, -⟩
      exact Host.leads_pure ⟨(canGrow_iff differs).2 ⟨accepted, hwaits, hoff.1 hshutoff⟩, son⟩
  · rintro (hf | hn)
    · exact .inr ⟨hf, _, hs, along⟩
    · refine .inl fun h => hn ?_
      obtain ⟨-, hwaits, hrun⟩ := (canGrow_iff differs).1 h
      exact ⟨hoff.2 hrun, hwaits⟩

/-- **A larger root disk** is given exactly when it can be, unless the host fails. The server is in
the status that an update reckons with. -/
theorem leads_growRootDisk (hs : c.server? s.id = some srv) (hscript : srv.script = [])
    (hstatus : srv.detail.status = statusAfterFlavor s desired) :
    H.Leads c (growRootDisk t s (statusAfterFlavor s desired) desired)
      (fun _ d => CanGrow t s desired ∧ ∃ srv', d.server? s.id = some srv' ∧
        Along desired.flavorId srv srv' ∧
        srv'.detail.securityGroupIds = srv.detail.securityGroupIds)
      fun d => ¬ CanGrow t s desired ∨ H.fails ∧ d.HasAlong s.id desired.flavorId srv := by
  rw [growRootDisk]
  by_cases same : s.applied.diskSize = desired.diskSize
  · rw [if_pos same]
    exact Host.leads_pure ⟨fun h => absurd same h, srv, hs, .refl _ _, rfl⟩
  · rw [if_neg same]
    cases hrefusal : rootDiskRefusal? s desired with
    | some refusal =>
      refine Host.leads_throw (.inl fun h => ?_)
      rw [(h same).1] at hrefusal
      exact absurd hrefusal (by simp)
    | none =>
      refine Host.leads_deadlineAfter_bind fun deadline => ?_
      by_cases active : statusAfterFlavor s desired = .active
      · simp only [active, if_true]
        refine Host.leads_edit_bind (·.withStatus .shutoff) hs (Cloud.changeServer_eq hs) rfl
          (fun soff => ?_) fun hf => .inr ⟨hf, _, hs, .refl _ _⟩
        have along : Along desired.flavorId srv (srv.withStatus .shutoff) :=
          (Along.refl _ _).withStatus (.inr rfl)
        refine (leads_growStopped soff hscript along same hrefusal ?_).mono ?_ fun _ hb => hb
        · exact ⟨fun _ => .inl active, fun _ => rfl⟩
        · rintro _ d ⟨hgrow, son⟩
          exact ⟨hgrow, _, son, along.withStatus (.inl rfl), rfl⟩
      · simp only [active, if_false]
        refine (leads_growStopped hs hscript (.refl _ _) same hrefusal ?_).mono ?_ fun _ hb => hb
        · rw [hstatus]
          simp [active]
        · rintro _ d ⟨hgrow, son⟩
          exact ⟨hgrow, _, son, (Along.refl _ _).withStatus (.inl rfl), rfl⟩

/-! ### The snapshot -/

/-- Going back to a snapshot leaves no trace in the cloud. -/
theorem leads_revertSnapshot :
    H.Leads c (revertSnapshot s desired) (fun _ d => d = c) fun d => H.fails ∧ d = c := by
  rw [revertSnapshot]
  split_ifs
  · exact Host.leads_pure rfl
  · cases desired.revertToSnapshotId with
    | none => exact Host.leads_pure rfl
    | some snapshotId =>
      have reverted : c.perform (.revertSnapshot s.id snapshotId) = (.ok (), c) := rfl
      exact Host.leads_ask_ok reverted rfl fun hf => ⟨hf, rfl⟩

end Reconciler
