import Reconciler.Proofs.Creation.Ports
import Reconciler.Proofs.Reading.Bindings

/-!
# The steps of a creation

What each step of a creation does to the cloud when it succeeds. The order makes a server with its
ports; after it the server is only looked at, the networks are only listed, and the volumes and the
floating address are added one after another.

## What is proved

* `leads_awaitBuilt`: what is known of an instance once it runs.
* `leads_awaitNetworks`: the attachments it is given.
* `leads_attachVolumes`, `leads_bindInitialFloatingIp`: what is attached and bound.
-/

namespace Reconciler

variable {α σ : Type} {H : Host σ} {c d : Cloud} {t : Tuning} {s : InstanceState}
  {desired : InstanceSpec} {deadline : Instant}

theorem Host.Leads.within {step : Task α} {done : α → Cloud → Prop} {broken : Cloud → Prop}
    (h : H.Leads c step done broken) (s : InstanceState) :
    H.Leads c (within s step) done broken := by
  rw [Host.leads_iff] at h ⊢
  intro w hs hw
  have ends := h w hs hw
  have run : (Reconciler.within s step).run.exec H.provider w =
      (step.run.exec H.provider w).map (Option.map (Except.mapError (.incomplete s))) id := by
    show (step.run.bind _).exec H.provider w = _
    rw [Program.exec_bind]
    rcases step.run.exec H.provider w with ⟨_ | (e | a), w'⟩ <;> rfl
  unfold Leaves at ends ⊢
  rw [run]
  rcases hr : step.run.exec H.provider w with ⟨_ | (e | a), w'⟩
  all_goals
    rw [hr] at ends
    exact ends

/-! ### Waiting for the instance to run -/

/-- The cloud has the server that a task makes: what is known of it besides its status is
`profile`. -/
def Cloud.Makes (c : Cloud) (task : TaskId) (profile : ServerDetail) : Prop :=
  ∃ srv, c.server? profile.id = some srv ∧ c.servers.find? (·.taskId = task) = some srv ∧
    srv.profile = profile

/-- A look at the server that a task makes takes the next status of its script. -/
theorem Cloud.perform_inquireTask {id : InstanceId} {task : TaskId} {srv : CloudServer}
    (hs : c.server? id = some srv) (htask : c.servers.find? (·.taskId = task) = some srv) :
    c.perform (.inquireTask task) =
      (.ok (c.report id srv.advance), c.editServer id (·.advance)) := by
  have look : c.perform (.inquireTask task) = c.observe srv.detail.id := by
    rw [perform, observeTask, htask]
  rw [look, id_of_server? hs]
  exact perform_getServer_advance hs

theorem Cloud.Makes.editServer {task : TaskId} {profile : ServerDetail} (h : c.Makes task profile) :
    (c.editServer profile.id (·.advance)).Makes task profile := by
  obtain ⟨srv, hs, htask, hprofile⟩ := h
  refine ⟨srv.advance, server?_editServer _ hs srv.id_advance, ?_,
    srv.profile_advance.trans hprofile⟩
  refine find?_mapFirst_of_find? htask hs (decide_eq_true ?_)
  rw [CloudServer.taskId_advance]
  exact key_of_find? htask

/-- What a creation has seen of an instance, in `latest`, and the cloud it goes on from. -/
structure Watched (c : Cloud) (task : TaskId) (profile : ServerDetail)
    (latest : Option ServerDetail) (d : Cloud) : Prop where
  /-- The server is there. -/
  makes : d.Makes task profile
  /-- Nothing else was changed. -/
  changes : Part.servers.Changes c d
  /-- What was seen is of that server. -/
  seen : ∀ detail, latest = some detail →
    detail.id = profile.id ∧ detail.clusterId = profile.clusterId

theorem ends_buildCheck {task : TaskId} {profile : ServerDetail} {latest : Option ServerDetail}
    (htask : s.taskId = some task) (h : Watched c task profile latest d) :
    H.Ends d (buildCheck s latest) (CheckLeaves (Watched c task profile) fun latest _ d =>
      Watched c task profile latest d ∧ ∃ detail, latest = some detail ∧ detail.status = .active) := by
  have lookUp : lookUpBuilt s = Program.request s.region (.inquireTask task) := by
    rw [lookUpBuilt, htask]
  rw [buildCheck, lookUp]
  refine Host.ends_request ?_ fun _ e => Host.ends_pure h
  obtain ⟨srv, hs, hfind, hprofile⟩ := h.makes
  rw [Cloud.perform_inquireTask hs hfind]
  have watched : Watched c task profile (some (d.report profile.id srv.advance))
      (d.editServer profile.id (·.advance)) := by
    refine ⟨h.makes.editServer, h.changes.trans ⟨_, rfl⟩, fun seen hseen => ?_⟩
    obtain rfl := Option.some.inj hseen
    have same := srv.profile_advance.trans hprofile
    rw [← same]
    exact ⟨rfl, rfl⟩
  dsimp only
  cases hstatus : (d.report profile.id srv.advance).status with
  | active => exact Host.ends_pure ⟨watched, _, rfl, hstatus⟩
  | _ => exact Host.ends_pure watched

/-- **Once an instance runs**, it was seen running, and nothing but its server was changed. -/
theorem leads_awaitBuilt {task : TaskId} {profile : ServerDetail} (htask : s.taskId = some task)
    (h : c.Makes task profile) :
    H.Leads c (liftM (awaitBuilt t s deadline))
      (fun r d => ∀ u, r.2 = .ok u → Watched c task profile r.1 d ∧
        ∃ detail, r.1 = some detail ∧ detail.status = .active)
      fun _ => True := by
  have start : Watched c task profile none c := ⟨h, .refl _ _, fun detail hd => by simp at hd⟩
  have wait : H.Ends c ((t.wait deadline).run (buildCheck s) none) (WaitLeaves fun latest _ d =>
      Watched c task profile latest d ∧ ∃ detail, latest = some detail ∧ detail.status = .active) :=
    ends_run_kept (fun latest d hd => ends_buildCheck htask hd) start
  refine Host.leads_lift (Host.Ends.bind wait (fun r d hd => ?_) fun _ _ => trivial)
  rcases r with ⟨latest, e | v⟩
  · exact Host.ends_pure fun u hu => by simp [awaited] at hu
  · exact Host.ends_pure fun u _ => hd

/-! ### Waiting for the networks -/

/-- **The attachments of a new instance** are those that are resolved for the networks asked for, in
the order of the requests. -/
theorem leads_awaitNetworks :
    H.Leads c (awaitNetworks t desired s deadline)
      (fun networks d => d = c ∧ networks = ((resolveById c.networks
        desired.requestedNetworks.members s.id).takeEach (desired.networks.map (·.networkId))).1)
      fun _ => True := by
  rw [awaitNetworks]
  let resolved := resolveById c.networks desired.requestedNetworks.members s.id
  split_ifs with hempty
  · refine Host.leads_pure ⟨rfl, ?_⟩
    rw [List.isEmpty_iff.1 hempty]
    rfl
  · have look (d : Cloud) (hd : d = c) :
        H.Ends d (networksCheck s.region s.id desired.requestedNetworks) fun seen e =>
          CheckLeaves (fun _ e => e = c) (fun _ found e => e = c ∧ found = resolved)
            (seen.map fun seen => ((), seen)) e := by
      subst hd
      refine Host.ends_request ?_ fun _ e => Host.ends_pure rfl
      show H.Ends d (if _ ∧ _ then _ else _) _
      split_ifs
      · exact Host.ends_pure ⟨rfl, rfl⟩
      · exact Host.ends_pure rfl
    refine Host.leads_of_ends (Host.Ends.bind (ends_poll_kept look rfl) (fun r d hd => ?_)
      fun _ _ => trivial)
    rcases r with e | found
    · exact Host.ends_pure trivial
    · obtain ⟨rfl, rfl⟩ := hd found rfl
      exact Host.ends_pure ⟨rfl, rfl⟩

/-! ### Volumes and the floating address -/

/-- **Attaching volumes** gives the instance those volumes, and its state those identifiers. -/
theorem leads_attachVolumes (vs : List String) :
    H.Leads c (attachVolumes s vs)
      (fun s' d => s' = { s with volumes := vs.foldl .insert s.volumes } ∧
        Part.volumes.Changes c d ∧
        ∀ x, x ∈ volumesOf d.volumes s.id ↔ x ∈ vs ∨ x ∈ volumesOf c.volumes s.id)
      fun _ => True := by
  induction vs generalizing c s with
  | nil => exact Host.leads_pure ⟨rfl, .refl _ _, fun x => by simp⟩
  | cons k vs ih =>
    let attach (as : List VolumeAttachment) := as ++ [{ serverId := s.id }]
    have first : H.Leads c (ask s.region (.attachVolume s.id k) ("attach volume " ++ k))
        (fun _ d => Part.volumes.Changes c d ∧
          ∀ x, x ∈ volumesOf d.volumes s.id ↔ x = k ∨ x ∈ volumesOf c.volumes s.id)
        fun _ => True := by
      by_cases hk : k ∈ c.volumes.map (·.id)
      · refine Host.leads_ask_ok (Cloud.changeVolume_eq attach hk) ⟨⟨_, rfl⟩, fun x => ?_⟩
          fun _ => trivial
        exact mem_volumesOf_attach hk fun v => by simp [Volume.isOn, Volume.change, attach]
      · exact Host.leads_ask_error (Cloud.changeVolume_missing attach hk) trivial fun _ => trivial
    rw [attachVolumes]
    refine (first.within s).bind ?_
    rintro _ d ⟨changes, hd⟩
    refine (ih (s := { s with volumes := s.volumes.insert k })).mono ?_ fun _ hb => hb
    rintro s' e ⟨rfl, changes', he⟩
    refine ⟨rfl, changes.trans changes', fun x => ?_⟩
    rw [he x]
    show _ ∨ x ∈ volumesOf d.volumes s.id ↔ _
    rw [hd x, List.mem_cons]
    tauto

/-- **Binding the floating address** of a new instance binds it to the port of its network. -/
theorem leads_bindInitialFloatingIp (binding : FloatingIpBinding) :
    H.Leads c (bindInitialFloatingIp s binding)
      (fun _ d => ∃ target n, attachedTo? s.networks binding.networkId = some target ∧
        c.networkOfPort? target.portId = some n ∧
        d = c.withBound binding.floatingIpId s.id target.portId n)
      fun _ => True := by
  rw [bindInitialFloatingIp]
  cases attachedTo? s.networks binding.networkId with
  | none => exact Host.leads_throw trivial
  | some target =>
    refine leads_publicIpState.bind ?_
    rintro held d rfl
    cases held with
    | none => exact Host.leads_throw trivial
    | some holds =>
      cases holds with
      | true => exact Host.leads_throw trivial
      | false =>
        refine (leads_bindFloatingIp binding target).mono ?_ fun _ hb => hb
        rintro _ e ⟨n, hn, rfl⟩
        exact ⟨target, n, rfl, hn, rfl⟩

end Reconciler
