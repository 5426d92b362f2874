import Reconciler.Proofs.Reading

/-!
# Reading what is known already

A tracked state is up to date with a cloud when its attachments, its volumes and its floating address
are those of the cloud. A reading then gives them back as they are, the attachments in the same order.
What a reading tells of the groups, the name, the image and the flavor comes from the server.

## What is proved

* `UpToDate.refreshed_networks`: the attachments are given back.
* `UpToDate.reads`: what a reading answers of a state that is up to date.
-/

namespace Reconciler

/-- **The state is up to date** with the cloud, as far as its attachments, its volumes and its
floating address go. -/
structure UpToDate (c : Cloud) (s : InstanceState) : Prop where
  /-- The attachments are to one network each. -/
  nodup : (s.networks.map (·.networkId)).Nodup
  /-- They are those that the networks with a record of the instance show. -/
  networks : ∀ k a, s.networks.find? (·.networkId = k) = some a ↔
    ∃ n ∈ c.networks, n.recordsOf s.id ≠ [] ∧ n.id = k ∧ n.attachmentOf s.id = some a
  /-- The volumes are those attached. -/
  volumes : ∀ x, x ∈ s.volumes ↔ x ∈ volumesOf c.volumes s.id
  /-- The floating address is the one found bound. -/
  floatingIp : c.boundFor s.id = s.floatingIp

/-- **A reading gives the state back**: what is tracked stays, and the rest is what `profile` says
of the server. -/
structure GivesBack (s : InstanceState) (profile : ServerDetail) (s' : InstanceState) : Prop where
  /-- The attachments are the same, in the same order. -/
  networks : s'.networks = s.networks
  /-- The volumes are the same. -/
  volumes : s'.volumes = s.volumes
  /-- The floating address is the same. -/
  floatingIp : s'.floatingIp = s.floatingIp
  /-- The groups are those of the server with a name. -/
  securityGroups : s'.securityGroups = (IdSet.ofList profile.securityGroupIds).erase ""
  /-- The name is that of the server. -/
  name : s'.applied.name = profile.name
  /-- The image is that of the server, if it tells one. -/
  imageId : s'.applied.imageId = profile.imageId.getD s.applied.imageId
  /-- The flavor is that of the server, if it tells one. -/
  flavorId : s'.applied.flavorId = profile.flavorId.getD s.applied.flavorId
  /-- The identifier is the same. -/
  id : s'.id = s.id
  /-- The task is the same. -/
  taskId : s'.taskId = s.taskId
  /-- The password is the same. -/
  password : s'.password = s.password
  /-- The cluster is that of the server, if it tells one. -/
  clusterId : s'.clusterId =
    if profile.clusterId = "" then s.clusterId else some profile.clusterId

section

variable {c : Cloud} {s : InstanceState} {srv : CloudServer}

/-- The refreshed attachments of a state that is up to date are those it has. -/
theorem UpToDate.refreshed_networks (h : UpToDate c s) (ids : (c.networks.map (·.id)).Nodup)
    (names : (c.networks.map (·.name)).Nodup) (srv : CloudServer) :
    (s.refreshed c (c.report s.id srv)).networks = s.networks := by
  by_cases addressed : c.Addressed s.id
  · rw [refreshed_networks_of_addressed addressed]
    refine mergeAttachments_eq_self (filed_attachmentsOn _ _) h.nodup fun k => ?_
    refine Option.ext fun a => ?_
    rw [h.networks k a]
    exact find?_resolveByAddress_addressesOf ids names
  · exact refreshed_networks_of_not_addressed srv addressed

/-- A refreshed state that was up to date is given back. -/
theorem UpToDate.givesBack (h : UpToDate c s) (ids : (c.networks.map (·.id)).Nodup)
    (names : (c.networks.map (·.name)).Nodup) :
    GivesBack s srv.profile (s.refreshed c (c.report s.id srv)) := by
  have networks := h.refreshed_networks ids names srv
  have volumes : IdSet.ofList (volumesOf c.volumes s.id) = s.volumes :=
    IdSet.ext fun x => by rw [IdSet.mem_ofList, h.volumes x]
  obtain ⟨found, requests, same⟩ := refreshed_eq s c (c.report s.id srv)
  rw [same] at networks ⊢
  exact
    { networks := networks
      volumes := volumes
      floatingIp := h.floatingIp
      securityGroups := rfl
      name := rfl
      imageId := rfl
      flavorId := rfl
      id := rfl
      taskId := rfl
      password := rfl
      clusterId := rfl }

/-- **A reading of a state that is up to date** succeeds where no failure is queued, and gives the
state back. -/
theorem UpToDate.reads {w : World Cloud} (h : UpToDate w.store.core s) (unfailing : w.store.Unfailing)
    (hs : w.store.core.server? s.id = some srv) (ids : (w.store.core.networks.map (·.id)).Nodup)
    (names : (w.store.core.networks.map (·.name)).Nodup) :
    ∃ s' w' es, Succeeds Cloud.provider w (readInstance s) (some s') w' es ∧
      GivesBack s srv.profile s' := by
  have reading : Cloud.host.Leads w.store.core (readInstance s) _ fun _ => False :=
    leads_readInstance_advance id hs
  obtain ⟨found, w', es, read, -, hfound, -⟩ := reading.succeeds unfailing rfl
  subst hfound
  exact ⟨_, w', es, read, srv.profile_advance ▸ h.givesBack ids names⟩

end

end Reconciler
