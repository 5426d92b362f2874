import Reconciler.Cloud.Calls
import Reconciler.Proofs.Lists
import Mathlib.Tactic.Common

/-!
# What a call leaves alone

A call changes one part of the cloud: its servers, its networks, its volumes or what is bound to its
ports. Whatever else there is stays as it was, whether the call succeeds or not.

What a call does has nothing to do with the journal and with the failures to come, so one may forget
them: `Cloud.core`.

## What is proved

* `Cloud.perform_core`: calls do the same to a cloud without its journal and its failures.
* `Cloud.perform_changes`: a call changes its part of the cloud at most.
* `Cloud.perform_sameSite`: no call makes or removes a network, a subnet or a volume.
-/

namespace Reconciler

/-! ### A cloud without its journal and its failures -/

namespace Cloud

/-- The cloud, except for the calls that were made and the failures that are to come. -/
def core (c : Cloud) : Cloud := { c with journal := [], failures := ∅ }

/-- An outcome and the cloud after it, without the journal and the failures of that. -/
def Answered.core {α : Type} (r : Answered α) : Answered α := (r.1, r.2.core)

theorem allocatePort_core (c : Cloud) (networkId serverId : String) (ip : Option String)
    (portSecurity : Bool) :
    c.core.allocatePort networkId serverId ip portSecurity =
      (c.allocatePort networkId serverId ip portSecurity).core := by
  simp only [allocatePort, core]
  split
  · rfl
  · split <;> rfl

theorem allocatePorts_core (c : Cloud) (serverId : String) (networkIds : List String) :
    c.core.allocatePorts serverId networkIds = (c.allocatePorts serverId networkIds).core := by
  induction networkIds generalizing c with
  | nil => rfl
  | cons k ks ih =>
    rw [allocatePorts, allocatePorts, allocatePort_core]
    rcases c.allocatePort k serverId none false with ⟨_ | _, d⟩
    · rfl
    · exact ih d

/-- **Calls do the same** to a cloud without its journal and its failures. -/
theorem perform_core (c : Cloud) (call : Call) : c.core.perform call = (c.perform call).core := by
  cases call with
  | createServer order =>
    have ports := allocatePorts_core { c with counter := c.counter + 1 }
      ("srv-" ++ toString (c.counter + 1)) order.networkIds
    rcases h : Cloud.allocatePorts { c with counter := c.counter + 1 }
      ("srv-" ++ toString (c.counter + 1)) order.networkIds with ⟨_ | _, d⟩
    all_goals
      rw [h] at ports
      simp only [perform, createServer, h]
      simp only [core] at ports ⊢
      rw [ports]
      rfl
  | attachNetwork networkId r => exact allocatePort_core c ..
  | getServer id =>
    simp only [perform, observe, server?, core]
    split <;> rfl
  | inquireTask taskId =>
    simp only [perform, observeTask, observe, server?, core]
    split
    · rfl
    · split <;> rfl
  | deleteServer id =>
    simp only [perform, removeServer, server?, core]
    split <;> rfl
  | resizeServer id flavorId =>
    simp only [perform, changeServer, server?, core]
    split <;> rfl
  | resizeRootVolume id size =>
    simp only [perform, setStatus, changeServer, server?, core]
    split <;> rfl
  | powerOff id =>
    simp only [perform, setStatus, changeServer, server?, core]
    split <;> rfl
  | powerOn id =>
    simp only [perform, setStatus, changeServer, server?, core]
    split <;> rfl
  | renameServer id name =>
    simp only [perform, changeServer, server?, core]
    split <;> rfl
  | listNetworks => rfl
  | detachNetwork portId serverId =>
    rw [perform, perform, removePort, removePort, apply_ite Answered.core]
    rfl
  | enablePortSecurity networkId portId =>
    rw [perform, perform, setPortSecurity, setPortSecurity, apply_ite Answered.core]
    rfl
  | disablePortSecurity networkId portId =>
    rw [perform, perform, setPortSecurity, setPortSecurity, apply_ite Answered.core]
    rfl
  | attachVolume serverId volumeId =>
    rw [perform, perform, changeVolume, changeVolume, apply_ite Answered.core]
    rfl
  | detachVolume serverId volumeId =>
    rw [perform, perform, changeVolume, changeVolume, apply_ite Answered.core]
    rfl
  | listVolumes => rfl
  | joinGroup serverId groupId =>
    simp only [perform, changeServer, server?, core]
    split <;> rfl
  | leaveGroup serverId groupId =>
    simp only [perform, changeServer, server?, core]
    split <;> rfl
  | listPublicIps => rfl
  | attachFloatingIp floatingIpId r =>
    simp only [perform, attachFloatingIp, networkOfPort?, core]
    split <;> rfl
  | detachFloatingIp portId =>
    rw [perform, perform, detachFloatingIp, detachFloatingIp, apply_ite Answered.core]
    rfl
  | floatingIpOf serverId => rfl
  | revertSnapshot serverId snapshotId => rfl

end Cloud

/-! ### The part that a call changes -/

/-- A part of the cloud. -/
inductive Part where
  /-- The servers, with their groups and statuses. -/
  | servers
  /-- The networks with their ports, and the counter. -/
  | networks
  /-- The volumes with their attachments. -/
  | volumes
  /-- The bound floating addresses, and the counter. -/
  | floatingIps
  /-- No part at all. -/
  | nothing
  /-- The servers and the networks, and the counter. -/
  | serversAndNetworks
  deriving DecidableEq

/-- The part of the cloud that a call may change. -/
def Call.part : Call → Part
  | .createServer _ => .serversAndNetworks
  | .getServer _ | .inquireTask _ | .deleteServer _ | .resizeServer _ _ | .resizeRootVolume _ _
  | .powerOff _ | .powerOn _ | .renameServer _ _ | .joinGroup _ _ | .leaveGroup _ _ => .servers
  | .attachNetwork _ _ | .detachNetwork _ _ | .enablePortSecurity _ _
  | .disablePortSecurity _ _ => .networks
  | .attachVolume _ _ | .detachVolume _ _ => .volumes
  | .attachFloatingIp _ _ | .detachFloatingIp _ => .floatingIps
  | .listNetworks | .listVolumes | .listPublicIps | .floatingIpOf _
  | .revertSnapshot _ _ => .nothing

/-- The cloud `d` is `c` but for that part. The counter only grows. -/
def Part.Changes : Part → Cloud → Cloud → Prop
  | .servers, c, d => ∃ servers, d = { c with servers }
  | .networks, c, d => ∃ networks counter, c.counter ≤ counter ∧ d = { c with networks, counter }
  | .volumes, c, d => ∃ volumes, d = { c with volumes }
  | .floatingIps, c, d => ∃ floatingIps counter, c.counter ≤ counter ∧
      d = { c with floatingIps, counter }
  | .nothing, c, d => d = c
  | .serversAndNetworks, c, d => ∃ servers networks counter, c.counter ≤ counter ∧
      d = { c with servers, networks, counter }

namespace Part.Changes

theorem refl (part : Part) (c : Cloud) : part.Changes c c := by
  cases part with
  | servers => exact ⟨_, rfl⟩
  | networks => exact ⟨_, _, Nat.le_refl _, rfl⟩
  | volumes => exact ⟨_, rfl⟩
  | floatingIps => exact ⟨_, _, Nat.le_refl _, rfl⟩
  | nothing => rfl
  | serversAndNetworks => exact ⟨_, _, _, Nat.le_refl _, rfl⟩

theorem trans {part : Part} {c d e : Cloud} (h : part.Changes c d) (h' : part.Changes d e) :
    part.Changes c e := by
  cases part with
  | servers =>
    obtain ⟨_, rfl⟩ := h
    obtain ⟨_, rfl⟩ := h'
    exact ⟨_, rfl⟩
  | networks =>
    obtain ⟨_, _, hle, rfl⟩ := h
    obtain ⟨_, _, hle', rfl⟩ := h'
    exact ⟨_, _, Nat.le_trans hle hle', rfl⟩
  | volumes =>
    obtain ⟨_, rfl⟩ := h
    obtain ⟨_, rfl⟩ := h'
    exact ⟨_, rfl⟩
  | floatingIps =>
    obtain ⟨_, _, hle, rfl⟩ := h
    obtain ⟨_, _, hle', rfl⟩ := h'
    exact ⟨_, _, Nat.le_trans hle hle', rfl⟩
  | nothing => exact Eq.trans h' h
  | serversAndNetworks =>
    obtain ⟨_, _, _, hle, rfl⟩ := h
    obtain ⟨_, _, _, hle', rfl⟩ := h'
    exact ⟨_, _, _, Nat.le_trans hle hle', rfl⟩

theorem counter_le {part : Part} {c d : Cloud} (h : part.Changes c d) : c.counter ≤ d.counter := by
  cases part with
  | servers =>
    obtain ⟨_, rfl⟩ := h
    exact Nat.le_refl _
  | networks =>
    obtain ⟨_, _, hle, rfl⟩ := h
    exact hle
  | volumes =>
    obtain ⟨_, rfl⟩ := h
    exact Nat.le_refl _
  | floatingIps =>
    obtain ⟨_, _, hle, rfl⟩ := h
    exact hle
  | nothing => exact h ▸ Nat.le_refl _
  | serversAndNetworks =>
    obtain ⟨_, _, _, hle, rfl⟩ := h
    exact hle

theorem failures_eq {part : Part} {c d : Cloud} (h : part.Changes c d) :
    d.failures = c.failures := by
  cases part with
  | servers =>
    obtain ⟨_, rfl⟩ := h
    rfl
  | networks =>
    obtain ⟨_, _, -, rfl⟩ := h
    rfl
  | volumes =>
    obtain ⟨_, rfl⟩ := h
    rfl
  | floatingIps =>
    obtain ⟨_, _, -, rfl⟩ := h
    rfl
  | nothing => exact congrArg Cloud.failures h
  | serversAndNetworks =>
    obtain ⟨_, _, _, -, rfl⟩ := h
    rfl

theorem floatingIps_eq {part : Part} {c d : Cloud} (h : part.Changes c d)
    (hp : part ≠ .floatingIps) : d.floatingIps = c.floatingIps := by
  cases part with
  | servers =>
    obtain ⟨_, rfl⟩ := h
    rfl
  | networks =>
    obtain ⟨_, _, -, rfl⟩ := h
    rfl
  | volumes =>
    obtain ⟨_, rfl⟩ := h
    rfl
  | floatingIps => exact absurd rfl hp
  | nothing => exact congrArg Cloud.floatingIps h
  | serversAndNetworks =>
    obtain ⟨_, _, _, -, rfl⟩ := h
    rfl

end Part.Changes

namespace Cloud

variable (c : Cloud)

theorem changeServer_changes (id : String) (change : CloudServer → CloudServer) :
    Part.servers.Changes c (c.changeServer id change).2 := by
  rw [changeServer]
  split
  · exact .refl ..
  · exact ⟨_, rfl⟩

theorem observe_changes (id : String) : Part.servers.Changes c (c.observe id).2 := by
  rw [observe]
  split
  · exact .refl ..
  · exact ⟨_, rfl⟩

theorem allocatePort_changes (networkId serverId : String) (ip : Option String)
    (portSecurity : Bool) :
    Part.networks.Changes c (c.allocatePort networkId serverId ip portSecurity).2 := by
  rw [allocatePort]
  split
  · exact ⟨_, _, Nat.le_succ _, rfl⟩
  · split
    · exact ⟨_, _, Nat.le_succ _, rfl⟩
    · exact ⟨_, _, Nat.le_succ _, rfl⟩

theorem allocatePorts_changes (serverId : String) (networkIds : List String) :
    Part.networks.Changes c (c.allocatePorts serverId networkIds).2 := by
  induction networkIds generalizing c with
  | nil => exact .refl ..
  | cons k ks ih =>
    have first := c.allocatePort_changes k serverId none false
    rw [allocatePorts]
    rcases h : c.allocatePort k serverId none false with ⟨_ | _, d⟩
    all_goals rw [h] at first
    · exact first
    · exact first.trans (ih d)

theorem removePort_changes (portId serverId : String) :
    Part.networks.Changes c (c.removePort portId serverId).2 := by
  rw [removePort]
  split
  · exact ⟨_, _, Nat.le_refl _, rfl⟩
  · exact .refl ..

theorem setPortSecurity_changes (portId : String) (enabled : Bool) :
    Part.networks.Changes c (c.setPortSecurity portId enabled).2 := by
  rw [setPortSecurity]
  split
  · exact ⟨_, _, Nat.le_refl _, rfl⟩
  · exact .refl ..

theorem changeVolume_changes (volumeId : String)
    (change : List VolumeAttachment → List VolumeAttachment) :
    Part.volumes.Changes c (c.changeVolume volumeId change).2 := by
  rw [changeVolume]
  split
  · exact ⟨_, rfl⟩
  · exact .refl ..

/-- **A call changes its part of the cloud** at most, whether it succeeds or not. -/
theorem perform_changes (call : Call) : call.part.Changes c (c.perform call).2 := by
  cases call with
  | createServer order =>
    have ports := allocatePorts_changes { c with counter := c.counter + 1 }
      ("srv-" ++ toString (c.counter + 1)) order.networkIds
    rw [perform, createServer]
    rcases h : Cloud.allocatePorts { c with counter := c.counter + 1 }
      ("srv-" ++ toString (c.counter + 1)) order.networkIds with ⟨_ | _, d⟩
    all_goals
      rw [h] at ports
      obtain ⟨_, _, hle, rfl⟩ := ports
      exact ⟨_, _, _, Nat.le_of_succ_le hle, rfl⟩
  | getServer id => exact c.observe_changes id
  | inquireTask taskId =>
    rw [perform, observeTask]
    split
    · exact .refl ..
    · exact c.observe_changes _
  | deleteServer id =>
    rw [perform, removeServer]
    split
    · exact .refl ..
    · exact ⟨_, rfl⟩
  | resizeServer id flavorId => exact c.changeServer_changes ..
  | resizeRootVolume id size => exact c.changeServer_changes ..
  | powerOff id => exact c.changeServer_changes ..
  | powerOn id => exact c.changeServer_changes ..
  | renameServer id name => exact c.changeServer_changes ..
  | listNetworks => rfl
  | attachNetwork networkId r => exact c.allocatePort_changes ..
  | detachNetwork portId serverId => exact c.removePort_changes ..
  | enablePortSecurity networkId portId => exact c.setPortSecurity_changes ..
  | disablePortSecurity networkId portId => exact c.setPortSecurity_changes ..
  | attachVolume serverId volumeId => exact c.changeVolume_changes ..
  | detachVolume serverId volumeId => exact c.changeVolume_changes ..
  | listVolumes => rfl
  | joinGroup serverId groupId => exact c.changeServer_changes ..
  | leaveGroup serverId groupId => exact c.changeServer_changes ..
  | listPublicIps => rfl
  | attachFloatingIp floatingIpId r =>
    rw [perform, attachFloatingIp]
    split
    · exact .refl ..
    · exact ⟨_, _, Nat.le_succ _, rfl⟩
  | detachFloatingIp portId =>
    rw [perform, detachFloatingIp]
    split
    · exact ⟨_, _, Nat.le_refl _, rfl⟩
    · exact .refl ..
  | floatingIpOf serverId => rfl
  | revertSnapshot serverId snapshotId => rfl

end Cloud

/-- The part covers the call: no other part is changed by it. -/
def Part.Covers (part : Part) (call : Call) : Prop := call.part = part ∨ call.part = .nothing

theorem Part.Covers.changes {part : Part} {call : Call} (h : part.Covers call) (c : Cloud) :
    part.Changes c (c.perform call).2 := by
  rcases h with h | h
  · exact h ▸ c.perform_changes call
  · have same : (c.perform call).2 = c := by
      have := c.perform_changes call
      rwa [h] at this
    rw [same]
    exact .refl part c

/-! ### What no call changes -/

/-- What there is to a network besides the instances on it. -/
def Network.layout (n : Network) : String × String × List String :=
  (n.id, n.name, n.subnets.map (·.id))

@[simp]
theorem Subnet.id_addRecord (s : Subnet) (serverId : String) (record : AddressRecord) :
    (s.addRecord serverId record).id = s.id := by
  rw [addRecord]
  split <;> rfl

theorem Network.layout_addRecord (n : Network) (serverId : String) (record : AddressRecord) :
    (n.addRecord serverId record).layout = n.layout := by
  rw [addRecord]
  split
  · rfl
  · rename_i s rest h
    rw [layout, layout, h, List.map_cons, List.map_cons, Subnet.id_addRecord]

@[simp]
theorem Network.id_addRecord (n : Network) (serverId : String) (record : AddressRecord) :
    (n.addRecord serverId record).id = n.id :=
  congrArg Prod.fst (n.layout_addRecord serverId record)

theorem map_layout_mapServerEntries (change : SubnetServer → SubnetServer)
    (networks : List Network) :
    (mapServerEntries change networks).map Network.layout = networks.map Network.layout := by
  rw [mapServerEntries, List.map_map]
  refine List.map_congr_left fun n _ => ?_
  simp [Network.layout, Function.comp_def]

/-- Networks with one layout have the same identifiers. -/
theorem map_id_of_layout {networks networks' : List Network}
    (h : networks'.map Network.layout = networks.map Network.layout) :
    networks'.map (·.id) = networks.map (·.id) := by
  have same := congrArg (List.map (·.1)) h
  rwa [List.map_map, List.map_map] at same

/-- Networks with one layout have the same names. -/
theorem map_name_of_layout {networks networks' : List Network}
    (h : networks'.map Network.layout = networks.map Network.layout) :
    networks'.map (·.name) = networks.map (·.name) := by
  have same := congrArg (List.map (·.2.1)) h
  rwa [List.map_map, List.map_map] at same

/-- **The clouds are the same** in what no call changes. -/
structure Cloud.SameSite (c d : Cloud) : Prop where
  /-- The networks with their subnets. -/
  layout : d.networks.map Network.layout = c.networks.map Network.layout
  /-- The volumes. -/
  volumeIds : d.volumes.map (·.id) = c.volumes.map (·.id)
  /-- Who holds a public address. -/
  publicIps : d.publicIps = c.publicIps
  /-- How servers come up. -/
  powerOnStatus : d.powerOnStatus = c.powerOnStatus

namespace Cloud

theorem SameSite.refl (c : Cloud) : SameSite c c := ⟨rfl, rfl, rfl, rfl⟩

theorem SameSite.trans {c d e : Cloud} (h : SameSite c d) (h' : SameSite d e) : SameSite c e :=
  ⟨h'.layout.trans h.layout, h'.volumeIds.trans h.volumeIds, h'.publicIps.trans h.publicIps,
    h'.powerOnStatus.trans h.powerOnStatus⟩

variable (c : Cloud)

theorem allocatePort_layout (networkId serverId : String) (ip : Option String)
    (portSecurity : Bool) :
    (c.allocatePort networkId serverId ip portSecurity).2.networks.map Network.layout =
      c.networks.map Network.layout := by
  rw [allocatePort]
  split
  · rfl
  · split
    · rfl
    · exact map_mapFirst fun n => n.layout_addRecord ..

theorem allocatePorts_layout (serverId : String) (networkIds : List String) :
    (c.allocatePorts serverId networkIds).2.networks.map Network.layout =
      c.networks.map Network.layout := by
  induction networkIds generalizing c with
  | nil => rfl
  | cons k ks ih =>
    have first := c.allocatePort_layout k serverId none false
    rw [allocatePorts]
    rcases h : c.allocatePort k serverId none false with ⟨_ | _, d⟩
    all_goals rw [h] at first
    · exact first
    · exact (ih d).trans first

/-- **No call makes or removes** a network, a subnet or a volume, or changes how servers come up and
who holds a public address. -/
theorem perform_sameSite (call : Call) : SameSite c (c.perform call).2 := by
  have changes := c.perform_changes call
  cases call with
  | createServer order =>
    have ports := allocatePorts_layout { c with counter := c.counter + 1 }
      ("srv-" ++ toString (c.counter + 1)) order.networkIds
    obtain ⟨servers, networks, counter, -, hd⟩ := changes
    have layout : networks.map Network.layout = c.networks.map Network.layout := by
      have hnetworks := congrArg Cloud.networks hd
      rw [perform, createServer] at hnetworks
      rcases h : Cloud.allocatePorts { c with counter := c.counter + 1 }
        ("srv-" ++ toString (c.counter + 1)) order.networkIds with ⟨_ | _, d⟩
      all_goals
        rw [h] at ports hnetworks
        rw [← show d.networks = networks from hnetworks]
        exact ports
    rw [hd]
    exact ⟨layout, rfl, rfl, rfl⟩
  | attachNetwork networkId r =>
    obtain ⟨_, _, -, hd⟩ := changes
    exact ⟨c.allocatePort_layout .., hd ▸ rfl, hd ▸ rfl, hd ▸ rfl⟩
  | detachNetwork portId serverId =>
    rw [perform, removePort]
    split
    · exact ⟨map_layout_mapServerEntries .., rfl, rfl, rfl⟩
    · exact .refl c
  | enablePortSecurity networkId portId =>
    rw [perform, setPortSecurity]
    split
    · exact ⟨map_layout_mapServerEntries .., rfl, rfl, rfl⟩
    · exact .refl c
  | disablePortSecurity networkId portId =>
    rw [perform, setPortSecurity]
    split
    · exact ⟨map_layout_mapServerEntries .., rfl, rfl, rfl⟩
    · exact .refl c
  | attachVolume serverId volumeId =>
    rw [perform, changeVolume]
    split
    · exact ⟨rfl, map_mapFirst fun _ => rfl, rfl, rfl⟩
    · exact .refl c
  | detachVolume serverId volumeId =>
    rw [perform, changeVolume]
    split
    · exact ⟨rfl, map_mapFirst fun _ => rfl, rfl, rfl⟩
    · exact .refl c
  | attachFloatingIp floatingIpId r =>
    obtain ⟨_, _, -, hd⟩ := changes
    exact ⟨hd ▸ rfl, hd ▸ rfl, hd ▸ rfl, hd ▸ rfl⟩
  | detachFloatingIp portId =>
    obtain ⟨_, _, -, hd⟩ := changes
    exact ⟨hd ▸ rfl, hd ▸ rfl, hd ▸ rfl, hd ▸ rfl⟩
  | listNetworks => exact .refl c
  | listVolumes => exact .refl c
  | listPublicIps => exact .refl c
  | floatingIpOf serverId => exact .refl c
  | revertSnapshot serverId snapshotId => exact .refl c
  | getServer | inquireTask | deleteServer | resizeServer | resizeRootVolume | powerOff | powerOn
  | renameServer | joinGroup | leaveGroup =>
    obtain ⟨_, hd⟩ := changes
    exact ⟨hd ▸ rfl, hd ▸ rfl, hd ▸ rfl, hd ▸ rfl⟩

end Cloud

end Reconciler
