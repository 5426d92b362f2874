import Reconciler.Proofs.Cloud.Frames
import Reconciler.Proofs.Runs

/-!
# What a call leaves to the other instances

Instances share the cloud: they are listed together, their ports stand side by side on a subnet, and
a volume knows of each that it is attached to. A call is *on* an instance if it names no other. Such
a call leaves to the others what they have, in the same order.

Only the call that unbinds a floating address names a port in place of an instance. It is counted as
on an instance if the port is one of the instance's own.

## What is proved

* `Cloud.perform_others`: what a call on an instance leaves to the others.
* `Program.Makes.others`: the same for a run of a program that makes no other calls.
-/

namespace Reconciler

/-! ### What the others have -/

/-- The subnet without the entries of an instance. -/
def Subnet.others (s : Subnet) (id : InstanceId) : Subnet :=
  { s with servers := s.servers.filter (·.id ≠ id) }

/-- The network without the entries of an instance. -/
def Network.others (n : Network) (id : InstanceId) : Network :=
  { n with subnets := n.subnets.map (·.others id) }

/-- The volume without the attachments to an instance. -/
def Volume.others (v : Volume) (id : InstanceId) : Volume :=
  { v with attachments := v.attachments.filter (·.serverId ≠ id) }

/-- What a cloud has for some instances. -/
structure Holdings where
  /-- The servers. -/
  servers : List CloudServer
  /-- The networks with their entries of the instances. -/
  networks : List Network
  /-- The volumes with their attachments to the instances. -/
  volumes : List Volume
  /-- The floating addresses that are bound for the instances. -/
  floatingIps : List BoundFloatingIp
  deriving DecidableEq

/-- **What a cloud has for the instances other than one**, each list in the order of the cloud. -/
def Cloud.others (c : Cloud) (id : InstanceId) : Holdings where
  servers := c.servers.filter (·.detail.id ≠ id)
  networks := c.networks.map (·.others id)
  volumes := c.volumes.map (·.others id)
  floatingIps := c.floatingIps.filter (·.serverId ≠ id)

variable {c : Cloud} {id : InstanceId}

theorem Subnet.others_addRecord (s : Subnet) (record : AddressRecord) :
    (s.addRecord id record).others id = s.others id := by
  rw [addRecord]
  split
  · simp only [others]
    rw [filter_mapFirst]
    · exact fun e he => by simpa using he
    · exact fun e he => by simpa using he
  · simp [others]

theorem Network.others_addRecord (n : Network) (record : AddressRecord) :
    (n.addRecord id record).others id = n.others id := by
  rw [addRecord]
  split
  · rfl
  · rename_i s rest h
    simp [others, h, Subnet.others_addRecord]

theorem map_others_mapServerEntries {change : SubnetServer → SubnetServer}
    (others : ∀ e, e.id ≠ id → change e = e) (own : ∀ e, e.id = id → (change e).id = id)
    (networks : List Network) :
    (mapServerEntries change networks).map (·.others id) = networks.map (·.others id) := by
  have subnet (s : Subnet) :
      Subnet.others { s with servers := s.servers.map change } id = s.others id := by
    simp only [Subnet.others]
    rw [filter_map_eq]
    · exact fun e he => others e (by simpa using he)
    · exact fun e he => by simpa using own e (by simpa using he)
  rw [mapServerEntries, List.map_map]
  refine List.map_congr_left fun n _ => ?_
  simp only [Function.comp_apply, Network.others, List.map_map]
  congr 1
  exact List.map_congr_left fun s _ => subnet s

namespace Cloud

/-! ### What each kind of call leaves to the others -/

theorem changeServer_others {change : CloudServer → CloudServer}
    (same : ∀ s, (change s).detail.id = s.detail.id) :
    (c.changeServer id change).2.others id = c.others id := by
  rw [changeServer]
  split
  · rfl
  · simp only [others]
    rw [filter_mapFirst]
    · exact fun s hs => by simpa using hs
    · exact fun s hs => by simpa [same] using hs

theorem observe_others : (c.observe id).2.others id = c.others id := by
  rw [observe]
  split
  · rfl
  · have same (s : CloudServer) : s.advance.detail.id = s.detail.id := by
      rw [CloudServer.advance]
      split <;> rfl
    simp only [others]
    rw [filter_mapFirst]
    · exact fun s hs => by simpa using hs
    · exact fun s hs => by simpa [same] using hs

theorem removeServer_others : (c.removeServer id).2.others id = c.others id := by
  rw [removeServer]
  split
  · rfl
  · simp [others]

theorem allocatePort_others {networkId : String} {ip : Option String} {portSecurity : Bool} :
    (c.allocatePort networkId id ip portSecurity).2.others id = c.others id := by
  rw [allocatePort]
  split
  · rfl
  · split
    · rfl
    · simp only [others]
      rw [map_mapFirst fun n => n.others_addRecord _]

theorem removePort_others {portId : String} :
    (c.removePort portId id).2.others id = c.others id := by
  rw [removePort]
  split
  · simp only [others]
    rw [map_others_mapServerEntries]
    · exact fun e he => if_neg he
    · intro e he
      rw [if_pos he]
      exact he
  · rfl

theorem changeVolume_others {volumeId : String}
    {change : List VolumeAttachment → List VolumeAttachment}
    (same : ∀ as, (change as).filter (·.serverId ≠ id) = as.filter (·.serverId ≠ id)) :
    (c.changeVolume volumeId change).2.others id = c.others id := by
  rw [changeVolume]
  split
  · simp only [others]
    rw [map_mapFirst fun v => by simp only [Volume.others, same]]
  · rfl

theorem attachFloatingIp_others {floatingIpId : String} {r : FloatingIpRequest}
    (h : r.serverId = id) : (c.attachFloatingIp floatingIpId r).2.others id = c.others id := by
  rw [attachFloatingIp]
  split
  · rfl
  · simp [others, h]

theorem detachFloatingIp_others {portId : String}
    (own : ∀ b ∈ (c.others id).floatingIps, b.portId ≠ portId) :
    (c.detachFloatingIp portId).2.others id = c.others id := by
  rw [detachFloatingIp]
  split
  · simp only [others, Holdings.mk.injEq, true_and]
    rw [List.filter_filter]
    refine List.filter_congr fun b hb => ?_
    by_cases hid : b.serverId = id
    · simp [hid]
    · have free := own b (List.mem_filter.2 ⟨hb, decide_eq_true hid⟩)
      simp [hid, free]
  · rfl

end Cloud

/-! ### Calls on an instance -/

/-- **The call is on an instance** with some ports of its own: it names no other instance, and if it
unbinds a floating address that is from one of the ports. -/
def Call.IsOn (id : InstanceId) (own : List String) : Call → Prop
  | .getServer k | .deleteServer k | .resizeServer k _ | .resizeRootVolume k _ | .powerOff k
  | .powerOn k | .renameServer k _ => k = id
  | .attachNetwork _ r => r.serverId = id
  | .detachNetwork _ k => k = id
  | .attachVolume k _ | .detachVolume k _ | .joinGroup k _ | .leaveGroup k _ => k = id
  | .attachFloatingIp _ r => r.serverId = id
  | .detachFloatingIp portId => portId ∈ own
  | .listNetworks | .listVolumes | .listPublicIps | .floatingIpOf _ | .revertSnapshot _ _ => True
  | .createServer _ | .inquireTask _ | .enablePortSecurity _ _ | .disablePortSecurity _ _ => False

/-- No floating address of another instance is bound to one of some ports. -/
def Holdings.FreeOf (h : Holdings) (own : List String) : Prop :=
  ∀ b ∈ h.floatingIps, b.portId ∉ own

namespace Cloud

variable {own : List String}

/-- **A call on an instance leaves to the others what they have**, whether it succeeds or not. -/
theorem perform_others {call : Call} (h : call.IsOn id own) (free : (c.others id).FreeOf own) :
    (c.perform call).2.others id = c.others id := by
  cases call with
  | getServer k => exact h ▸ observe_others
  | deleteServer k => exact h ▸ removeServer_others
  | resizeServer k flavorId => exact h ▸ changeServer_others fun _ => rfl
  | resizeRootVolume k size => exact h ▸ changeServer_others fun _ => rfl
  | powerOff k => exact h ▸ changeServer_others fun _ => rfl
  | powerOn k => exact h ▸ changeServer_others fun _ => rfl
  | renameServer k name => exact h ▸ changeServer_others fun _ => rfl
  | joinGroup k groupId => exact h ▸ changeServer_others fun _ => rfl
  | leaveGroup k groupId => exact h ▸ changeServer_others fun _ => rfl
  | attachNetwork networkId r => exact h ▸ allocatePort_others
  | detachNetwork portId k => exact h ▸ removePort_others
  | attachVolume k volumeId => exact changeVolume_others fun as => by simp [show k = id from h]
  | detachVolume k volumeId => exact changeVolume_others fun as => by simp [show k = id from h]
  | attachFloatingIp floatingIpId r => exact attachFloatingIp_others h
  | detachFloatingIp portId =>
    exact detachFloatingIp_others fun b hb heq => free b hb (heq ▸ h)
  | listNetworks | listVolumes | listPublicIps | floatingIpOf _ | revertSnapshot _ _ => rfl
  | createServer _ | inquireTask _ | enablePortSecurity _ _ | disablePortSecurity _ _ =>
    exact h.elim

/-- A failure that is queued changes nothing for the others either. -/
theorem answer_others {call : Call} (h : call.IsOn id own) (free : (c.others id).FreeOf own) :
    (c.answer call).2.others id = c.others id := by
  have recorded : (c.record call).2.others id = c.others id := by
    simp only [record]
    split <;> rfl
  rw [answer]
  split
  · rename_i e d heq
    rw [heq] at recorded
    exact recorded
  · rename_i d heq
    rw [heq] at recorded
    exact (perform_others h (recorded ▸ free)).trans recorded

end Cloud

/-- **A run of calls on an instance leaves to the others what they have.** -/
theorem Program.Makes.others {α : Type} {q : Program α} {own : List String}
    (makes : q.Makes (Call.IsOn id own)) (free : (c.others id).FreeOf own) (now : Instant) :
    (q.exec Cloud.provider ⟨c, now⟩).2.store.others id = c.others id := by
  refine makes.exec (fun d : Cloud => d.others id = c.others id) (fun d _ _ _ hcall hd => ?_) rfl
  exact (Cloud.answer_others hcall (hd ▸ free)).trans hd

end Reconciler
