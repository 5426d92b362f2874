import Reconciler.Lifecycle.Update.Networks
import Reconciler.Proofs.Cloud.OnRecord
import Reconciler.Proofs.Resolution

/-!
# Attaching where the resolution looks

Three places choose a subnet of a network: an attachment asks for one, the cloud makes the port on
one, and the resolution looks for the port on one. They choose the same, whatever the listing holds:
the first subnet of the first network with the identifier. So an attachment is possible where
something is resolved, and a new port is what is resolved from then on, unless the instance had a
port there before. It is the attachment that was put together from the answer, and nothing else that
is resolved changes.

## What is proved

* `exists_subnetFor_iff`: an attachment is possible where something is resolved.
* `Subnet.servers_addRecord`, `Subnet.firstRecord_addRecord`: where the record of a new port stands.
* `sameTo_addRecord`: it does not matter to other instances.
* `attaching_meets_resolution`: a new port is what is resolved.
-/

namespace Reconciler

/-! ### The subnet that is asked for -/

/-- **An attachment is possible** where something is resolved. -/
theorem exists_subnetFor_iff {networks : List Network} {k : String} (id : InstanceId) :
    (∃ s, subnetFor networks k = .ok s) ↔
      (resolveById networks [k] id).contains k = true := by
  rw [contains_resolveById]
  simp only [subnetFor_eq_ok_iff, ← find?_eq_some_iff_firstListed, List.mem_singleton, true_and]
  constructor
  · rintro ⟨s, n, rest, hfind, hsubnets⟩
    exact ⟨n, hfind, by simp [hsubnets]⟩
  · rintro ⟨n, hfind, hsubnets⟩
    obtain ⟨s, rest, hsubnets⟩ := List.exists_cons_of_ne_nil hsubnets
    exact ⟨s, n, rest, hfind, hsubnets⟩

/-! ### The record of a new port -/

section

variable {s : Subnet} {n : Network} {id sid : InstanceId} {record : AddressRecord}

/-- **An added record** stands at the end of the first entry of the instance, or in a new one at the
end if it has none. -/
theorem Subnet.servers_addRecord (s : Subnet) (sid : InstanceId) (record : AddressRecord) :
    ∃ before ips after, (∀ e ∈ before, e.id ≠ sid) ∧
      (s.servers = before ++ { id := sid, ips } :: after ∨
        s.servers = before ∧ ips = [] ∧ after = []) ∧
      (s.addRecord sid record).servers = before ++ { id := sid, ips := ips ++ [record] } :: after := by
  rw [addRecord]
  split_ifs with hany
  · obtain ⟨before, e, after, hservers, hbefore, he, hmap⟩ :=
      exists_mapFirst_eq hany
    obtain rfl : e.id = sid := of_decide_eq_true he
    exact ⟨before, e.ips, after, by simpa using hbefore, .inl hservers, hmap⟩
  · refine ⟨s.servers, [], [], fun e he hid => hany ?_, .inr ⟨rfl, rfl, rfl⟩, rfl⟩
    exact List.any_eq_true.2 ⟨e, he, decide_eq_true hid⟩

/-- **An added record counts**, if none did before. -/
theorem Subnet.firstRecord_addRecord (free : s.NoRecord sid) (hsubnet : record.subnetId = s.id) :
    (s.addRecord sid record).FirstRecord sid record := by
  obtain ⟨before, ips, after, others, had, has⟩ := s.servers_addRecord sid record
  refine ⟨before, _, after, ips, [], has, rfl, rfl, ?_, fun r hr => ?_, fun e he hid => ?_⟩
  · rw [id_addRecord, hsubnet]
  · rw [id_addRecord]
    rcases had with had | ⟨-, rfl, -⟩
    · exact free _ (had ▸ List.mem_append_right before (List.mem_cons_self ..)) rfl r hr
    · exact absurd hr List.not_mem_nil
  · exact absurd hid (others e he)

/-- **An added record does not matter** to other instances. -/
theorem sameTo_addRecord (other : id ≠ sid) (n : Network) (record : AddressRecord) :
    SameTo id n (n.addRecord sid record) := by
  refine ⟨(n.id_addRecord sid record).symm, ?_⟩
  rw [Network.addRecord]
  cases hsubnets : n.subnets with
  | nil => exact .inl ⟨rfl, hsubnets⟩
  | cons s rest =>
    refine .inr ⟨s, rest, s.addRecord sid record, rest, rfl, rfl, (s.id_addRecord ..).symm, ?_⟩
    obtain ⟨before, ips, after, -, had | ⟨had, -, rfl⟩, has⟩ := s.servers_addRecord sid record
    · rw [had, has]
      exact .append_left before (.takenOut other.symm (.putIn other.symm (.refl after)))
    · have added : SameEntries id (before ++ []) (before ++ [{ id := sid, ips := ips ++ [record] }]) :=
        .append_left before (.putIn other.symm .nil)
      rwa [← has, List.append_nil, ← had] at added

end

/-! ### A new port -/

/-- The attachment that a new port on a subnet is, as it was requested. -/
def newAttachment (r : NetworkRequest) (s : Subnet) (port : AttachedPort) : NetworkAttachment where
  networkId := r.networkId
  subnetId := s.id
  portId := port.id
  ip := port.ipAddress
  isPublic := false
  portSecurity := r.portSecurity

/-- **A new port shows**: the cloud made it for the instance, as it was requested, on the subnet `s`
of the network, and `c` and `d` are the cloud before and after. -/
structure ShowsNewPort (c d : Cloud) (id : InstanceId) (r : NetworkRequest) (s : Subnet)
    (port : AttachedPort) : Prop where
  /-- It is what is resolved for the network. -/
  resolved : ∀ ks, r.networkId ∈ ks →
    (resolveById d.networks ks id).find? r.networkId = some (newAttachment r s port)
  /-- Whoever answers with it, the attachment that is made for the request is the same. -/
  attached : ∀ {σ : Type} (p : Provider σ) (w : World σ) (region : Region),
    let call : Call := .attachNetwork r.networkId
      { serverId := id, subnetId := s.id, ip := r.ip, portSecurity := r.portSecurity }
    w.outcome p region call = .ok port →
      Succeeds p w (attachTo region id c.networks r) (newAttachment r s port)
        (w.afterCall p region call) [⟨w.now, region, call, .ok port⟩]
  /-- What is resolved for the instance on other networks stays as it was. -/
  otherNetworks : ∀ ks k, k ≠ r.networkId →
    (resolveById d.networks ks id).find? k = (resolveById c.networks ks id).find? k
  /-- What is resolved for other instances stays as it was. -/
  otherInstances : ∀ other, other ≠ id → ∀ ks,
    resolveById d.networks ks other = resolveById c.networks ks other

section

variable {c : Cloud} {id : InstanceId} {r : NetworkRequest} {s : Subnet} {rest : List Subnet}
  {n : Network}

/-- An answer that names the subnet makes no other attachment than one that names none. -/
theorem ofPort_eq_newAttachment {port : AttachedPort} (h : port.subnetId = s.id) :
    NetworkAttachment.ofPort r s port = newAttachment r s port := by
  rw [NetworkAttachment.ofPort, h, ite_id]
  rfl

theorem succeeds_attachTo {σ : Type} {p : Provider σ} {w : World σ} {region : Region}
    {port : AttachedPort} {listing : List Network} (found : subnetFor listing r.networkId = .ok s)
    (answered : w.outcome p region (.attachNetwork r.networkId
      { serverId := id, subnetId := s.id, ip := r.ip, portSecurity := r.portSecurity }) = .ok port) :
    Succeeds p w (attachTo region id listing r) (.ofPort r s port)
      (w.afterCall p region (.attachNetwork r.networkId
        { serverId := id, subnetId := s.id, ip := r.ip, portSecurity := r.portSecurity }))
      [⟨w.now, region, .attachNetwork r.networkId
        { serverId := id, subnetId := s.id, ip := r.ip, portSecurity := r.portSecurity },
        .ok port⟩] := by
  have asked : Succeeds p w (attachTo.liftExcept (subnetFor listing r.networkId)) s w [] := by
    rw [found]
    exact ⟨rfl, rfl⟩
  exact asked.bind ((succeeds_ask_iff.2 ⟨answered, rfl, rfl⟩).bind
    (succeeds_pure_iff.2 ⟨rfl, rfl, rfl⟩))

/-- **The cloud makes a port that shows**, on a subnet where the instance had none. -/
theorem showsNewPort (hfind : c.networks.find? (·.id = r.networkId) = some n)
    (hsubnets : n.subnets = s :: rest) (free : s.NoRecord id) :
    ∃ port d, c.allocatePort r.networkId id r.ip r.portSecurity = (.ok port, d) ∧
      ShowsNewPort c d id r s port := by
  let record := portRecord (c.counter + 1) r.ip r.portSecurity s.id
  have hk : n.id = r.networkId := key_of_find? hfind
  refine ⟨_, _, c.allocatePort_eq id r.ip r.portSecurity hfind hsubnets, ?_, ?_, ?_, ?_⟩
  · intro ks hks
    have found : (mapFirst (·.id = r.networkId) (·.addRecord id record) c.networks).find?
        (·.id = r.networkId) = some (n.addRecord id record) := find?_mapFirst hfind (by simp [hk])
    have subnets : (n.addRecord id record).subnets = s.addRecord id record :: rest := by
      rw [Network.addRecord, hsubnets]
    have counts : (s.addRecord id record).FirstRecord id record :=
      Subnet.firstRecord_addRecord free rfl
    refine find?_resolveById.2 ⟨hks, _, found, Network.attachmentOf_eq_some_iff.2 ?_⟩
    refine ⟨_, rest, subnets, .inl ⟨record, counts, ?_⟩⟩
    rw [Network.id_addRecord, Subnet.id_addRecord, hk]
    rfl
  · intro σ p w region call answered
    have found : subnetFor c.networks r.networkId = .ok s :=
      subnetFor_eq_ok_iff.2 ⟨n, rest, hfind, hsubnets⟩
    rw [← ofPort_eq_newAttachment rfl]
    exact succeeds_attachTo found answered
  · intro ks k hne
    have found : (mapFirst (·.id = r.networkId) (·.addRecord id record) c.networks).find?
        (·.id = k) = c.networks.find? (·.id = k) := by
      refine find?_mapFirst_of_ne (fun m hm => ?_) fun m hm => ?_
      · simpa [of_decide_eq_true hm] using hne.symm
      · simpa [of_decide_eq_true hm] using hne.symm
    refine Option.ext fun a => ?_
    rw [find?_resolveById, find?_resolveById, found]
  · intro other hother ks
    exact resolveById_of_sameTo (forall₂_mapFirst .refl fun m => sameTo_addRecord hother m record) ks

end

/-- **Attaching meets the resolution**: something is resolved for a network exactly when there is a
subnet to attach to, and if no record of the instance counts on that subnet, a port that the cloud
makes for the instance shows from then on. -/
theorem attaching_meets_resolution (c : Cloud) (k : String) (id : InstanceId) :
    ((∃ s, subnetFor c.networks k = .ok s) ↔
        (resolveById c.networks [k] id).contains k = true) ∧
      ∀ s, subnetFor c.networks k = .ok s → s.NoRecord id → ∀ ip portSecurity,
        ∃ port d, c.allocatePort k id ip portSecurity = (.ok port, d) ∧
          ShowsNewPort c d id { networkId := k, ip, portSecurity } s port := by
  refine ⟨exists_subnetFor_iff id, fun s found free ip portSecurity => ?_⟩
  obtain ⟨n, rest, hfind, hsubnets⟩ := subnetFor_eq_ok_iff.1 found
  exact showsNewPort (r := { networkId := k, ip, portSecurity }) hfind hsubnets free

/-- Two networks with one identifier. On the first subnet of the first stand another instance and
two entries of `vm`, one of them with a record that belongs to no subnet that is there. -/
def crowdedCloud : Cloud where
  networks :=
    let stale : AddressRecord := { ip := "10.0.0.4", portId := "p0", subnetId := "sub-old" }
    let other : AddressRecord := { ip := "10.0.0.9", portId := "p9", subnetId := "sub-a" }
    let first : Subnet :=
      { id := "sub-a"
        servers := [{ id := "api", ips := [other] }, { id := "vm", ips := [stale] }, { id := "vm" }] }
    [{ id := "net-a", subnets := [first, { id := "sub-a2" }] },
      { id := "net-a", subnets := [{ id := "sub-b" }] }]
  counter := 7

/-- In the crowd the new port is resolved. -/
theorem attaching_meets_resolution_crowded :
    ∃ s port d, subnetFor crowdedCloud.networks "net-a" = .ok s ∧ s.id = "sub-a" ∧ s.NoRecord "vm" ∧
      crowdedCloud.allocatePort "net-a" "vm" (some "10.0.0.7") true = (.ok port, d) ∧
      ShowsNewPort crowdedCloud d "vm"
        { networkId := "net-a", ip := some "10.0.0.7", portSecurity := true } s port := by
  have free : ∀ s, subnetFor crowdedCloud.networks "net-a" = .ok s → s.NoRecord "vm" := by
    rintro _ ⟨⟩
    show ∀ e ∈ _, _
    decide
  obtain ⟨port, d, made, shows⟩ := (attaching_meets_resolution crowdedCloud "net-a" "vm").2 _ rfl
    (free _ rfl) (some "10.0.0.7") true
  exact ⟨_, port, d, rfl, rfl, free _ rfl, made, shows⟩

end Reconciler
