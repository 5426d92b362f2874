import Reconciler.Proofs.Cloud.Ports

/-!
# What is on record

The address records of a cloud, each with the network, the subnet and the server it stands with. The
cloud makes one record for each new port and takes records away with the ports they are of; it never
moves one.

## What is proved

* `Cloud.networkOfPort?_of_apart`: the network of a port, where names tell ports apart.
* `Cloud.allocatePort_eq`, `Cloud.allocatePort_inv`: the record of a new port, and when one is made.
* `Cloud.onRecord_allocatePort`, `Cloud.onRecord_removePort`: what is on record after a port is made
  or removed.
-/

namespace Reconciler

/-- The record `r` of the server `serverId` stands on a subnet of a network. -/
def Cloud.OnRecord (c : Cloud) (networkId subnetId serverId : String) (r : AddressRecord) : Prop :=
  ∃ n ∈ c.networks, n.id = networkId ∧ ∃ s ∈ n.subnets, s.id = subnetId ∧ r ∈ s.recordsOf serverId

/-- No port of the cloud has the name of one that is still to come. -/
def Cloud.PortsPast (c : Cloud) : Prop :=
  ∀ e ∈ serverEntries c.networks, ∀ r ∈ e.ips, ¬ PortToCome c.counter r.portId

/-- The record of the port with a number. Without an address asked for, the port has one with its
number. -/
def portRecord (serial : Nat) (ip : Option String) (portSecurity : Bool) (subnetId : String) :
    AddressRecord where
  ip := ip.getD ("10.0.0." ++ toString serial)
  portId := "port-" ++ toString serial
  subnetId := subnetId
  portSecurity := portSecurity

/-! ### The records of a subnet -/

namespace Subnet

variable {s : Subnet} {id sid portId : String} {r record : AddressRecord}

theorem mem_recordsOf : r ∈ s.recordsOf id ↔ ∃ e ∈ s.servers, e.id = id ∧ r ∈ e.ips := by
  simp only [recordsOf, List.mem_flatMap, List.mem_filter, decide_eq_true_eq, and_assoc]

/-- **An added record** is one more of the server it is added for. -/
theorem mem_recordsOf_addRecord :
    r ∈ (s.addRecord id record).recordsOf sid ↔ r ∈ s.recordsOf sid ∨ sid = id ∧ r = record := by
  simp only [mem_recordsOf]
  constructor
  · rintro ⟨e, he, rfl, hr⟩
    exact mem_ips_addRecord he hr
  · rw [addRecord]
    split_ifs with hany
    · rintro (⟨e, he, rfl, hr⟩ | ⟨rfl, rfl⟩)
      · rcases mem_mapFirst_of_mem he with he | hfind
        · exact ⟨e, he, rfl, hr⟩
        · exact ⟨_, change_mem_mapFirst hfind, rfl, List.mem_append_left _ hr⟩
      · obtain ⟨e, hfind⟩ : ∃ e, s.servers.find? (·.id = sid) = some e :=
          Option.isSome_iff_exists.1 (List.find?_isSome.2 (List.any_eq_true.1 hany))
        have hid : e.id = sid := key_of_find? hfind
        exact ⟨_, change_mem_mapFirst hfind, hid, by simp⟩
    · rintro (⟨e, he, rfl, hr⟩ | ⟨rfl, rfl⟩)
      · exact ⟨e, List.mem_append_left _ he, rfl, hr⟩
      · exact ⟨_, List.mem_append_right _ (List.mem_singleton_self _), rfl, by simp⟩

theorem mem_recordsOf_dropPort :
    r ∈ (s.dropPort portId id).recordsOf sid ↔
      r ∈ s.recordsOf sid ∧ (sid = id → r.portId ≠ portId) := by
  by_cases hid : sid = id
  · subst hid
    simp [recordsOf_dropPort]
  · have kept (e : SubnetServer) : (e.dropPort portId id).id = sid ∧ r ∈ (e.dropPort portId id).ips ↔
        e.id = sid ∧ r ∈ e.ips := by
      rw [SubnetServer.dropPort]
      split_ifs with heid
      · exact ⟨fun h => absurd (h.1.symm.trans heid) hid, fun h => absurd (h.1.symm.trans heid) hid⟩
      · exact Iff.rfl
    simp only [mem_recordsOf, dropPort, List.mem_map, exists_exists_and_eq_and, kept, hid,
      false_implies, and_true]

end Subnet

namespace Cloud

variable {c d : Cloud} {id k k' sub sid : String} {ip : Option String} {portSecurity : Bool}
  {r : AddressRecord}

/-! ### The records of an instance -/

theorem exists_onRecord {n : Network} (hn : n ∈ c.networks) (h : n.recordsOf id ≠ []) :
    ∃ sub r, c.OnRecord n.id sub id r := by
  obtain ⟨r, hr⟩ := List.exists_mem_of_ne_nil _ h
  obtain ⟨s, hs, hrs⟩ := List.mem_flatMap.1 hr
  exact ⟨s.id, r, n, hn, rfl, s, hs, rfl, hrs⟩

theorem OnRecord.exists_entry (h : c.OnRecord k sub sid r) :
    ∃ e ∈ serverEntries c.networks, e.id = sid ∧ r ∈ e.ips := by
  obtain ⟨n, hn, -, s, hs, -, hr⟩ := h
  obtain ⟨e, he, hid, hre⟩ := Subnet.mem_recordsOf.1 hr
  exact ⟨e, mem_serverEntries_iff.2 ⟨n, hn, s, hs, he⟩, hid, hre⟩

theorem PortsPast.of_onRecord (h : c.PortsPast) (hr : c.OnRecord k sub sid r) :
    ¬ PortToCome c.counter r.portId := by
  obtain ⟨e, he, -, hre⟩ := hr.exists_entry
  exact h e he r hre

theorem OnRecord.congr (h : c.OnRecord k sub sid r) (same : d.networks = c.networks) :
    d.OnRecord k sub sid r := by
  rw [OnRecord, same]
  exact h

/-! ### The network of a port -/

/-- **The network of a port** that is on record is found, if no other network has a port of that
name. -/
theorem networkOfPort?_of_apart {n : Network}
    (ids : (c.networks.map (·.id)).Nodup) (hn : n ∈ c.networks) (hr : c.OnRecord n.id sub sid r)
    (apart : ∀ k' sub' sid' r', c.OnRecord k' sub' sid' r' → r'.portId = r.portId → k' = n.id) :
    c.networkOfPort? r.portId = some n := by
  have has {m : Network} : (m.subnets.any fun s => s.servers.any fun e =>
      e.ips.any (·.portId = r.portId)) = true ↔
        ∃ s ∈ m.subnets, ∃ e ∈ s.servers, ∃ r' ∈ e.ips, r'.portId = r.portId := by
    simp only [List.any_eq_true, decide_eq_true_eq]
  obtain ⟨m, hm⟩ : ∃ m, c.networkOfPort? r.portId = some m := by
    obtain ⟨n', hn', -, s, hs, -, hrs⟩ := hr
    obtain ⟨e, he, -, hre⟩ := Subnet.mem_recordsOf.1 hrs
    exact Option.isSome_iff_exists.1
      (List.find?_isSome.2 ⟨n', hn', has.2 ⟨s, hs, e, he, r, hre, rfl⟩⟩)
  have listed : m ∈ c.networks := List.mem_of_find?_eq_some hm
  have found := List.find?_some (p := fun m : Network =>
    m.subnets.any fun s => s.servers.any fun e => e.ips.any (·.portId = r.portId)) hm
  obtain ⟨s, hs, e, he, r', hre, hport⟩ := has.1 found
  have same : m.id = n.id :=
    apart m.id s.id e.id r'
      ⟨m, listed, rfl, s, hs, rfl, Subnet.mem_recordsOf.2 ⟨e, he, rfl, hre⟩⟩ hport
  rw [hm, List.inj_on_of_nodup_map ids listed hn same]

/-! ### Making a port -/

/-- **A port is made** on the first subnet of the first network with the identifier. -/
theorem allocatePort_eq (id : String) (ip : Option String) (portSecurity : Bool) {n : Network}
    {s : Subnet} {rest : List Subnet} (hfind : c.networks.find? (·.id = k) = some n)
    (hsubnets : n.subnets = s :: rest) :
    c.allocatePort k id ip portSecurity =
      (.ok { id := "port-" ++ toString (c.counter + 1)
             ipAddress := ip.getD ("10.0.0." ++ toString (c.counter + 1))
             networkId := k
             subnetId := s.id },
        { c with
          counter := c.counter + 1
          networks := mapFirst (·.id = k)
            (·.addRecord id (portRecord (c.counter + 1) ip portSecurity s.id)) c.networks }) := by
  rw [allocatePort]
  simp only [hfind, hsubnets]
  rfl

/-- A port is made only where there is a network with a subnet. -/
theorem allocatePort_inv {port : AttachedPort}
    (h : (c.allocatePort k id ip portSecurity).1 = .ok port) :
    ∃ n s rest, c.networks.find? (·.id = k) = some n ∧ n.subnets = s :: rest := by
  rw [allocatePort] at h
  split at h
  · simp at h
  · rename_i n hfind
    split at h
    · simp at h
    · rename_i s rest hsubnets
      exact ⟨n, s, rest, hfind, hsubnets⟩

/-- **What is on record after a port is made** was on record before, or it is the record of that
port. -/
theorem onRecord_allocatePort {n : Network} {s : Subnet} {rest : List Subnet}
    (hfind : c.networks.find? (·.id = k) = some n) (hsubnets : n.subnets = s :: rest) :
    (c.allocatePort k id ip portSecurity).2.OnRecord k' sub sid r ↔
      c.OnRecord k' sub sid r ∨ (k' = k ∧ sub = s.id) ∧ sid = id ∧
        r = portRecord (c.counter + 1) ip portSecurity s.id := by
  rw [allocatePort_eq id ip portSecurity hfind hsubnets]
  let record := portRecord (c.counter + 1) ip portSecurity s.id
  have listed : n ∈ c.networks := List.mem_of_find?_eq_some hfind
  have hk : n.id = k := key_of_find? hfind
  have first : s ∈ n.subnets := hsubnets ▸ List.mem_cons_self ..
  have same : (n.addRecord id record).id = n.id := n.id_addRecord id record
  have subnets : (n.addRecord id record).subnets = s.addRecord id record :: rest := by
    rw [Network.addRecord, hsubnets]
  have changed : n.addRecord id record ∈
      mapFirst (·.id = k) (·.addRecord id record) c.networks := change_mem_mapFirst hfind
  have first' : s.addRecord id record ∈ (n.addRecord id record).subnets :=
    subnets ▸ List.mem_cons_self ..
  constructor
  · rintro ⟨n', hn', rfl, s', hs', rfl, hr⟩
    rcases mem_mapFirst_find? hn' with hn' | ⟨m, hm, rfl⟩
    · exact .inl ⟨n', hn', rfl, s', hs', rfl, hr⟩
    · obtain rfl : m = n := Option.some.inj (hm.symm.trans hfind)
      rw [same]
      rw [subnets] at hs'
      rcases List.mem_cons.1 hs' with rfl | hs'
      · rw [Subnet.id_addRecord]
        rcases Subnet.mem_recordsOf_addRecord.1 hr with hr | hr
        · exact .inl ⟨m, listed, rfl, s, first, rfl, hr⟩
        · exact .inr ⟨⟨hk, rfl⟩, hr⟩
      · exact .inl ⟨m, listed, rfl, s', hsubnets ▸ List.mem_cons_of_mem _ hs', rfl, hr⟩
  · rintro (⟨n', hn', rfl, s', hs', rfl, hr⟩ | ⟨⟨rfl, rfl⟩, hr⟩)
    · rcases mem_mapFirst_of_mem hn' with hn' | hm
      · exact ⟨n', hn', rfl, s', hs', rfl, hr⟩
      · obtain rfl : n' = n := Option.some.inj (hm.symm.trans hfind)
        refine ⟨_, changed, same, ?_⟩
        rw [hsubnets] at hs'
        rcases List.mem_cons.1 hs' with rfl | hs'
        · exact ⟨_, first', Subnet.id_addRecord .., Subnet.mem_recordsOf_addRecord.2 (.inl hr)⟩
        · exact ⟨s', subnets ▸ List.mem_cons_of_mem _ hs', rfl, hr⟩
    · exact ⟨_, changed, same.trans hk, _, first', Subnet.id_addRecord ..,
        Subnet.mem_recordsOf_addRecord.2 (.inr hr)⟩

/-! ### Removing a port -/

/-- **What is on record after a port is removed** was on record before, and it is not the record of
that port. -/
theorem onRecord_removePort {portId : String} :
    (c.removePort portId id).2.OnRecord k sub sid r ↔
      c.OnRecord k sub sid r ∧ (sid = id → r.portId ≠ portId) := by
  rw [removePort]
  split_ifs with held
  · show (∃ n ∈ c.networks.map (·.dropPort portId id), _) ↔ _
    constructor
    · rintro ⟨n', hn', rfl, s', hs', rfl, hr⟩
      obtain ⟨n, hn, rfl⟩ := List.mem_map.1 hn'
      obtain ⟨s, hs, rfl⟩ := List.mem_map.1 hs'
      obtain ⟨hr, hne⟩ := Subnet.mem_recordsOf_dropPort.1 hr
      exact ⟨⟨n, hn, rfl, s, hs, rfl, hr⟩, hne⟩
    · rintro ⟨⟨n, hn, rfl, s, hs, rfl, hr⟩, hne⟩
      exact ⟨_, List.mem_map_of_mem hn, rfl, _, List.mem_map_of_mem hs, rfl,
        Subnet.mem_recordsOf_dropPort.2 ⟨hr, hne⟩⟩
  · refine ⟨fun hr => ⟨hr, ?_⟩, And.left⟩
    rintro rfl hport
    obtain ⟨e, he, hid, hre⟩ := hr.exists_entry
    refine held (List.any_eq_true.2 ⟨e, he, ?_⟩)
    rw [decide_eq_true hid, Bool.true_and]
    exact List.any_eq_true.2 ⟨r, hre, decide_eq_true hport⟩

end Cloud

end Reconciler
