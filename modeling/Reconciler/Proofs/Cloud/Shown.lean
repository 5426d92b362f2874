import Reconciler.Proofs.Cloud.Built
import Reconciler.Proofs.Cloud.OnRecord

/-!
# What a cloud shows of an instance

Each record of an instance shows as an attachment, with all that is known of the port. A port that is
made shows as one attachment more, and one that is removed takes its attachment along. This holds of
clouds that are in order, in which the name of a port tells which one it is; and making and removing
ports keeps a cloud in order.

## What is proved

* `Cloud.shows_allocatePort`, `Cloud.shows_removePort`: what is shown after a port is made or removed.
* `Cloud.InOrder.allocatePort`, `Cloud.InOrder.removePort`: a cloud stays in order.
* `Cloud.InOrder.exists_attachmentOf`, `Cloud.InOrder.networkOfPort?`: what is shown is resolved, and
  the network of its port is found.
-/

namespace Reconciler

namespace Cloud

/-- **The cloud shows the attachment** of the instance: it has the record of it. -/
def Shows (c : Cloud) (id : InstanceId) (a : NetworkAttachment) : Prop :=
  ∃ k sub r, c.OnRecord k sub id r ∧ a = .ofRecord k sub r

/-- The ports of the cloud, of all servers on all networks. -/
def portIds (c : Cloud) : List String :=
  (serverEntries c.networks).flatMap fun e => e.ips.map (·.portId)

/-- **The cloud is in order**: its networks are, and a name tells which port it is of, now and after
other ports are made. -/
structure InOrder (c : Cloud) : Prop where
  /-- No identifier is that of two networks. -/
  ids : (c.networks.map (·.id)).Nodup
  /-- The networks are orderly. -/
  orderly : ∀ n ∈ c.networks, n.Orderly
  /-- Ports have names. -/
  named : ∀ ⦃k sub sid r⦄, c.OnRecord k sub sid r → r.portId ≠ ""
  /-- They are none that are still to come. -/
  past : ∀ ⦃k sub sid r⦄, c.OnRecord k sub sid r → ¬ PortToCome c.counter r.portId
  /-- Records of ports with one name are the same. -/
  apart : ∀ ⦃k sub sid r k' sub' sid' r'⦄, c.OnRecord k sub sid r → c.OnRecord k' sub' sid' r' →
    r.portId = r'.portId → k = k' ∧ sub = sub' ∧ r = r'

variable {c d : Cloud} {id k portId : String} {ip : Option String} {portSecurity : Bool}
  {a b : NetworkAttachment} {n : Network} {s : Subnet} {rest : List Subnet}

/-! ### Clouds in order -/

/-- A cloud with orderly networks is in order if all its ports have names, all of them different and
none of them still to come. -/
theorem InOrder.of_portIds (ids : (c.networks.map (·.id)).Nodup)
    (orderly : ∀ n ∈ c.networks, n.Orderly) (ports : c.portIds.Nodup) (named : "" ∉ c.portIds)
    (past : c.PortsPast) : c.InOrder where
  ids := ids
  orderly := orderly
  named k sub sid r hr hempty := by
    obtain ⟨e, he, -, hre⟩ := hr.exists_entry
    exact named (List.mem_flatMap.2 ⟨e, he, List.mem_map.2 ⟨r, hre, hempty⟩⟩)
  past _ _ _ _ hr := past.of_onRecord hr
  apart := by
    rw [portIds, serverEntries, List.flatMap_assoc] at ports
    simp only [List.flatMap_assoc] at ports
    rintro k sub sid r k' sub' sid' r' ⟨n, hn, rfl, s, hs, rfl, hr⟩ ⟨n', hn', rfl, s', hs', rfl, hr'⟩
      hport
    obtain ⟨e, he, -, hre⟩ := Subnet.mem_recordsOf.1 hr
    obtain ⟨e', he', -, hre'⟩ := Subnet.mem_recordsOf.1 hr'
    -- The name stands in one entry of one subnet of one network.
    have entry := List.mem_map_of_mem (f := (·.portId)) hre
    have entry' : r.portId ∈ e'.ips.map (·.portId) := hport ▸ List.mem_map_of_mem hre'
    have subnet : r.portId ∈ s.servers.flatMap fun e => e.ips.map (·.portId) :=
      List.mem_flatMap.2 ⟨e, he, entry⟩
    have subnet' : r.portId ∈ s'.servers.flatMap fun e => e.ips.map (·.portId) :=
      List.mem_flatMap.2 ⟨e', he', entry'⟩
    obtain rfl := eq_of_mem_flatMap ports hn hn' (List.mem_flatMap.2 ⟨s, hs, subnet⟩)
      (List.mem_flatMap.2 ⟨s', hs', subnet'⟩)
    have ports := (List.nodup_flatMap.1 ports).1 n hn
    obtain rfl := eq_of_mem_flatMap ports hs hs' subnet subnet'
    have ports := (List.nodup_flatMap.1 ports).1 s hs
    obtain rfl := eq_of_mem_flatMap ports he he' entry entry'
    have ports := (List.nodup_flatMap.1 ports).1 e he
    exact ⟨rfl, rfl, List.inj_on_of_nodup_map ports hre hre' hport⟩

theorem InOrder.of_networks (h : c.InOrder) (hn : d.networks = c.networks)
    (hc : c.counter ≤ d.counter) : d.InOrder where
  ids := hn ▸ h.ids
  orderly := hn ▸ h.orderly
  named _ _ _ _ hr := h.named (hr.congr hn.symm)
  past _ _ _ _ hr hp := h.past (hr.congr hn.symm) (hp.mono hc)
  apart _ _ _ _ _ _ _ _ hr hr' := h.apart (hr.congr hn.symm) (hr'.congr hn.symm)

/-- **A cloud stays in order when a port is made**: its name was still to come. -/
theorem InOrder.allocatePort (h : c.InOrder) (id : String) (ip : Option String)
    (portSecurity : Bool) (hfind : c.networks.find? (·.id = k) = some n)
    (hsubnets : n.subnets = s :: rest) : (c.allocatePort k id ip portSecurity).2.InOrder := by
  let record := portRecord (c.counter + 1) ip portSecurity s.id
  have counter : (c.allocatePort k id ip portSecurity).2.counter = c.counter + 1 := by
    rw [allocatePort_eq id ip portSecurity hfind hsubnets]
  have fresh ⦃k' sub sid r⦄ (hr : c.OnRecord k' sub sid r) : r.portId ≠ record.portId :=
    fun same => h.past hr ⟨_, Nat.lt_succ_self _, same⟩
  refine ⟨?_, allocatePort_orderly h.orderly _ _ _ _, fun k' sub sid r hr => ?_, fun k' sub sid r hr => ?_,
    fun k' sub sid r k'' sub' sid' r' hr hr' hport => ?_⟩
  · rw [map_id_of_layout (c.allocatePort_layout k id ip portSecurity)]
    exact h.ids
  · rcases (onRecord_allocatePort hfind hsubnets).1 hr with old | ⟨-, -, rfl⟩
    · exact h.named old
    · exact fun hempty => by simp [portRecord] at hempty
  · rw [counter]
    rcases (onRecord_allocatePort hfind hsubnets).1 hr with old | ⟨-, -, rfl⟩
    · exact fun hp => h.past old (hp.mono (Nat.le_succ _))
    · exact not_portToCome_self _
  · rcases (onRecord_allocatePort hfind hsubnets).1 hr with old | ⟨⟨rfl, rfl⟩, -, rfl⟩
    · rcases (onRecord_allocatePort hfind hsubnets).1 hr' with old' | ⟨-, -, rfl⟩
      · exact h.apart old old' hport
      · exact absurd hport (fresh old)
    · rcases (onRecord_allocatePort hfind hsubnets).1 hr' with old' | ⟨⟨rfl, rfl⟩, -, rfl⟩
      · exact absurd hport.symm (fresh old')
      · exact ⟨rfl, rfl, rfl⟩

/-- **A cloud stays in order when a port is removed.** -/
theorem InOrder.removePort (h : c.InOrder) (portId id : String) :
    (c.removePort portId id).2.InOrder := by
  have counter : (c.removePort portId id).2.counter = c.counter := by
    rw [Cloud.removePort]
    split <;> rfl
  refine ⟨?_, perform_orderly h.orderly (.detachNetwork portId id), fun k' sub sid r hr => ?_,
    fun k' sub sid r hr => ?_, fun k' sub sid r k'' sub' sid' r' hr hr' hport => ?_⟩
  · exact map_id_of_layout (c.perform_sameSite (.detachNetwork portId id)).layout ▸ h.ids
  · exact h.named (onRecord_removePort.1 hr).1
  · exact counter ▸ h.past (onRecord_removePort.1 hr).1
  · exact h.apart (onRecord_removePort.1 hr).1 (onRecord_removePort.1 hr').1 hport

/-! ### What is shown -/

/-- **A port that is made** shows as one attachment more. -/
theorem shows_allocatePort (hfind : c.networks.find? (·.id = k) = some n)
    (hsubnets : n.subnets = s :: rest) :
    (c.allocatePort k id ip portSecurity).2.Shows id a ↔ c.Shows id a ∨
      a = .ofRecord k s.id (portRecord (c.counter + 1) ip portSecurity s.id) := by
  constructor
  · rintro ⟨k', sub, r, hr, rfl⟩
    rcases (onRecord_allocatePort hfind hsubnets).1 hr with old | ⟨⟨rfl, rfl⟩, -, rfl⟩
    · exact .inl ⟨k', sub, r, old, rfl⟩
    · exact .inr rfl
  · rintro (⟨k', sub, r, hr, rfl⟩ | rfl)
    · exact ⟨k', sub, r, (onRecord_allocatePort hfind hsubnets).2 (.inl hr), rfl⟩
    · exact ⟨k, s.id, _, (onRecord_allocatePort hfind hsubnets).2 (.inr ⟨⟨rfl, rfl⟩, rfl, rfl⟩), rfl⟩

/-- **With a port that is removed** its attachment is no longer shown. -/
theorem shows_removePort :
    (c.removePort portId id).2.Shows id a ↔ c.Shows id a ∧ a.portId ≠ portId := by
  constructor
  · rintro ⟨k', sub, r, hr, rfl⟩
    obtain ⟨hr, hne⟩ := onRecord_removePort.1 hr
    exact ⟨⟨k', sub, r, hr, rfl⟩, hne rfl⟩
  · rintro ⟨⟨k', sub, r, hr, rfl⟩, hne⟩
    exact ⟨k', sub, r, onRecord_removePort.2 ⟨hr, fun _ => hne⟩, rfl⟩

theorem InOrder.portId_ne (h : c.InOrder) (ha : c.Shows id a) : a.portId ≠ "" := by
  obtain ⟨k, sub, r, hr, rfl⟩ := ha
  exact h.named hr

theorem InOrder.eq_of_portId (h : c.InOrder) (ha : c.Shows id a) (hb : c.Shows id b)
    (hport : a.portId = b.portId) : a = b := by
  obtain ⟨k, sub, r, hr, rfl⟩ := ha
  obtain ⟨k', sub', r', hr', rfl⟩ := hb
  obtain ⟨rfl, rfl, rfl⟩ := h.apart hr hr' hport
  rfl

/-- **A network with a record of the instance** resolves to an attachment that is shown. -/
theorem InOrder.exists_attachmentOf (h : c.InOrder) (hn : n ∈ c.networks)
    (recorded : n.recordsOf id ≠ []) :
    ∃ a, n.attachmentOf id = some a ∧ a.networkId = n.id ∧ c.Shows id a := by
  obtain ⟨single, -, subnetIds⟩ := h.orderly n hn
  obtain ⟨r, hr⟩ := List.exists_mem_of_ne_nil _ recorded
  obtain ⟨s, hs, hrs⟩ := List.mem_flatMap.1 hr
  have subnets : n.subnets = [s] := by
    cases hsubnets : n.subnets with
    | nil => simp [hsubnets] at hs
    | cons s' rest =>
      rw [hsubnets] at single hs
      obtain rfl : rest = [] := List.length_eq_zero_iff.1 (by simpa using single)
      rw [List.mem_singleton.1 hs]
  have on_subnet {r : AddressRecord} (hr : r ∈ s.recordsOf id) : r.subnetId = s.id := by
    obtain ⟨e, he, -, hre⟩ := Subnet.mem_recordsOf.1 hr
    exact subnetIds s hs e he r hre
  obtain ⟨r', hr'⟩ : ∃ r', s.recordOf id = some r' :=
    Option.isSome_iff_exists.1 (List.find?_isSome.2 ⟨r, hrs, decide_eq_true (on_subnet hrs)⟩)
  refine ⟨.ofRecord n.id s.id r', ?_, rfl, n.id, s.id, r', ?_, rfl⟩
  · rw [Network.attachmentOf, subnets, List.head?_cons, Option.map_some, hr']
  · exact ⟨n, hn, rfl, s, hs, rfl, List.mem_of_find?_eq_some hr'⟩

theorem Shows.exists_network (ha : c.Shows id a) :
    ∃ n ∈ c.networks, n.id = a.networkId ∧ n.recordsOf id ≠ [] := by
  obtain ⟨k, sub, r, ⟨n, hn, rfl, s, hs, rfl, hr⟩, rfl⟩ := ha
  exact ⟨n, hn, rfl, List.ne_nil_of_mem (List.mem_flatMap.2 ⟨s, hs, hr⟩)⟩

/-- **The network of the port** of an attachment that is shown is found. -/
theorem InOrder.networkOfPort? (h : c.InOrder) (ha : c.Shows id a) :
    ∃ n, c.networkOfPort? a.portId = some n ∧ n.id = a.networkId := by
  obtain ⟨k, sub, r, ⟨n, hn, rfl, stands⟩, rfl⟩ := ha
  have hr : c.OnRecord n.id sub id r := ⟨n, hn, rfl, stands⟩
  refine ⟨n, networkOfPort?_of_apart h.ids hn hr fun k' sub' sid' r' hr' hport => ?_, rfl⟩
  exact (h.apart hr' hr hport).1

end Cloud

end Reconciler
