import Reconciler.Proofs.Cloud.Hosts
import Reconciler.Proofs.Cloud.Records
import Reconciler.Proofs.Update.Calls
import Reconciler.Proofs.Update.Networks

/-!
# The ports of an instance

The cloud names each port that it makes by a number it has not used before. `Cloud.Ports` says which
ports an instance has: at most one on a network, with names that tell them apart and that no later
port will have. Making a port and removing one keep that up.

## What is proved

* `MadeFor.toCome`: a port that a run makes is one that was still to come when the run began.
* `subnetFor_eq_ok_iff`: the subnet that an attachment asks for.
* `Cloud.Ports.detach`, `Cloud.Ports.attach`: the ports after one is removed or made.
* `Cloud.Lacks.perform`, `not_givenUp_of_lacks`: a port that is gone does not come back, and cannot
  be given up again.
-/

namespace Reconciler

/-! ### The names of new ports -/

/-- The port is still to come: it has the name of one that a cloud with that counter has yet to
make. -/
def PortToCome (counter : Nat) (portId : String) : Prop :=
  ∃ n, counter < n ∧ portId = "port-" ++ toString n

theorem PortToCome.mono {counter counter' : Nat} {portId : String} (h : counter ≤ counter')
    (hp : PortToCome counter' portId) : PortToCome counter portId := by
  obtain ⟨n, hn, rfl⟩ := hp
  exact ⟨n, Nat.lt_of_le_of_lt h hn, rfl⟩

/-- Every port that is still to come has a name with the same beginning. -/
theorem not_portToCome {counter : Nat} {portId : String}
    (h : ¬ "port-".toList <+: portId.toList) : ¬ PortToCome counter portId := by
  rintro ⟨n, -, rfl⟩
  exact h (by rw [String.toList_append]; exact List.prefix_append _ _)

theorem Cloud.allocatePort_toCome {c : Cloud} {networkId serverId : String} {ip : Option String}
    {portSecurity : Bool} {port : AttachedPort}
    (h : (c.allocatePort networkId serverId ip portSecurity).1 = .ok port) :
    PortToCome c.counter port.id := by
  rw [allocatePort] at h
  split at h
  · simp at h
  · split at h
    · simp at h
    · simp only [Except.ok.injEq] at h
      subst h
      exact ⟨_, Nat.lt_succ_self _, rfl⟩

/-- **A port that a run makes** was still to come when the run began. -/
theorem MadeFor.toCome {σ α : Type} {H : Host σ} {w : World σ} {task : Task α} {region : Region}
    {id : InstanceId} {r : NetworkRequest} {a : NetworkAttachment} (hw : H.steady w.store)
    (h : MadeFor region id (task.run.trace H.provider w) r a) :
    PortToCome (H.view w.store).counter a.portId := by
  obtain ⟨start, subnet, port, he, rfl⟩ := h
  have grows (d : Cloud) (call : Call) (_ : True) (hd : (H.view w.store).counter ≤ d.counter) :
      (H.view w.store).counter ≤ (d.perform call).2.counter :=
    Nat.le_trans hd (d.perform_changes call).counter_le
  obtain ⟨-, d, hd, ho | ⟨-, error, herror⟩⟩ := Host.trace_carriedOut
    (fun d => (H.view w.store).counter ≤ d.counter) (makes_any task.run) grows hw (Nat.le_refl _) he
  · exact (Cloud.allocatePort_toCome ho.symm).mono hd
  · simp at herror

theorem portToCome_succ (counter : Nat) :
    PortToCome counter ("port-" ++ toString (counter + 1)) :=
  ⟨_, Nat.lt_succ_self _, rfl⟩

/-- Names with one stem are told apart by their numbers. -/
theorem numbered_inj {stem : String} {m n : Nat}
    (h : stem ++ toString m = stem ++ toString n) : m = n := by
  have same : Nat.repr m = Nat.repr n := (String.append_right_inj _).1 h
  have digits : Nat.toDigits 10 m = Nat.toDigits 10 n := by
    rw [← Nat.toList_repr, ← Nat.toList_repr, same]
  have equal := congrArg (Nat.ofDigitChars 10 · 0) digits
  simpa only [Nat.ofDigitChars_ten_toDigits] using equal

/-- The latest port is no longer to come. -/
theorem not_portToCome_self (counter : Nat) :
    ¬ PortToCome counter ("port-" ++ toString counter) := by
  rintro ⟨n, hn, h⟩
  exact absurd (numbered_inj h) (Nat.ne_of_lt hn)

/-! ### Where an instance has ports -/

/-- **The ports of an instance**: on the network with the identifier `k` it has the port `port? k`
and no other. No two of its ports have one name, and no port that is still to come will have the
name of one. -/
structure Cloud.Ports (c : Cloud) (id : InstanceId) (port? : String → Option String) : Prop where
  /-- No identifier is that of two networks. -/
  nodup : (c.networks.map (·.id)).Nodup
  /-- Each network carries the port. -/
  carries : ∀ n ∈ c.networks, n.Carries id (port? n.id)
  /-- Ports are on networks that are there. -/
  listed : ∀ k p, port? k = some p → k ∈ c.networks.map (·.id)
  /-- Ports have names, and they keep them for themselves. -/
  named : ∀ k p, port? k = some p → p ≠ "" ∧ ¬ PortToCome c.counter p
  /-- No two ports have one name. -/
  distinct : ∀ k k' p, port? k = some p → port? k' = some p → k = k'

/-- A port can be made on the network: it is there and has a subnet. -/
def Attachable (networks : List Network) (k : String) : Prop :=
  ∃ n s rest, networks.find? (·.id = k) = some n ∧ n.subnets = s :: rest

/-- Where ports can be made is a matter of the layout of the networks. -/
theorem attachable_congr {networks networks' : List Network} {k : String}
    (h : networks'.map Network.layout = networks.map Network.layout) :
    Attachable networks' k ↔ Attachable networks k := by
  have layout_iff (networks : List Network) : Attachable networks k ↔
      ∃ l, (networks.map Network.layout).find? (·.1 = k) = some l ∧ l.2.2 ≠ [] := by
    rw [List.find?_map]
    constructor
    · rintro ⟨n, s, rest, hfind, hsubnets⟩
      refine ⟨n.layout, by rw [Option.map_eq_some_iff]; exact ⟨n, hfind, rfl⟩, ?_⟩
      simp [Network.layout, hsubnets]
    · rintro ⟨l, hl, hne⟩
      obtain ⟨n, hfind, rfl⟩ := Option.map_eq_some_iff.1 hl
      cases hsubnets : n.subnets with
      | nil => exact absurd (by simp [Network.layout, hsubnets]) hne
      | cons s rest => exact ⟨n, s, rest, hfind, hsubnets⟩
  rw [layout_iff, layout_iff, h]

/-- **An attachment asks for** the first subnet of the first network with the identifier. -/
theorem subnetFor_eq_ok_iff {networks : List Network} {k : String} {s : Subnet} :
    subnetFor networks k = .ok s ↔
      ∃ n rest, networks.find? (·.id = k) = some n ∧ n.subnets = s :: rest := by
  rw [subnetFor]
  cases networks.find? (·.id = k) with
  | none => simp
  | some n =>
    cases hsubnets : n.subnets with
    | nil => simp [hsubnets]
    | cons s' rest => simp [hsubnets]

theorem subnetFor_of_attachable {networks : List Network} {k : String} (h : Attachable networks k) :
    ∃ s, subnetFor networks k = .ok s := by
  obtain ⟨n, s, rest, hfind, hsubnets⟩ := h
  exact ⟨s, subnetFor_eq_ok_iff.2 ⟨n, rest, hfind, hsubnets⟩⟩

theorem subnetFor_of_not_attachable {networks : List Network} {k : String}
    (h : ¬ Attachable networks k) : ∃ e, subnetFor networks k = .error e := by
  cases hs : subnetFor networks k with
  | error e => exact ⟨e, rfl⟩
  | ok s =>
    obtain ⟨n, rest, hfind, hsubnets⟩ := subnetFor_eq_ok_iff.1 hs
    exact absurd ⟨n, s, rest, hfind, hsubnets⟩ h

namespace Cloud

variable {c : Cloud} {id : InstanceId} {port? : String → Option String} {k p : String}

/-- A port is made on the first subnet of a network, with a name that was still to come. -/
theorem perform_attachNetwork (r : AttachRequest) {n : Network} {s : Subnet} {rest : List Subnet}
    (hfind : c.networks.find? (·.id = k) = some n) (hsubnets : n.subnets = s :: rest) :
    ∃ port record, record.portId = port.id ∧ record.subnetId = s.id ∧
      port.id = "port-" ++ toString (c.counter + 1) ∧
      c.perform (.attachNetwork k r) = (.ok port, { c with
        counter := c.counter + 1
        networks := mapFirst (·.id = k) (·.addRecord r.serverId record) c.networks }) := by
  rw [perform, allocatePort]
  simp only [hfind, hsubnets]
  exact ⟨_, _, rfl, rfl, rfl, rfl⟩

namespace Ports

/-- What leaves the networks leaves the ports. -/
theorem of_networks {d : Cloud} (h : c.Ports id port?) (hn : d.networks = c.networks)
    (hc : c.counter ≤ d.counter) : d.Ports id port? where
  nodup := hn ▸ h.nodup
  carries := hn ▸ h.carries
  listed := hn ▸ h.listed
  named k p hk := ⟨(h.named k p hk).1, fun hp => (h.named k p hk).2 (hp.mono hc)⟩
  distinct := h.distinct

/-- Where the instance has a port, another one could be made. -/
theorem attachable (h : c.Ports id port?) (hk : port? k = some p) : Attachable c.networks k := by
  obtain ⟨n, hn, rfl⟩ := List.mem_map.1 (h.listed k p hk)
  have hcarries := h.carries n hn
  rw [hk] at hcarries
  obtain ⟨s, rest, -, hsubnets, -⟩ := hcarries
  exact ⟨n, s, rest, find?_of_nodup h.nodup hn, hsubnets⟩

/-- **A port is removed.** -/
theorem detach (h : c.Ports id port?) (hk : port? k = some p) :
    ∃ d, c.perform (.detachNetwork p id) = (.ok (), d) ∧
      d.Ports id (Function.update port? k none) := by
  have held : ((serverEntries c.networks).any fun e =>
      e.id = id && e.ips.any (·.portId = p)) = true := by
    obtain ⟨n, hn, rfl⟩ := List.mem_map.1 (h.listed k p hk)
    have hcarries := h.carries n hn
    rw [hk] at hcarries
    obtain ⟨s, hs, e, he, hid, r, hr, hp⟩ := hcarries.exists_entry
    refine List.any_eq_true.2 ⟨e, ?_, ?_⟩
    · exact List.mem_flatMap.2 ⟨n, hn, List.mem_flatMap.2 ⟨s, hs, he⟩⟩
    · rw [decide_eq_true hid, Bool.true_and]
      exact List.any_eq_true.2 ⟨r, hr, decide_eq_true hp⟩
  -- To forget the port on `k` is to drop its name everywhere, since no other port has it.
  have dropped (k' : String) : Function.update port? k none k' = (port? k').filter (· ≠ p) := by
    by_cases hkk : k' = k
    · subst hkk
      rw [Function.update_self, hk, Option.filter_some]
      simp
    · rw [Function.update_of_ne hkk]
      cases hk' : port? k' with
      | none => rfl
      | some q =>
        have hne : q ≠ p := fun hqp => hkk (h.distinct k' k p (hqp ▸ hk') hk)
        rw [Option.filter_some, if_pos (by simpa using hne)]
  have stays (k' q : String) (hq : Function.update port? k none k' = some q) :
      port? k' = some q := by
    rw [dropped, Option.filter_eq_some_iff] at hq
    exact hq.1
  refine ⟨_, if_pos held, ?_⟩
  have ids : ((c.networks.map (·.dropPort p id)).map (·.id)) = c.networks.map (·.id) := by
    rw [List.map_map]
    rfl
  refine ⟨?_, ?_, ?_, ?_, ?_⟩
  · exact ids ▸ h.nodup
  · intro n' hn'
    obtain ⟨n, hn, rfl⟩ := List.mem_map.1 hn'
    show (n.dropPort p id).Carries id (Function.update port? k none n.id)
    rw [dropped]
    exact (h.carries n hn).dropPort
  · intro k' q hq
    exact ids ▸ h.listed k' q (stays k' q hq)
  · exact fun k' q hq => h.named k' q (stays k' q hq)
  · exact fun k' k'' q hq hq' => h.distinct k' k'' q (stays k' q hq) (stays k'' q hq')

/-- **A port is made** on a network on which the instance had none. -/
theorem attach {r : AttachRequest} (h : c.Ports r.serverId port?) (hk : port? k = none)
    (hn : Attachable c.networks k) :
    ∃ port d, c.perform (.attachNetwork k r) = (.ok port, d) ∧
      d.Ports r.serverId (Function.update port? k (some port.id)) := by
  obtain ⟨n, s, rest, hfind, hsubnets⟩ := hn
  obtain ⟨port, record, hport, hsubnet, hid, hperform⟩ := perform_attachNetwork r hfind hsubnets
  refine ⟨port, _, hperform, ?_⟩
  have found {m : Network} (hm : m ∈ c.networks) (hmk : m.id = k) : m = n := by
    have hfind' := find?_of_nodup h.nodup hm
    rw [hmk, hfind] at hfind'
    exact (Option.some.inj hfind').symm
  have changed : mapFirst (·.id = k) (·.addRecord r.serverId record) c.networks =
      c.networks.map fun m => if m.id = k then m.addRecord r.serverId record else m :=
    mapFirst_eq_map h.nodup
  have ids : (mapFirst (·.id = k) (·.addRecord r.serverId record) c.networks).map (·.id) =
      c.networks.map (·.id) := map_mapFirst fun m => m.id_addRecord r.serverId record
  have new : PortToCome c.counter port.id := by
    rw [hid]
    exact portToCome_succ c.counter
  have origin (k' q : String) (hq : Function.update port? k (some port.id) k' = some q) :
      k' = k ∧ q = port.id ∨ k' ≠ k ∧ port? k' = some q := by
    by_cases hkk : k' = k
    · subst hkk
      rw [Function.update_self, Option.some.injEq] at hq
      exact .inl ⟨rfl, hq.symm⟩
    · rw [Function.update_of_ne hkk] at hq
      exact .inr ⟨hkk, hq⟩
  refine ⟨ids ▸ h.nodup, ?_, ?_, ?_, ?_⟩
  · intro m' hm'
    change m' ∈ mapFirst (·.id = k) (·.addRecord r.serverId record) c.networks at hm'
    rw [changed] at hm'
    obtain ⟨m, hm, rfl⟩ := List.mem_map.1 hm'
    by_cases hmk : m.id = k
    · obtain rfl := found hm hmk
      have empty : m.Carries r.serverId none := by
        have hcarries := h.carries m hm
        rwa [hmk, hk] at hcarries
      simp only [hmk, if_true]
      rw [Network.id_addRecord, hmk, Function.update_self, ← hport]
      exact empty.addRecord hsubnets hsubnet
    · simp only [hmk, if_false]
      rw [Function.update_of_ne hmk]
      exact h.carries m hm
  · intro k' q hq
    show k' ∈ (mapFirst (·.id = k) (·.addRecord r.serverId record) c.networks).map (·.id)
    rw [ids]
    rcases origin k' q hq with ⟨rfl, -⟩ | ⟨-, hq⟩
    · exact List.mem_map.2 ⟨n, List.mem_of_find?_eq_some hfind, key_of_find? hfind⟩
    · exact h.listed k' q hq
  · intro k' q hq
    rcases origin k' q hq with ⟨-, rfl⟩ | ⟨-, hq⟩
    · refine ⟨?_, hid ▸ not_portToCome_self _⟩
      rw [hid]
      exact fun h => by simp at h
    · obtain ⟨hne, hcome⟩ := h.named k' q hq
      exact ⟨hne, fun hp => hcome (hp.mono (Nat.le_succ _))⟩
  · intro k' k'' q hq hq'
    rcases origin k' q hq with ⟨rfl, rfl⟩ | ⟨-, old⟩
    · rcases origin k'' _ hq' with ⟨rfl, -⟩ | ⟨-, old'⟩
      · rfl
      · exact absurd new (h.named k'' _ old').2
    · rcases origin k'' q hq' with ⟨rfl, rfl⟩ | ⟨-, old'⟩
      · exact absurd new (h.named k' _ old).2
      · exact h.distinct k' k'' q old old'

end Ports

end Cloud

/-! ### A port that an instance lacks -/

theorem mem_serverEntries_iff {networks : List Network} {e : SubnetServer} :
    e ∈ serverEntries networks ↔ ∃ n ∈ networks, ∃ s ∈ n.subnets, e ∈ s.servers := by
  simp only [serverEntries, List.mem_flatMap]

section

variable {sid : InstanceId} {record r : AddressRecord} {e : SubnetServer}

/-- With one record added, an entry has the records that one of the same instance had, or it is of
the instance that the record was added for and has the new one. -/
theorem Subnet.mem_ips_addRecord {s : Subnet} (he : e ∈ (s.addRecord sid record).servers)
    (hr : r ∈ e.ips) :
    (∃ e' ∈ s.servers, e'.id = e.id ∧ r ∈ e'.ips) ∨ e.id = sid ∧ r = record := by
  rw [addRecord] at he
  split at he
  · rcases mem_mapFirst he with he | ⟨e', he', hid, rfl⟩
    · exact .inl ⟨e, he, rfl, hr⟩
    · rcases List.mem_append.1 hr with hr | hr
      · exact .inl ⟨e', he', rfl, hr⟩
      · exact .inr ⟨of_decide_eq_true hid, List.mem_singleton.1 hr⟩
  · rcases List.mem_append.1 he with he | he
    · exact .inl ⟨e, he, rfl, hr⟩
    · obtain rfl := List.mem_singleton.1 he
      exact .inr ⟨rfl, List.mem_singleton.1 hr⟩

theorem mem_ips_addRecord {k : String} {networks : List Network}
    (he : e ∈ serverEntries (mapFirst (·.id = k) (·.addRecord sid record) networks))
    (hr : r ∈ e.ips) :
    (∃ e' ∈ serverEntries networks, e'.id = e.id ∧ r ∈ e'.ips) ∨ r = record := by
  simp only [mem_serverEntries_iff] at he ⊢
  obtain ⟨n, hn, s, hs, he⟩ := he
  rcases mem_mapFirst hn with hold | ⟨m, hm, -, rfl⟩
  · exact .inl ⟨e, ⟨n, hold, s, hs, he⟩, rfl, hr⟩
  · rw [Network.addRecord] at hs
    split at hs
    · exact .inl ⟨e, ⟨m, hm, s, hs, he⟩, rfl, hr⟩
    · rename_i s₀ rest hsubnets
      rcases List.mem_cons.1 hs with rfl | hs
      · have first : s₀ ∈ m.subnets := hsubnets ▸ List.mem_cons_self ..
        refine (Subnet.mem_ips_addRecord he hr).imp ?_ And.right
        rintro ⟨e', he', hid, hr'⟩
        exact ⟨e', ⟨m, hm, s₀, first, he'⟩, hid, hr'⟩
      · have other : s ∈ m.subnets := hsubnets ▸ List.mem_cons_of_mem _ hs
        exact .inl ⟨e, ⟨m, hm, s, other, he⟩, rfl, hr⟩

theorem serverEntries_mapServerEntries (change : SubnetServer → SubnetServer)
    (networks : List Network) :
    serverEntries (mapServerEntries change networks) = (serverEntries networks).map change := by
  simp only [serverEntries, mapServerEntries, List.flatMap_map, List.map_flatMap]

theorem mem_serverEntries_map {change : SubnetServer → SubnetServer} {networks : List Network}
    (he : e ∈ serverEntries (mapServerEntries change networks)) :
    ∃ e' ∈ serverEntries networks, e = change e' := by
  rw [serverEntries_mapServerEntries] at he
  obtain ⟨e', he', rfl⟩ := List.mem_map.1 he
  exact ⟨e', he', rfl⟩

end

/-- **The instance lacks the port**: it has no record with it, and the port is none that is still to
come. -/
structure Cloud.Lacks (c : Cloud) (id : InstanceId) (p : String) : Prop where
  /-- No entry of the instance has it on record. -/
  absent : ∀ e ∈ serverEntries c.networks, e.id = id → ∀ r ∈ e.ips, r.portId ≠ p
  /-- It is not still to come. -/
  past : ¬ PortToCome c.counter p

namespace Cloud.Lacks

variable {c d : Cloud} {id : InstanceId} {p : String}

theorem of_networks (h : c.Lacks id p) (hn : d.networks = c.networks) (hc : c.counter ≤ d.counter) :
    d.Lacks id p where
  absent := hn ▸ h.absent
  past hp := h.past (hp.mono hc)

/-- What changes the entries without a new record leaves the port lacking. -/
theorem of_entries (h : c.Lacks id p) {change : SubnetServer → SubnetServer}
    (hn : d.networks = mapServerEntries change c.networks) (hc : d.counter = c.counter)
    (same : ∀ e, (change e).id = e.id)
    (old : ∀ e, ∀ r ∈ (change e).ips, ∃ r' ∈ e.ips, r'.portId = r.portId) : d.Lacks id p where
  absent e he hid r hr := by
    rw [hn] at he
    obtain ⟨e', he', rfl⟩ := mem_serverEntries_map he
    obtain ⟨r', hr', hport⟩ := old e' r hr
    exact hport ▸ h.absent e' he' ((same e').symm.trans hid) r' hr'
  past := hc ▸ h.past

theorem allocatePort (h : c.Lacks id p) (k sid : String) (ip : Option String)
    (portSecurity : Bool) :
    (c.allocatePort k sid ip portSecurity).2.Lacks id p := by
  have later : ¬ PortToCome (c.counter + 1) p := fun hp => h.past (hp.mono (Nat.le_succ _))
  rw [Cloud.allocatePort]
  split
  · exact ⟨h.absent, later⟩
  · split
    · exact ⟨h.absent, later⟩
    · refine ⟨fun e he hid r hr => ?_, later⟩
      rcases mem_ips_addRecord he hr with ⟨e', he', hid', hr'⟩ | rfl
      · exact h.absent e' he' (hid'.trans hid) r hr'
      · rintro rfl
        exact h.past (portToCome_succ c.counter)

theorem setPortSecurity (h : c.Lacks id p) (portId : String) (enabled : Bool) :
    (c.setPortSecurity portId enabled).2.Lacks id p := by
  rw [Cloud.setPortSecurity]
  split
  · refine h.of_entries rfl rfl (fun _ => rfl) fun e r hr => ?_
    obtain ⟨r', hr', rfl⟩ := List.mem_map.1 hr
    refine ⟨r', hr', ?_⟩
    split_ifs <;> rfl
  · exact h

theorem removePort (h : c.Lacks id p) (portId sid : String) :
    (c.removePort portId sid).2.Lacks id p := by
  rw [Cloud.removePort]
  split
  · refine h.of_entries rfl rfl (fun e => ?_) fun e r hr => ?_
    · split_ifs <;> rfl
    · refine ⟨r, ?_, rfl⟩
      split_ifs at hr
      · exact (List.mem_filter.1 hr).1
      · exact hr
  · exact h

/-- **No call gives a lacking port back**, unless it makes a server. -/
theorem perform (h : c.Lacks id p) {call : Call} (hcall : call.part ≠ .serversAndNetworks) :
    (c.perform call).2.Lacks id p := by
  have changes := c.perform_changes call
  cases call with
  | createServer order => exact absurd rfl hcall
  | attachNetwork k r => exact h.allocatePort ..
  | detachNetwork portId sid => exact h.removePort ..
  | enablePortSecurity k portId => exact h.setPortSecurity ..
  | disablePortSecurity k portId => exact h.setPortSecurity ..
  | attachFloatingIp | detachFloatingIp =>
    obtain ⟨_, _, hle, hd⟩ := changes
    exact h.of_networks (hd ▸ rfl) (hd ▸ hle)
  | listNetworks | listVolumes | listPublicIps | floatingIpOf | revertSnapshot => exact h
  | attachVolume | detachVolume | getServer | inquireTask | deleteServer | resizeServer
  | resizeRootVolume | powerOff | powerOn | renameServer | joinGroup | leaveGroup =>
    obtain ⟨_, hd⟩ := changes
    exact h.of_networks (hd ▸ rfl) (hd ▸ Nat.le_refl _)

/-- **A lacking port cannot be removed.** -/
theorem not_removed (h : c.Lacks id p) : (c.perform (.detachNetwork p id)).1 ≠ .ok () := by
  have none : ¬ ((serverEntries c.networks).any fun e =>
      e.id = id && e.ips.any (·.portId = p)) = true := by
    intro hany
    obtain ⟨e, he, hheld⟩ := List.any_eq_true.1 hany
    obtain ⟨hid, hports⟩ := Bool.and_eq_true_iff.1 hheld
    obtain ⟨r, hr, hport⟩ := List.any_eq_true.1 hports
    exact h.absent e he (of_decide_eq_true hid) r hr (of_decide_eq_true hport)
  rw [Cloud.perform, Cloud.removePort, if_neg none]
  simp

end Cloud.Lacks

/-- **Where a port is lacking, no run removes it**, as long as it makes no server. -/
theorem not_givenUp_of_lacks {σ α : Type} {H : Host σ} {w : World σ} {task : Task α}
    {region : Region} {id : InstanceId} {a : NetworkAttachment} (hw : H.steady w.store)
    (hmakes : task.run.Makes fun call => call.part ≠ .serversAndNetworks)
    (h : (H.view w.store).Lacks id a.portId) :
    ¬ GivenUp region id (task.run.trace H.provider w) a := by
  rintro ⟨start, he⟩
  obtain ⟨-, d, hd, ho | ⟨-, error, herror⟩⟩ := Host.trace_carriedOut
    (fun d => d.Lacks id a.portId) hmakes (fun _ _ hcall hd => hd.perform hcall) hw h he
  · exact hd.not_removed ho.symm
  · simp at herror

end Reconciler
