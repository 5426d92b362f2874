import Reconciler.Proofs.Cloud.Built
import Reconciler.Proofs.Cloud.OnRecord

/-!
# The ports of a new server

With a server the cloud makes a port on each network of the order, one after another. They take
consecutive numbers, so that the port for the first mention of a network is known from its place in
the order, and a number tells which network its port is on.

## What is proved

* `Cloud.recordAt_allocatePorts`: the record that a network shows after the ports are made.
* `Cloud.onRecord_allocatePorts`: what is on record then.
-/

namespace Reconciler

namespace Cloud

variable {c d : Cloud} {id k : String} {ks : List String}

/-! ### The record that a network shows -/

/-- The subnet that counts on a network: the first one of the first network with the identifier. -/
def subnet? (c : Cloud) (k : String) : Option Subnet :=
  (c.networks.find? (·.id = k)).bind (·.subnets.head?)

/-- The record of an instance that a network shows. -/
def recordAt (c : Cloud) (id : InstanceId) (k : String) : Option AddressRecord :=
  (c.subnet? k).bind (·.recordOf id)

theorem subnet?_eq {n : Network} {s : Subnet} {rest : List Subnet}
    (hfind : c.networks.find? (·.id = k) = some n) (hsubnets : n.subnets = s :: rest) :
    c.subnet? k = some s := by
  rw [subnet?, hfind, Option.bind_some, hsubnets]
  rfl

/-- A network that shows a record of the instance shows the attachment that goes with it. -/
theorem exists_attachmentOf {r : AddressRecord} (h : c.recordAt id k = some r) :
    ∃ n, c.networks.find? (·.id = k) = some n ∧
      n.attachmentOf id = some (.ofRecord k r.subnetId r) := by
  obtain ⟨s, hs, hr⟩ := Option.bind_eq_some_iff.1 h
  obtain ⟨n, hn, hhead⟩ := Option.bind_eq_some_iff.1 hs
  have hk : n.id = k := key_of_find? hn
  have hsubnet : r.subnetId = s.id := key_of_find? hr
  refine ⟨n, hn, ?_⟩
  rw [hsubnet]
  rw [Network.attachmentOf, hhead, Option.map_some, hr, hk]

end Cloud

theorem Subnet.recordsOf_addRecord_of_nodup {s : Subnet} {id : InstanceId} {record : AddressRecord}
    (h : (s.servers.map (·.id)).Nodup) :
    (s.addRecord id record).recordsOf id = s.recordsOf id ++ [record] := by
  have append (es : List SubnetServer) (nodup : (es.map (·.id)).Nodup)
      (hany : es.any (·.id = id) = true) :
      ((mapFirst (·.id = id) (fun e => { e with ips := e.ips ++ [record] }) es).filter
        (·.id = id)).flatMap (·.ips) = (es.filter (·.id = id)).flatMap (·.ips) ++ [record] := by
    induction es with
    | nil => simp at hany
    | cons e es ih =>
      obtain ⟨he, hes⟩ := List.nodup_cons.1 nodup
      rw [mapFirst]
      by_cases hid : e.id = id
      · have others : es.filter (·.id = id) = [] := by
          refine List.filter_eq_nil_iff.2 fun e' he' hid' => he ?_
          exact List.mem_map.2 ⟨e', he', (of_decide_eq_true hid').trans hid.symm⟩
        simp [hid, others]
      · rw [if_neg (by simpa using hid), List.filter_cons_of_neg (by simpa using hid),
          List.filter_cons_of_neg (by simpa using hid)]
        refine ih hes ?_
        rw [List.any_cons, decide_eq_false hid] at hany
        exact hany
  rw [addRecord]
  split_ifs with hany
  · exact append s.servers h hany
  · have none : s.servers.filter (·.id = id) = [] := List.filter_eq_nil_iff.2 fun e he hid =>
      hany (List.any_eq_true.2 ⟨e, he, hid⟩)
    simp [recordsOf, none]

/-- A record that is added shows if there was none to show. -/
theorem Subnet.recordOf_addRecord {s : Subnet} {id : InstanceId} {record : AddressRecord}
    (h : (s.servers.map (·.id)).Nodup) (hsubnet : record.subnetId = s.id) :
    (s.addRecord id record).recordOf id = (s.recordOf id).or (some record) := by
  have shows : ∀ s' : Subnet, s'.recordOf id = (s'.recordsOf id).find? (·.subnetId = s'.id) :=
    fun _ => rfl
  rw [shows, shows, recordsOf_addRecord_of_nodup h, List.find?_append, id_addRecord]
  simp [hsubnet]

namespace Cloud

variable {c d : Cloud} {id k k' sub' sid' : String} {ks : List String} {r : AddressRecord}

theorem id_subnet?_allocatePort {port : AttachedPort}
    (h : c.allocatePort k id none false = (.ok port, d)) (k' : String) :
    (d.subnet? k').map (·.id) = (c.subnet? k').map (·.id) := by
  have layout : d.networks.map Network.layout = c.networks.map Network.layout := by
    have same := c.allocatePort_layout k id none false
    rwa [h] at same
  have by_layout (c : Cloud) : (c.subnet? k').map (·.id) =
      ((c.networks.map Network.layout).find? (·.1 = k')).bind (·.2.2.head?) := by
    rw [subnet?, List.find?_map, Option.map_bind, Option.bind_map]
    refine congrArg _ (funext fun n => ?_)
    simp [Network.layout]
  rw [by_layout, by_layout, layout]

/-- **What a network shows after a port is made**: the record of that port, if it is on the network
and none showed before. -/
theorem recordAt_allocatePort (orderly : ∀ n ∈ c.networks, n.Orderly) {port : AttachedPort}
    (h : c.allocatePort k id none false = (.ok port, d)) :
    ∃ s, c.subnet? k = some s ∧ ∀ k', d.recordAt id k' =
      if k' = k then (c.recordAt id k).or (some (portRecord (c.counter + 1) none false s.id))
      else c.recordAt id k' := by
  have answered : (c.allocatePort k id none false).1 = .ok port := by rw [h]
  obtain ⟨n, s, rest, hfind, hsubnets⟩ := allocatePort_inv answered
  have hd := allocatePort_eq id none false hfind hsubnets
  rw [h, Prod.mk.injEq] at hd
  obtain ⟨-, rfl⟩ := hd
  let record := portRecord (c.counter + 1) none false s.id
  have hs := subnet?_eq hfind hsubnets
  have hk : n.id = k := key_of_find? hfind
  refine ⟨s, hs, fun k' => ?_⟩
  by_cases hkk : k' = k
  · subst hkk
    have nodup : (s.servers.map (·.id)).Nodup :=
      (orderly n (List.mem_of_find?_eq_some hfind)).entries s (hsubnets ▸ List.mem_cons_self ..)
    have found : (mapFirst (·.id = k') (·.addRecord id record) c.networks).find? (·.id = k') =
        some (n.addRecord id record) := find?_mapFirst hfind (by simp [hk])
    have subnets : (n.addRecord id record).subnets = s.addRecord id record :: rest := by
      rw [Network.addRecord, hsubnets]
    have changed : subnet? { c with
        counter := c.counter + 1
        networks := mapFirst (·.id = k') (·.addRecord id record) c.networks } k' =
          some (s.addRecord id record) := subnet?_eq found subnets
    rw [if_pos rfl, recordAt, recordAt, changed, hs]
    exact Subnet.recordOf_addRecord nodup rfl
  · have found : (mapFirst (·.id = k) (·.addRecord id record) c.networks).find? (·.id = k') =
        c.networks.find? (·.id = k') := by
      refine find?_mapFirst_of_ne (fun m hm => ?_) fun m hm => ?_
      · have hmk : m.id = k := of_decide_eq_true hm
        simpa [hmk] using Ne.symm hkk
      · have hmk : m.id = k := of_decide_eq_true hm
        simpa [hmk] using Ne.symm hkk
    rw [if_neg hkk]
    exact congrArg (fun n? : Option Network =>
      (n?.bind (·.subnets.head?)).bind (·.recordOf id)) found

/-- **What networks show after ports are made** one after another: where nothing showed before, the
record of the port for the first mention of the network. -/
theorem recordAt_allocatePorts (orderly : ∀ n ∈ c.networks, n.Orderly)
    (h : c.allocatePorts id ks = (.ok (), d)) (k : String) :
    d.recordAt id k = (c.recordAt id k).or
      (if k ∈ ks then (c.subnet? k).map fun s =>
        portRecord (c.counter + 1 + ks.idxOf k) none false s.id else none) := by
  induction ks generalizing c with
  | nil =>
    rw [allocatePorts, Prod.mk.injEq] at h
    simp [← h.2]
  | cons j ks ih =>
    rw [allocatePorts] at h
    rcases hj : c.allocatePort j id none false with ⟨_ | port, c₁⟩
    all_goals rw [hj] at h
    · simp at h
    · have orderly₁ := allocatePort_orderly orderly j id none false
      have grows : c₁.counter = c.counter + 1 := by
        have answered : (c.allocatePort j id none false).1 = .ok port := by rw [hj]
        obtain ⟨n, s, rest, hfind, hsubnets⟩ := allocatePort_inv answered
        have same := allocatePort_eq id none false hfind hsubnets
        rw [hj, Prod.mk.injEq] at same
        rw [same.2]
      rw [hj] at orderly₁
      obtain ⟨s, hs, first⟩ := recordAt_allocatePort orderly hj
      have ids := id_subnet?_allocatePort hj k
      -- The number of a later port is one less when it is counted from after the first.
      have later : (c₁.subnet? k).map (fun s =>
          portRecord (c₁.counter + 1 + ks.idxOf k) none false s.id) =
            (c.subnet? k).map fun s => portRecord (c.counter + 2 + ks.idxOf k) none false s.id := by
        have by_id (o : Option Subnet) (N : Nat) :
            o.map (fun s => portRecord N none false s.id) =
              (o.map (·.id)).map (portRecord N none false) := by
          rw [Option.map_map]
          rfl
        rw [by_id, by_id, ids, grows]
      rw [ih orderly₁ h, first, later]
      by_cases hk : k = j
      · subst hk
        simp [hs]
      · have index : (j :: ks).idxOf k = ks.idxOf k + 1 := List.idxOf_cons_ne ks (Ne.symm hk)
        have number : c.counter + 1 + (ks.idxOf k + 1) = c.counter + 2 + ks.idxOf k := by omega
        rw [if_neg hk, index, number]
        simp [hk]

theorem exists_subnet_of_allocatePorts (h : c.allocatePorts id ks = (.ok (), d)) (hk : k ∈ ks) :
    ∃ s, c.subnet? k = some s := by
  induction ks generalizing c with
  | nil => exact absurd hk List.not_mem_nil
  | cons j ks ih =>
    rw [allocatePorts] at h
    rcases hj : c.allocatePort j id none false with ⟨_ | port, c₁⟩
    all_goals rw [hj] at h
    · simp at h
    · have answered : (c.allocatePort j id none false).1 = .ok port := by rw [hj]
      obtain ⟨n, s, rest, hfind, hsubnets⟩ := allocatePort_inv answered
      rcases List.mem_cons.1 hk with rfl | hk
      · exact ⟨s, subnet?_eq hfind hsubnets⟩
      · obtain ⟨s', hs'⟩ := ih h hk
        have ids := id_subnet?_allocatePort hj k
        rw [hs', Option.map_some, eq_comm, Option.map_eq_some_iff] at ids
        obtain ⟨s, hs, -⟩ := ids
        exact ⟨s, hs⟩

/-- **What is on record after ports are made** was on record before, or it is on the network whose
place in the order its port has the number of. -/
theorem onRecord_allocatePorts (h : c.allocatePorts id ks = (.ok (), d))
    (hr : d.OnRecord k' sub' sid' r) :
    c.OnRecord k' sub' sid' r ∨
      ∃ i, ks[i]? = some k' ∧ r.portId = "port-" ++ toString (c.counter + 1 + i) := by
  induction ks generalizing c with
  | nil =>
    rw [allocatePorts, Prod.mk.injEq] at h
    exact .inl (h.2 ▸ hr)
  | cons j ks ih =>
    rw [allocatePorts] at h
    rcases hj : c.allocatePort j id none false with ⟨_ | port, c₁⟩
    all_goals rw [hj] at h
    · simp at h
    · have answered : (c.allocatePort j id none false).1 = .ok port := by rw [hj]
      obtain ⟨n, s, rest, hfind, hsubnets⟩ := allocatePort_inv answered
      have made := allocatePort_eq id none false hfind hsubnets
      rw [hj, Prod.mk.injEq] at made
      have grows : c₁.counter = c.counter + 1 := by rw [made.2]
      rcases ih h with old | ⟨i, hi, hport⟩
      · have before : (c.allocatePort j id none false).2.OnRecord k' sub' sid' r := by
          rw [hj]
          exact old
        rcases (onRecord_allocatePort hfind hsubnets).1 before with old | ⟨⟨rfl, -⟩, -, rfl⟩
        · exact .inl old
        · exact .inr ⟨0, rfl, rfl⟩
      · refine .inr ⟨i + 1, hi, ?_⟩
        rw [hport, grows]
        congr 2
        omega

end Cloud

end Reconciler
