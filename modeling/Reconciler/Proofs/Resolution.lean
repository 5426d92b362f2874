import Reconciler.Proofs.Cloud.Records
import Reconciler.Proofs.MergedAttachments

/-!
# What is resolved from a listing

A listing may hold two networks under one identifier, several entries of one instance on a subnet,
and records that have outlived the subnet they were made on. What is resolved for an instance is
determined all the same: an identifier stands for the first network listed under it, and on the first
subnet of that network the first record counts that stands under the instance and belongs to the
subnet. Nothing else in the listing matters.

## What is proved

* `Subnet.recordOf_eq_some_iff`, `Subnet.recordOf_eq_none_iff`: the record that counts on a subnet.
* `find?_attachmentsOn`, `find?_resolveById`: what is found under an identifier.
* `SameTo.attachmentOf_eq`, `resolveById_of_sameTo`: listings that are the same to an instance show
  it the same.
* `resolveById_exact`: what is resolved, and what it depends on.
-/

namespace Reconciler

/-! ### What counts in a listing -/

/-- **The network that an identifier stands for**: the first one that is listed under it. -/
def FirstListed (networks : List Network) (k : String) (n : Network) : Prop :=
  n.id = k ∧ ∃ before after, networks = before ++ n :: after ∧ ∀ m ∈ before, m.id ≠ k

namespace Subnet

/-- **The record that counts** for an instance on a subnet: the first, entry by entry, that stands
under the instance and belongs to the subnet. -/
def FirstRecord (s : Subnet) (id : InstanceId) (r : AddressRecord) : Prop :=
  ∃ before e after earlier later, s.servers = before ++ e :: after ∧
    e.ips = earlier ++ r :: later ∧ e.id = id ∧ r.subnetId = s.id ∧
    (∀ r' ∈ earlier, r'.subnetId ≠ s.id) ∧
    ∀ e' ∈ before, e'.id = id → ∀ r' ∈ e'.ips, r'.subnetId ≠ s.id

/-- No record counts: none that stands under the instance belongs to the subnet. -/
def NoRecord (s : Subnet) (id : InstanceId) : Prop :=
  ∀ e ∈ s.servers, e.id = id → ∀ r ∈ e.ips, r.subnetId ≠ s.id

end Subnet

section

variable {networks : List Network} {n : Network} {s : Subnet} {id : InstanceId} {k : String}
  {r : AddressRecord} {a : NetworkAttachment}

theorem find?_eq_some_iff_firstListed :
    networks.find? (·.id = k) = some n ↔ FirstListed networks k n := by
  rw [List.find?_eq_some_iff_append, FirstListed]
  simp

/-- The record is looked for entry by entry. -/
theorem Subnet.recordOf_eq_findSome? (s : Subnet) (id : InstanceId) :
    s.recordOf id = s.servers.findSome? fun e =>
      if e.id = id then e.ips.find? (·.subnetId = s.id) else none := by
  rw [recordOf, List.find?_flatMap]
  induction s.servers with
  | nil => rfl
  | cons e es ih =>
    by_cases he : e.id = id
    · rw [List.filter_cons_of_pos (by simpa using he), List.findSome?_cons, List.findSome?_cons,
        if_pos he, ih]
    · rw [List.filter_cons_of_neg (by simpa using he), List.findSome?_cons, if_neg he, ih]

theorem Subnet.recordOf_eq_some_iff : s.recordOf id = some r ↔ s.FirstRecord id r := by
  have absent (e : SubnetServer) :
      (if e.id = id then e.ips.find? (·.subnetId = s.id) else none) = none ↔
        (e.id = id → ∀ r' ∈ e.ips, r'.subnetId ≠ s.id) := by
    split_ifs with he <;> simp [he]
  rw [recordOf_eq_findSome?, List.findSome?_eq_some_iff]
  simp only [absent]
  constructor
  · rintro ⟨before, e, after, hservers, hr, hbefore⟩
    split_ifs at hr with he
    obtain ⟨hsubnet, earlier, later, hips, hearlier⟩ := List.find?_eq_some_iff_append.1 hr
    exact ⟨before, e, after, earlier, later, hservers, hips, he, of_decide_eq_true hsubnet,
      by simpa using hearlier, hbefore⟩
  · rintro ⟨before, e, after, earlier, later, hservers, hips, he, hsubnet, hearlier, hbefore⟩
    refine ⟨before, e, after, hservers, ?_, hbefore⟩
    rw [if_pos he]
    exact List.find?_eq_some_iff_append.2
      ⟨decide_eq_true hsubnet, earlier, later, hips, by simpa using hearlier⟩

theorem Subnet.recordOf_eq_none_iff : s.recordOf id = none ↔ s.NoRecord id := by
  rw [recordOf_eq_findSome?, List.findSome?_eq_none_iff]
  refine forall₂_congr fun e _ => ?_
  split_ifs with he <;> simp [he]

/-- **The attachment to a network** is known from the record that counts on its first subnet. -/
theorem Network.attachmentOf_eq_some_iff : n.attachmentOf id = some a ↔
    ∃ s rest, n.subnets = s :: rest ∧ ((∃ r, s.FirstRecord id r ∧ a = .ofRecord n.id s.id r) ∨
      s.NoRecord id ∧ a = .unattached n.id) := by
  rw [attachmentOf]
  cases hsubnets : n.subnets with
  | nil => simp
  | cons s rest =>
    rw [List.head?_cons, Option.map_some, Option.some.injEq]
    simp only [List.cons.injEq, ← Subnet.recordOf_eq_some_iff, ← Subnet.recordOf_eq_none_iff]
    cases hr : s.recordOf id with
    | none => simp [hr, eq_comm]
    | some r => simp [hr, eq_comm]

theorem Network.isSome_attachmentOf : (n.attachmentOf id).isSome = true ↔ n.subnets ≠ [] := by
  rw [attachmentOf, Option.isSome_map]
  cases n.subnets <;> simp

end

/-! ### What is found under an identifier -/

theorem filed_attachmentsOn (networks : List Network) (id : InstanceId) :
    Filed (attachmentsOn networks id) :=
  filed_ofList _

theorem networkId_of_attachmentOf {n : Network} {id : InstanceId} {a : NetworkAttachment}
    (h : n.attachmentOf id = some a) : a.networkId = n.id := by
  rw [Network.attachmentOf, Option.map_eq_some_iff] at h
  obtain ⟨s, -, rfl⟩ := h
  cases s.recordOf id <;> rfl

/-- Of networks that show the same under the same identifier each shows its own attachment. -/
theorem find?_attachmentsOn {networks : List Network} {id : InstanceId}
    (same : ∀ n ∈ networks, ∀ m ∈ networks, n.id = m.id → n.attachmentOf id = m.attachmentOf id)
    {k : String} {a : NetworkAttachment} :
    (attachmentsOn networks id).find? k = some a ↔
      ∃ n ∈ networks, n.id = k ∧ n.attachmentOf id = some a := by
  have agree : ∀ e ∈ (networks.filterMap (·.attachmentOf id)).map (fun a => (a.networkId, a)),
      ∀ e' ∈ (networks.filterMap (·.attachmentOf id)).map (fun a => (a.networkId, a)),
        e.1 = e'.1 → e.2 = e'.2 := by
    intro e he e' he' hk
    obtain ⟨b, hb, rfl⟩ := List.mem_map.1 he
    obtain ⟨b', hb', rfl⟩ := List.mem_map.1 he'
    obtain ⟨n, hn, hnb⟩ := List.mem_filterMap.1 hb
    obtain ⟨m, hm, hmb⟩ := List.mem_filterMap.1 hb'
    have ids : n.id = m.id := by
      rw [← networkId_of_attachmentOf hnb, ← networkId_of_attachmentOf hmb]
      exact hk
    rw [same n hn m hm ids, hmb] at hnb
    exact (Option.some.inj hnb).symm
  rw [attachmentsOn, IdMap.find?_ofList_eq_some_iff agree]
  simp only [List.mem_map, List.mem_filterMap, Prod.mk.injEq]
  constructor
  · rintro ⟨b, ⟨n, hn, hb⟩, rfl, rfl⟩
    exact ⟨n, hn, (networkId_of_attachmentOf hb).symm, hb⟩
  · rintro ⟨n, hn, rfl, ha⟩
    exact ⟨a, ⟨n, hn, ha⟩, networkId_of_attachmentOf ha, rfl⟩

/-- Networks with different identifiers show the same under the same identifier. -/
theorem attachmentOf_eq_of_nodup {networks : List Network} (nodup : (networks.map (·.id)).Nodup)
    (id : InstanceId) :
    ∀ n ∈ networks, ∀ m ∈ networks, n.id = m.id → n.attachmentOf id = m.attachmentOf id :=
  fun _ hn _ hm ids => congrArg (·.attachmentOf id) (List.inj_on_of_nodup_map nodup hn hm ids)

/-- What is resolved for a network that is asked for is the attachment of the first one listed under
its identifier. -/
theorem find?_resolveById {networks : List Network} {ks : List String} {id : InstanceId}
    {k : String} {a : NetworkAttachment} :
    (resolveById networks ks id).find? k = some a ↔
      k ∈ ks ∧ ∃ n, networks.find? (·.id = k) = some n ∧ n.attachmentOf id = some a := by
  have found {n : Network} (hn : n ∈ ks.filterMap fun k => networks.find? (·.id = k)) :
      n.id ∈ ks ∧ networks.find? (·.id = n.id) = some n := by
    obtain ⟨j, hj, hn⟩ := List.mem_filterMap.1 hn
    obtain rfl : n.id = j := key_of_find? hn
    exact ⟨hj, hn⟩
  have same : ∀ n ∈ ks.filterMap (fun k => networks.find? (·.id = k)),
      ∀ m ∈ ks.filterMap (fun k => networks.find? (·.id = k)),
        n.id = m.id → n.attachmentOf id = m.attachmentOf id := by
    intro n hn m hm ids
    have listed := (found hn).2
    rw [ids, (found hm).2, Option.some.injEq] at listed
    rw [listed]
  rw [resolveById, find?_attachmentsOn same]
  constructor
  · rintro ⟨n, hn, rfl, ha⟩
    exact ⟨(found hn).1, n, (found hn).2, ha⟩
  · rintro ⟨hk, n, hn, ha⟩
    exact ⟨n, List.mem_filterMap.2 ⟨k, hk, hn⟩, key_of_find? hn, ha⟩

theorem contains_resolveById {networks : List Network} {ks : List String} {id : InstanceId}
    {k : String} : (resolveById networks ks id).contains k = true ↔
      k ∈ ks ∧ ∃ n, FirstListed networks k n ∧ n.subnets ≠ [] := by
  rw [IdMap.contains, Option.isSome_iff_exists]
  simp only [find?_resolveById, find?_eq_some_iff_firstListed]
  constructor
  · rintro ⟨a, hk, n, hn, ha⟩
    exact ⟨hk, n, hn, Network.isSome_attachmentOf.1 (Option.isSome_iff_exists.2 ⟨a, ha⟩)⟩
  · rintro ⟨hk, n, hn, hsubnets⟩
    obtain ⟨a, ha⟩ := Option.isSome_iff_exists.1 (Network.isSome_attachmentOf.2 hsubnets)
    exact ⟨a, hk, n, hn, ha⟩

/-! ### What does not matter -/

/-- **The entries are the same but for those of other instances**: such entries may have been put
in, taken out, moved or altered, in any number. -/
inductive SameEntries (id : InstanceId) : List SubnetServer → List SubnetServer → Prop where
  /-- Without entries there is nothing to differ in. -/
  | nil : SameEntries id [] []
  /-- An entry stays as it is, whose ever it is. -/
  | kept {es es' : List SubnetServer} (e : SubnetServer) : SameEntries id es es' →
      SameEntries id (e :: es) (e :: es')
  /-- An entry of another instance is taken out. -/
  | takenOut {es es' : List SubnetServer} {e : SubnetServer} : e.id ≠ id → SameEntries id es es' →
      SameEntries id (e :: es) es'
  /-- An entry of another instance is put in. -/
  | putIn {es es' : List SubnetServer} {e : SubnetServer} : e.id ≠ id → SameEntries id es es' →
      SameEntries id es (e :: es')

/-- **The networks are the same to an instance**: they have one identifier, and their first subnets
are the same but for the entries of other instances. All that comes after the first subnet may
differ. -/
structure SameTo (id : InstanceId) (n n' : Network) : Prop where
  /-- They have one identifier. -/
  ids : n.id = n'.id
  /-- Both have no subnet, or first subnets with one identifier and the same entries. -/
  first : n.subnets = [] ∧ n'.subnets = [] ∨
    ∃ s rest s' rest', n.subnets = s :: rest ∧ n'.subnets = s' :: rest' ∧ s.id = s'.id ∧
      SameEntries id s.servers s'.servers

section

variable {id : InstanceId} {es es' : List SubnetServer} {n n' : Network}
  {networks networks' : List Network}

theorem SameEntries.filter_eq (h : SameEntries id es es') :
    es.filter (·.id = id) = es'.filter (·.id = id) := by
  induction h with
  | nil => rfl
  | kept e _ ih => rw [List.filter_cons, List.filter_cons, ih]
  | takenOut he _ ih => rw [List.filter_cons_of_neg (by simpa using he), ih]
  | putIn he _ ih => rw [List.filter_cons_of_neg (by simpa using he), ih]

/-- What stands before the entries may be the same, whose ever it is. -/
theorem SameEntries.append_left (before : List SubnetServer) (h : SameEntries id es es') :
    SameEntries id (before ++ es) (before ++ es') := by
  induction before with
  | nil => exact h
  | cons e before ih => exact .kept e ih

theorem SameEntries.refl (es : List SubnetServer) : SameEntries id es es := by
  have same : SameEntries id (es ++ []) (es ++ []) := SameEntries.append_left es .nil
  rwa [List.append_nil] at same

theorem SameTo.refl (n : Network) : SameTo id n n := by
  refine ⟨rfl, ?_⟩
  cases hsubnets : n.subnets with
  | nil => exact .inl ⟨rfl, rfl⟩
  | cons s rest => exact .inr ⟨s, rest, s, rest, rfl, rfl, rfl, .refl _⟩

/-- **Networks that are the same to an instance** show it the same. -/
theorem SameTo.attachmentOf_eq (h : SameTo id n n') : n.attachmentOf id = n'.attachmentOf id := by
  rcases h.first with ⟨hn, hn'⟩ | ⟨s, rest, s', rest', hn, hn', hs, entries⟩
  · rw [Network.attachmentOf, Network.attachmentOf, hn, hn']
    rfl
  · have record : s.recordOf id = s'.recordOf id := by
      rw [Subnet.recordOf, Subnet.recordOf, entries.filter_eq, hs]
    rw [Network.attachmentOf, Network.attachmentOf, hn, hn', List.head?_cons, List.head?_cons,
      Option.map_some, Option.map_some, record, h.ids, hs]

/-- Listings that differ in nothing that matters have the same to show under each identifier. -/
theorem attachmentOf_find?_of_sameTo (h : List.Forall₂ (SameTo id) networks networks')
    (k : String) : (networks.find? (·.id = k)).map (·.attachmentOf id) =
      (networks'.find? (·.id = k)).map (·.attachmentOf id) := by
  induction h with
  | nil => rfl
  | @cons n n' _ _ same _ ih =>
    rw [List.find?_cons, List.find?_cons, same.ids]
    cases decide (n'.id = k) with
    | true => exact congrArg some same.attachmentOf_eq
    | false => exact ih

/-- **What does not matter** in a listing changes nothing in what is resolved. -/
theorem resolveById_of_sameTo (h : List.Forall₂ (SameTo id) networks networks')
    (ks : List String) : resolveById networks' ks id = resolveById networks ks id := by
  refine IdMap.ext fun k => Option.ext fun a => ?_
  rw [find?_resolveById, find?_resolveById, ← Option.map_eq_some_iff, ← Option.map_eq_some_iff,
    attachmentOf_find?_of_sameTo h]

end

/-! ### What is resolved -/

/-- **What is resolved** for an instance and some networks of a listing. -/
structure ResolvedFrom (networks : List Network) (ks : List String) (id : InstanceId)
    (found : IdMap NetworkAttachment) : Prop where
  /-- Something is found for the networks that are asked for, are listed, and have a subnet. -/
  keys (k : String) : found.contains k = true ↔
    k ∈ ks ∧ ∃ n, FirstListed networks k n ∧ n.subnets ≠ []
  /-- What is found is the attachment with the data of the record that counts on the first subnet,
  or the unattached one if none does. -/
  attachment (k : String) (a : NetworkAttachment) : found.find? k = some a →
    ∃ n s rest, FirstListed networks k n ∧ n.subnets = s :: rest ∧
      ((∃ r, s.FirstRecord id r ∧ a = .ofRecord k s.id r) ∨ s.NoRecord id ∧ a = .unattached k)

/-- **What is resolved is determined**, whatever the listing holds: by the first network under each
identifier, its first subnet, and the records of the instance on that. The order in which networks
are asked for does not matter, nor how often; and neither does what the listing holds of other
instances or after the first subnets. -/
theorem resolveById_exact (networks : List Network) (ks : List String) (id : InstanceId) :
    ResolvedFrom networks ks id (resolveById networks ks id) ∧
      (∀ ks', (∀ k, k ∈ ks' ↔ k ∈ ks) → resolveById networks ks' id = resolveById networks ks id) ∧
      ∀ networks', List.Forall₂ (SameTo id) networks networks' →
        resolveById networks' ks id = resolveById networks ks id := by
  refine ⟨⟨fun k => contains_resolveById, fun k a ha => ?_⟩, fun ks' mem => ?_,
    fun networks' same => ?_⟩
  · obtain ⟨-, n, hn, hattachment⟩ := find?_resolveById.1 ha
    obtain rfl : n.id = k := key_of_find? hn
    obtain ⟨s, rest, hsubnets, shown⟩ := Network.attachmentOf_eq_some_iff.1 hattachment
    exact ⟨n, s, rest, find?_eq_some_iff_firstListed.1 hn, hsubnets, shown⟩
  · refine IdMap.ext fun k => Option.ext fun a => ?_
    rw [find?_resolveById, find?_resolveById, mem]
  · exact resolveById_of_sameTo same ks

-- A record that has outlived its subnet is passed over, and so is a second network with that
-- identifier.
example :
    let entries : List SubnetServer :=
      [{ id := "vm", ips := [{ portId := "p0", subnetId := "sub-old" }] },
        { id := "vm", ips := [{ portId := "p1", subnetId := "sub-a" }] }]
    let first : Network := { id := "net-a", subnets := [{ id := "sub-a", servers := entries }] }
    let second : Network := { id := "net-a" }
    (resolveById [first, second] ["net-a", "net-a"] "vm").values.map (·.portId) = ["p1"] := by
  decide

end Reconciler
