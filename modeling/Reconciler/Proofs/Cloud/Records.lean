import Reconciler.Cloud.Calls
import Reconciler.NetworkGraph
import Mathlib.Tactic.Common

/-!
# The address records of an instance

What a network has on record for an instance, over all its subnets, and how a new port and the
removal of one change it. A network that carries one port of an instance, on its first subnet, shows
exactly that port to whoever resolves the attachments of the instance.

## What is proved

* `Network.Carries.dropPort`, `Network.Carries.addRecord`: what a network carries after a change.
* `Network.Carries.attachmentOf`: the attachment that a port shows as.
-/

namespace Reconciler

/-! ### The records -/

/-- The address records of an instance on a subnet. -/
def Subnet.recordsOf (s : Subnet) (id : InstanceId) : List AddressRecord :=
  (s.servers.filter (·.id = id)).flatMap (·.ips)

/-- The address records of an instance on a network. -/
def Network.recordsOf (n : Network) (id : InstanceId) : List AddressRecord :=
  n.subnets.flatMap (·.recordsOf id)

/-- **The network carries that port** of the instance, on its first subnet, and nothing else of it;
or nothing of it at all. -/
def Network.Carries (n : Network) (id : InstanceId) : Option String → Prop
  | none => n.recordsOf id = []
  | some portId => ∃ s rest r, n.subnets = s :: rest ∧ s.recordsOf id = [r] ∧
      (∀ s' ∈ rest, s'.recordsOf id = []) ∧ r.subnetId = s.id ∧ r.portId = portId

section

variable {n : Network} {s : Subnet} {id : InstanceId} {portId : String} {record : AddressRecord}

theorem Network.recordsOf_eq_nil_iff : n.recordsOf id = [] ↔ ∀ s ∈ n.subnets, s.recordsOf id = [] :=
  List.flatMap_eq_nil_iff

theorem Network.recordsOf_ne_nil (hs : s ∈ n.subnets) (hr : record ∈ s.recordsOf id) :
    n.recordsOf id ≠ [] :=
  List.ne_nil_of_mem (List.mem_flatMap_of_mem hs hr)

theorem Network.Carries.recordsOf_eq {port? : Option String} (h : n.Carries id port?) :
    (n.recordsOf id).map (·.portId) = port?.toList := by
  cases port? with
  | none =>
    rw [show n.recordsOf id = [] from h]
    rfl
  | some portId =>
    obtain ⟨s, rest, r, hsubnets, hr, hrest, -, rfl⟩ := h
    rw [recordsOf, hsubnets, List.flatMap_cons, hr, List.flatMap_eq_nil_iff.2 hrest]
    rfl

theorem Network.Carries.recordsOf_ne_nil (h : n.Carries id (some portId)) :
    n.recordsOf id ≠ [] := by
  intro hnil
  have records := h.recordsOf_eq
  rw [hnil] at records
  exact absurd records (by simp)

/-- A port is on record in an entry of the instance. -/
theorem Network.Carries.exists_entry (h : n.Carries id (some portId)) :
    ∃ s ∈ n.subnets, ∃ e ∈ s.servers, e.id = id ∧ ∃ r ∈ e.ips, r.portId = portId := by
  obtain ⟨s, rest, r, hsubnets, hr, -, -, hport⟩ := h
  have hmem : r ∈ s.recordsOf id := hr ▸ List.mem_singleton_self r
  obtain ⟨e, he, hre⟩ := List.mem_flatMap.1 hmem
  obtain ⟨hes, hid⟩ := List.mem_filter.1 he
  exact ⟨s, hsubnets ▸ List.mem_cons_self .., e, hes, of_decide_eq_true hid, r, hre, hport⟩

/-- **An instance has an attachment** where the network carries a port of it. -/
theorem Network.Carries.attachmentOf (h : n.Carries id (some portId)) :
    ∃ a, n.attachmentOf id = some a ∧ a.networkId = n.id ∧ a.portId = portId := by
  obtain ⟨s, rest, r, hsubnets, hr, -, hsubnet, rfl⟩ := h
  have hfind : s.recordOf id = some r := by
    show (s.recordsOf id).find? _ = _
    rw [hr, List.find?_cons_of_pos (by simpa using hsubnet)]
  refine ⟨.ofRecord n.id s.id r, ?_, rfl, rfl⟩
  rw [Network.attachmentOf, hsubnets, List.head?_cons, Option.map_some, hfind]

theorem addressesOn_eq (id : InstanceId) (n : Network) :
    Cloud.addressesOn id n =
      (n.recordsOf id).map fun r => { addr := r.ip, isPublic := r.isPublic } := by
  rw [Cloud.addressesOn, Network.recordsOf, List.filter_flatMap, List.flatMap_assoc]
  rfl

/-! ### Taking a port away -/

/-- The entry without the records of a port, if it is the instance's. -/
def SubnetServer.dropPort (portId : String) (id : InstanceId) (e : SubnetServer) : SubnetServer :=
  if e.id = id then { e with ips := e.ips.filter (·.portId ≠ portId) } else e

/-- The subnet without a port of the instance. -/
def Subnet.dropPort (portId : String) (id : InstanceId) (s : Subnet) : Subnet :=
  { s with servers := s.servers.map (·.dropPort portId id) }

/-- The network without a port of the instance. -/
def Network.dropPort (portId : String) (id : InstanceId) (n : Network) : Network :=
  { n with subnets := n.subnets.map (·.dropPort portId id) }

theorem Subnet.recordsOf_dropPort (portId : String) (id : InstanceId) (s : Subnet) :
    (s.dropPort portId id).recordsOf id = (s.recordsOf id).filter (·.portId ≠ portId) := by
  rw [recordsOf, recordsOf]
  show ((s.servers.map (·.dropPort portId id)).filter (·.id = id)).flatMap (·.ips) = _
  induction s.servers with
  | nil => rfl
  | cons e es ih =>
    rw [List.map_cons, SubnetServer.dropPort]
    by_cases he : e.id = id
    · rw [if_pos he, List.filter_cons_of_pos (by simpa using he),
        List.filter_cons_of_pos (by simpa using he), List.flatMap_cons, List.flatMap_cons,
        List.filter_append, ih]
    · rw [if_neg he, List.filter_cons_of_neg (by simpa using he),
        List.filter_cons_of_neg (by simpa using he), ih]

theorem Network.recordsOf_dropPort (portId : String) (id : InstanceId) (n : Network) :
    (n.dropPort portId id).recordsOf id = (n.recordsOf id).filter (·.portId ≠ portId) := by
  rw [recordsOf, recordsOf, dropPort, List.flatMap_map, List.filter_flatMap]
  exact congrArg n.subnets.flatMap (funext fun s => s.recordsOf_dropPort portId id)

/-- **What a network carries** once a port of the instance is taken away. -/
theorem Network.Carries.dropPort {port? : Option String} (h : n.Carries id port?) :
    (n.dropPort portId id).Carries id (port?.filter (· ≠ portId)) := by
  cases port? with
  | none =>
    show (n.dropPort portId id).recordsOf id = []
    rw [Network.recordsOf_dropPort, show n.recordsOf id = [] from h]
    rfl
  | some q =>
    by_cases hq : q = portId
    · rw [Option.filter_some, if_neg (by simpa using hq)]
      show (n.dropPort portId id).recordsOf id = []
      rw [Network.recordsOf_dropPort, List.filter_eq_nil_iff]
      intro r hr
      have hmem : r.portId ∈ (some q).toList := h.recordsOf_eq ▸ List.mem_map_of_mem hr
      simp only [Option.toList_some, List.mem_singleton] at hmem
      simpa [hmem] using hq
    · obtain ⟨s, rest, r, hsubnets, hr, hrest, hsubnet, rfl⟩ := h
      rw [Option.filter_some, if_pos (by simpa using hq)]
      refine ⟨s.dropPort portId id, rest.map (·.dropPort portId id), r, ?_, ?_, ?_, hsubnet, rfl⟩
      · rw [Network.dropPort, hsubnets, List.map_cons]
      · rw [Subnet.recordsOf_dropPort, hr, List.filter_cons_of_pos (by simpa using hq)]
        rfl
      · intro s' hs'
        obtain ⟨s'', hs'', rfl⟩ := List.mem_map.1 hs'
        rw [Subnet.recordsOf_dropPort, hrest s'' hs'']
        rfl

/-! ### Adding a port -/

/-- Of the entries of an instance, all of them empty, the first is given a record. -/
theorem flatMap_ips_mapFirst {es : List SubnetServer} (empty : ∀ e ∈ es, e.id = id → e.ips = [])
    (hany : es.any (·.id = id) = true) :
    ((mapFirst (·.id = id) (fun e => { e with ips := e.ips ++ [record] }) es).filter
      (·.id = id)).flatMap (·.ips) = [record] := by
  induction es with
  | nil => simp at hany
  | cons e es ih =>
    rw [mapFirst]
    have tail := fun e' he' => empty e' (List.mem_cons_of_mem _ he')
    by_cases he : e.id = id
    · have rest : (es.filter (·.id = id)).flatMap (·.ips) = [] :=
        List.flatMap_eq_nil_iff.2 fun e' he' =>
          tail e' (List.mem_filter.1 he').1 (of_decide_eq_true (List.mem_filter.1 he').2)
      rw [if_pos (decide_eq_true he), List.filter_cons_of_pos (by simpa using he),
        List.flatMap_cons, rest, empty e (List.mem_cons_self ..) he]
      rfl
    · rw [if_neg (by simpa using he), List.filter_cons_of_neg (by simpa using he)]
      refine ih tail ?_
      rw [List.any_cons, decide_eq_false he] at hany
      exact hany

/-- An instance without a record on a subnet has just the one that is added. -/
theorem Subnet.recordsOf_addRecord (h : s.recordsOf id = []) :
    (s.addRecord id record).recordsOf id = [record] := by
  rw [recordsOf, List.flatMap_eq_nil_iff] at h
  have empty : ∀ e ∈ s.servers, e.id = id → e.ips = [] := fun e he hid =>
    h e (List.mem_filter.2 ⟨he, decide_eq_true hid⟩)
  rw [addRecord]
  split_ifs with hany
  · exact flatMap_ips_mapFirst empty hany
  · have none : s.servers.filter (·.id = id) = [] := List.filter_eq_nil_iff.2 fun e he hid =>
      hany (List.any_eq_true.2 ⟨e, he, hid⟩)
    rw [recordsOf, List.filter_append, none, List.nil_append]
    simp

/-- **What a network carries** once a port of the instance is added on its first subnet. -/
theorem Network.Carries.addRecord {rest : List Subnet} (h : n.Carries id none)
    (hsubnets : n.subnets = s :: rest) (hrecord : record.subnetId = s.id) :
    (n.addRecord id record).Carries id (some record.portId) := by
  rw [Carries, recordsOf_eq_nil_iff, hsubnets] at h
  refine ⟨s.addRecord id record, rest, record, ?_, ?_, ?_, ?_, rfl⟩
  · rw [Network.addRecord, hsubnets]
  · exact Subnet.recordsOf_addRecord (h s (List.mem_cons_self ..))
  · exact fun s' hs' => h s' (List.mem_cons_of_mem _ hs')
  · rw [hrecord, Subnet.addRecord]
    split_ifs <;> rfl

end

end Reconciler
