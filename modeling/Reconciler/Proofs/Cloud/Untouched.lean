import Reconciler.Proofs.Cloud.Built
import Reconciler.Proofs.Cloud.Obscured
import Reconciler.Proofs.Cloud.OnRecord
import Reconciler.Proofs.Cloud.Ports

/-!
# Calls that leave the cloud untouched

A call that only looks at the cloud, and one that fails, should leave everything in it as it was,
save that a server that is looked at may show the next status of its script. One call does not: the
order for a new instance makes the ports of the instance one by one, and when it comes to a network
on which none can be made, it fails and leaves the ports that it has made.

## What is proved

* `Cloud.perform_whole`: of the calls that fail, all but the order for an instance leave the cloud
  as it was.
* `Cloud.allocatePorts_networks_iff`: an order that fails leaves no port exactly when it fails with
  its first network.
* `Cloud.answer_untouched_iff`: which of the calls that fail or only look leave the cloud untouched.
-/

namespace Reconciler

/-! ### What is left as it was -/

/-- **The servers are as before**, but that one of them may have taken the next status off its
script. -/
def ServersKept (before after : List CloudServer) : Prop :=
  after = before ∨ ∃ earlier s later status script,
    before = earlier ++ s :: later ∧ s.script = status :: script ∧
      after = earlier ++ { s with detail := { s.detail with status }, script } :: later

theorem serversKept_advance (fits : CloudServer → Bool) (servers : List CloudServer) :
    ServersKept servers (mapFirst fits (·.advance) servers) := by
  induction servers with
  | nil => exact .inl rfl
  | cons s servers ih =>
    rw [mapFirst]
    split
    · cases hscript : s.script with
      | nil => exact .inl (by rw [CloudServer.advance, hscript])
      | cons status script =>
        refine .inr ⟨[], s, servers, status, script, rfl, hscript, ?_⟩
        rw [CloudServer.advance, hscript]
        rfl
    · rcases ih with same | ⟨earlier, s', later, status, script, before, hscript, after⟩
      · exact .inl (congrArg (s :: ·) same)
      · refine .inr ⟨s :: earlier, s', later, status, script, ?_, hscript, ?_⟩
        · rw [before, List.cons_append]
        · rw [after, List.cons_append]

/-! ### How many ports there are -/

/-- The ports on record on a subnet. -/
def Subnet.ports (s : Subnet) : List AddressRecord := s.servers.flatMap (·.ips)

/-- The ports on record on a network. -/
def Network.ports (n : Network) : List AddressRecord := n.subnets.flatMap Subnet.ports

/-- The ports on record on networks. -/
def portsOn (networks : List Network) : List AddressRecord := networks.flatMap Network.ports

theorem Subnet.perm_ports_addRecord (s : Subnet) (serverId : String) (record : AddressRecord) :
    (s.addRecord serverId record).ports.Perm (record :: s.ports) := by
  rw [addRecord]
  split
  · rename_i present
    obtain ⟨e, he⟩ := Option.isSome_iff_exists.1
      ((List.find?_isSome (p := fun e : SubnetServer => decide (e.id = serverId))).2
        (List.any_eq_true.1 present))
    exact perm_flatMap_mapFirst he List.perm_append_comm
  · simp only [ports, List.flatMap_append, List.flatMap_singleton]
    exact List.perm_append_comm

theorem Network.perm_ports_addRecord {n : Network} {s : Subnet} {rest : List Subnet}
    (h : n.subnets = s :: rest) (serverId : String) (record : AddressRecord) :
    (n.addRecord serverId record).ports.Perm (record :: n.ports) := by
  simp only [addRecord, ports, h, List.flatMap_cons]
  exact (s.perm_ports_addRecord serverId record).append_right _

/-- **A record that is added** is one port more. -/
theorem perm_portsOn_addRecord {networks : List Network} {k : String} {n : Network} {s : Subnet}
    {rest : List Subnet} (hfind : networks.find? (·.id = k) = some n)
    (hsubnets : n.subnets = s :: rest) (serverId : String) (record : AddressRecord) :
    (portsOn (mapFirst (·.id = k) (·.addRecord serverId record) networks)).Perm
      (record :: portsOn networks) :=
  perm_flatMap_mapFirst hfind (Network.perm_ports_addRecord hsubnets serverId record)

namespace Cloud

/-- **The cloud is untouched except for the ports** on its networks. -/
structure UntouchedButPorts (c d : Cloud) : Prop where
  /-- The volumes with their attachments. -/
  volumes : d.volumes = c.volumes
  /-- Who holds a public address. -/
  publicIps : d.publicIps = c.publicIps
  /-- What is bound to the ports. -/
  floatingIps : d.floatingIps = c.floatingIps
  /-- The servers. -/
  servers : ServersKept c.servers d.servers

/-- **The cloud is untouched.** -/
structure Untouched (c d : Cloud) : Prop extends UntouchedButPorts c d where
  /-- The networks with their ports. -/
  networks : d.networks = c.networks

variable {α : Type} {c d : Cloud}

/-- At most a status is taken off a script and a number is used up. -/
theorem untouched_of_core {servers : List CloudServer} {counter : Nat}
    (h : d.core = { c.core with servers, counter }) (kept : ServersKept c.servers servers) :
    Untouched c d where
  volumes := (congrArg Cloud.volumes h :)
  publicIps := (congrArg Cloud.publicIps h :)
  floatingIps := (congrArg Cloud.floatingIps h :)
  servers := by
    have same : d.servers = servers := (congrArg Cloud.servers h :)
    rwa [same]
  networks := (congrArg Cloud.networks h :)

theorem untouched_of_counter {counter : Nat} (h : d.core = { c.core with counter }) :
    Untouched c d :=
  untouched_of_core h (.inl rfl)

/-! ### Calls that fail -/

/-- **What fails leaves the cloud whole**: at most a number has been used up. -/
structure Whole (c : Cloud) (r : Answered α) : Prop where
  /-- The cloud after a failure. -/
  of_error : ∀ e, r.1 = .error e → ∃ counter, r.2 = { c with counter }

theorem whole_refusal (c : Cloud) (r : Except RemoteError α) : Whole c (r, c) :=
  ⟨fun _ _ => ⟨c.counter, rfl⟩⟩

theorem whole_ok (c d : Cloud) (a : α) : Whole c (.ok a, d) := by
  constructor
  intro e h
  cases h

theorem Whole.ite {P : Prop} [Decidable P] {r r' : Answered α} (h : Whole c r)
    (h' : Whole c r') : Whole c (if P then r else r') := by
  split
  · exact h
  · exact h'

variable (c)

theorem changeServer_whole (id : String) (change : CloudServer → CloudServer) :
    Whole c (c.changeServer id change) := by
  rw [changeServer]
  split
  · exact whole_refusal ..
  · exact whole_ok ..

theorem observe_whole (id : String) : Whole c (c.observe id) := by
  rw [observe]
  split
  · exact whole_refusal ..
  · exact whole_ok ..

theorem allocatePort_whole (networkId serverId : String) (ip : Option String)
    (portSecurity : Bool) : Whole c (c.allocatePort networkId serverId ip portSecurity) := by
  rw [allocatePort]
  split
  · exact ⟨fun _ _ => ⟨c.counter + 1, rfl⟩⟩
  · split
    · exact ⟨fun _ _ => ⟨c.counter + 1, rfl⟩⟩
    · exact whole_ok ..

/-- **A call that fails leaves the cloud whole**, unless it orders an instance. -/
theorem perform_whole {call : Call} (h : ∀ order, call ≠ .createServer order) :
    Whole c (c.perform call) := by
  cases call with
  | createServer order => exact absurd rfl (h order)
  | getServer id => exact c.observe_whole id
  | inquireTask taskId =>
    rw [perform, observeTask]
    split
    · exact whole_refusal ..
    · exact c.observe_whole _
  | deleteServer id =>
    rw [perform, removeServer]
    split
    · exact whole_refusal ..
    · exact whole_ok ..
  | resizeServer id flavorId => exact c.changeServer_whole ..
  | resizeRootVolume id size => exact c.changeServer_whole ..
  | powerOff id => exact c.changeServer_whole ..
  | powerOn id => exact c.changeServer_whole ..
  | renameServer id name => exact c.changeServer_whole ..
  | joinGroup serverId groupId => exact c.changeServer_whole ..
  | leaveGroup serverId groupId => exact c.changeServer_whole ..
  | attachNetwork networkId r => exact c.allocatePort_whole ..
  | detachNetwork portId serverId => exact (whole_ok ..).ite (whole_refusal ..)
  | enablePortSecurity networkId portId => exact (whole_ok ..).ite (whole_refusal ..)
  | disablePortSecurity networkId portId => exact (whole_ok ..).ite (whole_refusal ..)
  | attachVolume serverId volumeId => exact (whole_ok ..).ite (whole_refusal ..)
  | detachVolume serverId volumeId => exact (whole_ok ..).ite (whole_refusal ..)
  | attachFloatingIp floatingIpId r =>
    rw [perform, attachFloatingIp]
    split
    · exact whole_refusal ..
    · exact whole_ok ..
  | detachFloatingIp portId => exact (whole_ok ..).ite (whole_refusal ..)
  | floatingIpOf serverId => exact whole_refusal ..
  | listNetworks | listVolumes | listPublicIps | revertSnapshot _ _ => exact whole_ok ..

/-! ### The order for an instance -/

theorem allocatePort_error {k id : String} {ip : Option String} {portSecurity : Bool}
    {e : RemoteError} (h : c.allocatePort k id ip portSecurity = (.error e, d)) :
    ¬ Attachable c.networks k ∧ d.networks = c.networks := by
  constructor
  · rintro ⟨n, s, rest, hfind, hsubnets⟩
    rw [allocatePort_eq id ip portSecurity hfind hsubnets] at h
    simp at h
  · obtain ⟨counter, hd⟩ := (c.allocatePort_whole k id ip portSecurity).of_error e (by rw [h])
    rw [h] at hd
    rw [show d = _ from hd]

theorem allocatePort_ok {k id : String} {ip : Option String} {portSecurity : Bool}
    {port : AttachedPort} (h : c.allocatePort k id ip portSecurity = (.ok port, d)) :
    Attachable c.networks k ∧ (portsOn d.networks).length = (portsOn c.networks).length + 1 := by
  obtain ⟨n, s, rest, hfind, hsubnets⟩ := allocatePort_inv (c := c) (by rw [h])
  refine ⟨⟨n, s, rest, hfind, hsubnets⟩, ?_⟩
  rw [allocatePort_eq id ip portSecurity hfind hsubnets, Prod.mk.injEq] at h
  rw [← h.2]
  exact (perm_portsOn_addRecord hfind hsubnets ..).length_eq

theorem length_portsOn_le_allocatePorts (serverId : String) (networkIds : List String) :
    (portsOn c.networks).length ≤
      (portsOn (c.allocatePorts serverId networkIds).2.networks).length := by
  induction networkIds generalizing c with
  | nil => exact Nat.le_refl _
  | cons k ks ih =>
    rw [allocatePorts]
    rcases h : c.allocatePort k serverId none false with ⟨e | port, d⟩
    · exact Nat.le_of_eq (congrArg (List.length ∘ portsOn) (c.allocatePort_error h).2.symm)
    · have more := ih d
      have made := (c.allocatePort_ok h).2
      exact Nat.le_trans (by omega) more

/-- **The ports that were made are left** when a port cannot be made: there are none exactly when
none could be made on the first network. -/
theorem allocatePorts_networks_iff {serverId : String} {networkIds : List String} {e : RemoteError}
    (h : (c.allocatePorts serverId networkIds).1 = .error e) :
    (c.allocatePorts serverId networkIds).2.networks = c.networks ↔
      ¬ ∃ k rest, networkIds = k :: rest ∧ Attachable c.networks k := by
  cases networkIds with
  | nil => simp [allocatePorts] at h
  | cons k ks =>
    rw [allocatePorts]
    rcases ha : c.allocatePort k serverId none false with ⟨e | port, d⟩
    · obtain ⟨not_attachable, same⟩ := c.allocatePort_error ha
      refine iff_of_true same ?_
      rintro ⟨k', ks', hk, attachable⟩
      rw [(List.cons.inj hk).1] at not_attachable
      exact not_attachable attachable
    · obtain ⟨attachable, made⟩ := c.allocatePort_ok ha
      refine iff_of_false ?_ (not_not_intro ⟨k, ks, rfl, attachable⟩)
      intro same
      have more := d.length_portsOn_le_allocatePorts serverId ks
      rw [show (d.allocatePorts serverId ks).2.networks = c.networks from same] at more
      omega

/-- **An order leaves ports if it fails**: it is carried out, and a port can be made on its first
network. -/
def LeavesPorts (call : Call) : Prop :=
  ∃ order k rest, call = .createServer order ∧ c.queue Method.createServer.key = [] ∧
    order.networkIds = k :: rest ∧ Attachable c.networks k

/-- An order that fails makes no server, and what is left of it are ports. -/
theorem createServer_untouched_iff {order : CreateServerRequest} {e : RemoteError}
    (h : (c.createServer order).1 = .error e) :
    UntouchedButPorts c (c.createServer order).2 ∧
      ((c.createServer order).2.networks = c.networks ↔
        ¬ ∃ k rest, order.networkIds = k :: rest ∧ Attachable c.networks k) := by
  have ports := allocatePorts_changes { c with counter := c.counter + 1 }
    ("srv-" ++ toString (c.counter + 1)) order.networkIds
  rw [createServer] at h ⊢
  rcases ha : Cloud.allocatePorts { c with counter := c.counter + 1 }
    ("srv-" ++ toString (c.counter + 1)) order.networkIds with ⟨e' | _, d⟩
  · have left := allocatePorts_networks_iff _ (congrArg Prod.fst ha)
    rw [ha] at ports left
    obtain ⟨networks, counter, -, hd⟩ := ports
    refine ⟨⟨?_, ?_, ?_, .inl ?_⟩, left⟩ <;> rw [show d = _ from hd]
  · simp only [ha] at h
    exact absurd h (by simp)

/-! ### All calls -/

theorem observe_untouched (id : String) (h : d.core = (c.core.observe id).2) : Untouched c d := by
  rw [observe] at h
  split at h
  · exact untouched_of_counter h
  · exact untouched_of_core h (serversKept_advance ..)

/-- Calls that only look leave the cloud untouched. -/
theorem perform_untouched {call : Call} (h : call.isMutating = false)
    (hd : d.core = (c.core.perform call).2) : Untouched c d := by
  cases call with
  | getServer id => exact c.observe_untouched id hd
  | inquireTask taskId =>
    rw [perform, observeTask] at hd
    split at hd
    · exact untouched_of_counter hd
    · exact c.observe_untouched _ hd
  | listNetworks | listVolumes | listPublicIps => exact untouched_of_counter hd
  | floatingIpOf serverId => exact untouched_of_counter hd
  | _ => cases h

variable {c}

/-- **Calls that fail or only look leave the cloud untouched**, except for an order that leaves the
ports that it has made when it fails. -/
theorem answer_untouched_iff {call : Call}
    (h : (∃ e, (c.answer call).1 = .error e) ∨ call.isMutating = false) :
    UntouchedButPorts c (c.answer call).2 ∧
      (Untouched c (c.answer call).2 ↔ ¬ c.LeavesPorts call) := by
  have of_untouched (whole : Untouched c (c.answer call).2) (none : ¬ c.LeavesPorts call) :
      UntouchedButPorts c (c.answer call).2 ∧
        (Untouched c (c.answer call).2 ↔ ¬ c.LeavesPorts call) :=
    ⟨whole.toUntouchedButPorts, iff_of_true whole none⟩
  cases hq : c.queue call.method.key with
  | cons e es =>
    apply of_untouched
    · rw [answer_of_queue_cons hq]
      exact untouched_of_counter rfl
    · rintro ⟨order, k, rest, rfl, empty, -⟩
      rw [hq] at empty
      cases empty
  | nil =>
    obtain ⟨outcome, after, -⟩ := answer_of_queue_nil hq
    by_cases looks : call.isMutating = false
    · apply of_untouched
      · exact c.perform_untouched looks after
      · rintro ⟨order, k, rest, rfl, -⟩
        cases looks
    · obtain ⟨e, fails⟩ := h.resolve_right looks
      rw [outcome] at fails
      by_cases ordered : ∃ order, call = .createServer order
      · obtain ⟨order, rfl⟩ := ordered
        obtain ⟨others, left⟩ := createServer_untouched_iff c.core fails
        rw [← show _ = (c.core.createServer order).2 from after] at others left
        have butPorts : UntouchedButPorts c (c.answer (.createServer order)).2 :=
          ⟨others.volumes, others.publicIps, others.floatingIps, others.servers⟩
        refine ⟨butPorts, fun untouched => ?_, fun none => ⟨butPorts, left.2 ?_⟩⟩
        · rintro ⟨order', k, rest, ordered, -, first⟩
          cases ordered
          exact left.1 untouched.networks ⟨k, rest, first⟩
        · rintro ⟨k, rest, first⟩
          exact none ⟨order, k, rest, rfl, hq, first⟩
      · apply of_untouched
        · obtain ⟨counter, same⟩ :=
            (c.core.perform_whole fun order same => ordered ⟨order, same⟩).of_error e fails
          exact untouched_of_counter (after.trans same)
        · rintro ⟨order, k, rest, rfl, -⟩
          exact ordered ⟨order, rfl⟩

/-- An order on two networks, of which the cloud has only the first, fails and leaves a port. -/
theorem answer_untouched_iff_half_served :
    let c := Cloud.addNetwork {} "net-a" "lan-a" "sub-a"
    let call := Call.createServer { name := "web", networkIds := ["net-a", "net-b"] }
    (c.answer call).1 = .error (.notFound "network net-b not found") ∧
      UntouchedButPorts c (c.answer call).2 ∧ ¬ Untouched c (c.answer call).2 := by
  intro c call
  have fails : (c.answer call).1 = .error (.notFound "network net-b not found") := rfl
  obtain ⟨butPorts, untouched_iff⟩ := answer_untouched_iff (.inl ⟨_, fails⟩)
  have leaves : c.LeavesPorts call := by
    refine ⟨_, "net-a", ["net-b"], rfl, rfl, rfl, ?_⟩
    exact ⟨_, _, [], rfl, rfl⟩
  exact ⟨fails, butPorts, fun untouched => untouched_iff.1 untouched leaves⟩

end Cloud

end Reconciler
