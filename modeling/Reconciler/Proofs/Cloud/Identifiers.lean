import Reconciler.Proofs.Cloud.Rehearsal
import Reconciler.Proofs.Cloud.Servers
import Reconciler.Proofs.Cloud.Shown
import Reconciler.Proofs.Cloud.Untouched
import Mathlib.Data.List.Flatten

/-!
# Identifiers that the cloud makes

One counter numbers the servers, the tasks and the ports that a cloud makes, and it never goes back.
So no identifier is made twice, whatever fails on the way and whatever is deleted, as long as nobody
sets up a server or a port under an identifier of the kind that the cloud makes.

The counter is a number without a bound. One of 32 bits counts alike as long as it is moved on fewer
than 2 ^ 32 times.

## What is proved

* `Cloud.Proceeds.setUp`, `Cloud.Proceeds.answer`: a step brings only new identifiers into use.
* `Cloud.Proceeds.after`, `Cloud.proceeds_exec`: so does a rehearsal, and a program that is run on a
  cloud.
* `Cloud.allNew_handedOut`: what a rehearsal hands out is new.
* `Cloud.identifiers_never_reused`: no rehearsal reuses an identifier.
-/

namespace Reconciler

/-! ### Numbers in identifiers -/

/-- The stems of the identifiers that a cloud makes: of servers, of tasks and of ports. -/
def stems : List String := ["srv-", "task-", "port-"]

/-- Identifiers of all kinds are told apart by their numbers. -/
theorem number_inj {stem stem' : String} (h : stem ∈ stems) (h' : stem' ∈ stems) {m n : Nat}
    (same : stem ++ toString m = stem' ++ toString n) : m = n := by
  by_cases hstem : stem = stem'
  · subst hstem
    exact numbered_inj same
  · -- Stems that differ begin with different letters.
    have chars := congrArg String.toList same
    simp only [stems, List.mem_cons, List.not_mem_nil, or_false] at h h'
    rcases h with rfl | rfl | rfl <;> rcases h' with rfl | rfl | rfl <;>
      first | exact absurd rfl hstem | simp [String.toList_append] at chars

/-- The identifier has a number beyond `a` and not beyond `b`. -/
def NumberedWithin (a b : Nat) (id : String) : Prop :=
  ∃ stem ∈ stems, ∃ n, a < n ∧ n ≤ b ∧ id = stem ++ toString n

theorem NumberedWithin.mono {a a' b b' : Nat} {id : String} (h : NumberedWithin a b id)
    (ha : a' ≤ a) (hb : b ≤ b') : NumberedWithin a' b' id := by
  obtain ⟨stem, hstem, n, han, hnb, rfl⟩ := h
  exact ⟨stem, hstem, n, by omega, by omega, rfl⟩

/-- Numbers of two stretches of counting are different. -/
theorem NumberedWithin.ne {a b c d : Nat} {id id' : String} (h : NumberedWithin a b id)
    (h' : NumberedWithin c d id') (hbc : b ≤ c) : id ≠ id' := by
  obtain ⟨stem, hstem, m, -, hmb, rfl⟩ := h
  obtain ⟨stem', hstem', n, hcn, -, rfl⟩ := h'
  intro same
  have := number_inj hstem hstem' same
  omega

/-- **The identifiers are new**: all have numbers beyond `a` and not beyond `b`, and none is there
twice. -/
structure AllNew (a b : Nat) (ids : List String) : Prop where
  /-- They have numbers in between. -/
  within : ∀ id ∈ ids, NumberedWithin a b id
  /-- None is there twice. -/
  nodup : ids.Nodup

namespace AllNew

variable {a b c : Nat} {ids ids' : List String}

theorem nil : AllNew a b [] := ⟨fun _ hid => absurd hid List.not_mem_nil, List.nodup_nil⟩

theorem of_sublist (h : AllNew a b ids) (hs : ids'.Sublist ids) : AllNew a b ids' :=
  ⟨fun id hid => h.within id (hs.subset hid), h.nodup.sublist hs⟩

/-- New identifiers and then newer ones are new. -/
theorem append (h : AllNew a b ids) (h' : AllNew b c ids') (hab : a ≤ b) (hbc : b ≤ c) :
    AllNew a c (ids ++ ids') where
  within id hid := by
    rcases List.mem_append.1 hid with hid | hid
    · exact (h.within id hid).mono (Nat.le_refl _) hbc
    · exact (h'.within id hid).mono hab (Nat.le_refl _)
  nodup := List.nodup_append.2 ⟨h.nodup, h'.nodup, fun id hid id' hid' =>
    (h.within id hid).ne (h'.within id' hid') (Nat.le_refl _)⟩

end AllNew

/-- **Only new numbers come up** from `ids` to `ids'`: an identifier with the stem and a number is
there more often only if the number lies beyond `a` and not beyond `b`, and then once more at
most. -/
def Renumbered (stem : String) (a b : Nat) (ids ids' : List String) : Prop :=
  ∀ n, ids'.count (stem ++ toString n) ≤
    ids.count (stem ++ toString n) + if a < n ∧ n ≤ b then 1 else 0

namespace Renumbered

variable {stem : String} {a b c : Nat} {ids ids' ids'' : List String}

theorem of_sublist (h : ids'.Sublist ids) : Renumbered stem a b ids ids' := fun _ =>
  Nat.le_add_right_of_le (h.count_le _)

theorem of_eq (h : ids' = ids) : Renumbered stem a b ids ids' := .of_sublist (h ▸ .refl _)

/-- One identifier more, which has the next number. -/
theorem of_next (h : ids'.Perm ((stem ++ toString (a + 1)) :: ids)) :
    Renumbered stem a (a + 1) ids ids' := by
  intro n
  rw [h.count_eq, List.count_cons]
  by_cases hn : n = a + 1
  · subst hn
    simp
  · have hne : (stem ++ toString (a + 1) == stem ++ toString n) = false :=
      beq_eq_false_iff_ne.2 fun same => hn (numbered_inj same).symm
    rw [hne]
    simp

/-- One identifier more, which is of another kind. -/
theorem of_other {id : String} (h : ids'.Perm (id :: ids))
    (hid : ∀ n : Nat, id ≠ stem ++ toString n) : Renumbered stem a b ids ids' := by
  intro n
  have hne : (id == stem ++ toString n) = false := beq_eq_false_iff_ne.2 (hid n)
  rw [h.count_eq, List.count_cons, hne]
  simp

theorem trans (h : Renumbered stem a b ids ids') (h' : Renumbered stem b c ids' ids'')
    (hab : a ≤ b) (hbc : b ≤ c) : Renumbered stem a c ids ids'' := by
  intro n
  have first := h n
  have second := h' n
  split_ifs at * <;> omega

end Renumbered

/-- **The identifiers are numbered once**: of those with the stem and a number none has a number
beyond the counter, and none is there twice. -/
structure Numbered (stem : String) (counter : Nat) (ids : List String) : Prop where
  /-- The counter has reached the numbers. -/
  past : ∀ n : Nat, stem ++ toString n ∈ ids → n ≤ counter
  /-- Each number is there once. -/
  once : ∀ n : Nat, ids.count (stem ++ toString n) ≤ 1

/-- Identifiers that came up from nothing are numbered once. -/
theorem Renumbered.numbered {stem : String} {counter : Nat} {ids : List String}
    (h : Renumbered stem 0 counter [] ids) : Numbered stem counter ids where
  past n hn := by
    have bound := h n
    have there : 0 < ids.count (stem ++ toString n) := List.count_pos_iff.2 hn
    rw [List.count_nil] at bound
    split_ifs at bound <;> omega
  once n := by
    have bound := h n
    rw [List.count_nil] at bound
    split_ifs at bound <;> omega

/-- An identifier whose number has been reached does not come up again. -/
theorem Renumbered.mem_of_mem {stem : String} {a b n : Nat} {ids ids' : List String}
    (h : Renumbered stem a b ids ids') (hn : n ≤ a) (hmem : stem ++ toString n ∈ ids') :
    stem ++ toString n ∈ ids := by
  have bound := h n
  rw [if_neg (by omega)] at bound
  exact List.count_pos_iff.1 (Nat.lt_of_lt_of_le (List.count_pos_iff.2 hmem) bound)

/-! ### What a step does to the identifiers in use -/

namespace Cloud

/-- The identifiers of the servers. -/
def serverIds (c : Cloud) : List String := c.servers.map (·.detail.id)

/-- **From one cloud to another** the counter does not go back, and of the identifiers that the
cloud makes only some with new numbers come up, each once. -/
structure Proceeds (c d : Cloud) : Prop where
  /-- The counter does not go back. -/
  counter_le : c.counter ≤ d.counter
  /-- The identifiers of the servers. -/
  servers : Renumbered "srv-" c.counter d.counter c.serverIds d.serverIds
  /-- The identifiers of the ports. -/
  ports : Renumbered "port-" c.counter d.counter c.portIds d.portIds

variable {c d e : Cloud}

namespace Proceeds

theorem trans (h : Proceeds c d) (h' : Proceeds d e) : Proceeds c e where
  counter_le := Nat.le_trans h.counter_le h'.counter_le
  servers := h.servers.trans h'.servers h.counter_le h'.counter_le
  ports := h.ports.trans h'.ports h.counter_le h'.counter_le

theorem of_servers (counter : c.counter ≤ d.counter)
    (servers : Renumbered "srv-" c.counter d.counter c.serverIds d.serverIds)
    (networks : d.networks = c.networks) : Proceeds c d where
  counter_le := counter
  servers := servers
  ports := .of_eq (by rw [portIds, portIds, networks])

theorem of_ports (counter : c.counter ≤ d.counter) (servers : d.servers = c.servers)
    (ports : Renumbered "port-" c.counter d.counter c.portIds d.portIds) : Proceeds c d where
  counter_le := counter
  servers := .of_eq (by rw [serverIds, serverIds, servers])
  ports := ports

theorem of_same (counter : c.counter ≤ d.counter) (servers : d.servers = c.servers)
    (networks : d.networks = c.networks) : Proceeds c d :=
  of_servers counter (.of_eq (by rw [serverIds, serverIds, servers])) networks

end Proceeds

/-! ### The ports -/

theorem portIds_eq (c : Cloud) : c.portIds = (portsOn c.networks).map (·.portId) := by
  simp only [portIds, serverEntries, portsOn, Network.ports, Subnet.ports, List.flatMap_assoc,
    List.map_flatMap]

/-- A record that is added to a network brings the identifier of its port. -/
theorem perm_portIds_addRecord {k : String} {n : Network} {s : Subnet} {rest : List Subnet}
    {counter : Nat} (hfind : c.networks.find? (·.id = k) = some n)
    (hsubnets : n.subnets = s :: rest) (serverId : String) (record : AddressRecord) :
    (portIds { c with
        counter
        networks := mapFirst (·.id = k) (·.addRecord serverId record) c.networks }).Perm
      (record.portId :: c.portIds) := by
  rw [portIds_eq, portIds_eq]
  exact (perm_portsOn_addRecord hfind hsubnets serverId record).map _

/-- Entries that are changed one by one, and get no port, bring no identifier. -/
theorem sublist_portIds_mapServerEntries {change : SubnetServer → SubnetServer}
    (fewer : ∀ e, ((change e).ips.map (·.portId)).Sublist (e.ips.map (·.portId))) :
    (portIds { c with networks := mapServerEntries change c.networks }).Sublist c.portIds := by
  rw [portIds, serverEntries_mapServerEntries, List.flatMap_map]
  exact List.Sublist.flatMap_right _ fun e _ => fewer e

theorem proceeds_allocatePort (c : Cloud) (networkId serverId : String) (ip : Option String)
    (portSecurity : Bool) :
    Proceeds c (c.allocatePort networkId serverId ip portSecurity).2 := by
  by_cases attachable : Attachable c.networks networkId
  · obtain ⟨n, s, rest, hfind, hsubnets⟩ := attachable
    rw [allocatePort_eq serverId ip portSecurity hfind hsubnets]
    exact .of_ports (Nat.le_succ _) rfl
      (.of_next (perm_portIds_addRecord hfind hsubnets serverId _))
  · cases h : (c.allocatePort networkId serverId ip portSecurity).1 with
    | ok port => exact absurd (allocatePort_inv h) attachable
    | error e =>
      obtain ⟨_, _, grows, hd⟩ := c.allocatePort_changes networkId serverId ip portSecurity
      have same := (c.allocatePort_error (Prod.ext h rfl)).2
      exact .of_same (hd ▸ grows) (hd ▸ rfl) same

theorem proceeds_allocatePorts (c : Cloud) (serverId : String) (networkIds : List String) :
    Proceeds c (c.allocatePorts serverId networkIds).2 := by
  induction networkIds generalizing c with
  | nil => exact .of_same (Nat.le_refl _) rfl rfl
  | cons k ks ih =>
    have first := c.proceeds_allocatePort k serverId none false
    rw [allocatePorts]
    rcases h : c.allocatePort k serverId none false with ⟨_ | _, d⟩
    all_goals rw [h] at first
    · exact first
    · exact first.trans (ih d)

theorem proceeds_setPortSecurity (c : Cloud) (portId : String) (enabled : Bool) :
    Proceeds c (c.setPortSecurity portId enabled).2 := by
  rw [setPortSecurity]
  split
  · refine .of_ports (Nat.le_refl _) rfl (.of_sublist (sublist_portIds_mapServerEntries fun e => ?_))
    let secure (r : AddressRecord) : AddressRecord :=
      if r.portId = portId then { r with portSecurity := enabled } else r
    have same (r : AddressRecord) : (secure r).portId = r.portId := by
      show (if r.portId = portId then _ else r).portId = r.portId
      split <;> rfl
    have ids : (e.ips.map secure).map (·.portId) = e.ips.map (·.portId) := by
      rw [List.map_map]
      exact List.map_congr_left fun r _ => same r
    exact ids ▸ .refl _
  · exact .of_same (Nat.le_refl _) rfl rfl

theorem proceeds_removePort (c : Cloud) (portId serverId : String) :
    Proceeds c (c.removePort portId serverId).2 := by
  rw [removePort]
  split
  · refine .of_ports (Nat.le_refl _) rfl (.of_sublist (sublist_portIds_mapServerEntries fun e => ?_))
    split
    · exact List.filter_sublist.map _
    · exact .refl _
  · exact .of_same (Nat.le_refl _) rfl rfl

/-! ### The servers -/

theorem serverIds_mapFirst {fits : CloudServer → Bool} {change : CloudServer → CloudServer}
    (same : ∀ srv, (change srv).detail.id = srv.detail.id) :
    serverIds { c with servers := mapFirst fits change c.servers } = c.serverIds :=
  map_mapFirst same

theorem perm_serverIds_append (c : Cloud) (srv : CloudServer) :
    (serverIds { c with servers := c.servers ++ [srv] }).Perm (srv.detail.id :: c.serverIds) :=
  (List.perm_append_singleton srv c.servers).map _

theorem proceeds_changeServer (c : Cloud) (id : String) {change : CloudServer → CloudServer}
    (same : ∀ srv, (change srv).detail.id = srv.detail.id) :
    Proceeds c (c.changeServer id change).2 := by
  rw [changeServer]
  split
  · exact .of_same (Nat.le_refl _) rfl rfl
  · exact .of_servers (Nat.le_refl _) (.of_eq (serverIds_mapFirst same)) rfl

theorem proceeds_observe (c : Cloud) (id : String) : Proceeds c (c.observe id).2 := by
  rw [observe]
  split
  · exact .of_same (Nat.le_refl _) rfl rfl
  · exact .of_servers (Nat.le_refl _) (.of_eq (serverIds_mapFirst CloudServer.id_advance)) rfl

theorem proceeds_createServer (c : Cloud) (order : CreateServerRequest) :
    Proceeds c (c.createServer order).2 := by
  have counted : Proceeds c { c with counter := c.counter + 1 } :=
    .of_same (Nat.le_succ _) rfl rfl
  have ports := counted.trans (proceeds_allocatePorts { c with counter := c.counter + 1 }
    ("srv-" ++ toString (c.counter + 1)) order.networkIds)
  have grows := (allocatePorts_changes { c with counter := c.counter + 1 }
    ("srv-" ++ toString (c.counter + 1)) order.networkIds).counter_le
  have kept := allocatePorts_servers (c := { c with counter := c.counter + 1 })
    ("srv-" ++ toString (c.counter + 1)) order.networkIds
  rw [createServer]
  rcases h : Cloud.allocatePorts { c with counter := c.counter + 1 }
    ("srv-" ++ toString (c.counter + 1)) order.networkIds with ⟨_ | _, d⟩
  all_goals rw [h] at ports grows kept
  · exact ports
  · -- The server has the number that was taken before those of its ports.
    refine ⟨ports.counter_le, ?_, ports.ports⟩
    have same : d.servers = c.servers := kept
    have before : d.serverIds = c.serverIds := by rw [serverIds, serverIds, same]
    refine (Renumbered.of_next ?_).trans (.of_eq rfl) (Nat.le_succ _) grows
    exact (perm_serverIds_append ..).trans (.of_eq (congrArg (List.cons _) before))

/-! ### All steps -/

/-- **A call** brings only new identifiers, whether it succeeds or not. -/
theorem proceeds_perform (c : Cloud) (call : Call) : Proceeds c (c.perform call).2 := by
  have changes := c.perform_changes call
  cases call with
  | createServer order => exact c.proceeds_createServer order
  | getServer id => exact c.proceeds_observe id
  | inquireTask taskId =>
    rw [perform, observeTask]
    split
    · exact .of_same (Nat.le_refl _) rfl rfl
    · exact c.proceeds_observe _
  | deleteServer id =>
    rw [perform, removeServer]
    split
    · exact .of_same (Nat.le_refl _) rfl rfl
    · exact .of_servers (Nat.le_refl _) (.of_sublist (List.filter_sublist.map _)) rfl
  | resizeServer | resizeRootVolume | powerOff | powerOn | renameServer | joinGroup | leaveGroup =>
    exact c.proceeds_changeServer _ fun _ => rfl
  | attachNetwork networkId r => exact c.proceeds_allocatePort ..
  | detachNetwork portId serverId => exact c.proceeds_removePort ..
  | enablePortSecurity networkId portId => exact c.proceeds_setPortSecurity ..
  | disablePortSecurity networkId portId => exact c.proceeds_setPortSecurity ..
  | attachFloatingIp | detachFloatingIp =>
    obtain ⟨_, _, grows, hd⟩ := changes
    exact .of_same (hd ▸ grows) (hd ▸ rfl) (hd ▸ rfl)
  | attachVolume | detachVolume =>
    obtain ⟨_, hd⟩ := changes
    exact .of_same (hd ▸ Nat.le_refl _) (hd ▸ rfl) (hd ▸ rfl)
  | listNetworks | listVolumes | listPublicIps | floatingIpOf | revertSnapshot =>
    exact .of_same (Nat.le_refl _) rfl rfl

/-- The journal and the failures that are to come have nothing to do with identifiers. -/
theorem proceeds_of_core (h : Proceeds c.core e) (same : d.core = e.core) : Proceeds c d := by
  have counter : d.counter = e.counter := (congrArg Cloud.counter same :)
  have servers : d.servers = e.servers := (congrArg Cloud.servers same :)
  have networks : d.networks = e.networks := (congrArg Cloud.networks same :)
  have last : Proceeds e d := .of_same (Nat.le_of_eq counter.symm) servers networks
  have first : Proceeds c c.core := .of_same (Nat.le_refl _) rfl rfl
  exact first.trans (h.trans last)

/-- A call that is answered brings only new identifiers, also if a failure is queued for it. -/
theorem Proceeds.answer (c : Cloud) (call : Call) : Proceeds c (c.answer call).2 := by
  rcases c.answer_core call with ⟨-, same⟩ | ⟨-, same⟩
  · have core : (c.core.perform call).2.core = (c.core.perform call).2 := by
      rw [perform_core]
      rfl
    exact proceeds_of_core (c.core.proceeds_perform call) (same.trans core.symm)
  · exact proceeds_of_core (e := c.core) (.of_same (Nat.le_refl _) rfl rfl) same

/-- **The identifiers are plain** with which a cloud is set up: not of the kind that the cloud
makes. -/
def Setup.Plain : Setup → Prop
  | .addServer detail => ∀ n : Nat, detail.id ≠ "srv-" ++ toString n
  | .addPort _ _ portId _ _ => ∀ n : Nat, portId ≠ "port-" ++ toString n
  | _ => True

/-- The identifiers are plain with which the step sets the cloud up, if it does. -/
def Step.Plain : Step → Prop
  | .setup s => s.Plain
  | .answer _ => True

/-- **To set a cloud up** with plain identifiers brings no other ones. -/
theorem Proceeds.setUp (c : Cloud) {s : Setup} (plain : s.Plain) : Proceeds c (c.setUp s) := by
  cases s with
  | addNetwork id name subnetId =>
    refine .of_ports (Nat.le_refl _) rfl (.of_eq ?_)
    simp [portIds, serverEntries, Cloud.setUp, Cloud.addNetwork]
  | addNetworkWithoutSubnet id name =>
    refine .of_ports (Nat.le_refl _) rfl (.of_eq ?_)
    simp [portIds, serverEntries, Cloud.setUp, Cloud.addNetworkWithoutSubnet]
  | addServer detail =>
    exact .of_servers (Nat.le_refl _) (.of_other (perm_serverIds_append ..) plain) rfl
  | addPort networkId serverId portId ip portSecurity =>
    rw [Cloud.setUp, addPort?]
    split
    · exact .of_same (Nat.le_refl _) rfl rfl
    · rename_i s first
      obtain ⟨n, hfind, hhead⟩ := Option.bind_eq_some_iff.1 first
      obtain ⟨rest, hsubnets⟩ := List.head?_eq_some_iff.1 hhead
      exact .of_ports (Nat.le_refl _) rfl
        (.of_other (perm_portIds_addRecord hfind hsubnets serverId _) plain)
  | scriptStatuses serverId statuses =>
    exact .of_servers (Nat.le_refl _) (.of_eq (serverIds_mapFirst fun _ => rfl)) rfl
  | addVolume | setPublicIp | bindFloatingIp | setCreationStatuses | setPowerOnStatus
  | hideIdUntilInquiry | failTimes | clearCalls => exact .of_same (Nat.le_refl _) rfl rfl

theorem Proceeds.take (c : Cloud) {s : Step} (plain : s.Plain) : Proceeds c (c.take s) := by
  cases s with
  | setup s => exact .setUp c plain
  | answer call => exact .answer c call

/-- **A rehearsal** brings only new identifiers. -/
theorem Proceeds.after (c : Cloud) {steps : List Step} (plain : ∀ s ∈ steps, s.Plain) :
    Proceeds c (c.after steps) := by
  induction steps generalizing c with
  | nil => exact .of_same (Nat.le_refl _) rfl rfl
  | cons s steps ih =>
    obtain ⟨plain, rest⟩ := List.forall_mem_cons.1 plain
    exact (Proceeds.take c plain).trans (ih (c.take s) rest)

/-- **A program that is run on a cloud** brings only new identifiers. -/
theorem proceeds_exec {α : Type} (q : Program α) (w : World Cloud) :
    Proceeds w.store (q.exec provider w).2.store :=
  (makes_any q).exec (Proceeds w.store) (fun d _ _ call _ h => h.trans (.answer d call))
    (.of_same (Nat.le_refl _) rfl rfl)

/-! ### What is handed out -/

theorem handedOut_error (call : Call) (e : RemoteError) : call.handedOut (.error e) = [] := by
  cases call <;> rfl

/-- An order hands out the task with the next number, and the server unless it is kept back. -/
theorem allNew_createServer (c : Cloud) (order : CreateServerRequest) :
    AllNew c.counter (c.createServer order).2.counter
      ((Call.createServer order).handedOut (c.createServer order).1) := by
  have grows := (allocatePorts_changes { c with counter := c.counter + 1 }
    ("srv-" ++ toString (c.counter + 1)) order.networkIds).counter_le
  rw [createServer]
  rcases h : Cloud.allocatePorts { c with counter := c.counter + 1 }
    ("srv-" ++ toString (c.counter + 1)) order.networkIds with ⟨_ | _, d⟩
  all_goals rw [h] at grows
  · exact .nil
  · have within {stem : String} (hstem : stem ∈ stems) :
        NumberedWithin c.counter d.counter (stem ++ toString (c.counter + 1)) :=
      ⟨stem, hstem, _, Nat.lt_succ_self _, grows, rfl⟩
    have both : AllNew c.counter d.counter
        ["srv-" ++ toString (c.counter + 1), "task-" ++ toString (c.counter + 1)] := by
      refine ⟨?_, by simp⟩
      simp only [List.forall_mem_cons, List.not_mem_nil, false_implies, implies_true, and_true]
      exact ⟨within (by decide), within (by decide)⟩
    refine both.of_sublist ?_
    show (List.filter (· ≠ "") [if d.hidesIdUntilInquiry then "" else _, _]).Sublist _
    cases d.hidesIdUntilInquiry with
    | true =>
      rw [List.filter_cons_of_neg (by simp)]
      exact List.filter_sublist.trans (List.sublist_cons_self _ _)
    | false => exact List.filter_sublist

/-- A call that is carried out hands out new identifiers. -/
theorem allNew_perform (c : Cloud) (call : Call) :
    AllNew c.counter (c.perform call).2.counter (call.handedOut (c.perform call).1) := by
  cases call with
  | createServer order => exact c.allNew_createServer order
  | attachNetwork networkId r =>
    rw [perform]
    by_cases attachable : Attachable c.networks networkId
    · obtain ⟨n, s, rest, hfind, hsubnets⟩ := attachable
      rw [allocatePort_eq r.serverId r.ip r.portSecurity hfind hsubnets]
      refine ⟨fun id hid => ?_, List.nodup_singleton _⟩
      obtain rfl := List.mem_singleton.1 hid
      exact ⟨"port-", by decide, _, Nat.lt_succ_self _, Nat.le_refl _, rfl⟩
    · cases h : (c.allocatePort networkId r.serverId r.ip r.portSecurity).1 with
      | ok port => exact absurd (allocatePort_inv h) attachable
      | error e =>
        rw [handedOut_error]
        exact .nil
  | _ => exact .nil

theorem allNew_step (c : Cloud) (s : Step) :
    AllNew c.counter (c.take s).counter (s.handedOut c) := by
  cases s with
  | setup s => exact .nil
  | answer call =>
    rw [Step.handedOut, take]
    rcases c.answer_core call with ⟨outcome, same⟩ | ⟨⟨e, outcome⟩, -⟩
    · have counter : (c.answer call).2.counter = (c.core.perform call).2.counter :=
        (congrArg Cloud.counter same :)
      rw [outcome, counter]
      exact c.core.allNew_perform call
    · rw [outcome, handedOut_error]
      exact .nil

/-- **What a rehearsal hands out** is new. -/
theorem allNew_handedOut (c : Cloud) {steps : List Step} (plain : ∀ s ∈ steps, s.Plain) :
    AllNew c.counter (c.after steps).counter (c.handedOut steps) := by
  induction steps generalizing c with
  | nil => exact .nil
  | cons s steps ih =>
    obtain ⟨plain, rest⟩ := List.forall_mem_cons.1 plain
    exact (allNew_step c s).append (ih (c.take s) rest) (Proceeds.take c plain).counter_le
      (Proceeds.after (c.take s) rest).counter_le

/-! ### Rehearsals -/

/-- **The rehearsal never reuses an identifier** that the cloud makes. -/
structure NeverReuses (steps : List Step) : Prop where
  /-- The servers that are there in the end are numbered once. -/
  servers : Numbered "srv-" (after {} steps).counter (after {} steps).serverIds
  /-- The ports that are there in the end are numbered once. -/
  ports : Numbered "port-" (after {} steps).counter (after {} steps).portIds
  /-- No identifier is handed out twice. -/
  handedOut : (handedOut {} steps).Nodup
  /-- Once its number has been reached, an identifier that is gone does not come back. -/
  gone : ∀ earlier later, steps = earlier ++ later → ∀ n ≤ (after {} earlier).counter,
    ("srv-" ++ toString n ∈ (after {} steps).serverIds →
        "srv-" ++ toString n ∈ (after {} earlier).serverIds) ∧
      ("port-" ++ toString n ∈ (after {} steps).portIds →
        "port-" ++ toString n ∈ (after {} earlier).portIds)

/-- **No rehearsal reuses an identifier**, as long as the cloud is set up with plain ones. -/
theorem identifiers_never_reused {steps : List Step} (plain : ∀ s ∈ steps, s.Plain) :
    NeverReuses steps := by
  have proceeds := Proceeds.after {} plain
  refine ⟨proceeds.servers.numbered, proceeds.ports.numbered, (allNew_handedOut {} plain).nodup, ?_⟩
  rintro earlier later rfl n hn
  rw [after_append]
  have further := Proceeds.after (after {} earlier) fun s hs => plain s (List.mem_append_right _ hs)
  exact ⟨further.servers.mem_of_mem hn, further.ports.mem_of_mem hn⟩

/-- A server is ordered and deleted with its port; an attachment is refused and one fails; a port is
made and removed; then a server is ordered whose identifier is not told. -/
def sampleRehearsal : List Step :=
  let order : CreateServerRequest := { name := "web", networkIds := ["net-a"] }
  [.setup (.addNetwork "net-a" "lan-a" "sub-a"), .setup (.addServer { id := "vm" }),
    .setup (.addPort "net-a" "vm" "p1" "10.0.0.1" false),
    .answer (.createServer order), .answer (.deleteServer "srv-1"),
    .answer (.detachNetwork "port-2" "srv-1"),
    .setup (.failTimes "attach_server" (.notFound "gone") 1),
    .answer (.attachNetwork "net-a" { serverId := "vm" }),
    .answer (.attachNetwork "net-b" { serverId := "vm" }),
    .answer (.attachNetwork "net-a" { serverId := "vm" }),
    .answer (.detachNetwork "port-4" "vm"),
    .setup .hideIdUntilInquiry, .answer (.createServer order)]

/-- The sample hands out two tasks, one server and one port. -/
theorem identifiers_never_reused_sample :
    (∀ s ∈ sampleRehearsal, s.Plain) ∧ NeverReuses sampleRehearsal ∧
      handedOut {} sampleRehearsal = ["srv-1", "task-1", "port-4", "task-5"] ∧
      (after {} sampleRehearsal).serverIds = ["vm", "srv-5"] ∧
      (after {} sampleRehearsal).portIds = ["p1", "port-6"] := by
  have vm (n : Nat) : "vm" ≠ "srv-" ++ toString n := fun same => by
    simpa [String.toList_append] using congrArg String.toList same
  have p1 (n : Nat) : "p1" ≠ "port-" ++ toString n := fun same => by
    simpa [String.toList_append] using congrArg String.toList same
  have plain : ∀ s ∈ sampleRehearsal, s.Plain := by
    simp only [sampleRehearsal, List.forall_mem_cons, List.not_mem_nil, false_implies, implies_true,
      and_true]
    exact ⟨trivial, vm, p1, trivial, trivial, trivial, trivial, trivial, trivial, trivial, trivial,
      trivial, trivial⟩
  exact ⟨plain, identifiers_never_reused plain, by decide +kernel, by decide +kernel,
    by decide +kernel⟩

end Cloud

end Reconciler
