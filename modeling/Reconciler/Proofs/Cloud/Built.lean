import Reconciler.Cloud.Setup
import Reconciler.Proofs.Cloud.Ports

/-!
# Clouds that have been built

A cloud in memory starts out empty, is set up and answers calls. Whatever is done to it in this way,
its tasks have numbers that its counter has reached, a network has one subnet at most, a subnet has
one entry for a server at most, and a record says which subnet it is on.

## What is proved

* `Cloud.Tidy.perform`, `Cloud.Tidy.answer`: a call leaves a cloud tidy.
* `Cloud.Built.tidy`: a cloud that has been built is tidy.
-/

namespace Reconciler

/-! ### Tidy clouds -/

/-- **The network is orderly.** -/
structure Network.Orderly (n : Network) : Prop where
  /-- It has one subnet at most. -/
  single : n.subnets.length ≤ 1
  /-- The entries of the subnet are of different servers. -/
  entries : ∀ s ∈ n.subnets, (s.servers.map (·.id)).Nodup
  /-- Records say that they are on the subnet. -/
  subnetIds : ∀ s ∈ n.subnets, ∀ e ∈ s.servers, ∀ r ∈ e.ips, r.subnetId = s.id

/-- **The cloud is tidy**: its tasks have numbers up to the counter, and its networks are orderly. -/
structure Cloud.Tidy (c : Cloud) : Prop where
  /-- Numbers beyond the counter are not those of tasks. -/
  tasks : ∀ srv ∈ c.servers, ∀ n, srv.taskId = "task-" ++ toString n → n ≤ c.counter
  /-- The networks are orderly. -/
  orderly : ∀ n ∈ c.networks, n.Orderly

/-! ### Entries -/

section

variable {serverId k : String} {record : AddressRecord}

theorem Subnet.nodup_addRecord {s : Subnet} (h : (s.servers.map (·.id)).Nodup) :
    ((s.addRecord serverId record).servers.map (·.id)).Nodup := by
  rw [addRecord]
  split
  · have same : (mapFirst (·.id = serverId) (fun e => { e with ips := e.ips ++ [record] })
        s.servers).map (·.id) = s.servers.map (·.id) := map_mapFirst fun _ => rfl
    exact same ▸ h
  · rename_i absent
    rw [List.map_append, List.nodup_append]
    refine ⟨h, by simp, ?_⟩
    intro x hx y hy
    obtain rfl := List.mem_singleton.1 hy
    rintro rfl
    obtain ⟨e, he, hid⟩ := List.mem_map.1 hx
    exact absent (List.any_eq_true.2 ⟨e, he, decide_eq_true hid⟩)

/-- A record that says it is on the first subnet can be added there. -/
theorem Network.Orderly.addRecord {n : Network} (h : n.Orderly)
    (hrecord : ∀ s ∈ n.subnets, record.subnetId = s.id) : (n.addRecord serverId record).Orderly := by
  rw [Network.addRecord]
  split
  · exact h
  · rename_i s rest hsubnets
    obtain ⟨single, entries, subnetIds⟩ := h
    rw [hsubnets] at single entries subnetIds hrecord
    have first : s ∈ s :: rest := List.mem_cons_self ..
    refine ⟨single, fun s' hs' => ?_, fun s' hs' e he r hr => ?_⟩
    · rcases List.mem_cons.1 hs' with rfl | hs'
      · exact Subnet.nodup_addRecord (entries s first)
      · exact entries s' (List.mem_cons_of_mem _ hs')
    · rcases List.mem_cons.1 hs' with rfl | hs'
      · rw [Subnet.id_addRecord]
        rcases Subnet.mem_ips_addRecord he hr with ⟨e', he', -, hr'⟩ | ⟨-, rfl⟩
        · exact subnetIds s first e' he' r hr'
        · exact hrecord s first
      · exact subnetIds s' (List.mem_cons_of_mem _ hs') e he r hr

/-- A record added on one of some networks, saying it is on its first subnet, leaves them orderly. -/
theorem orderly_mapFirst {networks : List Network} (h : ∀ n ∈ networks, n.Orderly)
    {n₀ : Network} {s₀ : Subnet} (hfind : networks.find? (·.id = k) = some n₀)
    (hhead : n₀.subnets.head? = some s₀) (hrecord : record.subnetId = s₀.id) :
    ∀ n ∈ mapFirst (·.id = k) (·.addRecord serverId record) networks, n.Orderly := by
  intro n hn
  rcases mem_mapFirst_find? hn with hn | ⟨m, hm, rfl⟩
  · exact h n hn
  · obtain rfl : m = n₀ := Option.some.inj (hm.symm.trans hfind)
    have orderly := h m (List.mem_of_find?_eq_some hm)
    refine orderly.addRecord fun s hs => ?_
    have single := orderly.single
    cases hsubnets : m.subnets with
    | nil => simp [hsubnets] at hs
    | cons s' rest =>
      simp only [hsubnets, List.length_cons, List.head?_cons, Option.some.injEq] at single hhead
      obtain rfl : rest = [] := List.length_eq_zero_iff.1 (by omega)
      rw [hsubnets, List.mem_singleton] at hs
      rw [hs, hhead, hrecord]

/-- Entries that are changed one by one, and neither their servers nor what their records say of the
subnet, leave the networks orderly. -/
theorem orderly_mapServerEntries {networks : List Network} {change : SubnetServer → SubnetServer}
    (h : ∀ n ∈ networks, n.Orderly) (same : ∀ e, (change e).id = e.id)
    (old : ∀ e, ∀ r ∈ (change e).ips, ∃ r' ∈ e.ips, r'.subnetId = r.subnetId) :
    ∀ n ∈ mapServerEntries change networks, n.Orderly := by
  intro n' hn'
  obtain ⟨n, hn, rfl⟩ := List.mem_map.1 hn'
  obtain ⟨single, entries, subnetIds⟩ := h n hn
  refine ⟨?_, fun s' hs' => ?_, fun s' hs' e' he' r hr => ?_⟩
  · simpa using single
  · obtain ⟨s, hs, rfl⟩ := List.mem_map.1 hs'
    have ids : (s.servers.map change).map (·.id) = s.servers.map (·.id) := by
      rw [List.map_map]
      exact List.map_congr_left fun e _ => same e
    show ((s.servers.map change).map (·.id)).Nodup
    rw [ids]
    exact entries s hs
  · obtain ⟨s, hs, rfl⟩ := List.mem_map.1 hs'
    obtain ⟨e, he, rfl⟩ := List.mem_map.1 he'
    obtain ⟨r', hr', hsubnet⟩ := old e r hr
    exact hsubnet ▸ subnetIds s hs e he r' hr'

end

/-! ### What calls leave -/

namespace Cloud

variable {c : Cloud}

theorem allocatePort_orderly (h : ∀ n ∈ c.networks, n.Orderly) (networkId serverId : String)
    (ip : Option String) (portSecurity : Bool) :
    ∀ n ∈ (c.allocatePort networkId serverId ip portSecurity).2.networks, n.Orderly := by
  rw [allocatePort]
  split
  · exact h
  · rename_i n hfind
    split
    · exact h
    · rename_i s rest hsubnets
      exact orderly_mapFirst h hfind (by rw [hsubnets]; rfl) rfl

theorem allocatePorts_orderly (h : ∀ n ∈ c.networks, n.Orderly) (serverId : String)
    (networkIds : List String) :
    ∀ n ∈ (c.allocatePorts serverId networkIds).2.networks, n.Orderly := by
  induction networkIds generalizing c with
  | nil => exact h
  | cons k ks ih =>
    have first := allocatePort_orderly h k serverId none false
    rw [allocatePorts]
    rcases hk : c.allocatePort k serverId none false with ⟨_ | _, d⟩
    all_goals rw [hk] at first
    · exact first
    · exact ih first

theorem orderly_setPortSecurity {portId : String} {enabled : Bool} {networks : List Network}
    (h : ∀ n ∈ networks, n.Orderly) :
    ∀ n ∈ mapServerEntries (fun e => { e with
        ips := e.ips.map fun r => if r.portId = portId then { r with portSecurity := enabled } else r })
      networks, n.Orderly := by
  refine orderly_mapServerEntries h (fun _ => rfl) fun e r hr => ?_
  obtain ⟨r', hr', rfl⟩ := List.mem_map.1 hr
  refine ⟨r', hr', ?_⟩
  split_ifs <;> rfl

theorem allocatePorts_servers (serverId : String) (networkIds : List String) :
    (c.allocatePorts serverId networkIds).2.servers = c.servers := by
  obtain ⟨_, _, -, hd⟩ := c.allocatePorts_changes serverId networkIds
  exact hd ▸ rfl

theorem perform_orderly (h : ∀ n ∈ c.networks, n.Orderly) (call : Call) :
    ∀ n ∈ (c.perform call).2.networks, n.Orderly := by
  have changes := c.perform_changes call
  cases call with
  | createServer order =>
    have ports := allocatePorts_orderly (c := { c with counter := c.counter + 1 }) h
      ("srv-" ++ toString (c.counter + 1)) order.networkIds
    rw [perform, createServer]
    rcases hd : Cloud.allocatePorts { c with counter := c.counter + 1 }
      ("srv-" ++ toString (c.counter + 1)) order.networkIds with ⟨_ | _, d⟩
    all_goals
      rw [hd] at ports
      exact ports
  | attachNetwork networkId r => exact allocatePort_orderly h _ _ _ _
  | detachNetwork portId serverId =>
    rw [perform, removePort]
    split
    · refine orderly_mapServerEntries h (fun e => ?_) fun e r hr => ⟨r, ?_, rfl⟩
      · split_ifs <;> rfl
      · split_ifs at hr
        · exact (List.mem_filter.1 hr).1
        · exact hr
    · exact h
  | enablePortSecurity networkId portId =>
    rw [perform, setPortSecurity]
    split
    · exact orderly_setPortSecurity h
    · exact h
  | disablePortSecurity networkId portId =>
    rw [perform, setPortSecurity]
    split
    · exact orderly_setPortSecurity h
    · exact h
  | attachFloatingIp | detachFloatingIp =>
    obtain ⟨_, _, -, hd⟩ := changes
    exact hd ▸ h
  | listNetworks | listVolumes | listPublicIps | floatingIpOf | revertSnapshot => exact h
  | attachVolume | detachVolume | getServer | inquireTask | deleteServer | resizeServer
  | resizeRootVolume | powerOff | powerOn | renameServer | joinGroup | leaveGroup =>
    obtain ⟨_, hd⟩ := changes
    exact hd ▸ h

theorem changeServer_tasks {id : String} {change : CloudServer → CloudServer} {srv : CloudServer}
    (h : srv ∈ (c.changeServer id change).2.servers)
    (same : ∀ srv, (change srv).taskId = srv.taskId) :
    ∃ old ∈ c.servers, old.taskId = srv.taskId := by
  rw [changeServer] at h
  split at h
  · exact ⟨srv, h, rfl⟩
  · rcases mem_mapFirst h with h | ⟨old, hold, -, rfl⟩
    · exact ⟨srv, h, rfl⟩
    · exact ⟨old, hold, (same old).symm⟩

theorem observe_tasks {id : String} {srv : CloudServer} (h : srv ∈ (c.observe id).2.servers) :
    ∃ old ∈ c.servers, old.taskId = srv.taskId := by
  rw [observe] at h
  split at h
  · exact ⟨srv, h, rfl⟩
  · rcases mem_mapFirst h with h | ⟨old, hold, -, rfl⟩
    · exact ⟨srv, h, rfl⟩
    · refine ⟨old, hold, ?_⟩
      rw [CloudServer.advance]
      split <;> rfl

theorem perform_tasks {call : Call} {srv : CloudServer} (h : srv ∈ (c.perform call).2.servers) :
    (∃ old ∈ c.servers, old.taskId = srv.taskId) ∨
      srv.taskId = "task-" ++ toString (c.counter + 1) ∧
        c.counter + 1 ≤ (c.perform call).2.counter := by
  have changes := c.perform_changes call
  cases call with
  | createServer order =>
    have servers := allocatePorts_servers (c := { c with counter := c.counter + 1 })
      ("srv-" ++ toString (c.counter + 1)) order.networkIds
    have grows := (allocatePorts_changes { c with counter := c.counter + 1 }
      ("srv-" ++ toString (c.counter + 1)) order.networkIds).counter_le
    rw [perform, createServer] at h ⊢
    rcases hd : Cloud.allocatePorts { c with counter := c.counter + 1 }
      ("srv-" ++ toString (c.counter + 1)) order.networkIds with ⟨_ | _, d⟩
    all_goals
      rw [hd] at servers grows
      simp only [hd] at h ⊢
    · exact .inl ⟨srv, servers ▸ h, rfl⟩
    · rcases List.mem_append.1 h with h | h
      · exact .inl ⟨srv, servers ▸ h, rfl⟩
      · obtain rfl := List.mem_singleton.1 h
        exact .inr ⟨rfl, grows⟩
  | getServer id => exact .inl (observe_tasks h)
  | inquireTask taskId =>
    rw [perform, observeTask] at h
    split at h
    · exact .inl ⟨srv, h, rfl⟩
    · exact .inl (observe_tasks h)
  | deleteServer id =>
    rw [perform, removeServer] at h
    split at h
    · exact .inl ⟨srv, h, rfl⟩
    · exact .inl ⟨srv, (List.mem_filter.1 h).1, rfl⟩
  | resizeServer | resizeRootVolume | powerOff | powerOn | renameServer | joinGroup | leaveGroup =>
    exact .inl (changeServer_tasks h fun _ => rfl)
  | attachNetwork | detachNetwork | enablePortSecurity | disablePortSecurity | attachFloatingIp
  | detachFloatingIp =>
    obtain ⟨_, _, -, hd⟩ := changes
    exact .inl ⟨srv, by rw [hd] at h; exact h, rfl⟩
  | attachVolume | detachVolume =>
    obtain ⟨_, hd⟩ := changes
    exact .inl ⟨srv, by rw [hd] at h; exact h, rfl⟩
  | listNetworks | listVolumes | listPublicIps | floatingIpOf | revertSnapshot =>
    exact .inl ⟨srv, h, rfl⟩

/-- **A call leaves a cloud tidy**, whether it succeeds or not. -/
theorem Tidy.perform (h : c.Tidy) (call : Call) : (c.perform call).2.Tidy where
  tasks srv hsrv n hn := by
    rcases perform_tasks hsrv with ⟨old, hold, htask⟩ | ⟨htask, grows⟩
    · exact Nat.le_trans (h.tasks old hold n (htask.trans hn)) (c.perform_changes call).counter_le
    · rwa [← numbered_inj (htask.symm.trans hn)]
  orderly := perform_orderly h.orderly call

/-- Whether a cloud is tidy is no matter of its journal and of the failures that are to come. -/
theorem Tidy.of_core {d : Cloud} (h : c.Tidy) (same : d.core = c.core) : d.Tidy where
  tasks srv hsrv n hn := by
    have servers : d.core.servers = c.core.servers := congrArg Cloud.servers same
    have counter : d.core.counter = c.core.counter := congrArg Cloud.counter same
    have hold : srv ∈ c.core.servers := servers ▸ hsrv
    exact Nat.le_trans (h.tasks srv hold n hn) (Nat.le_of_eq counter.symm)
  orderly := by
    have networks : d.core.networks = c.core.networks := congrArg Cloud.networks same
    intro n hn
    have hold : n ∈ c.core.networks := networks ▸ hn
    exact h.orderly n hold

/-- A call that is answered leaves a cloud tidy, also if a failure is queued for it. -/
theorem Tidy.answer (h : c.Tidy) (call : Call) : (c.answer call).2.Tidy := by
  rcases c.answer_core call with ⟨-, same⟩ | ⟨-, same⟩
  · have carriedOut : ((c.core.perform call).2).Tidy := (h.of_core rfl : c.core.Tidy).perform call
    have core : (c.core.perform call).2.core = (c.core.perform call).2 := by
      rw [perform_core]
      rfl
    exact carriedOut.of_core (same.trans core.symm ▸ rfl)
  · exact h.of_core same

/-! ### Building a cloud -/

/-- **The cloud has been built**: it is the empty one, or it comes from a built one that was set up
further or has answered a call. -/
inductive Built : Cloud → Prop where
  | empty : Built {}
  | addNetwork {c : Cloud} (h : Built c) (id name subnetId : String) :
    Built (c.addNetwork id name subnetId)
  | addNetworkWithoutSubnet {c : Cloud} (h : Built c) (id name : String) :
    Built (c.addNetworkWithoutSubnet id name)
  | addServer {c : Cloud} (h : Built c) (detail : ServerDetail) : Built (c.addServer detail)
  | addPort {c d : Cloud} (h : Built c) {networkId serverId portId ip : String}
    {portSecurity : Bool} (hd : c.addPort? networkId serverId portId ip portSecurity = some d) :
    Built d
  | addVolume {c : Cloud} (h : Built c) (id : String) : Built (c.addVolume id)
  | setPublicIp {c : Cloud} (h : Built c) (serverId : String) (hasPublicIp : Bool) :
    Built (c.setPublicIp serverId hasPublicIp)
  | bindFloatingIp {c : Cloud} (h : Built c) (serverId portId : String) (record : FloatingIp) :
    Built (c.bindFloatingIp serverId portId record)
  | scriptStatuses {c : Cloud} (h : Built c) (serverId : String) (statuses : List Status) :
    Built (c.scriptStatuses serverId statuses)
  | setCreationStatuses {c : Cloud} (h : Built c) (statuses : List Status) :
    Built (c.setCreationStatuses statuses)
  | setPowerOnStatus {c : Cloud} (h : Built c) (status : Status) : Built (c.setPowerOnStatus status)
  | hideIdUntilInquiry {c : Cloud} (h : Built c) : Built c.hideIdUntilInquiry
  | failTimes {c : Cloud} (h : Built c) (key : String) (e : RemoteError) (times : Nat) :
    Built (c.failTimes key e times)
  | clearCalls {c : Cloud} (h : Built c) : Built c.clearCalls
  | answer {c : Cloud} (h : Built c) (call : Call) : Built (c.answer call).2

/-- **A cloud that has been built is tidy.** -/
theorem Built.tidy (h : c.Built) : c.Tidy := by
  induction h with
  | empty => exact ⟨by simp, by simp⟩
  | addNetwork h id name subnetId ih =>
    refine ⟨ih.tasks, fun n hn => ?_⟩
    rcases List.mem_append.1 hn with hn | hn
    · exact ih.orderly n hn
    · obtain rfl := List.mem_singleton.1 hn
      exact ⟨by simp, by simp, by simp⟩
  | addNetworkWithoutSubnet h id name ih =>
    refine ⟨ih.tasks, fun n hn => ?_⟩
    rcases List.mem_append.1 hn with hn | hn
    · exact ih.orderly n hn
    · obtain rfl := List.mem_singleton.1 hn
      exact ⟨by simp, by simp, by simp⟩
  | addServer h detail ih =>
    refine ⟨fun srv hsrv n hn => ?_, ih.orderly⟩
    rcases List.mem_append.1 hsrv with hsrv | hsrv
    · exact ih.tasks srv hsrv n hn
    · obtain rfl := List.mem_singleton.1 hsrv
      simp at hn
  | addPort h hd ih =>
    rw [addPort?] at hd
    split at hd
    · simp at hd
    · rename_i s first
      obtain rfl := Option.some.inj hd
      obtain ⟨n, hfind, hhead⟩ := Option.bind_eq_some_iff.1 first
      exact ⟨ih.tasks, orderly_mapFirst ih.orderly hfind hhead rfl⟩
  | scriptStatuses h serverId statuses ih =>
    refine ⟨fun srv hsrv n hn => ?_, ih.orderly⟩
    rcases mem_mapFirst hsrv with hsrv | ⟨old, hold, -, rfl⟩
    · exact ih.tasks srv hsrv n hn
    · exact ih.tasks old hold n hn
  | addVolume h id ih => exact ⟨ih.tasks, ih.orderly⟩
  | setPublicIp h serverId hasPublicIp ih => exact ⟨ih.tasks, ih.orderly⟩
  | bindFloatingIp h serverId portId record ih => exact ⟨ih.tasks, ih.orderly⟩
  | setCreationStatuses h statuses ih => exact ⟨ih.tasks, ih.orderly⟩
  | setPowerOnStatus h status ih => exact ⟨ih.tasks, ih.orderly⟩
  | hideIdUntilInquiry h ih => exact ⟨ih.tasks, ih.orderly⟩
  | failTimes h key e times ih => exact ⟨ih.tasks, ih.orderly⟩
  | clearCalls h ih => exact ⟨ih.tasks, ih.orderly⟩
  | answer h call ih => exact ih.answer call

end Cloud

end Reconciler
