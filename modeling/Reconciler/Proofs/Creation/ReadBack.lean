import Reconciler.Proofs.Creation.Outcome
import Reconciler.Proofs.Reading.UpToDate

/-!
# Reading an instance that was just created

A creation and a reading find the attachments on different ways: the one looks for the networks that
were asked for, by their identifiers, the other for the networks in the address book, by their names.
A new instance has ports on the networks asked for and on no other, so where no two networks share an
identifier or a name both come to the same. A floating address is read back from the name of the
network that its port is on.

## What is proved

* `Created.upToDate`: the state of a new instance is up to date.
* `createInstance_readBack`: a reading gives it back.
-/

namespace Reconciler

section

variable {c d : Cloud} {desired : InstanceSpec} {s : InstanceState}

theorem Created.layout (h : Created c desired s d) :
    d.networks.map Network.layout = c.networks.map Network.layout := by
  obtain ⟨e, hports, hnetworks⟩ := h.ports
  have same := Cloud.allocatePorts_layout { c with counter := c.counter + 1 } c.nextServer
    (desired.networks.map (·.networkId))
  rw [hports] at same
  rw [hnetworks]
  exact same

/-- What is on record after a creation was on record before, or it is on the network asked for at
the place that the number of its port tells. -/
theorem Created.onRecord (h : Created c desired s d) {k sub sid : String} {r : AddressRecord}
    (hr : d.OnRecord k sub sid r) : c.OnRecord k sub sid r ∨
      ∃ i, (desired.networks.map (·.networkId))[i]? = some k ∧
        r.portId = "port-" ++ toString (c.counter + 2 + i) := by
  obtain ⟨e, hports, hnetworks⟩ := h.ports
  rcases Cloud.onRecord_allocatePorts hports (hr.congr hnetworks.symm) with old | ⟨i, hi, hport⟩
  · exact .inl (old.congr rfl)
  · exact .inr ⟨i, hi, hport⟩

/-- The networks with a record of a new instance are those asked for. -/
theorem Created.recorded_iff (h : Created c desired s d) (awaits : c.AwaitsNext)
    (orderly : ∀ n ∈ c.networks, n.Orderly) (ids : (d.networks.map (·.id)).Nodup) {n : Network}
    (hn : n ∈ d.networks) :
    n.recordsOf c.nextServer ≠ [] ↔ n.id ∈ desired.networks.map (·.networkId) := by
  constructor
  · intro recorded
    obtain ⟨sub, r, hr⟩ := Cloud.exists_onRecord hn recorded
    rcases h.onRecord hr with old | ⟨i, hi, -⟩
    · obtain ⟨e, he, hid, hre⟩ := old.exists_entry
      rw [awaits.ports e he hid] at hre
      exact absurd hre List.not_mem_nil
    · exact List.mem_of_getElem? hi
  · intro asked
    obtain ⟨sub, -, record⟩ := h.recordAt awaits orderly asked
    obtain ⟨sub', hsub', hrecord⟩ := Option.bind_eq_some_iff.1 record
    obtain ⟨m, hm, hhead⟩ := Option.bind_eq_some_iff.1 hsub'
    obtain rfl : n = m := Option.some.inj ((find?_of_nodup ids hn).symm.trans hm)
    have mem : _ ∈ sub'.recordsOf c.nextServer := List.mem_of_find?_eq_some hrecord
    exact List.ne_nil_of_mem (List.mem_flatMap.2 ⟨sub', List.mem_of_mem_head? hhead, mem⟩)

/-- **The port of an attachment of a new instance is on its network**, as far as the cloud can tell. -/
theorem Created.networkOfPort? (h : Created c desired s d) (awaits : c.AwaitsNext)
    (orderly : ∀ n ∈ c.networks, n.Orderly) (ids : (d.networks.map (·.id)).Nodup)
    (past : c.PortsPast) {a : NetworkAttachment} (ha : a ∈ s.networks) :
    ∃ n, d.networkOfPort? a.portId = some n ∧ n.id = a.networkId := by
  have order := (h.attachments awaits orderly).1
  have asked : a.networkId ∈ desired.networks.map (·.networkId) :=
    List.mem_eraseDups.1 (order ▸ List.mem_map_of_mem ha)
  obtain ⟨sub, hsub, record⟩ := h.recordAt awaits orderly asked
  obtain ⟨sub₀, hsub₀, hattachment⟩ := (h.attachments awaits orderly).2 a ha
  obtain rfl : sub = sub₀ := Option.some.inj (hsub.symm.trans hsub₀)
  obtain ⟨sub', hsub', hrecord⟩ := Option.bind_eq_some_iff.1 record
  obtain ⟨n, hn, hhead⟩ := Option.bind_eq_some_iff.1 hsub'
  have listed : n ∈ d.networks := List.mem_of_find?_eq_some hn
  have hid : n.id = a.networkId := key_of_find? hn
  have onRecord : d.OnRecord n.id sub'.id c.nextServer _ :=
    ⟨n, listed, rfl, sub', List.mem_of_mem_head? hhead, rfl, List.mem_of_find?_eq_some hrecord⟩
  have port : a.portId = "port-" ++ toString (c.counter + 2 +
      (desired.networks.map (·.networkId)).idxOf a.networkId) := by
    rw [hattachment]
    rfl
  refine ⟨n, ?_, hid⟩
  rw [port]
  refine Cloud.networkOfPort?_of_apart ids listed onRecord fun k' sub'' sid' r' hr' same => ?_
  rcases h.onRecord hr' with old | ⟨i, hi, hport⟩
  · refine absurd ⟨_, ?_, same⟩ (past.of_onRecord old)
    omega
  · have index : i = (desired.networks.map (·.networkId)).idxOf a.networkId := by
      have := numbered_inj (hport.symm.trans same)
      omega
    rw [index, List.getElem?_idxOf asked] at hi
    exact (Option.some.inj hi).symm.trans hid.symm

/-- A new instance has the desired floating address bound. -/
theorem Created.boundFor (h : Created c desired s d) (awaits : c.AwaitsNext)
    (orderly : ∀ n ∈ c.networks, n.Orderly) (ids : (d.networks.map (·.id)).Nodup)
    (names : (d.networks.map (·.name)).Nodup) (past : c.PortsPast) :
    d.boundFor c.nextServer = desired.floatingIp := by
  have bound := h.floatingIp
  rw [BoundAsDesired] at bound
  cases hb : desired.floatingIp with
  | none =>
    rw [hb] at bound
    refine Cloud.boundFor_eq_none fun b hmem => ?_
    rw [show d.floatingIps = c.floatingIps from bound] at hmem
    exact awaits.bindings b hmem
  | some b =>
    rw [hb] at bound
    obtain ⟨e, target, n, hfloating, htarget, hn, rfl⟩ := bound
    obtain ⟨ha, hk, -⟩ := attachedTo?_eq_some htarget
    obtain ⟨m, hm, hid⟩ := h.networkOfPort? awaits orderly ids past ha
    obtain rfl : m = n := Option.some.inj (hm.symm.trans hn)
    have free : ∀ b' ∈ e.floatingIps, b'.serverId ≠ c.nextServer := by
      rw [hfloating]
      exact awaits.bindings
    rw [Cloud.boundFor_withBound (c := e) names hn free, hid, hk]

/-- **The state of a new instance is up to date.** -/
theorem Created.upToDate (h : Created c desired s d) (awaits : c.AwaitsNext)
    (orderly : ∀ n ∈ c.networks, n.Orderly) (ids : (d.networks.map (·.id)).Nodup)
    (names : (d.networks.map (·.name)).Nodup) (past : c.PortsPast)
    (unattached : ∀ x, x ∉ volumesOf c.volumes c.nextServer) : UpToDate d s where
  nodup := (h.attachments awaits orderly).1 ▸ nodup_eraseDups _
  networks k a := by
    have hid : s.id = c.nextServer := by rw [h.state]; rfl
    rw [h.find?_networks, hid]
    constructor
    · rintro ⟨asked, n, hn, ha⟩
      have listed : n ∈ d.networks := List.mem_of_find?_eq_some hn
      have hk : n.id = k := key_of_find? hn
      exact ⟨n, listed, (h.recorded_iff awaits orderly ids listed).2 (hk ▸ asked), hk, ha⟩
    · rintro ⟨n, hn, recorded, rfl, ha⟩
      exact ⟨(h.recorded_iff awaits orderly ids hn).1 recorded, n, find?_of_nodup ids hn, ha⟩
  volumes x := by
    have hid : s.id = c.nextServer := by rw [h.state]; rfl
    rw [hid, h.volumes x]
    simp [unattached x]
  floatingIp := by
    rw [h.state]
    exact h.boundFor awaits orderly ids names past

end

/-- **A reading gives a new instance back** as the state `s` that its creation for the configuration
`desired` ended with. -/
structure CreationReadBack (desired : InstanceSpec) (s s' : InstanceState) : Prop where
  /-- The attachments are the same, in the same order. -/
  networks : s'.networks = s.networks
  /-- The volumes are the same. -/
  volumes : s'.volumes = s.volumes
  /-- The floating address is the desired one. -/
  floatingIp : s'.floatingIp = desired.floatingIp
  /-- The groups are the desired ones with a name. -/
  securityGroups : s'.securityGroups = desired.securityGroups.erase ""
  /-- The identifier is the same. -/
  id : s'.id = s.id
  /-- The task is the same. -/
  taskId : s'.taskId = s.taskId
  /-- The cluster is the same. -/
  clusterId : s'.clusterId = s.clusterId
  /-- The password is the same. -/
  password : s'.password = s.password
  /-- The name is the desired one. -/
  name : s'.applied.name = desired.name
  /-- The image is the desired one. -/
  imageId : s'.applied.imageId = desired.imageId
  /-- The flavor is the desired one. -/
  flavorId : s'.applied.flavorId = desired.flavorId

/-- **What is created is read back**: in a cloud that has been built, in which nothing mentions the
next server, no two networks share an identifier or a name, and no port has the name of one that is
still to come, a reading after a creation that succeeded gives back what was created. Failures may
be queued for the creation, and its looks at the server may find any statuses. -/
theorem createInstance_readBack {w w' : World Cloud} {t : Tuning} {desired : InstanceSpec}
    {s : InstanceState} {es : List Exchange} (built : w.store.Built) (awaits : w.store.AwaitsNext)
    (unattached : ∀ v ∈ w.store.volumes, ∀ a ∈ v.attachments, a.serverId ≠ w.store.nextServer)
    (ids : (w.store.networks.map (·.id)).Nodup) (names : (w.store.networks.map (·.name)).Nodup)
    (past : w.store.PortsPast)
    (created : Succeeds Cloud.provider w (createInstance t desired) s w' es) (now : Instant) :
    ∃ s' v es', Succeeds Cloud.provider ⟨w'.store.withoutFailures, now⟩ (readInstance s) (some s')
      v es' ∧ CreationReadBack desired s s' := by
  have h := created.createInstance_created built awaits
  have orderly : ∀ n ∈ w.store.core.networks, n.Orderly := built.tidy.orderly
  have layout := h.layout
  have ids' : (w'.store.networks.map (·.id)).Nodup := map_id_of_layout layout ▸ ids
  have names' : (w'.store.networks.map (·.name)).Nodup := map_name_of_layout layout ▸ names
  have none_attached : ∀ x, x ∉ volumesOf w.store.volumes w.store.nextServer := by
    intro x hx
    obtain ⟨v, hv, -⟩ := List.mem_map.1 hx
    obtain ⟨hv, hon⟩ := List.mem_filter.1 hv
    obtain ⟨a, ha, hid⟩ := List.any_eq_true.1 hon
    exact unattached v hv a ha (of_decide_eq_true hid)
  have current : UpToDate w'.store.core s :=
    h.upToDate awaits.core orderly ids' names' past none_attached
  obtain ⟨srv, hserver, hprofile⟩ := h.server
  have hid : s.id = w.store.nextServer := by rw [h.state]; rfl
  have unfailing := Cloud.unfailing_withoutFailures w'.store
  obtain ⟨s', v, es', read, back⟩ := current.reads (w := ⟨w'.store.withoutFailures, now⟩) unfailing
    (hid ▸ hserver) ids' names'
  refine ⟨s', v, es', read, ?_⟩
  have state := h.state
  have groups : (IdSet.ofList desired.securityGroups.members).erase "" =
      desired.securityGroups.erase "" := by rw [IdSet.ofList_members]
  exact
    { networks := back.networks
      volumes := back.volumes
      floatingIp := by rw [back.floatingIp, state]; rfl
      securityGroups := by rw [back.securityGroups, hprofile]; exact groups
      id := back.id
      taskId := back.taskId
      clusterId := by rw [back.clusterId, hprofile, state]; rfl
      password := back.password
      name := by rw [back.name, hprofile]; rfl
      imageId := by rw [back.imageId, hprofile]; rfl
      flavorId := by rw [back.flavorId, hprofile]; rfl }

/-! ### A run -/

/-- A cloud with two networks and a volume, in which the first server will be listed as holding no
public address. -/
def twoNetworkCloud : Cloud :=
  (((Cloud.addNetwork {} "net-a" "lan-a" "sub-a").addNetwork "net-b" "lan-b" "sub-b").addVolume
    "disk").setPublicIp "srv-1" false

/-- A configuration with a network that is asked for twice, a volume and a floating address. -/
def furnishedSpec : InstanceSpec where
  name := "web"
  imageId := "image"
  flavorId := "small"
  securityGroups := .ofList ["", "default"]
  networks := [{ networkId := "net-b" }, { networkId := "net-a" }, { networkId := "net-b" }]
  volumes := .ofList ["disk"]
  floatingIp := some { floatingIpId := "fip", networkId := "net-a" }

/-- What its creation gives. -/
def furnishedSpecCreated : InstanceState where
  id := "srv-1"
  taskId := some "task-1"
  status := .active
  clusterId := some "cluster-1"
  password := some "initial-password"
  applied := furnishedSpec
  networks :=
    [{ networkId := "net-b", subnetId := "sub-b", portId := "port-2", ip := "10.0.0.2" },
     { networkId := "net-a", subnetId := "sub-a", portId := "port-3", ip := "10.0.0.3" }]
  volumes := .ofList ["disk"]
  securityGroups := .ofList ["", "default"]
  floatingIp := some { floatingIpId := "fip", networkId := "net-a" }

theorem exec_createFurnishedSpec :
    ((createInstance {} furnishedSpec).run.exec Cloud.provider ⟨twoNetworkCloud, 0⟩).1 =
      some (.ok furnishedSpecCreated) := by decide +kernel

theorem createInstance_readBack_sample :
    twoNetworkCloud.Built ∧ twoNetworkCloud.AwaitsNext ∧ twoNetworkCloud.PortsPast ∧
    ∃ w' es, Succeeds Cloud.provider ⟨twoNetworkCloud, 0⟩ (createInstance {} furnishedSpec)
        furnishedSpecCreated w' es ∧
      ∃ s' v es', Succeeds Cloud.provider ⟨w'.store.withoutFailures, 0⟩
        (readInstance furnishedSpecCreated) (some s') v es' ∧
        CreationReadBack furnishedSpec furnishedSpecCreated s' := by
  have built : twoNetworkCloud.Built :=
    .setPublicIp (.addVolume (.addNetwork (.addNetwork .empty ..) ..) _) ..
  have awaits : twoNetworkCloud.AwaitsNext := ⟨by decide, by decide, by decide⟩
  have no_entries : serverEntries twoNetworkCloud.networks = [] := rfl
  have past : twoNetworkCloud.PortsPast := by
    intro e he
    rw [no_entries] at he
    exact absurd he List.not_mem_nil
  have run := succeeds_of_exec exec_createFurnishedSpec
  exact ⟨built, awaits, past, _, _, run,
    createInstance_readBack built awaits (by decide) (by decide) (by decide) past run 0⟩

end Reconciler
