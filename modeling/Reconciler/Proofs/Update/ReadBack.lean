import Reconciler.Proofs.Reading.UpToDate
import Reconciler.Proofs.Update.NetworksShown
import Reconciler.Proofs.Update.Profile
import Reconciler.Proofs.Update.Rebinding

/-!
# Reading an instance that was just updated

An update tells the state afterwards from the tracked one and from the answers to its calls, without
looking at the cloud again. Where the tracked state mirrored the cloud and the ports of the cloud can
be told apart, its account comes out right: a reading gives the state back, with the groups that have
a name, and with the desired name and flavor.

## What is proved

* `Mirrors.shows_iff`, `Mirrors.boundFor`: what a state that mirrors the cloud says of it.
* `leads_convergeExisting_upToDate`: an update from such a state ends with one that is up to date.
* `updateInstance_readBack`: a reading gives it back.
-/

namespace Reconciler

/-! ### A tracked state that mirrors the cloud -/

/-- The address of a floating address is listed under that name of a network and under no other. -/
structure FloatingIp.ListedUnder (record : FloatingIp) (name : String) : Prop where
  /-- It is listed under the name. -/
  listed : ∃ addresses, record.serverAddresses.find? name = some addresses ∧
    addresses.any (·.addr = record.address) = true
  /-- It is listed under no other name. -/
  alone : ∀ other addresses, record.serverAddresses.find? other = some addresses →
    addresses.any (·.addr = record.address) = true → other = name

/-- **What is bound is what is tracked**: nothing, or the tracked floating address alone, on the port
of a tracked attachment to its network, and listed under the name of that network. -/
def Cloud.BindsAsTracked (c : Cloud) (s : InstanceState) : Prop :=
  match s.floatingIp with
  | none => ∀ b ∈ c.floatingIps, b.serverId ≠ s.id
  | some f => ∃ b, c.floatingIps.filter (·.serverId = s.id) = [b] ∧ b.record.id = f.floatingIpId ∧
      (∃ a ∈ s.networks, a.networkId = f.networkId ∧ a.portId = b.portId) ∧
      ∃ n ∈ c.networks, n.id = f.networkId ∧ b.record.ListedUnder n.name

/-- **The tracked state mirrors the cloud.** -/
structure Mirrors (c : Cloud) (s : InstanceState) : Prop where
  /-- The server is there, with the tracked name and flavor and, of those with a name, the tracked
  groups. A flavor that is not reported counts as the tracked one. -/
  server : ∃ srv, c.server? s.id = some srv ∧ srv.detail.name = s.applied.name ∧
    srv.detail.flavorId.getD s.applied.flavorId = s.applied.flavorId ∧
    s.securityGroups = (IdSet.ofList srv.detail.securityGroupIds).erase ""
  /-- The volumes are those attached. -/
  volumes : ∀ x, x ∈ s.volumes ↔ x ∈ volumesOf c.volumes s.id
  /-- Each attachment is that of the only record on its network. -/
  networks : ∀ a ∈ s.networks, ∃ n ∈ c.networks, ∃ r, n.recordsOf s.id = [r] ∧
    a = .ofRecord n.id r.subnetId r
  /-- The other networks have no record. -/
  others : ∀ n ∈ c.networks, n.id ∉ s.networks.map (·.networkId) → n.recordsOf s.id = []
  /-- The floating address is the one that is bound. -/
  floatingIp : c.BindsAsTracked s

/-- **The parts of the cloud are told apart**: no two networks, volumes or ports share an identifier,
no two networks share a name, ports have names, and these are none that are still to come. -/
structure Cloud.ToldApart (c : Cloud) : Prop where
  /-- The identifiers of networks are different. -/
  ids : (c.networks.map (·.id)).Nodup
  /-- Their names are different. -/
  names : (c.networks.map (·.name)).Nodup
  /-- The identifiers of volumes are different. -/
  volumeIds : (c.volumes.map (·.id)).Nodup
  /-- The ports are different. -/
  portIds : c.portIds.Nodup
  /-- They have names. -/
  named : "" ∉ c.portIds
  /-- The names are none that are still to come. -/
  past : c.PortsPast

section

variable {c : Cloud} {s : InstanceState} {desired : InstanceSpec}

/-- Volumes with identifiers of their own are not out of reach. -/
theorem allReached_of_nodup {volumes : List Volume} (h : (volumes.map (·.id)).Nodup)
    (id : InstanceId) : AllReached volumes id :=
  (List.pairwise_map.1 h).imp fun hne heq => absurd heq.symm hne

/-- **A cloud shows the attachments of a state that mirrors it** and no others. -/
theorem Mirrors.shows_iff (h : Mirrors c s) (order : c.InOrder) (a : NetworkAttachment) :
    c.Shows s.id a ↔ a ∈ s.networks := by
  have on_subnet {n : Network} {sub : Subnet} {r : AddressRecord} (hn : n ∈ c.networks)
      (hs : sub ∈ n.subnets) (hr : r ∈ sub.recordsOf s.id) : r.subnetId = sub.id := by
    obtain ⟨e, he, -, hre⟩ := Subnet.mem_recordsOf.1 hr
    exact (order.orderly n hn).subnetIds sub hs e he r hre
  constructor
  · rintro ⟨k, subnetId, r, ⟨n, hn, rfl, sub, hs, rfl, hr⟩, rfl⟩
    have recorded : r ∈ n.recordsOf s.id := List.mem_flatMap.2 ⟨sub, hs, hr⟩
    have tracked : n.id ∈ s.networks.map (·.networkId) := by
      by_contra untracked
      rw [h.others n hn untracked] at recorded
      exact absurd recorded List.not_mem_nil
    obtain ⟨a, ha, hk⟩ := List.mem_map.1 tracked
    obtain ⟨m, hm, r', only, rfl⟩ := h.networks a ha
    obtain rfl : m = n := List.inj_on_of_nodup_map order.ids hm hn hk
    rw [only, List.mem_singleton] at recorded
    rwa [← on_subnet hn hs hr, recorded]
  · intro ha
    obtain ⟨n, hn, r, only, rfl⟩ := h.networks a ha
    have recorded : r ∈ n.recordsOf s.id := only ▸ List.mem_singleton_self r
    obtain ⟨sub, hs, hr⟩ := List.mem_flatMap.1 recorded
    exact ⟨n.id, sub.id, r, ⟨n, hn, rfl, sub, hs, rfl, hr⟩, by rw [on_subnet hn hs hr]⟩

theorem Mirrors.single (h : Mirrors c s) (ids : (c.networks.map (·.id)).Nodup)
    {a b : NetworkAttachment} (ha : a ∈ s.networks) (hb : b ∈ s.networks)
    (hk : a.networkId = b.networkId) : a = b := by
  obtain ⟨n, hn, r, only, rfl⟩ := h.networks a ha
  obtain ⟨m, hm, r', only', rfl⟩ := h.networks b hb
  obtain rfl : n = m := List.inj_on_of_nodup_map ids hn hm hk
  obtain rfl : r = r' := by simpa using only.symm.trans only'
  rfl

/-- An address that is listed under the name of a network is bound there. -/
theorem FloatingIp.ListedUnder.binding? {networks : List Network} {record : FloatingIp} {n : Network}
    (h : record.ListedUnder n.name) (names : (networks.map (·.name)).Nodup) (hn : n ∈ networks) :
    record.binding? networks = some ⟨record.id, n.id⟩ := by
  obtain ⟨addresses, hfind, hany⟩ := h.listed
  obtain ⟨e, he⟩ : ∃ e, (record.serverAddresses.entries.find? fun e =>
      e.2.any (·.addr = record.address)) = some e :=
    Option.isSome_iff_exists.1
      (List.find?_isSome.2 ⟨(n.name, addresses), IdMap.find?_eq_some_iff.1 hfind, hany⟩)
  have name : e.1 = n.name := h.alone e.1 e.2
    (IdMap.find?_eq_some_iff.2 (List.mem_of_find?_eq_some he))
    (List.find?_some (p := fun e : String × List ServerAddress =>
      e.2.any (·.addr = record.address)) he)
  have named : networkNamed? networks n.name = some n := find?_of_nodup names hn
  rw [FloatingIp.binding?, he, Option.bind_some, name, named]
  rfl

/-- **The tracked floating address is found bound.** -/
theorem Mirrors.boundFor (h : Mirrors c s) (names : (c.networks.map (·.name)).Nodup) :
    c.boundFor s.id = s.floatingIp := by
  have bound := h.floatingIp
  rw [Cloud.BindsAsTracked] at bound
  cases hf : s.floatingIp with
  | none =>
    rw [hf] at bound
    exact Cloud.boundFor_eq_none bound
  | some f =>
    rw [hf] at bound
    obtain ⟨b, only, hid, -, n, hn, hk, listed⟩ := bound
    have first : c.floatingIps.find? (·.serverId = s.id) = some b := by
      rw [← List.head?_filter, only]
      rfl
    rw [Cloud.boundFor, first, Option.bind_some, listed.binding? names hn, hid, hk]

theorem Mirrors.left (h : Mirrors c s) (order : c.InOrder) :
    ∀ b ∈ leftBound s c.floatingIps, b.serverId ≠ s.id := by
  have bound := h.floatingIp
  rw [Cloud.BindsAsTracked] at bound
  rw [leftBound]
  cases hf : s.floatingIp with
  | none =>
    rw [hf] at bound
    exact bound
  | some f =>
    rw [hf] at bound
    obtain ⟨b, only, -, ⟨a, ha, hk, hport⟩, -⟩ := bound
    have attached {a : NetworkAttachment} (ha : a ∈ s.networks) : a.isAttached = true :=
      decide_eq_true (order.portId_ne ((h.shows_iff order a).2 ha))
    obtain ⟨a', ha'⟩ := find?_eq_some_of_mem (List.mem_map_of_mem (f := (·.networkId)) ha)
    have first : attachedTo? s.networks f.networkId = some a' := by
      rw [attachedTo?, ← hk, ha']
      exact Option.filter_some_pos (attached (List.mem_of_find?_eq_some ha'))
    obtain rfl : a' = a :=
      h.single order.ids (List.mem_of_find?_eq_some ha') ha (key_of_find? ha')
    intro b' hb' mine
    simp only [boundElsewhere, first, List.mem_filter, decide_eq_true_eq] at hb'
    have other : b' ∈ c.floatingIps.filter (·.serverId = s.id) :=
      List.mem_filter.2 ⟨hb'.1, decide_eq_true mine⟩
    rw [only, List.mem_singleton] at other
    exact hb'.2 (other ▸ hport.symm)

/-- A state is up to date if its attachments are those that the cloud shows. -/
theorem UpToDate.of_shown (order : c.InOrder) (nodup : (s.networks.map (·.networkId)).Nodup)
    (shown : ∀ a, c.Shows s.id a ↔ a ∈ s.networks)
    (volumes : ∀ x, x ∈ s.volumes ↔ x ∈ volumesOf c.volumes s.id)
    (floatingIp : c.boundFor s.id = s.floatingIp) : UpToDate c s where
  nodup := nodup
  networks k a := by
    have tracked {n : Network} (hn : n ∈ c.networks) (recorded : n.recordsOf s.id ≠ []) :
        ∃ b, n.attachmentOf s.id = some b ∧ s.networks.find? (·.networkId = n.id) = some b := by
      obtain ⟨b, hb, hk, shows⟩ := order.exists_attachmentOf hn recorded
      exact ⟨b, hb, hk ▸ find?_of_nodup nodup ((shown b).1 shows)⟩
    constructor
    · intro ha
      obtain rfl : a.networkId = k := key_of_find? ha
      obtain ⟨n, hn, hk, recorded⟩ := ((shown a).2 (List.mem_of_find?_eq_some ha)).exists_network
      obtain ⟨b, hb, hfind⟩ := tracked hn recorded
      rw [hk, ha] at hfind
      exact ⟨n, hn, recorded, hk, hb.trans hfind.symm⟩
    · rintro ⟨n, hn, recorded, rfl, ha⟩
      obtain ⟨b, hb, hfind⟩ := tracked hn recorded
      rw [hfind, ← hb, ha]
  volumes := volumes
  floatingIp := floatingIp

end

/-! ### The whole update -/

section

variable {σ : Type} {H : Host σ} {c : Cloud} {t : Tuning} {s : InstanceState}
  {desired : InstanceSpec} {profile : ServerDetail}

/-- The end of an update, once the networks have been seen to. -/
theorem leads_afterNetworks_upToDate {result : InstanceState} (sure : ¬ H.fails) (order : c.InOrder)
    (names : (c.networks.map (·.name)).Nodup) (known : c.HasProfile s.id profile)
    (nodup : (result.networks.map (·.networkId)).Nodup)
    (shown : ∀ a, c.Shows s.id a ↔ a ∈ result.networks)
    (volumes : ∀ x, x ∈ result.volumes ↔ x ∈ volumesOf c.volumes s.id)
    (bound : c.boundFor s.id = s.floatingIp)
    (left : ∀ b ∈ leftBound s c.floatingIps, b.serverId ≠ s.id)
    (same : result.id = s.id ∧ result.floatingIp = desired.floatingIp) :
    H.Leads c (do
        let _ ← growRootDisk t s (statusAfterFlavor s desired) desired
        let _ ← convergeFloatingIp s result.networks desired
        revertSnapshot s desired
        return result)
      (fun s' d => UpToDate d s' ∧ d.HasProfile s'.id profile) fun _ => True := by
  have disk : H.Leads c (growRootDisk t s (statusAfterFlavor s desired) desired) _ _ :=
    (leads_growRootDisk_profile known).framed makes_growRootDisk
  refine disk.followedBy (fun _ _ => trivial) ?_
  rintro _ d ⟨known, ⟨servers, rfl⟩, -⟩
  have order' : Cloud.InOrder { c with servers } := order.of_networks rfl (Nat.le_refl _)
  have floating : H.Leads { c with servers } (convergeFloatingIp s result.networks desired) _ _ :=
    (leads_convergeFloatingIp_bound sure order' names (fun a ha => (shown a).2 ha) bound left).framed
      makes_convergeFloatingIp
  refine floating.followedBy (fun _ _ => trivial) ?_
  rintro _ e ⟨bound', ⟨floatingIps, counter, hle, rfl⟩, -⟩
  refine leads_revertSnapshot.followedBy (fun _ _ => trivial) ?_
  rintro _ _ rfl
  obtain ⟨hid, hfloating⟩ := same
  refine Host.leads_pure ⟨.of_shown (order'.of_networks rfl hle) nodup ?_ ?_ ?_, ?_⟩
  · rw [hid]
    exact shown
  · rw [hid]
    exact volumes
  · rw [hid, hfloating]
    exact bound'
  · rw [hid]
    exact known

/-- **An update from a state that mirrors the cloud** ends with one that is up to date, and what is
known of the server is as desired. -/
theorem leads_convergeExisting_upToDate (sure : ¬ H.fails) (order : c.InOrder)
    (names : (c.networks.map (·.name)).Nodup) (volumeIds : (c.volumes.map (·.id)).Nodup)
    (mirrors : Mirrors c s) :
    H.Leads c (convergeExisting t s desired)
      (fun s' d => UpToDate d s' ∧ ∃ profile, d.HasProfile s'.id profile ∧ profile.AsDesired desired)
      fun _ => True := by
  rw [convergeExisting_eq]
  -- The server has the desired name, groups and flavor after the first three steps.
  obtain ⟨srv, hs, name, flavorId, groups⟩ := mirrors.server
  have named : H.Leads c (rename s desired) _ _ := (leads_rename hs).framed makes_rename
  refine named.followedBy (fun _ _ => trivial) ?_
  rintro _ d₁ ⟨⟨name₁, hs₁, hname⟩, change₁, -⟩
  have tracked : Lists (srv.named name₁).detail.securityGroupIds s.securityGroups := fun x hx => by
    rw [groups, IdSet.mem_erase, IdSet.mem_ofList]
    exact (and_iff_left hx).symm
  have grouped : H.Leads d₁ (convergeGroups s desired) _ _ :=
    (leads_convergeGroups hs₁ tracked).framed makes_convergeGroups
  refine grouped.followedBy (fun _ _ => trivial) ?_
  rintro securityGroups d₂ ⟨⟨groups₂, hs₂, hgroups⟩, change₂, -⟩
  have resized : H.Leads d₂ (resizeFlavor t s desired) _ _ :=
    (leads_resizeFlavor_profile hs₂ (hname name) flavorId hgroups).framed makes_resizeFlavor
  refine resized.followedBy (fun _ _ => trivial) ?_
  rintro _ d₃ ⟨⟨profile, known, asDesired⟩, change₃, -⟩
  obtain ⟨servers, rfl⟩ : Part.servers.Changes c d₃ := (change₁.trans change₂).trans change₃
  -- From here on the server is left alone, but for its status.
  have attached : H.Leads { c with servers } (convergeVolumes s desired) _ _ :=
    (leads_convergeVolumes (c := { c with servers }) (allReached_of_nodup volumeIds s.id)
      fun x _ => (mirrors.volumes x).symm).framed makes_convergeVolumes
  refine attached.followedBy (fun _ _ => trivial) ?_
  rintro set d₄ ⟨⟨-, -, -, hset⟩, ⟨volumes, rfl⟩, -⟩
  have order₄ : Cloud.InOrder { c with servers, volumes } := order.of_networks rfl (Nat.le_refl _)
  have once (networks : List NetworkAttachment) (w w' : World σ) (es : List Exchange)
      (run : Succeeds H.provider w (convergeNetworks s desired) networks w' es) :
      (networks.map (·.networkId)).Nodup := run.convergeNetworks_ids ▸ nodup_eraseDups _
  have reconciled : H.Leads { c with servers, volumes } (convergeNetworks s desired) _ _ :=
    ((leads_convergeNetworks_shown order₄ (mirrors.shows_iff order)
      fun _ ha _ hb => mirrors.single order.ids ha hb).and_of_succeeds
        fun w networks w' es run => once networks w w' es run).framed makes_convergeNetworks
  refine reconciled.followedBy (fun _ _ => trivial) ?_
  rintro attachments d₅ ⟨⟨⟨order₅, shown⟩, nodup⟩, ⟨networks, counter, hle, rfl⟩, site⟩
  have names₅ : (networks.map (·.name)).Nodup := map_name_of_layout site.layout ▸ names
  let result : InstanceState :=
    { s with
      status := statusAfterUpdate s desired
      applied := desired
      networks := attachments
      volumes := set
      securityGroups
      floatingIp := desired.floatingIp }
  have same : result.id = s.id ∧ result.floatingIp = desired.floatingIp := ⟨rfl, rfl⟩
  refine (leads_afterNetworks_upToDate sure order₅ names₅ known nodup shown ?_ ?_ ?_ same).mono
    (fun _ _ hd => ⟨hd.1, profile, hd.2, asDesired⟩) fun _ hb => hb
  · exact fun x => (hset x (mirrors.volumes x).symm).symm
  · rw [boundFor_congr site rfl]
    exact mirrors.boundFor names
  · exact mirrors.left order

end

/-- **A reading gives an updated instance back** as the state `s'` that its update to the
configuration `desired` ended with. -/
structure UpdateReadBack (desired : InstanceSpec) (s' s'' : InstanceState) : Prop where
  /-- The attachments are the same, in the same order. -/
  networks : s''.networks = s'.networks
  /-- The volumes are the same. -/
  volumes : s''.volumes = s'.volumes
  /-- The floating address is the same. -/
  floatingIp : s''.floatingIp = s'.floatingIp
  /-- The groups are those with a name. -/
  securityGroups : s''.securityGroups = s'.securityGroups.erase ""
  /-- The name is the desired one. -/
  name : s''.applied.name = desired.name
  /-- The flavor is the desired one. -/
  flavorId : s''.applied.flavorId = desired.flavorId

/-- **What is updated is read back**: in a cloud that has been built, whose parts are told apart and
for which no failure is queued, a reading after an update that succeeded gives the state back, if the
tracked state mirrored the cloud before. -/
theorem updateInstance_readBack {w w' : World Cloud} {t : Tuning} {s s' : InstanceState}
    {desired : InstanceSpec} {es : List Exchange} (built : w.store.Built)
    (unfailing : w.store.Unfailing) (apart : w.store.ToldApart) (mirrors : Mirrors w.store s)
    (updated : Succeeds Cloud.provider w (updateInstance t s desired) s' w' es) (now : Instant) :
    ∃ s'' v es', Succeeds Cloud.provider ⟨w'.store, now⟩ (readInstance s') (some s'') v es' ∧
      UpdateReadBack desired s' s'' := by
  have order : w.store.core.InOrder :=
    .of_portIds apart.ids built.tidy.orderly apart.portIds apart.named apart.past
  have start : Mirrors w.store.core s :=
    ⟨mirrors.server, mirrors.volumes, mirrors.networks, mirrors.others, mirrors.floatingIp⟩
  have sure : ¬ Cloud.host.fails := not_false
  obtain ⟨allowed, networks, -, -, -, -, -, hstate⟩ := updated.updateInstance_eq
  rw [updateInstance_of_allowed allowed] at updated
  have steps : Cloud.host.Leads w.store.core (convergeExisting t s desired) _ _ :=
    (leads_convergeExisting_upToDate sure order apart.names apart.volumeIds start).and
      Host.leads_sameSite
  obtain ⟨unfailing', ⟨current, profile, ⟨srv, hs, hprofile⟩, asDesired⟩, site⟩ :=
    steps.of_succeeds unfailing rfl updated
  obtain ⟨s'', v, es', read, back⟩ := current.reads (w := ⟨w'.store, now⟩) unfailing' hs
    (map_id_of_layout site.layout ▸ apart.ids) (map_name_of_layout site.layout ▸ apart.names)
  refine ⟨s'', v, es', read, ?_⟩
  have groups : (IdSet.ofList profile.securityGroupIds).erase "" =
      (groupsAfterUpdate s desired).erase "" := by
    refine IdSet.ext fun x => ?_
    rw [IdSet.mem_erase, IdSet.mem_erase, IdSet.mem_ofList]
    refine and_congr_left fun hx => ?_
    rw [asDesired.groups x hx, groupsAfterUpdate, mem_applyEdits_editScript, if_neg hx]
  exact
    { networks := back.networks
      volumes := back.volumes
      floatingIp := back.floatingIp
      securityGroups := by rw [back.securityGroups, hprofile, groups, hstate]; rfl
      name := by rw [back.name, hprofile, asDesired.name]
      flavorId := by rw [back.flavorId, hprofile, hstate]; exact asDesired.flavorId }

/-! ### A run -/

/-- A configuration that changes everything about the sample, and the floating address with it. -/
def reboundSampleSpec : InstanceSpec :=
  { sampleSpec with floatingIp := some { floatingIpId := "fip-2", networkId := "net-b" } }

/-- What an update of the sample to that configuration gives. -/
def reboundSampleResult : InstanceState :=
  { sampleResult with
    applied := reboundSampleSpec
    floatingIp := reboundSampleSpec.floatingIp }

theorem exec_reboundSampleUpdate :
    ((updateInstance {} boundSampleState reboundSampleSpec).run.exec Cloud.provider
      ⟨boundSampleCloud, 0⟩).1 = some (.ok reboundSampleResult) := by decide +kernel

/-- The cloud of the sample can be built. -/
theorem built_boundSampleCloud : boundSampleCloud.Built := by
  let start : Cloud :=
    (((Cloud.addNetwork {} "net-a" "lan-a" "sub-a").addNetwork "net-b" "lan-b" "sub-b").addVolume
      "disk").addServer
        { id := "vm", name := "web", status := .active, flavorId := some "small",
          imageId := some "image", securityGroupIds := ["default"] }
  have built : start.Built := .addServer (.addVolume (.addNetwork (.addNetwork .empty ..) ..) _) _
  have port : start.addPort? "net-a" "vm" "p1" "10.0.0.9" false = some sampleCloud := by
    decide +kernel
  exact .bindFloatingIp (.addPort built port) ..

theorem toldApart_boundSampleCloud : boundSampleCloud.ToldApart where
  ids := by decide
  names := by decide
  volumeIds := by decide
  portIds := by decide
  named := by decide
  past e he r hr := by
    have ports : ∀ e ∈ serverEntries boundSampleCloud.networks, ∀ r ∈ e.ips, r.portId = "p1" := by
      decide
    rw [ports e he r hr]
    exact not_portToCome (by decide)

theorem mirrors_boundSampleState : Mirrors boundSampleCloud boundSampleState where
  server := ⟨_, rfl, rfl, rfl, by decide⟩
  volumes x := by
    have none : volumesOf boundSampleCloud.volumes boundSampleState.id = [] := rfl
    rw [none]
    exact ⟨fun h => absurd h (IdSet.not_mem_empty x), fun h => absurd h List.not_mem_nil⟩
  networks a ha := by
    obtain rfl := List.mem_singleton.1 ha
    exact ⟨_, List.mem_cons_self .., _, rfl, rfl⟩
  others := by decide
  floatingIp := by
    refine ⟨_, rfl, rfl, ⟨_, List.mem_cons_self .., rfl, rfl⟩, _, List.mem_cons_self .., rfl,
      ⟨_, rfl, rfl⟩, fun name addresses hfind _ => ?_⟩
    have entry := List.mem_singleton.1 (IdMap.find?_eq_some_iff.1 hfind)
    exact congrArg Prod.fst entry

theorem updateInstance_readBack_sample :
    boundSampleCloud.Built ∧ boundSampleCloud.Unfailing ∧ boundSampleCloud.ToldApart ∧
    Mirrors boundSampleCloud boundSampleState ∧
    ∃ w' es, Succeeds Cloud.provider ⟨boundSampleCloud, 0⟩
        (updateInstance {} boundSampleState reboundSampleSpec) reboundSampleResult w' es ∧
      ∃ s'' v es', Succeeds Cloud.provider ⟨w'.store, 0⟩ (readInstance reboundSampleResult)
        (some s'') v es' ∧ UpdateReadBack reboundSampleSpec reboundSampleResult s'' := by
  have built := built_boundSampleCloud
  have unfailing : boundSampleCloud.Unfailing := fun _ => rfl
  have apart := toldApart_boundSampleCloud
  have mirrors := mirrors_boundSampleState
  have run := succeeds_of_exec exec_reboundSampleUpdate
  exact ⟨built, unfailing, apart, mirrors, _, _, run,
    updateInstance_readBack built unfailing apart mirrors run 0⟩

end Reconciler
