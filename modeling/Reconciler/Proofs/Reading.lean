import Reconciler.Proofs.Resolution.ByAddress
import Reconciler.Proofs.Update.Outcome

/-!
# What a reading finds

A reading asks the cloud four times and changes nothing, but that it takes the next status of the
instance. The attachments it finds are those of the ports that the instance has, as long as it has an
address anywhere. Without any address the report of the instance is silent about networks, and then
the attachments stay as they were tracked, though their ports are gone.

## What is proved

* `find?_resolveByAddress_addressesOf`, `Cloud.Ports.resolveByAddress`: the attachments that are
  resolved.
* `leads_readInstance_advance`: what a reading answers.
-/

namespace Reconciler

/-! ### The address book -/

/-- An instance has an address left: some network has a record of it. -/
def Cloud.Addressed (c : Cloud) (id : InstanceId) : Prop := ∃ n ∈ c.networks, n.recordsOf id ≠ []

section

variable {c : Cloud} {id : InstanceId} {port? : String → Option String}

/-- The book has the names of the networks with a record of the instance. -/
theorem mem_addressesOf_iff {name : String} :
    (Cloud.addressesOf c.networks id).contains name = true ↔
      ∃ n ∈ c.networks, n.name = name ∧ n.recordsOf id ≠ [] := by
  rw [Cloud.addressesOf, IdMap.contains_ofList, List.mem_map]
  have listed (n : Network) :
      (!(Cloud.addressesOn id n).isEmpty) = true ↔ n.recordsOf id ≠ [] := by
    rw [addressesOn_eq]
    simp
  constructor
  · rintro ⟨e, he, rfl⟩
    obtain ⟨hmem, hne⟩ := List.mem_filter.1 he
    obtain ⟨n, hn, rfl⟩ := List.mem_map.1 hmem
    exact ⟨n, hn, rfl, (listed n).1 hne⟩
  · rintro ⟨n, hn, rfl, hne⟩
    refine ⟨(n.name, Cloud.addressesOn id n), List.mem_filter.2 ⟨?_, (listed n).2 hne⟩, rfl⟩
    exact List.mem_map.2 ⟨n, hn, rfl⟩

theorem isEmpty_addressesOf_iff :
    (Cloud.addressesOf c.networks id).entries.isEmpty = true ↔ ¬ c.Addressed id := by
  rw [IdMap.isEmpty_entries_iff]
  constructor
  · rintro h ⟨n, hn, hne⟩
    have hcontains := mem_addressesOf_iff.2 ⟨n, hn, rfl, hne⟩
    rw [IdMap.contains, h] at hcontains
    exact absurd hcontains (by simp)
  · intro h name
    cases hfind : (Cloud.addressesOf c.networks id).find? name with
    | none => rfl
    | some as =>
      have hcontains : (Cloud.addressesOf c.networks id).contains name = true := by
        rw [IdMap.contains, hfind]
        rfl
      obtain ⟨n, hn, -, hne⟩ := mem_addressesOf_iff.1 hcontains
      exact absurd ⟨n, hn, hne⟩ h

theorem Cloud.lacks_of_not_addressed {p : String} (h : ¬ c.Addressed id)
    (past : ¬ PortToCome c.counter p) : c.Lacks id p where
  absent e he hid r hr _ := by
    obtain ⟨n, hn, s, hs, hes⟩ := mem_serverEntries_iff.1 he
    have recorded : r ∈ n.recordsOf id := by
      refine List.mem_flatMap.2 ⟨s, hs, List.mem_flatMap.2 ⟨e, ?_, hr⟩⟩
      exact List.mem_filter.2 ⟨hes, decide_eq_true hid⟩
    exact h ⟨n, hn, List.ne_nil_of_mem recorded⟩
  past := past

/-- What is resolved for a network is its attachment, if it has a record of the instance. -/
theorem find?_resolveByAddress_addressesOf (ids : (c.networks.map (·.id)).Nodup)
    (names : (c.networks.map (·.name)).Nodup) {k : String} {a : NetworkAttachment} :
    (resolveByAddress c.networks (Cloud.addressesOf c.networks id) id).find? k = some a ↔
      ∃ n ∈ c.networks, n.recordsOf id ≠ [] ∧ n.id = k ∧ n.attachmentOf id = some a := by
  have named {n : Network} (hn : n ∈ c.networks) :
      (Cloud.addressesOf c.networks id).contains n.name = true ↔ n.recordsOf id ≠ [] := by
    rw [mem_addressesOf_iff]
    constructor
    · rintro ⟨m, hm, hname, hne⟩
      rwa [← List.inj_on_of_nodup_map names hm hn hname]
    · exact fun hne => ⟨n, hn, rfl, hne⟩
  rw [find?_resolveByAddress ids]
  exact exists_congr fun n => and_congr_right fun hn => and_congr_left' (named hn)

/-- **The attachments that are resolved** are those of the ports. -/
theorem Cloud.Ports.resolveByAddress (h : c.Ports id port?)
    (names : (c.networks.map (·.name)).Nodup) (k : String) :
    ((resolveByAddress c.networks (addressesOf c.networks id) id).find? k).map (·.portId) =
      port? k := by
  have found (a : NetworkAttachment) :
      (Reconciler.resolveByAddress c.networks (addressesOf c.networks id) id).find? k = some a ↔
        ∃ n ∈ c.networks, n.recordsOf id ≠ [] ∧ n.id = k ∧ n.attachmentOf id = some a :=
    find?_resolveByAddress_addressesOf h.nodup names
  cases hport : port? k with
  | none =>
    rw [Option.map_eq_none_iff]
    refine Option.eq_none_iff_forall_ne_some.2 fun a ha => ?_
    obtain ⟨n, hn, hne, rfl, -⟩ := (found a).1 ha
    have hcarries := h.carries n hn
    rw [hport] at hcarries
    exact hne hcarries
  | some p =>
    obtain ⟨n, hn, rfl⟩ := List.mem_map.1 (h.listed k p hport)
    have hcarries := h.carries n hn
    rw [hport] at hcarries
    obtain ⟨a, ha, -, rfl⟩ := hcarries.attachmentOf
    rw [(found a).2 ⟨n, hn, hcarries.recordsOf_ne_nil, rfl, ha⟩, Option.map_some]

end

/-! ### The reading -/

/-- What a reading makes of a tracked state, when the cloud reports `detail` of the instance. -/
def InstanceState.refreshed (s : InstanceState) (c : Cloud) (detail : ServerDetail) :
    InstanceState :=
  (((s.withDetail detail).withNetworks c.networks detail.addresses).withVolumes
    c.volumes).withFloatingIp (c.boundFor s.id)

section

variable {σ : Type} {H : Host σ} {c : Cloud} {s : InstanceState} {srv : CloudServer}

theorem leads_readFloatingIp {region : Region} {id : InstanceId} (never : ¬ H.fails) :
    H.Leads c (readFloatingIp region id c.networks)
      (fun binding d => binding = c.boundFor id ∧ d = c) fun _ => False := by
  refine Host.leads_request ?_ fun hf => absurd hf never
  cases hfind : c.floatingIps.find? (·.serverId = id) with
  | none =>
    have missing : c.perform (.floatingIpOf id) =
        (.error (.notFound "server has no floating ip"), c) := by
      rw [Cloud.perform, Cloud.floatingIpOf, hfind]
    rw [missing]
    refine Host.leads_pure ⟨?_, rfl⟩
    rw [Cloud.boundFor, hfind]
    rfl
  | some bound =>
    have found : c.perform (.floatingIpOf id) = (.ok bound.record, c) := by
      rw [Cloud.perform, Cloud.floatingIpOf, hfind]
    rw [found]
    refine Host.leads_pure ⟨?_, rfl⟩
    rw [Cloud.boundFor, hfind]
    rfl

theorem leads_readAttachments (never : ¬ H.fails) (detail : ServerDetail) :
    H.Leads c (readAttachments s detail) (fun s' d => s' = s.refreshed c detail ∧ d = c)
      fun _ => False := by
  have networks : c.perform .listNetworks = (.ok c.networks, c) := rfl
  have volumes : c.perform .listVolumes = (.ok c.volumes, c) := rfl
  refine Host.leads_ask_ok_bind networks ?_ never
  refine Host.leads_ask_ok_bind volumes ?_ never
  refine (leads_readFloatingIp never).bind ?_
  rintro _ d ⟨rfl, rfl⟩
  have same : (((s.withDetail detail).withNetworks d.networks detail.addresses).withVolumes
      d.volumes).id = s.id := by
    cases detail.addresses <;> rfl
  rw [same]
  exact Host.leads_pure ⟨rfl, rfl⟩

/-- **A reading** answers the refreshed state, if no call is refused. It takes the next status of the
instance and changes nothing else. -/
theorem leads_readInstance_advance (never : ¬ H.fails) (hs : c.server? s.id = some srv) :
    H.Leads c (readInstance s)
      (fun found d => found = some (s.refreshed c (c.report s.id srv.advance)) ∧
        d = c.editServer s.id (·.advance))
      fun _ => False := by
  let detail := c.report s.id srv.advance
  refine Host.leads_request ?_ fun hf => absurd hf never
  rw [Cloud.perform_getServer_advance hs]
  have rest : H.Leads (c.editServer s.id (·.advance))
      (readAttachments s detail >>= fun s' => pure (some s'))
      (fun found d => found = some (s.refreshed c detail) ∧ d = c.editServer s.id (·.advance))
      fun _ => False := by
    refine (leads_readAttachments never detail).bind ?_
    rintro _ d ⟨rfl, rfl⟩
    exact Host.leads_pure ⟨rfl, rfl⟩
  have same : (readAttachments s detail >>= fun s' => pure (some s')) =
      ExceptT.mk ((readAttachments s detail).run >>= fun r => pure (r.map some)) :=
    run_bind_pure _ _
  rw [same] at rest
  exact rest

/-- A reading changes nothing if no status of the instance is still to come. -/
theorem leads_readInstance (never : ¬ H.fails) (hs : c.server? s.id = some srv)
    (hscript : srv.script = []) :
    H.Leads c (readInstance s)
      (fun found d => found = some (s.refreshed c (c.report s.id srv)) ∧ d = c)
      fun _ => False := by
  obtain ⟨server, cloud⟩ := Cloud.editServer_advance hs hscript
  have read := leads_readInstance_advance (H := H) never hs
  rwa [server, cloud] at read

/-! ### The refreshed attachments -/

/-- What a reading refreshes. Besides the attachments all of it is known from the report. -/
theorem refreshed_eq (s : InstanceState) (c : Cloud) (detail : ServerDetail) :
    ∃ networks requests, s.refreshed c detail = { s.withDetail detail with
      networks
      volumes := .ofList (volumesOf c.volumes s.id)
      floatingIp := c.boundFor s.id
      applied := { (s.withDetail detail).applied with
        networks := requests
        volumes := .ofList (volumesOf c.volumes s.id)
        floatingIp := c.boundFor s.id } } := by
  rw [InstanceState.refreshed]
  cases detail.addresses with
  | none => exact ⟨_, _, rfl⟩
  | some book => exact ⟨_, _, rfl⟩

theorem refreshed_networks_of_not_addressed (srv : CloudServer) (h : ¬ c.Addressed s.id) :
    (s.refreshed c (c.report s.id srv)).networks = s.networks := by
  have silent : (c.report s.id srv).addresses = none := by
    rw [Cloud.report, if_pos (isEmpty_addressesOf_iff.2 h)]
  show ((s.withDetail _).withNetworks c.networks _).networks = _
  rw [silent]
  rfl

theorem refreshed_networks_of_addressed (h : c.Addressed s.id) :
    (s.refreshed c (c.report s.id srv)).networks = mergeAttachments s.networks
      (resolveByAddress c.networks (Cloud.addressesOf c.networks s.id) s.id) := by
  have told : (c.report s.id srv).addresses = some (Cloud.addressesOf c.networks s.id) := by
    rw [Cloud.report, if_neg (mt isEmpty_addressesOf_iff.1 (not_not_intro h))]
  show ((s.withDetail _).withNetworks c.networks _).networks = _
  rw [told]
  rfl

theorem Cloud.Ports.addressed {port? : String → Option String} {k p : String}
    (h : c.Ports s.id port?) (hk : port? k = some p) : c.Addressed s.id := by
  obtain ⟨n, hn, rfl⟩ := List.mem_map.1 (h.listed k p hk)
  have hcarries := h.carries n hn
  rw [hk] at hcarries
  exact ⟨n, hn, hcarries.recordsOf_ne_nil⟩

/-- **The refreshed attachments** are to one network each and have the ports of the instance, if it
has an address anywhere or none was tracked. -/
theorem portOn_refreshed (srv : CloudServer) {port? : String → Option String}
    (h : c.Ports s.id port?) (names : (c.networks.map (·.name)).Nodup)
    (known : s.networks = [] ∨ c.Addressed s.id) :
    ((s.refreshed c (c.report s.id srv)).networks.map (·.networkId)).Nodup ∧
      portOn (s.refreshed c (c.report s.id srv)).networks = port? := by
  by_cases addressed : c.Addressed s.id
  · rw [refreshed_networks_of_addressed addressed]
    have filed : Filed (resolveByAddress c.networks (Cloud.addressesOf c.networks s.id) s.id) :=
      filed_attachmentsOn _ _
    refine ⟨nodup_mergeAttachments filed _, funext fun k => ?_⟩
    rw [portOn, find?_mergeAttachments filed]
    exact h.resolveByAddress names k
  · rw [refreshed_networks_of_not_addressed srv addressed, known.resolve_right addressed]
    refine ⟨List.nodup_nil, funext fun k => ?_⟩
    cases hk : port? k with
    | none => rfl
    | some p => exact absurd (h.addressed hk) addressed

end

end Reconciler
