import Reconciler.Proofs.Creation.Outcome
import Reconciler.Proofs.Update.Settled

/-!
# Whether a creation gives what its requests ask for

The order for an instance names its networks and nothing more: not the addresses that the requests
ask for, and not whether the ports are to filter. Every new port gets the address that goes with its
number and does not filter, and what was asked for besides is left to the next update.

## What is proved

* `createInstance_honours_iff`: which requests a creation satisfies, and whether the next update has
  something to change.
-/

namespace Reconciler

/-- The address of the port that is made for the first request for the network `k`, if an instance
is created with a configuration. -/
def Cloud.comingAddress (c : Cloud) (desired : InstanceSpec) (k : String) : String :=
  "10.0.0." ++ toString (c.counter + 2 + (desired.networks.map (·.networkId)).idxOf k)

/-- **The first requests ask for what comes anyhow**: none asks for a filter, and none for another
address than its port will have. -/
def Cloud.GrantedAnyhow (c : Cloud) (desired : InstanceSpec) : Prop :=
  ∀ r ∈ desired.networks, desired.network? r.networkId = some r →
    r.portSecurity = false ∧ r.ip.all (· = c.comingAddress desired r.networkId) = true

section

variable {c d : Cloud} {desired : InstanceSpec} {s : InstanceState}

/-- A new instance is settled but for its networks. -/
theorem Created.settled (h : Created c desired s d) : Settled s desired := by
  rw [h.state]
  refine ⟨rfl, fun x _ => Iff.rfl, fun x hx => ?_, rfl⟩
  show _ ↔ x ∈ IdSet.ofList (desired.volumes.members.filter (· ≠ ""))
  simp [IdSet.mem_ofList, hx]

theorem Created.attached (h : Created c desired s d) (awaits : c.AwaitsNext)
    (orderly : ∀ n ∈ c.networks, n.Orderly) : ∀ a ∈ s.networks, a.isAttached = true := by
  intro a ha
  obtain ⟨sub, -, hrecord⟩ := (h.attachments awaits orderly).2 a ha
  have port : a.portId ≠ "" := by
    rw [hrecord]
    simp [NetworkAttachment.ofRecord, portRecord]
  exact decide_eq_true port

/-- **Which attachments satisfy their requests**: those of which the first request asks for what comes
anyhow. -/
theorem Created.satisfiedBy_iff (h : Created c desired s d) (awaits : c.AwaitsNext)
    (orderly : ∀ n ∈ c.networks, n.Orderly) {a : NetworkAttachment} (ha : a ∈ s.networks)
    {r : NetworkRequest} (hr : r.networkId = a.networkId) :
    r.satisfiedBy a = true ↔
      r.portSecurity = false ∧ r.ip.all (· = c.comingAddress desired r.networkId) = true := by
  have attached := h.attached awaits orderly a ha
  obtain ⟨sub, -, hrecord⟩ := (h.attachments awaits orderly).2 a ha
  have plain : a.portSecurity = false := by rw [hrecord]; rfl
  have address : a.ip = c.comingAddress desired a.networkId := by rw [hrecord]; rfl
  simp [NetworkRequest.satisfiedBy, hr, attached, plain, address]

theorem Created.satisfied_iff (h : Created c desired s d) (awaits : c.AwaitsNext)
    (orderly : ∀ n ∈ c.networks, n.Orderly) :
    (∀ a ∈ s.networks, ∀ r, desired.network? a.networkId = some r → r.satisfiedBy a = true) ↔
      c.GrantedAnyhow desired := by
  have order := (h.attachments awaits orderly).1
  constructor
  · intro satisfied r hr hfirst
    have hk : r.networkId ∈ s.networks.map (·.networkId) := by
      rw [order, List.mem_eraseDups]
      exact List.mem_map_of_mem hr
    obtain ⟨a, ha, hak⟩ := List.mem_map.1 hk
    exact (h.satisfiedBy_iff awaits orderly ha hak.symm).1 (satisfied a ha r (hak ▸ hfirst))
  · intro granted a ha r hfirst
    have hrk : r.networkId = a.networkId := key_of_find? hfirst
    have hr : r ∈ desired.networks := List.mem_of_find?_eq_some hfirst
    exact (h.satisfiedBy_iff awaits orderly ha hrk).2 (granted r hr (hrk ▸ hfirst))

end

/-- **What a creation gives of what its requests ask for.** In a cloud that has been built, whatever
failures are queued, an instance that is created satisfies the first request for each of its networks
exactly when those ask for what comes anyhow; and exactly then an update to the same configuration
makes no call that changes anything, once no failure is queued any more. -/
theorem createInstance_honours_iff {w w' : World Cloud} {t u : Tuning} {desired : InstanceSpec}
    {s : InstanceState} {es : List Exchange} (built : w.store.Built) (awaits : w.store.AwaitsNext)
    (created : Succeeds Cloud.provider w (createInstance t desired) s w' es) (now : Instant) :
    ((∀ r ∈ desired.networks, desired.network? r.networkId = some r →
        ∃ a, s.network? r.networkId = some a ∧ r.satisfiedBy a = true) ↔
      w.store.GrantedAnyhow desired) ∧
    ((∀ e ∈ (updateInstance u s desired).run.trace Cloud.provider ⟨w'.store.withoutFailures, now⟩,
        e.call.isMutating = false) ↔
      w.store.GrantedAnyhow desired) := by
  have h := created.createInstance_created built awaits
  have orderly : ∀ n ∈ w.store.core.networks, n.Orderly := built.tidy.orderly
  have order := (h.attachments awaits.core orderly).1
  have nodup : (s.networks.map (·.networkId)).Nodup := order ▸ nodup_eraseDups _
  have satisfied := h.satisfied_iff awaits.core orderly
  refine ⟨Iff.trans ⟨fun honoured a ha r hfirst => ?_, fun all r hr hfirst => ?_⟩ satisfied, ?_⟩
  · have hrk : r.networkId = a.networkId := key_of_find? hfirst
    obtain ⟨b, hb, hsat⟩ := honoured r (List.mem_of_find?_eq_some hfirst) (hrk ▸ hfirst)
    have own : s.network? a.networkId = some a := find?_of_nodup nodup ha
    rw [hrk, own, Option.some.injEq] at hb
    exact hb ▸ hsat
  · have hk : r.networkId ∈ s.networks.map (·.networkId) := by
      rw [order, List.mem_eraseDups]
      exact List.mem_map_of_mem hr
    obtain ⟨a, ha, hak⟩ := List.mem_map.1 hk
    exact ⟨a, hak ▸ find?_of_nodup nodup ha, all a ha r (hak ▸ hfirst)⟩
  · have lists : World.outcome Cloud.provider ⟨w'.store.withoutFailures, now⟩ s.region .listNetworks =
        .ok w'.store.networks := by
      show (w'.store.withoutFailures.answer .listNetworks).1 = _
      rw [(Cloud.unfailing_withoutFailures _).answer]
      rfl
    exact (h.settled.quiet_iff order (h.attached awaits.core orderly) lists).trans satisfied

/-! ### A run -/

/-- A cloud with one network. -/
def oneNetworkCloud : Cloud := Cloud.addNetwork {} "net-a" "lan-a" "sub-a"

/-- A configuration that asks for a port that filters. -/
def filteringSpec : InstanceSpec where
  name := "web"
  imageId := "image"
  flavorId := "small"
  networks := [{ networkId := "net-a", portSecurity := true }]

/-- What its creation gives: the port does not filter. -/
def filteringSpecCreated : InstanceState where
  id := "srv-1"
  taskId := some "task-1"
  status := .active
  clusterId := some "cluster-1"
  password := some "initial-password"
  applied := filteringSpec
  networks := [{ networkId := "net-a", subnetId := "sub-a", portId := "port-2", ip := "10.0.0.2" }]

theorem exec_createFilteringSpec :
    ((createInstance {} filteringSpec).run.exec Cloud.provider ⟨oneNetworkCloud, 0⟩).1 =
      some (.ok filteringSpecCreated) := by decide +kernel

theorem awaitsNext_oneNetworkCloud : oneNetworkCloud.AwaitsNext :=
  ⟨by decide, by decide, by decide⟩

/-- The request is not satisfied, and the next update replaces the port. -/
theorem createInstance_honours_iff_sample :
    oneNetworkCloud.Built ∧ oneNetworkCloud.AwaitsNext ∧
    ∃ w' es, Succeeds Cloud.provider ⟨oneNetworkCloud, 0⟩ (createInstance {} filteringSpec)
        filteringSpecCreated w' es ∧
      ¬ (∀ r ∈ filteringSpec.networks, filteringSpec.network? r.networkId = some r →
        ∃ a, filteringSpecCreated.network? r.networkId = some a ∧ r.satisfiedBy a = true) ∧
      ¬ ∀ e ∈ (updateInstance {} filteringSpecCreated filteringSpec).run.trace Cloud.provider
        ⟨w'.store.withoutFailures, 0⟩, e.call.isMutating = false := by
  have built : oneNetworkCloud.Built := .addNetwork .empty ..
  have run := succeeds_of_exec exec_createFilteringSpec
  have honours := createInstance_honours_iff (u := {}) built awaitsNext_oneNetworkCloud run 0
  have refused : ¬ oneNetworkCloud.GrantedAnyhow filteringSpec := by
    intro granted
    exact absurd (granted _ (List.mem_singleton_self _) rfl).1 (by decide)
  exact ⟨built, awaitsNext_oneNetworkCloud, _, _, run, mt honours.1.1 refused,
    mt honours.2.1 refused⟩

end Reconciler
