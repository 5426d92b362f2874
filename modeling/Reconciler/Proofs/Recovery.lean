import Reconciler.Proofs.Reading
import Reconciler.Proofs.Reading.Bindings
import Reconciler.Proofs.Update.Guard

/-!
# Recovering from an update that broke off

An update that fails leaves the cloud somewhere between what was tracked and what is desired, and
the tracked state is no longer true of it. One reads the instance again and updates from what was
read. What is read agrees with the cloud, so that the second update does what the first was to do,
but for one case: an instance without an address anywhere is reported without an address book, and
then a reading leaves the tracked attachments as they were. The ports of these are gone, so none of
them can be given up, and each has to be, for otherwise its port would have stayed.

## What is proved

* `Underway.agrees`, `Underway.feasible`: what is read on the way agrees with the cloud and allows
  the update.
* `not_succeeds_of_lacks`: no update succeeds that has to give up a port that is gone.
* `recovers_iff`: when reading and updating again repairs the instance.
* `recovers_of_satisfied`: it does if one attachment need not be replaced.
-/

namespace Reconciler

/-! ### The state that is read on the way -/

/-- The flavor that is read on the way is the tracked one or the desired one, and if the status is
not the tracked one, the server is running or off. -/
theorem Along.flavor_status {s : InstanceState} {desired : InstanceSpec} {srv srv' : CloudServer}
    (h : Along desired.flavorId srv srv') (tracked : srv.TrackedAs s) :
    (srv'.detail.flavorId.getD s.applied.flavorId = s.applied.flavorId ∨
        srv'.detail.flavorId.getD s.applied.flavorId = desired.flavorId) ∧
      ((srv'.detail.status = .active ∨ srv'.detail.status = .shutoff) ∨
        srv'.detail.status = s.status ∧
          srv'.detail.flavorId.getD s.applied.flavorId = s.applied.flavorId) := by
  rcases h.power with ⟨hs, hf⟩ | ⟨hs, hf | hf⟩
  · rw [hs, hf]
    exact ⟨.inl tracked.flavor, .inr ⟨tracked.status, tracked.flavor⟩⟩
  · rw [hf]
    exact ⟨.inl tracked.flavor, .inl hs⟩
  · rw [hf]
    exact ⟨.inr rfl, .inl hs⟩

section

variable {t : Tuning} {c d : Cloud} {s : InstanceState} {desired : InstanceSpec}
  {srv srv' : CloudServer}

theorem trackedAs_refreshed (hscript : srv'.script = []) :
    srv'.TrackedAs (s.refreshed d (d.report s.id srv')) := by
  obtain ⟨networks, requests, heq⟩ := refreshed_eq s d (d.report s.id srv')
  rw [heq]
  refine ⟨hscript, rfl, ?_, ?_, ?_, ?_⟩
  · show srv'.detail.flavorId.getD (srv'.detail.flavorId.getD s.applied.flavorId) =
      srv'.detail.flavorId.getD s.applied.flavorId
    cases srv'.detail.flavorId <;> rfl
  · show srv'.detail.imageId.getD (srv'.detail.imageId.getD s.applied.imageId) =
      srv'.detail.imageId.getD s.applied.imageId
    cases srv'.detail.imageId <;> rfl
  · by_cases hempty : srv'.detail.dedicatedServerId = ""
    · exact .inl hempty
    · exact .inr (if_neg hempty)
  · intro x hx
    show _ ↔ x ∈ (IdSet.ofList srv'.detail.securityGroupIds).erase ""
    rw [IdSet.mem_erase, IdSet.mem_ofList]
    exact (and_iff_left hx).symm

/-- **What is read on the way agrees with the cloud**, if the instance has an address left or no
network was tracked. -/
theorem Underway.agrees (h : Agrees c s) (tracked : srv.TrackedAs s)
    (m : Underway c s desired srv d) (hs : d.server? s.id = some srv')
    (along : Along desired.flavorId srv srv') (known : s.networks = [] ∨ d.Addressed s.id) :
    Agrees d (s.refreshed d (d.report s.id srv')) := by
  have names : (d.networks.map (·.name)).Nodup := by
    have layout (ns : List Network) : ns.map (·.name) = (ns.map Network.layout).map (·.2.1) := by
      rw [List.map_map]
      rfl
    rw [layout, m.site.layout, ← layout]
    exact h.names
  obtain ⟨port?, hports, -⟩ := m.ports
  obtain ⟨nodup, same⟩ := portOn_refreshed srv' hports names known
  have server := trackedAs_refreshed (s := s) (d := d) (along.script.trans tracked.script)
  obtain ⟨networks, requests, heq⟩ := refreshed_eq s d (d.report s.id srv')
  rw [heq] at nodup same server ⊢
  refine ⟨names, ⟨srv', hs, server⟩, m.reached, ?_, nodup, ?_, rfl⟩
  · exact fun x _ => IdSet.mem_ofList.symm
  · rw [same]
    exact hports

theorem allowed_refreshed (tracked : srv.TrackedAs s) (along : Along desired.flavorId srv srv')
    (allowed : immutableViolations s.applied desired = []) :
    immutableViolations (s.refreshed d (d.report s.id srv')).applied desired = [] := by
  have image : srv'.detail.imageId.getD s.applied.imageId = s.applied.imageId := by
    rw [along.image]
    exact tracked.image
  have host : (if srv'.detail.dedicatedServerId = "" then s.applied.dedicatedServerId
      else some srv'.detail.dedicatedServerId) = s.applied.dedicatedServerId := by
    rw [along.host]
    split_ifs with hempty
    · rfl
    · exact (tracked.host.resolve_left hempty).symm
  obtain ⟨region, himage, key, group, hhost, ipv4, ipv6, script, hflavor⟩ :=
    immutableViolations_eq_nil_iff.1 allowed
  obtain ⟨networks, requests, heq⟩ := refreshed_eq s d (d.report s.id srv')
  rw [heq]
  refine immutableViolations_eq_nil_iff.2 ⟨region, image.trans himage, key, group,
    fun hsome => host.trans (hhost hsome), ipv4, ipv6, script, ?_⟩
  show srv'.detail.flavorId.getD s.applied.flavorId = desired.flavorId ∨
    isLocalStorageFlavor (srv'.detail.flavorId.getD s.applied.flavorId) = false
  rcases (along.flavor_status tracked).1 with hf | hf
  · rw [hf]
    exact hflavor
  · exact .inl hf

/-- **What is read on the way allows the update**, if the tracked state did. -/
theorem Underway.feasible (h : Agrees c s) (tracked : srv.TrackedAs s)
    (m : Underway c s desired srv d) (along : Along desired.flavorId srv srv')
    (f : Feasible t c s desired) :
    Feasible t d (s.refreshed d (d.report s.id srv')) desired := by
  have allowed := allowed_refreshed (d := d) tracked along f.allowed
  obtain ⟨flavor, status⟩ := along.flavor_status tracked
  obtain ⟨networks, requests, heq⟩ := refreshed_eq s d (d.report s.id srv')
  rw [heq] at allowed
  rw [heq, feasible_congr m.site]
  refine ⟨allowed, ?_, f.volumes, f.networks, ?_, ?_⟩
  · intro differs
    change srv'.detail.flavorId.getD s.applied.flavorId ≠ desired.flavorId at differs
    rw [flavor.resolve_right differs] at differs
    exact f.flavor differs
  · intro differs
    obtain ⟨accepted, hwaits, hrun⟩ := f.disk differs
    refine ⟨accepted, hwaits, fun hsame => ?_⟩
    change srv'.detail.flavorId.getD s.applied.flavorId = desired.flavorId at hsame
    show srv'.detail.status = .active ∨ srv'.detail.status = .shutoff
    rcases status with hs | ⟨hs, hf⟩
    · exact hs
    · rw [hs]
      exact hrun (hf ▸ hsame)
  · intro differs g hg
    refine f.floatingIp (fun hsame => differs ?_) g hg
    show d.boundFor s.id = desired.floatingIp
    rw [boundFor_congr m.site (m.floatingIps hsame), h.floatingIp, hsame]

end

/-! ### Ports that are gone -/

/-- **An update that has to give up a lacking port fails**, whatever else it is to do. -/
theorem not_succeeds_of_lacks {σ : Type} {H : Host σ} {t : Tuning} {w w' : World σ}
    {s s' : InstanceState} {desired : InstanceSpec} {es : List Exchange} {a : NetworkAttachment}
    (hw : H.steady w.store) (hlast : lastTo? s.networks a.networkId = some a)
    (hattached : a.isAttached = true)
    (hsat : ∀ r, desired.network? a.networkId = some r → r.satisfiedBy a = false)
    (hlacks : (H.view w.store).Lacks s.id a.portId) :
    ¬ Succeeds H.provider w (updateInstance t s desired) s' w' es := by
  intro h
  obtain ⟨-, networks, v, v', es', hnetworks, hes, -⟩ := h.updateInstance_eq
  have gone : GivenUp s.region s.id es a :=
    (hnetworks.convergeNetworks_givesUp hlast hattached hsat).mono hes
  rw [← h.trace_eq] at gone
  exact not_givenUp_of_lacks hw makes_updateInstance hlacks gone

section

variable {c d : Cloud} {s : InstanceState} {desired : InstanceSpec} {srv : CloudServer}

/-- **On the way without an address left**, no tracked attachment may stay, and no tracked port is
there to be given up. -/
theorem Underway.stale (h : Agrees c s) (m : Underway c s desired srv d)
    (grows : c.counter ≤ d.counter) (silent : ¬ d.Addressed s.id) {a : NetworkAttachment}
    (ha : a ∈ s.networks) :
    a.isAttached = true ∧ (∀ r, desired.network? a.networkId = some r → r.satisfiedBy a = false) ∧
      d.Lacks s.id a.portId := by
  have tracked : portOn s.networks a.networkId = some a.portId := by
    rw [portOn, find?_of_nodup h.nodup ha, Option.map_some]
  obtain ⟨named, past⟩ := h.ports.named _ _ tracked
  refine ⟨decide_eq_true named, fun r hr => ?_, ?_⟩
  -- A satisfied attachment would have kept its port, and with it an address.
  · obtain ⟨port?, hports, hkeeps⟩ := m.ports
    refine Bool.eq_false_iff.2 fun hsat => silent ?_
    exact hports.addressed (hkeeps a ha r hr hsat)
  · exact Cloud.lacks_of_not_addressed silent fun hp => past (hp.mono grows)

end

/-! ### An update after a reading -/

theorem Agrees.core {c : Cloud} {s : InstanceState} (h : Agrees c s) : Agrees c.core s where
  names := h.names
  server := h.server
  reached := h.reached
  volumes := h.volumes
  nodup := h.nodup
  ports := h.ports.of_networks rfl (Nat.le_refl _)
  floatingIp := h.floatingIp

theorem Achieved.of_core {c : Cloud} {id : InstanceId} {desired : InstanceSpec}
    (h : Achieved c.core id desired) : Achieved c id desired where
  groups := h.groups
  volumes := h.volumes
  requested := h.requested
  networks := h.networks

/-- **Reading and updating again repairs the instance** from whatever instant on: if no call is
refused, both succeed, and then the instance is as desired. -/
def Recovers (t : Tuning) (observed : InstanceState) (desired : InstanceSpec) (c : Cloud) : Prop :=
  ∀ now, ∃ s w₁ es₁ s' w₂ es₂,
    Succeeds Cloud.provider ⟨c.withoutFailures, now⟩ (readInstance observed) (some s) w₁ es₁ ∧
      Succeeds Cloud.provider w₁ (updateInstance t s desired) s' w₂ es₂ ∧
      Achieved w₂.store observed.id desired

section

variable {t : Tuning} {c d : Cloud} {observed : InstanceState} {desired : InstanceSpec}
  {srv srv' : CloudServer}

/-- The refreshed state is of the same instance. -/
theorem id_refreshed (s : InstanceState) (c : Cloud) (detail : ServerDetail) :
    (s.refreshed c detail).id = s.id := by
  obtain ⟨networks, requests, heq⟩ := refreshed_eq s c detail
  rw [heq]
  rfl

/-- **If the instance has an address left** or no network was tracked, reading and updating again
repairs it. -/
theorem Underway.recovers (h : Agrees c observed) (tracked : srv.TrackedAs observed)
    (m : Underway c observed desired srv d.core) (f : Feasible t c observed desired)
    (known : observed.networks = [] ∨ d.Addressed observed.id) : Recovers t observed desired d := by
  intro now
  obtain ⟨srv', hs, along⟩ := m.server
  have reading : Cloud.host.Leads d.core (readInstance observed) _ fun _ => False :=
    leads_readInstance id hs (along.script.trans tracked.script)
  obtain ⟨found, w₁, es₁, read, steady, hfound, hview⟩ :=
    reading.succeeds (w := ⟨d.withoutFailures, now⟩) d.unfailing_withoutFailures rfl
  subst hfound
  have agrees := m.agrees h tracked hs along known
  have feasible := m.feasible h tracked along f
  obtain ⟨srv₂, hs₂, tracked₂⟩ := agrees.server
  have updating : Cloud.host.Leads d.core (updateInstance t _ desired) _ _ :=
    leads_updateInstance agrees hs₂ tracked₂
  have sure := updating.mono (fun _ _ hd => hd) fun _ hb => show False from
    hb.elim (fun hn => hn feasible) fun hf => hf.1
  obtain ⟨s', w₂, es₂, updated, -, -, achieved⟩ := sure.succeeds steady hview
  rw [id_refreshed] at achieved
  exact ⟨_, w₁, es₁, s', w₂, es₂, read, updated, achieved.of_core⟩

/-- **If the instance has no address left** and a network was tracked, updating again fails. -/
theorem Underway.not_recovers (h : Agrees c observed) (tracked : srv.TrackedAs observed)
    (m : Underway c observed desired srv d.core) (grows : c.counter ≤ d.counter)
    (silent : ¬ d.Addressed observed.id) {a : NetworkAttachment} (ha : a ∈ observed.networks) :
    ¬ Recovers t observed desired d := by
  intro recovers
  obtain ⟨s, w₁, es₁, s', w₂, es₂, read, updated, -⟩ := recovers 0
  obtain ⟨srv', hs, along⟩ := m.server
  have reading : Cloud.host.Leads d.core (readInstance observed) _ fun _ => False :=
    leads_readInstance id hs (along.script.trans tracked.script)
  obtain ⟨steady, hfound, hview⟩ :=
    reading.of_succeeds (w := ⟨d.withoutFailures, 0⟩) d.unfailing_withoutFailures rfl read
  obtain rfl := Option.some.inj hfound
  -- What is read tracks the same attachments as before, and `a` is one of them.
  obtain ⟨hattached, hsat, hlacks⟩ := m.stale h grows silent ha
  have networks := refreshed_networks_of_not_addressed (c := d.core) srv' silent
  refine not_succeeds_of_lacks (H := Cloud.host) steady ?_ hattached hsat ?_ updated
  · rw [networks, lastTo?_of_nodup h.nodup ha]
  · rw [id_refreshed]
    exact hview ▸ hlacks

variable {refuses : Nat → Option RemoteError} {now : Instant} {w : World (Cloud × Nat)}
  {e : Failure}

/-- **A failed update leaves the cloud on the way**, if it would have succeeded without a refused
call. -/
theorem underway_of_failed (agrees : Agrees c observed)
    (possible : ∃ s' w' es, Succeeds Cloud.provider ⟨c.withoutFailures, now⟩
      (updateInstance t observed desired) s' w' es)
    (failed : (updateInstance t observed desired).run.exec (Cloud.interrupted refuses)
      ⟨(c, 0), now⟩ = (some (.error e), w)) :
    ∃ srv, srv.TrackedAs observed ∧ Feasible t c.core observed desired ∧
      Underway c.core observed desired srv w.store.1.core ∧ c.counter ≤ w.store.1.counter := by
  obtain ⟨srv, hs, tracked⟩ := agrees.server
  have feasible : Feasible t c.core observed desired := by
    obtain ⟨s', w', es, run⟩ := possible
    have update : Cloud.host.Leads c.core (updateInstance t observed desired) _ _ :=
      leads_updateInstance agrees.core hs tracked
    have start := c.unfailing_withoutFailures
    exact (update.of_succeeds (w := ⟨c.withoutFailures, now⟩) start rfl run).2.1
  have update :
      (Cloud.interruptedHost refuses).Leads c.core (updateInstance t observed desired) _ _ :=
    (leads_updateInstance agrees.core hs tracked).and Host.leads_counter_le
  obtain ⟨-, hn | ⟨-, underway⟩, grows⟩ := update.of_fails trivial rfl failed
  · exact absurd feasible hn
  · exact ⟨srv, tracked, feasible, underway, grows⟩

/-- **Reading recovers from a failed update exactly when it sees the ports that are left.** Let the
tracked state agree with the cloud, let the update be one that succeeds if no call is refused, and
let it fail because calls were refused. Then reading and updating again repairs the instance if it
has an address left anywhere, or if no network was tracked; and otherwise it does not, since the
tracked attachments are taken for granted although their ports are gone. -/
theorem recovers_iff (agrees : Agrees c observed)
    (possible : ∃ s' w' es, Succeeds Cloud.provider ⟨c.withoutFailures, now⟩
      (updateInstance t observed desired) s' w' es)
    (failed : (updateInstance t observed desired).run.exec (Cloud.interrupted refuses)
      ⟨(c, 0), now⟩ = (some (.error e), w)) :
    Recovers t observed desired w.store.1 ↔
      observed.networks = [] ∨ w.store.1.Addressed observed.id := by
  obtain ⟨srv, tracked, feasible, underway, grows⟩ := underway_of_failed agrees possible failed
  constructor
  · intro recovers
    by_contra unknown
    obtain ⟨tracks, silent⟩ := not_or.1 unknown
    obtain ⟨a, ha⟩ := List.exists_mem_of_ne_nil _ tracks
    exact underway.not_recovers agrees.core tracked grows silent ha recovers
  · exact underway.recovers agrees.core tracked feasible

/-- **Reading always recovers** if one tracked attachment need not be replaced: its port is still
there. -/
theorem recovers_of_satisfied (agrees : Agrees c observed)
    (possible : ∃ s' w' es, Succeeds Cloud.provider ⟨c.withoutFailures, now⟩
      (updateInstance t observed desired) s' w' es)
    (failed : (updateInstance t observed desired).run.exec (Cloud.interrupted refuses)
      ⟨(c, 0), now⟩ = (some (.error e), w))
    {a : NetworkAttachment} {r : NetworkRequest} (ha : a ∈ observed.networks)
    (hr : desired.network? a.networkId = some r) (hsat : r.satisfiedBy a = true) :
    Recovers t observed desired w.store.1 := by
  obtain ⟨srv, tracked, feasible, underway, -⟩ := underway_of_failed agrees possible failed
  obtain ⟨port?, ports, kept⟩ := underway.ports
  have addressed : w.store.1.Addressed observed.id := ports.addressed (kept a ha r hr hsat)
  exact underway.recovers agrees.core tracked feasible (.inr addressed)

end

/-! ### A port that is lost on the way -/

/-- The configuration of the sample in which only the port is to filter source addresses. -/
def guardedSampleSpec : InstanceSpec :=
  { sampleState.applied with networks := [{ networkId := "net-a", portSecurity := true }] }

/-- The third call is refused: the one that is to make the new port. -/
def thirdRefused (n : Nat) : Option RemoteError := if n = 2 then some (.server 503 "busy") else none

/-- The tracked state of the sample agrees with its cloud. -/
theorem agrees_sample : Agrees sampleCloud sampleState where
  names := by decide
  server := by
    refine ⟨_, rfl, ⟨rfl, rfl, rfl, rfl, .inl rfl, fun x hx => ?_⟩⟩
    show x ∈ ["default"] ↔ x ∈ IdSet.ofList ["default"]
    rw [IdSet.mem_ofList]
  reached := List.pairwise_singleton ..
  volumes x _ := by
    show x ∈ [] ↔ x ∈ (∅ : IdSet)
    simp
  nodup := by decide
  ports := by
    have on_a (k p : String) (hk : portOn sampleState.networks k = some p) :
        k = "net-a" ∧ p = "p1" := by
      rw [portOn, Option.map_eq_some_iff] at hk
      obtain ⟨a, ha, rfl⟩ := hk
      obtain rfl := List.mem_singleton.1 (List.mem_of_find?_eq_some ha)
      exact ⟨(key_of_find? ha).symm, rfl⟩
    refine ⟨by decide, fun n hn => ?_, fun k p hk => ?_, fun k p hk => ?_, fun k k' p hk hk' => ?_⟩
    · rcases List.mem_cons.1 hn with rfl | hn
      · exact ⟨_, [], _, rfl, rfl, fun s hs => absurd hs List.not_mem_nil, rfl, rfl⟩
      · obtain rfl := List.mem_singleton.1 hn
        rfl
    · rw [(on_a k p hk).1]
      decide
    · rw [(on_a k p hk).2]
      exact ⟨by decide, not_portToCome (by decide)⟩
    · rw [(on_a k p hk).1, (on_a k' p hk').1]
  floatingIp := rfl

/-- What the update gives if no call is refused. -/
def guardedSampleResult : InstanceState :=
  { sampleState with
    applied := guardedSampleSpec
    networks :=
      [{ networkId := "net-a", subnetId := "sub-a", portId := "port-1", ip := "10.0.0.1",
         portSecurity := true }] }

theorem exec_guardedSampleUpdate :
    ((updateInstance {} sampleState guardedSampleSpec).run.exec Cloud.provider
      ⟨sampleCloud.withoutFailures, 0⟩).1 = some (.ok guardedSampleResult) := by decide +kernel

/-- The interrupted update fails when it is to make the new port. -/
theorem exec_interruptedSampleUpdate :
    ((updateInstance {} sampleState guardedSampleSpec).run.exec (Cloud.interrupted thirdRefused)
      ⟨(sampleCloud, 0), 0⟩).1 =
        some (.error (.remote "attach network net-a" (.server 503 "busy"))) := by decide +kernel

theorem records_interruptedSampleUpdate :
    ∀ n ∈ ((updateInstance {} sampleState guardedSampleSpec).run.exec
      (Cloud.interrupted thirdRefused) ⟨(sampleCloud, 0), 0⟩).2.store.1.networks,
        n.recordsOf "vm" = [] := by decide +kernel

/-- The old port is removed, the new one is refused, and reading and updating again does not repair
it. -/
theorem recovers_iff_sample :
    ∃ e w, Agrees sampleCloud sampleState ∧
      (∃ s' w' es, Succeeds Cloud.provider ⟨sampleCloud.withoutFailures, 0⟩
        (updateInstance {} sampleState guardedSampleSpec) s' w' es) ∧
      (updateInstance {} sampleState guardedSampleSpec).run.exec (Cloud.interrupted thirdRefused)
        ⟨(sampleCloud, 0), 0⟩ = (some (.error e), w) ∧
      (Recovers {} sampleState guardedSampleSpec w.store.1 ↔
        sampleState.networks = [] ∨ w.store.1.Addressed sampleState.id) ∧
      ¬ Recovers {} sampleState guardedSampleSpec w.store.1 := by
  have possible := succeeds_of_exec exec_guardedSampleUpdate
  have failed := Prod.ext exec_interruptedSampleUpdate
    (rfl : _ = ((updateInstance {} sampleState guardedSampleSpec).run.exec
      (Cloud.interrupted thirdRefused) ⟨(sampleCloud, 0), 0⟩).2)
  have recovers := recovers_iff agrees_sample ⟨_, _, _, possible⟩ failed
  refine ⟨_, _, agrees_sample, ⟨_, _, _, possible⟩, failed, recovers, fun h => ?_⟩
  rcases recovers.1 h with untracked | ⟨n, hn, recorded⟩
  · exact absurd untracked (List.cons_ne_nil _ _)
  · exact recorded (records_interruptedSampleUpdate n hn)

end Reconciler
