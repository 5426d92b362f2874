import Reconciler.Proofs.Reading
import Reconciler.Proofs.Straight

/-!
# Reading again

A reading looks an instance up and files what it finds in the tracked state. What is looked up
depends on the region and the identifier of the instance alone, which a reading leaves as they are,
and to file the same findings once more changes nothing. So a second reading that is answered as the
first was gives the same state again.

## What is proved

* `readInstance_eq`: a reading is a look-up, and what is found is filed.
* `InstanceState.withFindings_withFindings`: what is filed twice is filed once.
* `straight_findInstance`, `straight_readInstance`: the four calls of a reading.
* `readInstance_idempotent`: a reading only looks, and a second one gives the same.
-/

namespace Reconciler

/-! ### Looking up and filing -/

/-- What a reading finds of an instance that exists. -/
structure Findings where
  /-- The report of the instance. -/
  detail : ServerDetail
  /-- The networks of the region. -/
  networks : List Network
  /-- The volumes of the region. -/
  volumes : List Volume
  /-- Where the floating address is bound. -/
  binding : Option FloatingIpBinding

/-- What a reading makes of a state by what it finds. -/
def InstanceState.withFindings (s : InstanceState) (f : Findings) : InstanceState :=
  (((s.withDetail f.detail).withNetworks f.networks f.detail.addresses).withVolumes
    f.volumes).withFloatingIp f.binding

/-- Looks up what an instance is attached to, after the report of it. -/
def findAttachments (region : Region) (id : InstanceId) (detail : ServerDetail) :
    Task Findings := do
  let networks ← listNetworks region
  let volumes ← ask region .listVolumes "list volumes"
  let binding ← readFloatingIp region id networks
  return { detail, networks, volumes, binding }

/-- Looks an instance up; nothing when it no longer exists. -/
def findInstance (region : Region) (id : InstanceId) : Task (Option Findings) :=
  ExceptT.mk do
    match ← Program.request region (.getServer id) with
    | .ok (detail : ServerDetail) => return (← (findAttachments region id detail).run).map some
    | .error e =>
      if e.isNotFound then return .ok none else return .error (.remote "get instance" e)

section

variable {s : InstanceState}

/-- The report and the networks leave the instance where it is. -/
theorem identity_withNetworks (detail : ServerDetail) (networks : List Network)
    (book : Option AddressBook) :
    ((s.withDetail detail).withNetworks networks book).region = s.region ∧
      ((s.withDetail detail).withNetworks networks book).id = s.id := by
  cases book <;> exact ⟨rfl, rfl⟩

theorem readAttachments_eq (detail : ServerDetail) :
    readAttachments s detail = findAttachments s.region s.id detail >>= fun f =>
      pure (s.withFindings f) := by
  rw [findAttachments, readAttachments]
  simp only [bind_assoc, pure_bind]
  refine congrArg (listNetworks s.region >>= ·) (funext fun networks => ?_)
  obtain ⟨region, id⟩ := identity_withNetworks (s := s) detail networks detail.addresses
  rw [region]
  refine congrArg (ask s.region .listVolumes "list volumes" >>= ·) (funext fun volumes => ?_)
  show readFloatingIp ((s.withDetail detail).withNetworks networks detail.addresses).region
    ((s.withDetail detail).withNetworks networks detail.addresses).id networks >>= _ = _
  rw [region, id]
  rfl

/-- **A reading is a look-up**, and what is found is filed in the state. -/
theorem readInstance_eq : readInstance s =
    findInstance s.region s.id >>= fun found => pure (found.map s.withFindings) := by
  refine congrArg (Program.call s.region (.getServer s.id)) (funext fun o => ?_)
  cases o with
  | ok detail =>
    show (readAttachments s detail).run.bind _ = (((findAttachments _ _ detail).run.bind _).bind _)
    rw [readAttachments_eq]
    show ((findAttachments _ _ detail).run.bind _).bind _ = _
    rw [Program.bind_assoc', Program.bind_assoc']
    refine congrArg _ (funext fun r => ?_)
    cases r <;> rfl
  | error e =>
    show (if e.isNotFound then _ else _ : Program _) =
      (if e.isNotFound then _ else _ : Program _).bind _
    split_ifs <;> rfl

/-- With an address book, the attachments are those on the networks in it, and the requests are made
of them. -/
theorem withFindings_of_told {f : Findings} {book : AddressBook}
    (told : f.detail.addresses = some book) :
    (s.withFindings f).networks =
        mergeAttachments s.networks (resolveByAddress f.networks book s.id) ∧
      (s.withFindings f).applied.networks =
        (s.withFindings f).networks.map (·.toRequest s.applied.networks) := by
  simp only [InstanceState.withFindings, told]
  exact ⟨rfl, rfl⟩

end

/-! ### Filing twice -/

theorem map_toRequest_again (previous : List NetworkRequest) (as : List NetworkAttachment) :
    as.map (·.toRequest (as.map (·.toRequest previous))) = as.map (·.toRequest previous) := by
  refine List.map_congr_left fun a ha => ?_
  have asked : ((as.map (·.toRequest previous)).any fun r =>
      r.networkId = a.networkId && r.ip.isSome) =
        previous.any fun r => r.networkId = a.networkId && r.ip.isSome := by
    rw [Bool.eq_iff_iff, List.any_eq_true]
    constructor
    · rintro ⟨r, hr, pins⟩
      obtain ⟨b, -, rfl⟩ := List.mem_map.1 hr
      rw [Bool.and_eq_true, decide_eq_true_eq] at pins
      obtain ⟨same, pins⟩ := pins
      have same : b.networkId = a.networkId := same
      rw [NetworkAttachment.toRequest, same] at pins
      by_contra free
      rw [if_neg free] at pins
      exact Bool.noConfusion pins
    · intro pinned
      refine ⟨a.toRequest previous, List.mem_map_of_mem ha, ?_⟩
      rw [NetworkAttachment.toRequest, if_pos pinned]
      simp
  rw [NetworkAttachment.toRequest, asked]
  rfl

/-- **What is filed twice is filed once.** -/
theorem InstanceState.withFindings_withFindings (s : InstanceState) (f : Findings) :
    (s.withFindings f).withFindings f = s.withFindings f := by
  obtain ⟨detail, networks, volumes, binding⟩ := f
  have kept (k : String) (o : Option String) : (if k = "" then if k = "" then o else some k
      else some k) = if k = "" then o else some k := by
    split_ifs <;> rfl
  have replaced (o : Option String) (k : String) : o.getD (o.getD k) = o.getD k := by
    cases o <;> rfl
  cases told : detail.addresses with
  | none =>
    simp only [withFindings, told, withNetworks, withDetail, withVolumes, withFloatingIp, kept,
      replaced]
  | some book =>
    have filed := filed_attachmentsOn (networks.filter fun n => book.contains n.name) s.id
    simp only [withFindings, told, withNetworks, withDetail, withVolumes, withFloatingIp, kept,
      replaced, resolveByAddress, mergeAttachments_again filed, map_toRequest_again]

/-- **The state `s'` differs from `s` at most in what a reading refreshes.** -/
def InstanceState.OnlyRefreshed (s s' : InstanceState) : Prop :=
  s' = { s with
    status := s'.status
    clusterId := s'.clusterId
    networks := s'.networks
    volumes := s'.volumes
    securityGroups := s'.securityGroups
    floatingIp := s'.floatingIp
    applied := { s.applied with
      name := s'.applied.name
      imageId := s'.applied.imageId
      flavorId := s'.applied.flavorId
      dedicatedServerId := s'.applied.dedicatedServerId
      securityGroups := s'.applied.securityGroups
      networks := s'.applied.networks
      volumes := s'.applied.volumes
      floatingIp := s'.applied.floatingIp } }

theorem onlyRefreshed_withFindings (s : InstanceState) (f : Findings) :
    s.OnlyRefreshed (s.withFindings f) := by
  obtain ⟨detail, networks, volumes, binding⟩ := f
  cases told : detail.addresses <;>
    simp only [InstanceState.OnlyRefreshed, InstanceState.withFindings, told,
      InstanceState.withNetworks, InstanceState.withDetail, InstanceState.withVolumes,
      InstanceState.withFloatingIp]

/-! ### The second reading -/

section

variable {region : Region} {id : InstanceId} {allowed : Call → Prop}

theorem straight_readFloatingIp {listing : List Network} (address : allowed (.floatingIpOf id)) :
    GoesStraight allowed (readFloatingIp region id listing) := by
  refine goesStraight_request address fun o => ?_
  cases o with
  | ok record => exact goesStraight_pure _
  | error e => exact .ite (goesStraight_pure none) (goesStraight_throw (e := .remote _ e) trivial)

theorem straight_findAttachments {detail : ServerDetail} (networks : allowed .listNetworks)
    (volumes : allowed .listVolumes) (address : allowed (.floatingIpOf id)) :
    GoesStraight allowed (findAttachments region id detail) := by
  refine GoesStraight.bind (goesStraight_ask networks) fun listing => ?_
  refine GoesStraight.bind (goesStraight_ask volumes) fun disks => ?_
  exact (straight_readFloatingIp address).bind fun binding => goesStraight_pure _

/-- **A look-up goes straight through** its four calls. -/
theorem straight_findInstance (server : allowed (.getServer id)) (networks : allowed .listNetworks)
    (volumes : allowed .listVolumes) (address : allowed (.floatingIpOf id)) :
    GoesStraight allowed (findInstance region id) := by
  refine goesStraight_request server fun o => ?_
  cases o with
  | ok detail =>
    refine Program.Straight.bind (straight_findAttachments networks volumes address) fun r hr => ?_
    cases r with
    | ok f => exact goesStraight_pure (some f)
    | error e => exact goesStraight_throw (hr e rfl)
  | error e => exact .ite (goesStraight_pure none) (goesStraight_throw (e := .remote _ e) trivial)

end

section

variable {σ : Type} {p : Provider σ} {w w' : World σ} {s s' : InstanceState}
  {es : List Exchange}

/-- A reading makes no other call than its look-up. -/
theorem straight_readInstance {allowed : Call → Prop} (server : allowed (.getServer s.id))
    (networks : allowed .listNetworks) (volumes : allowed .listVolumes)
    (address : allowed (.floatingIpOf s.id)) : GoesStraight allowed (readInstance s) := by
  rw [readInstance_eq]
  exact (straight_findInstance server networks volumes address).bind fun _ => goesStraight_pure _

/-- The exchanges of a reading are those of its look-up. -/
theorem trace_readInstance : (readInstance s).run.trace p w =
    (findInstance s.region s.id).run.trace p w := by
  rw [readInstance_eq]
  exact trace_bind_pure _ _

/-- **What a reading gives** is what its look-up found, filed in the state. -/
theorem succeeds_readInstance_iff : Succeeds p w (readInstance s) (some s') w' es ↔
    ∃ f, Succeeds p w (findInstance s.region s.id) (some f) w' es ∧ s' = s.withFindings f := by
  rw [readInstance_eq]
  constructor
  · intro h
    obtain ⟨found, w₁, es₁, es₂, look, filed, rfl⟩ := succeeds_bind_iff.1 h
    obtain ⟨hs', rfl, rfl⟩ := succeeds_pure_iff.1 filed
    obtain ⟨f, rfl, rfl⟩ := Option.map_eq_some_iff.1 hs'.symm
    exact ⟨f, (List.append_nil es₁).symm ▸ look, rfl⟩
  · rintro ⟨f, look, rfl⟩
    exact succeeds_bind_iff.2
      ⟨some f, w', es, [], look, succeeds_pure_iff.2 ⟨rfl, rfl, rfl⟩, (List.append_nil es).symm⟩

/-- **A reading only looks**, it refreshes what it is to refresh and nothing else, and a second
reading that is answered as the first was gives the same state again. -/
theorem readInstance_idempotent (s : InstanceState) (p : Provider σ) (w : World σ) :
    (∀ e ∈ (readInstance s).run.trace p w, e.call.isMutating = false) ∧
      ∀ s' w' es, Succeeds p w (readInstance s) (some s') w' es →
        s.OnlyRefreshed s' ∧
          ∀ (τ : Type) (q : Provider τ) (v : World τ),
            (∀ e ∈ es, ∀ e' ∈ (readInstance s').run.trace q v, e.Agrees e') →
            ∃ v' es', Succeeds q v (readInstance s') (some s') v' es' ∧
              es'.map (·.call) = es.map (·.call) := by
  refine ⟨fun e he => ?_, fun s' w' es read => ?_⟩
  · have looks : GoesStraight (fun c => c.isMutating = false) (readInstance s) :=
      straight_readInstance rfl rfl rfl rfl
    exact looks.makes.call_mem he
  · obtain ⟨f, look, rfl⟩ := succeeds_readInstance_iff.1 read
    refine ⟨onlyRefreshed_withFindings s f, fun τ q v agree => ?_⟩
    obtain ⟨region, id⟩ : (s.withFindings f).region = s.region ∧ (s.withFindings f).id = s.id :=
      identity_withNetworks f.detail f.networks f.detail.addresses
    rw [trace_readInstance, region, id, ← look.trace_eq] at agree
    have straight : GoesStraight (fun _ => True) (findInstance s.region s.id) :=
      straight_findInstance trivial trivial trivial trivial
    obtain ⟨value, calls⟩ := straight.exec_eq_of_agrees agree
    rw [look.exec_eq] at value
    rw [look.trace_eq] at calls
    have again : Succeeds q v (readInstance (s.withFindings f)) (some (s.withFindings f)) _ _ :=
      succeeds_readInstance_iff.2
        ⟨f, by rw [region, id]; exact succeeds_of_exec value.symm,
          (s.withFindings_withFindings f).symm⟩
    exact ⟨_, _, again, calls.symm⟩

end

/-! ### A reading and another -/

/-- A cloud that nothing changes: it answers what it shows. -/
def Cloud.still (c : Cloud) : Provider Unit where
  answer _ _ _ call := ({ outcome := (c.perform call).1 }, ())

theorem Cloud.steady_still (c : Cloud) : c.still.Steady := fun _ _ _ _ => rfl

/-- A tracked state that the sample cloud has gone beyond: the name, the networks and the address
asked for are old. -/
def staleSampleState : InstanceState :=
  { sampleState with
    networks := [{ networkId := "net-b", portId := "p0" }, { networkId := "net-a" }]
    applied :=
      { sampleState.applied with
        name := "old"
        networks := [{ networkId := "net-a", ip := some "10.0.0.7" }] } }

/-- What a reading makes of it. -/
def readSampleState : InstanceState :=
  { sampleState with
    applied :=
      { sampleState.applied with networks := [{ networkId := "net-a", ip := some "10.0.0.9" }] } }

theorem exec_readSample :
    ((readInstance staleSampleState).run.exec sampleCloud.still ⟨(), 0⟩).1 =
      some (.ok (some readSampleState)) := by decide +kernel

theorem readInstance_idempotent_sample :
    (∃ w' es, Succeeds sampleCloud.still ⟨(), 0⟩ (readInstance staleSampleState)
      (some readSampleState) w' es) ∧
    ∃ v' es', Succeeds sampleCloud.still ⟨(), 9⟩ (readInstance readSampleState)
      (some readSampleState) v' es' := by
  have read := succeeds_of_exec exec_readSample
  obtain ⟨-, again⟩ :=
    (readInstance_idempotent staleSampleState sampleCloud.still ⟨(), 0⟩).2 _ _ _ read
  obtain ⟨v', es', second, -⟩ := again Unit sampleCloud.still ⟨(), 9⟩ fun e he e' he' =>
    sampleCloud.steady_still.agrees he he'
  exact ⟨⟨_, _, read⟩, v', es', second⟩

end Reconciler
