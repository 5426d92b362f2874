import Reconciler.Cloud.Calls
import Reconciler.Proofs.Accounts
import Reconciler.Proofs.Update.Result

/-!
# When the networks are listed

A reconciliation of the networks fetches the listing only if some request needs it. Whether one does
is decided beforehand, by a look at all the requests, while the requests are then met one by one from
what is left of the remembered attachments. The two agree: where the listing is not fetched nothing
is looked up in what stands in for it, so that not to fetch it changes neither the attachments nor
the calls that make and remove ports.

## What is proved

* `exists_meetRequests_eq_pure`: requests of which the first ones are satisfied are met without a
  call and without a listing.
* `convergeNetworksWith_eq`: it does not matter what stands in for a listing that is not fetched.
* `gives_detachUnwanted`, `gives_meetRequests`: why the two loops fail.
* `convergeNetworks_lists_on_demand`: the reconciliation beside the one that always fetches the
  listing.
-/

namespace Reconciler

variable {σ : Type} {p : Provider σ} {w w₁ : World σ} {es : List Exchange} {region : Region}
  {id : InstanceId} {s : InstanceState} {d : InstanceSpec} {kept : IdMap NetworkAttachment}
  {listing : List Network}

/-! ### Other ways to go about the listing -/

/-- The reconciliation that always fetches the listing before it meets the requests. -/
def convergeNetworksListing (observed : InstanceState) (desired : InstanceSpec) :
    Task (List NetworkAttachment) := do
  let kept ← detachUnwanted observed.region observed.id desired ∅ observed.networks
  let listing ← listNetworks observed.region
  meetRequests observed.region observed.id listing kept [] desired.networks

/-- The reconciliation in which `placeholder` stands in for a listing that is not fetched. -/
def convergeNetworksWith (placeholder : List Network) (observed : InstanceState)
    (desired : InstanceSpec) : Task (List NetworkAttachment) := do
  let kept ← detachUnwanted observed.region observed.id desired ∅ observed.networks
  let listing ←
    if desired.networks.all (·.metBy kept) then pure placeholder else listNetworks observed.region
  meetRequests observed.region observed.id listing kept [] desired.networks

/-! ### Requests that are satisfied -/

theorem NetworkRequest.metBy_eq_true_iff {r : NetworkRequest} :
    r.metBy kept = true ↔ ∃ a, kept.find? r.networkId = some a ∧ r.satisfiedBy a = true := by
  rw [NetworkRequest.metBy]
  cases kept.find? r.networkId <;> simp

/-- **Requests of which the first ones are satisfied are met without a call**, and without a look
into the listing. The first ones are those that are the first for their networks, and they count as
long as their networks are still to be seen to. -/
theorem exists_meetRequests_eq_pure {met : List NetworkAttachment} {rs : List NetworkRequest}
    (h : ∀ r, rs.find? (·.networkId = r.networkId) = some r →
      r.networkId ∉ met.map (·.networkId) → r.metBy kept = true) :
    ∃ networks, ∀ listing, meetRequests region id listing kept met rs = pure networks := by
  induction rs generalizing kept met with
  | nil => exact ⟨met, fun _ => rfl⟩
  | cons r rs ih =>
    -- A first request for another network is one of those after `r`.
    have later {q : NetworkRequest} (hq : rs.find? (·.networkId = q.networkId) = some q)
        (hne : r.networkId ≠ q.networkId) :
        (r :: rs).find? (·.networkId = q.networkId) = some q := by
      rw [List.find?_cons_of_neg (by simpa using hne), hq]
    by_cases isMet : r.networkId ∈ met.map (·.networkId)
    · obtain ⟨networks, rest⟩ := ih fun q hq notMet =>
        h q (later hq fun same => notMet (same ▸ isMet)) notMet
      refine ⟨networks, fun listing => ?_⟩
      rw [meetRequests, if_pos (any_networkId_iff.2 isMet), rest]
    · obtain ⟨a, remembered, satisfied⟩ :=
        NetworkRequest.metBy_eq_true_iff.1 (h r (List.find?_cons_of_pos (by simp)) isMet)
      have same := NetworkRequest.networkId_of_satisfiedBy satisfied
      have keeps (listing : List Network) : meetRequest region id listing kept r = pure a := by
        rw [meetRequest, remembered]
        exact if_pos satisfied
      obtain ⟨networks, rest⟩ : ∃ networks, ∀ listing,
          meetRequests region id listing (kept.erase r.networkId) (met ++ [a]) rs = pure networks :=
        ih fun q hq notMet => by
          rw [List.map_append, List.map_singleton, same, List.mem_append, List.mem_singleton,
            not_or] at notMet
          rw [NetworkRequest.metBy, IdMap.find?_erase, if_neg notMet.2]
          exact h q (later hq (Ne.symm notMet.2)) notMet.1
      refine ⟨networks, fun listing => ?_⟩
      rw [meetRequests, if_neg (mt any_networkId_iff.1 isMet), keeps, pure_bind, rest]

theorem exists_meetRequests_eq_pure_of_all (s : InstanceState)
    (h : d.networks.all (·.metBy kept) = true) : ∃ networks, ∀ listing,
      meetRequests s.region s.id listing kept [] d.networks = pure networks :=
  exists_meetRequests_eq_pure fun r hr _ => List.all_eq_true.1 h r (List.mem_of_find?_eq_some hr)

/-- **It does not matter what stands in** for a listing that is not fetched. -/
theorem convergeNetworksWith_eq (placeholder : List Network) :
    convergeNetworksWith placeholder s d = convergeNetworks s d := by
  refine congrArg (detachUnwanted s.region s.id d ∅ s.networks >>= ·) (funext fun kept => ?_)
  by_cases all : d.networks.all (·.metBy kept) = true
  · obtain ⟨networks, meets⟩ := exists_meetRequests_eq_pure_of_all s all
    rw [if_pos all, if_pos all, pure_bind, pure_bind]
    exact (meets placeholder).trans (meets []).symm
  · rw [if_neg all, if_neg all]

/-! ### Why a reconciliation fails -/

/-- The failure is that of a call. -/
def Failure.IsRemote : Failure → Prop
  | .remote _ _ => True
  | _ => False

/-- The network of a request is unknown if it is not listed. -/
theorem subnetFor_eq_unknownNetwork_iff {k j : String} :
    subnetFor listing k = .error (.unknownNetwork j) ↔ j = k ∧ ∀ n ∈ listing, n.id ≠ k := by
  have absent : listing.find? (·.id = k) = none ↔ ∀ n ∈ listing, n.id ≠ k := by
    simp [List.find?_eq_none]
  rw [subnetFor, ← absent]
  cases listing.find? (·.id = k) with
  | none => simp [eq_comm]
  | some n => cases hn : n.subnets <;> simp [hn]

/-- It is without a subnet if it is listed, and what is first listed under its identifier has none. -/
theorem subnetFor_eq_networkWithoutSubnet_iff {k j : String} :
    subnetFor listing k = .error (.networkWithoutSubnet j) ↔
      j = k ∧ ∃ n, listing.find? (·.id = k) = some n ∧ n.subnets = [] := by
  rw [subnetFor]
  cases listing.find? (·.id = k) with
  | none => simp
  | some n => cases hn : n.subnets <;> simp [hn, eq_comm]

theorem gives_ask_isRemote {action : String} (c : Call) : Gives (ask region c action) fun r es =>
    (∀ e ∈ es, e.call = c) ∧ ∀ e, r = some (.error e) → e.IsRemote := by
  refine gives_ask (fun start _ => ⟨by simp, by simp⟩) fun start e => ⟨by simp, ?_⟩
  rintro _ ⟨⟩
  trivial

theorem gives_detachFrom {a : NetworkAttachment} : Gives (detachFrom region id a) fun r es =>
    (∀ e ∈ es, e.call ≠ .listNetworks) ∧ ∀ e, r = some (.error e) → e.IsRemote := by
  rw [detachFrom]
  split_ifs
  · refine (gives_ask_isRemote _).mono fun r es h => ⟨fun e he => ?_, h.2⟩
    simp [h.1 e he]
  · exact gives_pure ⟨by simp, by simp⟩

/-- **What is not wanted is given up** without a look at the listing, and only a call can fail. -/
theorem gives_detachUnwanted (kept : IdMap NetworkAttachment) (as : List NetworkAttachment) :
    Gives (detachUnwanted region id d kept as) fun r es =>
      (∀ e ∈ es, e.call ≠ .listNetworks) ∧ ∀ e, r = some (.error e) → e.IsRemote := by
  induction as generalizing kept with
  | nil => exact gives_pure ⟨by simp, by simp⟩
  | cons a as ih =>
    rw [detachUnwanted]
    split_ifs
    · exact ih _
    · refine gives_detachFrom.bind (fun _ es₁ h₁ => (ih kept).mono fun r es₂ h₂ => ?_)
        (fun e es h => ?_) fun es h => ⟨h.1, by simp⟩
      · refine ⟨fun e he => ?_, h₂.2⟩
        rcases List.mem_append.1 he with he | he
        · exact h₁.1 e he
        · exact h₂.1 e he
      · refine ⟨h.1, ?_⟩
        rintro _ ⟨⟩
        exact h.2 e rfl

/-- The failure of a call, or of looking up the subnet for one of the requests. -/
def Unmeetable (listing : List Network) (rs : List NetworkRequest) (e : Failure) : Prop :=
  e.IsRemote ∨ ∃ r ∈ rs, subnetFor listing r.networkId = .error e

theorem Unmeetable.mono {rs rs' : List NetworkRequest} {e : Failure}
    (h : Unmeetable listing rs e) (hrs : ∀ r ∈ rs, r ∈ rs') : Unmeetable listing rs' e := by
  rcases h with h | ⟨r, hr, h⟩
  · exact .inl h
  · exact .inr ⟨r, hrs r hr, h⟩

theorem gives_attachTo {r : NetworkRequest} : Gives (attachTo region id listing r) fun out _ =>
    ∀ e, out = some (.error e) → Unmeetable listing [r] e := by
  rw [attachTo]
  cases found : subnetFor listing r.networkId with
  | error e =>
    refine Program.gives_pure ?_
    rintro _ ⟨⟩
    exact .inr ⟨r, List.mem_singleton_self r, found⟩
  | ok subnet =>
    show Gives (pure subnet >>= _) _
    rw [pure_bind]
    refine (gives_ask_isRemote _).bind (fun _ _ _ => gives_pure (by simp)) (fun e _ h => ?_)
      fun _ _ => by simp
    rintro _ ⟨⟩
    exact .inl (h.2 e rfl)

theorem gives_meetRequest {r : NetworkRequest} :
    Gives (meetRequest region id listing kept r) fun out _ =>
      ∀ e, out = some (.error e) → Unmeetable listing [r] e := by
  rw [meetRequest]
  split
  · exact gives_attachTo
  · split_ifs
    · exact gives_pure (by simp)
    · refine gives_detachFrom.bind (fun _ _ _ => gives_attachTo) (fun e _ h => ?_) fun _ _ => by simp
      rintro _ ⟨⟩
      exact .inl (h.2 e rfl)

/-- **A request cannot be met** if a call fails, or if its network is not listed with a subnet. -/
theorem gives_meetRequests (kept : IdMap NetworkAttachment) (met : List NetworkAttachment)
    (rs : List NetworkRequest) : Gives (meetRequests region id listing kept met rs) fun out _ =>
      ∀ e, out = some (.error e) → Unmeetable listing rs e := by
  induction rs generalizing kept met with
  | nil => exact gives_pure (by simp)
  | cons r rs ih =>
    have later (e : Failure) (h : Unmeetable listing rs e) : Unmeetable listing (r :: rs) e :=
      h.mono fun q hq => List.mem_cons_of_mem _ hq
    rw [meetRequests]
    split_ifs
    · exact (ih kept met).mono fun out _ h e he => later e (h e he)
    · refine gives_meetRequest.bind (fun a _ _ => (ih _ _).mono fun out _ h e he => later e (h e he))
        (fun e _ h => ?_) fun _ _ => by simp
      rintro _ ⟨⟩
      exact (h e rfl).mono fun q hq => List.mem_singleton.1 hq ▸ List.mem_cons_self

/-! ### The reconciliation beside the one that always lists -/

/-- What is remembered satisfies the requests just if the last tracked attachments to their networks
do. -/
theorem Succeeds.all_metBy_iff
    (h : Succeeds p w (detachUnwanted s.region s.id d ∅ s.networks) kept w₁ es) :
    d.networks.all (·.metBy kept) = true ↔
      ∀ r ∈ d.networks, (lastTo? s.networks r.networkId).any r.satisfiedBy = true := by
  rw [List.all_eq_true]
  refine forall₂_congr fun r hr => ?_
  have wanted : (d.network? r.networkId).isSome :=
    List.find?_isSome.2 ⟨r, hr, decide_eq_true rfl⟩
  rw [NetworkRequest.metBy, h.detachUnwanted_find?, if_pos wanted, IdMap.find?_empty, Option.or_none]

/-- **The reconciliation of the networks beside the one that always lists them**, when `listing` is
what the provider lists. -/
structure ListsOnDemand (p : Provider σ) (w : World σ) (s : InstanceState) (d : InstanceSpec)
    (listing : List Network) : Prop where
  /-- Both give the same. -/
  result : ((convergeNetworks s d).run.exec p w).1 = ((convergeNetworksListing s d).run.exec p w).1
  /-- Both make the same calls but for those that list the networks, and are answered alike. -/
  others : ((convergeNetworks s d).run.trace p w).filter (·.call ≠ .listNetworks) =
    ((convergeNetworksListing s d).run.trace p w).filter (·.call ≠ .listNetworks)
  /-- It does not matter what stands in for the listing where it is not fetched. -/
  placeholder : ∀ placeholder, convergeNetworksWith placeholder s d = convergeNetworks s d
  /-- A network is unknown only if the listing was fetched and lacks it. -/
  unknown : ∀ k, ((convergeNetworks s d).run.exec p w).1 = some (.error (.unknownNetwork k)) →
    (∃ start, ⟨start, s.region, .listNetworks, .ok listing⟩ ∈ (convergeNetworks s d).run.trace p w) ∧
      ∀ n ∈ listing, n.id ≠ k
  /-- A network is without a subnet only if the listing was fetched and has it so. -/
  withoutSubnet : ∀ k,
    ((convergeNetworks s d).run.exec p w).1 = some (.error (.networkWithoutSubnet k)) →
    (∃ start, ⟨start, s.region, .listNetworks, .ok listing⟩ ∈ (convergeNetworks s d).run.trace p w) ∧
      ∃ n, listing.find? (·.id = k) = some n ∧ n.subnets = []
  /-- The networks are listed once the unwanted ones are given up, and just if then some request, a
  repeated one included, is not satisfied by the attachment remembered for its network. -/
  lists : (∃ e ∈ (convergeNetworks s d).run.trace p w, e.call = .listNetworks) ↔
    (∃ kept w₁ es, Succeeds p w (detachUnwanted s.region s.id d ∅ s.networks) kept w₁ es) ∧
      ∃ r ∈ d.networks, (lastTo? s.networks r.networkId).any r.satisfiedBy = false

/-- What would come after a task that ends without a value does not matter. -/
theorem run_bind_of_broken {α β : Type} {x : Task α} (f g : α → Task β)
    (broken : ∀ a w', x.run.exec p w ≠ (some (.ok a), w')) :
    (x >>= f).run.exec p w = (x >>= g).run.exec p w ∧
      (x >>= f).run.trace p w = x.run.trace p w ∧
      ∀ e, ((x >>= f).run.exec p w).1 = some (.error e) → (x.run.exec p w).1 = some (.error e) := by
  rw [exec_run_bind, exec_run_bind, trace_run_bind]
  rcases hr : x.run.exec p w with ⟨_ | (e | a), w'⟩
  · simp
  · simp
  · exact absurd hr (broken a w')

/-- If the unwanted attachments are not all given up, the networks are not listed. -/
theorem listsOnDemand_of_broken (broken : ∀ kept w₁,
      (detachUnwanted s.region s.id d ∅ s.networks).run.exec p w ≠ (some (.ok kept), w₁)) :
    ListsOnDemand p w s d listing := by
  have detached : Gives (detachUnwanted s.region s.id d ∅ s.networks) _ :=
    gives_detachUnwanted ∅ s.networks
  obtain ⟨unlisted, remote⟩ := detached σ p w
  obtain ⟨same, here, fails⟩ : (convergeNetworks s d).run.exec p w =
        (convergeNetworksListing s d).run.exec p w ∧
      (convergeNetworks s d).run.trace p w =
        (detachUnwanted s.region s.id d ∅ s.networks).run.trace p w ∧ _ :=
    run_bind_of_broken _ _ broken
  have there : (convergeNetworksListing s d).run.trace p w =
      (detachUnwanted s.region s.id d ∅ s.networks).run.trace p w :=
    (run_bind_of_broken _ (fun _ => pure []) broken).2.1
  refine
    { result := congrArg (·.1) same
      others := by rw [here, there]
      placeholder := convergeNetworksWith_eq
      unknown := fun k failed => (remote _ (fails _ failed)).elim
      withoutSubnet := fun k failed => (remote _ (fails _ failed)).elim
      lists := ?_ }
  rw [here]
  refine iff_of_false (fun ⟨e, he, called⟩ => unlisted e he called) ?_
  rintro ⟨⟨kept, w₁, es, h⟩, -⟩
  exact broken kept w₁ h.exec_eq

/-- **If each request is satisfied** by what is remembered, no call is made once the unwanted
attachments are given up, and no listing would matter. -/
theorem Succeeds.convergeNetworks_of_met
    (h : Succeeds p w (detachUnwanted s.region s.id d ∅ s.networks) kept w₁ es)
    (all : d.networks.all (·.metBy kept) = true) :
    ∃ networks, Succeeds p w (convergeNetworks s d) networks w₁ es ∧
      ∀ listing, meetRequests s.region s.id listing kept [] d.networks = pure networks := by
  obtain ⟨networks, meets⟩ := exists_meetRequests_eq_pure_of_all s all
  refine ⟨networks, ?_, meets⟩
  refine succeeds_bind_iff.2 ⟨kept, w₁, es, [], h, ?_, (List.append_nil es).symm⟩
  rw [if_pos all, pure_bind]
  show Succeeds p w₁ (meetRequests _ _ [] _ _ _) _ _ _
  rw [meets]
  exact succeeds_pure_iff.2 ⟨rfl, rfl, rfl⟩

theorem Succeeds.listsOnDemand_of_met
    (h : Succeeds p w (detachUnwanted s.region s.id d ∅ s.networks) kept w₁ es)
    (lists : w₁.outcome p s.region .listNetworks = .ok listing)
    (all : d.networks.all (·.metBy kept) = true) : ListsOnDemand p w s d listing := by
  obtain ⟨networks, here, meets⟩ := h.convergeNetworks_of_met all
  have unlisted : ∀ e ∈ es, e.call ≠ .listNetworks := by
    rw [← h.trace_eq]
    exact (gives_detachUnwanted ∅ s.networks σ p w).1
  have there : Succeeds p w (convergeNetworksListing s d) networks
      (w₁.afterCall p s.region .listNetworks)
      (es ++ ([⟨w₁.now, s.region, .listNetworks, .ok listing⟩] ++ [])) := by
    refine h.bind ((succeeds_ask_iff.2 ⟨lists, rfl, rfl⟩).bind ?_)
    rw [meets]
    exact succeeds_pure_iff.2 ⟨rfl, rfl, rfl⟩
  refine
    { result := by rw [here.exec_eq, there.exec_eq]
      others := by rw [here.trace_eq, there.trace_eq, List.filter_append]; simp
      placeholder := convergeNetworksWith_eq
      unknown := by simp [here.exec_eq]
      withoutSubnet := by simp [here.exec_eq]
      lists := ?_ }
  rw [here.trace_eq]
  refine iff_of_false (fun ⟨e, he, called⟩ => unlisted e he called) ?_
  rintro ⟨-, r, hr, unmet⟩
  simp [h.all_metBy_iff.1 all r hr] at unmet

theorem Succeeds.listsOnDemand_of_unmet
    (h : Succeeds p w (detachUnwanted s.region s.id d ∅ s.networks) kept w₁ es)
    (lists : w₁.outcome p s.region .listNetworks = .ok listing)
    (unmet : ¬ d.networks.all (·.metBy kept) = true) : ListsOnDemand p w s d listing := by
  have asked : Succeeds p w₁ (listNetworks s.region) listing (w₁.afterCall p s.region .listNetworks)
      [⟨w₁.now, s.region, .listNetworks, .ok listing⟩] := succeeds_ask_iff.2 ⟨lists, rfl, rfl⟩
  have exec_eq : (convergeNetworks s d).run.exec p w =
      (meetRequests s.region s.id listing kept [] d.networks).run.exec p
        (w₁.afterCall p s.region .listNetworks) := by
    rw [convergeNetworks, exec_run_bind, h.exec_eq]
    simp only [if_neg unmet, exec_run_bind, asked.exec_eq]
  have same : (convergeNetworks s d).run.exec p w = (convergeNetworksListing s d).run.exec p w ∧
      (convergeNetworks s d).run.trace p w = (convergeNetworksListing s d).run.trace p w := by
    rw [convergeNetworks, convergeNetworksListing, exec_run_bind, exec_run_bind, trace_run_bind,
      trace_run_bind, h.exec_eq]
    simp only [if_neg unmet, and_self]
  have listed : ⟨w₁.now, s.region, .listNetworks, .ok listing⟩ ∈
      (convergeNetworks s d).run.trace p w := by
    rw [convergeNetworks, trace_run_bind, h.exec_eq]
    simp only [if_neg unmet, trace_run_bind, asked.trace_eq]
    simp
  -- A failure that is not that of a call is for a request that the listing has no subnet for.
  have lacks (e : Failure) (failed : ((convergeNetworks s d).run.exec p w).1 = some (.error e))
      (own : ¬ e.IsRemote) : ∃ r ∈ d.networks, subnetFor listing r.networkId = .error e := by
    rw [exec_eq] at failed
    exact (gives_meetRequests kept [] d.networks σ p _ e failed).resolve_left own
  refine
    { result := congrArg (·.1) same.1
      others := by rw [same.2]
      placeholder := convergeNetworksWith_eq
      unknown := fun k failed => ⟨⟨_, listed⟩, ?_⟩
      withoutSubnet := fun k failed => ⟨⟨_, listed⟩, ?_⟩
      lists := iff_of_true ⟨_, listed, rfl⟩ ⟨⟨kept, w₁, es, h⟩, ?_⟩ }
  · obtain ⟨r, -, lacking⟩ := lacks _ failed id
    obtain ⟨rfl, absent⟩ := subnetFor_eq_unknownNetwork_iff.1 lacking
    exact absent
  · obtain ⟨r, -, lacking⟩ := lacks _ failed id
    obtain ⟨rfl, present⟩ := subnetFor_eq_networkWithoutSubnet_iff.1 lacking
    exact present
  · simpa [h.all_metBy_iff] using unmet

/-- **The networks are listed only on demand**, and to list them always would make no other
difference. The provider is asked once the unwanted attachments are given up, and answers with
`listing`; nothing is asked of its other answers. -/
theorem convergeNetworks_lists_on_demand
    (lists : ∀ kept w₁ es, Succeeds p w (detachUnwanted s.region s.id d ∅ s.networks) kept w₁ es →
      w₁.outcome p s.region .listNetworks = .ok listing) : ListsOnDemand p w s d listing := by
  by_cases ends : ∃ kept w₁,
      (detachUnwanted s.region s.id d ∅ s.networks).run.exec p w = (some (.ok kept), w₁)
  · obtain ⟨kept, w₁, hexec⟩ := ends
    have h : Succeeds p w (detachUnwanted s.region s.id d ∅ s.networks) kept w₁ _ := ⟨hexec, rfl⟩
    by_cases all : d.networks.all (·.metBy kept) = true
    · exact h.listsOnDemand_of_met (lists kept w₁ _ h) all
    · exact h.listsOnDemand_of_unmet (lists kept w₁ _ h) all
  · exact listsOnDemand_of_broken fun kept w₁ hexec => ends ⟨kept, w₁, hexec⟩

/-- The sample update detaches nothing, and the networks of the sample cloud are listed. -/
theorem convergeNetworks_lists_on_demand_sample :
    ListsOnDemand Cloud.provider ⟨sampleCloud, 0⟩ sampleState sampleSpec sampleCloud.networks := by
  refine convergeNetworks_lists_on_demand fun kept w₁ es h => ?_
  have stays : w₁ = ⟨sampleCloud, 0⟩ := congrArg (·.2) h.exec_eq.symm
  rw [stays]
  rfl

end Reconciler
