import Reconciler.Proofs.Accounts
import Reconciler.Proofs.Update.Calls
import Reconciler.Proofs.Update.NetworkSteps
import Reconciler.Proofs.Update.Result

/-!
# The network calls of an update

An update gives up the ports that are not wanted, lists the networks if it must, and then sees to
the wanted networks one by one, in the order of the first requests for them. A network whose tracked
attachment satisfies the first request is left alone; for every other the tracked port is removed,
if there is one, and a new one is asked for. So no port is lost, none is removed twice, and what can
stay is never taken away.

## What is proved

* `Succeeds.detachUnwanted_calls`: the calls that give up what is not wanted.
* `Succeeds.meetRequest_sees`, `Succeeds.meetRequests_see`: the calls that see to the requests.
* `Succeeds.convergeNetworks_calls`: the calls of the step of the networks.
* `Succeeds.updateInstance_networkCalls`: the network calls of an update, in order.
-/

namespace Reconciler

variable {σ : Type} {p : Provider σ} {w w' : World σ} {es : List Exchange} {t : Tuning}
  {s s' : InstanceState} {d : InstanceSpec} {listing : List Network}

/-! ### Network calls -/

/-- The call is one of the provider's interface for networks. -/
def Call.isOnNetworks : Call → Bool
  | .listNetworks | .attachNetwork _ _ | .detachNetwork _ _ | .enablePortSecurity _ _
  | .disablePortSecurity _ _ => true
  | _ => false

/-- The network calls of some exchanges, and where they went. -/
def networkCalls (es : List Exchange) : List (Region × Call) :=
  (es.filter (·.call.isOnNetworks)).map fun e => (e.region, e.call)

theorem networkCalls_append (es fs : List Exchange) :
    networkCalls (es ++ fs) = networkCalls es ++ networkCalls fs := by
  rw [networkCalls, List.filter_append, List.map_append]
  rfl

theorem networkCalls_eq_nil (h : ∀ e ∈ es, e.call.isOnNetworks = false) :
    networkCalls es = [] := by
  rw [networkCalls, List.filter_eq_nil_iff.2 fun e he => by simp [h e he], List.map_nil]

/-! ### What is to be called -/

/-- The calls that give up a tracked attachment: the removal of its port, if it has one. -/
def givingUp (s : InstanceState) (a : NetworkAttachment) : List (Region × Call) :=
  if a.isAttached then [(s.region, .detachNetwork a.portId s.id)] else []

/-- The calls that give up the attachments to networks that are not wanted. -/
def givingUpUnwanted (s : InstanceState) (d : InstanceSpec) : List (Region × Call) :=
  (s.networks.filter fun a => (d.network? a.networkId).isNone).flatMap (givingUp s)

/-- Of several requests for one network the first. -/
def firstRequests (requests : List NetworkRequest) : List NetworkRequest :=
  requests.eraseDupsBy fun r q => r.networkId = q.networkId

/-- The call that asks for a port on a subnet, as the request says. -/
def attaching (s : InstanceState) (r : NetworkRequest) (subnet : Subnet) : Region × Call :=
  (s.region, .attachNetwork r.networkId
    { serverId := s.id, subnetId := subnet.id, ip := r.ip, portSecurity := r.portSecurity })

/-- The subnet is the first of the first listed network with the identifier. -/
def FirstSubnet (listing : List Network) (networkId : String) (subnet : Subnet) : Prop :=
  ∃ n, listing.find? (·.id = networkId) = some n ∧ n.subnets.head? = some subnet

/-- A tracked attachment is kept if its network is wanted, and the first request for the network is
satisfied by it. -/
def Kept (d : InstanceSpec) (a : NetworkAttachment) : Prop :=
  ∃ r, d.network? a.networkId = some r ∧ r.satisfiedBy a = true

/-- The tracked attachment to a network. -/
def InstanceState.attachmentTo? (s : InstanceState) (networkId : String) :
    Option NetworkAttachment :=
  s.networks.find? (·.networkId = networkId)

/-- **The calls that see to a request**, given the listing of the networks. -/
inductive SeesTo (s : InstanceState) (d : InstanceSpec) (listing : List Network)
    (r : NetworkRequest) : List (Region × Call) → Prop where
  /-- The tracked attachment is kept. -/
  | kept {a : NetworkAttachment} : s.attachmentTo? r.networkId = some a → Kept d a →
      SeesTo s d listing r []
  /-- The tracked attachment is given up for a new one. -/
  | renewed {a : NetworkAttachment} {subnet : Subnet} : s.attachmentTo? r.networkId = some a →
      ¬ Kept d a → FirstSubnet listing r.networkId subnet →
      SeesTo s d listing r (givingUp s a ++ [attaching s r subnet])
  /-- There is no tracked attachment. -/
  | added {subnet : Subnet} : s.attachmentTo? r.networkId = none →
      FirstSubnet listing r.networkId subnet → SeesTo s d listing r [attaching s r subnet]

/-- **The networks are listed** at most once; if they are not, the listing is empty. -/
inductive ListsNetworks (s : InstanceState) (es : List Exchange) :
    List Network → List (Region × Call) → Prop where
  /-- They are not listed. -/
  | not : ListsNetworks s es [] []
  /-- They are listed, and the provider answers. -/
  | once {start : Instant} {listing : List Network} :
      ⟨start, s.region, .listNetworks, .ok listing⟩ ∈ es →
      ListsNetworks s es listing [(s.region, .listNetworks)]

theorem ListsNetworks.mono {es' : List Exchange} {calls : List (Region × Call)}
    (h : ListsNetworks s es listing calls) (hes : ∀ e ∈ es, e ∈ es') :
    ListsNetworks s es' listing calls := by
  cases h with
  | not => exact .not
  | once listed => exact .once (hes _ listed)

/-- The calls of one request after another. -/
def SeesToAll (s : InstanceState) (d : InstanceSpec) (listing : List Network)
    (requests : List NetworkRequest) (calls : List (Region × Call)) : Prop :=
  ∃ groups, List.Forall₂ (SeesTo s d listing) requests groups ∧ calls = groups.flatten

theorem SeesToAll.cons {r : NetworkRequest} {rs : List NetworkRequest}
    {first rest : List (Region × Call)} (h : SeesTo s d listing r first)
    (hs : SeesToAll s d listing rs rest) : SeesToAll s d listing (r :: rs) (first ++ rest) := by
  obtain ⟨groups, hgroups, rfl⟩ := hs
  exact ⟨first :: groups, .cons h hgroups, rfl⟩

/-- **What remains of several requests for one network** is the first that a search finds. -/
theorem find?_of_mem_firstRequests {rs : List NetworkRequest} {r : NetworkRequest}
    (h : r ∈ firstRequests rs) : rs.find? (·.networkId = r.networkId) = some r := by
  -- The induction is on the length: the requests for the first network are left out at once.
  induction hn : rs.length using Nat.strongRecOn generalizing rs with
  | ind n ih =>
    cases rs with
    | nil => exact absurd h List.not_mem_nil
    | cons q rs =>
      rw [firstRequests, List.eraseDupsBy_cons, List.mem_cons] at h
      rcases h with rfl | h
      · exact List.find?_cons_of_pos (decide_eq_true rfl)
      · have shorter := List.length_filter_le (fun q' => decide (decide
          (q'.networkId = q.networkId) = false)) rs
        have found := ih _ (by rw [← hn, List.length_cons]; omega) h rfl
        have other : r.networkId ≠ q.networkId := by
          have := (List.mem_filter.1 (List.mem_of_find?_eq_some found)).2
          simpa using this
        rw [List.find?_cons_of_neg (by simpa using Ne.symm other), ← found, List.find?_filter]
        congr 1
        funext q'
        by_cases hq' : q'.networkId = r.networkId <;> simp [hq', other]

theorem kept_iff {r : NetworkRequest} {a : NetworkAttachment}
    (first : d.network? r.networkId = some r) (tracked : s.attachmentTo? r.networkId = some a) :
    Kept d a ↔ r.satisfiedBy a = true := by
  have same : a.networkId = r.networkId := by
    simpa using List.find?_some tracked
  rw [Kept, same, first]
  exact ⟨fun ⟨q, hq, h⟩ => Option.some.inj hq ▸ h, fun h => ⟨r, rfl, h⟩⟩

/-! ### The step of the networks -/

theorem Succeeds.detachFrom_calls {a : NetworkAttachment}
    (h : Succeeds p w (detachFrom s.region s.id a) () w' es) : networkCalls es = givingUp s a := by
  rw [detachFrom] at h
  rw [givingUp]
  split_ifs at h ⊢
  · obtain ⟨-, -, rfl⟩ := succeeds_ask_iff.1 h
    rfl
  · obtain ⟨-, -, rfl⟩ := succeeds_pure_iff.1 h
    rfl

/-- **What is not wanted is given up**, in the order in which it is tracked. -/
theorem Succeeds.detachUnwanted_calls {as : List NetworkAttachment}
    {kept kept' : IdMap NetworkAttachment}
    (h : Succeeds p w (detachUnwanted s.region s.id d kept as) kept' w' es) :
    networkCalls es =
      (as.filter fun a => (d.network? a.networkId).isNone).flatMap (givingUp s) := by
  induction as generalizing kept w es with
  | nil =>
    obtain ⟨-, -, rfl⟩ := succeeds_pure_iff.1 h
    rfl
  | cons a as ih =>
    rw [detachUnwanted] at h
    split_ifs at h with wanted
    · rw [ih h, List.filter_cons_of_neg (by simpa [Option.isSome_iff_ne_none] using wanted)]
    · obtain ⟨_, w₁, es₁, es₂, hfirst, hrest, rfl⟩ := succeeds_bind_iff.1 h
      rw [networkCalls_append, hfirst.detachFrom_calls, ih hrest,
        List.filter_cons_of_pos (by simpa using wanted), List.flatMap_cons]

theorem firstSubnet_of_subnetFor {networkId : String} {subnet : Subnet}
    (h : subnetFor listing networkId = .ok subnet) : FirstSubnet listing networkId subnet := by
  obtain ⟨n, rest, found, subnets⟩ := subnetFor_eq_ok_iff.1 h
  exact ⟨n, found, by rw [subnets]; rfl⟩

theorem Succeeds.attachTo_calls {r : NetworkRequest} {a : NetworkAttachment}
    (h : Succeeds p w (attachTo s.region s.id listing r) a w' es) :
    ∃ subnet, FirstSubnet listing r.networkId subnet ∧
      networkCalls es = [attaching s r subnet] := by
  obtain ⟨subnet, w₁, es₁, es₂, hsubnet, hcall, rfl⟩ := succeeds_bind_iff.1 h
  obtain ⟨port, w₂, es₃, es₄, hport, hpure, rfl⟩ := succeeds_bind_iff.1 hcall
  obtain ⟨-, -, rfl⟩ := succeeds_pure_iff.1 hpure
  obtain ⟨-, -, rfl⟩ := succeeds_ask_iff.1 hport
  have found : subnetFor listing r.networkId = .ok subnet :=
    Option.some.inj (congrArg Prod.fst hsubnet.exec_eq)
  obtain rfl : [] = es₁ := hsubnet.trace_eq
  exact ⟨subnet, firstSubnet_of_subnetFor found, rfl⟩

/-- **A request is seen to**, if what is remembered for its network is what is tracked. -/
theorem Succeeds.meetRequest_sees {kept : IdMap NetworkAttachment} {r : NetworkRequest}
    {a : NetworkAttachment} (first : d.network? r.networkId = some r)
    (tracked : kept.find? r.networkId = s.attachmentTo? r.networkId)
    (h : Succeeds p w (meetRequest s.region s.id listing kept r) a w' es) :
    SeesTo s d listing r (networkCalls es) := by
  rw [meetRequest, tracked] at h
  split at h
  · rename_i none_tracked
    obtain ⟨subnet, found, calls⟩ := h.attachTo_calls
    rw [calls]
    exact .added none_tracked found
  · rename_i b tracked
    split_ifs at h with satisfied
    · obtain ⟨-, -, rfl⟩ := succeeds_pure_iff.1 h
      exact .kept tracked ((kept_iff first tracked).2 satisfied)
    · obtain ⟨_, w₁, es₁, es₂, hdetach, hattach, rfl⟩ := succeeds_bind_iff.1 h
      obtain ⟨subnet, found, calls⟩ := hattach.attachTo_calls
      rw [networkCalls_append, hdetach.detachFrom_calls, calls]
      exact .renewed tracked (mt (kept_iff first tracked).1 satisfied) found

/-- The requests for networks that `met` has no attachment to. -/
def unmet (met : List NetworkAttachment) (rs : List NetworkRequest) : List NetworkRequest :=
  rs.filter fun r => r.networkId ∉ met.map (·.networkId)

/-- Once the first request is met, the later ones for its network are passed over. -/
theorem firstRequests_unmet_cons {met : List NetworkAttachment} {r : NetworkRequest}
    {rs : List NetworkRequest} {a : NetworkAttachment} (ha : a.networkId = r.networkId)
    (hr : r.networkId ∉ met.map (·.networkId)) :
    firstRequests (unmet met (r :: rs)) = r :: firstRequests (unmet (met ++ [a]) rs) := by
  rw [unmet, List.filter_cons_of_pos (by simpa using hr), firstRequests, List.eraseDupsBy_cons,
    List.filter_filter, firstRequests, unmet]
  congr 2
  refine List.filter_congr fun q _ => ?_
  rw [List.map_append, List.map_singleton, ha]
  by_cases hq : q.networkId = r.networkId <;> simp [hq]

/-- **The requests are seen to** one after another, the first for each network. -/
theorem Succeeds.meetRequests_see {kept : IdMap NetworkAttachment} {met : List NetworkAttachment}
    {rs : List NetworkRequest} {networks : List NetworkAttachment}
    (first : ∀ r ∈ firstRequests (unmet met rs), d.network? r.networkId = some r)
    (tracked : ∀ r ∈ unmet met rs, kept.find? r.networkId = s.attachmentTo? r.networkId)
    (h : Succeeds p w (meetRequests s.region s.id listing kept met rs) networks w' es) :
    SeesToAll s d listing (firstRequests (unmet met rs)) (networkCalls es) := by
  induction rs generalizing kept met w es with
  | nil =>
    obtain ⟨-, -, rfl⟩ := succeeds_pure_iff.1 h
    exact ⟨[], .nil, rfl⟩
  | cons r rs ih =>
    rw [meetRequests] at h
    split_ifs at h with isMet
    · have same : unmet met (r :: rs) = unmet met rs :=
        List.filter_cons_of_neg (by simpa using any_networkId_iff.1 isMet)
      rw [same] at first tracked ⊢
      exact ih first tracked h
    · have notMet := mt any_networkId_iff.2 isMet
      obtain ⟨a, w₁, es₁, es₂, hfirst, hrest, rfl⟩ := succeeds_bind_iff.1 h
      have ha := hfirst.meetRequest_meets.networkId_eq
      rw [firstRequests_unmet_cons ha notMet] at first ⊢
      have here := hfirst.meetRequest_sees (first r List.mem_cons_self) (tracked r
        (List.mem_filter.2 ⟨List.mem_cons_self, by simpa using notMet⟩))
      rw [networkCalls_append]
      have others (q) (hq : q ∈ firstRequests (unmet (met ++ [a]) rs)) :=
        first q (List.mem_cons_of_mem _ hq)
      refine .cons here (ih others (fun q hq => ?_) hrest)
      -- Only what was remembered for the network of the first request is forgotten.
      obtain ⟨hmem, hunmet⟩ := List.mem_filter.1 hq
      simp only [List.map_append, List.map_cons, List.map_nil, List.mem_append, List.mem_singleton,
        not_or, ha, decide_eq_true_eq] at hunmet
      rw [IdMap.find?_erase, if_neg hunmet.2]
      exact tracked q (List.mem_filter.2 ⟨List.mem_cons_of_mem _ hmem, by simpa using hunmet.1⟩)

/-- **The network calls of the step of the networks.** -/
theorem Succeeds.convergeNetworks_calls {networks : List NetworkAttachment}
    (distinct : (s.networks.map (·.networkId)).Nodup)
    (h : Succeeds p w (convergeNetworks s d) networks w' es) :
    ∃ listing listed seen, ListsNetworks s es listing listed ∧
      SeesToAll s d listing (firstRequests d.networks) seen ∧
      networkCalls es = givingUpUnwanted s d ++ (listed ++ seen) := by
  rw [convergeNetworks] at h
  obtain ⟨kept, w₁, es₁, es₂, hkept, hrest, rfl⟩ := succeeds_bind_iff.1 h
  have tracked : ∀ r ∈ d.networks, kept.find? r.networkId = s.attachmentTo? r.networkId := by
    intro r hr
    have wanted : (d.network? r.networkId).isSome :=
      List.find?_isSome.2 ⟨r, hr, decide_eq_true rfl⟩
    rw [hkept.detachUnwanted_find?, if_pos wanted, IdMap.find?_empty, Option.or_none,
      lastTo?_eq_find? distinct]
    rfl
  have meets {listing : List Network} {v : World σ} {fs : List Exchange}
      (h : Succeeds p v (meetRequests s.region s.id listing kept [] d.networks) networks w' fs) :
      SeesToAll s d listing (firstRequests d.networks) (networkCalls fs) := by
    have all : unmet [] d.networks = d.networks := List.filter_eq_self.2 (by simp)
    rw [← all] at tracked ⊢
    exact h.meetRequests_see (fun r hr => find?_of_mem_firstRequests (all ▸ hr)) tracked
  rw [networkCalls_append, hkept.detachUnwanted_calls]
  split_ifs at hrest
  · obtain ⟨listing, w₂, es₃, es₄, hpure, hmeet, rfl⟩ := succeeds_bind_iff.1 hrest
    obtain ⟨rfl, -, rfl⟩ := succeeds_pure_iff.1 hpure
    exact ⟨[], [], _, .not, meets hmeet, rfl⟩
  · obtain ⟨listing, w₂, es₃, es₄, hlist, hmeet, rfl⟩ := succeeds_bind_iff.1 hrest
    obtain ⟨-, -, rfl⟩ := succeeds_ask_iff.1 hlist
    have isListed := List.mem_append_left es₄ <|
      List.mem_singleton_self (⟨w₁.now, s.region, .listNetworks, .ok listing⟩ : Exchange)
    exact ⟨listing, _, _, .once (List.mem_append_right es₁ isListed), meets hmeet,
      by rw [networkCalls_append]; rfl⟩

/-! ### The whole update -/

/-- A run of a program that makes no network calls has none. -/
theorem Succeeds.networkCalls_eq_nil {α : Type} {task : Task α} {a : α}
    (h : Succeeds p w task a w' es) (quiet : task.run.Makes (·.isOnNetworks = false)) :
    networkCalls es = [] := by
  obtain rfl := h.trace_eq
  exact Reconciler.networkCalls_eq_nil fun e he => quiet.call_mem he

/-- **Neither leaks nor double frees.** An update that succeeds gives up the ports on networks that
are not wanted, in the order in which they are tracked; then it lists the networks, at most once;
then it sees to the first request for each network, in the order of the requests; and it makes no
other network call. What is kept is in the state afterwards as it was. -/
theorem Succeeds.updateInstance_networkCalls (distinct : (s.networks.map (·.networkId)).Nodup)
    (h : Succeeds p w (updateInstance t s d) s' w' es) :
    (∃ listing listed groups, ListsNetworks s es listing listed ∧
      List.Forall₂ (SeesTo s d listing) (firstRequests d.networks) groups ∧
      networkCalls es = givingUpUnwanted s d ++ (listed ++ groups.flatten)) ∧
      ∀ a ∈ s.networks, Kept d a → a ∈ s'.networks := by
  obtain ⟨allowed, -⟩ := h.updateInstance_eq
  rw [updateInstance_of_allowed allowed] at h
  obtain ⟨networks, w₁, w₂, w₃, w₄, w₅, w₆, w₇, es₁, es₂, es₃, es₄, es₅, es₆, es₇, es₈, h₁, h₂, h₃,
    h₄, h₅, h₆, h₇, h₈, rfl, rfl⟩ := succeeds_convergeExisting_iff.1 h
  obtain ⟨listing, listed, _, lists, ⟨groups, seen, rfl⟩, calls⟩ :=
    h₅.convergeNetworks_calls distinct
  refine ⟨⟨listing, listed, groups, lists.mono fun e he => by simp [he], seen, ?_⟩, ?_⟩
  · simp only [networkCalls_append, calls,
      h₁.networkCalls_eq_nil (makes_rename_of rfl),
      h₂.networkCalls_eq_nil (makes_convergeGroups_of (fun _ => rfl) fun _ => rfl),
      h₃.networkCalls_eq_nil (makes_resizeFlavor_of rfl rfl rfl rfl),
      h₄.networkCalls_eq_nil (makes_convergeVolumes_of (fun _ => rfl) fun _ => rfl),
      h₆.networkCalls_eq_nil (makes_growRootDisk_of rfl rfl rfl),
      h₇.networkCalls_eq_nil (makes_convergeFloatingIp_of rfl (fun _ _ => rfl) fun _ => rfl),
      h₈.networkCalls_eq_nil (makes_revertSnapshot_of fun _ => rfl),
      List.nil_append, List.append_nil]
  · rintro a ha ⟨r, hr, satisfied⟩
    exact h₅.convergeNetworks_keeps hr (lastTo?_of_nodup distinct ha) satisfied

-- The listing, the new network, and the tracked one with another filter.
example :
    networkCalls ((updateInstance {} sampleState sampleSpec).run.trace Cloud.provider
        ⟨sampleCloud, 0⟩) =
      [(sampleState.region, .listNetworks),
        (sampleState.region, .attachNetwork "net-b"
          { serverId := "vm", subnetId := "sub-b", ip := some "10.0.1.5", portSecurity := false }),
        (sampleState.region, .detachNetwork "p1" "vm"),
        (sampleState.region, .attachNetwork "net-a"
          { serverId := "vm", subnetId := "sub-a", ip := none, portSecurity := true })] := by
  decide +kernel

/-- The sample update adds a network, and renews the attachment to the one that is tracked. -/
theorem updateInstance_networkCalls_sample :
    (sampleState.networks.map (·.networkId)).Nodup ∧
      ∃ w' es, Succeeds Cloud.provider ⟨sampleCloud, 0⟩ (updateInstance {} sampleState sampleSpec)
        sampleResult w' es ∧
      (∃ listing listed groups, ListsNetworks sampleState es listing listed ∧
        List.Forall₂ (SeesTo sampleState sampleSpec listing) (firstRequests sampleSpec.networks)
          groups ∧
        networkCalls es =
          givingUpUnwanted sampleState sampleSpec ++ (listed ++ groups.flatten)) ∧
      ∀ a ∈ sampleState.networks, Kept sampleSpec a → a ∈ sampleResult.networks :=
  have distinct : (sampleState.networks.map (·.networkId)).Nodup := by decide
  have run := succeeds_of_exec exec_sampleUpdate
  ⟨distinct, _, _, run, Succeeds.updateInstance_networkCalls distinct run⟩

end Reconciler
