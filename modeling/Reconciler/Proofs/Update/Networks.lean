import Reconciler.Lifecycle.Update.Networks
import Reconciler.Proofs.Lists
import Reconciler.Proofs.Runs

/-!
# What reconciling the networks gives

The attachments that a successful reconciliation of the networks ends with, for every provider: one
for each requested network, in the order of the first requests, and each either one that was tracked
and satisfies the first request for its network or one that was made for that request.

## What is proved

* `Succeeds.detachUnwanted_find?`: what is remembered for a network is the last tracked attachment
  to it, if the network is wanted.
* `Succeeds.meetRequests_eq`: what meeting the requests one by one adds.
* `Succeeds.convergeNetworks_ids`, `Succeeds.convergeNetworks_origin`: the networks of the
  attachments afterwards, and where each attachment comes from.
* `Succeeds.convergeNetworks_keeps`, `Succeeds.convergeNetworks_givesUp`: which tracked attachments
  are kept and which are given up.
-/

namespace Reconciler

variable {σ : Type} {p : Provider σ} {w w' : World σ} {es : List Exchange}
  {region : Region} {id : InstanceId}

/-! ### Attachments by their network -/

/-- Of some attachments the last to a network, which is the one an update works with. -/
def lastTo? (attachments : List NetworkAttachment) (networkId : String) :
    Option NetworkAttachment :=
  attachments.reverse.find? (·.networkId = networkId)

theorem lastTo?_cons (a : NetworkAttachment) (as : List NetworkAttachment) (k : String) :
    lastTo? (a :: as) k = (lastTo? as k).or (if a.networkId = k then some a else none) := by
  rw [lastTo?, List.reverse_cons, List.find?_append, List.find?_singleton]
  simp only [decide_eq_true_eq]
  rfl

theorem lastTo?_some {as : List NetworkAttachment} {k : String} {a : NetworkAttachment}
    (h : lastTo? as k = some a) : a ∈ as ∧ a.networkId = k := by
  have hk := List.find?_some h
  simp only [decide_eq_true_eq] at hk
  exact ⟨List.mem_reverse.1 (List.mem_of_find?_eq_some h), hk⟩

/-- The last attachment to a network is the only one, if no network occurs twice. -/
theorem lastTo?_of_nodup {as : List NetworkAttachment} (hn : (as.map (·.networkId)).Nodup)
    {a : NetworkAttachment} (ha : a ∈ as) : lastTo? as a.networkId = some a :=
  find?_of_nodup (by rwa [List.map_reverse, List.nodup_reverse]) (List.mem_reverse.2 ha)

/-- The attachment `a` was made for the request `r`: it is the port that a call among `es` answered,
a call for the network, the address and the filter that `r` asks for. -/
def MadeFor (region : Region) (id : InstanceId) (es : List Exchange) (r : NetworkRequest)
    (a : NetworkAttachment) : Prop :=
  ∃ (start : Instant) (subnet : Subnet) (port : AttachedPort),
    ⟨start, region, .attachNetwork r.networkId
      { serverId := id, subnetId := subnet.id, ip := r.ip, portSecurity := r.portSecurity },
      .ok port⟩ ∈ es ∧ a = .ofPort r subnet port

theorem MadeFor.networkId_eq {r : NetworkRequest} {a : NetworkAttachment}
    (h : MadeFor region id es r a) : a.networkId = r.networkId := by
  obtain ⟨_, _, _, -, rfl⟩ := h
  rfl

theorem MadeFor.mono {es' : List Exchange} {r : NetworkRequest} {a : NetworkAttachment}
    (h : MadeFor region id es r a) (hes : ∀ e ∈ es, e ∈ es') : MadeFor region id es' r a := by
  obtain ⟨start, subnet, port, he, ha⟩ := h
  exact ⟨start, subnet, port, hes _ he, ha⟩

/-- Where an attachment that meets the request `r` comes from: it is remembered and satisfies the
request, or no remembered one does and it was made for the request. -/
def Meets (region : Region) (id : InstanceId) (kept : IdMap NetworkAttachment) (es : List Exchange)
    (r : NetworkRequest) (a : NetworkAttachment) : Prop :=
  (kept.find? r.networkId = some a ∧ r.satisfiedBy a = true) ∨
    (r.metBy kept = false ∧ MadeFor region id es r a)

theorem NetworkRequest.networkId_of_satisfiedBy {r : NetworkRequest} {a : NetworkAttachment}
    (h : r.satisfiedBy a = true) : a.networkId = r.networkId := by
  simp only [NetworkRequest.satisfiedBy, Bool.and_eq_true, decide_eq_true_eq] at h
  exact h.1.1.1.symm

theorem NetworkRequest.isAttached_of_satisfiedBy {r : NetworkRequest} {a : NetworkAttachment}
    (h : r.satisfiedBy a = true) : a.isAttached = true := by
  simp only [NetworkRequest.satisfiedBy, Bool.and_eq_true, decide_eq_true_eq] at h
  exact h.1.1.2

theorem Meets.networkId_eq {kept : IdMap NetworkAttachment} {r : NetworkRequest}
    {a : NetworkAttachment} (h : Meets region id kept es r a) : a.networkId = r.networkId := by
  rcases h with ⟨-, h⟩ | ⟨-, h⟩
  · exact NetworkRequest.networkId_of_satisfiedBy h
  · exact h.networkId_eq

theorem Meets.mono {kept : IdMap NetworkAttachment} {es' : List Exchange} {r : NetworkRequest}
    {a : NetworkAttachment} (h : Meets region id kept es r a) (hes : ∀ e ∈ es, e ∈ es') :
    Meets region id kept es' r a := by
  rcases h with h | ⟨hr, hmade⟩
  · exact .inl h
  · exact .inr ⟨hr, hmade.mono hes⟩

/-- What meets a request met it before another network was forgotten. -/
theorem Meets.of_erase {kept : IdMap NetworkAttachment} {k : String} {r : NetworkRequest}
    {a : NetworkAttachment} (h : Meets region id (kept.erase k) es r a) (hk : r.networkId ≠ k) :
    Meets region id kept es r a := by
  rwa [Meets, NetworkRequest.metBy, IdMap.find?_erase, if_neg hk] at h

/-! ### Giving up what is not wanted -/

/-- **What is remembered** after the attachments to unwanted networks are given up. -/
theorem Succeeds.detachUnwanted_find? {desired : InstanceSpec} {as : List NetworkAttachment}
    {kept kept' : IdMap NetworkAttachment}
    (h : Succeeds p w (detachUnwanted region id desired kept as) kept' w' es) (k : String) :
    kept'.find? k =
      if (desired.network? k).isSome then (lastTo? as k).or (kept.find? k) else kept.find? k := by
  induction as generalizing kept w es with
  | nil =>
    obtain ⟨rfl, -, -⟩ := succeeds_pure_iff.1 h
    simp [lastTo?]
  | cons a as ih =>
    rw [detachUnwanted] at h
    rw [lastTo?_cons, Option.or_assoc]
    split at h
    · rename_i hw
      rw [ih h, IdMap.find?_insert]
      by_cases hk : k = a.networkId
      · subst hk
        simp [hw]
      · simp [hk, Ne.symm hk]
    · rename_i hw
      obtain ⟨_, w₁, es₁, es₂, -, h, -⟩ := succeeds_bind_iff.1 h
      rw [ih h]
      by_cases hk : a.networkId = k
      · subst hk
        simp [hw]
      · simp [hk]

/-! ### Meeting the requests -/

theorem Succeeds.attachTo_madeFor {listing : List Network} {r : NetworkRequest}
    {a : NetworkAttachment} (h : Succeeds p w (attachTo region id listing r) a w' es) :
    MadeFor region id es r a := by
  obtain ⟨subnet, w₁, es₁, es₂, -, hcall, rfl⟩ := succeeds_bind_iff.1 h
  obtain ⟨port, w₂, es₃, es₄, hport, hpure, rfl⟩ := succeeds_bind_iff.1 hcall
  obtain ⟨rfl, -, rfl⟩ := succeeds_pure_iff.1 hpure
  obtain ⟨-, -, rfl⟩ := succeeds_ask_iff.1 hport
  exact ⟨w₁.now, subnet, port, by simp, rfl⟩

theorem Succeeds.meetRequest_meets {listing : List Network} {kept : IdMap NetworkAttachment}
    {r : NetworkRequest} {a : NetworkAttachment}
    (h : Succeeds p w (meetRequest region id listing kept r) a w' es) :
    Meets region id kept es r a := by
  rw [meetRequest] at h
  split at h
  · rename_i hb
    exact .inr ⟨by simp [NetworkRequest.metBy, hb], h.attachTo_madeFor⟩
  · rename_i b hb
    split at h
    · rename_i hs
      obtain ⟨rfl, -, -⟩ := succeeds_pure_iff.1 h
      exact .inl ⟨hb, hs⟩
    · rename_i hs
      obtain ⟨_, w₁, es₁, es₂, -, hattach, rfl⟩ := succeeds_bind_iff.1 h
      have hmade := hattach.attachTo_madeFor.mono fun e he => List.mem_append_right es₁ he
      exact .inr ⟨by simpa [NetworkRequest.metBy, hb] using hs, hmade⟩

theorem any_networkId_iff {as : List NetworkAttachment} {k : String} :
    as.any (·.networkId = k) = true ↔ k ∈ as.map (·.networkId) := by
  simp only [List.any_eq_true, decide_eq_true_eq, List.mem_map]

/-- The requested networks that `met` has no attachment to. -/
def unmetIds (met : List NetworkAttachment) (rs : List NetworkRequest) : List String :=
  (rs.map (·.networkId)).filter fun k => k ∉ met.map (·.networkId)

/-- **Meeting the requests** adds one attachment for each network that has none yet, in the order of
the first requests, and each meets the first request for its network. -/
theorem Succeeds.meetRequests_eq {listing : List Network} {kept : IdMap NetworkAttachment}
    {met : List NetworkAttachment} {rs : List NetworkRequest} {networks : List NetworkAttachment}
    (h : Succeeds p w (meetRequests region id listing kept met rs) networks w' es) :
    ∃ new, networks = met ++ new ∧ new.map (·.networkId) = (unmetIds met rs).eraseDups ∧
      ∀ a ∈ new, ∃ r, rs.find? (·.networkId = a.networkId) = some r ∧
        Meets region id kept es r a := by
  induction rs generalizing kept met w es with
  | nil =>
    obtain ⟨rfl, -, -⟩ := succeeds_pure_iff.1 h
    exact ⟨[], by simp, by simp [unmetIds], by simp⟩
  | cons r rs ih =>
    rw [meetRequests] at h
    split at h
    · rename_i hm
      obtain ⟨new, rfl, hids, hnew⟩ := ih h
      have hr := any_networkId_iff.1 hm
      refine ⟨new, rfl, ?_, fun a ha => ?_⟩
      · rw [hids, unmetIds, unmetIds, List.map_cons, List.filter_cons_of_neg (by simpa using hr)]
      · obtain ⟨q, hq, hmeets⟩ := hnew a ha
        have hne : r.networkId ≠ a.networkId := by
          have : a.networkId ∈ unmetIds met rs :=
            List.mem_eraseDups.1 (hids ▸ List.mem_map_of_mem ha)
          rintro he
          rw [← he, unmetIds, List.mem_filter] at this
          exact absurd hr (by simpa using this.2)
        exact ⟨q, by rw [List.find?_cons_of_neg (by simpa using hne)]; exact hq, hmeets⟩
    · rename_i hm
      obtain ⟨a, w₁, es₁, es₂, ha, hrest, rfl⟩ := succeeds_bind_iff.1 h
      obtain ⟨new, rfl, hids, hnew⟩ := ih hrest
      have hmeets := ha.meetRequest_meets
      have hk := hmeets.networkId_eq
      have hr := mt any_networkId_iff.2 hm
      have hunmet : unmetIds (met ++ [a]) rs =
          (unmetIds met rs).filter fun k => !(k == r.networkId) := by
        rw [unmetIds, unmetIds, List.filter_filter]
        refine List.filter_congr fun k _ => ?_
        rw [List.map_append, List.map_singleton, hk]
        by_cases hkr : k = r.networkId <;> simp [hkr]
      refine ⟨a :: new, by simp, ?_, fun b hb => ?_⟩
      · rw [List.map_cons, hids, hk, hunmet, unmetIds, unmetIds, List.map_cons,
          List.filter_cons_of_pos (by simpa using hr), List.eraseDups_cons]
      · rcases List.mem_cons.1 hb with rfl | hb
        · exact ⟨r, List.find?_cons_of_pos (by simp [hk]),
            hmeets.mono fun e he => List.mem_append_left _ he⟩
        · obtain ⟨q, hq, hmeets⟩ := hnew b hb
          have hne : b.networkId ≠ r.networkId := by
            have : b.networkId ∈ unmetIds (met ++ [a]) rs :=
              List.mem_eraseDups.1 (hids ▸ List.mem_map_of_mem hb)
            rw [hunmet, List.mem_filter] at this
            simpa using this.2
          refine ⟨q, ?_, ?_⟩
          · rw [List.find?_cons_of_neg (by simpa using Ne.symm hne)]
            exact hq
          · exact (hmeets.of_erase (hmeets.networkId_eq ▸ hne)).mono
              fun e he => List.mem_append_right _ he

/-! ### What is given up -/

/-- The attachment `a` is given up: its port is removed by a call among `es`. -/
def GivenUp (region : Region) (id : InstanceId) (es : List Exchange) (a : NetworkAttachment) :
    Prop :=
  ∃ start, ⟨start, region, .detachNetwork a.portId id, .ok ()⟩ ∈ es

theorem GivenUp.mono {es' : List Exchange} {a : NetworkAttachment} (h : GivenUp region id es a)
    (hes : ∀ e ∈ es, e ∈ es') : GivenUp region id es' a := by
  obtain ⟨start, he⟩ := h
  exact ⟨start, hes _ he⟩

theorem Succeeds.detachFrom_givenUp {a : NetworkAttachment}
    (h : Succeeds p w (detachFrom region id a) () w' es) (ha : a.isAttached = true) :
    GivenUp region id es a := by
  rw [detachFrom, if_pos ha] at h
  obtain ⟨-, -, rfl⟩ := succeeds_ask_iff.1 h
  exact ⟨w.now, List.mem_singleton_self _⟩

/-- An attachment to a network that is not wanted is given up. -/
theorem Succeeds.detachUnwanted_givenUp {desired : InstanceSpec} {as : List NetworkAttachment}
    {kept kept' : IdMap NetworkAttachment}
    (h : Succeeds p w (detachUnwanted region id desired kept as) kept' w' es)
    {a : NetworkAttachment} (ha : a ∈ as) (hattached : a.isAttached = true)
    (hunwanted : (desired.network? a.networkId).isSome = false) : GivenUp region id es a := by
  induction as generalizing kept w es with
  | nil => exact absurd ha List.not_mem_nil
  | cons b as ih =>
    rw [detachUnwanted] at h
    split at h
    · rename_i hw
      rcases List.mem_cons.1 ha with rfl | ha
      · simp [hunwanted] at hw
      · exact ih h ha
    · obtain ⟨_, w₁, es₁, es₂, hfirst, hrest, rfl⟩ := succeeds_bind_iff.1 h
      rcases List.mem_cons.1 ha with rfl | ha
      · exact (hfirst.detachFrom_givenUp hattached).mono fun e he => List.mem_append_left _ he
      · exact (ih hrest ha).mono fun e he => List.mem_append_right _ he

/-- What is remembered for a network is given up, if it does not satisfy the first request for
it. -/
theorem Succeeds.meetRequests_givenUp {listing : List Network} {kept : IdMap NetworkAttachment}
    {met : List NetworkAttachment} {rs : List NetworkRequest} {networks : List NetworkAttachment}
    (h : Succeeds p w (meetRequests region id listing kept met rs) networks w' es) {k : String}
    {r : NetworkRequest} {a : NetworkAttachment} (hk : k ∉ met.map (·.networkId))
    (hr : rs.find? (·.networkId = k) = some r) (ha : kept.find? k = some a)
    (hattached : a.isAttached = true) (hsat : r.satisfiedBy a = false) :
    GivenUp region id es a := by
  induction rs generalizing kept met w es with
  | nil => exact absurd hr (by simp)
  | cons q rs ih =>
    rw [meetRequests] at h
    split at h
    · rename_i hmet
      have hne : q.networkId ≠ k := fun hqk => hk (hqk ▸ any_networkId_iff.1 hmet)
      rw [List.find?_cons_of_neg (by simpa using hne)] at hr
      exact ih h hk hr ha
    · obtain ⟨b, w₁, es₁, es₂, hfirst, hrest, rfl⟩ := succeeds_bind_iff.1 h
      by_cases hqk : q.networkId = k
      · rw [List.find?_cons_of_pos (by simpa using hqk), Option.some.injEq] at hr
        subst hr
        rw [meetRequest, hqk, ha] at hfirst
        simp only [hsat, Bool.false_eq_true, if_false] at hfirst
        obtain ⟨_, w₂, es₃, es₄, hdetach, -, rfl⟩ := succeeds_bind_iff.1 hfirst
        exact (hdetach.detachFrom_givenUp hattached).mono fun e he => by simp [he]
      · rw [List.find?_cons_of_neg (by simpa using hqk)] at hr
        have hb := hfirst.meetRequest_meets.networkId_eq
        have rest : GivenUp region id es₂ a := by
          refine ih hrest ?_ hr ?_
          · rw [List.map_append, List.mem_append, not_or]
            exact ⟨hk, by simpa [hb] using Ne.symm hqk⟩
          · rwa [IdMap.find?_erase, if_neg (Ne.symm hqk)]
        exact rest.mono fun e he => List.mem_append_right _ he

/-! ### The whole reconciliation -/

variable {observed : InstanceState} {desired : InstanceSpec} {networks : List NetworkAttachment}

/-- A reconciliation that succeeds ends with meeting the requests, from what is remembered of the
tracked attachments. -/
theorem Succeeds.convergeNetworks_meet
    (h : Succeeds p w (convergeNetworks observed desired) networks w' es) :
    ∃ w₁ kept listing es₁, Succeeds p w₁
        (meetRequests observed.region observed.id listing kept [] desired.networks) networks w' es₁ ∧
      (∀ e ∈ es₁, e ∈ es) ∧
      ∀ k, kept.find? k =
        if (desired.network? k).isSome then lastTo? observed.networks k else none := by
  rw [convergeNetworks] at h
  obtain ⟨kept, w₁, es₁, es₂, hkept, hrest, rfl⟩ := succeeds_bind_iff.1 h
  have hfind : ∀ k, kept.find? k =
      if (desired.network? k).isSome then lastTo? observed.networks k else none := fun k => by
    rw [hkept.detachUnwanted_find?, IdMap.find?_empty, Option.or_none]
  obtain ⟨listing, w₂, es₃, hes, hmeet⟩ : ∃ listing w₂ es₃, (∀ e ∈ es₃, e ∈ es₂) ∧
      Succeeds p w₂ (meetRequests observed.region observed.id listing kept [] desired.networks)
        networks w' es₃ := by
    split at hrest
    all_goals
      obtain ⟨listing, w₂, es₃, es₄, -, hmeet, rfl⟩ := succeeds_bind_iff.1 hrest
      exact ⟨listing, w₂, es₄, fun e he => List.mem_append_right _ he, hmeet⟩
  exact ⟨w₂, kept, listing, es₃, hmeet, fun e he => List.mem_append_right _ (hes e he), hfind⟩

/-- **The networks of the attachments afterwards** are those requested, in the order of the first
requests. -/
theorem Succeeds.convergeNetworks_ids
    (h : Succeeds p w (convergeNetworks observed desired) networks w' es) :
    networks.map (·.networkId) = (desired.networks.map (·.networkId)).eraseDups := by
  obtain ⟨_, kept, listing, es₁, hmeet, -, -⟩ := h.convergeNetworks_meet
  obtain ⟨new, rfl, hids, -⟩ := hmeet.meetRequests_eq
  rw [hids, unmetIds]
  congr 1
  exact List.filter_eq_self.2 (by simp)

/-- **Where an attachment afterwards comes from**: it is the last tracked one to its network and
satisfies the first request for it, or that one does not and it was made for the request. -/
theorem Succeeds.convergeNetworks_origin
    (h : Succeeds p w (convergeNetworks observed desired) networks w' es) {a : NetworkAttachment}
    (ha : a ∈ networks) :
    ∃ r, desired.network? a.networkId = some r ∧
      ((lastTo? observed.networks a.networkId = some a ∧ r.satisfiedBy a = true) ∨
        ((lastTo? observed.networks a.networkId).any r.satisfiedBy = false ∧
          MadeFor observed.region observed.id es r a)) := by
  obtain ⟨_, kept, listing, es₁, hmeet, hes, hkept⟩ := h.convergeNetworks_meet
  obtain ⟨new, rfl, -, hnew⟩ := hmeet.meetRequests_eq
  obtain ⟨r, hr, hmeets⟩ := hnew a (by simpa using ha)
  have hwanted : (desired.network? a.networkId).isSome := by rw [InstanceSpec.network?, hr]; rfl
  refine ⟨r, hr, ?_⟩
  have hk := hmeets.networkId_eq
  rw [Meets, NetworkRequest.metBy, ← hk, hkept, if_pos hwanted] at hmeets
  rcases hmeets with hkeeps | ⟨hunmet, hmade⟩
  · exact .inl hkeeps
  · exact .inr ⟨hunmet, hmade.mono hes⟩

/-- **A tracked attachment is kept** if it is the last to its network and satisfies the first
request for it. -/
theorem Succeeds.convergeNetworks_keeps
    (h : Succeeds p w (convergeNetworks observed desired) networks w' es) {k : String}
    {r : NetworkRequest} {a : NetworkAttachment} (hr : desired.network? k = some r)
    (ha : lastTo? observed.networks k = some a) (hsat : r.satisfiedBy a = true) : a ∈ networks := by
  have hk : k ∈ networks.map (·.networkId) := by
    rw [h.convergeNetworks_ids, List.mem_eraseDups]
    have hrk := List.find?_some hr
    simp only [decide_eq_true_eq] at hrk
    exact hrk ▸ List.mem_map_of_mem (List.mem_of_find?_eq_some hr)
  obtain ⟨b, hb, rfl⟩ := List.mem_map.1 hk
  obtain ⟨q, hq, horigin⟩ := h.convergeNetworks_origin hb
  obtain rfl : r = q := Option.some.inj (hr.symm.trans hq)
  rw [ha] at horigin
  rcases horigin with ⟨hab, -⟩ | ⟨hunmet, -⟩
  · exact Option.some.inj hab ▸ hb
  · simp [hsat] at hunmet

/-- **A tracked attachment is given up** if it is the last to its network and does not satisfy the
first request for it, or if there is none. -/
theorem Succeeds.convergeNetworks_givesUp
    (h : Succeeds p w (convergeNetworks observed desired) networks w' es) {a : NetworkAttachment}
    (ha : lastTo? observed.networks a.networkId = some a) (hattached : a.isAttached = true)
    (hsat : ∀ r, desired.network? a.networkId = some r → r.satisfiedBy a = false) :
    GivenUp observed.region observed.id es a := by
  cases hr : desired.network? a.networkId with
  | none =>
    rw [convergeNetworks] at h
    obtain ⟨kept, w₁, es₁, es₂, hkept, -, rfl⟩ := succeeds_bind_iff.1 h
    have unwanted : (desired.network? a.networkId).isSome = false := by rw [hr]; rfl
    have gone := hkept.detachUnwanted_givenUp (lastTo?_some ha).1 hattached unwanted
    exact gone.mono fun e he => List.mem_append_left _ he
  | some r =>
    obtain ⟨w₁, kept, listing, es₁, hmeet, hes, hkept⟩ := h.convergeNetworks_meet
    have wanted : (desired.network? a.networkId).isSome = true := by rw [hr]; rfl
    have remembered : kept.find? a.networkId = some a := by
      rw [hkept, if_pos wanted, ha]
    have gone := hmeet.meetRequests_givenUp List.not_mem_nil hr remembered hattached (hsat r hr)
    exact gone.mono hes

end Reconciler
