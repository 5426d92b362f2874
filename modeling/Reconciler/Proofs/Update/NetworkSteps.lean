import Reconciler.Proofs.Cloud.Ports

/-!
# The step of the networks

What reconciling the networks does to the ports of an instance in a cloud. It starts with the ports
that are tracked and ends with those of the attachments it answers. Where it breaks off, some ports
are gone and some are new, but each port that is to stay is still there.

## What is proved

* `leads_attachTo`, `leads_detachFrom`: what making a port and giving one up lead to.
* `leads_detachUnwanted`, `leads_meetRequests`: the same for the two loops.
* `leads_convergeNetworks`: what the step leads to.
-/

namespace Reconciler

/-! ### The ports of attachments -/

/-- The port of the first attachment to a network. -/
def portOn (as : List NetworkAttachment) (k : String) : Option String :=
  (as.find? (·.networkId = k)).map (·.portId)

/-- The port of what is remembered for a network, or else of the first attachment to it. -/
def holding (kept : IdMap NetworkAttachment) (as : List NetworkAttachment) (k : String) :
    Option String :=
  ((kept.find? k).or (as.find? (·.networkId = k))).map (·.portId)

theorem find?_eq_none_of_not_mem {as : List NetworkAttachment} {k : String}
    (h : k ∉ as.map (·.networkId)) : as.find? (·.networkId = k) = none :=
  List.find?_eq_none.2 fun _ ha hk => h (of_decide_eq_true hk ▸ List.mem_map_of_mem ha)

/-- With one attachment to each network at most, the last to a network is the first. -/
theorem lastTo?_eq_find? {as : List NetworkAttachment} (nodup : (as.map (·.networkId)).Nodup)
    (k : String) : lastTo? as k = as.find? (·.networkId = k) := by
  induction as with
  | nil => rfl
  | cons a as ih =>
    obtain ⟨ha, nodup⟩ := List.nodup_cons.1 nodup
    rw [lastTo?_cons, ih nodup]
    by_cases hk : a.networkId = k
    · subst hk
      rw [find?_eq_none_of_not_mem ha, Option.none_or, if_pos rfl,
        List.find?_cons_of_pos (by simp)]
    · rw [if_neg hk, Option.or_none, List.find?_cons_of_neg (by simpa using hk)]

theorem find?_eq_some_of_mem {as : List NetworkAttachment} {k : String}
    (h : k ∈ as.map (·.networkId)) : ∃ a, as.find? (·.networkId = k) = some a := by
  refine Option.isSome_iff_exists.1 (List.find?_isSome.2 ?_)
  obtain ⟨a, ha, rfl⟩ := List.mem_map.1 h
  exact ⟨a, ha, decide_eq_true rfl⟩

section

variable {kept : IdMap NetworkAttachment} {as : List NetworkAttachment} {a : NetworkAttachment}
  {k : String}

theorem holding_of_find?_eq_none (h : kept.find? k = none) : holding kept as k = portOn as k := by
  rw [holding, h, Option.none_or, portOn]

/-- To remember an attachment for its network leaves where ports are. -/
theorem holding_insert (h : kept.find? a.networkId = none) :
    holding (kept.insert a.networkId a) as = holding kept (a :: as) := by
  funext k
  rw [holding, holding, IdMap.find?_insert, List.find?_cons]
  by_cases hk : k = a.networkId
  · subst hk
    simp [h]
  · simp [hk, Ne.symm hk]

theorem holding_tail (h : kept.find? a.networkId = none)
    (has : a.networkId ∉ as.map (·.networkId)) :
    holding kept as = Function.update (holding kept (a :: as)) a.networkId none := by
  funext k
  by_cases hk : k = a.networkId
  · subst hk
    rw [Function.update_self, holding, h, find?_eq_none_of_not_mem has]
    rfl
  · rw [Function.update_of_ne hk, holding, holding, List.find?_cons]
    simp [Ne.symm hk]

/-- What meets a request for a network takes the place of what was remembered for it. -/
theorem holding_met {r : NetworkRequest} {met : List NetworkAttachment}
    (ha : a.networkId = r.networkId)
    (hr : r.networkId ∉ met.map (·.networkId)) :
    holding (kept.erase r.networkId) (met ++ [a]) =
      Function.update (holding kept met) r.networkId (some a.portId) := by
  funext k
  rw [holding, IdMap.find?_erase, List.find?_append]
  by_cases hk : k = r.networkId
  · subst hk
    rw [Function.update_self, find?_eq_none_of_not_mem hr]
    simp [ha]
  · rw [Function.update_of_ne hk, holding]
    simp [hk, ha, Ne.symm hk]

end

/-! ### One port -/

variable {σ : Type} {H : Host σ} {c : Cloud} {region : Region} {id : InstanceId}
  {port? : String → Option String}

/-- **Giving up an attachment** removes its port. -/
theorem leads_detachFrom {a : NetworkAttachment} (h : c.Ports id port?)
    (ha : port? a.networkId = some a.portId) :
    H.Leads c (detachFrom region id a)
      (fun _ d => d.Ports id (Function.update port? a.networkId none)) fun d => H.fails ∧ d = c := by
  have attached : a.isAttached = true := decide_eq_true (h.named _ _ ha).1
  obtain ⟨d, hd, hports⟩ := h.detach ha
  rw [detachFrom, if_pos attached]
  exact Host.leads_ask_ok hd hports fun hf => ⟨hf, rfl⟩

/-- **Meeting a request with a new port** makes one, exactly when one can be made, unless the host
fails. -/
theorem leads_attachTo {r : NetworkRequest} {listing : List Network} (h : c.Ports id port?)
    (hr : port? r.networkId = none)
    (hl : Attachable listing r.networkId ↔ Attachable c.networks r.networkId) :
    H.Leads c (attachTo region id listing r)
      (fun a d => Attachable c.networks r.networkId ∧ a.networkId = r.networkId ∧
        d.Ports id (Function.update port? r.networkId (some a.portId)))
      fun d => ¬ Attachable c.networks r.networkId ∨ H.fails ∧ d = c := by
  rw [attachTo]
  by_cases hn : Attachable c.networks r.networkId
  · obtain ⟨s, hs⟩ := subnetFor_of_attachable (hl.2 hn)
    let request : AttachRequest :=
      { serverId := id, subnetId := s.id, ip := r.ip, portSecurity := r.portSecurity }
    obtain ⟨port, d, hd, hports⟩ := Cloud.Ports.attach (r := request) h hr hn
    rw [hs, show attachTo.liftExcept (.ok s) = pure s from rfl, pure_bind]
    refine Host.leads_ask_ok_bind hd ?_ fun hf => .inr ⟨hf, rfl⟩
    exact Host.leads_pure ⟨hn, rfl, hports⟩
  · obtain ⟨e, he⟩ := subnetFor_of_not_attachable (mt hl.1 hn)
    rw [he]
    exact Host.leads_throw (α := NetworkAttachment) (e := e) (.inl hn)

/-! ### Giving up what is not wanted -/

/-- **Giving up what is not wanted** leaves the ports of what is remembered. If it breaks off, each
wanted network still has its port. -/
theorem leads_detachUnwanted {desired : InstanceSpec} {as : List NetworkAttachment}
    {kept : IdMap NetworkAttachment} (h : c.Ports id (holding kept as))
    (hkept : ∀ a ∈ as, kept.find? a.networkId = none) (nodup : (as.map (·.networkId)).Nodup) :
    H.Leads c (detachUnwanted region id desired kept as)
      (fun kept' d => d.Ports id (holding kept' []))
      fun d => H.fails ∧ ∃ port?, d.Ports id port? ∧
        ∀ k, (desired.network? k).isSome → port? k = holding kept as k := by
  induction as generalizing c kept with
  | nil => exact Host.leads_pure h
  | cons a as ih =>
    obtain ⟨ha, nodup⟩ := List.nodup_cons.1 nodup
    have free := hkept a (List.mem_cons_self ..)
    have others := fun b hb => hkept b (List.mem_cons_of_mem a hb)
    rw [detachUnwanted]
    split_ifs with hwanted
    · have same : holding (kept.insert a.networkId a) as = holding kept (a :: as) :=
        holding_insert free
      rw [← same] at h ⊢
      refine ih h (fun b hb => ?_) nodup
      have hne : b.networkId ≠ a.networkId := fun hba => ha (List.mem_map.2 ⟨b, hb, hba⟩)
      rw [IdMap.find?_insert, if_neg hne]
      exact others b hb
    · have port : holding kept (a :: as) a.networkId = some a.portId := by
        simp [holding, free]
      have without := holding_tail free ha
      refine (leads_detachFrom h port).followedBy ?_ fun _ d hd => ?_
      · rintro _ ⟨hf, rfl⟩
        exact ⟨hf, _, h, fun k _ => rfl⟩
      · rw [← without] at hd
        refine (ih hd others nodup).mono (fun _ _ he => he) ?_
        rintro e ⟨hf, port?, hports, hstays⟩
        refine ⟨hf, port?, hports, fun k hk => ?_⟩
        have hne : k ≠ a.networkId := fun hka => hwanted (hka ▸ hk)
        rw [hstays k hk, without, Function.update_of_ne hne]

/-! ### Meeting the requests -/

/-- **Meeting a request** ends with the port of the attachment it answers, which is the port that
was there if what is remembered satisfies the request. Only if it does not can the task break
off. -/
theorem leads_meetRequest {r : NetworkRequest} {listing : List Network}
    {kept : IdMap NetworkAttachment} (h : c.Ports id port?)
    (hport : port? r.networkId = (kept.find? r.networkId).map (·.portId))
    (keys : ∀ k a, kept.find? k = some a → a.networkId = k)
    (hl : r.metBy kept = false →
      (Attachable listing r.networkId ↔ Attachable c.networks r.networkId)) :
    H.Leads c (meetRequest region id listing kept r)
      (fun a d => Attachable c.networks r.networkId ∧ a.networkId = r.networkId ∧
        d.Ports id (Function.update port? r.networkId (some a.portId)) ∧
        (r.metBy kept = true → port? r.networkId = some a.portId))
      fun d => ¬ Attachable c.networks r.networkId ∨ H.fails ∧ r.metBy kept = false ∧
        ∃ q, d.Ports id (Function.update port? r.networkId q) := by
  have unmet (hn : r.metBy kept = false) (d : Cloud) (hd : c.SameSite d) :
      Attachable listing r.networkId ↔ Attachable d.networks r.networkId :=
    (hl hn).trans (attachable_congr hd.layout).symm
  rw [meetRequest]
  cases hkept : kept.find? r.networkId with
  | none =>
    have hn : r.metBy kept = false := by rw [NetworkRequest.metBy, hkept]; rfl
    rw [hkept] at hport
    refine (leads_attachTo h hport (hl hn)).mono ?_ ?_
    · rintro a d ⟨hattachable, ha, hd⟩
      exact ⟨hattachable, ha, hd, fun hmet => absurd hmet (by simp [hn])⟩
    rintro _ (hd | ⟨hf, rfl⟩)
    · exact .inl hd
    · refine .inr ⟨hf, hn, none, ?_⟩
      rwa [Function.update_eq_self_iff.2 hport.symm]
  | some a =>
    have hka := keys _ a hkept
    rw [hkept, Option.map_some] at hport
    show H.Leads c (if r.satisfiedBy a = true then pure a else _) _ _
    by_cases hsat : r.satisfiedBy a = true
    · rw [if_pos hsat]
      refine Host.leads_pure ⟨h.attachable hport, hka, ?_, fun _ => hport⟩
      rwa [Function.update_eq_self_iff.2 hport.symm]
    · have hn : r.metBy kept = false := by
        rw [NetworkRequest.metBy, hkept]
        simpa using hsat
      rw [if_neg hsat]
      have given_up : H.Leads c (detachFrom region id a)
          (fun _ d => d.Ports id (Function.update port? r.networkId none) ∧ c.SameSite d)
          fun d => H.fails ∧ d = c := by
        have ha : H.Leads c (detachFrom region id a) _ _ := leads_detachFrom h (hka ▸ hport)
        rw [hka] at ha
        exact (ha.and Host.leads_sameSite).mono (fun _ _ hd => hd) fun _ hb => hb.1
      refine given_up.followedBy ?_ ?_
      · rintro _ ⟨hf, rfl⟩
        refine .inr ⟨hf, hn, some a.portId, ?_⟩
        rwa [Function.update_eq_self_iff.2 hport.symm]
      · rintro _ d ⟨hports, hsite⟩
        have made : H.Leads d (attachTo region id listing r) _ _ :=
          leads_attachTo hports (Function.update_self ..) (unmet hn d hsite)
        rw [attachable_congr hsite.layout] at made
        refine made.mono ?_ ?_
        · rintro a' e ⟨hattachable, ha', he⟩
          rw [Function.update_idem] at he
          exact ⟨hattachable, ha', he, fun hmet => absurd hmet (by simp [hn])⟩
        · rintro _ (hd | ⟨hf, rfl⟩)
          · exact .inl hd
          · exact .inr ⟨hf, hn, none, hports⟩

/-- What is remembered is waiting for a request: it is for networks that are still to be met. -/
structure Waiting (kept : IdMap NetworkAttachment) (met : List NetworkAttachment)
    (rs : List NetworkRequest) : Prop where
  /-- It is filed under its network. -/
  keys : ∀ k a, kept.find? k = some a → a.networkId = k
  /-- Its network is not met yet. -/
  unmet : ∀ k, (kept.find? k).isSome → k ∉ met.map (·.networkId)
  /-- Its network is requested. -/
  requested : ∀ k, (kept.find? k).isSome → k ∈ rs.map (·.networkId)

namespace Waiting

variable {kept : IdMap NetworkAttachment} {met : List NetworkAttachment} {r : NetworkRequest}
  {rs : List NetworkRequest}

theorem skip (h : Waiting kept met (r :: rs)) (hr : r.networkId ∈ met.map (·.networkId)) :
    Waiting kept met rs where
  keys := h.keys
  unmet := h.unmet
  requested k hk := by
    have hne : k ≠ r.networkId := fun hkr => h.unmet k hk (hkr ▸ hr)
    exact (List.mem_cons.1 (List.map_cons .. ▸ h.requested k hk)).resolve_left hne

theorem meet {a : NetworkAttachment} (h : Waiting kept met (r :: rs))
    (ha : a.networkId = r.networkId) : Waiting (kept.erase r.networkId) (met ++ [a]) rs where
  keys k b hb := by
    rw [IdMap.find?_erase] at hb
    split_ifs at hb
    exact h.keys k b hb
  unmet k hk := by
    rw [IdMap.find?_erase] at hk
    split_ifs at hk with hkr
    · exact absurd hk (by simp)
    · rw [List.map_append, List.mem_append, not_or]
      exact ⟨h.unmet k hk, by simpa [ha] using hkr⟩
  requested k hk := by
    rw [IdMap.find?_erase] at hk
    split_ifs at hk with hkr
    · exact absurd hk (by simp)
    · exact (List.mem_cons.1 (List.map_cons .. ▸ h.requested k hk)).resolve_left hkr

end Waiting

/-- The port on a network stays: the network is met already, or what is remembered for it satisfies
the first request for it. -/
def Stays (kept : IdMap NetworkAttachment) (met : List NetworkAttachment) (rs : List NetworkRequest)
    (k : String) : Prop :=
  k ∈ met.map (·.networkId) ∨ ∃ r, rs.find? (·.networkId = k) = some r ∧ r.metBy kept = true

namespace Stays

variable {kept : IdMap NetworkAttachment} {met : List NetworkAttachment} {r : NetworkRequest}
  {rs : List NetworkRequest} {k : String}

theorem skip (h : Stays kept met (r :: rs) k) (hr : r.networkId ∈ met.map (·.networkId)) :
    Stays kept met rs k := by
  rcases h with h | ⟨q, hq, hmet⟩
  · exact .inl h
  · rw [List.find?_cons] at hq
    split at hq
    · rename_i hrk
      exact .inl (of_decide_eq_true hrk ▸ hr)
    · exact .inr ⟨q, hq, hmet⟩

/-- The first request for a network that is not met is satisfied by what is remembered. -/
theorem metBy (h : Stays kept met (r :: rs) r.networkId)
    (hr : r.networkId ∉ met.map (·.networkId)) : r.metBy kept = true := by
  rcases h with h | ⟨q, hq, hmet⟩
  · exact absurd h hr
  · rw [List.find?_cons_of_pos (by simp), Option.some.injEq] at hq
    exact hq ▸ hmet

theorem meet {a : NetworkAttachment} (h : Stays kept met (r :: rs) k)
    (ha : a.networkId = r.networkId) :
    Stays (kept.erase r.networkId) (met ++ [a]) rs k := by
  by_cases hk : k = r.networkId
  · exact .inl (by simp [ha, hk])
  · rcases h with h | ⟨q, hq, hmet⟩
    · exact .inl (by simp only [List.map_append, List.mem_append]; exact .inl h)
    · rw [List.find?_cons_of_neg (by simpa using Ne.symm hk)] at hq
      have hqk : q.networkId = k := key_of_find? hq
      refine .inr ⟨q, hq, ?_⟩
      rwa [NetworkRequest.metBy, IdMap.find?_erase, if_neg (hqk ▸ hk)]

end Stays

/-- **Meeting the requests** ends with the ports of the attachments, and it can do so only if a port
can be made on each network that is requested. If it breaks off, the ports that are to stay are
there. -/
theorem leads_meetRequests {listing : List Network} {kept : IdMap NetworkAttachment}
    {met : List NetworkAttachment} {rs : List NetworkRequest} (h : c.Ports id (holding kept met))
    (waiting : Waiting kept met rs)
    (hl : ∀ r ∈ rs, r.networkId ∉ met.map (·.networkId) → r.metBy kept = false →
      (Attachable listing r.networkId ↔ Attachable c.networks r.networkId)) :
    H.Leads c (meetRequests region id listing kept met rs)
      (fun networks d =>
        (∀ r ∈ rs, Attachable c.networks r.networkId) ∧ d.Ports id (portOn networks))
      fun d => (∃ r ∈ rs, ¬ Attachable c.networks r.networkId) ∨
        H.fails ∧ ∃ port?, d.Ports id port? ∧
          ∀ k, Stays kept met rs k → port? k = holding kept met k := by
  induction rs generalizing c kept met with
  | nil =>
    have nothing (k : String) : kept.find? k = none := by
      cases hk : kept.find? k with
      | none => rfl
      | some a => exact absurd (waiting.requested k (by simp [hk])) (by simp)
    have same : holding kept met = portOn met :=
      funext fun k => holding_of_find?_eq_none (nothing k)
    exact Host.leads_pure ⟨fun r hr => absurd hr List.not_mem_nil, same ▸ h⟩
  | cons r rs ih =>
    rw [meetRequests]
    by_cases hmet : r.networkId ∈ met.map (·.networkId)
    · rw [if_pos (any_networkId_iff.2 hmet)]
      have rest := ih h (waiting.skip hmet) fun q hq => hl q (List.mem_cons_of_mem r hq)
      refine rest.mono ?_ ?_
      · rintro networks d ⟨hattachable, hports⟩
        refine ⟨fun q hq => ?_, hports⟩
        rcases List.mem_cons.1 hq with rfl | hq
        · have free : kept.find? q.networkId = none :=
            Option.not_isSome_iff_eq_none.1 fun hk => waiting.unmet _ hk hmet
          obtain ⟨a, ha⟩ := find?_eq_some_of_mem hmet
          refine h.attachable (p := a.portId) ?_
          rw [holding_of_find?_eq_none free, portOn, ha, Option.map_some]
        · exact hattachable q hq
      · rintro d (⟨q, hq, hn⟩ | ⟨hf, port?, hports, hstays⟩)
        · exact .inl ⟨q, List.mem_cons_of_mem r hq, hn⟩
        · exact .inr ⟨hf, port?, hports, fun k hk => hstays k (hk.skip hmet)⟩
    · rw [if_neg (mt any_networkId_iff.1 hmet)]
      have port : holding kept met r.networkId = (kept.find? r.networkId).map (·.portId) := by
        rw [holding, find?_eq_none_of_not_mem hmet, Option.or_none]
      have first : H.Leads c (meetRequest region id listing kept r) _ _ :=
        leads_meetRequest h port waiting.keys (hl r (List.mem_cons_self ..) hmet)
      refine (first.and Host.leads_sameSite).followedBy ?_ ?_
      · rintro d ⟨hn | ⟨hf, hunmet, q, hports⟩, -⟩
        · exact .inl ⟨r, List.mem_cons_self .., hn⟩
        · refine .inr ⟨hf, _, hports, fun k hk => ?_⟩
          rw [Function.update_of_ne]
          rintro rfl
          exact absurd hunmet (by simp [hk.metBy hmet])
      · rintro a d ⟨⟨hattachable, ha, hports, hkept⟩, hsite⟩
        rw [← holding_met ha hmet] at hports
        have layout (k : String) : Attachable d.networks k ↔ Attachable c.networks k :=
          attachable_congr hsite.layout
        have listed : ∀ q ∈ rs, q.networkId ∉ (met ++ [a]).map (·.networkId) →
            q.metBy (kept.erase r.networkId) = false →
            (Attachable listing q.networkId ↔ Attachable d.networks q.networkId) := by
          intro q hq hqmet hunmet
          rw [List.map_append, List.mem_append, not_or, List.map_singleton, List.mem_singleton,
            ha] at hqmet
          rw [NetworkRequest.metBy, IdMap.find?_erase, if_neg hqmet.2] at hunmet
          exact (hl q (List.mem_cons_of_mem r hq) hqmet.1 hunmet).trans (layout _).symm
        refine (ih hports (waiting.meet ha) listed).mono ?_ ?_
        · rintro networks e ⟨hattachables, he⟩
          refine ⟨fun q hq => ?_, he⟩
          rcases List.mem_cons.1 hq with rfl | hq
          · exact hattachable
          · exact (layout _).1 (hattachables q hq)
        · rintro e (⟨q, hq, hn⟩ | ⟨hf, port?, he, hstays⟩)
          · exact .inl ⟨q, List.mem_cons_of_mem r hq, mt (layout _).2 hn⟩
          · refine .inr ⟨hf, port?, he, fun k hk => ?_⟩
            rw [hstays k (hk.meet ha), holding_met ha hmet]
            by_cases hkr : k = r.networkId
            · subst hkr
              rw [Function.update_self, hkept (hk.metBy hmet)]
            · rw [Function.update_of_ne hkr]

/-! ### The whole step -/

/-- A port can be made on each network that is desired. -/
def CanAttach (c : Cloud) (desired : InstanceSpec) : Prop :=
  ∀ r ∈ desired.networks, Attachable c.networks r.networkId

/-- The tracked attachments that satisfy the first requests for their networks have the port they
say. -/
def KeepsPorts (desired : InstanceSpec) (as : List NetworkAttachment)
    (port? : String → Option String) : Prop :=
  ∀ a ∈ as, ∀ r, desired.network? a.networkId = some r → r.satisfiedBy a = true →
    port? a.networkId = some a.portId

/-- Reconciling the networks ends with the ports of the attachments it answers, exactly when a port
can be made on each network that is desired, unless the host fails. -/
theorem leads_convergeNetworks_ports {s : InstanceState} {desired : InstanceSpec}
    (h : c.Ports s.id (portOn s.networks)) (nodup : (s.networks.map (·.networkId)).Nodup) :
    H.Leads c (convergeNetworks s desired)
      (fun networks d => CanAttach c desired ∧ d.Ports s.id (portOn networks))
      fun d => ¬ CanAttach c desired ∨ H.fails ∧ ∃ port?, d.Ports s.id port? ∧
        KeepsPorts desired s.networks port? := by
  have start : holding ∅ s.networks = portOn s.networks :=
    funext fun k => holding_of_find?_eq_none (IdMap.find?_empty k)
  have tracked {a : NetworkAttachment} (ha : a ∈ s.networks) :
      s.networks.find? (·.networkId = a.networkId) = some a := find?_of_nodup nodup ha
  have first : H.Leads c (detachUnwanted s.region s.id desired ∅ s.networks)
      (fun kept d => (d.Ports s.id (holding kept []) ∧ c.SameSite d) ∧ ∀ k, kept.find? k =
        if (desired.network? k).isSome then s.networks.find? (·.networkId = k) else none)
      fun d => H.fails ∧ ∃ port?, d.Ports s.id port? ∧ KeepsPorts desired s.networks port? := by
    have run : H.Leads c (detachUnwanted s.region s.id desired ∅ s.networks) _ _ :=
      leads_detachUnwanted (start ▸ h) (fun a _ => IdMap.find?_empty _) nodup
    refine ((run.and Host.leads_sameSite).and_of_succeeds fun w kept w' es hrun k => ?_).mono
      (fun _ _ hd => hd) ?_
    · rw [hrun.detachUnwanted_find?, lastTo?_eq_find? nodup, IdMap.find?_empty, Option.or_none]
    · rintro d ⟨⟨hf, port?, hports, hstays⟩, -⟩
      refine ⟨hf, port?, hports, fun a ha r hr _ => ?_⟩
      have wanted : (desired.network? a.networkId).isSome := by rw [hr]; rfl
      rw [hstays _ wanted, start, portOn, tracked ha, Option.map_some]
  refine first.followedBy (fun _ hb => .inr hb) ?_
  rintro kept d ⟨⟨hports, hsite⟩, hkept⟩
  have remembered {a : NetworkAttachment} (ha : a ∈ s.networks) {r : NetworkRequest}
      (hr : desired.network? a.networkId = some r) : kept.find? a.networkId = some a := by
    have wanted : (desired.network? a.networkId).isSome := by rw [hr]; rfl
    rw [hkept, if_pos wanted, tracked ha]
  have waiting : Waiting kept [] desired.networks := by
    refine ⟨fun k a hk => ?_, fun _ _ => List.not_mem_nil, fun k hk => ?_⟩
    · rw [hkept] at hk
      split_ifs at hk
      exact key_of_find? hk
    · rw [hkept] at hk
      split_ifs at hk with hwanted
      · obtain ⟨r, hr⟩ := Option.isSome_iff_exists.1 hwanted
        exact List.mem_map.2 ⟨r, List.mem_of_find?_eq_some hr, key_of_find? hr⟩
      · exact absurd hk (by simp)
  have layout (k : String) : Attachable d.networks k ↔ Attachable c.networks k :=
    attachable_congr hsite.layout
  -- If each request is satisfied the listing is not asked for, and nothing is looked up in it.
  have meet (listing : List Network) (hl : ∀ r ∈ desired.networks, r.metBy kept = false →
      (Attachable listing r.networkId ↔ Attachable d.networks r.networkId)) :
      H.Leads d (meetRequests s.region s.id listing kept [] desired.networks)
        (fun networks d => CanAttach c desired ∧ d.Ports s.id (portOn networks))
        fun d => ¬ CanAttach c desired ∨ H.fails ∧ ∃ port?, d.Ports s.id port? ∧
          KeepsPorts desired s.networks port? := by
    refine (leads_meetRequests hports waiting fun r hr _ => hl r hr).mono ?_ ?_
    · rintro networks e ⟨hattachable, he⟩
      exact ⟨fun r hr => (layout _).1 (hattachable r hr), he⟩
    · rintro e (⟨r, hr, hn⟩ | ⟨hf, port?, he, hstays⟩)
      · exact .inl fun hcan => hn ((layout _).2 (hcan r hr))
      · refine .inr ⟨hf, port?, he, fun a ha r hr hsat => ?_⟩
        have hmet : r.metBy kept = true := by
          have hrk : r.networkId = a.networkId := key_of_find? hr
          rw [NetworkRequest.metBy, hrk, remembered ha hr]
          exact hsat
        rw [hstays _ (.inr ⟨r, hr, hmet⟩), holding, remembered ha hr]
        rfl
  by_cases all : desired.networks.all (·.metBy kept) = true
  · rw [if_pos all, pure_bind]
    exact meet [] fun r hr hunmet => absurd (List.all_eq_true.1 all r hr) (by simp [hunmet])
  · rw [if_neg all]
    have listed : d.perform .listNetworks = (.ok d.networks, d) := rfl
    refine Host.leads_ask_ok_bind listed ?_ fun hf => ?_
    · exact meet d.networks fun _ _ _ => Iff.rfl
    · refine .inr ⟨hf, _, hports, fun a ha r hr _ => ?_⟩
      rw [holding, remembered ha hr]
      rfl

/-- **Reconciling the networks** ends with a port on each network that is desired, exactly when such
can be made, unless the host fails. Wherever it ends, the ports that need not be replaced are
there. -/
theorem leads_convergeNetworks {s : InstanceState} {desired : InstanceSpec}
    (h : c.Ports s.id (portOn s.networks)) (nodup : (s.networks.map (·.networkId)).Nodup) :
    H.Leads c (convergeNetworks s desired)
      (fun networks d => CanAttach c desired ∧ d.Ports s.id (portOn networks) ∧
        KeepsPorts desired s.networks (portOn networks) ∧
        networks.map (·.networkId) = (desired.networks.map (·.networkId)).eraseDups)
      fun d => ¬ CanAttach c desired ∨ H.fails ∧ ∃ port?, d.Ports s.id port? ∧
        KeepsPorts desired s.networks port? := by
  let value (networks : List NetworkAttachment) : Prop :=
    KeepsPorts desired s.networks (portOn networks) ∧
      networks.map (·.networkId) = (desired.networks.map (·.networkId)).eraseDups
  have values (w w' : World σ) (networks : List NetworkAttachment) (es : List Exchange)
      (hrun : Succeeds H.provider w (convergeNetworks s desired) networks w' es) :
      value networks := by
    refine ⟨fun a ha r hr hsat => ?_, hrun.convergeNetworks_ids⟩
    have last : lastTo? s.networks a.networkId = some a := lastTo?_of_nodup nodup ha
    have nodup' : (networks.map (·.networkId)).Nodup :=
      hrun.convergeNetworks_ids ▸ nodup_eraseDups _
    rw [portOn, find?_of_nodup nodup' (hrun.convergeNetworks_keeps hr last hsat), Option.map_some]
  have run := (leads_convergeNetworks_ports h nodup).and_of_succeeds
    fun w networks w' es hrun => values w w' networks es hrun
  refine run.mono ?_ fun _ hb => hb
  rintro networks d ⟨⟨hcan, hports⟩, hkeeps, hids⟩
  exact ⟨hcan, hports, hkeeps, hids⟩

end Reconciler
