import Reconciler.Proofs.Cloud.Shown
import Reconciler.Proofs.Update.NetworkSteps

/-!
# The attachments that the cloud shows after the networks are reconciled

Reconciling the networks keeps its own account of the attachments: some are remembered, some given
up, and new ones are put together from the answers to the calls. The account is right: where it
begins with what the cloud shows of the instance, it ends with what the cloud shows then, in every
detail. An attachment may be tracked more than once.

## What is proved

* `leads_detachFrom_shown`, `leads_attachTo_shown`: what giving up a port and making one change.
* `leads_detachUnwanted_shown`, `leads_meetRequests_shown`: the same for the two loops.
* `leads_convergeNetworks_shown`: the attachments that the step answers are those that are shown.
-/

namespace Reconciler

variable {σ : Type} {H : Host σ} {c : Cloud} {region : Region} {id : InstanceId}

/-! ### One port -/

/-- **Giving up an attachment** that has a port leaves the other ports. -/
theorem leads_detachFrom_shown {a : NetworkAttachment} (h : c.InOrder) (ha : a.portId ≠ "") :
    H.Leads c (detachFrom region id a)
      (fun _ d => d.InOrder ∧ ∀ b, d.Shows id b ↔ c.Shows id b ∧ b.portId ≠ a.portId)
      fun _ => True := by
  have attached : a.isAttached = true := decide_eq_true ha
  rw [detachFrom, if_pos attached]
  refine Host.leads_ask (fun _ _ => ⟨h.removePort .., fun b => ?_⟩) (fun _ _ => trivial)
    fun _ => trivial
  exact Cloud.shows_removePort

/-- What is looked up in the listing is as it is in the cloud, or the listing is not used. -/
def Listed (listing : List Network) (c : Cloud) : Prop :=
  listing = [] ∨ listing.map Network.layout = c.networks.map Network.layout

theorem Listed.of_sameSite {listing : List Network} {d : Cloud} (h : Listed listing c)
    (site : c.SameSite d) : Listed listing d :=
  h.imp_right fun same => same.trans site.layout.symm

/-- The subnet that the listing gives for a network is the one that the port is made on. -/
theorem Listed.subnetId_eq {listing : List Network} {k : String} {n : Network} {s subnet : Subnet}
    {rest : List Subnet} (h : Listed listing c) (hlisting : subnetFor listing k = .ok subnet)
    (hfind : c.networks.find? (·.id = k) = some n) (hsubnets : n.subnets = s :: rest) :
    subnet.id = s.id := by
  rcases h with rfl | same
  · simp [subnetFor] at hlisting
  · obtain ⟨m, rest', hm, hsubnets'⟩ := subnetFor_eq_ok_iff.1 hlisting
    have layouts (networks : List Network) : (networks.find? (·.id = k)).map Network.layout =
        (networks.map Network.layout).find? (·.1 = k) := by
      rw [List.find?_map]
      rfl
    have layout : some m.layout = some n.layout := by
      rw [← Option.map_some, ← hm, layouts, same, ← layouts, hfind, Option.map_some]
    have subnets : m.subnets.map (·.id) = n.subnets.map (·.id) :=
      congrArg (·.2.2) (Option.some.inj layout)
    rw [hsubnets', hsubnets, List.map_cons, List.map_cons, List.cons.injEq] at subnets
    exact subnets.1

/-- **The attachment that is put together** from a new port is the one that its record shows. -/
theorem leads_attachTo_shown {r : NetworkRequest} {listing : List Network} (h : c.InOrder)
    (listed : Listed listing c) :
    H.Leads c (attachTo region id listing r)
      (fun a d => (d.InOrder ∧ a.networkId = r.networkId) ∧
        ∀ b, d.Shows id b ↔ c.Shows id b ∨ b = a)
      fun _ => True := by
  rw [attachTo]
  cases hlisting : subnetFor listing r.networkId with
  | error e => exact Host.leads_throw (α := NetworkAttachment) (e := e) trivial
  | ok subnet =>
    rw [show attachTo.liftExcept (.ok subnet) = pure subnet from rfl, pure_bind]
    let request : AttachRequest :=
      { serverId := id, subnetId := subnet.id, ip := r.ip, portSecurity := r.portSecurity }
    let made (port : AttachedPort) (d : Cloud) : Prop := d.InOrder ∧
      ∀ b, d.Shows id b ↔ c.Shows id b ∨ b = .ofPort r subnet port
    have call : H.Leads c (ask region (.attachNetwork r.networkId request)
        ("attach network " ++ r.networkId)) made fun _ => True := by
      refine Host.leads_ask (fun port hport => ?_) (fun _ _ => trivial) fun _ => trivial
      obtain ⟨n, s, rest, hfind, hsubnets⟩ := Cloud.allocatePort_inv hport
      refine ⟨h.allocatePort _ _ _ hfind hsubnets, fun b => ?_⟩
      have answer : (c.allocatePort r.networkId id r.ip r.portSecurity).1 = .ok port := hport
      rw [Cloud.allocatePort_eq id r.ip r.portSecurity hfind hsubnets, Except.ok.injEq] at answer
      have shown : NetworkAttachment.ofPort r subnet port = .ofRecord r.networkId s.id
          (portRecord (c.counter + 1) r.ip r.portSecurity s.id) := by
        rw [NetworkAttachment.ofPort, listed.subnetId_eq hlisting hfind hsubnets, ← answer, ite_id]
        rfl
      rw [shown]
      exact Cloud.shows_allocatePort hfind hsubnets
    exact call.bind fun port d hd => Host.leads_pure ⟨⟨hd.1, rfl⟩, hd.2⟩

/-! ### Giving up what is not wanted -/

/-- **Giving up what is not wanted** leaves the ports that no attachment to an unwanted network
has. -/
theorem leads_detachUnwanted_shown {desired : InstanceSpec} {as : List NetworkAttachment}
    (kept : IdMap NetworkAttachment) (h : c.InOrder) (named : ∀ a ∈ as, a.portId ≠ "") :
    H.Leads c (detachUnwanted region id desired kept as)
      (fun _ d => d.InOrder ∧ ∀ b, d.Shows id b ↔ c.Shows id b ∧
        ∀ a ∈ as, ¬ (desired.network? a.networkId).isSome → b.portId ≠ a.portId)
      fun _ => True := by
  induction as generalizing c kept with
  | nil => exact Host.leads_pure ⟨h, fun b => by simp⟩
  | cons a as ih =>
    have named' := fun b hb => named b (List.mem_cons_of_mem a hb)
    rw [detachUnwanted]
    split_ifs with hwanted
    · refine (ih _ h named').mono (fun _ d hd => ⟨hd.1, fun b => ?_⟩) fun _ hb => hb
      rw [hd.2, List.forall_mem_cons]
      simp [hwanted]
    · refine (leads_detachFrom_shown h (named a (List.mem_cons_self ..))).bind fun _ d hd => ?_
      refine (ih kept hd.1 named').mono (fun _ e he => ⟨he.1, fun b => ?_⟩) fun _ hb => hb
      rw [he.2, hd.2, List.forall_mem_cons, and_assoc]
      simp [hwanted]

/-! ### Meeting the requests -/

/-- The cloud shows what is remembered and what is met, and nothing else of the instance. -/
def Accounted (c : Cloud) (id : InstanceId) (kept : IdMap NetworkAttachment)
    (met : List NetworkAttachment) : Prop :=
  ∀ b, c.Shows id b ↔ (∃ k, kept.find? k = some b) ∨ b ∈ met

/-- What is remembered for one network takes its place among what is met, or makes room for a new
attachment. -/
theorem Accounted.meet {kept : IdMap NetworkAttachment} {met : List NetworkAttachment}
    {r : NetworkRequest} {rs : List NetworkRequest} {a : NetworkAttachment} {d : Cloud}
    (h : Accounted c id kept met) (waiting : Waiting kept met (r :: rs))
    (hmet : r.networkId ∉ met.map (·.networkId))
    (shown : ∀ b, d.Shows id b ↔ c.Shows id b ∧ kept.find? r.networkId ≠ some b ∨ b = a) :
    Accounted d id (kept.erase r.networkId) (met ++ [a]) := by
  intro b
  rw [shown, h, List.mem_append, List.mem_singleton, ← or_assoc]
  refine or_congr_left ?_
  constructor
  · rintro ⟨⟨k, hk⟩ | hb, hne⟩
    · have hkr : k ≠ r.networkId := fun hkr => hne (hkr ▸ hk)
      exact .inl ⟨k, by rw [IdMap.find?_erase, if_neg hkr, hk]⟩
    · exact .inr hb
  · rintro (⟨k, hk⟩ | hb)
    · rw [IdMap.find?_erase] at hk
      split_ifs at hk with hkr
      refine ⟨.inl ⟨k, hk⟩, fun hr => hkr ?_⟩
      exact (waiting.keys k b hk).symm.trans (waiting.keys _ b hr)
    · exact ⟨.inr hb, fun hr => hmet (waiting.keys _ b hr ▸ List.mem_map_of_mem hb)⟩

/-- **Meeting a request** ends with the attachment it answers in place of what was remembered for the
network. -/
theorem leads_meetRequest_shown {r : NetworkRequest} {listing : List Network}
    {kept : IdMap NetworkAttachment} (h : c.InOrder) (listed : Listed listing c)
    (shown : ∀ a, kept.find? r.networkId = some a → c.Shows id a ∧ a.networkId = r.networkId) :
    H.Leads c (meetRequest region id listing kept r)
      (fun a d => (d.InOrder ∧ a.networkId = r.networkId) ∧
        ∀ b, d.Shows id b ↔ c.Shows id b ∧ kept.find? r.networkId ≠ some b ∨ b = a)
      fun _ => True := by
  rw [meetRequest]
  cases hkept : kept.find? r.networkId with
  | none =>
    refine (leads_attachTo_shown h listed).mono (fun a d hd => ⟨hd.1, fun b => ?_⟩) fun _ hb => hb
    simp [hd.2 b]
  | some a =>
    obtain ⟨ha, hk⟩ := shown a hkept
    show H.Leads c (if r.satisfiedBy a = true then pure a else _) _ _
    split_ifs
    · refine Host.leads_pure ⟨⟨h, hk⟩, fun b => ?_⟩
      by_cases hb : b = a
      · subst hb
        simp [ha]
      · simp [hb, Ne.symm hb]
    · have given_up : H.Leads c (detachFrom region id a) _ _ :=
        (leads_detachFrom_shown h (h.portId_ne ha)).and Host.leads_sameSite
      refine (given_up.mono (fun _ _ hd => hd) fun _ _ => trivial).bind fun _ d hd => ?_
      obtain ⟨⟨order, without⟩, site⟩ := hd
      refine (leads_attachTo_shown order (listed.of_sameSite site)).mono
        (fun a' e he => ⟨he.1, fun b => ?_⟩) fun _ hb => hb
      -- The port tells the attachment, so that only the one given up is gone.
      have gone : c.Shows id b ∧ b.portId ≠ a.portId ↔ c.Shows id b ∧ some a ≠ some b := by
        refine and_congr_right fun hb => not_congr ⟨fun hport => ?_, fun hab => ?_⟩
        · rw [h.eq_of_portId hb ha hport]
        · rw [Option.some.inj hab]
      rw [he.2, without, gone]

/-- **Meeting the requests** ends with the attachments that are shown. -/
theorem leads_meetRequests_shown {listing : List Network} {kept : IdMap NetworkAttachment}
    {met : List NetworkAttachment} {rs : List NetworkRequest} (h : c.InOrder)
    (listed : Listed listing c) (accounted : Accounted c id kept met)
    (waiting : Waiting kept met rs) :
    H.Leads c (meetRequests region id listing kept met rs)
      (fun networks d => d.InOrder ∧ ∀ b, d.Shows id b ↔ b ∈ networks) fun _ => True := by
  induction rs generalizing c kept met with
  | nil =>
    refine Host.leads_pure ⟨h, fun b => ?_⟩
    have nothing (k : String) : kept.find? k ≠ some b := fun hk => by
      have requested := waiting.requested k (by rw [hk]; rfl)
      exact absurd requested (by simp)
    rw [accounted b]
    exact or_iff_right fun ⟨k, hk⟩ => nothing k hk
  | cons r rs ih =>
    rw [meetRequests]
    by_cases hmet : r.networkId ∈ met.map (·.networkId)
    · rw [if_pos (any_networkId_iff.2 hmet)]
      exact ih h listed accounted (waiting.skip hmet)
    · rw [if_neg (mt any_networkId_iff.1 hmet)]
      have remembered (a : NetworkAttachment) (ha : kept.find? r.networkId = some a) :
          c.Shows id a ∧ a.networkId = r.networkId :=
        ⟨(accounted a).2 (.inl ⟨_, ha⟩), waiting.keys _ a ha⟩
      have first : H.Leads c (meetRequest region id listing kept r) _ _ :=
        (leads_meetRequest_shown h listed remembered).and Host.leads_sameSite
      refine (first.mono (fun _ _ hd => hd) fun _ _ => trivial).bind fun a d hd => ?_
      obtain ⟨⟨⟨order, ha⟩, shown⟩, site⟩ := hd
      exact ih order (listed.of_sameSite site) (accounted.meet waiting hmet shown)
        (waiting.meet ha)

/-! ### The whole step -/

/-- **The attachments that reconciling the networks answers** are those that the cloud shows then, if
the tracked ones were those that it showed before, with one to a network. -/
theorem leads_convergeNetworks_shown {s : InstanceState} {desired : InstanceSpec} (h : c.InOrder)
    (shown : ∀ b, c.Shows s.id b ↔ b ∈ s.networks)
    (single : ∀ a ∈ s.networks, ∀ b ∈ s.networks, a.networkId = b.networkId → a = b) :
    H.Leads c (convergeNetworks s desired)
      (fun networks d => d.InOrder ∧ ∀ b, d.Shows s.id b ↔ b ∈ networks) fun _ => True := by
  have named : ∀ a ∈ s.networks, a.portId ≠ "" := fun a ha => h.portId_ne ((shown a).2 ha)
  let remembered (kept : IdMap NetworkAttachment) : Prop := ∀ k, kept.find? k =
    if (desired.network? k).isSome then lastTo? s.networks k else none
  have first : H.Leads c (detachUnwanted s.region s.id desired ∅ s.networks)
      (fun kept d => ((d.InOrder ∧ ∀ b, d.Shows s.id b ↔ c.Shows s.id b ∧ ∀ a ∈ s.networks,
        ¬ (desired.network? a.networkId).isSome → b.portId ≠ a.portId) ∧ c.SameSite d) ∧
          remembered kept) fun _ => True := by
    have run : H.Leads c (detachUnwanted s.region s.id desired ∅ s.networks) _ _ :=
      (leads_detachUnwanted_shown ∅ h named).and Host.leads_sameSite
    refine (run.and_of_succeeds fun w kept w' es hrun k => ?_).mono (fun _ _ hd => hd)
      fun _ _ => trivial
    rw [hrun.detachUnwanted_find?, IdMap.find?_empty, Option.or_none]
  refine first.bind ?_
  rintro kept d ⟨⟨⟨order, without⟩, site⟩, hkept⟩
  have last {k : String} {a : NetworkAttachment} (hk : kept.find? k = some a) :
      (desired.network? k).isSome ∧ a ∈ s.networks ∧ a.networkId = k := by
    rw [hkept] at hk
    split_ifs at hk with hwanted
    exact ⟨hwanted, lastTo?_some hk⟩
  have accounted : Accounted d s.id kept [] := by
    intro b
    rw [without, shown, or_iff_left List.not_mem_nil]
    constructor
    · rintro ⟨hb, gone⟩
      have wanted : (desired.network? b.networkId).isSome := by
        by_contra unwanted
        exact gone b hb unwanted rfl
      obtain ⟨a, ha⟩ : ∃ a, lastTo? s.networks b.networkId = some a :=
        Option.isSome_iff_exists.1
          (List.find?_isSome.2 ⟨b, List.mem_reverse.2 hb, decide_eq_true rfl⟩)
      obtain ⟨hmem, hk⟩ := lastTo?_some ha
      obtain rfl := single a hmem b hb hk
      exact ⟨a.networkId, by rw [hkept, if_pos wanted, ha]⟩
    · rintro ⟨k, hk⟩
      obtain ⟨wanted, hb, rfl⟩ := last hk
      refine ⟨hb, fun a ha unwanted hport => unwanted ?_⟩
      rwa [← h.eq_of_portId ((shown b).2 hb) ((shown a).2 ha) hport]
  have waiting : Waiting kept [] desired.networks := by
    refine ⟨fun k a hk => (last hk).2.2, fun _ _ => List.not_mem_nil, fun k hk => ?_⟩
    obtain ⟨a, ha⟩ := Option.isSome_iff_exists.1 hk
    obtain ⟨r, hr⟩ := Option.isSome_iff_exists.1 (last ha).1
    exact List.mem_map.2 ⟨r, List.mem_of_find?_eq_some hr, key_of_find? hr⟩
  have meet (listing : List Network) (listed : Listed listing d) :
      H.Leads d (meetRequests s.region s.id listing kept [] desired.networks) _ _ :=
    leads_meetRequests_shown order listed accounted waiting
  by_cases all : desired.networks.all (·.metBy kept) = true
  · rw [if_pos all, pure_bind]
    exact meet [] (.inl rfl)
  · rw [if_neg all]
    have listed : d.perform .listNetworks = (.ok d.networks, d) := rfl
    exact Host.leads_ask_ok_bind listed (meet d.networks (.inr rfl)) fun _ => trivial

end Reconciler
