import Reconciler.Proofs.Cloud.Ports
import Reconciler.Proofs.Update.Result

/-!
# The floating address and the port of its network

A floating address is bound to the port of one of the networks of an instance. An update binds it
anew when the address or its network is to change. When neither is, the update leaves the binding
alone, even if the port it is on was given up in the same update: the address then stays with a port
that is no longer there, and the tracked state does not show it.

## What is proved

* `leads_unbindFloatingIp`, `leads_bindNextFloatingIp`: what the two halves of the change do.
* `leads_convergeFloatingIp_of`: what the change does, from its two halves.
* `Succeeds.updateInstance_floatingIps`: what is bound after an update.
* `floatingIp_follows_iff`: when the floating address is on its network's port after an update.
-/

namespace Reconciler

/-! ### What is bound for an instance -/

/-- The floating addresses that are bound for an instance, with their ports. -/
def bindingsOf (bound : List BoundFloatingIp) (id : InstanceId) : List (String × String) :=
  (bound.filter (·.serverId = id)).map fun b => (b.record.id, b.portId)

/-- **The floating address follows the port**: what is bound for the instance is the tracked
floating address alone, on the port of an attachment to its network. -/
def FollowsPort (s : InstanceState) (c : Cloud) : Prop :=
  match s.floatingIp with
  | none => bindingsOf c.floatingIps s.id = []
  | some f => ∃ a ∈ s.networks, a.networkId = f.networkId ∧ a.isAttached = true ∧
      bindingsOf c.floatingIps s.id = [(f.floatingIpId, a.portId)]

/-- What stays bound when the port that is tracked for a network is cleared. -/
def boundElsewhere (bound : List BoundFloatingIp) (networks : List NetworkAttachment)
    (networkId : String) : List BoundFloatingIp :=
  match attachedTo? networks networkId with
  | none => bound
  | some a => bound.filter (·.portId ≠ a.portId)

theorem bindingsOf_append (bound new : List BoundFloatingIp) (id : InstanceId) :
    bindingsOf (bound ++ new) id = bindingsOf bound id ++ bindingsOf new id := by
  rw [bindingsOf, bindingsOf, bindingsOf, List.filter_append, List.map_append]

theorem bindingsOf_filter (bound : List BoundFloatingIp) (id : InstanceId) (portId : String) :
    bindingsOf (bound.filter (·.portId ≠ portId)) id =
      (bindingsOf bound id).filter (·.2 ≠ portId) := by
  rw [bindingsOf, bindingsOf, List.filter_map, List.filter_filter, List.filter_filter]
  refine congrArg _ (List.filter_congr fun b _ => ?_)
  exact Bool.and_comm _ _

/-- Nothing stays bound exactly when what was bound was on the tracked port. -/
theorem bindingsOf_boundElsewhere_eq_nil_iff {bound : List BoundFloatingIp} {id : InstanceId}
    {f portId : String} (h : bindingsOf bound id = [(f, portId)])
    (networks : List NetworkAttachment) (networkId : String) :
    bindingsOf (boundElsewhere bound networks networkId) id = [] ↔
      ∃ a, (f, a.portId) ∈ bindingsOf bound id ∧ attachedTo? networks networkId = some a := by
  rw [boundElsewhere, h]
  cases attachedTo? networks networkId with
  | none => simp [h]
  | some a =>
    simp only [bindingsOf_filter, h, List.filter_eq_nil_iff, List.mem_singleton, forall_eq,
      decide_eq_true_eq, ne_eq, not_not, Option.some.injEq, exists_eq_right', Prod.mk.injEq,
      true_and]
    exact eq_comm

/-! ### The two halves of the change -/

section

variable {σ : Type} {H : Host σ} {c : Cloud} {observed : InstanceState}

/-- **Unbinding** leaves nothing on the port that was tracked for the network, unless the host
fails. -/
theorem leads_unbindFloatingIp (previous : FloatingIpBinding) :
    H.Leads c (unbindFloatingIp observed previous)
      (fun _ d => d.floatingIps = boundElsewhere c.floatingIps observed.networks previous.networkId ∨
        H.fails)
      fun _ => H.fails := by
  rw [unbindFloatingIp, boundElsewhere]
  cases attachedTo? observed.networks previous.networkId with
  | none => exact Host.leads_pure (.inl rfl)
  | some a =>
    refine Host.leads_request ?_ fun hf e => ?_
    · rw [Cloud.perform, Cloud.detachFloatingIp]
      split_ifs with hbound
      · exact Host.leads_pure (.inl rfl)
      · refine Host.leads_pure (.inl (List.filter_eq_self.2 fun b hb => ?_).symm)
        simp only [List.any_eq_true, decide_eq_true_eq, not_exists, not_and] at hbound
        simpa using hbound b hb
    · cases hn : e.isNotFound with
      | true =>
        simp only [hn, if_true]
        exact Host.leads_pure (.inr hf)
      | false =>
        simp only [hn]
        exact Host.leads_throw hf

/-- **Binding** adds one binding, on the port that is there for the network. -/
theorem leads_bindNextFloatingIp (networks : List NetworkAttachment) (next : FloatingIpBinding) :
    H.Leads c (bindNextFloatingIp observed networks next)
      (fun _ d => ∃ target record, attachedTo? networks next.networkId = some target ∧
        record.id = next.floatingIpId ∧ d.floatingIps = c.floatingIps ++
          [{ serverId := observed.id, portId := target.portId, record }])
      fun _ => True := by
  rw [bindNextFloatingIp]
  cases attachedTo? networks next.networkId with
  | none => exact Host.leads_throw trivial
  | some target =>
    have look : H.Leads c (publicIpState observed.region observed.id) (fun _ d => d = c)
        fun _ => True :=
      (Host.leads_ask (fun _ _ => rfl) (fun _ _ => trivial) fun _ => trivial).bind
        fun _ _ hd => Host.leads_pure hd.symm
    refine look.bind fun held d hd => ?_
    subst hd
    split_ifs
    · exact Host.leads_throw trivial
    · refine Host.leads_ask (fun _ ha => ?_) (fun _ _ => trivial) fun _ => trivial
      rw [Cloud.perform, Cloud.attachFloatingIp] at ha ⊢
      split at ha
      · simp at ha
      · exact ⟨target, _, rfl, rfl, rfl⟩

/-- What is left bound once the tracked floating address is unbound. -/
def leftBound (s : InstanceState) (bound : List BoundFloatingIp) : List BoundFloatingIp :=
  match s.floatingIp with
  | none => bound
  | some previous => boundElsewhere bound s.networks previous.networkId

/-- **The tracked floating address is unbound** in the cloud `d` that was `c`. -/
structure Unbound (H : Host σ) (c : Cloud) (s : InstanceState) (d : Cloud) : Prop where
  /-- Nothing else has changed. -/
  changes : Part.floatingIps.Changes c d
  /-- It is left out of what is bound, unless the host fails. -/
  left : d.floatingIps = leftBound s c.floatingIps ∨ H.fails

/-- **The two halves together**: a change of the floating address leads to what binding the next one
leads to, once the previous one is unbound. -/
theorem leads_convergeFloatingIp_of {desired : InstanceSpec} {networks : List NetworkAttachment}
    {done broken : Cloud → Prop}
    (differs : observed.floatingIp ≠ desired.floatingIp) (fails : ∀ d, H.fails → broken d)
    (unbindOnly : desired.floatingIp = none → ∀ d, Unbound H c observed d → done d)
    (bindNext : ∀ next, desired.floatingIp = some next → ∀ d, Unbound H c observed d →
      H.Leads d (bindNextFloatingIp observed networks next) (fun _ => done) broken) :
    H.Leads c (convergeFloatingIp observed networks desired) (fun _ => done) broken := by
  rw [convergeFloatingIp, if_neg differs]
  cases hprevious : observed.floatingIp with
  | none =>
    have unbound : Unbound H c observed c := ⟨.refl .., .inl (by rw [leftBound, hprevious])⟩
    cases hnext : desired.floatingIp with
    | none => exact Host.leads_pure (unbindOnly hnext c unbound)
    | some next => exact (bindNext next hnext c unbound).bind fun _ _ hd => Host.leads_pure hd
  | some previous =>
    have unbind : H.Leads c (unbindFloatingIp observed previous)
        (fun _ d => Unbound H c observed d) fun _ => H.fails := by
      refine ((leads_unbindFloatingIp previous).and
        (Host.leads_changes makes_unbindFloatingIp)).mono (fun _ d hd => ⟨hd.2, ?_⟩) fun _ hb => hb.1
      rw [leftBound, hprevious]
      exact hd.1
    refine unbind.followedBy fails fun _ d unbound => ?_
    cases hnext : desired.floatingIp with
    | none => exact Host.leads_pure (unbindOnly hnext d unbound)
    | some next => exact (bindNext next hnext d unbound).bind fun _ _ hd => Host.leads_pure hd

end

/-! ### What is bound after an update -/

/-- What is bound once the floating address has been seen to, of what was bound before. -/
def BoundAfter (observed : InstanceState) (networks : List NetworkAttachment)
    (desired : InstanceSpec) (bound bound' : List BoundFloatingIp) : Prop :=
  if observed.floatingIp = desired.floatingIp then bound' = bound
  else
    let left := match observed.floatingIp with
      | none => bound
      | some previous => boundElsewhere bound observed.networks previous.networkId
    match desired.floatingIp with
    | none => bound' = left
    | some next => ∃ target record, attachedTo? networks next.networkId = some target ∧
        record.id = next.floatingIpId ∧
        bound' = left ++ [{ serverId := observed.id, portId := target.portId, record }]

section

variable {σ : Type} {H : Host σ} {c : Cloud} {observed : InstanceState} {desired : InstanceSpec}

theorem leads_convergeFloatingIp (networks : List NetworkAttachment) :
    H.Leads c (convergeFloatingIp observed networks desired)
      (fun _ d => BoundAfter observed networks desired c.floatingIps d.floatingIps ∨ H.fails)
      fun _ => True := by
  unfold BoundAfter
  by_cases same : observed.floatingIp = desired.floatingIp
  · rw [convergeFloatingIp]
    simp only [if_pos same]
    exact Host.leads_pure (.inl rfl)
  · simp only [if_neg same]
    refine leads_convergeFloatingIp_of same (fun _ _ => trivial) (fun hnone d unbound => ?_)
      fun next hnext d unbound => ?_
    · rw [hnone]
      exact unbound.left
    · rw [hnext]
      refine (leads_bindNextFloatingIp networks next).mono (fun _ e he => ?_) fun _ hb => hb
      refine unbound.left.imp_left fun left => ?_
      rw [left] at he
      exact he

end

variable {w w' : World Cloud} {t : Tuning} {observed s' : InstanceState} {desired : InstanceSpec}
  {es : List Exchange}

/-- A run of a task that makes calls of another part leaves the bindings. -/
theorem Succeeds.floatingIps_eq {α : Type} {task : Task α} {a : α} {part : Part}
    (h : Succeeds Cloud.provider w task a w' es) (hx : task.run.Makes part.Covers)
    (hp : part ≠ .floatingIps) (hw : w.store.Unfailing) :
    w'.store.Unfailing ∧ w'.store.floatingIps = w.store.floatingIps :=
  have after := (Host.leads_changes (H := Cloud.host) hx).of_succeeds hw rfl h
  ⟨after.1, after.2.floatingIps_eq hp⟩

/-- **What is bound after an update** that succeeds: only the step of the floating address changes
it, and that step knows the attachments that the update ends with. -/
theorem Succeeds.updateInstance_floatingIps (hw : w.store.Unfailing)
    (run : Succeeds Cloud.provider w (updateInstance t observed desired) s' w' es) :
    BoundAfter observed s'.networks desired w.store.floatingIps w'.store.floatingIps := by
  obtain ⟨hguard, -⟩ := run.updateInstance_eq
  rw [updateInstance_of_allowed hguard] at run
  obtain ⟨networks, w₁, w₂, w₃, w₄, w₅, w₆, w₇, _, _, _, _, _, _, _, _, h₁, h₂, h₃, h₄, h₅, h₆, h₇,
    h₈, rfl, -⟩ := succeeds_convergeExisting_iff.1 run
  obtain ⟨u₁, e₁⟩ := h₁.floatingIps_eq makes_rename (by decide) hw
  obtain ⟨u₂, e₂⟩ := h₂.floatingIps_eq makes_convergeGroups (by decide) u₁
  obtain ⟨u₃, e₃⟩ := h₃.floatingIps_eq makes_resizeFlavor (by decide) u₂
  obtain ⟨u₄, e₄⟩ := h₄.floatingIps_eq makes_convergeVolumes (by decide) u₃
  obtain ⟨u₅, e₅⟩ := h₅.floatingIps_eq makes_convergeNetworks (by decide) u₄
  obtain ⟨u₆, e₆⟩ := h₆.floatingIps_eq makes_growRootDisk (by decide) u₅
  obtain ⟨u₇, bound | failed⟩ :=
    (leads_convergeFloatingIp (H := Cloud.host) networks).of_succeeds u₆ rfl h₇
  · obtain ⟨-, e₈⟩ := h₈.floatingIps_eq makes_revertSnapshot (by decide) u₇
    rw [e₈, ← e₁, ← e₂, ← e₃, ← e₄, ← e₅, ← e₆]
    exact bound
  · exact failed.elim

/-! ### When the floating address follows -/

theorem attachedTo?_eq_some {as : List NetworkAttachment} {k : String} {a : NetworkAttachment}
    (h : attachedTo? as k = some a) : a ∈ as ∧ a.networkId = k ∧ a.isAttached = true := by
  obtain ⟨hfind, hattached⟩ := Option.filter_eq_some_iff.1 h
  have hk := List.find?_some hfind
  simp only [decide_eq_true_eq] at hk
  exact ⟨List.mem_of_find?_eq_some hfind, hk, hattached⟩

/-- The update deals with the port that the floating address is on: if the address is to stay, the
attachment with that port satisfies the first request for its network, and so it stays too; if not,
that attachment is the one whose port is cleared. -/
def MindsBoundPort (observed : InstanceState) (desired : InstanceSpec)
    (bound : List BoundFloatingIp) : Prop :=
  ∀ f, observed.floatingIp = some f →
    ∃ a, (f.floatingIpId, a.portId) ∈ bindingsOf bound observed.id ∧
      if desired.floatingIp = some f then
        ∃ r, desired.network? f.networkId = some r ∧
          lastTo? observed.networks f.networkId = some a ∧ r.satisfiedBy a = true
      else attachedTo? observed.networks f.networkId = some a

/-- A floating address that is to stay is on its network's port afterwards exactly when the
attachment with the port it is on stays. -/
theorem followsPort_of_unchanged_iff {observed : InstanceState} {desired : InstanceSpec}
    {networks : List NetworkAttachment} {bound : List BoundFloatingIp} {f : FloatingIpBinding}
    {p : Provider Cloud} {v v' : World Cloud}
    (hnetworks : Succeeds p v (convergeNetworks observed desired) networks v' es)
    (new : ∀ r a, MadeFor observed.region observed.id es r a →
      (f.floatingIpId, a.portId) ∉ bindingsOf bound observed.id) :
    (∃ a ∈ networks, a.networkId = f.networkId ∧ a.isAttached = true ∧
        (f.floatingIpId, a.portId) ∈ bindingsOf bound observed.id) ↔
      ∃ a, (f.floatingIpId, a.portId) ∈ bindingsOf bound observed.id ∧
        ∃ r, desired.network? f.networkId = some r ∧
          lastTo? observed.networks f.networkId = some a ∧ r.satisfiedBy a = true := by
  constructor
  · rintro ⟨a, ha, hk, -, hmem⟩
    obtain ⟨r, hr, horigin⟩ := hnetworks.convergeNetworks_origin ha
    rw [hk] at hr horigin
    rcases horigin with ⟨hlast, hsat⟩ | ⟨-, hmade⟩
    · exact ⟨a, hmem, r, hr, hlast, hsat⟩
    · exact absurd hmem (new r a hmade)
  · rintro ⟨a, hmem, r, hr, hlast, hsat⟩
    exact ⟨a, hnetworks.convergeNetworks_keeps hr hlast hsat, (lastTo?_some hlast).2,
      NetworkRequest.isAttached_of_satisfiedBy hsat, hmem⟩

/-- A floating address that has been bound to the port of its network is there, and it is alone
exactly when nothing else stayed bound. -/
theorem followsPort_of_bound_iff {networks : List NetworkAttachment} {left : List BoundFloatingIp}
    {id : InstanceId} {g : FloatingIpBinding} {target : NetworkAttachment} {record : FloatingIp}
    (htarget : attachedTo? networks g.networkId = some target)
    (hrecord : record.id = g.floatingIpId) :
    (∃ a ∈ networks, a.networkId = g.networkId ∧ a.isAttached = true ∧
        bindingsOf (left ++ [{ serverId := id, portId := target.portId, record }]) id =
          [(g.floatingIpId, a.portId)]) ↔ bindingsOf left id = [] := by
  have hnew : bindingsOf [{ serverId := id, portId := target.portId, record }] id =
      [(g.floatingIpId, target.portId)] := by
    simp [bindingsOf, hrecord]
  rw [bindingsOf_append, hnew]
  constructor
  · rintro ⟨a, -, -, -, h⟩
    have hlength := congrArg List.length h
    simp only [List.length_append, List.length_singleton] at hlength
    exact List.eq_nil_of_length_eq_zero (by omega)
  · intro h
    obtain ⟨hmem, hk, hattached⟩ := attachedTo?_eq_some htarget
    exact ⟨target, hmem, hk, hattached, by rw [h, List.nil_append]⟩

/-- **After an update the floating address is on its network's port** exactly when the update minded
the port it was on. It always is when nothing was bound before. When the address is to change it is
unless several attachments to one network are tracked; but when it is to stay as it is, it is only
if the attachment stays as well. A port that a run makes may not have the name of one that is
bound. -/
theorem floatingIp_follows_iff (hw : w.store.Unfailing) (tracked : FollowsPort observed w.store)
    (fresh : ∀ b ∈ bindingsOf w.store.floatingIps observed.id,
      ¬ PortToCome w.store.counter b.2)
    (run : Succeeds Cloud.provider w (updateInstance t observed desired) s' w' es) :
    FollowsPort s' w'.store ↔ MindsBoundPort observed desired w.store.floatingIps := by
  have bound := run.updateInstance_floatingIps hw
  obtain ⟨-, networks, v, v', es', hnetworks, hes, rfl⟩ := run.updateInstance_eq
  have new (f : FloatingIpBinding) : ∀ r a, MadeFor observed.region observed.id es' r a →
      (f.floatingIpId, a.portId) ∉ bindingsOf w.store.floatingIps observed.id :=
    fun r a hmade hmem => by
      have hmade' := hmade.mono hes
      rw [← run.trace_eq] at hmade'
      exact fresh _ hmem (MadeFor.toCome (H := Cloud.host) hw hmade')
  change BoundAfter observed networks desired _ _ at bound
  show (match desired.floatingIp with
    | none => bindingsOf w'.store.floatingIps observed.id = []
    | some g => ∃ a ∈ networks, a.networkId = g.networkId ∧ a.isAttached = true ∧
        bindingsOf w'.store.floatingIps observed.id = [(g.floatingIpId, a.portId)]) ↔ _
  unfold MindsBoundPort
  unfold BoundAfter at bound
  unfold FollowsPort at tracked
  by_cases same : observed.floatingIp = desired.floatingIp
  · rw [if_pos same] at bound
    rw [bound, ← same]
    cases hf : observed.floatingIp with
    | none => simpa [hf] using tracked
    | some f =>
      rw [hf] at tracked
      obtain ⟨a₀, -, -, -, hbound⟩ := tracked
      have alone (a : NetworkAttachment) :
          bindingsOf w.store.floatingIps observed.id = [(f.floatingIpId, a.portId)] ↔
            (f.floatingIpId, a.portId) ∈ bindingsOf w.store.floatingIps observed.id := by
        rw [hbound]
        simp [eq_comm]
      simp only [Option.some.injEq, forall_eq', if_true, alone]
      exact followsPort_of_unchanged_iff hnetworks (new f)
  · rw [if_neg same] at bound
    cases hf : observed.floatingIp with
    | none =>
      rw [hf] at tracked bound same
      cases hg : desired.floatingIp with
      | none => exact absurd hg.symm same
      | some g =>
        rw [hg] at bound
        obtain ⟨target, record, htarget, hrecord, hw'⟩ := bound
        rw [hw']
        simpa using (followsPort_of_bound_iff htarget hrecord).2 tracked
    | some f =>
      rw [hf] at tracked bound same
      obtain ⟨a₀, -, -, -, hbound⟩ := tracked
      have cleared :=
        bindingsOf_boundElsewhere_eq_nil_iff hbound observed.networks f.networkId
      simp only [Option.some.injEq, forall_eq', if_neg (Ne.symm same)]
      rw [← cleared]
      cases hg : desired.floatingIp with
      | none =>
        rw [hg] at bound
        rw [bound]
      | some g =>
        rw [hg] at bound
        obtain ⟨target, record, htarget, hrecord, hw'⟩ := bound
        rw [hw']
        exact followsPort_of_bound_iff htarget hrecord

/-! ### A floating address left behind -/

/-- The cloud of the sample with a floating address on the port of its server. -/
def boundSampleCloud : Cloud :=
  { sampleCloud with
    floatingIps :=
      [{ serverId := "vm", portId := "p1"
         record := {
          id := "fip-1"
          address := "203.0.113.9"
          serverAddresses :=
            .ofList [("lan-a", [{ addr := "203.0.113.9", isPublic := true }])] } }] }

/-- The tracked state of its server. -/
def boundSampleState : InstanceState :=
  { sampleState with
    applied := { sampleState.applied with floatingIp := some ⟨"fip-1", "net-a"⟩ }
    floatingIp := some ⟨"fip-1", "net-a"⟩ }

/-- A configuration in which only the port is to filter source addresses. -/
def filteredSampleSpec : InstanceSpec :=
  { boundSampleState.applied with networks := [{ networkId := "net-a", portSecurity := true }] }

/-- What an update to that configuration gives. -/
def filteredSampleResult : InstanceState :=
  { boundSampleState with
    applied := filteredSampleSpec
    networks :=
      [{ networkId := "net-a", subnetId := "sub-a", portId := "port-1", ip := "10.0.0.1",
         portSecurity := true }] }

/-- The update succeeds in the cloud. -/
theorem exec_filteredSampleUpdate :
    ((updateInstance {} boundSampleState filteredSampleSpec).run.exec Cloud.provider
      ⟨boundSampleCloud, 0⟩).1 = some (.ok filteredSampleResult) := by decide +kernel

/-- The attachment is replaced, and the floating address stays on a port that is gone. -/
theorem floatingIp_follows_iff_sample :
    ∃ w' es, Cloud.Unfailing boundSampleCloud ∧ FollowsPort boundSampleState boundSampleCloud ∧
      Succeeds Cloud.provider ⟨boundSampleCloud, 0⟩
        (updateInstance {} boundSampleState filteredSampleSpec) filteredSampleResult w' es ∧
      (FollowsPort filteredSampleResult w'.store ↔
        MindsBoundPort boundSampleState filteredSampleSpec boundSampleCloud.floatingIps) ∧
      ¬ FollowsPort filteredSampleResult w'.store := by
  have unfailing : Cloud.Unfailing boundSampleCloud := fun _ => rfl
  have tracked : FollowsPort boundSampleState boundSampleCloud :=
    ⟨_, List.mem_cons_self .., rfl, rfl, rfl⟩
  have run := succeeds_of_exec exec_filteredSampleUpdate
  have fresh : ∀ b ∈ bindingsOf boundSampleCloud.floatingIps boundSampleState.id,
      ¬ PortToCome boundSampleCloud.counter b.2 := by
    intro b hb
    obtain rfl := List.mem_singleton.1 hb
    exact not_portToCome (by decide)
  have follows := floatingIp_follows_iff unfailing tracked fresh run
  refine ⟨_, _, unfailing, tracked, run, follows, fun h => ?_⟩
  obtain ⟨a, -, hkept⟩ := follows.1 h _ rfl
  rw [if_pos (show filteredSampleSpec.floatingIp = some ⟨"fip-1", "net-a"⟩ from rfl)] at hkept
  obtain ⟨r, hr, hlast, hsat⟩ := hkept
  obtain rfl := Option.some.inj hr
  obtain rfl := Option.some.inj hlast
  exact absurd hsat (by decide)

end Reconciler
