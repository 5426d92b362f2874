import Reconciler.Proofs.Lists
import Reconciler.Proofs.Update.Listing
import Reconciler.Proofs.Update.Result
import Mathlib.Data.Option.Basic

/-!
# Updating twice

After an update that succeeded, the same configuration asks for nothing more: a second update makes
no call that changes anything, and ends with the state it started from. It holds for every provider
whose new ports have an identifier and the address asked for, and the second provider may be
another.

A second update lists the networks only if some network is requested more than once and a later
request for it differs from the first.

## What is proved

* `MadeFor.satisfiedBy`: an attachment made for a request satisfies it.
* `Succeeds.convergeNetworks_converged`: after a reconciliation every first request is satisfied.
* `succeeds_convergeNetworks_of_converged`: a second reconciliation changes nothing.
* `updateInstance_again`: the second update.
-/

namespace Reconciler

variable {σ : Type} {p : Provider σ} {w w' : World σ} {es : List Exchange}
  {region : Region} {id : InstanceId}

/-- An exchange in which a port that is made has an identifier and the address asked for, if one
is. -/
def Exchange.attachesAsAsked : Exchange → Bool
  | ⟨_, _, .attachNetwork _ r, .ok port⟩ => port.id ≠ "" && r.ip.all (· = port.ipAddress)
  | _ => true

/-- An attachment made for a request satisfies it. -/
theorem MadeFor.satisfiedBy {r : NetworkRequest} {a : NetworkAttachment}
    (h : MadeFor region id es r a) (hes : ∀ e ∈ es, e.attachesAsAsked = true) :
    r.satisfiedBy a = true := by
  obtain ⟨start, subnet, port, he, rfl⟩ := h
  have hport := hes _ he
  simp only [Exchange.attachesAsAsked, Bool.and_eq_true, decide_eq_true_eq] at hport
  obtain ⟨hid, hip⟩ := hport
  have hid' : port.id ≠ "" := by simpa using hid
  simp only [NetworkRequest.satisfiedBy, NetworkAttachment.ofPort, NetworkAttachment.isAttached,
    Bool.and_eq_true, decide_eq_true_eq]
  exact ⟨⟨⟨trivial, decide_eq_true hid'⟩, trivial⟩, hip⟩

/-- The attachments `networks` are what the requests `rs` come to: one for each network, in the
order of the first requests, and each satisfies the first request for its network. -/
structure Converged (rs : List NetworkRequest) (networks : List NetworkAttachment) : Prop where
  /-- The networks. -/
  ids : networks.map (·.networkId) = (rs.map (·.networkId)).eraseDups
  /-- The first requests are satisfied. -/
  satisfied : ∀ a ∈ networks, ∃ r, rs.find? (·.networkId = a.networkId) = some r ∧
    r.satisfiedBy a = true

theorem Succeeds.convergeNetworks_converged {observed : InstanceState} {desired : InstanceSpec}
    {networks : List NetworkAttachment}
    (h : Succeeds p w (convergeNetworks observed desired) networks w' es)
    (hes : ∀ e ∈ es, e.attachesAsAsked = true) : Converged desired.networks networks where
  ids := h.convergeNetworks_ids
  satisfied a ha := by
    obtain ⟨r, hr, ⟨-, hsat⟩ | ⟨-, hmade⟩⟩ := h.convergeNetworks_origin ha
    · exact ⟨r, hr, hsat⟩
    · exact ⟨r, hr, hmade.satisfiedBy hes⟩

/-! ### The second reconciliation -/

/-- Attachments to wanted networks are remembered without a call. -/
theorem succeeds_detachUnwanted_of_wanted {desired : InstanceSpec} {as : List NetworkAttachment}
    (h : ∀ a ∈ as, (desired.network? a.networkId).isSome) (kept : IdMap NetworkAttachment) :
    ∃ kept', Succeeds p w (detachUnwanted region id desired kept as) kept' w [] := by
  induction as generalizing kept with
  | nil => exact ⟨kept, succeeds_pure_iff.2 ⟨rfl, rfl, rfl⟩⟩
  | cons a as ih =>
    rw [detachUnwanted, if_pos (h a (List.mem_cons_self ..))]
    exact ih (fun b hb => h b (List.mem_cons_of_mem _ hb)) _

/-- The first request for a network is satisfied by the attachment there is to it. -/
theorem Converged.exists_satisfied {rs : List NetworkRequest} {networks : List NetworkAttachment}
    (h : Converged rs networks) {r : NetworkRequest}
    (hr : rs.find? (·.networkId = r.networkId) = some r) :
    ∃ a ∈ networks, a.networkId = r.networkId ∧ r.satisfiedBy a = true := by
  have hmem : r.networkId ∈ networks.map (·.networkId) := by
    rw [h.ids, List.mem_eraseDups]
    exact List.mem_map_of_mem (List.mem_of_find?_eq_some hr)
  obtain ⟨a, ha, hk⟩ := List.mem_map.1 hmem
  obtain ⟨q, hq, hsat⟩ := h.satisfied a ha
  rw [hk, hr, Option.some.injEq] at hq
  exact ⟨a, ha, hk, hq ▸ hsat⟩

theorem Converged.nodup {rs : List NetworkRequest} {networks : List NetworkAttachment}
    (h : Converged rs networks) : (networks.map (·.networkId)).Nodup :=
  h.ids ▸ nodup_eraseDups _

variable {t : Tuning} {s : InstanceState} {desired : InstanceSpec}

/-- A run of the reconciliation without a call that changes anything ends with the attachments that
have converged already. -/
theorem Succeeds.convergeNetworks_eq {networks : List NetworkAttachment}
    (h : Succeeds p w (convergeNetworks s desired) networks w' es)
    (hes : ∀ e ∈ es, e.call.isMutating = false) (hs : Converged desired.networks s.networks) :
    networks = s.networks := by
  refine eq_of_map_key (h.convergeNetworks_ids.trans hs.ids.symm) (lastTo? s.networks)
    (fun a ha => ?_) fun b hb => lastTo?_of_nodup hs.nodup hb
  obtain ⟨r, -, ⟨hlast, -⟩ | ⟨-, start, subnet, port, he, -⟩⟩ := h.convergeNetworks_origin ha
  · exact hlast
  · exact absurd (hes _ he) (by simp [Call.isMutating, Method.isMutating])

/-- **Attachments that have converged are remembered**, without a call, and satisfy the first
requests. -/
theorem Converged.exists_remembered (hs : Converged desired.networks s.networks) (p : Provider σ)
    (w : World σ) :
    ∃ kept, Succeeds p w (detachUnwanted s.region s.id desired ∅ s.networks) kept w [] ∧
      ∀ r, desired.networks.find? (·.networkId = r.networkId) = some r → r.metBy kept = true := by
  have hwanted : ∀ a ∈ s.networks, (desired.network? a.networkId).isSome := fun a ha => by
    obtain ⟨r, hr, -⟩ := hs.satisfied a ha
    rw [InstanceSpec.network?, hr]
    rfl
  obtain ⟨kept, hkept⟩ : ∃ kept, Succeeds p w
      (detachUnwanted s.region s.id desired ∅ s.networks) kept w [] :=
    succeeds_detachUnwanted_of_wanted hwanted ∅
  refine ⟨kept, hkept, fun r hr => ?_⟩
  obtain ⟨a, ha, hk, hsat⟩ := hs.exists_satisfied hr
  rw [NetworkRequest.metBy, hkept.detachUnwanted_find?, InstanceSpec.network?, hr, ← hk,
    lastTo?_of_nodup hs.nodup ha]
  simpa using hsat

/-- **If no network is requested twice**, the second reconciliation makes no call. -/
theorem Converged.convergeNetworks_of_nodup (hs : Converged desired.networks s.networks)
    (nodup : (desired.networks.map (·.networkId)).Nodup) (p : Provider σ) (w : World σ) :
    Succeeds p w (convergeNetworks s desired) s.networks w [] := by
  obtain ⟨kept, hkept, hmet⟩ := hs.exists_remembered p w
  have hall : desired.networks.all (·.metBy kept) = true :=
    List.all_eq_true.2 fun r hr => hmet r (find?_of_nodup nodup hr)
  obtain ⟨networks, h, -⟩ := hkept.convergeNetworks_of_met hall
  obtain rfl := h.convergeNetworks_eq (by simp) hs
  exact h

/-- **The second reconciliation** changes nothing, and makes no call if no network is requested
twice. -/
theorem succeeds_convergeNetworks_of_converged (hs : Converged desired.networks s.networks)
    {listing : List Network} (lists : w.outcome p s.region .listNetworks = .ok listing) :
    ∃ w' es, Succeeds p w (convergeNetworks s desired) s.networks w' es ∧
      (∀ e ∈ es, e.call.isMutating = false) ∧
      ((desired.networks.map (·.networkId)).Nodup → es = []) := by
  by_cases nodup : (desired.networks.map (·.networkId)).Nodup
  · exact ⟨w, [], hs.convergeNetworks_of_nodup nodup p w, by simp, fun _ => rfl⟩
  suffices ∃ networks w' es, Succeeds p w (convergeNetworks s desired) networks w' es ∧
      ∀ e ∈ es, e.call.isMutating = false by
    obtain ⟨networks, w', es, h, hes⟩ := this
    obtain rfl := h.convergeNetworks_eq hes hs
    exact ⟨w', es, h, hes, fun hn => absurd hn nodup⟩
  obtain ⟨kept, hkept, hmet⟩ := hs.exists_remembered p w
  by_cases hall : desired.networks.all (·.metBy kept) = true
  · obtain ⟨networks, h, -⟩ := hkept.convergeNetworks_of_met hall
    exact ⟨networks, w, [], h, by simp⟩
  · -- A request that is not met is not the first for its network.
    obtain ⟨networks, meets⟩ : ∃ networks, ∀ listing,
        meetRequests s.region s.id listing kept [] desired.networks = pure networks :=
      exists_meetRequests_eq_pure fun r hr _ => hmet r hr
    have hmeet : Succeeds p (w.afterCall p s.region .listNetworks)
        (meetRequests s.region s.id listing kept [] desired.networks) networks _ [] :=
      meets listing ▸ succeeds_pure_iff.2 ⟨rfl, rfl, rfl⟩
    refine ⟨networks, w.afterCall p s.region .listNetworks,
      [⟨w.now, s.region, .listNetworks, .ok listing⟩], ?_, ?_⟩
    · refine succeeds_bind_iff.2 ⟨kept, w, [], [_], hkept, ?_, rfl⟩
      rw [if_neg hall]
      exact (succeeds_ask_iff.2 ⟨lists, rfl, rfl⟩).bind hmeet
    · simp [Call.isMutating, Method.isMutating]

/-! ### The second update -/

theorem immutableViolations_self (desired : InstanceSpec) :
    immutableViolations desired desired = [] := by
  simp [immutableViolations]

theorem stateAfterUpdate_again {observed : InstanceState} {networks : List NetworkAttachment} :
    stateAfterUpdate (stateAfterUpdate observed desired networks) desired networks =
      stateAfterUpdate observed desired networks := by
  have hgroups : groupsAfterUpdate (stateAfterUpdate observed desired networks) desired =
      groupsAfterUpdate observed desired := by
    show applyEdits _ (editScript _ (groupsAfterUpdate observed desired)) = _
    rw [groupsAfterUpdate, editScript_applyEdits]
    rfl
  have hvolumes : volumesAfterUpdate (stateAfterUpdate observed desired networks) desired =
      volumesAfterUpdate observed desired := by
    show applyEdits _ (editScript _ (volumesAfterUpdate observed desired)) = _
    rw [volumesAfterUpdate, editScript_applyEdits]
    rfl
  have hstatus : statusAfterUpdate (stateAfterUpdate observed desired networks) desired =
      statusAfterUpdate observed desired := by
    simp [statusAfterUpdate, statusAfterFlavor, stateAfterUpdate]
  conv_lhs => rw [stateAfterUpdate, hgroups, hvolumes, hstatus]
  rfl

variable {τ : Type} {q : Provider τ} {v : World τ} {u : Tuning} {observed s' : InstanceState}

/-- **A second update makes no call that changes anything** and ends with the state of the first, if
each port made in the first has an identifier and the address asked for, and if the networks are
listed. It makes no call at all if no network is requested twice. The second run may be with another
provider, at another time and with other waits. -/
theorem updateInstance_again
    (first : Succeeds p w (updateInstance t observed desired) s' w' es)
    (attaches : ∀ e ∈ es, e.attachesAsAsked = true) {listing : List Network}
    (lists : v.outcome q s'.region .listNetworks = .ok listing) :
    ∃ v' es', Succeeds q v (updateInstance u s' desired) s' v' es' ∧
      (∀ e ∈ es', e.call.isMutating = false) ∧
      ((desired.networks.map (·.networkId)).Nodup → es' = []) := by
  obtain ⟨-, networks, _, _, _, hnetworks, hes, rfl⟩ := first.updateInstance_eq
  have hconverged : Converged desired.networks networks :=
    hnetworks.convergeNetworks_converged fun e he => attaches e (hes e he)
  obtain ⟨v', es', hsecond, hlooks, hnil⟩ :=
    succeeds_convergeNetworks_of_converged (s := stateAfterUpdate observed desired networks)
      hconverged lists
  refine ⟨v', es', ?_, hlooks, hnil⟩
  have idle {α : Type} (a : α) (w : World τ) : Succeeds q w (pure a) a w [] :=
    succeeds_pure_iff.2 ⟨rfl, rfl, rfl⟩
  have happlied : (stateAfterUpdate observed desired networks).applied = desired := rfl
  rw [updateInstance_of_allowed (by rw [happlied, immutableViolations_self])]
  refine succeeds_convergeExisting_iff.2 ⟨networks, v, v, v, v, v', v', v', [], [], [], [], es', [],
    [], [], ?_, ?_, ?_, ?_, hsecond, ?_, ?_, ?_, stateAfterUpdate_again.symm, by simp⟩
  · rw [rename_eq_pure (by rw [happlied])]
    exact idle _ _
  · rw [convergeGroups_eq_pure (editScript_applyEdits desired.securityGroups _)]
    exact idle _ _
  · rw [resizeFlavor_eq_pure (by rw [happlied])]
    exact idle _ _
  · rw [convergeVolumes_eq_pure (editScript_applyEdits desired.volumes _)]
    exact idle _ _
  · rw [growRootDisk_eq_pure (by rw [happlied])]
    exact idle _ _
  · rw [convergeFloatingIp_eq_pure rfl]
    exact idle _ _
  · rw [revertSnapshot_eq_pure (by rw [happlied])]
    exact idle _ _

theorem updateInstance_again_sample :
    ∃ w' es, Succeeds Cloud.provider ⟨sampleCloud, 0⟩ (updateInstance {} sampleState sampleSpec)
        sampleResult w' es ∧
      (∀ e ∈ es, e.attachesAsAsked = true) ∧
      World.outcome Cloud.provider ⟨{}, 0⟩ sampleResult.region .listNetworks = .ok [] ∧
      ∃ v' es', Succeeds Cloud.provider ⟨{}, 0⟩ (updateInstance {} sampleResult sampleSpec)
          sampleResult v' es' ∧
        (∀ e ∈ es', e.call.isMutating = false) ∧
        ((sampleSpec.networks.map (·.networkId)).Nodup → es' = []) :=
  have run := succeeds_of_exec exec_sampleUpdate
  have attaches := List.all_eq_true.1 (by decide +kernel)
  ⟨_, _, run, attaches, rfl, updateInstance_again run attaches rfl⟩

end Reconciler
