import Reconciler.Proofs.Update.Repeated

/-!
# Updates of a settled instance

An instance is settled when the desired configuration is the applied one and all that is tracked of
it is as desired, but perhaps its attachments. An update then only sees to the networks. It makes a
call that changes something exactly when an attachment does not satisfy the first request for its
network.

## What is proved

* `Settled.updateInstance_eq`: an update of a settled instance is a reconciliation of its networks.
* `trace_meetRequests_of_unsatisfied`: meeting the requests gives up an attachment that does not
  satisfy its request.
* `Settled.quiet_iff`: when an update of a settled instance changes nothing.
-/

namespace Reconciler

variable {σ : Type} {p : Provider σ} {w : World σ} {t : Tuning} {s : InstanceState}
  {desired : InstanceSpec}

/-- **The instance is settled** but perhaps for its networks: the desired configuration is the
applied one, and the groups, the volumes and the floating address are as desired. -/
structure Settled (s : InstanceState) (desired : InstanceSpec) : Prop where
  /-- The applied configuration is the desired one. -/
  applied : s.applied = desired
  /-- The groups are the desired ones. -/
  groups : ∀ x, x ≠ "" → (x ∈ desired.securityGroups ↔ x ∈ s.securityGroups)
  /-- The volumes are the desired ones. -/
  volumes : ∀ x, x ≠ "" → (x ∈ desired.volumes ↔ x ∈ s.volumes)
  /-- The floating address is the desired one. -/
  floatingIp : s.floatingIp = desired.floatingIp

/-- An update of a settled instance sees to the networks only. -/
theorem Settled.updateInstance_eq (h : Settled s desired) :
    updateInstance t s desired =
      convergeNetworks s desired >>= fun networks => pure (stateAfterUpdate s desired networks) := by
  have allowed : immutableViolations s.applied desired = [] := by
    rw [h.applied, immutableViolations_self]
  rw [updateInstance_of_allowed allowed, convergeExisting_eq,
    rename_eq_pure (congrArg (·.name) h.applied),
    convergeGroups_eq_pure (editScript_eq_nil h.groups),
    resizeFlavor_eq_pure (congrArg (·.flavorId) h.applied),
    convergeVolumes_eq_pure (editScript_eq_nil h.volumes),
    growRootDisk_eq_pure (congrArg (·.diskSize) h.applied),
    revertSnapshot_eq_pure (congrArg (·.revertToSnapshotId) h.applied)]
  simp only [pure_bind, convergeFloatingIp_eq_pure h.floatingIp]
  rfl

theorem Settled.stateAfterUpdate_eq (h : Settled s desired) :
    stateAfterUpdate s desired s.networks = s := by
  have status : statusAfterUpdate s desired = s.status := by
    simp [statusAfterUpdate, statusAfterFlavor, h.applied]
  rw [stateAfterUpdate, status, volumesAfterUpdate, groupsAfterUpdate, editScript_eq_nil h.volumes,
    editScript_eq_nil h.groups, ← h.floatingIp, ← h.applied]
  rfl

/-- **An update of a settled instance does nothing at all** if its attachments are what is requested
and no network is requested twice. -/
theorem Settled.updateInstance_of_converged (h : Settled s desired)
    (hs : Converged desired.networks s.networks)
    (nodup : (desired.networks.map (·.networkId)).Nodup) (t : Tuning) (p : Provider σ)
    (w : World σ) : Succeeds p w (updateInstance t s desired) s w [] := by
  rw [h.updateInstance_eq]
  refine (hs.convergeNetworks_of_nodup nodup p w).bind (succeeds_pure_iff.2 ⟨?_, rfl, rfl⟩)
  exact h.stateAfterUpdate_eq.symm

/-! ### Calls that change something -/

/-- **An attachment that does not satisfy the first request for its network is given up**, if there
is an attachment with a port for each network asked for: then no request before it fails. -/
theorem trace_meetRequests_of_unsatisfied {region : Region} {id : InstanceId}
    {listing : List Network} {kept : IdMap NetworkAttachment} {met : List NetworkAttachment}
    {rs : List NetworkRequest} {k : String} {r : NetworkRequest} {a : NetworkAttachment}
    (remembered : ∀ q ∈ rs, q.networkId ∉ met.map (·.networkId) →
      ∃ b, kept.find? q.networkId = some b ∧ b.isAttached = true)
    (hr : rs.find? (·.networkId = k) = some r) (hk : k ∉ met.map (·.networkId))
    (ha : kept.find? k = some a) (unsatisfied : r.satisfiedBy a = false) :
    ∃ e ∈ (meetRequests region id listing kept met rs).run.trace p w,
      e.call.isMutating = true := by
  induction rs generalizing kept met with
  | nil => exact absurd hr (by simp)
  | cons q rs ih =>
    have rest (b : NetworkRequest) (hb : b ∈ rs) : b ∈ q :: rs := List.mem_cons_of_mem _ hb
    rw [meetRequests]
    by_cases hmet : q.networkId ∈ met.map (·.networkId)
    · have hne : q.networkId ≠ k := fun hqk => hk (hqk ▸ hmet)
      rw [if_pos (any_networkId_iff.2 hmet)]
      rw [List.find?_cons_of_neg (by simpa using hne)] at hr
      exact ih (fun b hb => remembered b (rest b hb)) hr hk ha
    · rw [if_neg (mt any_networkId_iff.1 hmet)]
      obtain ⟨b, hb, hattached⟩ := remembered q (List.mem_cons_self ..) hmet
      cases hsat : q.satisfiedBy b with
      | true =>
        have stays : meetRequest region id listing kept q = pure b := by
          rw [meetRequest, hb]
          exact if_pos hsat
        have hid : b.networkId = q.networkId := NetworkRequest.networkId_of_satisfiedBy hsat
        have hne : q.networkId ≠ k := by
          rintro rfl
          rw [List.find?_cons_of_pos (by simp), Option.some.injEq] at hr
          rw [ha, Option.some.injEq] at hb
          rw [← hb, hr, unsatisfied] at hsat
          exact Bool.noConfusion hsat
        have mem_met (j : String) : j ∈ (met ++ [b]).map (·.networkId) ↔
            j ∈ met.map (·.networkId) ∨ j = q.networkId := by
          simp [hid]
        rw [stays, pure_bind]
        rw [List.find?_cons_of_neg (by simpa using hne)] at hr
        refine ih (fun b' hb' hnew => ?_) hr ?_ ?_
        · rw [mem_met, not_or] at hnew
          rw [IdMap.find?_erase, if_neg hnew.2]
          exact remembered b' (rest b' hb') hnew.1
        · rw [mem_met, not_or]
          exact ⟨hk, Ne.symm hne⟩
        · rw [IdMap.find?_erase, if_neg (Ne.symm hne)]
          exact ha
      | false =>
        have goes : meetRequest region id listing kept q = (do
            detachFrom region id b
            attachTo region id listing q) := by
          rw [meetRequest, hb]
          exact if_neg (by simp [hsat])
        rw [goes, trace_run_bind, trace_run_bind, detachFrom, if_pos hattached, trace_run_ask]
        exact ⟨_, List.mem_append_left _ (List.mem_append_left _ (List.mem_singleton_self _)), rfl⟩

/-- Where the tracked attachments have ports and are one to each network asked for, a reconciliation
changes nothing exactly when they satisfy the first requests. -/
theorem trace_convergeNetworks_quiet_iff {listing : List Network}
    (ids : s.networks.map (·.networkId) = (desired.networks.map (·.networkId)).eraseDups)
    (attached : ∀ a ∈ s.networks, a.isAttached = true)
    (lists : w.outcome p s.region .listNetworks = .ok listing) :
    (∀ e ∈ (convergeNetworks s desired).run.trace p w, e.call.isMutating = false) ↔
      ∀ a ∈ s.networks, ∀ r, desired.network? a.networkId = some r → r.satisfiedBy a = true := by
  have requested {a : NetworkAttachment} (ha : a ∈ s.networks) :
      ∃ r, desired.network? a.networkId = some r := by
    have hk : a.networkId ∈ desired.networks.map (·.networkId) :=
      List.mem_eraseDups.1 (ids ▸ List.mem_map_of_mem ha)
    obtain ⟨r, hr, hrk⟩ := List.mem_map.1 hk
    exact Option.isSome_iff_exists.1 (List.find?_isSome.2 ⟨r, hr, decide_eq_true hrk⟩)
  have nodup : (s.networks.map (·.networkId)).Nodup := ids ▸ nodup_eraseDups _
  constructor
  · intro quiet a ha r hr
    by_contra unsatisfied
    rw [Bool.not_eq_true] at unsatisfied
    obtain ⟨kept, hkept⟩ : ∃ kept, Succeeds p w
        (detachUnwanted s.region s.id desired ∅ s.networks) kept w [] :=
      succeeds_detachUnwanted_of_wanted
        (fun b hb => Option.isSome_iff_exists.2 (requested hb)) ∅
    have remembers {b : NetworkAttachment} (hb : b ∈ s.networks) :
        kept.find? b.networkId = some b := by
      rw [hkept.detachUnwanted_find?, if_pos (Option.isSome_iff_exists.2 (requested hb)),
        lastTo?_of_nodup nodup hb]
      rfl
    have remembered (q : NetworkRequest) (hq : q ∈ desired.networks) :
        ∃ b, kept.find? q.networkId = some b ∧ b.isAttached = true := by
      have hk : q.networkId ∈ s.networks.map (·.networkId) := by
        rw [ids, List.mem_eraseDups]
        exact List.mem_map_of_mem hq
      obtain ⟨b, hb, hbk⟩ := List.mem_map.1 hk
      exact ⟨b, hbk ▸ remembers hb, attached b hb⟩
    obtain ⟨listing, w₁, es, hlisting⟩ : ∃ l w₁ es, Succeeds p w
        (if desired.networks.all (·.metBy kept) then pure [] else listNetworks s.region) l w₁ es := by
      split_ifs
      · exact ⟨_, _, _, succeeds_pure_iff.2 ⟨rfl, rfl, rfl⟩⟩
      · exact ⟨_, _, _, succeeds_ask_iff.2 ⟨lists, rfl, rfl⟩⟩
    obtain ⟨e, he, changes⟩ : ∃ e ∈ (meetRequests s.region s.id listing kept []
        desired.networks).run.trace p w₁, e.call.isMutating = true :=
      trace_meetRequests_of_unsatisfied (fun q hq _ => remembered q hq) hr List.not_mem_nil
        (remembers ha) unsatisfied
    have made : e ∈ (convergeNetworks s desired).run.trace p w := by
      rw [convergeNetworks, hkept.trace_bind, List.nil_append]
      split_ifs at hlisting ⊢
      all_goals
        rw [hlisting.trace_bind]
        exact List.mem_append_right _ he
    simp [quiet e made] at changes
  · intro satisfied e he
    have converged : Converged desired.networks s.networks :=
      ⟨ids, fun a ha => by
        obtain ⟨r, hr⟩ := requested ha
        exact ⟨r, hr, satisfied a ha r hr⟩⟩
    obtain ⟨w', es, run, quiet, -⟩ := succeeds_convergeNetworks_of_converged converged lists
    exact quiet e (run.trace_eq ▸ he)

/-- **When an update of a settled instance changes nothing**: exactly when each of its attachments
satisfies the first request for its network, if they have ports and are one to each network asked
for. -/
theorem Settled.quiet_iff (h : Settled s desired) {listing : List Network}
    (ids : s.networks.map (·.networkId) = (desired.networks.map (·.networkId)).eraseDups)
    (attached : ∀ a ∈ s.networks, a.isAttached = true)
    (lists : w.outcome p s.region .listNetworks = .ok listing) :
    (∀ e ∈ (updateInstance t s desired).run.trace p w, e.call.isMutating = false) ↔
      ∀ a ∈ s.networks, ∀ r, desired.network? a.networkId = some r → r.satisfiedBy a = true := by
  rw [← trace_convergeNetworks_quiet_iff ids attached lists, h.updateInstance_eq, trace_bind_pure]

end Reconciler
