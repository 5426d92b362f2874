import Reconciler.Proofs.Reading.Again
import Reconciler.Proofs.Update.Settled

/-!
# Applying what was read

A reading counts what it finds as what was asked for. So an instance that was just read is settled,
and each of its attachments satisfies the request that was made of it, if it has a port. An update
to what was read then has nothing to do, whatever it would be answered.

## What is proved

* `converged_map_toRequest`: attachments with ports are what the requests made of them ask for.
* `settled_withFindings`: an instance that was just read is settled.
* `updateInstance_of_readInstance`: an update to what was read makes no call and keeps the state.
-/

namespace Reconciler

/-! ### What was read counts as asked for -/

theorem NetworkAttachment.satisfiedBy_toRequest {a : NetworkAttachment} (h : a.isAttached = true)
    (previous : List NetworkRequest) : (a.toRequest previous).satisfiedBy a = true := by
  rw [toRequest, NetworkRequest.satisfiedBy, h]
  split_ifs <;> simp

/-- **Attachments with ports** to one network each are what the requests made of them ask for. -/
theorem converged_map_toRequest {as : List NetworkAttachment}
    (nodup : (as.map (·.networkId)).Nodup) (ports : ∀ a ∈ as, a.isAttached = true)
    (previous : List NetworkRequest) : Converged (as.map (·.toRequest previous)) as := by
  have ids : (as.map (·.toRequest previous)).map (·.networkId) = as.map (·.networkId) := by
    rw [List.map_map]
    rfl
  refine ⟨by rw [ids, eraseDups_eq_self nodup], fun a ha => ⟨a.toRequest previous, ?_, ?_⟩⟩
  · exact find?_of_nodup (by rwa [ids]) (List.mem_map_of_mem ha)
  · exact a.satisfiedBy_toRequest (ports a ha) previous

/-- **An instance that was just read is settled** but perhaps for its networks. -/
theorem settled_withFindings (s : InstanceState) (f : Findings) :
    Settled (s.withFindings f) (s.withFindings f).applied := by
  obtain ⟨detail, networks, volumes, binding⟩ := f
  have groups (book : Option AddressBook) :
      ((s.withDetail detail).withNetworks networks book).applied.securityGroups =
        ((s.withDetail detail).withNetworks networks book).securityGroups := by
    cases book <;> rfl
  exact
    { applied := rfl
      groups := fun x _ => iff_of_eq (congrArg (x ∈ ·) (groups detail.addresses))
      volumes := fun x _ => Iff.rfl
      floatingIp := rfl }

/-! ### The report that was read -/

section

variable {σ τ : Type} {p : Provider σ} {w w' : World σ} {s s' : InstanceState}
  {es : List Exchange} {region : Region} {id : InstanceId} {f : Findings} {detail : ServerDetail}

theorem Succeeds.findAttachments_detail
    (h : Succeeds p w (findAttachments region id detail) f w' es) : f.detail = detail := by
  obtain ⟨networks, _, _, _, -, rest, -⟩ := succeeds_bind_iff.1 h
  obtain ⟨volumes, _, _, _, -, rest, -⟩ := succeeds_bind_iff.1 rest
  obtain ⟨binding, _, _, _, -, rest, -⟩ := succeeds_bind_iff.1 rest
  obtain ⟨rfl, -, -⟩ := succeeds_pure_iff.1 rest
  rfl

theorem run_findInstance : (findInstance region id).run =
    (Program.request region (.getServer id)).bind fun
      | .ok (detail : ServerDetail) =>
        (findAttachments region id detail >>= fun f => pure (some f)).run
      | .error e =>
        if e.isNotFound then pure (.ok none) else pure (.error (.remote "get instance" e)) := by
  refine congrArg (Program.call region (.getServer id)) (funext fun o => ?_)
  cases o with
  | ok detail => exact (run_bind_pure _ _).symm
  | error e => rfl

/-- A look-up that finds the instance begins with the report of it. -/
theorem Succeeds.findInstance_eq (h : Succeeds p w (findInstance region id) (some f) w' es) :
    ∃ es', Succeeds p (w.afterCall p region (.getServer id)) (findAttachments region id f.detail) f
        w' es' ∧
      es = ⟨w.now, region, .getServer id, .ok f.detail⟩ :: es' := by
  obtain ⟨value, calls⟩ := h
  rw [run_findInstance, exec_request_bind] at value
  rw [run_findInstance, trace_request_bind] at calls
  cases report : w.outcome p region (.getServer id) with
  | error e =>
    rw [report] at value
    change (if e.isNotFound then _ else _ : Program _).exec p _ = _ at value
    split_ifs at value
    · have absent : Succeeds p _ (pure none) (some f) w' _ := ⟨value, rfl⟩
      exact absurd (succeeds_pure_iff.1 absent).1 (by simp)
    · have failed : Succeeds p _ (throw (.remote "get instance" e)) (some f) w' _ := ⟨value, rfl⟩
      exact absurd failed not_succeeds_throw
  | ok detail =>
    rw [report] at value calls
    have rest : Succeeds p (w.afterCall p region (.getServer id))
        (findAttachments region id detail >>= fun f => pure (some f)) (some f) w' _ := ⟨value, rfl⟩
    obtain ⟨g, w₁, es₁, es₂, found, given, same⟩ := succeeds_bind_iff.1 rest
    obtain ⟨hg, rfl, rfl⟩ := succeeds_pure_iff.1 given
    obtain rfl := Option.some.inj hg
    obtain rfl := found.findAttachments_detail
    rw [List.append_nil] at same
    rw [← calls, same]
    exact ⟨es₁, found, rfl⟩

/-- **The report that a look-up finds** is the one that it was answered. -/
theorem Succeeds.findInstance_detail (h : Succeeds p w (findInstance region id) (some f) w' es)
    {start : Instant} (told : ⟨start, region, .getServer id, .ok detail⟩ ∈ es) :
    f.detail = detail := by
  obtain ⟨es', rest, rfl⟩ := h.findInstance_eq
  rcases List.mem_cons.1 told with first | later
  · cases first
    rfl
  · have others : GoesStraight (· ≠ .getServer id) (findAttachments region id f.detail) :=
      straight_findAttachments (by simp) (by simp) (by simp)
    rw [← rest.trace_eq] at later
    exact absurd rfl (others.makes.call_mem later)

/-! ### The update to what was read -/

/-- **Applying what was just read changes nothing**: it makes no call and keeps the state, if the
report of the instance told of its addresses and each of the attachments has a port. -/
theorem updateInstance_of_readInstance
    (read : Succeeds p w (readInstance s) (some s') w' es)
    (told : ∃ start detail, ⟨start, s.region, .getServer s.id, .ok detail⟩ ∈ es ∧
      (detail : ServerDetail).addresses.isSome)
    (ports : ∀ a ∈ s'.networks, a.isAttached = true) (t : Tuning) (q : Provider τ) (v : World τ) :
    Succeeds q v (updateInstance t s' s'.applied) s' v [] := by
  obtain ⟨f, look, rfl⟩ := succeeds_readInstance_iff.1 read
  obtain ⟨start, detail, asked, listed⟩ := told
  obtain ⟨book, hbook⟩ := Option.isSome_iff_exists.1 (look.findInstance_detail asked ▸ listed)
  obtain ⟨networks, requests⟩ := withFindings_of_told (s := s) hbook
  have nodup : ((s.withFindings f).networks.map (·.networkId)).Nodup := by
    rw [networks]
    exact nodup_mergeAttachments (filed_attachmentsOn _ _) _
  have converged : Converged (s.withFindings f).applied.networks (s.withFindings f).networks := by
    rw [requests]
    exact converged_map_toRequest nodup ports _
  refine (settled_withFindings s f).updateInstance_of_converged converged ?_ t q v
  rw [requests, List.map_map]
  exact nodup

end

/-- The sample that was read, applied to a provider that would change things. -/
theorem updateInstance_of_readInstance_sample :
    (∀ a ∈ readSampleState.networks, a.isAttached = true) ∧
      Succeeds Cloud.provider ⟨sampleCloud, 9⟩
        (updateInstance {} readSampleState readSampleState.applied) readSampleState
        ⟨sampleCloud, 9⟩ [] := by
  have read := succeeds_of_exec exec_readSample
  have ports : ∀ a ∈ readSampleState.networks, a.isAttached = true := by decide
  exact ⟨ports, updateInstance_of_readInstance read ⟨0, _, List.mem_cons_self, rfl⟩ ports {}
    Cloud.provider ⟨sampleCloud, 9⟩⟩

end Reconciler
