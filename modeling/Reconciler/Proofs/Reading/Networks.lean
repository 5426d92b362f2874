import Reconciler.Proofs.Reading
import Reconciler.Proofs.Update.Result

/-!
# The networks that a reading shows

A reading is to show the ports that the instance has and nothing else: each network on which the
instance is on record, with the data of the first record, and no network on which it is not,
whatever was tracked before. The networks that were tracked come first, in their order, and the
others after them in the order of their identifiers.

As long as the instance has an address anywhere, that is what a reading shows. Without any address
the report of the instance is silent about networks, and a reading then keeps every attachment that
was tracked, though none of the ports is there.

## What is proved

* `showsPorts_mergeAttachments`: merged attachments show the ports.
* `readInstance_shows_iff`: when a reading shows the ports.
-/

namespace Reconciler

/-! ### Showing the ports -/

/-- **The attachments `shown` are the ports** that the instance has in the cloud, in the order that
follows from what was `tracked` before. -/
structure ShowsPorts (c : Cloud) (id : InstanceId) (tracked shown : List NetworkAttachment) :
    Prop where
  /-- No network is shown twice. -/
  nodup : (shown.map (·.networkId)).Nodup
  /-- A network is shown with the first record of the instance on its first subnet. -/
  first : ∀ n ∈ c.networks, ∀ sub rest r, n.subnets = sub :: rest →
    (sub.recordsOf id).find? (·.subnetId = sub.id) = some r → .ofRecord n.id sub.id r ∈ shown
  /-- A network without a record of the instance is not shown. -/
  recorded : ∀ a ∈ shown, ∃ n ∈ c.networks, n.id = a.networkId ∧ n.recordsOf id ≠ []
  /-- The networks that were tracked come first, in their order, and then the others, in the order
  of their identifiers. -/
  order : ∃ others : List String, shown.map (·.networkId) =
      ((tracked.map (·.networkId)).filter (· ∈ shown.map (·.networkId))).eraseDups ++ others ∧
    others.Pairwise (· < ·) ∧ ∀ k ∈ others, k ∉ tracked.map (·.networkId)

section

variable {c : Cloud} {id : InstanceId} {tracked : List NetworkAttachment}

/-- **Merged attachments show the ports**, whatever was tracked before. -/
theorem showsPorts_mergeAttachments (ids : (c.networks.map (·.id)).Nodup)
    (names : (c.networks.map (·.name)).Nodup) :
    ShowsPorts c id tracked (mergeAttachments tracked
      (resolveByAddress c.networks (Cloud.addressesOf c.networks id) id)) := by
  let found := resolveByAddress c.networks (Cloud.addressesOf c.networks id) id
  have filed : Filed found := filed_attachmentsOn _ _
  refine ⟨nodup_mergeAttachments filed tracked, ?_, ?_, ?_⟩
  · intro n hn sub rest r hsubnets hr
    have recorded : n.recordsOf id ≠ [] :=
      Network.recordsOf_ne_nil (hsubnets ▸ List.mem_cons_self ..) (List.mem_of_find?_eq_some hr)
    have attached : n.attachmentOf id = some (.ofRecord n.id sub.id r) := by
      have hrecord : sub.recordOf id = some r := hr
      rw [Network.attachmentOf, hsubnets, List.head?_cons, Option.map_some, hrecord]
    refine (mem_mergeAttachments_iff filed).2 ((find?_resolveByAddress_addressesOf ids names).2 ?_)
    exact ⟨n, hn, recorded, rfl, attached⟩
  · intro a ha
    obtain ⟨n, hn, recorded, hk, -⟩ :=
      (find?_resolveByAddress_addressesOf ids names).1 ((mem_mergeAttachments_iff filed).1 ha)
    exact ⟨n, hn, hk, recorded⟩
  · obtain ⟨ascending, others⟩ := map_networkId_left filed (tracked.map (·.networkId))
    refine ⟨_, ?_, ascending, others⟩
    have kept : (tracked.map (·.networkId)).filter
        (· ∈ (mergeAttachments tracked found).map (·.networkId)) =
          (tracked.map (·.networkId)).filter found.contains := by
      refine List.filter_congr fun k _ => ?_
      rw [Bool.eq_iff_iff, decide_eq_true_eq, mem_map_networkId_mergeAttachments_iff filed]
    rw [kept, ← map_networkId_takeEach filed, mergeAttachments, List.map_append]

/-- Attachments show no ports of an instance without an address, unless there are none of them. -/
theorem showsPorts_iff_of_not_addressed (h : ¬ c.Addressed id) :
    ShowsPorts c id tracked tracked ↔ tracked = [] := by
  constructor
  · intro shows
    refine List.eq_nil_iff_forall_not_mem.2 fun a ha => ?_
    obtain ⟨n, hn, -, recorded⟩ := shows.recorded a ha
    exact h ⟨n, hn, recorded⟩
  · rintro rfl
    refine ⟨List.nodup_nil, ?_, by simp, [], by simp⟩
    intro n hn sub rest r hsubnets hr
    have recorded : n.recordsOf id ≠ [] :=
      Network.recordsOf_ne_nil (hsubnets ▸ List.mem_cons_self ..) (List.mem_of_find?_eq_some hr)
    exact absurd ⟨n, hn, recorded⟩ h

end

/-! ### What a reading shows -/

/-- **When a reading shows the ports**: a reading of an instance that is there succeeds, and what it
shows are the ports exactly when nothing was tracked or the instance has an address left somewhere.
No two networks may have one identifier or one name. -/
theorem readInstance_shows_iff {w : World Cloud} {s : InstanceState} {srv : CloudServer}
    (hw : w.store.Unfailing) (hs : w.store.server? s.id = some srv)
    (ids : (w.store.networks.map (·.id)).Nodup) (names : (w.store.networks.map (·.name)).Nodup) :
    ∃ s' w' es, Succeeds Cloud.provider w (readInstance s) (some s') w' es ∧
      (ShowsPorts w.store s.id s.networks s'.networks ↔
        s.networks = [] ∨ w.store.Addressed s.id) := by
  have reading : Cloud.host.Leads w.store.core (readInstance s) _ fun _ => False :=
    leads_readInstance_advance id hs
  obtain ⟨found, w', es, read, -, hfound, -⟩ := reading.succeeds hw rfl
  subst hfound
  refine ⟨_, w', es, read, ?_⟩
  by_cases addressed : w.store.Addressed s.id
  · rw [refreshed_networks_of_addressed (c := w.store.core) addressed]
    exact iff_of_true (showsPorts_mergeAttachments ids names) (.inr addressed)
  · rw [refreshed_networks_of_not_addressed (c := w.store.core) _ addressed,
      showsPorts_iff_of_not_addressed addressed, or_iff_left addressed]

/-- The cloud of the sample after its server has lost its only port. -/
def detachedSampleCloud : Cloud :=
  { sampleCloud with
    networks :=
      [{ id := "net-a", name := "lan-a", subnets := [{ id := "sub-a", networkId := "net-a" }] }] }

/-- The lost port is still shown. -/
theorem readInstance_shows_iff_sample :
    ∃ s' w' es, detachedSampleCloud.Unfailing ∧
      Succeeds Cloud.provider ⟨detachedSampleCloud, 0⟩ (readInstance sampleState) (some s') w' es ∧
      (ShowsPorts detachedSampleCloud "vm" sampleState.networks s'.networks ↔
        sampleState.networks = [] ∨ detachedSampleCloud.Addressed "vm") ∧
      ¬ ShowsPorts detachedSampleCloud "vm" sampleState.networks s'.networks := by
  have unfailing : detachedSampleCloud.Unfailing := fun _ => rfl
  obtain ⟨s', w', es, read, shows⟩ :=
    readInstance_shows_iff (w := ⟨detachedSampleCloud, 0⟩) (s := sampleState) unfailing rfl
      (by decide) (by decide)
  refine ⟨s', w', es, unfailing, read, shows, fun h => ?_⟩
  rcases shows.1 h with untracked | ⟨n, hn, recorded⟩
  · exact absurd untracked (by decide)
  · obtain rfl := List.mem_singleton.1 hn
    exact recorded rfl

end Reconciler
