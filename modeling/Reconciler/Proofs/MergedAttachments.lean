import Reconciler.Lifecycle.Refresh
import Reconciler.Proofs.Maps

/-!
# Merged attachments

A reading and a creation both put the attachments that were found into an order: first those to some
given networks, in their order, and then the others in the order of their identifiers. None is lost,
and none is doubled.

## What is proved

* `mem_mergeAttachments_iff`, `find?_mergeAttachments`: what is among merged attachments.
* `map_networkId_takeEach`, `map_networkId_left`: their order.
* `mergeAttachments_eq_self`: attachments that are merged with what they are stay as they are.
* `mergeAttachments_lossless`: merging loses nothing, doubles nothing and is done once.
-/

namespace Reconciler

/-- The attachments of a map are filed under their networks. -/
def Filed (found : IdMap NetworkAttachment) : Prop :=
  ∀ k a, found.find? k = some a → a.networkId = k

theorem Filed.erase {found : IdMap NetworkAttachment} (h : Filed found) (k : String) :
    Filed (found.erase k) := by
  intro k' a ha
  rw [IdMap.find?_erase] at ha
  split_ifs at ha
  exact h k' a ha

/-- Attachments that are put into a map by their networks are filed under them. -/
theorem filed_ofList (as : List NetworkAttachment) :
    Filed (.ofList (as.map fun a => (a.networkId, a))) := by
  intro k a ha
  rw [IdMap.find?_ofList, Option.map_eq_some_iff] at ha
  obtain ⟨e, he, rfl⟩ := ha
  obtain ⟨b, hb, rfl⟩ := List.mem_map.1 (List.mem_reverse.1 (List.mem_of_find?_eq_some he))
  have hk := List.find?_some he
  exact of_decide_eq_true hk

theorem Filed.map_networkId_values {found : IdMap NetworkAttachment} (h : Filed found) :
    found.values.map (·.networkId) = found.keys := by
  rw [IdMap.values, List.map_map]
  refine List.map_congr_left fun e he => ?_
  exact h e.1 e.2 (IdMap.find?_eq_some_iff.2 he)

theorem Filed.mem_values_iff {found : IdMap NetworkAttachment} (h : Filed found)
    {a : NetworkAttachment} : a ∈ found.values ↔ found.find? a.networkId = some a := by
  rw [IdMap.values, List.mem_map]
  constructor
  · rintro ⟨⟨k, a⟩, he, rfl⟩
    have hk := IdMap.find?_eq_some_iff.2 he
    rwa [h k a hk]
  · intro ha
    exact ⟨_, IdMap.find?_eq_some_iff.1 ha, rfl⟩

theorem Filed.nodup_values {found : IdMap NetworkAttachment} (h : Filed found) :
    (found.values.map (·.networkId)).Nodup := by
  rw [h.map_networkId_values]
  exact found.nodup_keys

/-- Taking attachments out of a map in some order loses none and doubles none. -/
theorem takeEach_spec {found : IdMap NetworkAttachment} (h : Filed found) (ks : List String) :
    let as := (found.takeEach ks).1 ++ (found.takeEach ks).2.values
    (as.map (·.networkId)).Nodup ∧ ∀ a, a ∈ as ↔ found.find? a.networkId = some a := by
  induction ks generalizing found with
  | nil => exact ⟨h.nodup_values, fun a => h.mem_values_iff⟩
  | cons k ks ih =>
    rw [IdMap.takeEach]
    cases hk : found.find? k with
    | none => exact ih h
    | some a =>
      obtain ⟨nodup, mem⟩ := ih (h.erase k)
      have hak := h k a hk
      have ne {b : NetworkAttachment} (hb : (found.erase k).find? b.networkId = some b) :
          b.networkId ≠ k := by
        rintro rfl
        rw [IdMap.find?_erase, if_pos rfl] at hb
        exact absurd hb (by simp)
      refine ⟨List.nodup_cons.2 ⟨fun hmem => ?_, nodup⟩, fun b => ?_⟩
      · obtain ⟨b, hb, hba⟩ := List.mem_map.1 hmem
        exact ne ((mem b).1 hb) (hba.trans hak)
      · show b ∈ a :: _ ↔ _
        rw [List.mem_cons]
        constructor
        · rintro (rfl | hb)
          · rwa [hak]
          · have hfind := (mem b).1 hb
            have hne := ne hfind
            rwa [IdMap.find?_erase, if_neg hne] at hfind
        · intro hb
          by_cases hbk : b.networkId = k
          · rw [hbk, hk, Option.some.injEq] at hb
            exact .inl hb.symm
          · refine .inr ((mem b).2 ?_)
            rwa [IdMap.find?_erase, if_neg hbk]

/-- What is taken out of a map of attachments is what was found. -/
theorem find?_of_mem_takeEach {found : IdMap NetworkAttachment} (h : Filed found) {ks : List String}
    {a : NetworkAttachment} (ha : a ∈ (found.takeEach ks).1) :
    found.find? a.networkId = some a :=
  ((takeEach_spec h ks).2 a).1 (List.mem_append_left _ ha)

theorem nodup_mergeAttachments {found : IdMap NetworkAttachment} (h : Filed found)
    (previous : List NetworkAttachment) :
    ((mergeAttachments previous found).map (·.networkId)).Nodup :=
  (takeEach_spec h _).1

theorem mem_mergeAttachments_iff {found : IdMap NetworkAttachment} (h : Filed found)
    {previous : List NetworkAttachment} {a : NetworkAttachment} :
    a ∈ mergeAttachments previous found ↔ found.find? a.networkId = some a :=
  (takeEach_spec h _).2 a

theorem mem_map_networkId_mergeAttachments_iff {found : IdMap NetworkAttachment} (h : Filed found)
    {previous : List NetworkAttachment} {k : String} :
    k ∈ (mergeAttachments previous found).map (·.networkId) ↔ found.contains k = true := by
  rw [IdMap.contains, Option.isSome_iff_exists, List.mem_map]
  constructor
  · rintro ⟨a, ha, rfl⟩
    exact ⟨a, (mem_mergeAttachments_iff h).1 ha⟩
  · rintro ⟨a, ha⟩
    obtain rfl := h k a ha
    exact ⟨a, (mem_mergeAttachments_iff h).2 ha, rfl⟩

/-- **Among merged attachments** one finds what was found, whatever was tracked before. -/
theorem find?_mergeAttachments {found : IdMap NetworkAttachment} (h : Filed found)
    (previous : List NetworkAttachment) (k : String) :
    (mergeAttachments previous found).find? (·.networkId = k) = found.find? k := by
  refine Option.ext fun a => ⟨fun ha => ?_, fun ha => ?_⟩
  · rw [← key_of_find? ha]
    exact (mem_mergeAttachments_iff h).1 (List.mem_of_find?_eq_some ha)
  · have hk := h k a ha
    subst hk
    exact find?_of_nodup (nodup_mergeAttachments h previous) ((mem_mergeAttachments_iff h).2 ha)

/-! ### The order -/

/-- What is taken out of a map of attachments is to the networks asked for that have one, each at
its first mention. -/
theorem map_networkId_takeEach {found : IdMap NetworkAttachment} (h : Filed found)
    (ks : List String) :
    (found.takeEach ks).1.map (·.networkId) = (ks.filter found.contains).eraseDups := by
  induction ks generalizing found with
  | nil => simp [IdMap.takeEach]
  | cons k ks ih =>
    rw [IdMap.takeEach]
    cases hk : found.find? k with
    | none =>
      have absent : ¬ found.contains k = true := by simp [IdMap.contains, hk]
      rw [List.filter_cons_of_neg absent]
      exact ih h
    | some a =>
      have present : found.contains k = true := by simp [IdMap.contains, hk]
      have others : ks.filter (found.erase k).contains =
          (ks.filter found.contains).filter fun b => !(b == k) := by
        rw [List.filter_filter]
        refine List.filter_congr fun b _ => ?_
        by_cases hb : b = k <;> simp [IdMap.contains, hb]
      rw [List.filter_cons_of_pos present, List.eraseDups_cons, ← others, ← ih (h.erase k)]
      simp only [List.map_cons, h k a hk]

theorem find?_takeEach_left {α : Type} (m : IdMap α) (ks : List String) (k : String) :
    (m.takeEach ks).2.find? k = if k ∈ ks then none else m.find? k := by
  induction ks generalizing m with
  | nil => simp [IdMap.takeEach]
  | cons j ks ih =>
    rw [IdMap.takeEach]
    cases hj : m.find? j with
    | none =>
      simp only [ih, List.mem_cons]
      by_cases hk : k = j
      · simp [hk, hj]
      · simp [hk]
    | some a =>
      simp only [ih, List.mem_cons, IdMap.find?_erase]
      by_cases hk : k = j <;> simp [hk]

/-- What is left in a map of attachments is in the order of the networks, and to none of those that
were taken out. -/
theorem map_networkId_left {found : IdMap NetworkAttachment} (h : Filed found) (ks : List String) :
    ((found.takeEach ks).2.values.map (·.networkId)).Pairwise (· < ·) ∧
      ∀ k ∈ (found.takeEach ks).2.values.map (·.networkId), k ∉ ks := by
  let left := (found.takeEach ks).2
  have among {k : String} {a : NetworkAttachment} (ha : left.find? k = some a) :
      k ∉ ks ∧ found.find? k = some a := by
    rw [find?_takeEach_left] at ha
    split_ifs at ha with hk
    exact ⟨hk, ha⟩
  have filed : Filed left := fun k a ha => h k a (among ha).2
  rw [filed.map_networkId_values]
  refine ⟨List.pairwise_map.2 left.ascending, fun k hk => ?_⟩
  obtain ⟨e, he, rfl⟩ := List.mem_map.1 hk
  exact (among (IdMap.find?_eq_some_iff.2 he)).1

theorem find?_takeEach {found : IdMap NetworkAttachment} (h : Filed found) (ks : List String)
    (k : String) : (found.takeEach ks).1.find? (·.networkId = k) =
      if k ∈ ks then found.find? k else none := by
  induction ks generalizing found with
  | nil => simp [IdMap.takeEach]
  | cons j ks ih =>
    rw [IdMap.takeEach]
    cases hj : found.find? j with
    | none =>
      simp only [ih h, List.mem_cons]
      by_cases hk : k = j
      · simp [hk, hj]
      · simp [hk]
    | some a =>
      have haj := h j a hj
      by_cases hk : k = j
      · simp [hk, haj, hj]
      · have hne : ¬ a.networkId = k := fun hak => hk (hak.symm.trans haj)
        simp only [List.find?_cons, hne, decide_false, ih (h.erase j), List.mem_cons, hk, false_or,
          IdMap.find?_erase, if_false]

/-! ### Attachments that are merged again -/

/-- **Attachments that are what was found** are not changed when they are merged with it. -/
theorem mergeAttachments_eq_self {found : IdMap NetworkAttachment} (h : Filed found)
    {as : List NetworkAttachment} (nodup : (as.map (·.networkId)).Nodup)
    (same : ∀ k, found.find? k = as.find? (·.networkId = k)) : mergeAttachments as found = as := by
  let ks := as.map (·.networkId)
  have none_left (k : String) : (found.takeEach ks).2.find? k = none := by
    rw [find?_takeEach_left]
    split_ifs with hk
    · rfl
    · rw [same, List.find?_eq_none]
      intro a ha hak
      exact hk (of_decide_eq_true hak ▸ List.mem_map_of_mem ha)
  have left : (found.takeEach ks).2.values = [] := by
    rw [IdMap.values, List.map_eq_nil_iff, ← List.isEmpty_iff, IdMap.isEmpty_entries_iff]
    exact none_left
  have ids : (mergeAttachments as found).map (·.networkId) = ks := by
    have all : ks.filter found.contains = ks := by
      refine List.filter_eq_self.2 fun k hk => ?_
      obtain ⟨a, ha, rfl⟩ := List.mem_map.1 hk
      rw [IdMap.contains, same, find?_of_nodup nodup ha]
      rfl
    show ((found.takeEach ks).1 ++ (found.takeEach ks).2.values).map (·.networkId) = ks
    rw [left, List.append_nil, map_networkId_takeEach h, all, eraseDups_eq_self nodup]
  refine eq_of_map_key ids found.find? (fun a ha => ?_) fun a ha => ?_
  · exact (mem_mergeAttachments_iff h).1 ha
  · rw [same, find?_of_nodup nodup ha]

theorem mergeAttachments_again {found : IdMap NetworkAttachment} (h : Filed found)
    (as : List NetworkAttachment) :
    mergeAttachments (mergeAttachments as found) found = mergeAttachments as found :=
  mergeAttachments_eq_self h (nodup_mergeAttachments h as) fun k =>
    (find?_mergeAttachments h as k).symm

/-! ### What merging makes -/

/-- **The attachments `merged` are those that were found**, in the order that follows from what was
tracked before. -/
structure Merged (previous : List NetworkAttachment) (found : IdMap NetworkAttachment)
    (merged : List NetworkAttachment) : Prop where
  /-- Each attachment that was found is there once, and no other is. -/
  perm : merged.Perm found.values
  /-- No network is there twice. -/
  nodup : (merged.map (·.networkId)).Nodup
  /-- A network is there with what was found for it. What was tracked for it is there only when it
  is the same. -/
  current : ∀ a, a ∈ merged ↔ found.find? a.networkId = some a
  /-- The networks that were tracked come first, in the order in which they were first mentioned,
  and then the others, in the order of their identifiers. -/
  order : ∃ kept others, merged = kept ++ others ∧
    kept.map (·.networkId) =
      ((previous.map (·.networkId)).filter found.contains).eraseDups ∧
    (others.map (·.networkId)).Pairwise (· < ·) ∧
    ∀ k ∈ others.map (·.networkId), k ∉ previous.map (·.networkId)

/-- **Merging loses nothing and doubles nothing**, whatever was tracked before, and merging once
more with the same changes nothing. -/
theorem mergeAttachments_lossless {found : IdMap NetworkAttachment} (h : Filed found)
    (previous : List NetworkAttachment) :
    Merged previous found (mergeAttachments previous found) ∧
      mergeAttachments (mergeAttachments previous found) found =
        mergeAttachments previous found := by
  have nodup := nodup_mergeAttachments h previous
  refine ⟨⟨?_, nodup, fun _ => mem_mergeAttachments_iff h, ?_⟩, mergeAttachments_again h previous⟩
  · refine (List.perm_ext_iff_of_nodup nodup.of_map h.nodup_values.of_map).2 fun a => ?_
    exact (mem_mergeAttachments_iff h).trans h.mem_values_iff.symm
  · exact ⟨_, _, rfl, map_networkId_takeEach h _, map_networkId_left h _⟩

/-- A network that was tracked twice, with a port that is gone, one that has vanished, and one that
was tracked as it is; two more are found. -/
theorem mergeAttachments_lossless_drifted :
    let on (networkId portId : String) : NetworkAttachment :=
      { NetworkAttachment.unattached networkId with portId }
    let previous := [on "net-z" "p0", on "net-v" "p1", on "net-a" "p2", on "net-z" "p3"]
    let found : IdMap NetworkAttachment := .ofList
      ([on "net-z" "p9", on "net-m" "p4", on "net-a" "p2", on "net-b" "p5"].map
        fun a => (a.networkId, a))
    Filed found ∧ Merged previous found (mergeAttachments previous found) ∧
      mergeAttachments (mergeAttachments previous found) found = mergeAttachments previous found ∧
      mergeAttachments previous found =
        [on "net-z" "p9", on "net-a" "p2", on "net-b" "p5", on "net-m" "p4"] := by
  intro on previous found
  have filed : Filed found := filed_ofList _
  obtain ⟨merged, again⟩ := mergeAttachments_lossless filed previous
  exact ⟨filed, merged, again, by decide⟩

end Reconciler
