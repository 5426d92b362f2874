import Reconciler.Ids.Map
import Reconciler.Ids.Set
import Reconciler.Proofs.Lists

/-!
# Maps and sets of identifiers

What is found in the map of a list of entries, and when a map is empty. Neither a map nor a set holds
an identifier twice.

## What is proved

* `IdMap.find?_ofList`, `IdMap.find?_ofList_eq_some_iff`: what is found under a key.
* `IdMap.isEmpty_entries_iff`: a map without entries has nothing under any key.
-/

namespace Reconciler

namespace IdMap

variable {α : Type} {k : String} {v : α}

theorem find?_foldl_insert (es : List (String × α)) (m : IdMap α) (k : String) :
    (es.foldl (fun m e => m.insert e.1 e.2) m).find? k =
      ((es.reverse.find? (·.1 = k)).map (·.2)).or (m.find? k) := by
  induction es generalizing m with
  | nil => rfl
  | cons e es ih =>
    rw [List.foldl_cons, ih, find?_insert, List.reverse_cons, List.find?_append,
      List.find?_singleton]
    by_cases hk : k = e.1
    · subst hk
      cases es.reverse.find? (·.1 = e.1) <;> simp
    · cases es.reverse.find? (·.1 = k) <;> simp [hk, Ne.symm hk]

/-- Of several entries with one key the last is found. -/
theorem find?_ofList (es : List (String × α)) (k : String) :
    (ofList es).find? k = (es.reverse.find? (·.1 = k)).map (·.2) := by
  rw [ofList, find?_foldl_insert, find?_empty, Option.or_none]

/-- An entry of a list that gives each key one value is found exactly under its key. -/
theorem find?_ofList_eq_some_iff {es : List (String × α)}
    (agree : ∀ e ∈ es, ∀ e' ∈ es, e.1 = e'.1 → e.2 = e'.2) :
    (ofList es).find? k = some v ↔ (k, v) ∈ es := by
  rw [find?_ofList, Option.map_eq_some_iff]
  constructor
  · rintro ⟨⟨k', v'⟩, hfind, rfl⟩
    have hk : k' = k := key_of_find? hfind
    exact hk ▸ List.mem_reverse.1 (List.mem_of_find?_eq_some hfind)
  · intro hmem
    obtain ⟨e, hfind⟩ : ∃ e, es.reverse.find? (·.1 = k) = some e := by
      rw [← Option.isSome_iff_exists, List.find?_isSome]
      exact ⟨(k, v), List.mem_reverse.2 hmem, decide_eq_true rfl⟩
    have he := List.mem_reverse.1 (List.mem_of_find?_eq_some hfind)
    exact ⟨e, hfind, agree e he (k, v) hmem (key_of_find? hfind)⟩

theorem contains_ofList {es : List (String × α)} :
    (ofList es).contains k = true ↔ k ∈ es.map (·.1) := by
  rw [contains, find?_ofList, Option.isSome_map, List.find?_isSome, List.mem_map]
  simp only [List.mem_reverse, decide_eq_true_eq]

/-- No key stands twice. -/
theorem nodup_keys (m : IdMap α) : (m.entries.map (·.1)).Nodup := by
  refine List.Pairwise.imp (fun {a b} hlt => ?_) (List.pairwise_map.2 m.ascending)
  rintro rfl
  exact String.lt_irrefl _ hlt

/-- A map has no entries exactly when it has none for any key. -/
theorem isEmpty_entries_iff {m : IdMap α} : m.entries.isEmpty = true ↔ ∀ k, m.find? k = none := by
  rw [List.isEmpty_iff]
  constructor
  · intro h k
    rw [find?, h]
    rfl
  · intro h
    refine List.eq_nil_iff_forall_not_mem.2 fun e he => ?_
    have hfind := find?_eq_some_iff.2 he
    rw [h e.1] at hfind
    exact absurd hfind (by simp)

end IdMap

/-- A set has each of its members once. -/
theorem IdSet.nodup_members (s : IdSet) : s.members.Nodup := by
  refine s.ascending.imp fun {a b} hlt => ?_
  rintro rfl
  exact String.lt_irrefl _ hlt

end Reconciler
