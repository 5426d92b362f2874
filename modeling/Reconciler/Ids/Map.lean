/-!
# Maps keyed by identifiers

A map is the list of its entries in strictly ascending order of their keys, so that walking through
a map has one order and equal maps are equal values.

## The model

`find?` is the view of a map: `find?_insert`, `find?_erase` say what the operations do to it, and
`ext` says that a map is determined by it.
-/

namespace Reconciler

variable {α β : Type}

/-- Inserts an entry into a list of entries with ascending keys; an entry with that key is
replaced. -/
def insertEntry (key : String) (value : α) : List (String × α) → List (String × α)
  | [] => [(key, value)]
  | e :: es =>
    if key < e.1 then (key, value) :: e :: es
    else if e.1 < key then e :: insertEntry key value es
    else (key, value) :: es

/-- The entries after an insertion are the new one and old ones. -/
theorem mem_insertEntry {e : String × α} {key : String} {value : α} {es : List (String × α)}
    (h : e ∈ insertEntry key value es) : e = (key, value) ∨ e ∈ es := by
  induction es with
  | nil => simpa [insertEntry] using h
  | cons d es ih =>
    simp only [insertEntry] at h
    split at h
    · simpa using h
    · split at h
      · rcases List.mem_cons.1 h with rfl | h
        · simp
        · rcases ih h with rfl | h
          · simp
          · simp [h]
      · rcases List.mem_cons.1 h with rfl | h
        · simp
        · simp [h]

/-- An insertion keeps the keys strictly ascending. -/
theorem pairwise_insertEntry {key : String} {value : α} {es : List (String × α)}
    (h : es.Pairwise (·.1 < ·.1)) : (insertEntry key value es).Pairwise (·.1 < ·.1) := by
  induction es with
  | nil => simp [insertEntry]
  | cons e es ih =>
    obtain ⟨he, hes⟩ := List.pairwise_cons.1 h
    simp only [insertEntry]
    split
    · rename_i hlt
      refine List.pairwise_cons.2 ⟨?_, h⟩
      intro d hd
      rcases List.mem_cons.1 hd with rfl | hd
      · exact hlt
      · exact String.lt_trans hlt (he d hd)
    · split
      · rename_i hlt
        refine List.pairwise_cons.2 ⟨?_, ih hes⟩
        intro d hd
        rcases mem_insertEntry hd with rfl | hd
        · exact hlt
        · exact he d hd
      · rename_i h₁ h₂
        have : key = e.1 := String.le_antisymm (String.not_lt.1 h₂) (String.not_lt.1 h₁)
        refine List.pairwise_cons.2 ⟨?_, hes⟩
        intro d hd
        exact this ▸ he d hd

/-- The value of a key in a list of entries. -/
def findEntry (key : String) : List (String × α) → Option α
  | [] => none
  | e :: es => if e.1 = key then some e.2 else findEntry key es

/-- In a list with ascending keys, an entry is found exactly under its key. -/
theorem findEntry_eq_some_iff {key : String} {value : α} {es : List (String × α)}
    (h : es.Pairwise (·.1 < ·.1)) : findEntry key es = some value ↔ (key, value) ∈ es := by
  induction es with
  | nil => simp [findEntry]
  | cons e es ih =>
    obtain ⟨he, hes⟩ := List.pairwise_cons.1 h
    obtain ⟨k, v⟩ := e
    simp only [findEntry, List.mem_cons, Prod.mk.injEq]
    split
    · rename_i hk
      subst hk
      constructor
      · intro e; exact .inl ⟨rfl, (Option.some.inj e).symm⟩
      · rintro (⟨_, rfl⟩ | hm)
        · rfl
        · exact absurd (he _ hm) (String.lt_irrefl _)
    · rename_i hk
      rw [ih hes]
      constructor
      · exact .inr
      · rintro (⟨e, _⟩ | hm)
        · exact absurd e.symm hk
        · exact hm

theorem findEntry_insertEntry {key k : String} {value : α} {es : List (String × α)}
    (h : es.Pairwise (·.1 < ·.1)) :
    findEntry k (insertEntry key value es) = if k = key then some value else findEntry k es := by
  induction es with
  | nil => simp [insertEntry, findEntry, eq_comm]
  | cons e es ih =>
    obtain ⟨he, hes⟩ := List.pairwise_cons.1 h
    simp only [insertEntry]
    split
    · simp [findEntry, eq_comm]
    · split
      · rename_i hlt
        simp only [findEntry]
        split
        · rename_i hk
          rw [if_neg]
          rintro rfl
          exact String.lt_irrefl _ (hk ▸ hlt)
        · exact ih hes
      · rename_i h₁ h₂
        have hk : key = e.1 := String.le_antisymm (String.not_lt.1 h₂) (String.not_lt.1 h₁)
        simp only [findEntry]
        by_cases hkk : k = key
        · simp [hkk]
        · simp [hkk, Ne.symm hkk, hk ▸ Ne.symm hkk]

/-- A map from identifiers to values. -/
structure IdMap (α : Type) where
  /-- The entries in ascending order of their keys. -/
  entries : List (String × α)
  /-- Each key stands before the greater ones, and none stands twice. -/
  ascending : entries.Pairwise (·.1 < ·.1)
  deriving DecidableEq

namespace IdMap

/-- The map without entries. -/
def empty : IdMap α := ⟨[], .nil⟩

instance : EmptyCollection (IdMap α) := ⟨empty⟩

instance : Inhabited (IdMap α) := ⟨∅⟩

/-- The value of a key. -/
def find? (m : IdMap α) (key : String) : Option α := findEntry key m.entries

@[simp] theorem find?_empty (key : String) : (∅ : IdMap α).find? key = none := rfl

/-- An entry is found exactly under its key. -/
theorem find?_eq_some_iff {m : IdMap α} {key : String} {value : α} :
    m.find? key = some value ↔ (key, value) ∈ m.entries :=
  findEntry_eq_some_iff m.ascending

/-- A map is determined by the values of its keys. -/
theorem ext {m n : IdMap α} (h : ∀ key, m.find? key = n.find? key) : m = n := by
  have mem : ∀ e, e ∈ m.entries ↔ e ∈ n.entries := by
    rintro ⟨k, v⟩
    rw [← find?_eq_some_iff, ← find?_eq_some_iff, h]
  obtain ⟨es, hes⟩ := m
  obtain ⟨ds, hds⟩ := n
  simp only [mk.injEq]
  simp only at mem
  clear h
  induction es generalizing ds with
  | nil =>
    cases ds with
    | nil => rfl
    | cons d ds => exact absurd ((mem d).2 (by simp)) (by simp)
  | cons e es ih =>
    cases ds with
    | nil => exact absurd ((mem e).1 (by simp)) (by simp)
    | cons d ds =>
      obtain ⟨he, hes'⟩ := List.pairwise_cons.1 hes
      obtain ⟨hd, hds'⟩ := List.pairwise_cons.1 hds
      have hed : e = d := by
        rcases List.mem_cons.1 ((mem e).1 (by simp)) with h | hm
        · exact h
        · rcases List.mem_cons.1 ((mem d).2 (by simp)) with h | hm'
          · exact h.symm
          · exact absurd (he d hm') (String.lt_asymm (hd e hm))
      subst hed
      congr 1
      refine ih hes' ds hds' fun a => ?_
      have ha := mem a
      simp only [List.mem_cons] at ha
      constructor
      · intro m
        rcases ha.1 (.inr m) with rfl | m'
        · exact absurd (he _ m) (String.lt_irrefl _)
        · exact m'
      · intro m
        rcases ha.2 (.inr m) with rfl | m'
        · exact absurd (hd _ m) (String.lt_irrefl _)
        · exact m'

/-- Whether the map has an entry for a key. -/
def contains (m : IdMap α) (key : String) : Bool := (m.find? key).isSome

/-- The map with a value for a key, which replaces the one it had. -/
def insert (m : IdMap α) (key : String) (value : α) : IdMap α :=
  ⟨insertEntry key value m.entries, pairwise_insertEntry m.ascending⟩

@[simp] theorem find?_insert {m : IdMap α} {key k : String} {value : α} :
    (m.insert key value).find? k = if k = key then some value else m.find? k :=
  findEntry_insertEntry m.ascending

/-- The entries for which `keep` holds. -/
def filter (m : IdMap α) (keep : String → α → Bool) : IdMap α :=
  ⟨m.entries.filter fun e => keep e.1 e.2, m.ascending.filter _⟩

/-- The map without an entry for a key. -/
def erase (m : IdMap α) (key : String) : IdMap α := m.filter fun k _ => k ≠ key

@[simp] theorem find?_erase {m : IdMap α} {key k : String} :
    (m.erase key).find? k = if k = key then none else m.find? k := by
  apply Option.ext
  intro v
  rw [find?_eq_some_iff]
  by_cases h : k = key
  · simp [erase, filter, h]
  · simp [erase, filter, h, find?_eq_some_iff]

/-- The keys in ascending order. -/
def keys (m : IdMap α) : List String := m.entries.map (·.1)

/-- The values in the order of their keys. -/
def values (m : IdMap α) : List α := m.entries.map (·.2)

/-- The number of entries. -/
def size (m : IdMap α) : Nat := m.entries.length

/-- The map of a list of entries; of several with one key the last counts. -/
def ofList (es : List (String × α)) : IdMap α := es.foldl (fun m e => m.insert e.1 e.2) ∅

/-- The values of some keys in the order of the keys, each at most once, and the map without
them. -/
def takeEach (m : IdMap α) : List String → List α × IdMap α
  | [] => ([], m)
  | key :: keys =>
    match m.find? key with
    | none => m.takeEach keys
    | some a =>
      let (taken, rest) := (m.erase key).takeEach keys
      (a :: taken, rest)

end IdMap

end Reconciler
