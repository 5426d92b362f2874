/-!
# Sets of identifiers

A set of identifiers is kept as the strictly ascending list of its members, in the order of their
code points. The order belongs to the value, since the order in which the members of a set are
worked on can be seen from outside; and two sets with the same members are the same list, so
equality of sets is equality of values (`IdSet.ext`).

## The model

Each operation is a structural recursion on the list, and each is described by one lemma about
membership: `mem_insert`, `mem_erase`, `mem_ofList`, `mem_filter`.
-/

namespace Reconciler

/-- Membership after an insertion into an ascending list, which `IdSet.insert` is made of. -/
def insertAscending (x : String) : List String → List String
  | [] => [x]
  | y :: ys => if x < y then x :: y :: ys else if y < x then y :: insertAscending x ys else y :: ys

/-- The members of an ascending list after the insertion of `x` are `x` and the old ones. -/
theorem mem_insertAscending {a x : String} {ys : List String} :
    a ∈ insertAscending x ys ↔ a = x ∨ a ∈ ys := by
  induction ys with
  | nil => simp [insertAscending]
  | cons y ys ih =>
    simp only [insertAscending]
    split
    · simp
    · split
      · simp [ih, or_left_comm]
      · rename_i h h'
        have : x = y := String.le_antisymm (String.not_lt.1 h') (String.not_lt.1 h)
        subst this
        simp

/-- An insertion keeps the list strictly ascending. -/
theorem pairwise_insertAscending {x : String} {ys : List String} (h : ys.Pairwise (· < ·)) :
    (insertAscending x ys).Pairwise (· < ·) := by
  induction ys with
  | nil => simp [insertAscending]
  | cons y ys ih =>
    obtain ⟨hy, hys⟩ := List.pairwise_cons.1 h
    simp only [insertAscending]
    split
    · rename_i hxy
      refine List.pairwise_cons.2 ⟨?_, h⟩
      intro a ha
      rcases List.mem_cons.1 ha with rfl | ha
      · exact hxy
      · exact String.lt_trans hxy (hy a ha)
    · split
      · rename_i hyx
        refine List.pairwise_cons.2 ⟨?_, ih hys⟩
        intro a ha
        rcases mem_insertAscending.1 ha with rfl | ha
        · exact hyx
        · exact hy a ha
      · exact h

/-- Two strictly ascending lists with the same members are the same list. -/
theorem eq_of_pairwise_of_mem_iff {xs ys : List String} (hx : xs.Pairwise (· < ·))
    (hy : ys.Pairwise (· < ·)) (h : ∀ a, a ∈ xs ↔ a ∈ ys) : xs = ys := by
  induction xs generalizing ys with
  | nil =>
    cases ys with
    | nil => rfl
    | cons y ys => exact absurd ((h y).2 (by simp)) (by simp)
  | cons x xs ih =>
    cases ys with
    | nil => exact absurd ((h x).1 (by simp)) (by simp)
    | cons y ys =>
      obtain ⟨hx', hxs⟩ := List.pairwise_cons.1 hx
      obtain ⟨hy', hys⟩ := List.pairwise_cons.1 hy
      have hxy : x = y := by
        rcases List.mem_cons.1 ((h x).1 (by simp)) with e | hxm
        · exact e
        · rcases List.mem_cons.1 ((h y).2 (by simp)) with e | hym
          · exact e.symm
          · exact absurd (hx' y hym) (String.lt_asymm (hy' x hxm))
      subst hxy
      congr 1
      refine ih hxs hys fun a => ?_
      have ha := h a
      simp only [List.mem_cons] at ha
      constructor
      · intro m
        rcases ha.1 (.inr m) with rfl | m'
        · exact absurd (hx' _ m) (String.lt_irrefl _)
        · exact m'
      · intro m
        rcases ha.2 (.inr m) with rfl | m'
        · exact absurd (hy' _ m) (String.lt_irrefl _)
        · exact m'

/-- A set of identifiers. -/
structure IdSet where
  /-- The members in ascending order. -/
  members : List String
  /-- Each member stands before the greater ones, and none stands twice. -/
  ascending : members.Pairwise (· < ·)
  deriving DecidableEq

namespace IdSet

instance : Membership String IdSet := ⟨fun s a => a ∈ s.members⟩

instance (a : String) (s : IdSet) : Decidable (a ∈ s) := inferInstanceAs (Decidable (a ∈ s.members))

@[simp] theorem mem_members {a : String} {s : IdSet} : a ∈ s.members ↔ a ∈ s := Iff.rfl

/-- Sets with the same members are equal. -/
theorem ext {s t : IdSet} (h : ∀ a, a ∈ s ↔ a ∈ t) : s = t := by
  cases s; cases t
  simp only [mk.injEq]
  exact eq_of_pairwise_of_mem_iff (by assumption) (by assumption) h

/-- The set without members. -/
def empty : IdSet := ⟨[], .nil⟩

instance : EmptyCollection IdSet := ⟨empty⟩

instance : Inhabited IdSet := ⟨∅⟩

@[simp] theorem not_mem_empty (a : String) : a ∉ (∅ : IdSet) := List.not_mem_nil

/-- The set with `x` as a member. -/
def insert (s : IdSet) (x : String) : IdSet :=
  ⟨insertAscending x s.members, pairwise_insertAscending s.ascending⟩

@[simp] theorem mem_insert {a x : String} {s : IdSet} : a ∈ s.insert x ↔ a = x ∨ a ∈ s :=
  mem_insertAscending

/-- The members for which `keep` holds. -/
def filter (s : IdSet) (keep : String → Bool) : IdSet :=
  ⟨s.members.filter keep, s.ascending.filter keep⟩

@[simp] theorem mem_filter {a : String} {s : IdSet} {keep : String → Bool} :
    a ∈ s.filter keep ↔ a ∈ s ∧ keep a = true :=
  List.mem_filter

/-- The set with `x` no longer a member. -/
def erase (s : IdSet) (x : String) : IdSet := s.filter (· ≠ x)

@[simp] theorem mem_erase {a x : String} {s : IdSet} : a ∈ s.erase x ↔ a ∈ s ∧ a ≠ x := by
  simp [erase]

/-- The set of the identifiers that occur in a list. -/
def ofList (xs : List String) : IdSet := xs.foldl insert ∅

theorem mem_foldl_insert {a : String} {xs : List String} {s : IdSet} :
    a ∈ xs.foldl insert s ↔ a ∈ xs ∨ a ∈ s := by
  induction xs generalizing s with
  | nil => simp
  | cons x xs ih => simp [ih, or_assoc, or_left_comm]

@[simp] theorem mem_ofList {a : String} {xs : List String} : a ∈ ofList xs ↔ a ∈ xs := by
  simp [ofList, mem_foldl_insert]

/-- The set of a set's members is that set. -/
@[simp] theorem ofList_members (s : IdSet) : ofList s.members = s := ext fun a => by simp

/-- The number of members. -/
def size (s : IdSet) : Nat := s.members.length

end IdSet

end Reconciler
