import Reconciler.Lifecycle.Update.Membership
import Reconciler.Proofs.Runs

/-!
# Edit scripts and what performing them gives

The edit script between two sets leads from the observed set to one that has the members of the
desired set, except for the empty identifier, which stays as it was observed.

## What is proved

* `mem_applyEdits_editScript`: the members of the set after the script.
* `editScript_eq_nil`: between sets that differ in the empty identifier at most there is nothing to
  do.
* `Succeeds.performEdits_eq`: performing a script gives the set after it.
-/

namespace Reconciler

/-! ### The set after a script -/

theorem mem_applyEdits_map_add {x : String} {xs : List String} {s : IdSet} :
    x ∈ applyEdits s (xs.map .add) ↔ x ∈ xs ∨ x ∈ s := by
  induction xs generalizing s with
  | nil => simp [applyEdits]
  | cons y ys ih =>
    show x ∈ applyEdits (s.insert y) (ys.map .add) ↔ _
    rw [ih, IdSet.mem_insert, List.mem_cons]
    tauto

theorem mem_applyEdits_map_remove {x : String} {xs : List String} {s : IdSet} :
    x ∈ applyEdits s (xs.map .remove) ↔ x ∈ s ∧ x ∉ xs := by
  induction xs generalizing s with
  | nil => simp [applyEdits]
  | cons y ys ih =>
    show x ∈ applyEdits (s.erase y) (ys.map .remove) ↔ _
    rw [ih, IdSet.mem_erase, List.mem_cons]
    tauto

/-- **The set after an edit script** has the members of the desired set, and the empty identifier if
it was observed. -/
theorem mem_applyEdits_editScript {x : String} {desired observed : IdSet} :
    x ∈ applyEdits observed (editScript desired observed) ↔
      if x = "" then x ∈ observed else x ∈ desired := by
  rw [editScript, applyEdits, List.foldl_append]
  show x ∈ applyEdits (applyEdits observed _) _ ↔ _
  rw [mem_applyEdits_map_remove, mem_applyEdits_map_add]
  by_cases hx : x = ""
  · simp [hx]
  · simp only [List.mem_filter, IdSet.mem_members, hx, ne_eq, not_false_eq_true, and_true,
      decide_eq_true_eq, if_false]
    tauto

theorem add_mem_editScript {x : String} {desired observed : IdSet} :
    .add x ∈ editScript desired observed ↔ x ∈ desired ∧ x ∉ observed ∧ x ≠ "" := by
  simp [editScript]

theorem remove_mem_editScript {x : String} {desired observed : IdSet} :
    .remove x ∈ editScript desired observed ↔ x ∈ observed ∧ x ∉ desired ∧ x ≠ "" := by
  simp [editScript]

/-- Sets that differ in the empty identifier at most need no edit. -/
theorem editScript_eq_nil {desired observed : IdSet}
    (h : ∀ x, x ≠ "" → (x ∈ desired ↔ x ∈ observed)) : editScript desired observed = [] := by
  rw [editScript, List.append_eq_nil_iff, List.map_eq_nil_iff, List.map_eq_nil_iff,
    List.filter_eq_nil_iff, List.filter_eq_nil_iff]
  constructor
  · intro x hx
    simp only [decide_eq_true_eq, not_and, not_not]
    intro hx'
    by_contra hne
    exact hx' ((h x hne).1 hx)
  · intro x hx
    simp only [decide_eq_true_eq, not_and, not_not]
    intro hx'
    by_contra hne
    exact hx' ((h x hne).2 hx)

/-- After an edit script there is nothing left to do. -/
theorem editScript_applyEdits (desired observed : IdSet) :
    editScript desired (applyEdits observed (editScript desired observed)) = [] :=
  editScript_eq_nil fun x hx => by rw [mem_applyEdits_editScript, if_neg hx]

/-! ### Performing a script -/

variable {σ : Type} {p : Provider σ} {w w' : World σ} {es : List Exchange}

theorem Succeeds.performEdits_eq {perform : Edit → Task Unit} {script : List Edit} {s s' : IdSet}
    (h : Succeeds p w (performEdits perform script s) s' w' es) : s' = applyEdits s script := by
  induction script generalizing s w es with
  | nil => exact (succeeds_pure_iff.1 h).1
  | cons e script ih =>
    obtain ⟨_, w₁, es₁, es₂, -, h, -⟩ := succeeds_bind_iff.1 h
    exact ih h

theorem makes_performEdits {allowed : Call → Prop} {perform : Edit → Task Unit}
    (h : ∀ e, (perform e).run.Makes allowed) (script : List Edit) (s : IdSet) :
    (performEdits perform script s).run.Makes allowed := by
  induction script generalizing s with
  | nil => trivial
  | cons e script ih => exact (h e).run_bind fun _ => ih _

end Reconciler
