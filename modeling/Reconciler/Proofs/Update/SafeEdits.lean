import Reconciler.Proofs.Maps
import Reconciler.Proofs.Update.Membership
import Mathlib.Data.List.Perm.Subperm

/-!
# Safe edit scripts

The groups and the volumes of an instance are changed one call at a time, so that every set between
the observed and the desired one is seen by someone. An edit script is safe when nothing is missing
on the way that is in both sets, nothing is there that is in neither, and a set that is not empty at
either end is never empty in between. That rests on the order of the steps, the additions before the
removals; where the steps lead rests on no order at all.

## What is proved

* `mem_applyEdits`: the members after steps about different identifiers.
* `mem_applyEdits_perm`: the steps of an edit script lead to the same set in every order.
* `editScript_subperm`: whatever leads from the observed to the desired set has at least these steps.
* `editScript_safe`: the edit script between any two sets is safe.
-/

namespace Reconciler

variable {desired observed s : IdSet} {script : List Edit} {x : String}

/-! ### The set after some steps -/

/-- **The members after steps about different identifiers** are those added, and of the others those
that are not removed. -/
theorem mem_applyEdits (distinct : (script.map Edit.id).Nodup) :
    x ∈ applyEdits s script ↔ .add x ∈ script ∨ x ∈ s ∧ .remove x ∉ script := by
  induction script generalizing s with
  | nil => simp [applyEdits]
  | cons e script ih =>
    obtain ⟨single, distinct⟩ := List.nodup_cons.1 (List.map_cons .. ▸ distinct)
    have once (e' : Edit) (he' : e' ∈ script) : e'.id ≠ e.id := fun same =>
      single (same ▸ List.mem_map_of_mem he')
    show x ∈ applyEdits (e.apply s) script ↔ _
    rw [ih distinct]
    cases e with
    | add y =>
      have kept : x = y → .remove x ∉ script := by
        rintro rfl removed
        exact once _ removed rfl
      simp only [Edit.apply, IdSet.mem_insert, List.mem_cons, Edit.add.injEq, reduceCtorEq,
        false_or]
      tauto
    | remove y =>
      have gone : x = y → .add x ∉ script := by
        rintro rfl added
        exact once _ added rfl
      simp only [Edit.apply, IdSet.mem_erase, List.mem_cons, Edit.remove.injEq, reduceCtorEq,
        false_or]
      tauto

theorem add_mem_of_mem_applyEdits (h : x ∈ applyEdits s script) (hs : x ∉ s) :
    .add x ∈ script := by
  induction script generalizing s with
  | nil => exact absurd h hs
  | cons e script ih =>
    by_cases he : x ∈ e.apply s
    · cases e with
      | add y =>
        obtain rfl := (IdSet.mem_insert.1 he).resolve_right hs
        exact List.mem_cons_self
      | remove y => exact absurd (IdSet.mem_erase.1 he).1 hs
    · exact List.mem_cons_of_mem _ (ih h he)

theorem remove_mem_of_not_mem_applyEdits (h : x ∉ applyEdits s script) (hs : x ∈ s) :
    .remove x ∈ script := by
  induction script generalizing s with
  | nil => exact absurd hs h
  | cons e script ih =>
    by_cases he : x ∈ e.apply s
    · exact List.mem_cons_of_mem _ (ih h he)
    · cases e with
      | add y => exact absurd (IdSet.mem_insert.2 (.inr hs)) he
      | remove y =>
        obtain rfl : x = y := by
          by_contra hne
          exact he (IdSet.mem_erase.2 ⟨hs, hne⟩)
        exact List.mem_cons_self

/-! ### The steps of an edit script -/

/-- The identifiers that an edit script adds. -/
def addedIds (desired observed : IdSet) : List String :=
  desired.members.filter fun x => x ∉ observed ∧ x ≠ ""

/-- The identifiers that an edit script removes. -/
def removedIds (desired observed : IdSet) : List String :=
  observed.members.filter fun x => x ∉ desired ∧ x ≠ ""

/-- The additions come first. -/
theorem editScript_eq :
    editScript desired observed =
      (addedIds desired observed).map .add ++ (removedIds desired observed).map .remove := rfl

theorem id_ne_of_mem_editScript {e : Edit} (h : e ∈ editScript desired observed) : e.id ≠ "" := by
  cases e with
  | add x => exact (add_mem_editScript.1 h).2.2
  | remove x => exact (remove_mem_editScript.1 h).2.2

/-- No two steps are about the same identifier: what is added was not there, and what is removed
was. -/
theorem nodup_editScript : ((editScript desired observed).map Edit.id).Nodup := by
  have ids : (editScript desired observed).map Edit.id =
      addedIds desired observed ++ removedIds desired observed := by
    rw [editScript_eq, List.map_append, List.map_map, List.map_map]
    exact congrArg₂ (· ++ ·) (List.map_id _) (List.map_id _)
  rw [ids]
  refine List.Nodup.append (desired.nodup_members.filter _) (observed.nodup_members.filter _) ?_
  intro x added removed
  have absent := (List.mem_filter.1 added).2
  have present := (List.mem_filter.1 removed).1
  simp only [decide_eq_true_eq] at absent
  exact absent.1 present

/-- **In every order** the steps of an edit script lead to the desired members, and to the empty
identifier if it was observed. -/
theorem mem_applyEdits_perm {steps : List Edit} (h : steps.Perm (editScript desired observed)) :
    x ∈ applyEdits observed steps ↔ if x = "" then x ∈ observed else x ∈ desired := by
  have distinct : (steps.map Edit.id).Nodup := (h.map Edit.id).nodup_iff.2 nodup_editScript
  rw [← mem_applyEdits_editScript, mem_applyEdits distinct, mem_applyEdits nodup_editScript,
    h.mem_iff, h.mem_iff]

/-- **Nothing less would do**: steps that lead from the observed to the desired members are those of
the edit script, in some order, and perhaps others. -/
theorem editScript_subperm {steps : List Edit}
    (leads : ∀ x, x ≠ "" → (x ∈ applyEdits observed steps ↔ x ∈ desired)) :
    (editScript desired observed).Subperm steps := by
  refine nodup_editScript.of_map.subperm fun e he => ?_
  cases e with
  | add x =>
    obtain ⟨wanted, absent, named⟩ := add_mem_editScript.1 he
    exact add_mem_of_mem_applyEdits ((leads x named).2 wanted) absent
  | remove x =>
    obtain ⟨present, unwanted, named⟩ := remove_mem_editScript.1 he
    exact remove_mem_of_not_mem_applyEdits (mt (leads x named).1 unwanted) present

/-! ### The sets on the way -/

section

variable {sofar : List Edit}

theorem mem_applyEdits_sofar (h : sofar <+: editScript desired observed) :
    x ∈ applyEdits observed sofar ↔ .add x ∈ sofar ∨ x ∈ observed ∧ .remove x ∉ sofar :=
  mem_applyEdits (nodup_editScript.sublist (h.sublist.map Edit.id))

theorem mem_on_the_way (h : sofar <+: editScript desired observed) (wanted : x ∈ desired)
    (present : x ∈ observed) : x ∈ applyEdits observed sofar := by
  refine (mem_applyEdits_sofar h).2 (.inr ⟨present, fun removed => ?_⟩)
  exact (remove_mem_editScript.1 (h.subset removed)).2.1 wanted

theorem mem_or_mem_of_on_the_way (h : sofar <+: editScript desired observed)
    (hx : x ∈ applyEdits observed sofar) : x ∈ desired ∨ x ∈ observed := by
  rcases (mem_applyEdits_sofar h).1 hx with added | ⟨present, -⟩
  · exact .inl (add_mem_editScript.1 (h.subset added)).1
  · exact .inr present

/-- **A set on the way has a member with a name**, if both sets have one: before the first removal
it is one that was observed, and after the last addition it is one that is desired. -/
theorem exists_mem_on_the_way (h : sofar <+: editScript desired observed)
    (wanted : ∃ x ∈ desired, x ≠ "") (present : ∃ x ∈ observed, x ≠ "") :
    ∃ x ∈ applyEdits observed sofar, x ≠ "" := by
  have ⟨rest, hrest⟩ := h
  rw [editScript_eq] at hrest
  rcases List.append_eq_append_iff.1 hrest with ⟨later, additions, -⟩ | ⟨first, rfl, -⟩
  · obtain ⟨x, hx, named⟩ := present
    refine ⟨x, (mem_applyEdits_sofar h).2 (.inr ⟨hx, fun removed => ?_⟩), named⟩
    have among : Edit.remove x ∈ (addedIds desired observed).map .add :=
      additions ▸ List.mem_append_left later removed
    simp at among
  · obtain ⟨x, hx, named⟩ := wanted
    by_cases there : x ∈ observed
    · exact ⟨x, mem_on_the_way h hx there, named⟩
    · have added : Edit.add x ∈ (addedIds desired observed).map .add := by
        refine List.mem_map_of_mem (List.mem_filter.2 ⟨hx, ?_⟩)
        exact decide_eq_true ⟨there, named⟩
      exact ⟨x, (mem_applyEdits_sofar h).2 (.inl (List.mem_append_left first added)), named⟩

end

/-! ### Safe scripts -/

/-- **A script is safe** on the way from the observed to the desired set, and leads there in no more
steps than are needed. The empty identifier names nothing, and stays as it was observed. -/
structure SafeScript (desired observed : IdSet) (script : List Edit) : Prop where
  /-- No step is about the empty identifier. -/
  named : ∀ e ∈ script, e.id ≠ ""
  /-- No two steps are about the same identifier. -/
  distinct : (script.map Edit.id).Nodup
  /-- The additions come before the removals, and each of the two in ascending order. -/
  order : ∃ added removed : List String, script = added.map .add ++ removed.map .remove ∧
    added.Pairwise (· < ·) ∧ removed.Pairwise (· < ·)
  /-- What is added is what is desired and was not observed. -/
  additions : ∀ x, .add x ∈ script ↔ x ∈ desired ∧ x ∉ observed ∧ x ≠ ""
  /-- What is removed is what was observed and is not desired. -/
  removals : ∀ x, .remove x ∈ script ↔ x ∈ observed ∧ x ∉ desired ∧ x ≠ ""
  /-- In every order the steps lead to the desired set. -/
  leads : ∀ steps : List Edit, steps.Perm script → ∀ x,
    x ∈ applyEdits observed steps ↔ if x = "" then x ∈ observed else x ∈ desired
  /-- From there no step is left to take. -/
  done : ∀ steps : List Edit, steps.Perm script →
    editScript desired (applyEdits observed steps) = []
  /-- Whatever leads to the desired set has these steps among its own. -/
  minimal : ∀ steps : List Edit,
    (∀ x, x ≠ "" → (x ∈ applyEdits observed steps ↔ x ∈ desired)) → script.Subperm steps
  /-- A set on the way has what is in both sets, and nothing that is in neither. -/
  between : ∀ sofar : List Edit, sofar <+: script → ∀ x,
    (x ∈ desired → x ∈ observed → x ∈ applyEdits observed sofar) ∧
      (x ∈ applyEdits observed sofar → x ∈ desired ∨ x ∈ observed)
  /-- A set on the way has a member with a name, if both sets have one. -/
  populated : ∀ sofar : List Edit, sofar <+: script → (∃ x ∈ desired, x ≠ "") →
    (∃ x ∈ observed, x ≠ "") → ∃ x ∈ applyEdits observed sofar, x ≠ ""

/-- **The edit script between two sets is safe**, whatever the sets are. -/
theorem editScript_safe (desired observed : IdSet) :
    SafeScript desired observed (editScript desired observed) where
  named _ he := id_ne_of_mem_editScript he
  distinct := nodup_editScript
  order := ⟨_, _, editScript_eq, desired.ascending.filter _, observed.ascending.filter _⟩
  additions _ := add_mem_editScript
  removals _ := remove_mem_editScript
  leads _ h _ := mem_applyEdits_perm h
  done _ h := editScript_eq_nil fun x named => by rw [mem_applyEdits_perm h, if_neg named]
  minimal _ leads := editScript_subperm leads
  between _ h _ := ⟨mem_on_the_way h, mem_or_mem_of_on_the_way h⟩
  populated _ h := exists_mem_on_the_way h

-- Between sets with no member in common lies one with the members of both.
example :
    (applyEdits (.ofList ["a"]) ((editScript (.ofList ["b", ""]) (.ofList ["a"])).take 1)).members =
      ["a", "b"] := by
  decide

end Reconciler
