import Reconciler.Cloud.State
import Mathlib.Data.List.Nodup
import Mathlib.Data.List.Pairwise
import Mathlib.Data.Option.Basic

/-!
# Lists looked through by a key

Networks, servers, volumes and attachments are kept in lists and found by an identifier. When no
identifier occurs twice, whoever is looked for by its own identifier is found, and a change of the
first one with an identifier is a change of the only one.

## What is proved

* `find?_of_nodup`: what is found under the key of a member.
* `find?_mapFirst`, `find?_mapFirst_of_find?`, `find?_mapFirst_of_ne`: what is found after the first
  one is changed.
* `mem_mapFirst_find?`, `mem_mapFirst_of_mem`, `exists_mapFirst_eq`, `mapFirst_eq_map`,
  `perm_flatMap_mapFirst`: what is in the list then, and how often.
* `nodup_eraseDups`, `eraseDups_eq_self`: without its repetitions a list has no repetitions, and one
  without any stays as it is.
* `eq_of_map_key`: when lists with the same keys are equal.
* `filter_mapFirst`, `filter_map_eq`: changes of what is passed over do not show.
* `eq_of_mem_flatMap`, `append_eq_append_cons`: the part of a list that a member is in.
-/

namespace Reconciler

variable {α β : Type}

theorem find?_of_nodup {key : α → String} {as : List α} (hn : (as.map key).Nodup) {a : α}
    (ha : a ∈ as) : as.find? (key · = key a) = some a := by
  cases h : as.find? (key · = key a) with
  | none =>
    rw [List.find?_eq_none] at h
    simpa using h a ha
  | some b =>
    have hk := List.find?_some h
    simp only [decide_eq_true_eq] at hk
    rw [List.inj_on_of_nodup_map hn (List.mem_of_find?_eq_some h) ha hk]

theorem key_of_find? {key : α → String} {as : List α} {k : String} {a : α}
    (h : as.find? (key · = k) = some a) : key a = k := by
  simpa using List.find?_some h

theorem nodup_eraseDups : ∀ ks : List String, ks.eraseDups.Nodup
  | [] => List.nodup_nil
  | k :: ks => by
    rw [List.eraseDups_cons, List.nodup_cons, List.mem_eraseDups]
    exact ⟨by simp, nodup_eraseDups _⟩
termination_by ks => ks.length
decreasing_by
  have := List.length_filter_le (fun b => !b == k) ks
  rw [List.length_cons]
  omega

theorem eraseDups_eq_self {ks : List String} (h : ks.Nodup) : ks.eraseDups = ks := by
  induction ks with
  | nil => rfl
  | cons k ks ih =>
    obtain ⟨hk, hks⟩ := List.nodup_cons.1 h
    have others : ks.filter (fun j => !(j == k)) = ks := by
      refine List.filter_eq_self.2 fun j hj => ?_
      have hne : j ≠ k := fun hjk => hk (hjk ▸ hj)
      simpa using hne
    rw [List.eraseDups_cons, others, ih hks]

/-- Two lists with the same keys are equal if the members of both are found by their keys in the
same way. -/
theorem eq_of_map_key {key : α → String} {as bs : List α} (h : as.map key = bs.map key)
    (find : String → Option α) (ha : ∀ a ∈ as, find (key a) = some a)
    (hb : ∀ b ∈ bs, find (key b) = some b) : as = bs := by
  have hsome : as.map some = bs.map some := by
    calc as.map some = (as.map key).map find := by
          rw [List.map_map]
          exact List.map_congr_left fun a hm => (ha a hm).symm
      _ = (bs.map key).map find := by rw [h]
      _ = bs.map some := by
          rw [List.map_map]
          exact List.map_congr_left fun b hm => hb b hm
  exact List.map_injective_iff.2 (Option.some_injective _) hsome

theorem eq_of_mem_flatMap {f : α → List β} {as : List α} (hn : (as.flatMap f).Nodup) {a b : α}
    {x : β} (ha : a ∈ as) (hb : b ∈ as) (hxa : x ∈ f a) (hxb : x ∈ f b) : a = b := by
  have symmetric : Std.Symm (Function.onFun List.Disjoint f) := ⟨fun _ _ h => List.disjoint_symm h⟩
  by_contra hne
  exact (List.nodup_flatMap.1 hn).2.forall ha hb hne hxa hxb

/-! ### Changing the first one -/

variable {fits : α → Bool} {change : α → α} {xs : List α}

theorem find?_mapFirst {x : α} (h : xs.find? fits = some x) (hx : fits (change x) = true) :
    (mapFirst fits change xs).find? fits = some (change x) := by
  induction xs with
  | nil => simp at h
  | cons y ys ih =>
    rw [mapFirst]
    by_cases hy : fits y = true
    · rw [List.find?_cons_of_pos hy, Option.some.injEq] at h
      subst h
      rw [if_pos hy, List.find?_cons_of_pos hx]
    · rw [List.find?_cons_of_neg hy] at h
      rw [if_neg hy, List.find?_cons_of_neg hy]
      exact ih h

theorem mem_mapFirst_find? {y : α} (h : y ∈ mapFirst fits change xs) :
    y ∈ xs ∨ ∃ x, xs.find? fits = some x ∧ y = change x := by
  induction xs with
  | nil => exact absurd h List.not_mem_nil
  | cons x xs ih =>
    rw [mapFirst] at h
    split at h
    · rename_i hx
      rcases List.mem_cons.1 h with rfl | h
      · exact .inr ⟨x, List.find?_cons_of_pos hx, rfl⟩
      · exact .inl (List.mem_cons_of_mem _ h)
    · rename_i hx
      rcases List.mem_cons.1 h with rfl | h
      · exact .inl (List.mem_cons_self ..)
      · rcases ih h with h | ⟨z, hz, rfl⟩
        · exact .inl (List.mem_cons_of_mem _ h)
        · exact .inr ⟨z, by rwa [List.find?_cons_of_neg hx], rfl⟩

theorem mem_mapFirst {y : α} (h : y ∈ mapFirst fits change xs) :
    y ∈ xs ∨ ∃ x ∈ xs, fits x = true ∧ y = change x := by
  rcases mem_mapFirst_find? h with h | ⟨x, hx, rfl⟩
  · exact .inl h
  · exact .inr ⟨x, List.mem_of_find?_eq_some hx, List.find?_some hx, rfl⟩

theorem mem_mapFirst_of_mem {x : α} (h : x ∈ xs) :
    x ∈ mapFirst fits change xs ∨ xs.find? fits = some x := by
  induction xs with
  | nil => exact absurd h List.not_mem_nil
  | cons y ys ih =>
    rw [mapFirst]
    by_cases hy : fits y = true
    · rw [if_pos hy, List.find?_cons_of_pos hy]
      rcases List.mem_cons.1 h with rfl | h
      · exact .inr rfl
      · exact .inl (List.mem_cons_of_mem _ h)
    · rw [if_neg hy, List.find?_cons_of_neg hy]
      rcases List.mem_cons.1 h with rfl | h
      · exact .inl (List.mem_cons_self ..)
      · exact (ih h).imp_left (List.mem_cons_of_mem _)

/-- The change is made in one place, after those that do not fit. -/
theorem exists_mapFirst_eq (h : xs.any fits = true) : ∃ before x after,
    xs = before ++ x :: after ∧ (∀ y ∈ before, fits y = false) ∧ fits x = true ∧
      mapFirst fits change xs = before ++ change x :: after := by
  induction xs with
  | nil => simp at h
  | cons y ys ih =>
    rw [mapFirst]
    cases hy : fits y with
    | true => exact ⟨[], y, ys, rfl, by simp, hy, rfl⟩
    | false =>
      rw [List.any_cons, hy, Bool.false_or] at h
      obtain ⟨before, x, after, rfl, hbefore, hx, hmap⟩ := ih h
      refine ⟨y :: before, x, after, rfl, List.forall_mem_cons.2 ⟨hy, hbefore⟩, hx, ?_⟩
      rw [hmap]
      rfl

/-- What holds of every element and itself, and of every element and what it is changed to, holds of
the list and what it is changed to. -/
theorem forall₂_mapFirst {R : α → α → Prop} (refl : ∀ x, R x x) (changed : ∀ x, R x (change x)) :
    List.Forall₂ R xs (mapFirst fits change xs) := by
  induction xs with
  | nil => exact .nil
  | cons y ys ih =>
    rw [mapFirst]
    split
    · exact .cons (changed y) (List.forall₂_same.2 fun x _ => refl x)
    · exact .cons (refl y) ih

theorem change_mem_mapFirst {x : α} (h : xs.find? fits = some x) :
    change x ∈ mapFirst fits change xs := by
  induction xs with
  | nil => simp at h
  | cons y ys ih =>
    rw [mapFirst]
    by_cases hy : fits y = true
    · rw [List.find?_cons_of_pos hy, Option.some.injEq] at h
      rw [if_pos hy, h]
      exact List.mem_cons_self ..
    · rw [List.find?_cons_of_neg hy] at h
      rw [if_neg hy]
      exact List.mem_cons_of_mem _ (ih h)

/-- What is found by another test is found again after the change of the first one, if both tests
find the same and the changed one still passes. -/
theorem find?_mapFirst_of_find? {p : α → Bool} {x : α} (hp : xs.find? p = some x)
    (hfits : xs.find? fits = some x) (hx : p (change x) = true) :
    (mapFirst fits change xs).find? p = some (change x) := by
  induction xs with
  | nil => simp at hp
  | cons y ys ih =>
    rw [mapFirst]
    by_cases hy : fits y = true
    · rw [List.find?_cons_of_pos hy, Option.some.injEq] at hfits
      subst hfits
      rw [if_pos hy, List.find?_cons_of_pos hx]
    · rw [if_neg hy]
      rw [List.find?_cons_of_neg hy] at hfits
      have hpy : ¬ p y = true := by
        intro hpy
        rw [List.find?_cons_of_pos hpy, Option.some.injEq] at hp
        exact hy (hp ▸ List.find?_some hfits)
      rw [List.find?_cons_of_neg hpy] at hp ⊢
      exact ih hp hfits

/-- What does not pass the test before and after the change is no matter of what is found. -/
theorem find?_mapFirst_of_ne {p : α → Bool} (h : ∀ x, fits x = true → p x = false)
    (h' : ∀ x, fits x = true → p (change x) = false) :
    (mapFirst fits change xs).find? p = xs.find? p := by
  induction xs with
  | nil => rfl
  | cons y ys ih =>
    rw [mapFirst]
    by_cases hy : fits y = true
    · rw [if_pos hy, List.find?_cons_of_neg (by simp [h' y hy]),
        List.find?_cons_of_neg (by simp [h y hy])]
    · rw [if_neg hy, List.find?_cons, List.find?_cons, ih]

/-- One more in the part of the first that fits is one more in all. -/
theorem perm_flatMap_mapFirst {part : α → List β} {x : α} {b : β} (h : xs.find? fits = some x)
    (more : (part (change x)).Perm (b :: part x)) :
    ((mapFirst fits change xs).flatMap part).Perm (b :: xs.flatMap part) := by
  induction xs with
  | nil => simp at h
  | cons y ys ih =>
    rw [mapFirst]
    by_cases hy : fits y = true
    · rw [List.find?_cons_of_pos hy, Option.some.injEq] at h
      subst h
      rw [if_pos hy, List.flatMap_cons, List.flatMap_cons]
      exact more.append_right _
    · rw [List.find?_cons_of_neg hy] at h
      rw [if_neg hy, List.flatMap_cons, List.flatMap_cons]
      exact ((ih h).append_left _).trans List.perm_middle

theorem mapFirst_eq_self (h : ∀ x, xs.find? fits = some x → change x = x) :
    mapFirst fits change xs = xs := by
  induction xs with
  | nil => rfl
  | cons y ys ih =>
    rw [mapFirst]
    by_cases hy : fits y = true
    · rw [if_pos hy, h y (List.find?_cons_of_pos hy)]
    · rw [if_neg hy, ih fun x hx => h x (by rwa [List.find?_cons_of_neg hy])]

theorem map_mapFirst {f : α → β} (h : ∀ x, f (change x) = f x) :
    (mapFirst fits change xs).map f = xs.map f := by
  induction xs with
  | nil => rfl
  | cons y ys ih =>
    rw [mapFirst]
    split
    · rw [List.map_cons, List.map_cons, h]
    · rw [List.map_cons, List.map_cons, ih]

theorem mapFirst_eq_map {key : α → String} {k : String} (hn : (xs.map key).Nodup) :
    mapFirst (key · = k) change xs = xs.map fun x => if key x = k then change x else x := by
  induction xs with
  | nil => rfl
  | cons y ys ih =>
    obtain ⟨hy, hys⟩ := List.nodup_cons.1 (List.map_cons .. ▸ hn)
    rw [mapFirst, List.map_cons]
    by_cases hk : key y = k
    · have rest : ys.map (fun x => if key x = k then change x else x) = ys.map id :=
        List.map_congr_left fun x hx => if_neg fun hxk => hy <| by
          rw [hk, ← hxk]
          exact List.mem_map_of_mem hx
      rw [if_pos (decide_eq_true hk), if_pos hk, rest, List.map_id]
    · rw [if_neg (by simpa using hk), if_neg hk, ih hys]

/-! ### What is passed over -/

section

variable {fits keep : α → Bool} {change : α → α}

/-- A change of something that is passed over before and after does not show. -/
theorem filter_mapFirst (before : ∀ x, fits x = true → keep x = false)
    (after : ∀ x, fits x = true → keep (change x) = false) (xs : List α) :
    (mapFirst fits change xs).filter keep = xs.filter keep := by
  induction xs with
  | nil => rfl
  | cons x xs ih =>
    rw [mapFirst]
    split
    · rename_i h
      rw [List.filter_cons_of_neg (by simp [after x h]),
        List.filter_cons_of_neg (by simp [before x h])]
    · rw [List.filter_cons, List.filter_cons, ih]

/-- The same for a change of every element. -/
theorem filter_map_eq (others : ∀ x, keep x = true → change x = x)
    (own : ∀ x, keep x = false → keep (change x) = false) (xs : List α) :
    (xs.map change).filter keep = xs.filter keep := by
  induction xs with
  | nil => rfl
  | cons x xs ih =>
    rw [List.map_cons]
    cases h : keep x with
    | true => rw [others x h, List.filter_cons_of_pos h, List.filter_cons_of_pos h, ih]
    | false =>
      rw [List.filter_cons_of_neg (by simp [own x h]), List.filter_cons_of_neg (by simp [h]), ih]

end

/-! ### Places in a list -/

theorem append_eq_append_cons {xs ys pre post : List α} {x : α}
    (h : xs ++ ys = pre ++ x :: post) :
    (∃ pre', pre = xs ++ pre' ∧ ys = pre' ++ x :: post) ∨
      ∃ post', xs = pre ++ x :: post' ∧ post = post' ++ ys := by
  induction xs generalizing pre with
  | nil => exact .inl ⟨pre, rfl, h⟩
  | cons z xs ih =>
    cases pre with
    | nil =>
      obtain ⟨rfl, rfl⟩ := List.cons.inj h
      exact .inr ⟨xs, rfl, rfl⟩
    | cons y pre =>
      obtain ⟨rfl, htail⟩ := List.cons.inj h
      rcases ih htail with ⟨pre', rfl, rfl⟩ | ⟨post', rfl, rfl⟩
      · exact .inl ⟨pre', rfl, rfl⟩
      · exact .inr ⟨post', rfl, rfl⟩

theorem singleton_eq_append_cons {pre post : List α} {x y : α} (h : [x] = pre ++ y :: post) :
    pre = [] ∧ y = x ∧ post = [] := by
  cases pre with
  | nil =>
    obtain ⟨rfl, rfl⟩ := List.cons.inj h
    exact ⟨rfl, rfl, rfl⟩
  | cons z pre => simp at h

end Reconciler
