import Reconciler.Proofs.RoundTrip
import Mathlib.Tactic.Common

/-!
# Forms of documents

Which documents a reader accepts, with which failure it refuses the others, and which documents it
does not tell apart.

## The model

A `Form` says all three of a kind of document, without reading one. The forms of texts, of truth
values and of numbers are given by what the documents are; a form of optional documents or of lists is
made of the form of the document or of the items. `Form.ReadBy` says that a reader follows a form.

Two documents that are alike give the same outcome, with one exception. The items of a set may be
reordered and repeated; if several of them are not texts, then the first is the failure, and another
may be the first in another order. An `Extent` says whether the failures are to be the same.

## What is proved

* `Extent.Agree.bind`, `Extent.Agree.map`: results that agree are continued alike.
* `Decided.bind`: what is known of two steps in a row.
* `Form.readBy_text`, `Form.readBy_boolean`, `Form.readBy_natural`: the readers of single values.
* `Form.ReadBy.asOption`, `Form.ReadBy.asList`, `Form.readBy_set`: the readers made of others.
-/

namespace Reconciler

open Document (asText asBoolean asNatural asOption asList asIdSet)

/-! ### Results that agree -/

/-- How much two results have in common. -/
inductive Extent where
  /-- Both are failures, or they are the same value. -/
  | value
  /-- They are the same failure or the same value. -/
  | outcome

namespace Extent

variable {α β γ : Type} {x : Extent}

/-- Two results agree to an extent. -/
def Agree (x : Extent) : Decoded α → Decoded α → Prop
  | .ok a, .ok b => a = b
  | .error e, .error e' => x = .outcome → e = e'
  | _, _ => False

theorem agree_of_eq {m m' : Decoded α} (h : m = m') : x.Agree m m' := by
  subst h
  cases m with
  | error e => exact fun _ => rfl
  | ok a => exact rfl

theorem agree_outcome_iff {m m' : Decoded α} : outcome.Agree m m' ↔ m = m' := by
  cases m <;> cases m' <;> simp [Agree]

theorem agree_value_iff {m m' : Decoded α} :
    value.Agree m m' ↔ ∀ a, m = .ok a ↔ m' = .ok a := by
  cases m <;> cases m' <;> simp [Agree, eq_comm]

/-- Failures agree if it does not matter which they are. -/
theorem agree_of_failures {m m' : Decoded α} (free : x ≠ .outcome) (h : ¬ ∃ a, m = .ok a)
    (h' : ¬ ∃ a, m' = .ok a) : x.Agree m m' := by
  cases x with
  | outcome => exact absurd rfl free
  | value =>
    exact agree_value_iff.2 fun a => ⟨fun ha => absurd ⟨a, ha⟩ h, fun ha => absurd ⟨a, ha⟩ h'⟩

theorem Agree.map {m m' : Decoded α} (g : α → β) (h : x.Agree m m') :
    x.Agree (m.map g) (m'.map g) := by
  cases m with
  | error e =>
    cases m' with
    | error e' => exact h
    | ok b => exact h.elim
  | ok a =>
    cases m' with
    | error e' => exact h.elim
    | ok b => exact congrArg g h

/-- Results that agree in what `g` keeps are continued alike if no continuation tells apart what `g`
does not. -/
theorem Agree.bindOn {m m' : Decoded α} {k k' : α → Decoded β} (g : α → γ)
    (h : x.Agree (m.map g) (m'.map g))
    (next : ∀ a b, m = .ok a → g a = g b → x.Agree (k a) (k' b)) :
    x.Agree (m >>= k) (m' >>= k') := by
  cases m with
  | error e =>
    cases m' with
    | error e' => exact h
    | ok b => exact h.elim
  | ok a =>
    cases m' with
    | error e' => exact h.elim
    | ok b => exact next a b rfl h

theorem Agree.bind {m m' : Decoded α} {k k' : α → Decoded β} (h : x.Agree m m')
    (next : ∀ a, m = .ok a → x.Agree (k a) (k' a)) : x.Agree (m >>= k) (m' >>= k') := by
  refine Agree.bindOn id (h.map id) fun a b ha hab => ?_
  obtain rfl : a = b := hab
  exact next a ha

end Extent

/-! ### Results that are decided -/

/-- **A result is decided** by when there is a value and by which failure there is otherwise. -/
structure Decided {α : Type} (fits : Prop) (refuses : DecodeError → Prop) (m : Decoded α) :
    Prop where
  /-- There is a value exactly if all is as it should be. -/
  accepts : (∃ a, m = .ok a) ↔ fits
  /-- The failure is what is wrong. -/
  reports (e : DecodeError) : m = .error e ↔ refuses e

namespace Decided

variable {α β : Type} {fits fits' : Prop} {refuses refuses' : DecodeError → Prop} {m : Decoded α}

theorem congr (h : Decided fits refuses m) (hfits : fits ↔ fits')
    (hrefuses : ∀ e, refuses e ↔ refuses' e) : Decided fits' refuses' m :=
  ⟨h.accepts.trans hfits, fun e => (h.reports e).trans (hrefuses e)⟩

theorem ok (a : α) : Decided True (fun _ => False) (.ok a) :=
  ⟨iff_of_true ⟨a, rfl⟩ trivial, by simp⟩

theorem error (e : DecodeError) : Decided False (· = e) (.error e : Decoded α) :=
  ⟨by simp, by simp [eq_comm]⟩

/-- Two steps in a row: the second counts if the first gives a value. -/
theorem bind {k : α → Decoded β} (h : Decided fits refuses m)
    (next : ∀ a, m = .ok a → Decided fits' refuses' (k a)) :
    Decided (fits ∧ fits') (fun e => refuses e ∨ (fits ∧ refuses' e)) (m >>= k) := by
  cases hm : m with
  | error e =>
    subst hm
    have unfit : ¬ fits := by
      rw [← h.accepts]
      exact nofun
    refine (error e).congr (by simp [unfit]) fun e' => ?_
    rw [← h.reports]
    simp [unfit, eq_comm]
  | ok a =>
    have fit : fits := h.accepts.1 ⟨a, hm⟩
    have passes : ∀ e, ¬ refuses e := by
      intro e
      rw [← h.reports, hm]
      exact nofun
    exact (next a hm).congr (by simp [fit]) (by simp [fit, passes])

/-- What is made of the value is of no account. -/
theorem map (h : Decided fits refuses m) (f : α → β) : Decided fits refuses (m.map f) := by
  cases m <;>
    exact ⟨by simpa [Except.map] using h.accepts, by simpa [Except.map] using h.reports⟩

end Decided

/-! ### Forms -/

/-- **A form of documents.** -/
structure Form where
  /-- The document has the form. -/
  Fits : Document → Prop
  /-- The document does not have the form, and the failure says why. -/
  Refuses : Document → DecodeError → Prop
  /-- The documents stand for the same value, as far as the results are to agree. -/
  Alike : Extent → Document → Document → Prop
  /-- Each document is like itself. -/
  alike_refl (x : Extent) (d : Document) : Alike x d d

namespace Form

/-- **A reader follows a form**: it accepts the documents that have the form, it reports what is
wrong with the others, and it does not tell documents apart that are alike. -/
structure ReadBy {α : Type} (g : Form) (read : Document → Decoded α) : Prop where
  /-- A value is read exactly from the documents that have the form. -/
  accepts (d : Document) : (∃ a, read d = .ok a) ↔ g.Fits d
  /-- The failure is what the form says. -/
  reports (d : Document) (e : DecodeError) : read d = .error e ↔ g.Refuses d e
  /-- The results of reading documents that are alike agree. -/
  agrees (x : Extent) (d d' : Document) (h : g.Alike x d d') : x.Agree (read d) (read d')

section

variable {α β : Type} {g : Form} {read : Document → Decoded α}

theorem ReadBy.decides (h : g.ReadBy read) (d : Document) :
    Decided (g.Fits d) (g.Refuses d) (read d) :=
  ⟨h.accepts d, h.reports d⟩

theorem readBy_of_decides (decides : ∀ d, Decided (g.Fits d) (g.Refuses d) (read d))
    (agrees : ∀ x d d', g.Alike x d d' → x.Agree (read d) (read d')) : g.ReadBy read :=
  ⟨fun d => (decides d).accepts, fun d => (decides d).reports, agrees⟩

theorem ReadBy.map (h : g.ReadBy read) (f : α → β) : g.ReadBy fun d => (read d).map f :=
  readBy_of_decides (fun d => (h.decides d).map f) fun x d d' alike =>
    (h.agrees x d d' alike).map f

/-! ### Single values -/

/-- The form of the documents of one kind, which `expected` names. -/
def ofKind (kind : Document → Prop) (expected : String) : Form where
  Fits := kind
  Refuses d e := ¬ kind d ∧ e = .wrongKind d expected
  Alike _ := Eq
  alike_refl _ _ := rfl

/-- The form of texts. -/
def text : Form := ofKind (fun d => ∃ s, d = .text s) "a string"

/-- The form of truth values. -/
def boolean : Form := ofKind (fun d => ∃ b, d = .boolean b) "a boolean"

/-- The form of natural numbers of sixty-four bits. -/
def natural : Form where
  Fits d := ∃ i, d = .integer i ∧ 0 ≤ i ∧ i < Int.pow 2 64
  Refuses d e :=
    (∃ i, d = .integer i ∧ ¬ (0 ≤ i ∧ i < Int.pow 2 64) ∧ e = .outOfRange d "u64") ∨
    ((∀ i, d ≠ .integer i) ∧ e = .wrongKind d "u64")
  Alike _ := Eq
  alike_refl _ _ := rfl

@[simp] theorem not_fits_text_null : ¬ text.Fits .null := nofun

@[simp] theorem not_fits_boolean_null : ¬ boolean.Fits .null := nofun

@[simp] theorem not_fits_natural_null : ¬ natural.Fits .null := nofun

theorem readBy_ofKind {kind : Document → Prop} {expected : String}
    (of : ∀ d, kind d → ∃ a, read d = .ok a)
    (not : ∀ d, ¬ kind d → read d = .error (.wrongKind d expected)) :
    (ofKind kind expected).ReadBy read := by
  refine readBy_of_decides (fun d => ?_) fun _ _ _ h => Extent.agree_of_eq (congrArg read h)
  by_cases hd : kind d
  · obtain ⟨a, ha⟩ := of d hd
    rw [ha]
    exact (Decided.ok a).congr (by simp [ofKind, hd]) (by simp [ofKind, hd])
  · rw [not d hd]
    exact (Decided.error _).congr (by simp [ofKind, hd]) (by simp [ofKind, hd])

theorem readBy_text : text.ReadBy asText := by
  refine readBy_ofKind ?_ fun d h => ?_
  · rintro _ ⟨s, rfl⟩
    exact ⟨s, rfl⟩
  · cases d with
    | text s => exact absurd ⟨s, rfl⟩ h
    | _ => rfl

theorem readBy_boolean : boolean.ReadBy asBoolean := by
  refine readBy_ofKind ?_ fun d h => ?_
  · rintro _ ⟨b, rfl⟩
    exact ⟨b, rfl⟩
  · cases d with
    | boolean b => exact absurd ⟨b, rfl⟩ h
    | _ => rfl

theorem fits_natural_iff {i : Int} :
    natural.Fits (.integer i) ↔ 0 ≤ i ∧ i < Int.pow 2 64 := by
  simp only [natural, Document.integer.injEq, exists_eq_left']

theorem refuses_natural_iff {i : Int} {e : DecodeError} : natural.Refuses (.integer i) e ↔
    ¬ (0 ≤ i ∧ i < Int.pow 2 64) ∧ e = .outOfRange (.integer i) "u64" := by
  simp only [natural, Document.integer.injEq, exists_eq_left', ne_eq, forall_eq', false_and,
    or_false]

theorem readBy_natural : natural.ReadBy asNatural := by
  refine readBy_of_decides (fun d => ?_) fun _ _ _ h => Extent.agree_of_eq (congrArg asNatural h)
  cases d with
  | integer i =>
    rw [asNatural]
    split_ifs with fits
    · refine (Decided.ok i.toNat).congr ?_ fun e => ?_
      · exact iff_of_true trivial (fits_natural_iff.2 fits)
      · exact iff_of_false id fun h => (refuses_natural_iff.1 h).1 fits
    · refine (Decided.error _).congr ?_ fun e => ?_
      · exact iff_of_false id fun h => fits (fits_natural_iff.1 h)
      · exact ⟨fun h => refuses_natural_iff.2 ⟨fits, h⟩, fun h => (refuses_natural_iff.1 h).2⟩
  | _ => exact (Decided.error _).congr (by simp [natural]) (by simp [natural])

/-! ### Optional values -/

/-- The form of documents that are nothing or have a form. -/
def option (g : Form) : Form where
  Fits d := d = .null ∨ g.Fits d
  Refuses d e := d ≠ .null ∧ g.Refuses d e
  Alike x d d' := (d = .null ∧ d' = .null) ∨ (d ≠ .null ∧ d' ≠ .null ∧ g.Alike x d d')
  alike_refl x d := by
    by_cases h : d = .null
    · exact .inl ⟨h, h⟩
    · exact .inr ⟨h, h, g.alike_refl x d⟩

@[simp] theorem fits_option_null : g.option.Fits .null := .inl rfl

theorem asOption_of_ne {d : Document} (h : d ≠ .null) : asOption read d = (read d).map some := by
  rw [asOption]
  exact h

theorem ReadBy.asOption (h : g.ReadBy read) : g.option.ReadBy (asOption read) := by
  refine readBy_of_decides (fun d => ?_) fun x d d' alike => ?_
  · by_cases hd : d = .null
    · subst hd
      exact (Decided.ok none).congr (by simp) (by simp [option])
    · rw [asOption_of_ne hd]
      exact ((h.decides d).map some).congr (by simp [option, hd]) (by simp [option, hd])
  · rcases alike with ⟨rfl, rfl⟩ | ⟨hd, hd', alike⟩
    · exact Extent.agree_of_eq rfl
    · rw [asOption_of_ne hd, asOption_of_ne hd']
      exact (h.agrees x d d' alike).map some

/-! ### Lists -/

/-- The form of lists whose items have a form. -/
def list (g : Form) : Form where
  Fits d := ∃ items, d = .list items ∧ ∀ i ∈ items, g.Fits i
  Refuses d e :=
    (∃ before i after, d = .list (before ++ i :: after) ∧ (∀ b ∈ before, g.Fits b) ∧
      g.Refuses i e) ∨
    ((∀ items, d ≠ .list items) ∧ e = .wrongKind d "a sequence")
  Alike x d d' := d = d' ∨ ∃ items items', d = .list items ∧ d' = .list items' ∧
    List.Forall₂ (g.Alike x) items items'
  alike_refl _ _ := .inl rfl

@[simp] theorem not_fits_list_null : ¬ g.list.Fits .null := nofun

theorem asList_nil : asList read (.list []) = .ok [] := rfl

/-- The first item that is refused is the first of all, or the first of the others after one that
fits. -/
theorem exists_first_cons_iff {i : Document} {items : List Document} {e : DecodeError} :
    (∃ before j after, i :: items = before ++ j :: after ∧ (∀ b ∈ before, g.Fits b) ∧
        g.Refuses j e) ↔
      g.Refuses i e ∨ (g.Fits i ∧ ∃ before j after, items = before ++ j :: after ∧
        (∀ b ∈ before, g.Fits b) ∧ g.Refuses j e) := by
  constructor
  · rintro ⟨before, j, after, h, fits, refused⟩
    cases before with
    | nil =>
      obtain ⟨rfl, rfl⟩ := List.cons.inj h
      exact .inl refused
    | cons b before =>
      obtain ⟨rfl, rfl⟩ := List.cons.inj h
      obtain ⟨fit, fits⟩ := List.forall_mem_cons.1 fits
      exact .inr ⟨fit, before, j, after, rfl, fits, refused⟩
  · rintro (refused | ⟨fit, before, j, after, rfl, fits, refused⟩)
    · exact ⟨[], i, items, rfl, nofun, refused⟩
    · exact ⟨i :: before, j, after, rfl, List.forall_mem_cons.2 ⟨fit, fits⟩, refused⟩

/-- Items are read one after another until one is refused. -/
theorem ReadBy.decides_mapM (h : g.ReadBy read) (items : List Document) :
    Decided (∀ i ∈ items, g.Fits i)
      (fun e => ∃ before i after, items = before ++ i :: after ∧ (∀ b ∈ before, g.Fits b) ∧
        g.Refuses i e)
      (items.mapM read) := by
  induction items with
  | nil => exact (Decided.ok []).congr (by simp) (by simp)
  | cons i items ih =>
    rw [List.mapM_cons]
    refine ((h.decides i).bind fun a _ => ih.map (a :: ·)).congr ?_ fun e => ?_
    · exact List.forall_mem_cons.symm
    · exact exists_first_cons_iff.symm

theorem ReadBy.asList (h : g.ReadBy read) : g.list.ReadBy (asList read) := by
  refine readBy_of_decides (fun d => ?_) fun x d d' alike => ?_
  · cases d with
    | list items => exact (h.decides_mapM items).congr (by simp [list]) (by simp [list])
    | _ => exact (Decided.error _).congr (by simp [list]) (by simp [list])
  · rcases alike with rfl | ⟨items, items', rfl, rfl, alike⟩
    · exact Extent.agree_of_eq rfl
    · show x.Agree (items.mapM read) (items'.mapM read)
      induction alike with
      | nil => exact Extent.agree_of_eq rfl
      | @cons i i' items items' hi _ ih =>
        rw [List.mapM_cons, List.mapM_cons]
        refine (h.agrees x i i' hi).bind fun a _ => ?_
        exact ih.bind fun as _ => Extent.agree_of_eq rfl

/-! ### Sets -/

/-- The form of lists of texts that stand for a set. The items may be reordered and repeated. If
some are not texts, then the first of them is the failure, and it may be another in another order. -/
def set : Form where
  Fits := text.list.Fits
  Refuses := text.list.Refuses
  Alike x d d' := d = d' ∨ ∃ items items', d = .list items ∧ d' = .list items' ∧
    (∀ i, i ∈ items ↔ i ∈ items') ∧ (x = .outcome → ∀ i ∈ items, text.Fits i)
  alike_refl _ _ := .inl rfl

@[simp] theorem not_fits_set_null : ¬ set.Fits .null := nofun

theorem asIdSet_nil : asIdSet (.list []) = .ok ∅ := rfl

/-- Items that are all texts are the documents of a list of texts. -/
theorem exists_map_text {items : List Document} (h : ∀ i ∈ items, text.Fits i) :
    ∃ ss : List String, items = ss.map .text := by
  induction items with
  | nil => exact ⟨[], rfl⟩
  | cons i items ih =>
    obtain ⟨⟨s, rfl⟩, rest⟩ := List.forall_mem_cons.1 h
    obtain ⟨ss, rfl⟩ := ih rest
    exact ⟨s :: ss, rfl⟩

theorem asIdSet_map_text (ss : List String) :
    asIdSet (.list (ss.map .text)) = .ok (.ofList ss) := by
  rw [asIdSet, asList_map asText_text]
  rfl

theorem exists_asIdSet_eq_ok_iff {items : List Document} :
    (∃ s, asIdSet (.list items) = .ok s) ↔ ∀ i ∈ items, text.Fits i := by
  rw [asIdSet, (readBy_text.asList.map IdSet.ofList).accepts]
  simp only [list, Document.list.injEq, exists_eq_left']

theorem readBy_set : set.ReadBy asIdSet where
  accepts := (readBy_text.asList.map IdSet.ofList).accepts
  reports := (readBy_text.asList.map IdSet.ofList).reports
  agrees x d d' alike := by
    rcases alike with rfl | ⟨items, items', rfl, rfl, same, texts⟩
    · exact Extent.agree_of_eq rfl
    · have fits' : (∀ i ∈ items', text.Fits i) ↔ ∀ i ∈ items, text.Fits i := by
        simp only [same]
      by_cases fits : ∀ i ∈ items, text.Fits i
      · obtain ⟨ss, rfl⟩ := exists_map_text fits
        obtain ⟨ss', rfl⟩ := exists_map_text (fits'.2 fits)
        rw [asIdSet_map_text, asIdSet_map_text]
        refine Extent.agree_of_eq (congrArg Except.ok (IdSet.ext fun s => ?_))
        simpa [IdSet.mem_ofList] using same (.text s)
      · -- Neither list is read, and then it does not matter which item is the failure.
        refine Extent.agree_of_failures (fun exact => fits (texts exact)) ?_ ?_
        · rwa [exists_asIdSet_eq_ok_iff]
        · rwa [exists_asIdSet_eq_ok_iff, fits']

end

end Form

end Reconciler
