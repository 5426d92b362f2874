import Reconciler.Proofs.Grammar
import Mathlib.Data.List.Nodup
import Mathlib.Data.List.Perm.Subperm

/-!
# The grammar of records

A record is given by the rules of its fields in the order of declaration. From them follows which
records fit and which failure is reported for one that does not.

## The model

`FieldRule` is a field with its name, its form and, unless it must not be missing, what it is by
default. `Form.record` is the form of the records with given rules: `FieldsFit` and `FieldsRefuse`
speak of the fields of a record, whose own order is of no account, and `ItemsFit` and `ItemsRefuse`
of a list that stands for a record.

A reader of fields is described by the fields that it has not read (`unread`) and by those that it
has not required (`due`), in the order in which it does so.

## What is proved

* `ReadsOn.field`, `ReadsOn.fieldOr`, `ReadsOn.required`, `ReadsOn.pure`: what each step of a reader
  of fields does.
* `ReadsItems.item`, `ReadsItems.itemOr`, `ReadsItems.pure`: the same for a reader of items.
* `Form.readBy_record`: a record is read by its form if its two readers take these steps.
-/

namespace Reconciler

/-! ### Rules -/

/-- **A field of a record.** -/
structure FieldRule where
  /-- Its name. -/
  name : String
  /-- What its document is like. -/
  form : Form
  /-- What stands for it where it is missing, unless it must not be missing. -/
  default : Option Document

namespace FieldRule

/-- A field that must not be missing. -/
def required (name : String) (form : Form) : FieldRule := ⟨name, form, none⟩

/-- A field with a default. -/
def defaulted (name : String) (form : Form) (d : Document) : FieldRule := ⟨name, form, some d⟩

/-- A field that may be missing or nothing. -/
def optional (name : String) (form : Form) : FieldRule := defaulted name form.option .null

/-- The field is missing and must not be. -/
def isMissing (f : FieldRule) (fields : Fields) : Bool :=
  f.default.isNone && (fields.lookup f.name).isNone

/-- The field has its form if it is present. -/
def Fits (f : FieldRule) (fields : Fields) : Prop := ∀ d ∈ fields.lookup f.name, f.form.Fits d

/-- The field is present and does not have its form. -/
def Refuses (f : FieldRule) (fields : Fields) (e : DecodeError) : Prop :=
  ∃ d ∈ fields.lookup f.name, f.form.Refuses d e

/-- What the field is, or its default. -/
def document (f : FieldRule) (fields : Fields) : Option Document :=
  (fields.lookup f.name).or f.default

/-- The field is alike in two records. It may be missing in one of them and be like its default in
the other. -/
def Alike (f : FieldRule) (x : Extent) (fields fields' : Fields) : Prop :=
  Option.Rel (f.form.Alike x) (f.document fields) (f.document fields')

theorem alike_of_document_eq {f : FieldRule} {x : Extent} {fields fields' : Fields}
    (h : f.document fields = f.document fields') : f.Alike x fields fields' := by
  rw [Alike, h]
  cases f.document fields' with
  | none => exact .none
  | some d => exact .some (f.form.alike_refl x d)

end FieldRule

/-! ### Records with rules -/

/-- A record fits: its fields have their forms, and none is missing that must not be. -/
def FieldsFit (rules : List FieldRule) (fields : Fields) : Prop :=
  (∀ f ∈ rules, f.Fits fields) ∧ ∀ f ∈ rules, f.isMissing fields = false

/-- The failure for a record: that of the first field, by name, that does not have its form; or, if
there is none, that the first field in the order of declaration is missing. -/
def FieldsRefuse (rules : List FieldRule) (fields : Fields) (e : DecodeError) : Prop :=
  (∃ f ∈ rules, f.Refuses fields e ∧ ∀ g ∈ rules, g.name < f.name → g.Fits fields) ∨
  ((∀ f ∈ rules, f.Fits fields) ∧
    ∃ f, rules.find? (·.isMissing fields) = some f ∧ e = .missingField f.name)

/-- A list of items fits: each item has the form of its field, and only fields with a default are
left out at the end. -/
def ItemsFit : List FieldRule → List Document → Prop
  | [], items => items = []
  | f :: rules, [] => f.default.isSome ∧ ItemsFit rules []
  | f :: rules, d :: items => f.form.Fits d ∧ ItemsFit rules items

/-- The failure for a list of `total` items of which `position` went before. -/
def ItemsRefuse (shape : RecordShape) (total : Nat) :
    Nat → List FieldRule → List Document → DecodeError → Prop
  | _, [], items, e => items ≠ [] ∧ e = .wrongLength total "fewer elements in array"
  | position, f :: rules, [], e =>
    (f.default = none ∧ e = .wrongLength position shape.expectedItems) ∨
    (f.default.isSome ∧ ItemsRefuse shape total (position + 1) rules [] e)
  | position, f :: rules, d :: items, e =>
    f.form.Refuses d e ∨ (f.form.Fits d ∧ ItemsRefuse shape total (position + 1) rules items e)

/-- **The form of records with rules.** A list of items may stand for the record. -/
def Form.record (shape : RecordShape) (rules : List FieldRule) : Form where
  Fits
    | .record fields => FieldsFit rules fields
    | .list items => ItemsFit rules items
    | _ => False
  Refuses
    | .record fields, e => FieldsRefuse rules fields e
    | .list items, e => ItemsRefuse shape items.length 0 rules items e
    | d, e => e = .wrongKind d shape.expected
  Alike x
    | .record fields, .record fields' => ∀ f ∈ rules, f.Alike x fields fields'
    | d, d' => d = d'
  alike_refl x d := by
    cases d with
    | record fields => exact fun f _ => FieldRule.alike_of_document_eq rfl
    | _ => rfl

@[simp] theorem Form.not_fits_record_null {shape : RecordShape} {rules : List FieldRule} :
    ¬ (record shape rules).Fits .null :=
  id

/-! ### Readers of fields -/

section

variable {α β : Type} {x : Extent} {fields fields' : Fields} {due unread : List FieldRule}
  {f : FieldRule} {read : Document → Decoded β}

/-- The failure of a reader with fields that are still to be read and to be required. -/
def FirstReason (fields : Fields) (due : List FieldRule) : List FieldRule → DecodeError → Prop
  | [], e => ∃ f, due.find? (·.isMissing fields) = some f ∧ e = .missingField f.name
  | f :: unread, e => f.Refuses fields e ∨ (f.Fits fields ∧ FirstReason fields due unread e)

/-- What a reader says of two records of which fields are still to be read and to be required. -/
structure ReadsOn (x : Extent) (fields fields' : Fields) (due unread : List FieldRule)
    (m m' : Decoded α) : Prop where
  /-- The fields of the first decide the result. -/
  decides : Decided ((∀ f ∈ unread, f.Fits fields) ∧ ∀ f ∈ due, f.isMissing fields = false)
    (FirstReason fields due unread) m
  /-- The records are not told apart if the fields are alike. -/
  agrees : (∀ f ∈ unread, f.Alike x fields fields') → x.Agree m m'

theorem decided_field? (h : f.form.ReadBy read) :
    Decided (f.Fits fields) (f.Refuses fields) (fields.field? f.name read) := by
  rw [Fields.field?]
  cases hd : fields.lookup f.name with
  | none =>
    exact (Decided.ok none).congr (by simp [FieldRule.Fits, hd]) (by simp [FieldRule.Refuses, hd])
  | some d =>
    exact ((h.decides d).map some).congr (by simp [FieldRule.Fits, hd])
      (by simp [FieldRule.Refuses, hd])

theorem isSome_of_field? {name : String} {o : Option β}
    (h : fields.field? name read = .ok o) : o.isSome = (fields.lookup name).isSome := by
  rw [Fields.field?] at h
  cases hd : fields.lookup name with
  | none =>
    rw [hd] at h
    cases h
    rfl
  | some d =>
    simp only [hd] at h
    cases hr : read d with
    | error e =>
      rw [hr] at h
      cases h
    | ok b =>
      rw [hr] at h
      cases h
      rfl

theorem agree_field? (h : f.form.ReadBy read) (must : f.default = none)
    (alike : f.Alike x fields fields') :
    x.Agree (fields.field? f.name read) (fields'.field? f.name read) := by
  rw [FieldRule.Alike, FieldRule.document, FieldRule.document, must, Option.or_none,
    Option.or_none] at alike
  rw [Fields.field?, Fields.field?]
  generalize fields.lookup f.name = o at alike ⊢
  generalize fields'.lookup f.name = o' at alike ⊢
  cases alike with
  | none => exact Extent.agree_of_eq rfl
  | some alike => exact (h.agrees _ _ _ alike).map some

theorem map_getD_field? {d : Document} {b : β} (reads : read d = .ok b) (name : String) :
    (fields.field? name read).map (·.getD b) = read ((fields.lookup name).getD d) := by
  rw [Fields.field?]
  cases fields.lookup name with
  | none => exact reads.symm
  | some d' => cases h : read d' <;> simp [Except.map, h]

/-- One more field is to be read first. -/
theorem Decided.field {k : Option β → Decoded α} (h : f.form.ReadBy read)
    (next : ∀ o, o.isSome = (fields.lookup f.name).isSome →
      Decided ((∀ f ∈ unread, f.Fits fields) ∧ ∀ f ∈ due, f.isMissing fields = false)
        (FirstReason fields due unread) (k o)) :
    Decided ((∀ g ∈ f :: unread, g.Fits fields) ∧ ∀ f ∈ due, f.isMissing fields = false)
      (FirstReason fields due (f :: unread)) (fields.field? f.name read >>= k) := by
  refine ((decided_field? h).bind fun o ho => next o (isSome_of_field? ho)).congr ?_ fun e => .rfl
  rw [List.forall_mem_cons, and_assoc]

/-- A field that must not be missing is read. -/
theorem ReadsOn.field {k k' : Option β → Decoded α} (h : f.form.ReadBy read)
    (must : f.default = none)
    (next : ∀ o, o.isSome = (fields.lookup f.name).isSome →
      ReadsOn x fields fields' due unread (k o) (k' o)) :
    ReadsOn x fields fields' due (f :: unread) (fields.field? f.name read >>= k)
      (fields'.field? f.name read >>= k') where
  decides := Decided.field h fun o ho => (next o ho).decides
  agrees alike := by
    obtain ⟨hf, alike⟩ := List.forall_mem_cons.1 alike
    exact (agree_field? h must hf).bind fun o ho => (next o (isSome_of_field? ho)).agrees alike

/-- A field with a default is read. -/
theorem ReadsOn.fieldOr {k k' : Option β → Decoded α} {d : Document} {b : β}
    (h : f.form.ReadBy read) (default : f.default = some d) (reads : read d = .ok b)
    (next : ∀ o o', o.getD b = o'.getD b → ReadsOn x fields fields' due unread (k o) (k' o')) :
    ReadsOn x fields fields' due (f :: unread) (fields.field? f.name read >>= k)
      (fields'.field? f.name read >>= k') where
  decides := Decided.field h fun o _ => (next o o rfl).decides
  agrees alike := by
    obtain ⟨hf, alike⟩ := List.forall_mem_cons.1 alike
    rw [FieldRule.Alike, FieldRule.document, FieldRule.document, default, Option.or_some,
      Option.or_some] at hf
    refine Extent.Agree.bindOn (·.getD b) ?_ fun o o' _ ho => (next o o' ho).agrees alike
    rw [map_getD_field? reads, map_getD_field? reads]
    exact h.agrees _ _ _ (Option.rel_some_some.1 hf)

theorem ReadsOn.required {k k' : β → Decoded α} {o : Option β} (must : f.default = none)
    (ho : o.isSome = (fields.lookup f.name).isSome)
    (next : ∀ b, ReadsOn x fields fields' due [] (k b) (k' b)) :
    ReadsOn x fields fields' (f :: due) [] (required f.name o >>= k)
      (required f.name o >>= k') := by
  have missing : f.isMissing fields = !o.isSome := by
    rw [FieldRule.isMissing, must, ho]
    simp
  cases o with
  | none =>
    refine ⟨(Decided.error (.missingField f.name)).congr ?_ fun e => ?_,
      fun _ => Extent.agree_of_eq rfl⟩
    · simp [missing]
    · simp [FirstReason, missing]
  | some b =>
    refine ⟨(next b).decides.congr ?_ fun e => ?_, (next b).agrees⟩
    · simp [missing]
    · simp [FirstReason, missing]

theorem ReadsOn.pure {a b : α} (h : a = b) :
    ReadsOn x fields fields' [] [] (Pure.pure a) (Pure.pure b) where
  decides := (Decided.ok a).congr (by simp) (by simp [FirstReason])
  agrees _ := Extent.agree_of_eq (congrArg Except.ok h)

end

/-! ### Readers of items -/

section

variable {α β : Type} {shape : RecordShape} {total position : Nat} {rules : List FieldRule}
  {items : List Document} {f : FieldRule} {read : Document → Decoded β}

/-- The result of reading a list of `total` items, of which none may be left. -/
def finish (total : Nat) (m : Decoded (α × ItemCursor)) : Decoded α := do
  let (a, cursor) ← m
  if cursor.rest.isEmpty then return a
  else .error (.wrongLength total "fewer elements in array")

/-- What a reader says of a list, wherever it starts. -/
def ReadsItems (shape : RecordShape) (total : Nat) (rules : List FieldRule)
    (r : ItemReader α) : Prop :=
  ∀ position items, Decided (ItemsFit rules items) (ItemsRefuse shape total position rules items)
    (finish total (r ⟨position, items⟩))

/-- There is an item. -/
theorem ReadsItems.cons {k : β → ItemReader α} {d : Document} (h : f.form.ReadBy read)
    (next : ∀ b, ReadsItems shape total rules (k b)) :
    Decided (ItemsFit (f :: rules) (d :: items))
      (ItemsRefuse shape total position (f :: rules) (d :: items))
      (finish total
        ((read d).map (·, ⟨position + 1, items⟩) >>= fun (b, cursor) => k b cursor)) := by
  have steps : finish total
        ((read d).map (·, ⟨position + 1, items⟩) >>= fun (b, cursor) => k b cursor) =
      read d >>= fun b => finish total (k b ⟨position + 1, items⟩) := by
    cases read d <;> rfl
  rw [steps]
  exact (h.decides d).bind fun b _ => next b (position + 1) items

theorem ReadsItems.item {k : β → ItemReader α} (h : f.form.ReadBy read) (must : f.default = none)
    (next : ∀ b, ReadsItems shape total rules (k b)) :
    ReadsItems shape total (f :: rules) (shape.item read >>= k) := by
  intro position items
  cases items with
  | cons d items => exact ReadsItems.cons h next
  | nil =>
    exact (Decided.error (.wrongLength position shape.expectedItems)).congr
      (by simp [ItemsFit, must]) (by simp [ItemsRefuse, must])

/-- An item that may be missing is read. -/
theorem ReadsItems.itemOr {k : β → ItemReader α} {b : β} (h : f.form.ReadBy read)
    (default : f.default.isSome) (next : ∀ b, ReadsItems shape total rules (k b)) :
    ReadsItems shape total (f :: rules) (itemOr b read >>= k) := by
  intro position items
  cases items with
  | cons d items => exact ReadsItems.cons h next
  | nil =>
    have given : f.default ≠ none := Option.isSome_iff_ne_none.1 default
    exact (next b (position + 1) []).congr (by simp [ItemsFit, default])
      (by simp [ItemsRefuse, default, given])

theorem ReadsItems.pure {a : α} : ReadsItems shape total [] (Pure.pure a : ItemReader α) := by
  intro position items
  cases items with
  | nil => exact (Decided.ok a).congr (by simp [ItemsFit]) (by simp [ItemsRefuse])
  | cons d items =>
    exact (Decided.error (.wrongLength total "fewer elements in array")).congr
      (by simp [ItemsFit]) (by simp [ItemsRefuse])

end

/-! ### Readers of records -/

section

variable {α : Type} {fields : Fields} {due unread rules : List FieldRule} {e : DecodeError}

/-- In ascending order of names, the first reason for a failure is that of the least name. -/
theorem firstReason_iff (ascending : unread.Pairwise (·.name < ·.name)) :
    FirstReason fields due unread e ↔
      (∃ f ∈ unread, f.Refuses fields e ∧ ∀ g ∈ unread, g.name < f.name → g.Fits fields) ∨
      ((∀ f ∈ unread, f.Fits fields) ∧
        ∃ f, due.find? (·.isMissing fields) = some f ∧ e = .missingField f.name) := by
  induction unread with
  | nil => simp [FirstReason]
  | cons f unread ih =>
    obtain ⟨least, ascending⟩ := List.pairwise_cons.1 ascending
    rw [FirstReason, ih ascending]
    constructor
    · rintro (refused | ⟨fit, ⟨f', hf', refused, before⟩ | ⟨fits, missing⟩⟩)
      · refine .inl ⟨f, List.mem_cons_self, refused, fun g hg lt => ?_⟩
        rcases List.mem_cons.1 hg with rfl | hg
        · exact absurd lt (String.lt_irrefl _)
        · exact absurd lt (String.lt_asymm (least g hg))
      · exact .inl ⟨f', List.mem_cons_of_mem f hf', refused,
          List.forall_mem_cons.2 ⟨fun _ => fit, before⟩⟩
      · exact .inr ⟨List.forall_mem_cons.2 ⟨fit, fits⟩, missing⟩
    · rintro (⟨f', hf', refused, before⟩ | ⟨fits, missing⟩)
      · obtain ⟨first, before⟩ := List.forall_mem_cons.1 before
        rcases List.mem_cons.1 hf' with rfl | hf'
        · exact .inl refused
        · exact .inr ⟨first (least f' hf'), .inl ⟨f', hf', refused, before⟩⟩
      · obtain ⟨fit, fits⟩ := List.forall_mem_cons.1 fits
        exact .inr ⟨fit, .inr ⟨fits, missing⟩⟩

theorem find?_filter_isMissing :
    (rules.filter (·.default.isNone)).find? (·.isMissing fields) =
      rules.find? (·.isMissing fields) := by
  rw [List.find?_filter]
  congr 1
  funext f
  rw [FieldRule.isMissing]
  cases f.default.isNone <;> simp

theorem forall_filter_isMissing :
    (∀ f ∈ rules.filter (·.default.isNone), f.isMissing fields = false) ↔
      ∀ f ∈ rules, f.isMissing fields = false := by
  simp only [List.mem_filter, and_imp]
  refine forall₂_congr fun f _ => ⟨fun h => ?_, fun h _ => h⟩
  by_cases hf : f.default.isNone
  · exact h hf
  · simp [FieldRule.isMissing, hf]

/-- A list of fields of a record in ascending order of their names has all of them if it is as long
as theirs. -/
theorem mem_iff_of_ascending {byName : List FieldRule} (within : byName ⊆ rules)
    (length : rules.length ≤ byName.length) (ascending : byName.Pairwise (·.name < ·.name))
    (f : FieldRule) : f ∈ byName ↔ f ∈ rules := by
  have nodup : byName.Nodup := by
    refine ascending.imp ?_
    rintro f g lt rfl
    exact String.lt_irrefl _ lt
  exact ((List.subperm_of_subset nodup within).perm_of_length_le length).mem_iff

/-- **A record is read by its form** if a reader takes its fields one after another in ascending
order of their names and requires those without a default in the order of declaration, and another
takes the items in the order of declaration. -/
theorem Form.readBy_record {shape : RecordShape} {ofFields : Fields → Decoded α}
    {ofItems : ItemReader α} (byName : List FieldRule) (within : byName ⊆ rules)
    (length : rules.length ≤ byName.length) (ascending : byName.Pairwise (·.name < ·.name))
    (hf : ∀ x fields fields', ReadsOn x fields fields' (rules.filter (·.default.isNone)) byName
      (ofFields fields) (ofFields fields'))
    (hi : ∀ total, ReadsItems shape total rules ofItems) :
    (record shape rules).ReadBy (shape.read ofFields ofItems) := by
  have same : ∀ f, f ∈ byName ↔ f ∈ rules := mem_iff_of_ascending within length ascending
  refine readBy_of_decides (fun d => ?_) fun x d d' alike => ?_
  · cases d with
    | record fields =>
      refine (hf .outcome fields fields).decides.congr ?_ fun e => ?_
      · simp only [same, forall_filter_isMissing]
        exact Iff.rfl
      · simp only [firstReason_iff ascending, same, find?_filter_isMissing]
        exact Iff.rfl
    | list items => exact hi items.length 0 items
    | _ => exact (Decided.error _).congr (by simp [record]) (by simp [record])
  · cases d with
    | record fields =>
      cases d' with
      | record fields' => exact (hf x fields fields').agrees fun f hf => alike f (within hf)
      | _ => exact Extent.agree_of_eq (congrArg _ alike)
    | _ => exact Extent.agree_of_eq (congrArg _ alike)

end

end Reconciler
