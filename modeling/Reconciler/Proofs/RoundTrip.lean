import Reconciler.Persist.Records
import Reconciler.Text.Digits
import Mathlib.Tactic.Common

/-!
# Persisted values survive

What is written as a document reads as the same value, with one exception: a status that carries one
of the four words that are acted upon as if it were any other word reads as the status of that word.
What has been read is free of such statuses, and it is within the range of numbers, so that it reads
the same again and again.

## What is proved

* `asOption_ofOption`, `asList_map`, `asIdSet_ofIdSet`, `asNatural_ofNatural`: the pieces of records
  read as they were written.
* `InstanceSpec.decode_encode`, `InstanceState.decode_encode` and their companions: so do records.
* `Decoded.Ensures`, `ItemReader.Ensures`: what is known of a value that was read.
* `persisted_survives`: both for all that is persisted.
-/

namespace Reconciler

open Document (asText asBoolean asNatural asOption asList asIdSet ofOption ofNatural ofIdSet)

/-! ### Statuses -/

namespace Status

/-- The words that are acted upon. -/
def words : List String := ["BUILD", "ACTIVE", "SHUTOFF", "ERROR"]

/-- The status carries a word that is acted upon as if it were any other. -/
def Misnamed (s : Status) : Prop := ∃ w ∈ words, s = .other w

/-- The status that the provider means. -/
def named : Status → Status
  | .other "BUILD" => .build
  | .other "ACTIVE" => .active
  | .other "SHUTOFF" => .shutoff
  | .other "ERROR" => .error
  | s => s

theorem misnamed_iff {s : Status} : s.Misnamed ↔
    s = .other "BUILD" ∨ s = .other "ACTIVE" ∨ s = .other "SHUTOFF" ∨ s = .other "ERROR" := by
  simp [Misnamed, words]

/-- Every other status is the one that the provider means. -/
theorem named_eq_self {s : Status} (h : ¬ s.Misnamed) : s.named = s := by
  simp only [misnamed_iff, not_or] at h
  rw [named]
  · exact h.1
  · exact h.2.1
  · exact h.2.2.1
  · exact h.2.2.2

/-- The status that the provider means carries no word that is acted upon. -/
theorem not_misnamed_named (s : Status) : ¬ s.named.Misnamed := by
  by_cases h : s.Misnamed
  · rcases misnamed_iff.1 h with rfl | rfl | rfl | rfl <;> simp [named, misnamed_iff]
  · rwa [named_eq_self h]

theorem named_eq_self_iff (s : Status) : s.named = s ↔ ¬ s.Misnamed :=
  ⟨fun h => h ▸ s.not_misnamed_named, named_eq_self⟩

/-- Reading the word of a status gives the status that the provider means. -/
theorem normalize_eq_named (s : Status) : s.normalize = s.named := by
  by_cases h : s.Misnamed
  · rcases misnamed_iff.1 h with rfl | rfl | rfl | rfl <;> rfl
  · rw [named_eq_self h]
    cases s with
    | other w =>
      simp only [misnamed_iff, not_or, other.injEq] at h
      simp only [normalize, word, ofWord, h, if_false]
    | build | active | shutoff | error => rfl

/-- A word that is read gives the status that the provider means. -/
theorem named_ofWord (w : String) : (ofWord w).named = ofWord w := by
  rw [← normalize_eq_named, normalize, word_ofWord]

end Status

/-! ### The pieces of records -/

section

variable {α : Type} {read : Document → Decoded α} {write : α → Document}

theorem asText_text (s : String) : asText (.text s) = .ok s := rfl

theorem asOption_ofOption (h : ∀ a, read (write a) = .ok a) (present : ∀ a, write a ≠ .null)
    (o : Option α) : asOption read (ofOption write o) = .ok o := by
  cases o with
  | none => rfl
  | some a =>
    have reads : asOption read (write a) = (read (write a)).map some := by
      rw [asOption]
      exact present a
    rw [ofOption, reads, h]
    rfl

theorem asList_map (h : ∀ a, read (write a) = .ok a) (as : List α) :
    asList read (.list (as.map write)) = .ok as := by
  show (as.map write).mapM read = .ok as
  induction as with
  | nil => rfl
  | cons a as ih =>
    rw [List.map_cons, List.mapM_cons, h, ih]
    rfl

theorem asIdSet_ofIdSet (s : IdSet) : asIdSet (ofIdSet s) = .ok s := by
  have members : asList asText (.list (s.members.map .text)) = .ok s.members :=
    asList_map asText_text s.members
  rw [asIdSet, ofIdSet, members]
  exact congrArg Except.ok s.ofList_members

theorem asNatural_ofNatural {n : Nat} (h : n < wordLimit) : asNatural (ofNatural n) = .ok n := by
  have limit : Int.pow 2 64 = (wordLimit : Int) := by decide
  have fits : 0 ≤ (n : Int) ∧ (n : Int) < Int.pow 2 64 := by omega
  rw [ofNatural, asNatural, if_pos fits]
  rfl

theorem asOption_text (o : Option String) : asOption asText (ofOption .text o) = .ok o :=
  asOption_ofOption asText_text (fun _ => nofun) o

namespace Fields

@[simp] theorem field?_cons_self (name : String) (d : Document) (fields : Fields) :
    field? ((name, d) :: fields) name read = (read d).map some := by
  rw [field?, List.lookup_cons_self]

@[simp] theorem field?_cons_of_ne {name other : String} (h : name ≠ other) (d : Document)
    (fields : Fields) : field? ((other, d) :: fields) name read = field? fields name read := by
  rw [field?, List.lookup_cons, (beq_eq_false_iff_ne ..).2 h, field?]

end Fields

end

/-! ### Records -/

theorem NetworkRequest.decode_encode (r : NetworkRequest) : decode r.encode = .ok r := by
  show ofFields _ = _
  simp only [ofFields, Fields.field?_cons_self, Fields.field?_cons_of_ne, ne_eq, String.reduceEq,
    not_false_eq_true, asOption_text]
  rfl

theorem NetworkAttachment.decode_encode (a : NetworkAttachment) : decode a.encode = .ok a := by
  show ofFields _ = _
  simp only [ofFields, Fields.field?_cons_self, Fields.field?_cons_of_ne, ne_eq, String.reduceEq,
    not_false_eq_true]
  rfl

theorem FloatingIpBinding.decode_encode (b : FloatingIpBinding) : decode b.encode = .ok b := by
  show ofFields _ = _
  simp only [ofFields, Fields.field?_cons_self, Fields.field?_cons_of_ne, ne_eq, String.reduceEq,
    not_false_eq_true]
  rfl

theorem asOption_binding (o : Option FloatingIpBinding) :
    asOption FloatingIpBinding.decode (ofOption FloatingIpBinding.encode o) = .ok o :=
  asOption_ofOption FloatingIpBinding.decode_encode (fun _ => nofun) o

theorem InstanceSpec.decode_encode {s : InstanceSpec} (h : s.diskSize < wordLimit) :
    decode s.encode = .ok s := by
  show ofFields _ = _
  simp only [ofFields, Fields.field?_cons_self, Fields.field?_cons_of_ne, ne_eq, String.reduceEq,
    not_false_eq_true, asOption_text, asOption_binding, asIdSet_ofIdSet, asNatural_ofNatural h,
    asList_map NetworkRequest.decode_encode]
  rfl

/-- The state with the status that the provider means. -/
def InstanceState.settled (s : InstanceState) : InstanceState := { s with status := s.status.named }

theorem InstanceState.decode_encode {s : InstanceState} (h : s.applied.diskSize < wordLimit) :
    decode s.encode = .ok s.settled := by
  show ofFields _ = _
  simp only [ofFields, Fields.field?_cons_self, Fields.field?_cons_of_ne, ne_eq, String.reduceEq,
    not_false_eq_true, asOption_text, asOption_binding, asIdSet_ofIdSet,
    InstanceSpec.decode_encode h, asList_map NetworkAttachment.decode_encode]
  rw [settled, ← Status.normalize_eq_named]
  rfl

/-! ### What is known of a value that was read -/

/-- **Reading ensures a property**: the value has it, if there is one. -/
def Decoded.Ensures {α : Type} (x : Decoded α) (P : α → Prop) : Prop := ∀ a, x = .ok a → P a

/-- The same for a reader of items, wherever it starts. -/
def ItemReader.Ensures {α : Type} (r : ItemReader α) (P : α → Prop) : Prop :=
  ∀ cursor, Decoded.Ensures (r cursor) fun (a, _) => P a

/-- The reader of items gives the value where it starts at some item. -/
def ItemReader.Gives {α : Type} (r : ItemReader α) (a : α) : Prop :=
  ∃ cursor rest, r cursor = .ok (a, rest)

section

variable {α β : Type} {P : α → Prop} {Q : β → Prop} {read : Document → Decoded α}

namespace Decoded

theorem ensures_ok {a : α} (h : P a) : Ensures (.ok a) P := by
  rintro _ ⟨⟩
  exact h

theorem ensures_bind {x : Decoded α} {f : α → Decoded β} (h : ∀ a, x = .ok a → Ensures (f a) Q) :
    Ensures (x >>= f) Q := by
  cases x with
  | error e => exact nofun
  | ok a => exact h a rfl

theorem Ensures.map {x : Decoded α} {f : α → β} (h : Ensures x fun a => Q (f a)) :
    Ensures (x.map f) Q := by
  cases x with
  | error e => exact nofun
  | ok a => exact ensures_ok (h a rfl)

/-- A field that was read and then required has what its reader ensures. -/
theorem of_required (h : ∀ d, Ensures (read d) P) {fields : Fields} {name name' : String}
    {o : Option α} {a : α} (present : fields.field? name read = .ok o)
    (given : required name' o = .ok a) : P a := by
  have ensured : Ensures (fields.field? name read) fun o => ∀ a ∈ o, P a := by
    rw [Fields.field?]
    cases fields.lookup name with
    | none => exact ensures_ok nofun
    | some d => exact Ensures.map fun a ha => by simpa using h d a ha
  cases o with
  | none => nomatch given
  | some b =>
    obtain rfl := Except.ok.inj given
    exact ensured _ present b rfl

theorem ensures_asNatural (d : Document) : Ensures (asNatural d) (· < wordLimit) := by
  cases d with
  | integer i =>
    rw [asNatural]
    split_ifs with fits
    · have limit : Int.pow 2 64 = (wordLimit : Int) := by decide
      exact ensures_ok (by omega)
    · exact nofun
  | _ => exact nofun

end Decoded

namespace ItemReader

theorem ensures_pure {a : α} (h : P a) : Ensures (pure a) P :=
  fun _ => Decoded.ensures_ok h

theorem ensures_bind {r : ItemReader α} {f : α → ItemReader β}
    (h : ∀ a, r.Gives a → Ensures (f a) Q) : Ensures (r >>= f) Q := fun cursor =>
  Decoded.ensures_bind fun (a, rest) given => h a ⟨cursor, rest, given⟩ rest

theorem Ensures.of_gives {r : ItemReader α} {a : α} (h : r.Ensures P) (given : r.Gives a) :
    P a := by
  obtain ⟨cursor, rest, given⟩ := given
  exact h cursor _ given

theorem ensures_item {s : RecordShape} (h : ∀ d, Decoded.Ensures (read d) P) :
    Ensures (s.item read) P := by
  intro cursor
  rw [RecordShape.item]
  cases cursor.rest with
  | nil => exact nofun
  | cons d rest => exact Decoded.Ensures.map (h d)

end ItemReader

/-- A record is known by what its two readers ensure. -/
theorem RecordShape.ensures_read {s : RecordShape} {ofFields : Fields → Decoded α}
    {ofItems : ItemReader α} (hf : ∀ fields, Decoded.Ensures (ofFields fields) P)
    (hi : ofItems.Ensures P) (d : Document) : Decoded.Ensures (s.read ofFields ofItems d) P := by
  cases d with
  | record fields => exact hf fields
  | list items =>
    refine Decoded.ensures_bind fun (a, cursor) given => ?_
    dsimp only
    split_ifs
    · exact Decoded.ensures_ok (hi _ _ given)
    · exact nofun
  | _ => exact nofun

end

/-- The size of a disk that was read is within the range of numbers. -/
theorem InstanceSpec.ensures_decode (d : Document) :
    Decoded.Ensures (decode d) fun s => s.diskSize < wordLimit := by
  -- Only what was read as a number counts, wherever it stands among the fields.
  refine RecordShape.ensures_read (fun fields => ?_) ?_ d
  · rw [ofFields]
    repeat refine Decoded.ensures_bind fun _ _ => ?_
    exact Decoded.ensures_ok (Decoded.of_required Decoded.ensures_asNatural ‹_› ‹_›)
  · rw [ofItems]
    repeat refine ItemReader.ensures_bind fun _ _ => ?_
    have size : ItemReader.Ensures (shape.item asNatural) (· < wordLimit) :=
      ItemReader.ensures_item Decoded.ensures_asNatural
    exact ItemReader.ensures_pure (size.of_gives ‹_›)

/-- A state that was read has a status that the provider means, and so on for its configuration. -/
theorem InstanceState.ensures_decode (d : Document) : Decoded.Ensures (decode d) fun s =>
    s.applied.diskSize < wordLimit ∧ s.status.named = s.status := by
  refine RecordShape.ensures_read (fun fields => ?_) ?_ d
  · rw [ofFields]
    repeat refine Decoded.ensures_bind fun _ _ => ?_
    have applied := Decoded.of_required InstanceSpec.ensures_decode ‹_› ‹_›
    exact Decoded.ensures_ok ⟨applied, Status.named_ofWord _⟩
  · rw [ofItems]
    repeat refine ItemReader.ensures_bind fun _ _ => ?_
    have applied : ItemReader.Ensures (shape.item InstanceSpec.decode) fun s =>
        s.diskSize < wordLimit := ItemReader.ensures_item InstanceSpec.ensures_decode
    exact ItemReader.ensures_pure ⟨applied.of_gives ‹_›, Status.named_ofWord _⟩

/-! ### All that is persisted -/

/-- **Values survive**: each that `fits` reads as what it settles to once it is written, and each
that was read reads the same again. -/
structure Survives (α : Type) [Persisted α] (fits : α → Prop) (settle : α → α) : Prop where
  /-- What is written can be read. -/
  written (a : α) (h : fits a) : Persisted.decode (Persisted.encode a) = .ok (settle a)
  /-- What was read reads the same again. -/
  read (d : Document) (a : α) (h : Persisted.decode d = .ok a) :
    Persisted.decode (Persisted.encode a) = .ok a

/-- Values survive if those that were read fit and are settled. -/
theorem survives_of_ensures {α : Type} [Persisted α] {fits : α → Prop} {settle : α → α}
    (written : ∀ a, fits a → Persisted.decode (Persisted.encode a) = .ok (settle a))
    (h : ∀ d : Document, Decoded.Ensures (Persisted.decode d) fun a : α =>
      fits a ∧ settle a = a) : Survives α fits settle where
  written := written
  read d a ha := by
    obtain ⟨fit, settled⟩ := h d a ha
    rw [written a fit, settled]

/-- Values survive as they are if each reads as it was written. -/
theorem survives_of_decode_encode {α : Type} [Persisted α]
    (h : ∀ a : α, Persisted.decode (Persisted.encode a) = .ok a) :
    Survives α (fun _ => True) id :=
  survives_of_ensures (fun a _ => h a) fun _ _ _ => ⟨trivial, rfl⟩

/-- **All that is persisted survives**: tracked states and configurations with a disk whose size is
within the range of numbers, their parts, statuses and identifiers. They survive as they are, but
for a status that carries a word that is acted upon as if it were any other: the status that the
provider means takes its place, and only then does a state or a status not read as it was. -/
theorem persisted_survives :
    Survives InstanceState (·.applied.diskSize < wordLimit) InstanceState.settled ∧
    Survives InstanceSpec (·.diskSize < wordLimit) id ∧
    Survives NetworkRequest (fun _ => True) id ∧
    Survives NetworkAttachment (fun _ => True) id ∧
    Survives FloatingIpBinding (fun _ => True) id ∧
    Survives Status (fun _ => True) Status.named ∧
    Survives InstanceId (fun _ => True) id ∧
    (∀ s : InstanceState, s.settled = s ↔ ¬ s.status.Misnamed) ∧
    ∀ s : Status, s.named = s ↔ ¬ s.Misnamed := by
  refine ⟨?_, ?_, ?_, ?_, ?_, ?_, ?_, fun s => ?_, Status.named_eq_self_iff⟩
  · refine survives_of_ensures (fun s h => InstanceState.decode_encode h) fun d s hs => ?_
    obtain ⟨hdisk, hstatus⟩ := InstanceState.ensures_decode d s hs
    exact ⟨hdisk, by rw [InstanceState.settled, hstatus]⟩
  · refine survives_of_ensures (fun s h => InstanceSpec.decode_encode h) fun d s hs => ?_
    exact ⟨InstanceSpec.ensures_decode d s hs, rfl⟩
  · exact survives_of_decode_encode NetworkRequest.decode_encode
  · exact survives_of_decode_encode NetworkAttachment.decode_encode
  · exact survives_of_decode_encode FloatingIpBinding.decode_encode
  · refine survives_of_ensures (fun s _ => congrArg Except.ok s.normalize_eq_named) fun d => ?_
    exact Decoded.Ensures.map fun w _ => ⟨trivial, Status.named_ofWord w⟩
  · exact survives_of_decode_encode asText_text
  · rw [← Status.named_eq_self_iff, InstanceState.settled]
    constructor
    · exact congrArg InstanceState.status
    · intro h
      rw [h]

-- The four words are not kept as words of any other status.
example : Persisted.decode (Persisted.encode (Status.other "SHUTOFF")) = .ok Status.shutoff := rfl

end Reconciler
