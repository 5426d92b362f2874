import Reconciler.Proofs.Grammar.Records

/-!
# The grammar of what is persisted

Configurations and tracked states are read from exactly the documents of their grammar, and so are
their parts.

## The model

The rules of each record are listed in the order of declaration. The proof that a record is read by
its form gives them in ascending order of their names as well, in which its reader takes them.

## What is proved

* `InstanceSpec.readBy_form`, `InstanceState.readBy_form` and their companions: each record is read
  by its form.
* `persisted_accepts_grammar`: which records are accepted, which failure is reported for the others
  and what makes no difference.
-/

namespace Reconciler

open Document (asText asBoolean asNatural asOption asList asIdSet)
open Form (asIdSet_nil asList_nil readBy_boolean readBy_natural readBy_set readBy_text)

/-! ### Rules -/

/-- The fields of a network request. -/
def NetworkRequest.rules : List FieldRule := [
  .required "network_id" .text,
  .optional "ip" .text,
  .defaulted "port_security_enabled" .boolean (.boolean false)]

/-- The form of network requests. -/
def NetworkRequest.form : Form := .record shape rules

/-- The fields of a network attachment. -/
def NetworkAttachment.rules : List FieldRule := [
  .required "network_id" .text,
  .required "subnet_id" .text,
  .required "port_id" .text,
  .required "ip" .text,
  .required "is_public" .boolean,
  .required "port_security_enabled" .boolean]

/-- The form of network attachments. -/
def NetworkAttachment.form : Form := .record shape rules

/-- The fields of the binding of a floating address. -/
def FloatingIpBinding.rules : List FieldRule := [
  .required "floating_ip_id" .text,
  .required "network_id" .text]

/-- The form of bindings of floating addresses. -/
def FloatingIpBinding.form : Form := .record shape rules

/-- The fields of a configuration. -/
def InstanceSpec.rules : List FieldRule := [
  .required "region" .text,
  .required "name" .text,
  .required "image_id" .text,
  .required "flavor_id" .text,
  .required "disk_size" .natural,
  .optional "init_script" .text,
  .optional "ssh_key_name" .text,
  .defaulted "security_groups" .set (.list []),
  .defaulted "networks" NetworkRequest.form.list (.list []),
  .defaulted "volumes" .set (.list []),
  .optional "floating_ip" FloatingIpBinding.form,
  .optional "server_group_id" .text,
  .optional "dedicated_server_id" .text,
  .optional "revert_to_snapshot_id" .text,
  .optional "snapshot_id" .text,
  .defaulted "enable_ipv4" .boolean (.boolean false),
  .defaulted "enable_ipv6" .boolean (.boolean false)]

/-- The form of configurations. -/
def InstanceSpec.form : Form := .record shape rules

/-- The fields of a tracked state. -/
def InstanceState.rules : List FieldRule := [
  .required "id" .text,
  .optional "task_id" .text,
  .required "status" .text,
  .optional "cluster_id" .text,
  .optional "password" .text,
  .required "applied" InstanceSpec.form,
  .defaulted "networks" NetworkAttachment.form.list (.list []),
  .defaulted "volumes" .set (.list []),
  .defaulted "security_groups" .set (.list []),
  .optional "floating_ip" FloatingIpBinding.form]

/-- The form of tracked states. -/
def InstanceState.form : Form := .record shape rules

/-! ### Readers -/

theorem NetworkRequest.readBy_form : form.ReadBy decode := by
  refine Form.readBy_record [
      .optional "ip" .text,
      .required "network_id" .text,
      .defaulted "port_security_enabled" .boolean (.boolean false)]
    (by simp only [rules, List.cons_subset, List.mem_cons, List.nil_subset, true_or, or_true,
      and_self]) (by decide) (by decide) (fun x fields fields' => ?_) fun total => ?_
  · refine ReadsOn.fieldOr readBy_text.asOption rfl rfl fun ip ip' hip => ?_
    refine ReadsOn.field readBy_text rfl fun networkId hnetwork => ?_
    refine ReadsOn.fieldOr readBy_boolean rfl rfl fun secure secure' hsecure => ?_
    refine ReadsOn.required rfl hnetwork fun networkId => ?_
    exact ReadsOn.pure (by rw [hip, hsecure])
  · refine ReadsItems.item readBy_text rfl fun networkId => ?_
    refine ReadsItems.itemOr readBy_text.asOption rfl fun ip => ?_
    refine ReadsItems.itemOr readBy_boolean rfl fun secure => ?_
    exact ReadsItems.pure

theorem NetworkAttachment.readBy_form : form.ReadBy decode := by
  refine Form.readBy_record [
      .required "ip" .text,
      .required "is_public" .boolean,
      .required "network_id" .text,
      .required "port_id" .text,
      .required "port_security_enabled" .boolean,
      .required "subnet_id" .text]
    (by simp only [rules, List.cons_subset, List.mem_cons, List.nil_subset, true_or, or_true,
      and_self]) (by decide) (by decide) (fun x fields fields' => ?_) fun total => ?_
  · refine ReadsOn.field readBy_text rfl fun ip hip => ?_
    refine ReadsOn.field readBy_boolean rfl fun isPublic hpublic => ?_
    refine ReadsOn.field readBy_text rfl fun networkId hnetwork => ?_
    refine ReadsOn.field readBy_text rfl fun portId hport => ?_
    refine ReadsOn.field readBy_boolean rfl fun secure hsecure => ?_
    refine ReadsOn.field readBy_text rfl fun subnetId hsubnet => ?_
    refine ReadsOn.required rfl hnetwork fun networkId => ?_
    refine ReadsOn.required rfl hsubnet fun subnetId => ?_
    refine ReadsOn.required rfl hport fun portId => ?_
    refine ReadsOn.required rfl hip fun ip => ?_
    refine ReadsOn.required rfl hpublic fun isPublic => ?_
    refine ReadsOn.required rfl hsecure fun secure => ?_
    exact ReadsOn.pure rfl
  · refine ReadsItems.item readBy_text rfl fun networkId => ?_
    refine ReadsItems.item readBy_text rfl fun subnetId => ?_
    refine ReadsItems.item readBy_text rfl fun portId => ?_
    refine ReadsItems.item readBy_text rfl fun ip => ?_
    refine ReadsItems.item readBy_boolean rfl fun isPublic => ?_
    refine ReadsItems.item readBy_boolean rfl fun secure => ?_
    exact ReadsItems.pure

theorem FloatingIpBinding.readBy_form : form.ReadBy decode := by
  refine Form.readBy_record [
      .required "floating_ip_id" .text,
      .required "network_id" .text]
    (by simp only [rules, List.cons_subset, List.mem_cons, List.nil_subset, true_or, or_true,
      and_self]) (by decide) (by decide) (fun x fields fields' => ?_) fun total => ?_
  · refine ReadsOn.field readBy_text rfl fun floatingIpId hfloating => ?_
    refine ReadsOn.field readBy_text rfl fun networkId hnetwork => ?_
    refine ReadsOn.required rfl hfloating fun floatingIpId => ?_
    refine ReadsOn.required rfl hnetwork fun networkId => ?_
    exact ReadsOn.pure rfl
  · refine ReadsItems.item readBy_text rfl fun floatingIpId => ?_
    refine ReadsItems.item readBy_text rfl fun networkId => ?_
    exact ReadsItems.pure

theorem InstanceSpec.readBy_form : form.ReadBy decode := by
  refine Form.readBy_record [
      .optional "dedicated_server_id" .text,
      .required "disk_size" .natural,
      .defaulted "enable_ipv4" .boolean (.boolean false),
      .defaulted "enable_ipv6" .boolean (.boolean false),
      .required "flavor_id" .text,
      .optional "floating_ip" FloatingIpBinding.form,
      .required "image_id" .text,
      .optional "init_script" .text,
      .required "name" .text,
      .defaulted "networks" NetworkRequest.form.list (.list []),
      .required "region" .text,
      .optional "revert_to_snapshot_id" .text,
      .defaulted "security_groups" .set (.list []),
      .optional "server_group_id" .text,
      .optional "snapshot_id" .text,
      .optional "ssh_key_name" .text,
      .defaulted "volumes" .set (.list [])]
    (by simp only [rules, List.cons_subset, List.mem_cons, List.nil_subset, true_or, or_true,
      and_self]) (by decide) (by decide) (fun x fields fields' => ?_) fun total => ?_
  · refine ReadsOn.fieldOr readBy_text.asOption rfl rfl fun dedicated dedicated' hdedicated => ?_
    refine ReadsOn.field readBy_natural rfl fun disk hdisk => ?_
    refine ReadsOn.fieldOr readBy_boolean rfl rfl fun four four' hfour => ?_
    refine ReadsOn.fieldOr readBy_boolean rfl rfl fun six six' hsix => ?_
    refine ReadsOn.field readBy_text rfl fun flavor hflavor => ?_
    refine ReadsOn.fieldOr FloatingIpBinding.readBy_form.asOption rfl rfl
      fun floating floating' hfloating => ?_
    refine ReadsOn.field readBy_text rfl fun image himage => ?_
    refine ReadsOn.fieldOr readBy_text.asOption rfl rfl fun script script' hscript => ?_
    refine ReadsOn.field readBy_text rfl fun name hname => ?_
    refine ReadsOn.fieldOr NetworkRequest.readBy_form.asList rfl asList_nil
      fun networks networks' hnetworks => ?_
    refine ReadsOn.field readBy_text rfl fun region hregion => ?_
    refine ReadsOn.fieldOr readBy_text.asOption rfl rfl fun revert revert' hrevert => ?_
    refine ReadsOn.fieldOr readBy_set rfl asIdSet_nil fun groups groups' hgroups => ?_
    refine ReadsOn.fieldOr readBy_text.asOption rfl rfl fun peers peers' hpeers => ?_
    refine ReadsOn.fieldOr readBy_text.asOption rfl rfl fun snapshot snapshot' hsnapshot => ?_
    refine ReadsOn.fieldOr readBy_text.asOption rfl rfl fun key key' hkey => ?_
    refine ReadsOn.fieldOr readBy_set rfl asIdSet_nil fun volumes volumes' hvolumes => ?_
    refine ReadsOn.required rfl hregion fun region => ?_
    refine ReadsOn.required rfl hname fun name => ?_
    refine ReadsOn.required rfl himage fun image => ?_
    refine ReadsOn.required rfl hflavor fun flavor => ?_
    refine ReadsOn.required rfl hdisk fun disk => ?_
    exact ReadsOn.pure (by rw [hdedicated, hfour, hsix, hfloating, hscript, hnetworks, hrevert,
      hgroups, hpeers, hsnapshot, hkey, hvolumes])
  · refine ReadsItems.item readBy_text rfl fun region => ?_
    refine ReadsItems.item readBy_text rfl fun name => ?_
    refine ReadsItems.item readBy_text rfl fun image => ?_
    refine ReadsItems.item readBy_text rfl fun flavor => ?_
    refine ReadsItems.item readBy_natural rfl fun disk => ?_
    refine ReadsItems.itemOr readBy_text.asOption rfl fun script => ?_
    refine ReadsItems.itemOr readBy_text.asOption rfl fun key => ?_
    refine ReadsItems.itemOr readBy_set rfl fun groups => ?_
    refine ReadsItems.itemOr NetworkRequest.readBy_form.asList rfl fun networks => ?_
    refine ReadsItems.itemOr readBy_set rfl fun volumes => ?_
    refine ReadsItems.itemOr FloatingIpBinding.readBy_form.asOption rfl fun floating => ?_
    refine ReadsItems.itemOr readBy_text.asOption rfl fun peers => ?_
    refine ReadsItems.itemOr readBy_text.asOption rfl fun dedicated => ?_
    refine ReadsItems.itemOr readBy_text.asOption rfl fun revert => ?_
    refine ReadsItems.itemOr readBy_text.asOption rfl fun snapshot => ?_
    refine ReadsItems.itemOr readBy_boolean rfl fun four => ?_
    refine ReadsItems.itemOr readBy_boolean rfl fun six => ?_
    exact ReadsItems.pure

theorem InstanceState.readBy_form : form.ReadBy decode := by
  refine Form.readBy_record [
      .required "applied" InstanceSpec.form,
      .optional "cluster_id" .text,
      .optional "floating_ip" FloatingIpBinding.form,
      .required "id" .text,
      .defaulted "networks" NetworkAttachment.form.list (.list []),
      .optional "password" .text,
      .defaulted "security_groups" .set (.list []),
      .required "status" .text,
      .optional "task_id" .text,
      .defaulted "volumes" .set (.list [])]
    (by simp only [rules, List.cons_subset, List.mem_cons, List.nil_subset, true_or, or_true,
      and_self]) (by decide) (by decide) (fun x fields fields' => ?_) fun total => ?_
  · refine ReadsOn.field InstanceSpec.readBy_form rfl fun applied happlied => ?_
    refine ReadsOn.fieldOr readBy_text.asOption rfl rfl fun cluster cluster' hcluster => ?_
    refine ReadsOn.fieldOr FloatingIpBinding.readBy_form.asOption rfl rfl
      fun floating floating' hfloating => ?_
    refine ReadsOn.field readBy_text rfl fun id hid => ?_
    refine ReadsOn.fieldOr NetworkAttachment.readBy_form.asList rfl asList_nil
      fun networks networks' hnetworks => ?_
    refine ReadsOn.fieldOr readBy_text.asOption rfl rfl fun password password' hpassword => ?_
    refine ReadsOn.fieldOr readBy_set rfl asIdSet_nil fun groups groups' hgroups => ?_
    refine ReadsOn.field readBy_text rfl fun status hstatus => ?_
    refine ReadsOn.fieldOr readBy_text.asOption rfl rfl fun task task' htask => ?_
    refine ReadsOn.fieldOr readBy_set rfl asIdSet_nil fun volumes volumes' hvolumes => ?_
    refine ReadsOn.required rfl hid fun id => ?_
    refine ReadsOn.required rfl hstatus fun status => ?_
    refine ReadsOn.required rfl happlied fun applied => ?_
    exact ReadsOn.pure (by rw [hcluster, hfloating, hnetworks, hpassword, hgroups, htask, hvolumes])
  · refine ReadsItems.item readBy_text rfl fun id => ?_
    refine ReadsItems.itemOr readBy_text.asOption rfl fun task => ?_
    refine ReadsItems.item readBy_text rfl fun status => ?_
    refine ReadsItems.itemOr readBy_text.asOption rfl fun cluster => ?_
    refine ReadsItems.itemOr readBy_text.asOption rfl fun password => ?_
    refine ReadsItems.item InstanceSpec.readBy_form rfl fun applied => ?_
    refine ReadsItems.itemOr NetworkAttachment.readBy_form.asList rfl fun networks => ?_
    refine ReadsItems.itemOr readBy_set rfl fun volumes => ?_
    refine ReadsItems.itemOr readBy_set rfl fun groups => ?_
    refine ReadsItems.itemOr FloatingIpBinding.readBy_form.asOption rfl fun floating => ?_
    exact ReadsItems.pure

/-! ### What is accepted -/

/-- **A reader accepts exactly the records with rules**, and the lists that stand for them. It
follows their form: a record is read exactly if no field without a default is missing and every field
that is present has its form (`FieldsFit`); otherwise the failure is that of the first field that does
not have its form or, if all have, that the first is missing (`FieldsRefuse`); and records whose
fields are alike are not told apart. -/
structure AcceptsExactly {α : Type} (shape : RecordShape) (rules : List FieldRule)
    (decode : Document → Decoded α) : Prop
    extends Form.ReadBy (.record shape rules) decode where
  /-- Nothing stands for a field exactly if the field is optional. -/
  null (f : FieldRule) (hf : f ∈ rules) : f.form.Fits .null ↔ f.default = some .null
  /-- A field that the record does not have makes no difference. -/
  unknown (before after : Fields) (name : String) (d : Document) (h : ∀ f ∈ rules, f.name ≠ name) :
    decode (.record (before ++ (name, d) :: after)) = decode (.record (before ++ after))
  /-- It makes no difference whether a field is its default or missing. -/
  default (f : FieldRule) (hf : f ∈ rules) (d : Document) (hd : f.default = some d)
    (before after : Fields) (missing : (before ++ after).lookup f.name = none) :
    decode (.record (before ++ (f.name, d) :: after)) = decode (.record (before ++ after))
  /-- The items of a set may be reordered and repeated. If some are not texts, then the record is not
  read in any order, and only the failure may be another. -/
  sets (x : Extent) (f : FieldRule) (hf : f ∈ rules) (form : f.form = .set)
    (items items' : List Document) (same : ∀ i, i ∈ items ↔ i ∈ items')
    (texts : x = .outcome → ∀ i ∈ items, Form.text.Fits i)
    (before after : Fields) (missing : (before ++ after).lookup f.name = none) :
    x.Agree (decode (.record (before ++ (f.name, .list items) :: after)))
      (decode (.record (before ++ (f.name, .list items') :: after)))

section

variable {before after : Fields} {name : String} {d : Document}

theorem lookup_append_cons_self (h : (before ++ after).lookup name = none) :
    (before ++ (name, d) :: after).lookup name = some d := by
  rw [List.lookup_append] at h ⊢
  rw [(Option.or_eq_none_iff.1 h).1, Option.none_or, List.lookup_cons_self]

theorem lookup_append_cons_of_ne {other : String} (h : name ≠ other) :
    (before ++ (other, d) :: after).lookup name = (before ++ after).lookup name := by
  rw [List.lookup_append, List.lookup_append, List.lookup_cons, (beq_eq_false_iff_ne ..).2 h]

end

/-- Records are alike if one field is and the others are the same. -/
theorem forall_alike_of_alike {rules : List FieldRule} (distinct : (rules.map (·.name)).Nodup)
    {x : Extent} {fields fields' : Fields} {f : FieldRule} (hf : f ∈ rules)
    (h : f.Alike x fields fields')
    (others : ∀ name, name ≠ f.name → fields.lookup name = fields'.lookup name) :
    ∀ g ∈ rules, g.Alike x fields fields' := by
  intro g hg
  by_cases hn : g.name = f.name
  · obtain rfl : g = f := List.inj_on_of_nodup_map distinct hg hf hn
    exact h
  · refine FieldRule.alike_of_document_eq ?_
    rw [FieldRule.document, FieldRule.document, others _ hn]

/-- A reader accepts exactly the records of the form that it follows. -/
theorem Form.ReadBy.acceptsExactly {α : Type} {shape : RecordShape} {rules : List FieldRule}
    {decode : Document → Decoded α} (h : (record shape rules).ReadBy decode)
    (distinct : (rules.map (·.name)).Nodup)
    (null : ∀ f ∈ rules, f.form.Fits .null ↔ f.default = some .null) :
    AcceptsExactly shape rules decode where
  toReadBy := h
  null := null
  unknown before after name d hn := by
    refine Extent.agree_outcome_iff.1 (h.agrees .outcome (.record _) (.record _) fun f hf => ?_)
    refine FieldRule.alike_of_document_eq ?_
    rw [FieldRule.document, FieldRule.document, lookup_append_cons_of_ne (hn f hf)]
  default f hf d hd before after missing := by
    refine Extent.agree_outcome_iff.1 (h.agrees .outcome (.record _) (.record _) ?_)
    refine forall_alike_of_alike distinct hf (FieldRule.alike_of_document_eq ?_)
      fun name => lookup_append_cons_of_ne
    rw [FieldRule.document, FieldRule.document, lookup_append_cons_self missing, missing, hd]
    rfl
  sets x f hf form items items' same texts before after missing := by
    refine h.agrees x (.record _) (.record _) ?_
    refine forall_alike_of_alike distinct hf ?_ fun name hn => ?_
    · rw [FieldRule.Alike, FieldRule.document, FieldRule.document,
        lookup_append_cons_self missing, lookup_append_cons_self missing, form]
      exact .some (.inr ⟨items, items', rfl, rfl, same, texts⟩)
    · rw [lookup_append_cons_of_ne hn, lookup_append_cons_of_ne hn]

/-- **What is persisted has exactly its grammar**: configurations and tracked states, and the parts
of both. -/
theorem persisted_accepts_grammar :
    AcceptsExactly InstanceSpec.shape InstanceSpec.rules InstanceSpec.decode ∧
    AcceptsExactly InstanceState.shape InstanceState.rules InstanceState.decode ∧
    AcceptsExactly NetworkRequest.shape NetworkRequest.rules NetworkRequest.decode ∧
    AcceptsExactly NetworkAttachment.shape NetworkAttachment.rules NetworkAttachment.decode ∧
    AcceptsExactly FloatingIpBinding.shape FloatingIpBinding.rules FloatingIpBinding.decode := by
  refine ⟨?_, ?_, ?_, ?_, ?_⟩
  · refine InstanceSpec.readBy_form.acceptsExactly (by decide) ?_
    simp [InstanceSpec.rules, FieldRule.required, FieldRule.defaulted, FieldRule.optional]
  · refine InstanceState.readBy_form.acceptsExactly (by decide) ?_
    simp [InstanceState.rules, FieldRule.required, FieldRule.defaulted, FieldRule.optional,
      InstanceSpec.form]
  · refine NetworkRequest.readBy_form.acceptsExactly (by decide) ?_
    simp [NetworkRequest.rules, FieldRule.required, FieldRule.defaulted, FieldRule.optional]
  · refine NetworkAttachment.readBy_form.acceptsExactly (by decide) ?_
    simp [NetworkAttachment.rules, FieldRule.required]
  · refine FloatingIpBinding.readBy_form.acceptsExactly (by decide) ?_
    simp [FloatingIpBinding.rules, FieldRule.required]

-- The size stands before the region in the order of names, and no missing field is looked for.
example : InstanceSpec.decode (.record [("region", .null), ("disk_size", .text "20")]) =
    .error (.wrongKind (.text "20") "u64") := rfl

end Reconciler
