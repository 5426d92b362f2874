import Reconciler.Lifecycle.Refresh
import Reconciler.Proofs.Cloud.Servers
import Reconciler.Proofs.Update.Membership

/-!
# The steps of the groups and the volumes

What the two steps that perform edit scripts do to the cloud. Joining and leaving groups always
succeeds for a server that is there; a volume can be attached only if there is one with that
identifier.

## What is proved

* `leads_performEdits`: what performing a script leads to, from what each edit leads to.
* `leads_convergeGroups`, `leads_convergeVolumes`: what the two steps lead to.
* `mem_volumesOf_attach`, `mem_volumesOf_detach`: the volumes of an instance after a change of one.
-/

namespace Reconciler

variable {σ : Type} {H : Host σ} {c : Cloud} {s : InstanceState} {desired : InstanceSpec}
  {srv : CloudServer}

/-- The identifiers are those in the set, but for the empty one. -/
def Lists (ids : List String) (set : IdSet) : Prop := ∀ x, x ≠ "" → (x ∈ ids ↔ x ∈ set)

/-- **Performing an edit script** keeps step by step what holds of the set so far and the cloud. -/
theorem leads_performEdits {perform : Edit → Task Unit} {script : List Edit} {set : IdSet}
    {sofar : IdSet → Cloud → Prop} {broken : Cloud → Prop}
    (step : ∀ e ∈ script, ∀ set d, sofar set d →
      H.Leads d (perform e) (fun _ d' => sofar (e.apply set) d') broken) (hc : sofar set c) :
    H.Leads c (performEdits perform script set) (fun set' d => sofar set' d) broken := by
  induction script generalizing set c with
  | nil => exact Host.leads_pure hc
  | cons e script ih =>
    have first := step e (List.mem_cons_self ..) set c hc
    refine first.bind fun _ d hd => ?_
    exact ih (fun e he => step e (List.mem_cons_of_mem _ he)) hd

/-! ### The groups -/

/-- **The groups** become the desired ones, unless the host fails. -/
theorem leads_convergeGroups (hs : c.server? s.id = some srv)
    (tracked : Lists srv.detail.securityGroupIds s.securityGroups) :
    H.Leads c (convergeGroups s desired)
      (fun _ d => ∃ groups, d.server? s.id = some (srv.withGroups groups) ∧
        Lists groups desired.securityGroups)
      fun d => H.fails ∧ ∃ groups, d.server? s.id = some (srv.withGroups groups) := by
  let sofar (set : IdSet) (d : Cloud) : Prop :=
    ∃ groups, d.server? s.id = some (srv.withGroups groups) ∧ Lists groups set
  have step (e : Edit) (set : IdSet) (d : Cloud) (h : sofar set d) :
      H.Leads d (editGroup s.region s.id e) (fun _ d' => sofar (e.apply set) d') fun d =>
        H.fails ∧ ∃ groups, d.server? s.id = some (srv.withGroups groups) := by
    obtain ⟨groups, hd, hgroups⟩ := h
    cases e with
    | add x =>
      let join (srv : CloudServer) := srv.withGroups (srv.detail.securityGroupIds ++ [x])
      refine Host.leads_ask_ok (d := d.editServer s.id join) (Cloud.changeServer_eq hd)
        ⟨groups ++ [x], Cloud.server?_editServer join hd rfl, ?_⟩ fun hf => ⟨hf, groups, hd⟩
      intro y hy
      rw [Edit.apply, IdSet.mem_insert, List.mem_append, List.mem_singleton, hgroups y hy]
      exact or_comm
    | remove x =>
      let leave (srv : CloudServer) := srv.withGroups (srv.detail.securityGroupIds.filter (· ≠ x))
      refine Host.leads_ask_ok (d := d.editServer s.id leave) (Cloud.changeServer_eq hd)
        ⟨groups.filter (· ≠ x), Cloud.server?_editServer leave hd rfl, ?_⟩
        fun hf => ⟨hf, groups, hd⟩
      intro y hy
      rw [Edit.apply, IdSet.mem_erase, List.mem_filter, hgroups y hy, decide_eq_true_eq]
  have run : H.Leads c (convergeGroups s desired) sofar fun d =>
      H.fails ∧ ∃ groups, d.server? s.id = some (srv.withGroups groups) :=
    leads_performEdits (fun e _ => step e) ⟨_, hs, tracked⟩
  refine (run.and_of_succeeds fun w a w' es h => h.performEdits_eq).mono ?_ fun d hd => hd
  rintro _ d ⟨⟨groups, hd, hgroups⟩, rfl⟩
  refine ⟨groups, hd, fun x hx => ?_⟩
  rw [hgroups x hx, mem_applyEdits_editScript, if_neg hx]

/-! ### The volumes of an instance -/

/-- Whether the volume is attached to the instance. -/
def Volume.isOn (v : Volume) (id : InstanceId) : Bool := v.attachments.any (·.serverId = id)

/-- The volume with other attachments. -/
def Volume.change (change : List VolumeAttachment → List VolumeAttachment) (v : Volume) : Volume :=
  { v with attachments := change v.attachments }

/-- **No volume is out of reach**: one that is attached to the instance is the first with its
identifier, and so it is the one that calls about the identifier reach. -/
def AllReached (volumes : List Volume) (id : InstanceId) : Prop :=
  volumes.Pairwise fun u v => v.id = u.id → v.isOn id = false

section

variable {vs : List Volume} {id : InstanceId} {k x : String}
  {change : List VolumeAttachment → List VolumeAttachment}

theorem mem_volumesOf : x ∈ volumesOf vs id ↔ ∃ v ∈ vs, v.isOn id = true ∧ v.id = x := by
  simp only [volumesOf, List.mem_map, List.mem_filter, and_assoc]
  rfl

theorem mem_volumesOf_cons {v : Volume} :
    x ∈ volumesOf (v :: vs) id ↔ v.isOn id = true ∧ v.id = x ∨ x ∈ volumesOf vs id := by
  rw [mem_volumesOf, mem_volumesOf, List.exists_mem_cons_iff]

theorem id_mem_of_mem_volumesOf (h : x ∈ volumesOf vs id) : x ∈ vs.map (·.id) := by
  obtain ⟨v, hv, -, rfl⟩ := mem_volumesOf.1 h
  exact List.mem_map_of_mem hv

/-- Once the first volume with an identifier is attached, the instance has that one as well. -/
theorem mem_volumesOf_attach (hk : k ∈ vs.map (·.id))
    (on : ∀ v, (Volume.change change v).isOn id = true) :
    x ∈ volumesOf (mapFirst (·.id = k) (Volume.change change) vs) id ↔
      x = k ∨ x ∈ volumesOf vs id := by
  induction vs with
  | nil => simp at hk
  | cons v vs ih =>
    rw [mapFirst]
    by_cases hv : v.id = k
    · subst hv
      rw [if_pos (decide_eq_true rfl), mem_volumesOf_cons, mem_volumesOf_cons]
      show (_ ∧ v.id = x) ∨ _ ↔ _
      simp only [on, true_and, eq_comm (a := v.id)]
      tauto
    · have hk' : k ∈ vs.map (·.id) := by
        rw [List.map_cons, List.mem_cons] at hk
        exact hk.resolve_left (Ne.symm hv)
      rw [if_neg (by simpa using hv), mem_volumesOf_cons, mem_volumesOf_cons, ih hk']
      exact or_left_comm

/-- Once the first volume with an identifier is detached, the instance no longer has that one, if
none was out of reach. -/
theorem mem_volumesOf_detach (hvs : AllReached vs id)
    (off : ∀ v, (Volume.change change v).isOn id = false) :
    x ∈ volumesOf (mapFirst (·.id = k) (Volume.change change) vs) id ↔
      x ∈ volumesOf vs id ∧ x ≠ k := by
  induction vs with
  | nil => simp [volumesOf, mapFirst]
  | cons v vs ih =>
    obtain ⟨hv, hvs⟩ := List.pairwise_cons.1 hvs
    rw [mapFirst]
    by_cases hk : v.id = k
    · subst hk
      have others (h : x ∈ volumesOf vs id) : x ≠ v.id := by
        rintro rfl
        obtain ⟨u, hu, hon, hid⟩ := mem_volumesOf.1 h
        rw [hv u hu hid] at hon
        exact absurd hon (by simp)
      rw [if_pos (decide_eq_true rfl), mem_volumesOf_cons, mem_volumesOf_cons, off]
      constructor
      · rintro (⟨h, -⟩ | h)
        · exact absurd h (by simp)
        · exact ⟨.inr h, others h⟩
      · rintro ⟨⟨-, rfl⟩ | h, hne⟩
        · exact absurd rfl hne
        · exact .inr h
    · rw [if_neg (by simpa using hk), mem_volumesOf_cons, mem_volumesOf_cons, ih hvs]
      constructor
      · rintro (⟨hon, rfl⟩ | ⟨h, hne⟩)
        · exact ⟨.inl ⟨hon, rfl⟩, hk⟩
        · exact ⟨.inr h, hne⟩
      · rintro ⟨h | h, hne⟩
        · exact .inl h
        · exact .inr ⟨h, hne⟩

/-- A change of the first volume with an identifier leaves none out of reach. -/
theorem AllReached.mapFirst (hvs : AllReached vs id) :
    AllReached (mapFirst (·.id = k) (Volume.change change) vs) id := by
  induction vs with
  | nil => exact hvs
  | cons v vs ih =>
    obtain ⟨hv, hvs'⟩ := List.pairwise_cons.1 hvs
    rw [Reconciler.mapFirst]
    by_cases hk : v.id = k
    · rw [if_pos (decide_eq_true hk)]
      exact List.pairwise_cons.2 ⟨hv, hvs'⟩
    · rw [if_neg (by simpa using hk)]
      refine List.pairwise_cons.2 ⟨fun u hu hid => ?_, ih hvs'⟩
      rcases mem_mapFirst hu with hu | ⟨u, hu, huk, rfl⟩
      · exact hv u hu hid
      · exact absurd (hid.symm.trans (of_decide_eq_true huk)) hk

end

/-! ### The volumes -/

/-- The cloud has the volumes that are desired. -/
def HasVolumes (c : Cloud) (desired : InstanceSpec) : Prop :=
  ∀ x ∈ desired.volumes, x ≠ "" → x ∈ c.volumes.map (·.id)

theorem Cloud.changeVolume_eq {d : Cloud} {k : String}
    (change : List VolumeAttachment → List VolumeAttachment) (hk : k ∈ d.volumes.map (·.id)) :
    d.changeVolume k change =
      (.ok (), { d with volumes := mapFirst (·.id = k) (Volume.change change) d.volumes }) := by
  refine if_pos ?_
  obtain ⟨v, hv, rfl⟩ := List.mem_map.1 hk
  exact List.any_eq_true.2 ⟨v, hv, decide_eq_true rfl⟩

theorem Cloud.changeVolume_missing {d : Cloud} {k : String}
    (change : List VolumeAttachment → List VolumeAttachment) (hk : k ∉ d.volumes.map (·.id)) :
    d.changeVolume k change = (.error (.notFound ("volume " ++ k ++ " not found")), d) := by
  refine if_neg fun h => hk ?_
  obtain ⟨v, hv, hid⟩ := List.any_eq_true.1 h
  exact List.mem_map.2 ⟨v, hv, of_decide_eq_true hid⟩

/-- **The volumes** become the desired ones exactly when the cloud has those, unless the host
fails. The set that is answered tells of each volume that was rightly tracked whether it is
attached. -/
theorem leads_convergeVolumes (reached : AllReached c.volumes s.id)
    (tracked : Lists (volumesOf c.volumes s.id) s.volumes) :
    H.Leads c (convergeVolumes s desired)
      (fun set d => HasVolumes c desired ∧ AllReached d.volumes s.id ∧
        Lists (volumesOf d.volumes s.id) desired.volumes ∧
        ∀ x, (x ∈ volumesOf c.volumes s.id ↔ x ∈ s.volumes) →
          (x ∈ volumesOf d.volumes s.id ↔ x ∈ set))
      fun d => ¬ HasVolumes c desired ∨ H.fails ∧ AllReached d.volumes s.id := by
  let sofar (set : IdSet) (d : Cloud) : Prop :=
    d.volumes.map (·.id) = c.volumes.map (·.id) ∧ AllReached d.volumes s.id ∧
      ∀ x, (x ∈ volumesOf c.volumes s.id ↔ x ∈ s.volumes) →
        (x ∈ volumesOf d.volumes s.id ↔ x ∈ set)
  let broken (d : Cloud) : Prop := ¬ HasVolumes c desired ∨ H.fails ∧ AllReached d.volumes s.id
  have step : ∀ e ∈ editScript desired.volumes s.volumes, ∀ set d, sofar set d →
      H.Leads d (editVolume s.region s.id e) (fun _ d' => sofar (e.apply set) d') broken := by
    rintro e he set d ⟨hids, hreached, hset⟩
    have ids (change : List VolumeAttachment → List VolumeAttachment) :
        (mapFirst (·.id = e.id) (Volume.change change) d.volumes).map (·.id) =
          c.volumes.map (·.id) := by
      rw [← hids]
      exact map_mapFirst fun _ => rfl
    cases e with
    | add x =>
      obtain ⟨hx, -, hne⟩ := add_mem_editScript.1 he
      let attach (as : List VolumeAttachment) := as ++ [{ serverId := s.id }]
      by_cases hxd : x ∈ d.volumes.map (·.id)
      · refine Host.leads_ask_ok (Cloud.changeVolume_eq attach hxd)
          ⟨ids _, hreached.mapFirst, fun y hy => ?_⟩ fun hf => .inr ⟨hf, hreached⟩
        rw [Edit.apply, IdSet.mem_insert, ← hset y hy]
        exact mem_volumesOf_attach hxd fun v => by simp [Volume.isOn, Volume.change, attach]
      · have hn : ¬ HasVolumes c desired := fun h => hxd (hids ▸ h x hx hne)
        exact Host.leads_ask_error (Cloud.changeVolume_missing attach hxd) (.inl hn)
          fun _ => .inl hn
    | remove x =>
      obtain ⟨hx, -, hne⟩ := remove_mem_editScript.1 he
      have hxd : x ∈ d.volumes.map (·.id) := hids ▸ id_mem_of_mem_volumesOf ((tracked x hne).2 hx)
      refine Host.leads_ask_ok (Cloud.changeVolume_eq _ hxd)
        ⟨ids _, hreached.mapFirst, fun y hy => ?_⟩ fun hf => .inr ⟨hf, hreached⟩
      rw [Edit.apply, IdSet.mem_erase, ← hset y hy]
      exact mem_volumesOf_detach hreached fun v => by simp [Volume.isOn, Volume.change]
  have run : H.Leads c (convergeVolumes s desired) sofar broken :=
    leads_performEdits step ⟨rfl, reached, fun _ hx => hx⟩
  refine (run.and_of_succeeds fun w a w' es h => h.performEdits_eq).mono ?_ fun d hd => hd
  rintro set d ⟨⟨hids, hreached, hset⟩, hscript⟩
  have desired_volumes : Lists (volumesOf d.volumes s.id) desired.volumes := fun x hx => by
    rw [hset x (tracked x hx), hscript, mem_applyEdits_editScript, if_neg hx]
  refine ⟨fun x hx hne => ?_, hreached, desired_volumes, hset⟩
  rw [← hids]
  exact id_mem_of_mem_volumesOf ((desired_volumes x hne).2 hx)

end Reconciler
