import Reconciler.Lifecycle.Creation
import Reconciler.Proofs.Accounts
import Reconciler.Proofs.MergedAttachments
import Reconciler.Proofs.Reading
import Reconciler.Proofs.Update.Calls
import Mathlib.Data.List.Perm.Subperm

/-!
# What a failed creation accounts for

Nothing that a creation does is taken back, so whoever gets its failure has to know what is there.
If the order itself fails, nothing is. After the order every failure carries a state, and the state
says what the exchanges say: the attachments are the ones that the instance was seen with, and the
volumes are the ones whose attachment was answered, one after the other from the first.

## What is proved

* `readyFor_takeEach`: the attachments that are taken from a listing.
* `gives_awaitNetworks`: the wait for the networks ends with attachments that the last listing
  shows.
* `gives_attachVolumes_bind`, `gives_convergeCreated`: what the steps after the order give.
* `createInstance_account`: what every creation gives, whoever answers its calls.
-/

namespace Reconciler

variable {α σ : Type} {t : Tuning} {s : InstanceState} {desired : InstanceSpec}
  {deadline : Instant}

/-! ### The networks -/

/-- **The attachments are ready for a configuration**: there is one to each network asked for, in
the order of the first requests, and each has a port and a subnet. -/
structure ReadyFor (desired : InstanceSpec) (networks : List NetworkAttachment) : Prop where
  /-- There is one to each network. -/
  networkIds : networks.map (·.networkId) = (desired.networks.map (·.networkId)).eraseDups
  /-- Each has a port and a subnet. -/
  ready : ∀ a ∈ networks, a.portId ≠ "" ∧ a.subnetId ≠ ""

/-- A map with as many entries as a set, all of them under members, has one for each member. -/
theorem contains_of_size_eq {found : IdMap α} {ks : IdSet}
    (within : ∀ k, found.contains k = true → k ∈ ks) (size : found.size = ks.size) {k : String}
    (hk : k ∈ ks) : found.contains k = true := by
  have key (k : String) : k ∈ found.keys ↔ found.contains k = true := by
    rw [IdMap.keys, List.mem_map, IdMap.contains, Option.isSome_iff_exists]
    constructor
    · rintro ⟨e, he, rfl⟩
      exact ⟨e.2, IdMap.find?_eq_some_iff.2 he⟩
    · rintro ⟨a, ha⟩
      exact ⟨_, IdMap.find?_eq_some_iff.1 ha, rfl⟩
  have subset : found.keys ⊆ ks.members := fun k hk => within k ((key k).1 hk)
  have length : ks.members.length ≤ found.keys.length := by
    rw [IdMap.keys, List.length_map]
    exact Nat.le_of_eq size.symm
  have same := (List.subperm_of_subset found.nodup_keys subset).perm_of_length_le length
  exact (key k).1 (same.mem_iff.2 hk)

/-- **The attachments that are taken** when as many are found as networks are asked for, and all are
ready. -/
theorem readyFor_takeEach {networks : List Network} {id : InstanceId}
    {found : IdMap NetworkAttachment}
    (hfound : found = resolveById networks desired.requestedNetworks.members id)
    (size : found.size = desired.requestedNetworks.size)
    (ready : found.values.all (·.isReady) = true) :
    ReadyFor desired (found.takeEach (desired.networks.map (·.networkId))).1 := by
  have filed : Filed found := hfound ▸ filed_attachmentsOn _ _
  have within (k : String) (hk : found.contains k = true) : k ∈ desired.requestedNetworks := by
    obtain ⟨a, ha⟩ := Option.isSome_iff_exists.1 hk
    rw [hfound] at ha
    exact (find?_resolveById.1 ha).1
  constructor
  · have all : (desired.networks.map (·.networkId)).filter found.contains =
        desired.networks.map (·.networkId) :=
      List.filter_eq_self.2 fun k hk => contains_of_size_eq within size (IdSet.mem_ofList.2 hk)
    rw [map_networkId_takeEach filed, all]
  · intro a ha
    have hvalue : a ∈ found.values := filed.mem_values_iff.2 (find?_of_mem_takeEach filed ha)
    have hready := List.all_eq_true.1 ready a hvalue
    simpa [NetworkAttachment.isReady, NetworkAttachment.isAttached] using hready

/-- The listing of the networks that an exchange brought, if it brought one. -/
def Exchange.listing? : Exchange → Option (List Network)
  | ⟨_, _, .listNetworks, .ok listing⟩ => some listing
  | _ => none

/-- The listings of the networks that some exchanges brought, in their order. -/
def listingsIn (es : List Exchange) : List (List Network) := es.filterMap (·.listing?)

@[simp] theorem listingsIn_append (es es' : List Exchange) :
    listingsIn (es ++ es') = listingsIn es ++ listingsIn es' :=
  List.filterMap_append

/-- Only a listing of the networks brings one. -/
theorem listingsIn_eq_nil {es : List Exchange} (h : ∀ e ∈ es, e.call ≠ .listNetworks) :
    listingsIn es = [] := by
  refine List.filterMap_eq_nil_iff.2 fun e he => ?_
  have other := h e he
  unfold Exchange.listing?
  split
  · exact absurd rfl other
  · rfl

/-- **A listing shows attachments** of an instance that are ready for a configuration: each is the
one that the listing gives for its network. -/
structure ShownBy (desired : InstanceSpec) (id : InstanceId) (listing : List Network)
    (networks : List NetworkAttachment) : Prop where
  /-- There is one to each network asked for, with a port and a subnet. -/
  ready : ReadyFor desired networks
  /-- Each is as the listing has it. -/
  listed : ∀ a ∈ networks,
    (resolveById listing desired.requestedNetworks.members id).find? a.networkId = some a

/-- **An instance is connected**: no network is asked for, or the last listing that some exchanges
brought shows the attachments. -/
def Connected (desired : InstanceSpec) (id : InstanceId) (networks : List NetworkAttachment)
    (es : List Exchange) : Prop :=
  (desired.networks = [] ∧ networks = []) ∨
    ∃ listing, (listingsIn es).getLast? = some listing ∧ ShownBy desired id listing networks

/-- The attachments of an instance that is connected are ready. -/
theorem Connected.ready {id : InstanceId} {networks : List NetworkAttachment} {es : List Exchange}
    (h : Connected desired id networks es) : ReadyFor desired networks := by
  obtain ⟨hnone, rfl⟩ | ⟨listing, -, shown⟩ := h
  · exact ⟨by rw [hnone]; rfl, fun a ha => absurd ha List.not_mem_nil⟩
  · exact shown.ready

/-- What brings no listing of the networks may come before and after. -/
theorem Connected.embed {id : InstanceId} {networks : List NetworkAttachment}
    {es : List Exchange} (h : Connected desired id networks es) (before after : List Exchange)
    (hbefore : listingsIn before = []) (hafter : listingsIn after = []) :
    Connected desired id networks (before ++ (es ++ after)) := by
  rw [Connected, listingsIn_append, listingsIn_append, hbefore, hafter, List.nil_append,
    List.append_nil]
  exact h

/-- **The account of the wait for the networks.** -/
structure NetworksWait (s : InstanceState) (desired : InstanceSpec)
    (r : Option (Except Failure (List NetworkAttachment))) (es : List Exchange) : Prop where
  /-- The wait only lists the networks. -/
  lists : ∀ e ∈ es, e.call = .listNetworks
  /-- If it succeeds, the instance is connected. -/
  connected : ∀ networks, r = some (.ok networks) → Connected desired s.id networks es

/-- The attachments that are taken are those that the listing shows. -/
theorem shownBy_takeEach {listing : List Network} {id : InstanceId}
    {found : IdMap NetworkAttachment}
    (hfound : found = resolveById listing desired.requestedNetworks.members id)
    (size : found.size = desired.requestedNetworks.size)
    (ready : found.values.all (·.isReady) = true) :
    ShownBy desired id listing (found.takeEach (desired.networks.map (·.networkId))).1 where
  ready := readyFor_takeEach hfound size ready
  listed a ha := by
    have filed : Filed found := hfound ▸ filed_attachmentsOn _ _
    rw [← hfound]
    exact find?_of_mem_takeEach filed ha

theorem gives_awaitNetworks :
    Gives (awaitNetworks t desired s deadline) (NetworksWait s desired) := by
  let found? (listing : List Network) : IdMap NetworkAttachment :=
    resolveById listing desired.requestedNetworks.members s.id
  let shows (e : Exchange) (found : IdMap NetworkAttachment) : Prop :=
    ∃ listing, e.listing? = some listing ∧
      ShownBy desired s.id listing (found.takeEach (desired.networks.map (·.networkId))).1
  rw [awaitNetworks]
  split_ifs with hempty
  · refine gives_pure ⟨fun _ h => absurd h List.not_mem_nil, fun networks h => ?_⟩
    obtain rfl := Except.ok.inj (Option.some.inj h)
    exact .inl ⟨List.isEmpty_iff.1 hempty, rfl⟩
  · have check : (networksCheck s.region s.id desired.requestedNetworks).Gives fun r es =>
        ∃ e seen, r = some seen ∧ es = [e] ∧ e.call = .listNetworks ∧
          ∀ found, seen = .done found → shows e found := by
      refine Program.gives_request_bind fun start o => ?_
      cases o with
      | error err => exact Program.gives_pure ⟨_, _, rfl, rfl, rfl, fun _ h => (nomatch h)⟩
      | ok listing =>
        show Program.Gives (if _ ∧ _ then _ else _) _
        split_ifs with h
        · refine Program.gives_pure ⟨_, _, rfl, rfl, rfl, fun found hfound => ?_⟩
          obtain rfl := Check.done.inj hfound
          exact ⟨listing, rfl, shownBy_takeEach rfl h.1 h.2⟩
        · exact Program.gives_pure ⟨_, _, rfl, rfl, rfl, fun _ h => (nomatch h)⟩
    refine Program.Gives.bind (gives_poll_watch check) (fun r es watch => Program.gives_pure ?_)
      fun es watch => ⟨watch.1, fun _ h => (nomatch h)⟩
    rw [List.append_nil]
    refine ⟨watch.1, fun networks h => ?_⟩
    cases r with
    | error e => nomatch h
    | ok found =>
      obtain rfl := Except.ok.inj (Option.some.inj h)
      obtain ⟨earlier, last, rfl, listing, hlisting, shown⟩ := watch.2 found rfl
      refine .inr ⟨listing, ?_, shown⟩
      simp [listingsIn, hlisting]

/-! ### The volumes -/

/-- The volume that an exchange attached, if it did. -/
def Exchange.attachedVolume? : Exchange → Option String
  | ⟨_, _, .attachVolume _ volumeId, .ok _⟩ => some volumeId
  | _ => none

/-- The volumes that were attached, in the order of the calls. -/
def attachedVolumes (es : List Exchange) : List String := es.filterMap (·.attachedVolume?)

@[simp] theorem attachedVolumes_append (es es' : List Exchange) :
    attachedVolumes (es ++ es') = attachedVolumes es ++ attachedVolumes es' :=
  List.filterMap_append

/-- The call attaches no volume. -/
def Call.LeavesVolumes (c : Call) : Prop := ∀ serverId volumeId, c ≠ .attachVolume serverId volumeId

/-- **How far a creation came**: `s` is the state of it, and `attached` are the volumes that it has
attached. -/
structure Progress (desired : InstanceSpec) (s : InstanceState) (attached : List String) :
    Prop where
  /-- The configuration counts as applied. -/
  applied : s.applied = desired
  /-- No floating address is bound. -/
  floatingIp : s.floatingIp = none
  /-- Nothing is known of the networks, or the attachments are ready. -/
  networks : s.networks = [] ∨ ReadyFor desired s.networks
  /-- The volumes are the ones that are attached. -/
  volumes : s.volumes.members = attached
  /-- They are the first of the ones asked for. -/
  initial : attached <+: desired.volumes.members.filter (· ≠ "")

/-- One more volume of those asked for. -/
theorem Progress.attach {before rest : List String} {v : String} (h : Progress desired s before)
    (wanted : before ++ [v] ++ rest = desired.volumes.members.filter (· ≠ "")) :
    Progress desired { s with volumes := s.volumes.insert v } (before ++ [v]) where
  applied := h.applied
  floatingIp := h.floatingIp
  networks := h.networks
  volumes := by
    have ascending : (before ++ [v]).Pairwise (· < ·) := by
      have all := desired.volumes.ascending.filter (· ≠ "")
      rw [← wanted] at all
      exact (List.pairwise_append.1 all).1
    refine eq_of_pairwise_of_mem_iff (s.volumes.insert v).ascending ascending fun x => ?_
    rw [IdSet.mem_members, IdSet.mem_insert, ← IdSet.mem_members, h.volumes, List.mem_append,
      List.mem_singleton, or_comm]
  initial := ⟨rest, wanted⟩

/-- **The end of a creation accounts for what was done**: if it is a failure, it carries a state
that says how far the creation came. `before` are the volumes attached before the exchanges. -/
def Reports (desired : InstanceSpec) (before : List String) (r : Option (Except Failure α))
    (es : List Exchange) : Prop :=
  ∀ e, r = some (.error e) → ∃ s cause, e = .incomplete s cause ∧
    Progress desired s (before ++ attachedVolumes es)

variable {before : List String}

/-- The account of a step as part of a creation that came as far as `s`: its failure is reported as
the cause. -/
def Within (s : InstanceState) (post : Option (Except Failure α) → List Exchange → Prop) :
    Option (Except Failure α) → List Exchange → Prop
  | some (.error e), es => ∃ cause, e = .incomplete s cause ∧ post (some (.error cause)) es
  | r, es => post r es

theorem gives_within {step : Task α} {post : Option (Except Failure α) → List Exchange → Prop}
    (h : Gives step post) : Gives (within s step) (Within s post) := by
  refine Program.Gives.bind h (fun r es hr => ?_) fun es hn => hn
  cases r with
  | ok a => exact Program.gives_pure ((List.append_nil es).symm ▸ hr)
  | error e => exact Program.gives_pure ⟨e, rfl, (List.append_nil es).symm ▸ hr⟩

/-- Calls that leave the volumes alone attach none. -/
theorem attachedVolumes_of_leaves {es : List Exchange} (h : ∀ e ∈ es, e.call.LeavesVolumes) :
    attachedVolumes es = [] := by
  refine List.filterMap_eq_nil_iff.2 fun e he => ?_
  have leaves := h e he
  unfold Exchange.attachedVolume?
  split
  · exact absurd rfl (leaves _ _)
  · rfl

theorem attachedVolumes_eq_nil {q : Program α} (h : q.Makes Call.LeavesVolumes) {p : Provider σ}
    {w : World σ} : attachedVolumes (q.trace p w) = [] :=
  attachedVolumes_of_leaves fun _ he => h.call_mem he

/-- What was attached on the way counts as attached before. -/
theorem Reports.prepend {r : Option (Except Failure α)} {es es' : List Exchange}
    (h : Reports desired (before ++ attachedVolumes es) r es') :
    Reports desired before r (es ++ es') := by
  intro e he
  rw [attachedVolumes_append, ← List.append_assoc]
  exact h e he

/-- A state that says how far the creation came accounts for a failure that carries it. -/
theorem Progress.reports {es : List Exchange} {cause : Failure}
    (h : Progress desired s (before ++ attachedVolumes es)) :
    Reports desired before (some (.error (.incomplete s cause)) : Option (Except Failure α))
      es := by
  intro e he
  obtain rfl := Except.error.inj (Option.some.inj he)
  exact ⟨s, cause, rfl, h⟩

/-- **A step that leaves the volumes alone**, and what follows it. -/
theorem gives_within_bind {β : Type} {step : Task β} {f : β → Task α} {good : β → Prop}
    (progress : Progress desired s before) (leaves : step.run.Makes Call.LeavesVolumes)
    (value : Gives step fun r _ => ∀ b, r = some (.ok b) → good b)
    (hf : ∀ b, good b → Gives (f b) (Reports desired before)) :
    Gives (within s step >>= f) (Reports desired before) := by
  have quiet : Gives step fun r es =>
      attachedVolumes es = [] ∧ ∀ b, r = some (.ok b) → good b :=
    fun σ p w => ⟨attachedVolumes_eq_nil leaves, value σ p w⟩
  refine (gives_within quiet).bind ?_ ?_ fun es _ e he => nomatch he
  · rintro b es ⟨hes, hgood⟩
    refine (hf b (hgood b rfl)).mono fun r es' h => Reports.prepend ?_
    rwa [hes, List.append_nil]
  · rintro _ es ⟨cause, rfl, hes, -⟩
    refine Progress.reports ?_
    rwa [hes, List.append_nil]

theorem gives_lift_bind {β : Type} {q : Program β} {f : β → Task α}
    (leaves : q.Makes Call.LeavesVolumes) (hf : ∀ b, Gives (f b) (Reports desired before)) :
    Gives (liftM q >>= f) (Reports desired before) := by
  have quiet : Gives (liftM q : Task β) fun r es =>
      attachedVolumes es = [] ∧ ∀ e, r ≠ some (.error e) := by
    have program : q.Gives fun _ es => attachedVolumes es = [] :=
      fun σ p w => attachedVolumes_eq_nil leaves
    exact gives_lift program (fun _ _ h => ⟨h, fun _ he => nomatch he⟩)
      fun _ h => ⟨h, fun _ he => nomatch he⟩
  refine quiet.bind ?_ (fun e es h => absurd rfl (h.2 e)) fun es _ e he => nomatch he
  rintro b es ⟨hes, -⟩
  refine (hf b).mono fun r es' h => Reports.prepend ?_
  rwa [hes, List.append_nil]

/-- **Volume after volume**: the ones that are attached are the first of those asked for. -/
theorem gives_attachVolumes_bind {rest : List String} {f : InstanceState → Task α}
    (progress : Progress desired s before)
    (wanted : before ++ rest = desired.volumes.members.filter (· ≠ ""))
    (hf : ∀ s', Progress desired s' (before ++ rest) →
      Gives (f s') (Reports desired (before ++ rest))) :
    Gives (attachVolumes s rest >>= f) (Reports desired before) := by
  induction rest generalizing s before with
  | nil =>
    rw [List.append_nil] at hf
    rw [attachVolumes, pure_bind]
    exact hf s progress
  | cons v rest ih =>
    rw [attachVolumes, bind_assoc]
    have attach : Gives (ask s.region (.attachVolume s.id v) ("attach volume " ++ v)) fun r es =>
        (∀ u, r = some (.ok u) → attachedVolumes es = [v]) ∧
          ∀ e, r = some (.error e) → attachedVolumes es = [] :=
      gives_ask (fun _ _ => ⟨fun _ _ => rfl, fun _ h => (nomatch h)⟩)
        fun _ _ => ⟨fun _ h => (nomatch h), fun _ _ => rfl⟩
    refine (gives_within attach).bind ?_ ?_ fun es _ e he => nomatch he
    · rintro _ es ⟨hes, -⟩
      have split : before ++ [v] ++ rest = before ++ v :: rest := by simp
      have next := progress.attach (split.trans wanted)
      refine (ih next (split.trans wanted) ?_).mono fun r es' h => Reports.prepend ?_
      · rw [split]
        exact hf
      · rw [hes _ rfl]
        exact h
    · rintro _ es ⟨cause, rfl, -, hes⟩
      refine Progress.reports ?_
      rwa [hes _ rfl, List.append_nil]

/-! ### The calls -/

/-- The call looks at something or adds something to an instance that is there. -/
def Call.Furnishes : Call → Prop
  | .getServer _ | .inquireTask _ | .listNetworks | .listPublicIps => True
  | .attachVolume _ _ | .attachFloatingIp _ _ => True
  | _ => False

/-- The call furnishes an instance, but with no volume. -/
def Call.FurnishesOther (c : Call) : Prop := c.Furnishes ∧ c.LeavesVolumes

theorem makes_awaitBuilt : (awaitBuilt t s deadline).Makes Call.FurnishesOther := by
  have lookUp : (lookUpBuilt s).Makes Call.FurnishesOther := by
    rw [lookUpBuilt]
    split
    · exact makes_request ⟨trivial, fun _ _ => Call.noConfusion⟩
    · exact makes_request ⟨trivial, fun _ _ => Call.noConfusion⟩
  have look (latest : Option ServerDetail) : (buildCheck s latest).Makes Call.FurnishesOther := by
    refine lookUp.bind fun o => ?_
    cases o <;> trivial
  have wait : ((t.wait deadline).run (buildCheck s) none).Makes Call.FurnishesOther :=
    makes_clock.bind fun started => makes_loop look started _ _ _
  exact wait.bind fun _ => trivial

theorem makes_awaitNetworks :
    (awaitNetworks t desired s deadline).run.Makes Call.FurnishesOther := by
  rw [awaitNetworks]
  split_ifs
  · trivial
  · have look : (networksCheck s.region s.id desired.requestedNetworks).Makes
        Call.FurnishesOther := by
      refine Program.Makes.bind (makes_request ⟨trivial, fun _ _ => Call.noConfusion⟩) fun o => ?_
      cases o with
      | error e => trivial
      | ok listing => exact .ite trivial trivial
    exact (makes_poll look).bind fun _ => trivial

theorem makes_bindInitialFloatingIp {binding : FloatingIpBinding} :
    (bindInitialFloatingIp s binding).run.Makes Call.FurnishesOther := by
  rw [bindInitialFloatingIp]
  split
  · trivial
  · have listed : (publicIpState s.region s.id).run.Makes Call.FurnishesOther :=
      Program.Makes.run_bind (.run_ask ⟨trivial, fun _ _ => Call.noConfusion⟩) fun _ => trivial
    refine listed.run_bind fun held => ?_
    split
    · trivial
    · trivial
    · exact .run_ask ⟨trivial, fun _ _ => Call.noConfusion⟩

theorem makes_within {allowed : Call → Prop} {step : Task α} (h : step.run.Makes allowed) :
    (within s step).run.Makes allowed := by
  refine Program.Makes.bind h fun r => ?_
  cases r <;> trivial

theorem makes_attachVolumes (volumes : List String) :
    (attachVolumes s volumes).run.Makes Call.Furnishes := by
  induction volumes generalizing s with
  | nil => trivial
  | cons v volumes ih => exact (makes_within (.run_ask trivial)).run_bind fun _ => ih

/-- **After the order** a creation only looks and adds. -/
theorem makes_convergeCreated : (convergeCreated t desired s).run.Makes Call.Furnishes := by
  rw [convergeCreated]
  refine Program.Makes.run_bind (makes_clock.bind fun _ => trivial) fun deadline => ?_
  have built : (awaitBuilt t s deadline).Makes Call.Furnishes :=
    makes_awaitBuilt.mono fun _ h => h.1
  refine Program.Makes.run_bind (built.bind fun _ => trivial) fun ⟨latest, built⟩ => ?_
  refine Program.Makes.run_bind (makes_within trivial) fun _ => ?_
  refine Program.Makes.run_bind (makes_within (makes_awaitNetworks.mono fun _ h => h.1))
    fun networks => ?_
  refine Program.Makes.run_bind (makes_attachVolumes _) fun s' => ?_
  split
  · trivial
  · exact (makes_within (makes_bindInitialFloatingIp.mono fun _ h => h.1)).run_bind fun _ => trivial

/-! ### The whole creation -/

theorem progress_ordered {created : CreatedServer} :
    Progress desired (.ordered desired created) [] where
  applied := rfl
  floatingIp := rfl
  networks := .inl rfl
  volumes := rfl
  initial := List.nil_prefix

/-- A look at an instance being built changes nothing of this. -/
theorem Progress.afterBuild (h : Progress desired s before) (latest : Option ServerDetail) :
    Progress desired (s.afterBuild latest) before := by
  cases latest with
  | none => exact h
  | some detail => exact ⟨h.applied, h.floatingIp, h.networks, h.volumes, h.initial⟩

/-- **After the order** every failure accounts for what was done. -/
theorem gives_convergeCreated (start : Progress desired s []) :
    Gives (convergeCreated t desired s) (Reports desired []) := by
  rw [convergeCreated]
  refine gives_lift_bind (makes_clock.bind fun _ => trivial) fun deadline => ?_
  refine gives_lift_bind (makes_awaitBuilt.mono fun _ h => h.2) fun ⟨latest, result⟩ => ?_
  have built := start.afterBuild latest
  refine gives_within_bind built trivial (fun _ _ _ _ _ => trivial) fun _ (_ : True) => ?_
  refine gives_within_bind built (makes_awaitNetworks.mono fun _ h => h.2)
    (gives_awaitNetworks.mono fun _ _ h networks hr => (h.connected networks hr).ready)
    fun networks ready => ?_
  have seen : Progress desired { s.afterBuild latest with networks } [] :=
    { built with networks := .inr ready }
  refine gives_attachVolumes_bind seen (List.nil_append _) fun s' attached => ?_
  split
  · exact gives_pure fun _ he => nomatch he
  · refine gives_within_bind attached (makes_bindInitialFloatingIp.mono fun _ h => h.2)
      (fun _ _ _ _ _ => trivial) fun _ (_ : True) => ?_
    exact gives_pure fun _ he => nomatch he

/-- **What a creation gives**: what it ends with, and its exchanges. -/
inductive CreationAccount (desired : InstanceSpec) :
    Option (Except Failure InstanceState) → List Exchange → Prop where
  /-- A configuration that names a snapshot to revert to is refused before any call. -/
  | refused {snapshotId : String} (asked : desired.revertToSnapshotId = some snapshotId) :
    CreationAccount desired (some (.error (.unsupportedFor
      ("cannot revert to snapshot " ++ snapshotId ++ " while creating an instance")))) []
  /-- If the order fails, no other call is made. -/
  | rejected {start : Instant} {e : RemoteError} (none_asked : desired.revertToSnapshotId = none) :
    CreationAccount desired (some (.error (.remote "create instance" e)))
      [⟨start, desired.region, .createServer (creationOrder desired), .error e⟩]
  /-- After the order a creation only looks and adds, and its failure accounts for what was done. -/
  | ordered {start : Instant} {created : CreatedServer} {r : Option (Except Failure InstanceState)}
    {es : List Exchange} (none_asked : desired.revertToSnapshotId = none)
    (furnishes : ∀ e ∈ es, e.call.Furnishes)
    (failure : ∀ e, r = some (.error e) →
      ∃ s cause, e = .incomplete s cause ∧ Progress desired s (attachedVolumes es)) :
    CreationAccount desired r
      (⟨start, desired.region, .createServer (creationOrder desired), .ok created⟩ :: es)

/-- **Every creation accounts for what was done**, whoever answers its calls. -/
theorem createInstance_account (t : Tuning) (desired : InstanceSpec) (p : Provider σ)
    (w : World σ) :
    CreationAccount desired ((createInstance t desired).run.exec p w).1
      ((createInstance t desired).run.trace p w) := by
  rw [createInstance]
  cases hrevert : desired.revertToSnapshotId with
  | some snapshotId => exact .refused hrevert
  | none =>
    dsimp only
    rw [exec_run_bind, trace_run_bind, exec_run_ask, trace_run_ask]
    cases w.outcome p desired.region (.createServer (creationOrder desired)) with
    | error e => exact .rejected hrevert
    | ok created =>
      refine .ordered hrevert (fun e he => ?_) ?_
      · exact makes_convergeCreated.call_mem he
      · exact gives_convergeCreated progress_ordered σ p _

end Reconciler
