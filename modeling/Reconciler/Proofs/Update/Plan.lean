import Reconciler.Proofs.Update.Moves
import Reconciler.Proofs.Update.Steps

/-!
# The plan of an update

The moves of an update past its guard, step by step. What an update does to the networks depends on
what it is told of them, so there the plan only says which calls are made; everywhere else it fixes
the calls, their order and the waits between them.

## What is proved

* `follows_convergeExisting`: the steps of an update follow its plan, one after the other.
-/

namespace Reconciler

variable {α β : Type} {t : Tuning} {s : InstanceState} {d : InstanceSpec}

/-! ### The plans of the steps -/

/-- To make one of some lists of moves. -/
def oneOf {ι : Type} (moves : ι → List Move) : Language Move := {ms | ∃ i, ms = moves i}

/-- To give the instance the desired name, if it has another. -/
def renamePlan (s : InstanceState) (d : InstanceSpec) : Language Move :=
  if s.applied.name = d.name then 1 else {[.ask (.renameServer s.id d.name) "rename instance"]}

/-- To make the additions that lead from one set to another in ascending order, and then the
removals in ascending order. The empty identifier is passed over. -/
def editPlan (move : Edit → Move) (desired observed : IdSet) : Language Move :=
  {moves | ∃ added removed : List String,
    added.Pairwise (· < ·) ∧ (∀ x, x ∈ added ↔ x ∈ desired ∧ x ∉ observed ∧ x ≠ "") ∧
    removed.Pairwise (· < ·) ∧ (∀ x, x ∈ removed ↔ x ∈ observed ∧ x ∉ desired ∧ x ≠ "") ∧
    moves = added.map (move <| .add ·) ++ removed.map (move <| .remove ·)}

/-- Puts the instance into a security group or takes it out. -/
def groupMove (s : InstanceState) : Edit → Move
  | .add id => .ask (.joinGroup s.id id) ("add security group " ++ id)
  | .remove id => .ask (.leaveGroup s.id id) ("remove security group " ++ id)

/-- Attaches a volume to the instance or detaches it. -/
def volumeMove (s : InstanceState) : Edit → Move
  | .add id => .ask (.attachVolume s.id id) ("attach volume " ++ id)
  | .remove id => .ask (.detachVolume s.id id) ("detach volume " ++ id)

/-- To bring the groups to the desired ones. -/
def groupPlan (s : InstanceState) (d : InstanceSpec) : Language Move :=
  editPlan (groupMove s) d.securityGroups s.securityGroups

/-- To bring the volumes to the desired ones. -/
def volumePlan (s : InstanceState) (d : InstanceSpec) : Language Move :=
  editPlan (volumeMove s) d.volumes s.volumes

/-- The moves to another flavor. -/
def flavorMoves (s : InstanceState) (d : InstanceSpec) (deadline : Instant) : List Move :=
  [.ask (.powerOff s.id) "power off instance",
    .await .shutoff "power off" deadline,
    .ask (.resizeServer s.id d.flavorId) "resize instance",
    .ask (.powerOn s.id) "power on instance",
    .await .active "power on" deadline]

/-- To give the instance the desired flavor, if it has another. -/
def flavorPlan (s : InstanceState) (d : InstanceSpec) : Language Move :=
  if s.applied.flavorId = d.flavorId then 1 else oneOf (flavorMoves s d)

/-- A move that lists the networks, or attaches the instance to a network or detaches it. -/
def Move.OnNetworks (s : InstanceState) : Move → Prop
  | .ask .listNetworks _ => True
  | .ask (.attachNetwork _ request) _ => request.serverId = s.id
  | .ask (.detachNetwork _ id) _ => id = s.id
  | _ => False

/-- To make calls for the networks. -/
def networkPlan (s : InstanceState) : Language Move := {moves | ∀ m ∈ moves, m.OnNetworks s}

/-- The moves to a larger root disk. An instance that runs is powered off for it. -/
def diskMoves (s : InstanceState) (d : InstanceSpec) (deadline : Instant) : List Move :=
  (if statusAfterFlavor s d = .active then [.ask (.powerOff s.id) "power off instance"] else []) ++
    [.await .shutoff "power off" deadline,
      .ask (.resizeRootVolume s.id d.diskSize) "resize root volume",
      .await .active "root volume resize" deadline]

/-- To give the root disk the desired size, if it has another and can be given it. -/
def diskPlan (s : InstanceState) (d : InstanceSpec) : Language Move :=
  if s.applied.diskSize = d.diskSize ∨ (rootDiskRefusal? s d).isSome then 1
  else oneOf (diskMoves s d)

/-- To unbind the floating address from the port it is tracked on. -/
def unbindPlan (s : InstanceState) : Language Move :=
  match s.floatingIp.bind fun previous => attachedTo? s.networks previous.networkId with
  | none => 1
  | some a => {[.unbind a.portId]}

/-- The moves that bind a floating address to the port of an attachment. -/
def bindMoves (s : InstanceState) (next : FloatingIpBinding) (target : NetworkAttachment) :
    List Move :=
  [.ask .listPublicIps "fetch server ip info",
    .ask (.attachFloatingIp next.floatingIpId
        { serverId := s.id, subnetId := target.subnetId, portId := target.portId })
      "attach floating ip"]

/-- To bind the desired floating address to a port. -/
def bindPlan (s : InstanceState) (d : InstanceSpec) : Language Move :=
  match d.floatingIp with
  | none => 1
  | some next => oneOf (bindMoves s next)

/-- To bring the floating address to the desired one, if it is another. -/
def floatingIpPlan (s : InstanceState) (d : InstanceSpec) : Language Move :=
  if s.floatingIp = d.floatingIp then 1 else unbindPlan s * bindPlan s d

/-- To take the instance back to the desired snapshot, if one is asked for that was not before. -/
def revertPlan (s : InstanceState) (d : InstanceSpec) : Language Move :=
  if s.applied.revertToSnapshotId = d.revertToSnapshotId then 1
  else
    match d.revertToSnapshotId with
    | none => 1
    | some snapshotId =>
      {[.ask (.revertSnapshot s.id snapshotId) ("revert to snapshot " ++ snapshotId)]}

/-- **The plan of an update** past its guard. -/
def updatePlan (s : InstanceState) (d : InstanceSpec) : Language Move :=
  renamePlan s d * (groupPlan s d * (flavorPlan s d * (volumePlan s d * (networkPlan s *
    (diskPlan s d * (floatingIpPlan s d * revertPlan s d))))))

/-! ### What the steps follow -/

/-- One move and then a list of moves. -/
theorem Follows.cons {x : Task β} {f : β → Task α} {m : Move} {moves : List Move}
    (h : Follows t s x {[m]}) (hf : ∀ b, Follows t s (f b) {moves}) :
    Follows t s (x >>= f) {m :: moves} := by
  refine (h.bind hf ⟨moves, rfl⟩).mono ?_
  rintro _ ⟨_, rfl, _, rfl, rfl⟩
  rfl

theorem Follows.oneOf {ι : Type} {task : Task α} {moves : ι → List Move} (i : ι)
    (h : Follows t s task {moves i}) : Follows t s task (oneOf moves) :=
  h.mono fun _ hms => ⟨i, hms⟩

theorem follows_rename : Follows t s (rename s d) (renamePlan s d) := by
  rw [rename, renamePlan]
  split_ifs
  · exact follows_pure ()
  · exact follows_ask _ _

theorem follows_performEdits {step : Edit → Task Unit} {move : Edit → Move}
    (h : ∀ e, Follows t s (step e) {[move e]}) (script : List Edit) (set : IdSet) :
    Follows t s (performEdits step script set) {script.map move} := by
  induction script generalizing set with
  | nil => exact follows_pure set
  | cons e script ih => exact (h e).cons fun _ => ih _

/-- **A step that performs an edit script** makes the edits in the order of the plan. -/
theorem follows_editScript {step : Edit → Task Unit} {move : Edit → Move}
    (h : ∀ e, Follows t s (step e) {[move e]}) (desired observed : IdSet) :
    Follows t s (performEdits step (editScript desired observed) observed)
      (editPlan move desired observed) := by
  refine (follows_performEdits h _ _).mono ?_
  rintro _ rfl
  refine ⟨desired.members.filter fun x => x ∉ observed ∧ x ≠ "",
    observed.members.filter fun x => x ∉ desired ∧ x ≠ "", desired.ascending.filter _, fun x => ?_,
    observed.ascending.filter _, fun x => ?_, ?_⟩
  · rw [List.mem_filter, decide_eq_true_iff, IdSet.mem_members]
  · rw [List.mem_filter, decide_eq_true_iff, IdSet.mem_members]
  · rw [editScript, List.map_append, List.map_map, List.map_map]
    rfl

theorem follows_convergeGroups : Follows t s (convergeGroups s d) (groupPlan s d) := by
  refine follows_editScript (fun e => ?_) _ _
  cases e <;> exact follows_ask _ _

theorem follows_convergeVolumes : Follows t s (convergeVolumes s d) (volumePlan s d) := by
  refine follows_editScript (fun e => ?_) _ _
  cases e <;> exact follows_ask _ _

theorem follows_resizeFlavor : Follows t s (resizeFlavor t s d) (flavorPlan s d) := by
  rw [resizeFlavor, flavorPlan]
  split_ifs
  · exact follows_pure s.status
  · refine follows_deadlineAfter fun deadline => ?_
    refine Follows.oneOf deadline ?_
    refine (follows_ask _ _).cons fun _ => ?_
    refine (follows_move (.await .shutoff "power off" deadline)).cons fun _ => ?_
    refine (follows_ask _ _).cons fun _ => ?_
    refine (follows_ask _ _).cons fun _ => ?_
    exact (follows_move (.await .active "power on" deadline)).andPure

theorem follows_growRootDisk :
    Follows t s (growRootDisk t s (statusAfterFlavor s d) d) (diskPlan s d) := by
  rw [growRootDisk, diskPlan]
  by_cases h : s.applied.diskSize = d.diskSize
  · rw [if_pos h, if_pos (.inl h)]
    exact follows_pure _
  rw [if_neg h]
  cases hr : rootDiskRefusal? s d with
  | some refusal =>
    rw [if_pos (.inr rfl)]
    exact follows_throw ⟨[], Language.nil_mem_one⟩
  | none =>
    rw [if_neg (by simp [h])]
    refine follows_deadlineAfter fun deadline => ?_
    refine Follows.oneOf deadline ?_
    have grow : Follows t s (do
        awaitStatus t s.region s.id .shutoff "power off" deadline
        ask s.region (.resizeRootVolume s.id d.diskSize) "resize root volume"
        awaitStatus t s.region s.id .active "root volume resize" deadline
        return .active : Task Status)
        {[.await .shutoff "power off" deadline,
          .ask (.resizeRootVolume s.id d.diskSize) "resize root volume",
          .await .active "root volume resize" deadline]} := by
      refine (follows_move (.await .shutoff "power off" deadline)).cons fun _ => ?_
      refine (follows_ask _ _).cons fun _ => ?_
      exact (follows_move (.await .active "root volume resize" deadline)).andPure
    rw [diskMoves]
    split_ifs
    · exact (follows_ask _ _).cons fun _ => grow
    · exact grow

/-! ### The networks -/

/-- Calls for the networks, one after the other. -/
theorem Follows.bindNetworks {x : Task β} {f : β → Task α} (h : Follows t s x (networkPlan s))
    (hf : ∀ b, Follows t s (f b) (networkPlan s)) : Follows t s (x >>= f) (networkPlan s) := by
  refine (h.bind hf ⟨[], fun m hm => nomatch hm⟩).mono ?_
  rintro _ ⟨first, hfirst, second, hsecond, rfl⟩ m hm
  rcases List.mem_append.1 hm with hm | hm
  · exact hfirst m hm
  · exact hsecond m hm

theorem follows_networks_pure (a : α) : Follows t s (pure a) (networkPlan s) :=
  (follows_pure a).mono (by rintro _ rfl m hm; nomatch hm)

theorem follows_networks_ask {c : Call} {action : String} (h : (Move.ask c action).OnNetworks s) :
    Follows t s (ask s.region c action) (networkPlan s) :=
  (follows_ask c action).mono (by rintro _ rfl m hm; exact List.mem_singleton.1 hm ▸ h)

theorem follows_detachFrom (a : NetworkAttachment) :
    Follows t s (detachFrom s.region s.id a) (networkPlan s) := by
  rw [detachFrom]
  split_ifs
  · exact follows_networks_ask rfl
  · exact follows_networks_pure ()

theorem follows_attachTo (listing : List Network) (r : NetworkRequest) :
    Follows t s (attachTo s.region s.id listing r) (networkPlan s) := by
  have subnet : Follows t s (attachTo.liftExcept (subnetFor listing r.networkId))
      (networkPlan s) := by
    cases subnetFor listing r.networkId with
    | ok subnet => exact follows_networks_pure subnet
    | error e => exact follows_throw ⟨[], fun m hm => nomatch hm⟩
  refine subnet.bindNetworks fun _ => ?_
  refine Follows.bindNetworks (follows_networks_ask ?_) fun _ => follows_networks_pure _
  rfl

theorem follows_detachUnwanted (kept : IdMap NetworkAttachment)
    (attachments : List NetworkAttachment) :
    Follows t s (detachUnwanted s.region s.id d kept attachments) (networkPlan s) := by
  induction attachments generalizing kept with
  | nil => exact follows_networks_pure kept
  | cons a rest ih =>
    rw [detachUnwanted]
    split_ifs
    · exact ih _
    · exact (follows_detachFrom a).bindNetworks fun _ => ih kept

theorem follows_meetRequest (listing : List Network) (kept : IdMap NetworkAttachment)
    (r : NetworkRequest) :
    Follows t s (meetRequest s.region s.id listing kept r) (networkPlan s) := by
  rw [meetRequest]
  split
  · exact follows_attachTo listing r
  · split_ifs
    · exact follows_networks_pure _
    · exact (follows_detachFrom _).bindNetworks fun _ => follows_attachTo listing r

theorem follows_meetRequests (listing : List Network) (kept : IdMap NetworkAttachment)
    (met : List NetworkAttachment) (requests : List NetworkRequest) :
    Follows t s (meetRequests s.region s.id listing kept met requests) (networkPlan s) := by
  induction requests generalizing kept met with
  | nil => exact follows_networks_pure met
  | cons r rest ih =>
    rw [meetRequests]
    split_ifs
    · exact ih kept met
    · exact (follows_meetRequest listing kept r).bindNetworks fun _ => ih _ _

theorem follows_convergeNetworks : Follows t s (convergeNetworks s d) (networkPlan s) := by
  rw [convergeNetworks]
  refine (follows_detachUnwanted _ _).bindNetworks fun kept => ?_
  have meet (listing : List Network) :=
    follows_meetRequests (t := t) (s := s) listing kept [] d.networks
  show Follows t s (if _ then _ else _) _
  split_ifs
  · exact (follows_networks_pure []).bindNetworks meet
  · refine Follows.bindNetworks (follows_networks_ask ?_) meet
    trivial

/-! ### The floating address -/

theorem follows_unbindFloatingIp {previous : FloatingIpBinding} (h : s.floatingIp = some previous) :
    Follows t s (unbindFloatingIp s previous) (unbindPlan s) := by
  rw [unbindFloatingIp, unbindPlan, h, Option.bind_some]
  cases attachedTo? s.networks previous.networkId with
  | none => exact follows_pure ()
  | some a =>
    have unbind := follows_move (t := t) (s := s) (.unbind a.portId)
    convert unbind using 1
    refine congrArg ExceptT.mk (congrArg (Program.bind _) (funext fun o => ?_))
    cases o <;> rfl

theorem follows_bindNextFloatingIp {next : FloatingIpBinding} (h : d.floatingIp = some next)
    (networks : List NetworkAttachment) :
    Follows t s (bindNextFloatingIp s networks next) (bindPlan s d) := by
  rw [bindNextFloatingIp, bindPlan, h]
  cases attachedTo? networks next.networkId with
  | none => exact follows_throw ⟨_, default, rfl⟩
  | some target =>
    refine Follows.oneOf target ?_
    have held : Follows t s (publicIpState s.region s.id)
        {[.ask .listPublicIps "fetch server ip info"]} := by
      refine (follows_ask _ _).cons fun _ => ?_
      exact follows_pure _
    refine held.cons fun held => ?_
    split_ifs
    · exact follows_throw ⟨_, rfl⟩
    · exact follows_ask _ _

theorem follows_convergeFloatingIp (networks : List NetworkAttachment) :
    Follows t s (convergeFloatingIp s networks d) (floatingIpPlan s d) := by
  rw [convergeFloatingIp, floatingIpPlan]
  split_ifs
  · exact follows_pure _
  have bind : Follows t s (do
      match d.floatingIp with
      | none => pure ()
      | some next => bindNextFloatingIp s networks next
      return d.floatingIp) (bindPlan s d) := by
    cases hd : d.floatingIp with
    | none =>
      rw [bindPlan, hd]
      exact follows_pure _
    | some next => exact (follows_bindNextFloatingIp hd networks).andPure
  cases hs : s.floatingIp with
  | none =>
    have unbind : unbindPlan s = 1 := by rw [unbindPlan, hs]; rfl
    rw [unbind, one_mul]
    exact bind
  | some previous => exact (follows_unbindFloatingIp hs).andThen fun _ => bind

theorem follows_revertSnapshot : Follows t s (revertSnapshot s d) (revertPlan s d) := by
  rw [revertSnapshot, revertPlan]
  split_ifs
  · exact follows_pure ()
  · cases d.revertToSnapshotId with
    | none => exact follows_pure ()
    | some snapshotId => exact follows_ask _ _

/-! ### The whole update -/

/-- **The steps of an update follow its plan**, one after the other. -/
theorem follows_convergeExisting : Follows t s (convergeExisting t s d) (updatePlan s d) := by
  rw [convergeExisting_eq]
  refine follows_rename.andThen fun _ => ?_
  refine follows_convergeGroups.andThen fun groups => ?_
  refine follows_resizeFlavor.andThen fun _ => ?_
  refine follows_convergeVolumes.andThen fun volumes => ?_
  refine follows_convergeNetworks.andThen fun networks => ?_
  refine follows_growRootDisk.andThen fun _ => ?_
  refine (follows_convergeFloatingIp networks).andThen fun _ => ?_
  rw [← mul_one (revertPlan s d)]
  exact follows_revertSnapshot.andThen fun _ => follows_pure _

end Reconciler
