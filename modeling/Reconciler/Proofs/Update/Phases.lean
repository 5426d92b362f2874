import Reconciler.Proofs.Straight
import Reconciler.Proofs.Update.Answers

/-!
# The phases of an update

An update waits in two phases only: while it gives the instance a new flavor, and while it gives it
a larger root disk. Everything before, between and after them goes straight through and does not
even look at the instance. So an update falls apart into three straight parts and two phases, each
of which has a deadline of its own.

## What is proved

* `resizeFlavor_eq`, `growRootDisk_eq`: each phase begins by setting its deadline.
* `updateInstance_eq_phases`: the parts of an update.
* `straight_untilFlavor`, `straight_betweenPhases`, `straight_afterDisk`: the parts that go straight
  through.
* `CarriesOver.flavorPhase`, `CarriesOver.diskPhase`, `CarriesOver.updateInstance`: two updates are
  related if their waits and their phases are, by any relation that carries over from the parts of a
  task to the whole.
-/

namespace Reconciler

variable {t : Tuning} {region : Region} {id : InstanceId} {observed : InstanceState}
  {desired : InstanceSpec}

/-! ### The two phases -/

/-- The phase that gives an instance a new flavor, by a deadline. -/
def flavorPhase (t : Tuning) (observed : InstanceState) (desired : InstanceSpec)
    (deadline : Instant) : Task Unit := do
  ask observed.region (.powerOff observed.id) "power off instance"
  awaitStatus t observed.region observed.id .shutoff "power off" deadline
  ask observed.region (.resizeServer observed.id desired.flavorId) "resize instance"
  ask observed.region (.powerOn observed.id) "power on instance"
  awaitStatus t observed.region observed.id .active "power on" deadline

/-- Powers an instance off, if it runs by the time its root disk is seen to. -/
def powerOffForDisk (observed : InstanceState) (desired : InstanceSpec) : Task Unit :=
  if statusAfterFlavor observed desired = .active then
    ask observed.region (.powerOff observed.id) "power off instance"
  else return ()

/-- The phase that gives the root disk of an instance the desired size, by a deadline. -/
def diskPhase (t : Tuning) (observed : InstanceState) (desired : InstanceSpec)
    (deadline : Instant) : Task Unit := do
  powerOffForDisk observed desired
  awaitStatus t observed.region observed.id .shutoff "power off" deadline
  ask observed.region (.resizeRootVolume observed.id desired.diskSize) "resize root volume"
  awaitStatus t observed.region observed.id .active "root volume resize" deadline

/-- The flavor is to change. -/
def FlavorDue (observed : InstanceState) (desired : InstanceSpec) : Prop :=
  observed.applied.flavorId ≠ desired.flavorId

/-- The root disk is to change, and it can. -/
def DiskDue (observed : InstanceState) (desired : InstanceSpec) : Prop :=
  observed.applied.diskSize ≠ desired.diskSize ∧ rootDiskRefusal? observed desired = none

instance : Decidable (FlavorDue observed desired) := inferInstanceAs (Decidable (_ ≠ _))

instance : Decidable (DiskDue observed desired) := inferInstanceAs (Decidable (_ ∧ _))

/-- **A phase that is due**: it sets its deadline and goes on by it. -/
def phase (t : Tuning) (body : Instant → Task Unit) : Task Unit :=
  liftM (deadlineAfter t.timeouts.update) >>= body

theorem resizeFlavor_eq : resizeFlavor t observed desired = (do
    if FlavorDue observed desired then phase t (flavorPhase t observed desired)
    return statusAfterFlavor observed desired) := by
  by_cases same : observed.applied.flavorId = desired.flavorId
  · have settled : ¬ FlavorDue observed desired := not_not_intro same
    rw [resizeFlavor, statusAfterFlavor, if_pos same, if_pos same, if_neg settled]
  · have due : FlavorDue observed desired := same
    rw [resizeFlavor, statusAfterFlavor, if_neg same, if_neg same, if_pos due]
    simp only [phase, flavorPhase, bind_assoc]

/-- Why the root disk does not change: there is nothing to change, or it cannot. -/
def diskVerdict (observed : InstanceState) (desired : InstanceSpec) : Task Unit :=
  if observed.applied.diskSize = desired.diskSize then return ()
  else
    match rootDiskRefusal? observed desired with
    | some refusal => throw refusal
    | none => return ()

theorem growRootDisk_eq :
    growRootDisk t observed (statusAfterFlavor observed desired) desired = (do
      if DiskDue observed desired then phase t (diskPhase t observed desired)
      else diskVerdict observed desired
      return statusAfterUpdate observed desired) := by
  rw [growRootDisk, diskVerdict, statusAfterUpdate]
  by_cases same : observed.applied.diskSize = desired.diskSize
  · simp only [if_pos same, if_neg fun due : DiskDue observed desired => due.1 same, pure_bind]
  · rw [if_neg same, if_neg same, if_neg same]
    cases refused : rootDiskRefusal? observed desired with
    | some refusal =>
      have refusing : ¬ DiskDue observed desired := fun due =>
        absurd (refused.symm.trans due.2) (Option.some_ne_none _)
      rw [if_neg refusing]
      rfl
    | none =>
      have due : DiskDue observed desired := ⟨same, refused⟩
      rw [if_pos due, phase, bind_assoc]
      refine bind_congr fun deadline => ?_
      rw [diskPhase, powerOffForDisk]
      split_ifs <;> simp only [bind_assoc, pure_bind]

/-! ### The parts that go straight through -/

/-- An update up to the flavor, with its guard: the groups that it has brought about. -/
def untilFlavor (observed : InstanceState) (desired : InstanceSpec) : Task IdSet :=
  match immutableViolations observed.applied desired with
  | [] => do
    rename observed desired
    convergeGroups observed desired
  | reasons => throw (.unsupported reasons)

/-- An update from the flavor up to the root disk: the volumes and the attachments that it has
brought about. -/
def betweenPhases (observed : InstanceState) (desired : InstanceSpec) :
    Task (IdSet × List NetworkAttachment) := do
  let volumes ← convergeVolumes observed desired
  let networks ← convergeNetworks observed desired
  return (volumes, networks)

/-- An update from the root disk on, with the groups, the volumes and the attachments that it has
brought about. -/
def afterDisk (observed : InstanceState) (desired : InstanceSpec) (securityGroups volumes : IdSet)
    (networks : List NetworkAttachment) : Task InstanceState := do
  let _ ← convergeFloatingIp observed networks desired
  revertSnapshot observed desired
  return { observed with
    status := statusAfterUpdate observed desired
    applied := desired
    networks
    volumes
    securityGroups
    floatingIp := desired.floatingIp }

/-- An update up to the root disk, with its guard: the groups, the volumes and the attachments that
it has brought about. -/
def untilDisk (t : Tuning) (observed : InstanceState) (desired : InstanceSpec) :
    Task (IdSet × IdSet × List NetworkAttachment) := do
  let groups ← untilFlavor observed desired
  let _ ← resizeFlavor t observed desired
  let (volumes, networks) ← betweenPhases observed desired
  return (groups, volumes, networks)

/-- **The parts of an update.** -/
theorem updateInstance_eq_phases : updateInstance t observed desired = (do
    let (groups, volumes, networks) ← untilDisk t observed desired
    let _ ← growRootDisk t observed (statusAfterFlavor observed desired) desired
    afterDisk observed desired groups volumes networks) := by
  rw [updateInstance, untilDisk, untilFlavor]
  cases immutableViolations observed.applied desired with
  | nil =>
    simp only [convergeExisting_eq, betweenPhases, afterDisk, bind_assoc, pure_bind]
  | cons reason reasons => rfl

/-- The call does not look at an instance. -/
def Call.LooksAway : Call → Prop
  | .getServer _ => False
  | _ => True

theorem straight_performEdits {perform : Edit → Task Unit}
    (h : ∀ e, GoesStraight Call.LooksAway (perform e)) (script : List Edit) (s : IdSet) :
    GoesStraight Call.LooksAway (performEdits perform script s) := by
  induction script generalizing s with
  | nil => exact goesStraight_pure s
  | cons e es ih => exact (h e).bind fun _ => ih _

theorem straight_convergeGroups :
    GoesStraight Call.LooksAway (convergeGroups observed desired) := by
  refine straight_performEdits (fun e => ?_) _ _
  cases e <;> exact goesStraight_ask trivial

theorem straight_convergeVolumes :
    GoesStraight Call.LooksAway (convergeVolumes observed desired) := by
  refine straight_performEdits (fun e => ?_) _ _
  cases e <;> exact goesStraight_ask trivial

theorem straight_detachFrom {a : NetworkAttachment} :
    GoesStraight Call.LooksAway (detachFrom region id a) :=
  .ite (goesStraight_ask trivial) (goesStraight_pure ())

theorem straight_attachTo {listing : List Network} {r : NetworkRequest} :
    GoesStraight Call.LooksAway (attachTo region id listing r) := by
  have subnet : GoesStraight Call.LooksAway
      (attachTo.liftExcept (subnetFor listing r.networkId)) := by
    rw [subnetFor]
    split
    · exact goesStraight_throw (e := .unknownNetwork _) trivial
    · split
      · exact goesStraight_throw (e := .networkWithoutSubnet _) trivial
      · exact goesStraight_pure _
  exact subnet.bind fun _ => .bind (goesStraight_ask trivial) fun _ => goesStraight_pure _

theorem straight_detachUnwanted (kept : IdMap NetworkAttachment) (as : List NetworkAttachment) :
    GoesStraight Call.LooksAway (detachUnwanted region id desired kept as) := by
  induction as generalizing kept with
  | nil => exact goesStraight_pure kept
  | cons a as ih =>
    rw [detachUnwanted]
    exact .ite (ih _) (straight_detachFrom.bind fun _ => ih _)

theorem straight_meetRequest {listing : List Network} {kept : IdMap NetworkAttachment}
    {r : NetworkRequest} : GoesStraight Call.LooksAway (meetRequest region id listing kept r) := by
  rw [meetRequest]
  split
  · exact straight_attachTo
  · exact .ite (goesStraight_pure _) (straight_detachFrom.bind fun _ => straight_attachTo)

theorem straight_meetRequests {listing : List Network} (kept : IdMap NetworkAttachment)
    (met : List NetworkAttachment) (rs : List NetworkRequest) :
    GoesStraight Call.LooksAway (meetRequests region id listing kept met rs) := by
  induction rs generalizing kept met with
  | nil => exact goesStraight_pure met
  | cons r rs ih =>
    rw [meetRequests]
    exact .ite (ih _ _) (straight_meetRequest.bind fun _ => ih _ _)

theorem straight_convergeNetworks :
    GoesStraight Call.LooksAway (convergeNetworks observed desired) := by
  refine (straight_detachUnwanted _ _).bind fun kept => ?_
  split_ifs
  · exact (goesStraight_pure []).bind fun _ => straight_meetRequests _ _ _
  · exact GoesStraight.bind (goesStraight_ask trivial) fun _ => straight_meetRequests _ _ _

theorem straight_betweenPhases : GoesStraight Call.LooksAway (betweenPhases observed desired) :=
  straight_convergeVolumes.bind fun _ =>
    straight_convergeNetworks.bind fun _ => goesStraight_pure _

theorem straight_unbindFloatingIp {previous : FloatingIpBinding} :
    GoesStraight Call.LooksAway (unbindFloatingIp observed previous) := by
  rw [unbindFloatingIp]
  split
  · exact goesStraight_pure ()
  · refine goesStraight_request trivial fun o => ?_
    cases o with
    | ok _ => exact goesStraight_pure ()
    | error e =>
      exact .ite (goesStraight_pure ())
        (goesStraight_throw (e := .remote "detach floating ip" e) trivial)

theorem straight_publicIpState :
    GoesStraight Call.LooksAway (publicIpState region id) :=
  .bind (goesStraight_ask trivial) fun _ => goesStraight_pure _

theorem straight_bindNextFloatingIp {networks : List NetworkAttachment}
    {next : FloatingIpBinding} :
    GoesStraight Call.LooksAway (bindNextFloatingIp observed networks next) := by
  rw [bindNextFloatingIp]
  split
  · exact goesStraight_throw (e := .missingAttachment _ _) trivial
  · refine straight_publicIpState.bind fun held => ?_
    split_ifs
    · exact (goesStraight_throw (e := publicIpConflict _) trivial).bind fun _ =>
        goesStraight_ask trivial
    · exact goesStraight_ask trivial

theorem straight_convergeFloatingIp {networks : List NetworkAttachment} :
    GoesStraight Call.LooksAway (convergeFloatingIp observed networks desired) := by
  rw [convergeFloatingIp]
  split_ifs
  · exact goesStraight_pure _
  · cases observed.floatingIp <;> cases desired.floatingIp
    case neg.none.none => exact goesStraight_pure _
    case neg.none.some => exact straight_bindNextFloatingIp.bind fun _ => goesStraight_pure _
    case neg.some.none => exact straight_unbindFloatingIp.bind fun _ => goesStraight_pure _
    case neg.some.some =>
      exact straight_unbindFloatingIp.bind fun _ =>
        straight_bindNextFloatingIp.bind fun _ => goesStraight_pure _

theorem straight_revertSnapshot :
    GoesStraight Call.LooksAway (revertSnapshot observed desired) := by
  refine .ite (goesStraight_pure ()) ?_
  split
  · exact goesStraight_pure ()
  · exact goesStraight_ask trivial

theorem straight_afterDisk {securityGroups volumes : IdSet} {networks : List NetworkAttachment} :
    GoesStraight Call.LooksAway (afterDisk observed desired securityGroups volumes networks) :=
  straight_convergeFloatingIp.bind fun _ =>
    straight_revertSnapshot.bind fun _ => goesStraight_pure _

theorem straight_untilFlavor : GoesStraight Call.LooksAway (untilFlavor observed desired) := by
  rw [untilFlavor]
  split
  · have name : GoesStraight Call.LooksAway (rename observed desired) :=
      .ite (goesStraight_pure ()) (goesStraight_ask trivial)
    exact name.bind fun _ => straight_convergeGroups
  · exact goesStraight_throw (e := .unsupported _) trivial

theorem straight_diskVerdict : GoesStraight Call.LooksAway (diskVerdict observed desired) := by
  refine .ite (goesStraight_pure ()) ?_
  rw [rootDiskRefusal?]
  split_ifs
  · exact goesStraight_throw (e := .unsupportedFor _) trivial
  · exact goesStraight_throw (e := .unsupportedFor _) trivial
  · exact goesStraight_pure ()

theorem straight_powerOffForDisk :
    GoesStraight Call.LooksAway (powerOffForDisk observed desired) :=
  .ite (goesStraight_ask trivial) (goesStraight_pure ())

/-! ### From the parts to the whole -/

/-- **A relation between tasks carries over** from parts to wholes: what goes straight through and
does not look at the instance is related to itself, and two tasks in a row are related to two others
if each is related to its counterpart. -/
structure CarriesOver (related : (α : Type) → Task α → Task α → Prop) : Prop where
  /-- What goes straight through is related to itself. -/
  straight : ∀ {α : Type} {x : Task α}, GoesStraight Call.LooksAway x → related α x x
  /-- Two tasks in a row. -/
  bind : ∀ {α β : Type} {x x' : Task β} {f f' : β → Task α}, related β x x' →
    (∀ b, related α (f b) (f' b)) → related α (x >>= f) (x' >>= f')

namespace CarriesOver

variable {related : (α : Type) → Task α → Task α → Prop} (t t' : Tuning)
  (deadline deadline' : Instant)

/-- A call that does not look at the instance. -/
theorem ask (h : CarriesOver related) (c : Call) (action : String) (away : c.LooksAway) :
    related c.Answer (Reconciler.ask region c action) (Reconciler.ask region c action) :=
  h.straight (goesStraight_ask away)

/-- **The phase of the flavor** is related to its counterpart if its waits are. -/
theorem flavorPhase (h : CarriesOver related)
    (await : ∀ target action, related Unit
      (awaitStatus t observed.region observed.id target action deadline)
      (awaitStatus t' observed.region observed.id target action deadline')) :
    related Unit (Reconciler.flavorPhase t observed desired deadline)
      (Reconciler.flavorPhase t' observed desired deadline') := by
  refine h.bind (h.ask (.powerOff observed.id) _ trivial) fun _ => ?_
  refine h.bind (await _ _) fun _ => ?_
  refine h.bind (h.ask (.resizeServer observed.id desired.flavorId) _ trivial) fun _ => ?_
  refine h.bind (h.ask (.powerOn observed.id) _ trivial) fun _ => ?_
  exact await _ _

/-- **The phase of the root disk**, likewise. -/
theorem diskPhase (h : CarriesOver related)
    (await : ∀ target action, related Unit
      (awaitStatus t observed.region observed.id target action deadline)
      (awaitStatus t' observed.region observed.id target action deadline')) :
    related Unit (Reconciler.diskPhase t observed desired deadline)
      (Reconciler.diskPhase t' observed desired deadline') := by
  refine h.bind (h.straight straight_powerOffForDisk) fun _ => ?_
  refine h.bind (await _ _) fun _ => ?_
  refine h.bind (h.ask (.resizeRootVolume observed.id desired.diskSize) _ trivial) fun _ => ?_
  exact await _ _

/-- **An update** is related to its counterpart if its phases are. -/
theorem updateInstance (h : CarriesOver related)
    (flavor : related Unit (phase t (Reconciler.flavorPhase t observed desired))
      (phase t' (Reconciler.flavorPhase t' observed desired)))
    (disk : related Unit (phase t (Reconciler.diskPhase t observed desired))
      (phase t' (Reconciler.diskPhase t' observed desired))) :
    related InstanceState (Reconciler.updateInstance t observed desired)
      (Reconciler.updateInstance t' observed desired) := by
  have resize : related Status (resizeFlavor t observed desired)
      (resizeFlavor t' observed desired) := by
    rw [resizeFlavor_eq, resizeFlavor_eq]
    split_ifs
    · exact h.bind flavor fun _ => h.straight (goesStraight_pure _)
    · exact h.straight (goesStraight_pure _)
  have grow : related Status
      (growRootDisk t observed (statusAfterFlavor observed desired) desired)
      (growRootDisk t' observed (statusAfterFlavor observed desired) desired) := by
    rw [growRootDisk_eq, growRootDisk_eq]
    split_ifs
    · exact h.bind disk fun _ => h.straight (goesStraight_pure _)
    · exact h.bind (h.straight straight_diskVerdict) fun _ => h.straight (goesStraight_pure _)
  have start : related _ (untilDisk t observed desired) (untilDisk t' observed desired) :=
    h.bind (h.straight straight_untilFlavor) fun _ => h.bind resize fun _ =>
      h.straight (straight_betweenPhases.bind fun _ => goesStraight_pure _)
  rw [updateInstance_eq_phases, updateInstance_eq_phases]
  exact h.bind start fun _ => h.bind grow fun _ => h.straight straight_afterDisk

end CarriesOver

end Reconciler
