import Reconciler.Proofs.Update.Answers
import Reconciler.Proofs.Update.Membership
import Reconciler.Proofs.Update.Networks

/-!
# The steps of an update

An update that succeeds is a run of its eight steps one after the other, and the state it ends with
is determined by the attachments that the step of the networks ends with.

## What is proved

* `succeeds_convergeExisting_iff`: the runs of the steps.
* `Succeeds.updateInstance_eq`: the state an update ends with.
-/

namespace Reconciler

variable {σ : Type} {p : Provider σ} {w w' : World σ} {es : List Exchange} {t : Tuning}
  {observed s' : InstanceState} {desired : InstanceSpec}

/-- The security groups after an update. -/
def groupsAfterUpdate (observed : InstanceState) (desired : InstanceSpec) : IdSet :=
  applyEdits observed.securityGroups
    (editScript desired.securityGroups observed.securityGroups)

/-- The volumes after an update. -/
def volumesAfterUpdate (observed : InstanceState) (desired : InstanceSpec) : IdSet :=
  applyEdits observed.volumes (editScript desired.volumes observed.volumes)

/-- The state after an update that ends with the attachments `networks`. -/
def stateAfterUpdate (observed : InstanceState) (desired : InstanceSpec)
    (networks : List NetworkAttachment) : InstanceState :=
  { observed with
    status := statusAfterUpdate observed desired
    applied := desired
    networks
    volumes := volumesAfterUpdate observed desired
    securityGroups := groupsAfterUpdate observed desired
    floatingIp := desired.floatingIp }

/-- **An update past its guard succeeds** exactly when its steps do, one after the other. -/
theorem succeeds_convergeExisting_iff :
    Succeeds p w (convergeExisting t observed desired) s' w' es ↔
      ∃ networks w₁ w₂ w₃ w₄ w₅ w₆ w₇ es₁ es₂ es₃ es₄ es₅ es₆ es₇ es₈,
        Succeeds p w (rename observed desired) () w₁ es₁ ∧
        Succeeds p w₁ (convergeGroups observed desired) (groupsAfterUpdate observed desired) w₂ es₂ ∧
        Succeeds p w₂ (resizeFlavor t observed desired) (statusAfterFlavor observed desired) w₃
          es₃ ∧
        Succeeds p w₃ (convergeVolumes observed desired) (volumesAfterUpdate observed desired) w₄ es₄ ∧
        Succeeds p w₄ (convergeNetworks observed desired) networks w₅ es₅ ∧
        Succeeds p w₅ (growRootDisk t observed (statusAfterFlavor observed desired) desired)
          (statusAfterUpdate observed desired) w₆ es₆ ∧
        Succeeds p w₆ (convergeFloatingIp observed networks desired) desired.floatingIp w₇ es₇ ∧
        Succeeds p w₇ (revertSnapshot observed desired) () w' es₈ ∧
        s' = stateAfterUpdate observed desired networks ∧
        es = es₁ ++ (es₂ ++ (es₃ ++ (es₄ ++ (es₅ ++ (es₆ ++ (es₇ ++ es₈)))))) := by
  constructor
  · intro h
    obtain ⟨_, w₁, es₁, _, h₁, r₁, rfl⟩ := succeeds_bind_iff.1 h
    obtain ⟨groups, w₂, es₂, _, h₂, r₂, rfl⟩ := succeeds_bind_iff.1 r₁
    obtain ⟨resized, w₃, es₃, _, h₃, r₃, rfl⟩ := succeeds_bind_iff.1 r₂
    obtain rfl := h₃.eq_of_returns returns_resizeFlavor
    obtain ⟨volumes, w₄, es₄, _, h₄, r₄, rfl⟩ := succeeds_bind_iff.1 r₃
    obtain ⟨networks, w₅, es₅, _, h₅, r₅, rfl⟩ := succeeds_bind_iff.1 r₄
    obtain ⟨status, w₆, es₆, _, h₆, r₆, rfl⟩ := succeeds_bind_iff.1 r₅
    obtain rfl := h₆.eq_of_returns returns_growRootDisk
    obtain ⟨floatingIp, w₇, es₇, _, h₇, r₇, rfl⟩ := succeeds_bind_iff.1 r₆
    obtain rfl := h₇.eq_of_returns returns_convergeFloatingIp
    obtain ⟨_, w₈, es₈, _, h₈, r₈, rfl⟩ := succeeds_bind_iff.1 r₇
    obtain ⟨rfl, rfl, rfl⟩ := succeeds_pure_iff.1 r₈
    obtain rfl := h₂.performEdits_eq
    obtain rfl := h₄.performEdits_eq
    exact ⟨networks, w₁, w₂, w₃, w₄, w₅, w₆, w₇, es₁, es₂, es₃, es₄, es₅, es₆, es₇, es₈,
      h₁, h₂, h₃, h₄, h₅, h₆, h₇, h₈, rfl, by rw [List.append_nil]⟩
  · rintro ⟨networks, w₁, w₂, w₃, w₄, w₅, w₆, w₇, es₁, es₂, es₃, es₄, es₅, es₆, es₇, es₈,
      h₁, h₂, h₃, h₄, h₅, h₆, h₇, h₈, rfl, rfl⟩
    refine succeeds_bind_iff.2 ⟨_, w₁, es₁, _, h₁, ?_, rfl⟩
    refine succeeds_bind_iff.2 ⟨_, w₂, es₂, _, h₂, ?_, rfl⟩
    refine succeeds_bind_iff.2 ⟨_, w₃, es₃, _, h₃, ?_, rfl⟩
    refine succeeds_bind_iff.2 ⟨_, w₄, es₄, _, h₄, ?_, rfl⟩
    refine succeeds_bind_iff.2 ⟨_, w₅, es₅, _, h₅, ?_, rfl⟩
    refine succeeds_bind_iff.2 ⟨_, w₆, es₆, _, h₆, ?_, rfl⟩
    refine succeeds_bind_iff.2 ⟨_, w₇, es₇, _, h₇, ?_, rfl⟩
    refine succeeds_bind_iff.2 ⟨_, w', es₈, [], h₈, ?_, (List.append_nil es₈).symm⟩
    exact succeeds_pure_iff.2 ⟨rfl, rfl, rfl⟩

/-! ### Steps with nothing to do -/

theorem rename_eq_pure (h : observed.applied.name = desired.name) :
    rename observed desired = pure () :=
  if_pos h

theorem convergeGroups_eq_pure
    (h : editScript desired.securityGroups observed.securityGroups = []) :
    convergeGroups observed desired = pure (groupsAfterUpdate observed desired) := by
  rw [convergeGroups, groupsAfterUpdate, h]
  rfl

theorem resizeFlavor_eq_pure (h : observed.applied.flavorId = desired.flavorId) :
    resizeFlavor t observed desired = pure (statusAfterFlavor observed desired) := by
  rw [resizeFlavor, statusAfterFlavor, if_pos h, if_pos h]

theorem convergeVolumes_eq_pure (h : editScript desired.volumes observed.volumes = []) :
    convergeVolumes observed desired = pure (volumesAfterUpdate observed desired) := by
  rw [convergeVolumes, volumesAfterUpdate, h]
  rfl

theorem growRootDisk_eq_pure (h : observed.applied.diskSize = desired.diskSize) :
    growRootDisk t observed (statusAfterFlavor observed desired) desired =
      pure (statusAfterUpdate observed desired) := by
  rw [growRootDisk, statusAfterUpdate, if_pos h, if_pos h]

theorem convergeFloatingIp_eq_pure {networks : List NetworkAttachment}
    (h : observed.floatingIp = desired.floatingIp) :
    convergeFloatingIp observed networks desired = pure desired.floatingIp := by
  rw [convergeFloatingIp, if_pos h, h]

theorem revertSnapshot_eq_pure
    (h : observed.applied.revertToSnapshotId = desired.revertToSnapshotId) :
    revertSnapshot observed desired = pure () :=
  if_pos h

/-! ### The result of an update -/

/-- An update with nothing to refuse is the run of its steps. -/
theorem updateInstance_of_allowed (h : immutableViolations observed.applied desired = []) :
    updateInstance t observed desired = convergeExisting t observed desired := by
  rw [updateInstance, h]

/-- **An update that succeeds** has nothing to refuse, reconciles the networks on the way, and ends
with the state after it. -/
theorem Succeeds.updateInstance_eq
    (h : Succeeds p w (updateInstance t observed desired) s' w' es) :
    immutableViolations observed.applied desired = [] ∧
      ∃ networks v v' es', Succeeds p v (convergeNetworks observed desired) networks v' es' ∧
        (∀ e ∈ es', e ∈ es) ∧ s' = stateAfterUpdate observed desired networks := by
  rw [updateInstance] at h
  split at h
  · rename_i hguard
    obtain ⟨networks, _, _, _, w₄, w₅, _, _, _, _, _, _, es₅, _, _, _, -, -, -, -, h₅, -, -, -, rfl,
      rfl⟩ := succeeds_convergeExisting_iff.1 h
    exact ⟨hguard, networks, w₄, w₅, es₅, h₅, fun e he => by simp [he], rfl⟩
  · exact absurd h not_succeeds_throw

end Reconciler
