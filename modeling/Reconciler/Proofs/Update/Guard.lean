import Reconciler.Lifecycle.Update.Guard
import Mathlib.Tactic.Common

/-!
# What an update refuses

There are nine changes that an update refuses. Eight are of a part of the configuration that is
fixed once the instance exists, and the ninth takes an instance off the host that keeps its root
disk. The guard of an update lists the reasons for those that are asked for.

## What is proved

* `immutableViolations_eq_asked`: one reason for each refused change that is asked for, and none
  besides.
* `immutableViolations_eq_nil_iff`: when nothing is refused.
-/

namespace Reconciler

/-- A change that an existing instance cannot absorb. -/
inductive Refusal where
  /-- To another region. -/
  | region
  /-- To another image. -/
  | imageId
  /-- To another key. -/
  | sshKeyName
  /-- To another placement group. -/
  | serverGroupId
  /-- To another dedicated host than the one the instance is on. -/
  | dedicatedServerId
  /-- Of the public address of version 4. -/
  | enableIpv4
  /-- Of the public address of version 6. -/
  | enableIpv6
  /-- To another script of the first boot. -/
  | initScript
  /-- Away from a flavor that keeps the root disk on the host. -/
  | localFlavor
  deriving DecidableEq

namespace Refusal

variable {applied desired : InstanceSpec}

/-- The changes that are refused, in the order in which they are looked for. -/
def all : List Refusal :=
  [.region, .imageId, .sshKeyName, .serverGroupId, .dedicatedServerId, .enableIpv4, .enableIpv6,
    .initScript, .localFlavor]

/-- **A change is asked for** by the way from the applied configuration to the desired one. A
dedicated host is asked for only if one is named. -/
def Asked (applied desired : InstanceSpec) : Refusal → Prop
  | .region => applied.region ≠ desired.region
  | .imageId => applied.imageId ≠ desired.imageId
  | .sshKeyName => applied.sshKeyName ≠ desired.sshKeyName
  | .serverGroupId => applied.serverGroupId ≠ desired.serverGroupId
  | .dedicatedServerId =>
    desired.dedicatedServerId.isSome ∧ applied.dedicatedServerId ≠ desired.dedicatedServerId
  | .enableIpv4 => applied.enableIpv4 ≠ desired.enableIpv4
  | .enableIpv6 => applied.enableIpv6 ≠ desired.enableIpv6
  | .initScript => applied.initScript ≠ desired.initScript
  | .localFlavor => applied.flavorId ≠ desired.flavorId ∧ isLocalStorageFlavor applied.flavorId

instance decidableAsked : DecidablePred (Asked applied desired)
  | .region => inferInstanceAs (Decidable (_ ≠ _))
  | .imageId => inferInstanceAs (Decidable (_ ≠ _))
  | .sshKeyName => inferInstanceAs (Decidable (_ ≠ _))
  | .serverGroupId => inferInstanceAs (Decidable (_ ≠ _))
  | .dedicatedServerId => inferInstanceAs (Decidable (_ ∧ _))
  | .enableIpv4 => inferInstanceAs (Decidable (_ ≠ _))
  | .enableIpv6 => inferInstanceAs (Decidable (_ ≠ _))
  | .initScript => inferInstanceAs (Decidable (_ ≠ _))
  | .localFlavor => inferInstanceAs (Decidable (_ ∧ _))

/-- The reason that is given for a refusal. -/
def reason (applied : InstanceSpec) : Refusal → String
  | .region => fixedReason "region"
  | .imageId => fixedReason "image id"
  | .sshKeyName => fixedReason "ssh key name"
  | .serverGroupId => fixedReason "server group id"
  | .dedicatedServerId => fixedReason "dedicated server id"
  | .enableIpv4 => fixedReason "ipv4 setting"
  | .enableIpv6 => fixedReason "ipv6 setting"
  | .initScript => fixedReason "init script"
  | .localFlavor =>
    "flavor " ++ applied.flavorId ++ " uses local storage and cannot be resized"

/-- The refused changes that are asked for. -/
def asked (applied desired : InstanceSpec) : List Refusal := all.filter (Asked applied desired ·)

end Refusal

variable {applied desired : InstanceSpec}

/-- **One reason for each refused change** that is asked for, and none besides. -/
theorem immutableViolations_eq_asked :
    immutableViolations applied desired =
      (Refusal.asked applied desired).map (Refusal.reason applied) := by
  have one (v : Refusal) (vs : List Refusal) :
      ((v :: vs).filter (Refusal.Asked applied desired ·)).map (Refusal.reason applied) =
        (if v.Asked applied desired then [v.reason applied] else []) ++
          (vs.filter (Refusal.Asked applied desired ·)).map (Refusal.reason applied) := by
    by_cases hv : v.Asked applied desired <;> simp [hv]
  rw [Refusal.asked, Refusal.all]
  simp only [one, List.filter_nil, List.map_nil, List.append_nil]
  simp only [immutableViolations, Refusal.Asked, Refusal.reason, List.append_assoc,
    Bool.and_eq_true, decide_eq_true_eq]
  -- The two sides decide their conditions in different ways.
  congr!

/-- Nothing is refused exactly when each fixed part is the same. -/
theorem immutableViolations_eq_nil_iff :
    immutableViolations applied desired = [] ↔
      applied.region = desired.region ∧ applied.imageId = desired.imageId ∧
      applied.sshKeyName = desired.sshKeyName ∧ applied.serverGroupId = desired.serverGroupId ∧
      (desired.dedicatedServerId.isSome → applied.dedicatedServerId = desired.dedicatedServerId) ∧
      applied.enableIpv4 = desired.enableIpv4 ∧ applied.enableIpv6 = desired.enableIpv6 ∧
      applied.initScript = desired.initScript ∧
      (applied.flavorId = desired.flavorId ∨ isLocalStorageFlavor applied.flavorId = false) := by
  simp only [immutableViolations, List.append_eq_nil_iff, ite_eq_right_iff, List.cons_ne_self,
    imp_false, decide_eq_true_eq, not_not, and_assoc, Bool.and_eq_true, not_and, ne_eq,
    Bool.not_eq_true, or_iff_not_imp_left]

end Reconciler
