import Reconciler.Lifecycle.Update
import Reconciler.Proofs.Runs

/-!
# What the steps of an update answer

The status and the floating address that an update ends with do not depend on the provider: a step
that answers one of them fails or answers the same.

## What is proved

* `returns_resizeFlavor`, `returns_growRootDisk`, `returns_convergeFloatingIp`: what these steps
  answer.
* `convergeExisting_eq`: the steps of an update, with what they answer written out.
-/

namespace Reconciler

variable {σ α β : Type} {p : Provider σ} {w w' : World σ} {es : List Exchange} {t : Tuning}
  {observed : InstanceState} {desired : InstanceSpec}

/-- **The task answers `a` whenever it succeeds.** -/
def Returns (task : Task α) (a : α) : Prop := task = task >>= fun _ => pure a

theorem returns_pure (a : α) : Returns (pure a) a := (pure_bind ..).symm

theorem returns_throw (e : Failure) (a : α) : Returns (throw e) a := rfl

/-- A task whose last step returns a value returns it. -/
theorem Returns.after {a : α} {f : β → Task α} (task : Task β) (h : ∀ b, Returns (f b) a) :
    Returns (task >>= f) a := by
  rw [Returns, bind_assoc]
  exact bind_congr h

theorem Returns.ite {a : α} {c : Prop} [Decidable c] {x y : Task α} (hx : Returns x a)
    (hy : Returns y a) : Returns (if c then x else y) a := by
  split_ifs <;> assumption

/-- What comes after a task may be told the value that it returns. -/
theorem Returns.bind_eq {task : Task α} {a : α} (h : Returns task a) (f : α → Task β) :
    task >>= f = task >>= fun _ => f a := by
  conv_lhs => rw [h]
  rw [bind_assoc]
  simp only [pure_bind]

theorem Succeeds.eq_of_returns {task : Task α} {a b : α} (h : Succeeds p w task b w' es)
    (returns : Returns task a) : b = a := by
  rw [returns] at h
  obtain ⟨_, _, _, _, -, hend, -⟩ := succeeds_bind_iff.1 h
  exact (succeeds_pure_iff.1 hend).1

/-! ### The status -/

/-- The status after the flavor has been seen to. -/
def statusAfterFlavor (observed : InstanceState) (desired : InstanceSpec) : Status :=
  if observed.applied.flavorId = desired.flavorId then observed.status else .active

/-- The status after the root disk has been seen to. -/
def statusAfterUpdate (observed : InstanceState) (desired : InstanceSpec) : Status :=
  if observed.applied.diskSize = desired.diskSize then statusAfterFlavor observed desired
  else .active

theorem returns_resizeFlavor :
    Returns (resizeFlavor t observed desired) (statusAfterFlavor observed desired) := by
  rw [resizeFlavor, statusAfterFlavor]
  split_ifs
  · exact returns_pure _
  · exact .after _ fun _ => .after _ fun _ => .after _ fun _ => .after _ fun _ => .after _ fun _ =>
      .after _ fun _ => returns_pure _

theorem returns_growRootDisk :
    Returns (growRootDisk t observed (statusAfterFlavor observed desired) desired)
      (statusAfterUpdate observed desired) := by
  rw [growRootDisk, statusAfterUpdate]
  by_cases same : observed.applied.diskSize = desired.diskSize
  · rw [if_pos same, if_pos same]
    exact returns_pure _
  · rw [if_neg same, if_neg same]
    cases rootDiskRefusal? observed desired with
    | some refusal => exact returns_throw refusal _
    | none =>
      refine .after _ fun deadline => .ite (.after _ fun _ => ?_) ?_
      all_goals exact .after _ fun _ => .after _ fun _ => .after _ fun _ => returns_pure _

/-! ### The floating address -/

theorem returns_convergeFloatingIp {networks : List NetworkAttachment} :
    Returns (convergeFloatingIp observed networks desired) desired.floatingIp := by
  rw [convergeFloatingIp]
  split_ifs with same
  · rw [same]
    exact returns_pure _
  · cases observed.floatingIp <;> cases desired.floatingIp
    case neg.none.none => exact returns_pure _
    case neg.none.some => exact .after _ fun _ => returns_pure _
    case neg.some.none => exact .after _ fun _ => returns_pure _
    case neg.some.some => exact .after _ fun _ => .after _ fun _ => returns_pure _

/-! ### The steps in a row -/

/-- **The steps of an update**, with what they answer written out. -/
theorem convergeExisting_eq : convergeExisting t observed desired = (do
    rename observed desired
    let securityGroups ← convergeGroups observed desired
    let _ ← resizeFlavor t observed desired
    let volumes ← convergeVolumes observed desired
    let networks ← convergeNetworks observed desired
    let _ ← growRootDisk t observed (statusAfterFlavor observed desired) desired
    let _ ← convergeFloatingIp observed networks desired
    revertSnapshot observed desired
    return { observed with
      status := statusAfterUpdate observed desired
      applied := desired
      networks
      volumes
      securityGroups
      floatingIp := desired.floatingIp }) := by
  refine bind_congr fun _ => bind_congr fun securityGroups => ?_
  refine (returns_resizeFlavor.bind_eq _).trans (bind_congr fun _ => ?_)
  refine bind_congr fun volumes => bind_congr fun networks => ?_
  refine (returns_growRootDisk.bind_eq _).trans (bind_congr fun _ => ?_)
  exact returns_convergeFloatingIp.bind_eq _

end Reconciler
