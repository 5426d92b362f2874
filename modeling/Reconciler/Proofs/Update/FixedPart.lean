import Reconciler.Proofs.Update.Guard
import Reconciler.Proofs.Update.Result

/-!
# What stays fixed over any number of updates

An update that succeeds has changed nothing that is fixed once the instance exists, and its
configuration is the one that the next update starts from. The dedicated host is the exception: a
configuration that names none is accepted whatever host was applied, and since it becomes the
applied one, the host is no longer tracked from then on. It comes to no other host, since one that
is named then is refused.

## What is proved

* `Succeeds.updateInstance_fixedPart`: the fixed part after one update.
* `Updates.fixedPart_eq`: the fixed part after any number of updates.
-/

namespace Reconciler

/-- The part of a configuration that is fixed once the instance exists. -/
structure FixedPart where
  /-- The region. -/
  region : Region
  /-- The boot image. -/
  imageId : String
  /-- The script run at the first boot. -/
  initScript : Option String
  /-- The key injected at creation. -/
  sshKeyName : Option String
  /-- The placement group. -/
  serverGroupId : Option String
  /-- The dedicated host. -/
  dedicatedServerId : Option String
  /-- Whether a public address of version 4 is wanted. -/
  enableIpv4 : Bool
  /-- Whether a public address of version 6 is wanted. -/
  enableIpv6 : Bool
  deriving DecidableEq

/-- The fixed part of a configuration. -/
def InstanceSpec.fixedPart (s : InstanceSpec) : FixedPart where
  region := s.region
  imageId := s.imageId
  initScript := s.initScript
  sshKeyName := s.sshKeyName
  serverGroupId := s.serverGroupId
  dedicatedServerId := s.dedicatedServerId
  enableIpv4 := s.enableIpv4
  enableIpv6 := s.enableIpv6

/-- **A run of updates that succeed**, to one configuration after the other, each from the state
that the last one ended with. Each may be made with another provider and with other waits. -/
inductive Updates : InstanceState → List InstanceSpec → InstanceState → Prop where
  /-- No update. -/
  | nil (s : InstanceState) : Updates s [] s
  /-- One update, and then the others. -/
  | cons {σ : Type} {p : Provider σ} {w w' : World σ} {es : List Exchange} {t : Tuning}
      {s s₁ s₂ : InstanceState} {d : InstanceSpec} {ds : List InstanceSpec}
      (run : Succeeds p w (updateInstance t s d) s₁ w' es) (rest : Updates s₁ ds s₂) :
      Updates s (d :: ds) s₂

/-- A fixed part with its dedicated host, or without it if that is not `named` any more. -/
def FixedPart.hosted (f : FixedPart) (named : Bool) : FixedPart :=
  { f with dedicatedServerId := if named then f.dedicatedServerId else none }

@[simp] theorem FixedPart.hosted_true (f : FixedPart) : f.hosted true = f := rfl

@[simp] theorem FixedPart.hosted_hosted (f : FixedPart) (a b : Bool) :
    (f.hosted a).hosted b = f.hosted (a && b) := by
  cases a <;> cases b <;> rfl

/-- **After an update that succeeds** the fixed part is as it was, but for a dedicated host that the
configuration does not name. -/
theorem Succeeds.updateInstance_fixedPart {σ : Type} {p : Provider σ} {w w' : World σ}
    {es : List Exchange} {t : Tuning} {s s' : InstanceState} {d : InstanceSpec}
    (h : Succeeds p w (updateInstance t s d) s' w' es) :
    s'.applied.fixedPart = s.applied.fixedPart.hosted d.dedicatedServerId.isSome := by
  obtain ⟨allowed, networks, _, _, _, -, -, rfl⟩ := h.updateInstance_eq
  obtain ⟨region, image, key, group, host, ipv4, ipv6, script, -⟩ :=
    immutableViolations_eq_nil_iff.1 allowed
  show d.fixedPart = _
  simp only [InstanceSpec.fixedPart, FixedPart.hosted, region, image, key, group, ipv4, ipv6,
    script]
  cases hd : d.dedicatedServerId with
  | none => rfl
  | some named =>
    rw [hd] at host
    simp [host rfl]

/-- **After any number of updates** the fixed part is as it was at the start, but for the dedicated
host: that is as it was if every configuration named one, and otherwise none is tracked any more. -/
theorem Updates.fixedPart_eq {s s' : InstanceState} {ds : List InstanceSpec}
    (h : Updates s ds s') :
    s'.applied.fixedPart =
      s.applied.fixedPart.hosted (ds.all fun d => d.dedicatedServerId.isSome) := by
  induction h with
  | nil s => simp
  | cons run rest ih =>
    rw [ih, run.updateInstance_fixedPart, FixedPart.hosted_hosted, List.all_cons]

/-! ### Runs -/

/-- The tracked state of a server on a dedicated host. -/
def hostedState : InstanceState :=
  { sampleState with applied := { sampleState.applied with dedicatedServerId := some "host-1" } }

/-- Its configuration with another name. -/
def renamedHostedSpec : InstanceSpec := { hostedState.applied with name := "api" }

/-- The same without the host. -/
def unhostedSpec : InstanceSpec := { renamedHostedSpec with dedicatedServerId := none }

/-- The state after an update to the configuration. -/
def renamedHostedState : InstanceState := { hostedState with applied := renamedHostedSpec }

/-- The state after an update to the configuration without the host. -/
def unhostedState : InstanceState := { hostedState with applied := unhostedSpec }

theorem exec_renameHosted :
    ((updateInstance {} hostedState renamedHostedSpec).run.exec Cloud.provider ⟨sampleCloud, 0⟩).1 =
      some (.ok renamedHostedState) := by decide +kernel

theorem exec_unhost :
    ((updateInstance {} renamedHostedState unhostedSpec).run.exec Cloud.provider
      ⟨sampleCloud, 0⟩).1 = some (.ok unhostedState) := by decide +kernel

/-- First the host is named, and then it is not. -/
theorem Updates.fixedPart_eq_sample :
    Updates hostedState [renamedHostedSpec, unhostedSpec] unhostedState ∧
      unhostedState.applied.fixedPart = hostedState.applied.fixedPart.hosted
        ([renamedHostedSpec, unhostedSpec].all fun d => d.dedicatedServerId.isSome) :=
  have run : Updates hostedState [renamedHostedSpec, unhostedSpec] unhostedState :=
    .cons (succeeds_of_exec exec_renameHosted)
      (.cons (succeeds_of_exec exec_unhost) (.nil _))
  ⟨run, run.fixedPart_eq⟩

/-- **The dedicated host does not stay**: an update to a configuration that names none succeeds, and
then none is tracked. -/
theorem dedicatedServerId_not_fixed :
    Updates renamedHostedState [unhostedSpec] unhostedState ∧
      unhostedState.applied.fixedPart ≠ renamedHostedState.applied.fixedPart :=
  ⟨.cons (succeeds_of_exec exec_unhost) (.nil _), by decide⟩

end Reconciler
