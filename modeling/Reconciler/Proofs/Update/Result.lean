import Reconciler.Cloud.Calls
import Reconciler.Proofs.Update.Steps

/-!
# What an update gives

The state that a successful update ends with, whoever answers its calls and however long its waits
are.

## What is proved

* `updateInstance_result`: the state is the desired one where the configuration says what is
  desired, and the observed one where it does not.
-/

namespace Reconciler

/-- **The state `s'` is what an update from `observed` to `desired` is to give**, when `es` are the
exchanges of its run. -/
structure UpdateResult (observed : InstanceState) (desired : InstanceSpec) (es : List Exchange)
    (s' : InstanceState) : Prop where
  /-- The configuration counts as applied. -/
  applied : s'.applied = desired
  /-- The instance is the same. -/
  id : s'.id = observed.id
  /-- The creation task is the one observed. -/
  taskId : s'.taskId = observed.taskId
  /-- The cluster is the one observed. -/
  clusterId : s'.clusterId = observed.clusterId
  /-- The password is the one observed. -/
  password : s'.password = observed.password
  /-- The groups are the desired ones; the empty identifier stays as it was observed. -/
  securityGroups : ∀ x, x ∈ s'.securityGroups ↔
    if x = "" then x ∈ observed.securityGroups else x ∈ desired.securityGroups
  /-- The volumes are the desired ones; the empty identifier stays as it was observed. -/
  volumes : ∀ x, x ∈ s'.volumes ↔ if x = "" then x ∈ observed.volumes else x ∈ desired.volumes
  /-- The floating address is the desired one. -/
  floatingIp : s'.floatingIp = desired.floatingIp
  /-- There is one attachment for each requested network, in the order of the first requests. -/
  networkIds : s'.networks.map (·.networkId) = (desired.networks.map (·.networkId)).eraseDups
  /-- Each attachment was observed and satisfies the first request for its network, or was made for
  that request in the run. -/
  networks : ∀ a ∈ s'.networks, ∃ r, desired.network? a.networkId = some r ∧
    ((a ∈ observed.networks ∧ r.satisfiedBy a = true) ∨ MadeFor observed.region observed.id es r a)
  /-- A new flavor or a new root disk leaves the instance running; otherwise the status stays. -/
  status : s'.status =
    if observed.applied.flavorId ≠ desired.flavorId ∨ observed.applied.diskSize ≠ desired.diskSize
    then .active else observed.status

/-- The status after an update, in one condition. -/
theorem statusAfterUpdate_eq (observed : InstanceState) (desired : InstanceSpec) :
    statusAfterUpdate observed desired =
      if observed.applied.flavorId ≠ desired.flavorId ∨
        observed.applied.diskSize ≠ desired.diskSize then .active else observed.status := by
  rw [statusAfterUpdate, statusAfterFlavor]
  split_ifs <;> simp_all

variable {σ : Type} {p : Provider σ} {w w' : World σ} {es : List Exchange} {t : Tuning}
  {observed s' : InstanceState} {desired : InstanceSpec}

/-- **An update that succeeds gives what it is to give**, for every tuning of its waits and whatever
the provider answers to each of its calls. -/
theorem updateInstance_result (h : Succeeds p w (updateInstance t observed desired) s' w' es) :
    UpdateResult observed desired es s' := by
  obtain ⟨-, networks, v, v', es', hnetworks, hes, rfl⟩ := h.updateInstance_eq
  refine
    { applied := rfl
      id := rfl
      taskId := rfl
      clusterId := rfl
      password := rfl
      securityGroups := fun x => mem_applyEdits_editScript
      volumes := fun x => mem_applyEdits_editScript
      floatingIp := rfl
      networkIds := hnetworks.convergeNetworks_ids
      networks := fun a ha => ?_
      status := statusAfterUpdate_eq observed desired }
  obtain ⟨r, hr, horigin⟩ := hnetworks.convergeNetworks_origin ha
  refine ⟨r, hr, ?_⟩
  rcases horigin with ⟨hlast, hsat⟩ | ⟨-, hmade⟩
  · exact .inl ⟨(lastTo?_some hlast).1, hsat⟩
  · exact .inr (hmade.mono hes)

/-! ### A run -/

/-- A cloud with two networks and one running server, which has a port on the first of them. -/
def sampleCloud : Cloud where
  servers :=
    [{ detail :=
        { id := "vm", name := "web", status := .active, flavorId := some "small",
          imageId := some "image", securityGroupIds := ["default"] } }]
  networks :=
    [{ id := "net-a", name := "lan-a"
       subnets :=
        [{ id := "sub-a", networkId := "net-a"
           servers :=
            [{ id := "vm"
               ips := [{ ip := "10.0.0.9", portId := "p1", subnetId := "sub-a" }] }] }] },
     { id := "net-b", name := "lan-b", subnets := [{ id := "sub-b", networkId := "net-b" }] }]
  volumes := [{ id := "disk" }]

/-- The tracked state of that server. -/
def sampleState : InstanceState where
  id := "vm"
  status := .active
  password := some "initial-password"
  applied :=
    { name := "web", imageId := "image", flavorId := "small",
      securityGroups := .ofList ["default"], networks := [{ networkId := "net-a" }] }
  networks := [{ networkId := "net-a", subnetId := "sub-a", portId := "p1", ip := "10.0.0.9" }]
  securityGroups := .ofList ["default"]

/-- A configuration that changes the name, the groups, the flavor, the volumes and both networks. -/
def sampleSpec : InstanceSpec where
  name := "api"
  imageId := "image"
  flavorId := "large"
  securityGroups := .ofList ["ssh"]
  networks :=
    [{ networkId := "net-b", ip := some "10.0.1.5" }, { networkId := "net-a", portSecurity := true }]
  volumes := .ofList ["disk"]

/-- What an update of that server to that configuration gives. -/
def sampleResult : InstanceState where
  id := "vm"
  status := .active
  password := some "initial-password"
  applied := sampleSpec
  networks :=
    [{ networkId := "net-b", subnetId := "sub-b", portId := "port-1", ip := "10.0.1.5" },
     { networkId := "net-a", subnetId := "sub-a", portId := "port-2", ip := "10.0.0.2",
       portSecurity := true }]
  volumes := .ofList ["disk"]
  securityGroups := .ofList ["ssh"]

/-- The update succeeds in the cloud. -/
theorem exec_sampleUpdate :
    ((updateInstance {} sampleState sampleSpec).run.exec Cloud.provider ⟨sampleCloud, 0⟩).1 =
      some (.ok sampleResult) := by decide +kernel

theorem updateInstance_result_sample :
    ∃ w' es, Succeeds Cloud.provider ⟨sampleCloud, 0⟩ (updateInstance {} sampleState sampleSpec)
      sampleResult w' es ∧ UpdateResult sampleState sampleSpec es sampleResult :=
  have run := succeeds_of_exec exec_sampleUpdate
  ⟨_, _, run, updateInstance_result run⟩

end Reconciler
