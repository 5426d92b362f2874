import Reconciler.Lifecycle.Basic

/-!
# Creating an instance

A provider makes an instance in the background: the order is answered with a task, the instance is
looked up until it runs, then until it has a port on every network asked for. Volumes and the
floating address come last.

## The model

What follows the order is never taken back. A failure after it is reported as `Failure.incomplete`
with the state as far as it came, so each later step is `within` the state it starts from.
-/

namespace Reconciler

/-- The order for an instance with a configuration. -/
def creationOrder (desired : InstanceSpec) : CreateServerRequest where
  name := desired.name
  count := 1
  imageId := desired.imageId
  flavorId := desired.flavorId
  networkIds := desired.networks.map (·.networkId)
  securityGroups := desired.securityGroups.members
  sshKey := desired.sshKeyName.isSome
  keyName := desired.sshKeyName
  diskSize := desired.diskSize
  initScript := desired.initScript
  serverGroupId := desired.serverGroupId
  dedicatedServerId := desired.dedicatedServerId
  snapshotId := desired.snapshotId
  enableIpv4 := desired.enableIpv4
  enableIpv6 := desired.enableIpv6

/-- A text, unless it is empty. -/
def nonEmpty? (text : String) : Option String := if text = "" then none else some text

/-- The state of an instance right after its order was answered. -/
def InstanceState.ordered (desired : InstanceSpec) (created : CreatedServer) : InstanceState where
  id := created.id
  taskId := nonEmpty? created.taskId
  status := created.status
  password := nonEmpty? created.password
  applied := desired
  securityGroups := desired.securityGroups

/-- The state after the last look at an instance being built. An identifier or a cluster that the
provider leaves out stays as it was. -/
def InstanceState.afterBuild (s : InstanceState) : Option ServerDetail → InstanceState
  | none => s
  | some detail =>
    { s with
      id := if detail.id = "" then s.id else detail.id
      clusterId := if detail.clusterId = "" then s.clusterId else some detail.clusterId
      status := detail.status }

/-- Reports the failure of a step as that of a creation that came as far as `s`. -/
def within {α : Type} (s : InstanceState) (step : Task α) : Task α :=
  ExceptT.mk do
    match ← step.run with
    | .ok a => return .ok a
    | .error e => return .error (.incomplete s e)

/-! ### Waiting for the instance to run -/

/-- Looks an instance being built up, by its task if there is one. -/
def lookUpBuilt (s : InstanceState) : Program (Except RemoteError ServerDetail) :=
  match s.taskId with
  | some task => Program.request s.region (.inquireTask task)
  | none => Program.request s.region (.getServer s.id)

/-- Looks whether an instance being built runs; `latest` is the last answer seen. -/
def buildCheck (s : InstanceState) (latest : Option ServerDetail) :
    Program (Option ServerDetail × Check Failure Unit) := do
  match ← lookUpBuilt s with
  | .error e => return (latest, .failed (.remote "inquire instance" e))
  | .ok detail =>
    let seen := match detail.status with
      | .active => .done ()
      | .error => .failed (.enteredError detail.id "instance creation")
      | _ => .notYet
    return (some detail, seen)

/-- Waits until an instance being built runs: the last answer seen, and how the wait ended. -/
def awaitBuilt (t : Tuning) (s : InstanceState) (deadline : Instant) :
    Program (Option ServerDetail × Except Failure Unit) := do
  let (latest, result) ← (t.wait deadline).run (buildCheck s) none
  return (latest, awaited "instance creation" s.id result)

/-! ### Waiting for the networks -/

/-- An attachment is ready once it has a port and a subnet. -/
def NetworkAttachment.isReady (a : NetworkAttachment) : Bool := a.isAttached && a.subnetId ≠ ""

/-- The networks that a configuration asks for. -/
def InstanceSpec.requestedNetworks (s : InstanceSpec) : IdSet :=
  .ofList (s.networks.map (·.networkId))

/-- Looks whether an instance has a ready attachment on each of some networks. -/
def networksCheck (region : Region) (instanceId : InstanceId) (requested : IdSet) :
    Program (Check Failure (IdMap NetworkAttachment)) := do
  match ← Program.request region .listNetworks with
  | .error e => return .failed (.remote "list networks" e)
  | .ok (networks : List Network) =>
    let found := resolveById networks requested.members instanceId
    if found.size = requested.size ∧ found.values.all (·.isReady) then return .done found
    else return .notYet

/-- Waits until an instance has a ready attachment on every network asked for: the attachments, in
the order of the requests. -/
def awaitNetworks (t : Tuning) (desired : InstanceSpec) (s : InstanceState) (deadline : Instant) :
    Task (List NetworkAttachment) :=
  if desired.networks.isEmpty then return []
  else ExceptT.mk do
    let result ← (t.wait deadline).poll (networksCheck s.region s.id desired.requestedNetworks)
    return (awaited "network attachment" s.id result).map fun found =>
      (found.takeEach (desired.networks.map (·.networkId))).1

/-! ### Volumes and the floating address -/

/-- Attaches volumes one by one. -/
def attachVolumes (s : InstanceState) : List String → Task InstanceState
  | [] => return s
  | volumeId :: rest => do
    within s (ask s.region (.attachVolume s.id volumeId) ("attach volume " ++ volumeId))
    attachVolumes { s with volumes := s.volumes.insert volumeId } rest

/-- Binds the floating address of a new instance, which must be attached to the network asked for
and must be listed as holding no public address. -/
def bindInitialFloatingIp (s : InstanceState) (binding : FloatingIpBinding) : Task Unit := do
  match attachedTo? s.networks binding.networkId with
  | none => throw (.missingAttachment binding.networkId s.id)
  | some target =>
    match ← publicIpState s.region s.id with
    | none => throw (.missingPublicIpRecord s.id)
    | some true => throw (publicIpConflict s.id)
    | some false => bindFloatingIp s.region s.id binding target

/-- Brings a new instance to its configuration. -/
def convergeCreated (t : Tuning) (desired : InstanceSpec) (s : InstanceState) :
    Task InstanceState := do
  let deadline ← deadlineAfter t.timeouts.create
  let (latest, built) ← awaitBuilt t s deadline
  let s := s.afterBuild latest
  within s (ExceptT.mk (return built))
  let networks ← within s (awaitNetworks t desired s deadline)
  let s := { s with networks }
  let s ← attachVolumes s (desired.volumes.members.filter (· ≠ ""))
  match desired.floatingIp with
  | none => return s
  | some binding =>
    within s (bindInitialFloatingIp s binding)
    return { s with floatingIp := some binding }

/-- Creates an instance with a configuration. A new instance has nothing to go back to, so a
configuration that names a snapshot to revert to is refused before any call. -/
def createInstance (t : Tuning) (desired : InstanceSpec) : Task InstanceState := do
  match desired.revertToSnapshotId with
  | some snapshotId =>
    throw (.unsupportedFor
      ("cannot revert to snapshot " ++ snapshotId ++ " while creating an instance"))
  | none =>
    let created ← ask desired.region (.createServer (creationOrder desired)) "create instance"
    convergeCreated t desired (.ordered desired created)

end Reconciler
