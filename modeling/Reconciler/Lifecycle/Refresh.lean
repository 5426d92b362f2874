import Reconciler.Lifecycle.Creation

/-!
# Reading an instance

The tracked state of an instance is refreshed from four answers of the provider: the instance
itself, the networks, the volumes and the floating address. An instance that no longer exists reads
as nothing.

## The model

`InstanceState.withDetail`, `withNetworks`, `withVolumes` and `withFloatingIp` say what each answer
changes; `readInstance` asks for the answers in turn. Reading refreshes the applied configuration
along with the state: what is found counts as what was asked for.
-/

namespace Reconciler

/-- The state after the provider's report of the instance. What the report leaves out stays. -/
def InstanceState.withDetail (s : InstanceState) (detail : ServerDetail) : InstanceState :=
  let groups := (IdSet.ofList detail.securityGroupIds).erase ""
  { s with
    status := detail.status
    clusterId := if detail.clusterId = "" then s.clusterId else some detail.clusterId
    securityGroups := groups
    applied := { s.applied with
      name := detail.name
      dedicatedServerId :=
        if detail.dedicatedServerId = "" then s.applied.dedicatedServerId
        else some detail.dedicatedServerId
      imageId := detail.imageId.getD s.applied.imageId
      flavorId := detail.flavorId.getD s.applied.flavorId
      securityGroups := groups } }

/-- The attachments that were found: first those to networks tracked before, in their order, then
the others in the order of their networks. What was tracked before gives nothing but the order. -/
def mergeAttachments (previous : List NetworkAttachment) (found : IdMap NetworkAttachment) :
    List NetworkAttachment :=
  let (kept, others) := found.takeEach (previous.map (·.networkId))
  kept ++ others.values

/-- The request that an attachment stands for. Its address is asked for where one was before. -/
def NetworkAttachment.toRequest (previous : List NetworkRequest) (a : NetworkAttachment) :
    NetworkRequest where
  networkId := a.networkId
  ip := if previous.any fun r => r.networkId = a.networkId && r.ip.isSome then some a.ip else none
  portSecurity := a.portSecurity

/-- The state after the listing of the networks. Without an address book the networks stay as they
were tracked. -/
def InstanceState.withNetworks (s : InstanceState) (networks : List Network) :
    Option AddressBook → InstanceState
  | none => s
  | some book =>
    let attachments := mergeAttachments s.networks (resolveByAddress networks book s.id)
    { s with
      networks := attachments
      applied := { s.applied with
        networks := attachments.map (·.toRequest s.applied.networks) } }

/-- The volumes attached to an instance. -/
def volumesOf (volumes : List Volume) (instanceId : InstanceId) : List String :=
  (volumes.filter fun v => v.attachments.any (·.serverId = instanceId)).map (·.id)

/-- The state after the listing of the volumes. -/
def InstanceState.withVolumes (s : InstanceState) (volumes : List Volume) : InstanceState :=
  let attached := IdSet.ofList (volumesOf volumes s.id)
  { s with volumes := attached, applied := { s.applied with volumes := attached } }

/-- Where a floating address is bound: on the network under whose name the first entry with that
address stands. An address under a name that no network has counts as not bound. -/
def FloatingIp.binding? (record : FloatingIp) (networks : List Network) :
    Option FloatingIpBinding :=
  ((record.serverAddresses.entries.find? fun e => e.2.any (·.addr = record.address)).bind
    fun e => networkNamed? networks e.1).map
    fun n => { floatingIpId := record.id, networkId := n.id }

/-- The state after the look at the floating address. -/
def InstanceState.withFloatingIp (s : InstanceState) (binding : Option FloatingIpBinding) :
    InstanceState :=
  { s with floatingIp := binding, applied := { s.applied with floatingIp := binding } }

/-- Where the floating address of an instance is bound, among the listed networks. -/
def readFloatingIp (region : Region) (instanceId : InstanceId) (networks : List Network) :
    Task (Option FloatingIpBinding) :=
  ExceptT.mk do
    match ← Program.request region (.floatingIpOf instanceId) with
    | .ok (record : FloatingIp) => return .ok (record.binding? networks)
    | .error e =>
      if e.isNotFound then return .ok none else return .error (.remote "get floating ip" e)

/-- The refreshed state of an instance that exists, from the report of it. -/
def readAttachments (s : InstanceState) (detail : ServerDetail) : Task InstanceState := do
  let s := s.withDetail detail
  let networks ← listNetworks s.region
  let s := s.withNetworks networks detail.addresses
  let volumes ← ask s.region .listVolumes "list volumes"
  let s := s.withVolumes volumes
  let binding ← readFloatingIp s.region s.id networks
  return s.withFloatingIp binding

/-- Reads an instance again; nothing when it no longer exists. -/
def readInstance (observed : InstanceState) : Task (Option InstanceState) :=
  ExceptT.mk do
    match ← Program.request observed.region (.getServer observed.id) with
    | .ok (detail : ServerDetail) =>
      return (← (readAttachments observed detail).run).map some
    | .error e =>
      if e.isNotFound then return .ok none else return .error (.remote "get instance" e)

end Reconciler
