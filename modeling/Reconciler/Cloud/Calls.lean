import Reconciler.Cloud.State
import Reconciler.Program

/-!
# The calls of the cloud in memory

How the cloud answers a call. The call is written into the journal first; if a failure is queued for
it, that is the answer, and otherwise the call is carried out.

## The model

`Cloud.answer` gives the outcome and the cloud afterwards, also when the call fails: a look at a
server takes the next status off its script, and an allocation uses up a number even when it finds
no network. The region of a call makes no difference.
-/

namespace Reconciler

namespace Cloud

/-- The outcome of a call and the cloud after it. -/
abbrev Answered (α : Type) := Except RemoteError α × Cloud

/-- The failure of a call about a server that does not exist. -/
def noServer (id : String) : RemoteError := .notFound ("server " ++ id ++ " not found")

/-- Writes a call into the journal and takes the failure that is queued for it, if any. -/
def record (c : Cloud) (call : Call) : Option RemoteError × Cloud :=
  let c := { c with journal := call :: c.journal }
  match c.failures.find? call.method.key with
  | some (e :: rest) => (some e, { c with failures := c.failures.insert call.method.key rest })
  | _ => (none, c)

/-! ### Servers -/

/-- Changes the first server with an identifier. -/
def changeServer (c : Cloud) (id : String) (change : CloudServer → CloudServer) : Answered Unit :=
  match c.server? id with
  | none => (.error (noServer id), c)
  | some _ => (.ok (), { c with servers := mapFirst (·.detail.id = id) change c.servers })

/-- Looks at a server: its next status, and the addresses it has on the networks. -/
def observe (c : Cloud) (id : String) : Answered ServerDetail :=
  match c.server? id with
  | none => (.error (noServer id), c)
  | some s =>
    let book := addressesOf c.networks id
    let detail := { s.advance.detail with
      addresses := if book.entries.isEmpty then none else some book }
    (.ok detail,
      { c with servers := mapFirst (·.detail.id = id) (·.advance) c.servers })

/-- Looks at the server that a task makes. -/
def observeTask (c : Cloud) (taskId : String) : Answered ServerDetail :=
  match c.servers.find? (·.taskId = taskId) with
  | none => (.error (.notFound ("task " ++ taskId ++ " not found")), c)
  | some s => c.observe s.detail.id

/-- Gives a server a status. -/
def setStatus (c : Cloud) (id : String) (status : Status) : Answered Unit :=
  c.changeServer id fun s => { s with detail := { s.detail with status } }

/-- Removes the servers with an identifier. -/
def removeServer (c : Cloud) (id : String) : Answered Unit :=
  match c.server? id with
  | none => (.error (noServer id), c)
  | some _ => (.ok (), { c with servers := c.servers.filter (·.detail.id ≠ id) })

/-! ### Ports -/

/-- Makes a port for a server on the first subnet of a network. Without an address asked for, the
port gets one with its number. -/
def allocatePort (c : Cloud) (networkId serverId : String) (ip : Option String)
    (portSecurity : Bool) : Answered AttachedPort :=
  let serial := c.counter + 1
  let c := { c with counter := serial }
  match c.networks.find? (·.id = networkId) with
  | none => (.error (.notFound ("network " ++ networkId ++ " not found")), c)
  | some n =>
    match n.subnets with
    | [] => (.error (.client 400 ("network " ++ networkId ++ " has no subnet")), c)
    | s :: _ =>
      let portId := "port-" ++ toString serial
      let address := ip.getD ("10.0.0." ++ toString serial)
      let record : AddressRecord := { ip := address, portId, subnetId := s.id, portSecurity }
      (.ok { id := portId, ipAddress := address, networkId, subnetId := s.id },
        { c with networks := mapFirst (·.id = networkId) (·.addRecord serverId record) c.networks })

/-- Makes a port for a server on each of some networks, up to the first where that fails. -/
def allocatePorts (c : Cloud) (serverId : String) : List String → Answered Unit
  | [] => (.ok (), c)
  | networkId :: rest =>
    match c.allocatePort networkId serverId none false with
    | (.error e, c) => (.error e, c)
    | (.ok _, c) => c.allocatePorts serverId rest

/-- Removes a port of a server, wherever it is. -/
def removePort (c : Cloud) (portId serverId : String) : Answered Unit :=
  if (serverEntries c.networks).any fun e => e.id = serverId && e.ips.any (·.portId = portId) then
    (.ok (), { c with
      networks := mapServerEntries
        (fun e => if e.id = serverId then { e with ips := e.ips.filter (·.portId ≠ portId) } else e)
        c.networks })
  else (.error (.notFound ("port " ++ portId ++ " not found")), c)

/-- Makes a port filter source addresses or let them through. -/
def setPortSecurity (c : Cloud) (portId : String) (enabled : Bool) : Answered Unit :=
  if (serverEntries c.networks).any (·.ips.any (·.portId = portId)) then
    (.ok (), { c with
      networks := mapServerEntries
        (fun e => { e with
          ips := e.ips.map fun r =>
            if r.portId = portId then { r with portSecurity := enabled } else r })
        c.networks })
  else (.error (.notFound ("port " ++ portId ++ " not found")), c)

/-- Makes a new server with a port on every network asked for. -/
def createServer (c : Cloud) (order : CreateServerRequest) : Answered CreatedServer :=
  let serial := c.counter + 1
  let id := "srv-" ++ toString serial
  let taskId := "task-" ++ toString serial
  match { c with counter := serial }.allocatePorts id order.networkIds with
  | (.error e, c) => (.error e, c)
  | (.ok (), c) =>
    let detail : ServerDetail :=
      { id
        name := order.name
        status := .active
        flavorId := some order.flavorId
        imageId := some order.imageId
        clusterId := "cluster-1"
        dedicatedServerId := order.dedicatedServerId.getD ""
        securityGroupIds := order.securityGroups }
    (.ok {
        id := if c.hidesIdUntilInquiry then "" else id
        taskId
        password := "initial-password"
        status := .build },
      { c with servers := c.servers ++ [{ detail, taskId, script := c.creationScript }] })

/-! ### Volumes -/

/-- Changes the attachments of the first volume with an identifier. -/
def changeVolume (c : Cloud) (volumeId : String)
    (change : List VolumeAttachment → List VolumeAttachment) : Answered Unit :=
  if c.volumes.any (·.id = volumeId) then
    (.ok (), { c with
      volumes := mapFirst (·.id = volumeId)
        (fun v => { v with attachments := change v.attachments }) c.volumes })
  else (.error (.notFound ("volume " ++ volumeId ++ " not found")), c)

/-! ### Floating addresses -/

/-- Binds a floating address to a port; the address it gets has the next number. -/
def attachFloatingIp (c : Cloud) (floatingIpId : String) (r : FloatingIpRequest) : Answered Unit :=
  match c.networkOfPort? r.portId with
  | none => (.error (.client 400 ("port " ++ r.portId ++ " not found")), c)
  | some n =>
    let serial := c.counter + 1
    let address := "203.0.113." ++ toString serial
    let bound : BoundFloatingIp :=
      { serverId := r.serverId
        portId := r.portId
        record := {
          id := floatingIpId
          address
          serverAddresses := .ofList [(n.name, [{ addr := address, isPublic := true }])] } }
    (.ok (), { c with counter := serial, floatingIps := c.floatingIps ++ [bound] })

/-- Unbinds whatever is bound to a port. -/
def detachFloatingIp (c : Cloud) (portId : String) : Answered Unit :=
  if c.floatingIps.any (·.portId = portId) then
    (.ok (), { c with floatingIps := c.floatingIps.filter (·.portId ≠ portId) })
  else (.error (.notFound ("no floating ip bound to port " ++ portId)), c)

/-- Looks up what is bound for a server. -/
def floatingIpOf (c : Cloud) (serverId : String) : Except RemoteError FloatingIp :=
  match c.floatingIps.find? (·.serverId = serverId) with
  | some bound => .ok bound.record
  | none => .error (.notFound "server has no floating ip")

/-! ### All calls -/

/-- Carries a call out. -/
def perform (c : Cloud) : (call : Call) → Answered call.Answer
  | .createServer order => c.createServer order
  | .getServer id => c.observe id
  | .inquireTask taskId => c.observeTask taskId
  | .deleteServer id => c.removeServer id
  | .resizeServer id flavorId =>
    c.changeServer id fun s => { s with detail := { s.detail with flavorId := some flavorId } }
  | .resizeRootVolume id _ => c.setStatus id .active
  | .powerOff id => c.setStatus id .shutoff
  | .powerOn id => c.setStatus id c.powerOnStatus
  | .renameServer id name =>
    c.changeServer id fun s => { s with detail := { s.detail with name } }
  | .listNetworks => (.ok c.networks, c)
  | .attachNetwork networkId r => c.allocatePort networkId r.serverId r.ip r.portSecurity
  | .detachNetwork portId serverId => c.removePort portId serverId
  | .enablePortSecurity _ portId => c.setPortSecurity portId true
  | .disablePortSecurity _ portId => c.setPortSecurity portId false
  | .attachVolume serverId volumeId => c.changeVolume volumeId fun as => as ++ [{ serverId }]
  | .detachVolume serverId volumeId =>
    c.changeVolume volumeId fun as => as.filter (·.serverId ≠ serverId)
  | .listVolumes => (.ok c.volumes, c)
  | .joinGroup serverId groupId =>
    c.changeServer serverId fun s =>
      { s with detail := { s.detail with
          securityGroupIds := s.detail.securityGroupIds ++ [groupId] } }
  | .leaveGroup serverId groupId =>
    c.changeServer serverId fun s =>
      { s with detail := { s.detail with
          securityGroupIds := s.detail.securityGroupIds.filter (· ≠ groupId) } }
  | .listPublicIps => (.ok c.publicIps, c)
  | .attachFloatingIp floatingIpId r => c.attachFloatingIp floatingIpId r
  | .detachFloatingIp portId => c.detachFloatingIp portId
  | .floatingIpOf serverId => (c.floatingIpOf serverId, c)
  | .revertSnapshot _ _ => (.ok (), c)

/-- Answers a call: with the failure that is queued for it, or else by carrying it out. -/
def answer (c : Cloud) (call : Call) : Answered call.Answer :=
  match c.record call with
  | (some e, c) => (.error e, c)
  | (none, c) => c.perform call

/-- The cloud as a provider. Its answers take no time. -/
def provider : Provider Cloud where
  answer c _ _ call :=
    let (outcome, c) := c.answer call
    ({ outcome }, c)

end Cloud

end Reconciler
