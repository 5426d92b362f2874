import Reconciler.Ids.Map
import Reconciler.Instance.Status
import Reconciler.Provider.Call
import Reconciler.Provider.Error

/-!
# A cloud in memory

A provider that keeps its servers, networks, volumes and floating addresses in memory, so that
operations can be rehearsed against it. It writes every call into a journal and can be told to fail.

## The model

A `Cloud` is a value. Its journal holds the latest call first. Failures to come are queued under the
key of the method they are to hit. One counter numbers whatever the cloud makes: servers, ports and
addresses.
-/

namespace Reconciler

/-- Changes the first element that fits. -/
def mapFirst {α : Type} (fits : α → Bool) (change : α → α) : List α → List α
  | [] => []
  | x :: xs => if fits x then change x :: xs else x :: mapFirst fits change xs

/-- A server of the cloud. -/
structure CloudServer where
  /-- What is reported of it. -/
  detail : ServerDetail
  /-- The task that made it; empty for a server that was there before. -/
  taskId : String := ""
  /-- The statuses that the next looks at it find. -/
  script : List Status := []
  deriving DecidableEq

/-- A server after the next status of its script has been taken, if there is one. -/
def CloudServer.advance (s : CloudServer) : CloudServer :=
  match s.script with
  | [] => s
  | status :: rest => { s with detail := { s.detail with status }, script := rest }

/-- A floating address bound to a port. -/
structure BoundFloatingIp where
  /-- The server it is bound for. -/
  serverId : String
  /-- The port it is bound to. -/
  portId : String
  /-- What is reported of it. -/
  record : FloatingIp
  deriving DecidableEq

/-- A cloud in memory. -/
structure Cloud where
  /-- The servers. -/
  servers : List CloudServer := []
  /-- The networks with their ports. -/
  networks : List Network := []
  /-- The volumes with their attachments. -/
  volumes : List Volume := []
  /-- Which servers hold a public address. -/
  publicIps : List PublicIpRecord := []
  /-- The bound floating addresses. -/
  floatingIps : List BoundFloatingIp := []
  /-- The failures to come, by the key of the method. -/
  failures : IdMap (List RemoteError) := ∅
  /-- The calls that were made, the latest first. -/
  journal : List Call := []
  /-- The statuses that looks at a new server find. -/
  creationScript : List Status := []
  /-- The status of a server that is powered on. -/
  powerOnStatus : Status := .active
  /-- Whether the identifier of a new server is told only by its task. -/
  hidesIdUntilInquiry : Bool := false
  /-- The number of the latest thing the cloud made. -/
  counter : Nat := 0
  deriving DecidableEq

namespace Cloud

/-- The calls that were made, the earliest first. -/
def calls (c : Cloud) : List Call := c.journal.reverse

/-- The calls that were made and change something at a provider. -/
def mutatingCalls (c : Cloud) : List Call := c.calls.filter (·.isMutating)

/-- How many calls were made under a key. -/
def count (c : Cloud) (key : String) : Nat := c.journal.countP (·.method.key = key)

/-- The first server with an identifier. -/
def server? (c : Cloud) (id : String) : Option CloudServer :=
  c.servers.find? (·.detail.id = id)

/-- The volumes attached to a server. -/
def volumesAttachedTo (c : Cloud) (serverId : String) : List String :=
  (c.volumes.filter fun v => v.attachments.any (·.serverId = serverId)).map (·.id)

/-- The addresses of a server on one network. -/
def addressesOn (serverId : String) (n : Network) : List ServerAddress :=
  (n.subnets.flatMap (·.servers)).filter (·.id = serverId) |>.flatMap (·.ips) |>.map
    fun r => { addr := r.ip, isPublic := r.isPublic }

/-- The addresses of a server by the names of the networks; of several networks with one name the
last that has some counts. -/
def addressesOf (networks : List Network) (serverId : String) : AddressBook :=
  .ofList ((networks.map fun n => (n.name, addressesOn serverId n)).filter fun e => !e.2.isEmpty)

/-- The network that has a port. -/
def networkOfPort? (c : Cloud) (portId : String) : Option Network :=
  c.networks.find? fun n => n.subnets.any (·.servers.any (·.ips.any (·.portId = portId)))

end Cloud

/-- The subnet with one more address record of a server. -/
def Subnet.addRecord (s : Subnet) (serverId : String) (record : AddressRecord) : Subnet :=
  if s.servers.any (·.id = serverId) then
    { s with
      servers :=
        mapFirst (·.id = serverId) (fun e => { e with ips := e.ips ++ [record] }) s.servers }
  else { s with servers := s.servers ++ [{ id := serverId, ips := [record] }] }

/-- The network with one more address record of a server on its first subnet. -/
def Network.addRecord (n : Network) (serverId : String) (record : AddressRecord) : Network :=
  match n.subnets with
  | [] => n
  | s :: rest => { n with subnets := s.addRecord serverId record :: rest }

/-- The networks with every server entry changed. -/
def mapServerEntries (change : SubnetServer → SubnetServer) (networks : List Network) :
    List Network :=
  networks.map fun n =>
    { n with subnets := n.subnets.map fun s => { s with servers := s.servers.map change } }

/-- Every server entry of the networks. -/
def serverEntries (networks : List Network) : List SubnetServer :=
  networks.flatMap fun n => n.subnets.flatMap (·.servers)

end Reconciler
