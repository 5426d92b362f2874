import Reconciler.Failure
import Reconciler.Provider.Records

/-!
# The networks of an instance

A provider lists its networks with their subnets, the instances on each subnet and the address
records of each instance. From such a listing one reads what an instance is attached to.

## The model

Only the first subnet of a network counts. On it, the attachment of an instance is its first address
record that belongs to that subnet (`Network.attachmentOf`). A network without a subnet carries no
attachment, and one on which the instance has no record carries the unattached one.

Networks are picked from the listing by their identifier (`resolveById`) or, through an address
book, by their name (`resolveByAddress`).
-/

namespace Reconciler

/-- The first record of an instance on a subnet that belongs to that subnet. -/
def Subnet.recordOf (s : Subnet) (instanceId : InstanceId) : Option AddressRecord :=
  ((s.servers.filter (·.id = instanceId)).flatMap (·.ips)).find? (·.subnetId = s.id)

/-- The attachment of an instance that an address record shows. -/
def NetworkAttachment.ofRecord (networkId subnetId : String) (r : AddressRecord) :
    NetworkAttachment where
  networkId := networkId
  subnetId := subnetId
  portId := r.portId
  ip := r.ip
  isPublic := r.isPublic
  portSecurity := r.portSecurity

/-- The attachment of an instance to a network; there is none when the network has no subnet. -/
def Network.attachmentOf (n : Network) (instanceId : InstanceId) : Option NetworkAttachment :=
  n.subnets.head?.map fun s =>
    match s.recordOf instanceId with
    | some r => .ofRecord n.id s.id r
    | none => .unattached n.id

/-- The attachments of an instance to some networks of a listing, by the network; of several for one
network the last counts. -/
def attachmentsOn (networks : List Network) (instanceId : InstanceId) : IdMap NetworkAttachment :=
  .ofList ((networks.filterMap (·.attachmentOf instanceId)).map fun a => (a.networkId, a))

/-- The attachments of an instance to the networks with the given identifiers. An identifier stands
for the first network listed under it, and one that is not listed is passed over. -/
def resolveById (networks : List Network) (networkIds : List String) (instanceId : InstanceId) :
    IdMap NetworkAttachment :=
  attachmentsOn (networkIds.filterMap fun k => networks.find? (·.id = k)) instanceId

/-- The attachments of an instance to the networks whose name is in its address book. -/
def resolveByAddress (networks : List Network) (book : AddressBook) (instanceId : InstanceId) :
    IdMap NetworkAttachment :=
  attachmentsOn (networks.filter fun n => book.contains n.name) instanceId

/-- The subnet that new attachments to a network take their address from. -/
def subnetFor (networks : List Network) (networkId : String) : Except Failure Subnet :=
  match networks.find? (·.id = networkId) with
  | none => .error (.unknownNetwork networkId)
  | some n =>
    match n.subnets with
    | [] => .error (.networkWithoutSubnet networkId)
    | s :: _ => .ok s

/-- The first network with a name. -/
def networkNamed? (networks : List Network) (name : String) : Option Network :=
  networks.find? (·.name = name)

end Reconciler
