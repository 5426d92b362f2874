import Reconciler.Lifecycle.Basic

/-!
# The networks of an instance

The attachments of an instance are brought to the requests of the desired configuration. First every
attachment to a network that is not wanted is given up. Then the requests are met one after another:
an attachment that satisfies its request stays, one that does not is given up for a new one, and a
network without one gets one.

## The model

Attachments to wanted networks are remembered in a map; of several to one network the last is. Of
several requests for one network the first counts. The provider's listing of the networks is fetched
only if some request is not satisfied by what is remembered.
-/

namespace Reconciler

/-- Gives up an attachment, if it has a port. -/
def detachFrom (region : Region) (instanceId : InstanceId) (a : NetworkAttachment) : Task Unit :=
  if a.isAttached then
    ask region (.detachNetwork a.portId instanceId) ("detach network " ++ a.networkId)
  else return ()

/-- The attachment that a new port is. The network, and whether the port filters, are as requested;
a port that names no subnet is on the one it was asked for on. -/
def NetworkAttachment.ofPort (r : NetworkRequest) (subnet : Subnet) (port : AttachedPort) :
    NetworkAttachment where
  networkId := r.networkId
  subnetId := if port.subnetId = "" then subnet.id else port.subnetId
  portId := port.id
  ip := port.ipAddress
  isPublic := false
  portSecurity := r.portSecurity

/-- Meets a request with a new port on the subnet that the listing gives for its network. -/
def attachTo (region : Region) (instanceId : InstanceId) (listing : List Network)
    (r : NetworkRequest) : Task NetworkAttachment := do
  let subnet ← liftExcept (subnetFor listing r.networkId)
  let port ← ask region
    (.attachNetwork r.networkId
      { serverId := instanceId, subnetId := subnet.id, ip := r.ip, portSecurity := r.portSecurity })
    ("attach network " ++ r.networkId)
  return .ofPort r subnet port
where
  /-- A value or a failure as a task. -/
  liftExcept {α : Type} (r : Except Failure α) : Task α := ExceptT.mk (return r)

/-- Gives up the attachments to networks that are not wanted, in order, and remembers the others. -/
def detachUnwanted (region : Region) (instanceId : InstanceId) (desired : InstanceSpec) :
    IdMap NetworkAttachment → List NetworkAttachment → Task (IdMap NetworkAttachment)
  | kept, [] => return kept
  | kept, a :: rest => do
    if (desired.network? a.networkId).isSome then
      detachUnwanted region instanceId desired (kept.insert a.networkId a) rest
    else
      detachFrom region instanceId a
      detachUnwanted region instanceId desired kept rest

/-- Whether a request is satisfied by what is remembered for its network. -/
def NetworkRequest.metBy (r : NetworkRequest) (kept : IdMap NetworkAttachment) : Bool :=
  (kept.find? r.networkId).any r.satisfiedBy

/-- Meets a request: with the remembered attachment if that satisfies it, and otherwise with a new
one, for which the remembered one is given up. -/
def meetRequest (region : Region) (instanceId : InstanceId) (listing : List Network)
    (kept : IdMap NetworkAttachment) (r : NetworkRequest) : Task NetworkAttachment := do
  match kept.find? r.networkId with
  | none => attachTo region instanceId listing r
  | some a =>
    if r.satisfiedBy a then return a
    else
      detachFrom region instanceId a
      attachTo region instanceId listing r

/-- Meets the requests in order, after those that `met` are the attachments of. -/
def meetRequests (region : Region) (instanceId : InstanceId) (listing : List Network) :
    IdMap NetworkAttachment → List NetworkAttachment → List NetworkRequest →
      Task (List NetworkAttachment)
  | _, met, [] => return met
  | kept, met, r :: rest => do
    if met.any (·.networkId = r.networkId) then
      meetRequests region instanceId listing kept met rest
    else
      let a ← meetRequest region instanceId listing kept r
      meetRequests region instanceId listing (kept.erase r.networkId) (met ++ [a]) rest

/-- Brings the attachments of an instance to the desired requests; the attachments afterwards. -/
def convergeNetworks (observed : InstanceState) (desired : InstanceSpec) :
    Task (List NetworkAttachment) := do
  let region := observed.region
  let kept ← detachUnwanted region observed.id desired ∅ observed.networks
  let listing ←
    if desired.networks.all (·.metBy kept) then pure [] else listNetworks region
  meetRequests region observed.id listing kept [] desired.networks

end Reconciler
