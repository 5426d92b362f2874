import Reconciler.Lifecycle.Basic

/-!
# The floating address of an instance

A floating address that is to change is unbound from the port it was on, and the desired one is
bound to the port of its network.
-/

namespace Reconciler

/-- Unbinds the floating address from the port that was tracked for its network. A network without a
port has nothing bound, and a port without a floating address is as wanted. -/
def unbindFloatingIp (observed : InstanceState) (previous : FloatingIpBinding) : Task Unit :=
  match attachedTo? observed.networks previous.networkId with
  | none => return ()
  | some a => ExceptT.mk do
    match ← Program.request observed.region (.detachFloatingIp a.portId) with
    | .ok _ => return .ok ()
    | .error e =>
      if e.isNotFound then return .ok () else return .error (.remote "detach floating ip" e)

/-- Binds a floating address to an existing instance, which must have a port on the network asked
for and must not be listed as holding a public address. -/
def bindNextFloatingIp (observed : InstanceState) (networks : List NetworkAttachment)
    (next : FloatingIpBinding) : Task Unit := do
  match attachedTo? networks next.networkId with
  | none => throw (.missingAttachment next.networkId observed.id)
  | some target =>
    if (← publicIpState observed.region observed.id) = some true then
      throw (publicIpConflict observed.id)
    bindFloatingIp observed.region observed.id next target

/-- Brings the floating address of an instance to the desired one; `networks` are its attachments by
now. Answers what is then bound. -/
def convergeFloatingIp (observed : InstanceState) (networks : List NetworkAttachment)
    (desired : InstanceSpec) : Task (Option FloatingIpBinding) := do
  if observed.floatingIp = desired.floatingIp then return observed.floatingIp
  match observed.floatingIp with
  | none => pure ()
  | some previous => unbindFloatingIp observed previous
  match desired.floatingIp with
  | none => pure ()
  | some next => bindNextFloatingIp observed networks next
  return desired.floatingIp

end Reconciler
