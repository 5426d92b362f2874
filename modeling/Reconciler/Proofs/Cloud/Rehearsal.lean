import Reconciler.Proofs.Cloud.Built

/-!
# Rehearsals

A cloud in memory starts out empty. It is set up and called, set up further and called again, in any
order. A rehearsal is the list of these steps.

## The model

`Cloud.after` is the cloud that the steps of a rehearsal lead to, and `Cloud.handedOut` lists the
identifiers that the answers on the way hand out. To put a port where none can be is no step: it
leaves the cloud as it was.

## What is proved

* `Cloud.built_iff`: rehearsals lead to all clouds that can be built, and to no others.
-/

namespace Reconciler

/-- The identifiers that the outcome of a call hands out: of a new server and its task, or of a new
port. An empty identifier is none: it stands for one that only the task tells. -/
def Call.handedOut : (call : Call) → Outcome call → List String
  | .createServer _, .ok (created : CreatedServer) => [created.id, created.taskId].filter (· ≠ "")
  | .attachNetwork _ _, .ok (port : AttachedPort) => [port.id]
  | _, _ => []

namespace Cloud

/-- A way to set a cloud up. -/
inductive Setup where
  /-- A network with one subnet is added. -/
  | addNetwork (id name subnetId : String)
  /-- A network without a subnet is added. -/
  | addNetworkWithoutSubnet (id name : String)
  /-- A server that no task made is added. -/
  | addServer (detail : ServerDetail)
  /-- A port of a server is put on the first subnet of a network. -/
  | addPort (networkId serverId portId ip : String) (portSecurity : Bool)
  /-- A volume is added. -/
  | addVolume (id : String)
  /-- It is said whether a server holds a public address. -/
  | setPublicIp (serverId : String) (hasPublicIp : Bool)
  /-- A floating address is bound. -/
  | bindFloatingIp (serverId portId : String) (record : FloatingIp)
  /-- The next looks at a server find some statuses. -/
  | scriptStatuses (serverId : String) (statuses : List Status)
  /-- The looks at servers made from now on find some statuses. -/
  | setCreationStatuses (statuses : List Status)
  /-- Servers that are powered on get a status. -/
  | setPowerOnStatus (status : Status)
  /-- The identifiers of servers made from now on are told only by their tasks. -/
  | hideIdUntilInquiry
  /-- The next calls under a key fail. -/
  | failTimes (key : String) (e : RemoteError) (times : Nat)
  /-- The calls that were made are forgotten. -/
  | clearCalls

/-- A step of a rehearsal. -/
inductive Step where
  /-- The cloud is set up. -/
  | setup (s : Setup)
  /-- The cloud answers a call. -/
  | answer (call : Call)

/-- The cloud that has been set up in some way. -/
def setUp (c : Cloud) : Setup → Cloud
  | .addNetwork id name subnetId => c.addNetwork id name subnetId
  | .addNetworkWithoutSubnet id name => c.addNetworkWithoutSubnet id name
  | .addServer detail => c.addServer detail
  | .addPort networkId serverId portId ip portSecurity =>
    (c.addPort? networkId serverId portId ip portSecurity).getD c
  | .addVolume id => c.addVolume id
  | .setPublicIp serverId hasPublicIp => c.setPublicIp serverId hasPublicIp
  | .bindFloatingIp serverId portId record => c.bindFloatingIp serverId portId record
  | .scriptStatuses serverId statuses => c.scriptStatuses serverId statuses
  | .setCreationStatuses statuses => c.setCreationStatuses statuses
  | .setPowerOnStatus status => c.setPowerOnStatus status
  | .hideIdUntilInquiry => c.hideIdUntilInquiry
  | .failTimes key e times => c.failTimes key e times
  | .clearCalls => c.clearCalls

/-- The cloud after a step. -/
def take (c : Cloud) : Step → Cloud
  | .setup s => c.setUp s
  | .answer call => (c.answer call).2

/-- The cloud after some steps. -/
def after (c : Cloud) (steps : List Step) : Cloud := steps.foldl take c

/-- The identifiers that a step hands out. -/
def Step.handedOut (c : Cloud) : Step → List String
  | .setup _ => []
  | .answer call => call.handedOut (c.answer call).1

/-- The identifiers that some steps hand out, in turn. -/
def handedOut (c : Cloud) : List Step → List String
  | [] => []
  | s :: steps => s.handedOut c ++ (c.take s).handedOut steps

theorem after_append (c : Cloud) (earlier later : List Step) :
    c.after (earlier ++ later) = (c.after earlier).after later :=
  List.foldl_append

/-! ### Clouds that have been built -/

variable {c : Cloud}

theorem Built.setUp (h : c.Built) (s : Setup) : (c.setUp s).Built := by
  cases s with
  | addNetwork id name subnetId => exact h.addNetwork ..
  | addNetworkWithoutSubnet id name => exact h.addNetworkWithoutSubnet ..
  | addServer detail => exact h.addServer ..
  | addPort networkId serverId portId ip portSecurity =>
    rw [Cloud.setUp]
    cases hd : c.addPort? networkId serverId portId ip portSecurity with
    | none => exact h
    | some d => exact h.addPort hd
  | addVolume id => exact h.addVolume ..
  | setPublicIp serverId hasPublicIp => exact h.setPublicIp ..
  | bindFloatingIp serverId portId record => exact h.bindFloatingIp ..
  | scriptStatuses serverId statuses => exact h.scriptStatuses ..
  | setCreationStatuses statuses => exact h.setCreationStatuses ..
  | setPowerOnStatus status => exact h.setPowerOnStatus ..
  | hideIdUntilInquiry => exact h.hideIdUntilInquiry
  | failTimes key e times => exact h.failTimes ..
  | clearCalls => exact h.clearCalls

theorem Built.after (h : c.Built) (steps : List Step) : (c.after steps).Built := by
  induction steps generalizing c with
  | nil => exact h
  | cons s steps ih =>
    cases s with
    | setup s => exact ih (h.setUp s)
    | answer call => exact ih (h.answer call)

/-- One step more. -/
theorem exists_after_take {s : Step} (h : ∃ steps, c = after {} steps) :
    ∃ steps, c.take s = after {} steps := by
  obtain ⟨steps, rfl⟩ := h
  exact ⟨steps ++ [s], (after_append {} steps [s]).symm⟩

/-- **Rehearsals lead to the clouds that can be built**, and to no others. -/
theorem built_iff : c.Built ↔ ∃ steps, c = after {} steps := by
  constructor
  · intro h
    induction h with
    | empty => exact ⟨[], rfl⟩
    | addNetwork _ id name subnetId ih =>
      exact exists_after_take (s := .setup (.addNetwork id name subnetId)) ih
    | addNetworkWithoutSubnet _ id name ih =>
      exact exists_after_take (s := .setup (.addNetworkWithoutSubnet id name)) ih
    | addServer _ detail ih => exact exists_after_take (s := .setup (.addServer detail)) ih
    | @addPort c d _ networkId serverId portId ip portSecurity hd ih =>
      have same : c.take (.setup (.addPort networkId serverId portId ip portSecurity)) = d := by
        rw [take, Cloud.setUp, hd, Option.getD_some]
      exact same ▸ exists_after_take ih
    | addVolume _ id ih => exact exists_after_take (s := .setup (.addVolume id)) ih
    | setPublicIp _ serverId hasPublicIp ih =>
      exact exists_after_take (s := .setup (.setPublicIp serverId hasPublicIp)) ih
    | bindFloatingIp _ serverId portId record ih =>
      exact exists_after_take (s := .setup (.bindFloatingIp serverId portId record)) ih
    | scriptStatuses _ serverId statuses ih =>
      exact exists_after_take (s := .setup (.scriptStatuses serverId statuses)) ih
    | setCreationStatuses _ statuses ih =>
      exact exists_after_take (s := .setup (.setCreationStatuses statuses)) ih
    | setPowerOnStatus _ status ih =>
      exact exists_after_take (s := .setup (.setPowerOnStatus status)) ih
    | hideIdUntilInquiry _ ih => exact exists_after_take (s := .setup .hideIdUntilInquiry) ih
    | failTimes _ key e times ih =>
      exact exists_after_take (s := .setup (.failTimes key e times)) ih
    | clearCalls _ ih => exact exists_after_take (s := .setup .clearCalls) ih
    | answer _ call ih => exact exists_after_take (s := .answer call) ih
  · rintro ⟨steps, rfl⟩
    exact Built.empty.after steps

end Cloud

end Reconciler
