import Reconciler.Proofs.Cloud.Hosts

/-!
# The server of an instance

Calls about an instance change the first server with its identifier, and the instance is found again
afterwards.

## What is proved

* `Cloud.changeServer_eq`, `Cloud.server?_editServer`: a change of a server that is there.
* `Cloud.perform_getServer_advance`, `Cloud.perform_getServer`: a look at a server.
-/

namespace Reconciler

/-! ### Changes of a server -/

namespace CloudServer

/-- The server with that name. -/
def named (s : CloudServer) (name : String) : CloudServer :=
  { s with detail := { s.detail with name } }

/-- The server in that status. -/
def withStatus (s : CloudServer) (status : Status) : CloudServer :=
  { s with detail := { s.detail with status } }

/-- The server with that flavor. -/
def withFlavor (s : CloudServer) (flavorId : String) : CloudServer :=
  { s with detail := { s.detail with flavorId := some flavorId } }

/-- The server in those groups. -/
def withGroups (s : CloudServer) (securityGroupIds : List String) : CloudServer :=
  { s with detail := { s.detail with securityGroupIds } }

/-- What is known of a server besides its status. -/
def profile (s : CloudServer) : ServerDetail := { s.detail with status := .build }

/-- The next status of its script leaves what else is known of a server. -/
theorem profile_advance (s : CloudServer) : s.advance.profile = s.profile := by
  rw [advance]
  split <;> rfl

theorem taskId_advance (s : CloudServer) : s.advance.taskId = s.taskId := by
  rw [advance]
  split <;> rfl

theorem id_advance (s : CloudServer) : s.advance.detail.id = s.detail.id := by
  rw [advance]
  split <;> rfl

end CloudServer

namespace Cloud

variable {c : Cloud} {id : InstanceId} {srv : CloudServer} {change : CloudServer → CloudServer}

/-- The cloud with its first server of an identifier changed. -/
def editServer (c : Cloud) (id : InstanceId) (change : CloudServer → CloudServer) : Cloud :=
  { c with servers := mapFirst (·.detail.id = id) change c.servers }

theorem id_of_server? (hs : c.server? id = some srv) : srv.detail.id = id :=
  by simpa using List.find?_some hs

/-- A change of a server that is there is answered. -/
theorem changeServer_eq (hs : c.server? id = some srv) :
    c.changeServer id change = (.ok (), c.editServer id change) := by
  rw [changeServer, hs]
  rfl

/-- A changed server is found again. -/
theorem server?_editServer (change : CloudServer → CloudServer) (hs : c.server? id = some srv)
    (hid : (change srv).detail.id = srv.detail.id) :
    (c.editServer id change).server? id = some (change srv) :=
  find?_mapFirst hs (by simp [hid, id_of_server? hs])

/-- What the cloud reports of an instance, if `srv` is its server. -/
def report (c : Cloud) (id : InstanceId) (srv : CloudServer) : ServerDetail :=
  { srv.detail with
    addresses := if (addressesOf c.networks id).entries.isEmpty then none
      else some (addressesOf c.networks id) }

/-- **A look at a server** takes the next status of its script and tells what is known of it then,
with its addresses. -/
theorem perform_getServer_advance (hs : c.server? id = some srv) :
    c.perform (.getServer id) = (.ok (c.report id srv.advance), c.editServer id (·.advance)) := by
  rw [perform, observe, hs]
  rfl

/-- A server without a status to come is left as it is by a look at it. -/
theorem editServer_advance (hs : c.server? id = some srv) (hscript : srv.script = []) :
    srv.advance = srv ∧ c.editServer id (·.advance) = c := by
  have same : srv.advance = srv := by rw [CloudServer.advance, hscript]
  have servers : mapFirst (·.detail.id = id) (·.advance) c.servers = c.servers :=
    mapFirst_eq_self fun x hx => by
      rw [server?, hx, Option.some.injEq] at hs
      rw [hs, same]
  exact ⟨same, congrArg (fun servers => { c with servers }) servers⟩

/-- A look at a server without a status to come leaves the cloud as it is. -/
theorem perform_getServer (hs : c.server? id = some srv) (hscript : srv.script = []) :
    c.perform (.getServer id) = (.ok (c.report id srv), c) := by
  obtain ⟨server, cloud⟩ := editServer_advance hs hscript
  rw [perform_getServer_advance hs, server, cloud]

end Cloud

/-- **What follows a call that changes a server** goes on from there. -/
theorem Host.leads_edit_bind {σ β : Type} {H : Host σ} {c : Cloud} {id : InstanceId}
    {srv : CloudServer} {region : Region} {call : Call} {action : String} {a : call.Answer}
    {f : call.Answer → Task β} {done : β → Cloud → Prop} {broken : Cloud → Prop}
    (change : CloudServer → CloudServer) (hs : c.server? id = some srv)
    (h : c.perform call = (.ok a, c.editServer id change))
    (hid : (change srv).detail.id = srv.detail.id)
    (next : (c.editServer id change).server? id = some (change srv) →
      H.Leads (c.editServer id change) (f a) done broken)
    (failed : H.fails → broken c) : H.Leads c (ask region call action >>= f) done broken :=
  leads_ask_ok_bind h (next (Cloud.server?_editServer change hs hid)) failed

end Reconciler
