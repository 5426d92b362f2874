import Reconciler.Proofs.Update.Calls
import Reconciler.Proofs.Update.MembershipSteps
import Reconciler.Proofs.Update.ServerSteps

/-!
# What is known of the server after an update

The steps about the server bring its name, its groups and its flavor to the desired ones, whatever
statuses are still to come for it. Waiting for a status, switching the server on and off, and growing
its root disk leave what is known of it besides the status.

## What is proved

* `Cloud.HasProfile.perform`: what calls about the status leave.
* `leads_resizeFlavor_profile`, `leads_growRootDisk_profile`: what is known after the two steps.
-/

namespace Reconciler

/-- What is known of the server of the instance, besides its status, is `profile`. -/
def Cloud.HasProfile (c : Cloud) (id : InstanceId) (profile : ServerDetail) : Prop :=
  ∃ srv, c.server? id = some srv ∧ srv.profile = profile

/-- **What is known of the server is as desired.** A flavor that is not reported counts as the desired
one. -/
structure ServerDetail.AsDesired (profile : ServerDetail) (desired : InstanceSpec) : Prop where
  /-- The name. -/
  name : profile.name = desired.name
  /-- The flavor. -/
  flavorId : profile.flavorId.getD desired.flavorId = desired.flavorId
  /-- The groups. -/
  groups : Lists profile.securityGroupIds desired.securityGroups

/-- The call is about the status of a server. -/
def Call.AboutStatus : Call → Prop
  | .getServer _ | .powerOff _ | .powerOn _ | .resizeRootVolume _ _ => True
  | _ => False

namespace Cloud.HasProfile

variable {c : Cloud} {id x : InstanceId} {profile : ServerDetail}

/-- A change of some server that leaves its profile leaves that of the instance. -/
theorem editServer {change : CloudServer → CloudServer} (h : c.HasProfile id profile)
    (same : ∀ srv, (change srv).profile = srv.profile) :
    (c.editServer x change).HasProfile id profile := by
  obtain ⟨srv, hs, hprofile⟩ := h
  have hid (srv : CloudServer) : (change srv).detail.id = srv.detail.id := by
    show (change srv).profile.id = srv.profile.id
    rw [same]
  by_cases hx : x = id
  · subst hx
    exact ⟨change srv, server?_editServer change hs (hid srv), (same srv).trans hprofile⟩
  · refine ⟨srv, (find?_mapFirst_of_ne (fun u hu => ?_) fun u hu => ?_).trans hs, hprofile⟩
    all_goals
      have hux : u.detail.id = x := of_decide_eq_true hu
      simp [hid, hux, hx]

theorem changeServer {change : CloudServer → CloudServer} (h : c.HasProfile id profile)
    (same : ∀ srv, (change srv).profile = srv.profile) :
    (c.changeServer x change).2.HasProfile id profile := by
  cases hx : c.server? x with
  | none =>
    rw [Cloud.changeServer, hx]
    exact h
  | some srv =>
    rw [changeServer_eq hx]
    exact h.editServer same

/-- **A call about a status** leaves what else is known of the server. -/
theorem perform (h : c.HasProfile id profile) {call : Call} (hcall : call.AboutStatus) :
    (c.perform call).2.HasProfile id profile := by
  cases call with
  | getServer x =>
    cases hx : c.server? x with
    | none =>
      rw [Cloud.perform, observe, hx]
      exact h
    | some srv =>
      rw [perform_getServer_advance hx]
      exact h.editServer CloudServer.profile_advance
  | powerOff | powerOn | resizeRootVolume => exact h.changeServer fun _ => rfl
  | _ => exact hcall.elim

end Cloud.HasProfile

variable {σ : Type} {H : Host σ} {c : Cloud} {t : Tuning} {s : InstanceState}
  {desired : InstanceSpec} {srv : CloudServer} {profile : ServerDetail}

theorem Cloud.HasProfile.leads {α : Type} {task : Task α} {id : InstanceId}
    (h : c.HasProfile id profile) (hx : task.run.Makes Call.AboutStatus) :
    H.Leads c task (fun _ d => d.HasProfile id profile) fun _ => True :=
  (Host.leads_kept (·.HasProfile id profile) hx (fun _ _ hcall hd => hd.perform hcall) h).mono
    (fun _ _ hd => hd) fun _ _ => trivial

/-- **A new flavor** is the desired one, and what else is known of the server stays. -/
theorem leads_resizeFlavor_profile (hs : c.server? s.id = some srv)
    (name : srv.detail.name = desired.name)
    (flavorId : srv.detail.flavorId.getD s.applied.flavorId = s.applied.flavorId)
    (groups : Lists srv.detail.securityGroupIds desired.securityGroups) :
    H.Leads c (resizeFlavor t s desired)
      (fun _ d => ∃ profile, d.HasProfile s.id profile ∧ profile.AsDesired desired)
      fun _ => True := by
  have known : c.HasProfile s.id srv.profile := ⟨srv, hs, rfl⟩
  rw [resizeFlavor]
  split_ifs with same
  · rw [same] at flavorId
    exact Host.leads_pure ⟨_, known, name, flavorId, groups⟩
  · refine Host.leads_deadlineAfter_bind fun deadline => ?_
    have switchedOff : H.Leads c (ask s.region (.powerOff s.id) "power off instance") _ _ :=
      known.leads (.run_ask trivial)
    refine switchedOff.bind fun _ _ off => ?_
    refine (off.leads (makes_awaitStatus trivial)).bind fun _ d stopped => ?_
    have resized : H.Leads d
        (ask s.region (.resizeServer s.id desired.flavorId) "resize instance")
        (fun _ e => e.HasProfile s.id { srv.profile with flavorId := some desired.flavorId })
        fun _ => True := by
      obtain ⟨srv', hs', hprofile⟩ := stopped
      refine Host.leads_ask_ok (Cloud.changeServer_eq hs') ?_ fun _ => trivial
      refine ⟨_, Cloud.server?_editServer (·.withFlavor desired.flavorId) hs' rfl, ?_⟩
      rw [← hprofile]
      rfl
    refine resized.bind fun _ e changed => ?_
    have switchedOn : H.Leads e (ask s.region (.powerOn s.id) "power on instance") _ _ :=
      changed.leads (.run_ask trivial)
    refine switchedOn.bind fun _ _ on => ?_
    refine (on.leads (makes_awaitStatus trivial)).bind fun _ _ started => ?_
    exact Host.leads_pure ⟨_, started, name, rfl, groups⟩

/-- **A larger root disk** leaves what is known of the server. -/
theorem leads_growRootDisk_profile {status : Status} (h : c.HasProfile s.id profile) :
    H.Leads c (growRootDisk t s status desired) (fun _ d => d.HasProfile s.id profile)
      fun _ => True :=
  h.leads (makes_growRootDisk_of trivial trivial trivial)

end Reconciler
