import Reconciler.Proofs.Update.FloatingIpStep
import Reconciler.Proofs.Update.MembershipSteps
import Reconciler.Proofs.Update.ServerSteps

/-!
# What an update makes of the cloud

An update starts from a tracked state that agrees with the cloud. Whether it can succeed is decided
then: `Feasible` says what it takes. If it can, and no call is refused, it succeeds and the instance
is as it is desired; and if calls are refused it breaks off somewhere on the way, which `Underway`
describes.

## What is proved

* `leads_updateInstance`: an update from a state that agrees with the cloud.
* `feasible_congr`: whether an update can succeed is a matter of what no call changes.
-/

namespace Reconciler

/-! ### A tracked state that agrees with the cloud -/

/-- The server is as it is tracked. What is not reported of it counts as it is tracked. -/
structure CloudServer.TrackedAs (srv : CloudServer) (s : InstanceState) : Prop where
  /-- There is no other status to come. -/
  script : srv.script = []
  /-- The status. -/
  status : srv.detail.status = s.status
  /-- The flavor. -/
  flavor : srv.detail.flavorId.getD s.applied.flavorId = s.applied.flavorId
  /-- The image. -/
  image : srv.detail.imageId.getD s.applied.imageId = s.applied.imageId
  /-- The dedicated host. -/
  host : srv.detail.dedicatedServerId = "" ∨
    s.applied.dedicatedServerId = some srv.detail.dedicatedServerId
  /-- The groups. -/
  groups : Lists srv.detail.securityGroupIds s.securityGroups

/-- The floating address that is found bound for an instance. -/
def Cloud.boundFor (c : Cloud) (id : InstanceId) : Option FloatingIpBinding :=
  (c.floatingIps.find? (·.serverId = id)).bind fun b => b.record.binding? c.networks

/-- **The tracked state agrees with the cloud**: the instance is there as it is tracked, with one
port on each tracked network and none elsewhere. -/
structure Agrees (c : Cloud) (s : InstanceState) : Prop where
  /-- No two networks have one name. -/
  names : (c.networks.map (·.name)).Nodup
  /-- The server is there. -/
  server : ∃ srv, c.server? s.id = some srv ∧ srv.TrackedAs s
  /-- No attached volume is hidden by another with its identifier. -/
  reached : AllReached c.volumes s.id
  /-- The volumes are the tracked ones. -/
  volumes : Lists (volumesOf c.volumes s.id) s.volumes
  /-- There is one attachment to a network at most. -/
  nodup : (s.networks.map (·.networkId)).Nodup
  /-- The ports are those of the attachments. -/
  ports : c.Ports s.id (portOn s.networks)
  /-- The floating address is the tracked one. -/
  floatingIp : c.boundFor s.id = s.floatingIp

/-! ### What it takes for an update to succeed -/

/-- **An update can succeed**: it is not refused, and every step of it can be made. -/
structure Feasible (t : Tuning) (c : Cloud) (s : InstanceState) (desired : InstanceSpec) : Prop where
  /-- Nothing fixed is to change. -/
  allowed : immutableViolations s.applied desired = []
  /-- A new flavor can be given. -/
  flavor : CanResize t c s desired
  /-- The volumes exist. -/
  volumes : HasVolumes c desired
  /-- The networks exist. -/
  networks : CanAttach c desired
  /-- A larger root disk can be given. -/
  disk : CanGrow t s desired
  /-- The floating address can be bound. -/
  floatingIp : CanBind c s desired

section

variable {t : Tuning} {c d : Cloud} {s : InstanceState} {desired : InstanceSpec}

theorem canResize_congr (h : c.SameSite d) :
    CanResize t d s desired ↔ CanResize t c s desired := by
  rw [CanResize, CanResize, h.powerOnStatus]

theorem hasVolumes_congr (h : c.SameSite d) : HasVolumes d desired ↔ HasVolumes c desired := by
  rw [HasVolumes, HasVolumes, h.volumeIds]

theorem canAttach_congr (h : c.SameSite d) : CanAttach d desired ↔ CanAttach c desired :=
  forall₂_congr fun _ _ => attachable_congr h.layout

theorem canBind_congr (h : c.SameSite d) : CanBind d s desired ↔ CanBind c s desired := by
  rw [CanBind, CanBind, Cloud.HoldsPublicIp, Cloud.HoldsPublicIp, h.publicIps]

/-- **Whether an update can succeed** is a matter of what no call changes. -/
theorem feasible_congr (h : c.SameSite d) : Feasible t d s desired ↔ Feasible t c s desired :=
  ⟨fun f => ⟨f.allowed, (canResize_congr h).1 f.flavor, (hasVolumes_congr h).1 f.volumes,
      (canAttach_congr h).1 f.networks, f.disk, (canBind_congr h).1 f.floatingIp⟩,
    fun f => ⟨f.allowed, (canResize_congr h).2 f.flavor, (hasVolumes_congr h).2 f.volumes,
      (canAttach_congr h).2 f.networks, f.disk, (canBind_congr h).2 f.floatingIp⟩⟩

end

/-! ### On the way -/

/-- **The cloud `d` is on the way** from `c` to what an update is to bring about: the server has
come along, the volumes can be reached, the ports that need not be replaced are there, and so is a
floating address that is not to change. -/
structure Underway (c : Cloud) (s : InstanceState) (desired : InstanceSpec) (srv : CloudServer)
    (d : Cloud) : Prop where
  /-- What no call changes. -/
  site : c.SameSite d
  /-- The server. -/
  server : d.HasAlong s.id desired.flavorId srv
  /-- The volumes. -/
  reached : AllReached d.volumes s.id
  /-- The ports. -/
  ports : ∃ port?, d.Ports s.id port? ∧ KeepsPorts desired s.networks port?
  /-- The floating addresses. -/
  floatingIps : s.floatingIp = desired.floatingIp → d.floatingIps = c.floatingIps

namespace Underway

variable {c d e : Cloud} {s : InstanceState} {desired : InstanceSpec} {srv : CloudServer}

/-- An update is on the way from the start. -/
theorem start (h : Agrees c s) (hs : c.server? s.id = some srv) : Underway c s desired srv c where
  site := .refl c
  server := ⟨srv, hs, .refl _ _⟩
  reached := h.reached
  ports := by
    refine ⟨_, h.ports, fun a ha r _ _ => ?_⟩
    rw [portOn, find?_of_nodup h.nodup ha, Option.map_some]
  floatingIps _ := rfl

theorem servers (h : Underway c s desired srv d)
    (he : Part.servers.Changes d e ∧ d.SameSite e) (hserver : e.HasAlong s.id desired.flavorId srv) :
    Underway c s desired srv e := by
  obtain ⟨⟨_, rfl⟩, hsite⟩ := he
  obtain ⟨port?, hports, hkeeps⟩ := h.ports
  exact ⟨h.site.trans hsite, hserver, h.reached,
    ⟨port?, hports.of_networks rfl (Nat.le_refl _), hkeeps⟩, h.floatingIps⟩

theorem volumes (h : Underway c s desired srv d)
    (he : Part.volumes.Changes d e ∧ d.SameSite e) (hreached : AllReached e.volumes s.id) :
    Underway c s desired srv e := by
  obtain ⟨⟨_, rfl⟩, hsite⟩ := he
  obtain ⟨port?, hports, hkeeps⟩ := h.ports
  exact ⟨h.site.trans hsite, h.server, hreached,
    ⟨port?, hports.of_networks rfl (Nat.le_refl _), hkeeps⟩, h.floatingIps⟩

theorem networks (h : Underway c s desired srv d)
    (he : Part.networks.Changes d e ∧ d.SameSite e)
    (hports : ∃ port?, e.Ports s.id port? ∧ KeepsPorts desired s.networks port?) :
    Underway c s desired srv e := by
  obtain ⟨⟨_, _, _, rfl⟩, hsite⟩ := he
  exact ⟨h.site.trans hsite, h.server, h.reached, hports, h.floatingIps⟩

theorem floatingIp (h : Underway c s desired srv d)
    (he : Part.floatingIps.Changes d e ∧ d.SameSite e)
    (hsame : s.floatingIp = desired.floatingIp → e = d) : Underway c s desired srv e := by
  obtain ⟨⟨_, _, hle, rfl⟩, hsite⟩ := he
  obtain ⟨port?, hports, hkeeps⟩ := h.ports
  refine ⟨h.site.trans hsite, h.server, h.reached, ⟨port?, hports.of_networks rfl hle, hkeeps⟩,
    fun hfloating => ?_⟩
  rw [hsame hfloating]
  exact h.floatingIps hfloating

end Underway

/-- **The instance is as desired**: it has the groups, the volumes and one port on each network that
is desired, and none on any other. -/
structure Achieved (d : Cloud) (id : InstanceId) (desired : InstanceSpec) : Prop where
  /-- The groups. -/
  groups : ∃ srv, d.server? id = some srv ∧
    Lists srv.detail.securityGroupIds desired.securityGroups
  /-- The volumes. -/
  volumes : Lists (d.volumesAttachedTo id) desired.volumes
  /-- The desired networks are there. -/
  requested : ∀ r ∈ desired.networks, r.networkId ∈ d.networks.map (·.id)
  /-- The ports. -/
  networks : ∀ n ∈ d.networks,
    (n.recordsOf id).length = if (desired.network? n.id).isSome then 1 else 0

theorem mem_networkIds_iff {networks : List NetworkAttachment} {desired : InstanceSpec}
    (hids : networks.map (·.networkId) = (desired.networks.map (·.networkId)).eraseDups)
    (k : String) :
    k ∈ networks.map (·.networkId) ↔ (desired.network? k).isSome := by
  rw [hids, List.mem_eraseDups, InstanceSpec.network?, List.find?_isSome, List.mem_map]
  simp only [decide_eq_true_eq]

/-- An instance with the ports of attachments to the desired networks has what is desired there. -/
theorem Cloud.Ports.achieved {d : Cloud} {id : InstanceId} {networks : List NetworkAttachment}
    {desired : InstanceSpec} (h : d.Ports id (portOn networks))
    (hids : ∀ k, k ∈ networks.map (·.networkId) ↔ (desired.network? k).isSome)
    (groups : ∃ srv, d.server? id = some srv ∧
      Lists srv.detail.securityGroupIds desired.securityGroups)
    (volumes : Lists (volumesOf d.volumes id) desired.volumes) : Achieved d id desired := by
  have port_iff (k : String) : (portOn networks k).isSome ↔ (desired.network? k).isSome := by
    rw [← hids, portOn, Option.isSome_map, List.find?_isSome, List.mem_map]
    simp only [decide_eq_true_eq]
  refine ⟨groups, volumes, fun r hr => ?_, fun n hn => ?_⟩
  · have requested : (desired.network? r.networkId).isSome :=
      List.find?_isSome.2 ⟨r, hr, decide_eq_true rfl⟩
    obtain ⟨p, hp⟩ := Option.isSome_iff_exists.1 ((port_iff _).2 requested)
    exact h.listed _ p hp
  · have records := congrArg List.length (h.carries n hn).recordsOf_eq
    rw [List.length_map] at records
    rw [records]
    have iff := port_iff n.id
    cases hport : portOn networks n.id with
    | none =>
      rw [hport] at iff
      rw [if_neg fun hsome => absurd (iff.2 hsome) (by simp)]
      rfl
    | some p =>
      rw [hport] at iff
      rw [if_pos (iff.1 rfl)]
      rfl

/-! ### The whole update -/

section

variable {σ : Type} {H : Host σ} {t : Tuning} {c d : Cloud} {s : InstanceState}
  {desired : InstanceSpec} {srv : CloudServer}

/-- The server has the desired groups and the status that an update reckons with. -/
def HasGroups (s : InstanceState) (desired : InstanceSpec) (srv : CloudServer) (d : Cloud) : Prop :=
  ∃ srv', d.server? s.id = some srv' ∧ Along desired.flavorId srv srv' ∧
    srv'.detail.status = statusAfterFlavor s desired ∧
    Lists srv'.detail.securityGroupIds desired.securityGroups

/-- The end of an update, once the networks have been seen to. -/
theorem leads_afterNetworks {networks : List NetworkAttachment} {result : InstanceState}
    (m : Underway c s desired srv d) (hscript : srv.script = [])
    (hgroups : HasGroups s desired srv d)
    (volumes : Lists (volumesOf d.volumes s.id) desired.volumes)
    (ports : d.Ports s.id (portOn networks))
    (hids : ∀ k, k ∈ networks.map (·.networkId) ↔ (desired.network? k).isSome)
    (feasible : CanGrow t s desired → CanBind c s desired → Feasible t c s desired) :
    H.Leads d (do
        let _ ← growRootDisk t s (statusAfterFlavor s desired) desired
        let _ ← convergeFloatingIp s networks desired
        revertSnapshot s desired
        return result)
      (fun _ e => Feasible t c s desired ∧ Achieved e s.id desired)
      fun e => ¬ Feasible t c s desired ∨ H.fails ∧ Underway c s desired srv e := by
  obtain ⟨srv', hs, along, hstatus, hlists⟩ := hgroups
  have disk : H.Leads d (growRootDisk t s (statusAfterFlavor s desired) desired) _ _ :=
    (leads_growRootDisk hs (along.script.trans hscript) hstatus).framed makes_growRootDisk
  refine disk.followedBy ?_ ?_
  · rintro e ⟨hn | ⟨hf, srv'', he, along'⟩, frame⟩
    · exact .inl fun f => hn f.disk
    · exact .inr ⟨hf, m.servers frame ⟨srv'', he, along.trans along'⟩⟩
  · rintro _ e ⟨⟨hgrow, srv'', he, along', hsame⟩, frame⟩
    have m' := m.servers frame ⟨srv'', he, along.trans along'⟩
    have can_grow : CanBind c s desired → Feasible t c s desired := feasible hgrow
    have ports' : e.Ports s.id (portOn networks) ∧ e.volumes = d.volumes := by
      obtain ⟨⟨_, rfl⟩, -⟩ := frame
      exact ⟨ports.of_networks rfl (Nat.le_refl _), rfl⟩
    -- The step makes no call for an address that stays, so that no host can make it break off.
    have unchanged : H.Leads e (convergeFloatingIp s networks desired)
        (fun _ e' => s.floatingIp = desired.floatingIp → e' = e)
        fun e' => s.floatingIp = desired.floatingIp → e' = e := by
      by_cases same : s.floatingIp = desired.floatingIp
      · rw [convergeFloatingIp_eq_pure same]
        exact Host.leads_pure fun _ => rfl
      · exact Host.leads_sameSite.mono (fun _ _ _ h => absurd h same) fun _ _ h => absurd h same
    have floating := ((leads_convergeFloatingIp_iff ports'.1 hids).and unchanged).framed
      makes_convergeFloatingIp
    refine floating.followedBy ?_ ?_
    · rintro e' ⟨⟨hn | hf, hsame⟩, frame⟩
      · exact .inl fun f => hn ((canBind_congr m'.site).2 f.floatingIp)
      · exact .inr ⟨hf, m'.floatingIp frame hsame⟩
    · rintro _ e' ⟨⟨hbind, hsame'⟩, frame⟩
      have m'' := m'.floatingIp frame hsame'
      have can : Feasible t c s desired := can_grow ((canBind_congr m'.site).1 hbind)
      refine leads_revertSnapshot.followedBy ?_ ?_
      · rintro _ ⟨hf, rfl⟩
        exact .inr ⟨hf, m''⟩
      · rintro _ d' hd'
        rw [hd']
        have kept : e'.Ports s.id (portOn networks) ∧ e'.volumes = e.volumes ∧
            e'.servers = e.servers := by
          obtain ⟨⟨_, _, hle, rfl⟩, -⟩ := frame
          exact ⟨ports'.1.of_networks rfl hle, rfl, rfl⟩
        refine Host.leads_pure ⟨can, kept.1.achieved hids ⟨srv'', ?_, hsame ▸ hlists⟩ ?_⟩
        · rw [Cloud.server?, kept.2.2]
          exact he
        · rw [kept.2.1, ports'.2]
          exact volumes

/-- What is left of an update once the server has its flavor. -/
theorem leads_afterFlavor {result : IdSet → List NetworkAttachment → InstanceState}
    (agrees : Agrees c s) (m : Underway c s desired srv d) (hscript : srv.script = [])
    (hgroups : HasGroups s desired srv d) (volumes : d.volumes = c.volumes)
    (ports : d.Ports s.id (portOn s.networks))
    (feasible : HasVolumes c desired → CanAttach c desired → CanGrow t s desired →
      CanBind c s desired → Feasible t c s desired) :
    H.Leads d (do
        let volumes ← convergeVolumes s desired
        let networks ← convergeNetworks s desired
        let _ ← growRootDisk t s (statusAfterFlavor s desired) desired
        let _ ← convergeFloatingIp s networks desired
        revertSnapshot s desired
        return result volumes networks)
      (fun _ e => Feasible t c s desired ∧ Achieved e s.id desired)
      fun e => ¬ Feasible t c s desired ∨ H.fails ∧ Underway c s desired srv e := by
  have tracked : Lists (volumesOf d.volumes s.id) s.volumes := volumes ▸ agrees.volumes
  have attached : H.Leads d (convergeVolumes s desired) _ _ :=
    (leads_convergeVolumes m.reached tracked).framed makes_convergeVolumes
  refine attached.followedBy ?_ ?_
  · rintro e ⟨hn | ⟨hf, hreached⟩, frame⟩
    · exact .inl fun f => hn ((hasVolumes_congr m.site).2 f.volumes)
    · exact .inr ⟨hf, m.volumes frame hreached⟩
  · rintro set e ⟨⟨hvolumes, hreached, hlists, -⟩, frame⟩
    have m' := m.volumes frame hreached
    have kept : e.Ports s.id (portOn s.networks) ∧ e.servers = d.servers := by
      obtain ⟨⟨_, rfl⟩, -⟩ := frame
      exact ⟨ports.of_networks rfl (Nat.le_refl _), rfl⟩
    have reconciled : H.Leads e (convergeNetworks s desired) _ _ :=
      (leads_convergeNetworks kept.1 agrees.nodup).framed makes_convergeNetworks
    refine reconciled.followedBy ?_ ?_
    · rintro e' ⟨hn | ⟨hf, hports⟩, frame⟩
      · exact .inl fun f => hn ((canAttach_congr m'.site).2 f.networks)
      · exact .inr ⟨hf, m'.networks frame hports⟩
    · rintro networks e' ⟨⟨hattach, hports, hkeeps, hids⟩, frame⟩
      have m'' := m'.networks frame ⟨_, hports, hkeeps⟩
      have kept' : e'.volumes = e.volumes ∧ e'.servers = e.servers := by
        obtain ⟨⟨_, _, -, rfl⟩, -⟩ := frame
        exact ⟨rfl, rfl⟩
      obtain ⟨srv', hs, hserver⟩ := hgroups
      rw [Cloud.server?, ← kept.2, ← kept'.2] at hs
      have hids' := mem_networkIds_iff hids
      refine leads_afterNetworks m'' hscript ⟨srv', hs, hserver⟩ ?_ hports hids' ?_
      · rw [kept'.1]
        exact hlists
      · exact feasible ((hasVolumes_congr m.site).1 hvolumes) ((canAttach_congr m'.site).1 hattach)

/-- **An update from a state that agrees with the cloud** succeeds exactly when it can, unless the
host fails. Then the instance is as desired, and otherwise the cloud is on the way. -/
theorem leads_updateInstance (h : Agrees c s) (hs : c.server? s.id = some srv)
    (tracked : srv.TrackedAs s) :
    H.Leads c (updateInstance t s desired)
      (fun _ d => Feasible t c s desired ∧ Achieved d s.id desired)
      fun d => ¬ Feasible t c s desired ∨ H.fails ∧ Underway c s desired srv d := by
  by_cases hallowed : immutableViolations s.applied desired = []
  · rw [updateInstance_of_allowed hallowed, convergeExisting_eq]
    have m₀ : Underway c s desired srv c := .start h hs
    -- `m₀` to `m₃` carry what holds on the way over the steps; where one breaks off, it is kept.
    have named : H.Leads c (rename s desired) _ _ := (leads_rename hs).framed makes_rename
    refine named.followedBy ?_ ?_
    · rintro d ⟨⟨hf, rfl⟩, -⟩
      exact .inr ⟨hf, m₀⟩
    rintro _ d₁ ⟨⟨name, hs₁, -⟩, frame₁⟩
    have m₁ := m₀.servers frame₁ ⟨_, hs₁, ⟨rfl, rfl, rfl, .inl ⟨rfl, rfl⟩⟩⟩
    have grouped : H.Leads d₁ (convergeGroups s desired) _ _ :=
      (leads_convergeGroups hs₁ tracked.groups).framed makes_convergeGroups
    refine grouped.followedBy ?_ ?_
    · rintro d ⟨⟨hf, groups, hd⟩, frame⟩
      exact .inr ⟨hf, m₁.servers frame ⟨_, hd, ⟨rfl, rfl, rfl, .inl ⟨rfl, rfl⟩⟩⟩⟩
    rintro _ d₂ ⟨⟨groups, hs₂, hgroups⟩, frame₂⟩
    have along₂ : Along desired.flavorId srv ((srv.named name).withGroups groups) :=
      ⟨rfl, rfl, rfl, .inl ⟨rfl, rfl⟩⟩
    have m₂ := m₁.servers frame₂ ⟨_, hs₂, along₂⟩
    have resized : H.Leads d₂ (resizeFlavor t s desired) _ _ :=
      (leads_resizeFlavor hs₂ tracked.script).framed makes_resizeFlavor
    refine resized.followedBy ?_ ?_
    · rintro d ⟨hn | ⟨hf, srv', hd, along⟩, frame⟩
      · exact .inl fun f => hn ((canResize_congr m₂.site).2 f.flavor)
      · exact .inr ⟨hf, m₂.servers frame ⟨_, hd, along₂.trans along⟩⟩
    rintro _ d₃ ⟨⟨hresize, srv₃, hs₃, along₃, hsame₃, hstatus₃⟩, frame₃⟩
    have m₃ := m₂.servers frame₃ ⟨_, hs₃, along₂.trans along₃⟩
    -- So far only the server was changed.
    have kept : d₃.Ports s.id (portOn s.networks) ∧ d₃.volumes = c.volumes := by
      obtain ⟨⟨_, rfl⟩, -⟩ := frame₁
      obtain ⟨⟨_, rfl⟩, -⟩ := frame₂
      obtain ⟨⟨_, rfl⟩, -⟩ := frame₃
      exact ⟨h.ports.of_networks rfl (Nat.le_refl _), rfl⟩
    have hgroups₃ : HasGroups s desired srv d₃ := by
      refine ⟨srv₃, hs₃, along₂.trans along₃, ?_, hsame₃ ▸ hgroups⟩
      rw [hstatus₃, statusAfterFlavor]
      exact congrArg (ite _ · _) tracked.status
    refine leads_afterFlavor h m₃ tracked.script hgroups₃ kept.2 kept.1 ?_
    intro hvolumes hattach hgrow hbind
    exact ⟨hallowed, (canResize_congr m₂.site).1 hresize, hvolumes, hattach, hgrow, hbind⟩
  · rw [updateInstance]
    split
    · rename_i hnil
      exact absurd hnil hallowed
    · exact Host.leads_throw (.inl fun f => hallowed f.allowed)

end

end Reconciler
