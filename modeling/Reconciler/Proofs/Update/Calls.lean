import Reconciler.Lifecycle.Update
import Reconciler.Proofs.Cloud.Frames
import Reconciler.Proofs.Update.Membership
import Reconciler.Proofs.Waiting.Rounds

/-!
# The calls of the steps of an update

Each step of an update makes calls of one kind, and so it can change one part of the cloud only: the
name, the groups, the flavor and the root disk are matters of the server, and the volumes, the
networks and the floating address are parts of their own.

## What is proved

* `makes_rename`, `makes_convergeGroups`, `makes_resizeFlavor`, `makes_convergeVolumes`,
  `makes_convergeNetworks`, `makes_growRootDisk`, `makes_convergeFloatingIp`,
  `makes_revertSnapshot`: the part of the cloud that each step may change.
* `makes_updateInstance`: an update makes no server.
-/

namespace Reconciler

variable {α : Type} {allowed : Call → Prop} {t : Tuning} {region : Region} {id : InstanceId}
  {observed : InstanceState} {desired : InstanceSpec}

/-! ### Waits -/

theorem makes_request {c : Call} (h : allowed c) : (Program.request region c).Makes allowed :=
  ⟨h, fun _ => trivial⟩

theorem makes_clock : Program.clock.Makes allowed := fun _ => trivial

theorem makes_pause {span : Span} : (Program.pause span).Makes allowed := trivial

theorem makes_loop {σ ε β : Type} [Retryable ε] {w : Wait} {check : σ → Program (σ × Check ε β)}
    (h : ∀ s, (check s).Makes allowed) (started : Instant) (n : Nat) (s : σ)
    (lastError : Option String) : (w.loop check started n s lastError).Makes allowed := by
  induction n generalizing s lastError with
  | zero => trivial
  | succ n ih =>
    rw [Wait.loop_succ]
    refine (h s).bind fun ⟨s', seen⟩ => ?_
    cases verdict : seen.verdict? w.policy with
    | some result =>
      rw [Wait.afterCheck_of_some _ _ _ _ _ _ verdict]
      trivial
    | none =>
      rw [Wait.afterCheck_of_none _ _ _ _ _ _ verdict]
      refine makes_clock.bind fun now => .ite trivial ?_
      exact makes_pause.bind fun _ => ih s' _

theorem makes_poll {ε β : Type} [Retryable ε] {w : Wait} {check : Program (Check ε β)}
    (h : check.Makes allowed) : (w.poll check).Makes allowed := by
  refine Program.Makes.bind (makes_clock.bind fun started => ?_) fun _ => trivial
  refine makes_loop (fun _ => ?_) started _ _ _
  exact h.bind fun _ => trivial

theorem makes_statusCheck {target : Status} {action : String} (h : allowed (.getServer id)) :
    (statusCheck region id target action).Makes allowed := by
  refine (makes_request h).bind fun o => ?_
  cases o with
  | error e => trivial
  | ok detail => exact .ite trivial (.ite trivial trivial)

theorem makes_awaitStatus {target : Status} {action : String} {deadline : Instant}
    (h : allowed (.getServer id)) :
    (awaitStatus t region id target action deadline).run.Makes allowed :=
  (makes_poll (makes_statusCheck h)).bind fun _ => trivial

theorem makes_awaitGone {deadline : Instant} (h : allowed (.getServer id)) :
    (awaitGone t region id deadline).run.Makes allowed := by
  have look : (goneCheck region id).Makes allowed := by
    refine (makes_request h).bind fun o => ?_
    cases o with
    | ok detail => trivial
    | error e => exact .ite trivial trivial
  exact (makes_poll look).bind fun _ => trivial

/-! ### The steps -/

theorem makes_rename_of (name : allowed (.renameServer observed.id desired.name)) :
    (rename observed desired).run.Makes allowed := by
  rw [rename]
  split_ifs
  · trivial
  · exact .run_ask name

theorem makes_rename : (rename observed desired).run.Makes Part.servers.Covers :=
  makes_rename_of (.inl rfl)

theorem makes_convergeGroups_of (join : ∀ x, allowed (.joinGroup observed.id x))
    (leave : ∀ x, allowed (.leaveGroup observed.id x)) :
    (convergeGroups observed desired).run.Makes allowed := by
  refine makes_performEdits (fun e => ?_) _ _
  cases e with
  | add x => exact .run_ask (join x)
  | remove x => exact .run_ask (leave x)

theorem makes_convergeGroups :
    (convergeGroups observed desired).run.Makes Part.servers.Covers :=
  makes_convergeGroups_of (fun _ => .inl rfl) fun _ => .inl rfl

theorem makes_convergeVolumes_of (attach : ∀ x, allowed (.attachVolume observed.id x))
    (detach : ∀ x, allowed (.detachVolume observed.id x)) :
    (convergeVolumes observed desired).run.Makes allowed := by
  refine makes_performEdits (fun e => ?_) _ _
  cases e with
  | add x => exact .run_ask (attach x)
  | remove x => exact .run_ask (detach x)

theorem makes_convergeVolumes :
    (convergeVolumes observed desired).run.Makes Part.volumes.Covers :=
  makes_convergeVolumes_of (fun _ => .inl rfl) fun _ => .inl rfl

theorem makes_deadlineAfter {timeout : Span} :
    (liftM (deadlineAfter timeout) : Task Instant).run.Makes allowed :=
  fun _ => trivial

theorem makes_resizeFlavor_of (look : allowed (.getServer observed.id))
    (off : allowed (.powerOff observed.id))
    (resize : allowed (.resizeServer observed.id desired.flavorId))
    (on : allowed (.powerOn observed.id)) :
    (resizeFlavor t observed desired).run.Makes allowed := by
  rw [resizeFlavor]
  split_ifs
  · trivial
  · refine makes_deadlineAfter.run_bind fun deadline => ?_
    refine Program.Makes.run_bind (.run_ask off) fun _ => ?_
    refine Program.Makes.run_bind (makes_awaitStatus look) fun _ => ?_
    refine Program.Makes.run_bind (.run_ask resize) fun _ => ?_
    refine Program.Makes.run_bind (.run_ask on) fun _ => ?_
    exact (makes_awaitStatus look).run_bind fun _ => trivial

theorem makes_resizeFlavor : (resizeFlavor t observed desired).run.Makes Part.servers.Covers :=
  makes_resizeFlavor_of (.inl rfl) (.inl rfl) (.inl rfl) (.inl rfl)

theorem makes_growRootDisk_of {status : Status} (look : allowed (.getServer observed.id))
    (off : allowed (.powerOff observed.id))
    (grow : allowed (.resizeRootVolume observed.id desired.diskSize)) :
    (growRootDisk t observed status desired).run.Makes allowed := by
  rw [growRootDisk]
  split
  · trivial
  · cases rootDiskRefusal? observed desired with
    | some refusal => trivial
    | none =>
      have rest (deadline : Instant) : (do
          awaitStatus t observed.region observed.id .shutoff "power off" deadline
          ask observed.region (.resizeRootVolume observed.id desired.diskSize) "resize root volume"
          awaitStatus t observed.region observed.id .active "root volume resize" deadline
          return .active : Task Status).run.Makes allowed := by
        refine Program.Makes.run_bind (makes_awaitStatus look) fun _ => ?_
        refine Program.Makes.run_bind (.run_ask grow) fun _ => ?_
        exact (makes_awaitStatus look).run_bind fun _ => trivial
      refine makes_deadlineAfter.run_bind fun deadline => ?_
      by_cases active : status = .active
      · simp only [active, if_true]
        exact Program.Makes.run_bind (.run_ask off) fun _ => rest deadline
      · simp only [active, if_false]
        exact rest deadline

theorem makes_growRootDisk {status : Status} :
    (growRootDisk t observed status desired).run.Makes Part.servers.Covers :=
  makes_growRootDisk_of (.inl rfl) (.inl rfl) (.inl rfl)

theorem makes_detachFrom {a : NetworkAttachment} :
    (detachFrom region id a).run.Makes Part.networks.Covers := by
  rw [detachFrom]
  split_ifs
  · exact .run_ask (.inl rfl)
  · trivial

theorem makes_attachTo {listing : List Network} {r : NetworkRequest} :
    (attachTo region id listing r).run.Makes Part.networks.Covers := by
  refine Program.Makes.run_bind ?_ fun subnet => ?_
  · trivial
  · exact Program.Makes.run_bind (.run_ask (.inl rfl)) fun _ => trivial

theorem makes_detachUnwanted (kept : IdMap NetworkAttachment) (as : List NetworkAttachment) :
    (detachUnwanted region id desired kept as).run.Makes Part.networks.Covers := by
  induction as generalizing kept with
  | nil => trivial
  | cons a as ih =>
    rw [detachUnwanted]
    split_ifs
    · exact ih _
    · exact makes_detachFrom.run_bind fun _ => ih _

theorem makes_meetRequest {listing : List Network} {kept : IdMap NetworkAttachment}
    {r : NetworkRequest} :
    (meetRequest region id listing kept r).run.Makes Part.networks.Covers := by
  rw [meetRequest]
  split
  · exact makes_attachTo
  · split_ifs
    · trivial
    · exact makes_detachFrom.run_bind fun _ => makes_attachTo

theorem makes_meetRequests {listing : List Network} (kept : IdMap NetworkAttachment)
    (met : List NetworkAttachment) (rs : List NetworkRequest) :
    (meetRequests region id listing kept met rs).run.Makes Part.networks.Covers := by
  induction rs generalizing kept met with
  | nil => trivial
  | cons r rs ih =>
    rw [meetRequests]
    split_ifs
    · exact ih _ _
    · exact makes_meetRequest.run_bind fun _ => ih _ _

theorem makes_convergeNetworks :
    (convergeNetworks observed desired).run.Makes Part.networks.Covers := by
  refine (makes_detachUnwanted _ _).run_bind fun kept => ?_
  split_ifs
  · exact Program.Makes.run_bind (x := pure []) trivial fun _ => makes_meetRequests _ _ _
  · exact Program.Makes.run_bind (.run_ask (.inr rfl)) fun _ => makes_meetRequests _ _ _

theorem makes_unbindFloatingIp_of {previous : FloatingIpBinding}
    (detach : ∀ x, allowed (.detachFloatingIp x)) :
    (unbindFloatingIp observed previous).run.Makes allowed := by
  rw [unbindFloatingIp]
  split
  · trivial
  · refine (makes_request (detach _)).bind fun o => ?_
    cases o with
    | ok _ => trivial
    | error e => exact .ite trivial trivial

theorem makes_unbindFloatingIp {previous : FloatingIpBinding} :
    (unbindFloatingIp observed previous).run.Makes Part.floatingIps.Covers :=
  makes_unbindFloatingIp_of fun _ => .inl rfl

theorem makes_bindNextFloatingIp_of {networks : List NetworkAttachment} {next : FloatingIpBinding}
    (look : allowed .listPublicIps) (attach : ∀ x r, allowed (.attachFloatingIp x r)) :
    (bindNextFloatingIp observed networks next).run.Makes allowed := by
  rw [bindNextFloatingIp]
  split
  · trivial
  · refine Program.Makes.run_bind (Program.Makes.run_bind (.run_ask look) fun _ => trivial)
      fun held => ?_
    split_ifs
    · trivial
    · exact .run_ask (attach _ _)

theorem makes_convergeFloatingIp_of {networks : List NetworkAttachment}
    (look : allowed .listPublicIps) (attach : ∀ x r, allowed (.attachFloatingIp x r))
    (detach : ∀ x, allowed (.detachFloatingIp x)) :
    (convergeFloatingIp observed networks desired).run.Makes allowed := by
  rw [convergeFloatingIp]
  split_ifs
  · trivial
  · cases observed.floatingIp <;> cases desired.floatingIp
    case neg.none.none => trivial
    case neg.none.some =>
      exact (makes_bindNextFloatingIp_of look attach).run_bind fun _ => trivial
    case neg.some.none => exact (makes_unbindFloatingIp_of detach).run_bind fun _ => trivial
    case neg.some.some =>
      exact (makes_unbindFloatingIp_of detach).run_bind fun _ =>
        (makes_bindNextFloatingIp_of look attach).run_bind fun _ => trivial

theorem makes_convergeFloatingIp {networks : List NetworkAttachment} :
    (convergeFloatingIp observed networks desired).run.Makes Part.floatingIps.Covers :=
  makes_convergeFloatingIp_of (.inr rfl) (fun _ _ => .inl rfl) fun _ => .inl rfl

theorem makes_revertSnapshot_of (revert : ∀ x, allowed (.revertSnapshot observed.id x)) :
    (revertSnapshot observed desired).run.Makes allowed := by
  rw [revertSnapshot]
  split_ifs
  · trivial
  · split
    · trivial
    · exact .run_ask (revert _)

theorem makes_revertSnapshot : (revertSnapshot observed desired).run.Makes Part.nothing.Covers :=
  makes_revertSnapshot_of fun _ => .inr rfl

/-! ### The whole update -/

theorem Part.Covers.part_ne {part : Part} {call : Call} (h : part.Covers call)
    (hpart : part ≠ .serversAndNetworks) : call.part ≠ .serversAndNetworks := by
  rcases h with h | h
  · rwa [h]
  · rw [h]
    exact Part.noConfusion

/-- **An update makes no server.** -/
theorem makes_updateInstance :
    (updateInstance t observed desired).run.Makes fun call => call.part ≠ .serversAndNetworks := by
  have step {α : Type} {task : Task α} {part : Part} (h : task.run.Makes part.Covers)
      (hpart : part ≠ .serversAndNetworks) :
      task.run.Makes fun call => call.part ≠ .serversAndNetworks :=
    h.mono fun _ hcall => hcall.part_ne hpart
  rw [updateInstance]
  split
  · refine (step makes_rename (by decide)).run_bind fun _ => ?_
    refine (step makes_convergeGroups (by decide)).run_bind fun _ => ?_
    refine (step makes_resizeFlavor (by decide)).run_bind fun _ => ?_
    refine (step makes_convergeVolumes (by decide)).run_bind fun _ => ?_
    refine (step makes_convergeNetworks (by decide)).run_bind fun _ => ?_
    refine (step makes_growRootDisk (by decide)).run_bind fun _ => ?_
    refine (step makes_convergeFloatingIp (by decide)).run_bind fun _ => ?_
    exact (step makes_revertSnapshot (by decide)).run_bind fun _ => trivial
  · trivial

end Reconciler
