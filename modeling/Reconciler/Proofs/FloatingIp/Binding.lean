import Reconciler.Lifecycle.Creation
import Reconciler.Lifecycle.Update.FloatingIp
import Reconciler.Proofs.Accounts

/-!
# Binding a floating address

A floating address is bound to the port of the network it is wanted on, and only to an instance
without a public address. A creation and an update look at the same things before they bind it; a
creation wants the instance to be listed, an update does not.

## What is proved

* `gives_bindInitialFloatingIp`, `gives_bindNextFloatingIp`: the account of either binding.
-/

namespace Reconciler

/-- Whether a listing says that an instance holds a public address; nothing when the instance is not
listed. Only the first entry of the instance counts. -/
def publicIpOf (listing : List PublicIpRecord) (id : InstanceId) : Option Bool :=
  (listing.find? (·.serverId = id)).map (·.hasPublicIp)

/-- The call that binds a floating address to the port of an attachment. -/
def FloatingIpBinding.callFor (b : FloatingIpBinding) (id : InstanceId)
    (target : NetworkAttachment) : Call :=
  .attachFloatingIp b.floatingIpId
    { serverId := id, subnetId := target.subnetId, portId := target.portId }

variable {mustBeListed : Bool} {s : InstanceState} {b : FloatingIpBinding}

/-- **The account of binding a floating address** to an instance with its attachments, which may
have to be listed for it. -/
inductive BindingRun (mustBeListed : Bool) (s : InstanceState) (b : FloatingIpBinding) :
    Option (Except Failure Unit) → List Exchange → Prop where
  /-- The instance has no port on the network. -/
  | missing (unattached : attachedTo? s.networks b.networkId = none) :
    BindingRun mustBeListed s b (some (.error (.missingAttachment b.networkId s.id))) []
  /-- The public addresses cannot be listed. -/
  | unanswered {target : NetworkAttachment} {start : Instant} {e : RemoteError}
    (attached : attachedTo? s.networks b.networkId = some target) :
    BindingRun mustBeListed s b (some (.error (.remote "fetch server ip info" e)))
      [⟨start, s.region, .listPublicIps, .error e⟩]
  /-- The instance is not listed but has to be. -/
  | unlisted {target : NetworkAttachment} {start : Instant} {listing : List PublicIpRecord}
    (attached : attachedTo? s.networks b.networkId = some target) (must : mustBeListed = true)
    (nowhere : publicIpOf listing s.id = none) :
    BindingRun mustBeListed s b (some (.error (.missingPublicIpRecord s.id)))
      [⟨start, s.region, .listPublicIps, .ok listing⟩]
  /-- The instance holds a public address. -/
  | held {target : NetworkAttachment} {start : Instant} {listing : List PublicIpRecord}
    (attached : attachedTo? s.networks b.networkId = some target)
    (holds : publicIpOf listing s.id = some true) :
    BindingRun mustBeListed s b (some (.error (publicIpConflict s.id)))
      [⟨start, s.region, .listPublicIps, .ok listing⟩]
  /-- Nothing speaks against it. -/
  | tried {target : NetworkAttachment} {start start' : Instant} {listing : List PublicIpRecord}
    {o : Outcome (b.callFor s.id target)}
    (attached : attachedTo? s.networks b.networkId = some target)
    (free : publicIpOf listing s.id ≠ some true)
    (listed : mustBeListed = true → publicIpOf listing s.id = some false) :
    BindingRun mustBeListed s b (some (o.mapError (.remote "attach floating ip")))
      [⟨start, s.region, .listPublicIps, .ok listing⟩, ⟨start', s.region, b.callFor s.id target, o⟩]

/-- The call looks at the public addresses or binds a floating one. -/
def Call.SeesToAddress : Call → Prop
  | .listPublicIps | .attachFloatingIp _ _ => True
  | _ => False

/-- A binding only sees to the address. -/
theorem BindingRun.calls {r : Option (Except Failure Unit)} {es : List Exchange}
    (h : BindingRun mustBeListed s b r es) : ∀ e ∈ es, e.call.SeesToAddress := by
  intro e he
  cases h with
  | missing => exact absurd he List.not_mem_nil
  | unanswered | unlisted | held =>
    obtain rfl := List.mem_singleton.1 he
    trivial
  | tried =>
    simp only [List.mem_cons, List.not_mem_nil, or_false] at he
    rcases he with rfl | rfl <;> trivial

theorem gives_bindFloatingIp {target : NetworkAttachment} {start : Instant}
    {listing : List PublicIpRecord} (attached : attachedTo? s.networks b.networkId = some target)
    (free : publicIpOf listing s.id ≠ some true)
    (listed : mustBeListed = true → publicIpOf listing s.id = some false) :
    Gives (bindFloatingIp s.region s.id b target) fun r es => BindingRun mustBeListed s b r
      (⟨start, s.region, .listPublicIps, .ok listing⟩ :: es) := by
  refine gives_ask (fun start' u => ?_) fun start' e => ?_
  · exact .tried (o := .ok u) attached free listed
  · exact .tried (o := .error e) attached free listed

theorem gives_publicIpState_bind {f : Option Bool → Task Unit} {target : NetworkAttachment}
    (attached : attachedTo? s.networks b.networkId = some target)
    (hf : ∀ start listing, Gives (f (publicIpOf listing s.id)) fun r es =>
      BindingRun mustBeListed s b r (⟨start, s.region, .listPublicIps, .ok listing⟩ :: es)) :
    Gives (publicIpState s.region s.id >>= f) (BindingRun mustBeListed s b) := by
  rw [publicIpState, bind_assoc]
  have look : Gives (ask s.region .listPublicIps "fetch server ip info") fun r es =>
      (∀ listing, r = some (.ok listing) →
        ∃ start, es = [⟨start, s.region, .listPublicIps, .ok listing⟩]) ∧
      (∀ e, r = some (.error e) → BindingRun mustBeListed s b (some (.error e)) es) ∧
      r ≠ none := by
    refine gives_ask (fun start listing => ⟨fun l hl => ?_, fun _ h => (nomatch h), by simp⟩)
      fun start e => ⟨fun _ h => (nomatch h), fun e' he => ?_, by simp⟩
    · obtain rfl := Except.ok.inj (Option.some.inj hl)
      exact ⟨start, rfl⟩
    · obtain rfl := Except.error.inj (Option.some.inj he)
      exact .unanswered attached
  refine look.bind ?_ (fun e es h => h.2.1 e rfl) fun es h => absurd rfl h.2.2
  rintro listing _ ⟨hlisted, -⟩
  obtain ⟨start, rfl⟩ := hlisted listing rfl
  exact hf start listing

/-- **Binding the floating address of a new instance.** -/
theorem gives_bindInitialFloatingIp :
    Gives (bindInitialFloatingIp s b) (BindingRun true s b) := by
  rw [bindInitialFloatingIp]
  cases attached : attachedTo? s.networks b.networkId with
  | none => exact fun σ p w => .missing attached
  | some target =>
    refine gives_publicIpState_bind attached fun start listing => ?_
    cases held : publicIpOf listing s.id with
    | none => exact fun σ p w => .unlisted attached rfl held
    | some holds =>
      cases holds with
      | true => exact fun σ p w => .held attached held
      | false => exact gives_bindFloatingIp attached (by simp [held]) fun _ => held

/-- **Binding the next floating address** of an existing instance: `built` is what has become of
it. -/
theorem gives_bindNextFloatingIp {built : InstanceState} (hregion : s.region = built.region)
    (hid : s.id = built.id) :
    Gives (bindNextFloatingIp s built.networks b) (BindingRun false built b) := by
  rw [bindNextFloatingIp, hregion, hid]
  cases attached : attachedTo? built.networks b.networkId with
  | none => exact fun σ p w => .missing attached
  | some target =>
    refine gives_publicIpState_bind attached fun start listing => ?_
    by_cases held : publicIpOf listing built.id = some true
    · simp only [held, if_true]
      exact fun σ p w => .held attached held
    · simp only [held, if_false]
      exact gives_bindFloatingIp attached held fun h => nomatch h

end Reconciler
