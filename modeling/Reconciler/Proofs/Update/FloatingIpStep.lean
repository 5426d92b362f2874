import Reconciler.Proofs.FloatingIp
import Reconciler.Proofs.Update.NetworkSteps

/-!
# The step of the floating address

When the floating address of an instance can be brought to the desired one. Clearing the old port
never fails by itself; binding the new address needs a port on its network and an instance without a
public address.

## What is proved

* `leads_convergeFloatingIp_iff`: the step succeeds exactly when the desired address can be bound.
-/

namespace Reconciler

/-- The instance is listed as holding a public address. -/
def Cloud.HoldsPublicIp (c : Cloud) (id : InstanceId) : Prop :=
  (c.publicIps.find? (·.serverId = id)).map (·.hasPublicIp) = some true

/-- The desired floating address can be bound, if it is to change: its network is requested, and the
instance holds no public address. -/
def CanBind (c : Cloud) (s : InstanceState) (desired : InstanceSpec) : Prop :=
  s.floatingIp ≠ desired.floatingIp → ∀ g, desired.floatingIp = some g →
    (desired.network? g.networkId).isSome ∧ ¬ c.HoldsPublicIp s.id

variable {σ : Type} {H : Host σ} {c : Cloud} {s : InstanceState} {desired : InstanceSpec}
  {networks : List NetworkAttachment}

/-- Attachments with the ports of an instance count as attached. -/
theorem Cloud.Ports.attachedTo? {id : InstanceId} (h : c.Ports id (portOn networks)) (k : String) :
    attachedTo? networks k = networks.find? (·.networkId = k) := by
  rw [Reconciler.attachedTo?]
  cases hfind : networks.find? (·.networkId = k) with
  | none => rfl
  | some a =>
    have hport : portOn networks k = some a.portId := by rw [portOn, hfind, Option.map_some]
    exact Option.filter_some_pos (decide_eq_true (h.named k _ hport).1)

theorem Cloud.Ports.networkOfPort? {id : InstanceId} {port? : String → Option String} {k p : String}
    (h : c.Ports id port?) (hk : port? k = some p) : ∃ n, c.networkOfPort? p = some n := by
  obtain ⟨n, hn, rfl⟩ := List.mem_map.1 (h.listed k p hk)
  have hcarries := h.carries n hn
  rw [hk] at hcarries
  obtain ⟨s, hs, e, he, -, r, hr, hp⟩ := hcarries.exists_entry
  refine Option.isSome_iff_exists.1 (List.find?_isSome.2 ⟨n, hn, ?_⟩)
  refine List.any_eq_true.2 ⟨s, hs, List.any_eq_true.2 ⟨e, he, ?_⟩⟩
  exact List.any_eq_true.2 ⟨r, hr, decide_eq_true hp⟩

/-- **Binding the desired floating address** succeeds exactly when it can be bound, unless the host
fails. -/
theorem leads_bindNextFloatingIp_iff (h : c.Ports s.id (portOn networks))
    (hids : ∀ k, k ∈ networks.map (·.networkId) ↔ (desired.network? k).isSome)
    (g : FloatingIpBinding) :
    H.Leads c (bindNextFloatingIp s networks g)
      (fun _ _ => (desired.network? g.networkId).isSome ∧ ¬ c.HoldsPublicIp s.id)
      fun _ => ¬ ((desired.network? g.networkId).isSome ∧ ¬ c.HoldsPublicIp s.id) ∨ H.fails := by
  rw [bindNextFloatingIp, h.attachedTo?]
  cases hfind : networks.find? (·.networkId = g.networkId) with
  | none =>
    refine Host.leads_throw (.inl fun hcan => ?_)
    obtain ⟨a, ha⟩ := find?_eq_some_of_mem ((hids _).2 hcan.1)
    rw [hfind] at ha
    exact absurd ha (by simp)
  | some target =>
    have requested : (desired.network? g.networkId).isSome := by
      refine (hids _).1 (List.mem_map.2 ⟨target, List.mem_of_find?_eq_some hfind, ?_⟩)
      exact key_of_find? hfind
    have look : H.Leads c (publicIpState s.region s.id)
        (fun held d => d = c ∧ (held = some true ↔ c.HoldsPublicIp s.id)) fun _ => H.fails := by
      have listed : c.perform .listPublicIps = (.ok c.publicIps, c) := rfl
      refine Host.leads_ask_ok_bind listed ?_ fun hf => hf
      exact Host.leads_pure ⟨rfl, Iff.rfl⟩
    refine look.followedBy (fun _ hf => .inr hf) ?_
    rintro held d ⟨rfl, hheld⟩
    by_cases hpublic : held = some true
    · simp only [hpublic, if_true]
      have refused : ¬ ((desired.network? g.networkId).isSome ∧ ¬ d.HoldsPublicIp s.id) :=
        fun hcan => hcan.2 (hheld.1 hpublic)
      have throws : H.Leads d (throw (publicIpConflict s.id) : Task Unit) (fun _ _ => False)
          fun _ => ¬ ((desired.network? g.networkId).isSome ∧ ¬ d.HoldsPublicIp s.id) ∨ H.fails :=
        Host.leads_throw (.inl refused)
      exact throws.bind fun _ _ hd => hd.elim
    · simp only [hpublic, if_false]
      have port : portOn networks g.networkId = some target.portId := by
        rw [portOn, hfind, Option.map_some]
      obtain ⟨n, hn⟩ := h.networkOfPort? port
      have bound : ∃ e, d.perform (.attachFloatingIp g.floatingIpId
          { serverId := s.id, subnetId := target.subnetId, portId := target.portId }) =
            (.ok (), e) := by
        rw [Cloud.perform, Cloud.attachFloatingIp, hn]
        exact ⟨_, rfl⟩
      obtain ⟨e, he⟩ := bound
      exact Host.leads_ask_ok he ⟨requested, mt hheld.2 hpublic⟩ .inr

/-- **The floating address** becomes the desired one exactly when that can be bound, unless the host
fails. -/
theorem leads_convergeFloatingIp_iff (h : c.Ports s.id (portOn networks))
    (hids : ∀ k, k ∈ networks.map (·.networkId) ↔ (desired.network? k).isSome) :
    H.Leads c (convergeFloatingIp s networks desired) (fun _ _ => CanBind c s desired)
      fun _ => ¬ CanBind c s desired ∨ H.fails := by
  by_cases same : s.floatingIp = desired.floatingIp
  · rw [convergeFloatingIp, if_pos same]
    exact Host.leads_pure fun h => absurd same h
  · refine leads_convergeFloatingIp_of same (fun _ hf => .inr hf) (fun hnone _ _ _ g hg => ?_)
      fun g hg d unbound => ?_
    · exact absurd (hnone.symm.trans hg) (by simp)
    · obtain ⟨floatingIps, counter, hle, rfl⟩ := unbound.changes
      have iff : CanBind c s desired ↔
          (desired.network? g.networkId).isSome ∧ ¬ c.HoldsPublicIp s.id := by
        rw [CanBind, hg]
        simp [hg ▸ same]
      rw [iff]
      have ports : Cloud.Ports { c with floatingIps, counter } s.id (portOn networks) :=
        h.of_networks rfl hle
      exact leads_bindNextFloatingIp_iff ports hids g

end Reconciler
