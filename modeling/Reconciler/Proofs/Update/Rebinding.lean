import Reconciler.Proofs.Cloud.Shown
import Reconciler.Proofs.Reading.Bindings

/-!
# The floating address that is found bound after an update

An update that changes the floating address unbinds the tracked one first. Where nothing is left
bound for the instance then, the desired address is found bound afterwards, on the network that was
asked for.

## What is proved

* `leads_bindNextFloatingIp_bound`: what binding the desired address does.
* `leads_convergeFloatingIp_bound`: the desired address is the one that is found bound.
-/

namespace Reconciler

variable {σ : Type} {H : Host σ} {c : Cloud} {s : InstanceState} {desired : InstanceSpec}
  {networks : List NetworkAttachment}

/-- **Binding the desired floating address** is binding it to the port of the attachment to its
network. -/
theorem leads_bindNextFloatingIp_bound (next : FloatingIpBinding) :
    H.Leads c (bindNextFloatingIp s networks next)
      (fun _ d => ∃ target n, attachedTo? networks next.networkId = some target ∧
        c.networkOfPort? target.portId = some n ∧
        d = c.withBound next.floatingIpId s.id target.portId n)
      fun _ => True := by
  rw [bindNextFloatingIp]
  cases attachedTo? networks next.networkId with
  | none => exact Host.leads_throw trivial
  | some target =>
    refine leads_publicIpState.bind ?_
    rintro held _ rfl
    split_ifs
    · exact Host.leads_throw trivial
    · refine (leads_bindFloatingIp next target).mono (fun _ d hd => ?_) fun _ hb => hb
      obtain ⟨n, hn, hd⟩ := hd
      exact ⟨target, n, rfl, hn, hd⟩

/-- **The floating address that is found bound** is the desired one, if it was the tracked one before
and unbinding that leaves none. -/
theorem leads_convergeFloatingIp_bound (sure : ¬ H.fails) (h : c.InOrder)
    (names : (c.networks.map (·.name)).Nodup) (shown : ∀ a ∈ networks, c.Shows s.id a)
    (bound : c.boundFor s.id = s.floatingIp)
    (left : ∀ b ∈ leftBound s c.floatingIps, b.serverId ≠ s.id) :
    H.Leads c (convergeFloatingIp s networks desired)
      (fun _ d => d.boundFor s.id = desired.floatingIp) fun _ => True := by
  by_cases same : s.floatingIp = desired.floatingIp
  · rw [convergeFloatingIp, if_pos same]
    exact Host.leads_pure (bound.trans same)
  · have free {d : Cloud} (unbound : Unbound H c s d) : ∀ b ∈ d.floatingIps, b.serverId ≠ s.id := by
      rw [unbound.left.resolve_right sure]
      exact left
    refine leads_convergeFloatingIp_of same (fun _ _ => trivial) (fun hnone d unbound => ?_)
      fun next hnext d unbound => ?_
    · rw [hnone]
      exact Cloud.boundFor_eq_none (free unbound)
    · have free := free unbound
      obtain ⟨floatingIps, counter, hle, rfl⟩ := unbound.changes
      rw [hnext]
      refine (leads_bindNextFloatingIp_bound next).mono ?_ fun _ hb => hb
      rintro _ _ ⟨target, n, htarget, hn, rfl⟩
      obtain ⟨ha, hk, -⟩ := attachedTo?_eq_some htarget
      obtain ⟨m, hm, hid⟩ := h.networkOfPort? (shown target ha)
      obtain rfl : m = n := Option.some.inj (hm.symm.trans hn)
      rw [Cloud.boundFor_withBound (c := { c with floatingIps, counter }) names hn free, hid, hk]

end Reconciler
