import Reconciler.Lifecycle.Creation
import Reconciler.Proofs.Cloud.OnRecord
import Reconciler.Proofs.Update.Outcome

/-!
# What a reading finds bound

A floating address is bound to a port and read back as bound to a network: the cloud keeps the name
of the network under the address, and a reading looks the name up. As long as no two networks have
one name, that is the network of the port.

## What is proved

* `boundFor_congr`: what is found bound is a matter of the bindings and the layout of the networks.
* `leads_bindFloatingIp`: what binding an address does.
* `Cloud.boundFor_withBound`: an address that was bound is found on the network of its port.
-/

namespace Reconciler

/-! ### The layout of the networks -/

theorem networkNamed?_congr {networks networks' : List Network}
    (h : networks'.map Network.layout = networks.map Network.layout) (name : String) :
    (networkNamed? networks' name).map (·.id) = (networkNamed? networks name).map (·.id) := by
  have by_layout (ns : List Network) : (networkNamed? ns name).map (·.id) =
      ((ns.map Network.layout).find? (·.2.1 = name)).map (·.1) := by
    rw [List.find?_map, Option.map_map]
    rfl
  rw [by_layout, by_layout, h]

/-- Where an address is bound is a matter of the layout of the networks. -/
theorem FloatingIp.binding?_congr {networks networks' : List Network}
    (h : networks'.map Network.layout = networks.map Network.layout) (b : FloatingIp) :
    b.binding? networks' = b.binding? networks := by
  rw [binding?, binding?]
  cases b.serverAddresses.entries.find? fun e => e.2.any (·.addr = b.address) with
  | none => rfl
  | some e =>
    have same := congrArg (Option.map fun k => FloatingIpBinding.mk b.id k)
      (networkNamed?_congr h e.1)
    rwa [Option.map_map, Option.map_map] at same

theorem boundFor_congr {c d : Cloud} {id : InstanceId} (h : c.SameSite d)
    (hf : d.floatingIps = c.floatingIps) : d.boundFor id = c.boundFor id := by
  rw [Cloud.boundFor, Cloud.boundFor, hf]
  simp only [FloatingIp.binding?_congr h.layout]

/-! ### Binding an address -/

/-- What is kept of a floating address that is bound to a port of a network with a name. -/
def boundRecord (serial : Nat) (floatingIpId name : String) : FloatingIp where
  id := floatingIpId
  address := "203.0.113." ++ toString serial
  serverAddresses :=
    .ofList [(name, [{ addr := "203.0.113." ++ toString serial, isPublic := true }])]

/-- The cloud with a floating address bound to a port of the network `n`. -/
def Cloud.withBound (c : Cloud) (floatingIpId serverId portId : String) (n : Network) : Cloud :=
  { c with
    counter := c.counter + 1
    floatingIps := c.floatingIps ++
      [{ serverId, portId, record := boundRecord (c.counter + 1) floatingIpId n.name }] }

section

variable {σ : Type} {H : Host σ} {c : Cloud} {id portId floatingIpId : String} {n : Network}

theorem Cloud.attachFloatingIp_eq {r : FloatingIpRequest}
    (h : c.networkOfPort? r.portId = some n) :
    c.attachFloatingIp floatingIpId r = (.ok (), c.withBound floatingIpId r.serverId r.portId n) := by
  rw [attachFloatingIp, h]
  rfl

theorem Cloud.exists_networkOfPort {r : FloatingIpRequest}
    (h : (c.attachFloatingIp floatingIpId r).1 = .ok ()) :
    ∃ n, c.networkOfPort? r.portId = some n := by
  rw [attachFloatingIp] at h
  split at h
  · simp at h
  · rename_i n hn
    exact ⟨n, hn⟩

/-- **Binding a floating address** succeeds only where the port is, and changes nothing but what is
bound. -/
theorem leads_bindFloatingIp {region : Region} (binding : FloatingIpBinding)
    (target : NetworkAttachment) :
    H.Leads c (bindFloatingIp region id binding target)
      (fun _ d => ∃ n, c.networkOfPort? target.portId = some n ∧
        d = c.withBound binding.floatingIpId id target.portId n)
      fun _ => True := by
  refine Host.leads_ask (fun a ha => ?_) (fun _ _ => trivial) fun _ => trivial
  obtain ⟨n, hn⟩ := Cloud.exists_networkOfPort ha
  refine ⟨n, hn, ?_⟩
  rw [Cloud.perform, Cloud.attachFloatingIp_eq hn]

theorem leads_publicIpState {region : Region} :
    H.Leads c (publicIpState region id) (fun _ d => d = c) fun _ => True := by
  have listed : c.perform .listPublicIps = (.ok c.publicIps, c) := rfl
  exact Host.leads_ask_ok_bind listed (Host.leads_pure rfl) fun _ => trivial

/-! ### What is found bound -/

/-- What is kept of a bound address tells its network, if that is listed with a name of its own. -/
theorem binding?_boundRecord {networks : List Network} {serial : Nat}
    (names : (networks.map (·.name)).Nodup) (hn : n ∈ networks) :
    (boundRecord serial floatingIpId n.name).binding? networks = some ⟨floatingIpId, n.id⟩ := by
  have named : networkNamed? networks n.name = some n := find?_of_nodup names hn
  have entries : (boundRecord serial floatingIpId n.name).serverAddresses.entries =
      [(n.name, [{ addr := "203.0.113." ++ toString serial, isPublic := true }])] := rfl
  rw [FloatingIp.binding?, entries]
  simp [boundRecord, named]

/-- **An address that was bound is found** on the network of its port, if nothing else was bound for
the instance. -/
theorem Cloud.boundFor_withBound (names : (c.networks.map (·.name)).Nodup)
    (hn : c.networkOfPort? portId = some n) (none : ∀ b ∈ c.floatingIps, b.serverId ≠ id) :
    (c.withBound floatingIpId id portId n).boundFor id = some ⟨floatingIpId, n.id⟩ := by
  have others : c.floatingIps.find? (·.serverId = id) = Option.none :=
    List.find?_eq_none.2 fun b hb => by simpa using none b hb
  have listed : n ∈ c.networks := List.mem_of_find?_eq_some hn
  rw [boundFor, withBound, List.find?_append, others, Option.none_or]
  simp only [List.find?_singleton, decide_true, if_true, Option.bind_some]
  exact binding?_boundRecord names listed

theorem Cloud.boundFor_eq_none (none : ∀ b ∈ c.floatingIps, b.serverId ≠ id) :
    c.boundFor id = Option.none := by
  have others : c.floatingIps.find? (·.serverId = id) = Option.none :=
    List.find?_eq_none.2 fun b hb => by simpa using none b hb
  rw [boundFor, others]
  rfl

end

end Reconciler
