import Reconciler.Proofs.Creation.Steps
import Reconciler.Proofs.Reading

/-!
# What a creation makes of the cloud

A creation that succeeds ends with a new server of the desired configuration, with the ports that
were made in the order of the requests, the desired volumes and the desired floating address, as
long as nothing in the cloud mentions the identifier of the new server before. Failures may be
queued; a creation gets past them only where it waits.

## What is proved

* `leads_createInstance`: what a creation leads to.
* `Succeeds.createInstance_created`: the same for a run in the cloud in memory.
-/

namespace Reconciler

/-! ### The next server -/

namespace Cloud

/-- The identifier of the server that the cloud makes next. -/
def nextServer (c : Cloud) : InstanceId := "srv-" ++ toString (c.counter + 1)

/-- The task that makes it. -/
def nextTask (c : Cloud) : TaskId := "task-" ++ toString (c.counter + 1)

/-- **Nothing mentions the next server**: no server has its identifier, no port is its, and no
floating address is bound for it. -/
structure AwaitsNext (c : Cloud) : Prop where
  /-- No server has the identifier. -/
  server : ∀ srv ∈ c.servers, srv.detail.id ≠ c.nextServer
  /-- It has no port. -/
  ports : ∀ e ∈ serverEntries c.networks, e.id = c.nextServer → e.ips = []
  /-- Nothing is bound for it. -/
  bindings : ∀ b ∈ c.floatingIps, b.serverId ≠ c.nextServer

/-- The journal and the failures of the cloud mention nothing. -/
theorem AwaitsNext.core {c : Cloud} (h : c.AwaitsNext) : c.core.AwaitsNext :=
  ⟨h.server, h.ports, h.bindings⟩

/-- What is known of the next server besides its status, if it is made for an order. -/
def nextProfile (c : Cloud) (order : CreateServerRequest) : ServerDetail where
  id := c.nextServer
  name := order.name
  flavorId := some order.flavorId
  imageId := some order.imageId
  clusterId := "cluster-1"
  dedicatedServerId := order.dedicatedServerId.getD ""
  securityGroupIds := order.securityGroups

variable {c d : Cloud} {order : CreateServerRequest}

/-- **An order that is answered** has made the ports and the server, and has changed nothing
else. -/
theorem createServer_inv {created : CreatedServer} (h : c.createServer order = (.ok created, d)) :
    created.taskId = c.nextTask ∧ created.password = "initial-password" ∧
      ∃ ports : Cloud, allocatePorts { c with counter := c.counter + 1 } c.nextServer
          order.networkIds = (.ok (), ports) ∧
        d.networks = ports.networks ∧ d.volumes = c.volumes ∧ d.floatingIps = c.floatingIps ∧
        ∃ script, d.servers = c.servers ++
          [{ detail := { c.nextProfile order with status := .active }, taskId := c.nextTask
             script }] := by
  have frame := allocatePorts_changes { c with counter := c.counter + 1 } c.nextServer
    order.networkIds
  rw [createServer] at h
  rcases hp : allocatePorts { c with counter := c.counter + 1 } c.nextServer
    order.networkIds with ⟨e | _, ports⟩
  all_goals
    rw [hp] at frame
    rw [nextServer] at hp
    simp only [hp] at h
  · simp at h
  · obtain ⟨networks, counter, -, hports⟩ := frame
    dsimp only at hports
    subst hports
    obtain ⟨hcreated, rfl⟩ := Prod.mk.inj h
    obtain rfl := Except.ok.inj hcreated
    exact ⟨rfl, rfl, _, rfl, rfl, rfl, rfl, _, rfl⟩

theorem makes_append (tasks : ∀ srv ∈ c.servers, srv.taskId ≠ c.nextTask)
    (server : ∀ srv ∈ c.servers, srv.detail.id ≠ c.nextServer) {script : List Status}
    (hd : d.servers = c.servers ++
      [{ detail := { c.nextProfile order with status := .active }, taskId := c.nextTask
         script }]) : d.Makes c.nextTask (c.nextProfile order) := by
  have no_id : c.servers.find? (·.detail.id = c.nextServer) = none :=
    List.find?_eq_none.2 fun srv hsrv => by simpa using server srv hsrv
  have no_task : c.servers.find? (·.taskId = c.nextTask) = none :=
    List.find?_eq_none.2 fun srv hsrv => by simpa using tasks srv hsrv
  refine ⟨{ detail := { c.nextProfile order with status := .active }, taskId := c.nextTask
            script }, ?_, ?_, rfl⟩
  · show d.servers.find? (·.detail.id = c.nextServer) = _
    rw [hd, List.find?_append, no_id, Option.none_or]
    exact List.find?_cons_of_pos (decide_eq_true rfl)
  · rw [hd, List.find?_append, no_task, Option.none_or]
    exact List.find?_cons_of_pos (decide_eq_true rfl)

end Cloud

/-! ### The whole creation -/

/-- The state of a new instance that has been seen running. -/
def InstanceState.running (c : Cloud) (desired : InstanceSpec) : InstanceState where
  id := c.nextServer
  taskId := some c.nextTask
  status := .active
  clusterId := some "cluster-1"
  password := some "initial-password"
  applied := desired
  securityGroups := desired.securityGroups

/-- The state of a new instance that has been brought to its configuration, with the attachments
`networks`. -/
def InstanceState.created (c : Cloud) (desired : InstanceSpec) (networks : List NetworkAttachment) :
    InstanceState :=
  { InstanceState.running c desired with
    networks := networks
    volumes := .ofList (desired.volumes.members.filter (· ≠ ""))
    floatingIp := desired.floatingIp }

/-- **The instance runs**: the cloud `d` is `c` with the ports and the server of the order. -/
structure Running (c : Cloud) (desired : InstanceSpec) (d : Cloud) : Prop where
  /-- The ports are those made in the order of the requests. -/
  ports : ∃ e : Cloud, Cloud.allocatePorts { c with counter := c.counter + 1 } c.nextServer
    (desired.networks.map (·.networkId)) = (.ok (), e) ∧ d.networks = e.networks
  /-- The server is as it was ordered. -/
  server : ∃ srv, d.server? c.nextServer = some srv ∧
    srv.profile = c.nextProfile (creationOrder desired)
  /-- No volume has been attached. -/
  volumes : d.volumes = c.volumes
  /-- Nothing has been bound. -/
  floatingIps : d.floatingIps = c.floatingIps

/-- The floating address of a new instance is bound as desired: nothing was bound if none is, and
otherwise the last thing was to bind the address to the port of its network. -/
def BoundAsDesired (c : Cloud) (desired : InstanceSpec) (networks : List NetworkAttachment)
    (d : Cloud) : Prop :=
  match desired.floatingIp with
  | none => d.floatingIps = c.floatingIps
  | some b => ∃ (e : Cloud) (target : NetworkAttachment) (n : Network),
      e.floatingIps = c.floatingIps ∧ attachedTo? networks b.networkId = some target ∧
      e.networkOfPort? target.portId = some n ∧
      d = e.withBound b.floatingIpId c.nextServer target.portId n

/-- **The instance has been created**: from the cloud `c`, a creation has ended with the state `s`
and the cloud `d`. -/
structure Created (c : Cloud) (desired : InstanceSpec) (s : InstanceState) (d : Cloud) : Prop where
  /-- The state is that of a new instance. -/
  state : s = .created c desired s.networks
  /-- The ports are those made in the order of the requests. -/
  ports : ∃ e : Cloud, Cloud.allocatePorts { c with counter := c.counter + 1 } c.nextServer
    (desired.networks.map (·.networkId)) = (.ok (), e) ∧ d.networks = e.networks
  /-- The server is as it was ordered. -/
  server : ∃ srv, d.server? c.nextServer = some srv ∧
    srv.profile = c.nextProfile (creationOrder desired)
  /-- The attachments are those to the networks asked for. -/
  networks : s.networks = ((resolveById d.networks desired.requestedNetworks.members
    c.nextServer).takeEach (desired.networks.map (·.networkId))).1
  /-- The volumes are attached. -/
  volumes : ∀ x, x ∈ volumesOf d.volumes c.nextServer ↔
    x ∈ s.volumes ∨ x ∈ volumesOf c.volumes c.nextServer
  /-- The floating address is bound. -/
  floatingIp : BoundAsDesired c desired s.networks d

section

variable {σ : Type} {H : Host σ} {t : Tuning} {c d : Cloud} {desired : InstanceSpec}
  {deadline : Instant}

/-- Once an instance has been seen running, its state is that of a new instance. -/
theorem afterBuild_ordered {created : CreatedServer} {latest : Option ServerDetail}
    {detail : ServerDetail} (htask : created.taskId = c.nextTask)
    (hpassword : created.password = "initial-password") (hlatest : latest = some detail)
    (hid : detail.id = c.nextServer) (hcluster : detail.clusterId = "cluster-1")
    (hstatus : detail.status = .active) :
    (InstanceState.ordered desired created).afterBuild latest = .running c desired := by
  have named : c.nextServer ≠ "" := by simp [Cloud.nextServer]
  have task : c.nextTask ≠ "" := by simp [Cloud.nextTask]
  rw [hlatest, InstanceState.afterBuild, InstanceState.ordered, InstanceState.running]
  simp [hid, hcluster, hstatus, htask, hpassword, named, task, nonEmpty?]

theorem leads_order (awaits : c.AwaitsNext)
    (tasks : ∀ srv ∈ c.servers, srv.taskId ≠ c.nextTask) :
    H.Leads c (ask desired.region (.createServer (creationOrder desired)) "create instance")
      (fun created d => created.taskId = c.nextTask ∧ created.password = "initial-password" ∧
        Running c desired d ∧ d.Makes c.nextTask (c.nextProfile (creationOrder desired)))
      fun _ => True := by
  refine Host.leads_ask (fun created h => ?_) (fun _ _ => trivial) fun _ => trivial
  obtain ⟨htask, hpassword, ports, hports, hnetworks, hvolumes, hfloating, script, hservers⟩ :=
    Cloud.createServer_inv (Prod.ext h rfl)
  have makes := Cloud.makes_append tasks awaits.server hservers
  obtain ⟨srv, hserver, -, hprofile⟩ := id makes
  exact ⟨htask, hpassword, ⟨⟨ports, hports, hnetworks⟩, ⟨srv, hserver, hprofile⟩, hvolumes,
    hfloating⟩, makes⟩

theorem Running.watched {e : Cloud} {latest : Option ServerDetail} (h : Running c desired d)
    (watched : Watched d c.nextTask (c.nextProfile (creationOrder desired)) latest e) :
    Running c desired e := by
  obtain ⟨srv, hserver, -, hprofile⟩ := watched.makes
  obtain ⟨_, rfl⟩ := watched.changes
  exact ⟨h.ports, ⟨srv, hserver, hprofile⟩, h.volumes, h.floatingIps⟩

/-- **The last steps of a creation**: the attachments are read off, the volumes are attached, and
the floating address is bound. -/
theorem leads_furnish (h : Running c desired d) :
    H.Leads d (do
      let s := InstanceState.running c desired
      let networks ← within s (awaitNetworks t desired s deadline)
      let s := { s with networks }
      let s ← attachVolumes s (desired.volumes.members.filter (· ≠ ""))
      match desired.floatingIp with
      | none => return s
      | some binding =>
        within s (bindInitialFloatingIp s binding)
        return { s with floatingIp := some binding })
      (fun s d => Created c desired s d) fun _ => True := by
  refine (leads_awaitNetworks.within _).bind ?_
  rintro networks d ⟨rfl, hnetworks⟩
  refine (leads_attachVolumes _).bind ?_
  rintro s e ⟨rfl, ⟨volumes, rfl⟩, hattached⟩
  have created {s : InstanceState} {e : Cloud} (hs : s = .created c desired networks)
      (hservers : e.servers = d.servers) (hsite : e.networks = d.networks)
      (hvolumes : e.volumes = volumes) (hbound : BoundAsDesired c desired networks e) :
      Created c desired s e := by
    subst hs
    obtain ⟨ports, hports, hd⟩ := h.ports
    obtain ⟨srv, hserver, hprofile⟩ := h.server
    refine ⟨rfl, ⟨ports, hports, hsite.trans hd⟩, ⟨srv, ?_, hprofile⟩, ?_, fun x => ?_, hbound⟩
    · rw [Cloud.server?, hservers]
      exact hserver
    · rw [hsite]
      exact hnetworks
    · rw [hvolumes, ← h.volumes]
      exact (hattached x).trans (or_congr_left IdSet.mem_ofList.symm)
  cases hb : desired.floatingIp with
  | none =>
    refine Host.leads_pure (created ?_ rfl rfl rfl ?_)
    · rw [InstanceState.created, hb]
      rfl
    · rw [BoundAsDesired, hb]
      exact h.floatingIps
  | some b =>
    refine ((leads_bindInitialFloatingIp b).within _).bind ?_
    rintro _ e ⟨target, n, htarget, hn, rfl⟩
    refine Host.leads_pure (created ?_ rfl rfl rfl ?_)
    · rw [InstanceState.created, hb]
      rfl
    · rw [BoundAsDesired, hb]
      exact ⟨{ d with volumes }, target, n, h.floatingIps, htarget, hn, rfl⟩

/-- **What a creation leads to**, if nothing mentions the next server and no server has its task. -/
theorem leads_createInstance (awaits : c.AwaitsNext)
    (tasks : ∀ srv ∈ c.servers, srv.taskId ≠ c.nextTask) :
    H.Leads c (createInstance t desired) (fun s d => Created c desired s d) fun _ => True := by
  rw [createInstance]
  cases desired.revertToSnapshotId with
  | some snapshotId => exact Host.leads_throw trivial
  | none =>
    refine (leads_order awaits tasks).bind ?_
    rintro created d₀ ⟨htask, hpassword, running, makes⟩
    have task : (InstanceState.ordered desired created).taskId = some c.nextTask := by
      have named : c.nextTask ≠ "" := by simp [Cloud.nextTask]
      rw [InstanceState.ordered, htask, nonEmpty?, if_neg named]
    rw [convergeCreated]
    refine Host.leads_deadlineAfter_bind fun deadline => ?_
    refine (leads_awaitBuilt task makes).bind ?_
    rintro ⟨latest, built⟩ d hbuilt
    dsimp only at hbuilt ⊢
    cases built with
    | error e =>
      have breaks : H.Leads d (within ((InstanceState.ordered desired created).afterBuild latest)
          (ExceptT.mk (pure (Except.error e)))) (fun (_ : Unit) _ => False) fun _ => True :=
        Host.Leads.within (Host.leads_throw trivial) _
      exact breaks.bind fun _ _ h => h.elim
    | ok u =>
      obtain ⟨watched, detail, hlatest, hstatus⟩ := hbuilt u rfl
      obtain ⟨hid, hcluster⟩ := watched.seen detail hlatest
      rw [afterBuild_ordered (c := c) htask hpassword hlatest hid hcluster hstatus]
      have goes_on : H.Leads d (within (.running c desired) (ExceptT.mk (pure (Except.ok u))))
          (fun _ e => e = d) fun _ => True :=
        Host.Leads.within (Host.leads_pure (a := u) rfl) _
      refine goes_on.bind ?_
      rintro _ _ rfl
      exact leads_furnish (running.watched watched)

/-- **A creation that succeeds** in a cloud that has been built ends as it should, whatever failures
are queued. -/
theorem Succeeds.createInstance_created {w w' : World Cloud} {s : InstanceState}
    {es : List Exchange} (h : Succeeds Cloud.provider w (createInstance t desired) s w' es)
    (built : w.store.Built) (awaits : w.store.AwaitsNext) :
    Created w.store.core desired s w'.store.core := by
  have tasks : ∀ srv ∈ w.store.core.servers, srv.taskId ≠ w.store.core.nextTask := by
    intro srv hsrv htask
    have reached := built.tidy.tasks srv hsrv _ htask
    exact absurd reached (Nat.not_succ_le_self _)
  have created : Cloud.queuedHost.Leads w.store.core (createInstance t desired)
      (fun s d => Created w.store.core desired s d) fun _ => True :=
    leads_createInstance awaits.core tasks
  exact (created.of_succeeds trivial rfl h).2

end

/-! ### The attachments -/

section

variable {c d : Cloud} {desired : InstanceSpec} {s : InstanceState}

theorem Cloud.AwaitsNext.recordAt (h : c.AwaitsNext) (k : String) :
    c.recordAt c.nextServer k = none := by
  cases hr : c.recordAt c.nextServer k with
  | none => rfl
  | some r =>
    obtain ⟨sub, hsub, hrecord⟩ := Option.bind_eq_some_iff.1 hr
    obtain ⟨n, hn, hhead⟩ := Option.bind_eq_some_iff.1 hsub
    have mem : r ∈ sub.recordsOf c.nextServer := List.mem_of_find?_eq_some hrecord
    obtain ⟨e, he, hre⟩ := List.mem_flatMap.1 mem
    obtain ⟨hes, hid⟩ := List.mem_filter.1 he
    have entry : e ∈ serverEntries c.networks := mem_serverEntries_iff.2
      ⟨n, List.mem_of_find?_eq_some hn, sub, List.mem_of_mem_head? hhead, hes⟩
    rw [h.ports e entry (of_decide_eq_true hid)] at hre
    exact absurd hre List.not_mem_nil

theorem Created.recordAt (h : Created c desired s d) (awaits : c.AwaitsNext)
    (orderly : ∀ n ∈ c.networks, n.Orderly) {k : String}
    (hk : k ∈ desired.networks.map (·.networkId)) :
    ∃ sub, c.subnet? k = some sub ∧ d.recordAt c.nextServer k = some (portRecord
      (c.counter + 2 + (desired.networks.map (·.networkId)).idxOf k) none false sub.id) := by
  obtain ⟨e, hports, hnetworks⟩ := h.ports
  obtain ⟨sub, hsub⟩ := Cloud.exists_subnet_of_allocatePorts hports hk
  have record := Cloud.recordAt_allocatePorts (c := { c with counter := c.counter + 1 }) orderly
    hports k
  have before : Cloud.recordAt { c with counter := c.counter + 1 } c.nextServer k = none :=
    awaits.recordAt k
  rw [before, Option.none_or, if_pos hk, show Cloud.subnet? { c with counter := c.counter + 1 } k =
    some sub from hsub, Option.map_some] at record
  refine ⟨sub, hsub, ?_⟩
  rw [Cloud.recordAt, Cloud.subnet?, hnetworks]
  exact record

theorem Created.find?_networks (h : Created c desired s d) (k : String) (a : NetworkAttachment) :
    s.networks.find? (·.networkId = k) = some a ↔ k ∈ desired.networks.map (·.networkId) ∧
      ∃ n, d.networks.find? (·.id = k) = some n ∧ n.attachmentOf c.nextServer = some a := by
  have filed : Filed (resolveById d.networks desired.requestedNetworks.members c.nextServer) :=
    filed_attachmentsOn _ _
  rw [h.networks, find?_takeEach filed]
  split_ifs with hk
  · rw [find?_resolveById]
    have mem : k ∈ desired.requestedNetworks.members := IdSet.mem_ofList.2 hk
    simp only [mem, hk, true_and]
  · simp [hk]

/-- **The attachments of a new instance** are one to each network asked for, in the order of the
first requests, and each is that of the port made for the first request: its number tells the place
of the request, it has the address that goes with the number, and it does not filter. -/
theorem Created.attachments (h : Created c desired s d) (awaits : c.AwaitsNext)
    (orderly : ∀ n ∈ c.networks, n.Orderly) :
    s.networks.map (·.networkId) = (desired.networks.map (·.networkId)).eraseDups ∧
      ∀ a ∈ s.networks, ∃ sub, c.subnet? a.networkId = some sub ∧
        a = .ofRecord a.networkId sub.id (portRecord
          (c.counter + 2 + (desired.networks.map (·.networkId)).idxOf a.networkId) none false
            sub.id) := by
  let ids := desired.networks.map (·.networkId)
  let found := resolveById d.networks desired.requestedNetworks.members c.nextServer
  have filed : Filed found := filed_attachmentsOn _ _
  have contained : ids.filter found.contains = ids := by
    refine List.filter_eq_self.2 fun k hk => ?_
    obtain ⟨sub, -, record⟩ := h.recordAt awaits orderly hk
    obtain ⟨n, hn, hattachment⟩ := Cloud.exists_attachmentOf record
    have asked : k ∈ desired.requestedNetworks.members := IdSet.mem_ofList.2 hk
    have shown := find?_resolveById.2 ⟨asked, n, hn, hattachment⟩
    rw [IdMap.contains, shown]
    rfl
  have order : s.networks.map (·.networkId) = ids.eraseDups := by
    rw [h.networks, map_networkId_takeEach filed, contained]
  refine ⟨order, fun a ha => ?_⟩
  have nodup : (s.networks.map (·.networkId)).Nodup := order ▸ nodup_eraseDups _
  obtain ⟨hk, n, hn, hattachment⟩ := (h.find?_networks a.networkId a).1 (find?_of_nodup nodup ha)
  obtain ⟨sub, hsub, record⟩ := h.recordAt awaits orderly hk
  obtain ⟨m, hm, hshown⟩ := Cloud.exists_attachmentOf record
  obtain rfl : n = m := Option.some.inj (hn.symm.trans hm)
  exact ⟨sub, hsub, Option.some.inj (hattachment.symm.trans hshown)⟩

end

end Reconciler
