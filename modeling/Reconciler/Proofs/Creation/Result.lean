import Reconciler.Proofs.Creation.Course
import Reconciler.Proofs.Lists

/-!
# What a creation gives

A creation that succeeds ends with the instance as it was asked for: it was reported to run, it is
connected to each network as the last listing shows it, each volume was attached by a call of its
own, and the floating address is bound. A creation that does not succeed keeps to the same order of
its phases.

## What is proved

* `CreationCourse.succeeded`: the state that a creation ends with.
* `createInstance_result`: what every creation gives, whoever answers its calls.
-/

namespace Reconciler

/-! ### Calls that come only after others -/

/-- **Each call of a kind comes only after** exchanges of which `good` holds. -/
def OnlyAfter (kind : Call → Prop) (good : List Exchange → Prop) (es : List Exchange) : Prop :=
  ∀ before e after, es = before ++ e :: after → kind e.call → good before

section

variable {kind : Call → Prop} {good : List Exchange → Prop} {es es' : List Exchange}

theorem onlyAfter_of_forall_not (h : ∀ e ∈ es, ¬ kind e.call) : OnlyAfter kind good es := by
  rintro before e after rfl he
  exact absurd he (h e (by simp))

theorem onlyAfter_of_forall (h : ∀ before, good before) : OnlyAfter kind good es :=
  fun before _ _ _ _ => h before

theorem OnlyAfter.mono {good' : List Exchange → Prop} (h : OnlyAfter kind good es)
    (weaker : ∀ before, good before → good' before) : OnlyAfter kind good' es :=
  fun before e after heq he => weaker before (h before e after heq he)

/-- Calls of the second list come after the whole first one. -/
theorem OnlyAfter.append (h : OnlyAfter kind good es)
    (h' : OnlyAfter kind (fun before => good (es ++ before)) es') :
    OnlyAfter kind good (es ++ es') := by
  intro before e after heq he
  obtain ⟨before, rfl, rest⟩ | ⟨after, first, rfl⟩ := append_eq_append_cons heq
  · exact h' before e after rest he
  · exact h before e after first he

end

/-! ### The state of a created instance -/

/-- The call sees to volumes. -/
def Call.onVolumes : Call → Bool
  | .attachVolume _ _ | .detachVolume _ _ | .listVolumes => true
  | _ => false

/-- The call sees to public or floating addresses. -/
def Call.onAddresses : Call → Bool
  | .listPublicIps | .attachFloatingIp _ _ | .detachFloatingIp _ | .floatingIpOf _ => true
  | _ => false

/-- **The instance is furnished** as a configuration asks, but for the floating address: `s` is its
state after the exchanges `es`. -/
structure Furnished (desired : InstanceSpec) (s : InstanceState) (es : List Exchange) : Prop where
  /-- The last look at the instance being built was answered that it runs. -/
  running : ∃ builds rest, es = builds ++ rest ∧ EndsRunning builds ∧
    ∀ e ∈ rest, ¬ e.call.AsksStatus
  /-- So is its status. -/
  status : s.status = .active
  /-- There is one attachment to each network asked for, in the order of the first requests, with a
  port and a subnet. Each is as the last listing of the networks has it. -/
  connected : Connected desired s.id s.networks es
  /-- The volumes are the ones asked for. -/
  volumes : s.volumes = desired.volumes.filter (· ≠ "")
  /-- Of the volumes nothing was asked but that each be attached, in ascending order. -/
  volumeCalls : (es.map (·.call)).filter (·.onVolumes) =
    s.volumes.members.map (.attachVolume s.id ·)
  /-- Each was. -/
  attached : attachedVolumes es = s.volumes.members
  /-- The security groups are the ones asked for. -/
  securityGroups : s.securityGroups = desired.securityGroups
  /-- The configuration counts as applied. -/
  applied : s.applied = desired

variable {σ : Type} {t : Tuning} {desired : InstanceSpec} {created : CreatedServer}
  {s built : InstanceState} {es es' : List Exchange}

/-- Exchanges about other things than volumes ask for none and attach none. -/
theorem volumes_of_forall (h : ∀ e ∈ es, e.call.onVolumes = false) :
    (es.map (·.call)).filter (·.onVolumes) = [] ∧ attachedVolumes es = [] := by
  constructor
  · rw [List.filter_eq_nil_iff]
    intro c hc
    obtain ⟨e, he, rfl⟩ := List.mem_map.1 hc
    rw [h e he]
    exact Bool.false_ne_true
  · refine attachedVolumes_of_leaves fun e he serverId volumeId hcall => ?_
    have other := h e he
    rw [hcall] at other
    exact absurd other.symm Bool.false_ne_true

/-- The call has to do with no network, no volume, and not with how far the instance is built. -/
structure Call.IsAside (c : Call) : Prop where
  status : ¬ c.AsksStatus
  listing : c ≠ .listNetworks
  volumes : c.onVolumes = false

theorem Call.SeesToAddress.isAside {c : Call} (h : c.SeesToAddress) : c.IsAside := by
  cases c <;> first | exact ⟨id, Call.noConfusion, rfl⟩ | exact absurd h id

theorem Call.AsksStatus.not_onVolumes {c : Call} (h : c.AsksStatus) : c.onVolumes = false := by
  cases c <;> first | rfl | exact absurd h id

theorem Call.AsksStatus.ne_listNetworks {c : Call} (h : c.AsksStatus) : c ≠ .listNetworks := by
  rintro rfl
  exact h

theorem VolumesRun.ne_listNetworks {volumes : List String}
    {r : Option (Except Failure InstanceState)} (h : VolumesRun s volumes r es) :
    ∀ e ∈ es, e.call ≠ .listNetworks := by
  intro e he
  obtain ⟨v, -, hcall⟩ := h.attaches e he
  rw [hcall]
  exact Call.noConfusion

/-- All calls of a run that attaches volumes are about volumes. -/
theorem VolumesRun.filter_onVolumes {volumes : List String}
    {r : Option (Except Failure InstanceState)} (h : VolumesRun s volumes r es) :
    (es.map (·.call)).filter (·.onVolumes) = es.map (·.call) := by
  rw [List.filter_eq_self]
  intro c hc
  obtain ⟨e, he, rfl⟩ := List.mem_map.1 hc
  obtain ⟨v, -, hcall⟩ := h.attaches e he
  rw [hcall]
  rfl

/-- Exchanges about something else may come before and after, and the floating address is something
else. -/
theorem Furnished.embed (h : Furnished desired s es) (before after : List Exchange)
    (hbefore : ∀ e ∈ before, e.call.IsAside) (hafter : ∀ e ∈ after, e.call.IsAside)
    (floatingIp : Option FloatingIpBinding) :
    Furnished desired { s with floatingIp } (before ++ (es ++ after)) where
  running := by
    obtain ⟨builds, rest, rfl, running, unseen⟩ := h.running
    refine ⟨before ++ builds, rest ++ after, by simp, running.prepend before, fun e he => ?_⟩
    rcases List.mem_append.1 he with he | he
    · exact unseen e he
    · exact (hafter e he).status
  status := h.status
  connected := h.connected.embed before after
    (listingsIn_eq_nil fun e he => (hbefore e he).listing)
    (listingsIn_eq_nil fun e he => (hafter e he).listing)
  volumes := h.volumes
  volumeCalls := by
    obtain ⟨first, -⟩ := volumes_of_forall fun e he => (hbefore e he).volumes
    obtain ⟨last, -⟩ := volumes_of_forall fun e he => (hafter e he).volumes
    simp only [List.map_append, List.filter_append, first, last, List.nil_append, List.append_nil]
    exact h.volumeCalls
  attached := by
    obtain ⟨-, first⟩ := volumes_of_forall fun e he => (hbefore e he).volumes
    obtain ⟨-, last⟩ := volumes_of_forall fun e he => (hafter e he).volumes
    simp only [attachedVolumes_append, first, last, List.nil_append, List.append_nil]
    exact h.attached
  securityGroups := h.securityGroups
  applied := h.applied

/-- **A creation that succeeds up to the floating address** has furnished the instance. -/
theorem Furnishing.furnished
    (h : Furnishing desired (.ordered desired created) (some (.ok built)) es) :
    Furnished desired built es ∧ built.floatingIp = none := by
  cases h with
  | building _ stops =>
    obtain ⟨cause, h⟩ := stops _ rfl
    nomatch h
  | connecting _ _ _ stops =>
    obtain ⟨cause, h⟩ := stops _ rfl
    nomatch h
  | attaching asks running lists connected run =>
    rename_i builds listings attaches networks
    obtain ⟨hbuilt, calls, attached⟩ := run.done built rfl
    have volumes := calc
      built.volumes = (desired.volumes.members.filter (· ≠ "")).foldl .insert
          ((InstanceState.ordered desired created).lastSeen builds).volumes := by rw [hbuilt]
      _ = IdSet.ofList (desired.volumes.members.filter (· ≠ "")) := by
        rw [InstanceState.lastSeen_volumes]
        rfl
      _ = desired.volumes.filter (· ≠ "") :=
        IdSet.ofList_members (desired.volumes.filter (· ≠ ""))
    obtain ⟨noBuildCalls, noBuildVolumes⟩ :=
      volumes_of_forall fun e he => (asks e he).not_onVolumes
    obtain ⟨noListingCalls, noListingVolumes⟩ :=
      volumes_of_forall fun e he => by rw [lists e he]; rfl
    refine ⟨?_, by rw [hbuilt]; exact InstanceState.lastSeen_floatingIp ..⟩
    constructor
    case running =>
      refine ⟨builds, _, rfl, running, fun e he => ?_⟩
      rcases List.mem_append.1 he with he | he
      · rw [lists e he]
        exact id
      · exact run.not_asksStatus e he
    case status =>
      rw [hbuilt]
      exact running.status
    case connected =>
      rw [hbuilt]
      exact connected.embed _ _ (listingsIn_eq_nil fun e he => (asks e he).ne_listNetworks)
        (listingsIn_eq_nil run.ne_listNetworks)
    case volumes => exact volumes
    case volumeCalls =>
      simp only [List.map_append, List.filter_append, noBuildCalls, noListingCalls,
        run.filter_onVolumes, List.nil_append]
      rw [calls, volumes, hbuilt]
      rfl
    case attached =>
      simp only [attachedVolumes_append, noBuildVolumes, noListingVolumes, List.nil_append]
      rw [attached, volumes]
      rfl
    case securityGroups =>
      rw [hbuilt]
      exact InstanceState.lastSeen_securityGroups ..
    case applied =>
      rw [hbuilt]
      exact InstanceState.lastSeen_applied ..

/-- **A creation that succeeds** has furnished the instance and bound the floating address. -/
theorem CreationCourse.succeeded (h : CreationCourse desired (some (.ok s)) es) :
    Furnished desired s es ∧ s.floatingIp = desired.floatingIp := by
  cases h with
  | stopped _ unfurnished => exact absurd rfl (unfurnished s)
  | furnished furnishing address =>
    obtain ⟨furnished, unbound⟩ := furnishing.furnished
    obtain rfl := address.done s rfl
    refine ⟨furnished.embed [_] _ ?_ (fun e he => (address.calls e he).isAside) _, ?_⟩
    · intro e he
      obtain rfl := List.mem_singleton.1 he
      exact ⟨id, Call.noConfusion, rfl⟩
    · rw [unbound, Option.or_none]

/-! ### The order of the phases -/

/-- An instance was reported to run. -/
def ReportedRunning (es : List Exchange) : Prop :=
  ∃ look ∈ es, ∃ detail, look.report? = some detail ∧ detail.status = .active

theorem EndsRunning.reported (h : EndsRunning es) : ReportedRunning es := by
  obtain ⟨earlier, look, detail, rfl, hlook, hactive⟩ := h
  exact ⟨look, by simp, detail, hlook, hactive⟩

theorem ReportedRunning.embed (h : ReportedRunning es) (before after : List Exchange) :
    ReportedRunning (before ++ (es ++ after)) := by
  obtain ⟨look, hlook, detail, hreport, hactive⟩ := h
  exact ⟨look, by simp [hlook], detail, hreport, hactive⟩

/-- The networks are listed only after the instance was reported to run. -/
theorem Furnishing.listings {r : Option (Except Failure InstanceState)}
    (h : Furnishing desired s r es) : OnlyAfter (· = .listNetworks) ReportedRunning es := by
  have unlisted {builds : List Exchange} (asks : ∀ e ∈ builds, e.call.AsksStatus) :
      OnlyAfter (· = .listNetworks) ReportedRunning builds :=
    onlyAfter_of_forall_not fun e he => (asks e he).ne_listNetworks
  have later {builds : List Exchange} (running : EndsRunning builds) (rest : List Exchange) :
      OnlyAfter (· = .listNetworks) (fun before => ReportedRunning (builds ++ before)) rest :=
    onlyAfter_of_forall fun before => running.reported.embed [] before
  cases h with
  | building asks _ => exact unlisted asks
  | connecting asks running _ _ => exact (unlisted asks).append (later running _)
  | attaching asks running _ _ _ => exact (unlisted asks).append (later running _)

/-- **No listing of the networks before the instance was reported to run.** -/
theorem CreationCourse.listings {r : Option (Except Failure InstanceState)}
    (h : CreationCourse desired r es) : OnlyAfter (· = .listNetworks) ReportedRunning es := by
  have order {start : Instant} {region : Region} {request : CreateServerRequest}
      {o : Outcome (.createServer request)} {rest : List Exchange}
      (h : OnlyAfter (· = .listNetworks) ReportedRunning rest) :
      OnlyAfter (· = .listNetworks) ReportedRunning
        ([⟨start, region, .createServer request, o⟩] ++ rest) :=
    (onlyAfter_of_forall_not (by simp)).append
      (h.mono fun before reported => by simpa using reported.embed [_] [])
  cases h with
  | refused => exact onlyAfter_of_forall_not (by simp)
  | rejected => exact onlyAfter_of_forall_not (by simp)
  | stopped furnishing _ => exact order furnishing.listings
  | furnished furnishing address =>
    refine order (furnishing.listings.append (onlyAfter_of_forall_not fun e he => ?_))
    exact (address.calls e he).isAside.listing

/-- The call sees to volumes or addresses. -/
def Call.SeesToExtras (c : Call) : Prop := c.onVolumes = true ∨ c.onAddresses = true

/-- **What a creation ends with is connected** to each network that is asked for, as the last
listing of some exchanges shows it. -/
def EndsConnected (desired : InstanceSpec) (r : Option (Except Failure InstanceState))
    (es : List Exchange) : Prop :=
  ∃ x s, r = some x ∧ carried? x = some s ∧ Connected desired s.id s.networks es

/-- Volumes are seen to only after the instance was connected. -/
theorem Furnishing.extras {r : Option (Except Failure InstanceState)}
    (h : Furnishing desired s r es) : OnlyAfter Call.SeesToExtras (EndsConnected desired r) es := by
  have asking {builds : List Exchange} (asks : ∀ e ∈ builds, e.call.AsksStatus) :
      OnlyAfter Call.SeesToExtras (EndsConnected desired r) builds :=
    onlyAfter_of_forall_not fun e he extra => by
      have status := asks e he
      cases hcall : e.call <;> simp_all [Call.AsksStatus, Call.SeesToExtras, Call.onVolumes,
        Call.onAddresses]
  have listing {good : List Exchange → Prop} {listings : List Exchange}
      (lists : ∀ e ∈ listings, e.call = .listNetworks) :
      OnlyAfter Call.SeesToExtras good listings :=
    onlyAfter_of_forall_not fun e he extra => by
      rw [lists e he] at extra
      simp [Call.SeesToExtras, Call.onVolumes, Call.onAddresses] at extra
  cases h with
  | building asks _ => exact asking asks
  | connecting asks _ lists _ => exact (asking asks).append (listing lists)
  | attaching asks _ lists connected run =>
    refine (asking asks).append ((listing lists).append fun before e after heq _ => ?_)
    obtain ⟨x, attached, hx, hcarried⟩ := run.state
    refine ⟨x, _, hx, hcarried, ?_⟩
    exact connected.embed _ _ (listingsIn_eq_nil fun e he => (asks e he).ne_listNetworks)
      (listingsIn_eq_nil fun e he => run.ne_listNetworks e (by simp [heq, he]))

/-- **Nothing is done about volumes and addresses before the instance is connected** to each network
that is asked for. -/
theorem CreationCourse.extras {r : Option (Except Failure InstanceState)}
    (h : CreationCourse desired r es) :
    OnlyAfter Call.SeesToExtras (EndsConnected desired r) es := by
  have order {start : Instant} {region : Region} {request : CreateServerRequest}
      {o : Outcome (.createServer request)} {rest : List Exchange}
      (h : OnlyAfter Call.SeesToExtras (EndsConnected desired r) rest) :
      OnlyAfter Call.SeesToExtras (EndsConnected desired r)
        ([⟨start, region, .createServer request, o⟩] ++ rest) := by
    refine (onlyAfter_of_forall_not (by simp [Call.SeesToExtras, Call.onVolumes,
      Call.onAddresses])).append (h.mono ?_)
    rintro before ⟨x, s, hx, hcarried, connected⟩
    exact ⟨x, s, hx, hcarried, by simpa using connected.embed [_] [] rfl rfl⟩
  cases h with
  | refused => exact onlyAfter_of_forall_not (by simp)
  | rejected =>
    exact onlyAfter_of_forall_not (by simp [Call.SeesToExtras, Call.onVolumes, Call.onAddresses])
  | stopped furnishing _ => exact order furnishing.extras
  | @furnished _ _ built _ _ _ furnishing address =>
    obtain ⟨furnished, -⟩ := furnishing.furnished
    obtain ⟨x, bound, hx, hcarried⟩ := address.state
    refine order (.append (furnishing.extras.mono ?_) fun before e after heq _ => ?_)
    · rintro before ⟨_, _, hbuilt, hs, connected⟩
      obtain rfl := Option.some.inj hbuilt
      obtain rfl := Option.some.inj hs
      exact ⟨x, _, hx, hcarried, connected⟩
    · refine ⟨x, _, hx, hcarried, ?_⟩
      refine furnished.connected.embed [] _ rfl (listingsIn_eq_nil fun e he => ?_)
      exact (address.calls e (by simp [heq, he])).isAside.listing

/-- **What a creation gives**: what it ends with, and its exchanges. -/
structure CreationResult (desired : InstanceSpec) (r : Option (Except Failure InstanceState))
    (es : List Exchange) : Prop where
  /-- If it succeeds, it has furnished the instance as asked for. -/
  furnished : ∀ s, r = some (.ok s) → Furnished desired s es
  /-- Then the floating address is the one asked for. -/
  floatingIp : ∀ s, r = some (.ok s) → s.floatingIp = desired.floatingIp
  /-- Whether or not it succeeds, the networks are listed only after the instance was reported to
  run. -/
  listings : OnlyAfter (· = .listNetworks) ReportedRunning es
  /-- Volumes and addresses are seen to only after the instance was connected to each network. -/
  extras : OnlyAfter Call.SeesToExtras (EndsConnected desired r) es

/-- **What every creation gives**, whoever answers its calls. -/
theorem createInstance_result (t : Tuning) (desired : InstanceSpec) (p : Provider σ) (w : World σ) :
    CreationResult desired ((createInstance t desired).run.exec p w).1
      ((createInstance t desired).run.trace p w) := by
  have course := createInstance_course t desired σ p w
  refine ⟨fun s hs => ?_, fun s hs => ?_, course.listings, course.extras⟩
  · rw [hs] at course
    exact course.succeeded.1
  · rw [hs] at course
    exact course.succeeded.2

end Reconciler
