import Reconciler.Proofs.Creation.Accounted
import Reconciler.Proofs.FloatingIp.Binding

/-!
# The course of a creation

After the order a creation goes through phases. It looks the instance up until it runs, it lists the
networks until the instance is ready on every one asked for, it attaches the volumes one after the
other, and it binds the floating address. A phase begins when the one before has succeeded, and only
then, so that each exchange of a creation tells how far the creation has come.

What is known of the instance is what the last report of it said, and nothing of what an earlier one
said: see `InstanceState.lastSeen`.

## What is proved

* `gives_awaitBuilt`, `gives_attachVolumes`: the accounts of the phases.
* `gives_furnish`: the course of a creation up to the floating address.
* `createInstance_course`: the course of every creation, whoever answers its calls.
-/

namespace Reconciler

variable {σ : Type} {t : Tuning} {s : InstanceState} {desired : InstanceSpec} {deadline : Instant}

/-! ### Waiting for the instance to run -/

/-- The call asks how far an instance has come. -/
def Call.AsksStatus : Call → Prop
  | .getServer _ | .inquireTask _ => True
  | _ => False

/-- The report of an instance that an exchange brought, if it brought one. -/
def Exchange.report? : Exchange → Option ServerDetail
  | ⟨_, _, .getServer _, .ok detail⟩ => some detail
  | ⟨_, _, .inquireTask _, .ok detail⟩ => some detail
  | _ => none

/-- The reports of an instance that some exchanges brought, in their order. -/
def reportsIn (es : List Exchange) : List ServerDetail := es.filterMap (·.report?)

@[simp] theorem reportsIn_append (es es' : List Exchange) :
    reportsIn (es ++ es') = reportsIn es ++ reportsIn es' :=
  List.filterMap_append

/-- Only a look at the instance brings a report. -/
theorem reportsIn_eq_nil {es : List Exchange} (h : ∀ e ∈ es, ¬ e.call.AsksStatus) :
    reportsIn es = [] := by
  refine List.filterMap_eq_nil_iff.2 fun e he => ?_
  have other := h e he
  unfold Exchange.report?
  split
  · exact absurd trivial other
  · exact absurd trivial other
  · rfl

theorem reportsIn_listings {es : List Exchange} (h : ∀ e ∈ es, e.call = .listNetworks) :
    reportsIn es = [] :=
  reportsIn_eq_nil fun e he => by rw [h e he]; exact id

/-- The last of some exchanges reports that the instance runs. -/
def EndsRunning (es : List Exchange) : Prop :=
  ∃ earlier look detail, es = earlier ++ [look] ∧ look.report? = some detail ∧
    detail.status = .active

theorem EndsRunning.prepend {es : List Exchange} (h : EndsRunning es) (before : List Exchange) :
    EndsRunning (before ++ es) := by
  obtain ⟨earlier, look, detail, rfl, hlook, hactive⟩ := h
  exact ⟨before ++ earlier, look, detail, (List.append_assoc ..).symm, hlook, hactive⟩

/-- **The account of the wait for an instance to run.** -/
structure BuildWait (r : Option (Option ServerDetail × Except Failure Unit)) (es : List Exchange) :
    Prop where
  /-- The wait only asks how far the instance has come. -/
  asks : ∀ e ∈ es, e.call.AsksStatus
  /-- It hands on the last report, and no other. -/
  latest : ∀ latest result, r = some (latest, result) → latest = (reportsIn es).getLast?
  /-- If it succeeds, it ends with a report that the instance runs. -/
  running : ∀ latest u, r = some (latest, .ok u) → EndsRunning es

/-- What is remembered from exchange to exchange is the last report. -/
theorem foldl_report (es : List Exchange) (before : Option ServerDetail) :
    es.foldl (fun latest e => e.report?.or latest) before = (reportsIn es).getLast?.or before := by
  induction es generalizing before with
  | nil => rfl
  | cons e es ih =>
    rw [List.foldl_cons, ih]
    cases he : e.report? with
    | none => simp [reportsIn, he]
    | some detail =>
      cases hes : (reportsIn es).getLast? <;> simp_all [reportsIn, List.getLast?_cons]

/-- A look at an instance being built is one exchange. -/
theorem gives_lookUpBuilt : (lookUpBuilt s).Gives fun r es => ∃ o e, r = some o ∧ es = [e] ∧
    e.call.AsksStatus ∧ e.report? = o.toOption := by
  -- The exchange shows the report of the answer, by whichever of the two calls it was got.
  have answered (o : Except RemoteError ServerDetail) (e : Exchange) (he : e.call.AsksStatus)
      (hreport : e.report? = o.toOption) :
      (Program.pure o).Gives fun r es => ∃ o e', r = some o ∧ e :: es = [e'] ∧
        e'.call.AsksStatus ∧ e'.report? = o.toOption :=
    Program.gives_pure ⟨o, e, rfl, rfl, he, hreport⟩
  rw [lookUpBuilt]
  split
  all_goals
    rw [← Program.bind_pure' (Program.request _ _)]
    refine Program.gives_request_bind fun start o => answered o _ trivial ?_
    cases o <;> rfl

theorem gives_awaitBuilt : (awaitBuilt t s deadline).Gives BuildWait := by
  let advance (latest : Option ServerDetail) (e : Exchange) := e.report?.or latest
  let shows (e : Exchange) (_ : Unit) : Prop :=
    ∃ detail, e.report? = some detail ∧ detail.status = .active
  have check (latest : Option ServerDetail) : (buildCheck s latest).Gives fun r es => ∃ e seen,
      r = some (advance latest e, seen) ∧ es = [e] ∧ e.call.AsksStatus ∧
        ∀ v, seen = .done v → shows e v := by
    refine Program.Gives.bind gives_lookUpBuilt ?_ ?_
    · rintro b _ ⟨o, e, ho, rfl, he, hreport⟩
      rw [← Option.some.inj ho] at hreport
      cases b with
      | error err =>
        have same : advance latest e = latest := by simp [advance, hreport, Except.toOption]
        exact Program.gives_pure ⟨e, .failed (.remote "inquire instance" err), by rw [same], rfl,
          he, fun _ h => (nomatch h)⟩
      | ok detail =>
        have seen : advance latest e = some detail := by simp [advance, hreport, Except.toOption]
        refine Program.gives_pure ⟨e, _, by rw [seen], rfl, he, fun v hv => ?_⟩
        cases hstatus : detail.status with
        | active => exact ⟨detail, hreport, hstatus⟩
        | _ => simp [hstatus] at hv
    · rintro _ ⟨o, e, ho, -⟩
      nomatch ho
  have wait := gives_watch (w := t.wait deadline) check none
  refine Program.Gives.bind wait (fun b es watch => Program.gives_pure ?_) fun es watch =>
    ⟨watch.looks, fun _ _ h => (nomatch h), fun _ _ h => (nomatch h)⟩
  obtain ⟨latest, result⟩ := b
  rw [List.append_nil]
  refine ⟨watch.looks, fun latest' result' h => ?_, fun latest' u h => ?_⟩
  · obtain ⟨rfl, -⟩ := Prod.mk.inj (Option.some.inj h)
    rw [watch.state latest result rfl, foldl_report, Option.or_none]
  · obtain ⟨rfl, hresult⟩ := Prod.mk.inj (Option.some.inj h)
    cases result with
    | error e => simp [awaited] at hresult
    | ok v =>
      obtain ⟨earlier, last, hes, detail, hdetail, hstatus⟩ := watch.value latest v rfl
      exact ⟨earlier, last, detail, hes, hdetail, hstatus⟩

/-! ### Attaching the volumes -/

/-- The state that a creation ends with or, if it fails part of the way, carries. -/
def carried? : Except Failure InstanceState → Option InstanceState
  | .ok s => some s
  | .error (.incomplete s _) => some s
  | .error _ => none

/-- **The account of attaching volumes** to an instance. -/
structure VolumesRun (s : InstanceState) (volumes : List String)
    (r : Option (Except Failure InstanceState)) (es : List Exchange) : Prop where
  /-- The volumes are tried in their order. -/
  calls : es.map (·.call) <+: volumes.map (.attachVolume s.id ·)
  /-- Nothing but the volumes of the state changes. -/
  state : ∃ x attached, r = some x ∧ carried? x = some { s with volumes := attached }
  /-- If the run succeeds, each volume was attached and is part of the state. -/
  done : ∀ s', r = some (.ok s') → s' = { s with volumes := volumes.foldl .insert s.volumes } ∧
    es.map (·.call) = volumes.map (.attachVolume s.id ·) ∧ attachedVolumes es = volumes

/-- The volumes of the instance are attached, and nothing else is done. -/
theorem VolumesRun.attaches {volumes : List String} {r : Option (Except Failure InstanceState)}
    {es : List Exchange} (h : VolumesRun s volumes r es) :
    ∀ e ∈ es, ∃ v ∈ volumes, e.call = .attachVolume s.id v := by
  intro e he
  obtain ⟨v, hv, heq⟩ := List.mem_map.1 (h.calls.subset (List.mem_map_of_mem he))
  exact ⟨v, hv, heq.symm⟩

theorem VolumesRun.not_asksStatus {volumes : List String}
    {r : Option (Except Failure InstanceState)} {es : List Exchange}
    (h : VolumesRun s volumes r es) : ∀ e ∈ es, ¬ e.call.AsksStatus := by
  intro e he
  obtain ⟨v, -, hcall⟩ := h.attaches e he
  rw [hcall]
  exact id

/-- One volume more. -/
theorem VolumesRun.cons {v : String} {volumes : List String} {start : Instant} {u : Unit}
    {r : Option (Except Failure InstanceState)} {es : List Exchange}
    (h : VolumesRun { s with volumes := s.volumes.insert v } volumes r es) :
    VolumesRun s (v :: volumes) r (⟨start, s.region, .attachVolume s.id v, .ok u⟩ :: es) where
  calls := (List.prefix_cons_inj _).2 h.calls
  state := h.state
  done s' hr := by
    obtain ⟨hs', hcalls, hattached⟩ := h.done s' hr
    exact ⟨hs', congrArg (_ :: ·) hcalls, congrArg (v :: ·) hattached⟩

theorem gives_attachVolumes (volumes : List String) :
    Gives (attachVolumes s volumes) (VolumesRun s volumes) := by
  induction volumes generalizing s with
  | nil =>
    refine gives_pure ⟨List.prefix_rfl, ⟨_, s.volumes, rfl, rfl⟩, fun s' h => ?_⟩
    obtain rfl := Except.ok.inj (Option.some.inj h)
    exact ⟨rfl, rfl, rfl⟩
  | cons v volumes ih =>
    let attach : Call := .attachVolume s.id v
    have step : Gives (ask s.region attach ("attach volume " ++ v)) fun r es => ∃ start o,
        es = [⟨start, s.region, attach, o⟩] ∧ (∀ u, r = some (.ok u) → ∃ u, o = .ok u) ∧
          r ≠ none :=
      gives_ask (fun start a => ⟨start, _, rfl, fun u _ => ⟨a, rfl⟩, by simp⟩)
        fun start e => ⟨start, _, rfl, fun _ h => (nomatch h), by simp⟩
    refine (gives_within step).bind ?_ ?_ ?_
    · rintro u _ ⟨start, o, rfl, ho, -⟩
      obtain ⟨a, rfl⟩ := ho u rfl
      exact ih.mono fun r es h => h.cons
    · rintro _ _ ⟨cause, rfl, start, o, rfl, -, -⟩
      exact ⟨⟨_, rfl⟩, ⟨_, s.volumes, rfl, rfl⟩, fun _ h => (nomatch h)⟩
    · rintro es ⟨_, _, _, _, h⟩
      exact absurd rfl h

/-! ### Up to the floating address -/

/-- What follows the order of a creation, up to the floating address. -/
def furnish (t : Tuning) (desired : InstanceSpec) (s : InstanceState) : Task InstanceState := do
  let deadline ← deadlineAfter t.timeouts.create
  let (latest, built) ← awaitBuilt t s deadline
  let s := s.afterBuild latest
  within s (ExceptT.mk (return built))
  let networks ← within s (awaitNetworks t desired s deadline)
  attachVolumes { s with networks } (desired.volumes.members.filter (· ≠ ""))

/-- What is known of an instance that was looked up while it was built. -/
def InstanceState.lastSeen (s : InstanceState) (builds : List Exchange) : InstanceState :=
  s.afterBuild (reportsIn builds).getLast?

section

variable (s : InstanceState) (builds : List Exchange)

@[simp] theorem InstanceState.lastSeen_applied : (s.lastSeen builds).applied = s.applied := by
  unfold lastSeen afterBuild
  split <;> rfl

@[simp] theorem InstanceState.lastSeen_volumes : (s.lastSeen builds).volumes = s.volumes := by
  unfold lastSeen afterBuild
  split <;> rfl

@[simp] theorem InstanceState.lastSeen_securityGroups :
    (s.lastSeen builds).securityGroups = s.securityGroups := by
  unfold lastSeen afterBuild
  split <;> rfl

@[simp] theorem InstanceState.lastSeen_floatingIp :
    (s.lastSeen builds).floatingIp = s.floatingIp := by
  unfold lastSeen afterBuild
  split <;> rfl

end

/-- An instance that was reported to run has that status. -/
theorem EndsRunning.status {builds : List Exchange} (h : EndsRunning builds) :
    (s.lastSeen builds).status = .active := by
  obtain ⟨earlier, look, detail, rfl, hlook, hactive⟩ := h
  have last : (reportsIn (earlier ++ [look])).getLast? = some detail := by
    simp [reportsIn, hlook]
  rw [InstanceState.lastSeen, last]
  exact hactive

/-- A creation has failed, and what it carries is the state `s`. -/
def StopsAt (s : InstanceState) (r : Option (Except Failure InstanceState)) : Prop :=
  ∀ x, r = some x → ∃ cause, x = .error (.incomplete s cause)

/-- **How far a creation comes** after its order, up to the floating address: it waits for the
instance to run, then for the networks, and then it attaches the volumes. A phase is begun when the
one before has succeeded. -/
inductive Furnishing (desired : InstanceSpec) (s : InstanceState) :
    Option (Except Failure InstanceState) → List Exchange → Prop where
  /-- The instance has not come to run. -/
  | building {r : Option (Except Failure InstanceState)} {builds : List Exchange}
    (asks : ∀ e ∈ builds, e.call.AsksStatus) (stops : StopsAt (s.lastSeen builds) r) :
    Furnishing desired s r builds
  /-- The instance runs, but it has not been connected. -/
  | connecting {r : Option (Except Failure InstanceState)} {builds listings : List Exchange}
    (asks : ∀ e ∈ builds, e.call.AsksStatus) (running : EndsRunning builds)
    (lists : ∀ e ∈ listings, e.call = .listNetworks) (stops : StopsAt (s.lastSeen builds) r) :
    Furnishing desired s r (builds ++ listings)
  /-- The instance runs and is connected. -/
  | attaching {r : Option (Except Failure InstanceState)}
    {builds listings attaches : List Exchange} {networks : List NetworkAttachment}
    (asks : ∀ e ∈ builds, e.call.AsksStatus) (running : EndsRunning builds)
    (lists : ∀ e ∈ listings, e.call = .listNetworks)
    (connected : Connected desired (s.lastSeen builds).id networks listings)
    (volumes : VolumesRun { s.lastSeen builds with networks }
      (desired.volumes.members.filter (· ≠ "")) r attaches) :
    Furnishing desired s r (builds ++ (listings ++ attaches))

theorem gives_furnish : Gives (furnish t desired s) (Furnishing desired s) := by
  rw [furnish]
  have clock : Gives (liftM (deadlineAfter t.timeouts.create)) fun r es =>
      es = [] ∧ ∃ deadline, r = some (.ok deadline) :=
    fun σ p w => ⟨rfl, _, rfl⟩
  refine clock.bind ?_ (fun e es h => by simp at h) fun es h => by simp at h
  rintro deadline _ ⟨rfl, -⟩
  have build : Gives (liftM (awaitBuilt t s deadline)) fun r es =>
      ∃ r', BuildWait r' es ∧ r = r'.map .ok :=
    gives_lift gives_awaitBuilt (fun a es h => ⟨_, h, rfl⟩) fun es h => ⟨_, h, rfl⟩
  refine build.bind ?_ (fun e es h => ?_) fun es ⟨r, h, _⟩ =>
    .building h.asks fun _ hx => nomatch hx
  · rintro ⟨latest, built⟩ builds ⟨r, h, hr⟩
    obtain ⟨b, rfl, hb⟩ := Option.map_eq_some_iff.1 hr.symm
    obtain rfl := Except.ok.inj hb
    obtain rfl := h.latest latest built rfl
    -- The result of the wait becomes one of the creation.
    have settled : Gives (ExceptT.mk (return built) : Task Unit)
        fun r es => r = some built ∧ es = [] :=
      fun σ p w => ⟨rfl, rfl⟩
    simp only [List.nil_append]
    refine (gives_within settled).bind ?_ ?_ fun es h => nomatch h.1
    · rintro _ _ ⟨hbuilt, rfl⟩
      obtain rfl := Option.some.inj hbuilt
      have running := h.running _ _ rfl
      simp only [List.nil_append]
      refine (gives_within gives_awaitNetworks).bind (fun networks listings hlisted => ?_) ?_ ?_
      · refine (gives_attachVolumes _).mono fun r attaches volumes => ?_
        exact .attaching h.asks running hlisted.lists (hlisted.connected _ rfl) volumes
      · rintro _ listings ⟨cause, rfl, hlisted⟩
        refine .connecting h.asks running hlisted.lists fun x hx => ⟨cause, ?_⟩
        exact (Option.some.inj hx).symm
      · exact fun listings hlisted =>
          .connecting h.asks running hlisted.lists fun _ hx => nomatch hx
    · rintro _ _ ⟨cause, rfl, -, rfl⟩
      rw [List.append_nil]
      exact .building h.asks fun x hx => ⟨cause, (Option.some.inj hx).symm⟩
  · obtain ⟨r, -, hr⟩ := h
    cases r <;> simp at hr

/-! ### The floating address -/

/-- The last step of a creation: the floating address, if one is wanted. -/
def bindWanted (desired : InstanceSpec) (s : InstanceState) : Task InstanceState :=
  match desired.floatingIp with
  | none => return s
  | some b => do
    within s (bindInitialFloatingIp s b)
    return { s with floatingIp := some b }

/-- **The account of the last step of a creation.** -/
structure AddressRun (desired : InstanceSpec) (s : InstanceState)
    (r : Option (Except Failure InstanceState)) (es : List Exchange) : Prop where
  /-- It only sees to the floating address. -/
  calls : ∀ e ∈ es, e.call.SeesToAddress
  /-- Nothing but the floating address of the state changes. -/
  state : ∃ x bound, r = some x ∧ carried? x = some { s with floatingIp := bound }
  /-- If it succeeds, the floating address is the one that is wanted. -/
  done : ∀ s', r = some (.ok s') → s' = { s with floatingIp := desired.floatingIp.or s.floatingIp }

theorem AddressRun.reportsIn_eq_nil {r : Option (Except Failure InstanceState)} {es : List Exchange}
    (h : AddressRun desired s r es) : reportsIn es = [] := by
  refine Reconciler.reportsIn_eq_nil fun e he => ?_
  have sees := h.calls e he
  cases hcall : e.call <;> simp_all [Call.SeesToAddress, Call.AsksStatus]

theorem gives_bindWanted : Gives (bindWanted desired s) (AddressRun desired s) := by
  rw [bindWanted]
  cases hwanted : desired.floatingIp with
  | none =>
    refine gives_pure ⟨fun _ h => absurd h List.not_mem_nil, ⟨_, s.floatingIp, rfl, rfl⟩, ?_⟩
    intro s' h
    obtain rfl := Except.ok.inj (Option.some.inj h)
    rw [hwanted]
    rfl
  | some b =>
    refine (gives_within gives_bindInitialFloatingIp).bind ?_ ?_ fun es h => nomatch h
    · intro u es run
      have calls : ∀ e ∈ es, e.call.SeesToAddress := BindingRun.calls run
      refine gives_pure ?_
      rw [List.append_nil]
      refine ⟨calls, ⟨_, some b, rfl, rfl⟩, fun s' h => ?_⟩
      obtain rfl := Except.ok.inj (Option.some.inj h)
      rw [hwanted]
      rfl
    · rintro _ es ⟨cause, rfl, run⟩
      exact ⟨run.calls, ⟨_, s.floatingIp, rfl, rfl⟩, fun _ h => nomatch h⟩

/-! ### The whole creation -/

/-- A creation up to the floating address. -/
def createUnbound (t : Tuning) (desired : InstanceSpec) : Task InstanceState :=
  match desired.revertToSnapshotId with
  | some snapshotId =>
    throw (.unsupportedFor
      ("cannot revert to snapshot " ++ snapshotId ++ " while creating an instance"))
  | none => do
    let created ← ask desired.region (.createServer (creationOrder desired)) "create instance"
    furnish t desired (.ordered desired created)

/-- A creation sees to the floating address last. -/
theorem createInstance_eq :
    createInstance t desired = createUnbound t desired >>= bindWanted desired := by
  have converge (s : InstanceState) :
      convergeCreated t desired s = furnish t desired s >>= bindWanted desired := by
    simp only [convergeCreated, furnish, bind_assoc]
    rfl
  rw [createInstance, createUnbound]
  cases desired.revertToSnapshotId with
  | some snapshotId => rfl
  | none =>
    dsimp only
    simp only [bind_assoc, converge]

/-- **The course of a creation.** -/
inductive CreationCourse (desired : InstanceSpec) :
    Option (Except Failure InstanceState) → List Exchange → Prop where
  /-- A configuration that names a snapshot to revert to is refused before any call. -/
  | refused {snapshotId : String} (asked : desired.revertToSnapshotId = some snapshotId) :
    CreationCourse desired (some (.error (.unsupportedFor
      ("cannot revert to snapshot " ++ snapshotId ++ " while creating an instance")))) []
  /-- The order has failed. -/
  | rejected {start : Instant} {e : RemoteError} :
    CreationCourse desired (some (.error (.remote "create instance" e)))
      [⟨start, desired.region, .createServer (creationOrder desired), .error e⟩]
  /-- The creation has not come to the floating address. -/
  | stopped {start : Instant} {created : CreatedServer}
    {r : Option (Except Failure InstanceState)} {es : List Exchange}
    (furnishing : Furnishing desired (.ordered desired created) r es)
    (unfurnished : ∀ built, r ≠ some (.ok built)) :
    CreationCourse desired r
      (⟨start, desired.region, .createServer (creationOrder desired), .ok created⟩ :: es)
  /-- The creation has come to the floating address, with the state `built`. -/
  | furnished {start : Instant} {created : CreatedServer} {built : InstanceState}
    {r : Option (Except Failure InstanceState)} {es es' : List Exchange}
    (furnishing : Furnishing desired (.ordered desired created) (some (.ok built)) es)
    (address : AddressRun desired built r es') :
    CreationCourse desired r
      (⟨start, desired.region, .createServer (creationOrder desired), .ok created⟩ :: (es ++ es'))

/-- **The course of every creation**, whoever answers its calls. -/
theorem createInstance_course (t : Tuning) (desired : InstanceSpec) :
    Gives (createInstance t desired) (CreationCourse desired) := by
  rw [createInstance_eq, createUnbound]
  cases hrevert : desired.revertToSnapshotId with
  | some snapshotId => exact fun σ p w => .refused hrevert
  | none =>
    rw [bind_assoc]
    have order :
        Gives (ask desired.region (.createServer (creationOrder desired)) "create instance")
        fun r es => ∃ start o,
          es = [⟨start, desired.region, .createServer (creationOrder desired), o⟩] ∧
          r = some (o.mapError (.remote "create instance")) :=
      gives_ask (fun start created => ⟨start, .ok created, rfl, rfl⟩)
        fun start e => ⟨start, .error e, rfl, rfl⟩
    refine order.bind ?_ ?_ ?_
    · rintro created _ ⟨start, o, rfl, ho⟩
      obtain ⟨created, rfl⟩ : ∃ created, o = .ok created := by
        cases o with
        | ok created => exact ⟨created, rfl⟩
        | error e => simp [Except.mapError] at ho
      obtain rfl := Except.ok.inj (Option.some.inj ho)
      refine gives_furnish.bind ?_ ?_ ?_
      · intro built es furnishing
        refine gives_bindWanted.mono fun r es' address => ?_
        show CreationCourse desired r (_ :: (es ++ es'))
        exact .furnished furnishing address
      · exact fun e es furnishing => .stopped furnishing fun _ h => nomatch h
      · exact fun es furnishing => .stopped furnishing fun _ h => nomatch h
    · rintro _ _ ⟨start, o, rfl, ho⟩
      cases o with
      | ok created => simp [Except.mapError] at ho
      | error e =>
        obtain rfl := Except.error.inj (Option.some.inj ho)
        exact .rejected
    · rintro _ ⟨_, _, _, ho⟩
      nomatch ho

end Reconciler
