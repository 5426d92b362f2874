import Reconciler.Proofs.FloatingIp.Guard
import Reconciler.Proofs.Update.Calls

/-!
# Unbinding a floating address

An update goes by two states. It unbinds the floating address that was there from the port that was
tracked before the update, and it binds the next one to the port that the instance has after its
networks were seen to.

## What is proved

* `updateInstance_eq`: an update falls apart where the next address is bound.
* `unbinding_updateInstance`: what every update unbinds.
-/

namespace Reconciler

variable {σ : Type} {p : Provider σ} {w w' : World σ} {t : Tuning} {s built : InstanceState}
  {d : InstanceSpec} {es : List Exchange}

/-! ### The course of an update -/

/-- An update up to the floating address: the state that it has brought about. -/
def beforeAddress (t : Tuning) (s : InstanceState) (d : InstanceSpec) : Task InstanceState :=
  match immutableViolations s.applied d with
  | [] => do
    rename s d
    let securityGroups ← convergeGroups s d
    let resized ← resizeFlavor t s d
    let volumes ← convergeVolumes s d
    let networks ← convergeNetworks s d
    let status ← growRootDisk t s resized d
    return { s with status, networks, volumes, securityGroups }
  | reasons => throw (.unsupported reasons)

/-- Unbinds the floating address that was there, if another is wanted or none. -/
def unbindChanged (s : InstanceState) (d : InstanceSpec) : Task Unit :=
  if s.floatingIp = d.floatingIp then return ()
  else
    match s.floatingIp with
    | none => return ()
    | some previous => unbindFloatingIp s previous

/-- An update up to the binding of the next floating address. -/
def updateUnbound (t : Tuning) (s : InstanceState) (d : InstanceSpec) : Task InstanceState := do
  let built ← beforeAddress t s d
  unbindChanged s d
  return built

/-- The floating address that an update binds, if another is wanted than was there. -/
def InstanceState.nextFloatingIp (s : InstanceState) (d : InstanceSpec) :
    Option FloatingIpBinding :=
  if s.floatingIp = d.floatingIp then none else d.floatingIp

/-- The end of an update, once the floating address has been seen to. -/
def finishUpdate (s : InstanceState) (d : InstanceSpec) (built : InstanceState) :
    Task InstanceState := do
  revertSnapshot s d
  return { built with
    applied := d
    floatingIp := d.floatingIp }

/-- An update from the binding of the next floating address on. -/
def bindNext (s : InstanceState) (d : InstanceSpec) (built : InstanceState) :
    Task InstanceState :=
  match s.nextFloatingIp d with
  | none => finishUpdate s d built
  | some b => do
    bindNextFloatingIp s built.networks b
    finishUpdate s d built

/-- An update first unbinds the floating address that was there and then binds the next one. -/
theorem updateInstance_eq : updateInstance t s d = updateUnbound t s d >>= bindNext s d := by
  have change (networks : List NetworkAttachment) : convergeFloatingIp s networks d = (do
      unbindChanged s d
      match s.nextFloatingIp d with
      | none => pure ()
      | some b => bindNextFloatingIp s networks b
      return d.floatingIp) := by
    rw [convergeFloatingIp, unbindChanged, InstanceState.nextFloatingIp]
    split_ifs with same
    · rw [same]
      rfl
    · cases s.floatingIp <;> rfl
  rw [updateInstance, updateUnbound, beforeAddress]
  cases immutableViolations s.applied d with
  | nil =>
    simp only [convergeExisting, change, bindNext, finishUpdate, bind_assoc, pure_bind]
    cases s.nextFloatingIp d with
    | none => simp only [pure_bind]
    | some b => simp only [bind_assoc, pure_bind]
  | cons reason reasons => rfl

/-- The call unbinds the floating address of a port. -/
def Call.UnbindsAddress : Call → Prop
  | .detachFloatingIp _ => True
  | _ => False

/-- A call about another part of the cloud binds and unbinds no address. -/
theorem Part.Covers.not_onAddress {part : Part} {c : Call} (h : part.Covers c)
    (hpart : part ≠ .floatingIps) : ¬ c.BindsAddress ∧ ¬ c.UnbindsAddress := by
  have other : c.part ≠ .floatingIps := by
    rcases h with h | h
    · rwa [h]
    · rw [h]
      exact Part.noConfusion
  cases c <;> simp_all [Call.BindsAddress, Call.UnbindsAddress, Call.part]

theorem makes_beforeAddress :
    (beforeAddress t s d).run.Makes fun c => ¬ c.BindsAddress ∧ ¬ c.UnbindsAddress := by
  have step {α : Type} {task : Task α} {part : Part} (h : task.run.Makes part.Covers)
      (hpart : part ≠ .floatingIps) :
      task.run.Makes fun c => ¬ c.BindsAddress ∧ ¬ c.UnbindsAddress :=
    h.mono fun _ hcall => hcall.not_onAddress hpart
  rw [beforeAddress]
  split
  · refine (step makes_rename (by decide)).run_bind fun _ => ?_
    refine (step makes_convergeGroups (by decide)).run_bind fun _ => ?_
    refine (step makes_resizeFlavor (by decide)).run_bind fun _ => ?_
    refine (step makes_convergeVolumes (by decide)).run_bind fun _ => ?_
    refine (step makes_convergeNetworks (by decide)).run_bind fun _ => ?_
    exact (step makes_growRootDisk (by decide)).run_bind fun _ => trivial
  · trivial

/-- **The account of unbinding** the floating address that was there. -/
inductive UnbindRun (s : InstanceState) (d : InstanceSpec) :
    Option (Except Failure Unit) → List Exchange → Prop where
  /-- There is nothing to unbind. -/
  | nothing : UnbindRun s d (some (.ok ())) []
  /-- Another address is wanted, or none, and the one that was there has a port. -/
  | tried {previous : FloatingIpBinding} {a : NetworkAttachment} {start : Instant}
    {o : Outcome (.detachFloatingIp a.portId)} {r : Option (Except Failure Unit)}
    (changes : s.floatingIp ≠ d.floatingIp) (was : s.floatingIp = some previous)
    (attached : attachedTo? s.networks previous.networkId = some a)
    (passes : (∀ e, o = .error e → e.isNotFound = true) → r = some (.ok ())) :
    UnbindRun s d r [⟨start, s.region, .detachFloatingIp a.portId, o⟩]

theorem gives_unbindChanged : Gives (unbindChanged s d) (UnbindRun s d) := by
  rw [unbindChanged]
  split_ifs with same
  · exact gives_pure .nothing
  · cases was : s.floatingIp with
    | none => exact gives_pure .nothing
    | some previous =>
      dsimp only
      rw [unbindFloatingIp]
      cases attached : attachedTo? s.networks previous.networkId with
      | none => exact gives_pure .nothing
      | some a =>
        refine Program.gives_request_bind fun start o => ?_
        cases o with
        | ok u => exact Program.gives_pure (.tried same was attached fun _ => rfl)
        | error e =>
          show Program.Gives (if e.isNotFound = true then _ else _) _
          split_ifs with notFound
          · exact Program.gives_pure (.tried same was attached fun _ => rfl)
          · refine Program.gives_pure (.tried same was attached fun h => ?_)
            exact absurd (h e rfl) notFound

/-- Before it comes to the floating address an update changes the status, the networks, the volumes
and the security groups. -/
theorem Succeeds.beforeAddress (h : Succeeds p w (beforeAddress t s d) built w' es) :
    ∃ status networks volumes securityGroups,
      built = { s with status, networks, volumes, securityGroups } := by
  rw [Reconciler.beforeAddress] at h
  split at h
  · obtain ⟨_, _, _, _, -, h, -⟩ := succeeds_bind_iff.1 h
    obtain ⟨groups, _, _, _, -, h, -⟩ := succeeds_bind_iff.1 h
    obtain ⟨_, _, _, _, -, h, -⟩ := succeeds_bind_iff.1 h
    obtain ⟨volumes, _, _, _, -, h, -⟩ := succeeds_bind_iff.1 h
    obtain ⟨networks, _, _, _, -, h, -⟩ := succeeds_bind_iff.1 h
    obtain ⟨status, _, _, _, -, h, -⟩ := succeeds_bind_iff.1 h
    exact ⟨status, networks, volumes, groups, (succeeds_pure_iff.1 h).1⟩
  · exact absurd h not_succeeds_throw

theorem Succeeds.updateUnbound (h : Succeeds p w (updateUnbound t s d) built w' es) :
    s.region = built.region ∧ s.id = built.id := by
  obtain ⟨_, _, _, _, hbefore, h, -⟩ := succeeds_bind_iff.1 h
  obtain ⟨_, _, _, _, -, h, -⟩ := succeeds_bind_iff.1 h
  obtain ⟨rfl, -⟩ := succeeds_pure_iff.1 h
  obtain ⟨_, _, _, _, rfl⟩ := hbefore.beforeAddress
  exact ⟨rfl, rfl⟩

theorem makes_finishUpdate :
    (finishUpdate s d built).run.Makes fun c => ¬ c.BindsAddress ∧ ¬ c.UnbindsAddress := by
  have revert : (revertSnapshot s d).run.Makes fun c => ¬ c.BindsAddress ∧ ¬ c.UnbindsAddress :=
    makes_revertSnapshot.mono fun c h => h.not_onAddress (by decide)
  exact Program.Makes.run_bind revert fun _ => trivial

/-- **An address is unbound only to make room.** `es` are the exchanges of an update from the world
`w`. -/
structure Unbinding (t : Tuning) (s : InstanceState) (d : InstanceSpec) (p : Provider σ)
    (w : World σ) (es : List Exchange) : Prop where
  /-- No more than one address is unbound. -/
  once : ∀ before e after, es = before ++ e :: after → e.call.UnbindsAddress →
    ∀ e' ∈ before ++ after, ¬ e'.call.UnbindsAddress
  /-- It is unbound before another is bound. -/
  first : ∀ before e after, es = before ++ e :: after → e.call.UnbindsAddress →
    ∀ e' ∈ before, ¬ e'.call.BindsAddress
  /-- It is unbound only if it is to change, from the port that was tracked for its network before
  the update. -/
  tracked : ∀ e ∈ es, ∀ portId, e.call = .detachFloatingIp portId →
    s.floatingIp ≠ d.floatingIp ∧ portId ≠ "" ∧ ∃ previous a, s.floatingIp = some previous ∧
      attachedTo? s.networks previous.networkId = some a ∧ a.portId = portId
  /-- If there is nothing to unbind after all, the update goes on to the binding. -/
  passes : ∀ before start region portId e after,
    es = before ++ ⟨start, region, .detachFloatingIp portId, .error e⟩ :: after →
    e.isNotFound = true → ∃ built w', Succeeds p w (Reconciler.updateUnbound t s d) built w'
      (before ++ [⟨start, region, .detachFloatingIp portId, .error e⟩])

/-- Where nothing is unbound there is nothing to see to. -/
theorem unbinding_of_quiet (quiet : ∀ e ∈ es, ¬ e.call.UnbindsAddress) :
    Unbinding t s d p w es where
  once before e after hes he := absurd he (quiet e (by simp [hes]))
  first before e after hes he := absurd he (quiet e (by simp [hes]))
  tracked e he portId hcall := absurd (by rw [hcall]; trivial) (quiet e he)
  passes before start region portId e after hes :=
    absurd trivial (quiet ⟨start, region, .detachFloatingIp portId, .error e⟩ (by simp [hes]))

theorem unbinding_of_run {r : Option (Except Failure Unit)} {before run after : List Exchange}
    (hbefore : ∀ e ∈ before, ¬ e.call.BindsAddress ∧ ¬ e.call.UnbindsAddress)
    (hrun : UnbindRun s d r run) (hafter : ∀ e ∈ after, ¬ e.call.UnbindsAddress)
    (goesOn : r = some (.ok ()) →
      ∃ built w', Succeeds p w (updateUnbound t s d) built w' (before ++ run)) :
    Unbinding t s d p w (before ++ (run ++ after)) := by
  cases hrun with
  | nothing =>
    refine unbinding_of_quiet fun e he => ?_
    rcases List.mem_append.1 he with he | he
    · exact (hbefore e he).2
    · exact hafter e he
  | @tried previous a start o _ changes was attached passes =>
    -- An exchange that unbinds an address is the one of the run.
    have place {before' after' : List Exchange} {e : Exchange}
        (hes : before ++ ([⟨start, s.region, .detachFloatingIp a.portId, o⟩] ++ after) =
          before' ++ e :: after') (he : e.call.UnbindsAddress) :
        before' = before ∧ e = ⟨start, s.region, .detachFloatingIp a.portId, o⟩ ∧
          after' = after := by
      obtain ⟨between, rfl, hlater⟩ | ⟨later, hfirst, rfl⟩ := append_eq_append_cons hes
      · obtain ⟨last, rfl, hlast⟩ | ⟨later, hone, rfl⟩ := append_eq_append_cons hlater
        · exact absurd he (hafter e (by simp [hlast]))
        · obtain ⟨rfl, rfl, rfl⟩ := singleton_eq_append_cons hone
          exact ⟨List.append_nil _, rfl, rfl⟩
      · exact absurd he (hbefore e (by simp [hfirst])).2
    constructor
    case once =>
      intro before' e after' hes he e' he'
      obtain ⟨rfl, -, rfl⟩ := place hes he
      exact (List.mem_append.1 he').elim (fun h => (hbefore e' h).2) (hafter e')
    case first =>
      intro before' e after' hes he e' he'
      obtain ⟨rfl, -, -⟩ := place hes he
      exact (hbefore e' he').1
    case tracked =>
      intro e he portId hcall
      obtain ⟨before', after', hes⟩ := List.append_of_mem he
      obtain ⟨-, rfl, -⟩ := place hes (by rw [hcall]; trivial)
      obtain rfl := Call.detachFloatingIp.inj hcall
      refine ⟨changes, ?_, previous, a, was, attached, rfl⟩
      exact of_decide_eq_true (Option.filter_eq_some_iff.1 attached).2
    case passes =>
      intro before' start' region portId e after' hes notFound
      obtain ⟨rfl, heq, rfl⟩ := place hes trivial
      simp only [Exchange.mk.injEq, Call.detachFloatingIp.injEq] at heq
      obtain ⟨rfl, rfl, rfl, ho⟩ := heq
      obtain rfl := eq_of_heq ho
      refine goesOn (passes fun e' he' => ?_)
      obtain rfl := Except.error.inj he'
      exact notFound

theorem gives_bindNext_quiet (hregion : s.region = built.region) (hid : s.id = built.id) :
    Gives (bindNext s d built) fun _ es => ∀ e ∈ es, ¬ e.call.UnbindsAddress := by
  have finish : Gives (finishUpdate s d built) fun _ es => ∀ e ∈ es, ¬ e.call.UnbindsAddress :=
    fun σ p w e he => (makes_finishUpdate.call_mem he).2
  rw [bindNext]
  cases s.nextFloatingIp d with
  | none => exact finish
  | some b =>
    have binds : Gives (bindNextFloatingIp s built.networks b) fun _ es =>
        ∀ e ∈ es, ¬ e.call.UnbindsAddress := by
      refine (gives_bindNextFloatingIp hregion hid).mono fun r es run e he unbinds => ?_
      have sees := run.calls e he
      cases hcall : e.call <;> simp_all [Call.SeesToAddress, Call.UnbindsAddress]
    refine binds.bind (fun _ first hfirst => ?_) (fun _ _ h => h) fun _ h => h
    exact finish.mono fun _ last hlast e he => (List.mem_append.1 he).elim (hfirst e) (hlast e)

/-- What every update unbinds. -/
theorem unbinding_updateInstance :
    Unbinding t s d p w ((updateInstance t s d).run.trace p w) := by
  have whole : updateInstance t s d = (do
      let built ← beforeAddress t s d
      unbindChanged s d
      bindNext s d built) := by
    rw [updateInstance_eq, updateUnbound]
    simp only [bind_assoc, pure_bind]
  have quiet : ∀ e ∈ (beforeAddress t s d).run.trace p w,
      ¬ e.call.BindsAddress ∧ ¬ e.call.UnbindsAddress := fun e he => makes_beforeAddress.call_mem he
  rw [whole, trace_run_bind]
  rcases hbuilt : (beforeAddress t s d).run.exec p w with ⟨_ | (e | built), w₁⟩
  · rw [List.append_nil]
    exact unbinding_of_quiet fun e he => (quiet e he).2
  · rw [List.append_nil]
    exact unbinding_of_quiet fun e he => (quiet e he).2
  · have before : Succeeds p w (beforeAddress t s d) built w₁ _ := ⟨hbuilt, rfl⟩
    obtain ⟨_, _, _, _, built_eq⟩ := before.beforeAddress
    dsimp only
    rw [trace_run_bind]
    refine unbinding_of_run quiet (gives_unbindChanged σ p w₁) ?_ fun hr => ?_
    · split
      · exact gives_bindNext_quiet (by rw [built_eq]; rfl) (by rw [built_eq]) σ p _
      · exact fun e he => absurd he List.not_mem_nil
    · have unbind : Succeeds p w₁ (do unbindChanged s d; return built) built _ _ :=
        (succeeds_of_exec hr).bind (succeeds_pure_iff.2 ⟨rfl, rfl, rfl⟩)
      rw [List.append_nil] at unbind
      exact ⟨built, _, before.bind unbind⟩

end Reconciler
