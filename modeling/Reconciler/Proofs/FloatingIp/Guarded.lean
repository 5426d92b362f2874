import Reconciler.Proofs.Creation.Course
import Reconciler.Proofs.FloatingIp.Unbinding
import Reconciler.Proofs.Update.Conduct
import Reconciler.Proofs.Update.PowerCycle

/-!
# When a floating address is bound

Every creation and every update binds a floating address only if nothing speaks against it, and to
the port that the instance has by then.

## What is proved

* `floatingIp_guarded`: what every creation and every update guards.

## Honest scope

That an address is wanted on a network without a port is reported only if the operation comes to the
binding. An update that fails before, in a step that makes no call, reports that failure instead:
`missingAttachment_not_owed`.
-/

namespace Reconciler

variable {σ : Type} {p : Provider σ} {w w' : World σ} {t : Tuning} {s built : InstanceState}
  {d : InstanceSpec} {b : FloatingIpBinding} {es : List Exchange}

/-! ### Creations -/

theorem Furnishing.not_bindsAddress {r : Option (Except Failure InstanceState)}
    (h : Furnishing d s r es) : ∀ e ∈ es, ¬ e.call.BindsAddress := by
  have asking {builds : List Exchange} (asks : ∀ e ∈ builds, e.call.AsksStatus) :
      ∀ e ∈ builds, ¬ e.call.BindsAddress := by
    intro e he binds
    have status := asks e he
    cases hcall : e.call <;> simp_all [Call.AsksStatus, Call.BindsAddress]
  have listing {listings : List Exchange} (lists : ∀ e ∈ listings, e.call = .listNetworks) :
      ∀ e ∈ listings, ¬ e.call.BindsAddress := by
    intro e he
    rw [lists e he]
    exact id
  intro e he
  cases h with
  | building asks _ => exact asking asks e he
  | connecting asks _ lists _ =>
    rcases List.mem_append.1 he with he | he
    · exact asking asks e he
    · exact listing lists e he
  | attaching asks _ lists _ run =>
    rcases List.mem_append.1 he with he | he
    · exact asking asks e he
    rcases List.mem_append.1 he with he | he
    · exact listing lists e he
    · obtain ⟨v, -, hcall⟩ := run.attaches e he
      rw [hcall]
      exact id

theorem gives_createUnbound_quiet :
    Gives (createUnbound t d) fun _ es => ∀ e ∈ es, ¬ e.call.BindsAddress := by
  rw [createUnbound]
  cases d.revertToSnapshotId with
  | some snapshotId => exact fun σ p w e he => absurd he List.not_mem_nil
  | none =>
    have order : Gives (ask d.region (.createServer (creationOrder d)) "create instance")
        fun _ es => ∀ e ∈ es, ¬ e.call.BindsAddress :=
      gives_ask (fun _ _ => by simp [Call.BindsAddress]) fun _ _ => by simp [Call.BindsAddress]
    refine order.bind (fun created first hfirst => ?_) (fun _ _ h => h) fun _ h => h
    refine gives_furnish.mono fun r es furnishing e he => ?_
    rcases List.mem_append.1 he with he | he
    · exact hfirst e he
    · exact furnishing.not_bindsAddress e he

/-- The last step of a creation binds the address that is wanted. -/
theorem gives_bindWanted_bindsFirst (hb : d.floatingIp = some b) :
    Gives (bindWanted d built) (BindsFirst true (.incomplete built) built b) := by
  rw [bindWanted, hb]
  refine (gives_within gives_bindInitialFloatingIp).bind (fun u es run => ?_) ?_ fun es h => ?_
  · refine gives_pure ⟨some (.ok u), es, [], rfl, run, fun _ h => absurd h List.not_mem_nil, ?_⟩
    simp
  · rintro _ es ⟨cause, rfl, run⟩
    refine ⟨some (.error cause), es, [], (List.append_nil es).symm, run,
      fun _ h => absurd h List.not_mem_nil, fun cause' h => ?_⟩
    obtain rfl := Except.error.inj (Option.some.inj h)
    exact ⟨rfl, rfl⟩
  · cases h

/-! ### Updates -/

theorem UnbindRun.not_bindsAddress {r : Option (Except Failure Unit)} (h : UnbindRun s d r es) :
    ∀ e ∈ es, ¬ e.call.BindsAddress := by
  intro e he
  cases h with
  | nothing => exact absurd he List.not_mem_nil
  | tried =>
    rw [List.mem_singleton.1 he]
    exact id

theorem gives_updateUnbound_quiet :
    Gives (updateUnbound t s d) fun _ es => ∀ e ∈ es, ¬ e.call.BindsAddress := by
  have before :
      Gives (Reconciler.beforeAddress t s d) fun _ es => ∀ e ∈ es, ¬ e.call.BindsAddress :=
    fun σ p w e he => (makes_beforeAddress.call_mem he).1
  have unbind : Gives (unbindChanged s d) fun _ es => ∀ e ∈ es, ¬ e.call.BindsAddress :=
    gives_unbindChanged.mono fun _ _ h => h.not_bindsAddress
  refine before.bind (fun built first hfirst => ?_) (fun _ _ h => h) fun _ h => h
  have both {last : List Exchange} (hlast : ∀ e ∈ last, ¬ e.call.BindsAddress) :
      ∀ e ∈ first ++ last, ¬ e.call.BindsAddress :=
    fun e he => (List.mem_append.1 he).elim (hfirst e) (hlast e)
  refine unbind.bind (fun _ last hlast => gives_pure ?_) (fun _ _ hlast => both hlast)
    fun _ hlast => both hlast
  rw [List.append_nil]
  exact both hlast

/-- From the binding on an update binds the next address first, if there is one. -/
theorem gives_bindNext_bindsFirst (hb : s.nextFloatingIp d = some b)
    (hregion : s.region = built.region) (hid : s.id = built.id) :
    Gives (bindNext s d built) (BindsFirst false (fun cause => cause) built b) := by
  have rest : Gives (finishUpdate s d built) fun _ es => ∀ e ∈ es, ¬ e.call.BindsAddress :=
    fun σ p w e he => (makes_finishUpdate.call_mem he).1
  rw [bindNext, hb]
  refine (gives_bindNextFloatingIp hregion hid).bind (fun u run hrun => ?_) ?_ fun es h => ?_
  · exact rest.mono fun r after quiet =>
      ⟨some (.ok u), run, after, rfl, hrun, quiet, by simp⟩
  · intro cause run hrun
    refine ⟨some (.error cause), run, [], (List.append_nil run).symm, hrun,
      fun _ h => absurd h List.not_mem_nil, fun cause' h => ?_⟩
    obtain rfl := Except.error.inj (Option.some.inj h)
    exact ⟨rfl, rfl⟩
  · cases h

/-! ### Both -/

/-- **The floating address of every creation and every update is guarded**, whoever answers the
calls. -/
theorem floatingIp_guarded (t : Tuning) (p : Provider σ) (w : World σ) :
    (∀ d, Guarded true d.floatingIp (createUnbound t d) .incomplete p w
      ((createInstance t d).run.exec p w).1 ((createInstance t d).run.trace p w)) ∧
    ∀ s d, Guarded false (s.nextFloatingIp d) (updateUnbound t s d) (fun _ cause => cause) p w
        ((updateInstance t s d).run.exec p w).1 ((updateInstance t s d).run.trace p w) ∧
      Unbinding t s d p w ((updateInstance t s d).run.trace p w) := by
  refine ⟨fun d => ?_, fun s d => ⟨?_, unbinding_updateInstance⟩⟩
  · rw [createInstance_eq]
    refine guarded_bind gives_createUnbound_quiet (fun hnone built => ?_) fun b hb built _ _ _ => ?_
    · rw [bindWanted, hnone]
      trivial
    · exact gives_bindWanted_bindsFirst hb
  · rw [updateInstance_eq]
    refine guarded_bind gives_updateUnbound_quiet (fun hnone built => ?_)
      fun b hb built _ _ prepares => ?_
    · rw [bindNext, hnone]
      exact makes_finishUpdate.mono fun _ h => h.1
    · obtain ⟨hregion, hid⟩ := prepares.updateUnbound
      exact gives_bindNext_bindsFirst hb hregion hid

/-! ### An update that does not come to the floating address -/

/-- The address is wanted on a network that the instance is not attached to, and no call fails. But
the root disk is to shrink, which is refused before the update comes to the floating address. -/
theorem missingAttachment_not_owed :
    ¬ ∀ (t : Tuning) (s : InstanceState) (d : InstanceSpec) (p : Provider Cloud)
        (w w' : World Cloud) (b : FloatingIpBinding) (status : Status)
        (networks : List NetworkAttachment) (es : List Exchange),
        s.nextFloatingIp d = some b →
        Succeeds p w (beforeRootDisk t s d) (status, networks) w' es →
        attachedTo? networks b.networkId = none →
        (∀ e ∈ (updateInstance t s d).run.trace p w, e.failure? = none) →
        ((updateInstance t s d).run.exec p w).1 =
          some (.error (.missingAttachment b.networkId s.id)) := by
  intro owed
  let s : InstanceState := { id := "vm", applied := { diskSize := 10 } }
  let d : InstanceSpec := { diskSize := 5, floatingIp := some ⟨"fip-1", "net-b"⟩ }
  have silent : (updateInstance {} s d).run.trace Cloud.provider ⟨{}, 0⟩ = [] := rfl
  have missing := owed {} s d Cloud.provider ⟨{}, 0⟩ ⟨{}, 0⟩ ⟨"fip-1", "net-b"⟩ s.status [] [] rfl
    ⟨rfl, rfl⟩ rfl fun e he => absurd (silent ▸ he) List.not_mem_nil
  exact absurd missing (by decide +kernel)

end Reconciler
