import Reconciler.Proofs.FloatingIp.Binding
import Reconciler.Proofs.Lists

/-!
# The guard of a floating address

Creations and updates prepare an instance and then bind a floating address to it, if one is wanted.
They guard it: the instance must have a port on the network that is asked for, and right before the
address is bound the instance is looked for among the public addresses.

## What is proved

* `BindingRun.bound`, `BindingRun.missing_of`, `BindingRun.held_of`, `BindingRun.unlisted_of`: what
  the account of the binding says.
* `guarded_bind`: what a task guards that prepares a state and then binds an address to it.
-/

namespace Reconciler

variable {σ : Type} {p : Provider σ} {w w' : World σ} {built : InstanceState}
  {b : FloatingIpBinding} {mustBeListed : Bool} {es : List Exchange}

/-- The call binds a floating address. -/
def Call.BindsAddress : Call → Prop
  | .attachFloatingIp _ _ => True
  | _ => False

/-! ### The guard -/

/-- **An exchange binds an address right after a look**: the instance was not listed as holding a
public address, and it was listed if it has to be. The address goes to the port that the instance
has on the network asked for. -/
structure BindsAfter (mustBeListed : Bool) (built : InstanceState) (b : FloatingIpBinding)
    (look e : Exchange) : Prop where
  /-- The look right before. -/
  look_eq : ∃ start listing, look = ⟨start, built.region, .listPublicIps, .ok listing⟩ ∧
    publicIpOf listing built.id ≠ some true ∧
    (mustBeListed = true → publicIpOf listing built.id = some false)
  /-- Where the address goes. -/
  call_eq : ∃ target, attachedTo? built.networks b.networkId = some target ∧
    e.region = built.region ∧ e.call = b.callFor built.id target

/-- **A floating address is bound only after a look.** The task prepares a state, binds to it the
address that is `wanted`, if any, and reports a failure to do so as `failing` says; `r` is what it
ends with, and `es` are its exchanges. -/
structure Guarded (mustBeListed : Bool) (wanted : Option FloatingIpBinding)
    (prepare : Task InstanceState) (failing : InstanceState → Failure → Failure) (p : Provider σ)
    (w : World σ) (r : Option (Except Failure InstanceState)) (es : List Exchange) : Prop where
  /-- No more than one address is bound. -/
  once : ∀ before e after, es = before ++ e :: after → e.call.BindsAddress →
    ∀ e' ∈ before ++ after, ¬ e'.call.BindsAddress
  /-- It is the wanted one, and it is bound to the prepared state right after a look. -/
  bound : ∀ before e after, es = before ++ e :: after → e.call.BindsAddress →
    ∃ b built w' prepared look, wanted = some b ∧ Succeeds p w prepare built w' prepared ∧
      before = prepared ++ [look] ∧ BindsAfter mustBeListed built b look e
  /-- Without a port on the network nothing is bound, and the task fails for it. -/
  missing : ∀ b built w' prepared, wanted = some b → Succeeds p w prepare built w' prepared →
    attachedTo? built.networks b.networkId = none →
    es = prepared ∧ (∀ e ∈ es, ¬ e.call.BindsAddress) ∧
      r = some (.error (failing built (.missingAttachment b.networkId built.id)))
  /-- If the instance holds a public address nothing is bound, and the task fails for it. -/
  held : ∀ b built w' prepared start listing after, wanted = some b →
    Succeeds p w prepare built w' prepared →
    es = prepared ++ ⟨start, built.region, .listPublicIps, .ok listing⟩ :: after →
    publicIpOf listing built.id = some true →
    after = [] ∧ (∀ e ∈ es, ¬ e.call.BindsAddress) ∧
      r = some (.error (failing built (publicIpConflict built.id)))
  /-- If it has to be listed and is not, nothing is bound, and the task fails for it. -/
  unlisted : ∀ b built w' prepared start listing after, mustBeListed = true → wanted = some b →
    Succeeds p w prepare built w' prepared →
    es = prepared ++ ⟨start, built.region, .listPublicIps, .ok listing⟩ :: after →
    publicIpOf listing built.id = none →
    after = [] ∧ (∀ e ∈ es, ¬ e.call.BindsAddress) ∧
      r = some (.error (failing built (.missingPublicIpRecord built.id)))

/-- The account of a task that binds an address to a state first. What it does afterwards binds
none, and it does nothing more if the address could not be bound. -/
def BindsFirst (mustBeListed : Bool) (failing : Failure → Failure) (built : InstanceState)
    (b : FloatingIpBinding) (r : Option (Except Failure InstanceState)) (es : List Exchange) :
    Prop :=
  ∃ r' run after, es = run ++ after ∧ BindingRun mustBeListed built b r' run ∧
    (∀ e ∈ after, ¬ e.call.BindsAddress) ∧
    ∀ cause, r' = some (.error cause) → after = [] ∧ r = some (.error (failing cause))

/-! ### The ways of binding an address -/

/-- An address that is bound is bound right after the look, and nothing follows. -/
theorem BindingRun.bound {r : Option (Except Failure Unit)}
    (h : BindingRun mustBeListed built b r es) {before after : List Exchange} {e : Exchange}
    (hes : es = before ++ e :: after) (he : e.call.BindsAddress) :
    after = [] ∧ ∃ look, before = [look] ∧ BindsAfter mustBeListed built b look e := by
  cases h with
  | missing => simp at hes
  | unanswered | unlisted | held =>
    obtain ⟨-, rfl, -⟩ := singleton_eq_append_cons hes
    exact he.elim
  | tried attached free listed =>
    cases before with
    | nil =>
      obtain ⟨rfl, -⟩ := List.cons.inj hes
      exact he.elim
    | cons look before =>
      obtain ⟨rfl, hrest⟩ := List.cons.inj hes
      obtain ⟨rfl, rfl, rfl⟩ := singleton_eq_append_cons hrest
      exact ⟨rfl, _, rfl, ⟨_, _, rfl, free, listed⟩, _, attached, rfl, rfl⟩

theorem BindingRun.missing_of {r : Option (Except Failure Unit)}
    (h : BindingRun mustBeListed built b r es)
    (unattached : attachedTo? built.networks b.networkId = none) :
    es = [] ∧ r = some (.error (.missingAttachment b.networkId built.id)) := by
  cases h with
  | missing => exact ⟨rfl, rfl⟩
  | unanswered attached | held attached | unlisted attached | tried attached =>
    exact absurd (unattached.symm.trans attached) (by simp)

theorem BindingRun.held_of {r : Option (Except Failure Unit)} {start : Instant} {region : Region}
    {listing : List PublicIpRecord} {after : List Exchange}
    (h : BindingRun mustBeListed built b r (⟨start, region, .listPublicIps, .ok listing⟩ :: after))
    (holds : publicIpOf listing built.id = some true) :
    after = [] ∧ r = some (.error (publicIpConflict built.id)) := by
  cases h with
  | unlisted attached must nowhere => exact absurd (nowhere.symm.trans holds) (by simp)
  | held => exact ⟨rfl, rfl⟩
  | tried attached free => exact absurd holds free

theorem BindingRun.unlisted_of {r : Option (Except Failure Unit)} {start : Instant}
    {region : Region} {listing : List PublicIpRecord} {after : List Exchange}
    (h : BindingRun true built b r (⟨start, region, .listPublicIps, .ok listing⟩ :: after))
    (nowhere : publicIpOf listing built.id = none) :
    after = [] ∧ r = some (.error (.missingPublicIpRecord built.id)) := by
  cases h with
  | unlisted => exact ⟨rfl, rfl⟩
  | held attached holds => exact absurd (nowhere.symm.trans holds) (by simp)
  | tried attached free listed => exact absurd (nowhere.symm.trans (listed rfl)) (by simp)

theorem BindingRun.error_of_nil {r : Option (Except Failure Unit)}
    (h : BindingRun mustBeListed built b r []) : ∃ cause, r = some (.error cause) := by
  cases h with
  | missing => exact ⟨_, rfl⟩

/-! ### What a task guards -/

theorem Succeeds.unique {α : Type} {task : Task α} {a a' : α} {w₁ w₂ : World σ}
    {es es' : List Exchange} (h : Succeeds p w task a w₁ es) (h' : Succeeds p w task a' w₂ es') :
    a = a' ∧ w₁ = w₂ ∧ es = es' := by
  have same := h.exec_eq.symm.trans h'.exec_eq
  simp only [Prod.mk.injEq, Option.some.injEq, Except.ok.injEq] at same
  exact ⟨same.1, same.2, h.trace_eq.symm.trans h'.trace_eq⟩

section

variable {wanted : Option FloatingIpBinding} {prepare : Task InstanceState}
  {failing : InstanceState → Failure → Failure} {r : Option (Except Failure InstanceState)}

/-- Where nothing is bound there is nothing to guard, unless the task comes to the binding. -/
theorem guarded_of_quiet (quiet : ∀ e ∈ es, ¬ e.call.BindsAddress)
    (ends : ∀ b built w' prepared, wanted = some b → ¬ Succeeds p w prepare built w' prepared) :
    Guarded mustBeListed wanted prepare failing p w r es where
  once before e after hes he := absurd he (quiet e (by simp [hes]))
  bound before e after hes he := absurd he (quiet e (by simp [hes]))
  missing b built w' prepared hb h _ := absurd h (ends b built w' prepared hb)
  held b built w' prepared _ _ _ hb h _ _ := absurd h (ends b built w' prepared hb)
  unlisted b built w' prepared _ _ _ _ hb h _ _ := absurd h (ends b built w' prepared hb)

theorem guarded_of_prepared {prepared : List Exchange}
    (prepares : Succeeds p w prepare built w' prepared)
    (quiet : ∀ e ∈ prepared, ¬ e.call.BindsAddress)
    (binds : BindsFirst mustBeListed (failing built) built b r es) :
    Guarded mustBeListed (some b) prepare failing p w r (prepared ++ es) := by
  obtain ⟨r', run, rest, rfl, hrun, hrest, hfails⟩ := binds
  -- An exchange that binds an address is one of the run of the binding.
  have place {before after : List Exchange} {e : Exchange}
      (hes : prepared ++ (run ++ rest) = before ++ e :: after) (he : e.call.BindsAddress) :
      ∃ look, before = prepared ++ [look] ∧ after = rest ∧
        BindsAfter mustBeListed built b look e := by
    obtain ⟨before, rfl, hlater⟩ | ⟨after, hfirst, rfl⟩ := append_eq_append_cons hes
    · obtain ⟨before, rfl, hlast⟩ | ⟨after, hbinds, rfl⟩ := append_eq_append_cons hlater
      · exact absurd he (hrest e (by simp [hlast]))
      · obtain ⟨rfl, look, rfl, after⟩ := hrun.bound hbinds he
        exact ⟨look, rfl, rfl, after⟩
    · exact absurd he (quiet e (by simp [hfirst]))
  -- The first exchange after the state is prepared is one of the binding too.
  have begins {look : Exchange} {after : List Exchange}
      (hes : prepared ++ (run ++ rest) = prepared ++ look :: after) :
      ∃ later, run = look :: later ∧ after = later ++ rest := by
    have hlater := List.append_cancel_left hes
    cases run with
    | nil =>
      obtain ⟨cause, hcause⟩ := hrun.error_of_nil
      rw [(hfails cause hcause).1] at hlater
      exact absurd hlater (by simp)
    | cons e later =>
      obtain ⟨rfl, rfl⟩ := List.cons.inj hlater
      exact ⟨later, rfl, rfl⟩
  -- After a look that speaks against it nothing is done.
  have stops {start : Instant} {listing : List PublicIpRecord} {later : List Exchange}
      {cause : Failure} (hlater : run = ⟨start, built.region, .listPublicIps, .ok listing⟩ :: later)
      (ends : later = [] ∧ r' = some (.error cause)) :
      later ++ rest = [] ∧ (∀ e ∈ prepared ++ (run ++ rest), ¬ e.call.BindsAddress) ∧
        r = some (.error (failing built cause)) := by
    obtain ⟨rfl, hcause⟩ := ends
    obtain ⟨rfl, hr⟩ := hfails cause hcause
    refine ⟨rfl, fun e he => ?_, hr⟩
    rcases List.mem_append.1 he with he | he
    · exact quiet e he
    · rw [hlater, List.append_nil, List.mem_singleton] at he
      rw [he]
      exact id
  constructor
  case once =>
    intro before e after hes he e' he'
    obtain ⟨look, rfl, rfl, binds⟩ := place hes he
    obtain ⟨start, listing, rfl, -⟩ := binds.look_eq
    simp only [List.append_assoc, List.mem_append, List.mem_singleton] at he'
    rcases he' with he' | rfl | he'
    · exact quiet e' he'
    · exact id
    · exact hrest e' he'
  case bound =>
    intro before e after hes he
    obtain ⟨look, hbefore, -, binds⟩ := place hes he
    exact ⟨b, built, w', prepared, look, rfl, prepares, hbefore, binds⟩
  case missing =>
    intro _ _ _ _ hb h unattached
    obtain rfl := Option.some.inj hb
    obtain ⟨rfl, rfl, rfl⟩ := prepares.unique h
    obtain ⟨rfl, hcause⟩ := hrun.missing_of unattached
    obtain ⟨rfl, hr⟩ := hfails _ hcause
    rw [List.append_nil, List.append_nil]
    exact ⟨rfl, quiet, hr⟩
  case held =>
    intro _ _ _ _ start listing after hb h hes holds
    obtain rfl := Option.some.inj hb
    obtain ⟨rfl, rfl, rfl⟩ := prepares.unique h
    obtain ⟨later, rfl, rfl⟩ := begins hes
    exact stops rfl (hrun.held_of holds)
  case unlisted =>
    intro _ _ _ _ start listing after must hb h hes nowhere
    obtain rfl := Option.some.inj hb
    obtain ⟨rfl, rfl, rfl⟩ := prepares.unique h
    obtain ⟨later, rfl, rfl⟩ := begins hes
    subst must
    exact stops rfl (hrun.unlisted_of nowhere)

/-- **A task that prepares a state and then binds an address to it** guards the address. -/
theorem guarded_bind {rest : InstanceState → Task InstanceState}
    (quiet : Gives prepare fun _ es => ∀ e ∈ es, ¬ e.call.BindsAddress)
    (unwanted : wanted = none → ∀ built, (rest built).run.Makes fun c => ¬ c.BindsAddress)
    (binds : ∀ b, wanted = some b → ∀ built w' prepared, Succeeds p w prepare built w' prepared →
      Gives (rest built) (BindsFirst mustBeListed (failing built) built b)) :
    Guarded mustBeListed wanted prepare failing p w ((prepare >>= rest).run.exec p w).1
      ((prepare >>= rest).run.trace p w) := by
  rw [exec_run_bind, trace_run_bind]
  have silent : ∀ e ∈ prepare.run.trace p w, ¬ e.call.BindsAddress := quiet σ p w
  have ends (h : ∀ built, (prepare.run.exec p w).1 ≠ some (.ok built)) (b : FloatingIpBinding)
      (built : InstanceState) (w' : World σ) (prepared : List Exchange) (_ : wanted = some b) :
      ¬ Succeeds p w prepare built w' prepared :=
    fun prepares => h built (congrArg Prod.fst prepares.exec_eq)
  rcases hr : prepare.run.exec p w with ⟨_ | (e | built), w'⟩
  · rw [List.append_nil]
    exact guarded_of_quiet silent (ends (by simp [hr]))
  · rw [List.append_nil]
    exact guarded_of_quiet silent (ends (by simp [hr]))
  · have prepares : Succeeds p w prepare built w' (prepare.run.trace p w) := ⟨hr, rfl⟩
    cases hwanted : wanted with
    | none =>
      refine guarded_of_quiet (fun e he => ?_) fun _ _ _ _ h => nomatch h
      rcases List.mem_append.1 he with he | he
      · exact silent e he
      · exact (unwanted hwanted built).call_mem he
    | some b => exact guarded_of_prepared prepares silent (binds b hwanted _ _ _ prepares σ p w')

end

end Reconciler
