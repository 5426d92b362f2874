import Reconciler.Lifecycle.Basic
import Mathlib.Tactic.Common
import Mathlib.Tactic.Tauto

/-!
# Runs of tasks

What is said of a task is said of its runs. `Succeeds` is a run that ends with a value: the value,
the world it ends in, and the exchanges it makes on the way. Each way to build a task has one
equivalence for it, so that a run of a long task falls apart into the runs of its steps, and is put
together from them.

`Leaves` looks at every run: what holds of the store when the task ends with a value, and what holds
when it does not. `Program.Makes` says which calls a program can make at all, whatever it is
answered.

## What is proved

* `succeeds_bind_iff`, `succeeds_ask_iff`, `succeeds_pure_iff`: the runs of composed tasks.
* `leaves_bind_iff`: the same for runs that may fail.
* `Program.Makes.exec`: a run keeps what the calls that the program makes keep.
* `Program.Makes.trace`: each exchange of a run is one of the calls that the program makes, answered
  in a store that keeps what those calls keep.
-/

namespace Reconciler

variable {α β σ : Type}

/-! ### Runs that succeed -/

/-- **A task succeeds**: run by the provider `p` from the world `w`, it ends with the value `a` in
the world `w'`, and `es` are its exchanges. -/
structure Succeeds (p : Provider σ) (w : World σ) (task : Task α) (a : α) (w' : World σ)
    (es : List Exchange) : Prop where
  /-- What the task ends with, and where. -/
  exec_eq : task.run.exec p w = (some (.ok a), w')
  /-- The calls that are made. -/
  trace_eq : task.run.trace p w = es

variable {p : Provider σ} {w w' : World σ} {es : List Exchange}

/-- A run whose value is known is a run that succeeds. -/
theorem succeeds_of_exec {task : Task α} {a : α}
    (h : (task.run.exec p w).1 = some (.ok a)) :
    Succeeds p w task a (task.run.exec p w).2 (task.run.trace p w) :=
  ⟨Prod.ext h rfl, rfl⟩

/-- A run goes on where its first part ended. -/
theorem exec_bind_of_exec {q : Program β} {f : β → Program α} {b : β}
    (h : q.exec p w = (some b, w')) : (q.bind f).exec p w = (f b).exec p w' := by
  rw [Program.exec_bind, h]

theorem trace_bind_of_exec {q : Program β} {f : β → Program α} {b : β}
    (h : q.exec p w = (some b, w')) :
    (q.bind f).trace p w = q.trace p w ++ (f b).trace p w' := by
  rw [Program.trace_bind, h]

/-- A run goes on with what is answered to its first call. -/
theorem exec_request_bind {region : Region} {call : Call} {f : Outcome call → Program α} :
    ((Program.request region call).bind f).exec p w =
      (f (w.outcome p region call)).exec p (w.afterCall p region call) := rfl

theorem trace_request_bind {region : Region} {call : Call} {f : Outcome call → Program α} :
    ((Program.request region call).bind f).trace p w =
      ⟨w.now, region, call, w.outcome p region call⟩ ::
        (f (w.outcome p region call)).trace p (w.afterCall p region call) := rfl

/-- A task that begins with a program goes on with its value. -/
theorem run_liftM_bind (q : Program β) (f : β → Task α) :
    ((liftM q : Task β) >>= f).run = q.bind fun b => (f b).run := by
  show (q.bind fun b => Program.pure (Except.ok b)).bind _ = _
  rw [Program.bind_assoc']
  rfl

/-- What is made of the value of a task in the end is made of what it ends with. -/
theorem run_bind_pure (x : Task α) (f : α → β) :
    (x >>= fun a => pure (f a)).run = x.run.bind fun r => .pure (r.map f) :=
  congrArg x.run.bind (funext fun r => by cases r <;> rfl)

@[simp] theorem exec_run_bind (x : Task α) (f : α → Task β) :
    (x >>= f).run.exec p w =
      match x.run.exec p w with
      | (some (.ok a), w') => (f a).run.exec p w'
      | (some (.error e), w') => (some (.error e), w')
      | (none, w') => (none, w') := by
  rw [ExceptT.run_bind]
  show (x.run.bind _).exec p w = _
  rw [Program.exec_bind]
  split
  · rename_i r w' h
    rw [h]
    cases r <;> rfl
  · rename_i w' h
    rw [h]

@[simp] theorem trace_run_bind (x : Task α) (f : α → Task β) :
    (x >>= f).run.trace p w = x.run.trace p w ++
      match x.run.exec p w with
      | (some (.ok a), w') => (f a).run.trace p w'
      | _ => [] := by
  rw [ExceptT.run_bind]
  show (x.run.bind _).trace p w = _
  rw [Program.trace_bind]
  congr 1
  split
  · rename_i r w' h
    rw [h]
    cases r <;> rfl
  · rename_i w' h
    rw [h]

theorem succeeds_pure_iff {a b : α} :
    Succeeds p w (pure a) b w' es ↔ b = a ∧ w' = w ∧ es = [] := by
  constructor
  · rintro ⟨hx, ht⟩
    change (some (Except.ok a), w) = (some (Except.ok b), w') at hx
    simp only [Prod.mk.injEq, Option.some.injEq, Except.ok.injEq] at hx
    exact ⟨hx.1.symm, hx.2.symm, ht.symm⟩
  · rintro ⟨rfl, rfl, rfl⟩
    exact ⟨rfl, rfl⟩

theorem not_succeeds_throw {e : Failure} {a : α} : ¬ Succeeds p w (throw e) a w' es := by
  rintro ⟨hx, -⟩
  change (some (Except.error e), w) = (some (Except.ok a), w') at hx
  simp at hx

/-- Two tasks in a row succeed exactly when the first does and then the second. -/
theorem succeeds_bind_iff {x : Task α} {f : α → Task β} {b : β} :
    Succeeds p w (x >>= f) b w' es ↔
      ∃ a w₁ es₁ es₂, Succeeds p w x a w₁ es₁ ∧ Succeeds p w₁ (f a) b w' es₂ ∧
        es = es₁ ++ es₂ := by
  constructor
  · rintro ⟨hx, ht⟩
    rw [exec_run_bind] at hx
    rw [trace_run_bind] at ht
    split at hx
    · rename_i a w₁ h
      rw [h] at ht
      exact ⟨a, w₁, _, _, ⟨h, rfl⟩, ⟨hx, rfl⟩, ht.symm⟩
    · simp at hx
    · simp at hx
  · rintro ⟨a, w₁, es₁, es₂, ⟨hx, rfl⟩, ⟨hf, rfl⟩, rfl⟩
    refine ⟨?_, ?_⟩
    · rw [exec_run_bind, hx]
      exact hf
    · rw [trace_run_bind, hx]

theorem Succeeds.bind {x : Task α} {f : α → Task β} {a : α} {b : β} {w₁ : World σ}
    {es₁ es₂ : List Exchange} (hx : Succeeds p w x a w₁ es₁) (hf : Succeeds p w₁ (f a) b w' es₂) :
    Succeeds p w (x >>= f) b w' (es₁ ++ es₂) :=
  succeeds_bind_iff.2 ⟨a, w₁, es₁, es₂, hx, hf, rfl⟩

/-- The exchanges of two tasks in a row, if the first succeeds. -/
theorem Succeeds.trace_bind {x : Task α} {f : α → Task β} {a : α} {w₁ : World σ}
    {es : List Exchange} (h : Succeeds p w x a w₁ es) :
    (x >>= f).run.trace p w = es ++ (f a).run.trace p w₁ := by
  rw [trace_run_bind, h.exec_eq, h.trace_eq]

/-- What is made of a value in the end takes no exchange. -/
theorem trace_bind_pure (x : Task α) (f : α → β) :
    (x >>= fun a => pure (f a)).run.trace p w = x.run.trace p w := by
  rw [trace_run_bind]
  rcases x.run.exec p w with ⟨_ | (e | a), w'⟩ <;> exact List.append_nil _

theorem exec_run_ask {region : Region} {c : Call} {action : String} :
    (ask region c action).run.exec p w =
      match w.outcome p region c with
      | .ok a => (some (.ok a), w.afterCall p region c)
      | .error e => (some (.error (.remote action e)), w.afterCall p region c) := by
  show ((Program.call region c .pure).bind _).exec p w = _
  rw [Program.exec_bind, Program.exec_call, Program.exec_pure]
  cases w.outcome p region c <;> rfl

theorem trace_run_ask {region : Region} {c : Call} {action : String} :
    (ask region c action).run.trace p w = [⟨w.now, region, c, w.outcome p region c⟩] := by
  have call : (Program.call region c .pure).trace p w = [⟨w.now, region, c, w.outcome p region c⟩] :=
    rfl
  show ((Program.call region c .pure).bind _).trace p w = _
  rw [Program.trace_bind, Program.exec_call, Program.exec_pure, call]
  cases w.outcome p region c <;> rfl

/-- A call made for an action succeeds exactly when it is answered. -/
theorem succeeds_ask_iff {region : Region} {c : Call} {action : String} {a : c.Answer} :
    Succeeds p w (ask region c action) a w' es ↔
      w.outcome p region c = .ok a ∧ w' = w.afterCall p region c ∧
        es = [⟨w.now, region, c, .ok a⟩] := by
  constructor
  · rintro ⟨hx, ht⟩
    rw [exec_run_ask] at hx
    rw [trace_run_ask] at ht
    cases h : w.outcome p region c with
    | ok b =>
      rw [h] at hx ht
      simp only [Prod.mk.injEq, Option.some.injEq, Except.ok.injEq] at hx
      obtain ⟨rfl, rfl⟩ := hx
      exact ⟨rfl, rfl, ht.symm⟩
    | error e =>
      rw [h] at hx
      simp at hx
  · rintro ⟨h, rfl, rfl⟩
    refine ⟨?_, ?_⟩
    · rw [exec_run_ask, h]
    · rw [trace_run_ask, h]

/-! ### Every run -/

/-- **What every run of a task leaves**: `done` holds of the value it ends with and of the world
there, or, if it ends without a value, `broken` holds of the world. -/
def Leaves (p : Provider σ) (w : World σ) (task : Task α) (done : α → World σ → Prop)
    (broken : World σ → Prop) : Prop :=
  match task.run.exec p w with
  | (some (.ok a), w') => done a w'
  | (_, w') => broken w'

variable {done : α → World σ → Prop} {broken : World σ → Prop}

theorem leaves_bind_iff {x : Task α} {f : α → Task β} {done : β → World σ → Prop} :
    Leaves p w (x >>= f) done broken ↔
      Leaves p w x (fun a w₁ => Leaves p w₁ (f a) done broken) broken := by
  unfold Leaves
  rw [exec_run_bind]
  rcases x.run.exec p w with ⟨_ | (e | a), w₁⟩ <;> rfl

theorem Leaves.mono {x : Task α} {done' : α → World σ → Prop} {broken' : World σ → Prop}
    (h : Leaves p w x done broken) (hd : ∀ a w', done a w' → done' a w')
    (hb : ∀ w', broken w' → broken' w') : Leaves p w x done' broken' := by
  unfold Leaves at *
  rcases hr : x.run.exec p w with ⟨_ | (e | a), w₁⟩
  all_goals rw [hr] at h
  · exact hb _ h
  · exact hb _ h
  · exact hd _ _ h

theorem Leaves.and {x : Task α} {done' : α → World σ → Prop} {broken' : World σ → Prop}
    (h : Leaves p w x done broken) (h' : Leaves p w x done' broken') :
    Leaves p w x (fun a w' => done a w' ∧ done' a w') fun w' => broken w' ∧ broken' w' := by
  unfold Leaves at *
  rcases hr : x.run.exec p w with ⟨_ | (e | a), w₁⟩
  all_goals
    rw [hr] at h h'
    exact ⟨h, h'⟩

/-- What every run leaves, a run that succeeds leaves. -/
theorem Leaves.of_succeeds {x : Task α} {a : α} (h : Leaves p w x done broken)
    (hs : Succeeds p w x a w' es) : done a w' := by
  unfold Leaves at h
  rw [hs.exec_eq] at h
  exact h

/-- What every run leaves, a run that fails leaves. -/
theorem Leaves.of_fails {x : Task α} {e : Failure} (h : Leaves p w x done broken)
    (hx : x.run.exec p w = (some (.error e), w')) : broken w' := by
  unfold Leaves at h
  rw [hx] at h
  exact h

/-! ### The calls that a program can make -/

/-- Whatever it is answered, the program makes only calls that are `allowed`. -/
def Program.Makes (allowed : Call → Prop) : Program α → Prop
  | .pure _ => True
  | .call _ c k => allowed c ∧ ∀ o, (k o).Makes allowed
  | .now k => ∀ t, (k t).Makes allowed
  | .sleep _ q => q.Makes allowed
  | .unfinished => True

/-- Any program makes some calls or other. -/
theorem makes_any (q : Program α) : q.Makes fun _ => True := by
  induction q with
  | pure a => trivial
  | call r c k ih => exact ⟨trivial, ih⟩
  | now k ih => exact ih
  | sleep d q ih => exact ih
  | unfinished => trivial

namespace Program.Makes

variable {allowed : Call → Prop}

theorem bind {q : Program α} {f : α → Program β} (hq : q.Makes allowed)
    (hf : ∀ a, (f a).Makes allowed) : (q.bind f).Makes allowed := by
  induction q with
  | pure a => exact hf a
  | call r c k ih => exact ⟨hq.1, fun o => ih o (hq.2 o)⟩
  | now k ih => exact fun t => ih t (hq t)
  | sleep d q ih => exact ih hq
  | unfinished => trivial

theorem mono {allowed' : Call → Prop} {q : Program α} (hq : q.Makes allowed)
    (h : ∀ c, allowed c → allowed' c) : q.Makes allowed' := by
  induction q with
  | pure a => trivial
  | call r c k ih => exact ⟨h c hq.1, fun o => ih o (hq.2 o)⟩
  | now k ih => exact fun t => ih t (hq t)
  | sleep d q ih => exact ih hq
  | unfinished => trivial

theorem run_bind {x : Task α} {f : α → Task β} (hx : x.run.Makes allowed)
    (hf : ∀ a, (f a).run.Makes allowed) : (x >>= f).run.Makes allowed := by
  refine hx.bind fun r => ?_
  cases r with
  | ok a => exact hf a
  | error e => trivial

theorem ite {P : Prop} [Decidable P] {q q' : Program α} (hq : q.Makes allowed)
    (hq' : q'.Makes allowed) : (if P then q else q').Makes allowed := by
  split_ifs
  · exact hq
  · exact hq'

theorem run_ask {region : Region} {c : Call} {action : String} (h : allowed c) :
    (ask region c action).run.Makes allowed := by
  refine ⟨h, fun o => ?_⟩
  cases o <;> trivial

/-- What each call keeps, a run keeps. -/
theorem exec (kept : σ → Prop)
    (keeps : ∀ s now region c, allowed c → kept s → kept (p.answer s now region c).2)
    {q : Program α} (hq : q.Makes allowed) {w : World σ} (hw : kept w.store) :
    kept (q.exec p w).2.store := by
  induction q generalizing w with
  | pure a => exact hw
  | call r c k ih => exact ih _ (hq.2 _) (keeps _ _ _ _ hq.1 hw)
  | now k ih => exact ih _ (hq _) hw
  | sleep d q ih => exact ih hq hw
  | unfinished => exact hw

/-- Each exchange of a run is an allowed call, answered in a store that has what each call keeps. -/
theorem trace (kept : σ → Prop)
    (keeps : ∀ s now region c, allowed c → kept s → kept (p.answer s now region c).2)
    {q : Program α} (hq : q.Makes allowed) {w : World σ} (hw : kept w.store) {e : Exchange}
    (he : e ∈ q.trace p w) :
    allowed e.call ∧ ∃ v : World σ, kept v.store ∧ e.outcome = v.outcome p e.region e.call := by
  induction q generalizing w with
  | pure a => simp [Program.trace] at he
  | call r c k ih =>
    rcases List.mem_cons.1 he with rfl | he
    · exact ⟨hq.1, w, hw, rfl⟩
    · exact ih _ (hq.2 _) (keeps _ _ _ _ hq.1 hw) he
  | now k ih => exact ih _ (hq _) hw he
  | sleep d q ih => exact ih (w := w.afterSleep d) hq hw he
  | unfinished => simp [Program.trace] at he

/-- What each call keeps, every run of a task leaves. -/
theorem leaves (kept : σ → Prop)
    (keeps : ∀ s now region c, allowed c → kept s → kept (p.answer s now region c).2)
    {x : Task α} (hx : x.run.Makes allowed) (hw : kept w.store) :
    Leaves p w x (fun _ w' => kept w'.store) fun w' => kept w'.store := by
  have h := hx.exec (p := p) kept keeps hw
  unfold Leaves
  rcases hr : x.run.exec p w with ⟨_ | (e | a), w₁⟩ <;> rw [hr] at h <;> exact h

end Program.Makes

end Reconciler
