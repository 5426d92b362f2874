import Reconciler.Proofs.Accounts

/-!
# Programs that go straight through

Most steps of an operation make calls and nothing else: they do not sleep, and they do not look at
the clock. Such a step takes no time beyond that of its answers, it is never left unfinished, and
what it does depends on its answers alone. The failures it may end with are those of its calls and
its own refusals, and never one of a wait or of a creation.

## What is proved

* `GoesStraight.bind` and its companions: one rule for each way to build a task.
* `Program.Straight.gives`, `Program.Straight.now_exec`: a straight program ends with a value, and
  when it began if no answer takes time.
* `Program.Straight.lockstep`, `Program.Straight.exec_eq_of_agrees`: two providers that answer alike
  lead a straight program through the same calls to the same value.
-/

namespace Reconciler

variable {α β σ τ : Type} {allowed : Call → Prop}

/-! ### Straight programs -/

/-- **A program goes straight through**: it makes only calls that are `allowed`, and nothing but
calls, and it ends with a value that is `sound`. -/
def Program.Straight (allowed : Call → Prop) (sound : α → Prop) : Program α → Prop
  | .pure a => sound a
  | .call _ c k => allowed c ∧ ∀ o, (k o).Straight allowed sound
  | .now _ => False
  | .sleep _ _ => False
  | .unfinished => False

/-- The answers of a provider take no time. -/
def Provider.Prompt (p : Provider σ) : Prop :=
  ∀ s now region c, (p.answer s now region c).1.delay = 0

/-- A call that is answered at once leaves the clock alone. -/
@[simp] theorem now_afterCall {p : Provider σ} (prompt : p.Prompt) (w : World σ) (region : Region)
    (c : Call) : (w.afterCall p region c).now = w.now := by
  show w.now + ((p.answer w.store w.now region c).1.delay : Int) = w.now
  rw [prompt]
  exact Int.add_zero w.now

/-- **Two exchanges agree**: if they are of one call, it was answered the same. -/
def Exchange.Agrees (e e' : Exchange) : Prop :=
  e.region = e'.region → e.call = e'.call → HEq e.outcome e'.outcome

namespace Program.Straight

variable {sound : α → Prop} {q : Program α}

theorem bind {f : α → Program β} {sound' : β → Prop} (hq : q.Straight allowed sound)
    (hf : ∀ a, sound a → (f a).Straight allowed sound') :
    (q.bind f).Straight allowed sound' := by
  induction q with
  | pure a => exact hf a hq
  | call r c k ih => exact ⟨hq.1, fun o => ih o (hq.2 o)⟩
  | now k ih => exact hq.elim
  | sleep d q ih => exact hq.elim
  | unfinished => exact hq.elim

/-- **A straight program ends** with a sound value, whoever answers its calls. -/
theorem gives (hq : q.Straight allowed sound) :
    q.Gives fun r _ => ∃ a, r = some a ∧ sound a := by
  intro σ p w
  induction q generalizing w with
  | pure a => exact ⟨a, rfl, hq⟩
  | call r c k ih => exact ih _ (hq.2 _) _
  | now k ih => exact hq.elim
  | sleep d q ih => exact hq.elim
  | unfinished => exact hq.elim

theorem makes (hq : q.Straight allowed sound) : q.Makes allowed := by
  induction q with
  | pure a => trivial
  | call r c k ih => exact ⟨hq.1, fun o => ih o (hq.2 o)⟩
  | now k ih => exact hq.elim
  | sleep d q ih => exact hq.elim
  | unfinished => trivial

/-- If no answer takes time, it ends when it began. -/
theorem now_exec {p : Provider σ} (prompt : p.Prompt) (hq : q.Straight allowed sound)
    (w : World σ) : (q.exec p w).2.now = w.now := by
  induction q generalizing w with
  | pure a => rfl
  | call r c k ih => exact (ih _ (hq.2 _) (w.afterCall p r c)).trans (now_afterCall prompt w r c)
  | now k ih => exact hq.elim
  | sleep d q ih => exact hq.elim
  | unfinished => exact hq.elim

/-- **Two providers that answer alike**, as long as their stores are `related`, lead a straight
program through the same calls to the same value, and their stores stay related. -/
theorem lockstep {p : Provider σ} {p' : Provider τ} {related : σ → τ → Prop}
    (answers : ∀ (w : World σ) (w' : World τ) region c, allowed c → related w.store w'.store →
      w.outcome p region c = w'.outcome p' region c ∧
        related (w.afterCall p region c).store (w'.afterCall p' region c).store)
    (hq : q.Straight allowed sound) {w : World σ} {w' : World τ} (h : related w.store w'.store) :
    (q.exec p w).1 = (q.exec p' w').1 ∧
      related (q.exec p w).2.store (q.exec p' w').2.store ∧
      (q.trace p w).map (·.call) = (q.trace p' w').map (·.call) := by
  induction q generalizing w w' with
  | pure a => exact ⟨rfl, h, rfl⟩
  | call r c k ih =>
    obtain ⟨same, next⟩ := answers w w' r c hq.1 h
    obtain ⟨value, stores, calls⟩ := ih (w.outcome p r c) (hq.2 _) next
    rw [exec_call, exec_call, trace, trace, ← same]
    exact ⟨value, stores, congrArg (c :: ·) calls⟩
  | now k ih => exact hq.elim
  | sleep d q ih => exact hq.elim
  | unfinished => exact hq.elim

/-- **The same answers** lead a straight program through the same calls to the same value. -/
theorem exec_eq_of_agrees {p : Provider σ} {p' : Provider τ}
    (hq : q.Straight allowed sound) {w : World σ} {w' : World τ}
    (agree : ∀ e ∈ q.trace p w, ∀ e' ∈ q.trace p' w', e.Agrees e') :
    (q.exec p w).1 = (q.exec p' w').1 ∧
      (q.trace p w).map (·.call) = (q.trace p' w').map (·.call) := by
  induction q generalizing w w' with
  | pure a => exact ⟨rfl, rfl⟩
  | call r c k ih =>
    have same : w.outcome p r c = w'.outcome p' r c :=
      eq_of_heq (agree _ List.mem_cons_self _ List.mem_cons_self rfl rfl)
    rw [exec_call, exec_call, trace, trace, ← same]
    rw [trace, trace, ← same] at agree
    obtain ⟨value, calls⟩ := ih (w.outcome p r c) (hq.2 _) fun e he e' he' =>
      agree e (List.mem_cons_of_mem _ he) e' (List.mem_cons_of_mem _ he')
    exact ⟨value, congrArg (c :: ·) calls⟩
  | now k ih => exact hq.elim
  | sleep d q ih => exact hq.elim
  | unfinished => exact hq.elim

end Program.Straight

/-- The provider answers a call the same whenever it is asked. -/
def Provider.Steady (p : Provider σ) : Prop :=
  ∀ (w w' : World σ) (region : Region) (c : Call), w.outcome p region c = w'.outcome p region c

/-- Any two exchanges with a steady provider agree. -/
theorem Provider.Steady.agrees {p : Provider σ} (steady : p.Steady) {q : Program α}
    {q' : Program β} {w w' : World σ} {e e' : Exchange} (he : e ∈ q.trace p w)
    (he' : e' ∈ q'.trace p w') : e.Agrees e' := by
  have kept (s : σ) (now : Instant) (region : Region) (c : Call) (_ : True) (_ : True) : True :=
    trivial
  obtain ⟨-, v, -, answer⟩ := (makes_any q).trace (fun _ => True) kept trivial he
  obtain ⟨-, v', -, answer'⟩ := (makes_any q').trace (fun _ => True) kept trivial he'
  obtain ⟨start, region, c, o⟩ := e
  obtain ⟨start', region', c', o'⟩ := e'
  rintro ⟨⟩ ⟨⟩
  exact heq_of_eq ((answer.trans (steady v v' region c)).trans answer'.symm)

/-! ### Straight tasks -/

/-- The failure is neither that of a wait past its deadline nor that of a creation. -/
def Failure.IsPlain : Failure → Prop
  | .timeout _ _ _ => False
  | .incomplete _ _ => False
  | _ => True

/-- **A task goes straight through**, and if it fails, it fails plainly. -/
def GoesStraight (allowed : Call → Prop) (task : Task α) : Prop :=
  task.run.Straight allowed fun r => ∀ e, r = .error e → e.IsPlain

theorem goesStraight_pure (a : α) : GoesStraight allowed (pure a : Task α) :=
  fun _ h => nomatch h

theorem goesStraight_throw {e : Failure} (h : e.IsPlain) :
    GoesStraight allowed (throw e : Task α) := by
  rintro _ ⟨⟩
  exact h

theorem goesStraight_ask {region : Region} {c : Call} {action : String} (h : allowed c) :
    GoesStraight allowed (ask region c action) := by
  refine ⟨h, fun o => ?_⟩
  cases o with
  | ok a => exact goesStraight_pure a
  | error e => exact goesStraight_throw (e := .remote action e) trivial

/-- A call whose outcome a task looks at itself. -/
theorem goesStraight_request {region : Region} {c : Call}
    {f : Outcome c → Program (Except Failure α)} (h : allowed c)
    (hf : ∀ o, GoesStraight allowed (ExceptT.mk (f o))) :
    GoesStraight allowed (ExceptT.mk ((Program.request region c).bind f)) :=
  ⟨h, hf⟩

namespace GoesStraight

theorem bind {x : Task α} {f : α → Task β} (hx : GoesStraight allowed x)
    (hf : ∀ a, GoesStraight allowed (f a)) : GoesStraight allowed (x >>= f) := by
  refine Program.Straight.bind hx fun r hr => ?_
  cases r with
  | ok a => exact hf a
  | error e =>
    rintro _ ⟨⟩
    exact hr e rfl

theorem ite {P : Prop} [Decidable P] {x y : Task α} (hx : GoesStraight allowed x)
    (hy : GoesStraight allowed y) : GoesStraight allowed (if P then x else y) := by
  split_ifs
  · exact hx
  · exact hy

end GoesStraight

/-! ### Straight checks -/

/-- If the check failed, it failed plainly. -/
def Check.FailsPlainly (seen : Check Failure β) : Prop := ∀ e, seen = .failed e → e.IsPlain

theorem Check.failsPlainly_done (v : β) : (Check.done v : Check Failure β).FailsPlainly :=
  fun _ h => nomatch h

theorem Check.failsPlainly_notYet : (Check.notYet : Check Failure β).FailsPlainly :=
  fun _ h => nomatch h

theorem Check.failsPlainly_failed {e : Failure} (h : e.IsPlain) :
    (Check.failed e : Check Failure β).FailsPlainly := by
  rintro _ ⟨⟩
  exact h

section

variable {region : Region} {id : InstanceId} {target : Status} {action : String}

theorem straight_statusCheck : (statusCheck region id target action).Straight (· = .getServer id)
    Check.FailsPlainly := by
  refine ⟨rfl, fun o => ?_⟩
  cases o with
  | error e => exact Check.failsPlainly_failed (e := .remote _ e) trivial
  | ok detail =>
    show Program.Straight _ _ (if (detail : ServerDetail).status = target then _
      else if (detail : ServerDetail).status = .error then _ else _)
    split_ifs
    · exact Check.failsPlainly_done ()
    · exact Check.failsPlainly_failed (e := .transitionedToError _ _) trivial
    · exact Check.failsPlainly_notYet

theorem straight_goneCheck :
    (goneCheck region id).Straight (· = .getServer id) Check.FailsPlainly := by
  refine ⟨rfl, fun o => ?_⟩
  cases o with
  | ok detail => exact Check.failsPlainly_notYet
  | error e =>
    show Program.Straight _ _ (if e.isNotFound then _ else _)
    split_ifs
    · exact Check.failsPlainly_done ()
    · exact Check.failsPlainly_failed (e := .remote _ e) trivial

end

end Reconciler
