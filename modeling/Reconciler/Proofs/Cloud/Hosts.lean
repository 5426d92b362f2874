import Reconciler.Proofs.Cloud.Frames
import Reconciler.Proofs.Runs

/-!
# Providers that answer for a cloud

A host is a provider that answers out of a cloud: each call is carried out on the cloud, or it is
refused and leaves the cloud as it is. The cloud in memory is the host that never refuses a call on
its own, as long as no failure is queued; interrupted at some of its calls it is a host that does.

`Host.Leads` says what the runs of a task make of the cloud. It speaks of clouds alone, so what is
shown of a task in this way holds for every host, whatever its store.

## What is proved

* `Host.Leads.bind`, `Host.Leads.followedBy`, `Host.leads_ask`: what composed tasks lead to.
* `Host.leads_changes`: a task that makes calls of one part changes that part at most.
* `Host.trace_carriedOut`: where the exchanges of a run come from.
-/

namespace Reconciler

variable {α β σ : Type}

/-- **A provider that answers out of a cloud.** -/
structure Host (σ : Type) where
  /-- The provider. -/
  provider : Provider σ
  /-- The cloud that is seen in a store. -/
  view : σ → Cloud
  /-- Which stores it answers from. -/
  steady : σ → Prop
  /-- Whether calls may be refused at will. -/
  fails : Prop
  /-- It can answer again after each call. -/
  steady_answer : ∀ {s : σ} (now : Instant) (region : Region) (c : Call), steady s →
    steady (provider.answer s now region c).2
  /-- A call is carried out, or refused without a trace in the cloud. -/
  answers : ∀ {s : σ} (now : Instant) (region : Region) (c : Call), steady s →
    ((provider.answer s now region c).1.outcome = ((view s).perform c).1 ∧
        view (provider.answer s now region c).2 = ((view s).perform c).2) ∨
      (fails ∧ (∃ e, (provider.answer s now region c).1.outcome = .error e) ∧
        view (provider.answer s now region c).2 = view s)

namespace Host

variable (H : Host σ)

/-- **What a task leads to**: from the cloud `c`, a run that ends with a value ends so that `done`
holds of the value and the cloud, and any other run ends so that `broken` holds of the cloud. -/
def Leads (c : Cloud) (task : Task α) (done : α → Cloud → Prop) (broken : Cloud → Prop) : Prop :=
  ∀ w : World σ, H.steady w.store → H.view w.store = c →
    Leaves H.provider w task (fun a w' => H.steady w'.store ∧ done a (H.view w'.store))
      fun w' => H.steady w'.store ∧ broken (H.view w'.store)

variable {H} {c : Cloud} {done : α → Cloud → Prop} {broken : Cloud → Prop}

theorem leads_iff {task : Task α} :
    H.Leads c task done broken ↔ ∀ w : World σ, H.steady w.store → H.view w.store = c →
      Leaves H.provider w task (fun a w' => H.steady w'.store ∧ done a (H.view w'.store))
        fun w' => H.steady w'.store ∧ broken (H.view w'.store) := Iff.rfl

namespace Leads

theorem mono {x : Task α} {done' : α → Cloud → Prop} {broken' : Cloud → Prop}
    (h : H.Leads c x done broken) (hd : ∀ a d, done a d → done' a d)
    (hb : ∀ d, broken d → broken' d) : H.Leads c x done' broken' := fun w hs hw =>
  (h w hs hw).mono (fun a _ hd' => ⟨hd'.1, hd a _ hd'.2⟩) fun _ hb' => ⟨hb'.1, hb _ hb'.2⟩

theorem bind {x : Task α} {f : α → Task β} {done' : β → Cloud → Prop}
    (h : H.Leads c x done broken) (hf : ∀ a d, done a d → H.Leads d (f a) done' broken) :
    H.Leads c (x >>= f) done' broken := fun w hs hw =>
  leaves_bind_iff.2 ((h w hs hw).mono (fun a w' hd => hf a _ hd.2 w' hd.1 rfl) fun _ hb => hb)

/-- Two tasks in a row, if what the first leaves when it breaks off is what both may leave. -/
theorem followedBy {x : Task α} {f : α → Task β} {done' : β → Cloud → Prop}
    {broken' : Cloud → Prop} (h : H.Leads c x done broken) (hb : ∀ d, broken d → broken' d)
    (hf : ∀ a d, done a d → H.Leads d (f a) done' broken') : H.Leads c (x >>= f) done' broken' :=
  (h.mono (fun _ _ hd => hd) hb).bind hf

theorem and {x : Task α} {done' : α → Cloud → Prop} {broken' : Cloud → Prop}
    (h : H.Leads c x done broken) (h' : H.Leads c x done' broken') :
    H.Leads c x (fun a d => done a d ∧ done' a d) fun d => broken d ∧ broken' d := fun w hs hw =>
  ((h w hs hw).and (h' w hs hw)).mono (fun _ _ hd => ⟨hd.1.1, hd.1.2, hd.2.2⟩)
    fun _ hb => ⟨hb.1.1, hb.1.2, hb.2.2⟩

/-- What a task leads to, and what is known of its runs that succeed. -/
theorem and_of_succeeds {x : Task α} {value : α → Prop} (h : H.Leads c x done broken)
    (hs : ∀ w a w' es, Succeeds H.provider w x a w' es → value a) :
    H.Leads c x (fun a d => done a d ∧ value a) broken := by
  intro w hw hc
  have hl := h w hw hc
  unfold Leaves at hl ⊢
  rcases hr : x.run.exec H.provider w with ⟨_ | (e | a), w'⟩
  all_goals rw [hr] at hl
  · exact hl
  · exact hl
  · exact ⟨hl.1, hl.2, hs w a w' _ ⟨hr, rfl⟩⟩

theorem of_succeeds {x : Task α} (h : H.Leads c x done broken) {w w' : World σ} {a : α}
    {es : List Exchange} (hs : H.steady w.store) (hw : H.view w.store = c)
    (hx : Succeeds H.provider w x a w' es) : H.steady w'.store ∧ done a (H.view w'.store) :=
  (h w hs hw).of_succeeds hx

theorem of_fails {x : Task α} {e : Failure} (h : H.Leads c x done broken) {w w' : World σ}
    (hs : H.steady w.store) (hw : H.view w.store = c)
    (hx : x.run.exec H.provider w = (some (.error e), w')) :
    H.steady w'.store ∧ broken (H.view w'.store) :=
  (h w hs hw).of_fails hx

theorem succeeds {x : Task α} (h : H.Leads c x done fun _ => False) {w : World σ}
    (hs : H.steady w.store) (hw : H.view w.store = c) :
    ∃ a w' es, Succeeds H.provider w x a w' es ∧ H.steady w'.store ∧ done a (H.view w'.store) := by
  have hl := h w hs hw
  unfold Leaves at hl
  rcases hr : x.run.exec H.provider w with ⟨_ | (e | a), w'⟩
  all_goals rw [hr] at hl
  · exact hl.2.elim
  · exact hl.2.elim
  · exact ⟨a, w', _, ⟨hr, rfl⟩, hl⟩

end Leads

theorem leads_pure {a : α} (h : done a c) : H.Leads c (pure a) done broken :=
  fun _ hs hw => ⟨hs, hw ▸ h⟩

theorem leads_throw {e : Failure} (h : broken c) : H.Leads c (throw e : Task α) done broken :=
  fun _ hs hw => ⟨hs, hw ▸ h⟩

/-- **What a call leads to**: what follows its outcome, on the cloud in which it has been carried
out, or, if the host fails, what follows a refusal on the same cloud. -/
theorem leads_request {region : Region} {call : Call}
    {next : Outcome call → Program (Except Failure α)}
    (carriedOut : H.Leads (c.perform call).2 (ExceptT.mk (next (c.perform call).1)) done broken)
    (failed : H.fails → ∀ e, H.Leads c (ExceptT.mk (next (.error e))) done broken) :
    H.Leads c (ExceptT.mk (Program.request region call >>= next)) done broken := by
  rintro w hs rfl
  have steady := H.steady_answer w.now region call hs
  show Leaves H.provider (w.afterCall H.provider region call)
    (ExceptT.mk (next (w.outcome H.provider region call))) _ _
  rcases H.answers w.now region call hs with ⟨ho, hv⟩ | ⟨hf, ⟨e, he⟩, hv⟩
  · rw [show w.outcome H.provider region call = _ from ho]
    exact carriedOut _ steady hv
  · rw [show w.outcome H.provider region call = _ from he]
    exact failed hf e _ steady hv

theorem leads_ask {region : Region} {call : Call} {action : String}
    {done : call.Answer → Cloud → Prop}
    (answered : ∀ a, (c.perform call).1 = .ok a → done a (c.perform call).2)
    (refused : ∀ e, (c.perform call).1 = .error e → broken (c.perform call).2)
    (failed : H.fails → broken c) : H.Leads c (ask region call action) done broken := by
  refine leads_request ?_ fun hf e => leads_throw (failed hf)
  cases h : (c.perform call).1 with
  | ok a => exact leads_pure (answered a h)
  | error e => exact leads_throw (refused e h)

theorem leads_ask_ok {region : Region} {call : Call} {action : String} {a : call.Answer} {d : Cloud}
    {done : call.Answer → Cloud → Prop} (h : c.perform call = (.ok a, d)) (answered : done a d)
    (failed : H.fails → broken c) : H.Leads c (ask region call action) done broken := by
  refine leads_ask (fun b hb => ?_) (fun e he => ?_) failed
  · rw [h] at hb ⊢
    obtain rfl := Except.ok.inj hb
    exact answered
  · rw [h] at he
    simp at he

theorem leads_ask_error {region : Region} {call : Call} {action : String} {e : RemoteError}
    {d : Cloud} {done : call.Answer → Cloud → Prop} (h : c.perform call = (.error e, d))
    (refused : broken d) (failed : H.fails → broken c) : H.Leads c (ask region call action) done broken := by
  refine leads_ask (fun b hb => ?_) (fun e he => ?_) failed
  · rw [h] at hb
    simp at hb
  · rw [h]
    exact refused

theorem leads_ask_ok_bind {region : Region} {call : Call} {action : String} {a : call.Answer}
    {d : Cloud} {f : call.Answer → Task β} {done : β → Cloud → Prop}
    (h : c.perform call = (.ok a, d)) (next : H.Leads d (f a) done broken)
    (failed : H.fails → broken c) : H.Leads c (ask region call action >>= f) done broken := by
  have first : H.Leads c (ask region call action) (fun b e => b = a ∧ e = d) broken :=
    leads_ask_ok h ⟨rfl, rfl⟩ failed
  refine first.bind ?_
  rintro _ _ ⟨rfl, rfl⟩
  exact next

theorem leads_deadlineAfter_bind {timeout : Span} {f : Instant → Task β}
    {done : β → Cloud → Prop} (next : ∀ deadline, H.Leads c (f deadline) done broken) :
    H.Leads c (liftM (deadlineAfter timeout) >>= f) done broken := by
  have first : H.Leads c (liftM (deadlineAfter timeout)) (fun _ d => d = c) broken :=
    fun _ hs hw => ⟨hs, hw⟩
  refine first.bind ?_
  rintro deadline _ rfl
  exact next deadline

/-! ### Calls of one part -/

/-- What carrying out a call keeps of the cloud, the host keeps when it answers the call. -/
theorem keeps_answer {kept : Cloud → Prop} {call : Call} {s : σ} (now : Instant) (region : Region)
    (keeps : kept (H.view s) → kept ((H.view s).perform call).2)
    (h : H.steady s ∧ kept (H.view s)) :
    H.steady (H.provider.answer s now region call).2 ∧
      kept (H.view (H.provider.answer s now region call).2) := by
  refine ⟨H.steady_answer now region call h.1, ?_⟩
  rcases H.answers now region call h.1 with ⟨-, hv⟩ | ⟨-, -, hv⟩
  · rw [hv]
    exact keeps h.2
  · rw [hv]
    exact h.2

/-- What each carried-out call keeps of the cloud, a run keeps. -/
theorem leads_kept (kept : Cloud → Prop) {allowed : Call → Prop} {task : Task α}
    (hx : task.run.Makes allowed)
    (keeps : ∀ d call, allowed call → kept d → kept (d.perform call).2) (hc : kept c) :
    H.Leads c task (fun _ d => kept d) kept := by
  rintro w hs rfl
  exact hx.leaves (fun s => H.steady s ∧ kept (H.view s))
    (fun s now region call hcall => keeps_answer now region (keeps _ _ hcall)) ⟨hs, hc⟩

/-- **A task that makes calls of one part** changes that part at most. -/
theorem leads_changes {part : Part} {task : Task α} (hx : task.run.Makes part.Covers) :
    H.Leads c task (fun _ d => part.Changes c d) (part.Changes c) :=
  leads_kept (part.Changes c) hx (fun d _ hcall hd => hd.trans (hcall.changes d)) (.refl part c)

/-- No task makes or removes a network, a subnet or a volume. -/
theorem leads_sameSite {task : Task α} : H.Leads c task (fun _ d => c.SameSite d) c.SameSite :=
  leads_kept c.SameSite (makes_any task.run) (fun d call _ hd => hd.trans (d.perform_sameSite call))
    (.refl c)

theorem leads_counter_le {task : Task α} :
    H.Leads c task (fun _ d => c.counter ≤ d.counter) fun d => c.counter ≤ d.counter :=
  leads_kept (c.counter ≤ ·.counter) (makes_any task.run)
    (fun d call _ hd => Nat.le_trans hd (d.perform_changes call).counter_le) (Nat.le_refl _)

/-- What a task that makes calls of one part leads to, and what it leaves. -/
theorem Leads.framed {part : Part} {task : Task α} (h : H.Leads c task done broken)
    (hx : task.run.Makes part.Covers) :
    H.Leads c task (fun a d => done a d ∧ part.Changes c d ∧ c.SameSite d)
      fun d => broken d ∧ part.Changes c d ∧ c.SameSite d :=
  h.and ((leads_changes hx).and leads_sameSite)

/-- **Where the exchanges of a run come from**: each answer is that of a cloud on which the call was
carried out, or a refusal of the host. -/
theorem trace_carriedOut (kept : Cloud → Prop) {allowed : Call → Prop} {task : Task α}
    (hx : task.run.Makes allowed)
    (keeps : ∀ d call, allowed call → kept d → kept (d.perform call).2) {w : World σ}
    (hs : H.steady w.store) (hc : kept (H.view w.store)) {e : Exchange}
    (he : e ∈ task.run.trace H.provider w) :
    allowed e.call ∧ ∃ d, kept d ∧
      (e.outcome = (d.perform e.call).1 ∨ H.fails ∧ ∃ error, e.outcome = .error error) := by
  obtain ⟨hcall, v, ⟨hs', hk⟩, ho⟩ := hx.trace (p := H.provider)
    (fun s => H.steady s ∧ kept (H.view s))
    (fun s now region call hcall => keeps_answer now region (keeps _ _ hcall)) ⟨hs, hc⟩ he
  refine ⟨hcall, H.view v.store, hk, ?_⟩
  rcases H.answers v.now e.region e.call hs' with ⟨ho', -⟩ | ⟨hf, ⟨error, herror⟩, -⟩
  · exact .inl (ho.trans ho')
  · exact .inr ⟨hf, error, ho.trans herror⟩

-- What is shown of a task is composed from here on, and its runs are not looked into again.
attribute [irreducible] Leads

end Host

/-! ### The cloud in memory as a host -/

namespace Cloud

/-- No failure is queued for any call. -/
def Unfailing (c : Cloud) : Prop := ∀ key, (c.failures.find? key).getD [] = []

/-- A call for which no failure is queued is written down and does not fail. -/
theorem record_of_not_queued {c : Cloud} {call : Call}
    (h : (c.failures.find? call.method.key).getD [] = []) :
    c.record call = (none, { c with journal := call :: c.journal }) := by
  simp only [record]
  split
  · rename_i e rest he
    simp [he] at h
  · rfl

theorem record_of_unfailing {c : Cloud} (h : c.Unfailing) (call : Call) :
    c.record call = (none, { c with journal := call :: c.journal }) :=
  record_of_not_queued (h call.method.key)

theorem Unfailing.answer {c : Cloud} (h : c.Unfailing) (call : Call) :
    c.answer call = Cloud.perform { c with journal := call :: c.journal } call := by
  rw [Cloud.answer, record_of_unfailing h]

/-- **The cloud in memory is a host** that never refuses a call on its own, as long as no failure is
queued. -/
def host : Host Cloud where
  provider := provider
  view := core
  steady := Unfailing
  fails := False
  steady_answer {c} _ _ call h := by
    show (c.answer call).2.Unfailing
    rw [h.answer]
    have same := (Cloud.perform_changes { c with journal := call :: c.journal } call).failures_eq
    intro key
    rw [same]
    exact h key
  answers {c} _ _ call h := by
    have same : c.core.perform call =
        (Cloud.perform { c with journal := call :: c.journal } call).core :=
      perform_core { c with journal := call :: c.journal } call
    refine .inl ?_
    show (c.answer call).1 = (c.core.perform call).1 ∧
      (c.answer call).2.core = (c.core.perform call).2
    rw [h.answer, same]
    exact ⟨rfl, rfl⟩

/-! ### An interrupted cloud -/

/-- The cloud without the failures that are queued. -/
def withoutFailures (c : Cloud) : Cloud := { c with failures := ∅ }

theorem unfailing_withoutFailures (c : Cloud) : c.withoutFailures.Unfailing := fun key => by
  show ((∅ : IdMap (List RemoteError)).find? key).getD [] = []
  rw [IdMap.find?_empty]
  rfl

/-- A call is carried out, or it takes the failure that is queued for it. -/
theorem answer_core (c : Cloud) (call : Call) :
    (c.answer call).1 = (c.core.perform call).1 ∧
        (c.answer call).2.core = (c.core.perform call).2 ∨
      (∃ e, (c.answer call).1 = .error e) ∧ (c.answer call).2.core = c.core := by
  rw [answer, record]
  split
  · rename_i e d hd
    split at hd
    · simp only [Prod.mk.injEq, Option.some.injEq] at hd
      obtain ⟨rfl, rfl⟩ := hd
      exact .inr ⟨⟨_, rfl⟩, rfl⟩
    · simp at hd
  · rename_i d hd
    have same : d.core = c.core := by
      split at hd
      · simp at hd
      · simp only [Prod.mk.injEq, true_and] at hd
        exact hd ▸ rfl
    rw [← same, perform_core]
    exact .inl ⟨rfl, rfl⟩

/-- **The cloud in memory is a host** that may fail, if failures are queued. -/
def queuedHost : Host Cloud where
  provider := provider
  view := core
  steady _ := True
  fails := True
  steady_answer _ _ _ _ := trivial
  answers {c} _ _ call _ := (c.answer_core call).imp_right fun ⟨he, hd⟩ => ⟨trivial, he, hd⟩

/-- **The cloud with calls that are refused** besides those for which a failure is queued: the call
that comes after `n` others is refused with `refuses n`, if that is an error. A refused call is
written into the journal and not carried out. -/
def interrupted (refuses : Nat → Option RemoteError) : Provider (Cloud × Nat) where
  answer s _ _ call :=
    match refuses s.2 with
    | some e => ({ outcome := .error e }, { s.1 with journal := call :: s.1.journal }, s.2 + 1)
    | none => ({ outcome := (s.1.answer call).1 }, (s.1.answer call).2, s.2 + 1)

/-- **The interrupted cloud is a host** that fails. -/
def interruptedHost (refuses : Nat → Option RemoteError) : Host (Cloud × Nat) where
  provider := interrupted refuses
  view s := s.1.core
  steady _ := True
  fails := True
  steady_answer _ _ _ _ := trivial
  answers {s} _ _ call _ := by
    simp only [interrupted]
    cases refuses s.2 with
    | some e => exact .inr ⟨trivial, ⟨e, rfl⟩, rfl⟩
    | none => exact (s.1.answer_core call).imp_right fun ⟨he, hd⟩ => ⟨trivial, he, hd⟩

end Cloud

end Reconciler
