import Reconciler.Lifecycle.Refresh
import Reconciler.Proofs.Cloud.Obscured
import Reconciler.Proofs.Cloud.Servers
import Reconciler.Proofs.Update.Calls
import Reconciler.Proofs.Waiting.Deadlines

/-!
# What a deletion comes to

A deletion makes one call to delete the instance, and then it looks until the instance is gone. That
there is no such instance counts as success for that call as well as for the looks. If the call does
not tell so untruly, a deletion that succeeds leaves no instance, and deleting it again is a matter
of one call. A deletion that fails either has changed no server, or the instance is gone all the
same and only the looks did not show it.

## What is proved

* `gives_awaitGone`: the account of a wait for an instance to be gone, whoever answers.
* `Cloud.gone_of_without`: what reading and deleting come to when the instance is gone.
* `deleteInstance_truthful`: what a deletion comes to, whatever failures are queued for the looks.
-/

namespace Reconciler

/-! ### Waiting until an instance is gone -/

section

variable {region : Region} {id : InstanceId} {r : Option (Except Failure Unit)}
  {es : List Exchange} {look : Exchange}

/-- **The account of a wait** for an instance to be gone. -/
structure GoneWait (region : Region) (id : InstanceId) (r : Option (Except Failure Unit))
    (es : List Exchange) : Prop where
  /-- The wait only looks at the instance. -/
  looks : ∀ e ∈ es, e.IsLook region id
  /-- It fails for want of time or with the failure of a look. -/
  failed : ∀ e, r = some (.error e) → (∃ last, e = .timeout "instance deletion" id last) ∨
    ∃ start cause, e = .remote "get instance" cause ∧
      ⟨start, region, .getServer id, .error cause⟩ ∈ es

theorem GoneWait.nil (h : ∀ e, r ≠ some (.error e)) : GoneWait region id r [] where
  looks _ he := absurd he List.not_mem_nil
  failed e hr := absurd hr (h e)

theorem GoneWait.cons (h : GoneWait region id r es) (hlook : look.IsLook region id) :
    GoneWait region id r (look :: es) where
  looks e he := by
    rcases List.mem_cons.1 he with rfl | he
    · exact hlook
    · exact h.looks e he
  failed e hr := by
    rcases h.failed e hr with timeout | ⟨start, cause, he, hmem⟩
    · exact .inl timeout
    · exact .inr ⟨start, cause, he, List.mem_cons_of_mem _ hmem⟩

/-- The last look of a wait that the look does not fail. -/
theorem GoneWait.last (hlook : look.IsLook region id)
    (h : ∀ e, r = some (.error e) → ∃ last, e = .timeout "instance deletion" id last) :
    GoneWait region id r [look] where
  looks _ he := List.mem_singleton.1 he ▸ hlook
  failed e hr := .inl (h e hr)

theorem gives_goneCheck {policy : PollPolicy} : (goneCheck region id).Gives fun seen =>
    KeepsAccount policy
      (fun _ r => GoneWait region id ((r.map (·.2)).map (awaited "instance deletion" id))) ()
      (seen.map fun seen => ((), seen)) := by
  -- After a look that decides nothing the wait is over at the deadline, or other looks follow.
  have undecided {e : Exchange} (hlook : e.IsLook region id) :
      KeepsAccount policy
        (fun _ r => GoneWait region id ((r.map (·.2)).map (awaited "instance deletion" id))) ()
        (some ((), .notYet)) [e] :=
    ⟨fun _ last => .last hlook fun e he => ⟨last, by cases he; rfl⟩, fun _ _ h => h.cons hlook⟩
  refine Program.gives_request_bind fun start o => ?_
  have hlook : Exchange.IsLook ⟨start, region, .getServer id, o⟩ region id := ⟨start, o, rfl⟩
  cases o with
  | ok detail => exact Program.gives_pure (undecided hlook)
  | error e =>
    show Program.Gives (if e.isNotFound then _ else _) _
    split_ifs
    · exact Program.gives_pure (.last hlook fun _ he => nomatch he)
    · refine Program.gives_pure ?_
      simp only [KeepsAccount, Option.map_some]
      split_ifs
      · refine ⟨fun e' he' => List.mem_singleton.1 he' ▸ hlook, fun e' he' => ?_⟩
        cases he'
        exact .inr ⟨start, e, rfl, List.mem_singleton_self _⟩
      · exact undecided hlook

/-- **What every wait for an instance to be gone gives.** -/
theorem gives_awaitGone {t : Tuning} {deadline : Instant} :
    Gives (awaitGone t region id deadline) (GoneWait region id) := by
  have poll : ((t.wait deadline).poll (goneCheck region id)).Gives fun r =>
      GoneWait region id (r.map (awaited "instance deletion" id)) :=
    gives_poll (.nil fun _ h => nomatch h) gives_goneCheck
  refine Program.Gives.bind poll (fun b es hb => Program.gives_pure ?_) fun _ h => h
  rw [List.append_nil]
  exact hb

end

/-! ### Clouds without the instance -/

namespace Cloud

variable {c : Cloud} {id : InstanceId} {s : InstanceState}

/-- The cloud has no server with the identifier. -/
def Without (c : Cloud) (id : InstanceId) : Prop := ∀ srv ∈ c.servers, srv.detail.id ≠ id

theorem without_iff : c.Without id ↔ c.server? id = none := by
  simp [Without, server?, List.find?_eq_none]

/-- A look brings no server back. -/
theorem Without.answer_getServer (h : c.Without id) (k : InstanceId) :
    (c.answer (.getServer k)).2.Without id := by
  have looked : (c.core.observe k).2.Without id := by
    rw [observe]
    split
    · exact h
    · intro srv hsrv
      rcases mem_mapFirst hsrv with hsrv | ⟨srv', hsrv', -, rfl⟩
      · exact h srv hsrv
      · rw [srv'.id_advance]
        exact h srv' hsrv'
  intro srv hsrv
  rcases c.answer_core (.getServer k) with ⟨-, same⟩ | ⟨-, same⟩
  · refine looked srv ?_
    rw [show (c.core.observe k).2 = (c.answer (.getServer k)).2.core from same.symm]
    exact hsrv
  · refine h srv ?_
    rw [show c.servers = (c.answer (.getServer k)).2.core.servers by rw [same]; rfl]
    exact hsrv

/-- **The call to delete an instance** makes it be gone, or fails and changes no server. If no
failure in its queue tells that there is no such instance, there is none when it tells so. -/
theorem answer_deleteServer (c : Cloud) (id : InstanceId)
    (candid : ∀ e ∈ c.queue Method.deleteServer.key, e.isNotFound = false) :
    ((c.answer (.deleteServer id)).1 = .ok () ∧ (c.answer (.deleteServer id)).2.Without id) ∨
      ∃ e, (c.answer (.deleteServer id)).1 = .error e ∧
        (c.answer (.deleteServer id)).2.servers = c.servers ∧
        (e.isNotFound = true → c.Without id) := by
  cases hq : c.queue (Call.deleteServer id).method.key with
  | cons e es =>
    rw [answer_of_queue_cons hq]
    refine .inr ⟨e, rfl, rfl, fun notFound => ?_⟩
    rw [candid e (by rw [hq]; exact List.mem_cons_self)] at notFound
    nomatch notFound
  | nil =>
    obtain ⟨outcome, after, -⟩ := answer_of_queue_nil hq
    rw [perform, removeServer] at outcome after
    have servers : (c.answer (.deleteServer id)).2.servers =
        (c.answer (.deleteServer id)).2.core.servers := rfl
    cases hs : c.core.server? id with
    | none =>
      simp only [hs] at outcome after
      refine .inr ⟨_, outcome, ?_, fun _ => without_iff.2 hs⟩
      rw [servers, after]
      rfl
    | some srv =>
      simp only [hs] at outcome after
      refine .inl ⟨outcome, fun srv' hsrv' => ?_⟩
      rw [servers, after] at hsrv'
      exact of_decide_eq_true (List.mem_filter.1 hsrv').2

/-- **The instance is gone**: no server has its identifier, and as long as no call fails, it reads
as nothing, and to delete it again succeeds with one call. -/
structure Gone (c : Cloud) (s : InstanceState) : Prop where
  /-- No server has the identifier. -/
  without : c.Without s.id
  /-- The instance reads as nothing. -/
  reads : ∀ now,
    ((readInstance s).run.exec provider ⟨c.withoutFailures, now⟩).1 = some (.ok none)
  /-- To delete it again succeeds with one call. -/
  deletes : ∀ t now,
    ((deleteInstance t s).run.exec provider ⟨c.withoutFailures, now⟩).1 = some (.ok ()) ∧
      ((deleteInstance t s).run.trace provider ⟨c.withoutFailures, now⟩).length = 1

theorem gone_of_without (h : c.Without s.id) : c.Gone s := by
  have unfailing : c.withoutFailures.Unfailing := unfailing_withoutFailures c
  have absent (journal : List Call) :
      Cloud.server? { c.withoutFailures with journal } s.id = none :=
    without_iff.1 h
  refine ⟨h, fun now => ?_, fun t now => ?_⟩
  · have told : World.outcome provider ⟨c.withoutFailures, now⟩ s.region (.getServer s.id) =
        .error (noServer s.id) := by
      show (c.withoutFailures.answer (.getServer s.id)).1 = _
      rw [unfailing.answer, perform, observe, absent]
    show (Program.exec provider (Program.bind (Program.request _ _) _) _).1 = _
    rw [exec_request_bind, told]
    rfl
  · have told : World.outcome provider ⟨c.withoutFailures, now⟩ s.region (.deleteServer s.id) =
        .error (noServer s.id) := by
      show (c.withoutFailures.answer (.deleteServer s.id)).1 = _
      rw [unfailing.answer, perform, removeServer, absent]
    have run : (deleteInstance t s).run = Program.bind (Program.request _ _) _ := rfl
    rw [run, exec_request_bind, trace_request_bind, told]
    exact ⟨rfl, rfl⟩

end Cloud

/-! ### Deletions -/

/-- **What a deletion comes to** in the cloud `c`: its result is `r`, its exchanges are `es`, and it
leaves the cloud `d`. -/
structure Deletes (s : InstanceState) (c : Cloud) (r : Except Failure Unit) (es : List Exchange)
    (d : Cloud) : Prop where
  /-- The instance is deleted by the first call, and then it is only looked at. -/
  calls : ∃ first looks, es = first :: looks ∧ first.call = .deleteServer s.id ∧
    ∀ e ∈ looks, e.call = .getServer s.id
  /-- If the deletion succeeds, the instance is gone. -/
  succeeded : r = .ok () → d.Gone s
  /-- If it fails, then the call to delete the instance failed, and it was the only one and changed
  no server; or the instance is gone, and time ran out or a look failed. -/
  failed : ∀ e, r = .error e →
    (∃ start cause, es = [⟨start, s.region, .deleteServer s.id, .error cause⟩] ∧
        e = .remote "delete instance" cause ∧ d.servers = c.servers) ∨
      d.Gone s ∧ ((∃ last, e = .timeout "instance deletion" s.id last) ∨
        ∃ start cause, e = .remote "get instance" cause ∧
          ⟨start, s.region, .getServer s.id, .error cause⟩ ∈ es)

section

variable {t : Tuning} {s : InstanceState} {c : Cloud} {now : Instant}

/-- A wait for an instance that is gone. -/
theorem awaitGone_of_without (sleeps : t.pollInterval ≠ 0) {deadline : Instant}
    (ahead : now ≤ deadline) (h : c.Without s.id) :
    ∃ r d, ((awaitGone t s.region s.id deadline).run.exec Cloud.provider ⟨c, now⟩).1 = some r ∧
      ((awaitGone t s.region s.id deadline).run.exec Cloud.provider ⟨c, now⟩).2.store = d ∧
      GoneWait s.region s.id (some r)
        ((awaitGone t s.region s.id deadline).run.trace Cloud.provider ⟨c, now⟩) ∧
      d.Gone s := by
  let wait : Task Unit := awaitGone t s.region s.id deadline
  have prompt : KeepsDeadline deadline now wait := keepsDeadline_awaitGone sleeps ahead
  have account : Gives wait (GoneWait s.region s.id) := gives_awaitGone
  obtain ⟨r, ended, -⟩ := prompt Cloud Cloud.provider ⟨c, now⟩ prompt_cloud rfl
  have waited := account Cloud Cloud.provider ⟨c, now⟩
  have looks : wait.run.Makes (· = .getServer s.id) := makes_awaitGone rfl
  have without := looks.exec (p := Cloud.provider) (w := ⟨c, now⟩) (Cloud.Without · s.id)
    (fun d _ _ call hcall hd => by cases hcall; exact hd.answer_getServer s.id) h
  rw [ended] at waited
  exact ⟨r, _, ended, rfl, waited, Cloud.gone_of_without without⟩

theorem deletes_of_deleted {d : Cloud} {r : Except Failure Unit} {looks : List Exchange}
    {first : Exchange} (hfirst : first.call = .deleteServer s.id)
    (waited : GoneWait s.region s.id (some r) looks) (gone : d.Gone s) :
    Deletes s c r (first :: looks) d where
  calls := by
    refine ⟨first, looks, rfl, hfirst, fun e he => ?_⟩
    obtain ⟨start, o, rfl⟩ := waited.looks e he
    rfl
  succeeded _ := gone
  failed e he := by
    refine .inr ⟨gone, ?_⟩
    rcases waited.failed e (by rw [he]) with timeout | ⟨start, cause, he', hmem⟩
    · exact .inl timeout
    · exact .inr ⟨start, cause, he', List.mem_cons_of_mem _ hmem⟩

theorem deletes_of_refused {d : Cloud} {e : RemoteError} (start : Instant)
    (same : d.servers = c.servers) (truthful : e.isNotFound = true → d.Without s.id) :
    Deletes s c (if e.isNotFound then .ok () else .error (.remote "delete instance" e))
      [⟨start, s.region, .deleteServer s.id, .error e⟩] d where
  calls := ⟨_, [], rfl, rfl, fun _ he => absurd he List.not_mem_nil⟩
  succeeded hr := by
    split_ifs at hr with notFound
    exact Cloud.gone_of_without (truthful notFound)
  failed e' he' := by
    split_ifs at he'
    cases he'
    exact .inl ⟨start, e, rfl, rfl, same⟩

/-- **A deletion is truthful** if no failure that is queued for the call to delete the instance
tells that there is none. The failures for the looks are of any kind, and the timeout is any. -/
theorem deleteInstance_truthful (sleeps : t.pollInterval ≠ 0)
    (candid : ∀ e ∈ c.queue Method.deleteServer.key, e.isNotFound = false) (s : InstanceState)
    (now : Instant) :
    ∃ r d, ((deleteInstance t s).run.exec Cloud.provider ⟨c, now⟩).1 = some r ∧
      ((deleteInstance t s).run.exec Cloud.provider ⟨c, now⟩).2.store = d ∧
      Deletes s c r ((deleteInstance t s).run.trace Cloud.provider ⟨c, now⟩) d := by
  have run : (deleteInstance t s).run = Program.bind (Program.request _ _) _ := rfl
  have outcome : World.outcome Cloud.provider ⟨c, now⟩ s.region (.deleteServer s.id) =
      (c.answer (.deleteServer s.id)).1 := rfl
  have after : World.afterCall Cloud.provider ⟨c, now⟩ s.region (.deleteServer s.id) =
      ⟨(c.answer (.deleteServer s.id)).2, now⟩ :=
    congrArg (World.mk _) (Int.add_zero now)
  rw [run, exec_request_bind, trace_request_bind, outcome, after]
  rcases c.answer_deleteServer s.id candid with ⟨deleted, without⟩ | ⟨e, refused, same, truthful⟩
  · rw [deleted]
    have ahead : now ≤ now + (reachableTimeout t.timeouts.delete : Int) :=
      Int.le_add_of_nonneg_right (by simp)
    obtain ⟨r, d, ended, left, waited, gone⟩ := awaitGone_of_without sleeps ahead without
    exact ⟨r, d, ended, left, deletes_of_deleted rfl waited gone⟩
  · rw [refused]
    have without : e.isNotFound = true → (c.answer (.deleteServer s.id)).2.Without s.id := by
      intro notFound srv hsrv
      rw [same] at hsrv
      exact truthful notFound srv hsrv
    have refusal := deletes_of_refused now same without
    dsimp only
    split_ifs at refusal ⊢
    · exact ⟨_, _, rfl, rfl, refusal⟩
    · exact ⟨_, _, rfl, rfl, refusal⟩

end

/-- The first two looks fail, and then the server is seen to be gone. -/
theorem deleteInstance_truthful_obscured :
    let c := sampleCloud.failLooks [.server 503 "busy", .client 409 "locked"]
    let run := (deleteInstance hastyTuning sampleState).run.exec Cloud.provider ⟨c, 0⟩
    let es := (deleteInstance hastyTuning sampleState).run.trace Cloud.provider ⟨c, 0⟩
    hastyTuning.pollInterval ≠ 0 ∧
      (∀ e ∈ c.queue Method.deleteServer.key, e.isNotFound = false) ∧
      run.1 = some (.ok ()) ∧ es.length = 4 ∧ Deletes sampleState c (.ok ()) es run.2.store := by
  intro c run es
  have sleeps : hastyTuning.pollInterval ≠ 0 := by decide
  have candid : ∀ e ∈ c.queue Method.deleteServer.key, e.isNotFound = false := by decide
  have ok : run.1 = some (.ok ()) := by decide +kernel
  obtain ⟨r, d, ended, rfl, deletes⟩ := deleteInstance_truthful sleeps candid sampleState 0
  obtain rfl := Option.some.inj (ended.symm.trans ok)
  exact ⟨sleeps, candid, ok, by decide +kernel, deletes⟩

end Reconciler
