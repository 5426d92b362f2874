import Reconciler.Proofs.Update.Guard
import Reconciler.Proofs.Update.Plan

/-!
# How an update goes

An update that asks for something it refuses makes no call. Any other makes the moves of its plan in
order, until one fails: what the provider answers with an error, or an instance that does not come
to the status that is waited for, is the end of the update. Two failures are not an end: that of a
look, which is a matter of the wait it belongs to, and that of unbinding where nothing is bound.

## What is proved

* `perform_fatal`, `perform_append_of_not_ok`: moves stop at the first that fails.
* `updateInstance_conduct`: how an update goes, whoever answers its calls.
-/

namespace Reconciler

variable {σ : Type} {t : Tuning} {s : InstanceState} {d : InstanceSpec} {p : Provider σ}
  {w w' : World σ} {moves : List Move}

/-- The failure of an exchange. -/
def Exchange.failure? (e : Exchange) : Option RemoteError :=
  match e.outcome with
  | .ok _ => none
  | .error err => some err

/-- The failure of an exchange, if it is the end of an update. -/
def Exchange.fatal? (e : Exchange) : Option RemoteError :=
  match e.call with
  | .getServer _ => none
  | .detachFloatingIp _ => e.failure?.filter (! ·.isNotFound)
  | _ => e.failure?

theorem Exchange.failure?_of_fatal? {e : Exchange} {err : RemoteError} (h : e.fatal? = some err) :
    e.failure? = some err := by
  unfold fatal? at h
  split at h
  · simp at h
  · exact (Option.filter_eq_some_iff.1 h).1
  · exact h

theorem outcome_of_failure? {start : Instant} {region : Region} {c : Call} {o : Outcome c}
    {err : RemoteError} (h : Exchange.failure? ⟨start, region, c, o⟩ = some err) :
    o = .error err := by
  cases o with
  | ok a => simp [Exchange.failure?] at h
  | error e => exact congrArg _ (Option.some.inj h)

/-- **The first failed call is the last**, and the moves fail for it. -/
theorem perform_fatal {pre post : List Exchange} {e : Exchange} {err : RemoteError}
    (h : (perform t s moves).run.trace p w = pre ++ e :: post) (he : e.fatal? = some err) :
    post = [] ∧
      ∃ action, ((perform t s moves).run.exec p w).1 = some (.error (.remote action err)) := by
  obtain ⟨before, m, after, v, es, mid, mid', rfl, -, hm, rfl, last⟩ := exists_move_of_trace h
  have failure := Exchange.failure?_of_fatal? he
  -- It is enough that the move fails for the call, and that the call is its last.
  suffices move : mid' = [] ∧
      ∃ action, ((m.task t s).run.exec p v).1 = some (.error (.remote action err)) by
    obtain ⟨hmid, action, hfails⟩ := move
    obtain ⟨hpost, hends⟩ := last (by rw [hfails]; simp)
    exact ⟨hpost.trans hmid, action, hends.trans hfails⟩
  cases m with
  | ask c action =>
    rw [trace_task_ask] at hm
    obtain ⟨-, rfl, rfl⟩ := singleton_eq_append_cons hm
    exact ⟨rfl, action, exec_task_ask (outcome_of_failure? failure)⟩
  | unbind portId =>
    rw [Move.task, trace_unbindPort] at hm
    obtain ⟨-, rfl, rfl⟩ := singleton_eq_append_cons hm
    have found := (Option.filter_eq_some_iff.1 he).2
    simp only [Bool.not_eq_true'] at found
    exact ⟨rfl, _, exec_unbindPort (outcome_of_failure? failure) found⟩
  | await target action deadline =>
    obtain ⟨start, o, rfl⟩ := (statusWait_await ..).looks e (hm ▸ List.mem_append_cons_self)
    simp [Exchange.fatal?] at he

/-- **A move that does not succeed is the last**, and the moves end as it does. -/
theorem perform_append_of_not_ok {before : List Move} (after : List Move) {m : Move}
    {es : List Exchange}
    (h : Succeeds p w (perform t s before) () w' es)
    (hm : ((m.task t s).run.exec p w').1 ≠ some (.ok ())) :
    (perform t s (before ++ m :: after)).run.trace p w = es ++ (m.task t s).run.trace p w' ∧
      ((perform t s (before ++ m :: after)).run.exec p w).1 =
        ((m.task t s).run.exec p w').1 := by
  have last := perform_cons_of_not_ok after hm
  rw [perform_append, trace_run_bind, exec_run_bind, h.exec_eq, h.trace_eq]
  exact ⟨congrArg _ last.trace_eq, congrArg Prod.fst last.exec_eq⟩

/-- **How an update past its guard goes**: `moves` are what it does, `r` is what it ends with, and
`es` are its exchanges. -/
structure Conduct (t : Tuning) (s : InstanceState) (d : InstanceSpec) (p : Provider σ) (w : World σ)
    (moves : List Move) (r : Option (Except Failure InstanceState)) (es : List Exchange) :
    Prop where
  /-- The moves begin a planned list. -/
  planned : ∃ rest, moves ++ rest ∈ updatePlan s d
  /-- If the update succeeds, they are a planned list. -/
  completed : ∀ s', r = some (.ok s') → moves ∈ updatePlan s d
  /-- The calls are those of the moves. -/
  calls : es = (perform t s moves).run.trace p w
  /-- The changes are those of the moves in order, up to where the update ends. -/
  changes : mutations es <+: moves.flatMap Move.mutations
  /-- If the update succeeds, they are all of them. -/
  all_changes : ∀ s', r = some (.ok s') → mutations es = moves.flatMap Move.mutations
  /-- The first failed call is the last, and the update fails for it. -/
  call_last : ∀ pre e post err, es = pre ++ e :: post → e.fatal? = some err →
    post = [] ∧ ∃ action, r = some (.error (.remote action err))
  /-- A wait that fails is the last move, and the update fails as it does. -/
  wait_last : ∀ before target action deadline after w' es' e,
    moves = before ++ .await target action deadline :: after →
    Succeeds p w (perform t s before) () w' es' →
    ((awaitStatus t s.region s.id target action deadline).run.exec p w').1 = some (.error e) →
    es = es' ++ (awaitStatus t s.region s.id target action deadline).run.trace p w' ∧
      r = some (.error e)

/-- The steps of an update go as its plan says. -/
theorem conduct_convergeExisting :
    ∃ moves, Conduct t s d p w moves ((convergeExisting t s d).run.exec p w).1
      ((convergeExisting t s d).run.trace p w) := by
  obtain ⟨moves, r, alike, planned, completed⟩ :=
    follows_convergeExisting (t := t) (s := s) (d := d) σ p w
  have calls := alike.trace_perform
  refine
    ⟨moves,
      { planned
        completed := fun s' hs' => completed s' (alike.ended hs').1
        calls
        changes := calls ▸ mutations_perform_isPrefix
        all_changes := fun s' hs' => calls ▸ mutations_perform (alike.ended hs').2
        call_last := fun pre e post err hes he => ?_
        wait_last := fun before target action deadline after w' es' e hmoves hbefore hwait => ?_ }⟩
  · rw [calls] at hes
    obtain ⟨hpost, action, hfails⟩ := perform_fatal hes he
    exact ⟨hpost, action, alike.failed hfails⟩
  · rw [calls]
    subst hmoves
    obtain ⟨htrace, hends⟩ := perform_append_of_not_ok after
      (m := .await target action deadline) hbefore (by rw [Move.task, hwait]; simp)
    exact ⟨htrace, alike.failed (hends.trans hwait)⟩

/-- **How an update goes**, whoever answers its calls. One that asks for something it refuses makes
no call and gives a reason for each such change, and any other makes the moves of its plan. -/
theorem updateInstance_conduct (t : Tuning) (s : InstanceState) (d : InstanceSpec) (p : Provider σ)
    (w : World σ) :
    if Refusal.asked s.applied d = [] then
      ∃ moves, Conduct t s d p w moves ((updateInstance t s d).run.exec p w).1
        ((updateInstance t s d).run.trace p w)
    else
      (updateInstance t s d).run.trace p w = [] ∧
        ((updateInstance t s d).run.exec p w).1 = some (.error
          (.unsupported ((Refusal.asked s.applied d).map (Refusal.reason s.applied)))) := by
  rw [updateInstance, immutableViolations_eq_asked]
  cases hasked : Refusal.asked s.applied d with
  | nil =>
    rw [if_pos rfl]
    exact conduct_convergeExisting
  | cons v vs =>
    rw [if_neg (List.cons_ne_nil v vs)]
    exact ⟨rfl, rfl⟩

end Reconciler
