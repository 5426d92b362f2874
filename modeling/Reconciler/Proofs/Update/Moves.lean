import Reconciler.Lifecycle.Update
import Reconciler.Proofs.Accounts
import Reconciler.Proofs.Lists
import Mathlib.Computability.Language

/-!
# Moves

What an update does, it does in *moves*: it makes a call, it unbinds the floating address of a port,
or it waits for a status of the instance. A list of moves is a program without branches, and
`perform` runs it: each move after the one before, until one fails.

A *plan* is a language over moves. A task follows a plan if each of its runs is one of a list of
moves and then ends: of a list in the plan if the task has no failure of its own, and otherwise of
one that begins a list in the plan. So a task that looks at the answers of its calls is described by
tasks that do not, and the plan of a task is put together from the plans of its steps.

## What is proved

* `Follows.bind`, `follows_ask`, `follows_move`: the plans of composed tasks.
* `exists_move_of_trace`: each exchange of a run is one of a certain move, all moves before it have
  succeeded, and if it fails nothing follows.
* `mutations_perform_isPrefix`: the changes that a run of moves makes, in order.
-/

namespace Reconciler

variable {α β σ : Type}

/-! ### Runs that are alike -/

/-- **Two tasks run alike** from a world: they end in the same way and make the same calls. -/
structure Alike (p : Provider σ) (w : World σ) (x y : Task α) : Prop where
  /-- They end in the same way. -/
  exec_eq : x.run.exec p w = y.run.exec p w
  /-- They make the same calls. -/
  trace_eq : x.run.trace p w = y.run.trace p w

section

variable {p : Provider σ} {w : World σ}

theorem Alike.refl (x : Task α) : Alike p w x x := ⟨rfl, rfl⟩

theorem Alike.trans {x y z : Task α} (h : Alike p w x y) (h' : Alike p w y z) : Alike p w x z :=
  ⟨h.exec_eq.trans h'.exec_eq, h.trace_eq.trans h'.trace_eq⟩

/-- What follows tasks that run alike. -/
theorem Alike.bind {x y : Task β} {f : β → Task α} (h : Alike p w x y) :
    Alike p w (x >>= f) (y >>= f) := by
  constructor
  · rw [exec_run_bind, exec_run_bind, h.exec_eq]
  · rw [trace_run_bind, trace_run_bind, h.exec_eq, h.trace_eq]

/-- Tasks that run alike where another task ends run alike after it. -/
theorem Alike.after {x : Task β} {f g : β → Task α}
    (h : ∀ b, Alike p (x.run.exec p w).2 (f b) (g b)) : Alike p w (x >>= f) (x >>= g) := by
  constructor
  · rw [exec_run_bind, exec_run_bind]
    rcases hx : x.run.exec p w with ⟨_ | (e | b), w'⟩
    all_goals rw [hx] at h
    exact (h b).exec_eq
  · rw [trace_run_bind, trace_run_bind]
    rcases hx : x.run.exec p w with ⟨_ | (e | b), w'⟩
    all_goals rw [hx] at h
    exact congrArg _ (h b).trace_eq

end

/-! ### Moves -/

/-- Something that an update does to an instance. -/
inductive Move where
  /-- Makes a call for an action. -/
  | ask (c : Call) (action : String)
  /-- Unbinds the floating address of a port, if it has one. -/
  | unbind (portId : String)
  /-- Waits for a status. -/
  | await (target : Status) (action : String) (deadline : Instant)

/-- Unbinds the floating address of a port; a port without one is as wanted. -/
def unbindPort (region : Region) (portId : String) : Task Unit := ExceptT.mk do
  match ← Program.request region (.detachFloatingIp portId) with
  | .ok _ => return .ok ()
  | .error e =>
    if e.isNotFound then return .ok () else return .error (.remote "detach floating ip" e)

namespace Move

/-- A move as a task. -/
def task (t : Tuning) (s : InstanceState) : Move → Task Unit
  | .ask c action => do
    let _ ← Reconciler.ask s.region c action
    return ()
  | .unbind portId => unbindPort s.region portId
  | .await target action deadline => awaitStatus t s.region s.id target action deadline

/-- The calls of a move that change something. -/
def mutations : Move → List Call
  | .ask c _ => if c.isMutating then [c] else []
  | .unbind portId => [.detachFloatingIp portId]
  | .await _ _ _ => []

end Move

/-- Makes moves, one after the other. -/
def perform (t : Tuning) (s : InstanceState) : List Move → Task Unit
  | [] => pure ()
  | m :: ms => do
    m.task t s
    perform t s ms

/-- Ends with a value or a failure. -/
def conclude (r : Except Failure α) : Task α := ExceptT.mk (pure r)

/-- **A task follows a plan**: each run is one of some moves with a value or a failure at the end.
The moves are as planned if it is a value, and they begin a planned list if it is a failure. -/
def Follows (t : Tuning) (s : InstanceState) (task : Task α) (plan : Language Move) : Prop :=
  ∀ (σ : Type) (p : Provider σ) (w : World σ), ∃ moves r,
    Alike p w task (do perform t s moves; conclude r) ∧
      (∃ rest, moves ++ rest ∈ plan) ∧ ∀ a, r = .ok a → moves ∈ plan

variable {t : Tuning} {s : InstanceState} {plan plan' : Language Move}

theorem perform_append (ms ms' : List Move) :
    perform t s (ms ++ ms') = (do perform t s ms; perform t s ms') := by
  induction ms with
  | nil => rfl
  | cons m ms ih => simp only [List.cons_append, perform, ih, bind_assoc]

theorem perform_singleton (m : Move) : perform t s [m] = m.task t s := bind_pure_unit

@[simp] theorem conclude_ok (a : α) : conclude (.ok a) = pure a := rfl

@[simp] theorem conclude_error_bind (e : Failure) (f : β → Task α) :
    (conclude (.error e) >>= f) = conclude (.error e) := rfl

section

variable {p : Provider σ} {w : World σ} {task : Task α} {moves : List Move} {r : Except Failure α}

/-- The calls of a run that is one of moves are those of the moves. -/
theorem Alike.trace_perform (h : Alike p w task (do perform t s moves; conclude r)) :
    task.run.trace p w = (perform t s moves).run.trace p w := by
  rw [h.trace_eq, trace_run_bind]
  rcases (perform t s moves).run.exec p w with ⟨_ | (e | _), w'⟩
  all_goals exact List.append_nil _

/-- It fails for what the moves fail for. -/
theorem Alike.failed {e : Failure} (h : Alike p w task (do perform t s moves; conclude r))
    (he : ((perform t s moves).run.exec p w).1 = some (.error e)) :
    (task.run.exec p w).1 = some (.error e) := by
  rw [h.exec_eq, exec_run_bind]
  rcases hm : (perform t s moves).run.exec p w with ⟨_ | (e' | _), w'⟩
  all_goals rw [hm] at he
  · simp at he
  · obtain rfl := Except.error.inj (Option.some.inj he)
    rfl
  · simp at he

/-- If it has a value, the moves have all succeeded, and it concludes with the value. -/
theorem Alike.ended {a : α} (h : Alike p w task (do perform t s moves; conclude r))
    (ha : (task.run.exec p w).1 = some (.ok a)) :
    r = .ok a ∧ Succeeds p w (perform t s moves) () ((perform t s moves).run.exec p w).2
      ((perform t s moves).run.trace p w) := by
  rw [h.exec_eq, exec_run_bind] at ha
  rcases hm : (perform t s moves).run.exec p w with ⟨_ | (e | _), w'⟩
  all_goals rw [hm] at ha
  · simp at ha
  · simp at ha
  · exact ⟨Option.some.inj ha, hm, rfl⟩

end

/-! ### Plans of tasks -/

theorem Follows.mono {task : Task α} (h : Follows t s task plan)
    (hle : ∀ moves ∈ plan, moves ∈ plan') : Follows t s task plan' := by
  intro σ p w
  obtain ⟨moves, r, alike, ⟨rest, hrest⟩, hok⟩ := h σ p w
  exact ⟨moves, r, alike, ⟨rest, hle _ hrest⟩, fun a ha => hle _ (hok a ha)⟩

theorem follows_pure (a : α) : Follows t s (pure a) 1 :=
  fun _ _ _ => ⟨[], .ok a, .refl _, ⟨[], Language.nil_mem_one⟩, fun _ _ => Language.nil_mem_one⟩

theorem follows_throw {e : Failure} (h : ∃ moves, moves ∈ plan) :
    Follows t s (throw e : Task α) plan :=
  fun _ _ _ => ⟨[], .error e, .refl _, h, fun _ ha => nomatch ha⟩

/-- A move follows the plan to make it. -/
theorem follows_move (m : Move) : Follows t s (m.task t s) {[m]} := by
  intro σ p w
  refine ⟨[m], .ok (), ?_, ⟨[], rfl⟩, fun _ _ => rfl⟩
  rw [perform_singleton, conclude_ok, bind_pure_unit]
  exact .refl _

/-- So does a call whose answer matters. -/
theorem follows_ask (c : Call) (action : String) :
    Follows t s (ask s.region c action) {[.ask c action]} := by
  intro σ p w
  have run (r : Except Failure c.Answer) :
      (do perform t s [.ask c action]; conclude r) =
        (do let _ ← ask s.region c action; conclude r) := by
    rw [perform_singleton, Move.task, bind_assoc]
    simp only [pure_bind]
  -- What the call is answered is the conclusion.
  refine ⟨[.ask c action], (w.outcome p s.region c).mapError (.remote action), ?_, ⟨[], rfl⟩,
    fun _ _ => rfl⟩
  rw [run]
  constructor
  · rw [exec_run_bind, exec_run_ask]
    cases w.outcome p s.region c <;> rfl
  · rw [trace_run_bind, exec_run_ask, trace_run_ask]
    cases w.outcome p s.region c <;> rfl

/-- **Two tasks in a row** follow the plan of the first and then that of the second. -/
theorem Follows.bind {x : Task β} {f : β → Task α} (h : Follows t s x plan)
    (hf : ∀ b, Follows t s (f b) plan') (hne : ∃ moves, moves ∈ plan') :
    Follows t s (x >>= f) (plan * plan') := by
  intro σ p w
  obtain ⟨first, r, alike, ⟨rest, hrest⟩, hok⟩ := h σ p w
  cases r with
  | error e =>
    obtain ⟨moves, hmoves⟩ := hne
    refine ⟨first, .error e, ?_, ⟨rest ++ moves, ?_⟩, fun _ ha => nomatch ha⟩
    · refine alike.bind.trans ?_
      simp only [bind_assoc, conclude_error_bind]
      exact .refl _
    · rw [← List.append_assoc]
      exact Language.append_mem_mul hrest hmoves
  | ok b =>
    obtain ⟨second, r', alike', ⟨rest', hrest'⟩, hok'⟩ :=
      hf b σ p ((perform t s first).run.exec p w).2
    have hfirst := hok b rfl
    refine ⟨first ++ second, r', ?_, ⟨rest', ?_⟩, fun a ha => ?_⟩
    · refine alike.bind.trans ?_
      rw [perform_append]
      simp only [bind_assoc, conclude_ok, pure_bind]
      exact .after fun _ => alike'
    · rw [List.append_assoc]
      exact Language.append_mem_mul hfirst hrest'
    · exact Language.append_mem_mul hfirst (hok' a ha)

/-- A plan that is followed plans something. -/
theorem Follows.nonempty {task : Task α} (h : Follows t s task plan) : ∃ moves, moves ∈ plan := by
  obtain ⟨_, _, _, ⟨_, hrest⟩, _⟩ := h Unit .void ⟨(), 0⟩
  exact ⟨_, hrest⟩

/-- The same, if the first task may have a value: then the second plan is followed by some task. -/
theorem Follows.andThen [Nonempty β] {x : Task β} {f : β → Task α} (h : Follows t s x plan)
    (hf : ∀ b, Follows t s (f b) plan') : Follows t s (x >>= f) (plan * plan') :=
  h.bind hf (hf (Classical.arbitrary β)).nonempty

theorem Follows.andPure [Nonempty β] {x : Task β} {a : α} (h : Follows t s x plan) :
    Follows t s (x >>= fun _ => pure a) plan := by
  rw [← mul_one plan]
  exact h.andThen fun _ => follows_pure a

theorem follows_deadlineAfter {timeout : Span} {f : Instant → Task α}
    (h : ∀ deadline, Follows t s (f deadline) plan) :
    Follows t s (do let deadline ← deadlineAfter timeout; f deadline) plan := by
  intro σ p w
  obtain ⟨moves, r, alike, planned⟩ := h (w.now + reachableTimeout timeout) σ p w
  exact ⟨moves, r, ⟨alike.exec_eq, alike.trace_eq⟩, planned⟩

/-! ### Runs of moves -/

section

variable {p : Provider σ} {w : World σ} {m : Move} {moves : List Move}

theorem trace_task_ask {c : Call} {action : String} :
    ((Move.ask c action).task t s).run.trace p w =
      [⟨w.now, s.region, c, w.outcome p s.region c⟩] := by
  rw [Move.task, trace_run_bind, trace_run_ask, exec_run_ask]
  cases w.outcome p s.region c <;> rfl

theorem exec_task_ask {c : Call} {action : String} {e : RemoteError}
    (h : w.outcome p s.region c = .error e) :
    (((Move.ask c action).task t s).run.exec p w).1 = some (.error (.remote action e)) := by
  rw [Move.task, exec_run_bind, exec_run_ask, h]

theorem trace_unbindPort {region : Region} {portId : String} :
    (unbindPort region portId).run.trace p w =
      [⟨w.now, region, .detachFloatingIp portId,
        w.outcome p region (.detachFloatingIp portId)⟩] := by
  show _ :: (match w.outcome p region (.detachFloatingIp portId) with
    | .ok _ => _ | .error e => if e.isNotFound then _ else _ : Program _).trace p _ = _
  split
  · rfl
  · split_ifs <;> rfl

theorem exec_unbindPort {region : Region} {portId : String} {e : RemoteError}
    (h : w.outcome p region (.detachFloatingIp portId) = .error e) (he : e.isNotFound = false) :
    ((unbindPort region portId).run.exec p w).1 =
      some (.error (.remote "detach floating ip" e)) := by
  show ((match w.outcome p region (.detachFloatingIp portId) with
    | .ok _ => _ | .error e => if e.isNotFound then _ else _ : Program _).exec p _).1 = _
  rw [h]
  simp [he]
  rfl

/-- The account of a wait, as a move. -/
theorem statusWait_await (t : Tuning) (s : InstanceState) (p : Provider σ) (w : World σ)
    (target : Status) (action : String) (deadline : Instant) :
    StatusWait s.region s.id target action
      (((Move.await target action deadline).task t s).run.exec p w).1
      (((Move.await target action deadline).task t s).run.trace p w) :=
  gives_awaitStatus σ p w

theorem perform_cons_of_not_ok (moves : List Move)
    (h : ((m.task t s).run.exec p w).1 ≠ some (.ok ())) :
    Alike p w (perform t s (m :: moves)) (m.task t s) := by
  constructor
  · rw [perform, exec_run_bind]
    rcases hm : (m.task t s).run.exec p w with ⟨_ | (e | _), w'⟩
    · rfl
    · rfl
    · rw [hm] at h
      exact absurd rfl h
  · rw [perform, trace_run_bind]
    rcases hm : (m.task t s).run.exec p w with ⟨_ | (e | _), w'⟩
    · exact List.append_nil _
    · exact List.append_nil _
    · rw [hm] at h
      exact absurd rfl h

/-- **Where an exchange of a run of moves comes from**: it is one of the run of a certain move, the
moves before that have succeeded, and unless it succeeds too, the run ends with it. -/
theorem exists_move_of_trace {pre post : List Exchange} {e : Exchange}
    (h : (perform t s moves).run.trace p w = pre ++ e :: post) :
    ∃ before m after w' es mid mid', moves = before ++ m :: after ∧
      Succeeds p w (perform t s before) () w' es ∧
      (m.task t s).run.trace p w' = mid ++ e :: mid' ∧ pre = es ++ mid ∧
      (((m.task t s).run.exec p w').1 ≠ some (.ok ()) → post = mid' ∧
        ((perform t s moves).run.exec p w).1 = ((m.task t s).run.exec p w').1) := by
  induction moves generalizing w pre with
  | nil =>
    change [] = pre ++ e :: post at h
    simp at h
  | cons m moves ih =>
    have start : Succeeds p w (perform t s []) () w [] := succeeds_pure_iff.2 ⟨rfl, rfl, rfl⟩
    by_cases hm : ((m.task t s).run.exec p w).1 = some (.ok ())
    · have run := succeeds_of_exec hm
      have htrace := h
      rw [perform, trace_run_bind, run.exec_eq] at htrace
      rcases append_eq_append_cons htrace with ⟨pre', rfl, hrest⟩ | ⟨post', hfirst, -⟩
      · -- The exchange is one of a later move.
        obtain ⟨before, m', after, w', es, mid, mid', rfl, hbefore, hmid, rfl, hlast⟩ := ih hrest
        refine ⟨m :: before, m', after, w', _, mid, mid', rfl, run.bind hbefore, hmid, ?_, ?_⟩
        · rw [List.append_assoc]
        · rw [perform, exec_run_bind, run.exec_eq]
          exact hlast
      · exact ⟨[], m, moves, w, [], pre, post', rfl, start, hfirst, rfl, fun hne => absurd hm hne⟩
    · have ends := perform_cons_of_not_ok moves hm
      refine ⟨[], m, moves, w, [], pre, post, rfl, start, ?_, rfl,
        fun _ => ⟨rfl, congrArg Prod.fst ends.exec_eq⟩⟩
      rw [← ends.trace_eq, h]

/-! ### The changes of a run -/

/-- The calls of some exchanges that change something. -/
def mutations (es : List Exchange) : List Call := (es.map (·.call)).filter (·.isMutating)

@[simp] theorem mutations_append (es es' : List Exchange) :
    mutations (es ++ es') = mutations es ++ mutations es' := by
  simp [mutations]

/-- A move makes its changes, whether it succeeds or not. -/
theorem mutations_move : mutations ((m.task t s).run.trace p w) = m.mutations := by
  cases m with
  | ask c action =>
    rw [trace_task_ask]
    simp [mutations, Move.mutations, List.filter_singleton, Bool.cond_eq_ite]
  | unbind portId =>
    rw [Move.task, trace_unbindPort]
    rfl
  | await target action deadline =>
    refine List.filter_eq_nil_iff.2 fun c hc => ?_
    obtain ⟨e, he, rfl⟩ := List.mem_map.1 hc
    obtain ⟨start, o, rfl⟩ := (statusWait_await ..).looks e he
    exact Bool.false_ne_true

/-- **A run of moves makes their changes in order**, up to where it ends. -/
theorem mutations_perform_isPrefix :
    mutations ((perform t s moves).run.trace p w) <+: moves.flatMap Move.mutations := by
  induction moves generalizing w with
  | nil => exact List.prefix_refl _
  | cons m moves ih =>
    rw [List.flatMap_cons]
    by_cases hm : ((m.task t s).run.exec p w).1 = some (.ok ())
    · rw [perform, trace_run_bind, (succeeds_of_exec hm).exec_eq, mutations_append, mutations_move]
      exact (List.prefix_append_right_inj _).2 ih
    · rw [(perform_cons_of_not_ok moves hm).trace_eq, mutations_move]
      exact List.prefix_append _ _

/-- If they all succeed, it makes all their changes. -/
theorem mutations_perform {w' : World σ} {es : List Exchange}
    (h : Succeeds p w (perform t s moves) () w' es) :
    mutations es = moves.flatMap Move.mutations := by
  induction moves generalizing w es with
  | nil =>
    obtain ⟨-, -, rfl⟩ := succeeds_pure_iff.1 h
    rfl
  | cons m moves ih =>
    obtain ⟨_, w₁, es₁, es₂, h₁, h₂, rfl⟩ := succeeds_bind_iff.1 h
    rw [mutations_append, ih h₂, List.flatMap_cons, ← h₁.trace_eq, mutations_move]

end

end Reconciler
