import Reconciler.Lifecycle.Waiting
import Reconciler.Proofs.Runs
import Reconciler.Proofs.Waiting.Rounds

/-!
# The accounts of programs

What is true of every run of a program, whoever answers its calls and however long they take, is a
statement about the value of the run and its exchanges. `Program.Gives` is such a statement, an
*account* of the program. There is one rule for each way to build a program, and one for waits: it
is enough to look at a single check, and at what a check that decides nothing does to the account of
the checks after it.

## What is proved

* `Program.Gives.bind`, `Gives.bind`: the accounts of composed programs and tasks.
* `gives_loop`, `gives_poll`: the rule of waits.
* `gives_watch`, `gives_poll_watch`: the account of a wait whose checks make one exchange each.
* `gives_awaitStatus`: the account of a wait for a status.
-/

namespace Reconciler

variable {α β τ : Type}

namespace Program

/-- **What every run of a program gives**: `post` holds of its value, unless it is unfinished, and
of its exchanges. -/
def Gives (q : Program α) (post : Option α → List Exchange → Prop) : Prop :=
  ∀ (σ : Type) (p : Provider σ) (w : World σ), post (q.exec p w).1 (q.trace p w)

variable {post : Option α → List Exchange → Prop}

theorem Gives.mono {q : Program α} {post' : Option α → List Exchange → Prop} (h : q.Gives post)
    (hp : ∀ r es, post r es → post' r es) : q.Gives post' :=
  fun σ p w => hp _ _ (h σ p w)

theorem gives_pure {a : α} (h : post (some a) []) : (Program.pure a).Gives post :=
  fun _ _ _ => h

theorem gives_unfinished (h : post none []) : (Program.unfinished : Program α).Gives post :=
  fun _ _ _ => h

/-- The account of two programs in a row: the second goes on from the exchanges of the first. -/
theorem Gives.bind {q : Program β} {f : β → Program α} {mid : Option β → List Exchange → Prop}
    (h : q.Gives mid)
    (hf : ∀ b es, mid (some b) es → (f b).Gives fun r es' => post r (es ++ es'))
    (unfinished : ∀ es, mid none es → post none es) : (q.bind f).Gives post := by
  intro σ p w
  have first := h σ p w
  rw [exec_bind, trace_bind]
  rcases hr : q.exec p w with ⟨_ | b, w'⟩
  all_goals rw [hr] at first
  · rw [List.append_nil]
    exact unfinished _ first
  · exact hf b _ first σ p w'

theorem gives_request_bind {region : Region} {c : Call} {f : Outcome c → Program α}
    (h : ∀ start o, (f o).Gives fun r es => post r (⟨start, region, c, o⟩ :: es)) :
    ((request region c).bind f).Gives post :=
  fun σ p w => h w.now (w.outcome p region c) σ p (w.afterCall p region c)

theorem Makes.call_mem {σ : Type} {p : Provider σ} {w : World σ} {allowed : Call → Prop}
    {q : Program α} (hq : q.Makes allowed) {e : Exchange} (he : e ∈ q.trace p w) :
    allowed e.call :=
  (hq.trace (fun _ => True) (fun _ _ _ _ _ _ => trivial) trivial he).1

end Program

/-! ### Tasks -/

/-- What every run of a task gives. -/
abbrev Gives (task : Task α) (post : Option (Except Failure α) → List Exchange → Prop) : Prop :=
  task.run.Gives post

variable {post : Option (Except Failure α) → List Exchange → Prop}

theorem gives_pure {a : α} (h : post (some (.ok a)) []) : Gives (pure a) post :=
  fun _ _ _ => h

/-- The account of two tasks in a row: a task that does not end with a value ends both. -/
theorem Gives.bind {x : Task β} {f : β → Task α}
    {mid : Option (Except Failure β) → List Exchange → Prop} (h : Gives x mid)
    (hf : ∀ b es, mid (some (.ok b)) es → Gives (f b) fun r es' => post r (es ++ es'))
    (failed : ∀ e es, mid (some (.error e)) es → post (some (.error e)) es)
    (unfinished : ∀ es, mid none es → post none es) : Gives (x >>= f) post := by
  intro σ p w
  have first := h σ p w
  rw [exec_run_bind, trace_run_bind]
  rcases hr : x.run.exec p w with ⟨_ | (e | b), w'⟩
  all_goals rw [hr] at first
  · rw [List.append_nil]
    exact unfinished _ first
  · rw [List.append_nil]
    exact failed e _ first
  · exact hf b _ first σ p w'

theorem gives_ask {region : Region} {c : Call} {action : String}
    {post : Option (Except Failure c.Answer) → List Exchange → Prop}
    (answered : ∀ start a, post (some (.ok a)) [⟨start, region, c, .ok a⟩])
    (failed : ∀ start e, post (some (.error (.remote action e))) [⟨start, region, c, .error e⟩]) :
    Gives (ask region c action) post := by
  intro σ p w
  rw [exec_run_ask, trace_run_ask]
  cases w.outcome p region c with
  | ok a => exact answered _ a
  | error e => exact failed _ e

theorem gives_lift {q : Program α} {mid : Option α → List Exchange → Prop} (h : q.Gives mid)
    (ended : ∀ a es, mid (some a) es → post (some (.ok a)) es)
    (unfinished : ∀ es, mid none es → post none es) : Gives (liftM q) post := by
  show (q.bind fun a => .pure (.ok a)).Gives post
  refine Program.Gives.bind h (fun a es ha => Program.gives_pure ?_) unfinished
  rw [List.append_nil]
  exact ended a es ha

/-! ### Waits -/

section

variable {ε : Type} [Retryable ε]

/-- **A check of a wait keeps the account** `post`, which goes by the state `s` that the check
starts from. If it decides something, the wait ends in accord with the account. If not, then so it
does at the deadline, and what the later checks give is in accord with the account too when the
exchanges of this one come before. -/
def KeepsAccount (policy : PollPolicy)
    (post : τ → Option (τ × Except (WaitError ε) β) → List Exchange → Prop) (s : τ) :
    Option (τ × Check ε β) → List Exchange → Prop :=
  let undecided (s' : τ) (es : List Exchange) : Prop :=
    (∀ waited last, post s (some (s', .error (.timeout waited last))) es) ∧
      ∀ r es', post s' r es' → post s r (es ++ es')
  fun
  | none, es => post s none es
  | some (s', .done v), es => post s (some (s', .ok v)) es
  | some (s', .notYet), es => undecided s' es
  | some (s', .failed e), es =>
    if policy.abortsOn (Retryable.retryClass e) then post s (some (s', .error (.aborted e))) es
    else undecided s' es

variable {w : Wait} {check : τ → Program (τ × Check ε β)}
  {post : τ → Option (τ × Except (WaitError ε) β) → List Exchange → Prop}

/-- **The rule of waits**: an account that each check keeps is one of the wait. -/
theorem gives_loop (unfinished : ∀ s, post s none [])
    (h : ∀ s, (check s).Gives (KeepsAccount w.policy post s)) (started : Instant) (n : Nat) (s : τ)
    (lastError : Option String) : (w.loop check started n s lastError).Gives (post s) := by
  induction n generalizing s lastError with
  | zero => exact Program.gives_unfinished (unfinished s)
  | succ n ih =>
    have again (s' : τ) (e : Option String) (es : List Exchange)
        (timeout : ∀ waited last, post s (some (s', .error (.timeout waited last))) es)
        (later : ∀ r es', post s' r es' → post s r (es ++ es')) :
        (w.goOn check started n s' e).Gives fun r es' => post s r (es ++ es') := by
      intro σ p v
      rw [Wait.exec_goOn, Wait.trace_goOn]
      split_ifs
      · have late := timeout (v.now - started).toNat e
        rw [← List.append_nil es] at late
        exact late
      · exact later _ _ (ih s' e σ p _)
    rw [Wait.loop_succ]
    refine Program.Gives.bind (h s) (fun b es hb => ?_) fun es hn => hn
    rcases b with ⟨s', v | _ | e⟩
    · refine Program.gives_pure ?_
      rw [List.append_nil]
      exact hb
    · exact again s' _ es hb.1 hb.2
    · simp only [KeepsAccount] at hb
      split_ifs at hb with aborts
      · rw [Wait.afterCheck_failed, if_pos aborts]
        refine Program.gives_pure ?_
        rw [List.append_nil]
        exact hb
      · rw [Wait.afterCheck_failed, if_neg aborts]
        exact again s' _ es hb.1 hb.2

theorem gives_run (unfinished : ∀ s, post s none [])
    (h : ∀ s, (check s).Gives (KeepsAccount w.policy post s)) (s : τ) :
    (w.run check s).Gives (post s) :=
  fun σ p v => gives_loop unfinished h v.now _ s none σ p v

/-- The same for a wait whose checks carry no state. -/
theorem gives_poll {check : Program (Check ε β)}
    {post : Option (Except (WaitError ε) β) → List Exchange → Prop} (unfinished : post none [])
    (h : check.Gives fun seen => KeepsAccount w.policy (fun _ r => post (r.map (·.2))) ()
      (seen.map fun seen => ((), seen))) : (w.poll check).Gives post := by
  have look (_ : Unit) : (check.bind fun seen => .pure ((), seen)).Gives
      (KeepsAccount w.policy (fun _ r => post (r.map (·.2))) ()) := by
    refine Program.Gives.bind h (fun seen es hseen => Program.gives_pure ?_) fun es hn => hn
    rw [List.append_nil]
    exact hseen
  have run : (w.run (fun _ : Unit => check.bind fun seen => .pure ((), seen)) ()).Gives
      fun r => post (r.map (·.2)) :=
    gives_run (fun _ => unfinished) look ()
  refine Program.Gives.bind run (fun b es hb => Program.gives_pure ?_) fun es hn => hn
  rw [List.append_nil]
  exact hb

end

/-! ### Waits that look once a check -/

section

variable {ε : Type}

/-- **The account of a wait whose checks make one exchange each**: each exchange is a `look`, it
takes the state of the checks as `advance` says, and a wait that succeeds ends with a look that
`shows` its value. The checks start from the state `s`. -/
structure Watch (look : Exchange → Prop) (advance : τ → Exchange → τ)
    (shows : Exchange → β → Prop) (s : τ) (r : Option (τ × Except (WaitError ε) β))
    (es : List Exchange) : Prop where
  /-- The wait only looks. -/
  looks : ∀ e ∈ es, look e
  /-- The state goes from look to look. -/
  state : ∀ s' result, r = some (s', result) → s' = es.foldl advance s
  /-- The value is the one that the last look shows. -/
  value : ∀ s' v, r = some (s', .ok v) → ∃ earlier last, es = earlier ++ [last] ∧ shows last v

variable {look : Exchange → Prop} {advance : τ → Exchange → τ} {shows : Exchange → β → Prop}

/-- A look may come before. -/
theorem Watch.cons {s : τ} {e : Exchange} {r : Option (τ × Except (WaitError ε) β)}
    {es : List Exchange} (he : look e) (h : Watch look advance shows (advance s e) r es) :
    Watch look advance shows s r (e :: es) where
  looks := by
    intro e' he'
    rcases List.mem_cons.1 he' with rfl | he'
    · exact he
    · exact h.looks e' he'
  state s' result hr := h.state s' result hr
  value s' v hr := by
    obtain ⟨earlier, last, rfl, hlast⟩ := h.value s' v hr
    exact ⟨e :: earlier, last, rfl, hlast⟩

theorem Watch.last {s : τ} {e : Exchange} {result : Except (WaitError ε) β} (he : look e)
    (hv : ∀ v, result = .ok v → shows e v) :
    Watch look advance shows s (some (advance s e, result)) [e] where
  looks e' he' := List.mem_singleton.1 he' ▸ he
  state s' result' hr := by
    obtain ⟨rfl, -⟩ := Prod.mk.inj (Option.some.inj hr)
    rfl
  value s' v hr := by
    obtain ⟨-, hresult⟩ := Prod.mk.inj (Option.some.inj hr)
    exact ⟨[], e, rfl, hv v hresult⟩

variable [Retryable ε] {w : Wait} {check : τ → Program (τ × Check ε β)}

/-- **Waits whose checks make one exchange each.** -/
theorem gives_watch (h : ∀ s, (check s).Gives fun r es => ∃ e seen,
      r = some (advance s e, seen) ∧ es = [e] ∧ look e ∧ ∀ v, seen = .done v → shows e v) (s : τ) :
    (w.run check s).Gives (Watch look advance shows s) := by
  have nothing (s : τ) :
      Watch look advance shows s (none : Option (τ × Except (WaitError ε) β)) [] :=
    ⟨fun e he => absurd he List.not_mem_nil, fun _ _ hr => (nomatch hr), fun _ _ hr => (nomatch hr)⟩
  refine gives_run nothing (fun s => (h s).mono ?_) s
  rintro _ _ ⟨e, seen, rfl, rfl, he, hv⟩
  have undecided : KeepsAccount w.policy (Watch look advance shows) s
      (some (advance s e, (.notYet : Check ε β))) [e] :=
    ⟨fun _ _ => .last he fun _ hr => (nomatch hr), fun _ _ later => later.cons he⟩
  cases seen with
  | done v =>
    refine .last he fun v' hr => ?_
    obtain rfl := Except.ok.inj hr
    exact hv v rfl
  | notYet => exact undecided
  | failed cause =>
    show if _ then _ else _
    split
    · exact .last he fun _ hr => nomatch hr
    · exact undecided

/-- The same for a wait whose checks carry no state. -/
theorem gives_poll_watch {check : Program (Check ε β)}
    (h : check.Gives fun r es => ∃ e seen,
      r = some seen ∧ es = [e] ∧ look e ∧ ∀ v, seen = .done v → shows e v) :
    (w.poll check).Gives fun r es => (∀ e ∈ es, look e) ∧
      ∀ v, r = some (.ok v) → ∃ earlier last, es = earlier ++ [last] ∧ shows last v := by
  have run : (w.run (fun _ : Unit => check.bind fun seen => .pure ((), seen)) ()).Gives
      (Watch look (fun _ _ => ()) shows ()) := by
    refine gives_watch (fun _ => Program.Gives.bind h ?_ ?_) ()
    · rintro _ es ⟨e, seen, hseen, rfl, he, hv⟩
      obtain rfl := Option.some.inj hseen
      exact Program.gives_pure ⟨e, _, rfl, rfl, he, hv⟩
    · rintro es ⟨e, seen, hseen, -⟩
      nomatch hseen
  refine Program.Gives.bind run (fun b es watch => Program.gives_pure ?_) fun es watch =>
    ⟨watch.looks, fun _ hr => nomatch hr⟩
  rw [List.append_nil]
  refine ⟨watch.looks, fun v hr => ?_⟩
  have hb : b.2 = .ok v := Option.some.inj hr
  exact watch.value b.1 v (by rw [← hb])

end

/-! ### Waits for a status -/

/-- The exchange is a look at an instance. -/
def Exchange.IsLook (e : Exchange) (region : Region) (id : InstanceId) : Prop :=
  ∃ start o, e = ⟨start, region, .getServer id, o⟩

/-- **The exchange shows a status** of an instance: it is a look that was answered so. -/
def Exchange.Shows (e : Exchange) (region : Region) (id : InstanceId) (status : Status) : Prop :=
  ∃ start, ∃ detail : ServerDetail,
    e = ⟨start, region, .getServer id, .ok detail⟩ ∧ detail.status = status

/-- **The account of a wait** for an instance to come to a status, for an action. -/
structure StatusWait (region : Region) (id : InstanceId) (target : Status) (action : String)
    (r : Option (Except Failure Unit)) (es : List Exchange) : Prop where
  /-- The wait only looks at the instance. -/
  looks : ∀ e ∈ es, e.IsLook region id
  /-- A wait that succeeds ends with a look that shows the status. -/
  reached : r = some (.ok ()) → ∃ earlier last, es = earlier ++ [last] ∧ last.Shows region id target
  /-- A look that shows the instance failed is the last, and the wait fails for it. -/
  failed : target ≠ .error → ∀ earlier look later, es = earlier ++ look :: later →
    look.Shows region id .error →
    later = [] ∧ r = some (.error (.transitionedToError id action))

section

variable {region : Region} {id : InstanceId} {target : Status} {action : String}
  {r : Option (Except Failure Unit)} {es : List Exchange} {look : Exchange}

/-- A wait for nothing. -/
theorem StatusWait.nil (h : r ≠ some (.ok ())) : StatusWait region id target action r [] where
  looks e he := absurd he List.not_mem_nil
  reached hr := absurd hr h
  failed _ earlier look later heq := by simp at heq

theorem StatusWait.cons (h : StatusWait region id target action r es)
    (hlook : look.IsLook region id) (sound : ¬ look.Shows region id .error) :
    StatusWait region id target action r (look :: es) where
  looks e he := by
    rcases List.mem_cons.1 he with rfl | he
    · exact hlook
    · exact h.looks e he
  reached hr := by
    obtain ⟨earlier, last, rfl, hlast⟩ := h.reached hr
    exact ⟨look :: earlier, last, rfl, hlast⟩
  failed ht earlier g later heq hg := by
    cases earlier with
    | nil =>
      obtain ⟨rfl, rfl⟩ := List.cons.inj heq
      exact absurd hg sound
    | cons e earlier => exact h.failed ht earlier g later (List.cons.inj heq).2 hg

theorem StatusWait.last (hlook : look.IsLook region id)
    (reached : r = some (.ok ()) → look.Shows region id target)
    (failed : target ≠ .error → look.Shows region id .error →
      r = some (.error (.transitionedToError id action))) :
    StatusWait region id target action r [look] where
  looks e he := List.mem_singleton.1 he ▸ hlook
  reached hr := ⟨[], look, rfl, reached hr⟩
  failed ht earlier g later heq hg := by
    cases earlier with
    | nil =>
      obtain ⟨rfl, rfl⟩ := List.cons.inj heq
      exact ⟨rfl, failed ht hg⟩
    | cons e earlier => simp at heq

theorem shows_answer_iff {start : Instant} {detail : ServerDetail} {status : Status} :
    Exchange.Shows ⟨start, region, .getServer id, .ok detail⟩ region id status ↔
      detail.status = status := by
  constructor
  · rintro ⟨_, _, heq, hs⟩
    simp only [Exchange.mk.injEq, heq_eq_eq, true_and, Except.ok.injEq] at heq
    rw [heq.2]
    exact hs
  · intro hs
    exact ⟨start, detail, rfl, hs⟩

theorem not_shows_error {start : Instant} {e : RemoteError} {status : Status} :
    ¬ Exchange.Shows ⟨start, region, .getServer id, .error e⟩ region id status := by
  rintro ⟨_, _, heq, -⟩
  simp at heq

/-- The account of a wait for a status, by what the wait for the condition ends with. -/
def StatusWaited (region : Region) (id : InstanceId) (target : Status) (action : String)
    (r : Option (Except (WaitError Failure) Unit)) (es : List Exchange) : Prop :=
  StatusWait region id target action (r.map (awaited action id)) es

/-- A look of a wait for a status keeps the account of the wait. -/
theorem gives_statusCheck {policy : PollPolicy} :
    (statusCheck region id target action).Gives fun seen =>
      KeepsAccount policy (fun _ r => StatusWaited region id target action (r.map (·.2))) ()
        (seen.map fun seen => ((), seen)) := by
  -- After a look that decides nothing the wait is over at the deadline, or other looks follow.
  have undecided {e : Exchange} (hlook : e.IsLook region id) (sound : ¬ e.Shows region id .error) :
      KeepsAccount policy (fun _ r => StatusWaited region id target action (r.map (·.2))) ()
        (some ((), .notYet)) [e] :=
    ⟨fun _ _ => .last hlook (fun h => by simp [awaited] at h) fun _ h => absurd h sound,
      fun _ _ h => h.cons hlook sound⟩
  refine Program.gives_request_bind fun start o => ?_
  have hlook : Exchange.IsLook ⟨start, region, .getServer id, o⟩ region id := ⟨start, o, rfl⟩
  cases o with
  | error e =>
    refine Program.gives_pure ?_
    show if _ then _ else _
    split
    · exact .last hlook (fun h => by simp [awaited] at h) fun _ h => absurd h not_shows_error
    · exact undecided hlook not_shows_error
  | ok detail =>
    show Program.Gives (if (detail : ServerDetail).status = target then _
      else if (detail : ServerDetail).status = .error then _ else _) _
    split_ifs with htarget herror
    · refine Program.gives_pure (.last hlook (fun _ => shows_answer_iff.2 htarget) fun ht hs => ?_)
      exact absurd (htarget.symm.trans (shows_answer_iff.1 hs)) ht
    · refine Program.gives_pure ?_
      -- No policy looks past an instance that failed.
      have aborts : policy.abortsOn .fatal = true := by cases policy <;> rfl
      simp only [KeepsAccount, Option.map_some]
      split
      · exact .last hlook (fun h => by simp [awaited, Failure.ofWait] at h) fun _ _ => rfl
      · rename_i looksOn
        exact absurd aborts looksOn
    · exact Program.gives_pure (undecided hlook fun hs => herror (shows_answer_iff.1 hs))

/-- **What every wait for a status gives.** -/
theorem gives_awaitStatus {t : Tuning} {deadline : Instant} :
    Gives (awaitStatus t region id target action deadline)
      (StatusWait region id target action) := by
  have poll : ((t.wait deadline).poll (statusCheck region id target action)).Gives
      (StatusWaited region id target action) :=
    gives_poll (.nil (by simp)) gives_statusCheck
  refine Program.Gives.bind poll (fun r es hr => Program.gives_pure ?_) fun es hn => hn
  rw [List.append_nil]
  exact hr

end

end Reconciler
