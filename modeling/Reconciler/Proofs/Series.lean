import Reconciler.Lifecycle.Creation
import Reconciler.Proofs.Straight
import Reconciler.Proofs.Waiting.Checks

/-!
# Looks in a row

A wait makes one call after another of the same kind, with nothing in between. How many a run makes
in a row is counted along its exchanges: each look adds one, and every other call starts the count
anew. `Program.Polls` bounds the count for every run of a program, and says that the run ends; its
rules follow the ways to build a program.

## What is proved

* `Counted.length_le`: no series of looks is longer than the bound of the count.
* `Program.now_le_exec`: the clock does not go back.
* `Wait.budget_le`, `asks_loop`, `asks_run`: a wait whose checks make one call each makes no more
  calls than it needs checks.
* `Program.Polls.bind` and its companions: one rule for each way to build a program.
* `Polls.bind` and its companions: the same for tasks.
-/

namespace Reconciler

variable {α β τ : Type} {look kind : Call → Prop} {n c c' : ℕ} {es fs series : List Exchange}

/-! ### Counting looks -/

/-- **Looks in a row are counted** along some exchanges, from `c` before them to `c'` at their end.
There are never more than `n`. -/
inductive Counted (look : Call → Prop) (n : ℕ) : ℕ → List Exchange → ℕ → Prop where
  /-- There are no exchanges. -/
  | nil {c : ℕ} : c ≤ n → Counted look n c [] c
  /-- The first is a look. -/
  | look {c c' : ℕ} {e : Exchange} {es : List Exchange} : look e.call →
      Counted look n (c + 1) es c' → Counted look n c (e :: es) c'
  /-- The first is none, and the count starts anew. -/
  | aside {c c' : ℕ} {e : Exchange} {es : List Exchange} : c ≤ n → ¬ look e.call →
      Counted look n 0 es c' → Counted look n c (e :: es) c'

namespace Counted

theorem le_start (h : Counted look n c es c') : c ≤ n := by
  induction h with
  | nil le => exact le
  | look _ _ ih => exact Nat.le_of_succ_le ih
  | aside le _ _ _ => exact le

theorem le_end (h : Counted look n c es c') : c' ≤ n := by
  induction h with
  | nil le => exact le
  | look _ _ ih => exact ih
  | aside _ _ _ ih => exact ih

theorem append {c'' : ℕ} (h : Counted look n c es c') (h' : Counted look n c' fs c'') :
    Counted look n c (es ++ fs) c'' := by
  induction h with
  | nil _ => exact h'
  | look isLook _ ih => exact .look isLook (ih h')
  | aside le isNone _ ih => exact .aside le isNone (ih h')

/-- The count goes on from some number within the exchanges. -/
theorem of_append (h : Counted look n c (es ++ fs) c') : ∃ m, Counted look n m fs c' := by
  induction es generalizing c with
  | nil => exact ⟨c, h⟩
  | cons e es ih =>
    cases h with
    | look _ h => exact ih h
    | aside _ _ h => exact ih h

/-- Looks at the beginning of some exchanges go on from those before. -/
theorem length_le_of_append (h : Counted look n c (series ++ fs) c')
    (looks : ∀ e ∈ series, look e.call) : c + series.length ≤ n := by
  induction series generalizing c with
  | nil => exact h.le_start
  | cons e series ih =>
    cases h with
    | look _ h =>
      have := ih h fun e he => looks e (List.mem_cons_of_mem _ he)
      rw [List.length_cons]
      omega
    | aside _ isNone _ => exact absurd (looks e List.mem_cons_self) isNone

/-- **No series of looks is longer than the bound.** -/
theorem length_le (h : Counted look n c es c') (inside : series <:+: es)
    (looks : ∀ e ∈ series, look e.call) : series.length ≤ n := by
  obtain ⟨before, after, rfl⟩ := inside
  rw [List.append_assoc] at h
  obtain ⟨m, h⟩ := h.of_append
  exact Nat.le_trans (Nat.le_add_left _ m) (h.length_le_of_append looks)

theorem of_length (es : List Exchange) (few : c + es.length ≤ n) :
    ∃ c', Counted look n c es c' := by
  induction es generalizing c with
  | nil => exact ⟨c, .nil few⟩
  | cons e es ih =>
    rw [List.length_cons] at few
    by_cases isLook : look e.call
    · obtain ⟨c', h⟩ := ih (c := c + 1) (by omega)
      exact ⟨c', .look isLook h⟩
    · obtain ⟨c', h⟩ := ih (c := 0) (by omega)
      exact ⟨c', .aside (by omega) isLook h⟩

/-- Exchanges none of which is a look keep the count or start it anew. -/
theorem of_asides (asides : ∀ e ∈ es, ¬ look e.call) (le : c ≤ n) :
    ∃ c' ≤ c, Counted look n c es c' := by
  induction es generalizing c with
  | nil => exact ⟨c, Nat.le_refl c, .nil le⟩
  | cons e es ih =>
    obtain ⟨c', le', h⟩ := ih (fun e he => asides e (List.mem_cons_of_mem _ he)) (Nat.zero_le n)
    exact ⟨c', Nat.le_trans le' (Nat.zero_le c), .aside le (asides e List.mem_cons_self) h⟩

end Counted

/-! ### Programs that make calls of one kind -/

namespace Program

/-- **The clock does not go back.** -/
theorem now_le_exec {σ : Type} (p : Provider σ) (q : Program α) (w : World σ) :
    w.now ≤ (q.exec p w).2.now := by
  induction q generalizing w with
  | pure a => exact Int.le_refl _
  | call r c k ih =>
    exact Int.le_trans (Int.le_add_of_nonneg_right (Int.natCast_nonneg _)) (ih _ _)
  | now k ih => exact ih _ _
  | sleep d q ih =>
    exact Int.le_trans (Int.le_add_of_nonneg_right (Int.natCast_nonneg _)) (ih (w.afterSleep d))
  | unfinished => exact Int.le_refl _

/-- **A program makes calls of one kind**, begun at an instant or later: it ends with a value, and
makes at most `n` calls. -/
def Asks (kind : Call → Prop) (n : ℕ) (since : Instant) (q : Program α) : Prop :=
  ∀ (σ : Type) (p : Provider σ) (w : World σ), since ≤ w.now →
    ∃ a, (q.exec p w).1 = some a ∧ (∀ e ∈ q.trace p w, kind e.call) ∧ (q.trace p w).length ≤ n

/-- A program that makes a single call, of that kind. -/
def AsksOnce (kind : Call → Prop) (q : Program α) : Prop :=
  q.Gives fun r es => ∃ a e, r = some a ∧ es = [e] ∧ kind e.call

variable {since : Instant}

theorem asksOnce_request_bind {region : Region} {call : Call} {f : Outcome call → Program α}
    (h : kind call) (hf : ∀ o, ∃ a, f o = .pure a) :
    ((request region call).bind f).AsksOnce kind := by
  refine gives_request_bind fun start o => ?_
  obtain ⟨a, ha⟩ := hf o
  rw [ha]
  exact gives_pure ⟨a, _, rfl, rfl, h⟩

theorem Asks.bind_pure {q : Program β} (h : q.Asks kind n since) (f : β → α) :
    (q.bind fun b => .pure (f b)).Asks kind n since := by
  intro σ p w hw
  obtain ⟨b, hb, calls, few⟩ := h σ p w hw
  rw [exec_bind, trace_bind]
  rcases hr : q.exec p w with ⟨r, w'⟩
  rw [hr] at hb
  obtain rfl : r = some b := hb
  show ∃ a, some (f b) = some a ∧ (∀ e ∈ q.trace p w ++ [], kind e.call) ∧
    (q.trace p w ++ []).length ≤ n
  rw [List.append_nil]
  exact ⟨f b, rfl, calls, few⟩

theorem AsksOnce.bind_pure {q : Program β} (h : q.AsksOnce kind) (f : β → α) :
    (q.bind fun b => .pure (f b)).AsksOnce kind := by
  refine Gives.bind h (fun b es hb => gives_pure ?_) fun es ⟨_, _, h, _⟩ => nomatch h
  obtain ⟨_, e, -, rfl, he⟩ := hb
  exact ⟨f b, e, rfl, rfl, he⟩

end Program

/-! ### Waits -/

section

variable {ε : Type} [Retryable ε] {w : Wait} {check : τ → Program (τ × Check ε β)}
  {since : Instant}

/-- **A wait makes no more checks than are enough.** -/
theorem Wait.budget_le (sleeps : w.interval ≠ 0) {started : Instant}
    (enough : w.Enough started n) : w.budget started ≤ n := by
  obtain ⟨strides, rfl, hrest⟩ := enough
  have fits := (ceilDiv_le_iff_le_mul (Wait.stride_pos sleeps)).2 (Nat.mul_comm .. ▸ hrest)
  rw [Wait.budget_eq sleeps, Nat.add_comm strides]
  exact Nat.add_le_add_left fits 1

/-- **The rounds of a wait** whose checks make one call each: with enough checks it ends, and makes
no more calls than it has checks. -/
theorem asks_loop (once : ∀ s, (check s).AsksOnce kind) (started : Instant) {σ : Type}
    {p : Provider σ} {v : World σ} {k : ℕ} (enough : w.Enough v.now k) (s : τ)
    (lastError : Option String) :
    ∃ r, ((w.loop check started k s lastError).exec p v).1 = some r ∧
      (∀ e ∈ (w.loop check started k s lastError).trace p v, kind e.call) ∧
      ((w.loop check started k s lastError).trace p v).length ≤ k := by
  induction k generalizing v s lastError with
  | zero =>
    obtain ⟨_, noneLeft, -⟩ := enough
    nomatch noneLeft
  | succ k ih =>
    have later := Program.now_le_exec p (check s) v
    obtain ⟨⟨s', seen⟩, e, value, call, he⟩ := once s σ p v
    rw [Wait.loop_succ, Program.exec_bind, Program.trace_bind, call]
    rcases hr : (check s).exec p v with ⟨r, v'⟩
    rw [hr] at value later
    obtain rfl : r = some (s', seen) := value
    dsimp only
    have first : ∀ e' ∈ [e], kind e'.call := fun e' he' => List.mem_singleton.1 he' ▸ he
    cases verdict : seen.verdict? w.policy with
    | some result =>
      rw [Wait.afterCheck_of_some _ _ _ _ _ _ verdict]
      exact ⟨_, rfl, first, Nat.le_add_left 1 k⟩
    | none =>
      rw [Wait.afterCheck_of_none _ _ _ _ _ _ verdict, Wait.exec_goOn, Wait.trace_goOn]
      split_ifs with late
      · exact ⟨_, rfl, first, Nat.le_add_left 1 k⟩
      · obtain ⟨r, ended, calls, few⟩ := ih (v := v'.afterSleep (min (w.nap v'.now) longestSleep))
          ((enough.later later).next late) s' (seen.lastError lastError)
        exact ⟨r, ended, List.forall_mem_append.2 ⟨first, calls⟩, Nat.succ_le_succ few⟩

/-- A wait that sleeps ends, with one call for each check. -/
theorem asks_run (once : ∀ s, (check s).AsksOnce kind) (sleeps : w.interval ≠ 0)
    (enough : w.Enough since n) (s : τ) : (w.run check s).Asks kind n since := by
  intro σ p v hv
  obtain ⟨r, ended, calls, few⟩ :=
    asks_loop (p := p) once v.now (Wait.enough_budget sleeps v.now) s none
  exact ⟨r, ended, calls, Nat.le_trans few (Wait.budget_le sleeps (enough.later hv))⟩

/-- The same for a wait whose checks carry no state. -/
theorem asks_poll {check : Program (Check ε β)} (once : check.AsksOnce kind)
    (sleeps : w.interval ≠ 0) (enough : w.Enough since n) : (w.poll check).Asks kind n since :=
  (asks_run (fun _ => once.bind_pure fun seen => ((), seen)) sleeps enough ()).bind_pure _

end

/-! ### Programs that look within bounds -/

namespace Program

/-- **A program looks within bounds**, begun at an instant or later and after `c` looks in a row: it
ends with a value, it never makes more than `n` looks in a row, and `post` holds of the value and of
the looks in a row at its end. -/
def Polls (look : Call → Prop) (n : ℕ) (since : Instant) (c : ℕ) (q : Program α)
    (post : α → ℕ → Prop) : Prop :=
  ∀ (σ : Type) (p : Provider σ) (w : World σ), since ≤ w.now →
    ∃ a c', (q.exec p w).1 = some a ∧ Counted look n c (q.trace p w) c' ∧ post a c'

variable {since : Instant} {post : α → ℕ → Prop}

theorem polls_pure {a : α} (le : c ≤ n) (h : post a c) :
    (Program.pure a).Polls look n since c post :=
  fun _ _ _ _ => ⟨a, c, rfl, .nil le, h⟩

theorem Polls.mono {q : Program α} {post' : α → ℕ → Prop} (h : q.Polls look n since c post)
    (hp : ∀ a c', post a c' → post' a c') : q.Polls look n since c post' := by
  intro σ p w hw
  obtain ⟨a, c', value, counted, ha⟩ := h σ p w hw
  exact ⟨a, c', value, counted, hp a c' ha⟩

theorem Polls.bind {q : Program β} {f : β → Program α} {mid : β → ℕ → Prop}
    (h : q.Polls look n since c mid)
    (hf : ∀ b c', c' ≤ n → mid b c' → (f b).Polls look n since c' post) :
    (q.bind f).Polls look n since c post := by
  intro σ p w hw
  have later := Int.le_trans hw (now_le_exec p q w)
  obtain ⟨b, c₁, value, counted, hb⟩ := h σ p w hw
  rw [exec_bind, trace_bind]
  rcases hr : q.exec p w with ⟨r, w'⟩
  rw [hr] at value later
  obtain rfl : r = some b := value
  obtain ⟨a, c', value', counted', ha⟩ := hf b c₁ counted.le_end hb σ p w' later
  exact ⟨a, c', value', counted.append counted', ha⟩

/-- What follows a look at the clock begins no sooner. -/
theorem polls_clock_bind {f : Instant → Program α}
    (h : ∀ now, since ≤ now → (f now).Polls look n now c post) :
    (clock.bind f).Polls look n since c post :=
  fun σ p w hw => h w.now hw σ p w (Int.le_refl _)

theorem polls_request_bind {region : Region} {call : Call} {f : Outcome call → Program α}
    (le : c ≤ n) (isNone : ¬ look call) (hf : ∀ o, (f o).Polls look n since 0 post) :
    ((request region call).bind f).Polls look n since c post := by
  intro σ p w hw
  have later : since ≤ (w.afterCall p region call).now :=
    Int.le_trans hw (Int.le_add_of_nonneg_right (Int.natCast_nonneg _))
  obtain ⟨a, c', value, counted, ha⟩ :=
    hf (w.outcome p region call) σ p (w.afterCall p region call) later
  exact ⟨a, c', value, .aside le isNone counted, ha⟩

theorem Asks.polls {q : Program α} (h : q.Asks kind n since) :
    q.Polls look n since 0 fun _ _ => True := by
  intro σ p w hw
  obtain ⟨a, value, -, few⟩ := h σ p w hw
  obtain ⟨c', counted⟩ := Counted.of_length (q.trace p w) (Nat.le_trans (Nat.zero_add _).le few)
  exact ⟨a, c', value, counted, trivial⟩

/-- A program that does not look adds nothing to a series. -/
theorem Asks.polls_aside {m : ℕ} {q : Program α} (h : q.Asks kind m since)
    (other : ∀ call, kind call → ¬ look call) (le : c ≤ n) :
    q.Polls look n since c fun _ c' => c' ≤ c := by
  intro σ p w hw
  obtain ⟨a, value, calls, -⟩ := h σ p w hw
  obtain ⟨c', le', counted⟩ := Counted.of_asides (fun e he => other _ (calls e he)) le
  exact ⟨a, c', value, counted, le'⟩

theorem Straight.polls {sound : α → Prop} {q : Program α} (h : q.Straight kind sound)
    (other : ∀ call, kind call → ¬ look call) (le : c ≤ n) :
    q.Polls look n since c fun _ c' => c' ≤ c := by
  intro σ p w _
  obtain ⟨a, value, -⟩ := h.gives σ p w
  obtain ⟨c', le', counted⟩ :=
    Counted.of_asides (fun e he => other _ (h.makes.call_mem he)) le
  exact ⟨a, c', value, counted, le'⟩

end Program

/-! ### Tasks that look within bounds -/

/-- **A task looks within bounds**, and if it succeeds, `good` holds of the looks in a row at its
end. -/
def Polls (look : Call → Prop) (n : ℕ) (since : Instant) (c : ℕ) (task : Task α)
    (good : ℕ → Prop) : Prop :=
  task.run.Polls look n since c fun r c' => ∀ a, r = .ok a → good c'

variable {since : Instant} {good mid : ℕ → Prop}

theorem polls_pure {a : α} (le : c ≤ n) (h : good c) :
    Polls look n since c (pure a : Task α) good :=
  Program.polls_pure le fun _ _ => h

theorem polls_throw {e : Failure} (le : c ≤ n) : Polls look n since c (throw e : Task α) good :=
  Program.polls_pure le fun _ h => nomatch h

theorem Polls.mono {task : Task α} {good' : ℕ → Prop} (h : Polls look n since c task good)
    (hg : ∀ c', good c' → good' c') : Polls look n since c task good' :=
  Program.Polls.mono h fun _ _ hr a ha => hg _ (hr a ha)

theorem Polls.bind {x : Task β} {f : β → Task α} (h : Polls look n since c x mid)
    (hf : ∀ b c', c' ≤ n → mid c' → Polls look n since c' (f b) good) :
    Polls look n since c (x >>= f) good := by
  refine Program.Polls.bind h fun r c' le hr => ?_
  cases r with
  | ok b => exact hf b c' le (hr b rfl)
  | error e => exact Program.polls_pure le fun _ h => nomatch h

/-- A task that makes few calls may begin a series. -/
theorem polls_of_asks {task : Task α} (h : task.run.Asks kind n since) :
    Polls look n since 0 task fun _ => True :=
  h.polls.mono fun _ _ _ _ _ => trivial

theorem polls_of_asides {m : ℕ} {task : Task α} (h : task.run.Asks kind m since)
    (other : ∀ call, kind call → ¬ look call) (le : c ≤ n) :
    Polls look n since c task fun c' => c' ≤ c :=
  (h.polls_aside other le).mono fun _ _ le' _ _ => le'

theorem polls_lift_bind {q : Program β} {f : β → Task α} (h : q.Polls look n since c fun _ => mid)
    (hf : ∀ b c', c' ≤ n → mid c' → Polls look n since c' (f b) good) :
    Polls look n since c (liftM q >>= f) good := by
  rw [Polls, run_liftM_bind]
  exact Program.Polls.bind h hf

theorem polls_ask {region : Region} {call : Call} {action : String} (le : c ≤ n)
    (isNone : ¬ look call) (h : good 0) : Polls look n since c (ask region call action) good := by
  refine Program.polls_request_bind le isNone fun o => ?_
  cases o with
  | ok a => exact polls_pure (Nat.zero_le n) h
  | error e => exact polls_throw (Nat.zero_le n)

theorem polls_ask_bind {region : Region} {call : Call} {action : String}
    {f : call.Answer → Task α} (le : c ≤ n) (isNone : ¬ look call)
    (hf : ∀ a, Polls look n since 0 (f a) good) :
    Polls look n since c (ask region call action >>= f) good := by
  have asked : Polls look n since c (ask region call action) (· = 0) := polls_ask le isNone rfl
  refine asked.bind fun a c' _ h => ?_
  subst h
  exact hf a

/-- What follows the setting of a deadline begins no sooner. -/
theorem polls_deadlineAfter_bind {timeout : Span} {f : Instant → Task α}
    (h : ∀ now, Polls look n now c (f (now + reachableTimeout timeout)) good) :
    Polls look n since c (liftM (deadlineAfter timeout) >>= f) good := by
  rw [Polls, run_liftM_bind]
  exact Program.polls_clock_bind fun now _ => h now

theorem Polls.within {s : InstanceState} {step : Task α} (h : Polls look n since c step good) :
    Polls look n since c (within s step) good := by
  refine Program.Polls.bind h fun r c' le hr => ?_
  cases r with
  | ok a => exact polls_pure le (hr a rfl)
  | error e => exact polls_throw (e := .incomplete s e) le

/-- A step that goes straight through and does not look adds nothing to a series. -/
theorem GoesStraight.polls {x : Task α} (h : GoesStraight kind x)
    (other : ∀ call, kind call → ¬ look call) (le : c ≤ n) :
    Polls look n since c x fun c' => c' ≤ c :=
  (Program.Straight.polls h other le).mono fun _ _ le' _ _ => le'

end Reconciler
