import Reconciler.Proofs.Creation.ReadBack
import Reconciler.Proofs.Creation.Result
import Reconciler.Proofs.Reading.Again
import Reconciler.Proofs.Update.Guard
import Reconciler.Proofs.Update.Phases
import Reconciler.Proofs.Update.Result
import Reconciler.Session

/-!
# The lifetime of an instance

An instance is tracked from its creation on, over any number of reads and updates. Each of these
starts from the state that is tracked, and where it fails, that state stays. Whatever the provider
answers, the tracked state is always that of the same instance: what identifies it is kept, and its
root disk does not shrink. Nor does the state ever come to have two attachments to one network,
though each operation makes up its attachments in its own way: a creation in the order of its
requests, a read by merging what it finds into what was tracked, and an update request by request.

## What is proved

* `comesTo_readInstance`, `comesTo_updateInstance`: what one read and one update keep.
* `continues_after`: what a run of reads and updates keeps.
* `tracked_persists`: the state that is tracked, from its creation on.
-/

namespace Reconciler

variable {α β σ : Type}

/-! ### What is kept -/

/-- **The state `s'` is that of the instance of `s`**, at some later time. -/
structure Persists (s s' : InstanceState) : Prop where
  /-- The identifier stays. -/
  id : s'.id = s.id
  /-- The creation task stays. -/
  taskId : s'.taskId = s.taskId
  /-- The password stays. -/
  password : s'.password = s.password
  /-- The region stays. -/
  region : s'.region = s.region
  /-- A cluster that is known stays known. -/
  clusterId : s.clusterId.isSome → s'.clusterId.isSome
  /-- The root disk does not shrink. -/
  diskSize : s.applied.diskSize ≤ s'.applied.diskSize

/-- There is at most one attachment to each network. -/
def InstanceState.Distinct (s : InstanceState) : Prop := (s.networks.map (·.networkId)).Nodup

/-- **The state `s'` may follow `s`**: it is that of the same instance, and if there was at most one
attachment to each network, there still is. -/
structure Continues (s s' : InstanceState) : Prop extends Persists s s' where
  /-- The attachments stay distinct. -/
  distinct : s.Distinct → s'.Distinct

theorem Continues.refl (s : InstanceState) : Continues s s :=
  ⟨⟨rfl, rfl, rfl, rfl, fun h => h, Nat.le_refl _⟩, fun h => h⟩

theorem Continues.trans {s s₁ s₂ : InstanceState} (h : Continues s s₁) (h' : Continues s₁ s₂) :
    Continues s s₂ where
  id := h'.id.trans h.id
  taskId := h'.taskId.trans h.taskId
  password := h'.password.trans h.password
  region := h'.region.trans h.region
  clusterId := fun known => h'.clusterId (h.clusterId known)
  diskSize := Nat.le_trans h.diskSize h'.diskSize
  distinct := fun distinct => h'.distinct (h.distinct distinct)

/-! ### What a task comes to -/

/-- **A task ends well**: its value, if it has one, is `good`, and its failure is not that of a
creation that came part of the way. -/
def EndsWell (good : α → Prop) : Option (Except Failure α) → Prop
  | some (.ok a) => good a
  | some (.error e) => Session.partialState? e = none
  | none => True

/-- **What a task comes to**, whoever answers its calls. -/
abbrev ComesTo (task : Task α) (good : α → Prop) : Prop := Gives task fun r _ => EndsWell good r

theorem comesTo_pure {good : α → Prop} {a : α} (h : good a) : ComesTo (pure a) good := gives_pure h

theorem comesTo_ask {region : Region} {c : Call} {action : String} :
    ComesTo (ask region c action) fun _ => True :=
  gives_ask (fun _ _ => trivial) fun _ _ => rfl

theorem ComesTo.bind {mid : β → Prop} {good : α → Prop} {x : Task β} {f : β → Task α}
    (h : ComesTo x mid) (hf : ∀ b, mid b → ComesTo (f b) good) : ComesTo (x >>= f) good :=
  Gives.bind h (fun b _ hb => hf b hb) (fun _ _ he => he) fun _ _ => trivial

theorem Failure.IsPlain.partialState?_eq {e : Failure} (h : e.IsPlain) :
    Session.partialState? e = none := by
  cases e <;> first | rfl | exact h.elim

/-- A task that goes straight through ends well. -/
theorem GoesStraight.comesTo {allowed : Call → Prop} {x : Task α} (h : GoesStraight allowed x) :
    ComesTo x fun _ => True := by
  refine Program.Gives.mono (Program.Straight.gives h) ?_
  rintro _ _ ⟨_ | _, rfl, plain⟩
  · exact (plain _ rfl).partialState?_eq
  · trivial

/-- What is known of the values of a task besides. -/
theorem ComesTo.of_succeeds {good : α → Prop} {x : Task α} (h : ComesTo x fun _ => True)
    (values : ∀ (σ : Type) (p : Provider σ) (w w' : World σ) a es,
      Succeeds p w x a w' es → good a) : ComesTo x good := by
  intro σ p w
  have ends := h σ p w
  cases hr : (x.run.exec p w).1 with
  | none => trivial
  | some r =>
    rw [hr] at ends
    cases r with
    | error e => exact ends
    | ok a => exact values σ p w _ a _ (succeeds_of_exec hr)

/-! ### Reads -/

section

variable {s : InstanceState} {detail : ServerDetail}

theorem continues_withDetail : Continues s (s.withDetail detail) := by
  refine ⟨⟨rfl, rfl, rfl, rfl, fun known => ?_, Nat.le_refl _⟩, fun h => h⟩
  show Option.isSome (if detail.clusterId = "" then s.clusterId else some detail.clusterId)
  split_ifs
  · exact known
  · rfl

/-- Attachments that are merged are distinct, whatever was tracked before. -/
theorem continues_withNetworks {listing : List Network} {book : Option AddressBook} :
    Continues s (s.withNetworks listing book) := by
  cases book with
  | none => exact .refl s
  | some book =>
    exact ⟨⟨rfl, rfl, rfl, rfl, fun known => known, Nat.le_refl _⟩,
      fun _ => nodup_mergeAttachments (filed_attachmentsOn _ _) _⟩

theorem continues_withVolumes {volumes : List Volume} : Continues s (s.withVolumes volumes) :=
  ⟨⟨rfl, rfl, rfl, rfl, fun known => known, Nat.le_refl _⟩, fun h => h⟩

theorem continues_withFloatingIp {binding : Option FloatingIpBinding} :
    Continues s (s.withFloatingIp binding) :=
  ⟨⟨rfl, rfl, rfl, rfl, fun known => known, Nat.le_refl _⟩, fun h => h⟩

theorem comesTo_readAttachments : ComesTo (readAttachments s detail) (Continues s) := by
  refine comesTo_ask.bind fun listing _ => ?_
  refine comesTo_ask.bind fun volumes _ => ?_
  have straight (region : Region) (id : InstanceId) : GoesStraight (fun _ => True)
      (readFloatingIp region id listing) := straight_readFloatingIp trivial
  refine (straight _ _).comesTo.bind fun binding _ => ?_
  exact comesTo_pure <| continues_withDetail.trans <| continues_withNetworks.trans <|
    continues_withVolumes.trans continues_withFloatingIp

/-- **A read** gives the state of the same instance, or nothing. -/
theorem comesTo_readInstance :
    ComesTo (readInstance s) fun r => ∀ s', r = some s' → Continues s s' := by
  refine Program.gives_request_bind fun start o => ?_
  cases o with
  | error e =>
    show Program.Gives (if e.isNotFound then _ else _) _
    split_ifs
    · exact comesTo_pure fun _ hs' => nomatch hs'
    · exact Program.gives_pure rfl
  | ok detail =>
    refine Program.Gives.bind comesTo_readAttachments (fun r es hr => Program.gives_pure ?_)
      fun _ _ => trivial
    cases r with
    | error e => exact hr
    | ok s₁ =>
      rintro _ ⟨⟩
      exact hr

end

/-! ### Updates -/

section

variable {t : Tuning} {region : Region} {id : InstanceId} {target : Status} {action : String}
  {deadline : Instant} {observed : InstanceState} {desired : InstanceSpec}

/-- A wait that aborts does so with a plain failure, if its checks fail plainly. -/
theorem gives_poll_plain {w : Wait} {allowed : Call → Prop} {check : Program (Check Failure β)}
    (h : check.Straight allowed Check.FailsPlainly) :
    (w.poll check).Gives fun r _ => ∀ e, r = some (.error (.aborted e)) → e.IsPlain := by
  refine gives_poll (fun _ h => by simp at h) (h.gives.mono ?_)
  rintro _ es ⟨seen, rfl, plain⟩
  cases seen with
  | done v => exact fun _ h => by simp at h
  | notYet => exact ⟨fun _ _ _ h => by simp at h, fun _ _ later => later⟩
  | failed e =>
    simp only [Option.map_some, KeepsAccount]
    split_ifs
    · rintro _ ⟨⟩
      exact plain e rfl
    · exact ⟨fun _ _ _ h => by simp at h, fun _ _ later => later⟩

/-- A wait for a status fails for want of time, or as its last look did. -/
theorem comesTo_awaitStatus :
    ComesTo (awaitStatus t region id target action deadline) fun _ => True := by
  refine Program.Gives.bind (gives_poll_plain straight_statusCheck)
    (fun r es hr => Program.gives_pure ?_) fun _ _ => trivial
  cases r with
  | ok _ => trivial
  | error e =>
    cases e with
    | timeout waited lastError => rfl
    | aborted cause => exact (hr cause rfl).partialState?_eq

theorem comesTo_phase {body : Instant → Task Unit}
    (h : ∀ deadline, ComesTo (body deadline) fun _ => True) :
    ComesTo (phase t body) fun _ => True := by
  intro σ p w
  rw [phase, run_liftM_bind]
  exact h _ σ p w

/-- That a task ends well carries over from its parts. -/
theorem carriesOver_comesTo : CarriesOver fun _ x _ => ComesTo x fun _ => True where
  straight hx := hx.comesTo
  bind h hf := h.bind fun b _ => hf b

/-- A root disk that was given the desired size has not shrunk. -/
theorem Succeeds.growRootDisk_le {p : Provider σ} {w w' : World σ} {es : List Exchange}
    {status status' : Status}
    (h : Succeeds p w (growRootDisk t observed status desired) status' w' es) :
    observed.applied.diskSize ≤ desired.diskSize := by
  by_contra shrinks
  have smaller : desired.diskSize < observed.applied.diskSize := Nat.lt_of_not_le shrinks
  have refusal : ∃ e, rootDiskRefusal? observed desired = some e := by
    rw [rootDiskRefusal?, if_pos smaller]
    split_ifs <;> exact ⟨_, rfl⟩
  obtain ⟨e, he⟩ := refusal
  rw [growRootDisk, if_neg (Nat.ne_of_gt smaller), he] at h
  exact not_succeeds_throw h

theorem Succeeds.updateInstance_continues {p : Provider σ} {w w' : World σ} {es : List Exchange}
    {s' : InstanceState} (h : Succeeds p w (updateInstance t observed desired) s' w' es) :
    Continues observed s' := by
  have result := updateInstance_result h
  obtain ⟨allowed, -⟩ := h.updateInstance_eq
  have disk : observed.applied.diskSize ≤ desired.diskSize := by
    rw [updateInstance_eq_phases] at h
    obtain ⟨_, _, _, _, -, rest, -⟩ := succeeds_bind_iff.1 h
    obtain ⟨_, _, _, _, grown, -, -⟩ := succeeds_bind_iff.1 rest
    exact grown.growRootDisk_le
  refine ⟨⟨result.id, result.taskId, result.password, ?_, ?_, ?_⟩, fun _ => ?_⟩
  · rw [InstanceState.region, InstanceState.region, result.applied]
    exact (immutableViolations_eq_nil_iff.1 allowed).1.symm
  · rw [result.clusterId]
    exact fun known => known
  · rw [result.applied]
    exact disk
  · rw [InstanceState.Distinct, result.networkIds]
    exact nodup_eraseDups _

/-- **An update** gives the state of the same instance. -/
theorem comesTo_updateInstance :
    ComesTo (updateInstance t observed desired) (Continues observed) := by
  have ends : ComesTo (updateInstance t observed desired) fun _ => True :=
    carriesOver_comesTo.updateInstance t t
      (comesTo_phase fun d =>
        carriesOver_comesTo.flavorPhase t t d d fun _ _ => comesTo_awaitStatus)
      (comesTo_phase fun d =>
        carriesOver_comesTo.diskPhase t t d d fun _ _ => comesTo_awaitStatus)
  exact ends.of_succeeds fun _ _ _ _ _ _ run => run.updateInstance_continues

end

/-! ### Runs of reads and updates -/

/-- Something that is done to a tracked instance. -/
inductive Errand where
  /-- It is read again. -/
  | read
  /-- It is updated to a configuration. -/
  | update (desired : InstanceSpec)

namespace Session

/-- Runs an errand from the state that is tracked. Where no instance is tracked, there is nothing to
run. -/
def perform (p : Provider σ) (session : Session σ) (errand : Errand) : Session σ :=
  match session.tracked with
  | none => session
  | some observed =>
    match errand with
    | .read => (session.read p observed).2
    | .update desired => (session.update p observed desired).2

/-- Runs errands, one after the other. -/
def after (p : Provider σ) (session : Session σ) (errands : List Errand) : Session σ :=
  errands.foldl (perform p) session

/-- The session in which an instance has just been created, or was to be. -/
def begin (p : Provider σ) (w : World σ) (t : Tuning) (desired : InstanceSpec) : Session σ :=
  (create p ⟨w, t, none⟩ desired).2

variable {p : Provider σ} {session : Session σ} {s : InstanceState}

/-- An operation that ends well leaves the tracked state, or puts a state that it shows in its
place. -/
theorem tracked_operate {shown : α → Option InstanceState} {task : Task α} {good : α → Prop}
    (tracked : session.tracked = some s) (h : ComesTo task good)
    (continues : ∀ a, good a → ∀ s', shown a = some s' → Continues s s') :
    ∃ s', (session.operate p shown task).2.tracked = some s' ∧ Continues s s' := by
  have ends := h σ p session.world
  show ∃ s', trackedAfter shown session.tracked (task.run.exec p session.world).1 = some s' ∧ _
  rw [tracked]
  cases hr : (task.run.exec p session.world).1 with
  | none => exact ⟨s, rfl, .refl s⟩
  | some r =>
    rw [hr] at ends
    cases r with
    | error e =>
      have whole : partialState? e = none := ends
      refine ⟨s, ?_, .refl s⟩
      rw [trackedAfter, whole]
      rfl
    | ok a =>
      rw [trackedAfter]
      cases ha : shown a with
      | none => exact ⟨s, rfl, .refl s⟩
      | some s' => exact ⟨s', rfl, continues a ends s' ha⟩

/-- **After one errand** the tracked state is that of the same instance. -/
theorem continues_perform (tracked : session.tracked = some s) (errand : Errand) :
    ∃ s', (session.perform p errand).tracked = some s' ∧ Continues s s' := by
  rw [perform, tracked]
  cases errand with
  | read =>
    exact tracked_operate tracked comesTo_readInstance fun _ good s' hs' => good s' hs'
  | update desired =>
    refine tracked_operate tracked comesTo_updateInstance fun a good s' hs' => ?_
    obtain rfl := Option.some.inj hs'
    exact good

/-- **After any errands** the tracked state is that of the same instance. -/
theorem continues_after (tracked : session.tracked = some s) (errands : List Errand) :
    ∃ s', (session.after p errands).tracked = some s' ∧ Continues s s' := by
  induction errands generalizing session s with
  | nil => exact ⟨s, tracked, .refl s⟩
  | cons errand errands ih =>
    obtain ⟨s₁, tracked₁, continues⟩ := continues_perform (p := p) tracked errand
    obtain ⟨s₂, tracked₂, continues'⟩ := ih tracked₁
    exact ⟨s₂, tracked₂, continues.trans continues'⟩

theorem tracked_after_of_none (h : session.tracked = none) (errands : List Errand) :
    (session.after p errands).tracked = none := by
  induction errands with
  | nil => exact h
  | cons errand errands ih =>
    have idle : session.perform p errand = session := by rw [perform, h]
    rw [after, List.foldl_cons, idle]
    exact ih

/-! ### From the creation on -/

variable {w : World σ} {t : Tuning} {desired : InstanceSpec}

/-- **The state that a creation comes to** has at most one attachment to each network, whether it
came all the way or not. -/
theorem distinct_begin (tracked : (begin p w t desired).tracked = some s) : s.Distinct := by
  have result := createInstance_result t desired p w
  have account := createInstance_account t desired p w
  have shown : trackedAfter some none ((createInstance t desired).run.exec p w).1 = some s :=
    tracked
  have ready {s : InstanceState} (h : ReadyFor desired s.networks) : s.Distinct := by
    rw [InstanceState.Distinct, h.networkIds]
    exact nodup_eraseDups _
  cases hr : ((createInstance t desired).run.exec p w).1 with
  | none =>
    rw [hr] at shown
    nomatch shown
  | some r =>
    rw [hr] at shown result account
    cases r with
    | ok s₀ =>
      obtain rfl := Option.some.inj shown
      exact ready (result.furnished s₀ rfl).connected.ready
    | error e =>
      generalize (createInstance t desired).run.trace p w = es at account
      cases account with
      | refused _ => nomatch shown
      | rejected _ => nomatch shown
      | ordered _ _ failure =>
        obtain ⟨s₀, cause, rfl, progress⟩ := failure e rfl
        obtain rfl := Option.some.inj shown
        rcases progress.networks with none | all
        · rw [InstanceState.Distinct, none]
          exact List.nodup_nil
        · exact ready all

/-- **From its creation on**, an instance stays the one that is tracked, over any reads and updates:
its identifier, its creation task, its password and its region stay, a cluster that is known stays
known, and the root disk does not shrink. At each time there is at most one attachment to each
network. -/
theorem tracked_persists (p : Provider σ) (w : World σ) (t : Tuning) (desired : InstanceSpec)
    (earlier later : List Errand) {s : InstanceState}
    (tracked : ((begin p w t desired).after p earlier).tracked = some s) :
    s.Distinct ∧
      ∃ s', ((begin p w t desired).after p (earlier ++ later)).tracked = some s' ∧
        Persists s s' := by
  constructor
  · cases start : (begin p w t desired).tracked with
    | none => exact nomatch (tracked_after_of_none start earlier).symm.trans tracked
    | some s₀ =>
      obtain ⟨s₁, tracked₁, continues⟩ := continues_after (p := p) start earlier
      obtain rfl := Option.some.inj (tracked.symm.trans tracked₁)
      exact continues.distinct (distinct_begin start)
  · obtain ⟨s', tracked', continues⟩ := continues_after (p := p) tracked later
    refine ⟨s', ?_, continues.toPersists⟩
    rw [after, List.foldl_append]
    exact tracked'

/-! ### A run -/

/-- A larger root disk, and one of two networks, asked for twice. -/
def enlargedSpec : InstanceSpec :=
  { furnishedSpec with
    diskSize := 80, networks := [{ networkId := "net-a" }, { networkId := "net-a" }] }

/-- Reads and updates; the last update asks for a smaller root disk and fails. -/
def sampleErrands : List Errand := [.read, .update enlargedSpec, .read, .update furnishedSpec]

theorem tracked_begin_sample :
    (begin Cloud.provider ⟨twoNetworkCloud, 0⟩ {} furnishedSpec).tracked =
      some furnishedSpecCreated := by
  show trackedAfter some none
    ((createInstance {} furnishedSpec).run.exec Cloud.provider ⟨twoNetworkCloud, 0⟩).1 = _
  rw [exec_createFurnishedSpec]
  rfl

theorem tracked_persists_sample :
    ((begin Cloud.provider ⟨twoNetworkCloud, 0⟩ {} furnishedSpec).after Cloud.provider []).tracked =
        some furnishedSpecCreated ∧
      furnishedSpecCreated.Distinct ∧
      ∃ s', ((begin Cloud.provider ⟨twoNetworkCloud, 0⟩ {} furnishedSpec).after Cloud.provider
        ([] ++ sampleErrands)).tracked = some s' ∧ Persists furnishedSpecCreated s' :=
  ⟨tracked_begin_sample,
    tracked_persists Cloud.provider ⟨twoNetworkCloud, 0⟩ {} furnishedSpec [] sampleErrands
      tracked_begin_sample⟩

-- The update that asks for a smaller root disk has left the tracked one alone.
example :
    (((begin Cloud.provider ⟨twoNetworkCloud, 0⟩ {} furnishedSpec).after Cloud.provider
      sampleErrands).tracked.map fun s => (s.id, s.applied.diskSize)) = some ("srv-1", 80) := by
  decide +kernel

end Session

end Reconciler
