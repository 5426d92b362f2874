import Reconciler.Proofs.Creation.Course
import Reconciler.Scripted

/-!
# The identity of a created instance

A provider tells the id of a new instance, and the cluster it runs in, piece by piece: with the
answer to the order, or only with one of the reports while the instance is built. A creation goes by
the last report. What the last report leaves out is taken from the answer to the order, and not from
the reports before, so that an id or a cluster that only an earlier report told is lost.

## What is proved

* `CreationCourse.hasSeen`: the identity that a creation ends with.
* `createInstance_identity_iff`: when it is the one that was told last.
-/

namespace Reconciler

/-- The last of some texts that is not empty. -/
def lastTold? (texts : List String) : Option String := (texts.filter (· ≠ "")).getLast?

/-- **The state has the identity that was told last**: by the answer to the order or by a report. -/
structure KeepsIdentity (created : CreatedServer) (reports : List ServerDetail)
    (s : InstanceState) : Prop where
  /-- The id is the last that was told. -/
  id : s.id = (lastTold? (created.id :: reports.map (·.id))).getD ""
  /-- So is the cluster, of which only the reports tell. -/
  clusterId : s.clusterId = lastTold? (reports.map (·.clusterId))

/-- **The state has the identity of the last report**: the id of the order if that leaves it out,
and no cluster if it leaves that out. -/
structure HasSeen (created : CreatedServer) (reports : List ServerDetail) (s : InstanceState) :
    Prop where
  /-- The id is that of the last report or of the order. -/
  id : s.id = (lastTold? (reports.getLast?.map (·.id)).toList).getD created.id
  /-- The cluster is that of the last report. -/
  clusterId : s.clusterId = lastTold? (reports.getLast?.map (·.clusterId)).toList

/-- **The last report does not hide what was told**: if it leaves out the id, the last that a report
told is the one of the order, and if it leaves out the cluster, no report told any. -/
def LastTells (created : CreatedServer) (reports : List ServerDetail) : Prop :=
  ∀ last, reports.getLast? = some last →
    (last.id = "" → ∀ id, lastTold? (reports.map (·.id)) = some id → id = created.id) ∧
      (last.clusterId = "" → ∀ detail ∈ reports, detail.clusterId = "")

/-! ### Texts that were told -/

theorem lastTold?_append (texts later : List String) :
    lastTold? (texts ++ later) = (lastTold? later).or (lastTold? texts) := by
  rw [lastTold?, List.filter_append, List.getLast?_append]
  rfl

theorem lastTold?_singleton (text : String) :
    lastTold? [text] = if text = "" then none else some text := by
  by_cases h : text = "" <;> simp [lastTold?, h]

theorem lastTold?_eq_none_iff {texts : List String} :
    lastTold? texts = none ↔ ∀ text ∈ texts, text = "" := by
  simp [lastTold?]

/-- The first text counts only if no later one does. -/
theorem lastTold?_cons_getD (first : String) (texts : List String) :
    (lastTold? (first :: texts)).getD "" = (lastTold? texts).getD first := by
  rw [← List.singleton_append, lastTold?_append, lastTold?_singleton]
  cases lastTold? texts with
  | some text => rfl
  | none => by_cases h : first = "" <;> simp [h]

variable {σ : Type} {t : Tuning} {desired : InstanceSpec} {created : CreatedServer}
  {s : InstanceState} {reports : List ServerDetail}

/-- **The last report and the reports together** tell the same exactly when the last report does not
hide what was told. -/
theorem HasSeen.keepsIdentity_iff (h : HasSeen created reports s) :
    KeepsIdentity created reports s ↔ LastTells created reports := by
  have told : KeepsIdentity created reports s ↔
      (lastTold? (reports.getLast?.map (·.id)).toList).getD created.id =
          (lastTold? (reports.map (·.id))).getD created.id ∧
        lastTold? (reports.getLast?.map (·.clusterId)).toList =
          lastTold? (reports.map (·.clusterId)) := by
    rw [← lastTold?_cons_getD created.id (reports.map (·.id)), ← h.id, ← h.clusterId]
    exact ⟨fun h => ⟨h.id, h.clusterId⟩, fun h => ⟨h.1, h.2⟩⟩
  rw [told]
  rcases List.eq_nil_or_concat' reports with rfl | ⟨earlier, last, rfl⟩
  · simp [LastTells]
  · simp only [List.getLast?_concat, Option.map_some, Option.toList_some, List.map_append,
      List.map_cons, List.map_nil, lastTold?_append, LastTells, Option.some.injEq, forall_eq']
    refine and_congr ?_ ?_
    · by_cases hid : last.id = ""
      · cases hold : lastTold? (earlier.map (·.id)) with
        | none => simp [lastTold?_singleton, hid]
        | some id => simp [lastTold?_singleton, hid, eq_comm]
      · simp [lastTold?_singleton, hid]
    · by_cases hcluster : last.clusterId = ""
      · rw [lastTold?_singleton, if_pos hcluster, Option.none_or, eq_comm, lastTold?_eq_none_iff]
        simp [hcluster, or_imp, forall_and]
      · simp [lastTold?_singleton, hcluster]

/-! ### The identity of a creation -/

/-- What the state of an order shows after the last look at the instance. -/
theorem hasSeen_ordered {builds : List Exchange}
    (hid : s.id = ((InstanceState.ordered desired created).lastSeen builds).id)
    (hcluster : s.clusterId = ((InstanceState.ordered desired created).lastSeen builds).clusterId) :
    HasSeen created (reportsIn builds) s := by
  rw [InstanceState.lastSeen] at hid hcluster
  constructor
  · rw [hid]
    cases (reportsIn builds).getLast? with
    | none => rfl
    | some last =>
      simp only [InstanceState.afterBuild, InstanceState.ordered, Option.map_some,
        Option.toList_some, lastTold?_singleton]
      split <;> rfl
  · rw [hcluster]
    cases (reportsIn builds).getLast? with
    | none => rfl
    | some last =>
      simp only [InstanceState.afterBuild, InstanceState.ordered, Option.map_some,
        Option.toList_some, lastTold?_singleton]

/-- However far a creation comes after its order, its state has the identity of the last report. -/
theorem Furnishing.hasSeen {x : Except Failure InstanceState} {es : List Exchange}
    (h : Furnishing desired (.ordered desired created) (some x) es) :
    ∃ s, carried? x = some s ∧ HasSeen created (reportsIn es) s := by
  cases h with
  | building asks stops =>
    obtain ⟨cause, rfl⟩ := stops x rfl
    exact ⟨_, rfl, hasSeen_ordered rfl rfl⟩
  | connecting asks running lists stops =>
    obtain ⟨cause, rfl⟩ := stops x rfl
    refine ⟨_, rfl, ?_⟩
    rw [reportsIn_append, reportsIn_listings lists, List.append_nil]
    exact hasSeen_ordered rfl rfl
  | attaching asks running lists connected volumes =>
    obtain ⟨_, attached, hx, hcarried⟩ := volumes.state
    obtain rfl := Option.some.inj hx
    refine ⟨_, hcarried, ?_⟩
    rw [reportsIn_append, reportsIn_append, reportsIn_listings lists,
      reportsIn_eq_nil volumes.not_asksStatus, List.append_nil, List.append_nil]
    exact hasSeen_ordered rfl rfl

/-- **The identity that a creation ends with**, once its order was answered. -/
theorem CreationCourse.hasSeen {x : Except Failure InstanceState} {start : Instant}
    {region : Region} {order : CreateServerRequest} {rest : List Exchange}
    (h : CreationCourse desired (some x)
      (⟨start, region, .createServer order, .ok created⟩ :: rest)) :
    ∃ s, carried? x = some s ∧ HasSeen created (reportsIn rest) s := by
  cases h with
  | stopped furnishing => exact furnishing.hasSeen
  | furnished furnishing address =>
    obtain ⟨built, hbuilt, seen⟩ := furnishing.hasSeen
    obtain rfl := Option.some.inj hbuilt
    obtain ⟨_, bound, hx, hcarried⟩ := address.state
    obtain rfl := Option.some.inj hx
    refine ⟨_, hcarried, ?_⟩
    rw [reportsIn_append, address.reportsIn_eq_nil, List.append_nil]
    exact ⟨seen.id, seen.clusterId⟩

/-- **The identity of a created instance.** Once the order was answered, a creation ends with a
state, or with a failure that carries one. The state has the identity of the last report, and that
is the one that was told last exactly when the last report does not hide what was told before. -/
theorem createInstance_identity_iff (t : Tuning) (desired : InstanceSpec) (p : Provider σ)
    (w : World σ) {start : Instant} {region : Region} {order : CreateServerRequest}
    {rest : List Exchange} {x : Except Failure InstanceState}
    (ordered : (createInstance t desired).run.trace p w =
      ⟨start, region, .createServer order, .ok created⟩ :: rest)
    (ended : ((createInstance t desired).run.exec p w).1 = some x) :
    ∃ s, carried? x = some s ∧ HasSeen created (reportsIn rest) s ∧
      (KeepsIdentity created (reportsIn rest) s ↔ LastTells created (reportsIn rest)) := by
  have course := createInstance_course t desired σ p w
  rw [ordered, ended] at course
  obtain ⟨s, hs, seen⟩ := course.hasSeen
  exact ⟨s, hs, seen, seen.keepsIdentity_iff⟩

/-! ### An id that is lost -/

/-- A provider that tells the id and the cluster while the instance is built, but not when it
runs. -/
def forgetfulProvider : Scripted :=
  (({} : Scripted).setReplies .createServer [{ outcome := .ok { taskId := "task-1" } }]).setReplies
    .inquireTask [{ outcome := .ok { id := "srv-1", clusterId := "c1" } },
      { outcome := .ok { status := .active } }]

/-- The looks at an instance that it builds. -/
def forgetfulLooks : List Exchange :=
  [⟨0, "r", .inquireTask "task-1", .ok { id := "srv-1", clusterId := "c1" }⟩,
    ⟨defaultPollInterval, "r", .inquireTask "task-1", .ok { status := .active }⟩]

/-- The instance was built, and its id was told, but the creation ends without it. -/
theorem createInstance_identity_iff_sample :
    ∃ x s,
      (createInstance {} { region := "r" }).run.trace Scripted.provider ⟨forgetfulProvider, 0⟩ =
        ⟨0, "r", .createServer (creationOrder { region := "r" }), .ok { taskId := "task-1" }⟩ ::
          forgetfulLooks ∧
      ((createInstance {} { region := "r" }).run.exec Scripted.provider ⟨forgetfulProvider, 0⟩).1 =
        some x ∧
      carried? x = some s ∧ HasSeen { taskId := "task-1" } (reportsIn forgetfulLooks) s ∧
      (KeepsIdentity { taskId := "task-1" } (reportsIn forgetfulLooks) s ↔
        LastTells { taskId := "task-1" } (reportsIn forgetfulLooks)) ∧
      ¬ KeepsIdentity { taskId := "task-1" } (reportsIn forgetfulLooks) s := by
  obtain ⟨x, ended⟩ := Option.isSome_iff_exists.1 (by decide +kernel :
    ((createInstance {} { region := "r" }).run.exec Scripted.provider
      ⟨forgetfulProvider, 0⟩).1.isSome = true)
  obtain ⟨s, hs, seen, iff⟩ := createInstance_identity_iff {} { region := "r" } Scripted.provider
    ⟨forgetfulProvider, 0⟩ rfl ended
  refine ⟨x, s, rfl, ended, hs, seen, iff, fun keeps => ?_⟩
  have tells := (iff.1 keeps { status := .active } rfl).1 rfl "srv-1" rfl
  exact absurd tells (by decide)

end Reconciler
