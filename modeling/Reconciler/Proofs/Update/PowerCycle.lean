import Reconciler.Proofs.Update.Guard
import Reconciler.Proofs.Update.Plan

/-!
# Powering an instance off and on

A flavor and a root disk are changed while the instance is off. The plan of an update sees to it: in
each planned list a move that needs the instance off comes right after the wait for it, and the
instance is powered on right after its flavor was changed. `Move.Ready` says what a move has to come
after, and `Sound` that all moves of a list are ready.

## What is proved

* `soundPlan_updatePlan`: the planned lists are sound.
* `updateInstance_powerCycle`: what comes before each change that needs the instance off, what a
  look at an instance that failed leads to, and what the two phases end with.
-/

namespace Reconciler

variable {α σ : Type} {t : Tuning} {s : InstanceState} {d : InstanceSpec} {p : Provider σ}
  {w w' : World σ} {plan plan' : Language Move} {moves moves' before : List Move} {m : Move}

/-! ### Moves that are ready -/

/-- **A move is ready** after the moves `before`. A change of the flavor or of the root disk comes
right after a wait for the instance to be off, and is as desired; power comes right after the change
of the flavor. Looks are made by waits alone, and no wait is for an instance that failed. -/
def Move.Ready (s : InstanceState) (d : InstanceSpec) (before : List Move) : Move → Prop
  | .ask (.resizeServer id flavorId) _ =>
    (∃ earlier action deadline, before = earlier ++ [.await .shutoff action deadline]) ∧
      id = s.id ∧ flavorId = d.flavorId ∧ s.applied.flavorId ≠ d.flavorId
  | .ask (.resizeRootVolume id size) _ =>
    (∃ earlier action deadline, before = earlier ++ [.await .shutoff action deadline]) ∧
      id = s.id ∧ size = d.diskSize ∧ s.applied.diskSize < d.diskSize ∧ d.usesLocalStorage = false
  | .ask (.powerOn _) _ =>
    ∃ earlier action, before = earlier ++ [.ask (.resizeServer s.id d.flavorId) action]
  | .ask (.getServer _) _ => False
  | .await target _ _ => target ≠ .error
  | _ => True

/-- What came even earlier does not matter. -/
theorem Move.Ready.prepend (h : m.Ready s d before) (earlier : List Move) :
    m.Ready s d (earlier ++ before) := by
  unfold Move.Ready at *
  split
  · obtain ⟨⟨more, action, deadline, rfl⟩, rest⟩ := h
    exact ⟨⟨earlier ++ more, action, deadline, (List.append_assoc ..).symm⟩, rest⟩
  · obtain ⟨⟨more, action, deadline, rfl⟩, rest⟩ := h
    exact ⟨⟨earlier ++ more, action, deadline, (List.append_assoc ..).symm⟩, rest⟩
  · obtain ⟨more, action, rfl⟩ := h
    exact ⟨earlier ++ more, action, (List.append_assoc ..).symm⟩
  · exact h
  · exact h
  · trivial

/-- **All moves of a list are ready** after those before them. -/
def Sound (s : InstanceState) (d : InstanceSpec) (moves : List Move) : Prop :=
  ∀ before m after, moves = before ++ m :: after → m.Ready s d before

theorem sound_nil : Sound s d [] := fun before m after h => by simp at h

theorem Sound.append (h : Sound s d moves) (h' : Sound s d moves') :
    Sound s d (moves ++ moves') := by
  intro before m after heq
  rcases append_eq_append_cons heq with ⟨pre, rfl, hlater⟩ | ⟨post, hfirst, -⟩
  · exact (h' pre m after hlater).prepend moves
  · exact h before m post hfirst

/-- One more move, if it is ready. -/
theorem Sound.snoc (h : Sound s d moves) (hm : m.Ready s d moves) : Sound s d (moves ++ [m]) := by
  intro before m' after heq
  rcases append_eq_append_cons heq with ⟨pre, rfl, hlater⟩ | ⟨post, hfirst, -⟩
  · obtain ⟨rfl, rfl, -⟩ := singleton_eq_append_cons hlater
    rwa [List.append_nil]
  · exact h before m' post hfirst

theorem sound_of_forall (h : ∀ m ∈ moves, m.Ready s d []) : Sound s d moves := by
  rintro before m after rfl
  have ready := (h m (by simp)).prepend before
  rwa [List.append_nil] at ready

/-- All lists of a plan are sound. -/
def SoundPlan (s : InstanceState) (d : InstanceSpec) (plan : Language Move) : Prop :=
  ∀ moves ∈ plan, Sound s d moves

theorem SoundPlan.mul (h : SoundPlan s d plan) (h' : SoundPlan s d plan') :
    SoundPlan s d (plan * plan') := by
  rintro _ ⟨first, hfirst, second, hsecond, rfl⟩
  exact (h first hfirst).append (h' second hsecond)

theorem soundPlan_one : SoundPlan s d 1 := by
  rintro _ rfl
  exact sound_nil

theorem soundPlan_singleton (h : Sound s d moves) : SoundPlan s d {moves} := by
  rintro _ rfl
  exact h

/-! ### The plan of an update is sound -/

theorem soundPlan_renamePlan : SoundPlan s d (renamePlan s d) := by
  rw [renamePlan]
  split_ifs
  · exact soundPlan_one
  · exact soundPlan_singleton (sound_of_forall (by simp [Move.Ready]))

theorem soundPlan_editPlan {move : Edit → Move} {desired observed : IdSet}
    (h : ∀ e, (move e).Ready s d []) : SoundPlan s d (editPlan move desired observed) := by
  rintro _ ⟨added, removed, -, -, -, -, rfl⟩
  refine sound_of_forall fun m hm => ?_
  rcases List.mem_append.1 hm with hm | hm
  all_goals
    obtain ⟨id, -, rfl⟩ := List.mem_map.1 hm
    exact h _

theorem soundPlan_flavorPlan : SoundPlan s d (flavorPlan s d) := by
  rw [flavorPlan]
  split_ifs with h
  · exact soundPlan_one
  · intro moves hmoves
    obtain ⟨deadline, rfl⟩ := hmoves
    have off : Sound s d [.ask (.powerOff s.id) "power off instance"] := sound_nil.snoc trivial
    have isOff := off.snoc (m := .await .shutoff "power off" deadline) Status.noConfusion
    have resized := isOff.snoc (m := .ask (.resizeServer s.id d.flavorId) "resize instance")
      ⟨⟨_, _, _, rfl⟩, rfl, rfl, h⟩
    have on := resized.snoc (m := .ask (.powerOn s.id) "power on instance") ⟨_, _, rfl⟩
    exact on.snoc (m := .await .active "power on" deadline) Status.noConfusion

theorem soundPlan_networkPlan : SoundPlan s d (networkPlan s) := by
  intro moves hmoves
  refine sound_of_forall fun m hm => ?_
  have hnet := hmoves m hm
  unfold Move.OnNetworks at hnet
  split at hnet
  · trivial
  · trivial
  · trivial
  · exact hnet.elim

theorem soundPlan_diskPlan : SoundPlan s d (diskPlan s d) := by
  rw [diskPlan]
  split_ifs with h
  · exact soundPlan_one
  · intro moves hmoves
    obtain ⟨deadline, rfl⟩ := hmoves
    obtain ⟨hsize, hrefusal⟩ := not_or.1 h
    have larger : s.applied.diskSize < d.diskSize ∧ d.usesLocalStorage = false := by
      unfold rootDiskRefusal? at hrefusal
      split_ifs at hrefusal with hlocal hsmaller
      · simp at hrefusal
      · simp at hrefusal
      · exact ⟨by omega, by simpa using hlocal⟩
    have off : Sound s d (if statusAfterFlavor s d = .active then
        [.ask (.powerOff s.id) "power off instance"] else []) := by
      split_ifs
      · exact sound_nil.snoc trivial
      · exact sound_nil
    have isOff := off.snoc (m := .await .shutoff "power off" deadline) Status.noConfusion
    have grown := isOff.snoc (m := .ask (.resizeRootVolume s.id d.diskSize) "resize root volume")
      ⟨⟨_, _, _, rfl⟩, rfl, rfl, larger⟩
    have on := grown.snoc (m := .await .active "root volume resize" deadline) Status.noConfusion
    rw [List.append_assoc, List.append_assoc] at on
    exact on

theorem soundPlan_floatingIpPlan : SoundPlan s d (floatingIpPlan s d) := by
  rw [floatingIpPlan]
  split_ifs
  · exact soundPlan_one
  · refine SoundPlan.mul ?_ ?_
    · rw [unbindPlan]
      split
      · exact soundPlan_one
      · exact soundPlan_singleton (sound_of_forall (by simp [Move.Ready]))
    · rw [bindPlan]
      split
      · exact soundPlan_one
      · intro moves hmoves
        obtain ⟨target, rfl⟩ := hmoves
        exact sound_of_forall (by simp [bindMoves, Move.Ready])

theorem soundPlan_revertPlan : SoundPlan s d (revertPlan s d) := by
  rw [revertPlan]
  split_ifs
  · exact soundPlan_one
  · split
    · exact soundPlan_one
    · exact soundPlan_singleton (sound_of_forall (by simp [Move.Ready]))

/-- **The plan of an update is sound.** -/
theorem soundPlan_updatePlan : SoundPlan s d (updatePlan s d) := by
  have groups : SoundPlan s d (groupPlan s d) :=
    soundPlan_editPlan fun e => by cases e <;> trivial
  have volumes : SoundPlan s d (volumePlan s d) :=
    soundPlan_editPlan fun e => by cases e <;> trivial
  exact soundPlan_renamePlan.mul (groups.mul (soundPlan_flavorPlan.mul (volumes.mul
    (soundPlan_networkPlan.mul (soundPlan_diskPlan.mul (soundPlan_floatingIpPlan.mul
      soundPlan_revertPlan))))))

/-! ### The calls of sound moves -/

/-- **Each call of sound moves was ready**, unless it is a look or an unbinding: it is a move of its
own, and the moves that it has to come after have succeeded. -/
theorem exists_ready_of_trace {pre post : List Exchange} {e : Exchange} (sound : Sound s d moves)
    (h : (perform t s moves).run.trace p w = pre ++ e :: post)
    (look : ∀ id, e.call ≠ .getServer id)
    (unbinding : ∀ portId, e.call ≠ .detachFloatingIp portId) :
    ∃ before action v, (Move.ask e.call action).Ready s d before ∧
      Succeeds p w (perform t s before) () v pre := by
  obtain ⟨before, m, after, v, es, mid, mid', rfl, hbefore, hm, rfl, -⟩ := exists_move_of_trace h
  have ready := sound before m after rfl
  cases m with
  | ask c action =>
    rw [trace_task_ask] at hm
    obtain ⟨rfl, rfl, -⟩ := singleton_eq_append_cons hm
    exact ⟨before, action, v, ready, by rwa [List.append_nil]⟩
  | unbind portId =>
    rw [Move.task, trace_unbindPort] at hm
    obtain ⟨-, rfl, -⟩ := singleton_eq_append_cons hm
    exact absurd rfl (unbinding portId)
  | await target action deadline =>
    obtain ⟨start, o, rfl⟩ := (statusWait_await ..).looks e (hm ▸ List.mem_append_cons_self)
    exact absurd rfl (look s.id)

theorem Succeeds.perform_snoc {es : List Exchange}
    (h : Succeeds p w (perform t s (moves ++ [m])) () w' es) :
    ∃ v es₁ es₂, Succeeds p w (perform t s moves) () v es₁ ∧
      Succeeds p v (m.task t s) () w' es₂ ∧ es = es₁ ++ es₂ := by
  rw [perform_append, perform_singleton] at h
  obtain ⟨_, v, es₁, es₂, h₁, h₂, rfl⟩ := succeeds_bind_iff.1 h
  exact ⟨v, es₁, es₂, h₁, h₂, rfl⟩

/-- The exchanges end with a look that shows that the instance of a state has a status. -/
def EndsShowing (s : InstanceState) (status : Status) (es : List Exchange) : Prop :=
  ∃ earlier look, es = earlier ++ [look] ∧ look.Shows s.region s.id status

/-- Moves that end with a wait end with a look that shows what was waited for. -/
theorem Succeeds.last_shows {target : Status} {action : String} {deadline : Instant}
    {es : List Exchange}
    (h : Succeeds p w (perform t s (moves ++ [.await target action deadline])) () w' es) :
    EndsShowing s target es := by
  obtain ⟨v, es₁, es₂, -, hwait, rfl⟩ := h.perform_snoc
  have wait := statusWait_await t s p v target action deadline
  rw [hwait.exec_eq, hwait.trace_eq] at wait
  obtain ⟨earlier, look, rfl, hshows⟩ := wait.reached rfl
  exact ⟨es₁ ++ earlier, look, (List.append_assoc ..).symm, hshows⟩

section

variable {pre post : List Exchange} {e : Exchange} {id : InstanceId}

/-- The flavor is changed while the instance is off. -/
theorem perform_resize {flavorId : String} (sound : Sound s d moves)
    (h : (perform t s moves).run.trace p w = pre ++ e :: post)
    (hcall : e.call = .resizeServer id flavorId) :
    EndsShowing s .shutoff pre ∧ id = s.id ∧ flavorId = d.flavorId ∧
      s.applied.flavorId ≠ d.flavorId := by
  obtain ⟨before, _, v, ready, hbefore⟩ :=
    exists_ready_of_trace sound h (by simp [hcall]) (by simp [hcall])
  rw [hcall] at ready
  obtain ⟨⟨earlier, action, deadline, rfl⟩, asked⟩ := ready
  exact ⟨hbefore.last_shows, asked⟩

/-- The root disk grows while the instance is off. -/
theorem perform_grow {size : Nat} (sound : Sound s d moves)
    (h : (perform t s moves).run.trace p w = pre ++ e :: post)
    (hcall : e.call = .resizeRootVolume id size) :
    EndsShowing s .shutoff pre ∧ id = s.id ∧ size = d.diskSize ∧
      s.applied.diskSize < d.diskSize ∧ d.usesLocalStorage = false := by
  obtain ⟨before, _, v, ready, hbefore⟩ :=
    exists_ready_of_trace sound h (by simp [hcall]) (by simp [hcall])
  rw [hcall] at ready
  obtain ⟨⟨earlier, action, deadline, rfl⟩, asked⟩ := ready
  exact ⟨hbefore.last_shows, asked⟩

/-- The instance is powered on when its flavor has been changed. -/
theorem perform_powerOn (sound : Sound s d moves)
    (h : (perform t s moves).run.trace p w = pre ++ e :: post) (hcall : e.call = .powerOn id) :
    ∃ earlier start,
      pre = earlier ++ [⟨start, s.region, .resizeServer s.id d.flavorId, .ok ()⟩] := by
  obtain ⟨before, _, v, ready, hbefore⟩ :=
    exists_ready_of_trace sound h (by simp [hcall]) (by simp [hcall])
  rw [hcall] at ready
  obtain ⟨earlier, action, rfl⟩ := ready
  obtain ⟨v', es₁, es₂, -, hresize, rfl⟩ := hbefore.perform_snoc
  obtain ⟨_, _, _, _, hask, hend, rfl⟩ := succeeds_bind_iff.1 hresize
  obtain ⟨-, -, rfl⟩ := succeeds_ask_iff.1 hask
  obtain ⟨-, -, rfl⟩ := succeeds_pure_iff.1 hend
  exact ⟨es₁, _, rfl⟩

/-- **A look that shows the instance failed is the last call** of sound moves, and they fail for
it. -/
theorem perform_failed_look {region : Region} (sound : Sound s d moves)
    (h : (perform t s moves).run.trace p w = pre ++ e :: post) (he : e.Shows region id .error) :
    post = [] ∧ ∃ action, ((perform t s moves).run.exec p w).1 =
      some (.error (.transitionedToError s.id action)) := by
  obtain ⟨before, m, after, v, es, mid, mid', rfl, -, hm, rfl, last⟩ := exists_move_of_trace h
  have ready := sound before m after rfl
  obtain ⟨start, detail, rfl, hstatus⟩ := he
  cases m with
  | ask c action =>
    rw [trace_task_ask] at hm
    obtain ⟨-, heq, -⟩ := singleton_eq_append_cons hm
    obtain rfl : Call.getServer id = c := congrArg Exchange.call heq
    exact ready.elim
  | unbind portId =>
    rw [Move.task, trace_unbindPort] at hm
    obtain ⟨-, heq, -⟩ := singleton_eq_append_cons hm
    exact absurd (congrArg Exchange.call heq) (by simp)
  | await target action deadline =>
    have wait := statusWait_await t s p v target action deadline
    obtain ⟨start', o, heq⟩ := wait.looks _ (hm ▸ List.mem_append_cons_self)
    simp only [Exchange.mk.injEq, Call.getServer.injEq] at heq
    obtain ⟨-, rfl, rfl, -⟩ := heq
    obtain ⟨rfl, hfails⟩ := wait.failed ready mid _ mid' hm ⟨start, detail, rfl, hstatus⟩
    obtain ⟨hpost, hends⟩ := last (by rw [hfails]; simp)
    exact ⟨hpost, action, hends.trans hfails⟩

end

/-! ### The phases of an update -/

/-- A step with a plan whose lists end with a wait ends with a look that shows the status. -/
theorem Succeeds.endsShowing {task : Task α} {a : α} {es : List Exchange} {target : Status}
    (h : Succeeds p w task a w' es) (hf : Follows t s task plan)
    (hplan : ∀ moves ∈ plan, ∃ earlier action deadline,
      moves = earlier ++ [.await target action deadline]) : EndsShowing s target es := by
  obtain ⟨moves, r, alike, -, completed⟩ := hf σ p w
  have ended := alike.ended (congrArg Prod.fst h.exec_eq)
  obtain ⟨earlier, action, deadline, rfl⟩ := hplan moves (completed a ended.1)
  rw [← h.trace_eq, alike.trace_perform]
  exact ended.2.last_shows

/-- A change of the flavor leaves the instance running. -/
theorem Succeeds.resizeFlavor_active {status : Status} {es : List Exchange}
    (h : Succeeds p w (resizeFlavor t s d) status w' es) (hne : s.applied.flavorId ≠ d.flavorId) :
    EndsShowing s .active es := by
  refine h.endsShowing follows_resizeFlavor fun moves hmoves => ?_
  rw [flavorPlan, if_neg hne] at hmoves
  obtain ⟨deadline, rfl⟩ := hmoves
  exact ⟨(flavorMoves s d deadline).dropLast, _, deadline, rfl⟩

theorem Succeeds.growRootDisk_active {status : Status} {es : List Exchange}
    (h : Succeeds p w (growRootDisk t s (statusAfterFlavor s d) d) status w' es)
    (hne : s.applied.diskSize ≠ d.diskSize) : EndsShowing s .active es := by
  refine h.endsShowing follows_growRootDisk fun moves hmoves => ?_
  have accepted : rootDiskRefusal? s d = none := by
    rw [growRootDisk, if_neg hne] at h
    split at h
    · exact absurd h not_succeeds_throw
    · assumption
  rw [diskPlan, if_neg (by simp [hne, accepted])] at hmoves
  obtain ⟨deadline, rfl⟩ := hmoves
  exact ⟨_ ++ [_, _], _, deadline, by rw [diskMoves, List.append_assoc]; rfl⟩

/-! ### Updates -/

/-- The steps of an update before the one of the flavor. -/
def beforeFlavor (s : InstanceState) (d : InstanceSpec) : Task IdSet := do
  rename s d
  convergeGroups s d

/-- The steps of an update before the one of the root disk: the status by then and the
attachments. -/
def beforeRootDisk (t : Tuning) (s : InstanceState) (d : InstanceSpec) :
    Task (Status × List NetworkAttachment) := do
  let _groups ← beforeFlavor s d
  let resized ← resizeFlavor t s d
  let _volumes ← convergeVolumes s d
  let networks ← convergeNetworks s d
  return (resized, networks)

/-- **The order in which an update powers an instance off and on**, made with the provider `p` from
the world `w`: `r` is what it ends with, and `es` are its exchanges. -/
structure PowerCycle (t : Tuning) (s : InstanceState) (d : InstanceSpec) (p : Provider σ)
    (w : World σ) (r : Option (Except Failure InstanceState)) (es : List Exchange) : Prop where
  /-- Right before a change of the flavor a look has shown that the instance is off. -/
  resize_off : ∀ pre e post id flavorId, es = pre ++ e :: post →
    e.call = .resizeServer id flavorId → EndsShowing s .shutoff pre
  /-- The flavor is changed to the desired one, from another that is not bound to its host. -/
  resize_asked : ∀ e ∈ es, ∀ id flavorId, e.call = .resizeServer id flavorId →
    id = s.id ∧ flavorId = d.flavorId ∧ s.applied.flavorId ≠ d.flavorId ∧
      isLocalStorageFlavor s.applied.flavorId = false
  /-- Right before the instance is powered on its flavor was changed. -/
  on_resized : ∀ pre e post id, es = pre ++ e :: post → e.call = .powerOn id →
    ∃ earlier start, pre = earlier ++ [⟨start, s.region, .resizeServer s.id d.flavorId, .ok ()⟩]
  /-- Right before the root disk grows a look has shown that the instance is off. -/
  grow_off : ∀ pre e post id size, es = pre ++ e :: post → e.call = .resizeRootVolume id size →
    EndsShowing s .shutoff pre
  /-- The root disk comes to the desired size, which is larger, and is not bound to its host. -/
  grow_asked : ∀ e ∈ es, ∀ id size, e.call = .resizeRootVolume id size →
    id = s.id ∧ size = d.diskSize ∧ s.applied.diskSize < d.diskSize ∧
      isLocalStorageFlavor d.flavorId = false
  /-- A look that shows that the instance failed is the last call, and the update fails for it. -/
  failed_look : ∀ pre e post region id, es = pre ++ e :: post → e.Shows region id .error →
    post = [] ∧ ∃ action, r = some (.error (.transitionedToError s.id action))
  /-- If the update succeeds, the phase of a new flavor ends with the instance running. -/
  flavor_active : ∀ s', r = some (.ok s') → s.applied.flavorId ≠ d.flavorId →
    ∃ groups v v' before phase after, es = before ++ (phase ++ after) ∧
      Succeeds p w (beforeFlavor s d) groups v before ∧
      Succeeds p v (resizeFlavor t s d) .active v' phase ∧ EndsShowing s .active phase
  /-- If the update succeeds, the phase of a larger root disk ends with the instance running. -/
  disk_active : ∀ s', r = some (.ok s') → s.applied.diskSize ≠ d.diskSize →
    ∃ resized networks v v' before phase after, es = before ++ (phase ++ after) ∧
      Succeeds p w (beforeRootDisk t s d) (resized, networks) v before ∧
      Succeeds p v (growRootDisk t s resized d) .active v' phase ∧ EndsShowing s .active phase

/-- The steps of an update keep the order. -/
theorem powerCycle_convergeExisting
    (allowed : s.applied.flavorId = d.flavorId ∨ isLocalStorageFlavor s.applied.flavorId = false) :
    PowerCycle t s d p w ((convergeExisting t s d).run.exec p w).1
      ((convergeExisting t s d).run.trace p w) := by
  obtain ⟨moves, r, alike, ⟨rest, planned⟩, -⟩ :=
    follows_convergeExisting (t := t) (s := s) (d := d) σ p w
  have sound : Sound s d moves := by
    rintro before m after rfl
    refine soundPlan_updatePlan _ planned before m (after ++ rest) ?_
    rw [List.append_assoc, List.cons_append]
  have calls := alike.trace_perform
  refine
    { resize_off := fun pre e post id flavorId hes hcall => ?_
      resize_asked := fun e he id flavorId hcall => ?_
      on_resized := fun pre e post id hes hcall => perform_powerOn sound (calls ▸ hes) hcall
      grow_off := fun pre e post id size hes hcall => (perform_grow sound (calls ▸ hes) hcall).1
      grow_asked := fun e he id size hcall => ?_
      failed_look := fun pre e post region id hes he => ?_
      flavor_active := fun s' hs' hne => ?_
      disk_active := fun s' hs' hne => ?_ }
  · exact (perform_resize sound (calls ▸ hes) hcall).1
  · obtain ⟨pre, post, hes⟩ := List.append_of_mem he
    obtain ⟨-, hid, hflavor, hne⟩ := perform_resize sound (calls ▸ hes) hcall
    exact ⟨hid, hflavor, hne, allowed.resolve_left hne⟩
  · obtain ⟨pre, post, hes⟩ := List.append_of_mem he
    exact (perform_grow sound (calls ▸ hes) hcall).2
  · obtain ⟨hpost, action, hfails⟩ := perform_failed_look sound (calls ▸ hes) he
    exact ⟨hpost, action, alike.failed hfails⟩
  · obtain ⟨_, w₁, w₂, w₃, _, _, _, _, es₁, es₂, es₃, es₄, es₅, es₆, es₇, es₈, h₁, h₂, h₃, -, -, -,
      -, -, -, hes⟩ := succeeds_convergeExisting_iff.1 (succeeds_of_exec hs')
    have running : statusAfterFlavor s d = .active := if_neg hne
    refine ⟨_, w₂, w₃, es₁ ++ es₂, es₃, es₄ ++ (es₅ ++ (es₆ ++ (es₇ ++ es₈))), ?_, h₁.bind h₂,
      running ▸ h₃, h₃.resizeFlavor_active hne⟩
    rw [hes, List.append_assoc]
  · obtain ⟨networks, w₁, w₂, w₃, w₄, w₅, w₆, _, es₁, es₂, es₃, es₄, es₅, es₆, es₇, es₈, h₁, h₂, h₃,
      h₄, h₅, h₆, -, -, -, hes⟩ := succeeds_convergeExisting_iff.1 (succeeds_of_exec hs')
    have running : statusAfterUpdate s d = .active := if_neg hne
    have groups : Succeeds p w (beforeFlavor s d) _ w₂ (es₁ ++ es₂) := h₁.bind h₂
    have shown : Succeeds p w₄ (do
        let networks ← convergeNetworks s d
        return (statusAfterFlavor s d, networks)) (statusAfterFlavor s d, networks) w₅ es₅ :=
      List.append_nil es₅ ▸ h₅.bind (succeeds_pure_iff.2 ⟨rfl, rfl, rfl⟩)
    have later : Succeeds p w₂ (do
        let resized ← resizeFlavor t s d
        let _volumes ← convergeVolumes s d
        let networks ← convergeNetworks s d
        return (resized, networks)) (statusAfterFlavor s d, networks) w₅ (es₃ ++ (es₄ ++ es₅)) :=
      h₃.bind (h₄.bind shown)
    refine ⟨_, networks, w₅, w₆, _, es₆, es₇ ++ es₈, ?_, groups.bind later, running ▸ h₆,
      h₆.growRootDisk_active hne⟩
    rw [hes]
    simp only [List.append_assoc]

theorem powerCycle_refused {e : Failure} : PowerCycle t s d p w (some (.error e)) [] where
  resize_off pre e post _ _ hes := by simp at hes
  resize_asked e he := absurd he List.not_mem_nil
  on_resized pre e post _ hes := by simp at hes
  grow_off pre e post _ _ hes := by simp at hes
  grow_asked e he := absurd he List.not_mem_nil
  failed_look pre e post _ _ hes := by simp at hes
  flavor_active s' hs' := by simp at hs'
  disk_active s' hs' := by simp at hs'

/-- **Every update powers the instance off and on in this order**, whoever answers its calls. -/
theorem updateInstance_powerCycle (t : Tuning) (s : InstanceState) (d : InstanceSpec)
    (p : Provider σ) (w : World σ) :
    PowerCycle t s d p w ((updateInstance t s d).run.exec p w).1
      ((updateInstance t s d).run.trace p w) := by
  cases hreasons : immutableViolations s.applied d with
  | nil =>
    rw [updateInstance_of_allowed hreasons]
    obtain ⟨-, -, -, -, -, -, -, -, allowed⟩ := immutableViolations_eq_nil_iff.1 hreasons
    exact powerCycle_convergeExisting allowed
  | cons reason reasons =>
    rw [updateInstance, hreasons]
    exact powerCycle_refused

end Reconciler
