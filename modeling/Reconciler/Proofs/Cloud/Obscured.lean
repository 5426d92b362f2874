import Reconciler.Cloud.Setup
import Reconciler.Proofs.Cloud.Hosts
import Reconciler.Proofs.Update.Phases

/-!
# A cloud in which looks fail for a while

In an obscured cloud the next looks at an instance fail, for no reason that lasts: the instance is
said not to exist, or the provider is said to have failed. Each such look takes one failure off the
queue and does nothing else. All other calls do what they do in the cloud that is obscured.

## What is proved

* `Cloud.Obscured.answer`: calls that do not look at an instance do the same in both clouds.
* `Cloud.Obscured.look`: a look does the same, or it fails and takes a failure off the queue.
* `Cloud.obscured_failLooks`: a cloud is obscured by a queue of failures.
-/

namespace Reconciler

/-- The failure may pass: the request was not refused. -/
def RemoteError.MayPass : RemoteError → Prop
  | .client _ _ => False
  | _ => True

namespace Cloud

/-- The failures that are queued for calls under a key. -/
def queue (c : Cloud) (key : String) : List RemoteError := (c.failures.find? key).getD []

/-- Without a failure in its queue a call is carried out. -/
theorem answer_of_queue_nil {c : Cloud} {call : Call} (h : c.queue call.method.key = []) :
    (c.answer call).1 = (c.core.perform call).1 ∧
      (c.answer call).2.core = (c.core.perform call).2 ∧
      (c.answer call).2.failures = c.failures := by
  have carriedOut : c.answer call = Cloud.perform { c with journal := call :: c.journal } call := by
    rw [answer, record_of_not_queued h]
  have same : c.core.perform call =
      (Cloud.perform { c with journal := call :: c.journal } call).core :=
    perform_core { c with journal := call :: c.journal } call
  rw [carriedOut, same]
  refine ⟨rfl, rfl, ?_⟩
  exact (Cloud.perform_changes { c with journal := call :: c.journal } call).failures_eq

theorem answer_of_queue_cons {c : Cloud} {call : Call} {e : RemoteError} {rest : List RemoteError}
    (h : c.queue call.method.key = e :: rest) :
    c.answer call = (.error e, { c with
      journal := call :: c.journal, failures := c.failures.insert call.method.key rest }) := by
  have hfind : c.failures.find? call.method.key = some (e :: rest) := by
    rw [queue] at h
    cases hf : c.failures.find? call.method.key with
    | none => simp [hf] at h
    | some es => simpa [hf] using h
  simp only [answer, record, hfind]

/-- **The cloud `d` is `c` obscured**: it is the same but for its journal, looks at an instance will
fail in it with failures that may pass, and no other call will fail. In `c` none will. -/
structure Obscured (c d : Cloud) : Prop where
  /-- The clouds are the same. -/
  core : d.core = c.core
  /-- In `c` nothing fails. -/
  unfailing : c.Unfailing
  /-- In `d` nothing fails but looks, and these fail for a while. -/
  queued : ∀ key, ∀ e ∈ d.queue key, key = Method.getServer.key ∧ e.MayPass

/-- In the plain cloud every call is carried out, and nothing fails afterwards. -/
theorem Unfailing.answer_core {c : Cloud} (h : c.Unfailing) (call : Call) :
    (c.answer call).1 = (c.core.perform call).1 ∧
      (c.answer call).2.core = (c.core.perform call).2 ∧ (c.answer call).2.Unfailing := by
  obtain ⟨value, core, failures⟩ := answer_of_queue_nil (h call.method.key)
  refine ⟨value, core, fun key => ?_⟩
  rw [failures]
  exact h key

variable {c d : Cloud}

theorem Obscured.carriedOut (h : Obscured c d) {call : Call}
    (free : d.queue call.method.key = []) :
    (d.answer call).1 = (c.answer call).1 ∧ Obscured (c.answer call).2 (d.answer call).2 := by
  obtain ⟨value, core, failures⟩ := answer_of_queue_nil free
  obtain ⟨value', core', unfailing⟩ := h.unfailing.answer_core call
  rw [h.core] at value core
  refine ⟨value.trans value'.symm, core.trans core'.symm, unfailing, fun key => ?_⟩
  rw [queue, failures]
  exact h.queued key

/-- **Calls that do not look at an instance** do the same in both clouds. -/
theorem Obscured.answer (h : Obscured c d) {call : Call} (away : call.LooksAway) :
    (d.answer call).1 = (c.answer call).1 ∧ Obscured (c.answer call).2 (d.answer call).2 := by
  refine h.carriedOut (List.eq_nil_iff_forall_not_mem.2 fun e he => ?_)
  have look := (h.queued _ e he).1
  cases call with
  | getServer id => exact away
  | _ => simp [Method.key] at look

/-- **A look at an instance** does the same in both clouds, or it fails in the one that is obscured
and leaves that obscured. -/
theorem Obscured.look (h : Obscured c d) (id : InstanceId) :
    ((d.answer (.getServer id)).1 = (c.answer (.getServer id)).1 ∧
      Obscured (c.answer (.getServer id)).2 (d.answer (.getServer id)).2) ∨
    ∃ e, e.MayPass ∧ (d.answer (.getServer id)).1 = .error e ∧
      Obscured c (d.answer (.getServer id)).2 := by
  cases hq : d.queue Method.getServer.key with
  | nil => exact .inl (h.carriedOut hq)
  | cons e rest =>
    have failed : d.answer (.getServer id) = _ := answer_of_queue_cons hq
    have passes := (h.queued _ e (hq ▸ List.mem_cons_self)).2
    refine .inr ⟨e, passes, by rw [failed], ?_⟩
    rw [failed]
    refine ⟨h.core, h.unfailing, fun key e' he' => h.queued key e' ?_⟩
    rw [queue, IdMap.find?_insert] at he'
    split_ifs at he' with hkey
    · rw [hkey]
      show e' ∈ d.queue Method.getServer.key
      rw [hq]
      exact List.mem_cons_of_mem e he'
    · exact he'

/-- Lets the next looks at an instance fail, one after the other. -/
def failLooks (c : Cloud) (failures : List RemoteError) : Cloud :=
  failures.foldl (fun c e => c.failNext Method.getServer.key e) c

/-- **A cloud is obscured by a queue of failures** that may pass. -/
theorem obscured_failLooks (h : c.Unfailing) {failures : List RemoteError}
    (passing : ∀ e ∈ failures, e.MayPass) : Obscured c (c.failLooks failures) := by
  have longer (d : Cloud) (hd : Obscured c d) : Obscured c (d.failLooks failures) := by
    induction failures generalizing d with
    | nil => exact hd
    | cons e rest ih =>
      refine ih (fun e' he' => passing e' (List.mem_cons_of_mem e he')) _ ⟨hd.core, h, ?_⟩
      intro key e' he'
      simp only [failNext, failTimes, queue, IdMap.find?_insert] at he'
      split_ifs at he' with hkey
      · rcases List.mem_append.1 he' with he' | he'
        · exact ⟨hkey, (hd.queued _ e' he').2⟩
        · obtain rfl := List.eq_of_mem_replicate he'
          exact ⟨hkey, passing e' List.mem_cons_self⟩
      · exact hd.queued key e' he'
  refine longer c ⟨rfl, h, fun key e he => ?_⟩
  rw [queue, h key] at he
  exact absurd he List.not_mem_nil

end Cloud

end Reconciler
