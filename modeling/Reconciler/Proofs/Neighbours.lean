import Reconciler.Lifecycle.Removal
import Reconciler.Proofs.Cloud.Others
import Reconciler.Proofs.Reading.Again
import Reconciler.Proofs.Update.Calls
import Reconciler.Proofs.Update.Plan

/-!
# The other instances of a cloud

To read, to update and to delete an instance takes calls that name this instance and no other, save
for one: an update unbinds a floating address by the port that was tracked for its network. If no
floating address of another instance is on such a port, the operation leaves to the other instances
what they have, whether it succeeds or not.

## What is proved

* `makes_readInstance`, `makes_deleteInstance`: reading and deleting name no other instance.
* `planIsOn_updatePlan`, `makes_perform`: neither do the moves of an update.
* `others_untouched`: what the three operations leave to the other instances.
-/

namespace Reconciler

variable {t : Tuning} {s : InstanceState} {d : InstanceSpec} {own : List String}

/-! ### Reading and deleting -/

theorem makes_readInstance : (readInstance s).run.Makes (Call.IsOn s.id own) := by
  have onIt : GoesStraight (Call.IsOn s.id own) (readInstance s) :=
    straight_readInstance rfl trivial trivial trivial
  exact onIt.makes

theorem makes_deleteInstance : (deleteInstance t s).run.Makes (Call.IsOn s.id own) := by
  refine Program.Makes.bind (makes_request rfl) fun o => ?_
  cases o with
  | ok u => exact makes_clock.bind fun now => makes_awaitGone rfl
  | error e => exact .ite trivial trivial

/-! ### Updating -/

/-- The ports that are tracked for an instance. -/
def InstanceState.ports (s : InstanceState) : List String := s.networks.map (·.portId)

/-- The move is on the instance with its tracked ports. -/
def Move.IsOn (s : InstanceState) : Move → Prop
  | .ask c _ => c.IsOn s.id s.ports
  | .unbind portId => portId ∈ s.ports
  | .await _ _ _ => True

theorem makes_perform {moves : List Move} (h : ∀ m ∈ moves, m.IsOn s) :
    (perform t s moves).run.Makes (Call.IsOn s.id s.ports) := by
  induction moves with
  | nil => trivial
  | cons m moves ih =>
    have move : (m.task t s).run.Makes (Call.IsOn s.id s.ports) := by
      have hm := h m List.mem_cons_self
      cases m with
      | ask c action => exact Program.Makes.run_bind (.run_ask hm) fun _ => trivial
      | unbind portId =>
        refine Program.Makes.bind (makes_request hm) fun o => ?_
        cases o with
        | ok u => trivial
        | error e => exact .ite trivial trivial
      | await target action deadline => exact makes_awaitStatus rfl
    exact move.run_bind fun _ => ih fun m hm => h m (List.mem_cons_of_mem _ hm)

/-- All moves of a plan are on the instance. -/
def PlanIsOn (s : InstanceState) (plan : Language Move) : Prop :=
  ∀ moves ∈ plan, ∀ m ∈ moves, m.IsOn s

section

variable {plan plan' : Language Move}

theorem PlanIsOn.mul (h : PlanIsOn s plan) (h' : PlanIsOn s plan') : PlanIsOn s (plan * plan') := by
  rintro _ ⟨first, hfirst, second, hsecond, rfl⟩ m hm
  rcases List.mem_append.1 hm with hm | hm
  · exact h first hfirst m hm
  · exact h' second hsecond m hm

theorem planIsOn_one : PlanIsOn s 1 := by
  rintro _ rfl m hm
  exact absurd hm List.not_mem_nil

theorem planIsOn_singleton {moves : List Move} (h : ∀ m ∈ moves, m.IsOn s) :
    PlanIsOn s {moves} := by
  rintro _ rfl
  exact h

theorem planIsOn_oneOf {ι : Type} {moves : ι → List Move} (h : ∀ i, ∀ m ∈ moves i, m.IsOn s) :
    PlanIsOn s (oneOf moves) := by
  rintro _ ⟨i, rfl⟩
  exact h i

theorem planIsOn_editPlan {move : Edit → Move} {desired observed : IdSet}
    (h : ∀ e, (move e).IsOn s) : PlanIsOn s (editPlan move desired observed) := by
  rintro _ ⟨added, removed, -, -, -, -, rfl⟩ m hm
  rcases List.mem_append.1 hm with hm | hm
  all_goals
    obtain ⟨id, -, rfl⟩ := List.mem_map.1 hm
    exact h _

end

theorem planIsOn_networkPlan : PlanIsOn s (networkPlan s) := by
  intro moves hmoves m hm
  have hnet := hmoves m hm
  unfold Move.OnNetworks at hnet
  split at hnet
  · trivial
  · exact hnet
  · exact hnet
  · exact hnet.elim

/-- The one port that an update unbinds is a tracked one. -/
theorem planIsOn_floatingIpPlan : PlanIsOn s (floatingIpPlan s d) := by
  have unbind : PlanIsOn s (unbindPlan s) := by
    rw [unbindPlan]
    split
    · exact planIsOn_one
    · rename_i a ha
      obtain ⟨previous, -, attached⟩ := Option.bind_eq_some_iff.1 ha
      have tracked : a ∈ s.networks :=
        List.mem_of_find?_eq_some (Option.filter_eq_some_iff.1 attached).1
      have own : a.portId ∈ s.ports := List.mem_map_of_mem tracked
      exact planIsOn_singleton (by simpa [Move.IsOn] using own)
  have bind : PlanIsOn s (bindPlan s d) := by
    rw [bindPlan]
    split
    · exact planIsOn_one
    · exact planIsOn_oneOf fun target => by simp [bindMoves, Move.IsOn, Call.IsOn]
  rw [floatingIpPlan]
  split_ifs
  · exact planIsOn_one
  · exact unbind.mul bind

/-- **Every move of an update** is on the instance that is updated. -/
theorem planIsOn_updatePlan : PlanIsOn s (updatePlan s d) := by
  have name : PlanIsOn s (renamePlan s d) := by
    rw [renamePlan]
    split_ifs
    · exact planIsOn_one
    · exact planIsOn_singleton (by simp [Move.IsOn, Call.IsOn])
  have groups : PlanIsOn s (groupPlan s d) := planIsOn_editPlan fun e => by cases e <;> rfl
  have flavor : PlanIsOn s (flavorPlan s d) := by
    rw [flavorPlan]
    split_ifs
    · exact planIsOn_one
    · exact planIsOn_oneOf fun deadline => by simp [flavorMoves, Move.IsOn, Call.IsOn]
  have volumes : PlanIsOn s (volumePlan s d) := planIsOn_editPlan fun e => by cases e <;> rfl
  have disk : PlanIsOn s (diskPlan s d) := by
    rw [diskPlan]
    split_ifs
    · exact planIsOn_one
    · refine planIsOn_oneOf fun deadline => ?_
      rw [diskMoves]
      split_ifs <;> simp [Move.IsOn, Call.IsOn]
  have revert : PlanIsOn s (revertPlan s d) := by
    rw [revertPlan]
    split_ifs
    · exact planIsOn_one
    · split
      · exact planIsOn_one
      · exact planIsOn_singleton (by simp [Move.IsOn, Call.IsOn])
  exact name.mul (groups.mul (flavor.mul (volumes.mul (planIsOn_networkPlan.mul
    (disk.mul (planIsOn_floatingIpPlan.mul revert))))))

/-- What an update leaves to the other instances. -/
theorem others_updateInstance {c : Cloud} (free : (c.others s.id).FreeOf s.ports) (now : Instant) :
    ((updateInstance t s d).run.exec Cloud.provider ⟨c, now⟩).2.store.others s.id =
      c.others s.id := by
  rw [updateInstance]
  split
  · obtain ⟨moves, r, alike, ⟨rest, planned⟩, -⟩ :=
      follows_convergeExisting (t := t) (s := s) (d := d) Cloud Cloud.provider ⟨c, now⟩
    have own : ∀ m ∈ moves, m.IsOn s := fun m hm =>
      planIsOn_updatePlan _ planned m (List.mem_append_left _ hm)
    have makes : (do perform t s moves; conclude r).run.Makes (Call.IsOn s.id s.ports) :=
      (makes_perform own).run_bind fun _ => trivial
    rw [alike.exec_eq]
    exact makes.others free now
  · rfl

/-- **No operation on an instance touches another.** If no floating address of another instance is
on a port that is tracked for this one, then to read, to update and to delete it leaves to the
others what they have, whatever fails on the way. -/
theorem others_untouched (t : Tuning) (s : InstanceState) (c : Cloud) (now : Instant)
    (foreign : ∀ b ∈ c.floatingIps, b.serverId ≠ s.id → ∀ a ∈ s.networks, b.portId ≠ a.portId) :
    ((readInstance s).run.exec Cloud.provider ⟨c, now⟩).2.store.others s.id = c.others s.id ∧
    (∀ d, ((updateInstance t s d).run.exec Cloud.provider ⟨c, now⟩).2.store.others s.id =
      c.others s.id) ∧
    ((deleteInstance t s).run.exec Cloud.provider ⟨c, now⟩).2.store.others s.id =
      c.others s.id := by
  have free : (c.others s.id).FreeOf s.ports := by
    intro b hb hport
    obtain ⟨hb, hother⟩ := List.mem_filter.1 hb
    obtain ⟨a, ha, hport⟩ := List.mem_map.1 hport
    exact foreign b hb (of_decide_eq_true hother) a ha hport.symm
  exact ⟨makes_readInstance.others free now, fun d => others_updateInstance free now,
    makes_deleteInstance.others free now⟩

/-! ### A cloud that is shared -/

/-- A cloud in which two servers stand on one subnet, are attached to one volume and have a floating
address each. The second is about to be reported as building. -/
def sharedCloud : Cloud where
  servers :=
    [{ detail := { id := "vm", name := "web", status := .active } },
     { detail := { id := "other", name := "db", status := .active }, script := [.build, .active] }]
  networks :=
    [{ id := "net-a", name := "lan-a"
       subnets :=
        [{ id := "sub-a", networkId := "net-a"
           servers :=
            [{ id := "vm", ips := [{ ip := "10.0.0.9", portId := "p1", subnetId := "sub-a" }] },
             { id := "other"
               ips := [{ ip := "10.0.0.8", portId := "p2", subnetId := "sub-a" }] }] }] }]
  volumes := [{ id := "disk", attachments := [{ serverId := "vm" }, { serverId := "other" }] }]
  floatingIps :=
    [{ serverId := "vm", portId := "p1", record := { id := "fip-1" } },
     { serverId := "other", portId := "p2", record := { id := "fip-2" } }]

/-- The tracked state of the first server. -/
def sharedState : InstanceState where
  id := "vm"
  status := .active
  applied := { name := "web", networks := [{ networkId := "net-a" }], volumes := .ofList ["disk"] }
  networks := [{ networkId := "net-a", subnetId := "sub-a", portId := "p1", ip := "10.0.0.9" }]
  volumes := .ofList ["disk"]
  floatingIp := some { floatingIpId := "fip-1", networkId := "net-a" }

/-- The second server keeps its entries while the first gives up its port, its volume and its
floating address. -/
theorem others_untouched_sample :
    (∀ b ∈ sharedCloud.floatingIps, b.serverId ≠ sharedState.id →
      ∀ a ∈ sharedState.networks, b.portId ≠ a.portId) ∧
    ((updateInstance {} sharedState { name := "web" }).run.exec Cloud.provider
      ⟨sharedCloud, 0⟩).2.store.others "vm" = sharedCloud.others "vm" ∧
    ((updateInstance {} sharedState { name := "web" }).run.exec Cloud.provider
      ⟨sharedCloud, 0⟩).2.store.floatingIps =
        [{ serverId := "other", portId := "p2", record := { id := "fip-2" } }] := by
  have foreign : ∀ b ∈ sharedCloud.floatingIps, b.serverId ≠ sharedState.id →
      ∀ a ∈ sharedState.networks, b.portId ≠ a.portId := by decide
  exact ⟨foreign, (others_untouched {} sharedState sharedCloud 0 foreign).2.1 { name := "web" },
    by decide +kernel⟩

end Reconciler
