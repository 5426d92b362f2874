import Reconciler.Lifecycle.Refresh
import Reconciler.Lifecycle.Removal
import Reconciler.Lifecycle.Update

/-!
# Sessions

A session is a provider's world, the tuning of the reconciler, and the instance it tracks.
Operations work on the tracked instance and keep track of what becomes of it.

## The model

The tracked state becomes the one that an operation answers. A creation that came only part of the
way is tracked as far as it came; any other failure, a read that finds nothing, and a deletion leave
the tracked state as it was.
-/

namespace Reconciler

/-- A session with a provider. -/
structure Session (σ : Type) where
  /-- The provider's store and the clock. -/
  world : World σ
  /-- How the waits are made. -/
  tuning : Tuning := {}
  /-- The tracked state, if an instance is tracked. -/
  tracked : Option InstanceState := none

namespace Session

variable {σ α : Type}

/-- The outcome of an operation, unless it is left unfinished, and the session after it. -/
abbrev Done (σ α : Type) := Option (Except Failure α) × Session σ

/-- The state that a failed creation came to. -/
def partialState? : Failure → Option InstanceState
  | .incomplete s _ => some s
  | _ => none

/-- The state to track after an operation whose answers show states as `shown` says. -/
def trackedAfter (shown : α → Option InstanceState) (before : Option InstanceState) :
    Option (Except Failure α) → Option InstanceState
  | some (.ok a) => (shown a).or before
  | some (.error e) => (partialState? e).or before
  | none => before

/-- Runs an operation. -/
def operate (p : Provider σ) (s : Session σ) (shown : α → Option InstanceState) (task : Task α) :
    Done σ α :=
  let (outcome, world) := task.run.exec p s.world
  (outcome, { s with world, tracked := trackedAfter shown s.tracked outcome })

/-- Creates an instance. -/
def create (p : Provider σ) (s : Session σ) (desired : InstanceSpec) : Done σ InstanceState :=
  s.operate p some (createInstance s.tuning desired)

/-- Reads an instance again. -/
def read (p : Provider σ) (s : Session σ) (observed : InstanceState) :
    Done σ (Option InstanceState) :=
  s.operate p id (readInstance observed)

/-- Updates an instance. -/
def update (p : Provider σ) (s : Session σ) (observed : InstanceState) (desired : InstanceSpec) :
    Done σ InstanceState :=
  s.operate p some (updateInstance s.tuning observed desired)

/-- Deletes an instance. -/
def delete (p : Provider σ) (s : Session σ) (observed : InstanceState) : Done σ Unit :=
  s.operate p (fun _ => none) (deleteInstance s.tuning observed)

/-- Makes one call. -/
def call (p : Provider σ) (s : Session σ) (region : Region) (c : Call) : Outcome c × Session σ :=
  (s.world.outcome p region c, { s with world := s.world.afterCall p region c })

/-- Tunes the session as settings ask, if they are usable. -/
def configure (s : Session σ) (settings : Settings) : Except Failure (Session σ) :=
  (Tuning.ofSettings settings).map fun tuning => { s with tuning }

end Session

end Reconciler
