import Reconciler.Ids.Set

/-!
# Edit scripts between sets of identifiers

The script that turns one set of identifiers into another: first every addition, then every removal,
each in ascending order. The empty identifier names nothing and is passed over on both sides.
-/

namespace Reconciler

/-- One step of an edit script. -/
inductive Edit where
  /-- The identifier is wanted and not yet there. -/
  | add (id : String)
  /-- The identifier is there and no longer wanted. -/
  | remove (id : String)
  deriving DecidableEq, Repr

namespace Edit

/-- The identifier a step is about. -/
def id : Edit → String
  | .add x => x
  | .remove x => x

/-- Whether a step is an addition. -/
def isAdd : Edit → Bool
  | .add _ => true
  | .remove _ => false

/-- The set after a step. -/
def apply (s : IdSet) : Edit → IdSet
  | .add x => s.insert x
  | .remove x => s.erase x

end Edit

/-- The steps that turn `observed` into `desired`. -/
def editScript (desired observed : IdSet) : List Edit :=
  (desired.members.filter fun x => x ∉ observed ∧ x ≠ "").map .add ++
    (observed.members.filter fun x => x ∉ desired ∧ x ≠ "").map .remove

/-- The set after all the steps of a script. -/
def applyEdits (s : IdSet) (script : List Edit) : IdSet := script.foldl Edit.apply s

end Reconciler
