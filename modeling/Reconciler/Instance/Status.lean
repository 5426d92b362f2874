/-!
# The status of an instance

A provider reports the status of an instance as a word. Four words are acted upon; every other word
is carried along as it came.
-/

namespace Reconciler

/-- The lifecycle status of an instance. -/
inductive Status where
  /-- The instance is being provisioned. -/
  | build
  /-- The instance is running. -/
  | active
  /-- The instance is powered off. -/
  | shutoff
  /-- The instance has failed. -/
  | error
  /-- Any other word of the provider. -/
  | other (word : String)
  deriving DecidableEq, Repr

namespace Status

instance : Inhabited Status := ⟨.build⟩

/-- The provider's word for a status. -/
def word : Status → String
  | .build => "BUILD"
  | .active => "ACTIVE"
  | .shutoff => "SHUTOFF"
  | .error => "ERROR"
  | .other w => w

/-- The status a provider's word stands for. -/
def ofWord (w : String) : Status :=
  if w = "BUILD" then .build
  else if w = "ACTIVE" then .active
  else if w = "SHUTOFF" then .shutoff
  else if w = "ERROR" then .error
  else .other w

/-- Reading a word and writing the status gives the word back. -/
@[simp] theorem word_ofWord (w : String) : (ofWord w).word = w := by
  unfold ofWord
  repeat' split
  all_goals first | rfl | (rename_i h; exact h.symm)

/-- A status is in normal form when no `other` holds one of the four words that are acted upon. -/
def normalize (s : Status) : Status := ofWord s.word

end Status

end Reconciler
