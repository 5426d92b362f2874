/-!
# Failures of the settings

Settings that cannot be used: a value out of its range, or sources that cannot be read.
-/

namespace Reconciler

/-- Why settings cannot be used. -/
inductive SettingsError where
  /-- A value is out of its range. -/
  | invalid (detail : String)
  /-- A source cannot be read. -/
  | unreadable (detail : String)
  deriving DecidableEq, Repr

/-- The text of a failure of the settings. -/
def SettingsError.message : SettingsError → String
  | .invalid detail => "invalid configuration value: " ++ detail
  | .unreadable detail => "configuration parsing failed: " ++ detail

end Reconciler
