import Reconciler.Program
import Reconciler.Retry
import Reconciler.Settings.Error

/-!
# Settings

The settings of the reconciler as its user gives them, in whole seconds, and the times they stand
for. Settings are usable when each of the four times is at least one second and at most a week.
-/

namespace Reconciler

/-- How long each kind of operation may take. -/
structure Timeouts where
  /-- For an instance to become usable after its creation: twenty minutes unless set. -/
  create : Span := 20 * 60 * 1000
  /-- For each wait during an update: five minutes unless set. -/
  update : Span := 5 * 60 * 1000
  /-- For an instance to disappear after its deletion: two minutes unless set. -/
  delete : Span := 2 * 60 * 1000
  deriving DecidableEq, Repr

/-- The pause between two checks unless set: five seconds. -/
def defaultPollInterval : Span := 5 * 1000

/-- The longest time that settings may ask for, in seconds: a week. -/
def maxWaitSecs : Nat := 7 * 24 * 60 * 60

/-- The settings of the reconciler. -/
structure Settings where
  /-- The seconds between two checks. -/
  pollIntervalSecs : Nat := 5
  /-- The seconds allowed for a creation. -/
  createTimeoutSecs : Nat := 1200
  /-- The seconds allowed for each wait during an update. -/
  updateTimeoutSecs : Nat := 300
  /-- The seconds allowed for a deletion. -/
  deleteTimeoutSecs : Nat := 120
  /-- Whether the first refused request ends a wait. -/
  abortOnClientError : Bool := false
  deriving DecidableEq, Repr

/-- A setting that is a number of seconds. -/
inductive SecondsSetting where
  /-- The seconds between two checks. -/
  | pollInterval
  /-- The seconds allowed for a creation. -/
  | createTimeout
  /-- The seconds allowed for each wait during an update. -/
  | updateTimeout
  /-- The seconds allowed for a deletion. -/
  | deleteTimeout
  deriving DecidableEq, Repr

namespace SecondsSetting

/-- The four of them, in the order in which they are validated. -/
def all : List SecondsSetting := [.pollInterval, .createTimeout, .updateTimeout, .deleteTimeout]

/-- What the setting is called in a message. -/
def title : SecondsSetting → String
  | .pollInterval => "poll interval"
  | .createTimeout => "create timeout"
  | .updateTimeout => "update timeout"
  | .deleteTimeout => "delete timeout"

/-- The key of the setting in a settings file. -/
def fileKey : SecondsSetting → String
  | .pollInterval => "poll_interval_secs"
  | .createTimeout => "create_timeout_secs"
  | .updateTimeout => "update_timeout_secs"
  | .deleteTimeout => "delete_timeout_secs"

/-- The environment variable of the setting. -/
def envKey : SecondsSetting → String
  | .pollInterval => "ECC_POLL_INTERVAL_SECS"
  | .createTimeout => "ECC_CREATE_TIMEOUT_SECS"
  | .updateTimeout => "ECC_UPDATE_TIMEOUT_SECS"
  | .deleteTimeout => "ECC_DELETE_TIMEOUT_SECS"

/-- The value of the setting. -/
def value (s : Settings) : SecondsSetting → Nat
  | .pollInterval => s.pollIntervalSecs
  | .createTimeout => s.createTimeoutSecs
  | .updateTimeout => s.updateTimeoutSecs
  | .deleteTimeout => s.deleteTimeoutSecs

/-- Why a number of seconds is refused for the setting, if it is. -/
def check (k : SecondsSetting) (secs : Nat) : Except SettingsError Unit :=
  let remedy := ": set " ++ k.envKey ++ " or " ++ k.fileKey ++ " in ecc.toml"
  if secs = 0 then
    .error (.invalid (k.title ++ " must be greater than zero" ++ remedy))
  else if secs > maxWaitSecs then
    .error (.invalid (k.title ++ " must not exceed " ++ toString maxWaitSecs ++ " seconds (got " ++
      toString secs ++ ")" ++ remedy))
  else .ok ()

end SecondsSetting

namespace Settings

/-- Refuses the first setting that is out of its range. -/
def validate (s : Settings) : Except SettingsError Unit :=
  SecondsSetting.all.forM fun k => k.check (k.value s)

/-- The pause between two checks. -/
def pollInterval (s : Settings) : Span := s.pollIntervalSecs * 1000

/-- How long each kind of operation may take. -/
def timeouts (s : Settings) : Timeouts where
  create := s.createTimeoutSecs * 1000
  update := s.updateTimeoutSecs * 1000
  delete := s.deleteTimeoutSecs * 1000

/-- What a wait does about refused requests. -/
def pollPolicy (s : Settings) : PollPolicy :=
  if s.abortOnClientError then .abortOnClientError else .retryAll

end Settings

end Reconciler
