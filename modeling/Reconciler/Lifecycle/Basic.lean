import Reconciler.NetworkGraph
import Reconciler.Poll
import Reconciler.Settings.Basic

/-!
# Operations on an instance

What the operations on an instance have in common: a `Task` is a program that ends with a value or a
`Failure`, and a `Tuning` says how long its waits may take.

## The model

`ask` makes a call on behalf of a named action and turns its failure into the failure of the task.
Deadlines are instants; a timeout too long for the clock is replaced by a far one
(`reachableTimeout`).
-/

namespace Reconciler

/-- How the waits of the operations are made. -/
structure Tuning where
  /-- How long each kind of operation may take. -/
  timeouts : Timeouts := {}
  /-- The pause between two checks. -/
  pollInterval : Span := defaultPollInterval
  /-- What a wait does about refused requests. -/
  policy : PollPolicy := .retryAll
  /-- How many checks a wait may make before it is left unfinished, if there is no pause between
  them. -/
  idleChecks : Nat := Nat.pow 10 15
  deriving DecidableEq

namespace Tuning

/-- The tuning that settings ask for, if they are usable. -/
def ofSettings (s : Settings) : Except Failure Tuning :=
  match s.validate with
  | .error e => .error (.settings e)
  | .ok () =>
    .ok { timeouts := s.timeouts, pollInterval := s.pollInterval, policy := s.pollPolicy }

/-- The terms of a wait with a deadline. -/
def wait (t : Tuning) (deadline : Instant) : Wait where
  deadline := deadline
  interval := t.pollInterval
  policy := t.policy
  idleChecks := t.idleChecks

end Tuning

/-- A program that ends with a value or a failure. -/
abbrev Task (α : Type) := ExceptT Failure Program α

/-- Makes a call. If it fails, so does the task, naming the action the call was made for. -/
def ask (region : Region) (c : Call) (action : String) : Task c.Answer :=
  ExceptT.mk do
    match ← Program.request region c with
    | .ok answer => return .ok answer
    | .error e => return .error (.remote action e)

/-- The shortest timeout, in milliseconds, that the clock cannot represent: its seconds have
sixty-three bits, and it has run for at least a minute. -/
def clockLimit : Span := (Nat.pow 2 63 - 60) * 1000

/-- What stands in for a timeout that the clock cannot represent: thirty years of 365 days. -/
def farTimeout : Span := 30 * 365 * 86400 * 1000

/-- A timeout that the clock can represent. -/
def reachableTimeout (timeout : Span) : Span := if timeout < clockLimit then timeout else farTimeout

/-- The instant at which a timeout that begins now is over. -/
def deadlineAfter (timeout : Span) : Program Instant := do
  let now ← Program.clock
  return now + reachableTimeout timeout

/-- The failure of a task whose wait gave up. -/
def Failure.ofWait (action : String) (instanceId : InstanceId) : WaitError Failure → Failure
  | .timeout _ lastError => .timeout action instanceId lastError
  | .aborted cause => cause

/-- The failure of a wait as the failure of a task. -/
def awaited {α : Type} (action : String) (instanceId : InstanceId) :
    Except (WaitError Failure) α → Except Failure α
  | .ok a => .ok a
  | .error e => .error (.ofWait action instanceId e)

/-- The networks of a region. -/
def listNetworks (region : Region) : Task (List Network) :=
  ask region .listNetworks "list networks"

/-- Whether the instance holds a public address; nothing when it is not listed. -/
def publicIpState (region : Region) (instanceId : InstanceId) : Task (Option Bool) := do
  let listing : List PublicIpRecord ← ask region .listPublicIps "fetch server ip info"
  return (listing.find? (·.serverId = instanceId)).map (·.hasPublicIp)

/-- The failure of binding a floating address to an instance that holds a public one. -/
def publicIpConflict (instanceId : InstanceId) : Failure :=
  .unsupportedFor ("floating ip can only be attached to instance " ++ instanceId ++
    " while it has no public ip")

/-- Of some attachments the first to a network, if it has a port. -/
def attachedTo? (attachments : List NetworkAttachment) (networkId : String) :
    Option NetworkAttachment :=
  (attachments.find? (·.networkId = networkId)).filter (·.isAttached)

/-- Binds a floating address to the port of an attachment. -/
def bindFloatingIp (region : Region) (instanceId : InstanceId) (binding : FloatingIpBinding)
    (target : NetworkAttachment) : Task Unit :=
  ask region
    (.attachFloatingIp binding.floatingIpId
      { serverId := instanceId, subnetId := target.subnetId, portId := target.portId })
    "attach floating ip"

end Reconciler
