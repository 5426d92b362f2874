import Reconciler.Cloud.Calls
import Reconciler.Cloud.Setup
import Reconciler.Json.Printer
import Reconciler.Json.Reader
import Reconciler.Lifecycle.Creation
import Reconciler.Lifecycle.Refresh
import Reconciler.Lifecycle.Removal
import Reconciler.Lifecycle.Update
import Reconciler.Persist.Records
import Reconciler.Proofs.Accounts
import Reconciler.Proofs.Cloud.Built
import Reconciler.Proofs.Cloud.Frames
import Reconciler.Proofs.Cloud.Hosts
import Reconciler.Proofs.Cloud.Identifiers
import Reconciler.Proofs.Cloud.Obscured
import Reconciler.Proofs.Cloud.OnRecord
import Reconciler.Proofs.Cloud.Ports
import Reconciler.Proofs.Cloud.Records
import Reconciler.Proofs.Cloud.Rehearsal
import Reconciler.Proofs.Cloud.Servers
import Reconciler.Proofs.Cloud.Shown
import Reconciler.Proofs.Cloud.Untouched
import Reconciler.Proofs.Creation.Accounted
import Reconciler.Proofs.Creation.Identity
import Reconciler.Proofs.Creation.Outcome
import Reconciler.Proofs.Creation.Ports
import Reconciler.Proofs.Creation.ReadBack
import Reconciler.Proofs.Creation.Requests
import Reconciler.Proofs.Creation.Result
import Reconciler.Proofs.Deletion
import Reconciler.Proofs.FloatingIp
import Reconciler.Proofs.FloatingIp.Guarded
import Reconciler.Proofs.Grammar
import Reconciler.Proofs.Grammar.Persisted
import Reconciler.Proofs.Grammar.Records
import Reconciler.Proofs.Layering
import Reconciler.Proofs.Lifetime
import Reconciler.Proofs.Loaders
import Reconciler.Proofs.Lists
import Reconciler.Proofs.Maps
import Reconciler.Proofs.Neighbours
import Reconciler.Proofs.Reading
import Reconciler.Proofs.Reading.Again
import Reconciler.Proofs.Reading.Applied
import Reconciler.Proofs.Reading.Networks
import Reconciler.Proofs.Recovery
import Reconciler.Proofs.Resolution
import Reconciler.Proofs.Resolution.Attaching
import Reconciler.Proofs.Resolution.ByAddress
import Reconciler.Proofs.RoundTrip
import Reconciler.Proofs.Runs
import Reconciler.Proofs.Series
import Reconciler.Proofs.Straight
import Reconciler.Proofs.Timed
import Reconciler.Proofs.Update.Answers
import Reconciler.Proofs.Update.Calls
import Reconciler.Proofs.Update.Conduct
import Reconciler.Proofs.Update.FixedPart
import Reconciler.Proofs.Update.FloatingIpStep
import Reconciler.Proofs.Update.Guard
import Reconciler.Proofs.Update.Listing
import Reconciler.Proofs.Update.Membership
import Reconciler.Proofs.Update.MembershipSteps
import Reconciler.Proofs.Update.Moves
import Reconciler.Proofs.Update.NetworkCalls
import Reconciler.Proofs.Update.NetworkSteps
import Reconciler.Proofs.Update.Networks
import Reconciler.Proofs.Update.NetworksShown
import Reconciler.Proofs.Update.Outcome
import Reconciler.Proofs.Update.PassingFailures
import Reconciler.Proofs.Update.Phases
import Reconciler.Proofs.Update.Plan
import Reconciler.Proofs.Update.PowerCycle
import Reconciler.Proofs.Update.Profile
import Reconciler.Proofs.Update.ReadBack
import Reconciler.Proofs.Update.Repeated
import Reconciler.Proofs.Update.Result
import Reconciler.Proofs.Update.SafeEdits
import Reconciler.Proofs.Update.ServerSteps
import Reconciler.Proofs.Update.Steps
import Reconciler.Proofs.Waiting
import Reconciler.Proofs.Waiting.Deadlines
import Reconciler.Proofs.Waiting.Ends
import Reconciler.Proofs.Waiting.LaterDeadline
import Reconciler.Proofs.Waiting.Policies
import Reconciler.Proofs.Waiting.Rounds
import Reconciler.Scripted
import Reconciler.Session
import Reconciler.Settings.Layers
