import Reconciler.Instance.Spec
import Reconciler.Instance.Status

/-!
# The tracked state of an instance

What is known of an instance: what the provider last reported, and the configuration that was last
brought about (`applied`).
-/

namespace Reconciler

/-- The state of an instance as it was last seen. -/
structure InstanceState where
  /-- The provider's identifier. -/
  id : InstanceId := ""
  /-- The creation task, of meaning only while the instance is being built. -/
  taskId : Option TaskId := none
  /-- The lifecycle status. -/
  status : Status := .build
  /-- The cluster the instance runs in. -/
  clusterId : Option String := none
  /-- The password handed out once at creation. -/
  password : Option String := none
  /-- The configuration last brought about, refreshed by reads. -/
  applied : InstanceSpec := {}
  /-- The network attachments. -/
  networks : List NetworkAttachment := []
  /-- The attached volumes. -/
  volumes : IdSet := ∅
  /-- The security groups. -/
  securityGroups : IdSet := ∅
  /-- The bound floating address. -/
  floatingIp : Option FloatingIpBinding := none
  deriving DecidableEq, Inhabited

namespace InstanceState

/-- The region the instance lives in. -/
def region (s : InstanceState) : Region := s.applied.region

/-- The first attachment to a network. -/
def network? (s : InstanceState) (networkId : String) : Option NetworkAttachment :=
  s.networks.find? (·.networkId = networkId)

end InstanceState

end Reconciler
