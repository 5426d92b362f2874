import Reconciler.Instance.State

/-!
# What an update may not change

Some of a configuration is fixed once the instance exists. An update that asks for a change of it is
refused before any call, with one reason for each such change.
-/

namespace Reconciler

/-- The reason to refuse a change of a part of the configuration. -/
def fixedReason (part : String) : String := part ++ " cannot be changed after creation"

/-- The reasons to refuse a change from the applied configuration to the desired one. A dedicated
host is compared only when one is asked for, and an instance that keeps its root disk on the host
keeps its flavor. -/
def immutableViolations (applied desired : InstanceSpec) : List String :=
  let fixed (changed : Bool) (part : String) : List String :=
    if changed then [fixedReason part] else []
  fixed (applied.region ≠ desired.region) "region" ++
  fixed (applied.imageId ≠ desired.imageId) "image id" ++
  fixed (applied.sshKeyName ≠ desired.sshKeyName) "ssh key name" ++
  fixed (applied.serverGroupId ≠ desired.serverGroupId) "server group id" ++
  fixed (desired.dedicatedServerId.isSome && applied.dedicatedServerId ≠ desired.dedicatedServerId)
    "dedicated server id" ++
  fixed (applied.enableIpv4 ≠ desired.enableIpv4) "ipv4 setting" ++
  fixed (applied.enableIpv6 ≠ desired.enableIpv6) "ipv6 setting" ++
  fixed (applied.initScript ≠ desired.initScript) "init script" ++
  if applied.flavorId ≠ desired.flavorId ∧ isLocalStorageFlavor applied.flavorId then
    ["flavor " ++ applied.flavorId ++ " uses local storage and cannot be resized"]
  else []

end Reconciler
