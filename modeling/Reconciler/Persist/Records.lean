import Reconciler.Instance.State
import Reconciler.Persist.Reading
import Reconciler.Settings.Basic

/-!
# The persisted form of the records

How configurations, tracked states and settings are written and read. Writing gives every field; a
reader follows the two passes of `Reconciler.Persist.Reading`.
-/

namespace Reconciler

open Document (asText asBoolean asNatural asOption asList asIdSet ofOption ofNatural ofIdSet)

instance : Persisted String where
  encode := .text
  decode := asText

instance : Persisted Status where
  encode s := .text s.word
  decode d := d.asText.map .ofWord

/-! ### Network requests -/

namespace NetworkRequest

/-- The shape of the record. -/
def shape : RecordShape := ⟨"NetworkRequest", 3⟩

/-- The document of a network request. -/
def encode (r : NetworkRequest) : Document :=
  .record [
    ("network_id", .text r.networkId),
    ("ip", ofOption .text r.ip),
    ("port_security_enabled", .boolean r.portSecurity)]

/-- A network request from its fields. -/
def ofFields (fields : Fields) : Decoded NetworkRequest := do
  let ip ← fields.field? "ip" (asOption asText)
  let networkId ← fields.field? "network_id" asText
  let portSecurity ← fields.field? "port_security_enabled" asBoolean
  let networkId ← required "network_id" networkId
  return { networkId, ip := ip.getD none, portSecurity := portSecurity.getD false }

/-- A network request from its items. -/
def ofItems : ItemReader NetworkRequest := do
  let networkId ← shape.item asText
  let ip ← itemOr none (asOption asText)
  let portSecurity ← itemOr false asBoolean
  return { networkId, ip, portSecurity }

/-- The network request of a document. -/
def decode : Document → Decoded NetworkRequest := shape.read ofFields ofItems

instance : Persisted NetworkRequest := ⟨encode, decode⟩

end NetworkRequest

/-! ### Network attachments -/

namespace NetworkAttachment

/-- The shape of the record. -/
def shape : RecordShape := ⟨"NetworkAttachment", 6⟩

/-- The document of a network attachment. -/
def encode (a : NetworkAttachment) : Document :=
  .record [
    ("network_id", .text a.networkId),
    ("subnet_id", .text a.subnetId),
    ("port_id", .text a.portId),
    ("ip", .text a.ip),
    ("is_public", .boolean a.isPublic),
    ("port_security_enabled", .boolean a.portSecurity)]

/-- A network attachment from its fields. -/
def ofFields (fields : Fields) : Decoded NetworkAttachment := do
  let ip ← fields.field? "ip" asText
  let isPublic ← fields.field? "is_public" asBoolean
  let networkId ← fields.field? "network_id" asText
  let portId ← fields.field? "port_id" asText
  let portSecurity ← fields.field? "port_security_enabled" asBoolean
  let subnetId ← fields.field? "subnet_id" asText
  return {
    networkId := ← required "network_id" networkId
    subnetId := ← required "subnet_id" subnetId
    portId := ← required "port_id" portId
    ip := ← required "ip" ip
    isPublic := ← required "is_public" isPublic
    portSecurity := ← required "port_security_enabled" portSecurity }

/-- A network attachment from its items. -/
def ofItems : ItemReader NetworkAttachment := do
  return {
    networkId := ← shape.item asText
    subnetId := ← shape.item asText
    portId := ← shape.item asText
    ip := ← shape.item asText
    isPublic := ← shape.item asBoolean
    portSecurity := ← shape.item asBoolean }

/-- The network attachment of a document. -/
def decode : Document → Decoded NetworkAttachment := shape.read ofFields ofItems

instance : Persisted NetworkAttachment := ⟨encode, decode⟩

end NetworkAttachment

/-! ### Floating addresses -/

namespace FloatingIpBinding

/-- The shape of the record. -/
def shape : RecordShape := ⟨"FloatingIpAttachment", 2⟩

/-- The document of the binding of a floating address. -/
def encode (b : FloatingIpBinding) : Document :=
  .record [("floating_ip_id", .text b.floatingIpId), ("network_id", .text b.networkId)]

/-- The binding of a floating address from its fields. -/
def ofFields (fields : Fields) : Decoded FloatingIpBinding := do
  let floatingIpId ← fields.field? "floating_ip_id" asText
  let networkId ← fields.field? "network_id" asText
  return {
    floatingIpId := ← required "floating_ip_id" floatingIpId
    networkId := ← required "network_id" networkId }

/-- The binding of a floating address from its items. -/
def ofItems : ItemReader FloatingIpBinding := do
  return {
    floatingIpId := ← shape.item asText
    networkId := ← shape.item asText }

/-- The binding of a floating address of a document. -/
def decode : Document → Decoded FloatingIpBinding := shape.read ofFields ofItems

instance : Persisted FloatingIpBinding := ⟨encode, decode⟩

end FloatingIpBinding

/-! ### Configurations -/

namespace InstanceSpec

/-- The shape of the record. -/
def shape : RecordShape := ⟨"DesiredInstanceSpec", 17⟩

/-- The document of a configuration. -/
def encode (s : InstanceSpec) : Document :=
  .record [
    ("region", .text s.region),
    ("name", .text s.name),
    ("image_id", .text s.imageId),
    ("flavor_id", .text s.flavorId),
    ("disk_size", ofNatural s.diskSize),
    ("init_script", ofOption .text s.initScript),
    ("ssh_key_name", ofOption .text s.sshKeyName),
    ("security_groups", ofIdSet s.securityGroups),
    ("networks", .list (s.networks.map NetworkRequest.encode)),
    ("volumes", ofIdSet s.volumes),
    ("floating_ip", ofOption FloatingIpBinding.encode s.floatingIp),
    ("server_group_id", ofOption .text s.serverGroupId),
    ("dedicated_server_id", ofOption .text s.dedicatedServerId),
    ("revert_to_snapshot_id", ofOption .text s.revertToSnapshotId),
    ("snapshot_id", ofOption .text s.snapshotId),
    ("enable_ipv4", .boolean s.enableIpv4),
    ("enable_ipv6", .boolean s.enableIpv6)]

/-- A configuration from its fields. -/
def ofFields (fields : Fields) : Decoded InstanceSpec := do
  let dedicatedServerId ← fields.field? "dedicated_server_id" (asOption asText)
  let diskSize ← fields.field? "disk_size" asNatural
  let enableIpv4 ← fields.field? "enable_ipv4" asBoolean
  let enableIpv6 ← fields.field? "enable_ipv6" asBoolean
  let flavorId ← fields.field? "flavor_id" asText
  let floatingIp ← fields.field? "floating_ip" (asOption FloatingIpBinding.decode)
  let imageId ← fields.field? "image_id" asText
  let initScript ← fields.field? "init_script" (asOption asText)
  let name ← fields.field? "name" asText
  let networks ← fields.field? "networks" (asList NetworkRequest.decode)
  let region ← fields.field? "region" asText
  let revertToSnapshotId ← fields.field? "revert_to_snapshot_id" (asOption asText)
  let securityGroups ← fields.field? "security_groups" asIdSet
  let serverGroupId ← fields.field? "server_group_id" (asOption asText)
  let snapshotId ← fields.field? "snapshot_id" (asOption asText)
  let sshKeyName ← fields.field? "ssh_key_name" (asOption asText)
  let volumes ← fields.field? "volumes" asIdSet
  let region ← required "region" region
  let name ← required "name" name
  let imageId ← required "image_id" imageId
  let flavorId ← required "flavor_id" flavorId
  let diskSize ← required "disk_size" diskSize
  return {
    region, name, imageId, flavorId, diskSize
    initScript := initScript.getD none
    sshKeyName := sshKeyName.getD none
    securityGroups := securityGroups.getD ∅
    networks := networks.getD []
    volumes := volumes.getD ∅
    floatingIp := floatingIp.getD none
    serverGroupId := serverGroupId.getD none
    dedicatedServerId := dedicatedServerId.getD none
    revertToSnapshotId := revertToSnapshotId.getD none
    snapshotId := snapshotId.getD none
    enableIpv4 := enableIpv4.getD false
    enableIpv6 := enableIpv6.getD false }

/-- A configuration from its items. -/
def ofItems : ItemReader InstanceSpec := do
  return {
    region := ← shape.item asText
    name := ← shape.item asText
    imageId := ← shape.item asText
    flavorId := ← shape.item asText
    diskSize := ← shape.item asNatural
    initScript := ← itemOr none (asOption asText)
    sshKeyName := ← itemOr none (asOption asText)
    securityGroups := ← itemOr ∅ asIdSet
    networks := ← itemOr [] (asList NetworkRequest.decode)
    volumes := ← itemOr ∅ asIdSet
    floatingIp := ← itemOr none (asOption FloatingIpBinding.decode)
    serverGroupId := ← itemOr none (asOption asText)
    dedicatedServerId := ← itemOr none (asOption asText)
    revertToSnapshotId := ← itemOr none (asOption asText)
    snapshotId := ← itemOr none (asOption asText)
    enableIpv4 := ← itemOr false asBoolean
    enableIpv6 := ← itemOr false asBoolean }

/-- The configuration of a document. -/
def decode : Document → Decoded InstanceSpec := shape.read ofFields ofItems

instance : Persisted InstanceSpec := ⟨encode, decode⟩

end InstanceSpec

/-! ### Tracked states -/

namespace InstanceState

/-- The shape of the record. -/
def shape : RecordShape := ⟨"ObservedInstanceState", 10⟩

/-- The document of a tracked state. -/
def encode (s : InstanceState) : Document :=
  .record [
    ("id", .text s.id),
    ("task_id", ofOption .text s.taskId),
    ("status", .text s.status.word),
    ("cluster_id", ofOption .text s.clusterId),
    ("password", ofOption .text s.password),
    ("applied", s.applied.encode),
    ("networks", .list (s.networks.map NetworkAttachment.encode)),
    ("volumes", ofIdSet s.volumes),
    ("security_groups", ofIdSet s.securityGroups),
    ("floating_ip", ofOption FloatingIpBinding.encode s.floatingIp)]

/-- A tracked state from its fields. -/
def ofFields (fields : Fields) : Decoded InstanceState := do
  let applied ← fields.field? "applied" InstanceSpec.decode
  let clusterId ← fields.field? "cluster_id" (asOption asText)
  let floatingIp ← fields.field? "floating_ip" (asOption FloatingIpBinding.decode)
  let id ← fields.field? "id" asText
  let networks ← fields.field? "networks" (asList NetworkAttachment.decode)
  let password ← fields.field? "password" (asOption asText)
  let securityGroups ← fields.field? "security_groups" asIdSet
  let status ← fields.field? "status" asText
  let taskId ← fields.field? "task_id" (asOption asText)
  let volumes ← fields.field? "volumes" asIdSet
  let id ← required "id" id
  let status ← required "status" status
  let applied ← required "applied" applied
  return {
    id, applied
    status := .ofWord status
    taskId := taskId.getD none
    clusterId := clusterId.getD none
    password := password.getD none
    networks := networks.getD []
    volumes := volumes.getD ∅
    securityGroups := securityGroups.getD ∅
    floatingIp := floatingIp.getD none }

/-- A tracked state from its items. -/
def ofItems : ItemReader InstanceState := do
  return {
    id := ← shape.item asText
    taskId := ← itemOr none (asOption asText)
    status := .ofWord (← shape.item asText)
    clusterId := ← itemOr none (asOption asText)
    password := ← itemOr none (asOption asText)
    applied := ← shape.item InstanceSpec.decode
    networks := ← itemOr [] (asList NetworkAttachment.decode)
    volumes := ← itemOr ∅ asIdSet
    securityGroups := ← itemOr ∅ asIdSet
    floatingIp := ← itemOr none (asOption FloatingIpBinding.decode) }

/-- The tracked state of a document. -/
def decode : Document → Decoded InstanceState := shape.read ofFields ofItems

instance : Persisted InstanceState := ⟨encode, decode⟩

end InstanceState

/-! ### Settings -/

namespace Settings

/-- The shape of the record. -/
def shape : RecordShape := ⟨"ConvergeConfig", 5⟩

/-- The document of settings. -/
def encode (s : Settings) : Document :=
  .record [
    ("poll_interval_secs", ofNatural s.pollIntervalSecs),
    ("create_timeout_secs", ofNatural s.createTimeoutSecs),
    ("update_timeout_secs", ofNatural s.updateTimeoutSecs),
    ("delete_timeout_secs", ofNatural s.deleteTimeoutSecs),
    ("abort_on_client_error", .boolean s.abortOnClientError)]

/-- Settings from their fields, none of which has a default. -/
def ofFields (fields : Fields) : Decoded Settings := do
  let abortOnClientError ← fields.field? "abort_on_client_error" asBoolean
  let createTimeoutSecs ← fields.field? "create_timeout_secs" asNatural
  let deleteTimeoutSecs ← fields.field? "delete_timeout_secs" asNatural
  let pollIntervalSecs ← fields.field? "poll_interval_secs" asNatural
  let updateTimeoutSecs ← fields.field? "update_timeout_secs" asNatural
  return {
    pollIntervalSecs := ← required "poll_interval_secs" pollIntervalSecs
    createTimeoutSecs := ← required "create_timeout_secs" createTimeoutSecs
    updateTimeoutSecs := ← required "update_timeout_secs" updateTimeoutSecs
    deleteTimeoutSecs := ← required "delete_timeout_secs" deleteTimeoutSecs
    abortOnClientError := ← required "abort_on_client_error" abortOnClientError }

/-- Settings from their items. -/
def ofItems : ItemReader Settings := do
  return {
    pollIntervalSecs := ← shape.item asNatural
    createTimeoutSecs := ← shape.item asNatural
    updateTimeoutSecs := ← shape.item asNatural
    deleteTimeoutSecs := ← shape.item asNatural
    abortOnClientError := ← shape.item asBoolean }

/-- The settings of a document. -/
def decode : Document → Decoded Settings := shape.read ofFields ofItems

instance : Persisted Settings := ⟨encode, decode⟩

end Settings

end Reconciler
