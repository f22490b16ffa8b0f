import Arbora.Agents.Models
import Arbora.Lib.Asking
import Arbora.Lib.Dict
import Arbora.Lib.Pool

/-! Records of the connectors: identities and releases that never change, the state an operator wants for a server,
and what probes observe. -/
namespace Arbora.Connectors
open Agents (Identifier VersionText Timestamp canonical hashed isIdentifier_hashed)
open Json (Document sorted)
open PolicyPlane (Digest canonicalDigest)

inductive ProtocolName where
  | mcp | a2a | source
  deriving DecidableEq

def ProtocolName.value : ProtocolName → String
  | .mcp => "mcp"
  | .a2a => "a2a"
  | .source => "source"

inductive CapabilityKind where
  | tool | resource | prompt

def CapabilityKind.value : CapabilityKind → String
  | .tool => "tool"
  | .resource => "resource"
  | .prompt => "prompt"

inductive DesiredStatus where
  | disabled | enabled | quarantined
  deriving DecidableEq

inductive ObservationStatus where
  | ready | empty | unreachable | failed | quarantined
  deriving DecidableEq

def connectorIdFor (publisher packageName : Identifier) (protocol : ProtocolName) : Identifier :=
  ⟨hashed "connector:" [canonical publisher.1,canonical packageName.1,protocol.value.toList],
    isIdentifier_hashed (by decide) _⟩

def serverIdFor (tenantId connectorId instanceRef : Identifier) : Identifier :=
  ⟨hashed "server:" [canonical tenantId.1,canonical connectorId.1,canonical instanceRef.1],
    isIdentifier_hashed (by decide) _⟩

def capabilityIdFor (kind : CapabilityKind) (name : Identifier) (version : VersionText) : Identifier :=
  ⟨hashed "capability:" [canonical kind.value,canonical name.1,canonical version.1],isIdentifier_hashed (by decide) _⟩

def versionIdFor (connectorId : Identifier) (version : VersionText)
    (manifestDigest mappingDigest capabilityDigest : Digest) : Identifier :=
  ⟨hashed "version:" [connectorId.1.toList,version.1.toList,manifestDigest.1.toList,mappingDigest.1.toList,
    capabilityDigest.1.toList],isIdentifier_hashed (by decide) _⟩

structure ConnectorIdentity where
  (connectorId publisher packageName : Identifier)
  protocol : ProtocolName
  derived : connectorId = connectorIdFor publisher packageName protocol
  deriving DecidableEq

structure ServerIdentity where
  serverId : Identifier
  connector : ConnectorIdentity
  (tenantId instanceRef displayName : Identifier)
  derived : serverId = serverIdFor tenantId connector.connectorId instanceRef
  deriving DecidableEq

/-- `values_are_unique_and_normalized`, of one of the lists -/
def Normalized (values : List String) : Prop := values.length ≤ 32 ∧ values.Pairwise (· < ·)

instance (values : List String) : Decidable (Normalized values) := inferInstanceAs (Decidable (_ ∧ _))

structure CompatibilityProfile where
  protocol : ProtocolName
  (protocolVersions engineVersions : List VersionText)
  (platforms features : List Identifier)
  nonempty : protocolVersions ≠ []
  normalized : Normalized (protocolVersions.map (·.1)) ∧ Normalized (engineVersions.map (·.1)) ∧
    Normalized (platforms.map (·.1)) ∧ Normalized (features.map (·.1))
  deriving DecidableEq

def bindingDigest (kind : CapabilityKind) (name : Identifier) (version : VersionText) (schemaDigest : Digest)
    (protocolVersion : VersionText) : Digest :=
  canonicalDigest <| sorted [("kind",.string kind.value),("name",.string name),("version",.string version),
    ("schema_digest",.string schemaDigest),("protocol_version",.string protocolVersion)]

structure CapabilityBinding where
  bindingId : Identifier
  kind : CapabilityKind
  name : Identifier
  version : VersionText
  schemaDigest : Digest
  protocolVersion : VersionText
  capabilityDigest : Digest
  stable : bindingId = capabilityIdFor kind name version
  exact : capabilityDigest = bindingDigest kind name version schemaDigest protocolVersion

def CapabilityBinding.document (c : CapabilityBinding) : Document := sorted [
  ("binding_id",.string c.bindingId),("kind",.string c.kind.value),("name",.string c.name),
  ("version",.string c.version),("schema_digest",.string c.schemaDigest),
  ("protocol_version",.string c.protocolVersion),("capability_digest",.string c.capabilityDigest)]

/-- `capability_set_digest`, of capabilities that are in order -/
def capabilitySetDigest (capabilities : List CapabilityBinding) : Digest :=
  canonicalDigest (.array (capabilities.map CapabilityBinding.document))
def NormalizedCapabilities (capabilities : List CapabilityBinding) : Prop :=
  capabilities.length ≤ 512 ∧ (capabilities.map (·.bindingId.1)).Pairwise (· < ·)

/-- `references_are_controlled`, of one reference -/
def isControlled (text : Identifier) : Bool :=
  ["http:","https:","file:","env:","secret:","vault:"].all fun start => !start.toList.isPrefixOf (canonical text.1)

structure InventoryReference where
  packageRef : {text : Identifier // isControlled text = true}
  packageVersion : VersionText
  manifestRef : {text : Identifier // isControlled text = true}
  manifestDigest : Digest
  sourceRef : {text : Identifier // isControlled text = true}
  signerRef : Option {text : Identifier // isControlled text = true}

/-- A release of a connector, which never changes. -/
structure ConnectorVersion where
  (versionId connectorId : Identifier)
  version : VersionText
  manifestRef : Identifier
  (manifestDigest mappingDigest : Digest)
  compatibility : CompatibilityProfile
  capabilities : List CapabilityBinding
  setDigest : Digest
  inventory : InventoryReference
  sameInventory : inventory.manifestDigest = manifestDigest ∧ inventory.manifestRef.1 = manifestRef ∧
    inventory.packageVersion = version
  normalized : NormalizedCapabilities capabilities
  digested : setDigest = capabilitySetDigest capabilities
  derived : versionId = versionIdFor connectorId version manifestDigest mappingDigest setDigest

structure DesiredConnectorState where
  server : ServerIdentity
  (versionId inventoryRef : Identifier)
  desiredStatus : DesiredStatus
  revision : {n : ℕ // 1 ≤ n}
  changeRef : Identifier
  deriving DecidableEq

inductive ProbeFailureCode where
  | timeout | transportUnavailable | authenticationUnavailable | schemaUnavailable | schemaMismatch | policyDenied
  | malformedResponse

structure Honest (status : ObservationStatus) (manifestDigest : Option Digest) (compatibility : Option CompatibilityProfile)
    (complete snapshot verified : Bool) (failure : Option ProbeFailureCode) : Prop where
  verifiedEmpty : verified = true → status = .empty ∧ complete = true ∧ snapshot = true
  emptySnapshot : status = .empty → snapshot = true → complete = true
  failed : status = .unreachable ∨ status = .failed → failure.isSome = true
  ready : status = .ready → failure = none ∧ manifestDigest.isSome = true ∧ compatibility.isSome = true

structure Observation where
  (observationRef serverId versionId : Identifier)
  manifestDigest : Option Digest
  status : ObservationStatus
  capabilities : List CapabilityBinding
  compatibility : Option CompatibilityProfile
  observedAt : Timestamp
  (probeComplete authoritativeSnapshot verifiedEmpty : Bool)
  failureCode : Option ProbeFailureCode
  normalized : NormalizedCapabilities capabilities
  honest : Honest status manifestDigest compatibility probeComplete authoritativeSnapshot verifiedEmpty failureCode

structure AccessScope where
  (tenantId principalId : Identifier)
  grantDigests : List Digest
  few : grantDigests.length ≤ 64
  ordered : (grantDigests.map (·.1)).Pairwise (· < ·)

inductive DriftCode where
  | noDrift | noObservation | probeFailed | probeUnreachable | emptySnapshotUnverified | verifiedEmpty
  | versionMismatch | manifestMismatch | capabilityMismatch | compatibilityMismatch | observationQuarantined
  deriving DecidableEq

def DriftCode.value : DriftCode → String
  | .noDrift => "no_drift"
  | .noObservation => "no_observation"
  | .probeFailed => "probe_failed"
  | .probeUnreachable => "probe_unreachable"
  | .emptySnapshotUnverified => "empty_snapshot_unverified"
  | .verifiedEmpty => "verified_empty"
  | .versionMismatch => "version_mismatch"
  | .manifestMismatch => "manifest_mismatch"
  | .capabilityMismatch => "capability_mismatch"
  | .compatibilityMismatch => "compatibility_mismatch"
  | .observationQuarantined => "observation_quarantined"

inductive DriftStatus where
  | clear | degraded | drifted | quarantined
  deriving DecidableEq

structure DriftRecord where
  serverId : Identifier
  status : DriftStatus
  codes : List DriftCode
  (quarantineRef observationRef : Option Identifier)

structure ConnectorLifecycle where
  serverId : Identifier
  desiredStatus : DesiredStatus
  /-- none where it is unknown -/
  observedStatus : Option ObservationStatus
  driftStatus : DriftStatus
  desiredRevision : ℕ
  (observationRef quarantineRef : Option Identifier)

structure ConnectorGraphProjection where
  (tenantId serverId connectorId versionId : Identifier)
  desiredStatus : DesiredStatus
  observedStatus : Option ObservationStatus
  driftStatus : DriftStatus
  capabilityCount : ℕ
  (setDigest manifestDigest : Digest)
  packageRef : Identifier
  driftCodes : List DriftCode
  (observationRef quarantineRef : Option Identifier)

structure ConnectorReconciliation where
  lifecycle : ConnectorLifecycle
  desired : DesiredConnectorState
  drift : DriftRecord
  projection : ConnectorGraphProjection
  observation : Option Observation

/-- All that a registration publishes; `bundle_is_consistent` is what the fields say. -/
structure ConnectorRegistration where
  identity : ConnectorIdentity
  server : ServerIdentity
  inventory : InventoryReference
  version : ConnectorVersion
  desired : DesiredConnectorState
  sameConnector : server.connector = identity
  sameVersion : version.connectorId = identity.connectorId ∧ inventory = version.inventory
  sameServer : server.serverId = desired.server.serverId
  targets : desired.versionId = version.versionId ∧ desired.inventoryRef = inventory.manifestRef.1

/-! The connector control plane, whose methods are made of several steps of a repository. -/
open Agents (Identifier)
open Interaction
open Prog (Fallible refuse found demand)
open Json (Document sorted orNull)

inductive ErrorKind where
  | repositoryUnavailable | repositoryContractError

structure ConnectorError where
  kind : ErrorKind
  text : String

inductive Call where
  | putConnector (identity : ConnectorIdentity)
  | putServer (server : ServerIdentity)
  | putInventory (inventory : InventoryReference)
  | putVersion (version : ConnectorVersion)
  | putDesired (desired : DesiredConnectorState)
  | appendObservation (observation : Observation)
  | getServer (scope : AccessScope) (serverId : Identifier)
  | getVersion (scope : AccessScope) (versionId : Identifier)
  | getDesired (scope : AccessScope) (serverId : Identifier)
  | getLatestObservation (scope : AccessScope) (serverId : Identifier)

@[reducible] def Call.Result : Call → Type
  | .putConnector _ | .putServer _ | .putInventory _ | .putVersion _ | .putDesired _ | .appendObservation _ => Unit
  | .getServer .. => Option ServerIdentity
  | .getVersion .. => Option ConnectorVersion
  | .getDesired .. => Option DesiredConnectorState
  | .getLatestObservation .. => Option Observation

abbrev Call.Answer : Call → Type := Fallible ConnectorError Call.Result
abbrev Store := Dict Identifier DesiredConnectorState

def Store.put (s : Store) (desired : DesiredConnectorState) : Store := Dict.set s desired.server.serverId desired

/-- A repository whose operations are atomic: a refused one has done nothing, `put_desired` replaces what is stored,
`get_desired` reads it where it is `visible` to the scope. -/
inductive Store.Serves (visible : AccessScope → DesiredConnectorState → Bool) : World Call Call.Answer Store
  | putConnector (s : Store) (identity : ConnectorIdentity) (r : Except ConnectorError Unit) :
      Serves visible s (.putConnector identity) r s
  | putServer (s : Store) (server : ServerIdentity) (r : Except ConnectorError Unit) :
      Serves visible s (.putServer server) r s
  | putInventory (s : Store) (inventory : InventoryReference) (r : Except ConnectorError Unit) :
      Serves visible s (.putInventory inventory) r s
  | putVersion (s : Store) (version : ConnectorVersion) (r : Except ConnectorError Unit) :
      Serves visible s (.putVersion version) r s
  | putDesired (s : Store) (desired : DesiredConnectorState) : Serves visible s (.putDesired desired) (.ok ()) (s.put desired)
  | refusedPut (s : Store) (desired : DesiredConnectorState) (x : ConnectorError) :
      Serves visible s (.putDesired desired) (.error x) s
  | appendObservation (s : Store) (observation : Observation) (r : Except ConnectorError Unit) :
      Serves visible s (.appendObservation observation) r s
  | getServer (s : Store) (scope : AccessScope) (serverId : Identifier) (r : Except ConnectorError (Option ServerIdentity)) :
      Serves visible s (.getServer scope serverId) r s
  | getVersion (s : Store) (scope : AccessScope) (versionId : Identifier)
      (r : Except ConnectorError (Option ConnectorVersion)) : Serves visible s (.getVersion scope versionId) r s
  | getDesired (s : Store) (scope : AccessScope) (serverId : Identifier) :
      Serves visible s (.getDesired scope serverId) (.ok ((s.get serverId).filter (visible scope))) s
  | refusedGet (s : Store) (scope : AccessScope) (serverId : Identifier) (x : ConnectorError) :
      Serves visible s (.getDesired scope serverId) (.error x) s
  | getLatestObservation (s : Store) (scope : AccessScope) (serverId : Identifier)
      (r : Except ConnectorError (Option Observation)) : Serves visible s (.getLatestObservation scope serverId) r s

abbrev Step (α : Type) := Prog Call Call.Answer ConnectorError α
abbrev ask (e : Call) : Step e.Result := demand e

def contract (text : String) : ConnectorError := ⟨.repositoryContractError,text⟩
def scopeMatches (scope : AccessScope) (server : ServerIdentity) : Step Unit :=
  refuse (server.tenantId ≠ scope.tenantId) (contract "repository returned a cross-tenant connector")

def statusOnlyDriftCodes (observation : Observation) : Option (List DriftCode) :=
  match observation.status with
  | .failed => some [.probeFailed]
  | .unreachable => some [.probeUnreachable]
  | .quarantined => some [.observationQuarantined]
  | .empty => some [if observation.verifiedEmpty then .verifiedEmpty else .emptySnapshotUnverified]
  | .ready => none

def versionDriftCodes (desired : DesiredConnectorState) (version : ConnectorVersion) (observation : Observation) :
    List DriftCode :=
  (if observation.versionId ≠ desired.versionId then [.versionMismatch] else []) ++
    (if observation.manifestDigest ≠ some version.manifestDigest then [.manifestMismatch] else []) ++
    (if capabilitySetDigest observation.capabilities ≠ version.setDigest then [.capabilityMismatch] else []) ++
    if observation.compatibility ≠ some version.compatibility then [.compatibilityMismatch] else []

def codesFor (desired : DesiredConnectorState) (version : ConnectorVersion) : Option Observation → List DriftCode
  | none => [.noObservation]
  | some observation =>
    match statusOnlyDriftCodes observation with
    | some codes => codes
    | none =>
      match versionDriftCodes desired version observation with
      | [] => [.noDrift]
      | codes => codes

def driftStatus (observation : Option Observation) (codes : List DriftCode) : DriftStatus :=
  if observation.any (·.status = .quarantined) then .quarantined
  else if codes = [.noDrift] then .clear
  else if codes ∈ [[.probeFailed],[.probeUnreachable],[.emptySnapshotUnverified],[.noObservation]] then .degraded
  else .drifted

def quarantineRef (serverId : Identifier) (observationRef : Option Identifier) (codes : List DriftCode) : Identifier :=
  ⟨String.ofList ("quarantine:".toList ++ Sha256.hexdigest ((Json.writeAscii (sorted [
      ("server_id",.string serverId),("observation_ref",orNull (fun ref => .string ref.1) observationRef),
      ("codes",.array (codes.map fun code => .string code.value))])).map Char.toNat)),
    Agents.isIdentifier_hexdigest (by decide) _⟩

def reconciliation (server : ServerIdentity) (desired : DesiredConnectorState) (version : ConnectorVersion)
    (observation : Option Observation) : ConnectorReconciliation :=
  let codes := codesFor desired version observation
  let status := driftStatus observation codes
  let observationRef := observation.map (·.observationRef)
  let quarantine := if status = .quarantined then some (quarantineRef server.serverId observationRef codes) else none
  { lifecycle := ⟨desired.server.serverId,desired.desiredStatus,observation.map (·.status),status,desired.revision,
      observationRef,quarantine⟩
    desired := desired
    drift := ⟨desired.server.serverId,status,codes,quarantine,observationRef⟩
    projection := ⟨server.tenantId,server.serverId,server.connector.connectorId,version.versionId,desired.desiredStatus,
      observation.map (·.status),status,version.capabilities.length,version.setDigest,version.manifestDigest,
      version.inventory.packageRef,codes,observationRef,quarantine⟩
    observation := observation }

def register (registration : ConnectorRegistration) : Step Unit := do
  ask (.putConnector registration.identity)
  ask (.putServer registration.server)
  ask (.putInventory registration.inventory)
  ask (.putVersion registration.version)
  ask (.putDesired registration.desired)

def setDesired (scope : AccessScope) (desired : DesiredConnectorState) : Step Unit := do
  scopeMatches scope desired.server
  let current ← ask (.getDesired scope desired.server.serverId)
  refuse (current.any fun current => desired.revision ≤ current.revision)
    (contract "desired connector revision is stale")
  let version ← ask (.getVersion scope desired.versionId)
  let version ← found version (contract "desired connector version is unavailable")
  refuse (version.connectorId ≠ desired.server.connector.connectorId)
    (contract "desired version belongs to another connector")
  refuse (version.manifestRef ≠ desired.inventoryRef) (contract "desired state is not bound to its inventory")
  ask (.putDesired desired)

def currentObservation (scope : AccessScope) (serverId : Identifier) : Option Observation → Step (Option Observation)
  | some observation => .ret (some observation)
  | none => ask (.getLatestObservation scope serverId)

def reconcile (scope : AccessScope) (serverId : Identifier) (observation : Option Observation) :
    Step ConnectorReconciliation := do
  let server ← ask (.getServer scope serverId)
  let desired ← ask (.getDesired scope serverId)
  let server ← found server (contract "connector control state is incomplete")
  let desired ← found desired (contract "connector control state is incomplete")
  scopeMatches scope server
  refuse (desired.server.serverId ≠ serverId) (contract "desired state targets another server")
  let current ← currentObservation scope serverId observation
  refuse (current.any fun current => current.serverId ≠ serverId)
    (contract "repository returned a cross-server observation")
  let version ← ask (.getVersion scope desired.versionId)
  let version ← found version (contract "desired connector version is unavailable")
  refuse (version.connectorId ≠ server.connector.connectorId) (contract "desired version belongs to another connector")
  return reconciliation server desired version current

def recordObservation (scope : AccessScope) (observation : Observation) : Step ConnectorReconciliation := do
  let server ← ask (.getServer scope observation.serverId)
  let server ← found server (contract "observation targets an unknown server")
  scopeMatches scope server
  ask (.appendObservation observation)
  reconcile scope observation.serverId (some observation)

/-- A call of the control plane. -/
inductive Job where
  | register (registration : ConnectorRegistration)
  | setDesired (scope : AccessScope) (desired : DesiredConnectorState)
  | recordObservation (scope : AccessScope) (observation : Observation)
  | reconcile (scope : AccessScope) (serverId : Identifier) (observation : Option Observation)

def Job.run : Job → Step (Option ConnectorReconciliation)
  | .register registration => (Connectors.register registration).bind fun _ => .ret none
  | .setDesired scope desired => (Connectors.setDesired scope desired).bind fun _ => .ret none
  | .recordObservation scope observation =>
    (Connectors.recordObservation scope observation).bind fun result => .ret (some result)
  | .reconcile scope serverId observation =>
    (Connectors.reconcile scope serverId observation).bind fun result => .ret (some result)

end Arbora.Connectors
