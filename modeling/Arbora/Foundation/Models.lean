import Arbora.PolicyPlane.Models
import Mathlib.Algebra.Group.Int.Defs

/-! Identities, gateway versions and release records of the control plane's foundation. -/
namespace Arbora.Foundation
open Arbora.PolicyPlane (isLetter isDigit Digest canonicalDigest)
open Json (Document natural sorted orNull)

def isIdentifierChar (c : Char) : Bool :=
  isLetter c || isDigit c || c == '.' || c == '_' || c == ':' || c == '/' || c == '@' || c == '+' || c == '-'

/-- The pattern that `Identifier` and `OpaqueRef` share, with a least length. -/
def isIdentifierText (least : ℕ) (text : String) : Bool :=
  decide (least ≤ text.length) && decide (text.length ≤ 192) && text.toList.all isIdentifierChar &&
    text.toList.head?.any fun c => isLetter c || isDigit c

def isIdentifier (text : String) : Bool := isIdentifierText 1 text

def isNameText (text : String) : Bool :=
  decide (text.length ≤ 96) && (text.toList.head?.any fun c => ('a' ≤ c && c ≤ 'z') || isDigit c) &&
    text.toList.all fun c => ('a' ≤ c && c ≤ 'z') || isDigit c || c == '.' || c == '_' || c == '-'

def forbiddenStarts : List String := ["http:","https:","file:","data:","body:","result:","base64:"]
def inlineMarkers : List String := ["password=","authorization:","bearer ","-----begin","\x7b\"","[\x7b"]

/-- The text without its case; it is in ASCII. -/
def lowered (text : String) : List Char := text.toList.map Char.toLower

def isOpaqueRef (text : String) : Bool :=
  isIdentifierText 3 text && !(forbiddenStarts.any fun start => start.toList.isPrefixOf (lowered text)) &&
    !(inlineMarkers.any fun marker => (lowered text).tails.any (marker.toList.isPrefixOf ·)) &&
    text.toList.contains ':'

def isKeyRef (text : String) : Bool :=
  isOpaqueRef text && ["keyref:","secretref:"].any fun start => start.toList.isPrefixOf (lowered text)
def fits (shape text : List Char) : Bool :=
  decide (shape.length = text.length) && (shape.zip text).all fun (s,c) => if s = '0' then isDigit c else s == c
def isZone (text : List Char) : Bool :=
  text == ['Z'] || text == ['z'] || fits "+00:00".toList text || fits "-00:00".toList text

def isFraction : List Char → Bool
  | '.' :: rest => !(rest.takeWhile isDigit).isEmpty && isZone (rest.dropWhile isDigit)
  | _ => false

def isTimestamp (text : String) : Bool :=
  decide (20 ≤ text.length) && decide (text.length ≤ 64) &&
    fits "0000-00-00T00:00:00".toList (text.toList.take 19) &&
    (isZone (text.toList.drop 19) || isFraction (text.toList.drop 19))

/-- `PathText` that is absolute and stays below its root. -/
def isPath (text : String) : Bool :=
  decide (text.length ≤ 512) && (text.toList.all fun c => c != '\x00' && c != '\r' && c != '\n') &&
    text.toList.head? == some '/' && !(text.toList.splitOn '/').contains ['.','.']

abbrev Identifier := {text : String // isIdentifier text = true}
abbrev NameText := {text : String // isNameText text = true}
abbrev OpaqueRef := {text : String // isOpaqueRef text = true}
abbrev KeyRef := {text : String // isKeyRef text = true}
abbrev Timestamp := {text : String // isTimestamp text = true}
abbrev PathText := {text : String // isPath text = true}
abbrev Positive := {n : ℤ // 1 ≤ n}

example : isTimestamp "2026-07-14T12:00:00Z" ∧ isTimestamp "2026-07-14T12:00:00.25+00:00" ∧
    ¬ isTimestamp "2026-07-14T12:00:00" ∧ isPath "/api/v1" ∧ ¬ isPath "/api/../v1" := by decide +kernel

def positive (n : Positive) : Document := natural n.1.toNat

/-- The hash of some parts with separators between; they are in ASCII. -/
def hashOf (parts : List String) : List Char :=
  Sha256.hexdigest ((List.intercalate ['\x1f'] (parts.map String.toList)).map Char.toNat)

@[irreducible] def derivedId (label : String) (parts : List String) : String := String.ofList (label.toList ++ hashOf parts)

theorem toList_derivedId (label : String) (parts : List String) :
    (derivedId label parts).toList = label.toList ++ hashOf parts := by
  unfold derivedId
  exact String.toList_ofList

theorem identifierChar_hash (parts : List String) : (hashOf parts).all isIdentifierChar = true := by
  rw [List.all_eq_true]
  intro c hc
  have hhex := List.all_eq_true.mp (Sha256.hexadecimal_hexdigest _) c hc
  simp only [Sha256.hexadecimal,Bool.or_eq_true,Bool.and_eq_true,decide_eq_true_eq] at hhex
  rcases hhex with ⟨hlow,hhigh⟩ | ⟨hlow,hhigh⟩
  · simp [isIdentifierChar,isDigit,hlow,hhigh]
  · have hz : c ≤ 'z' := hhigh.trans (by decide)
    simp [isIdentifierChar,isLetter,hlow,hz]

theorem isIdentifier_derivedId {label : String} {parts : List String}
    (hlabel : label.toList.all isIdentifierChar = true) (hlength : label.length ≤ 128)
    (hhead : (label.toList.head?.any fun c => isLetter c || isDigit c) = true) :
    isIdentifier (derivedId label parts) = true := by
  have hsize : (derivedId label parts).length = label.length + 64 := by
    rw [← String.length_toList,toList_derivedId,List.length_append,String.length_toList]
    exact congrArg _ (Sha256.length_hexdigest _)
  have hfirst : (label.toList ++ hashOf parts).head? = label.toList.head? := by
    cases hcases : label.toList with
    | nil =>
      rw [hcases] at hhead
      cases hhead
    | cons c rest => rfl
  unfold isIdentifier isIdentifierText
  rw [toList_derivedId,hsize,List.all_append,hlabel,identifierChar_hash,hfirst,hhead]
  simp
  omega

inductive IdentityKind where
  | user | service | agent
  deriving DecidableEq

inductive RecordStatus where
  | active | retired
  deriving DecidableEq

def RecordStatus.value : RecordStatus → String
  | .active => "active" | .retired => "retired"

inductive TargetKind where
  | upstream | route | config | feature
  deriving DecidableEq

def TargetKind.value : TargetKind → String
  | .upstream => "upstream" | .route => "route" | .config => "config" | .feature => "feature"

inductive ReleaseOperation where
  | activate | rollback
  deriving DecidableEq

def ReleaseOperation.value : ReleaseOperation → String
  | .activate => "activate" | .rollback => "rollback"

inductive SubjectKind where
  | tenant | principal | client
  deriving DecidableEq

def SubjectKind.value : SubjectKind → String
  | .tenant => "tenant" | .principal => "principal" | .client => "client"

inductive CircuitState where
  | closed | opened | halfOpen
  deriving DecidableEq

def organizationIdFor (organizationSlug : String) : String := derivedId "org:" [organizationSlug]
def tenantIdFor (organizationId tenantSlug : String) : String := derivedId "tenant:" [organizationId,tenantSlug]
def principalIdFor (tenantId subjectRef : String) : String := derivedId "principal:" [tenantId,subjectRef]
def clientIdFor (tenantId clientName : String) : String := derivedId "client:" [tenantId,clientName]

def permissionIdFor (tenantId action resourceRef : String) : String :=
  derivedId "permission:" [tenantId,action,resourceRef]
def roleIdFor (tenantId roleName : String) : String := derivedId "role:" [tenantId,roleName]
def membershipIdFor (tenantId principalId roleId : String) : String :=
  derivedId "membership:" [tenantId,principalId,roleId]
def entitlementIdFor (tenantId : String) (subjectKind : SubjectKind) (subjectId name : String) : String :=
  derivedId "entitlement:" [tenantId,subjectKind.value,subjectId,name]
def quotaIdFor (tenantId : String) (subjectKind : SubjectKind) (subjectId : String) : String :=
  derivedId "quota:" [tenantId,subjectKind.value,subjectId]

def upstreamIdFor (tenantId upstreamName : String) : String := derivedId "upstream:" [tenantId,upstreamName]
def routeIdFor (tenantId routeName : String) : String := derivedId "route:" [tenantId,routeName]
def configIdFor (tenantId configName : String) : String := derivedId "config:" [tenantId,configName]
def featureIdFor (tenantId featureName : String) : String := derivedId "feature:" [tenantId,featureName]

def releasePointerId (tenantId : String) (targetKind : TargetKind) (targetId : String) : String :=
  derivedId "release:" [tenantId,targetKind.value,targetId]
def activationIdFor (pointerId : String) (releaseRevision : ℕ) (activationDigest : String) : String :=
  derivedId "activation:" [pointerId,toString releaseRevision,activationDigest]

structure LifecycleState where
  status : RecordStatus
  retentionPolicyRef : OpaqueRef
  deriving DecidableEq

def LifecycleState.document (l : LifecycleState) : Document := sorted [
  ("lifecycle_version",.string "lifecycle.v1"),("status",.string l.status.value),
  ("retention_policy_ref",.string l.retentionPolicyRef)]

structure TenantScope where
  (organizationId tenantId principalId : Identifier)
  clientId : Option Identifier

structure OrganizationIdentity where
  organizationSlug : NameText
  revision : Positive
  lifecycle : LifecycleState
  deriving DecidableEq

def OrganizationIdentity.organizationId (o : OrganizationIdentity) : String := organizationIdFor o.organizationSlug

structure TenantIdentity where
  organizationId : Identifier
  tenantSlug : NameText
  revision : Positive
  lifecycle : LifecycleState
  deriving DecidableEq

def TenantIdentity.tenantId (t : TenantIdentity) : String := tenantIdFor t.organizationId t.tenantSlug

structure PrincipalIdentity where
  (organizationId tenantId : Identifier)
  principalKind : IdentityKind
  subjectRef : OpaqueRef
  revision : Positive
  lifecycle : LifecycleState
  deriving DecidableEq

def PrincipalIdentity.principalId (p : PrincipalIdentity) : String := principalIdFor p.tenantId p.subjectRef

structure ApiClientIdentity where
  (organizationId tenantId principalId : Identifier)
  clientName : NameText
  keyRef : KeyRef
  revision : Positive
  lifecycle : LifecycleState
  deriving DecidableEq

def ApiClientIdentity.clientId (c : ApiClientIdentity) : String := clientIdFor c.tenantId c.clientName

structure RetentionPolicy where
  (retentionPolicyId organizationId tenantId : Identifier)
  retentionDays : {n : ℤ // 1 ≤ n ∧ n ≤ 36500}
  legalHold : Bool
  revision : Positive
  deriving DecidableEq

structure Permission where
  (organizationId tenantId : Identifier)
  action : NameText
  resourceRef : OpaqueRef
  lifecycle : LifecycleState
  deriving DecidableEq

def Permission.permissionId (p : Permission) : String := permissionIdFor p.tenantId p.action p.resourceRef

structure Role where
  (organizationId tenantId : Identifier)
  roleName : NameText
  permissionIds : {ids : List Identifier // ids.length ≤ 128 ∧ ids.Pairwise (·.1 < ·.1)}
  lifecycle : LifecycleState
  deriving DecidableEq

def Role.roleId (r : Role) : String := roleIdFor r.tenantId r.roleName

structure Membership where
  (organizationId tenantId principalId roleId : Identifier)
  lifecycle : LifecycleState
  deriving DecidableEq

def Membership.membershipId (m : Membership) : String := membershipIdFor m.tenantId m.principalId m.roleId

structure Entitlement where
  (organizationId tenantId : Identifier)
  subjectKind : SubjectKind
  subjectId : Identifier
  entitlementName : NameText
  valueRef : OpaqueRef
  lifecycle : LifecycleState
  deriving DecidableEq

def Entitlement.entitlementId (e : Entitlement) : String :=
  entitlementIdFor e.tenantId e.subjectKind e.subjectId e.entitlementName

structure QuotaDimension where
  dimensionName : NameText
  limitValue : {n : ℤ // 1 ≤ n ∧ n ≤ 10 ^ 12}
  windowSeconds : {n : ℤ // 1 ≤ n ∧ n ≤ 31536000}
  deriving DecidableEq

structure QuotaContract where
  (organizationId tenantId : Identifier)
  subjectKind : SubjectKind
  subjectId : Identifier
  dimensions : {ds : List QuotaDimension //
    1 ≤ ds.length ∧ ds.length ≤ 128 ∧ ds.Pairwise (·.dimensionName.1 < ·.dimensionName.1)}
  lifecycle : LifecycleState
  deriving DecidableEq

def QuotaContract.quotaId (q : QuotaContract) : String := quotaIdFor q.tenantId q.subjectKind q.subjectId

structure GatewayUpstreamVersion where
  (organizationId tenantId : Identifier)
  upstreamName : NameText
  version : Positive
  endpointRef : OpaqueRef
  tlsKeyRef : Option KeyRef
  caRef : Option OpaqueRef
  lifecycle : LifecycleState
  deriving DecidableEq

def GatewayUpstreamVersion.upstreamId (u : GatewayUpstreamVersion) : String := upstreamIdFor u.tenantId u.upstreamName

def GatewayUpstreamVersion.recordDigest (u : GatewayUpstreamVersion) : Digest := canonicalDigest <| sorted [
  ("record_version",.string "gateway-upstream.v1"),("upstream_id",.string u.upstreamId),
  ("organization_id",.string u.organizationId),("tenant_id",.string u.tenantId),
  ("upstream_name",.string u.upstreamName),("version",positive u.version),("endpoint_ref",.string u.endpointRef),
  ("tls_key_ref",orNull (fun r => .string r.1) u.tlsKeyRef),("ca_ref",orNull (fun r => .string r.1) u.caRef),
  ("lifecycle",u.lifecycle.document)]

structure GatewayRouteVersion where
  (organizationId tenantId : Identifier)
  routeName : NameText
  version : Positive
  pathTemplate : PathText
  upstreamId : Identifier
  upstreamVersion : Positive
  authPolicyRef : OpaqueRef
  lifecycle : LifecycleState
  deriving DecidableEq

def GatewayRouteVersion.routeId (r : GatewayRouteVersion) : String := routeIdFor r.tenantId r.routeName

def GatewayRouteVersion.recordDigest (r : GatewayRouteVersion) : Digest := canonicalDigest <| sorted [
  ("record_version",.string "gateway-route.v1"),("route_id",.string r.routeId),
  ("organization_id",.string r.organizationId),("tenant_id",.string r.tenantId),("route_name",.string r.routeName),
  ("version",positive r.version),("path_template",.string r.pathTemplate),("upstream_id",.string r.upstreamId),
  ("upstream_version",positive r.upstreamVersion),("auth_policy_ref",.string r.authPolicyRef),
  ("lifecycle",r.lifecycle.document)]

structure GatewayVersionRef where
  (organizationId tenantId : Identifier)
  targetKind : TargetKind
  targetId : Identifier
  targetVersion : Positive
  targetDigest : Digest
  deriving DecidableEq

def GatewayVersionRef.members (r : GatewayVersionRef) : List (String × Document) := [
  ("ref_version",.string "gateway-version-ref.v1"),("organization_id",.string r.organizationId),
  ("tenant_id",.string r.tenantId),("target_kind",.string r.targetKind.value),("target_id",.string r.targetId),
  ("target_version",positive r.targetVersion),("target_digest",.string r.targetDigest)]

def GatewayVersionRef.refDigest (r : GatewayVersionRef) : Digest := canonicalDigest (sorted r.members)

/-- Inside another record a reference is written with its digest. -/
def GatewayVersionRef.document (r : GatewayVersionRef) : Document :=
  sorted (("ref_digest",.string r.refDigest) :: r.members)

/-- The order of the triples that `config_is_stable_and_normalized` compares. -/
def GatewayVersionRef.Before (r q : GatewayVersionRef) : Prop :=
  r.targetKind.value < q.targetKind.value ∨ r.targetKind = q.targetKind ∧
    (r.targetId.1 < q.targetId.1 ∨ r.targetId = q.targetId ∧ r.targetVersion.1 < q.targetVersion.1)

instance (r q : GatewayVersionRef) : Decidable (r.Before q) :=
  inferInstanceAs (Decidable (_ ∨ _ ∧ (_ ∨ _ ∧ _)))

structure GatewayConfigVersion where
  (organizationId tenantId : Identifier)
  configName : NameText
  version : Positive
  componentRefs : {refs : List GatewayVersionRef // 1 ≤ refs.length ∧ refs.length ≤ 128 ∧ refs.Pairwise (·.Before ·)}
  lifecycle : LifecycleState
  deriving DecidableEq

def GatewayConfigVersion.configId (c : GatewayConfigVersion) : String := configIdFor c.tenantId c.configName

def GatewayConfigVersion.recordDigest (c : GatewayConfigVersion) : Digest := canonicalDigest <| sorted [
  ("record_version",.string "gateway-config.v1"),("config_id",.string c.configId),
  ("organization_id",.string c.organizationId),("tenant_id",.string c.tenantId),
  ("config_name",.string c.configName),("version",positive c.version),
  ("component_refs",.array (c.componentRefs.1.map (·.document))),("lifecycle",c.lifecycle.document)]

structure GatewayFeatureVersion where
  (organizationId tenantId : Identifier)
  featureName : NameText
  version : Positive
  enabled : Bool
  configRef : Option {r : GatewayVersionRef // r.targetKind = .config}
  lifecycle : LifecycleState
  deriving DecidableEq

def GatewayFeatureVersion.featureId (f : GatewayFeatureVersion) : String := featureIdFor f.tenantId f.featureName

def GatewayFeatureVersion.recordDigest (f : GatewayFeatureVersion) : Digest := canonicalDigest <| sorted [
  ("record_version",.string "gateway-feature.v1"),("feature_id",.string f.featureId),
  ("organization_id",.string f.organizationId),("tenant_id",.string f.tenantId),
  ("feature_name",.string f.featureName),("version",positive f.version),("enabled",.bool f.enabled),
  ("config_ref",orNull (fun r => r.1.document) f.configRef),("lifecycle",f.lifecycle.document)]

/-- A version of any of the four kinds that can be released. -/
inductive GatewayVersion where
  | upstream (u : GatewayUpstreamVersion)
  | route (r : GatewayRouteVersion)
  | config (c : GatewayConfigVersion)
  | feature (f : GatewayFeatureVersion)

def GatewayVersion.organizationId : GatewayVersion → Identifier
  | .upstream u => u.organizationId | .route r => r.organizationId
  | .config c => c.organizationId | .feature f => f.organizationId

def GatewayVersion.tenantId : GatewayVersion → Identifier
  | .upstream u => u.tenantId | .route r => r.tenantId | .config c => c.tenantId | .feature f => f.tenantId
def GatewayVersion.lifecycle : GatewayVersion → LifecycleState
  | .upstream u => u.lifecycle | .route r => r.lifecycle | .config c => c.lifecycle | .feature f => f.lifecycle

def GatewayVersion.recordDigest : GatewayVersion → Digest
  | .upstream u => u.recordDigest | .route r => r.recordDigest
  | .config c => c.recordDigest | .feature f => f.recordDigest

structure CircuitHistory where
  (circuitId organizationId tenantId : Identifier)
  state : CircuitState
  historyRefs : {refs : List OpaqueRef // refs.length ≤ 32 ∧ refs.Pairwise (·.1 < ·.1)}
  transitionCount : {n : ℤ // 0 ≤ n ∧ n ≤ 10 ^ 9}
  observedAt : Timestamp
  deriving DecidableEq

structure TombstoneRecord where
  (organizationId tenantId : Identifier)
  resourceKind : TargetKind
  resourceId : Identifier
  resourceVersion : Positive
  (retentionPolicyRef reasonRef : OpaqueRef)
  (tombstonedAt purgeAfter : Timestamp)
  deriving DecidableEq

structure ReleasePointer where
  (organizationId tenantId : Identifier)
  targetKind : TargetKind
  targetId : Identifier
  targetVersion : Positive
  targetDigest : Digest
  revision : {n : ℕ // 1 ≤ n}
  updatedByPrincipalId : Identifier
  deriving DecidableEq

def ReleasePointer.pointerId (p : ReleasePointer) : String := releasePointerId p.tenantId p.targetKind p.targetId

def ReleasePointer.pointerDigest (p : ReleasePointer) : Digest := canonicalDigest <| sorted [
  ("pointer_version",.string "release-pointer.v1"),("pointer_id",.string p.pointerId),
  ("organization_id",.string p.organizationId),("tenant_id",.string p.tenantId),
  ("target_kind",.string p.targetKind.value),("target_id",.string p.targetId),
  ("target_version",positive p.targetVersion),("target_digest",.string p.targetDigest),
  ("revision",natural p.revision),("updated_by_principal_id",.string p.updatedByPrincipalId)]

structure ActivationRecord where
  pointerId : String
  (organizationId tenantId : Identifier)
  operation : ReleaseOperation
  targetKind : TargetKind
  targetId : Identifier
  targetVersion : Positive
  targetDigest : Digest
  previousTargetVersion : Option Positive
  releaseRevision : {n : ℕ // 1 ≤ n}
  actorPrincipalId : Identifier
  changeRef : OpaqueRef
  activatedAt : Timestamp
  rollsBack : operation = .rollback → previousTargetVersion ≠ none
  deriving DecidableEq

def ActivationRecord.activationDigest (a : ActivationRecord) : Digest := canonicalDigest <| sorted [
  ("activation_version",.string "activation-record.v1"),("pointer_id",.string a.pointerId),
  ("organization_id",.string a.organizationId),("tenant_id",.string a.tenantId),
  ("operation",.string a.operation.value),("target_kind",.string a.targetKind.value),
  ("target_id",.string a.targetId),("target_version",positive a.targetVersion),
  ("target_digest",.string a.targetDigest),("previous_target_version",orNull positive a.previousTargetVersion),
  ("release_revision",natural a.releaseRevision),("actor_principal_id",.string a.actorPrincipalId),
  ("change_ref",.string a.changeRef),("activated_at",.string a.activatedAt)]

def ActivationRecord.activationId (a : ActivationRecord) : String :=
  activationIdFor a.pointerId a.releaseRevision a.activationDigest

structure ReleaseMutation where
  pointerId : String
  (organizationId tenantId : Identifier)
  expectedRevision : {n : ℤ // 0 ≤ n}
  expectedPointerDigest : Option Digest
  operation : ReleaseOperation
  targetKind : TargetKind
  targetId : Identifier
  targetVersion : Positive
  targetDigest : Digest
  actorPrincipalId : Identifier
  changeRef : OpaqueRef
  bare : expectedRevision.1 = 0 → expectedPointerDigest = none

end Arbora.Foundation
