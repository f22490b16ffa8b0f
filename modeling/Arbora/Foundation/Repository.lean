import Arbora.Foundation.Models
import Arbora.Lib.Checks
import Arbora.Lib.Dict

/-! The in-memory repository of the foundation: a dictionary for each kind of record, reads within a scope,
immutable records and the swap of a release pointer. -/
namespace Arbora.Foundation
open Checks

inductive RefusalKind where
  | lifecycle | repository | conflict | validation
  deriving DecidableEq

/-- A raised error, with its text; `validation` is a refusal of the models themselves. -/
structure Refusal where
  kind : RefusalKind
  message : String

/-- The kinds of record that belong to a tenant, but for release pointers and activations. -/
inductive Kind where
  | principal | client | retentionPolicy | permission | role | membership | entitlement | quota | upstream | route
  | config | feature | circuitHistory | tombstone
  deriving DecidableEq

abbrev Kind.Record : Kind → Type
  | .principal => PrincipalIdentity
  | .client => ApiClientIdentity
  | .retentionPolicy => RetentionPolicy
  | .permission => Permission
  | .role => Role
  | .membership => Membership
  | .entitlement => Entitlement
  | .quota => QuotaContract
  | .upstream => GatewayUpstreamVersion
  | .route => GatewayRouteVersion
  | .config => GatewayConfigVersion
  | .feature => GatewayFeatureVersion
  | .circuitHistory => CircuitHistory
  | .tombstone => TombstoneRecord

abbrev Kind.Key : Kind → Type
  | .upstream | .route | .config | .feature => String × ℤ
  | .tombstone => TargetKind × String × ℤ
  | _ => String

instance : (k : Kind) → DecidableEq k.Record
  | .principal => inferInstanceAs (DecidableEq PrincipalIdentity)
  | .client => inferInstanceAs (DecidableEq ApiClientIdentity)
  | .retentionPolicy => inferInstanceAs (DecidableEq RetentionPolicy)
  | .permission => inferInstanceAs (DecidableEq Permission)
  | .role => inferInstanceAs (DecidableEq Role)
  | .membership => inferInstanceAs (DecidableEq Membership)
  | .entitlement => inferInstanceAs (DecidableEq Entitlement)
  | .quota => inferInstanceAs (DecidableEq QuotaContract)
  | .upstream => inferInstanceAs (DecidableEq GatewayUpstreamVersion)
  | .route => inferInstanceAs (DecidableEq GatewayRouteVersion)
  | .config => inferInstanceAs (DecidableEq GatewayConfigVersion)
  | .feature => inferInstanceAs (DecidableEq GatewayFeatureVersion)
  | .circuitHistory => inferInstanceAs (DecidableEq CircuitHistory)
  | .tombstone => inferInstanceAs (DecidableEq TombstoneRecord)

instance : (k : Kind) → DecidableEq k.Key
  | .upstream | .route | .config | .feature => inferInstanceAs (DecidableEq (String × ℤ))
  | .tombstone => inferInstanceAs (DecidableEq (TargetKind × String × ℤ))
  | .principal | .client | .retentionPolicy | .permission | .role | .membership | .entitlement | .quota
  | .circuitHistory => inferInstanceAs (DecidableEq String)

def Kind.keyOf : (k : Kind) → k.Record → k.Key
  | .principal, p => PrincipalIdentity.principalId p
  | .client, c => ApiClientIdentity.clientId c
  | .retentionPolicy, p => (RetentionPolicy.retentionPolicyId p).1
  | .permission, p => Permission.permissionId p
  | .role, r => Role.roleId r
  | .membership, m => Membership.membershipId m
  | .entitlement, e => Entitlement.entitlementId e
  | .quota, q => QuotaContract.quotaId q
  | .upstream, u => (GatewayUpstreamVersion.upstreamId u,(GatewayUpstreamVersion.version u).1)
  | .route, r => (GatewayRouteVersion.routeId r,(GatewayRouteVersion.version r).1)
  | .config, c => (GatewayConfigVersion.configId c,(GatewayConfigVersion.version c).1)
  | .feature, f => (GatewayFeatureVersion.featureId f,(GatewayFeatureVersion.version f).1)
  | .circuitHistory, c => (CircuitHistory.circuitId c).1
  | .tombstone, t => (TombstoneRecord.resourceKind t,(TombstoneRecord.resourceId t).1,(TombstoneRecord.resourceVersion t).1)

def Kind.ownerOf : (k : Kind) → k.Record → Identifier × Identifier
  | .principal, r => (PrincipalIdentity.organizationId r,PrincipalIdentity.tenantId r)
  | .client, r => (ApiClientIdentity.organizationId r,ApiClientIdentity.tenantId r)
  | .retentionPolicy, r => (RetentionPolicy.organizationId r,RetentionPolicy.tenantId r)
  | .permission, r => (Permission.organizationId r,Permission.tenantId r)
  | .role, r => (Role.organizationId r,Role.tenantId r)
  | .membership, r => (Membership.organizationId r,Membership.tenantId r)
  | .entitlement, r => (Entitlement.organizationId r,Entitlement.tenantId r)
  | .quota, r => (QuotaContract.organizationId r,QuotaContract.tenantId r)
  | .upstream, r => (GatewayUpstreamVersion.organizationId r,GatewayUpstreamVersion.tenantId r)
  | .route, r => (GatewayRouteVersion.organizationId r,GatewayRouteVersion.tenantId r)
  | .config, r => (GatewayConfigVersion.organizationId r,GatewayConfigVersion.tenantId r)
  | .feature, r => (GatewayFeatureVersion.organizationId r,GatewayFeatureVersion.tenantId r)
  | .circuitHistory, r => (CircuitHistory.organizationId r,CircuitHistory.tenantId r)
  | .tombstone, r => (TombstoneRecord.organizationId r,TombstoneRecord.tenantId r)

/-- `InMemoryFoundationRepository`, with one dictionary for each kind of record. -/
structure Repository where
  organizations : Dict String OrganizationIdentity
  tenants : Dict String TenantIdentity
  records : (k : Kind) → Dict k.Key k.Record
  releasePointers : Dict String ReleasePointer
  activationHistory : Dict String (List ActivationRecord)

def Repository.empty : Repository := ⟨∅,∅,fun _ => ∅,∅,∅⟩
def scopeRecord {α : Type} (owner : α → String × String) (scope : TenantScope) (record : Option α) : Option α :=
  record.filter fun r => owner r = (scope.organizationId.1,scope.tenantId.1)

/-- What the reads of a `FoundationRepository` answer within a scope. -/
structure ScopedReads where
  tenant : String → Option TenantIdentity
  get : (k : Kind) → k.Key → Option k.Record
  releasePointer : String → Option ReleasePointer
  activationHistory : String → List ActivationRecord

def TenantIdentity.owner (t : TenantIdentity) : String × String := (t.organizationId.1,t.tenantId)
def Kind.owner (k : Kind) (r : k.Record) : String × String := ((k.ownerOf r).1.1,(k.ownerOf r).2.1)
def ReleasePointer.owner (p : ReleasePointer) : String × String := (p.organizationId.1,p.tenantId.1)
def Repository.historyOf (s : Repository) (pointerId : String) : List ActivationRecord :=
  (s.activationHistory.get pointerId).getD []

def Repository.reads (s : Repository) (scope : TenantScope) : ScopedReads where
  tenant tenantId := scopeRecord TenantIdentity.owner scope (s.tenants.get tenantId)
  get k key := scopeRecord k.owner scope ((s.records k).get key)
  releasePointer pointerId := scopeRecord ReleasePointer.owner scope (s.releasePointers.get pointerId)
  activationHistory pointerId :=
    if (scopeRecord ReleasePointer.owner scope (s.releasePointers.get pointerId)).isSome then s.historyOf pointerId
    else []

def ScopedReads.hasActivationTarget (repository : ScopedReads) (pointerId : String) (targetVersion : ℤ) : Bool :=
  (repository.activationHistory pointerId).any fun event => event.targetVersion.1 = targetVersion

def retain {κ ν : Type} [DecidableEq κ] [DecidableEq ν] (mapping : Dict κ ν) (key : κ) (value : ν) :
    Except Refusal (Dict κ ν) := do
  refuse (∃ prior ∈ mapping.get key, prior ≠ value) ⟨.repository,"immutable foundation record mutation"⟩
  return mapping.set key value

def Repository.putOrganization (s : Repository) (record : OrganizationIdentity) : Except Refusal Repository := do
  let organizations ← retain s.organizations record.organizationId record
  return {s with organizations}

def Repository.putTenant (s : Repository) (record : TenantIdentity) : Except Refusal Repository := do
  let tenants ← retain s.tenants record.tenantId record
  return {s with tenants}

/-- `put_principal` to `put_tombstone` -/
def Repository.put (s : Repository) (k : Kind) (record : k.Record) : Except Refusal Repository := do
  let mapping ← retain (s.records k) (k.keyOf record) record
  return {s with records := Function.update s.records k mapping}

def assertCasIdentity (pointer : ReleasePointer) (mutation : ReleaseMutation) (activation : ActivationRecord) :
    Except Refusal Unit :=
  refuse (pointer.pointerId ≠ mutation.pointerId ∨ activation.pointerId ≠ pointer.pointerId)
    ⟨.repository,"release CAS record identity mismatch"⟩

def assertCasScope (scope : TenantScope) (pointer : ReleasePointer) (mutation : ReleaseMutation) :
    Except Refusal Unit :=
  refuse (pointer.organizationId ≠ scope.organizationId ∨ pointer.tenantId ≠ scope.tenantId ∨
      mutation.organizationId ≠ scope.organizationId ∨ mutation.tenantId ≠ scope.tenantId)
    ⟨.repository,"release CAS scope mismatch"⟩

def assertCasTarget (mutation : ReleaseMutation) (pointer : ReleasePointer) (activation : ActivationRecord) :
    Except Refusal Unit :=
  refuse (mutation.operation ≠ activation.operation ∨ mutation.targetKind ≠ pointer.targetKind ∨
      mutation.targetId ≠ pointer.targetId ∨ mutation.targetVersion ≠ pointer.targetVersion ∨
      mutation.targetDigest ≠ pointer.targetDigest ∨ activation.targetDigest ≠ pointer.targetDigest ∨
      activation.releaseRevision ≠ pointer.revision)
    ⟨.repository,"release CAS target mismatch"⟩

def revisionOf (current : Option ReleasePointer) : ℕ := (current.map fun p => p.revision.1).getD 0
def digestOf (current : Option ReleasePointer) : Option String := current.map fun p => p.pointerDigest.1

/-- The pointer is looked up without the scope. -/
def Repository.assertCasRevision (s : Repository) (mutation : ReleaseMutation) (pointer : ReleasePointer) :
    Except Refusal Unit := do
  let current := s.releasePointers.get pointer.pointerId
  refuse (mutation.expectedRevision.1 ≠ revisionOf current ∨
      (mutation.expectedPointerDigest.map fun d => d.1) ≠ digestOf current)
    ⟨.conflict,"release pointer CAS conflict"⟩
  refuse (pointer.revision.1 ≠ revisionOf current + 1) ⟨.repository,"release pointer revision is not monotonic"⟩

def Repository.casPriorEvent (s : Repository) (pointer : ReleasePointer) (activation : ActivationRecord) :
    Except Refusal (Option ActivationRecord) := do
  let priorEvent := (s.historyOf pointer.pointerId).find? fun event => event.activationId = activation.activationId
  refuse (∃ event ∈ priorEvent, event ≠ activation) ⟨.repository,"activation evidence mutation"⟩
  return priorEvent

def Repository.compareAndSwapRelease (s : Repository) (scope : TenantScope) (mutation : ReleaseMutation)
    (pointer : ReleasePointer) (activation : ActivationRecord) : Except Refusal (ReleasePointer × Repository) := do
  assertCasIdentity pointer mutation activation
  assertCasScope scope pointer mutation
  assertCasTarget mutation pointer activation
  s.assertCasRevision mutation pointer
  let priorEvent ← s.casPriorEvent pointer activation
  let releasePointers := s.releasePointers.set pointer.pointerId pointer
  let activationHistory :=
    if priorEvent = none then
      s.activationHistory.set pointer.pointerId (s.historyOf pointer.pointerId ++ [activation])
    else s.activationHistory
  return (pointer,{s with releasePointers, activationHistory})

end Arbora.Foundation
