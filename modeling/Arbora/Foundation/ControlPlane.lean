import Arbora.Foundation.Repository
import Arbora.Lib.Machine

/-! The control plane over the repository: registrations gated by scope and lifecycle, and the activation of releases.
-/
namespace Arbora.Foundation
open Arbora.PolicyPlane (Digest)
open Checks

def unavailable (message : String) : Refusal := ⟨.lifecycle,message⟩

def assertScopePrincipal (repository : ScopedReads) (scope : TenantScope) : Except Refusal Unit := do
  let principal ← found (repository.get .principal scope.principalId.1) (unavailable "scope_principal_unavailable")
  refuse (principal.lifecycle.status ≠ .active) (unavailable "scope_principal_not_active")
  refuse (∃ clientId ∈ scope.clientId, ∀ client ∈ repository.get .client clientId.1,
      client.principalId ≠ scope.principalId)
    (unavailable "scope_client_mismatch")

def requireTenantScope (repository : ScopedReads) (scope : TenantScope) (organizationId tenantId : Identifier)
    (requirePrincipal : Bool) : Except Refusal Unit := do
  refuse (scope.organizationId ≠ organizationId ∨ scope.tenantId ≠ tenantId) (unavailable "cross_tenant_scope")
  let tenant ← found (repository.tenant tenantId.1) (unavailable "tenant_unavailable")
  refuse (tenant.lifecycle.status ≠ .active) (unavailable "tenant_not_active")
  if requirePrincipal = true then assertScopePrincipal repository scope else return ()

def requireSubject (repository : ScopedReads) (scope : TenantScope) (subjectKind : SubjectKind)
    (subjectId : Identifier) : Except Refusal Unit :=
  match subjectKind with
  | .tenant => refuse (subjectId ≠ scope.tenantId) (unavailable "cross_tenant_subject")
  | .principal => refuse (repository.get .principal subjectId.1 = none) (unavailable "subject_scope_or_missing")
  | .client => refuse (repository.get .client subjectId.1 = none) (unavailable "subject_scope_or_missing")

def lookupVersion (repository : ScopedReads) (targetKind : TargetKind) (targetId : String) (targetVersion : ℤ) :
    Option GatewayVersion :=
  match targetKind with
  | .upstream => (repository.get .upstream (targetId,targetVersion)).map .upstream
  | .route => (repository.get .route (targetId,targetVersion)).map .route
  | .config => (repository.get .config (targetId,targetVersion)).map .config
  | .feature => (repository.get .feature (targetId,targetVersion)).map .feature

def getVersion (repository : ScopedReads) (scope : TenantScope) (reference : GatewayVersionRef) :
    Option GatewayVersion :=
  if reference.organizationId ≠ scope.organizationId ∨ reference.tenantId ≠ scope.tenantId then none
  else (lookupVersion repository reference.targetKind reference.targetId.1 reference.targetVersion.1).filter
    fun target => target.recordDigest = reference.targetDigest

def isActive (version : Option GatewayVersion) : Bool := version.any fun v => v.lifecycle.status = .active
def registerOrganization (record : OrganizationIdentity) (s : Repository) : Except Refusal Repository :=
  s.putOrganization record

def registerTenant (record : TenantIdentity) (s : Repository) : Except Refusal Repository := do
  let organization ← found (s.organizations.get record.organizationId.1) (unavailable "organization_unavailable")
  refuse (organization.lifecycle.status ≠ .active) (unavailable "organization_not_active")
  s.putTenant record

def gated (k : Kind) (requirePrincipal : Bool) (checks : ScopedReads → Except Refusal Unit) (scope : TenantScope)
    (record : k.Record) (s : Repository) : Except Refusal Repository := do
  requireTenantScope (s.reads scope) scope (k.ownerOf record).1 (k.ownerOf record).2 requirePrincipal
  checks (s.reads scope)
  s.put k record

def registerPrincipal (scope : TenantScope) (record : PrincipalIdentity) : Repository → Except Refusal Repository :=
  gated .principal false (fun _ => return ()) scope record

def clientChecks (scope : TenantScope) (record : ApiClientIdentity) (repository : ScopedReads) :
    Except Refusal Unit := do
  refuse (record.principalId ≠ scope.principalId) (unavailable "client_principal_scope_mismatch")
  let principal ← found (repository.get .principal record.principalId.1) (unavailable "client_principal_unavailable")
  refuse (principal.lifecycle.status ≠ .active) (unavailable "client_principal_not_active")

def registerClient (scope : TenantScope) (record : ApiClientIdentity) : Repository → Except Refusal Repository :=
  gated .client true (clientChecks scope record) scope record

def registerRetentionPolicy (scope : TenantScope) (record : RetentionPolicy) :
    Repository → Except Refusal Repository :=
  gated .retentionPolicy true (fun _ => return ()) scope record

def registerPermission (scope : TenantScope) (record : Permission) : Repository → Except Refusal Repository :=
  gated .permission true (fun _ => return ()) scope record

def registerRole (scope : TenantScope) (record : Role) : Repository → Except Refusal Repository :=
  gated .role true (fun repository =>
    refuse (∃ id ∈ record.permissionIds.1, repository.get .permission id.1 = none)
      (unavailable "role_permission_scope_or_missing")) scope record

def membershipChecks (record : Membership) (repository : ScopedReads) : Except Refusal Unit := do
  let missing := unavailable "membership_scope_or_reference_missing"
  let principal ← found (repository.get .principal record.principalId.1) missing
  let role ← found (repository.get .role record.roleId.1) missing
  refuse (principal.lifecycle.status ≠ .active ∨ role.lifecycle.status ≠ .active)
    (unavailable "membership_reference_not_active")

def registerMembership (scope : TenantScope) (record : Membership) : Repository → Except Refusal Repository :=
  gated .membership true (membershipChecks record) scope record

def registerEntitlement (scope : TenantScope) (record : Entitlement) : Repository → Except Refusal Repository :=
  gated .entitlement true (fun repository => requireSubject repository scope record.subjectKind record.subjectId)
    scope record

def registerQuota (scope : TenantScope) (record : QuotaContract) : Repository → Except Refusal Repository :=
  gated .quota true (fun repository => requireSubject repository scope record.subjectKind record.subjectId)
    scope record

def registerUpstream (scope : TenantScope) (record : GatewayUpstreamVersion) :
    Repository → Except Refusal Repository :=
  gated .upstream true (fun _ => return ()) scope record

def registerRoute (scope : TenantScope) (record : GatewayRouteVersion) : Repository → Except Refusal Repository :=
  gated .route true (fun repository =>
    refuse (∀ upstream ∈ repository.get .upstream (record.upstreamId.1,record.upstreamVersion.1),
        upstream.lifecycle.status ≠ .active)
      (unavailable "route_upstream_scope_or_version_missing")) scope record

def componentCheck (repository : ScopedReads) (scope : TenantScope) (component : GatewayVersionRef) :
    Except Refusal Unit := do
  refuse (component.targetKind ≠ .route ∧ component.targetKind ≠ .upstream)
    (unavailable "config_component_kind_not_allowed")
  refuse (isActive (getVersion repository scope component) = false)
    (unavailable "config_component_scope_or_version_missing")

def registerConfig (scope : TenantScope) (record : GatewayConfigVersion) : Repository → Except Refusal Repository :=
  gated .config true (fun repository => record.componentRefs.1.forM (componentCheck repository scope)) scope record

def registerFeature (scope : TenantScope) (record : GatewayFeatureVersion) : Repository → Except Refusal Repository :=
  gated .feature true (fun repository =>
    refuse (∃ reference ∈ record.configRef, isActive (getVersion repository scope reference.1) = false)
      (unavailable "feature_config_scope_or_version_missing")) scope record

def registerCircuitHistory (scope : TenantScope) (record : CircuitHistory) : Repository → Except Refusal Repository :=
  gated .circuitHistory true (fun _ => return ()) scope record

def tombstoneChecks (scope : TenantScope) (record : TombstoneRecord) (repository : ScopedReads) :
    Except Refusal Unit := do
  refuse (repository.get .retentionPolicy record.retentionPolicyRef.1 = none)
    (unavailable "tombstone_retention_policy_missing")
  refuse ((lookupVersion repository record.resourceKind record.resourceId.1 record.resourceVersion.1).isNone)
    (unavailable "tombstone_target_scope_or_version_missing")
  let pointer := repository.releasePointer (releasePointerId scope.tenantId record.resourceKind record.resourceId)
  refuse (∃ p ∈ pointer, p.targetVersion = record.resourceVersion) (unavailable "active_release_cannot_be_tombstoned")

def registerTombstone (scope : TenantScope) (record : TombstoneRecord) : Repository → Except Refusal Repository :=
  gated .tombstone true (tombstoneChecks scope record) scope record

def register (scope : TenantScope) : (k : Kind) → k.Record → Repository → Except Refusal Repository
  | .principal => registerPrincipal scope
  | .client => registerClient scope
  | .retentionPolicy => registerRetentionPolicy scope
  | .permission => registerPermission scope
  | .role => registerRole scope
  | .membership => registerMembership scope
  | .entitlement => registerEntitlement scope
  | .quota => registerQuota scope
  | .upstream => registerUpstream scope
  | .route => registerRoute scope
  | .config => registerConfig scope
  | .feature => registerFeature scope
  | .circuitHistory => registerCircuitHistory scope
  | .tombstone => registerTombstone scope

structure ActivationRequest where
  targetKind : TargetKind
  targetId : String
  targetVersion : ℤ
  actorPrincipalId : String
  expectedRevision : ℤ
  expectedPointerDigest : Option String
  (changeRef activatedAt : String)
  operation : String := "activate"

structure ReleaseTarget where
  targetKind : TargetKind
  targetId : Identifier
  targetVersion : Positive
  targetDigest : Digest

def resolveReleaseOperation (operation : String) : Except Refusal ReleaseOperation :=
  if operation = "activate" then .ok .activate
  else if operation = "rollback" then .ok .rollback
  else .error (unavailable "unknown_release_operation")

def assertReleaseActor (repository : ScopedReads) (scope : TenantScope) (actorPrincipalId : String) :
    Except Refusal Unit := do
  refuse (actorPrincipalId ≠ scope.principalId.1) (unavailable "release_actor_scope_mismatch")
  refuse (∀ p ∈ repository.get .principal actorPrincipalId, p.lifecycle.status ≠ .active)
    (unavailable "release_actor_not_active_in_scope")

def resolveReleaseTarget (repository : ScopedReads) (targetKind : TargetKind) (targetId : String)
    (targetVersion : ℤ) : Except Refusal GatewayVersion := do
  let target ← found (lookupVersion repository targetKind targetId targetVersion)
    (unavailable "release_target_scope_or_version_missing")
  refuse (target.lifecycle.status ≠ .active) (unavailable "release_target_not_active")
  refuse (repository.get .tombstone (targetKind,targetId,targetVersion) ≠ none)
    (unavailable "release_target_tombstoned")
  return target

def pointerCasState (repository : ScopedReads) (pointerId : String) (expectedRevision : ℤ)
    (expectedPointerDigest : Option String) (targetVersion : ℤ) :
    Except Refusal (Option ReleasePointer × {n : ℕ // 1 ≤ n}) := do
  let current := repository.releasePointer pointerId
  refuse (expectedRevision ≠ revisionOf current ∨ expectedPointerDigest ≠ digestOf current)
    (unavailable "release_pointer_stale_cas")
  refuse (∃ p ∈ current, p.targetVersion.1 = targetVersion) (unavailable "release_target_already_active")
  return (current,⟨revisionOf current + 1,Nat.le_add_left 1 _⟩)

def assertRollbackValid (repository : ScopedReads) (pointerId operation : String) (current : Option ReleasePointer)
    (targetVersion : ℤ) : Except Refusal Unit :=
  if operation ≠ "rollback" then return ()
  else do
    refuse (current = none) (unavailable "rollback_requires_existing_release")
    refuse (repository.hasActivationTarget pointerId targetVersion = false)
      (unavailable "rollback_target_not_in_history")

def field {p : String → Bool} (name text : String) : Except Refusal {text : String // p text = true} :=
  if h : p text = true then .ok ⟨text,h⟩ else .error ⟨.validation,name⟩

/-- The request's target as the models take it; what is in the repository passes. -/
def releaseTarget (request : ActivationRequest) (targetDigest : Digest) : Except Refusal ReleaseTarget := do
  let targetId ← field "target_id" request.targetId
  if h : 1 ≤ request.targetVersion then
    return ⟨request.targetKind,targetId,⟨request.targetVersion,h⟩,targetDigest⟩
  else .error ⟨.validation,"target_version"⟩

/-- The actor is the scope's principal. -/
def buildReleasePointer (scope : TenantScope) (target : ReleaseTarget) (nextRevision : {n : ℕ // 1 ≤ n}) :
    ReleasePointer where
  organizationId := scope.organizationId
  tenantId := scope.tenantId
  targetKind := target.targetKind
  targetId := target.targetId
  targetVersion := target.targetVersion
  targetDigest := target.targetDigest
  revision := nextRevision
  updatedByPrincipalId := scope.principalId

def buildActivationRecord (scope : TenantScope) (pointerId : String) (target : ReleaseTarget)
    (request : ActivationRequest) (operation : ReleaseOperation) (previousTargetVersion : Option Positive)
    (nextRevision : {n : ℕ // 1 ≤ n}) : Except Refusal ActivationRecord := do
  let changeRef ← field "change_ref" request.changeRef
  let activatedAt ← field "activated_at" request.activatedAt
  if rollsBack : operation = .rollback → previousTargetVersion ≠ none then
    return {
      pointerId, operation, previousTargetVersion, changeRef, activatedAt, rollsBack
      organizationId := scope.organizationId
      tenantId := scope.tenantId
      targetKind := target.targetKind
      targetId := target.targetId
      targetVersion := target.targetVersion
      targetDigest := target.targetDigest
      releaseRevision := nextRevision
      actorPrincipalId := scope.principalId }
  else .error ⟨.validation,"rollback activation requires a previous target"⟩

def digestField (text : Option String) : Except Refusal (Option Digest) :=
  match text with
  | none => .ok none
  | some text => some <$> field "expected_pointer_digest" text

def buildReleaseMutation (scope : TenantScope) (pointerId : String) (target : ReleaseTarget)
    (request : ActivationRequest) (operation : ReleaseOperation) : Except Refusal ReleaseMutation := do
  let changeRef ← field "change_ref" request.changeRef
  let expectedPointerDigest ← digestField request.expectedPointerDigest
  if h : 0 ≤ request.expectedRevision then
    if bare : request.expectedRevision = 0 → expectedPointerDigest = none then
      return {
        pointerId, operation, changeRef, expectedPointerDigest, bare
        organizationId := scope.organizationId
        tenantId := scope.tenantId
        expectedRevision := ⟨request.expectedRevision,h⟩
        targetKind := target.targetKind
        targetId := target.targetId
        targetVersion := target.targetVersion
        targetDigest := target.targetDigest
        actorPrincipalId := scope.principalId }
    else .error ⟨.validation,"an empty release pointer cannot have a prior digest"⟩
  else .error ⟨.validation,"expected_revision"⟩

def applyCas (scope : TenantScope) (mutation : ReleaseMutation) (pointer : ReleasePointer)
    (activation : ActivationRecord) (s : Repository) :
    Except Refusal ((ReleasePointer × ActivationRecord) × Repository) :=
  match s.compareAndSwapRelease scope mutation pointer activation with
  | .error e => .error (if e.kind = .conflict then unavailable "release_pointer_stale_cas" else e)
  | .ok applied =>
    if applied.1 ≠ pointer then .error ⟨.repository,"repository returned a different release pointer"⟩
    else .ok ((pointer,activation),applied.2)

/-- What `activate` hands to the swap. -/
structure Swap where
  mutation : ReleaseMutation
  pointer : ReleasePointer
  activation : ActivationRecord

/-- The steps of `activate` before the swap, which only read. -/
def prepare (scope : TenantScope) (request : ActivationRequest) (repository : ScopedReads) : Except Refusal Swap := do
  let operation ← resolveReleaseOperation request.operation
  assertReleaseActor repository scope request.actorPrincipalId
  let target ← resolveReleaseTarget repository request.targetKind request.targetId request.targetVersion
  let pointerId := releasePointerId scope.tenantId request.targetKind request.targetId
  let (current,nextRevision) ← pointerCasState repository pointerId request.expectedRevision
    request.expectedPointerDigest request.targetVersion
  assertRollbackValid repository pointerId request.operation current request.targetVersion
  let targetRef ← releaseTarget request target.recordDigest
  let pointer := buildReleasePointer scope targetRef nextRevision
  let activation ← buildActivationRecord scope pointerId targetRef request operation
    (current.map (·.targetVersion)) nextRevision
  let mutation ← buildReleaseMutation scope pointerId targetRef request operation
  return ⟨mutation,pointer,activation⟩

def activate (scope : TenantScope) (request : ActivationRequest) (s : Repository) :
    Except Refusal ((ReleasePointer × ActivationRecord) × Repository) := do
  let swap ← prepare scope request (s.reads scope)
  applyCas scope swap.mutation swap.pointer swap.activation s

inductive Call where
  | registerOrganization (record : OrganizationIdentity)
  | registerTenant (record : TenantIdentity)
  | register (scope : TenantScope) (k : Kind) (record : k.Record)
  | activate (scope : TenantScope) (request : ActivationRequest)

/-- A registration returns nothing. -/
inductive Answer where
  | none
  | released (pointer : ReleasePointer) (activation : ActivationRecord)

def Call.run (s : Repository) : Call → Except Refusal (Answer × Repository)
  | .registerOrganization record => (Foundation.registerOrganization record s).map fun t => (.none,t)
  | .registerTenant record => (Foundation.registerTenant record s).map fun t => (.none,t)
  | .register scope k record => (Foundation.register scope k record s).map fun t => (.none,t)
  | .activate scope request => (Foundation.activate scope request s).map fun r => (.released r.1.1 r.1.2,r.2)

def step (s : Repository) (call : Call) : Except Refusal Answer × Repository :=
  match call.run s with
  | .ok (answer,t) => (.ok answer,t)
  | .error e => (.error e,s)

end Arbora.Foundation
