import Arbora.Lib.Dict
import Arbora.Lib.Guards
import Arbora.Lib.Keyset
import Arbora.Lib.Machine
import Arbora.WebUi.Models

/-! The in-memory repository of the Web UI. What a call writes before it raises stays written; the lock makes a
call one step. -/
namespace Arbora.WebUi
open Guards (refuse found)
open PolicyPlane (OpaqueRef Timestamp isRef)

inductive ErrorKind where
  | authorization | casConflict | entityNotFound | pagination | retention | pilotBoundary
  /-- a refusal of the models themselves -/
  | validation
  /-- whatever the clock raises -/
  | clock

def ErrorKind.code : ErrorKind → String
  | .authorization => "webui_authorization_denied"
  | .casConflict => "webui_cas_conflict"
  | .entityNotFound => "webui_entity_not_found"
  | .pagination => "webui_pagination_invalid"
  | .retention => "webui_retention_invalid"
  | .pilotBoundary => "webui_anonymous_pilot_boundary"
  | .validation => "legal_hold_metadata_invalid"
  | .clock => "clock"

structure WebUiError where
  kind : ErrorKind
  text : String

def plain (kind : ErrorKind) : WebUiError := ⟨kind,kind.code⟩

structure Key where
  entityKind : EntityKind
  (tenantRef workspaceRef entityRef : OpaqueRef)
  deriving DecidableEq

/-- Entities, and apart from them what is retained of each. -/
structure InMemoryWebUiRepository where
  entities : Dict Key WebUiEntity
  retention : Dict Key RetentionRecord

def InMemoryWebUiRepository.empty : InMemoryWebUiRepository := ⟨∅,∅⟩

abbrev Op := Guards.Op WebUiError InMemoryWebUiRepository

structure Clock where
  (initial updated : Option ℤ)

/-- `_validate_kind` -/
def kindOf (entityKind : String) : Option EntityKind :=
  match entityKind with
  | "tenant" => some .tenant | "workspace" => some .workspace | "user" => some .user | "profile" => some .profile
  | "session" => some .session | "conversation" => some .conversation | "content" => some .content
  | "attachment" => some .attachment | "message" => some .message | "preference" => some .preference
  | "saved_query" => some .savedQuery | "dashboard" => some .dashboard | "widget" => some .widget
  | "notification" => some .notification | "feedback" => some .feedback | "support" => some .support
  | _ => none

def validateKind (entityKind : String) : Op EntityKind := found (kindOf entityKind) (plain .entityNotFound)
def refOf (text : String) : Option OpaqueRef := if h : isRef text = true then some ⟨text,h⟩ else none
def validateRef (text : String) : Op OpaqueRef := found (refOf text) (plain .entityNotFound)

def holdOf : Option String → Op (Option OpaqueRef)
  | none => pure none
  | some text => do return some (← validateRef text)

def validateExpectedVersion (expectedVersion : Option ℤ) : Op Unit :=
  refuse (expectedVersion.any (· < 1)) (plain .casConflict)

def targetOf (target : String) : Option LifecycleState :=
  match target with
  | "active" => some .active
  | "retained" => some .retained
  | "deletion_pending" => some .deletionPending
  | "deleted" => some .deleted
  | "legal_hold" => some .legalHold
  | _ => none

def validateTarget (target : String) : Op LifecycleState := found (targetOf target) (plain .retention)
def requireContext (context : AccessContext) (permission : UiPermission) : Op Unit :=
  refuse (context.allows permission = false) (plain .authorization)

def requireScope (context : AccessContext) (tenantRef workspaceRef : OpaqueRef) (permission : UiPermission) :
    Op Unit := do
  requireContext context permission
  refuse (context.tenantRef ≠ tenantRef ∨ context.workspaceRef ≠ workspaceRef) (plain .authorization)

def pilotRefMismatch (entity : WebUiEntity) (context : AccessContext) : Bool :=
  [(entity.sessionRef,context.sessionRef),(entity.userRef,pilotUser),(entity.ownerRef,pilotUser),
    (entity.actorRef,pilotActor),(entity.requesterRef,pilotActor)].any fun (value,expected) =>
      value.any fun ref => ref ≠ expected

def pilotBoundaryViolation (entity : WebUiEntity) (context : AccessContext) : Bool :=
  decide (entity.entityKind ∈ [EntityKind.tenant,.workspace,.user,.profile]) || decide (entity.visibility ≠ .private) ||
    pilotRefMismatch entity context || entity.isNamedSession

def pilotBoundary (entity : WebUiEntity) (context : AccessContext) : Op Unit :=
  refuse (context.anonymousPilot = true ∧ pilotBoundaryViolation entity context = true) (plain .pilotBoundary)
def reading (clock : Option ℤ) : Op Timestamp := found (clock.map fun now => (max 0 now).toNat) (plain .clock)
def initialRecord (key : Key) (effectiveAt : Timestamp) : RetentionRecord :=
  ⟨key.tenantRef,key.workspaceRef,key.entityKind,key.entityRef,.active,⟨1,by decide⟩,none,none,effectiveAt,⟨rfl,rfl⟩⟩
def setRetention (key : Key) (record : RetentionRecord) (s : InMemoryWebUiRepository) : InMemoryWebUiRepository :=
  { s with retention := s.retention.set key record }
def setEntity (key : Key) (entity : WebUiEntity) (s : InMemoryWebUiRepository) : InMemoryWebUiRepository :=
  { s with entities := s.entities.set key entity }

def retentionFor (key : Key) (clock : Clock) : Op RetentionRecord := do
  match (← get).retention.get key with
  | some current => return current
  | none =>
    let effectiveAt ← reading clock.initial
    modify (setRetention key (initialRecord key effectiveAt))
    return initialRecord key effectiveAt

/-- `_RETENTION_ADMIN_TARGETS` and the permission that follows from the target alone. -/
def retentionPermission : LifecycleState → UiPermission
  | .deletionPending | .deleted | .legalHold => .admin
  | .active | .retained => .write

def sameRetentionState (current : RetentionRecord) (target : LifecycleState) (legalHoldRef : Option OpaqueRef) :
    Op RetentionRecord := do
  if target = .legalHold then
    refuse (legalHoldRef ≠ current.legalHoldRef) ⟨.retention,"legal_hold_reference_mismatch"⟩
  else refuse (legalHoldRef ≠ none) ⟨.retention,"legal_hold_reference_unexpected"⟩
  return current

def resumeStateOf : LifecycleState → Option RetentionResumeState
  | .active => some .active
  | .retained => some .retained
  | .deletionPending => some .deletionPending
  | .deleted | .legalHold => none

structure Next where
  state : LifecycleState
  legalHoldRef : Option OpaqueRef
  resumeState : Option RetentionResumeState

def placeLegalHold (current : RetentionRecord) (legalHoldRef : Option OpaqueRef) : Op Next := do
  refuse (current.state = .deleted) ⟨.retention,"legal_hold_after_delete"⟩
  let ref ← found legalHoldRef ⟨.retention,"legal_hold_reference_required"⟩
  let resume ← found (resumeStateOf current.state) ⟨.retention,"legal_hold_source_state_invalid"⟩
  return ⟨.legalHold,ref,resume⟩

def releaseLegalHold (current : RetentionRecord) (target : LifecycleState) (legalHoldRef : Option OpaqueRef) :
    Op Next := do
  refuse (legalHoldRef ≠ none ∨ current.resumeState.map (·.state) ≠ some target)
    ⟨.retention,"legal_hold_release_mismatch"⟩
  return ⟨target,none,none⟩

/-- `_STANDARD_RETENTION_TRANSITIONS` -/
def standardNext : LifecycleState → LifecycleState → Option LifecycleState
  | .active, .retained => some .retained
  | .active, .deletionPending => some .deletionPending
  | .retained, .deletionPending => some .deletionPending
  | .deletionPending, .deleted => some .deleted
  | _, _ => none

def standardRetentionTransition (current : RetentionRecord) (target : LifecycleState) : Op Next := do
  let next ← found (standardNext current.state target) ⟨.retention,"retention_transition_invalid"⟩
  return ⟨next,none,none⟩

def retentionTransition (current : RetentionRecord) (target : LifecycleState) (legalHoldRef : Option OpaqueRef) :
    Op Next :=
  if target = .legalHold then placeLegalHold current legalHoldRef
  else if current.state = .legalHold then releaseLegalHold current target legalHoldRef
  else standardRetentionTransition current target

/-- The record of a transition, if the model takes it. -/
def buildRecord (current : RetentionRecord) (next : Next) (effectiveAt : Timestamp) : Option RetentionRecord :=
  if hversion : current.version.1 < 2147483647 then
    if h : Consistent next.state next.legalHoldRef next.resumeState then
      some ⟨current.tenantRef,current.workspaceRef,current.entityKind,current.entityRef,next.state,
        ⟨current.version.1+1,by omega,by omega⟩,next.legalHoldRef,next.resumeState,effectiveAt,h⟩
    else none
  else none

def updatedRetention (current : RetentionRecord) (next : Next) (clock : Clock) : Op RetentionRecord := do
  refuse (2147483647 ≤ current.version.1) (plain .casConflict)
  let effectiveAt ← reading clock.updated
  found (buildRecord current next effectiveAt) (plain .validation)

/-- The entity stands before its record is made. -/
def storeEntity (key : Key) (entity : WebUiEntity) (clock : Clock) : Op WebUiEntity := do
  modify (setEntity key entity)
  discard (retentionFor key clock)
  return entity

def put (entity : WebUiEntity) (context : AccessContext) (expectedVersion : Option ℤ) (clock : Clock) :
    Op WebUiEntity := do
  validateExpectedVersion expectedVersion
  requireContext context .write
  let workspaceRef := entity.workspaceRef.getD context.workspaceRef
  let entityRef ← validateRef entity.entityRef
  requireScope context entity.tenantRef workspaceRef .write
  pilotBoundary entity context
  let key : Key := ⟨entity.entityKind,entity.tenantRef,workspaceRef,entityRef⟩
  match (← get).entities.get key with
  | none =>
    refuse (expectedVersion ≠ none ∨ entity.version.1 ≠ 1) (plain .casConflict)
    storeEntity key entity clock
  | some existing =>
    let retention ← retentionFor key clock
    refuse (retention.state = .deleted) ⟨.retention,"webui_entity_deleted"⟩
    if existing = entity ∧ (expectedVersion = none ∨ expectedVersion = some (existing.version.1-1 : ℤ)) then
      return existing
    else
      refuse (expectedVersion ≠ some (existing.version.1 : ℤ)) (plain .casConflict)
      refuse (entity.version.1 ≠ existing.version.1+1) (plain .casConflict)
      storeEntity key entity clock

def getEntity (entityKind entityRef : String) (context : AccessContext) : Op (Option WebUiEntity) := do
  let kind ← validateKind entityKind
  let ref ← validateRef entityRef
  requireContext context .read
  requireScope context context.tenantRef context.workspaceRef .read
  let key : Key := ⟨kind,context.tenantRef,context.workspaceRef,ref⟩
  let s ← get
  match s.entities.get key with
  | none => return none
  | some entity =>
    refuse ((s.retention.get key).any (·.state = .deleted)) ⟨.retention,"webui_entity_deleted"⟩
    return some entity

/-- `_offset`; the pattern of requests has seen to the text before the digits. -/
def offsetOf (cursor : Option String) : ℕ :=
  cursor.elim 0 fun text => (text.toList.drop 7).foldl (fun n c => 10*n+(c.toNat-48)) 0

def pageRows (s : InMemoryWebUiRepository) (kind : EntityKind) (tenantRef workspaceRef : OpaqueRef) :
    List (String × WebUiEntity) :=
  Keyset.sortBy Prod.fst (s.entities.keys.filterMap fun key =>
    if key.entityKind = kind ∧ key.tenantRef = tenantRef ∧ key.workspaceRef = workspaceRef ∧
        (s.retention.get key).all (·.state ≠ .deleted) then (s.entities.get key).map (key.entityRef.1,·) else none)

def page (entityKind : String) (context : AccessContext) (request : PageRequest) : Op Page := do
  let kind ← validateKind entityKind
  let offset := offsetOf (request.cursor.map Subtype.val)
  refuse (2147483647 < offset) (plain .pagination)
  requireContext context .read
  requireScope context context.tenantRef context.workspaceRef .read
  let rows := pageRows (← get) kind context.tenantRef context.workspaceRef
  let selected := (rows.drop offset).take request.limit
  let last := offset+selected.length
  return ⟨selected.map Prod.snd,if last < rows.length then some ("cursor:" ++ toString last) else none⟩

def transitionRetention (entityKind entityRef : String) (context : AccessContext) (expectedVersion : ℤ)
    (target : String) (legalHoldRef : Option String) (clock : Clock) : Op RetentionRecord := do
  let kind ← validateKind entityKind
  let ref ← validateRef entityRef
  validateExpectedVersion (some expectedVersion)
  let state ← validateTarget target
  let hold ← holdOf legalHoldRef
  requireContext context (retentionPermission state)
  requireScope context context.tenantRef context.workspaceRef (retentionPermission state)
  let key : Key := ⟨kind,context.tenantRef,context.workspaceRef,ref⟩
  refuse (key ∉ (← get).entities.keys) (plain .entityNotFound)
  let current ← retentionFor key clock
  refuse ((current.version.1 : ℤ) ≠ expectedVersion) (plain .casConflict)
  if state = current.state then sameRetentionState current state hold
  else
    let next ← retentionTransition current state hold
    let updated ← updatedRetention current next clock
    modify (setRetention key updated)
    return updated

inductive Call where
  | put (entity : WebUiEntity) (context : AccessContext) (expectedVersion : Option ℤ)
  | get (entityKind entityRef : String) (context : AccessContext)
  | page (entityKind : String) (context : AccessContext) (request : PageRequest)
  | transitionRetention (entityKind entityRef : String) (context : AccessContext) (expectedVersion : ℤ)
      (target : String) (legalHoldRef : Option String)

def Call.context : Call → AccessContext
  | .put _ context _ | .get _ _ context | .page _ context _ | .transitionRetention _ _ context _ _ _ => context

inductive Answer where
  | entity (entity : WebUiEntity)
  | nothing
  | page (page : Page)
  | retention (record : RetentionRecord)

structure Request where
  call : Call
  clock : Clock

def Request.run (request : Request) : Op Answer :=
  match request.call with
  | .put entity context expectedVersion => .entity <$> put entity context expectedVersion request.clock
  | .get entityKind entityRef context => (·.elim .nothing .entity) <$> getEntity entityKind entityRef context
  | .page entityKind context pageRequest => .page <$> page entityKind context pageRequest
  | .transitionRetention entityKind entityRef context expectedVersion target legalHoldRef =>
    .retention <$> transitionRetention entityKind entityRef context expectedVersion target legalHoldRef request.clock

def step (s : InMemoryWebUiRepository) (request : Request) : Except WebUiError Answer × InMemoryWebUiRepository :=
  match request.run.run s with
  | .ok a t => (.ok a,t)
  | .error e t => (.error e,t)

end Arbora.WebUi
