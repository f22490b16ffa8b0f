import Arbora.Scaling.IntentRecords
import Mathlib.Algebra.Order.Group.Int

/-! The in-memory scale ledger. -/
namespace Arbora.Scaling

/-- The dictionaries of `MemoryScaleIntentLedger` and its event list. -/
structure Ledger where
  intents : String × Nat → Option (String × String)
  executions : String → Option ScaleExecutionRecord
  leases : String → Option ControllerLease
  observations : String → Option ScaleObservation
  breakGlass : String × String → Option BreakGlassAudit
  events : List String

def Ledger.empty : Ledger := ⟨fun _ => none,fun _ => none,fun _ => none,fun _ => none,fun _ => none,[]⟩

abbrev Outcome (α : Type) := Except Raised α × Ledger

namespace Ledger
variable (H : Hashes)

def log (L : Ledger) (event : String) : Ledger := { L with events := L.events ++ [event] }
def setExecution (L : Ledger) (key : String) (e : ScaleExecutionRecord) : Ledger :=
  { L with executions := Function.update L.executions key (some e) }
def setLease (L : Ledger) (key : String) (l : ControllerLease) : Ledger :=
  { L with leases := Function.update L.leases key (some l) }
def setObservation (L : Ledger) (key : String) (o : ScaleObservation) : Ledger :=
  { L with observations := Function.update L.observations key (some o) }

def newExecution (intent : ScaleIntentRecord) : ScaleExecutionRecord where
  executionId := derivedId H "execution" intent.executionKey
  intentId := intent.intentId
  intentRevision := intent.intentRevision
  executionKey := intent.executionKey
  target := intent.target
  state := .persisted
  attempt := 0
  identityDigest := H.identityDigest intent
  createdAt := intent.createdAt
  updatedAt := intent.createdAt

def persistIntent (intent : ScaleIntentRecord) (L : Ledger) : Outcome PersistedIntent :=
  let identity := H.identityDigest intent
  let intentKey := (intent.intentId,intent.intentRevision)
  let prior := L.intents intentKey
  if prior.isSome ∧ prior ≠ some (intent.executionKey,identity) then
    (.error ⟨.scaleIntentConflict,"intent revision replayed with different identity"⟩,L)
  else match L.executions intent.executionKey with
  | some existing =>
    if existing.identityDigest ≠ identity then
      (.error ⟨.scaleIntentConflict,"execution key replayed with different identity"⟩,L)
    else (.ok ⟨existing,true⟩,L.log "persist_intent:replayed")
  | none =>
    if prior.any (fun p => p.1 ≠ intent.executionKey) then
      (.error ⟨.scaleIntentConflict,"intent revision is bound to another execution key"⟩,L)
    else
      let execution := newExecution H intent
      (.ok ⟨execution,false⟩,
        ({ L with intents := Function.update L.intents intentKey (some (intent.executionKey,identity)) }
          |>.setExecution intent.executionKey execution).log "persist_intent")

/-- `current_execution` failed with a result that may be retried. -/
def isRetryableFailed (e : ScaleExecutionRecord) : Bool :=
  e.state == .failed && e.result.any (·.retryable)

/-- `(handled, result)`: handled means that `result` is the answer, a replay or a refusal. -/
def resolveExistingLease (current : Option ControllerLease) (execution : ScaleExecutionRecord)
    (controllerId : String) (now : Int) : Bool × Option ControllerLease :=
  match current with
  | none => (false,none)
  | some lease =>
    if lease.expiresAt ≤ now then (false,none)
    else if lease.controllerId = controllerId ∧ !isRetryableFailed execution then (true,some lease)
    else if lease.controllerId ≠ controllerId then (true,none)
    else (false,none)

def newLease (uuid controllerId : String) (intent : ScaleIntentRecord) (priorAttempt : Nat) (now : Int)
    (h : ¬ intent.fence.expiresAt ≤ now) : ControllerLease where
  leaseInstanceId := "lease:" ++ uuid
  controllerId := controllerId
  fence := intent.fence
  attempt := priorAttempt + 1
  acquiredAt := now
  expiresAt := min intent.fence.expiresAt (now + maxLeaseTtl)
  attemptPos := Nat.le_add_left 1 priorAttempt
  times := by
    have : 0 < maxLeaseTtl := by decide
    omega

/-- `uuid` is what `uuid.uuid4().hex` gives when a lease is issued. -/
def acquireControllerLease (uuid : String) (intent : ScaleIntentRecord) (controllerId : String)
    (now : DateTime) (L : Ledger) : Outcome (Option ControllerLease) :=
  match aware now "now" with
  | .error x => (.error x,L)
  | .ok t =>
    if h : intent.fence.expiresAt ≤ t then
      (.error ⟨.scaleLeaseUnavailable,"scale intent fence is expired"⟩,L)
    else match (L.executions intent.executionKey).filter (·.identityDigest = H.identityDigest intent) with
    | none => (.error ⟨.scaleIntentConflict,"controller lease requires the persisted intent identity"⟩,L)
    | some execution =>
      match resolveExistingLease (L.leases intent.executionKey) execution controllerId t with
      | (true,some lease) => (.ok (some lease),L.log "lease:replayed")
      | (true,none) => (.ok none,L)
      | (false,_) =>
        match identifier controllerId "controller_id" with
        | .error x => (.error x,L)
        | .ok cid =>
          let lease := newLease uuid cid intent execution.attempt t h
          (.ok (some lease),(L.setLease intent.executionKey lease).log "lease:acquired")

def executionIdentityMismatch (persisted execution : ScaleExecutionRecord) (intent : ScaleIntentRecord) : Bool :=
  persisted.identityDigest ≠ H.identityDigest intent || execution.identityDigest ≠ persisted.identityDigest ||
    execution.target ≠ intent.target || execution.intentId ≠ intent.intentId ||
    execution.intentRevision ≠ intent.intentRevision

/-- `_check_lease`; on success the instant of `now` and the persisted execution it was checked against. -/
def checkLease (L : Ledger) (intent : ScaleIntentRecord) (execution : ScaleExecutionRecord)
    (lease : ControllerLease) (now : DateTime) : Except Raised (Int × ScaleExecutionRecord) := do
  let t ← aware now "now"
  if (L.leases intent.executionKey).all (·.leaseInstanceId ≠ lease.leaseInstanceId) then
    throw ⟨.scaleLeaseLost,"controller lease is no longer current"⟩
  if lease.expiresAt ≤ t then
    throw ⟨.scaleLeaseLost,"controller lease expired"⟩
  if execution.executionKey ≠ intent.executionKey then
    throw ⟨.scaleIntentConflict,"execution key is not bound to intent"⟩
  match (L.executions intent.executionKey).filter (!executionIdentityMismatch H · execution intent) with
  | none => throw ⟨.scaleIntentConflict,"execution identity is not bound to intent"⟩
  | some persisted =>
    if lease.fence ≠ intent.fence then
      throw ⟨.scaleLeaseLost,"controller fence changed"⟩
    return (t,persisted)

/-- The states in which `mark_started` hands the stored record back unchanged. -/
def settledState (s : ScaleIntentState) : Bool :=
  s == .simulated || s == .succeeded || s == .observed || s == .verified

def withStart (current : ScaleExecutionRecord) (lease : ControllerLease) (now : Int) : ScaleExecutionRecord :=
  { current with state := .started, attempt := lease.attempt, lease := some lease, updatedAt := now }

def markStarted (intent : ScaleIntentRecord) (execution : ScaleExecutionRecord) (lease : ControllerLease)
    (now : DateTime) (L : Ledger) : Outcome ScaleExecutionRecord :=
  match checkLease H L intent execution lease now with
  | .error x => (.error x,L)
  | .ok (t,current) =>
    if settledState current.state then (.ok current,L)
    else if current.state = .failed ∧ !current.result.any (·.retryable) then
      (.error ⟨.scaleIntentConflict,"non-retryable execution cannot be started again"⟩,L)
    else if current.state = .failed ∧ lease.attempt ≤ current.attempt then
      (.error ⟨.scaleLeaseLost,"retry must use a newer controller lease"⟩,L)
    else
      let updated := withStart current lease t
      (.ok updated,(L.setExecution intent.executionKey updated).log "execution:started")

def retryAttempt (current : ScaleExecutionRecord) (lease : ControllerLease) (kept : ScaleActuationResult) : Bool :=
  kept.retryable && current.resultAttempt.any (· < lease.attempt) && current.state == .started

def isResultReplay (current : ScaleExecutionRecord) (lease : ControllerLease) (result : ScaleActuationResult) :
    Except Raised Bool :=
  match current.result with
  | none => .ok false
  | some kept =>
    if kept ≠ result ∧ !retryAttempt current lease kept then
      .error ⟨.scaleIntentConflict,"execution key returned a different result"⟩
    else .ok (kept = result ∧ current.resultAttempt = some lease.attempt)

def withResult (current : ScaleExecutionRecord) (lease : ControllerLease) (result : ScaleActuationResult)
    (now : Int) : ScaleExecutionRecord :=
  { current with
    state := result.state
    dryRun := result.state == .simulated
    actuatorCalled := result.state != .simulated
    scaled := result.scaled
    resultAttempt := some lease.attempt
    lease := some lease
    result := some result
    updatedAt := now }

def recordResult (intent : ScaleIntentRecord) (execution : ScaleExecutionRecord) (lease : ControllerLease)
    (result : ScaleActuationResult) (now : DateTime) (L : Ledger) : Outcome ScaleExecutionRecord :=
  match checkLease H L intent execution lease now with
  | .error x => (.error x,L)
  | .ok (t,current) =>
    if result.executionKey ≠ intent.executionKey ∨ result.target ≠ intent.target then
      (.error ⟨.scaleIntentConflict,"actuator result identity does not match intent"⟩,L)
    else match isResultReplay current lease result with
    | .error x => (.error x,L)
    | .ok true => (.ok current,L)
    | .ok false =>
      let updated := withResult current lease result t
      (.ok updated,(L.setExecution intent.executionKey updated).log ("execution:result:" ++ result.state.value))

def validateObservationIdentity (intent : ScaleIntentRecord) (execution : ScaleExecutionRecord)
    (observation : ScaleObservation) (current : ScaleExecutionRecord) : Except Raised Unit := do
  if observation.executionKey ≠ intent.executionKey ∨ observation.target ≠ intent.target then
    throw ⟨.scaleIntentConflict,"observation identity does not match intent"⟩
  if observation.intentId ≠ intent.intentId ∨ observation.intentRevision ≠ intent.intentRevision then
    throw ⟨.scaleIntentConflict,"observation intent identity does not match"⟩
  if execution.executionKey ≠ current.executionKey ∨ execution.identityDigest ≠ current.identityDigest then
    throw ⟨.scaleIntentConflict,"observation execution identity is stale"⟩

def expectedStatus : ScaleIntentState → ScaleObservationStatus
  | .succeeded => .converged
  | .simulated => .simulated
  | _ => .failed

def observationMatchesResult (observation : ScaleObservation) (result : ScaleActuationResult) : Bool :=
  observation.status = expectedStatus result.state && observation.scaled = result.scaled &&
    observation.observedReplicas = result.observedReplicas &&
    observation.outcomeDigest = H.resultDigest result

def withObservation (current : ScaleExecutionRecord) (observation : ScaleObservation) (now : Int) :
    ScaleExecutionRecord :=
  { current with state := .verified, observationId := some observation.observationId, updatedAt := now }

/-- The observation is stored before `now` is looked at: a naive `now` raises with the
observation kept and the execution not yet verified. -/
def recordObservation (intent : ScaleIntentRecord) (execution : ScaleExecutionRecord)
    (observation : ScaleObservation) (now : DateTime) (L : Ledger) : Outcome ScaleObservation :=
  match L.executions intent.executionKey with
  | none => (.error ⟨.scaleIntentConflict,"observation requires a persisted intent"⟩,L)
  | some current =>
    match validateObservationIdentity intent execution observation current with
    | .error x => (.error x,L)
    | .ok () =>
      match L.observations intent.executionKey with
      | some stored =>
        if stored.outcomeDigest ≠ observation.outcomeDigest then
          (.error ⟨.scaleObservationConflict,"observation replay changed outcome"⟩,L)
        else (.ok stored,L)
      | none =>
        match current.result with
        | none => (.error ⟨.scaleIntentConflict,"observation requires a durable actuator result"⟩,L)
        | some result =>
          if !observationMatchesResult H observation result then
            (.error ⟨.scaleObservationConflict,"observation does not match the durable actuator result"⟩,L)
          else
            let stored := L.setObservation intent.executionKey observation
            match aware now "now" with
            | .error x => (.error x,stored)
            | .ok t =>
              let updated := withObservation current observation t
              (.ok observation,(stored.setExecution intent.executionKey updated).log "observation:verified")

def recordBreakGlass (intent : ScaleIntentRecord) (authorization : BreakGlassAuthorization)
    (now : DateTime) (L : Ledger) : Outcome BreakGlassAudit :=
  match aware now "now" with
  | .error x => (.error x,L)
  | .ok t =>
    if !authorization.authorized ∨ authorization.authorizedUntil ≤ t then
      (.error ⟨.scaleIntentConflict,"break-glass authorization is not active"⟩,L)
    else if authorization.target ≠ intent.target then
      (.error ⟨.scaleIntentConflict,"break-glass target does not match intent"⟩,L)
    else if (L.executions intent.executionKey).all (·.identityDigest ≠ H.identityDigest intent) then
      (.error ⟨.scaleIntentConflict,"break-glass requires the persisted intent identity"⟩,L)
    else
      let key := (intent.executionKey,authorization.authorizationId)
      let auditDigest := H.auditDigest intent.intentId authorization
      match L.breakGlass key with
      | some existing =>
        if existing.auditDigest ≠ auditDigest then
          (.error ⟨.scaleIntentConflict,"break-glass authorization replay changed its identity"⟩,L)
        else (.ok existing,L)
      | none =>
        let audit : BreakGlassAudit := {
          auditId := derivedId H "audit" authorization.authorizationId
          authorizationId := authorization.authorizationId
          intentId := intent.intentId
          actorId := authorization.actorId
          approvalRef := authorization.approvalRef
          target := authorization.target
          reason := authorization.reason
          authorizedUntil := authorization.authorizedUntil
          recordedAt := t
          auditDigest := auditDigest }
        (.ok audit,{ L with breakGlass := Function.update L.breakGlass key (some audit) }.log "break_glass:audit")

def getObservation (L : Ledger) (executionKey : String) : Option ScaleObservation :=
  L.observations executionKey

end Ledger
end Arbora.Scaling
