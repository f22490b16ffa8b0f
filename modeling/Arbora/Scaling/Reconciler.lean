import Arbora.Lib.Program
import Arbora.Scaling.LedgerSteps

/-! The scale-intent reconciler. -/
namespace Arbora.Scaling
open Interaction Ledger

inductive Call where
  | ledger (c : LedgerCall)
  | getObservation (executionKey : String)
  | decide (intent : ScaleIntentRecord)
  | apply (request : ScaleActuationRequest)

/-- What `actuator.apply` did: returned a typed result, raised, or returned something else. -/
inductive Actuation where
  | returned (result : ScaleActuationResult)
  | raised (text : String)
  | untyped

@[reducible] def Call.Answer : Call → Type
  | .ledger c => Except Raised c.Answer
  | .getObservation _ => Option ScaleObservation
  | .decide _ => Except Raised ScalePolicyDecision
  | .apply _ => Actuation

/-- A part of the reconciler that returns `α` or raises. -/
abbrev Step (α : Type) := Prog Call Call.Answer Raised α

namespace Reconciler
variable (H : Hashes)

def ofExcept {α : Type} : Except Raised α → Step α
  | .ok a => .ret a
  | .error x => .raise x

def ledger (c : LedgerCall) : Step c.Answer := .call (.ledger c) ofExcept

def reconcilePreflight (intent : ScaleIntentRecord) (controllerId : String) (now : Int) : Step Unit := do
  if controllerId ≠ intent.replicaWriterId then
    throw ⟨.scaleLeaseUnavailable,"controller is not the declared replica writer"⟩
  if intent.fence.expiresAt ≤ now then
    throw ⟨.scaleLeaseUnavailable,"scale intent fence is expired"⟩

def validateDryRunReuse (intent : ScaleIntentRecord) (execution : ScaleExecutionRecord) (dryRun : Bool) :
    Step Unit := do
  if !dryRun then
    return ()
  if execution.state = .verified then
    let existing ← Prog.ask (.getObservation intent.executionKey)
    if (existing : Option ScaleObservation).all (·.status ≠ .simulated) then
      throw ⟨.scaleIntentConflict,"dry-run cannot reuse an execution that may have scaled"⟩
  else if execution.state ≠ .persisted ∧ execution.state ≠ .simulated then
    throw ⟨.scaleIntentConflict,"dry-run cannot reuse a live or retrying execution key"⟩

/-- The observation `_observe_result` builds; a valid result has a valid observation. -/
def observationOf (intent : ScaleIntentRecord) (result : ScaleActuationResult) (now : Int) : ScaleObservation where
  observationId := derivedId H "observation" intent.executionKey
  executionKey := intent.executionKey
  intentId := intent.intentId
  intentRevision := intent.intentRevision
  target := intent.target
  status := expectedStatus result.state
  scaled := result.scaled
  observedReplicas := result.observedReplicas
  outcomeDigest := H.resultDigest result
  observedAt := now
  detail := result.detail
  valid := by
    have hv := result.valid
    cases hs : result.state <;> simp_all [resultValid,observationValid,expectedStatus]

def observeResult (intent : ScaleIntentRecord) (execution : ScaleExecutionRecord) (result : ScaleActuationResult)
    (now : Int) : Step ScaleObservation :=
  ledger (.recordObservation intent execution (observationOf H intent result now) (.utc now))

def verifiedExecution (execution : ScaleExecutionRecord) (observation : ScaleObservation) : ScaleExecutionRecord :=
  { execution with state := .verified, observationId := some observation.observationId }

def replayVerifiedOrObserved (intent : ScaleIntentRecord) (execution : ScaleExecutionRecord) :
    Step (Option ScaleReconcileResult) := do
  if execution.state ≠ .observed ∧ execution.state ≠ .verified then
    return none
  match ← (Prog.ask (Call.getObservation intent.executionKey) : Step (Option ScaleObservation)) with
  | none => throw ⟨.scaleObservationConflict,"verified execution is missing its durable observation"⟩
  | some observation =>
    return some {
      state := .verified
      replayed := true
      scaled := observation.scaled
      execution := execution
      observation := some observation
      detail := "terminal execution replayed" }

def replayDurableSuccess (intent : ScaleIntentRecord) (execution : ScaleExecutionRecord) (now : Int) :
    Step (Option ScaleReconcileResult) :=
  match execution.result with
  | none => return none
  | some result => do
    if execution.state ≠ .simulated ∧ execution.state ≠ .succeeded then
      return none
    let observation ← observeResult H intent execution result now
    return some {
      state := .verified
      replayed := true
      scaled := observation.scaled
      execution := verifiedExecution execution observation
      observation := some observation
      detail := "durable result replayed into missing observation" }

def replayTerminalFailure (intent : ScaleIntentRecord) (execution : ScaleExecutionRecord) (now : Int) :
    Step (Option ScaleReconcileResult) :=
  match execution.result with
  | none => return none
  | some result => do
    if execution.state ≠ .failed then
      return none
    if result.retryable ∧ execution.attempt < intent.retryPolicy.maxAttempts then
      return none
    let observation ← observeResult H intent execution result now
    return some {
      state := .verified
      replayed := true
      scaled := false
      execution := verifiedExecution execution observation
      observation := some observation
      detail := "terminal actuator result replayed into missing observation" }

def rejectExhaustedRetryBudget (intent : ScaleIntentRecord) (execution : ScaleExecutionRecord) : Step Unit := do
  if execution.state = .started ∧ execution.result = none ∧
      intent.retryPolicy.maxAttempts ≤ execution.attempt then
    throw ⟨.scaleIntentConflict,"retry budget exhausted before an actuator result was durable"⟩

def replayTerminalExecution (intent : ScaleIntentRecord) (execution : ScaleExecutionRecord) (now : Int) :
    Step (Option ScaleReconcileResult) := do
  if let some result ← replayVerifiedOrObserved intent execution then
    return some result
  if let some result ← replayDurableSuccess H intent execution now then
    return some result
  if let some result ← replayTerminalFailure H intent execution now then
    return some result
  rejectExhaustedRetryBudget intent execution
  return none

def validateBreakGlass (intent : ScaleIntentRecord) (authorization : BreakGlassAuthorization) (now : Int) :
    Step Unit := do
  if !authorization.authorized then
    throw ⟨.scaleIntentConflict,"break-glass authorization is not active"⟩
  if authorization.target ≠ intent.target then
    throw ⟨.scaleIntentConflict,"break-glass authorization target mismatch"⟩
  if authorization.authorizedUntil ≤ now then
    throw ⟨.scaleIntentConflict,"break-glass authorization is expired"⟩

def decidePolicyAndBreakGlass (intent : ScaleIntentRecord) (persisted : PersistedIntent)
    (breakGlass : Option BreakGlassAuthorization) (now : Int) :
    Step (Option ScaleReconcileResult × Option BreakGlassAudit) := do
  let decision ← Prog.call (.decide intent) ofExcept
  if decision.allowed then
    return (none,none)
  match breakGlass with
  | none =>
    return (some {
      state := .denied
      replayed := persisted.replayed
      execution := persisted.execution
      detail := "policy denied: " ++ decision.reason },none)
  | some authorization =>
    validateBreakGlass intent authorization now
    let audit ← ledger (.recordBreakGlass intent authorization (.utc now))
    return (none,some audit)

def simulatedResult (intent : ScaleIntentRecord) : ScaleActuationResult where
  executionKey := intent.executionKey
  target := intent.target
  state := .simulated
  scaled := false
  detail := "dry-run: actuator not called"
  valid := rfl

def executeDryRun (intent : ScaleIntentRecord) (persisted : PersistedIntent) (lease : ControllerLease)
    (audit : Option BreakGlassAudit) (now : Int) : Step ScaleReconcileResult := do
  let result := simulatedResult intent
  let execution ← ledger (.recordResult intent persisted.execution lease result (.utc now))
  let observation ← observeResult H intent execution result now
  return {
    state := .verified
    replayed := persisted.replayed
    execution := verifiedExecution execution observation
    observation := some observation
    breakGlassAudit := audit
    detail := "dry-run simulated; no replicas changed" }

def exceptionResult (intent : ScaleIntentRecord) (text : String) : ScaleActuationResult where
  executionKey := intent.executionKey
  target := intent.target
  state := .failed
  scaled := false
  retryable := true
  errorCode := some "actuator_exception"
  detail := String.ofList (text.toList.take maxDetailLength)
  valid := rfl

def mismatchResult (intent : ScaleIntentRecord) (observedReplicas : Option Nat) : ScaleActuationResult where
  executionKey := intent.executionKey
  target := intent.target
  state := .failed
  scaled := false
  observedReplicas := observedReplicas
  errorCode := some "observed_replicas_mismatch"
  detail := "actuator did not converge to the requested replica count"
  valid := rfl

def invokeActuator (intent : ScaleIntentRecord) (request : ScaleActuationRequest) : Step ScaleActuationResult := do
  match ← (Prog.ask (Call.apply request) : Step Actuation) with
  | .raised text => return exceptionResult intent text
  | .untyped => throw ⟨.typeError,"scale actuator returned a non-typed result"⟩
  | .returned result =>
    if result.state = .simulated then
      throw ⟨.scaleIntentConflict,"a live actuator must not return a simulated result"⟩
    else if result.state = .succeeded ∧ result.observedReplicas ≠ some intent.desiredReplicas then
      return mismatchResult intent result.observedReplicas
    else
      return result

def actuationRequest (intent : ScaleIntentRecord) (lease : ControllerLease) : ScaleActuationRequest where
  intentId := intent.intentId
  intentRevision := intent.intentRevision
  expectedUnitRevision := intent.expectedUnitRevision
  executionKey := intent.executionKey
  desiredReplicas := intent.desiredReplicas
  controllerMode := intent.controllerMode
  replicaWriterId := intent.replicaWriterId
  target := intent.target
  lease := lease
  dryRun := false

def executeLive (intent : ScaleIntentRecord) (persisted : PersistedIntent) (lease : ControllerLease)
    (audit : Option BreakGlassAudit) (now : Int) : Step ScaleReconcileResult := do
  let started ← ledger (.markStarted intent persisted.execution lease (.utc now))
  let result ← invokeActuator intent (actuationRequest intent lease)
  let execution ← ledger (.recordResult intent started lease result (.utc now))
  if result.state = .failed ∧ result.retryable ∧ lease.attempt < intent.retryPolicy.maxAttempts then
    return {
      state := .failed
      replayed := persisted.replayed
      actuatorCalled := true
      execution := execution
      breakGlassAudit := audit
      retryAfterS := some intent.retryPolicy.backoffS
      detail := "retryable actuator failure persisted" }
  let observation ← observeResult H intent execution result now
  return {
    state := .verified
    replayed := persisted.replayed
    actuatorCalled := true
    scaled := result.scaled
    execution := verifiedExecution execution observation
    observation := some observation
    breakGlassAudit := audit
    detail := result.detail }

/-- The part of `reconcile` after the terminal replays. -/
def proceed (intent : ScaleIntentRecord) (controllerId : String) (dryRun : Bool)
    (breakGlass : Option BreakGlassAuthorization) (persisted : PersistedIntent) (now : Int) :
    Step ScaleReconcileResult := do
  let (early,audit) ← decidePolicyAndBreakGlass intent persisted breakGlass now
  if let some result := early then
    return result
  match ← ledger (.acquireControllerLease intent controllerId (.utc now)) with
  | none => throw ⟨.scaleLeaseUnavailable,"another controller owns the scale lease"⟩
  | some lease =>
    if dryRun then executeDryRun H intent persisted lease audit now
    else executeLive H intent persisted lease audit now

def reconcile (clock : DateTime) (intent : ScaleIntentRecord) (controllerId : String) (dryRun : Bool)
    (breakGlass : Option BreakGlassAuthorization) : Step ScaleReconcileResult := do
  let now ← ofExcept (aware clock "clock")
  reconcilePreflight intent controllerId now
  let persisted ← ledger (.persistIntent intent)
  validateDryRunReuse intent persisted.execution dryRun
  if let some result ← replayTerminalExecution H intent persisted.execution now then
    return result
  proceed H intent controllerId dryRun breakGlass persisted now

end Reconciler
end Arbora.Scaling
