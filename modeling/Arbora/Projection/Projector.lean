import Arbora.Lib.Program
import Arbora.Projection.Models

/-! `ProjectionService`: every call to the outbox, the checkpoint store, the graph, the clock or the
drift sink is answered by its environment. -/
namespace Arbora.Projection
open Interaction

inductive PageItem where
  | envelope (event : OutboxEnvelope)
  /-- an object that is no `OutboxEnvelope` -/
  | other

inductive Call where
  | readCheckpoint (scope : ProjectionScope)
  | saveCheckpoint (scope : ProjectionScope) (expected : Option ProjectionCheckpoint) (checkpoint : ProjectionCheckpoint)
  | resetCheckpoint (scope : ProjectionScope) (fenceToken : ℤ)
  | readAfter (scope : ProjectionScope) (afterSequence : ℕ) (limit : ℤ)
  | applyEvent (event : OutboxEnvelope) (fenceToken : ℤ)
  | resetProjection (scope : ProjectionScope) (fenceToken : ℤ)
  | now
  | record (drift : DriftRecord)

@[reducible] def Call.Answer : Call → Type
  | .readCheckpoint _ => Except Raised (Option ProjectionCheckpoint)
  | .saveCheckpoint .. => Except Raised Unit
  | .resetCheckpoint .. => Except Raised Unit
  | .readAfter .. => Except Raised (List PageItem)
  | .applyEvent .. => Except Raised (Option GraphProjectionReceipt)
  | .resetProjection .. => Except Raised Unit
  | .now => Timestamp
  | .record _ => Except Raised Unit

/-- A part of the service that returns `α` or raises. -/
abbrev Step (α : Type) := Prog Call Call.Answer Raised α

inductive BatchStatus where
  | complete | applied | replayed | blocked | failed | drift
  deriving DecidableEq

structure ProjectionBatchResult where
  scope : ProjectionScope
  status : BatchStatus
  outcomes : List ProjectionOutcome := []
  checkpoint : Option ProjectionCheckpoint := none
  hasMore : Bool := false

structure EventStep where
  outcome : Option ProjectionOutcome
  stop : Bool
  current : ProjectionCheckpoint
  persisted : Option ProjectionCheckpoint

/-- What `_open_batch` hands on when it does not abort. -/
structure Batch where
  current : ProjectionCheckpoint
  persisted : Option ProjectionCheckpoint
  events : List PageItem

namespace Service

def ofExcept {α : Type} : Except Raised α → Step α
  | .ok a => .ret a
  | .error x => .raise x

/-- `except CheckpointConflict` with one handler and `except Exception` with another. -/
def handler {α : Type} (conflict failure : Step α) (x : Raised) : Step α :=
  match x.kind with
  | .checkpointConflict => conflict
  | .interrupt => .raise x
  | _ => failure

theorem handler_cases {α : Type} (conflict failure : Step α) (x : Raised) :
    handler conflict failure x = conflict ∨ handler conflict failure x = failure ∨
      handler conflict failure x = .raise x := by
  unfold handler
  cases x.kind with
  | checkpointConflict => exact .inl rfl
  | interrupt => exact .inr (.inr rfl)
  | projectionContractError => exact .inr (.inl rfl)
  | valueError => exact .inr (.inl rfl)
  | validationError => exact .inr (.inl rfl)
  | exception => exact .inr (.inl rfl)

def guarded {α : Type} (body : Step α) (conflict failure : Step α) : Step α := body.handle (handler conflict failure)

def checkLimit (limit : ℤ) : Step Unit :=
  if 1 ≤ limit ∧ limit ≤ maxBatchSize then .ret ()
  else .raise ⟨.projectionContractError,"projection_batch_limit_out_of_bounds"⟩

def checkFence (fenceToken : ℤ) : Step Unit :=
  if 1 ≤ fenceToken then .ret () else .raise ⟨.projectionContractError,"projection_fence_token_invalid"⟩

def outcomeOf (status : OutcomeStatus) (event : OutboxEnvelope) (reasonCode : Option String := none) :
    ProjectionOutcome :=
  ⟨status,event.aggregateType,event.aggregateId,event.sequence,event.eventId,reasonCode⟩

def statusOf (outcomes : List ProjectionOutcome) : BatchStatus :=
  if outcomes = [] then .complete
  else if outcomes.any fun item => item.status ∈ [.gap,.conflict,.rejected,.drift] then .drift
  else if outcomes.any fun item => item.status = .failed then .failed
  else if outcomes.all fun item => item.status = .replayed then .replayed
  else .applied

-- the `projector_id` of the service, any text that is not empty
variable (projectorId : String)

def recordDrift (reasonCode : DriftCode) (scope : ProjectionScope) (sequence : ℕ)
    (event : Option OutboxEnvelope := none) (expectedDigest observedDigest : Option Digest := none) : Step Unit := do
  let now ← (Prog.ask Call.now : Step Timestamp)
  if hid : isIdentifier projectorId = true then
    Prog.call (.record ⟨reasonCode,⟨projectorId,hid⟩,scope.aggregateType,scope.aggregateId,sequence,
      event.map (·.eventId),expectedDigest,observedDigest,true,now⟩) ofExcept
  else .raise ⟨.validationError,"projector_id"⟩

def failureResult (scope : ProjectionScope) (reasonCode : DriftCode)
    (checkpoint : Option ProjectionCheckpoint := none) (sequence : ℕ := 0) : Step ProjectionBatchResult := do
  recordDrift projectorId reasonCode scope sequence
  return { scope := scope
           status := if reasonCode = .graphApplyFailed ∨ reasonCode = .rebuildFailed then .failed else .drift
           checkpoint := checkpoint }

def readCheckpoint (scope : ProjectionScope) (fenceToken : ℤ) : Step ProjectionCheckpoint := do
  checkFence fenceToken
  match ← (Prog.call (.readCheckpoint scope) ofExcept : Step (Option ProjectionCheckpoint)) with
  | none => ofExcept (ProjectionCheckpoint.initialFor projectorId scope fenceToken)
  | some current =>
    if current.projectorId.1 ≠ projectorId ∨ current.scope ≠ scope then
      throw ⟨.projectionContractError,"checkpoint_scope_or_projector_mismatch"⟩
    if fenceToken < current.fenceToken then
      throw ⟨.checkpointConflict,"projection_fence_is_stale"⟩
    return current

/-- `persisted`: what the store is expected to hold, nothing before the first event. -/
def persistedOf (current : ProjectionCheckpoint) : Option ProjectionCheckpoint :=
  if 0 < current.lastSequence then some current else none

def openBatch (scope : ProjectionScope) (fenceToken limit : ℤ) : Step (ProjectionBatchResult ⊕ Batch) := do
  let opened ← guarded
    (do return Sum.inr (← readCheckpoint projectorId scope fenceToken))
    (do return .inl (← failureResult projectorId scope .checkpointFenceLost))
    (do return .inl (← failureResult projectorId scope .checkpointConflict))
  match opened with
  | .inl aborted => return .inl aborted
  | .inr current =>
    let failed := fun reason => failureResult projectorId scope reason (some current) (current.lastSequence + 1)
    let read ← guarded
      (do return Sum.inr (← (Prog.call (.readAfter scope current.lastSequence limit) ofExcept : Step (List PageItem))))
      (do return .inl (← failed .graphApplyFailed))
      (do return .inl (← failed .graphApplyFailed))
    match read with
    | .inl aborted => return .inl aborted
    | .inr events =>
      if limit < events.length then
        return .inl (← failed .sequenceGap)
      return .inr ⟨current,persistedOf current,events⟩

def validateEventIdentity (scope : ProjectionScope) (item : PageItem) (current : ProjectionCheckpoint)
    (persisted : Option ProjectionCheckpoint) : Step (EventStep ⊕ OutboxEnvelope) := do
  match item with
  | .other =>
    recordDrift projectorId .identityConflict scope (current.lastSequence + 1)
    return .inl ⟨none,true,current,persisted⟩
  | .envelope event =>
    if event.aggregateType ≠ scope.aggregateType ∨ event.aggregateId ≠ scope.aggregateId then
      recordDrift projectorId .scopeMismatch scope event.sequence (some event)
      return .inl ⟨some (outcomeOf .rejected event (some "scope_mismatch")),true,current,persisted⟩
    return .inr event

def classifyEventSequence (scope : ProjectionScope) (event : OutboxEnvelope) (current : ProjectionCheckpoint)
    (persisted : Option ProjectionCheckpoint) : Step (Option EventStep) := do
  if event.sequence ≤ current.lastSequence then
    if event.sequence = current.lastSequence ∧ some event.eventId = current.lastEventId ∧
        some event.eventDigest = current.lastEventDigest then
      return some ⟨some (outcomeOf .replayed event),false,current,persisted⟩
    recordDrift projectorId .identityConflict scope event.sequence (some event) current.lastEventDigest
      (some event.eventDigest)
    return some ⟨some (outcomeOf .conflict event (some "out_of_order_event")),true,current,persisted⟩
  if event.sequence ≠ current.lastSequence + 1 then
    recordDrift projectorId .sequenceGap scope event.sequence (some event)
    return some ⟨some (outcomeOf .gap event (some "sequence_gap")),true,current,persisted⟩
  return none

def checkReceipt (event : OutboxEnvelope) : Option GraphProjectionReceipt → Except Raised Unit
  | none => .error ⟨.projectionContractError,"graph_projection_receipt_invalid"⟩
  | some receipt =>
    if receipt.eventId ≠ event.eventId ∨ !(receipt.applied || receipt.replayed) then
      .error ⟨.projectionContractError,"graph_projection_receipt_mismatch"⟩
    else .ok ()

/-- The `try` block of `_apply_event`. -/
def applyAndSave (scope : ProjectionScope) (event : OutboxEnvelope) (current : ProjectionCheckpoint)
    (persisted : Option ProjectionCheckpoint) (fenceToken : ℤ) : Step ProjectionCheckpoint := do
  let receipt ← Prog.call (.applyEvent event fenceToken) ofExcept
  ofExcept (checkReceipt event receipt)
  let nextCheckpoint ← ofExcept (current.afterEvent event fenceToken)
  Prog.call (.saveCheckpoint scope persisted nextCheckpoint) ofExcept
  return nextCheckpoint

def applyEvent (scope : ProjectionScope) (event : OutboxEnvelope) (current : ProjectionCheckpoint)
    (persisted : Option ProjectionCheckpoint) (fenceToken : ℤ) : Step EventStep :=
  let stopped := fun status reasonCode drift => do
    recordDrift projectorId drift scope event.sequence (some event)
    return ⟨some (outcomeOf status event (some reasonCode)),true,current,persisted⟩
  guarded
    (do
      let nextCheckpoint ← applyAndSave scope event current persisted fenceToken
      return ⟨some (outcomeOf .applied event),false,nextCheckpoint,some nextCheckpoint⟩)
    (stopped .drift "checkpoint_conflict" .checkpointConflict)
    (stopped .failed "graph_apply_failed" .graphApplyFailed)

def stepEvent (scope : ProjectionScope) (item : PageItem) (current : ProjectionCheckpoint)
    (persisted : Option ProjectionCheckpoint) (fenceToken : ℤ) : Step EventStep := do
  match ← validateEventIdentity projectorId scope item current persisted with
  | .inl step => return step
  | .inr event =>
    match ← classifyEventSequence projectorId scope event current persisted with
    | some step => return step
    | none => applyEvent projectorId scope event current persisted fenceToken

def projectEvents (scope : ProjectionScope) (fenceToken : ℤ) :
    List PageItem → ProjectionCheckpoint → Option ProjectionCheckpoint → List ProjectionOutcome →
      Step (List ProjectionOutcome × ProjectionCheckpoint)
  | [], current, _, outcomes => return (outcomes,current)
  | item :: rest, current, persisted, outcomes => do
    let step ← stepEvent projectorId scope item current persisted fenceToken
    let outcomes := outcomes ++ step.outcome.toList
    if step.stop then return (outcomes,step.current)
    projectEvents scope fenceToken rest step.current step.persisted outcomes

def projectScope (scope : ProjectionScope) (fenceToken limit : ℤ) : Step ProjectionBatchResult := do
  checkLimit limit
  match ← openBatch projectorId scope fenceToken limit with
  | .inl aborted => return aborted
  | .inr batch =>
    let (outcomes,current) ← projectEvents projectorId scope fenceToken batch.events batch.current batch.persisted []
    let status := statusOf outcomes
    return { scope := scope, status := status, outcomes := outcomes, checkpoint := some current
             hasMore := batch.events.length = limit && status ∈ [.complete,.applied,.replayed] }

/-- The two resets of `rebuild_scope`, of the graph first. -/
def resetBoth (scope : ProjectionScope) (fenceToken : ℤ) : Step Unit := do
  Prog.call (.resetProjection scope fenceToken) ofExcept
  Prog.call (.resetCheckpoint scope fenceToken) ofExcept

/-- What `rebuild_scope` returns when a reset has raised. -/
def rebuildFailed (scope : ProjectionScope) : Step ProjectionBatchResult := do
  let current ← guarded (Prog.call (.readCheckpoint scope) ofExcept : Step (Option ProjectionCheckpoint))
    (return none) (return none)
  failureResult projectorId scope .rebuildFailed current

def rebuildScope (scope : ProjectionScope) (fenceToken limit : ℤ) : Step ProjectionBatchResult := do
  checkLimit limit
  let failed ← guarded
    (do
      resetBoth scope fenceToken
      return none)
    (do return some (← rebuildFailed projectorId scope))
    (do return some (← rebuildFailed projectorId scope))
  match failed with
  | some result => return result
  | none => projectScope projectorId scope fenceToken limit

end Service
end Arbora.Projection
