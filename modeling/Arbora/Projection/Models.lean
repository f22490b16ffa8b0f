import Arbora.Lib.Json
import Arbora.Lib.Sha256

/-! Records of the control-plane projection. The identity of an event is derived from its content, as are those of a
checkpoint, which are left out here; of an event's body there is the digest alone, since the projector reads nothing
else of it. -/
namespace Arbora.Projection
open Json (natural sorted)

def maxBatchSize : ℕ := 256
def isLetter (c : Char) : Bool := ('A' ≤ c && c ≤ 'Z') || ('a' ≤ c && c ≤ 'z')
def isIdentifierChar (c : Char) : Bool :=
  isLetter c || ('0' ≤ c && c ≤ '9') || c == '.' || c == '_' || c == ':' || c == '/' || c == '@' || c == '+' || c == '-'

/-- `_IDENTIFIER_RE` and `_EVENT_TYPE_RE`, up to their lengths. -/
def isName (most : ℕ) (text : String) : Bool :=
  match text.toList with
  | [] => false
  | c :: rest => isLetter c && decide (rest.length < most) && rest.all isIdentifierChar

def isIdentifier (text : String) : Bool := isName 192 text

/-- `_DIGEST_RE` -/
def isDigest (text : String) : Bool :=
  decide (text.toList.take 7 = "sha256:".toList) && decide ((text.toList.drop 7).length = 64) &&
    (text.toList.drop 7).all Sha256.hexadecimal

abbrev Identifier := {text : String // isIdentifier text = true}
abbrev EventType := {text : String // isName 96 text = true}
abbrev Digest := {text : String // isDigest text = true}
abbrev Timestamp := ℤ

theorem isIdentifier_of_hexadecimal {label : Char} {rest hex : List Char} (hlabel : isLetter label = true)
    (hrest : rest.all isIdentifierChar = true) (hshort : rest.length < 128) (hlength : hex.length = 64)
    (hhex : hex.all Sha256.hexadecimal = true) : isIdentifier (String.ofList (label :: rest ++ hex)) = true := by
  have hchars : hex.all isIdentifierChar = true := by
    rw [List.all_eq_true] at hhex ⊢
    intro c hc
    have := hhex c hc
    simp only [Sha256.hexadecimal,Bool.or_eq_true,Bool.and_eq_true,decide_eq_true_eq] at this
    rcases this with h | h
    · simp [isIdentifierChar,h]
    · have hletter : isLetter c = true := by
        simp only [isLetter,Bool.or_eq_true,Bool.and_eq_true,decide_eq_true_eq]
        exact .inr ⟨h.1,h.2.trans (by decide)⟩
      simp [isIdentifierChar,hletter]
  unfold isIdentifier isName
  rw [String.toList_ofList,List.cons_append]
  simp only [hlabel,List.length_append,hlength,List.all_append,hrest,hchars,Bool.and_true,Bool.true_and,
    decide_eq_true_eq]
  omega

/-- One aggregate partition with a cursor of its own. -/
structure ProjectionScope where
  (aggregateType aggregateId : Identifier)
  scopeRef : Option Identifier := none
  deriving DecidableEq

inductive EventOperation where
  | upsert | tombstone
  deriving DecidableEq

def EventOperation.value : EventOperation → String
  | .upsert => "upsert" | .tombstone => "tombstone"

structure OutboxEnvelope where
  aggregateType : Identifier
  aggregateId : Identifier
  sequence : ℕ
  eventType : EventType
  operation : EventOperation
  payloadDigest : Digest
  aggregateDigest : Digest
  eventDigest : Digest
  positive : 1 ≤ sequence

/-- `event_id_for`; the text that is hashed has ASCII characters only. -/
@[irreducible] def OutboxEnvelope.eventId (event : OutboxEnvelope) : Identifier :=
  ⟨String.ofList ('e' :: "vent:".toList ++ Sha256.hexdigest ((Json.write (sorted [
      ("aggregate_digest",.string event.aggregateDigest),("aggregate_id",.string event.aggregateId),
      ("aggregate_type",.string event.aggregateType),("event_type",.string event.eventType),
      ("operation",.string event.operation.value),("payload_digest",.string event.payloadDigest),
      ("sequence",natural event.sequence)])).map Char.toNat)),
    isIdentifier_of_hexadecimal (by decide) (by decide) (by decide) (Sha256.length_hexdigest _)
      (Sha256.hexadecimal_hexdigest _)⟩

def ProjectionScope.Covers (scope : ProjectionScope) (event : OutboxEnvelope) : Prop :=
  event.aggregateType = scope.aggregateType ∧ event.aggregateId = scope.aggregateId

instance (scope : ProjectionScope) (event : OutboxEnvelope) : Decidable (scope.Covers event) :=
  inferInstanceAs (Decidable (_ ∧ _))

structure GraphProjectionReceipt where
  eventId : Identifier
  applied : Bool
  replayed : Bool := false

/-- What makes an adapter call or the service itself raise. -/
inductive ErrorKind where
  | checkpointConflict | projectionContractError | valueError | validationError
  /-- any other `Exception` -/
  | exception
  /-- a `BaseException` that no handler of the service catches -/
  | interrupt

structure Raised where
  kind : ErrorKind
  text : String

structure ProjectionCheckpoint where
  projectorId : Identifier
  scope : ProjectionScope
  lastSequence : ℕ
  lastEventId : Option Identifier := none
  lastEventDigest : Option Digest := none
  fenceToken : ℤ
  fenced : 1 ≤ fenceToken
  initial : lastSequence = 0 → lastEventId = none ∧ lastEventDigest = none
  advanced : 0 < lastSequence → lastEventId.isSome = true ∧ lastEventDigest.isSome = true
  deriving DecidableEq

/-- `ProjectionCheckpoint.initial`; the service hands over whatever text it has for an identity. -/
def ProjectionCheckpoint.initialFor (projectorId : String) (scope : ProjectionScope) (fenceToken : ℤ) :
    Except Raised ProjectionCheckpoint :=
  if hid : isIdentifier projectorId = true then
    if hf : 1 ≤ fenceToken then
      .ok { projectorId := ⟨projectorId,hid⟩, scope := scope, lastSequence := 0, fenceToken := fenceToken, fenced := hf
            initial := fun _ => ⟨rfl,rfl⟩, advanced := by intro h; omega }
    else .error ⟨.validationError,"fence_token"⟩
  else .error ⟨.validationError,"projector_id"⟩

def ProjectionCheckpoint.naming (prior : ProjectionCheckpoint) (event : OutboxEnvelope) (fenceToken : ℤ)
    (hf : 1 ≤ fenceToken) : ProjectionCheckpoint where
  projectorId := prior.projectorId
  scope := prior.scope
  lastSequence := event.sequence
  lastEventId := some event.eventId
  lastEventDigest := some event.eventDigest
  fenceToken := fenceToken
  fenced := hf
  initial := by
    intro h
    have := event.positive
    omega
  advanced := fun _ => ⟨rfl,rfl⟩

def ProjectionCheckpoint.afterEvent (prior : ProjectionCheckpoint) (event : OutboxEnvelope) (fenceToken : ℤ) :
    Except Raised ProjectionCheckpoint :=
  if event.sequence ≠ prior.lastSequence + 1 then .error ⟨.valueError,"checkpoint_event_must_be_next_sequence"⟩
  else if ¬ prior.scope.Covers event then .error ⟨.valueError,"checkpoint_event_scope_mismatch"⟩
  else if hf : 1 ≤ fenceToken then .ok (prior.naming event fenceToken hf)
  else .error ⟨.validationError,"fence_token"⟩

theorem ProjectionCheckpoint.afterEvent_ok {prior next : ProjectionCheckpoint} {event : OutboxEnvelope} {fenceToken : ℤ}
    (h : prior.afterEvent event fenceToken = .ok next) :
    event.sequence = prior.lastSequence + 1 ∧ prior.scope.Covers event ∧
      ∃ hf : 1 ≤ fenceToken, next = prior.naming event fenceToken hf := by
  unfold afterEvent at h
  split_ifs at h with hs hc hf
  · cases h
    exact ⟨not_not.mp hs,hc,hf,rfl⟩

inductive OutcomeStatus where
  | applied | replayed | rejected | gap | conflict | failed | drift | cleaned
  deriving DecidableEq

structure ProjectionOutcome where
  status : OutcomeStatus
  (aggregateType aggregateId : Identifier)
  sequence : ℕ
  eventId : Identifier
  reasonCode : Option String

inductive DriftCode where
  | graphApplyFailed | checkpointConflict | checkpointFenceLost | sequenceGap | identityConflict | scopeMismatch
  | tombstoneCleanupFailed | rebuildFailed | reverseSyncRejected
  deriving DecidableEq

structure DriftRecord where
  reasonCode : DriftCode
  (projectorId aggregateType aggregateId : Identifier)
  sequence : ℕ
  eventId : Option Identifier
  (expectedDigest observedDigest : Option Digest)
  repairable : Bool
  recordedAt : Timestamp

end Arbora.Projection
