import Mathlib.Data.Rat.Defs

/-! Records of the durable scale-intent protocol. -/
namespace Arbora.Scaling

/-- A `datetime` argument: without a time zone, aware but outside the calendar once moved to
UTC, or an instant in microseconds since the epoch. -/
inductive DateTime where
  | naive
  | outside
  | utc (t : Int)
  deriving DecidableEq

def DateTime.instant : DateTime → Option Int
  | .utc t => some t
  | _ => none

inductive ErrorKind where
  | scaleIntentConflict | scaleLeaseUnavailable | scaleLeaseLost | scaleObservationConflict
  | valueError | typeError | overflowError
  deriving DecidableEq

/-- An exception raised by the protocol, with its text. -/
structure Raised where
  kind : ErrorKind
  message : String
  deriving DecidableEq

def maxRetryAttempts : Nat := 8
def maxDetailLength : Nat := 512
/-- `timedelta(seconds=MAX_LEASE_TTL_S)`. -/
def maxLeaseTtl : Int := 900 * 1000000

def aware (value : DateTime) (fieldName : String) : Except Raised Int :=
  match value with
  | .naive => .error ⟨.valueError,fieldName ++ " must be timezone-aware"⟩
  | .outside => .error ⟨.overflowError,"date value out of range"⟩
  | .utc t => .ok t

/-- The characters `str.strip` removes. -/
def isSpace (c : Char) : Bool :=
  let n := c.toNat
  (9 ≤ n && n ≤ 13) || (28 ≤ n && n ≤ 32) || n == 0x85 || n == 0xa0 || n == 0x1680 ||
    (0x2000 ≤ n && n ≤ 0x200a) || n == 0x2028 || n == 0x2029 || n == 0x202f || n == 0x205f ||
    n == 0x3000

def strip (value : String) : String :=
  String.ofList ((value.toList.dropWhile isSpace).reverse.dropWhile isSpace).reverse
private def isAlnum (c : Char) : Bool :=
  ('A' ≤ c && c ≤ 'Z') || ('a' ≤ c && c ≤ 'z') || ('0' ≤ c && c ≤ '9')

/-- `_IDENTIFIER_RE.fullmatch`. -/
def isIdentifier (value : String) : Bool :=
  match value.toList with
  | [] => false
  | c :: rest => isAlnum c && rest.length ≤ 255 &&
      rest.all fun d => isAlnum d || d == '.' || d == '_' || d == ':' || d == '/' || d == '-'

def identifier (value fieldName : String) : Except Raised String :=
  if isIdentifier (strip value) then .ok (strip value)
  else .error ⟨.valueError,fieldName ++ " must be a bounded identifier"⟩

inductive ScaleControllerMode where
  | native | delegated

inductive ScaleIntentState where
  | persisted | started | simulated | succeeded | failed | observed | verified | denied
  deriving DecidableEq

def ScaleIntentState.value : ScaleIntentState → String
  | .persisted => "persisted" | .started => "started" | .simulated => "simulated"
  | .succeeded => "succeeded" | .failed => "failed" | .observed => "observed"
  | .verified => "verified" | .denied => "denied"

inductive ScaleObservationStatus where
  | converged | failed | simulated
  deriving DecidableEq

structure ScaleFence where
  leaseId : String
  (leaseEpoch fenceToken : Nat)
  expiresAt : Int
  deriving DecidableEq

structure ScaleTargetBinding where
  (clusterId runtimeId workloadId targetUid targetResourceVersion : String)
  deriving DecidableEq

structure ScaleRetryPolicy where
  maxAttempts : Nat
  backoffS : Rat
  attemptsPos : 1 ≤ maxAttempts
  attemptsLe : maxAttempts ≤ maxRetryAttempts
  backoffBounds : 0 ≤ backoffS ∧ backoffS ≤ 3600

structure ScaleIntentRecord where
  intentId : String
  (intentRevision expectedUnitRevision desiredReplicas minReplicas maxReplicas : Nat)
  controllerMode : ScaleControllerMode
  (replicaWriterId executionKey : String)
  fence : ScaleFence
  target : ScaleTargetBinding
  reason : String
  retryPolicy : ScaleRetryPolicy
  createdAt : Int
  bounds : minReplicas ≤ desiredReplicas ∧ desiredReplicas ≤ maxReplicas

@[ext]
structure ControllerLease where
  (leaseInstanceId controllerId : String)
  fence : ScaleFence
  attempt : Nat
  (acquiredAt expiresAt : Int)
  attemptPos : 1 ≤ attempt
  times : acquiredAt < expiresAt

instance : DecidableEq ControllerLease := fun _ _ => decidable_of_iff _ ControllerLease.ext_iff.symm

structure ScaleActuationRequest where
  intentId : String
  (intentRevision expectedUnitRevision : Nat)
  executionKey : String
  desiredReplicas : Nat
  controllerMode : ScaleControllerMode
  replicaWriterId : String
  target : ScaleTargetBinding
  lease : ControllerLease
  dryRun : Bool

/-- `validate_result`: which states a result may have, and what each one claims. -/
def resultValid (state : ScaleIntentState) (scaled : Bool) (observedReplicas : Option Nat)
    (errorCode : Option String) : Bool :=
  match state with
  | .simulated => !scaled && errorCode.isNone
  | .succeeded => scaled && observedReplicas.isSome
  | .failed => !scaled && errorCode.isSome
  | _ => false

structure ScaleActuationResult where
  executionKey : String
  target : ScaleTargetBinding
  state : ScaleIntentState
  scaled : Bool
  observedReplicas : Option Nat := none
  retryable : Bool := false
  errorCode : Option String := none
  detail : String := ""
  actuatorOperationId : Option String := none
  valid : resultValid state scaled observedReplicas errorCode = true
  deriving DecidableEq

structure ScaleExecutionRecord where
  (executionId intentId : String)
  intentRevision : Nat
  executionKey : String
  target : ScaleTargetBinding
  state : ScaleIntentState
  attempt : Nat
  dryRun : Bool := false
  actuatorCalled : Bool := false
  scaled : Bool := false
  resultAttempt : Option Nat := none
  lease : Option ControllerLease := none
  result : Option ScaleActuationResult := none
  observationId : Option String := none
  identityDigest : String
  (createdAt updatedAt : Int)

/-- `validate_status`; a durable observation is always `verified`. -/
def observationValid (status : ScaleObservationStatus) (scaled : Bool) (observedReplicas : Option Nat) : Bool :=
  match status with
  | .converged => scaled && observedReplicas.isSome
  | .failed | .simulated => !scaled

structure ScaleObservation where
  (observationId executionKey intentId : String)
  intentRevision : Nat
  target : ScaleTargetBinding
  status : ScaleObservationStatus
  scaled : Bool
  observedReplicas : Option Nat
  outcomeDigest : String
  observedAt : Int
  detail : String
  valid : observationValid status scaled observedReplicas = true
  deriving DecidableEq

structure ScalePolicyDecision where
  decisionId : String
  allowed : Bool
  reason : String

structure BreakGlassAuthorization where
  (authorizationId actorId approvalRef reason : String)
  target : ScaleTargetBinding
  authorizedUntil : Int
  authorized : Bool

structure BreakGlassAudit where
  (auditId authorizationId intentId actorId approvalRef : String)
  target : ScaleTargetBinding
  reason : String
  (authorizedUntil recordedAt : Int)
  auditDigest : String

structure PersistedIntent where
  execution : ScaleExecutionRecord
  replayed : Bool

structure ScaleReconcileResult where
  state : ScaleIntentState
  replayed : Bool := false
  actuatorCalled : Bool := false
  scaled : Bool := false
  execution : ScaleExecutionRecord
  observation : Option ScaleObservation := none
  breakGlassAudit : Option BreakGlassAudit := none
  retryAfterS : Option Rat := none
  detail : String := ""

/-- SHA-256, and the three digests taken of it over JSON dumps of records. Nothing in
the protocol is proved from how they are computed. -/
structure Hashes where
  sha256 : String → String
  identityDigest : ScaleIntentRecord → String
  resultDigest : ScaleActuationResult → String
  auditDigest : String → BreakGlassAuthorization → String

def derivedId (H : Hashes) (keyKind value : String) : String :=
  let candidate := keyKind ++ ":" ++ value
  if isIdentifier candidate then candidate
  else keyKind ++ ":" ++ String.ofList ((H.sha256 value).toList.take 32)

theorem ScaleActuationResult.state_cases (r : ScaleActuationResult) :
    r.state = .simulated ∨ r.state = .succeeded ∨ r.state = .failed := by
  have hv := r.valid
  cases hs : r.state <;> simp_all [resultValid]

theorem ScaleActuationResult.not_verified (r : ScaleActuationResult) : r.state ≠ .verified := by
  rcases r.state_cases with h | h | h <;> rw [h] <;> decide

end Arbora.Scaling
