import Arbora.Signals.Summaries

/-! The authenticated provider: one bounded page of a backend, each sample of it bound to the source and to the request. -/
namespace Arbora.Signals
open FloatingPoint (binary64 roundHalfEven)
open Checks (refuse found)

structure SignalSourceBinding where
  sourceId : Identifier
  sourceKind : SignalSourceKind
  (serviceScope tenantScope unitId : Identifier)
  sourceEpoch : ℕ
  authEvidenceRef : Reference
  epochPos : 1 ≤ sourceEpoch

/-- Deployment caps; every value is bounded by the global hard maximum. -/
structure SignalReadPolicy where
  maxQueryLength : ℕ
  (maxTimeoutS maxWindowS : ℚ)
  (maxPageSize maxBatchItems maxSignalKinds : ℕ)
  (maxFreshnessS maxFutureSkewS : ℚ)
  queryBounded : 1 ≤ maxQueryLength ∧ maxQueryLength ≤ Signals.maxQueryLength
  timeoutBounded : 0 < maxTimeoutS ∧ maxTimeoutS ≤ maxQueryTimeoutS
  windowBounded : 0 < maxWindowS ∧ maxWindowS ≤ maxQueryWindowS
  pageBounded : 1 ≤ maxPageSize ∧ maxPageSize ≤ Signals.maxPageSize
  itemsBounded : 1 ≤ maxBatchItems ∧ maxBatchItems ≤ Signals.maxBatchItems
  kindsBounded : 1 ≤ maxSignalKinds ∧ maxSignalKinds ≤ maxSignalKindsPerQuery
  freshnessBounded : 0 < maxFreshnessS ∧ maxFreshnessS ≤ maxSampleFreshnessS
  skewBounded : 0 ≤ maxFutureSkewS ∧ maxFutureSkewS ≤ Signals.maxFutureSkewS

def defaultPolicy : SignalReadPolicy where
  maxQueryLength := maxQueryLength
  maxTimeoutS := maxQueryTimeoutS
  maxWindowS := maxQueryWindowS
  maxPageSize := maxPageSize
  maxBatchItems := maxBatchItems
  maxSignalKinds := maxSignalKindsPerQuery
  maxFreshnessS := maxSampleFreshnessS
  maxFutureSkewS := maxFutureSkewS
  queryBounded := by decide
  timeoutBounded := by decide +kernel
  windowBounded := by decide +kernel
  pageBounded := by decide
  itemsBounded := by decide
  kindsBounded := by decide
  freshnessBounded := by decide +kernel
  skewBounded := by decide +kernel

/-- The longest window, in microseconds. -/
def SignalReadPolicy.window (policy : SignalReadPolicy) : ℤ :=
  ⌊policy.maxWindowS⌋ * 1000000 + roundHalfEven (binary64.nearest (1000000 * Int.fract policy.maxWindowS))

/-- What a backend answers; nothing stands for an object that is not a sample. -/
structure SignalBackendPage where
  samples : List (Option SignalSample)
  nextCursor : Option String
  hasMore : Bool
  snapshotDigest : String

structure AuthenticatedSignalProvider where
  backend : SignalReadRequest → Except SignalError (Option SignalBackendPage)
  binding : SignalSourceBinding
  policy : SignalReadPolicy
  verify : SignalSample → SignalSourceBinding → Bool
  replayGuard : ReplayGuard
  clock : ℕ → Option ℤ

/-- The authenticator of a provider that is given none. -/
def opaqueReference (sample : SignalSample) (binding : SignalSourceBinding) : Bool :=
  decide (sample.authEvidenceRef = binding.authEvidenceRef)

def validateCursorValue (value : String) : Except SignalError {text : String // isCursor text = true} :=
  if 256 < value.length then .error (.valueError "signal cursor exceeds the bounded length")
  else if h : isCursor value = true then .ok ⟨value,h⟩
  else .error (.valueError "signal cursor contains unsupported characters")

def validateCursor : Option String → Except SignalError (Option {text : String // isCursor text = true})
  | none => .ok none
  | some value => some <$> validateCursorValue value

def asValidation (model : String) : SignalError → SignalError
  | .valueError message => .validation model message
  | .validation inner message => .validation inner message

def newSignalPage (request : SignalReadRequest) (snapshotDigest : Digest) (samples : List SignalSample)
    (nextCursor : Option String) (hasMore : Bool) : Except SignalError SignalPage := do
  let cursor ← (validateCursor nextCursor).mapError (asValidation "SignalPage")
  if hagree : hasMore = cursor.isSome then
    if hbounded : samples.length ≤ maxPageSize then
      .ok ⟨request.requestId,request.sourceId,snapshotDigest,samples,cursor,hasMore,hagree,hbounded⟩
    else .error (.validation "SignalPage" "signal page exceeds the bounded cardinality")
  else .error (.validation "SignalPage" "has_more and next_cursor must agree")

def validateBackendPage (page : SignalBackendPage) (request : SignalReadRequest) : Except SignalError Digest :=
  if h : isDigest page.snapshotDigest = true then do
    refuse (request.snapshotDigest ≠ none ∧ some ⟨page.snapshotDigest,h⟩ ≠ request.snapshotDigest)
      (.valueError "signal backend changed snapshots during pagination")
    refuse (page.hasMore ≠ page.nextCursor.isSome) (.valueError "backend page cursor/has_more contract is invalid")
    let _ ← validateCursor page.nextCursor
    .ok ⟨page.snapshotDigest,h⟩
  else .error (.valueError "snapshot_digest must be a 64-character lowercase digest")

namespace AuthenticatedSignalProvider
variable (provider : AuthenticatedSignalProvider) (request : SignalReadRequest)

def checkBindingScope : Except SignalError Unit := do
  refuse (request.sourceId ≠ provider.binding.sourceId) (.valueError "signal request source is not authenticated")
  refuse (request.serviceScope ≠ provider.binding.serviceScope) (.valueError "signal request crosses service scope")
  refuse (request.tenantScope ≠ provider.binding.tenantScope) (.valueError "signal request crosses tenant scope")
  refuse (request.unitId ≠ provider.binding.unitId) (.valueError "signal request crosses scale-unit scope")

def checkRequestPolicyLimits : Except SignalError Unit := do
  refuse (provider.policy.maxQueryLength < (Base64.utf8 request.query.1).length)
    (.valueError "signal query exceeds policy length")
  refuse (provider.policy.maxTimeoutS < request.timeoutS) (.valueError "signal query timeout exceeds policy")
  refuse (provider.policy.maxPageSize < request.pageSize) (.valueError "signal page exceeds policy cardinality")
  refuse (provider.policy.maxBatchItems < request.maxItems) (.valueError "signal batch exceeds policy cardinality")
  refuse (provider.policy.maxSignalKinds < request.signals.length)
    (.valueError "signal vocabulary exceeds policy cardinality")
  refuse (provider.policy.window < request.windowEnd - request.windowStart)
    (.valueError "signal query window exceeds policy duration")

def checkSampleIdentityBinding (sample : SignalSample) : Except SignalError Unit := do
  refuse (sample.sourceId ≠ provider.binding.sourceId) (.valueError "signal sample source is not authenticated")
  refuse (sample.sourceKind ≠ provider.binding.sourceKind) (.valueError "signal sample source kind is not authenticated")
  refuse (sample.sourceEpoch ≠ provider.binding.sourceEpoch) (.valueError "signal sample source epoch is stale")
  refuse (sample.authEvidenceRef ≠ provider.binding.authEvidenceRef)
    (.valueError "signal sample attestation does not match source")

def checkSampleScopeAndVocabulary (sample : SignalSample) : Except SignalError Unit := do
  refuse (sample.serviceScope ≠ request.serviceScope ∨ sample.tenantScope ≠ request.tenantScope ∨
    sample.unitId ≠ request.unitId) (.valueError "signal sample crosses an authenticated scope")
  refuse (sample.signal ∉ request.signals) (.valueError "signal sample is outside the requested vocabulary")
  refuse (sample.aggregation ≠ request.aggregation) (.valueError "signal sample aggregation differs from request")
  refuse (sample.queryDigest ≠ request.queryDigest) (.valueError "signal sample is bound to a different query")

def checkSampleFreshnessAndWindow (reading : Option ℤ) (sample : SignalSample) : Except SignalError Unit := do
  let now ← found reading (.valueError "clock must be timezone-aware")
  let age := binary64.nearest ((now - sample.sampleTime : ℤ) / 1000000)
  refuse (age < -provider.policy.maxFutureSkewS) (.valueError "signal sample timestamp is from the future")
  refuse (provider.policy.maxFreshnessS < age ∨ provider.policy.maxFreshnessS < sample.freshnessS)
    (.valueError "stale signal sample")
  refuse (sample.sampleTime < request.windowStart ∨ request.windowEnd < sample.sampleTime)
    (.valueError "signal sample is outside the requested window")

def validateSample (reading : Option ℤ) (sample : SignalSample) : Except SignalError Unit := do
  provider.checkSampleIdentityBinding sample
  checkSampleScopeAndVocabulary request sample
  refuse (provider.verify sample provider.binding = false) (.valueError "signal sample authentication failed")
  provider.checkSampleFreshnessAndWindow request reading sample

def validatedBatchSamples : List SignalSample → List (Option SignalSample) → Except SignalError (List SignalSample)
  | samples, [] => do
    refuse (request.maxItems < samples.length) (.valueError "signal backend exceeded batch cardinality")
    .ok samples
  | samples, read :: rest => do
    refuse (request.pageSize ≤ samples.length) (.valueError "signal backend exceeded page cardinality")
    let sample ← found read (.valueError "signal backend returned an invalid sample")
    provider.validateSample request (provider.clock samples.length) sample
    validatedBatchSamples (samples ++ [sample]) rest

def admittedSamples : Except SignalError (SignalBackendPage × Digest × List SignalSample) := do
  provider.checkBindingScope request
  provider.checkRequestPolicyLimits request
  let answer ← provider.backend request
  let backendPage ← found answer (.valueError "signal backend returned an invalid page")
  let snapshotDigest ← validateBackendPage backendPage request
  let samples ← provider.validatedBatchSamples request [] backendPage.samples
  .ok (backendPage,snapshotDigest,samples)

def readBatch (ids : Order (SourceKey × Identifier)) (digests : Order (SourceKey × Digest)) :
    Except SignalError SignalPage × ReplayGuard :=
  match provider.admittedSamples request with
  | .error e => (.error e,provider.replayGuard)
  | .ok (backendPage,snapshotDigest,samples) =>
    match provider.replayGuard.accept ⟨samples,ids,digests⟩ with
    | (false,replayGuard) => (.error (.valueError "replayed or out-of-order signal sample"),replayGuard)
    | (true,replayGuard) =>
      (newSignalPage request snapshotDigest samples backendPage.nextCursor backendPage.hasMore,replayGuard)

end AuthenticatedSignalProvider

end Arbora.Signals
