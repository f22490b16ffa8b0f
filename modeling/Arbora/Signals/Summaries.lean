import Arbora.Economics.Models
import Arbora.Lib.Base64
import Arbora.Lib.Checks
import Arbora.Lib.Binary64
import Arbora.Signals.ReplayGuard

/-! Requests for signals, the pages that answer them, and the summary of a page with the evidence of its query. -/
namespace Arbora.Signals
open Arbora.Economics (foldCase isSpace)
open FloatingPoint (binary64)
open Keyset (sortBy)
open Checks (refuse)

inductive SignalError where
  | valueError (message : String)
  | validation (model message : String)
  deriving DecidableEq

def maxQueryLength : ℕ := 4096
def maxQueryTimeoutS : ℚ := 10
def maxQueryWindowS : ℚ := 86400
def maxPageSize : ℕ := 256
def maxSignalKindsPerQuery : ℕ := 16
def maxSampleFreshnessS : ℚ := 300
def maxFutureSkewS : ℚ := 30

def SignalKind.value : SignalKind → String
  | .cpu => "cpu" | .ram => "ram" | .gpu => "gpu" | .kvCache => "kv_cache" | .disk => "disk" | .network => "network"
  | .token => "token" | .request => "request" | .latency => "latency" | .queue => "queue" | .shard => "shard"

/-- A word, then blanks, then an equals sign. -/
def assigns (text : List Char) (word : String) : Bool :=
  word.toList.isPrefixOf text && ((text.drop word.length).dropWhile isSpace).head? == some '='

/-- What `_SENSITIVE_QUERY_RE` finds. -/
def isSensitiveQuery (query : String) : Bool :=
  (query.toList.map foldCase).tails.any fun rest =>
    "authorization".toList.isPrefixOf rest ||
    ("bearer".toList.isPrefixOf rest && (rest.drop 6).head?.any isSpace) ||
    ["password","secret","token","apikey","api_key","api-key","privatekey","private_key","private-key",
      "credential"].any (assigns rest)

/-- `_validate_query` -/
def isQuery (query : String) : Bool :=
  query.toList.any (fun c => !isSpace c) && decide ((Base64.utf8 query).length ≤ maxQueryLength) &&
    query.toList.all (fun c => 32 ≤ c.toNat || c == '\t') && !isSensitiveQuery query

/-- `_CURSOR_RE` -/
def isCursor (text : String) : Bool :=
  decide (1 ≤ text.length ∧ text.length ≤ 256) &&
    text.toList.all fun c => isLetterOrDigit c || c ∈ ['.','_',':','/','-']

theorem isDigest_hexdigest (bytes : List ℕ) : isDigest (String.ofList (Sha256.hexdigest bytes)) = true := by
  simp [isDigest,Sha256.length_hexdigest,Sha256.hexadecimal_hexdigest]

def hashOf (bytes : List ℕ) : Digest := ⟨String.ofList (Sha256.hexdigest bytes),isDigest_hexdigest bytes⟩
def queryDigest (query : String) : Digest := hashOf (Base64.utf8 query)
def windowMicros : ℤ := 86400 * 1000000

structure SignalReadRequest where
  (requestId sourceId serviceScope tenantScope unitId : Identifier)
  signals : List SignalKind
  aggregation : SignalAggregation
  query : {text : String // isQuery text = true}
  queryDigest : Digest
  (windowStart windowEnd : ℤ)
  timeoutS : ℚ
  (pageSize maxItems : ℕ)
  cursor : Option {text : String // isCursor text = true}
  snapshotDigest : Option Digest
  bound : queryDigest = Signals.queryDigest query.1
  vocabulary : 1 ≤ signals.length ∧ signals.length ≤ maxSignalKindsPerQuery
  signalsUnique : signals.Nodup
  window : windowStart < windowEnd ∧ windowEnd - windowStart ≤ windowMicros
  timeout : 0 < timeoutS ∧ timeoutS ≤ maxQueryTimeoutS
  pageBounded : 1 ≤ pageSize ∧ pageSize ≤ maxPageSize
  itemsBounded : pageSize ≤ maxItems ∧ maxItems ≤ maxBatchItems

structure SignalPage where
  (requestId sourceId : Identifier)
  snapshotDigest : Digest
  samples : List SignalSample
  nextCursor : Option {text : String // isCursor text = true}
  hasMore : Bool
  agree : hasMore = nextCursor.isSome
  bounded : samples.length ≤ maxPageSize

/-- The arithmetic of an aggregation; nothing stands for an infinite result. -/
structure Arithmetic where
  sum : List ℚ → Option ℚ
  share : ℚ → ℕ → Option ℚ

def exactly : Arithmetic := ⟨fun values => some values.sum,fun total count => some (total / count)⟩
def floats : Arithmetic := ⟨binary64.sum,fun total count => binary64.round (total / count)⟩

structure SignalSummary where
  summaryId : Identifier
  summaryDigest : Digest
  sourceId : Identifier
  sourceKind : SignalSourceKind
  serviceScope : Identifier
  tenantScope : Identifier
  unitId : Identifier
  signal : SignalKind
  aggregation : SignalAggregation
  value : ℚ
  sampleCount : ℕ
  freshnessS : ℚ
  confidence : ℚ
  evidenceRef : Reference
  queryDigest : Digest
  windowStart : ℤ
  windowEnd : ℤ
  valueNonneg : 0 ≤ value
  counted : 1 ≤ sampleCount ∧ sampleCount ≤ maxBatchItems
  fresh : 0 ≤ freshnessS ∧ freshnessS ≤ maxSampleFreshnessS
  confident : 0 ≤ confidence ∧ confidence ≤ 1
  window : windowStart < windowEnd

structure SignalDecisionEvidence where
  requestId : Identifier
  query : {text : String // isQuery text = true}
  queryDigest : Digest
  summaryDigest : Digest
  snapshotDigest : Digest
  windowStart : ℤ
  windowEnd : ℤ
  sampleCount : ℕ
  counted : 1 ≤ sampleCount ∧ sampleCount ≤ maxBatchItems
  bound : queryDigest = Signals.queryDigest query.1
  window : windowStart < windowEnd

def validateSignalPageBinding (request : SignalReadRequest) (page : SignalPage) : Except SignalError Unit := do
  refuse (page.requestId ≠ request.requestId ∨ page.sourceId ≠ request.sourceId)
    (.valueError "signal page is not bound to the request")
  refuse (some page.snapshotDigest ≠ request.snapshotDigest ∧ request.snapshotDigest ≠ none)
    (.valueError "signal page snapshot differs from request")
  refuse (page.hasMore = true) (.valueError "cannot summarize an incomplete signal page")

def validateSignalPageSamples (request : SignalReadRequest) (page : SignalPage) (first : SignalSample) :
    Except SignalError Unit := do
  refuse ((∃ s ∈ page.samples, s.signal ≠ first.signal) ∨ first.signal ∉ request.signals)
    (.valueError "signal page contains mixed or unrequested signals")
  refuse (∃ s ∈ page.samples, s.aggregation ≠ request.aggregation)
    (.valueError "signal page aggregation differs from request")

/-- The index of a percentile among so many values, in floating point. -/
def percentileIndex (percent count : ℕ) : ℕ :=
  min (count - 1) (⌈binary64.nearest (binary64.nearest (percent / 100) * count)⌉.toNat - 1)

def aggregateSignalValue (arithmetic : Arithmetic) (aggregation : SignalAggregation) (samples : List SignalSample) :
    Option ℚ :=
  let values := samples.map (·.value)
  let mean := (arithmetic.sum values).bind fun total => arithmetic.share total values.length
  match aggregation with
  | .last => (sortBy (·.sampleTime) samples).getLast?.map (·.value)
  | .mean => mean
  | .max => values.max?
  | .p50 => (sortBy (fun v => v) values)[percentileIndex 50 values.length]?
  | .p95 => (sortBy (fun v => v) values)[percentileIndex 95 values.length]?
  | .p99 => (sortBy (fun v => v) values)[percentileIndex 99 values.length]?
  | .sum => arithmetic.sum values
  | .count => some values.length
  | .rate => mean

def digestMaterial (request : SignalReadRequest) (page : SignalPage) : List Char :=
  List.intercalate ['|'] ((request.queryDigest.1 :: page.snapshotDigest.1 ::
    sortBy (fun text => text) (page.samples.map (·.sampleDigest.1))).map String.toList)

def summaryDigest (request : SignalReadRequest) (page : SignalPage) : Digest :=
  hashOf ((digestMaterial request page).map Char.toNat)

def summaryIdText (first : SignalSample) (digest : Digest) : String :=
  String.ofList ("summary:".toList ++ first.unitId.1.toList ++ ':' :: first.signal.value.toList ++
    ':' :: digest.1.toList.take 16)

def evidenceRefText (digest : Digest) : String := String.ofList ("evidence:summary:".toList ++ digest.1.toList.take 24)

/-- `_build_signal_summary`, with what the validators of the summary demand -/
def buildSignalSummary (request : SignalReadRequest) (page : SignalPage) (first : SignalSample) (value : Option ℚ)
    (digest : Digest) : Except SignalError SignalSummary :=
  let freshness := (page.samples.map (·.freshnessS)).max?.getD 0
  let confidence := (page.samples.map (·.confidence)).min?.getD 0
  if hid : isIdentifier (summaryIdText first digest) = true then
    match value with
    | none => .error (.validation "SignalSummary" "summary value must be finite and non-negative")
    | some value =>
      if hvalue : 0 ≤ value then
        if hcount : 1 ≤ page.samples.length ∧ page.samples.length ≤ maxBatchItems then
          if hfresh : 0 ≤ freshness ∧ freshness ≤ maxSampleFreshnessS then
            if hconfident : 0 ≤ confidence ∧ confidence ≤ 1 then
              if hevidence : isReference (evidenceRefText digest) = true then
                .ok {
                  summaryId := ⟨summaryIdText first digest,hid⟩
                  summaryDigest := digest
                  sourceId := first.sourceId
                  sourceKind := first.sourceKind
                  serviceScope := first.serviceScope
                  tenantScope := first.tenantScope
                  unitId := first.unitId
                  signal := first.signal
                  aggregation := first.aggregation
                  value := value
                  sampleCount := page.samples.length
                  freshnessS := freshness
                  confidence := confidence
                  evidenceRef := ⟨evidenceRefText digest,hevidence⟩
                  queryDigest := request.queryDigest
                  windowStart := request.windowStart
                  windowEnd := request.windowEnd
                  valueNonneg := hvalue
                  counted := hcount
                  fresh := hfresh
                  confident := hconfident
                  window := request.window.1 }
              else .error (.validation "SignalSummary" "evidence_ref")
            else .error (.validation "SignalSummary" "confidence")
          else .error (.validation "SignalSummary" "freshness_s")
        else .error (.validation "SignalSummary" "sample_count")
      else .error (.validation "SignalSummary" "summary value must be finite and non-negative")
  else .error (.validation "SignalSummary" "summary_id must be a bounded identifier")

def decisionEvidence (request : SignalReadRequest) (page : SignalPage) (summary : SignalSummary) :
    SignalDecisionEvidence where
  requestId := request.requestId
  query := request.query
  queryDigest := request.queryDigest
  summaryDigest := summary.summaryDigest
  snapshotDigest := page.snapshotDigest
  windowStart := request.windowStart
  windowEnd := request.windowEnd
  sampleCount := summary.sampleCount
  counted := summary.counted
  bound := request.bound
  window := request.window.1

def summarizeSignalPage (arithmetic : Arithmetic) (request : SignalReadRequest) (page : SignalPage) :
    Except SignalError (Option (SignalSummary × SignalDecisionEvidence)) := do
  validateSignalPageBinding request page
  match page.samples with
  | [] => .ok none
  | first :: _ => do
    validateSignalPageSamples request page first
    let value := aggregateSignalValue arithmetic request.aggregation page.samples
    let summary ← buildSignalSummary request page first value (summaryDigest request page)
    .ok (some (summary,decisionEvidence request page summary))

end Arbora.Signals
