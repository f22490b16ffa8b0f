import Arbora.Lib.Sha256
import Mathlib.Algebra.Order.Ring.Rat

/-! Samples of the metrics path. -/
namespace Arbora.Signals

def isLetterOrDigit (c : Char) : Bool := ('A' ≤ c && c ≤ 'Z') || ('a' ≤ c && c ≤ 'z') || ('0' ≤ c && c ≤ '9')

/-- `_IDENTIFIER_RE` -/
def isIdentifier (text : String) : Bool :=
  match text.toList with
  | [] => false
  | c :: rest => isLetterOrDigit c && decide (rest.length ≤ 255) &&
      rest.all fun c => isLetterOrDigit c || c ∈ ['.','_',':','/','-']

/-- The words that give a credential away; the others that are looked for have a `=`, which no identifier has. -/
def isReference (text : String) : Bool :=
  isIdentifier text && !(text.toList.map Char.toLower).tails.any fun rest => "bearer".toList.isPrefixOf rest

/-- `_DIGEST_RE` -/
def isDigest (text : String) : Bool := decide (text.toList.length = 64) && text.toList.all Sha256.hexadecimal

abbrev Identifier := {text : String // isIdentifier text = true}
abbrev Reference := {text : String // isReference text = true}
abbrev Digest := {text : String // isDigest text = true}

inductive SignalKind where
  | cpu | ram | gpu | kvCache | disk | network | token | request | latency | queue | shard
  deriving DecidableEq

inductive SignalAggregation where
  | last | mean | max | p50 | p95 | p99 | rate | sum | count
  deriving DecidableEq

inductive SignalSourceKind where
  | prometheus | telemetry | engine | «local»
  deriving DecidableEq

structure SignalSample where
  sampleId : Identifier
  sampleDigest : Digest
  sourceId : Identifier
  sourceKind : SignalSourceKind
  sourceEpoch : ℕ
  authEvidenceRef : Reference
  (serviceScope tenantScope unitId : Identifier)
  signal : SignalKind
  aggregation : SignalAggregation
  value : ℚ
  (sampleTime eventTime : ℤ)
  (freshnessS confidence : ℚ)
  evidenceRef : Reference
  sequence : ℕ
  queryDigest : Digest
  epochPos : 1 ≤ sourceEpoch
  valueNonneg : 0 ≤ value
  fresh : 0 ≤ freshnessS ∧ freshnessS ≤ 300
  confident : 0 ≤ confidence ∧ confidence ≤ 1
  sequencePos : 1 ≤ sequence
  ordered : eventTime ≤ sampleTime

end Arbora.Signals
