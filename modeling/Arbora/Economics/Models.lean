import Arbora.Lib.Keyset
import Arbora.Placement.Place

/-! Usage facts, price cards, windows and their summaries. -/
namespace Arbora.Economics
open Arbora.Scaling (Ref Digest sensitiveWords)
open Arbora.Placement (Instant civil padded isoformat refDocument isCurrency isBoundedRef isDigest_of_hexadecimal)
open Json (Document natural sorted orNull)
open Keyset (sortBy strict_sortBy length_sortBy)

def maxDimensions : ℕ := 16
def maxFactQuantity : ℕ := 10 ^ 15
def maxPageSize : ℕ := 500
def maxFactIdsPerAggregate : ℕ := 100000
def maxMetricKinds : ℕ := 8

inductive RefusalKind where
  | validation | valueError | contractError | conflict | tenantScope
  deriving DecidableEq

structure Refusal where
  kind : RefusalKind
  message : String
  deriving DecidableEq

def hashOf (document : Document) : List Char := Sha256.hexdigest ((Json.writeAscii document).map Char.toNat)

def contentDigest (document : Document) : Digest :=
  ⟨String.ofList ("sha256:".toList ++ hashOf document),
    isDigest_of_hexadecimal (Sha256.length_hexdigest _) (Sha256.hexadecimal_hexdigest _)⟩

def identityOf (label : String) (document : Document) : String :=
  String.ofList (label.toList ++ (hashOf document).take 32)
def digestOf (kind : String) (identity : Document) : Digest :=
  contentDigest (sorted [("kind",.string kind),("identity",identity)])

/-- The text of an instant, which may be the end of the last window. -/
def timeText (zone : String) (t : ℤ) : String :=
  let seconds := t / 1000000
  let micros := t % 1000000
  let (year,month,day) := civil (seconds / 86400)
  let fraction := if micros = 0 then [] else '.' :: padded 6 micros
  String.ofList (padded 4 year ++ '-' :: padded 2 month ++ '-' :: padded 2 day ++ 'T' ::
    padded 2 (seconds / 3600 % 24) ++ ':' :: padded 2 (seconds / 60 % 60) ++ ':' :: padded 2 (seconds % 60) ++
    fraction ++ zone.toList)

theorem isoformat_eq (zone : String) (t : Instant) : isoformat zone t = timeText zone t.1 := rfl

def timeDocument (t : Instant) : Document := .string (isoformat "+00:00" t)

/-- How a search that ignores case reads a character. -/
def foldCase (c : Char) : Char :=
  if c = 'ſ' then 's' else if c = '\u212a' then 'k' else if c = 'İ' ∨ c = 'ı' then 'i' else c.toLower

/-- Whether `_SENSITIVE_RE` finds something. -/
def isSensitive (text : String) : Bool :=
  sensitiveWords.any fun word => (text.toList.map foldCase).tails.any (word.toList.isPrefixOf ·)

/-- What `str.isspace` holds of. -/
def isSpace (c : Char) : Bool :=
  let n := c.toNat
  (9 ≤ n && n ≤ 13) || (28 ≤ n && n ≤ 32) || n == 133 || n == 160 || n == 5760 || (8192 ≤ n && n ≤ 8202) ||
    n == 8232 || n == 8233 || n == 8239 || n == 8287 || n == 12288

def isDimensionKey (text : String) : Bool :=
  match text.toList with
  | [] => false
  | c :: rest => ('a' ≤ c && c ≤ 'z') && decide (rest.length ≤ 63) && !isSensitive text &&
      rest.all fun c => ('a' ≤ c && c ≤ 'z') || ('0' ≤ c && c ≤ '9') || c == '_' || c == '.' || c == '-'

def isDimensionValue (text : String) : Bool :=
  decide (text.length ≤ 256) && text.toList.any (fun c => !isSpace c) && !isSensitive text

abbrev IdRef (length : ℕ) := {text : String // isBoundedRef length text = true}

inductive MetricKind where
  | tokens | requests | latencyMs | computeMs | storageBytes | errors | queueMs | ingestRows
  deriving DecidableEq

def MetricKind.value : MetricKind → String
  | .tokens => "tokens" | .requests => "requests" | .latencyMs => "latency_ms" | .computeMs => "compute_ms"
  | .storageBytes => "storage_bytes" | .errors => "errors" | .queueMs => "queue_ms" | .ingestRows => "ingest_rows"

theorem MetricKind.value_injective : Function.Injective MetricKind.value := by
  intro a b
  cases a <;> cases b <;> decide

@[ext] structure DimensionRef where
  key : {text : String // isDimensionKey text = true}
  value : {text : String // isDimensionValue text = true}

def DimensionRef.document (d : DimensionRef) : Document := sorted [("key",.string d.key),("value",.string d.value)]

structure AllocationRef where
  tenantId : Ref
  projectRef : Ref
  costCenterRef : Ref
  workloadRef : Option Ref
  deriving DecidableEq

def AllocationRef.document (a : AllocationRef) : Document := sorted <| [
  ("tenant_id",refDocument a.tenantId),("project_ref",refDocument a.projectRef),
  ("cost_center_ref",refDocument a.costCenterRef)] ++ (a.workloadRef.map fun w => ("workload_ref",refDocument w)).toList

@[ext] structure UsageFact where
  tenantId : Ref
  allocation : AllocationRef
  sourceRef : Ref
  sourceDigest : Digest
  occurredAt : Instant
  metric : MetricKind
  quantity : ℕ
  inputQuantity : Option ℕ
  outputQuantity : Option ℕ
  serviceRef : Ref
  meterRef : Ref
  sampleSequence : Option ℕ
  dimensions : List DimensionRef
  quantityBounded : quantity ≤ maxFactQuantity
  partsBounded : ∀ part ∈ [inputQuantity,outputQuantity], ∀ q ∈ part, q ≤ maxFactQuantity
  sequenceBounded : ∀ n ∈ sampleSequence, n < 2 ^ 63
  dimensionsBounded : dimensions.length ≤ maxDimensions
  sameTenant : allocation.tenantId = tenantId
  keysUnique : (dimensions.map (·.key)).Nodup
  tokenParts : metric = .tokens → inputQuantity.isSome = outputQuantity.isSome ∧
    ∀ i ∈ inputQuantity, ∀ o ∈ outputQuantity, quantity = i + o
  otherParts : metric ≠ .tokens → inputQuantity = none ∧ outputQuantity = none

def UsageFact.identityPayload (f : UsageFact) : Document := sorted [
  ("schema_version",.string "1"),("tenant_id",refDocument f.tenantId),("allocation",f.allocation.document),
  ("source_ref",refDocument f.sourceRef),("source_digest",.string f.sourceDigest),
  ("occurred_at",timeDocument f.occurredAt),("metric",.string f.metric.value),("quantity",natural f.quantity),
  ("input_quantity",orNull natural f.inputQuantity),("output_quantity",orNull natural f.outputQuantity),
  ("service_ref",refDocument f.serviceRef),("meter_ref",refDocument f.meterRef),
  ("sample_sequence",orNull natural f.sampleSequence),("dimensions",.array (f.dimensions.map (·.document)))]

def UsageFact.factId (f : UsageFact) : String := identityOf "usage:" f.identityPayload
def UsageFact.factDigest (f : UsageFact) : Digest := digestOf "usage_fact" f.identityPayload

@[ext] structure PriceRate where
  metric : MetricKind
  microsPerUnit : ℕ
  bounded : microsPerUnit ≤ 10 ^ 12

def PriceRate.document (r : PriceRate) : Document :=
  sorted [("metric",.string r.metric.value),("micros_per_unit",natural r.microsPerUnit)]

@[ext] structure PriceCard where
  providerRef : Ref
  serviceRef : Ref
  currency : {text : String // isCurrency text = true}
  version : ℕ
  effectiveFrom : Instant
  effectiveTo : Option Instant
  rates : List PriceRate
  sourceRef : Ref
  sourceDigest : Digest
  versionBounded : 1 ≤ version ∧ version < 2 ^ 31
  follows : ∀ t ∈ effectiveTo, effectiveFrom.1 < t.1
  ratesBounded : 1 ≤ rates.length ∧ rates.length ≤ maxMetricKinds
  ratesUnique : (rates.map (·.metric)).Nodup

def PriceCard.sortedRates (card : PriceCard) : List PriceRate := sortBy (·.metric.value) card.rates

def PriceCard.identityPayload (card : PriceCard) : Document := sorted [
  ("schema_version",.string "1"),("provider_ref",refDocument card.providerRef),
  ("service_ref",refDocument card.serviceRef),("currency",.string card.currency),("version",natural card.version),
  ("effective_from",timeDocument card.effectiveFrom),("effective_to",orNull timeDocument card.effectiveTo),
  ("rates",.array (card.sortedRates.map (·.document))),("source_ref",refDocument card.sourceRef),
  ("source_digest",.string card.sourceDigest)]

def PriceCard.cardId (card : PriceCard) : String := identityOf "price:" card.identityPayload
def PriceCard.cardDigest (card : PriceCard) : Digest := digestOf "price_card" card.identityPayload

inductive WindowGranularity where
  | hour | day
  deriving DecidableEq

def WindowGranularity.value : WindowGranularity → String
  | .hour => "hour" | .day => "day"
def hourMicros : ℤ := 3600000000
def WindowGranularity.micros : WindowGranularity → ℤ
  | .hour => hourMicros | .day => 24 * hourMicros

/-- A bucket aligned in UTC. -/
@[ext] structure UsageWindow where
  granularity : WindowGranularity
  windowStart : Instant
  aligned : windowStart.1 % granularity.micros = 0
  deriving DecidableEq

/-- The end may be the first instant that is no longer supported. -/
def UsageWindow.windowEnd (w : UsageWindow) : ℤ := w.windowStart.1 + w.granularity.micros

def UsageWindow.windowId (w : UsageWindow) : String :=
  "window:" ++ w.granularity.value ++ ":" ++ isoformat "+00:00" w.windowStart

def UsageWindow.document (w : UsageWindow) : Document := sorted [
  ("schema_version",.string "1"),("granularity",.string w.granularity.value),
  ("window_start",.string (isoformat "Z" w.windowStart)),("window_end",.string (timeText "Z" w.windowEnd)),
  ("window_id",.string w.windowId)]

@[ext] structure MetricTotal where
  metric : MetricKind
  quantity : ℕ
  costMicros : ℕ
  quantityBounded : quantity ≤ maxFactQuantity * maxFactIdsPerAggregate
  costBounded : costMicros ≤ 10 ^ 18

def MetricTotal.make (metric : MetricKind) (quantity costMicros : ℕ) : Except Refusal MetricTotal :=
  if hquantity : quantity ≤ maxFactQuantity * maxFactIdsPerAggregate then
    if hcost : costMicros ≤ 10 ^ 18 then .ok ⟨metric,quantity,costMicros,hquantity,hcost⟩
    else .error ⟨.validation,"cost_micros"⟩
  else .error ⟨.validation,"quantity"⟩

def MetricTotal.document (t : MetricTotal) : Document := sorted [
  ("metric",.string t.metric.value),("quantity",natural t.quantity),("cost_micros",natural t.costMicros)]

@[ext] structure WindowAggregate where
  tenantId : Ref
  allocation : AllocationRef
  window : UsageWindow
  factIds : List String
  priceCardId : IdRef 100
  priceCardDigest : Digest
  totals : List MetricTotal
  factIdsBounded : 1 ≤ factIds.length ∧ factIds.length ≤ maxFactIdsPerAggregate
  totalsBounded : 1 ≤ totals.length ∧ totals.length ≤ maxMetricKinds
  sameTenant : allocation.tenantId = tenantId
  factIdsSorted : factIds.Pairwise (· < ·)
  totalsSorted : totals.Pairwise fun a b => a.metric.value < b.metric.value

def WindowAggregate.make (tenantId : Ref) (allocation : AllocationRef) (window : UsageWindow)
    (factIds : List String) (priceCardId : String) (priceCardDigest : Digest) (totals : List MetricTotal) :
    Except Refusal WindowAggregate :=
  if hids : 1 ≤ factIds.length ∧ factIds.length ≤ maxFactIdsPerAggregate then
    if hcard : isBoundedRef 100 priceCardId = true then
      if htotals : 1 ≤ totals.length ∧ totals.length ≤ maxMetricKinds then
        if htenant : allocation.tenantId = tenantId then
          if hunique : factIds.Nodup then
            if hmetrics : (totals.map fun t => t.metric.value).Nodup then
              .ok {
                tenantId, allocation, window, priceCardDigest
                factIds := sortBy (fun text => text) factIds
                priceCardId := ⟨priceCardId,hcard⟩
                totals := sortBy (fun t => t.metric.value) totals
                factIdsBounded := by rwa [length_sortBy]
                totalsBounded := by rwa [length_sortBy]
                sameTenant := htenant
                factIdsSorted := strict_sortBy (by rwa [List.map_id'])
                totalsSorted := strict_sortBy hmetrics }
            else .error ⟨.validation,"aggregate metrics must be unique"⟩
          else .error ⟨.validation,"aggregate fact_ids must be unique"⟩
        else .error ⟨.validation,"aggregate allocation crosses tenant scope"⟩
      else .error ⟨.validation,"totals"⟩
    else .error ⟨.validation,"price_card_id"⟩
  else .error ⟨.validation,"fact_ids"⟩

def WindowAggregate.identityPayload (a : WindowAggregate) : Document := sorted [
  ("schema_version",.string "1"),("tenant_id",refDocument a.tenantId),("allocation",a.allocation.document),
  ("window",a.window.document),("fact_ids",.array (a.factIds.map Document.string)),
  ("price_card_id",.string a.priceCardId),("price_card_digest",.string a.priceCardDigest),
  ("totals",.array (a.totals.map (·.document)))]

def WindowAggregate.aggregateId (a : WindowAggregate) : String := identityOf "aggregate:" a.identityPayload
def WindowAggregate.aggregateDigest (a : WindowAggregate) : Digest := digestOf "window_aggregate" a.identityPayload

inductive CorrectionReason where
  | lateEvent | sourceCorrection | privacyRetraction | reconciliation
  deriving DecidableEq

def CorrectionReason.value : CorrectionReason → String
  | .lateEvent => "late_event" | .sourceCorrection => "source_correction"
  | .privacyRetraction => "privacy_retraction" | .reconciliation => "reconciliation"

@[ext] structure UsageCorrection where
  tenantId : Ref
  originalFactId : IdRef 80
  originalFactDigest : Digest
  replacementFactId : Option (IdRef 80)
  replacementFactDigest : Option Digest
  reason : CorrectionReason
  createdAt : Instant
  together : replacementFactId.isSome = replacementFactDigest.isSome
  notItself : replacementFactId ≠ some originalFactId

/-- The time of creation is not part of the identity. -/
def UsageCorrection.identityPayload (c : UsageCorrection) : Document := sorted [
  ("schema_version",.string "1"),("tenant_id",refDocument c.tenantId),
  ("original_fact_id",.string c.originalFactId),("original_fact_digest",.string c.originalFactDigest),
  ("replacement_fact_id",orNull (fun id => .string id.1) c.replacementFactId),
  ("replacement_fact_digest",orNull (fun digest => .string digest.1) c.replacementFactDigest),
  ("reason",.string c.reason.value)]

def UsageCorrection.correctionId (c : UsageCorrection) : String := identityOf "correction:" c.identityPayload

inductive TombstoneTarget where
  | usageFact | windowAggregate | sloRollup
  deriving DecidableEq

def TombstoneTarget.value : TombstoneTarget → String
  | .usageFact => "usage_fact" | .windowAggregate => "window_aggregate" | .sloRollup => "slo_rollup"

inductive TombstoneReason where
  | retention | privacyRetraction | legalRequest
  deriving DecidableEq

def TombstoneReason.value : TombstoneReason → String
  | .retention => "retention" | .privacyRetraction => "privacy_retraction" | .legalRequest => "legal_request"

/-- Deletion marker for a fact, an aggregate or a rollup. -/
@[ext] structure UsageTombstone where
  tenantId : Ref
  targetKind : TombstoneTarget
  targetId : IdRef 100
  targetDigest : Digest
  reason : TombstoneReason
  effectiveAt : Instant
  policyVersion : IdRef 64

def UsageTombstone.identityPayload (t : UsageTombstone) : Document := sorted [
  ("schema_version",.string "1"),("tenant_id",refDocument t.tenantId),("target_kind",.string t.targetKind.value),
  ("target_id",.string t.targetId),("target_digest",.string t.targetDigest),("reason",.string t.reason.value),
  ("effective_at",timeDocument t.effectiveAt),("policy_version",.string t.policyVersion)]

def UsageTombstone.tombstoneId (t : UsageTombstone) : String := identityOf "tombstone:" t.identityPayload

inductive SloStatus where
  | met | breached | insufficientData
  deriving DecidableEq

def SloStatus.value : SloStatus → String
  | .met => "met" | .breached => "breached" | .insufficientData => "insufficient_data"

@[ext] structure SloWindowRollup where
  tenantId : Ref
  objectiveId : IdRef 100
  window : UsageWindow
  goodEvents : ℕ
  totalEvents : ℕ
  badEvents : ℕ
  measuredMicros : Option ℕ
  sourceFactDigests : List Digest
  status : SloStatus
  totalBounded : totalEvents ≤ maxFactQuantity * maxFactIdsPerAggregate
  measuredBounded : ∀ m ∈ measuredMicros, m ≤ 1000000
  sourcesBounded : sourceFactDigests.length ≤ maxFactIdsPerAggregate
  sourcesSorted : sourceFactDigests.Pairwise fun a b => a.1 < b.1
  within : goodEvents ≤ totalEvents ∧ badEvents ≤ totalEvents
  empty : totalEvents = 0 → status = .insufficientData ∧ measuredMicros = none
  populated : totalEvents ≠ 0 → status ≠ .insufficientData ∧ measuredMicros ≠ none

def SloWindowRollup.identityPayload (r : SloWindowRollup) : Document := sorted [
  ("schema_version",.string "1"),("tenant_id",refDocument r.tenantId),("objective_id",.string r.objectiveId),
  ("window",r.window.document),("good_events",natural r.goodEvents),("total_events",natural r.totalEvents),
  ("bad_events",natural r.badEvents),("measured_micros",orNull natural r.measuredMicros),
  ("source_fact_digests",.array (r.sourceFactDigests.map fun d => .string d.1)),("status",.string r.status.value)]

def SloWindowRollup.rollupId (r : SloWindowRollup) : String := identityOf "slo-rollup:" r.identityPayload
def SloWindowRollup.rollupDigest (r : SloWindowRollup) : Digest := digestOf "slo_rollup" r.identityPayload

namespace Fixture

def tenant : Ref := ⟨"tenant:one",by decide +kernel⟩
def digest : Digest := ⟨"sha256:1111111111111111111111111111111111111111111111111111111111111111",by decide +kernel⟩
def newYear : Instant := ⟨1767225600000000,by decide⟩
def oneToken : MetricTotal := ⟨.tokens,1,1,by decide,by decide⟩

theorem oneToken_counted : 1 ≤ [oneToken].length ∧ [oneToken].length ≤ maxMetricKinds := by decide
theorem oneToken_sorted : [oneToken].Pairwise fun a b => a.metric.value < b.metric.value := List.pairwise_singleton _ _

end Fixture

end Arbora.Economics
