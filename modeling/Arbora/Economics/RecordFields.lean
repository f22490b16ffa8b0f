import Arbora.Economics.Identities
import Arbora.Economics.SloRollups

/-! Records made of plain fields: all that their validators check, and the derived fields that may be given again. -/
namespace Arbora.Economics
open Arbora.Scaling (Digest isDigest supportedFrom supportedUntil)
open Arbora.Placement (Instant)
open Checks (refuse found refuse_bind_ok)

section
variable {α β : Type}

def checked {p : String → Bool} (field text : String) : Except Refusal {text : String // p text = true} :=
  if h : p text = true then .ok ⟨text,h⟩ else .error ⟨.validation,field⟩

def ensureUtc (field : String) (t : ℤ) : Except Refusal Instant :=
  if h : supportedFrom ≤ t ∧ t < supportedUntil then .ok ⟨t,h⟩
  else .error ⟨.validation,field ++ " is outside the supported time range"⟩

/-- A check of a field that may be `None`. -/
def optional (f : α → Except Refusal β) : Option α → Except Refusal (Option β)
  | none => .ok none
  | some a => f a >>= fun b => .ok (some b)

/-- The one of several values that is written so. -/
def literal (all : List α) (value : α → String) (field text : String) : Except Refusal α :=
  found (all.find? fun a => value a = text) ⟨.validation,field⟩

def wholeWithin (bound n : ℤ) : Prop := 0 ≤ n ∧ n ≤ bound

instance (bound n : ℤ) : Decidable (wholeWithin bound n) := inferInstanceAs (Decidable (_ ∧ _))

theorem toNat_le {bound : ℕ} {o : Option ℤ} (h : ∀ n ∈ o, wholeWithin bound n) : ∀ n ∈ o.map Int.toNat, n ≤ bound := by
  intro n hn
  obtain ⟨m,hm,rfl⟩ := Option.map_eq_some_iff.mp hn
  have hbound := (h m hm).2
  omega

def currentSchema (version : String) : Except Refusal Unit := refuse (version ≠ "1") ⟨.validation,"schema_version"⟩

def confirmId (bound : ℕ) (given : Option String) (expected message : String) : Except Refusal Unit :=
  match given with
  | none => .ok ()
  | some text =>
    if ¬(1 ≤ text.length ∧ text.length ≤ bound) then .error ⟨.validation,"id"⟩
    else refuse (text ≠ expected) ⟨.validation,message⟩

def confirmDigest (given : Option String) (expected : Digest) (message : String) : Except Refusal Unit :=
  match given with
  | none => .ok ()
  | some text =>
    if isDigest text = false then .error ⟨.validation,"digest"⟩ else refuse (text ≠ expected.1) ⟨.validation,message⟩

def MetricKind.all : List MetricKind :=
  [.tokens,.requests,.latencyMs,.computeMs,.storageBytes,.errors,.queueMs,.ingestRows]
def WindowGranularity.all : List WindowGranularity := [.hour,.day]
def SloStatus.all : List SloStatus := [.met,.breached,.insufficientData]

end

structure DimensionFields where
  (key value : String)

def DimensionRef.construct (fields : DimensionFields) : Except Refusal DimensionRef := do
  let key ← checked "key" fields.key
  let value ← checked "value" fields.value
  .ok ⟨key,value⟩

structure AllocationFields where
  (tenantId projectRef costCenterRef : String)
  workloadRef : Option String

def AllocationRef.construct (fields : AllocationFields) : Except Refusal AllocationRef := do
  let tenantId ← checked "tenant_id" fields.tenantId
  let projectRef ← checked "project_ref" fields.projectRef
  let costCenterRef ← checked "cost_center_ref" fields.costCenterRef
  let workloadRef ← optional (checked "workload_ref") fields.workloadRef
  .ok ⟨tenantId,projectRef,costCenterRef,workloadRef⟩

structure FactFields where
  schemaVersion : String
  (factId factDigest : Option String)
  tenantId : String
  allocation : AllocationFields
  (sourceRef sourceDigest : String)
  occurredAt : ℤ
  metric : String
  quantity : ℤ
  (inputQuantity outputQuantity : Option ℤ)
  (serviceRef meterRef : String)
  sampleSequence : Option ℤ
  dimensions : List DimensionFields

def coherentParts (metric : MetricKind) (quantity : ℕ) (input output : Option ℕ) : Except Refusal Unit :=
  if metric = .tokens then do
    refuse (input.isSome ≠ output.isSome) ⟨.validation,"token input/output quantities must be supplied together"⟩
    refuse (¬∀ i ∈ input, ∀ o ∈ output, quantity = i + o) ⟨.validation,"token quantity must equal input plus output"⟩
  else refuse (input ≠ none ∨ output ≠ none) ⟨.validation,"input/output quantities are valid only for token facts"⟩

theorem coherentParts_ok {metric : MetricKind} {quantity : ℕ} {input output : Option ℕ} :
    coherentParts metric quantity input output = .ok () ↔
      (metric = .tokens → input.isSome = output.isSome ∧ ∀ i ∈ input, ∀ o ∈ output, quantity = i + o) ∧
        (metric ≠ .tokens → input = none ∧ output = none) := by
  unfold coherentParts
  by_cases hmetric : metric = .tokens
  · rw [if_pos hmetric,refuse_bind_ok,Checks.refuse_ok,not_not,not_not]
    simp [hmetric]
  · rw [if_neg hmetric,Checks.refuse_ok,not_or,not_not,not_not]
    simp [hmetric]

def UsageFact.construct (fields : FactFields) : Except Refusal UsageFact := do
  currentSchema fields.schemaVersion
  let tenantId ← checked "tenant_id" fields.tenantId
  let allocation ← AllocationRef.construct fields.allocation
  let sourceRef ← checked "source_ref" fields.sourceRef
  let sourceDigest ← checked "source_digest" fields.sourceDigest
  let occurredAt ← ensureUtc "occurred_at" fields.occurredAt
  let metric ← literal MetricKind.all MetricKind.value "metric" fields.metric
  let serviceRef ← checked "service_ref" fields.serviceRef
  let meterRef ← checked "meter_ref" fields.meterRef
  let dimensions ← fields.dimensions.mapM DimensionRef.construct
  if hquantity : wholeWithin maxFactQuantity fields.quantity then
    if hparts : ∀ part ∈ [fields.inputQuantity,fields.outputQuantity], ∀ q ∈ part, wholeWithin maxFactQuantity q then
      if hsequence : ∀ n ∈ fields.sampleSequence, wholeWithin (2 ^ 63 - 1) n then
        if hdimensions : dimensions.length ≤ maxDimensions then
          if htenant : allocation.tenantId = tenantId then
            if hkeys : (dimensions.map (·.key)).Nodup then
              if hcoherent : coherentParts metric fields.quantity.toNat (fields.inputQuantity.map Int.toNat)
                  (fields.outputQuantity.map Int.toNat) = .ok () then
                let fact : UsageFact := {
                  tenantId, allocation, sourceRef, sourceDigest, occurredAt, metric, serviceRef, meterRef, dimensions
                  quantity := fields.quantity.toNat
                  inputQuantity := fields.inputQuantity.map Int.toNat
                  outputQuantity := fields.outputQuantity.map Int.toNat
                  sampleSequence := fields.sampleSequence.map Int.toNat
                  quantityBounded := by
                    have h := hquantity.2
                    omega
                  partsBounded := by
                    intro part hpart
                    simp only [List.mem_cons,List.not_mem_nil,or_false] at hpart
                    rcases hpart with rfl | rfl
                    · exact toNat_le (hparts _ (by simp))
                    · exact toNat_le (hparts _ (by simp))
                  sequenceBounded := by
                    intro n hn
                    have h : n ≤ 2 ^ 63 - 1 := toNat_le hsequence n hn
                    omega
                  dimensionsBounded := hdimensions
                  sameTenant := htenant
                  keysUnique := hkeys
                  tokenParts := (coherentParts_ok.mp hcoherent).1
                  otherParts := (coherentParts_ok.mp hcoherent).2 }
                confirmId 80 fields.factId fact.factId "fact_id does not match the immutable fact identity"
                confirmDigest fields.factDigest fact.factDigest "fact_digest does not match the immutable fact identity"
                .ok fact
              else .error ⟨.validation,"input/output quantities"⟩
            else .error ⟨.validation,"usage dimensions must have unique keys"⟩
          else .error ⟨.validation,"allocation tenant_id must match usage tenant_id"⟩
        else .error ⟨.validation,"dimensions"⟩
      else .error ⟨.validation,"sample_sequence"⟩
    else .error ⟨.validation,"input_quantity"⟩
  else .error ⟨.validation,"quantity"⟩

structure RateFields where
  metric : String
  microsPerUnit : ℤ

def PriceRate.construct (fields : RateFields) : Except Refusal PriceRate := do
  let metric ← literal MetricKind.all MetricKind.value "metric" fields.metric
  if h : wholeWithin (10 ^ 12) fields.microsPerUnit then
    .ok ⟨metric,fields.microsPerUnit.toNat,Int.toNat_le.mpr h.2⟩
  else .error ⟨.validation,"micros_per_unit"⟩

structure CardFields where
  schemaVersion : String
  (cardId cardDigest : Option String)
  (providerRef serviceRef currency : String)
  (version effectiveFrom : ℤ)
  effectiveTo : Option ℤ
  rates : List RateFields
  (sourceRef sourceDigest : String)

def PriceCard.construct (fields : CardFields) : Except Refusal PriceCard := do
  currentSchema fields.schemaVersion
  let providerRef ← checked "provider_ref" fields.providerRef
  let serviceRef ← checked "service_ref" fields.serviceRef
  let currency ← checked "currency" fields.currency
  let effectiveFrom ← ensureUtc "effective_from" fields.effectiveFrom
  let effectiveTo ← optional (ensureUtc "effective_to") fields.effectiveTo
  let rates ← fields.rates.mapM PriceRate.construct
  let sourceRef ← checked "source_ref" fields.sourceRef
  let sourceDigest ← checked "source_digest" fields.sourceDigest
  if hversion : 1 ≤ fields.version ∧ fields.version ≤ 2 ^ 31 - 1 then
    if hrates : 1 ≤ rates.length ∧ rates.length ≤ maxMetricKinds then
      if hfollows : ∀ t ∈ effectiveTo, effectiveFrom.1 < t.1 then
        if hunique : (rates.map (·.metric)).Nodup then
          let card : PriceCard := {
            providerRef, serviceRef, currency, effectiveFrom, effectiveTo, rates, sourceRef, sourceDigest
            version := fields.version.toNat
            versionBounded := by omega
            follows := hfollows
            ratesBounded := hrates
            ratesUnique := hunique }
          confirmId 100 fields.cardId card.cardId "card_id does not match immutable pricing identity"
          confirmDigest fields.cardDigest card.cardDigest "card_digest does not match immutable pricing identity"
          .ok card
        else .error ⟨.validation,"price card rates must contain each metric at most once"⟩
      else .error ⟨.validation,"price card effective_to must follow effective_from"⟩
    else .error ⟨.validation,"rates"⟩
  else .error ⟨.validation,"version"⟩

structure WindowFields where
  (schemaVersion granularity : String)
  windowStart : ℤ
  windowEnd : Option ℤ
  windowId : Option String

/-- Both ends have to be supported, as far as they are given; what is not given is derived. -/
def UsageWindow.construct (fields : WindowFields) : Except Refusal UsageWindow := do
  currentSchema fields.schemaVersion
  let granularity ← literal WindowGranularity.all WindowGranularity.value "granularity" fields.granularity
  let windowStart ← ensureUtc "window_start" fields.windowStart
  let windowEnd ← optional (ensureUtc "window_end") fields.windowEnd
  refuse (windowStart.1 % hourMicros ≠ 0) ⟨.validation,"window_start must be aligned to an hour"⟩
  if haligned : windowStart.1 % granularity.micros = 0 then
    let window : UsageWindow := ⟨granularity,windowStart,haligned⟩
    refuse (∃ t ∈ windowEnd, t.1 ≠ window.windowEnd) ⟨.validation,"window_end does not match granularity"⟩
    confirmId 80 fields.windowId window.windowId "window_id does not match aligned window"
    .ok window
  else .error ⟨.validation,"daily window_start must be aligned to UTC midnight"⟩

structure TotalFields where
  metric : String
  (quantity costMicros : ℤ)

def MetricTotal.construct (fields : TotalFields) : Except Refusal MetricTotal := do
  let metric ← literal MetricKind.all MetricKind.value "metric" fields.metric
  refuse (fields.quantity < 0) ⟨.validation,"quantity"⟩
  refuse (fields.costMicros < 0) ⟨.validation,"cost_micros"⟩
  MetricTotal.make metric fields.quantity.toNat fields.costMicros.toNat

structure AggregateFields where
  schemaVersion : String
  (aggregateId aggregateDigest : Option String)
  tenantId : String
  allocation : AllocationFields
  window : WindowFields
  factIds : List String
  (priceCardId priceCardDigest : String)
  totals : List TotalFields

def WindowAggregate.construct (fields : AggregateFields) : Except Refusal WindowAggregate := do
  currentSchema fields.schemaVersion
  let tenantId ← checked "tenant_id" fields.tenantId
  let allocation ← AllocationRef.construct fields.allocation
  let window ← UsageWindow.construct fields.window
  let priceCardDigest ← checked "price_card_digest" fields.priceCardDigest
  let totals ← fields.totals.mapM MetricTotal.construct
  let aggregate ← make tenantId allocation window fields.factIds fields.priceCardId priceCardDigest totals
  confirmId 100 fields.aggregateId aggregate.aggregateId "aggregate_id does not match aggregate identity"
  confirmDigest fields.aggregateDigest aggregate.aggregateDigest "aggregate_digest does not match aggregate identity"
  .ok aggregate

structure RollupFields where
  schemaVersion : String
  (rollupId rollupDigest : Option String)
  (tenantId objectiveId : String)
  window : WindowFields
  (goodEvents totalEvents badEvents : ℤ)
  measuredMicros : Option ℤ
  sourceFactDigests : List String
  status : String

def SloWindowRollup.construct (fields : RollupFields) : Except Refusal SloWindowRollup := do
  currentSchema fields.schemaVersion
  let tenantId ← checked "tenant_id" fields.tenantId
  let window ← UsageWindow.construct fields.window
  let digests ← fields.sourceFactDigests.mapM (checked "source_fact_digest")
  let status ← literal SloStatus.all SloStatus.value "status" fields.status
  let rollup ← make tenantId fields.objectiveId window fields.goodEvents fields.totalEvents fields.badEvents
    fields.measuredMicros digests status
  confirmId 100 fields.rollupId rollup.rollupId "rollup_id does not match immutable rollup identity"
  confirmDigest fields.rollupDigest rollup.rollupDigest "rollup_digest does not match immutable rollup identity"
  .ok rollup

end Arbora.Economics
