import Arbora.Economics.Models
import Arbora.Lib.Totals

/-! Aggregating the facts of one window, and composing a day from its hours. -/
namespace Arbora.Economics
open Keyset (sortBy)

def PriceCard.rateTable (card : PriceCard) : Dict MetricKind ℕ :=
  card.rates.foldl (fun table rate => table.set rate.metric rate.microsPerUnit) ∅

def validateAggregateScope (first : UsageFact) (window : UsageWindow) (card : PriceCard) : Except Refusal Unit :=
  if first.allocation.tenantId ≠ first.tenantId then .error ⟨.valueError,"usage allocation crosses tenant scope"⟩
  else if window.windowStart.1 < card.effectiveFrom.1 ∨ (card.effectiveTo.any fun e => e.1 < window.windowEnd) then
    .error ⟨.valueError,"price card does not cover the full aggregate window"⟩
  else .ok ()

def checkFactScope (fact first : UsageFact) : Except Refusal Unit :=
  if fact.tenantId ≠ first.tenantId ∨ fact.allocation ≠ first.allocation then
    .error ⟨.contractError,"aggregate cannot mix tenants or allocations"⟩
  else .ok ()

def checkFactWindowAndPrice (fact : UsageFact) (card : PriceCard) (window : UsageWindow) : Except Refusal ℕ :=
  if fact.serviceRef ≠ card.serviceRef then
    .error ⟨.contractError,"price card service does not match usage fact"⟩
  else if ¬(window.windowStart.1 ≤ fact.occurredAt.1 ∧ fact.occurredAt.1 < window.windowEnd) then
    .error ⟨.contractError,"aggregate input contains an out-of-window fact"⟩
  else match card.rateTable.get fact.metric with
  | none => .error ⟨.contractError,"price card has no rate for " ++ fact.metric.value⟩
  | some rate => .ok rate

/-- What the loop over the facts has added up. -/
structure Tally where
  seen : List String := []
  totals : Dict MetricKind ℕ := ∅
  costs : Dict MetricKind ℕ := ∅

def Tally.countFact (first : UsageFact) (window : UsageWindow) (card : PriceCard) (tally : Tally) (fact : UsageFact) :
    Except Refusal Tally :=
  if fact.factId ∈ tally.seen then .error ⟨.contractError,"duplicate fact would double count an aggregate"⟩
  else (checkFactScope fact first).bind fun _ =>
    (checkFactWindowAndPrice fact card window).bind fun rate => .ok {
      seen := fact.factId :: tally.seen
      totals := Counter.add tally.totals fact.metric fact.quantity
      costs := Counter.add tally.costs fact.metric (fact.quantity * rate) }

def metricTotals (quantities costs : Dict MetricKind ℕ) : Except Refusal (List MetricTotal) :=
  (sortBy MetricKind.value quantities.keys).mapM fun metric =>
    MetricTotal.make metric ((quantities.get metric).getD 0) ((costs.get metric).getD 0)

def aggregateUsage (facts : List UsageFact) (window : UsageWindow) (card : PriceCard) :
    Except Refusal WindowAggregate :=
  match facts with
  | [] => .error ⟨.valueError,"an accounting aggregate requires at least one usage fact"⟩
  | first :: _ =>
    (validateAggregateScope first window card).bind fun _ =>
      (facts.foldlM (Tally.countFact first window card) {}).bind fun tally =>
        (metricTotals tally.totals tally.costs).bind fun totals =>
          WindowAggregate.make first.tenantId first.allocation window (sortBy (fun text => text) tally.seen) card.cardId
            card.cardDigest totals

def validateDailyCompleteness (day : UsageWindow) (hours : List WindowAggregate) : Except Refusal Unit :=
  let expected := (List.range 24).map fun i : ℕ => day.windowStart.1 + i * hourMicros
  let actual := hours.map fun item => item.window.windowStart.1
  if ¬(expected ⊆ actual ∧ actual ⊆ expected) ∨ hours.length ≠ 24 then
    .error ⟨.contractError,"daily aggregate requires all 24 hourly windows"⟩
  else .ok ()

def validateDailyScopeConsistency (first : WindowAggregate) (hours : List WindowAggregate) : Except Refusal Unit :=
  if hours.any fun item => item.tenantId != first.tenantId || item.allocation != first.allocation ||
      item.priceCardId != first.priceCardId || item.priceCardDigest != first.priceCardDigest then
    .error ⟨.contractError,"daily aggregate cannot mix allocation or price-card scope"⟩
  else .ok ()

def validateDailyFactIds (hours : List WindowAggregate) : Except Refusal (List String) :=
  let factIds := hours.flatMap (·.factIds)
  if ¬factIds.Nodup then .error ⟨.contractError,"hourly inputs overlap and would double count"⟩ else .ok factIds

def sumDailyTotals (hours : List WindowAggregate) : Except Refusal (List MetricTotal) :=
  metricTotals (Counter.count (hours.flatMap fun item => item.totals.map fun t => (t.metric,t.quantity)))
    (Counter.count (hours.flatMap fun item => item.totals.map fun t => (t.metric,t.costMicros)))

def aggregateDailyFromHours (hours : List WindowAggregate) (day : UsageWindow) : Except Refusal WindowAggregate :=
  if day.granularity ≠ .day then .error ⟨.valueError,"daily composition requires a day window"⟩
  else (validateDailyCompleteness day hours).bind fun _ =>
    match hours with
    | [] => .error ⟨.contractError,"daily aggregate requires all 24 hourly windows"⟩
    | first :: _ => (validateDailyScopeConsistency first hours).bind fun _ =>
      (validateDailyFactIds hours).bind fun factIds =>
        (sumDailyTotals hours).bind fun totals =>
          WindowAggregate.make first.tenantId first.allocation day (sortBy (fun text => text) factIds)
            first.priceCardId.1 first.priceCardDigest totals

end Arbora.Economics
