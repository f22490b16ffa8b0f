import Arbora.Economics.DailyComposition
import Mathlib.Algebra.Order.BigOperators.Group.List

/-! Which facts are aggregated: all that one card charges in one window, as long as no metric costs more than a total
can hold. -/
namespace Arbora.Economics
open Checks (exists_mapM)
open Keyset (sortBy)

section

theorem MetricTotal.exists_make {metric : MetricKind} {quantity costMicros : ℕ}
    (hquantity : quantity ≤ maxFactQuantity * maxFactIdsPerAggregate) (hcost : costMicros ≤ 10 ^ 18) :
    ∃ t, make metric quantity costMicros = .ok t := by
  unfold make
  rw [dif_pos hquantity,dif_pos hcost]
  exact ⟨_,rfl⟩

theorem length_metrics_le {metrics : List MetricKind} (h : metrics.Nodup) : metrics.length ≤ maxMetricKinds := by
  have hsubset : metrics ⊆ [.tokens,.requests,.latencyMs,.computeMs,.storageBytes,.errors,.queueMs,.ingestRows] := by
    intro m _
    cases m <;> simp
  exact (List.subperm_of_subset h hsubset).length_le

variable {card : PriceCard} {window : UsageWindow} {facts facts' : List UsageFact} {aggregate : WindowAggregate}

def quantityOf (facts : List UsageFact) (metric : MetricKind) : ℕ :=
  ((facts.filter fun f => f.metric = metric).map (·.quantity)).sum
def costOf (card : PriceCard) (facts : List UsageFact) (metric : MetricKind) : ℕ :=
  ((facts.filter fun f => f.metric = metric).map fun f => f.quantity * (card.rateTable.get f.metric).getD 0).sum

theorem total_amounts (facts : List UsageFact) (m : MetricKind) : Counter.total (amounts facts) m = quantityOf facts m := by
  unfold Counter.total amounts quantityOf
  rw [List.filter_map,List.map_map]
  rfl

theorem total_charges (card : PriceCard) (facts : List UsageFact) (m : MetricKind) :
    Counter.total (charges card facts) m = costOf card facts m := by
  unfold Counter.total charges costOf
  rw [List.filter_map,List.map_map]
  rfl

theorem quantityOf_le (hbounded : facts.length ≤ maxFactIdsPerAggregate) (m : MetricKind) :
    quantityOf facts m ≤ maxFactQuantity * maxFactIdsPerAggregate := by
  have hsum : quantityOf facts m ≤ ((facts.filter fun f => f.metric = m).map (·.quantity)).length • maxFactQuantity := by
    apply List.sum_le_card_nsmul
    intro q hq
    obtain ⟨f,-,rfl⟩ := List.mem_map.mp hq
    exact f.quantityBounded
  have hlength : ((facts.filter fun f => f.metric = m).map (·.quantity)).length ≤ maxFactIdsPerAggregate := by
    rw [List.length_map]
    exact (List.length_filter_le _ facts).trans hbounded
  calc quantityOf facts m ≤ ((facts.filter fun f => f.metric = m).map (·.quantity)).length • maxFactQuantity := hsum
    _ = ((facts.filter fun f => f.metric = m).map (·.quantity)).length * maxFactQuantity := smul_eq_mul _ _
    _ ≤ maxFactIdsPerAggregate * maxFactQuantity := Nat.mul_le_mul_right _ hlength
    _ = maxFactQuantity * maxFactIdsPerAggregate := Nat.mul_comm _ _

theorem costOf_of_notMem {m : MetricKind} (h : m ∉ facts.map (·.metric)) : costOf card facts m = 0 := by
  have hnone : (facts.filter fun f => f.metric = m) = [] := by
    rw [List.filter_eq_nil_iff]
    intro f hf hmetric
    exact h (List.mem_map.mpr ⟨f,hf,of_decide_eq_true hmetric⟩)
  unfold costOf
  rw [hnone]
  rfl

end

section
variable {card : PriceCard} {window : UsageWindow} {facts facts' : List UsageFact} {aggregate : WindowAggregate}

structure Accountable (card : PriceCard) (window : UsageWindow) (facts : List UsageFact) : Prop where
  nonempty : facts ≠ []
  bounded : facts.length ≤ maxFactIdsPerAggregate
  distinct : facts.Nodup
  scope : ∀ f ∈ facts, ∀ g ∈ facts, SameScope f g
  charged : ∀ f ∈ facts, Charged window card f
  covers : Covers card window

structure ExactTotals (card : PriceCard) (facts : List UsageFact) (aggregate : WindowAggregate) : Prop where
  metrics : ∀ m, m ∈ aggregate.totals.map (·.metric) ↔ m ∈ facts.map (·.metric)
  sums : ∀ t ∈ aggregate.totals, t.quantity = quantityOf facts t.metric ∧ t.costMicros = costOf card facts t.metric
  factIds : ∀ id, id ∈ aggregate.factIds ↔ ∃ f ∈ facts, f.factId = id

theorem amounts_metrics (facts : List UsageFact) : (amounts facts).map Prod.fst = facts.map (·.metric) := by
  unfold amounts
  rw [List.map_map]
  rfl

theorem exact_of_aggregated (h : aggregateUsage facts window card = .ok aggregate) : ExactTotals card facts aggregate := by
  have hsummary := summarizes h
  have hunique : ∀ f : MetricTotal → ℕ, ((aggregate.totals.map fun t => (t.metric,f t)).map Prod.fst).Nodup := by
    intro f
    have hmetrics := Keyset.nodup_of_strict aggregate.totalsSorted
    rw [List.map_map]
    have hvalue : (aggregate.totals.map fun t => t.metric.value) = (aggregate.totals.map (·.metric)).map MetricKind.value := by
      rw [List.map_map]
      rfl
    rw [hvalue] at hmetrics
    exact hmetrics.of_map
  -- what is counted of one metric is its only entry
  have hentry : ∀ (f : MetricTotal → ℕ) (t : MetricTotal), t ∈ aggregate.totals →
      Counter.total (aggregate.totals.map fun t => (t.metric,f t)) t.metric = f t := by
    intro f t ht
    have hsingle := Keyset.filter_eq_singleton (hunique f) (List.mem_map_of_mem ht)
    unfold Counter.total
    rw [hsingle]
    exact List.sum_singleton
  constructor
  · intro m
    have hkeys := hsummary.amounts.keys m
    rw [amounts_metrics,List.map_map] at hkeys
    exact hkeys
  · intro t ht
    rw [← total_amounts,← total_charges,← hsummary.amounts.totals,← hsummary.charges.totals]
    exact ⟨(hentry (·.quantity) t ht).symm,(hentry (·.costMicros) t ht).symm⟩
  · intro id
    rw [hsummary.factIds.mem_iff,List.mem_map]

theorem aggregateUsage_perm (hperm : facts'.Perm facts) (h : aggregateUsage facts window card = .ok aggregate) :
    aggregateUsage facts' window card = .ok aggregate := by
  obtain ⟨first,rest,rfl,hcovers,hnodup,hall,hcompose⟩ := aggregateUsage_ok.mp h
  have hids := hperm.map (·.factId)
  cases facts' with
  | nil => exact absurd hperm.symm (by simp)
  | cons first' rest' =>
    obtain ⟨htenant,hallocation⟩ := (hall first' (hperm.mem_iff.mp List.mem_cons_self)).1
    refine aggregateUsage_ok.mpr ⟨first',rest',rfl,hcovers,hids.nodup_iff.mpr hnodup,?_,?_⟩
    · intro f hf
      obtain ⟨hscope,hcharged⟩ := hall f (hperm.mem_iff.mp hf)
      exact ⟨⟨hscope.1.trans htenant.symm,hscope.2.trans hallocation.symm⟩,hcharged⟩
    · rw [htenant,hallocation,← hcompose]
      exact compose_congr hids (hids.nodup_iff.mpr hnodup) (.of_perm (hperm.map _)) (.of_perm (hperm.map _))

theorem exists_aggregate (h : Accountable card window facts) (hids : (facts.map (·.factId)).Nodup)
    (hcosts : ∀ m, costOf card facts m ≤ 10 ^ 18) : ∃ aggregate, aggregateUsage facts window card = .ok aggregate := by
  obtain ⟨first,rest,rfl⟩ := List.exists_cons_of_ne_nil h.nonempty
  have htotals : ∃ totals, metricTotals (Counter.count (amounts (first :: rest)))
      (Counter.count (charges card (first :: rest))) = .ok totals := by
    apply exists_mapM
    intro m hm
    have hmetric : m ∈ (amounts (first :: rest)).map Prod.fst := mem_count_keys.mp (Keyset.mem_sortBy.mp hm)
    have hcharge : m ∈ (charges card (first :: rest)).map Prod.fst := by
      rw [amounts_metrics] at hmetric
      unfold charges
      rw [List.map_map]
      exact hmetric
    rw [getD_count hmetric,getD_count hcharge,total_amounts,total_charges]
    exact MetricTotal.exists_make (quantityOf_le h.bounded m) (hcosts m)
  obtain ⟨totals,htotals⟩ := htotals
  obtain ⟨hmetrics,-⟩ := metricTotals_ok htotals
  have hkeys : (totals.map (·.metric)).Nodup := by
    rw [hmetrics]
    exact (Keyset.sortBy_perm _).nodup_iff.mpr (AList.nodupKeys _)
  have hsize : 1 ≤ totals.length ∧ totals.length ≤ maxMetricKinds := by
    have hlength := length_metrics_le hkeys
    rw [List.length_map] at hlength
    refine ⟨?_,hlength⟩
    -- the first fact's metric is among them
    have hfirst : first.metric ∈ totals.map (·.metric) := by
      rw [hmetrics,Keyset.mem_sortBy]
      exact mem_count_keys.mpr (by simp [amounts])
    rw [← List.length_map (f := (·.metric))]
    exact List.length_pos_of_mem hfirst
  have hvalues : (totals.map fun t => t.metric.value).Nodup := by
    have hmap : (totals.map fun t => t.metric.value) = (totals.map (·.metric)).map MetricKind.value := by
      rw [List.map_map]
      rfl
    rw [hmap]
    exact hkeys.map MetricKind.value_injective
  have hlength : (sortBy (fun text => text) ((first :: rest).map (·.factId))).length = (first :: rest).length := by
    rw [Keyset.length_sortBy,List.length_map]
  have hmake : ∃ aggregate, WindowAggregate.make first.tenantId first.allocation window
      (sortBy (fun text => text) ((first :: rest).map (·.factId))) card.cardId card.cardDigest totals = .ok aggregate := by
    refine WindowAggregate.exists_make _ ?_ (cardId_valid card) hsize first.sameTenant ?_ hvalues
    · rw [hlength]
      exact ⟨by simp,h.bounded⟩
    · exact (Keyset.sortBy_perm _).nodup_iff.mpr hids
  obtain ⟨aggregate,haggregate⟩ := hmake
  refine ⟨aggregate,aggregateUsage_ok.mpr ⟨first,rest,rfl,h.covers,hids,?_,bind_ok.mpr ⟨totals,htotals,haggregate⟩⟩⟩
  intro f hf
  exact ⟨h.scope f hf first List.mem_cons_self,h.charged f hf⟩

theorem ExactTotals.costOf_le (h : ExactTotals card facts aggregate) (m : MetricKind) :
    costOf card facts m ≤ 10 ^ 18 := by
  by_cases hm : m ∈ facts.map (·.metric)
  · obtain ⟨t,ht,rfl⟩ := List.mem_map.mp ((h.metrics m).mpr hm)
    rw [← (h.sums t ht).2]
    exact t.costBounded
  · rw [costOf_of_notMem hm]
    exact Nat.zero_le _

/-- Accountable facts are aggregated exactly, in whatever order, iff no two share an id and no metric costs more than
a total can hold. -/
theorem accountable_admitted_iff (card : PriceCard) (window : UsageWindow) (facts : List UsageFact)
    (h : Accountable card window facts) : (∃ aggregate, ExactTotals card facts aggregate ∧
        ∀ facts', facts'.Perm facts → aggregateUsage facts' window card = .ok aggregate) ↔
      (facts.map (·.factId)).Nodup ∧ ∀ m, costOf card facts m ≤ 10 ^ 18 := by
  constructor
  · rintro ⟨aggregate,hexact,hall⟩
    obtain ⟨-,-,-,-,hnodup,-,-⟩ := aggregateUsage_ok.mp (hall facts (.refl _))
    exact ⟨hnodup,hexact.costOf_le⟩
  · rintro ⟨hids,hcosts⟩
    obtain ⟨aggregate,haggregate⟩ := exists_aggregate h hids hcosts
    exact ⟨aggregate,exact_of_aggregated haggregate,fun facts' hperm => aggregateUsage_perm hperm haggregate⟩

end

namespace Fixture

def largest : UsageFact := { fact midnight with
  quantity := maxFactQuantity
  quantityBounded := Nat.le_refl _
  tokenParts := by simp [fact]
  otherParts := by simp [fact] }

def dearest : PriceCard := { card with
  rates := [⟨.tokens,10 ^ 12,Nat.le_refl _⟩]
  ratesBounded := by decide
  ratesUnique := by decide }

theorem accountable {c : PriceCard} {f : UsageFact} (hfrom : c.effectiveFrom = newYear) (hto : c.effectiveTo = none)
    (hservice : f.serviceRef = c.serviceRef) (hat : f.occurredAt.1 = newYear.1)
    (hrate : c.rateTable.get f.metric ≠ none) : Accountable c (hourWindow day rfl 0) [f] where
  nonempty := by simp
  bounded := (by decide : 1 ≤ maxFactIdsPerAggregate)
  distinct := List.nodup_singleton f
  scope := by
    intro a ha b hb
    rw [List.mem_singleton.mp ha,List.mem_singleton.mp hb]
    exact ⟨rfl,rfl⟩
  charged := by
    intro a ha
    rw [List.mem_singleton.mp ha]
    exact ⟨hservice,by rw [hat]; decide,hrate⟩
  covers := by
    constructor
    · rw [hfrom]
      decide
    · simp [hto]

end Fixture

theorem one_token_admitted : ∃ aggregate, ExactTotals Fixture.card [Fixture.fact 0] aggregate ∧
    ∀ facts', facts'.Perm [Fixture.fact 0] →
      aggregateUsage facts' (hourWindow Fixture.day rfl 0) Fixture.card = .ok aggregate := by
  have haccountable := Fixture.accountable (c := Fixture.card) (f := Fixture.fact 0) rfl rfl rfl rfl (by decide)
  refine (accountable_admitted_iff _ _ _ haccountable).mpr ⟨List.nodup_singleton _,?_⟩
  intro m
  cases m <;> decide

/-- The largest fact at the highest rate is refused. -/
theorem largest_refused : ¬∀ (card : PriceCard) (window : UsageWindow) (facts : List UsageFact),
    Accountable card window facts → ∃ aggregate, ExactTotals card facts aggregate ∧
      ∀ facts', facts'.Perm facts → aggregateUsage facts' window card = .ok aggregate := by
  intro hall
  have haccountable := Fixture.accountable (c := Fixture.dearest) (f := Fixture.largest) rfl rfl rfl rfl (by decide)
  obtain ⟨aggregate,hexact,-⟩ := hall _ _ _ haccountable
  have hcost : ¬costOf Fixture.dearest [Fixture.largest] .tokens ≤ 10 ^ 18 := by decide
  exact hcost (hexact.costOf_le .tokens)

end Arbora.Economics
