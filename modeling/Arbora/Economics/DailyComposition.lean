import Arbora.Economics.Aggregation
import Arbora.Lib.Checks
import Arbora.Placement.Soundness
import Mathlib.Data.List.FinRange

/-! Composing a day from the aggregates of its hours is aggregating all of its facts. -/
namespace Arbora.Economics
open Arbora.Scaling (Ref Digest)
open Arbora.Placement (isBoundedRef)
open Checks (mapM_ok)
open Keyset (sortBy)

section
variable {α β ε : Type}

variable {x : Except ε α}

theorem bind_ok {f : α → Except ε β} {b : β} : x.bind f = .ok b ↔ ∃ a, x = .ok a ∧ f a = .ok b :=
  Checks.bind_ok

theorem refuse_ok {c : Prop} [Decidable c] {e : ε} {a : α} :
    (if c then .error e else x) = .ok a ↔ ¬c ∧ x = .ok a := by
  split_ifs with h
  · simp [h]
  · simp [h]

end

theorem MetricTotal.make_ok {metric : MetricKind} {quantity costMicros : ℕ} {t : MetricTotal}
    (h : MetricTotal.make metric quantity costMicros = .ok t) :
    t.metric = metric ∧ t.quantity = quantity ∧ t.costMicros = costMicros := by
  unfold make at h
  split_ifs at h with hquantity hcost
  cases h
  exact ⟨rfl,rfl,rfl⟩

variable {costs quantities : Dict MetricKind ℕ}

theorem metricTotals_ok {totals : List MetricTotal} (h : metricTotals quantities costs = .ok totals) :
    totals.map (·.metric) = sortBy MetricKind.value quantities.keys ∧
      ∀ t ∈ totals, t.quantity = (quantities.get t.metric).getD 0 ∧ t.costMicros = (costs.get t.metric).getD 0 := by
  have hall := mapM_ok h
  clear h
  generalize sortBy MetricKind.value quantities.keys = metrics at hall
  induction hall with
  | nil => exact ⟨rfl,by simp⟩
  | cons hmake hrest ih =>
    obtain ⟨hmetric,hquantity,hcost⟩ := MetricTotal.make_ok hmake
    refine ⟨by rw [List.map_cons,hmetric,ih.1],?_⟩
    intro t ht
    rcases List.mem_cons.mp ht with rfl | hlater
    · rw [hmetric]
      exact ⟨hquantity,hcost⟩
    · exact ih.2 t hlater

theorem metricTotals_congr {quantities' costs' : Dict MetricKind ℕ}
    (hquantities : ∀ m, quantities.get m = quantities'.get m) (hcosts : ∀ m, costs.get m = costs'.get m) :
    metricTotals quantities costs = metricTotals quantities' costs' := by
  have hkeys : quantities.keys.Perm quantities'.keys := by
    apply (List.perm_ext_iff_of_nodup quantities.nodupKeys quantities'.nodupKeys).mpr
    intro m
    have hmem : ∀ d : Dict MetricKind ℕ, m ∈ AList.keys d ↔ d.get m ≠ none := fun d => Dict.mem_keys
    show m ∈ AList.keys quantities ↔ m ∈ AList.keys quantities'
    rw [hmem,hmem,hquantities m]
  have hunique : (quantities.keys.map MetricKind.value).Nodup := quantities.nodupKeys.map MetricKind.value_injective
  unfold metricTotals
  rw [Keyset.sortBy_eq_of_perm hkeys hunique]
  simp only [hquantities,hcosts]

section
variable {first fact : UsageFact} {window : UsageWindow} {card : PriceCard}

structure Charged (window : UsageWindow) (card : PriceCard) (fact : UsageFact) : Prop where
  service : fact.serviceRef = card.serviceRef
  inside : window.windowStart.1 ≤ fact.occurredAt.1 ∧ fact.occurredAt.1 < window.windowEnd
  rated : card.rateTable.get fact.metric ≠ none

def SameScope (fact other : UsageFact) : Prop := fact.tenantId = other.tenantId ∧ fact.allocation = other.allocation
def amounts (facts : List UsageFact) : List (MetricKind × ℕ) := facts.map fun f => (f.metric,f.quantity)
def charges (card : PriceCard) (facts : List UsageFact) : List (MetricKind × ℕ) :=
  facts.map fun f => (f.metric,f.quantity * (card.rateTable.get f.metric).getD 0)

variable {u : Unit} {tally tally' : Tally}

theorem checkFactScope_ok : checkFactScope fact first = .ok u ↔ SameScope fact first := by
  unfold checkFactScope SameScope
  rw [refuse_ok,not_or,not_not,not_not]
  exact and_iff_left rfl

theorem checkFactWindowAndPrice_ok {rate : ℕ} : checkFactWindowAndPrice fact card window = .ok rate ↔
    Charged window card fact ∧ (card.rateTable.get fact.metric).getD 0 = rate := by
  unfold checkFactWindowAndPrice
  rw [refuse_ok,refuse_ok,not_not,not_not]
  cases hrate : card.rateTable.get fact.metric with
  | none =>
    constructor
    · rintro ⟨-,-,h⟩
      cases h
    · rintro ⟨h,-⟩
      exact absurd hrate h.rated
  | some r =>
    constructor
    · rintro ⟨hservice,hinside,h⟩
      cases h
      exact ⟨⟨hservice,hinside,by rw [hrate]; exact Option.some_ne_none _⟩,rfl⟩
    · rintro ⟨h,rfl⟩
      exact ⟨h.service,h.inside,rfl⟩

theorem countFact_ok : Tally.countFact first window card tally fact = .ok tally' ↔
    fact.factId ∉ tally.seen ∧ SameScope fact first ∧ Charged window card fact ∧
      tally' = ⟨fact.factId :: tally.seen,Counter.add tally.totals fact.metric fact.quantity,
        Counter.add tally.costs fact.metric (fact.quantity * (card.rateTable.get fact.metric).getD 0)⟩ := by
  unfold Tally.countFact
  rw [refuse_ok,bind_ok]
  constructor
  · rintro ⟨hnew,u,hscope,h⟩
    obtain ⟨rate,hrate,hresult⟩ := bind_ok.mp h
    obtain ⟨hcharged,rfl⟩ := checkFactWindowAndPrice_ok.mp hrate
    exact ⟨hnew,checkFactScope_ok.mp hscope,hcharged,(Except.ok.inj hresult).symm⟩
  · rintro ⟨hnew,hscope,hcharged,rfl⟩
    exact ⟨hnew,(),checkFactScope_ok.mpr hscope,
      bind_ok.mpr ⟨_,checkFactWindowAndPrice_ok.mpr ⟨hcharged,rfl⟩,rfl⟩⟩

/-- The loop goes through iff the facts are new, distinct, of one scope and charged; it leaves their sums. -/
theorem foldlM_countFact_ok {facts : List UsageFact} :
    facts.foldlM (Tally.countFact first window card) tally = .ok tally' ↔
      (facts.map (·.factId)).Nodup ∧ (∀ f ∈ facts, f.factId ∉ tally.seen ∧ SameScope f first ∧ Charged window card f) ∧
        tally' = ⟨(facts.map (·.factId)).reverse ++ tally.seen,
          (amounts facts).foldl (fun d a => Counter.add d a.1 a.2) tally.totals,
          (charges card facts).foldl (fun d a => Counter.add d a.1 a.2) tally.costs⟩ := by
  induction facts generalizing tally with
  | nil =>
    constructor
    · intro h
      cases h
      exact ⟨List.nodup_nil,by simp,rfl⟩
    · rintro ⟨-,-,rfl⟩
      rfl
  | cons fact facts ih =>
    have hstep : (fact :: facts).foldlM (Tally.countFact first window card) tally = .ok tally' ↔
        ∃ next, Tally.countFact first window card tally fact = .ok next ∧
          facts.foldlM (Tally.countFact first window card) next = .ok tally' := by
      exact bind_ok
    rw [hstep,List.map_cons,List.nodup_cons,List.reverse_cons,List.append_assoc]
    constructor
    · rintro ⟨next,hnext,hrest⟩
      obtain ⟨hnew,hscope,hcharged,rfl⟩ := countFact_ok.mp hnext
      obtain ⟨hnodup,hfacts,htally⟩ := ih.mp hrest
      refine ⟨⟨?_,hnodup⟩,?_,htally⟩
      · intro hmem
        obtain ⟨f,hf,heq⟩ := List.mem_map.mp hmem
        exact (hfacts f hf).1 (by rw [heq]; exact List.mem_cons_self)
      · intro f hf
        rcases List.mem_cons.mp hf with rfl | hlater
        · exact ⟨hnew,hscope,hcharged⟩
        · obtain ⟨hunseen,hrest⟩ := hfacts f hlater
          exact ⟨fun hseen => hunseen (List.mem_cons_of_mem _ hseen),hrest⟩
    · rintro ⟨⟨hfirst,hnodup⟩,hfacts,htally⟩
      obtain ⟨hnew,hscope,hcharged⟩ := hfacts fact List.mem_cons_self
      refine ⟨_,countFact_ok.mpr ⟨hnew,hscope,hcharged,rfl⟩,ih.mpr ⟨hnodup,?_,htally⟩⟩
      intro f hf
      obtain ⟨hunseen,hrest⟩ := hfacts f (List.mem_cons_of_mem _ hf)
      refine ⟨?_,hrest⟩
      rw [List.mem_cons,not_or]
      refine ⟨fun heq => hfirst ?_,hunseen⟩
      rw [← heq]
      exact List.mem_map_of_mem hf

def Covers (card : PriceCard) (window : UsageWindow) : Prop :=
  card.effectiveFrom.1 ≤ window.windowStart.1 ∧ ∀ e ∈ card.effectiveTo, window.windowEnd ≤ e.1

theorem validateAggregateScope_ok : validateAggregateScope first window card = .ok u ↔ Covers card window := by
  unfold validateAggregateScope Covers
  rw [refuse_ok,refuse_ok,not_not,not_or,Int.not_lt,Bool.not_eq_true,Option.any_eq_false]
  simp only [decide_eq_false_iff_not,Int.not_lt]
  constructor
  · rintro ⟨-,⟨hfrom,hto⟩,-⟩
    exact ⟨hfrom,hto⟩
  · rintro ⟨hfrom,hto⟩
    exact ⟨first.sameTenant,⟨hfrom,hto⟩,trivial⟩

/-- The last part of both ways of aggregating. -/
def compose (tenantId : Ref) (allocation : AllocationRef) (window : UsageWindow) (factIds : List String)
    (cardId : String) (cardDigest : Digest) (amounts charges : List (MetricKind × ℕ)) :
    Except Refusal WindowAggregate :=
  (metricTotals (Counter.count amounts) (Counter.count charges)).bind fun totals =>
    WindowAggregate.make tenantId allocation window (sortBy (fun text => text) factIds) cardId cardDigest totals

theorem compose_congr {tenantId : Ref} {allocation : AllocationRef} {factIds factIds' : List String} {cardId : String}
    {cardDigest : Digest} {a a' c c' : List (MetricKind × ℕ)} (hids : factIds.Perm factIds') (hnodup : factIds.Nodup)
    (ha : Counter.Same a a') (hc : Counter.Same c c') :
    compose tenantId allocation window factIds cardId cardDigest a c =
      compose tenantId allocation window factIds' cardId cardDigest a' c' := by
  unfold compose
  rw [metricTotals_congr ha.get_count hc.get_count,Keyset.sortBy_eq_of_perm hids (by rwa [List.map_id'])]

theorem aggregateUsage_ok {facts : List UsageFact} {aggregate : WindowAggregate} :
    aggregateUsage facts window card = .ok aggregate ↔ ∃ first rest, facts = first :: rest ∧ Covers card window ∧
      (facts.map (·.factId)).Nodup ∧ (∀ f ∈ facts, SameScope f first ∧ Charged window card f) ∧
      compose first.tenantId first.allocation window (facts.map (·.factId)) card.cardId card.cardDigest
        (amounts facts) (charges card facts) = .ok aggregate := by
  cases facts with
  | nil =>
    constructor
    · intro h
      cases h
    · rintro ⟨first,rest,h,-⟩
      cases h
  | cons first rest =>
    have hseen : sortBy (fun text => text) (((first :: rest).map (·.factId)).reverse ++ []) =
        sortBy (fun text => text) (((first :: rest).map (·.factId)).reverse) := by
      rw [List.append_nil]
    unfold aggregateUsage
    rw [bind_ok]
    constructor
    · rintro ⟨u,hscope,h⟩
      obtain ⟨tally,htally,hcompose⟩ := bind_ok.mp h
      obtain ⟨hnodup,hfacts,rfl⟩ := foldlM_countFact_ok.mp htally
      refine ⟨first,rest,rfl,validateAggregateScope_ok.mp hscope,hnodup,fun f hf => (hfacts f hf).2,?_⟩
      rw [compose_congr (List.reverse_perm _).symm hnodup (.of_perm (.refl _)) (.of_perm (.refl _))]
      rw [hseen] at hcompose
      exact hcompose
    · rintro ⟨first',rest',heq,hcovers,hnodup,hfacts,hcompose⟩
      cases heq
      refine ⟨(),validateAggregateScope_ok.mpr hcovers,bind_ok.mpr ⟨_,foldlM_countFact_ok.mpr ⟨hnodup,?_,rfl⟩,?_⟩⟩
      · intro f hf
        exact ⟨List.not_mem_nil,hfacts f hf⟩
      · rw [compose_congr (List.reverse_perm _).symm hnodup (.of_perm (.refl _)) (.of_perm (.refl _))] at hcompose
        rw [hseen]
        exact hcompose

end

section
variable {card : PriceCard} {window day : UsageWindow} {facts : List UsageFact} {aggregate : WindowAggregate}

variable {tenantId : Ref} {m : MetricKind} {totals : List MetricTotal} {l : List (MetricKind × ℕ)}
  {allocation : AllocationRef}

theorem WindowAggregate.make_ok {factIds : List String}
    {cardId : String} {cardDigest : Digest} (h : make tenantId allocation window factIds cardId cardDigest totals =
    .ok aggregate) : aggregate.tenantId = tenantId ∧ aggregate.allocation = allocation ∧ aggregate.window = window ∧
      aggregate.factIds = sortBy (fun text => text) factIds ∧ aggregate.priceCardId.1 = cardId ∧
      aggregate.priceCardDigest = cardDigest ∧ aggregate.totals = sortBy (fun t => t.metric.value) totals := by
  unfold make at h
  iterate 6 obtain ⟨_,h⟩ := Checks.dite_ok.mp h
  cases h
  exact ⟨rfl,rfl,rfl,rfl,rfl,rfl,rfl⟩

theorem WindowAggregate.exists_make {factIds : List String} {cardId : String} (cardDigest : Digest)
    (hids : 1 ≤ factIds.length ∧ factIds.length ≤ maxFactIdsPerAggregate) (hcard : isBoundedRef 100 cardId = true)
    (htotals : 1 ≤ totals.length ∧ totals.length ≤ maxMetricKinds) (htenant : allocation.tenantId = tenantId)
    (hunique : factIds.Nodup) (hmetrics : (totals.map fun t => t.metric.value).Nodup) :
    ∃ aggregate, make tenantId allocation window factIds cardId cardDigest totals = .ok aggregate := by
  unfold make
  rw [dif_pos hids,dif_pos hcard,dif_pos htotals,dif_pos htenant,dif_pos hunique,dif_pos hmetrics]
  exact ⟨_,rfl⟩

structure Summarizes (card : PriceCard) (window : UsageWindow) (facts : List UsageFact) (aggregate : WindowAggregate) :
    Prop where
  covers : Covers card window
  nonempty : facts ≠ []
  scope : ∀ f ∈ facts, f.tenantId = aggregate.tenantId ∧ f.allocation = aggregate.allocation
  charged : ∀ f ∈ facts, Charged window card f
  window : aggregate.window = window
  factIds : aggregate.factIds.Perm (facts.map (·.factId))
  cardId : aggregate.priceCardId.1 = card.cardId
  cardDigest : aggregate.priceCardDigest = card.cardDigest
  amounts : Counter.Same (aggregate.totals.map fun t => (t.metric,t.quantity)) (amounts facts)
  charges : Counter.Same (aggregate.totals.map fun t => (t.metric,t.costMicros)) (charges card facts)

theorem mem_count_keys : m ∈ AList.keys (Counter.count l) ↔ m ∈ l.map Prod.fst := by
  have hkeys : m ∈ AList.keys (Counter.count l) ↔ (Counter.count l).get m ≠ none := Dict.mem_keys
  rw [hkeys,Counter.get_count]
  split_ifs with h
  · simp [h]
  · simp [h]

theorem getD_count (h : m ∈ l.map Prod.fst) : ((Counter.count l).get m).getD 0 = Counter.total l m := by
  rw [Counter.get_count,if_pos h]
  rfl

theorem summarizes (h : aggregateUsage facts window card = .ok aggregate) : Summarizes card window facts aggregate := by
  obtain ⟨first,rest,hfacts,hcovers,hnodup,hall,hcompose⟩ := aggregateUsage_ok.mp h
  obtain ⟨totals,htotals,hmake⟩ := bind_ok.mp hcompose
  obtain ⟨htenant,hallocation,hwindow,hids,hcard,hdigest,hsorted⟩ := WindowAggregate.make_ok hmake
  obtain ⟨hmetrics,hvalues⟩ := metricTotals_ok htotals
  have hmetricsOf : (amounts facts).map Prod.fst = facts.map (·.metric) := by
    unfold amounts
    rw [List.map_map]
    rfl
  have hchargesOf : (charges card facts).map Prod.fst = facts.map (·.metric) := by
    unfold charges
    rw [List.map_map]
    rfl
  have hperm : aggregate.totals.Perm totals := by
    rw [hsorted]
    exact Keyset.sortBy_perm totals
  have hunique : (aggregate.totals.map (·.metric)).Nodup := by
    apply ((hperm.map (·.metric)).nodup_iff).mpr
    rw [hmetrics]
    exact (Keyset.sortBy_perm _).nodup_iff.mpr (AList.nodupKeys _)
  have hkeys : ∀ m, m ∈ aggregate.totals.map (·.metric) ↔ m ∈ facts.map (·.metric) := by
    intro m
    rw [(hperm.map (·.metric)).mem_iff,hmetrics,Keyset.mem_sortBy,← hmetricsOf]
    exact mem_count_keys
  have hvalue : ∀ t ∈ aggregate.totals, t.quantity = Counter.total (amounts facts) t.metric ∧
      t.costMicros = Counter.total (charges card facts) t.metric := by
    intro t ht
    have hmetric := (hkeys t.metric).mp (List.mem_map_of_mem ht)
    obtain ⟨hquantity,hcost⟩ := hvalues t (hperm.mem_iff.mp ht)
    rw [getD_count (by rwa [hmetricsOf])] at hquantity
    rw [getD_count (by rwa [hchargesOf])] at hcost
    exact ⟨hquantity,hcost⟩
  have hfst : ∀ f : MetricTotal → ℕ,
      (aggregate.totals.map fun t => (t.metric,f t)).map Prod.fst = aggregate.totals.map (·.metric) := by
    intro f
    rw [List.map_map]
    rfl
  refine ⟨hcovers,by simp [hfacts],?_,fun f hf => (hall f hf).2,hwindow,?_,hcard,hdigest,?_,?_⟩
  · intro f hf
    rw [htenant,hallocation]
    exact (hall f hf).1
  · rw [hids]
    exact (Keyset.sortBy_perm _).trans (Keyset.sortBy_perm _)
  · apply @Counter.Same.of_entries MetricKind
    · rwa [hfst]
    · rwa [hfst,hmetricsOf]
    · intro entry hentry
      obtain ⟨t,ht,rfl⟩ := List.mem_map.mp hentry
      exact (hvalue t ht).1
  · apply @Counter.Same.of_entries MetricKind
    · rwa [hfst]
    · rwa [hfst,hchargesOf]
    · intro entry hentry
      obtain ⟨t,ht,rfl⟩ := List.mem_map.mp hentry
      exact (hvalue t ht).2

end

section
variable {day : UsageWindow} {hours : List WindowAggregate} {aggregate : WindowAggregate}

def Complete (day : UsageWindow) (hours : List WindowAggregate) : Prop :=
  (∀ t, t ∈ hours.map (fun item => item.window.windowStart.1) ↔
    t ∈ (List.range 24).map fun i : ℕ => day.windowStart.1 + i * hourMicros) ∧ hours.length = 24

theorem validateDailyCompleteness_ok {u : Unit} : validateDailyCompleteness day hours = .ok u ↔ Complete day hours := by
  unfold validateDailyCompleteness Complete
  rw [refuse_ok,not_or,not_not,not_not]
  constructor
  · rintro ⟨⟨⟨hexpected,hactual⟩,hlength⟩,-⟩
    exact ⟨fun t => ⟨fun h => hactual h,fun h => hexpected h⟩,hlength⟩
  · rintro ⟨hsame,hlength⟩
    exact ⟨⟨⟨fun t h => (hsame t).mpr h,fun t h => (hsame t).mp h⟩,hlength⟩,rfl⟩

theorem aggregateDaily_ok : aggregateDailyFromHours hours day = .ok aggregate ↔ day.granularity = .day ∧
    Complete day hours ∧ ∃ first rest, hours = first :: rest ∧
      (∀ item ∈ hours, item.tenantId = first.tenantId ∧ item.allocation = first.allocation ∧
        item.priceCardId = first.priceCardId ∧ item.priceCardDigest = first.priceCardDigest) ∧
      (hours.flatMap (·.factIds)).Nodup ∧
      compose first.tenantId first.allocation day (hours.flatMap (·.factIds)) first.priceCardId.1 first.priceCardDigest
        (hours.flatMap fun item => item.totals.map fun t => (t.metric,t.quantity))
        (hours.flatMap fun item => item.totals.map fun t => (t.metric,t.costMicros)) = .ok aggregate := by
  have hscope : ∀ (first : WindowAggregate) (u : Unit), validateDailyScopeConsistency first hours = .ok u ↔
      ∀ item ∈ hours, item.tenantId = first.tenantId ∧ item.allocation = first.allocation ∧
        item.priceCardId = first.priceCardId ∧ item.priceCardDigest = first.priceCardDigest := by
    intro first u
    unfold validateDailyScopeConsistency
    rw [refuse_ok,Bool.not_eq_true,List.any_eq_false]
    simp only [Bool.or_eq_true,bne_iff_ne,not_or,ne_eq,not_not,and_assoc,and_true]
  have hids : ∀ ids, validateDailyFactIds hours = .ok ids ↔
      (hours.flatMap (·.factIds)).Nodup ∧ hours.flatMap (·.factIds) = ids := by
    intro ids
    unfold validateDailyFactIds
    rw [refuse_ok,not_not,Except.ok.injEq]
  unfold aggregateDailyFromHours
  rw [refuse_ok,not_not,bind_ok]
  constructor
  · rintro ⟨hday,u,hcomplete,h⟩
    refine ⟨hday,validateDailyCompleteness_ok.mp hcomplete,?_⟩
    cases hhours : hours with
    | nil =>
      rw [hhours] at h
      cases h
    | cons first rest =>
      rw [hhours] at h hscope hids
      obtain ⟨u',hconsistent,hrest⟩ := bind_ok.mp h
      obtain ⟨ids,hvalid,hresult⟩ := bind_ok.mp hrest
      obtain ⟨hnodup,rfl⟩ := (hids ids).mp hvalid
      exact ⟨first,rest,rfl,(hscope first u').mp hconsistent,hnodup,hresult⟩
  · rintro ⟨hday,hcomplete,first,rest,rfl,hconsistent,hnodup,hresult⟩
    refine ⟨hday,(),validateDailyCompleteness_ok.mpr hcomplete,?_⟩
    exact bind_ok.mpr ⟨(),(hscope first ()).mpr hconsistent,bind_ok.mpr ⟨_,(hids _).mpr ⟨hnodup,rfl⟩,hresult⟩⟩

theorem toOption_eq {α ε : Type} {x y : Except ε α} (h : ∀ a, x = .ok a ↔ y = .ok a) : x.toOption = y.toOption := by
  cases x with
  | ok a => rw [(h a).mp rfl]
  | error e =>
    cases y with
    | ok a => exact nomatch (h a).mpr rfl
    | error e' => rfl

theorem micros_hour : WindowGranularity.hour.micros = 3600000000 := rfl
theorem micros_day : WindowGranularity.day.micros = 86400000000 := rfl

def hourWindow (day : UsageWindow) (hday : day.granularity = .day) (i : Fin 24) : UsageWindow where
  granularity := .hour
  windowStart := ⟨day.windowStart.1 + i * hourMicros,by
    have haligned := day.aligned
    have hbounds := day.windowStart.2
    have hi := i.2
    rw [hday,micros_day] at haligned
    unfold hourMicros Arbora.Scaling.supportedFrom Arbora.Scaling.supportedUntil at *
    omega⟩
  aligned := by
    have haligned := day.aligned
    rw [hday,micros_day] at haligned
    rw [micros_hour]
    unfold hourMicros
    dsimp only
    omega

variable {card : PriceCard} {hday : day.granularity = .day} {hourly : Fin 24 → List UsageFact}
  {aggregates : Fin 24 → WindowAggregate} {facts : List UsageFact}

theorem complete_of_perm (hwindows : ∀ i, (aggregates i).window = hourWindow day hday i)
    (horder : hours.Perm (List.ofFn aggregates)) : Complete day hours := by
  constructor
  · intro t
    rw [(horder.map _).mem_iff,List.mem_map,List.mem_map]
    constructor
    · rintro ⟨item,hitem,rfl⟩
      obtain ⟨i,rfl⟩ := List.mem_ofFn.mp hitem
      refine ⟨i,List.mem_range.mpr i.2,?_⟩
      rw [hwindows i]
      rfl
    · rintro ⟨i,hi,rfl⟩
      refine ⟨aggregates ⟨i,List.mem_range.mp hi⟩,List.mem_ofFn.mpr ⟨_,rfl⟩,?_⟩
      rw [hwindows]
      rfl
  · rw [horder.length_eq,List.length_ofFn]

theorem Charged.of_hour {fact : UsageFact} {i : Fin 24} (h : Charged (hourWindow day hday i) card fact) :
    Charged day card fact := by
  refine ⟨h.service,?_,h.rated⟩
  have hinside := h.inside
  unfold UsageWindow.windowEnd at *
  rw [hday,micros_day]
  unfold hourWindow hourMicros at hinside
  dsimp only at hinside
  rw [micros_hour] at hinside
  omega

theorem covers_of_hours (h : ∀ i, Covers card (hourWindow day hday i)) : Covers card day := by
  refine ⟨?_,fun e he => ?_⟩
  · have hfirst := (h 0).1
    unfold hourWindow at hfirst
    simpa using hfirst
  · have hlast := (h 23).2 e he
    unfold UsageWindow.windowEnd at *
    rw [hday,micros_day]
    unfold hourWindow hourMicros at hlast
    dsimp only at hlast
    rw [micros_hour] at hlast
    omega

section
variable (hsum : ∀ i, Summarizes card (hourWindow day hday i) (hourly i) (aggregates i))
  (horder : hours.Perm (List.ofFn aggregates)) (hfacts : facts.Perm (List.ofFn hourly).flatten)

theorem flatten_eq : (List.ofFn hourly).flatten = (List.finRange 24).flatMap hourly := by
  rfl

include horder in
theorem flatMap_hours_perm {β : Type} (f : WindowAggregate → List β) :
    (hours.flatMap f).Perm ((List.finRange 24).flatMap fun i => f (aggregates i)) := by
  have hperm := horder.flatMap_right f
  rwa [List.ofFn_eq_map,List.flatMap_map] at hperm

include hfacts in
theorem map_facts_perm {β : Type} (g : UsageFact → β) :
    (facts.map g).Perm ((List.finRange 24).flatMap fun i => (hourly i).map g) := by
  have hperm := hfacts.map g
  rwa [flatten_eq,List.map_flatMap] at hperm

include hsum horder hfacts

theorem hours_factIds : (hours.flatMap (·.factIds)).Perm (facts.map (·.factId)) :=
  (flatMap_hours_perm horder _).trans
    ((List.Perm.flatMap_left _ fun i _ => (hsum i).factIds).trans (map_facts_perm hfacts _).symm)

theorem hours_amounts :
    Counter.Same (hours.flatMap fun item => item.totals.map fun t => (t.metric,t.quantity)) (amounts facts) :=
  (Counter.Same.of_perm (flatMap_hours_perm horder _)).trans
    ((Counter.Same.flatMap fun i _ => (hsum i).amounts).trans (Counter.Same.of_perm (map_facts_perm hfacts _).symm))

theorem hours_charges :
    Counter.Same (hours.flatMap fun item => item.totals.map fun t => (t.metric,t.costMicros)) (charges card facts) :=
  (Counter.Same.of_perm (flatMap_hours_perm horder _)).trans
    ((Counter.Same.flatMap fun i _ => (hsum i).charges).trans (Counter.Same.of_perm (map_facts_perm hfacts _).symm))

variable {f : UsageFact}

omit hsum horder in
theorem exists_hour (hf : f ∈ facts) : ∃ i, f ∈ hourly i := by
  have hmem := hfacts.mem_iff.mp hf
  rw [flatten_eq,List.mem_flatMap] at hmem
  obtain ⟨i,-,hi⟩ := hmem
  exact ⟨i,hi⟩

omit hsum horder in
theorem mem_facts {i : Fin 24} (hf : f ∈ hourly i) : f ∈ facts := by
  apply hfacts.mem_iff.mpr
  rw [flatten_eq,List.mem_flatMap]
  exact ⟨i,List.mem_finRange i,hf⟩

theorem scope_iff {item : WindowAggregate} (hitem : item ∈ hours) :
    (∀ g ∈ facts, SameScope g f) ↔ (f.tenantId = item.tenantId ∧ f.allocation = item.allocation ∧
      ∀ other ∈ hours, other.tenantId = item.tenantId ∧ other.allocation = item.allocation) := by
  have hindex : ∀ other ∈ hours, ∃ i, aggregates i = other := by
    intro other hother
    exact List.mem_ofFn.mp (horder.mem_iff.mp hother)
  have hwitness : ∀ other ∈ hours, ∃ g ∈ facts, g.tenantId = other.tenantId ∧ g.allocation = other.allocation := by
    intro other hother
    obtain ⟨i,rfl⟩ := hindex other hother
    obtain ⟨g,hg⟩ := List.exists_mem_of_ne_nil _ (hsum i).nonempty
    exact ⟨g,mem_facts hfacts hg,(hsum i).scope g hg⟩
  constructor
  · intro hall
    have hsame : ∀ other ∈ hours, other.tenantId = f.tenantId ∧ other.allocation = f.allocation := by
      intro other hother
      obtain ⟨g,hg,htenant,hallocation⟩ := hwitness other hother
      obtain ⟨htenant',hallocation'⟩ := hall g hg
      exact ⟨htenant.symm.trans htenant',hallocation.symm.trans hallocation'⟩
    obtain ⟨htenant,hallocation⟩ := hsame item hitem
    refine ⟨htenant.symm,hallocation.symm,fun other hother => ?_⟩
    obtain ⟨htenant',hallocation'⟩ := hsame other hother
    exact ⟨htenant'.trans htenant.symm,hallocation'.trans hallocation.symm⟩
  · rintro ⟨htenant,hallocation,hall⟩ g hg
    obtain ⟨i,hi⟩ := exists_hour hfacts hg
    obtain ⟨htenant',hallocation'⟩ := (hsum i).scope g hi
    have hmem : aggregates i ∈ hours := horder.mem_iff.mpr (List.mem_ofFn.mpr ⟨i,rfl⟩)
    obtain ⟨htenant'',hallocation''⟩ := hall _ hmem
    exact ⟨htenant'.trans (htenant''.trans htenant.symm),hallocation'.trans (hallocation''.trans hallocation.symm)⟩

end

/-- Hours compose to what their facts aggregate to: composing the aggregates of the 24 hours of a day, in any order,
gives what aggregating all of the facts in any order gives, and one is refused iff the other is. The identity and
the digest of an aggregate are functions of it. -/
theorem hours_compose_to_day (day : UsageWindow) (hday : day.granularity = .day) (card : PriceCard)
    (hourly : Fin 24 → List UsageFact) (aggregates : Fin 24 → WindowAggregate)
    (hhours : ∀ i, aggregateUsage (hourly i) (hourWindow day hday i) card = .ok (aggregates i))
    (hours : List WindowAggregate) (horder : hours.Perm (List.ofFn aggregates)) (facts : List UsageFact)
    (hfacts : facts.Perm (List.ofFn hourly).flatten) :
    (aggregateDailyFromHours hours day).toOption = (aggregateUsage facts day card).toOption := by
  have hsum : ∀ i, Summarizes card (hourWindow day hday i) (hourly i) (aggregates i) := fun i => summarizes (hhours i)
  have hids := hours_factIds hsum horder hfacts
  have hcharged : ∀ f ∈ facts, Charged day card f := by
    intro f hf
    obtain ⟨i,hi⟩ := exists_hour hfacts hf
    exact ((hsum i).charged f hi).of_hour
  have hcards : ∀ item ∈ hours, item.priceCardId.1 = card.cardId ∧ item.priceCardDigest = card.cardDigest := by
    intro item hitem
    obtain ⟨i,rfl⟩ := List.mem_ofFn.mp (horder.mem_iff.mp hitem)
    exact ⟨(hsum i).cardId,(hsum i).cardDigest⟩
  have hcomplete : Complete day hours := complete_of_perm (fun i => (hsum i).window) horder
  -- where the scopes agree, both end in the same composition
  have hcompose : ∀ (f : UsageFact) (item : WindowAggregate), item ∈ hours → f.tenantId = item.tenantId →
      f.allocation = item.allocation → (hours.flatMap (·.factIds)).Nodup →
      compose item.tenantId item.allocation day (hours.flatMap (·.factIds)) item.priceCardId.1 item.priceCardDigest
        (hours.flatMap fun item => item.totals.map fun t => (t.metric,t.quantity))
        (hours.flatMap fun item => item.totals.map fun t => (t.metric,t.costMicros)) =
      compose f.tenantId f.allocation day (facts.map (·.factId)) card.cardId card.cardDigest (amounts facts)
        (charges card facts) := by
    intro f item hitem htenant hallocation hnodup
    rw [htenant,hallocation,(hcards item hitem).1,(hcards item hitem).2]
    exact compose_congr hids hnodup (hours_amounts hsum horder hfacts) (hours_charges hsum horder hfacts)
  apply toOption_eq
  intro aggregate
  rw [aggregateDaily_ok,aggregateUsage_ok]
  constructor
  · rintro ⟨-,-,item,rest,hhead,hconsistent,hnodup,hresult⟩
    have hitem : item ∈ hours := by
      rw [hhead]
      exact List.mem_cons_self
    obtain ⟨f,rest',hfirst⟩ : ∃ f rest', facts = f :: rest' := by
      obtain ⟨g,hg⟩ := List.exists_mem_of_ne_nil _ (hsum 0).nonempty
      exact List.exists_cons_of_ne_nil (List.ne_nil_of_mem (mem_facts hfacts hg))
    have hf : f ∈ facts := by
      rw [hfirst]
      exact List.mem_cons_self
    obtain ⟨i,hi⟩ := exists_hour hfacts hf
    obtain ⟨htenant,hallocation⟩ := (hsum i).scope f hi
    obtain ⟨htenant',hallocation',-⟩ := hconsistent _ (horder.mem_iff.mpr (List.mem_ofFn.mpr ⟨i,rfl⟩))
    have hscope := (scope_iff hsum horder hfacts hitem).mpr
      ⟨htenant.trans htenant',hallocation.trans hallocation',fun other hother =>
        ⟨(hconsistent other hother).1,(hconsistent other hother).2.1⟩⟩
    refine ⟨f,rest',hfirst,covers_of_hours fun i => (hsum i).covers,hids.nodup_iff.mp hnodup,
      fun g hg => ⟨hscope g hg,hcharged g hg⟩,?_⟩
    rw [← hcompose f item hitem (htenant.trans htenant') (hallocation.trans hallocation') hnodup]
    exact hresult
  · rintro ⟨f,rest',hfirst,-,hnodup,hall,hresult⟩
    obtain ⟨item,rest,hhead⟩ : ∃ item rest, hours = item :: rest :=
      List.exists_cons_of_ne_nil (List.ne_nil_of_length_pos (by rw [hcomplete.2]; decide))
    have hitem : item ∈ hours := by
      rw [hhead]
      exact List.mem_cons_self
    obtain ⟨htenant,hallocation,hothers⟩ := (scope_iff hsum horder hfacts hitem).mp fun g hg => (hall g hg).1
    have hdistinct := hids.nodup_iff.mpr hnodup
    refine ⟨hday,hcomplete,item,rest,hhead,?_,hdistinct,?_⟩
    · intro other hother
      obtain ⟨hcard,hdigest⟩ := hcards other hother
      obtain ⟨hcard',hdigest'⟩ := hcards item hitem
      exact ⟨(hothers other hother).1,(hothers other hother).2,Subtype.ext (hcard.trans hcard'.symm),
        hdigest.trans hdigest'.symm⟩
    · rw [hcompose f item hitem htenant hallocation hdistinct]
      exact hresult

end

theorem cardId_valid (card : PriceCard) : isBoundedRef 100 card.cardId = true := by
  have hsize : ((hashOf card.identityPayload).take 32).length ≤ 32 := List.length_take_le _ _
  have hlabel : "price:".toList.length = 6 := by decide
  have hlength : 1 ≤ card.cardId.length ∧ card.cardId.length ≤ 100 := by
    unfold PriceCard.cardId identityOf
    rw [String.length_ofList,List.length_append,hlabel]
    omega
  exact Arbora.Placement.isBoundedRef_of hlength
    (Arbora.Placement.isRef_label_hash _ (by decide) (by decide) (by decide) (by decide +kernel))

namespace Fixture

def card : PriceCard where
  providerRef := tenant
  serviceRef := tenant
  currency := ⟨"EUR",by decide⟩
  version := 1
  effectiveFrom := newYear
  effectiveTo := none
  rates := [⟨.tokens,1,by decide⟩]
  sourceRef := tenant
  sourceDigest := digest
  versionBounded := by decide
  follows := by simp
  ratesBounded := by decide
  ratesUnique := by decide

def day : UsageWindow := ⟨.day,newYear,by decide⟩

def fact (i : Fin 24) : UsageFact where
  tenantId := tenant
  allocation := ⟨tenant,tenant,tenant,none⟩
  sourceRef := tenant
  sourceDigest := digest
  occurredAt := (hourWindow day rfl i).windowStart
  metric := .tokens
  quantity := 1
  inputQuantity := none
  outputQuantity := none
  serviceRef := tenant
  meterRef := tenant
  sampleSequence := none
  dimensions := []
  quantityBounded := by decide
  partsBounded := by simp
  sequenceBounded := by simp
  dimensionsBounded := by decide
  sameTenant := rfl
  keysUnique := by simp
  tokenParts := by simp
  otherParts := by simp

def midnight : Fin 24 := 0

theorem newYear_hourly : newYear.1 % WindowGranularity.hour.micros = 0 := by decide

theorem hour_aggregated (i : Fin 24) :
    ∃ aggregate, aggregateUsage [fact i] (hourWindow day rfl i) card = .ok aggregate := by
  have htotals : metricTotals (Counter.count (amounts [fact i])) (Counter.count (charges card [fact i])) =
      .ok [oneToken] := rfl
  have hmake : ∃ aggregate, WindowAggregate.make tenant (fact i).allocation (hourWindow day rfl i)
      (sortBy (fun text => text) [(fact i).factId]) card.cardId card.cardDigest
      [oneToken] = .ok aggregate :=
    WindowAggregate.exists_make _ ⟨Nat.le_refl 1,(by decide : 1 ≤ maxFactIdsPerAggregate)⟩ (cardId_valid card)
      ⟨Nat.le_refl 1,(by decide : 1 ≤ maxMetricKinds)⟩ rfl
      (List.nodup_singleton _) (List.nodup_singleton _)
  obtain ⟨aggregate,haggregate⟩ := hmake
  refine ⟨aggregate,aggregateUsage_ok.mpr ⟨fact i,[],rfl,⟨?_,?_⟩,List.nodup_singleton _,?_,?_⟩⟩
  · show card.effectiveFrom.1 ≤ day.windowStart.1 + i * hourMicros
    have hstart : card.effectiveFrom.1 = day.windowStart.1 := rfl
    unfold hourMicros
    omega
  · intro e he
    cases he
  · intro f hf
    rw [List.mem_singleton.mp hf]
    refine ⟨⟨rfl,rfl⟩,rfl,⟨le_refl _,?_⟩,(by decide : card.rateTable.get .tokens ≠ none)⟩
    show (hourWindow day rfl i).windowStart.1 < (hourWindow day rfl i).windowStart.1 + 3600000000
    omega
  · exact bind_ok.mpr ⟨_,htotals,haggregate⟩

end Fixture

theorem hours_compose_on_new_year : ∃ hours : List WindowAggregate, hours.length = 24 ∧
    (aggregateDailyFromHours hours Fixture.day).toOption =
      (aggregateUsage (List.ofFn fun i => [Fixture.fact i]).flatten Fixture.day Fixture.card).toOption := by
  choose aggregates hhours using Fixture.hour_aggregated
  exact ⟨List.ofFn aggregates,List.length_ofFn,
    hours_compose_to_day Fixture.day rfl Fixture.card (fun i => [Fixture.fact i]) aggregates hhours _ (.refl _) _
      (.refl _)⟩

end Arbora.Economics

/-! What is composed to a day: its 24 hours, each once, where all inputs are of hours. -/
namespace Arbora.Economics

section

variable {day : UsageWindow} {hday : day.granularity = .day} {hours : List WindowAggregate} {aggregate : WindowAggregate}

def UsageWindow.Covers (w : UsageWindow) (t : ℤ) : Prop := w.windowStart.1 ≤ t ∧ t < w.windowEnd
def ExactHours (day : UsageWindow) (hday : day.granularity = .day) (hours : List WindowAggregate) : Prop :=
  (hours.map (·.window)).Perm (List.ofFn (hourWindow day hday))

/-- No instant of the day is left out, and none is counted twice. -/
def Tiles (day : UsageWindow) (hours : List WindowAggregate) : Prop :=
  (∀ t, day.Covers t → ∃ item ∈ hours, item.window.Covers t) ∧
    hours.Pairwise fun a b => ∀ t, ¬(a.window.Covers t ∧ b.window.Covers t)

variable {i : Fin 24}

theorem covers_hour {t : ℤ} : (hourWindow day hday i).Covers t ↔
    day.windowStart.1 + i * 3600000000 ≤ t ∧ t < day.windowStart.1 + i * 3600000000 + 3600000000 := by
  have hend : (hourWindow day hday i).windowEnd = (hourWindow day hday i).windowStart.1 + 3600000000 := rfl
  have hstart : (hourWindow day hday i).windowStart.1 = day.windowStart.1 + i * 3600000000 := rfl
  rw [UsageWindow.Covers,hend,hstart]

theorem hourWindow_injective : Function.Injective (hourWindow day hday) := by
  intro i j h
  have hstart : day.windowStart.1 + i * hourMicros = day.windowStart.1 + j * hourMicros :=
    congrArg (fun w : UsageWindow => w.windowStart.1) h
  apply Fin.ext
  unfold hourMicros at hstart
  omega

theorem window_eq_hour {item : WindowAggregate} (hhour : item.window.granularity = .hour)
    (hstart : item.window.windowStart.1 = day.windowStart.1 + i * hourMicros) : item.window = hourWindow day hday i := by
  apply UsageWindow.ext
  · exact hhour
  · exact Subtype.ext hstart

theorem exactHours_of_hourly (hcomplete : Complete day hours) (hhourly : ∀ item ∈ hours, item.window.granularity = .hour) :
    ExactHours day hday hours := by
  have hnodup : (List.ofFn (hourWindow day hday)).Nodup := List.nodup_ofFn.mpr hourWindow_injective
  have hsubset : List.ofFn (hourWindow day hday) ⊆ hours.map (·.window) := by
    intro w hw
    obtain ⟨i,rfl⟩ := List.mem_ofFn.mp hw
    have hexpected : day.windowStart.1 + i * hourMicros ∈ (List.range 24).map fun i : ℕ => day.windowStart.1 + i * hourMicros :=
      List.mem_map.mpr ⟨i,List.mem_range.mpr i.2,rfl⟩
    obtain ⟨item,hitem,hstart⟩ := List.mem_map.mp ((hcomplete.1 _).mpr hexpected)
    exact List.mem_map.mpr ⟨item,hitem,window_eq_hour (hhourly item hitem) hstart⟩
  have hlength : (hours.map (·.window)).length ≤ (List.ofFn (hourWindow day hday)).length := by
    rw [List.length_map,List.length_ofFn,hcomplete.2]
  exact ((List.subperm_of_subset hnodup hsubset).perm_of_length_le hlength).symm

theorem ExactHours.tiles (h : ExactHours day hday hours) : Tiles day hours := by
  constructor
  · intro t ht
    have hend : day.windowEnd = day.windowStart.1 + 86400000000 := by
      rw [UsageWindow.windowEnd,hday,micros_day]
    obtain ⟨hfrom,huntil⟩ := ht
    -- the hour in which the instant lies
    have hi : ((t - day.windowStart.1) / 3600000000).toNat < 24 := by omega
    have hmem : hourWindow day hday ⟨_,hi⟩ ∈ hours.map (·.window) := h.mem_iff.mpr (List.mem_ofFn.mpr ⟨_,rfl⟩)
    obtain ⟨item,hitem,hwindow⟩ := List.mem_map.mp hmem
    refine ⟨item,hitem,?_⟩
    rw [hwindow,covers_hour]
    dsimp only
    omega
  · have hhours : (List.ofFn (hourWindow day hday)).Pairwise fun a b => ∀ t, ¬(a.Covers t ∧ b.Covers t) := by
      rw [List.pairwise_ofFn]
      intro i j hij t hboth
      rw [covers_hour,covers_hour] at hboth
      omega
    have hsymm : ∀ {a b : UsageWindow}, (∀ t, ¬(a.Covers t ∧ b.Covers t)) → ∀ t, ¬(b.Covers t ∧ a.Covers t) :=
      fun hab t hboth => hab t hboth.symm
    exact List.pairwise_map.mp ((h.pairwise_iff hsymm).mpr hhours)

/-- A composed day is exactly its 24 hours where no input is a day. -/
theorem composed_hours_exact_iff (hours : List WindowAggregate) (day : UsageWindow) (hday : day.granularity = .day)
    (aggregate : WindowAggregate) (h : aggregateDailyFromHours hours day = .ok aggregate) :
    ExactHours day hday hours ∧ Tiles day hours ↔ ∀ item ∈ hours, item.window.granularity = .hour := by
  constructor
  · rintro ⟨hexact,-⟩ item hitem
    obtain ⟨i,hi⟩ := List.mem_ofFn.mp (hexact.mem_iff.mp (List.mem_map.mpr ⟨item,hitem,rfl⟩))
    rw [← hi]
    rfl
  · intro hhourly
    have hexact : ExactHours day hday hours := exactHours_of_hourly (aggregateDaily_ok.mp h).2.1 hhourly
    exact ⟨hexact,hexact.tiles⟩

end

namespace Fixture

def bucket (first : UsageWindow) (i : Fin 24) : WindowAggregate where
  tenantId := tenant
  allocation := ⟨tenant,tenant,tenant,none⟩
  window := if i = 0 then first else hourWindow day rfl i
  factIds := ["fact:" ++ toString i.1]
  priceCardId := ⟨"price:one",by decide +kernel⟩
  priceCardDigest := digest
  totals := [oneToken]
  factIdsBounded := ⟨Nat.le_refl 1,(by decide : 1 ≤ maxFactIdsPerAggregate)⟩
  totalsBounded := by decide
  sameTenant := rfl
  factIdsSorted := List.pairwise_singleton _ _
  totalsSorted := List.pairwise_singleton _ _

theorem hours_composed : ∃ aggregate,
    aggregateDailyFromHours (List.ofFn (bucket (hourWindow day rfl 0))) day = .ok aggregate :=
  Checks.exists_ok (by decide +kernel)

theorem day_among_hours_composed : ∃ aggregate, aggregateDailyFromHours (List.ofFn (bucket day)) day = .ok aggregate :=
  Checks.exists_ok (by decide +kernel)

end Fixture

theorem new_year_hours_exact : ExactHours Fixture.day rfl (List.ofFn (Fixture.bucket (hourWindow Fixture.day rfl 0))) ∧
    Tiles Fixture.day (List.ofFn (Fixture.bucket (hourWindow Fixture.day rfl 0))) := by
  obtain ⟨aggregate,haggregate⟩ := Fixture.hours_composed
  have hhour : ∀ i, (Fixture.bucket (hourWindow Fixture.day rfl 0) i).window.granularity = .hour := by decide +kernel
  apply (composed_hours_exact_iff _ Fixture.day rfl aggregate haggregate).mpr
  intro item hitem
  obtain ⟨i,rfl⟩ := List.mem_ofFn.mp hitem
  exact hhour i

/-- The day itself is taken for its first hour. -/
theorem day_taken_for_an_hour :
    ¬∀ (hours : List WindowAggregate) (day : UsageWindow) (hday : day.granularity = .day) (aggregate : WindowAggregate),
      aggregateDailyFromHours hours day = .ok aggregate → ExactHours day hday hours ∧ Tiles day hours := by
  intro hall
  obtain ⟨aggregate,haggregate⟩ := Fixture.day_among_hours_composed
  obtain ⟨hexact,-⟩ := hall _ Fixture.day rfl aggregate haggregate
  have hday : Fixture.day ∈ (List.ofFn (Fixture.bucket Fixture.day)).map (·.window) :=
    List.mem_map.mpr ⟨Fixture.bucket Fixture.day 0,List.mem_ofFn.mpr ⟨0,rfl⟩,rfl⟩
  obtain ⟨i,hi⟩ := List.mem_ofFn.mp (hexact.mem_iff.mp hday)
  have hgranularity : WindowGranularity.hour = .day := congrArg UsageWindow.granularity hi
  cases hgranularity

end Arbora.Economics
