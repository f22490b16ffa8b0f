import Arbora.Economics.DailyComposition
import Mathlib.Algebra.Order.Group.Int

/-! Rolling a window of events up against an objective. -/
namespace Arbora.Economics
open Arbora.Scaling (Ref Digest isDigest)
open Arbora.Placement (isBoundedRef refDocument)
open Json (Document natural sorted orNull)
open Keyset (sortBy strict_sortBy length_sortBy)

inductive SliKind where
  | availability | errorRate | latencyMs | queueAgeMs | freshnessMs | throughput
  deriving DecidableEq

def SliKind.value : SliKind → String
  | .availability => "availability" | .errorRate => "error_rate" | .latencyMs => "latency_ms"
  | .queueAgeMs => "queue_age_ms" | .freshnessMs => "freshness_ms" | .throughput => "throughput"

inductive SloComparison where
  | gte | lte

def SloComparison.value : SloComparison → String
  | .gte => "gte" | .lte => "lte"

def SliKind.comparison : SliKind → SloComparison
  | .availability => .gte | .throughput => .gte
  | _ => .lte

structure SloObjective where
  (tenantId serviceRef : Ref)
  sli : SliKind
  windowGranularity : WindowGranularity
  (version targetMicros : ℕ)
  comparison : SloComparison
  (latencyThresholdMs percentileMicros : Option ℕ)
  versionBounded : 1 ≤ version ∧ version < 2 ^ 31
  targetBounded : targetMicros ≤ 1000000
  thresholdBounded : ∀ n ∈ latencyThresholdMs, 0 < n ∧ n ≤ 86400000
  percentileBounded : ∀ n ∈ percentileMicros, n ≤ 1000000
  threshold : latencyThresholdMs.isSome = decide (sli = .latencyMs)
  percentile : percentileMicros.isSome = true → sli = .latencyMs
  direction : comparison = sli.comparison

def SloObjective.identityPayload (o : SloObjective) : Document := sorted [
  ("schema_version",.string "1"),("tenant_id",refDocument o.tenantId),("service_ref",refDocument o.serviceRef),
  ("sli",.string o.sli.value),("window_granularity",.string o.windowGranularity.value),("version",natural o.version),
  ("target_micros",natural o.targetMicros),("comparison",.string o.comparison.value),
  ("latency_threshold_ms",orNull natural o.latencyThresholdMs),("percentile_micros",orNull natural o.percentileMicros)]

def SloObjective.objectiveId (o : SloObjective) : String := identityOf "slo:" o.identityPayload

/-- `SloWindowRollup(...)` -/
def SloWindowRollup.make (tenantId : Ref) (objectiveId : String) (window : UsageWindow) (good total bad : ℤ)
    (measured : Option ℤ) (digests : List Digest) (status : SloStatus) : Except Refusal SloWindowRollup :=
  if hid : isBoundedRef 100 objectiveId = true then
    if hcounts : ∀ n ∈ [good,total,bad], 0 ≤ n ∧ n ≤ maxFactQuantity * maxFactIdsPerAggregate then
      if hmeasured : ∀ m ∈ measured, 0 ≤ m ∧ m ≤ 1000000 then
        if hsources : digests.length ≤ maxFactIdsPerAggregate then
          if hunique : (digests.map fun d => d.1).Nodup then
            if hwithin : good ≤ total ∧ bad ≤ total then
              if hempty : total = 0 → status = .insufficientData ∧ measured = none then
                if hpopulated : total ≠ 0 → status ≠ .insufficientData ∧ measured ≠ none then
                  .ok {
                    tenantId, window, status
                    objectiveId := ⟨objectiveId,hid⟩
                    goodEvents := good.toNat
                    totalEvents := total.toNat
                    badEvents := bad.toNat
                    measuredMicros := measured.map Int.toNat
                    sourceFactDigests := sortBy (fun d => d.1) digests
                    totalBounded := by
                      have h := hcounts total (by simp)
                      omega
                    measuredBounded := by
                      intro m hm
                      obtain ⟨n,hn,rfl⟩ := Option.map_eq_some_iff.mp hm
                      have h := hmeasured n hn
                      omega
                    sourcesBounded := by rwa [length_sortBy]
                    sourcesSorted := strict_sortBy hunique
                    within := ⟨Int.toNat_le_toNat hwithin.1,Int.toNat_le_toNat hwithin.2⟩
                    empty := by
                      intro hzero
                      have h := hcounts total (by simp)
                      obtain ⟨hstatus,hnone⟩ := hempty (by omega)
                      exact ⟨hstatus,by rw [hnone]; rfl⟩
                    populated := by
                      intro hpos
                      obtain ⟨hstatus,hsome⟩ := hpopulated (by omega)
                      exact ⟨hstatus,fun hmap => hsome (Option.map_eq_none_iff.mp hmap)⟩ }
                else .error ⟨.validation,"populated SLO rollup requires a bounded measurement"⟩
              else .error ⟨.validation,"empty SLO rollup must be explicitly insufficient_data"⟩
            else .error ⟨.validation,"SLO good/bad events cannot exceed total events"⟩
          else .error ⟨.validation,"source fact digests must be unique"⟩
        else .error ⟨.validation,"source_fact_digests"⟩
      else .error ⟨.validation,"measured_micros"⟩
    else .error ⟨.validation,"events"⟩
  else .error ⟨.validation,"objective_id"⟩

def validateSloCounts (objective : SloObjective) (good total bad : ℤ) : Except Refusal Unit :=
  if good < 0 ∨ total < 0 ∨ bad < 0 then .error ⟨.valueError,"SLO counts must be non-negative"⟩
  else if good > total ∨ bad > total then .error ⟨.valueError,"SLO good/bad counts cannot exceed total"⟩
  else if objective.sli ∈ [.availability,.errorRate] ∧ good + bad ≠ total then
    .error ⟨.valueError,"availability/error-rate rollup must account for every event"⟩
  else .ok ()

def sloMeasurement (objective : SloObjective) (good total bad : ℤ) (measured : Option ℤ) : Except Refusal ℤ :=
  match objective.sli with
  | .availability => .ok (good * 1000000 / total)
  | .errorRate => .ok (bad * 1000000 / total)
  | _ => match measured with
    | none => .error ⟨.valueError,"latency/queue/freshness/throughput rollup requires a measurement"⟩
    | some m => .ok m

def resolveSloMeasurement (objective : SloObjective) (good total bad : ℤ) (measured : Option ℤ) :
    Except Refusal (Option ℤ × SloStatus) :=
  if total = 0 then
    if measured ≠ none then .error ⟨.valueError,"missing SLO measurements cannot be represented as zero"⟩
    else .ok (none,.insufficientData)
  else (sloMeasurement objective good total bad measured).bind fun m =>
    if m < 0 ∨ m > 1000000 then .error ⟨.valueError,"SLO measurement must be in bounded micros"⟩
    else
      let met := match objective.comparison with
        | .gte => decide (m ≥ objective.targetMicros)
        | .lte => decide (m ≤ objective.targetMicros)
      .ok (some m,if met then .met else .breached)

def validatedDigest (text : String) : Except Refusal Digest :=
  if h : isDigest text = true then .ok ⟨text,h⟩ else .error ⟨.validation,"source_fact_digest"⟩

def validatedSloDigests (supplied : List String) : Except Refusal (List String) :=
  let digests := sortBy (fun text => text) supplied.dedup
  if digests.length ≠ supplied.length then .error ⟨.contractError,"SLO source digests must be unique"⟩
  else if digests.length > 100000 then .error ⟨.valueError,"SLO source digest set exceeds the bounded read model"⟩
  else if digests.any fun text => !"sha256:".toList.isPrefixOf text.toList || text.length != 71 then
    .error ⟨.valueError,"SLO source facts must be opaque sha256 digests"⟩
  else .ok digests

def buildSloRollup (objective : SloObjective) (window : UsageWindow) (good total bad : ℤ) (measured : Option ℤ)
    (sourceFactDigests : List String) : Except Refusal SloWindowRollup :=
  if objective.windowGranularity ≠ window.granularity then
    .error ⟨.valueError,"SLO objective and rollup windows have different granularities"⟩
  else (validateSloCounts objective good total bad).bind fun _ =>
    (resolveSloMeasurement objective good total bad measured).bind fun resolved =>
      (validatedSloDigests sourceFactDigests).bind fun texts =>
        (texts.mapM validatedDigest).bind fun digests =>
          SloWindowRollup.make objective.tenantId objective.objectiveId window good total bad resolved.1 digests resolved.2

section
variable {objective : SloObjective} {window : UsageWindow} {good total bad : ℤ} {measured : Option ℤ}
  {sources : List String} {rollup : SloWindowRollup}

theorem SloWindowRollup.make_ok {tenantId : Ref} {objectiveId : String} {digests : List Digest} {status : SloStatus}
    (h : make tenantId objectiveId window good total bad measured digests status = .ok rollup) :
    rollup.status = status := by
  unfold make at h
  iterate 8 obtain ⟨_,h⟩ := Checks.dite_ok.mp h
  cases h
  rfl

theorem resolveSloMeasurement_ok {resolved : Option ℤ × SloStatus} (htotal : 0 < total)
    (h : resolveSloMeasurement objective good total bad measured = .ok resolved) :
    ∃ m, sloMeasurement objective good total bad measured = .ok m ∧ (resolved.2 = .met ↔ match objective.comparison with
      | .gte => (objective.targetMicros : ℤ) ≤ m
      | .lte => m ≤ objective.targetMicros) ∧ (resolved.2 = .breached ↔ resolved.2 ≠ .met) := by
  unfold resolveSloMeasurement at h
  rw [if_neg htotal.ne',bind_ok] at h
  obtain ⟨m,hm,hresolved⟩ := h
  obtain ⟨-,hresult⟩ := refuse_ok.mp hresolved
  cases hresult
  refine ⟨m,hm,?_,?_⟩
  · cases objective.comparison with
    | gte =>
      by_cases hmet : (objective.targetMicros : ℤ) ≤ m
      · simp [hmet]
      · simp [hmet]
    | lte =>
      by_cases hmet : m ≤ (objective.targetMicros : ℤ)
      · simp [hmet]
      · simp [hmet]
  · dsimp only
    split_ifs
    · simp
    · simp

theorem buildSloRollup_status (htotal : 0 < total)
    (h : buildSloRollup objective window good total bad measured sources = .ok rollup) :
    ∃ m, sloMeasurement objective good total bad measured = .ok m ∧ (rollup.status = .met ↔ match objective.comparison with
      | .gte => (objective.targetMicros : ℤ) ≤ m
      | .lte => m ≤ objective.targetMicros) ∧ (rollup.status = .breached ↔ rollup.status ≠ .met) := by
  obtain ⟨-,hcounts⟩ := refuse_ok.mp h
  obtain ⟨-,-,hmeasured⟩ := bind_ok.mp hcounts
  obtain ⟨resolved,hresolved,hsources⟩ := bind_ok.mp hmeasured
  obtain ⟨texts,-,hdigests⟩ := bind_ok.mp hsources
  obtain ⟨digests,-,hmake⟩ := bind_ok.mp hdigests
  rw [SloWindowRollup.make_ok hmake]
  exact resolveSloMeasurement_ok htotal hresolved

/-- The exact ratio of the events is on the right side of the target. -/
def Met (objective : SloObjective) (good total bad : ℤ) : Prop :=
  match objective.sli with
  | .errorRate => bad * 1000000 ≤ objective.targetMicros * total
  | _ => objective.targetMicros * total ≤ good * 1000000

theorem met_availability (hsli : objective.sli = .availability) :
    Met objective good total bad ↔ objective.targetMicros * total ≤ good * 1000000 := by
  unfold Met
  rw [hsli]

theorem met_errorRate (hsli : objective.sli = .errorRate) :
    Met objective good total bad ↔ bad * 1000000 ≤ objective.targetMicros * total := by
  unfold Met
  rw [hsli]

/-- The rate of errors is above the target by less than a millionth. -/
def JustAbove (objective : SloObjective) (total bad : ℤ) : Prop :=
  objective.targetMicros * total < bad * 1000000 ∧ bad * 1000000 < (objective.targetMicros + 1) * total

/-- The status is that of the exact ratio but for error rates just above their target. -/
theorem slo_status_exact_iff (objective : SloObjective) (window : UsageWindow) (good total bad : ℤ)
    (measured : Option ℤ) (sources : List String) (rollup : SloWindowRollup)
    (hsli : objective.sli = .availability ∨ objective.sli = .errorRate) (htotal : 0 < total)
    (h : buildSloRollup objective window good total bad measured sources = .ok rollup) :
    ((rollup.status = .met ↔ Met objective good total bad) ∧
        (rollup.status = .breached ↔ ¬Met objective good total bad)) ↔
      ¬(objective.sli = .errorRate ∧ JustAbove objective total bad) := by
  obtain ⟨m,hm,hmet,hbreached⟩ := buildSloRollup_status htotal h
  rw [hbreached,ne_eq,not_iff_not,and_self,hmet,objective.direction]
  unfold sloMeasurement at hm
  cases hsli with
  | inl havailability =>
    rw [havailability] at hm
    cases hm
    have hexact : objective.targetMicros ≤ good * 1000000 / total ↔ objective.targetMicros * total ≤ good * 1000000 :=
      Int.le_ediv_iff_mul_le htotal
    rw [met_availability havailability,havailability]
    simp [SliKind.comparison,hexact]
  | inr herror =>
    rw [herror] at hm
    cases hm
    have hfloor : bad * 1000000 / total ≤ objective.targetMicros ↔
        bad * 1000000 < (objective.targetMicros + 1) * total := by
      rw [← Int.lt_add_one_iff,Int.ediv_lt_iff_lt_mul htotal]
    have hstep : (objective.targetMicros + 1 : ℤ) * total = objective.targetMicros * total + total := by
      rw [Int.add_mul,Int.one_mul]
    rw [met_errorRate herror,herror,JustAbove]
    simp only [SliKind.comparison,hfloor,hstep,true_and]
    omega

end

namespace Fixture

def objective (sli : SliKind) (targetMicros : Fin 1000001) (hsli : sli ≠ .latencyMs) : SloObjective where
  tenantId := tenant
  serviceRef := tenant
  sli
  windowGranularity := .hour
  version := 1
  targetMicros
  comparison := sli.comparison
  latencyThresholdMs := none
  percentileMicros := none
  versionBounded := card.versionBounded
  targetBounded := Nat.le_of_lt_succ targetMicros.2
  thresholdBounded := by simp
  percentileBounded := by simp
  threshold := by simp [hsli]
  percentile := by simp
  direction := rfl

def hour : UsageWindow := ⟨.hour,newYear,newYear_hourly⟩
def available : SloObjective := objective .availability 990000 (by decide)
def flawless : SloObjective := objective .errorRate 0 (by decide)

theorem available_rolled_up : ∃ rollup, buildSloRollup available hour 99 100 1 none [] = .ok rollup :=
  Checks.exists_ok (by decide +kernel)
theorem error_rolled_up : ∃ rollup, buildSloRollup flawless hour 1999999 2000000 1 none [] = .ok rollup :=
  Checks.exists_ok (by decide +kernel)

end Fixture

theorem available_status_exact : ∃ rollup, buildSloRollup Fixture.available Fixture.hour 99 100 1 none [] = .ok rollup ∧
    (rollup.status = .met ↔ Met Fixture.available 99 100 1) ∧ (rollup.status = .breached ↔ ¬Met Fixture.available 99 100 1) := by
  obtain ⟨rollup,h⟩ := Fixture.available_rolled_up
  refine ⟨rollup,h,?_⟩
  apply (slo_status_exact_iff Fixture.available Fixture.hour 99 100 1 none [] rollup (.inl rfl) (by decide) h).mpr
  rintro ⟨herror,-⟩
  cases herror

/-- An error goes unnoticed where none is allowed. -/
theorem error_rolled_up_as_met : ¬∀ (objective : SloObjective) (window : UsageWindow) (good total bad : ℤ)
    (measured : Option ℤ) (sources : List String) (rollup : SloWindowRollup),
    objective.sli = .availability ∨ objective.sli = .errorRate → 0 < total →
      buildSloRollup objective window good total bad measured sources = .ok rollup →
        (rollup.status = .met ↔ Met objective good total bad) ∧
          (rollup.status = .breached ↔ ¬Met objective good total bad) := by
  intro hall
  obtain ⟨rollup,h⟩ := Fixture.error_rolled_up
  obtain ⟨hmet,-⟩ := hall Fixture.flawless Fixture.hour 1999999 2000000 1 none [] rollup (.inr rfl) (by decide) h
  obtain ⟨m,hm,hstatus,-⟩ := buildSloRollup_status (by decide) h
  cases hm
  have hnot : ¬Met Fixture.flawless 1999999 2000000 1 := by
    rw [met_errorRate rfl]
    decide
  have hfloor : (1 * 1000000 / 2000000 : ℤ) ≤ 0 := by decide
  exact hnot (hmet.mp (hstatus.mpr hfloor))

end Arbora.Economics
