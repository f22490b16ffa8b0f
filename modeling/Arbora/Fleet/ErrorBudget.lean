import Arbora.Lib.Checks
import Arbora.Lib.Json
import Arbora.Lib.Sha256
import Mathlib.Data.Rat.Floor

/-! The throttle of one partition: how the outcomes of a closed window move the limit of its calls. Fractions are exact. -/
namespace Arbora.Fleet.ErrorBudget
open Checks (refuse refuse_bind_ok)

inductive OutcomeClass
  | success | retryableServiceError | timeout | permanentCallerError | policyDenial
deriving DecidableEq

inductive ThrottleMode
  | observe | enforce

def OutcomeClass.value : OutcomeClass → String
  | .success => "success"
  | .retryableServiceError => "retryable_service_error"
  | .timeout => "timeout"
  | .permanentCallerError => "permanent_caller_error"
  | .policyDenial => "policy_denial"

def OutcomeClass.eligibleFailure : OutcomeClass → Bool
  | .retryableServiceError | .timeout => true
  | _ => false

def OutcomeClass.eligible (outcome : OutcomeClass) : Bool := outcome.eligibleFailure || outcome = .success

abbrev Name := {text : String // text ≠ ""}

structure Partition where
  (tenant child operationClass policyRevision : Name)

structure BudgetWindow where
  windowId : Name
  partition : Partition
  samples : List OutcomeClass

def Partition.key (partition : Partition) : List String :=
  [partition.tenant.1,partition.child.1,partition.operationClass.1,partition.policyRevision.1]

def BudgetWindow.digest (window : BudgetWindow) : String :=
  String.ofList (Sha256.hexdigest ((Json.writeAscii (Json.sorted [
    ("window_id",.string window.windowId.1),
    ("partition",.array (window.partition.key.map .string)),
    ("samples",.array (window.samples.map fun outcome => .string outcome.value))])).map Char.toNat))

/-- The samples that say something about the child. -/
def BudgetWindow.eligibleSamples (window : BudgetWindow) : List OutcomeClass := window.samples.filter (·.eligible)

def BudgetWindow.eligibleCount (window : BudgetWindow) : ℕ := window.samples.countP (·.eligible)
def BudgetWindow.eligibleFailureCount (window : BudgetWindow) : ℕ := window.samples.countP (·.eligibleFailure)

structure AimdConfig where
  version : Name
  alpha : {n : ℤ // 0 < n}
  beta : {q : ℚ // 0 < q ∧ q < 1}
  floor : {n : ℤ // 0 ≤ n}
  minSampleCount : {n : ℤ // 1 ≤ n}
  errorBudgetFraction : {q : ℚ // 0 < q ∧ q < 1}

structure ThrottleDecision where
  windowDigest : String
  partition : Partition
  configVersion : Name
  (priorLimit newLimit : ℤ)
  mode : ThrottleMode
  reason : String
  (sampleCount eligibleFailureCount : ℕ)

def boundedPrior (priorLimit engineHeadroom : ℤ) : ℤ := min priorLimit engineHeadroom
def overspent (window : BudgetWindow) (config : AimdConfig) : Prop :=
  config.errorBudgetFraction.1 < (window.eligibleFailureCount : ℚ) / window.eligibleCount

instance (window : BudgetWindow) (config : AimdConfig) : Decidable (overspent window config) :=
  inferInstanceAs (Decidable (_ < _))

/-- What `int` makes of a number that is not negative: the next integer below. -/
def moved (window : BudgetWindow) (config : AimdConfig) (prior : ℤ) : ℤ × String :=
  if overspent window config then (max config.floor.1 ⌊prior * config.beta.1⌋,"budget_breach_decrease")
  else (prior+config.alpha.1,"healthy_window_increase")

def decide (window : BudgetWindow) (priorLimit engineHeadroom : ℤ) (config : AimdConfig) (mode : ThrottleMode) :
    Except String ThrottleDecision := do
  refuse (engineHeadroom < 0) "engine_headroom must not be negative"
  refuse (priorLimit < 0) "prior_limit must not be negative"
  let prior := boundedPrior priorLimit engineHeadroom
  let decision := fun (newLimit : ℤ) (reason : String) => ThrottleDecision.mk window.digest window.partition config.version
    priorLimit newLimit mode reason window.eligibleCount window.eligibleFailureCount
  if (window.eligibleCount : ℤ) < config.minSampleCount.1 then .ok (decision prior "insufficient_samples")
  else .ok (decision (min (moved window config prior).1 engineHeadroom) (moved window config prior).2)

/-- One window after another, each with what the engine declares by then. -/
def throttle (config : AimdConfig) (mode : ThrottleMode) (limit : ℤ) (windows : List (BudgetWindow × ℤ)) : Except String ℤ :=
  windows.foldlM (fun limit w => (·.newLimit) <$> decide w.1 limit w.2 config mode) limit

section
variable {window window' : BudgetWindow} {prior headroom : ℤ} {config : AimdConfig} {mode : ThrottleMode} {d : ThrottleDecision}

/-- Enough samples, and too many of them failures. -/
def Breach (window : BudgetWindow) (config : AimdConfig) : Prop :=
  config.minSampleCount.1 ≤ window.eligibleCount ∧ overspent window config

instance (window : BudgetWindow) (config : AimdConfig) : Decidable (Breach window config) :=
  inferInstanceAs (Decidable (_ ∧ _))

def newLimit (window : BudgetWindow) (prior headroom : ℤ) (config : AimdConfig) : ℤ :=
  if (window.eligibleCount : ℤ) < config.minSampleCount.1 then boundedPrior prior headroom
  else min (moved window config (boundedPrior prior headroom)).1 headroom

theorem decide_ok_iff : decide window prior headroom config mode = .ok d ↔ 0 ≤ headroom ∧ 0 ≤ prior ∧
    d = ⟨window.digest,window.partition,config.version,prior,newLimit window prior headroom config,mode,
      if (window.eligibleCount : ℤ) < config.minSampleCount.1 then "insufficient_samples"
      else (moved window config (boundedPrior prior headroom)).2,window.eligibleCount,window.eligibleFailureCount⟩ := by
  unfold decide newLimit
  rw [refuse_bind_ok,refuse_bind_ok,not_lt,not_lt]
  refine and_congr_right fun _ => and_congr_right fun _ => ?_
  split_ifs
  · exact ⟨fun h => (Except.ok.inj h).symm,fun h => by rw [h]⟩
  · exact ⟨fun h => (Except.ok.inj h).symm,fun h => by rw [h]⟩

theorem newLimit_quiet (h : (window.eligibleCount : ℤ) < config.minSampleCount.1) :
    newLimit window prior headroom config = min prior headroom := if_pos h

theorem newLimit_breach (h : Breach window config) : newLimit window prior headroom config =
      min (max config.floor.1 ⌊(min prior headroom : ℤ) * config.beta.1⌋) headroom := by
  unfold newLimit moved boundedPrior
  rw [if_neg (not_lt.mpr h.1),if_pos h.2]

theorem newLimit_healthy (hcount : config.minSampleCount.1 ≤ window.eligibleCount) (h : ¬Breach window config) :
    newLimit window prior headroom config = min (min prior headroom+config.alpha.1) headroom := by
  have hhealthy : ¬overspent window config := fun hover => h ⟨hcount,hover⟩
  unfold newLimit moved boundedPrior
  rw [if_neg (not_lt.mpr hcount),if_neg hhealthy]

theorem newLimit_le_headroom : newLimit window prior headroom config ≤ headroom := by
  unfold newLimit
  split_ifs
  · exact min_le_right _ _
  · exact min_le_right _ _

theorem decreased_le (h : 0 ≤ prior) : ⌊(prior : ℚ) * config.beta.1⌋ ≤ prior := by
  have hprior : (0 : ℚ) ≤ prior := by exact_mod_cast h
  have hle : (prior : ℚ) * config.beta.1 ≤ prior := mul_le_of_le_one_right hprior config.beta.2.2.le
  exact (Int.floor_mono hle).trans (Int.floor_intCast prior).le

theorem newLimit_breach_le_iff (hprior : 0 ≤ prior) (hheadroom : 0 ≤ headroom) (h : Breach window config) :
    newLimit window prior headroom config ≤ min prior headroom ↔ config.floor.1 ≤ prior ∨ headroom ≤ prior := by
  have hshare : ⌊((min prior headroom : ℤ) : ℚ) * config.beta.1⌋ ≤ min prior headroom := decreased_le (le_min hprior hheadroom)
  rw [newLimit_breach h]
  constructor
  · intro hle
    by_contra hboth
    push Not at hboth
    omega
  · intro hcondition
    rcases hcondition with hfloor | hheadroom
    · refine le_min ?_ (min_le_right _ _)
      exact (min_le_left _ _).trans (max_le hfloor (hshare.trans (min_le_left _ _)))
    · rw [min_eq_right hheadroom]
      exact min_le_right _ _

theorem eligibleCount_eq : window.eligibleCount = window.eligibleSamples.length := List.countP_eq_length_filter

theorem eligibleFailureCount_eq : window.eligibleFailureCount = window.eligibleSamples.countP (·.eligibleFailure) := by
  unfold BudgetWindow.eligibleFailureCount BudgetWindow.eligibleSamples
  rw [List.countP_filter]
  refine List.countP_congr fun outcome _ => ?_
  cases outcome <;> decide

theorem newLimit_perm (h : window'.eligibleSamples.Perm window.eligibleSamples) :
    newLimit window' prior headroom config = newLimit window prior headroom config := by
  have hcount : window'.eligibleCount = window.eligibleCount := by
    rw [eligibleCount_eq,eligibleCount_eq,h.length_eq]
  have hfailures : window'.eligibleFailureCount = window.eligibleFailureCount := by
    rw [eligibleFailureCount_eq,eligibleFailureCount_eq,h.countP_eq]
  have hover : overspent window' config ↔ overspent window config := by
    unfold overspent
    rw [hcount,hfailures]
  simp only [newLimit,moved,hcount,hover]

theorem newLimit_nonneg (hprior : 0 ≤ prior) (hheadroom : 0 ≤ headroom) : 0 ≤ newLimit window prior headroom config := by
  have hbounded : 0 ≤ boundedPrior prior headroom := le_min hprior hheadroom
  unfold newLimit
  split_ifs
  · exact hbounded
  · refine le_min ?_ hheadroom
    unfold moved
    split_ifs
    · exact config.floor.2.trans (le_max_left _ _)
    · exact add_nonneg hbounded config.alpha.2.le

/-- What the throttle should do with one window. -/
structure AimdLaw (window : BudgetWindow) (prior headroom : ℤ) (config : AimdConfig) (limit : ℤ) : Prop where
  ceiling : limit ≤ headroom
  quiet : (window.eligibleCount : ℤ) < config.minSampleCount.1 → limit = min prior headroom
  breach : Breach window config → limit ≤ min prior headroom
  healthy : config.minSampleCount.1 ≤ window.eligibleCount → ¬Breach window config →
    limit ≤ min prior headroom+config.alpha.1
  bag : ∀ window' mode d, window'.eligibleSamples.Perm window.eligibleSamples →
    decide window' prior headroom config mode = .ok d → d.newLimit = limit

def Breaching (config : AimdConfig) : ℤ → List (BudgetWindow × ℤ) → Prop
  | _, [] => True
  | limit, (window,headroom) :: rest => 0 ≤ headroom ∧ Breach window config ∧ (config.floor.1 ≤ limit ∨ headroom ≤ limit) ∧
    Breaching config (newLimit window limit headroom config) rest

theorem decide_ok (window : BudgetWindow) (config : AimdConfig) (mode : ThrottleMode) (hprior : 0 ≤ prior) (hheadroom : 0 ≤ headroom) :
    ∃ d, decide window prior headroom config mode = .ok d ∧ d.newLimit = newLimit window prior headroom config :=
  ⟨_,decide_ok_iff.mpr ⟨hheadroom,hprior,rfl⟩,rfl⟩

theorem law_iff (hprior : 0 ≤ prior) (hheadroom : 0 ≤ headroom) :
    AimdLaw window prior headroom config (newLimit window prior headroom config) ↔
      (Breach window config → config.floor.1 ≤ prior ∨ headroom ≤ prior) := by
  constructor
  · intro h hbreach
    exact (newLimit_breach_le_iff hprior hheadroom hbreach).mp (h.breach hbreach)
  · intro h
    refine ⟨newLimit_le_headroom,newLimit_quiet,fun hbreach => ?_,fun hcount hhealthy => ?_,?_⟩
    · exact (newLimit_breach_le_iff hprior hheadroom hbreach).mpr (h hbreach)
    · rw [newLimit_healthy hcount hhealthy]
      exact min_le_left _ _
    · intro window' mode d hperm hd
      obtain ⟨-,-,rfl⟩ := decide_ok_iff.mp hd
      exact newLimit_perm hperm

theorem throttle_le {limit : ℤ} (hlimit : 0 ≤ limit) {windows : List (BudgetWindow × ℤ)} (h : Breaching config limit windows) :
    ∃ last, throttle config mode limit windows = .ok last ∧ last ≤ limit := by
  induction windows generalizing limit with
  | nil => exact ⟨limit,rfl,le_refl _⟩
  | cons w rest ih =>
    obtain ⟨window,headroom⟩ := w
    obtain ⟨hheadroom,hbreach,hcondition,hrest⟩ := h
    obtain ⟨d,hd,hnew⟩ := decide_ok window config mode hlimit hheadroom
    have hlower : newLimit window limit headroom config ≤ limit :=
      ((newLimit_breach_le_iff hlimit hheadroom hbreach).mpr hcondition).trans (min_le_left _ _)
    obtain ⟨last,hlast,hle⟩ := ih (newLimit_nonneg hlimit hheadroom) hrest
    refine ⟨last,?_,hle.trans hlower⟩
    rw [throttle,List.foldlM_cons,hd]
    change throttle config mode d.newLimit rest = .ok last
    rw [hnew]
    exact hlast

end

namespace Sample

def partition : Partition := ⟨⟨"tenant",by simp⟩,⟨"child",by simp⟩,⟨"read",by simp⟩,⟨"1",by simp⟩⟩
def timeouts : BudgetWindow := ⟨⟨"window",by simp⟩,partition,List.replicate 8 .timeout⟩
def config : AimdConfig :=
  ⟨⟨"1",by simp⟩,⟨1,by norm_num⟩,⟨1/2,by norm_num⟩,⟨4,by norm_num⟩,⟨1,by norm_num⟩,⟨1/2,by norm_num⟩⟩

end Sample

end Arbora.Fleet.ErrorBudget
