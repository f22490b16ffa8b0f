import Arbora.Lib.Texts
import Arbora.Signals.SummaryValidity

/-! Whether the summary of a page depends on the order of its samples, and its value on more than the digest of the summary
tells. -/
namespace Arbora.Signals
open JoinedText (intercalate_inj)
open Keyset (sortBy sortBy_perm mem_sortBy length_sortBy sortBy_self_perm perm_of_map_perm)
open Keyset (greatest_of_getLast? sortBy_append_greatest)
open Checks (refuse)

theorem max?_perm {l l' : List ℚ} (h : l'.Perm l) : l'.max? = l.max? := by
  cases hmax : l.max? with
  | none =>
    rw [List.max?_eq_none_iff] at hmax ⊢
    exact List.perm_nil.mp (hmax ▸ h)
  | some m =>
    rw [List.max?_eq_some_iff] at hmax ⊢
    exact ⟨h.mem_iff.mpr hmax.1,fun b hb => hmax.2 b (h.mem_iff.mp hb)⟩

theorem min?_perm {l l' : List ℚ} (h : l'.Perm l) : l'.min? = l.min? := by
  cases hmin : l.min? with
  | none =>
    rw [List.min?_eq_none_iff] at hmin ⊢
    exact List.perm_nil.mp (hmin ▸ h)
  | some m =>
    rw [List.min?_eq_some_iff] at hmin ⊢
    exact ⟨h.mem_iff.mpr hmin.1,fun b hb => hmin.2 b (h.mem_iff.mp hb)⟩

section
variable {request : SignalReadRequest} {page : SignalPage} {samples samples' : List SignalSample}

def SignalPage.reordered (page : SignalPage) (samples : List SignalSample) (h : samples.Perm page.samples) : SignalPage :=
  { page with
    samples := samples
    bounded := h.length_eq.trans_le page.bounded }

def Latest (samples : List SignalSample) (s : SignalSample) : Prop :=
  s ∈ samples ∧ ∀ t ∈ samples, t.sampleTime ≤ s.sampleTime
def Untied (samples : List SignalSample) : Prop :=
  ∀ s t, Latest samples s → Latest samples t → s.value = t.value

theorem Latest.perm {s : SignalSample} (h : Latest samples' s) (hperm : samples'.Perm samples) : Latest samples s :=
  ⟨hperm.mem_iff.mp h.1,fun t ht => h.2 t (hperm.mem_iff.mpr ht)⟩

theorem exists_exact_value (aggregation : SignalAggregation) (hne : samples ≠ []) :
    ∃ v, aggregateSignalValue exactly aggregation samples = some v ∧ 0 ≤ v := by
  apply exists_value aggregation hne
  have hsum : 0 ≤ (samples.map (·.value)).sum := by
    apply List.sum_nonneg
    intro v hv
    obtain ⟨s,-,rfl⟩ := List.mem_map.mp hv
    exact s.valueNonneg
  intro _
  exact ⟨_,rfl,hsum,_,rfl,div_nonneg hsum (Nat.cast_nonneg _)⟩

theorem aggregate_perm {aggregation : SignalAggregation} (hperm : samples'.Perm samples)
    (h : aggregation = .last → Untied samples) :
    aggregateSignalValue exactly aggregation samples' = aggregateSignalValue exactly aggregation samples := by
  have hvalues : (samples'.map (·.value)).Perm (samples.map (·.value)) := hperm.map _
  have hsum : (samples'.map (·.value)).sum = (samples.map (·.value)).sum := hvalues.sum_eq
  have hlength : (samples'.map (·.value)).length = (samples.map (·.value)).length := hvalues.length_eq
  have hsorted := sortBy_self_perm hvalues
  cases aggregation with
  | last =>
    have hlast : ∀ {l : List SignalSample} {s}, (sortBy (·.sampleTime) l).getLast? = some s → Latest l s :=
      fun hl => greatest_of_getLast? hl
    have hsize : (sortBy (·.sampleTime) samples').length = (sortBy (·.sampleTime) samples).length := by
      rw [length_sortBy,length_sortBy,hperm.length_eq]
    unfold aggregateSignalValue
    dsimp only
    cases hs : (sortBy (·.sampleTime) samples).getLast? with
    | none =>
      rw [List.getLast?_eq_none_iff] at hs
      rw [hs,List.length_nil,List.length_eq_zero_iff] at hsize
      rw [hsize]
      rfl
    | some s =>
      cases ht : (sortBy (·.sampleTime) samples').getLast? with
      | none =>
        rw [List.getLast?_eq_none_iff] at ht
        rw [ht,List.length_nil,eq_comm,List.length_eq_zero_iff] at hsize
        rw [hsize] at hs
        cases hs
      | some t => exact congrArg some (h rfl t s ((hlast ht).perm hperm) (hlast hs))
  | mean => simp only [aggregateSignalValue,exactly,hsum,hlength]
  | rate => simp only [aggregateSignalValue,exactly,hsum,hlength]
  | sum => simp only [aggregateSignalValue,exactly,hsum]
  | count => simp only [aggregateSignalValue,hlength]
  | max => simp only [aggregateSignalValue,max?_perm hvalues]
  | p50 => simp only [aggregateSignalValue,hsorted,hlength]
  | p95 => simp only [aggregateSignalValue,hsorted,hlength]
  | p99 => simp only [aggregateSignalValue,hsorted,hlength]

theorem aggregate_last {s : SignalSample} (h : ∀ t ∈ samples, t.sampleTime ≤ s.sampleTime) :
    aggregateSignalValue exactly .last (samples ++ [s]) = some s.value := by
  unfold aggregateSignalValue
  rw [sortBy_append_greatest h,List.getLast?_append]
  rfl

theorem summaryDigest_reordered (h : samples.Perm page.samples) :
    summaryDigest request (page.reordered samples h) = summaryDigest request page := by
  unfold summaryDigest digestMaterial SignalPage.reordered
  rw [sortBy_self_perm (h.map _)]

theorem validateSignalPageSamples_reordered {first first' : SignalSample} (hperm : samples.Perm page.samples)
    (hfirst : first ∈ page.samples) (hfirst' : first' ∈ page.samples) :
    validateSignalPageSamples request (page.reordered samples hperm) first' =
      validateSignalPageSamples request page first := by
  have hmem : ∀ s, s ∈ samples ↔ s ∈ page.samples := fun s => hperm.mem_iff
  have hmixed : ((∃ s ∈ samples, s.signal ≠ first'.signal) ∨ first'.signal ∉ request.signals) ↔
      (∃ s ∈ page.samples, s.signal ≠ first.signal) ∨ first.signal ∉ request.signals := by
    simp only [hmem]
    by_cases hsame : first'.signal = first.signal
    · rw [hsame]
    · exact iff_of_true (.inl ⟨first,hfirst,fun h => hsame h.symm⟩) (.inl ⟨first',hfirst',hsame⟩)
  have haggregation : (∃ s ∈ samples, s.aggregation ≠ request.aggregation) ↔
      ∃ s ∈ page.samples, s.aggregation ≠ request.aggregation := by simp only [hmem]
  unfold validateSignalPageSamples SignalPage.reordered refuse
  simp only [hmixed,haggregation]

end

section
variable {request : SignalReadRequest} {page : SignalPage} {samples : List SignalSample}

/-- Value, count, freshness, confidence and digest of what is answered. -/
def figuresOf (outcome : Except SignalError (Option (SignalSummary × SignalDecisionEvidence))) :
    Except SignalError (Option (ℚ × ℕ × ℚ × ℚ × Digest)) :=
  outcome.map fun answer => answer.map fun pair => pair.1.figures

theorem figures_of_uniform {first : SignalSample} {rest : List SignalSample} (hsamples : page.samples = first :: rest)
    (hbound : validateSignalPageBinding request page = .ok ()) (huniform : Uniform request page.samples) {v : ℚ}
    (hv : aggregateSignalValue exactly request.aggregation page.samples = some v) (h0 : 0 ≤ v) :
    figuresOf (summarizeSignalPage exactly request page) =
      if Fits request page first then .ok (some (v,page.samples.length,freshnessOf page.samples,
        confidenceOf page.samples,summaryDigest request page))
      else .error (.validation "SignalSummary" "summary_id must be a bounded identifier") := by
  have hvalid : validateSignalPageSamples request page first = .ok () :=
    (validateSignalPageSamples_ok (by simp [hsamples])).mpr huniform
  rw [summarize_of_uniform hsamples hbound hvalid,hv]
  by_cases hfits : Fits request page first
  · have hne : page.samples ≠ [] := by simp [hsamples]
    obtain ⟨summary,hbuilt,hfigures⟩ := exists_built hne hfits h0
    rw [hbuilt,if_pos hfits,← hfigures]
    rfl
  · rw [built_error hfits,if_neg hfits]
    rfl

def SameSummary (request : SignalReadRequest) (page : SignalPage) : Prop :=
  ∀ samples (h : samples.Perm page.samples), figuresOf (summarizeSignalPage exactly request (page.reordered samples h)) =
    figuresOf (summarizeSignalPage exactly request page)

def Faithful (page page' : SignalPage) : Prop :=
  ∀ s ∈ page.samples, ∀ s' ∈ page'.samples, s.sampleDigest = s'.sampleDigest → s = s'

/-- The texts of two summaries are not two texts of one digest. -/
def CollisionFree (request : SignalReadRequest) (page page' : SignalPage) : Prop :=
  summaryDigest request page = summaryDigest request page' → digestMaterial request page = digestMaterial request page'

def DigestBindsValue (request : SignalReadRequest) (page : SignalPage) : Prop :=
  ∀ page' answer answer', Faithful page' page → CollisionFree request page' page →
    summarizeSignalPage exactly request page = .ok (some answer) →
      summarizeSignalPage exactly request page' = .ok (some answer') →
        answer'.1.summaryDigest = answer.1.summaryDigest → answer'.1.value = answer.1.value

def Settled (request : SignalReadRequest) (page : SignalPage) : Prop :=
  validateSignalPageBinding request page = .ok () → Uniform request page.samples →
    (∀ s ∈ page.samples, ¬Fits request page s) ∨
      (∀ s ∈ page.samples, Fits request page s) ∧ (request.aggregation = .last → Untied page.samples)

theorem fits_reordered (h : samples.Perm page.samples) {s : SignalSample} :
    Fits request (page.reordered samples h) s ↔ Fits request page s := by
  rw [fits_iff,fits_iff]

theorem Uniform.perm (h : Uniform request page.samples) (hperm : samples.Perm page.samples) :
    Uniform request (page.reordered samples hperm).samples := by
  intro s hs
  obtain ⟨hsame,hrequested⟩ := h s (hperm.mem_iff.mp hs)
  exact ⟨fun t ht => hsame t (hperm.mem_iff.mp ht),hrequested⟩

theorem perm_to_front {s : SignalSample} (h : s ∈ samples) : ∃ rest, (s :: rest).Perm samples := by
  obtain ⟨before,after,rfl⟩ := List.append_of_mem h
  exact ⟨before ++ after,List.perm_middle.symm⟩

theorem freshnessOf_perm {samples' : List SignalSample} (h : samples'.Perm samples) :
    freshnessOf samples' = freshnessOf samples := by
  unfold freshnessOf
  rw [max?_perm (h.map _)]

theorem confidenceOf_perm {samples' : List SignalSample} (h : samples'.Perm samples) :
    confidenceOf samples' = confidenceOf samples := by
  unfold confidenceOf
  rw [min?_perm (h.map _)]

theorem figures_front {s : SignalSample} {rest : List SignalSample} (hperm : (s :: rest).Perm page.samples)
    (hbound : validateSignalPageBinding request page = .ok ()) (huniform : Uniform request page.samples) {v : ℚ}
    (hv : aggregateSignalValue exactly request.aggregation (s :: rest) = some v) (h0 : 0 ≤ v) :
    figuresOf (summarizeSignalPage exactly request (page.reordered (s :: rest) hperm)) =
      if Fits request page s then .ok (some (v,page.samples.length,freshnessOf page.samples,
        confidenceOf page.samples,summaryDigest request page))
      else .error (.validation "SignalSummary" "summary_id must be a bounded identifier") := by
  have hfigures := @figures_of_uniform request (page.reordered (s :: rest) hperm) s rest rfl hbound (huniform.perm hperm)
    v hv h0
  have hsamples : (page.reordered (s :: rest) hperm).samples = s :: rest := rfl
  rw [summaryDigest_reordered hperm,hsamples,freshnessOf_perm hperm,confidenceOf_perm hperm,hperm.length_eq] at hfigures
  simpa only [fits_reordered hperm] using hfigures

theorem settled_of_same (h : SameSummary request page) : Settled request page := by
  intro hbound huniform
  -- whichever sample comes first, and whatever the value is then
  have hfront : ∀ s rest v, (s :: rest).Perm page.samples →
      aggregateSignalValue exactly request.aggregation (s :: rest) = some v → 0 ≤ v →
      figuresOf (summarizeSignalPage exactly request page) =
        if Fits request page s then .ok (some (v,page.samples.length,freshnessOf page.samples,
          confidenceOf page.samples,summaryDigest request page))
        else .error (.validation "SignalSummary" "summary_id must be a bounded identifier") := by
    intro s rest v hperm hv h0
    rw [← h _ hperm]
    exact figures_front hperm hbound huniform hv h0
  have hanswer : ∀ s ∈ page.samples, ∃ v, figuresOf (summarizeSignalPage exactly request page) =
      if Fits request page s then .ok (some (v,page.samples.length,freshnessOf page.samples,
        confidenceOf page.samples,summaryDigest request page))
      else .error (.validation "SignalSummary" "summary_id must be a bounded identifier") := by
    intro s hs
    obtain ⟨rest,hperm⟩ := perm_to_front hs
    obtain ⟨v,hv,h0⟩ := exists_exact_value request.aggregation (List.cons_ne_nil s rest)
    exact ⟨v,hfront s rest v hperm hv h0⟩
  by_cases hfits : ∃ s ∈ page.samples, Fits request page s
  · obtain ⟨s,hs,hsfits⟩ := hfits
    have hall : ∀ t ∈ page.samples, Fits request page t := by
      intro t ht
      obtain ⟨v,hv⟩ := hanswer s hs
      obtain ⟨v',hv'⟩ := hanswer t ht
      rw [if_pos hsfits] at hv
      by_contra hnot
      rw [hv,if_neg hnot] at hv'
      cases hv'
    refine .inr ⟨hall,?_⟩
    intro hlast
    have hvalue : ∀ t, Latest page.samples t → figuresOf (summarizeSignalPage exactly request page) =
        .ok (some (t.value,page.samples.length,freshnessOf page.samples,confidenceOf page.samples,
          summaryDigest request page)) := by
      intro t ht
      obtain ⟨before,after,hsplit⟩ := List.append_of_mem ht.1
      have hperm : (before ++ after ++ [t]).Perm page.samples := by
        rw [hsplit,List.append_assoc]
        exact List.Perm.append_left before List.perm_append_comm
      have hv := aggregate_last fun u hu => ht.2 u (hperm.mem_iff.mp (List.mem_append_left [t] hu))
      rw [← hlast] at hv
      cases hfirst : before ++ after ++ [t] with
      | nil => simp at hfirst
      | cons u rest =>
        rw [hfirst] at hperm hv
        rw [hfront u rest t.value hperm hv t.valueNonneg,if_pos (hall u (hperm.mem_iff.mp List.mem_cons_self))]
    intro t u ht hu
    have hsame := (hvalue t ht).symm.trans (hvalue u hu)
    simp only [Except.ok.injEq,Option.some.injEq,Prod.mk.injEq] at hsame
    exact hsame.1
  · left
    intro s hs hfit
    exact hfits ⟨s,hs,hfit⟩

theorem summarize_of_unbound {e : SignalError} (h : validateSignalPageBinding request page = .error e) :
    summarizeSignalPage exactly request page = .error e := by
  unfold summarizeSignalPage
  rw [h]
  rfl

theorem summarize_of_mixed {first : SignalSample} {rest : List SignalSample} {e : SignalError}
    (hbound : validateSignalPageBinding request page = .ok ()) (hsamples : page.samples = first :: rest)
    (h : validateSignalPageSamples request page first = .error e) :
    summarizeSignalPage exactly request page = .error e := by
  unfold summarizeSignalPage
  rw [hbound]
  simp only [bind,Except.bind,hsamples]
  rw [h]

theorem same_of_refused (h : ¬(validateSignalPageBinding request page = .ok () ∧ Uniform request page.samples)) :
    SameSummary request page := by
  intro samples hperm
  have hbinding : validateSignalPageBinding request (page.reordered samples hperm) =
      validateSignalPageBinding request page := rfl
  cases hbound : validateSignalPageBinding request page with
  | error e => rw [summarize_of_unbound hbound,summarize_of_unbound (hbinding.trans hbound)]
  | ok u =>
    have hmixed : ¬Uniform request page.samples := fun huniform => h ⟨hbound,huniform⟩
    cases hsamples : page.samples with
    | nil => exact absurd (by simp [Uniform,hsamples]) hmixed
    | cons first rest =>
      cases samples with
      | nil => exact absurd (hperm.length_eq) (by simp [hsamples])
      | cons first' rest' =>
        have hfirst : first ∈ page.samples := by simp [hsamples]
        have hsame := @validateSignalPageSamples_reordered request _ _ _ _ hperm hfirst
          (hperm.mem_iff.mp List.mem_cons_self)
        cases hvalid : validateSignalPageSamples request page first with
        | ok u => exact absurd ((validateSignalPageSamples_ok hfirst).mp hvalid) hmixed
        | error e =>
          rw [summarize_of_mixed hbound hsamples hvalid,
            summarize_of_mixed (hbinding.trans hbound) rfl (hsame.trans hvalid)]

theorem same_of_settled (h : Settled request page) : SameSummary request page := by
  by_cases hvalid : validateSignalPageBinding request page = .ok () ∧ Uniform request page.samples
  · obtain ⟨hbound,huniform⟩ := hvalid
    intro samples hperm
    cases hsamples : page.samples with
    | nil =>
      have hsame : page.reordered samples hperm = page := by
        have hnil : samples = page.samples := by
          rw [hsamples] at hperm ⊢
          exact List.perm_nil.mp hperm
        subst hnil
        rfl
      rw [hsame]
    | cons first rest =>
      cases samples with
      | nil => exact absurd hperm.length_eq (by simp [hsamples])
      | cons first' rest' =>
        have hfirst : first ∈ page.samples := by simp [hsamples]
        have hfirst' : first' ∈ page.samples := hperm.mem_iff.mp List.mem_cons_self
        obtain ⟨v,hv,h0⟩ := exists_exact_value request.aggregation (hsamples ▸ List.cons_ne_nil first rest)
        have hfigures := figures_of_uniform hsamples hbound huniform hv h0
        rcases h hbound huniform with hnone | ⟨hall,huntied⟩
        · obtain ⟨v',hv',h0'⟩ := exists_exact_value request.aggregation (List.cons_ne_nil first' rest')
          rw [hfigures,figures_front hperm hbound huniform hv' h0',if_neg (hnone first hfirst),
            if_neg (hnone first' hfirst')]
        · rw [← aggregate_perm hperm huntied] at hv
          rw [hfigures,figures_front hperm hbound huniform hv h0,if_pos (hall first hfirst),
            if_pos (hall first' hfirst')]
  · exact same_of_refused hvalid

theorem perm_of_material {page' : SignalPage} (hfaithful : Faithful page' page)
    (h : digestMaterial request page' = digestMaterial request page) : page'.samples.Perm page.samples := by
  have hlength : ∀ (p : SignalPage), ∀ text ∈ (request.queryDigest.1 :: p.snapshotDigest.1 ::
      sortBy (fun text => text) (p.samples.map (·.sampleDigest.1))).map String.toList, text.length = 63 + 1 := by
    intro p text htext
    simp only [List.map_cons,List.mem_cons,List.mem_map,mem_sortBy] at htext
    rcases htext with rfl | rfl | ⟨_,⟨s,-,rfl⟩,rfl⟩
    · exact length_digest request.queryDigest
    · exact length_digest p.snapshotDigest
    · exact length_digest s.sampleDigest
  have hlists := intercalate_inj (hlength page') (hlength page) h
  have hsorted := List.map_injective_iff.mpr (fun _ _ => String.toList_inj.mp) hlists
  have hdigests : (page'.samples.map (·.sampleDigest.1)).Perm (page.samples.map (·.sampleDigest.1)) := by
    refine (@sortBy_perm _ _ _ (fun text : String => text) _).symm.trans ?_
    rw [(List.cons.inj (List.cons.inj hsorted).2).2]
    exact sortBy_perm _
  refine perm_of_map_perm ?_ hdigests
  intro s hs s' hs' hsame
  exact hfaithful s hs s' hs' (Subtype.ext hsame)

theorem binds_of_settled (h : Settled request page) : DigestBindsValue request page := by
  intro page' answer answer' hfaithful hcollision hanswer hanswer' hdigest
  obtain ⟨hbound,huniform,⟨first,hfirst,hfits⟩,hvalue,hd⟩ := summarized hanswer
  obtain ⟨-,-,-,hvalue',hd'⟩ := summarized hanswer'
  rw [hd,hd'] at hdigest
  have hperm := perm_of_material hfaithful (hcollision hdigest)
  rcases h hbound huniform with hnone | ⟨-,huntied⟩
  · exact absurd hfits (hnone first hfirst)
  · rw [aggregate_perm hperm huntied,hvalue] at hvalue'
    exact (Option.some.inj hvalue').symm

end

namespace Sample

def lastRequest : SignalReadRequest where
  requestId := ⟨"request:one",by decide +kernel⟩
  sourceId := source
  serviceScope := source
  tenantScope := source
  unitId := source
  signals := [.queue]
  aggregation := .last
  query := ⟨"queue_depth",by decide +kernel⟩
  queryDigest := queryDigest "queue_depth"
  windowStart := 0
  windowEnd := 2
  timeoutS := 1
  pageSize := 2
  maxItems := 2
  cursor := none
  snapshotDigest := none
  bound := rfl
  vocabulary := by decide
  signalsUnique := by decide
  window := by decide
  timeout := by decide +kernel
  pageBounded := by decide
  itemsBounded := by decide

def tiedPage : SignalPage where
  requestId := lastRequest.requestId
  sourceId := source
  snapshotDigest := zeros
  samples := [first,{ second with value := 5, valueNonneg := by decide }]
  nextCursor := none
  hasMore := false
  agree := rfl
  bounded := by decide

end Sample

end Arbora.Signals
