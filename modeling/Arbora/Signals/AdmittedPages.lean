import Arbora.Signals.Provider
import Arbora.Signals.SummaryOrder

/-! Pages that the provider reads, and whether they can be summarized. -/
namespace Arbora.Signals
open FloatingPoint (binary64 Format)
open Checks (bind_ok refuse_ok refuse_bind_ok found_bind_ok)

section
variable {provider : AuthenticatedSignalProvider} {request : SignalReadRequest} {page : SignalPage}

structure Requested (request : SignalReadRequest) (s : SignalSample) : Prop where
  unitId : s.unitId = request.unitId
  signal : s.signal ∈ request.signals
  aggregation : s.aggregation = request.aggregation

structure Admitted (request : SignalReadRequest) (page : SignalPage) : Prop where
  requestId : page.requestId = request.requestId
  sourceId : page.sourceId = request.sourceId
  snapshot : request.snapshotDigest ≠ none → some page.snapshotDigest = request.snapshotDigest
  samples : ∀ s ∈ page.samples, Requested request s

theorem requested_of_valid {reading : Option ℤ} {s : SignalSample} (h : provider.validateSample request reading s = .ok ()) :
    Requested request s := by
  obtain ⟨_,-,h⟩ := bind_ok.mp h
  obtain ⟨_,hscope,-⟩ := bind_ok.mp h
  obtain ⟨hscope,h⟩ := refuse_bind_ok.mp hscope
  obtain ⟨hsignal,h⟩ := refuse_bind_ok.mp h
  obtain ⟨haggregation,-⟩ := refuse_bind_ok.mp h
  simp only [not_or,not_not] at hscope hsignal haggregation
  exact ⟨hscope.2.2,hsignal,haggregation⟩

theorem requested_of_validated {samples out : List SignalSample} {read : List (Option SignalSample)}
    (h : provider.validatedBatchSamples request samples read = .ok out) (hsamples : ∀ s ∈ samples, Requested request s) :
    ∀ s ∈ out, Requested request s := by
  induction read generalizing samples with
  | nil =>
    obtain ⟨-,hout⟩ := refuse_bind_ok.mp h
    cases hout
    exact hsamples
  | cons r rest ih =>
    obtain ⟨-,h⟩ := refuse_bind_ok.mp h
    obtain ⟨sample,-,h⟩ := found_bind_ok.mp h
    obtain ⟨_,hvalid,hrest⟩ := bind_ok.mp h
    apply ih hrest
    intro s hs
    rcases List.mem_append.mp hs with hs | hs
    · exact hsamples s hs
    · rw [List.mem_singleton.mp hs]
      exact requested_of_valid hvalid

theorem snapshot_of_valid {backendPage : SignalBackendPage} {digest : Digest}
    (h : validateBackendPage backendPage request = .ok digest) (hsome : request.snapshotDigest ≠ none) :
    some digest = request.snapshotDigest := by
  unfold validateBackendPage at h
  split_ifs at h
  obtain ⟨hsnapshot,h⟩ := refuse_bind_ok.mp h
  obtain ⟨-,h⟩ := refuse_bind_ok.mp h
  obtain ⟨_,-,hdigest⟩ := bind_ok.mp h
  cases hdigest
  by_contra hne
  exact hsnapshot ⟨hsome,hne⟩

theorem newSignalPage_ok {digest : Digest} {samples : List SignalSample} {nextCursor : Option String} {hasMore : Bool}
    (h : newSignalPage request digest samples nextCursor hasMore = .ok page) :
    page.requestId = request.requestId ∧ page.sourceId = request.sourceId ∧ page.snapshotDigest = digest ∧
      page.samples = samples := by
  obtain ⟨cursor,-,h⟩ := bind_ok.mp h
  split_ifs at h
  cases h
  exact ⟨rfl,rfl,rfl,rfl⟩

theorem admitted_of_read {ids : Order (SourceKey × Identifier)} {digests : Order (SourceKey × Digest)}
    (h : (provider.readBatch request ids digests).1 = .ok page) : Admitted request page := by
  unfold AuthenticatedSignalProvider.readBatch at h
  cases hread : provider.admittedSamples request with
  | error e =>
    rw [hread] at h
    cases h
  | ok read =>
    obtain ⟨backendPage,digest,samples⟩ := read
    rw [hread] at h
    dsimp only at h
    obtain ⟨_,-,hread⟩ := bind_ok.mp hread
    obtain ⟨_,-,hread⟩ := bind_ok.mp hread
    obtain ⟨_,-,hread⟩ := bind_ok.mp hread
    obtain ⟨_,-,hread⟩ := found_bind_ok.mp hread
    obtain ⟨_,hpage,hread⟩ := bind_ok.mp hread
    obtain ⟨_,hsamples,hread⟩ := bind_ok.mp hread
    cases hread
    cases haccept : provider.replayGuard.accept ⟨samples,ids,digests⟩ with
    | mk accepted replayGuard =>
      rw [haccept] at h
      cases accepted with
      | false => cases h
      | true =>
        obtain ⟨hrequest,hsource,hdigest,hrows⟩ := newSignalPage_ok h
        refine ⟨hrequest,hsource,?_,?_⟩
        · rw [hdigest]
          exact snapshot_of_valid hpage
        · rw [hrows]
          exact requested_of_validated hsamples (by simp)

theorem Admitted.bound (h : Admitted request page) (hfinal : page.hasMore = false) :
    validateSignalPageBinding request page = .ok () := by
  refine refuse_bind_ok.mpr ⟨?_,refuse_bind_ok.mpr ⟨?_,refuse_ok.mpr (by simp [hfinal])⟩⟩
  · simp [h.requestId,h.sourceId]
  · exact fun hdiffers => hdiffers.1 (h.snapshot hdiffers.2)

theorem Admitted.uniform (h : Admitted request page)
    (hsingle : ∀ s ∈ page.samples, ∀ t ∈ page.samples, t.signal = s.signal) : Uniform request page.samples :=
  fun s hs => ⟨hsingle s hs,(h.samples s hs).signal,(h.samples s hs).aggregation⟩

theorem exists_float_value {samples : List SignalSample} {aggregation : SignalAggregation} (hne : samples ≠ [])
    (hfloats : ∀ s ∈ samples, binary64.Amount s.value)
    (hsum : Summed aggregation → (binary64.sum (samples.map (·.value))).isSome = true) :
    ∃ v, aggregateSignalValue floats aggregation samples = some v ∧ 0 ≤ v := by
  apply exists_value aggregation hne
  intro hsummed
  obtain ⟨total,htotal⟩ := Option.isSome_iff_exists.mp (hsum hsummed)
  have hvalues : ∀ v ∈ samples.map (·.value), binary64.Amount v := by
    intro v hv
    obtain ⟨s,hs,rfl⟩ := List.mem_map.mp hv
    exact hfloats s hs
  have hamount := Format.amount_sum hvalues htotal
  have hcount : 1 ≤ (samples.map (·.value)).length := by
    rw [List.length_map]
    exact List.length_pos_iff.mpr hne
  obtain ⟨share,hshare,hamount'⟩ := Format.exists_share hamount hcount
  exact ⟨total,htotal,hamount.nonneg,share,hshare,hamount'.nonneg⟩

theorem Admitted.fits (h : Admitted request page) (hsingle : ∀ s ∈ page.samples, ∀ t ∈ page.samples, t.signal = s.signal)
    {first : SignalSample} (hfirst : first ∈ page.samples) : Fits request page first ↔
      ∀ s ∈ page.samples, request.unitId.1.toList.length + s.signal.value.toList.length ≤ 230 := by
  rw [fits_iff,(h.samples first hfirst).unitId]
  constructor
  · intro hfits s hs
    rw [hsingle first hfirst s hs]
    exact hfits
  · intro hfits
    exact hfits first hfirst

/-- A last page that is admitted, not empty and of one signal has a summary iff the id of the summary is short enough, and
the sum of the values is finite where one is taken. -/
theorem admitted_summarized_iff {ids : Order (SourceKey × Identifier)} {digests : Order (SourceKey × Digest)}
    (hread : (provider.readBatch request ids digests).1 = .ok page) (hfinal : page.hasMore = false)
    (hne : page.samples ≠ []) (hsingle : ∀ s ∈ page.samples, ∀ t ∈ page.samples, t.signal = s.signal)
    (hfloats : ∀ s ∈ page.samples, binary64.Amount s.value) :
    (∃ answer, summarizeSignalPage floats request page = .ok (some answer)) ↔
      (∀ s ∈ page.samples, request.unitId.1.toList.length + s.signal.value.toList.length ≤ 230) ∧
        (Summed request.aggregation → (binary64.sum (page.samples.map (·.value))).isSome = true) := by
  have hadmitted := admitted_of_read hread
  have hbound := hadmitted.bound hfinal
  obtain ⟨first,rest,hsamples⟩ := List.exists_cons_of_ne_nil hne
  have hfirst : first ∈ page.samples := by simp [hsamples]
  have hvalid := (validateSignalPageSamples_ok hfirst).mpr (hadmitted.uniform hsingle)
  constructor
  · intro h
    obtain ⟨answer,hanswer⟩ := h
    obtain ⟨-,-,⟨s,hs,hfits⟩,hvalue,-⟩ := summarized hanswer
    refine ⟨(hadmitted.fits hsingle hs).mp hfits,?_⟩
    intro hsummed
    cases hsum : binary64.sum (page.samples.map (·.value)) with
    | some total => rfl
    | none =>
      rw [value_of_infinite hsummed hsum] at hvalue
      cases hvalue
  · intro h
    obtain ⟨value,hvalue,h0⟩ := exists_float_value hne hfloats h.2
    have hfits := (hadmitted.fits hsingle hfirst).mpr h.1
    obtain ⟨summary,hbuilt,-⟩ := @exists_built request page first (summaryDigest request page) _ hne hfits h0
    rw [summarize_of_uniform hsamples hbound hvalid,hvalue,hbuilt]
    exact ⟨_,rfl⟩

end

namespace Sample

def unitRequest (unitId : Identifier) : SignalReadRequest := { lastRequest with unitId := unitId }

def unitSample (unitId : Identifier) : SignalSample :=
  { first with
    unitId := unitId
    queryDigest := lastRequest.queryDigest }

def unitProvider (unitId : Identifier) : AuthenticatedSignalProvider where
  backend := fun _ => .ok (some ⟨[some (unitSample unitId)],none,false,zeros.1⟩)
  binding := ⟨source,.engine,source,source,unitId,1,first.authEvidenceRef,Nat.one_pos⟩
  policy := defaultPolicy
  verify := opaqueReference
  replayGuard := ReplayGuard.new 1 (by decide)
  clock := fun _ => some 1

def unitPage (unitId : Identifier) : SignalPage :=
  ⟨lastRequest.requestId,source,zeros,[unitSample unitId],none,false,rfl,by simp [maxPageSize]⟩

theorem long_isIdentifier : isIdentifier (String.ofList (List.replicate 256 'u')) = true := by
  rw [isIdentifier_iff,String.toList_ofList,List.length_replicate,List.all_replicate,List.head?_replicate]
  decide

def longUnit : Identifier := ⟨String.ofList (List.replicate 256 'u'),long_isIdentifier⟩

theorem unit_valid (unitId : Identifier) :
    (unitProvider unitId).validateSample (unitRequest unitId) (some 1) (unitSample unitId) = .ok () := by
  have hfresh : ¬maxSampleFreshnessS < 0 ∧ ¬maxSampleFreshnessS < 1 := by norm_num [maxSampleFreshnessS]
  have hskew : ¬0 < -maxFutureSkewS := by norm_num [maxFutureSkewS]
  refine bind_ok.mpr ⟨(),?_,bind_ok.mpr ⟨(),?_,refuse_bind_ok.mpr ⟨?_,?_⟩⟩⟩
  · simp [AuthenticatedSignalProvider.checkSampleIdentityBinding,unitProvider,unitSample,first,sample,Checks.refuse,
      bind,Except.bind]
  · simp [AuthenticatedSignalProvider.checkSampleScopeAndVocabulary,unitRequest,unitSample,lastRequest,first,sample,
      Checks.refuse,bind,Except.bind]
  · simp [unitProvider,opaqueReference,unitSample]
  · simp [AuthenticatedSignalProvider.checkSampleFreshnessAndWindow,unitProvider,unitSample,unitRequest,lastRequest,
      first,sample,Checks.refuse,Checks.found,bind,Except.bind,defaultPolicy,Format.nearest_zero,hfresh,hskew]

theorem unit_admitted (unitId : Identifier) : (unitProvider unitId).admittedSamples (unitRequest unitId) =
    .ok (⟨[some (unitSample unitId)],none,false,zeros.1⟩,zeros,[unitSample unitId]) := by
  have hpolicy : defaultPolicy.window = 86400000000 := by decide +kernel
  refine bind_ok.mpr ⟨(),?_,bind_ok.mpr ⟨(),?_,bind_ok.mpr ⟨_,rfl,found_bind_ok.mpr ⟨_,rfl,bind_ok.mpr ⟨zeros,?_,
    bind_ok.mpr ⟨[unitSample unitId],?_,rfl⟩⟩⟩⟩⟩⟩
  · simp [AuthenticatedSignalProvider.checkBindingScope,unitProvider,unitRequest,lastRequest,Checks.refuse,bind,
      Except.bind]
  · refine refuse_bind_ok.mpr ⟨?_,refuse_bind_ok.mpr ⟨?_,refuse_bind_ok.mpr ⟨?_,refuse_bind_ok.mpr ⟨?_,
      refuse_bind_ok.mpr ⟨?_,refuse_ok.mpr ?_⟩⟩⟩⟩⟩
    · exact (by decide +kernel : ¬defaultPolicy.maxQueryLength < (Base64.utf8 lastRequest.query.1).length)
    · exact (by decide +kernel : ¬defaultPolicy.maxTimeoutS < lastRequest.timeoutS)
    · exact (by decide : ¬defaultPolicy.maxPageSize < lastRequest.pageSize)
    · exact (by decide : ¬defaultPolicy.maxBatchItems < lastRequest.maxItems)
    · exact (by decide : ¬defaultPolicy.maxSignalKinds < lastRequest.signals.length)
    · simp [unitProvider,hpolicy,unitRequest,lastRequest]
  · unfold validateBackendPage
    rw [dif_pos zeros.2]
    exact refuse_bind_ok.mpr ⟨fun h => h.1 rfl,refuse_bind_ok.mpr ⟨by simp,bind_ok.mpr ⟨none,rfl,rfl⟩⟩⟩
  · refine refuse_bind_ok.mpr ⟨?_,found_bind_ok.mpr ⟨_,rfl,bind_ok.mpr ⟨(),unit_valid unitId,?_⟩⟩⟩
    · exact (by decide : ¬lastRequest.pageSize ≤ 0)
    · exact refuse_bind_ok.mpr ⟨(by decide : ¬lastRequest.maxItems < 1),rfl⟩

theorem unit_read (unitId : Identifier) :
    ((unitProvider unitId).readBatch (unitRequest unitId) asIs asIs).1 = .ok (unitPage unitId) := by
  unfold AuthenticatedSignalProvider.readBatch
  rw [unit_admitted]
  rfl

theorem unit_single (unitId : Identifier) :
    ∀ s ∈ (unitPage unitId).samples, ∀ t ∈ (unitPage unitId).samples, t.signal = s.signal := by
  simp [unitPage]

theorem unit_floats (unitId : Identifier) : ∀ s ∈ (unitPage unitId).samples, binary64.Amount s.value := by
  intro s hs
  rw [List.mem_singleton.mp hs]
  have hfixed : binary64.nearest 3 = 3 := by decide +kernel
  exact (⟨by decide,hfixed,by decide +kernel⟩ : binary64.Amount 3)

end Sample

open Sample in
theorem source_summarized :
    ∃ answer, summarizeSignalPage floats (unitRequest source) (unitPage source) = .ok (some answer) := by
  refine (admitted_summarized_iff (unit_read source) rfl (List.cons_ne_nil _ _) (unit_single source)
    (unit_floats source)).mpr ⟨?_,?_⟩
  · intro s hs
    rw [List.mem_singleton.mp hs]
    exact (by decide +kernel : source.1.toList.length + first.signal.value.toList.length ≤ 230)
  · intro hsummed
    rcases hsummed with h | h | h <;> cases h

/-- The id of a summary is longer than the names in it. -/
theorem long_unit_not_summarized : ¬∀ (provider : AuthenticatedSignalProvider) request page ids digests,
    (provider.readBatch request ids digests).1 = .ok page → page.hasMore = false → page.samples ≠ [] →
      (∀ s ∈ page.samples, ∀ t ∈ page.samples, t.signal = s.signal) → (∀ s ∈ page.samples, binary64.Amount s.value) →
          ∃ answer, summarizeSignalPage floats request page = .ok (some answer) := by
  intro h
  have hread := Sample.unit_read Sample.longUnit
  have hsingle := Sample.unit_single Sample.longUnit
  obtain ⟨answer,hanswer⟩ := h _ _ _ _ _ hread rfl (List.cons_ne_nil _ _) hsingle (Sample.unit_floats _)
  obtain ⟨-,-,⟨s,hs,hfits⟩,-⟩ := summarized hanswer
  have hlength := ((admitted_of_read hread).fits hsingle hs).mp hfits s hs
  have hlong : Sample.longUnit.1.toList.length = 256 :=
    (congrArg List.length String.toList_ofList).trans List.length_replicate
  have hunit : (Sample.unitRequest Sample.longUnit).unitId = Sample.longUnit := rfl
  rw [hunit,hlong] at hlength
  omega

end Arbora.Signals
