import Arbora.Placement.Soundness
import Arbora.Signals.Summaries

/-! Which summaries their validators accept: the id must not be too long, and the value must be finite. -/
namespace Arbora.Signals
open Checks (refuse_ok refuse_bind_ok)
open Keyset (sortBy mem_sortBy length_sortBy)
open Arbora.Placement (clashes clashes_of_fits hexadecimal_char)

def isIdentifierChar (c : Char) : Bool := isLetterOrDigit c || c ∈ ['.','_',':','/','-']

theorem isIdentifier_iff {text : String} : isIdentifier text = true ↔
    text.toList.head?.any isLetterOrDigit = true ∧ text.toList.length ≤ 256 ∧ text.toList.all isIdentifierChar = true := by
  have hchar : ∀ c, isLetterOrDigit c = true → isIdentifierChar c = true := by
    intro c hc
    simp [isIdentifierChar,hc]
  unfold isIdentifier
  cases text.toList with
  | nil => simp
  | cons c rest =>
    simp only [Bool.and_eq_true,decide_eq_true_eq,List.head?_cons,Option.any_some,List.length_cons,List.all_cons]
    constructor
    · rintro ⟨⟨hc,hlength⟩,hrest⟩
      exact ⟨hc,by omega,hchar c hc,hrest⟩
    · rintro ⟨hc,hlength,-,hrest⟩
      exact ⟨⟨hc,by omega⟩,hrest⟩

theorem isIdentifierChar_hexadecimal {c : Char} (h : Sha256.hexadecimal c = true) : isIdentifierChar c = true := by
  unfold Sha256.hexadecimal at h
  unfold isIdentifierChar isLetterOrDigit
  simp only [Bool.or_eq_true,Bool.and_eq_true,decide_eq_true_eq] at h ⊢
  rcases h with ⟨hlow,hhigh⟩ | ⟨hlow,hhigh⟩
  · exact .inl (.inr ⟨hlow,hhigh⟩)
  · exact .inl (.inl (.inr ⟨hlow,hhigh.trans (by decide)⟩))

theorem digest_hexadecimal (digest : Digest) (n : ℕ) : (digest.1.toList.take n).all Sha256.hexadecimal = true := by
  have hdigest := digest.2
  unfold isDigest at hdigest
  rw [Bool.and_eq_true,List.all_eq_true] at hdigest
  rw [List.all_eq_true]
  exact fun c hc => hdigest.2 c (List.mem_of_mem_take hc)

theorem digest_chars (digest : Digest) (n : ℕ) : (digest.1.toList.take n).all isIdentifierChar = true := by
  have hdigits := digest_hexadecimal digest n
  rw [List.all_eq_true] at hdigits ⊢
  exact fun c hc => isIdentifierChar_hexadecimal (hdigits c hc)

theorem length_digest (digest : Digest) : digest.1.toList.length = 64 := by
  have hdigest := digest.2
  unfold isDigest at hdigest
  rw [Bool.and_eq_true,decide_eq_true_eq] at hdigest
  exact hdigest.1

theorem isIdentifier_unit (unit : Identifier) : unit.1.toList.all isIdentifierChar = true :=
  (isIdentifier_iff.mp unit.2).2.2
theorem SignalKind.value_chars (signal : SignalKind) : signal.value.toList.all isIdentifierChar = true := by
  cases signal <;> decide

theorem isIdentifier_summaryId {first : SignalSample} {digest : Digest} :
    isIdentifier (summaryIdText first digest) = true ↔
      first.unitId.1.toList.length + first.signal.value.toList.length ≤ 230 := by
  have hlabel : "summary:".toList.length = 8 := by decide
  have hprefix : "summary:".toList.all isIdentifierChar = true := by decide
  have hcolon : isIdentifierChar ':' = true := by decide
  have hlength := length_digest digest
  have hhead : "summary:".toList.head? = some 's' := by decide
  rw [isIdentifier_iff]
  unfold summaryIdText
  rw [String.toList_ofList]
  simp only [List.length_append,List.length_cons,List.length_take,List.all_append,List.all_cons,List.append_assoc,
    List.head?_append,hhead,hlabel,hlength, hprefix,hcolon,isIdentifier_unit,SignalKind.value_chars,digest_chars,
    Bool.and_true,and_true,Option.some_or]
  constructor
  · rintro ⟨-,h⟩
    omega
  · intro h
    exact ⟨by decide,by omega⟩

theorem isReference_evidenceRef (digest : Digest) : isReference (evidenceRefText digest) = true := by
  have hhex := digest_hexadecimal digest 24
  have hlabel : "evidence:summary:".toList.length = 17 := by decide
  have hhead : "evidence:summary:".toList.head? = some 'e' := by decide
  have hchars : "evidence:summary:".toList.all isIdentifierChar = true := by decide
  have hnone : ∀ text ∈ ("evidence:summary:".toList.map Char.toLower).tails, clashes "bearer".toList text = false := by
    decide
  have hsmall : (digest.1.toList.take 24).map Char.toLower = digest.1.toList.take 24 := by
    rw [List.all_eq_true] at hhex
    exact (List.map_congr_left fun c hc => (hexadecimal_char (hhex c hc)).2).trans (List.map_id _)
  unfold isReference evidenceRefText
  rw [Bool.and_eq_true,isIdentifier_iff,String.toList_ofList,List.map_append,hsmall]
  refine ⟨⟨?_,?_,?_⟩,?_⟩
  · rw [List.head?_append,hhead,Option.some_or]
    decide
  · rw [List.length_append,List.length_take,hlabel]
    omega
  · rw [List.all_append,hchars,digest_chars]
    rfl
  · rw [Bool.not_eq_true',List.any_eq_false]
    intro text htext hstarts
    have hfits : "bearer".toList <+: text := List.isPrefixOf_iff_prefix.mp hstarts
    rw [List.tails_append,List.mem_append,List.mem_map] at htext
    rcases htext with ⟨start,hstart,rfl⟩ | htail
    · exact absurd (clashes_of_fits hhex hfits) (by rw [hnone start hstart]; nofun)
    · -- the word would stand within the digits, which have no `r`
      have hsuffix := (List.mem_tails _ _).mp (List.mem_of_mem_tail htail)
      have hr : 'r' ∈ digest.1.toList.take 24 := hsuffix.subset (hfits.subset (by decide))
      rw [List.all_eq_true] at hhex
      exact absurd (hhex 'r' hr) (by decide)

section
variable {request : SignalReadRequest} {page : SignalPage} {first : SignalSample} {digest : Digest}

def SignalSummary.figures (s : SignalSummary) : ℚ × ℕ × ℚ × ℚ × Digest :=
  (s.value,s.sampleCount,s.freshnessS,s.confidence,s.summaryDigest)
def freshnessOf (samples : List SignalSample) : ℚ := (samples.map (·.freshnessS)).max?.getD 0
def confidenceOf (samples : List SignalSample) : ℚ := (samples.map (·.confidence)).min?.getD 0

theorem freshnessOf_bounds (samples : List SignalSample) : 0 ≤ freshnessOf samples ∧ freshnessOf samples ≤ 300 := by
  unfold freshnessOf
  cases hmax : (samples.map (·.freshnessS)).max? with
  | none => norm_num
  | some m =>
    obtain ⟨s,-,rfl⟩ := List.mem_map.mp (List.max?_mem hmax)
    exact s.fresh

theorem confidenceOf_bounds (samples : List SignalSample) : 0 ≤ confidenceOf samples ∧ confidenceOf samples ≤ 1 := by
  unfold confidenceOf
  cases hmin : (samples.map (·.confidence)).min? with
  | none => norm_num
  | some m =>
    obtain ⟨s,-,rfl⟩ := List.mem_map.mp (List.min?_mem hmin)
    exact s.confident

theorem exists_built {value : ℚ} (hne : page.samples ≠ []) (hid : isIdentifier (summaryIdText first digest) = true)
    (hvalue : 0 ≤ value) : ∃ summary, buildSignalSummary request page first (some value) digest = .ok summary ∧
      summary.figures = (value,page.samples.length,freshnessOf page.samples,confidenceOf page.samples,digest) := by
  have hcount : 1 ≤ page.samples.length ∧ page.samples.length ≤ maxBatchItems :=
    ⟨List.length_pos_iff.mpr hne,page.bounded.trans (by decide)⟩
  unfold buildSignalSummary
  dsimp only
  rw [dif_pos hid,dif_pos hvalue,dif_pos hcount]
  refine ⟨_,(dif_pos (freshnessOf_bounds page.samples)).trans ((dif_pos (confidenceOf_bounds page.samples)).trans
    (dif_pos (isReference_evidenceRef digest))),rfl⟩

theorem built_ok {value : Option ℚ} {summary : SignalSummary}
    (h : buildSignalSummary request page first value digest = .ok summary) :
    isIdentifier (summaryIdText first digest) = true ∧ value = some summary.value ∧ summary.summaryDigest = digest := by
  unfold buildSignalSummary at h
  obtain ⟨hid,h⟩ := Checks.dite_ok.mp h
  cases value with
  | none => cases h
  | some v =>
    iterate 5 obtain ⟨_,h⟩ := Checks.dite_ok.mp h
    cases h
    exact ⟨hid,rfl,rfl⟩

/-- An id that does not fit is refused, whatever the samples. -/
theorem built_error {value : Option ℚ} (hid : isIdentifier (summaryIdText first digest) ≠ true) :
    buildSignalSummary request page first value digest =
      .error (.validation "SignalSummary" "summary_id must be a bounded identifier") := dif_neg hid

end

section
variable {arithmetic : Arithmetic} {request : SignalReadRequest} {page : SignalPage} {samples : List SignalSample}

/-- What all samples of a page that is summarized agree on. -/
def Uniform (request : SignalReadRequest) (samples : List SignalSample) : Prop :=
  ∀ s ∈ samples, (∀ t ∈ samples, t.signal = s.signal) ∧ s.signal ∈ request.signals ∧
    s.aggregation = request.aggregation

theorem validateSignalPageSamples_ok {first : SignalSample} (hfirst : first ∈ page.samples) :
    validateSignalPageSamples request page first = .ok () ↔ Uniform request page.samples := by
  unfold validateSignalPageSamples
  rw [Checks.refuse_bind_ok,Checks.refuse_ok,not_or,not_exists,not_exists,not_not]
  simp only [not_and,not_not]
  constructor
  · rintro ⟨⟨hsame,hrequested⟩,haggregation⟩ s hs
    refine ⟨fun t ht => (hsame t ht).trans (hsame s hs).symm,?_,haggregation s hs⟩
    rw [hsame s hs]
    exact hrequested
  · intro h
    exact ⟨⟨fun s hs => (h first hfirst).1 s hs,(h first hfirst).2.1⟩,fun s hs => (h s hs).2.2⟩

def Fits (request : SignalReadRequest) (page : SignalPage) (first : SignalSample) : Prop :=
  isIdentifier (summaryIdText first (summaryDigest request page)) = true

instance (first : SignalSample) : Decidable (Fits request page first) := inferInstanceAs (Decidable (_ = true))

theorem fits_iff {s : SignalSample} :
    Fits request page s ↔ s.unitId.1.toList.length + s.signal.value.toList.length ≤ 230 :=
  isIdentifier_summaryId

theorem summarize_of_uniform {first : SignalSample} {rest : List SignalSample} (hsamples : page.samples = first :: rest)
    (hbound : validateSignalPageBinding request page = .ok ())
    (hvalid : validateSignalPageSamples request page first = .ok ()) : summarizeSignalPage arithmetic request page =
      (buildSignalSummary request page first (aggregateSignalValue arithmetic request.aggregation page.samples)
        (summaryDigest request page) >>= fun summary => .ok (some (summary,decisionEvidence request page summary))) := by
  unfold summarizeSignalPage
  rw [hbound]
  simp only [bind,Except.bind,hsamples]
  rw [hvalid]

theorem summarized {answer : SignalSummary × SignalDecisionEvidence}
    (h : summarizeSignalPage arithmetic request page = .ok (some answer)) :
    validateSignalPageBinding request page = .ok () ∧ Uniform request page.samples ∧
      (∃ first ∈ page.samples, Fits request page first) ∧
      aggregateSignalValue arithmetic request.aggregation page.samples = some answer.1.value ∧
      answer.1.summaryDigest = summaryDigest request page := by
  obtain ⟨_,hbound,hrest⟩ := Checks.bind_ok.mp h
  cases hsamples : page.samples with
  | nil =>
    rw [hsamples] at hrest
    cases hrest
  | cons first rest =>
    have hfirst : first ∈ page.samples := by simp [hsamples]
    rw [hsamples] at hrest
    obtain ⟨_,hvalid,hrest⟩ := Checks.bind_ok.mp hrest
    obtain ⟨summary,hbuilt,hanswer⟩ := Checks.bind_ok.mp hrest
    cases hanswer
    obtain ⟨hid,hvalue,hdigest⟩ := built_ok hbuilt
    rw [← hsamples]
    exact ⟨hbound,(validateSignalPageSamples_ok hfirst).mp hvalid,⟨first,hfirst,hid⟩,hsamples ▸ hvalue,hdigest⟩

def Summed (aggregation : SignalAggregation) : Prop := aggregation = .mean ∨ aggregation = .sum ∨ aggregation = .rate

theorem percentileIndex_lt {percent count : ℕ} (h : 1 ≤ count) : percentileIndex percent count < count := by
  unfold percentileIndex
  omega

theorem exists_value (aggregation : SignalAggregation) (hne : samples ≠ [])
    (hsum : Summed aggregation → ∃ total, arithmetic.sum (samples.map (·.value)) = some total ∧ 0 ≤ total ∧
      ∃ share, arithmetic.share total (samples.map (·.value)).length = some share ∧ 0 ≤ share) :
    ∃ v, aggregateSignalValue arithmetic aggregation samples = some v ∧ 0 ≤ v := by
  have hvalues : ∀ v ∈ samples.map (·.value), 0 ≤ v := by
    intro v hv
    obtain ⟨s,-,rfl⟩ := List.mem_map.mp hv
    exact s.valueNonneg
  have hcount : 1 ≤ (samples.map (·.value)).length := by
    rw [List.length_map]
    exact List.length_pos_iff.mpr hne
  have hpercentile : ∀ percent, ∃ v,
      (sortBy (fun v => v) (samples.map (·.value)))[percentileIndex percent (samples.map (·.value)).length]? = some v ∧
        0 ≤ v := by
    intro percent
    have hlt := @percentileIndex_lt percent _ hcount
    refine ⟨_,List.getElem?_eq_getElem (by simpa [length_sortBy] using hlt),?_⟩
    exact hvalues _ (mem_sortBy.mp (List.getElem_mem _))
  have hmean : Summed aggregation → ∃ v, ((arithmetic.sum (samples.map (·.value))).bind fun total =>
      arithmetic.share total (samples.map (·.value)).length) = some v ∧ 0 ≤ v := by
    intro h
    obtain ⟨total,htotal,-,share,hshare,h0⟩ := hsum h
    exact ⟨share,by rw [htotal,Option.bind_some,hshare],h0⟩
  cases aggregation with
  | last =>
    have hsorted : sortBy (·.sampleTime) samples ≠ [] := by
      rw [← List.length_pos_iff,length_sortBy]
      exact List.length_pos_iff.mpr hne
    exact ⟨_,by rw [aggregateSignalValue,List.getLast?_eq_some_getLast hsorted]; rfl,SignalSample.valueNonneg _⟩
  | mean => exact hmean (.inl rfl)
  | rate => exact hmean (.inr (.inr rfl))
  | sum =>
    obtain ⟨total,htotal,h0,-⟩ := hsum (.inr (.inl rfl))
    exact ⟨total,htotal,h0⟩
  | count => exact ⟨_,rfl,Nat.cast_nonneg _⟩
  | max =>
    cases hmax : (samples.map (·.value)).max? with
    | none =>
      rw [List.max?_eq_none_iff,List.map_eq_nil_iff] at hmax
      exact absurd hmax hne
    | some m => exact ⟨m,hmax,hvalues m (List.max?_mem hmax)⟩
  | p50 => exact hpercentile 50
  | p95 => exact hpercentile 95
  | p99 => exact hpercentile 99

theorem value_of_infinite {aggregation : SignalAggregation} (h : Summed aggregation)
    (hsum : arithmetic.sum (samples.map (·.value)) = none) : aggregateSignalValue arithmetic aggregation samples = none := by
  rcases h with rfl | rfl | rfl
  · exact Option.bind_eq_none_iff.mpr (by simp [hsum])
  · exact hsum
  · exact Option.bind_eq_none_iff.mpr (by simp [hsum])

end

end Arbora.Signals
