import Arbora.Economics.Instants

/-! The identity payload of a record determines the record, but for the order of a price card's rates and the
time at which a correction was made. -/
namespace Arbora.Economics
open Arbora.Scaling (Ref Digest)
open Arbora.Placement (Instant refDocument)
open Json (Document natural orNull natural_injective orNull_injective sorted_inj perm_of_sorted_eq)

@[simp] theorem refDocument_inj {a b : Ref} : refDocument a = refDocument b ↔ a = b :=
  ⟨fun h => Subtype.ext (Document.string.inj h),congrArg refDocument⟩

theorem timeDocument_injective : Function.Injective timeDocument := by
  intro a b h
  apply @isoformat_injective "+00:00"
  · decide
  · exact Document.string.inj h

@[simp] theorem timeDocument_inj {a b : Instant} : timeDocument a = timeDocument b ↔ a = b :=
  timeDocument_injective.eq_iff

@[simp] theorem orNull_time_inj {a b : Option Instant} : orNull timeDocument a = orNull timeDocument b ↔ a = b := by
  apply Function.Injective.eq_iff
  apply orNull_injective timeDocument_injective
  intro t h
  cases h

@[simp] theorem natural_inj {m n : ℕ} : natural m = natural n ↔ m = n := natural_injective.eq_iff

@[simp] theorem orNull_natural_inj {a b : Option ℕ} : orNull natural a = orNull natural b ↔ a = b := by
  apply Function.Injective.eq_iff
  apply orNull_injective natural_injective
  intro n h
  cases h

theorem orNull_string_inj {p : String → Prop} {a b : Option {text : String // p text}}
    (h : orNull (fun text => .string text.1) a = orNull (fun text => .string text.1) b) : a = b := by
  refine orNull_injective ?_ ?_ h
  · intro x y hxy
    exact Subtype.ext (Document.string.inj hxy)
  · intro x hx
    cases hx

theorem CorrectionReason.value_injective : Function.Injective CorrectionReason.value := by
  intro a b
  cases a <;> cases b <;> decide

theorem TombstoneTarget.value_injective : Function.Injective TombstoneTarget.value := by
  intro a b
  cases a <;> cases b <;> decide

theorem TombstoneReason.value_injective : Function.Injective TombstoneReason.value := by
  intro a b
  cases a <;> cases b <;> decide

theorem SloStatus.value_injective : Function.Injective SloStatus.value := by
  intro a b
  cases a <;> cases b <;> decide

theorem WindowGranularity.value_injective : Function.Injective WindowGranularity.value := by
  intro a b
  cases a <;> cases b <;> decide

theorem DimensionRef.document_injective : Function.Injective DimensionRef.document := by
  intro a b h
  have hmembers := sorted_inj h (by simp) (by simp)
  simp only [List.cons.injEq,Prod.mk.injEq,true_and,and_true,Document.string.injEq,Subtype.coe_inj] at hmembers
  exact DimensionRef.ext hmembers.1 hmembers.2

theorem PriceRate.document_injective : Function.Injective PriceRate.document := by
  intro a b h
  have hmembers := sorted_inj h (by simp) (by simp)
  simp only [List.cons.injEq,Prod.mk.injEq,true_and,and_true,Document.string.injEq,
    MetricKind.value_injective.eq_iff,natural_inj] at hmembers
  exact PriceRate.ext hmembers.1 hmembers.2

theorem MetricTotal.document_injective : Function.Injective MetricTotal.document := by
  intro a b h
  have hmembers := sorted_inj h (by simp) (by simp)
  simp only [List.cons.injEq,Prod.mk.injEq,true_and,and_true,Document.string.injEq,
    MetricKind.value_injective.eq_iff,natural_inj] at hmembers
  exact MetricTotal.ext hmembers.1 hmembers.2.1 hmembers.2.2

theorem AllocationRef.document_injective : Function.Injective AllocationRef.document := by
  intro a b h
  have hlength := (perm_of_sorted_eq h).length_eq
  obtain ⟨t,p,c,w⟩ := a
  obtain ⟨t',p',c',w'⟩ := b
  cases w with
  | none =>
    cases w' with
    | none =>
      have hmembers := sorted_inj h (by simp) (by simp)
      simp only [Option.map_none,Option.toList_none,List.append_nil,List.cons.injEq,Prod.mk.injEq,true_and,
        and_true,refDocument_inj] at hmembers
      obtain ⟨rfl,rfl,rfl⟩ := hmembers
      rfl
    | some w' => cases hlength
  | some w =>
    cases w' with
    | none => cases hlength
    | some w' =>
      have hmembers := sorted_inj h (by simp) (by simp)
      simp only [Option.map_some,Option.toList_some,List.cons_append,List.nil_append,List.cons.injEq,
        Prod.mk.injEq,true_and,and_true,refDocument_inj] at hmembers
      obtain ⟨rfl,rfl,rfl,rfl⟩ := hmembers
      rfl

theorem UsageWindow.document_injective : Function.Injective UsageWindow.document := by
  intro a b h
  have hmembers := sorted_inj h (by simp) (by simp)
  simp only [List.cons.injEq,Prod.mk.injEq,true_and,and_true,Document.string.injEq] at hmembers
  obtain ⟨hgranularity,hstart,-⟩ := hmembers
  apply UsageWindow.ext (WindowGranularity.value_injective hgranularity)
  exact isoformat_injective (by decide) hstart

theorem array_map_inj {α : Type} {f : α → Document} (hf : Function.Injective f) {l l' : List α}
    (h : Document.array (l.map f) = .array (l'.map f)) : l = l' :=
  List.map_injective_iff.mpr hf (Document.array.inj h)

theorem UsageFact.identityPayload_injective : Function.Injective UsageFact.identityPayload := by
  intro f g h
  have hmembers := sorted_inj h (by simp) (by simp)
  simp only [List.cons.injEq,Prod.mk.injEq,true_and,and_true,refDocument_inj,timeDocument_inj,natural_inj,
    orNull_natural_inj,Document.string.injEq,Subtype.coe_inj,MetricKind.value_injective.eq_iff,
    AllocationRef.document_injective.eq_iff] at hmembers
  obtain ⟨htenant,hallocation,hsource,hdigest,htime,hmetric,hquantity,hinput,houtput,hservice,hmeter,hsequence,hdims⟩ :=
    hmembers
  exact UsageFact.ext htenant hallocation hsource hdigest htime hmetric hquantity hinput houtput hservice hmeter
    hsequence (array_map_inj DimensionRef.document_injective hdims)

theorem WindowAggregate.identityPayload_injective : Function.Injective WindowAggregate.identityPayload := by
  intro a b h
  have hmembers := sorted_inj h (by simp) (by simp)
  simp only [List.cons.injEq,Prod.mk.injEq,true_and,and_true,refDocument_inj,Document.string.injEq,
    Subtype.coe_inj,AllocationRef.document_injective.eq_iff,UsageWindow.document_injective.eq_iff] at hmembers
  obtain ⟨htenant,hallocation,hwindow,hids,hcard,hdigest,htotals⟩ := hmembers
  have hstring : Function.Injective Document.string := by
    intro x y hxy
    exact Document.string.inj hxy
  exact WindowAggregate.ext htenant hallocation hwindow (array_map_inj hstring hids) hcard hdigest
    (array_map_inj MetricTotal.document_injective htotals)

theorem UsageTombstone.identityPayload_injective : Function.Injective UsageTombstone.identityPayload := by
  intro a b h
  have hmembers := sorted_inj h (by simp) (by simp)
  simp only [List.cons.injEq,Prod.mk.injEq,true_and,and_true,refDocument_inj,timeDocument_inj,
    Document.string.injEq,Subtype.coe_inj,TombstoneTarget.value_injective.eq_iff,
    TombstoneReason.value_injective.eq_iff] at hmembers
  obtain ⟨htenant,hkind,htarget,hdigest,hreason,htime,hpolicy⟩ := hmembers
  exact UsageTombstone.ext htenant hkind htarget hdigest hreason htime hpolicy

theorem SloWindowRollup.identityPayload_injective : Function.Injective SloWindowRollup.identityPayload := by
  intro a b h
  have hmembers := sorted_inj h (by simp) (by simp)
  simp only [List.cons.injEq,Prod.mk.injEq,true_and,and_true,refDocument_inj,natural_inj,orNull_natural_inj,
    Document.string.injEq,Subtype.coe_inj,SloStatus.value_injective.eq_iff,
    UsageWindow.document_injective.eq_iff] at hmembers
  obtain ⟨htenant,hobjective,hwindow,hgood,htotal,hbad,hmeasured,hsources,hstatus⟩ := hmembers
  have hdigest : Function.Injective fun d : Digest => Document.string d.1 := by
    intro x y hxy
    exact Subtype.ext (Document.string.inj hxy)
  exact SloWindowRollup.ext htenant hobjective hwindow hgood htotal hbad hmeasured (array_map_inj hdigest hsources)
    hstatus

theorem UsageCorrection.eq_of_payload {a b : UsageCorrection} (h : a.identityPayload = b.identityPayload)
    (hcreated : a.createdAt = b.createdAt) : a = b := by
  have hmembers := sorted_inj h (by simp) (by simp)
  simp only [List.cons.injEq,Prod.mk.injEq,true_and,and_true,refDocument_inj,Document.string.injEq,
    Subtype.coe_inj,CorrectionReason.value_injective.eq_iff] at hmembers
  obtain ⟨htenant,horiginal,hdigest,hreplacement,hreplacementDigest,hreason⟩ := hmembers
  exact UsageCorrection.ext htenant horiginal hdigest (orNull_string_inj hreplacement)
    (orNull_string_inj hreplacementDigest) hreason hcreated

theorem PriceCard.of_payload {a b : PriceCard} (h : a.identityPayload = b.identityPayload) :
    a.providerRef = b.providerRef ∧ a.serviceRef = b.serviceRef ∧ a.version = b.version ∧
      a.effectiveFrom = b.effectiveFrom ∧ a.effectiveTo = b.effectiveTo ∧ a.currency = b.currency ∧
      a.sourceRef = b.sourceRef ∧ a.sourceDigest = b.sourceDigest ∧ a.sortedRates = b.sortedRates := by
  have hmembers := sorted_inj h (by simp) (by simp)
  simp only [List.cons.injEq,Prod.mk.injEq,true_and,and_true,refDocument_inj,timeDocument_inj,orNull_time_inj,
    natural_inj,Document.string.injEq,Subtype.coe_inj] at hmembers
  obtain ⟨hprovider,hservice,hcurrency,hversion,hfrom,hto,hrates,hsource,hdigest⟩ := hmembers
  exact ⟨hprovider,hservice,hversion,hfrom,hto,hcurrency,hsource,hdigest,
    array_map_inj PriceRate.document_injective hrates⟩

theorem PriceCard.eq_of_payload {a b : PriceCard} (h : a.identityPayload = b.identityPayload)
    (hrates : a.rates = b.rates) : a = b := by
  obtain ⟨hprovider,hservice,hversion,hfrom,hto,hcurrency,hsource,hdigest,-⟩ := of_payload h
  exact PriceCard.ext hprovider hservice hcurrency hversion hfrom hto hrates hsource hdigest

end Arbora.Economics
