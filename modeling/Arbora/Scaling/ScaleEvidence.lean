import Arbora.Scaling.EvaluateScale

/-! When the checks of `evaluate_scale` raise no reason, and what its arithmetic decides. -/
namespace Arbora.Scaling

theorem utc_error {value : DateTime} {name : String} {x : ScaleError} (h : utc value name = .error x) :
    (value = .outside ∧ x.kind = .overflowError) ∨ (value ≠ .outside ∧ x.kind = .valueError) := by
  cases value with
  | naive =>
    cases h
    exact .inr ⟨by decide,rfl⟩
  | outside =>
    cases h
    exact .inl ⟨rfl,rfl⟩
  | utc s =>
    simp only [utc] at h
    split_ifs at h
    cases h
    exact .inr ⟨by simp,rfl⟩

section
variable {α κ : Type} [DecidableEq κ] (key : α → κ) (duplicate : String)

private theorem observationLoop_from (observations result : List α) (hr : (result.map key).Nodup) :
    observationLoop key duplicate result observations =
    if ((result ++ observations).map key).Nodup then .ok (result ++ observations)
    else .error ⟨.scaleContractError,duplicate⟩ := by
  induction observations generalizing result with
  | nil => simp [observationLoop,hr]
  | cons o rest ih =>
    rw [observationLoop]
    by_cases ho : key o ∈ result.map key
    · have hdup : ¬ ((result ++ o :: rest).map key).Nodup := by
        rw [List.map_append,List.map_cons,List.nodup_append]
        intro h
        exact h.2.2 _ ho _ List.mem_cons_self rfl
      rw [if_pos ho,if_neg hdup]
    · have hnext : ((result ++ [o]).map key).Nodup := by
        rw [List.map_append,List.nodup_append]
        refine ⟨hr,by simp,?_⟩
        intro a ha b hb hab
        rw [List.map_singleton,List.mem_singleton] at hb
        exact ho (hb ▸ hab ▸ ha)
      rw [if_neg ho,ih (result ++ [o]) hnext,List.append_assoc,List.singleton_append]

theorem observationLoop_eq (observations : List α) : observationLoop key duplicate [] observations =
    if (observations.map key).Nodup then .ok observations else .error ⟨.scaleContractError,duplicate⟩ := by
  simpa using observationLoop_from key duplicate observations [] (by simp)

end

/-- Everything a decision rests on is present and fresh, and nothing asks to hold still. -/
structure Complete (i : ScaleInputs) (t : Int) : Prop where
  signal : ∃ s, i.signal = some s ∧ s.signal = i.contract.policy.targetSignal ∧ s.fresh t = true
  capacity : ∀ axis ∈ i.contract.requiredCapacityAxes, ∃ o, capacityAt i.capacities axis = some o ∧ o.fresh t = true
  quota : ∀ b ∈ i.contract.quotas, ∃ o, quotaAt i.quotas b.quotaRef = some o ∧ o.scope = b.scope ∧ o.fresh t = true
  continuity : i.contract.continuity.mode ≠ .stateless → ∃ c, i.continuity = some c ∧ c.fresh t = true ∧ c.ready = true
  stateless : i.contract.continuity.mode = .stateless → ∀ c, i.continuity = some c → c.fresh t = true
  safety : i.contract.safetyRequired = true →
    ∃ s, i.safety = some s ∧ s.fresh t = true ∧ s.overloaded = false ∧ s.noisyNeighbor = false

section
variable {contentDigest : String → Digest} {contract : ScaleUnitContract} {t : Int}

theorem checkSignal_reasons {signal : Option SignalObservation} :
    (checkSignal contentDigest contract t signal).reasons = [] ↔
    ∃ s, signal = some s ∧ s.signal = contract.policy.targetSignal ∧ s.fresh t = true := by
  cases signal with
  | none => simp [checkSignal]
  | some s =>
    by_cases hs : s.signal = contract.policy.targetSignal
    · cases hf : s.fresh t with
      | true => simp [checkSignal,hs,hf]
      | false => simp [checkSignal,hs,hf]
    · simp [checkSignal,hs]

theorem checkCapacityAxes_reasons {capMap : List CapacityObservation} :
    (checkCapacityAxes contentDigest contract capMap t).reasons = [] ↔
    ∀ axis ∈ contract.requiredCapacityAxes, ∃ o, capacityAt capMap axis = some o ∧ o.fresh t = true := by
  simp only [checkCapacityAxes,List.append_eq_nil_iff,ite_eq_right_iff,List.cons_ne_nil,imp_false,
    List.any_eq_true,not_exists,not_and]
  constructor
  · rintro ⟨hmissing,hstale⟩ axis ha
    cases ho : capacityAt capMap axis with
    | none => exact absurd (by rw [ho]; rfl) (hmissing axis ha)
    | some o =>
      have hs := hstale axis ha
      rw [ho] at hs
      exact ⟨o,rfl,by simpa using hs⟩
  · intro h
    constructor
    · intro axis ha
      obtain ⟨o,ho,_⟩ := h axis ha
      simp [ho]
    · intro axis ha
      obtain ⟨o,ho,hf⟩ := h axis ha
      simp [ho,hf]

private theorem recordMissingQuota_reasons (binding : QuotaBinding) (state : QuotaCheckState) :
    quotaStateToReasons (recordMissingQuota contentDigest binding state).2 ≠ [] := by
  unfold recordMissingQuota
  split_ifs with hs
  · simp [quotaStateToReasons]
  · simp [quotaStateToReasons]

private theorem recordStaleQuota_reasons (binding : QuotaBinding) (observation : QuotaObservation)
    (state : QuotaCheckState) : quotaStateToReasons (recordStaleQuota binding observation state).2 ≠ [] := by
  unfold recordStaleQuota
  split_ifs with hs
  · simp [quotaStateToReasons]
  · simp [quotaStateToReasons]

private theorem recordAcceptedQuota_reasons (binding : QuotaBinding) (observation : QuotaObservation)
    (state : QuotaCheckState) :
    quotaStateToReasons (recordAcceptedQuota binding observation state).2 = quotaStateToReasons state := by
  unfold recordAcceptedQuota
  split_ifs with hused hs
  · rfl
  · rfl
  · rfl

theorem checkQuotaBinding_reasons {quotas : List QuotaObservation} {binding : QuotaBinding}
    {state : QuotaCheckState} : quotaStateToReasons (checkQuotaBinding contentDigest quotas t binding state).2 = [] ↔
    quotaStateToReasons state = [] ∧
    ∃ o, quotaAt quotas binding.quotaRef = some o ∧ o.scope = binding.scope ∧ o.fresh t = true := by
  unfold checkQuotaBinding
  cases ho : quotaAt quotas binding.quotaRef with
  | none =>
    constructor
    · intro h
      exact absurd h (recordMissingQuota_reasons binding state)
    · rintro ⟨_,o,h,_⟩
      cases h
  | some o =>
    by_cases hscope : o.scope = binding.scope
    · cases hf : o.fresh t with
      | true =>
        simp [hscope,hf,recordAcceptedQuota_reasons]
      | false =>
        simp [hscope,hf,recordStaleQuota_reasons]
    · simp [hscope,quotaStateToReasons]

theorem quotaLoop_reasons {quotas : List QuotaObservation} {bindings : List QuotaBinding}
    {state : QuotaCheckState} : quotaStateToReasons (quotaLoop contentDigest quotas t bindings state).2 = [] ↔
    quotaStateToReasons state = [] ∧ ∀ b ∈ bindings,
      ∃ o, quotaAt quotas b.quotaRef = some o ∧ o.scope = b.scope ∧ o.fresh t = true := by
  induction bindings generalizing state with
  | nil => simp [quotaLoop]
  | cons b rest ih =>
    simp only [quotaLoop]
    rw [ih,checkQuotaBinding_reasons,List.forall_mem_cons,and_assoc]

theorem checkQuotas_reasons {quotas : List QuotaObservation} :
    (checkQuotas contentDigest contract quotas t).1.reasons = [] ↔ ∀ b ∈ contract.quotas,
      ∃ o, quotaAt quotas b.quotaRef = some o ∧ o.scope = b.scope ∧ o.fresh t = true := by
  have hstart : quotaStateToReasons {} = [] := rfl
  simp only [checkQuotas]
  rw [quotaLoop_reasons]
  exact and_iff_right hstart

theorem checkContinuity_reasons {continuity : Option ContinuityObservation} :
    (checkContinuity contentDigest contract t continuity).reasons = [] ↔
    (contract.continuity.mode ≠ .stateless → ∃ c, continuity = some c ∧ c.fresh t = true ∧ c.ready = true) ∧
    (contract.continuity.mode = .stateless → ∀ c, continuity = some c → c.fresh t = true) := by
  cases continuity with
  | none =>
    by_cases hm : contract.continuity.mode = .stateless
    · simp [checkContinuity,hm]
    · simp [checkContinuity,hm]
  | some c =>
    by_cases hm : contract.continuity.mode = .stateless
    · cases hf : c.fresh t with
      | true => simp [checkContinuity,hm,hf]
      | false => simp [checkContinuity,hm,hf]
    · cases hf : c.fresh t with
      | true =>
        cases hr : c.ready with
        | true => simp [checkContinuity,hm,hf,hr]
        | false => simp [checkContinuity,hm,hf,hr]
      | false => simp [checkContinuity,hm,hf]

theorem checkSafety_reasons {safety : Option LoadSafetyObservation} :
    (checkSafety contentDigest contract t safety).reasons = [] ↔ (contract.safetyRequired = true →
      ∃ s, safety = some s ∧ s.fresh t = true ∧ s.overloaded = false ∧ s.noisyNeighbor = false) := by
  cases hr : contract.safetyRequired with
  | false =>
    cases safety with
    | none => simp [checkSafety,hr]
    | some s => simp [checkSafety,hr]
  | true =>
    cases safety with
    | none => simp [checkSafety,hr]
    | some s =>
      cases hf : s.fresh t with
      | true => simp [checkSafety,hr,hf]
      | false => simp [checkSafety,hr,hf]

end

theorem Findings.append_reasons (f g : Findings) : (f ++ g).reasons = f.reasons ++ g.reasons := rfl

theorem findings_reasons {contentDigest : String → Digest} {i : ScaleInputs} {t : Int} :
    (findings contentDigest i i.capacities i.quotas t).reasons = [] ↔ Complete i t := by
  unfold findings
  simp only [Findings.append_reasons,List.append_eq_nil_iff]
  rw [checkSignal_reasons,checkCapacityAxes_reasons,checkQuotas_reasons,checkContinuity_reasons,
    checkSafety_reasons]
  constructor
  · rintro ⟨⟨⟨⟨hs,hc⟩,hq⟩,hm,hl⟩,hsafe⟩
    exact ⟨hs,hc,hq,hm,hl,hsafe⟩
  · intro h
    exact ⟨⟨⟨⟨h.signal,h.capacity⟩,h.quota⟩,h.continuity,h.stateless⟩,h.safety⟩

section
variable {contentDigest : String → Digest} {t : Int} {quotas : List QuotaObservation}

private theorem quotaLoop_exhausted {bindings : List QuotaBinding} {state : QuotaCheckState}
    (h : ∀ b ∈ bindings, ∃ o, quotaAt quotas b.quotaRef = some o ∧ o.scope = b.scope ∧ o.fresh t = true) :
    ((quotaLoop contentDigest quotas t bindings state).2.providerQuotaExhausted = false ∧
      (quotaLoop contentDigest quotas t bindings state).2.localQuotaExhausted = false) ↔
    (state.providerQuotaExhausted = false ∧ state.localQuotaExhausted = false) ∧
      ∀ b ∈ bindings, ∀ o, quotaAt quotas b.quotaRef = some o → o.used < o.limit := by
  induction bindings generalizing state with
  | nil => simp [quotaLoop]
  | cons b rest ih =>
    obtain ⟨o,ho,hscope,hfresh⟩ := h b List.mem_cons_self
    have hrest := fun b' hb' => h b' (List.mem_cons_of_mem _ hb')
    have hstep : checkQuotaBinding contentDigest quotas t b state = recordAcceptedQuota b o state := by
      simp [checkQuotaBinding,ho,hscope,hfresh]
    simp only [quotaLoop]
    rw [ih hrest,hstep,List.forall_mem_cons]
    simp only [recordAcceptedQuota,ho,Option.some.injEq,forall_eq']
    by_cases hused : o.limit ≤ o.used
    · have hnot : ¬ o.used < o.limit := not_lt.mpr hused
      by_cases hs : b.scope = .providerGlobal
      · simp [hused,hs,hnot]
      · simp [hused,hs,hnot]
    · have hlt : o.used < o.limit := not_le.mp hused
      simp [hused,hlt]

variable (contentDigest) in
theorem checkQuotas_exhausted {contract : ScaleUnitContract}
    (h : ∀ b ∈ contract.quotas, ∃ o, quotaAt quotas b.quotaRef = some o ∧ o.scope = b.scope ∧ o.fresh t = true) :
    ((checkQuotas contentDigest contract quotas t).2.providerQuotaExhausted = false ∧
      (checkQuotas contentDigest contract quotas t).2.localQuotaExhausted = false) ↔
    ∀ b ∈ contract.quotas, ∀ o, quotaAt quotas b.quotaRef = some o → o.used < o.limit := by
  have hstart : ({} : QuotaCheckState).providerQuotaExhausted = false ∧
    ({} : QuotaCheckState).localQuotaExhausted = false := ⟨rfl,rfl⟩
  simp only [checkQuotas]
  rw [quotaLoop_exhausted h]
  exact and_iff_right hstart

end

section
variable {capMap : List CapacityObservation} {quotas : List QuotaObservation} {extra : Int}

/-- A demand the observed headroom cannot take `extra` times. -/
def Exhausted (capMap : List CapacityObservation) (extra : Int) (demand : CapacityDemand) : Prop :=
  ∃ o, capacityAt capMap demand.axis = some o ∧ extra * demand.perReplica > o.available

def Blind (capMap : List CapacityObservation) (extra : Int) (demands : List CapacityDemand) : Prop :=
  ∃ seen demand rest, demands = seen ++ demand :: rest ∧ capacityAt capMap demand.axis = none ∧
    ∀ d ∈ seen, ¬ Exhausted capMap extra d

private theorem blind_cons {demand : CapacityDemand} {rest : List CapacityDemand} {o : CapacityObservation}
    (ho : capacityAt capMap demand.axis = some o) (hx : ¬ extra * demand.perReplica > o.available) :
    Blind capMap extra (demand :: rest) ↔ Blind capMap extra rest := by
  constructor
  · rintro ⟨seen,d,tail,heq,hd,hseen⟩
    cases seen with
    | nil =>
      cases heq
      rw [ho] at hd
      cases hd
    | cons first seen =>
      cases heq
      exact ⟨seen,d,tail,rfl,hd,fun d' hd' => hseen d' (List.mem_cons_of_mem _ hd')⟩
  · rintro ⟨seen,d,tail,rfl,hd,hseen⟩
    refine ⟨demand :: seen,d,tail,rfl,hd,List.forall_mem_cons.mpr ⟨?_,hseen⟩⟩
    rintro ⟨o',ho',hx'⟩
    rw [ho] at ho'
    cases ho'
    exact hx hx'

/-- The loop over the demands raises, or says whether one of them is exhausted. -/
theorem capacityExhaustionReasons_cases (demands : List CapacityDemand) : (Blind capMap extra demands ∧
      ∃ axis, capacityExhaustionReasons capMap extra demands = .error ⟨.keyError,"'" ++ axis ++ "'"⟩) ∨
    (¬ Blind capMap extra demands ∧ (∃ d ∈ demands, Exhausted capMap extra d) ∧
      capacityExhaustionReasons capMap extra demands = .ok [.capacityExhausted]) ∨
    ((∀ d ∈ demands, (capacityAt capMap d.axis).isSome = true ∧ ¬ Exhausted capMap extra d) ∧
      capacityExhaustionReasons capMap extra demands = .ok []) := by
  induction demands with
  | nil => exact .inr (.inr ⟨by simp,rfl⟩)
  | cons d rest ih =>
    cases ho : capacityAt capMap d.axis with
    | none =>
      refine .inl ⟨⟨[],d,rest,rfl,ho,by simp⟩,d.axis.name,?_⟩
      simp [capacityExhaustionReasons,capacityIndex,ho,bind,Except.bind]
    | some o =>
      by_cases hx : extra * d.perReplica > o.available
      · refine .inr (.inl ⟨?_,⟨d,List.mem_cons_self,o,ho,hx⟩,?_⟩)
        · rintro ⟨seen,d',tail,heq,hd',hseen⟩
          cases seen with
          | nil =>
            cases heq
            rw [ho] at hd'
            cases hd'
          | cons first seen =>
            cases heq
            exact hseen d List.mem_cons_self ⟨o,ho,hx⟩
        · simp [capacityExhaustionReasons,capacityIndex,ho,bind,Except.bind,hx,pure,Except.pure]
      · have hnext : capacityExhaustionReasons capMap extra (d :: rest) =
            capacityExhaustionReasons capMap extra rest := by
          simp [capacityExhaustionReasons,capacityIndex,ho,bind,Except.bind,hx]
        have hd : ¬ Exhausted capMap extra d := by
          rintro ⟨o',ho',hx'⟩
          rw [ho] at ho'
          cases ho'
          exact hx hx'
        rw [blind_cons ho hx,hnext]
        rcases ih with ⟨hb,hr⟩ | ⟨hb,⟨d',hd',hx'⟩,hr⟩ | ⟨hall,hr⟩
        · exact .inl ⟨hb,hr⟩
        · exact .inr (.inl ⟨hb,⟨d',List.mem_cons_of_mem _ hd',hx'⟩,hr⟩)
        · exact .inr (.inr ⟨List.forall_mem_cons.mpr ⟨⟨by rw [ho]; rfl,hd⟩,hall⟩,hr⟩)

def QuotaRoom (quotas : List QuotaObservation) (extra : Int) (bindings : List QuotaBinding) : Prop :=
  ∀ b ∈ bindings, ∀ o, quotaAt quotas b.quotaRef = some o → (o.used : Int) + extra * b.perReplica ≤ o.limit

theorem quotaGrowthReasons_ok {bindings : List QuotaBinding}
    (h : ∀ b ∈ bindings, (quotaAt quotas b.quotaRef).isSome = true) :
    ∃ reasons, quotaGrowthReasons quotas extra bindings = .ok reasons ∧
      (reasons = [] ↔ QuotaRoom quotas extra bindings) := by
  induction bindings with
  | nil => exact ⟨[],rfl,by simp [QuotaRoom]⟩
  | cons b rest ih =>
    obtain ⟨reasons,hr,hiff⟩ := ih fun b' hb' => h b' (List.mem_cons_of_mem _ hb')
    obtain ⟨o,ho⟩ := Option.isSome_iff_exists.mp (h b List.mem_cons_self)
    refine ⟨_,by simp only [quotaGrowthReasons,quotaIndex,ho,hr,bind,Except.bind]; rfl,?_⟩
    have hroom : QuotaRoom quotas extra (b :: rest) ↔
        (o.used : Int) + extra * b.perReplica ≤ o.limit ∧ QuotaRoom quotas extra rest := by
      simp [QuotaRoom,ho]
    rw [List.append_eq_nil_iff,hiff,hroom]
    by_cases hs : b.scope = .providerGlobal
    · obtain ⟨hm,_⟩ := b.globalQuota hs
      simp [hs,hm]
    · simp [hs]

theorem engineAuthorityReasons_ok {axes : List CapacityAxis}
    (h : ∀ axis ∈ axes, (capacityAt capMap axis).isSome = true) :
    ∃ reasons, engineAuthorityReasons capMap axes = .ok reasons ∧
      (reasons = [] ↔ ∀ axis ∈ axes, ∀ o, capacityAt capMap axis = some o → 0 < o.available) := by
  induction axes with
  | nil => exact ⟨[],rfl,by simp⟩
  | cons axis rest ih =>
    obtain ⟨reasons,hr,hiff⟩ := ih fun a ha => h a (List.mem_cons_of_mem _ ha)
    obtain ⟨o,ho⟩ := Option.isSome_iff_exists.mp (h axis List.mem_cons_self)
    by_cases hx : o.available ≤ 0
    · refine ⟨[.engineAuthoritySaturated],?_,?_⟩
      · simp [engineAuthorityReasons,capacityIndex,ho,bind,Except.bind,hx,pure,Except.pure]
      · simp [ho,hx]
    · refine ⟨reasons,?_,?_⟩
      · simp [engineAuthorityReasons,capacityIndex,ho,bind,Except.bind,hx,hr]
      · rw [hiff,List.forall_mem_cons]
        simp [ho,not_le.mp hx]

end
end Arbora.Scaling
