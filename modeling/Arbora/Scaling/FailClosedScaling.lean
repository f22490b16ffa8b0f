import Arbora.Scaling.ScaleGates
import Mathlib.Tactic.FinCases

/-! Fail-closed scaling: what `evaluate_scale` raises, and what a change of the replica count
rests on. -/
namespace Arbora.Scaling

/-- A `ValueError`, as `ScaleContractError` and pydantic's `ValidationError` are. -/
def ScaleErrorKind.isValueError : ScaleErrorKind → Bool
  | .scaleContractError | .valueError | .validationError => true
  | .overflowError | .keyError => false

/-- What a change of the replica count rests on, all of it fresh at `t`. -/
structure Supported (i : ScaleInputs) (t : Int) (action : ActionKind) : Prop where
  signal : ∃ s, i.signal = some s ∧ s.signal = i.contract.policy.targetSignal ∧ s.fresh t = true
  required : ∀ axis ∈ i.contract.requiredCapacityAxes, ∃ o ∈ i.capacities, o.axis = axis ∧ o.fresh t = true
  demands : ∀ d ∈ i.contract.replicaDemands, ∃ o ∈ i.capacities, o.axis = d.axis ∧ o.fresh t = true
  quotas : ∀ b ∈ i.contract.quotas, ∃ o ∈ i.quotas, o.quotaRef = b.quotaRef ∧ o.scope = b.scope ∧ o.fresh t = true
  continuity : i.contract.continuity.mode ≠ .stateless → ∃ c, i.continuity = some c ∧ c.fresh t = true
  safety : i.contract.safetyRequired = true → ∃ s, i.safety = some s ∧ s.fresh t = true
  cooldown : ∀ last, i.lastActionAt = some last →
    ∃ p, last = .utc p ∧ p + cooldownOf i.contract.policy action * 1000000 ≤ t

/-- `evaluate_scale` raises a `ValueError` exactly for inputs that are not admitted, raises nothing
else, and changes the replica count only with everything in place. -/
def FailClosed (contentDigest : String → Digest) (i : ScaleInputs) : Prop :=
  match evaluateScale contentDigest i with
  | .error x => x.kind.isValueError = true ∧ ¬ ∃ t, Admitted i t
  | .ok d => ∃ t, Admitted i t ∧ (d.action = .scaleUp ∨ d.action = .scaleDown → Supported i t d.action)

def Unseen (i : ScaleInputs) (t : Int) (d : CapacityDemand) : Prop :=
  ∀ o, capacityAt i.capacities d.axis = some o → o.fresh t = false

/-- The inputs `evaluate_scale` goes wrong on. -/
inductive Defect (i : ScaleInputs) : Prop where
  | clock (h : i.now = .outside)
  | lastAction (t : Int) (ha : Admitted i t) (last : DateTime) (hl : i.lastActionAt = some last)
      (hx : ∀ p, utc last "last_action_at" ≠ .ok p)
  | overflow (t : Int) (ha : Admitted i t) (hc : Complete i t)
      (hl : NotLate i t) (s : SignalObservation) (hs : i.signal = some s) (h : i.contract.policy.target * floatBound ≤ s.value)
  | blind (t raw : Int) (h : Asked i t raw .scaleUp) (hup : i.currentReplicas < raw)
      (hzero : i.currentReplicas = 0 → i.contract.policy.allowScaleFromZero = true)
      (hb : Blind i.capacities (growth i raw) i.contract.replicaDemands)
  | staleGrowth (t raw : Int) (h : Asked i t raw .scaleUp) (hup : i.currentReplicas < raw)
      (hzero : i.currentReplicas = 0 → i.contract.policy.allowScaleFromZero = true)
      (hroom : Room i (growth i raw)) (d : CapacityDemand) (hd : d ∈ i.contract.replicaDemands) (hu : Unseen i t d)
  | staleShrink (t raw : Int) (h : Asked i t raw .scaleDown) (hdown : raw < i.currentReplicas)
      (hdrain : sessionsBlockDrain i.contract i.continuity = false)
      (htime : i.contract.continuity.drainRequired = true →
        i.contract.policy.drainSeconds ≤ i.contract.continuity.maxDrainSeconds)
      (d : CapacityDemand) (hd : d ∈ i.contract.replicaDemands) (hu : Unseen i t d)

section
variable {contentDigest : String → Digest} {i : ScaleInputs} {t : Int}

variable (contentDigest) in
theorem evaluateScale_refused (h : ¬ ∃ t, Admitted i t) :
    ∃ x, evaluateScale contentDigest i = .error x ∧ (x.kind.isValueError = true ↔ i.now ≠ .outside) := by
  unfold evaluateScale
  cases hu : utc i.now "now" with
  | error x =>
    refine ⟨x,rfl,?_⟩
    rcases utc_error hu with ⟨hn,hk⟩ | ⟨hn,hk⟩
    · simp [hn,hk,ScaleErrorKind.isValueError]
    · simp [hn,hk,ScaleErrorKind.isValueError]
  | ok t =>
    have hn : i.now ≠ .outside := by
      rw [(utc_ok_iff.mp hu).1]
      nofun
    have hcontract : ScaleErrorKind.isValueError .scaleContractError = true ↔ i.now ≠ .outside := by
      simp [hn,ScaleErrorKind.isValueError]
    by_cases hr : i.currentReplicas < 0 ∨ i.currentReplicas > maxReplicas
    · simp only [bind,Except.bind,if_pos hr]
      exact ⟨_,rfl,hcontract⟩
    by_cases hf : i.currentReplicas < i.contract.policy.minReplicas
    · simp only [bind,Except.bind,if_neg hr,if_pos hf]
      exact ⟨_,rfl,hcontract⟩
    simp only [bind,Except.bind,if_neg hr,if_neg hf]
    rw [capacityMap,observationLoop_eq]
    split_ifs with hc
    · rw [quotaMap,observationLoop_eq]
      split_ifs with hq
      · exact absurd ⟨t,hu,by omega,by omega,hc,hq⟩ h
      · exact ⟨_,rfl,hcontract⟩
    · exact ⟨_,rfl,hcontract⟩

variable (contentDigest) in
theorem gates_cases (ha : Admitted i t) (hc : Complete i t) (hl : NotLate i t) :
    (∃ x, gates contentDigest i t = .error x ∧ Defect i) ∨
    (∃ d, gates contentDigest i t = .ok d ∧ (d.action = .hold ∨ d.action = .blocked)) ∨
    (∃ d raw, gates contentDigest i t = .ok d ∧ d.action = .scaleUp ∧ Asked i t raw .scaleUp ∧
      i.currentReplicas < raw ∧ (i.currentReplicas = 0 → i.contract.policy.allowScaleFromZero = true) ∧
      Room i (growth i raw)) ∨
    (∃ d raw, gates contentDigest i t = .ok d ∧ d.action = .scaleDown ∧ Asked i t raw .scaleDown ∧
      raw < i.currentReplicas ∧ sessionsBlockDrain i.contract i.continuity = false ∧
      (i.contract.continuity.drainRequired = true →
        i.contract.policy.drainSeconds ≤ i.contract.continuity.maxDrainSeconds)) := by
  obtain ⟨s,hs,_⟩ := hc.signal
  cases hraw : targetReplicas i.contract.policy s.value with
  | error x =>
    refine .inl ⟨x,?_,.overflow t ha hc hl s hs ?_⟩
    · unfold gates computeScaleDecision
      rw [hs]
      simp only [context,hraw,bind,Except.bind]
    · by_contra hlt
      obtain ⟨raw,hok⟩ := (targetReplicas_ok_iff _ _).mpr (not_le.mp hlt)
      rw [hok] at hraw
      cases hraw
  | ok raw =>
    rcases lt_trichotomy i.currentReplicas raw with hup | heq | hdown
    · rcases gates_cases_up contentDigest ha hc hl hs hraw hup with
        ⟨x,hx,hasked,hzero,hb⟩ | hheld | ⟨d,hd,hact,hasked,hzero,hroom⟩
      · exact .inl ⟨x,hx,.blind t raw hasked hup hzero hb⟩
      · exact .inr (.inl hheld)
      · exact .inr (.inr (.inl ⟨d,raw,hd,hact,hasked,hup,hzero,hroom⟩))
    · obtain ⟨d,hd,hact⟩ := terminalDecision_ok contentDigest ha .hold (.inl rfl) [.atTarget] false
      refine .inr (.inl ⟨d,?_,.inl hact⟩)
      unfold gates computeScaleDecision
      rw [hs]
      simp only [context] at hd ⊢
      simp only [hraw,bind,Except.bind,resolveScaleTarget,gt_iff_lt,← heq,lt_self_iff_false,if_false,hd]
    · rcases gates_cases_down contentDigest ha hc hl hs hraw hdown with
        hheld | ⟨d,hd,hact,hasked,hdrain,htime⟩
      · exact .inr (.inl hheld)
      · exact .inr (.inr (.inr ⟨d,raw,hd,hact,hasked,hdown,hdrain,htime⟩))

theorem Admitted.unique {t' : Int} (h : Admitted i t) (h' : Admitted i t') : t' = t := by
  have := h'.now.symm.trans h.now
  cases this
  rfl

private theorem capacityAt_mem {axis : CapacityAxis} {o : CapacityObservation}
    (h : capacityAt i.capacities axis = some o) : o ∈ i.capacities ∧ o.axis = axis := by
  have haxis := List.find?_some h
  exact ⟨List.mem_of_find?_eq_some h,by simpa using haxis⟩

private theorem capacityAt_of_mem (ha : Admitted i t) {o : CapacityObservation} (ho : o ∈ i.capacities) :
    capacityAt i.capacities o.axis = some o := by
  obtain ⟨o',ho'⟩ : ∃ o', capacityAt i.capacities o.axis = some o' := by
    rw [← Option.isSome_iff_exists,capacityAt,List.find?_isSome]
    exact ⟨o,ho,by simp⟩
  obtain ⟨hmem,haxis⟩ := capacityAt_mem ho'
  rw [ho',List.inj_on_of_nodup_map ha.capacities hmem ho haxis]

private theorem unseen_not_supported (ha : Admitted i t) {action : ActionKind} {d : CapacityDemand}
    (hd : d ∈ i.contract.replicaDemands) (hu : Unseen i t d) : ¬ Supported i t action := by
  intro h
  obtain ⟨o,ho,haxis,hfresh⟩ := h.demands d hd
  have hat := capacityAt_of_mem ha ho
  rw [haxis] at hat
  rw [hu o hat] at hfresh
  cases hfresh

private theorem Asked.supported {raw : Int} {action : ActionKind} (h : Asked i t raw action)
    (hseen : ∀ d ∈ i.contract.replicaDemands, ¬ Unseen i t d) : Supported i t action := by
  refine ⟨h.complete.signal,?_,?_,?_,?_,?_,?_⟩
  · intro axis hx
    obtain ⟨o,ho,hfresh⟩ := h.complete.capacity axis hx
    obtain ⟨hmem,haxis⟩ := capacityAt_mem ho
    exact ⟨o,hmem,haxis,hfresh⟩
  · intro d hd
    have hd' := hseen d hd
    simp only [Unseen,not_forall,Bool.not_eq_false] at hd'
    obtain ⟨o,ho,hfresh⟩ := hd'
    obtain ⟨hmem,haxis⟩ := capacityAt_mem ho
    exact ⟨o,hmem,haxis,hfresh⟩
  · intro b hb
    obtain ⟨o,ho,hscope,hfresh⟩ := h.complete.quota b hb
    have href := List.find?_some ho
    exact ⟨o,List.mem_of_find?_eq_some ho,by simpa using href,hscope,hfresh⟩
  · intro hm
    obtain ⟨c,hc,hfresh,_⟩ := h.complete.continuity hm
    exact ⟨c,hc,hfresh⟩
  · intro hr
    obtain ⟨s,hs,hfresh,_⟩ := h.complete.safety hr
    exact ⟨s,hs,hfresh⟩
  · intro last hl
    obtain ⟨p,hp,hle⟩ := h.cooled last hl
    exact ⟨p,(utc_ok_iff.mp hp).1,hle⟩

theorem Room.not_blind {extra : Int} (h : Room i extra) : ¬ Blind i.capacities extra i.contract.replicaDemands := by
  rintro ⟨seen,d,rest,heq,hd,_⟩
  have hsome := (h.demands d (by rw [heq]; simp)).1
  rw [hd] at hsome
  cases hsome

private theorem not_failClosed_of_error (ha : Admitted i t) {x : ScaleError}
    (h : evaluateScale contentDigest i = .error x) : ¬ FailClosed contentDigest i := by
  unfold FailClosed
  rw [h]
  exact fun hf => hf.2 ⟨t,ha⟩

private theorem not_failClosed_of_unseen (ha : Admitted i t) {d : ScaleDecision}
    (h : evaluateScale contentDigest i = .ok d) (hact : d.action = .scaleUp ∨ d.action = .scaleDown)
    {demand : CapacityDemand} (hd : demand ∈ i.contract.replicaDemands) (hu : Unseen i t demand) :
    ¬ FailClosed contentDigest i := by
  unfold FailClosed
  rw [h]
  rintro ⟨t',ha',hsupp⟩
  obtain rfl := ha.unique ha'
  exact unseen_not_supported ha hd hu (hsupp hact)

theorem Defect.not_failClosed (h : Defect i) : ¬ FailClosed contentDigest i := by
  cases h with
  | clock hnow =>
    have hnone : ¬ ∃ t, Admitted i t := by
      rintro ⟨t,ha⟩
      have := ha.now
      rw [hnow] at this
      cases this
    obtain ⟨x,hx,hkind⟩ := evaluateScale_refused contentDigest hnone
    unfold FailClosed
    rw [hx]
    exact fun hf => hkind.mp hf.1 hnow
  | lastAction t ha last hl hx =>
    cases hu : utc last "last_action_at" with
    | ok p => exact absurd hu (hx p)
    | error x =>
      refine not_failClosed_of_error ha (x := x) ?_
      rw [evaluateScale_eq ha]
      simp [lateReasons,hl,hu,bind,Except.bind]
  | overflow t ha hc hl s hs hbig =>
    cases hraw : targetReplicas i.contract.policy s.value with
    | ok raw =>
      have := (targetReplicas_ok_iff _ _).mp ⟨raw,hraw⟩
      omega
    | error x =>
      refine not_failClosed_of_error ha (x := x) ?_
      rw [evaluateScale_complete _ ha hc hl]
      unfold computeScaleDecision
      rw [hs]
      simp only [context,hraw,bind,Except.bind]
  | blind t raw hasked hup hzero hb =>
    have hl := hasked.notLate
    obtain ⟨ha,hc,⟨s,hs,hraw⟩,hcool⟩ := hasked
    have hgate := gates_up hs hraw hup hzero (checkCooldown_cooled contentDigest ha hcool)
    rcases finalize_up contentDigest ha hc hraw hup with
      ⟨_,x,hx,_⟩ | ⟨hroom,_⟩ | ⟨hno,_⟩
    · refine not_failClosed_of_error ha (x := x) ?_
      rw [evaluateScale_complete _ ha hc hl,← hx]
      exact hgate
    · exact absurd hb hroom.not_blind
    · exact absurd hb hno
  | staleGrowth t raw hasked hup hzero hroom d hd hu =>
    have hl := hasked.notLate
    obtain ⟨ha,hc,⟨s,hs,hraw⟩,hcool⟩ := hasked
    have hgate := gates_up hs hraw hup hzero (checkCooldown_cooled contentDigest ha hcool)
    rcases finalize_up contentDigest ha hc hraw hup with
      ⟨hb,_⟩ | ⟨_,e,he,hact⟩ | ⟨_,hno,_⟩
    · exact absurd hb hroom.not_blind
    · refine not_failClosed_of_unseen ha ?_ (.inl hact) hd hu
      rw [evaluateScale_complete _ ha hc hl,← he]
      exact hgate
    · exact absurd hroom hno
  | staleShrink t raw hasked hdown hdrain htime d hd hu =>
    have hl := hasked.notLate
    obtain ⟨ha,hc,⟨s,hs,hraw⟩,hcool⟩ := hasked
    have hgate := gates_down hs hraw hdown hdrain (checkCooldown_cooled contentDigest ha hcool)
    rcases finalize_down contentDigest ha hraw hdown with ⟨_,e,he,hact⟩ | ⟨hreq,hlong,_⟩
    · refine not_failClosed_of_unseen ha ?_ (.inr hact) hd hu
      rw [evaluateScale_complete _ ha hc hl,← he]
      exact hgate
    · exact absurd (htime hreq) (not_le.mpr hlong)

/-- `evaluate_scale` fails closed exactly on the inputs that do not reach a defect. -/
theorem fail_closed_iff_no_defect (contentDigest : String → Digest) (i : ScaleInputs) :
    FailClosed contentDigest i ↔ ¬ Defect i := by
  constructor
  · intro hf hd
    exact hd.not_failClosed hf
  · intro hno
    by_cases hadm : ∃ t, Admitted i t
    · obtain ⟨t,ha⟩ := hadm
      have hlast : ∀ last, i.lastActionAt = some last → ∃ p, utc last "last_action_at" = .ok p := by
        intro last hl
        by_contra hx
        rw [not_exists] at hx
        exact hno (.lastAction t ha last hl hx)
      unfold FailClosed
      by_cases hready : Complete i t ∧ NotLate i t
      · obtain ⟨hc,hl⟩ := hready
        have heq := evaluateScale_complete contentDigest ha hc hl
        rcases gates_cases contentDigest ha hc hl with
          ⟨x,hx,hd⟩ | ⟨d,hd,hact⟩ | ⟨d,raw,hd,hact,hasked,hup,hzero,hroom⟩ |
          ⟨d,raw,hd,hact,hasked,hdown,hdrain,htime⟩
        · exact absurd hd hno
        · rw [heq.trans hd]
          refine ⟨t,ha,?_⟩
          rcases hact with hact | hact
          · simp [hact]
          · simp [hact]
        · rw [heq.trans hd]
          refine ⟨t,ha,fun _ => hact ▸ hasked.supported ?_⟩
          intro demand hdemand hu
          exact hno (.staleGrowth t raw hasked hup hzero hroom demand hdemand hu)
        · rw [heq.trans hd]
          refine ⟨t,ha,fun _ => hact ▸ hasked.supported ?_⟩
          intro demand hdemand hu
          exact hno (.staleShrink t raw hasked hdown hdrain htime demand hdemand hu)
      · obtain ⟨d,hd,hact⟩ := evaluateScale_incomplete contentDigest ha hready hlast
        rw [hd]
        exact ⟨t,ha,by simp [hact]⟩
    · obtain ⟨x,hx,hkind⟩ := evaluateScale_refused contentDigest hadm
      unfold FailClosed
      rw [hx]
      refine ⟨hkind.mpr ?_,hadm⟩
      intro hnow
      exact hno (.clock hnow)

end

namespace Sample

def digest : Digest := ⟨"sha256:0000000000000000000000000000000000000000000000000000000000000000",by decide⟩

def sighting : Sighting where
  observedAt := supportedFrom
  expiresAt := supportedFrom + 60000000
  sourceRef := ⟨"probe:1",by decide⟩
  sourceDigest := digest
  observedSupported := by decide
  expiresSupported := by decide
  window := by decide

def gateway : ScaleUnitContract where
  unitRef := ⟨"unit:api",by decide⟩
  surface := .apiGateway
  policy :=
    { maxReplicas := 2, target := 10, targetSignal := .requestRate
      replicas := by decide, targetBounds := by decide, steps := by decide, seconds := by decide
      zeroFloor := by decide }
  allowedSignals := [.requestRate]
  requiredCapacityAxes := [.cpuMilli,.memoryMib,.sessionSlots]
  replicaDemands := [⟨.cpuMilli,1,by decide⟩,⟨.memoryMib,1,by decide⟩,⟨.sessionSlots,1,by decide⟩,
    ⟨.gpuCount,1,by decide⟩]
  partitionLease := ⟨false,0,false,0,false,by decide,by decide,by decide,by decide⟩
  continuity :=
    { mode := .stateless, blockScaleDownWithActive := false, bounded := by decide, store := by decide
      statelessNeverBlocks := by decide }
  safetyRequired := false
  contractId := ⟨"scale-unit:00000000000000000000000000000000",by decide⟩
  versionBounds := by decide
  lengths := by decide
  signalsUnique := by decide
  signalVocabulary := by decide
  targetAllowed := by decide
  axesUnique := by decide
  axesCover := by decide
  engineRequired := by decide
  engineUnique := by decide
  engineDeclared := fun _ => Iff.rfl
  continuityMode := by decide
  leased := by decide
  demandsUnique := by decide
  demandsCover := by decide
  quotasUnique := by decide
  providerQuota := by decide

def free (axis : CapacityAxis) : CapacityObservation := ⟨sighting,axis,10,0,0,by decide⟩

def load : ScaleInputs where
  contract := gateway
  currentReplicas := 1
  signal := some ⟨sighting,.requestRate,20,by decide⟩
  capacities := [free .cpuMilli,free .memoryMib,free .sessionSlots]
  quotas := []
  continuity := none
  safety := none
  now := .utc supportedFrom

end Sample

open Sample in
private theorem load_target : targetReplicas gateway.policy 20 = .ok 2 :=
  targetReplicas_saturated (by decide) (by decide +kernel)

open Sample in
private theorem load_asked : Asked load supportedFrom 2 .scaleUp := by
  refine ⟨⟨rfl,by decide,by decide,by decide,by decide⟩,⟨?_,?_,?_,?_,?_,?_⟩,⟨_,rfl,load_target⟩,?_⟩
  · exact ⟨_,rfl,rfl,rfl⟩
  · intro axis hx
    fin_cases hx
    · exact ⟨free .cpuMilli,rfl,rfl⟩
    · exact ⟨free .memoryMib,rfl,rfl⟩
    · exact ⟨free .sessionSlots,rfl,rfl⟩
  · intro b hb
    cases hb
  · intro hm
    exact absurd rfl hm
  · intro _ c hc
    cases hc
  · intro hr
    cases hr
  · intro last hl
    cases hl

open Sample in
/-- The demand on an unobserved axis raises a `KeyError`. -/
theorem unobserved_demand_raises : ¬ FailClosed (fun _ => digest) load := by
  refine Defect.not_failClosed (.blind supportedFrom 2 load_asked (by decide) (by decide) ?_)
  refine ⟨gateway.replicaDemands.take 3,⟨.gpuCount,1,by decide⟩,[],rfl,rfl,?_⟩
  intro d hd
  fin_cases hd
  · rintro ⟨o,ho,hx⟩
    cases ho
    exact absurd hx (by decide)
  · rintro ⟨o,ho,hx⟩
    cases ho
    exact absurd hx (by decide)
  · rintro ⟨o,ho,hx⟩
    cases ho
    exact absurd hx (by decide)

end Arbora.Scaling
