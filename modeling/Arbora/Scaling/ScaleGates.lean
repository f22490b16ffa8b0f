import Arbora.Scaling.ScaleEvidence

/-! The gates between complete evidence and a change of the replica count. -/
namespace Arbora.Scaling

def floatBound : Nat := 2 ^ 1024 - 2 ^ 970

private theorem ratio_lt {n d : Nat} (hd : 0 < d) : (n : ℚ) / d < floatBound ↔ n < d * floatBound := by
  rw [div_lt_iff₀ (by exact_mod_cast hd),mul_comm]
  exact_mod_cast Iff.rfl

private theorem cast_two_pow_sub {m k : Nat} (h : k ≤ m) :
    ((2 ^ m - 2 ^ k : Nat) : ℚ) = 2 ^ (m : ℤ) - 2 ^ (k : ℤ) := by
  rw [Nat.cast_sub (Nat.pow_le_pow_right two_pos h),Nat.cast_pow,Nat.cast_pow,zpow_natCast,zpow_natCast]
  rfl

private theorem floatBound_eq : ((2 : ℚ) ^ FloatingPoint.binary64.maxExponent -
    2 ^ (FloatingPoint.binary64.maxExponent - FloatingPoint.binary64.precision - 1)) = floatBound := by
  have hmax : FloatingPoint.binary64.maxExponent = ((1024 : Nat) : ℤ) := rfl
  have hulp : FloatingPoint.binary64.maxExponent - FloatingPoint.binary64.precision - 1 = ((970 : Nat) : ℤ) := rfl
  rw [hulp,hmax,← cast_two_pow_sub (by decide),floatBound]

theorem targetReplicas_ok_iff (policy : ScalePolicy) (value : Nat) :
    (∃ raw, targetReplicas policy value = .ok raw) ↔ value < policy.target * floatBound := by
  have hround := FloatingPoint.binary64.round_eq_none_iff (q := (value : ℚ) / policy.target) (by positivity)
  rw [floatBound_eq,← not_lt,ratio_lt policy.targetBounds.1] at hround
  unfold targetReplicas
  cases hr : FloatingPoint.binary64.round ((value : ℚ) / policy.target) with
  | none =>
    refine iff_of_false ?_ (hround.mp hr)
    rintro ⟨raw,h⟩
    cases h
  | some ratio =>
    refine iff_of_true ⟨_,rfl⟩ ?_
    by_contra h
    rw [hround.mpr h] at hr
    cases hr

theorem targetReplicas_bounds {policy : ScalePolicy} {value : Nat} {raw : Int}
    (h : targetReplicas policy value = .ok raw) :
    0 ≤ raw ∧ raw ≤ policy.maxReplicas ∧ (policy.allowScaleToZero = false → 1 ≤ raw) := by
  have hp := policy.replicas
  unfold targetReplicas at h
  split at h
  · cases h
  · cases h
    refine ⟨?_,?_,?_⟩
    · split_ifs <;> omega
    · split_ifs <;> omega
    · intro hz
      have hmin : policy.minReplicas = 0 → 1 ≤ if policy.minReplicas = 0 ∧ !policy.allowScaleToZero then 1
          else policy.minReplicas := by
        intro h0
        simp [h0,hz]
      split_ifs at hmin ⊢ <;> omega

theorem targetReplicas_floor {policy : ScalePolicy} {value : Nat} {raw : Int}
    (h : targetReplicas policy value = .ok raw) : policy.minReplicas ≤ raw := by
  unfold targetReplicas at h
  split at h
  · cases h
  · cases h
    split_ifs <;> omega

/-- A load that is too much for `max_replicas` asks for all of them. -/
theorem targetReplicas_saturated {policy : ScalePolicy} {value : Nat} (hload : policy.maxReplicas * policy.target ≤ value)
    (hfinite : value < policy.target * floatBound) : targetReplicas policy value = .ok policy.maxReplicas := by
  have hp := policy.replicas
  have htarget := policy.targetBounds.1
  obtain ⟨n,hn⟩ := Int.eq_ofNat_of_zero_le (hp.1.trans hp.2.1)
  have hpos : value ≠ 0 := by
    rintro rfl
    rw [hn] at hload
    have : 0 < n * policy.target := Nat.mul_pos (by omega) htarget
    omega
  have hratio : (n : ℚ) ≤ (value : ℚ) / policy.target := by
    rw [le_div_iff₀ (by exact_mod_cast htarget)]
    rw [hn] at hload
    exact_mod_cast hload
  obtain ⟨raw,hraw⟩ := (targetReplicas_ok_iff policy value).mpr hfinite
  unfold targetReplicas at hraw ⊢
  cases hr : FloatingPoint.binary64.round ((value : ℚ) / policy.target) with
  | none => simp [hr] at hraw
  | some ratio =>
    have hnear : FloatingPoint.binary64.nearest ((value : ℚ) / policy.target) = ratio := by
      simp only [FloatingPoint.Format.round] at hr
      split at hr <;> simp_all
    have hge : (n : ℚ) ≤ ratio := by
      rw [← hnear]
      exact FloatingPoint.binary64.natCast_le_nearest (by decide) (by simp [FloatingPoint.binary64]; omega) hratio
    have hceil : policy.maxReplicas ≤ ⌈ratio⌉ := by
      rw [hn]
      have := hge.trans (Int.le_ceil _)
      exact_mod_cast this
    simp only [hpos,false_and,if_false]
    congr 1
    split_ifs <;> omega

theorem coolingDown_iff {current previous : Int} {cooldown : Nat} (hle : previous ≤ current)
    (hp : supportedFrom ≤ previous) (hc : current < supportedUntil) (hcool : cooldown ≤ 86400) :
    coolingDown current previous cooldown = true ↔ current - previous < cooldown * 1000000 := by
  simp only [supportedFrom] at hp
  simp only [supportedUntil] at hc
  obtain ⟨span,hspan⟩ := Int.eq_ofNat_of_zero_le (Int.sub_nonneg.mpr hle)
  have hbound : span < 2 ^ 34 * 1000000 := by omega
  have hq0 : (0 : ℚ) ≤ span / 1000000 := by positivity
  have hq : (span : ℚ) / 1000000 < 2 ^ (34 : ℤ) := by
    rw [div_lt_iff₀ (by norm_num)]
    exact_mod_cast hbound
  have hround := FloatingPoint.binary64.round_of_lt (by decide) (by decide) hq0 hq
  unfold coolingDown
  rw [hspan,Int.cast_natCast,hround]
  simp only [decide_eq_true_eq]
  constructor
  · intro h
    by_contra hge
    have hle' : cooldown * 1000000 ≤ span := by omega
    have hsec : (cooldown : ℚ) ≤ span / 1000000 := by
      rw [le_div_iff₀ (by norm_num)]
      exact_mod_cast hle'
    have hfit : cooldown < 2 ^ FloatingPoint.binary64.precision := hcool.trans_lt (by decide)
    have := FloatingPoint.binary64.natCast_le_nearest (by decide) hfit hsec
    linarith
  · intro h
    have hlt : span + 1 ≤ cooldown * 1000000 := by omega
    rcases hq0.eq_or_lt with hz | hpos
    · rw [← hz,FloatingPoint.Format.nearest_zero]
      have : 0 < cooldown := by omega
      exact_mod_cast this
    · -- the error is far below the microsecond that is left
      have hsec : (span : ℚ) / 1000000 + 1/1000000 ≤ cooldown := by
        rw [← add_div,div_le_iff₀ (by norm_num)]
        exact_mod_cast hlt
      have hcool' : (cooldown : ℚ) ≤ 86400 := by exact_mod_cast hcool
      have hq17 : (span : ℚ) / 1000000 < 2 ^ (17 : ℤ) := by
        linarith
      have herr := FloatingPoint.binary64.abs_nearest_sub_le_of_lt (by decide) hpos hq17
      have hunit : (2 : ℚ) ^ ((17 : ℤ) - FloatingPoint.binary64.precision) / 2 < 1/1000000 := by
        norm_num [FloatingPoint.binary64]
      have := le_of_abs_le herr
      linarith

/-- `now` is an instant in range, `current_replicas` is in bounds and nothing is observed twice. -/
structure Admitted (i : ScaleInputs) (t : Int) : Prop where
  now : utc i.now "now" = .ok t
  replicas : 0 ≤ i.currentReplicas ∧ i.currentReplicas ≤ maxReplicas
  floor : i.contract.policy.minReplicas ≤ i.currentReplicas
  capacities : (i.capacities.map (·.axis)).Nodup
  quotas : (i.quotas.map (·.quotaRef)).Nodup

def NotLate (i : ScaleInputs) (t : Int) : Prop :=
  ∀ last, i.lastActionAt = some last → ∃ p, utc last "last_action_at" = .ok p ∧ p ≤ t

def Cooled (i : ScaleInputs) (t : Int) (action : ActionKind) : Prop :=
  ∀ last, i.lastActionAt = some last →
    ∃ p, utc last "last_action_at" = .ok p ∧ p + cooldownOf i.contract.policy action * 1000000 ≤ t

def growth (i : ScaleInputs) (raw : Int) : Int :=
  min (i.currentReplicas + i.contract.policy.scaleUpStep) raw - i.currentReplicas

/-- The evidence is complete, the cooldown of the action is over, and the signal asks for `raw` replicas. -/
structure Asked (i : ScaleInputs) (t : Int) (raw : Int) (action : ActionKind) : Prop where
  admitted : Admitted i t
  complete : Complete i t
  signal : ∃ s, i.signal = some s ∧ targetReplicas i.contract.policy s.value = .ok raw
  cooled : Cooled i t action

structure Room (i : ScaleInputs) (extra : Int) : Prop where
  demands : ∀ d ∈ i.contract.replicaDemands,
    (capacityAt i.capacities d.axis).isSome = true ∧ ¬ Exhausted i.capacities extra d
  unused : ∀ b ∈ i.contract.quotas, ∀ o, quotaAt i.quotas b.quotaRef = some o → o.used < o.limit
  quotas : QuotaRoom i.quotas extra i.contract.quotas
  engine : ∀ axis ∈ i.contract.engineAuthorityAxes, ∀ o, capacityAt i.capacities axis = some o → 0 < o.available

section
variable {contract : ScaleUnitContract} {current desired t : Int} {action : ActionKind}
  {reasons : List DecisionReason} {evidence : List DecisionEvidence} {drain : Bool}

/-- What the validators of `ScaleDecision` ask of an action's replica counts. -/
def Transition (current desired : Int) : ActionKind → Prop
  | .scaleUp => current < desired
  | .scaleDown => desired < current
  | .hold => desired = current
  | .blocked => True

theorem decision_ok (ht : supportedFrom ≤ t ∧ t < supportedUntil) (hc : 0 ≤ current ∧ current ≤ maxReplicas)
    (hd : 0 ≤ desired ∧ desired ≤ maxReplicas) (htr : Transition current desired action)
    (hr : action = .scaleUp ∨ action = .scaleDown → reasons = [.targetTracking]) :
    ∃ d, decision contract current desired action reasons evidence drain t = .ok d ∧ d.action = action := by
  have hutc : utc (.utc t) "evaluated_at" = .ok t := utc_ok_iff.mpr ⟨rfl,ht⟩
  have hbounds : ¬ (current < 0 ∨ maxReplicas < current ∨ desired < 0 ∨ maxReplicas < desired) := by omega
  unfold decision
  rw [hutc]
  cases action with
  | scaleUp =>
    have hup : ¬ desired ≤ current := not_le.mpr htr
    rw [hr (.inl rfl)]
    exact ⟨_,by simp [validateDecision,hbounds,hup,bind,Except.bind,pure,Except.pure,maxReasons]; rfl,rfl⟩
  | scaleDown =>
    have hdown : ¬ desired ≥ current := not_le.mpr htr
    rw [hr (.inr rfl)]
    exact ⟨_,by simp [validateDecision,hbounds,hdown,bind,Except.bind,pure,Except.pure,maxReasons]; rfl,rfl⟩
  | hold =>
    obtain rfl : desired = current := htr
    exact ⟨_,by simp [validateDecision,hbounds,bind,Except.bind,pure,Except.pure]; rfl,rfl⟩
  | blocked =>
    by_cases hn : reasons.eraseDups.take maxReasons = []
    · exact ⟨_,by simp [validateDecision,hbounds,hn,bind,Except.bind,pure,Except.pure]; rfl,rfl⟩
    · exact ⟨_,by simp [validateDecision,hbounds,hn,bind,Except.bind,pure,Except.pure]; rfl,rfl⟩

theorem decision_fields {d : ScaleDecision}
    (h : decision contract current desired action reasons evidence drain t = .ok d) :
    d.currentReplicas = current ∧ d.desiredReplicas = desired ∧ d.action = action ∧
      (action ≠ .blocked → d.reasons = reasons.eraseDups.take maxReasons) := by
  unfold decision at h
  dsimp only [bind,Except.bind,pure,Except.pure] at h
  split at h
  · cases h
  · split at h
    · cases h
    · cases h
      refine ⟨rfl,rfl,rfl,?_⟩
      intro hb
      simp [hb]

end

section
variable {contentDigest : String → Digest} {i : ScaleInputs} {t : Int}

theorem Admitted.time (ha : Admitted i t) : supportedFrom ≤ t ∧ t < supportedUntil := (utc_ok_iff.mp ha.now).2

/-- The context the later gates decide in. -/
def context (contentDigest : String → Digest) (i : ScaleInputs) (t : Int) : DecisionContext :=
  ⟨i.contract,i.currentReplicas,t,(findings contentDigest i i.capacities i.quotas t).evidence⟩

variable (contentDigest) in
theorem terminalDecision_ok (ha : Admitted i t) (action : ActionKind) (hact : action = .hold ∨ action = .blocked)
    (reasons : List DecisionReason) (drain : Bool) :
    ∃ d, terminalDecision (context contentDigest i t) action reasons drain = .ok d ∧ d.action = action := by
  refine decision_ok ha.time ha.replicas ha.replicas ?_ ?_
  · rcases hact with rfl | rfl
    · rfl
    · trivial
  · rcases hact with rfl | rfl
    · rintro (h | h) <;> cases h
    · rintro (h | h) <;> cases h

/-- What `evaluate_scale` does once its arguments are admitted. -/
def conclude (contentDigest : String → Digest) (i : ScaleInputs) (t : Int) (late : List DecisionReason) :
    Except ScaleError ScaleDecision :=
  let reasons := (findings contentDigest i i.capacities i.quotas t).reasons ++ late
  if reasons ≠ [] then terminalDecision (context contentDigest i t) .blocked reasons
  else
    computeScaleDecision (context contentDigest i t) i.signal i.capacities i.quotas i.continuity i.lastActionAt
      (checkQuotas contentDigest i.contract i.quotas t).2

theorem evaluateScale_eq (ha : Admitted i t) :
    evaluateScale contentDigest i = lateReasons i.lastActionAt t >>= conclude contentDigest i t := by
  have hr : ¬ (i.currentReplicas < 0 ∨ i.currentReplicas > maxReplicas) := by
    have := ha.replicas
    omega
  have hf : ¬ i.currentReplicas < i.contract.policy.minReplicas := not_lt.mpr ha.floor
  have hcap : capacityMap i.capacities = .ok i.capacities := by
    rw [capacityMap,observationLoop_eq,if_pos ha.capacities]
  have hquota : quotaMap i.quotas = .ok i.quotas := by
    rw [quotaMap,observationLoop_eq,if_pos ha.quotas]
  unfold evaluateScale
  simp only [ha.now,hr,hf,hcap,hquota,bind,Except.bind,if_false]
  rfl

theorem Asked.notLate {raw : Int} {action : ActionKind} (h : Asked i t raw action) : NotLate i t := by
  intro last hl
  obtain ⟨p,hp,hle⟩ := h.cooled last hl
  exact ⟨p,hp,by omega⟩

variable (contentDigest) in
theorem evaluateScale_complete (ha : Admitted i t) (hc : Complete i t) (hl : NotLate i t) :
    evaluateScale contentDigest i =
      computeScaleDecision (context contentDigest i t) i.signal i.capacities i.quotas i.continuity i.lastActionAt
        (checkQuotas contentDigest i.contract i.quotas t).2 := by
  have hlate : lateReasons i.lastActionAt t = .ok [] := by
    unfold lateReasons
    cases hlast : i.lastActionAt with
    | none => rfl
    | some last =>
      obtain ⟨p,hp,hle⟩ := hl last hlast
      simp [hp,bind,Except.bind,pure,Except.pure,not_lt.mpr hle]
  have hreasons : (findings contentDigest i i.capacities i.quotas t).reasons ++ [] = [] := by
    rw [List.append_nil,findings_reasons]
    exact hc
  rw [evaluateScale_eq ha,hlate]
  simp only [bind,Except.bind,conclude,hreasons,ne_eq,not_true_eq_false,if_false]

variable (contentDigest) in
theorem evaluateScale_incomplete (ha : Admitted i t) (h : ¬ (Complete i t ∧ NotLate i t))
    (hp : ∀ last, i.lastActionAt = some last → ∃ p, utc last "last_action_at" = .ok p) :
    ∃ d, evaluateScale contentDigest i = .ok d ∧ d.action = .blocked := by
  have hlate : ∃ late, lateReasons i.lastActionAt t = .ok late ∧ (late = [] → NotLate i t) := by
    unfold lateReasons
    cases hlast : i.lastActionAt with
    | none => exact ⟨[],rfl,fun _ => by simp [NotLate,hlast]⟩
    | some last =>
      obtain ⟨p,hp⟩ := hp last hlast
      refine ⟨if p > t then [.cooldown] else [],by simp [hp,bind,Except.bind,pure,Except.pure],?_⟩
      split_ifs with hlt
      · intro hx
        cases hx
      · intro _ last' hl
        rw [hlast] at hl
        cases hl
        exact ⟨p,hp,not_lt.mp hlt⟩
  obtain ⟨late,hlate,hnot⟩ := hlate
  have hreasons : (findings contentDigest i i.capacities i.quotas t).reasons ++ late ≠ [] := by
    intro hnil
    rw [List.append_eq_nil_iff] at hnil
    exact h ⟨findings_reasons.mp hnil.1,hnot hnil.2⟩
  rw [evaluateScale_eq ha,hlate]
  simp only [bind,Except.bind,conclude,hreasons,ne_eq,not_false_eq_true,if_true]
  exact terminalDecision_ok _ ha .blocked (.inr rfl) _ _

private theorem coolingDown_of_notLate (ha : Admitted i t) (action : ActionKind) {last : DateTime} {p : Int}
    (hp : utc last "last_action_at" = .ok p) (hle : p ≤ t) :
    coolingDown t p (cooldownOf i.contract.policy action) = true ↔
      t - p < cooldownOf i.contract.policy action * 1000000 := by
  have hcool : cooldownOf i.contract.policy action ≤ 86400 := by
    have := i.contract.policy.seconds
    unfold cooldownOf
    split_ifs <;> omega
  exact coolingDown_iff hle (utc_ok_iff.mp hp).2.1 ha.time.2 hcool

variable (contentDigest) in
theorem checkCooldown_cooled (ha : Admitted i t) {action : ActionKind} (h : Cooled i t action) :
    checkCooldown (context contentDigest i t) i.contract.policy action i.lastActionAt = .ok none := by
  unfold checkCooldown
  cases hlast : i.lastActionAt with
  | none => rfl
  | some last =>
    obtain ⟨p,hp,hle⟩ := h last hlast
    have hcold : coolingDown t p (cooldownOf i.contract.policy action) = false := by
      rw [Bool.eq_false_iff,ne_eq,coolingDown_of_notLate ha action hp (by omega)]
      omega
    simp [hp,bind,Except.bind,context,hcold,pure,Except.pure]

variable (contentDigest) in
theorem checkCooldown_cooling (ha : Admitted i t) (hl : NotLate i t) {action : ActionKind} (h : ¬ Cooled i t action) :
    ∃ d, checkCooldown (context contentDigest i t) i.contract.policy action i.lastActionAt = .ok (some d) ∧
      d.action = .hold := by
  unfold checkCooldown
  cases hlast : i.lastActionAt with
  | none => exact absurd (by simp [Cooled,hlast]) h
  | some last =>
    obtain ⟨p,hp,hle⟩ := hl last hlast
    have hhot : coolingDown t p (cooldownOf i.contract.policy action) = true := by
      rw [coolingDown_of_notLate ha action hp hle]
      by_contra hge
      refine h fun last' hl' => ?_
      rw [hlast] at hl'
      cases hl'
      exact ⟨p,hp,by omega⟩
    obtain ⟨d,hd,hact⟩ := terminalDecision_ok contentDigest ha .hold (.inl rfl) [.cooldown] false
    refine ⟨d,?_,hact⟩
    simp only [context] at hd ⊢
    simp [hp,bind,Except.bind,hhot,pure,Except.pure,hd]

variable (contentDigest) in
/-- Growing: the sum of the feasibility checks. -/
theorem scaleUpReasons_cases (hc : Complete i t) (extra : Int) :
    let reasons := scaleUpReasons i.contract i.capacities i.quotas extra
      (checkQuotas contentDigest i.contract i.quotas t).2
    (Blind i.capacities extra i.contract.replicaDemands ∧ ∃ x, reasons = .error x ∧ x.kind = .keyError) ∨
    (Room i extra ∧ reasons = .ok []) ∨
    (¬ Blind i.capacities extra i.contract.replicaDemands ∧ ¬ Room i extra ∧ ∃ r, reasons = .ok r ∧ r ≠ []) := by
  dsimp only
  have hquota : ∀ b ∈ i.contract.quotas, (quotaAt i.quotas b.quotaRef).isSome = true := by
    intro b hb
    obtain ⟨o,ho,_⟩ := hc.quota b hb
    rw [ho]
    rfl
  have hengine : ∀ axis ∈ i.contract.engineAuthorityAxes, (capacityAt i.capacities axis).isSome = true := by
    intro axis hx
    obtain ⟨o,ho,_⟩ := hc.capacity axis (i.contract.engine_required hx)
    rw [ho]
    rfl
  obtain ⟨growth,hgrowth,hroom⟩ := @quotaGrowthReasons_ok _ extra _ hquota
  obtain ⟨engine,heng,hsat⟩ := engineAuthorityReasons_ok hengine
  have hused := checkQuotas_exhausted contentDigest hc.quota
  unfold scaleUpReasons
  rcases @capacityExhaustionReasons_cases i.capacities extra i.contract.replicaDemands with
    ⟨hb,axis,hr⟩ | ⟨hb,⟨d,hd,hx⟩,hr⟩ | ⟨hall,hr⟩
  · exact .inl ⟨hb,_,by rw [hr]; rfl,rfl⟩
  · refine .inr (.inr ⟨hb,fun h => (h.demands d hd).2 hx,_,by simp only [hr,hgrowth,heng]; rfl,by simp⟩)
  · have hseen : ¬ Blind i.capacities extra i.contract.replicaDemands := by
      rintro ⟨seen,d,rest,heq,hd,_⟩
      have := (hall d (by rw [heq]; simp)).1
      rw [hd] at this
      cases this
    by_cases hok : Room i extra
    · refine .inr (.inl ⟨hok,?_⟩)
      obtain ⟨hp,hq⟩ := hused.mpr hok.unused
      rw [hroom.mpr hok.quotas] at hgrowth
      rw [hsat.mpr hok.engine] at heng
      simp only [hr,hgrowth,heng,hp,hq]
      rfl
    · refine .inr (.inr ⟨hseen,hok,_,by simp only [hr,hgrowth,heng]; rfl,?_⟩)
      intro hnil
      simp only [List.append_eq_nil_iff,ite_eq_right_iff,List.cons_ne_nil,imp_false,Bool.not_eq_true] at hnil
      obtain ⟨⟨⟨⟨_,hp⟩,hq⟩,hg⟩,he⟩ := hnil
      exact hok ⟨hall,hused.mp ⟨hp,hq⟩,hroom.mp hg,hsat.mp he⟩

private theorem step_up {raw : Int} (h : i.currentReplicas < raw) :
    i.currentReplicas < min (i.currentReplicas + i.contract.policy.scaleUpStep) raw := by
  have := i.contract.policy.steps
  omega

private theorem step_down {raw : Int} (h : raw < i.currentReplicas) :
    max (i.currentReplicas - i.contract.policy.scaleDownStep) raw < i.currentReplicas := by
  have := i.contract.policy.steps
  omega

private theorem raw_bounds {raw : Int} {s : SignalObservation}
    (h : targetReplicas i.contract.policy s.value = .ok raw) : 0 ≤ raw ∧ raw ≤ maxReplicas := by
  have h1 := targetReplicas_bounds h
  have h2 := i.contract.policy.replicas
  simp only [maxReplicas]
  omega

/-- The gates of `evaluate_scale`, on admitted arguments with complete evidence. -/
abbrev gates (contentDigest : String → Digest) (i : ScaleInputs) (t : Int) : Except ScaleError ScaleDecision :=
  computeScaleDecision (context contentDigest i t) i.signal i.capacities i.quotas i.continuity i.lastActionAt
    (checkQuotas contentDigest i.contract i.quotas t).2

section
variable {raw : Int} {s : SignalObservation}

theorem gates_up (hs : i.signal = some s) (hraw : targetReplicas i.contract.policy s.value = .ok raw)
    (hup : i.currentReplicas < raw) (hzero : i.currentReplicas = 0 → i.contract.policy.allowScaleFromZero = true)
    (hcool : checkCooldown (context contentDigest i t) i.contract.policy .scaleUp i.lastActionAt = .ok none) :
    gates contentDigest i t = finalizeScaleDecision (context contentDigest i t) i.capacities i.quotas .scaleUp
      (min (i.currentReplicas + i.contract.policy.scaleUpStep) raw)
      (checkQuotas contentDigest i.contract i.quotas t).2 := by
  have hgate : ¬ (i.currentReplicas = 0 ∧ (!i.contract.policy.allowScaleFromZero) = true) := by
    rintro ⟨h0,hno⟩
    simp [hzero h0] at hno
  unfold gates computeScaleDecision
  rw [hs]
  simp only [context] at hcool ⊢
  simp only [hraw,bind,Except.bind,resolveScaleTarget,gt_iff_lt,hup,if_true,true_and,hgate,if_false,hcool]
  rfl

theorem adjustScaleToZero_eq (ctx : DecisionContext) (hraw : targetReplicas i.contract.policy s.value = .ok raw) :
    adjustScaleToZero ctx i.contract.policy (max (i.currentReplicas - i.contract.policy.scaleDownStep) raw) =
      .ok (max (i.currentReplicas - i.contract.policy.scaleDownStep) raw,none) := by
  have hpos := (targetReplicas_bounds hraw).2.2
  have hgo : max (i.currentReplicas - i.contract.policy.scaleDownStep) raw ≠ 0 ∨
      i.contract.policy.allowScaleToZero = true := by
    cases hz : i.contract.policy.allowScaleToZero with
    | true => exact .inr rfl
    | false =>
      have := hpos hz
      left
      omega
  unfold adjustScaleToZero
  rw [if_pos hgo]
  rfl

theorem gates_down (hs : i.signal = some s) (hraw : targetReplicas i.contract.policy s.value = .ok raw)
    (hdown : raw < i.currentReplicas) (hdrain : sessionsBlockDrain i.contract i.continuity = false)
    (hcool : checkCooldown (context contentDigest i t) i.contract.policy .scaleDown i.lastActionAt = .ok none) :
    gates contentDigest i t = finalizeScaleDecision (context contentDigest i t) i.capacities i.quotas .scaleDown
      (max (i.currentReplicas - i.contract.policy.scaleDownStep) raw)
      (checkQuotas contentDigest i.contract i.quotas t).2 := by
  have hup : ¬ i.currentReplicas < raw := not_lt.mpr hdown.le
  have hadjust := adjustScaleToZero_eq (context contentDigest i t) hraw
  unfold gates computeScaleDecision
  rw [hs]
  simp only [context] at hcool hadjust ⊢
  simp only [hraw,bind,Except.bind,resolveScaleTarget,gt_iff_lt,hup,hdown,if_true,if_false,false_and,
    reduceCtorEq,evaluateScaleDownGates,hadjust,hdrain,hcool,Option.isSome,pure,Except.pure,Bool.false_eq_true]

variable (contentDigest) in
theorem finalize_up (ha : Admitted i t) (hc : Complete i t)
    (hraw : targetReplicas i.contract.policy s.value = .ok raw) (hup : i.currentReplicas < raw) :
    let final := finalizeScaleDecision (context contentDigest i t) i.capacities i.quotas .scaleUp
      (min (i.currentReplicas + i.contract.policy.scaleUpStep) raw)
      (checkQuotas contentDigest i.contract i.quotas t).2
    (Blind i.capacities (growth i raw) i.contract.replicaDemands ∧ ∃ x, final = .error x ∧ x.kind = .keyError) ∨
    (Room i (growth i raw) ∧ ∃ d, final = .ok d ∧ d.action = .scaleUp) ∨
    (¬ Blind i.capacities (growth i raw) i.contract.replicaDemands ∧ ¬ Room i (growth i raw) ∧
      ∃ d, final = .ok d ∧ d.action = .blocked) := by
  have hbounds := raw_bounds hraw
  have hstep := step_up hup
  have hcur := ha.replicas
  dsimp only
  unfold finalizeScaleDecision checkScaleUpFeasibility
  rcases scaleUpReasons_cases contentDigest hc (growth i raw) with
    ⟨hb,x,hx,hk⟩ | ⟨hroom,hr⟩ | ⟨hb,hroom,r,hr,hne⟩
  · refine .inl ⟨hb,x,?_,hk⟩
    simp only [context,growth] at hx ⊢
    simp only [hx,if_true,bind,Except.bind]
  · refine .inr (.inl ⟨hroom,?_⟩)
    obtain ⟨d,hd,hact⟩ := @decision_ok i.contract _ _ _ .scaleUp [.targetTracking]
      (findings contentDigest i i.capacities i.quotas t).evidence false ha.time ha.replicas
      (by omega) hstep (fun _ => rfl)
    refine ⟨d,?_,hact⟩
    simp only [context,growth] at hr ⊢
    simp only [hr,if_true,bind,Except.bind,ne_eq,not_true_eq_false,if_false,pure,Except.pure,reduceCtorEq,
      decide_false,Bool.false_and,Bool.false_eq_true]
    exact hd
  · refine .inr (.inr ⟨hb,hroom,?_⟩)
    obtain ⟨d,hd,hact⟩ := terminalDecision_ok contentDigest ha .blocked (.inr rfl) r false
    refine ⟨d,?_,hact⟩
    simp only [context,growth] at hr hd ⊢
    simp only [hr,hd,if_true,bind,Except.bind,ne_eq,hne,not_false_eq_true,pure,Except.pure]

variable (contentDigest) in
theorem finalize_down (ha : Admitted i t) (hraw : targetReplicas i.contract.policy s.value = .ok raw)
    (hdown : raw < i.currentReplicas) :
    let final := finalizeScaleDecision (context contentDigest i t) i.capacities i.quotas .scaleDown
      (max (i.currentReplicas - i.contract.policy.scaleDownStep) raw)
      (checkQuotas contentDigest i.contract i.quotas t).2
    ((i.contract.continuity.drainRequired = true →
        i.contract.policy.drainSeconds ≤ i.contract.continuity.maxDrainSeconds) ∧
      ∃ d, final = .ok d ∧ d.action = .scaleDown) ∨
    (i.contract.continuity.drainRequired = true ∧
        i.contract.continuity.maxDrainSeconds < i.contract.policy.drainSeconds ∧
      ∃ d, final = .ok d ∧ d.action = .blocked) := by
  have hbounds := raw_bounds hraw
  have hstep := step_down hdown
  have hcur := ha.replicas
  dsimp only
  unfold finalizeScaleDecision
  simp only [reduceCtorEq,if_false,decide_true,Bool.true_and]
  split_ifs with hx
  · right
    have hlong : i.contract.continuity.drainRequired = true ∧
        i.contract.continuity.maxDrainSeconds < i.contract.policy.drainSeconds := by
      simpa [context] using hx
    exact ⟨hlong.1,hlong.2,terminalDecision_ok _ ha .blocked (.inr rfl) _ _⟩
  · left
    refine ⟨?_,decision_ok ha.time ha.replicas (by omega) hstep (fun _ => rfl)⟩
    intro hreq
    simpa [context,hreq] using hx

variable (contentDigest) in
theorem gates_cases_up (ha : Admitted i t) (hc : Complete i t) (hl : NotLate i t) (hs : i.signal = some s)
    (hraw : targetReplicas i.contract.policy s.value = .ok raw) (hup : i.currentReplicas < raw) :
    (∃ x, gates contentDigest i t = .error x ∧ Asked i t raw .scaleUp ∧
      (i.currentReplicas = 0 → i.contract.policy.allowScaleFromZero = true) ∧
      Blind i.capacities (growth i raw) i.contract.replicaDemands) ∨
    (∃ d, gates contentDigest i t = .ok d ∧ (d.action = .hold ∨ d.action = .blocked)) ∨
    (∃ d, gates contentDigest i t = .ok d ∧ d.action = .scaleUp ∧ Asked i t raw .scaleUp ∧
      (i.currentReplicas = 0 → i.contract.policy.allowScaleFromZero = true) ∧ Room i (growth i raw)) := by
  by_cases hzero : i.currentReplicas = 0 → i.contract.policy.allowScaleFromZero = true
  · by_cases hcool : Cooled i t .scaleUp
    · have hasked : Asked i t raw .scaleUp := ⟨ha,hc,⟨s,hs,hraw⟩,hcool⟩
      rw [gates_up hs hraw hup hzero (checkCooldown_cooled _ ha hcool)]
      rcases finalize_up contentDigest ha hc hraw hup with
        ⟨hb,x,hx,_⟩ | ⟨hroom,d,hd,hact⟩ | ⟨_,_,d,hd,hact⟩
      · exact .inl ⟨x,hx,hasked,hzero,hb⟩
      · exact .inr (.inr ⟨d,hd,hact,hasked,hzero,hroom⟩)
      · exact .inr (.inl ⟨d,hd,.inr hact⟩)
    · have hgate : ¬ (i.currentReplicas = 0 ∧ (!i.contract.policy.allowScaleFromZero) = true) := by
        rintro ⟨h0,hno⟩
        simp [hzero h0] at hno
      obtain ⟨d,hd,hact⟩ := checkCooldown_cooling contentDigest ha hl hcool
      refine .inr (.inl ⟨d,?_,.inl hact⟩)
      unfold gates computeScaleDecision
      rw [hs]
      simp only [context] at hd ⊢
      simp only [hraw,bind,Except.bind,resolveScaleTarget,gt_iff_lt,hup,if_true,true_and,hgate,if_false,hd,
        reduceCtorEq,pure,Except.pure]
  · have hgate : i.currentReplicas = 0 ∧ (!i.contract.policy.allowScaleFromZero) = true := by
      simpa using hzero
    obtain ⟨d,hd,hact⟩ := terminalDecision_ok contentDigest ha .blocked (.inr rfl)
      [.scaleFromZeroDisabled] false
    refine .inr (.inl ⟨d,?_,.inr hact⟩)
    unfold gates computeScaleDecision
    rw [hs]
    simp only [context] at hd ⊢
    simp only [hraw,bind,Except.bind,resolveScaleTarget,gt_iff_lt,hup,if_true,true_and,if_pos hgate,hd]

variable (contentDigest) in
theorem gates_cases_down (ha : Admitted i t) (hc : Complete i t) (hl : NotLate i t) (hs : i.signal = some s)
    (hraw : targetReplicas i.contract.policy s.value = .ok raw) (hdown : raw < i.currentReplicas) :
    (∃ d, gates contentDigest i t = .ok d ∧ (d.action = .hold ∨ d.action = .blocked)) ∨
    (∃ d, gates contentDigest i t = .ok d ∧ d.action = .scaleDown ∧ Asked i t raw .scaleDown ∧
      sessionsBlockDrain i.contract i.continuity = false ∧ (i.contract.continuity.drainRequired = true →
        i.contract.policy.drainSeconds ≤ i.contract.continuity.maxDrainSeconds)) := by
  have hup : ¬ i.currentReplicas < raw := not_lt.mpr hdown.le
  have hadjust := adjustScaleToZero_eq (context contentDigest i t) hraw
  cases hdrain : sessionsBlockDrain i.contract i.continuity with
  | false =>
    by_cases hcool : Cooled i t .scaleDown
    · have hasked : Asked i t raw .scaleDown := ⟨ha,hc,⟨s,hs,hraw⟩,hcool⟩
      rw [gates_down hs hraw hdown hdrain (checkCooldown_cooled _ ha hcool)]
      rcases finalize_down contentDigest ha hraw hdown with ⟨htime,d,hd,hact⟩ | ⟨_,_,d,hd,hact⟩
      · exact .inr ⟨d,hd,hact,hasked,rfl,htime⟩
      · exact .inl ⟨d,hd,.inr hact⟩
    · obtain ⟨d,hd,hact⟩ := checkCooldown_cooling contentDigest ha hl hcool
      refine .inl ⟨d,?_,.inl hact⟩
      unfold gates computeScaleDecision
      rw [hs]
      simp only [context] at hd hadjust ⊢
      simp only [hraw,bind,Except.bind,resolveScaleTarget,gt_iff_lt,hup,hdown,if_true,if_false,false_and,
        reduceCtorEq,evaluateScaleDownGates,hadjust,hdrain,hd,Option.isSome,pure,Except.pure,
        Bool.false_eq_true]
  | true =>
    obtain ⟨d,hd,hact⟩ := terminalDecision_ok contentDigest ha .blocked (.inr rfl)
      [.activeSessionsBlockDrain] true
    refine .inl ⟨d,?_,.inr hact⟩
    unfold gates computeScaleDecision
    rw [hs]
    simp only [context] at hd hadjust ⊢
    simp only [hraw,bind,Except.bind,resolveScaleTarget,gt_iff_lt,hup,hdown,if_true,if_false,false_and,
      reduceCtorEq,evaluateScaleDownGates,hadjust,hdrain,hd,Option.isSome,pure,Except.pure,
      Bool.false_eq_true]

end

end
end Arbora.Scaling
