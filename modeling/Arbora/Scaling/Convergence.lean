import Arbora.Lib.Approach
import Arbora.Scaling.FailClosedScaling

/-! Repeated rounds of `evaluate_scale`, each on the replica count the last one asked for. -/
namespace Arbora.Scaling
open Approach (toward stride)

/-- The arguments of `evaluate_scale` that are new in each round. -/
structure Round where
  signal : Option SignalObservation
  capacities : List CapacityObservation
  quotas : List QuotaObservation
  continuity : Option ContinuityObservation
  safety : Option LoadSafetyObservation
  now : DateTime
  lastActionAt : Option DateTime := none

def Round.inputs (round : Round) (contract : ScaleUnitContract) (current : Int) : ScaleInputs where
  contract := contract
  currentReplicas := current
  signal := round.signal
  capacities := round.capacities
  quotas := round.quotas
  continuity := round.continuity
  safety := round.safety
  now := round.now
  lastActionAt := round.lastActionAt

section
variable (contentDigest : String → Digest) (contract : ScaleUnitContract) (rounds : Nat → Round) (start : Int)

/-- `current_replicas` in each round: `desired_replicas` of the round before. -/
def countAt : Nat → Except ScaleError Int
  | 0 => .ok start
  | n + 1 => do
    let current ← countAt n
    let last ← evaluateScale contentDigest ((rounds n).inputs contract current)
    return last.desiredReplicas

def decisionAt (n : Nat) : Except ScaleError ScaleDecision := do
  let current ← countAt contentDigest contract rounds start n
  evaluateScale contentDigest ((rounds n).inputs contract current)

end

/-- A round at `current` replicas in which nothing but the contract can stand in the way of `raw`:
fresh evidence of the signal `value`, an elapsed cooldown, and room for one step. -/
structure Favourable (contract : ScaleUnitContract) (value : Nat) (raw : Int) (round : Round) (current t : Int) :
    Prop where
  now : utc round.now "now" = .ok t
  capacities : (round.capacities.map (·.axis)).Nodup
  quotas : (round.quotas.map (·.quotaRef)).Nodup
  complete : Complete (round.inputs contract current) t
  signal : ∃ s, round.signal = some s ∧ s.value = value
  notLate : NotLate (round.inputs contract current) t
  growing : current < raw → Cooled (round.inputs contract current) t .scaleUp ∧
    Room (round.inputs contract current) (growth (round.inputs contract current) raw)
  shrinking : raw < current → Cooled (round.inputs contract current) t .scaleDown ∧
    sessionsBlockDrain contract round.continuity = false

/-- The decisions step from `start` to `raw` in one direction, and hold from there on. -/
structure Converges (policy : ScalePolicy) (start raw : Int) (run : Nat → ScaleDecision) : Prop where
  first : (run 0).currentReplicas = start
  fed : ∀ n, (run (n + 1)).currentReplicas = (run n).desiredReplicas
  rising : start ≤ raw → ∀ n, (run n).currentReplicas ≤ (run n).desiredReplicas ∧ (run n).desiredReplicas ≤ raw
  falling : raw ≤ start → ∀ n, (run n).desiredReplicas ≤ (run n).currentReplicas ∧ raw ≤ (run n).desiredReplicas
  steady : ¬ ∃ m n, (run m).action = .scaleUp ∧ (run n).action = .scaleDown
  held : ∀ n, (run n).action = .hold ↔
    ⌈(|raw - start| : ℚ) / stride policy.scaleUpStep policy.scaleDownStep raw start⌉₊ ≤ n
  atTarget : ∀ n, (run n).action = .hold → (run n).desiredReplicas = raw ∧ (run n).reasons = [.atTarget]

section
variable {contentDigest : String → Digest} {i : ScaleInputs} {t raw : Int} {s : SignalObservation}

theorem finalize_room (hc : Complete i t) (hroom : Room i (growth i raw)) :
    finalizeScaleDecision (context contentDigest i t) i.capacities i.quotas .scaleUp
        (min (i.currentReplicas + i.contract.policy.scaleUpStep) raw)
        (checkQuotas contentDigest i.contract i.quotas t).2 =
      decision i.contract i.currentReplicas (min (i.currentReplicas + i.contract.policy.scaleUpStep) raw) .scaleUp
        [.targetTracking] (context contentDigest i t).evidence false t := by
  unfold finalizeScaleDecision checkScaleUpFeasibility
  rcases scaleUpReasons_cases contentDigest hc (growth i raw) with
    ⟨hb,_⟩ | ⟨_,hr⟩ | ⟨_,hno,_⟩
  · exact absurd hb hroom.not_blind
  · simp only [context,growth] at hr ⊢
    simp only [hr,if_true,bind,Except.bind,ne_eq,not_true_eq_false,if_false,pure,Except.pure,reduceCtorEq,
      decide_false,Bool.false_and,Bool.false_eq_true]
  · exact absurd hroom hno

theorem finalize_drain (htime : i.contract.continuity.drainRequired = true →
      i.contract.policy.drainSeconds ≤ i.contract.continuity.maxDrainSeconds) (desired : Int) (state : QuotaCheckState) :
    finalizeScaleDecision (context contentDigest i t) i.capacities i.quotas .scaleDown desired state =
      decision i.contract i.currentReplicas desired .scaleDown [.targetTracking]
        (context contentDigest i t).evidence i.contract.continuity.drainRequired t := by
  have hgate : ¬ (i.contract.continuity.drainRequired = true ∧
      i.contract.continuity.maxDrainSeconds < i.contract.policy.drainSeconds) := by
    intro h
    exact absurd (htime h.1) (not_le.mpr h.2)
  unfold finalizeScaleDecision
  simp [context,hgate]

variable (contentDigest) in
theorem gates_at_target (hs : i.signal = some s)
    (hraw : targetReplicas i.contract.policy s.value = .ok i.currentReplicas) :
    gates contentDigest i t = decision i.contract i.currentReplicas i.currentReplicas .hold [.atTarget]
      (context contentDigest i t).evidence false t := by
  unfold gates computeScaleDecision
  rw [hs]
  simp only [context,hraw,bind,Except.bind,resolveScaleTarget,gt_iff_lt,lt_self_iff_false,if_false]
  rfl

variable (contentDigest) in
theorem gates_from_zero (hs : i.signal = some s) (hraw : targetReplicas i.contract.policy s.value = .ok raw)
    (hcur : i.currentReplicas = 0) (hup : 0 < raw) (hoff : i.contract.policy.allowScaleFromZero = false) :
    gates contentDigest i t = decision i.contract i.currentReplicas i.currentReplicas .blocked
      [.scaleFromZeroDisabled] (context contentDigest i t).evidence false t := by
  unfold gates computeScaleDecision
  rw [hs]
  simp only [context,hraw,bind,Except.bind,resolveScaleTarget,gt_iff_lt,hcur,hup,if_true,hoff,Bool.not_false,
    and_self]
  rfl

end

section
variable {contentDigest : String → Digest} {contract : ScaleUnitContract} {value : Nat} {raw current t : Int}
  {round : Round}

def actionToward (current raw : Int) : ActionKind :=
  if current < raw then .scaleUp else if raw < current then .scaleDown else .hold

theorem actionToward_up : actionToward current raw = .scaleUp ↔ current < raw := by
  unfold actionToward
  split_ifs with h h'
  · simp [h]
  · simp [h]
  · simp [h]

theorem actionToward_down : actionToward current raw = .scaleDown ↔ raw < current := by
  unfold actionToward
  split_ifs with h h'
  · simp [h.le]
  · simp [h']
  · simp [h']

theorem actionToward_hold : actionToward current raw = .hold ↔ current = raw := by
  unfold actionToward
  split_ifs with h h'
  · simp [h.ne]
  · simp [h'.ne']
  · simp only [true_iff]
    omega

/-- What the contract itself must allow at `current`. -/
structure Passable (contract : ScaleUnitContract) (current raw : Int) : Prop where
  fromZero : current = 0 → 0 < raw → contract.policy.allowScaleFromZero = true
  drain : raw < current → contract.continuity.drainRequired = true →
    contract.policy.drainSeconds ≤ contract.continuity.maxDrainSeconds

theorem Favourable.step (h : Favourable contract value raw round current t)
    (hraw : targetReplicas contract.policy value = .ok raw)
    (hcur : current ≤ maxReplicas) (hfloor : contract.policy.minReplicas ≤ current)
    (hpass : Passable contract current raw) :
    ∃ d, evaluateScale contentDigest (round.inputs contract current) = .ok d ∧ d.currentReplicas = current ∧
      d.desiredReplicas = toward contract.policy.scaleUpStep contract.policy.scaleDownStep raw current ∧
      d.action = actionToward current raw ∧ (d.action = .hold → d.reasons = [.atTarget]) := by
  have hp := contract.policy.replicas
  have hsteps := contract.policy.steps
  have hbounds := targetReplicas_bounds hraw
  have hmax : maxReplicas = 10000 := rfl
  have ha : Admitted (round.inputs contract current) t :=
    ⟨h.now,⟨hp.1.trans hfloor,hcur⟩,hfloor,h.capacities,h.quotas⟩
  obtain ⟨s,hs,rfl⟩ := h.signal
  rw [evaluateScale_complete _ ha h.complete h.notLate]
  rcases lt_trichotomy current raw with hup | rfl | hdown
  · obtain ⟨hcool,hroom⟩ := h.growing hup
    have hzero : current = 0 → contract.policy.allowScaleFromZero = true := by
      intro h0
      exact hpass.fromZero h0 (by omega)
    have hgate := gates_up (i := round.inputs contract current) hs hraw hup hzero
      (checkCooldown_cooled contentDigest ha hcool)
    rw [finalize_room h.complete hroom] at hgate
    have hstep : current < min (current + contract.policy.scaleUpStep) raw := by omega
    obtain ⟨d,hd,_⟩ := @decision_ok contract _ _ _ .scaleUp [.targetTracking]
      (context contentDigest (round.inputs contract current) t).evidence false
      ha.time ha.replicas (by omega) hstep (fun _ => rfl)
    obtain ⟨hcurrent,hdesired,haction,_⟩ := decision_fields hd
    refine ⟨d,hgate.trans hd,hcurrent,?_,?_,?_⟩
    · rw [hdesired,toward,if_pos hup]
    · rw [haction,actionToward_up.mpr hup]
    · intro hhold
      rw [haction] at hhold
      cases hhold
  · have hgate := gates_at_target contentDigest (t := t) (i := round.inputs contract current) hs hraw
    obtain ⟨d,hd,_⟩ := @decision_ok contract current current _ .hold [.atTarget]
      (context contentDigest (round.inputs contract current) t).evidence false
      ha.time ha.replicas ha.replicas rfl (fun h => by rcases h with h | h <;> cases h)
    obtain ⟨hcurrent,hdesired,haction,hreasons⟩ := decision_fields hd
    refine ⟨d,hgate.trans hd,hcurrent,?_,?_,?_⟩
    · rw [hdesired,toward,if_neg (lt_irrefl _)]
      omega
    · rw [haction,actionToward_hold.mpr rfl]
    · intro _
      rw [hreasons nofun]
      rfl
  · obtain ⟨hcool,hdrain⟩ := h.shrinking hdown
    have hgate := gates_down (i := round.inputs contract current) hs hraw hdown hdrain
      (checkCooldown_cooled contentDigest ha hcool)
    rw [finalize_drain (i := round.inputs contract current) (hpass.drain hdown)] at hgate
    have hstep : max (current - contract.policy.scaleDownStep) raw < current := by omega
    obtain ⟨d,hd,_⟩ := @decision_ok contract _ _ _ .scaleDown [.targetTracking]
      (context contentDigest (round.inputs contract current) t).evidence contract.continuity.drainRequired ha.time ha.replicas (by omega) hstep (fun _ => rfl)
    obtain ⟨hcurrent,hdesired,haction,_⟩ := decision_fields hd
    refine ⟨d,hgate.trans hd,hcurrent,?_,?_,?_⟩
    · rw [hdesired,toward,if_neg (not_lt.mpr hdown.le)]
    · rw [haction,actionToward_down.mpr hdown]
    · intro hhold
      rw [haction] at hhold
      cases hhold

section
variable {rounds : Nat → Round} {start : Int}

private def nth (contract : ScaleUnitContract) (start raw : Int) (n : Nat) : Int :=
  (toward contract.policy.scaleUpStep contract.policy.scaleDownStep raw)^[n] start

private theorem nth_succ (n : Nat) : nth contract start raw (n + 1) =
    toward contract.policy.scaleUpStep contract.policy.scaleDownStep raw (nth contract start raw n) :=
  Function.iterate_succ_apply' _ _ _

variable (contract) in
private theorem nth_rising (h : start ≤ raw) (n : Nat) : start ≤ nth contract start raw n ∧ nth contract start raw n ≤ raw := by
  have hs := contract.policy.steps
  induction n with
  | zero => exact ⟨le_refl _,h⟩
  | succ n ih =>
    have := Approach.toward_of_le hs.1 hs.2.2.1 ih.2
    rw [nth_succ]
    exact ⟨ih.1.trans this.1,this.2⟩

variable (contract) in
private theorem nth_falling (h : raw ≤ start) (n : Nat) : nth contract start raw n ≤ start ∧ raw ≤ nth contract start raw n := by
  have hs := contract.policy.steps
  induction n with
  | zero => exact ⟨le_refl _,h⟩
  | succ n ih =>
    have := @Approach.toward_of_ge contract.policy.scaleUpStep _ _ _ hs.2.2.1 ih.2
    rw [nth_succ]
    exact ⟨this.1.trans ih.1,this.2⟩

private theorem Passable.along (h : Passable contract start raw) (h0 : 0 ≤ start) (n : Nat) :
    Passable contract (nth contract start raw n) raw := by
  rcases le_total start raw with hle | hle
  · have hn := nth_rising contract hle n
    refine ⟨?_,?_⟩
    · intro hz hpos
      exact h.fromZero (by omega) hpos
    · intro hlt
      omega
  · have hn := nth_falling contract hle n
    refine ⟨?_,?_⟩
    · intro hz hpos
      omega
    · intro hlt
      exact h.drain (by omega)

section
variable (hraw : targetReplicas contract.policy value = .ok raw) (hstart : start ≤ maxReplicas)
  (hfloor : contract.policy.minReplicas ≤ start) (hpass : Passable contract start raw)
  (hrounds : ∀ n current, countAt contentDigest contract rounds start n = .ok current →
    ∃ t, Favourable contract value raw (rounds n) current t)
include hraw hstart hfloor hpass hrounds

private theorem round_step {n : Nat} (h : countAt contentDigest contract rounds start n = .ok (nth contract start raw n)) :
    ∃ d, evaluateScale contentDigest ((rounds n).inputs contract (nth contract start raw n)) = .ok d ∧
      d.currentReplicas = nth contract start raw n ∧ d.desiredReplicas = nth contract start raw (n + 1) ∧
      d.action = actionToward (nth contract start raw n) raw ∧ (d.action = .hold → d.reasons = [.atTarget]) := by
  have hp := contract.policy.replicas
  have hbounds := targetReplicas_bounds hraw
  have hmin := targetReplicas_floor hraw
  have hmax : maxReplicas = 10000 := rfl
  obtain ⟨t,hfav⟩ := hrounds n _ h
  have hcount : nth contract start raw n ≤ maxReplicas ∧ contract.policy.minReplicas ≤ nth contract start raw n := by
    rcases le_total start raw with hle | hle
    · have := nth_rising contract hle n
      omega
    · have := nth_falling contract hle n
      omega
  rw [nth_succ]
  exact hfav.step hraw hcount.1 hcount.2 (hpass.along (hp.1.trans hfloor) n)

private theorem countAt_eq (n : Nat) : countAt contentDigest contract rounds start n = .ok (nth contract start raw n) := by
  induction n with
  | zero => rfl
  | succ n ih =>
    obtain ⟨d,hd,_,hdesired,_⟩ := round_step hraw hstart hfloor hpass hrounds ih
    simp only [countAt,ih,bind,Except.bind,hd,hdesired,pure,Except.pure]

end

/-- In favourable rounds that the contract lets pass, `evaluate_scale` converges. -/
theorem favourable_rounds_converge (contentDigest : String → Digest) (contract : ScaleUnitContract) (value : Nat)
    (raw start : Int) (rounds : Nat → Round) (hraw : targetReplicas contract.policy value = .ok raw)
    (hstart : start ≤ maxReplicas) (hfloor : contract.policy.minReplicas ≤ start)
    (hpass : Passable contract start raw)
    (hrounds : ∀ n current, countAt contentDigest contract rounds start n = .ok current →
      ∃ t, Favourable contract value raw (rounds n) current t) :
    ∃ run, (∀ n, decisionAt contentDigest contract rounds start n = .ok (run n)) ∧
      Converges contract.policy start raw run := by
  have hs := contract.policy.steps
  have hcount := countAt_eq hraw hstart hfloor hpass hrounds
  choose run hrun hcurrent hdesired haction hreasons using
    fun n => round_step hraw hstart hfloor hpass hrounds (hcount n)
  have hhold : ∀ n, (run n).action = .hold ↔ nth contract start raw n = raw := by
    intro n
    rw [haction,actionToward_hold]
  refine ⟨run,?_,?_⟩
  · intro n
    simp only [decisionAt,hcount n,bind,Except.bind,hrun n]
  refine ⟨hcurrent 0,?_,?_,?_,?_,?_,?_⟩
  · intro n
    rw [hcurrent,hdesired]
  · intro hle n
    rw [hcurrent,hdesired,nth_succ]
    exact Approach.toward_of_le hs.1 hs.2.2.1 (nth_rising _ hle n).2
  · intro hle n
    rw [hcurrent,hdesired,nth_succ]
    exact Approach.toward_of_ge hs.2.2.1 (nth_falling _ hle n).2
  · -- growing needs a count below the target, shrinking one above it
    rintro ⟨m,n,hup,hdown⟩
    rw [haction,actionToward_up] at hup
    rw [haction,actionToward_down] at hdown
    rcases le_total start raw with hle | hle
    · have := nth_rising contract hle n
      omega
    · have := nth_falling contract hle m
      omega
  · intro n
    rw [hhold,nth,Approach.iterate_eq_target_iff hs.1 hs.2.2.1]
  · intro n h
    refine ⟨?_,hreasons n h⟩
    have hn := (hhold n).mp h
    rw [hdesired,nth_succ,hn,toward,if_neg (lt_irrefl _)]
    omega

end

end

namespace Sample

def idle (allowScaleFromZero : Bool) : ScaleUnitContract :=
  { gateway with
    policy :=
      { gateway.policy with
        minReplicas := 0, allowScaleToZero := true, allowScaleFromZero := allowScaleFromZero
        replicas := by decide, zeroFloor := fun _ => rfl }
    replicaDemands := gateway.replicaDemands.take 3
    lengths := by decide
    demandsUnique := by decide
    demandsCover := by decide }

def busy : Round where
  signal := load.signal
  capacities := load.capacities
  quotas := []
  continuity := none
  safety := none
  now := .utc supportedFrom

theorem idle_target (allow : Bool) : targetReplicas (idle allow).policy 20 = .ok 2 :=
  @targetReplicas_saturated (idle allow).policy _ (by decide +revert) (by decide +revert +kernel)

theorem busy_complete (allow : Bool) (current : Int) : Complete (busy.inputs (idle allow) current) supportedFrom := by
  refine ⟨⟨_,rfl,rfl,rfl⟩,?_,?_,?_,?_,?_⟩
  · intro axis hx
    fin_cases hx
    · exact ⟨free .cpuMilli,rfl,rfl⟩
    · exact ⟨free .memoryMib,rfl,rfl⟩
    · exact ⟨free .sessionSlots,rfl,rfl⟩
  · intro b hb
    cases hb
  · intro hm
    exact absurd rfl hm
  · intro _ c hc
    cases hc
  · intro hr
    cases hr

theorem busy_room (allow : Bool) (current extra : Int) (h : extra ≤ 10) :
    Room (busy.inputs (idle allow) current) extra := by
  refine ⟨?_,?_,?_,?_⟩
  · have hfree : ∀ axis, capacityAt load.capacities axis = some (free axis) → ∀ d : CapacityDemand, d.axis = axis →
        d.perReplica = 1 → (capacityAt load.capacities d.axis).isSome = true ∧ ¬ Exhausted load.capacities extra d := by
      rintro _ ho d rfl hd
      refine ⟨by rw [ho]; rfl,?_⟩
      rintro ⟨o,ho',hx⟩
      rw [ho] at ho'
      cases ho'
      rw [hd] at hx
      change extra * 1 > 10 - 0 at hx
      omega
    intro d hd
    fin_cases hd
    · exact hfree .cpuMilli rfl _ rfl rfl
    · exact hfree .memoryMib rfl _ rfl rfl
    · exact hfree .sessionSlots rfl _ rfl rfl
  · intro b hb
    cases hb
  · intro b hb
    cases hb
  · intro axis hx
    cases hx

theorem busy_favourable (allow : Bool) (current : Int) : Favourable (idle allow) 20 2 busy current supportedFrom := by
  refine ⟨rfl,by decide,by decide,busy_complete allow current,⟨_,rfl,rfl⟩,?_,?_,?_⟩
  · intro last hl
    cases hl
  · intro _
    refine ⟨?_,busy_room allow current _ ?_⟩
    · intro last hl
      cases hl
    · change min (current + 1) 2 - current ≤ 10
      omega
  · intro _
    refine ⟨?_,rfl⟩
    intro last hl
    cases hl

end Sample

open Sample in
/-- From zero the idle gateway comes to two replicas. -/
theorem idle_gateway_converges :
    ∃ run, (∀ n, decisionAt (fun _ => digest) (idle true) (fun _ => busy) 0 n = .ok (run n)) ∧
      Converges (idle true).policy 0 2 run :=
  favourable_rounds_converge (fun _ => digest) (idle true) 20 2 0 (fun _ => busy) (idle_target true) (by decide)
    (by decide) ⟨fun _ _ => rfl,by decide⟩ (fun _ current _ => ⟨supportedFrom,busy_favourable true current⟩)

open Sample in
private theorem idle_blocked : ∃ d, evaluateScale (fun _ => digest) (busy.inputs (idle false) 0) = .ok d ∧
    d.desiredReplicas = 0 ∧ d.action = .blocked := by
  have hfav := busy_favourable false 0
  have ha : Admitted (busy.inputs (idle false) 0) supportedFrom := ⟨rfl,by decide,by decide,by decide,by decide⟩
  have hgate := gates_from_zero (fun _ => digest) (t := supportedFrom)
    (i := busy.inputs (idle false) 0) rfl (idle_target false) rfl (by decide) rfl
  obtain ⟨d,hd,_⟩ := @decision_ok (idle false) 0 0 _ .blocked [.scaleFromZeroDisabled]
    (context (fun _ => digest) (busy.inputs (idle false) 0) supportedFrom).evidence false
    ha.time ha.replicas ha.replicas trivial (by decide)
  obtain ⟨_,hdesired,haction,_⟩ := decision_fields hd
  refine ⟨d,?_,hdesired,haction⟩
  rw [evaluateScale_complete _ ha hfav.complete hfav.notLate]
  exact hgate.trans hd

open Sample in
private theorem idle_count (n : Nat) : countAt (fun _ => digest) (idle false) (fun _ => busy) 0 n = .ok 0 := by
  obtain ⟨d,hd,hdesired,_⟩ := idle_blocked
  induction n with
  | zero => rfl
  | succ n ih => simp only [countAt,ih,bind,Except.bind,hd,hdesired,pure,Except.pure]

open Sample in
/-- Where it may not leave zero it is blocked in every round. -/
theorem idle_gateway_stays_at_zero :
    targetReplicas (idle false).policy 20 = .ok 2 ∧ (0 : Int) ≤ maxReplicas ∧ (idle false).policy.minReplicas ≤ 0 ∧
    (∀ n current, countAt (fun _ => digest) (idle false) (fun _ => busy) 0 n = .ok current →
      ∃ t, Favourable (idle false) 20 2 busy current t) ∧
    ¬ ∃ run, (∀ n, decisionAt (fun _ => digest) (idle false) (fun _ => busy) 0 n = .ok (run n)) ∧
      Converges (idle false).policy 0 2 run := by
  refine ⟨idle_target false,by decide,by decide,fun _ current _ => ⟨supportedFrom,busy_favourable false current⟩,?_⟩
  rintro ⟨run,hrun,hconv⟩
  obtain ⟨d,hd,_,haction⟩ := idle_blocked
  have hlast : run 2 = d := by
    have := hrun 2
    simp only [decisionAt,idle_count,bind,Except.bind,hd] at this
    cases this
    rfl
  have hheld : (run 2).action = .hold := by
    rw [hconv.held]
    have hstride : stride (idle false).policy.scaleUpStep (idle false).policy.scaleDownStep 2 0 = 1 := rfl
    rw [hstride]
    norm_num
  rw [hlast,haction] at hheld
  cases hheld

end Arbora.Scaling
