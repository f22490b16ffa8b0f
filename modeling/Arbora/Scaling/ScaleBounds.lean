import Arbora.Lib.Checks
import Arbora.Scaling.FailClosedScaling

/-! The bounds and the headroom of a scale decision, on whatever arguments it is returned. -/
namespace Arbora.Scaling

def ScalePolicy.floor (policy : ScalePolicy) : Int :=
  if policy.allowScaleToZero then policy.minReplicas else max 1 policy.minReplicas

/-- What is observed has room for `extra` more replicas. -/
structure Headroom (i : ScaleInputs) (extra : Int) : Prop where
  demands : ∀ d ∈ i.contract.replicaDemands, ∃ o ∈ i.capacities, o.axis = d.axis ∧
    extra * d.perReplica ≤ o.available
  quotas : ∀ b ∈ i.contract.quotas, ∃ o ∈ i.quotas, o.quotaRef = b.quotaRef ∧
    (o.used : Int) + extra * b.perReplica ≤ o.limit
  engine : ∀ axis ∈ i.contract.engineAuthorityAxes, ∃ o ∈ i.capacities, o.axis = axis ∧ 0 < o.available

/-- How a decision comes about from the arguments. -/
inductive Decided (i : ScaleInputs) (d : ScaleDecision) : Prop where
  | kept (hact : d.action = .hold ∨ d.action = .blocked) (hcur : d.currentReplicas = i.currentReplicas)
      (hdes : d.desiredReplicas = i.currentReplicas)
  | grown (raw : Int) (hact : d.action = .scaleUp) (hcur : d.currentReplicas = i.currentReplicas)
      (hmax : raw ≤ i.contract.policy.maxReplicas) (hup : i.currentReplicas < raw)
      (hdes : d.desiredReplicas = min (i.currentReplicas + i.contract.policy.scaleUpStep) raw)
      (hroom : Headroom i (d.desiredReplicas - i.currentReplicas))
  | shrunk (raw : Int) (hact : d.action = .scaleDown) (hcur : d.currentReplicas = i.currentReplicas)
      (hfloor : i.contract.policy.floor ≤ raw)
      (hdes : d.desiredReplicas = max (i.currentReplicas - i.contract.policy.scaleDownStep) raw)

section
variable {contentDigest : String → Digest} {i : ScaleInputs} {t : Int} {d : ScaleDecision}

variable {desired : Int} {action : ActionKind}

theorem Decided.of_terminal {reasons : List DecisionReason} {drain : Bool} (hact : action = .hold ∨ action = .blocked)
    (h : terminalDecision (context contentDigest i t) action reasons drain = .ok d) : Decided i d := by
  obtain ⟨hcur,hdes,ha,_⟩ := decision_fields h
  exact .kept (ha ▸ hact) hcur hdes

theorem Decided.of_cooldown (h : checkCooldown (context contentDigest i t) i.contract.policy action i.lastActionAt =
    .ok (some d)) : Decided i d := by
  cases hlast : i.lastActionAt with
  | none =>
    rw [hlast] at h
    cases h
  | some last =>
    rw [hlast] at h
    obtain ⟨p,_,h⟩ := Checks.bind_ok.mp h
    split_ifs at h with hcold
    · obtain ⟨held,hheld,h⟩ := Checks.bind_ok.mp h
      cases h
      exact .of_terminal (.inl rfl) hheld
    · cases h

theorem floor_le_target {policy : ScalePolicy} {value : Nat} {raw : Int}
    (h : targetReplicas policy value = .ok raw) : policy.floor ≤ raw := by
  have hmin := targetReplicas_floor h
  have hone := (targetReplicas_bounds h).2.2
  unfold ScalePolicy.floor
  cases hz : policy.allowScaleToZero with
  | true => simpa using hmin
  | false => simpa using ⟨hone hz,hmin⟩

/-- Room, where everything the growth needs has been observed. -/
theorem Room.headroom {extra : Int} (hr : Room i extra) (hc : Complete i t) : Headroom i extra := by
  refine ⟨?_,?_,?_⟩
  · intro demand hd
    obtain ⟨hsome,hroom⟩ := hr.demands demand hd
    obtain ⟨o,ho⟩ := Option.isSome_iff_exists.mp hsome
    have haxis := List.find?_some ho
    refine ⟨o,List.mem_of_find?_eq_some ho,by simpa using haxis,?_⟩
    by_contra hlt
    exact hroom ⟨o,ho,not_le.mp hlt⟩
  · intro b hb
    obtain ⟨o,ho,_⟩ := hc.quota b hb
    have href := List.find?_some ho
    exact ⟨o,List.mem_of_find?_eq_some ho,by simpa using href,hr.quotas b hb o ho⟩
  · intro axis hx
    obtain ⟨o,ho,_⟩ := hc.capacity axis (i.contract.engine_required hx)
    have haxis := List.find?_some ho
    exact ⟨o,List.mem_of_find?_eq_some ho,by simpa using haxis,hr.engine axis hx o ho⟩

theorem feasibility_cases {blocked : Option ScaleDecision} (hc : Complete i t)
    (h : checkScaleUpFeasibility (context contentDigest i t) i.capacities i.quotas desired
      (checkQuotas contentDigest i.contract i.quotas t).2 = .ok blocked) :
    (∃ e, blocked = some e ∧ Decided i e) ∨ (blocked = none ∧ Headroom i (desired - i.currentReplicas)) := by
  obtain ⟨reasons,hr,h⟩ := Checks.bind_ok.mp h
  split_ifs at h with hne
  · obtain ⟨e,he,h⟩ := Checks.bind_ok.mp h
    cases h
    exact .inl ⟨e,rfl,.of_terminal (.inr rfl) he⟩
  · cases h
    obtain rfl := not_not.mp hne
    refine .inr ⟨rfl,?_⟩
    simp only [context] at hr
    rcases scaleUpReasons_cases contentDigest hc (desired - i.currentReplicas) with
      ⟨_,x,hx,_⟩ | ⟨hroom,_⟩ | ⟨_,_,r,hx,hne⟩
    · rw [hx] at hr
      cases hr
    · exact hroom.headroom hc
    · rw [hx] at hr
      cases hr
      exact absurd rfl hne

private theorem final_cases {drain : Bool}
    (h : (if drain && i.contract.policy.drainSeconds > i.contract.continuity.maxDrainSeconds then
        terminalDecision (context contentDigest i t) .blocked [.drainRequired] true
      else decision i.contract i.currentReplicas desired action [.targetTracking]
        (context contentDigest i t).evidence drain t) = .ok d) :
    Decided i d ∨ (d.action = action ∧ d.currentReplicas = i.currentReplicas ∧ d.desiredReplicas = desired) := by
  split_ifs at h with hlong
  · exact .inl (.of_terminal (.inr rfl) h)
  · obtain ⟨hcur,hdes,ha,_⟩ := decision_fields h
    exact .inr ⟨ha,hcur,hdes⟩

variable {raw : Int} {s : SignalObservation}

theorem finalize_grown (hc : Complete i t) (hraw : targetReplicas i.contract.policy s.value = .ok raw)
    (hup : i.currentReplicas < raw)
    (h : finalizeScaleDecision (context contentDigest i t) i.capacities i.quotas .scaleUp
      (min (i.currentReplicas + i.contract.policy.scaleUpStep) raw)
      (checkQuotas contentDigest i.contract i.quotas t).2 = .ok d) : Decided i d := by
  obtain ⟨blocked,hb,h⟩ := Checks.bind_ok.mp h
  rcases feasibility_cases hc hb with ⟨e,rfl,he⟩ | ⟨rfl,hroom⟩
  · cases h
    exact he
  · rcases final_cases h with hkept | ⟨hact,hcur,hdes⟩
    · exact hkept
    · exact .grown raw hact hcur (targetReplicas_bounds hraw).2.1 hup hdes (hdes ▸ hroom)

theorem scaleDownGates_cases {blocked : Option ScaleDecision}
    (hraw : targetReplicas i.contract.policy s.value = .ok raw)
    (h : evaluateScaleDownGates (context contentDigest i t) i.contract.policy
      (max (i.currentReplicas - i.contract.policy.scaleDownStep) raw) i.continuity = .ok (desired,blocked)) :
    (∃ e, blocked = some e ∧ Decided i e) ∨
      (blocked = none ∧ desired = max (i.currentReplicas - i.contract.policy.scaleDownStep) raw) := by
  unfold evaluateScaleDownGates at h
  rw [adjustScaleToZero_eq _ hraw] at h
  obtain ⟨adjusted,ha,h⟩ := Checks.bind_ok.mp h
  cases ha
  split_ifs at h
  · obtain ⟨e,he,h⟩ := Checks.bind_ok.mp h
    cases h
    exact .inl ⟨e,rfl,.of_terminal (.inr rfl) he⟩
  · cases h
    exact .inr ⟨rfl,rfl⟩

theorem finalize_shrunk (hraw : targetReplicas i.contract.policy s.value = .ok raw)
    (h : finalizeScaleDecision (context contentDigest i t) i.capacities i.quotas .scaleDown
      (max (i.currentReplicas - i.contract.policy.scaleDownStep) raw)
      (checkQuotas contentDigest i.contract i.quotas t).2 = .ok d) : Decided i d := by
  rcases final_cases h with hkept | ⟨hact,hcur,hdes⟩
  · exact hkept
  · exact .shrunk raw hact hcur (floor_le_target hraw) hdes

private theorem cooled_cases {next : Option ScaleDecision → Except ScaleError ScaleDecision}
    (h : (checkCooldown (context contentDigest i t) i.contract.policy action i.lastActionAt >>= next) = .ok d)
    (hheld : ∀ e, next (some e) = .ok e) (hnext : next none = .ok d → Decided i d) : Decided i d := by
  obtain ⟨held,hc,h⟩ := Checks.bind_ok.mp h
  cases held with
  | some e =>
    rw [hheld e] at h
    cases h
    exact .of_cooldown hc
  | none => exact hnext h

theorem gates_outcome (hc : Complete i t) (h : gates contentDigest i t = .ok d) : Decided i d := by
  obtain ⟨s,hs,_⟩ := hc.signal
  unfold gates computeScaleDecision at h
  rw [hs] at h
  obtain ⟨raw,hraw,h⟩ := Checks.bind_ok.mp h
  rcases lt_trichotomy i.currentReplicas raw with hup | heq | hdown
  · have htarget : resolveScaleTarget i.contract.policy i.currentReplicas raw =
        some (min (i.currentReplicas + i.contract.policy.scaleUpStep) raw,.scaleUp) := if_pos hup
    simp only [context,htarget,true_and,reduceCtorEq,if_false] at h
    split_ifs at h
    · exact .of_terminal (.inr rfl) h
    · exact cooled_cases h (fun _ => rfl) (finalize_grown hc hraw hup)
  · have htarget : resolveScaleTarget i.contract.policy i.currentReplicas raw = none := by
      simp [resolveScaleTarget,heq]
    simp only [context,htarget] at h
    exact .of_terminal (.inl rfl) h
  · have htarget : resolveScaleTarget i.contract.policy i.currentReplicas raw =
        some (max (i.currentReplicas - i.contract.policy.scaleDownStep) raw,.scaleDown) := by
      simp [resolveScaleTarget,hdown,hdown.le]
    simp only [context,htarget,reduceCtorEq,false_and,if_false,if_true] at h
    obtain ⟨⟨desired,blocked⟩,hgate,h⟩ := Checks.bind_ok.mp h
    rcases scaleDownGates_cases hraw hgate with ⟨e,rfl,he⟩ | ⟨rfl,rfl⟩
    · cases h
      exact he
    · exact cooled_cases h (fun _ => rfl) (finalize_shrunk hraw)

theorem evaluateScale_outcome (h : evaluateScale contentDigest i = .ok d) : Decided i d := by
  by_cases hadm : ∃ t, Admitted i t
  · obtain ⟨t,ha⟩ := hadm
    rw [evaluateScale_eq ha] at h
    obtain ⟨late,_,h⟩ := Checks.bind_ok.mp h
    unfold conclude at h
    dsimp only at h
    split_ifs at h with hreasons
    · exact .of_terminal (.inr rfl) h
    · obtain ⟨hcomplete,_⟩ := List.append_eq_nil_iff.mp (not_not.mp hreasons)
      exact gates_outcome (findings_reasons.mp hcomplete) h
  · obtain ⟨x,hx,_⟩ := evaluateScale_refused contentDigest hadm
    rw [hx] at h
    cases h

end

/-- A returned decision grows by at most a step within the maximum and the observed room, shrinks by
at most a step and not below the floor, and keeps the count otherwise. -/
theorem decision_in_bounds (contentDigest : String → Digest) (i : ScaleInputs) (d : ScaleDecision)
    (h : evaluateScale contentDigest i = .ok d) : d.currentReplicas = i.currentReplicas ∧
    (d.action = .scaleUp → d.currentReplicas < d.desiredReplicas ∧
      d.desiredReplicas ≤ min (d.currentReplicas + i.contract.policy.scaleUpStep) i.contract.policy.maxReplicas ∧
      Headroom i (d.desiredReplicas - d.currentReplicas)) ∧ (d.action = .scaleDown →
      max (d.currentReplicas - i.contract.policy.scaleDownStep) i.contract.policy.floor ≤ d.desiredReplicas) ∧
    (d.action = .hold ∨ d.action = .blocked → d.desiredReplicas = d.currentReplicas) := by
  have hsteps := i.contract.policy.steps
  cases evaluateScale_outcome h with
  | kept hact hcur hdes =>
    refine ⟨hcur,?_,?_,fun _ => hdes.trans hcur.symm⟩
    · intro hup
      rcases hact with hact | hact <;> rw [hup] at hact <;> cases hact
    · intro hdown
      rcases hact with hact | hact <;> rw [hdown] at hact <;> cases hact
  | grown raw hact hcur hmax hup hdes hroom =>
    refine ⟨hcur,fun _ => ⟨?_,?_,hcur ▸ hroom⟩,?_,?_⟩
    · rw [hcur,hdes,lt_min_iff]
      exact ⟨by omega,hup⟩
    · rw [hcur,hdes]
      exact min_le_min_left _ hmax
    · rw [hact]
      nofun
    · rw [hact]
      nofun
  | shrunk raw hact hcur hfloor hdes =>
    refine ⟨hcur,?_,?_,?_⟩
    · rw [hact]
      nofun
    · intro _
      rw [hcur,hdes]
      exact max_le_max_left _ hfloor
    · rw [hact]
      nofun

open Sample in
def seenLoad : ScaleInputs :=
  { load with capacities := [free .cpuMilli,free .memoryMib,free .sessionSlots,free .gpuCount] }

open Sample in
theorem observed_grows : ∃ d, evaluateScale (fun _ => digest) seenLoad = .ok d ∧ d.action = .scaleUp ∧
    d.currentReplicas < d.desiredReplicas ∧
    d.desiredReplicas ≤ min (d.currentReplicas + gateway.policy.scaleUpStep) gateway.policy.maxReplicas ∧
    Headroom seenLoad (d.desiredReplicas - d.currentReplicas) := by
  have hup : (evaluateScale (fun _ => digest) seenLoad).toOption.any (fun d => d.action == .scaleUp) = true := by
    decide +kernel
  cases h : evaluateScale (fun _ => digest) seenLoad with
  | error x =>
    rw [h] at hup
    cases hup
  | ok d =>
    rw [h] at hup
    have hact : d.action = .scaleUp := beq_iff_eq.mp hup
    exact ⟨d,rfl,hact,(decision_in_bounds (fun _ => digest) seenLoad d h).2.1 hact⟩

end Arbora.Scaling
