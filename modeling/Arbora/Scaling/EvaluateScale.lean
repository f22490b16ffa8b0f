import Arbora.Lib.Binary64
import Arbora.Scaling.ScaleUnits

/-! `evaluate_scale`: one target-tracking decision from a contract and its observations. -/
namespace Arbora.Scaling

structure ScaleInputs where
  contract : ScaleUnitContract
  currentReplicas : Int
  signal : Option SignalObservation
  capacities : List CapacityObservation
  quotas : List QuotaObservation
  continuity : Option ContinuityObservation
  safety : Option LoadSafetyObservation
  now : DateTime
  lastActionAt : Option DateTime := none

/-- What the checks append to the lists `evidence` and `reasons`. -/
structure Findings where
  evidence : List DecisionEvidence := []
  reasons : List DecisionReason := []

instance : Append Findings where
  append f g := ⟨f.evidence ++ g.evidence,f.reasons ++ g.reasons⟩

def Sighting.fresh (s : Sighting) (now : Int) : Bool := s.observedAt ≤ now && now < s.expiresAt

def Sighting.evidence (s : Sighting) (kind : EvidenceKind) (status : EvidenceStatus) (code : String) :
    DecisionEvidence :=
  ⟨kind,s.sourceRef,s.sourceDigest,status,code⟩

/-- The loop of `_capacity_map` and `_quota_map`; a map is its values, in the order they came in. -/
def observationLoop {α κ : Type} [DecidableEq κ] (key : α → κ) (duplicate : String) :
    List α → List α → Except ScaleError (List α)
  | result, [] => .ok result
  | result, observation :: rest =>
    if key observation ∈ result.map key then .error ⟨.scaleContractError,duplicate⟩
    else observationLoop key duplicate (result ++ [observation]) rest

def capacityMap (observations : List CapacityObservation) : Except ScaleError (List CapacityObservation) :=
  observationLoop (·.axis) "duplicate capacity axis observation" [] observations
def quotaMap (observations : List QuotaObservation) : Except ScaleError (List QuotaObservation) :=
  observationLoop (·.quotaRef) "duplicate quota observation" [] observations
def capacityAt (capMap : List CapacityObservation) (axis : CapacityAxis) : Option CapacityObservation :=
  capMap.find? (·.axis = axis)
def quotaAt (quotaMap : List QuotaObservation) (ref : Ref) : Option QuotaObservation :=
  quotaMap.find? (·.quotaRef = ref)

def capacityIndex (capMap : List CapacityObservation) (axis : CapacityAxis) : Except ScaleError CapacityObservation :=
  match capacityAt capMap axis with
  | some observation => .ok observation
  | none => .error ⟨.keyError,"'" ++ axis.name ++ "'"⟩

def quotaIndex (quotaMap : List QuotaObservation) (ref : Ref) : Except ScaleError QuotaObservation :=
  match quotaAt quotaMap ref with
  | some observation => .ok observation
  | none => .error ⟨.keyError,"'" ++ ref.val ++ "'"⟩

/-- `value / policy.target` is a float, correctly rounded; one out of range raises. -/
def targetReplicas (policy : ScalePolicy) (value : Nat) : Except ScaleError Int :=
  match FloatingPoint.binary64.round (value / policy.target) with
  | none => .error ⟨.overflowError,"integer division result too large for a float"⟩
  | some ratio =>
    let floor := if policy.minReplicas = 0 ∧ !policy.allowScaleToZero then 1 else policy.minReplicas
    let desired := if value = 0 ∧ policy.allowScaleToZero then 0 else ⌈ratio⌉
    .ok (max floor (min policy.maxReplicas desired))

section
-- `content_digest` of a canonical JSON text
variable (contentDigest : String → Digest)

private def missing (kind : EvidenceKind) (ref : Ref) (body code : String) : DecisionEvidence :=
  ⟨kind,ref,contentDigest body,.missing,code⟩

def checkSignal (contract : ScaleUnitContract) (current : Int) : Option SignalObservation → Findings
  | none =>
    ⟨[missing contentDigest .signal ⟨"signal:missing",by decide⟩
      "\x7b\"kind\":\"signal\",\"state\":\"missing\"\x7d" "signal_missing"],[.signalMissing]⟩
  | some signal =>
    if signal.signal ≠ contract.policy.targetSignal then
      ⟨[signal.evidence .signal .blocked "signal_mismatch"],[.signalMismatch]⟩
    else if !signal.fresh current then
      ⟨[signal.evidence .signal .stale "signal_stale"],[.signalStale]⟩
    else ⟨[signal.evidence .signal .accepted signal.signal.name],[]⟩

theorem isRef_capacity (axis : CapacityAxis) : isRef ("capacity:" ++ axis.name) = true := by
  cases axis <;> decide +kernel

def capacityEvidence (capMap : List CapacityObservation) (current : Int) (axis : CapacityAxis) : DecisionEvidence :=
  match capacityAt capMap axis with
  | none => missing contentDigest .capacity ⟨"capacity:" ++ axis.name,isRef_capacity axis⟩
      ("\x7b\"axis\":\"" ++ axis.name ++ "\",\"state\":\"missing\"\x7d") "capacity_missing"
  | some observation =>
    if !observation.fresh current then observation.evidence .capacity .stale "capacity_stale"
    else observation.evidence .capacity .accepted axis.name

def checkCapacityAxes (contract : ScaleUnitContract) (capMap : List CapacityObservation) (current : Int) : Findings :=
  let missingCapacity := contract.requiredCapacityAxes.any fun axis => (capacityAt capMap axis).isNone
  let staleCapacity := contract.requiredCapacityAxes.any fun axis =>
    (capacityAt capMap axis).any fun observation => !observation.fresh current
  ⟨contract.requiredCapacityAxes.map (capacityEvidence contentDigest capMap current),
    (if missingCapacity then [.capacityMissing] else []) ++ (if staleCapacity then [.capacityStale] else [])⟩

structure QuotaCheckState where
  missingProviderQuota : Bool := false
  staleProviderQuota : Bool := false
  missingLocalQuota : Bool := false
  staleLocalQuota : Bool := false
  quotaScopeMismatch : Bool := false
  providerQuotaExhausted : Bool := false
  localQuotaExhausted : Bool := false

def recordMissingQuota (binding : QuotaBinding) (state : QuotaCheckState) : DecisionEvidence × QuotaCheckState :=
  let body := "\x7b\"quota_ref\":\"" ++ binding.quotaRef.val ++ "\",\"state\":\"missing\"\x7d"
  if binding.scope = .providerGlobal then
    (missing contentDigest .quota binding.quotaRef body "provider_quota_missing",
      { state with missingProviderQuota := true })
  else
    (missing contentDigest .quota binding.quotaRef body "quota_missing",
      { state with missingLocalQuota := true })

def recordStaleQuota (binding : QuotaBinding) (observation : QuotaObservation) (state : QuotaCheckState) :
    DecisionEvidence × QuotaCheckState :=
  if binding.scope = .providerGlobal then
    (observation.evidence .quota .stale "provider_quota_stale",{ state with staleProviderQuota := true })
  else
    (observation.evidence .quota .stale "quota_stale",{ state with staleLocalQuota := true })

def recordAcceptedQuota (binding : QuotaBinding) (observation : QuotaObservation) (state : QuotaCheckState) :
    DecisionEvidence × QuotaCheckState :=
  (observation.evidence .quota .accepted binding.scope.name,
    if observation.used ≥ observation.limit then
      if binding.scope = .providerGlobal then { state with providerQuotaExhausted := true }
      else { state with localQuotaExhausted := true }
    else state)

def checkQuotaBinding (quotaMap : List QuotaObservation) (current : Int) (binding : QuotaBinding)
    (state : QuotaCheckState) : DecisionEvidence × QuotaCheckState :=
  match quotaAt quotaMap binding.quotaRef with
  | none => recordMissingQuota contentDigest binding state
  | some observation =>
    if observation.scope ≠ binding.scope then
      (observation.evidence .quota .blocked "quota_scope_mismatch",{ state with quotaScopeMismatch := true })
    else if !observation.fresh current then recordStaleQuota binding observation state
    else recordAcceptedQuota binding observation state

def quotaStateToReasons (state : QuotaCheckState) : List DecisionReason :=
  (if state.missingProviderQuota then [.providerQuotaMissing] else []) ++
  (if state.staleProviderQuota then [.providerQuotaStale] else []) ++
  (if state.missingLocalQuota then [.quotaMissing] else []) ++
  (if state.staleLocalQuota then [.quotaStale] else []) ++
  (if state.quotaScopeMismatch then [.quotaScopeMismatch] else [])

def quotaLoop (quotaMap : List QuotaObservation) (current : Int) :
    List QuotaBinding → QuotaCheckState → List DecisionEvidence × QuotaCheckState
  | [], state => ([],state)
  | binding :: rest, state =>
    let step := checkQuotaBinding contentDigest quotaMap current binding state
    let last := quotaLoop quotaMap current rest step.2
    (step.1 :: last.1,last.2)

def checkQuotas (contract : ScaleUnitContract) (quotaMap : List QuotaObservation) (current : Int) :
    Findings × QuotaCheckState :=
  let loop := quotaLoop contentDigest quotaMap current contract.quotas {}
  (⟨loop.1,quotaStateToReasons loop.2⟩,loop.2)

def checkContinuity (contract : ScaleUnitContract) (current : Int) : Option ContinuityObservation → Findings
  | none =>
    if contract.continuity.mode ≠ .stateless then
      ⟨[missing contentDigest .continuity ⟨"continuity:missing",by decide⟩
        "\x7b\"kind\":\"continuity\",\"state\":\"missing\"\x7d" "continuity_missing"],[.continuityMissing]⟩
    else {}
  | some continuity =>
    if contract.continuity.mode ≠ .stateless then
      if !continuity.fresh current then
        ⟨[continuity.evidence .continuity .stale "continuity_stale"],[.continuityStale]⟩
      else if !continuity.ready then
        ⟨[continuity.evidence .continuity .blocked "continuity_not_ready"],[.continuityNotReady]⟩
      else ⟨[continuity.evidence .continuity .accepted contract.continuity.mode.name],[]⟩
    else if !continuity.fresh current then ⟨[],[.continuityStale]⟩
    else {}

def checkSafety (contract : ScaleUnitContract) (current : Int) : Option LoadSafetyObservation → Findings
  | none =>
    if contract.safetyRequired then
      ⟨[missing contentDigest .safety ⟨"safety:missing",by decide⟩
        "\x7b\"kind\":\"safety\",\"state\":\"missing\"\x7d" "overload_shedding_active"],
        [.overloadSheddingActive]⟩
    else {}
  | some safety =>
    if contract.safetyRequired then
      if !safety.fresh current then
        ⟨[safety.evidence .safety .stale "safety_stale"],[.overloadSheddingActive]⟩
      else
        ⟨[safety.evidence .safety .accepted "safety"],
          (if safety.overloaded then [.overloadSheddingActive] else []) ++
          (if safety.noisyNeighbor then [.noisyNeighbor] else [])⟩
    else {}

end

/-- The model's own checks of the values given to `ScaleDecision`. -/
def validateDecision (d : ScaleDecision) : Except ScaleError Unit :=
  if d.currentReplicas < 0 ∨ maxReplicas < d.currentReplicas ∨ d.desiredReplicas < 0 ∨
      maxReplicas < d.desiredReplicas then
    .error ⟨.validationError,"replica count is outside bounds"⟩
  else if d.action = .scaleUp ∧ d.desiredReplicas ≤ d.currentReplicas then
    .error ⟨.validationError,"scale_up must increase replicas"⟩
  else if d.action = .scaleDown ∧ d.desiredReplicas ≥ d.currentReplicas then
    .error ⟨.validationError,"scale_down must decrease replicas"⟩
  else if d.action = .hold ∧ d.desiredReplicas ≠ d.currentReplicas then
    .error ⟨.validationError,"hold must preserve replica count"⟩
  else if d.action = .blocked ∧ d.reasons = [] then
    .error ⟨.validationError,"blocked decisions require reasons"⟩
  else if (d.action = .scaleUp ∨ d.action = .scaleDown) ∧ d.reasons = [] then
    .error ⟨.validationError,"scale decisions require a reason"⟩
  else .ok ()

/-- `_decision`; `evaluated_at` comes from `_utc` and passes it again. -/
def decision (contract : ScaleUnitContract) (current desired : Int) (action : ActionKind)
    (reasons : List DecisionReason) (evidence : List DecisionEvidence) (drainRequired : Bool)
    (evaluatedAt : Int) : Except ScaleError ScaleDecision := do
  let normalized := reasons.eraseDups.take maxReasons
  let d : ScaleDecision :=
    { contractId := contract.contractId
      evaluatedAt := evaluatedAt
      currentReplicas := current
      desiredReplicas := desired
      action := action
      reasons := if action = .blocked ∧ normalized = [] then [.invalidBounds] else normalized
      drainRequired := drainRequired
      evidence := evidence.take maxEvidence }
  discard (utc (.utc evaluatedAt) "evaluated_at")
  validateDecision d
  return d

/-- `_ScaleDecisionContext` -/
structure DecisionContext where
  contract : ScaleUnitContract
  (currentReplicas current : Int)
  evidence : List DecisionEvidence

def terminalDecision (ctx : DecisionContext) (action : ActionKind) (reasons : List DecisionReason)
    (drainRequired : Bool := false) : Except ScaleError ScaleDecision :=
  decision ctx.contract ctx.currentReplicas ctx.currentReplicas action reasons ctx.evidence drainRequired ctx.current

def capacityExhaustionReasons (capMap : List CapacityObservation) (additional : Int) :
    List CapacityDemand → Except ScaleError (List DecisionReason)
  | [] => .ok []
  | demand :: rest => do
    let observation ← capacityIndex capMap demand.axis
    if additional * demand.perReplica > observation.available then return [.capacityExhausted]
    capacityExhaustionReasons capMap additional rest

def quotaGrowthReasons (quotaMap : List QuotaObservation) (additional : Int) :
    List QuotaBinding → Except ScaleError (List DecisionReason)
  | [] => .ok []
  | binding :: rest => do
    let observation ← quotaIndex quotaMap binding.quotaRef
    let grown : Int := observation.used + additional * binding.perReplica
    let reasons :=
      if binding.scope = .providerGlobal then
        (if binding.multiplicative then [.providerQuotaNotMultiplicative] else []) ++
        (if grown > observation.limit then [.providerQuotaExhausted] else [])
      else if grown > observation.limit then [.capacityExhausted] else []
    return reasons ++ (← quotaGrowthReasons quotaMap additional rest)

def engineAuthorityReasons (capMap : List CapacityObservation) :
    List CapacityAxis → Except ScaleError (List DecisionReason)
  | [] => .ok []
  | axis :: rest => do
    let observation ← capacityIndex capMap axis
    if observation.available ≤ 0 then return [.engineAuthoritySaturated]
    engineAuthorityReasons capMap rest

def scaleUpReasons (contract : ScaleUnitContract) (capMap : List CapacityObservation)
    (quotaMap : List QuotaObservation) (additional : Int) (quotaState : QuotaCheckState) :
    Except ScaleError (List DecisionReason) := do
  let capacity ← capacityExhaustionReasons capMap additional contract.replicaDemands
  let growth ← quotaGrowthReasons quotaMap additional contract.quotas
  let engine ← engineAuthorityReasons capMap contract.engineAuthorityAxes
  return capacity ++ (if quotaState.providerQuotaExhausted then [.providerQuotaExhausted] else []) ++
    (if quotaState.localQuotaExhausted then [.capacityExhausted] else []) ++ growth ++ engine

def checkScaleUpFeasibility (ctx : DecisionContext) (capMap : List CapacityObservation)
    (quotaMap : List QuotaObservation) (desired : Int) (quotaState : QuotaCheckState) :
    Except ScaleError (Option ScaleDecision) := do
  let reasons ← scaleUpReasons ctx.contract capMap quotaMap (desired - ctx.currentReplicas) quotaState
  if reasons ≠ [] then
    return some (← terminalDecision ctx .blocked reasons)
  return none

def resolveScaleTarget (policy : ScalePolicy) (currentReplicas rawDesired : Int) : Option (Int × ActionKind) :=
  if rawDesired > currentReplicas then
    some (min (currentReplicas + policy.scaleUpStep) rawDesired,.scaleUp)
  else if rawDesired < currentReplicas then
    some (max (currentReplicas - policy.scaleDownStep) rawDesired,.scaleDown)
  else none

def adjustScaleToZero (ctx : DecisionContext) (policy : ScalePolicy) (desired : Int) :
    Except ScaleError (Int × Option ScaleDecision) := do
  if desired ≠ 0 ∨ policy.allowScaleToZero then
    return (desired,none)
  let clamped := max 1 policy.minReplicas
  if clamped = ctx.currentReplicas then
    return (clamped,some (← terminalDecision ctx .hold [.scaleToZeroDisabled]))
  return (clamped,none)

def sessionsBlockDrain (contract : ScaleUnitContract) (continuity : Option ContinuityObservation) : Bool :=
  continuity.any fun c => contract.continuity.blockScaleDownWithActive && c.activeSessions + c.activeStreams > 0

def evaluateScaleDownGates (ctx : DecisionContext) (policy : ScalePolicy) (desired : Int)
    (continuity : Option ContinuityObservation) : Except ScaleError (Int × Option ScaleDecision) := do
  let (desired,blocked) ← adjustScaleToZero ctx policy desired
  if blocked.isSome then return (desired,blocked)
  if sessionsBlockDrain ctx.contract continuity then
    return (desired,some (← terminalDecision ctx .blocked [.activeSessionsBlockDrain] true))
  return (desired,none)

def cooldownOf (policy : ScalePolicy) (action : ActionKind) : Nat :=
  if action = .scaleUp then policy.scaleUpCooldownS else policy.scaleDownCooldownS

/-- `(current - previous).total_seconds() < cooldown`; the seconds are a float. -/
def coolingDown (current previous : Int) (cooldown : Nat) : Bool :=
  match FloatingPoint.binary64.round (((current - previous : Int) : ℚ) / 1000000) with
  | some seconds => seconds < cooldown
  | none => false

def checkCooldown (ctx : DecisionContext) (policy : ScalePolicy) (action : ActionKind)
    (lastActionAt : Option DateTime) : Except ScaleError (Option ScaleDecision) := do
  match lastActionAt with
  | none => return none
  | some last =>
    let previous ← utc last "last_action_at"
    if coolingDown ctx.current previous (cooldownOf policy action) then
      return some (← terminalDecision ctx .hold [.cooldown])
    return none

def finalizeScaleDecision (ctx : DecisionContext) (capMap : List CapacityObservation)
    (quotaMap : List QuotaObservation) (action : ActionKind) (desired : Int) (quotaState : QuotaCheckState) :
    Except ScaleError ScaleDecision := do
  if action = .scaleUp then
    if let some blocked ← checkScaleUpFeasibility ctx capMap quotaMap desired quotaState then
      return blocked
  let drainRequired := action = .scaleDown && ctx.contract.continuity.drainRequired
  if drainRequired && ctx.contract.policy.drainSeconds > ctx.contract.continuity.maxDrainSeconds then
    terminalDecision ctx .blocked [.drainRequired] true
  else
    decision ctx.contract ctx.currentReplicas desired action [.targetTracking] ctx.evidence drainRequired ctx.current

def computeScaleDecision (ctx : DecisionContext) (signal : Option SignalObservation)
    (capMap : List CapacityObservation) (quotaMap : List QuotaObservation)
    (continuity : Option ContinuityObservation) (lastActionAt : Option DateTime)
    (quotaState : QuotaCheckState) : Except ScaleError ScaleDecision := do
  let some signal := signal
    | throw ⟨.scaleContractError,"signal validation unexpectedly completed without a signal"⟩
  let policy := ctx.contract.policy
  let rawDesired ← targetReplicas policy signal.value
  let some (desired,action) := resolveScaleTarget policy ctx.currentReplicas rawDesired
    | terminalDecision ctx .hold [.atTarget]
  if action = .scaleUp ∧ ctx.currentReplicas = 0 ∧ !policy.allowScaleFromZero then
    terminalDecision ctx .blocked [.scaleFromZeroDisabled]
  else
    let mut desired := desired
    if action = .scaleDown then
      let (clamped,blocked) ← evaluateScaleDownGates ctx policy desired continuity
      if let some blocked := blocked then return blocked
      desired := clamped
    if let some held ← checkCooldown ctx policy action lastActionAt then return held
    finalizeScaleDecision ctx capMap quotaMap action desired quotaState

/-- What the five checks find, in their order. -/
def findings (contentDigest : String → Digest) (i : ScaleInputs) (capMap : List CapacityObservation)
    (quotaMap : List QuotaObservation) (current : Int) : Findings :=
  checkSignal contentDigest i.contract current i.signal ++
    checkCapacityAxes contentDigest i.contract capMap current ++
    (checkQuotas contentDigest i.contract quotaMap current).1 ++
    checkContinuity contentDigest i.contract current i.continuity ++
    checkSafety contentDigest i.contract current i.safety

/-- The reason a last action after `now` adds. -/
def lateReasons (lastActionAt : Option DateTime) (current : Int) : Except ScaleError (List DecisionReason) := do
  match lastActionAt with
  | none => return []
  | some last =>
    let previous ← utc last "last_action_at"
    return if previous > current then [.cooldown] else []

def evaluateScale (contentDigest : String → Digest) (i : ScaleInputs) : Except ScaleError ScaleDecision := do
  let current ← utc i.now "now"
  if i.currentReplicas < 0 ∨ i.currentReplicas > maxReplicas then
    throw ⟨.scaleContractError,"current_replicas is outside bounds"⟩
  if i.currentReplicas < i.contract.policy.minReplicas then
    throw ⟨.scaleContractError,"current_replicas is below the contract floor"⟩
  let capMap ← capacityMap i.capacities
  let quotaMap ← quotaMap i.quotas
  let found := findings contentDigest i capMap quotaMap current
  let late ← lateReasons i.lastActionAt current
  let ctx : DecisionContext := ⟨i.contract,i.currentReplicas,current,found.evidence⟩
  if found.reasons ++ late ≠ [] then
    terminalDecision ctx .blocked (found.reasons ++ late)
  else
    computeScaleDecision ctx i.signal capMap quotaMap i.continuity i.lastActionAt
      (checkQuotas contentDigest i.contract quotaMap current).2

end Arbora.Scaling
