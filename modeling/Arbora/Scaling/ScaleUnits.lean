import Arbora.Scaling.IntentRecords
import Mathlib.Algebra.Group.Nat.Defs
import Mathlib.Data.List.Nodup
import Mathlib.Data.List.Infix

/-! Service scale units: contracts, their surface profiles and the observations a decision is made from. -/
namespace Arbora.Scaling

def maxReplicas : Int := 10000
def maxReasons : Nat := 16
def maxEvidence : Nat := 64

inductive SurfaceKind where
  | ingestWorker | dispatchWorker | arboraGateway | mcpGateway | apiGateway | queryReader
  | connectorPool | mediaPool | rlmPool

inductive SignalKind where
  | queueDepth | consumerLag | backlogAgeMs | requestRate | inFlight | p95LatencyMs | errorRatePpm
  | activeSessions | continuityLoad | providerInFlight | gpuUtilizationPpm
  deriving DecidableEq

def SignalKind.name : SignalKind → String
  | .queueDepth => "queue_depth" | .consumerLag => "consumer_lag" | .backlogAgeMs => "backlog_age_ms"
  | .requestRate => "request_rate" | .inFlight => "in_flight" | .p95LatencyMs => "p95_latency_ms"
  | .errorRatePpm => "error_rate_ppm" | .activeSessions => "active_sessions"
  | .continuityLoad => "continuity_load" | .providerInFlight => "provider_in_flight"
  | .gpuUtilizationPpm => "gpu_utilization_ppm"

inductive CapacityAxis where
  | cpuMilli | memoryMib | gpuCount | gpuMemoryMib | partitionSlots | leaseSlots | engineBytes
  | engineWriteBytesPerS | fsyncIops | readAdmissionSlots | sessionSlots | continuitySlots
  | upstreamRate | providerGlobalQuota
  deriving DecidableEq

def CapacityAxis.name : CapacityAxis → String
  | .cpuMilli => "cpu_milli" | .memoryMib => "memory_mib" | .gpuCount => "gpu_count"
  | .gpuMemoryMib => "gpu_memory_mib" | .partitionSlots => "partition_slots" | .leaseSlots => "lease_slots"
  | .engineBytes => "engine_bytes" | .engineWriteBytesPerS => "engine_write_bytes_per_s"
  | .fsyncIops => "fsync_iops" | .readAdmissionSlots => "read_admission_slots"
  | .sessionSlots => "session_slots" | .continuitySlots => "continuity_slots"
  | .upstreamRate => "upstream_rate" | .providerGlobalQuota => "provider_global_quota"

inductive QuotaScope where
  | unit | tenant | engineGlobal | providerGlobal
  deriving DecidableEq

def QuotaScope.name : QuotaScope → String
  | .unit => "unit" | .tenant => "tenant" | .engineGlobal => "engine_global"
  | .providerGlobal => "provider_global"

inductive ContinuityMode where
  | stateless | sessionAffine | externalized
  deriving DecidableEq

def ContinuityMode.name : ContinuityMode → String
  | .stateless => "stateless" | .sessionAffine => "session_affine" | .externalized => "externalized"

inductive ActionKind where
  | scaleUp | scaleDown | hold | blocked
  deriving DecidableEq

inductive EvidenceKind where
  | signal | capacity | quota | continuity | safety

inductive EvidenceStatus where
  | accepted | missing | stale | blocked

inductive DecisionReason where
  | atTarget | cooldown | signalMissing | signalStale | signalMismatch | capacityMissing
  | capacityStale | capacityExhausted | engineAuthoritySaturated | providerQuotaMissing
  | providerQuotaStale | providerQuotaExhausted | providerQuotaNotMultiplicative | quotaMissing
  | quotaStale | quotaScopeMismatch | continuityMissing | continuityStale | continuityNotReady
  | activeSessionsBlockDrain | scaleFromZeroDisabled | scaleToZeroDisabled | drainRequired
  | overloadSheddingActive | noisyNeighbor | partitionLeaseMissing | invalidBounds | targetTracking
  deriving DecidableEq

inductive ScaleErrorKind where
  | scaleContractError | valueError | overflowError | keyError | validationError

structure ScaleError where
  kind : ScaleErrorKind
  message : String

/-- The words `_SENSITIVE_RE` looks for. -/
def sensitiveWords : List String :=
  ["authorization","bearer","cookie","password","passwd","privatekey","private_key","private-key",
    "secret","token=","token:","apikey","api_key","api-key","rawbody","raw_body","raw-body",
    "rawspan","raw_span","raw-span","rawlog","raw_log","raw-log"]

def isRefChar (c : Char) : Bool :=
  c.isAlphanum || c == '.' || c == '_' || c == ':' || c == '/' || c == '@' || c == '+' || c == '-'

/-- What `_ref` accepts; the sensitive words are looked for in any case. -/
def isRef (value : String) : Bool :=
  let lower := value.toList.map Char.toLower
  value.length ≤ 256 && (value.toList.head?.any Char.isAlphanum) && value.toList.all isRefChar &&
    !sensitiveWords.any fun word => lower.tails.any (word.toList.isPrefixOf ·)

private def isHexDigit (c : Char) : Bool := ('0' ≤ c && c ≤ '9') || ('a' ≤ c && c ≤ 'f')

/-- What `_digest` accepts. -/
def isDigest (value : String) : Bool :=
  value.toList.take 7 == "sha256:".toList && value.length == 71 && (value.toList.drop 7).all isHexDigit

abbrev Ref := {value : String // isRef value = true}
abbrev Digest := {value : String // isDigest value = true}

def supportedFrom : Int := 946684800 * 1000000
def supportedUntil : Int := 10445328000 * 1000000

def utc (value : DateTime) (name : String) : Except ScaleError Int :=
  match value with
  | .naive => .error ⟨.valueError,name ++ " must be timezone-aware"⟩
  | .outside => .error ⟨.overflowError,"date value out of range"⟩
  | .utc t =>
    if t < supportedFrom ∨ supportedUntil ≤ t then
      .error ⟨.valueError,name ++ " is outside the supported time range"⟩
    else .ok t

theorem utc_ok_iff {value : DateTime} {name : String} {t : Int} :
    utc value name = .ok t ↔ value = .utc t ∧ supportedFrom ≤ t ∧ t < supportedUntil := by
  cases value with
  | naive => simp [utc]
  | outside => simp [utc]
  | utc s =>
    simp only [utc]
    split_ifs with h
    · constructor
      · intro hx
        cases hx
      · rintro ⟨hs,hfrom,huntil⟩
        cases hs
        omega
    · constructor
      · intro hx
        cases hx
        exact ⟨rfl,by omega,by omega⟩
      · rintro ⟨hs,_⟩
        cases hs
        rfl

structure ScalePolicy where
  minReplicas : Int := 1
  maxReplicas : Int := 1
  target : Nat
  targetSignal : SignalKind
  scaleUpStep : Int := 1
  scaleDownStep : Int := 1
  scaleUpCooldownS : Nat := 30
  scaleDownCooldownS : Nat := 300
  drainSeconds : Nat := 60
  allowScaleToZero : Bool := false
  allowScaleFromZero : Bool := true
  replicas : 0 ≤ minReplicas ∧ minReplicas ≤ maxReplicas ∧ 1 ≤ maxReplicas ∧ maxReplicas ≤ 10000
  targetBounds : 0 < target ∧ target ≤ 10 ^ 12
  steps : 0 < scaleUpStep ∧ scaleUpStep ≤ maxReplicas ∧ 0 < scaleDownStep ∧ scaleDownStep ≤ maxReplicas
  seconds : scaleUpCooldownS ≤ 86400 ∧ scaleDownCooldownS ≤ 86400 ∧ drainSeconds ≤ 86400
  zeroFloor : allowScaleToZero = true → minReplicas = 0

structure CapacityDemand where
  axis : CapacityAxis
  perReplica : Nat
  bounded : perReplica ≤ 10 ^ 15

structure QuotaBinding where
  quotaRef : Ref
  axis : CapacityAxis
  scope : QuotaScope
  perReplica : Nat
  multiplicative : Bool := false
  bounded : perReplica ≤ 10 ^ 15
  globalQuota : scope = .providerGlobal → multiplicative = false ∧ perReplica ≠ 0

structure PartitionLeaseContract where
  partitioned : Bool := false
  partitionsPerReplica : Nat := 0
  leaseRequired : Bool := false
  leaseTtlS : Nat := 0
  fencingRequired : Bool := false
  bounded : partitionsPerReplica ≤ 10 ^ 6 ∧ leaseTtlS ≤ 86400
  partitions : partitioned = true → 1 ≤ partitionsPerReplica
  leases : leaseRequired = true → 1 ≤ leaseTtlS ∧ fencingRequired = true
  fencing : fencingRequired = true → leaseRequired = true

structure ContinuityContract where
  mode : ContinuityMode
  externalStoreRef : Option Ref := none
  drainRequired : Bool := true
  blockScaleDownWithActive : Bool := true
  maxDrainSeconds : Nat := 300
  bounded : maxDrainSeconds ≤ 86400
  store : mode = .externalized ↔ externalStoreRef.isSome = true
  statelessNeverBlocks : mode = .stateless → blockScaleDownWithActive = false

/-- When and by whom something was observed: `observed_at`, `expires_at`, `source_ref` and
`source_digest` of every observation. -/
structure Sighting where
  (observedAt expiresAt : Int)
  sourceRef : Ref
  sourceDigest : Digest
  observedSupported : supportedFrom ≤ observedAt ∧ observedAt < supportedUntil
  expiresSupported : supportedFrom ≤ expiresAt ∧ expiresAt < supportedUntil
  window : observedAt < expiresAt

structure SignalObservation extends Sighting where
  signal : SignalKind
  value : Nat
  bounded : signal = .errorRatePpm ∨ signal = .gpuUtilizationPpm → value ≤ 1000000

structure CapacityObservation extends Sighting where
  axis : CapacityAxis
  (allocatable reserved used : Nat)
  capacity : used ≤ reserved ∧ reserved ≤ allocatable ∧ allocatable ≤ 10 ^ 15

def CapacityObservation.available (o : CapacityObservation) : Int := o.allocatable - o.reserved

structure QuotaObservation extends Sighting where
  quotaRef : Ref
  scope : QuotaScope
  (limit used : Nat)
  quota : used ≤ limit ∧ limit ≤ 10 ^ 15

structure ContinuityObservation extends Sighting where
  ready : Bool
  (activeSessions activeStreams : Nat)
  bounded : activeSessions ≤ 10 ^ 12 ∧ activeStreams ≤ 10 ^ 12

structure LoadSafetyObservation extends Sighting where
  (overloaded noisyNeighbor : Bool)
  reasonRef : Option Ref := none
  reasoned : overloaded = true ∨ noisyNeighbor = true → reasonRef.isSome = true

structure SurfaceProfile where
  allowedSignals : List SignalKind
  requiredCapacityAxes : List CapacityAxis
  engineAuthorityAxes : List CapacityAxis := []
  continuityModes : List ContinuityMode
  partitionLeaseRequired : Bool := false
  providerQuotaRequired : Bool := false
  providerQuotaAxes : List CapacityAxis := []

def surfaceProfile : SurfaceKind → SurfaceProfile
  | .ingestWorker =>
    { allowedSignals := [.queueDepth,.consumerLag,.backlogAgeMs,.p95LatencyMs]
      requiredCapacityAxes :=
        [.cpuMilli,.memoryMib,.partitionSlots,.leaseSlots,.engineWriteBytesPerS,.fsyncIops]
      engineAuthorityAxes := [.engineWriteBytesPerS,.fsyncIops]
      continuityModes := [.stateless,.externalized]
      partitionLeaseRequired := true }
  | .dispatchWorker =>
    { allowedSignals := [.queueDepth,.consumerLag,.activeSessions,.p95LatencyMs]
      requiredCapacityAxes := [.cpuMilli,.memoryMib,.partitionSlots,.leaseSlots]
      continuityModes := [.stateless,.externalized]
      partitionLeaseRequired := true }
  | .arboraGateway =>
    { allowedSignals := [.requestRate,.inFlight,.p95LatencyMs,.errorRatePpm]
      requiredCapacityAxes :=
        [.cpuMilli,.memoryMib,.sessionSlots,.readAdmissionSlots,.engineBytes,.fsyncIops]
      engineAuthorityAxes := [.readAdmissionSlots,.engineBytes,.fsyncIops]
      continuityModes := [.sessionAffine,.externalized] }
  | .mcpGateway =>
    { allowedSignals := [.requestRate,.inFlight,.p95LatencyMs,.activeSessions,.continuityLoad,
        .providerInFlight,.errorRatePpm]
      requiredCapacityAxes := [.cpuMilli,.memoryMib,.sessionSlots,.continuitySlots]
      continuityModes := [.sessionAffine,.externalized]
      providerQuotaRequired := true
      providerQuotaAxes := [.providerGlobalQuota] }
  | .apiGateway =>
    { allowedSignals := [.requestRate,.inFlight,.p95LatencyMs,.errorRatePpm]
      requiredCapacityAxes := [.cpuMilli,.memoryMib,.sessionSlots]
      continuityModes := [.stateless,.externalized] }
  | .queryReader =>
    { allowedSignals := [.requestRate,.inFlight,.p95LatencyMs,.errorRatePpm]
      requiredCapacityAxes := [.cpuMilli,.memoryMib,.readAdmissionSlots,.engineBytes,.fsyncIops]
      engineAuthorityAxes := [.readAdmissionSlots,.engineBytes,.fsyncIops]
      continuityModes := [.stateless,.externalized] }
  | .connectorPool =>
    { allowedSignals := [.queueDepth,.consumerLag,.requestRate,.providerInFlight,.p95LatencyMs,
        .errorRatePpm]
      requiredCapacityAxes := [.cpuMilli,.memoryMib,.upstreamRate]
      continuityModes := [.stateless,.externalized]
      providerQuotaRequired := true
      providerQuotaAxes := [.upstreamRate,.providerGlobalQuota] }
  | .mediaPool =>
    { allowedSignals := [.queueDepth,.requestRate,.gpuUtilizationPpm,.p95LatencyMs]
      requiredCapacityAxes := [.cpuMilli,.memoryMib,.gpuCount,.gpuMemoryMib]
      continuityModes := [.stateless,.externalized] }
  | .rlmPool =>
    { allowedSignals := [.queueDepth,.requestRate,.gpuUtilizationPpm,.activeSessions]
      requiredCapacityAxes := [.cpuMilli,.memoryMib,.gpuCount,.gpuMemoryMib]
      continuityModes := [.stateless,.externalized] }

/-- A contract as its validators leave it; `contractId` is stamped from its other fields. -/
structure ScaleUnitContract where
  unitRef : Ref
  surface : SurfaceKind
  version : Nat := 1
  policy : ScalePolicy
  allowedSignals : List SignalKind
  requiredCapacityAxes : List CapacityAxis
  replicaDemands : List CapacityDemand
  quotas : List QuotaBinding := []
  partitionLease : PartitionLeaseContract
  continuity : ContinuityContract
  safetyRequired : Bool := true
  engineAuthorityAxes : List CapacityAxis := []
  contractId : Ref
  versionBounds : 0 < version ∧ version ≤ 2 ^ 31 - 1
  lengths : allowedSignals.length ≤ 16 ∧ requiredCapacityAxes.length ≤ 32 ∧ replicaDemands.length ≤ 32 ∧
    quotas.length ≤ 16 ∧ engineAuthorityAxes.length ≤ 32
  signalsUnique : allowedSignals.Nodup
  signalVocabulary : allowedSignals ≠ [] ∧ allowedSignals ⊆ (surfaceProfile surface).allowedSignals
  targetAllowed : policy.targetSignal ∈ allowedSignals
  axesUnique : requiredCapacityAxes.Nodup
  axesCover : (surfaceProfile surface).requiredCapacityAxes ⊆ requiredCapacityAxes
  engineRequired : (surfaceProfile surface).engineAuthorityAxes ⊆ requiredCapacityAxes
  engineUnique : engineAuthorityAxes.Nodup
  engineDeclared : ∀ axis, axis ∈ engineAuthorityAxes ↔ axis ∈ (surfaceProfile surface).engineAuthorityAxes
  continuityMode : continuity.mode ∈ (surfaceProfile surface).continuityModes
  leased : (surfaceProfile surface).partitionLeaseRequired = true →
    partitionLease.partitioned = true ∧ partitionLease.leaseRequired = true ∧
    partitionLease.fencingRequired = true
  demandsUnique : (replicaDemands.map (·.axis)).Nodup
  demandsCover : requiredCapacityAxes ⊆ replicaDemands.map (·.axis)
  quotasUnique : (quotas.map (·.quotaRef)).Nodup
  providerQuota : (surfaceProfile surface).providerQuotaRequired = true →
    ∃ quota ∈ quotas, quota.scope = .providerGlobal ∧ quota.axis ∈ (surfaceProfile surface).providerQuotaAxes

theorem ScaleUnitContract.engine_required (c : ScaleUnitContract) :
    c.engineAuthorityAxes ⊆ c.requiredCapacityAxes := by
  intro axis h
  exact c.engineRequired ((c.engineDeclared axis).mp h)

structure DecisionEvidence where
  kind : EvidenceKind
  ref : Ref
  digest : Digest
  status : EvidenceStatus
  code : String

structure ScaleDecision where
  contractId : Ref
  (evaluatedAt currentReplicas desiredReplicas : Int)
  action : ActionKind
  reasons : List DecisionReason
  drainRequired : Bool
  evidence : List DecisionEvidence

end Arbora.Scaling
