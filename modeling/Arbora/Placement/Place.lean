import Arbora.Placement.ResourcePools
import Mathlib.Data.List.MinMax
import Mathlib.Data.Prod.Lex

/-! The checks a snapshot is put through and the choice of a pool among those that pass. -/
namespace Arbora.Placement
open Arbora.Scaling (Digest DateTime ScaleError isRef utc utc_ok_iff)

inductive DenialReason where
  | futureSnapshot | staleSnapshot | unverifiedAttestation | forgedAttestation | unsupportedArchitecture
  | missingIsa | unknownCpu | insufficientCpu | unknownMemory | insufficientMemory | gpuUnavailable
  | gpuRuntimeMismatch | gpuMigUnavailable | unknownGpu | nvmeUnavailable | nvmeIopsInsufficient
  | diskInsufficient | unknownStorage | networkInsufficient | unknownNetwork | energyLimit | unknownEnergy
  | costLimit | unknownCost
  deriving DecidableEq

def DenialReason.value : DenialReason → String
  | .futureSnapshot => "future_snapshot" | .staleSnapshot => "stale_snapshot"
  | .unverifiedAttestation => "unverified_attestation" | .forgedAttestation => "forged_attestation"
  | .unsupportedArchitecture => "unsupported_architecture" | .missingIsa => "missing_isa"
  | .unknownCpu => "unknown_cpu" | .insufficientCpu => "insufficient_cpu" | .unknownMemory => "unknown_memory"
  | .insufficientMemory => "insufficient_memory" | .gpuUnavailable => "gpu_unavailable"
  | .gpuRuntimeMismatch => "gpu_runtime_mismatch" | .gpuMigUnavailable => "gpu_mig_unavailable"
  | .unknownGpu => "unknown_gpu" | .nvmeUnavailable => "nvme_unavailable"
  | .nvmeIopsInsufficient => "nvme_iops_insufficient" | .diskInsufficient => "disk_insufficient"
  | .unknownStorage => "unknown_storage" | .networkInsufficient => "network_insufficient"
  | .unknownNetwork => "unknown_network" | .energyLimit => "energy_limit" | .unknownEnergy => "unknown_energy"
  | .costLimit => "cost_limit" | .unknownCost => "unknown_cost"

section

def known (accounting : ResourceAccounting) : Bool :=
  [accounting.allocatable,accounting.reserved,accounting.used].all fun amount => amount.state = .known

def amountAtLeast (amount : ResourceAmount) (minimum : ℕ) : Bool :=
  amount.state = .known && match amount.value with
  | none => false
  | some value => minimum ≤ value

def lacks (accounting : ResourceAccounting) (minimum : ℕ) : Bool :=
  match accounting.available with
  | none => true
  | some available => available < minimum

def exceeds (amount : ResourceAmount) (limit : ℕ) : Bool :=
  match amount.value with
  | none => true
  | some value => limit < value

def checkAccounting (accounting : ResourceAccounting) (minimum : ℕ) (unknown insufficient : DenialReason) :
    List DenialReason :=
  if known accounting = false then [unknown]
  else if lacks accounting minimum then [insufficient]
  else []

variable (snapshot : ResourcePoolSnapshot) (requirement : PlacementRequirement)

def checkSnapshotFreshnessAndAttestation (now : Instant) : List DenialReason :=
  (if now.1 < snapshot.observedAt.1 then [.futureSnapshot]
   else if snapshot.expiresAt.1 ≤ now.1 then [.staleSnapshot]
   else []) ++
  (if snapshot.attestation.status = .invalid then [.forgedAttestation]
   else if snapshot.attestation.status ≠ .verified then [.unverifiedAttestation]
   else [])

def checkCpuCapability : List DenialReason :=
  let cpu := snapshot.capabilities.cpu
  (if requirement.architecture = none then []
   else if cpu.architectureState ≠ .known then [.unknownCpu]
   else if cpu.architecture ≠ requirement.architecture then [.unsupportedArchitecture]
   else []) ++
  (if requirement.requiredIsa.features = [] then []
   else if cpu.isaState ≠ .known then [.unknownCpu]
   else if requirement.requiredIsa.features.any fun feature => feature ∉ cpu.isa.features then [.missingIsa]
   else []) ++
  checkAccounting cpu.accounting requirement.cpuMilli .unknownCpu .insufficientCpu

def checkMemoryCapability : List DenialReason :=
  checkAccounting snapshot.capabilities.memory requirement.memoryMib .unknownMemory .insufficientMemory
def checkDiskCapacity (disk : ResourceAccounting) (requiredMib : ℕ) : List DenialReason :=
  if requiredMib = 0 then [] else checkAccounting disk requiredMib .unknownStorage .diskInsufficient

def checkDiskIops (amount : ResourceAmount) (required : ℕ) : List DenialReason :=
  if required ≠ 0 ∧ amountAtLeast amount required = false then
    [if amount.state ≠ .known then .unknownStorage else .diskInsufficient]
  else []

def checkStorageDiskCapability : List DenialReason :=
  let storage := snapshot.capabilities.storage
  checkDiskCapacity storage.disk requirement.diskMib ++
  checkDiskIops storage.diskReadIops requirement.diskReadIops ++
  checkDiskIops storage.diskWriteIops requirement.diskWriteIops

def checkGpuMigProfile (gpu : GpuCapability) (required : GpuRequirement) : List DenialReason :=
  match required.migProfileRef with
  | none => []
  | some ref =>
    match gpu.migProfiles.filter fun profile => profile.profileRef = ref with
    | [] => [.gpuMigUnavailable]
    | profile :: _ => if amountAtLeast profile.count required.count then [] else [.gpuMigUnavailable]

def checkGpuKnownCapacity (gpu : GpuCapability) (required : GpuRequirement) : List DenialReason :=
  (if amountAtLeast gpu.deviceCount required.count then [] else [.gpuUnavailable]) ++
  (if required.runtime ≠ none ∧ gpu.runtime ≠ required.runtime then [.gpuRuntimeMismatch] else []) ++
  (if required.memoryMib ≠ 0 ∧ lacks gpu.memory required.memoryMib then
    [if known gpu.memory = false then .unknownGpu else .gpuUnavailable]
   else []) ++
  checkGpuMigProfile gpu required

def checkGpuCapability : List DenialReason :=
  let gpu := snapshot.capabilities.gpu
  if requirement.gpu.count = 0 then []
  else if gpu.state = .absent then [.gpuUnavailable]
  else if gpu.state ≠ .known then [.unknownGpu]
  else checkGpuKnownCapacity gpu requirement.gpu

def checkNvmeCapability : List DenialReason :=
  let storage := snapshot.capabilities.storage
  let required := requirement.nvme
  if required.required = false then []
  else if storage.nvmeState = .absent then [.nvmeUnavailable]
  else if storage.nvmeState ≠ .known then [.unknownStorage]
  else
    (if amountAtLeast storage.nvmeDeviceCount required.deviceCount then [] else [.nvmeUnavailable]) ++
    (if amountAtLeast storage.nvmeReadIops required.readIops then [] else [.nvmeIopsInsufficient]) ++
    (if amountAtLeast storage.nvmeWriteIops required.writeIops then [] else [.nvmeIopsInsufficient])

def networkRequirementActive (required : NetworkRequirement) : Bool :=
  required.ingressMbps ≠ 0 || required.egressMbps ≠ 0 || required.maxLatencyUs ≠ none

def checkNetworkThresholds (network : NetworkCapability) (required : NetworkRequirement) : Option DenialReason :=
  if network.state ≠ .known then some .unknownNetwork
  else if amountAtLeast network.ingressMbps required.ingressMbps = false then some .networkInsufficient
  else if amountAtLeast network.egressMbps required.egressMbps = false then some .networkInsufficient
  else match required.maxLatencyUs with
  | none => none
  | some limit =>
    if network.latencyUs.state ≠ .known ∨ exceeds network.latencyUs limit then some .networkInsufficient else none

def checkNetworkCapability : List DenialReason :=
  if networkRequirementActive requirement.network = false then []
  else (checkNetworkThresholds snapshot.capabilities.network requirement.network).toList

def checkLimit (state : CapabilityState) (amount : ResourceAmount) (limit : Option ℕ)
    (unknown exceeded : DenialReason) : List DenialReason :=
  match limit with
  | none => []
  | some limit =>
    if state ≠ .known ∨ amountAtLeast amount 0 = false then [unknown]
    else if exceeds amount limit then [exceeded]
    else []

def checkEnergyCapability : List DenialReason :=
  let energy := snapshot.capabilities.energy
  checkLimit energy.state energy.maxPowerWatts requirement.maxPowerWatts .unknownEnergy .energyLimit

def checkCostCapability : List DenialReason :=
  let cost := snapshot.capabilities.cost
  checkLimit cost.state cost.microsPerHour requirement.maxCostMicrosPerHour .unknownCost .costLimit

def checkSnapshot (now : Instant) : List DenialReason :=
  let reasons := checkSnapshotFreshnessAndAttestation snapshot now ++ checkCpuCapability snapshot requirement ++
    checkMemoryCapability snapshot requirement ++ checkStorageDiskCapability snapshot requirement ++
    checkGpuCapability snapshot requirement ++ checkNvmeCapability snapshot requirement ++
    checkNetworkCapability snapshot requirement ++ checkEnergyCapability snapshot requirement ++
    checkCostCapability snapshot requirement
  reasons.eraseDups.take maxDenialReasons

end

inductive DecisionStatus where
  | placed | denied
  deriving DecidableEq

structure PlacementEvidence where
  snapshotId : String
  snapshotDigest : Digest
  eligible : Bool
  denialReasons : List DenialReason

structure PlacementDecision where
  requirementId : String
  evaluatedAt : Instant
  status : DecisionStatus
  (selectedPoolRef selectedSnapshotId : Option String)
  selectedSnapshotDigest : Option Digest
  denialReasons : List DenialReason
  evidence : List PlacementEvidence
  candidateCount : ℕ
  evidenceTruncated : Bool

/-- What `place` raises: `_utc` on the time, the contract on the candidates, a record's validators. -/
inductive PlacementError where
  | time (e : ScaleError)
  | contract (message : String)
  | validation (model message : String)

def isBoundedRef (bound : ℕ) (text : String) : Bool :=
  decide (1 ≤ text.length ∧ text.length ≤ bound) && isRef text

def PlacementEvidence.validate (evidence : PlacementEvidence) : Except PlacementError PlacementEvidence :=
  if isBoundedRef 100 evidence.snapshotId = false then .error (.validation "PlacementEvidence" "snapshot_id")
  else if maxDenialReasons < evidence.denialReasons.length then
    .error (.validation "PlacementEvidence" "denial_reasons")
  else if evidence.eligible = true ∧ evidence.denialReasons ≠ [] then
    .error (.validation "PlacementEvidence" "eligible evidence cannot carry denial reasons")
  else if evidence.eligible = false ∧ evidence.denialReasons = [] then
    .error (.validation "PlacementEvidence" "denied evidence must expose a reason")
  else .ok evidence

namespace PlacementDecision

def fieldsValid (decision : PlacementDecision) : Bool :=
  isBoundedRef 100 decision.requirementId && decision.selectedPoolRef.all isRef &&
    decision.selectedSnapshotId.all (fun id => decide (id.length ≤ 100) && isRef id) &&
    decide (decision.denialReasons.length ≤ maxDenialReasons ∧ decision.evidence.length ≤ maxEvidence ∧
      decision.candidateCount ≤ maxCandidates)

def assertEvidenceShape (decision : PlacementDecision) : Except PlacementError Unit :=
  if decision.candidateCount < decision.evidence.length then
    .error (.validation "PlacementDecision" "evidence cannot contain more rows than candidates")
  else if decision.candidateCount ≤ maxEvidence ∧
      (decision.candidateCount ≠ decision.evidence.length ∨ decision.evidenceTruncated = true) then
    .error (.validation "PlacementDecision" "small candidate sets require complete evidence")
  else if maxEvidence < decision.candidateCount ∧ decision.evidenceTruncated = false then
    .error (.validation "PlacementDecision" "large candidate sets must declare evidence truncation")
  else if ¬(decision.evidence.map (·.snapshotId)).Nodup then
    .error (.validation "PlacementDecision" "placement evidence snapshot IDs must be unique")
  else .ok ()

def assertStatusConsistency (decision : PlacementDecision) : Except PlacementError Unit :=
  if decision.status = .placed then
    if decision.selectedPoolRef.getD "" = "" ∨ decision.selectedSnapshotId.getD "" = "" ∨
        decision.selectedSnapshotDigest = none then
      .error (.validation "PlacementDecision" "placed decision requires selected pool and snapshot")
    else if decision.denialReasons ≠ [] then
      .error (.validation "PlacementDecision" "placed decision cannot carry aggregate denial reasons")
    else .ok ()
  else if decision.denialReasons = [] then
    .error (.validation "PlacementDecision" "denied decision must expose denial reasons")
  else .ok ()

def validate (decision : PlacementDecision) : Except PlacementError PlacementDecision :=
  if decision.fieldsValid = false then .error (.validation "PlacementDecision" "fields")
  else do
    decision.assertEvidenceShape
    decision.assertStatusConsistency
    return decision

end PlacementDecision

/-- Headroom in decreasing order, then the digest. -/
def Rank := ℤ ×ₗ ℤ ×ₗ ℤ ×ₗ ℤ ×ₗ String

-- the integers' own order, which has code; that of their complete lattice has none
@[reducible] def integerThen (β : Type) (order : LinearOrder β) : LinearOrder (ℤ ×ₗ β) :=
  @Prod.Lex.instLinearOrder ℤ β Int.instLinearOrder order

instance : LinearOrder Rank := integerThen _ (integerThen _ (integerThen _ (integerThen _ String.instLinearOrder)))

def candidateRank (snapshot : ResourcePoolSnapshot) : Rank :=
  let capabilities := snapshot.capabilities
  toLex (-(capabilities.cpu.accounting.available.getD 0),toLex (-(capabilities.memory.available.getD 0),
    toLex (-(capabilities.gpu.deviceCount.value.getD 0 : ℤ),
      toLex (-(capabilities.storage.nvmeReadIops.value.getD 0 : ℤ),snapshot.snapshotDigest.1))))

def validatePlacementCandidates (candidates : List ResourcePoolSnapshot) : Except PlacementError Unit :=
  if maxCandidates < candidates.length then .error (.contract "placement candidate set exceeds bound")
  else if ¬(candidates.map (·.snapshotId)).Nodup then
    .error (.contract "placement candidates contain duplicate snapshots")
  else .ok ()

abbrev CheckedSnapshots := List (ResourcePoolSnapshot × List DenialReason)

def checkAllSnapshots (requirement : PlacementRequirement) (candidates : List ResourcePoolSnapshot)
    (current : Instant) : CheckedSnapshots :=
  (candidates.insertionSort fun a b => a.snapshotDigest.1 ≤ b.snapshotDigest.1).map fun snapshot =>
    (snapshot,checkSnapshot snapshot requirement current)

def buildAllEvidence (checked : CheckedSnapshots) : Except PlacementError (List PlacementEvidence) :=
  checked.mapM fun (snapshot,reasons) =>
    PlacementEvidence.validate ⟨snapshot.snapshotId,snapshot.snapshotDigest,reasons = [],reasons⟩

def selectEligibleCandidate (checked : CheckedSnapshots) : Option ResourcePoolSnapshot :=
  ((checked.filter fun (_,reasons) => reasons = []).map Prod.fst).argmin candidateRank

def buildEvidenceRows (allEvidence : List PlacementEvidence) (selected : Option ResourcePoolSnapshot) :
    List PlacementEvidence :=
  let rows := allEvidence.take maxEvidence
  match selected with
  | none => rows
  | some selected =>
    if rows.any fun item => item.snapshotId = selected.snapshotId then rows
    else match allEvidence.find? fun item => item.snapshotId = selected.snapshotId with
    | none => rows
    | some item => (rows.dropLast ++ [item]).insertionSort fun a b => a.snapshotDigest.1 ≤ b.snapshotDigest.1

/-- The reasons of all candidates, each once and in the order of their texts. -/
def allDenialReasons (checked : CheckedSnapshots) : List DenialReason :=
  ((checked.flatMap Prod.snd).dedup.insertionSort fun a b => a.value ≤ b.value).take maxDenialReasons

def resolveDecisionFields (selected : Option ResourcePoolSnapshot) (checked : CheckedSnapshots) :
    DecisionStatus × List DenialReason × Option String × Option String × Option Digest :=
  match selected with
  | some selected =>
    (.placed,[],some selected.poolRef,some selected.snapshotId,some selected.snapshotDigest)
  | none =>
    let denialReasons := if allDenialReasons checked = [] then [.unknownCpu] else allDenialReasons checked
    (.denied,denialReasons,none,none,none)

/-- The time of the evaluation, if `_utc` accepts it. -/
def currentOf (now : DateTime) : Except PlacementError Instant :=
  match h : utc now "now" with
  | .error e => .error (.time e)
  | .ok t => .ok ⟨t,(utc_ok_iff.mp h).2⟩

def place (requirement : PlacementRequirement) (candidates : List ResourcePoolSnapshot) (now : DateTime) :
    Except PlacementError PlacementDecision := do
  let current ← currentOf now
  validatePlacementCandidates candidates
  let checked := checkAllSnapshots requirement candidates current
  let allEvidence ← buildAllEvidence checked
  let selected := selectEligibleCandidate checked
  let evidence := buildEvidenceRows allEvidence selected
  let (status,denialReasons,selectedPoolRef,selectedSnapshotId,selectedSnapshotDigest) :=
    resolveDecisionFields selected checked
  PlacementDecision.validate {
    requirementId := requirement.requirementId
    evaluatedAt := current
    status
    selectedPoolRef
    selectedSnapshotId
    selectedSnapshotDigest
    denialReasons
    evidence
    candidateCount := candidates.length
    evidenceTruncated := maxEvidence < allEvidence.length }

end Arbora.Placement
