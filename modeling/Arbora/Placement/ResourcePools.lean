import Arbora.Lib.Json
import Arbora.Lib.Sha256
import Arbora.Scaling.ScaleUnits

/-! Capability records of resource pools and the requirements they are held against. -/
namespace Arbora.Placement
open Arbora.Scaling (Ref Digest isDigest supportedFrom supportedUntil)
open Json (Document natural sorted orNull)

def maxIsaFeatures : ℕ := 32
def maxMigProfiles : ℕ := 32
def maxCandidates : ℕ := 256
def maxEvidence : ℕ := 64
def maxDenialReasons : ℕ := 16
def maxResourceValue : ℕ := 10 ^ 15

theorem isDigest_of_hexadecimal {hex : List Char} (hlength : hex.length = 64)
    (hhex : hex.all Sha256.hexadecimal = true) : isDigest (String.ofList ("sha256:".toList ++ hex)) = true := by
  have hlabel : "sha256:".toList.length = 7 := by decide
  unfold isDigest
  rw [String.toList_ofList,String.length_ofList,List.take_left' hlabel,List.drop_left' hlabel]
  simp only [List.length_append,hlabel,hlength,BEq.rfl,Bool.true_and]
  exact hhex

/-- The hash of a document whose keys are sorted, in hexadecimal; its text has ASCII characters only. -/
def hashOf (document : Document) : List Char := Sha256.hexdigest ((Json.write document).map Char.toNat)

def contentDigest (document : Document) : Digest :=
  ⟨String.ofList ("sha256:".toList ++ hashOf document),
    isDigest_of_hexadecimal (Sha256.length_hexdigest _) (Sha256.hexadecimal_hexdigest _)⟩

def identityOf (label : String) (document : Document) : String :=
  String.ofList (label.toList ++ (hashOf document).take 32)
def refDocument (ref : Ref) : Document := .string ref

/-- An instant that `_utc` accepts, in microseconds since the epoch. -/
abbrev Instant := {t : ℤ // supportedFrom ≤ t ∧ t < supportedUntil}

def civil (day : ℤ) : ℤ × ℤ × ℤ :=
  let z := day + 719468
  let era := z / 146097
  let dayOfEra := z % 146097
  let yearOfEra := (dayOfEra - dayOfEra / 1460 + dayOfEra / 36524 - dayOfEra / 146096) / 365
  let dayOfYear := dayOfEra - (365 * yearOfEra + yearOfEra / 4 - yearOfEra / 100)
  let month := (5 * dayOfYear + 2) / 153
  let calendarMonth := if month < 10 then month + 3 else month - 9
  (yearOfEra + era * 400 + (if calendarMonth ≤ 2 then 1 else 0),calendarMonth,
    dayOfYear - (153 * month + 2) / 5 + 1)

example : civil 0 = (1970,1,1) ∧ civil 11016 = (2000,2,29) ∧ civil 20684 = (2026,8,19) := by decide

def padded (width : ℕ) (n : ℤ) : List Char := (Nat.toDigits 10 n.toNat).leftpad width '0'

/-- The text of an instant, with `zone` for UTC; whole seconds have no fraction. -/
def isoformat (zone : String) (t : Instant) : String :=
  let seconds := t.1 / 1000000
  let micros := t.1 % 1000000
  let (year,month,day) := civil (seconds / 86400)
  let fraction := if micros = 0 then [] else '.' :: padded 6 micros
  String.ofList (padded 4 year ++ '-' :: padded 2 month ++ '-' :: padded 2 day ++ 'T' ::
    padded 2 (seconds / 3600 % 24) ++ ':' :: padded 2 (seconds / 60 % 60) ++ ':' :: padded 2 (seconds % 60) ++
    fraction ++ zone.toList)

/-- A datetime in a JSON dump. -/
def instantDocument (t : Instant) : Document := .string (isoformat "Z" t)

inductive CapabilityState where
  | known | absent | unknown | unsupported | stale
  deriving DecidableEq

def CapabilityState.value : CapabilityState → String
  | .known => "known" | .absent => "absent" | .unknown => "unknown" | .unsupported => "unsupported"
  | .stale => "stale"

def CapabilityState.document (s : CapabilityState) : Document := .string s.value

structure ResourceAmount where
  state : CapabilityState
  value : Option ℕ
  bounded : ∀ v ∈ value, v ≤ maxResourceValue
  truth : state = .known ↔ value.isSome = true

def ResourceAmount.known (value : ℕ) (h : value ≤ maxResourceValue) : ResourceAmount where
  state := .known
  value := some value
  bounded := by
    intro v hv
    cases hv
    exact h
  truth := by simp

def ResourceAmount.missing (state : CapabilityState) (h : state ≠ .known) : ResourceAmount where
  state := state
  value := none
  bounded := nofun
  truth := by simp [h]

def ResourceAmount.document (amount : ResourceAmount) : Document :=
  sorted [("state",amount.state.document),("value",orNull natural amount.value)]

structure ResourceAccounting where
  (allocatable reserved used : ResourceAmount)
  ordered : ∀ a ∈ allocatable.value, ∀ r ∈ reserved.value, ∀ u ∈ used.value, u ≤ r ∧ r ≤ a

/-- Not bounded below by zero: with unknown use the reserved amount may exceed the allocatable one. -/
def ResourceAccounting.available (accounting : ResourceAccounting) : Option ℤ :=
  if accounting.allocatable.state ≠ .known ∨ accounting.reserved.state ≠ .known then none
  else match accounting.allocatable.value, accounting.reserved.value with
  | some allocatable, some reserved => some ((allocatable : ℤ) - reserved)
  | _, _ => none

def ResourceAccounting.document (accounting : ResourceAccounting) : Document :=
  sorted [("allocatable",accounting.allocatable.document),("reserved",accounting.reserved.document),
    ("used",accounting.used.document)]

inductive Architecture where
  | x86_64 | aarch64 | armv7 | ppc64le | riscv64
  deriving DecidableEq

def Architecture.document : Architecture → Document
  | .x86_64 => .string "x86_64" | .aarch64 => .string "aarch64" | .armv7 => .string "armv7"
  | .ppc64le => .string "ppc64le" | .riscv64 => .string "riscv64"

inductive GpuRuntime where
  | cuda | rocm | metal | oneapi | none
  deriving DecidableEq

def GpuRuntime.document : GpuRuntime → Document
  | .cuda => .string "cuda" | .rocm => .string "rocm" | .metal => .string "metal"
  | .oneapi => .string "oneapi" | .none => .string "none"

private def isTokenStart (c : Char) : Bool := ('a' ≤ c && c ≤ 'z') || ('0' ≤ c && c ≤ '9')

/-- An ISA feature name. -/
def isToken (text : String) : Bool :=
  match text.toList with
  | [] => false
  | c :: rest => isTokenStart c && decide (rest.length ≤ 31) &&
    rest.all fun c => isTokenStart c || c == '_' || c == '.' || c == '+' || c == '-'

/-- What `validate_isa` leaves of a tuple of features. -/
structure IsaFeatures where
  features : List String
  sorted : features.Pairwise (· < ·)
  tokens : ∀ f ∈ features, isToken f = true
  bounded : features.length ≤ maxIsaFeatures

def IsaFeatures.document (isa : IsaFeatures) : Document := .array (isa.features.map Document.string)

structure CpuCapability where
  architectureState : CapabilityState
  architecture : Option Architecture
  isaState : CapabilityState
  isa : IsaFeatures
  accounting : ResourceAccounting
  architectureTruth : architectureState = .known ↔ architecture.isSome = true
  isaTruth : isaState = .known ↔ isa.features ≠ []

def CpuCapability.document (cpu : CpuCapability) : Document :=
  sorted [("architecture_state",cpu.architectureState.document),
    ("architecture",orNull Architecture.document cpu.architecture),("isa_state",cpu.isaState.document),
    ("isa",cpu.isa.document),("accounting",cpu.accounting.document)]

structure MigProfile where
  profileRef : Ref
  state : CapabilityState
  (count memoryMib : ResourceAmount)

def MigProfile.document (profile : MigProfile) : Document :=
  sorted [("profile_ref",refDocument profile.profileRef),("state",profile.state.document),
    ("count",profile.count.document),("memory_mib",profile.memoryMib.document)]

structure GpuCapability where
  state : CapabilityState
  runtime : Option GpuRuntime
  runtimeVersionRef : Option Ref
  deviceCount : ResourceAmount
  memory : ResourceAccounting
  migProfiles : List MigProfile
  profilesBounded : migProfiles.length ≤ maxMigProfiles
  knownTruth : state = .known → runtime ≠ none ∧ runtime ≠ some .none ∧ deviceCount.state = .known
  otherTruth : state ≠ .known → runtime = none ∧ runtimeVersionRef = none
  profilesUnique : (migProfiles.map (·.profileRef)).Nodup

def GpuCapability.document (gpu : GpuCapability) : Document :=
  sorted [("state",gpu.state.document),("runtime",orNull GpuRuntime.document gpu.runtime),
    ("runtime_version_ref",orNull refDocument gpu.runtimeVersionRef),("device_count",gpu.deviceCount.document),
    ("memory",gpu.memory.document),("mig_profiles",.array (gpu.migProfiles.map MigProfile.document))]

structure StorageCapability where
  disk : ResourceAccounting
  (diskReadIops diskWriteIops : ResourceAmount)
  nvmeState : CapabilityState
  (nvmeDeviceCount nvmeReadIops nvmeWriteIops : ResourceAmount)
  nvmeKnown : nvmeState = .known → nvmeDeviceCount.state = .known
  nvmeOther : nvmeState ≠ .known → ∀ amount ∈ [nvmeDeviceCount,nvmeReadIops,nvmeWriteIops], amount.state ≠ .known

def StorageCapability.document (storage : StorageCapability) : Document :=
  sorted [("disk",storage.disk.document),("disk_read_iops",storage.diskReadIops.document),
    ("disk_write_iops",storage.diskWriteIops.document),("nvme_state",storage.nvmeState.document),
    ("nvme_device_count",storage.nvmeDeviceCount.document),("nvme_read_iops",storage.nvmeReadIops.document),
    ("nvme_write_iops",storage.nvmeWriteIops.document)]

structure NetworkCapability where
  state : CapabilityState
  (ingressMbps egressMbps latencyUs : ResourceAmount)

def NetworkCapability.document (network : NetworkCapability) : Document :=
  sorted [("state",network.state.document),("ingress_mbps",network.ingressMbps.document),
    ("egress_mbps",network.egressMbps.document),("latency_us",network.latencyUs.document)]

structure EnergyCapability where
  state : CapabilityState
  (maxPowerWatts observedPowerWatts : ResourceAmount)

def EnergyCapability.document (energy : EnergyCapability) : Document :=
  sorted [("state",energy.state.document),("max_power_watts",energy.maxPowerWatts.document),
    ("observed_power_watts",energy.observedPowerWatts.document)]

def isCurrency (text : String) : Bool := text.length == 3 && text.toList.all fun c => 'A' ≤ c && c ≤ 'Z'

structure CostCapability where
  state : CapabilityState
  currency : Option String
  microsPerHour : ResourceAmount
  currencyPattern : ∀ text ∈ currency, isCurrency text = true
  currencyTruth : state = .known ↔ currency.isSome = true

def CostCapability.document (cost : CostCapability) : Document :=
  sorted [("state",cost.state.document),("currency",orNull Document.string cost.currency),
    ("micros_per_hour",cost.microsPerHour.document)]

structure ResourceCapabilities where
  cpu : CpuCapability
  memory : ResourceAccounting
  gpu : GpuCapability
  storage : StorageCapability
  network : NetworkCapability
  energy : EnergyCapability
  cost : CostCapability

def ResourceCapabilities.document (capabilities : ResourceCapabilities) : Document :=
  sorted [("cpu",capabilities.cpu.document),("memory",capabilities.memory.document),
    ("gpu",capabilities.gpu.document),("storage",capabilities.storage.document),
    ("network",capabilities.network.document),("energy",capabilities.energy.document),
    ("cost",capabilities.cost.document)]

def capabilityPayloadDigest (capabilities : ResourceCapabilities) : Digest := contentDigest capabilities.document

inductive AttestationStatus where
  | verified | unverified | invalid | unknown
  deriving DecidableEq

def AttestationStatus.document : AttestationStatus → Document
  | .verified => .string "verified" | .unverified => .string "unverified" | .invalid => .string "invalid"
  | .unknown => .string "unknown"

inductive AttestationAlgorithm where
  | sigstore | cosign | ed25519 | x509 | opaqueSignature

def AttestationAlgorithm.document : AttestationAlgorithm → Document
  | .sigstore => .string "sigstore" | .cosign => .string "cosign" | .ed25519 => .string "ed25519"
  | .x509 => .string "x509" | .opaqueSignature => .string "opaque"

structure CapabilityAttestation where
  status : AttestationStatus
  algorithm : AttestationAlgorithm
  (signerRef signatureRef : Ref)
  subjectDigest : Digest
  (observedAt expiresAt : Instant)
  window : observedAt.1 < expiresAt.1

def CapabilityAttestation.document (attestation : CapabilityAttestation) : Document :=
  sorted [("status",attestation.status.document),("algorithm",attestation.algorithm.document),
    ("signer_ref",refDocument attestation.signerRef),("signature_ref",refDocument attestation.signatureRef),
    ("subject_digest",.string attestation.subjectDigest),("observed_at",instantDocument attestation.observedAt),
    ("expires_at",instantDocument attestation.expiresAt)]

structure ResourcePoolSnapshot where
  poolRef : Ref
  revision : ℕ
  (observedAt expiresAt : Instant)
  capabilities : ResourceCapabilities
  attestation : CapabilityAttestation
  revisionBounded : 0 < revision ∧ revision < 2 ^ 63
  window : observedAt.1 < expiresAt.1
  attestedBefore : attestation.observedAt.1 ≤ observedAt.1
  attestedUntil : expiresAt.1 ≤ attestation.expiresAt.1
  attestedSubject : attestation.subjectDigest = capabilityPayloadDigest capabilities

def ResourcePoolSnapshot.identityPayload (snapshot : ResourcePoolSnapshot) : Document :=
  sorted [("schema_version",.string "1"),("pool_ref",refDocument snapshot.poolRef),
    ("revision",natural snapshot.revision),("observed_at",.string (isoformat "+00:00" snapshot.observedAt)),
    ("expires_at",.string (isoformat "+00:00" snapshot.expiresAt)),
    ("capabilities",snapshot.capabilities.document),("attestation",snapshot.attestation.document)]

def ResourcePoolSnapshot.snapshotId (snapshot : ResourcePoolSnapshot) : String :=
  identityOf "pool-snapshot:" snapshot.identityPayload
def ResourcePoolSnapshot.snapshotDigest (snapshot : ResourcePoolSnapshot) : Digest :=
  contentDigest (sorted [("kind",.string "resource_pool_snapshot"),("identity",snapshot.identityPayload)])

structure GpuRequirement where
  (count memoryMib : ℕ)
  runtime : Option GpuRuntime
  migProfileRef : Option Ref
  bounded : count ≤ 128 ∧ memoryMib < 2 ^ 31
  needsCount : count = 0 → memoryMib = 0 ∧ runtime = none ∧ migProfileRef = none

def GpuRequirement.document (gpu : GpuRequirement) : Document :=
  sorted [("count",natural gpu.count),("memory_mib",natural gpu.memoryMib),
    ("runtime",orNull GpuRuntime.document gpu.runtime),("mig_profile_ref",orNull refDocument gpu.migProfileRef)]

structure NvmeRequirement where
  required : Bool
  (deviceCount readIops writeIops : ℕ)
  bounded : deviceCount ≤ 128 ∧ readIops ≤ 10 ^ 9 ∧ writeIops ≤ 10 ^ 9
  needsRequired : required = false → deviceCount = 0 ∧ readIops = 0 ∧ writeIops = 0

def NvmeRequirement.document (nvme : NvmeRequirement) : Document :=
  sorted [("required",.bool nvme.required),("device_count",natural nvme.deviceCount),
    ("read_iops",natural nvme.readIops),("write_iops",natural nvme.writeIops)]

structure NetworkRequirement where
  (ingressMbps egressMbps : ℕ)
  maxLatencyUs : Option ℕ
  bounded : ingressMbps ≤ 10 ^ 9 ∧ egressMbps ≤ 10 ^ 9 ∧ ∀ latency ∈ maxLatencyUs, latency ≤ 10 ^ 9

def NetworkRequirement.document (network : NetworkRequirement) : Document :=
  sorted [("ingress_mbps",natural network.ingressMbps),("egress_mbps",natural network.egressMbps),
    ("max_latency_us",orNull natural network.maxLatencyUs)]

/-- A workload's requirement, in capabilities only. -/
structure PlacementRequirement where
  architecture : Option Architecture
  requiredIsa : IsaFeatures
  (cpuMilli memoryMib diskMib diskReadIops diskWriteIops : ℕ)
  gpu : GpuRequirement
  nvme : NvmeRequirement
  network : NetworkRequirement
  (maxPowerWatts maxCostMicrosPerHour : Option ℕ)
  positive : 0 < cpuMilli ∧ 0 < memoryMib
  bounded : cpuMilli < 2 ^ 31 ∧ memoryMib < 2 ^ 31 ∧ diskMib < 2 ^ 63 ∧ diskReadIops ≤ 10 ^ 9 ∧ diskWriteIops ≤ 10 ^ 9
  limits : (∀ watts ∈ maxPowerWatts, watts ≤ 10 ^ 9) ∧ ∀ cost ∈ maxCostMicrosPerHour, cost ≤ 10 ^ 15

def PlacementRequirement.requirementId (requirement : PlacementRequirement) : String :=
  identityOf "placement-requirement:" <| sorted [("schema_version",.string "1"),
    ("architecture",orNull Architecture.document requirement.architecture),
    ("required_isa",requirement.requiredIsa.document),("cpu_milli",natural requirement.cpuMilli),
    ("memory_mib",natural requirement.memoryMib),("disk_mib",natural requirement.diskMib),
    ("disk_read_iops",natural requirement.diskReadIops),("disk_write_iops",natural requirement.diskWriteIops),
    ("gpu",requirement.gpu.document),("nvme",requirement.nvme.document),("network",requirement.network.document),
    ("max_power_watts",orNull natural requirement.maxPowerWatts),
    ("max_cost_micros_per_hour",orNull natural requirement.maxCostMicrosPerHour)]

end Arbora.Placement
