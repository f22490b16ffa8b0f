import Arbora.Lib.Lists
import Arbora.Placement.Place

/-! What a placement rests on: every fact that the requirement constrains is known and meets its
threshold, but for the state of a MIG profile and the used GPU memory, which no check reads. -/
namespace Arbora.Placement
open Arbora.Scaling (Ref DateTime utc utc_ok_iff supportedFrom supportedUntil)

def AtLeast (amount : ResourceAmount) (minimum : ℕ) : Prop :=
  amount.state = .known ∧ ∃ value, amount.value = some value ∧ minimum ≤ value
def AtMost (amount : ResourceAmount) (limit : ℕ) : Prop :=
  amount.state = .known ∧ ∃ value, amount.value = some value ∧ value ≤ limit

def Spare (accounting : ResourceAccounting) (minimum : ℕ) : Prop :=
  accounting.allocatable.state = .known ∧ accounting.reserved.state = .known ∧
    ∃ a r, accounting.allocatable.value = some a ∧ accounting.reserved.value = some r ∧ r + minimum ≤ a

def Headroom (accounting : ResourceAccounting) (minimum : ℕ) : Prop :=
  Spare accounting minimum ∧ accounting.used.state = .known

theorem ResourceAmount.value_of_known {amount : ResourceAmount} (h : amount.state = .known) :
    ∃ value, amount.value = some value :=
  Option.isSome_iff_exists.mp (amount.truth.mp h)

variable {minimum : ℕ} {accounting : ResourceAccounting}

theorem amountAtLeast_iff {amount : ResourceAmount} :
    amountAtLeast amount minimum = true ↔ AtLeast amount minimum := by
  unfold amountAtLeast AtLeast
  cases amount.value with
  | none => simp
  | some value => simp

theorem exceeds_iff {amount : ResourceAmount} {limit : ℕ} (h : amount.state = .known) :
    exceeds amount limit = false ↔ AtMost amount limit := by
  obtain ⟨value,hvalue⟩ := amount.value_of_known h
  simp [exceeds,AtMost,h,hvalue]

theorem lacks_iff : lacks accounting minimum = false ↔ Spare accounting minimum := by
  unfold lacks ResourceAccounting.available Spare
  split_ifs with h
  · constructor
    · nofun
    · rintro ⟨ha,hr,-⟩
      exact absurd h (by simp [ha,hr])
  · rw [not_or,not_not,not_not] at h
    obtain ⟨a,ha⟩ := accounting.allocatable.value_of_known h.1
    obtain ⟨r,hr⟩ := accounting.reserved.value_of_known h.2
    simp only [ha,hr,h,true_and,decide_eq_false_iff_not,not_lt,Option.some.injEq]
    constructor
    · intro hle
      exact ⟨a,r,rfl,rfl,by omega⟩
    · rintro ⟨a,r,rfl,rfl,hle⟩
      omega

theorem known_iff :
    known accounting = true ↔ accounting.allocatable.state = .known ∧ accounting.reserved.state = .known ∧
      accounting.used.state = .known := by
  simp [known]

theorem checkAccounting_nil {unknown insufficient : DenialReason} :
    checkAccounting accounting minimum unknown insufficient = [] ↔ Headroom accounting minimum := by
  unfold checkAccounting Headroom
  split_ifs with hknown hlacks
  · refine ⟨nofun,fun h => ?_⟩
    rw [known_iff.mpr ⟨h.1.1,h.1.2.1,h.2⟩] at hknown
    cases hknown
  · refine ⟨nofun,fun h => ?_⟩
    rw [lacks_iff.mpr h.1] at hlacks
    cases hlacks
  · rw [Bool.not_eq_false,known_iff] at hknown
    rw [Bool.not_eq_true,lacks_iff] at hlacks
    exact ⟨fun _ => ⟨hlacks,hknown.2.2⟩,fun _ => rfl⟩

section
variable (requirement : PlacementRequirement) (snapshot : ResourcePoolSnapshot)

structure GpuQualifies (required : GpuRequirement) (gpu : GpuCapability) : Prop where
  state : gpu.state = .known
  count : AtLeast gpu.deviceCount required.count
  runtime : ∀ runtime, required.runtime = some runtime → gpu.runtime = some runtime
  memory : required.memoryMib ≠ 0 → Headroom gpu.memory required.memoryMib
  profile : ∀ ref, required.migProfileRef = some ref → ∃ profile ∈ gpu.migProfiles,
    profile.profileRef = ref ∧ profile.state = .known ∧ AtLeast profile.count required.count

structure NvmeQualifies (required : NvmeRequirement) (storage : StorageCapability) : Prop where
  state : storage.nvmeState = .known
  devices : AtLeast storage.nvmeDeviceCount required.deviceCount
  reads : AtLeast storage.nvmeReadIops required.readIops
  writes : AtLeast storage.nvmeWriteIops required.writeIops

structure NetworkQualifies (required : NetworkRequirement) (network : NetworkCapability) : Prop where
  state : network.state = .known
  ingress : AtLeast network.ingressMbps required.ingressMbps
  egress : AtLeast network.egressMbps required.egressMbps
  latency : ∀ limit, required.maxLatencyUs = some limit → AtMost network.latencyUs limit

structure Qualifies (now : Instant) : Prop where
  fresh : snapshot.observedAt.1 ≤ now.1 ∧ now.1 < snapshot.expiresAt.1
  attested : snapshot.attestation.status = .verified
  architecture : ∀ architecture, requirement.architecture = some architecture →
    snapshot.capabilities.cpu.architectureState = .known ∧
      snapshot.capabilities.cpu.architecture = some architecture
  isa : requirement.requiredIsa.features ≠ [] → snapshot.capabilities.cpu.isaState = .known ∧
    ∀ feature ∈ requirement.requiredIsa.features, feature ∈ snapshot.capabilities.cpu.isa.features
  cpu : Headroom snapshot.capabilities.cpu.accounting requirement.cpuMilli
  memory : Headroom snapshot.capabilities.memory requirement.memoryMib
  disk : requirement.diskMib ≠ 0 → Headroom snapshot.capabilities.storage.disk requirement.diskMib
  diskReads : requirement.diskReadIops ≠ 0 →
    AtLeast snapshot.capabilities.storage.diskReadIops requirement.diskReadIops
  diskWrites : requirement.diskWriteIops ≠ 0 →
    AtLeast snapshot.capabilities.storage.diskWriteIops requirement.diskWriteIops
  gpu : requirement.gpu.count ≠ 0 → GpuQualifies requirement.gpu snapshot.capabilities.gpu
  nvme : requirement.nvme.required = true → NvmeQualifies requirement.nvme snapshot.capabilities.storage
  network : networkRequirementActive requirement.network = true →
    NetworkQualifies requirement.network snapshot.capabilities.network
  power : ∀ limit, requirement.maxPowerWatts = some limit → snapshot.capabilities.energy.state = .known ∧
    AtMost snapshot.capabilities.energy.maxPowerWatts limit
  cost : ∀ limit, requirement.maxCostMicrosPerHour = some limit → snapshot.capabilities.cost.state = .known ∧
    AtMost snapshot.capabilities.cost.microsPerHour limit

def UncheckedKnown : Prop :=
  (∀ ref, requirement.gpu.migProfileRef = some ref → ∀ profile ∈ snapshot.capabilities.gpu.migProfiles,
    profile.profileRef = ref → profile.state = .known) ∧
  (requirement.gpu.memoryMib ≠ 0 → snapshot.capabilities.gpu.memory.used.state = .known)

end

section
variable {requirement : PlacementRequirement} {snapshot : ResourcePoolSnapshot} {now : Instant}

theorem freshness_nil : checkSnapshotFreshnessAndAttestation snapshot now = [] ↔
    (snapshot.observedAt.1 ≤ now.1 ∧ now.1 < snapshot.expiresAt.1) ∧ snapshot.attestation.status = .verified := by
  unfold checkSnapshotFreshnessAndAttestation
  rw [List.append_eq_nil_iff]
  refine and_congr ?_ ?_
  · split_ifs with hfuture hstale
    · simp only [false_iff,not_and]
      intro hle
      exact absurd hle (not_le.mpr hfuture)
    · simp only [false_iff,not_and,not_lt]
      exact fun _ => hstale
    · simpa using ⟨not_lt.mp hfuture,not_le.mp hstale⟩
  · split_ifs with hinvalid hverified
    · simp [hinvalid]
    · simp [hverified]
    · simpa using hverified

theorem cpu_nil : checkCpuCapability snapshot requirement = [] ↔
    (∀ architecture, requirement.architecture = some architecture →
      snapshot.capabilities.cpu.architectureState = .known ∧
        snapshot.capabilities.cpu.architecture = some architecture) ∧
    (requirement.requiredIsa.features ≠ [] → snapshot.capabilities.cpu.isaState = .known ∧
      ∀ feature ∈ requirement.requiredIsa.features, feature ∈ snapshot.capabilities.cpu.isa.features) ∧
    Headroom snapshot.capabilities.cpu.accounting requirement.cpuMilli := by
  unfold checkCpuCapability
  rw [List.append_eq_nil_iff,List.append_eq_nil_iff,checkAccounting_nil,and_assoc]
  refine and_congr ?_ (and_congr ?_ Iff.rfl)
  · split_ifs with hnone hstate hsame
    · simp [hnone]
    · obtain ⟨architecture,harchitecture⟩ := Option.ne_none_iff_exists'.mp hnone
      simp [harchitecture,hstate]
    · obtain ⟨architecture,harchitecture⟩ := Option.ne_none_iff_exists'.mp hnone
      rw [harchitecture] at hsame
      simp [harchitecture,hsame]
    · rw [not_not] at hstate hsame
      simp [hstate,hsame]
  · split_ifs with hnone hstate hmissing
    · simp [hnone]
    · simp [hnone,hstate]
    · have hnot : ¬∀ feature ∈ requirement.requiredIsa.features,
          feature ∈ snapshot.capabilities.cpu.isa.features := by simpa using hmissing
      simp [hnone,hnot]
    · have hall : ∀ feature ∈ requirement.requiredIsa.features,
          feature ∈ snapshot.capabilities.cpu.isa.features := by simpa using hmissing
      rw [not_not] at hstate
      exact ⟨fun _ _ => ⟨hstate,hall⟩,fun _ => rfl⟩

theorem diskCapacity_nil {disk : ResourceAccounting} {requiredMib : ℕ} :
    checkDiskCapacity disk requiredMib = [] ↔ (requiredMib ≠ 0 → Headroom disk requiredMib) := by
  unfold checkDiskCapacity
  split_ifs with hzero
  · simp [hzero]
  · rw [checkAccounting_nil]
    exact ⟨fun h _ => h,fun h => h hzero⟩

theorem diskIops_nil {amount : ResourceAmount} {required : ℕ} :
    checkDiskIops amount required = [] ↔ (required ≠ 0 → AtLeast amount required) := by
  unfold checkDiskIops
  rw [← amountAtLeast_iff]
  split_ifs with hdenied
  · simp [hdenied.1,hdenied.2]
  · simpa using hdenied

theorem storageDisk_nil : checkStorageDiskCapability snapshot requirement = [] ↔
    (requirement.diskMib ≠ 0 → Headroom snapshot.capabilities.storage.disk requirement.diskMib) ∧
    (requirement.diskReadIops ≠ 0 → AtLeast snapshot.capabilities.storage.diskReadIops requirement.diskReadIops) ∧
    (requirement.diskWriteIops ≠ 0 →
      AtLeast snapshot.capabilities.storage.diskWriteIops requirement.diskWriteIops) := by
  unfold checkStorageDiskCapability
  rw [List.append_eq_nil_iff,List.append_eq_nil_iff,diskCapacity_nil,diskIops_nil,diskIops_nil,and_assoc]

/-- The profile that is named has slices enough; its state is not looked at. -/
theorem migProfile_nil {gpu : GpuCapability} {required : GpuRequirement} :
    checkGpuMigProfile gpu required = [] ↔ ∀ ref, required.migProfileRef = some ref →
      ∃ profile ∈ gpu.migProfiles, profile.profileRef = ref ∧ AtLeast profile.count required.count := by
  unfold checkGpuMigProfile
  cases required.migProfileRef with
  | none => simp
  | some ref =>
    simp only [Option.some.injEq,forall_eq']
    cases hfound : gpu.migProfiles.filter fun profile => profile.profileRef = ref with
    | nil =>
      rw [List.filter_eq_nil_iff] at hfound
      simp only [List.cons_ne_nil,false_iff,not_exists,not_and]
      intro profile hprofile href
      exact absurd href (by simpa using hfound profile hprofile)
    | cons profile rest =>
      have hmem : profile ∈ gpu.migProfiles.filter fun profile => profile.profileRef = ref := by
        rw [hfound]
        exact List.mem_cons_self
      obtain ⟨hprofile,href⟩ := List.mem_filter.mp hmem
      rw [decide_eq_true_eq] at href
      dsimp only
      split_ifs with hcount
      · exact ⟨fun _ => ⟨profile,hprofile,href,amountAtLeast_iff.mp hcount⟩,fun _ => rfl⟩
      · simp only [false_iff,not_exists,not_and]
        intro other hother horef hleast
        -- references are unique, so this is the profile that was found
        have hsame := List.inj_on_of_nodup_map gpu.profilesUnique hother hprofile (horef.trans href.symm)
        rw [hsame] at hleast
        exact hcount (amountAtLeast_iff.mpr hleast)

theorem present_nil {c : Bool} {reason : DenialReason} : (if c then [] else [reason]) = [] ↔ c = true := by
  cases c with
  | true => simp
  | false => simp

theorem gpuKnownCapacity_nil {gpu : GpuCapability} {required : GpuRequirement} :
    checkGpuKnownCapacity gpu required = [] ↔ AtLeast gpu.deviceCount required.count ∧
      (∀ runtime, required.runtime = some runtime → gpu.runtime = some runtime) ∧
      (required.memoryMib ≠ 0 → Spare gpu.memory required.memoryMib) ∧ ∀ ref, required.migProfileRef = some ref →
        ∃ profile ∈ gpu.migProfiles, profile.profileRef = ref ∧ AtLeast profile.count required.count := by
  unfold checkGpuKnownCapacity
  rw [List.append_eq_nil_iff,List.append_eq_nil_iff,List.append_eq_nil_iff,and_assoc,and_assoc,present_nil,
    amountAtLeast_iff,migProfile_nil]
  refine and_congr Iff.rfl (and_congr ?_ (and_congr ?_ Iff.rfl))
  · split_ifs with hmismatch
    · obtain ⟨runtime,hruntime⟩ := Option.ne_none_iff_exists'.mp hmismatch.1
      rw [hruntime] at hmismatch
      simp [hruntime,hmismatch.2]
    · rw [not_and_or,not_not,not_not] at hmismatch
      rcases hmismatch with hnone | hsame
      · simp [hnone]
      · simp [hsame]
  · rw [← lacks_iff]
    split_ifs with hlacks
    · simp [hlacks.1,hlacks.2]
    · simpa using hlacks

theorem gpu_nil : checkGpuCapability snapshot requirement = [] ↔ (requirement.gpu.count ≠ 0 →
    snapshot.capabilities.gpu.state = .known ∧ AtLeast snapshot.capabilities.gpu.deviceCount requirement.gpu.count ∧
      (∀ runtime, requirement.gpu.runtime = some runtime → snapshot.capabilities.gpu.runtime = some runtime) ∧
      (requirement.gpu.memoryMib ≠ 0 → Spare snapshot.capabilities.gpu.memory requirement.gpu.memoryMib) ∧
      ∀ ref, requirement.gpu.migProfileRef = some ref → ∃ profile ∈ snapshot.capabilities.gpu.migProfiles,
        profile.profileRef = ref ∧ AtLeast profile.count requirement.gpu.count) := by
  unfold checkGpuCapability
  dsimp only
  split_ifs with hzero habsent hknown
  · simp [hzero]
  · simp [hzero,habsent]
  · simp [hzero,hknown]
  · rw [not_not] at hknown
    simp only [gpuKnownCapacity_nil,hzero,hknown,true_and,ne_eq,not_false_eq_true,forall_const]

theorem nvme_nil : checkNvmeCapability snapshot requirement = [] ↔
    (requirement.nvme.required = true → NvmeQualifies requirement.nvme snapshot.capabilities.storage) := by
  unfold checkNvmeCapability
  by_cases hnot : requirement.nvme.required = false
  · simp [hnot]
  by_cases habsent : snapshot.capabilities.storage.nvmeState = .absent
  · have hdenied : ¬NvmeQualifies requirement.nvme snapshot.capabilities.storage := by
      intro h
      rw [h.state] at habsent
      cases habsent
    simp [hnot,habsent,hdenied]
  by_cases hknown : snapshot.capabilities.storage.nvmeState = .known
  · rw [if_neg hnot,if_neg habsent,if_neg (not_not_intro hknown),List.append_eq_nil_iff,List.append_eq_nil_iff,
      present_nil,present_nil,present_nil,amountAtLeast_iff,amountAtLeast_iff,amountAtLeast_iff]
    rw [Bool.not_eq_false] at hnot
    exact ⟨fun h _ => ⟨hknown,h.1.1,h.1.2,h.2⟩,fun h => ⟨⟨(h hnot).devices,(h hnot).reads⟩,(h hnot).writes⟩⟩
  · have hdenied : ¬NvmeQualifies requirement.nvme snapshot.capabilities.storage := fun h => hknown h.state
    simp [hnot,habsent,hknown,hdenied]

theorem networkThresholds_none {network : NetworkCapability} {required : NetworkRequirement} :
    checkNetworkThresholds network required = none ↔ NetworkQualifies required network := by
  unfold checkNetworkThresholds
  split_ifs with hstate hingress hegress
  · exact ⟨nofun,fun h => absurd h.state hstate⟩
  · refine ⟨nofun,fun h => ?_⟩
    rw [amountAtLeast_iff.mpr h.ingress] at hingress
    cases hingress
  · refine ⟨nofun,fun h => ?_⟩
    rw [amountAtLeast_iff.mpr h.egress] at hegress
    cases hegress
  · rw [not_not] at hstate
    rw [Bool.not_eq_false,amountAtLeast_iff] at hingress hegress
    cases hlimit : required.maxLatencyUs with
    | none => exact ⟨fun _ => ⟨hstate,hingress,hegress,fun _ h => by rw [hlimit] at h; cases h⟩,fun _ => rfl⟩
    | some limit =>
      dsimp only
      split_ifs with hover
      · refine ⟨nofun,fun h => ?_⟩
        have hatMost := h.latency limit hlimit
        rcases hover with hunknown | hexceeds
        · exact absurd hatMost.1 hunknown
        · rw [(exceeds_iff hatMost.1).mpr hatMost] at hexceeds
          cases hexceeds
      · rw [not_or,not_not,Bool.not_eq_true] at hover
        refine ⟨fun _ => ⟨hstate,hingress,hegress,?_⟩,fun _ => rfl⟩
        intro other hother
        cases hlimit.symm.trans hother
        exact (exceeds_iff hover.1).mp hover.2

theorem network_nil : checkNetworkCapability snapshot requirement = [] ↔
    (networkRequirementActive requirement.network = true →
      NetworkQualifies requirement.network snapshot.capabilities.network) := by
  unfold checkNetworkCapability
  split_ifs with hactive
  · simp [hactive]
  · rw [Bool.not_eq_false] at hactive
    rw [Option.toList_eq_nil_iff,networkThresholds_none]
    exact ⟨fun h _ => h,fun h => h hactive⟩

theorem limit_nil {state : CapabilityState} {amount : ResourceAmount} {limit : Option ℕ}
    {unknown exceeded : DenialReason} : checkLimit state amount limit unknown exceeded = [] ↔
    ∀ bound, limit = some bound → state = .known ∧ AtMost amount bound := by
  unfold checkLimit
  cases limit with
  | none => simp
  | some bound =>
    simp only [Option.some.injEq,forall_eq']
    split_ifs with hunknown hover
    · refine ⟨nofun,fun ⟨hstate,hamount,value,hvalue,_⟩ => ?_⟩
      have hleast : amountAtLeast amount 0 = true := amountAtLeast_iff.mpr ⟨hamount,value,hvalue,Nat.zero_le _⟩
      rcases hunknown with hunknown | hunknown
      · exact absurd hstate hunknown
      · rw [hleast] at hunknown
        cases hunknown
    · refine ⟨nofun,fun ⟨_,hamount⟩ => ?_⟩
      rw [(exceeds_iff hamount.1).mpr hamount] at hover
      cases hover
    · rw [not_or,not_not,Bool.not_eq_false,amountAtLeast_iff] at hunknown
      rw [Bool.not_eq_true,exceeds_iff hunknown.2.1] at hover
      exact ⟨fun _ => ⟨hunknown.1,hover⟩,fun _ => rfl⟩

theorem eraseDups_take_nil {reasons : List DenialReason} :
    reasons.eraseDups.take maxDenialReasons = [] ↔ reasons = [] := by
  cases reasons with
  | nil => simp
  | cons reason rest => simp [List.eraseDups_cons,maxDenialReasons]

theorem qualifies_iff_of_passed (h : checkSnapshot snapshot requirement now = []) :
    Qualifies requirement snapshot now ↔ UncheckedKnown requirement snapshot := by
  unfold checkSnapshot at h
  simp only [eraseDups_take_nil,List.append_eq_nil_iff,and_assoc,freshness_nil,cpu_nil,storageDisk_nil,gpu_nil,
    nvme_nil,network_nil] at h
  obtain ⟨hfresh,huntil,hattested,harchitecture,hisa,hcpu,hmemory,hdisk,hreads,hwrites,hgpu,hnvme,hnetwork,henergy,
    hcost⟩ := h
  constructor
  · intro hqualifies
    have hcount : requirement.gpu.migProfileRef ≠ none ∨ requirement.gpu.memoryMib ≠ 0 →
        requirement.gpu.count ≠ 0 := by
      intro hsome hzero
      obtain ⟨hno,-,hnone⟩ := requirement.gpu.needsCount hzero
      exact hsome.elim (· hnone) (· hno)
    refine ⟨?_,?_⟩
    · intro ref href profile hprofile hpref
      have hgpu := hqualifies.gpu (hcount (.inl (by simp [href])))
      obtain ⟨found,hfound,hfref,hstate,-⟩ := hgpu.profile ref href
      have hsame := List.inj_on_of_nodup_map snapshot.capabilities.gpu.profilesUnique hprofile hfound
        (hpref.trans hfref.symm)
      rw [hsame]
      exact hstate
    · intro hmemory
      exact ((hqualifies.gpu (hcount (.inr hmemory))).memory hmemory).2
  · intro hunchecked
    refine ⟨⟨hfresh,huntil⟩,hattested,harchitecture,hisa,hcpu,checkAccounting_nil.mp hmemory,hdisk,hreads,hwrites,?_,
      hnvme,hnetwork,limit_nil.mp henergy,limit_nil.mp hcost⟩
    intro hcount
    obtain ⟨hstate,hdevices,hruntime,hspare,hprofile⟩ := hgpu hcount
    refine ⟨hstate,hdevices,hruntime,fun hmib => ⟨hspare hmib,hunchecked.2 hmib⟩,?_⟩
    intro ref href
    obtain ⟨profile,hmem,hpref,hslices⟩ := hprofile ref href
    exact ⟨profile,hmem,hpref,hunchecked.1 ref href profile hmem hpref,hslices⟩

end

section
variable {requirement : PlacementRequirement} {candidates : List ResourcePoolSnapshot} {now : DateTime}

def passing (requirement : PlacementRequirement) (candidates : List ResourcePoolSnapshot) (current : Instant) :
    List ResourcePoolSnapshot :=
  candidates.filter fun snapshot => checkSnapshot snapshot requirement current = []

theorem candidateRank_digest {a b : ResourcePoolSnapshot} (h : candidateRank a = candidateRank b) :
    a.snapshotDigest.1 = b.snapshotDigest.1 := by
  change toLex _ = toLex _ at h
  simp only [EmbeddingLike.apply_eq_iff_eq,Prod.mk.injEq] at h
  exact h.2.2.2.2

theorem selectEligibleCandidate_checkAll (current : Instant) :
    selectEligibleCandidate (checkAllSnapshots requirement candidates current) =
      (passing requirement candidates current).argmin candidateRank := by
  unfold selectEligibleCandidate checkAllSnapshots passing
  simp only [List.filter_map,List.map_map,Function.comp_def,List.map_id']
  refine Selection.argmin_filter_insertionSort _ ?_ candidates
  intro a b hnot hrank
  exact hnot (candidateRank_digest hrank).le

theorem currentOf_ok {current : Instant} (h : currentOf now = .ok current) : now = .utc current.1 := by
  unfold currentOf at h
  split at h
  · cases h
  · rename_i t ht
    cases h
    exact (utc_ok_iff.mp ht).1

theorem validatePlacementCandidates_ok {u : Unit} (h : validatePlacementCandidates candidates = .ok u) :
    candidates.length ≤ maxCandidates ∧ (candidates.map (·.snapshotId)).Nodup := by
  unfold validatePlacementCandidates at h
  split_ifs at h with hmany hdup
  exact ⟨not_lt.mp hmany,hdup⟩

theorem validate_ok {decision valid : PlacementDecision} (h : decision.validate = .ok valid) : valid = decision := by
  unfold PlacementDecision.validate at h
  split_ifs at h
  cases hshape : decision.assertEvidenceShape with
  | error e =>
    rw [hshape] at h
    cases h
  | ok u =>
    cases hstatus : decision.assertStatusConsistency with
    | error e =>
      rw [hshape,hstatus] at h
      cases h
    | ok u =>
      rw [hshape,hstatus] at h
      cases h
      rfl

theorem place_ok {decision : PlacementDecision} (h : place requirement candidates now = .ok decision) :
    ∃ current : Instant, now = .utc current.1 ∧ (candidates.map (·.snapshotId)).Nodup ∧ decision.selectedSnapshotId =
        ((passing requirement candidates current).argmin candidateRank).map (·.snapshotId) ∧
      (decision.status = .placed ↔ ((passing requirement candidates current).argmin candidateRank).isSome = true) := by
  unfold place at h
  cases hcurrent : currentOf now with
  | error e =>
    rw [hcurrent] at h
    cases h
  | ok current =>
    cases hvalid : validatePlacementCandidates candidates with
    | error e =>
      rw [hcurrent,hvalid] at h
      cases h
    | ok u =>
      cases hevidence : buildAllEvidence (checkAllSnapshots requirement candidates current) with
      | error e =>
        rw [hcurrent,hvalid] at h
        simp only [bind,Except.bind,hevidence] at h
        cases h
      | ok allEvidence =>
        rw [hcurrent,hvalid] at h
        simp only [bind,Except.bind,hevidence,selectEligibleCandidate_checkAll] at h
        refine ⟨current,currentOf_ok hcurrent,(validatePlacementCandidates_ok hvalid).2,?_⟩
        rw [validate_ok h]
        cases (passing requirement candidates current).argmin candidateRank with
        | none => simp [resolveDecisionFields]
        | some selected => simp [resolveDecisionFields]

/-- A placement is sound exactly when the best of the passing candidates has the facts known that no
check reads. -/
theorem placement_sound_iff {decision : PlacementDecision} (h : place requirement candidates now = .ok decision) :
    ∃ current : Instant, now = .utc current.1 ∧
      ((decision.status = .placed → ∃ snapshot ∈ candidates, decision.selectedSnapshotId = some snapshot.snapshotId ∧
          Qualifies requirement snapshot current) ↔
        ∀ best ∈ (passing requirement candidates current).argmin candidateRank, UncheckedKnown requirement best) := by
  obtain ⟨current,hnow,hunique,hselected,hstatus⟩ := place_ok h
  refine ⟨current,hnow,?_⟩
  constructor
  · intro hsound best hbest
    rw [hbest] at hselected hstatus
    obtain ⟨snapshot,hmem,hid,hqualifies⟩ := hsound (hstatus.mpr rfl)
    obtain ⟨hcandidate,hpassed⟩ := List.mem_filter.mp (List.argmin_mem hbest)
    have hsame : snapshot = best :=
      List.inj_on_of_nodup_map hunique hmem hcandidate (Option.some.inj (hid.symm.trans hselected))
    rw [hsame] at hqualifies
    exact (qualifies_iff_of_passed (of_decide_eq_true hpassed)).mp hqualifies
  · intro hbest hplaced
    obtain ⟨best,hargmin⟩ := Option.isSome_iff_exists.mp (hstatus.mp hplaced)
    obtain ⟨hcandidate,hpassed⟩ := List.mem_filter.mp (List.argmin_mem hargmin)
    refine ⟨best,hcandidate,?_,(qualifies_iff_of_passed (of_decide_eq_true hpassed)).mpr (hbest best hargmin)⟩
    rw [hselected,hargmin]
    rfl

end

section
open Arbora.Scaling (isRef isRefChar sensitiveWords)

def clashes (word text : List Char) : Bool :=
  decide (word.take text.length = text.take word.length) && (word.drop text.length).all Sha256.hexadecimal

theorem clashes_of_fits {word text hex : List Char} (hhex : hex.all Sha256.hexadecimal = true)
    (h : word <+: text ++ hex) : clashes word text = true := by
  have hword := List.prefix_iff_eq_take.mp h
  unfold clashes
  rw [Bool.and_eq_true,decide_eq_true_eq]
  constructor
  · have hle : min text.length word.length ≤ text.length := min_le_left _ _
    rw [hword,List.take_take,List.take_append_of_le_length hle,List.length_take]
    rw [List.take_eq_take_iff]
    have := h.length_le
    omega
  · rw [List.all_eq_true] at hhex ⊢
    intro c hc
    rw [hword,List.drop_take,List.drop_left] at hc
    exact hhex c (List.mem_of_mem_take hc)

theorem hexadecimal_char {c : Char} (h : Sha256.hexadecimal c = true) : isRefChar c = true ∧ c.toLower = c := by
  have hval : c.val.toNat = c.toNat := rfl
  have hbounds : '0'.val.toNat = 48 ∧ '9'.val.toNat = 57 ∧ 'a'.val.toNat = 97 ∧ 'f'.val.toNat = 102 := by decide
  unfold Sha256.hexadecimal at h
  simp only [Bool.or_eq_true,Bool.and_eq_true,decide_eq_true_eq,Char.le_def,UInt32.le_iff_toNat_le,hbounds,
    hval] at h
  have hupper : c.isUpper = decide (c.val ≥ 65 ∧ c.val ≤ 90) := rfl
  have hlower : c.isLower = (decide (c.val ≥ 97) && decide (c.val ≤ 122)) := rfl
  have halphanum : c.isAlphanum = (c.isUpper || c.isLower || c.isDigit) := rfl
  constructor
  · simp only [isRefChar,halphanum,hupper,hlower,Char.isDigit,Bool.or_eq_true,Bool.and_eq_true,decide_eq_true_eq,UInt32.le_iff_toNat_le,ge_iff_le]
    simp
    omega
  · unfold Char.toLower
    simp [UInt32.le_iff_toNat_le]
    omega

theorem isRef_of_label {label hex : List Char} (hhex : hex.all Sha256.hexadecimal = true)
    (hlength : label.length + hex.length ≤ 256) (hhead : label.head?.any Char.isAlphanum = true)
    (hchars : label.all isRefChar = true)
    (hwords : ∀ word ∈ sensitiveWords.map String.toList, ∀ text ∈ (label.map Char.toLower).tails,
      clashes word text = false) : isRef (String.ofList (label ++ hex)) = true := by
  have hsmall : hex.map Char.toLower = hex := by
    rw [List.all_eq_true] at hhex
    exact (List.map_congr_left fun c hc => (hexadecimal_char (hhex c hc)).2).trans (List.map_id _)
  unfold isRef
  simp only [String.toList_ofList,String.length_ofList,List.map_append,hsmall,Bool.and_eq_true,
    decide_eq_true_eq,List.all_append,hchars,Bool.true_and,Bool.not_eq_true',List.any_eq_false]
  refine ⟨⟨⟨?_,?_⟩,?_⟩,?_⟩
  · rwa [List.length_append]
  · cases htext : label with
    | nil =>
      rw [htext] at hhead
      cases hhead
    | cons c rest =>
      rw [htext] at hhead
      exact hhead
  · rw [List.all_eq_true] at hhex ⊢
    exact fun c hc => (hexadecimal_char (hhex c hc)).1
  · intro word hword hany
    obtain ⟨text,htext,hstarts⟩ := List.any_eq_true.mp hany
    have hfits : word.toList <+: text := List.isPrefixOf_iff_prefix.mp hstarts
    have hnone := hwords word.toList (List.mem_map_of_mem hword)
    rw [List.tails_append,List.mem_append,List.mem_map] at htext
    rcases htext with ⟨start,hstart,rfl⟩ | htail
    · exact absurd (clashes_of_fits hhex hfits) (by rw [hnone start hstart]; nofun)
    · -- the word would stand within the digits
      have hsuffix := (List.mem_tails _ _).mp (List.mem_of_mem_tail htail)
      have hdigits : text.all Sha256.hexadecimal = true := by
        rw [List.all_eq_true] at hhex ⊢
        exact fun c hc => hhex c (hsuffix.subset hc)
      have hempty := hnone [] ((List.mem_tails _ _).mpr (List.nil_suffix))
      exact absurd (clashes_of_fits hdigits (List.nil_append text ▸ hfits)) (by rw [hempty]; nofun)

theorem isRef_label_hash {label : String} (bytes : List ℕ) (hlength : label.toList.length ≤ 200)
    (hhead : label.toList.head?.any Char.isAlphanum = true) (hchars : label.toList.all isRefChar = true)
    (hwords : ∀ word ∈ sensitiveWords.map String.toList, ∀ text ∈ (label.toList.map Char.toLower).tails,
      clashes word text = false) :
    isRef (String.ofList (label.toList ++ (Sha256.hexdigest bytes).take 32)) = true := by
  apply isRef_of_label (Sha256.hexadecimal_take _ 32) _ hhead hchars hwords
  rw [List.length_take]
  omega

theorem length_identityOf (label : String) (document : Json.Document) :
    (identityOf label document).length = label.toList.length + 32 := by
  have hlength : (hashOf document).length = 64 := Sha256.length_hexdigest _
  unfold identityOf
  rw [String.length_ofList,List.length_append,List.length_take,hlength]
  rfl

theorem isBoundedRef_of {bound : ℕ} {text : String} (hlength : 1 ≤ text.length ∧ text.length ≤ bound)
    (href : isRef text = true) : isBoundedRef bound text = true := by
  unfold isBoundedRef
  rw [decide_eq_true hlength,href,Bool.and_self]

theorem snapshotId_valid (snapshot : ResourcePoolSnapshot) :
    isBoundedRef 100 snapshot.snapshotId = true ∧ snapshot.snapshotId.length = 46 := by
  have hlength : snapshot.snapshotId.length = 46 := length_identityOf "pool-snapshot:" _
  refine ⟨isBoundedRef_of ?_ ?_,hlength⟩
  · rw [hlength]
    decide
  · exact isRef_label_hash _ (by decide) (by decide) (by decide) (by decide +kernel)

theorem requirementId_valid (requirement : PlacementRequirement) :
    isBoundedRef 100 requirement.requirementId = true := by
  have hlength : requirement.requirementId.length = 54 := length_identityOf "placement-requirement:" _
  refine isBoundedRef_of ?_ ?_
  · rw [hlength]
    decide
  · exact isRef_label_hash _ (by decide) (by decide) (by decide) (by decide +kernel)

end

section
variable {requirement : PlacementRequirement} {snapshot : ResourcePoolSnapshot} {current : Instant}

theorem currentOf_utc (current : Instant) : currentOf (.utc current.1) = .ok current := by
  have hutc : utc (.utc current.1) "now" = .ok current.1 := utc_ok_iff.mpr ⟨rfl,current.2⟩
  unfold currentOf
  split
  · rename_i e he
    cases hutc.symm.trans he
  · rename_i t ht
    have hsame : t = current.1 := Except.ok.inj (ht.symm.trans hutc)
    exact congrArg _ (Subtype.ext hsame)

def passedEvidence (snapshot : ResourcePoolSnapshot) : PlacementEvidence :=
  ⟨snapshot.snapshotId,snapshot.snapshotDigest,true,[]⟩

theorem passedEvidence_valid (snapshot : ResourcePoolSnapshot) :
    (passedEvidence snapshot).validate = .ok (passedEvidence snapshot) := by
  have hid : isBoundedRef 100 (passedEvidence snapshot).snapshotId = true := (snapshotId_valid snapshot).1
  unfold PlacementEvidence.validate
  rw [hid]
  rfl

def placedDecision (requirement : PlacementRequirement) (snapshot : ResourcePoolSnapshot) (current : Instant) :
    PlacementDecision where
  requirementId := requirement.requirementId
  evaluatedAt := current
  status := .placed
  selectedPoolRef := some snapshot.poolRef
  selectedSnapshotId := some snapshot.snapshotId
  selectedSnapshotDigest := some snapshot.snapshotDigest
  denialReasons := []
  evidence := [passedEvidence snapshot]
  candidateCount := 1
  evidenceTruncated := false

theorem placedDecision_valid (requirement : PlacementRequirement) (snapshot : ResourcePoolSnapshot)
    (current : Instant) :
    (placedDecision requirement snapshot current).validate = .ok (placedDecision requirement snapshot current) := by
  obtain ⟨hid,hlength⟩ := snapshotId_valid snapshot
  have href : Scaling.isRef snapshot.snapshotId = true := by
    exact (Bool.and_eq_true_iff.mp hid).2
  have hpool : snapshot.poolRef.1 ≠ "" := by
    intro hempty
    have hvalid := snapshot.poolRef.2
    rw [hempty] at hvalid
    exact absurd hvalid (by decide)
  have hnonempty : snapshot.snapshotId ≠ "" := by
    intro hempty
    rw [hempty] at hlength
    exact absurd hlength (by decide)
  have hfields : (placedDecision requirement snapshot current).fieldsValid = true := by
    simp [PlacementDecision.fieldsValid,placedDecision,requirementId_valid,snapshot.poolRef.2,hlength,href,
      maxDenialReasons,maxEvidence,maxCandidates]
  have hshape : (placedDecision requirement snapshot current).assertEvidenceShape = .ok () := by
    simp [PlacementDecision.assertEvidenceShape,placedDecision,maxEvidence]
  have hstatus : (placedDecision requirement snapshot current).assertStatusConsistency = .ok () := by
    simp [PlacementDecision.assertStatusConsistency,placedDecision,hpool,hnonempty]
  unfold PlacementDecision.validate
  rw [hfields,hshape,hstatus]
  rfl

theorem place_single (hpass : checkSnapshot snapshot requirement current = []) :
    place requirement [snapshot] (.utc current.1) = .ok (placedDecision requirement snapshot current) := by
  have hchecked : checkAllSnapshots requirement [snapshot] current = [(snapshot,[])] := by
    change [(snapshot,checkSnapshot snapshot requirement current)] = _
    rw [hpass]
  have hevidence : buildAllEvidence [(snapshot,[])] = .ok [passedEvidence snapshot] := by
    change (passedEvidence snapshot).validate >>= _ = _
    rw [passedEvidence_valid]
    rfl
  have hselected : selectEligibleCandidate [(snapshot,[])] = some snapshot := rfl
  have hcandidates : validatePlacementCandidates [snapshot] = .ok () := by
    simp [validatePlacementCandidates,maxCandidates]
  have hrows : buildEvidenceRows [passedEvidence snapshot] (some snapshot) = [passedEvidence snapshot] := by
    simp [buildEvidenceRows,maxEvidence,passedEvidence]
  unfold place
  rw [currentOf_utc]
  simp only [bind,Except.bind,hcandidates,hchecked,hevidence,hselected,hrows]
  exact placedDecision_valid requirement snapshot current

end

namespace Fixture

def amount (value : ℕ) (h : value ≤ maxResourceValue := by decide) : ResourceAmount := .known value h
def absent : ResourceAmount := .missing .absent nofun

def free (allocatable : ℕ) (h : allocatable ≤ maxResourceValue := by decide) : ResourceAccounting where
  allocatable := amount allocatable h
  reserved := amount 0
  used := amount 0
  ordered := by
    intro a ha r hr u hu
    cases ha
    cases hr
    cases hu
    exact ⟨le_rfl,Nat.zero_le _⟩

def text (value : String) (h : Scaling.isRef value = true := by decide +kernel) : Ref := ⟨value,h⟩
def noFeatures : IsaFeatures := ⟨[],List.Pairwise.nil,nofun,by decide⟩

def features : IsaFeatures where
  features := ["avx2"]
  sorted := List.pairwise_singleton _ _
  tokens := by decide +kernel
  bounded := by decide

def gpu (state : CapabilityState) : GpuCapability where
  state := .known
  runtime := some .cuda
  runtimeVersionRef := none
  deviceCount := amount 1
  memory := free 16384
  migProfiles := [⟨text "mig:1g.5gb",state,amount 2,amount 5120⟩]
  profilesBounded := by simp [maxMigProfiles]
  knownTruth := fun _ => ⟨nofun,nofun,rfl⟩
  otherTruth := fun h => absurd rfl h
  profilesUnique := List.nodup_singleton _

def capabilities (state : CapabilityState) : ResourceCapabilities where
  cpu := ⟨.known,some .x86_64,.known,features,free 8000,by decide,by simp [features]⟩
  memory := free 22528
  gpu := gpu state
  storage := ⟨free 524288,amount 20000,amount 20000,.absent,absent,absent,absent,nofun,fun _ => by decide⟩
  network := ⟨.known,amount 10000,amount 10000,amount 500⟩
  energy := ⟨.known,amount 250,amount 90⟩
  cost := ⟨.known,some "USD",amount 100,by decide +kernel,by decide⟩

def hour (n : ℤ) (h : supportedFrom ≤ 1787140800000000 + n * 3600000000 ∧
    1787140800000000 + n * 3600000000 < supportedUntil := by decide) : Instant :=
  ⟨1787140800000000 + n * 3600000000,h⟩

def snapshot (state : CapabilityState) : ResourcePoolSnapshot where
  poolRef := text "pool:small-gpu-a"
  revision := 1
  observedAt := hour (-1)
  expiresAt := hour 1
  capabilities := capabilities state
  attestation := ⟨.verified,.ed25519,text "signer:inventory",text "signature:one",
    capabilityPayloadDigest (capabilities state),hour (-1),hour 1,by decide⟩
  revisionBounded := by decide
  window := by decide
  attestedBefore := le_rfl
  attestedUntil := le_rfl
  attestedSubject := rfl

def requirement : PlacementRequirement where
  architecture := none
  requiredIsa := noFeatures
  cpuMilli := 1000
  memoryMib := 1024
  diskMib := 0
  diskReadIops := 0
  diskWriteIops := 0
  gpu := ⟨1,0,none,some (text "mig:1g.5gb"),by decide,nofun⟩
  nvme := ⟨false,0,0,0,by decide,fun _ => ⟨rfl,rfl,rfl⟩⟩
  network := ⟨0,0,none,by simp⟩
  maxPowerWatts := none
  maxCostMicrosPerHour := none
  positive := by decide
  bounded := by decide
  limits := ⟨nofun,nofun⟩

theorem passes (state : CapabilityState) : checkSnapshot (snapshot state) requirement (hour 0) = [] := by
  cases state <;> decide +kernel

end Fixture

/-- A MIG profile in state stale is placed on. -/
theorem stale_profile_placed : ¬∀ requirement candidates now decision,
    place requirement candidates now = .ok decision → decision.status = .placed →
    ∃ current : Instant, now = .utc current.1 ∧ ∃ snapshot ∈ candidates,
      decision.selectedSnapshotId = some snapshot.snapshotId ∧ Qualifies requirement snapshot current := by
  intro h
  obtain ⟨current,-,snapshot,hmem,-,hqualifies⟩ := h _ _ _ _ (place_single (Fixture.passes .stale)) rfl
  cases List.mem_singleton.mp hmem
  obtain ⟨profile,hprofile,-,hstate,-⟩ := (hqualifies.gpu (by decide)).profile _ rfl
  cases List.mem_singleton.mp hprofile
  cases hstate

theorem known_profile_placement : ∃ current : Instant, DateTime.utc (Fixture.hour 0).1 = .utc current.1 ∧
    (((placedDecision Fixture.requirement (Fixture.snapshot .known) (Fixture.hour 0)).status = .placed →
      ∃ snapshot ∈ [Fixture.snapshot .known],
        (placedDecision Fixture.requirement (Fixture.snapshot .known) (Fixture.hour 0)).selectedSnapshotId =
          some snapshot.snapshotId ∧ Qualifies Fixture.requirement snapshot current) ↔
      ∀ best ∈ (passing Fixture.requirement [Fixture.snapshot .known] current).argmin candidateRank,
        UncheckedKnown Fixture.requirement best) :=
  placement_sound_iff (place_single (Fixture.passes .known))

end Arbora.Placement
