import Arbora.Lib.Dict
import Arbora.Lib.Guards
import Arbora.Migrations.Models
import Mathlib.Data.Finset.Dedup

/-! The staged migration authority: its dictionaries and every operation on them. -/
namespace Arbora.Migrations
open Guards
open Json (orNull)

inductive ErrorKind where
  | casConflict | conflict | gate | notFound | prerequisite | replay | validation

/-- A raised error, with its text; `validation` is a refusal of the models themselves. -/
structure MigrationError where
  kind : ErrorKind
  message : String

structure Authority where
  snapshots : Dict String SourceSnapshot
  plans : Dict String MigrationPlan
  inventories : Dict String MigrationInventory
  backfills : Dict String BackfillBatch
  reconciliations : Dict String ShadowReconciliation
  readCutovers : Dict String CohortReadCutover
  writeFences : Dict String WriteCutoverFence
  checkpoints : Dict String ProjectionCheckpoint
  retirements : Dict String LegacyRetirement
  rollbacks : Dict String MigrationRollback

def Authority.empty : Authority := ⟨∅,∅,∅,∅,∅,∅,∅,∅,∅,∅⟩

abbrev Op (α : Type) := Guards.Op MigrationError Authority α

def casVersion (actual : Version) (expected : Option ℤ) : Except MigrationError Unit :=
  if expected = some (actual.1 : ℤ) then .ok () else .error ⟨.casConflict,"migration_cas_conflict"⟩

/-- The plan's fields with the updates, one version on. -/
def PlanData.advance (data : PlanData) (version : Version) (state : MigrationState) (stage : MigrationStage) :
    PlanData :=
  let data := {data with state, stage, version}
  {data with digest := data.digestOf}

def nextPlan (plan : MigrationPlan) (expectedVersion : ℤ) (state : MigrationState) (stage : MigrationStage)
    (updates : PlanData → PlanData) : Except MigrationError MigrationPlan := do
  casVersion plan.version (some expectedVersion)
  if h : plan.version.1 < maxVersion then
    let data := (updates plan.toPlanData).advance ⟨plan.version.1 + 1,by omega⟩ state stage
    if hvalid : data.Valid then .ok ⟨data,hvalid⟩ else .error ⟨.validation,"MigrationPlan"⟩
  else .error ⟨.casConflict,"migration_version_exhausted"⟩

def sameOrConflict {α : Type} [DecidableEq α] (existing : Option α) (incoming : α) (identity : String) :
    Except MigrationError (Option α) :=
  match existing with
  | none => .ok none
  | some e => if e = incoming then .ok (some e) else .error ⟨.replay,identity ++ "_replay_drift"⟩

def requireGate (gate : PrerequisiteGate) (migrationRef : OpaqueRef) (sourceSnapshotDigest : Digest)
    (stage : MigrationStage) : Except MigrationError Unit :=
  if gate.migrationRef ≠ migrationRef ∨ gate.sourceSnapshotDigest ≠ sourceSnapshotDigest ∨ gate.stage ≠ stage then
    .error ⟨.gate,"migration_gate_binding_mismatch"⟩
  else if gate.decision ≠ .passed then .error ⟨.gate,"migration_gate_blocked"⟩
  else .ok ()

def snapshotAt (snapshotRef digest : String) : Op SourceSnapshot := do
  let s ← get
  let snapshot ← found (s.snapshots.get snapshotRef) ⟨.prerequisite,"source_snapshot_missing"⟩
  refuse (snapshot.snapshotDigest.1 ≠ digest) ⟨.conflict,"source_snapshot_digest_drift"⟩
  return snapshot

def planAt (planRef : String) : Op MigrationPlan := do
  let s ← get
  found (s.plans.get planRef) ⟨.notFound,"migration_not_found"⟩

def registerSnapshot (snapshot : SourceSnapshot) : Op SourceSnapshot := do
  let s ← get
  match ← check (sameOrConflict (s.snapshots.get snapshot.snapshotRef) snapshot "source_snapshot") with
  | some same => return same
  | none =>
    modify fun s => {s with snapshots := s.snapshots.set snapshot.snapshotRef snapshot}
    return snapshot

def createPlan (plan : MigrationPlan) (snapshot : SourceSnapshot) : Op MigrationPlan := do
  refuse (plan.version.1 ≠ 1 ∨ plan.state ≠ .planned) ⟨.conflict,"migration_plan_not_initial"⟩
  refuse (plan.sourceSnapshotRef ≠ snapshot.snapshotRef) ⟨.conflict,"migration_plan_snapshot_ref_mismatch"⟩
  refuse (plan.sourceSnapshotDigest ≠ snapshot.snapshotDigest)
    ⟨.conflict,"migration_plan_snapshot_digest_mismatch"⟩
  let _ ← registerSnapshot snapshot
  let s ← get
  match ← check (sameOrConflict (s.plans.get plan.planRef) plan "migration_plan") with
  | some same => return same
  | none =>
    modify fun s => {s with plans := s.plans.set plan.planRef plan}
    return plan

def inventoryMatchesSnapshotBinding (inventory : MigrationInventory) (plan : MigrationPlan)
    (snapshot : SourceSnapshot) (sourceFileRefs : List OpaqueRef) : Bool :=
  if inventory.migrationRef ≠ plan.migrationRef ∨ inventory.sourceSnapshotRef ≠ plan.sourceSnapshotRef ∨
      inventory.sourceSnapshotDigest ≠ plan.sourceSnapshotDigest then false
  else !inventory.items.any fun item =>
    item.sourceRef ≠ snapshot.sourceRef || item.sourceRevision ≠ snapshot.revision ||
      item.sourceFileRef.any fun file => file ∉ sourceFileRefs

def freezeInventory (planRef : String) (inventory : MigrationInventory) (expectedPlanVersion : ℤ) :
    Op MigrationPlan := do
  let plan ← planAt planRef
  let snapshot ← snapshotAt plan.sourceSnapshotRef plan.sourceSnapshotDigest
  let sourceFileRefs := snapshot.files.map (·.sourceFileRef)
  refuse (inventoryMatchesSnapshotBinding inventory plan snapshot sourceFileRefs = false)
    ⟨.conflict,"inventory_snapshot_binding_mismatch"⟩
  let s ← get
  match ← check (sameOrConflict (s.inventories.get inventory.inventoryRef) inventory "migration_inventory") with
  | some _ =>
    refuse (plan.inventoryRef ≠ some inventory.inventoryRef) ⟨.replay,"inventory_reference_replay_drift"⟩
    return plan
  | none =>
    refuse (plan.state ≠ .planned) ⟨.prerequisite,"inventory_freeze_stage_invalid"⟩
    let updated ← check <| nextPlan plan expectedPlanVersion .inventoryFrozen .inventoryFreeze
      fun data => {data with inventoryRef := some inventory.inventoryRef}
    modify fun s => {s with inventories := s.inventories.set inventory.inventoryRef inventory}
    modify fun s => {s with plans := s.plans.set plan.planRef updated}
    return updated

def backfillObservationConflict (batch : BackfillBatch) (inventoryRefs : List OpaqueRef)
    (snapshot : SourceSnapshot) : Option String :=
  if batch.observations.any fun o => o.canonicalRef ∉ inventoryRefs then
    some "backfill_identity_not_in_inventory"
  else if batch.observations.any fun o => o.sourceRevision ≠ snapshot.revision then
    some "backfill_source_revision_mismatch"
  else none

/-- The refusal that names the conflict, if there is one. -/
def conflicting : Option String → Except MigrationError Unit
  | none => .ok ()
  | some key => .error ⟨.conflict,key⟩

def inventoryAt (s : Authority) (inventoryRef : Option OpaqueRef) : Option MigrationInventory :=
  inventoryRef.bind fun r => s.inventories.get r

def recordBackfill (planRef : String) (batch : BackfillBatch) (expectedPlanVersion : ℤ) :
    Op MigrationPlan := do
  let plan ← planAt planRef
  let snapshot ← snapshotAt plan.sourceSnapshotRef plan.sourceSnapshotDigest
  refuse (batch.migrationRef ≠ plan.migrationRef ∨ batch.sourceSnapshotDigest ≠ plan.sourceSnapshotDigest)
    ⟨.conflict,"backfill_snapshot_binding_mismatch"⟩
  let s ← get
  let inventory ← found (inventoryAt s plan.inventoryRef) ⟨.prerequisite,"frozen_inventory_missing"⟩
  let inventoryRefs := inventory.items.map (·.canonicalRef)
  check (conflicting (backfillObservationConflict batch inventoryRefs snapshot))
  match ← check (sameOrConflict (s.backfills.get batch.batchRef) batch "backfill_batch") with
  | some _ => return plan
  | none =>
    refuse (plan.state ≠ .inventoryFrozen ∧ plan.state ≠ .backfillObserving)
      ⟨.prerequisite,"backfill_stage_invalid"⟩
    let nextState := if plan.state = .inventoryFrozen then .backfillObserving else plan.state
    let updated ← check <| nextPlan plan expectedPlanVersion nextState .readOnlyBackfill id
    modify fun s => {s with backfills := s.backfills.set batch.batchRef batch}
    modify fun s => {s with plans := s.plans.set plan.planRef updated}
    return updated

def observationsFor (s : Authority) (plan : MigrationPlan) : List BackfillObservation :=
  let batches := s.backfills.values.filter fun batch =>
    batch.migrationRef = plan.migrationRef ∧ batch.sourceSnapshotDigest = plan.sourceSnapshotDigest
  (batches.flatMap (·.observations)).insertionSort fun a b => a.canonicalRef.1 ≤ b.canonicalRef.1

def firstVersion : Version := ⟨1,by decide⟩

def delta (canonicalRef : OpaqueRef) (kind : DeltaKind) (sourceDigest targetDigest : Option Digest)
    (h : kind.digestsPresent sourceDigest targetDigest = true) : ShadowDelta :=
  let data := Json.sorted [("canonical_ref",refDocument canonicalRef),("kind",.string kind.value),
    ("source_digest",orNull digestDocument sourceDigest),("target_digest",orNull digestDocument targetDigest)]
  {canonicalRef, kind, sourceDigest, targetDigest, evidenceDigest := canonicalDigest data,
    version := firstVersion, digest := canonicalDigest data, digestsPresent := h}

abbrev RecordMap := Dict OpaqueRef CanonicalRecord

def recordMap (records : List CanonicalRecord) : RecordMap :=
  records.foldl (fun map record => map.set record.canonicalRef record) ∅

def buildShadowRecordMaps (sourceRecords targetRecords : List CanonicalRecord) :
    Except MigrationError (RecordMap × RecordMap) :=
  let sourceMap := recordMap sourceRecords
  let targetMap := recordMap targetRecords
  if sourceMap.entries.length ≠ sourceRecords.length ∨ targetMap.entries.length ≠ targetRecords.length then
    .error ⟨.conflict,"shadow_record_duplicate"⟩
  else .ok (sourceMap,targetMap)

def loadShadowObservations (s : Authority) (plan : MigrationPlan) :
    Except MigrationError (List BackfillObservation) :=
  let observations := observationsFor s plan
  if observations = [] then .error ⟨.prerequisite,"backfill_observations_missing"⟩
  else if ¬(observations.map (·.canonicalRef)).Nodup then .error ⟨.conflict,"backfill_identity_duplicate"⟩
  else .ok observations

def loadShadowInventory (s : Authority) (plan : MigrationPlan) : Except MigrationError MigrationInventory :=
  match s.inventories.get ((plan.inventoryRef.map Subtype.val).getD "") with
  | none => .error ⟨.prerequisite,"frozen_inventory_missing"⟩
  | some inventory => .ok inventory

def validateShadowBackfillCoverage (s : Authority) (plan : MigrationPlan)
    (sourceRecords : List CanonicalRecord) (snapshot : SourceSnapshot) : Except MigrationError (Bool × Bool) :=
  if sourceRecords.any fun record => record.sourceRevision ≠ snapshot.revision then
    .error ⟨.conflict,"shadow_source_revision_mismatch"⟩
  else do
    let observations ← loadShadowObservations s plan
    let inventory ← loadShadowInventory s plan
    let accepted := (observations.filter fun o => o.disposition = .accepted).map (·.canonicalRef)
    if sourceRecords.any fun record => record.canonicalRef ∉ accepted then
      .error ⟨.prerequisite,"shadow_record_not_backfilled"⟩
    else .ok (observations.any fun o => o.disposition ≠ .accepted,
      inventory.items.any fun item => item.state ≠ .present)

def shadowDeltaFor (canonicalRef : OpaqueRef) : Option CanonicalRecord → Option CanonicalRecord → Option ShadowDelta
  | none, some target => some (delta canonicalRef .delete none (some target.recordDigest) rfl)
  | some source, none => some (delta canonicalRef .add (some source.recordDigest) none rfl)
  | some source, some target =>
    if source.recordDigest ≠ target.recordDigest ∨ source.sourceRevision ≠ target.sourceRevision then
      some (delta canonicalRef .update (some source.recordDigest) (some target.recordDigest) rfl)
    else none
  | none, none => none

def computeShadowDeltas (sourceMap targetMap : RecordMap) : List ShadowDelta :=
  let refs := (sourceMap.keys ∪ targetMap.keys).insertionSort fun a b => a.1 ≤ b.1
  refs.filterMap fun r => shadowDeltaFor r (sourceMap.get r) (targetMap.get r)

def shadowReconciliationState (hasRejected hasInventoryReject : Bool) (deltas : List ShadowDelta) :
    ReconciliationState :=
  if hasRejected || hasInventoryReject then .blocked
  else if deltas = [] then .clean
  else .needsReview

def digestSlice (digest : String) : List Char := (digest.toList.drop 7).take 16
def reconciliationRefOf (sourceSnapshotDigest targetSnapshotDigest : String) : String :=
  String.ofList ("reconcile:".toList ++ digestSlice sourceSnapshotDigest ++ ':' :: digestSlice targetSnapshotDigest)

theorem isRefChar_of_hexadecimal {c : Char} (h : Sha256.hexadecimal c = true) : isRefChar c = true := by
  unfold Sha256.hexadecimal at h
  unfold isRefChar isLetter
  simp only [Bool.or_eq_true,Bool.and_eq_true,decide_eq_true_eq] at *
  rcases h with h | ⟨h1,h2⟩
  · simp [h]
  · have h3 : c ≤ 'z' := h2.trans (by decide)
    simp [h1,h3]

theorem digestSlice_spec {digest : String} (h : isDigest digest = true) :
    (digestSlice digest).all isRefChar = true ∧ (digestSlice digest).length = 16 := by
  unfold isDigest at h
  simp only [Bool.and_eq_true,decide_eq_true_eq] at h
  obtain ⟨⟨_,hlength⟩,hhex⟩ := h
  refine ⟨?_,?_⟩
  · rw [List.all_eq_true] at *
    intro c hc
    exact isRefChar_of_hexadecimal (hhex c (List.mem_of_mem_take hc))
  · unfold digestSlice
    rw [List.length_take,hlength]
    rfl

theorem isRef_reconciliationRefOf {source target : String} (hs : isDigest source = true)
    (ht : isDigest target = true) : isRef (reconciliationRefOf source target) = true := by
  obtain ⟨hsource,hslength⟩ := digestSlice_spec hs
  obtain ⟨htarget,htlength⟩ := digestSlice_spec ht
  have hlabel : "reconcile:".toList = ['r','e','c','o','n','c','i','l','e',':'] := by decide
  unfold isRef reconciliationRefOf
  rw [String.toList_ofList,hlabel]
  simp only [List.cons_append,List.nil_append,List.all_cons,List.all_append,List.length_cons,
    List.length_append,hsource,htarget,hslength,htlength]
  decide

def buildShadowReconciliationCandidate (plan : MigrationPlan) (sourceSnapshotDigest targetSnapshotDigest : String)
    (deltas : List ShadowDelta) (state : ReconciliationState) : Except MigrationError ShadowReconciliation :=
  if h : (isDigest sourceSnapshotDigest = true ∧ isDigest targetSnapshotDigest = true) ∧
      deltas.length ≤ maxEvidenceItems ∧ state.summarises deltas = true then
    let reconciliationRef : OpaqueRef :=
      ⟨reconciliationRefOf sourceSnapshotDigest targetSnapshotDigest,isRef_reconciliationRefOf h.1.1 h.1.2⟩
    let deltaDigest := deltaDigestOf deltas
    .ok {
      reconciliationRef
      migrationRef := plan.migrationRef
      sourceSnapshotDigest := ⟨sourceSnapshotDigest,h.1.1⟩
      targetSnapshotDigest := ⟨targetSnapshotDigest,h.1.2⟩
      deltas
      deltaCount := ⟨deltas.length,h.2.1.trans (by decide)⟩
      deltaDigest
      state
      version := firstVersion
      digest := canonicalDigest <| Json.sorted [("reconciliation_ref",refDocument reconciliationRef),
        ("migration_ref",refDocument plan.migrationRef),
        ("source_snapshot_digest",.string sourceSnapshotDigest),
        ("target_snapshot_digest",.string targetSnapshotDigest),("delta_digest",digestDocument deltaDigest),
        ("state",.string state.value),("version",Json.natural 1)]
      deltasBounded := h.2.1
      countExact := rfl
      digestMatches := rfl
      summary := h.2.2}
  else .error ⟨.validation,"ShadowReconciliation"⟩

def reconciledPlan (plan : MigrationPlan) (candidate : ShadowReconciliation) (expectedPlanVersion : ℤ) :
    Except MigrationError (Option MigrationPlan) :=
  if candidate.state = .clean ∧ plan.state = .backfillObserving then do
    let updated ← nextPlan plan expectedPlanVersion .shadowReconciled .shadowReconciliation
      fun data => {data with reconciliationRef := some candidate.reconciliationRef}
    return some updated
  else do
    casVersion plan.version (some expectedPlanVersion)
    return none

def storePlan (plan : MigrationPlan) : Option MigrationPlan → Op Unit
  | none => pure ()
  | some updated => modify fun s => {s with plans := s.plans.set plan.planRef updated}

def commitShadowReconciliation (plan : MigrationPlan) (candidate : ShadowReconciliation)
    (expectedPlanVersion : ℤ) : Op ShadowReconciliation := do
  let s ← get
  match ← check (sameOrConflict (s.reconciliations.get candidate.reconciliationRef) candidate
      "shadow_reconciliation") with
  | some existing => return existing
  | none =>
    let updated ← check (reconciledPlan plan candidate expectedPlanVersion)
    storePlan plan updated
    modify fun s => {s with reconciliations := s.reconciliations.set candidate.reconciliationRef candidate}
    return candidate

def reconcileShadow (planRef sourceSnapshotDigest targetSnapshotDigest : String)
    (sourceRecords targetRecords : List CanonicalRecord) (expectedPlanVersion : ℤ) :
    Op ShadowReconciliation := do
  let plan ← planAt planRef
  let snapshot ← snapshotAt plan.sourceSnapshotRef sourceSnapshotDigest
  refuse (plan.state ≠ .backfillObserving ∧ plan.state ≠ .shadowReconciled) ⟨.prerequisite,"shadow_stage_invalid"⟩
  let (sourceMap,targetMap) ← check (buildShadowRecordMaps sourceRecords targetRecords)
  let s ← get
  let (hasRejected,hasInventoryReject) ← check (validateShadowBackfillCoverage s plan sourceRecords snapshot)
  let deltas := computeShadowDeltas sourceMap targetMap
  let state := shadowReconciliationState hasRejected hasInventoryReject deltas
  refuse (targetSnapshotDigest = sourceSnapshotDigest ∧ deltas ≠ []) ⟨.conflict,"same_snapshot_nonzero_delta"⟩
  let candidate ← check
    (buildShadowReconciliationCandidate plan sourceSnapshotDigest targetSnapshotDigest deltas state)
  commitShadowReconciliation plan candidate expectedPlanVersion

def cleanReconciliation (s : Authority) (plan : MigrationPlan) : Except MigrationError ShadowReconciliation :=
  let clean := s.reconciliations.values.filter fun r =>
    r.migrationRef = plan.migrationRef ∧ r.sourceSnapshotDigest = plan.sourceSnapshotDigest ∧ r.state = .clean
  match (clean.insertionSort fun a b => a.reconciliationRef.1 ≤ b.reconciliationRef.1).getLast? with
  | none => .error ⟨.prerequisite,"clean_shadow_missing"⟩
  | some last => .ok last

def cutoverReads (planRef : String) (cutover : CohortReadCutover) (gate : PrerequisiteGate)
    (expectedPlanVersion : ℤ) : Op MigrationPlan := do
  let plan ← planAt planRef
  check (requireGate gate plan.migrationRef plan.sourceSnapshotDigest .cohortReadCutover)
  let s ← get
  let _ ← check (cleanReconciliation s plan)
  refuse (cutover.migrationRef ≠ plan.migrationRef ∨ cutover.sourceSnapshotDigest ≠ plan.sourceSnapshotDigest ∨
    cutover.gateRef ≠ gate.gateRef) ⟨.conflict,"read_cutover_binding_mismatch"⟩
  match ← check (sameOrConflict (s.readCutovers.get cutover.cutoverRef) cutover "read_cutover") with
  | some _ => return plan
  | none =>
    refuse (plan.state ≠ .shadowReconciled ∧ plan.state ≠ .readCutover)
      ⟨.prerequisite,"read_cutover_stage_invalid"⟩
    let cohortRefs := (plan.cohortRefs.insert cutover.cohortRef).insertionSort fun a b => a.1 ≤ b.1
    let updated ← check <| nextPlan plan expectedPlanVersion .readCutover .cohortReadCutover
      fun data => {data with cohortRefs}
    modify fun s => {s with readCutovers := s.readCutovers.set cutover.cutoverRef cutover}
    modify fun s => {s with plans := s.plans.set plan.planRef updated}
    return updated

def fenceWrites (planRef : String) (fence : WriteCutoverFence) (gate : PrerequisiteGate)
    (expectedPlanVersion : ℤ) : Op MigrationPlan := do
  let plan ← planAt planRef
  check (requireGate gate plan.migrationRef plan.sourceSnapshotDigest .writeCutover)
  refuse (fence.migrationRef ≠ plan.migrationRef ∨ fence.sourceSnapshotDigest ≠ plan.sourceSnapshotDigest ∨
    fence.authorityRef ≠ plan.targetAuthorityRef ∨ fence.gateRef ≠ gate.gateRef ∨
    fence.cohortRefs.toFinset ≠ plan.cohortRefs.toFinset) ⟨.conflict,"write_fence_binding_mismatch"⟩
  let s ← get
  match ← check (sameOrConflict (s.writeFences.get fence.fenceRef) fence "write_fence") with
  | some _ => return plan
  | none =>
    refuse (plan.state ≠ .readCutover) ⟨.prerequisite,"write_cutover_stage_invalid"⟩
    let updated ← check <| nextPlan plan expectedPlanVersion .writeFenced .writeCutover
      fun data => {data with writeFenceRef := some fence.fenceRef}
    modify fun s => {s with writeFences := s.writeFences.set fence.fenceRef fence}
    modify fun s => {s with plans := s.plans.set plan.planRef updated}
    return updated

def fenceAt (s : Authority) (fenceRef : Option OpaqueRef) : Option WriteCutoverFence :=
  fenceRef.bind fun r => s.writeFences.get r

def checkpointProjection (planRef : String) (checkpoint : ProjectionCheckpoint) (gate : PrerequisiteGate)
    (expectedPlanVersion : ℤ) : Op MigrationPlan := do
  let plan ← planAt planRef
  check (requireGate gate plan.migrationRef plan.sourceSnapshotDigest .projectionCheckpoint)
  refuse (checkpoint.migrationRef ≠ plan.migrationRef ∨
    checkpoint.sourceSnapshotDigest ≠ plan.sourceSnapshotDigest ∨ checkpoint.gateRef ≠ gate.gateRef ∨
    checkpoint.state ≠ .complete) ⟨.conflict,"projection_checkpoint_binding_mismatch"⟩
  let s ← get
  match ← check (sameOrConflict (s.checkpoints.get checkpoint.checkpointRef) checkpoint
      "projection_checkpoint") with
  | some _ => return plan
  | none =>
    refuse (plan.state ≠ .writeFenced ∨ plan.writeFenceRef = none)
      ⟨.prerequisite,"projection_checkpoint_stage_invalid"⟩
    refuse ((fenceAt s plan.writeFenceRef).map (·.state) ≠ some .active)
      ⟨.prerequisite,"active_write_fence_missing"⟩
    let updated ← check <| nextPlan plan expectedPlanVersion .checkpointed .projectionCheckpoint
      fun data => {data with checkpointRef := some checkpoint.checkpointRef}
    modify fun s => {s with checkpoints := s.checkpoints.set checkpoint.checkpointRef checkpoint}
    modify fun s => {s with plans := s.plans.set plan.planRef updated}
    return updated

def retirementProofInvalid (retirement : LegacyRetirement) (plan : MigrationPlan) (gate : PrerequisiteGate) : Bool :=
  retirement.migrationRef ≠ plan.migrationRef || retirement.sourceSnapshotDigest ≠ plan.sourceSnapshotDigest ||
    some retirement.writeFenceRef ≠ plan.writeFenceRef || some retirement.checkpointRef ≠ plan.checkpointRef ||
    retirement.gateRef ≠ gate.gateRef || retirement.state ≠ .retired ||
    retirement.remainingConsumers.1 ≠ 0 || retirement.remainingFacades.1 ≠ 0

def retireLegacy (planRef : String) (retirement : LegacyRetirement) (gate : PrerequisiteGate)
    (expectedPlanVersion : ℤ) : Op MigrationPlan := do
  let plan ← planAt planRef
  check (requireGate gate plan.migrationRef plan.sourceSnapshotDigest .legacyRetirement)
  refuse (retirementProofInvalid retirement plan gate = true) ⟨.conflict,"legacy_retirement_proof_invalid"⟩
  let s ← get
  match ← check (sameOrConflict (s.retirements.get retirement.retirementRef) retirement
      "legacy_retirement") with
  | some _ => return plan
  | none =>
    refuse (plan.state ≠ .checkpointed) ⟨.prerequisite,"legacy_retirement_stage_invalid"⟩
    let updated ← check <| nextPlan plan expectedPlanVersion .retired .legacyRetirement
      fun data => {data with retirementRef := some retirement.retirementRef}
    modify fun s => {s with retirements := s.retirements.set retirement.retirementRef retirement}
    modify fun s => {s with plans := s.plans.set plan.planRef updated}
    return updated

/-- The fence one version on, in state `rolled_back`. -/
def WriteCutoverFence.rolledBackAt (fence : WriteCutoverFence) (version : Version) : WriteCutoverFence :=
  let data := {fence with state := .rolledBack, version}
  {data with digest := data.digestOf}

def rolledBackFenceFor (s : Authority) (plan : MigrationPlan) (rollback : MigrationRollback) :
    Except MigrationError (Option WriteCutoverFence) :=
  if plan.state ≠ .writeFenced ∧ plan.state ≠ .checkpointed then .ok none
  else if rollback.fenceRef ≠ plan.writeFenceRef then .error ⟨.conflict,"rollback_fence_binding_invalid"⟩
  else match s.writeFences.get ((plan.writeFenceRef.map Subtype.val).getD "") with
  | none => .error ⟨.prerequisite,"rollback_fence_missing"⟩
  | some fence =>
    if h : fence.version.1 < maxVersion then .ok (some (fence.rolledBackAt ⟨fence.version.1 + 1,by omega⟩))
    else .error ⟨.casConflict,"migration_version_exhausted"⟩

def appliedRollback (rollback : MigrationRollback) : MigrationRollback :=
  if rollback.decision ≠ .requested then rollback
  else
    let applied := {rollback with decision := .applied}
    {applied with digest := applied.digestOf}

def storeFence : Option WriteCutoverFence → Op Unit
  | none => pure ()
  | some fence => modify fun s => {s with writeFences := s.writeFences.set fence.fenceRef fence}

def rollback (planRef : String) (rollback : MigrationRollback) (expectedPlanVersion : ℤ) :
    Op MigrationPlan := do
  let plan ← planAt planRef
  refuse (plan.state = .retired) ⟨.prerequisite,"retired_migration_not_rollbackable"⟩
  refuse (rollback.migrationRef ≠ plan.migrationRef ∨ rollback.sourceSnapshotDigest ≠ plan.sourceSnapshotDigest ∨
    (rollback.decision ≠ .requested ∧ rollback.decision ≠ .applied)) ⟨.conflict,"rollback_binding_invalid"⟩
  let s ← get
  match ← check (sameOrConflict (s.rollbacks.get rollback.rollbackRef) rollback "rollback") with
  | some _ => return plan
  | none =>
    let rolledBackFence ← check (rolledBackFenceFor s plan rollback)
    let applied := appliedRollback rollback
    let updated ← check <| nextPlan plan expectedPlanVersion .rolledBack .rollback id
    storeFence rolledBackFence
    modify fun s => {s with rollbacks := s.rollbacks.set applied.rollbackRef applied}
    modify fun s => {s with plans := s.plans.set plan.planRef updated}
    return updated

/-- What an operation returns. -/
inductive Answer where
  | snapshot (record : SourceSnapshot)
  | plan (record : MigrationPlan)
  | inventory (record : MigrationInventory)
  | backfill (record : BackfillBatch)
  | reconciliation (record : ShadowReconciliation)
  | writeFence (record : WriteCutoverFence)
  | checkpoint (record : ProjectionCheckpoint)
  | retirement (record : LegacyRetirement)
  | rollback (record : MigrationRollback)

inductive Call where
  | registerSnapshot (snapshot : SourceSnapshot)
  | createPlan (plan : MigrationPlan) (snapshot : SourceSnapshot)
  | freezeInventory (planRef : String) (inventory : MigrationInventory) (expectedPlanVersion : ℤ)
  | recordBackfill (planRef : String) (batch : BackfillBatch) (expectedPlanVersion : ℤ)
  | reconcileShadow (planRef sourceSnapshotDigest targetSnapshotDigest : String)
      (sourceRecords targetRecords : List CanonicalRecord) (expectedPlanVersion : ℤ)
  | cutoverReads (planRef : String) (cutover : CohortReadCutover) (gate : PrerequisiteGate)
      (expectedPlanVersion : ℤ)
  | fenceWrites (planRef : String) (fence : WriteCutoverFence) (gate : PrerequisiteGate)
      (expectedPlanVersion : ℤ)
  | checkpointProjection (planRef : String) (checkpoint : ProjectionCheckpoint) (gate : PrerequisiteGate)
      (expectedPlanVersion : ℤ)
  | retireLegacy (planRef : String) (retirement : LegacyRetirement) (gate : PrerequisiteGate)
      (expectedPlanVersion : ℤ)
  | rollback (planRef : String) (rollback : MigrationRollback) (expectedPlanVersion : ℤ)
  | getPlan (planRef : String)
  | getInventory (inventoryRef : String)
  | getBackfill (batchRef : String)
  | getReconciliation (reconciliationRef : String)
  | getWriteFence (fenceRef : String)
  | getCheckpoint (checkpointRef : String)
  | getRetirement (retirementRef : String)
  | getRollback (rollbackRef : String)

/-- The record a getter finds under a reference. -/
def stored {α : Type} (dict : Authority → Dict String α) (ref : String) : Op α := do
  let s ← get
  found ((dict s).get ref) ⟨.notFound,"migration_not_found"⟩

def Call.run : Call → Op Answer
  | .registerSnapshot snapshot => .snapshot <$> Migrations.registerSnapshot snapshot
  | .createPlan plan snapshot => .plan <$> Migrations.createPlan plan snapshot
  | .freezeInventory planRef inventory v => .plan <$> Migrations.freezeInventory planRef inventory v
  | .recordBackfill planRef batch v => .plan <$> Migrations.recordBackfill planRef batch v
  | .reconcileShadow planRef sourceDigest targetDigest sources targets v =>
    .reconciliation <$> Migrations.reconcileShadow planRef sourceDigest targetDigest sources targets v
  | .cutoverReads planRef cutover gate v => .plan <$> Migrations.cutoverReads planRef cutover gate v
  | .fenceWrites planRef fence gate v => .plan <$> Migrations.fenceWrites planRef fence gate v
  | .checkpointProjection planRef checkpoint gate v =>
    .plan <$> Migrations.checkpointProjection planRef checkpoint gate v
  | .retireLegacy planRef retirement gate v => .plan <$> Migrations.retireLegacy planRef retirement gate v
  | .rollback planRef record v => .plan <$> Migrations.rollback planRef record v
  | .getPlan planRef => .plan <$> planAt planRef
  | .getInventory ref => .inventory <$> stored (·.inventories) ref
  | .getBackfill ref => .backfill <$> stored (·.backfills) ref
  | .getReconciliation ref => .reconciliation <$> stored (·.reconciliations) ref
  | .getWriteFence ref => .writeFence <$> stored (·.writeFences) ref
  | .getCheckpoint ref => .checkpoint <$> stored (·.checkpoints) ref
  | .getRetirement ref => .retirement <$> stored (·.retirements) ref
  | .getRollback ref => .rollback <$> stored (·.rollbacks) ref

def step (s : Authority) (call : Call) : Except MigrationError Answer × Authority :=
  match call.run.run s with
  | .ok answer t => (.ok answer,t)
  | .error e t => (.error e,t)

end Arbora.Migrations
