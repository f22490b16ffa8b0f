import Arbora.Lib.Json
import Arbora.Lib.Sha256

/-! Records of the migration authority. A record carries what its validators check, so that a
value of its type is one the models accept; fields with a single literal value are left out. -/
namespace Arbora.Migrations
open Json (orNull)

def maxSourceFiles : ℕ := 4096
def maxEvidenceItems : ℕ := 10000
def maxCohorts : ℕ := 256
def maxGateChecks : ℕ := 64
def maxVersion : ℕ := 2147483647

def isLetter (c : Char) : Bool := ('A' ≤ c && c ≤ 'Z') || ('a' ≤ c && c ≤ 'z')
def isRefChar (c : Char) : Bool :=
  isLetter c || ('0' ≤ c && c ≤ '9') || c == ':' || c == '_' || c == '.' || c == '/' || c == '-'

/-- `_REF_RE` -/
def isRef (text : String) : Bool :=
  match text.toList with
  | [] => false
  | c :: rest => isLetter c && decide (rest.length ≤ 255) && rest.all isRefChar

/-- `_DIGEST_RE` -/
def isDigest (text : String) : Bool :=
  decide (text.toList.take 7 = "sha256:".toList) && decide ((text.toList.drop 7).length = 64) &&
    (text.toList.drop 7).all Sha256.hexadecimal

abbrev OpaqueRef := {text : String // isRef text = true}
abbrev Digest := {text : String // isDigest text = true}
abbrev Version := {n : ℕ // 1 ≤ n ∧ n ≤ maxVersion}
abbrev Count := {n : ℕ // n ≤ maxVersion}
abbrev Timestamp := ℕ

def ref (text : String) (h : isRef text = true := by decide +kernel) : OpaqueRef := ⟨text,h⟩

theorem isDigest_of_hexadecimal {hex : List Char} (hlength : hex.length = 64)
    (hhex : hex.all Sha256.hexadecimal = true) :
    isDigest (String.ofList ("sha256:".toList ++ hex)) = true := Sha256.labelled_hexadecimal hlength hhex

/-- The digest of a document whose keys are sorted; its text has ASCII characters only. -/
def canonicalDigest (document : Json.Document) : Digest :=
  ⟨String.ofList ("sha256:".toList ++ Sha256.hexdigest ((Json.write document).map Char.toNat)),
    isDigest_of_hexadecimal (Sha256.length_hexdigest _) (Sha256.hexadecimal_hexdigest _)⟩

def refDocument (r : OpaqueRef) : Json.Document := .string r
def digestDocument (d : Digest) : Json.Document := .string d

/-- A member that `exclude_none` drops when there is nothing to write. -/
def unlessNone {α : Type} (key : String) (f : α → Json.Document) : Option α → List (String × Json.Document)
  | none => []
  | some a => [(key,f a)]

inductive MigrationStage where
  | inventoryFreeze | readOnlyBackfill | shadowReconciliation | cohortReadCutover | writeCutover
  | projectionCheckpoint | legacyRetirement | rollback
  deriving DecidableEq

def MigrationStage.value : MigrationStage → String
  | .inventoryFreeze => "stage_0_inventory_freeze"
  | .readOnlyBackfill => "stage_1_read_only_backfill"
  | .shadowReconciliation => "stage_2_shadow_reconciliation"
  | .cohortReadCutover => "stage_3_cohort_read_cutover"
  | .writeCutover => "stage_4_write_cutover"
  | .projectionCheckpoint => "stage_5_projection_checkpoint"
  | .legacyRetirement => "legacy_retirement"
  | .rollback => "rollback"

inductive MigrationState where
  | planned | inventoryFrozen | backfillObserving | shadowReconciled | readCutover | writeFenced
  | checkpointed | retired | rolledBack
  deriving DecidableEq

def MigrationState.value : MigrationState → String
  | .planned => "planned" | .inventoryFrozen => "inventory_frozen"
  | .backfillObserving => "backfill_observing" | .shadowReconciled => "shadow_reconciled"
  | .readCutover => "read_cutover" | .writeFenced => "write_fenced"
  | .checkpointed => "checkpointed" | .retired => "retired" | .rolledBack => "rolled_back"

def MigrationState.expectedStage : MigrationState → MigrationStage
  | .planned | .inventoryFrozen => .inventoryFreeze
  | .backfillObserving => .readOnlyBackfill
  | .shadowReconciled => .shadowReconciliation
  | .readCutover => .cohortReadCutover
  | .writeFenced => .writeCutover
  | .checkpointed => .projectionCheckpoint
  | .retired => .legacyRetirement
  | .rolledBack => .rollback

structure SourceFileSnapshot where
  version : Version
  digest : Digest
  (sourceFileRef relativePath sourceRef revision : OpaqueRef)
  (contentDigest metadataDigest : Digest)
  sizeBytes : Count
  deriving DecidableEq

def SourceFileSnapshot.document (file : SourceFileSnapshot) : Json.Document := Json.sorted [
  ("version",Json.natural file.version),("digest",digestDocument file.digest),
  ("source_file_ref",refDocument file.sourceFileRef),("relative_path",refDocument file.relativePath),
  ("source_ref",refDocument file.sourceRef),("revision",refDocument file.revision),
  ("content_digest",digestDocument file.contentDigest),
  ("metadata_digest",digestDocument file.metadataDigest),("size_bytes",Json.natural file.sizeBytes)]

def snapshotDigestOf (sourceRef revision : OpaqueRef) (files : List SourceFileSnapshot) : Digest :=
  canonicalDigest <| Json.sorted [("source_ref",refDocument sourceRef),("revision",refDocument revision),
    ("files",.array (files.map SourceFileSnapshot.document))]

structure SourceSnapshot where
  version : Version
  digest : Digest
  (snapshotRef sourceRef revision : OpaqueRef)
  files : List SourceFileSnapshot
  snapshotDigest : Digest
  filesBounded : 1 ≤ files.length ∧ files.length ≤ maxSourceFiles
  filesUnique : (files.map (·.sourceFileRef)).Nodup
  filesBound : ∀ file ∈ files, file.sourceRef = sourceRef ∧ file.revision = revision
  digestMatches : snapshotDigest = snapshotDigestOf sourceRef revision files
  deriving DecidableEq

/-- A plan's fields before they are validated. -/
structure PlanData where
  version : Version
  digest : Digest
  (migrationRef planRef sourceSnapshotRef : OpaqueRef)
  sourceSnapshotDigest : Digest
  targetAuthorityRef : OpaqueRef
  stage : MigrationStage
  state : MigrationState
  (inventoryRef reconciliationRef : Option OpaqueRef)
  cohortRefs : List OpaqueRef
  (writeFenceRef checkpointRef retirementRef : Option OpaqueRef)
  deriving DecidableEq

/-- `_digest_for` of the dumped plan: every field but the digest itself. -/
def PlanData.digestOf (data : PlanData) : Digest := canonicalDigest <| Json.sorted [
  ("version",Json.natural data.version),("migration_ref",refDocument data.migrationRef),
  ("plan_ref",refDocument data.planRef),("source_snapshot_ref",refDocument data.sourceSnapshotRef),
  ("source_snapshot_digest",digestDocument data.sourceSnapshotDigest),
  ("target_authority_ref",refDocument data.targetAuthorityRef),("stage",.string data.stage.value),
  ("state",.string data.state.value),("inventory_ref",orNull refDocument data.inventoryRef),
  ("reconciliation_ref",orNull refDocument data.reconciliationRef),
  ("cohort_refs",.array (data.cohortRefs.map refDocument)),
  ("write_fence_ref",orNull refDocument data.writeFenceRef),
  ("checkpoint_ref",orNull refDocument data.checkpointRef),
  ("retirement_ref",orNull refDocument data.retirementRef)]

structure PlanData.Valid (data : PlanData) : Prop where
  stageMatches : data.stage = data.state.expectedStage
  cohortsUnique : data.cohortRefs.Nodup
  cohortsBounded : data.cohortRefs.length ≤ maxCohorts

instance (data : PlanData) : Decidable data.Valid :=
  decidable_of_iff (data.stage = data.state.expectedStage ∧ data.cohortRefs.Nodup ∧
    data.cohortRefs.length ≤ maxCohorts) ⟨fun h => ⟨h.1,h.2.1,h.2.2⟩,fun h => ⟨h.1,h.2,h.3⟩⟩

structure MigrationPlan extends PlanData where
  valid : toPlanData.Valid
  deriving DecidableEq

inductive InventoryState where
  | present | missing | duplicate | rejected | malformed
  deriving DecidableEq

def InventoryState.value : InventoryState → String
  | .present => "present" | .missing => "missing" | .duplicate => "duplicate"
  | .rejected => "rejected" | .malformed => "malformed"

structure InventoryItem where
  version : Version
  digest : Digest
  (canonicalRef sourceRef : OpaqueRef)
  (sourceFileRef sourceRecordRef : Option OpaqueRef)
  sourceRevision : OpaqueRef
  (sourceDigest metadataDigest : Digest)
  state : InventoryState
  deriving DecidableEq

def InventoryItem.document (item : InventoryItem) : Json.Document := Json.sorted <| [
  ("version",Json.natural item.version),("digest",digestDocument item.digest),
  ("canonical_ref",refDocument item.canonicalRef),("source_ref",refDocument item.sourceRef),
  ("source_revision",refDocument item.sourceRevision),("source_digest",digestDocument item.sourceDigest),
  ("metadata_digest",digestDocument item.metadataDigest),("state",.string item.state.value)] ++
  unlessNone "source_file_ref" refDocument item.sourceFileRef ++
  unlessNone "source_record_ref" refDocument item.sourceRecordRef

def inventoryDigestOf (items : List InventoryItem) : Digest :=
  canonicalDigest (.array (items.map InventoryItem.document))

structure MigrationInventory where
  version : Version
  digest : Digest
  (inventoryRef migrationRef sourceSnapshotRef : OpaqueRef)
  sourceSnapshotDigest : Digest
  items : List InventoryItem
  inventoryDigest : Digest
  itemsBounded : 1 ≤ items.length ∧ items.length ≤ maxEvidenceItems
  itemsUnique : (items.map (·.canonicalRef)).Nodup
  digestMatches : inventoryDigest = inventoryDigestOf items
  deriving DecidableEq

inductive SourceDisposition where
  | accepted | rejected | malformed
  deriving DecidableEq

def SourceDisposition.value : SourceDisposition → String
  | .accepted => "accepted" | .rejected => "rejected" | .malformed => "malformed"

inductive ApprovalState where
  | unreviewed | approved | rejected
  deriving DecidableEq

def ApprovalState.value : ApprovalState → String
  | .unreviewed => "unreviewed" | .approved => "approved" | .rejected => "rejected"

structure BackfillObservation where
  version : Version
  digest : Digest
  (observationRef migrationRef : OpaqueRef)
  sourceSnapshotDigest : Digest
  (canonicalRef sourceRef : OpaqueRef)
  (sourceFileRef sourceRecordRef : Option OpaqueRef)
  sourceRevision : OpaqueRef
  (sourceDigest metadataDigest : Digest)
  disposition : SourceDisposition
  approvalState : ApprovalState
  (approvalRef approverRef : Option OpaqueRef)
  observedAt : Timestamp
  approvedExplicitly : approvalState = .approved →
    disposition = .accepted ∧ approvalRef ≠ none ∧ approverRef ≠ none
  evidenceExpected : approvalState ≠ .approved → approvalRef = none ∧ approverRef = none
  deriving DecidableEq

def BackfillObservation.document (o : BackfillObservation) : Json.Document := Json.sorted <| [
  ("version",Json.natural o.version),("digest",digestDocument o.digest),
  ("observation_ref",refDocument o.observationRef),("migration_ref",refDocument o.migrationRef),
  ("source_snapshot_digest",digestDocument o.sourceSnapshotDigest),
  ("canonical_ref",refDocument o.canonicalRef),("source_ref",refDocument o.sourceRef),
  ("source_revision",refDocument o.sourceRevision),("source_digest",digestDocument o.sourceDigest),
  ("metadata_digest",digestDocument o.metadataDigest),("disposition",.string o.disposition.value),
  ("approval_state",.string o.approvalState.value),("observed_at",Json.natural o.observedAt)] ++
  unlessNone "source_file_ref" refDocument o.sourceFileRef ++
  unlessNone "source_record_ref" refDocument o.sourceRecordRef ++
  unlessNone "approval_ref" refDocument o.approvalRef ++
  unlessNone "approver_ref" refDocument o.approverRef

def batchDigestOf (observations : List BackfillObservation) : Digest :=
  canonicalDigest (.array (observations.map BackfillObservation.document))

structure BackfillBatch where
  version : Version
  digest : Digest
  (batchRef migrationRef : OpaqueRef)
  sourceSnapshotDigest : Digest
  observations : List BackfillObservation
  batchDigest : Digest
  observationsBounded : 1 ≤ observations.length ∧ observations.length ≤ maxEvidenceItems
  observationsBound : ∀ o ∈ observations, o.migrationRef = migrationRef ∧
    o.sourceSnapshotDigest = sourceSnapshotDigest ∧ o.approvalState = .unreviewed
  observationsUnique : (observations.map (·.observationRef)).Nodup
  digestMatches : batchDigest = batchDigestOf observations
  deriving DecidableEq

structure CanonicalRecord where
  version : Version
  digest : Digest
  canonicalRef : OpaqueRef
  recordDigest : Digest
  (sourceRef sourceRevision : OpaqueRef)
  (sourceFileRef sourceRecordRef : Option OpaqueRef)
  metadataDigest : Digest

inductive DeltaKind where
  | add | update | delete
  deriving DecidableEq

def DeltaKind.value : DeltaKind → String
  | .add => "add" | .update => "update" | .delete => "delete"

def DeltaKind.digestsPresent (kind : DeltaKind) (source target : Option Digest) : Bool :=
  match kind with
  | .add => source.isSome
  | .delete => target.isSome
  | .update => source.isSome && target.isSome

structure ShadowDelta where
  version : Version
  digest : Digest
  canonicalRef : OpaqueRef
  kind : DeltaKind
  (sourceDigest targetDigest : Option Digest)
  evidenceDigest : Digest
  digestsPresent : kind.digestsPresent sourceDigest targetDigest = true
  deriving DecidableEq

def ShadowDelta.document (delta : ShadowDelta) : Json.Document := Json.sorted <| [
  ("version",Json.natural delta.version),("digest",digestDocument delta.digest),
  ("canonical_ref",refDocument delta.canonicalRef),("kind",.string delta.kind.value),
  ("evidence_digest",digestDocument delta.evidenceDigest)] ++
  unlessNone "source_digest" digestDocument delta.sourceDigest ++
  unlessNone "target_digest" digestDocument delta.targetDigest

def deltaDigestOf (deltas : List ShadowDelta) : Digest :=
  canonicalDigest (.array (deltas.map ShadowDelta.document))

inductive ReconciliationState where
  | clean | needsReview | blocked
  deriving DecidableEq

def ReconciliationState.value : ReconciliationState → String
  | .clean => "clean" | .needsReview => "needs_review" | .blocked => "blocked"

/-- What `_delta_summary_is_exact` asks of the state. -/
def ReconciliationState.summarises (state : ReconciliationState) (deltas : List ShadowDelta) : Bool :=
  match state with
  | .clean => deltas.isEmpty
  | .needsReview => !deltas.isEmpty
  | .blocked => true

structure ShadowReconciliation where
  version : Version
  digest : Digest
  (reconciliationRef migrationRef : OpaqueRef)
  (sourceSnapshotDigest targetSnapshotDigest : Digest)
  deltas : List ShadowDelta
  deltaCount : Count
  deltaDigest : Digest
  state : ReconciliationState
  deltasBounded : deltas.length ≤ maxEvidenceItems
  countExact : deltaCount = deltas.length
  digestMatches : deltaDigest = deltaDigestOf deltas
  summary : state.summarises deltas = true
  deriving DecidableEq

structure GateCheck where
  checkRef : OpaqueRef
  passed : Bool
  evidenceDigest : Digest
  failureCode : Option OpaqueRef
  failureConsistent : passed = failureCode.isNone

inductive GateDecision where
  | passed | blocked
  deriving DecidableEq

structure PrerequisiteGate where
  version : Version
  digest : Digest
  (gateRef migrationRef : OpaqueRef)
  stage : MigrationStage
  sourceSnapshotDigest : Digest
  checks : List GateCheck
  decision : GateDecision
  checksBounded : 1 ≤ checks.length ∧ checks.length ≤ maxGateChecks
  checksUnique : (checks.map (·.checkRef)).Nodup
  failClosed : decision = .passed ↔ ∀ check ∈ checks, check.passed = true

inductive CutoverState where
  | active | rolledBack
  deriving DecidableEq

def CutoverState.value : CutoverState → String
  | .active => "active" | .rolledBack => "rolled_back"

structure CohortReadCutover where
  version : Version
  digest : Digest
  (cutoverRef migrationRef cohortRef registryRef : OpaqueRef)
  sourceSnapshotDigest : Digest
  gateRef : OpaqueRef
  state : CutoverState
  deriving DecidableEq

structure WriteCutoverFence where
  version : Version
  digest : Digest
  (fenceRef migrationRef : OpaqueRef)
  sourceSnapshotDigest : Digest
  cohortRefs : List OpaqueRef
  authorityRef : OpaqueRef
  fenceEpoch : Count
  gateRef : OpaqueRef
  state : CutoverState
  cohortsBounded : 1 ≤ cohortRefs.length ∧ cohortRefs.length ≤ maxCohorts
  cohortsUnique : cohortRefs.Nodup
  deriving DecidableEq

def WriteCutoverFence.digestOf (fence : WriteCutoverFence) : Digest := canonicalDigest <| Json.sorted [
  ("version",Json.natural fence.version),("fence_ref",refDocument fence.fenceRef),
  ("migration_ref",refDocument fence.migrationRef),
  ("source_snapshot_digest",digestDocument fence.sourceSnapshotDigest),
  ("cohort_refs",.array (fence.cohortRefs.map refDocument)),("authority_ref",refDocument fence.authorityRef),
  ("fence_epoch",Json.natural fence.fenceEpoch),("gate_ref",refDocument fence.gateRef),
  ("single_authority",.bool true),("legacy_writes_denied",.bool true),("state",.string fence.state.value)]

inductive CheckpointState where
  | complete | rebuildRequired
  deriving DecidableEq

structure ProjectionCheckpoint where
  version : Version
  digest : Digest
  (checkpointRef migrationRef : OpaqueRef)
  (sourceSnapshotDigest projectionDigest : Digest)
  rebuildPlanRef : OpaqueRef
  recordCount : Count
  sequence : Version
  gateRef : OpaqueRef
  state : CheckpointState
  deriving DecidableEq

inductive RetirementState where
  | ready | retired | rolledBack
  deriving DecidableEq

structure LegacyRetirement where
  version : Version
  digest : Digest
  (retirementRef migrationRef : OpaqueRef)
  sourceSnapshotDigest : Digest
  (writeFenceRef checkpointRef : OpaqueRef)
  (remainingConsumers remainingFacades : Count)
  (consumerInventoryDigest facadeInventoryDigest : Digest)
  gateRef : OpaqueRef
  state : RetirementState
  proven : state = .retired → remainingConsumers.1 = 0 ∧ remainingFacades.1 = 0
  deriving DecidableEq

inductive RollbackDecision where
  | requested | applied | failed
  deriving DecidableEq

def RollbackDecision.value : RollbackDecision → String
  | .requested => "requested" | .applied => "applied" | .failed => "failed"

structure MigrationRollback where
  version : Version
  digest : Digest
  (rollbackRef migrationRef : OpaqueRef)
  (fromStage toStage : MigrationStage)
  sourceSnapshotDigest : Digest
  (reasonRef restoredAuthorityRef : OpaqueRef)
  fenceRef : Option OpaqueRef
  gateRef : OpaqueRef
  decision : RollbackDecision
  direction : fromStage ≠ toStage
  deriving DecidableEq

def MigrationRollback.digestOf (r : MigrationRollback) : Digest := canonicalDigest <| Json.sorted [
  ("version",Json.natural r.version),("rollback_ref",refDocument r.rollbackRef),
  ("migration_ref",refDocument r.migrationRef),("from_stage",.string r.fromStage.value),
  ("to_stage",.string r.toStage.value),
  ("source_snapshot_digest",digestDocument r.sourceSnapshotDigest),("reason_ref",refDocument r.reasonRef),
  ("restored_authority_ref",refDocument r.restoredAuthorityRef),
  ("fence_ref",orNull refDocument r.fenceRef),("gate_ref",refDocument r.gateRef),
  ("decision",.string r.decision.value)]

end Arbora.Migrations
