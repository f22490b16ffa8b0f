import Arbora.Agents.Models
import Arbora.Lib.Base64

/-! Source authorities with their snapshots, what was found out about the entries of a snapshot, and the checkpoints
that follow from it. -/
namespace Arbora.Sources
open Agents (Identifier Timestamp canonical hashed isIdentifier_hashed isIdentifier_hexdigest isOpaque)
open Json (Document natural sorted orNull)
open PolicyPlane (Digest canonicalDigest)

abbrev OpaqueRef := {ref : Identifier // isOpaque ref = true}
abbrev Positive := {n : ℕ // 1 ≤ n}

inductive SourceKind where
  | git | filesystem | api | database | objectStore | workspace
  deriving DecidableEq

def SourceKind.value : SourceKind → String
  | .git => "git" | .filesystem => "filesystem" | .api => "api" | .database => "database"
  | .objectStore => "object_store" | .workspace => "workspace"

inductive ManifestStatus where
  | complete | partially | failed | timeout
  deriving DecidableEq

def ManifestStatus.value : ManifestStatus → String
  | .complete => "complete" | .partially => "partial" | .failed => "failed" | .timeout => "timeout"

inductive EntryKind where
  | file | directory | record | object
  deriving DecidableEq

def EntryKind.value : EntryKind → String
  | .file => "file" | .directory => "directory" | .record => "record" | .object => "object"

inductive EntryOutcome where
  | added | updated | unchanged | tombstoned | failed | partially | timeout
  deriving DecidableEq

def EntryOutcome.value : EntryOutcome → String
  | .added => "added" | .updated => "updated" | .unchanged => "unchanged" | .tombstoned => "tombstoned"
  | .failed => "failed" | .partially => "partial" | .timeout => "timeout"

def EntryOutcome.isTerminal : EntryOutcome → Bool
  | .added | .updated | .unchanged | .tombstoned => true
  | .failed | .partially | .timeout => false

/-- `_validate_relative_path`, within the bounds of `PathText` -/
def isRelativePath (path : String) : Bool :=
  let parts := path.toList.splitOn '/'
  decide (1 ≤ path.length ∧ path.length ≤ 2048) && !path.toList.contains '\\' &&
    parts.all (fun part => part ≠ [] && part ≠ ['.'] && part ≠ ['.','.']) &&
    !(parts.headD []).contains ':' && path.toList.all fun c => 32 ≤ c.toNat && c.toNat ≠ 127

abbrev RelativePath := {path : String // isRelativePath path = true}

def text (value : String) : Document := .string value
def digestOrNull (digest : Option Digest) : Document := orNull (fun d => .string d.1) digest
def ascending (ids : List String) : Prop := ids.Pairwise (· < ·)

instance (ids : List String) : Decidable (ascending ids) := inferInstanceAs (Decidable (List.Pairwise _ _))

structure SourceScope where
  (tenantId principalId : Identifier)
  grantDigests : List Digest
  few : grantDigests.length ≤ 64
  ordered : ascending (grantDigests.map (·.1))

def authorityIdFor (tenantId publisher packageName sourceName : Identifier) : Identifier :=
  ⟨hashed "source-authority:" [canonical tenantId.1,canonical publisher.1,canonical packageName.1,canonical sourceName.1],
    isIdentifier_hashed (by decide) _⟩

def authorityDigestFor (tenantId publisher packageName sourceName : Identifier) (sourceKind : SourceKind)
    (sourceRef : OpaqueRef) (rootRef : Option OpaqueRef) (authorityRevision : ℕ) (schemaDigest : Option Digest) : Digest :=
  canonicalDigest <| sorted [
    ("tenant_id",text tenantId.1),("publisher",text publisher.1),("package_name",text packageName.1),
    ("source_name",text sourceName.1),("source_kind",text sourceKind.value),("source_ref",text sourceRef.1),
    ("root_ref",orNull (fun ref : OpaqueRef => text ref.1) rootRef), ("authority_revision",natural authorityRevision),
    ("schema_digest",digestOrNull schemaDigest)]

structure SourceAuthority where
  (authorityId tenantId publisher packageName sourceName : Identifier)
  sourceKind : SourceKind
  sourceRef : OpaqueRef
  rootRef : Option OpaqueRef
  authorityRevision : Positive
  schemaDigest : Option Digest
  authorityDigest : Digest
  stable : authorityId = authorityIdFor tenantId publisher packageName sourceName
  digested : authorityDigest = authorityDigestFor tenantId publisher packageName sourceName sourceKind sourceRef rootRef
    authorityRevision schemaDigest
  deriving DecidableEq

def entryIdFor (authorityId : Identifier) (relativePath : RelativePath) : Identifier :=
  ⟨String.ofList ("source-entry:".toList ++
      Sha256.hexdigest (Base64.utf8 (authorityId.1 ++ "\x1f" ++ relativePath.1))),
    isIdentifier_hexdigest (by decide) _⟩

def catalogEntryDigestFor (authorityId tenantId : Identifier) (relativePath : RelativePath) (entryRevision : ℕ)
    (entryKind : EntryKind) (contentDigest : Digest) (artifactRef : OpaqueRef) (schemaDigest : Option Digest)
    (sizeBytes : ℕ) : Digest :=
  canonicalDigest <| sorted [
    ("authority_id",text authorityId.1),("tenant_id",text tenantId.1),("relative_path",text relativePath.1),
    ("entry_revision",natural entryRevision),("entry_kind",text entryKind.value),
    ("content_digest",text contentDigest.1),("artifact_ref",text artifactRef.1),
    ("schema_digest",digestOrNull schemaDigest),("size_bytes",natural sizeBytes)]

/-- An entry of a source; those that are symbolic links or dirty are not admitted. -/
structure SourceCatalogEntry where
  (entryId authorityId tenantId : Identifier)
  relativePath : RelativePath
  entryRevision : Positive
  entryKind : EntryKind
  contentDigest : Digest
  artifactRef : OpaqueRef
  schemaDigest : Option Digest
  sizeBytes : {n : ℕ // n ≤ 10 ^ 12}
  entryDigest : Digest
  stable : entryId = entryIdFor authorityId relativePath
  digested : entryDigest = catalogEntryDigestFor authorityId tenantId relativePath entryRevision entryKind contentDigest
    artifactRef schemaDigest sizeBytes
  deriving DecidableEq

def SourceCatalogEntry.document (e : SourceCatalogEntry) : Document := sorted [
  ("entry_version",text "source-catalog-entry.v1"),("entry_id",text e.entryId.1),
  ("authority_id",text e.authorityId.1),("tenant_id",text e.tenantId.1),("relative_path",text e.relativePath.1),
  ("entry_revision",natural e.entryRevision),("entry_kind",text e.entryKind.value),
  ("content_digest",text e.contentDigest.1),("artifact_ref",text e.artifactRef.1),
  ("schema_digest",digestOrNull e.schemaDigest),("size_bytes",natural e.sizeBytes),("is_symlink",.bool false),
  ("dirty",.bool false),("entry_digest",text e.entryDigest.1)]

structure EmptyEvidence where
  ref : OpaqueRef
  digest : Digest
  deriving DecidableEq

def manifestDigestFor (authorityId : Identifier) (authorityDigest : Digest) (tenantId : Identifier) (manifestRevision : ℕ)
    (observationStatus : ManifestStatus) (observedAt : Timestamp) (entries : List SourceCatalogEntry)
    (verifiedEmpty : Option EmptyEvidence) : Digest :=
  canonicalDigest <| sorted [
    ("authority_id",text authorityId.1),("authority_digest",text authorityDigest.1),("tenant_id",text tenantId.1),
    ("manifest_revision",natural manifestRevision),("observation_status",text observationStatus.value),
    ("observed_at",text observedAt.1),("dirty",.bool false),("entries",.array (entries.map SourceCatalogEntry.document)),
    ("verified_empty",.bool verifiedEmpty.isSome),
    ("empty_evidence_ref",orNull (fun e : EmptyEvidence => text e.ref.1) verifiedEmpty),
    ("empty_evidence_digest",digestOrNull (verifiedEmpty.map (·.digest)))]

def manifestIdFor (authorityId : Identifier) (manifestRevision : ℕ) (manifestDigest : Digest) : Identifier :=
  ⟨hashed "source-manifest:" [authorityId.1.toList,Nat.toDigits 10 manifestRevision,manifestDigest.1.toList],
    isIdentifier_hashed (by decide) _⟩

structure SourceManifest where
  (manifestId authorityId : Identifier)
  authorityDigest : Digest
  tenantId : Identifier
  manifestRevision : Positive
  entries : List SourceCatalogEntry
  observationStatus : ManifestStatus
  observedAt : Timestamp
  verifiedEmpty : Option EmptyEvidence
  manifestDigest : Digest
  few : entries.length ≤ 10000
  scope : ∀ entry ∈ entries, entry.authorityId = authorityId ∧ entry.tenantId = tenantId
  normalized : ascending (entries.map (·.entryId.1))
  evidence : verifiedEmpty.isSome = true ↔ entries = [] ∧ observationStatus = .complete
  digested : manifestDigest = manifestDigestFor authorityId authorityDigest tenantId manifestRevision observationStatus
    observedAt entries verifiedEmpty
  derived : manifestId = manifestIdFor authorityId manifestRevision manifestDigest
  deriving DecidableEq

def SourceManifest.entryIds (m : SourceManifest) : List Identifier := m.entries.map (·.entryId)

/-- `outcome_is_explicit_and_fail_closed`, of the digests an outcome carries -/
def DigestsFit (outcome : EntryOutcome) (expected observed : Option Digest) (absent : Bool) : Prop :=
  match outcome with
  | .added => expected = none ∧ observed.isSome = true ∧ absent = false
  | .updated => expected.isSome = true ∧ observed.isSome = true ∧ expected ≠ observed ∧ absent = false
  | .unchanged => expected.isSome = true ∧ observed = expected ∧ absent = false
  | .tombstoned => expected.isSome = true ∧ observed = none ∧ absent = true
  | .failed | .partially | .timeout => expected = none ∧ observed = none ∧ absent = false

structure EntryReconciliation where
  (entryId authorityId tenantId : Identifier)
  relativePath : RelativePath
  outcome : EntryOutcome
  (expectedEntryDigest observedEntryDigest : Option Digest)
  evidenceRef : OpaqueRef
  evidenceDigest : Digest
  /-- whether the absence is verified, or not applicable -/
  absenceVerified : Bool
  evidenced : DigestsFit outcome expectedEntryDigest observedEntryDigest absenceVerified
  deriving DecidableEq

def EntryReconciliation.terminal (o : EntryReconciliation) : Bool := o.outcome.isTerminal

def EntryReconciliation.document (o : EntryReconciliation) : Document := sorted [
  ("outcome_version",text "source-entry-reconciliation.v1"),("entry_id",text o.entryId.1),
  ("authority_id",text o.authorityId.1),("tenant_id",text o.tenantId.1),("relative_path",text o.relativePath.1),
  ("outcome",text o.outcome.value),("expected_entry_digest",digestOrNull o.expectedEntryDigest),
  ("observed_entry_digest",digestOrNull o.observedEntryDigest),("evidence_ref",text o.evidenceRef.1),
  ("evidence_digest",text o.evidenceDigest.1),
  ("absence_verification",text (if o.absenceVerified then "verified" else "not_applicable")),
  ("terminal",.bool o.terminal)]

def texts (values : List Identifier) : Document := .array (values.map fun value => .string value.1)

def reconciliationDigestFor (authorityId tenantId manifestId : Identifier) (manifestDigest : Digest)
    (selectedEntryIds : List Identifier) (outcomes : List EntryReconciliation) : Digest :=
  canonicalDigest <| sorted [
    ("authority_id",text authorityId.1),("tenant_id",text tenantId.1),("manifest_id",text manifestId.1),
    ("manifest_digest",text manifestDigest.1),("selected_entry_ids",texts selectedEntryIds),
    ("outcomes",.array (outcomes.map EntryReconciliation.document))]

def reconciliationIdFor (authorityId manifestId : Identifier) (reconciliationDigest : Digest) : Identifier :=
  ⟨hashed "source-reconciliation:" [authorityId.1.toList,manifestId.1.toList,reconciliationDigest.1.toList],
    isIdentifier_hashed (by decide) _⟩

structure SourceReconciliation where
  (authorityId tenantId manifestId : Identifier)
  manifestDigest : Digest
  selectedEntryIds : List Identifier
  outcomes : List EntryReconciliation
  few : selectedEntryIds.length ≤ 10000 ∧ outcomes.length ≤ 10000
  selection : ascending (selectedEntryIds.map (·.1))
  normalized : ascending (outcomes.map (·.entryId.1))
  covers : ∀ id, id ∈ outcomes.map (·.entryId) ↔ id ∈ selectedEntryIds
  scope : ∀ outcome ∈ outcomes, outcome.authorityId = authorityId ∧ outcome.tenantId = tenantId
  deriving DecidableEq

namespace SourceReconciliation
variable (r : SourceReconciliation)

def reconciliationDigest : Digest :=
  reconciliationDigestFor r.authorityId r.tenantId r.manifestId r.manifestDigest r.selectedEntryIds r.outcomes
def reconciliationId : Identifier := reconciliationIdFor r.authorityId r.manifestId r.reconciliationDigest
def terminalEntryCount : ℕ := r.outcomes.countP (·.terminal)
def complete : Bool := decide (r.terminalEntryCount = r.selectedEntryIds.length)

end SourceReconciliation

def checkpointDigestFor (authorityId tenantId : Identifier) (revision : ℕ) (manifestId : Identifier)
    (manifestRevision : ℕ) (manifestDigest : Digest) (reconciliationId : Identifier) (terminalEntryCount : ℕ) : Digest :=
  canonicalDigest <| sorted [
    ("authority_id",text authorityId.1),("tenant_id",text tenantId.1),("revision",natural revision),
    ("manifest_id",text manifestId.1),("manifest_revision",natural manifestRevision),
    ("manifest_digest",text manifestDigest.1),("reconciliation_id",text reconciliationId.1),
    ("terminal_entry_count",natural terminalEntryCount)]

def checkpointIdFor (authorityId : Identifier) (revision : ℕ) (checkpointDigest : Digest) : Identifier :=
  ⟨hashed "source-checkpoint:" [authorityId.1.toList,Nat.toDigits 10 revision,checkpointDigest.1.toList],
    isIdentifier_hashed (by decide) _⟩

structure SourceCheckpoint where
  (authorityId tenantId : Identifier)
  revision : Positive
  manifestId : Identifier
  manifestRevision : Positive
  manifestDigest : Digest
  reconciliationId : Identifier
  (selectedEntryCount terminalEntryCount : ℕ)
  few : selectedEntryCount ≤ 10000 ∧ terminalEntryCount ≤ 10000
  complete : selectedEntryCount = terminalEntryCount
  deriving DecidableEq

namespace SourceCheckpoint
variable (c : SourceCheckpoint)

def checkpointDigest : Digest :=
  checkpointDigestFor c.authorityId c.tenantId c.revision c.manifestId c.manifestRevision c.manifestDigest
    c.reconciliationId c.terminalEntryCount

def checkpointId : Identifier := checkpointIdFor c.authorityId c.revision c.checkpointDigest

end SourceCheckpoint

structure CheckpointMutation where
  (authorityId tenantId : Identifier)
  expectedRevision : ℕ
  expectedCheckpointId : Option Identifier
  manifestId : Identifier
  manifestRevision : Positive
  manifestDigest : Digest
  reconciliationId : Identifier
  changeRef : OpaqueRef

structure SourceReconciliationRequest where
  scope : SourceScope
  (authorityId manifestId : Identifier)
  selectedEntryIds : List Identifier
  outcomes : List EntryReconciliation
  expectedCheckpointRevision : ℕ
  expectedCheckpointId : Option OpaqueRef
  changeRef : OpaqueRef
  few : selectedEntryIds.length ≤ 10000 ∧ outcomes.length ≤ 10000
  selection : ascending (selectedEntryIds.map (·.1))

/-- The answer of a reconciliation; `result_digest` follows from the rest. -/
structure SourceReconcileResult where
  reconciliation : SourceReconciliation
  checkpoint : Option SourceCheckpoint
  bound : ∀ c, checkpoint = some c → reconciliation.complete = true ∧
    c.reconciliationId = reconciliation.reconciliationId ∧ c.manifestId = reconciliation.manifestId

structure SourceRegistration where
  authority : SourceAuthority
  manifest : SourceManifest
  consistent : manifest.authorityId = authority.authorityId ∧ manifest.authorityDigest = authority.authorityDigest ∧
    manifest.tenantId = authority.tenantId

end Arbora.Sources
