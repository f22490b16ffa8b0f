import Arbora.Lib.Asking
import Arbora.Lib.Dict
import Arbora.Lib.Pool
import Arbora.Sources.Models

/-! Reconciliation of sources, made of steps of a repository that keeps to its contract: records that never change,
and checkpoints that are swapped atomically. -/
namespace Arbora.Sources
open Agents (Identifier)
open Interaction
open PolicyPlane (Digest)
open Prog (Fallible refuse found demand)

inductive ErrorKind where
  | repositoryUnavailable | repositoryContractError | sourceReconciliationError
  /-- a refusal of the models themselves -/
  | validationError

structure SourceError where
  kind : ErrorKind
  text : String

inductive Call where
  | putAuthority (authority : SourceAuthority)
  | putCatalogEntry (entry : SourceCatalogEntry)
  | putManifest (manifest : SourceManifest)
  | putReconciliation (reconciliation : SourceReconciliation)
  | getAuthority (scope : SourceScope) (authorityId : Identifier) (authorityDigest : Digest)
  | getManifest (scope : SourceScope) (manifestId : Identifier)
  | getCatalogEntry (scope : SourceScope) (entryId : Identifier)
  | getReconciliation (scope : SourceScope) (reconciliationId : Identifier)
  | getCheckpoint (scope : SourceScope) (authorityId : Identifier)
  | compareAndSwapCheckpoint (scope : SourceScope) (mutation : CheckpointMutation) (checkpoint : SourceCheckpoint)

@[reducible] def Call.Result : Call → Type
  | .putAuthority _ | .putCatalogEntry _ | .putManifest _ | .putReconciliation _ => Unit
  | .getAuthority .. => Option SourceAuthority
  | .getManifest .. => Option SourceManifest
  | .getCatalogEntry .. => Option SourceCatalogEntry
  | .getReconciliation .. => Option SourceReconciliation
  | .getCheckpoint .. => Option SourceCheckpoint
  | .compareAndSwapCheckpoint .. => SourceCheckpoint

abbrev Call.Answer : Call → Type := Fallible SourceError Call.Result

structure Store where
  authorities : Dict (Identifier × Digest) SourceAuthority
  entries : Dict (Identifier × ℕ) SourceCatalogEntry
  manifests : Dict Identifier SourceManifest
  reconciliations : Dict Identifier SourceReconciliation
  checkpoints : Dict Identifier SourceCheckpoint

def Store.empty : Store := ⟨∅,∅,∅,∅,∅⟩

/-- Which authorities of which tenants a scope sees the records of. -/
abbrev Sight := SourceScope → Identifier → Identifier → Bool

/-- A record that never changes is created, or retained if it is the same; another one of its name is refused. -/
def retain {κ ν : Type} [DecidableEq κ] [DecidableEq ν] (d : Dict κ ν) (k : κ) (v : ν) :
    Except SourceError Unit × Dict κ ν :=
  match d.get k with
  | none => (.ok (),d.set k v)
  | some stored => (if stored = v then .ok () else .error ⟨.repositoryContractError,"immutable record conflict"⟩,d)

def Store.latest (s : Store) (sees : Sight) (scope : SourceScope) (entryId : Identifier) : Option SourceCatalogEntry :=
  (s.entries.values.filter fun e => e.entryId = entryId ∧ sees scope e.tenantId e.authorityId).argmax (·.entryRevision.1)

def Store.respond (sees : Sight) (s : Store) : (e : Call) → e.Answer × Store
  | .putAuthority a =>
    let out := retain s.authorities (a.authorityId,a.authorityDigest) a
    (out.1,{ s with authorities := out.2 })
  | .putCatalogEntry e =>
    let out := retain s.entries (e.entryId,e.entryRevision.1) e
    (out.1,{ s with entries := out.2 })
  | .putManifest m =>
    let out := retain s.manifests m.manifestId m
    (out.1,{ s with manifests := out.2 })
  | .putReconciliation r =>
    let out := retain s.reconciliations r.reconciliationId r
    (out.1,{ s with reconciliations := out.2 })
  | .getAuthority scope authorityId authorityDigest =>
    (.ok ((s.authorities.get (authorityId,authorityDigest)).filter fun a => sees scope a.tenantId a.authorityId),s)
  | .getManifest scope manifestId =>
    (.ok ((s.manifests.get manifestId).filter fun m => sees scope m.tenantId m.authorityId),s)
  | .getCatalogEntry scope entryId => (.ok (s.latest sees scope entryId),s)
  | .getReconciliation scope reconciliationId =>
    (.ok ((s.reconciliations.get reconciliationId).filter fun r => sees scope r.tenantId r.authorityId),s)
  | .getCheckpoint scope authorityId =>
    (.ok ((s.checkpoints.get authorityId).filter fun c => sees scope c.tenantId c.authorityId),s)
  | .compareAndSwapCheckpoint _ mutation checkpoint =>
    let current := s.checkpoints.get mutation.authorityId
    if current.elim 0 (·.revision.1) = mutation.expectedRevision ∧
        current.map (·.checkpointId) = mutation.expectedCheckpointId then
      (.ok checkpoint,{ s with checkpoints := s.checkpoints.set mutation.authorityId checkpoint })
    else (.error ⟨.repositoryContractError,"checkpoint compare-and-swap conflict"⟩,s)

/-- A repository that is available at times: what it refuses it has not done. -/
inductive Store.Serves (sees : Sight) : World Call Call.Answer Store
  | served (s : Store) (e : Call) : Serves sees s e (s.respond sees e).1 (s.respond sees e).2
  | refused (s : Store) (e : Call) (x : SourceError) : Serves sees s e (.error x) s

abbrev Step (α : Type) := Prog Call Call.Answer SourceError α
abbrev ask (e : Call) : Step e.Result := demand e

def contract (text : String) : SourceError := ⟨.repositoryContractError,text⟩
def unsound (code : String) : SourceError := ⟨.sourceReconciliationError,code⟩
def invalid (text : String) : SourceError := ⟨.validationError,text⟩

def validateOutcomeScope (scope : SourceScope) (manifest : SourceManifest) (outcome : EntryReconciliation) : Step Unit := do
  refuse (outcome.authorityId ≠ manifest.authorityId) (unsound "outcome_authority_mismatch")
  refuse (outcome.tenantId ≠ scope.tenantId) (unsound "outcome_tenant_mismatch")

def SourceManifest.entry (manifest : SourceManifest) (entryId : Identifier) : Option SourceCatalogEntry :=
  manifest.entries.find? fun entry => entry.entryId = entryId

def validateIncompleteOutcome (outcome : EntryReconciliation) (current : Option SourceCatalogEntry) : Step Unit := do
  refuse (outcome.terminal = true) (unsound "incomplete_outcome_marked_terminal")
  refuse (current.any fun current => current.relativePath ≠ outcome.relativePath) (unsound "reconciled_entry_path_mismatch")

def validateTombstoneOutcome (scope : SourceScope) (manifest : SourceManifest) (outcome : EntryReconciliation)
    (current : Option SourceCatalogEntry) : Step Unit := do
  refuse (current ≠ none) (unsound "present_entry_cannot_be_tombstoned")
  let previous ← ask (.getCatalogEntry scope outcome.entryId)
  let previous ← found previous (unsound "tombstone_source_entry_unavailable")
  refuse (previous.tenantId ≠ scope.tenantId) (contract "repository returned a cross-tenant source entry")
  refuse (previous.authorityId ≠ manifest.authorityId) (contract "repository returned a cross-authority entry")
  refuse (some previous.entryDigest ≠ outcome.expectedEntryDigest) (unsound "tombstone_digest_drift")
  refuse (previous.relativePath ≠ outcome.relativePath) (unsound "tombstone_path_mismatch")

def validateDigests (outcome : EntryReconciliation) : Step Unit :=
  match outcome.outcome with
  | .added => refuse (outcome.expectedEntryDigest ≠ none) (unsound "added_entry_has_prior_digest")
  | .updated => do
    refuse (outcome.expectedEntryDigest = none) (unsound "updated_entry_missing_prior_digest")
    refuse (outcome.expectedEntryDigest = outcome.observedEntryDigest) (unsound "updated_entry_digest_did_not_change")
  | .unchanged =>
    refuse (outcome.expectedEntryDigest ≠ outcome.observedEntryDigest) (unsound "unchanged_entry_digest_changed")
  | _ => .ret ()

def validatePresentOutcome (outcome : EntryReconciliation) (current : Option SourceCatalogEntry) : Step Unit := do
  let current ← found current (unsound "reconciled_entry_not_in_manifest")
  refuse (current.relativePath ≠ outcome.relativePath) (unsound "reconciled_entry_path_mismatch")
  refuse (outcome.observedEntryDigest ≠ some current.entryDigest) (unsound "observed_entry_digest_mismatch")
  validateDigests outcome

def validateKind (scope : SourceScope) (manifest : SourceManifest) (outcome : EntryReconciliation) : Step Unit :=
  match outcome.outcome with
  | .failed | .partially | .timeout => validateIncompleteOutcome outcome (manifest.entry outcome.entryId)
  | .tombstoned => validateTombstoneOutcome scope manifest outcome (manifest.entry outcome.entryId)
  | .added | .updated | .unchanged => validatePresentOutcome outcome (manifest.entry outcome.entryId)

def validateOutcome (scope : SourceScope) (manifest : SourceManifest) (outcome : EntryReconciliation) : Step Unit := do
  validateOutcomeScope scope manifest outcome
  validateKind scope manifest outcome

def validateOutcomes (scope : SourceScope) (manifest : SourceManifest) : List EntryReconciliation → Step Unit
  | [] => .ret ()
  | outcome :: rest => do
    validateOutcome scope manifest outcome
    validateOutcomes scope manifest rest

def loadManifest (scope : SourceScope) (authorityId manifestId : Identifier) : Step SourceManifest := do
  let manifest ← ask (.getManifest scope manifestId)
  let manifest ← found manifest (unsound "source_manifest_unavailable")
  refuse (manifest.tenantId ≠ scope.tenantId) (contract "repository returned a cross-tenant source manifest")
  refuse (manifest.manifestId ≠ manifestId) (contract "repository returned a mismatched source manifest")
  let authority ← ask (.getAuthority scope authorityId manifest.authorityDigest)
  let authority ← found authority (unsound "source_authority_unavailable")
  refuse (authority.tenantId ≠ scope.tenantId) (contract "repository returned a cross-tenant source authority")
  refuse (authority.authorityId ≠ authorityId) (contract "repository returned a mismatched source authority")
  refuse (manifest.authorityId ≠ authority.authorityId) (contract "repository returned a cross-authority manifest")
  refuse (manifest.authorityDigest ≠ authority.authorityDigest) (unsound "source_authority_digest_drift")
  return manifest

def validateManifestForCheckpoint (manifest : SourceManifest) : Step Unit := do
  refuse (manifest.observationStatus ≠ .complete) (unsound "source_manifest_not_complete")
  refuse (manifest.entries = [] ∧ manifest.verifiedEmpty = none) (unsound "source_empty_manifest_unverified")

def selection (request : SourceReconciliationRequest) (manifest : SourceManifest) : List Identifier :=
  if request.selectedEntryIds = [] then manifest.entryIds else request.selectedEntryIds

def selectedEntryIds (request : SourceReconciliationRequest) (manifest : SourceManifest) : Step (List Identifier) := do
  refuse ((request.outcomes.map (·.entryId)).toFinset ≠ (selection request manifest).toFinset)
    (unsound "reconciliation_selection_not_fully_evidenced")
  refuse (¬ ((selection request manifest).map (·.1)).Pairwise (· ≤ ·)) (unsound "reconciliation_selection_not_sorted")
  return selection request manifest

def sortOutcomes (outcomes : List EntryReconciliation) : List EntryReconciliation :=
  outcomes.insertionSort fun a b => a.entryId.1 ≤ b.entryId.1

/-- `_build_reconciliation`, if the model takes it -/
def buildReconciliation (request : SourceReconciliationRequest) (manifest : SourceManifest) (selected : List Identifier) :
    Step SourceReconciliation :=
  let outcomes := sortOutcomes request.outcomes
  if h : (selected.length ≤ 10000 ∧ outcomes.length ≤ 10000) ∧ ascending (selected.map (·.1)) ∧
      ascending (outcomes.map (·.entryId.1)) ∧ (outcomes.map (·.entryId)).toFinset = selected.toFinset ∧
      ∀ outcome ∈ outcomes, outcome.authorityId = manifest.authorityId ∧ outcome.tenantId = manifest.tenantId then
    .ret ⟨manifest.authorityId,manifest.tenantId,manifest.manifestId,manifest.manifestDigest,selected,outcomes,h.1,
      h.2.1,h.2.2.1,fun id => by rw [← List.mem_toFinset,h.2.2.2.1,List.mem_toFinset],h.2.2.2.2⟩
  else .raise (invalid "source reconciliation")

/-- What makes evidence that is found drift from the evidence at hand. -/
def drifted (existing reconciliation : SourceReconciliation) : Prop :=
  existing.reconciliationDigest ≠ reconciliation.reconciliationDigest ∨
    existing.authorityId ≠ reconciliation.authorityId ∨ existing.tenantId ≠ reconciliation.tenantId ∨
    existing.manifestId ≠ reconciliation.manifestId ∨ existing.manifestDigest ≠ reconciliation.manifestDigest

instance (existing reconciliation : SourceReconciliation) : Decidable (drifted existing reconciliation) := by
  unfold drifted
  infer_instance

/-- The evidence that was found, or else the evidence at hand once it is stored. -/
def retainedOr (reconciliation : SourceReconciliation) : Option SourceReconciliation → Step SourceReconciliation
  | some existing => do
    refuse (drifted existing reconciliation) (contract "repository returned digest-drifted reconciliation")
    return existing
  | none => do
    ask (.putReconciliation reconciliation)
    return reconciliation

def persistReconciliation (scope : SourceScope) (reconciliation : SourceReconciliation) : Step SourceReconciliation := do
  let existing ← ask (.getReconciliation scope reconciliation.reconciliationId)
  retainedOr reconciliation existing

/-- `_reconcile_result`, if the model takes it -/
def reconcileResult (reconciliation : SourceReconciliation) (checkpoint : Option SourceCheckpoint) :
    Step SourceReconcileResult :=
  if h : ∀ c, checkpoint = some c → reconciliation.complete = true ∧
      c.reconciliationId = reconciliation.reconciliationId ∧ c.manifestId = reconciliation.manifestId then
    .ret ⟨reconciliation,checkpoint,h⟩
  else .raise (invalid "source result checkpoint is not bound to its reconciliation")

def validateCheckpointScope (scope : SourceScope) (manifest : SourceManifest) (current : Option SourceCheckpoint) :
    Step Unit :=
  refuse (current.any fun c => c.authorityId ≠ manifest.authorityId ∨ c.tenantId ≠ scope.tenantId)
    (contract "repository returned a cross-scope source checkpoint")

/-- `_checkpoint_for`, if the model takes it -/
def checkpointFor (manifest : SourceManifest) (reconciliation : SourceReconciliation) (revision : Positive) :
    Step SourceCheckpoint :=
  if h : (reconciliation.selectedEntryIds.length ≤ 10000 ∧ reconciliation.terminalEntryCount ≤ 10000) ∧
      reconciliation.selectedEntryIds.length = reconciliation.terminalEntryCount then
    .ret ⟨manifest.authorityId,manifest.tenantId,revision,manifest.manifestId,manifest.manifestRevision,
      manifest.manifestDigest,reconciliation.reconciliationId,reconciliation.selectedEntryIds.length,
      reconciliation.terminalEntryCount,h.1,h.2⟩
  else .raise (invalid "source checkpoint cannot advance with incomplete entries")

def mutationFor (request : SourceReconciliationRequest) (manifest : SourceManifest) (reconciliation : SourceReconciliation)
    (current : Option SourceCheckpoint) : CheckpointMutation :=
  ⟨manifest.authorityId,manifest.tenantId,current.elim 0 (·.revision.1),current.map (·.checkpointId),manifest.manifestId,
    manifest.manifestRevision,manifest.manifestDigest,reconciliation.reconciliationId,request.changeRef⟩

def advanceCheckpoint (request : SourceReconciliationRequest) (manifest : SourceManifest)
    (reconciliation : SourceReconciliation) (current : Option SourceCheckpoint) : Step SourceCheckpoint := do
  refuse (current.any fun c => manifest.manifestRevision.1 < c.manifestRevision.1)
    (unsound "checkpoint_manifest_revision_conflict")
  refuse (request.expectedCheckpointRevision ≠ current.elim 0 (·.revision.1)) (unsound "checkpoint_revision_conflict")
  refuse (request.expectedCheckpointId.map (·.1) ≠ current.map (·.checkpointId)) (unsound "checkpoint_identity_conflict")
  let checkpoint ← checkpointFor manifest reconciliation ⟨current.elim 0 (·.revision.1)+1,Nat.le_add_left _ _⟩
  let applied ← ask (.compareAndSwapCheckpoint request.scope (mutationFor request manifest reconciliation current) checkpoint)
  refuse (applied ≠ checkpoint) (contract "repository returned a different source checkpoint")
  return checkpoint

def settle (request : SourceReconciliationRequest) (manifest : SourceManifest) (reconciliation : SourceReconciliation)
    (current : Option SourceCheckpoint) : Step SourceReconcileResult :=
  if current.any fun c => c.reconciliationId = reconciliation.reconciliationId then reconcileResult reconciliation current
  else do
    let checkpoint ← advanceCheckpoint request manifest reconciliation current
    reconcileResult reconciliation checkpoint

def evidence (request : SourceReconciliationRequest) : Step (SourceManifest × SourceReconciliation) := do
  let manifest ← loadManifest request.scope request.authorityId request.manifestId
  validateManifestForCheckpoint manifest
  let selected ← selectedEntryIds request manifest
  validateOutcomes request.scope manifest request.outcomes
  let reconciliation ← buildReconciliation request manifest selected
  return (manifest,reconciliation)

def persistAndAdvance (request : SourceReconciliationRequest) (manifest : SourceManifest) (reconciliation : SourceReconciliation) :
    Step SourceReconcileResult := do
  let reconciliation ← persistReconciliation request.scope reconciliation
  if reconciliation.complete = true then
    let current ← ask (.getCheckpoint request.scope manifest.authorityId)
    validateCheckpointScope request.scope manifest current
    settle request manifest reconciliation current
  else reconcileResult reconciliation none

def reconcile (request : SourceReconciliationRequest) : Step SourceReconcileResult := do
  let (manifest,reconciliation) ← evidence request
  persistAndAdvance request manifest reconciliation

def putEntries : List SourceCatalogEntry → Step Unit
  | [] => .ret ()
  | entry :: rest => do
    ask (.putCatalogEntry entry)
    putEntries rest

def register (registration : SourceRegistration) : Step Unit := do
  ask (.putAuthority registration.authority)
  putEntries registration.manifest.entries
  ask (.putManifest registration.manifest)

/-- A call of the control plane. -/
inductive Job where
  | register (registration : SourceRegistration)
  | reconcile (request : SourceReconciliationRequest)

def Job.run : Job → Step (Option SourceReconcileResult)
  | .register registration => (Sources.register registration).bind fun _ => .ret none
  | .reconcile request => (Sources.reconcile request).bind fun result => .ret (some result)

end Arbora.Sources
