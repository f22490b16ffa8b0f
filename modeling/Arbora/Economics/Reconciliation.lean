import Arbora.Economics.DailyComposition

/-! Reconciling the samples that were expected with the facts that were observed: what is missing, unexpected and
repeated, and when the two sides can be put in order at all. -/
namespace Arbora.Economics
open Arbora.Scaling (Ref Digest isRef)
open Arbora.Placement (refDocument)
open Json (Document natural sorted)
open Keyset (sortBy)
open Repetition (firstSeen repeated)

def maxReconciliationItems : ℕ := 10000

@[ext] structure SampleRef where
  sourceRef : Ref
  sourceDigest : Digest
  sampleSequence : Option ℕ
  sequenceBounded : ∀ n ∈ sampleSequence, n < 2 ^ 63

instance : DecidableEq SampleRef := fun _ _ => decidable_of_iff _ SampleRef.ext_iff.symm

def SampleRef.document (s : SampleRef) : Document := sorted <| [
  ("source_ref",refDocument s.sourceRef),("source_digest",.string s.sourceDigest)] ++
  (s.sampleSequence.map fun n => ("sample_sequence",natural n)).toList

def UsageFact.sample (f : UsageFact) : SampleRef := ⟨f.sourceRef,f.sourceDigest,f.sampleSequence,f.sequenceBounded⟩
def SampleRef.key (s : SampleRef) : String ×ₗ String ×ₗ WithBot ℕ :=
  toLex (s.sourceRef.1,toLex (s.sourceDigest.1,s.sampleSequence))

/-- How a report compares them: `sample_sequence or -1`. -/
def SampleRef.rank (s : SampleRef) : String ×ₗ String ×ₗ ℤ :=
  toLex (s.sourceRef.1,toLex (s.sourceDigest.1,match s.sampleSequence with
    | none => -1
    | some 0 => -1
    | some n => n))

/-- Two keys whose order comes down to a sequence and none. -/
def SampleRef.Incomparable (a b : SampleRef) : Prop :=
  a.sourceRef = b.sourceRef ∧ a.sourceDigest = b.sourceDigest ∧ a.sampleSequence.isSome ≠ b.sampleSequence.isSome

instance (a b : SampleRef) : Decidable (a.Incomparable b) := inferInstanceAs (Decidable (_ ∧ _ ∧ _))

/-- Refusals, and what is raised where an integer is compared with `None`. -/
inductive ReconciliationError where
  | refused (refusal : Refusal)
  | typeError

/-- `sorted` of distinct keys. Two that do not compare would have to be compared, whatever their order: nothing else
tells which comes first. -/
def sortedKeys (keys : List SampleRef) : Except ReconciliationError (List SampleRef) :=
  if ∃ a ∈ keys, ∃ b ∈ keys, a.Incomparable b then .error .typeError else .ok (sortBy SampleRef.key keys)

inductive ReconciliationStatus where
  | complete | gap | drift

def ReconciliationStatus.value : ReconciliationStatus → String
  | .complete => "complete" | .gap => "gap" | .drift => "drift"

@[ext] structure ReconciliationReport where
  expectedCount : ℕ
  observedCount : ℕ
  missing : List SampleRef
  unexpected : List SampleRef
  duplicateSamples : List SampleRef
  duplicateFactIds : List String
  status : ReconciliationStatus
  counts : expectedCount ≤ maxReconciliationItems ∧ observedCount ≤ maxReconciliationItems
  missingBounded : missing.length ≤ maxReconciliationItems
  unexpectedBounded : unexpected.length ≤ maxReconciliationItems
  duplicatesBounded : duplicateSamples.length ≤ maxReconciliationItems
  factIdsBounded : duplicateFactIds.length ≤ maxReconciliationItems
  duplicatesUnique : duplicateSamples.Nodup
  factIdsValid : ∀ id ∈ duplicateFactIds, isRef id = true
  complete : status = .complete → missing = [] ∧ unexpected = [] ∧ duplicateSamples = [] ∧ duplicateFactIds = []
  gap : status = .gap → missing ≠ []
  drift : status = .drift → unexpected ≠ [] ∨ duplicateSamples ≠ [] ∨ duplicateFactIds ≠ []

namespace ReconciliationReport

def identityPayload (r : ReconciliationReport) : Document := sorted [
  ("schema_version",.string "1"),("expected_count",natural r.expectedCount),("observed_count",natural r.observedCount),
  ("missing",.array (r.missing.map (·.document))),("unexpected",.array (r.unexpected.map (·.document))),
  ("duplicate_samples",.array (r.duplicateSamples.map (·.document))),
  ("duplicate_fact_ids",.array ((sortBy (fun text => text) r.duplicateFactIds).map Document.string)),
  ("status",.string r.status.value)]

def reportDigest (r : ReconciliationReport) : Digest := digestOf "sample_reconciliation" r.identityPayload

/-- `validate_duplicate_ids` -/
def factIdSet (ids : List String) : List String := sortBy (fun text => text) ids.dedup

theorem length_factIdSet (ids : List String) : (factIdSet ids).length ≤ ids.length := by
  unfold factIdSet
  rw [Keyset.length_sortBy]
  exact (List.dedup_sublist ids).length_le

theorem mem_factIdSet {ids : List String} {id : String} : id ∈ factIdSet ids ↔ id ∈ ids := by
  unfold factIdSet
  rw [Keyset.mem_sortBy,List.mem_dedup]

/-- What a status asks of the rest of a report. -/
def shaped (missing unexpected duplicateSamples : List SampleRef) (duplicateFactIds : List String) :
    ReconciliationStatus → Prop
  | .complete => missing = [] ∧ unexpected = [] ∧ duplicateSamples = [] ∧ duplicateFactIds = []
  | .gap => missing ≠ []
  | .drift => unexpected ≠ [] ∨ duplicateSamples ≠ [] ∨ duplicateFactIds ≠ []

instance (missing unexpected duplicateSamples : List SampleRef) (duplicateFactIds : List String) :
    (status : ReconciliationStatus) → Decidable (shaped missing unexpected duplicateSamples duplicateFactIds status)
  | .complete => inferInstanceAs (Decidable (_ ∧ _))
  | .gap => inferInstanceAs (Decidable (¬_))
  | .drift => inferInstanceAs (Decidable (_ ∨ _))

/-- `ReconciliationReport(...)`: the duplicates are put in order once more, the rest stays as it comes. -/
def make (expectedCount observedCount : ℕ) (missing unexpected duplicateSamples : List SampleRef)
    (duplicateFactIds : List String) (status : ReconciliationStatus) : Except Refusal ReconciliationReport :=
  if hcounts : expectedCount ≤ maxReconciliationItems ∧ observedCount ≤ maxReconciliationItems then
    if hmissing : missing.length ≤ maxReconciliationItems then
      if hunexpected : unexpected.length ≤ maxReconciliationItems then
        if hduplicates : duplicateSamples.length ≤ maxReconciliationItems then
          if hunique : duplicateSamples.Nodup then
            if hids : duplicateFactIds.length ≤ maxReconciliationItems then
              if hvalid : ∀ id ∈ duplicateFactIds, isRef id = true then
                if hshape : shaped missing unexpected (sortBy SampleRef.rank duplicateSamples)
                    (factIdSet duplicateFactIds) status then
                  .ok {
                    expectedCount, observedCount, missing, unexpected, status
                    duplicateSamples := sortBy SampleRef.rank duplicateSamples
                    duplicateFactIds := factIdSet duplicateFactIds
                    counts := hcounts
                    missingBounded := hmissing
                    unexpectedBounded := hunexpected
                    duplicatesBounded := by rwa [Keyset.length_sortBy]
                    factIdsBounded := (length_factIdSet _).trans hids
                    duplicatesUnique := (Keyset.sortBy_perm _).nodup_iff.mpr hunique
                    factIdsValid := fun id hid => hvalid id (mem_factIdSet.mp hid)
                    complete := by
                      rintro rfl
                      exact hshape
                    gap := by
                      rintro rfl
                      exact hshape
                    drift := by
                      rintro rfl
                      exact hshape }
                else .error ⟨.validation,"reconciliation status"⟩
              else .error ⟨.validation,"duplicate_fact_id must be a bounded opaque reference"⟩
            else .error ⟨.validation,"duplicate_fact_ids"⟩
          else .error ⟨.validation,"duplicate sample references must be unique"⟩
        else .error ⟨.validation,"duplicate_samples"⟩
      else .error ⟨.validation,"unexpected"⟩
    else .error ⟨.validation,"missing"⟩
  else .error ⟨.validation,"expected_count"⟩

end ReconciliationReport

def reconcileMissingAndUnexpected (expected observed : List SampleRef) :
    Except ReconciliationError (List SampleRef × List SampleRef) :=
  (sortedKeys (firstSeen expected)).bind fun keys =>
    .ok (keys.filter (· ∉ observed),(firstSeen observed).filter (· ∉ expected))

def reconcileDuplicates (expected observed : List SampleRef) (factIds : List String) :
    Except ReconciliationError (List SampleRef × List String) :=
  (sortedKeys (repeated expected ∪ repeated observed)).bind fun keys => .ok (keys,repeated factIds)

def reconciliationStatus (missing unexpected duplicateSamples : List SampleRef) (duplicateFactIds : List String) :
    ReconciliationStatus :=
  if missing ≠ [] then .gap
  else if unexpected ≠ [] ∨ duplicateSamples ≠ [] ∨ duplicateFactIds ≠ [] then .drift
  else .complete

def reconcileSamples (expected : List SampleRef) (observed : List UsageFact) :
    Except ReconciliationError ReconciliationReport :=
  if expected.length > 10000 ∨ observed.length > 10000 then
    .error (.refused ⟨.valueError,"sample reconciliation exceeds its bounded input size"⟩)
  else (reconcileMissingAndUnexpected expected (observed.map (·.sample))).bind fun sides =>
    (reconcileDuplicates expected (observed.map (·.sample)) (observed.map (·.factId))).bind fun duplicates =>
      (ReconciliationReport.make expected.length observed.length sides.1 sides.2 duplicates.1 duplicates.2
        (reconciliationStatus sides.1 sides.2 duplicates.1 duplicates.2)).mapError .refused

end Arbora.Economics
