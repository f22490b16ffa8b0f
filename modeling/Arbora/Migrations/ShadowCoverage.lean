import Arbora.Migrations.Replay
import Mathlib.Data.List.Induction

/-! What a clean shadow comparison has looked at. -/
namespace Arbora.Migrations
open Guards Machine

theorem recordMap_append (records : List CanonicalRecord) (record : CanonicalRecord) :
    recordMap (records ++ [record]) = (recordMap records).set record.canonicalRef record := by
  unfold recordMap
  rw [List.foldl_append]
  rfl

variable {r : OpaqueRef} {records targets : List CanonicalRecord}

theorem recordMap_get {record : CanonicalRecord}
    (h : (recordMap records).get r = some record) : record ∈ records ∧ record.canonicalRef = r := by
  induction records using List.reverseRecOn with
  | nil => cases h
  | append_singleton records last ih =>
    rw [recordMap_append,Dict.get_set] at h
    split_ifs at h with hr
    · cases h
      exact ⟨List.mem_append_right _ (List.mem_singleton_self _),hr.symm⟩
    · obtain ⟨hmem,href⟩ := ih h
      exact ⟨List.mem_append_left _ hmem,href⟩

theorem recordMap_of_mem {record : CanonicalRecord} (h : record ∈ records) :
    ∃ found, (recordMap records).get record.canonicalRef = some found := by
  induction records using List.reverseRecOn with
  | nil => cases h
  | append_singleton records last ih =>
    rw [recordMap_append,Dict.get_set]
    split_ifs with hr
    · exact ⟨last,rfl⟩
    · rcases List.mem_append.mp h with hmem | hlast
      · exact ih hmem
      · cases List.mem_singleton.mp hlast
        exact absurd rfl hr

theorem shadowDeltaFor_none {source target : Option CanonicalRecord} (h : shadowDeltaFor r source target = none) :
    source = none ∧ target = none ∨ ∃ a b, source = some a ∧ target = some b ∧
      a.recordDigest = b.recordDigest ∧ a.sourceRevision = b.sourceRevision := by
  cases source with
  | none =>
    cases target with
    | none => exact .inl ⟨rfl,rfl⟩
    | some b => cases h
  | some a =>
    cases target with
    | none => cases h
    | some b =>
      simp only [shadowDeltaFor] at h
      split_ifs at h with hdiff
      rw [not_or,not_not,not_not] at hdiff
      exact .inr ⟨a,b,rfl,rfl,hdiff⟩

variable {sources : List CanonicalRecord}

theorem no_deltas (h : computeShadowDeltas (recordMap sources) (recordMap targets) = []) (r : OpaqueRef) :
    (recordMap sources).get r = none ∧ (recordMap targets).get r = none ∨
      ∃ a b, (recordMap sources).get r = some a ∧ (recordMap targets).get r = some b ∧
        a.recordDigest = b.recordDigest ∧ a.sourceRevision = b.sourceRevision := by
  by_cases hmem : r ∈ (recordMap sources).keys ∪ (recordMap targets).keys
  · refine shadowDeltaFor_none (r := r) ?_
    unfold computeShadowDeltas at h
    rw [List.filterMap_eq_nil_iff] at h
    exact h r (List.mem_insertionSort _ |>.mpr hmem)
  · rw [List.mem_union_iff,not_or,Dict.mem_keys,Dict.mem_keys,not_not,not_not] at hmem
    exact .inl hmem

def AcceptedObservation (s : Authority) (plan : MigrationPlan) (canonicalRef : OpaqueRef) : Prop :=
  ∃ r batch observation, s.backfills.get r = some batch ∧ batch.migrationRef = plan.migrationRef ∧
    batch.sourceSnapshotDigest = plan.sourceSnapshotDigest ∧ observation ∈ batch.observations ∧
    observation.canonicalRef = canonicalRef ∧ observation.disposition = .accepted

theorem mem_observationsFor {s : Authority} {plan : MigrationPlan} {o : BackfillObservation} :
    o ∈ observationsFor s plan ↔ ∃ r batch, s.backfills.get r = some batch ∧
      batch.migrationRef = plan.migrationRef ∧ batch.sourceSnapshotDigest = plan.sourceSnapshotDigest ∧
      o ∈ batch.observations := by
  unfold observationsFor
  rw [List.mem_insertionSort,List.mem_flatMap]
  constructor
  · rintro ⟨batch,hbatch,ho⟩
    obtain ⟨hstored,hbound⟩ := List.mem_filter.mp hbatch
    obtain ⟨r,hr⟩ := Dict.mem_values.mp hstored
    rw [decide_eq_true_eq] at hbound
    exact ⟨r,batch,hr,hbound.1,hbound.2,ho⟩
  · rintro ⟨r,batch,hr,hmigration,hdigest,ho⟩
    refine ⟨batch,List.mem_filter.mpr ⟨Dict.mem_values.mpr ⟨r,hr⟩,?_⟩,ho⟩
    rw [decide_eq_true_eq]
    exact ⟨hmigration,hdigest⟩

/-- What a passed coverage check has seen. -/
theorem coverage_ok {s : Authority} {plan : MigrationPlan} {snapshot : SourceSnapshot} {flags : Bool × Bool}
    (h : validateShadowBackfillCoverage s plan sources snapshot = .ok flags) :
    (∀ record ∈ sources, AcceptedObservation s plan record.canonicalRef) ∧
      ∃ inventory, loadShadowInventory s plan = .ok inventory := by
  unfold validateShadowBackfillCoverage at h
  split_ifs at h
  cases hobservations : loadShadowObservations s plan with
  | error e =>
    rw [hobservations] at h
    cases h
  | ok observations =>
    cases hinventory : loadShadowInventory s plan with
    | error e =>
      rw [hobservations,hinventory] at h
      cases h
    | ok inventory =>
      rw [hobservations,hinventory] at h
      simp only [bind,Except.bind] at h
      split_ifs at h with hmissing
      refine ⟨?_,inventory,rfl⟩
      have hsame : observations = observationsFor s plan := by
        unfold loadShadowObservations at hobservations
        simp only at hobservations
        split_ifs at hobservations
        cases hobservations
        rfl
      intro record hrecord
      rw [Bool.not_eq_true,List.any_eq_false] at hmissing
      have haccepted := hmissing record hrecord
      rw [decide_eq_true_eq,not_not] at haccepted
      obtain ⟨o,ho,href⟩ := List.mem_map.mp haccepted
      obtain ⟨hmem,hdisposition⟩ := List.mem_filter.mp ho
      rw [hsame] at hmem
      obtain ⟨r,batch,hr,hmigration,hdigest,hobservation⟩ := mem_observationsFor.mp hmem
      exact ⟨r,batch,o,hr,hmigration,hdigest,hobservation,href,of_decide_eq_true hdisposition⟩

theorem shadowReconciliationState_clean {rejected inventoryReject : Bool} {deltas : List ShadowDelta}
    (h : shadowReconciliationState rejected inventoryReject deltas = .clean) : deltas = [] := by
  unfold shadowReconciliationState at h
  split_ifs at h with h1 h2
  exact h2

/-- Stored inventories stand under their own references. -/
def Authority.InventoriesKeyed (s : Authority) : Prop :=
  ∀ r inventory, s.inventories.get r = some inventory → inventory.inventoryRef.1 = r

theorem register_inventories (s : Authority) (snapshot : SourceSnapshot) :
    (s.register snapshot).inventories = s.inventories := by
  unfold Authority.register
  split_ifs <;> rfl

theorem Writes.inventories {s t : Authority} {call : Call} {answer : Answer} (h : Writes s call answer t) :
    t.inventories = s.inventories ∨ ∃ inventory : MigrationInventory,
      t.inventories = s.inventories.set inventory.inventoryRef inventory := by
  cases h with
  | registerSnapshot | replayPlan | createPlan => exact .inl (register_inventories _ _)
  | freezeInventory => exact .inr ⟨_,rfl⟩
  | _ => exact .inl rfl

theorem inventoriesKeyed_step (s : Authority) (call : Call) (h : s.InventoriesKeyed) :
    (step s call).2.InventoriesKeyed := by
  rcases step_cases s call with ⟨answer,-,hsame | hwrites⟩ | ⟨e,-,hsame | ⟨plan,snapshot,-,-,hsame⟩⟩
  · rwa [hsame]
  · unfold Authority.InventoriesKeyed
    rcases hwrites.inventories with hsame | ⟨inventory,hset⟩
    · rwa [hsame]
    · intro r stored hstored
      rw [hset,Dict.get_set] at hstored
      split_ifs at hstored with hr
      · cases hstored
        exact hr.symm
      · exact h r stored hstored
  · rwa [hsame]
  · rw [hsame]
    unfold Authority.InventoriesKeyed
    rwa [register_inventories]

theorem inventoriesKeyed_of_reachable {s : Authority} (h : Reachable step Authority.empty s) : s.InventoriesKeyed :=
  h.invariant inventoriesKeyed_step fun r inventory hi => by simp [Authority.empty] at hi

theorem loadShadowInventory_named {s : Authority} {plan : MigrationPlan} {inventory : MigrationInventory}
    (hs : s.InventoriesKeyed) (h : loadShadowInventory s plan = .ok inventory) :
    inventoryAt s plan.inventoryRef = some inventory := by
  unfold loadShadowInventory at h
  cases hget : s.inventories.get ((plan.inventoryRef.map Subtype.val).getD "") with
  | none =>
    rw [hget] at h
    cases h
  | some found =>
    rw [hget] at h
    cases h
    cases href : plan.inventoryRef with
    | some r =>
      rw [href] at hget
      exact hget
    | none =>
      -- the empty text is not a reference
      rw [href] at hget
      have hempty : inventory.inventoryRef.1 = "" := hs "" inventory hget
      have hvalid := inventory.inventoryRef.2
      rw [hempty] at hvalid
      exact absurd hvalid (by decide)

structure ShadowComplete (s : Authority) (plan : MigrationPlan) (inventory : MigrationInventory)
    (sources targets : List CanonicalRecord) : Prop where
  observed : ∀ item ∈ inventory.items, AcceptedObservation s plan item.canonicalRef
  matched : ∀ item ∈ inventory.items, ∃ a ∈ sources, ∃ b ∈ targets, a.canonicalRef = item.canonicalRef ∧
    b.canonicalRef = item.canonicalRef ∧ a.recordDigest = b.recordDigest ∧ a.sourceRevision = b.sourceRevision
  contained : ∀ b ∈ targets, ∃ a ∈ sources, a.canonicalRef = b.canonicalRef

theorem clean_compared {s : Authority} {planRef source target : String} {v : ℤ} {candidate : ShadowReconciliation}
    (h : (step s (.reconcileShadow planRef source target sources targets v)).1 = .ok (.reconciliation candidate))
    (hclean : candidate.state = .clean) :
    ∃ plan inventory, s.plans.get planRef = some plan ∧ loadShadowInventory s plan = .ok inventory ∧
      (∀ record ∈ sources, AcceptedObservation s plan record.canonicalRef) ∧
      computeShadowDeltas (recordMap sources) (recordMap targets) = [] := by
  obtain ⟨answer,hop,hanswer⟩ := map_ok.mp (run_of_step_ok h)
  cases hanswer
  obtain ⟨plan,computed,hcompared,hcommit⟩ := reconcileShadow_iff.mp hop
  obtain ⟨rfl,-⟩ := commit_run hcommit
  obtain ⟨snapshot,flags,-,-,hflags,-,hcandidate⟩ := hcompared.coverage
  obtain ⟨hobserved,inventory,hinventory⟩ := coverage_ok hflags
  have hstate := (buildCandidate_ok hcandidate).2
  rw [hclean] at hstate
  exact ⟨plan,inventory,hcompared.found,hinventory,hobserved,shadowReconciliationState_clean hstate.symm⟩

/-- A clean answer is complete exactly when the source records cover the plan's inventory. -/
theorem clean_shadow_complete_iff {s : Authority} (hs : Reachable step Authority.empty s)
    {planRef source target : String} {sources targets : List CanonicalRecord} {v : ℤ}
    {candidate : ShadowReconciliation}
    (h : (step s (.reconcileShadow planRef source target sources targets v)).1 = .ok (.reconciliation candidate))
    (hclean : candidate.state = .clean) :
    ∃ plan inventory, s.plans.get planRef = some plan ∧ inventoryAt s plan.inventoryRef = some inventory ∧
      (ShadowComplete s plan inventory sources targets ↔
        ∀ item ∈ inventory.items, ∃ record ∈ sources, record.canonicalRef = item.canonicalRef) := by
  obtain ⟨plan,inventory,hplan,hinventory,hobserved,hdeltas⟩ := clean_compared h hclean
  refine ⟨plan,inventory,hplan,loadShadowInventory_named (inventoriesKeyed_of_reachable hs) hinventory,?_⟩
  constructor
  · intro hcomplete item hitem
    obtain ⟨a,ha,b,-,href,-⟩ := hcomplete.matched item hitem
    exact ⟨a,ha,href⟩
  · intro hcovers
    refine ⟨?_,?_,?_⟩
    · intro item hitem
      obtain ⟨record,hrecord,href⟩ := hcovers item hitem
      rw [← href]
      exact hobserved record hrecord
    · intro item hitem
      obtain ⟨record,hrecord,href⟩ := hcovers item hitem
      obtain ⟨found,hfound⟩ := recordMap_of_mem hrecord
      rcases no_deltas hdeltas record.canonicalRef with ⟨hnone,-⟩ | ⟨a,b,ha,hb,hdigest,hrevision⟩
      · rw [hfound] at hnone
        cases hnone
      · obtain ⟨hasource,haref⟩ := recordMap_get ha
        obtain ⟨hbtarget,hbref⟩ := recordMap_get hb
        exact ⟨a,hasource,b,hbtarget,haref.trans href,hbref.trans href,hdigest,hrevision⟩
    · intro target htarget
      obtain ⟨found,hfound⟩ := recordMap_of_mem htarget
      rcases no_deltas hdeltas target.canonicalRef with ⟨-,hnone⟩ | ⟨a,b,ha,-,-,-⟩
      · rw [hfound] at hnone
        cases hnone
      · obtain ⟨hasource,haref⟩ := recordMap_get ha
        exact ⟨a,hasource,haref⟩

section
variable {s : Authority} {planRef : String} {v : ℤ} {plan updated : MigrationPlan}

theorem nextPlan_keeps (plan : MigrationPlan) (state : MigrationState) (updates : PlanData → PlanData)
    (hlt : plan.version.1 < maxVersion) (hcohorts : ∀ data, (updates data).cohortRefs = data.cohortRefs) :
    ∃ updated, nextPlan plan plan.version.1 state state.expectedStage updates = .ok updated := by
  have hvalid : ((updates plan.toPlanData).advance ⟨plan.version.1 + 1,by omega⟩ state state.expectedStage).Valid := by
    refine ⟨rfl,?_,?_⟩
    · change (updates plan.toPlanData).cohortRefs.Nodup
      rw [hcohorts]
      exact plan.valid.cohortsUnique
    · change (updates plan.toPlanData).cohortRefs.length ≤ maxCohorts
      rw [hcohorts]
      exact plan.valid.cohortsBounded
  exact ⟨_,nextPlan_eq rfl hlt hvalid⟩

variable {snapshot : SourceSnapshot} {inventory : MigrationInventory}

theorem freezeInventory_stores (hplan : s.plans.get planRef = some plan)
    (hsnapshot : s.snapshots.get plan.sourceSnapshotRef = some snapshot)
    (hdigest : snapshot.snapshotDigest.1 = plan.sourceSnapshotDigest)
    (hbound : inventoryMatchesSnapshotBinding inventory plan snapshot (snapshot.files.map (·.sourceFileRef)) = true)
    (hnew : s.inventories.get inventory.inventoryRef = none) (hstate : plan.state = .planned)
    (hnext : nextPlan plan v .inventoryFrozen .inventoryFreeze
      (fun data => {data with inventoryRef := some inventory.inventoryRef}) = .ok updated) :
    (freezeInventory planRef inventory v).run s = .ok updated
      {s with inventories := s.inventories.set inventory.inventoryRef inventory
              plans := s.plans.set plan.planRef updated} := by
  simp only [freezeInventory,planAt_bind_ok,snapshotAt_bind_ok,refuse_bind_ok,get_bind_ok,check_bind_ok,
    Bool.not_eq_false]
  refine ⟨plan,hplan,snapshot,hsnapshot,hdigest,hbound,none,sameOrConflict_none.mpr hnew,?_⟩
  simp only [refuse_bind_ok,check_bind_ok,modify_bind_ok,pure_ok,not_not]
  exact ⟨hstate,updated,hnext,rfl,rfl⟩

theorem recordBackfill_stores {batch : BackfillBatch} (hplan : s.plans.get planRef = some plan)
    (hsnapshot : s.snapshots.get plan.sourceSnapshotRef = some snapshot)
    (hdigest : snapshot.snapshotDigest.1 = plan.sourceSnapshotDigest)
    (hbound : batch.migrationRef = plan.migrationRef ∧ batch.sourceSnapshotDigest = plan.sourceSnapshotDigest)
    (hinventory : inventoryAt s plan.inventoryRef = some inventory)
    (hconflict : backfillObservationConflict batch (inventory.items.map (·.canonicalRef)) snapshot = none)
    (hnew : s.backfills.get batch.batchRef = none) (hstate : plan.state = .inventoryFrozen)
    (hnext : nextPlan plan v .backfillObserving .readOnlyBackfill id = .ok updated) :
    (recordBackfill planRef batch v).run s = .ok updated
      {s with backfills := s.backfills.set batch.batchRef batch
              plans := s.plans.set plan.planRef updated} := by
  simp only [recordBackfill,planAt_bind_ok,snapshotAt_bind_ok,refuse_bind_ok,get_bind_ok,found_bind_ok,
    check_bind_ok,not_or,not_not,conflicting_ok]
  refine ⟨plan,hplan,snapshot,hsnapshot,hdigest,hbound,inventory,hinventory,(),hconflict,none,
    sameOrConflict_none.mpr hnew,?_⟩
  simp only [refuse_bind_ok,check_bind_ok,modify_bind_ok,pure_ok,not_and_or,not_not]
  refine ⟨.inl hstate,updated,?_,rfl,rfl⟩
  rw [if_pos hstate]
  exact hnext

end

namespace Fixture

def recordRef : OpaqueRef := ref "record:one"

def item : InventoryItem where
  version := firstVersion
  digest := digest
  canonicalRef := recordRef
  sourceRef := sourceFile.sourceRef
  sourceFileRef := some sourceFile.sourceFileRef
  sourceRecordRef := some (ref "source-record:one")
  sourceRevision := sourceFile.revision
  sourceDigest := digest
  metadataDigest := digest
  state := .present

def source : SourceSnapshot := snapshot firstSnapshot

def inventory (names : Names) : MigrationInventory where
  version := firstVersion
  digest := digest
  inventoryRef := names.inventoryRef
  migrationRef := names.migrationRef
  sourceSnapshotRef := firstSnapshot
  sourceSnapshotDigest := source.snapshotDigest
  items := [item]
  inventoryDigest := inventoryDigestOf [item]
  itemsBounded := by decide
  itemsUnique := List.nodup_singleton _
  digestMatches := rfl

def observation (names : Names) : BackfillObservation where
  version := firstVersion
  digest := digest
  observationRef := ref "observation:one"
  migrationRef := names.migrationRef
  sourceSnapshotDigest := source.snapshotDigest
  canonicalRef := recordRef
  sourceRef := sourceFile.sourceRef
  sourceFileRef := some sourceFile.sourceFileRef
  sourceRecordRef := item.sourceRecordRef
  sourceRevision := sourceFile.revision
  sourceDigest := digest
  metadataDigest := digest
  disposition := .accepted
  approvalState := .unreviewed
  approvalRef := none
  approverRef := none
  observedAt := 1
  approvedExplicitly := nofun
  evidenceExpected := fun _ => ⟨rfl,rfl⟩

def batch (names : Names) : BackfillBatch where
  version := firstVersion
  digest := digest
  batchRef := names.batchRef
  migrationRef := names.migrationRef
  sourceSnapshotDigest := source.snapshotDigest
  observations := [observation names]
  batchDigest := batchDigestOf [observation names]
  observationsBounded := by simp [maxEvidenceItems]
  observationsBound := by
    intro o ho
    cases List.mem_singleton.mp ho
    exact ⟨rfl,rfl,rfl⟩
  observationsUnique := List.nodup_singleton _
  digestMatches := rfl

/-- The plan has been created, frozen and observed, on top of what was stored. -/
structure Observing (names : Names) (s t : Authority) (p : MigrationPlan) : Prop where
  reachable : Reachable step Authority.empty t
  snapshot : t.snapshots.get "snapshot:one" = some source
  found : t.plans.get names.planRef = some p
  others : ∀ r, r ≠ names.planRef.1 → t.plans.get r = s.plans.get r
  inventories : t.inventories = s.inventories.set names.inventoryRef (inventory names)
  backfills : t.backfills = s.backfills.set names.batchRef (batch names)
  reconciliations : t.reconciliations = s.reconciliations
  migration : SameMigration (plan names firstSnapshot) p
  state : p.state = .backfillObserving
  version : p.version.1 = 3
  inventory : p.inventoryRef = some names.inventoryRef
  fence : p.writeFenceRef = none

theorem inventory_bound (names : Names) : inventoryMatchesSnapshotBinding (inventory names)
    (plan names firstSnapshot) source (source.files.map (·.sourceFileRef)) = true := by
  have hsame : ¬((inventory names).migrationRef ≠ (plan names firstSnapshot).migrationRef ∨
      (inventory names).sourceSnapshotRef ≠ (plan names firstSnapshot).sourceSnapshotRef ∨
      (inventory names).sourceSnapshotDigest ≠ (plan names firstSnapshot).sourceSnapshotDigest) := by
    rw [not_or,not_or,not_not,not_not,not_not]
    exact ⟨rfl,rfl,rfl⟩
  unfold inventoryMatchesSnapshotBinding
  rw [if_neg hsame]
  simp [inventory,item,source,snapshot,sourceFile]

theorem batch_admitted (names : Names) :
    backfillObservationConflict (batch names) ((inventory names).items.map (·.canonicalRef)) source = none := by
  simp [backfillObservationConflict,batch,observation,inventory,item,source,snapshot]

structure Stored (s t : Authority) (names : Names) (p : MigrationPlan) : Prop where
  reachable : Reachable step Authority.empty t
  snapshot : t.snapshots.get firstSnapshot.1 = some source
  plans : t.plans.get names.planRef = some p ∧ ∀ r, r ≠ names.planRef.1 → t.plans.get r = s.plans.get r
  reconciliations : t.reconciliations = s.reconciliations

theorem create (names : Names) {s : Authority} (hs : Reachable step Authority.empty s) (hadmits : s.Admits source)
    (hplan : s.plans.get names.planRef = none) :
    ∃ t, Stored s t names (plan names firstSnapshot) ∧ t.inventories = s.inventories ∧ t.backfills = s.backfills := by
  have hstep := step_ok (.createPlan (plan names firstSnapshot) source) rfl
    (createPlan_creates ⟨rfl,rfl,rfl,rfl⟩ hadmits hplan)
  have hnext := hs.next (.createPlan (plan names firstSnapshot) source)
  rw [hstep] at hnext
  refine ⟨_,⟨hnext,register_snapshots hadmits,⟨Dict.get_set_self _ _ _,fun r hr => Dict.get_set_ne _ _ hr⟩,?_⟩,?_,?_⟩
  · unfold Authority.register
    split_ifs <;> rfl
  · exact register_inventories s source
  · unfold Authority.register
    split_ifs <;> rfl

variable {t : Authority} {names : Names} {p : MigrationPlan}

theorem freeze (names : Names) {s : Authority} (h : Stored s t names (plan names firstSnapshot))
    (hnew : t.inventories.get names.inventoryRef = none) : ∃ u frozen, Stored s u names frozen ∧
      Advanced (plan names firstSnapshot) frozen 1 .inventoryFrozen
        (fun data => {data with inventoryRef := some names.inventoryRef}) ∧
      u.inventories = t.inventories.set names.inventoryRef (inventory names) ∧ u.backfills = t.backfills := by
  obtain ⟨frozen,hfrozen⟩ := nextPlan_keeps (plan names firstSnapshot) .inventoryFrozen
    (fun data => {data with inventoryRef := some names.inventoryRef}) (by simp [plan,firstVersion,maxVersion])
    fun _ => rfl
  have hdigest : source.snapshotDigest.1 = (plan names firstSnapshot).sourceSnapshotDigest := rfl
  have hstep := step_ok (.freezeInventory names.planRef (inventory names) 1) rfl
    (freezeInventory_stores h.plans.1 h.snapshot hdigest (inventory_bound names) hnew rfl hfrozen)
  have hnext := h.reachable.next (.freezeInventory names.planRef (inventory names) 1)
  rw [hstep] at hnext
  exact ⟨_,frozen,⟨hnext,h.snapshot,⟨Dict.get_set_self _ _ _,
    fun r hr => (Dict.get_set_ne _ _ hr).trans (h.plans.2 r hr)⟩,h.reconciliations⟩,nextPlan_ok hfrozen,rfl,rfl⟩

theorem observe (names : Names) {s : Authority} (hs : Reachable step Authority.empty s)
    (hadmits : s.Admits source) (hplan : s.plans.get names.planRef = none)
    (hinventory : s.inventories.get names.inventoryRef = none) (hbatch : s.backfills.get names.batchRef = none) :
    ∃ t p, Observing names s t p := by
  obtain ⟨t,hcreated,hinventories,hbackfills⟩ := create names hs hadmits hplan
  rw [← hinventories] at hinventory
  obtain ⟨u,frozen,hfroze,hfrozen,hinventories',hbackfills'⟩ := freeze names hcreated hinventory
  have hfrozenMoves := hfrozen.moves .freeze fun _ => ⟨rfl,rfl,rfl,rfl⟩
  have hversion : frozen.version.1 = 2 := hfrozenMoves.version
  obtain ⟨observed,hobserved⟩ := nextPlan_keeps frozen .backfillObserving id (by rw [hversion]; decide) fun _ => rfl
  have hadvanced := nextPlan_ok hobserved
  have hmoves := hadvanced.moves (hfrozen.state_eq ▸ .observe) fun _ => ⟨rfl,rfl,rfl,rfl⟩
  have href : frozen.inventoryRef = some names.inventoryRef := hfrozen.field (·.inventoryRef) fun _ _ _ _ => rfl
  have hloaded : inventoryAt u frozen.inventoryRef = some (inventory names) := by
    rw [href]
    change u.inventories.get names.inventoryRef = _
    rw [hinventories',Dict.get_set_self]
  have hsnapshot : u.snapshots.get frozen.sourceSnapshotRef = some source := by
    rw [hfrozenMoves.snapshotRef]
    exact hfroze.snapshot
  have hdigest : source.snapshotDigest.1 = frozen.sourceSnapshotDigest := by
    rw [hfrozenMoves.snapshotDigest]
    rfl
  have hbound : (batch names).migrationRef = frozen.migrationRef ∧
      (batch names).sourceSnapshotDigest = frozen.sourceSnapshotDigest := by
    rw [hfrozenMoves.migrationRef,hfrozenMoves.snapshotDigest]
    exact ⟨rfl,rfl⟩
  have hkey : frozen.planRef = names.planRef := hfrozenMoves.planRef
  have hstep := step_ok (.recordBackfill names.planRef (batch names) frozen.version.1) rfl
    (recordBackfill_stores hfroze.plans.1 hsnapshot hdigest hbound hloaded (batch_admitted names)
      (by rw [hbackfills',hbackfills]; exact hbatch) hfrozen.state_eq hobserved)
  have hnext := hfroze.reachable.next (.recordBackfill names.planRef (batch names) frozen.version.1)
  rw [hstep,hkey] at hnext
  refine ⟨_,observed,hnext,hfroze.snapshot,Dict.get_set_self _ _ _,?_,?_,?_,hfroze.reconciliations,?_,
    hadvanced.state_eq,?_,?_,?_⟩
  · exact fun r hr => (Dict.get_set_ne _ _ hr).trans (hfroze.plans.2 r hr)
  · rw [← hinventories]
    exact hinventories'
  · change u.backfills.set _ _ = _
    rw [hbackfills',hbackfills]
    rfl
  · exact ⟨hmoves.planRef.trans hfrozenMoves.planRef,hmoves.migrationRef.trans hfrozenMoves.migrationRef,
      hmoves.snapshotRef.trans hfrozenMoves.snapshotRef,hmoves.snapshotDigest.trans hfrozenMoves.snapshotDigest,
      hmoves.authority.trans hfrozenMoves.authority⟩
  · rw [hmoves.version,hversion]
  · exact (hadvanced.field (·.inventoryRef) fun _ _ _ _ => rfl).trans href
  · have hfence : frozen.writeFenceRef = none := hfrozen.field (·.writeFenceRef) fun _ _ _ _ => rfl
    exact (hadvanced.field (·.writeFenceRef) fun _ _ _ _ => rfl).trans hfence

structure Comparable (names : Names) (t : Authority) (p : MigrationPlan) : Prop where
  snapshot : t.snapshots.get p.sourceSnapshotRef = some source
  found : t.plans.get names.planRef = some p
  observations : observationsFor t p = [observation names]
  inventory : loadShadowInventory t p = .ok (inventory names)
  state : p.state = .backfillObserving
  version : p.version.1 = 3

theorem Observing.comparable {s : Authority} (h : Observing names s t p)
    (hnew : s.backfills.get names.batchRef = none)
    (hothers : ∀ batch ∈ s.backfills.values, batch.migrationRef ≠ names.migrationRef) : Comparable names t p := by
  refine ⟨?_,h.found,?_,?_,h.state,h.version⟩
  · rw [h.migration.snapshotRef]
    exact h.snapshot
  · have hnone : s.backfills.values.filter (fun batch => batch.migrationRef = names.migrationRef ∧
        batch.sourceSnapshotDigest = source.snapshotDigest) = [] := by
      rw [List.filter_eq_nil_iff]
      intro batch hbatch hbound
      rw [decide_eq_true_eq] at hbound
      exact hothers batch hbatch hbound.1
    have hmigration : p.migrationRef = names.migrationRef := h.migration.migrationRef
    have hdigest : p.sourceSnapshotDigest = source.snapshotDigest := h.migration.snapshotDigest
    unfold observationsFor
    rw [h.backfills,Dict.values_set_new _ hnew,hmigration,hdigest,List.filter_cons,hnone]
    simp [batch]
  · unfold loadShadowInventory
    rw [h.inventory,h.inventories]
    simp

theorem Comparable.coverage (h : Comparable names t p) :
    validateShadowBackfillCoverage t p [] source = .ok (false,false) := by
  have hloaded : loadShadowObservations t p = .ok [observation names] := by
    unfold loadShadowObservations
    rw [h.observations]
    simp
  unfold validateShadowBackfillCoverage
  rw [hloaded,h.inventory]
  rfl

def compareNothing (names : Names) : Call :=
  .reconcileShadow names.planRef source.snapshotDigest.1 source.snapshotDigest.1 [] [] 3

theorem Comparable.compared (h : Comparable names t p) :
    ∃ candidate, Compared t names.planRef source.snapshotDigest.1 source.snapshotDigest.1 [] [] p candidate ∧
      candidate.state = .clean := by
  have hvalid : (isDigest source.snapshotDigest.1 = true ∧ isDigest source.snapshotDigest.1 = true) ∧
      ([] : List ShadowDelta).length ≤ maxEvidenceItems ∧ ReconciliationState.clean.summarises [] = true :=
    ⟨⟨source.snapshotDigest.2,source.snapshotDigest.2⟩,Nat.zero_le _,rfl⟩
  obtain ⟨candidate,hcandidate⟩ : ∃ candidate, buildShadowReconciliationCandidate p source.snapshotDigest.1
      source.snapshotDigest.1 [] .clean = .ok candidate := by
    unfold buildShadowReconciliationCandidate
    rw [dif_pos hvalid]
    exact ⟨_,rfl⟩
  exact ⟨candidate,⟨h.found,.inl h.state,rfl,source,(false,false),h.snapshot,rfl,h.coverage,fun hne => hne.2 rfl,
    hcandidate⟩,(buildCandidate_ok hcandidate).2⟩

theorem Comparable.answered (h : Comparable names t p)
    (hnew : t.reconciliations.get (reconciliationRefOf source.snapshotDigest.1 source.snapshotDigest.1) = none) :
    ∃ candidate updated, candidate.state = .clean ∧ candidate.migrationRef = p.migrationRef ∧
      candidate.reconciliationRef.1 = reconciliationRefOf source.snapshotDigest.1 source.snapshotDigest.1 ∧
      step t (compareNothing names) = (.ok (.reconciliation candidate),
        {t with plans := t.plans.set p.planRef updated
                reconciliations := t.reconciliations.set candidate.reconciliationRef candidate}) := by
  obtain ⟨candidate,hcompared,hclean⟩ := h.compared
  obtain ⟨href,hmigration,-⟩ := hcompared.built
  obtain ⟨updated,hupdated⟩ := nextPlan_keeps p .shadowReconciled
    (fun data => {data with reconciliationRef := some candidate.reconciliationRef})
    (by rw [h.version]; decide) fun _ => rfl
  rw [h.version] at hupdated
  have hreconciled : reconciledPlan p candidate 3 = .ok (some updated) := by
    unfold reconciledPlan
    rw [if_pos ⟨hclean,h.state⟩]
    exact congrArg (· >>= fun updated => pure (some updated)) hupdated
  have hcommit : (commitShadowReconciliation p candidate 3).run t = .ok candidate
      {t with plans := t.plans.set p.planRef updated
              reconciliations := t.reconciliations.set candidate.reconciliationRef candidate} := by
    simp only [commitShadowReconciliation,get_bind_ok,check_bind_ok]
    refine ⟨none,sameOrConflict_none.mpr (by rw [href]; exact hnew),?_⟩
    simp only [check_bind_ok]
    refine ⟨some updated,hreconciled,?_⟩
    simp only [storePlan,modify_bind_ok,pure_ok]
    exact ⟨trivial,trivial⟩
  exact ⟨candidate,updated,hclean,hmigration,href,
    step_ok (compareNothing names) rfl (reconcileShadow_iff.mpr ⟨p,candidate,hcompared,hcommit⟩)⟩

theorem nothing_compared : ∃ s p candidate, Reachable step Authority.empty s ∧ Observing one Authority.empty s p ∧
    (step s (compareNothing one)).1 = .ok (.reconciliation candidate) ∧ candidate.state = .clean := by
  obtain ⟨s,p,h⟩ := observe one ⟨[],rfl⟩ (.inl rfl) rfl rfl rfl
  have hcomparable : Comparable one s p := h.comparable rfl nofun
  obtain ⟨candidate,updated,hclean,-,-,hstep⟩ := hcomparable.answered (by rw [h.reconciliations]; rfl)
  exact ⟨s,p,candidate,h.reachable,h,congrArg Prod.fst hstep,hclean⟩

end Fixture

theorem empty_comparison_clean : ¬∀ s planRef source target sources targets v candidate,
    Reachable step Authority.empty s →
    (step s (.reconcileShadow planRef source target sources targets v)).1 = .ok (.reconciliation candidate) →
    candidate.state = .clean →
    ∃ plan inventory, s.plans.get planRef = some plan ∧ inventoryAt s plan.inventoryRef = some inventory ∧
      ShadowComplete s plan inventory sources targets := by
  intro h
  obtain ⟨s,p,candidate,hs,hobserving,hanswer,hclean⟩ := Fixture.nothing_compared
  obtain ⟨plan,inventory,hplan,hinventory,hcomplete⟩ := h s _ _ _ _ _ _ candidate hs hanswer hclean
  cases hobserving.found.symm.trans hplan
  have hloaded : inventoryAt s p.inventoryRef = some (Fixture.inventory Fixture.one) := by
    rw [hobserving.inventory]
    change s.inventories.get Fixture.one.inventoryRef = _
    rw [hobserving.inventories,Dict.get_set_self]
  cases hloaded.symm.trans hinventory
  obtain ⟨a,ha,-⟩ := hcomplete.matched Fixture.item (List.mem_singleton_self _)
  cases ha

theorem empty_comparison_complete_iff : ∃ s candidate,
    (step s (Fixture.compareNothing Fixture.one)).1 = .ok (.reconciliation candidate) ∧ candidate.state = .clean ∧
    ∃ plan inventory, s.plans.get "plan:one" = some plan ∧ inventoryAt s plan.inventoryRef = some inventory ∧
      (ShadowComplete s plan inventory [] [] ↔
        ∀ item ∈ inventory.items, ∃ record ∈ ([] : List CanonicalRecord), record.canonicalRef = item.canonicalRef) := by
  obtain ⟨s,p,candidate,hs,-,hanswer,hclean⟩ := Fixture.nothing_compared
  exact ⟨s,candidate,hanswer,hclean,clean_shadow_complete_iff hs hanswer hclean⟩

end Arbora.Migrations
