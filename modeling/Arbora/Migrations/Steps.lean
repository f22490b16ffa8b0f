import Arbora.Lib.Machine
import Arbora.Migrations.Authority

/-! What a call of the authority can do: it is refused or answered from what is stored, and the
authority stays as it was, or it writes what its operation says. -/
namespace Arbora.Migrations
open Guards

theorem casVersion_ok {actual : Version} {expected : Option ℤ} {u : Unit} :
    casVersion actual expected = .ok u ↔ expected = some (actual.1 : ℤ) := by
  unfold casVersion
  split_ifs with h <;> simp [h]

structure Advanced (plan updated : MigrationPlan) (v : ℤ) (state : MigrationState)
    (updates : PlanData → PlanData) : Prop where
  expected : v = plan.version.1
  data : ∃ version : Version, version.1 = plan.version.1 + 1 ∧
    updated.toPlanData = (updates plan.toPlanData).advance version state state.expectedStage

variable {α : Type} {identity : String} {e : MigrationError} {updated : MigrationPlan} {snapshot : SourceSnapshot}
  {updates : PlanData → PlanData}

theorem Advanced.state_eq {plan : MigrationPlan} {v : ℤ} {state : MigrationState}
    (h : Advanced plan updated v state updates) : updated.state = state := by
  obtain ⟨version,-,hdata⟩ := h.data
  rw [hdata]
  rfl

theorem Advanced.field {plan : MigrationPlan} {v : ℤ} {state : MigrationState}
    (h : Advanced plan updated v state updates) (f : PlanData → α)
    (hf : ∀ data version state stage, f (data.advance version state stage) = f data) :
    f updated.toPlanData = f (updates plan.toPlanData) := by
  obtain ⟨version,-,hdata⟩ := h.data
  rw [hdata,hf]

theorem nextPlan_ok {plan : MigrationPlan} {v : ℤ} {state : MigrationState} {stage : MigrationStage}
    (h : nextPlan plan v state stage updates = .ok updated) : Advanced plan updated v state updates := by
  unfold nextPlan at h
  cases hcas : casVersion plan.version (some v) with
  | error e =>
    rw [hcas] at h
    cases h
  | ok u =>
    rw [hcas] at h
    have hv := casVersion_ok.mp hcas
    simp only [bind,Except.bind] at h
    split_ifs at h with hlt hvalid
    cases h
    have hstage : stage = state.expectedStage := hvalid.stageMatches
    subst hstage
    exact ⟨by simpa using hv,⟨_,_⟩,rfl,rfl⟩

theorem nextPlan_eq {plan : MigrationPlan} {v : ℤ} {state : MigrationState} {stage : MigrationStage}
    (hv : v = plan.version.1) (hlt : plan.version.1 < maxVersion)
    (hvalid : ((updates plan.toPlanData).advance ⟨plan.version.1 + 1,by omega⟩ state stage).Valid) :
    nextPlan plan v state stage updates = .ok ⟨_,hvalid⟩ := by
  unfold nextPlan
  rw [casVersion_ok (u := ()) |>.mpr (by rw [hv])]
  exact (dif_pos hlt).trans (dif_pos hvalid)

variable {op : Op α} {call : Call} {a incoming : α} {wrap : α → Answer} {existing : Option α}

theorem sameOrConflict_none [DecidableEq α] :
    sameOrConflict existing incoming identity = .ok none ↔ existing = none := by
  cases existing with
  | none => simp [sameOrConflict]
  | some e =>
    simp only [sameOrConflict]
    split_ifs <;> simp

theorem sameOrConflict_some [DecidableEq α] {same : α} :
    sameOrConflict existing incoming identity = .ok (some same) ↔ existing = some incoming ∧ same = incoming := by
  cases existing with
  | none => simp [sameOrConflict]
  | some e =>
    simp only [sameOrConflict]
    split_ifs with h
    · subst h
      simp [eq_comm]
    · simp [h]

theorem planAt_bind_ok {planRef : String} {f : MigrationPlan → Op α} {s t : Authority} :
    (planAt planRef >>= f).run s = .ok a t ↔ ∃ plan, s.plans.get planRef = some plan ∧ (f plan).run s = .ok a t := by
  unfold planAt
  rw [bind_assoc,get_bind_ok,found_bind_ok]

theorem snapshotAt_bind_ok {snapshotRef digest : String} {f : SourceSnapshot → Op α} {s t : Authority} :
    (snapshotAt snapshotRef digest >>= f).run s = .ok a t ↔
      ∃ snapshot, s.snapshots.get snapshotRef = some snapshot ∧ snapshot.snapshotDigest.1 = digest ∧
        (f snapshot).run s = .ok a t := by
  unfold snapshotAt
  simp only [bind_assoc,get_bind_ok,found_bind_ok,refuse_bind_ok,pure_bind,not_not]

def Authority.register (s : Authority) (snapshot : SourceSnapshot) : Authority :=
  if s.snapshots.get snapshot.snapshotRef = none then
    {s with snapshots := s.snapshots.set snapshot.snapshotRef snapshot}
  else s

/-- What `create_plan` asks of a plan and its snapshot before it takes the lock. -/
structure Initial (plan : MigrationPlan) (snapshot : SourceSnapshot) : Prop where
  version : plan.version.1 = 1
  state : plan.state = .planned
  snapshotRef : plan.sourceSnapshotRef = snapshot.snapshotRef
  snapshotDigest : plan.sourceSnapshotDigest = snapshot.snapshotDigest

/-- Nothing else is registered under the snapshot's reference. -/
def Authority.Admits (s : Authority) (snapshot : SourceSnapshot) : Prop :=
  s.snapshots.get snapshot.snapshotRef = none ∨ s.snapshots.get snapshot.snapshotRef = some snapshot

/-- The cohorts after one more was cut over. -/
def withCohort (cohorts : List OpaqueRef) (cohort : OpaqueRef) : List OpaqueRef :=
  (cohorts.insert cohort).insertionSort fun a b => a.1 ≤ b.1

/-- The fences once a rollback has stored the one it rolls back, if any. -/
def Authority.fencesAfter (s : Authority) : Option WriteCutoverFence → Dict String WriteCutoverFence
  | none => s.writeFences
  | some fence => s.writeFences.set fence.fenceRef fence

/-- The comparison a call of `reconcile_shadow` makes before it looks at what is stored. -/
structure Compared (s : Authority) (planRef source target : String) (sources targets : List CanonicalRecord)
    (plan : MigrationPlan) (candidate : ShadowReconciliation) : Prop where
  found : s.plans.get planRef = some plan
  stage : plan.state = .backfillObserving ∨ plan.state = .shadowReconciled
  maps : buildShadowRecordMaps sources targets = .ok (recordMap sources,recordMap targets)
  coverage : ∃ snapshot flags, s.snapshots.get plan.sourceSnapshotRef = some snapshot ∧
    snapshot.snapshotDigest.1 = source ∧ validateShadowBackfillCoverage s plan sources snapshot = .ok flags ∧
    ¬(target = source ∧ computeShadowDeltas (recordMap sources) (recordMap targets) ≠ []) ∧
    buildShadowReconciliationCandidate plan source target
      (computeShadowDeltas (recordMap sources) (recordMap targets))
      (shadowReconciliationState flags.1 flags.2 (computeShadowDeltas (recordMap sources) (recordMap targets))) =
        .ok candidate

inductive Writes (s : Authority) : Call → Answer → Authority → Prop where
  | registerSnapshot {snapshot : SourceSnapshot} (hnew : s.snapshots.get snapshot.snapshotRef = none) :
      Writes s (.registerSnapshot snapshot) (.snapshot snapshot) (s.register snapshot)
  | replayPlan {plan : MigrationPlan} {snapshot : SourceSnapshot} (hinitial : Initial plan snapshot)
      (hadmits : s.Admits snapshot) (hsame : s.plans.get plan.planRef = some plan) :
      Writes s (.createPlan plan snapshot) (.plan plan) (s.register snapshot)
  | createPlan {plan : MigrationPlan} {snapshot : SourceSnapshot} (hinitial : Initial plan snapshot)
      (hadmits : s.Admits snapshot) (hnew : s.plans.get plan.planRef = none) :
      Writes s (.createPlan plan snapshot) (.plan plan)
        {s.register snapshot with plans := s.plans.set plan.planRef plan}
  | freezeInventory {planRef : String} {inventory : MigrationInventory} {v : ℤ} {plan updated : MigrationPlan}
      {snapshot : SourceSnapshot} (hplan : s.plans.get planRef = some plan)
      (hsnapshot : s.snapshots.get plan.sourceSnapshotRef = some snapshot)
      (hdigest : snapshot.snapshotDigest.1 = plan.sourceSnapshotDigest)
      (hbound : inventoryMatchesSnapshotBinding inventory plan snapshot
        (snapshot.files.map (·.sourceFileRef)) = true)
      (hnew : s.inventories.get inventory.inventoryRef = none) (hstate : plan.state = .planned)
      (hnext : Advanced plan updated v .inventoryFrozen
        fun data => {data with inventoryRef := some inventory.inventoryRef}) :
      Writes s (.freezeInventory planRef inventory v) (.plan updated)
        {s with inventories := s.inventories.set inventory.inventoryRef inventory
                plans := s.plans.set plan.planRef updated}
  | recordBackfill {planRef : String} {batch : BackfillBatch} {v : ℤ} {plan updated : MigrationPlan}
      {snapshot : SourceSnapshot} {inventory : MigrationInventory} (hplan : s.plans.get planRef = some plan)
      (hsnapshot : s.snapshots.get plan.sourceSnapshotRef = some snapshot)
      (hdigest : snapshot.snapshotDigest.1 = plan.sourceSnapshotDigest)
      (hbound : batch.migrationRef = plan.migrationRef ∧ batch.sourceSnapshotDigest = plan.sourceSnapshotDigest)
      (hinventory : inventoryAt s plan.inventoryRef = some inventory)
      (hconflict : backfillObservationConflict batch (inventory.items.map (·.canonicalRef)) snapshot = none)
      (hnew : s.backfills.get batch.batchRef = none)
      (hstate : plan.state = .inventoryFrozen ∨ plan.state = .backfillObserving)
      (hnext : Advanced plan updated v .backfillObserving id) :
      Writes s (.recordBackfill planRef batch v) (.plan updated)
        {s with backfills := s.backfills.set batch.batchRef batch
                plans := s.plans.set plan.planRef updated}
  | reconcileShadow {planRef source target : String} {sources targets : List CanonicalRecord} {v : ℤ}
      {plan : MigrationPlan} {candidate : ShadowReconciliation}
      (hcompared : Compared s planRef source target sources targets plan candidate)
      (hnew : s.reconciliations.get candidate.reconciliationRef = none) (hv : v = plan.version.1)
      (hkept : ¬(candidate.state = .clean ∧ plan.state = .backfillObserving)) :
      Writes s (.reconcileShadow planRef source target sources targets v) (.reconciliation candidate)
        {s with reconciliations := s.reconciliations.set candidate.reconciliationRef candidate}
  | advanceShadow {planRef source target : String} {sources targets : List CanonicalRecord} {v : ℤ}
      {plan updated : MigrationPlan} {candidate : ShadowReconciliation}
      (hcompared : Compared s planRef source target sources targets plan candidate)
      (hnew : s.reconciliations.get candidate.reconciliationRef = none)
      (hclean : candidate.state = .clean) (hstate : plan.state = .backfillObserving)
      (hnext : Advanced plan updated v .shadowReconciled
        fun data => {data with reconciliationRef := some candidate.reconciliationRef}) :
      Writes s (.reconcileShadow planRef source target sources targets v) (.reconciliation candidate)
        {s with reconciliations := s.reconciliations.set candidate.reconciliationRef candidate
                plans := s.plans.set plan.planRef updated}
  | cutoverReads {planRef : String} {cutover : CohortReadCutover} {gate : PrerequisiteGate} {v : ℤ}
      {plan updated : MigrationPlan} {clean : ShadowReconciliation} (hplan : s.plans.get planRef = some plan)
      (hgate : requireGate gate plan.migrationRef plan.sourceSnapshotDigest .cohortReadCutover = .ok ())
      (hclean : cleanReconciliation s plan = .ok clean)
      (hbound : cutover.migrationRef = plan.migrationRef ∧
        cutover.sourceSnapshotDigest = plan.sourceSnapshotDigest ∧ cutover.gateRef = gate.gateRef)
      (hnew : s.readCutovers.get cutover.cutoverRef = none)
      (hstate : plan.state = .shadowReconciled ∨ plan.state = .readCutover)
      (hnext : Advanced plan updated v .readCutover
        fun data => {data with cohortRefs := withCohort plan.cohortRefs cutover.cohortRef}) :
      Writes s (.cutoverReads planRef cutover gate v) (.plan updated)
        {s with readCutovers := s.readCutovers.set cutover.cutoverRef cutover
                plans := s.plans.set plan.planRef updated}
  | fenceWrites {planRef : String} {fence : WriteCutoverFence} {gate : PrerequisiteGate} {v : ℤ}
      {plan updated : MigrationPlan} (hplan : s.plans.get planRef = some plan)
      (hgate : requireGate gate plan.migrationRef plan.sourceSnapshotDigest .writeCutover = .ok ())
      (hbound : fence.migrationRef = plan.migrationRef ∧ fence.sourceSnapshotDigest = plan.sourceSnapshotDigest ∧
        fence.authorityRef = plan.targetAuthorityRef ∧ fence.gateRef = gate.gateRef ∧
        fence.cohortRefs.toFinset = plan.cohortRefs.toFinset)
      (hnew : s.writeFences.get fence.fenceRef = none) (hstate : plan.state = .readCutover)
      (hnext : Advanced plan updated v .writeFenced
        fun data => {data with writeFenceRef := some fence.fenceRef}) :
      Writes s (.fenceWrites planRef fence gate v) (.plan updated)
        {s with writeFences := s.writeFences.set fence.fenceRef fence
                plans := s.plans.set plan.planRef updated}
  | checkpointProjection {planRef : String} {checkpoint : ProjectionCheckpoint} {gate : PrerequisiteGate} {v : ℤ}
      {plan updated : MigrationPlan} (hplan : s.plans.get planRef = some plan)
      (hgate : requireGate gate plan.migrationRef plan.sourceSnapshotDigest .projectionCheckpoint = .ok ())
      (hbound : checkpoint.migrationRef = plan.migrationRef ∧
        checkpoint.sourceSnapshotDigest = plan.sourceSnapshotDigest ∧ checkpoint.gateRef = gate.gateRef ∧
        checkpoint.state = .complete)
      (hnew : s.checkpoints.get checkpoint.checkpointRef = none) (hstate : plan.state = .writeFenced)
      (hfence : (fenceAt s plan.writeFenceRef).map (·.state) = some .active)
      (hnext : Advanced plan updated v .checkpointed
        fun data => {data with checkpointRef := some checkpoint.checkpointRef}) :
      Writes s (.checkpointProjection planRef checkpoint gate v) (.plan updated)
        {s with checkpoints := s.checkpoints.set checkpoint.checkpointRef checkpoint
                plans := s.plans.set plan.planRef updated}
  | retireLegacy {planRef : String} {retirement : LegacyRetirement} {gate : PrerequisiteGate} {v : ℤ}
      {plan updated : MigrationPlan} (hplan : s.plans.get planRef = some plan)
      (hgate : requireGate gate plan.migrationRef plan.sourceSnapshotDigest .legacyRetirement = .ok ())
      (hproof : retirementProofInvalid retirement plan gate = false)
      (hnew : s.retirements.get retirement.retirementRef = none) (hstate : plan.state = .checkpointed)
      (hnext : Advanced plan updated v .retired
        fun data => {data with retirementRef := some retirement.retirementRef}) :
      Writes s (.retireLegacy planRef retirement gate v) (.plan updated)
        {s with retirements := s.retirements.set retirement.retirementRef retirement
                plans := s.plans.set plan.planRef updated}
  | rollback {planRef : String} {record : MigrationRollback} {v : ℤ} {plan updated : MigrationPlan}
      {fence : Option WriteCutoverFence} (hplan : s.plans.get planRef = some plan)
      (hstate : plan.state ≠ .retired)
      (hbound : record.migrationRef = plan.migrationRef ∧
        record.sourceSnapshotDigest = plan.sourceSnapshotDigest ∧
        (record.decision = .requested ∨ record.decision = .applied))
      (hnew : s.rollbacks.get record.rollbackRef = none)
      (hfence : rolledBackFenceFor s plan record = .ok fence) (hnext : Advanced plan updated v .rolledBack id) :
      Writes s (.rollback planRef record v) (.plan updated)
        {s with writeFences := s.fencesAfter fence
                rollbacks := s.rollbacks.set record.rollbackRef (appliedRollback record)
                plans := s.plans.set plan.planRef updated}

section
variable {s t : Authority} {planRef : String} {v : ℤ} {plan : MigrationPlan}

theorem registerSnapshot_run {snapshot same : SourceSnapshot} (h : (registerSnapshot snapshot).run s = .ok same t) :
    same = snapshot ∧ s.Admits snapshot ∧ t = s.register snapshot := by
  simp only [registerSnapshot,get_bind_ok,check_bind_ok] at h
  obtain ⟨existing,hexisting,h⟩ := h
  cases existing with
  | some other =>
    obtain ⟨hsame,rfl⟩ := sameOrConflict_some.mp hexisting
    obtain ⟨rfl,rfl⟩ := pure_ok.mp h
    exact ⟨rfl,.inr hsame,by simp [Authority.register,hsame]⟩
  | none =>
    have hnew := sameOrConflict_none.mp hexisting
    obtain ⟨rfl,rfl⟩ := h
    exact ⟨rfl,.inl hnew,by simp [Authority.register,hnew]⟩

theorem createPlan_run {snapshot : SourceSnapshot} {created : MigrationPlan}
    (h : (createPlan plan snapshot).run s = .ok created t) :
    Writes s (.createPlan plan snapshot) (.plan created) t := by
  simp only [createPlan,refuse_bind_ok,bind_ok (x := registerSnapshot snapshot),get_bind_ok,check_bind_ok,
    not_or,not_not] at h
  obtain ⟨⟨hversion,hstate⟩,href,hdigest,same,u,hregister,existing,hexisting,h⟩ := h
  obtain ⟨-,hadmits,rfl⟩ := registerSnapshot_run hregister
  have hinitial : Initial plan snapshot := ⟨hversion,hstate,href,hdigest⟩
  have hplans : (s.register snapshot).plans = s.plans := by
    unfold Authority.register
    split_ifs <;> rfl
  rw [hplans] at hexisting
  cases existing with
  | some other =>
    obtain ⟨hsame,rfl⟩ := sameOrConflict_some.mp hexisting
    obtain ⟨rfl,rfl⟩ := pure_ok.mp h
    exact .replayPlan hinitial hadmits hsame
  | none =>
    have hnew := sameOrConflict_none.mp hexisting
    simp only [modify_bind_ok,pure_ok] at h
    obtain ⟨rfl,rfl⟩ := h
    rw [hplans]
    exact .createPlan hinitial hadmits hnew

theorem freezeInventory_run {inventory : MigrationInventory}
    (h : (freezeInventory planRef inventory v).run s = .ok plan t) :
    t = s ∨ Writes s (.freezeInventory planRef inventory v) (.plan plan) t := by
  simp only [freezeInventory,planAt_bind_ok,snapshotAt_bind_ok,refuse_bind_ok,get_bind_ok,check_bind_ok,
    Bool.not_eq_false] at h
  obtain ⟨found,hplan,snapshot,hsnapshot,hdigest,hbound,existing,hexisting,h⟩ := h
  cases existing with
  | some same =>
    simp only [refuse_bind_ok,pure_ok] at h
    exact .inl h.2.2
  | none =>
    simp only [refuse_bind_ok,check_bind_ok,modify_bind_ok,pure_ok,not_not] at h
    obtain ⟨hstate,updated,hnext,rfl,rfl⟩ := h
    exact .inr (.freezeInventory hplan hsnapshot hdigest hbound (sameOrConflict_none.mp hexisting) hstate
      (nextPlan_ok hnext))

theorem conflicting_ok {conflict : Option String} {u : Unit} : conflicting conflict = .ok u ↔ conflict = none := by
  cases conflict <;> simp [conflicting]

theorem recordBackfill_run {batch : BackfillBatch} (h : (recordBackfill planRef batch v).run s = .ok plan t) :
    t = s ∨ Writes s (.recordBackfill planRef batch v) (.plan plan) t := by
  simp only [recordBackfill,planAt_bind_ok,snapshotAt_bind_ok,refuse_bind_ok,get_bind_ok,found_bind_ok,
    check_bind_ok,not_or,not_not,conflicting_ok] at h
  obtain ⟨found,hplan,snapshot,hsnapshot,hdigest,hbound,inventory,hinventory,-,hconflict,existing,hexisting,h⟩ := h
  cases existing with
  | some same =>
    obtain ⟨-,rfl⟩ := pure_ok.mp h
    exact .inl rfl
  | none =>
    simp only [refuse_bind_ok,check_bind_ok,modify_bind_ok,pure_ok,not_and_or,not_not] at h
    obtain ⟨hstate,updated,hnext,rfl,rfl⟩ := h
    have hobserving : (if found.state = .inventoryFrozen then .backfillObserving else found.state) =
        MigrationState.backfillObserving := by
      rcases hstate with hstate | hstate <;> simp [hstate]
    rw [hobserving] at hnext
    exact .inr (.recordBackfill hplan hsnapshot hdigest hbound hinventory hconflict (sameOrConflict_none.mp hexisting)
      hstate (nextPlan_ok hnext))

variable {source target : String} {gate : PrerequisiteGate} {candidate : ShadowReconciliation}
  {sources targets : List CanonicalRecord}

theorem buildCandidate_ok {deltas : List ShadowDelta} {state : ReconciliationState}
    (h : buildShadowReconciliationCandidate plan source target deltas state = .ok candidate) :
    (candidate.reconciliationRef.1 = reconciliationRefOf source target ∧
      candidate.migrationRef = plan.migrationRef ∧ candidate.sourceSnapshotDigest.1 = source) ∧
      candidate.state = state := by
  unfold buildShadowReconciliationCandidate at h
  split_ifs at h
  cases h
  exact ⟨⟨rfl,rfl,rfl⟩,rfl⟩

theorem reconciledPlan_ok {stored : Option MigrationPlan} (h : reconciledPlan plan candidate v = .ok stored) :
    (∃ updated, stored = some updated ∧ candidate.state = .clean ∧ plan.state = .backfillObserving ∧
      Advanced plan updated v .shadowReconciled
        fun data => {data with reconciliationRef := some candidate.reconciliationRef}) ∨
    stored = none ∧ ¬(candidate.state = .clean ∧ plan.state = .backfillObserving) ∧ v = plan.version.1 := by
  unfold reconciledPlan at h
  split_ifs at h with hclean
  · cases hnext : nextPlan plan v .shadowReconciled .shadowReconciliation
        (fun data => {data with reconciliationRef := some candidate.reconciliationRef}) with
    | error e =>
      rw [hnext] at h
      cases h
    | ok updated =>
      rw [hnext] at h
      cases h
      exact .inl ⟨updated,rfl,hclean.1,hclean.2,nextPlan_ok hnext⟩
  · cases hcas : casVersion plan.version (some v) with
    | error e =>
      rw [hcas] at h
      cases h
    | ok u =>
      rw [hcas] at h
      cases h
      exact .inr ⟨rfl,hclean,by simpa using casVersion_ok.mp hcas⟩

theorem buildShadowRecordMaps_ok {maps : RecordMap × RecordMap}
    (h : buildShadowRecordMaps sources targets = .ok maps) : maps = (recordMap sources,recordMap targets) := by
  unfold buildShadowRecordMaps at h
  simp only at h
  split_ifs at h
  cases h
  rfl

theorem reconcileShadow_iff : (reconcileShadow planRef source target sources targets v).run s = .ok candidate t ↔
    ∃ plan computed, Compared s planRef source target sources targets plan computed ∧
      (commitShadowReconciliation plan computed v).run s = .ok candidate t := by
  simp only [reconcileShadow,planAt_bind_ok,snapshotAt_bind_ok,refuse_bind_ok,get_bind_ok,check_bind_ok,
    not_and_or,not_not]
  constructor
  · rintro ⟨plan,hplan,snapshot,hsnapshot,hdigest,hstate,maps,hmaps,flags,hflags,hsame,computed,hcomputed,h⟩
    cases buildShadowRecordMaps_ok hmaps
    refine ⟨plan,computed,⟨hplan,hstate,hmaps,snapshot,flags,hsnapshot,hdigest,hflags,?_,hcomputed⟩,h⟩
    simpa only [not_and_or,not_not] using hsame
  · rintro ⟨plan,computed,⟨hplan,hstate,hmaps,snapshot,flags,hsnapshot,hdigest,hflags,hsame,hcomputed⟩,h⟩
    refine ⟨plan,hplan,snapshot,hsnapshot,hdigest,hstate,_,hmaps,flags,hflags,?_,computed,hcomputed,h⟩
    simpa only [not_and_or,not_not] using hsame

theorem Compared.built (h : Compared s planRef source target sources targets plan candidate) :
    candidate.reconciliationRef.1 = reconciliationRefOf source target ∧
      candidate.migrationRef = plan.migrationRef ∧ candidate.sourceSnapshotDigest.1 = source := by
  obtain ⟨snapshot,flags,-,-,-,-,hcandidate⟩ := h.coverage
  exact (buildCandidate_ok hcandidate).1

theorem commit_run {stored : ShadowReconciliation}
    (h : (commitShadowReconciliation plan candidate v).run s = .ok stored t) :
    stored = candidate ∧ (t = s ∧ s.reconciliations.get candidate.reconciliationRef = some candidate ∨
      s.reconciliations.get candidate.reconciliationRef = none ∧
        ((¬(candidate.state = .clean ∧ plan.state = .backfillObserving) ∧ v = plan.version.1 ∧
          t = {s with reconciliations := s.reconciliations.set candidate.reconciliationRef candidate}) ∨
        ∃ updated, candidate.state = .clean ∧ plan.state = .backfillObserving ∧
          Advanced plan updated v .shadowReconciled
            (fun data => {data with reconciliationRef := some candidate.reconciliationRef}) ∧
          t = {s with reconciliations := s.reconciliations.set candidate.reconciliationRef candidate
                      plans := s.plans.set plan.planRef updated})) := by
  simp only [commitShadowReconciliation,get_bind_ok,check_bind_ok] at h
  obtain ⟨existing,hexisting,h⟩ := h
  cases existing with
  | some same =>
    obtain ⟨hsame,rfl⟩ := sameOrConflict_some.mp hexisting
    obtain ⟨rfl,rfl⟩ := pure_ok.mp h
    exact ⟨rfl,.inl ⟨rfl,hsame⟩⟩
  | none =>
    have hnew := sameOrConflict_none.mp hexisting
    simp only [check_bind_ok] at h
    obtain ⟨updated,hupdated,h⟩ := h
    rcases reconciledPlan_ok hupdated with ⟨next,rfl,hclean,hstate,hnext⟩ | ⟨rfl,hkept,hv⟩
    · simp only [storePlan,modify_bind_ok,pure_ok] at h
      obtain ⟨rfl,rfl⟩ := h
      exact ⟨rfl,.inr ⟨hnew,.inr ⟨next,hclean,hstate,hnext,rfl⟩⟩⟩
    · simp only [storePlan,pure_bind,modify_bind_ok,pure_ok] at h
      obtain ⟨rfl,rfl⟩ := h
      exact ⟨rfl,.inr ⟨hnew,.inl ⟨hkept,hv,rfl⟩⟩⟩

theorem reconcileShadow_run (h : (reconcileShadow planRef source target sources targets v).run s = .ok candidate t) :
    t = s ∨ Writes s (.reconcileShadow planRef source target sources targets v) (.reconciliation candidate) t := by
  obtain ⟨plan,computed,hcompared,hcommit⟩ := reconcileShadow_iff.mp h
  obtain ⟨rfl,hcases⟩ := commit_run hcommit
  rcases hcases with ⟨rfl,-⟩ | ⟨hnew,⟨hkept,hv,rfl⟩ | ⟨updated,hclean,hstate,hnext,rfl⟩⟩
  · exact .inl rfl
  · exact .inr (.reconcileShadow hcompared hnew hv hkept)
  · exact .inr (.advanceShadow hcompared hnew hclean hstate hnext)

theorem cutoverReads_run {cutover : CohortReadCutover} (h : (cutoverReads planRef cutover gate v).run s = .ok plan t) :
    t = s ∨ Writes s (.cutoverReads planRef cutover gate v) (.plan plan) t := by
  simp only [cutoverReads,planAt_bind_ok,refuse_bind_ok,get_bind_ok,check_bind_ok,not_or,not_not] at h
  obtain ⟨found,hplan,⟨⟩,hgate,clean,hclean,hbound,existing,hexisting,h⟩ := h
  cases existing with
  | some same =>
    obtain ⟨-,rfl⟩ := pure_ok.mp h
    exact .inl rfl
  | none =>
    simp only [refuse_bind_ok,check_bind_ok,modify_bind_ok,pure_ok,not_and_or,not_not] at h
    obtain ⟨hstate,updated,hnext,rfl,rfl⟩ := h
    exact .inr (.cutoverReads hplan hgate hclean hbound (sameOrConflict_none.mp hexisting) hstate (nextPlan_ok hnext))

theorem fenceWrites_run {fence : WriteCutoverFence} (h : (fenceWrites planRef fence gate v).run s = .ok plan t) :
    t = s ∨ Writes s (.fenceWrites planRef fence gate v) (.plan plan) t := by
  simp only [fenceWrites,planAt_bind_ok,refuse_bind_ok,get_bind_ok,check_bind_ok,not_or,not_not] at h
  obtain ⟨found,hplan,⟨⟩,hgate,hbound,existing,hexisting,h⟩ := h
  cases existing with
  | some same =>
    obtain ⟨-,rfl⟩ := pure_ok.mp h
    exact .inl rfl
  | none =>
    simp only [refuse_bind_ok,check_bind_ok,modify_bind_ok,pure_ok,not_not] at h
    obtain ⟨hstate,updated,hnext,rfl,rfl⟩ := h
    exact .inr (.fenceWrites hplan hgate hbound (sameOrConflict_none.mp hexisting) hstate (nextPlan_ok hnext))

theorem checkpointProjection_run {checkpoint : ProjectionCheckpoint} (h :
    (checkpointProjection planRef checkpoint gate v).run s = .ok plan t) :
    t = s ∨ Writes s (.checkpointProjection planRef checkpoint gate v) (.plan plan) t := by
  simp only [checkpointProjection,planAt_bind_ok,refuse_bind_ok,get_bind_ok,check_bind_ok,not_or,
    not_not] at h
  obtain ⟨found,hplan,⟨⟩,hgate,hbound,existing,hexisting,h⟩ := h
  cases existing with
  | some same =>
    obtain ⟨-,rfl⟩ := pure_ok.mp h
    exact .inl rfl
  | none =>
    simp only [refuse_bind_ok,check_bind_ok,modify_bind_ok,pure_ok,not_or,not_not] at h
    obtain ⟨⟨hstate,-⟩,hfence,updated,hnext,rfl,rfl⟩ := h
    exact .inr (.checkpointProjection hplan hgate hbound (sameOrConflict_none.mp hexisting) hstate hfence
      (nextPlan_ok hnext))

theorem retireLegacy_run {retirement : LegacyRetirement} (h :
    (retireLegacy planRef retirement gate v).run s = .ok plan t) :
    t = s ∨ Writes s (.retireLegacy planRef retirement gate v) (.plan plan) t := by
  simp only [retireLegacy,planAt_bind_ok,refuse_bind_ok,get_bind_ok,check_bind_ok,Bool.not_eq_true] at h
  obtain ⟨found,hplan,⟨⟩,hgate,hproof,existing,hexisting,h⟩ := h
  cases existing with
  | some same =>
    obtain ⟨-,rfl⟩ := pure_ok.mp h
    exact .inl rfl
  | none =>
    simp only [refuse_bind_ok,check_bind_ok,modify_bind_ok,pure_ok,not_not] at h
    obtain ⟨hstate,updated,hnext,rfl,rfl⟩ := h
    exact .inr (.retireLegacy hplan hgate hproof (sameOrConflict_none.mp hexisting) hstate (nextPlan_ok hnext))

theorem appliedRollback_ref (record : MigrationRollback) :
    (appliedRollback record).rollbackRef = record.rollbackRef := by
  unfold appliedRollback
  split_ifs <;> rfl

theorem storeFence_bind_ok {α : Type} {fence : Option WriteCutoverFence} {f : Unit → Op α} {a : α} :
    (storeFence fence >>= f).run s = .ok a t ↔ (f ()).run {s with writeFences := s.fencesAfter fence} = .ok a t := by
  cases fence <;> rfl

theorem rollback_run {record : MigrationRollback} (h : (rollback planRef record v).run s = .ok plan t) :
    t = s ∧ s.rollbacks.get record.rollbackRef = some record ∨
      Writes s (.rollback planRef record v) (.plan plan) t := by
  simp only [rollback,planAt_bind_ok,refuse_bind_ok,get_bind_ok,check_bind_ok,not_or,not_and_or,
    not_not] at h
  obtain ⟨found,hplan,hstate,hbound,existing,hexisting,h⟩ := h
  cases existing with
  | some same =>
    obtain ⟨-,rfl⟩ := pure_ok.mp h
    exact .inl ⟨rfl,(sameOrConflict_some.mp hexisting).1⟩
  | none =>
    simp only [check_bind_ok,storeFence_bind_ok,modify_bind_ok,pure_ok,appliedRollback_ref] at h
    obtain ⟨fence,hfence,updated,hnext,rfl,rfl⟩ := h
    exact .inr (.rollback hplan hstate hbound (sameOrConflict_none.mp hexisting) hfence (nextPlan_ok hnext))

end

theorem reads_planAt (planRef : String) : Reads (planAt planRef) := reads_get.bind fun _ => reads_found _ _
theorem reads_snapshotAt (snapshotRef digest : String) : Reads (snapshotAt snapshotRef digest) :=
  reads_get.bind fun _ => (reads_found _ _).bind fun _ => (reads_refuse _ _).bind fun _ => reads_pure _
theorem reads_stored (dict : Authority → Dict String α) (ref : String) : Reads (stored dict ref) :=
  reads_get.bind fun _ => reads_found _ _

theorem atomic_store (next : Except MigrationError α) (f g : α → Authority → Authority) (r : α → MigrationPlan) :
    Atomic (do
      let updated ← check next
      modify (f updated)
      modify (g updated)
      return r updated : Op MigrationPlan) :=
  (reads_check next).atomic_bind fun _ =>
    ((returns_modify _).bind fun _ => (returns_modify _).bind fun _ => returns_pure _).atomic

theorem atomic_registerSnapshot (snapshot : SourceSnapshot) : Atomic (registerSnapshot snapshot) := by
  refine reads_get.atomic_bind fun s => (reads_check _).atomic_bind fun existing => ?_
  cases existing with
  | some same => exact (reads_pure same).2
  | none => exact ((returns_modify _).bind fun _ => returns_pure _).atomic

theorem atomic_freezeInventory (planRef : String) (inventory : MigrationInventory) (v : ℤ) :
    Atomic (freezeInventory planRef inventory v) := by
  refine (reads_planAt _).atomic_bind fun plan => (reads_snapshotAt _ _).atomic_bind fun snapshot => ?_
  refine (reads_refuse _ _).atomic_bind fun _ => reads_get.atomic_bind fun s => ?_
  refine (reads_check _).atomic_bind fun existing => ?_
  cases existing with
  | some same => exact ((reads_refuse _ _).bind fun _ => reads_pure _).2
  | none => exact (reads_refuse _ _).atomic_bind fun _ => atomic_store _ _ _ _

theorem atomic_recordBackfill (planRef : String) (batch : BackfillBatch) (v : ℤ) :
    Atomic (recordBackfill planRef batch v) := by
  refine (reads_planAt _).atomic_bind fun plan => (reads_snapshotAt _ _).atomic_bind fun snapshot => ?_
  refine (reads_refuse _ _).atomic_bind fun _ => reads_get.atomic_bind fun s => ?_
  refine (reads_found _ _).atomic_bind fun inventory => (reads_check _).atomic_bind fun _ => ?_
  refine (reads_check _).atomic_bind fun existing => ?_
  cases existing with
  | some same => exact (reads_pure _).2
  | none => exact (reads_refuse _ _).atomic_bind fun _ => atomic_store _ _ _ _

theorem returns_storePlan (plan : MigrationPlan) (updated : Option MigrationPlan) :
    Returns (storePlan plan updated) := by
  cases updated with
  | none => exact returns_pure ()
  | some next => exact returns_modify _

theorem atomic_reconcileShadow (planRef source target : String) (sources targets : List CanonicalRecord) (v : ℤ) :
    Atomic (reconcileShadow planRef source target sources targets v) := by
  refine (reads_planAt _).atomic_bind fun plan => (reads_snapshotAt _ _).atomic_bind fun snapshot => ?_
  refine (reads_refuse _ _).atomic_bind fun _ => (reads_check _).atomic_bind fun maps => ?_
  refine reads_get.atomic_bind fun s => (reads_check _).atomic_bind fun flags => ?_
  refine (reads_refuse _ _).atomic_bind fun _ => (reads_check _).atomic_bind fun candidate => ?_
  refine reads_get.atomic_bind fun s => (reads_check _).atomic_bind fun existing => ?_
  cases existing with
  | some same => exact (reads_pure _).2
  | none =>
    refine (reads_check _).atomic_bind fun updated => Returns.atomic ?_
    exact (returns_storePlan _ _).bind fun _ => (returns_modify _).bind fun _ => returns_pure _

theorem atomic_cutoverReads (planRef : String) (cutover : CohortReadCutover) (gate : PrerequisiteGate) (v : ℤ) :
    Atomic (cutoverReads planRef cutover gate v) := by
  refine (reads_planAt _).atomic_bind fun plan => (reads_check _).atomic_bind fun _ => ?_
  refine reads_get.atomic_bind fun s => (reads_check _).atomic_bind fun _ => ?_
  refine (reads_refuse _ _).atomic_bind fun _ => (reads_check _).atomic_bind fun existing => ?_
  cases existing with
  | some same => exact (reads_pure _).2
  | none => exact (reads_refuse _ _).atomic_bind fun _ => atomic_store _ _ _ _

theorem atomic_fenceWrites (planRef : String) (fence : WriteCutoverFence) (gate : PrerequisiteGate) (v : ℤ) :
    Atomic (fenceWrites planRef fence gate v) := by
  refine (reads_planAt _).atomic_bind fun plan => (reads_check _).atomic_bind fun _ => ?_
  refine (reads_refuse _ _).atomic_bind fun _ => reads_get.atomic_bind fun s => ?_
  refine (reads_check _).atomic_bind fun existing => ?_
  cases existing with
  | some same => exact (reads_pure _).2
  | none => exact (reads_refuse _ _).atomic_bind fun _ => atomic_store _ _ _ _

theorem atomic_checkpointProjection (planRef : String) (checkpoint : ProjectionCheckpoint)
    (gate : PrerequisiteGate) (v : ℤ) : Atomic (checkpointProjection planRef checkpoint gate v) := by
  refine (reads_planAt _).atomic_bind fun plan => (reads_check _).atomic_bind fun _ => ?_
  refine (reads_refuse _ _).atomic_bind fun _ => reads_get.atomic_bind fun s => ?_
  refine (reads_check _).atomic_bind fun existing => ?_
  cases existing with
  | some same => exact (reads_pure _).2
  | none =>
    refine (reads_refuse _ _).atomic_bind fun _ => (reads_refuse _ _).atomic_bind fun _ => ?_
    exact atomic_store _ _ _ _

theorem atomic_retireLegacy (planRef : String) (retirement : LegacyRetirement) (gate : PrerequisiteGate) (v : ℤ) :
    Atomic (retireLegacy planRef retirement gate v) := by
  refine (reads_planAt _).atomic_bind fun plan => (reads_check _).atomic_bind fun _ => ?_
  refine (reads_refuse _ _).atomic_bind fun _ => reads_get.atomic_bind fun s => ?_
  refine (reads_check _).atomic_bind fun existing => ?_
  cases existing with
  | some same => exact (reads_pure _).2
  | none => exact (reads_refuse _ _).atomic_bind fun _ => atomic_store _ _ _ _

theorem returns_storeFence (fence : Option WriteCutoverFence) : Returns (storeFence fence) := by
  cases fence with
  | none => exact returns_pure ()
  | some fence => exact returns_modify _

theorem atomic_rollback (planRef : String) (record : MigrationRollback) (v : ℤ) :
    Atomic (rollback planRef record v) := by
  refine (reads_planAt _).atomic_bind fun plan => (reads_refuse _ _).atomic_bind fun _ => ?_
  refine (reads_refuse _ _).atomic_bind fun _ => reads_get.atomic_bind fun s => ?_
  refine (reads_check _).atomic_bind fun existing => ?_
  cases existing with
  | some same => exact (reads_pure _).2
  | none =>
    refine (reads_check _).atomic_bind fun fence => (reads_check _).atomic_bind fun updated => Returns.atomic ?_
    refine (returns_storeFence _).bind fun _ => (returns_modify _).bind fun _ => ?_
    exact (returns_modify _).bind fun _ => returns_pure _

structure RegistersThenRefuses (s : Authority) (plan : MigrationPlan) (snapshot : SourceSnapshot) : Prop where
  initial : Initial plan snapshot
  unregistered : s.snapshots.get snapshot.snapshotRef = none
  taken : ∃ other, s.plans.get plan.planRef = some other ∧ other ≠ plan

theorem sameOrConflict_error [DecidableEq α] (h : sameOrConflict existing incoming identity = .error e) :
    ∃ other, existing = some other ∧ other ≠ incoming := by
  cases existing with
  | none => cases h
  | some other =>
    simp only [sameOrConflict] at h
    split_ifs at h with hne
    exact ⟨other,rfl,hne⟩

theorem register_plans (s : Authority) (snapshot : SourceSnapshot) : (s.register snapshot).plans = s.plans := by
  unfold Authority.register
  split_ifs <;> rfl

theorem register_snapshots {s : Authority} (h : s.Admits snapshot) :
    (s.register snapshot).snapshots.get snapshot.snapshotRef = some snapshot := by
  unfold Authority.register
  split_ifs with hnew
  · exact Dict.get_set_self _ _ _
  · exact h.resolve_left hnew

theorem createPlan_refused {plan : MigrationPlan} {s t : Authority} (h :
    (createPlan plan snapshot).run s = .error e t) :
    t = s ∨ RegistersThenRefuses s plan snapshot ∧ t = s.register snapshot := by
  rcases (reads_refuse _ _).error_bind h with rfl | ⟨_,hinitial,h⟩
  · exact .inl rfl
  rcases (reads_refuse _ _).error_bind h with rfl | ⟨_,href,h⟩
  · exact .inl rfl
  rcases (reads_refuse _ _).error_bind h with rfl | ⟨_,hdigest,h⟩
  · exact .inl rfl
  rcases bind_error.mp h with h | ⟨same,u,hregister,h⟩
  · exact .inl (atomic_registerSnapshot snapshot s e t h)
  simp only [refuse_ok,not_or,not_not,and_true] at hinitial href hdigest
  obtain ⟨-,hadmits,rfl⟩ := registerSnapshot_run hregister
  have htail : t = s.register snapshot ∧ ∃ other, s.plans.get plan.planRef = some other ∧ other ≠ plan := by
    rw [EStateM.run_bind,EStateM.run_get] at h
    rcases bind_error.mp h with h | ⟨existing,u,-,h⟩
    · rw [register_plans] at h
      cases hsame : sameOrConflict (s.plans.get plan.planRef) plan "migration_plan" with
      | ok existing =>
        rw [hsame] at h
        cases h
      | error e' =>
        rw [hsame] at h
        cases h
        exact ⟨rfl,sameOrConflict_error hsame⟩
    · cases existing with
      | some same => cases h
      | none => cases h
  obtain ⟨rfl,htaken⟩ := htail
  rcases hadmits with hnew | hsame
  · exact .inr ⟨⟨⟨hinitial.1,hinitial.2,href,hdigest⟩,hnew,htaken⟩,rfl⟩
  · exact .inl (by simp [Authority.register,hsame])

theorem registerSnapshot_admits {s : Authority} (h : s.Admits snapshot) :
    (registerSnapshot snapshot).run s = .ok snapshot (s.register snapshot) := by
  unfold registerSnapshot Authority.register
  rw [EStateM.run_bind,EStateM.run_get]
  dsimp only
  rcases h with hnew | hsame
  · rw [if_pos hnew,sameOrConflict_none.mpr hnew]
    rfl
  · rw [if_neg (by simp [hsame]),sameOrConflict_some.mpr ⟨hsame,rfl⟩]
    rfl

theorem createPlan_registers {plan : MigrationPlan} {s : Authority} (h : RegistersThenRefuses s plan snapshot) :
    (createPlan plan snapshot).run s = .error ⟨.replay,"migration_plan_replay_drift"⟩ (s.register snapshot) := by
  obtain ⟨other,hother,hne⟩ := h.taken
  have hconflict : sameOrConflict (s.plans.get plan.planRef) plan "migration_plan" =
      .error ⟨.replay,"migration_plan_replay_drift"⟩ := by
    simp [sameOrConflict,hother,hne]
  have hnot : ¬(plan.version.1 ≠ 1 ∨ plan.state ≠ .planned) := by
    rw [not_or,not_not,not_not]
    exact ⟨h.initial.version,h.initial.state⟩
  unfold createPlan
  rw [refuse_bind_of_not hnot,refuse_bind_of_not (not_not_intro h.initial.snapshotRef),
    refuse_bind_of_not (not_not_intro h.initial.snapshotDigest),EStateM.run_bind,
    registerSnapshot_admits (.inl h.unregistered)]
  dsimp only
  rw [EStateM.run_bind,EStateM.run_get]
  dsimp only
  rw [register_plans,hconflict]
  rfl

theorem createPlan_creates {plan : MigrationPlan} {s : Authority}
    (hinitial : Initial plan snapshot) (hadmits : s.Admits snapshot) (hnew : s.plans.get plan.planRef = none) :
    (createPlan plan snapshot).run s =
      .ok plan {s.register snapshot with plans := s.plans.set plan.planRef plan} := by
  have hnot : ¬(plan.version.1 ≠ 1 ∨ plan.state ≠ .planned) := by
    rw [not_or,not_not,not_not]
    exact ⟨hinitial.version,hinitial.state⟩
  unfold createPlan
  rw [refuse_bind_of_not hnot,refuse_bind_of_not (not_not_intro hinitial.snapshotRef),
    refuse_bind_of_not (not_not_intro hinitial.snapshotDigest),EStateM.run_bind,registerSnapshot_admits hadmits]
  dsimp only
  rw [EStateM.run_bind,EStateM.run_get]
  dsimp only
  rw [register_plans,sameOrConflict_none.mpr hnew,← register_plans s snapshot]
  rfl

theorem run_ok {s t : Authority} {answer : Answer} (h : call.run.run s = .ok answer t) :
    t = s ∨ Writes s call answer t := by
  cases call with
  | registerSnapshot snapshot =>
    obtain ⟨same,hop,rfl⟩ := map_ok.mp h
    obtain ⟨rfl,hadmits | hsame,rfl⟩ := registerSnapshot_run hop
    · exact .inr (.registerSnapshot hadmits)
    · exact .inl (by simp [Authority.register,hsame])
  | createPlan plan snapshot =>
    obtain ⟨created,hop,rfl⟩ := map_ok.mp h
    exact .inr (createPlan_run hop)
  | freezeInventory planRef inventory v =>
    obtain ⟨plan,hop,rfl⟩ := map_ok.mp h
    exact freezeInventory_run hop
  | recordBackfill planRef batch v =>
    obtain ⟨plan,hop,rfl⟩ := map_ok.mp h
    exact recordBackfill_run hop
  | reconcileShadow planRef source target sources targets v =>
    obtain ⟨candidate,hop,rfl⟩ := map_ok.mp h
    exact reconcileShadow_run hop
  | cutoverReads planRef cutover gate v =>
    obtain ⟨plan,hop,rfl⟩ := map_ok.mp h
    exact cutoverReads_run hop
  | fenceWrites planRef fence gate v =>
    obtain ⟨plan,hop,rfl⟩ := map_ok.mp h
    exact fenceWrites_run hop
  | checkpointProjection planRef checkpoint gate v =>
    obtain ⟨plan,hop,rfl⟩ := map_ok.mp h
    exact checkpointProjection_run hop
  | retireLegacy planRef retirement gate v =>
    obtain ⟨plan,hop,rfl⟩ := map_ok.mp h
    exact retireLegacy_run hop
  | rollback planRef record v =>
    obtain ⟨plan,hop,rfl⟩ := map_ok.mp h
    rcases rollback_run hop with ⟨hsame,-⟩ | hwrites
    · exact .inl hsame
    · exact .inr hwrites
  | getPlan planRef =>
    obtain ⟨plan,hop,rfl⟩ := map_ok.mp h
    exact .inl ((reads_planAt planRef).1 s plan t hop)
  | getInventory | getBackfill | getReconciliation | getWriteFence | getCheckpoint | getRetirement
  | getRollback =>
    obtain ⟨record,hop,rfl⟩ := map_ok.mp h
    exact .inl ((reads_stored _ _).1 s record t hop)

theorem run_error {s t : Authority} (h : call.run.run s = .error e t) :
    t = s ∨ ∃ plan snapshot, call = .createPlan plan snapshot ∧ RegistersThenRefuses s plan snapshot ∧
      t = s.register snapshot := by
  cases call with
  | createPlan plan snapshot =>
    have hrefused : (createPlan plan snapshot).run s = .error e t := by
      rcases bind_error.mp h with hop | ⟨created,u,-,hop⟩
      · exact hop
      · cases hop
    rcases createPlan_refused hrefused with rfl | ⟨hregisters,rfl⟩
    · exact .inl rfl
    · exact .inr ⟨plan,snapshot,rfl,hregisters,rfl⟩
  | registerSnapshot snapshot => exact .inl ((atomic_registerSnapshot snapshot).map _ s e t h)
  | freezeInventory planRef inventory v =>
    exact .inl ((atomic_freezeInventory planRef inventory v).map _ s e t h)
  | recordBackfill planRef batch v => exact .inl ((atomic_recordBackfill planRef batch v).map _ s e t h)
  | reconcileShadow planRef source target sources targets v =>
    exact .inl ((atomic_reconcileShadow planRef source target sources targets v).map _ s e t h)
  | cutoverReads planRef cutover gate v =>
    exact .inl ((atomic_cutoverReads planRef cutover gate v).map _ s e t h)
  | fenceWrites planRef fence gate v => exact .inl ((atomic_fenceWrites planRef fence gate v).map _ s e t h)
  | checkpointProjection planRef checkpoint gate v =>
    exact .inl ((atomic_checkpointProjection planRef checkpoint gate v).map _ s e t h)
  | retireLegacy planRef retirement gate v =>
    exact .inl ((atomic_retireLegacy planRef retirement gate v).map _ s e t h)
  | rollback planRef record v => exact .inl ((atomic_rollback planRef record v).map _ s e t h)
  | getPlan planRef => exact .inl ((reads_planAt planRef).2.map _ s e t h)
  | getInventory | getBackfill | getReconciliation | getWriteFence | getCheckpoint | getRetirement
  | getRollback => exact .inl ((reads_stored _ _).2.map _ s e t h)

theorem step_cases (s : Authority) (call : Call) : (∃ answer, (step s call).1 = .ok answer ∧
      ((step s call).2 = s ∨ Writes s call answer (step s call).2)) ∨
    ∃ e, (step s call).1 = .error e ∧ ((step s call).2 = s ∨
      ∃ plan snapshot, call = .createPlan plan snapshot ∧ RegistersThenRefuses s plan snapshot ∧
        (step s call).2 = s.register snapshot) := by
  unfold step
  cases h : call.run.run s with
  | ok answer t => exact .inl ⟨answer,rfl,run_ok h⟩
  | error e t => exact .inr ⟨e,rfl,run_error h⟩

theorem step_ok {s t : Authority} (call : Call)
    (hcall : call.run = wrap <$> op) (h : op.run s = .ok a t) : step s call = (.ok (wrap a),t) := by
  unfold step
  rw [hcall,map_ok.mpr ⟨a,h,rfl⟩]

theorem step_error {s t : Authority} (call : Call) (hcall : call.run = wrap <$> op) (h : op.run s = .error e t) :
    step s call = (.error e,t) := by
  unfold step
  rw [hcall,map_eq_pure_bind,EStateM.run_bind,h]

end Arbora.Migrations
