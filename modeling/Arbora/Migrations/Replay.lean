import Arbora.Migrations.StageOrder

/-! Repeating an answered call. -/
namespace Arbora.Migrations
open Guards Machine

section
variable {s : Authority} {planRef : String} {v : ℤ} {plan : MigrationPlan}

variable {gate : PrerequisiteGate} {snapshot : SourceSnapshot}

theorem registerSnapshot_replays (h : s.snapshots.get snapshot.snapshotRef = some snapshot) :
    (registerSnapshot snapshot).run s = .ok snapshot s := by
  rw [registerSnapshot_admits (.inr h),Authority.register,if_neg (by simp [h])]

theorem createPlan_replays (hinitial : Initial plan snapshot)
    (hsnapshot : s.snapshots.get snapshot.snapshotRef = some snapshot)
    (hplan : s.plans.get plan.planRef = some plan) : (createPlan plan snapshot).run s = .ok plan s := by
  simp only [createPlan,refuse_bind_ok,bind_ok (x := registerSnapshot snapshot),get_bind_ok,check_bind_ok,
    not_or,not_not]
  refine ⟨⟨hinitial.version,hinitial.state⟩,hinitial.snapshotRef,hinitial.snapshotDigest,snapshot,s,
    registerSnapshot_replays hsnapshot,some plan,sameOrConflict_some.mpr ⟨hplan,rfl⟩,rfl⟩

theorem freezeInventory_replays {inventory : MigrationInventory} (hplan : s.plans.get planRef = some plan)
    (hsnapshot : s.snapshots.get plan.sourceSnapshotRef = some snapshot)
    (hdigest : snapshot.snapshotDigest.1 = plan.sourceSnapshotDigest)
    (hbound : inventoryMatchesSnapshotBinding inventory plan snapshot (snapshot.files.map (·.sourceFileRef)) = true)
    (hstored : s.inventories.get inventory.inventoryRef = some inventory)
    (href : plan.inventoryRef = some inventory.inventoryRef) :
    (freezeInventory planRef inventory v).run s = .ok plan s := by
  simp only [freezeInventory,planAt_bind_ok,snapshotAt_bind_ok,refuse_bind_ok,get_bind_ok,check_bind_ok,
    Bool.not_eq_false]
  refine ⟨plan,hplan,snapshot,hsnapshot,hdigest,hbound,some inventory,sameOrConflict_some.mpr ⟨hstored,rfl⟩,?_⟩
  exact refuse_bind_ok.mpr ⟨not_not_intro href,rfl⟩

theorem recordBackfill_replays {batch : BackfillBatch} {inventory : MigrationInventory} (hplan :
    s.plans.get planRef = some plan) (hsnapshot : s.snapshots.get plan.sourceSnapshotRef = some snapshot)
    (hdigest : snapshot.snapshotDigest.1 = plan.sourceSnapshotDigest)
    (hbound : batch.migrationRef = plan.migrationRef ∧ batch.sourceSnapshotDigest = plan.sourceSnapshotDigest)
    (hinventory : inventoryAt s plan.inventoryRef = some inventory)
    (hconflict : backfillObservationConflict batch (inventory.items.map (·.canonicalRef)) snapshot = none)
    (hstored : s.backfills.get batch.batchRef = some batch) :
    (recordBackfill planRef batch v).run s = .ok plan s := by
  simp only [recordBackfill,planAt_bind_ok,snapshotAt_bind_ok,refuse_bind_ok,get_bind_ok,found_bind_ok,
    check_bind_ok,not_or,not_not,conflicting_ok]
  exact ⟨plan,hplan,snapshot,hsnapshot,hdigest,hbound,inventory,hinventory,(),hconflict,some batch,
    sameOrConflict_some.mpr ⟨hstored,rfl⟩,rfl⟩

theorem reconcileShadow_replays {source target : String} {sources targets : List CanonicalRecord}
    {candidate : ShadowReconciliation} (hcompared : Compared s planRef source target sources targets plan candidate)
    (hstored : s.reconciliations.get candidate.reconciliationRef = some candidate) :
    (reconcileShadow planRef source target sources targets v).run s = .ok candidate s := by
  refine reconcileShadow_iff.mpr ⟨plan,candidate,hcompared,?_⟩
  simp only [commitShadowReconciliation,get_bind_ok,check_bind_ok]
  exact ⟨some candidate,sameOrConflict_some.mpr ⟨hstored,rfl⟩,rfl⟩

section
variable (hplan : s.plans.get planRef = some plan)
include hplan

theorem cutoverReads_replays {cutover : CohortReadCutover} {clean : ShadowReconciliation}
    (hgate : requireGate gate plan.migrationRef plan.sourceSnapshotDigest .cohortReadCutover = .ok ())
    (hclean : cleanReconciliation s plan = .ok clean) (hbound : cutover.migrationRef = plan.migrationRef ∧
      cutover.sourceSnapshotDigest = plan.sourceSnapshotDigest ∧ cutover.gateRef = gate.gateRef)
    (hstored : s.readCutovers.get cutover.cutoverRef = some cutover) :
    (cutoverReads planRef cutover gate v).run s = .ok plan s := by
  simp only [cutoverReads,planAt_bind_ok,refuse_bind_ok,get_bind_ok,check_bind_ok,not_or,not_not]
  exact ⟨plan,hplan,(),hgate,clean,hclean,hbound,some cutover,sameOrConflict_some.mpr ⟨hstored,rfl⟩,rfl⟩

theorem fenceWrites_replays {fence : WriteCutoverFence} (hgate :
    requireGate gate plan.migrationRef plan.sourceSnapshotDigest .writeCutover = .ok ())
    (hbound : fence.migrationRef = plan.migrationRef ∧ fence.sourceSnapshotDigest = plan.sourceSnapshotDigest ∧
      fence.authorityRef = plan.targetAuthorityRef ∧ fence.gateRef = gate.gateRef ∧
      fence.cohortRefs.toFinset = plan.cohortRefs.toFinset)
    (hstored : s.writeFences.get fence.fenceRef = some fence) :
    (fenceWrites planRef fence gate v).run s = .ok plan s := by
  simp only [fenceWrites,planAt_bind_ok,refuse_bind_ok,get_bind_ok,check_bind_ok,not_or,not_not]
  exact ⟨plan,hplan,(),hgate,hbound,some fence,sameOrConflict_some.mpr ⟨hstored,rfl⟩,rfl⟩

theorem checkpointProjection_replays {checkpoint : ProjectionCheckpoint} (hgate :
    requireGate gate plan.migrationRef plan.sourceSnapshotDigest .projectionCheckpoint = .ok ())
    (hbound : checkpoint.migrationRef = plan.migrationRef ∧
      checkpoint.sourceSnapshotDigest = plan.sourceSnapshotDigest ∧ checkpoint.gateRef = gate.gateRef ∧
      checkpoint.state = .complete) (hstored : s.checkpoints.get checkpoint.checkpointRef = some checkpoint) :
    (checkpointProjection planRef checkpoint gate v).run s = .ok plan s := by
  simp only [checkpointProjection,planAt_bind_ok,refuse_bind_ok,get_bind_ok,check_bind_ok,not_or,not_not]
  exact ⟨plan,hplan,(),hgate,hbound,some checkpoint,sameOrConflict_some.mpr ⟨hstored,rfl⟩,rfl⟩

theorem retireLegacy_replays {retirement : LegacyRetirement} (hgate :
    requireGate gate plan.migrationRef plan.sourceSnapshotDigest .legacyRetirement = .ok ())
    (hproof : retirementProofInvalid retirement plan gate = false)
    (hstored : s.retirements.get retirement.retirementRef = some retirement) :
    (retireLegacy planRef retirement gate v).run s = .ok plan s := by
  simp only [retireLegacy,planAt_bind_ok,refuse_bind_ok,get_bind_ok,check_bind_ok,Bool.not_eq_true]
  exact ⟨plan,hplan,(),hgate,hproof,some retirement,sameOrConflict_some.mpr ⟨hstored,rfl⟩,rfl⟩

theorem rollback_replays {record : MigrationRollback} (hstate : plan.state ≠ .retired)
    (hbound : record.migrationRef = plan.migrationRef ∧ record.sourceSnapshotDigest = plan.sourceSnapshotDigest ∧
      (record.decision = .requested ∨ record.decision = .applied))
    (hstored : s.rollbacks.get record.rollbackRef = some record) :
    (rollback planRef record v).run s = .ok plan s := by
  simp only [rollback,planAt_bind_ok,refuse_bind_ok,get_bind_ok,check_bind_ok,not_or,not_and_or,not_not]
  exact ⟨plan,hplan,hstate,hbound,some record,sameOrConflict_some.mpr ⟨hstored,rfl⟩,rfl⟩

theorem rollback_drifts {record stored : MigrationRollback} (hstate : plan.state ≠ .retired)
    (hbound : record.migrationRef = plan.migrationRef ∧ record.sourceSnapshotDigest = plan.sourceSnapshotDigest ∧
      (record.decision = .requested ∨ record.decision = .applied))
    (hstored : s.rollbacks.get record.rollbackRef = some stored) (hne : stored ≠ record) :
    (rollback planRef record v).run s = .error ⟨.replay,"rollback_replay_drift"⟩ s := by
  have hnot : ¬(record.migrationRef ≠ plan.migrationRef ∨
      record.sourceSnapshotDigest ≠ plan.sourceSnapshotDigest ∨
      (record.decision ≠ .requested ∧ record.decision ≠ .applied)) := by
    simpa only [not_or,not_and_or,not_not] using hbound
  have hdrift : sameOrConflict (s.rollbacks.get record.rollbackRef) record "rollback" =
      .error ⟨.replay,"rollback_replay_drift"⟩ := by
    rw [hstored,sameOrConflict,if_neg hne]
    rfl
  have hfound : (planAt planRef).run s = .ok plan s := by
    simp only [planAt,get_bind_ok,found_ok]
    exact ⟨hplan,trivial⟩
  unfold rollback
  rw [EStateM.run_bind,hfound]
  dsimp only
  rw [refuse_bind_of_not hstate,refuse_bind_of_not hnot,EStateM.run_bind,EStateM.run_get]
  dsimp only
  rw [hdrift]
  rfl

end

end

section
variable {plan updated : MigrationPlan}

theorem SameMigration.inventoryMatches (h : SameMigration plan updated) (inventory : MigrationInventory)
    (snapshot : SourceSnapshot) (files : List OpaqueRef) :
    inventoryMatchesSnapshotBinding inventory updated snapshot files =
      inventoryMatchesSnapshotBinding inventory plan snapshot files := by
  unfold inventoryMatchesSnapshotBinding
  rw [h.migrationRef,h.snapshotRef,h.snapshotDigest]

theorem SameMigration.observationsFor (h : SameMigration plan updated) (s : Authority) :
    observationsFor s updated = observationsFor s plan := by
  unfold Migrations.observationsFor
  rw [h.migrationRef,h.snapshotDigest]

theorem SameMigration.cleanReconciliation (h : SameMigration plan updated) (s : Authority) :
    cleanReconciliation s updated = cleanReconciliation s plan := by
  unfold Migrations.cleanReconciliation
  rw [h.migrationRef,h.snapshotDigest]

theorem coverage_congr {s t : Authority} (hobservations : observationsFor t updated = observationsFor s plan)
    (hinventory : loadShadowInventory t updated = loadShadowInventory s plan) (sources : List CanonicalRecord)
    (snapshot : SourceSnapshot) : validateShadowBackfillCoverage t updated sources snapshot =
      validateShadowBackfillCoverage s plan sources snapshot := by
  unfold validateShadowBackfillCoverage loadShadowObservations
  rw [hobservations,hinventory]

theorem SameMigration.candidate (h : SameMigration plan updated) (source target : String)
    (deltas : List ShadowDelta) (state : ReconciliationState) :
    buildShadowReconciliationCandidate updated source target deltas state =
      buildShadowReconciliationCandidate plan source target deltas state := by
  unfold buildShadowReconciliationCandidate
  rw [h.migrationRef]

end

def Call.RequestsRollback : Call → Prop
  | .rollback _ record _ => record.decision = .requested
  | _ => False

variable {call : Call} {t : Authority} {answer : Answer}

theorem Writes.repeats {s : Authority} (hkeyed : s.Keyed)
    (h : Writes s call answer t) (hnot : ¬call.RequestsRollback) : step t call = (.ok answer,t) := by
  cases h with
  | registerSnapshot hnew =>
    exact step_ok _ rfl (registerSnapshot_replays (register_snapshots (.inl hnew)))
  | replayPlan hinitial hadmits hsame =>
    exact step_ok _ rfl (createPlan_replays hinitial (register_snapshots hadmits) (by rwa [register_plans]))
  | createPlan hinitial hadmits hnew =>
    exact step_ok _ rfl
      (createPlan_replays hinitial (register_snapshots hadmits) (Dict.get_set_self _ _ _))
  | @freezeInventory planRef inventory v plan updated snapshot hplan hsnapshot hdigest hbound _ hstate hnext =>
    have hmoves := hnext.moves (hstate ▸ .freeze) fun _ => ⟨rfl,rfl,rfl,rfl⟩
    obtain ⟨version,-,hdata⟩ := hnext.data
    cases hkeyed planRef plan hplan
    have hsnapshot' : s.snapshots.get updated.sourceSnapshotRef = some snapshot := by
      rw [hmoves.snapshotRef]
      exact hsnapshot
    have hdigest' : snapshot.snapshotDigest.1 = updated.sourceSnapshotDigest := by
      rw [hmoves.snapshotDigest]
      exact hdigest
    have href : updated.inventoryRef = some inventory.inventoryRef := by
      rw [hdata]
      rfl
    rw [← hmoves.inventoryMatches] at hbound
    exact step_ok _ rfl (freezeInventory_replays (Dict.get_set_self _ _ _) hsnapshot' hdigest' hbound
      (Dict.get_set_self _ _ _) href)
  | @recordBackfill planRef batch v plan updated snapshot inventory hplan hsnapshot hdigest hbound hinventory
      hconflict _ hstate hnext =>
    have hmoves : Moves plan updated := by
      refine hnext.moves ?_ fun _ => ⟨rfl,rfl,rfl,rfl⟩
      rcases hstate with hstate | hstate
      · exact hstate ▸ .observe
      · exact hstate ▸ .observeMore
    obtain ⟨version,-,hdata⟩ := hnext.data
    cases hkeyed planRef plan hplan
    have hsnapshot' : s.snapshots.get updated.sourceSnapshotRef = some snapshot := by
      rw [hmoves.snapshotRef]
      exact hsnapshot
    have hdigest' : snapshot.snapshotDigest.1 = updated.sourceSnapshotDigest := by
      rw [hmoves.snapshotDigest]
      exact hdigest
    have hinventory' : inventoryAt s updated.inventoryRef = some inventory := by
      rw [hdata]
      exact hinventory
    rw [← hmoves.migrationRef,← hmoves.snapshotDigest] at hbound
    exact step_ok _ rfl (recordBackfill_replays (Dict.get_set_self _ _ _) hsnapshot' hdigest' hbound hinventory'
      hconflict (Dict.get_set_self _ _ _))
  | reconcileShadow hcompared hnew hv hkept =>
    obtain ⟨hfound,hstage,hmaps,hcoverage⟩ := hcompared
    exact step_ok _ rfl (reconcileShadow_replays ⟨hfound,hstage,hmaps,hcoverage⟩ (Dict.get_set_self _ _ _))
  | @advanceShadow planRef source target sources targets v plan updated candidate hcompared _ _ hstate hnext =>
    have hmoves := hnext.moves (hstate ▸ .reconcile) fun _ => ⟨rfl,rfl,rfl,rfl⟩
    obtain ⟨version,-,hdata⟩ := hnext.data
    obtain ⟨hfound,-,hmaps,snapshot,flags,hsnapshot,hdigest,hflags,hsame,hcandidate⟩ := hcompared
    cases hkeyed planRef plan hfound
    have hstage : updated.state = .shadowReconciled := by
      rw [hdata]
      rfl
    have hsnapshot' : s.snapshots.get updated.sourceSnapshotRef = some snapshot := by
      rw [hmoves.snapshotRef]
      exact hsnapshot
    have hinventory : loadShadowInventory s updated = loadShadowInventory s plan := by
      unfold loadShadowInventory
      rw [hdata]
      rfl
    rw [← coverage_congr (hmoves.observationsFor s) hinventory] at hflags
    rw [← hmoves.candidate] at hcandidate
    exact step_ok _ rfl (reconcileShadow_replays ⟨Dict.get_set_self _ _ _,.inr hstage,hmaps,
      snapshot,flags,hsnapshot',hdigest,hflags,hsame,hcandidate⟩ (Dict.get_set_self _ _ _))
  | @cutoverReads planRef cutover gate v plan updated clean hplan hgate hclean hbound _ hstate hnext =>
    have hmoves : Moves plan updated := by
      refine hnext.moves ?_ fun _ => ⟨rfl,rfl,rfl,rfl⟩
      rcases hstate with hstate | hstate
      · exact hstate ▸ .cutover
      · exact hstate ▸ .cutoverMore
    cases hkeyed planRef plan hplan
    rw [← hmoves.cleanReconciliation] at hclean
    rw [← hmoves.migrationRef,← hmoves.snapshotDigest] at hgate hbound
    exact step_ok _ rfl (cutoverReads_replays (Dict.get_set_self _ _ _) hgate hclean hbound
      (Dict.get_set_self _ _ _))
  | @fenceWrites planRef fence gate v plan updated hplan hgate hbound _ hstate hnext =>
    have hmoves := hnext.moves (hstate ▸ .fence) fun _ => ⟨rfl,rfl,rfl,rfl⟩
    obtain ⟨version,-,hdata⟩ := hnext.data
    cases hkeyed planRef plan hplan
    have hcohorts : updated.cohortRefs = plan.cohortRefs := by
      rw [hdata]
      rfl
    rw [← hmoves.migrationRef,← hmoves.snapshotDigest] at hgate hbound
    rw [← hmoves.authority,← hcohorts] at hbound
    exact step_ok _ rfl (fenceWrites_replays (Dict.get_set_self _ _ _) hgate hbound (Dict.get_set_self _ _ _))
  | @checkpointProjection planRef checkpoint gate v plan updated hplan hgate hbound _ hstate _ hnext =>
    have hmoves := hnext.moves (hstate ▸ .checkpoint) fun _ => ⟨rfl,rfl,rfl,rfl⟩
    cases hkeyed planRef plan hplan
    rw [← hmoves.migrationRef,← hmoves.snapshotDigest] at hgate hbound
    exact step_ok _ rfl (checkpointProjection_replays (Dict.get_set_self _ _ _) hgate hbound
      (Dict.get_set_self _ _ _))
  | @retireLegacy planRef retirement gate v plan updated hplan hgate hproof _ hstate hnext =>
    have hmoves := hnext.moves (hstate ▸ .retire) fun _ => ⟨rfl,rfl,rfl,rfl⟩
    obtain ⟨version,-,hdata⟩ := hnext.data
    cases hkeyed planRef plan hplan
    have hproof' : retirementProofInvalid retirement updated gate = false := by
      rw [← hproof]
      unfold retirementProofInvalid
      rw [hdata]
      rfl
    rw [← hmoves.migrationRef,← hmoves.snapshotDigest] at hgate
    exact step_ok _ rfl (retireLegacy_replays (Dict.get_set_self _ _ _) hgate hproof' (Dict.get_set_self _ _ _))
  | @rollback planRef record v plan updated fence hplan hstate hbound _ _ hnext =>
    have hmoves := hnext.moves (.rollback hstate) fun _ => ⟨rfl,rfl,rfl,rfl⟩
    obtain ⟨version,-,hdata⟩ := hnext.data
    cases hkeyed planRef plan hplan
    have hrolledBack : updated.state ≠ .retired := by
      rw [hdata]
      nofun
    have happlied : appliedRollback record = record := if_pos hnot
    rw [← hmoves.migrationRef,← hmoves.snapshotDigest] at hbound
    refine step_ok _ rfl (rollback_replays (Dict.get_set_self _ _ _) hrolledBack hbound ?_)
    exact (Dict.get_set_self _ _ _).trans (congrArg some happlied)

theorem appliedRollback_decision {record : MigrationRollback}
    (h : record.decision = .requested ∨ record.decision = .applied) :
    (appliedRollback record).decision = .applied := by
  unfold appliedRollback
  split_ifs with hrequested
  · exact h.resolve_left hrequested
  · rfl

theorem Writes.drifts {s : Authority} (hkeyed : s.Keyed)
    (h : Writes s call answer t) (hrequests : call.RequestsRollback) :
    step t call = (.error ⟨.replay,"rollback_replay_drift"⟩,t) := by
  cases h with
  | @rollback planRef record v plan updated fence hplan hstate hbound _ _ hnext =>
    have hmoves := hnext.moves (.rollback hstate) fun _ => ⟨rfl,rfl,rfl,rfl⟩
    obtain ⟨version,-,hdata⟩ := hnext.data
    cases hkeyed planRef plan hplan
    have hrolledBack : updated.state ≠ .retired := by
      rw [hdata]
      nofun
    have hne : appliedRollback record ≠ record := by
      intro heq
      have hdecision := appliedRollback_decision hbound.2.2
      rw [heq,show record.decision = .requested from hrequests] at hdecision
      cases hdecision
    rw [← hmoves.migrationRef,← hmoves.snapshotDigest] at hbound
    exact step_error _ rfl (rollback_drifts (Dict.get_set_self _ _ _) hrolledBack hbound
      (Dict.get_set_self _ _ _) hne)
  | _ => exact hrequests.elim

theorem register_rollbacks (s : Authority) (snapshot : SourceSnapshot) :
    (s.register snapshot).rollbacks = s.rollbacks := by
  unfold Authority.register
  split_ifs <;> rfl

theorem Writes.rollbacks {s : Authority} (h : Writes s call answer t) :
    t.rollbacks = s.rollbacks ∨ ∃ record : MigrationRollback,
      (record.decision = .requested ∨ record.decision = .applied) ∧
        t.rollbacks = s.rollbacks.set record.rollbackRef (appliedRollback record) := by
  cases h with
  | registerSnapshot | replayPlan | createPlan => exact .inl (register_rollbacks _ _)
  | rollback _ _ hbound _ _ _ => exact .inr ⟨_,hbound.2.2,rfl⟩
  | _ => exact .inl rfl

def Authority.Applied (s : Authority) : Prop :=
  ∀ r record, s.rollbacks.get r = some record → record.decision = .applied

theorem applied_step (s : Authority) (call : Call) (h : s.Applied) : (step s call).2.Applied := by
  rcases step_cases s call with ⟨answer,-,hsame | hwrites⟩ | ⟨e,-,hsame | ⟨plan,snapshot,-,-,hsame⟩⟩
  · rwa [hsame]
  · rcases hwrites.rollbacks with hsame | ⟨record,hdecision,hset⟩
    · unfold Authority.Applied
      rwa [hsame]
    · intro r stored hstored
      rw [hset,Dict.get_set] at hstored
      split_ifs at hstored
      · cases hstored
        exact appliedRollback_decision hdecision
      · exact h r stored hstored
  · rwa [hsame]
  · rw [hsame]
    unfold Authority.Applied
    rwa [register_rollbacks]

theorem applied_of_reachable {s : Authority} (h : Reachable step Authority.empty s) : s.Applied :=
  h.invariant applied_step fun r record hrecord => by simp [Authority.empty] at hrecord

theorem run_of_step_ok {s : Authority} (h : (step s call).1 = .ok answer) :
    call.run.run s = .ok answer (step s call).2 := by
  unfold step at *
  cases hrun : call.run.run s with
  | ok a t =>
    rw [hrun] at h
    cases h
    rfl
  | error e t =>
    rw [hrun] at h
    cases h

theorem requested_writes {s : Authority} (hs : s.Applied) (h : (step s call).1 = .ok answer) (hrequests :
    call.RequestsRollback) : Writes s call answer (step s call).2 := by
  cases call with
  | rollback planRef record v =>
    obtain ⟨plan,hop,rfl⟩ := map_ok.mp (run_of_step_ok h)
    rcases rollback_run hop with ⟨-,hstored⟩ | hwrites
    · have hdecision := hs _ _ hstored
      rw [show record.decision = .requested from hrequests] at hdecision
      cases hdecision
    · exact hwrites
  | _ => exact hrequests.elim

/-- Repeating an answered call answers it alike and changes nothing, unless it requests a rollback. -/
theorem repeated_call_answers_alike {s : Authority} (hs : Reachable step Authority.empty s) {call : Call}
    {answer : Answer} (h : (step s call).1 = .ok answer) :
    step (step s call).2 call = (.ok answer,(step s call).2) ↔ ¬call.RequestsRollback := by
  have hkeyed := keyed_of_reachable hs
  constructor
  · intro hrepeat hrequests
    have hdrift := (requested_writes (applied_of_reachable hs) h hrequests).drifts hkeyed hrequests
    rw [hrepeat] at hdrift
    cases hdrift
  · intro hnot
    rcases step_cases s call with ⟨answer',hanswer,hsame | hwrites⟩ | ⟨e,he,-⟩
    · rw [hsame]
      exact Prod.ext h hsame
    · rw [h] at hanswer
      cases hanswer
      exact hwrites.repeats hkeyed hnot
    · rw [h] at he
      cases he

theorem rollback_unfenced {s : Authority} {planRef : String} {plan : MigrationPlan} (record : MigrationRollback)
    (hplan : s.plans.get planRef = some plan) (hstate : plan.state ≠ .retired)
    (hunfenced : plan.state ≠ .writeFenced ∧ plan.state ≠ .checkpointed)
    (hbound : record.migrationRef = plan.migrationRef ∧ record.sourceSnapshotDigest = plan.sourceSnapshotDigest ∧
      (record.decision = .requested ∨ record.decision = .applied))
    (hnew : s.rollbacks.get record.rollbackRef = none) (hlt : plan.version.1 < maxVersion) :
    ∃ updated, (rollback planRef record plan.version.1).run s = .ok updated
      {s with rollbacks := s.rollbacks.set record.rollbackRef (appliedRollback record)
              plans := s.plans.set plan.planRef updated} := by
  have hvalid : ((id plan.toPlanData).advance ⟨plan.version.1 + 1,by omega⟩ .rolledBack .rollback).Valid :=
    ⟨rfl,plan.valid.cohortsUnique,plan.valid.cohortsBounded⟩
  have hnext := nextPlan_eq rfl hlt hvalid
  have hfence : rolledBackFenceFor s plan record = .ok none := if_pos hunfenced
  simp only [rollback,planAt_bind_ok,refuse_bind_ok,get_bind_ok,check_bind_ok,not_or,not_and_or,not_not]
  refine ⟨⟨_,hvalid⟩,plan,hplan,hstate,hbound,none,sameOrConflict_none.mpr hnew,?_⟩
  simp only [check_bind_ok,storeFence_bind_ok,modify_bind_ok,pure_ok,appliedRollback_ref]
  exact ⟨none,hfence,_,hnext,rfl,rfl⟩

namespace Fixture

def rollback (decision : RollbackDecision) : MigrationRollback where
  version := firstVersion
  digest := digest
  rollbackRef := ref "rollback:one"
  migrationRef := one.migrationRef
  fromStage := .writeCutover
  toStage := .cohortReadCutover
  sourceSnapshotDigest := (snapshot firstSnapshot).snapshotDigest
  reasonRef := ref "reason:verification-failed"
  restoredAuthorityRef := ref "authority:legacy"
  fenceRef := none
  gateRef := ref "gate:rollback"
  decision := decision
  direction := by decide

def planned : Authority :=
  {Authority.empty.register (snapshot firstSnapshot) with
    plans := Authority.empty.plans.set "plan:one" (plan one firstSnapshot)}

theorem planned_reachable : Reachable step Authority.empty planned := by
  refine ⟨[.createPlan (plan one firstSnapshot) (snapshot firstSnapshot)],?_⟩
  rw [after,step_ok _ rfl (createPlan_creates ⟨rfl,rfl,rfl,rfl⟩ (.inl rfl) rfl)]
  rfl

theorem rollback_answered {decision : RollbackDecision} (h : decision = .requested ∨ decision = .applied) :
    ∃ answer, (step planned (.rollback "plan:one" (rollback decision) 1)).1 = .ok answer := by
  have hplan : planned.plans.get "plan:one" = some (plan one firstSnapshot) :=
    Dict.get_set_self _ _ _
  obtain ⟨updated,hrun⟩ := rollback_unfenced (rollback decision) hplan (by decide) (by decide) ⟨rfl,rfl,h⟩ rfl
    (by decide)
  exact ⟨_,congrArg Prod.fst (step_ok (.rollback "plan:one" (rollback decision) 1) rfl hrun)⟩

end Fixture

/-- The same request to roll back is answered once and refused when it is repeated. -/
theorem repeated_rollback_refused : ¬∀ s call answer, Reachable step Authority.empty s →
    (step s call).1 = .ok answer → step (step s call).2 call = (.ok answer,(step s call).2) := by
  intro h
  obtain ⟨answer,hanswer⟩ := Fixture.rollback_answered (.inl rfl)
  have hwrites := requested_writes (applied_of_reachable Fixture.planned_reachable) hanswer rfl
  have hdrift := hwrites.drifts (keyed_of_reachable Fixture.planned_reachable) rfl
  rw [h _ _ _ Fixture.planned_reachable hanswer] at hdrift
  cases hdrift

theorem applied_rollback_repeats : ∃ answer,
    step (step Fixture.planned (.rollback "plan:one" (Fixture.rollback .applied) 1)).2
      (.rollback "plan:one" (Fixture.rollback .applied) 1) =
        (.ok answer,(step Fixture.planned (.rollback "plan:one" (Fixture.rollback .applied) 1)).2) := by
  obtain ⟨answer,hanswer⟩ := Fixture.rollback_answered (.inr rfl)
  exact ⟨answer,(repeated_call_answers_alike Fixture.planned_reachable hanswer).mpr nofun⟩

end Arbora.Migrations
