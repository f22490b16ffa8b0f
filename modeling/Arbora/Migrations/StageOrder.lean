import Arbora.Migrations.Steps

/-! Plans move one stage and one version at a time, by the call that expected the version it
replaces. -/
namespace Arbora.Migrations
open Machine

/-- The stages a stored plan may go through. -/
inductive StageStep : MigrationState → MigrationState → Prop where
  | freeze : StageStep .planned .inventoryFrozen
  | observe : StageStep .inventoryFrozen .backfillObserving
  | observeMore : StageStep .backfillObserving .backfillObserving
  | reconcile : StageStep .backfillObserving .shadowReconciled
  | cutover : StageStep .shadowReconciled .readCutover
  | cutoverMore : StageStep .readCutover .readCutover
  | fence : StageStep .readCutover .writeFenced
  | checkpoint : StageStep .writeFenced .checkpointed
  | retire : StageStep .checkpointed .retired
  | rollback {state : MigrationState} (h : state ≠ .retired) : StageStep state .rolledBack

theorem StageStep.not_retired {a b : MigrationState} (h : StageStep a b) : a ≠ .retired := by
  cases h with
  | rollback hnot => exact hnot
  | _ => nofun

def Call.expects : Call → Option (String × ℤ)
  | .freezeInventory planRef _ v => some (planRef,v)
  | .recordBackfill planRef _ v => some (planRef,v)
  | .reconcileShadow planRef _ _ _ _ v => some (planRef,v)
  | .cutoverReads planRef _ _ v => some (planRef,v)
  | .fenceWrites planRef _ _ v => some (planRef,v)
  | .checkpointProjection planRef _ _ v => some (planRef,v)
  | .retireLegacy planRef _ _ v => some (planRef,v)
  | .rollback planRef _ v => some (planRef,v)
  | _ => none

/-- The fields of a plan that no transition changes. -/
structure SameMigration (plan updated : MigrationPlan) : Prop where
  planRef : updated.planRef = plan.planRef
  migrationRef : updated.migrationRef = plan.migrationRef
  snapshotRef : updated.sourceSnapshotRef = plan.sourceSnapshotRef
  snapshotDigest : updated.sourceSnapshotDigest = plan.sourceSnapshotDigest
  authority : updated.targetAuthorityRef = plan.targetAuthorityRef

structure Moves (plan updated : MigrationPlan) : Prop extends SameMigration plan updated where
  stage : StageStep plan.state updated.state
  version : updated.version.1 = plan.version.1 + 1

theorem Advanced.moves {plan updated : MigrationPlan} {v : ℤ} {state : MigrationState}
    {updates : PlanData → PlanData} (h : Advanced plan updated v state updates) (hstage : StageStep plan.state state)
    (hkeeps : ∀ data : PlanData, ((updates data).planRef,(updates data).migrationRef) =
      (data.planRef,data.migrationRef) ∧ (updates data).sourceSnapshotRef = data.sourceSnapshotRef ∧
      (updates data).sourceSnapshotDigest = data.sourceSnapshotDigest ∧
      (updates data).targetAuthorityRef = data.targetAuthorityRef) : Moves plan updated := by
  obtain ⟨version,hversion,hdata⟩ := h.data
  obtain ⟨hrefs,hsnapshot,hdigest,hauthority⟩ := hkeeps plan.toPlanData
  obtain ⟨hplan,hmigration⟩ := Prod.mk.inj hrefs
  refine ⟨⟨?_,?_,?_,?_,?_⟩,?_,?_⟩ <;> rw [hdata]
  · exact hplan
  · exact hmigration
  · exact hsnapshot
  · exact hdigest
  · exact hauthority
  · exact hstage
  · exact hversion

variable {call : Call} {s : Authority}

theorem Writes.plans {t : Authority} {answer : Answer} (h : Writes s call answer t) : t.plans = s.plans ∨
    (∃ plan snapshot, call = .createPlan plan snapshot ∧ Initial plan snapshot ∧
      s.plans.get plan.planRef = none ∧ t.snapshots.get snapshot.snapshotRef = some snapshot ∧
      t.plans = s.plans.set plan.planRef plan) ∨
    ∃ planRef plan updated, s.plans.get planRef = some plan ∧ Moves plan updated ∧
      call.expects = some (planRef,(plan.version.1 : ℤ)) ∧ t.plans = s.plans.set plan.planRef updated := by
  cases h with
  | registerSnapshot hnew => exact .inl (register_plans _ _)
  | replayPlan hinitial hadmits hsame => exact .inl (register_plans _ _)
  | createPlan hinitial hadmits hnew => exact .inr (.inl ⟨_,_,rfl,hinitial,hnew,register_snapshots hadmits,rfl⟩)
  | reconcileShadow => exact .inl rfl
  | @freezeInventory planRef inventory v plan updated snapshot hplan _ _ _ _ hstate hnext =>
    refine .inr (.inr ⟨planRef,plan,updated,hplan,hnext.moves ?_ fun _ => ⟨rfl,rfl,rfl,rfl⟩,?_,rfl⟩)
    · exact hstate ▸ .freeze
    · rw [Call.expects,hnext.expected]
  | @recordBackfill planRef batch v plan updated snapshot inventory hplan _ _ _ _ _ _ hstate hnext =>
    refine .inr (.inr ⟨planRef,plan,updated,hplan,hnext.moves ?_ fun _ => ⟨rfl,rfl,rfl,rfl⟩,?_,rfl⟩)
    · rcases hstate with hstate | hstate
      · exact hstate ▸ .observe
      · exact hstate ▸ .observeMore
    · rw [Call.expects,hnext.expected]
  | @advanceShadow planRef source target sources targets v plan updated candidate hcompared _ _ hstate hnext =>
    refine .inr (.inr ⟨planRef,plan,updated,hcompared.found,hnext.moves ?_ fun _ => ⟨rfl,rfl,rfl,rfl⟩,?_,rfl⟩)
    · exact hstate ▸ .reconcile
    · rw [Call.expects,hnext.expected]
  | @cutoverReads planRef cutover gate v plan updated clean hplan _ _ _ _ hstate hnext =>
    refine .inr (.inr ⟨planRef,plan,updated,hplan,hnext.moves ?_ fun _ => ⟨rfl,rfl,rfl,rfl⟩,?_,rfl⟩)
    · rcases hstate with hstate | hstate
      · exact hstate ▸ .cutover
      · exact hstate ▸ .cutoverMore
    · rw [Call.expects,hnext.expected]
  | @fenceWrites planRef fence gate v plan updated hplan _ _ _ hstate hnext =>
    refine .inr (.inr ⟨planRef,plan,updated,hplan,hnext.moves ?_ fun _ => ⟨rfl,rfl,rfl,rfl⟩,?_,rfl⟩)
    · exact hstate ▸ .fence
    · rw [Call.expects,hnext.expected]
  | @checkpointProjection planRef checkpoint gate v plan updated hplan _ _ _ hstate _ hnext =>
    refine .inr (.inr ⟨planRef,plan,updated,hplan,hnext.moves ?_ fun _ => ⟨rfl,rfl,rfl,rfl⟩,?_,rfl⟩)
    · exact hstate ▸ .checkpoint
    · rw [Call.expects,hnext.expected]
  | @retireLegacy planRef retirement gate v plan updated hplan _ _ _ hstate hnext =>
    refine .inr (.inr ⟨planRef,plan,updated,hplan,hnext.moves ?_ fun _ => ⟨rfl,rfl,rfl,rfl⟩,?_,rfl⟩)
    · exact hstate ▸ .retire
    · rw [Call.expects,hnext.expected]
  | @rollback planRef record v plan updated fence hplan hstate _ _ _ hnext =>
    refine .inr (.inr ⟨planRef,plan,updated,hplan,hnext.moves ?_ fun _ => ⟨rfl,rfl,rfl,rfl⟩,?_,rfl⟩)
    · exact .rollback hstate
    · rw [Call.expects,hnext.expected]

theorem step_plans (s : Authority) (call : Call) : (step s call).2.plans = s.plans ∨
    (∃ plan snapshot, call = .createPlan plan snapshot ∧ Initial plan snapshot ∧
      s.plans.get plan.planRef = none ∧ (step s call).2.snapshots.get snapshot.snapshotRef = some snapshot ∧
      (step s call).2.plans = s.plans.set plan.planRef plan) ∨
    ∃ planRef plan updated, s.plans.get planRef = some plan ∧ Moves plan updated ∧
      call.expects = some (planRef,(plan.version.1 : ℤ)) ∧
      (step s call).2.plans = s.plans.set plan.planRef updated := by
  rcases step_cases s call with ⟨answer,-,hsame | hwrites⟩ | ⟨e,-,hsame | ⟨plan,snapshot,-,-,hsame⟩⟩
  · exact .inl (by rw [hsame])
  · exact hwrites.plans
  · exact .inl (by rw [hsame])
  · exact .inl (by rw [hsame,register_plans])

/-- Plans are stored under their own references. -/
def Authority.Keyed (s : Authority) : Prop := ∀ r plan, s.plans.get r = some plan → plan.planRef.1 = r

theorem keyed_step (s : Authority) (call : Call) (h : s.Keyed) : (step s call).2.Keyed := by
  intro r plan hplan
  rcases step_plans s call with hsame | ⟨new,snapshot,-,-,-,-,hset⟩ | ⟨planRef,old,updated,hold,hmoves,-,hset⟩
  · rw [hsame] at hplan
    exact h r plan hplan
  · rw [hset,Dict.get_set] at hplan
    split_ifs at hplan with hr
    · cases hplan
      exact hr.symm
    · exact h r plan hplan
  · rw [hset,Dict.get_set] at hplan
    split_ifs at hplan with hr
    · cases hplan
      rw [hmoves.planRef,hr]
    · exact h r plan hplan

theorem keyed_of_reachable (h : Reachable step Authority.empty s) : s.Keyed :=
  h.invariant keyed_step fun r plan hplan => by simp [Authority.empty] at hplan

/-- One call moves stored plans only along the stages, by compare-and-set on the version, and
leaves everything as it was when it raises. -/
structure Disciplined (s : Authority) (call : Call) : Prop where
  created : ∀ r plan, s.plans.get r = none → (step s call).2.plans.get r = some plan →
    plan.state = .planned ∧ plan.version.1 = 1
  changed : ∀ r plan, s.plans.get r = some plan → ∃ updated, (step s call).2.plans.get r = some updated ∧
    (updated = plan ∨ StageStep plan.state updated.state ∧ updated.version.1 = plan.version.1 + 1 ∧
      call.expects = some (r,(plan.version.1 : ℤ)))
  retired : ∀ r plan, s.plans.get r = some plan → plan.state = .retired →
    (step s call).2.plans.get r = some plan
  refused : ∀ e, (step s call).1 = .error e → (step s call).2 = s

def Unorphaned (s : Authority) (call : Call) : Prop :=
  ∀ plan snapshot, call = .createPlan plan snapshot → ¬RegistersThenRefuses s plan snapshot

theorem plan_created {r : String} {plan : MigrationPlan}
    (hkeyed : s.Keyed) (hnone : s.plans.get r = none) (hsome : (step s call).2.plans.get r = some plan) :
    plan.state = .planned ∧ plan.version.1 = 1 := by
  rcases step_plans s call with hsame | ⟨new,snapshot,-,hinitial,-,-,hset⟩ | ⟨planRef,old,updated,hold,-,-,hset⟩
  · rw [hsame,hnone] at hsome
    cases hsome
  · rw [hset,Dict.get_set] at hsome
    split_ifs at hsome with hr
    · cases hsome
      exact ⟨hinitial.state,hinitial.version⟩
    · rw [hnone] at hsome
      cases hsome
  · rw [hset,hkeyed planRef old hold,Dict.get_set] at hsome
    split_ifs at hsome with hr
    · rw [hr,hold] at hnone
      cases hnone
    · rw [hnone] at hsome
      cases hsome

theorem plan_changed {r : String} {plan : MigrationPlan} (call : Call) (hkeyed : s.Keyed)
    (hplan : s.plans.get r = some plan) : (step s call).2.plans.get r = some plan ∨
    ∃ updated, (step s call).2.plans.get r = some updated ∧ Moves plan updated ∧
      call.expects = some (r,(plan.version.1 : ℤ)) := by
  rcases step_plans s call with hsame | ⟨new,snapshot,-,-,hnew,-,hset⟩ | ⟨planRef,old,updated,hold,hmoves,hexpects,hset⟩
  · exact .inl (by rw [hsame,hplan])
  · refine .inl ?_
    have hne : r ≠ new.planRef.1 := by
      rintro rfl
      rw [hplan] at hnew
      cases hnew
    rw [hset,Dict.get_set_ne _ _ hne,hplan]
  · rw [hset,hkeyed planRef old hold,Dict.get_set]
    split_ifs with hr
    · subst hr
      rw [hplan] at hold
      cases hold
      exact .inr ⟨updated,rfl,hmoves,hexpects⟩
    · exact .inl hplan

theorem register_ne {snapshot : SourceSnapshot}
    (h : s.snapshots.get snapshot.snapshotRef = none) : s.register snapshot ≠ s := by
  intro heq
  have hget : (s.register snapshot).snapshots.get snapshot.snapshotRef = some snapshot := by
    rw [Authority.register,if_pos h,Dict.get_set_self]
  rw [heq,h] at hget
  cases hget

theorem refused_unchanged_iff (s : Authority) (call : Call) :
    (∀ e, (step s call).1 = .error e → (step s call).2 = s) ↔ Unorphaned s call := by
  constructor
  · rintro h plan snapshot rfl hregisters
    have hstep := step_error (.createPlan plan snapshot) rfl (createPlan_registers hregisters)
    refine register_ne hregisters.unregistered ?_
    have hsame := h _ (by rw [hstep])
    rwa [hstep] at hsame
  · intro h e he
    rcases step_cases s call with ⟨answer,hok,-⟩ | ⟨e',-,hsame | ⟨plan,snapshot,hcall,hregisters,-⟩⟩
    · rw [hok] at he
      cases he
    · exact hsame
    · exact absurd hregisters (h plan snapshot hcall)

theorem Disciplined.unorphaned (h : Disciplined s call) : Unorphaned s call :=
  (refused_unchanged_iff s call).mp h.refused

theorem disciplined_iff (hkeyed : s.Keyed) (call : Call) : Disciplined s call ↔ Unorphaned s call := by
  constructor
  · exact Disciplined.unorphaned
  · intro h
    refine ⟨fun r plan => plan_created hkeyed,?_,?_,(refused_unchanged_iff s call).mpr h⟩
    · intro r plan hplan
      rcases plan_changed call hkeyed hplan with hsame | ⟨updated,hupdated,hmoves,hexpects⟩
      · exact ⟨plan,hsame,.inl rfl⟩
      · exact ⟨updated,hupdated,.inr ⟨hmoves.stage,hmoves.version,hexpects⟩⟩
    · intro r plan hplan hretired
      rcases plan_changed call hkeyed hplan with hsame | ⟨updated,-,hmoves,-⟩
      · exact hsame
      · exact absurd hretired hmoves.stage.not_retired

/-- A run keeps the discipline at every call exactly when no call orphans a snapshot. -/
theorem stage_order_kept (calls : List Call) :
    Along step Disciplined Authority.empty calls ↔ Along step Unorphaned Authority.empty calls := by
  suffices h : ∀ s, s.Keyed → (Along step Disciplined s calls ↔ Along step Unorphaned s calls) from
    h _ fun r plan hplan => by simp [Authority.empty] at hplan
  induction calls with
  | nil => intro s _; exact Iff.rfl
  | cons call calls ih =>
    intro s hs
    exact and_congr (disciplined_iff hs call) (ih _ (keyed_step s call hs))

namespace Fixture

def digest : Digest :=
  ⟨String.ofList ("sha256:".toList ++ List.replicate 64 '0'),isDigest_of_hexadecimal (by simp) (by decide)⟩

def sourceFile : SourceFileSnapshot where
  version := firstVersion
  digest := digest
  sourceFileRef := ref "source-file:one"
  relativePath := ref "src/one.json"
  sourceRef := ref "legacy:registry"
  revision := ref "revision:one"
  contentDigest := digest
  metadataDigest := digest
  sizeBytes := ⟨12,by decide⟩

def firstSnapshot : OpaqueRef := ref "snapshot:one"

def snapshot (snapshotRef : OpaqueRef) : SourceSnapshot where
  version := firstVersion
  digest := digest
  snapshotRef := snapshotRef
  sourceRef := sourceFile.sourceRef
  revision := sourceFile.revision
  files := [sourceFile]
  snapshotDigest := snapshotDigestOf sourceFile.sourceRef sourceFile.revision [sourceFile]
  filesBounded := by decide
  filesUnique := List.nodup_singleton _
  filesBound := by
    intro file hfile
    cases List.mem_singleton.mp hfile
    exact ⟨rfl,rfl⟩
  digestMatches := rfl

/-- The references one migration's callers use. -/
structure Names where
  (migrationRef planRef inventoryRef batchRef : OpaqueRef)

def one : Names := ⟨ref "migration:one",ref "plan:one",ref "inventory:one",ref "backfill:one"⟩

def plan (names : Names) (snapshotRef : OpaqueRef) (cohortRefs : List OpaqueRef := [])
    (h : cohortRefs.Nodup ∧ cohortRefs.length ≤ maxCohorts := by decide) : MigrationPlan where
  version := firstVersion
  digest := digest
  migrationRef := names.migrationRef
  planRef := names.planRef
  sourceSnapshotRef := snapshotRef
  sourceSnapshotDigest := (snapshot snapshotRef).snapshotDigest
  targetAuthorityRef := ref "authority:target"
  stage := .inventoryFreeze
  state := .planned
  inventoryRef := none
  reconciliationRef := none
  cohortRefs := cohortRefs
  writeFenceRef := none
  checkpointRef := none
  retirementRef := none
  valid := ⟨rfl,h.1,h.2⟩

end Fixture

/-- A second plan under a taken reference is refused, and its snapshot stays registered. -/
theorem refused_plan_registers_snapshot : ¬Along step Disciplined Authority.empty [
    .createPlan (Fixture.plan Fixture.one Fixture.firstSnapshot) (Fixture.snapshot Fixture.firstSnapshot),
    .createPlan (Fixture.plan Fixture.one (ref "snapshot:two")) (Fixture.snapshot (ref "snapshot:two"))] := by
  intro h
  have hfirst := step_ok (.createPlan (Fixture.plan Fixture.one Fixture.firstSnapshot)
    (Fixture.snapshot Fixture.firstSnapshot)) rfl
    (createPlan_creates (s := Authority.empty) ⟨rfl,rfl,rfl,rfl⟩ (.inl rfl) rfl)
  have hsecond := h.2.1
  rw [hfirst] at hsecond
  have hne : Fixture.plan Fixture.one Fixture.firstSnapshot ≠
      Fixture.plan Fixture.one (ref "snapshot:two") := by
    intro heq
    exact absurd (congrArg (fun p => p.sourceSnapshotRef) heq) (by decide +kernel)
  refine hsecond.unorphaned _ _ rfl ⟨⟨rfl,rfl,rfl,rfl⟩,by decide +kernel,?_⟩
  exact ⟨_,Dict.get_set_self _ _ _,hne⟩

end Arbora.Migrations
