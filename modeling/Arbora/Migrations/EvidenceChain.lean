import Arbora.Migrations.Replay

/-! The evidence a plan's state stands for is stored, and stays stored. -/
namespace Arbora.Migrations
open Machine

def MigrationState.rank : MigrationState → ℕ
  | .rolledBack => 0
  | .planned => 0
  | .inventoryFrozen => 1
  | .backfillObserving => 2
  | .shadowReconciled => 3
  | .readCutover => 4
  | .writeFenced => 5
  | .checkpointed => 6
  | .retired => 7

def HasInventory (s : Authority) (p : MigrationPlan) : Prop :=
  ∃ r inventory, p.inventoryRef = some r ∧ s.inventories.get r = some inventory ∧
    inventory.migrationRef = p.migrationRef ∧ inventory.sourceSnapshotRef = p.sourceSnapshotRef ∧
    inventory.sourceSnapshotDigest = p.sourceSnapshotDigest

def HasCleanShadow (s : Authority) (p : MigrationPlan) : Prop :=
  ∃ r reconciliation, s.reconciliations.get r = some reconciliation ∧
    reconciliation.migrationRef = p.migrationRef ∧
    reconciliation.sourceSnapshotDigest = p.sourceSnapshotDigest ∧ reconciliation.state = .clean

def ActiveCutover (s : Authority) (migrationRef cohortRef : OpaqueRef) : Prop :=
  ∃ r cutover, s.readCutovers.get r = some cutover ∧ cutover.migrationRef = migrationRef ∧
    cutover.cohortRef = cohortRef ∧ cutover.state = .active

def HasFence (s : Authority) (p : MigrationPlan) (state : CutoverState) : Prop :=
  ∃ r fence, p.writeFenceRef = some r ∧ s.writeFences.get r = some fence ∧ fence.state = state ∧
    fence.authorityRef = p.targetAuthorityRef ∧ fence.cohortRefs.toFinset = p.cohortRefs.toFinset

def HasCheckpoint (s : Authority) (p : MigrationPlan) : Prop :=
  ∃ r checkpoint, p.checkpointRef = some r ∧ s.checkpoints.get r = some checkpoint ∧
    checkpoint.migrationRef = p.migrationRef ∧ checkpoint.sourceSnapshotDigest = p.sourceSnapshotDigest ∧
    checkpoint.state = .complete

/-- The records a plan's state stands for. -/
structure Evidence (s : Authority) (p : MigrationPlan) : Prop where
  inventory : 1 ≤ p.state.rank → HasInventory s p
  shadow : 3 ≤ p.state.rank → HasCleanShadow s p
  cohorts : ∀ cohort ∈ p.cohortRefs, ActiveCutover s p.migrationRef cohort
  fence : 5 ≤ p.state.rank → HasFence s p .active
  checkpoint : 6 ≤ p.state.rank → HasCheckpoint s p

/-- Plans, inventories and the other evidence are only ever added; fences apart. -/
structure Grows (s t : Authority) : Prop where
  snapshots : ∀ r x, s.snapshots.get r = some x → t.snapshots.get r = some x
  inventories : ∀ r x, s.inventories.get r = some x → t.inventories.get r = some x
  reconciliations : ∀ r x, s.reconciliations.get r = some x → t.reconciliations.get r = some x
  readCutovers : ∀ r x, s.readCutovers.get r = some x → t.readCutovers.get r = some x
  checkpoints : ∀ r x, s.checkpoints.get r = some x → t.checkpoints.get r = some x

theorem Grows.refl (s : Authority) : Grows s s :=
  ⟨fun _ _ h => h,fun _ _ h => h,fun _ _ h => h,fun _ _ h => h,fun _ _ h => h⟩

theorem grows_register (s : Authority) (snapshot : SourceSnapshot) : Grows s (s.register snapshot) := by
  unfold Authority.register
  split_ifs with hnew
  · exact {Grows.refl s with snapshots := fun _ _ h => Dict.get_set_new h hnew}
  · exact Grows.refl s

theorem Writes.grows {s t : Authority} {call : Call} {answer : Answer} (h : Writes s call answer t) : Grows s t := by
  cases h with
  | registerSnapshot | replayPlan => exact grows_register s _
  | createPlan =>
    obtain ⟨h1,h2,h3,h4,h5⟩ := grows_register s _
    exact ⟨h1,h2,h3,h4,h5⟩
  | freezeInventory _ _ _ _ hnew =>
    exact {Grows.refl s with inventories := fun _ _ h => Dict.get_set_new h hnew}
  | reconcileShadow _ hnew =>
    exact {Grows.refl s with reconciliations := fun _ _ h => Dict.get_set_new h hnew}
  | advanceShadow _ hnew =>
    exact {Grows.refl s with reconciliations := fun _ _ h => Dict.get_set_new h hnew}
  | cutoverReads _ _ _ _ hnew =>
    exact {Grows.refl s with readCutovers := fun _ _ h => Dict.get_set_new h hnew}
  | checkpointProjection _ _ _ hnew =>
    exact {Grows.refl s with checkpoints := fun _ _ h => Dict.get_set_new h hnew}
  | recordBackfill | fenceWrites | retireLegacy | rollback =>
    exact {Grows.refl s with}

theorem HasInventory.grow {s t : Authority} {p : MigrationPlan} (h : HasInventory s p) (hgrows : Grows s t) :
    HasInventory t p := by
  obtain ⟨r,inventory,href,hstored,hbound⟩ := h
  exact ⟨r,inventory,href,hgrows.inventories r _ hstored,hbound⟩

theorem HasCleanShadow.grow {s t : Authority} {p : MigrationPlan} (h : HasCleanShadow s p) (hgrows : Grows s t) :
    HasCleanShadow t p := by
  obtain ⟨r,reconciliation,hstored,hbound⟩ := h
  exact ⟨r,reconciliation,hgrows.reconciliations r _ hstored,hbound⟩

theorem ActiveCutover.grow {s t : Authority} {migrationRef cohort : OpaqueRef}
    (h : ActiveCutover s migrationRef cohort) (hgrows : Grows s t) : ActiveCutover t migrationRef cohort := by
  obtain ⟨r,cutover,hstored,hbound⟩ := h
  exact ⟨r,cutover,hgrows.readCutovers r _ hstored,hbound⟩

theorem HasCheckpoint.grow {s t : Authority} {p : MigrationPlan} (h : HasCheckpoint s p) (hgrows : Grows s t) :
    HasCheckpoint t p := by
  obtain ⟨r,checkpoint,href,hstored,hbound⟩ := h
  exact ⟨r,checkpoint,href,hgrows.checkpoints r _ hstored,hbound⟩

theorem Evidence.grow {s t : Authority} {p : MigrationPlan} (h : Evidence s p) (hgrows : Grows s t)
    (hfence : 5 ≤ p.state.rank → HasFence s p .active → HasFence t p .active) : Evidence t p where
  inventory hrank := (h.inventory hrank).grow hgrows
  shadow hrank := (h.shadow hrank).grow hgrows
  cohorts cohort hcohort := (h.cohorts cohort hcohort).grow hgrows
  fence hrank := hfence hrank (h.fence hrank)
  checkpoint hrank := (h.checkpoint hrank).grow hgrows

def Genuine (s : Authority) : Call → Prop
  | .createPlan plan snapshot => Initial plan snapshot → s.plans.get plan.planRef = none →
      ∀ cohort ∈ plan.cohortRefs, ActiveCutover s plan.migrationRef cohort
  | .cutoverReads planRef cutover _ v => ∀ plan, s.plans.get planRef = some plan →
      plan.state = .shadowReconciled ∨ plan.state = .readCutover → v = plan.version.1 →
      s.readCutovers.get cutover.cutoverRef = none →
      cutover.state = .active ∨ ActiveCutover s plan.migrationRef cutover.cohortRef
  | .fenceWrites planRef fence _ v => ∀ plan, s.plans.get planRef = some plan → plan.state = .readCutover →
      v = plan.version.1 → s.writeFences.get fence.fenceRef = none → fence.state = .active
  | _ => True

/-- What is stored belongs together. -/
structure Sound (s : Authority) : Prop where
  keyed : s.Keyed
  fences : ∀ r fence, s.writeFences.get r = some fence → fence.fenceRef.1 = r
  evidence : ∀ r p, s.plans.get r = some p → Evidence s p
  owned : ∀ r r' p p', s.plans.get r = some p → s.plans.get r' = some p' → 5 ≤ p.state.rank →
    5 ≤ p'.state.rank → p.writeFenceRef = p'.writeFenceRef → r = r'

theorem Sound.move {s t : Authority} {planRef : String} {plan updated : MigrationPlan} (hs : Sound s)
    (hplan : s.plans.get planRef = some plan) (hmoves : Moves plan updated)
    (hplans : t.plans = s.plans.set plan.planRef updated) (hgrows : Grows s t)
    (hfences : ∀ r fence, t.writeFences.get r = some fence → fence.fenceRef.1 = r)
    (hothers : ∀ r p, r ≠ planRef → s.plans.get r = some p → 5 ≤ p.state.rank →
      HasFence s p .active → HasFence t p .active) (hupdated : Evidence t updated)
    (howned : 5 ≤ updated.state.rank → ∀ r p, r ≠ planRef → s.plans.get r = some p → 5 ≤ p.state.rank →
      p.writeFenceRef ≠ updated.writeFenceRef) : Sound t := by
  have hkey := hs.keyed planRef plan hplan
  have hget : ∀ r p, t.plans.get r = some p → r = planRef ∧ p = updated ∨ r ≠ planRef ∧ s.plans.get r = some p := by
    intro r p hp
    rw [hplans,hkey,Dict.get_set] at hp
    split_ifs at hp with hr
    · cases hp
      exact .inl ⟨hr,rfl⟩
    · exact .inr ⟨hr,hp⟩
  refine ⟨?_,hfences,?_,?_⟩
  · intro r p hp
    rcases hget r p hp with ⟨rfl,rfl⟩ | ⟨-,hold⟩
    · rw [hmoves.planRef,hkey]
    · exact hs.keyed r p hold
  · intro r p hp
    rcases hget r p hp with ⟨rfl,rfl⟩ | ⟨hr,hold⟩
    · exact hupdated
    · exact (hs.evidence r p hold).grow hgrows (hothers r p hr hold)
  · intro r r' p p' hp hp' hrank hrank' href
    rcases hget r p hp with ⟨rfl,rfl⟩ | ⟨hr,hold⟩
    · rcases hget r' p' hp' with ⟨rfl,rfl⟩ | ⟨hr',hold'⟩
      · rfl
      · exact absurd href.symm (howned hrank r' p' hr' hold' hrank')
    · rcases hget r' p' hp' with ⟨rfl,rfl⟩ | ⟨hr',hold'⟩
      · exact absurd href (howned hrank' r p hr hold hrank)
      · exact hs.owned r r' p p' hold hold' hrank hrank' href

theorem inventoryMatches_bound {inventory : MigrationInventory} {plan : MigrationPlan} {snapshot : SourceSnapshot}
    {files : List OpaqueRef} (h : inventoryMatchesSnapshotBinding inventory plan snapshot files = true) :
    inventory.migrationRef = plan.migrationRef ∧ inventory.sourceSnapshotRef = plan.sourceSnapshotRef ∧
      inventory.sourceSnapshotDigest = plan.sourceSnapshotDigest := by
  unfold inventoryMatchesSnapshotBinding at h
  split_ifs at h with hmismatch
  simpa only [not_or,not_not] using hmismatch

theorem mem_withCohort {cohorts : List OpaqueRef} {cohort c : OpaqueRef} :
    c ∈ withCohort cohorts cohort ↔ c = cohort ∨ c ∈ cohorts := by
  unfold withCohort
  rw [List.mem_insertionSort,List.mem_insert_iff]

theorem rolledBackFenceFor_ok {s : Authority} {plan : MigrationPlan} {record : MigrationRollback}
    {fence : Option WriteCutoverFence} (h : rolledBackFenceFor s plan record = .ok fence) :
    plan.state ≠ .writeFenced ∧ plan.state ≠ .checkpointed ∧ fence = none ∨
    (plan.state = .writeFenced ∨ plan.state = .checkpointed) ∧
      ∃ stored version, s.writeFences.get ((plan.writeFenceRef.map Subtype.val).getD "") = some stored ∧
        fence = some (stored.rolledBackAt version) := by
  unfold rolledBackFenceFor at h
  split_ifs at h with hunfenced href
  · cases h
    exact .inl ⟨hunfenced.1,hunfenced.2,rfl⟩
  · cases hstored : s.writeFences.get ((plan.writeFenceRef.map Subtype.val).getD "") with
    | none =>
      rw [hstored] at h
      cases h
    | some stored =>
      rw [hstored] at h
      dsimp only at h
      split_ifs at h
      cases h
      refine .inr ⟨?_,stored,_,rfl,rfl⟩
      simpa only [not_and_or,not_not] using hunfenced

theorem step_grows (s : Authority) (call : Call) : Grows s (step s call).2 := by
  rcases step_cases s call with ⟨answer,-,hsame | hwrites⟩ | ⟨e,-,hsame | ⟨plan,snapshot,-,-,hsame⟩⟩
  · rw [hsame]
    exact Grows.refl s
  · exact hwrites.grows
  · rw [hsame]
    exact Grows.refl s
  · rw [hsame]
    exact grows_register s snapshot

def Authority.Bound (s : Authority) : Prop :=
  ∀ r p, s.plans.get r = some p → ∃ snapshot, s.snapshots.get p.sourceSnapshotRef = some snapshot ∧
    snapshot.snapshotDigest = p.sourceSnapshotDigest

theorem bound_step (s : Authority) (call : Call) (h : s.Bound) : (step s call).2.Bound := by
  have hold : ∀ r p, s.plans.get r = some p → ∃ snapshot,
      (step s call).2.snapshots.get p.sourceSnapshotRef = some snapshot ∧
        snapshot.snapshotDigest = p.sourceSnapshotDigest := by
    intro r p hp
    obtain ⟨snapshot,hsnapshot,hdigest⟩ := h r p hp
    exact ⟨snapshot,(step_grows s call).snapshots _ _ hsnapshot,hdigest⟩
  intro r p hp
  rcases step_plans s call with hsame | ⟨new,snapshot,-,hinitial,-,hregistered,hset⟩ |
    ⟨planRef,old,updated,hfound,hmoves,-,hset⟩
  · rw [hsame] at hp
    exact hold r p hp
  · rw [hset,Dict.get_set] at hp
    split_ifs at hp
    · cases hp
      rw [hinitial.snapshotRef,hinitial.snapshotDigest]
      exact ⟨snapshot,hregistered,rfl⟩
    · exact hold r p hp
  · rw [hset,Dict.get_set] at hp
    split_ifs at hp
    · cases hp
      rw [hmoves.snapshotRef,hmoves.snapshotDigest]
      exact hold planRef old hfound
    · exact hold r p hp

theorem Sound.create {s t : Authority} {plan : MigrationPlan} (hs : Sound s) (hstate : plan.state = .planned)
    (hcohorts : ∀ cohort ∈ plan.cohortRefs, ActiveCutover s plan.migrationRef cohort)
    (hplans : t.plans = s.plans.set plan.planRef plan) (hgrows : Grows s t)
    (hfences : t.writeFences = s.writeFences) : Sound t := by
  have hget : ∀ r p, t.plans.get r = some p → r = plan.planRef.1 ∧ p = plan ∨ s.plans.get r = some p := by
    intro r p hp
    rw [hplans,Dict.get_set] at hp
    split_ifs at hp with hr
    · cases hp
      exact .inl ⟨hr,rfl⟩
    · exact .inr hp
  have hrank : plan.state.rank = 0 := by
    rw [hstate]
    rfl
  refine ⟨?_,?_,?_,?_⟩
  · intro r p hp
    rcases hget r p hp with ⟨rfl,rfl⟩ | hold
    · rfl
    · exact hs.keyed r p hold
  · rw [hfences]
    exact hs.fences
  · intro r p hp
    rcases hget r p hp with ⟨rfl,rfl⟩ | hold
    · exact ⟨fun h => by omega,fun h => by omega,fun cohort h => (hcohorts cohort h).grow hgrows,
        fun h => by omega,fun h => by omega⟩
    · refine (hs.evidence r p hold).grow hgrows fun _ h => ?_
      unfold HasFence
      rwa [hfences]
  · intro r r' p p' hp hp' hr hr' href
    rcases hget r p hp with ⟨rfl,rfl⟩ | hold
    · omega
    · rcases hget r' p' hp' with ⟨rfl,rfl⟩ | hold'
      · omega
      · exact hs.owned r r' p p' hold hold' hr hr' href

theorem register_writeFences (s : Authority) (snapshot : SourceSnapshot) :
    (s.register snapshot).writeFences = s.writeFences := by
  unfold Authority.register
  split_ifs <;> rfl

theorem Sound.register {s : Authority} (hs : Sound s) (snapshot : SourceSnapshot) : Sound (s.register snapshot) := by
  unfold Authority.register
  split_ifs with hnew
  · have hgrows : Grows s {s with snapshots := s.snapshots.set snapshot.snapshotRef snapshot} :=
      {Grows.refl s with snapshots := fun _ _ h => Dict.get_set_new h hnew}
    exact ⟨hs.keyed,hs.fences,fun r p hp => (hs.evidence r p hp).grow hgrows fun _ h => h,hs.owned⟩
  · exact hs

section
variable {s : Authority} {plan updated : MigrationPlan}

theorem HasInventory.moved (h : HasInventory s plan) (hsame : SameMigration plan updated)
    (href : updated.inventoryRef = plan.inventoryRef) : HasInventory s updated := by
  unfold HasInventory
  rw [href,hsame.migrationRef,hsame.snapshotRef,hsame.snapshotDigest]
  exact h

theorem HasCleanShadow.moved (h : HasCleanShadow s plan) (hsame : SameMigration plan updated) :
    HasCleanShadow s updated := by
  unfold HasCleanShadow
  rw [hsame.migrationRef,hsame.snapshotDigest]
  exact h

theorem HasFence.moved {state : CutoverState} (h : HasFence s plan state) (hsame : SameMigration plan updated)
    (href : updated.writeFenceRef = plan.writeFenceRef) (hcohorts : updated.cohortRefs = plan.cohortRefs) :
    HasFence s updated state := by
  unfold HasFence
  rw [href,hcohorts,hsame.authority]
  exact h

theorem HasCheckpoint.moved (h : HasCheckpoint s plan) (hsame : SameMigration plan updated)
    (href : updated.checkpointRef = plan.checkpointRef) : HasCheckpoint s updated := by
  unfold HasCheckpoint
  rw [href,hsame.migrationRef,hsame.snapshotDigest]
  exact h

theorem Evidence.cohorts_moved (h : Evidence s plan) (hsame : SameMigration plan updated)
    (hcohorts : updated.cohortRefs = plan.cohortRefs) :
    ∀ cohort ∈ updated.cohortRefs, ActiveCutover s updated.migrationRef cohort := by
  rw [hcohorts,hsame.migrationRef]
  exact h.cohorts

end

section
variable {s t : Authority} {planRef : String} {v : ℤ} {answer : Answer}

theorem Sound.freezeInventory {inventory : MigrationInventory}
    (hs : Sound s) (h : Writes s (.freezeInventory planRef inventory v) answer t) : Sound t := by
  have hgrows := h.grows
  cases h with
  | @freezeInventory _ _ _ plan updated snapshot hplan hsnapshot hdigest hbound hnew hstate hnext =>
    have hmoves := hnext.moves (hstate ▸ .freeze) fun _ => ⟨rfl,rfl,rfl,rfl⟩
    have hrank : updated.state.rank = 1 := by
      rw [hnext.state_eq]
      rfl
    have hbefore := (hs.evidence planRef plan hplan).grow hgrows fun _ h => h
    refine hs.move hplan hmoves rfl hgrows hs.fences (fun _ _ _ _ _ h => h) ?_ fun h => by omega
    refine ⟨fun _ => ?_,fun h => by omega,hbefore.cohorts_moved hmoves.toSameMigration
      (hnext.field (·.cohortRefs) fun _ _ _ _ => rfl),fun h => by omega,fun h => by omega⟩
    refine ⟨inventory.inventoryRef,inventory,hnext.field (·.inventoryRef) fun _ _ _ _ => rfl,
      Dict.get_set_self _ _ _,?_⟩
    rw [hmoves.migrationRef,hmoves.snapshotRef,hmoves.snapshotDigest]
    exact inventoryMatches_bound hbound

theorem Sound.recordBackfill {batch : BackfillBatch} (hs : Sound s)
    (h : Writes s (.recordBackfill planRef batch v) answer t) : Sound t := by
  have hgrows := h.grows
  cases h with
  | @recordBackfill _ _ _ plan updated snapshot inventory hplan _ _ _ _ _ _ hstate hnext =>
    have hmoves : Moves plan updated := by
      refine hnext.moves ?_ fun _ => ⟨rfl,rfl,rfl,rfl⟩
      rcases hstate with hstate | hstate
      · exact hstate ▸ .observe
      · exact hstate ▸ .observeMore
    have hfrozen : 1 ≤ plan.state.rank := by
      rcases hstate with hstate | hstate <;> rw [hstate] <;> decide
    have hrank : updated.state.rank = 2 := by
      rw [hnext.state_eq]
      rfl
    have hbefore := (hs.evidence planRef plan hplan).grow hgrows fun _ h => h
    refine hs.move hplan hmoves rfl hgrows hs.fences (fun _ _ _ _ _ h => h) ?_ fun h => by omega
    exact ⟨fun _ => (hbefore.inventory hfrozen).moved hmoves.toSameMigration
        (hnext.field (·.inventoryRef) fun _ _ _ _ => rfl),
      fun h => by omega,
      hbefore.cohorts_moved hmoves.toSameMigration (hnext.field (·.cohortRefs) fun _ _ _ _ => rfl),
      fun h => by omega,fun h => by omega⟩

theorem Sound.reconcileShadow {source target : String} {sources targets : List CanonicalRecord} (hs : Sound s)
    (hb : s.Bound) (h : Writes s (.reconcileShadow planRef source target sources targets v) answer t) : Sound t := by
  have hgrows := h.grows
  cases h with
  | reconcileShadow hcompared hnew hv hkept =>
    exact ⟨hs.keyed,hs.fences,fun r p hp => (hs.evidence r p hp).grow hgrows fun _ h => h,hs.owned⟩
  | @advanceShadow _ _ _ _ _ _ plan updated candidate hcompared hnew hclean hstate hnext =>
    have hmoves := hnext.moves (hstate ▸ .reconcile) fun _ => ⟨rfl,rfl,rfl,rfl⟩
    have hplan := hcompared.found
    have hrank : updated.state.rank = 3 := by
      rw [hnext.state_eq]
      rfl
    have hfrozen : 1 ≤ plan.state.rank := by
      rw [hstate]
      decide
    have hbefore := (hs.evidence planRef plan hplan).grow hgrows fun _ h => h
    refine hs.move hplan hmoves rfl hgrows hs.fences (fun _ _ _ _ _ h => h) ?_ fun h => by omega
    refine ⟨fun _ => (hbefore.inventory hfrozen).moved hmoves.toSameMigration
        (hnext.field (·.inventoryRef) fun _ _ _ _ => rfl),
      fun _ => ?_,
      hbefore.cohorts_moved hmoves.toSameMigration (hnext.field (·.cohortRefs) fun _ _ _ _ => rfl),
      fun h => by omega,fun h => by omega⟩
    -- the candidate was built for the digest under which the plan's snapshot is registered
    obtain ⟨snapshot,flags,hsnapshot,hdigest,-⟩ := hcompared.coverage
    obtain ⟨registered,hregistered,hbound⟩ := hb planRef plan hplan
    rw [hsnapshot] at hregistered
    cases hregistered
    refine ⟨candidate.reconciliationRef,candidate,Dict.get_set_self _ _ _,?_,?_,hclean⟩
    · rw [hmoves.migrationRef]
      exact hcompared.built.2.1
    · rw [hmoves.snapshotDigest,← hbound]
      exact Subtype.ext (hcompared.built.2.2.trans hdigest.symm)

variable {gate : PrerequisiteGate} {record : MigrationRollback} {fence : Option WriteCutoverFence}

section
variable (hs : Sound s)
include hs

theorem Sound.cutoverReads {cutover : CohortReadCutover} (hg : Genuine s (.cutoverReads planRef cutover gate v))
    (h : Writes s (.cutoverReads planRef cutover gate v) answer t) : Sound t := by
  have hgrows := h.grows
  cases h with
  | @cutoverReads _ _ _ _ plan updated clean hplan _ hclean hbound hnew hstate hnext =>
    have hmoves : Moves plan updated := by
      refine hnext.moves ?_ fun _ => ⟨rfl,rfl,rfl,rfl⟩
      rcases hstate with hstate | hstate
      · exact hstate ▸ .cutover
      · exact hstate ▸ .cutoverMore
    have hreconciled : 3 ≤ plan.state.rank := by
      rcases hstate with hstate | hstate <;> rw [hstate] <;> decide
    have hrank : updated.state.rank = 4 := by
      rw [hnext.state_eq]
      rfl
    have hbefore := (hs.evidence planRef plan hplan).grow hgrows fun _ h => h
    have hcohorts : updated.cohortRefs = withCohort plan.cohortRefs cutover.cohortRef :=
      hnext.field (·.cohortRefs) fun _ _ _ _ => rfl
    refine hs.move hplan hmoves rfl hgrows hs.fences (fun _ _ _ _ _ h => h) ?_ fun h => by omega
    refine ⟨fun _ => (hbefore.inventory (by omega)).moved hmoves.toSameMigration
        (hnext.field (·.inventoryRef) fun _ _ _ _ => rfl),
      fun _ => (hbefore.shadow hreconciled).moved hmoves.toSameMigration,?_,
      fun h => by omega,fun h => by omega⟩
    intro cohort hcohort
    rw [hcohorts,mem_withCohort] at hcohort
    rw [hmoves.migrationRef]
    rcases hcohort with rfl | hold
    · rcases hg plan hplan hstate hnext.expected hnew with hactive | hactive
      · exact ⟨cutover.cutoverRef,cutover,Dict.get_set_self _ _ _,hbound.1,rfl,hactive⟩
      · exact hactive.grow hgrows
    · exact hbefore.cohorts cohort hold

theorem Sound.fenceWrites {fence : WriteCutoverFence} (hg : Genuine s (.fenceWrites planRef fence gate v))
    (h : Writes s (.fenceWrites planRef fence gate v) answer t) : Sound t := by
  have hgrows := h.grows
  cases h with
  | @fenceWrites _ _ _ _ plan updated hplan _ hbound hnew hstate hnext =>
    have hmoves := hnext.moves (hstate ▸ .fence) fun _ => ⟨rfl,rfl,rfl,rfl⟩
    have hrank : updated.state.rank = 5 := by
      rw [hnext.state_eq]
      rfl
    have hcut : plan.state.rank = 4 := by
      rw [hstate]
      rfl
    have hcohorts : updated.cohortRefs = plan.cohortRefs := hnext.field (·.cohortRefs) fun _ _ _ _ => rfl
    have href : updated.writeFenceRef = some fence.fenceRef := hnext.field (·.writeFenceRef) fun _ _ _ _ => rfl
    have hbefore := (hs.evidence planRef plan hplan).grow hgrows fun h => by omega
    refine hs.move hplan hmoves rfl hgrows ?_ ?_ ?_ ?_
    · intro r stored hstored
      rw [Dict.get_set] at hstored
      split_ifs at hstored with hr
      · cases hstored
        exact hr.symm
      · exact hs.fences r stored hstored
    · intro r p _ _ _ hfence
      obtain ⟨r',stored,hr',hstored,hrest⟩ := hfence
      exact ⟨r',stored,hr',Dict.get_set_new hstored hnew,hrest⟩
    · refine ⟨fun _ => (hbefore.inventory (by omega)).moved hmoves.toSameMigration
          (hnext.field (·.inventoryRef) fun _ _ _ _ => rfl),
        fun _ => (hbefore.shadow (by omega)).moved hmoves.toSameMigration,
        hbefore.cohorts_moved hmoves.toSameMigration hcohorts,fun _ => ?_,fun h => by omega⟩
      refine ⟨fence.fenceRef,fence,href,Dict.get_set_self _ _ _,
        hg plan hplan hstate hnext.expected hnew,?_,?_⟩
      · rw [hmoves.authority]
        exact hbound.2.2.1
      · rw [hcohorts]
        exact hbound.2.2.2.2
    · intro _ r p _ hp hfenced heq
      obtain ⟨r',stored,hr',hstored,-⟩ := (hs.evidence r p hp).fence hfenced
      rw [hr',href] at heq
      cases heq
      rw [hstored] at hnew
      cases hnew

theorem Sound.checkpointProjection {checkpoint : ProjectionCheckpoint} (h : Writes s
    (.checkpointProjection planRef checkpoint gate v) answer t) : Sound t := by
  have hgrows := h.grows
  cases h with
  | @checkpointProjection _ _ _ _ plan updated hplan _ hbound hnew hstate _ hnext =>
    have hmoves := hnext.moves (hstate ▸ .checkpoint) fun _ => ⟨rfl,rfl,rfl,rfl⟩
    have hfenced : plan.state.rank = 5 := by
      rw [hstate]
      rfl
    have hcohorts : updated.cohortRefs = plan.cohortRefs := hnext.field (·.cohortRefs) fun _ _ _ _ => rfl
    have href : updated.writeFenceRef = plan.writeFenceRef := hnext.field (·.writeFenceRef) fun _ _ _ _ => rfl
    have hbefore := (hs.evidence planRef plan hplan).grow hgrows fun _ h => h
    refine hs.move hplan hmoves rfl hgrows hs.fences (fun _ _ _ _ _ h => h) ?_ ?_
    · refine ⟨fun _ => (hbefore.inventory (by omega)).moved hmoves.toSameMigration
          (hnext.field (·.inventoryRef) fun _ _ _ _ => rfl),
        fun _ => (hbefore.shadow (by omega)).moved hmoves.toSameMigration,
        hbefore.cohorts_moved hmoves.toSameMigration hcohorts,
        fun _ => (hbefore.fence (by omega)).moved hmoves.toSameMigration href hcohorts,fun _ => ?_⟩
      refine ⟨checkpoint.checkpointRef,checkpoint,hnext.field (·.checkpointRef) fun _ _ _ _ => rfl,
        Dict.get_set_self _ _ _,?_⟩
      rw [hmoves.migrationRef,hmoves.snapshotDigest]
      exact ⟨hbound.1,hbound.2.1,hbound.2.2.2⟩
    · intro _ r p hr hp hrank heq
      rw [href] at heq
      exact hr (hs.owned r planRef p plan hp hplan hrank (by omega) heq)

theorem Sound.retireLegacy {retirement : LegacyRetirement} (h : Writes s
    (.retireLegacy planRef retirement gate v) answer t) : Sound t := by
  have hgrows := h.grows
  cases h with
  | @retireLegacy _ _ _ _ plan updated hplan _ _ hnew hstate hnext =>
    have hmoves := hnext.moves (hstate ▸ .retire) fun _ => ⟨rfl,rfl,rfl,rfl⟩
    have hcheckpointed : plan.state.rank = 6 := by
      rw [hstate]
      rfl
    have hcohorts : updated.cohortRefs = plan.cohortRefs := hnext.field (·.cohortRefs) fun _ _ _ _ => rfl
    have href : updated.writeFenceRef = plan.writeFenceRef := hnext.field (·.writeFenceRef) fun _ _ _ _ => rfl
    have hbefore := (hs.evidence planRef plan hplan).grow hgrows fun _ h => h
    refine hs.move hplan hmoves rfl hgrows hs.fences (fun _ _ _ _ _ h => h) ?_ ?_
    · exact ⟨fun _ => (hbefore.inventory (by omega)).moved hmoves.toSameMigration
          (hnext.field (·.inventoryRef) fun _ _ _ _ => rfl),
        fun _ => (hbefore.shadow (by omega)).moved hmoves.toSameMigration,
        hbefore.cohorts_moved hmoves.toSameMigration hcohorts,
        fun _ => (hbefore.fence (by omega)).moved hmoves.toSameMigration href hcohorts,
        fun _ => (hbefore.checkpoint (by omega)).moved hmoves.toSameMigration
          (hnext.field (·.checkpointRef) fun _ _ _ _ => rfl)⟩
    · intro _ r p hr hp hrank heq
      rw [href] at heq
      exact hr (hs.owned r planRef p plan hp hplan hrank (by omega) heq)

theorem Sound.fence_for {plan : MigrationPlan} (hplan : s.plans.get planRef = some plan)
    (hstate : plan.state = .writeFenced ∨ plan.state = .checkpointed)
    (hfence : rolledBackFenceFor s plan record = .ok fence) :
    ∃ r stored version, plan.writeFenceRef = some r ∧ s.writeFences.get r = some stored ∧ stored.fenceRef = r ∧
      stored.authorityRef = plan.targetAuthorityRef ∧ stored.cohortRefs.toFinset = plan.cohortRefs.toFinset ∧
      fence = some (stored.rolledBackAt version) := by
  have hrank : 5 ≤ plan.state.rank := by
    rcases hstate with hstate | hstate <;> rw [hstate] <;> decide
  obtain ⟨r,active,href,hactive,-,hauthority,hcohorts⟩ := (hs.evidence planRef plan hplan).fence hrank
  rcases rolledBackFenceFor_ok hfence with ⟨h1,h2,-⟩ | ⟨-,stored,version,hstored,rfl⟩
  · exact absurd hstate (by simp [h1,h2])
  · rw [href] at hstored
    change s.writeFences.get r = some stored at hstored
    rw [hactive] at hstored
    cases hstored
    exact ⟨r,active,version,href,hactive,Subtype.ext (hs.fences r active hactive),hauthority,hcohorts,rfl⟩

theorem fencesAfter_keyed : ∀ r stored, (s.fencesAfter fence).get r = some stored → stored.fenceRef.1 = r := by
  intro r stored hstored
  cases fence with
  | none => exact hs.fences r stored hstored
  | some rolledBack =>
    change (s.writeFences.set _ _).get r = _ at hstored
    rw [Dict.get_set] at hstored
    split_ifs at hstored with hr
    · cases hstored
      exact hr.symm
    · exact hs.fences r stored hstored

theorem Sound.fencesAfter_other {plan p : MigrationPlan} {state : CutoverState} (hplan :
    s.plans.get planRef = some plan) (hfence : rolledBackFenceFor s plan record = .ok fence) (hp : HasFence s p state)
    (hother : 5 ≤ plan.state.rank → p.writeFenceRef ≠ plan.writeFenceRef) :
    HasFence {s with writeFences := s.fencesAfter fence} p state := by
  obtain ⟨fr,stored,href,hstored,hrest⟩ := hp
  rcases rolledBackFenceFor_ok hfence with ⟨-,-,rfl⟩ | ⟨hfenced,-⟩
  · exact ⟨fr,stored,href,hstored,hrest⟩
  · obtain ⟨r',mine,version,href',-,hkey,-,-,rfl⟩ := hs.fence_for hplan hfenced hfence
    have hrank : 5 ≤ plan.state.rank := by
      rcases hfenced with hfenced | hfenced <;> rw [hfenced] <;> decide
    have hne : fr.1 ≠ mine.fenceRef.1 := by
      intro heq
      refine hother hrank ?_
      rw [href,href',← hkey]
      exact congrArg some (Subtype.ext heq)
    refine ⟨fr,stored,href,?_,hrest⟩
    exact (Dict.get_set_ne _ _ hne).trans hstored

theorem Sound.rollback (h : Writes s (.rollback planRef record v) answer t) : Sound t := by
  have hgrows := h.grows
  cases h with
  | @rollback _ _ _ plan updated fence hplan hstate _ _ hfence hnext =>
    have hmoves := hnext.moves (.rollback hstate) fun _ => ⟨rfl,rfl,rfl,rfl⟩
    have hrank : updated.state.rank = 0 := by
      rw [hnext.state_eq]
      rfl
    have hcohorts : updated.cohortRefs = plan.cohortRefs := hnext.field (·.cohortRefs) fun _ _ _ _ => rfl
    refine hs.move hplan hmoves rfl hgrows (fencesAfter_keyed hs) ?_ ?_ fun h => by omega
    · intro r p hr hp hfenced hactive
      refine hs.fencesAfter_other hplan hfence hactive fun hrank' heq => ?_
      exact hr (hs.owned r planRef p plan hp hplan hfenced hrank' heq)
    · refine ⟨fun h => by omega,fun h => by omega,?_,fun h => by omega,fun h => by omega⟩
      rw [hcohorts,hmoves.migrationRef]
      exact fun cohort hcohort => ((hs.evidence planRef plan hplan).cohorts cohort hcohort).grow hgrows

theorem Writes.sound {call : Call} (hb : s.Bound) (hg : Genuine s call) (h : Writes s call answer t) : Sound t := by
  have hgrows := h.grows
  cases call with
  | registerSnapshot snapshot =>
    cases h with
    | registerSnapshot hnew => exact hs.register snapshot
  | createPlan plan snapshot =>
    cases h with
    | replayPlan => exact hs.register snapshot
    | createPlan hinitial hadmits hnew =>
      exact hs.create hinitial.state (hg hinitial hnew) rfl hgrows (register_writeFences s snapshot)
  | freezeInventory planRef inventory v => exact hs.freezeInventory h
  | recordBackfill planRef batch v => exact hs.recordBackfill h
  | reconcileShadow planRef source target sources targets v => exact hs.reconcileShadow hb h
  | cutoverReads planRef cutover gate v => exact hs.cutoverReads hg h
  | fenceWrites planRef fence gate v => exact hs.fenceWrites hg h
  | checkpointProjection planRef checkpoint gate v => exact hs.checkpointProjection h
  | retireLegacy planRef retirement gate v => exact hs.retireLegacy h
  | rollback planRef record v => exact hs.rollback h
  | getPlan | getInventory | getBackfill | getReconciliation | getWriteFence | getCheckpoint | getRetirement
  | getRollback => cases h

end

theorem sound_step (s : Authority) (call : Call) (h : Sound s ∧ s.Bound) (hg : Genuine s call) :
    Sound (step s call).2 ∧ (step s call).2.Bound := by
  refine ⟨?_,bound_step s call h.2⟩
  rcases step_cases s call with ⟨answer,-,hsame | hwrites⟩ | ⟨e,-,hsame | ⟨plan,snapshot,-,-,hsame⟩⟩
  · rw [hsame]
    exact h.1
  · exact hwrites.sound h.1 h.2 hg
  · rw [hsame]
    exact h.1
  · rw [hsame]
    exact h.1.register snapshot

theorem sound_empty : Sound Authority.empty ∧ Authority.empty.Bound := by
  refine ⟨⟨?_,?_,?_,?_⟩,?_⟩
  · intro r p hp
    simp [Authority.empty] at hp
  · intro r fence hfence
    simp [Authority.empty] at hfence
  · intro r p hp
    simp [Authority.empty] at hp
  · intro r r' p p' hp
    simp [Authority.empty] at hp
  · intro r p hp
    simp [Authority.empty] at hp

end

section
variable {s t : Authority} {r planRef : String} {p plan updated : MigrationPlan}

theorem other_kept (hs : Sound s) (hplan : s.plans.get planRef = some plan) (hp : s.plans.get r = some p)
    (hdiff : p.state ≠ plan.state) : (s.plans.set plan.planRef updated).get r = some p := by
  have hne : r ≠ plan.planRef.1 := by
    rw [hs.keyed planRef plan hplan]
    rintro rfl
    rw [hplan] at hp
    cases hp
    exact hdiff rfl
  rw [Dict.get_set_ne _ _ hne,hp]

def FenceRolledBack (s : Authority) (r : String) : Prop :=
  ∃ p, s.plans.get r = some p ∧ p.state = .rolledBack ∧ HasFence s p .rolledBack

theorem HasFence.rolled_back_fence {fence : WriteCutoverFence} {fr : OpaqueRef} (h : HasFence s p .rolledBack)
    (href : p.writeFenceRef = some fr) (hfence : s.writeFences.get fr = some fence) : fence.state = .rolledBack := by
  obtain ⟨fr',stored,href',hstored,hstate,-⟩ := h
  rw [href] at href'
  cases href'
  rw [hfence] at hstored
  cases hstored
  exact hstate

theorem Sound.fence_other (hs : Sound s) (hplan : s.plans.get planRef = some plan) (h : HasFence s p .rolledBack)
    (hrank : 5 ≤ plan.state.rank) : p.writeFenceRef ≠ plan.writeFenceRef := by
  intro heq
  obtain ⟨fr,active,href,hactive,hstate,-⟩ := (hs.evidence planRef plan hplan).fence hrank
  have hrolled := h.rolled_back_fence (heq.trans href) hactive
  rw [hstate] at hrolled
  cases hrolled

theorem Writes.fenceRolledBack {call : Call} {answer : Answer} (hs : Sound s) (h : Writes s call answer t)
    (hr : FenceRolledBack s r) : FenceRolledBack t r := by
  obtain ⟨p,hp,hrolled,hfence⟩ := hr
  cases h with
  | registerSnapshot | replayPlan =>
    refine ⟨p,by rwa [register_plans],hrolled,?_⟩
    unfold HasFence
    rwa [register_writeFences]
  | createPlan hinitial hadmits hnew =>
    refine ⟨p,Dict.get_set_new hp hnew,hrolled,?_⟩
    unfold HasFence
    rwa [register_writeFences]
  | freezeInventory hplan _ _ _ _ hstate _ =>
    exact ⟨p,other_kept hs hplan hp (by rw [hrolled,hstate]; nofun),hrolled,hfence⟩
  | recordBackfill hplan _ _ _ _ _ _ hstate _ =>
    refine ⟨p,other_kept hs hplan hp ?_,hrolled,hfence⟩
    rcases hstate with hstate | hstate <;> rw [hrolled,hstate] <;> nofun
  | reconcileShadow => exact ⟨p,hp,hrolled,hfence⟩
  | advanceShadow hcompared _ _ hstate _ =>
    exact ⟨p,other_kept hs hcompared.found hp (by rw [hrolled,hstate]; nofun),hrolled,hfence⟩
  | cutoverReads hplan _ _ _ _ hstate _ =>
    refine ⟨p,other_kept hs hplan hp ?_,hrolled,hfence⟩
    rcases hstate with hstate | hstate <;> rw [hrolled,hstate] <;> nofun
  | fenceWrites hplan _ _ hnew hstate _ =>
    refine ⟨p,other_kept hs hplan hp (by rw [hrolled,hstate]; nofun),hrolled,?_⟩
    obtain ⟨fr,stored,href,hstored,hrest⟩ := hfence
    exact ⟨fr,stored,href,Dict.get_set_new hstored hnew,hrest⟩
  | checkpointProjection hplan _ _ _ hstate _ _ =>
    exact ⟨p,other_kept hs hplan hp (by rw [hrolled,hstate]; nofun),hrolled,hfence⟩
  | retireLegacy hplan _ _ _ hstate _ =>
    exact ⟨p,other_kept hs hplan hp (by rw [hrolled,hstate]; nofun),hrolled,hfence⟩
  | @rollback planRef record v plan updated fence hplan hstate _ _ hrolledFence hnext =>
    have hkept := hs.fencesAfter_other hplan hrolledFence hfence (hs.fence_other hplan hfence)
    have hkey := hs.keyed planRef plan hplan
    by_cases hsame : r = planRef
    · subst hsame
      rw [hplan] at hp
      cases hp
      have hmoves := hnext.moves (.rollback hstate) fun _ => ⟨rfl,rfl,rfl,rfl⟩
      refine ⟨updated,?_,hnext.state_eq,hkept.moved hmoves.toSameMigration
        (hnext.field (·.writeFenceRef) fun _ _ _ _ => rfl) (hnext.field (·.cohortRefs) fun _ _ _ _ => rfl)⟩
      rw [hkey]
      exact Dict.get_set_self _ _ _
    · refine ⟨p,?_,hrolled,hkept⟩
      rw [hkey]
      exact (Dict.get_set_ne _ _ hsame).trans hp

theorem Writes.rollsFenceBack {call : Call} {answer : Answer} {p' : MigrationPlan} (hs : Sound s)
    (h : Writes s call answer t) (hp : s.plans.get r = some p)
    (hfenced : p.state = .writeFenced ∨ p.state = .checkpointed) (hp' : t.plans.get r = some p')
    (hrolled : p'.state = .rolledBack) : FenceRolledBack t r := by
  have hnot : p.state ≠ .rolledBack := by
    rcases hfenced with hfenced | hfenced <;> rw [hfenced] <;> decide
  -- no other transition leads to that state
  have hmoved : ∀ {planRef : String} {plan updated : MigrationPlan} {v : ℤ} {state : MigrationState}
      {updates : PlanData → PlanData}, s.plans.get planRef = some plan → Advanced plan updated v state updates →
      state ≠ .rolledBack → (s.plans.set plan.planRef updated).get r = some p' → False := by
    intro planRef plan updated v state updates hplan hnext hstate hget
    rw [Dict.get_set] at hget
    split_ifs at hget
    · cases hget
      rw [hnext.state_eq] at hrolled
      exact hstate hrolled
    · rw [hp] at hget
      cases hget
      exact hnot hrolled
  cases h with
  | registerSnapshot | replayPlan =>
    rw [register_plans,hp] at hp'
    cases hp'
    exact absurd hrolled hnot
  | createPlan hinitial hadmits hnew =>
    cases (Dict.get_set_new hp hnew).symm.trans hp'
    exact absurd hrolled hnot
  | freezeInventory hplan _ _ _ _ _ hnext => exact (hmoved hplan hnext (by decide) hp').elim
  | recordBackfill hplan _ _ _ _ _ _ _ hnext => exact (hmoved hplan hnext (by decide) hp').elim
  | reconcileShadow =>
    rw [hp] at hp'
    cases hp'
    exact absurd hrolled hnot
  | advanceShadow hcompared _ _ _ hnext => exact (hmoved hcompared.found hnext (by decide) hp').elim
  | cutoverReads hplan _ _ _ _ _ hnext => exact (hmoved hplan hnext (by decide) hp').elim
  | fenceWrites hplan _ _ _ _ hnext => exact (hmoved hplan hnext (by decide) hp').elim
  | checkpointProjection hplan _ _ _ _ _ hnext => exact (hmoved hplan hnext (by decide) hp').elim
  | retireLegacy hplan _ _ _ _ hnext => exact (hmoved hplan hnext (by decide) hp').elim
  | @rollback planRef record v plan updated fence hplan hstate _ _ hrolledFence hnext =>
    have hkey := hs.keyed planRef plan hplan
    rw [hkey,Dict.get_set] at hp'
    split_ifs at hp' with hsame
    · subst hsame
      cases hp'
      rw [hplan] at hp
      cases hp
      have hmoves := hnext.moves (.rollback hstate) fun _ => ⟨rfl,rfl,rfl,rfl⟩
      have href : p'.writeFenceRef = p.writeFenceRef := hnext.field (·.writeFenceRef) fun _ _ _ _ => rfl
      have hcohorts : p'.cohortRefs = p.cohortRefs := hnext.field (·.cohortRefs) fun _ _ _ _ => rfl
      obtain ⟨fr,stored,version,hfr,-,hfenceRef,hauthority,hfenceCohorts,rfl⟩ := hs.fence_for hplan hfenced hrolledFence
      refine ⟨p',?_,hnext.state_eq,fr,stored.rolledBackAt version,href.trans hfr,?_,rfl,?_,?_⟩
      · rw [hkey]
        exact Dict.get_set_self _ _ _
      · rw [← hfenceRef]
        exact Dict.get_set_self _ _ _
      · rw [hmoves.authority]
        exact hauthority
      · rw [hcohorts]
        exact hfenceCohorts
    · rw [hp] at hp'
      cases hp'
      exact absurd hrolled hnot

/-- Some call of the run took the plan from `write_fenced` or `checkpointed` to `rolled_back`. -/
def RolledBackFenced (r : String) : Authority → List Call → Prop
  | _, [] => False
  | s, call :: calls =>
    (∃ p p', s.plans.get r = some p ∧ (p.state = .writeFenced ∨ p.state = .checkpointed) ∧
      (step s call).2.plans.get r = some p' ∧ p'.state = .rolledBack) ∨
    RolledBackFenced r (step s call).2 calls

theorem fenceRolledBack_step (call : Call) (hs : Sound s) (h : FenceRolledBack s r) :
    FenceRolledBack (step s call).2 r := by
  have hregister : ∀ snapshot, FenceRolledBack (s.register snapshot) r := by
    intro snapshot
    obtain ⟨p,hp,hrolled,hfence⟩ := h
    refine ⟨p,by rwa [register_plans],hrolled,?_⟩
    unfold HasFence
    rwa [register_writeFences]
  rcases step_cases s call with ⟨answer,-,hsame | hwrites⟩ | ⟨e,-,hsame | ⟨plan,snapshot,-,-,hsame⟩⟩
  · rwa [hsame]
  · exact hwrites.fenceRolledBack hs h
  · rwa [hsame]
  · rw [hsame]
    exact hregister snapshot

theorem rollsFenceBack_step (call : Call) {p' : MigrationPlan} (hs : Sound s) (hp : s.plans.get r = some p)
    (hfenced : p.state = .writeFenced ∨ p.state = .checkpointed) (hp' : (step s call).2.plans.get r = some p')
    (hrolled : p'.state = .rolledBack) : FenceRolledBack (step s call).2 r := by
  have hsamePlans : (step s call).2.plans ≠ s.plans := by
    intro hsame
    rw [hsame,hp] at hp'
    cases hp'
    rcases hfenced with hfenced | hfenced <;> rw [hfenced] at hrolled <;> cases hrolled
  rcases step_cases s call with ⟨answer,-,hsame | hwrites⟩ | ⟨e,-,hsame | ⟨plan,snapshot,-,-,hsame⟩⟩
  · exact absurd (by rw [hsame]) hsamePlans
  · exact hwrites.rollsFenceBack hs hp hfenced hp' hrolled
  · exact absurd (by rw [hsame]) hsamePlans
  · exact absurd (by rw [hsame,register_plans]) hsamePlans

theorem RolledBackFenced.held {calls : List Call} (hs : Sound s ∧ s.Bound) (hg : Along step Genuine s calls)
    (h : RolledBackFenced r s calls ∨ FenceRolledBack s r) : FenceRolledBack (after step s calls) r := by
  induction calls generalizing s with
  | nil => exact h.resolve_left id
  | cons call calls ih =>
    refine ih (sound_step s call hs hg.1) hg.2 ?_
    rcases h with (⟨p,p',hp,hfenced,hp',hrolled⟩ | hlater) | hbefore
    · exact .inr (rollsFenceBack_step call hs.1 hp hfenced hp' hrolled)
    · exact .inl hlater
    · exact .inr (fenceRolledBack_step call hs.1 hbefore)

end

namespace Fixture

def cohortPlan : MigrationPlan := plan one firstSnapshot [ref "cohort:one"]

end Fixture

end Arbora.Migrations
