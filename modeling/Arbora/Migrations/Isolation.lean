import Arbora.Migrations.EvidenceChain
import Arbora.Migrations.ShadowCoverage

/-! Two migrations in one authority. -/
namespace Arbora.Migrations
open Guards Machine

structure References where
  migrationRef : OpaqueRef
  planRef : String
  snapshots : Set SourceSnapshot
  (inventories batches cutovers fences checkpoints retirements rollbacks : Set String)

def References.Links (R : References) (plan : MigrationPlan) : Prop :=
  plan.migrationRef = R.migrationRef ∧ (∀ r, plan.inventoryRef = some r → r.1 ∈ R.inventories) ∧
    ∀ r, plan.writeFenceRef = some r → r.1 ∈ R.fences

def Call.Uses (R : References) : Call → Prop
  | .registerSnapshot snapshot => snapshot ∈ R.snapshots
  | .createPlan plan snapshot => plan.planRef.1 = R.planRef ∧ R.Links plan ∧ snapshot ∈ R.snapshots
  | .freezeInventory planRef inventory _ => planRef = R.planRef ∧ inventory.inventoryRef.1 ∈ R.inventories
  | .recordBackfill planRef batch _ => planRef = R.planRef ∧ batch.batchRef.1 ∈ R.batches
  | .reconcileShadow planRef _ _ _ _ _ => planRef = R.planRef
  | .cutoverReads planRef cutover _ _ => planRef = R.planRef ∧ cutover.cutoverRef.1 ∈ R.cutovers
  | .fenceWrites planRef fence _ _ => planRef = R.planRef ∧ fence.fenceRef.1 ∈ R.fences
  | .checkpointProjection planRef checkpoint _ _ =>
    planRef = R.planRef ∧ checkpoint.checkpointRef.1 ∈ R.checkpoints
  | .retireLegacy planRef retirement _ _ => planRef = R.planRef ∧ retirement.retirementRef.1 ∈ R.retirements
  | .rollback planRef record _ => planRef = R.planRef ∧ record.rollbackRef.1 ∈ R.rollbacks
  | .getPlan planRef => planRef = R.planRef
  | .getInventory r => r ∈ R.inventories
  | .getBackfill r => r ∈ R.batches
  | .getReconciliation _ => True
  | .getWriteFence r => r ∈ R.fences
  | .getCheckpoint r => r ∈ R.checkpoints
  | .getRetirement r => r ∈ R.retirements
  | .getRollback r => r ∈ R.rollbacks

/-- Two parties with different migrations and disjoint references; a snapshot may be used by both. -/
structure References.Apart (A B : References) : Prop where
  migration : A.migrationRef ≠ B.migrationRef
  plan : A.planRef ≠ B.planRef
  snapshots : ∀ x ∈ A.snapshots, ∀ y ∈ B.snapshots, x.snapshotRef = y.snapshotRef → x = y
  inventories : ∀ r ∈ A.inventories, r ∉ B.inventories
  batches : ∀ r ∈ A.batches, r ∉ B.batches
  cutovers : ∀ r ∈ A.cutovers, r ∉ B.cutovers
  fences : ∀ r ∈ A.fences, r ∉ B.fences
  checkpoints : ∀ r ∈ A.checkpoints, r ∉ B.checkpoints
  retirements : ∀ r ∈ A.retirements, r ∉ B.retirements
  rollbacks : ∀ r ∈ A.rollbacks, r ∉ B.rollbacks

def References.Owns (R : References) (s : Authority) : Prop :=
  ∀ plan, s.plans.get R.planRef = some plan → R.Links plan

def Call.reconciliation : Call → Option String
  | .reconcileShadow _ source target _ _ _ => some (reconciliationRefOf source target)
  | .getReconciliation r => some r
  | _ => none

/-- The call passes every check of `reconcile_shadow` and its reconciliation is not stored yet. -/
def Call.StoresReconciliation (s : Authority) (r : String) : Call → Prop
  | .reconcileShadow planRef source target sources targets v =>
    reconciliationRefOf source target = r ∧ s.reconciliations.get r = none ∧
      ∃ plan candidate, Compared s planRef source target sources targets plan candidate ∧ v = plan.version.1
  | _ => False

section
variable {s t : Authority} {R : References}

variable {call : Call}

theorem Call.Uses.expects (h : call.Uses R) {planRef : String} {v : ℤ}
    (hexpects : call.expects = some (planRef,v)) : planRef = R.planRef := by
  cases call with
  | reconcileShadow =>
    cases hexpects
    exact h
  | freezeInventory | recordBackfill | cutoverReads | fenceWrites | checkpointProjection | retireLegacy
  | rollback =>
    cases hexpects
    exact h.1
  | _ => cases hexpects

theorem Call.Uses.others (h : call.Uses R) (hkeyed : s.Keyed) {r : String} (hr : r ≠ R.planRef) :
    (step s call).2.plans.get r = s.plans.get r := by
  rcases step_plans s call with hsame | ⟨plan,snapshot,rfl,-,-,-,hset⟩ | ⟨planRef,plan,updated,hplan,-,hexpects,hset⟩
  · rw [hsame]
  · rw [hset]
    exact Dict.get_set_ne _ _ (h.1 ▸ hr)
  · rw [hset]
    refine Dict.get_set_ne _ _ ?_
    rw [hkeyed planRef plan hplan,h.expects hexpects]
    exact hr

theorem Advanced.links {plan updated : MigrationPlan} {v : ℤ} {state : MigrationState}
    {updates : PlanData → PlanData} (h : Advanced plan updated v state updates) (hlinks : R.Links plan)
    (hmigration : (updates plan.toPlanData).migrationRef = plan.migrationRef)
    (hinventory : ∀ r, (updates plan.toPlanData).inventoryRef = some r → r.1 ∈ R.inventories)
    (hfence : ∀ r, (updates plan.toPlanData).writeFenceRef = some r → r.1 ∈ R.fences) : R.Links updated := by
  obtain ⟨version,-,hdata⟩ := h.data
  unfold References.Links
  rw [hdata]
  exact ⟨hmigration.trans hlinks.1,hinventory,hfence⟩

theorem Writes.links {answer : Answer} (h : Writes s call answer t) (huses : call.Uses R)
    (hkeyed : s.Keyed) (hs : R.Owns s) : R.Owns t := by
  have hset : ∀ {plan updated : MigrationPlan}, s.plans.get R.planRef = some plan → R.Links updated →
      ∀ p, (s.plans.set plan.planRef updated).get R.planRef = some p → R.Links p := by
    intro plan updated hplan hupdated p hp
    rw [hkeyed _ plan hplan,Dict.get_set_self] at hp
    cases hp
    exact hupdated
  cases h with
  | registerSnapshot | replayPlan =>
    intro p hp
    rw [register_plans] at hp
    exact hs p hp
  | createPlan =>
    intro p hp
    rw [← huses.1] at hp
    cases (Dict.get_set_self _ _ _).symm.trans hp
    exact huses.2.1
  | freezeInventory hplan _ _ _ _ _ hnext =>
    obtain ⟨rfl,hmem⟩ := huses
    have hlinks := hs _ hplan
    refine hset hplan (hnext.links hlinks rfl ?_ hlinks.2.2)
    intro r hr
    cases hr
    exact hmem
  | fenceWrites hplan _ _ _ _ hnext =>
    obtain ⟨rfl,hmem⟩ := huses
    have hlinks := hs _ hplan
    refine hset hplan (hnext.links hlinks rfl hlinks.2.1 ?_)
    intro r hr
    cases hr
    exact hmem
  | reconcileShadow => exact hs
  | advanceShadow hcompared _ _ _ hnext =>
    cases huses
    have hlinks := hs _ hcompared.found
    exact hset hcompared.found (hnext.links hlinks rfl hlinks.2.1 hlinks.2.2)
  | recordBackfill hplan _ _ _ _ _ _ _ hnext =>
    obtain ⟨rfl,-⟩ := huses
    have hlinks := hs _ hplan
    exact hset hplan (hnext.links hlinks rfl hlinks.2.1 hlinks.2.2)
  | cutoverReads hplan _ _ _ _ _ hnext =>
    obtain ⟨rfl,-⟩ := huses
    have hlinks := hs _ hplan
    exact hset hplan (hnext.links hlinks rfl hlinks.2.1 hlinks.2.2)
  | checkpointProjection hplan _ _ _ _ _ hnext =>
    obtain ⟨rfl,-⟩ := huses
    have hlinks := hs _ hplan
    exact hset hplan (hnext.links hlinks rfl hlinks.2.1 hlinks.2.2)
  | retireLegacy hplan _ _ _ _ hnext =>
    obtain ⟨rfl,-⟩ := huses
    have hlinks := hs _ hplan
    exact hset hplan (hnext.links hlinks rfl hlinks.2.1 hlinks.2.2)
  | rollback hplan _ _ _ _ hnext =>
    obtain ⟨rfl,-⟩ := huses
    have hlinks := hs _ hplan
    exact hset hplan (hnext.links hlinks rfl hlinks.2.1 hlinks.2.2)

theorem owns_step (huses : call.Uses R) (hkeyed : s.Keyed) (hs : R.Owns s) : R.Owns (step s call).2 := by
  rcases step_cases s call with ⟨answer,-,hsame | hwrites⟩ | ⟨e,-,hsame | ⟨plan,snapshot,-,-,hsame⟩⟩
  · rwa [hsame]
  · exact hwrites.links huses hkeyed hs
  · rwa [hsame]
  · rw [hsame]
    unfold References.Owns
    rwa [register_plans]

end

def Authority.FencesKeyed (s : Authority) : Prop :=
  ∀ r fence, s.writeFences.get r = some fence → fence.fenceRef.1 = r

theorem Writes.fences {s t : Authority} {call : Call} {answer : Answer} (h : Writes s call answer t) :
    t.writeFences = s.writeFences ∨ ∃ fence : WriteCutoverFence,
      t.writeFences = s.writeFences.set fence.fenceRef fence := by
  cases h with
  | registerSnapshot | replayPlan | createPlan => exact .inl (register_writeFences _ _)
  | fenceWrites => exact .inr ⟨_,rfl⟩
  | @rollback _ _ _ _ _ fence =>
    cases fence with
    | none => exact .inl rfl
    | some fence => exact .inr ⟨fence,rfl⟩
  | _ => exact .inl rfl

theorem fencesKeyed_step (s : Authority) (call : Call) (h : s.FencesKeyed) : (step s call).2.FencesKeyed := by
  unfold Authority.FencesKeyed
  rcases step_cases s call with ⟨answer,-,hsame | hwrites⟩ | ⟨e,-,hsame | ⟨plan,snapshot,-,-,hsame⟩⟩
  · rwa [hsame]
  · rcases hwrites.fences with hsame | ⟨fence,hset⟩
    · rwa [hsame]
    · intro r stored hstored
      rw [hset,Dict.get_set] at hstored
      split_ifs at hstored with hr
      · cases hstored
        exact hr.symm
      · exact h r stored hstored
  · rwa [hsame]
  · rw [hsame,register_writeFences]
    exact h

section

/-- Nothing stands under the reference in the second authority, and the first has the snapshot
the party would bring there. -/
def SnapshotAhead (R : References) (s t : Authority) (r : String) : Prop :=
  t.snapshots.get r = none ∧ ∃ x, s.snapshots.get r = some x ∧ ∀ y ∈ R.snapshots, y.snapshotRef.1 = r → y = x

/-- Two authorities that look the same to a party that reads the reconciliations `derived`. -/
structure Alike (R : References) (derived : Set String) (s t : Authority) : Prop where
  plan : s.plans.get R.planRef = t.plans.get R.planRef
  snapshots : ∀ r, s.snapshots.get r = t.snapshots.get r ∨ SnapshotAhead R s t r
  inventories : Dict.AgreeOn R.inventories s.inventories t.inventories
  batches : Dict.AgreeOn R.batches s.backfills t.backfills
  observed : s.backfills.values.filter (fun batch => batch.migrationRef = R.migrationRef) =
    t.backfills.values.filter fun batch => batch.migrationRef = R.migrationRef
  reconciliations : Dict.AgreeOn derived s.reconciliations t.reconciliations
  reconciled : s.reconciliations.values.filter (fun record => record.migrationRef = R.migrationRef) =
    t.reconciliations.values.filter fun record => record.migrationRef = R.migrationRef
  cutovers : Dict.AgreeOn R.cutovers s.readCutovers t.readCutovers
  fences : Dict.AgreeOn R.fences s.writeFences t.writeFences
  checkpoints : Dict.AgreeOn R.checkpoints s.checkpoints t.checkpoints
  retirements : Dict.AgreeOn R.retirements s.retirements t.retirements
  rollbacks : Dict.AgreeOn R.rollbacks s.rollbacks t.rollbacks

variable {R : References} {derived : Set String} {s t : Authority} {plan : MigrationPlan}

theorem Alike.refl (s : Authority) : Alike R derived s s where
  plan := rfl
  snapshots _ := .inl rfl
  inventories _ _ := rfl
  batches _ _ := rfl
  observed := rfl
  reconciliations _ _ := rfl
  reconciled := rfl
  cutovers _ _ := rfl
  fences _ _ := rfl
  checkpoints _ _ := rfl
  retirements _ _ := rfl
  rollbacks _ _ := rfl

theorem filter_migration {α : Type} {l m : List α} {f : α → OpaqueRef} {migrationRef : OpaqueRef} (p : α → Bool)
    (h : l.filter (fun a => f a = migrationRef) = m.filter fun a => f a = migrationRef)
    (hp : ∀ a, p a = true → f a = migrationRef) : l.filter p = m.filter p := by
  have hinner : ∀ l : List α, l.filter p = (l.filter fun a => f a = migrationRef).filter p := by
    intro l
    rw [List.filter_filter]
    refine List.filter_congr fun a _ => ?_
    cases hpa : p a with
    | true => simp [hp a hpa]
    | false => simp
  rw [hinner l,hinner m,h]

section
variable (h : Alike R derived s t)
include h

theorem Alike.observationsFor (hlinks : R.Links plan) : observationsFor s plan = observationsFor t plan := by
  unfold Migrations.observationsFor
  rw [filter_migration _ h.observed]
  intro batch hbatch
  rw [decide_eq_true_eq] at hbatch
  exact hbatch.1.trans hlinks.1

theorem Alike.cleanReconciliation (hlinks : R.Links plan) :
    cleanReconciliation s plan = cleanReconciliation t plan := by
  unfold Migrations.cleanReconciliation
  rw [filter_migration _ h.reconciled]
  intro record hrecord
  rw [decide_eq_true_eq] at hrecord
  exact hrecord.1.trans hlinks.1

theorem Alike.inventoryAt (hlinks : R.Links plan) :
    inventoryAt s plan.inventoryRef = inventoryAt t plan.inventoryRef := by
  cases href : plan.inventoryRef with
  | none => rfl
  | some r => exact h.inventories r (hlinks.2.1 r href)

theorem Alike.fenceAt (hlinks : R.Links plan) : fenceAt s plan.writeFenceRef = fenceAt t plan.writeFenceRef := by
  cases href : plan.writeFenceRef with
  | none => rfl
  | some r => exact h.fences r (hlinks.2.2 r href)

theorem Alike.snapshotAt {r : String} {x : SourceSnapshot}
    (hx : t.snapshots.get r = some x) : s.snapshots.get r = t.snapshots.get r := by
  rcases h.snapshots r with hsame | ⟨hnone,-⟩
  · exact hsame
  · rw [hx] at hnone
    cases hnone

theorem Alike.setPlan (r : String) (p : MigrationPlan) :
    Alike R derived {s with plans := s.plans.set r p} {t with plans := t.plans.set r p} := by
  refine {h with plan := ?_}
  rw [Dict.get_set,Dict.get_set,h.plan]

theorem Alike.setBatch {batch : BackfillBatch} (hmem : batch.batchRef.1 ∈ R.batches)
    (hnew : t.backfills.get batch.batchRef = none) :
    Alike R derived {s with backfills := s.backfills.set batch.batchRef batch}
      {t with backfills := t.backfills.set batch.batchRef batch} := by
  have hnew' : s.backfills.get batch.batchRef = none := (h.batches _ hmem).trans hnew
  exact {h with batches := h.batches.set _ _, observed := Dict.filter_values_set_both h.observed hnew' hnew}

theorem Alike.setReconciliation {record : ShadowReconciliation} (hmem : record.reconciliationRef.1 ∈ derived)
    (hnew : t.reconciliations.get record.reconciliationRef = none) :
    Alike R derived {s with reconciliations := s.reconciliations.set record.reconciliationRef record}
      {t with reconciliations := t.reconciliations.set record.reconciliationRef record} := by
  have hnew' : s.reconciliations.get record.reconciliationRef = none := (h.reconciliations _ hmem).trans hnew
  exact {h with
    reconciliations := h.reconciliations.set _ _
    reconciled := Dict.filter_values_set_both h.reconciled hnew' hnew}

theorem Alike.setFence (r : String) (fence : WriteCutoverFence) :
    Alike R derived {s with writeFences := s.writeFences.set r fence}
      {t with writeFences := t.writeFences.set r fence} :=
  {h with fences := h.fences.set _ _}

theorem Alike.registerSnapshot {snapshot : SourceSnapshot} (hmem : snapshot ∈ R.snapshots) :
    Agrees (Alike R derived) ((registerSnapshot snapshot).run s) ((registerSnapshot snapshot).run t) := by
  unfold Migrations.registerSnapshot
  rcases h.snapshots snapshot.snapshotRef with hsame | ⟨hnone,x,hx,hown⟩
  · apply agrees_get_bind
    rw [hsame]
    refine agrees_check_bind h rfl fun existing hexisting => ?_
    cases existing with
    | some same => exact .ok h
    | none =>
      refine .ok {h with snapshots := ?_}
      intro r
      by_cases hr : r = snapshot.snapshotRef.1
      · subst hr
        exact .inl (by simp)
      · unfold SnapshotAhead
        simp only [Dict.get_set_ne _ _ hr]
        exact h.snapshots r
  · -- the snapshot is registered on one side already, and it is the same
    cases hown snapshot hmem rfl
    have hadmits : s.Admits snapshot := .inr hx
    have hregistered : s.register snapshot = s := by simp [Authority.register,hx]
    have hleft := registerSnapshot_admits hadmits
    have hright := registerSnapshot_admits (s := t) (.inl hnone)
    unfold Migrations.registerSnapshot at hleft hright
    rw [hleft,hright,hregistered,Authority.register,if_pos hnone]
    refine .ok {h with snapshots := ?_}
    intro r
    by_cases hr : r = snapshot.snapshotRef.1
    · subst hr
      exact .inl (by rw [hx]; simp)
    · unfold SnapshotAhead
      simp only [Dict.get_set_ne _ _ hr]
      exact h.snapshots r

end

end

section

/-- Stored records stand under their own references, and a stored plan's snapshot is registered. -/
structure Kept (s : Authority) : Prop where
  keyed : s.Keyed
  fences : s.FencesKeyed
  inventories : s.InventoriesKeyed
  bound : s.Bound

theorem kept_step (s : Authority) (call : Call) (h : Kept s) : Kept (step s call).2 :=
  ⟨keyed_step s call h.keyed,fencesKeyed_step s call h.fences,inventoriesKeyed_step s call h.inventories,
    bound_step s call h.bound⟩

theorem kept_of_reachable {s : Authority} (h : Reachable step Authority.empty s) : Kept s :=
  ⟨keyed_of_reachable h,h.invariant fencesKeyed_step fun _ _ hget => by simp [Authority.empty] at hget,
    inventoriesKeyed_of_reachable h,h.invariant bound_step fun _ _ hget => by simp [Authority.empty] at hget⟩

theorem opaqueRef_ne_empty (r : OpaqueRef) : r.1 ≠ "" := by
  intro hempty
  have hvalid := r.2
  rw [hempty] at hvalid
  exact absurd hvalid (by decide)

theorem Kept.inventories_empty {s : Authority} (h : Kept s) : s.inventories.get "" = none := by
  cases hget : s.inventories.get "" with
  | none => rfl
  | some inventory => exact absurd (h.inventories "" inventory hget) (opaqueRef_ne_empty _)

theorem Kept.fences_empty {s : Authority} (h : Kept s) : s.writeFences.get "" = none := by
  cases hget : s.writeFences.get "" with
  | none => rfl
  | some fence => exact absurd (h.fences "" fence hget) (opaqueRef_ne_empty _)

variable {R : References} {derived : Set String} {s t : Authority} {plan : MigrationPlan}

theorem Alike.loadShadowInventory (h : Alike R derived s t) (hs : Kept s) (ht : Kept t) (hlinks : R.Links plan) :
    loadShadowInventory s plan = loadShadowInventory t plan := by
  have hsame : s.inventories.get ((plan.inventoryRef.map Subtype.val).getD "") =
      t.inventories.get ((plan.inventoryRef.map Subtype.val).getD "") := by
    cases href : plan.inventoryRef with
    | none => exact hs.inventories_empty.trans ht.inventories_empty.symm
    | some r => exact h.inventories r (hlinks.2.1 r href)
  unfold Migrations.loadShadowInventory
  rw [hsame]

theorem Alike.rolledBackFenceFor (h : Alike R derived s t) (hs : Kept s) (ht : Kept t) (hlinks : R.Links plan)
    (record : MigrationRollback) : rolledBackFenceFor s plan record = rolledBackFenceFor t plan record := by
  have hsame : s.writeFences.get ((plan.writeFenceRef.map Subtype.val).getD "") =
      t.writeFences.get ((plan.writeFenceRef.map Subtype.val).getD "") := by
    cases href : plan.writeFenceRef with
    | none => exact hs.fences_empty.trans ht.fences_empty.symm
    | some r => exact h.fences r (hlinks.2.2 r href)
  unfold Migrations.rolledBackFenceFor
  rw [hsame]

end

section
variable {R : References} {derived : Set String} {s t : Authority} {v : ℤ} {α : Type}

section
variable (h : Alike R derived s t)
include h

theorem Alike.planAt_bind {f : MigrationPlan → Op α} (hf : ∀ plan, t.plans.get R.planRef = some plan →
      Agrees (Alike R derived) ((f plan).run s) ((f plan).run t)) :
    Agrees (Alike R derived) ((planAt R.planRef >>= f).run s) ((planAt R.planRef >>= f).run t) := by
  unfold planAt
  rw [bind_assoc]
  exact agrees_get_bind (agrees_found_bind h h.plan hf)

theorem Alike.snapshotAt_bind {r digest : String} {x : SourceSnapshot}
    (hx : t.snapshots.get r = some x) {f : SourceSnapshot → Op α}
    (hf : ∀ snapshot, Agrees (Alike R derived) ((f snapshot).run s) ((f snapshot).run t)) :
    Agrees (Alike R derived) ((Migrations.snapshotAt r digest >>= f).run s)
      ((Migrations.snapshotAt r digest >>= f).run t) := by
  unfold Migrations.snapshotAt
  simp only [bind_assoc,pure_bind]
  refine agrees_get_bind (agrees_found_bind h (h.snapshotAt hx) fun snapshot _ => ?_)
  exact agrees_refuse_bind h (hf snapshot)

theorem Alike.store {write : Authority → Authority} {plan : MigrationPlan}
    {r : Except MigrationError MigrationPlan} (hwrite : Alike R derived (write s) (write t)) :
    Agrees (Alike R derived)
      ((do
        let updated ← check r
        modify write
        modify fun s => {s with plans := s.plans.set plan.planRef updated}
        return updated : Op MigrationPlan).run s)
      ((do
        let updated ← check r
        modify write
        modify fun s => {s with plans := s.plans.set plan.planRef updated}
        return updated : Op MigrationPlan).run t) :=
  agrees_check_bind h rfl fun updated _ => agrees_modify_bind (agrees_modify_bind (.ok (hwrite.setPlan _ updated)))

theorem Alike.createPlan {plan : MigrationPlan} {snapshot : SourceSnapshot}
    (huses : (Call.createPlan plan snapshot).Uses R) :
    Agrees (Alike R derived) ((createPlan plan snapshot).run s) ((createPlan plan snapshot).run t) := by
  obtain ⟨href,-,hmem⟩ := huses
  refine agrees_refuse_bind h (agrees_refuse_bind h (agrees_refuse_bind h ?_))
  refine agrees_bind (h.registerSnapshot hmem) fun _ s' t' h' => agrees_get_bind ?_
  have hplan : s'.plans.get plan.planRef = t'.plans.get plan.planRef := by
    rw [href]
    exact h'.plan
  refine agrees_check_bind h' (by rw [hplan]) fun existing _ => ?_
  cases existing with
  | some same => exact .ok h'
  | none => exact agrees_modify_bind (.ok (h'.setPlan _ _))

theorem Alike.freezeInventory (ht : Kept t) {inventory : MigrationInventory}
    (hmem : inventory.inventoryRef.1 ∈ R.inventories) :
    Agrees (Alike R derived) ((freezeInventory R.planRef inventory v).run s)
      ((freezeInventory R.planRef inventory v).run t) := by
  refine h.planAt_bind fun plan hplan => ?_
  obtain ⟨x,hx,-⟩ := ht.bound _ plan hplan
  refine h.snapshotAt_bind hx fun snapshot => agrees_refuse_bind h (agrees_get_bind ?_)
  refine agrees_check_bind h (by rw [h.inventories _ hmem]) fun existing _ => ?_
  cases existing with
  | some same => exact agrees_refuse_bind h (.ok h)
  | none => exact agrees_refuse_bind h (h.store {h with inventories := h.inventories.set _ _})

theorem Alike.recordBackfill (ht : Kept t) (howns : R.Owns t) {batch : BackfillBatch}
    (hmem : batch.batchRef.1 ∈ R.batches) : Agrees (Alike R derived) ((recordBackfill R.planRef batch v).run s)
      ((recordBackfill R.planRef batch v).run t) := by
  refine h.planAt_bind fun plan hplan => ?_
  obtain ⟨x,hx,-⟩ := ht.bound _ plan hplan
  refine h.snapshotAt_bind hx fun snapshot => agrees_refuse_bind h (agrees_get_bind ?_)
  refine agrees_found_bind h (h.inventoryAt (howns plan hplan)) fun inventory _ => ?_
  refine agrees_check_bind h rfl fun _ _ => ?_
  refine agrees_check_bind h (by rw [h.batches _ hmem]) fun existing hexisting => ?_
  cases existing with
  | some same => exact .ok h
  | none => exact agrees_refuse_bind h (h.store (h.setBatch hmem (sameOrConflict_none.mp hexisting)))

theorem Alike.commitShadowReconciliation {plan : MigrationPlan}
    {candidate : ShadowReconciliation} (hmem : candidate.reconciliationRef.1 ∈ derived) :
    Agrees (Alike R derived) ((commitShadowReconciliation plan candidate v).run s)
      ((commitShadowReconciliation plan candidate v).run t) := by
  refine agrees_check_bind h (by rw [h.reconciliations _ hmem]) fun existing hexisting => ?_
  cases existing with
  | some same => exact .ok h
  | none =>
    have hnew := sameOrConflict_none.mp hexisting
    refine agrees_check_bind h rfl fun updated _ => ?_
    cases updated with
    | none => exact .ok (h.setReconciliation hmem hnew)
    | some updated => exact agrees_modify_bind (.ok ((h.setPlan _ updated).setReconciliation hmem hnew))

theorem Alike.reconcileShadow (hs : Kept s) (ht : Kept t) (howns : R.Owns t)
    {source target : String} {sources targets : List CanonicalRecord}
    (hmem : reconciliationRefOf source target ∈ derived) :
    Agrees (Alike R derived) ((reconcileShadow R.planRef source target sources targets v).run s)
      ((reconcileShadow R.planRef source target sources targets v).run t) := by
  refine h.planAt_bind fun plan hplan => ?_
  obtain ⟨x,hx,-⟩ := ht.bound _ plan hplan
  have hlinks := howns plan hplan
  refine h.snapshotAt_bind hx fun snapshot => agrees_refuse_bind h ?_
  refine agrees_check_bind h rfl fun maps _ => agrees_get_bind ?_
  have hcoverage := coverage_congr (h.observationsFor hlinks) (h.loadShadowInventory hs ht hlinks) sources snapshot
  refine agrees_check_bind h hcoverage fun flags _ => agrees_refuse_bind h ?_
  refine agrees_check_bind h rfl fun candidate hcandidate => h.commitShadowReconciliation ?_
  rw [(buildCandidate_ok hcandidate).1.1]
  exact hmem

end

variable {gate : PrerequisiteGate}

section
variable (h : Alike R derived s t)
include h

theorem Alike.cutoverReads (howns : R.Owns t) {cutover : CohortReadCutover}
    (hmem : cutover.cutoverRef.1 ∈ R.cutovers) :
    Agrees (Alike R derived) ((cutoverReads R.planRef cutover gate v).run s)
      ((cutoverReads R.planRef cutover gate v).run t) := by
  refine h.planAt_bind fun plan hplan => agrees_check_bind h rfl fun _ _ => agrees_get_bind ?_
  refine agrees_check_bind h (h.cleanReconciliation (howns plan hplan)) fun _ _ => agrees_refuse_bind h ?_
  refine agrees_check_bind h (by rw [h.cutovers _ hmem]) fun existing _ => ?_
  cases existing with
  | some same => exact .ok h
  | none => exact agrees_refuse_bind h (h.store {h with cutovers := h.cutovers.set _ _})

theorem Alike.fenceWrites {fence : WriteCutoverFence} (hmem : fence.fenceRef.1 ∈ R.fences) :
    Agrees (Alike R derived) ((fenceWrites R.planRef fence gate v).run s)
      ((fenceWrites R.planRef fence gate v).run t) := by
  refine h.planAt_bind fun plan hplan => agrees_check_bind h rfl fun _ _ => ?_
  refine agrees_refuse_bind h (agrees_get_bind ?_)
  refine agrees_check_bind h (by rw [h.fences _ hmem]) fun existing _ => ?_
  cases existing with
  | some same => exact .ok h
  | none => exact agrees_refuse_bind h (h.store (h.setFence _ _))

theorem Alike.checkpointProjection (howns : R.Owns t) {checkpoint : ProjectionCheckpoint}
    (hmem : checkpoint.checkpointRef.1 ∈ R.checkpoints) :
    Agrees (Alike R derived) ((checkpointProjection R.planRef checkpoint gate v).run s)
      ((checkpointProjection R.planRef checkpoint gate v).run t) := by
  refine h.planAt_bind fun plan hplan => agrees_check_bind h rfl fun _ _ => ?_
  refine agrees_refuse_bind h (agrees_get_bind ?_)
  refine agrees_check_bind h (by rw [h.checkpoints _ hmem]) fun existing _ => ?_
  cases existing with
  | some same => exact .ok h
  | none =>
    have hfence := h.fenceAt (howns plan hplan)
    refine agrees_refuse_bind h ?_
    rw [hfence]
    exact agrees_refuse_bind h (h.store {h with checkpoints := h.checkpoints.set _ _})

theorem Alike.retireLegacy {retirement : LegacyRetirement} (hmem : retirement.retirementRef.1 ∈ R.retirements) :
    Agrees (Alike R derived) ((retireLegacy R.planRef retirement gate v).run s)
      ((retireLegacy R.planRef retirement gate v).run t) := by
  refine h.planAt_bind fun plan hplan => agrees_check_bind h rfl fun _ _ => ?_
  refine agrees_refuse_bind h (agrees_get_bind ?_)
  refine agrees_check_bind h (by rw [h.retirements _ hmem]) fun existing _ => ?_
  cases existing with
  | some same => exact .ok h
  | none => exact agrees_refuse_bind h (h.store {h with retirements := h.retirements.set _ _})

theorem Alike.rollback (hs : Kept s) (ht : Kept t) (howns : R.Owns t)
    {record : MigrationRollback} (hmem : record.rollbackRef.1 ∈ R.rollbacks) :
    Agrees (Alike R derived) ((rollback R.planRef record v).run s) ((rollback R.planRef record v).run t) := by
  refine h.planAt_bind fun plan hplan => agrees_refuse_bind h (agrees_refuse_bind h (agrees_get_bind ?_))
  refine agrees_check_bind h (by rw [h.rollbacks _ hmem]) fun existing _ => ?_
  cases existing with
  | some same => exact .ok h
  | none =>
    refine agrees_check_bind h (h.rolledBackFenceFor hs ht (howns plan hplan) record) fun fence _ => ?_
    refine agrees_check_bind h rfl fun updated _ => ?_
    have hfinish : ∀ {s t : Authority}, Alike R derived s t → Alike R derived
        {s with rollbacks := s.rollbacks.set (appliedRollback record).rollbackRef (appliedRollback record)
                plans := s.plans.set plan.planRef updated}
        {t with rollbacks := t.rollbacks.set (appliedRollback record).rollbackRef (appliedRollback record)
                plans := t.plans.set plan.planRef updated} :=
      fun h => {h.setPlan plan.planRef updated with rollbacks := h.rollbacks.set _ _}
    cases fence with
    | none => exact .ok (hfinish h)
    | some fence => exact .ok (hfinish (h.setFence fence.fenceRef fence))

theorem Alike.stored {α : Type} {dict : Authority → Dict String α} {r : String}
    (hr : (dict s).get r = (dict t).get r) :
    Agrees (Alike R derived) ((stored dict r).run s) ((Migrations.stored dict r).run t) := by
  refine agrees_get_bind ?_
  rw [hr]
  cases (dict t).get r with
  | none => exact .error h
  | some record => exact .ok h

theorem Alike.run (hs : Kept s) (ht : Kept t) (howns : R.Owns t) {call : Call}
    (huses : call.Uses R) (hderived : ∀ r, call.reconciliation = some r → r ∈ derived) :
    Agrees (Alike R derived) (call.run.run s) (call.run.run t) := by
  cases call with
  | registerSnapshot snapshot => exact agrees_map _ (h.registerSnapshot huses)
  | createPlan plan snapshot => exact agrees_map _ (h.createPlan huses)
  | freezeInventory planRef inventory v =>
    obtain ⟨rfl,hmem⟩ := huses
    exact agrees_map _ (h.freezeInventory ht hmem)
  | recordBackfill planRef batch v =>
    obtain ⟨rfl,hmem⟩ := huses
    exact agrees_map _ (h.recordBackfill ht howns hmem)
  | reconcileShadow planRef source target sources targets v =>
    cases huses
    exact agrees_map _ (h.reconcileShadow hs ht howns (hderived _ rfl))
  | cutoverReads planRef cutover gate v =>
    obtain ⟨rfl,hmem⟩ := huses
    exact agrees_map _ (h.cutoverReads howns hmem)
  | fenceWrites planRef fence gate v =>
    obtain ⟨rfl,hmem⟩ := huses
    exact agrees_map _ (h.fenceWrites hmem)
  | checkpointProjection planRef checkpoint gate v =>
    obtain ⟨rfl,hmem⟩ := huses
    exact agrees_map _ (h.checkpointProjection howns hmem)
  | retireLegacy planRef retirement gate v =>
    obtain ⟨rfl,hmem⟩ := huses
    exact agrees_map _ (h.retireLegacy hmem)
  | rollback planRef record v =>
    obtain ⟨rfl,hmem⟩ := huses
    exact agrees_map _ (h.rollback hs ht howns hmem)
  | getPlan planRef =>
    cases huses
    refine agrees_map _ (agrees_get_bind ?_)
    rw [h.plan]
    cases t.plans.get R.planRef with
    | none => exact .error h
    | some plan => exact .ok h
  | getInventory r => exact agrees_map _ (h.stored (h.inventories r huses))
  | getBackfill r => exact agrees_map _ (h.stored (h.batches r huses))
  | getReconciliation r => exact agrees_map _ (h.stored (h.reconciliations r (hderived r rfl)))
  | getWriteFence r => exact agrees_map _ (h.stored (h.fences r huses))
  | getCheckpoint r => exact agrees_map _ (h.stored (h.checkpoints r huses))
  | getRetirement r => exact agrees_map _ (h.stored (h.retirements r huses))
  | getRollback r => exact agrees_map _ (h.stored (h.rollbacks r huses))

theorem Alike.step (hs : Kept s) (ht : Kept t) (howns : R.Owns t) {call : Call}
    (huses : call.Uses R) (hderived : ∀ r, call.reconciliation = some r → r ∈ derived) :
    (step s call).1 = (Migrations.step t call).1 ∧
      Alike R derived (Migrations.step s call).2 (Migrations.step t call).2 := by
  unfold Migrations.step
  have hrun := h.run hs ht howns huses hderived
  generalize call.run.run s = left at hrun ⊢
  generalize call.run.run t = right at hrun ⊢
  cases hrun with
  | ok h => exact ⟨rfl,h⟩
  | error h => exact ⟨rfl,h⟩

end

end

section
variable {A B : References} {derived : Set String} {s t u : Authority}

theorem Alike.register (h : Alike B derived s t) (hapart : A.Apart B) {snapshot : SourceSnapshot}
    (hmem : snapshot ∈ A.snapshots) : Alike B derived (s.register snapshot) t := by
  unfold Authority.register
  split_ifs with hnew
  · refine {h with snapshots := ?_}
    intro r
    by_cases hr : r = snapshot.snapshotRef.1
    · subst hr
      rcases h.snapshots snapshot.snapshotRef with hsame | ⟨-,x,hx,-⟩
      · refine .inr ⟨hsame.symm.trans hnew,snapshot,Dict.get_set_self _ _ _,?_⟩
        intro y hy hyr
        exact (hapart.snapshots snapshot hmem y hy (Subtype.ext hyr.symm)).symm
      · rw [hnew] at hx
        cases hx
    · unfold SnapshotAhead
      simp only [Dict.get_set_ne _ _ hr]
      exact h.snapshots r
  · exact h

theorem Alike.otherPlan (h : Alike B derived s t) {planRef : OpaqueRef} (updated : MigrationPlan)
    (hne : planRef.1 ≠ B.planRef) : Alike B derived {s with plans := s.plans.set planRef updated} t :=
  {h with plan := (Dict.get_set_ne _ _ hne.symm).trans h.plan}

theorem Alike.otherReconciliation (h : Alike B derived s t) {record : ShadowReconciliation}
    (hnew : s.reconciliations.get record.reconciliationRef = none) (hmigration : record.migrationRef ≠ B.migrationRef)
    (hmem : record.reconciliationRef.1 ∉ derived) :
    Alike B derived {s with reconciliations := s.reconciliations.set record.reconciliationRef record} t :=
  {h with
    reconciliations := h.reconciliations.set_left _ hmem
    reconciled := (Dict.filter_values_set hnew (by simp [hmigration])).trans h.reconciled}

theorem Writes.unseen {call : Call} {answer : Answer} (hwrites : Writes s call answer u) (h : Alike B derived s t)
    (hapart : A.Apart B) (hs : Kept s) (howns : A.Owns s) (huses : call.Uses A)
    (hclear : ∀ r ∈ derived, ¬call.StoresReconciliation s r) : Alike B derived u t := by
  have hother : ∀ {plan : MigrationPlan}, s.plans.get A.planRef = some plan → plan.planRef.1 ≠ B.planRef := by
    intro plan hplan
    rw [hs.keyed _ plan hplan]
    exact hapart.plan
  have hmigration : ∀ {plan : MigrationPlan}, s.plans.get A.planRef = some plan →
      plan.migrationRef ≠ B.migrationRef := by
    intro plan hplan
    rw [(howns plan hplan).1]
    exact hapart.migration
  cases hwrites with
  | registerSnapshot => exact h.register hapart huses
  | replayPlan => exact h.register hapart huses.2.2
  | @createPlan plan =>
    have hplan : plan.planRef.1 ≠ B.planRef := by
      rw [huses.1]
      exact hapart.plan
    have hregistered := (h.register hapart huses.2.2).otherPlan plan hplan
    rwa [register_plans] at hregistered
  | freezeInventory hplan =>
    obtain ⟨rfl,hmem⟩ := huses
    exact {h.otherPlan _ (hother hplan) with inventories := h.inventories.set_left _ (hapart.inventories _ hmem)}
  | recordBackfill hplan _ _ hbound _ _ hnew =>
    obtain ⟨rfl,hmem⟩ := huses
    exact {h.otherPlan _ (hother hplan) with
      batches := h.batches.set_left _ (hapart.batches _ hmem)
      observed := (Dict.filter_values_set hnew (by simp [hbound.1,hmigration hplan])).trans h.observed}
  | @reconcileShadow _ _ _ _ _ _ plan candidate hcompared hnew hv hkept =>
    cases huses
    obtain ⟨href,hbound,-⟩ := hcompared.built
    refine h.otherReconciliation hnew (hbound ▸ hmigration hcompared.found) fun hmem => ?_
    exact hclear _ hmem ⟨href.symm,hnew,plan,candidate,hcompared,hv⟩
  | @advanceShadow _ _ _ _ _ _ plan updated candidate hcompared hnew hclean hstate hnext =>
    cases huses
    obtain ⟨href,hbound,-⟩ := hcompared.built
    refine (h.otherPlan updated (hother hcompared.found)).otherReconciliation hnew
      (hbound ▸ hmigration hcompared.found) fun hmem => ?_
    exact hclear _ hmem ⟨href.symm,hnew,plan,candidate,hcompared,hnext.expected⟩
  | cutoverReads hplan =>
    obtain ⟨rfl,hmem⟩ := huses
    exact {h.otherPlan _ (hother hplan) with cutovers := h.cutovers.set_left _ (hapart.cutovers _ hmem)}
  | fenceWrites hplan =>
    obtain ⟨rfl,hmem⟩ := huses
    exact {h.otherPlan _ (hother hplan) with fences := h.fences.set_left _ (hapart.fences _ hmem)}
  | checkpointProjection hplan =>
    obtain ⟨rfl,hmem⟩ := huses
    exact {h.otherPlan _ (hother hplan) with checkpoints := h.checkpoints.set_left _ (hapart.checkpoints _ hmem)}
  | retireLegacy hplan =>
    obtain ⟨rfl,hmem⟩ := huses
    exact {h.otherPlan _ (hother hplan) with retirements := h.retirements.set_left _ (hapart.retirements _ hmem)}
  | @rollback _ record _ plan updated fence hplan _ _ _ hfence _ =>
    obtain ⟨rfl,hmem⟩ := huses
    have hrollbacks : Dict.AgreeOn B.rollbacks
        (s.rollbacks.set record.rollbackRef (appliedRollback record)) t.rollbacks :=
      h.rollbacks.set_left _ (hapart.rollbacks _ hmem)
    have hfences : Dict.AgreeOn B.fences (s.fencesAfter fence) t.writeFences := by
      rcases rolledBackFenceFor_ok hfence with ⟨-,-,rfl⟩ | ⟨-,stored,version,hstored,rfl⟩
      · exact h.fences
      · refine h.fences.set_left _ ?_
        change stored.fenceRef.1 ∉ B.fences
        rw [hs.fences _ stored hstored]
        cases href : plan.writeFenceRef with
        | none =>
          rw [href] at hstored
          cases hs.fences_empty.symm.trans hstored
        | some r => exact hapart.fences _ ((howns plan hplan).2.2 r href)
    exact {h.otherPlan updated (hother hplan) with fences := hfences, rollbacks := hrollbacks}

theorem Alike.other (h : Alike B derived s t) (hapart : A.Apart B) (hs : Kept s) (howns : A.Owns s) {call : Call}
    (huses : call.Uses A) (hclear : ∀ r ∈ derived, ¬call.StoresReconciliation s r) :
    Alike B derived (Migrations.step s call).2 t := by
  rcases step_cases s call with ⟨answer,-,hsame | hwrites⟩ | ⟨e,-,hsame | ⟨plan,snapshot,rfl,-,hsame⟩⟩
  · rwa [hsame]
  · exact hwrites.unseen h hapart hs howns huses hclear
  · rwa [hsame]
  · rw [hsame]
    exact h.register hapart huses.2.2

end

/-- A call, and whether it is one of the second party. -/
abbrev Turn := Bool × Call

def turn (s : Authority) (i : Turn) : Except MigrationError Answer × Authority := step s i.2
def derivedBy (turns : List Turn) : Set String :=
  {r | ∃ call, (true,call) ∈ turns ∧ call.reconciliation = some r}

/-- What holds of the run with both parties and of the run with the second alone. -/
structure Related (A B : References) (derived : Set String) (s t : Authority) : Prop where
  alike : Alike B derived s t
  kept : Kept s
  keptAlone : Kept t
  first : A.Owns s
  second : B.Owns t

/-- The second party is answered as if it were alone, unless the first stores a reconciliation under a
reference that the second derives. -/
theorem migrations_isolated {A B : References} (hapart : A.Apart B) {s : Authority}
    (hs : Reachable step Authority.empty s) (hA : A.Owns s) (hB : B.Owns s) {turns : List Turn}
    (huses : ∀ i ∈ turns, i.2.Uses (if i.1 then B else A))
    (hclear : Along turn (fun s i => i.1 = false → ∀ r ∈ derivedBy turns, ¬i.2.StoresReconciliation s r) s turns) :
    answersTo turn Prod.fst s turns = answers turn s (turns.filter Prod.fst) := by
  have hmem : ∀ i ∈ turns, i.2.Uses (if i.1 then B else A) ∧
      (i.1 = true → ∀ r, i.2.reconciliation = some r → r ∈ derivedBy turns) := by
    intro i hi
    refine ⟨huses i hi,fun hmine r hr => ⟨i.2,?_,hr⟩⟩
    rw [← hmine]
    exact hi
  have hstart : Related A B (derivedBy turns) s s :=
    ⟨Alike.refl s,kept_of_reachable hs,kept_of_reachable hs,hA,hB⟩
  refine answersTo_eq_answers ?_ ?_ hstart (hclear.and_mem hmem)
  · rintro s t ⟨mine,call⟩ hmine ⟨-,hown,hderived⟩ h
    cases hmine
    obtain ⟨hanswer,hnext⟩ := h.alike.step h.kept h.keptAlone h.second hown (hderived rfl)
    refine ⟨hanswer,hnext,kept_step s call h.kept,kept_step t call h.keptAlone,?_,?_⟩
    · intro plan hplan
      exact h.first plan ((hown.others h.kept.keyed hapart.plan).symm.trans hplan)
    · exact owns_step hown h.keptAlone.keyed h.second
  · rintro s t ⟨mine,call⟩ hmine ⟨hclear,hown,-⟩ h
    cases hmine
    exact ⟨h.alike.other hapart h.kept h.first hown (hclear rfl),kept_step s call h.kept,h.keptAlone,
      owns_step hown h.kept.keyed h.first,h.second⟩

namespace Fixture

def two : Names := ⟨ref "migration:two",ref "plan:two",ref "inventory:two",ref "backfill:two"⟩

def references (names : Names) : References where
  migrationRef := names.migrationRef
  planRef := names.planRef
  snapshots := {source}
  inventories := {names.inventoryRef.1}
  batches := {names.batchRef.1}
  cutovers := ∅
  fences := ∅
  checkpoints := ∅
  retirements := ∅
  rollbacks := ∅

theorem apart : (references one).Apart (references two) where
  migration := by decide +kernel
  plan := by decide +kernel
  snapshots := by
    intro x hx y hy _
    cases hx
    cases hy
    rfl
  inventories := by
    intro r hr
    cases hr
    change ¬(_ = _)
    decide +kernel
  batches := by
    intro r hr
    cases hr
    change ¬(_ = _)
    decide +kernel
  cutovers := nofun
  fences := nofun
  checkpoints := nofun
  retirements := nofun
  rollbacks := nofun

structure BothObserved (s : Authority) (p q : MigrationPlan) : Prop where
  reachable : Reachable step Authority.empty s
  first : Comparable one s p
  second : Comparable two s q
  owned : (references one).Owns s ∧ (references two).Owns s
  migrations : p.migrationRef = one.migrationRef ∧ q.migrationRef = two.migrationRef
  planRef : p.planRef = one.planRef
  none : s.reconciliations = ∅

theorem Observing.owns {names : Names} {s t : Authority} {p : MigrationPlan} (h : Observing names s t p) :
    (references names).Owns t := by
  intro plan hplan
  cases h.found.symm.trans hplan
  refine ⟨h.migration.migrationRef,?_,?_⟩
  · intro r hr
    cases h.inventory.symm.trans hr
    rfl
  · intro r hr
    cases h.fence.symm.trans hr

theorem both_observed : ∃ s p q, BothObserved s p q := by
  obtain ⟨s,p,hone⟩ := observe one ⟨[],rfl⟩ (.inl rfl) rfl rfl rfl
  have hplans : s.plans.get two.planRef = .none := hone.others _ (by decide +kernel)
  have hinventories : s.inventories.get two.inventoryRef = .none := by
    rw [hone.inventories]
    exact Dict.get_set_ne _ _ (by decide +kernel)
  have hbatches : s.backfills.get two.batchRef = .none := by
    rw [hone.backfills]
    exact Dict.get_set_ne _ _ (by decide +kernel)
  obtain ⟨t,q,htwo⟩ := observe two hone.reachable (.inr hone.snapshot) hplans hinventories hbatches
  have hdifferent : (batch two).migrationRef ≠ one.migrationRef := by decide +kernel
  have hfirst : Comparable one s p := hone.comparable rfl (fun _ hb => absurd hb List.not_mem_nil)
  have hsecond : Comparable two t q := by
    refine htwo.comparable hbatches fun b hb => ?_
    rw [hone.backfills,Dict.values_set_new _ rfl] at hb
    cases List.mem_singleton.mp hb
    decide +kernel
  have hfound : t.plans.get one.planRef = some p := (htwo.others _ (by decide +kernel)).trans hone.found
  have hmigration : p.migrationRef = one.migrationRef := hone.migration.migrationRef
  have hobservations : observationsFor t p = [observation one] := by
    rw [← hfirst.observations]
    unfold observationsFor
    rw [htwo.backfills,Dict.filter_values_set hbatches (by simp [hmigration,hdifferent])]
  have hinventory : loadShadowInventory t p = .ok (inventory one) := by
    rw [← hfirst.inventory]
    have hkept : t.inventories.get one.inventoryRef = s.inventories.get one.inventoryRef := by
      rw [htwo.inventories]
      exact Dict.get_set_ne _ _ (by decide +kernel)
    unfold loadShadowInventory
    rw [hone.inventory]
    rw [Option.map_some,Option.getD_some,hkept]
  have hsnapshot : t.snapshots.get p.sourceSnapshotRef = some source := by
    rw [hone.migration.snapshotRef]
    exact htwo.snapshot
  refine ⟨t,p,q,htwo.reachable,⟨hsnapshot,hfound,hobservations,hinventory,hone.state,hone.version⟩,hsecond,⟨?_,htwo.owns⟩,
    ⟨hmigration,htwo.migration.migrationRef⟩,hone.migration.planRef,?_⟩
  · intro plan hplan
    refine hone.owns plan (.trans ?_ hplan)
    exact (htwo.others _ (by decide +kernel)).symm
  · exact htwo.reconciliations.trans hone.reconciliations

theorem BothObserved.taken {s : Authority} {p q : MigrationPlan} (h : BothObserved s p q) :
    (step (step s (compareNothing one)).2 (compareNothing two)).1 ≠ (step s (compareNothing two)).1 := by
  have hnew : s.reconciliations.get (reconciliationRefOf source.snapshotDigest.1 source.snapshotDigest.1) = .none := by
    rw [h.none]
    rfl
  obtain ⟨mine,_,-,-,-,hmine⟩ := h.second.answered hnew
  obtain ⟨theirs,updated,-,htheirs,href,hstep⟩ := h.first.answered hnew
  rw [hmine,hstep]
  intro hanswer
  obtain ⟨answer,hop,hsame⟩ := map_ok.mp (run_of_step_ok hanswer)
  obtain ⟨plan,computed,hcompared,hcommit⟩ := reconcileShadow_iff.mp hop
  obtain ⟨href',hmigration,-⟩ := hcompared.built
  have hplan : plan = q := by
    have hfound := (Dict.get_set_ne _ _ (by rw [h.planRef]; decide +kernel)).symm.trans hcompared.found
    exact Option.some.inj (hfound.symm.trans h.second.found)
  have hstored : ∀ r : String, r = reconciliationRefOf source.snapshotDigest.1 source.snapshotDigest.1 →
      (s.reconciliations.set theirs.reconciliationRef theirs).get r = some theirs := by
    intro r hr
    rw [hr,← href]
    exact Dict.get_set_self _ _ _
  obtain ⟨rfl,⟨-,hold⟩ | ⟨hnone,-⟩⟩ := commit_run hcommit
  · -- what is stored there belongs to the other migration
    cases (hstored _ href').symm.trans hold
    rw [htheirs,hplan,h.migrations.1,h.migrations.2] at hmigration
    exact absurd hmigration (by decide +kernel)
  · cases (hstored _ href').symm.trans hnone

end Fixture

/-- Two migrations on one snapshot derive one reconciliation reference, and the first takes it. -/
theorem reconciliations_collide : ¬∀ A B : References, A.Apart B → ∀ s, Reachable step Authority.empty s →
    A.Owns s → B.Owns s → ∀ turns : List Turn, (∀ i ∈ turns, i.2.Uses (if i.1 then B else A)) →
    answersTo turn Prod.fst s turns = answers turn s (turns.filter Prod.fst) := by
  intro h
  obtain ⟨s,p,q,hboth⟩ := Fixture.both_observed
  have hsame := h _ _ Fixture.apart s hboth.reachable hboth.owned.1 hboth.owned.2
    [(false,Fixture.compareNothing Fixture.one),(true,Fixture.compareNothing Fixture.two)] ?_
  · exact hboth.taken (List.cons.inj hsame).1
  · intro i hi
    rcases List.mem_cons.mp hi with rfl | hi
    · rfl
    · cases List.mem_singleton.mp hi
      rfl

/-- The second migration's plan reads as if the first had not reconciled. -/
theorem second_plan_isolated : ∃ s, Reachable step Authority.empty s ∧
    answersTo turn Prod.fst s [(false,Fixture.compareNothing Fixture.one),(true,.getPlan "plan:two")] =
      answers turn s [(true,.getPlan "plan:two")] := by
  obtain ⟨s,p,q,hboth⟩ := Fixture.both_observed
  refine ⟨s,hboth.reachable,migrations_isolated Fixture.apart hboth.reachable hboth.owned.1 hboth.owned.2 ?_ ?_⟩
  · intro i hi
    rcases List.mem_cons.mp hi with rfl | hi
    · rfl
    · cases List.mem_singleton.mp hi
      rfl
  · refine ⟨?_,nofun,trivial⟩
    rintro - r ⟨call,hcall,hr⟩
    rcases List.mem_cons.mp hcall with heq | hcall
    · cases heq
    · cases List.mem_singleton.mp hcall
      cases hr

end Arbora.Migrations
