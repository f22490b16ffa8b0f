import Arbora.Lib.Pool
import Arbora.Retrieval.AuthorizedHits

/-! The catalog of generations, each of its methods one step under its lock, and the publications, cleanups and
replacements that are made of several of them and of what the engine answers. -/
namespace Arbora.Retrieval
open Interaction

structure Catalog where
  records : Dict (String × String × String) GenerationRecord
  current : Dict (String × String) String

def GenerationManifest.key (g : GenerationManifest) : String × String := (g.tenantRef.1,g.graphRef.1)
def GenerationManifest.recordKey (g : GenerationManifest) : String × String × String :=
  (g.tenantRef.1,g.graphRef.1,g.generationId.1)

def GenerationRecord.new (manifest : GenerationManifest) (state : GenerationState)
    (checkpoint : Option CleanupCheckpoint) : Except Raised GenerationRecord :=
  if hactive : state = .active → checkpoint = none then
    if hdeleted : state = .deleted → checkpoint.any (·.complete) = true then
      if hown : checkpoint.all manifest.owns = true then .ok ⟨manifest,state,checkpoint,hactive,hdeleted,hown⟩
      else .error ⟨.validation,"generation_cleanup_binding_drift"⟩
    else .error ⟨.validation,"deleted_generation_cleanup_unproven"⟩
  else .error ⟨.validation,"active_generation_has_cleanup_checkpoint"⟩

namespace Catalog

def empty : Catalog := ⟨∅,∅⟩
def currentRecord (s : Catalog) (tenantRef graphRef : String) : Option GenerationRecord :=
  (s.current.get (tenantRef,graphRef)).bind fun generationId => s.records.get (tenantRef,graphRef,generationId)
def get (s : Catalog) (g : GenerationManifest) : Option GenerationRecord := s.records.get g.recordKey
def put (s : Catalog) (record : GenerationRecord) : Catalog :=
  {s with records := s.records.set record.manifest.recordKey record}

/-- Records what the model accepts. -/
def record (s : Catalog) (manifest : GenerationManifest) (state : GenerationState)
    (checkpoint : Option CleanupCheckpoint) : Except Raised GenerationRecord × Catalog :=
  match GenerationRecord.new manifest state checkpoint with
  | .error e => (.error e,s)
  | .ok updated => (.ok updated,s.put updated)

def publish (s : Catalog) (manifest : GenerationManifest) (expectedCurrent : Option String) :
    Except Raised GenerationRecord × Catalog :=
  let actual := s.current.get manifest.key
  if actual ≠ expectedCurrent then (.error ⟨.generationConflict,"generation_current_cas_mismatch"⟩,s)
  else
    match s.get manifest with
    | some prior =>
      if prior.manifest ≠ manifest then (.error ⟨.generationConflict,"immutable_generation_conflict"⟩,s)
      else if actual = some manifest.generationId.1 ∧ prior.state = .active then (.ok prior,s)
      else (.error ⟨.generationConflict,"generation_identity_reuse"⟩,s)
    | none =>
      match GenerationRecord.new manifest .active none with
      | .error e => (.error e,s)
      | .ok published =>
        (.ok published,{s.put published with current := s.current.set manifest.key manifest.generationId.1})

def retire (s : Catalog) (generation : GenerationManifest) : Except Raised GenerationRecord × Catalog :=
  match s.get generation with
  | none => (.error ⟨.generationNotFound,"generation_missing"⟩,s)
  | some record =>
    if record.manifest ≠ generation then (.error ⟨.generationConflict,"generation_manifest_drift"⟩,s)
    else if s.current.get generation.key = some generation.generationId.1 then
      (.error ⟨.generationConflict,"current_generation_cannot_retire"⟩,s)
    else if record.state = .retiring then (.ok record,s)
    else if record.state ≠ .active then (.error ⟨.generationConflict,"generation_state_transition_invalid"⟩,s)
    else s.record generation .retiring none

def requireCleanupTarget (s : Catalog) (generation : GenerationManifest) (checkpoint : Option CleanupCheckpoint) :
    Except Raised GenerationRecord :=
  match s.get generation with
  | none => .error ⟨.generationNotFound,"generation_missing"⟩
  | some record =>
    if record.manifest ≠ generation then .error ⟨.generationConflict,"generation_manifest_drift"⟩
    else if record.state ≠ .retiring ∧ record.state ≠ .cleanupFailed then
      .error ⟨.generationConflict,"generation_not_retiring"⟩
    else if checkpoint.any (·.generationId ≠ generation.generationId) then
      .error ⟨.generationConflict,"cleanup_generation_drift"⟩
    else if checkpoint.any (·.indexRef ≠ generation.indexRef) then .error ⟨.generationConflict,"cleanup_index_drift"⟩
    else if checkpoint.any (·.expectedVectors.1 ≠ generation.expectedChunks.1) then
      .error ⟨.generationConflict,"cleanup_expected_count_drift"⟩
    else .ok record

def finishCleanup (s : Catalog) (generation : GenerationManifest) (checkpoint : CleanupCheckpoint) :
    Except Raised GenerationRecord × Catalog :=
  match s.requireCleanupTarget generation (some checkpoint) with
  | .error e => (.error e,s)
  | .ok _ =>
    if checkpoint.complete = false then (.error ⟨.cleanupIncomplete,"cleanup_checkpoint_incomplete"⟩,s)
    else s.record generation .deleted (some checkpoint)

def failCleanup (s : Catalog) (generation : GenerationManifest) (checkpoint : Option CleanupCheckpoint) :
    Except Raised GenerationRecord × Catalog :=
  if checkpoint.any (·.complete) then (.error ⟨.generationConflict,"complete_checkpoint_requires_finish"⟩,s)
  else
    match s.requireCleanupTarget generation checkpoint with
    | .error e => (.error e,s)
    | .ok target => s.record generation .cleanupFailed (checkpoint.or target.cleanupCheckpoint)

end Catalog

inductive CleanupReport
  | checkpoint (checkpoint : CleanupCheckpoint)
  | nothing
  /-- An object that is no checkpoint, which no record takes. -/
  | foreign

/-- The catalog's methods and the engine's. -/
inductive Call
  | current (tenantRef graphRef : String)
  | get (generation : GenerationManifest)
  | publish (manifest : GenerationManifest) (expectedCurrent : Option String)
  | retire (generation : GenerationManifest)
  | finishCleanup (generation : GenerationManifest) (checkpoint : CleanupCheckpoint)
  | failCleanup (generation : GenerationManifest) (checkpoint : Option CleanupCheckpoint)
  | cleanupGeneration (generation : GenerationManifest)

@[reducible] def Call.Answer : Call → Type
  | .current .. | .get _ => Option GenerationRecord
  | .publish .. | .retire _ | .finishCleanup .. | .failCleanup .. => Except Raised GenerationRecord
  | .cleanupGeneration _ => Except Raised CleanupReport

inductive Catalog.Serves : World Call Call.Answer Catalog
  | current (s : Catalog) (tenantRef graphRef : String) :
      Serves s (.current tenantRef graphRef) (s.currentRecord tenantRef graphRef) s
  | get (s : Catalog) (generation : GenerationManifest) : Serves s (.get generation) (s.get generation) s
  | publish (s : Catalog) (manifest : GenerationManifest) (expectedCurrent : Option String) :
      Serves s (.publish manifest expectedCurrent) (s.publish manifest expectedCurrent).1
        (s.publish manifest expectedCurrent).2
  | retire (s : Catalog) (generation : GenerationManifest) :
      Serves s (.retire generation) (s.retire generation).1 (s.retire generation).2
  | finishCleanup (s : Catalog) (generation : GenerationManifest) (checkpoint : CleanupCheckpoint) :
      Serves s (.finishCleanup generation checkpoint) (s.finishCleanup generation checkpoint).1
        (s.finishCleanup generation checkpoint).2
  | failCleanup (s : Catalog) (generation : GenerationManifest) (checkpoint : Option CleanupCheckpoint) :
      Serves s (.failCleanup generation checkpoint) (s.failCleanup generation checkpoint).1
        (s.failCleanup generation checkpoint).2
  | cleanupGeneration (s : Catalog) (generation : GenerationManifest) (r : Except Raised CleanupReport) :
      Serves s (.cleanupGeneration generation) r s

abbrev Step (α : Type) := Prog Call Call.Answer Raised α

namespace GenerationLifecycle

def ofExcept {α : Type} : Except Raised α → Step α
  | .ok a => .ret a
  | .error x => .raise x

def publish (manifest : GenerationManifest) (expectedCurrent : Option String) : Step GenerationRecord :=
  .call (.publish manifest expectedCurrent) ofExcept

def prepareCleanup (generation : GenerationManifest) : Step Unit :=
  .call (.get generation) fun
    | none => .raise ⟨.generationNotFound,"generation_missing"⟩
    | some record =>
      if record.manifest ≠ generation then .raise ⟨.generationConflict,"generation_manifest_drift"⟩
      else if record.state = .active then
        .call (.retire generation) fun retired => (ofExcept retired).bind fun _ => .ret ()
      else if record.state ≠ .retiring ∧ record.state ≠ .cleanupFailed then
        .raise ⟨.generationConflict,"generation_not_cleanup_eligible"⟩
      else .ret ()

def failed {α : Type} (generation : GenerationManifest) (checkpoint : Option CleanupCheckpoint) (code : String) :
    Step α :=
  .call (.failCleanup generation checkpoint) fun recorded =>
    (ofExcept recorded).bind fun _ => .raise ⟨.cleanupIncomplete,code⟩

def validateCheckpoint (generation : GenerationManifest) : CleanupReport → Step CleanupCheckpoint
  | .nothing | .foreign => failed generation none "cleanup_checkpoint_invalid"
  | .checkpoint checkpoint =>
    if checkpoint.expectedVectors.1 ≠ generation.expectedChunks.1 then
      failed generation none "cleanup_expected_count_drift"
    else if checkpoint.complete = false then failed generation (some checkpoint) "cleanup_checkpoint_incomplete"
    else .ret checkpoint

def failCleanup {α : Type} (generation : GenerationManifest) : CleanupReport → Step α
  | .foreign => .raise ⟨.cleanupIncomplete,"cleanup_failure_state_unrecorded"⟩
  | .nothing => recorded none
  | .checkpoint checkpoint => recorded (some checkpoint)
where
  recorded (checkpoint : Option CleanupCheckpoint) : Step α :=
    .call (.failCleanup generation checkpoint) fun
      | .ok _ => .raise ⟨.cleanupIncomplete,"cleanup_failed"⟩
      | .error _ => .raise ⟨.cleanupIncomplete,"cleanup_failure_state_unrecorded"⟩

/-- The handlers around the engine's call and what follows it. -/
def onError {α : Type} (generation : GenerationManifest) (report : CleanupReport) (x : Raised) : Step α :=
  if x.kind = .cleanupIncomplete then .raise x else failCleanup generation report

def cleanup (generation : GenerationManifest) : Step GenerationRecord :=
  (prepareCleanup generation).bind fun _ =>
    .call (.cleanupGeneration generation) fun
      | .error x => onError generation .nothing x
      | .ok report =>
        ((validateCheckpoint generation report).bind fun checkpoint =>
          .call (.finishCleanup generation checkpoint) ofExcept).handle (onError generation report)

def reembed (oldGeneration newGeneration : GenerationManifest) : Step GenerationRecord :=
  if oldGeneration.tenantRef ≠ newGeneration.tenantRef ∨ oldGeneration.graphRef ≠ newGeneration.graphRef then
    .raise ⟨.generationConflict,"reembed_tenant_graph_drift"⟩
  else
    .call (.current oldGeneration.tenantRef.1 oldGeneration.graphRef.1) fun current =>
      if current.all fun record => record.manifest ≠ oldGeneration || record.state ≠ .active then
        .raise ⟨.staleGeneration,"reembed_old_generation_stale"⟩
      else
        (publish newGeneration (some oldGeneration.generationId.1)).bind fun published =>
          .call (.retire oldGeneration) fun retired =>
            (ofExcept retired).bind fun _ => (cleanup oldGeneration).bind fun _ => .ret published

end GenerationLifecycle

inductive LifecycleCall
  | publish (manifest : GenerationManifest) (expectedCurrent : Option String)
  | cleanup (generation : GenerationManifest)
  | reembed (oldGeneration newGeneration : GenerationManifest)

def LifecycleCall.run : LifecycleCall → Step GenerationRecord
  | .publish manifest expectedCurrent => GenerationLifecycle.publish manifest expectedCurrent
  | .cleanup generation => GenerationLifecycle.cleanup generation
  | .reembed oldGeneration newGeneration => GenerationLifecycle.reembed oldGeneration newGeneration

/-! What the catalog's steps can do to generations, and so what holds of them however calls interleave. -/
namespace Catalog
variable {s t : Catalog}

inductive Moves : GenerationState → GenerationState → Prop
  | retire : Moves .active .retiring
  | fail : Moves .retiring .cleanupFailed
  | finish : Moves .retiring .deleted
  | failAgain : Moves .cleanupFailed .cleanupFailed
  | finishLate : Moves .cleanupFailed .deleted

def Proven (record : GenerationRecord) : Prop := ∃ checkpoint, record.cleanupCheckpoint = some checkpoint ∧
  checkpoint.complete = true ∧ checkpoint.indexRef = record.manifest.indexRef ∧
  checkpoint.expectedVectors.1 = record.manifest.expectedChunks.1

inductive Leaves (s : Catalog) : Catalog → Prop
  | same : Leaves s s
  | published (record : GenerationRecord) (hactive : record.state = .active) (hnew : s.get record.manifest = none) :
      Leaves s {s.put record with current := s.current.set record.manifest.key record.manifest.generationId.1}
  | moved (old record : GenerationRecord) (hget : s.get record.manifest = some old)
      (hmanifest : old.manifest = record.manifest) (hmoves : Moves old.state record.state)
      (hcurrent : old.state = .active → s.current.get record.manifest.key ≠ some record.manifest.generationId.1)
      (hproven : record.state = .deleted → Proven record) : Leaves s (s.put record)

variable {checkpoint : Option CleanupCheckpoint}

theorem new_ok {manifest : GenerationManifest} {state : GenerationState} {record : GenerationRecord} (h :
    GenerationRecord.new manifest state checkpoint = .ok record) :
    record.manifest = manifest ∧ record.state = state ∧ record.cleanupCheckpoint = checkpoint := by
  unfold GenerationRecord.new at h
  split_ifs at h
  cases h
  exact ⟨rfl,rfl,rfl⟩

theorem record_cases (s : Catalog) (manifest : GenerationManifest) (state : GenerationState)
    (checkpoint : Option CleanupCheckpoint) : (∃ e, s.record manifest state checkpoint = (.error e,s)) ∨
      ∃ updated, s.record manifest state checkpoint = (.ok updated,s.put updated) ∧ updated.manifest = manifest ∧
        updated.state = state ∧ updated.cleanupCheckpoint = checkpoint := by
  unfold Catalog.record
  split
  · exact .inl ⟨_,rfl⟩
  · rename_i updated hupdated
    exact .inr ⟨updated,rfl,new_ok hupdated⟩

theorem publish_leaves (s : Catalog) (manifest : GenerationManifest) (expectedCurrent : Option String) :
    Leaves s (s.publish manifest expectedCurrent).2 := by
  unfold publish
  dsimp only
  split_ifs
  · exact .same
  · split
    · split_ifs
      · exact .same
      · exact .same
      · exact .same
    · rename_i hnone
      split
      · exact .same
      · rename_i published hpublished
        obtain ⟨rfl,hactive,-⟩ := new_ok hpublished
        exact .published published hactive hnone

theorem retire_leaves (s : Catalog) (generation : GenerationManifest) : Leaves s (s.retire generation).2 := by
  unfold retire
  split
  · exact .same
  · rename_i record hget
    split_ifs with hmanifest hcurrent hretiring hactive
    · exact .same
    · exact .same
    · exact .same
    · exact .same
    · rcases record_cases s generation .retiring none with ⟨e,he⟩ | ⟨updated,hupdated,rfl,hstate,-⟩
      · rw [he]
        exact .same
      · rw [hupdated]
        refine .moved record updated hget (not_not.mp hmanifest) ?_ (fun _ => hcurrent) fun hdeleted => ?_
        · rw [not_not.mp hactive,hstate]
          exact .retire
        · rw [hstate] at hdeleted
          cases hdeleted

structure Target (s : Catalog) (generation : GenerationManifest) (checkpoint : Option CleanupCheckpoint)
    (record : GenerationRecord) : Prop where
  stored : s.get generation = some record
  manifest : record.manifest = generation
  state : record.state = .retiring ∨ record.state = .cleanupFailed
  index : ∀ c, checkpoint = some c → c.indexRef = generation.indexRef
  count : ∀ c, checkpoint = some c → c.expectedVectors.1 = generation.expectedChunks.1

theorem requireCleanupTarget_ok {generation : GenerationManifest} {record : GenerationRecord} (h :
    s.requireCleanupTarget generation checkpoint = .ok record) : Target s generation checkpoint record := by
  unfold requireCleanupTarget at h
  split at h
  · cases h
  · rename_i stored hget
    split_ifs at h with hmanifest hstate hgeneration hindex hcount
    cases h
    refine ⟨hget,not_not.mp hmanifest,?_,fun c hc => ?_,fun c hc => ?_⟩
    · by_contra hnot
      exact hstate (not_or.mp hnot)
    · rw [hc] at hindex
      simpa using hindex
    · rw [hc] at hcount
      simpa using hcount

theorem Target.not_active {generation : GenerationManifest} {record : GenerationRecord} (h :
    Target s generation checkpoint record) : record.state ≠ .active := by
  intro hactive
  rcases h.state with hstate | hstate
  · rw [hstate] at hactive
    cases hactive
  · rw [hstate] at hactive
    cases hactive

theorem finishCleanup_cases (s : Catalog) (generation : GenerationManifest) (checkpoint : CleanupCheckpoint) :
    (∃ e, s.finishCleanup generation checkpoint = (.error e,s)) ∨ ∃ old record,
      s.finishCleanup generation checkpoint = (.ok record,s.put record) ∧ record.manifest = generation ∧
        record.state = .deleted ∧ Target s generation (some checkpoint) old ∧ Proven record := by
  unfold finishCleanup
  split
  · exact .inl ⟨_,rfl⟩
  · rename_i old htarget
    have htarget := requireCleanupTarget_ok htarget
    split_ifs with hcomplete
    · exact .inl ⟨_,rfl⟩
    · rcases record_cases s generation .deleted (some checkpoint) with herror | ⟨record,hrecord,rfl,hstate,hcheckpoint⟩
      · exact .inl herror
      · exact .inr ⟨old,record,hrecord,rfl,hstate,htarget,checkpoint,hcheckpoint,Bool.not_eq_false _ ▸ hcomplete,
          htarget.index checkpoint rfl,htarget.count checkpoint rfl⟩

theorem finishCleanup_leaves (s : Catalog) (generation : GenerationManifest) (checkpoint : CleanupCheckpoint) :
    Leaves s (s.finishCleanup generation checkpoint).2 := by
  rcases finishCleanup_cases s generation checkpoint with ⟨e,he⟩ | ⟨old,record,hrecord,rfl,hstate,htarget,hproven⟩
  · rw [he]
    exact .same
  · rw [hrecord]
    refine .moved old record htarget.stored htarget.manifest ?_ (fun h => absurd h htarget.not_active) fun _ => hproven
    rw [hstate]
    rcases htarget.state with hold | hold
    · rw [hold]
      exact .finish
    · rw [hold]
      exact .finishLate

theorem failCleanup_leaves (s : Catalog) (generation : GenerationManifest) (checkpoint : Option CleanupCheckpoint) :
    Leaves s (s.failCleanup generation checkpoint).2 := by
  unfold failCleanup
  split_ifs
  · exact .same
  · split
    · exact .same
    · rename_i old htarget
      have htarget := requireCleanupTarget_ok htarget
      rcases record_cases s generation .cleanupFailed (checkpoint.or old.cleanupCheckpoint) with
        ⟨e,he⟩ | ⟨record,hrecord,rfl,hstate,-⟩
      · rw [he]
        exact .same
      · rw [hrecord]
        refine .moved old record htarget.stored htarget.manifest ?_ (fun h => absurd h htarget.not_active)
          fun hdeleted => ?_
        · rw [hstate]
          rcases htarget.state with hold | hold
          · rw [hold]
            exact .fail
          · rw [hold]
            exact .failAgain
        · rw [hstate] at hdeleted
          cases hdeleted

theorem serves_leaves {e : Call} {r : e.Answer} (h : Serves s e r t) : Leaves s t := by
  cases h with
  | current | get | cleanupGeneration => exact .same
  | publish => exact publish_leaves s _ _
  | retire => exact retire_leaves s _
  | finishCleanup => exact finishCleanup_leaves s _ _
  | failCleanup => exact failCleanup_leaves s _ _

structure Sound (s : Catalog) : Prop where
  keyed : ∀ key record, s.records.get key = some record → key = record.manifest.recordKey
  current : ∀ tenantRef graphRef generationId, s.current.get (tenantRef,graphRef) = some generationId →
    ∃ record, s.records.get (tenantRef,graphRef,generationId) = some record ∧ record.state = .active
  deleted : ∀ key record, s.records.get key = some record → record.state = .deleted → Proven record

theorem sound_empty : Sound empty where
  keyed key record h := by cases h
  current tenantRef graphRef generationId h := by cases h
  deleted key record h := by cases h

theorem put_get (s : Catalog) (record : GenerationRecord) (key : String × String × String) :
    (s.put record).records.get key = if key = record.manifest.recordKey then some record else s.records.get key :=
  Dict.get_set _ _ _ _

theorem Sound.leaves (hs : Sound s) (h : Leaves s t) : Sound t := by
  cases h with
  | same => exact hs
  | published record hactive hnew =>
    refine ⟨fun key r hget => ?_,fun tenantRef graphRef generationId hcurrent => ?_,fun key r hget hdeleted => ?_⟩
    · have hget : (s.put record).records.get key = some r := hget
      rw [put_get] at hget
      split_ifs at hget with hkey
      · cases hget
        exact hkey
      · exact hs.keyed key r hget
    · have hcurrent : (s.current.set record.manifest.key record.manifest.generationId.1).get (tenantRef,graphRef) =
        some generationId := hcurrent
      rw [Dict.get_set] at hcurrent
      rw [put_get]
      split_ifs at hcurrent with hkey
      · cases hcurrent
        obtain ⟨rfl,rfl⟩ := Prod.mk.inj hkey
        exact ⟨record,if_pos rfl,hactive⟩
      · obtain ⟨r,hr,hractive⟩ := hs.current tenantRef graphRef generationId hcurrent
        have hne : (tenantRef,graphRef,generationId) ≠ record.manifest.recordKey := by
          intro heq
          unfold get at hnew
          rw [← heq,hr] at hnew
          cases hnew
        exact ⟨r,(if_neg hne).trans hr,hractive⟩
    · have hget : (s.put record).records.get key = some r := hget
      rw [put_get] at hget
      split_ifs at hget with hkey
      · cases hget
        rw [hactive] at hdeleted
        cases hdeleted
      · exact hs.deleted key r hget hdeleted
  | moved old record hget hmanifest hmoves hcurrent hproven =>
    refine ⟨fun key r hr => ?_,fun tenantRef graphRef generationId hg => ?_,fun key r hr hdeleted => ?_⟩
    · rw [put_get] at hr
      split_ifs at hr with hkey
      · cases hr
        exact hkey
      · exact hs.keyed key r hr
    · obtain ⟨r,hr,hractive⟩ := hs.current tenantRef graphRef generationId hg
      have hne : (tenantRef,graphRef,generationId) ≠ record.manifest.recordKey := by
        intro heq
        unfold get at hget
        rw [← heq,hr,Option.some_inj] at hget
        obtain ⟨rfl,hrest⟩ := Prod.mk.inj heq
        obtain ⟨rfl,rfl⟩ := Prod.mk.inj hrest
        exact hcurrent (hget ▸ hractive) hg
      exact ⟨r,(put_get s record _).trans ((if_neg hne).trans hr),hractive⟩
    · rw [put_get] at hr
      split_ifs at hr with hkey
      · cases hr
        exact hproven hdeleted
      · exact hs.deleted key r hr hdeleted

structure Follows (s t : Catalog) : Prop where
  records : ∀ key record, s.records.get key = some record → ∃ later, t.records.get key = some later ∧
    later.manifest = record.manifest ∧ Relation.ReflTransGen Moves record.state later.state
  retired : ∀ tenantRef graphRef generationId, s.records.get (tenantRef,graphRef,generationId) ≠ none →
    s.current.get (tenantRef,graphRef) ≠ some generationId → t.current.get (tenantRef,graphRef) ≠ some generationId

theorem Follows.refl (s : Catalog) : Follows s s :=
  ⟨fun _ record hget => ⟨record,hget,rfl,.refl⟩,fun _ _ _ _ h => h⟩

theorem Follows.trans {u : Catalog} (hst : Follows s t) (htu : Follows t u) : Follows s u := by
  refine ⟨fun key record hget => ?_,fun tenantRef graphRef generationId hknown hnot => ?_⟩
  · obtain ⟨later,hlater,hmanifest,hmoves⟩ := hst.records key record hget
    obtain ⟨last,hlast,hmanifest',hmoves'⟩ := htu.records key later hlater
    exact ⟨last,hlast,hmanifest'.trans hmanifest,hmoves.trans hmoves'⟩
  · obtain ⟨record,hrecord⟩ := Option.ne_none_iff_exists'.mp hknown
    obtain ⟨later,hlater,-⟩ := hst.records _ record hrecord
    refine htu.retired tenantRef graphRef generationId ?_ (hst.retired _ _ _ hknown hnot)
    rw [hlater]
    exact Option.some_ne_none _

theorem follows_of_leaves (h : Leaves s t) : Follows s t := by
  cases h with
  | same => exact .refl s
  | published record hactive hnew =>
    refine ⟨fun key r hget => ?_,fun tenantRef graphRef generationId hknown hnot hcurrent => ?_⟩
    · have hne : key ≠ record.manifest.recordKey := by
        rintro rfl
        exact Option.some_ne_none _ (hget.symm.trans hnew)
      exact ⟨r,(put_get s record key).trans ((if_neg hne).trans hget),rfl,.refl⟩
    · have hcurrent : (s.current.set record.manifest.key record.manifest.generationId.1).get (tenantRef,graphRef) =
        some generationId := hcurrent
      rw [Dict.get_set] at hcurrent
      split_ifs at hcurrent with hkey
      · cases hcurrent
        obtain ⟨rfl,rfl⟩ := Prod.mk.inj hkey
        exact hknown hnew
      · exact hnot hcurrent
  | moved old record hget hmanifest hmoves hcurrent hproven =>
    refine ⟨fun key r hr => ?_,fun _ _ _ _ hnot => hnot⟩
    by_cases hkey : key = record.manifest.recordKey
    · subst hkey
      cases hget.symm.trans hr
      exact ⟨record,(put_get s record _).trans (if_pos rfl),hmanifest.symm,.single hmoves⟩
    · exact ⟨r,(put_get s record key).trans ((if_neg hkey).trans hr),rfl,.refl⟩

section
variable {ι : Type} [DecidableEq ι] {log rest : List (ι × Event Call Call.Answer)}
  {c d : Pool ι Call Call.Answer Raised GenerationRecord Catalog}

theorem sound_steps (h : Pool.Steps Serves c log d) (hc : Sound c.state) : Sound d.state := by
  induction h with
  | refl => exact hc
  | tail _ _ hw ih => exact ih.leaves (serves_leaves hw)

theorem follows_steps (h : Pool.Steps Serves c log d) : Follows c.state d.state := by
  induction h with
  | refl => exact .refl _
  | tail _ _ hw ih => exact ih.trans (follows_of_leaves (serves_leaves hw))

theorem deleted_last {state : GenerationState} (h : Relation.ReflTransGen Moves .deleted state) : state = .deleted := by
  induction h with
  | refl => rfl
  | tail _ hmove ih =>
    rw [ih] at hmove
    cases hmove

theorem Follows.deleted {generation : GenerationManifest} (h : Follows s t)
    (hs : ∃ record, s.get generation = some record ∧ record.manifest = generation ∧ record.state = .deleted) :
    ∃ record, t.get generation = some record ∧ record.manifest = generation ∧ record.state = .deleted := by
  obtain ⟨record,hget,hmanifest,hstate⟩ := hs
  obtain ⟨later,hlater,hsame,hmoves⟩ := h.records _ record hget
  rw [hstate] at hmoves
  exact ⟨later,hlater,hsame.trans hmanifest,deleted_last hmoves⟩

def Finished (generation : GenerationManifest) (events : List (Event Call Call.Answer)) : Prop :=
  ∃ checkpoint record, (⟨.finishCleanup generation checkpoint,.ok record⟩ : Event Call Call.Answer) ∈ events

theorem finished_deleted {i : ι} {generation : GenerationManifest} (h : Pool.Steps Serves c log d)
    (hfinished : Finished generation (Pool.own i log)) :
    ∃ record, d.state.get generation = some record ∧ record.manifest = generation ∧ record.state = .deleted := by
  induction h with
  | refl =>
    obtain ⟨checkpoint,record,hmem⟩ := hfinished
    cases hmem
  | @tail log d j e k r s' hsteps hp hw ih =>
    obtain ⟨checkpoint,record,hmem⟩ := hfinished
    rw [Pool.own_append,Pool.own_single,List.mem_append] at hmem
    rcases hmem with hearlier | hlast
    · exact (follows_of_leaves (serves_leaves hw)).deleted (ih ⟨checkpoint,record,hearlier⟩)
    · split_ifs at hlast with hj
      · rw [List.mem_singleton] at hlast
        cases hlast
        generalize hr : (Except.ok record : Except Raised GenerationRecord) = r at hw
        cases hw with
        | finishCleanup =>
          rcases finishCleanup_cases d.state generation checkpoint with ⟨x,hx⟩ | ⟨old,deleted,hdeleted,rfl,hstate,-⟩
          · rw [hx] at hr
            cases hr
          · rw [hdeleted]
            exact ⟨deleted,(put_get _ _ _).trans (if_pos rfl),rfl,hstate⟩
      · cases hlast

end

end Catalog

namespace GenerationLifecycle
open Catalog

section
variable {α β : Type} {P : List (Event Call Call.Answer) → Prop}

def Returns (P : List (Event Call Call.Answer) → Prop) (p : Step α) : Prop :=
  ∀ own, p.Meets Prog.record (fun _ _ => True) (fun own _ => P own) (fun _ _ => True) own

theorem returns_raise (x : Raised) : Returns P (.raise x : Step α) := fun _ => trivial
theorem returns_call {e : Call} {k : e.Answer → Step α} (hk : ∀ r, Returns P (k r)) : Returns P (.call e k) :=
  fun _ => ⟨trivial,fun r _ _ => hk r _⟩

theorem returns_true (p : Step α) : Returns (fun _ => True) p := by
  induction p with
  | ret a => exact fun _ => trivial
  | raise x => exact fun _ => trivial
  | call e k ih => exact returns_call ih

theorem returns_bind (p : Step α) {f : α → Step β} (hf : ∀ a, Returns P (f a)) : Returns P (p.bind f) :=
  fun own => (returns_true p own).seq fun own a _ => hf a own
theorem returns_after {p : Step α} (hp : Returns P p) (b : β) : Returns P (p.bind fun _ => .ret b) :=
  fun own => (hp own).seq fun _ _ hP => hP

theorem returns_handle {p : Step α} {f : Raised → Step α} (hp : Returns P p) (hf : ∀ x, Returns P (f x)) :
    Returns P (p.handle f) :=
  fun own => (Prog.meets_handle p f own).mpr ((hp own).mono (fun _ _ hG => hG) (fun _ _ hQ => hQ) fun own x _ => hf x own)

theorem returns_failCleanup (generation : GenerationManifest) (report : CleanupReport) :
    Returns P (failCleanup generation report : Step α) := by
  have hrecorded : ∀ checkpoint, Returns P (failCleanup.recorded generation checkpoint : Step α) := by
    intro checkpoint
    refine returns_call fun recorded => ?_
    cases recorded with
    | ok record => exact returns_raise _
    | error x => exact returns_raise _
  cases report with
  | checkpoint checkpoint => exact hrecorded (some checkpoint)
  | nothing => exact hrecorded none
  | foreign => exact returns_raise _

theorem returns_onError (generation : GenerationManifest) (report : CleanupReport) (x : Raised) :
    Returns P (onError generation report x : Step α) := by
  unfold onError
  split_ifs
  · exact returns_raise x
  · exact returns_failCleanup generation report

theorem returns_cleanup (generation : GenerationManifest) : Returns (Finished generation) (cleanup generation) := by
  refine returns_bind _ fun _ => returns_call fun answer => ?_
  cases answer with
  | error x => exact returns_onError generation .nothing x
  | ok report =>
    refine returns_handle (returns_bind _ fun checkpoint => ?_) (returns_onError generation report)
    intro own
    refine ⟨trivial,fun r own' hown => ?_⟩
    cases r with
    | ok record =>
      have hlast : own' = own ++ [⟨.finishCleanup generation checkpoint,.ok record⟩] := hown
      rw [hlast]
      exact ⟨checkpoint,record,List.mem_append_right _ List.mem_cons_self⟩
    | error x => exact trivial

theorem returns_reembed (oldGeneration newGeneration : GenerationManifest) :
    Returns (Finished oldGeneration) (reembed oldGeneration newGeneration) := by
  unfold reembed
  split_ifs
  · exact returns_raise _
  · refine returns_call fun current => ?_
    split_ifs
    · exact returns_raise _
    · exact returns_bind _ fun published => returns_call fun retired => returns_bind _ fun _ =>
        returns_after (returns_cleanup oldGeneration) published

end

section
open GovernedRetriever.Fixture (manifest index model)

namespace Fixture

def nextGeneration : StableId := ⟨"generation:two",by decide +kernel⟩

def next : GenerationManifest :=
  {manifest with
    generationId := nextGeneration
    indexRef := {index with generationId := nextGeneration, exactGeneration := by decide +kernel}
    exactGeneration := by decide +kernel
    indexGeneration := rfl}

def counted (g : GenerationManifest) : CleanupCheckpoint where
  tenantRef := g.tenantRef
  graphRef := g.graphRef
  generationId := g.generationId
  indexRef := g.indexRef
  checkpointId := ⟨"checkpoint:one",by decide +kernel⟩
  expectedVectors := ⟨g.expectedChunks.1,g.expectedChunks.2.2⟩
  deletedVectors := ⟨g.expectedChunks.1,g.expectedChunks.2.2⟩
  remainingVectors := ⟨0,Nat.zero_le maxIndexChunks⟩
  complete := true
  recordedAt := 100
  indexTenant := g.indexTenant
  indexGraph := g.indexGraph
  indexGeneration := g.indexGeneration
  accounting := Nat.add_zero _
  completion := ⟨fun _ => ⟨rfl,rfl⟩,fun _ => rfl⟩

def respond (s : Catalog) : (e : Call) → e.Answer × Catalog
  | .current tenantRef graphRef => (s.currentRecord tenantRef graphRef,s)
  | .get g => (s.get g,s)
  | .publish g expectedCurrent => s.publish g expectedCurrent
  | .retire g => s.retire g
  | .finishCleanup g checkpoint => s.finishCleanup g checkpoint
  | .failCleanup g checkpoint => s.failCleanup g checkpoint
  | .cleanupGeneration g =>
    if (s.get g).any (·.state = .retiring) then (.error ⟨.adapter,"engine_unavailable"⟩,s)
    else (.ok (.checkpoint (counted g)),s)

theorem respond_serves (s : Catalog) (e : Call) : Serves s e (respond s e).1 (respond s e).2 := by
  cases e with
  | cleanupGeneration g =>
    have hsame : (respond s (.cleanupGeneration g)).2 = s := by
      rw [respond]
      split_ifs
      · rfl
      · rfl
    rw [hsame]
    exact .cleanupGeneration _ _ _
  | _ => constructor

def calls : Fin 3 → LifecycleCall
  | 0 => .publish manifest none
  | 1 => .reembed manifest next
  | 2 => .cleanup manifest

def start : Pool (Fin 3) Call Call.Answer Raised GenerationRecord Catalog := ⟨Catalog.empty,fun i => (calls i).run⟩

/-- The replacement goes on when the other cleanup has failed, and finishes the deletion. -/
def run := Pool.drive respond [0,1,1,1,2,2,2,1,1,1] start

end Fixture
end

end GenerationLifecycle
end Arbora.Retrieval
