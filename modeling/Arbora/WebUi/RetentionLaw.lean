import Arbora.WebUi.Effects

/-! Retention and legal holds over whole histories of calls. -/
namespace Arbora.WebUi
open Guards Machine
open PolicyPlane (OpaqueRef)

def standing (s : InMemoryWebUiRepository) (key : Key) : RetentionRecord :=
  (s.retention.get key).getD (initialRecord key 0)
def Held (s : InMemoryWebUiRepository) (key : Key) : Prop := (standing s key).state = .legalHold

instance (s : InMemoryWebUiRepository) (key : Key) : Decidable (Held s key) := by
  unfold Held
  infer_instance

/-- Two records that differ at most in when they took effect. -/
structure Alike (r r' : RetentionRecord) : Prop where
  state : r.state = r'.state
  version : r.version = r'.version
  legalHoldRef : r.legalHoldRef = r'.legalHoldRef
  resumeState : r.resumeState = r'.resumeState

theorem Alike.refl (r : RetentionRecord) : Alike r r := ⟨rfl,rfl,rfl,rfl⟩

/-- The steps of a life, and into a hold and out of it. -/
inductive Moves : LifecycleState → LifecycleState → Prop
  | retain : Moves .active .retained
  | expire : Moves .retained .deletionPending
  | discard : Moves .active .deletionPending
  | delete : Moves .deletionPending .deleted
  | hold (resume : RetentionResumeState) : Moves resume.state .legalHold
  | lift (resume : RetentionResumeState) : Moves .legalHold resume.state

theorem not_moves_deleted {state : LifecycleState} : ¬ Moves .deleted state := by
  generalize hfrom : LifecycleState.deleted = source
  intro h
  cases h with
  | hold resume => cases resume <;> cases hfrom
  | _ => cases hfrom

theorem not_moves_held_deleted : ¬ Moves .legalHold .deleted := by
  generalize hfrom : LifecycleState.legalHold = source
  generalize hto : LifecycleState.deleted = target
  intro h
  cases h with
  | lift resume => cases resume <;> cases hto
  | hold resume => cases hto
  | delete => cases hfrom
  | _ => cases hto

def NamesEntity (request : Request) (key : Key) (version : ℕ) : Prop :=
  ∃ entity context, request.call = .put entity context (some (version : ℤ)) ∧ keyFor entity context = key

def NamesRecord (request : Request) (key : Key) (version : ℕ) : Prop :=
  ∃ entityKind entityRef target legalHoldRef, request.call = .transitionRetention entityKind entityRef
    request.call.context version target legalHoldRef ∧ kindOf entityKind = some key.entityKind ∧
    refOf entityRef = some key.entityRef ∧ key.within request.call.context

def Answer.entities : Answer → List WebUiEntity
  | .entity e => [e]
  | .page p => p.items
  | .nothing | .retention _ => []

structure Lawful (s : InMemoryWebUiRepository) (request : Request) : Prop where
  entities : ∀ key entity, s.entities.get key = some entity → ∃ entity',
    (step s request).2.entities.get key = some entity' ∧ (entity' = entity ∨
      entity'.version.1 = entity.version.1+1 ∧ NamesEntity request key entity.version.1)
  retention : ∀ key, Alike (standing (step s request).2 key) (standing s key) ∨
    Moves (standing s key).state (standing (step s request).2 key).state ∧
      (standing (step s request).2 key).version.1 = (standing s key).version.1+1 ∧
      NamesRecord request key (standing s key).version.1
  spared : ∀ key, Held s key → (standing (step s request).2 key).state ≠ .deleted
  deleted : ∀ key, (standing s key).state = .deleted →
    (step s request).2.retention.get key = s.retention.get key ∧
      (step s request).2.entities.get key = s.entities.get key
  hidden : ∀ answer, (step s request).1 = .ok answer → ∀ entity ∈ answer.entities,
    (standing s (keyFor entity request.call.context)).state ≠ .deleted

/-- A hold is placed and lifted by an administrator only. -/
def HoldsAreAdmins (s : InMemoryWebUiRepository) (request : Request) : Prop :=
  ∀ key, (Held s key ↔ Held (step s request).2 key) ∨ request.call.context.allows .admin = true

def LiftsWithoutAdmin (s : InMemoryWebUiRepository) (request : Request) : Prop :=
  ∃ entityKind entityRef context target kind ref record, ∃ resume : RetentionResumeState,
    request.call = .transitionRetention entityKind entityRef context record.version.1 target none ∧
      kindOf entityKind = some kind ∧ refOf entityRef = some ref ∧
      s.retention.get ⟨kind,context.tenantRef,context.workspaceRef,ref⟩ = some record ∧
      record.state = .legalHold ∧ record.resumeState = some resume ∧ targetOf target = some resume.state ∧
      resume ≠ .deletionPending ∧ context.allows .write = true ∧ context.allows .admin = false ∧
      record.version.1 < 2147483647 ∧ request.clock.updated.isSome = true

/-- What every reachable repository keeps. -/
structure Kept (s : InMemoryWebUiRepository) : Prop where
  home : ∀ key entity, s.entities.get key = some entity → ∀ context : AccessContext, key.within context →
    keyFor entity context = key
  recorded : ∀ key, s.entities.get key = none → s.retention.get key = none

section
variable {s t : InMemoryWebUiRepository} {key key' : Key}

variable {record : RetentionRecord}

theorem Current.alike (h : Current s key record) : Alike record (standing s key) := by
  unfold standing
  rcases h with h | ⟨h,effectiveAt,rfl⟩
  · rw [h]
    exact .refl record
  · rw [h]
    exact ⟨rfl,rfl,rfl,rfl⟩

theorem standing_setRetention (record : RetentionRecord) :
    standing (setRetention key' record s) key = if key = key' then record else standing s key := by
  unfold standing setRetention
  rw [Dict.get_set]
  split_ifs
  · rfl
  · rfl

theorem Looked.alike (h : Looked s key' t) (key : Key) : Alike (standing t key) (standing s key) := by
  cases h with
  | same => exact .refl _
  | made hnone =>
    rw [standing_setRetention]
    split_ifs with hkey
    · subst hkey
      exact Current.alike (.inr ⟨hnone,_,rfl⟩)
    · exact .refl _

theorem standing_of_none (h : s.retention.get key = none) : (standing s key).state = .active := by
  unfold standing
  rw [h]
  rfl

theorem Looked.retention (h : Looked s key' t) (hkey : s.retention.get key = some record) :
    t.retention.get key = some record := by
  cases h with
  | same => exact hkey
  | made hnone => exact Dict.get_set_new hkey hnone

theorem Transition.moves {current : RetentionRecord} {state : LifecycleState} {hold : Option OpaqueRef} {next : Next}
    (h : Transition current state hold next) : Moves current.state next.state := by
  cases h with
  | place h =>
    rw [h]
    exact .hold _
  | release hheld _ =>
    rw [hheld]
    exact .lift _
  | standard h =>
    generalize current.state = source at h
    unfold standardNext at h
    split at h
    · cases h
      exact .retain
    · cases h
      exact .discard
    · cases h
      exact .expire
    · cases h
      exact .delete
    · cases h

end

section
variable {s : InMemoryWebUiRepository} {request : Request}

theorem lawful_entities {t : InMemoryWebUiRepository} (h : Effect s request t) :
    ∀ key entity, s.entities.get key = some entity → ∃ entity', t.entities.get key = some entity' ∧
      (entity' = entity ∨ entity'.version.1 = entity.version.1+1 ∧ NamesEntity request key entity.version.1) := by
  intro key entity hget
  cases h with
  | idle => exact ⟨entity,hget,.inl rfl⟩
  | looked hkey hpresent hlooked =>
    rw [hlooked.entities]
    exact ⟨entity,hget,.inl rfl⟩
  | moved _ _ _ _ _ hmoved => exact ⟨entity,hget,.inl rfl⟩
  | @stored new context expectedVersion clock u hkey hswap hlooked =>
    unfold setEntity
    rw [hlooked.entities,Dict.get_set]
    split_ifs with hsame
    · subst hsame
      rcases hswap with ⟨hnone,_⟩ | ⟨existing,hexisting,hnamed,hnext,_⟩
      · rw [hnone] at hget
        cases hget
      · cases hexisting.symm.trans hget
        exact ⟨new,rfl,.inr ⟨hnext,new,context,congrArg _ hnamed,rfl⟩⟩
    · exact ⟨entity,hget,.inl rfl⟩

theorem lawful_retention {t : InMemoryWebUiRepository} (h : Effect s request t) :
    ∀ key, Alike (standing t key) (standing s key) ∨ Moves (standing s key).state (standing t key).state ∧
        (standing t key).version.1 = (standing s key).version.1+1 ∧
        NamesRecord request key (standing s key).version.1 := by
  intro key
  cases h with
  | idle => exact .inl (.refl _)
  | looked hkey hpresent hlooked => exact .inl (hlooked.alike key)
  | stored hkey hswap hlooked => exact .inl (hlooked.alike key)
  | @moved entityKind entityRef target context expectedVersion clock legalHoldRef kind ref state hold updated hkind href
      htarget _ _ hmoved =>
    obtain ⟨current,next,effectiveAt,hcurrent,hversion,_,htransition,hbuild⟩ := hmoved.found
    obtain ⟨hstate,hnext,_⟩ := buildRecord_eq hbuild
    rw [standing_setRetention]
    split_ifs with hkey
    · subst hkey
      rw [← hcurrent.alike.state,← hcurrent.alike.version,hstate]
      refine .inr ⟨htransition.moves,hnext,entityKind,entityRef,target,legalHoldRef,?_,hkind,href,rfl,rfl⟩
      rw [hversion]
      rfl
    · exact .inl (.refl _)

theorem retention_of_deleted {key : Key} (h : (standing s key).state = .deleted) :
    s.retention.get key = some (standing s key) := by
  cases hget : s.retention.get key with
  | none =>
    rw [standing_of_none hget] at h
    cases h
  | some record =>
    unfold standing
    rw [hget]
    rfl

theorem lawful_deleted {t : InMemoryWebUiRepository} (hkept : Kept s) (h : Effect s request t) :
    ∀ key, (standing s key).state = .deleted →
      t.retention.get key = s.retention.get key ∧ t.entities.get key = s.entities.get key := by
  intro key hdeleted
  have hrecord := retention_of_deleted hdeleted
  cases h with
  | idle => exact ⟨rfl,rfl⟩
  | looked hkey hpresent hlooked => exact ⟨(hlooked.retention hrecord).trans hrecord.symm,by rw [hlooked.entities]⟩
  | @stored entity context expectedVersion clock u hkey hswap hlooked =>
    have hne : key ≠ keyFor entity context := by
      rintro rfl
      rcases hswap with ⟨hnone,_⟩ | ⟨_,_,_,_,record,hcurrent,halive⟩
      · rw [hkept.recorded _ hnone] at hrecord
        cases hrecord
      · exact halive (hcurrent.alike.state.trans hdeleted)
    refine ⟨(hlooked.retention hrecord).trans hrecord.symm,?_⟩
    unfold setEntity
    rw [Dict.get_set_ne _ _ hne,hlooked.entities]
  | @moved entityKind entityRef target context expectedVersion clock legalHoldRef kind ref state hold updated hkind href
      htarget _ _ hmoved =>
    obtain ⟨current,next,effectiveAt,hcurrent,_,_,htransition,_⟩ := hmoved.found
    refine ⟨Dict.get_set_ne _ _ ?_,rfl⟩
    rintro rfl
    have hmoves := htransition.moves
    rw [hcurrent.alike.state,hdeleted] at hmoves
    exact not_moves_deleted hmoves

variable {e : WebUiEntity} {answer : Answer} {entityKind : String} {context : AccessContext}

theorem storeEntity_ok {entity : WebUiEntity} {clock : Clock} {t : InMemoryWebUiRepository}
    (h : (storeEntity key entity clock).run s = .ok e t) : e = entity ∧ t.entities.get key = some entity := by
  obtain ⟨u,_,rfl⟩ := ends_storeEntity (.inl ⟨e,h⟩)
  obtain ⟨_,_,_,h⟩ := bind_ok.mp (modify_bind_ok.mp h)
  exact ⟨(pure_ok.mp h).1,Dict.get_set_self ..⟩

theorem put_ok (hkept : Kept s) {entity : WebUiEntity} {expectedVersion : Option ℤ}
    {clock : Clock} {t : InMemoryWebUiRepository} (h : (put entity context expectedVersion clock).run s = .ok e t) :
    e = entity ∧ t.entities.get (keyFor entity context) = some entity ∧
      (standing s (keyFor entity context)).state ≠ .deleted := by
  obtain ⟨_,h⟩ := refuse_bind_ok.mp h
  obtain ⟨_,h⟩ := requireContext_bind_ok.mp h
  obtain ⟨ref,href,h⟩ := found_bind_ok.mp h
  cases (refOf_coe entity.entityRef).symm.trans href
  obtain ⟨_,_,h⟩ := requireScope_bind_ok.mp h
  obtain ⟨_,h⟩ := refuse_bind_ok.mp h
  rw [get_bind_ok] at h
  cases hget : s.entities.get (keyFor entity context) with
  | none =>
    have hfound := hget
    unfold keyFor at hfound
    simp only [hfound] at h
    obtain ⟨hsaved,hstored⟩ := storeEntity_ok (refuse_bind_ok.mp h).2
    rw [standing_of_none (hkept.recorded _ hget)]
    exact ⟨hsaved,hstored,by decide⟩
  | some existing =>
    have hfound := hget
    unfold keyFor at hfound
    simp only [hfound] at h
    obtain ⟨record,u,hrecord,h⟩ := bind_ok.mp h
    obtain ⟨hcurrent,_,_,hentities⟩ := retentionFor_ok hrecord
    obtain ⟨halive,h⟩ := refuse_bind_ok.mp h
    replace halive := fun hdeleted => halive (hcurrent.alike.state.trans hdeleted)
    split_ifs at h with hsame
    · obtain ⟨rfl,rfl⟩ := pure_ok.mp h
      exact ⟨hsame.1,by rw [hentities,hget,hsame.1],halive⟩
    · obtain ⟨hsaved,hstored⟩ := storeEntity_ok (refuse_bind_ok.mp (refuse_bind_ok.mp h).2).2
      exact ⟨hsaved,hstored,halive⟩

theorem getEntity_ok {entityRef : String} {a : Option WebUiEntity} {t : InMemoryWebUiRepository}
    (h : (getEntity entityKind entityRef context).run s = .ok a t) :
    ∃ kind ref, kindOf entityKind = some kind ∧ refOf entityRef = some ref ∧
      s.entities.get ⟨kind,context.tenantRef,context.workspaceRef,ref⟩ = a ∧
      (a ≠ none → (standing s ⟨kind,context.tenantRef,context.workspaceRef,ref⟩).state ≠ .deleted) := by
  obtain ⟨kind,hkind,h⟩ := found_bind_ok.mp h
  obtain ⟨ref,href,h⟩ := found_bind_ok.mp h
  obtain ⟨_,h⟩ := requireContext_bind_ok.mp h
  obtain ⟨_,_,h⟩ := requireScope_bind_ok.mp h
  rw [get_bind_ok] at h
  refine ⟨kind,ref,hkind,href,?_⟩
  cases hget : s.entities.get ⟨kind,context.tenantRef,context.workspaceRef,ref⟩ with
  | none =>
    rw [hget] at h
    cases (pure_ok.mp h).1
    exact ⟨rfl,absurd rfl⟩
  | some entity =>
    rw [hget] at h
    obtain ⟨halive,h⟩ := refuse_bind_ok.mp h
    cases (pure_ok.mp h).1
    refine ⟨rfl,fun _ hdeleted => halive ?_⟩
    rw [retention_of_deleted hdeleted]
    exact decide_eq_true hdeleted

theorem mem_pageRows {kind : EntityKind} {tenantRef workspaceRef : OpaqueRef} {row : String × WebUiEntity} :
    row ∈ pageRows s kind tenantRef workspaceRef ↔ ∃ ref : OpaqueRef, ref.1 = row.1 ∧
      s.entities.get ⟨kind,tenantRef,workspaceRef,ref⟩ = some row.2 ∧
      (s.retention.get ⟨kind,tenantRef,workspaceRef,ref⟩).all (·.state ≠ .deleted) = true := by
  unfold pageRows
  rw [Keyset.mem_sortBy,List.mem_filterMap]
  constructor
  · rintro ⟨⟨kind',tenant',workspace',ref⟩,_,hrow⟩
    split_ifs at hrow with hmatch
    obtain ⟨rfl,rfl,rfl,halive⟩ := hmatch
    obtain ⟨entity,hget,rfl⟩ := Option.map_eq_some_iff.mp hrow
    exact ⟨ref,rfl,hget,halive⟩
  · rintro ⟨ref,href,hget,halive⟩
    refine ⟨⟨kind,tenantRef,workspaceRef,ref⟩,Dict.mem_keys.mpr (by rw [hget]; exact Option.some_ne_none _),?_⟩
    rw [if_pos ⟨rfl,rfl,rfl,halive⟩,hget,Option.map_some,href]

theorem page_ok {request : PageRequest} {p : Page}
    {t : InMemoryWebUiRepository} (h : (page entityKind context request).run s = .ok p t) :
    ∃ kind, ∀ e ∈ p.items, ∃ ref, (ref,e) ∈ pageRows s kind context.tenantRef context.workspaceRef := by
  obtain ⟨kind,_,h⟩ := found_bind_ok.mp h
  obtain ⟨_,h⟩ := refuse_bind_ok.mp h
  obtain ⟨_,h⟩ := requireContext_bind_ok.mp h
  obtain ⟨_,_,h⟩ := requireScope_bind_ok.mp h
  obtain ⟨rfl,_⟩ := pure_ok.mp h
  refine ⟨kind,?_⟩
  intro e he
  obtain ⟨row,hrow,rfl⟩ := List.mem_map.mp he
  exact ⟨row.1,List.mem_of_mem_drop (List.mem_of_mem_take hrow)⟩

theorem run_of_step {request : Request} (h : (step s request).1 = .ok answer) :
    ∃ t, request.run.run s = .ok answer t := by
  unfold step at h
  cases hrun : request.run.run s with
  | ok a t =>
    rw [hrun] at h
    cases h
    exact ⟨t,rfl⟩
  | error e t =>
    rw [hrun] at h
    cases h

theorem lawful_hidden (hkept : Kept s) (h : (step s request).1 = .ok answer) :
    ∀ entity ∈ answer.entities, (standing s (keyFor entity request.call.context)).state ≠ .deleted := by
  intro e he
  obtain ⟨t,hrun⟩ := run_of_step h
  obtain ⟨call,clock⟩ := request
  cases call with
  | put entity context expectedVersion =>
    obtain ⟨a,ha,rfl⟩ := map_ok.mp hrun
    cases List.mem_singleton.mp he
    obtain ⟨rfl,_,halive⟩ := put_ok hkept ha
    exact halive
  | get entityKind entityRef context =>
    obtain ⟨a,ha,rfl⟩ := map_ok.mp hrun
    cases a with
    | none => cases he
    | some a =>
      cases List.mem_singleton.mp he
      obtain ⟨kind,ref,_,_,hget,halive⟩ := getEntity_ok ha
      change (standing s (keyFor e context)).state ≠ .deleted
      rw [hkept.home _ _ hget context ⟨rfl,rfl⟩]
      exact halive (Option.some_ne_none e)
  | page entityKind context pageRequest =>
    obtain ⟨a,ha,rfl⟩ := map_ok.mp hrun
    obtain ⟨kind,hrows⟩ := page_ok ha
    obtain ⟨ref,hrow⟩ := hrows e he
    obtain ⟨ref,_,hget,halive⟩ := mem_pageRows.mp hrow
    change (standing s (keyFor e context)).state ≠ .deleted
    rw [hkept.home _ _ hget context ⟨rfl,rfl⟩]
    intro hdeleted
    rw [retention_of_deleted hdeleted,Option.all_some,decide_eq_true_eq] at halive
    exact halive hdeleted
  | transitionRetention entityKind entityRef context expectedVersion target legalHoldRef =>
    obtain ⟨a,_,rfl⟩ := map_ok.mp hrun
    cases he

theorem kept_effect {t : InMemoryWebUiRepository} (hkept : Kept s) (h : Effect s request t) : Kept t := by
  cases h with
  | idle => exact hkept
  | @looked _ key u hkey hpresent hlooked =>
    refine ⟨by rw [hlooked.entities]; exact hkept.home,?_⟩
    intro key' hnone
    cases hlooked with
    | same => exact hkept.recorded key' hnone
    | made _ =>
      have hne : key' ≠ key := fun heq => hpresent (heq ▸ hnone)
      exact (Dict.get_set_ne _ _ hne).trans (hkept.recorded key' hnone)
  | @stored entity context expectedVersion clock u hkey hswap hlooked =>
    refine ⟨?_,?_⟩
    · intro key e hget other hother
      unfold setEntity at hget
      rw [hlooked.entities,Dict.get_set] at hget
      split_ifs at hget with hsame
      · subst hsame
        cases hget
        unfold keyFor
        rw [← hother.2,hkey.2]
      · exact hkept.home key e hget other hother
    · intro key hnone
      unfold setEntity at hnone ⊢
      rw [hlooked.entities,Dict.get_set] at hnone
      split_ifs at hnone with hsame
      cases hlooked with
      | same => exact hkept.recorded key hnone
      | made _ => exact (Dict.get_set_ne _ _ hsame).trans (hkept.recorded key hnone)
  | @moved entityKind entityRef target context expectedVersion clock legalHoldRef kind ref state hold updated hkind href
      htarget _ _ hmoved =>
    refine ⟨hkept.home,?_⟩
    intro key hnone
    have hne : key ≠ ⟨kind,context.tenantRef,context.workspaceRef,ref⟩ := fun heq => hmoved.present (heq ▸ hnone)
    exact (Dict.get_set_ne _ _ hne).trans (hkept.recorded key hnone)

theorem kept_step (hkept : Kept s) (request : Request) : Kept (step s request).2 :=
  kept_effect hkept (step_effect s request)

theorem kept_empty : Kept .empty := by
  refine ⟨?_,fun key _ => Dict.get_empty key⟩
  intro key entity hget
  cases hget

theorem kept_after (hs : Kept s) (requests : List Request) : Kept (after step s requests) := by
  induction requests generalizing s with
  | nil => exact hs
  | cons request requests ih => exact ih (kept_step hs request)

theorem lawful_spared {t : InMemoryWebUiRepository} (h : Effect s request t) :
    ∀ key, Held s key → (standing t key).state ≠ .deleted := by
  intro key hheld hdeleted
  rcases lawful_retention h key with halike | ⟨hmoves,_⟩
  · exact absurd (hheld.symm.trans (halike.state.symm.trans hdeleted)) (by decide)
  · rw [hheld,hdeleted] at hmoves
    exact not_moves_held_deleted hmoves

theorem lawful_step (hkept : Kept s) (request : Request) : Lawful s request :=
  ⟨lawful_entities (step_effect s request),lawful_retention (step_effect s request),
    lawful_spared (step_effect s request),lawful_deleted hkept (step_effect s request),
    fun _ h => lawful_hidden hkept h⟩

end

end Arbora.WebUi
