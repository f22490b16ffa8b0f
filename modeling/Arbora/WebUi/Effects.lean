import Arbora.WebUi.Repository

/-! All that a call can do to the repository. -/
namespace Arbora.WebUi
open Guards
open PolicyPlane (OpaqueRef)

def Key.within (key : Key) (context : AccessContext) : Prop :=
  key.tenantRef = context.tenantRef ∧ key.workspaceRef = context.workspaceRef
def keyFor (entity : WebUiEntity) (context : AccessContext) : Key :=
  ⟨entity.entityKind,entity.tenantRef,entity.workspaceRef.getD context.workspaceRef,entity.entityRef⟩
def Current (s : InMemoryWebUiRepository) (key : Key) (record : RetentionRecord) : Prop :=
  s.retention.get key = some record ∨ s.retention.get key = none ∧ ∃ effectiveAt, record = initialRecord key effectiveAt

inductive Transition (current : RetentionRecord) : LifecycleState → Option OpaqueRef → Next → Prop
  | place {ref : OpaqueRef} {resume : RetentionResumeState} (h : current.state = resume.state) :
      Transition current .legalHold (some ref) ⟨.legalHold,ref,resume⟩
  | release {resume : RetentionResumeState} (hheld : current.state = .legalHold) (h : current.resumeState = some resume) :
      Transition current resume.state none ⟨resume.state,none,none⟩
  | standard {target : LifecycleState} {hold : Option OpaqueRef} (h : standardNext current.state target = some target) :
      Transition current target hold ⟨target,none,none⟩

/-- The call names the current version of an entity that is stored anew, or stores its first. -/
def Swaps (s : InMemoryWebUiRepository) (key : Key) (entity : WebUiEntity) (expectedVersion : Option ℤ) : Prop :=
  s.entities.get key = none ∧ expectedVersion = none ∧ entity.version.1 = 1 ∨
    ∃ existing, s.entities.get key = some existing ∧ expectedVersion = some (existing.version.1 : ℤ) ∧
      entity.version.1 = existing.version.1+1 ∧ ∃ record, Current s key record ∧ record.state ≠ .deleted

inductive Looked (s : InMemoryWebUiRepository) (key : Key) : InMemoryWebUiRepository → Prop
  | same : Looked s key s
  | made {effectiveAt : ℕ} (h : s.retention.get key = none) :
      Looked s key (setRetention key (initialRecord key effectiveAt) s)

structure Moved (s : InMemoryWebUiRepository) (key : Key) (context : AccessContext) (expectedVersion : ℤ)
    (state : LifecycleState) (hold : Option OpaqueRef) (updated : RetentionRecord) : Prop where
  present : s.entities.get key ≠ none
  permitted : context.allows (retentionPermission state) = true
  found : ∃ current next effectiveAt, Current s key current ∧ (current.version.1 : ℤ) = expectedVersion ∧
    state ≠ current.state ∧ Transition current state hold next ∧ buildRecord current next effectiveAt = some updated

inductive Effect (s : InMemoryWebUiRepository) : Request → InMemoryWebUiRepository → Prop
  | looked {request : Request} {key : Key} {t : InMemoryWebUiRepository} (hkey : key.within request.call.context)
      (hpresent : s.entities.get key ≠ none) (h : Looked s key t) : Effect s request t
  | idle {request : Request} : Effect s request s
  | stored {entity : WebUiEntity} {context : AccessContext} {expectedVersion : Option ℤ} {clock : Clock}
      {t : InMemoryWebUiRepository} (hkey : (keyFor entity context).within context)
      (hswap : Swaps s (keyFor entity context) entity expectedVersion) (h : Looked s (keyFor entity context) t) :
      Effect s ⟨.put entity context expectedVersion,clock⟩ (setEntity (keyFor entity context) entity t)
  | moved {entityKind entityRef target : String} {context : AccessContext} {expectedVersion : ℤ} {clock : Clock}
      {legalHoldRef : Option String} {kind : EntityKind} {ref : OpaqueRef} {state : LifecycleState}
      {hold : Option OpaqueRef} {updated : RetentionRecord} (hkind : kindOf entityKind = some kind)
      (href : refOf entityRef = some ref) (htarget : targetOf target = some state)
      (hhold : hold = none → legalHoldRef = none) (hclock : clock.updated.isSome = true)
      (h : Moved s ⟨kind,context.tenantRef,context.workspaceRef,ref⟩ context expectedVersion state hold updated) :
      Effect s ⟨.transitionRetention entityKind entityRef context expectedVersion target legalHoldRef,clock⟩
        (setRetention ⟨kind,context.tenantRef,context.workspaceRef,ref⟩ updated s)

section
variable {s t : InMemoryWebUiRepository} {key : Key} {clock : Clock} {context : AccessContext}

theorem reads_requireContext (context : AccessContext) (permission : UiPermission) :
    Reads (requireContext context permission) := reads_refuse _ _

theorem reads_requireScope (context : AccessContext) (tenantRef workspaceRef : OpaqueRef) (permission : UiPermission) :
    Reads (requireScope context tenantRef workspaceRef permission) :=
  (reads_requireContext context permission).bind fun _ => reads_refuse _ _

variable {α : Type} {next : Next} {permission : UiPermission} {current updated : RetentionRecord}

theorem requireContext_bind_ok {f : Unit → Op α} {a : α} : (requireContext context permission >>= f).run s = .ok a t ↔
      context.allows permission = true ∧ (f ()).run s = .ok a t := by
  rw [requireContext,refuse_bind_ok,Bool.not_eq_false]

theorem requireScope_bind_ok {tenantRef workspaceRef : OpaqueRef} {f : Unit → Op α} {a : α} :
    (requireScope context tenantRef workspaceRef permission >>= f).run s = .ok a t ↔
      context.allows permission = true ∧ (context.tenantRef = tenantRef ∧ context.workspaceRef = workspaceRef) ∧
        (f ()).run s = .ok a t := by
  rw [requireScope,bind_assoc,requireContext_bind_ok,refuse_bind_ok,not_or,not_not,not_not]

theorem retentionFor_ok {record : RetentionRecord} (h : (retentionFor key clock).run s = .ok record t) :
    Current s key record ∧ Looked s key t ∧ t.retention.get key = some record ∧ t.entities = s.entities := by
  unfold retentionFor at h
  rw [get_bind_ok] at h
  cases hget : s.retention.get key with
  | some current =>
    rw [hget] at h
    obtain ⟨rfl,rfl⟩ := pure_ok.mp h
    exact ⟨.inl hget,.same,hget,rfl⟩
  | none =>
    rw [hget] at h
    obtain ⟨effectiveAt,_,h⟩ := found_bind_ok.mp h
    obtain ⟨rfl,rfl⟩ := pure_ok.mp h
    exact ⟨.inr ⟨hget,effectiveAt,rfl⟩,.made hget,Dict.get_set_self ..,rfl⟩

theorem atomic_retentionFor (key : Key) (clock : Clock) : Atomic (retentionFor key clock) := by
  refine reads_get.atomic_bind fun u => ?_
  cases u.retention.get key with
  | some current => exact (reads_pure current).2
  | none =>
    refine (reads_found _ _).atomic_bind fun effectiveAt => ?_
    exact (Returns.bind (returns_modify _) fun _ => returns_pure _).atomic

theorem retentionTransition_ok {state : LifecycleState} {hold : Option OpaqueRef} (h :
    (retentionTransition current state hold).run s = .ok next t) : Transition current state hold next ∧ t = s := by
  unfold retentionTransition at h
  split_ifs at h with hplace hheld
  · subst hplace
    obtain ⟨_,h⟩ := refuse_bind_ok.mp h
    obtain ⟨ref,hhold,h⟩ := found_bind_ok.mp h
    obtain ⟨resume,hresume,h⟩ := found_bind_ok.mp h
    obtain ⟨rfl,rfl⟩ := pure_ok.mp h
    subst hhold
    refine ⟨.place ?_,rfl⟩
    unfold resumeStateOf at hresume
    split at hresume <;> cases hresume <;> assumption
  · unfold releaseLegalHold at h
    obtain ⟨hnot,h⟩ := refuse_bind_ok.mp h
    obtain ⟨rfl,rfl⟩ := pure_ok.mp h
    rw [not_or,not_not,not_not,Option.map_eq_some_iff] at hnot
    obtain ⟨rfl,resume,hresume,rfl⟩ := hnot
    exact ⟨.release hheld hresume,rfl⟩
  · unfold standardRetentionTransition at h
    obtain ⟨state',hstate,h⟩ := found_bind_ok.mp h
    obtain ⟨rfl,rfl⟩ := pure_ok.mp h
    have htarget : state' = state := by
      unfold standardNext at hstate
      split at hstate <;> cases hstate <;> rfl
    subst htarget
    exact ⟨.standard hstate,rfl⟩

theorem reads_retentionTransition (current : RetentionRecord) (state : LifecycleState) (hold : Option OpaqueRef) :
    Reads (retentionTransition current state hold) := by
  unfold retentionTransition
  split_ifs
  · exact (reads_refuse _ _).bind fun _ => (reads_found _ _).bind fun _ => (reads_found _ _).bind fun _ => reads_pure _
  · exact (reads_refuse _ _).bind fun _ => reads_pure _
  · exact (reads_found _ _).bind fun _ => reads_pure _

theorem reads_updatedRetention (current : RetentionRecord) (next : Next) (clock : Clock) :
    Reads (updatedRetention current next clock) :=
  (reads_refuse _ _).bind fun _ => (reads_found _ _).bind fun _ => reads_found _ _

theorem updatedRetention_ok (h : (updatedRetention current next clock).run s = .ok updated t) :
    (∃ effectiveAt, buildRecord current next effectiveAt = some updated) ∧ clock.updated.isSome = true := by
  obtain ⟨_,h⟩ := refuse_bind_ok.mp h
  obtain ⟨effectiveAt,hreading,h⟩ := found_bind_ok.mp h
  obtain ⟨now,hnow,_⟩ := Option.map_eq_some_iff.mp hreading
  exact ⟨⟨effectiveAt,(found_ok.mp h).1⟩,by rw [hnow]; rfl⟩

theorem buildRecord_eq {effectiveAt : ℕ} (h : buildRecord current next effectiveAt = some updated) :
    updated.state = next.state ∧ updated.version.1 = current.version.1+1 ∧ updated.resumeState = next.resumeState := by
  unfold buildRecord at h
  split_ifs at h
  cases h
  exact ⟨rfl,rfl,rfl⟩

theorem ends_retentionFor (h : Ends (retentionFor key clock) s t) : Looked s key t := by
  rcases h with ⟨record,h⟩ | ⟨e,h⟩
  · exact (retentionFor_ok h).2.1
  · cases atomic_retentionFor key clock s e t h
    exact .same

end

section
variable {s t : InMemoryWebUiRepository}

theorem refOf_coe (ref : OpaqueRef) : refOf ref.1 = some ref := dif_pos ref.2

theorem Looked.entities {key : Key} (h : Looked s key t) : t.entities = s.entities := by
  cases h with
  | same => rfl
  | made h => rfl

variable {entity : WebUiEntity} {legalHoldRef : Option String}

theorem ends_storeEntity {key : Key} {clock : Clock} (h : Ends (storeEntity key entity clock) s t) :
    ∃ u, Looked s key u ∧ t = setEntity key entity u := by
  have h' := ends_modify_bind h
  have hlooked : Looked (setEntity key entity s) key t := by
    rcases ends_bind h' with ⟨e,hx⟩ | ⟨_,u,hx,hrest⟩
    · exact ends_retentionFor (ends_map (.inr ⟨e,hx⟩))
    · cases (reads_pure entity).ends hrest
      exact ends_retentionFor (ends_map (.inl ⟨_,hx⟩))
  cases hlooked with
  | same => exact ⟨s,.same,rfl⟩
  | made hnone => exact ⟨_,.made hnone,rfl⟩

theorem put_effect {context : AccessContext} {expectedVersion : Option ℤ} {clock : Clock}
    (h : Ends (put entity context expectedVersion clock) s t) :
    Effect s ⟨.put entity context expectedVersion,clock⟩ t := by
  rcases ends_refuse_bind h with rfl | ⟨_,h⟩
  · exact .idle
  rcases (reads_requireContext context .write).ends_bind h with rfl | ⟨_,_,h⟩
  · exact .idle
  rcases ends_found_bind h with rfl | ⟨ref,href,h⟩
  · exact .idle
  cases (refOf_coe entity.entityRef).symm.trans href
  rcases (reads_requireScope context _ _ .write).ends_bind h with rfl | ⟨_,hscope,h⟩
  · exact .idle
  rcases ends_refuse_bind h with rfl | ⟨_,h⟩
  · exact .idle
  have hkey : (keyFor entity context).within context := by
    rw [← bind_pure (requireScope _ _ _ _),requireScope_bind_ok] at hscope
    exact ⟨hscope.2.1.1.symm,hscope.2.1.2.symm⟩
  replace h := ends_get_bind h
  cases hget : s.entities.get (keyFor entity context) with
  | none =>
    have hfound := hget
    unfold keyFor at hfound
    simp only [hfound] at h
    rcases ends_refuse_bind h with rfl | ⟨hfirst,h⟩
    · exact .idle
    rw [not_or,not_not,not_not] at hfirst
    obtain ⟨u,hu,rfl⟩ := ends_storeEntity h
    exact .stored hkey (.inl ⟨hget,hfirst⟩) hu
  | some existing =>
    have hfound := hget
    unfold keyFor at hfound
    simp only [hfound] at h
    have hpresent : s.entities.get (keyFor entity context) ≠ none := by
      rw [hget]
      exact Option.some_ne_none existing
    rcases ends_bind h with ⟨e,hx⟩ | ⟨record,u,hx,h⟩
    · cases atomic_retentionFor _ _ _ _ _ hx
      exact .idle
    obtain ⟨hcurrent,hlooked,hrecord,_⟩ := retentionFor_ok hx
    rcases ends_refuse_bind h with rfl | ⟨halive,h⟩
    · exact .looked hkey hpresent hlooked
    split_ifs at h with hsame
    · cases (reads_pure existing).ends h
      exact .looked hkey hpresent hlooked
    rcases ends_refuse_bind h with rfl | ⟨hnamed,h⟩
    · exact .looked hkey hpresent hlooked
    rcases ends_refuse_bind h with rfl | ⟨hnext,h⟩
    · exact .looked hkey hpresent hlooked
    obtain ⟨v,hv,rfl⟩ := ends_storeEntity h
    cases hv with
    | made hnone =>
      rw [hnone] at hrecord
      cases hrecord
    | same =>
      exact .stored hkey (.inr ⟨existing,hget,not_not.mp hnamed,not_not.mp hnext,record,hcurrent,halive⟩) hlooked

theorem reads_getEntity (entityKind entityRef : String) (context : AccessContext) :
    Reads (getEntity entityKind entityRef context) := by
  refine (reads_found _ _).bind fun kind => (reads_found _ _).bind fun ref =>
    (reads_requireContext _ _).bind fun _ => (reads_requireScope _ _ _ _).bind fun _ => reads_get.bind fun u => ?_
  cases u.entities.get ⟨kind,context.tenantRef,context.workspaceRef,ref⟩ with
  | none => exact reads_pure none
  | some entity => exact (reads_refuse _ _).bind fun _ => reads_pure _

theorem reads_page (entityKind : String) (context : AccessContext) (request : PageRequest) :
    Reads (page entityKind context request) :=
  (reads_found _ _).bind fun _ => (reads_refuse _ _).bind fun _ => (reads_requireContext _ _).bind fun _ =>
    (reads_requireScope _ _ _ _).bind fun _ => reads_get.bind fun _ => reads_pure _

theorem reads_holdOf (legalHoldRef : Option String) : Reads (holdOf legalHoldRef) := by
  cases legalHoldRef with
  | none => exact reads_pure none
  | some text =>
    exact (reads_found _ _).bind fun _ => reads_pure _

theorem holdOf_none {t : InMemoryWebUiRepository}
    (h : (holdOf legalHoldRef).run s = .ok none t) : legalHoldRef = none := by
  cases legalHoldRef with
  | none => rfl
  | some text =>
    obtain ⟨_,_,h⟩ := found_bind_ok.mp h
    cases (pure_ok.mp h).1

theorem reads_sameRetentionState (current : RetentionRecord) (target : LifecycleState) (hold : Option OpaqueRef) :
    Reads (sameRetentionState current target hold) := by
  unfold sameRetentionState
  split_ifs
  · exact (reads_refuse _ _).bind fun _ => reads_pure _
  · exact (reads_refuse _ _).bind fun _ => reads_pure _

theorem transitionRetention_effect {entityKind entityRef target : String} {context : AccessContext} {expectedVersion : ℤ}
    {clock : Clock}
    (h : Ends (transitionRetention entityKind entityRef context expectedVersion target legalHoldRef clock) s t) :
    Effect s ⟨.transitionRetention entityKind entityRef context expectedVersion target legalHoldRef,clock⟩ t := by
  rcases ends_found_bind h with rfl | ⟨kind,hkind,h⟩
  · exact .idle
  rcases ends_found_bind h with rfl | ⟨ref,href,h⟩
  · exact .idle
  rcases ends_refuse_bind h with rfl | ⟨_,h⟩
  · exact .idle
  rcases ends_found_bind h with rfl | ⟨state,htarget,h⟩
  · exact .idle
  rcases (reads_holdOf legalHoldRef).ends_bind h with rfl | ⟨hold,hhold,h⟩
  · exact .idle
  rcases (reads_requireContext context _).ends_bind h with rfl | ⟨_,hpermission,h⟩
  · exact .idle
  rcases (reads_requireScope context _ _ _).ends_bind h with rfl | ⟨_,_,h⟩
  · exact .idle
  rw [← bind_pure (requireContext _ _),requireContext_bind_ok] at hpermission
  replace h := ends_get_bind h
  rcases ends_refuse_bind h with rfl | ⟨hkeys,h⟩
  · exact .idle
  rw [not_not] at hkeys
  have hpresent := Dict.mem_keys.mp hkeys
  rcases ends_bind h with ⟨e,hx⟩ | ⟨current,u,hx,h⟩
  · cases atomic_retentionFor _ _ _ _ _ hx
    exact .idle
  obtain ⟨hcurrent,hlooked,_⟩ := retentionFor_ok hx
  have hidle : Effect s ⟨.transitionRetention entityKind entityRef context expectedVersion target legalHoldRef,clock⟩ u :=
    .looked ⟨rfl,rfl⟩ hpresent hlooked
  rcases ends_refuse_bind h with rfl | ⟨hversion,h⟩
  · exact hidle
  split_ifs at h with hstate
  · cases (reads_sameRetentionState _ _ _).ends h
    exact hidle
  rcases (reads_retentionTransition current state hold).ends_bind h with rfl | ⟨next,hnext,h⟩
  · exact hidle
  rcases (reads_updatedRetention current next clock).ends_bind h with rfl | ⟨updated,hupdated,h⟩
  · exact hidle
  obtain ⟨⟨effectiveAt,hbuild⟩,hclock⟩ := updatedRetention_ok hupdated
  cases (reads_pure updated).ends (ends_modify_bind h)
  have hmoved : Moved s ⟨kind,context.tenantRef,context.workspaceRef,ref⟩ context expectedVersion state hold updated :=
    ⟨hpresent,hpermission.1,current,next,effectiveAt,hcurrent,not_not.mp hversion,hstate,
      (retentionTransition_ok hnext).1,hbuild⟩
  have hset : setRetention ⟨kind,context.tenantRef,context.workspaceRef,ref⟩ updated u =
      setRetention ⟨kind,context.tenantRef,context.workspaceRef,ref⟩ updated s := by
    cases hlooked with
    | same => rfl
    | made hnone =>
      unfold setRetention
      exact congrArg _ (AList.insert_insert ..)
  rw [hset]
  have hnone : hold = none → legalHoldRef = none := by
    rintro rfl
    exact holdOf_none hhold
  exact .moved hkind href htarget hnone hclock hmoved

theorem step_effect (s : InMemoryWebUiRepository) (request : Request) : Effect s request (step s request).2 := by
  have hends : Ends request.run s (step s request).2 := by
    unfold step
    cases hrun : request.run.run s with
    | ok a t => exact .inl ⟨a,hrun⟩
    | error e t => exact .inr ⟨e,hrun⟩
  obtain ⟨call,clock⟩ := request
  cases call with
  | put entity context expectedVersion => exact put_effect (ends_map hends)
  | get entityKind entityRef context =>
    rw [(reads_getEntity entityKind entityRef context).ends (ends_map hends)]
    exact .idle
  | page entityKind context pageRequest =>
    rw [(reads_page entityKind context pageRequest).ends (ends_map hends)]
    exact .idle
  | transitionRetention entityKind entityRef context expectedVersion target legalHoldRef =>
    exact transitionRetention_effect (ends_map hends)

end

end Arbora.WebUi
