import Arbora.WebUi.HoldAuthority

/-! Calls of one tenant and workspace see and change nothing of another's. -/
namespace Arbora.WebUi
open Guards Machine
open PolicyPlane (OpaqueRef)

def SameWithin (tenantRef workspaceRef : OpaqueRef) (s t : InMemoryWebUiRepository) : Prop :=
  ∀ key : Key, key.tenantRef = tenantRef → key.workspaceRef = workspaceRef →
    s.entities.get key = t.entities.get key ∧ s.retention.get key = t.retention.get key

def callsOf (tenantRef workspaceRef : OpaqueRef) (request : Request) : Bool :=
  decide (request.call.context.tenantRef = tenantRef ∧ request.call.context.workspaceRef = workspaceRef)

section
variable {tenantRef workspaceRef : OpaqueRef} {s t u : InMemoryWebUiRepository}

theorem sameWithin_refl (s : InMemoryWebUiRepository) : SameWithin tenantRef workspaceRef s s :=
  fun _ _ _ => ⟨rfl,rfl⟩

theorem SameWithin.trans (h : SameWithin tenantRef workspaceRef s t) (h' : SameWithin tenantRef workspaceRef t u) :
    SameWithin tenantRef workspaceRef s u :=
  fun key ht hw => ⟨(h key ht hw).1.trans (h' key ht hw).1,(h key ht hw).2.trans (h' key ht hw).2⟩

theorem key_ne {context : AccessContext} {key key' : Key} (hcontext : key'.within context)
    (hothers : ¬ (context.tenantRef = tenantRef ∧ context.workspaceRef = workspaceRef)) (ht : key.tenantRef = tenantRef)
    (hw : key.workspaceRef = workspaceRef) : key ≠ key' := by
  rintro rfl
  exact hothers ⟨hcontext.1.symm.trans ht,hcontext.2.symm.trans hw⟩

theorem sameWithin_looked {context : AccessContext} {key : Key} (hkey : key.within context)
    (hothers : ¬ (context.tenantRef = tenantRef ∧ context.workspaceRef = workspaceRef)) (h : Looked s key u) :
    SameWithin tenantRef workspaceRef u s := by
  intro other ht hw
  cases h with
  | same => exact ⟨rfl,rfl⟩
  | made _ => exact ⟨rfl,Dict.get_set_ne _ _ (key_ne hkey hothers ht hw)⟩

theorem sameWithin_others {request : Request} (hothers : callsOf tenantRef workspaceRef request = false)
    (h : Effect s request u) : SameWithin tenantRef workspaceRef u s := by
  have hcontext := of_decide_eq_false hothers
  cases h with
  | idle => exact sameWithin_refl s
  | looked hkey hpresent hlooked => exact sameWithin_looked hkey hcontext hlooked
  | stored hkey hswap hlooked =>
    intro other ht hw
    obtain ⟨hentities,hretention⟩ := sameWithin_looked hkey hcontext hlooked other ht hw
    exact ⟨(Dict.get_set_ne _ _ (key_ne hkey hcontext ht hw)).trans hentities,hretention⟩
  | @moved entityKind entityRef target context expectedVersion clock legalHoldRef kind ref state hold updated hkind href
      htarget hhold hclock hmoved =>
    intro other ht hw
    have hkey : (⟨kind,context.tenantRef,context.workspaceRef,ref⟩ : Key).within context := ⟨rfl,rfl⟩
    exact ⟨rfl,Dict.get_set_ne _ _ (key_ne hkey hcontext ht hw)⟩

end

section
variable {tenantRef workspaceRef : OpaqueRef} {s t : InMemoryWebUiRepository} {key : Key} {context : AccessContext}

section
variable (h : SameWithin tenantRef workspaceRef s t)
include h

theorem SameWithin.setRetention (key : Key) (record : RetentionRecord) :
    SameWithin tenantRef workspaceRef (setRetention key record s) (setRetention key record t) := by
  intro other ht hw
  unfold WebUi.setRetention
  rw [Dict.get_set,Dict.get_set,(h other ht hw).2]
  exact ⟨(h other ht hw).1,rfl⟩

theorem SameWithin.setEntity (key : Key) (entity : WebUiEntity) :
    SameWithin tenantRef workspaceRef (setEntity key entity s) (setEntity key entity t) := by
  intro other ht hw
  unfold WebUi.setEntity
  rw [Dict.get_set,Dict.get_set,(h other ht hw).1]
  exact ⟨rfl,(h other ht hw).2⟩

theorem agrees_retentionFor (ht : key.tenantRef = tenantRef) (hw : key.workspaceRef = workspaceRef) (clock : Clock) :
    Agrees (SameWithin tenantRef workspaceRef) ((retentionFor key clock).run s) ((retentionFor key clock).run t) := by
  apply agrees_get_bind
  rw [(h key ht hw).2]
  cases t.retention.get key with
  | some current => exact .ok h
  | none => exact agrees_found_bind h rfl fun effectiveAt _ => agrees_modify_bind (.ok (h.setRetention _ _))

theorem agrees_storeEntity (ht : key.tenantRef = tenantRef)
    (hw : key.workspaceRef = workspaceRef) (entity : WebUiEntity) (clock : Clock) :
    Agrees (SameWithin tenantRef workspaceRef) ((storeEntity key entity clock).run s)
      ((storeEntity key entity clock).run t) :=
  agrees_modify_bind <| agrees_bind (agrees_map _ (agrees_retentionFor (h.setEntity _ _) ht hw clock))
    fun _ _ _ h => .ok h

theorem agrees_requireScope_bind {β : Type} {f g : Unit → Op β} {tenant workspace : OpaqueRef} {permission : UiPermission}
    (hfg : context.tenantRef = tenant → context.workspaceRef = workspace →
      Agrees (SameWithin tenantRef workspaceRef) ((f ()).run s) ((g ()).run t)) :
    Agrees (SameWithin tenantRef workspaceRef) ((requireScope context tenant workspace permission >>= f).run s)
      ((requireScope context tenant workspace permission >>= g).run t) := by
  unfold requireScope
  rw [bind_assoc,bind_assoc]
  refine agrees_refuse_bind h (agrees_refuse_bind_of h fun hscope => ?_)
  rw [not_or,not_not,not_not] at hscope
  exact hfg hscope.1 hscope.2

theorem agrees_put (ht : context.tenantRef = tenantRef)
    (hw : context.workspaceRef = workspaceRef) (entity : WebUiEntity) (expectedVersion : Option ℤ) (clock : Clock) :
    Agrees (SameWithin tenantRef workspaceRef) ((put entity context expectedVersion clock).run s)
      ((put entity context expectedVersion clock).run t) := by
  refine agrees_refuse_bind h (agrees_refuse_bind h (agrees_found_bind h rfl fun ref _ => ?_))
  refine agrees_requireScope_bind h fun htenant hworkspace => agrees_refuse_bind h (agrees_get_bind ?_)
  replace htenant := htenant.symm.trans ht
  replace hworkspace := hworkspace.symm.trans hw
  have hkeys := h ⟨entity.entityKind,entity.tenantRef,entity.workspaceRef.getD context.workspaceRef,ref⟩ htenant
    hworkspace
  rw [hkeys.1]
  cases t.entities.get ⟨entity.entityKind,entity.tenantRef,entity.workspaceRef.getD context.workspaceRef,ref⟩ with
  | none => exact agrees_refuse_bind h (agrees_storeEntity h htenant hworkspace entity clock)
  | some existing =>
    refine agrees_bind (agrees_retentionFor h htenant hworkspace clock) fun record s' t' h => ?_
    refine agrees_refuse_bind h ?_
    split_ifs
    · exact .ok h
    · exact agrees_refuse_bind h (agrees_refuse_bind h (agrees_storeEntity h htenant hworkspace entity clock))

theorem agrees_getEntity (ht : context.tenantRef = tenantRef)
    (hw : context.workspaceRef = workspaceRef) (entityKind entityRef : String) :
    Agrees (SameWithin tenantRef workspaceRef) ((getEntity entityKind entityRef context).run s)
      ((getEntity entityKind entityRef context).run t) := by
  refine agrees_found_bind h rfl fun kind _ => agrees_found_bind h rfl fun ref _ => agrees_refuse_bind h ?_
  refine agrees_requireScope_bind h fun _ _ => agrees_get_bind ?_
  have hkeys := h ⟨kind,context.tenantRef,context.workspaceRef,ref⟩ ht hw
  rw [hkeys.1,hkeys.2]
  cases t.entities.get ⟨kind,context.tenantRef,context.workspaceRef,ref⟩ with
  | none => exact .ok h
  | some entity => exact agrees_refuse_bind h (.ok h)

end

theorem strict_pageRows (s : InMemoryWebUiRepository) (kind : EntityKind) (tenantRef workspaceRef : OpaqueRef) :
    (pageRows s kind tenantRef workspaceRef).Pairwise fun a b => a.1 < b.1 := by
  apply Keyset.strict_sortBy
  rw [List.map_filterMap]
  refine List.Nodup.filterMap ?_ s.entities.nodupKeys
  intro key key' ref h h'
  obtain ⟨row,hrow,rfl⟩ := Option.map_eq_some_iff.mp h
  obtain ⟨row',hrow',hsame⟩ := Option.map_eq_some_iff.mp h'
  split_ifs at hrow with hkey
  split_ifs at hrow' with hkey'
  obtain ⟨entity,_,rfl⟩ := Option.map_eq_some_iff.mp hrow
  obtain ⟨entity',_,rfl⟩ := Option.map_eq_some_iff.mp hrow'
  obtain ⟨kind₁,tenant₁,workspace₁,ref₁⟩ := key
  obtain ⟨rfl,rfl,rfl,_⟩ := hkey
  obtain ⟨rfl,rfl,rfl,_⟩ := hkey'
  cases Subtype.ext hsame
  rfl

section
variable (h : SameWithin tenantRef workspaceRef s t)
include h

theorem pageRows_eq (kind : EntityKind) :
    pageRows s kind tenantRef workspaceRef = pageRows t kind tenantRef workspaceRef := by
  refine Keyset.eq_of_strict (strict_pageRows ..) (strict_pageRows ..) fun row => ?_
  rw [mem_pageRows,mem_pageRows]
  refine exists_congr fun ref => ?_
  have hkeys := h ⟨kind,tenantRef,workspaceRef,ref⟩ rfl rfl
  rw [hkeys.1,hkeys.2]

theorem agrees_page (ht : context.tenantRef = tenantRef)
    (hw : context.workspaceRef = workspaceRef) (entityKind : String) (request : PageRequest) :
    Agrees (SameWithin tenantRef workspaceRef) ((page entityKind context request).run s)
      ((page entityKind context request).run t) := by
  refine agrees_found_bind h rfl fun kind _ => agrees_refuse_bind h (agrees_refuse_bind h ?_)
  refine agrees_requireScope_bind h fun _ _ => agrees_get_bind ?_
  rw [ht,hw,pageRows_eq h kind]
  exact .ok h

theorem agrees_holdOf (legalHoldRef : Option String) :
    Agrees (SameWithin tenantRef workspaceRef) ((holdOf legalHoldRef).run s) ((holdOf legalHoldRef).run t) := by
  cases legalHoldRef with
  | none => exact .ok h
  | some text => exact agrees_found_bind h rfl fun ref _ => .ok h

theorem agrees_sameRetentionState (current : RetentionRecord) (target : LifecycleState) (hold : Option OpaqueRef) :
    Agrees (SameWithin tenantRef workspaceRef) ((sameRetentionState current target hold).run s)
      ((sameRetentionState current target hold).run t) := by
  unfold sameRetentionState
  split_ifs
  · exact agrees_refuse_bind h (.ok h)
  · exact agrees_refuse_bind h (.ok h)

theorem agrees_retentionTransition (current : RetentionRecord) (target : LifecycleState) (hold : Option OpaqueRef) :
    Agrees (SameWithin tenantRef workspaceRef) ((retentionTransition current target hold).run s)
      ((retentionTransition current target hold).run t) := by
  unfold retentionTransition
  split_ifs
  · exact agrees_refuse_bind h (agrees_found_bind h rfl fun ref _ => agrees_found_bind h rfl fun resume _ => .ok h)
  · exact agrees_refuse_bind h (.ok h)
  · exact agrees_found_bind h rfl fun next _ => .ok h

theorem agrees_transitionRetention (ht : context.tenantRef = tenantRef)
    (hw : context.workspaceRef = workspaceRef) (entityKind entityRef : String) (expectedVersion : ℤ) (target : String)
    (legalHoldRef : Option String) (clock : Clock) : Agrees (SameWithin tenantRef workspaceRef)
      ((transitionRetention entityKind entityRef context expectedVersion target legalHoldRef clock).run s)
      ((transitionRetention entityKind entityRef context expectedVersion target legalHoldRef clock).run t) := by
  refine agrees_found_bind h rfl fun kind _ => agrees_found_bind h rfl fun ref _ => agrees_refuse_bind h ?_
  refine agrees_found_bind h rfl fun state _ => agrees_bind (agrees_holdOf h legalHoldRef) fun hold s t h => ?_
  refine agrees_refuse_bind h (agrees_requireScope_bind h fun _ _ => agrees_get_bind ?_)
  have hkeys := h ⟨kind,context.tenantRef,context.workspaceRef,ref⟩ ht hw
  by_cases hpresent : (⟨kind,context.tenantRef,context.workspaceRef,ref⟩ : Key) ∈ t.entities.keys
  · have hpresent' : (⟨kind,context.tenantRef,context.workspaceRef,ref⟩ : Key) ∈ s.entities.keys := by
      rw [Dict.mem_keys] at hpresent ⊢
      rwa [hkeys.1]
    rw [refuse_bind_of_not (not_not.mpr hpresent),refuse_bind_of_not (not_not.mpr hpresent')]
    refine agrees_bind (agrees_retentionFor h ht hw clock) fun current s t h => agrees_refuse_bind h ?_
    split_ifs
    · exact agrees_sameRetentionState h current state hold
    · refine agrees_bind (agrees_retentionTransition h current state hold) fun next s t h => ?_
      refine agrees_bind (agrees_refuse_bind h (agrees_found_bind h rfl fun at' _ => agrees_check_like ?_ h)) ?_
      · cases buildRecord current next at' with
        | none => exact ⟨.error _,rfl⟩
        | some updated => exact ⟨.ok updated,rfl⟩
      · exact fun updated s t h => agrees_modify_bind (.ok (h.setRetention _ _))
  · have hpresent' : (⟨kind,context.tenantRef,context.workspaceRef,ref⟩ : Key) ∉ s.entities.keys := by
      rw [Dict.mem_keys] at hpresent ⊢
      rwa [hkeys.1]
    unfold refuse
    rw [if_pos hpresent,if_pos hpresent']
    exact .error h

theorem agrees_run {request : Request} (hmine : callsOf tenantRef workspaceRef request = true) :
    Agrees (SameWithin tenantRef workspaceRef) (request.run.run s) (request.run.run t) := by
  obtain ⟨ht,hw⟩ := of_decide_eq_true hmine
  obtain ⟨call,clock⟩ := request
  cases call with
  | put entity context expectedVersion => exact agrees_map _ (agrees_put h ht hw entity expectedVersion clock)
  | get entityKind entityRef context => exact agrees_map _ (agrees_getEntity h ht hw entityKind entityRef)
  | page entityKind context pageRequest => exact agrees_map _ (agrees_page h ht hw entityKind pageRequest)
  | transitionRetention entityKind entityRef context expectedVersion target legalHoldRef =>
    exact agrees_map _ (agrees_transitionRetention h ht hw entityKind entityRef expectedVersion target legalHoldRef clock)

theorem sameWithin_own {request : Request} (hmine : callsOf tenantRef workspaceRef request = true) :
    (step s request).1 = (step t request).1 ∧ SameWithin tenantRef workspaceRef (step s request).2 (step t request).2 := by
  have hagrees := agrees_run h hmine
  unfold step
  generalize request.run.run s = a at hagrees ⊢
  generalize request.run.run t = b at hagrees ⊢
  cases hagrees with
  | ok h => exact ⟨rfl,h⟩
  | error h => exact ⟨rfl,h⟩

end

end

structure RetentionLaw (requests : List Request) : Prop where
  lawful : Along step Lawful .empty requests
  holds : Along step HoldsAreAdmins .empty requests
  returns : HoldsReturn .empty requests
  apart : ∀ tenantRef workspaceRef,
    answersTo step (callsOf tenantRef workspaceRef) .empty requests =
        answers step .empty (requests.filter (callsOf tenantRef workspaceRef)) ∧
      SameWithin tenantRef workspaceRef (after step .empty requests)
        (after step .empty (requests.filter (callsOf tenantRef workspaceRef)))

theorem along_lawful (requests : List Request) : Along step Lawful .empty requests := by
  have hall : Along step (fun _ _ => True) .empty requests := .of_forall fun _ _ => trivial
  exact hall.conclude (fun s request hkept _ => kept_step hkept request) (fun s request hkept _ => lawful_step hkept request)
    kept_empty

theorem along_holdsAreAdmins_iff {s : InMemoryWebUiRepository} {requests : List Request} (hkept : Kept s) :
    Along step HoldsAreAdmins s requests ↔ Along step (fun s request => ¬ LiftsWithoutAdmin s request) s requests := by
  induction requests generalizing s with
  | nil => exact Iff.rfl
  | cons request rest ih => exact and_congr (holdsAreAdmins_iff hkept request) (ih (kept_step hkept request))

theorem apart (tenantRef workspaceRef : OpaqueRef) (requests : List Request) :
    answersTo step (callsOf tenantRef workspaceRef) .empty requests =
        answers step .empty (requests.filter (callsOf tenantRef workspaceRef)) ∧
      SameWithin tenantRef workspaceRef (after step .empty requests)
        (after step .empty (requests.filter (callsOf tenantRef workspaceRef))) := by
  have hall : Along step (fun _ _ => True) .empty requests := .of_forall fun _ _ => trivial
  have hmine : ∀ s t (request : Request), callsOf tenantRef workspaceRef request = true → True →
      SameWithin tenantRef workspaceRef s t → (step s request).1 = (step t request).1 ∧
        SameWithin tenantRef workspaceRef (step s request).2 (step t request).2 :=
    fun _ _ _ hmine _ h => sameWithin_own h hmine
  have hothers : ∀ s t (request : Request), callsOf tenantRef workspaceRef request = false → True →
      SameWithin tenantRef workspaceRef s t → SameWithin tenantRef workspaceRef (step s request).2 t :=
    fun s _ request hothers _ h => (sameWithin_others hothers (step_effect s request)).trans h
  refine ⟨answersTo_eq_answers hmine hothers (sameWithin_refl _) hall,?_⟩
  exact hall.purge (fun s t request h _ hst => (hmine s t request h trivial hst).2) hothers (sameWithin_refl _)

/-- The law holds of a history exactly when no one lifts a hold to active or retained with less than an
administrator's permission. -/
theorem retentionLaw_iff (requests : List Request) :
    RetentionLaw requests ↔ Along step (fun s request => ¬ LiftsWithoutAdmin s request) .empty requests := by
  constructor
  · intro h
    exact (along_holdsAreAdmins_iff kept_empty).mp h.holds
  · intro h
    exact ⟨along_lawful requests,(along_holdsAreAdmins_iff kept_empty).mpr h,holdsReturn .empty requests,
      fun tenantRef workspaceRef => apart tenantRef workspaceRef requests⟩

namespace Fixture

def text (t : String) (h : PolicyPlane.isRef t = true := by decide +kernel) : OpaqueRef := ⟨t,h⟩
def digest : PolicyPlane.Digest :=
  ⟨"sha256:eeeeeeeeeeeeeeeeeeeeeeeeeeeeeeeeeeeeeeeeeeeeeeeeeeeeeeeeeeeeeeee",by decide +kernel⟩

theorem tenant_isRef : PolicyPlane.isRef "tenant:one" = true := by decide +kernel
theorem first_version : 1 ≤ 1 ∧ 1 ≤ 2147483647 := by decide

def tenant : OpaqueRef := text "tenant:one" tenant_isRef
def workspace : OpaqueRef := text "workspace:one"

def administrator : AccessContext where
  tenantRef := tenant
  workspaceRef := workspace
  actorRef := text "actor:counsel"
  sessionRef := text "session:counsel"
  permissions := [.read,.write,.admin]
  authenticated := true
  anonymousPilot := false
  nonempty := List.cons_ne_nil _ _
  distinct := by decide
  pilot h := nomatch h

def pilot : AccessContext where
  tenantRef := tenant
  workspaceRef := workspace
  actorRef := pilotActor
  sessionRef := text "session:pilot"
  permissions := [.read,.write]
  authenticated := false
  anonymousPilot := true
  nonempty := List.cons_ne_nil _ _
  distinct := by decide
  pilot _ := by decide

def conversation : WebUiEntity := .conversation {
  version := ⟨1,first_version⟩
  digest := digest
  tenantRef := tenant
  workspaceRef := workspace
  conversationRef := text "conversation:one"
  sessionRef := text "session:counsel"
  archived := false }

def clock : Clock := ⟨some 1000,some 1000⟩

def requests : List Request := [
  ⟨.put conversation administrator none,clock⟩,
  ⟨.transitionRetention "conversation" "conversation:one" administrator 1 "legal_hold" (some "hold:case-1"),clock⟩,
  ⟨.transitionRetention "conversation" "conversation:one" pilot 2 "active" none,clock⟩]

def key : Key := ⟨.conversation,tenant,workspace,text "conversation:one"⟩

end Fixture

/-- An anonymous pilot lifts the hold that an administrator has placed. -/
theorem pilot_lifts_hold : ¬ ∀ requests, RetentionLaw requests := by
  intro h
  have hheld : Held (after step .empty (Fixture.requests.take 2)) Fixture.key := by decide +kernel
  have hfree : ¬ Held (after step .empty Fixture.requests) Fixture.key := by decide +kernel
  rcases (h Fixture.requests).holds.2.2.1 Fixture.key with hiff | hadmin
  · exact hfree (hiff.mp hheld)
  · exact absurd hadmin (by decide)

end Arbora.WebUi
