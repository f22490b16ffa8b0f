import Arbora.Foundation.ControlPlane

/-! What each call on the control plane does to the repository when it is not refused. -/
namespace Arbora.Foundation
open Checks
variable {s t : Repository} {scope : TenantScope}

variable {α : Type} {u : Unit} {e : Refusal} {answer : Answer} {requirePrincipal : Bool}

theorem scopeRecord_eq_some {owner : α → String × String} {o : Option α} {a : α} :
    scopeRecord owner scope o = some a ↔ o = some a ∧ owner a = (scope.organizationId.1,scope.tenantId.1) := by
  unfold scopeRecord
  rw [Option.filter_eq_some_iff,decide_eq_true_iff]

def GatewayVersion.owner (v : GatewayVersion) : String × String := (v.organizationId.1,v.tenantId.1)

/-- What is stored for a target, whatever its scope. -/
def Repository.version (s : Repository) (targetKind : TargetKind) (targetId : String) (targetVersion : ℤ) :
    Option GatewayVersion :=
  match targetKind with
  | .upstream => ((s.records .upstream).get (targetId,targetVersion)).map .upstream
  | .route => ((s.records .route).get (targetId,targetVersion)).map .route
  | .config => ((s.records .config).get (targetId,targetVersion)).map .config
  | .feature => ((s.records .feature).get (targetId,targetVersion)).map .feature

theorem lookupVersion_reads (targetKind : TargetKind) (targetId : String) (targetVersion : ℤ) :
    lookupVersion (s.reads scope) targetKind targetId targetVersion =
      scopeRecord GatewayVersion.owner scope (s.version targetKind targetId targetVersion) := by
  cases targetKind <;>
  · unfold lookupVersion Repository.version scopeRecord
    rw [Option.filter_map]
    rfl

section
variable {k : Kind} {record : k.Record}

variable {k' : Kind} {κ ν : Type}

theorem retain_ok [DecidableEq κ] [DecidableEq ν] {mapping mapping' : Dict κ ν} {key : κ} {value : ν} :
    retain mapping key value = .ok mapping' ↔
      (∀ prior, mapping.get key = some prior → prior = value) ∧ mapping' = mapping.set key value := by
  have h : retain mapping key value = (refuse (∃ prior ∈ mapping.get key, prior ≠ value)
    ⟨.repository,"immutable foundation record mutation"⟩ >>= fun _ => .ok (mapping.set key value)) := rfl
  rw [h,refuse_bind_ok,Except.ok.injEq]
  push Not
  exact and_congr Iff.rfl eq_comm

theorem get_retained [DecidableEq κ] {mapping : Dict κ ν} {key : κ} {value : ν}
    (h : ∀ prior, mapping.get key = some prior → prior = value) (key' : κ) :
    (mapping.set key value).get key' = (mapping.get key').or (if key' = key then some value else none) := by
  rw [Dict.get_set]
  split_ifs with hkey
  · subst hkey
    cases hget : mapping.get key' with
    | none => rfl
    | some prior => rw [h prior hget,Option.some_or]
  · rw [Option.or_none]

theorem put_ok : s.put k record = .ok t ↔
    (∀ prior, (s.records k).get (k.keyOf record) = some prior → prior = record) ∧
      t = {s with records := Function.update s.records k ((s.records k).set (k.keyOf record) record)} := by
  have h : s.put k record = (retain (s.records k) (k.keyOf record) record >>= fun mapping =>
    .ok {s with records := Function.update s.records k mapping}) := rfl
  rw [h,bind_ok]
  constructor
  · rintro ⟨mapping,hmapping,hput⟩
    obtain ⟨hprior,rfl⟩ := retain_ok.mp hmapping
    exact ⟨hprior,(Except.ok.inj hput).symm⟩
  · rintro ⟨hprior,rfl⟩
    exact ⟨_,retain_ok.mpr ⟨hprior,rfl⟩,rfl⟩

theorem put_refused {prior : k.Record} (h : (s.records k).get (k.keyOf record) = some prior) (hne : prior ≠ record) :
    s.put k record = .error ⟨.repository,"immutable foundation record mutation"⟩ := by
  have hput : s.put k record = (retain (s.records k) (k.keyOf record) record >>= fun mapping =>
    .ok {s with records := Function.update s.records k mapping}) := rfl
  rw [hput,retain,refuse,if_pos ⟨prior,h,hne⟩]
  rfl

section
variable (h : s.put k record = .ok t)
include h

theorem put_other (hne : k' ≠ k) : t.records k' = s.records k' := by
  obtain ⟨-,rfl⟩ := put_ok.mp h
  exact Function.update_of_ne hne _ _

theorem put_get (key : k.Key) : (t.records k).get key =
    ((s.records k).get key).or (if key = k.keyOf record then some record else none) := by
  obtain ⟨hprior,rfl⟩ := put_ok.mp h
  dsimp only
  rw [Function.update_self]
  exact get_retained hprior key

theorem put_keeps {key : k'.Key} {r : k'.Record}
    (hget : (s.records k').get key = some r) : (t.records k').get key = some r := by
  by_cases hk : k' = k
  · subst hk
    rw [put_get h,hget,Option.some_or]
  · rw [put_other h hk]
    exact hget

theorem put_releases : t.releasePointers = s.releasePointers ∧ t.activationHistory = s.activationHistory := by
  obtain ⟨-,rfl⟩ := put_ok.mp h
  exact ⟨rfl,rfl⟩

theorem put_identities : t.organizations = s.organizations ∧ t.tenants = s.tenants := by
  obtain ⟨-,rfl⟩ := put_ok.mp h
  exact ⟨rfl,rfl⟩

end

theorem version_kept (hkeeps : ∀ {k' : Kind} {key : k'.Key} {r : k'.Record}, (s.records k').get key = some r →
    (t.records k').get key = some r) {targetKind : TargetKind} {targetId : String} {targetVersion : ℤ}
    {v : GatewayVersion} (h : s.version targetKind targetId targetVersion = some v) :
    t.version targetKind targetId targetVersion = some v := by
  cases targetKind <;>
  · obtain ⟨r,hr,rfl⟩ := Option.map_eq_some_iff.mp h
    exact Option.map_eq_some_iff.mpr ⟨r,hkeeps hr,rfl⟩

end

theorem register_gated (scope : TenantScope) (k : Kind) (record : k.Record) : ∃ requirePrincipal checks,
    register scope k record = gated k requirePrincipal checks scope record := by
  cases k
  all_goals unfold register
  all_goals simp only [registerPrincipal,registerClient,registerRetentionPolicy,registerPermission,registerRole,
    registerMembership,registerEntitlement,registerQuota,registerUpstream,registerRoute,registerConfig,
    registerFeature,registerCircuitHistory,registerTombstone]
  all_goals exact ⟨_,_,rfl⟩

theorem gated_ok {k : Kind} {checks : ScopedReads → Except Refusal Unit}
    {record : k.Record} : gated k requirePrincipal checks scope record s = .ok t ↔
      requireTenantScope (s.reads scope) scope (k.ownerOf record).1 (k.ownerOf record).2 requirePrincipal = .ok () ∧
        checks (s.reads scope) = .ok () ∧ s.put k record = .ok t := by
  unfold gated
  rw [bind_ok]
  constructor
  · rintro ⟨u,hscope,h⟩
    obtain ⟨u',hchecks,hput⟩ := bind_ok.mp h
    exact ⟨hscope,hchecks,hput⟩
  · rintro ⟨hscope,hchecks,hput⟩
    exact ⟨(),hscope,bind_ok.mpr ⟨(),hchecks,hput⟩⟩

theorem gated_refused {k : Kind} {record : k.Record} {e : Refusal}
    (hscope : requireTenantScope (s.reads scope) scope (k.ownerOf record).1 (k.ownerOf record).2 requirePrincipal = .ok ())
    (hput : s.put k record = .error e) : gated k requirePrincipal (fun _ => .ok ()) scope record s = .error e := by
  unfold gated
  rw [hscope]
  exact hput

theorem requireTenantScope_owner {organizationId tenantId : Identifier} {repository : ScopedReads}
    (h : requireTenantScope repository scope organizationId tenantId requirePrincipal = .ok u) :
    scope.organizationId = organizationId ∧ scope.tenantId = tenantId := by
  have hscope := (refuse_bind_ok.mp h).1
  push Not at hscope
  exact hscope

theorem register_ok {k : Kind} {record : k.Record} (h : register scope k record s = .ok t) :
    k.ownerOf record = (scope.organizationId,scope.tenantId) ∧ s.put k record = .ok t := by
  obtain ⟨requirePrincipal,checks,hgated⟩ := register_gated scope k record
  rw [hgated] at h
  obtain ⟨hscope,-,hput⟩ := gated_ok.mp h
  obtain ⟨horganization,htenant⟩ := requireTenantScope_owner hscope
  exact ⟨Prod.ext horganization.symm htenant.symm,hput⟩

theorem tombstoneChecks_ok {record : TombstoneRecord} (h : tombstoneChecks scope record (s.reads scope) = .ok u) :
    (∃ v, s.version record.resourceKind record.resourceId.1 record.resourceVersion.1 = some v ∧
      v.owner = (scope.organizationId.1,scope.tenantId.1)) ∧
    ∀ p, s.releasePointers.get (releasePointerId scope.tenantId record.resourceKind record.resourceId) = some p →
      p.owner = (scope.organizationId.1,scope.tenantId.1) → p.targetVersion ≠ record.resourceVersion := by
  obtain ⟨-,h⟩ := refuse_bind_ok.mp h
  obtain ⟨htarget,hpointer⟩ := refuse_bind_ok.mp h
  refine ⟨?_,?_⟩
  · rw [lookupVersion_reads,Option.isNone_iff_eq_none] at htarget
    obtain ⟨v,hv⟩ := Option.ne_none_iff_exists'.mp htarget
    exact ⟨v,scopeRecord_eq_some.mp hv⟩
  · intro p hp howner hversion
    exact refuse_ok.mp hpointer ⟨p,scopeRecord_eq_some.mpr ⟨hp,howner⟩,hversion⟩

section
variable {request : ActivationRequest} {repository : ScopedReads} {pointer : ReleasePointer}
  {activation : ActivationRecord} {mutation : ReleaseMutation}

variable {text : String} {operation : ReleaseOperation}

theorem field_ok {p : String → Bool} {name : String} {result : {text : String // p text = true}}
    (h : field name text = .ok result) : result.1 = text := by
  unfold field at h
  split_ifs at h with hp
  cases h
  rfl

theorem resolveReleaseOperation_ok (h : resolveReleaseOperation text = .ok operation) : text = operation.value := by
  unfold resolveReleaseOperation at h
  split_ifs at h with hactivate hrollback
  · cases h
    exact hactivate
  · cases h
    exact hrollback

variable {targetVersion : ℤ} {pointerId : String}

theorem resolveReleaseTarget_ok {targetKind : TargetKind} {targetId : String} {target : GatewayVersion} (h :
    resolveReleaseTarget repository targetKind targetId targetVersion = .ok target) :
    lookupVersion repository targetKind targetId targetVersion = some target ∧ target.lifecycle.status = .active ∧
      repository.get .tombstone (targetKind,targetId,targetVersion) = none := by
  obtain ⟨v,hv,h⟩ := found_bind_ok.mp h
  obtain ⟨hactive,h⟩ := refuse_bind_ok.mp h
  obtain ⟨htombstone,h⟩ := refuse_bind_ok.mp h
  cases h
  exact ⟨hv,not_not.mp hactive,not_not.mp htombstone⟩

theorem pointerCasState_ok {expectedRevision : ℤ}
    {expectedPointerDigest : Option String} {state : Option ReleasePointer × {n : ℕ // 1 ≤ n}}
    (h : pointerCasState repository pointerId expectedRevision expectedPointerDigest targetVersion = .ok state) :
    expectedRevision = revisionOf (repository.releasePointer pointerId) ∧
      state.1 = repository.releasePointer pointerId ∧
      state.2.1 = revisionOf (repository.releasePointer pointerId) + 1 ∧
      ∀ p, repository.releasePointer pointerId = some p → p.targetVersion.1 ≠ targetVersion := by
  obtain ⟨hstale,h⟩ := refuse_bind_ok.mp h
  obtain ⟨hsame,h⟩ := refuse_bind_ok.mp h
  cases h
  push Not at hstale hsame
  exact ⟨hstale.1,rfl,rfl,hsame⟩

theorem assertRollbackValid_ok {operation : String} {current : Option ReleasePointer} {u : Unit}
    (h : assertRollbackValid repository pointerId operation current targetVersion = .ok u)
    (hrollback : operation = "rollback") :
    ∃ event ∈ repository.activationHistory pointerId, event.targetVersion.1 = targetVersion := by
  unfold assertRollbackValid at h
  rw [if_neg (not_not.mpr hrollback)] at h
  obtain ⟨-,h⟩ := refuse_bind_ok.mp h
  have htarget := refuse_ok.mp h
  rw [Bool.not_eq_false,ScopedReads.hasActivationTarget,List.any_eq_true] at htarget
  obtain ⟨event,hevent,hversion⟩ := htarget
  exact ⟨event,hevent,of_decide_eq_true hversion⟩

theorem releaseTarget_ok {digest : PolicyPlane.Digest} {target : ReleaseTarget}
    (h : releaseTarget request digest = .ok target) :
    target.targetKind = request.targetKind ∧ target.targetId.1 = request.targetId ∧
      target.targetVersion.1 = request.targetVersion ∧ target.targetDigest = digest := by
  obtain ⟨targetId,hid,h⟩ := bind_ok.mp h
  split_ifs at h with hversion
  cases h
  exact ⟨rfl,field_ok hid,rfl,rfl⟩

theorem buildActivationRecord_ok {target : ReleaseTarget} {previous : Option Positive} {nextRevision : {n : ℕ // 1 ≤ n}}
    (h : buildActivationRecord scope pointerId target request operation previous nextRevision = .ok activation) :
    activation.pointerId = pointerId ∧ activation.operation = operation ∧ activation.tenantId = scope.tenantId ∧
      activation.targetKind = target.targetKind ∧ activation.targetId = target.targetId ∧
      activation.targetVersion = target.targetVersion ∧ activation.targetDigest = target.targetDigest ∧
      activation.previousTargetVersion = previous ∧ activation.releaseRevision = nextRevision := by
  obtain ⟨changeRef,-,h⟩ := bind_ok.mp h
  obtain ⟨activatedAt,-,h⟩ := bind_ok.mp h
  split_ifs at h with hrollback
  cases h
  exact ⟨rfl,rfl,rfl,rfl,rfl,rfl,rfl,rfl,rfl⟩

structure Prepared (scope : TenantScope) (request : ActivationRequest) (repository : ScopedReads)
    (pointer : ReleasePointer) (activation : ActivationRecord) : Prop where
  owner : pointer.organizationId = scope.organizationId ∧ pointer.tenantId = scope.tenantId
  named : pointer.pointerId = releasePointerId scope.tenantId request.targetKind request.targetId
  target : ∃ v, lookupVersion repository pointer.targetKind pointer.targetId.1 pointer.targetVersion.1 = some v ∧
    v.lifecycle.status = .active ∧ v.recordDigest = pointer.targetDigest
  untombed : repository.get .tombstone (pointer.targetKind,pointer.targetId.1,pointer.targetVersion.1) = none
  moves : ∀ p, repository.releasePointer pointer.pointerId = some p → p.targetVersion ≠ pointer.targetVersion
  ofPointer : activation.pointerId = pointer.pointerId ∧ activation.tenantId = pointer.tenantId
  agrees : activation.targetKind = pointer.targetKind ∧ activation.targetId = pointer.targetId ∧
    activation.targetVersion = pointer.targetVersion ∧ activation.targetDigest = pointer.targetDigest
  previous : activation.previousTargetVersion =
    (repository.releasePointer pointer.pointerId).map (·.targetVersion)
  rollsBack : activation.operation = .rollback →
    ∃ event ∈ repository.activationHistory pointer.pointerId, event.targetVersion = pointer.targetVersion
  revision : pointer.revision.1 = revisionOf (repository.releasePointer pointer.pointerId) + 1 ∧
    activation.releaseRevision = pointer.revision

theorem prepare_ok {swap : Swap} (h : prepare scope request repository = .ok swap) :
    Prepared scope request repository swap.pointer swap.activation := by
  obtain ⟨operation,hoperation,h⟩ := bind_ok.mp h
  obtain ⟨-,-,h⟩ := bind_ok.mp h
  obtain ⟨v,hv,h⟩ := bind_ok.mp h
  obtain ⟨⟨current,nextRevision⟩,hcurrent,h⟩ := bind_ok.mp h
  obtain ⟨⟨⟩,hrollback,h⟩ := bind_ok.mp h
  obtain ⟨target,htarget,h⟩ := bind_ok.mp h
  obtain ⟨activation,hactivation,h⟩ := bind_ok.mp h
  obtain ⟨mutation,-,h⟩ := bind_ok.mp h
  cases h
  obtain ⟨hfound,hactive,hnone⟩ := resolveReleaseTarget_ok hv
  obtain ⟨-,rfl,hnext,hmoves⟩ := pointerCasState_ok hcurrent
  obtain ⟨hkind,hid,hversion,hdigest⟩ := releaseTarget_ok htarget
  obtain ⟨hpointerId,rfl,hrest⟩ := buildActivationRecord_ok hactivation
  obtain ⟨htenant,hkind',hid',hversion',hdigest',hprevious,hrevision⟩ := hrest
  rw [← hkind,← hid,← hversion] at hfound hnone
  rw [← hkind,← hid] at hpointerId hprevious hnext hmoves
  rw [← hkind,← hid,← hversion] at hrollback
  exact {
    owner := ⟨rfl,rfl⟩
    named := by rw [← hkind,← hid]; rfl
    target := ⟨v,hfound,hactive,hdigest.symm⟩
    untombed := hnone
    moves := by
      intro p hp hsame
      exact hmoves p hp ((congrArg Subtype.val hsame).trans hversion)
    ofPointer := ⟨hpointerId,htenant⟩
    agrees := ⟨hkind',hid',hversion',hdigest'⟩
    previous := hprevious
    rollsBack := by
      intro hrolls
      obtain ⟨event,hevent,hsame⟩ := assertRollbackValid_ok hrollback
        ((resolveReleaseOperation_ok hoperation).trans (congrArg ReleaseOperation.value hrolls))
      exact ⟨event,hevent,Subtype.ext hsame⟩
    revision := ⟨hnext,hrevision⟩ }

theorem compareAndSwapRelease_ok {pointer' : ReleasePointer}
    (h : s.compareAndSwapRelease scope mutation pointer activation = .ok (pointer',t)) :
    (∀ p, s.releasePointers.get pointer.pointerId = some p → pointer.revision.1 = p.revision.1 + 1) ∧
    (activation ∈ s.historyOf pointer.pointerId ∧
        t = {s with releasePointers := s.releasePointers.set pointer.pointerId pointer} ∨
      t = {s with
        releasePointers := s.releasePointers.set pointer.pointerId pointer
        activationHistory := s.activationHistory.set pointer.pointerId
          (s.historyOf pointer.pointerId ++ [activation])}) := by
  obtain ⟨-,-,h⟩ := bind_ok.mp h
  obtain ⟨-,-,h⟩ := bind_ok.mp h
  obtain ⟨-,-,h⟩ := bind_ok.mp h
  obtain ⟨⟨⟩,hrevision,h⟩ := bind_ok.mp h
  obtain ⟨priorEvent,hprior,h⟩ := bind_ok.mp h
  obtain ⟨-,hrevision⟩ := refuse_bind_ok.mp hrevision
  have hnext := not_not.mp (refuse_ok.mp hrevision)
  obtain ⟨hsame,hprior⟩ := refuse_bind_ok.mp hprior
  cases hprior
  cases h
  refine ⟨?_,?_⟩
  · intro p hp
    rw [hp] at hnext
    exact hnext
  · split_ifs with hfind
    · exact .inr rfl
    · obtain ⟨event,hevent⟩ := Option.ne_none_iff_exists'.mp hfind
      push Not at hsame
      rw [← hsame event hevent]
      exact .inl ⟨List.mem_of_find?_eq_some hevent,rfl⟩

structure Activated (s : Repository) (scope : TenantScope) (request : ActivationRequest) (pointer : ReleasePointer)
    (activation : ActivationRecord) (t : Repository) : Prop where
  prepared : Prepared scope request (s.reads scope) pointer activation
  own : (s.reads scope).releasePointer pointer.pointerId = s.releasePointers.get pointer.pointerId
  stored : activation ∈ s.historyOf pointer.pointerId ∧
      t = {s with releasePointers := s.releasePointers.set pointer.pointerId pointer} ∨
    t = {s with
      releasePointers := s.releasePointers.set pointer.pointerId pointer
      activationHistory := s.activationHistory.set pointer.pointerId
        (s.historyOf pointer.pointerId ++ [activation])}

theorem activate_ok (h : activate scope request s = .ok ((pointer,activation),t)) :
    Activated s scope request pointer activation t := by
  obtain ⟨swap,hprepare,h⟩ := bind_ok.mp h
  have hprepared := prepare_ok hprepare
  unfold applyCas at h
  cases hswap : s.compareAndSwapRelease scope swap.mutation swap.pointer swap.activation with
  | error e =>
    rw [hswap] at h
    cases h
  | ok applied =>
    rw [hswap] at h
    dsimp only at h
    split_ifs at h with hsame
    cases h
    obtain ⟨hnext,hstored⟩ := compareAndSwapRelease_ok hswap
    refine ⟨hprepared,?_,hstored⟩
    cases hget : s.releasePointers.get swap.pointer.pointerId with
    | none =>
      have hread : (s.reads scope).releasePointer swap.pointer.pointerId =
        scopeRecord ReleasePointer.owner scope (s.releasePointers.get swap.pointer.pointerId) := rfl
      rw [hread,hget]
      rfl
    | some p =>
      -- A pointer of another scope is not seen, and then the revision does not follow.
      cases hread : (s.reads scope).releasePointer swap.pointer.pointerId with
      | none =>
        have hrevision := hprepared.revision.1
        rw [hread,hnext p hget] at hrevision
        exact absurd (Nat.succ.inj hrevision) (Nat.ne_of_gt p.revision.2)
      | some q =>
        rw [← hget]
        exact (scopeRecord_eq_some.mp hread).1.symm

end

theorem map_ok {β : Type} {x : Except Refusal α} {f : α → β} {b : β} :
    x.map f = .ok b ↔ ∃ a, x = .ok a ∧ f a = b := by
  cases x with
  | error e => simp [Except.map]
  | ok a => simp [Except.map]

inductive Leaves (s : Repository) : Call → Repository → Prop where
  | refused {call : Call} : Leaves s call s
  | organization {record : OrganizationIdentity} {organizations : Dict String OrganizationIdentity} :
    Leaves s (.registerOrganization record) {s with organizations}
  | tenant {record : TenantIdentity} {tenants : Dict String TenantIdentity} :
    Leaves s (.registerTenant record) {s with tenants}
  | registered {scope : TenantScope} {k : Kind} {record : k.Record} {t : Repository}
      (h : register scope k record s = .ok t) : Leaves s (.register scope k record) t
  | activated {scope : TenantScope} {request : ActivationRequest} {pointer : ReleasePointer}
      {activation : ActivationRecord} {t : Repository} (h : Activated s scope request pointer activation t) :
    Leaves s (.activate scope request) t

variable {call : Call}

theorem leaves_of_run (h : call.run s = .ok (answer,t)) : Leaves s call t := by
  cases call with
  | registerOrganization record =>
    obtain ⟨t',ht,h⟩ := map_ok.mp h
    obtain ⟨organizations,-,ht⟩ := bind_ok.mp ht
    cases h
    cases ht
    exact .organization
  | registerTenant record =>
    obtain ⟨t',ht,h⟩ := map_ok.mp h
    obtain ⟨organization,-,ht⟩ := found_bind_ok.mp ht
    obtain ⟨-,ht⟩ := refuse_bind_ok.mp ht
    obtain ⟨tenants,-,ht⟩ := bind_ok.mp ht
    cases h
    cases ht
    exact .tenant
  | register scope k record =>
    obtain ⟨t',ht,h⟩ := map_ok.mp h
    cases h
    exact .registered ht
  | activate scope request =>
    obtain ⟨⟨⟨pointer,activation⟩,t'⟩,ht,h⟩ := map_ok.mp h
    cases h
    exact .activated (activate_ok ht)

theorem leaves_step (s : Repository) (call : Call) : Leaves s call (step s call).2 := by
  unfold step
  cases h : call.run s with
  | error e => exact .refused
  | ok result => exact leaves_of_run h

theorem retain_new {κ ν : Type} [DecidableEq κ] [DecidableEq ν] {mapping : Dict κ ν} {key : κ} (value : ν)
    (h : mapping.get key = none) : retain mapping key value = .ok (mapping.set key value) := by
  refine retain_ok.mpr ⟨?_,rfl⟩
  intro prior hprior
  rw [h] at hprior
  cases hprior

theorem step_ok (h : call.run s = .ok (answer,t)) : step s call = (.ok answer,t) := by
  unfold step
  rw [h]

theorem step_error (h : call.run s = .error e) : step s call = (.error e,s) := by
  unfold step
  rw [h]

theorem registerOrganization_new {record : OrganizationIdentity}
    (hnew : s.organizations.get record.organizationId = none) : step s (.registerOrganization record) =
      (.ok .none,{s with organizations := s.organizations.set record.organizationId record}) := by
  have hput : s.putOrganization record =
      .ok {s with organizations := s.organizations.set record.organizationId record} := by
    unfold Repository.putOrganization
    rw [retain_new record hnew]
    rfl
  exact step_ok (congrArg (Except.map fun t => (Answer.none,t)) hput)

theorem registerTenant_new {record : TenantIdentity} {organization : OrganizationIdentity}
    (horganization : s.organizations.get record.organizationId.1 = some organization)
    (hactive : organization.lifecycle.status = .active) (hnew : s.tenants.get record.tenantId = none) :
    step s (.registerTenant record) = (.ok .none,{s with tenants := s.tenants.set record.tenantId record}) := by
  have hrun : registerTenant record s = .ok {s with tenants := s.tenants.set record.tenantId record} := by
    refine found_bind_ok.mpr ⟨organization,horganization,refuse_bind_ok.mpr ⟨not_not.mpr hactive,?_⟩⟩
    unfold Repository.putTenant
    rw [retain_new record hnew]
    rfl
  exact step_ok (congrArg (Except.map fun t => (Answer.none,t)) hrun)

structure Admits (s : Repository) (scope : TenantScope) : Prop where
  tenant : ∃ t, (s.reads scope).tenant scope.tenantId.1 = some t ∧ t.lifecycle.status = .active
  principal : ∃ p, (s.reads scope).get .principal scope.principalId.1 = some p ∧
    (PrincipalIdentity.lifecycle p).status = .active
  client : scope.clientId = none

theorem requireTenantScope_tenant
    (h : ∃ t, (s.reads scope).tenant scope.tenantId.1 = some t ∧ t.lifecycle.status = .active) :
    requireTenantScope (s.reads scope) scope scope.organizationId scope.tenantId false = .ok () := by
  obtain ⟨tenant,htenant,hactive⟩ := h
  refine refuse_bind_ok.mpr ⟨by simp,found_bind_ok.mpr ⟨tenant,htenant,?_⟩⟩
  exact refuse_bind_ok.mpr ⟨not_not.mpr hactive,rfl⟩

theorem Admits.requireTenantScope (h : Admits s scope) :
    requireTenantScope (s.reads scope) scope scope.organizationId scope.tenantId true = .ok () := by
  obtain ⟨⟨tenant,htenant,hactive⟩,⟨principal,hprincipal,hpactive⟩,hclient⟩ := h
  refine refuse_bind_ok.mpr ⟨by simp,found_bind_ok.mpr ⟨tenant,htenant,?_⟩⟩
  refine refuse_bind_ok.mpr ⟨not_not.mpr hactive,found_bind_ok.mpr ⟨principal,hprincipal,?_⟩⟩
  refine refuse_bind_ok.mpr ⟨not_not.mpr hpactive,refuse_ok.mpr ?_⟩
  rw [hclient]
  simp

theorem put_new {k : Kind} {record : k.Record} (hnew : (s.records k).get (k.keyOf record) = none) : s.put k record =
      .ok {s with records := Function.update s.records k ((s.records k).set (k.keyOf record) record)} := by
  refine put_ok.mpr ⟨?_,rfl⟩
  intro prior hprior
  rw [hnew] at hprior
  cases hprior

theorem step_registered {k : Kind} {record : k.Record} (h : register scope k record s = .ok t) :
    step s (.register scope k record) = (.ok .none,t) :=
  step_ok (congrArg (Except.map fun t => (Answer.none,t)) h)

theorem step_refused {k : Kind} {record : k.Record} (h : register scope k record s = .error e) :
    step s (.register scope k record) = (.error e,s) :=
  step_error (congrArg (Except.map fun t => (Answer.none,t)) h)

end Arbora.Foundation
