import Arbora.Foundation.ReleaseInvariant

/-! What one tenant's calls can tell of another's. -/
namespace Arbora.Foundation
open Checks Machine
variable {s t : Repository} {scope : TenantScope} {A : String}

def Call.InScope (A : String) : Call → Bool
  | .register scope _ _ => scope.tenantId.1 = A
  | .activate scope _ => scope.tenantId.1 = A
  | _ => false

def Call.Meets (A : String) (s : Repository) : Call → Prop
  | .register scope k record => k ≠ .tombstone ∧ (k.owner record).2 = scope.tenantId.1 ∧
    ∃ r, (s.records k).get (k.keyOf record) = some r ∧ (k.owner r).2 = A
  | .activate scope request => ∃ p, p.owner.2 = A ∧
    s.releasePointers.get (releasePointerId scope.tenantId request.targetKind request.targetId) = some p
  | _ => False

def Apart (A : String) (s : Repository) (call : Call) : Prop := call.InScope A = false → ¬call.Meets A s

/-- What is left to see of a record when the tenant's are taken away. -/
def hide {α : Type} (A : String) (owner : α → String × String) (record : Option α) : Option α :=
  record.filter fun r => (owner r).2 ≠ A

structure Purged (A : String) (s t : Repository) : Prop where
  organizations : t.organizations = s.organizations
  tenants : t.tenants = s.tenants
  records : ∀ k key, (t.records k).get key = hide A k.owner ((s.records k).get key)
  pointers : ∀ pointerId, t.releasePointers.get pointerId =
    hide A ReleasePointer.owner (s.releasePointers.get pointerId)
  history : ∀ pointerId p, t.releasePointers.get pointerId = some p → t.historyOf pointerId = s.historyOf pointerId

theorem hide_of_ne {α : Type} {owner : α → String × String} {o : Option α} (h : ∀ r, o = some r → (owner r).2 ≠ A) :
    hide A owner o = o := by
  cases o with
  | none => rfl
  | some r => exact Option.filter_some_pos (decide_eq_true (h r rfl))

theorem hide_of_eq {α : Type} {owner : α → String × String} {r : α} (h : (owner r).2 = A) :
    hide A owner (some r) = none := Option.filter_some_neg (by simp [h])

theorem scopeRecord_hide {α : Type} {owner : α → String × String} (hscope : scope.tenantId.1 ≠ A) (o : Option α) :
    scopeRecord owner scope (hide A owner o) = scopeRecord owner scope o := by
  cases o with
  | none => rfl
  | some r =>
    by_cases hr : (owner r).2 = A
    · have hne : owner r ≠ (scope.organizationId.1,scope.tenantId.1) := by
        intro heq
        rw [heq] at hr
        exact hscope hr
      rw [hide_of_eq hr]
      exact (Option.filter_some_neg (by simp [hne])).symm
    · rw [hide_of_ne]
      intro r' h
      cases h
      exact hr

theorem Purged.reads (h : Purged A s t) (hscope : scope.tenantId.1 ≠ A) : t.reads scope = s.reads scope := by
  have hpointer : ∀ pointerId, scopeRecord ReleasePointer.owner scope (t.releasePointers.get pointerId) =
      scopeRecord ReleasePointer.owner scope (s.releasePointers.get pointerId) := by
    intro pointerId
    rw [h.pointers,scopeRecord_hide hscope]
  unfold Repository.reads
  rw [ScopedReads.mk.injEq]
  refine ⟨?_,?_,funext hpointer,?_⟩
  · rw [h.tenants]
  · funext k key
    rw [h.records,scopeRecord_hide hscope]
  · funext pointerId
    rw [← hpointer]
    cases hp : scopeRecord ReleasePointer.owner scope (t.releasePointers.get pointerId) with
    | none => rfl
    | some p =>
      rw [h.history pointerId p (scopeRecord_eq_some.mp hp).1]

/-- A record of the tenant's own comes without being seen. -/
theorem Purged.put {k : Kind} {record : k.Record} {s' : Repository} (h : Purged A s t)
    (hput : s.put k record = .ok s') (howner : (k.owner record).2 = A) : Purged A s' t := by
  obtain ⟨horganizations,htenants⟩ := put_identities hput
  obtain ⟨hpointers,hhistory⟩ := put_releases hput
  refine ⟨h.organizations.trans horganizations.symm,h.tenants.trans htenants.symm,?_,?_,?_⟩
  · intro k' key
    by_cases hk : k' = k
    · subst hk
      rw [h.records,put_get hput]
      cases hget : (s.records k').get key with
      | some r => rw [Option.some_or]
      | none =>
        split_ifs
        · exact (hide_of_eq howner).symm
        · rfl
    · rw [put_other hput hk]
      exact h.records k' key
  · intro pointerId
    rw [hpointers]
    exact h.pointers pointerId
  · intro pointerId p hp
    rw [historyOf_congr hhistory]
    exact h.history pointerId p hp

theorem Purged.activated {request : ActivationRequest} {pointer : ReleasePointer} {activation : ActivationRecord}
    {s' : Repository} (h : Purged A s t) (hs : Consistent s) (hscope : scope.tenantId.1 = A)
    (hactivated : Activated s scope request pointer activation s') : Purged A s' t := by
  have howner : pointer.owner.2 = A := (congrArg Subtype.val hactivated.prepared.owner.2).trans hscope
  have hhidden : t.releasePointers.get pointer.pointerId = none := by
    rw [h.pointers,← hactivated.own]
    cases hread : (s.reads scope).releasePointer pointer.pointerId with
    | none => rfl
    | some p => exact hide_of_eq ((congrArg Prod.snd (scopeRecord_eq_some.mp hread).2).trans hscope)
  have hidentities : s'.organizations = s.organizations ∧ s'.tenants = s.tenants := by
    rcases hactivated.stored with ⟨-,rfl⟩ | rfl
    · exact ⟨rfl,rfl⟩
    · exact ⟨rfl,rfl⟩
  refine ⟨h.organizations.trans hidentities.1.symm,h.tenants.trans hidentities.2.symm,?_,?_,?_⟩
  · rw [hactivated.records]
    exact h.records
  · intro pointerId
    rw [hactivated.pointers,Dict.get_set]
    split_ifs with hsame
    · rw [hsame,hhidden,hide_of_eq howner]
    · exact h.pointers pointerId
  · intro pointerId p hp
    have hne : pointerId ≠ pointer.pointerId := by
      intro hsame
      rw [hsame,hhidden] at hp
      cases hp
    rw [hactivated.history hs,if_neg hne]
    exact h.history pointerId p hp

theorem Purged.own {call : Call} (h : Purged A s t) (hs : Consistent s) (hcall : call.InScope A = true) :
    Purged A (step s call).2 t := by
  have hleaves := leaves_step s call
  generalize (step s call).2 = s' at hleaves
  cases hleaves with
  | refused => exact h
  | organization | tenant => cases hcall
  | registered hregister =>
    obtain ⟨howner,hput⟩ := register_ok hregister
    have htenant := congrArg (fun o : Identifier × Identifier => o.2.1) howner
    exact h.put hput (htenant.trans (of_decide_eq_true hcall))
  | activated hactivated => exact h.activated hs (of_decide_eq_true hcall) hactivated

/-- Two calls end alike: refused for the same reason, or with one answer and still with nothing but the
tenant's records between the repositories. -/
inductive Alike {β : Type} (A : String) : Except Refusal (β × Repository) → Except Refusal (β × Repository) → Prop where
  | error {e : Refusal} : Alike A (.error e) (.error e)
  | ok {b : β} {s t : Repository} (h : Purged A s t) : Alike A (.ok (b,s)) (.ok (b,t))

theorem get_eq {k : Kind} {key : k.Key} (h : Purged A s t)
    (hapart : ∀ r, (s.records k).get key = some r → (k.owner r).2 ≠ A) :
    (t.records k).get key = (s.records k).get key := by
  rw [h.records,hide_of_ne hapart]

theorem Purged.put_both {k : Kind} {record : k.Record} (h : Purged A s t) (howner : (k.owner record).2 ≠ A)
    (hapart : ∀ r, (s.records k).get (k.keyOf record) = some r → (k.owner r).2 ≠ A) :
    Alike A ((s.put k record).map fun s' => (Answer.none,s')) ((t.put k record).map fun t' => (Answer.none,t')) := by
  have hget := get_eq h hapart
  by_cases hprior : ∀ prior, (s.records k).get (k.keyOf record) = some prior → prior = record
  · have hs := put_ok.mpr ⟨hprior,rfl⟩
    have ht := put_ok.mpr ⟨fun prior hp => hprior prior (hget ▸ hp),rfl⟩
    rw [hs,ht]
    refine .ok ⟨h.organizations,h.tenants,?_,h.pointers,h.history⟩
    intro k' key
    by_cases hk : k' = k
    · subst hk
      rw [put_get hs,put_get ht]
      split_ifs with hkey
      · rw [hkey,hget,hide_of_ne]
        intro r hr
        rcases Option.or_eq_some_iff.mp hr with hold | ⟨-,hnew⟩
        · exact hapart r hold
        · cases hnew
          exact howner
      · rw [Option.or_none,Option.or_none]
        exact h.records k' key
    · rw [put_other hs hk,put_other ht hk]
      exact h.records k' key
  · push Not at hprior
    obtain ⟨prior,hprior,hne⟩ := hprior
    rw [put_refused hprior hne,put_refused (hget.trans hprior) hne]
    exact .error

theorem Purged.gated_both {k : Kind} {requirePrincipal : Bool} {checks : ScopedReads → Except Refusal Unit}
    {record : k.Record} (h : Purged A s t) (hscope : scope.tenantId.1 ≠ A)
    (hapart : (k.owner record).2 = scope.tenantId.1 → checks (s.reads scope) = .ok () →
      ∀ r, (s.records k).get (k.keyOf record) = some r → (k.owner r).2 ≠ A) :
    Alike A ((gated k requirePrincipal checks scope record s).map fun s' => (Answer.none,s'))
      ((gated k requirePrincipal checks scope record t).map fun t' => (Answer.none,t')) := by
  unfold gated
  rw [h.reads hscope]
  cases hrequire : requireTenantScope (s.reads scope) scope (k.ownerOf record).1 (k.ownerOf record).2 requirePrincipal with
  | error e => exact .error
  | ok u =>
    cases hchecks : checks (s.reads scope) with
    | error e => exact .error
    | ok u' =>
      have howner : (k.owner record).2 = scope.tenantId.1 :=
        (congrArg Subtype.val (requireTenantScope_owner hrequire).2).symm
      refine h.put_both ?_ (hapart howner hchecks)
      rw [howner]
      exact hscope

theorem tombstone_owner {record tombstone : TombstoneRecord} (hs : Consistent s)
    (hchecks : tombstoneChecks scope record (s.reads scope) = .ok ())
    (hget : (s.records .tombstone).get (Kind.keyOf .tombstone record) = some tombstone) :
    (Kind.owner .tombstone tombstone).2 = scope.tenantId.1 := by
  obtain ⟨⟨v,hv,howner⟩,-⟩ := tombstoneChecks_ok hchecks
  obtain ⟨v',hv',hv'owner⟩ := hs.tombed _ tombstone hget
  exact congrArg Prod.snd (owner_eq hv' hv hv'owner howner)

theorem Purged.register_both {k : Kind} {record : k.Record} (h : Purged A s t) (hs : Consistent s)
    (hscope : scope.tenantId.1 ≠ A) (hapart : ¬Call.Meets A s (.register scope k record)) :
    Alike A (Call.run s (.register scope k record)) (Call.run t (.register scope k record)) := by
  by_cases hk : k = .tombstone
  · subst hk
    refine h.gated_both hscope ?_
    intro _ hchecks tombstone hget hA
    exact hscope ((tombstone_owner hs hchecks hget).symm.trans hA)
  · obtain ⟨requirePrincipal,checks,hgated⟩ := register_gated scope k record
    change Alike A ((register scope k record s).map _) ((register scope k record t).map _)
    rw [hgated]
    refine h.gated_both hscope ?_
    intro howner _ r hget hA
    exact hapart ⟨hk,howner,r,hget,hA⟩

theorem Purged.swap_both {mutation : ReleaseMutation} {pointer : ReleasePointer} {activation : ActivationRecord}
    (h : Purged A s t) (hs : Consistent s) (ht : Consistent t) (howner : pointer.owner.2 ≠ A)
    (hapart : ∀ p, s.releasePointers.get pointer.pointerId = some p → p.owner.2 ≠ A) :
    Alike A (s.compareAndSwapRelease scope mutation pointer activation)
      (t.compareAndSwapRelease scope mutation pointer activation) := by
  have hpointer : t.releasePointers.get pointer.pointerId = s.releasePointers.get pointer.pointerId := by
    rw [h.pointers,hide_of_ne hapart]
  have hhistory : t.historyOf pointer.pointerId = s.historyOf pointer.pointerId := by
    cases hp : s.releasePointers.get pointer.pointerId with
    | none => rw [hs.unreleased _ hp,ht.unreleased _ (hpointer.trans hp)]
    | some p => exact h.history _ p (hpointer.trans hp)
  have hrevision : t.assertCasRevision mutation pointer = s.assertCasRevision mutation pointer := by
    unfold Repository.assertCasRevision
    rw [hpointer]
  have hprior : t.casPriorEvent pointer activation = s.casPriorEvent pointer activation := by
    unfold Repository.casPriorEvent
    rw [hhistory]
  unfold Repository.compareAndSwapRelease
  rw [hrevision,hprior,hhistory]
  cases assertCasIdentity pointer mutation activation with
  | error e => exact .error
  | ok u =>
  cases assertCasScope scope pointer mutation with
  | error e => exact .error
  | ok u =>
  cases assertCasTarget mutation pointer activation with
  | error e => exact .error
  | ok u =>
  cases s.assertCasRevision mutation pointer with
  | error e => exact .error
  | ok u =>
  cases s.casPriorEvent pointer activation with
  | error e => exact .error
  | ok priorEvent =>
    refine .ok ⟨h.organizations,h.tenants,h.records,?_,?_⟩
    · intro pointerId
      rw [Dict.get_set,Dict.get_set]
      split_ifs
      · rw [hide_of_ne]
        intro p hp
        cases hp
        exact howner
      · exact h.pointers pointerId
    · intro pointerId p hp
      rw [Dict.get_set] at hp
      unfold Repository.historyOf
      split_ifs with hfind
      · rw [Dict.get_set,Dict.get_set]
        split_ifs at hp ⊢ with hsame
        · rfl
        · exact h.history pointerId p hp
      · split_ifs at hp with hsame
        · rw [hsame]
          exact hhistory
        · exact h.history pointerId p hp

theorem Purged.activate_both {request : ActivationRequest} (h : Purged A s t) (hs : Consistent s) (ht : Consistent t)
    (hscope : scope.tenantId.1 ≠ A) (hapart : ¬Call.Meets A s (.activate scope request)) :
    Alike A (Call.run s (.activate scope request)) (Call.run t (.activate scope request)) := by
  change Alike A ((activate scope request s).map _) ((activate scope request t).map _)
  unfold activate
  rw [h.reads hscope]
  cases hprepare : prepare scope request (s.reads scope) with
  | error e => exact .error
  | ok swap =>
    have hprepared := prepare_ok hprepare
    have howner : swap.pointer.owner.2 ≠ A := by
      rw [show swap.pointer.owner.2 = scope.tenantId.1 from congrArg Subtype.val hprepared.owner.2]
      exact hscope
    have hswap := @Purged.swap_both s t scope A swap.mutation swap.pointer swap.activation h hs ht howner (by
      intro p hp hA
      rw [hprepared.named] at hp
      exact hapart ⟨p,hA,hp⟩)
    dsimp only [bind,Except.bind]
    unfold applyCas
    generalize s.compareAndSwapRelease scope swap.mutation swap.pointer swap.activation = x at hswap ⊢
    generalize t.compareAndSwapRelease scope swap.mutation swap.pointer swap.activation = y at hswap ⊢
    cases hswap with
    | error => exact .error
    | ok hpurged =>
      dsimp only
      split_ifs
      · exact .error
      · exact .ok hpurged

theorem Purged.run_both {call : Call} (h : Purged A s t) (hs : Consistent s) (ht : Consistent t)
    (hcall : call.InScope A = false) (hapart : ¬call.Meets A s) : Alike A (call.run s) (call.run t) := by
  cases call with
  | registerOrganization record =>
    change Alike A ((s.putOrganization record).map _) ((t.putOrganization record).map _)
    unfold Repository.putOrganization
    rw [h.organizations]
    cases retain s.organizations record.organizationId record with
    | error e => exact .error
    | ok organizations => exact .ok ⟨rfl,h.tenants,h.records,h.pointers,h.history⟩
  | registerTenant record =>
    change Alike A ((registerTenant record s).map _) ((registerTenant record t).map _)
    unfold registerTenant Repository.putTenant
    rw [h.organizations,h.tenants]
    cases found (s.organizations.get record.organizationId.1) (unavailable "organization_unavailable") with
    | error e => exact .error
    | ok organization =>
      dsimp only [bind,Except.bind]
      cases refuse (organization.lifecycle.status ≠ .active) (unavailable "organization_not_active") with
      | error e => exact .error
      | ok u =>
        cases retain s.tenants record.tenantId record with
        | error e => exact .error
        | ok tenants => exact .ok ⟨rfl,rfl,h.records,h.pointers,h.history⟩
  | register scope k record => exact h.register_both hs (of_decide_eq_false hcall) hapart
  | activate scope request => exact h.activate_both hs ht (of_decide_eq_false hcall) hapart

theorem Purged.others {call : Call} (h : Purged A s t) (hs : Consistent s) (ht : Consistent t)
    (hcall : call.InScope A = false) (hapart : ¬call.Meets A s) :
    (step s call).1 = (step t call).1 ∧ Purged A (step s call).2 (step t call).2 := by
  have hboth := h.run_both hs ht hcall hapart
  unfold step
  generalize call.run s = x at hboth ⊢
  generalize call.run t = y at hboth ⊢
  cases hboth with
  | error => exact ⟨rfl,h⟩
  | ok hpurged => exact ⟨rfl,hpurged⟩

theorem purged_after {calls : List Call} (h : Along step (Apart A) Repository.empty calls) :
    Purged A (after step Repository.empty calls)
        (after step Repository.empty (calls.filter fun call => !call.InScope A)) ∧
      Consistent (after step Repository.empty calls) ∧
      Consistent (after step Repository.empty (calls.filter fun call => !call.InScope A)) := by
  refine h.purge (V := fun s t => Purged A s t ∧ Consistent s ∧ Consistent t) ?_ ?_ ?_
  · rintro s t call hcall hapart ⟨hpurged,hs,ht⟩
    have hother : call.InScope A = false := Bool.not_eq_true' _ ▸ hcall
    exact ⟨(hpurged.others hs ht hother (hapart hother)).2,consistent_step s call hs,consistent_step t call ht⟩
  · rintro s t call hcall - ⟨hpurged,hs,ht⟩
    exact ⟨hpurged.own hs (Bool.not_eq_false' .. ▸ hcall),consistent_step s call hs,ht⟩
  · refine ⟨⟨rfl,rfl,fun _ _ => rfl,fun _ => rfl,?_⟩,consistent_empty,consistent_empty⟩
    intro pointerId p hp
    cases hp

theorem answer_purged {calls : List Call} {call : Call} (hcall : call.InScope A = false)
    (h : Along step (Apart A) Repository.empty (calls ++ [call])) :
    (step (after step Repository.empty calls) call).1 =
      (step (after step Repository.empty (calls.filter fun c => !c.InScope A)) call).1 := by
  obtain ⟨hbefore,hlast,-⟩ := along_append.mp h
  obtain ⟨hpurged,hs,ht⟩ := purged_after hbefore
  exact (hpurged.others hs ht hcall (hlast hcall)).1

/-- Two runs that differ in one tenant's calls answer a call of another tenant alike, when no call of others
is to put a record where one of the first tenant's stands. -/
theorem tenants_isolated {A B : String} (hAB : A ≠ B) {calls calls' : List Call} {call : Call}
    (hsame : (calls.filter fun c => !c.InScope A) = calls'.filter fun c => !c.InScope A)
    (hcall : call.InScope B = true) (h : Along step (Apart A) Repository.empty (calls ++ [call]))
    (h' : Along step (Apart A) Repository.empty (calls' ++ [call])) :
    (step (after step Repository.empty calls) call).1 = (step (after step Repository.empty calls') call).1 := by
  have hother : call.InScope A = false := by
    cases call with
    | registerOrganization record => rfl
    | registerTenant record => rfl
    | register scope k record =>
      have hB : scope.tenantId.1 = B := of_decide_eq_true hcall
      exact decide_eq_false (hB ▸ hAB.symm)
    | activate scope request =>
      have hB : scope.tenantId.1 = B := of_decide_eq_true hcall
      exact decide_eq_false (hB ▸ hAB.symm)
  rw [answer_purged hother h,answer_purged hother h',hsame]

namespace Fixture

def lifecycle : LifecycleState := ⟨.active,⟨"retention:default",by decide +kernel⟩⟩
def first : Positive := ⟨1,by decide⟩
def organization : OrganizationIdentity := ⟨⟨"acme",by decide +kernel⟩,first,lifecycle⟩

def organizationId : Identifier :=
  ⟨organization.organizationId,isIdentifier_derivedId (by decide) (by decide) (by decide)⟩
def tenant (slug : NameText) : TenantIdentity := ⟨organizationId,slug,first,lifecycle⟩
def tenantId (slug : NameText) : Identifier :=
  ⟨(tenant slug).tenantId,isIdentifier_derivedId (by decide) (by decide) (by decide)⟩
def principal (slug : NameText) : PrincipalIdentity :=
  ⟨organizationId,tenantId slug,.user,⟨"user:alice",by decide +kernel⟩,first,lifecycle⟩
def principalId (slug : NameText) : Identifier :=
  ⟨(principal slug).principalId,isIdentifier_derivedId (by decide) (by decide) (by decide)⟩
def scopeOf (slug : NameText) : TenantScope := ⟨organizationId,tenantId slug,principalId slug,none⟩
def policy (slug : NameText) (name : Identifier) : RetentionPolicy :=
  ⟨name,organizationId,tenantId slug,⟨30,by decide⟩,false,first⟩

def alpha : NameText := ⟨"a",by decide +kernel⟩
def beta : NameText := ⟨"b",by decide +kernel⟩
def standard : Identifier := ⟨"retention:default",by decide +kernel⟩
def special : Identifier := ⟨"retention:special",by decide +kernel⟩

def registering (slug : NameText) (name : Identifier) : Call :=
  .register (scopeOf slug) .retentionPolicy (policy slug name)

def founding : List Call := [
  .registerOrganization organization,.registerTenant (tenant alpha),.registerTenant (tenant beta),
  .register (scopeOf alpha) .principal (principal alpha),
  .register (scopeOf beta) .principal (principal beta)]

theorem tenants_differ : (tenant alpha).tenantId ≠ (tenant beta).tenantId := by decide +kernel
theorem principals_differ : (principal alpha).principalId ≠ (principal beta).principalId := by decide +kernel

def organized : Repository :=
  {Repository.empty with organizations := Dict.set ∅ organization.organizationId organization}
def joined (s : Repository) (t : TenantIdentity) : Repository := {s with tenants := s.tenants.set t.tenantId t}
def stored (s : Repository) (p : PrincipalIdentity) : Repository :=
  {s with records := Function.update s.records .principal ((s.records .principal).set p.principalId p)}

theorem stored_principal (s : Repository) (p : PrincipalIdentity) :
    (stored s p).records .principal = (s.records .principal).set p.principalId p := by
  dsimp only [stored]
  rw [Function.update_self]

def tenanted : Repository := joined (joined organized (tenant alpha)) (tenant beta)
def founded : Repository := stored (stored tenanted (principal alpha)) (principal beta)

theorem tenant_seen {s : Repository} (h : s.tenants = tenanted.tenants) {slug : NameText}
    (hslug : slug = alpha ∨ slug = beta) : ∃ t, (s.reads (scopeOf slug)).tenant (scopeOf slug).tenantId.1 = some t ∧
      t.lifecycle.status = .active := by
  refine ⟨tenant slug,scopeRecord_eq_some.mpr ⟨?_,rfl⟩,rfl⟩
  rw [h]
  rcases hslug with rfl | rfl
  · exact (Dict.get_set_ne _ _ tenants_differ).trans (Dict.get_set_self _ _ _)
  · exact Dict.get_set_self _ _ _

theorem principal_new : ((stored tenanted (principal alpha)).records .principal).get (principal beta).principalId =
    none := by
  rw [stored_principal]
  exact (Dict.get_set_ne _ _ principals_differ.symm).trans (Dict.get_empty _)

theorem principal_registered {s : Repository} (h : s.tenants = tenanted.tenants) {slug : NameText}
    (hslug : slug = alpha ∨ slug = beta) (hnew : (s.records .principal).get (principal slug).principalId = none) :
    step s (.register (scopeOf slug) .principal (principal slug)) = (.ok .none,stored s (principal slug)) := by
  have hput : s.put .principal (principal slug) = .ok (stored s (principal slug)) := put_new hnew
  have hscope : requireTenantScope (s.reads (scopeOf slug)) (scopeOf slug) organizationId (tenantId slug) false =
    .ok () := requireTenantScope_tenant (tenant_seen h hslug)
  have hregister : gated .principal false (fun _ => .ok ()) (scopeOf slug) (principal slug) s =
    .ok (stored s (principal slug)) := gated_ok.mpr ⟨hscope,rfl,hput⟩
  exact step_registered hregister

theorem organization_found : organized.organizations.get organizationId.1 = some organization :=
  Dict.get_set_self _ _ _
theorem step_organization : step Repository.empty (.registerOrganization organization) = (.ok .none,organized) :=
  registerOrganization_new (Dict.get_empty _)
theorem step_alpha : step organized (.registerTenant (tenant alpha)) = (.ok .none,joined organized (tenant alpha)) :=
  registerTenant_new organization_found rfl (Dict.get_empty _)
theorem step_beta : step (joined organized (tenant alpha)) (.registerTenant (tenant beta)) = (.ok .none,tenanted) :=
  registerTenant_new organization_found rfl ((Dict.get_set_ne _ _ tenants_differ.symm).trans (Dict.get_empty _))
theorem step_principal_alpha : step tenanted (.register (scopeOf alpha) .principal (principal alpha)) =
    (.ok .none,stored tenanted (principal alpha)) := principal_registered rfl (.inl rfl) (Dict.get_empty _)

theorem step_principal_beta : step (stored tenanted (principal alpha))
    (.register (scopeOf beta) .principal (principal beta)) = (.ok .none,founded) :=
  @principal_registered (stored tenanted (principal alpha)) rfl beta (.inr rfl) principal_new

theorem after_founding (calls : List Call) : after step Repository.empty (founding ++ calls) =
    after step founded calls := by
  unfold founding
  rw [List.cons_append,List.cons_append,List.cons_append,List.cons_append,List.cons_append,List.nil_append,
    after_cons,step_organization,after_cons,step_alpha,after_cons,step_beta,after_cons,step_principal_alpha,
    after_cons,step_principal_beta]

theorem principal_found {slug : NameText} (hslug : slug = alpha ∨ slug = beta) :
    (founded.records .principal).get (principal slug).principalId = some (principal slug) := by
  unfold founded
  rw [stored_principal]
  rcases hslug with rfl | rfl
  · rw [Dict.get_set_ne _ _ principals_differ,stored_principal]
    exact Dict.get_set_self _ _ _
  · exact Dict.get_set_self _ _ _

theorem founded_admits {slug : NameText} (hslug : slug = alpha ∨ slug = beta) : Admits founded (scopeOf slug) :=
  ⟨tenant_seen rfl hslug,⟨principal slug,scopeRecord_eq_some.mpr ⟨principal_found hslug,rfl⟩,rfl⟩,rfl⟩
theorem no_policy (name : String) : (founded.records .retentionPolicy).get name = none := by
  exact Dict.get_empty _

def withPolicy (s : Repository) (p : RetentionPolicy) : Repository := {s with
  records := Function.update s.records .retentionPolicy ((s.records .retentionPolicy).set p.retentionPolicyId.1 p)}

theorem policy_registered {slug : NameText} (hslug : slug = alpha ∨ slug = beta) (name : Identifier) :
    step founded (registering slug name) = (.ok .none,withPolicy founded (policy slug name)) := by
  have hput : founded.put .retentionPolicy (policy slug name) = .ok (withPolicy founded (policy slug name)) :=
    put_new (no_policy name.1)
  have hregister : gated .retentionPolicy true (fun _ => .ok ()) (scopeOf slug) (policy slug name) founded =
    .ok (withPolicy founded (policy slug name)) :=
    gated_ok.mpr ⟨(founded_admits hslug).requireTenantScope,rfl,hput⟩
  exact step_registered hregister

theorem policy_found (name : Identifier) (name' : String) :
    ((withPolicy founded (policy alpha name)).records .retentionPolicy).get name' =
      if name' = name.1 then some (policy alpha name) else none := by
  dsimp only [withPolicy]
  rw [Function.update_self,Dict.get_set,no_policy]
  rfl

theorem policy_admits (name : Identifier) : Admits (withPolicy founded (policy alpha name)) (scopeOf beta) := by
  have hprincipal : (withPolicy founded (policy alpha name)).records .principal = founded.records .principal := by
    dsimp only [withPolicy]
    rw [Function.update_of_ne (by decide)]
  refine ⟨tenant_seen rfl (.inr rfl),⟨principal beta,scopeRecord_eq_some.mpr ⟨?_,rfl⟩,rfl⟩,rfl⟩
  rw [hprincipal]
  exact principal_found (.inr rfl)

theorem policy_refused : step (withPolicy founded (policy alpha standard)) (registering beta standard) =
    (.error ⟨.repository,"immutable foundation record mutation"⟩,withPolicy founded (policy alpha standard)) := by
  have hne : policy alpha standard ≠ policy beta standard := by
    intro h
    exact tenants_differ (congrArg (fun p : RetentionPolicy => p.tenantId.1) h)
  have hput : (withPolicy founded (policy alpha standard)).put .retentionPolicy (policy beta standard) =
    .error ⟨.repository,"immutable foundation record mutation"⟩ :=
    put_refused ((policy_found standard _).trans (if_pos rfl)) hne
  exact step_refused (gated_refused (policy_admits standard).requireTenantScope hput)

end Fixture

open Fixture in
/-- Two tenants are registered and one of them registers a policy; then the other cannot register its own
policy of that name, and could have without that call. -/
theorem policy_denied_by_other_tenant :
    let calls := founding ++ [registering alpha standard]
    let A := (tenantId alpha).1
    A ≠ (tenantId beta).1 ∧ (registering beta standard).InScope (tenantId beta).1 = true ∧
      (calls.filter fun c => !c.InScope A) = founding.filter (fun c => !c.InScope A) ∧
      (after step Repository.empty founding).tenants.get A = some (tenant alpha) ∧
      (after step Repository.empty founding).tenants.get (tenantId beta).1 = some (tenant beta) ∧
      (step (after step Repository.empty founding) (registering beta standard)).1 = .ok .none ∧
      (step (after step Repository.empty calls) (registering beta standard)).1 =
        .error ⟨.repository,"immutable foundation record mutation"⟩ := by
  have hfounding : after step Repository.empty founding = founded := by
    have h := after_founding []
    rwa [List.append_nil] at h
  have hcalls : after step Repository.empty (founding ++ [registering alpha standard]) =
      withPolicy founded (policy alpha standard) := by
    rw [after_founding,after_cons,policy_registered (.inl rfl)]
    rfl
  intro calls A
  refine ⟨tenants_differ,decide_eq_true rfl,?_,?_,?_,?_,?_⟩
  · rw [List.filter_append]
    have hnil : [registering alpha standard].filter (fun c => !c.InScope A) = [] :=
      List.filter_cons_of_neg (by simp [registering,Call.InScope,scopeOf,A])
    rw [hnil,List.append_nil]
  · rw [hfounding]
    exact (Dict.get_set_ne _ _ tenants_differ).trans (Dict.get_set_self _ _ _)
  · rw [hfounding]
    exact Dict.get_set_self _ _ _
  · rw [hfounding,policy_registered (.inr rfl)]
  · rw [hcalls,policy_refused]

open Fixture in
theorem founding_apart : Along step (Apart (tenantId alpha).1) Repository.empty founding := by
  unfold founding
  refine ⟨fun _ h => h,?_⟩
  rw [step_organization]
  refine ⟨fun _ h => h,?_⟩
  rw [step_alpha]
  refine ⟨fun _ h => h,?_⟩
  rw [step_beta]
  refine ⟨?_,?_⟩
  · intro hcall
    exact absurd rfl (of_decide_eq_false hcall)
  rw [step_principal_alpha]
  refine ⟨?_,trivial⟩
  rintro - ⟨-,-,r,hget,-⟩
  cases principal_new.symm.trans hget

open Fixture in
/-- A policy of another name is not in the way. -/
theorem tenants_isolated_here : (step (after step Repository.empty (founding ++ [registering alpha special]))
    (registering beta standard)).1 = (step (after step Repository.empty founding) (registering beta standard)).1 := by
  have hfounding : after step Repository.empty founding = founded := by
    have h := after_founding []
    rwa [List.append_nil] at h
  have hown : (registering alpha special).InScope (tenantId alpha).1 = true := decide_eq_true rfl
  refine tenants_isolated (A := (tenantId alpha).1) (B := (tenantId beta).1) tenants_differ ?_ (decide_eq_true rfl) ?_ ?_
  · have hnil : [registering alpha special].filter (fun c => !c.InScope (tenantId alpha).1) = [] :=
      List.filter_cons_of_neg (by rw [hown]; decide)
    rw [List.filter_append,hnil,List.append_nil]
  · rw [along_append,along_append]
    refine ⟨⟨founding_apart,?_,trivial⟩,?_,trivial⟩
    · intro hcall
      rw [hown] at hcall
      cases hcall
    · rintro - ⟨-,-,r,hget,-⟩
      rw [after_founding,after_cons,policy_registered (.inl rfl)] at hget
      cases ((policy_found special _).trans (if_neg (by decide))).symm.trans hget
  · rw [along_append]
    refine ⟨founding_apart,?_,trivial⟩
    rintro - ⟨-,-,r,hget,-⟩
    rw [hfounding] at hget
    cases (no_policy _).symm.trans hget

end Arbora.Foundation
