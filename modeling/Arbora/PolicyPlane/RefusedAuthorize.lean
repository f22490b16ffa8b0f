import Arbora.PolicyPlane.Reverification

/-! What a refused `authorize` leaves on record. -/
namespace Arbora.PolicyPlane
open Guards

def SameRecords (s s' : PolicyAuthority) : Prop :=
  (∀ key, s'.approvals.get key = s.approvals.get key) ∧ ∀ key, s'.exceptions.get key = s.exceptions.get key

section
variable {verify : OpaqueRef → Digest → Signature → Bool} {s s' : PolicyAuthority}
  {approval : Option ApprovalDecision} {exception : Option PolicyException}

theorem SameRecords.refl (s : PolicyAuthority) : SameRecords s s := ⟨fun _ => rfl,fun _ => rfl⟩

def ApprovalNew (s : PolicyAuthority) (a : ApprovalDecision) : Prop :=
  s.approvals.get (a.policyRef.policyId,a.approvalId) = none
def ExceptionNew (s : PolicyAuthority) (e : PolicyException) : Prop :=
  s.exceptions.get (e.policyRef.policyId,e.exceptionId) = none

private theorem get_set_same {κ ν : Type} [DecidableEq κ] {d : Dict κ ν} {key : κ} {record : ν}
    (hprior : ∀ prior, d.get key = some prior → prior = record) :
    (∀ k, (d.set key record).get k = d.get k) ↔ d.get key ≠ none := by
  constructor
  · intro h hnone
    have hset := h key
    rw [Dict.get_set_self,hnone] at hset
    cases hset
  · intro hstands k
    obtain ⟨prior,hget⟩ := Option.ne_none_iff_exists'.mp hstands
    rw [Dict.get_set]
    split_ifs with hk
    · rw [hk,hget,hprior prior hget]
    · rfl

theorem sameRecords_recorded (ha : ∀ a ∈ approval, Recordable s a) (he : ∀ e ∈ exception, ExceptionRecordable s e) :
    SameRecords s (recorded s approval exception) ↔
      ¬((∃ a ∈ approval, ApprovalNew s a) ∨ ∃ e ∈ exception, ExceptionNew s e) := by
  have happroval : (∀ key, (recorded s approval exception).approvals.get key = s.approvals.get key) ↔
      ¬∃ a ∈ approval, ApprovalNew s a := by
    cases approval with
    | none =>
      cases exception with
      | none => simp [recorded]
      | some e => simp [recorded,PolicyAuthority.withException]
    | some a =>
      have hset := get_set_same (ha a rfl)
      cases exception with
      | none => simpa [recorded,PolicyAuthority.withApproval,ApprovalNew] using hset
      | some e => simpa [recorded,PolicyAuthority.withApproval,PolicyAuthority.withException,ApprovalNew] using hset
  have hexception : (∀ key, (recorded s approval exception).exceptions.get key = s.exceptions.get key) ↔
      ¬∃ e ∈ exception, ExceptionNew s e := by
    cases exception with
    | none =>
      cases approval with
      | none => simp [recorded]
      | some a => simp [recorded,PolicyAuthority.withApproval]
    | some e =>
      have hset := get_set_same (he e rfl)
      cases approval with
      | none => simpa [recorded,PolicyAuthority.withException,ExceptionNew] using hset
      | some a => simpa [recorded,PolicyAuthority.withApproval,PolicyAuthority.withException,ExceptionNew] using hset
  unfold SameRecords
  rw [happroval,hexception,not_or]

theorem atomic_recordApproval (a : ApprovalDecision) : Atomic (recordApproval verify a) := by
  refine (reads_check _).atomic_bind fun _ => reads_get.atomic_bind fun _ => ?_
  exact (reads_refuse _ _).atomic_bind fun _ => (returns_modify _).atomic

theorem atomic_recordException (e : PolicyException) : Atomic (recordException verify e) := by
  refine (reads_check _).atomic_bind fun _ => reads_get.atomic_bind fun _ => ?_
  exact (reads_refuse _ _).atomic_bind fun _ => (returns_modify _).atomic

theorem recordException_conflict {e : PolicyException} (hsigned : verify e.signerRef e.exceptionDigest e.signature = true)
    (h : ¬ExceptionRecordable s e) :
    (recordException verify e).run s = .error ⟨.policyConflictError,"exception_identity_conflict"⟩ s := by
  have hprior : (s.exceptions.get (e.policyRef.policyId,e.exceptionId)).any (· ≠ e) = true := by
    by_contra hnone
    exact h (not_any_ne.mp hnone)
  have hverified : verifyExceptionSignature verify e = .ok () := verifyExceptionSignature_ok.mpr hsigned
  unfold recordException
  rw [hverified]
  change (refuse _ _ >>= _).run s = _
  rw [refuse,if_pos hprior]
  rfl

variable {e : PolicyError}

theorem forM_recordApproval_error (h : (approval.forM (recordApproval verify)).run s = .error e s') : s' = s := by
  cases approval with
  | none => cases h
  | some a => exact atomic_recordApproval a s e s' h

theorem forM_recordException_error (h : (exception.forM (recordException verify)).run s = .error e s') : s' = s := by
  cases exception with
  | none => cases h
  | some x => exact atomic_recordException x s e s' h

theorem recordIfPresent_error (h : (recordIfPresent verify approval exception).run s = .error e s') :
    s' = s ∨ (∀ a ∈ approval, Recordable s a) ∧ s' = recorded s approval none := by
  rcases bind_error.mp h with h | ⟨_,m,happroval,hexception⟩
  · exact .inl (forM_recordApproval_error h)
  · have hrun : (recordIfPresent verify approval none).run s = .ok ⟨⟩ m :=
      bind_ok.mpr ⟨_,m,happroval,pure_ok.mpr ⟨rfl,rfl⟩⟩
    have hstored := recordIfPresent_ok.mp hrun
    rw [forM_recordException_error hexception]
    exact .inr ⟨fun a ha => (hstored.1 a ha).2,hstored.2.2⟩

end

section
variable (verify : OpaqueRef → Digest → Signature → Bool) (s : PolicyAuthority) (request : Request)
  (approval : Option ApprovalDecision) (exception : Option PolicyException) (t : ℤ)

/-- Every check of `authorize` passes, but for those made while recording and building the answer. -/
def Admissible : Prop :=
  isDigest request.requestDigest = true ∧ (∃ policy rule, Grounds verify s request approval exception policy rule) ∧
    WithinWindows approval exception t

def FailsAfterRecording : Prop :=
  (∀ a ∈ approval, Recordable s a) ∧
    ((∃ a ∈ approval, ApprovalNew s a) ∧ (∃ e ∈ exception, ¬ExceptionRecordable s e) ∨
      (∀ e ∈ exception, ExceptionRecordable s e) ∧ 256 < request.bindings.length ∧
        ((∃ a ∈ approval, ApprovalNew s a) ∨ ∃ e ∈ exception, ExceptionNew s e))

variable {verify s request approval exception t} {s' : PolicyAuthority} {z : PolicyAuthorization}

theorem authorize_of_admissible (h : Admissible verify s request approval exception t) :
    (authorize verify request approval exception t).run s =
      (recordIfPresent verify approval exception >>= fun _ => check (buildAuthorization request.policyRef
        request.operation request.requestDigest request.bindings request.requestedBudget (approval.map (·.ref))
        (exception.map (·.ref)) t)).run s := by
  obtain ⟨hdigest,⟨policy,rule,hg⟩,hwa,hwe⟩ := h
  have hexception := validateException_ok.mpr ⟨rfl,fun e he => ⟨hg.excepted e he,hwe e he⟩⟩
  have happroval := validateApproval_ok.mpr ⟨rfl,hg.required,fun a ha => ⟨hg.approved a ha,hwa a ha⟩⟩
  have hgate : checkDenyGate rule (exception.map (·.ref)) exception = .ok () := checkDenyGate_ok.mpr hg.allowed
  have hfresh : ¬isDigest request.requestDigest = false := by simp [hdigest]
  unfold authorize
  rw [refuse_bind_of_not hfresh]
  change (check (resolve s request.policyRef) >>= _).run s = _
  rw [hg.resolved,← resolve_ref hg.resolved]
  change (check (resolveRuleFor policy request.operation) >>= _).run s = _
  rw [hg.ruled]
  change (check (checkBudget request.requestedBudget rule) >>= _).run s = _
  rw [hg.budgeted]
  rw [hg.bound]
  change (check (validateException verify exception policy request.operation request.requestDigest
    request.requestedBudget t) >>= _).run s = _
  rw [hexception]
  change (check (checkDenyGate rule (exception.map (·.ref)) exception) >>= _).run s = _
  rw [hgate]
  change (check (validateApproval verify approval policy request.operation request.requestDigest
    (rule.approvalRequired || policy.approval.required) t) >>= _).run s = _
  rw [happroval]
  rfl

variable {e : PolicyError}

private theorem error_check_bind {α β : Type} {r : Except PolicyError α} {f : α → Op β} (h :
    (check r >>= f).run s = .error e s') : s' = s ∨ ∃ a, r = .ok a ∧ (f a).run s = .error e s' := by
  rcases (reads_check r).error_bind h with h | ⟨a,ha,h⟩
  · exact .inl h
  · exact .inr ⟨a,(check_ok.mp ha).1,h⟩

/-- Nothing is written before the last check passed. -/
theorem authorize_error (h : (authorize verify request approval exception t).run s = .error e s') :
    s' = s ∨ Admissible verify s request approval exception t := by
  rcases (reads_refuse _ _).error_bind h with h | ⟨_,hdigest,h⟩
  · exact .inl h
  rcases reads_get.error_bind h with h | ⟨_,hget,h⟩
  · exact .inl h
  obtain ⟨rfl,_⟩ := get_ok.mp hget
  rcases error_check_bind h with h | ⟨policy,hresolved,h⟩
  · exact .inl h
  rcases error_check_bind h with h | ⟨rule,hruled,h⟩
  · exact .inl h
  rcases error_check_bind h with h | ⟨_,hbudgeted,h⟩
  · exact .inl h
  rcases error_check_bind h with h | ⟨_,hbound,h⟩
  · exact .inl h
  rcases error_check_bind h with h | ⟨_,hexception,h⟩
  · exact .inl h
  rcases error_check_bind h with h | ⟨_,hgate,h⟩
  · exact .inl h
  rcases error_check_bind h with h | ⟨_,happroval,h⟩
  · exact .inl h
  obtain ⟨rfl,hexcepted⟩ := validateException_ok.mp hexception
  obtain ⟨_,hrequired,happroved⟩ := validateApproval_ok.mp happroval
  refine .inr ⟨by simpa using (refuse_ok.mp hdigest).1,⟨policy,rule,?_⟩,fun a ha => (happroved a ha).2,
    fun e he => (hexcepted e he).2⟩
  exact ⟨hresolved,hruled,hbudgeted,hbound,fun e he => (hexcepted e he).1,checkDenyGate_ok.mp hgate,hrequired,
    fun a ha => (happroved a ha).1⟩

section
variable (h : Admissible verify s request approval exception t)
include h

theorem Admissible.returns (ha : ∀ a ∈ approval, Recordable s a)
    (he : ∀ e ∈ exception, ExceptionRecordable s e) (ht : 0 ≤ t) (hbound : request.bindings.length ≤ 256) :
    ∃ z s', (authorize verify request approval exception t).run s = .ok z s' := by
  obtain ⟨hdigest,⟨policy,rule,hg⟩,hw⟩ := h
  have hkey : isKey request.operation = true := by
    rw [← ruleFor_operation hg.ruled]
    exact rule.operation.2
  exact ⟨⟨request.policyRef,⟨_,hkey⟩,⟨_,hdigest⟩,request.bindings,request.requestedBudget,approval.map (·.ref),
    exception.map (·.ref),t.toNat,hbound⟩,_,authorize_ok.mpr ⟨ht,rfl,rfl,rfl,Int.toNat_of_nonneg ht,⟨policy,rule,hg⟩,hw,
    ha,he,rfl⟩⟩

theorem Admissible.time_nonneg (hgiven : (∃ a, a ∈ approval) ∨ ∃ e, e ∈ exception) : 0 ≤ t := by
  obtain ⟨_,_,hwa,hwe⟩ := h
  rcases hgiven with ⟨a,ha⟩ | ⟨e,he⟩
  · exact (Int.natCast_nonneg a.issuedAt).trans (hwa a ha).1
  · exact (Int.natCast_nonneg e.issuedAt).trans (hwe e he).1

theorem Admissible.recorded (ha : ∀ a ∈ approval, Recordable s a) (he : ∀ e ∈ exception, ExceptionRecordable s e) :
    (recordIfPresent verify approval exception).run s = .ok ⟨⟩ (recorded s approval exception) := by
  obtain ⟨_,⟨policy,rule,hg⟩,_⟩ := h
  exact recordIfPresent_ok.mpr ⟨fun a h => ⟨(hg.approved a h).signed,ha a h⟩,
    fun e h => ⟨(hg.excepted e h).signed,he e h⟩,rfl⟩

theorem Admissible.error (herror : (authorize verify request approval exception t).run s = .error e s') :
    SameRecords s s' ∨ FailsAfterRecording s request approval exception := by
  have hrest := herror
  rw [authorize_of_admissible h] at hrest
  rcases bind_error.mp hrest with hrecord | ⟨_,m,hrecord,hbuild⟩
  · rcases recordIfPresent_error hrecord with rfl | ⟨ha,rfl⟩
    · exact .inl (.refl s')
    · by_cases hnew : ∃ a ∈ approval, ApprovalNew s a
      · refine .inr ⟨ha,.inl ⟨hnew,?_⟩⟩
        by_contra hnone
        have he : ∀ e ∈ exception, ExceptionRecordable s e := fun e he => by_contra fun hnot => hnone ⟨e,he,hnot⟩
        rw [h.recorded ha he] at hrecord
        cases hrecord
      · have hsame : SameRecords s (PolicyPlane.recorded s approval none) :=
          (sameRecords_recorded ha (by simp)).mpr (by simpa using hnew)
        exact .inl hsame
  · obtain ⟨ha,he,rfl⟩ := recordIfPresent_ok.mp hrecord
    cases (reads_check _).2 _ _ _ hbuild
    have ha' : ∀ a ∈ approval, Recordable s a := fun a hmem => (ha a hmem).2
    have he' : ∀ e ∈ exception, ExceptionRecordable s e := fun e hmem => (he e hmem).2
    by_cases hnew : (∃ a ∈ approval, ApprovalNew s a) ∨ ∃ e ∈ exception, ExceptionNew s e
    · refine .inr ⟨ha',.inr ⟨he',?_,hnew⟩⟩
      by_contra hbound
      have ht : 0 ≤ t := h.time_nonneg (hnew.imp (fun ⟨a,hmem,_⟩ => ⟨a,hmem⟩) fun ⟨e,hmem,_⟩ => ⟨e,hmem⟩)
      obtain ⟨z,s'',hok⟩ := h.returns ha' he' ht (not_lt.mp hbound)
      rw [hok] at herror
      cases herror
    · exact .inl ((sameRecords_recorded ha' he').mpr hnew)

theorem Admissible.changed (hfails : FailsAfterRecording s request approval exception) :
    ∃ e s', (authorize verify request approval exception t).run s = .error e s' ∧ ¬SameRecords s s' := by
  obtain ⟨ha,⟨hnew,x,hx,hconflict⟩ | ⟨he,hbound,hnew⟩⟩ := hfails
  · obtain ⟨a,hmem,hnew⟩ := hnew
    cases hmem
    cases hx
    have happroval : (recordApproval verify a).run s = .ok () (s.withApproval a) := by
      obtain ⟨_,⟨policy,rule,hg⟩,_⟩ := h
      exact recordApproval_ok.mpr ⟨(hg.approved a rfl).signed,ha a rfl,rfl⟩
    have hexception : (recordException verify x).run (s.withApproval a) =
        .error ⟨.policyConflictError,"exception_identity_conflict"⟩ (s.withApproval a) := by
      obtain ⟨_,⟨policy,rule,hg⟩,_⟩ := h
      exact recordException_conflict (hg.excepted x rfl).signed hconflict
    refine ⟨⟨.policyConflictError,"exception_identity_conflict"⟩,s.withApproval a,?_,fun hsame => ?_⟩
    · rw [authorize_of_admissible h,bind_error]
      exact .inl (bind_error.mpr (.inr ⟨⟨⟩,_,happroval,hexception⟩))
    · have hset := hsame.1 (a.policyRef.policyId,a.approvalId)
      rw [hnew] at hset
      exact absurd hset (by simp [PolicyAuthority.withApproval])
  · have hrecord := h.recorded ha he
    have hbuild : ∃ e, buildAuthorization request.policyRef request.operation request.requestDigest request.bindings
        request.requestedBudget (approval.map (·.ref)) (exception.map (·.ref)) t = .error e := by
      unfold buildAuthorization
      by_cases hkey : isKey request.operation = true
      · rw [dif_pos hkey,dif_pos h.1,dif_neg (not_le.mpr hbound)]
        exact ⟨_,rfl⟩
      · rw [dif_neg hkey]
        exact ⟨_,rfl⟩
    obtain ⟨e,hbuild⟩ := hbuild
    refine ⟨e,PolicyPlane.recorded s approval exception,?_,fun hsame => (sameRecords_recorded ha he).mp hsame hnew⟩
    rw [authorize_of_admissible h,bind_error]
    refine .inr ⟨⟨⟩,_,hrecord,?_⟩
    rw [hbuild]
    rfl

end

/-- A refused call changes nothing, whatever is given to it, unless it fails after it recorded something new. -/
theorem refused_authorize_records : (∀ e s', (authorize verify request approval exception t).run s = .error e s' →
      SameRecords s s') ↔
    ¬(Admissible verify s request approval exception t ∧ FailsAfterRecording s request approval exception) := by
  constructor
  · rintro hsame ⟨h,hfails⟩
    obtain ⟨e,s',herror,hchanged⟩ := h.changed hfails
    exact hchanged (hsame e s' herror)
  · intro hnot e s' herror
    rcases authorize_error herror with rfl | h
    · exact .refl s'
    · rcases h.error herror with hsame | hfails
      · exact hsame
      · exact absurd ⟨h,hfails⟩ hnot

end

namespace Sample

theorem run_isKey : isKey "ops.run" = true := by decide +kernel
theorem scope_isRef : isRef "scope:ops" = true := by decide +kernel
theorem signer_isRef : isRef "signer:ops" = true := by decide +kernel
theorem signed : isSignature "sig:ops-1" = true := by decide +kernel
theorem issued_earlier : 100 < 200 := by decide

def exception : PolicyException where
  exceptionId := ⟨"exception:1",by decide +kernel⟩
  policyRef := policy.ref
  operation := ⟨"ops.run",run_isKey⟩
  requestDigest := requestDigest
  scopeRef := ⟨"scope:ops",scope_isRef⟩
  budget := budget
  issuedAt := 100
  expiresAt := 200
  signerRef := ⟨"signer:ops",signer_isRef⟩
  signature := ⟨"sig:ops-1",signed⟩
  expires := issued_earlier

def longer : PolicyException := {exception with expiresAt := 300,expires := by decide}

end Sample

open Sample in
/-- The approval stays on record though the call is refused for the exception. -/
theorem refused_run_approved : ∃ e s', (authorize verify run (some approval) (some longer) 150).run
      (authority.withException exception) = .error e s' ∧ ¬SameRecords (authority.withException exception) s' := by
  have hadmissible : Admissible verify (authority.withException exception) run (some approval) (some longer) 150 := by
    refine ⟨requestDigest.2,⟨policy,⟨⟨"ops.run",by decide +kernel⟩,.allow,true,budget⟩,?_⟩,?_,?_⟩
    · refine ⟨resolve_ok.mpr ⟨Dict.get_set_self ..,rfl⟩,rfl,rfl,rfl,?_,by decide,nofun,?_⟩
      · rintro _ ⟨⟩
        exact ⟨rfl,⟨rfl,rfl⟩,by decide,by decide,by decide +kernel⟩
      · rintro _ ⟨⟩
        exact ⟨rfl,⟨rfl,rfl⟩,rfl,by decide,by decide,by decide +kernel⟩
    · rintro _ ⟨⟩
      exact ⟨by decide,by decide⟩
    · rintro _ ⟨⟩
      exact ⟨by decide,by decide⟩
  have hrecordable : ∀ a ∈ some approval, Recordable (authority.withException exception) a := by
    rintro _ ⟨⟩ prior hprior
    cases hprior
  have hconflict : ¬ExceptionRecordable (authority.withException exception) longer := by
    intro h
    have hsame : exception = longer := h exception (Dict.get_set_self ..)
    exact absurd (congrArg PolicyException.expiresAt hsame) (by decide)
  exact hadmissible.changed ⟨hrecordable,.inl ⟨⟨approval,rfl,rfl⟩,longer,rfl,hconflict⟩⟩

end Arbora.PolicyPlane
