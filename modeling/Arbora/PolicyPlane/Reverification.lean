import Arbora.PolicyPlane.Authority

/-! Two paths to one decision: `authorize` from the objects a caller supplies, and `verify_authorization`
from the references it recorded. -/
namespace Arbora.PolicyPlane
open Guards

def ApprovalDecision.Within (a : ApprovalDecision) (t : ℤ) : Prop := a.issuedAt ≤ t ∧ t < a.expiresAt
def PolicyException.Within (e : PolicyException) (t : ℤ) : Prop := e.issuedAt ≤ t ∧ t < e.expiresAt

section
variable {verify : OpaqueRef → Digest → Signature → Bool} {policy : PolicyVersion} {operation requestDigest : String}

theorem Except.bind_ok {ε α β : Type} {x : Except ε α} {f : α → Except ε β} {b : β} :
    (x >>= f) = .ok b ↔ ∃ a, x = .ok a ∧ f a = .ok b := by
  cases x with
  | error e => simp [bind,Except.bind]
  | ok a => simp [bind,Except.bind]

private theorem discard_ok {ε α : Type} {x : Except ε α} {u : PUnit} : discard x = .ok u ↔ ∃ a, x = .ok a := by
  cases x with
  | error e => simp [discard,Functor.mapConst,Except.map]
  | ok a => simp [discard,Functor.mapConst,Except.map]

/-- What an approval must be, at whatever time. -/
structure ApprovalStands (verify : OpaqueRef → Digest → Signature → Bool) (policy : PolicyVersion)
    (operation requestDigest : String) (a : ApprovalDecision) : Prop where
  reference : a.policyRef = policy.ref
  request : a.operation.1 = operation ∧ a.requestDigest.1 = requestDigest
  approved : a.decision = .approved
  window : a.expiresAt - a.issuedAt ≤ policy.approval.maxAgeSeconds
  quorum : policy.approval.minApprovers ≤ a.approverRefs.length
  signed : verify a.signerRef a.decisionDigest a.signature = true

structure ExceptionStands (verify : OpaqueRef → Digest → Signature → Bool) (policy : PolicyVersion)
    (operation requestDigest : String) (budget : ExecutionBudget) (e : PolicyException) : Prop where
  reference : e.policyRef = policy.ref
  request : e.operation.1 = operation ∧ e.requestDigest.1 = requestDigest
  window : e.expiresAt - e.issuedAt ≤ 86400
  budgeted : budgetWithin budget e.budget = true
  signed : verify e.signerRef e.exceptionDigest e.signature = true

variable {u : Unit} {a : ApprovalDecision}

theorem checkApprovalIdentity_ok : checkApprovalIdentity a policy operation requestDigest = .ok u ↔
    a.policyRef = policy.ref ∧ a.operation.1 = operation ∧ a.requestDigest.1 = requestDigest := by
  unfold checkApprovalIdentity
  split_ifs with hp hr
  · simp [hp]
  · refine iff_of_false nofun ?_
    rintro ⟨_,ho,hd⟩
    exact hr.elim (fun h => h ho) (fun h => h hd)
  · rw [not_or,not_not,not_not] at hr
    exact iff_of_true rfl ⟨not_not.mp hp,hr⟩

theorem checkApprovalFreshness_ok {t : ℤ} : checkApprovalFreshness a policy t = .ok u ↔
    a.decision = .approved ∧ a.Within t ∧ a.expiresAt - a.issuedAt ≤ policy.approval.maxAgeSeconds ∧
      policy.approval.minApprovers ≤ a.approverRefs.length := by
  unfold checkApprovalFreshness ApprovalDecision.Within
  split_ifs with hd hw ha hq
  · simp [hd]
  · refine iff_of_false nofun ?_
    omega
  · refine iff_of_false nofun ?_
    intro h
    exact absurd h.2.2.1 (not_le.mpr ha)
  · refine iff_of_false nofun ?_
    omega
  · exact iff_of_true rfl ⟨not_not.mp hd,by omega,not_lt.mp ha,not_lt.mp hq⟩

theorem verifyApprovalSignature_ok : verifyApprovalSignature verify a = .ok u ↔
    verify a.signerRef a.decisionDigest a.signature = true := by
  unfold verifyApprovalSignature
  split_ifs with h
  · simp [h]
  · simp [h]

theorem verifyExceptionSignature_ok {e : PolicyException} : verifyExceptionSignature verify e = .ok u ↔
    verify e.signerRef e.exceptionDigest e.signature = true := by
  unfold verifyExceptionSignature
  split_ifs with h
  · simp [h]
  · simp [h]

theorem validateApproval_ok {approval : Option ApprovalDecision} {required : Bool} {t : ℤ} {r : Option ApprovalRef} :
    validateApproval verify approval policy operation requestDigest required t = .ok r ↔
      r = approval.map (·.ref) ∧ (approval = none → required = false) ∧
        ∀ a, approval = some a → ApprovalStands verify policy operation requestDigest a ∧ a.Within t := by
  cases approval with
  | none =>
    cases required with
    | true => simp [validateApproval]
    | false => simp [validateApproval,eq_comm (a := r)]
  | some a =>
    unfold validateApproval
    simp only [Except.bind_ok,checkApprovalIdentity_ok,checkApprovalFreshness_ok,verifyApprovalSignature_ok]
    constructor
    · rintro ⟨_,⟨hp,ho,hd⟩,_,⟨hdec,hw,hage,hq⟩,_,hs,hr⟩
      cases hr
      refine ⟨rfl,nofun,?_⟩
      rintro _ ⟨⟩
      exact ⟨⟨hp,⟨ho,hd⟩,hdec,hage,hq,hs⟩,hw⟩
    · rintro ⟨rfl,_,h⟩
      obtain ⟨hst,hw⟩ := h a rfl
      exact ⟨(),⟨hst.reference,hst.request⟩,(),⟨hst.approved,hw,hst.window,hst.quorum⟩,(),hst.signed,rfl⟩

theorem validateException_ok {exception : Option PolicyException} {budget : ExecutionBudget} {t : ℤ}
    {r : Option ExceptionRef} : validateException verify exception policy operation requestDigest budget t = .ok r ↔
      r = exception.map (·.ref) ∧
        ∀ e, exception = some e → ExceptionStands verify policy operation requestDigest budget e ∧ e.Within t := by
  cases exception with
  | none => simp [validateException,eq_comm (a := r)]
  | some e =>
    have hsome : (∀ e', some e = some e' → ExceptionStands verify policy operation requestDigest budget e' ∧ e'.Within t) ↔
        ExceptionStands verify policy operation requestDigest budget e ∧ e.Within t := by simp
    rw [hsome]
    simp only [validateException]
    split_ifs with hp hr hw hage hb
    · refine iff_of_false nofun ?_
      rintro ⟨_,hst,_⟩
      exact hp hst.reference
    · refine iff_of_false nofun ?_
      rintro ⟨_,hst,_⟩
      exact hr.elim (fun h => h hst.request.1) (fun h => h hst.request.2)
    · refine iff_of_false nofun ?_
      rintro ⟨_,_,hwithin⟩
      have := hwithin.1
      have := hwithin.2
      omega
    · refine iff_of_false nofun ?_
      rintro ⟨_,hst,_⟩
      exact absurd hst.window (not_le.mpr hage)
    · refine iff_of_false nofun ?_
      rintro ⟨_,hst,_⟩
      simp [hst.budgeted] at hb
    · rw [Except.bind_ok]
      simp only [verifyExceptionSignature_ok]
      rw [not_or,not_not,not_not] at hr
      rw [not_or,not_lt,ge_iff_le,not_le] at hw
      constructor
      · rintro ⟨_,hs,hr'⟩
        cases hr'
        exact ⟨rfl,⟨not_not.mp hp,hr,not_lt.mp hage,by simpa using hb,hs⟩,hw⟩
      · rintro ⟨rfl,hst,_⟩
        exact ⟨(),hst.signed,rfl⟩

end

section
variable {verify : OpaqueRef → Digest → Signature → Bool} {s s' : PolicyAuthority}

theorem resolve_ok {reference : PolicyRef} {policy : PolicyVersion} : resolve s reference = .ok policy ↔
    s.policies.get (reference.policyId,reference.version) = some policy ∧ policy.policyDigest = reference.digest := by
  unfold resolve
  split
  · rename_i hnone
    simp [hnone]
  · rename_i found hfound
    rw [hfound,Option.some.injEq]
    split_ifs with hd
    · refine iff_of_false nofun ?_
      rintro ⟨rfl,heq⟩
      exact hd heq
    · constructor
      · intro h
        cases h
        exact ⟨rfl,not_not.mp hd⟩
      · rintro ⟨rfl,_⟩
        rfl

theorem resolve_ref {reference : PolicyRef} {policy : PolicyVersion} (h : resolve s reference = .ok policy) :
    policy.ref = reference := by
  obtain ⟨hget,hdigest⟩ := resolve_ok.mp h
  have hkey := s.policyKeys _ _ hget
  rw [Prod.mk.injEq] at hkey
  unfold PolicyVersion.ref
  rw [← hkey.1,← hkey.2,hdigest]

theorem ruleFor_operation {policy : PolicyVersion} {operation : String} {rule : PolicyRule}
    (h : resolveRuleFor policy operation = .ok rule) : rule.operation.1 = operation := by
  unfold resolveRuleFor at h
  split at h
  · rename_i found hfound
    cases h
    simpa using List.find?_some hfound
  · cases h

def Recordable (s : PolicyAuthority) (a : ApprovalDecision) : Prop :=
  ∀ prior, s.approvals.get (a.policyRef.policyId,a.approvalId) = some prior → prior = a
def ExceptionRecordable (s : PolicyAuthority) (e : PolicyException) : Prop :=
  ∀ prior, s.exceptions.get (e.policyRef.policyId,e.exceptionId) = some prior → prior = e

theorem not_any_ne {α : Type} [DecidableEq α] {prior : Option α} {a : α} :
    ¬ prior.any (· ≠ a) = true ↔ ∀ p, prior = some p → p = a := by
  cases prior with
  | none => simp
  | some p => simp

theorem recordApproval_ok {a : ApprovalDecision} {u : Unit} : (recordApproval verify a).run s = .ok u s' ↔
    verify a.signerRef a.decisionDigest a.signature = true ∧ Recordable s a ∧ s' = s.withApproval a := by
  unfold recordApproval
  rw [check_bind_ok]
  simp only [get_bind_ok,refuse_bind_ok,modify_ok,verifyApprovalSignature_ok,not_any_ne]
  exact exists_const Unit

theorem recordException_ok {e : PolicyException} {u : Unit} : (recordException verify e).run s = .ok u s' ↔
    verify e.signerRef e.exceptionDigest e.signature = true ∧ ExceptionRecordable s e ∧ s' = s.withException e := by
  unfold recordException
  rw [check_bind_ok]
  simp only [get_bind_ok,refuse_bind_ok,modify_ok,verifyExceptionSignature_ok,not_any_ne]
  exact exists_const Unit

def recorded (s : PolicyAuthority) (approval : Option ApprovalDecision) (exception : Option PolicyException) :
    PolicyAuthority :=
  let withApproval := approval.elim s s.withApproval
  exception.elim withApproval withApproval.withException

variable {u : PUnit}

private theorem forM_recordApproval_ok {approval : Option ApprovalDecision} :
    (approval.forM (recordApproval verify)).run s = .ok u s' ↔
      (∀ a, approval = some a → verify a.signerRef a.decisionDigest a.signature = true ∧ Recordable s a) ∧
      s' = approval.elim s s.withApproval := by
  cases approval with
  | none => simp [Option.forM,eq_comm (a := s)]
  | some a => simp [Option.forM,recordApproval_ok,and_assoc]

private theorem forM_recordException_ok {exception : Option PolicyException} :
    (exception.forM (recordException verify)).run s = .ok u s' ↔
      (∀ e, exception = some e → verify e.signerRef e.exceptionDigest e.signature = true ∧ ExceptionRecordable s e) ∧
      s' = exception.elim s s.withException := by
  cases exception with
  | none => simp [Option.forM,eq_comm (a := s)]
  | some e => simp [Option.forM,recordException_ok,and_assoc]

private theorem exceptions_elim (approval : Option ApprovalDecision) :
    (approval.elim s s.withApproval).exceptions = s.exceptions := by
  cases approval with
  | none => rfl
  | some a => rfl

theorem recordIfPresent_ok {approval : Option ApprovalDecision} {exception : Option PolicyException} :
    (recordIfPresent verify approval exception).run s = .ok u s' ↔
      (∀ a, approval = some a → verify a.signerRef a.decisionDigest a.signature = true ∧ Recordable s a) ∧
      (∀ e, exception = some e → verify e.signerRef e.exceptionDigest e.signature = true ∧ ExceptionRecordable s e) ∧
      s' = recorded s approval exception := by
  unfold recordIfPresent recorded
  rw [bind_ok]
  simp only [forM_recordApproval_ok,forM_recordException_ok,ExceptionRecordable]
  constructor
  · rintro ⟨_,m,⟨ha,rfl⟩,he,hs⟩
    rw [exceptions_elim] at he
    exact ⟨ha,he,hs⟩
  · rintro ⟨ha,he,hs⟩
    refine ⟨⟨⟩,_,⟨ha,rfl⟩,?_,hs⟩
    rw [exceptions_elim]
    exact he

theorem approvals_recorded {a : ApprovalDecision} (exception : Option PolicyException) :
    (recorded s (some a) exception).approvals.get (a.policyRef.policyId,a.approvalId) = some a := by
  cases exception with
  | none => exact Dict.get_set_self ..
  | some e => exact Dict.get_set_self ..

theorem exceptions_recorded {e : PolicyException} (approval : Option ApprovalDecision) :
    (recorded s approval (some e)).exceptions.get (e.policyRef.policyId,e.exceptionId) = some e :=
  Dict.get_set_self ..

theorem resolveRecordedReference_ok {ν : Type} {records : Dict (StableId × StableId) ν} {policyId referenceId : StableId}
    {expected : Digest} {digestFor : ν → Digest} {code : String} {record : ν} :
    resolveRecordedReference records policyId referenceId expected digestFor code = .ok record ↔
      records.get (policyId,referenceId) = some record ∧ digestFor record = expected := by
  unfold resolveRecordedReference
  split
  · rename_i hnone
    simp [hnone]
  · rename_i found hfound
    rw [hfound,Option.some.injEq]
    split_ifs with hd
    · refine iff_of_false nofun ?_
      rintro ⟨rfl,heq⟩
      exact hd heq
    · constructor
      · intro h
        cases h
        exact ⟨rfl,not_not.mp hd⟩
      · rintro ⟨rfl,_⟩
        rfl

theorem resolveRecordedApproval_ok {z : PolicyAuthorization} {approval : Option ApprovalDecision} :
    resolveRecordedApproval s z = .ok approval ↔ z.approvalRef = approval.map (·.ref) ∧
      ∀ a, approval = some a → s.approvals.get (z.policyRef.policyId,a.approvalId) = some a := by
  unfold resolveRecordedApproval
  split
  · rename_i hnone
    rw [hnone]
    cases approval with
    | none => simp
    | some a => simp
  · rename_i reference href
    rw [href,Except.bind_ok]
    simp only [resolveRecordedReference_ok]
    constructor
    · rintro ⟨a,⟨hget,hdigest⟩,ha⟩
      cases ha
      have hkey := s.approvalKeys _ _ hget
      rw [Prod.mk.injEq] at hkey
      refine ⟨?_,?_⟩
      · rw [Option.map_some,ApprovalDecision.ref,← hkey.2,hdigest]
      · rintro _ ⟨⟩
        rw [← hkey.2]
        exact hget
    · rintro ⟨href',h⟩
      cases approval with
      | none => cases href'
      | some a =>
        cases href'
        exact ⟨a,⟨h a rfl,rfl⟩,rfl⟩

theorem resolveRecordedException_ok {z : PolicyAuthorization} {exception : Option PolicyException} :
    resolveRecordedException s z = .ok exception ↔ z.exceptionRef = exception.map (·.ref) ∧
      ∀ e, exception = some e → s.exceptions.get (z.policyRef.policyId,e.exceptionId) = some e := by
  unfold resolveRecordedException
  split
  · rename_i hnone
    rw [hnone]
    cases exception with
    | none => simp
    | some e => simp
  · rename_i reference href
    rw [href,Except.bind_ok]
    simp only [resolveRecordedReference_ok]
    constructor
    · rintro ⟨e,⟨hget,hdigest⟩,he⟩
      cases he
      have hkey := s.exceptionKeys _ _ hget
      rw [Prod.mk.injEq] at hkey
      refine ⟨?_,?_⟩
      · rw [Option.map_some,PolicyException.ref,← hkey.2,hdigest]
      · rintro _ ⟨⟩
        rw [← hkey.2]
        exact hget
    · rintro ⟨href',h⟩
      cases exception with
      | none => cases href'
      | some e =>
        cases href'
        exact ⟨e,⟨h e rfl,rfl⟩,rfl⟩

end

structure Grounds (verify : OpaqueRef → Digest → Signature → Bool) (s : PolicyAuthority) (request : Request)
    (approval : Option ApprovalDecision) (exception : Option PolicyException) (policy : PolicyVersion)
    (rule : PolicyRule) : Prop where
  resolved : resolve s request.policyRef = .ok policy
  ruled : resolveRuleFor policy request.operation = .ok rule
  budgeted : checkBudget request.requestedBudget rule = .ok ()
  bound : validateBindings policy request.bindings = .ok ()
  excepted : ∀ e, exception = some e →
    ExceptionStands verify policy request.operation request.requestDigest request.requestedBudget e
  allowed : ¬ (rule.effect = .deny ∧ exception.all (!·.allowDeniedOperation) = true)
  required : approval = none → (rule.approvalRequired || policy.approval.required) = false
  approved : ∀ a, approval = some a → ApprovalStands verify policy request.operation request.requestDigest a

def WithinWindows (approval : Option ApprovalDecision) (exception : Option PolicyException) (t : ℤ) : Prop :=
  (∀ a, approval = some a → a.Within t) ∧ ∀ e, exception = some e → e.Within t
def PolicyAuthorization.request (z : PolicyAuthorization) : Request :=
  ⟨z.policyRef,z.operation,z.requestDigest,z.bindings,z.budget⟩

section
variable {verify : OpaqueRef → Digest → Signature → Bool} {s s' : PolicyAuthority} {request : Request}
  {approval : Option ApprovalDecision} {exception : Option PolicyException} {t : ℤ} {z : PolicyAuthorization}

theorem checkDenyGate_ok {rule : PolicyRule} {u : Unit} :
    checkDenyGate rule (exception.map (·.ref)) exception = .ok u ↔
      ¬ (rule.effect = .deny ∧ exception.all (!·.allowDeniedOperation) = true) := by
  unfold checkDenyGate
  cases exception with
  | none => simp
  | some e => simp

theorem buildAuthorization_ok {policyRef : PolicyRef} {operation requestDigest : String}
    {bindings : List CapabilityBinding} {budget : ExecutionBudget} {approvalRef : Option ApprovalRef}
    {exceptionRef : Option ExceptionRef} :
    buildAuthorization policyRef operation requestDigest bindings budget approvalRef exceptionRef t = .ok z ↔
      0 ≤ t ∧ z.policyRef = policyRef ∧ z.operation.1 = operation ∧ z.requestDigest.1 = requestDigest ∧
        z.bindings = bindings ∧ z.budget = budget ∧ z.approvalRef = approvalRef ∧ z.exceptionRef = exceptionRef ∧
        (z.resolvedAt : ℤ) = t := by
  unfold buildAuthorization
  constructor
  · intro h
    split_ifs at h with hk hd hb ht
    cases h
    exact ⟨ht,rfl,rfl,rfl,rfl,rfl,rfl,rfl,Int.toNat_of_nonneg ht⟩
  · rintro ⟨ht,rfl,rfl,rfl,rfl,rfl,rfl,rfl,rfl⟩
    rw [dif_pos z.operation.2,dif_pos z.requestDigest.2,dif_pos z.bounded,if_pos ht]
    rfl

theorem authorize_ok : (authorize verify request approval exception t).run s = .ok z s' ↔
    0 ≤ t ∧ z.request = request ∧ z.approvalRef = approval.map (·.ref) ∧ z.exceptionRef = exception.map (·.ref) ∧
      (z.resolvedAt : ℤ) = t ∧ (∃ policy rule, Grounds verify s request approval exception policy rule) ∧
      WithinWindows approval exception t ∧ (∀ a, approval = some a → Recordable s a) ∧
      (∀ e, exception = some e → ExceptionRecordable s e) ∧ s' = recorded s approval exception := by
  unfold authorize
  simp only [refuse_bind_ok,get_bind_ok,check_bind_ok,bind_ok (x := recordIfPresent _ _ _),recordIfPresent_ok,check_ok,
    validateException_ok,validateApproval_ok,buildAuthorization_ok]
  constructor
  · rintro ⟨_,policy,hp,rule,hr,_,hb,_,hbind,_,⟨rfl,he⟩,_,hgate,_,⟨rfl,hreq,ha⟩,_,_,⟨hra,hre,rfl⟩,⟨ht,h1,h2,h3,h4,h5,h6,h7,h8⟩,rfl⟩
    refine ⟨ht,?_,h6,h7,h8,⟨policy,rule,?_⟩,⟨fun a h => (ha a h).2,fun e h => (he e h).2⟩,
      fun a h => (hra a h).2,fun e h => (hre e h).2,rfl⟩
    · rw [resolve_ref hp] at h1
      simp [PolicyAuthorization.request,h1,h2,h3,h4,h5]
    · exact ⟨hp,hr,hb,hbind,fun e h => (he e h).1,checkDenyGate_ok.mp hgate,hreq,fun a h => (ha a h).1⟩
  · rintro ⟨ht,rfl,hra,hre,hat,⟨policy,rule,hg⟩,⟨hwa,hwe⟩,hrec,hrecx,rfl⟩
    have hdigest : ¬ isDigest z.request.requestDigest = false := by simp [PolicyAuthorization.request,z.requestDigest.2]
    refine ⟨hdigest,policy,hg.resolved,rule,hg.ruled,(),hg.budgeted,(),hg.bound,_,
      ⟨rfl,fun e h => ⟨hg.excepted e h,hwe e h⟩⟩,(),checkDenyGate_ok.mpr hg.allowed,_,
      ⟨rfl,hg.required,fun a h => ⟨hg.approved a h,hwa a h⟩⟩,(),_,
      ⟨fun a h => ⟨(hg.approved a h).signed,hrec a h⟩,fun e h => ⟨(hg.excepted e h).signed,hrecx e h⟩,rfl⟩,
      ⟨ht,?_,rfl,rfl,rfl,rfl,hra,hre,hat⟩,rfl⟩
    exact (resolve_ref hg.resolved).symm

private theorem refused_bind_ok {ε α β : Type} {c : Prop} [Decidable c] {e : ε} {f : α → Except ε β}
    {x : Except ε β} {b : β} : (if c then (throw e : Except ε α) >>= f else x) = .ok b ↔ ¬c ∧ x = .ok b := by
  split_ifs with hc
  · simp [hc,throw,throwThe,MonadExceptOf.throw,bind,Except.bind]
  · simp [hc]

theorem verifyAuthorization_ok {u : Unit} : verifyAuthorization verify s z t = .ok u ↔
    ∃ approval exception, resolveRecordedApproval s z = .ok approval ∧ resolveRecordedException s z = .ok exception ∧
      (∃ policy rule, Grounds verify s z.request approval exception policy rule) ∧
      WithinWindows approval exception t := by
  unfold verifyAuthorization
  simp only [Except.bind_ok,refused_bind_ok,discard_ok,validateException_ok,validateApproval_ok]
  constructor
  · rintro ⟨policy,hp,rule,hr,_,hb,_,hbind,approval,hra,exception,hre,_,⟨_,_,he⟩,hgate,_,_,hreq,ha⟩
    refine ⟨approval,exception,hra,hre,⟨policy,rule,?_⟩,fun a h => (ha a h).2,fun e h => (he e h).2⟩
    exact ⟨hp,hr,hb,hbind,fun e h => (he e h).1,hgate,hreq,fun a h => (ha a h).1⟩
  · rintro ⟨approval,exception,hra,hre,⟨policy,rule,hg⟩,hwa,hwe⟩
    exact ⟨policy,hg.resolved,rule,hg.ruled,(),hg.budgeted,(),hg.bound,approval,hra,exception,hre,(),
      ⟨_,rfl,fun e h => ⟨hg.excepted e h,hwe e h⟩⟩,hg.allowed,_,rfl,hg.required,
      fun a h => ⟨hg.approved a h,hwa a h⟩⟩

end

structure PolicyAuthority.Keeps (s later : PolicyAuthority) : Prop where
  policies : ∀ key policy, s.policies.get key = some policy → later.policies.get key = some policy
  approvals : ∀ key approval, s.approvals.get key = some approval → later.approvals.get key = some approval
  exceptions : ∀ key exception, s.exceptions.get key = some exception → later.exceptions.get key = some exception

section
variable {verify : OpaqueRef → Digest → Signature → Bool} {s s' later : PolicyAuthority} {request : Request}
  {approval : Option ApprovalDecision} {exception : Option PolicyException} {t : ℤ} {z : PolicyAuthorization}

theorem PolicyAuthority.Keeps.refl (s : PolicyAuthority) : s.Keeps s := ⟨fun _ _ h => h,fun _ _ h => h,fun _ _ h => h⟩

theorem PolicyAuthority.Keeps.trans (h : s.Keeps s') (h' : s'.Keeps later) : s.Keeps later :=
  ⟨fun _ _ hg => h'.policies _ _ (h.policies _ _ hg),fun _ _ hg => h'.approvals _ _ (h.approvals _ _ hg),
    fun _ _ hg => h'.exceptions _ _ (h.exceptions _ _ hg)⟩

private theorem get_set_of_fresh {κ ν : Type} [DecidableEq κ] {d : Dict κ ν} {key : κ} {record : ν}
    (hfresh : ∀ prior, d.get key = some prior → prior = record) (key' : κ) (found : ν)
    (h : d.get key' = some found) : (d.set key record).get key' = some found := by
  rw [Dict.get_set]
  split_ifs with heq
  · rw [heq] at h
    rw [hfresh found h]
  · exact h

theorem keeps_withApproval {a : ApprovalDecision} (h : Recordable s a) : s.Keeps (s.withApproval a) :=
  ⟨fun _ _ hg => hg,get_set_of_fresh h,fun _ _ hg => hg⟩
theorem keeps_withException {e : PolicyException} (h : ExceptionRecordable s e) : s.Keeps (s.withException e) :=
  ⟨fun _ _ hg => hg,fun _ _ hg => hg,get_set_of_fresh h⟩

theorem keeps_recorded (ha : ∀ a, approval = some a → Recordable s a)
    (he : ∀ e, exception = some e → ExceptionRecordable s e) : s.Keeps (recorded s approval exception) := by
  have hfirst : s.Keeps (approval.elim s s.withApproval) := by
    cases approval with
    | none => exact .refl s
    | some a => exact keeps_withApproval (ha a rfl)
  cases exception with
  | none => exact hfirst
  | some e =>
    refine hfirst.trans (keeps_withException ?_)
    unfold ExceptionRecordable
    rw [exceptions_elim]
    exact he e rfl

theorem authorize_keeps (h : (authorize verify request approval exception t).run s = .ok z s') : s.Keeps s' := by
  obtain ⟨_,_,_,_,_,_,_,ha,he,rfl⟩ := authorize_ok.mp h
  exact keeps_recorded ha he

variable {rule : PolicyRule}

theorem Grounds.mono {policy : PolicyVersion} (hkeeps : s.Keeps later)
    (h : Grounds verify s request approval exception policy rule) :
    Grounds verify later request approval exception policy rule := by
  obtain ⟨hget,hdigest⟩ := resolve_ok.mp h.resolved
  exact ⟨resolve_ok.mpr ⟨hkeeps.policies _ _ hget,hdigest⟩,h.ruled,h.budgeted,h.bound,h.excepted,h.allowed,h.required,
    h.approved⟩

theorem resolveRecordedApproval_mono (hkeeps : s.Keeps later) (h : resolveRecordedApproval s z = .ok approval) :
    resolveRecordedApproval later z = .ok approval := by
  obtain ⟨href,hget⟩ := resolveRecordedApproval_ok.mp h
  exact resolveRecordedApproval_ok.mpr ⟨href,fun a ha => hkeeps.approvals _ _ (hget a ha)⟩

theorem resolveRecordedException_mono (hkeeps : s.Keeps later) (h : resolveRecordedException s z = .ok exception) :
    resolveRecordedException later z = .ok exception := by
  obtain ⟨href,hget⟩ := resolveRecordedException_ok.mp h
  exact resolveRecordedException_ok.mpr ⟨href,fun e he => hkeeps.exceptions _ _ (hget e he)⟩

theorem verifyAuthorization_iff_within {policy : PolicyVersion} (ha : resolveRecordedApproval s z = .ok approval)
    (he : resolveRecordedException s z = .ok exception)
    (hg : Grounds verify s z.request approval exception policy rule) (t : ℤ) :
    verifyAuthorization verify s z t = .ok () ↔ WithinWindows approval exception t := by
  rw [verifyAuthorization_ok]
  constructor
  · rintro ⟨approval',exception',ha',he',_,hw⟩
    cases ha.symm.trans ha'
    cases he.symm.trans he'
    exact hw
  · intro hw
    exact ⟨approval,exception,ha,he,⟨policy,rule,hg⟩,hw⟩

theorem authorize_resolves (h : (authorize verify request approval exception t).run s = .ok z s') :
    resolveRecordedApproval s' z = .ok approval ∧ resolveRecordedException s' z = .ok exception := by
  obtain ⟨_,rfl,hra,hre,_,⟨policy,rule,hg⟩,_,_,_,rfl⟩ := authorize_ok.mp h
  have href : policy.ref = z.policyRef := resolve_ref hg.resolved
  refine ⟨resolveRecordedApproval_ok.mpr ⟨hra,?_⟩,resolveRecordedException_ok.mpr ⟨hre,?_⟩⟩
  · rintro a rfl
    rw [← href,← (hg.approved a rfl).reference]
    exact approvals_recorded exception
  · rintro e rfl
    rw [← href,← (hg.excepted e rfl).reference]
    exact exceptions_recorded approval

theorem recordable_of_resolved {policy : PolicyVersion} (ha : resolveRecordedApproval s z = .ok approval) (he :
    resolveRecordedException s z = .ok exception) (hg : Grounds verify s z.request approval exception policy rule) :
    (∀ a, approval = some a → Recordable s a) ∧ ∀ e, exception = some e → ExceptionRecordable s e := by
  have href : policy.ref = z.policyRef := resolve_ref hg.resolved
  refine ⟨?_,?_⟩
  · intro a hsome prior hprior
    rw [(hg.approved a hsome).reference,href,(resolveRecordedApproval_ok.mp ha).2 a hsome] at hprior
    exact (Option.some.inj hprior).symm
  · intro e hsome prior hprior
    rw [(hg.excepted e hsome).reference,href,(resolveRecordedException_ok.mp he).2 e hsome] at hprior
    exact (Option.some.inj hprior).symm

end

/-- Authorization and re-verification agree. What is granted is accepted, wherever the records are kept, at exactly the
later times within the windows of its approval and exception; what is accepted at a time an authorization can be of is
granted at that time on the records it refers to. -/
theorem authorize_agrees_verifyAuthorization (verify : OpaqueRef → Digest → Signature → Bool) (s : PolicyAuthority)
    (t : ℤ) : (∀ request approval exception z s', (authorize verify request approval exception t).run s = .ok z s' →
      resolveRecordedApproval s' z = .ok approval ∧ resolveRecordedException s' z = .ok exception ∧
        verifyAuthorization verify s' z t = .ok () ∧ ∀ later, s'.Keeps later → ∀ t', t ≤ t' →
          (verifyAuthorization verify later z t' = .ok () ↔ WithinWindows approval exception t')) ∧
    (0 ≤ t → ∀ z, verifyAuthorization verify s z t = .ok () →
      ∃ approval exception, resolveRecordedApproval s z = .ok approval ∧ resolveRecordedException s z = .ok exception ∧
        ∃ s', (authorize verify z.request approval exception t).run s = .ok { z with resolvedAt := t.toNat } s') := by
  refine ⟨?_,?_⟩
  · intro request approval exception z s' h
    obtain ⟨ha,he⟩ := authorize_resolves h
    have hkeeps := authorize_keeps h
    obtain ⟨_,rfl,_,_,_,⟨policy,rule,hg⟩,hw,_,_,_⟩ := authorize_ok.mp h
    refine ⟨ha,he,(verifyAuthorization_iff_within ha he (hg.mono hkeeps) t).mpr hw,?_⟩
    intro later hlater t' _
    exact verifyAuthorization_iff_within (resolveRecordedApproval_mono hlater ha)
      (resolveRecordedException_mono hlater he) (hg.mono (hkeeps.trans hlater)) t'
  · intro ht z h
    obtain ⟨approval,exception,ha,he,⟨policy,rule,hg⟩,hw⟩ := verifyAuthorization_ok.mp h
    obtain ⟨hra,hre⟩ := recordable_of_resolved ha he hg
    refine ⟨approval,exception,ha,he,recorded s approval exception,authorize_ok.mpr ?_⟩
    exact ⟨ht,rfl,(resolveRecordedApproval_ok.mp ha).1,(resolveRecordedException_ok.mp he).1,Int.toNat_of_nonneg ht,
      ⟨policy,rule,hg⟩,hw,hra,hre,rfl⟩

namespace Sample

def budget : ExecutionBudget :=
  ⟨4,2,4,8,1000,60,0,by decide,by decide,by decide,by decide,by decide,by decide,by decide⟩

def policy : PolicyVersion where
  policyId := ⟨"policy:ops",by decide +kernel⟩
  version := ⟨"1.0.0",by decide +kernel⟩
  issuerRef := ⟨"issuer:ops",by decide +kernel⟩
  budget := budget
  rules := [⟨⟨"ops.run",by decide +kernel⟩,.allow,true,budget⟩,⟨⟨"ops.read",by decide +kernel⟩,.allow,false,budget⟩]
  approval := ⟨false,0,900,⟨"scope:ops",by decide +kernel⟩,by decide,by decide,by decide⟩
  lengths := by decide
  rulesUnique := by decide +kernel
  rulesBudgeted := by decide +kernel
  bindingsUnique := by decide
  privileged := by simp

def requestDigest : Digest := canonicalDigest .null

def approval : ApprovalDecision where
  approvalId := ⟨"approval:1",by decide +kernel⟩
  policyRef := policy.ref
  operation := ⟨"ops.run",by decide +kernel⟩
  requestDigest := requestDigest
  decision := .approved
  approverRefs := [⟨"user:ada",by decide +kernel⟩]
  issuedAt := 100
  expiresAt := 200
  signerRef := ⟨"signer:ops",by decide +kernel⟩
  signature := ⟨"sig:ops-1",by decide +kernel⟩
  expires := by decide
  approversBounded := by decide
  approversUnique := by decide
  approved := by simp

def verify (signer : OpaqueRef) (_ : Digest) (signature : Signature) : Bool :=
  signer.1 = "signer:ops" && signature.1 = "sig:ops-1"
def authority : PolicyAuthority := PolicyAuthority.empty.withPolicy policy
def run : Request := ⟨policy.ref,"ops.run",requestDigest,[],budget⟩
def granted : PolicyAuthorization :=
  ⟨policy.ref,⟨"ops.run",by decide +kernel⟩,requestDigest,[],budget,some approval.ref,none,150,by decide⟩
def read : PolicyAuthorization :=
  ⟨policy.ref,⟨"ops.read",by decide +kernel⟩,requestDigest,[],budget,none,none,150,by decide⟩

theorem resolve_authority : resolve authority policy.ref = .ok policy :=
  resolve_ok.mpr ⟨Dict.get_set_self ..,rfl⟩

theorem authorize_run : (authorize verify run (some approval) none 150).run authority =
    .ok granted (recorded authority (some approval) none) := by
  refine authorize_ok.mpr ⟨by decide,rfl,rfl,rfl,rfl,⟨policy,⟨⟨"ops.run",by decide +kernel⟩,.allow,true,budget⟩,?_⟩,
    ⟨?_,fun _ h => (by cases h)⟩,?_,fun _ h => (by cases h),rfl⟩
  · refine ⟨resolve_authority,rfl,rfl,rfl,nofun,by decide,nofun,?_⟩
    rintro _ ⟨⟩
    exact ⟨rfl,⟨rfl,rfl⟩,rfl,by decide,by decide,by decide +kernel⟩
  · rintro _ ⟨⟩
    exact ⟨by decide,by decide⟩
  · rintro _ ⟨⟩ prior hprior
    cases hprior

theorem verify_read (t : ℤ) : verifyAuthorization verify authority read t = .ok () := by
  refine verifyAuthorization_ok.mpr ⟨none,none,rfl,rfl,
    ⟨policy,⟨⟨"ops.read",by decide +kernel⟩,.allow,false,budget⟩,?_⟩,
    fun _ h => (by cases h),fun _ h => (by cases h)⟩
  exact ⟨resolve_authority,rfl,rfl,rfl,nofun,by decide,fun _ => rfl,nofun⟩

end Sample

open Sample in
theorem approved_run_reverified :
    verifyAuthorization verify (recorded authority (some approval) none) granted 150 = .ok () ∧
      verifyAuthorization verify (recorded authority (some approval) none) granted 199 = .ok () ∧
      verifyAuthorization verify (recorded authority (some approval) none) granted 200 ≠ .ok () ∧
      ∃ approval exception s', (authorize verify read.request approval exception 170).run authority =
        .ok { read with resolvedAt := 170 } s' := by
  obtain ⟨_,_,hnow,hlater⟩ := (authorize_agrees_verifyAuthorization verify authority 150).1 _ _ _ _ _ authorize_run
  have hwindow := hlater _ (.refl _)
  refine ⟨hnow,(hwindow 199 (by decide)).mpr ⟨?_,fun _ h => (by cases h)⟩,?_,?_⟩
  · rintro _ ⟨⟩
    exact ⟨by decide,by decide⟩
  · intro haccepted
    have hw := ((hwindow 200 (by decide)).mp haccepted).1 approval rfl
    exact absurd hw.2 (by decide)
  · obtain ⟨a,e,_,_,s',h⟩ := (authorize_agrees_verifyAuthorization verify authority 170).2 (by decide) read (verify_read 170)
    exact ⟨a,e,s',h⟩

open Sample in
/-- A time before the epoch is accepted, and no authorization can be of it. -/
theorem verified_before_epoch_not_granted : verifyAuthorization verify authority read (-1) = .ok () ∧
      ∀ approval exception z s', (authorize verify read.request approval exception (-1)).run authority ≠ .ok z s' := by
  refine ⟨verify_read (-1),?_⟩
  intro approval exception z s' h
  exact absurd (authorize_ok.mp h).1 (by decide)

end Arbora.PolicyPlane
