import Arbora.Lib.Dict
import Arbora.Lib.Guards
import Arbora.PolicyPlane.Models

/-! The policy authority: its repository, its recorded approvals and exceptions, and every operation on them. -/
namespace Arbora.PolicyPlane
open Guards

inductive ErrorKind where
  | policyDomainError | policyConflictError | policyNotFoundError
  /-- a refusal of the models themselves -/
  | validationError

structure PolicyError where
  kind : ErrorKind
  code : String

structure PolicyAuthority where
  policies : Dict (StableId × Version) PolicyVersion
  approvals : Dict (StableId × StableId) ApprovalDecision
  exceptions : Dict (StableId × StableId) PolicyException
  policyKeys : ∀ key policy, policies.get key = some policy → key = (policy.policyId,policy.version)
  approvalKeys : ∀ key approval, approvals.get key = some approval →
    key = (approval.policyRef.policyId,approval.approvalId)
  exceptionKeys : ∀ key exception, exceptions.get key = some exception →
    key = (exception.policyRef.policyId,exception.exceptionId)

def PolicyAuthority.empty : PolicyAuthority :=
  ⟨∅,∅,∅,fun _ _ h => by simp at h,fun _ _ h => by simp at h,fun _ _ h => by simp at h⟩

abbrev Op (α : Type) := Guards.Op PolicyError PolicyAuthority α

private theorem keys_set {κ ν : Type} [DecidableEq κ] {d : Dict κ ν} (keyOf : ν → κ)
    (h : ∀ key record, d.get key = some record → key = keyOf record) (record : ν) :
    ∀ key found, (d.set (keyOf record) record).get key = some found → key = keyOf found := by
  intro key found hfound
  rw [Dict.get_set] at hfound
  split_ifs at hfound with heq
  · cases hfound
    exact heq
  · exact h key found hfound

def PolicyAuthority.withPolicy (s : PolicyAuthority) (policy : PolicyVersion) : PolicyAuthority :=
  { s with
    policies := s.policies.set (policy.policyId,policy.version) policy
    policyKeys := keys_set (fun p : PolicyVersion => (p.policyId,p.version)) s.policyKeys policy }

def PolicyAuthority.withApproval (s : PolicyAuthority) (approval : ApprovalDecision) : PolicyAuthority :=
  { s with
    approvals := s.approvals.set (approval.policyRef.policyId,approval.approvalId) approval
    approvalKeys := keys_set (fun a : ApprovalDecision => (a.policyRef.policyId,a.approvalId))
      s.approvalKeys approval }

def PolicyAuthority.withException (s : PolicyAuthority) (exception : PolicyException) : PolicyAuthority :=
  { s with
    exceptions := s.exceptions.set (exception.policyRef.policyId,exception.exceptionId) exception
    exceptionKeys := keys_set (fun e : PolicyException => (e.policyRef.policyId,e.exceptionId))
      s.exceptionKeys exception }

def resolve (s : PolicyAuthority) (reference : PolicyRef) : Except PolicyError PolicyVersion :=
  match s.policies.get (reference.policyId,reference.version) with
  | none => .error ⟨.policyNotFoundError,"policy_version_missing"⟩
  | some policy =>
    if policy.policyDigest ≠ reference.digest then .error ⟨.policyConflictError,"policy_digest_mismatch"⟩
    else .ok policy

def resolveRuleFor (policy : PolicyVersion) (operation : String) : Except PolicyError PolicyRule :=
  match policy.ruleFor operation with
  | some rule => .ok rule
  | none => .error ⟨.policyDomainError,"policy_operation_unresolved"⟩

def bindingKey (b : CapabilityBinding) : BindingKind × StableId × Version × Digest × Privilege :=
  (b.kind,b.bindingId,b.version,b.digest,b.privilege)

def validateBindings (policy : PolicyVersion) (bindings : List CapabilityBinding) : Except PolicyError Unit :=
  if bindings.all fun b => bindingKey b ∈ policy.bindings.map bindingKey then .ok ()
  else .error ⟨.policyDomainError,"binding_unresolved_or_privilege_escalated"⟩

/-- `authorize` and `verify_authorization` refuse a budget above the rule's in the same way. -/
def checkBudget (requested : ExecutionBudget) (rule : PolicyRule) : Except PolicyError Unit :=
  if budgetWithin requested rule.budget then .ok () else .error ⟨.policyDomainError,"budget_escalation"⟩

section
-- the `verify` of the signature verifier: signer, signed digest, signature
variable (verify : OpaqueRef → Digest → Signature → Bool)

def verifyApprovalSignature (approval : ApprovalDecision) : Except PolicyError Unit :=
  if verify approval.signerRef approval.decisionDigest approval.signature then .ok ()
  else .error ⟨.policyDomainError,"approval_signature_invalid"⟩

def verifyExceptionSignature (exception : PolicyException) : Except PolicyError Unit :=
  if verify exception.signerRef exception.exceptionDigest exception.signature then .ok ()
  else .error ⟨.policyDomainError,"exception_signature_invalid"⟩

def checkApprovalIdentity (approval : ApprovalDecision) (policy : PolicyVersion) (operation requestDigest : String) :
    Except PolicyError Unit :=
  if approval.policyRef ≠ policy.ref then .error ⟨.policyConflictError,"approval_policy_reference_mismatch"⟩
  else if approval.operation.1 ≠ operation ∨ approval.requestDigest.1 ≠ requestDigest then
    .error ⟨.policyConflictError,"approval_request_drift"⟩
  else .ok ()

def checkApprovalFreshness (approval : ApprovalDecision) (policy : PolicyVersion) (current : ℤ) :
    Except PolicyError Unit :=
  if approval.decision ≠ .approved then .error ⟨.policyDomainError,"approval_denied"⟩
  else if current < approval.issuedAt ∨ current ≥ approval.expiresAt then
    .error ⟨.policyDomainError,"approval_expired_or_not_yet_valid"⟩
  else if approval.expiresAt - approval.issuedAt > policy.approval.maxAgeSeconds then
    .error ⟨.policyDomainError,"approval_window_exceeded"⟩
  else if approval.approverRefs.length < policy.approval.minApprovers then
    .error ⟨.policyDomainError,"approval_quorum_missing"⟩
  else .ok ()

def validateApproval (approval : Option ApprovalDecision) (policy : PolicyVersion) (operation requestDigest : String)
    (required : Bool) (current : ℤ) : Except PolicyError (Option ApprovalRef) :=
  match approval with
  | none => if required then .error ⟨.policyDomainError,"approval_required"⟩ else .ok none
  | some approval => do
    checkApprovalIdentity approval policy operation requestDigest
    checkApprovalFreshness approval policy current
    verifyApprovalSignature verify approval
    return some approval.ref

def validateException (exception : Option PolicyException) (policy : PolicyVersion) (operation requestDigest : String)
    (requestedBudget : ExecutionBudget) (current : ℤ) : Except PolicyError (Option ExceptionRef) :=
  match exception with
  | none => .ok none
  | some exception =>
    if exception.policyRef ≠ policy.ref then .error ⟨.policyConflictError,"exception_policy_reference_mismatch"⟩
    else if exception.operation.1 ≠ operation ∨ exception.requestDigest.1 ≠ requestDigest then
      .error ⟨.policyConflictError,"exception_request_drift"⟩
    else if current < exception.issuedAt ∨ current ≥ exception.expiresAt then
      .error ⟨.policyDomainError,"exception_expired_or_not_yet_valid"⟩
    else if exception.expiresAt - exception.issuedAt > 86400 then
      .error ⟨.policyDomainError,"exception_window_exceeded"⟩
    else if !budgetWithin requestedBudget exception.budget then
      .error ⟨.policyDomainError,"exception_budget_escalation"⟩
    else do
      verifyExceptionSignature verify exception
      return some exception.ref

def checkDenyGate (rule : PolicyRule) (exceptionRef : Option ExceptionRef) (exception : Option PolicyException) :
    Except PolicyError Unit :=
  if rule.effect = .deny ∧ (exceptionRef = none ∨ exception.all (!·.allowDeniedOperation)) then
    .error ⟨.policyDomainError,"policy_denied"⟩
  else .ok ()

def recordApproval (approval : ApprovalDecision) : Op Unit := do
  check (verifyApprovalSignature verify approval)
  let s ← get
  let prior := s.approvals.get (approval.policyRef.policyId,approval.approvalId)
  refuse (prior.any (· ≠ approval) = true) ⟨.policyConflictError,"approval_identity_conflict"⟩
  modify (·.withApproval approval)

def recordException (exception : PolicyException) : Op Unit := do
  check (verifyExceptionSignature verify exception)
  let s ← get
  let prior := s.exceptions.get (exception.policyRef.policyId,exception.exceptionId)
  refuse (prior.any (· ≠ exception) = true) ⟨.policyConflictError,"exception_identity_conflict"⟩
  modify (·.withException exception)

def recordIfPresent (approval : Option ApprovalDecision) (exception : Option PolicyException) : Op Unit := do
  approval.forM (recordApproval verify)
  exception.forM (recordException verify)

/-- The model's own checks of the values given to `PolicyAuthorization`. -/
def buildAuthorization (policyRef : PolicyRef) (operation requestDigest : String) (bindings : List CapabilityBinding)
    (budget : ExecutionBudget) (approvalRef : Option ApprovalRef) (exceptionRef : Option ExceptionRef)
    (resolvedAt : ℤ) : Except PolicyError PolicyAuthorization :=
  if hkey : isKey operation = true then
    if hdigest : isDigest requestDigest = true then
      if hbound : bindings.length ≤ 256 then
        if 0 ≤ resolvedAt then
          .ok ⟨policyRef,⟨operation,hkey⟩,⟨requestDigest,hdigest⟩,bindings,budget,approvalRef,exceptionRef,
            resolvedAt.toNat,hbound⟩
        else .error ⟨.validationError,"resolved_at"⟩
      else .error ⟨.validationError,"bindings"⟩
    else .error ⟨.validationError,"request_digest"⟩
  else .error ⟨.validationError,"operation"⟩

/-- What a caller asks for. -/
structure Request where
  policyRef : PolicyRef
  (operation requestDigest : String)
  bindings : List CapabilityBinding
  requestedBudget : ExecutionBudget

/-- `authorize` at the time `current`, the clock's or the caller's own. -/
def authorize (request : Request) (approval : Option ApprovalDecision) (exception : Option PolicyException)
    (current : ℤ) : Op PolicyAuthorization := do
  refuse (isDigest request.requestDigest = false) ⟨.policyDomainError,"request_digest_invalid"⟩
  let s ← get
  let policy ← check (resolve s request.policyRef)
  let rule ← check (resolveRuleFor policy request.operation)
  check (checkBudget request.requestedBudget rule)
  check (validateBindings policy request.bindings)
  let exceptionRef ← check (validateException verify exception policy request.operation request.requestDigest
    request.requestedBudget current)
  check (checkDenyGate rule exceptionRef exception)
  let approvalRef ← check (validateApproval verify approval policy request.operation request.requestDigest
    (rule.approvalRequired || policy.approval.required) current)
  recordIfPresent verify approval exception
  check (buildAuthorization policy.ref request.operation request.requestDigest request.bindings
    request.requestedBudget approvalRef exceptionRef current)

def resolveRecordedReference {ν : Type} (records : Dict (StableId × StableId) ν) (policyId referenceId : StableId)
    (expectedDigest : Digest) (digestFor : ν → Digest) (code : String) : Except PolicyError ν :=
  match records.get (policyId,referenceId) with
  | none => .error ⟨.policyConflictError,code⟩
  | some record =>
    if digestFor record ≠ expectedDigest then .error ⟨.policyConflictError,code⟩ else .ok record

def resolveRecordedApproval (s : PolicyAuthority) (authorization : PolicyAuthorization) :
    Except PolicyError (Option ApprovalDecision) :=
  match authorization.approvalRef with
  | none => .ok none
  | some reference => do
    return some (← resolveRecordedReference s.approvals authorization.policyRef.policyId reference.approvalId
      reference.decisionDigest (·.decisionDigest) "approval_reference_drift")

def resolveRecordedException (s : PolicyAuthority) (authorization : PolicyAuthorization) :
    Except PolicyError (Option PolicyException) :=
  match authorization.exceptionRef with
  | none => .ok none
  | some reference => do
    return some (← resolveRecordedReference s.exceptions authorization.policyRef.policyId reference.exceptionId
      reference.exceptionDigest (·.exceptionDigest) "exception_reference_drift")

def verifyAuthorization (s : PolicyAuthority) (authorization : PolicyAuthorization) (current : ℤ) :
    Except PolicyError Unit := do
  let policy ← resolve s authorization.policyRef
  let rule ← resolveRuleFor policy authorization.operation
  checkBudget authorization.budget rule
  validateBindings policy authorization.bindings
  let approval ← resolveRecordedApproval s authorization
  let exception ← resolveRecordedException s authorization
  discard (validateException verify exception policy authorization.operation authorization.requestDigest
    authorization.budget current)
  if rule.effect = .deny ∧ exception.all (!·.allowDeniedOperation) then
    throw ⟨.policyDomainError,"policy_denied"⟩
  discard (validateApproval verify approval policy authorization.operation authorization.requestDigest
    (rule.approvalRequired || policy.approval.required) current)

end
end Arbora.PolicyPlane
