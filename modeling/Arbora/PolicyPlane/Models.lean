import Arbora.Lib.Json
import Arbora.Lib.Sha256

/-! Records of the policy plane. -/
namespace Arbora.PolicyPlane
open Json (Document natural sorted)

def isLetter (c : Char) : Bool := ('A' ≤ c && c ≤ 'Z') || ('a' ≤ c && c ≤ 'z')
def isDigit (c : Char) : Bool := '0' ≤ c && c ≤ '9'
def isNameChar (c : Char) : Bool := isLetter c || isDigit c || c == ':' || c == '_' || c == '.' || c == '/' || c == '-'

/-- `_ID_RE`, `_REF_RE` and `_KEY_RE`, up to their lengths. -/
def isName (most : ℕ) (text : String) : Bool :=
  match text.toList with
  | [] => false
  | c :: rest => isLetter c && decide (rest.length < most) && rest.all isNameChar

def isId (text : String) : Bool := isName 128 text
def isRef (text : String) : Bool := isName 256 text
def isKey (text : String) : Bool := isName 256 text

def isNumeral (part : List Char) : Bool := part == ['0'] || (part.head?.any (· != '0') && part.all isDigit)
def isLabel (part : List Char) : Bool :=
  !part.isEmpty && part.all fun c => isLetter c || isDigit c || c == '-'

/-- What follows a separator, if it is there: labels with dots between. -/
def isSuffix (text : List Char) : Bool := text.isEmpty || ((text.drop 1).splitOn '.').all isLabel

/-- `_VERSION_RE`: three numerals, then labels after a hyphen and labels after a plus, where these are. -/
def isVersion (text : String) : Bool :=
  let whole := text.toList.span (· != '+')
  let numbers := whole.1.span (· != '-')
  (numbers.1.splitOn '.').length == 3 && (numbers.1.splitOn '.').all isNumeral && isSuffix numbers.2 && isSuffix whole.2

/-- `_DIGEST_RE` -/
def isDigest (text : String) : Bool :=
  decide (text.toList.take 7 = "sha256:".toList) && decide ((text.toList.drop 7).length = 64) &&
    (text.toList.drop 7).all Sha256.hexadecimal

def isSignature (text : String) : Bool :=
  decide (text.toList.take 4 = "sig:".toList) && decide (3 ≤ (text.toList.drop 4).length) &&
    decide ((text.toList.drop 4).length ≤ 255) &&
    (text.toList.drop 4).all fun c => isLetter c || isDigit c || c == '.' || c == '_' || c == ':' || c == '-'

abbrev StableId := {text : String // isId text = true}

instance : LawfulBEq StableId := inferInstance

abbrev OpaqueRef := {text : String // isRef text = true}
abbrev StableKey := {text : String // isKey text = true}
abbrev Version := {text : String // isVersion text = true}
abbrev Digest := {text : String // isDigest text = true}
abbrev Signature := {text : String // isSignature text = true}
abbrev Timestamp := ℕ

example : isVersion "1.0.0" ∧ isVersion "0.10.2-rc-1.x+b-2" ∧ ¬ isVersion "1.0" ∧ ¬ isVersion "01.0.0" ∧
    ¬ isVersion "1.0.0-" := by decide +kernel

theorem isDigest_of_hexadecimal {hex : List Char} (hlength : hex.length = 64)
    (hhex : hex.all Sha256.hexadecimal = true) :
    isDigest (String.ofList ("sha256:".toList ++ hex)) = true := Sha256.labelled_hexadecimal hlength hhex

def canonicalDigest (document : Document) : Digest :=
  ⟨String.ofList ("sha256:".toList ++ Sha256.hexdigest ((Json.writeAscii document).map Char.toNat)),
    isDigest_of_hexadecimal (Sha256.length_hexdigest _) (Sha256.hexadecimal_hexdigest _)⟩

structure ExecutionBudget where
  (maxTasks maxDepth maxFanout maxToolCalls maxTokens maxSeconds maxCostMicros : ℕ)
  tasks : 1 ≤ maxTasks ∧ maxTasks ≤ 256
  depth : 1 ≤ maxDepth ∧ maxDepth ≤ 64
  fanout : 1 ≤ maxFanout ∧ maxFanout ≤ 256
  toolCalls : maxToolCalls ≤ 256
  tokens : 1 ≤ maxTokens ∧ maxTokens ≤ 4000000
  seconds : 1 ≤ maxSeconds ∧ maxSeconds ≤ 86400
  costMicros : maxCostMicros ≤ 10000000
  deriving DecidableEq

def ExecutionBudget.document (b : ExecutionBudget) : Document := sorted [
  ("max_tasks",natural b.maxTasks),("max_depth",natural b.maxDepth),("max_fanout",natural b.maxFanout),
  ("max_tool_calls",natural b.maxToolCalls),("max_tokens",natural b.maxTokens),("max_seconds",natural b.maxSeconds),
  ("max_cost_micros",natural b.maxCostMicros)]

def budgetWithin (requested ceiling : ExecutionBudget) : Bool :=
  requested.maxTasks ≤ ceiling.maxTasks && requested.maxDepth ≤ ceiling.maxDepth &&
    requested.maxFanout ≤ ceiling.maxFanout && requested.maxToolCalls ≤ ceiling.maxToolCalls &&
    requested.maxTokens ≤ ceiling.maxTokens && requested.maxSeconds ≤ ceiling.maxSeconds &&
    requested.maxCostMicros ≤ ceiling.maxCostMicros

inductive Privilege where
  | read | write | admin
  deriving DecidableEq

def Privilege.value : Privilege → String
  | .read => "read" | .write => "write" | .admin => "admin"
def Privilege.level : Privilege → ℕ
  | .read => 0 | .write => 1 | .admin => 2

inductive BindingKind where
  | agent | skill | tool | delegation
  deriving DecidableEq

def BindingKind.value : BindingKind → String
  | .agent => "agent" | .skill => "skill" | .tool => "tool" | .delegation => "delegation"

structure CapabilityBinding where
  kind : BindingKind
  bindingId : StableId
  version : Version
  digest : Digest
  privilege : Privilege := .read
  noAlias : String.ofList (bindingId.1.toList.map Char.toLower) ∉ ["latest","current","default"]
  deriving DecidableEq

def CapabilityBinding.document (b : CapabilityBinding) : Document := sorted [
  ("kind",.string b.kind.value),("binding_id",.string b.bindingId),("version",.string b.version),
  ("digest",.string b.digest),("privilege",.string b.privilege.value)]

structure PolicyRef where
  policyId : StableId
  version : Version
  digest : Digest
  deriving DecidableEq

def PolicyRef.document (r : PolicyRef) : Document := sorted [
  ("policy_id",.string r.policyId),("version",.string r.version),("digest",.string r.digest)]

structure ApprovalRequirement where
  required : Bool := true
  minApprovers : ℕ := 1
  maxAgeSeconds : ℕ := 900
  approverScope : OpaqueRef
  approvers : minApprovers ≤ 16
  age : 1 ≤ maxAgeSeconds ∧ maxAgeSeconds ≤ 86400
  counted : required = true ↔ 1 ≤ minApprovers

def ApprovalRequirement.document (a : ApprovalRequirement) : Document := sorted [
  ("required",.bool a.required),("min_approvers",natural a.minApprovers),
  ("max_age_seconds",natural a.maxAgeSeconds),("approver_scope",.string a.approverScope)]

inductive Effect where
  | allow | deny
  deriving DecidableEq

def Effect.value : Effect → String
  | .allow => "allow" | .deny => "deny"

structure PolicyRule where
  operation : StableKey
  effect : Effect
  approvalRequired : Bool := true
  budget : ExecutionBudget

def PolicyRule.document (r : PolicyRule) : Document := sorted [
  ("operation",.string r.operation),("effect",.string r.effect.value),
  ("approval_required",.bool r.approvalRequired),("budget",r.budget.document)]

structure PolicyVersion where
  policyId : StableId
  version : Version
  issuerRef : OpaqueRef
  budget : ExecutionBudget
  rules : List PolicyRule
  bindings : List CapabilityBinding := []
  maxPrivilege : Privilege := .read
  approval : ApprovalRequirement
  summary : String := "immutable policy version"
  lengths : 1 ≤ rules.length ∧ rules.length ≤ 256 ∧ bindings.length ≤ 256
  rulesUnique : (rules.map (·.operation)).Nodup
  rulesBudgeted : ∀ rule ∈ rules, budgetWithin rule.budget budget = true
  bindingsUnique : (bindings.map fun b => (b.kind,b.bindingId,b.version)).Nodup
  privileged : ∀ b ∈ bindings, b.privilege.level ≤ maxPrivilege.level

def PolicyVersion.policyDigest (p : PolicyVersion) : Digest := canonicalDigest <| sorted [
  ("policy_id",.string p.policyId),("version",.string p.version),("issuer_ref",.string p.issuerRef),
  ("budget",p.budget.document),("rules",.array (p.rules.map (·.document))),
  ("bindings",.array (p.bindings.map (·.document))),("max_privilege",.string p.maxPrivilege.value),
  ("approval",p.approval.document),("summary",.string p.summary)]

def PolicyVersion.ref (p : PolicyVersion) : PolicyRef := ⟨p.policyId,p.version,p.policyDigest⟩

/-- `rule_for`; nothing stands for the `KeyError`. -/
def PolicyVersion.ruleFor (p : PolicyVersion) (operation : String) : Option PolicyRule :=
  p.rules.find? fun rule => rule.operation.1 = operation

inductive PolicyDecision where
  | approved | denied
  deriving DecidableEq

def PolicyDecision.value : PolicyDecision → String
  | .approved => "approved" | .denied => "denied"

structure ApprovalRef where
  approvalId : StableId
  decisionDigest : Digest
  deriving DecidableEq

structure ApprovalDecision where
  approvalId : StableId
  policyRef : PolicyRef
  operation : StableKey
  requestDigest : Digest
  decision : PolicyDecision
  approverRefs : List OpaqueRef
  (issuedAt expiresAt : Timestamp)
  signerRef : OpaqueRef
  signature : Signature
  expires : issuedAt < expiresAt
  approversBounded : approverRefs.length ≤ 16
  approversUnique : approverRefs.Nodup
  approved : decision = .approved → approverRefs ≠ []
  deriving DecidableEq

def ApprovalDecision.decisionDigest (a : ApprovalDecision) : Digest := canonicalDigest <| sorted [
  ("approval_id",.string a.approvalId),("policy_ref",a.policyRef.document),("operation",.string a.operation),
  ("request_digest",.string a.requestDigest),("decision",.string a.decision.value),
  ("approver_refs",.array (a.approverRefs.map fun r => .string r)),("issued_at",natural a.issuedAt),
  ("expires_at",natural a.expiresAt),("signer_ref",.string a.signerRef)]

def ApprovalDecision.ref (a : ApprovalDecision) : ApprovalRef := ⟨a.approvalId,a.decisionDigest⟩

structure ExceptionRef where
  exceptionId : StableId
  exceptionDigest : Digest
  deriving DecidableEq

structure PolicyException where
  exceptionId : StableId
  policyRef : PolicyRef
  operation : StableKey
  requestDigest : Digest
  scopeRef : OpaqueRef
  budget : ExecutionBudget
  allowDeniedOperation : Bool := false
  (issuedAt expiresAt : Timestamp)
  signerRef : OpaqueRef
  signature : Signature
  expires : issuedAt < expiresAt
  deriving DecidableEq

def PolicyException.exceptionDigest (e : PolicyException) : Digest := canonicalDigest <| sorted [
  ("exception_id",.string e.exceptionId),("policy_ref",e.policyRef.document),("operation",.string e.operation),
  ("request_digest",.string e.requestDigest),("scope_ref",.string e.scopeRef),("budget",e.budget.document),
  ("allow_denied_operation",.bool e.allowDeniedOperation),("issued_at",natural e.issuedAt),
  ("expires_at",natural e.expiresAt),("signer_ref",.string e.signerRef)]

def PolicyException.ref (e : PolicyException) : ExceptionRef := ⟨e.exceptionId,e.exceptionDigest⟩

/-- The admission proof of a resolved run. -/
structure PolicyAuthorization where
  policyRef : PolicyRef
  operation : StableKey
  requestDigest : Digest
  bindings : List CapabilityBinding
  budget : ExecutionBudget
  approvalRef : Option ApprovalRef := none
  exceptionRef : Option ExceptionRef := none
  resolvedAt : Timestamp
  bounded : bindings.length ≤ 256
  deriving DecidableEq

end Arbora.PolicyPlane
