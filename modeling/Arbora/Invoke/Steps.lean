import Arbora.Api.SurfaceGate
import Arbora.Invoke.Values
import Arbora.Lib.Program

/-! Callers, outcomes and the authorities that an invocation awaits, with the checks that every
transport shares. -/
namespace Arbora.Invoke
open Interaction Arbora.Api

def forbiddenAuthority : List String := ["_actor","_roles","_tenant","principal","tenant"]
def forbiddenOwner : List String := ["owner","owner_ref"]

/-- `sorted` of a set given by its elements. -/
def sortedSet (l : List String) : List String := l.dedup.insertionSort (· ≤ ·)

def sameSet (l l' : List String) : Bool := l.all (· ∈ l') && l'.all (· ∈ l)

/-- The facts of a caller; the session is not compared and nothing here reads it. -/
structure VerifiedCaller where
  (principal tenant : String)
  effectiveScopes : List String
  engineClaims : Value
  principalKind : String
  (authenticated delegated : Bool)
  (credentialKind policyRevision : String)
  requestId : String := ""
  mfaAtMs : Option Int := none

def VerifiedCaller.same (a b : VerifiedCaller) : Bool :=
  a.principal = b.principal && a.tenant = b.tenant && sameSet a.effectiveScopes b.effectiveScopes &&
    a.engineClaims.same b.engineClaims && a.principalKind = b.principalKind &&
    a.authenticated = b.authenticated && a.delegated = b.delegated && a.credentialKind = b.credentialKind &&
    a.policyRevision = b.policyRevision && a.requestId = b.requestId && a.mfaAtMs = b.mfaAtMs

inductive Source where
  | arbora | engine | fleet

abbrev Details := List (String × Value)

structure OpError where
  code : String
  details : Details := []
  source : Source := .arbora

structure OpResult where
  value : Value := .null
  code : String := "OK"
  details : Details := []

/-- What an invocation returns. -/
inductive Reply where
  | result (r : OpResult)
  | error (e : OpError)

def Reply.code : Reply → String
  | .result r => r.code
  | .error e => e.code

/-- What is raised; cancellation is no `Exception`. -/
inductive Raised where
  | operationRefused (code : String) (details : Details)
  | engineRefusal (code : String)
  | fleetRefusal (code server tool : String) (detail : Option String)
  | timeoutError
  | exception
  | cancelled

/-- What came of an await. -/
inductive Attempt (α : Type) where
  | returned (a : α)
  | raised (x : Raised)

def scopesMatch (scopes : Option Value) (effective : List String) : Bool :=
  let exact (items : List (Option String)) : Bool :=
    items.all (fun scope => scope.any fun s => s ≠ "" && !s.toList.contains '*') &&
      sameSet (items.filterMap id) effective
  match scopes with
  | some (.list items) => exact (items.map fun | .scalar (.str s) => some s | _ => none)
  | some (.tuple items) => exact (items.map fun | .scalar (.str s) => some s | _ => none)
  | some (.set items) => exact (items.map fun | .scalar (.str s) => some s | _ => none)
  | some (.frozenset items) => exact (items.map fun | .scalar (.str s) => some s | _ => none)
  | _ => false

def claimIs (claims : Value) (name text : String) : Bool :=
  match claims.get name with
  | some (.scalar (.str s)) => s = text
  | _ => false

def claimsMatch (caller : VerifiedCaller) : Bool :=
  let claims := caller.engineClaims
  claims.isMapping && (caller.principalKind == "human" || caller.principalKind == "service") &&
    claimIs claims "principal" caller.principal && claimIs claims "tenant" caller.tenant &&
    scopesMatch (claims.get "scopes") caller.effectiveScopes &&
    claimIs claims "policy_version" caller.policyRevision &&
    (claims.get "delegation").any Value.truthy == caller.delegated

def identityFieldsValid (caller : VerifiedCaller) : Bool :=
  caller.principal ≠ "" && caller.tenant ≠ "" && caller.policyRevision ≠ "" && caller.credentialKind ≠ ""

/-- What is no `VerifiedCaller`, or one with fields of other types, is `none`. -/
def authenticate (caller : Option VerifiedCaller) : Option OpError :=
  match caller with
  | none => some { code := "UNAUTHENTICATED" }
  | some caller =>
    if caller.authenticated && claimsMatch caller && identityFieldsValid caller then none
    else some { code := "UNAUTHENTICATED" }

def principalRule (op : OpSpec) (caller : VerifiedCaller) : Option OpError :=
  let isService := caller.principalKind == "service"
  let denied := match op.principals with
    | .any => false
    | .human => isService
    | .humanUndelegated => isService || caller.delegated
    | .serviceOnly => !isService
  if denied then some { code := "PRINCIPAL_NOT_ALLOWED" } else none

def requireScopes (op : OpSpec) (caller : VerifiedCaller) : Option OpError :=
  let missing := sortedSet (op.scopes.filter fun scope => !caller.effectiveScopes.contains scope)
  if missing ≠ [] then
    some { code := "SCOPE_REQUIRED", details := [("missing_scopes",.list (missing.map .str))] }
  else none

/-- The principal kinds a rule lets through. -/
def PrincipalAllowed (op : OpSpec) (caller : VerifiedCaller) : Prop :=
  match op.principals with
  | .any => True
  | .human => caller.principalKind ≠ "service"
  | .humanUndelegated => caller.principalKind ≠ "service" ∧ caller.delegated = false
  | .serviceOnly => caller.principalKind = "service"

theorem principalRule_none {op : OpSpec} {caller : VerifiedCaller} (h : principalRule op caller = none) :
    PrincipalAllowed op caller := by
  unfold principalRule at h
  unfold PrincipalAllowed
  cases hp : op.principals <;> simp_all

theorem requireScopes_none {op : OpSpec} {caller : VerifiedCaller} (h : requireScopes op caller = none) :
    ∀ scope ∈ op.scopes, scope ∈ caller.effectiveScopes := by
  intro scope hscope
  by_contra hnot
  have hmem : scope ∈ sortedSet (op.scopes.filter fun s => !caller.effectiveScopes.contains s) := by
    simp [sortedSet,hscope,hnot]
  have hne : sortedSet (op.scopes.filter fun s => !caller.effectiveScopes.contains s) ≠ [] :=
    List.ne_nil_of_mem hmem
  unfold requireScopes at h
  rw [if_pos hne] at h
  cases h

/-- The exact authority of the live catalog for one child call. -/
structure FleetCallDecision where
  effect : Effect
  confirm : Confirm
  principals : PrincipalRule
  executor : Executor
  (requiredScopes executorScopes : List String)
  subjectId : Option String
  credentialMode : String

def FleetCallDecision.same (a b : FleetCallDecision) : Bool :=
  a.effect = b.effect && a.confirm = b.confirm && a.principals = b.principals && a.executor = b.executor &&
    sameSet a.requiredScopes b.requiredScopes && sameSet a.executorScopes b.executorScopes &&
    a.subjectId = b.subjectId && a.credentialMode = b.credentialMode

inductive FleetAnswer where
  | decision (d : FleetCallDecision)
  | illTyped
  | other

structure Arguments where
  value : Value
  document : Json.Document
  digestible : value.toJson = some document

structure PlanBinding where
  (opId paramsDigest principal tenant policyRevision registryDigest effect confirm : String)

inductive ReservationState where
  | acquired | pending | completed | conflict

structure EffectReservation where
  reference : String
  state : ReservationState
  outcome : Option Reply := none

structure ExecutionContext where
  caller : VerifiedCaller
  owner : String
  serviceIdentity : Bool
  idempotencyKey : Option String
  fleetDecision : Option FleetCallDecision
  registryDigest : String

abbrev AuditEvent := List (String × String)

inductive ModelAnswer where
  | dumped (entries : List (Key × Value))
  | invalid (fields : List String)
  | raised
  | undumpable

inductive SchemaAnswer where
  | mapping (entries : List (Key × Value))
  | other
  | valueError
  | raised

/-- How the execution context ends. It lets what was raised in it pass, and refuses nothing itself. -/
inductive Left where
  | returned
  | raised
  | cancelled

/-- Everything an invocation asks of what is around it. Answers the code does not check are of the
types that the ports declare. -/
inductive Authority where
  | validateModel (model : String) (params : Value)
  | validateSchema (path : String) (params : Value)
  | verifyCurrent (caller : VerifiedCaller)
  | checkOp (op : OpSpec) (caller : VerifiedCaller)
  | fleetEffect (op : OpSpec) (params : Value) (caller : VerifiedCaller)
  | checkSubjectAccess (caller : VerifiedCaller) (subject : String)
  | issuePlan (binding : PlanBinding) (params : Value)
  | consumePlan (reference : String) (binding : PlanBinding)
  | time
  | token
  | auditPreflight (event : AuditEvent) (audit : AuditClass) (caller : VerifiedCaller)
  | reserve (key binding : String)
  | complete (reference : String) (outcome : Reply)
  | auditWrite (event : AuditEvent) (audit : AuditClass) (caller : VerifiedCaller)
  | asService (tenant : String) (requiredScopes : List String)
  | asCaller (caller : VerifiedCaller)
  | leave
  | dispatch (op : OpSpec) (params : Value) (context : ExecutionContext)
  /-- Whether it was the timeout that cancelled. -/
  | expired

def Authority.Answer : Authority → Type
  | .validateModel _ _ => ModelAnswer
  | .validateSchema _ _ => SchemaAnswer
  | .verifyCurrent _ => Attempt (Option VerifiedCaller)
  | .checkOp _ _ => Attempt Bool
  | .fleetEffect _ _ _ => Attempt FleetAnswer
  | .checkSubjectAccess _ _ => Attempt Bool
  | .issuePlan _ _ => Attempt (Option String)
  | .consumePlan _ _ => Attempt (Option OpError)
  | .time => Int
  | .token => String
  | .auditPreflight _ _ _ => Attempt (Option String)
  | .reserve _ _ => Attempt (Option EffectReservation)
  | .complete _ _ => Attempt Unit
  | .auditWrite _ _ _ => Attempt Unit
  | .asService _ _ => Attempt Unit
  | .asCaller _ => Attempt Unit
  | .leave => Left
  | .dispatch _ _ _ => Attempt Value
  | .expired => Bool

abbrev Invocation := Prog Authority Authority.Answer Raised
abbrev History := List (Event Authority Authority.Answer)

def Attempt.raise {α : Type} : Attempt α → Invocation α
  | .returned a => return a
  | .raised x => throw x

def Left.raise : Left → Invocation Unit
  | .returned => return ()
  | .raised => throw .exception
  | .cancelled => throw .cancelled

/-- `except Exception`: nothing, unless it was cancelled. -/
def Attempt.caught {α : Type} : Attempt α → Invocation (Option α)
  | .returned a => return some a
  | .raised .cancelled => throw .cancelled
  | .raised _ => return none

namespace Ask

def validateModel (model : String) (params : Value) : Invocation ModelAnswer :=
  Prog.ask (Authority.validateModel model params)
def validateSchema (path : String) (params : Value) : Invocation SchemaAnswer :=
  Prog.ask (Authority.validateSchema path params)
def verifyCurrent (caller : VerifiedCaller) : Invocation (Attempt (Option VerifiedCaller)) :=
  Prog.ask (Authority.verifyCurrent caller)
def checkOp (op : OpSpec) (caller : VerifiedCaller) : Invocation (Attempt Bool) :=
  Prog.ask (Authority.checkOp op caller)
def fleetEffect (op : OpSpec) (params : Value) (caller : VerifiedCaller) : Invocation (Attempt FleetAnswer) :=
  Prog.ask (Authority.fleetEffect op params caller)
def checkSubjectAccess (caller : VerifiedCaller) (subject : String) : Invocation (Attempt Bool) :=
  Prog.ask (Authority.checkSubjectAccess caller subject)
def issuePlan (binding : PlanBinding) (params : Value) : Invocation (Attempt (Option String)) :=
  Prog.ask (Authority.issuePlan binding params)
def consumePlan (reference : String) (binding : PlanBinding) : Invocation (Attempt (Option OpError)) :=
  Prog.ask (Authority.consumePlan reference binding)
def time : Invocation Int := Prog.ask Authority.time
def token : Invocation String := Prog.ask Authority.token
def auditPreflight (event : AuditEvent) (audit : AuditClass) (caller : VerifiedCaller) :
    Invocation (Attempt (Option String)) := Prog.ask (Authority.auditPreflight event audit caller)
def reserve (key binding : String) : Invocation (Attempt (Option EffectReservation)) :=
  Prog.ask (Authority.reserve key binding)
def complete (reference : String) (outcome : Reply) : Invocation (Attempt Unit) :=
  Prog.ask (Authority.complete reference outcome)
def auditWrite (event : AuditEvent) (audit : AuditClass) (caller : VerifiedCaller) : Invocation (Attempt Unit) :=
  Prog.ask (Authority.auditWrite event audit caller)
def asService (tenant : String) (requiredScopes : List String) : Invocation (Attempt Unit) :=
  Prog.ask (Authority.asService tenant requiredScopes)
def asCaller (caller : VerifiedCaller) : Invocation (Attempt Unit) := Prog.ask (Authority.asCaller caller)
def leave : Invocation Left := Prog.ask Authority.leave
def dispatch (op : OpSpec) (params : Value) (context : ExecutionContext) : Invocation (Attempt Value) :=
  Prog.ask (Authority.dispatch op params context)
def expired : Invocation Bool := Prog.ask Authority.expired

end Ask
end Arbora.Invoke
