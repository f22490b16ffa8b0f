import Arbora.Invoke.Steps

/-! The invoke pipeline: validation, authority, confirmation, reservation, dispatch and outcome of
one call, with every authority asked in the order of the source. -/
namespace Arbora.Invoke
open Interaction Arbora.Api

def mfaFreshSeconds : Int := 900

structure Registry where
  get : String → Option OpSpec
  digest : String
  get_id : ∀ id op, get id = some op → op.id = id

/-- What an invocation reads of its services, as they are checked when they are put together. -/
structure InvokeServices where
  registry : Registry
  serviceScopes : List String
  externalEffectOperations : List String := []
  /-- The operations with a native idempotency owner. -/
  nativeIdempotency : List String := []
  hasFleetEffect : Bool := false
  hasSchemaValidate : Bool := false
  /-- The hex digest of a text's UTF-8 bytes. -/
  sha256 : List Char → String
  external_registered : ∀ id ∈ externalEffectOperations, (registry.get id).isSome
  native_registered : ∀ id ∈ nativeIdempotency, (registry.get id).isSome
  agents_owned : (registry.get "agents.run").isSome → "agents.run" ∈ nativeIdempotency
  fleet_served : (registry.get "fleet.call").isSome → hasFleetEffect
  schema_served : ∀ id op path, registry.get id = some op → op.params = .egSchema path → hasSchemaValidate

def OpError.unavailable (reason : String) : OpError := { code := "UNAVAILABLE", details := [("reason",.str reason)] }
def OpError.invalidField (field : String) : OpError :=
  { code := "INVALID_ARGUMENT", details := [("field",.str field)] }

/-- What was raised inside, as a value. -/
def attempt {α : Type} (p : Invocation α) : Invocation (Attempt α) :=
  (p.bind fun a => .ret (.returned a)).handle fun x => .ret (.raised x)

section
variable (services : InvokeServices)

def validateProvider (path : String) (params : Value) : Invocation (Except OpError (Option (List (Key × Value)))) := do
  if !services.hasSchemaValidate then return .error (.unavailable "EG schema validator unavailable")
  else match ← Ask.validateSchema path params with
    | .valueError => return .error { code := "INVALID_ARGUMENT" }
    | .raised => return .error (.unavailable "schema authority unavailable")
    | .other => return .error { code := "INVALID_ARGUMENT" }
    | .mapping entries =>
      if (forbiddenPath forbiddenAuthority "" (.mapping entries)).isSome then
        return .error { code := "INVALID_ARGUMENT" }
      else return .ok (some entries)

def validateParams (op : OpSpec) (params : Value) : Invocation (Except OpError (Option (List (Key × Value)))) := do
  if !params.isMapping then return .error { code := "INVALID_ARGUMENT" }
  else match forbiddenPath forbiddenAuthority "" params with
    | some field => return .error (.invalidField field)
    | none => match op.params with
      | .egSchema path => validateProvider services path params
      | .unbound => return .error (.unavailable "schema binding unavailable")
      | .model name => match ← Ask.validateModel name params with
        | .dumped entries => return .ok (some entries)
        | .undumpable => return .ok none
        | .invalid fields =>
          return .error { code := "INVALID_ARGUMENT", details := [("fields",.list (fields.map .str))] }
        | .raised => throw .exception

def frozenArguments (entries : List (Key × Value)) : Option Arguments :=
  match freezeClaims (.mapping entries) with
  | none => none
  | some value => match h : value.toJson with
    | none => none
    | some document => some ⟨value,document,h⟩

def arguments (op : OpSpec) (params : Value) : Invocation (Except OpError Arguments) := do
  match ← validateParams services op params with
  | .error refused => return .error refused
  | .ok none => return .error { code := "INVALID_ARGUMENT" }
  | .ok (some entries) => match frozenArguments entries with
    | none => return .error { code := "INVALID_ARGUMENT" }
    | some arguments => return .ok arguments

def paramsDigest (document : Json.Document) : String := services.sha256 (Json.write document)

end

section
variable (services : InvokeServices)

def policy (op : OpSpec) (caller : VerifiedCaller) : Invocation (Option OpError) := do
  match ← (← Ask.checkOp op caller).caught with
  | none => return some { code := "POLICY_UNAVAILABLE" }
  | some allowed => return if allowed then none else some { code := "POLICY_DENIED" }

def baseAuthority (op : OpSpec) (caller : VerifiedCaller) : Invocation (Option OpError) := do
  match principalRule op caller with
  | some refused => return some refused
  | none => match requireScopes op caller with
    | some refused => return some refused
    | none => policy op caller

def refresh (caller : Option VerifiedCaller) : Invocation (Except OpError VerifiedCaller) := do
  match caller, authenticate caller with
  | _, some refused => return .error refused
  | none, none => throw .exception
  | some caller, none => match ← (← Ask.verifyCurrent caller).caught with
    | none => return .error { code := "UNAUTHENTICATED" }
    | some current => match current, authenticate current with
      | _, some refused => return .error refused
      | none, none => throw .exception
      | some current, none =>
        if current.principal ≠ caller.principal ∨ current.tenant ≠ caller.tenant ∨
            current.principalKind ≠ caller.principalKind then
          return .error { code := "UNAUTHENTICATED" }
        else if ({ current with requestId := caller.requestId } : VerifiedCaller).same caller then
          return .ok { current with requestId := caller.requestId }
        else return .error { code := "UNAUTHENTICATED" }

def effectAuthorityValid (effect : Effect) (confirm : Confirm) (principals : PrincipalRule) : Bool :=
  match effect with
  | .destructive => confirm = .plan
  | .admin => confirm = .console && principals = .humanUndelegated
  | _ => true

/-- The types of a decision's fields are those of the model; what is left is the scopes' text. -/
def fleetTypesValid (decision : FleetCallDecision) : Bool :=
  (decision.requiredScopes ++ decision.executorScopes).all fun scope => scope ≠ "" && !scope.toList.contains '*'

def fleetExecutorValid (op : OpSpec) (decision : FleetCallDecision) : Bool :=
  match decision.executor with
  | .caller => decision.credentialMode = "delegated" && decision.executorScopes.isEmpty && decision.subjectId.isNone
  | .service => decision.credentialMode = "service" && !decision.requiredScopes.isEmpty &&
      !decision.executorScopes.isEmpty &&
      decision.subjectId.any (fun subject => 1 ≤ subject.length && subject.length ≤ 256) && op.audit ≠ .none

def validFleetDecision (op : OpSpec) (decision : FleetCallDecision) : Bool :=
  fleetTypesValid decision && effectAuthorityValid decision.effect decision.confirm decision.principals &&
    fleetExecutorValid op decision

/-- The operation with the authority of a decision. -/
def fleetOp (op : OpSpec) (decision : FleetCallDecision) : OpSpec :=
  { op with
    effect := decision.effect
    confirm := decision.confirm
    principals := decision.principals
    executor := decision.executor
    scopes := op.scopes ++ decision.requiredScopes
    executorScopes := decision.executorScopes }

def effectiveOp (op : OpSpec) (params : Value) (caller : VerifiedCaller) :
    Invocation (Except OpError (OpSpec × Option FleetCallDecision)) := do
  if op.id ≠ "fleet.call" then return .ok (op,none)
  else if !services.hasFleetEffect then return .error (.unavailable "fleet effect authority unavailable")
  else match ← (← Ask.fleetEffect op params caller).caught with
    | none => return .error (.unavailable "fleet effect authority unavailable")
    | some .other => return .error (.unavailable "invalid fleet effect authority")
    | some .illTyped => return .error (.unavailable "invalid fleet authority")
    | some (.decision resolved) =>
      if validFleetDecision op resolved then return .ok (fleetOp op resolved,some resolved)
      else return .error (.unavailable "invalid fleet authority")

/-- `value.get(segment)` along the segments, as long as there are mappings. -/
def follow : List String → Value → Option Value
  | [], value => some value
  | segment :: rest, value => if value.isMapping then (value.get segment).bind (follow rest) else none

def subjectValue (op : OpSpec) (params : Value) (caller : VerifiedCaller) : Option String :=
  match op.subject with
  | none => none
  | some .callerTenant => some caller.tenant
  | some (.param path) =>
    if path = "" then none
    else
      let segments := (path.toList.splitOn '.').map String.ofList
      let segments := if segments.head? = some "params" then segments.tail else segments
      match follow segments params with
      | some (.scalar (.str s)) => if s ≠ "" then some s else none
      | _ => none

def serviceAuthorityRefusal (op : OpSpec) (verifiedSubject : Option String) : Option OpError :=
  if verifiedSubject.isSome ∧ op.id ≠ "fleet.call" then some (.unavailable "unexpected resolved subject")
  else if op.scopes = [] ∨ op.executorScopes = [] then some (.unavailable "service authority absent")
  else if op.subject.isNone ∧ verifiedSubject.isNone then some (.unavailable "service op has no subject")
  else none

/-- `verified_subject or subject_value(..)` -/
def chosenSubject (op : OpSpec) (params : Value) (caller : VerifiedCaller) (verifiedSubject : Option String) :
    Option String :=
  match verifiedSubject with
  | some subject => if subject ≠ "" then some subject else subjectValue op params caller
  | none => subjectValue op params caller

def serviceSubject (op : OpSpec) (params : Value) (caller : VerifiedCaller) (verifiedSubject : Option String) :
    Except OpError String :=
  match forbiddenPath forbiddenOwner "" params with
  | some field => .error (.invalidField field)
  | none => match serviceAuthorityRefusal op verifiedSubject with
    | some refused => .error refused
    | none => match chosenSubject op params caller verifiedSubject with
      | none => .error (.invalidField "subject")
      | some subject =>
        if op.executorScopes.all (· ∈ services.serviceScopes) then .ok subject
        else .error (.unavailable "service grant incomplete")

def prepareExecutor (op : OpSpec) (params : Value) (caller : VerifiedCaller) (verifiedSubject : Option String) :
    Invocation (Option OpError) := do
  if op.executor ≠ .service then return none
  else match serviceSubject services op params caller verifiedSubject with
    | .error refused => return some refused
    | .ok subject => match ← (← Ask.checkSubjectAccess caller subject).caught with
      | none => return some (.unavailable "subject authority unavailable")
      | some allowed => return if allowed then none else some { code := "SUBJECT_ACCESS_DENIED" }

def authorize (op : OpSpec) (params : Value) (caller : VerifiedCaller) (decision : Option FleetCallDecision) :
    Invocation (Option OpError) := do
  match ← refresh (some caller) with
  | .error refused => return some refused
  | .ok _ => match ← baseAuthority op caller with
    | some refused => return some refused
    | none => prepareExecutor services op params caller (decision.bind FleetCallDecision.subjectId)

/-- A decision of the live catalog is still the same. -/
def recheckDecision (op : OpSpec) (params : Value) (caller : VerifiedCaller) (decision : Option FleetCallDecision) :
    Invocation (Option OpError) := do
  match decision with
  | none => return none
  | some decision => match services.registry.get op.id with
    | none => throw .exception
    | some registered => match ← effectiveOp services registered params caller with
      | .error refused => return some refused
      | .ok (_,current) =>
        if current.any fun d => d.same decision then return none else return some { code := "POLICY_DENIED" }

def recheck (op : OpSpec) (params : Value) (caller : VerifiedCaller) (decision : Option FleetCallDecision) :
    Invocation (Option OpError) := do
  match ← authorize services op params caller decision with
  | some refused => return some refused
  | none => match ← recheckDecision services op params caller decision with
    | some refused => return some refused
    | none => match ← refresh (some caller) with
      | .error refused => return some refused
      | .ok _ => return none

end

section
variable (services : InvokeServices)

def requiresPlan (op : OpSpec) (resolvedFromIntent : Bool) : Bool :=
  op.confirm = .plan || op.confirm = .console || (op.effect = .write && resolvedFromIntent)

def bindPlan (op : OpSpec) (arguments : Arguments) (caller : VerifiedCaller) : PlanBinding where
  opId := op.id
  paramsDigest := paramsDigest services arguments.document
  principal := caller.principal
  tenant := caller.tenant
  policyRevision := caller.policyRevision
  registryDigest := services.registry.digest
  effect := op.effect.value
  confirm := op.confirm.value

/-- One authorized request. -/
structure Call where
  op : OpSpec
  arguments : Arguments
  caller : VerifiedCaller
  surface : Surface
  decision : Option FleetCallDecision
  (planRef idempotencyKey : Option String)
  resolvedFromIntent : Bool

namespace Call

def needsPlan (call : Call) : Bool := requiresPlan call.op call.resolvedFromIntent
def externalReplay (call : Call) : Bool := services.externalEffectOperations.contains call.op.id
def nativeReplay (call : Call) : Bool := services.nativeIdempotency.contains call.op.id && !call.needsPlan
def governed (call : Call) : Bool := call.op.effect ≠ .read || call.op.id = "fleet.call"
def binding (call : Call) : PlanBinding := bindPlan services call.op call.arguments call.caller

end Call

def consoleReady (caller : VerifiedCaller) (surface : Surface) : Invocation Bool := do
  match caller.mfaAtMs with
  | none => return false
  | some mfaAtMs =>
    if surface ≠ .console ∨ caller.delegated ∨ caller.principalKind ≠ "human" ∨ caller.credentialKind ≠ "session" then
      return false
    else
      let age := (← Ask.time) - mfaAtMs
      return 0 ≤ age ∧ age ≤ mfaFreshSeconds * 1000

def Call.consoleConfirmed (call : Call) : Invocation Bool :=
  if call.op.confirm = .console then consoleReady call.caller call.surface else return true

def issuePlan (op : OpSpec) (binding : PlanBinding) (params : Value) : Invocation Reply := do
  match ← (← Ask.issuePlan binding params).caught with
  | some (some reference) =>
    let details := [("plan_ref",Value.str reference),("op",.str op.id),("effect",.str op.effect.value)]
    if reference = "" then return .error (.unavailable "plan lease unavailable")
    else if op.confirm = .console then
      return .result { code := "STEP_UP_REQUIRED",
                       details := details ++ [("console_url",.str ("/console/confirm/" ++ reference))] }
    else return .result { code := "CONFIRMATION_REQUIRED", details := details }
  | _ => return .error (.unavailable "plan lease unavailable")

def Call.effect (call : Call) (planRef : Option String) : Invocation (Option Reply) := do
  if !call.needsPlan then
    return if planRef.isSome then some (.error { code := "PLAN_MISMATCH" }) else none
  else match planRef with
    | none => return some (← issuePlan call.op (call.binding services) call.arguments.value)
    | some reference =>
      if !(← call.consoleConfirmed) then return some (.error { code := "PRINCIPAL_NOT_ALLOWED" })
      else match ← (← Ask.consumePlan reference (call.binding services)).caught with
        | none => return some (.error (.unavailable "plan lease unavailable"))
        | some answer => return answer.map .error

def validKey (key : String) : Bool := 1 ≤ key.length && key.length ≤ 256

def requestRefusal (call : Call) : Option OpError :=
  if call.idempotencyKey.any (fun key => !validKey key) then some (.invalidField "idempotency_key")
  else if call.planRef.any (fun reference => reference = "" || !call.needsPlan) then some { code := "PLAN_MISMATCH" }
  else if call.needsPlan && !call.externalReplay services then
    some (.unavailable "confirmed replay authority unavailable")
  else none

def missingIdempotencyKey (call : Call) : Bool :=
  call.op.effect = .write && call.op.idempotency ≠ .natural && call.idempotencyKey.all (· = "") &&
    call.planRef.all (· = "")

def executionRefusal (call : Call) : Invocation (Option OpError) := do
  if !(← call.consoleConfirmed) then return some { code := "PRINCIPAL_NOT_ALLOWED" }
  else if missingIdempotencyKey call then return some (.invalidField "idempotency_key")
  else if call.governed && !call.nativeReplay services && !call.externalReplay services then
    return some (.unavailable "durable effect owner unavailable")
  else return none

def confirmationGate (call : Call) : Invocation (Option Reply) := do
  match requestRefusal services call with
  | some refused => return some (.error refused)
  | none =>
    if call.needsPlan && call.planRef.isNone then call.effect services none
    else return (← executionRefusal services call).map .error

def journalKey (call : Call) : Option String :=
  if call.idempotencyKey.isNone ∧ call.op.idempotency = .natural then
    some ("natural:" ++ paramsDigest services call.arguments.document)
  else call.idempotencyKey

def requestText (caller : VerifiedCaller) (op : OpSpec) (kind text : String) : List Char :=
  Json.write (.array [.string caller.tenant,.string caller.principal,.string op.id,.string kind,.string text])
def requestToken (caller : VerifiedCaller) : Invocation String :=
  if caller.requestId ≠ "" then return caller.requestId else Ask.token

def requestCaller (op : OpSpec) (caller : VerifiedCaller) (idempotencyKey planRef : Option String) :
    Invocation (Except OpError VerifiedCaller) := do
  let identified (kind text : String) : VerifiedCaller :=
    { caller with requestId := services.sha256 (requestText caller op kind text) }
  match planRef with
  | some reference => return .ok (identified "plan" reference)
  | none => match idempotencyKey with
    | some key =>
      if validKey key then return .ok (identified "key" key)
      else return .error (.invalidField "idempotency_key")
    | none =>
      if op.effect = .read then
        return .ok (identified "request" (← requestToken caller))
      else return .error (.invalidField "idempotency_key")

def identifiedCaller (call : Call) : Invocation (Except OpError VerifiedCaller) :=
  if call.governed then requestCaller services call.op call.caller (journalKey services call) call.planRef
  else return .ok call.caller

def bindCaller (call : Call) : Invocation (Except OpError VerifiedCaller) := do
  match ← identifiedCaller services call with
  | .error refused => return .error refused
  | .ok caller => match ← refresh (some caller) with
    | .error refused => return .error refused
    | .ok refreshed => if refreshed.same caller then return .ok caller else return .error { code := "UNAUTHENTICATED" }

def auditEvent (call : Call) (status : String) (auditRef : String := "") : AuditEvent :=
  [("op",call.op.id),("surface",call.surface.value),("principal",call.caller.principal),
    ("tenant",call.caller.tenant),("plan_digest",paramsDigest services call.arguments.document),
    ("result_status",status),("request_id",call.caller.requestId)] ++
  (if auditRef ≠ "" then [("audit_ref",auditRef)] else []) ++
  (match call.op.id == "fleet.call",call.arguments.value.get "server",call.arguments.value.get "tool" with
    | true,some (.scalar (.str server)),some (.scalar (.str tool)) => [("target",server ++ "/" ++ tool)]
    | _,_,_ => []) ++
  (if call.op.executor = .service then [("owner",call.caller.principal)] else [])

def auditPreflight (call : Call) : Invocation (Except OpError String) := do
  if call.op.audit = .none then return .error (.unavailable "audit class unavailable")
  else match ← (← Ask.auditPreflight (auditEvent services call "PENDING") call.op.audit call.caller).caught with
    | some (some auditRef) =>
      if auditRef ≠ "" then return .ok auditRef else return .error (.unavailable "audit reservation unavailable")
    | _ => return .error (.unavailable "audit reservation unavailable")

/-- The authority that a reservation is bound to. -/
def authorityDocument (call : Call) : Json.Document :=
  .object (sortMembers
    [("scopes",.array ((sortedSet call.caller.effectiveScopes).map .string)),
      ("executor_scopes",.array ((sortedSet call.op.executorScopes).map .string)),
      ("principal_kind",.string call.caller.principalKind),("delegated",.bool call.caller.delegated),
      ("executor",.string call.op.executor.value),
      ("subject",match call.decision.bind FleetCallDecision.subjectId with
        | some subject => .string subject
        | none => .null)])

def bindingDocument (call : Call) : Json.Document :=
  let grant := call.binding services
  .object (sortMembers
    [("op_id",.string grant.opId),("params_digest",.string grant.paramsDigest),
      ("principal",.string grant.principal),("tenant",.string grant.tenant),
      ("policy_revision",.string grant.policyRevision),("registry_digest",.string grant.registryDigest),
      ("effect",.string grant.effect),("confirm",.string grant.confirm),
      ("authority",.string (paramsDigest services (authorityDocument call)))])

def journalBinding (call : Call) : String := paramsDigest services (bindingDocument services call)

/-- The journal is there: only covered operations come here. -/
def reserveEffect (call : Call) : Invocation (Except OpError EffectReservation) := do
  match ← (← Ask.reserve call.caller.requestId (journalBinding services call)).caught with
  | some (some reservation) =>
    if reservation.reference ≠ "" then return .ok reservation
    else return .error (.unavailable "effect reservation unavailable")
  | _ => return .error (.unavailable "effect reservation unavailable")

def indeterminate (auditRef : String) : OpError := { code := "INDETERMINATE", details := [("audit_ref",.str auditRef)] }

/-- Whether an outcome settles a reservation. -/
def Reply.settles (reply : Reply) : Bool := reply.code ≠ "INDETERMINATE" && reply.code ≠ "TIMEOUT"

def writeAudit (call : Call) (auditRef status : String) : Invocation Unit :=
  if auditRef ≠ "" then do
    (← Ask.auditWrite (auditEvent services call status auditRef) call.op.audit call.caller).raise
  else return ()

def settle (reservation : Option EffectReservation) (result : Reply) : Invocation Unit :=
  match reservation with
  | none => return ()
  | some reservation => if result.settles then do (← Ask.complete reservation.reference result).raise else return ()

def writeOutcome (call : Call) (auditRef : String) (reservation : Option EffectReservation) (result : Reply) :
    Invocation Unit := do
  writeAudit services call auditRef result.code
  settle reservation result

def record (call : Call) (auditRef : String) (reservation : Option EffectReservation) (result : Reply) :
    Invocation Reply := do
  match ← attempt (writeOutcome services call auditRef reservation result) with
  | .returned _ => return result
  | .raised .cancelled => throw .cancelled
  | .raised _ => return .error (indeterminate auditRef)

def replayCompleted (call : Call) (auditRef : String) (outcome : Reply) : Invocation Reply := do
  match ← recheck services call.op call.arguments.value call.caller call.decision with
  | some refused => return .error refused
  | none => record services call auditRef none outcome

/-- The audit reference and the reservation of a call that goes on. -/
abbrev Reserved := String × Option EffectReservation

def reserve (call : Call) : Invocation (Except Reply Reserved) := do
  if !call.governed then return .ok ("",none)
  else match ← auditPreflight services call with
    | .error refused => return .error (.error refused)
    | .ok auditRef =>
      if call.nativeReplay services then return .ok (auditRef,none)
      else match ← reserveEffect services call with
        | .error refused => return .error (.error refused)
        | .ok reservation => match reservation.state, reservation.outcome with
          | .completed, some outcome => return .error (← replayCompleted services call auditRef outcome)
          | .acquired, _ => return .ok (auditRef,some reservation)
          | .pending, _ => return .error (.error (indeterminate auditRef))
          | _, _ =>
            return .error (.error { code := "INVALID_ARGUMENT", details := [("audit_ref",.str auditRef)] })

def unsettled (call : Call) (auditRef ungovernedCode : String) : OpError :=
  { code := if call.governed then "INDETERMINATE" else ungovernedCode
    details := if auditRef ≠ "" then [("audit_ref",.str auditRef)] else [] }

def Call.context (call : Call) (idempotencyKey : Option String) : ExecutionContext where
  caller := call.caller
  owner := call.caller.principal
  serviceIdentity := call.op.executor = .service
  idempotencyKey := idempotencyKey
  fleetDecision := call.decision
  registryDigest := services.registry.digest

def enterContext (call : Call) : Invocation (Attempt Unit) :=
  if call.op.executor = .service then Ask.asService call.caller.tenant call.op.executorScopes
  else Ask.asCaller call.caller

def leaveContext {α : Type} (outcome : Attempt α) : Invocation α := do
  (← Ask.leave).raise
  outcome.raise

/-- The identity context, left again whatever happens in it. -/
def executionContext {α : Type} (call : Call) (body : Invocation α) : Invocation α := do
  (← enterContext call).raise
  leaveContext (← attempt body)

/-- What happens inside the context. -/
def dispatchChecked (call : Call) (idempotencyKey : Option String) : Invocation Value := do
  match ← recheck services call.op call.arguments.value call.caller call.decision with
  | some refused => throw (.operationRefused refused.code refused.details)
  | none => (← Ask.dispatch call.op call.arguments.value (call.context services idempotencyKey)).raise

def dispatch (call : Call) (idempotencyKey : Option String) : Invocation Value :=
  executionContext call (dispatchChecked services call idempotencyKey)

/-- `asyncio.wait_for`: a cancellation by the timeout becomes a `TimeoutError`. -/
def waitFor {α : Type} (p : Invocation α) : Invocation α := do
  match ← attempt p with
  | .raised .cancelled => if ← Ask.expired then throw .timeoutError else throw .cancelled
  | outcome => outcome.raise

def Call.dispatchKey (call : Call) : Option String :=
  match call.planRef with
  | some reference => if reference ≠ "" then some ("plan:" ++ reference) else call.idempotencyKey
  | none => call.idempotencyKey

def dispatchOutcome (call : Call) (auditRef : String) : Invocation Reply := do
  match ← attempt (waitFor (dispatch services call call.dispatchKey)) with
  | .returned value => return .result { value := value }
  | .raised (.operationRefused code details) => return .error { code := code, details := details }
  | .raised (.engineRefusal code) => return .error { code := code, source := .engine }
  | .raised (.fleetRefusal code server tool detail) =>
    return .error
      { code := code
        details := [("server",.str server),("tool",.str tool)] ++ (detail.map fun d => ("detail",.str d)).toList
        source := .fleet }
  | .raised .timeoutError => return .error (unsettled call auditRef "TIMEOUT")
  | .raised .exception => return .error (unsettled call auditRef "INTERNAL")
  | .raised .cancelled => throw .cancelled

def execute (call : Call) (auditRef : String) (reservation : Option EffectReservation) : Invocation Reply := do
  match ← call.effect services call.planRef with
  | some effect => record services call auditRef reservation effect
  | none => match ← attempt (dispatchOutcome services call auditRef) with
    | .raised .cancelled =>
      let _ ← record services call auditRef reservation (.error (indeterminate auditRef))
      throw .cancelled
    | .raised x => throw x
    | .returned result => record services call auditRef reservation result

def staticRefusal (op : OpSpec) (surface : Surface) : Option OpError :=
  if !effectAuthorityValid op.effect op.confirm op.principals then some (.unavailable "invalid effect authority")
  else if !op.surfaces.contains surface then some { code := "SURFACE_NOT_ALLOWED" }
  else none

/-- The caller and operation a request is carried out with. -/
structure Resolved where
  op : OpSpec
  caller : VerifiedCaller
  decision : Option FleetCallDecision

def resolve (op : OpSpec) (arguments : Arguments) (caller : Option VerifiedCaller) :
    Invocation (Except OpError Resolved) := do
  match ← refresh caller with
  | .error refused => return .error refused
  | .ok refreshed => match ← baseAuthority op refreshed with
    | some refused => return .error refused
    | none => match ← effectiveOp services op arguments.value refreshed with
      | .error refused => return .error refused
      | .ok (effective,decision) => match ← authorize services effective arguments.value refreshed decision with
        | some refused => return .error refused
        | none => return .ok ⟨effective,refreshed,decision⟩

/-- The arguments of `invoke`. -/
structure Request where
  opId : String
  params : Value
  caller : Option VerifiedCaller
  surface : Surface
  planRef : Option String := none
  idempotencyKey : Option String := none
  resolvedFromIntent : Bool := false

/-- What follows once the request is resolved. -/
def carryOut (call : Call) : Invocation Reply := do
  match ← confirmationGate services call with
  | some early => return early
  | none => match ← bindCaller services call with
    | .error refused => return .error refused
    | .ok bound =>
      let call := { call with caller := bound }
      match ← reserve services call with
      | .error reply => return reply
      | .ok (auditRef,reservation) => execute services call auditRef reservation

def invoke (request : Request) : Invocation Reply := do
  match services.registry.get request.opId with
  | none => return .error { code := "UNKNOWN_OP" }
  | some op => match staticRefusal op request.surface with
    | some refused => return .error refused
    | none => match ← arguments services op request.params with
      | .error refused => return .error refused
      | .ok arguments => match ← resolve services op arguments request.caller with
        | .error refused => return .error refused
        | .ok resolved =>
          carryOut services
            { op := resolved.op
              arguments := arguments
              caller := resolved.caller
              surface := request.surface
              decision := resolved.decision
              planRef := request.planRef
              idempotencyKey := request.idempotencyKey
              resolvedFromIntent := request.resolvedFromIntent }

end
end Arbora.Invoke
