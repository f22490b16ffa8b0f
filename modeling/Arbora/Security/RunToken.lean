import Arbora.Lib.Base64
import Arbora.Lib.JsonReader
import Arbora.Lib.Sha256

/-! Tokens that carry what one run may do, signed and short-lived. -/
namespace Arbora.Security

inductive DelegationMode
  | off | warn | on
deriving DecidableEq

/-- What the settings say, and the secret of the process. -/
structure Environment where
  /-- Empty when none is configured. -/
  tokenSecret : String
  delegationMode : DelegationMode
  ephemeral : List ℕ

inductive Raised
  | runTokenSecretUnavailable
  | malformedToken
  | badSignature
  /-- A signed body that is not what `mint_token` writes. -/
  | malformedBody
  | tokenExpired
  | endpointNotInScope (endpoint : String)
  | operationNotInScope (operation : String)
  | typeError

structure FloatText (Time : Type) where
  repr : Time → Json.Number
  float : Json.Number → Option Time
  float_repr : ∀ t, float (repr t) = some t

structure RunToken (Time : Type) where
  (runId project : String)
  (endpoints operations : List String)
  expiresAt : Time
  (actorId tenantId : String)

/-- There is no fallback once delegation is on. -/
def secret (env : Environment) : Except Raised (List ℕ) :=
  if env.tokenSecret ≠ "" then .ok (Base64.utf8 env.tokenSecret)
  else if env.delegationMode = .on then .error .runTokenSecretUnavailable
  else .ok env.ephemeral

def signature (key : List ℕ) (body : List Char) : List Char :=
  Base64.encode (Sha256.hmac key (Base64.utf8 (String.ofList body)))

def member (key : String) : Json.Document → Option Json.Document
  | .object members => ((members.filter (·.1 = key)).getLast?).map (·.2)
  | _ => none

def asString : Json.Document → Except Raised String
  | .string s => .ok s
  | _ => .error .malformedBody

def asStrings : Json.Document → Except Raised (List String)
  | .array items => items.mapM asString
  | _ => .error .malformedBody

def stringOr (default : String) (key : String) (data : Json.Document) : Except Raised String :=
  match member key data with
  | none => .ok default
  | some d => asString d

def stringsOr (default : List String) (key : String) (data : Json.Document) : Except Raised (List String) :=
  match member key data with
  | none => .ok default
  | some d => asStrings d

variable {Time : Type} (F : FloatText Time)

def payload (token : RunToken Time) : Json.Document := Json.sorted [
  ("run_id",.string token.runId),
  ("project",.string token.project),
  ("endpoints",.array (token.endpoints.map .string)),
  ("operations",.array (token.operations.map .string)),
  ("expires_at",.number (F.repr token.expiresAt)),
  ("actor_id",.string token.actorId),
  ("tenant_id",.string token.tenantId)]

def mintToken [Add Time] (env : Environment) (runId project : String) (endpoints operations : List String)
    (ttlSeconds : Time) (actorId tenantId : String) (now : Time) : Except Raised String := do
  let data := payload F ⟨runId,project,endpoints,operations,now+ttlSeconds,actorId,tenantId⟩
  let body := Base64.encode (Base64.utf8 (String.ofList (Json.dumps data)))
  let key ← secret env
  .ok (String.ofList (body ++ '.' :: signature key body))

/-- A body and what follows its first dot. -/
def splitDot (text : List Char) : Option (List Char × List Char) :=
  match text.dropWhile (· ≠ '.') with
  | [] => none
  | _ :: rest => some (text.takeWhile (· ≠ '.'),rest)

def fromData (data : Json.Document) : Except Raised (RunToken Time) :=
  match member "run_id" data, member "expires_at" data with
  | some runId, some (.number expiresAt) => do
    let runId ← asString runId
    let project ← stringOr "" "project" data
    let endpoints ← stringsOr [] "endpoints" data
    let operations ← stringsOr [] "operations" data
    let expiresAt ←
      match F.float expiresAt with
      | none => .error .malformedBody
      | some t => .ok t
    let actorId ← stringOr "" "actor_id" data
    let tenantId ← stringOr "" "tenant_id" data
    .ok ⟨runId,project,endpoints,operations,expiresAt,actorId,tenantId⟩
  | _, _ => .error .malformedBody

def decodeToken (env : Environment) (token : String) : Except Raised (RunToken Time) :=
  match splitDot token.toList with
  | none => .error .malformedToken
  | some (body,sig) => do
    let key ← secret env
    -- the comparison takes ASCII only
    if sig.any fun c => 128 ≤ c.toNat then .error .typeError
    else if sig ≠ signature key body then .error .badSignature
    else
      match ((Base64.decode body).bind Base64.fromUtf8).bind fun text => Json.loads text.toList with
      | none => .error .malformedBody
      | some data => fromData F data

/-- Nothing asked for, a wildcard, or the name itself. -/
def inScope (scope : List String) : Option String → Bool
  | none => true
  | some name => "*" ∈ scope || name ∈ scope

def validateToken [LE Time] [DecidableLE Time] (env : Environment) (token : String)
    (endpoint operation : Option String) (now : Time) : Except Raised (RunToken Time) := do
  let decoded ← decodeToken F env token
  if decoded.expiresAt ≤ now then .error .tokenExpired
  else if inScope decoded.endpoints endpoint = false then .error (.endpointNotInScope (endpoint.getD ""))
  else if inScope decoded.operations operation = false then .error (.operationNotInScope (operation.getD ""))
  else .ok decoded

end Arbora.Security
