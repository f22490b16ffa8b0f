import Arbora.Lib.Asking
import Arbora.Lib.Base64
import Arbora.Lib.Json
import Arbora.Lib.Sha256
import Arbora.Scaling.IntentRecords

/-! Tokens of a principal for a remote resource: what stands in the secrets store, and what the broker asks of its
environment. Audit lines are left out. -/
namespace Arbora.OAuth
open Interaction
open Prog (Fallible demand)
open Json (Document)

instance : DecidableEq Document := fun a b =>
  decidable_of_iff (Json.write a = Json.write b) Json.write_injective.eq_iff

inductive FailureKind where
  | provider | discovery | state | binding | scope | tokenAbsent | revoked | refreshRace | permission
  /-- whatever else the environment or a built-in raises -/
  | other
  deriving DecidableEq

structure Failure where
  kind : FailureKind
  text : String
  deriving DecidableEq

/-- What built-ins make of a JSON value. -/
structure Builtins (Time : Type) where
  str : Document → String
  truthy : Document → Bool
  /-- nothing where it raises -/
  float : Document → Option Time
  str_string : ∀ s, str (.string s) = s

/-- `str.split` without a separator -/
def words (text : String) : List String :=
  ((text.toList.splitOnP Scaling.isSpace).filter (· ≠ [])).map String.ofList

def joined (scopes : List String) : String := String.intercalate " " scopes

structure ActorContext where
  (tenantId actorId : String)
  authenticated : Bool

structure ProviderDescriptor where
  (providerId resourceUrl : String)
  (authorizationServerUrl clientId : Option String)
  dynamicClientRegistration : Bool
  redirectUri : String
  scopes : List String
  enabled : Bool
  identified : dynamicClientRegistration = clientId.isNone
  notBlank : ∀ id ∈ clientId, Scaling.strip id ≠ ""

structure AuthorizationServerMetadata where
  (authorizationEndpoint tokenEndpoint : String)

/-- The members of a token response. -/
abbrev Payload := List (String × Document)

structure OAuthTransaction (Time : Type) where
  (state nonce verifier providerId tenantId principalId browserSessionId redirectUri scope : String)
  (createdAt expiresAt : Time)
  clientId : String
  deriving DecidableEq

/-- Responses are kept as they come; no refresh token is `null`. -/
structure StoredToken (Time : Type) where
  (accessToken refreshToken tokenType : Document)
  expiresAt : Time
  grantedScope : Document
  keyVersion : ℤ
  (audience grantRevision : String)
  deriving DecidableEq

section
variable {Time : Type}

/-- Under what something is kept. -/
inductive Key where
  | transaction (state : String)
  | token (digest : String)
  | client (providerId : String)
  deriving DecidableEq

def Key.text : Key → String
  | .transaction state => "oauth-tx:" ++ state
  | .token digest => "oauth-token:" ++ digest
  | .client providerId => "oauth-dcr-client:" ++ providerId

theorem Key.text_injective : Function.Injective Key.text := by
  intro a b h
  have htake (label text : String) (hlength : 8 ≤ label.toList.length) :
      (label ++ text).toList.take 8 = label.toList.take 8 := by
    rw [String.toList_append,List.take_append_of_le_length hlength]
  cases a <;> cases b
  case transaction.transaction => rw [(String.append_right_inj "oauth-tx:").mp h]
  case token.token => rw [(String.append_right_inj "oauth-token:").mp h]
  case client.client => rw [(String.append_right_inj "oauth-dcr-client:").mp h]
  all_goals
    have htext := congrArg (fun text => text.toList.take 8) h
    change (_ ++ _ : String).toList.take 8 = (_ ++ _ : String).toList.take 8 at htext
    rw [htake _ _ (by decide +kernel),htake _ _ (by decide +kernel)] at htext
    exact absurd htext (by decide +kernel)

/-- A text that is kept, known by what it is the JSON of. -/
inductive Secret (Time : Type) where
  | transaction (tx : OAuthTransaction Time)
  | token (record : StoredToken Time)
  /-- a tombstone, with its time where that is a finite number -/
  | revoked (revokedAt : Option Time)
  /-- any other text -/
  | text (text : String)
  deriving DecidableEq

def consumedTombstone : Secret Time := .text "__consumed__"

/-- What is done while the lock of a token is held. -/
inductive Section (Time : Type) where
  | put (key : Key) (record : StoredToken Time) (startedAt : Option Time)
  | refresh (key : Key) (provider : ProviderDescriptor) (audience clientId : String)
  | revoke (key : Key)

def Section.key : Section Time → Key
  | .put key .. | .refresh key .. | .revoke key => key

@[reducible] def Section.Result : Section Time → Type
  | .put .. => Unit
  | .refresh .. => StoredToken Time
  | .revoke .. => Time

inductive Call (Time : Type) where
  | get (key : Key)
  | set (key : Key) (value : Secret Time)
  | setIfAbsent (key : Key) (value : Secret Time)
  | compareAndSet (key : Key) (expected value : Secret Time)
  | delete (key : Key)
  | time
  /-- random texts -/
  | verifier | state | nonce | revision
  /-- what the registry has under an id -/
  | provider (providerId : String)
  /-- both steps of discovery -/
  | discover (provider : ProviderDescriptor)
  /-- a registrar answers a text or something else -/
  | register (provider : ProviderDescriptor) (metadata : AuthorizationServerMetadata)
  | exchangeCode (tokenEndpoint clientId code verifier redirectUri : String)
  | exchangeRefresh (tokenEndpoint clientId : String) (refreshToken : Document)
  /-- a section made as one step -/
  | locked (s : Section Time)

@[reducible] def Call.Result : Call Time → Type
  | .get _ => Option (Secret Time)
  | .set .. | .delete _ => Unit
  | .setIfAbsent .. | .compareAndSet .. => Bool
  | .time => Time
  | .verifier | .state | .nonce | .revision => String
  | .provider _ => Option ProviderDescriptor
  | .discover _ => AuthorizationServerMetadata
  | .register .. => Option String
  | .exchangeCode .. | .exchangeRefresh .. => Payload
  | .locked s => s.Result

abbrev Call.Answer : Call Time → Type := Fallible Failure Call.Result
abbrev Step (Time α : Type) := Prog (Call Time) Call.Answer Failure α
abbrev ask (e : Call Time) : Step Time e.Result := demand e

end

/-! Custody of tokens: whoever asks reaches what is kept under a key of its own. -/
open Prog (refuse)

def requireVerified (actor : ActorContext) : Except Failure (String × String) :=
  let tenant := Scaling.strip actor.tenantId
  let principal := Scaling.strip actor.actorId
  if actor.authenticated = false ∨ tenant = "" ∨ principal = "" then
    .error ⟨.permission,"OAuth token custody requires a verified, authenticated principal with a tenant claim"⟩
  else .ok (tenant,principal)

/-- What the key of a token is the digest of. -/
def keyText (tenant principal providerId resourceUrl audience : String) : String :=
  String.intercalate "\n" [tenant,principal,providerId,resourceUrl,audience]

def storageKey (tenant principal providerId resourceUrl audience : String) : Key :=
  .token (String.ofList (Sha256.hexdigest (Base64.utf8 (keyText tenant principal providerId resourceUrl audience))))

section
variable {Time : Type} [LinearOrder Time] [Add Time] [OfNat Time 3600] (B : Builtins Time)

def currentKeyVersion : ℤ := 1

def requireNewer (startedAt : Option Time) : Option (Secret Time) → Except Failure Unit
  | some (.revoked revokedAt) =>
    match revokedAt, startedAt with
    | some revokedAt, some startedAt =>
      if startedAt ≤ revokedAt then .error ⟨.revoked,"authorization flow predates the token revocation"⟩ else .ok ()
    | _, _ => .error ⟨.revoked,"revoked token requires a newer authorization flow"⟩
  | _ => .ok ()

def putSection (key : Key) (record : StoredToken Time) (startedAt : Option Time) : Step Time Unit := do
  let raw ← ask (.get key)
  Prog.ofExcept (requireNewer startedAt raw)
  ask (.set key (.token record))

def refreshable : Option (Secret Time) → Except Failure (StoredToken Time)
  | none => .error ⟨.tokenAbsent,"no stored token for this principal/provider"⟩
  | some (.token current) => .ok current
  | some (.revoked _) => .error ⟨.revoked,"token is revoked"⟩
  | some (.transaction _) => .error ⟨.tokenAbsent,"no refresh token on this record"⟩
  | some (.text _) => .error ⟨.revoked,"stored record is unreadable; ambiguous -> revoked"⟩

def requireAccessToken (payload : Payload) : Except Failure Document :=
  match payload.lookup "access_token" with
  | some token => .ok token
  | none => .error ⟨.discovery,"token response is missing access_token"⟩

def expiresIn (payload : Payload) : Except Failure Time :=
  match payload.lookup "expires_in" with
  | none => .ok 3600
  | some d =>
    match B.float d with
    | some seconds => .ok seconds
    | none => .error ⟨.other,"could not convert expires_in to float"⟩

/-- The record that a refresh replaces another by. -/
def refreshed (current : StoredToken Time) (payload : Payload) (accessToken : Document) (expiresAt : Time)
    (audience revision : String) : StoredToken Time where
  accessToken := accessToken
  refreshToken := (payload.lookup "refresh_token").getD current.refreshToken
  tokenType := (payload.lookup "token_type").getD (.string "Bearer")
  expiresAt := expiresAt
  grantedScope := (payload.lookup "scope").getD current.grantedScope
  keyVersion := currentKeyVersion
  audience := audience
  grantRevision := revision

def refreshSection (key : Key) (provider : ProviderDescriptor) (audience clientId : String) :
    Step Time (StoredToken Time) := do
  let raw ← ask (.get key)
  let current ← Prog.ofExcept (refreshable raw)
  refuse (B.truthy current.refreshToken = false) ⟨.tokenAbsent,"no refresh token on this record"⟩
  let metadata ← ask (.discover provider)
  let payload ← ask (.exchangeRefresh metadata.tokenEndpoint clientId current.refreshToken)
  let accessToken ← Prog.ofExcept (requireAccessToken payload)
  let now ← ask .time
  let seconds ← Prog.ofExcept (expiresIn B payload)
  let revision ← ask .revision
  let record := refreshed current payload accessToken (now+seconds) audience revision
  let rotated ← ask (.compareAndSet key (.token current) (.token record))
  refuse (rotated = false) ⟨.refreshRace,"token record changed during refresh; retry"⟩
  return record

def revokeSection (key : Key) : Step Time Time := do
  let now ← ask .time
  ask (.set key (.revoked (some now)))
  return now

def Section.program : (s : Section Time) → Step Time s.Result
  | .put key record startedAt => putSection key record startedAt
  | .refresh key provider audience clientId => refreshSection B key provider audience clientId
  | .revoke key => revokeSection key

end

section
variable {Time : Type}

def grantRevisionOf (token : StoredToken Time) : Step Time String :=
  if Scaling.strip token.grantRevision = "" then ask .revision else .ret (Scaling.strip token.grantRevision)

variable
  -- how a section under a lock is made: step by step, or as one step
  (locked : (s : Section Time) → Step Time s.Result)

def put (actor : ActorContext) (providerId resourceUrl audience : String) (token : StoredToken Time)
    (startedAt : Option Time) : Step Time Unit := do
  let (tenant,principal) ← Prog.ofExcept (requireVerified actor)
  refuse (token.audience ≠ audience)
    ⟨.binding,"stored token audience must equal the protected resource audience"⟩
  let revision ← grantRevisionOf token
  locked (.put (storageKey tenant principal providerId resourceUrl audience) { token with grantRevision := revision }
    startedAt)

/-- What is kept, where it can be used. -/
def usable (B : Builtins Time) (audience : String) : Option (Secret Time) → Option (StoredToken Time)
  | some (.token data) =>
    if data.audience ≠ audience ∨ Scaling.strip data.grantRevision = "" then none
    else some { data with
      accessToken := .string (B.str data.accessToken)
      tokenType := .string (B.str data.tokenType)
      grantedScope := .string (B.str data.grantedScope)
      grantRevision := Scaling.strip data.grantRevision }
  | _ => none

def get (B : Builtins Time) (actor : ActorContext) (providerId resourceUrl audience : String) :
    Step Time (Option (StoredToken Time)) := do
  let (tenant,principal) ← Prog.ofExcept (requireVerified actor)
  let raw ← ask (.get (storageKey tenant principal providerId resourceUrl audience))
  return usable B audience raw

def refresh (actor : ActorContext) (provider : ProviderDescriptor) (resourceUrl audience : String)
    (clientId : Option String) : Step Time (StoredToken Time) := do
  let (tenant,principal) ← Prog.ofExcept (requireVerified actor)
  let key := storageKey tenant principal provider.providerId resourceUrl audience
  let effective := if clientId.getD "" ≠ "" then clientId.getD "" else provider.clientId.getD ""
  refuse (effective = "")
    ⟨.provider,"no client_id available for token refresh — DCR has not completed for this provider"⟩
  locked (.refresh key provider audience effective)

def revoke (actor : ActorContext) (providerId resourceUrl audience : String) : Step Time Unit := do
  let (tenant,principal) ← Prog.ofExcept (requireVerified actor)
  let _ ← locked (.revoke (storageKey tenant principal providerId resourceUrl audience))
  return ()

end

end Arbora.OAuth
