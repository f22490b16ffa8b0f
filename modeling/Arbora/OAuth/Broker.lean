import Arbora.Lib.JsonReader
import Arbora.Lib.Pool
import Arbora.OAuth.Models

/-! Flows of a browser: a transaction is begun, comes back once, and leaves a token. -/
namespace Arbora.OAuth
open Interaction
open Prog (refuse)
open Json (Document)

section
variable {Time : Type} [LinearOrder Time]

def OAuthTransaction.isExpired (tx : OAuthTransaction Time) (now : Time) : Prop := tx.expiresAt ≤ now

instance (tx : OAuthTransaction Time) (now : Time) : Decidable (tx.isExpired now) :=
  inferInstanceAs (Decidable (tx.expiresAt ≤ now))

def stateError (text : String) : Failure := ⟨.state,text⟩
def maxStateLen : ℕ := 256
def malformed (state : String) : Prop :=
  state = "" ∨ maxStateLen < state.length ∨ ∃ c ∈ state.toList, c.toNat < 32 ∨ c.toNat = 127

instance : DecidablePred malformed := fun state =>
  decidable_of_iff (state = "" ∨ maxStateLen < state.length ∨
    state.toList.any (fun c => decide (c.toNat < 32) || decide (c.toNat = 127)) = true) (by simp [malformed])

/-- `from_json`, of what was claimed -/
def readTransaction : Secret Time → Except Failure (OAuthTransaction Time)
  | .transaction tx => .ok tx
  | _ => .error (stateError "stored transaction was malformed")

def claimable : Option (Secret Time) → Except Failure (Secret Time)
  | some raw =>
    if raw = consumedTombstone then .error (stateError "unknown, expired, or already-consumed state") else .ok raw
  | none => .error (stateError "unknown, expired, or already-consumed state")

def consumeOnce (state : String) : Step Time (OAuthTransaction Time) := do
  refuse (malformed state) (stateError "malformed state")
  let found ← ask (.get (.transaction state))
  let raw ← Prog.ofExcept (claimable found)
  let claimed ← ask (.compareAndSet (.transaction state) raw consumedTombstone)
  refuse (claimed = false) (stateError "state was concurrently consumed (replay)")
  ask (.delete (.transaction state))
  let tx ← Prog.ofExcept (readTransaction raw)
  let now ← ask .time
  refuse (tx.state ≠ state ∨ tx.isExpired now) (stateError "authorization transaction expired or mismatched")
  return tx

end

section
variable {Time : Type}

def requireEnabled (providerId : String) : Step Time ProviderDescriptor := do
  let provider ← ask (.provider providerId)
  Prog.found (provider.filter (·.enabled)) ⟨.provider,"unknown or disabled provider"⟩

def clientText : Option (Secret Time) → String
  | some (.text text) => text
  | _ => ""

def requireClientId (registered : Option String) : Except Failure String :=
  match registered with
  | some id =>
    if id = "" then .error ⟨.provider,"dynamic client registration returned an invalid client_id"⟩ else .ok id
  | none => .error ⟨.provider,"dynamic client registration returned an invalid client_id"⟩

/-- A registration in another process may win. -/
def registerClient (provider : ProviderDescriptor) (metadata : AuthorizationServerMetadata) : Step Time String := do
  let key := Key.client provider.providerId
  let again ← ask (.get key)
  if clientText again ≠ "" then return clientText again
  else
    let registered ← ask (.register provider metadata)
    let clientId ← Prog.ofExcept (requireClientId registered)
    let fresh ← ask (.setIfAbsent key (.text clientId))
    if fresh then return clientId
    else
      let winner ← ask (.get key)
      return if clientText winner ≠ "" then clientText winner else clientId

def getOrRegister (provider : ProviderDescriptor) (metadata : AuthorizationServerMetadata) : Step Time String := do
  let cached ← ask (.get (.client provider.providerId))
  if clientText cached ≠ "" then return clientText cached else registerClient provider metadata

def resolveClientId (provider : ProviderDescriptor) (metadata : AuthorizationServerMetadata) : Step Time String :=
  if provider.clientId.getD "" ≠ "" then .ret (provider.clientId.getD "") else getOrRegister provider metadata

end

section
variable {Time : Type} [LinearOrder Time] [Add Time] [OfNat Time 300] [OfNat Time 3600] (B : Builtins Time)

/-- Where a browser is sent, with its query. -/
structure AuthorizationUrl where
  endpoint : String
  params : List (String × String)

def challengeOf (verifier : String) : String :=
  String.ofList (Base64.encode (Sha256.digestBytes (Base64.utf8 verifier)))

/-- The scopes of a flow are those asked for, or all. -/
def effectiveScopes (provider : ProviderDescriptor) (requested : Option (List String)) : Except Failure (List String) :=
  match requested with
  | some requested =>
    if requested ⊆ provider.scopes then .ok requested
    else .error ⟨.scope,"requested scope exceeds the provider's configured scopes"⟩
  | none => .ok provider.scopes

theorem subset_of_effectiveScopes {provider : ProviderDescriptor} {requested : Option (List String)}
    {scopes : List String} (h : effectiveScopes provider requested = .ok scopes) : scopes ⊆ provider.scopes := by
  unfold effectiveScopes at h
  split at h
  · split_ifs at h with hsubset
    cases h
    exact hsubset
  · cases h
    exact List.Subset.refl _

def begin (providerId : String) (actor : ActorContext) (browserSessionId : String)
    (requestedScopes : Option (List String)) : Step Time AuthorizationUrl := do
  refuse (browserSessionId = "") ⟨.binding,"a browser session id is required"⟩
  let (tenant,principal) ← Prog.ofExcept (requireVerified actor)
  let provider ← requireEnabled providerId
  let scopes ← Prog.ofExcept (effectiveScopes provider requestedScopes)
  let metadata ← ask (.discover provider)
  let clientId ← resolveClientId provider metadata
  let verifier ← ask .verifier
  let state ← ask .state
  let nonce ← ask .nonce
  let now ← ask .time
  let tx : OAuthTransaction Time := ⟨state,nonce,verifier,provider.providerId,tenant,principal,browserSessionId,
    provider.redirectUri,joined scopes,now,now+300,clientId⟩
  ask (.set (.transaction state) (.transaction tx))
  return ⟨metadata.authorizationEndpoint,[("response_type","code"),("client_id",clientId),
    ("redirect_uri",provider.redirectUri),("scope",joined scopes),("state",state),
    ("code_challenge",challengeOf verifier),("code_challenge_method","S256")]⟩

def requireAccessText : Document → Except Failure String
  | .string text =>
    if text = "" then .error ⟨.discovery,"token response contained an invalid access token"⟩ else .ok text
  | _ => .error ⟨.discovery,"token response contained an invalid access token"⟩

/-- Who comes back is who began. -/
def requireInitiator (tx : OAuthTransaction Time) (tenant principal browserSessionId : String) : Except Failure Unit :=
  if principal ≠ tx.principalId ∨ tenant ≠ tx.tenantId then
    .error ⟨.binding,"callback principal/tenant does not match the initiating transaction"⟩
  else if browserSessionId ≠ tx.browserSessionId then
    .error ⟨.binding,"callback session does not match the initiating browser session"⟩
  else .ok ()

def grantedScope (tx : OAuthTransaction Time) (payload : Payload) : String :=
  B.str ((payload.lookup "scope").getD (.string tx.scope))
def effectiveClientId (tx : OAuthTransaction Time) (provider : ProviderDescriptor) : String :=
  if tx.clientId ≠ "" then tx.clientId else provider.clientId.getD ""

variable (locked : (s : Section Time) → Step Time s.Result)

/-- The token of a response that is accepted. -/
def grant (tx : OAuthTransaction Time) (provider : ProviderDescriptor) (payload : Payload) :
    Step Time (StoredToken Time) := do
  let accessToken ← Prog.ofExcept (requireAccessToken payload)
  refuse (¬words (grantedScope B tx payload) ⊆ words tx.scope) ⟨.scope,"granted scope exceeds what was requested"⟩
  let accessText ← Prog.ofExcept (requireAccessText accessToken)
  let now ← ask .time
  let seconds ← Prog.ofExcept (expiresIn B payload)
  let revision ← ask .revision
  return {
    accessToken := .string accessText
    refreshToken := (payload.lookup "refresh_token").getD .null
    tokenType := .string (B.str ((payload.lookup "token_type").getD (.string "Bearer")))
    expiresAt := now+seconds
    grantedScope := .string (grantedScope B tx payload)
    keyVersion := currentKeyVersion
    audience := provider.resourceUrl
    grantRevision := revision }

def callback (code state : String) (actor : ActorContext) (browserSessionId : String) : Step Time (StoredToken Time) := do
  let tx ← consumeOnce state
  let (tenant,principal) ← Prog.ofExcept (requireVerified actor)
  Prog.ofExcept (requireInitiator tx tenant principal browserSessionId)
  let provider ← requireEnabled tx.providerId
  let metadata ← ask (.discover provider)
  let payload ← ask (.exchangeCode metadata.tokenEndpoint (effectiveClientId tx provider) code tx.verifier tx.redirectUri)
  let token ← grant B tx provider payload
  put locked actor provider.providerId provider.resourceUrl provider.resourceUrl token (some tx.createdAt)
  return token

def brokerRevoke (actor : ActorContext) (providerId : String) : Step Time Unit := do
  let provider ← requireEnabled providerId
  revoke locked actor provider.providerId provider.resourceUrl provider.resourceUrl

/-- `_resolved_grant`, without the binding that goes with the token -/
def resolvedGrant (actor : ActorContext) (providerId resourceUrl : String) : Step Time (StoredToken Time) := do
  let provider ← requireEnabled providerId
  refuse (resourceUrl ≠ provider.resourceUrl)
    ⟨.provider,"token forwarding is bound to the provider's exact registered resource"⟩
  let _ ← Prog.ofExcept (requireVerified actor)
  let stored ← get B actor provider.providerId provider.resourceUrl provider.resourceUrl
  let token ← Prog.found stored ⟨.tokenAbsent,"no stored token for this principal/provider"⟩
  let now ← ask .time
  refuse (token.expiresAt ≤ now) ⟨.tokenAbsent,"stored token is expired; re-authorization is required"⟩
  refuse (token.audience ≠ provider.resourceUrl) ⟨.provider,"stored token audience is not provider-bound"⟩
  refuse (¬words (B.str token.grantedScope) ⊆ provider.scopes) ⟨.scope,"stored grant exceeds the provider scope ceiling"⟩
  refuse (token.keyVersion ≤ 0 ∨ Scaling.strip token.grantRevision = "")
    ⟨.tokenAbsent,"stored grant identity is unavailable"⟩
  return token

def bearerHeadersFor (actor : ActorContext) (providerId resourceUrl : String) : Step Time String := do
  let token ← resolvedGrant B actor providerId resourceUrl
  return B.str token.tokenType ++ " " ++ B.str token.accessToken

end

/-! Any number of flows over one secrets store, in any number of processes. -/

section
variable {Time : Type}

/-- The secrets, the states that were ever drawn and the last reading of the clock. -/
structure Vault (Time : Type) where
  secrets : Key → Option (Secret Time)
  issued : List String
  now : Time

def Vault.write (s : Vault Time) (key : Key) (value : Option (Secret Time)) : Vault Time :=
  { s with secrets := Function.update s.secrets key value }

@[simp] theorem Vault.write_self (s : Vault Time) (key : Key) (value : Option (Secret Time)) :
    (s.write key value).secrets key = value := Function.update_self ..
theorem Vault.write_of_ne {s : Vault Time} {key other : Key} {value : Option (Secret Time)} (h : other ≠ key) :
    (s.write key value).secrets other = s.secrets other := Function.update_of_ne h ..

/-- How the clock may go on, and what a registry may answer. -/
structure Setting (Time : Type) where
  tick : Time → Time → Prop
  listed : String → Option ProviderDescriptor → Prop
  named : ∀ {id p}, listed id (some p) → p.providerId = id

/-- Steps of the store are atomic, and what is refused has done nothing. No state is drawn twice. -/
inductive Serves (S : Setting Time) : World (Call Time) Call.Answer (Vault Time)
  | refused (s : Vault Time) (e : Call Time) (x : Failure) : Serves S s e (.error x) s
  | get (s : Vault Time) (key : Key) : Serves S s (.get key) (.ok (s.secrets key)) s
  | set (s : Vault Time) (key : Key) (value : Secret Time) : Serves S s (.set key value) (.ok ()) (s.write key value)
  | created (s : Vault Time) (key : Key) (value : Secret Time) (h : s.secrets key = none) :
      Serves S s (.setIfAbsent key value) (.ok true) (s.write key value)
  | present (s : Vault Time) (key : Key) (value : Secret Time) (h : s.secrets key ≠ none) :
      Serves S s (.setIfAbsent key value) (.ok false) s
  | swapped (s : Vault Time) (key : Key) (expected value : Secret Time) (h : s.secrets key = some expected) :
      Serves S s (.compareAndSet key expected value) (.ok true) (s.write key value)
  | stale (s : Vault Time) (key : Key) (expected value : Secret Time) (h : s.secrets key ≠ some expected) :
      Serves S s (.compareAndSet key expected value) (.ok false) s
  | deleted (s : Vault Time) (key : Key) : Serves S s (.delete key) (.ok ()) (s.write key none)
  | time (s : Vault Time) (now : Time) (h : S.tick s.now now) : Serves S s .time (.ok now) { s with now := now }
  | verifier (s : Vault Time) (r : String) : Serves S s .verifier (.ok r) s
  | state (s : Vault Time) (r : String) (h : r ∉ s.issued) :
      Serves S s .state (.ok r) { s with issued := r :: s.issued }
  | nonce (s : Vault Time) (r : String) : Serves S s .nonce (.ok r) s
  | revision (s : Vault Time) (r : String) : Serves S s .revision (.ok r) s
  | provider (s : Vault Time) (id : String) (r : Option ProviderDescriptor) (h : S.listed id r) :
      Serves S s (.provider id) (.ok r) s
  | discover (s : Vault Time) (p : ProviderDescriptor) (r : AuthorizationServerMetadata) :
      Serves S s (.discover p) (.ok r) s
  | register (s : Vault Time) (p : ProviderDescriptor) (m : AuthorizationServerMetadata) (r : Option String) :
      Serves S s (.register p m) (.ok r) s
  | exchangeCode (s : Vault Time) (endpoint clientId code verifier redirectUri : String) (r : Payload) :
      Serves S s (.exchangeCode endpoint clientId code verifier redirectUri) (.ok r) s
  | exchangeRefresh (s : Vault Time) (endpoint clientId : String) (refreshToken : Document) (r : Payload) :
      Serves S s (.exchangeRefresh endpoint clientId refreshToken) (.ok r) s

def plainBuiltins : Builtins ℕ where
  str
    | .string s => s
    | .null => "None"
    | .bool b => if b then "True" else "False"
    | d => String.ofList (Json.dumps d)
  truthy
    | .null => false
    | .bool b => b
    | .number n => Nat.ofDigitChars 10 n.text 0 ≠ 0
    | .string s => s ≠ ""
    | .array items => items.isEmpty = false
    | .object members => members.isEmpty = false
  float
    | .number n => some (Nat.ofDigitChars 10 n.text 0)
    | _ => none
  str_string _ := rfl

def anySetting : Setting ℕ where
  tick _ _ := True
  listed id r := ∀ p ∈ r, p.providerId = id
  named h := h _ rfl

end

section
variable {Time : Type} [LinearOrder Time] [Add Time] [OfNat Time 300] [OfNat Time 3600] (B : Builtins Time)

inductive Operation where
  | begin (providerId : String) (actor : ActorContext) (browserSessionId : String) (requested : Option (List String))
  | callback (code state : String) (actor : ActorContext) (browserSessionId : String)
  | refresh (actor : ActorContext) (provider : ProviderDescriptor) (resourceUrl audience : String)
      (clientId : Option String)
  | revoke (actor : ActorContext) (providerId : String)
  | bearer (actor : ActorContext) (providerId resourceUrl : String)

inductive Outcome (Time : Type) where
  | url (url : AuthorizationUrl)
  | token (token : StoredToken Time)
  | done
  | headers (authorization : String)

variable (locked : (s : Section Time) → Step Time s.Result)

def Operation.program : Operation → Step Time (Outcome Time)
  | .begin providerId actor session requested => do return .url (← OAuth.begin providerId actor session requested)
  | .callback code state actor session => do return .token (← OAuth.callback B locked code state actor session)
  | .refresh actor provider resourceUrl audience clientId => do
    return .token (← OAuth.refresh locked actor provider resourceUrl audience clientId)
  | .revoke actor providerId => do
    brokerRevoke locked actor providerId
    return .done
  | .bearer actor providerId resourceUrl => do return .headers (← bearerHeadersFor B actor providerId resourceUrl)

def unguarded (s : Section Time) : Step Time s.Result := s.program B
def serialised (s : Section Time) : Step Time s.Result := ask (.locked s)

/-- An environment in which sections are one step each. -/
def SerialServes (S : Setting Time) : World (Call Time) Call.Answer (Vault Time) := fun s e r s' =>
  match e, r with
  | .locked sec, .ok a => ∃ t, Prog.Runs (Serves S) (sec.program B) s t (.ret a) s'
  | .locked sec, .error x => ∃ t, Prog.Runs (Serves S) (sec.program B) s t (.raise x) s'
  | e, r => Serves S s e r s'

def flows {ι : Type} (ops : ι → Operation) (s : Vault Time) :
    Pool ι (Call Time) Call.Answer Failure (Outcome Time) (Vault Time) := ⟨s,fun i => (ops i).program B locked⟩

abbrev Log (Time ι : Type) := List (ι × Event (Call Time) Call.Answer)

end

end Arbora.OAuth
