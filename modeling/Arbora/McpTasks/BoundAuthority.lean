import Arbora.Lib.Checks
import Arbora.Security.SpawnScope

/-! Task requests that a multiplexer sends on behalf of a caller, with the proof that names their authority. -/
namespace Arbora.McpTasks
open Checks (refuse found)
open Json (Document)
open Security (Environment FloatText RunToken Raised)

/-- The text of a protocol exception. -/
abbrev Failure := String

def tasksExtensionRevision : String := "2c1425d9a288b9b1f489430fe1e00bb392b47e48"

structure Caller where
  (owner tenant : String)
  scopes : List String

/-- What a delegation is minted for. -/
structure TaskRequest where
  method : String
  params : List (String × Document)
  (server revision : String)
  caller : Caller

/-- The parameters apart from their envelope. -/
def bare (params : List (String × Document)) : List (String × Document) := params.filter (·.1 ≠ "_meta")

def sortedScopes (scopes : List String) : List String := scopes.insertionSort (· ≤ ·)
def callerDocument (caller : Caller) : Document := Json.sorted [
  ("owner",.string caller.owner),("scopes",.array ((sortedScopes caller.scopes).map .string)),("tenant",.string caller.tenant)]

def delegationBody (r : TaskRequest) : Document := Json.sorted [
  ("caller",callerDocument r.caller),("method",.string r.method),("params",Json.ordered (.object (bare r.params))),
  ("revision",.string r.revision),("server",.string r.server)]

def delegationPayload (r : TaskRequest) : List ℕ := Base64.utf8 (String.ofList (Json.write (delegationBody r)))
def delegationBinding (r : TaskRequest) : String := String.ofList (Sha256.hexdigest (delegationPayload r))
def runIdOf (r : TaskRequest) : String := "mcp-task:" ++ delegationBinding r
def hex (data : List ℕ) : List Char := data.flatMap fun b => [Nat.digitChar (b/16),Nat.digitChar (b%16)]
def channelProof (secret token : String) : String :=
  String.ofList (hex (Sha256.hmac (Base64.utf8 secret) (Base64.utf8 token)))

inductive Channel where
  | none
  | text (proof : String)
  | other

structure Proof where
  /-- missing if it is no text -/
  token : Option String
  channel : Channel

structure Route where
  caller : Option Caller
  delegation : Option (Option Proof)

structure ServiceAuthority where
  authenticated : Bool
  (issuer audience servicePrincipal : String)
  scopes : List String
  channelSecret : String

structure TaskSession where
  tenant : String
  scopes : List String
  actorId : String

section
variable {Time : Type} [LinearOrder Time] [Add Time] [OfNat Time 30] (F : FloatText Time)

def mintDelegationToken (env : Environment) (r : TaskRequest) (now : Time) : Except Raised String :=
  Security.mintToken F env (runIdOf r) r.server [r.server] [r.method] 30 r.caller.owner r.caller.tenant now
def isBlank (text : String) : Prop := Scaling.strip text = ""

instance : DecidablePred isBlank := fun text => inferInstanceAs (Decidable (Scaling.strip text = ""))

def unfit (authority : ServiceAuthority) : Prop :=
  authority.authenticated = false ∨ isBlank authority.issuer ∨ isBlank authority.audience ∨
    isBlank authority.servicePrincipal ∨ ∀ s ∈ authority.scopes, s ∉ ["mcp:delegate","mcp:admin","admin","kg:admin"]

instance : DecidablePred unfit := fun authority => by
  unfold unfit
  infer_instance

def requireDelegator (authority : Option ServiceAuthority) : Except Failure ServiceAuthority := do
  let authority ← found authority "Authenticated multiplexer service authority is required"
  refuse (unfit authority) "Authenticated multiplexer service authority is required"
  return authority

def extractDelegationCallerAndProof (route : Route) (proof : Option Proof) : Except Failure (Caller × Proof) := do
  let caller ← found route.caller "Invalid delegated task identity"
  let proof ← found proof "Invalid delegated task identity"
  return (caller,proof)

def extractDelegationToken (proof : Proof) : Except Failure String := do
  let token ← found proof.token "Authenticated task delegation is unavailable; use portable rm_jobs tools"
  refuse (token = "") "Authenticated task delegation is unavailable; use portable rm_jobs tools"
  return token

/-- A channel that stands for something counts only if the child has a secret. -/
def validateDelegationChannelProof (authority : ServiceAuthority) (channel : Channel) (token : String) : Except Failure Unit :=
  if isBlank authority.channelSecret then
    match channel with
    | .none => .ok ()
    | .text _ | .other => .error "Invalid delegated task proof"
  else
    match channel with
    | .text proof => do
      refuse (proof.toList.any fun c => 128 ≤ c.toNat) "comparing strings with non-ASCII characters is not supported"
      refuse (proof ≠ channelProof (Scaling.strip authority.channelSecret) token) "Invalid delegated task proof"
    | .none | .other => .error "Invalid delegated task proof"

def decodeDelegationToken (env : Environment) (serverId : Option String) (token method : String) (now : Time) :
    Except Failure (RunToken Time) :=
  (Security.validateToken F env token (some (serverId.getD "")) (some method) now).mapError fun _ =>
    "Invalid or expired delegated task proof"

def presented (serverId : Option String) (method : String) (params : List (String × Document)) (caller : Caller) : TaskRequest :=
  ⟨method,params,serverId.getD "",tasksExtensionRevision,caller⟩

def validateDelegationBinding (serverId : Option String) (decoded : RunToken Time) (method : String)
    (params : List (String × Document)) (caller : Caller) : Except Failure Unit :=
  refuse (decoded.runId ≠ runIdOf (presented serverId method params caller)) "Delegated task request binding is invalid"

def delegationIdentity (serverId : Option String) (caller : Caller) (decoded : RunToken Time) :
    Except Failure (String × String) := do
  let owner := Scaling.strip caller.owner
  let tenant := Scaling.strip caller.tenant
  refuse (owner = "" ∨ tenant = "" ∨ decoded.actorId ≠ owner ∨ decoded.tenantId ≠ tenant ∨ some decoded.project ≠ serverId)
    "Delegated task identity is incomplete"
  return (owner,tenant)

/-- The scopes that an operation takes for its own. -/
def acceptedScopes (scope : String) : List String :=
  if scope = "kg:read" then ["kg:read","kg:write","kg:admin"]
  else if scope = "kg:write" then ["kg:write","kg:admin"]
  else [scope]

def validateDelegationScope (scopes : List String) (scope : String) : Except Failure Unit :=
  refuse (∀ s ∈ scopes, s ∉ acceptedScopes scope) "Delegated task scope is insufficient"

/-- `_delegated_session`; no session where the route delegates nothing. -/
def delegatedSession (env : Environment) (serverId : Option String) (route : Option Route) (method : String)
    (params : List (String × Document)) (scope : String) (authority : Option ServiceAuthority) (now : Time) :
    Except Failure (Option TaskSession) :=
  match route with
  | none => .ok none
  | some route =>
    match route.delegation with
    | none => .ok none
    | some proof => do
      let authority ← requireDelegator authority
      let (caller,proof) ← extractDelegationCallerAndProof route proof
      let token ← extractDelegationToken proof
      validateDelegationChannelProof authority proof.channel token
      let decoded ← decodeDelegationToken F env serverId token method now
      validateDelegationBinding serverId decoded method params caller
      let (owner,tenant) ← delegationIdentity serverId caller decoded
      validateDelegationScope caller.scopes scope
      return some ⟨tenant,[scope],owner⟩

end

/-! A delegated session is for the request that its token was minted for, and an honest request is accepted. -/
open Checks (refuse found refuse_ok refuse_bind_ok found_bind_ok)
open Security (Environment FloatText RunToken Raised decodeToken validateToken inScope)

structure SameRequest (r p : TaskRequest) : Prop where
  method : r.method = p.method
  params : Json.ordered (.object (bare r.params)) = Json.ordered (.object (bare p.params))
  server : r.server = p.server
  revision : r.revision = p.revision
  owner : r.caller.owner = p.caller.owner
  tenant : r.caller.tenant = p.caller.tenant
  scopes : r.caller.scopes.Perm p.caller.scopes

theorem utf8_injective : Function.Injective Base64.utf8 := by
  intro s t h
  have hs := Base64.fromUtf8_utf8 s
  rw [h,Base64.fromUtf8_utf8] at hs
  exact (Option.some.inj hs).symm

theorem perm_of_sortedScopes {scopes scopes' : List String} (h : sortedScopes scopes = sortedScopes scopes') :
    scopes.Perm scopes' :=
  (List.perm_insertionSort _ scopes).symm.trans ((List.Perm.of_eq h).trans (List.perm_insertionSort _ scopes'))

theorem sortedScopes_of_perm {scopes scopes' : List String} (h : scopes.Perm scopes') :
    sortedScopes scopes = sortedScopes scopes' :=
  ((List.perm_insertionSort _ scopes).trans (h.trans (List.perm_insertionSort _ scopes').symm)).eq_of_pairwise
    (fun _ _ _ _ => le_antisymm) (List.pairwise_insertionSort _ _) (List.pairwise_insertionSort _ _)

theorem callerDocument_inj {a b : Caller} (h : callerDocument a = callerDocument b) :
    a.owner = b.owner ∧ a.tenant = b.tenant ∧ a.scopes.Perm b.scopes := by
  have hmembers := Json.sorted_inj h rfl (by simp)
  simp only [List.cons.injEq,Prod.mk.injEq,Document.string.injEq,Document.array.injEq,true_and,and_true] at hmembers
  obtain ⟨howner,hscopes,htenant⟩ := hmembers
  have hinjective : Function.Injective Document.string := fun _ _ => Document.string.inj
  exact ⟨howner,htenant,perm_of_sortedScopes (hinjective.list_map hscopes)⟩

variable {p r : TaskRequest}

theorem sameRequest_of_payload (h : delegationPayload r = delegationPayload p) : SameRequest r p := by
  have hbody : delegationBody r = delegationBody p := by
    have htext := congrArg String.toList (utf8_injective h)
    rw [String.toList_ofList,String.toList_ofList] at htext
    exact Json.write_injective htext
  have hmembers := Json.sorted_inj hbody rfl (by simp)
  simp only [List.cons.injEq,Prod.mk.injEq,Document.string.injEq,true_and,and_true] at hmembers
  obtain ⟨hcaller,hmethod,hparams,hrevision,hserver⟩ := hmembers
  obtain ⟨howner,htenant,hscopes⟩ := callerDocument_inj hcaller
  exact ⟨hmethod,hparams,hserver,hrevision,howner,htenant,hscopes⟩

theorem payload_of_sameRequest (h : SameRequest r p) : delegationPayload r = delegationPayload p := by
  unfold delegationPayload delegationBody callerDocument
  rw [h.method,h.params,h.server,h.revision,h.owner,h.tenant,sortedScopes_of_perm h.scopes]

theorem runIdOf_eq_iff : runIdOf r = runIdOf p ↔
    Sha256.hexdigest (delegationPayload r) = Sha256.hexdigest (delegationPayload p) := by
  unfold runIdOf delegationBinding
  constructor
  · intro h
    have htext := congrArg String.toList h
    rw [String.toList_append,String.toList_append] at htext
    simpa using List.append_cancel_left htext
  · intro h
    rw [h]

section
variable {authority : ServiceAuthority} {channel : Channel} {token : String}

theorem channelProof_ascii (secret token : String) :
    (channelProof secret token).toList.any (fun c => 128 ≤ c.toNat) = false := by
  have hdigit : ∀ n < 16, (Nat.digitChar n).toNat < 128 := by decide
  rw [List.any_eq_false]
  intro c hc
  unfold channelProof hex at hc
  rw [String.toList_ofList,List.mem_flatMap] at hc
  obtain ⟨b,hb,hc⟩ := hc
  have hbyte : b < 256 := Sha256.digestBytes_lt _ b hb
  rw [decide_eq_true_iff,not_le]
  rcases List.mem_pair.mp hc with rfl | rfl
  · exact hdigit (b/16) (by omega)
  · exact hdigit (b%16) (by omega)

def rightChannel (authority : ServiceAuthority) (token : String) : Channel :=
  if isBlank authority.channelSecret then .none
  else .text (channelProof (Scaling.strip authority.channelSecret) token)

theorem validateDelegationChannelProof_iff {u : Unit} :
    validateDelegationChannelProof authority channel token = .ok u ↔ channel = rightChannel authority token := by
  unfold validateDelegationChannelProof rightChannel
  split_ifs with hblank
  · cases channel with
    | none => simp
    | text proof => simp
    | other => simp
  · cases channel with
    | none => simp
    | other => simp
    | text proof =>
      rw [refuse_bind_ok,refuse_ok,not_not,Channel.text.injEq]
      constructor
      · rintro ⟨-,heq⟩
        exact heq
      · rintro rfl
        exact ⟨by rw [channelProof_ascii]; exact Bool.false_ne_true,rfl⟩

end

section
variable {Time : Type} [LinearOrder Time] (F : FloatText Time) {env : Environment}

variable {r : TaskRequest} {mintedAt now : Time}

theorem decodeDelegationToken_ok {serverId : Option String} {token method : String} {decoded : RunToken Time} (h :
    decodeDelegationToken F env serverId token method now = .ok decoded) :
    decodeToken F env token = .ok decoded ∧ now < decoded.expiresAt := by
  unfold decodeDelegationToken validateToken at h
  cases hdecode : decodeToken F env token with
  | error e =>
    rw [hdecode] at h
    cases h
  | ok found =>
    rw [hdecode] at h
    change Except.mapError _ (if _ then _ else if _ then _ else if _ then _ else _ : Except Raised (RunToken Time)) = _ at h
    split_ifs at h with hexpired hendpoint hoperation
    · cases h
    · cases h
    · cases h
    · obtain rfl := Except.ok.inj h
      exact ⟨rfl,not_le.mp hexpired⟩

theorem delegatedSession_ok {serverId : Option String} {route : Option Route} {method scope : String}
    {params : List (String × Document)} {authority : Option ServiceAuthority} {session : TaskSession}
    (h : delegatedSession F env serverId route method params scope authority now = .ok (some session)) :
    ∃ authority' caller token channel decoded, authority = some authority' ∧
      route = some ⟨some caller,some (some ⟨some token,channel⟩)⟩ ∧ channel = rightChannel authority' token ∧
      decodeToken F env token = .ok decoded ∧ now < decoded.expiresAt ∧
      decoded.runId = runIdOf (presented serverId method params caller) ∧
      decoded.actorId = Scaling.strip caller.owner ∧ decoded.tenantId = Scaling.strip caller.tenant ∧
      some decoded.project = serverId ∧
      session = ⟨Scaling.strip caller.tenant,[scope],Scaling.strip caller.owner⟩ := by
  unfold delegatedSession at h
  split at h
  · cases h
  rename_i route
  split at h
  · cases h
  rename_i proof hdelegation
  obtain ⟨authority',hauthority,h⟩ := Checks.bind_ok.mp h
  obtain ⟨⟨caller,proof'⟩,hextract,h⟩ := Checks.bind_ok.mp h
  obtain ⟨token,htoken,h⟩ := Checks.bind_ok.mp h
  obtain ⟨_,hchannel,h⟩ := Checks.bind_ok.mp h
  obtain ⟨decoded,hdecoded,h⟩ := Checks.bind_ok.mp h
  obtain ⟨_,hbinding,h⟩ := Checks.bind_ok.mp h
  obtain ⟨⟨owner,tenant⟩,hidentity,h⟩ := Checks.bind_ok.mp h
  obtain ⟨_,-,h⟩ := Checks.bind_ok.mp h
  obtain rfl := Option.some.inj (Except.ok.inj h)
  obtain ⟨found',hfound,hfit⟩ := found_bind_ok.mp hauthority
  obtain ⟨-,hsame⟩ := refuse_bind_ok.mp hfit
  obtain rfl := Except.ok.inj hsame
  obtain ⟨caller',hcaller,hextract⟩ := found_bind_ok.mp hextract
  obtain ⟨proof'',hproof,hpair⟩ := found_bind_ok.mp hextract
  obtain ⟨rfl,rfl⟩ := Prod.mk.inj (Except.ok.inj hpair)
  obtain ⟨token',hfound',hnonempty⟩ := found_bind_ok.mp htoken
  obtain ⟨-,heq⟩ := refuse_bind_ok.mp hnonempty
  obtain rfl := Except.ok.inj heq
  obtain ⟨hdecode,hlive⟩ := decodeDelegationToken_ok F hdecoded
  obtain ⟨hcomplete,hpair⟩ := refuse_bind_ok.mp hidentity
  obtain ⟨rfl,rfl⟩ := Prod.mk.inj (Except.ok.inj hpair)
  push Not at hcomplete
  obtain ⟨-,-,hactor,htenant,hserver⟩ := hcomplete
  refine ⟨found',caller',token',proof''.channel,decoded,hfound,?_,validateDelegationChannelProof_iff.mp hchannel,
    hdecode,hlive,not_not.mp (refuse_ok.mp hbinding),hactor,htenant,hserver,rfl⟩
  obtain ⟨routeCaller,delegation⟩ := route
  obtain ⟨proofToken,channel⟩ := proof''
  subst hcaller hdelegation hproof hfound'
  rfl

variable [Add Time] [OfNat Time 30]

def MintedOnly (env : Environment) (Presentable : Set String) (Minted : TaskRequest → Time → Prop) : Prop :=
  ∀ token ∈ Presentable, ∀ decoded, decodeToken F env token = .ok decoded →
    "mcp-task:".toList <+: decoded.runId.toList →
    ∃ r mintedAt, Minted r mintedAt ∧ mintDelegationToken F env r mintedAt = .ok token

def CollisionFree (Minted : TaskRequest → Time → Prop) (p : TaskRequest) : Prop :=
  ∀ r mintedAt, Minted r mintedAt → Sha256.hexdigest (delegationPayload r) = Sha256.hexdigest (delegationPayload p) →
    delegationPayload r = delegationPayload p

structure Bound (env : Environment) (authority : ServiceAuthority) (p : TaskRequest) (token : String) (channel : Channel)
    (now : Time) (r : TaskRequest) (mintedAt : Time) : Prop where
  minted : mintDelegationToken F env r mintedAt = .ok token
  same : SameRequest r p
  unexpired : now < mintedAt+30
  channel : ¬isBlank authority.channelSecret →
    channel = .text (channelProof (Scaling.strip authority.channelSecret) token)

theorem token_ne_empty {token : String} (hmint : mintDelegationToken F env r mintedAt = .ok token) : token ≠ "" := by
  rintro rfl
  have hdecode := Security.decodeToken_mintToken F hmint
  cases hdecode

theorem decodeDelegationToken_minted {token : String}
    (hmint : mintDelegationToken F env r mintedAt = .ok token) (hlive : now < mintedAt+30) :
    decodeDelegationToken F env (some r.server) token r.method now =
      .ok ⟨runIdOf r,r.server,[r.server],[r.method],mintedAt+30,r.caller.owner,r.caller.tenant⟩ := by
  unfold decodeDelegationToken validateToken
  rw [Security.decodeToken_mintToken F hmint]
  change Except.mapError _ (if _ then _ else if _ then _ else if _ then _ else _ : Except Raised (RunToken Time)) = _
  rw [if_neg (not_le.mpr hlive),if_neg (by simp [inScope]),if_neg (by simp [inScope])]
  rfl

theorem runIdOf_mcp (r : TaskRequest) : "mcp-task:".toList <+: (runIdOf r).toList := by
  unfold runIdOf
  rw [String.toList_append]
  exact List.prefix_append _ _

theorem delegatedSession_minted {token scope : String}
    {params : List (String × Document)} {authority : ServiceAuthority}
    (hmint : mintDelegationToken F env r mintedAt = .ok token) (hrevision : r.revision = tasksExtensionRevision)
    (howner : Scaling.strip r.caller.owner = r.caller.owner) (htenant : Scaling.strip r.caller.tenant = r.caller.tenant)
    (hidentified : r.caller.owner ≠ "" ∧ r.caller.tenant ≠ "") (hscope : ∃ s ∈ r.caller.scopes, s ∈ acceptedScopes scope)
    (hparams : Json.ordered (.object (bare r.params)) = Json.ordered (.object (bare params)))
    (hfit : ¬unfit authority) (hlive : now < mintedAt+30) :
    delegatedSession F env (some r.server) (some ⟨some r.caller,some (some ⟨some token,rightChannel authority token⟩)⟩)
      r.method params scope (some authority) now = .ok (some ⟨r.caller.tenant,[scope],r.caller.owner⟩) := by
  have hsame : SameRequest r (presented (some r.server) r.method params r.caller) :=
    ⟨rfl,hparams,rfl,hrevision,rfl,rfl,.refl _⟩
  have hbinding : runIdOf r = runIdOf (presented (some r.server) r.method params r.caller) :=
    runIdOf_eq_iff.mpr (congrArg _ (payload_of_sameRequest hsame))
  obtain ⟨s,hs,haccepted⟩ := hscope
  refine Checks.bind_ok.mpr ⟨authority,found_bind_ok.mpr ⟨authority,rfl,refuse_bind_ok.mpr ⟨hfit,rfl⟩⟩,?_⟩
  refine Checks.bind_ok.mpr ⟨_,found_bind_ok.mpr ⟨r.caller,rfl,found_bind_ok.mpr ⟨_,rfl,rfl⟩⟩,?_⟩
  refine Checks.bind_ok.mpr ⟨token,found_bind_ok.mpr ⟨token,rfl,refuse_bind_ok.mpr ⟨token_ne_empty F hmint,rfl⟩⟩,?_⟩
  refine Checks.bind_ok.mpr ⟨(),validateDelegationChannelProof_iff.mpr rfl,?_⟩
  refine Checks.bind_ok.mpr ⟨_,decodeDelegationToken_minted F hmint hlive,?_⟩
  refine Checks.bind_ok.mpr ⟨(),refuse_ok.mpr (not_not.mpr hbinding),?_⟩
  refine Checks.bind_ok.mpr ⟨(r.caller.owner,r.caller.tenant),refuse_bind_ok.mpr ⟨?_,?_⟩,?_⟩
  · rw [howner,htenant]
    simp [hidentified]
  · rw [howner,htenant]
    rfl
  · refine Checks.bind_ok.mpr ⟨(),refuse_ok.mpr ?_,rfl⟩
    push Not
    exact ⟨s,hs,haccepted⟩

/-- A session is only for the request that its token was minted for, and holds the authority of that request's caller
for one scope. An honest request of a caller with an owner and a tenant gets its session. -/
theorem delegation_bound (env : Environment) :
    (∀ (Presentable : Set String) (Minted : TaskRequest → Time → Prop), MintedOnly F env Presentable Minted →
      ∀ serverId route method params scope authority now session,
        delegatedSession F env serverId route method params scope authority now = .ok (some session) →
        ∃ authority' caller token channel, authority = some authority' ∧
          route = some ⟨some caller,some (some ⟨some token,channel⟩)⟩ ∧
          (token ∈ Presentable → CollisionFree Minted (presented serverId method params caller) →
            ∃ r mintedAt, Minted r mintedAt ∧ some r.server = serverId ∧
              Bound F env authority' (presented serverId method params caller) token channel now r mintedAt ∧
              session = ⟨r.caller.tenant,[scope],r.caller.owner⟩)) ∧
    ∀ (r : TaskRequest) (mintedAt : Time) (token : String), mintDelegationToken F env r mintedAt = .ok token →
      r.revision = tasksExtensionRevision →
      Scaling.strip r.caller.owner = r.caller.owner → Scaling.strip r.caller.tenant = r.caller.tenant →
      r.caller.owner ≠ "" ∧ r.caller.tenant ≠ "" → ∀ scope, (∃ s ∈ r.caller.scopes, s ∈ acceptedScopes scope) →
      ∀ params, Json.ordered (.object (bare r.params)) = Json.ordered (.object (bare params)) →
      ∀ authority, ¬unfit authority → ∀ now, now < mintedAt+30 → delegatedSession F env (some r.server)
          (some ⟨some r.caller,some (some ⟨some token,rightChannel authority token⟩)⟩)
          r.method params scope (some authority) now = .ok (some ⟨r.caller.tenant,[scope],r.caller.owner⟩) := by
  refine ⟨?_,fun r mintedAt token hmint hrevision howner htenant hidentified scope hscope params hparams authority hfit
    now hlive => delegatedSession_minted F hmint hrevision howner htenant hidentified hscope hparams hfit hlive⟩
  intro Presentable Minted hminted serverId route method params scope authority now session h
  obtain ⟨authority',caller,token,channel,decoded,hauthority,hroute,hchannel,hdecode,hlive,hrunId,hactor,htenant,
    hproject,hsession⟩ := delegatedSession_ok F h
  refine ⟨authority',caller,token,channel,hauthority,hroute,fun hpresentable hcollision => ?_⟩
  obtain ⟨r,mintedAt,hr,hmint⟩ := hminted token hpresentable decoded hdecode (by rw [hrunId]; exact runIdOf_mcp _)
  -- what was minted is what was decoded
  have hdecoded := Except.ok.inj (hdecode.symm.trans (Security.decodeToken_mintToken F hmint))
  subst hdecoded
  have hsame := sameRequest_of_payload (hcollision r mintedAt hr (runIdOf_eq_iff.mp hrunId))
  refine ⟨r,mintedAt,hr,hproject,⟨hmint,hsame,hlive,fun hsecret => ?_⟩,?_⟩
  · rw [hchannel]
    exact if_neg hsecret
  · change r.caller.owner = _ at hactor
    change r.caller.tenant = _ at htenant
    rw [hsession,hactor,htenant]

end

def clerk : Caller := ⟨"alice","acme",["kg:read"]⟩
def lookup : TaskRequest := ⟨"tasks/get",[("taskId",.string "t1")],"graph",tasksExtensionRevision,clerk⟩
def multiplexer : ServiceAuthority := ⟨true,"issuer","child","mux",["mcp:delegate"],"channel"⟩

theorem delegation_bound_lookup : ∃ token,
    mintDelegationToken Security.wholeSeconds Security.configured lookup 1000 = .ok token ∧
    delegatedSession Security.wholeSeconds Security.configured (some "graph")
      (some ⟨some clerk,some (some ⟨some token,rightChannel multiplexer token⟩)⟩) "tasks/get"
      [("_meta",.object []),("taskId",.string "t1")] "kg:read" (some multiplexer) 1010 =
        .ok (some ⟨"acme",["kg:read"],"alice"⟩) ∧
    ∃ r mintedAt, (r = lookup ∧ mintedAt = 1000) ∧ some r.server = some "graph" ∧
      Bound Security.wholeSeconds Security.configured multiplexer
        (presented (some "graph") "tasks/get" [("_meta",.object []),("taskId",.string "t1")] clerk) token
        (rightChannel multiplexer token) 1010 r mintedAt := by
  obtain ⟨token,hmint⟩ : ∃ token, mintDelegationToken Security.wholeSeconds Security.configured lookup 1000 = .ok token :=
    ⟨_,rfl⟩
  obtain ⟨hforward,hback⟩ := delegation_bound Security.wholeSeconds Security.configured
  have hsession := hback lookup 1000 token hmint rfl (by decide +kernel) (by decide +kernel) (by decide +kernel)
    "kg:read" ⟨"kg:read",List.mem_singleton.mpr rfl,by decide +kernel⟩ [("_meta",.object []),("taskId",.string "t1")] rfl
    multiplexer (by decide +kernel) 1010 (by decide)
  obtain ⟨_,_,_,_,hauthority,hroute,hbound⟩ := hforward {token} (fun r mintedAt => r = lookup ∧ mintedAt = 1000)
    (by
      rintro _ rfl decoded - -
      exact ⟨lookup,1000,⟨rfl,rfl⟩,hmint⟩) _ _ _ _ _ _ _ _ hsession
  cases hauthority
  cases hroute
  obtain ⟨r,mintedAt,hr,hserver,hr',-⟩ := hbound rfl (by
    rintro r mintedAt ⟨rfl,-⟩ -
    rfl)
  exact ⟨token,hmint,hsession,r,mintedAt,hr,hserver,hr'⟩

theorem unnamed_owner_refused : ∃ token, mintDelegationToken Security.wholeSeconds Security.configured
      ⟨"tasks/get",[],"graph",tasksExtensionRevision,⟨"","acme",["kg:read"]⟩⟩ 1000 = .ok token ∧
    Scaling.strip "" = "" ∧ Scaling.strip "acme" = "acme" ∧ "kg:read" ∈ acceptedScopes "kg:read" ∧ ¬unfit multiplexer ∧
    1010 < 1000+30 ∧ delegatedSession Security.wholeSeconds Security.configured (some "graph")
      (some ⟨some ⟨"","acme",["kg:read"]⟩,some (some ⟨some token,rightChannel multiplexer token⟩)⟩) "tasks/get" []
      "kg:read" (some multiplexer) 1010 = .error "Delegated task identity is incomplete" := by
  obtain ⟨token,hmint⟩ : ∃ token, mintDelegationToken Security.wholeSeconds Security.configured
      ⟨"tasks/get",[],"graph",tasksExtensionRevision,⟨"","acme",["kg:read"]⟩⟩ 1000 = .ok token := ⟨_,rfl⟩
  refine ⟨token,hmint,by decide +kernel,by decide +kernel,by decide +kernel,by decide +kernel,by decide,?_⟩
  have hstep : ∀ {α β : Type} {x : Except Failure α} {a : α} {f : α → Except Failure β}, x = .ok a → x >>= f = f a := by
    rintro α β _ a f rfl
    rfl
  have hnonempty := token_ne_empty Security.wholeSeconds hmint
  refine (hstep (show extractDelegationToken _ = .ok token from
    found_bind_ok.mpr ⟨token,rfl,refuse_bind_ok.mpr ⟨hnonempty,rfl⟩⟩)).trans ?_
  refine (hstep (a := ()) (validateDelegationChannelProof_iff.mpr rfl)).trans ?_
  refine (hstep (decodeDelegationToken_minted Security.wholeSeconds hmint (by decide))).trans ?_
  refine (hstep (a := ()) (refuse_ok.mpr (not_not.mpr rfl))).trans ?_
  rfl

end Arbora.McpTasks
