import Arbora.Api.SurfaceGate
import Arbora.Lib.Binary64
import Arbora.Lib.Program

/-! The cache of policy decisions: entries that expire, and a purge of a tenant's entries when
its policy revision changes. -/
namespace Arbora.Policy

/-- `CacheKey`: authority digest, tenant, revision, resource with effect, action. -/
structure CacheKey where
  (authorityDigest tenant revision resource action : String)
  deriving DecidableEq

/-- A reading of the clock: a float. -/
abbrev Instant := {t : ℚ // FloatingPoint.binary64.nearest t = t}

structure DecisionCache where
  ttl : ℚ
  entries : CacheKey → Option (ℚ × Bool)
  revisions : String → Option String
  ttlBounds : 0 < ttl ∧ ttl ≤ 30

namespace DecisionCache

def setRevision (c : DecisionCache) (tenant revision : String) : Bool × DecisionCache :=
  let previous := c.revisions tenant
  let changed := previous.isSome && previous != some revision
  if previous ≠ some revision then
    (changed,{ c with
      entries := fun key => if key.tenant = tenant then none else c.entries key
      revisions := Function.update c.revisions tenant (some revision) })
  else (changed,c)

/-- What `get` finds: the clock is read only when there is an entry. -/
inductive Lookup where
  | absent
  | expired (t : Instant)
  | live (t : Instant) (value : Bool)

/-- The answers `get` may give, by the clock reading it takes. -/
def get (c : DecisionCache) (key : CacheKey) (t : Instant) : Lookup × DecisionCache :=
  match c.entries key with
  | none => (.absent,c)
  | some (expires,value) =>
    if expires ≤ t.val then (.expired t,{ c with entries := Function.update c.entries key none })
    else (.live t value,c)

/-- `clock() + ttl` is a float again. -/
def put (c : DecisionCache) (key : CacheKey) (value : Bool) (t : Instant) : DecisionCache :=
  { c with entries := Function.update c.entries key (some (FloatingPoint.binary64.nearest (t.val + c.ttl),value)) }

def empty (ttl : ℚ) (h : 0 < ttl ∧ ttl ≤ 30) : DecisionCache := ⟨ttl,fun _ => none,fun _ => none,h⟩

@[simp] theorem setRevision_ttl (c : DecisionCache) (tenant revision : String) :
    (c.setRevision tenant revision).2.ttl = c.ttl := by
  unfold setRevision
  dsimp only
  split_ifs <;> rfl

@[simp] theorem get_ttl (c : DecisionCache) (key : CacheKey) (t : Instant) : (c.get key t).2.ttl = c.ttl := by
  unfold get
  split
  · rfl
  · split_ifs <;> rfl

variable {t : Instant} {e : ℚ × Bool} {key : CacheKey} {c : DecisionCache}

/-- A purge and a lookup only remove entries. -/
theorem setRevision_entries {tenant revision : String} (h : (c.setRevision tenant revision).2.entries key = some e) :
    c.entries key = some e := by
  unfold setRevision at h
  dsimp only at h
  split_ifs at h with hp
  · dsimp only at h
    split_ifs at h
    exact h
  · exact h

theorem get_entries {k : CacheKey} (h : (c.get key t).2.entries k = some e) : c.entries k = some e := by
  unfold get at h
  split at h
  · exact h
  · split_ifs at h with hx
    · dsimp only at h
      by_cases hk : k = key
      · rw [hk,Function.update_self] at h
        cases h
      · rwa [Function.update_of_ne hk] at h
    · exact h

theorem put_entries {k : CacheKey} {value : Bool} (h : (c.put key value t).entries k = some e) :
    (k = key ∧ e = (FloatingPoint.binary64.nearest (t.val + c.ttl),value)) ∨ c.entries k = some e := by
  unfold put at h
  dsimp only at h
  by_cases hk : k = key
  · rw [hk,Function.update_self] at h
    cases h
    exact .inl ⟨hk,rfl⟩
  · rw [Function.update_of_ne hk] at h
    exact .inr h

theorem get_live {t' : Instant} {value : Bool} (h : (c.get key t).1 = .live t' value) :
    t' = t ∧ ∃ expires, c.entries key = some (expires,value) ∧ t.val < expires := by
  unfold get at h
  cases he : c.entries key with
  | none =>
    simp only [he] at h
    cases h
  | some e =>
    obtain ⟨expires,v⟩ := e
    simp only [he] at h
    split_ifs at h with hx
    cases h
    exact ⟨rfl,expires,rfl,not_le.mp hx⟩

end DecisionCache

theorem age_le_ttl {put t : Instant} {ttl : ℚ} (h : t.val < FloatingPoint.binary64.nearest (put.val + ttl)) :
    t.val ≤ put.val + ttl := by
  by_contra hlt
  have hle := FloatingPoint.binary64.nearest_le_of_fixed (not_le.mp hlt).le t.property
  linarith

/-! The policy gate: exact authority first, then an optional decision point asked in chunks, with
recent answers taken from the cache. -/
open Interaction Arbora.Api

inductive PolicyErrorKind where
  | valueError | policyUnavailable | cancelled | callback

structure PolicyError where
  kind : PolicyErrorKind
  message : String

inductive AttributeValue where
  | text (s : String)
  | flag (b : Bool)
  | texts (l : List String)

structure PolicyItem where
  resource : String
  requiredScopes : List String
  principalRule : String := "any"
  effect : String := "read"
  attributes : Option (List (String × AttributeValue)) := none

def opResource (op : OpSpec) : PolicyItem where
  resource := "op:" ++ op.id
  requiredScopes := op.scopes
  principalRule := op.principals.value
  effect := op.effect.value
  attributes := some [("op_id",.text op.id),("effect",.text op.effect.value)]

inductive FleetKind where
  | tool | prompt | resource | skill | connector

def FleetKind.name : FleetKind → String
  | .tool => "tool" | .prompt => "prompt" | .resource => "resource" | .skill => "skill"
  | .connector => "connector"

def FleetKind.leading : FleetKind → String
  | .tool => "fleet:tool:" | .prompt => "fleet:prompt:" | .resource => "fleet:resource:"
  | .skill => "skill:" | .connector => "connector:"

def FleetKind.ofName (kind : String) : Option FleetKind :=
  [.tool,.prompt,.resource,.skill,.connector].find? (·.name = kind)

/-- `".." in name` -/
def hasDots : List Char → Bool
  | '.' :: '.' :: _ => true
  | _ :: rest => hasDots rest
  | [] => false

def fleetResource (kind name : String) (requiredScopes : List String) (effect : String := "read")
    (principalRule : String := "any") : Except PolicyError PolicyItem :=
  match FleetKind.ofName kind with
  | none => .error ⟨.valueError,"unknown fleet item kind"⟩
  | some k =>
    if name = "" ∨ name.toList.head? = some '/' ∨ hasDots name.toList then
      .error ⟨.valueError,"invalid fleet item name"⟩
    else .ok
      { resource := k.leading ++ name
        requiredScopes := requiredScopes
        principalRule := principalRule
        effect := effect
        attributes := some [("kind",.text kind),("effect",.text effect),
          ("destructive_fleet",.flag (effect == "destructive" || effect == "admin"))] }

/-- The verified facts the gate reads of a caller. -/
structure PolicyCaller where
  (principal tenant principalKind : String)
  groups : List String := []
  roles : List String := []
  effectiveScopes : List String
  authMode : String := ""
  delegated : Bool := false
  authenticated : Bool := true
  policyRevision : String

structure PrincipalCheck where
  uri : String
  attributes : List (String × AttributeValue)

structure ResourceCheck where
  uri : String
  attributes : List (String × AttributeValue)

structure CheckRequest where
  principal : PrincipalCheck
  resource : ResourceCheck
  action : String

structure CheckResponse where
  allowed : Bool
  reason : Option String := none

def unavailableReason : String := "authorization service unavailable"
def bulkCheckMax : Nat := 100
def sorted (l : List String) : List String := l.mergeSort (· ≤ ·)

def principalCheck (caller : PolicyCaller) : Except PolicyError PrincipalCheck :=
  if caller.principal = "" ∨ caller.tenant = "" then
    .error ⟨.policyUnavailable,"verified principal and tenant required"⟩
  else .ok
    { uri := "principal:" ++ caller.principal
      attributes :=
        [("id",.text caller.principal),("kind",.text caller.principalKind),("tenant",.text caller.tenant),
          ("groups",.texts (sorted caller.groups)),("roles",.texts (sorted caller.roles)),
          ("scopes",.texts (sorted caller.effectiveScopes)),
          ("is_admin",.flag (caller.effectiveScopes.contains "mcp:admin")),
          ("auth_mode",.text caller.authMode),("delegated",.flag caller.delegated)] }

def resourceCheck (item : PolicyItem) : ResourceCheck :=
  ⟨item.resource,("uri",.text item.resource) :: item.attributes.getD []⟩

def principalMatchesRule (item : PolicyItem) (caller : PolicyCaller) (kind : String) : Bool :=
  if item.principalRule = "service_only" ∧ kind ≠ "service" then false
  else if (item.principalRule = "human" ∨ item.principalRule = "human_undelegated") ∧ kind ≠ "human" then false
  else !(item.principalRule == "human_undelegated" && caller.delegated)

def requiredScopes (item : PolicyItem) (action : String) : List String :=
  item.requiredScopes ++ (if action = "discover" ∨ action = "load" then ["mcp:discover"] else []) ++
    (if action = "load" then ["mcp:delegate"] else [])

def baseAuthorized (item : PolicyItem) (caller : PolicyCaller) (action : String) : Bool :=
  caller.authenticated && (caller.principalKind == "human" || caller.principalKind == "service") &&
    principalMatchesRule item caller caller.principalKind &&
    (requiredScopes item action).all fun scope => caller.effectiveScopes.contains scope

/-- What came back from an await. -/
inductive Awaited (α : Type) where
  | returned (a : α)
  | raised
  | cancelled

/-- What the gate does that others can see or answer. A response that is no `CheckResponse` is
`none`. -/
inductive GateCall where
  | setRevision (tenant revision : String)
  | onRevisionChange (revision : String)
  | cacheGet (key : CacheKey)
  | bulkCheck (requests : List CheckRequest)
  | cachePut (key : CacheKey) (value : Bool)

def GateCall.Answer : GateCall → Type
  | .setRevision _ _ => Bool
  | .onRevisionChange _ => Awaited Unit
  | .cacheGet _ => DecisionCache.Lookup
  | .bulkCheck _ => Awaited (List (Option CheckResponse))
  | .cachePut _ _ => Instant

abbrev Gate := Prog GateCall GateCall.Answer PolicyError

namespace GateCall

def revise (tenant revision : String) : Gate Bool := Prog.ask (setRevision tenant revision)
def announce (revision : String) : Gate (Awaited Unit) := Prog.ask (onRevisionChange revision)
def look (key : CacheKey) : Gate DecisionCache.Lookup := Prog.ask (cacheGet key)
def check (requests : List CheckRequest) : Gate (Awaited (List (Option CheckResponse))) :=
  Prog.ask (bulkCheck requests)
def store (key : CacheKey) (value : Bool) : Gate Instant := Prog.ask (cachePut key value)

end GateCall

inductive Mode where
  | none | embedded | remote
  deriving DecidableEq

structure PolicyGate where
  mode : Mode
  (hasDecisionPoint hasRevisionCallback : Bool)
  /-- SHA-256 of the principal's JSON dump. -/
  authorityDigest : PrincipalCheck → String

namespace PolicyGate
variable (gate : PolicyGate)

def revision (caller : PolicyCaller) : Gate String := do
  if caller.policyRevision = "" then
    throw ⟨.policyUnavailable,"policy revision unavailable"⟩
  if caller.tenant = "" then
    throw ⟨.valueError,"tenant and policy revision are required"⟩
  let changed ← GateCall.revise caller.tenant caller.policyRevision
  if changed && gate.hasRevisionCallback then
    match ← GateCall.announce caller.policyRevision with
    | .returned _ => return caller.policyRevision
    | .raised => throw ⟨.callback,""⟩
    | .cancelled => throw ⟨.cancelled,""⟩
  return caller.policyRevision

/-- What is the same for all items of one call. -/
structure Context where
  caller : PolicyCaller
  principal : PrincipalCheck
  (revision action : String)

def Context.key (ctx : Context) (item : PolicyItem) : CacheKey :=
  ⟨gate.authorityDigest ctx.principal,ctx.caller.tenant,ctx.revision,item.resource ++ ":" ++ item.effect,
    ctx.action⟩

def Context.request (ctx : Context) (item : PolicyItem) : CheckRequest :=
  ⟨ctx.principal,resourceCheck item,ctx.action⟩

/-- Effects whose decisions are never taken from the cache nor put there. -/
def uncachedEffect (effect : String) : Bool := effect == "destructive" || effect == "admin"

/-- The positions of a chunk with the item at each. -/
abbrev Slots := List (Nat × PolicyItem)

/-- The loop of `_split_cached`: the decisions with those of the cache, and the slots to ask for. -/
def splitCached (ctx : Context) : Slots → List Bool → Gate (List Bool × Slots)
  | [], allowed => return (allowed,[])
  | (index,item) :: rest, allowed => do
    if uncachedEffect item.effect then
      let (allowed,uncached) ← splitCached ctx rest allowed
      return (allowed,(index,item) :: uncached)
    match ← GateCall.look (ctx.key gate item) with
    | .live _ value => splitCached ctx rest (allowed.set index value)
    | _ =>
      let (allowed,uncached) ← splitCached ctx rest allowed
      return (allowed,(index,item) :: uncached)

def bulkCheck (requests : List CheckRequest) : Gate (List (Option CheckResponse)) := do
  match ← GateCall.check requests with
  | .returned responses => return responses
  | .raised => throw ⟨.policyUnavailable,"policy decision point unavailable"⟩
  | .cancelled => throw ⟨.cancelled,""⟩

def applyResponses (ctx : Context) : List ((Nat × PolicyItem) × Option CheckResponse) → List Bool → Gate (List Bool)
  | [], allowed => return allowed
  | ((index,item),response) :: rest, allowed => do
    let some response := response | throw ⟨.policyUnavailable,"policy response invalid"⟩
    if response.reason = some unavailableReason then
      throw ⟨.policyUnavailable,"policy decision point unavailable"⟩
    else if uncachedEffect item.effect then
      applyResponses ctx rest (allowed.set index response.allowed)
    else
      let _ ← GateCall.store (ctx.key gate item) response.allowed
      applyResponses ctx rest (allowed.set index response.allowed)

def decideChunk (ctx : Context) (slots : Slots) (allowed : List Bool) : Gate (List Bool) := do
  if slots = [] then return allowed
  let (allowed,uncached) ← splitCached gate ctx slots allowed
  if uncached = [] then return allowed
  let responses ← bulkCheck (uncached.map fun slot => ctx.request slot.2)
  if responses.length ≠ uncached.length then
    throw ⟨.policyUnavailable,"policy response alignment failed"⟩
  applyResponses gate ctx (uncached.zip responses) allowed

/-- The allowed positions from `start` to the end of its chunk. -/
def positions (items : List PolicyItem) (allowed : List Bool) (start : Nat) : Slots :=
  ((items.zipIdx.map Prod.swap).drop start |>.take bulkCheckMax).filter fun slot => allowed.getD slot.1 false

def decideChunks (ctx : Context) (items : List PolicyItem) : List Nat → List Bool → Gate (List Bool)
  | [], allowed => return allowed
  | start :: rest, allowed => do
    let allowed ← decideChunk gate ctx (positions items allowed start) allowed
    decideChunks ctx items rest allowed

def starts (n : Nat) : List Nat := (List.range ((n + bulkCheckMax - 1) / bulkCheckMax)).map (· * bulkCheckMax)

def decisions (items : List PolicyItem) (caller : PolicyCaller) (action : String) : Gate (List Bool) := do
  if action ≠ "discover" ∧ action ≠ "load" ∧ action ≠ "call" then
    throw ⟨.valueError,"unknown policy action"⟩
  let allowed := items.map fun item => baseAuthorized item caller action
  if gate.mode = .none ∨ !allowed.any id then return allowed
  if !gate.hasDecisionPoint then
    throw ⟨.policyUnavailable,"policy decision point unavailable"⟩
  let revision ← gate.revision caller
  match principalCheck caller with
  | .error x => throw x
  | .ok principal => decideChunks gate ⟨caller,principal,revision,action⟩ items (starts items.length) allowed

end PolicyGate
end Arbora.Policy
