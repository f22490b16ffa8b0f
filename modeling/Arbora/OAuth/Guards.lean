import Arbora.OAuth.Broker

/-! What an operation has been answered before it makes a call that changes the store. -/
namespace Arbora.OAuth
open Interaction

section
variable {Time : Type} [LinearOrder Time] (B : Builtins Time)

abbrev History (Time : Type) := List (Event (Call Time) Call.Answer)

def claimEvent (state : String) (raw : Secret Time) : Event (Call Time) Call.Answer :=
  ⟨.compareAndSet (.transaction state) raw consumedTombstone,.ok true⟩

def claims : Call Time → Bool
  | .compareAndSet (.transaction _) _ _ | .set (.transaction _) _ => true
  | _ => false

/-- `consume_once` has returned a transaction. -/
def Consumed (state : String) (h : History Time) (tx : OAuthTransaction Time) : Prop :=
  ∃ t, t <+: h ∧ Prog.Runs Prog.record (consumeOnce state) [] t (.ret tx) t

/-- How `begin` came by a transaction. -/
structure Drawn (op : Operation) (h : History Time) (tx : OAuthTransaction Time) : Prop where
  asked : ∃ providerId actor requested provider scopes,
    op = .begin providerId actor tx.browserSessionId requested ∧
    ⟨.provider providerId,.ok (some provider)⟩ ∈ h ∧ requireVerified actor = .ok (tx.tenantId,tx.principalId) ∧
    tx.providerId = provider.providerId ∧ tx.redirectUri = provider.redirectUri ∧ tx.scope = joined scopes ∧
    effectiveScopes provider requested = .ok scopes
  state : ⟨.state,.ok tx.state⟩ ∈ h
  verifier : ⟨.verifier,.ok tx.verifier⟩ ∈ h
  time : ⟨.time,.ok tx.createdAt⟩ ∈ h
  client : tx.clientId ≠ ""
  first : ∀ x ∈ h, claims x.1 = false

/-- How `callback` came by a token that it stores. -/
structure Landing (code state : String) (actor : ActorContext) (h : History Time) (tx : OAuthTransaction Time)
    (provider : ProviderDescriptor) (payload : Payload) (key : Key) (record : StoredToken Time) : Prop where
  consumed : Consumed state h tx
  verified : requireVerified actor = .ok (tx.tenantId,tx.principalId)
  listed : ⟨.provider tx.providerId,.ok (some provider)⟩ ∈ h
  exchanged : ∃ endpoint,
    ⟨.exchangeCode endpoint (effectiveClientId tx provider) code tx.verifier tx.redirectUri,.ok payload⟩ ∈ h
  key : key = storageKey tx.tenantId tx.principalId provider.providerId provider.resourceUrl provider.resourceUrl
  scope : record.grantedScope = .string (grantedScope B tx payload)
  narrowed : words (grantedScope B tx payload) ⊆ words tx.scope
  audience : record.audience = provider.resourceUrl

def Landed (op : Operation) (h : History Time) (key : Key) (record : StoredToken Time) (startedAt : Option Time) : Prop :=
  ∃ code state actor tx provider payload, op = .callback code state actor tx.browserSessionId ∧
    Landing B code state actor h tx provider payload key record ∧ startedAt = some tx.createdAt

def Rotated (h : History Time) (current record : StoredToken Time) : Prop :=
  ∃ endpoint clientId payload accessToken expiresAt audience revision,
    ⟨.exchangeRefresh endpoint clientId current.refreshToken,.ok payload⟩ ∈ h ∧
    record = refreshed current payload accessToken expiresAt audience revision

/-- What an operation may do after what it has been answered; tokens are written either bare or in sections that are one
step each. -/
def Allowed (bare : Prop) (op : Operation) (h : History Time) : Call Time → Prop
  | .set (.transaction state) value => ∃ tx, value = .transaction tx ∧ tx.state = state ∧ Drawn op h tx
  | .set (.token _) (.revoked revokedAt) => bare ∧ ∃ t, revokedAt = some t ∧ ⟨.time,.ok t⟩ ∈ h
  | .set (.token digest) (.token record) => bare ∧ ∃ startedAt, Landed B op h (.token digest) record startedAt
  | .set _ _ => False
  | .compareAndSet (.transaction state) raw value => value = consumedTombstone ∧ raw ≠ consumedTombstone ∧
      (∃ code actor session, op = .callback code state actor session) ∧ ∀ x ∈ h, claims x.1 = false
  | .compareAndSet (.token _) raw value => bare ∧ ∃ current record, raw = .token current ∧ value = .token record ∧
      Rotated h current record
  | .compareAndSet (.client _) _ _ => False
  | .delete (.transaction state) => ∃ raw, claimEvent state raw ∈ h
  | .delete _ => False
  | .setIfAbsent (.client _) _ => True
  | .setIfAbsent _ _ => False
  | .locked (.put (.token digest) record startedAt) => Landed B op h (.token digest) record startedAt
  | .locked (.refresh (.token _) ..) | .locked (.revoke (.token _)) => True
  | .locked _ => False
  | _ => True

variable {B} {op : Operation} {h rest : History Time} {key : Key} {record : StoredToken Time} {startedAt : Option Time}

theorem Landed.later (hl : Landed B op h key record startedAt) : Landed B op (h ++ rest) key record startedAt := by
  obtain ⟨code,state,actor,tx,provider,payload,hop,hlanding,hstarted⟩ := hl
  obtain ⟨⟨t,ht,hrun⟩,hverified,hlisted,⟨endpoint,hexchanged⟩,hkey,hscope,hnarrowed,haudience⟩ := hlanding
  refine ⟨code,state,actor,tx,provider,payload,hop,?_,hstarted⟩
  exact ⟨⟨t,ht.trans (List.prefix_append _ _),hrun⟩,hverified,List.mem_append_left _ hlisted,
    ⟨endpoint,List.mem_append_left _ hexchanged⟩,hkey,hscope,hnarrowed,haudience⟩

end

section
variable {Time : Type} [LinearOrder Time] {B : Builtins Time} {bare : Prop} {op : Operation} {h : History Time}
open Prog (meets_ask_bind meets_ofExcept_bind meets_refuse_bind meets_found_bind)

structure Claimed (state : String) (h : History Time) (tx : OAuthTransaction Time) : Prop where
  won : claimEvent state (.transaction tx) ∈ h
  state : tx.state = state
  fresh : ∃ now, ⟨.time,.ok now⟩ ∈ h ∧ now < tx.expiresAt

variable {actor : ActorContext} {providerId session : String}

theorem consumeOnce_meets {code state : String} (hop : op = .callback code state actor session) :
    (consumeOnce state).Meets Prog.record (Allowed B bare op) (Claimed state) (fun _ _ => True) [] := by
  refine meets_refuse_bind.mpr ⟨fun _ => trivial,fun _ => ?_⟩
  refine meets_ask_bind trivial fun found => ?_
  refine meets_ofExcept_bind.mpr ⟨fun _ _ => trivial,fun raw hraw => ?_⟩
  have hclaimable : raw ≠ consumedTombstone := by
    unfold claimable at hraw
    split at hraw
    · split_ifs at hraw with h
      cases hraw
      exact h
    · cases hraw
  refine meets_ask_bind ⟨rfl,hclaimable,⟨code,actor,session,hop⟩,?_⟩ fun claimed => ?_
  · intro x hx
    rw [List.mem_singleton.mp hx]
    rfl
  refine meets_refuse_bind.mpr ⟨fun _ => trivial,fun hwon => ?_⟩
  obtain rfl := Bool.eq_true_of_not_eq_false hwon
  refine meets_ask_bind ⟨raw,List.mem_append_right _ (List.mem_singleton.mpr rfl)⟩
    fun _ => ?_
  refine meets_ofExcept_bind.mpr ⟨fun _ _ => trivial,fun tx htx => ?_⟩
  refine meets_ask_bind trivial fun now => ?_
  refine meets_refuse_bind.mpr ⟨fun _ => trivial,fun hvalid => ?_⟩
  rw [not_or,not_not] at hvalid
  have hraw : raw = .transaction tx := by
    unfold readTransaction at htx
    split at htx
    · cases htx
      rfl
    · cases htx
  subst hraw
  refine ⟨?_,hvalid.1,now,?_,not_le.mp hvalid.2⟩
  · simp [claimEvent]
  · exact List.mem_append_right _ (List.mem_singleton.mpr rfl)

theorem requireEnabled_meets_bind {α : Type} {f : ProviderDescriptor → Step Time α} {Q : History Time → α → Prop}
    (hf : ∀ provider, (f provider).Meets Prog.record (Allowed B bare op) Q (fun _ _ => True)
      (h ++ [⟨.provider providerId,.ok (some provider)⟩])) :
    ((requireEnabled providerId).bind f).Meets Prog.record (Allowed B bare op) Q (fun _ _ => True) h := by
  unfold requireEnabled
  rw [Prog.bind_eq,Prog.bind_assoc]
  refine meets_ask_bind trivial fun found => ?_
  refine meets_found_bind.mpr ⟨fun _ => trivial,fun provider hprovider => ?_⟩
  obtain rfl := (Option.filter_eq_some_iff.mp hprovider).1
  exact hf provider

def Stored (h : History Time) (digest : String) (record : StoredToken Time) : Prop :=
  ⟨.set (.token digest) (.token record),.ok ()⟩ ∈ h ∨
    ∃ startedAt, ⟨.locked (.put (.token digest) record startedAt),.ok ()⟩ ∈ h

/-- Sections that keep to what is allowed; `Kept` holds of what a refresh returns. -/
structure Respects (B : Builtins Time) (bare : Prop) (locked : (s : Section Time) → Step Time s.Result)
    (Kept : History Time → StoredToken Time → Prop) : Prop where
  put : ∀ {op h digest record startedAt}, Landed B op h (.token digest) record startedAt →
    (locked (.put (.token digest) record startedAt)).Meets Prog.record (Allowed B bare op)
      (fun h' _ => Stored h' digest record) (fun _ _ => True) h
  refresh : ∀ {op h digest provider audience clientId},
    (locked (.refresh (.token digest) provider audience clientId)).Meets Prog.record (Allowed B bare op) Kept (fun _ _ => True) h
  revoke : ∀ {op h digest},
    (locked (.revoke (.token digest))).Meets Prog.record (Allowed B bare op) (fun _ _ => True) (fun _ _ => True) h

theorem respects_serialised : Respects B bare serialised (fun _ _ => True) := by
  have hcall : ∀ {op : Operation} {h : History Time} (s : Section Time), Allowed B bare op h (.locked s) →
      (serialised s).Meets Prog.record (Allowed B bare op) (fun h' a => ⟨.locked s,.ok a⟩ ∈ h') (fun _ _ => True) h := by
    intro op h s hs
    refine ⟨hs,?_⟩
    rintro r _ rfl
    cases r with
    | ok a => exact List.mem_append_right _ (List.mem_singleton.mpr rfl)
    | error x => trivial
  refine ⟨fun hl => (hcall (.put (.token _) _ _) hl).mono (fun _ _ hg => hg) (fun _ _ hmem => .inr ⟨_,hmem⟩) fun _ _ hx => hx,?_,?_⟩
  · exact (hcall (.refresh (.token _) _ _ _) trivial).mono (fun _ _ hg => hg) (fun _ _ _ => trivial) fun _ _ hx => hx
  · exact (hcall (.revoke (.token _)) trivial).mono (fun _ _ hg => hg) (fun _ _ _ => trivial) fun _ _ hx => hx

variable [Add Time] [OfNat Time 3600]

theorem respects_unguarded :
    Respects B True (unguarded B) fun h record => ∃ digest raw, ⟨.compareAndSet (.token digest) raw (.token record),.ok true⟩ ∈ h where
  put hl := by
    refine meets_ask_bind trivial fun raw => ?_
    refine meets_ofExcept_bind.mpr ⟨fun _ _ => trivial,fun _ _ => ?_⟩
    refine ⟨⟨trivial,_,hl.later⟩,?_⟩
    rintro r _ rfl
    cases r with
    | ok a => exact .inl (List.mem_append_right _ (List.mem_singleton.mpr rfl))
    | error x => trivial
  revoke := by
    refine meets_ask_bind trivial fun now => ?_
    refine meets_ask_bind ⟨trivial,now,rfl,?_⟩ fun _ => trivial
    exact List.mem_append_right _ (List.mem_singleton.mpr rfl)
  refresh {op h digest provider audience clientId} := by
    refine meets_ask_bind trivial fun raw => ?_
    refine meets_ofExcept_bind.mpr ⟨fun _ _ => trivial,fun current hcurrent => ?_⟩
    refine meets_refuse_bind.mpr ⟨fun _ => trivial,fun _ => ?_⟩
    refine meets_ask_bind trivial fun metadata => ?_
    refine meets_ask_bind trivial fun payload => ?_
    refine meets_ofExcept_bind.mpr ⟨fun _ _ => trivial,fun accessToken _ => ?_⟩
    refine meets_ask_bind trivial fun now => ?_
    refine meets_ofExcept_bind.mpr ⟨fun _ _ => trivial,fun seconds _ => ?_⟩
    refine meets_ask_bind trivial fun revision => ?_
    refine meets_ask_bind ⟨trivial,current,_,rfl,rfl,metadata.tokenEndpoint,clientId,payload,accessToken,now+seconds,
      audience,revision,by simp,rfl⟩ fun rotated => ?_
    refine meets_refuse_bind.mpr ⟨fun _ => trivial,fun hrotated => ?_⟩
    obtain rfl := Bool.eq_true_of_not_eq_false hrotated
    exact ⟨_,_,List.mem_append_right _ (List.mem_singleton.mpr rfl)⟩

variable {locked : (s : Section Time) → Step Time s.Result} {Kept : History Time → StoredToken Time → Prop}

theorem grant_meets {tx : OAuthTransaction Time} {provider : ProviderDescriptor} {payload : Payload} :
    (grant B tx provider payload).Meets Prog.record (Allowed B bare op)
      (fun _ token => token.grantedScope = .string (grantedScope B tx payload) ∧
        words (grantedScope B tx payload) ⊆ words tx.scope ∧ token.audience = provider.resourceUrl)
      (fun _ _ => True) h := by
  refine meets_ofExcept_bind.mpr ⟨fun _ _ => trivial,fun accessToken _ => ?_⟩
  refine meets_refuse_bind.mpr ⟨fun _ => trivial,fun hnarrowed => ?_⟩
  refine meets_ofExcept_bind.mpr ⟨fun _ _ => trivial,fun accessText _ => ?_⟩
  refine meets_ask_bind trivial fun now => ?_
  refine meets_ofExcept_bind.mpr ⟨fun _ _ => trivial,fun seconds _ => ?_⟩
  refine meets_ask_bind trivial fun revision => ?_
  exact ⟨rfl,not_not.mp hnarrowed,rfl⟩

omit [Add Time] [OfNat Time 3600] in
theorem put_meets (hlocked : Respects B bare locked Kept) {tenant principal p r a : String}
    (hverified : requireVerified actor = .ok (tenant,principal)) {token : StoredToken Time} {startedAt : Option Time}
    (hl : ∀ rest revision, Landed B op (h ++ rest) (storageKey tenant principal p r a)
      { token with grantRevision := revision } startedAt) :
    (put locked actor p r a token startedAt).Meets Prog.record (Allowed B bare op)
      (fun h' _ => ∃ digest revision, storageKey tenant principal p r a = .token digest ∧
        Stored h' digest { token with grantRevision := revision }) (fun _ _ => True) h := by
  unfold put grantRevisionOf
  rw [hverified]
  refine meets_refuse_bind.mpr ⟨fun _ => trivial,fun _ => ?_⟩
  split
  · refine meets_ask_bind trivial fun revision => ?_
    exact (hlocked.put (hl _ revision)).mono (fun _ _ hg => hg) (fun _ _ hs => ⟨_,_,rfl,hs⟩) fun _ _ hx => hx
  · have hown := hl [] (Scaling.strip token.grantRevision)
    rw [List.append_nil] at hown
    exact (hlocked.put hown).mono (fun _ _ hg => hg) (fun _ _ hs => ⟨_,_,rfl,hs⟩) fun _ _ hx => hx

theorem callback_meets (hlocked : Respects B bare locked Kept) {code state : String} (hop :
    op = .callback code state actor session) :
    (callback B locked code state actor session).Meets Prog.record (Allowed B bare op)
      (fun h token => ∃ digest record startedAt, Landed B op h (.token digest) record startedAt ∧
        Stored h digest record ∧ record.grantedScope = token.grantedScope) (fun _ _ => True) [] := by
  refine Prog.Meets.seq (consumeOnce_meets hop).traced ?_
  rintro h tx ⟨hclaimed,t,hh,hrun⟩
  subst hh
  refine meets_ofExcept_bind.mpr ⟨fun _ _ => trivial,?_⟩
  rintro ⟨tenant,principal⟩ hverified
  refine meets_ofExcept_bind.mpr ⟨fun _ _ => trivial,fun _ hinitiator => ?_⟩
  unfold requireInitiator at hinitiator
  split_ifs at hinitiator with hnames hsession
  rw [not_or,not_not,not_not] at hnames
  rw [not_not] at hsession
  obtain ⟨rfl,rfl⟩ := hnames
  subst hsession
  refine requireEnabled_meets_bind fun provider => ?_
  refine meets_ask_bind trivial fun metadata => ?_
  refine meets_ask_bind trivial fun payload => ?_
  refine Prog.Meets.seq grant_meets.traced ?_
  rintro _ token ⟨⟨hscope,hnarrowed,haudience⟩,rest,rfl,-⟩
  have hlanded : ∀ more revision, Landed B op
      (h ++ [⟨.provider tx.providerId,.ok (some provider)⟩] ++ [⟨.discover provider,.ok metadata⟩] ++
        [⟨.exchangeCode metadata.tokenEndpoint (effectiveClientId tx provider) code tx.verifier tx.redirectUri,
          .ok payload⟩] ++ rest ++ more)
      (storageKey tx.tenantId tx.principalId provider.providerId provider.resourceUrl provider.resourceUrl)
      { token with grantRevision := revision } (some tx.createdAt) := by
    intro more revision
    refine ⟨code,state,actor,tx,provider,payload,hop,?_,rfl⟩
    refine ⟨⟨h,?_,hrun⟩,hverified,?_,⟨metadata.tokenEndpoint,?_⟩,rfl,hscope,hnarrowed,haudience⟩
    · simp only [List.append_assoc]
      exact List.prefix_append _ _
    · simp
    · simp
  refine Prog.Meets.seq (put_meets hlocked hverified hlanded).traced ?_
  rintro _ _ ⟨⟨digest,revision,hkey,hstored⟩,more,rfl,-⟩
  exact ⟨digest,_,_,hkey ▸ hlanded more revision,hstored,rfl⟩

omit [LinearOrder Time] [Add Time] [OfNat Time 3600] in
theorem unclaimed_snoc (hh : ∀ x ∈ h, claims x.1 = false) {y : Event (Call Time) Call.Answer} (hy : claims y.1 = false) :
    ∀ x ∈ h ++ [y], claims x.1 = false := by
  intro x hx
  rcases List.mem_append.mp hx with hx | hx
  · exact hh x hx
  · rw [List.mem_singleton.mp hx]
    exact hy

omit [Add Time] [OfNat Time 3600] in
theorem resolveClientId_meets {provider : ProviderDescriptor} {metadata : AuthorizationServerMetadata}
    (hh : ∀ x ∈ h, claims x.1 = false) : (resolveClientId provider metadata).Meets Prog.record (Allowed B bare op)
      (fun v id => id ≠ "" ∧ h <+: v ∧ ∀ x ∈ v, claims x.1 = false) (fun _ _ => True) h := by
  unfold resolveClientId
  split_ifs with hid
  · exact ⟨hid,List.prefix_refl h,hh⟩
  unfold getOrRegister
  refine meets_ask_bind trivial fun cached => ?_
  have hfirst := unclaimed_snoc hh (y := ⟨.get (.client provider.providerId),.ok cached⟩) rfl
  split_ifs with hcached
  · exact ⟨hcached,List.prefix_append _ _,hfirst⟩
  unfold registerClient
  refine meets_ask_bind trivial fun again => ?_
  have hsecond := unclaimed_snoc hfirst (y := ⟨.get (.client provider.providerId),.ok again⟩) rfl
  split_ifs with hagain
  · refine ⟨hagain,?_,hsecond⟩
    simp only [List.append_assoc]
    exact List.prefix_append _ _
  refine meets_ask_bind trivial fun registered => ?_
  have hthird := unclaimed_snoc hsecond (y := ⟨.register provider metadata,.ok registered⟩) rfl
  refine meets_ofExcept_bind.mpr ⟨fun _ _ => trivial,fun clientId hclient => ?_⟩
  have hnonempty : clientId ≠ "" := by
    unfold requireClientId at hclient
    split at hclient
    · split_ifs at hclient with h
      cases hclient
      exact h
    · cases hclient
  refine meets_ask_bind trivial fun fresh => ?_
  have hfourth := unclaimed_snoc hthird
    (y := ⟨.setIfAbsent (.client provider.providerId) (.text clientId),.ok fresh⟩) rfl
  split_ifs with hfresh
  · refine ⟨hnonempty,?_,hfourth⟩
    simp only [List.append_assoc]
    exact List.prefix_append _ _
  refine meets_ask_bind trivial fun winner => ?_
  refine ⟨?_,?_,unclaimed_snoc hfourth rfl⟩
  · split_ifs with hwinner
    · exact hwinner
    · exact hnonempty
  · simp only [List.append_assoc]
    exact List.prefix_append _ _

/-- The query that the transaction of a flow leads to. -/
def urlParams (tx : OAuthTransaction Time) : List (String × String) :=
  [("response_type","code"),("client_id",tx.clientId),("redirect_uri",tx.redirectUri),("scope",tx.scope),
    ("state",tx.state),("code_challenge",challengeOf tx.verifier),("code_challenge_method","S256")]

variable [OfNat Time 300]

omit [OfNat Time 3600] in
theorem begin_meets {requested : Option (List String)} (hop : op = .begin providerId actor session requested) :
    (begin providerId actor session requested).Meets Prog.record (Allowed B bare op)
      (fun h url => ∃ tx : OAuthTransaction Time,
        ⟨.set (.transaction tx.state) (.transaction tx),.ok ()⟩ ∈ h ∧ url.params = urlParams tx) (fun _ _ => True) [] := by
  unfold begin
  refine meets_refuse_bind.mpr ⟨fun _ => trivial,fun _ => ?_⟩
  refine meets_ofExcept_bind.mpr ⟨fun _ _ => trivial,?_⟩
  rintro ⟨tenant,principal⟩ hverified
  refine requireEnabled_meets_bind fun provider => ?_
  refine meets_ofExcept_bind.mpr ⟨fun _ _ => trivial,fun scopes hscopes => ?_⟩
  refine meets_ask_bind trivial fun metadata => ?_
  have hunclaimed : ∀ x ∈ [⟨.provider providerId,.ok (some provider)⟩] ++
      [⟨.discover provider,.ok metadata⟩], claims (x : Event (Call Time) Call.Answer).1 = false :=
    unclaimed_snoc (unclaimed_snoc (h := []) (fun _ hx => nomatch hx) rfl) rfl
  refine Prog.Meets.seq (resolveClientId_meets hunclaimed) ?_
  rintro _ clientId ⟨hclient,⟨t,rfl⟩,hunclaimed⟩
  refine meets_ask_bind trivial fun verifier => ?_
  refine meets_ask_bind trivial fun state => ?_
  refine meets_ask_bind trivial fun nonce => ?_
  refine meets_ask_bind trivial fun now => ?_
  refine meets_ask_bind ⟨_,rfl,rfl,?_⟩ fun _ => ?_
  · refine ⟨⟨providerId,actor,requested,provider,scopes,hop,?_,hverified,rfl,rfl,rfl,hscopes⟩,?_,?_,?_,hclient,?_⟩
    · simp
    · simp
    · simp
    · simp
    · exact unclaimed_snoc (unclaimed_snoc (unclaimed_snoc (unclaimed_snoc hunclaimed rfl) rfl) rfl) rfl
  · exact ⟨⟨state,nonce,verifier,provider.providerId,tenant,principal,session,provider.redirectUri,joined scopes,now,
      now+300,clientId⟩,List.mem_append_right _ (List.mem_singleton.mpr rfl),rfl⟩

/-- How a header came about: from a token of the caller's own for the resource, which was live when it was looked up. -/
def Resolved (B : Builtins Time) (op : Operation) (h : History Time) (authorization : String) : Prop :=
  ∃ actor providerId provider tenant principal digest record now, op = .bearer actor providerId provider.resourceUrl ∧
    requireVerified actor = .ok (tenant,principal) ∧ ⟨.provider providerId,.ok (some provider)⟩ ∈ h ∧
    .token digest = storageKey tenant principal provider.providerId provider.resourceUrl provider.resourceUrl ∧
    ⟨.get (.token digest),.ok (some (.token record))⟩ ∈ h ∧ ⟨.time,.ok now⟩ ∈ h ∧ now < record.expiresAt ∧
    record.audience = provider.resourceUrl ∧ words (B.str record.grantedScope) ⊆ provider.scopes ∧
    authorization = B.str record.tokenType ++ " " ++ B.str record.accessToken

def Finished (B : Builtins Time) (Kept : History Time → StoredToken Time → Prop) (op : Operation) (h : History Time) :
    Outcome Time → Prop
  | .url url => ∃ tx : OAuthTransaction Time,
    ⟨.set (.transaction tx.state) (.transaction tx),.ok ()⟩ ∈ h ∧ url.params = urlParams tx
  | .token token => (∃ digest record startedAt, Landed B op h (.token digest) record startedAt ∧ Stored h digest record ∧
    record.grantedScope = token.grantedScope) ∨ Kept h token
  | .done => True
  | .headers authorization => Resolved B op h authorization

omit [Add Time] [OfNat Time 300] [OfNat Time 3600] in
theorem bearerHeadersFor_meets {resourceUrl : String} (hop : op = .bearer actor providerId resourceUrl) :
    (bearerHeadersFor B actor providerId resourceUrl).Meets Prog.record (Allowed B bare op) (Resolved B op)
      (fun _ _ => True) [] := by
  unfold bearerHeadersFor
  refine Prog.Meets.seq (Q := fun h (token : StoredToken Time) =>
    Resolved B op h (B.str token.tokenType ++ " " ++ B.str token.accessToken)) ?_ ?_
  swap
  · exact fun _ _ hresolved => hresolved
  unfold resolvedGrant
  refine requireEnabled_meets_bind fun provider => ?_
  refine meets_refuse_bind.mpr ⟨fun _ => trivial,fun hurl => ?_⟩
  obtain rfl := not_not.mp hurl
  refine meets_ofExcept_bind.mpr ⟨fun _ _ => trivial,?_⟩
  rintro ⟨tenant,principal⟩ hverified
  unfold get
  rw [hverified]
  -- the token is looked up once
  refine Prog.Meets.seq (Q := fun h stored => ∃ digest raw,
    .token digest = storageKey tenant principal provider.providerId provider.resourceUrl provider.resourceUrl ∧
    h = [⟨.provider providerId,.ok (some provider)⟩] ++ [⟨.get (.token digest),.ok raw⟩] ∧
    stored = usable B provider.resourceUrl raw) ?_ ?_
  · exact meets_ask_bind trivial fun raw => ⟨_,raw,rfl,rfl,rfl⟩
  rintro _ stored ⟨digest,raw,hkey,rfl,rfl⟩
  refine meets_found_bind.mpr ⟨fun _ => trivial,fun token htoken => ?_⟩
  refine meets_ask_bind trivial fun now => ?_
  refine meets_refuse_bind.mpr ⟨fun _ => trivial,fun hlive => ?_⟩
  refine meets_refuse_bind.mpr ⟨fun _ => trivial,fun haudience => ?_⟩
  refine meets_refuse_bind.mpr ⟨fun _ => trivial,fun hceiling => ?_⟩
  refine meets_refuse_bind.mpr ⟨fun _ => trivial,fun _ => ?_⟩
  unfold usable at htoken
  split at htoken
  · rename_i record
    split_ifs at htoken with hunusable
    obtain rfl := Option.some.inj htoken
    dsimp only at hlive haudience hceiling
    rw [B.str_string] at hceiling
    change Resolved B op _ (B.str (.string (B.str record.tokenType)) ++ " " ++ B.str (.string (B.str record.accessToken)))
    rw [B.str_string,B.str_string]
    refine ⟨actor,providerId,provider,tenant,principal,digest,record,now,hop,hverified,?_,hkey,?_,?_,not_le.mp hlive,
      not_not.mp haudience,not_not.mp hceiling,rfl⟩
    · simp
    · simp
    · simp
  · cases htoken

theorem program_meets (hlocked : Respects B bare locked Kept) (op : Operation) :
    (op.program B locked).Meets Prog.record (Allowed B bare op) (Finished B Kept op) (fun _ _ => True) [] := by
  cases op with
  | begin providerId actor session requested => exact (begin_meets rfl).seq fun _ _ h => h
  | callback code state actor session => exact (callback_meets hlocked rfl).seq fun _ _ h => .inl h
  | refresh actor provider resourceUrl audience clientId =>
    refine Prog.Meets.seq (Q := Kept) ?_ fun _ _ h => .inr h
    refine meets_ofExcept_bind.mpr ⟨fun _ _ => trivial,fun _ _ => ?_⟩
    exact meets_refuse_bind.mpr ⟨fun _ => trivial,fun _ => hlocked.refresh⟩
  | revoke actor providerId =>
    refine Prog.Meets.seq (Q := fun _ _ => True) ?_ fun _ _ _ => trivial
    refine requireEnabled_meets_bind fun provider => ?_
    exact meets_ofExcept_bind.mpr ⟨fun _ _ => trivial,fun _ _ => hlocked.revoke.seq fun _ _ _ => trivial⟩
  | bearer actor providerId resourceUrl => exact (bearerHeadersFor_meets rfl).seq fun _ _ h => h

end

end Arbora.OAuth
