import Arbora.OAuth.Guards

/-! A flow that nobody disturbs stores its token. -/
namespace Arbora.OAuth
open Interaction
open Prog (Reaches reaches_demand_bind reaches_refuse_bind)

section
variable {Time : Type} [LinearOrder Time] [Add Time] [OfNat Time 300] [OfNat Time 3600] {S : Setting Time}
  {B : Builtins Time} {W : World (Call Time) Call.Answer (Vault Time)}

/-- Whether an environment goes on as the store does, sections and refreshes apart. -/
def Follows (S : Setting Time) (W : World (Call Time) Call.Answer (Vault Time)) : Prop :=
  ∀ {s e r s'}, (∀ sec, e ≠ .locked sec) → (∀ endpoint clientId token, e ≠ .exchangeRefresh endpoint clientId token) →
    Serves S s e r s' → W s e r s'

omit [LinearOrder Time] [Add Time] [OfNat Time 300] [OfNat Time 3600] in
theorem follows_serves : Follows S (Serves S) := fun _ _ hw => hw

omit [OfNat Time 300] in
theorem follows_serial : Follows S (SerialServes B S) := by
  intro s e r s' he _ hw
  cases e with
  | locked sec => exact absurd rfl (he sec)
  | _ => exact hw

/-- Whether a call is neither a section nor a refresh. -/
def ordinary : Call Time → Bool
  | .locked _ | .exchangeRefresh _ _ _ => false
  | _ => true

omit [LinearOrder Time] [Add Time] [OfNat Time 300] [OfNat Time 3600] in
theorem Follows.served (hW : Follows S W) {s s' : Vault Time} {e : Call Time} {r : e.Answer} (hs : Serves S s e r s')
    (he : ordinary e = true) : W s e r s' := by
  refine hW (fun sec hsec => ?_) (fun endpoint clientId token hexchange => ?_) hs
  · rw [hsec] at he
    exact Bool.false_ne_true he
  · rw [hexchange] at he
    exact Bool.false_ne_true he

variable {s s' : Vault Time} {actor : ActorContext} {tenant principal session : String} {provider : ProviderDescriptor}

omit [LinearOrder Time] [Add Time] [OfNat Time 300] [OfNat Time 3600] in
theorem reaches_requireEnabled_bind {α : Type} {f : ProviderDescriptor → Step Time α} {a : α} (hW : Follows S W)
    (hlisted : S.listed provider.providerId (some provider)) (henabled : provider.enabled = true)
    (hf : Reaches W (f provider) s a s') : Reaches W ((requireEnabled provider.providerId).bind f) s a s' := by
  unfold requireEnabled
  rw [Prog.bind_eq,Prog.bind_assoc]
  refine reaches_demand_bind (hW.served (.provider s _ _ hlisted) rfl) ?_
  have hfilter : (some provider).filter (·.enabled) = some provider := by simp [henabled]
  rw [hfilter]
  exact hf

def transactionOf (provider : ProviderDescriptor) (tenant principal session : String) (scopes : List String)
    (state verifier nonce : String) (now : Time) : OAuthTransaction Time :=
  ⟨state,nonce,verifier,provider.providerId,tenant,principal,session,provider.redirectUri,joined scopes,now,now+300,
    provider.clientId.getD ""⟩

omit [LinearOrder Time] [OfNat Time 3600] in
theorem reaches_begin (hW : Follows S W) (hsession : session ≠ "")
    (hverified : requireVerified actor = .ok (tenant,principal))
    (hlisted : S.listed provider.providerId (some provider)) (henabled : provider.enabled = true)
    {requested : Option (List String)} {scopes : List String} (hscopes : effectiveScopes provider requested = .ok scopes)
    (hclient : provider.clientId.getD "" ≠ "") {state verifier nonce : String} (hfresh : state ∉ s.issued) {now : Time}
    (htick : S.tick s.now now) (metadata : AuthorizationServerMetadata) :
    ∃ url, Reaches W (begin provider.providerId actor session requested) s url
      (Vault.write ⟨s.secrets,state :: s.issued,now⟩ (.transaction state)
        (some (.transaction (transactionOf provider tenant principal session scopes state verifier nonce now)))) := by
  refine ⟨⟨metadata.authorizationEndpoint,urlParams (transactionOf provider tenant principal session scopes state verifier
    nonce now)⟩,?_⟩
  unfold begin
  refine reaches_refuse_bind hsession ?_
  rw [hverified]
  refine reaches_requireEnabled_bind hW hlisted henabled ?_
  rw [hscopes]
  refine reaches_demand_bind (hW.served (.discover s provider metadata) rfl) ?_
  unfold resolveClientId
  rw [if_pos hclient]
  refine reaches_demand_bind (hW.served (.verifier s verifier) rfl) ?_
  refine reaches_demand_bind (hW.served (.state s state hfresh) rfl) ?_
  refine reaches_demand_bind (hW.served (.nonce _ nonce) rfl) ?_
  refine reaches_demand_bind (hW.served (.time _ now htick) rfl) ?_
  exact reaches_demand_bind (hW.served (.set _ _ _) rfl) .ret

omit [Add Time] [OfNat Time 300] [OfNat Time 3600] in
theorem reaches_consumeOnce (hW : Follows S W) {tx : OAuthTransaction Time} (hstate : ¬malformed tx.state)
    (hheld : s.secrets (.transaction tx.state) = some (.transaction tx)) {now : Time} (htick : S.tick s.now now)
    (hlive : now < tx.expiresAt) : Reaches W (consumeOnce tx.state) s tx
      { (s.write (.transaction tx.state) (some consumedTombstone)).write (.transaction tx.state) none with now := now } := by
  unfold consumeOnce
  refine reaches_refuse_bind hstate ?_
  refine reaches_demand_bind (hW.served (.get s _) rfl) ?_
  have hclaimable : claimable (s.secrets (.transaction tx.state)) = .ok (.transaction tx) := by
    have hother : Secret.transaction tx ≠ consumedTombstone := by
      unfold consumedTombstone
      exact nofun
    rw [hheld]
    simp only [claimable,if_neg hother]
  rw [hclaimable]
  refine reaches_demand_bind (hW.served (.swapped s _ _ _ hheld) rfl) ?_
  refine reaches_refuse_bind Bool.true_eq_false_eq_False ?_
  refine reaches_demand_bind (hW.served (.deleted _ _) rfl) ?_
  refine reaches_demand_bind (hW.served (.time _ now htick) rfl) ?_
  refine reaches_refuse_bind ?_ .ret
  rintro (hother | hexpired)
  · exact hother rfl
  · exact absurd hlive (not_lt.mpr hexpired)

/-- What a response of just two tokens is turned into. -/
def tokenFor (tx : OAuthTransaction Time) (provider : ProviderDescriptor) (accessToken revision : String) (now : Time) :
    StoredToken Time :=
  ⟨.string accessToken,.string "renew",.string "Bearer",now+3600,.string tx.scope,currentKeyVersion,provider.resourceUrl,revision⟩

omit [LinearOrder Time] [OfNat Time 300] in
theorem reaches_grant (hW : Follows S W) {tx : OAuthTransaction Time} {accessToken revision : String}
    (haccess : accessToken ≠ "") {now : Time} (htick : S.tick s.now now) :
    Reaches W (grant B tx provider [("access_token",.string accessToken),("refresh_token",.string "renew")]) s (tokenFor tx provider accessToken revision now)
      { s with now := now } := by
  have hscope : grantedScope B tx [("access_token",.string accessToken),("refresh_token",.string "renew")] = tx.scope := B.str_string tx.scope
  unfold grant
  refine reaches_refuse_bind (by rw [hscope]; exact not_not.mpr (List.Subset.refl _)) ?_
  have haccepted : requireAccessText (.string accessToken) = .ok accessToken := by
    simp only [requireAccessText,if_neg haccess]
  rw [haccepted]
  refine reaches_demand_bind (hW.served (.time s now htick) rfl) ?_
  refine reaches_demand_bind (hW.served (.revision _ revision) rfl) ?_
  have htype : B.str (.string "Bearer") = "Bearer" := B.str_string _
  rw [hscope]
  change Reaches W (.ret (⟨_,_,.string (B.str (.string "Bearer")),_,_,_,_,_⟩ : StoredToken Time)) _ _ _
  rw [htype]
  exact .ret

omit [OfNat Time 300] in
theorem reaches_callback (tx : OAuthTransaction Time) (hW : Follows S W)
    {locked : (s : Section Time) → Step Time s.Result} (hstate : ¬malformed tx.state) (hheld : s.secrets (.transaction tx.state) = some (.transaction tx))
    (hverified : requireVerified actor = .ok (tx.tenantId,tx.principalId)) (hprovider : tx.providerId = provider.providerId)
    (hlisted : S.listed provider.providerId (some provider)) (henabled : provider.enabled = true)
    {code accessToken revision : String} (haccess : accessToken ≠ "")
    (hrevision : Scaling.strip revision = revision ∧ revision ≠ "") {claimed granted : Time} (hlive : claimed < tx.expiresAt)
    (htick : S.tick s.now claimed) (htick' : S.tick claimed granted) {s' : Vault Time} (hput : Reaches W
      (locked (.put (storageKey tx.tenantId tx.principalId provider.providerId provider.resourceUrl provider.resourceUrl)
        (tokenFor tx provider accessToken revision granted) (some tx.createdAt)))
      { (s.write (.transaction tx.state) (some consumedTombstone)).write (.transaction tx.state) none with now := granted }
      () s') :
    Reaches W (callback B locked code tx.state actor tx.browserSessionId) s (tokenFor tx provider accessToken revision granted)
      s' := by
  obtain ⟨hstripped,hnonempty⟩ := hrevision
  unfold callback
  refine (reaches_consumeOnce hW hstate hheld htick hlive).bind ?_
  rw [hverified]
  have hinitiator : requireInitiator tx tx.tenantId tx.principalId tx.browserSessionId = .ok () := by
    unfold requireInitiator
    rw [if_neg (by simp),if_neg (not_not.mpr rfl)]
  change Reaches W ((Prog.ofExcept (requireInitiator tx tx.tenantId tx.principalId tx.browserSessionId)).bind _) _ _ _
  rw [hinitiator,hprovider]
  refine reaches_requireEnabled_bind hW hlisted henabled ?_
  refine reaches_demand_bind (hW.served (.discover _ provider ⟨"",""⟩) rfl) ?_
  refine reaches_demand_bind (hW.served (.exchangeCode _ _ _ _ _ _ [("access_token",.string accessToken),("refresh_token",.string "renew")]) rfl) ?_
  refine Reaches.bind (a := tokenFor tx provider accessToken revision granted) (reaches_grant hW haccess htick') ?_
  refine Reaches.bind (a := ()) ?_ .ret
  unfold put
  rw [hverified]
  refine reaches_refuse_bind (not_not.mpr rfl) ?_
  unfold grantRevisionOf tokenFor
  rw [hstripped,if_neg hnonempty]
  exact hput

omit [OfNat Time 300] in
theorem reaches_putSection (hW : Follows S W) {key : Key} {record : StoredToken Time} {startedAt : Option Time}
    (hnewer : requireNewer startedAt (s.secrets key) = .ok ()) :
    Reaches W (Section.program B (.put key record startedAt)) s () (s.write key (some (.token record))) := by
  change Reaches _ (putSection key record startedAt) _ _ _
  unfold putSection
  refine reaches_demand_bind (hW.served (.get s key) rfl) ?_
  rw [hnewer]
  exact Prog.reaches_demand (hW.served (.set s key _) rfl)

omit [OfNat Time 300] in
theorem reaches_refresh (hW : Follows S W) {audience resourceUrl revision : String} {key : Key}
    (hverified : requireVerified actor = .ok (tenant,principal))
    (hkey : storageKey tenant principal provider.providerId resourceUrl audience = key)
    (hclient : provider.clientId.getD "" ≠ "") {current : StoredToken Time} (hheld : s.secrets key = some (.token current))
    (htruthy : B.truthy current.refreshToken = true) {payload : Payload} {accessToken : Json.Document} {seconds now : Time}
    (hexchange : W s (.exchangeRefresh "" (provider.clientId.getD "") current.refreshToken) (.ok payload) s)
    (haccess : requireAccessToken payload = .ok accessToken) (hexpires : expiresIn B payload = .ok seconds)
    (htick : S.tick s.now now) : Reaches W (refresh (unguarded B) actor provider resourceUrl audience none) s
      (refreshed current payload accessToken (now+seconds) audience revision)
      (Vault.write { s with now := now } key
        (some (.token (refreshed current payload accessToken (now+seconds) audience revision)))) := by
  have hown : (if (none : Option String).getD "" ≠ "" then (none : Option String).getD "" else provider.clientId.getD "")
    = provider.clientId.getD "" := if_neg (not_not.mpr rfl)
  unfold refresh
  rw [hverified]
  change Reaches W ((Prog.refuse _ _).bind fun _ => unguarded B (.refresh (storageKey tenant principal _ _ _) _ _ _)) _ _ _
  rw [hkey,hown]
  refine reaches_refuse_bind hclient ?_
  change Reaches W (refreshSection B key provider audience (provider.clientId.getD "")) _ _ _
  unfold refreshSection
  refine reaches_demand_bind (hW.served (.get s key) rfl) ?_
  rw [hheld]
  refine reaches_refuse_bind (by rw [htruthy]; exact Bool.true_eq_false_eq_False) ?_
  refine reaches_demand_bind (hW.served (.discover s provider ⟨"",""⟩) rfl) ?_
  refine reaches_demand_bind hexchange ?_
  rw [haccess]
  refine reaches_demand_bind (hW.served (.time s now htick) rfl) ?_
  rw [hexpires]
  refine reaches_demand_bind (hW.served (.revision _ revision) rfl) ?_
  refine reaches_demand_bind (hW.served (.swapped _ key _ _ hheld) rfl) ?_
  exact reaches_refuse_bind Bool.true_eq_false_eq_False .ret

end

section
variable {Time ι : Type} [LinearOrder Time] [Add Time] [OfNat Time 300] [OfNat Time 3600] [DecidableEq ι] {B : Builtins Time}
  {locked : (s : Section Time) → Step Time s.Result} {W : World (Call Time) Call.Answer (Vault Time)}

theorem steps_then {ops : ι → Operation} {s s' : Vault Time} {log : Log Time ι}
    {d : Pool ι (Call Time) Call.Answer Failure (Outcome Time) (Vault Time)} {i : ι} {outcome : Outcome Time}
    (h : Pool.Steps W (flows B locked ops s) log d) (hi : d.procs i = (ops i).program B locked)
    (hrun : Reaches W ((ops i).program B locked) d.state outcome s') :
    ∃ log', Pool.Steps W (flows B locked ops s) (log ++ log') ⟨s',Function.update d.procs i (.ret outcome)⟩ := by
  obtain ⟨t,ht⟩ := hrun
  exact ⟨_,h.trans (Pool.Steps.of_run ht hi rfl)⟩

end

section

def acme : ProviderDescriptor :=
  ⟨"acme","https://mcp",none,some "client",false,"https://back",["read","write"],true,rfl,by decide +kernel⟩
def alice : ActorContext := ⟨"tenant","alice",true⟩

theorem alice_verified : requireVerified alice = .ok ("tenant","alice") := by decide +kernel

def aliceKey : Key := storageKey "tenant" "alice" "acme" "https://mcp" "https://mcp"
def vacant : Vault ℕ := ⟨fun _ => none,[],0⟩
def aliceFlow (state : String) (scopes : List String) (now : ℕ) : OAuthTransaction ℕ :=
  transactionOf acme "tenant" "alice" "browser" scopes state "v" "n" now

/-- The store after that. -/
def Vault.opened (s : Vault ℕ) (state : String) (scopes : List String) (now : ℕ) : Vault ℕ :=
  Vault.write ⟨s.secrets,state :: s.issued,now⟩ (.transaction state) (some (.transaction (aliceFlow state scopes now)))

/-- The store once the flow has come back. -/
def Vault.landed (s : Vault ℕ) (state : String) (scopes : List String) (began now : ℕ) : Vault ℕ :=
  Vault.write { (s.write (.transaction state) (some consumedTombstone)).write (.transaction state) none with now := now }
    aliceKey (some (.token (tokenFor (aliceFlow state scopes began) acme "secret" "r" now)))

theorem aliceKey_ne (state : String) : aliceKey ≠ .transaction state := nofun
theorem write_alice (s : Vault ℕ) (state : String) (v : Option (Secret ℕ)) :
    (s.write (.transaction state) v).secrets aliceKey = s.secrets aliceKey := Vault.write_of_ne (aliceKey_ne state)
theorem Vault.opened_alice (s : Vault ℕ) (state : String) (scopes : List String) (now : ℕ) :
    (s.opened state scopes now).secrets aliceKey = s.secrets aliceKey := write_alice ..

theorem Vault.opened_other {state other : String} (h : other ≠ state) (s : Vault ℕ) (scopes : List String) (now : ℕ) :
    (s.opened state scopes now).secrets (.transaction other) = s.secrets (.transaction other) :=
  Vault.write_of_ne fun heq => h (Key.transaction.inj heq)

theorem Vault.landed_other {state other : String} (h : other ≠ state) (s : Vault ℕ) (scopes : List String)
    (began now : ℕ) : (s.landed state scopes began now).secrets (.transaction other) = s.secrets (.transaction other) := by
  have hne : Key.transaction other ≠ .transaction state := fun heq => h (Key.transaction.inj heq)
  exact (Vault.write_of_ne hne).trans (Vault.write_of_ne hne)

variable {S : Setting ℕ} {W : World (Call ℕ) Call.Answer (Vault ℕ)} {s : Vault ℕ} {state : String}
  {scopes : List String} {now began : ℕ}

theorem alice_begins (hW : Follows S W) (hlisted : S.listed "acme" (some acme)) (htick : S.tick s.now now)
    (hfresh : state ∉ s.issued) (hscopes : scopes ⊆ ["read","write"]) :
    ∃ url, Reaches W (begin "acme" alice "browser" (some scopes)) s url (s.opened state scopes now) := by
  have hsession : "browser" ≠ "" := by decide
  have hclient : acme.clientId.getD "" ≠ "" := by decide
  have heffective : effectiveScopes acme (some scopes) = .ok scopes := if_pos hscopes
  exact reaches_begin hW hsession alice_verified hlisted rfl heffective hclient hfresh htick ⟨"",""⟩

theorem alice_lands (hW : Follows S W) {locked : (s : Section ℕ) → Step ℕ s.Result} (hlisted : S.listed "acme" (some acme))
    (htick : S.tick s.now (now+1)) (htick' : S.tick (now+1) (now+2)) (hstate : ¬malformed state)
    (hheld : s.secrets (.transaction state) = some (.transaction (aliceFlow state scopes began))) (hlive : now+1 < began+300)
    (hput : Reaches W
      (locked (.put aliceKey (tokenFor (aliceFlow state scopes began) acme "secret" "r" (now+2)) (some began)))
      { (s.write (.transaction state) (some consumedTombstone)).write (.transaction state) none with now := now+2 } ()
      (s.landed state scopes began (now+2))) :
    Reaches W (callback plainBuiltins locked "code" state alice "browser") s
      (tokenFor (aliceFlow state scopes began) acme "secret" "r" (now+2)) (s.landed state scopes began (now+2)) :=
  reaches_callback (aliceFlow state scopes began) hW hstate hheld alice_verified rfl hlisted rfl (by decide)
    (by decide +kernel) hlive htick htick' hput

end

end Arbora.OAuth
