import Arbora.OAuth.Broker

/-! Which principals reach the tokens of one another. -/
namespace Arbora.OAuth
open Interaction
open Prog (Reaches)

section

/-- How the text that a key is the digest of begins. -/
def nameText (tenant principal : String) : List Char := tenant.toList ++ '\n' :: principal.toList ++ ['\n']

def tail (providerId resourceUrl audience : String) : List Char :=
  providerId.toList ++ '\n' :: resourceUrl.toList ++ '\n' :: audience.toList

theorem toList_keyText (tenant principal providerId resourceUrl audience : String) :
    (keyText tenant principal providerId resourceUrl audience).toList =
      nameText tenant principal ++ tail providerId resourceUrl audience := by
  rw [keyText,String.toList_intercalate]
  simp [nameText,tail,List.intercalate]

/-- One of the names begins like the other. -/
def Overlap (tenant principal tenant' principal' : String) : Prop :=
  nameText tenant principal <+: nameText tenant' principal' ∨ nameText tenant' principal' <+: nameText tenant principal

instance (tenant principal tenant' principal' : String) : Decidable (Overlap tenant principal tenant' principal') :=
  inferInstanceAs (Decidable (_ ∨ _))

variable {tenant principal tenant' principal' : String}

theorem overlap_iff : Overlap tenant principal tenant' principal' ↔ ∃ p r a p' r' a',
    keyText tenant principal p r a = keyText tenant' principal' p' r' a' := by
  have htail : ∀ z : List Char, ∃ p, tail (String.ofList p) "r" "a" = z ++ tail "p" "r" "a" := by
    intro z
    refine ⟨z ++ ['p'],?_⟩
    simp [tail,String.toList_ofList]
  constructor
  · rintro (⟨z,hz⟩ | ⟨z,hz⟩)
    · obtain ⟨p,hp⟩ := htail z
      refine ⟨String.ofList p,"r","a","p","r","a",String.toList_inj.mp ?_⟩
      rw [toList_keyText,toList_keyText,hp,← hz,List.append_assoc]
    · obtain ⟨p,hp⟩ := htail z
      refine ⟨"p","r","a",String.ofList p,"r","a",String.toList_inj.mp ?_⟩
      rw [toList_keyText,toList_keyText,hp,← hz,List.append_assoc]
  · rintro ⟨p,r,a,p',r',a',h⟩
    have htext := congrArg String.toList h
    rw [toList_keyText,toList_keyText] at htext
    have hmine : nameText tenant principal <+: nameText tenant' principal' ++ tail p' r' a' :=
      htext ▸ List.prefix_append _ _
    exact List.prefix_or_prefix_of_prefix hmine (List.prefix_append _ _)

end

section
variable {Time : Type} [LinearOrder Time] [Add Time] [OfNat Time 3600] (B : Builtins Time)

inductive CustodyCall (Time : Type) where
  | put (providerId resourceUrl audience : String) (token : StoredToken Time) (startedAt : Option Time)
  | refresh (provider : ProviderDescriptor) (resourceUrl audience : String) (clientId : Option String)
  | revoke (providerId resourceUrl audience : String)

def CustodyCall.program (actor : ActorContext) : CustodyCall Time → Step Time Unit
  | .put providerId resourceUrl audience token startedAt =>
    OAuth.put (unguarded B) actor providerId resourceUrl audience token startedAt
  | .refresh provider resourceUrl audience clientId => do
    let _ ← OAuth.refresh (unguarded B) actor provider resourceUrl audience clientId
  | .revoke providerId resourceUrl audience => OAuth.revoke (unguarded B) actor providerId resourceUrl audience

def CustodyCall.target (tenant principal : String) : CustodyCall Time → String
  | .put providerId resourceUrl audience _ _ | .revoke providerId resourceUrl audience =>
    keyText tenant principal providerId resourceUrl audience
  | .refresh provider resourceUrl audience _ => keyText tenant principal provider.providerId resourceUrl audience

def keyOf (text : String) : Key := .token (String.ofList (Sha256.hexdigest (Base64.utf8 text)))

def written : Call Time → Option Key
  | .set key _ | .setIfAbsent key _ | .compareAndSet key _ _ | .delete key => some key
  | _ => none

def WritesOnly (key : Key) (e : Call Time) : Prop := ∀ k, written e = some k → k = key

open Prog (Heeds heeds_demand heeds_refuse heeds_ofExcept) in
theorem heeds_section (s : Section Time) : Heeds (WritesOnly s.key) (s.program B) := by
  have hfree : ∀ {e : Call Time}, written e = none → WritesOnly s.key e := by
    intro e he k hk
    rw [he] at hk
    cases hk
  have hown : ∀ {e : Call Time}, written e = some s.key → WritesOnly s.key e := by
    intro e he k hk
    rw [he] at hk
    exact (Option.some.inj hk).symm
  cases s with
  | put key record startedAt =>
    exact (heeds_demand (hfree rfl)).bind fun _ => heeds_ofExcept.bind fun _ => heeds_demand (hown rfl)
  | revoke key => exact (heeds_demand (hfree rfl)).bind fun _ => (heeds_demand (hown rfl)).bind fun _ => .ret _
  | refresh key provider audience clientId =>
    refine (heeds_demand (hfree rfl)).bind fun _ => heeds_ofExcept.bind fun _ => heeds_refuse.bind fun _ => ?_
    refine (heeds_demand (hfree rfl)).bind fun _ => (heeds_demand (hfree rfl)).bind fun _ => ?_
    refine heeds_ofExcept.bind fun _ => (heeds_demand (hfree rfl)).bind fun _ => heeds_ofExcept.bind fun _ => ?_
    refine (heeds_demand (hfree rfl)).bind fun _ => (heeds_demand (hown rfl)).bind fun _ => ?_
    exact heeds_refuse.bind fun _ => .ret _

variable {B} {S : Setting Time} {alice bob : ActorContext} {tenant principal tenant' principal' : String}

open Prog (Heeds heeds_demand heeds_refuse heeds_ofExcept) in
theorem heeds_custodyCall (halice : requireVerified alice = .ok (tenant,principal)) (c : CustodyCall Time) :
    Heeds (WritesOnly (keyOf (c.target tenant principal))) (c.program B alice) := by
  cases c with
  | put providerId resourceUrl audience token startedAt =>
    change Heeds _ (OAuth.put ..)
    unfold OAuth.put
    rw [halice]
    refine heeds_refuse.bind fun _ => Heeds.bind ?_ fun revision => heeds_section B (.put ..)
    unfold grantRevisionOf
    split_ifs with hrevision
    · exact heeds_demand fun k hk => nomatch hk
    · exact .ret _
  | refresh provider resourceUrl audience clientId =>
    change Heeds _ (Prog.bind (OAuth.refresh ..) _)
    unfold OAuth.refresh
    rw [halice]
    exact (heeds_refuse.bind fun _ => heeds_section B (.refresh ..)).bind fun _ => .ret _
  | revoke providerId resourceUrl audience =>
    change Heeds _ (OAuth.revoke ..)
    unfold OAuth.revoke
    rw [halice]
    exact (heeds_section B (.revoke ..)).bind fun _ => .ret _

omit [LinearOrder Time] [Add Time] [OfNat Time 3600] in
theorem serves_frame {s s' : Vault Time} {e : Call Time} {r : e.Answer} {key : Key} (h : Serves S s e r s')
    (hkey : written e ≠ some key) : s'.secrets key = s.secrets key := by
  have hwrite : ∀ {k : Key} {v : Option (Secret Time)}, some k ≠ some key → (s.write k v).secrets key = s.secrets key :=
    fun hk => Vault.write_of_ne fun heq => hk (congrArg some heq.symm)
  cases h with
  | set | created | swapped | deleted => exact hwrite hkey
  | _ => rfl

omit [LinearOrder Time] [Add Time] [OfNat Time 3600] in
theorem reaches_get_iff (hbob : requireVerified bob = .ok (tenant',principal')) {s : Vault Time} {p r a : String}
    {x : Option (StoredToken Time)} : (∃ s', Reaches (Serves S) (get B bob p r a) s x s') ↔
      x = usable B a (s.secrets (storageKey tenant' principal' p r a)) := by
  unfold get
  rw [hbob]
  constructor
  · rintro ⟨s',t,ht⟩
    cases ht with
    | call hw hrest =>
      cases hw with
      | refused => cases hrest
      | get =>
        obtain ⟨-,hret,-⟩ := Prog.Runs.of_ret hrest
        exact (Prog.ret.inj hret)
  · rintro rfl
    exact ⟨s,Prog.reaches_demand_bind (.get s _) .ret⟩

/-- No two of the texts that keys are made of have one digest. -/
def CollisionFree (texts : Set String) : Prop := Set.InjOn (fun text => Sha256.hexdigest (Base64.utf8 text)) texts

theorem keyOf_injOn {texts : Set String} (h : CollisionFree texts) : Set.InjOn keyOf texts := by
  intro x hx y hy heq
  exact h hx hy (String.ofList_injective (Key.token.inj heq))

def custodyPool (B : Builtins Time) (actor : ActorContext) (calls : List (CustodyCall Time)) (s : Vault Time) :
    Pool (Fin calls.length) (Call Time) Call.Answer Failure Unit (Vault Time) :=
  ⟨s,fun i => (calls.get i).program B actor⟩

theorem secrets_kept (halice : requireVerified alice = .ok (tenant,principal)) {calls : List (CustodyCall Time)}
    {s : Vault Time} {log : List (Fin calls.length × Event (Call Time) Call.Answer)}
    {d : Pool (Fin calls.length) (Call Time) Call.Answer Failure Unit (Vault Time)}
    (h : Pool.Steps (Serves S) (custodyPool B alice calls s) log d) {key : Key}
    (hkey : ∀ c ∈ calls, keyOf (c.target tenant principal) ≠ key) : d.state.secrets key = s.secrets key := by
  refine h.invariant (G := fun i _ e => WritesOnly (keyOf ((calls.get i).target tenant principal)) e)
    (I := fun _ s' => s'.secrets key = s.secrets key) (fun i => (heeds_custodyCall halice (calls.get i)).meets []) rfl ?_
  intro log i e r m m' hm hg hw
  refine (serves_frame hw ?_).trans hm
  intro hwritten
  exact hkey _ (List.get_mem ..) (hg key hwritten).symm

theorem reaches_put (halice : requireVerified alice = .ok (tenant,principal)) {s : Vault Time} {p r a : String}
    {token : StoredToken Time} {startedAt : Option Time} (haudience : token.audience = a)
    (hrevision : Scaling.strip token.grantRevision = token.grantRevision ∧ token.grantRevision ≠ "")
    (hnewer : requireNewer startedAt (s.secrets (storageKey tenant principal p r a)) = .ok ()) :
    Reaches (Serves S) (OAuth.put (unguarded B) alice p r a token startedAt) s ()
      (s.write (storageKey tenant principal p r a) (some (.token token))) := by
  unfold OAuth.put
  rw [halice]
  refine Prog.reaches_refuse_bind (not_not.mpr haudience) ?_
  unfold grantRevisionOf
  rw [hrevision.1,if_neg hrevision.2]
  refine Prog.reaches_demand_bind (.get s _) ?_
  rw [hnewer]
  exact Prog.reaches_demand (.set s _ _)

def tokenOf (owner audience : String) : StoredToken Time :=
  ⟨.string owner,.null,.string "Bearer",3600,.string "",currentKeyVersion,audience,"r"⟩

omit [LinearOrder Time] [Add Time] in
theorem usable_tokenOf (owner audience a : String) :
    (usable B a (some (.token (tokenOf owner audience)))).map (·.accessToken) =
      if audience = a then some (.string owner) else none := by
  have hrevision : Scaling.strip "r" ≠ "" := by decide +kernel
  change Option.map _ (if audience ≠ a ∨ Scaling.strip "r" = "" then none else _) = _
  split_ifs with h haudience haudience
  · exact absurd haudience (h.resolve_right hrevision)
  · rfl
  · exact congrArg (fun text => some (Json.Document.string text)) (B.str_string owner)
  · exact absurd (.inl haudience) h

def heldByBob (key : Key) (audience : String) : Vault Time :=
  Vault.write ⟨fun _ => none,[],3600⟩ key (some (.token (tokenOf "bob" audience)))

theorem put_disturbs (halice : requireVerified alice = .ok (tenant,principal)) {p r a p' r' a' : String}
    (htext : keyText tenant principal p r a = keyText tenant' principal' p' r' a') : ∃ log d, Pool.Steps (Serves S)
        (custodyPool B alice [.put p r a (tokenOf "alice" a) none] (heldByBob (storageKey tenant' principal' p' r' a') a'))
        log d ∧ usable B a' (d.state.secrets (storageKey tenant' principal' p' r' a')) ≠
        usable B a' ((heldByBob (storageKey tenant' principal' p' r' a') a').secrets
          (storageKey tenant' principal' p' r' a')) := by
  have hrevision : Scaling.strip "r" = "r" ∧ "r" ≠ "" := by decide +kernel
  have hkey : storageKey tenant principal p r a = storageKey tenant' principal' p' r' a' := by
    rw [storageKey,htext,← storageKey]
  generalize storageKey tenant' principal' p' r' a' = key at hkey
  have hheld : (heldByBob key a' : Vault Time).secrets key = some (.token (tokenOf "bob" a')) := Vault.write_self ..
  have hput : Reaches (Serves S) (OAuth.put (unguarded B) alice p r a (tokenOf "alice" a) none) (heldByBob key a') ()
      ((heldByBob key a').write key (some (.token (tokenOf "alice" a)))) := by
    rw [← hkey]
    exact reaches_put halice rfl hrevision (by rw [hkey,hheld]; rfl)
  obtain ⟨t,ht⟩ := hput
  refine ⟨_,_,Pool.Steps.of_run (c := custodyPool B alice [.put p r a (tokenOf "alice" a) none] _) (i := 0) ht rfl rfl,?_⟩
  intro hsame
  have htoken := congrArg (Option.map (·.accessToken)) hsame
  rw [hheld,Vault.write_self,usable_tokenOf,usable_tokenOf,if_pos rfl] at htoken
  split_ifs at htoken
  exact absurd htoken (by decide)

/-- What actors do to the store changes nothing for one another, and their keys are told apart, just when their names
do not overlap. -/
theorem custody_isolated_iff (halice : requireVerified alice = .ok (tenant,principal))
    (hbob : requireVerified bob = .ok (tenant',principal')) :
    ((∀ (calls : List (CustodyCall Time)) (s : Vault Time) log d p r a,
      CollisionFree (insert (keyText tenant' principal' p r a) {text | ∃ c ∈ calls, text = c.target tenant principal}) →
      Pool.Steps (Serves S) (custodyPool B alice calls s) log d →
      ∀ x, (∃ s', Reaches (Serves S) (get B bob p r a) d.state x s') ↔ ∃ s', Reaches (Serves S) (get B bob p r a) s x s') ↔
      ¬Overlap tenant principal tenant' principal') ∧
    ((∀ p r a p' r' a', CollisionFree {keyText tenant principal p r a,keyText tenant' principal' p' r' a'} →
      (storageKey tenant principal p r a).text ≠ (storageKey tenant' principal' p' r' a').text) ↔
      ¬Overlap tenant principal tenant' principal') := by
  refine ⟨⟨fun hisolated hoverlap => ?_,fun hoverlap => ?_⟩,⟨fun hdistinct hoverlap => ?_,fun hoverlap => ?_⟩⟩
  · obtain ⟨p,r,a,p',r',a',htext⟩ := overlap_iff.mp hoverlap
    obtain ⟨log,d,hsteps,hchanged⟩ := put_disturbs (B := B) (S := S) halice htext
    have hsame : ∀ text, text = keyText tenant' principal' p' r' a' ∨
        (∃ c ∈ [CustodyCall.put p r a (tokenOf "alice" a : StoredToken Time) none], text = c.target tenant principal) →
        text = keyText tenant' principal' p' r' a' := by
      rintro text (h | ⟨c,hc,h⟩)
      · exact h
      · rw [h,List.mem_singleton.mp hc]
        exact htext
    have hread := hisolated _ _ _ _ p' r' a' (fun x hx y hy _ => (hsame x hx).trans (hsame y hy).symm) hsteps
    have hbefore := (hread _).mpr ((reaches_get_iff hbob).mpr rfl)
    exact hchanged ((reaches_get_iff hbob).mp hbefore).symm
  · intro calls s log d p r a hfree h x
    rw [reaches_get_iff hbob,reaches_get_iff hbob,secrets_kept halice h]
    intro c hc heq
    have htext := keyOf_injOn hfree (.inr ⟨c,hc,rfl⟩) (.inl rfl) heq
    refine hoverlap (overlap_iff.mpr ?_)
    cases c with
    | put q t b _ _ => exact ⟨q,t,b,p,r,a,htext⟩
    | refresh provider t b _ => exact ⟨provider.providerId,t,b,p,r,a,htext⟩
    | revoke q t b => exact ⟨q,t,b,p,r,a,htext⟩
  · obtain ⟨p,r,a,p',r',a',htext⟩ := overlap_iff.mp hoverlap
    refine hdistinct p r a p' r' a' ?_ (by rw [storageKey,storageKey,htext])
    rw [htext,Set.pair_eq_singleton]
    exact Set.injOn_singleton _ _
  · intro p r a p' r' a' hfree heq
    have htext := keyOf_injOn hfree (.inl rfl) (.inr rfl) (Key.text_injective heq)
    exact hoverlap (overlap_iff.mpr ⟨p,r,a,p',r',a',htext⟩)

end

theorem custody_isolated_iff_colleagues : ((∀ (calls : List (CustodyCall ℕ)) (s : Vault ℕ) log d p r a,
      CollisionFree (insert (keyText "acme" "bob" p r a) {text | ∃ c ∈ calls, text = c.target "acme" "alice"}) →
      Pool.Steps (Serves anySetting) (custodyPool plainBuiltins ⟨" acme ","alice",true⟩ calls s) log d →
      ∀ x, (∃ s', Reaches (Serves anySetting) (get plainBuiltins ⟨"acme","bob",true⟩ p r a) d.state x s') ↔
        ∃ s', Reaches (Serves anySetting) (get plainBuiltins ⟨"acme","bob",true⟩ p r a) s x s') ↔
      ¬Overlap "acme" "alice" "acme" "bob") ∧ ¬Overlap "acme" "alice" "acme" "bob" :=
  ⟨(custody_isolated_iff (by decide +kernel) (by decide +kernel)).1,by decide +kernel⟩

/-- Line breaks in a tenant and in a principal: two actors have one key, and what one puts the other gets. -/
theorem tokens_shared : requireVerified ⟨"a\nb","c",true⟩ = .ok ("a\nb","c") ∧
    requireVerified ⟨"a","b\nc",true⟩ = .ok ("a","b\nc") ∧
    storageKey "a\nb" "c" "acme" "https://mcp" "https://mcp" = storageKey "a" "b\nc" "acme" "https://mcp" "https://mcp" ∧
    ∃ s log d x, Pool.Steps (Serves anySetting) (custodyPool plainBuiltins ⟨"a\nb","c",true⟩
        [.put "acme" "https://mcp" "https://mcp" (tokenOf "alice" "https://mcp") none] s) log d ∧
      (∃ s', Reaches (Serves anySetting)
        (get plainBuiltins ⟨"a","b\nc",true⟩ "acme" "https://mcp" "https://mcp") d.state x s') ∧
      ¬∃ s', Reaches (Serves anySetting) (get plainBuiltins ⟨"a","b\nc",true⟩ "acme" "https://mcp" "https://mcp") s x s' := by
  have halice : requireVerified ⟨"a\nb","c",true⟩ = .ok ("a\nb","c") := by decide +kernel
  have hbob : requireVerified ⟨"a","b\nc",true⟩ = .ok ("a","b\nc") := by decide +kernel
  have htext : keyText "a\nb" "c" "acme" "https://mcp" "https://mcp" =
      keyText "a" "b\nc" "acme" "https://mcp" "https://mcp" := by decide +kernel
  obtain ⟨log,d,hsteps,hchanged⟩ := put_disturbs (B := plainBuiltins) (S := anySetting) halice htext
  refine ⟨halice,hbob,by rw [storageKey,htext,← storageKey],_,log,d,_,hsteps,(reaches_get_iff hbob).mpr rfl,?_⟩
  rw [reaches_get_iff hbob]
  exact hchanged

end Arbora.OAuth
