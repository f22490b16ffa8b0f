import Arbora.OAuth.Transactions

/-! Which scopes a grant can come to have. -/
namespace Arbora.OAuth
open Interaction
open Prog (Reaches)

theorem words_append (x y : String) : words (x ++ " " ++ y) = words x ++ words y := by
  have hlist : (x ++ " " ++ y).toList = x.toList ++ ' ' :: y.toList := by
    rw [String.toList_append,String.toList_append,List.append_assoc]
    rfl
  unfold words
  rw [hlist,List.splitOnP_append_cons _ _ (by decide),List.filter_append,List.map_append]

theorem words_joined (scopes : List String) : words (joined scopes) = scopes.flatMap words := by
  induction scopes with
  | nil => rfl
  | cons scope rest ih =>
    cases rest with
    | nil => simp [joined]
    | cons next rest =>
      have hjoined : joined (scope :: next :: rest) = scope ++ " " ++ joined (next :: rest) := by
        simp [joined,String.intercalate_cons_cons]
      rw [hjoined,words_append,ih]
      rfl

theorem words_joined_subset {scopes ceiling : List String} (h : scopes ⊆ ceiling) :
    words (joined scopes) ⊆ words (joined ceiling) := by
  rw [words_joined,words_joined]
  intro word hword
  obtain ⟨scope,hscope,hword⟩ := List.mem_flatMap.mp hword
  exact List.mem_flatMap.mpr ⟨scope,h hscope,hword⟩

section
variable {Time ι : Type} [LinearOrder Time]

/-- Whoever stores the first token of a grant. -/
def starts (digest : String) : ι × Event (Call Time) Call.Answer → Option ι
  | (i,⟨.set (.token d) (.token _),.ok _⟩) | (i,⟨.locked (.put (.token d) ..),.ok _⟩) => if d = digest then some i else none
  | _ => none

omit [LinearOrder Time] in
theorem starts_error {digest : String} {i : ι} {e : Call Time} {x : Failure} :
    starts digest (i,(⟨e,.error x⟩ : Event (Call Time) Call.Answer)) = none := by
  unfold starts
  split
  · rename_i heq
    cases heq
  · rename_i heq
    cases heq
  · rfl

/-- Whoever started the grant that is kept. -/
def starter (log : Log Time ι) (digest : String) : Option ι := (log.filterMap (starts digest)).getLast?

def Flow [DecidableEq ι] (ops : ι → Operation) (log : Log Time ι) (j : ι) (tx : OAuthTransaction Time) : Prop :=
  (∃ code actor, ops j = .callback code tx.state actor tx.browserSessionId) ∧ Consumed tx.state (Pool.own j log) tx

variable [DecidableEq ι] {B : Builtins Time} {ops : ι → Operation} {log rest : Log Time ι} {digest : String}
  {record : StoredToken Time} {x : ι × Event (Call Time) Call.Answer}

omit [LinearOrder Time] [DecidableEq ι] in
theorem starter_snoc_none (h : starts digest x = none) : starter (log ++ [x]) digest = starter log digest := by
  unfold starter
  rw [List.filterMap_append,List.filterMap_cons_none h,List.filterMap_nil,List.append_nil]

omit [LinearOrder Time] [DecidableEq ι] in
theorem starter_snoc_some {i : ι} (h : starts digest x = some i) : starter (log ++ [x]) digest = some i := by
  unfold starter
  rw [List.filterMap_append,List.filterMap_cons_some h,List.filterMap_nil,List.getLast?_concat]

variable {j : ι} {y : Event (Call Time) Call.Answer}

omit [LinearOrder Time] [DecidableEq ι] in
theorem eq_of_starts {i : ι} (h : starts digest (i,y) = some j) : j = i := by
  unfold starts at h
  split at h
  · rename_i heq
    split_ifs at h
    cases heq
    exact (Option.some.inj h).symm
  · rename_i heq
    split_ifs at h
    cases heq
    exact (Option.some.inj h).symm
  · cases h

omit [LinearOrder Time] [DecidableEq ι] in
theorem starter_run {i : ι} {t : History Time} (h : ∃ y ∈ t, starts digest (i,y) = some i) :
    starter (log ++ t.map fun y => (i,y)) digest = some i := by
  obtain ⟨y,hy,hstarts⟩ := h
  have hmem : i ∈ (t.map fun y => (i,y)).filterMap (starts digest) :=
    List.mem_filterMap.mpr ⟨(i,y),List.mem_map.mpr ⟨y,hy,rfl⟩,hstarts⟩
  unfold starter
  rw [List.filterMap_append,List.getLast?_append_of_ne_nil _ (List.ne_nil_of_mem hmem),
    List.getLast?_eq_some_getLast (List.ne_nil_of_mem hmem)]
  obtain ⟨x,hx,hlast⟩ := List.mem_filterMap.mp (List.getLast_mem (List.ne_nil_of_mem hmem))
  obtain ⟨z,-,rfl⟩ := List.mem_map.mp hx
  exact congrArg some (eq_of_starts hlast)

theorem Flow.later {tx : OAuthTransaction Time} (h : Flow ops log j tx) : Flow ops (log ++ rest) j tx := by
  obtain ⟨hop,t,ht,hrun⟩ := h
  exact ⟨hop,t,ht.trans (Pool.own_append j log rest ▸ List.prefix_append _ _),hrun⟩

def Current (B : Builtins Time) (ops : ι → Operation) (log : Log Time ι) (digest : String) (record : StoredToken Time) : Prop :=
  ∃ j tx, starter log digest = some j ∧ Flow ops log j tx ∧ words (B.str record.grantedScope) ⊆ words tx.scope
def Ever (B : Builtins Time) (ops : ι → Operation) (log : Log Time ι) (digest : String) (record : StoredToken Time) : Prop :=
  ∃ earlier, earlier <+: log ∧ Current B ops earlier digest record

theorem Current.later (h : Current B ops log digest record) (hx : starts digest x = none) :
    Current B ops (log ++ [x]) digest record := by
  obtain ⟨j,tx,hstarter,hflow,hwords⟩ := h
  exact ⟨j,tx,(starter_snoc_none hx).trans hstarter,hflow.later,hwords⟩

theorem Ever.later (h : Ever B ops log digest record) : Ever B ops (log ++ rest) digest record := by
  obtain ⟨earlier,hearlier,hcurrent⟩ := h
  exact ⟨earlier,hearlier.trans (List.prefix_append _ _),hcurrent⟩

/-- Where a refreshed record is to take the place of the one that was read: the scope of the response is within that
of the flow which started the grant. -/
def Narrow (B : Builtins Time) (log : Log Time ι) (s : Vault Time) (i : ι) (e : Call Time) : Prop :=
  ∀ digest raw value, e = .compareAndSet (.token digest) raw value → s.secrets (.token digest) = some raw →
    ∀ endpoint clientId refreshToken payload, (i,⟨.exchangeRefresh endpoint clientId refreshToken,.ok payload⟩) ∈ log →
    ∀ scope, payload.lookup "scope" = some scope →
    ∀ j tx, starter log digest = some j → Consumed tx.state (Pool.own j log) tx → words (B.str scope) ⊆ words tx.scope

structure Bounded (B : Builtins Time) (ops : ι → Operation) (log : Log Time ι) (s : Vault Time) : Prop where
  kept : ∀ {digest record}, s.secrets (.token digest) = some (.token record) → Current B ops log digest record
  rotated : ∀ {i digest raw record}, (i,⟨.compareAndSet (.token digest) raw (.token record),.ok true⟩) ∈ log →
    Ever B ops log digest record
  read : ∀ {i digest record}, (i,⟨.get (.token digest),.ok (some (.token record))⟩) ∈ log → Ever B ops log digest record

variable {S : Setting Time} {s s' : Vault Time} {i : ι} {e : Call Time} {r : e.Answer}

theorem Bounded.later (h : Bounded B ops log s) (hstarts : ∀ digest, starts digest (i,y) = none)
    (hrotates : ∀ digest raw record, y ≠ ⟨.compareAndSet (.token digest) raw (.token record),.ok true⟩)
    (hreads : ∀ digest record, y ≠ ⟨.get (.token digest),.ok (some (.token record))⟩)
    (hkept : ∀ digest record, s'.secrets (.token digest) = some (.token record) →
      s.secrets (.token digest) = some (.token record)) : Bounded B ops (log ++ [(i,y)]) s' where
  kept hrecord := (h.kept (hkept _ _ hrecord)).later (hstarts _)
  rotated hk := (h.rotated (mem_snoc_of_ne hk (hrotates _ _ _))).later
  read hk := (h.read (mem_snoc_of_ne hk (hreads _ _))).later

theorem bounded_step (h : Bounded B ops log s) (hc : Narrow B log s i e) (hg : Allowed B True (ops i) (Pool.own i log) e)
    (hw : Serves S s e r s') : Bounded B ops (log ++ [(i,⟨e,r⟩)]) s' := by
  have hothers : ∀ {key : Key} {v : Option (Secret Time)}, (∀ d, key ≠ .token d) → ∀ digest record,
      (s.write key v).secrets (.token digest) = some (.token record) → s.secrets (.token digest) = some (.token record) := by
    intro key v hkey digest record hrecord
    rwa [Vault.write_of_ne (Ne.symm (hkey digest))] at hrecord
  cases hw with
  | set _ key value =>
    have hrotates : ∀ digest raw record, (⟨.set key value,.ok ()⟩ : Event (Call Time) Call.Answer) ≠
        ⟨.compareAndSet (.token digest) raw (.token record),.ok true⟩ := fun _ _ _ => nofun
    cases key with
    | transaction state =>
      exact h.later (fun _ => rfl) hrotates (fun _ _ => nofun) (hothers fun _ => nofun)
    | client providerId => exact hg.elim
    | token d =>
      cases value with
      | transaction tx => exact hg.elim
      | text text => exact hg.elim
      | revoked revokedAt =>
        refine h.later (fun _ => rfl) hrotates (fun _ _ => nofun) fun digest record hrecord => ?_
        by_cases hd : digest = d
        · rw [hd,Vault.write_self] at hrecord
          cases hrecord
        · rwa [Vault.write_of_ne (fun heq => hd (Key.token.inj heq))] at hrecord
      | token record =>
        obtain ⟨-,startedAt,code,state,actor,tx,provider,payload,hop,hlanding,-⟩ := hg
        have hconsumed := hlanding.consumed
        obtain ⟨t,ht,hrun⟩ := hconsumed
        have hstate := (claimed_of_runs B hrun).state
        refine ⟨fun {digest record'} hrecord => ?_,fun hk => (h.rotated (mem_snoc_of_ne hk (hrotates _ _ _))).later,
          fun hk => (h.read (mem_snoc_of_ne hk nofun)).later⟩
        by_cases hd : digest = d
        · subst hd
          rw [Vault.write_self] at hrecord
          cases hrecord
          refine ⟨i,tx,starter_snoc_some (if_pos rfl),Flow.later ⟨⟨code,actor,hstate ▸ hop⟩,hstate ▸ hlanding.consumed⟩,?_⟩
          rw [hlanding.scope,B.str_string]
          exact hlanding.narrowed
        · rw [Vault.write_of_ne (fun heq => hd (Key.token.inj heq))] at hrecord
          exact (h.kept hrecord).later (if_neg (Ne.symm hd))
  | swapped _ key raw value hheld =>
    cases key with
    | transaction state =>
      exact h.later (fun _ => rfl) (fun _ _ _ => nofun) (fun _ _ => nofun) (hothers fun _ => nofun)
    | client providerId => exact hg.elim
    | token d =>
      obtain ⟨-,current,record,rfl,rfl,endpoint,clientId,payload,accessToken,expiresAt,audience,revision,hpayload,hrefreshed⟩ := hg
      obtain ⟨j,tx,hstarter,hflow,hwords⟩ := h.kept hheld
      have hnew : Current B ops (log ++ [(i,⟨.compareAndSet (.token d) (.token current) (.token record),.ok true⟩)]) d record := by
        refine ⟨j,tx,(starter_snoc_none rfl).trans hstarter,hflow.later,?_⟩
        rw [hrefreshed]
        cases hscope : payload.lookup "scope" with
        | none =>
          change words (B.str ((payload.lookup "scope").getD current.grantedScope)) ⊆ _
          rw [hscope]
          exact hwords
        | some scope =>
          change words (B.str ((payload.lookup "scope").getD current.grantedScope)) ⊆ _
          rw [hscope]
          exact hc d _ _ rfl hheld endpoint clientId _ payload (Pool.mem_own.mp hpayload) scope hscope j tx hstarter hflow.2
      refine ⟨fun {digest record'} hrecord => ?_,fun {k digest raw record'} hk => ?_,
        fun hk => (h.read (mem_snoc_of_ne hk nofun)).later⟩
      · by_cases hd : digest = d
        · subst hd
          rw [Vault.write_self] at hrecord
          cases hrecord
          exact hnew
        · rw [Vault.write_of_ne (fun heq => hd (Key.token.inj heq))] at hrecord
          exact (h.kept hrecord).later rfl
      · rcases List.mem_append.mp hk with hk | hk
        · exact (h.rotated hk).later
        · cases List.mem_singleton.mp hk
          exact ⟨_,List.prefix_refl _,hnew⟩
  | created _ key value hnone =>
    cases key with
    | client providerId =>
      exact h.later (fun _ => rfl) (fun _ _ _ => nofun) (fun _ _ => nofun) (hothers fun _ => nofun)
    | transaction state => exact hg.elim
    | token d => exact hg.elim
  | deleted _ key =>
    cases key with
    | transaction state =>
      exact h.later (fun _ => rfl) (fun _ _ _ => nofun) (fun _ _ => nofun) (hothers fun _ => nofun)
    | client providerId => exact hg.elim
    | token d => exact hg.elim
  | refused e x =>
    exact h.later (fun _ => starts_error) (fun _ _ _ heq => by cases heq) (fun _ _ heq => by cases heq)
      fun _ _ hrecord => hrecord
  | stale =>
    exact h.later (fun _ => rfl) (fun _ _ _ heq => by cases heq) (fun _ _ heq => by cases heq)
      fun _ _ hrecord => hrecord
  | get _ key =>
    refine ⟨fun hrecord => (h.kept hrecord).later rfl,fun hk => (h.rotated (mem_snoc_of_ne hk nofun)).later,
      fun {k digest record} hk => ?_⟩
    rcases List.mem_append.mp hk with hk | hk
    · exact (h.read hk).later
    · have hanswer := (Prod.mk.inj (List.mem_singleton.mp hk)).2
      obtain ⟨hkey,hread⟩ := Sigma.mk.inj hanswer
      obtain rfl := Call.get.inj hkey
      have hheld : some (Secret.token record) = s.secrets (.token digest) := Except.ok.inj (eq_of_heq hread)
      exact ⟨log,List.prefix_append _ _,h.kept hheld.symm⟩
  | _ => exact h.later (fun _ => rfl) (fun _ _ _ => nofun) (fun _ _ => nofun) fun _ _ hrecord => hrecord

end

section
variable {Time ι : Type} [LinearOrder Time] [Add Time] [OfNat Time 300] [OfNat Time 3600] [DecidableEq ι]
  {S : Setting Time} {B : Builtins Time} {ops : ι → Operation} {s : Vault Time} {log : Log Time ι}
  {d : Pool ι (Call Time) Call.Answer Failure (Outcome Time) (Vault Time)}

def WithinProvider (log : Log Time ι) (tx : OAuthTransaction Time) : Prop :=
  ∃ j providerId provider, (j,setEvent tx.state (.transaction tx)) ∈ log ∧
    (j,⟨.provider providerId,.ok (some provider)⟩) ∈ log ∧ words tx.scope ⊆ words (joined provider.scopes)

theorem withinProvider (hempty : ∀ key, s.secrets key = none)
    (h : Pool.Steps (Serves S) (flows B (unguarded B) ops s) log d) {i : ι} {tx : OAuthTransaction Time}
    (hconsumed : Consumed tx.state (Pool.own i log) tx) : WithinProvider log tx := by
  have hconsistent : Consistent log d.state := consistent (fun _ hw => .inl hw) respects_unguarded (fun _ => hempty _) h
  obtain ⟨t,ht,hrun⟩ := hconsumed
  have hclaim := Pool.mem_own.mp (ht.subset (claimed_of_runs B hrun).won)
  obtain ⟨j,tx',hset,hsame,-⟩ := (hconsistent.standing tx.state).of_claim hclaim
  obtain rfl := Secret.transaction.inj hsame
  obtain ⟨u,rest,hown,tx',heq,-,hdrawn⟩ := allowed_of_mem respects_unguarded h hset
  obtain rfl := Secret.transaction.inj heq
  obtain ⟨providerId,actor,requested,provider,scopes,-,hlisted,-,-,-,hscope,heffective⟩ := hdrawn.asked
  refine ⟨j,providerId,provider,hset,Pool.mem_own.mp (hown ▸ List.mem_append_left _ hlisted),?_⟩
  rw [hscope]
  exact words_joined_subset (subset_of_effectiveScopes heffective)

def NotWidened (B : Builtins Time) (ops : ι → Operation) (log earlier : Log Time ι) (digest : String)
    (scope : Json.Document) : Prop :=
  ∃ j tx, earlier <+: log ∧ starter earlier digest = some j ∧ Flow ops log j tx ∧ WithinProvider log tx ∧
    words (B.str scope) ⊆ words tx.scope

theorem notWidened_of_current (hempty : ∀ key, s.secrets key = none)
    (h : Pool.Steps (Serves S) (flows B (unguarded B) ops s) log d) {earlier : Log Time ι} {digest : String}
    {record : StoredToken Time} (hearlier : earlier <+: log) (hcurrent : Current B ops earlier digest record) :
    NotWidened B ops log earlier digest record.grantedScope := by
  obtain ⟨j,tx,hstarter,hflow,hwords⟩ := hcurrent
  obtain ⟨rest,rfl⟩ := hearlier
  exact ⟨j,tx,List.prefix_append _ _,hstarter,hflow.later,withinProvider hempty h hflow.later.2,hwords⟩

/-- Where every response that a refresh stores keeps to the scopes of the flow, no token that is kept, returned or put
in a header has ever more; and headers are made of live tokens for the very resource. -/
theorem grants_not_widened (hempty : ∀ key, s.secrets key = none)
    (h : Pool.StepsWhere (Serves S) (Narrow B) (flows B (unguarded B) ops s) log d) :
    (∀ digest record, d.state.secrets (.token digest) = some (.token record) →
      NotWidened B ops log log digest record.grantedScope) ∧ (∀ i token, d.procs i = .ret (.token token) →
      (∃ tx, Flow ops log i tx ∧ WithinProvider log tx ∧ words (B.str token.grantedScope) ⊆ words tx.scope) ∨
      ∃ earlier digest raw, (i,⟨.compareAndSet (.token digest) raw (.token token),.ok true⟩) ∈ log ∧
        NotWidened B ops log earlier digest token.grantedScope) ∧
    ∀ i authorization, d.procs i = .ret (.headers authorization) → ∃ actor providerId provider tenant principal digest
      record now earlier, ops i = .bearer actor providerId provider.resourceUrl ∧
      requireVerified actor = .ok (tenant,principal) ∧ (i,⟨.provider providerId,.ok (some provider)⟩) ∈ log ∧
      .token digest = storageKey tenant principal provider.providerId provider.resourceUrl provider.resourceUrl ∧
      (i,⟨.get (.token digest),.ok (some (.token record))⟩) ∈ log ∧ (i,⟨.time,.ok now⟩) ∈ log ∧ now < record.expiresAt ∧
      record.audience = provider.resourceUrl ∧ authorization = B.str record.tokenType ++ " " ++ B.str record.accessToken ∧
      NotWidened B ops log earlier digest record.grantedScope := by
  have hbounded : Bounded B ops log d.state := by
    refine h.invariant (G := fun i => Allowed B True (ops i)) (Q := fun _ _ _ => True) (X := fun _ _ _ => True)
      (I := Bounded B ops) (fun i => (program_meets respects_unguarded (ops i)).mono (fun _ _ hg => hg)
        (fun _ _ _ => trivial) fun _ _ hx => hx) ⟨fun {digest record} hrecord => ?_,(nomatch ·),(nomatch ·)⟩ ?_
    · have hnone : s.secrets (.token digest) = some (.token record) := hrecord
      rw [hempty] at hnone
      cases hnone
    · intro log i e r m m' hm hc hg hw
      exact bounded_step hm hc hg hw
  have hfinished : ∀ {i outcome}, d.procs i = .ret outcome → Finished B _ (ops i) (Pool.own i log) outcome :=
    fun {i outcome} hi => (h.steps.meets i (program_meets respects_unguarded (ops i))).returned hi
  refine ⟨fun digest record hrecord => ?_,fun i token hi => ?_,fun i authorization hi => ?_⟩
  · exact notWidened_of_current hempty h.steps (List.prefix_refl _) (hbounded.kept hrecord)
  · rcases hfinished hi with ⟨digest,record,startedAt,hlanded,-,hsame⟩ | ⟨digest,raw,hrotated⟩
    · obtain ⟨code,state,actor,tx,provider,payload,hop,hlanding,-⟩ := hlanded
      have hconsumed := hlanding.consumed
      obtain ⟨t,ht,hrun⟩ := hconsumed
      obtain rfl := (claimed_of_runs B hrun).state
      refine .inl ⟨tx,⟨⟨code,actor,hop⟩,hlanding.consumed⟩,withinProvider hempty h.steps hlanding.consumed,?_⟩
      rw [← hsame,hlanding.scope,B.str_string]
      exact hlanding.narrowed
    · have hmine := Pool.mem_own.mp hrotated
      obtain ⟨earlier,hearlier,hcurrent⟩ := hbounded.rotated hmine
      exact .inr ⟨earlier,digest,raw,hmine,notWidened_of_current hempty h.steps hearlier hcurrent⟩
  · obtain ⟨actor,providerId,provider,tenant,principal,digest,record,now,hop,hverified,hlisted,hkey,hread,hnow,hlive,
      haudience,-,hheader⟩ := hfinished hi
    obtain ⟨earlier,hearlier,hcurrent⟩ := hbounded.read (Pool.mem_own.mp hread)
    exact ⟨actor,providerId,provider,tenant,principal,digest,record,now,earlier,hop,hverified,Pool.mem_own.mp hlisted,hkey,
      Pool.mem_own.mp hread,Pool.mem_own.mp hnow,hlive,haudience,hheader,
      notWidened_of_current hempty h.steps hearlier hcurrent⟩

end

def renewed : Fin 3 → Operation
  | 0 => .begin "acme" alice "browser" (some ["read"])
  | 1 => .callback "code" "s1" alice "browser"
  | 2 => .refresh alice acme "https://mcp" "https://mcp" none

theorem renewed_begins {k : Fin 3} {providerId session : String} {actor : ActorContext} {requested : Option (List String)}
    (h : renewed k = .begin providerId actor session requested) : requested = some ["read"] := by
  match k with
  | 0 => exact (Operation.begin.inj h).2.2.2.symm
  | 1 => cases h
  | 2 => cases h

def renewal (payload : Payload) : StoredToken ℕ :=
  refreshed (tokenFor (aliceFlow "s1" ["read"] 1) acme "secret" "r" 3) payload (.string "fresh") (4+3600) "https://mcp" "r2"

theorem renewed_runs {W : World (Call ℕ) Call.Answer (Vault ℕ)} (hW : Follows anySetting W) (payload : Payload)
    (hpayload : payload.lookup "access_token" = some (.string "fresh")) (hexpires : payload.lookup "expires_in" = none)
    (hexchange : ∀ s endpoint clientId token, W s (.exchangeRefresh endpoint clientId token) (.ok payload) s) :
    ∃ log d, Pool.Steps W (flows plainBuiltins (unguarded plainBuiltins) renewed vacant) log d ∧
      d.state.secrets aliceKey = some (.token (renewal payload)) := by
  have hlisted : anySetting.listed "acme" (some acme) := by
    rintro p ⟨⟩
    rfl
  have hnewer : requireNewer (some 1) (none : Option (Secret ℕ)) = .ok () := rfl
  obtain ⟨url,hbegin⟩ : ∃ url, Reaches W (begin "acme" alice "browser" (some ["read"])) vacant url
    (vacant.opened "s1" ["read"] 1) := alice_begins hW hlisted trivial (by decide) (by decide)
  have hlands : Reaches W (callback plainBuiltins (unguarded plainBuiltins) "code" "s1" alice "browser")
      (vacant.opened "s1" ["read"] 1) (tokenFor (aliceFlow "s1" ["read"] 1) acme "secret" "r" 3)
      ((vacant.opened "s1" ["read"] 1).landed "s1" ["read"] 1 3) :=
    alice_lands hW hlisted trivial trivial (by decide +kernel) (Vault.write_self ..) (by decide)
      (reaches_putSection hW hnewer)
  have hrenews : Reaches W (refresh (unguarded plainBuiltins) alice acme "https://mcp" "https://mcp" none)
      ((vacant.opened "s1" ["read"] 1).landed "s1" ["read"] 1 3) (renewal payload)
      (Vault.write { (vacant.opened "s1" ["read"] 1).landed "s1" ["read"] 1 3 with now := 4 } aliceKey
        (some (.token (renewal payload)))) :=
    reaches_refresh hW alice_verified rfl (by decide) (Vault.write_self ..) rfl (hexchange _ _ _ _)
      (by rw [requireAccessToken,hpayload]) (by rw [expiresIn,hexpires]) trivial
  have hstart : Pool.Steps W (flows plainBuiltins (unguarded plainBuiltins) renewed vacant) []
    (flows plainBuiltins (unguarded plainBuiltins) renewed vacant) := .refl
  have hfirst : Reaches W ((renewed 0).program plainBuiltins (unguarded plainBuiltins)) vacant (.url url)
    (vacant.opened "s1" ["read"] 1) := hbegin.bind .ret
  have hsecond : Reaches W ((renewed 1).program plainBuiltins (unguarded plainBuiltins))
    (vacant.opened "s1" ["read"] 1) (.token _) ((vacant.opened "s1" ["read"] 1).landed "s1" ["read"] 1 3) := hlands.bind .ret
  obtain ⟨log,h⟩ := steps_then hstart rfl hfirst
  obtain ⟨log',h'⟩ := steps_then h rfl hsecond
  obtain ⟨log'',h''⟩ := steps_then (i := 2) h' rfl (hrenews.bind .ret)
  exact ⟨_,_,h'',Vault.write_self ..⟩

theorem widens : ¬words (plainBuiltins.str (.string "read write")) ⊆ words (joined ["read"]) := by decide +kernel

/-- A response that names more than was asked for is kept, still below what the provider is configured for. -/
theorem grant_widened : ∃ log d,
    Pool.Steps (Serves anySetting) (flows plainBuiltins (unguarded plainBuiltins) renewed vacant) log d ∧
    ∃ digest record, d.state.secrets (.token digest) = some (.token record) ∧
      ∀ earlier, ¬NotWidened plainBuiltins renewed log earlier digest record.grantedScope := by
  obtain ⟨log,d,h,hheld⟩ := renewed_runs follows_serves [("access_token",.string "fresh"),("scope",.string "read write")] rfl rfl
    fun s endpoint clientId token => .exchangeRefresh s endpoint clientId token _
  refine ⟨log,d,h,_,_,hheld,?_⟩
  rintro earlier ⟨j,tx,-,-,⟨⟨code,actor,hop⟩,hconsumed⟩,-,hwords⟩
  have hconsistent : Consistent log d.state := consistent (fun _ hw => .inl hw) respects_unguarded (fun _ => rfl) h
  obtain ⟨t,ht,hrun⟩ := hconsumed
  have hclaim := Pool.mem_own.mp (ht.subset (claimed_of_runs plainBuiltins hrun).won)
  obtain ⟨k,tx',hset,hsame,-⟩ := (hconsistent.standing tx.state).of_claim hclaim
  obtain rfl := Secret.transaction.inj hsame
  obtain ⟨u,rest,-,tx',heq,-,hdrawn⟩ := allowed_of_mem respects_unguarded h hset
  obtain rfl := Secret.transaction.inj heq
  obtain ⟨providerId,actor,requested,provider,scopes,hbegun,-,-,-,-,hscope,heffective⟩ := hdrawn.asked
  rw [renewed_begins hbegun] at heffective
  obtain rfl : ["read"] = scopes := by
    dsimp only [effectiveScopes] at heffective
    split_ifs at heffective
    exact Except.ok.inj heffective
  rw [hscope] at hwords
  exact absurd hwords widens

def Silent : World (Call ℕ) Call.Answer (Vault ℕ) := fun s e r s' => Serves anySetting s e r s' ∧
  ∀ endpoint clientId token payload, (⟨e,r⟩ : Event (Call ℕ) Call.Answer) = ⟨.exchangeRefresh endpoint clientId token,.ok payload⟩ →
    payload.lookup "scope" = none

theorem grants_not_widened_alice : ∃ log d,
    Pool.StepsWhere (Serves anySetting) (Narrow plainBuiltins) (flows plainBuiltins (unguarded plainBuiltins) renewed vacant)
      log d ∧ ∃ digest, d.state.secrets (.token digest) = some (.token (renewal [("access_token",.string "fresh")])) ∧
      NotWidened plainBuiltins renewed log log digest (.string "read") := by
  have hfollows : Follows anySetting Silent := by
    intro s e r s' _ he hw
    exact ⟨hw,fun endpoint clientId token payload heq => absurd (Sigma.mk.inj heq).1 (he _ _ _)⟩
  obtain ⟨log,d,h,hheld⟩ := renewed_runs hfollows [("access_token",.string "fresh")] rfl rfl
    fun s endpoint clientId token => ⟨.exchangeRefresh s endpoint clientId token _,fun _ _ _ _ heq => by cases heq; rfl⟩
  have hwhere : Pool.StepsWhere (Serves anySetting) (Narrow plainBuiltins)
      (flows plainBuiltins (unguarded plainBuiltins) renewed vacant) log d := by
    refine h.heeding (fun hw => hw.1) ?_
    intro log d i e k r s h _ _ digest raw value _ _ endpoint clientId refreshToken payload hpayload scope hscope
    obtain ⟨m,m',-,hsilent⟩ := h.answered hpayload
    rw [hsilent _ _ _ _ rfl] at hscope
    cases hscope
  exact ⟨log,d,hwhere,_,hheld,(grants_not_widened (fun _ => rfl) hwhere).1 _ _ hheld⟩

/-! What a section leaves in the store. -/
open Prog (meets_demand_bind meets_ofExcept_bind meets_refuse_bind)

section
variable {Time : Type} {S : Setting Time} {s s' m : Vault Time}

/-- At most the clock has gone on. -/
structure Idle (S : Setting Time) (s s' : Vault Time) : Prop where
  secrets : s'.secrets = s.secrets
  issued : s'.issued = s.issued
  now : s'.now = s.now ∨ S.tick s.now s'.now

theorem Idle.refl (s : Vault Time) : Idle S s s := ⟨rfl,rfl,.inl rfl⟩

theorem meets_serves_bind {α : Type} {e : Call Time} {f : e.Result → Step Time α} {Q : Vault Time → α → Prop}
    (hidle : Idle S s m) (hf : ∀ a m', Serves S m e (.ok a) m' →
      (f a).Meets (Serves S) (fun _ _ => True) Q (fun s' _ => Idle S s s') m') :
    ((ask e).bind f).Meets (Serves S) (fun _ _ => True) Q (fun s' _ => Idle S s s') m := by
  refine meets_demand_bind.mpr ⟨trivial,fun r m' hw => ⟨?_,?_⟩⟩
  · rintro x rfl
    cases hw
    exact hidle
  · rintro a rfl
    exact hf a m' hw

theorem serves_get {key : Key} {v : Option (Secret Time)} (h : Serves S s (.get key) (.ok v) s') : v = s.secrets key := by
  cases h
  rfl

variable [LinearOrder Time]

def Section.Done (S : Setting Time) (s s' : Vault Time) : (sec : Section Time) → sec.Result → Prop
  | .put key record startedAt, _ =>
    requireNewer startedAt (s.secrets key) = .ok () ∧ s' = s.write key (some (.token record))
  | .refresh key .., record => ∃ current m, s.secrets key = some (.token current) ∧ Idle S s m ∧
    s' = m.write key (some (.token record))
  | .revoke key, now => S.tick s.now now ∧ s' = Vault.write { s with now := now } key (some (.revoked (some now)))

variable [Add Time] [OfNat Time 3600] {B : Builtins Time}

theorem section_meets (sec : Section Time) :
    (sec.program B).Meets (Serves S) (fun _ _ => True) (fun s' a => sec.Done S s s' a) (fun s' _ => Idle S s s') s := by
  cases sec with
  | put key record startedAt =>
    refine meets_serves_bind (.refl s) fun raw m hw => ?_
    cases hw
    refine meets_ofExcept_bind.mpr ⟨fun _ _ => .refl s,fun _ hnewer => ?_⟩
    rw [← Prog.bind_ret (ask _)]
    refine meets_serves_bind (.refl s) fun _ m hw => ?_
    cases hw
    exact ⟨hnewer,rfl⟩
  | revoke key =>
    refine meets_serves_bind (.refl s) fun now m hw => ?_
    cases hw with
    | time _ _ htick =>
      refine meets_serves_bind ⟨rfl,rfl,.inr htick⟩ fun _ m hw => ?_
      cases hw
      exact ⟨htick,rfl⟩
  | refresh key provider audience clientId =>
    refine meets_serves_bind (.refl s) fun raw m hw => ?_
    cases hw
    refine meets_ofExcept_bind.mpr ⟨fun _ _ => .refl s,fun current _ => ?_⟩
    refine meets_refuse_bind.mpr ⟨fun _ => .refl s,fun _ => ?_⟩
    refine meets_serves_bind (.refl s) fun metadata m hw => ?_
    cases hw
    refine meets_serves_bind (.refl s) fun payload m hw => ?_
    cases hw
    refine meets_ofExcept_bind.mpr ⟨fun _ _ => .refl s,fun accessToken _ => ?_⟩
    refine meets_serves_bind (.refl s) fun now m hw => ?_
    cases hw with
    | time _ _ htick =>
      have hidle : Idle S s { s with now := now } := ⟨rfl,rfl,.inr htick⟩
      refine meets_ofExcept_bind.mpr ⟨fun _ _ => hidle,fun seconds _ => ?_⟩
      refine meets_serves_bind hidle fun revision m hw => ?_
      cases hw
      refine meets_serves_bind hidle fun rotated m hw => ?_
      cases hw with
      | swapped _ _ _ _ hheld =>
        exact ⟨current,_,hheld,hidle,rfl⟩
      | stale => exact meets_refuse_bind.mpr ⟨fun _ => hidle,fun hn => absurd rfl hn⟩

variable {sec : Section Time}

variable {bare : Prop} {a : sec.Result} {op : Operation} {h : History Time}

theorem section_done (h : SerialServes B S s (.locked sec) (.ok a) s') : sec.Done S s s' a := by
  obtain ⟨t,ht⟩ := h
  exact (section_meets sec).runs ht

theorem section_idle {x : Failure} (h : SerialServes B S s (.locked sec) (.error x) s') : Idle S s s' := by
  obtain ⟨t,ht⟩ := h
  exact (section_meets sec).runs ht

omit [Add Time] [OfNat Time 3600] in
theorem token_of_allowed (hg : Allowed B bare op h (.locked sec)) : ∃ digest, sec.key = .token digest := by
  cases sec with
  | put key | refresh key | revoke key =>
    cases key with
    | token digest => exact ⟨digest,rfl⟩
    | transaction | client => exact hg.elim

omit [Add Time] [OfNat Time 3600] in
theorem done_steady {digest : String} (hkey : sec.key = .token digest) (h : sec.Done S s s' a) :
    s'.issued = s.issued ∧ ∀ state, s'.secrets (.transaction state) = s.secrets (.transaction state) := by
  have hother : ∀ state, Key.transaction state ≠ .token digest := fun _ => nofun
  cases sec with
  | put key record startedAt =>
    obtain rfl : key = .token digest := hkey
    obtain ⟨-,rfl⟩ := h
    exact ⟨rfl,fun state => Vault.write_of_ne (hother state)⟩
  | refresh key =>
    obtain rfl : key = .token digest := hkey
    obtain ⟨current,m,-,hidle,rfl⟩ := h
    exact ⟨hidle.issued,fun state => (Vault.write_of_ne (hother state)).trans (congrFun hidle.secrets _)⟩
  | revoke key =>
    obtain rfl : key = .token digest := hkey
    obtain ⟨-,rfl⟩ := h
    exact ⟨rfl,fun state => Vault.write_of_ne (hother state)⟩

theorem steady_serial {e : Call Time} {r : e.Answer}
    (hg : Allowed B bare op h e) (hw : SerialServes B S s e r s') : Steady S s e r s' := by
  cases e with
  | locked sec =>
    refine .inr ⟨⟨sec,rfl⟩,?_⟩
    obtain ⟨digest,hkey⟩ := token_of_allowed hg
    cases r with
    | error x =>
      have hidle := section_idle hw
      exact ⟨hidle.issued,fun state => congrFun hidle.secrets _⟩
    | ok a => exact done_steady hkey (section_done hw)
  | _ => exact .inl hw

end

end Arbora.OAuth
