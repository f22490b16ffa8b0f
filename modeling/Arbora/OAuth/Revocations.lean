import Arbora.OAuth.Scopes

/-! Whose tokens there are after a revocation. -/
namespace Arbora.OAuth
open Interaction
open Prog (Reaches)

section
variable {Time ι : Type} [LinearOrder Time] {B : Builtins Time} {S : Setting Time} {ops : ι → Operation}
  {log rest : Log Time ι} {digest : String} {r : Time} {s s' : Vault Time}

def Revoked (log : Log Time ι) (digest : String) (r : Time) : Prop :=
  ∃ i, (i,⟨.locked (.revoke (.token digest)),.ok r⟩) ∈ log

/-- Where a flow that is older than a revocation is to store its token, there still is a tombstone. -/
def Undisturbed (log : Log Time ι) (s : Vault Time) (_ : ι) (e : Call Time) : Prop :=
  ∀ digest record startedAt r, e = .locked (.put (.token digest) record (some startedAt)) → Revoked log digest r →
    startedAt ≤ r → ∃ v, s.secrets (.token digest) = some (.revoked v)

variable [DecidableEq ι]

structure Final (ops : ι → Operation) (log : Log Time ι) (s : Vault Time) : Prop where
  clock : ∀ {digest r}, Revoked log digest r → r ≤ s.now
  tombstone : ∀ {digest v}, s.secrets (.token digest) = some (.revoked v) →
    ∃ t, v = some t ∧ ∀ r, Revoked log digest r → r ≤ t
  kept : ∀ {digest record}, s.secrets (.token digest) = some (.token record) → ∃ j tx, starter log digest = some j ∧
    Flow ops log j tx ∧ ∀ r, Revoked log digest r → r < tx.createdAt

variable {i : ι} {e : Call Time} {a : e.Answer} {y : Event (Call Time) Call.Answer}

omit [LinearOrder Time] [DecidableEq ι] in
theorem revoked_of_snoc (hy : ∀ digest r, y ≠ ⟨.locked (.revoke (.token digest)),.ok r⟩)
    (h : Revoked (log ++ [(i,y)]) digest r) : Revoked log digest r := by
  obtain ⟨j,hj⟩ := h
  exact ⟨j,mem_snoc_of_ne hj (hy digest r)⟩

theorem Final.later (h : Final ops log s) (hstarts : ∀ digest, starts digest (i,y) = none)
    (hy : ∀ digest r, y ≠ ⟨.locked (.revoke (.token digest)),.ok r⟩) (hnow : s.now ≤ s'.now)
    (htokens : ∀ digest, s'.secrets (.token digest) = s.secrets (.token digest)) : Final ops (log ++ [(i,y)]) s' where
  clock hr := (h.clock (revoked_of_snoc hy hr)).trans hnow
  tombstone {digest v} hv := by
    rw [htokens] at hv
    obtain ⟨t,rfl,hlast⟩ := h.tombstone hv
    exact ⟨t,rfl,fun r hr => hlast r (revoked_of_snoc hy hr)⟩
  kept {digest record} hrecord := by
    rw [htokens] at hrecord
    obtain ⟨j,tx,hstarter,hflow,hafter⟩ := h.kept hrecord
    exact ⟨j,tx,(starter_snoc_none (hstarts digest)).trans hstarter,hflow.later,
      fun r hr => hafter r (revoked_of_snoc hy hr)⟩

theorem now_le (hclock : ∀ {t t'}, S.tick t t' → t < t') (h : Idle S s s') : s.now ≤ s'.now := by
  rcases h.now with heq | htick
  · exact heq.ge
  · exact (hclock htick).le

theorem final_put {record : StoredToken Time} {startedAt : Option Time} (h : Final ops log s)
    (hc : Undisturbed log s i (.locked (.put (.token digest) record startedAt)))
    (hl : Landed B (ops i) (Pool.own i log) (.token digest) record startedAt)
    (hnewer : requireNewer startedAt (s.secrets (.token digest)) = .ok ()) :
    Final ops (log ++ [(i,⟨.locked (.put (.token digest) record startedAt),.ok ()⟩)])
      (s.write (.token digest) (some (.token record))) := by
  have hold : ∀ {d r}, Revoked (log ++ [(i,⟨.locked (.put (.token digest) record startedAt),.ok ()⟩)]) d r →
      Revoked log d r := fun hr => revoked_of_snoc (fun _ _ heq => by cases heq) hr
  obtain ⟨code,state,actor,tx,provider,payload,hop,hlanding,rfl⟩ := hl
  have hconsumed := hlanding.consumed
  obtain ⟨t,ht,hrun⟩ := hconsumed
  obtain rfl := (claimed_of_runs B hrun).state
  -- an older flow would have found a tombstone that is not older than itself
  have hafter : ∀ r, Revoked log digest r → r < tx.createdAt := by
    intro r hr
    by_contra hle
    obtain ⟨v,hv⟩ := hc digest record tx.createdAt r rfl hr (not_lt.mp hle)
    obtain ⟨last,rfl,hlast⟩ := h.tombstone hv
    rw [hv,requireNewer,if_pos ((not_lt.mp hle).trans (hlast r hr))] at hnewer
    cases hnewer
  refine ⟨fun hr => h.clock (hold hr),fun {d v} hv => ?_,fun {d record'} hrecord => ?_⟩
  · by_cases hd : d = digest
    · rw [hd,Vault.write_self] at hv
      cases hv
    · rw [Vault.write_of_ne (fun heq => hd (Key.token.inj heq))] at hv
      obtain ⟨last,rfl,hlast⟩ := h.tombstone hv
      exact ⟨last,rfl,fun r hr => hlast r (hold hr)⟩
  · by_cases hd : d = digest
    · subst hd
      exact ⟨i,tx,starter_snoc_some (if_pos rfl),Flow.later ⟨⟨code,actor,hop⟩,hlanding.consumed⟩,
        fun r hr => hafter r (hold hr)⟩
    · rw [Vault.write_of_ne (fun heq => hd (Key.token.inj heq))] at hrecord
      obtain ⟨j,tx',hstarter,hflow,hbegun⟩ := h.kept hrecord
      have hnone : starts d (i,⟨.locked (.put (.token digest) record (some tx.createdAt)),.ok ()⟩) = none := if_neg (Ne.symm hd)
      exact ⟨j,tx',(starter_snoc_none hnone).trans hstarter,hflow.later,fun r hr => hbegun r (hold hr)⟩

section
variable (hclock : ∀ {t t'}, S.tick t t' → t < t') (h : Final ops log s)
include hclock h

theorem final_revoke {now : Time} (htick : S.tick s.now now) :
    Final ops (log ++ [(i,⟨.locked (.revoke (.token digest)),.ok now⟩)])
      (Vault.write { s with now := now } (.token digest) (some (.revoked (some now)))) := by
  have hcases : ∀ {d r}, Revoked (log ++ [(i,⟨.locked (.revoke (.token digest)),.ok now⟩)]) d r →
      Revoked log d r ∨ d = digest ∧ r = now := by
    rintro d r ⟨j,hj⟩
    rcases List.mem_append.mp hj with hj | hj
    · exact .inl ⟨j,hj⟩
    · cases List.mem_singleton.mp hj
      exact .inr ⟨rfl,rfl⟩
  have hbefore : ∀ {d r}, Revoked log d r → r ≤ now := fun hr => (h.clock hr).trans (hclock htick).le
  have hothers : ∀ {d r}, d ≠ digest → Revoked (log ++ [(i,⟨.locked (.revoke (.token digest)),.ok now⟩)]) d r →
      Revoked log d r := fun hd hr => (hcases hr).resolve_right fun heq => hd heq.1
  refine ⟨fun hr => ?_,fun {d v} hv => ?_,fun {d record} hrecord => ?_⟩
  · rcases hcases hr with hr | ⟨-,rfl⟩
    · exact hbefore hr
    · exact le_refl _
  · by_cases hd : d = digest
    · subst hd
      rw [Vault.write_self] at hv
      cases hv
      refine ⟨now,rfl,fun r hr => ?_⟩
      rcases hcases hr with hr | ⟨-,rfl⟩
      · exact hbefore hr
      · exact le_refl _
    · rw [Vault.write_of_ne (fun heq => hd (Key.token.inj heq))] at hv
      obtain ⟨last,rfl,hlast⟩ := h.tombstone hv
      exact ⟨last,rfl,fun r hr => hlast r (hothers hd hr)⟩
  · by_cases hd : d = digest
    · rw [hd,Vault.write_self] at hrecord
      cases hrecord
    · rw [Vault.write_of_ne (fun heq => hd (Key.token.inj heq))] at hrecord
      obtain ⟨j,tx,hstarter,hflow,hafter⟩ := h.kept hrecord
      exact ⟨j,tx,(starter_snoc_none rfl).trans hstarter,hflow.later,fun r hr => hafter r (hothers hd hr)⟩

theorem final_refresh {provider : ProviderDescriptor}
    {audience clientId : String} {current record : StoredToken Time} {m : Vault Time}
    (hheld : s.secrets (.token digest) = some (.token current)) (hidle : Idle S s m) :
    Final ops (log ++ [(i,⟨.locked (.refresh (.token digest) provider audience clientId),.ok record⟩)])
      (m.write (.token digest) (some (.token record))) := by
  have hm : Final ops (log ++ [(i,⟨.locked (.refresh (.token digest) provider audience clientId),.ok record⟩)]) m :=
    h.later (fun _ => rfl) (fun _ _ heq => by cases heq) (now_le hclock hidle) fun d => congrFun hidle.secrets _
  have hheld' : m.secrets (.token digest) = some (.token current) := (congrFun hidle.secrets _).trans hheld
  refine ⟨hm.clock,fun {d v} hv => ?_,fun {d record'} hrecord => ?_⟩
  · by_cases hd : d = digest
    · rw [hd,Vault.write_self] at hv
      cases hv
    · rw [Vault.write_of_ne (fun heq => hd (Key.token.inj heq))] at hv
      exact hm.tombstone hv
  · by_cases hd : d = digest
    · subst hd
      exact hm.kept hheld'
    · rw [Vault.write_of_ne (fun heq => hd (Key.token.inj heq))] at hrecord
      exact hm.kept hrecord

/-- Outside of sections no token is written. -/
theorem final_bare (hg : Allowed B False (ops i) (Pool.own i log) e) (hw : Serves S s e a s') : Final ops (log ++
    [(i,⟨e,a⟩)]) s' := by
  cases hw with
  | set _ key value =>
    cases key with
    | transaction state =>
      exact h.later (fun _ => rfl) (fun _ _ heq => by cases heq) (le_refl _) fun _ => Vault.write_of_ne nofun
    | client providerId => exact hg.elim
    | token d =>
      cases value with
      | transaction | text => exact hg.elim
      | revoked | token => exact hg.1.elim
  | swapped _ key raw value =>
    cases key with
    | transaction state =>
      exact h.later (fun _ => rfl) (fun _ _ heq => by cases heq) (le_refl _) fun _ => Vault.write_of_ne nofun
    | client providerId => exact hg.elim
    | token d => exact hg.1.elim
  | created _ key value =>
    cases key with
    | client providerId =>
      exact h.later (fun _ => rfl) (fun _ _ heq => by cases heq) (le_refl _) fun _ => Vault.write_of_ne nofun
    | transaction | token => exact hg.elim
  | deleted _ key =>
    cases key with
    | transaction state =>
      exact h.later (fun _ => rfl) (fun _ _ heq => by cases heq) (le_refl _) fun _ => Vault.write_of_ne nofun
    | client | token => exact hg.elim
  | time _ now htick =>
    exact h.later (fun _ => rfl) (fun _ _ heq => by cases heq) (hclock htick).le fun _ => rfl
  | refused => exact h.later (fun _ => starts_error) (fun _ _ heq => by cases heq) (le_refl _) fun _ => rfl
  | _ => exact h.later (fun _ => rfl) (fun _ _ heq => by cases heq) (le_refl _) fun _ => rfl

end

variable [Add Time] [OfNat Time 3600]

theorem final_step (hclock : ∀ {t t'}, S.tick t t' → t < t') (h : Final ops log s) (hc : Undisturbed log s i e)
    (hg : Allowed B False (ops i) (Pool.own i log) e) (hw : SerialServes B S s e a s') :
    Final ops (log ++ [(i,⟨e,a⟩)]) s' := by
  cases e with
  | locked sec =>
    cases a with
    | error x =>
      have hidle := section_idle hw
      exact h.later (fun _ => starts_error) (fun _ _ heq => by cases heq) (now_le hclock hidle)
        fun d => congrFun hidle.secrets _
    | ok a =>
      obtain ⟨digest,hkey⟩ := token_of_allowed hg
      have hdone := section_done hw
      cases sec with
      | put key record startedAt =>
        obtain rfl : key = .token digest := hkey
        obtain ⟨hnewer,rfl⟩ := hdone
        exact final_put h hc hg hnewer
      | refresh key provider audience clientId =>
        obtain rfl : key = .token digest := hkey
        obtain ⟨current,m,hheld,hidle,rfl⟩ := hdone
        exact final_refresh hclock h hheld hidle
      | revoke key =>
        obtain rfl : key = .token digest := hkey
        obtain ⟨htick,rfl⟩ := hdone
        exact final_revoke hclock h htick
  | _ => exact final_bare hclock h hg hw

end

section
variable {Time ι : Type} [LinearOrder Time] [Add Time] [OfNat Time 300] [OfNat Time 3600] [DecidableEq ι]
  {S : Setting Time} {B : Builtins Time} {ops : ι → Operation} {s : Vault Time} {log : Log Time ι}
  {d : Pool ι (Call Time) Call.Answer Failure (Outcome Time) (Vault Time)}

/-- The token is of a flow that was begun strictly after all revocations there have been of it. -/
def AfterRevocations (ops : ι → Operation) (log : Log Time ι) (digest : String) : Prop :=
  ∃ j tx k, starter log digest = some j ∧ Flow ops log j tx ∧ (k,setEvent tx.state (.transaction tx)) ∈ log ∧
    (k,⟨.time,.ok tx.createdAt⟩) ∈ log ∧ ∀ r, Revoked log digest r → r < tx.createdAt

omit [Add Time] [OfNat Time 300] [OfNat Time 3600] [DecidableEq ι] in
theorem respects_steps : Respects B False serialised fun (_ : History Time) _ => True := respects_serialised

theorem afterRevocations_of_kept (hclock : ∀ {t t'}, S.tick t t' → t < t') (hempty : ∀ key, s.secrets key = none)
    (h : Pool.StepsWhere (SerialServes B S) Undisturbed (flows B serialised ops s) log d) {digest : String}
    {record : StoredToken Time} (hkept : d.state.secrets (.token digest) = some (.token record)) :
    AfterRevocations ops log digest := by
  have hfinal : Final ops log d.state := by
    refine h.invariant (G := fun i => Allowed B False (ops i)) (Q := fun _ _ _ => True) (X := fun _ _ _ => True)
      (I := Final ops) (fun i => (program_meets respects_steps (ops i)).mono (fun _ _ hg => hg)
        (fun _ _ _ => trivial) fun _ _ hx => hx) ⟨?_,fun {digest v} hv => ?_,fun {digest record} hrecord => ?_⟩ ?_
    · rintro digest r ⟨j,hj⟩
      cases hj
    · have hnone : s.secrets (.token digest) = some (.revoked v) := hv
      rw [hempty] at hnone
      cases hnone
    · have hnone : s.secrets (.token digest) = some (.token record) := hrecord
      rw [hempty] at hnone
      cases hnone
    · intro log i e r m m' hm hc hg hw
      exact final_step hclock hm hc hg hw
  obtain ⟨j,tx,hstarter,hflow,hafter⟩ := hfinal.kept hkept
  have hconsistent : Consistent log d.state :=
    consistent steady_serial respects_steps (fun _ => hempty _) h.steps
  obtain ⟨t,ht,hrun⟩ := hflow.2
  have hclaim := Pool.mem_own.mp (ht.subset (claimed_of_runs B hrun).won)
  obtain ⟨k,tx',hset,hsame,-⟩ := (hconsistent.standing tx.state).of_claim hclaim
  obtain rfl := Secret.transaction.inj hsame
  obtain ⟨u,rest,hown,tx',heq,-,hdrawn⟩ := allowed_of_mem respects_steps h.steps hset
  obtain rfl := Secret.transaction.inj heq
  exact ⟨j,tx,k,hstarter,hflow,hset,Pool.mem_own.mp (hown ▸ List.mem_append_left _ hdrawn.time),hafter⟩

/-- Where flows that are older than a revocation always find its tombstone, no token of theirs is returned after it,
refreshed or not, by the store or in a header. -/
theorem revocation_final (hclock : ∀ {t t'}, S.tick t t' → t < t') (hempty : ∀ key, s.secrets key = none)
    (h : Pool.StepsWhere (SerialServes B S) Undisturbed (flows B serialised ops s) log d) :
    (∀ actor tenant principal providerId resourceUrl audience digest token s',
      requireVerified actor = .ok (tenant,principal) →
      storageKey tenant principal providerId resourceUrl audience = .token digest →
      Reaches (SerialServes B S) (get B actor providerId resourceUrl audience) d.state (some token) s' →
      AfterRevocations ops log digest) ∧
    ∀ i authorization, d.procs i = .ret (.headers authorization) → ∃ actor providerId provider tenant principal digest
      record earlier later, ops i = .bearer actor providerId provider.resourceUrl ∧
      requireVerified actor = .ok (tenant,principal) ∧ (i,⟨.provider providerId,.ok (some provider)⟩) ∈ log ∧
      .token digest = storageKey tenant principal provider.providerId provider.resourceUrl provider.resourceUrl ∧
      log = earlier ++ (i,⟨.get (.token digest),.ok (some (.token record))⟩) :: later ∧
      authorization = B.str record.tokenType ++ " " ++ B.str record.accessToken ∧
      AfterRevocations ops earlier digest := by
  refine ⟨?_,fun i authorization hi => ?_⟩
  · intro actor tenant principal providerId resourceUrl audience digest token s' hverified hkey hget
    unfold get at hget
    rw [hverified] at hget
    change Reaches _ ((ask (.get (storageKey tenant principal providerId resourceUrl audience))).bind fun raw =>
      .ret (usable B audience raw)) _ _ _ at hget
    rw [hkey] at hget
    obtain ⟨t,ht⟩ := hget
    cases ht with
    | @call e k raw m m' m'' t q hw hrest =>
      have hw' : Serves S d.state (.get (.token digest)) raw m' := hw
      cases hw' with
      | refused => cases hrest
      | get =>
        obtain ⟨-,hret,-⟩ := Prog.Runs.of_ret hrest
        have husable : some token = usable B audience (d.state.secrets (.token digest)) := Prog.ret.inj hret
        unfold usable at husable
        split at husable
        · rename_i hkept
          exact afterRevocations_of_kept hclock hempty h hkept
        · cases husable
  · have hfinished := (h.steps.meets i (program_meets respects_steps (ops i))).returned hi
    obtain ⟨actor,providerId,provider,tenant,principal,digest,record,now,hop,hverified,hlisted,hkey,hread,-,-,-,-,
      hheader⟩ := hfinished
    obtain ⟨earlier,later,hsplit⟩ := List.append_of_mem (Pool.mem_own.mp hread)
    obtain ⟨m,s',hearlier,-,hw⟩ := h.before hsplit
    have hkept : some (.token record) = m.state.secrets (.token digest) := serves_get hw
    exact ⟨actor,providerId,provider,tenant,principal,digest,record,earlier,later,hop,hverified,Pool.mem_own.mp hlisted,hkey,
      hsplit,hheader,afterRevocations_of_kept hclock hempty hearlier hkept.symm⟩

end

def ticking : Setting ℕ where
  tick := (· < ·)
  listed id r := ∀ p ∈ r, id = "acme" ∧ p = acme
  named {id p} h := by
    obtain ⟨rfl,rfl⟩ := h p rfl
    rfl

/-- Alice begins, revokes, begins anew and comes back from the new flow; then the old flow comes back too. -/
def overtaken : Fin 5 → Operation
  | 0 | 2 => .begin "acme" alice "browser" (some ["read"])
  | 1 => .revoke alice "acme"
  | 3 => .callback "code" "s2" alice "browser"
  | 4 => .callback "code" "s1" alice "browser"

def revokedEvent : Event (Call ℕ) Call.Answer := ⟨.locked (.revoke aliceKey),.ok 2⟩

theorem alice_revokes {W : World (Call ℕ) Call.Answer (Vault ℕ)} (hW : Follows ticking W)
    (hlisted : ticking.listed "acme" (some acme)) {s s' : Vault ℕ}
    (hrevoke : W s (.locked (.revoke aliceKey)) (.ok 2) s') :
    Prog.Runs W ((overtaken 1).program plainBuiltins serialised) s [⟨.provider "acme",.ok (some acme)⟩,revokedEvent]
      (.ret .done) s' := by
  have henabled : Prog.Runs W (requireEnabled "acme") s [⟨.provider "acme",.ok (some acme)⟩] (.ret acme) s :=
    .call (hW.served (.provider s _ _ hlisted) rfl) (.nil _ _)
  have hrevokes : Prog.Runs W (revoke serialised alice "acme" "https://mcp" "https://mcp") s [revokedEvent] (.ret ()) s' := by
    exact .call hrevoke (.nil _ _)
  have hboth : Prog.Runs W ((requireEnabled "acme").bind fun p =>
      revoke serialised alice p.providerId p.resourceUrl p.resourceUrl) s
      ([⟨.provider "acme",.ok (some acme)⟩] ++ [revokedEvent]) (.ret ()) s' := henabled.bind hrevokes
  have hall : Prog.Runs W ((overtaken 1).program plainBuiltins serialised) s
      (([⟨.provider "acme",.ok (some acme)⟩] ++ [revokedEvent]) ++ []) (.ret .done) s' := hboth.bind (.nil _ _)
  exact hall

theorem overtaken_runs {W : World (Call ℕ) Call.Answer (Vault ℕ)} (hW : Follows ticking W)
    (hrevoke : ∀ s, s.now < 2 → W s (.locked (.revoke aliceKey)) (.ok 2)
      (Vault.write { s with now := 2 } aliceKey (some (.revoked (some 2)))))
    (hput : ∀ s record startedAt, 2 < startedAt → requireNewer (some startedAt) (s.secrets aliceKey) = .ok () →
      W s (.locked (.put aliceKey record (some startedAt))) (.ok ()) (s.write aliceKey (some (.token record)))) :
    ∃ log d, Pool.Steps W (flows plainBuiltins serialised overtaken vacant) log d ∧ (1,revokedEvent) ∈ log ∧
      d.procs 4 = (overtaken 4).program plainBuiltins serialised ∧ d.state.now = 5 ∧
      d.state.secrets (.transaction "s1") = some (.transaction (aliceFlow "s1" ["read"] 1)) ∧
      d.state.secrets aliceKey = some (.token (tokenFor (aliceFlow "s2" ["read"] 3) acme "secret" "r" 5)) := by
  have hlisted : ticking.listed "acme" (some acme) := by
    rintro p ⟨⟩
    exact ⟨rfl,rfl⟩
  have htick : ∀ {m n : ℕ}, m < n → ticking.tick m n := fun h => h
  -- the four states that the operations leave
  let s₁ := vacant.opened "s1" ["read"] 1
  let s₂ := Vault.write { s₁ with now := 2 } aliceKey (some (.revoked (some 2)))
  let s₃ := s₂.opened "s2" ["read"] 3
  let s₄ := s₃.landed "s2" ["read"] 3 5
  obtain ⟨url,hbegin⟩ : ∃ url, Reaches W (begin "acme" alice "browser" (some ["read"])) vacant url s₁ :=
    alice_begins hW hlisted (htick Nat.one_pos) (by decide) (by decide)
  have hrevokes := alice_revokes hW hlisted (hrevoke s₁ Nat.one_lt_two)
  obtain ⟨url',hbegin'⟩ : ∃ url, Reaches W (begin "acme" alice "browser" (some ["read"])) s₂ url s₃ :=
    alice_begins hW hlisted (htick (by decide : 2 < 3)) (by decide) (by decide)
  have hlands : Reaches W (callback plainBuiltins serialised "code" "s2" alice "browser") s₃
      (tokenFor (aliceFlow "s2" ["read"] 3) acme "secret" "r" 5) s₄ := by
    refine alice_lands hW hlisted (htick (by decide : 3 < 4)) (htick (by decide : 4 < 5)) (by decide +kernel)
      (Vault.write_self ..) (by decide) (Prog.reaches_demand (hput _ _ 3 (by decide) ?_))
    have htombstone : s₂.secrets aliceKey = some (.revoked (some 2)) := Vault.write_self ..
    rw [write_alice,write_alice,Vault.opened_alice,htombstone]
    rfl
  have hstart : Pool.Steps W (flows plainBuiltins serialised overtaken vacant) []
    (flows plainBuiltins serialised overtaken vacant) := .refl
  have hfirst : Reaches W ((overtaken 0).program plainBuiltins serialised) vacant (.url url) s₁ := hbegin.bind .ret
  have hthird : Reaches W ((overtaken 2).program plainBuiltins serialised) s₂ (.url url') s₃ := hbegin'.bind .ret
  have hfourth : Reaches W ((overtaken 3).program plainBuiltins serialised) s₃ (.token _) s₄ := hlands.bind .ret
  obtain ⟨log₁,h₁⟩ := steps_then hstart rfl hfirst
  have h₂ := h₁.trans (Pool.Steps.of_run (i := 1) hrevokes rfl rfl)
  obtain ⟨log₃,h₃⟩ := steps_then (i := 2) h₂ rfl hthird
  obtain ⟨log₄,h₄⟩ := steps_then (i := 3) h₃ rfl hfourth
  refine ⟨_,_,h₄,?_,rfl,rfl,?_,Vault.write_self ..⟩
  · simp
  · have hold : s₁.secrets (.transaction "s1") = some (.transaction (aliceFlow "s1" ["read"] 1)) := Vault.write_self ..
    have hother : "s1" ≠ "s2" := by decide
    exact (Vault.landed_other hother ..).trans ((Vault.opened_other hother ..).trans
      ((Vault.write_of_ne (aliceKey_ne "s1").symm).trans hold))

theorem serial_revoke {s : Vault ℕ} (h : s.now < 2) : SerialServes plainBuiltins ticking s (.locked (.revoke aliceKey)) (.ok 2)
    (Vault.write { s with now := 2 } aliceKey (some (.revoked (some 2)))) :=
  ⟨_,.call (.time s 2 h) (.call (.set _ _ _) (.nil _ _))⟩

theorem serial_put {s : Vault ℕ} {record : StoredToken ℕ} {startedAt : ℕ}
    (h : requireNewer (some startedAt) (s.secrets aliceKey) = .ok ()) :
    SerialServes plainBuiltins ticking s (.locked (.put aliceKey record (some startedAt))) (.ok ())
      (s.write aliceKey (some (.token record))) := reaches_putSection follows_serves h

theorem reaches_get_alice {s : Vault ℕ} {tx : OAuthTransaction ℕ} {now : ℕ}
    (h : s.secrets aliceKey = some (.token (tokenFor tx acme "secret" "r" now))) : ∃ token s',
    Reaches (SerialServes plainBuiltins ticking) (get plainBuiltins alice "acme" "https://mcp" "https://mcp") s
      (some token) s' := by
  have hrevision : Scaling.strip "r" ≠ "" := by decide +kernel
  obtain ⟨token,husable⟩ : ∃ token, usable plainBuiltins "https://mcp" (s.secrets aliceKey) = some token := by
    rw [h]
    exact ⟨_,if_neg (not_or.mpr ⟨not_not.mpr rfl,hrevision⟩)⟩
  have hget : SerialServes plainBuiltins ticking s (.get aliceKey) (.ok (s.secrets aliceKey)) s := Serves.get s aliceKey
  refine ⟨token,s,?_⟩
  unfold get
  rw [alice_verified,← husable]
  exact Prog.reaches_demand_bind hget .ret

/-- A tombstone that has given way to a newer flow does not stop an older one. -/
theorem older_flow_lands : ∃ log d,
    Pool.Steps (SerialServes plainBuiltins ticking) (flows plainBuiltins serialised overtaken vacant) log d ∧
    ∃ digest token s', storageKey "tenant" "alice" "acme" "https://mcp" "https://mcp" = .token digest ∧
      Reaches (SerialServes plainBuiltins ticking) (get plainBuiltins alice "acme" "https://mcp" "https://mcp") d.state
        (some token) s' ∧ Revoked log digest 2 ∧ ¬AfterRevocations overtaken log digest := by
  obtain ⟨log,d,h,hrevoked,hproc,hnow,hold,hnew⟩ := overtaken_runs follows_serial (fun s => serial_revoke)
    fun s record startedAt _ => serial_put
  have hlisted : ticking.listed "acme" (some acme) := by
    rintro p ⟨⟩
    exact ⟨rfl,rfl⟩
  obtain ⟨t,ht⟩ : Reaches (SerialServes plainBuiltins ticking)
      (callback plainBuiltins serialised "code" "s1" alice "browser") d.state
      (tokenFor (aliceFlow "s1" ["read"] 1) acme "secret" "r" 7) (d.state.landed "s1" ["read"] 1 7) := by
    refine alice_lands follows_serial hlisted (by rw [hnow]; exact (by decide : 5 < 6)) (by decide : 6 < 7)
      (by decide +kernel) hold (by decide) (Prog.reaches_demand (serial_put ?_))
    rw [write_alice,write_alice,hnew]
    rfl
  have h' := h.trans (Pool.Steps.of_run (i := 4) (ht.bind (.nil _ _)) hproc rfl)
  rw [List.append_nil] at h'
  have hconsistent : Consistent (log ++ t.map fun y => (4,y)) (d.state.landed "s1" ["read"] 1 7) :=
    consistent steady_serial respects_steps (fun _ => rfl) h'
  have hbegun : ∀ {k tx}, (k,setEvent "s1" (.transaction tx)) ∈ log ++ t.map (fun y => (4,y)) →
      tx = aliceFlow "s1" ["read"] 1 := by
    intro k tx hset
    have hstanding : Standing log "s1" (some (.transaction (aliceFlow "s1" ["read"] 1))) :=
      hold ▸ (consistent steady_serial respects_steps (fun _ => rfl) h).standing "s1"
    obtain ⟨j,hset'⟩ : ∃ j, (j,setEvent "s1" (.transaction (aliceFlow "s1" ["read"] 1))) ∈ log := by
      cases hstanding with
      | pending j tx hset' => exact ⟨j,hset'⟩
      | claimed j tx i _ _ _ _ hv =>
        rcases hv with hv | hv <;> cases hv
    have hset'' := List.mem_append_left (t.map fun y => ((4 : Fin 5),y)) hset'
    obtain rfl := hconsistent.issuance.one (hconsistent.issuance.drawn hset) (hconsistent.issuance.drawn hset'')
    exact Secret.transaction.inj (begun_once respects_steps h' hset hset'')
  have hflow : ∀ {j tx}, (j,claimEvent "s1" (.transaction tx)) ∈ log ++ t.map (fun y => (4,y)) →
      tx = aliceFlow "s1" ["read"] 1 := by
    intro j tx hclaim
    obtain ⟨k,tx',hset,hsame,-⟩ := (hconsistent.standing "s1").of_claim hclaim
    obtain rfl := Secret.transaction.inj hsame
    exact hbegun hset
  have hmem : ∀ {y}, y ∈ t → ((4 : Fin 5),y) ∈ log ++ t.map fun y => (4,y) :=
    fun hy => List.mem_append_right _ (List.mem_map.mpr ⟨_,hy,rfl⟩)
  have hstored : ∀ {digest}, aliceKey = .token digest → ∃ y ∈ t, starts digest ((4 : Fin 5),y) = some 4 := by
    intro digest hdigest
    have hlands : ∃ digest record startedAt, Landed plainBuiltins (overtaken 4) t (.token digest) record startedAt ∧
        Stored t digest record ∧ _ := (callback_meets respects_steps rfl).runs (ht.record [])
    obtain ⟨digest',record,startedAt,⟨code,state,actor,tx,provider,payload,hop,hlanding,-⟩,hstored,-⟩ := hlands
    obtain ⟨-,rfl,-,-⟩ := Operation.callback.inj hop
    obtain ⟨u,hu,hrun⟩ := hlanding.consumed
    obtain rfl := hflow (hmem (hu.subset (claimed_of_runs plainBuiltins hrun).won))
    obtain ⟨m,m',hw⟩ := h'.answered (hmem hlanding.listed)
    have hsame : digest' = digest := by
      have hw' : Serves ticking m (.provider "acme") (.ok (some provider)) m' := hw
      cases hw' with
      | provider _ _ _ hprovider =>
        obtain ⟨-,rfl⟩ := hprovider provider rfl
        exact Key.token.inj (hlanding.key.trans hdigest)
    subst hsame
    rcases hstored with hstored | ⟨startedAt,hstored⟩
    · exact ⟨_,hstored,if_pos rfl⟩
    · exact ⟨_,hstored,if_pos rfl⟩
  obtain ⟨token,s',hget⟩ := reaches_get_alice (Vault.write_self ..)
  refine ⟨_,_,h',_,token,s',rfl,hget,⟨1,List.mem_append_left _ hrevoked⟩,?_⟩
  rintro ⟨j,tx,k,hstarter,⟨⟨code,actor,hop⟩,hconsumed⟩,hset,-,hafter⟩
  -- the old flow was the last to store a token
  have hlast : starter (log ++ t.map fun y => (4,y)) _ = some 4 := starter_run (hstored rfl)
  obtain rfl := Option.some.inj (hlast.symm.trans hstarter)
  obtain ⟨-,hstate,-,-⟩ := Operation.callback.inj hop
  rw [← hstate] at hset
  rw [hbegun hset] at hafter
  exact absurd (hafter 2 ⟨1,List.mem_append_left _ hrevoked⟩) (by decide)

/-- The environment in which tokens of flows begun after the second moment are stored, and revocations are over by then. -/
def Early : World (Call ℕ) Call.Answer (Vault ℕ) := fun s e r s' => SerialServes plainBuiltins ticking s e r s' ∧
  (∀ key record startedAt, e = .locked (.put key record (some startedAt)) → 2 < startedAt) ∧
  ∀ key t, (⟨e,r⟩ : Event (Call ℕ) Call.Answer) = ⟨.locked (.revoke key),.ok t⟩ → t ≤ 2

theorem revocation_final_alice : ∃ log d, Pool.StepsWhere (SerialServes plainBuiltins ticking) Undisturbed
      (flows plainBuiltins serialised overtaken vacant) log d ∧ ∃ digest token s',
    storageKey "tenant" "alice" "acme" "https://mcp" "https://mcp" = .token digest ∧
    Reaches (SerialServes plainBuiltins ticking) (get plainBuiltins alice "acme" "https://mcp" "https://mcp") d.state
      (some token) s' ∧ Revoked log digest 2 ∧ AfterRevocations overtaken log digest := by
  have hfollows : Follows ticking Early := by
    intro s e r s' he he' hw
    refine ⟨follows_serial he he' hw,fun _ _ _ heq => absurd heq (he _),fun _ _ heq => ?_⟩
    exact absurd (Sigma.mk.inj heq).1 (he _)
  obtain ⟨log,d,h,hrevoked,-,-,-,hnew⟩ := overtaken_runs hfollows
    (fun s hs => ⟨serial_revoke hs,fun _ _ _ heq => (nomatch heq),fun key t heq => by cases heq; rfl⟩)
    fun s record startedAt hlate hnewer => ⟨serial_put hnewer,fun _ _ _ heq => by cases heq; exact hlate,
      fun _ _ heq => by cases heq⟩
  have hwhere : Pool.StepsWhere (SerialServes plainBuiltins ticking) Undisturbed
      (flows plainBuiltins serialised overtaken vacant) log d := by
    refine h.heeding (fun hw => hw.1) ?_
    rintro log d i e k r s h hp hw digest record startedAt t rfl ⟨j,hj⟩ hle
    obtain ⟨m,m',-,-,hearly⟩ := h.answered hj
    exact absurd (hle.trans (hearly _ _ rfl)) (not_le.mpr (hw.2.1 _ _ _ rfl))
  obtain ⟨token,s',hget⟩ := reaches_get_alice hnew
  exact ⟨log,d,hwhere,_,token,s',rfl,hget,⟨1,hrevoked⟩,
    (revocation_final (fun h => h) (fun _ => rfl) hwhere).1 _ _ _ _ _ _ _ _ _ alice_verified rfl hget⟩

end Arbora.OAuth
