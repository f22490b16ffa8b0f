import Arbora.OAuth.Custody
import Arbora.OAuth.HonestFlows

/-! A transaction is consumed at most once, and only by whoever began it. -/
namespace Arbora.OAuth
open Interaction
open Prog (Reaches)

section
variable {Time ι : Type}

def setEvent (state : String) (value : Secret Time) : Event (Call Time) Call.Answer :=
  ⟨.set (.transaction state) value,.ok ()⟩
def stateEvent (state : String) : Event (Call Time) Call.Answer := ⟨.state,.ok state⟩

inductive Standing (log : Log Time ι) (state : String) : Option (Secret Time) → Prop
  | unused (hset : ∀ j v, (j,setEvent state v) ∉ log) (hwon : ∀ i raw, (i,claimEvent state raw) ∉ log) :
      Standing log state none
  | pending (j : ι) (tx : OAuthTransaction Time) (hset : (j,setEvent state (.transaction tx)) ∈ log)
      (hwon : ∀ i raw, (i,claimEvent state raw) ∉ log) : Standing log state (some (.transaction tx))
  | claimed (j : ι) (tx : OAuthTransaction Time) (i : ι) (v : Option (Secret Time))
      (hset : (j,setEvent state (.transaction tx)) ∈ log) (hwon : (i,claimEvent state (.transaction tx)) ∈ log)
      (hone : ∀ i' raw, (i',claimEvent state raw) ∈ log → i' = i ∧ raw = .transaction tx)
      (hv : v = some consumedTombstone ∨ v = none) : Standing log state v

variable {log : Log Time ι} {state : String} {v : Option (Secret Time)} {i : ι} {y : Event (Call Time) Call.Answer}

theorem mem_snoc_of_ne {j : ι} {z : Event (Call Time) Call.Answer} (h : (j,z) ∈ log ++ [(i,y)]) (hne : y ≠ z) :
    (j,z) ∈ log := by
  rcases List.mem_append.mp h with h | h
  · exact h
  · exact absurd (Prod.mk.inj (List.mem_singleton.mp h)).2.symm hne

theorem Standing.later (h : Standing log state v) (hset : ∀ w, y ≠ setEvent state w) (hwon : ∀ raw, y ≠ claimEvent state raw) :
    Standing (log ++ [(i,y)]) state v := by
  cases h with
  | unused hset' hwon' =>
    exact .unused (fun j w hj => hset' j w (mem_snoc_of_ne hj (hset w)))
      fun j raw hj => hwon' j raw (mem_snoc_of_ne hj (hwon raw))
  | pending j tx hset' hwon' =>
    exact .pending j tx (List.mem_append_left _ hset') fun j raw hj => hwon' j raw (mem_snoc_of_ne hj (hwon raw))
  | claimed j tx i' v hset' hwon' hone hv =>
    exact .claimed j tx i' v (List.mem_append_left _ hset') (List.mem_append_left _ hwon')
      (fun k raw hk => hone k raw (mem_snoc_of_ne hk (hwon raw))) hv

theorem Standing.of_claim {raw : Secret Time} (h : Standing log state v)
    (hi : (i,claimEvent state raw) ∈ log) : ∃ j tx, (j,setEvent state (.transaction tx)) ∈ log ∧ raw = .transaction tx ∧
      ∀ i' raw', (i',claimEvent state raw') ∈ log → i' = i ∧ raw' = raw := by
  cases h with
  | unused hset hwon => exact absurd hi (hwon i raw)
  | pending j tx hset hwon => exact absurd hi (hwon i raw)
  | claimed j tx k v hset hwon hone hv =>
    obtain ⟨rfl,rfl⟩ := hone i raw hi
    exact ⟨j,tx,hset,rfl,hone⟩

/-- Who drew a state, and that nobody else did. -/
structure Issuance (log : Log Time ι) (s : Vault Time) : Prop where
  issued : ∀ {i state}, (i,stateEvent state) ∈ log → state ∈ s.issued
  one : ∀ {i j state}, (i,stateEvent state) ∈ log → (j,stateEvent state) ∈ log → i = j
  drawn : ∀ {j state v}, (j,setEvent state v) ∈ log → (j,stateEvent state) ∈ log

structure Consistent (log : Log Time ι) (s : Vault Time) : Prop where
  standing : ∀ state, Standing log state (s.secrets (.transaction state))
  issuance : Issuance log s

end

section
variable {Time ι : Type} [LinearOrder Time] {S : Setting Time} {B : Builtins Time}

/-- A step of the store, or a section that leaves transactions alone. -/
def Steady (S : Setting Time) (s : Vault Time) (e : Call Time) (r : e.Answer) (s' : Vault Time) : Prop :=
  Serves S s e r s' ∨ (∃ sec, e = .locked sec) ∧ s'.issued = s.issued ∧
    ∀ state, s'.secrets (.transaction state) = s.secrets (.transaction state)

variable [DecidableEq ι] {log : Log Time ι} {s s' : Vault Time} {i : ι} {e : Call Time} {r : e.Answer} {op : Operation}

omit [LinearOrder Time] [DecidableEq ι] in
theorem Issuance.later (h : Issuance log s) {y : Event (Call Time) Call.Answer} (hstate : ∀ st, y ≠ stateEvent st)
    (hset : ∀ st v, y ≠ setEvent st v) (hissued : s'.issued = s.issued) : Issuance (log ++ [(i,y)]) s' where
  issued hj := by
    rw [hissued]
    exact h.issued (mem_snoc_of_ne hj (hstate _))
  one hj hk := h.one (mem_snoc_of_ne hj (hstate _)) (mem_snoc_of_ne hk (hstate _))
  drawn hj := List.mem_append_left _ (h.drawn (mem_snoc_of_ne hj (hset _ _)))

theorem issuance_step (h : Issuance log s) (hg : Allowed B bare op (Pool.own i log) e) (hw : Steady S s e r s') :
    Issuance (log ++ [(i,⟨e,r⟩)]) s' := by
  rcases hw with hw | ⟨⟨sec,rfl⟩,hissued,-⟩
  · cases hw with
    | state _ r hr =>
      have hnew : ∀ {j st}, (j,stateEvent st) ∈ log ++ [(i,stateEvent r)] → (j,stateEvent st) ∈ log ∨ j = i ∧ st = r := by
        intro j st hj
        rcases List.mem_append.mp hj with hj | hj
        · exact .inl hj
        · cases List.mem_singleton.mp hj
          exact .inr ⟨rfl,rfl⟩
      refine ⟨fun hj => ?_,fun {j k st} hj hk => ?_,fun {j st v} hj => ?_⟩
      · rcases hnew hj with hold | ⟨-,rfl⟩
        · exact List.mem_cons_of_mem _ (h.issued hold)
        · exact List.mem_cons_self
      · rcases hnew hj with hold | ⟨rfl,rfl⟩
        · rcases hnew hk with hold' | ⟨rfl,rfl⟩
          · exact h.one hold hold'
          · exact absurd (h.issued hold) hr
        · rcases hnew hk with hold' | ⟨rfl,-⟩
          · exact absurd (h.issued hold') hr
          · rfl
      · exact List.mem_append_left _ (h.drawn (mem_snoc_of_ne hj (fun heq => nomatch heq)))
    | set =>
      refine ⟨fun hj => h.issued (mem_snoc_of_ne hj fun heq => nomatch heq),
        fun hj hk => h.one (mem_snoc_of_ne hj fun heq => nomatch heq) (mem_snoc_of_ne hk fun heq => nomatch heq),
        fun {j st v} hj => List.mem_append_left _ ?_⟩
      rcases List.mem_append.mp hj with hj | hj
      · exact h.drawn hj
      · cases List.mem_singleton.mp hj
        obtain ⟨tx,-,rfl,hdrawn⟩ := hg
        exact Pool.mem_own.mp hdrawn.state
    | refused => exact h.later (fun st heq => by cases heq) (fun st v heq => by cases heq) rfl
    | _ => exact h.later (fun st heq => nomatch heq) (fun st v heq => nomatch heq) rfl
  · exact h.later (fun st heq => nomatch heq) (fun st v heq => nomatch heq) hissued

omit [LinearOrder Time] [DecidableEq ι] in
theorem standing_kept (h : Consistent log s) {state : String} (hset : ∀ w, ⟨e,r⟩ ≠ setEvent state w)
    (hwon : ∀ raw, ⟨e,r⟩ ≠ claimEvent state raw)
    (hkept : s'.secrets (.transaction state) = s.secrets (.transaction state)) :
    Standing (log ++ [(i,⟨e,r⟩)]) state (s'.secrets (.transaction state)) := by
  rw [hkept]
  exact (h.standing state).later hset hwon

theorem standing_step (h : Consistent log s) (hg : Allowed B bare op (Pool.own i log) e) (hw : Steady S s e r s')
    (state : String) : Standing (log ++ [(i,⟨e,r⟩)]) state (s'.secrets (.transaction state)) := by
  rcases hw with hw | ⟨⟨sec,rfl⟩,-,hsame⟩
  · by_cases hkey : written e = some (.transaction state)
    · cases hw with
      | set _ key value =>
        obtain rfl := Option.some.inj hkey
        obtain ⟨tx,rfl,hstate,hdrawn⟩ := hg
        -- whoever else had begun a flow of this state would have drawn it too
        have hfirst : ∀ j v, (j,setEvent state v) ∉ log := by
          intro j v hj
          have hmine := Pool.mem_own.mp hdrawn.state
          rw [hstate] at hmine
          obtain rfl := h.issuance.one (h.issuance.drawn hj) hmine
          have hfalse : true = false := hdrawn.first _ (Pool.mem_own.mpr hj)
          cases hfalse
        have hunwon : ∀ j raw, (j,claimEvent state raw) ∉ log := by
          intro j raw hj
          have hstanding := h.standing state
          generalize s.secrets (.transaction state) = v at hstanding
          cases hstanding with
          | unused hset hwon => exact hwon j raw hj
          | pending k tx' hset hwon => exact hwon j raw hj
          | claimed k tx' _ _ hset => exact hfirst k _ hset
        rw [Vault.write_self]
        refine .pending i tx (List.mem_append_right _ (List.mem_singleton.mpr rfl)) fun j raw hj => ?_
        exact hunwon j raw (mem_snoc_of_ne hj fun heq => nomatch heq)
      | swapped _ key expected value hheld =>
        obtain rfl := Option.some.inj hkey
        obtain ⟨rfl,hraw,-,-⟩ := hg
        rw [Vault.write_self]
        have hstanding := h.standing state
        rw [hheld] at hstanding
        cases hstanding with
        | pending j tx hset hwon =>
          refine .claimed j tx i _ (List.mem_append_left _ hset) (List.mem_append_right _ (List.mem_singleton.mpr rfl))
            (fun k raw hk => ?_) (.inl rfl)
          rcases List.mem_append.mp hk with hk | hk
          · exact absurd hk (hwon k raw)
          · cases List.mem_singleton.mp hk
            exact ⟨rfl,rfl⟩
        | claimed j tx k _ hset hwon hone hv =>
          rcases hv with hv | hv
          · exact absurd (Option.some.inj hv) hraw
          · cases hv
      | deleted _ key =>
        obtain rfl := Option.some.inj hkey
        obtain ⟨raw,hclaimed⟩ := hg
        rw [Vault.write_self]
        have hstanding := h.standing state
        generalize s.secrets (.transaction state) = v at hstanding
        cases hstanding with
        | unused hset hwon => exact absurd (Pool.mem_own.mp hclaimed) (hwon _ _)
        | pending j tx hset hwon => exact absurd (Pool.mem_own.mp hclaimed) (hwon _ _)
        | claimed j tx k v hset hwon hone hv =>
          exact .claimed j tx k _ (List.mem_append_left _ hset) (List.mem_append_left _ hwon)
            (fun k' raw' hk => hone k' raw' (mem_snoc_of_ne hk fun heq => nomatch heq)) (.inr rfl)
      | created =>
        obtain rfl := Option.some.inj hkey
        exact hg.elim
      | present => exact standing_kept h (fun _ heq => nomatch heq) (fun _ heq => nomatch heq) rfl
      | stale => exact standing_kept h (fun _ heq => nomatch heq) (fun _ heq => by cases heq) rfl
      | refused => exact standing_kept h (fun _ heq => by cases heq) (fun _ heq => by cases heq) rfl
      | _ => cases hkey
    · refine standing_kept h (fun w heq => hkey ?_) (fun raw heq => hkey ?_) (serves_frame hw hkey)
      · cases heq
        rfl
      · cases heq
        rfl
  · exact standing_kept h (fun _ heq => nomatch heq) (fun _ heq => nomatch heq) (hsame state)

end

section
variable {Time ι : Type} [LinearOrder Time] [Add Time] [OfNat Time 300] [OfNat Time 3600] [DecidableEq ι]
  {S : Setting Time} {B : Builtins Time} {locked : (s : Section Time) → Step Time s.Result}
  {Kept : History Time → StoredToken Time → Prop} {W : World (Call Time) Call.Answer (Vault Time)}

variable {ops : ι → Operation} {s : Vault Time} {log : Log Time ι}
  {d : Pool ι (Call Time) Call.Answer Failure (Outcome Time) (Vault Time)} {i j : ι}

theorem consistent (hW : ∀ {s e r s' op h}, Allowed B bare op h e → W s e r s' → Steady S s e r s')
    (hlocked : Respects B bare locked Kept) (hempty : ∀ state, s.secrets (.transaction state) = none)
    (h : Pool.Steps W (flows B locked ops s) log d) : Consistent log d.state := by
  refine h.invariant (G := fun i => Allowed B bare (ops i)) (Q := fun _ _ => True) (X := fun _ _ => True) (I := Consistent)
    (fun i => (program_meets hlocked (ops i)).mono (fun _ _ hg => hg) (fun _ _ _ => trivial) fun _ _ hx => hx) ?_ ?_
  · refine ⟨fun state => ?_,⟨(nomatch ·),(nomatch ·),(nomatch ·)⟩⟩
    change Standing [] state (s.secrets (.transaction state))
    rw [hempty]
    exact .unused (fun _ _ hj => nomatch hj) fun _ _ hj => nomatch hj
  · intro log i e r m m' hm hg hw
    exact ⟨standing_step hm hg (hW hg hw),issuance_step hm.issuance hg (hW hg hw)⟩

theorem allowed_of_mem (hlocked : Respects B bare locked Kept) (h : Pool.Steps W (flows B locked ops s) log d)
    {x : Event (Call Time) Call.Answer} (hx : (i,x) ∈ log) :
    ∃ u v, Pool.own i log = u ++ x :: v ∧ Allowed B bare (ops i) u x.1 :=
  h.guarded (fun i => program_meets hlocked (ops i)) hx

/-- `begin` stores one transaction. -/
theorem begun_once (hlocked : Respects B bare locked Kept) (h : Pool.Steps W (flows B locked ops s) log d)
    {state state' : String} {v v' : Secret Time} (hj : (j,setEvent state v) ∈ log) (hj' : (j,setEvent state' v') ∈ log) :
    v = v' := by
  have hfirst : ∀ {state : String} {v : Secret Time}, (j,setEvent state v) ∈ log →
      (Pool.own j log).find? (fun x => claims x.1) = some (setEvent state v) := by
    intro state v hj
    obtain ⟨u,rest,hown,tx,-,-,hdrawn⟩ := allowed_of_mem hlocked h hj
    have hnone : u.find? (fun x => claims x.1) = none :=
      List.find?_eq_none.mpr fun x hx => Bool.not_eq_true _ ▸ hdrawn.first x hx
    rw [hown,List.find?_append,hnone]
    rfl
  cases Option.some.inj ((hfirst hj).symm.trans (hfirst hj'))
  rfl

omit [Add Time] [OfNat Time 300] [OfNat Time 3600] in
theorem claimed_of_runs (B : Builtins Time) {state : String} {t : History Time} {tx : OAuthTransaction Time}
    (h : Prog.Runs Prog.record (consumeOnce state) [] t (.ret tx) t) : Claimed state t tx := by
  have hop : Operation.callback "" state ⟨"","",false⟩ "" = .callback "" state ⟨"","",false⟩ "" := rfl
  have hmeets : (consumeOnce state).Meets Prog.record (Allowed B True _) (Claimed state) (fun _ _ => True) [] :=
    consumeOnce_meets hop
  exact hmeets.runs h

structure OwnFlow (ops : ι → Operation) (log : Log Time ι)
    (d : Pool ι (Call Time) Call.Answer Failure (Outcome Time) (Vault Time)) (i j : ι) (digest : String)
    (tx : OAuthTransaction Time) : Prop where
  begun : (j,setEvent tx.state (.transaction tx)) ∈ log
  drawn : (j,stateEvent tx.state) ∈ log ∧ (j,⟨.verifier,.ok tx.verifier⟩) ∈ log
  initiator : ∃ actor requested, ops j = .begin tx.providerId actor tx.browserSessionId requested ∧
    requireVerified actor = .ok (tx.tenantId,tx.principalId)
  url : ∀ url, d.procs j = .ret (.url url) → url.params = urlParams tx
  caller : ∃ code actor, ops i = .callback code tx.state actor tx.browserSessionId ∧
    requireVerified actor = .ok (tx.tenantId,tx.principalId) ∧
    ∃ endpoint payload, (i,⟨.exchangeCode endpoint tx.clientId code tx.verifier tx.redirectUri,.ok payload⟩) ∈ log
  consumed : ∃ t now, t <+: Pool.own i log ∧ Prog.Runs Prog.record (consumeOnce tx.state) [] t (.ret tx) t ∧
    ⟨.time,.ok now⟩ ∈ t ∧ now < tx.expiresAt
  key : ∃ resourceUrl, Key.token digest = storageKey tx.tenantId tx.principalId tx.providerId resourceUrl resourceUrl

/-- A state gives its transaction to one callback at most, and what a callback stores is of the flow of its state. -/
theorem transaction_consumed_once (hempty : ∀ state, s.secrets (.transaction state) = none)
    (h : Pool.Steps (Serves S) (flows B (unguarded B) ops s) log d) :
    (∀ i j state tx tx', Consumed state (Pool.own i log) tx → Consumed state (Pool.own j log) tx' → i = j ∧ tx = tx') ∧
    ∀ i digest record, (i,⟨.set (.token digest) (.token record),.ok ()⟩) ∈ log → ∃ j tx, OwnFlow ops log d i j digest tx := by
  have hconsistent : Consistent log d.state := consistent (fun _ hw => .inl hw) respects_unguarded hempty h
  have hclaim : ∀ {i : ι} {state : String} {t : History Time} {tx : OAuthTransaction Time}, t <+: Pool.own i log →
      Prog.Runs Prog.record (consumeOnce state) [] t (.ret tx) t → (i,claimEvent state (.transaction tx)) ∈ log := by
    intro i state t tx ht hrun
    exact Pool.mem_own.mp (ht.subset (claimed_of_runs B hrun).won)
  have hnamed : ∀ {i : ι} {id : String} {p : ProviderDescriptor}, (i,⟨.provider id,.ok (some p)⟩) ∈ log →
      p.providerId = id := by
    intro i id p hp
    obtain ⟨m,m',hw⟩ := h.answered hp
    cases hw with
    | provider _ _ _ hlisted => exact S.named hlisted
  refine ⟨?_,?_⟩
  · rintro i j state tx tx' ⟨t,ht,hrun⟩ ⟨t',ht',hrun'⟩
    obtain ⟨-,-,-,-,hone⟩ := (hconsistent.standing state).of_claim (hclaim ht hrun)
    obtain ⟨rfl,hsame⟩ := hone j _ (hclaim ht' hrun')
    exact ⟨rfl,(Secret.transaction.inj hsame).symm⟩
  · intro i digest record hi
    obtain ⟨u,rest,hown,-,startedAt,code,state,actor,tx,provider,payload,hop,hlanding,-⟩ :=
      allowed_of_mem respects_unguarded h hi
    have hmem : ∀ {x : Event (Call Time) Call.Answer}, x ∈ u → (i,x) ∈ log := by
      intro x hx
      exact Pool.mem_own.mp (hown ▸ List.mem_append_left _ hx)
    obtain ⟨t,ht,hrun⟩ := hlanding.consumed
    have ht' : t <+: Pool.own i log := ht.trans (hown ▸ List.prefix_append _ _)
    have hclaimed := claimed_of_runs B hrun
    obtain rfl := hclaimed.state
    obtain ⟨j,tx',hset,hsame,-⟩ := (hconsistent.standing tx.state).of_claim (hclaim ht' hrun)
    obtain rfl := Secret.transaction.inj hsame
    obtain ⟨u',rest',hown',tx',heq,-,hdrawn⟩ := allowed_of_mem respects_unguarded h hset
    obtain rfl := Secret.transaction.inj heq
    have hmem' : ∀ {x : Event (Call Time) Call.Answer}, x ∈ u' → (j,x) ∈ log := by
      intro x hx
      exact Pool.mem_own.mp (hown' ▸ List.mem_append_left _ hx)
    obtain ⟨providerId,actor',requested,provider',scopes,hop',hlisted',hverified',hprovider',-⟩ := hdrawn.asked
    have hprovider : provider.providerId = tx.providerId := hnamed (hmem hlanding.listed)
    have hrequested : tx.providerId = providerId := hprovider'.trans (hnamed (hmem' hlisted'))
    obtain ⟨now,hnow,hlive⟩ := hclaimed.fresh
    refine ⟨j,tx,?_⟩
    refine ⟨hset,⟨hmem' hdrawn.state,hmem' hdrawn.verifier⟩,⟨actor',requested,hrequested ▸ hop',hverified'⟩,?_,
      ⟨code,actor,hop,hlanding.verified,?_⟩,⟨t,now,ht',hrun,hnow,hlive⟩,⟨provider.resourceUrl,?_⟩⟩
    · intro url hurl
      have hfinished := (h.meets j (program_meets respects_unguarded (ops j))).returned hurl
      obtain ⟨tx',hset',hparams⟩ := hfinished
      obtain rfl := Secret.transaction.inj (begun_once respects_unguarded h hset (Pool.mem_own.mp hset'))
      exact hparams
    · obtain ⟨endpoint,hexchanged⟩ := hlanding.exchanged
      unfold effectiveClientId at hexchanged
      rw [if_pos hdrawn.client] at hexchanged
      exact ⟨endpoint,payload,hmem hexchanged⟩
    · rw [hlanding.key,hprovider]

end

def once : Bool → Operation
  | false => .begin "acme" alice "browser" (some ["read"])
  | true => .callback "code" "s1" alice "browser"

theorem transaction_consumed_once_alice : ∃ log d,
    Pool.Steps (Serves anySetting) (flows plainBuiltins (unguarded plainBuiltins) once vacant) log d ∧
    d.state.secrets aliceKey = some (.token (tokenFor (aliceFlow "s1" ["read"] 1) acme "secret" "r" 3)) ∧
    (∀ i j state tx tx', Consumed state (Pool.own i log) tx → Consumed state (Pool.own j log) tx' → i = j ∧ tx = tx') ∧
    ∀ i digest record, (i,⟨.set (.token digest) (.token record),.ok ()⟩) ∈ log →
      ∃ j tx, OwnFlow once log d i j digest tx := by
  have hlisted : anySetting.listed "acme" (some acme) := by
    rintro p ⟨⟩
    rfl
  have hnewer : requireNewer (some 1) (none : Option (Secret ℕ)) = .ok () := rfl
  obtain ⟨url,hbegin⟩ : ∃ url, Reaches (Serves anySetting) (begin "acme" alice "browser" (some ["read"])) vacant url
    (vacant.opened "s1" ["read"] 1) := alice_begins follows_serves hlisted trivial (by decide) (by decide)
  have hlands : Reaches (Serves anySetting) (callback plainBuiltins (unguarded plainBuiltins) "code" "s1" alice "browser")
      (vacant.opened "s1" ["read"] 1) (tokenFor (aliceFlow "s1" ["read"] 1) acme "secret" "r" 3)
      ((vacant.opened "s1" ["read"] 1).landed "s1" ["read"] 1 3) :=
    alice_lands follows_serves hlisted trivial trivial (by decide +kernel) (Vault.write_self ..) (by decide)
      (reaches_putSection follows_serves hnewer)
  have hfirst : Reaches (Serves anySetting) ((once false).program plainBuiltins (unguarded plainBuiltins)) vacant (.url url)
    (vacant.opened "s1" ["read"] 1) := hbegin.bind .ret
  have hsecond : Reaches (Serves anySetting) ((once true).program plainBuiltins (unguarded plainBuiltins))
    (vacant.opened "s1" ["read"] 1) (.token _) ((vacant.opened "s1" ["read"] 1).landed "s1" ["read"] 1 3) := hlands.bind .ret
  have hstart : Pool.Steps (Serves anySetting) (flows plainBuiltins (unguarded plainBuiltins) once vacant) []
    (flows plainBuiltins (unguarded plainBuiltins) once vacant) := .refl
  obtain ⟨log,h⟩ := steps_then hstart rfl hfirst
  obtain ⟨log',h'⟩ := steps_then h rfl hsecond
  exact ⟨_,_,h',Vault.write_self ..,transaction_consumed_once (fun _ => rfl) h'⟩

end Arbora.OAuth
