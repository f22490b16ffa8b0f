import Arbora.Policy.Gate

/-! What one `decisions` call has been answered by the time it stores a decision or returns. -/
namespace Arbora.Policy
open Interaction

structure DecisionCall where
  items : List PolicyItem
  caller : PolicyCaller
  action : String

def DecisionCall.program (gate : PolicyGate) (call : DecisionCall) : Gate (List Bool) :=
  gate.decisions call.items call.caller call.action

abbrev History := List (Event GateCall GateCall.Answer)

/-- The decision point was asked and answered. -/
def checked (requests : List CheckRequest) (responses : List (Option CheckResponse)) :
    Event GateCall GateCall.Answer := ⟨.bulkCheck requests,Awaited.returned responses⟩

def hit (key : CacheKey) (t : Instant) (value : Bool) : Event GateCall GateCall.Answer :=
  ⟨.cacheGet key,DecisionCache.Lookup.live t value⟩

/-- The decision point answered `value` to a request. -/
def Answered (h : History) (request : CheckRequest) (value : Bool) : Prop :=
  ∃ requests responses, ∃ m : Nat, ∃ r : CheckResponse, checked requests responses ∈ h ∧ requests[m]? = some request ∧
    responses[m]? = some (some r) ∧ r.reason ≠ some unavailableReason ∧ r.allowed = value

/-- A response the gate accepts. -/
def Authoritative (response : Option CheckResponse) : Prop :=
  ∃ r, response = some r ∧ r.reason ≠ some unavailableReason

/-- Every question to the decision point was answered in full. -/
def Healthy (h : History) : Prop :=
  ∀ requests (a : Awaited (List (Option CheckResponse))),
    (⟨.bulkCheck requests,a⟩ : Event GateCall GateCall.Answer) ∈ h →
    ∃ responses, a = .returned responses ∧ responses.length = requests.length ∧
      ∀ r ∈ responses, Authoritative r

section
variable (gate : PolicyGate) (ctx : PolicyGate.Context)

/-- A decision was answered in this call, or taken from the cache where that is done. -/
def Decided (h : History) (item : PolicyItem) (value : Bool) : Prop :=
  Answered h (ctx.request item) value ∨
  (PolicyGate.uncachedEffect item.effect = false ∧ ∃ t, hit (ctx.key gate item) t value ∈ h)

def Stores (items : List PolicyItem) (h : History) : GateCall → Prop
  | .cachePut key value => ∃ item ∈ items, key = ctx.key gate item ∧
      PolicyGate.uncachedEffect item.effect = false ∧ Answered h (ctx.request item) value
  | _ => True

abbrev Tracks {α : Type} (items : List PolicyItem) (p : Gate α) (Q : History → α → Prop) (h : History) : Prop :=
  p.Meets Prog.record (Stores gate ctx items) Q (fun _ _ => True) h

end

variable {h' : History}

theorem Answered.mono {h : History} {request : CheckRequest} {value : Bool} (ha : Answered h request value) :
    Answered (h ++ h') request value := by
  obtain ⟨requests,responses,m,r,hc,hrest⟩ := ha
  exact ⟨requests,responses,m,r,List.mem_append_left _ hc,hrest⟩

theorem Decided.mono {gate : PolicyGate} {ctx : PolicyGate.Context} {h : History} {item : PolicyItem}
    {value : Bool} (hd : Decided gate ctx h item value) : Decided gate ctx (h ++ h') item value := by
  rcases hd with ha | ⟨hu,t,ht⟩
  · exact .inl ha.mono
  · exact .inr ⟨hu,t,List.mem_append_left _ ht⟩

section
variable {gate : PolicyGate} {ctx : PolicyGate.Context} {items : List PolicyItem}

/-- The decisions after a part of the work: those of `slots` are decided, the others as before. -/
structure Settles (gate : PolicyGate) (ctx : PolicyGate.Context) (slots : PolicyGate.Slots) (allowed : List Bool)
    (h : History) (allowed' : List Bool) : Prop where
  length : allowed'.length = allowed.length
  decided : ∀ slot ∈ slots, slot.1 < allowed.length →
    ∃ value, allowed'[slot.1]? = some value ∧ Decided gate ctx h slot.2 value
  kept : ∀ k, k ∉ slots.map Prod.fst → allowed'[k]? = allowed[k]?

/-- What `_split_cached` leaves: the slots it did not answer are kept as they were. -/
structure Split (gate : PolicyGate) (ctx : PolicyGate.Context) (slots : PolicyGate.Slots) (allowed : List Bool)
    (h : History) (out : List Bool × PolicyGate.Slots) : Prop where
  sub : out.2.Sublist slots
  length : out.1.length = allowed.length
  decided : ∀ slot ∈ slots, slot.1 < allowed.length → slot ∈ out.2 ∨
    ∃ value, out.1[slot.1]? = some value ∧ Decided gate ctx h slot.2 value
  kept : ∀ k, k ∉ slots.map Prod.fst ∨ k ∈ out.2.map Prod.fst → out.1[k]? = allowed[k]?

variable {h : History} {value : Bool} {k start : Nat} {allowed : List Bool} {slot : Nat × PolicyItem}
  {slots : PolicyGate.Slots}

variable {h' : History} {key : CacheKey} {x : Event GateCall GateCall.Answer} {out : List Bool × PolicyGate.Slots}

theorem healthy_append : Healthy (h ++ h') ↔ Healthy h ∧ Healthy h' := by
  constructor
  · intro hh
    exact ⟨fun r a ha => hh r a (List.mem_append_left _ ha),fun r a ha => hh r a (List.mem_append_right _ ha)⟩
  · rintro ⟨h1,h2⟩ requests a ha
    rcases List.mem_append.mp ha with hm | hm
    · exact h1 requests a hm
    · exact h2 requests a hm

theorem healthy_single (hx : ∀ requests, x.1 ≠ .bulkCheck requests) : Healthy [x] := by
  intro requests a ha
  rw [List.mem_singleton] at ha
  exact absurd (by rw [← ha]) (hx requests)

theorem look_tracks {Q : History → DecisionCache.Lookup → Prop}
    (hq : ∀ a : DecisionCache.Lookup, Q (h ++ [⟨.cacheGet key,a⟩]) a) :
    Tracks gate ctx items (GateCall.look key) Q h := by
  refine ⟨trivial,?_⟩
  rintro a h' rfl
  exact hq a

/-- The history goes on, with every question to the decision point answered. -/
def Extends (h h' : History) : Prop := ∃ new, h' = h ++ new ∧ Healthy new

theorem Extends.refl (h : History) : Extends h h := ⟨[],by simp,by simp [Healthy]⟩

theorem Extends.trans {h'' : History} (h1 : Extends h h') (h2 : Extends h' h'') : Extends h h'' := by
  obtain ⟨new,rfl,hn⟩ := h1
  obtain ⟨new',rfl,hn'⟩ := h2
  exact ⟨new ++ new',by simp,healthy_append.mpr ⟨hn,hn'⟩⟩

theorem Extends.one (hx : ∀ requests, x.1 ≠ .bulkCheck requests) : Extends h (h ++ [x]) := ⟨[x],rfl,healthy_single hx⟩

/-- A slot left for the decision point, in front of what the rest of the loop leaves. -/
private theorem Split.ask (hn : slot.1 ∉ slots.map Prod.fst) (hs : Split gate ctx slots allowed h out) :
    Split gate ctx (slot :: slots) allowed h (out.1,slot :: out.2) := by
  refine ⟨hs.sub.cons_cons _,hs.length,?_,?_⟩
  · intro s hm hlt
    rcases List.mem_cons.mp hm with rfl | hm
    · exact .inl List.mem_cons_self
    · rcases hs.decided s hm hlt with hin | hdec
      · exact .inl (List.mem_cons_of_mem _ hin)
      · exact .inr hdec
  · intro k hk
    refine hs.kept k ?_
    by_cases hslot : k = slot.1
    · exact .inl (hslot ▸ hn)
    · rcases hk with hk | hk
      · left
        intro hm
        exact hk (List.mem_cons_of_mem _ hm)
      · right
        rcases List.mem_cons.mp hk with heq | hm
        · exact absurd heq hslot
        · exact hm

private theorem Split.recall (hn : slot.1 ∉ slots.map Prod.fst)
    (hd : Decided gate ctx h slot.2 value) (hs : Split gate ctx slots (allowed.set slot.1 value) h out) :
    Split gate ctx (slot :: slots) allowed h out := by
  have hlen := hs.length
  rw [List.length_set] at hlen
  refine ⟨hs.sub.cons _,hlen,?_,?_⟩
  · intro s hm hlt
    rcases List.mem_cons.mp hm with rfl | hm
    · refine .inr ⟨value,?_,hd⟩
      rw [hs.kept s.1 (.inl hn),List.getElem?_set_self hlt]
    · exact hs.decided s hm (by rwa [List.length_set])
  · intro k hk
    have hne : slot.1 ≠ k := by
      rintro rfl
      rcases hk with hk | hk
      · exact hk List.mem_cons_self
      · exact hn (hs.sub.map Prod.fst |>.subset hk)
    have hk' : k ∉ slots.map Prod.fst ∨ k ∈ out.2.map Prod.fst := by
      rcases hk with hk | hk
      · left
        intro hm
        exact hk (List.mem_cons_of_mem _ hm)
      · exact .inr hk
    rw [hs.kept k hk',List.getElem?_set_ne hne]

theorem splitCached_tracks (slots : PolicyGate.Slots) (allowed : List Bool) (h : History)
    (hn : (slots.map Prod.fst).Nodup) : Tracks gate ctx items (gate.splitCached ctx slots allowed)
      (fun h' out => Extends h h' ∧ Split gate ctx slots allowed h' out) h := by
  induction slots generalizing allowed h with
  | nil => exact ⟨.refl h,.slnil,rfl,by simp,by simp⟩
  | cons slot rest ih =>
    obtain ⟨index,item⟩ := slot
    rw [List.map_cons,List.nodup_cons] at hn
    unfold PolicyGate.splitCached
    split_ifs with hu
    · refine (ih allowed h hn.2).seq ?_
      rintro h' ⟨out,uncached⟩ ⟨hext,hs⟩
      exact ⟨hext,hs.ask hn.1⟩
    · have hu' : PolicyGate.uncachedEffect item.effect = false := by simpa using hu
      refine (look_tracks (Q := fun h' a => h' = h ++ [⟨.cacheGet (ctx.key gate item),a⟩]) fun a => rfl).seq ?_
      rintro h1 a rfl
      have hone : Extends h (h ++ [⟨.cacheGet (ctx.key gate item),a⟩]) := .one nofun
      cases a with
      | live t value =>
        refine (ih (allowed.set index value) _ hn.2).mono (fun _ _ => id) ?_ (fun _ _ => id)
        rintro h' out ⟨hext,hs⟩
        refine ⟨hone.trans hext,hs.recall hn.1 ?_⟩
        obtain ⟨new,rfl,_⟩ := hext
        exact .inr ⟨hu',t,by simp [hit]⟩
      | absent =>
        refine (ih allowed _ hn.2).seq ?_
        rintro h' ⟨out,uncached⟩ ⟨hext,hs⟩
        exact ⟨hone.trans hext,hs.ask hn.1⟩
      | expired t =>
        refine (ih allowed _ hn.2).seq ?_
        rintro h' ⟨out,uncached⟩ ⟨hext,hs⟩
        exact ⟨hone.trans hext,hs.ask hn.1⟩

theorem store_tracks {Q : History → Instant → Prop}
    (hg : Stores gate ctx items h (.cachePut key value)) (hq : ∀ a : Instant, Q (h ++ [⟨.cachePut key value,a⟩]) a) :
    Tracks gate ctx items (GateCall.store key value) Q h := by
  refine ⟨hg,?_⟩
  rintro a h' rfl
  exact hq a

private theorem Settles.cons {allowed' : List Bool}
    (hn : slot.1 ∉ slots.map Prod.fst) (hd : Decided gate ctx h slot.2 value)
    (hs : Settles gate ctx slots (allowed.set slot.1 value) h allowed') :
    Settles gate ctx (slot :: slots) allowed h allowed' := by
  have hlen := hs.length
  rw [List.length_set] at hlen
  refine ⟨hlen,?_,?_⟩
  · intro s hm hlt
    rcases List.mem_cons.mp hm with rfl | hm
    · refine ⟨value,?_,hd⟩
      rw [hs.kept s.1 hn,List.getElem?_set_self hlt]
    · exact hs.decided s hm (by rwa [List.length_set])
  · intro k hk
    rw [List.map_cons,List.mem_cons,not_or] at hk
    rw [hs.kept k hk.2,List.getElem?_set_ne (Ne.symm hk.1)]

theorem applyResponses_tracks (pairs : List ((Nat × PolicyItem) × Option CheckResponse)) (allowed : List Bool)
    (h : History) (hn : ((pairs.map Prod.fst).map Prod.fst).Nodup) (hi : ∀ pair ∈ pairs, pair.1.2 ∈ items)
    (ha : ∀ pair ∈ pairs, ∀ r : CheckResponse, pair.2 = some r → r.reason ≠ some unavailableReason →
      Answered h (ctx.request pair.1.2) r.allowed) : Tracks gate ctx items (gate.applyResponses ctx pairs allowed)
      (fun h' allowed' => Extends h h' ∧ Settles gate ctx (pairs.map Prod.fst) allowed h' allowed' ∧
        ∀ pair ∈ pairs, Authoritative pair.2) h := by
  induction pairs generalizing allowed h with
  | nil => exact ⟨.refl h,⟨rfl,by simp,by simp⟩,by simp⟩
  | cons pair rest ih =>
    obtain ⟨⟨index,item⟩,response⟩ := pair
    rw [List.map_cons,List.map_cons,List.nodup_cons] at hn
    obtain ⟨hitem,hirest⟩ := List.forall_mem_cons.mp hi
    obtain ⟨hfirst,harest⟩ := List.forall_mem_cons.mp ha
    unfold PolicyGate.applyResponses
    cases response with
    | none => trivial
    | some r =>
      dsimp only
      split_ifs with hr hu
      · trivial
      · have hans := hfirst r rfl hr
        refine (ih (allowed.set index r.allowed) h hn.2 hirest harest).mono (fun _ _ => id) ?_ (fun _ _ => id)
        rintro h' out ⟨hext,hs,hauth⟩
        refine ⟨hext,?_,List.forall_mem_cons.mpr ⟨⟨r,rfl,hr⟩,hauth⟩⟩
        obtain ⟨new,rfl,_⟩ := hext
        exact hs.cons hn.1 (.inl hans.mono)
      · -- stored under the item's key, then the rest
        have hu' : PolicyGate.uncachedEffect item.effect = false := by simpa using hu
        have hans := hfirst r rfl hr
        refine (store_tracks (Q := fun h' a => h' = h ++ [⟨.cachePut (ctx.key gate item) r.allowed,a⟩])
          ⟨item,hitem,rfl,hu',hans⟩ fun a => rfl).seq ?_
        rintro h1 a rfl
        have hone : Extends h (h ++ [⟨.cachePut (ctx.key gate item) r.allowed,a⟩]) := .one nofun
        refine (ih (allowed.set index r.allowed) _ hn.2 hirest ?_).mono (fun _ _ => id) ?_ (fun _ _ => id)
        · exact fun p hp r' hr' hx => (harest p hp r' hr' hx).mono
        · rintro h' out ⟨hext,hs,hauth⟩
          have hext' := hone.trans hext
          refine ⟨hext',?_,List.forall_mem_cons.mpr ⟨⟨r,rfl,hr⟩,hauth⟩⟩
          obtain ⟨new,rfl,_⟩ := hext'
          exact hs.cons hn.1 (.inl hans.mono)

theorem bulkCheck_tracks {requests : List CheckRequest} {Q : History → List (Option CheckResponse) → Prop}
    (hq : ∀ responses, Q (h ++ [checked requests responses]) responses) :
    Tracks gate ctx items (PolicyGate.bulkCheck requests) Q h := by
  refine ⟨trivial,?_⟩
  rintro (responses | _ | _) h' rfl
  · exact hq responses
  · trivial
  · trivial

theorem decideChunk_tracks (slots : PolicyGate.Slots) (allowed : List Bool) (h : History)
    (hn : (slots.map Prod.fst).Nodup) (hi : ∀ slot ∈ slots, slot.2 ∈ items) :
    Tracks gate ctx items (gate.decideChunk ctx slots allowed)
      (fun h' allowed' => Extends h h' ∧ Settles gate ctx slots allowed h' allowed') h := by
  unfold PolicyGate.decideChunk
  split_ifs with hs
  · subst hs
    exact ⟨.refl h,rfl,by simp,by simp⟩
  refine (splitCached_tracks slots allowed h hn).seq ?_
  rintro h1 ⟨allowed1,uncached⟩ ⟨hext1,hsplit⟩
  dsimp only at hsplit ⊢
  split_ifs with hun
  · -- the cache had everything
    subst hun
    refine ⟨hext1,hsplit.length,?_,?_⟩
    · intro slot hm hlt
      rcases hsplit.decided slot hm hlt with hnil | hdec
      · exact absurd hnil List.not_mem_nil
      · exact hdec
    · exact fun k hk => hsplit.kept k (.inl hk)
  refine (bulkCheck_tracks (Q := fun h' responses =>
    h' = h1 ++ [checked (uncached.map fun slot => ctx.request slot.2) responses]) fun _ => rfl).seq ?_
  rintro h2 responses rfl
  split_ifs with hlen
  · trivial
  have hlen' : responses.length = uncached.length := not_not.mp hlen
  have hfst : (uncached.zip responses).map Prod.fst = uncached := List.map_fst_zip hlen'.ge
  have hsub := hsplit.sub
  refine (applyResponses_tracks (uncached.zip responses) allowed1 _ ?_ ?_ ?_).mono (fun _ _ => id) ?_ (fun _ _ => id)
  · rw [hfst]
    exact hn.sublist (hsub.map Prod.fst)
  · intro pair hp
    exact hi _ (hsub.subset (List.of_mem_zip hp).1)
  · intro pair hp r hr hx
    obtain ⟨m,hm⟩ := List.mem_iff_getElem?.mp hp
    obtain ⟨hslot,hresp⟩ := List.getElem?_zip_eq_some.mp hm
    refine ⟨_,responses,m,r,List.mem_append_right _ List.mem_cons_self,?_,by rw [hresp,hr],hx,rfl⟩
    rw [List.getElem?_map,hslot]
    rfl
  · rintro h' out ⟨hext,hset,hauth⟩
    rw [hfst] at hset
    have hall : ∀ r ∈ responses, Authoritative r := by
      intro r hr
      obtain ⟨m,hm⟩ := List.mem_iff_getElem?.mp hr
      have hlt : m < uncached.length := hlen' ▸ (List.getElem?_eq_some_iff.mp hm).1
      have hpair : (uncached.zip responses)[m]? = some (uncached[m],r) := by
        rw [List.getElem?_zip_eq_some]
        exact ⟨List.getElem?_eq_getElem hlt,hm⟩
      exact hauth _ (List.mem_of_getElem? hpair)
    have hbulk : Extends h1 (h1 ++ [checked (uncached.map fun slot => ctx.request slot.2) responses]) := by
      refine ⟨_,rfl,?_⟩
      intro requests a hm
      rw [List.mem_singleton] at hm
      cases hm
      exact ⟨responses,rfl,by rw [List.length_map,hlen'],hall⟩
    refine ⟨hext1.trans (hbulk.trans hext),hset.length.trans hsplit.length,?_,?_⟩
    · intro slot hm hlt
      rcases hsplit.decided slot hm hlt with hin | ⟨value,hv,hdec⟩
      · exact hset.decided slot hin (by rwa [hsplit.length])
      · by_cases hu : slot.1 ∈ uncached.map Prod.fst
        · obtain ⟨slot',hin,heq⟩ := List.mem_map.mp hu
          have hsame : slot' = slot := List.inj_on_of_nodup_map hn (hsub.subset hin) hm heq
          subst hsame
          exact hset.decided slot' hin (by rwa [hsplit.length])
        · refine ⟨value,by rw [hset.kept _ hu]; exact hv,?_⟩
          obtain ⟨new,rfl,_⟩ := hbulk.trans hext
          exact hdec.mono
    · intro k hk
      have hu : k ∉ uncached.map Prod.fst := fun hm => hk (hsub.map Prod.fst |>.subset hm)
      rw [hset.kept k hu,hsplit.kept k (.inl hk)]

/-- The position is in the chunk that begins at `start`. -/
def InChunk (k start : Nat) : Prop := start ≤ k ∧ k < start + bulkCheckMax

private theorem indexed_getElem? (m : Nat) :
    (items.zipIdx.map Prod.swap)[m]? = items[m]?.map fun item => (m,item) := by
  rw [List.getElem?_map,List.getElem?_zipIdx]
  cases items[m]? with
  | none => rfl
  | some item => simp

theorem mem_positions {item : PolicyItem} : (k,item) ∈ PolicyGate.positions items allowed start ↔
    items[k]? = some item ∧ InChunk k start ∧ allowed.getD k false = true := by
  unfold PolicyGate.positions
  rw [List.mem_filter]
  refine Iff.trans (and_congr_left' ?_) and_assoc
  rw [List.mem_iff_getElem?]
  constructor
  · rintro ⟨m,hm⟩
    rw [List.getElem?_take] at hm
    split_ifs at hm with hlt
    rw [List.getElem?_drop,indexed_getElem?,Option.map_eq_some_iff] at hm
    obtain ⟨item',hi,heq⟩ := hm
    cases heq
    exact ⟨hi,Nat.le_add_right _ _,by omega⟩
  · rintro ⟨hi,hle,hlt⟩
    refine ⟨k - start,?_⟩
    rw [List.getElem?_take,if_pos (by omega),List.getElem?_drop,Nat.add_sub_cancel' hle,indexed_getElem?,hi]
    rfl

theorem positions_nodup (allowed : List Bool) (start : Nat) :
    ((PolicyGate.positions items allowed start).map Prod.fst).Nodup := by
  have hall : ((items.zipIdx.map Prod.swap).map Prod.fst).Nodup := by
    have hsnd : (items.zipIdx.map Prod.swap).map Prod.fst = items.zipIdx.map Prod.snd := by
      rw [List.map_map]
      rfl
    rw [hsnd,List.zipIdx_map_snd]
    exact List.nodup_range'
  refine hall.sublist (List.Sublist.map _ ?_)
  exact (List.filter_sublist.trans (List.take_sublist _ _)).trans (List.drop_sublist _ _)

private theorem not_mem_chunk (h : ¬ InChunk k start) :
    k ∉ (PolicyGate.positions items allowed start).map Prod.fst := by
  intro hm
  obtain ⟨⟨k',item⟩,hin,rfl⟩ := List.mem_map.mp hm
  exact h (mem_positions.mp hin).2.1

private theorem not_mem_denied (h : allowed[k]? ≠ some true) :
    k ∉ (PolicyGate.positions items allowed start).map Prod.fst := by
  intro hm
  obtain ⟨⟨k',item⟩,hin,rfl⟩ := List.mem_map.mp hm
  have hd := (mem_positions.mp hin).2.2
  cases ha : allowed[k']? with
  | none => simp [ha] at hd
  | some value =>
    rw [List.getD_eq_getElem?_getD,ha] at hd
    exact h (ha.trans (congrArg some hd))

structure Covers (gate : PolicyGate) (ctx : PolicyGate.Context) (items : List PolicyItem) (starts : List Nat)
    (allowed : List Bool) (h : History) (allowed' : List Bool) : Prop where
  length : allowed'.length = allowed.length
  decided : ∀ k item, items[k]? = some item → allowed[k]? = some true → (∃ start ∈ starts, InChunk k start) →
    ∃ value, allowed'[k]? = some value ∧ Decided gate ctx h item value
  kept : ∀ k, (allowed[k]? ≠ some true ∨ ¬ ∃ start ∈ starts, InChunk k start) → allowed'[k]? = allowed[k]?

theorem decideChunks_tracks (starts : List Nat) (allowed : List Bool) (h : History)
    (hlen : allowed.length = items.length) : Tracks gate ctx items (gate.decideChunks ctx items starts allowed)
      (fun h' allowed' => Extends h h' ∧ Covers gate ctx items starts allowed h' allowed') h := by
  induction starts generalizing allowed h with
  | nil => exact ⟨.refl h,rfl,by simp,by simp⟩
  | cons start rest ih =>
    refine (decideChunk_tracks _ allowed h (positions_nodup allowed start) ?_).seq ?_
    · rintro ⟨k,item⟩ hm
      exact List.mem_of_getElem? (mem_positions.mp hm).1
    rintro h1 allowed1 ⟨hext1,hset⟩
    refine (ih allowed1 h1 (hset.length.trans hlen)).mono (fun _ _ => id) ?_ (fun _ _ => id)
    rintro h' out ⟨hext,hcov⟩
    refine ⟨hext1.trans hext,hcov.length.trans hset.length,?_,?_⟩
    · intro k item hk htrue hchunk
      have hlt : k < allowed.length := (List.getElem?_eq_some_iff.mp htrue).1
      by_cases hfirst : InChunk k start
      · -- decided here, and kept or decided again by the later chunks
        have hpos : (k,item) ∈ PolicyGate.positions items allowed start :=
          mem_positions.mpr ⟨hk,hfirst,by simp [htrue]⟩
        obtain ⟨value,hv,hdec⟩ := hset.decided (k,item) hpos hlt
        by_cases hagain : allowed1[k]? = some true ∧ ∃ start ∈ rest, InChunk k start
        · exact hcov.decided k item hk hagain.1 hagain.2
        · refine ⟨value,?_,?_⟩
          · rw [hcov.kept k (not_and_or.mp hagain)]
            exact hv
          · obtain ⟨new,rfl,_⟩ := hext
            exact hdec.mono
      · have hsame : allowed1[k]? = allowed[k]? := hset.kept k (not_mem_chunk hfirst)
        obtain ⟨start',hmem,hin⟩ := hchunk
        rcases List.mem_cons.mp hmem with rfl | hmem
        · exact absurd hin hfirst
        · exact hcov.decided k item hk (hsame.trans htrue) ⟨start',hmem,hin⟩
    · intro k hk
      have hsame : allowed1[k]? = allowed[k]? := by
        refine hset.kept k ?_
        rcases hk with hk | hk
        · exact not_mem_denied hk
        · exact not_mem_chunk fun hin => hk ⟨start,List.mem_cons_self,hin⟩
      rw [← hsame]
      refine hcov.kept k ?_
      rcases hk with hk | hk
      · exact .inl (by rwa [hsame])
      · refine .inr ?_
        rintro ⟨start',hmem,hin⟩
        exact hk ⟨start',List.mem_cons_of_mem _ hmem,hin⟩

theorem revision_meets {caller : PolicyCaller} {G : History → GateCall → Prop} (h : History)
    (hset : ∀ h tenant revision, G h (.setRevision tenant revision)) (hcall : ∀ h revision, G h (.onRevisionChange revision)) :
    (gate.revision caller).Meets Prog.record G (fun h' r => Extends h h' ∧ r = caller.policyRevision)
      (fun _ _ => True) h := by
  unfold PolicyGate.revision
  by_cases hr : caller.policyRevision = ""
  · simp only [hr,if_true]
    trivial
  by_cases ht : caller.tenant = ""
  · simp only [hr,ht,if_true,if_false]
    trivial
  simp only [hr,ht,if_false]
  refine Prog.Meets.seq (Q := fun h' _ => Extends h h') ?_ ?_
  · refine ⟨hset _ _ _,?_⟩
    rintro a h' rfl
    exact .one nofun
  · intro h1 changed hext
    split_ifs with hc
    · refine Prog.Meets.seq (Q := fun h' _ => Extends h h') ?_ ?_
      · refine ⟨hcall _ _,?_⟩
        rintro a h' rfl
        exact hext.trans (.one nofun)
      · rintro h2 (_ | _ | _) hext2
        · exact ⟨hext2,rfl⟩
        · trivial
        · trivial
    · exact ⟨hext,rfl⟩

end

section
variable {gate : PolicyGate} {call : DecisionCall}

def DecisionCall.context (call : DecisionCall) : Except PolicyError PolicyGate.Context :=
  (principalCheck call.caller).map fun principal => ⟨call.caller,principal,call.caller.policyRevision,call.action⟩

def Guarded (gate : PolicyGate) (call : DecisionCall) (h : History) : GateCall → Prop
  | .cachePut key value => ∃ ctx, call.context = .ok ctx ∧ Stores gate ctx call.items h (.cachePut key value)
  | _ => True

def DecisionCall.base (call : DecisionCall) (item : PolicyItem) : Bool :=
  baseAuthorized item call.caller call.action

structure Returned (gate : PolicyGate) (call : DecisionCall) (h : History) (allowed : List Bool) : Prop where
  length : allowed.length = call.items.length
  healthy : Healthy h
  refused : ∀ (k : Nat) item, call.items[k]? = some item → call.base item = false → allowed[k]? = some false
  decided : gate.mode ≠ .none → ∀ (k : Nat) item, call.items[k]? = some item → call.base item = true →
    ∃ ctx value, call.context = .ok ctx ∧ allowed[k]? = some value ∧ Decided gate ctx h item value

theorem mem_starts {n k : Nat} (h : k < n) : ∃ start ∈ PolicyGate.starts n, InChunk k start := by
  refine ⟨k / bulkCheckMax * bulkCheckMax,?_,?_⟩
  · unfold PolicyGate.starts
    refine List.mem_map.mpr ⟨k / bulkCheckMax,List.mem_range.mpr ?_,rfl⟩
    simp only [bulkCheckMax]
    omega
  · simp only [InChunk,bulkCheckMax]
    omega

private theorem base_getElem? (call : DecisionCall) (k : Nat) :
    (call.items.map fun item => baseAuthorized item call.caller call.action)[k]? = call.items[k]?.map call.base :=
  List.getElem?_map

private theorem base_returned (h : History) (hh : Healthy h)
    (hmode : gate.mode = .none ∨ ∀ item ∈ call.items, call.base item = false) :
    Returned gate call h (call.items.map fun item => baseAuthorized item call.caller call.action) := by
  refine ⟨List.length_map _,hh,?_,?_⟩
  · intro k item hk hb
    rw [base_getElem?,hk,Option.map_some,hb]
  · intro hm k item hk hb
    rcases hmode with hnone | hall
    · exact absurd hnone hm
    · rw [hall item (List.mem_of_getElem? hk)] at hb
      cases hb

theorem decisions_tracks (gate : PolicyGate) (call : DecisionCall) :
    (call.program gate).Meets Prog.record (Guarded gate call) (Returned gate call) (fun _ _ => True) [] := by
  have hempty : Healthy [] := by simp [Healthy]
  unfold DecisionCall.program PolicyGate.decisions
  by_cases hact : call.action ≠ "discover" ∧ call.action ≠ "load" ∧ call.action ≠ "call"
  · simp only [hact,ne_eq,not_false_eq_true,and_self,if_true]
    trivial
  simp only [if_neg hact]
  by_cases hmode : gate.mode = .none ∨
      (!(call.items.map fun item => baseAuthorized item call.caller call.action).any id) = true
  · rw [if_pos hmode]
    refine base_returned [] hempty (hmode.imp_right ?_)
    intro hnone item hitem
    have hall := List.any_eq_false.mp (Bool.not_eq_true' _ ▸ hnone)
    simpa using hall (call.base item) (List.mem_map_of_mem hitem)
  rw [if_neg hmode]
  cases hpdp : gate.hasDecisionPoint with
  | false => trivial
  | true =>
    refine (revision_meets [] (fun _ _ _ => trivial) (fun _ _ => trivial)).seq ?_
    rintro h1 revision ⟨hext1,rfl⟩
    cases hprincipal : principalCheck call.caller with
    | error x => trivial
    | ok principal =>
      have hctx : call.context = .ok ⟨call.caller,principal,call.caller.policyRevision,call.action⟩ := by
        rw [DecisionCall.context,hprincipal]
        rfl
      refine (decideChunks_tracks _ _ h1 (List.length_map _)).mono ?_ ?_ (fun _ _ => id)
      · intro h c hc
        cases c with
        | cachePut key value => exact ⟨_,hctx,hc⟩
        | _ => trivial
      · rintro h' allowed ⟨hext,hcov⟩
        obtain ⟨new,hnew,hhealthy⟩ := hext1.trans hext
        refine ⟨hcov.length.trans (List.length_map _),by rw [hnew]; simpa using hhealthy,?_,?_⟩
        · intro k item hk hb
          have hk' := base_getElem? call k
          rw [hk,Option.map_some,hb] at hk'
          rw [hcov.kept k (.inl (by rw [hk']; simp)),hk']
        · intro _ k item hk hb
          have hk' := base_getElem? call k
          rw [hk,Option.map_some,hb] at hk'
          have hlt : k < call.items.length := (List.getElem?_eq_some_iff.mp hk).1
          obtain ⟨value,hv,hdec⟩ := hcov.decided k item hk hk' (mem_starts hlt)
          exact ⟨_,value,hctx,hv,hdec⟩

end
end Arbora.Policy
