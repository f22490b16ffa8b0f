import Arbora.Lib.Pool
import Arbora.Policy.GateHistory

/-! Concurrent `decisions` calls on one gate: what every returned decision rests on, whatever the
decision point answers and however the calls overlap. -/
namespace Arbora.Policy
open Interaction Arbora.Api

/-- Items as `op_resource` and `fleet_resource` build them for a declared effect. -/
def Built (item : PolicyItem) : Prop :=
  (∃ op : OpSpec, item = opResource op) ∨
  ∃ (kind name : String) (scopes : List String) (effect : Effect) (rule : String),
    fleetResource kind name scopes effect.value rule = .ok item

private theorem split_last_colon {a b e f : List Char} (he : ':' ∉ e) (hf : ':' ∉ f)
    (h : a ++ ':' :: e = b ++ ':' :: f) : a = b ∧ e = f := by
  rcases List.append_eq_append_iff.mp h with ⟨c,hb,hc⟩ | ⟨c,ha,hc⟩
  · cases c with
    | nil => exact ⟨by simpa using hb.symm,by simpa using hc⟩
    | cons x c =>
      cases hc
      exact absurd (by simp) he
  · cases c with
    | nil => exact ⟨by simpa using ha,by simpa using hc.symm⟩
    | cons x c =>
      cases hc
      exact absurd (by simp) hf

theorem effect_no_colon (effect : Effect) : ':' ∉ effect.value.toList := by
  cases effect <;> decide

theorem built_cases {item : PolicyItem} (h : Built item) : ∃ effect : Effect, item.effect = effect.value ∧
    ((∃ id : String, item.resource = "op:" ++ id ∧
      item.attributes = some [("op_id",.text id),("effect",.text effect.value)]) ∨
    ∃ (kind : FleetKind) (name : String), item.resource = kind.leading ++ name ∧
      item.attributes = some [("kind",.text kind.name),("effect",.text effect.value),
        ("destructive_fleet",.flag (effect.value == "destructive" || effect.value == "admin"))]) := by
  rcases h with ⟨op,rfl⟩ | ⟨kind,name,scopes,effect,rule,hitem⟩
  · exact ⟨op.effect,rfl,.inl ⟨op.id,rfl,rfl⟩⟩
  · unfold fleetResource at hitem
    split at hitem
    · cases hitem
    · rename_i k hk
      split_ifs at hitem
      cases hitem
      have hname : k.name = kind := by simpa [FleetKind.ofName] using List.find?_some hk
      exact ⟨effect,rfl,.inr ⟨k,name,rfl,by rw [hname]⟩⟩

private theorem leading_op_ne (kind : FleetKind) (id name : String) : "op:" ++ id ≠ kind.leading ++ name := by
  intro h
  have hfirst := congrArg (fun s => s.toList[0]?) h
  cases kind <;> simp [FleetKind.leading] at hfirst

private theorem leading_inj {kind kind' : FleetKind} {name name' : String}
    (h : kind.leading ++ name = kind'.leading ++ name') : kind = kind' := by
  have h0 := congrArg (fun s => s.toList[0]?) h
  have h6 := congrArg (fun s => s.toList[6]?) h
  cases kind <;> cases kind' <;> first | rfl | simp [FleetKind.leading] at h0 h6

theorem key_resource {item item' : PolicyItem} (h : Built item) (h' : Built item')
    (heq : item.resource ++ ":" ++ item.effect = item'.resource ++ ":" ++ item'.effect) :
    resourceCheck item = resourceCheck item' ∧ item.effect = item'.effect := by
  obtain ⟨effect,he,hcase⟩ := built_cases h
  obtain ⟨effect',he',hcase'⟩ := built_cases h'
  have hlists := congrArg String.toList heq
  rw [he,he'] at hlists
  simp only [String.toList_append,List.append_assoc] at hlists
  obtain ⟨hres,heff⟩ := split_last_colon (effect_no_colon effect) (effect_no_colon effect') hlists
  have hresource : item.resource = item'.resource := String.toList_inj.mp hres
  have heffect : effect.value = effect'.value := String.toList_inj.mp heff
  refine ⟨?_,by rw [he,he',heffect]⟩
  unfold resourceCheck
  rcases hcase with ⟨id,hr,ha⟩ | ⟨kind,name,hr,ha⟩
  · rcases hcase' with ⟨id',hr',ha'⟩ | ⟨kind',name',hr',ha'⟩
    · have hid : id = id' := by
        rw [hr,hr'] at hresource
        have := congrArg String.toList hresource
        simp only [String.toList_append] at this
        exact String.toList_inj.mp (List.append_cancel_left this)
      rw [ha,ha',hresource,heffect,hid]
    · exact absurd (hr.symm.trans (hresource.trans hr')) (leading_op_ne kind' id name')
  · rcases hcase' with ⟨id',hr',ha'⟩ | ⟨kind',name',hr',ha'⟩
    · exact absurd (hr'.symm.trans (hresource.symm.trans hr)) (leading_op_ne kind id' name)
    · have hkind : kind = kind' := leading_inj (hr.symm.trans (hresource.trans hr'))
      rw [ha,ha',hresource,heffect,hkind]

structure GateState where
  cache : DecisionCache
  clock : Instant

def world : World GateCall GateCall.Answer GateState := fun s e a s' =>
  match e, a with
  | .setRevision tenant revision, changed =>
    (changed,s'.cache) = s.cache.setRevision tenant revision ∧ s'.clock = s.clock
  | .onRevisionChange _, _ => s' = s
  | .cacheGet key, lookup =>
    ∃ t : Instant, s.clock.val ≤ t.val ∧ (lookup,s'.cache) = s.cache.get key t ∧ s'.clock = t
  | .bulkCheck _, _ => s' = s
  | .cachePut key value, t => s.clock.val ≤ (t : Instant).val ∧ s'.cache = s.cache.put key value t ∧ s'.clock = t

section
variable {ι : Type} {gate : PolicyGate} {ttl : ℚ}

abbrev Log (ι : Type) := List (ι × Event GateCall GateCall.Answer)

def stored (key : CacheKey) (value : Bool) (c : Instant) : Event GateCall GateCall.Answer := ⟨.cachePut key value,c⟩

/-- A decision was stored under the key no longer than the time to live before `t`. -/
def Recent (ttl : ℚ) (log : Log ι) (key : CacheKey) (value : Bool) (t : ℚ) : Prop :=
  ∃ j c, (j,stored key value c) ∈ log ∧ c.val ≤ t ∧ t ≤ c.val + ttl

/-- Every entry was put there by a call, and every decision taken from the cache is recent. -/
structure Provenance (ttl : ℚ) (log : Log ι) (s : GateState) : Prop where
  ttl_eq : s.cache.ttl = ttl
  entries : ∀ key expires value, s.cache.entries key = some (expires,value) →
    ∃ j c, (j,stored key value c) ∈ log ∧ expires = FloatingPoint.binary64.nearest (c.val + ttl) ∧ c.val ≤ s.clock.val
  hits : ∀ before i key t value after, log = before ++ (i,hit key t value) :: after →
    Recent ttl before key value t.val

private theorem hits_append {log : Log ι} {x : ι × Event GateCall GateCall.Answer}
    {P : Log ι → CacheKey → Bool → ℚ → Prop}
    (h : ∀ before i key t value after, log = before ++ (i,hit key t value) :: after → P before key value t.val)
    (hx : ∀ i key t value, x = (i,hit key t value) → P log key value t.val) :
    ∀ before i key t value after, log ++ [x] = before ++ (i,hit key t value) :: after → P before key value t.val := by
  intro before i key t value after heq
  rcases List.eq_nil_or_concat after with rfl | ⟨init,last,rfl⟩
  · obtain ⟨hlog,hlast⟩ := List.append_inj' heq rfl
    cases hlast
    exact hlog ▸ hx i key t value rfl
  · have heq' : log ++ [x] = (before ++ (i,hit key t value) :: init) ++ [last] := by simpa using heq
    exact h before i key t value init (List.append_inj' heq' rfl).1

private theorem Provenance.entries_mono {log : Log ι} {s s' : GateState} (hp : Provenance ttl log s)
    (x : ι × Event GateCall GateCall.Answer) (hc : s.clock.val ≤ s'.clock.val)
    (he : ∀ key e, s'.cache.entries key = some e → s.cache.entries key = some e) :
    ∀ key expires value, s'.cache.entries key = some (expires,value) → ∃ j c, (j,stored key value c) ∈ log ++ [x] ∧
        expires = FloatingPoint.binary64.nearest (c.val + ttl) ∧ c.val ≤ s'.clock.val := by
  intro key expires value hk
  obtain ⟨j,c,hm,hexp,hle⟩ := hp.entries key expires value (he _ _ hk)
  exact ⟨j,c,List.mem_append_left _ hm,hexp,hle.trans hc⟩

theorem provenance_step {log : Log ι} {s s' : GateState} {i : ι} {e : GateCall} {a : e.Answer}
    (hp : Provenance ttl log s) (hw : world s e a s') : Provenance ttl (log ++ [(i,⟨e,a⟩)]) s' := by
  cases e with
  | setRevision tenant revision =>
    obtain ⟨hcache,hclock⟩ := hw
    have hc : s'.cache = (s.cache.setRevision tenant revision).2 := congrArg Prod.snd hcache
    refine ⟨by rw [hc,DecisionCache.setRevision_ttl,hp.ttl_eq],
      hp.entries_mono _ (hclock ▸ le_rfl) ?_,hits_append hp.hits ?_⟩
    · intro key e he
      rw [hc] at he
      exact DecisionCache.setRevision_entries he
    · intro i key t value hx
      cases hx
  | onRevisionChange revision =>
    cases hw
    exact ⟨hp.ttl_eq,hp.entries_mono _ le_rfl fun _ _ => id,hits_append hp.hits (by intro i key t value hx; cases hx)⟩
  | cacheGet key =>
    obtain ⟨t,hle,hcache,hclock⟩ := hw
    have hc : s'.cache = (s.cache.get key t).2 := congrArg Prod.snd hcache
    have ha : a = (s.cache.get key t).1 := congrArg Prod.fst hcache
    refine ⟨by rw [hc,DecisionCache.get_ttl,hp.ttl_eq],hp.entries_mono _ (hclock ▸ hle) ?_,hits_append hp.hits ?_⟩
    · intro k e he
      rw [hc] at he
      exact DecisionCache.get_entries he
    · -- a decision found is one of an entry that has not expired
      intro i' key' t' value hx
      cases hx
      obtain ⟨rfl,expires,hentry,hlt⟩ := DecisionCache.get_live ha.symm
      obtain ⟨j,c,hm,hexp,hcs⟩ := hp.entries key expires value hentry
      exact ⟨j,c,hm,hcs.trans hle,age_le_ttl (hexp ▸ hlt)⟩
  | bulkCheck requests =>
    cases hw
    exact ⟨hp.ttl_eq,hp.entries_mono _ le_rfl fun _ _ => id,hits_append hp.hits (by intro i key t value hx; cases hx)⟩
  | cachePut key value =>
    obtain ⟨hle,hcache,hclock⟩ := hw
    refine ⟨by rw [hcache]; exact hp.ttl_eq,?_,hits_append hp.hits ?_⟩
    · intro k expires v hk
      rw [hcache] at hk
      rcases DecisionCache.put_entries hk with ⟨rfl,he⟩ | hold
      · cases he
        exact ⟨i,a,by simp [stored],by rw [hp.ttl_eq],hclock ▸ le_rfl⟩
      · obtain ⟨j,c,hm,hexp,hcs⟩ := hp.entries k expires v hold
        exact ⟨j,c,List.mem_append_left _ hm,hexp,hcs.trans (hclock ▸ hle)⟩
    · intro i' key' t' v hx
      cases hx

def Backed [DecidableEq ι] (ttl : ℚ) (calls : ι → DecisionCall) (log : Log ι) (i : ι)
    (item : PolicyItem) (value : Bool) : Prop :=
  ∃ ctx, (calls i).context = .ok ctx ∧
    (Answered (Pool.own i log) (ctx.request item) value ∨
    (PolicyGate.uncachedEffect item.effect = false ∧ ∃ before after key t j c,
      log = before ++ (i,hit key t value) :: after ∧ (j,stored key value c) ∈ before ∧
      c.val ≤ t.val ∧ t.val ≤ c.val + ttl ∧ Answered (Pool.own j before) (ctx.request item) value ∧
      (calls j).caller.tenant = (calls i).caller.tenant ∧
      (calls j).caller.policyRevision = (calls i).caller.policyRevision))

structure Sound [DecidableEq ι] (gate : PolicyGate) (ttl : ℚ) (calls : ι → DecisionCall) (log : Log ι) (i : ι)
    (allowed : List Bool) : Prop where
  length : allowed.length = (calls i).items.length
  authorized : ∀ (k : Nat) item, (calls i).items[k]? = some item → allowed[k]? = some true →
    (calls i).base item = true ∧ (gate.mode ≠ .none → Backed ttl calls log i item true)
  answered : Healthy (Pool.own i log) ∧ (gate.mode ≠ .none → ∀ (k : Nat) item, (calls i).items[k]? = some item →
    (calls i).base item = true → ∃ value, allowed[k]? = some value ∧ Backed ttl calls log i item value)

def gatePool (gate : PolicyGate) (ttl : ℚ) (httl : 0 < ttl ∧ ttl ≤ 30) (clock : Instant) (calls : ι → DecisionCall) :
    Pool ι GateCall GateCall.Answer PolicyError (List Bool) GateState :=
  ⟨⟨.empty ttl httl,clock⟩,fun i => (calls i).program gate⟩

variable [DecidableEq ι] {calls : ι → DecisionCall} {httl : 0 < ttl ∧ ttl ≤ 30} {clock : Instant} {log : Log ι}
  {pool : Pool ι GateCall GateCall.Answer PolicyError (List Bool) GateState}

theorem provenance (h : Pool.Steps world (gatePool gate ttl httl clock calls) log pool) :
    Provenance ttl log pool.state := by
  refine h.invariant (I := fun log s => Provenance ttl log s) (G := fun i => Guarded gate (calls i))
    (Q := fun _ _ => True) (X := fun _ _ => True) ?_ ?_ ?_
  · exact fun i => (decisions_tracks gate (calls i)).mono (fun _ _ => id) (fun _ _ _ => trivial) (fun _ _ => id)
  · refine ⟨rfl,?_,?_⟩
    · intro key expires value he
      cases he
    · intro before i key t value after heq
      simp at heq
  · exact fun log i e r s s' hp _ hw => provenance_step hp hw

theorem stored_answered (h : Pool.Steps world (gatePool gate ttl httl clock calls) log pool) {j : ι}
    {key : CacheKey} {value : Bool} {c : Instant} {before : Log ι} (hlog : ∃ after, log = before ++ after)
    (hm : (j,stored key value c) ∈ before) :
    ∃ ctx item, (calls j).context = .ok ctx ∧ item ∈ (calls j).items ∧ key = ctx.key gate item ∧
      Answered (Pool.own j before) (ctx.request item) value := by
  obtain ⟨after,rfl⟩ := hlog
  obtain ⟨u,v,rfl⟩ := List.append_of_mem hm
  have hruns := h.own_runs j
  have hown : Pool.own j ((u ++ (j,stored key value c) :: v) ++ after) =
      Pool.own j u ++ stored key value c :: Pool.own j (v ++ after) := by
    rw [List.append_assoc,Pool.own_append,List.cons_append,← List.singleton_append,Pool.own_append,
      Pool.own_single,if_pos rfl]
    rfl
  rw [hown] at hruns
  obtain ⟨ctx,hctx,item,hitem,hkey,_,hans⟩ := hruns.guarded (decisions_tracks gate (calls j))
  refine ⟨ctx,item,hctx,hitem,hkey,?_⟩
  rw [Pool.own_append]
  exact hans.mono

private theorem context_eq {call : DecisionCall} {ctx : PolicyGate.Context} (h : call.context = .ok ctx) :
    ∃ p, principalCheck call.caller = .ok p ∧ ctx = ⟨call.caller,p,call.caller.policyRevision,call.action⟩ := by
  unfold DecisionCall.context at h
  cases hp : principalCheck call.caller with
  | error x =>
    rw [hp] at h
    cases h
  | ok p =>
    rw [hp] at h
    cases h
    exact ⟨p,rfl,rfl⟩

theorem decided_backed (h : Pool.Steps world (gatePool gate ttl httl clock calls) log pool)
    (hbuilt : ∀ j, ∀ item ∈ (calls j).items, Built item)
    (hdigest : ∀ j k p q, principalCheck (calls j).caller = .ok p → principalCheck (calls k).caller = .ok q →
      gate.authorityDigest p = gate.authorityDigest q → p = q)
    {i : ι} {ctx : PolicyGate.Context} {item : PolicyItem} {value : Bool} (hctx : (calls i).context = .ok ctx)
    (hitem : item ∈ (calls i).items) (hd : Decided gate ctx (Pool.own i log) item value) :
    Backed ttl calls log i item value := by
  refine ⟨ctx,hctx,?_⟩
  rcases hd with hans | ⟨hu,t,ht⟩
  · exact .inl hans
  · obtain ⟨before,after,hlog⟩ := List.append_of_mem (Pool.mem_own.mp ht)
    obtain ⟨j,c,hm,hle,hage⟩ := (provenance h).hits before i _ t value after hlog
    obtain ⟨ctx',item',hctx',hitem',hkey,hans⟩ := stored_answered h ⟨_,hlog⟩ hm
    obtain ⟨p,hp,rfl⟩ := context_eq hctx
    obtain ⟨q,hq,rfl⟩ := context_eq hctx'
    simp only [PolicyGate.Context.key,CacheKey.mk.injEq] at hkey
    obtain ⟨hauth,htenant,hrevision,hresource,haction⟩ := hkey
    have hsame := hdigest i j p q hp hq hauth
    obtain ⟨hcheck,_⟩ := key_resource (hbuilt i item hitem) (hbuilt j item' hitem') hresource
    refine .inr ⟨hu,before,after,_,t,j,c,hlog,hm,hle,hage,?_,htenant.symm,hrevision.symm⟩
    have hreq : PolicyGate.Context.request ⟨(calls i).caller,p,(calls i).caller.policyRevision,(calls i).action⟩ item =
        PolicyGate.Context.request ⟨(calls j).caller,q,(calls j).caller.policyRevision,(calls j).action⟩ item' := by
      simp only [PolicyGate.Context.request,hsame,hcheck,haction]
    rw [hreq]
    exact hans

/-- In every interleaving, what a call returns has one entry per item and rests on base authority and,
with a decision point, on its answers to the same requests, none of them older than the time to live;
a call that was not answered in full does not return. -/
theorem decisions_sound (gate : PolicyGate) (ttl : ℚ) (httl : 0 < ttl ∧ ttl ≤ 30) (clock : Instant)
    (calls : ι → DecisionCall) (hbuilt : ∀ j, ∀ item ∈ (calls j).items, Built item)
    (hdigest : ∀ j k p q, principalCheck (calls j).caller = .ok p → principalCheck (calls k).caller = .ok q →
      gate.authorityDigest p = gate.authorityDigest q → p = q)
    (log : Log ι) (pool : Pool ι GateCall GateCall.Answer PolicyError (List Bool) GateState)
    (h : Pool.Steps world (gatePool gate ttl httl clock calls) log pool)
    (i : ι) (allowed : List Bool) (hret : pool.procs i = .ret allowed) : Sound gate ttl calls log i allowed := by
  have hr := (h.meets i (decisions_tracks gate (calls i))).returned hret
  refine ⟨hr.length,?_,hr.healthy,?_⟩
  · intro k item hk htrue
    have hbase : (calls i).base item = true := by
      by_contra hb
      have hfalse := hr.refused k item hk (by simpa using hb)
      rw [htrue] at hfalse
      cases hfalse
    refine ⟨hbase,fun hmode => ?_⟩
    obtain ⟨ctx,value,hctx,hv,hd⟩ := hr.decided hmode k item hk hbase
    rw [htrue] at hv
    cases hv
    exact decided_backed h hbuilt hdigest hctx (List.mem_of_getElem? hk) hd
  · intro hmode k item hk hb
    obtain ⟨ctx,value,hctx,hv,hd⟩ := hr.decided hmode k item hk hb
    exact ⟨value,hv,decided_backed h hbuilt hdigest hctx (List.mem_of_getElem? hk) hd⟩

end

namespace Sample

def gate : PolicyGate := ⟨.embedded,true,false,PrincipalCheck.uri⟩

/-- Two calls for the same two operations; the caller does not hold the scope of the second. -/
def calls : Bool → DecisionCall := fun _ =>
  ⟨[opResource { id := "graph.read", params := .unbound, scopes := ["graph:read"] },
      opResource { id := "graph.write", params := .unbound, scopes := ["graph:write"], effect := .write }],
    { principal := "alice", tenant := "acme", principalKind := "human", effectiveScopes := ["graph:read"],
      policyRevision := "r1" },"call"⟩

/-- The decision point allows everything, and the clock stands still. -/
def respond (s : GateState) : (e : GateCall) → e.Answer × GateState
  | .setRevision tenant revision =>
    ((s.cache.setRevision tenant revision).1,⟨(s.cache.setRevision tenant revision).2,s.clock⟩)
  | .onRevisionChange _ => (Awaited.returned (),s)
  | .cacheGet key => ((s.cache.get key s.clock).1,⟨(s.cache.get key s.clock).2,s.clock⟩)
  | .bulkCheck requests => (Awaited.returned (requests.map fun _ => some ⟨true,none⟩),s)
  | .cachePut key value => (s.clock,⟨s.cache.put key value s.clock,s.clock⟩)

theorem respond_world (s : GateState) (e : GateCall) : world s e (respond s e).1 (respond s e).2 := by
  cases e with
  | setRevision tenant revision => exact ⟨rfl,rfl⟩
  | onRevisionChange revision => exact rfl
  | cacheGet key => exact ⟨s.clock,le_rfl,rfl,rfl⟩
  | bulkCheck requests => exact rfl
  | cachePut key value => exact ⟨le_rfl,rfl,rfl⟩

def start : Pool Bool GateCall GateCall.Answer PolicyError (List Bool) GateState :=
  gatePool gate 30 (by norm_num) ⟨0,FloatingPoint.binary64.nearest_zero⟩ calls
def outcome : Log Bool × Pool Bool GateCall GateCall.Answer PolicyError (List Bool) GateState :=
  Pool.drive respond [true,true,true,true,false,false] start

end Sample

open Sample in
/-- The second call's decisions, of which the first is taken from the cache. -/
theorem cached_decisions_sound : Sample.outcome.2.procs false = .ret [true,false] ∧
    Sound gate 30 calls outcome.1 false [true,false] := by
  have hret : outcome.2.procs false = .ret [true,false] := Prog.eq_ret_of_result (by decide +kernel)
  refine ⟨hret,decisions_sound gate 30 (by norm_num) _ calls ?_ ?_ outcome.1 outcome.2
    (Pool.drive_steps respond_world _ start) false _ hret⟩
  · intro j item hitem
    rcases List.mem_pair.mp hitem with rfl | rfl
    · exact .inl ⟨_,rfl⟩
    · exact .inl ⟨_,rfl⟩
  · intro j k p q hp hq _
    have h : Except.ok p = Except.ok q := hp.symm.trans hq
    cases h
    rfl

end Arbora.Policy
