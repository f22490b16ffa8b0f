import Arbora.Gateway.Alerts

/-! Event storms: how many nodes of one source the engine is given in a minute, where the clock goes on and stands in
the same minute from when a request reads it until its events are written. -/
namespace Arbora.Gateway
open Interaction

variable {B : Builtins}

section

def given (minute : ℕ) (source : String) : Event Call Call.Result → ℕ
  | ⟨.addNode _ event _ _,written⟩ => if event.source = source ∧ written.time/60 = minute then 1 else 0
  | _ => 0

def counted (minute : ℕ) (sourceRef : String) : Event Call Call.Result → ℕ
  | ⟨.count m r n,false⟩ => if m = minute ∧ r = sourceRef then n else 0
  | _ => 0

variable {ι : Type}

def nodesGiven (log : List (ι × Event Call Call.Result)) (minute : ℕ) (source : String) : ℕ :=
  (log.map fun x => given minute source x.2).sum
def countedEvents (log : List (ι × Event Call Call.Result)) (minute : ℕ) (sourceRef : String) : ℕ :=
  (log.map fun x => counted minute sourceRef x.2).sum

/-- The calls that a request makes in the minute that it has read. -/
def Call.timed : Call → Bool
  | .count _ _ _ | .addNode _ _ _ _ => true
  | _ => false

/-- The clock has not gone back, and it shows the minute that a request has read when it counts and writes. -/
def Timely [DecidableEq ι] (log : List (ι × Event Call Call.Result)) (s : Server) (i : ι) (e : Call) : Prop :=
  (∀ t ∈ s.past, t ≤ s.now) ∧
    (e.timed = true → ∀ t : ℕ, ⟨.clock,t⟩ ∈ Pool.own i log → t/60 = s.now/60)

end

section

variable {counters : Counters} {minute m c n : ℕ} {sourceRef ref : String}

theorem get_foldl_pop (keys : List String) (counters : Counters) (ref : String) :
    (keys.foldl Dict.pop counters).get ref = if ref ∈ keys then none else counters.get ref := by
  induction keys generalizing counters with
  | nil => rfl
  | cons key keys ih =>
    rw [List.foldl_cons,ih,Dict.get_pop]
    by_cases hkeys : ref ∈ keys
    · simp [hkeys]
    · simp [hkeys]

theorem get_room (minute : ℕ) (counters : Counters) (ref : String) :
    (room minute counters).get ref = counters.get ref ∨
      (room minute counters).get ref = none ∧ ∀ c, counters.get ref ≠ some (minute,c) := by
  unfold room
  by_cases hcrowded : crowded counters = true
  · rw [if_pos hcrowded,dropStale,get_foldl_pop]
    split_ifs with hmem
    · refine Or.inr ⟨rfl,fun c hc => ?_⟩
      rw [List.mem_filter,hc] at hmem
      simp at hmem
    · exact Or.inl rfl
  · rw [if_neg hcrowded]
    exact Or.inl rfl

/-- What the locked section leaves under the source that it is about, and under the others. -/
theorem countEvents_get (counters : Counters) (minute : ℕ) (sourceRef : String) (n : ℕ) :
    (∀ ref, ref ≠ sourceRef → (countEvents counters minute sourceRef n).2.get ref = (room minute counters).get ref) ∧
    ((countEvents counters minute sourceRef n).1 = true ∧ (countEvents counters minute sourceRef n).2.get sourceRef = none ∧
        (room minute counters).get sourceRef = none ∨
      (countEvents counters minute sourceRef n).1 = true ∧ (countEvents counters minute sourceRef n).2.get sourceRef =
        some (minute,inWindow minute ((room minute counters).get sourceRef)) ∨
      (countEvents counters minute sourceRef n).1 = false ∧ (countEvents counters minute sourceRef n).2.get sourceRef =
        some (minute,inWindow minute ((room minute counters).get sourceRef)+n) ∧
        inWindow minute ((room minute counters).get sourceRef)+n ≤ rateCapPerMinute) := by
  unfold countEvents
  dsimp only
  by_cases hfull : (crowded counters && crowded (room minute counters) && ((room minute counters).get sourceRef).isNone) = true
  · rw [if_pos hfull]
    have hnone : (room minute counters).get sourceRef = none := by
      simp only [Bool.and_eq_true,Option.isNone_iff_eq_none] at hfull
      exact hfull.2
    exact ⟨fun ref _ => rfl,Or.inl ⟨rfl,hnone,hnone⟩⟩
  · rw [if_neg hfull]
    by_cases hcap : rateCapPerMinute < inWindow minute ((room minute counters).get sourceRef)+n
    · rw [if_pos hcap]
      exact ⟨fun ref hne => Dict.get_set_ne _ _ hne,Or.inr (Or.inl ⟨rfl,Dict.get_set_self _ _ _⟩)⟩
    · rw [if_neg hcap]
      exact ⟨fun ref hne => Dict.get_set_ne _ _ hne,
        Or.inr (Or.inr ⟨rfl,Dict.get_set_self _ _ _,not_lt.mp hcap⟩)⟩

structure Kept (total : ℕ → String → ℕ) (s : Server) : Prop where
  window : ∀ {ref minute c}, s.counters.get ref = some (minute,c) → c = total minute ref ∧ ∃ t ∈ s.past, t/60 = minute
  shown : ∀ {minute ref}, total minute ref ≠ 0 →
    s.counters.get ref = some (minute,total minute ref) ∨ ∃ t ∈ s.past, minute < t/60
  capped : ∀ minute ref, total minute ref ≤ rateCapPerMinute

variable {total : ℕ → String → ℕ} {s : Server}

theorem Kept.pass (h : Kept total s) (now : ℕ) : Kept total (s.after s.counters now) where
  window hget := by
    obtain ⟨hc,t,ht,hminute⟩ := h.window hget
    exact ⟨hc,t,List.mem_cons_of_mem _ ht,hminute⟩
  shown htotal := by
    refine (h.shown htotal).imp id ?_
    rintro ⟨t,ht,hover⟩
    exact ⟨t,List.mem_cons_of_mem _ ht,hover⟩
  capped := h.capped

/-- In the clock's own minute a counter that is there shows what was counted, and there is one if anything was. -/
theorem Kept.inWindow_eq (h : Kept total s) (hpast : ∀ t ∈ s.past, t ≤ s.now) (ref : String) :
    inWindow (s.now/60) ((room (s.now/60) s.counters).get ref) = total (s.now/60) ref ∧
      (total (s.now/60) ref ≠ 0 → (room (s.now/60) s.counters).get ref = some (s.now/60,total (s.now/60) ref)) := by
  have hpresent : total (s.now/60) ref ≠ 0 →
      (room (s.now/60) s.counters).get ref = some (s.now/60,total (s.now/60) ref) := by
    intro htotal
    rcases h.shown htotal with hget | ⟨t,ht,hover⟩
    · rcases get_room (s.now/60) s.counters ref with hroom | ⟨-,hother⟩
      · rw [hroom,hget]
      · exact absurd hget (hother _)
    · exact absurd (Nat.div_le_div_right (hpast t ht)) (not_le.mpr hover)
  refine ⟨?_,hpresent⟩
  by_cases htotal : total (s.now/60) ref = 0
  · rw [htotal]
    cases hget : (room (s.now/60) s.counters).get ref with
    | none => rfl
    | some entry =>
      obtain ⟨m,c⟩ := entry
      have hcounter : s.counters.get ref = some (m,c) := by
        rcases get_room (s.now/60) s.counters ref with hroom | ⟨hroom,-⟩
        · rw [← hroom,hget]
        · rw [hroom] at hget
          cases hget
      by_cases hm : m = s.now/60
      · subst hm
        rw [inWindow,if_pos rfl,(h.window hcounter).1,htotal]
      · rw [inWindow,if_neg hm]
  · rw [hpresent htotal,inWindow,if_pos rfl]

theorem Kept.count (h : Kept total s) (hpast : ∀ t ∈ s.past, t ≤ s.now) (sourceRef : String) (n now : ℕ)
    {total' : ℕ → String → ℕ} (htotal' : ∀ m r, total' m r = total m r+
      if (countEvents s.counters (s.now/60) sourceRef n).1 = false ∧ s.now/60 = m ∧ sourceRef = r then n else 0) :
    Kept total' (s.after (countEvents s.counters (s.now/60) sourceRef n).2 now) := by
  obtain ⟨hothers,hown⟩ := countEvents_get s.counters (s.now/60) sourceRef n
  have hinWindow := h.inWindow_eq hpast
  -- what is counted under other sources and in other minutes stays
  have hsame : ∀ {m r}, (s.now/60 ≠ m ∨ sourceRef ≠ r) → total' m r = total m r := by
    intro m r hne
    rw [htotal',if_neg (fun hc => hne.elim (fun hm => hm hc.2.1) fun hr => hr hc.2.2),Nat.add_zero]
  have hnow : (countEvents s.counters (s.now/60) sourceRef n).2.get sourceRef = none ∧
        (room (s.now/60) s.counters).get sourceRef = none ∧ total' (s.now/60) sourceRef = total (s.now/60) sourceRef ∨
      (countEvents s.counters (s.now/60) sourceRef n).2.get sourceRef = some (s.now/60,total' (s.now/60) sourceRef) ∧
        (total' (s.now/60) sourceRef = total (s.now/60) sourceRef ∨ total' (s.now/60) sourceRef ≤ rateCapPerMinute) := by
    have htotal := htotal' (s.now/60) sourceRef
    rw [(hinWindow sourceRef).1] at hown
    rcases hown with ⟨hcapped,hnone,hroom⟩ | ⟨hcapped,hget⟩ | ⟨hcounted,hget,hle⟩
    · rw [hcapped,if_neg (fun hc => nomatch hc.1),Nat.add_zero] at htotal
      exact Or.inl ⟨hnone,hroom,htotal⟩
    · rw [hcapped,if_neg (fun hc => nomatch hc.1),Nat.add_zero] at htotal
      exact Or.inr ⟨by rw [hget,htotal],Or.inl htotal⟩
    · rw [hcounted,if_pos ⟨rfl,rfl,rfl⟩] at htotal
      exact Or.inr ⟨by rw [hget,htotal],Or.inr (htotal.trans_le hle)⟩
  constructor
  · intro ref m c hget
    by_cases href : ref = sourceRef
    · subst href
      rcases hnow with ⟨hnone,-,-⟩ | ⟨hsome,-⟩
      · rw [Server.after,hnone] at hget
        cases hget
      · rw [Server.after,hsome] at hget
        cases hget
        exact ⟨rfl,s.now,List.mem_cons_self,rfl⟩
    · have hkept : s.counters.get ref = some (m,c) := by
        rw [Server.after,hothers ref href] at hget
        rcases get_room (s.now/60) s.counters ref with hroom | ⟨hroom,-⟩
        · rwa [hroom] at hget
        · rw [hroom] at hget
          cases hget
      obtain ⟨hc,t,ht,hminute⟩ := h.window hkept
      exact ⟨hc.trans (hsame (Or.inr (Ne.symm href))).symm,t,List.mem_cons_of_mem _ ht,hminute⟩
  · intro m r htotal
    by_cases hm : s.now/60 = m
    · subst hm
      refine Or.inl ?_
      by_cases hr : r = sourceRef
      · subst hr
        rcases hnow with ⟨-,hroom,heq⟩ | ⟨hsome,-⟩
        · rw [heq] at htotal
          rw [(hinWindow r).2 htotal] at hroom
          cases hroom
        · exact hsome
      · rw [hsame (Or.inr (Ne.symm hr))] at htotal ⊢
        exact (hothers r hr).trans ((hinWindow r).2 htotal)
    · refine Or.inr ?_
      rw [hsame (Or.inl hm)] at htotal
      rcases h.shown htotal with hget | ⟨t,ht,hover⟩
      · obtain ⟨-,t,ht,hminute⟩ := h.window hget
        have hle : m ≤ s.now/60 := hminute ▸ Nat.div_le_div_right (hpast t ht)
        exact ⟨s.now,List.mem_cons_self,lt_of_le_of_ne hle (Ne.symm hm)⟩
      · exact ⟨t,List.mem_cons_of_mem _ ht,hover⟩
  · intro m r
    by_cases hhere : s.now/60 = m ∧ sourceRef = r
    · obtain ⟨rfl,rfl⟩ := hhere
      rcases hnow with ⟨-,-,heq⟩ | ⟨-,heq | hle⟩
      · rw [heq]
        exact h.capped _ _
      · rw [heq]
        exact h.capped _ _
      · exact hle
    · rw [hsame (by rwa [← not_and_or])]
      exact h.capped m r

end

section

def Call.isAddNode : Call → Bool
  | .addNode _ _ _ _ => true
  | _ => false

/-- How many nodes a request has given the engine. -/
def offered (h : List (Event Call Call.Result)) : ℕ := h.countP fun x => x.1.isAddNode

theorem offered_snoc (h : List (Event Call Call.Result)) (x : Event Call Call.Result) :
    offered (h ++ [x]) = offered h+if x.1.isAddNode = true then 1 else 0 := by
  rw [offered,offered,List.countP_append,List.countP_singleton]

def Guarded (B : Builtins) (h : List (Event Call Call.Result)) : Call → Prop
  | .count minute _ _ => ∃ t : ℕ, ⟨.clock,t⟩ ∈ h ∧ minute = t/60
  | .addNode _ event _ _ => ∃ (t : ℕ) (sourceRef : String) (n : ℕ), B.ephemeralSourceRef event.source = .ok sourceRef ∧
      ⟨.clock,t⟩ ∈ h ∧ ⟨.count (t/60) sourceRef n,false⟩ ∈ h ∧ offered h < n
  | _ => True

/-- A request's events may still be written: these many were counted, and these many of them were not written yet. -/
def Counts (B : Builtins) (source : String) (left : ℕ) (h : List (Event Call Call.Result)) : Prop :=
  ∃ (t : ℕ) (sourceRef : String) (n : ℕ), B.ephemeralSourceRef source = .ok sourceRef ∧ ⟨.clock,t⟩ ∈ h ∧
    ⟨.count (t/60) sourceRef n,false⟩ ∈ h ∧ offered h+left ≤ n

variable {h : List (Event Call Call.Result)} {source : String} {left : ℕ}

theorem Counts.snoc (hc : Counts B source left h) (x : Event Call Call.Result) (hx : x.1.isAddNode = false) :
    Counts B source left (h ++ [x]) := by
  obtain ⟨t,sourceRef,n,href,hclock,hcount,hle⟩ := hc
  refine ⟨t,sourceRef,n,href,List.mem_append_left _ hclock,List.mem_append_left _ hcount,?_⟩
  rw [offered_snoc,hx]
  exact hle

theorem Counts.less (hc : Counts B source (left+1) h) : Counts B source left h := by
  obtain ⟨t,sourceRef,n,href,hclock,hcount,hle⟩ := hc
  exact ⟨t,sourceRef,n,href,hclock,hcount,(Nat.add_le_add_left (Nat.le_succ left) _).trans hle⟩

theorem Counts.write (hc : Counts B source (left+1) h) (x : Event Call Call.Result) : Counts B source left (h ++ [x]) := by
  obtain ⟨t,sourceRef,n,href,hclock,hcount,hle⟩ := hc
  refine ⟨t,sourceRef,n,href,List.mem_append_left _ hclock,List.mem_append_left _ hcount,?_⟩
  have hone : (if x.1.isAddNode = true then 1 else 0) ≤ 1 := by
    split_ifs
    · exact le_refl 1
    · exact Nat.zero_le 1
  rw [offered_snoc]
  omega

theorem persistEvent_counts (i : ℕ) (event : FleetEvent) (hc : Counts B event.source (left+1) h) :
    (persistEvent B i event).Meets Prog.record (Guarded B) (fun h' _ => Counts B event.source left h')
      (fun h' _ => Counts B event.source left h') h := by
  refine ⟨trivial,?_⟩
  rintro unique _ rfl
  have hc := hc.snoc ⟨.uuid i,unique⟩ rfl
  refine Prog.meets_ofExcept_bind.mpr ⟨fun _ _ => hc.less,fun refs _ => ⟨trivial,?_⟩⟩
  rintro stamp _ rfl
  have hc := hc.snoc ⟨.correlationStamp i,stamp⟩ rfl
  refine ⟨?_,?_⟩
  · obtain ⟨t,sourceRef,n,href,hclock,hcount,hle⟩ := hc
    exact ⟨t,sourceRef,n,href,hclock,hcount,by omega⟩
  · rintro written _ rfl
    exact Prog.meets_ofExcept_bind.mpr ⟨fun _ _ => hc.write _,fun _ _ => hc.write _⟩

theorem enqueueTriage_counts (i : ℕ) (eventId : String) (event : FleetEvent) (hc : Counts B source left h) :
    (enqueueTriage B i eventId event).Meets Prog.record (Guarded B) (fun h' _ => Counts B source left h')
      (fun h' _ => Counts B source left h') h := by
  refine ⟨trivial,?_⟩
  rintro submitter _ rfl
  have hc := hc.snoc ⟨.submitter i,submitter⟩ rfl
  cases submitter with
  | false => exact hc
  | true =>
    refine ⟨trivial,?_⟩
    rintro job _ rfl
    have hc := hc.snoc ⟨.submitTask i eventId (sourceType B event.source),job⟩ rfl
    cases job with
    | ok job => exact hc
    | error failure => exact hc

theorem meets_attempt {α : Type} {p : Step α} {Q : List (Event Call Call.Result) → Prop}
    {X : List (Event Call Call.Result) → Failure → Prop}
    (hp : p.Meets Prog.record (Guarded B) (fun h' _ => Q h') (fun h' _ => Q h') h) :
    (attempt p).Meets Prog.record (Guarded B) (fun h' _ => Q h') X h := by
  unfold attempt
  rw [Prog.meets_handle,Prog.meets_bind]
  exact hp

theorem acceptEvent_counts (i : ℕ) (event : FleetEvent) (hc : Counts B event.source (left+1) h) :
    (acceptEvent B i event).Meets Prog.record (Guarded B) (fun h' _ => Counts B event.source left h') (fun _ _ => True) h := by
  refine (meets_attempt (persistEvent_counts i event hc)).seq fun h' persisted hc' => ?_
  cases persisted with
  | none => exact hc'
  | some eventId =>
    exact (meets_attempt (enqueueTriage_counts i eventId event hc')).seq fun _ _ hc'' => hc''

theorem acceptEvents_counts (i : ℕ) (events : List FleetEvent) (hsource : ∀ event ∈ events, event.source = source)
    (hc : Counts B source events.length h) :
    (acceptEvents B i events).Meets Prog.record (Guarded B) (fun _ _ => True) (fun _ _ => True) h := by
  induction events generalizing i h with
  | nil => trivial
  | cons event events ih =>
    have hown : event.source = source := hsource event List.mem_cons_self
    subst hown
    refine (acceptEvent_counts i event hc).seq fun h' record hc' => ?_
    exact (ih (i+1) (fun e he => hsource e (List.mem_cons_of_mem _ he)) hc').seq fun _ _ _ => trivial

theorem eventRequestError_counts (events : List FleetEvent) (hsource : ∀ event ∈ events, event.source = source) :
    (eventRequestError B events).Meets Prog.record (Guarded B)
      (fun h' refused => refused = none → Counts B source events.length h') (fun _ _ => True) [] := by
  cases events with
  | nil => exact fun hnone => nomatch hnone
  | cons event events =>
    refine ⟨trivial,?_⟩
    rintro now _ rfl
    rw [Prog.meets_bind]
    refine Prog.meets_ofExcept_bind.mpr ⟨fun _ _ => trivial,fun sourceRef href => ?_⟩
    refine ⟨⟨now,List.mem_singleton_self _,rfl⟩,?_⟩
    rintro capped _ rfl
    cases capped with
    | true => exact fun hnone => nomatch hnone
    | false =>
      intro _
      rw [hsource event List.mem_cons_self] at href
      exact ⟨now,sourceRef,(event :: events).length,href,by simp,by simp,by simp [offered,Call.isAddNode]⟩

theorem source_of_normalizePayload {payload : Value} {hint : Option String} {receivedAt : String} {events : List FleetEvent}
    (h : normalizePayload B receivedAt payload hint = .ok events) : ∃ source, ∀ event ∈ events, event.source = source := by
  obtain ⟨source,hsource⟩ := source_of_readReports B receivedAt payload hint
  refine ⟨source,fun event hevent => hsource event ?_⟩
  rw [normalizePayload_ok.mp h]
  exact List.mem_map_of_mem hevent

theorem fleetEventsReceive_guarded (request : Request) :
    (fleetEventsReceive B request).Meets Prog.record (Guarded B) (fun _ _ => True) (fun _ _ => True) [] := by
  refine Prog.meets_ofExcept_bind.mpr ⟨fun _ _ => trivial,fun settings _ => ?_⟩
  generalize authenticateRequest request settings = authenticated
  refine Prog.meets_ofExcept_bind.mpr ⟨fun _ _ => trivial,fun refused _ => ?_⟩
  cases refused with
  | some refused => trivial
  | none =>
    cases readPayload B request settings with
    | error refused => trivial
    | ok payload =>
      refine Prog.meets_ofExcept_bind.mpr ⟨fun _ _ => trivial,fun events hevents => ?_⟩
      obtain ⟨source,hsource⟩ := source_of_normalizePayload hevents
      refine (eventRequestError_counts events hsource).seq fun h refused hc => ?_
      cases refused with
      | some refused => trivial
      | none =>
        have hc := hc rfl
        refine ⟨trivial,?_⟩
        rintro available _ rfl
        cases available with
        | false => trivial
        | true => exact (acceptEvents_counts 0 events hsource (hc.snoc ⟨.engine,true⟩ rfl)).seq fun _ _ _ => trivial

end

section

variable {ι : Type} {minute : ℕ} {source sourceRef : String}

variable (minute source) in
theorem sum_given_le (h : List (Event Call Call.Result)) : (h.map (given minute source)).sum ≤ offered h := by
  induction h with
  | nil => exact Nat.zero_le 0
  | cons x h ih =>
    have hx : given minute source x ≤ if x.1.isAddNode = true then 1 else 0 := by
      obtain ⟨e,r⟩ := x
      cases e with
      | addNode i event eventId node =>
        change (if _ then 1 else 0) ≤ 1
        split_ifs
        · exact le_refl 1
        · exact Nat.zero_le 1
      | _ => exact Nat.zero_le _
    unfold offered at ih ⊢
    rw [List.map_cons,List.sum_cons,List.countP_cons]
    omega

theorem le_sum_counted {h : List (Event Call Call.Result)} {n : ℕ} (hn : ⟨.count minute sourceRef n,false⟩ ∈ h) :
    n ≤ (h.map (counted minute sourceRef)).sum := by
  have hmem : n ∈ h.map (counted minute sourceRef) :=
    List.mem_map.mpr ⟨_,hn,if_pos ⟨rfl,rfl⟩⟩
  exact List.le_sum_of_mem hmem

structure Storm [DecidableEq ι] (B : Builtins) (log : List (ι × Event Call Call.Result)) (s : Server) : Prop where
  paid : ∀ i minute source, ((Pool.own i log).map (given minute source)).sum = 0 ∨ ∃ sourceRef,
    B.ephemeralSourceRef source = .ok sourceRef ∧
      ((Pool.own i log).map (given minute source)).sum ≤ ((Pool.own i log).map (counted minute sourceRef)).sum
  kept : Kept (countedEvents log) s

variable [DecidableEq ι] {log : List (ι × Event Call Call.Result)} {s s' : Server} {i : ι} {e : Call} {r : e.Result}

omit [DecidableEq ι] in
theorem countedEvents_snoc (log : List (ι × Event Call Call.Result)) (i : ι) (x : Event Call Call.Result) :
    countedEvents (log ++ [(i,x)]) minute sourceRef = countedEvents log minute sourceRef+counted minute sourceRef x := by
  rw [countedEvents,List.map_append,List.sum_append]
  rfl

variable {x : Event Call Call.Result} {d : Pool ι Call Call.Result Failure Response Server}

theorem counted_of_ne (hx : ∀ m r n, x.1 ≠ .count m r n) : counted minute sourceRef x = 0 := by
  obtain ⟨e,r⟩ := x
  cases e with
  | count m r n => exact absurd rfl (hx _ _ _)
  | _ => rfl

theorem given_of_not (hx : x.1.isAddNode = false) : given minute source x = 0 := by
  obtain ⟨e,r⟩ := x
  cases e with
  | addNode i event eventId node => cases hx
  | _ => rfl

theorem Storm.pay (h : Storm B log s) (htimely : Timely log s i e) (hguard : Guarded B (Pool.own i log) e)
    (hserves : Serves s e r s') (j : ι) (minute : ℕ) (source : String) :
    ((Pool.own j (log ++ [(i,⟨e,r⟩)])).map (given minute source)).sum = 0 ∨ ∃ sourceRef,
      B.ephemeralSourceRef source = .ok sourceRef ∧ ((Pool.own j (log ++ [(i,⟨e,r⟩)])).map (given minute source)).sum ≤
        ((Pool.own j (log ++ [(i,⟨e,r⟩)])).map (counted minute sourceRef)).sum := by
  by_cases hj : j = i
  · subst hj
    rw [Pool.own_snoc_self]
    simp only [List.map_append,List.sum_append,List.map_singleton,List.sum_singleton]
    by_cases hadd : given minute source ⟨e,r⟩ = 0
    · rw [hadd,Nat.add_zero]
      refine (h.paid j minute source).imp id ?_
      rintro ⟨sourceRef,href,hle⟩
      exact ⟨sourceRef,href,hle.trans (Nat.le_add_right _ _)⟩
    · refine Or.inr ?_
      cases hserves with
      | addNode _ k event eventId node outcome now =>
        obtain ⟨t,sourceRef,n,href,hclock,hcount,hlt⟩ := hguard
        have hgiven : event.source = source ∧ s.now/60 = minute := by
          by_contra hnot
          exact hadd (if_neg hnot)
        have hminute : t/60 = minute := (htimely.2 rfl t hclock).trans hgiven.2
        rw [hminute] at hcount
        refine ⟨sourceRef,hgiven.1 ▸ href,?_⟩
        have hwritten := (sum_given_le minute source (Pool.own j log)).trans_lt
          (hlt.trans_le (le_sum_counted hcount))
        have hone : given minute source ⟨.addNode k event eventId node,⟨s.now,outcome⟩⟩ = 1 := if_pos hgiven
        rw [hone]
        exact (Nat.succ_le_of_lt hwritten).trans (Nat.le_add_right _ _)
      | clock _ _ => exact absurd rfl hadd
      | count _ _ _ _ _ => exact absurd rfl hadd
      | outside _ he _ _ =>
        refine absurd (given_of_not ?_) hadd
        cases e <;> first | rfl | cases he
  · rw [Pool.own_snoc_ne hj]
    exact h.paid j minute source

/-- One call keeps the counters right. -/
theorem Storm.count (h : Storm B log s) (htimely : Timely log s i e) (hguard : Guarded B (Pool.own i log) e)
    (hserves : Serves s e r s') : Kept (countedEvents (log ++ [(i,⟨e,r⟩)])) s' := by
  have hpass (hcount : ∀ m r n, e ≠ .count m r n) (now : ℕ) :
      Kept (countedEvents (log ++ [(i,⟨e,r⟩)])) (s.after s.counters now) := by
    have hsame : countedEvents (log ++ [(i,⟨e,r⟩)]) = countedEvents log := by
      funext m sourceRef
      rw [countedEvents_snoc,counted_of_ne hcount,Nat.add_zero]
    rw [hsame]
    exact h.kept.pass now
  cases hserves with
  | count _ minute sourceRef n now =>
    obtain ⟨t,hclock,hminute⟩ := hguard
    have hnow : minute = s.now/60 := hminute.trans (htimely.2 rfl t hclock)
    subst hnow
    refine h.kept.count htimely.1 sourceRef n now fun m ref => ?_
    rw [countedEvents_snoc]
    congr 1
    unfold counted
    cases (countEvents s.counters (s.now/60) sourceRef n).1 with
    | true => rfl
    | false => simp
  | clock _ now => exact hpass (fun _ _ _ he => nomatch he) now
  | addNode _ k event eventId node outcome now => exact hpass (fun _ _ _ he => nomatch he) now
  | outside _ he _ now =>
    refine hpass (fun m sourceRef n hcount => ?_) now
    rw [hcount] at he
    cases he

theorem storm_of_steps (requests : ι → Request) (now : ℕ) (h : Pool.StepsWhere Serves Timely
    (ingress B requests now) log d) : Storm B log d.state := by
  refine h.invariant (I := Storm B) (fun i => fleetEventsReceive_guarded (requests i)) ?_
    fun log i e r s s' hstorm htimely hguard hserves =>
      ⟨hstorm.pay htimely hguard hserves,hstorm.count htimely hguard hserves⟩
  exact ⟨fun _ _ _ => Or.inl rfl,fun hget => (by cases hget),fun hne => absurd rfl hne,fun _ _ => Nat.zero_le _⟩

theorem nodesGiven_le (requests : ι → Request) (now : ℕ) (h : Pool.StepsWhere Serves Timely
    (ingress B requests now) log d) (minute : ℕ) (source : String) :
    nodesGiven log minute source ≤ rateCapPerMinute := by
  have hstorm := storm_of_steps requests now h
  cases href : B.ephemeralSourceRef source with
  | error failure =>
    have hnone : ∀ i, ((Pool.own i log).map (given minute source)).sum ≤ ((Pool.own i log).map fun _ => 0).sum := by
      intro i
      rcases hstorm.paid i minute source with hzero | ⟨sourceRef,hother,-⟩
      · rw [hzero]
        exact Nat.zero_le _
      · rw [href] at hother
        cases hother
    refine (Pool.sum_le_of_own hnone).trans ?_
    simp
  | ok sourceRef =>
    have hpaid : ∀ i, ((Pool.own i log).map (given minute source)).sum ≤
        ((Pool.own i log).map (counted minute sourceRef)).sum := by
      intro i
      rcases hstorm.paid i minute source with hzero | ⟨sourceRef',hother,hle⟩
      · rw [hzero]
        exact Nat.zero_le _
      · rw [href] at hother
        cases hother
        exact hle
    exact (Pool.sum_le_of_own hpaid).trans (hstorm.kept.capped minute sourceRef)

end
end Arbora.Gateway
