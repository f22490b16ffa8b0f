import Arbora.Runs.Admission

/-! Where admissions stand, what holds of the records, the index and the chain while they do, and that every step
keeps it where instances have their own runs and the chain has room for the second event. -/
namespace Arbora.Runs
open Interaction
open PolicyPlane (Digest OpaqueRef StableId canonicalDigest)
namespace NativeAdmission
variable {κ ι : Type}

/-- The points an admission can stand at, each with what it has learnt. -/
inductive Stage
  | start
  | replay
  | item
  | verifierClock
  | verify (now : ℤ)
  | validity
  | capacity
  | clock
  | appendRun (now : ℤ)
  | appendItem (now : ℤ) (runEvent : AuditEvent)
  | writeRecord (record : RunRecord)
  | writeWorkItem (record : RunRecord)
  | leave (outcome : Except Raised AdmissionReceipt)
  | done (outcome : Except Raised AdmissionReceipt)

def Stage.code (verified : Bool) (k : κ) (caller : ι) (request : NativeAdmissionRequest) :
    Stage → Step κ ι AdmissionReceipt
  | .start => admitOnce verified k caller request
  | .replay => within k (admission verified k request)
  | .item => within k (fresh verified k request)
  | .verifierClock => within k (((timedVerifier k request).handle stale).bind fun _ => authorized k request)
  | .verify now =>
    within k (((callVerifier k request.resolution.authorization now).handle stale).bind fun _ => authorized k request)
  | .validity => within k (authorized k request)
  | .capacity => within k (ensureRoom.bind fun _ => timed k request)
  | .clock => within k (timed k request)
  | .appendRun now => within k (stamped k request now)
  | .appendItem now runEvent =>
    within k ((NativeAdmission.appendItem request now runEvent).bind fun auditIds =>
      store k ⟨request.resolution,request.workItem,auditIds⟩)
  | .writeRecord record => within k (store k record)
  | .writeWorkItem record => within k (writeItem k record)
  | .leave (.ok receipt) => .call (.release k) fun _ => .ret receipt
  | .leave (.error x) => .call (.release k) fun _ => .raise x
  | .done (.ok receipt) => .ret receipt
  | .done (.error x) => .raise x

/-- The run that is stored and not yet indexed. -/
def Stage.pending : Stage → Option StableId
  | .writeWorkItem record => some record.resolution.runId
  | _ => none

/-- A step that adds nothing to the chain, the records or the index. -/
def Idle : Event (Call κ ι) Call.Answer → Prop
  | ⟨.append ..,.ok _⟩ | ⟨.writeRecord ..,_⟩ | ⟨.writeWorkItem ..,_⟩ => False
  | _ => True

theorem idle_clock (k : κ) (r : Except Raised ℤ) : Idle (ι := ι) ⟨.clock k,r⟩ := trivial
theorem idle_verify (k : κ) (authorization : PolicyPlane.PolicyAuthorization) (now : ℤ) (r : Except Raised Unit) :
    Idle (ι := ι) ⟨.verifyAuthorization k authorization now,r⟩ := trivial
theorem idle_refused (kind : StableId) (subjectRef : OpaqueRef) (payloadDigest : Digest) (now : ℤ) (x : Raised) :
    Idle (κ := κ) (ι := ι) ⟨.append kind subjectRef payloadDigest now,.error x⟩ := trivial

def Appended (log : List (Event (Call κ ι) Call.Answer)) (kind : StableId) (subjectRef : OpaqueRef) : Prop :=
  ∃ payloadDigest now event, ⟨.append kind subjectRef payloadDigest now,.ok event⟩ ∈ log
def Quiet (own : List (Event (Call κ ι) Call.Answer)) : Prop := ∀ x ∈ own, Idle x

def Mine (request : NativeAdmissionRequest) (own : List (Event (Call κ ι) Call.Answer)) : Prop :=
  ∀ kind subjectRef, Appended own kind subjectRef →
    kind = runAdmitted ∧ subjectRef = refOfId request.resolution.runId ∨
    kind = workItemAdmitted ∧ subjectRef = refOfId request.workItem.workItemId

def OnlyRun (request : NativeAdmissionRequest) (own : List (Event (Call κ ι) Call.Answer)) : Prop :=
  ∀ kind subjectRef, Appended own kind subjectRef →
    kind = runAdmitted ∧ subjectRef = refOfId request.resolution.runId

theorem Quiet.mine {own : List (Event (Call κ ι) Call.Answer)} (h : Quiet own) (request : NativeAdmissionRequest) :
    Mine request own := by
  rintro kind subjectRef ⟨payloadDigest,now,event,hmem⟩
  exact (h _ hmem).elim

theorem Quiet.snoc {own : List (Event (Call κ ι) Call.Answer)} (h : Quiet own)
    {x : Event (Call κ ι) Call.Answer} (hx : Idle x) : Quiet (own ++ [x]) := by
  intro y hy
  rcases List.mem_append.mp hy with hy | hy
  · exact h y hy
  · rw [List.mem_singleton.mp hy]
    exact hx

def Mute (x : Event (Call κ ι) Call.Answer) : Prop :=
  ∀ kind subjectRef payloadDigest now event, x ≠ ⟨.append kind subjectRef payloadDigest now,.ok event⟩

theorem Idle.mute {x : Event (Call κ ι) Call.Answer} (h : Idle x) : Mute x := by
  rintro kind subjectRef payloadDigest now event rfl
  exact h

theorem mute_writeRecord (k : κ) (runId : StableId) (record : RunRecord) :
    Mute (ι := ι) ⟨.writeRecord k runId record,()⟩ := by
  intro kind subjectRef payloadDigest now event h
  cases h

theorem mute_writeWorkItem (k : κ) (workItemId runId : StableId) :
    Mute (ι := ι) ⟨.writeWorkItem k workItemId runId,()⟩ := by
  intro kind subjectRef payloadDigest now event h
  cases h

theorem Mine.snoc {request : NativeAdmissionRequest} {own : List (Event (Call κ ι) Call.Answer)}
    (h : Mine request own) {x : Event (Call κ ι) Call.Answer} (hx : Mute x) : Mine request (own ++ [x]) := by
  rintro kind subjectRef ⟨payloadDigest,now,event,hmem⟩
  rcases List.mem_append.mp hmem with hmem | hmem
  · exact h _ _ ⟨payloadDigest,now,event,hmem⟩
  · exact (hx _ _ _ _ _ (List.mem_singleton.mp hmem).symm).elim

variable {kind : StableId} {subjectRef : OpaqueRef} {payloadDigest : Digest}

theorem appended_cases {own : List (Event (Call κ ι) Call.Answer)} {kind' : StableId} {subjectRef' : OpaqueRef}
    {now : ℤ} {event : AuditEvent}
    (h : Appended (own ++ [⟨.append kind subjectRef payloadDigest now,.ok event⟩]) kind' subjectRef') :
    Appended own kind' subjectRef' ∨ kind' = kind ∧ subjectRef' = subjectRef := by
  obtain ⟨payloadDigest',now',event',hmem⟩ := h
  rcases List.mem_append.mp hmem with hmem | hmem
  · exact .inl ⟨payloadDigest',now',event',hmem⟩
  · cases List.mem_singleton.mp hmem
    exact .inr ⟨rfl,rfl⟩

def Marked (chain : AuditChain) (kind : StableId) (subjectRef : OpaqueRef) (payloadDigest : Digest) : Prop :=
  ∃ event ∈ chain.events, event.kind = kind ∧ event.subjectRef = subjectRef ∧ event.payloadDigest = payloadDigest

structure Audited (chain : AuditChain) (resolution : RunResolution) (workItem : NativeWorkItemAdmission) : Prop where
  run : Marked chain runAdmitted (refOfId resolution.runId) resolution.resolutionDigest
  item : Marked chain workItemAdmitted (refOfId workItem.workItemId) (canonicalDigest workItem.document)

section
variable (s : Deployment κ ι) (k : κ) (i : ι) (request : NativeAdmissionRequest)
  (own : List (Event (Call κ ι) Call.Answer))

def New : Prop := (s.instances k).records.get request.resolution.runId = none ∧
  (s.instances k).workItems.get request.workItem.workItemId = none
def Stored : Prop := (s.instances k).records.get request.resolution.runId ≠ none ∧
  (s.instances k).workItems.get request.workItem.workItemId ≠ none

/-- What a call knows at the point it stands at. -/
def Stands : Stage → Prop
  | .start => Quiet own
  | .replay => (s.instances k).owner = some i ∧ Quiet own
  | .item => (s.instances k).owner = some i ∧ Quiet own ∧
      (s.instances k).records.get request.resolution.runId = none
  | .verifierClock | .verify _ | .validity | .capacity | .clock | .appendRun _ =>
    (s.instances k).owner = some i ∧ Quiet own ∧ New s k request
  | .appendItem now _ => (s.instances k).owner = some i ∧ OnlyRun request own ∧ New s k request ∧ 0 ≤ now ∧
      Marked s.chain runAdmitted (refOfId request.resolution.runId) request.resolution.resolutionDigest
  | .writeRecord record => (s.instances k).owner = some i ∧ Mine request own ∧ New s k request ∧
      record.resolution = request.resolution ∧ record.workItem = request.workItem ∧
      Audited s.chain request.resolution request.workItem
  | .writeWorkItem record => (s.instances k).owner = some i ∧ Mine request own ∧
      record.resolution = request.resolution ∧ record.workItem = request.workItem ∧
      (s.instances k).records.get request.resolution.runId = some record ∧
      (s.instances k).workItems.get request.workItem.workItemId = none
  | .leave (.ok _) => (s.instances k).owner = some i ∧ Mine request own ∧ Stored s k request
  | .leave (.error _) => (s.instances k).owner = some i ∧ Quiet own
  | .done (.ok _) => Mine request own ∧ Stored s k request
  | .done (.error _) => Quiet own

end

/-- What another call's step leaves as it is for a call. -/
structure Keeps (s t : Deployment κ ι) (k : κ) (i : ι) : Prop where
  events : ∀ event ∈ s.chain.events, event ∈ t.chain.events
  locked : (s.instances k).owner = some i → t.instances k = s.instances k
  records : ∀ runId, (s.instances k).records.get runId ≠ none → (t.instances k).records.get runId ≠ none
  workItems : ∀ workItemId, (s.instances k).workItems.get workItemId ≠ none →
    (t.instances k).workItems.get workItemId ≠ none

theorem marked_last {chain : AuditChain} {event : AuditEvent} (hkind : event.kind = kind) (hsubject :
    event.subjectRef = subjectRef) (hpayload : event.payloadDigest = payloadDigest) :
    Marked {chain with events := chain.events ++ [event]} kind subjectRef payloadDigest :=
  ⟨event,List.mem_append_right _ List.mem_cons_self,hkind,hsubject,hpayload⟩

theorem Marked.keep {s t : AuditChain} (h : ∀ event ∈ s.events, event ∈ t.events) (hmarked :
    Marked s kind subjectRef payloadDigest) : Marked t kind subjectRef payloadDigest := by
  obtain ⟨event,hmem,hevent⟩ := hmarked
  exact ⟨event,h event hmem,hevent⟩

theorem Audited.keep {s t : AuditChain} (h : ∀ event ∈ s.events, event ∈ t.events) {resolution : RunResolution}
    {workItem : NativeWorkItemAdmission} (haudited : Audited s resolution workItem) : Audited t resolution workItem :=
  ⟨haudited.run.keep h,haudited.item.keep h⟩

theorem Stands.keep {s t : Deployment κ ι} {k : κ} {i : ι} {request : NativeAdmissionRequest}
    {own : List (Event (Call κ ι) Call.Answer)} {stage : Stage} (h : Stands s k i request own stage)
    (hkeeps : Keeps s t k i) : Stands t k i request own stage := by
  have hsame (howner : (s.instances k).owner = some i) := hkeeps.locked howner
  cases stage with
  | start => exact h
  | replay =>
    unfold Stands at h ⊢
    rwa [hsame h.1]
  | item =>
    unfold Stands at h ⊢
    rwa [hsame h.1]
  | verifierClock | verify | validity | capacity | clock | appendRun =>
    unfold Stands New at h ⊢
    rwa [hsame h.1]
  | appendItem =>
    unfold Stands New at h ⊢
    rw [hsame h.1]
    exact ⟨h.1,h.2.1,h.2.2.1,h.2.2.2.1,h.2.2.2.2.keep hkeeps.events⟩
  | writeRecord =>
    unfold Stands New at h ⊢
    rw [hsame h.1]
    exact ⟨h.1,h.2.1,h.2.2.1,h.2.2.2.1,h.2.2.2.2.1,h.2.2.2.2.2.keep hkeeps.events⟩
  | writeWorkItem =>
    unfold Stands at h ⊢
    rwa [hsame h.1]
  | leave outcome =>
    cases outcome with
    | ok =>
      unfold Stands Stored at h ⊢
      rwa [hsame h.1]
    | error =>
      unfold Stands at h ⊢
      rwa [hsame h.1]
  | done outcome =>
    cases outcome with
    | ok => exact ⟨h.1,hkeeps.records _ h.2.1,hkeeps.workItems _ h.2.2⟩
    | error => exact h

structure Indexed (x : Instance ι) (pending : ι → Option StableId) : Prop where
  runs : ∀ runId record, x.records.get runId = some record → record.resolution.runId = runId ∧
    (x.workItems.get record.workItem.workItemId = some runId ∨ ∃ j, x.owner = some j ∧ pending j = some runId)
  items : ∀ workItemId runId, x.workItems.get workItemId = some runId →
    ∃ record, x.records.get runId = some record ∧ record.workItem.workItemId = workItemId

variable [DecidableEq ι]

structure Sound (calls : ι → κ × NativeAdmissionRequest) (log : List (ι × Event (Call κ ι) Call.Answer))
    (s : Deployment κ ι) (stages : ι → Stage) : Prop where
  chain : s.chain.Sound
  origin : ∀ event ∈ s.chain.events, ∃ j, Appended (Pool.own j log) event.kind event.subjectRef
  distinct : (s.chain.events.map fun event => (event.kind,event.subjectRef)).Nodup
  owned : ∀ k j, (s.instances k).owner = some j → (calls j).1 = k
  stands : ∀ j, Stands s (calls j).1 j (calls j).2 (Pool.own j log) (stages j)
  indexed : ∀ k, Indexed (s.instances k) fun j => (stages j).pending
  audited : ∀ k runId record, (s.instances k).records.get runId = some record →
    Audited s.chain record.resolution record.workItem

def Heeds (calls : ι → κ × NativeAdmissionRequest) (log : List (ι × Event (Call κ ι) Call.Answer))
    (s : Deployment κ ι) (i : ι) : Call κ ι → Prop
  | .append kind subjectRef _ _ =>
    (∀ j, Appended (Pool.own j log) kind subjectRef → (calls j).1 = (calls i).1) ∧
      (kind = workItemAdmitted → s.chain.canAppend 1 = true)
  | _ => True

section
variable {calls : ι → κ × NativeAdmissionRequest} {log : List (ι × Event (Call κ ι) Call.Answer)}
  {s t : Deployment κ ι} {stages : ι → Stage} {i : ι} {next : Stage} {x : Event (Call κ ι) Call.Answer}

theorem appended_later {j : ι} {kind : StableId} {subjectRef : OpaqueRef}
    (h : Appended (Pool.own j log) kind subjectRef) : Appended (Pool.own j (log ++ [(i,x)])) kind subjectRef := by
  obtain ⟨payloadDigest,now,event,hmem⟩ := h
  refine ⟨payloadDigest,now,event,?_⟩
  rw [Pool.own_append]
  exact List.mem_append_left _ hmem

theorem pending_update (hpending : next.pending = (stages i).pending) :
    (fun j => (Function.update stages i next j).pending) = fun j => (stages j).pending := by
  funext j
  by_cases hj : j = i
  · rw [hj,Function.update_self]
    exact hpending
  · rw [Function.update_of_ne hj]

section
variable (h : Sound calls log s stages)
include h

theorem Sound.standing {stage : Stage} (hstage : stages i = stage) :
    Stands s (calls i).1 i (calls i).2 (Pool.own i log) stage ∧ (stages i).pending = stage.pending := by
  rw [← hstage]
  exact ⟨h.stands i,rfl⟩

theorem Sound.stands_update (hnext : Stands t (calls i).1 i (calls i).2 (Pool.own i log ++ [x]) next)
    (hkeeps : ∀ j ≠ i, Keeps s t (calls j).1 j) (j : ι) :
    Stands t (calls j).1 j (calls j).2 (Pool.own j (log ++ [(i,x)])) (Function.update stages i next j) := by
  by_cases hj : j = i
  · rw [hj,Function.update_self,Pool.own_snoc_self]
    exact hnext
  · rw [Function.update_of_ne hj,Pool.own_snoc_ne hj]
    exact (h.stands j).keep (hkeeps j hj)

theorem Sound.unchanged (hpending : next.pending = (stages i).pending)
    (hnext : Stands s (calls i).1 i (calls i).2 (Pool.own i log ++ [x]) next) :
    Sound calls (log ++ [(i,x)]) s (Function.update stages i next) where
  chain := h.chain
  origin event hevent := (h.origin event hevent).imp fun _ => appended_later
  distinct := h.distinct
  owned := h.owned
  stands := h.stands_update hnext fun _ _ => ⟨fun _ h => h,fun _ => rfl,fun _ h => h,fun _ h => h⟩
  indexed k := by
    rw [pending_update hpending]
    exact h.indexed k
  audited := h.audited

theorem Sound.read {x : Event (Call κ ι) Call.Answer} (hidle : Idle x)
    (hpending : (stages i).pending = none) {next : Stage} (hnext : next.pending = none)
    (hstands : Quiet (Pool.own i log ++ [x]) → Stands s (calls i).1 i (calls i).2 (Pool.own i log ++ [x]) next)
    (hquiet : Quiet (Pool.own i log)) : Sound calls (log ++ [(i,x)]) s (Function.update stages i next) :=
  h.unchanged (hnext.trans hpending.symm) (hstands (hquiet.snoc hidle))

theorem Sound.appended {kind : StableId} {subjectRef : OpaqueRef} {payloadDigest : Digest}
    {now : ℤ} {event : AuditEvent} {chain : AuditChain} (hchain : chain.Sound)
    (hevents : chain.events = s.chain.events ++ [event]) (hkind : event.kind = kind)
    (hsubject : event.subjectRef = subjectRef)
    (hnew : ∀ other ∈ s.chain.events, other.kind = kind → other.subjectRef ≠ subjectRef)
    (hpending : next.pending = (stages i).pending)
    (hnext : Stands {s with chain := chain} (calls i).1 i (calls i).2
      (Pool.own i log ++ [⟨.append kind subjectRef payloadDigest now,.ok event⟩]) next) :
    Sound calls (log ++ [(i,⟨.append kind subjectRef payloadDigest now,.ok event⟩)]) {s with chain := chain}
      (Function.update stages i next) := by
  have hkept : ∀ e ∈ s.chain.events, e ∈ chain.events := by
    intro e he
    rw [hevents]
    exact List.mem_append_left _ he
  refine ⟨hchain,fun e he => ?_,?_,h.owned,h.stands_update hnext fun _ _ => ⟨hkept,fun _ => rfl,fun _ h => h,fun _ h => h⟩,
    fun k => ?_,fun k runId record hrecord => (h.audited k runId record hrecord).keep hkept⟩
  · have he : e ∈ s.chain.events ++ [event] := hevents ▸ he
    rcases List.mem_append.mp he with he | he
    · exact (h.origin e he).imp fun _ => appended_later
    · rw [List.mem_singleton.mp he,hkind,hsubject]
      refine ⟨i,payloadDigest,now,event,?_⟩
      rw [Pool.own_snoc_self]
      exact List.mem_append_right _ List.mem_cons_self
  · have hdistinct : (chain.events.map fun e => (e.kind,e.subjectRef)) =
        (s.chain.events.map fun e => (e.kind,e.subjectRef)) ++ [(kind,subjectRef)] := by
      rw [hevents,List.map_append,List.map_singleton,hkind,hsubject]
    have hfresh : (kind,subjectRef) ∉ s.chain.events.map fun e => (e.kind,e.subjectRef) := by
      intro hmem
      obtain ⟨other,hother,heq⟩ := List.mem_map.mp hmem
      exact hnew other hother (congrArg Prod.fst heq) (congrArg Prod.snd heq)
    rw [hdistinct,List.nodup_append]
    refine ⟨h.distinct,List.nodup_singleton _,fun a ha b hb hab => hfresh ?_⟩
    rw [← List.mem_singleton.mp hb,← hab]
    exact ha
  · rw [pending_update hpending]
    exact h.indexed k

end

variable [DecidableEq κ]

/-- A step that takes or leaves a lock that no other call has. -/
theorem Sound.relocked (h : Sound calls log s stages) {owner : Option ι}
    (hfree : ∀ j ≠ i, (s.instances (calls i).1).owner ≠ some j) (hmine : ∀ j, owner = some j → j = i)
    (hnone : (stages i).pending = none) (hpending : next.pending = none)
    (hnext : Stands (s.put (calls i).1 {s.instances (calls i).1 with owner := owner}) (calls i).1 i (calls i).2
      (Pool.own i log ++ [x]) next) :
    Sound calls (log ++ [(i,x)]) (s.put (calls i).1 {s.instances (calls i).1 with owner := owner})
      (Function.update stages i next) := by
  have hcases (k : κ) : (s.put (calls i).1 {s.instances (calls i).1 with owner := owner}).instances k =
      if k = (calls i).1 then {s.instances (calls i).1 with owner := owner} else s.instances k :=
    Function.update_apply ..
  refine ⟨h.chain,fun event hevent => (h.origin event hevent).imp fun _ => appended_later,h.distinct,fun k j hk => ?_,
    h.stands_update hnext fun j hj => ⟨fun _ h => h,fun howner => ?_,fun runId hrun => ?_,fun workItemId hitem => ?_⟩,
    fun k => ?_,fun k runId record hrecord => ?_⟩
  · rw [hcases] at hk
    split_ifs at hk with hsame
    · rw [hmine j hk,hsame]
    · exact h.owned k j hk
  · have hk : (calls j).1 ≠ (calls i).1 := fun hk => hfree j hj (hk ▸ howner)
    rw [hcases,if_neg hk]
  · rw [hcases]
    split_ifs with hk
    · exact hk ▸ hrun
    · exact hrun
  · rw [hcases]
    split_ifs with hk
    · exact hk ▸ hitem
    · exact hitem
  · rw [pending_update (hpending.trans hnone.symm),hcases]
    split_ifs with hk
    · refine ⟨fun runId record hrecord => ?_,(h.indexed _).items⟩
      obtain ⟨hrun,hindex | ⟨j,howner,hj⟩⟩ := (h.indexed _).runs runId record hrecord
      · exact ⟨hrun,.inl hindex⟩
      · by_cases hji : j = i
        · rw [hji,hnone] at hj
          cases hj
        · exact (hfree j hji howner).elim
    · exact h.indexed k
  · rw [hcases] at hrecord
    split_ifs at hrecord with hk
    · exact h.audited _ runId record hrecord
    · exact h.audited k runId record hrecord

theorem Sound.rewritten (h : Sound calls log s stages) (howner : (s.instances (calls i).1).owner = some i)
    {records : Dict StableId RunRecord} {workItems : Dict StableId StableId}
    (hrecords : ∀ runId, (s.instances (calls i).1).records.get runId ≠ none → records.get runId ≠ none)
    (hitems : ∀ workItemId, (s.instances (calls i).1).workItems.get workItemId ≠ none → workItems.get workItemId ≠ none)
    (hindexed : Indexed ⟨(s.instances (calls i).1).owner,records,workItems⟩ fun j => (Function.update stages i next j).pending)
    (haudited : ∀ runId record, records.get runId = some record → Audited s.chain record.resolution record.workItem)
    (hnext : Stands (s.put (calls i).1 ⟨(s.instances (calls i).1).owner,records,workItems⟩) (calls i).1 i (calls i).2
      (Pool.own i log ++ [x]) next) :
    Sound calls (log ++ [(i,x)]) (s.put (calls i).1 ⟨(s.instances (calls i).1).owner,records,workItems⟩) (Function.update stages i next) := by
  have hcases (k : κ) : (s.put (calls i).1 ⟨(s.instances (calls i).1).owner,records,workItems⟩).instances k =
      if k = (calls i).1 then ⟨(s.instances (calls i).1).owner,records,workItems⟩ else s.instances k := Function.update_apply ..
  have howned {j : ι} (hj : j ≠ i) {k : κ} (hk : (s.instances k).owner = some j) : k ≠ (calls i).1 := by
    rintro rfl
    exact hj (Option.some.inj (hk.symm.trans howner))
  have hself : (s.put (calls i).1 ⟨(s.instances (calls i).1).owner,records,workItems⟩).instances (calls i).1 = ⟨(s.instances (calls i).1).owner,records,workItems⟩ := by
    rw [hcases,if_pos rfl]
  refine ⟨h.chain,fun event hevent => (h.origin event hevent).imp fun _ => appended_later,h.distinct,fun k j hk => ?_,
    h.stands_update hnext fun j hj => ⟨fun _ h => h,fun hk => ?_,fun runId hrun => ?_,fun workItemId hitem => ?_⟩,
    fun k => ?_,fun k runId record hrecord => ?_⟩
  · rw [hcases] at hk
    split_ifs at hk with hsame
    · rw [hsame,Option.some.inj (howner.symm.trans hk)]
    · exact h.owned k j hk
  · rw [hcases,if_neg (howned hj hk)]
  · by_cases hk : (calls j).1 = (calls i).1
    · rw [hk,hself]
      exact hrecords runId (hk ▸ hrun)
    · rw [hcases,if_neg hk]
      exact hrun
  · by_cases hk : (calls j).1 = (calls i).1
    · rw [hk,hself]
      exact hitems workItemId (hk ▸ hitem)
    · rw [hcases,if_neg hk]
      exact hitem
  · by_cases hk : k = (calls i).1
    · rw [hk,hself]
      exact hindexed
    · rw [hcases,if_neg hk]
      refine ⟨fun runId record hrecord => ?_,(h.indexed k).items⟩
      obtain ⟨hrun,hindex | ⟨j,hj,hpending⟩⟩ := (h.indexed k).runs runId record hrecord
      · exact ⟨hrun,.inl hindex⟩
      · by_cases hji : j = i
        · exact (hk ((h.owned k j hj).symm.trans (congrArg (fun j => (calls j).1) hji))).elim
        · refine ⟨hrun,.inr ⟨j,hj,?_⟩⟩
          rw [Function.update_of_ne hji]
          exact hpending
  · by_cases hk : k = (calls i).1
    · rw [hk,hself] at hrecord
      exact haudited runId record hrecord
    · rw [hcases,if_neg hk] at hrecord
      exact h.audited k runId record hrecord

end
end NativeAdmission
end Arbora.Runs
