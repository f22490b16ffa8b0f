import Arbora.Lib.Keyset
import Arbora.Runs.AdmissionStages

/-! One run, one work item and one pair of events, or nothing: where instances have their own runs and the chain has
room, and what is left of an admission where it has none. -/
namespace Arbora.Runs
open Interaction
open PolicyPlane (Digest OpaqueRef StableId canonicalDigest)
namespace NativeAdmission
variable {κ ι : Type}

theorem refOfId_injective : Function.Injective refOfId := fun _ _ h =>
  Subtype.ext (congrArg (fun ref : OpaqueRef => ref.1) h)

section
variable {s : Deployment κ ι} {k : κ} {i : ι} {request : NativeAdmissionRequest}
  {own : List (Event (Call κ ι) Call.Answer)} {stage : Stage} {kind : StableId} {subjectRef : OpaqueRef}

theorem OnlyRun.mine (h : OnlyRun request own) : Mine request own := fun kind subjectRef happended =>
  .inl (h kind subjectRef happended)

theorem Quiet.not_appended (h : Quiet own) : ¬Appended own kind subjectRef := by
  rintro ⟨payloadDigest,now,event,hmem⟩
  exact h _ hmem

theorem Stands.mine (h : Stands s k i request own stage) : Mine request own := by
  cases stage with
  | start => exact Quiet.mine h request
  | replay => exact h.2.mine request
  | item | verifierClock | verify | validity | capacity | clock | appendRun => exact h.2.1.mine request
  | appendItem => exact h.2.1.mine
  | writeRecord | writeWorkItem => exact h.2.1
  | leave outcome =>
    cases outcome with
    | ok => exact h.2.1
    | error => exact h.2.mine request
  | done outcome =>
    cases outcome with
    | ok => exact h.1
    | error => exact Quiet.mine h request

theorem Stands.settled (h : Stands s k i request own stage) (happended : Appended own kind subjectRef)
    (hout : (s.instances k).owner ≠ some i) : Stored s k request := by
  cases stage with
  | start => exact (Quiet.not_appended h happended).elim
  | replay | item | verifierClock | verify | validity | capacity | clock | appendRun | appendItem | writeRecord |
    writeWorkItem => exact (hout h.1).elim
  | leave outcome =>
    cases outcome with
    | ok => exact (hout h.1).elim
    | error => exact (hout h.1).elim
  | done outcome =>
    cases outcome with
    | ok => exact h.2
    | error => exact (Quiet.not_appended h happended).elim

variable [DecidableEq ι] {calls : ι → κ × NativeAdmissionRequest} {log : List (ι × Event (Call κ ι) Call.Answer)}
  {stages : ι → Stage}

section
variable (h : Sound calls log s stages) (howner : (s.instances (calls i).1).owner = some i)
include h howner

theorem Sound.appended_stored {j : ι}
    (happended : Appended (Pool.own j log) kind subjectRef) (hsame : (calls j).1 = (calls i).1) (hj : j ≠ i) :
    Stored s (calls i).1 (calls j).2 := by
  rw [← hsame]
  refine (h.stands j).settled happended ?_
  rw [hsame,howner]
  intro heq
  exact hj (Option.some.inj heq).symm

theorem Sound.run_new (hquiet : Quiet (Pool.own i log))
    (hnone : (s.instances (calls i).1).records.get (calls i).2.resolution.runId = none)
    (hheeds : ∀ j, Appended (Pool.own j log) runAdmitted (refOfId (calls i).2.resolution.runId) →
      (calls j).1 = (calls i).1) : ∀ other ∈ s.chain.events, other.kind = runAdmitted →
      other.subjectRef ≠ refOfId (calls i).2.resolution.runId := by
  intro other hother hkind hsubject
  obtain ⟨j,happended⟩ := h.origin other hother
  rw [hkind,hsubject] at happended
  have hj : j ≠ i := by
    rintro rfl
    exact hquiet.not_appended happended
  obtain ⟨hrun,-⟩ := h.appended_stored howner happended (hheeds j happended) hj
  rcases (h.stands j).mine _ _ happended with ⟨-,hmine⟩ | ⟨hitem,-⟩
  · rw [← refOfId_injective hmine] at hrun
    exact hrun hnone
  · exact absurd hitem (by decide)

theorem Sound.item_new (honly : OnlyRun (calls i).2 (Pool.own i log))
    (hnone : (s.instances (calls i).1).workItems.get (calls i).2.workItem.workItemId = none)
    (hheeds : ∀ j, Appended (Pool.own j log) workItemAdmitted (refOfId (calls i).2.workItem.workItemId) →
      (calls j).1 = (calls i).1) : ∀ other ∈ s.chain.events, other.kind = workItemAdmitted →
      other.subjectRef ≠ refOfId (calls i).2.workItem.workItemId := by
  intro other hother hkind hsubject
  obtain ⟨j,happended⟩ := h.origin other hother
  rw [hkind,hsubject] at happended
  have hj : j ≠ i := by
    rintro rfl
    exact absurd (honly _ _ happended).1 (by decide)
  obtain ⟨-,hitem⟩ := h.appended_stored howner happended (hheeds j happended) hj
  rcases (h.stands j).mine _ _ happended with ⟨hrun,-⟩ | ⟨-,hmine⟩
  · exact absurd hrun (by decide)
  · rw [← refOfId_injective hmine] at hitem
    exact hitem hnone

end

end

section
variable [DecidableEq κ] [DecidableEq ι] {verified : κ → Bool} {calls : ι → κ × NativeAdmissionRequest}
  {log : List (ι × Event (Call κ ι) Call.Answer)} {s t : Deployment κ ι} {stages : ι → Stage} {i : ι}
  {e : Call κ ι} {k : e.Answer → Step κ ι AdmissionReceipt} {r : e.Answer}

def codeOf (verified : κ → Bool) (calls : ι → κ × NativeAdmissionRequest) (i : ι) (stage : Stage) :
    Step κ ι AdmissionReceipt := stage.code (verified (calls i).1) (calls i).1 i (calls i).2

def Advances (verified : κ → Bool) (calls : ι → κ × NativeAdmissionRequest)
    (log : List (ι × Event (Call κ ι) Call.Answer)) (t : Deployment κ ι) (stages : ι → Stage) (i : ι)
    (x : Event (Call κ ι) Call.Answer) (p : Step κ ι AdmissionReceipt) : Prop :=
  ∃ next, p = codeOf verified calls i next ∧ Sound calls (log ++ [(i,x)]) t (Function.update stages i next)

section
variable (h : Sound calls log s stages)
include h

theorem start_step (hstage : stages i = .start)
    (hcode : codeOf verified calls i .start = .call e k) (hw : Serves s e r t) :
    Advances verified calls log t stages i ⟨e,r⟩ (k r) := by
  obtain ⟨hstands,hpending⟩ := h.standing hstage
  cases hcode
  cases hw with
  | acquire _ _ _ hfree =>
    refine ⟨.replay,rfl,h.relocked (fun j _ howner => ?_) (fun j hj => (Option.some.inj hj).symm) ?_ rfl ⟨?_,?_⟩⟩
    · rw [hfree] at howner
      cases howner
    · exact hpending
    · rw [Deployment.put_self]
    · exact Quiet.snoc hstands trivial

theorem replay_step (hstage : stages i = .replay)
    (hcode : codeOf verified calls i .replay = .call e k) (hw : Serves s e r t) :
    Advances verified calls log t stages i ⟨e,r⟩ (k r) := by
  obtain ⟨⟨howner,hquiet⟩,hpending⟩ := h.standing hstage
  cases hcode
  cases hw
  have hidle : Quiet (Pool.own i log ++ [⟨.readRecord (calls i).1 (calls i).2.resolution.runId,
      (s.instances (calls i).1).records.get (calls i).2.resolution.runId⟩]) := hquiet.snoc trivial
  generalize hr : (s.instances (calls i).1).records.get (calls i).2.resolution.runId = existing at hidle ⊢
  cases existing with
  | none => exact ⟨.item,rfl,h.unchanged hpending.symm ⟨howner,hidle,hr⟩⟩
  | some existing =>
    by_cases hdrift : existing.resolution ≠ (calls i).2.resolution ∨ existing.workItem ≠ (calls i).2.workItem
    · refine ⟨.leave (.error ⟨.replayDrift,"replay_or_body_drift"⟩),?_,h.unchanged hpending.symm ⟨howner,hidle⟩⟩
      dsimp only
      rw [if_pos hdrift]
      rfl
    · refine ⟨.leave (.ok (existing.receipt false)),?_,h.unchanged hpending.symm ⟨howner,hidle.mine _,?_,?_⟩⟩
      · dsimp only
        rw [if_neg hdrift]
        rfl
      · rw [hr]
        exact Option.some_ne_none _
      · obtain ⟨-,hitem⟩ := not_or.mp hdrift
        obtain ⟨-,hindex | ⟨j,hj,hmid⟩⟩ := (h.indexed _).runs _ existing hr
        · rw [← not_not.mp hitem,hindex]
          exact Option.some_ne_none _
        · have hji : j = i := (Option.some.inj (howner.symm.trans hj)).symm
          rw [hji,hpending] at hmid
          cases hmid

theorem item_step (hstage : stages i = .item)
    (hcode : codeOf verified calls i .item = .call e k) (hw : Serves s e r t) :
    Advances verified calls log t stages i ⟨e,r⟩ (k r) := by
  obtain ⟨⟨howner,hquiet,hnone⟩,hpending⟩ := h.standing hstage
  cases hcode
  cases hw
  have hidle : Idle (κ := κ) (ι := ι) ⟨.readWorkItem (calls i).1 (calls i).2.workItem.workItemId,
      (s.instances (calls i).1).workItems.get (calls i).2.workItem.workItemId⟩ := trivial
  generalize hr : (s.instances (calls i).1).workItems.get (calls i).2.workItem.workItemId = taken at hidle ⊢
  cases taken with
  | some => exact ⟨.leave (.error _),rfl,h.read hidle hpending rfl (fun hq => ⟨howner,hq⟩) hquiet⟩
  | none =>
    cases hv : verified (calls i).1 with
    | false => exact ⟨.validity,rfl,h.read hidle hpending rfl (fun hq => ⟨howner,hq,hnone,hr⟩) hquiet⟩
    | true => exact ⟨.verifierClock,rfl,h.read hidle hpending rfl (fun hq => ⟨howner,hq,hnone,hr⟩) hquiet⟩

theorem verifierClock_step (hstage : stages i = .verifierClock)
    (hcode : codeOf verified calls i .verifierClock = .call e k) (hw : Serves s e r t) :
    Advances verified calls log t stages i ⟨e,r⟩ (k r) := by
  obtain ⟨⟨howner,hquiet,hnew⟩,hpending⟩ := h.standing hstage
  cases hcode
  cases hw with
  | clock =>
    cases r with
    | ok now => exact ⟨.verify now,rfl,h.read (idle_clock ..) hpending rfl (fun hq => ⟨howner,hq,hnew⟩) hquiet⟩
    | error => exact ⟨.leave (.error _),rfl,h.read (idle_clock ..) hpending rfl (fun hq => ⟨howner,hq⟩) hquiet⟩

theorem verify_step {now : ℤ} (hstage : stages i = .verify now)
    (hcode : codeOf verified calls i (.verify now) = .call e k) (hw : Serves s e r t) :
    Advances verified calls log t stages i ⟨e,r⟩ (k r) := by
  obtain ⟨⟨howner,hquiet,hnew⟩,hpending⟩ := h.standing hstage
  cases hcode
  cases hw with
  | verifyAuthorization =>
    cases r with
    | ok => exact ⟨.validity,rfl,h.read (idle_verify ..) hpending rfl (fun hq => ⟨howner,hq,hnew⟩) hquiet⟩
    | error => exact ⟨.leave (.error _),rfl,h.read (idle_verify ..) hpending rfl (fun hq => ⟨howner,hq⟩) hquiet⟩

theorem validity_step (hstage : stages i = .validity)
    (hcode : codeOf verified calls i .validity = .call e k) (hw : Serves s e r t) :
    Advances verified calls log t stages i ⟨e,r⟩ (k r) := by
  obtain ⟨⟨howner,hquiet,hnew⟩,hpending⟩ := h.standing hstage
  cases hcode
  cases hw
  have hvalid : s.chain.requireValid = .ok () := by
    unfold AuditChain.requireValid
    rw [h.chain.verified,if_neg (by decide)]
  have hidle : Idle (κ := κ) (ι := ι) ⟨.requireValid,s.chain.requireValid⟩ := trivial
  rw [hvalid] at hidle ⊢
  exact ⟨.capacity,rfl,h.read hidle hpending rfl (fun hq => ⟨howner,hq,hnew⟩) hquiet⟩

theorem capacity_step (hstage : stages i = .capacity)
    (hcode : codeOf verified calls i .capacity = .call e k) (hw : Serves s e r t) :
    Advances verified calls log t stages i ⟨e,r⟩ (k r) := by
  obtain ⟨⟨howner,hquiet,hnew⟩,hpending⟩ := h.standing hstage
  cases hcode
  cases hw
  have hidle : Idle (κ := κ) (ι := ι) ⟨.canAppend 2,s.chain.canAppend 2⟩ := trivial
  generalize s.chain.canAppend 2 = room at hidle ⊢
  cases room with
  | true => exact ⟨.clock,rfl,h.read hidle hpending rfl (fun hq => ⟨howner,hq,hnew⟩) hquiet⟩
  | false => exact ⟨.leave (.error _),rfl,h.read hidle hpending rfl (fun hq => ⟨howner,hq⟩) hquiet⟩

theorem clock_step (hstage : stages i = .clock)
    (hcode : codeOf verified calls i .clock = .call e k) (hw : Serves s e r t) :
    Advances verified calls log t stages i ⟨e,r⟩ (k r) := by
  obtain ⟨⟨howner,hquiet,hnew⟩,hpending⟩ := h.standing hstage
  cases hcode
  cases hw with
  | clock =>
    cases r with
    | ok now => exact ⟨.appendRun now,rfl,h.read (idle_clock ..) hpending rfl (fun hq => ⟨howner,hq,hnew⟩) hquiet⟩
    | error => exact ⟨.leave (.error _),rfl,h.read (idle_clock ..) hpending rfl (fun hq => ⟨howner,hq⟩) hquiet⟩

theorem appendRun_step {now : ℤ} (hstage : stages i = .appendRun now)
    (hcode : codeOf verified calls i (.appendRun now) = .call e k) (hheeds : Heeds calls log s i e)
    (hw : Serves s e r t) : Advances verified calls log t stages i ⟨e,r⟩ (k r) := by
  obtain ⟨⟨howner,hquiet,hnew⟩,hpending⟩ := h.standing hstage
  cases hcode
  cases hw
  have happends := s.chain.append_appends runAdmitted (refOfId (calls i).2.resolution.runId)
    (calls i).2.resolution.resolutionDigest now
  have hchain := h.chain.append runAdmitted (refOfId (calls i).2.resolution.runId)
    (calls i).2.resolution.resolutionDigest now
  generalize (s.chain.append runAdmitted (refOfId (calls i).2.resolution.runId)
    (calls i).2.resolution.resolutionDigest now) = outcome at happends hchain ⊢
  obtain ⟨answer,chain⟩ := outcome
  cases happends with
  | refused x =>
    exact ⟨.leave (.error x),rfl,h.read (idle_refused ..) hpending rfl (fun hq => ⟨howner,hq⟩) hquiet⟩
  | added event hkind hsubject hpayload hroom htime =>
    refine ⟨.appendItem now event,rfl,h.appended hchain rfl hkind hsubject
      (h.run_new howner hquiet hnew.1 hheeds.1) hpending.symm ⟨howner,?_,hnew,htime,?_⟩⟩
    · intro kind subjectRef happended
      rcases appended_cases happended with hbefore | hself
      · exact (hquiet.not_appended hbefore).elim
      · exact hself
    · exact marked_last hkind hsubject hpayload

theorem appendItem_step {now : ℤ} {runEvent : AuditEvent} (hstage : stages i = .appendItem now runEvent)
    (hcode : codeOf verified calls i (.appendItem now runEvent) = .call e k) (hheeds : Heeds calls log s i e)
    (hw : Serves s e r t) : Advances verified calls log t stages i ⟨e,r⟩ (k r) := by
  obtain ⟨⟨howner,honly,hnew,hnow,hmarked⟩,hpending⟩ := h.standing hstage
  cases hcode
  cases hw
  have happends := s.chain.append_appends workItemAdmitted (refOfId (calls i).2.workItem.workItemId)
    (canonicalDigest (calls i).2.workItem.document) now
  have hchain := h.chain.append workItemAdmitted (refOfId (calls i).2.workItem.workItemId)
    (canonicalDigest (calls i).2.workItem.document) now
  generalize (s.chain.append workItemAdmitted (refOfId (calls i).2.workItem.workItemId)
    (canonicalDigest (calls i).2.workItem.document) now) = outcome at happends hchain ⊢
  obtain ⟨answer,chain⟩ := outcome
  cases happends with
  | refused x hrefused =>
    -- The chain verifies, has room, and the time was good for the first event.
    rcases hrefused with hverify | hroom | htime
    · rw [h.chain.verified] at hverify
      cases hverify
    · rw [hheeds.2 rfl] at hroom
      cases hroom
    · exact (not_lt.mpr hnow htime).elim
  | added event hkind hsubject hpayload =>
    refine ⟨.writeRecord ⟨(calls i).2.resolution,(calls i).2.workItem,[runEvent.eventId,event.eventId]⟩,rfl,
      h.appended hchain rfl hkind hsubject (h.item_new howner honly hnew.2 hheeds.1) hpending.symm
      ⟨howner,?_,hnew,rfl,rfl,?_,marked_last hkind hsubject hpayload⟩⟩
    · intro kind subjectRef happended
      rcases appended_cases happended with hbefore | hself
      · exact .inl (honly _ _ hbefore)
      · exact .inr hself
    · exact hmarked.keep fun _ => List.mem_append_left _

theorem writeRecord_step {record : RunRecord} (hstage : stages i = .writeRecord record)
    (hcode : codeOf verified calls i (.writeRecord record) = .call e k) (hw : Serves s e r t) :
    Advances verified calls log t stages i ⟨e,r⟩ (k r) := by
  obtain ⟨⟨howner,hmine,hnew,hresolution,hitem,haudited⟩,hpending⟩ := h.standing hstage
  have hrun : record.resolution.runId = (calls i).2.resolution.runId := congrArg RunResolution.runId hresolution
  have hnone : (s.instances (calls i).1).records.get record.resolution.runId = none := by
    rw [hrun]
    exact hnew.1
  cases hcode
  cases hw
  refine ⟨.writeWorkItem record,rfl,h.rewritten howner (fun runId hrunId => ?_) (fun _ h => h) ⟨?_,?_⟩ ?_ ?_⟩
  · rw [Dict.get_set]
    split_ifs
    · exact Option.some_ne_none _
    · exact hrunId
  · intro runId other hother
    rw [Dict.get_set] at hother
    split_ifs at hother with hsame
    · cases hother
      refine ⟨hsame.symm,.inr ⟨i,howner,?_⟩⟩
      rw [Function.update_self,hsame]
      rfl
    · obtain ⟨hother',hindex | ⟨j,hj,hmid⟩⟩ := (h.indexed _).runs runId other hother
      · exact ⟨hother',.inl hindex⟩
      · have hji : j = i := (Option.some.inj (howner.symm.trans hj)).symm
        rw [hji,hpending] at hmid
        cases hmid
  · intro workItemId runId hget
    obtain ⟨other,hother,hsame⟩ := (h.indexed _).items workItemId runId hget
    exact ⟨other,Dict.get_set_new hother hnone,hsame⟩
  · intro runId other hother
    rw [Dict.get_set] at hother
    split_ifs at hother
    · cases hother
      rw [hresolution,hitem]
      exact haudited
    · exact h.audited _ runId other hother
  · refine ⟨?_,hmine.snoc (mute_writeRecord _ _ _),hresolution,hitem,?_,?_⟩
    · rw [Deployment.put_self]
      exact howner
    · rw [Deployment.put_self,← hrun]
      exact (Dict.get_set ..).trans (if_pos rfl)
    · rw [Deployment.put_self]
      exact hnew.2

theorem writeWorkItem_step {record : RunRecord} (hstage : stages i = .writeWorkItem record)
    (hcode : codeOf verified calls i (.writeWorkItem record) = .call e k) (hw : Serves s e r t) :
    Advances verified calls log t stages i ⟨e,r⟩ (k r) := by
  obtain ⟨⟨howner,hmine,hresolution,hitem,hrecord,hnone⟩,hpending⟩ := h.standing hstage
  have hrun : record.resolution.runId = (calls i).2.resolution.runId := congrArg RunResolution.runId hresolution
  have hwork : record.workItem.workItemId = (calls i).2.workItem.workItemId :=
    congrArg NativeWorkItemAdmission.workItemId hitem
  cases hcode
  cases hw
  refine ⟨.leave (.ok _),rfl,h.rewritten howner (fun _ h => h) (fun workItemId hget => ?_) ⟨?_,?_⟩
    (h.audited _) ⟨?_,hmine.snoc (mute_writeWorkItem _ _ _),?_,?_⟩⟩
  · rw [Dict.get_set]
    split_ifs
    · exact Option.some_ne_none _
    · exact hget
  · intro runId other hother
    obtain ⟨hother',hindex | ⟨j,hj,hmid⟩⟩ := (h.indexed _).runs runId other hother
    · refine ⟨hother',.inl ?_⟩
      rw [← hwork] at hnone
      exact Dict.get_set_new hindex hnone
    · have hji : j = i := (Option.some.inj (howner.symm.trans hj)).symm
      rw [hji,hstage] at hmid
      have hmid : record.resolution.runId = runId := Option.some.inj hmid
      have hsame : other = record := by
        rw [← hmid,hrun,hrecord] at hother
        exact (Option.some.inj hother).symm
      refine ⟨hother',.inl ?_⟩
      rw [hsame,← hmid]
      exact (Dict.get_set ..).trans (if_pos rfl)
  · intro workItemId runId hget
    rw [Dict.get_set] at hget
    split_ifs at hget with hsame
    · refine ⟨record,?_,hsame.symm⟩
      rw [← Option.some.inj hget,hrun]
      exact hrecord
    · exact (h.indexed _).items workItemId runId hget
  · rw [Deployment.put_self]
    exact howner
  · rw [Deployment.put_self,hrecord]
    exact Option.some_ne_none _
  · rw [Deployment.put_self,← hwork]
    have hself := (Dict.get_set (s.instances (calls i).1).workItems record.workItem.workItemId
      record.workItem.workItemId record.resolution.runId).trans (if_pos rfl)
    rw [hself]
    exact Option.some_ne_none _

theorem leave_step {outcome : Except Raised AdmissionReceipt} (hstage : stages i = .leave outcome) (hcode :
    codeOf verified calls i (.leave outcome) = .call e k)
    (hw : Serves s e r t) : Advances verified calls log t stages i ⟨e,r⟩ (k r) := by
  obtain ⟨hstands,hpending⟩ := h.standing hstage
  cases outcome with
  | ok receipt =>
    obtain ⟨howner,hmine,hstored⟩ := hstands
    cases hcode
    cases hw
    refine ⟨.done (.ok receipt),rfl,h.relocked (fun j hj hsame => ?_) (fun _ hnone => by cases hnone) hpending rfl
      ⟨hmine.snoc (Idle.mute trivial),?_⟩⟩
    · exact hj (Option.some.inj (howner.symm.trans hsame)).symm
    · unfold Stored
      rw [Deployment.put_self]
      exact hstored
  | error x =>
    obtain ⟨howner,hquiet⟩ := hstands
    cases hcode
    cases hw
    refine ⟨.done (.error x),rfl,h.relocked (fun j hj hsame => ?_) (fun _ hnone => by cases hnone) hpending rfl
      (Quiet.snoc hquiet trivial)⟩
    exact hj (Option.some.inj (howner.symm.trans hsame)).symm

theorem step_sound (hheeds : Heeds calls log s i e)
    (hcode : codeOf verified calls i (stages i) = .call e k) (hw : Serves s e r t) :
    Advances verified calls log t stages i ⟨e,r⟩ (k r) := by
  generalize hstage : stages i = stage at hcode
  cases stage with
  | start => exact start_step h hstage hcode hw
  | replay => exact replay_step h hstage hcode hw
  | item => exact item_step h hstage hcode hw
  | verifierClock => exact verifierClock_step h hstage hcode hw
  | verify => exact verify_step h hstage hcode hw
  | validity => exact validity_step h hstage hcode hw
  | capacity => exact capacity_step h hstage hcode hw
  | clock => exact clock_step h hstage hcode hw
  | appendRun => exact appendRun_step h hstage hcode hheeds hw
  | appendItem => exact appendItem_step h hstage hcode hheeds hw
  | writeRecord => exact writeRecord_step h hstage hcode hw
  | writeWorkItem => exact writeWorkItem_step h hstage hcode hw
  | leave => exact leave_step h hstage hcode hw
  | done outcome =>
    cases outcome with
    | ok => cases hcode
    | error => cases hcode

end

end

section

theorem done_of_raise {verified : κ → Bool} {calls : ι → κ × NativeAdmissionRequest} {i : ι} {stage : Stage} {x : Raised}
    (h : codeOf verified calls i stage = .raise x) : stage = .done (.error x) := by
  cases stage with
  | leave outcome =>
    cases outcome with
    | ok => cases h
    | error => cases h
  | done outcome =>
    cases outcome with
    | ok => cases h
    | error =>
      cases h
      rfl
  | _ => cases h

theorem sound_new [DecidableEq ι] (calls : ι → κ × NativeAdmissionRequest) (maxEvents : {n : ℕ // 1 ≤ n ∧ n ≤ 4096}) :
    Sound calls [] (Deployment.new maxEvents) fun _ => .start where
  chain := AuditChain.sound_new maxEvents
  origin event hevent := by cases hevent
  distinct := List.nodup_nil
  owned k j howner := by cases howner
  stands j x hx := by cases hx
  indexed k := by
    constructor
    · intro runId record h
      cases h
    · intro workItemId runId h
      cases h
  audited k runId record h := by cases h

structure Paired (x : Instance ι) : Prop where
  item : ∀ runId record, x.records.get runId = some record →
    ∀ workItemId, x.workItems.get workItemId = some runId ↔ workItemId = record.workItem.workItemId
  run : ∀ workItemId runId, x.workItems.get workItemId = some runId →
    ∃ record, x.records.get runId = some record ∧ record.workItem.workItemId = workItemId

theorem Indexed.paired {x : Instance ι} {pending : ι → Option StableId} (h : Indexed x pending) (hfree : x.owner = none) :
    Paired x where
  item runId record hrecord workItemId := by
    constructor
    · intro hget
      obtain ⟨other,hother,hsame⟩ := h.items workItemId runId hget
      rw [hrecord] at hother
      rw [← hsame,Option.some.inj hother]
    · rintro rfl
      obtain ⟨-,hindex | ⟨j,hj,-⟩⟩ := h.runs runId record hrecord
      · exact hindex
      · rw [hfree] at hj
        cases hj
  run := h.items

def Once (chain : AuditChain) (kind : StableId) (subjectRef : OpaqueRef) (payloadDigest : Digest) : Prop :=
  ∃ event, (chain.events.filter fun e => (e.kind,e.subjectRef) = (kind,subjectRef)) = [event] ∧
    event.payloadDigest = payloadDigest

theorem Marked.once {chain : AuditChain} (hdistinct : (chain.events.map fun e => (e.kind,e.subjectRef)).Nodup)
    {kind : StableId} {subjectRef : OpaqueRef} {payloadDigest : Digest}
    (h : Marked chain kind subjectRef payloadDigest) : Once chain kind subjectRef payloadDigest := by
  obtain ⟨event,hevent,rfl,rfl,hpayload⟩ := h
  exact ⟨event,Keyset.filter_eq_singleton hdistinct hevent,hpayload⟩

variable [DecidableEq κ]

/-- Whatever state the step was taken in, it left the chain, the records and the index as they were. -/
def Silent (x : Event (Call κ ι) Call.Answer) : Prop :=
  ∀ s t, Serves s x.1 x.2 t → t.chain = s.chain ∧
    ∀ k, (t.instances k).records = (s.instances k).records ∧ (t.instances k).workItems = (s.instances k).workItems

theorem Idle.silent {x : Event (Call κ ι) Call.Answer} (h : Idle x) : Silent x := by
  obtain ⟨e,r⟩ := x
  have hput (s : Deployment κ ι) (k k' : κ) (owner : Option ι) :
      ((s.put k {s.instances k with owner := owner}).instances k').records = (s.instances k').records ∧
      ((s.put k {s.instances k with owner := owner}).instances k').workItems = (s.instances k').workItems := by
    by_cases hk : k' = k
    · rw [hk,Deployment.put_self]
      exact ⟨rfl,rfl⟩
    · have hother : (s.put k {s.instances k with owner := owner}).instances k' = s.instances k' :=
        Function.update_of_ne hk ..
      rw [hother]
      exact ⟨rfl,rfl⟩
  intro s t hserves
  cases hserves with
  | acquire => exact ⟨rfl,fun k => hput s _ k _⟩
  | release => exact ⟨rfl,fun k => hput s _ k _⟩
  | readRecord | readWorkItem | clock | verifyAuthorization | requireValid | canAppend =>
    exact ⟨rfl,fun _ => ⟨rfl,rfl⟩⟩
  | writeRecord | writeWorkItem => exact h.elim
  | append _ kind subjectRef payloadDigest now =>
    have happends := s.chain.append_appends kind subjectRef payloadDigest now
    generalize s.chain.append kind subjectRef payloadDigest now = outcome at happends h ⊢
    obtain ⟨answer,chain⟩ := outcome
    cases happends with
    | refused => exact ⟨rfl,fun _ => ⟨rfl,rfl⟩⟩
    | added => exact h.elim

variable [DecidableEq ι]

def start (verified : κ → Bool) (maxEvents : {n : ℕ // 1 ≤ n ∧ n ≤ 4096}) (calls : ι → κ × NativeAdmissionRequest) :
    Pool ι (Call κ ι) Call.Answer Raised AdmissionReceipt (Deployment κ ι) :=
  ⟨.new maxEvents,fun i => admitOnce (verified (calls i).1) (calls i).1 i (calls i).2⟩

/-- However the calls interleave, while no event meets its like from another instance and every second event has
room: an instance at rest has its runs and work items in pairs, the chain has one pair of events for each, and a call
that raised has left nothing behind. -/
theorem admitted_once (verified : κ → Bool) (maxEvents : {n : ℕ // 1 ≤ n ∧ n ≤ 4096})
    (calls : ι → κ × NativeAdmissionRequest) {log : List (ι × Event (Call κ ι) Call.Answer)}
    {d : Pool ι (Call κ ι) Call.Answer Raised AdmissionReceipt (Deployment κ ι)}
    (h : Pool.StepsWhere Serves (Heeds calls) (start verified maxEvents calls) log d) :
    (∀ k, (d.state.instances k).owner = none → Paired (d.state.instances k)) ∧
    (∀ k runId record, (d.state.instances k).records.get runId = some record → record.resolution.runId = runId ∧
      Once d.state.chain runAdmitted (refOfId runId) record.resolution.resolutionDigest ∧
      Once d.state.chain workItemAdmitted (refOfId record.workItem.workItemId)
        (canonicalDigest record.workItem.document)) ∧
    ∀ i x, d.procs i = .raise x → ∀ e ∈ Pool.own i log, Silent e := by
  obtain ⟨stages,hcode,hsound⟩ := h.staged (codeOf verified calls) (fun _ => .start) (I := Sound calls) (fun _ => rfl)
    (sound_new calls maxEvents) fun _ _ _ _ _ _ _ _ hsound hheeds hcall hw => step_sound hsound hheeds hcall hw
  refine ⟨fun k hfree => (hsound.indexed k).paired hfree,fun k runId record hrecord => ?_,fun i x hraise => ?_⟩
  · have haudited := hsound.audited k runId record hrecord
    have hrun := ((hsound.indexed k).runs runId record hrecord).1
    have honce := haudited.run.once hsound.distinct
    rw [hrun] at honce
    exact ⟨hrun,honce,haudited.item.once hsound.distinct⟩
  · rw [hcode i] at hraise
    have hquiet := hsound.stands i
    rw [done_of_raise hraise] at hquiet
    exact fun e he => (hquiet e he).silent

namespace Fixture

def digest : Digest :=
  ⟨"sha256:dddddddddddddddddddddddddddddddddddddddddddddddddddddddddddddddd",by decide +kernel⟩
def one : PolicyPlane.Version := ⟨"1.1.0",by decide +kernel⟩
def budget : PolicyPlane.ExecutionBudget := ⟨1,1,1,0,1,1,1,by decide,by decide,by decide,by decide,by decide,by decide,by decide⟩

def authorization : PolicyPlane.PolicyAuthorization where
  policyRef := ⟨⟨"policy:one",by decide⟩,one,digest⟩
  operation := ⟨"run",by decide⟩
  requestDigest := digest
  bindings := []
  budget := budget
  resolvedAt := 1
  bounded := Nat.zero_le _

def job : JobRef := ⟨⟨"job:one",by decide⟩,one,digest⟩
def task : TaskRef := ⟨⟨"task:one",by decide⟩,job.jobId,one,digest,[],by decide,List.nodup_nil⟩
def key : PolicyPlane.StableKey := ⟨"request",by decide⟩

def resolution (tenantRef : OpaqueRef) : RunResolution where
  tenantRef := tenantRef
  idempotencyKey := key
  requestDigest := digest
  authorization := authorization
  job := job
  tasks := [task]
  toolBindings := []
  invocations := []
  artifactRefs := []
  traceRef := ⟨⟨"trace:one",by decide⟩,digest⟩
  lengths := by decide
  sameRequest := rfl
  taskBudget := by decide
  distinctTasks := by decide
  oneJob := by decide
  knownDependencies := by decide
  graphBudget := by decide +kernel
  distinctBindings := List.nodup_nil
  authorized := by decide
  toolBudget := by decide
  knownTasks := by decide
  exactBindings := by decide
  distinctArtifacts := List.nodup_nil

def request (tenantRef : OpaqueRef) : NativeAdmissionRequest where
  resolution := resolution tenantRef
  workItem := {
    runId := deterministicAdmissionId tenantRef key
    workItemId := nativeWorkItemId (deterministicAdmissionId tenantRef key)
    tenantRef := tenantRef
    idempotencyKey := key
    kind := ⟨"run",by decide⟩
    payloadRef := ⟨"payload:one",by decide⟩
    payloadDigest := digest
    requestDigest := digest
    resolutionDigest := (resolution tenantRef).resolutionDigest
    deterministicRun := rfl
    deterministicItem := rfl
    unique := List.nodup_nil }
  sameRun := rfl
  sameTenant := rfl
  sameKey := rfl
  sameRequest := rfl
  sameResolution := rfl

/-- Two tenants' runs, each on an instance of its own. -/
def calls : Bool → Bool × NativeAdmissionRequest
  | false => (false,request ⟨"tenant:north",by decide⟩)
  | true => (true,request ⟨"tenant:south",by decide⟩)

def respond (s : Deployment Bool Bool) : (e : Call Bool Bool) → e.Answer × Deployment Bool Bool
  | .acquire k caller => ((),s.put k {s.instances k with owner := some caller})
  | .release k => ((),s.put k {s.instances k with owner := none})
  | .readRecord k runId => ((s.instances k).records.get runId,s)
  | .readWorkItem k workItemId => ((s.instances k).workItems.get workItemId,s)
  | .clock _ => (.ok 100,s)
  | .verifyAuthorization .. => (.ok (),s)
  | .requireValid => (.ok (),s)
  | .canAppend count => (s.chain.canAppend count,s)
  | .append kind subjectRef payloadDigest observedAt =>
    if s.chain.canAppend 1 = true then
      let event := AuditEvent.following s.chain.events.length (lastHash genesisHash s.chain.events) kind subjectRef
        payloadDigest observedAt.toNat
      (.ok event,{s with chain := {s.chain with events := s.chain.events ++ [event]}})
    else (.error ⟨.auditDiscontinuity,"audit_capacity_exceeded"⟩,s)
  | .writeRecord k runId record =>
    ((),s.put k {s.instances k with records := (s.instances k).records.set runId record})
  | .writeWorkItem k workItemId runId =>
    ((),s.put k {s.instances k with workItems := (s.instances k).workItems.set workItemId runId})

def appends (kind : StableId) (subjectRef : OpaqueRef) : Event (Call Bool Bool) Call.Answer → Bool
  | ⟨.append kind' subjectRef' _ _,.ok _⟩ => kind' = kind && subjectRef' = subjectRef
  | _ => false

/-- Whether a lock that is asked for is free, and an event has room and is a new one. -/
def free (careful : Bool) (log : List (Bool × Event (Call Bool Bool) Call.Answer)) (s : Deployment Bool Bool) (_ : Bool) :
    Call Bool Bool → Bool
  | .acquire k _ => (s.instances k).owner = none
  | .append kind subjectRef _ observedAt => decide (0 ≤ observedAt) &&
    (!careful || (log.all (fun x => !appends kind subjectRef x.2) && s.chain.canAppend 1))
  | _ => true

theorem respond_serves {careful : Bool} {log : List (Bool × Event (Call Bool Bool) Call.Answer)}
    {s : Deployment Bool Bool} {i : Bool} {e : Call Bool Bool} (hs : s.chain.Sound)
    (h : free careful log s i e = true) :
    Serves s e (respond s e).1 (respond s e).2 ∧ (respond s e).2.chain.Sound := by
  cases e with
  | acquire k caller => exact ⟨.acquire s k caller (of_decide_eq_true h),hs⟩
  | append kind subjectRef payloadDigest observedAt =>
    have htime : 0 ≤ observedAt := of_decide_eq_true (Bool.and_eq_true_iff.mp h).1
    have hserves := Serves.append s kind subjectRef payloadDigest observedAt
    have hsound := hs.append kind subjectRef payloadDigest observedAt
    unfold respond
    split_ifs with hroom
    · rw [hs.append_ok hroom htime] at hserves hsound
      exact ⟨hserves,hsound⟩
    · rw [hs.append_full (Bool.not_eq_true _ ▸ hroom)] at hserves hsound
      exact ⟨hserves,hsound⟩
  | requireValid =>
    have hvalid : s.chain.requireValid = .ok () := by
      unfold AuditChain.requireValid
      rw [hs.verified,if_neg (by decide)]
    have hserves := Serves.requireValid s
    rw [hvalid] at hserves
    exact ⟨hserves,hs⟩
  | _ => exact ⟨by constructor,hs⟩

theorem free_heeds {log : List (Bool × Event (Call Bool Bool) Call.Answer)} {s : Deployment Bool Bool} {i : Bool}
    {e : Call Bool Bool} (h : free true log s i e = true) : Heeds calls log s i e := by
  cases e with
  | append kind subjectRef payloadDigest observedAt =>
    obtain ⟨hnew,hroom⟩ := Bool.and_eq_true_iff.mp (Bool.and_eq_true_iff.mp h).2
    refine ⟨?_,fun _ => hroom⟩
    rintro j ⟨payloadDigest',now,event,hmem⟩
    have hx := List.all_eq_true.mp hnew _ (Pool.mem_own.mp hmem)
    simp [appends] at hx
  | _ => trivial

def beginning (maxEvents : {n : ℕ // 1 ≤ n ∧ n ≤ 4096}) := start (fun _ => false) maxEvents calls
def turns : List Bool := [false,false,false,false,false,true,true,true,true,true,
  false,true,false,true,false,true,false,true,false,true]

/-- Both find room for two events, and three fit. -/
def crossed := Pool.drive respond turns (beginning ⟨3,by decide⟩)

theorem crossed_facts : Pool.heeds respond (free false) turns [] (beginning ⟨3,by decide⟩) = true ∧
    (crossed.2.procs true).raised = some ⟨.auditDiscontinuity,"audit_capacity_exceeded"⟩ ∧
    (crossed.2.state.instances true).records.get (calls true).2.resolution.runId = none ∧
    (crossed.2.state.chain.events.any fun event =>
      event.kind = runAdmitted && event.subjectRef = refOfId (calls true).2.resolution.runId) = true :=
  ⟨by decide +kernel,by decide +kernel,by decide +kernel,by decide +kernel⟩

theorem crossed_steps : Pool.Steps Serves (beginning ⟨3,by decide⟩) crossed.1 crossed.2 := by
  have hstart : Pool.StepsWhere Serves (fun _ _ _ _ => True) (beginning ⟨3,by decide⟩) [] (beginning ⟨3,by decide⟩) :=
    .refl
  exact (Pool.drive_stepsWhere (free false) (P := fun s : Deployment Bool Bool => s.chain.Sound)
    (fun _ _ _ _ hs h => ⟨trivial,respond_serves hs h⟩) turns hstart (AuditChain.sound_new _) crossed_facts.1).steps

/-- One after the other, where four fit. -/
def apart := Pool.drive respond (List.replicate 11 false ++ List.replicate 11 true) (beginning ⟨4,by decide⟩)

theorem apart_facts : Pool.heeds respond (free true) (List.replicate 11 false ++ List.replicate 11 true) []
      (beginning ⟨4,by decide⟩) = true ∧ apart.2.state.chain.events.length = 4 := by
  decide +kernel

theorem apart_steps : Pool.StepsWhere Serves (Heeds calls) (beginning ⟨4,by decide⟩) apart.1 apart.2 := by
  have hstart : Pool.StepsWhere Serves (Heeds calls) (beginning ⟨4,by decide⟩) [] (beginning ⟨4,by decide⟩) := .refl
  exact Pool.drive_stepsWhere (free true) (P := fun s : Deployment Bool Bool => s.chain.Sound)
    (fun _ _ _ _ hs h => ⟨free_heeds h,respond_serves hs h⟩) _ hstart (AuditChain.sound_new _) apart_facts.1

end Fixture

open Fixture in
/-- Two admissions that leave four events. -/
theorem admitted_once_here : apart.2.state.chain.events.length = 4 ∧
    (∀ k, (apart.2.state.instances k).owner = none → Paired (apart.2.state.instances k)) :=
  ⟨apart_facts.2,(admitted_once (fun _ => false) ⟨4,by decide⟩ calls apart_steps).1⟩

open Fixture in
/-- The other instance takes the room that was there: the call raises, its run is not stored, and the chain keeps the
event that it was admitted. -/
theorem half_admission : Pool.Steps Serves (start (fun _ => false) ⟨3,by decide⟩ calls) crossed.1 crossed.2 ∧
    crossed.2.procs true = .raise ⟨.auditDiscontinuity,"audit_capacity_exceeded"⟩ ∧
    (crossed.2.state.instances true).records.get (calls true).2.resolution.runId = none ∧
    (crossed.2.state.chain.events.any fun event =>
      event.kind = runAdmitted && event.subjectRef = refOfId (calls true).2.resolution.runId) = true :=
  ⟨crossed_steps,Prog.eq_raise_of_raised crossed_facts.2.1,crossed_facts.2.2.1,crossed_facts.2.2.2⟩

end
end NativeAdmission
end Arbora.Runs
