import Arbora.Lib.Dict
import Arbora.Lib.Pool
import Arbora.Runs.Audit

/-! The admission of one run with one work item, call by call: every instance under its own lock, and the audit chain
that instances share under another. -/
namespace Arbora.Runs
open Interaction
open PolicyPlane (Digest OpaqueRef PolicyAuthorization StableId canonicalDigest)

/-- An instance of `InMemoryNativeAdmission`. -/
structure Instance (ι : Type) where
  owner : Option ι
  records : Dict StableId RunRecord
  workItems : Dict StableId StableId

structure Deployment (κ ι : Type) where
  chain : AuditChain
  instances : κ → Instance ι

inductive Call (κ ι : Type)
  | acquire (k : κ) (caller : ι)
  | release (k : κ)
  | readRecord (k : κ) (runId : StableId)
  | readWorkItem (k : κ) (workItemId : StableId)
  | clock (k : κ)
  | verifyAuthorization (k : κ) (authorization : PolicyAuthorization) (now : ℤ)
  | requireValid
  | canAppend (count : ℕ)
  | append (kind : StableId) (subjectRef : OpaqueRef) (payloadDigest : Digest) (observedAt : ℤ)
  | writeRecord (k : κ) (runId : StableId) (record : RunRecord)
  | writeWorkItem (k : κ) (workItemId runId : StableId)

variable {κ ι : Type}

@[reducible] def Call.Answer : Call κ ι → Type
  | .acquire .. | .release _ | .writeRecord .. | .writeWorkItem .. => Unit
  | .readRecord .. => Option RunRecord
  | .readWorkItem .. => Option StableId
  | .clock _ => Except Raised ℤ
  | .verifyAuthorization .. | .requireValid => Except Raised Unit
  | .canAppend _ => Bool
  | .append .. => Except Raised AuditEvent

abbrev Step (κ ι α : Type) := Prog (Call κ ι) Call.Answer Raised α

section
variable [DecidableEq κ]

def Deployment.new (maxEvents : {n : ℕ // 1 ≤ n ∧ n ≤ 4096}) : Deployment κ ι := ⟨.new maxEvents,fun _ => ⟨none,∅,∅⟩⟩
def Deployment.put (s : Deployment κ ι) (k : κ) (x : Instance ι) : Deployment κ ι :=
  {s with instances := Function.update s.instances k x}

@[simp] theorem Deployment.put_self (s : Deployment κ ι) (k : κ) (x : Instance ι) : (s.put k x).instances k = x :=
  Function.update_self ..

inductive Serves : World (Call κ ι) Call.Answer (Deployment κ ι)
  | acquire (s : Deployment κ ι) (k : κ) (caller : ι) (hfree : (s.instances k).owner = none) :
      Serves s (.acquire k caller) () (s.put k {s.instances k with owner := some caller})
  | release (s : Deployment κ ι) (k : κ) : Serves s (.release k) () (s.put k {s.instances k with owner := none})
  | readRecord (s : Deployment κ ι) (k : κ) (runId : StableId) :
      Serves s (.readRecord k runId) ((s.instances k).records.get runId) s
  | readWorkItem (s : Deployment κ ι) (k : κ) (workItemId : StableId) :
      Serves s (.readWorkItem k workItemId) ((s.instances k).workItems.get workItemId) s
  | clock (s : Deployment κ ι) (k : κ) (r : Except Raised ℤ) : Serves s (.clock k) r s
  | verifyAuthorization (s : Deployment κ ι) (k : κ) (authorization : PolicyAuthorization) (now : ℤ)
      (r : Except Raised Unit) : Serves s (.verifyAuthorization k authorization now) r s
  | requireValid (s : Deployment κ ι) : Serves s .requireValid s.chain.requireValid s
  | canAppend (s : Deployment κ ι) (count : ℕ) : Serves s (.canAppend count) (s.chain.canAppend count) s
  | append (s : Deployment κ ι) (kind : StableId) (subjectRef : OpaqueRef) (payloadDigest : Digest) (observedAt : ℤ) :
      Serves s (.append kind subjectRef payloadDigest observedAt)
        (s.chain.append kind subjectRef payloadDigest observedAt).1
        {s with chain := (s.chain.append kind subjectRef payloadDigest observedAt).2}
  | writeRecord (s : Deployment κ ι) (k : κ) (runId : StableId) (record : RunRecord) :
      Serves s (.writeRecord k runId record) ()
        (s.put k {s.instances k with records := (s.instances k).records.set runId record})
  | writeWorkItem (s : Deployment κ ι) (k : κ) (workItemId runId : StableId) :
      Serves s (.writeWorkItem k workItemId runId) ()
        (s.put k {s.instances k with workItems := (s.instances k).workItems.set workItemId runId})

end

def runAdmitted : StableId := ⟨"run.admitted",by decide⟩
def workItemAdmitted : StableId := ⟨"work_item.admitted",by decide⟩

def RunRecord.receipt (record : RunRecord) (created : Bool) : AdmissionReceipt :=
  ⟨record.resolution.runId,record.workItem.workItemId,record.resolution.resolutionDigest,
    canonicalDigest record.workItem.document,created⟩

namespace NativeAdmission

def ofExcept {α : Type} : Except Raised α → Step κ ι α
  | .ok a => .ret a
  | .error x => .raise x

/-- What is done while the lock is held, and the release after it. -/
def within {α : Type} (k : κ) (body : Step κ ι α) : Step κ ι α :=
  (body.handle fun x => .call (.release k) fun _ => .raise x).bind fun a => .call (.release k) fun _ => .ret a

def replayReceipt (k : κ) (request : NativeAdmissionRequest) : Step κ ι (Option AdmissionReceipt) :=
  .call (.readRecord k request.resolution.runId) fun
    | none => .ret none
    | some existing =>
      if existing.resolution ≠ request.resolution ∨ existing.workItem ≠ request.workItem then
        .raise ⟨.replayDrift,"replay_or_body_drift"⟩
      else .ret (some (existing.receipt false))

def ensureWorkItemAvailable (k : κ) (workItemId : StableId) : Step κ ι Unit :=
  .call (.readWorkItem k workItemId) fun
    | none => .ret ()
    | some _ => .raise ⟨.nativeAdmission,"work_item_identity_conflict"⟩

def stale {α : Type} (_ : Raised) : Step κ ι α := .raise ⟨.nativeAdmission,"authorization_stale_or_invalid"⟩
def callVerifier (k : κ) (authorization : PolicyAuthorization) (now : ℤ) : Step κ ι Unit :=
  .call (.verifyAuthorization k authorization now) ofExcept
def timedVerifier (k : κ) (request : NativeAdmissionRequest) : Step κ ι Unit :=
  .call (.clock k) fun now => (ofExcept now).bind (callVerifier k request.resolution.authorization)

def verifyAuthorization (verified : Bool) (k : κ) (request : NativeAdmissionRequest) : Step κ ι Unit :=
  match verified with
  | false => .ret ()
  | true => (timedVerifier k request).handle stale

def ensureRoom : Step κ ι Unit :=
  .call (.canAppend 2) fun
    | true => .ret ()
    | false => .raise ⟨.nativeAdmission,"audit_capacity_exceeded"⟩

def ensureAuditCapacity : Step κ ι Unit :=
  .call .requireValid fun
    | .ok _ => ensureRoom
    | .error x => if x.kind = .auditDiscontinuity then .raise ⟨.nativeAdmission,"audit_discontinuity"⟩ else .raise x

/-- The second half of `_append_audit`. -/
def appendItem (request : NativeAdmissionRequest) (now : ℤ) (runEvent : AuditEvent) : Step κ ι (List StableId) :=
  .call (.append workItemAdmitted (refOfId request.workItem.workItemId) (canonicalDigest request.workItem.document) now)
    fun itemEvent => (ofExcept itemEvent).bind fun itemEvent => .ret [runEvent.eventId,itemEvent.eventId]

def appendAudit (request : NativeAdmissionRequest) (now : ℤ) : Step κ ι (List StableId) :=
  .call (.append runAdmitted (refOfId request.resolution.runId) request.resolution.resolutionDigest now)
    fun runEvent => (ofExcept runEvent).bind (appendItem request now)

def writeItem (k : κ) (record : RunRecord) : Step κ ι AdmissionReceipt :=
  .call (.writeWorkItem k record.workItem.workItemId record.resolution.runId) fun _ => .ret (record.receipt true)
def store (k : κ) (record : RunRecord) : Step κ ι AdmissionReceipt :=
  .call (.writeRecord k record.resolution.runId record) fun _ => writeItem k record
def stamped (k : κ) (request : NativeAdmissionRequest) (now : ℤ) : Step κ ι AdmissionReceipt :=
  (appendAudit request now).bind fun auditIds => store k ⟨request.resolution,request.workItem,auditIds⟩
def timed (k : κ) (request : NativeAdmissionRequest) : Step κ ι AdmissionReceipt :=
  .call (.clock k) fun now => (ofExcept now).bind (stamped k request)
def authorized (k : κ) (request : NativeAdmissionRequest) : Step κ ι AdmissionReceipt :=
  ensureAuditCapacity.bind fun _ => timed k request

def fresh (verified : Bool) (k : κ) (request : NativeAdmissionRequest) : Step κ ι AdmissionReceipt :=
  (ensureWorkItemAvailable k request.workItem.workItemId).bind fun _ =>
    (verifyAuthorization verified k request).bind fun _ => authorized k request

def admission (verified : Bool) (k : κ) (request : NativeAdmissionRequest) : Step κ ι AdmissionReceipt :=
  (replayReceipt k request).bind fun
    | some replay => .ret replay
    | none => fresh verified k request

/-- The call numbered `caller`, on the instance `k`. -/
def admitOnce (verified : Bool) (k : κ) (caller : ι) (request : NativeAdmissionRequest) : Step κ ι AdmissionReceipt :=
  .call (.acquire k caller) fun _ => within k (admission verified k request)

end NativeAdmission
end Arbora.Runs
