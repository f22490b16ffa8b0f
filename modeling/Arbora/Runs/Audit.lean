import Arbora.Runs.Models
import Mathlib.Algebra.Order.Ring.Int

/-! A bounded audit chain, each of whose events is bound to the one before it, and what an append can do to it. -/
namespace Arbora.Runs
open Json (natural sorted)
open PolicyPlane (Digest OpaqueRef StableId canonicalDigest)

inductive ErrorKind
  | nativeAdmission | replayDrift | auditDiscontinuity
  /-- A refusal of the models themselves. -/
  | validation
  /-- Whatever a clock or a verifier raises. -/
  | foreign
deriving DecidableEq

structure Raised where
  kind : ErrorKind
  code : String
deriving DecidableEq

structure AuditEvent where
  sequence : ℕ
  (eventId kind : StableId)
  subjectRef : OpaqueRef
  (payloadDigest previousHash chainHash : Digest)
  observedAt : ℕ

structure AuditChain where
  maxEvents : {n : ℕ // 1 ≤ n ∧ n ≤ 4096}
  events : List AuditEvent

def genesisHash : Digest := canonicalDigest (.string "control-plane-audit-genesis-v1")

def chainHashOf (sequence : ℕ) (kind : StableId) (subjectRef : OpaqueRef) (payloadDigest previousHash : Digest)
    (observedAt : ℕ) : Digest := canonicalDigest <| sorted [
  ("sequence",natural sequence),("kind",.string kind.1),("subject_ref",.string subjectRef.1),
  ("payload_digest",.string payloadDigest.1),("previous_hash",.string previousHash.1),
  ("observed_at",natural observedAt)]

def eventIdOf (hash : Digest) : StableId := ⟨labelled "audit:" hash,isId_labelled (by decide) _⟩

def AuditEvent.following (sequence : ℕ) (previous : Digest) (kind : StableId) (subjectRef : OpaqueRef)
    (payloadDigest : Digest) (observedAt : ℕ) : AuditEvent :=
  let hash := chainHashOf sequence kind subjectRef payloadDigest previous observedAt
  ⟨sequence,eventIdOf hash,kind,subjectRef,payloadDigest,previous,hash,observedAt⟩

def lastHash (previous : Digest) : List AuditEvent → Digest
  | [] => previous
  | event :: rest => lastHash event.chainHash rest

/-- The loop of `verify`. -/
def verifyFrom (sequence : ℕ) (previous : Digest) : List AuditEvent → Bool
  | [] => true
  | event :: rest =>
    if event.sequence ≠ sequence ∨ event.previousHash ≠ previous then false
    else if event.chainHash ≠ chainHashOf event.sequence event.kind event.subjectRef event.payloadDigest
        event.previousHash event.observedAt then false
    else if event.eventId ≠ eventIdOf event.chainHash then false
    else verifyFrom (sequence+1) event.chainHash rest

namespace AuditChain

def new (maxEvents : {n : ℕ // 1 ≤ n ∧ n ≤ 4096}) : AuditChain := ⟨maxEvents,[]⟩
def verify (s : AuditChain) : Bool := verifyFrom 0 genesisHash s.events
def canAppend (s : AuditChain) (count : ℕ) : Bool := s.events.length+count ≤ s.maxEvents

def append (s : AuditChain) (kind : StableId) (subjectRef : OpaqueRef) (payloadDigest : Digest) (observedAt : ℤ) :
    Except Raised AuditEvent × AuditChain :=
  if s.verify = false then (.error ⟨.auditDiscontinuity,"audit_chain_discontinuous"⟩,s)
  else if s.canAppend 1 = false then (.error ⟨.auditDiscontinuity,"audit_capacity_exceeded"⟩,s)
  else if observedAt < 0 then (.error ⟨.validation,"observed_at"⟩,s)
  else
    let event := AuditEvent.following s.events.length (lastHash genesisHash s.events) kind subjectRef payloadDigest
      observedAt.toNat
    (.ok event,{s with events := s.events ++ [event]})

def requireValid (s : AuditChain) : Except Raised Unit :=
  if s.verify = false then .error ⟨.auditDiscontinuity,"audit_chain_discontinuous"⟩ else .ok ()

end AuditChain

theorem verifyFrom_append {sequence : ℕ} {previous : Digest} {events : List AuditEvent}
    (h : verifyFrom sequence previous events = true) (kind : StableId) (subjectRef : OpaqueRef) (payloadDigest : Digest)
    (observedAt : ℕ) : verifyFrom sequence previous (events ++ [AuditEvent.following (sequence+events.length)
      (lastHash previous events) kind subjectRef payloadDigest observedAt]) = true := by
  induction events generalizing sequence previous with
  | nil =>
    rw [List.nil_append,verifyFrom,if_neg (fun h => h.elim (fun h => h rfl) fun h => h rfl),if_neg (fun h => h rfl),
      if_neg (fun h => h rfl),verifyFrom]
  | cons event rest ih =>
    rw [verifyFrom] at h
    split_ifs at h with hplace hhash hid
    rw [List.cons_append,verifyFrom,if_neg hplace,if_neg hhash,if_neg hid]
    have hnext := ih h
    rw [List.length_cons,← Nat.add_assoc,Nat.add_right_comm]
    exact hnext

namespace AuditChain

/-- A chain that was only ever appended to. -/
structure Sound (s : AuditChain) : Prop where
  verified : s.verify = true
  bounded : s.events.length ≤ s.maxEvents

theorem sound_new (maxEvents : {n : ℕ // 1 ≤ n ∧ n ≤ 4096}) : (new maxEvents).Sound := ⟨rfl,Nat.zero_le _⟩

variable {s : AuditChain} {kind : StableId} {subjectRef : OpaqueRef} {payloadDigest : Digest} {observedAt : ℤ}

inductive Appends (s : AuditChain) (kind : StableId) (subjectRef : OpaqueRef) (payloadDigest : Digest) (observedAt : ℤ) :
    Except Raised AuditEvent → AuditChain → Prop
  | refused (x : Raised) (hrefused : s.verify = false ∨ s.canAppend 1 = false ∨ observedAt < 0) :
      Appends s kind subjectRef payloadDigest observedAt (.error x) s
  | added (event : AuditEvent) (hkind : event.kind = kind) (hsubject : event.subjectRef = subjectRef)
      (hpayload : event.payloadDigest = payloadDigest) (hroom : s.canAppend 1 = true) (htime : 0 ≤ observedAt) :
      Appends s kind subjectRef payloadDigest observedAt (.ok event) {s with events := s.events ++ [event]}

theorem append_appends (s : AuditChain) (kind : StableId) (subjectRef : OpaqueRef) (payloadDigest : Digest)
    (observedAt : ℤ) : Appends s kind subjectRef payloadDigest observedAt
    (s.append kind subjectRef payloadDigest observedAt).1 (s.append kind subjectRef payloadDigest observedAt).2 := by
  unfold append
  split_ifs with hverify hroom htime
  · exact .refused _ (.inl hverify)
  · exact .refused _ (.inr (.inl hroom))
  · exact .refused _ (.inr (.inr htime))
  · exact .added _ rfl rfl rfl (Bool.not_eq_false _ ▸ hroom) (not_lt.mp htime)

theorem Sound.append_ok (h : s.Sound) (hroom : s.canAppend 1 = true) (htime : 0 ≤ observedAt) :
    s.append kind subjectRef payloadDigest observedAt =
      (.ok (AuditEvent.following s.events.length (lastHash genesisHash s.events) kind subjectRef payloadDigest
        observedAt.toNat),
      {s with events := s.events ++ [AuditEvent.following s.events.length (lastHash genesisHash s.events) kind subjectRef
        payloadDigest observedAt.toNat]}) := by
  unfold AuditChain.append
  rw [h.verified,hroom,if_neg (by decide),if_neg (by decide),if_neg (not_lt.mpr htime)]

theorem Sound.append_full (h : s.Sound) (hroom : s.canAppend 1 = false) :
    s.append kind subjectRef payloadDigest observedAt =
      (.error ⟨.auditDiscontinuity,"audit_capacity_exceeded"⟩,s) := by
  unfold AuditChain.append
  rw [h.verified,hroom,if_neg (by decide),if_pos rfl]

theorem Sound.append (h : s.Sound) (kind : StableId) (subjectRef : OpaqueRef) (payloadDigest : Digest)
    (observedAt : ℤ) : (s.append kind subjectRef payloadDigest observedAt).2.Sound := by
  unfold AuditChain.append
  split_ifs with hverify hroom htime
  · exact h
  · exact h
  · exact h
  · constructor
    · have hlinked := verifyFrom_append h.verified kind subjectRef payloadDigest observedAt.toNat
      rw [Nat.zero_add] at hlinked
      exact hlinked
    · have hroom : s.canAppend 1 = true := Bool.not_eq_false _ ▸ hroom
      rw [List.length_append]
      exact of_decide_eq_true hroom

end AuditChain
end Arbora.Runs
