import Arbora.Lib.JsonReader
import Arbora.Runs.Audit
import Mathlib.Data.List.Induction

/-! The last hash of an audit chain commits to all of its events. -/
namespace Arbora.Runs
open Json (Document natural natural_injective sorted sorted_inj writeAscii writeAscii_injective)
open PolicyPlane (Digest OpaqueRef StableId canonicalDigest)

def AuditEvent.document (event : AuditEvent) : Document := sorted [
  ("sequence",natural event.sequence),("kind",.string event.kind.1),("subject_ref",.string event.subjectRef.1),
  ("payload_digest",.string event.payloadDigest.1),("previous_hash",.string event.previousHash.1),
  ("observed_at",natural event.observedAt)]

structure CollisionFree (events : List AuditEvent) : Prop where
  apart : ∀ e ∈ events, ∀ f ∈ events, canonicalDigest e.document = canonicalDigest f.document →
    writeAscii e.document = writeAscii f.document
  founded : ∀ e ∈ events, canonicalDigest e.document ≠ genesisHash

/-- An event that `verify` accepts at its place. -/
structure AuditEvent.Follows (event : AuditEvent) (sequence : ℕ) (previous : Digest) : Prop where
  sequence_eq : event.sequence = sequence
  previousHash_eq : event.previousHash = previous
  chainHash_eq : event.chainHash = canonicalDigest event.document
  eventId_eq : event.eventId = eventIdOf event.chainHash

variable {sequence : ℕ} {previous : Digest} {events events' : List AuditEvent} {e f : AuditEvent}

theorem verifyFrom_cons : verifyFrom sequence previous (e :: events) = true ↔
    e.Follows sequence previous ∧ verifyFrom (sequence+1) e.chainHash events = true := by
  rw [verifyFrom]
  constructor
  · intro h
    split_ifs at h with hplace hhash hid
    obtain ⟨hsequence,hprevious⟩ := not_or.mp hplace
    exact ⟨⟨not_not.mp hsequence,not_not.mp hprevious,not_not.mp hhash,not_not.mp hid⟩,h⟩
  · rintro ⟨⟨rfl,rfl,hhash,hid⟩,h⟩
    change e.chainHash = chainHashOf _ _ _ _ _ _ at hhash
    rw [if_neg (by simp),if_neg (not_not.mpr hhash),if_neg (not_not.mpr hid),h]

theorem lastHash_concat : lastHash previous (events ++ [e]) = e.chainHash := by
  induction events generalizing previous with
  | nil => rfl
  | cons event rest ih => exact ih

theorem verifyFrom_concat : verifyFrom sequence previous (events ++ [e]) = true ↔
    verifyFrom sequence previous events = true ∧ e.Follows (sequence+events.length) (lastHash previous events) := by
  induction events generalizing sequence previous with
  | nil =>
    rw [List.nil_append,verifyFrom_cons]
    simp [verifyFrom,lastHash]
  | cons event rest ih =>
    rw [List.cons_append,verifyFrom_cons,verifyFrom_cons,ih,and_assoc,List.length_cons,Nat.add_right_comm]
    rfl

theorem AuditEvent.eq_of_document {n m : ℕ} {p q : Digest} (he : e.Follows n p) (hf : f.Follows m q)
    (h : e.document = f.document) : e = f := by
  have hchain := he.chainHash_eq.trans ((congrArg canonicalDigest h).trans hf.chainHash_eq.symm)
  have hid := he.eventId_eq.trans ((congrArg eventIdOf hchain).trans hf.eventId_eq.symm)
  have hmembers := sorted_inj h (by simp) (by simp)
  simp only [List.cons.injEq,Prod.mk.injEq,true_and,and_true,Document.string.injEq,natural_injective.eq_iff,
    Subtype.coe_inj] at hmembers
  obtain ⟨hsequence,hkind,hsubject,hpayload,hprevious,hobserved⟩ := hmembers
  cases e
  cases f
  simp only [AuditEvent.mk.injEq]
  exact ⟨hsequence,hid,hkind,hsubject,hpayload,hprevious,hchain,hobserved⟩

theorem eq_of_lastHash (hfree : CollisionFree (events ++ events')) (h : verifyFrom 0 genesisHash events = true)
    (h' : verifyFrom 0 genesisHash events' = true) (hlast : lastHash genesisHash events = lastHash genesisHash events') :
    events = events' := by
  induction events using List.reverseRecOn generalizing events' with
  | nil =>
    induction events' using List.reverseRecOn with
    | nil => rfl
    | append_singleton rest' f _ =>
      obtain ⟨-,hf⟩ := verifyFrom_concat.mp h'
      rw [lastHash_concat,hf.chainHash_eq] at hlast
      exact absurd hlast.symm (hfree.founded f (by simp))
  | append_singleton rest e ih =>
    obtain ⟨hrest,he⟩ := verifyFrom_concat.mp h
    induction events' using List.reverseRecOn with
    | nil =>
      rw [lastHash_concat,he.chainHash_eq] at hlast
      exact absurd hlast (hfree.founded e (by simp))
    | append_singleton rest' f _ =>
      obtain ⟨hrest',hf⟩ := verifyFrom_concat.mp h'
      rw [lastHash_concat,lastHash_concat,he.chainHash_eq,hf.chainHash_eq] at hlast
      obtain rfl := AuditEvent.eq_of_document he hf
        (writeAscii_injective (hfree.apart e (by simp) f (by simp) hlast))
      have hsub : ∀ d ∈ rest ++ rest', d ∈ (rest ++ [e]) ++ (rest' ++ [e]) := by
        intro d hd
        rcases List.mem_append.mp hd with hd | hd
        · exact List.mem_append_left _ (List.mem_append_left _ hd)
        · exact List.mem_append_right _ (List.mem_append_left _ hd)
      have hbefore : CollisionFree (rest ++ rest') :=
        ⟨fun d hd d' hd' => hfree.apart d (hsub d hd) d' (hsub d' hd'),fun d hd => hfree.founded d (hsub d hd)⟩
      rw [ih hbefore hrest hrest' (he.previousHash_eq.symm.trans hf.previousHash_eq)]

namespace AuditChain

structure AppendCall where
  kind : StableId
  subjectRef : OpaqueRef
  payloadDigest : Digest
  observedAt : ℤ

def appends (s : AuditChain) (calls : List AppendCall) : AuditChain :=
  calls.foldl (fun s c => (s.append c.kind c.subjectRef c.payloadDigest c.observedAt).2) s
def head (s : AuditChain) : Digest := lastHash genesisHash s.events

theorem Sound.appends {s : AuditChain} (h : s.Sound) (calls : List AppendCall) : (s.appends calls).Sound := by
  induction calls generalizing s with
  | nil => exact h
  | cons c rest ih => exact ih (h.append c.kind c.subjectRef c.payloadDigest c.observedAt)

/-- Every chain that is appended to verifies, and chains that verify have one head exactly when they have the same events. -/
theorem head_commits : (∀ maxEvents calls, ((new maxEvents).appends calls).verify = true) ∧
      ∀ s s' : AuditChain, CollisionFree (s.events ++ s'.events) → s.verify = true → s'.verify = true →
        (s.head = s'.head ↔ s.events = s'.events) := by
  constructor
  · intro maxEvents calls
    exact ((sound_new maxEvents).appends calls).verified
  · intro s s' hfree h h'
    constructor
    · exact eq_of_lastHash hfree h h'
    · exact fun heq => congrArg (lastHash genesisHash) heq

def started : List AppendCall := [⟨⟨"run:started",by decide⟩,⟨"run:1",by decide⟩,genesisHash,0⟩]

/-- A chain of one event has not the head of the chain of none. -/
theorem started_head : ((new ⟨1,by decide⟩).appends started).head ≠ (new ⟨1,by decide⟩).head := by
  have hevents : ((new ⟨1,by decide⟩).appends started).events =
      [AuditEvent.following 0 genesisHash ⟨"run:started",by decide⟩ ⟨"run:1",by decide⟩ genesisHash 0] :=
    congrArg events (congrArg Prod.snd ((sound_new _).append_ok rfl le_rfl))
  have hfree : CollisionFree (((new ⟨1,by decide⟩).appends started).events ++ (new ⟨1,by decide⟩).events) := by
    rw [hevents]
    refine ⟨fun e he f hf _ => ?_,fun e he => ?_⟩
    · rw [List.mem_singleton.mp he,List.mem_singleton.mp hf]
    · rw [List.mem_singleton.mp he]
      decide +kernel
  intro heq
  have hsame := (head_commits.2 _ _ hfree (head_commits.1 _ _) rfl).mp heq
  rw [hevents] at hsame
  cases hsame

end AuditChain
end Arbora.Runs
