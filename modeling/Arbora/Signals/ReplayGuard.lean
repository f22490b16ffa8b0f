import Arbora.Lib.Dict
import Arbora.Lib.Machine
import Arbora.Signals.Models

/-! The replay guard: identities of samples are forgotten when there are too many of them, the highest sequence
of a source never is. -/
namespace Arbora.Signals

abbrev SourceKey := Identifier × ℕ

def SignalSample.sourceKey (s : SignalSample) : SourceKey := (s.sourceId,s.sourceEpoch)
def SignalSample.sampleKey (s : SignalSample) : SourceKey × Identifier := (s.sourceKey,s.sampleId)
def SignalSample.digestKey (s : SignalSample) : SourceKey × Digest := (s.sourceKey,s.sampleDigest)

def maxBatchItems : ℕ := 1024

structure ReplayGuard where
  maxEntries : ℕ
  highestSequence : Dict SourceKey ℕ
  sampleIds : List (SourceKey × Identifier)
  digests : List (SourceKey × Digest)
  admitted : 1 ≤ maxEntries ∧ maxEntries ≤ maxBatchItems * 16

/-- A set is gone through in some order. -/
structure Order (α : Type) where
  of : List α → List α
  perm : ∀ l, (of l).Perm l

namespace ReplayGuard

def new (maxEntries : ℕ) (h : 1 ≤ maxEntries ∧ maxEntries ≤ maxBatchItems * 16) : ReplayGuard :=
  ⟨maxEntries,∅,[],[],h⟩

/-- What a batch adds if all of it is admissible; the sets have no element twice. -/
structure Pending where
  highest : Dict SourceKey ℕ := ∅
  ids : List (SourceKey × Identifier) := []
  digests : List (SourceKey × Digest) := []

def highest (g : ReplayGuard) (p : Pending) (key : SourceKey) : ℕ :=
  (p.highest.get key).getD ((g.highestSequence.get key).getD 0)

/-- `_sample_admissible`; nothing stands for `False`. -/
def sampleAdmissible (g : ReplayGuard) (p : Pending) (s : SignalSample) : Option Pending :=
  if s.sequence ≤ g.highest p s.sourceKey then none
  else if s.sampleKey ∈ g.sampleIds ∨ s.sampleKey ∈ p.ids ∨ s.digestKey ∈ g.digests ∨ s.digestKey ∈ p.digests then none
  else some ⟨p.highest.set s.sourceKey s.sequence,s.sampleKey :: p.ids,s.digestKey :: p.digests⟩

def allAdmissible (g : ReplayGuard) : Pending → List SignalSample → Option Pending
  | p, [] => some p
  | p, s :: rest => (g.sampleAdmissible p s).bind fun p => g.allAdmissible p rest

/-- The entries are put at the end one by one, and the oldest are dropped until there are not too many. -/
def retain {α : Type} [DecidableEq α] (most : ℕ) (kept added : List α) : List α :=
  let all := added.foldl (fun kept key => kept.erase key ++ [key]) kept
  all.drop (all.length - most)

def commit (g : ReplayGuard) (p : Pending) (ids : Order (SourceKey × Identifier)) (digests : Order (SourceKey × Digest)) :
    ReplayGuard :=
  { g with
    highestSequence := g.highestSequence.update p.highest
    sampleIds := retain g.maxEntries g.sampleIds (ids.of p.ids)
    digests := retain g.maxEntries g.digests (digests.of p.digests) }

end ReplayGuard

/-- A batch, and the orders in which its sets will be gone through. -/
structure Batch where
  samples : List SignalSample
  ids : Order (SourceKey × Identifier)
  digests : Order (SourceKey × Digest)

def ReplayGuard.accept (g : ReplayGuard) (batch : Batch) : Bool × ReplayGuard :=
  if maxBatchItems < batch.samples.length then (false,g)
  else
    match g.allAdmissible {} batch.samples with
    | none => (false,g)
    | some pending => (true,g.commit pending batch.ids batch.digests)

def acceptedSamples : ReplayGuard → List Batch → List SignalSample
  | _, [] => []
  | g, batch :: rest => (if (g.accept batch).1 then batch.samples else []) ++ acceptedSamples (g.accept batch).2 rest

section
open ReplayGuard

def Growing (samples : List SignalSample) : Prop :=
  samples.Pairwise fun a b => a.sourceKey = b.sourceKey → a.sequence < b.sequence

theorem sampleAdmissible_some {g : ReplayGuard} {p p' : Pending} {s : SignalSample} (h : g.sampleAdmissible p s = some p') :
    g.highest p s.sourceKey < s.sequence ∧
      ∀ key, g.highest p' key = if key = s.sourceKey then s.sequence else g.highest p key := by
  unfold sampleAdmissible at h
  split_ifs at h with hsequence
  cases h
  refine ⟨not_le.mp hsequence,?_⟩
  intro key
  unfold highest
  rw [Dict.get_set]
  split_ifs with hkey
  · rfl
  · rfl

theorem allAdmissible_some {g : ReplayGuard} {p p' : Pending} {samples : List SignalSample}
    (h : g.allAdmissible p samples = some p') : Growing samples ∧ (∀ key, g.highest p key ≤ g.highest p' key) ∧
      ∀ s ∈ samples, g.highest p s.sourceKey < s.sequence ∧ s.sequence ≤ g.highest p' s.sourceKey := by
  induction samples generalizing p with
  | nil =>
    cases h
    exact ⟨.nil,fun _ => le_rfl,by simp⟩
  | cons s rest ih =>
    obtain ⟨q,hq,hrest⟩ := Option.bind_eq_some_iff.mp h
    obtain ⟨hlt,hset⟩ := sampleAdmissible_some hq
    obtain ⟨hgrowing,hmono,hbetween⟩ := ih hrest
    have hstep : ∀ key, g.highest p key ≤ g.highest q key := by
      intro key
      rw [hset]
      split_ifs with hkey
      · rw [hkey]
        exact hlt.le
      · exact le_rfl
    refine ⟨.cons ?_ hgrowing,fun key => (hstep key).trans (hmono key),?_⟩
    · intro t ht hkey
      have hbelow := (hbetween t ht).1
      rwa [← hkey,hset,if_pos rfl] at hbelow
    · intro t ht
      rcases List.mem_cons.mp ht with rfl | ht
      · have hcommitted := hmono t.sourceKey
        rw [hset,if_pos rfl] at hcommitted
        exact ⟨hlt,hcommitted⟩
      · exact ⟨(hstep _).trans_lt (hbetween t ht).1,(hbetween t ht).2⟩

theorem highest_commit (g : ReplayGuard) (p : Pending) (batch : Batch) (key : SourceKey) :
    (g.commit p batch.ids batch.digests).highest {} key = g.highest p key := by
  have hempty : Dict.get (∅ : Dict SourceKey ℕ) key = none := Dict.get_empty key
  unfold highest commit
  rw [hempty,Dict.get_update]
  cases p.highest.get key with
  | none => rfl
  | some sequence => rfl

theorem length_retain {α : Type} [DecidableEq α] (most : ℕ) (kept added : List α) : (retain most kept added).length ≤ most := by
  unfold retain
  rw [List.length_drop]
  omega

/-- Not more identities are kept than there may be. -/
structure Bounded (most : ℕ) (g : ReplayGuard) : Prop where
  maxEntries : g.maxEntries = most
  sampleIds : g.sampleIds.length ≤ most
  digests : g.digests.length ≤ most

theorem accept_cases (g : ReplayGuard) (batch : Batch) : g.accept batch = (false,g) ∨
    ∃ p, g.allAdmissible {} batch.samples = some p ∧ g.accept batch = (true,g.commit p batch.ids batch.digests) := by
  unfold accept
  split_ifs
  · exact .inl rfl
  cases hall : g.allAdmissible {} batch.samples with
  | none => exact .inl rfl
  | some p => exact .inr ⟨p,rfl,rfl⟩

theorem bounded_accept {most : ℕ} (g : ReplayGuard) (batch : Batch) (h : Bounded most g) : Bounded most (g.accept batch).2 := by
  rcases accept_cases g batch with hrefused | ⟨p,_,haccepted⟩
  · rw [hrefused]
    exact h
  · rw [haccepted]
    exact ⟨h.maxEntries,h.maxEntries ▸ length_retain ..,h.maxEntries ▸ length_retain ..⟩

theorem growing_acceptedSamples (g : ReplayGuard) (batches : List Batch) : Growing (acceptedSamples g batches) ∧
    ∀ s ∈ acceptedSamples g batches, g.highest {} s.sourceKey < s.sequence := by
  induction batches generalizing g with
  | nil => exact ⟨.nil,by simp [acceptedSamples]⟩
  | cons batch rest ih =>
    obtain ⟨hgrowing,habove⟩ := ih (g.accept batch).2
    unfold acceptedSamples
    rcases accept_cases g batch with hrefused | ⟨p,hall,haccepted⟩
    · rw [hrefused] at hgrowing habove ⊢
      exact ⟨hgrowing,habove⟩
    · obtain ⟨hfirst,hmono,hbetween⟩ := allAdmissible_some hall
      rw [haccepted] at hgrowing habove ⊢
      simp only [highest_commit] at habove
      refine ⟨List.pairwise_append.mpr ⟨hfirst,hgrowing,?_⟩,?_⟩
      · intro a ha b hb hkey
        have hcommitted := habove b hb
        rw [← hkey] at hcommitted
        exact (hbetween a ha).2.trans_lt hcommitted
      · intro s hs
        rcases List.mem_append.mp hs with hs | hs
        · exact (hbetween s hs).1
        · exact (hmono _).trans_lt (habove s hs)

end

/-- For every source and epoch the sequences of the accepted samples are strictly increasing, so that no sample is
accepted twice; a refused batch changes nothing; and the identities that are kept are not too many. -/
theorem replay_guard_sound (maxEntries : ℕ) (h : 1 ≤ maxEntries ∧ maxEntries ≤ maxBatchItems * 16) (batches : List Batch) :
    let g := Machine.after ReplayGuard.accept (ReplayGuard.new maxEntries h) batches
    let accepted := acceptedSamples (ReplayGuard.new maxEntries h) batches
    (∀ key, ((accepted.filter fun s => s.sourceKey = key).map (·.sequence)).Pairwise (· < ·)) ∧ accepted.Nodup ∧
      (∀ batch, (g.accept batch).1 = false → (g.accept batch).2 = g) ∧
      g.sampleIds.length ≤ maxEntries ∧ g.digests.length ≤ maxEntries := by
  intro g accepted
  obtain ⟨hgrowing,_⟩ := growing_acceptedSamples (ReplayGuard.new maxEntries h) batches
  have hbounded : Bounded maxEntries g :=
    Machine.Reachable.invariant bounded_accept ⟨rfl,Nat.zero_le _,Nat.zero_le _⟩ ⟨batches,rfl⟩
  refine ⟨?_,?_,?_,hbounded.sampleIds,hbounded.digests⟩
  · intro key
    rw [List.pairwise_map,List.pairwise_filter]
    refine hgrowing.imp ?_
    intro a b hab ha hb
    exact hab ((of_decide_eq_true ha).trans (of_decide_eq_true hb).symm)
  · refine hgrowing.imp ?_
    rintro a _ hab rfl
    exact lt_irrefl _ (hab rfl)
  · intro batch hrefused
    rcases accept_cases g batch with hsame | ⟨p,_,haccepted⟩
    · rw [hsame]
    · rw [haccepted] at hrefused
      cases hrefused

namespace Sample

def source : Identifier := ⟨"source:one",by decide +kernel⟩
def zeros : Digest := ⟨String.ofList (List.replicate 64 '0'),by decide +kernel⟩
def ones : Digest := ⟨String.ofList (List.replicate 64 '1'),by decide +kernel⟩

def sample (sampleId : Identifier) (sampleDigest : Digest) (sequence : ℕ) (h : 1 ≤ sequence) : SignalSample where
  sampleId := sampleId
  sampleDigest := sampleDigest
  sourceId := source
  sourceKind := .engine
  sourceEpoch := 1
  authEvidenceRef := ⟨"evidence:one",by decide +kernel⟩
  serviceScope := source
  tenantScope := source
  unitId := source
  signal := .queue
  aggregation := .last
  value := 3
  sampleTime := 1
  eventTime := 0
  freshnessS := 1
  confidence := 1
  evidenceRef := ⟨"evidence:one",by decide +kernel⟩
  sequence := sequence
  queryDigest := zeros
  epochPos := Nat.one_pos
  valueNonneg := by decide
  fresh := by decide +kernel
  confident := by decide +kernel
  sequencePos := h
  ordered := by decide

def first : SignalSample := sample ⟨"sample:one",by decide +kernel⟩ zeros 1 Nat.one_pos
def second : SignalSample := sample ⟨"sample:two",by decide +kernel⟩ ones 2 Nat.two_pos
def asIs {α : Type} : Order α := ⟨id,List.Perm.refl⟩
def batches : List Batch := [⟨[first],asIs,asIs⟩,⟨[second],asIs,asIs⟩,⟨[first],asIs,asIs⟩]

end Sample

open Sample in
theorem forgotten_sample_refused : (acceptedSamples (ReplayGuard.new 1 (by decide)) batches).Nodup ∧
    (acceptedSamples (ReplayGuard.new 1 (by decide)) batches).length = 2 :=
  ⟨(replay_guard_sound 1 (by decide) batches).2.1,by decide +kernel⟩

end Arbora.Signals
