import Arbora.Economics.Identities
import Arbora.Economics.Repository

/-! The repository only grows, cards of a version are never in force together, and a replay is acknowledged
truthfully where the stored record has the same payload. -/
namespace Arbora.Economics
open Arbora.Scaling (Digest)

/-- The appends and the put. -/
inductive Op where
  | fact (f : UsageFact)
  | correction (c : UsageCorrection)
  | aggregate (a : WindowAggregate)
  | rollup (r : SloWindowRollup)
  | card (p : PriceCard)
  | tombstone (t : UsageTombstone)

namespace Repository

def apply (s : Repository) : Op → Except Refusal AppendReceipt × Repository
  | .fact f => s.appendUsageFact f
  | .correction c => s.appendCorrection c
  | .aggregate a => s.appendWindowAggregate a
  | .rollup r => s.appendSloRollup r
  | .card p => s.putPriceCard p
  | .tombstone t => s.appendTombstone t

/-- What a sequence of operations leaves. -/
def run (s : Repository) (ops : List Op) : Repository := ops.foldl (fun s op => (s.apply op).2) s

/-- The repository after a sequence of operations on a new one. -/
def after (ops : List Op) : Repository := run {} ops

/-- The very record of the operation is stored under its identity. -/
def Stored (s : Repository) : Op → Prop
  | .fact f => ∃ d, s.facts.get f.factId = some (d,f)
  | .correction c => ∃ d, s.corrections.get c.correctionId = some (d,c)
  | .aggregate a => ∃ d, s.aggregates.get a.aggregateId = some (d,a)
  | .rollup r => ∃ d, s.rollups.get r.rollupId = some (d,r)
  | .card p => ∃ d, s.cards.get p.cardId = some (d,p)
  | .tombstone t => ∃ d, s.tombstones.get t.tombstoneId = some (d,t)

structure Extends (s s' : Repository) : Prop where
  facts : ∀ id entry, s.facts.get id = some entry → s'.facts.get id = some entry
  corrections : ∀ id entry, s.corrections.get id = some entry → s'.corrections.get id = some entry
  aggregates : ∀ id entry, s.aggregates.get id = some entry → s'.aggregates.get id = some entry
  rollups : ∀ id entry, s.rollups.get id = some entry → s'.rollups.get id = some entry
  cards : ∀ id entry, s.cards.get id = some entry → s'.cards.get id = some entry
  tombstones : ∀ id entry, s.tombstones.get id = some entry → s'.tombstones.get id = some entry

def Truthful (s : Repository) (op : Op) : Prop :=
  ∀ receipt, (s.apply op).1 = .ok receipt → receipt.disposition = .replayed → s.Stored op

end Repository

/-- A card is in force from its first instant up to its last, which is not included. -/
def PriceCard.InForce (card : PriceCard) (t : ℤ) : Prop := card.effectiveFrom.1 ≤ t ∧ ∀ e ∈ card.effectiveTo, t < e.1

def PriceCard.SameVersion (card other : PriceCard) : Prop :=
  card.providerRef = other.providerRef ∧ card.serviceRef = other.serviceRef ∧ card.version = other.version

def Repository.CardsApart (s : Repository) : Prop :=
  ∀ id id' entry entry', s.cards.get id = some entry → s.cards.get id' = some entry' → id ≠ id' →
    entry.2.SameVersion entry'.2 → ¬∃ t, entry.2.InForce t ∧ entry'.2.InForce t

/-- What is claimed of a sequence of operations. -/
structure AppendOnly (ops : List Op) : Prop where
  kept : ∀ before later, ops = before ++ later → (Repository.after before).Extends (Repository.after ops)
  apart : (Repository.after ops).CardsApart
  truthful : ∀ before op later, ops = before ++ op :: later → (Repository.after before).Truthful op

def Repository.Agrees (s : Repository) : Op → Prop
  | .fact f => ∀ g, s.facts.get f.factId = some (f.factDigest,g) → g.identityPayload = f.identityPayload
  | .correction c => ∀ g, s.corrections.get c.correctionId = some (c.originalFactDigest,g) →
      g.identityPayload = c.identityPayload ∧ g.createdAt = c.createdAt
  | .aggregate a => ∀ g, s.aggregates.get a.aggregateId = some (a.aggregateDigest,g) →
      g.identityPayload = a.identityPayload
  | .rollup r => ∀ g, s.rollups.get r.rollupId = some (r.rollupDigest,g) → g.identityPayload = r.identityPayload
  | .card p => (s.cards.values.any fun entry => Repository.supersedes p entry.2) = false →
      ∀ g, s.cards.get p.cardId = some (p.cardDigest,g) → g.identityPayload = p.identityPayload ∧ g.rates = p.rates
  | .tombstone t => ∀ g, s.tombstones.get t.tombstoneId = some (t.targetDigest,g) →
      g.identityPayload = t.identityPayload

section
variable {α : Type} {store : Store α} {identity : String} {digest : Digest} {value : α}

theorem append_cases (store : Store α) (identity : String) (digest : Digest) (value : α) :
    (∃ refusal, append store identity digest value = (.error refusal,store) ∧
      ∃ d g, store.get identity = some (d,g) ∧ d ≠ digest) ∨
    (append store identity digest value = (.ok ⟨identity,digest,.replayed⟩,store) ∧
      ∃ g, store.get identity = some (digest,g)) ∨
    (append store identity digest value = (.ok ⟨identity,digest,.inserted⟩,store.set identity (digest,value)) ∧
      store.get identity = none) := by
  unfold append
  cases hget : store.get identity with
  | none => exact Or.inr (Or.inr ⟨rfl,rfl⟩)
  | some entry =>
    obtain ⟨d,g⟩ := entry
    by_cases hsame : d = digest
    · subst hsame
      simp
    · exact Or.inl ⟨_,if_pos hsame,d,g,rfl,hsame⟩

theorem append_kept (id : String) (entry : Digest × α) (h : store.get id = some entry) :
    (append store identity digest value).2.get id = some entry := by
  rcases append_cases store identity digest value with ⟨refusal,heq,-⟩ | ⟨heq,-⟩ | ⟨heq,hnew⟩
  · rw [heq]
    exact h
  · rw [heq]
    exact h
  · rw [heq]
    exact Dict.get_set_new h hnew

theorem append_truthful : (∀ receipt, (append store identity digest value).1 = .ok receipt →
      receipt.disposition = .replayed → ∃ d, store.get identity = some (d,value)) ↔
    ∀ g, store.get identity = some (digest,g) → g = value := by
  constructor
  · intro h g hg
    rcases append_cases store identity digest value with ⟨refusal,-,d,g',hd,hne⟩ | ⟨heq,-⟩ | ⟨-,hnew⟩
    · rw [hg] at hd
      cases hd
      exact absurd rfl hne
    · obtain ⟨d,hd⟩ := h ⟨identity,digest,.replayed⟩ (by rw [heq]) rfl
      rw [hg] at hd
      cases hd
      rfl
    · rw [hnew] at hg
      cases hg
  · intro h receipt hreceipt hreplayed
    rcases append_cases store identity digest value with ⟨refusal,heq,-⟩ | ⟨-,g,hg⟩ | ⟨heq,-⟩
    · rw [heq] at hreceipt
      cases hreceipt
    · exact ⟨digest,by rw [hg,h g hg]⟩
    · rw [heq] at hreceipt
      cases hreceipt
      cases hreplayed

end

theorem intervalsOverlap_iff {a b : PriceCard} : intervalsOverlap a b = true ↔ ∃ t, a.InForce t ∧ b.InForce t := by
  have ha := a.follows
  have hb := b.follows
  unfold intervalsOverlap PriceCard.InForce
  constructor
  · intro h
    rw [Bool.and_eq_true,Option.all_eq_true,Option.all_eq_true] at h
    refine ⟨max a.effectiveFrom.1 b.effectiveFrom.1,⟨le_max_left _ _,?_⟩,le_max_right _ _,?_⟩
    · intro e he
      exact max_lt (ha e he) (of_decide_eq_true (h.1 e he))
    · intro e he
      exact max_lt (of_decide_eq_true (h.2 e he)) (hb e he)
  · rintro ⟨t,⟨hfrom,hto⟩,hfrom',hto'⟩
    rw [Bool.and_eq_true,Option.all_eq_true,Option.all_eq_true]
    constructor
    · intro e he
      exact decide_eq_true (lt_of_le_of_lt hfrom' (hto e he))
    · intro e he
      exact decide_eq_true (lt_of_le_of_lt hfrom (hto' e he))

theorem supersedes_iff {card previous : PriceCard} : Repository.supersedes card previous = true ↔
    previous.cardId ≠ card.cardId ∧ previous.SameVersion card ∧ ∃ t, previous.InForce t ∧ card.InForce t := by
  unfold Repository.supersedes PriceCard.SameVersion
  rw [Bool.and_eq_true,Bool.and_eq_true,Bool.and_eq_true,Bool.and_eq_true,bne_iff_ne,beq_iff_eq,beq_iff_eq,
    beq_iff_eq,intervalsOverlap_iff]
  constructor
  · rintro ⟨⟨⟨⟨hid,hprovider⟩,hservice⟩,hversion⟩,hoverlap⟩
    exact ⟨hid,⟨hprovider,hservice,hversion⟩,hoverlap⟩
  · rintro ⟨hid,⟨hprovider,hservice,hversion⟩,hoverlap⟩
    exact ⟨⟨⟨⟨hid,hprovider⟩,hservice⟩,hversion⟩,hoverlap⟩

namespace Repository
variable {s : Repository} {op : Op}

theorem putPriceCard_refused {p : PriceCard} (h : (s.cards.values.any fun entry => supersedes p entry.2) = true) :
    s.putPriceCard p =
      (.error ⟨.conflict,"price-card versions may not overlap with a different digest"⟩,s) := if_pos h

theorem putPriceCard_admitted {p : PriceCard} (h : (s.cards.values.any fun entry => supersedes p entry.2) = false) :
    s.putPriceCard p = ((append s.cards p.cardId p.cardDigest p).1,
      {s with cards := (append s.cards p.cardId p.cardDigest p).2}) := by
  unfold putPriceCard
  rw [if_neg (by rw [h]; exact Bool.false_ne_true)]

theorem Extends.refl (s : Repository) : s.Extends s := by
  constructor
  all_goals exact fun id entry h => h

theorem Extends.trans {s' s'' : Repository} (h : s.Extends s') (h' : s'.Extends s'') : s.Extends s'' where
  facts id entry hid := h'.facts id entry (h.facts id entry hid)
  corrections id entry hid := h'.corrections id entry (h.corrections id entry hid)
  aggregates id entry hid := h'.aggregates id entry (h.aggregates id entry hid)
  rollups id entry hid := h'.rollups id entry (h.rollups id entry hid)
  cards id entry hid := h'.cards id entry (h.cards id entry hid)
  tombstones id entry hid := h'.tombstones id entry (h.tombstones id entry hid)

theorem apply_card (s : Repository) (p : PriceCard) : (s.apply (.card p)).2 = s ∨
    (s.cards.values.any fun entry => supersedes p entry.2) = false ∧
      (s.apply (.card p)).2 = {s with cards := (append s.cards p.cardId p.cardDigest p).2} := by
  cases hany : s.cards.values.any fun entry => supersedes p entry.2 with
  | true => exact .inl (congrArg Prod.snd (putPriceCard_refused hany))
  | false => exact .inr ⟨rfl,congrArg Prod.snd (putPriceCard_admitted hany)⟩

/-- One operation only adds. -/
theorem apply_extends (s : Repository) (op : Op) : s.Extends (s.apply op).2 := by
  cases op with
  | fact f => exact { Extends.refl s with facts := append_kept }
  | correction c => exact { Extends.refl s with corrections := append_kept }
  | aggregate a => exact { Extends.refl s with aggregates := append_kept }
  | rollup r => exact { Extends.refl s with rollups := append_kept }
  | tombstone t => exact { Extends.refl s with tombstones := append_kept }
  | card p =>
    rcases apply_card s p with heq | ⟨hany,heq⟩ <;> rw [heq]
    · exact Extends.refl s
    · exact { Extends.refl s with cards := append_kept }

theorem run_extends (s : Repository) (ops : List Op) : s.Extends (s.run ops) := by
  induction ops generalizing s with
  | nil => exact Extends.refl s
  | cons op ops ih => exact (apply_extends s op).trans (ih _)

theorem after_append (before later : List Op) :
    after (before ++ later) = (after before).run later := List.foldl_append

/-- Records stand under their own identities. -/
structure Keyed (s : Repository) : Prop where
  aggregates : ∀ id entry, s.aggregates.get id = some entry → id = entry.2.aggregateId
  rollups : ∀ id entry, s.rollups.get id = some entry → id = entry.2.rollupId
  cards : ∀ id entry, s.cards.get id = some entry → id = entry.2.cardId

theorem append_keyed {α : Type} {store : Store α} {idOf : α → String} {digest : Digest} {value : α}
    (h : ∀ id entry, store.get id = some entry → id = idOf entry.2) (id : String) (entry : Digest × α)
    (hget : (append store (idOf value) digest value).2.get id = some entry) : id = idOf entry.2 := by
  rcases append_cases store (idOf value) digest value with ⟨refusal,heq,-⟩ | ⟨heq,-⟩ | ⟨heq,-⟩
  · rw [heq] at hget
    exact h id entry hget
  · rw [heq] at hget
    exact h id entry hget
  · rw [heq,Dict.get_set] at hget
    split_ifs at hget with hid
    · cases hget
      exact hid
    · exact h id entry hget

theorem apply_keyed (h : s.Keyed) (op : Op) : (s.apply op).2.Keyed := by
  cases op with
  | fact f => exact ⟨h.aggregates,h.rollups,h.cards⟩
  | correction c => exact ⟨h.aggregates,h.rollups,h.cards⟩
  | aggregate a => exact ⟨append_keyed h.aggregates,h.rollups,h.cards⟩
  | rollup r => exact ⟨h.aggregates,append_keyed h.rollups,h.cards⟩
  | tombstone t => exact ⟨h.aggregates,h.rollups,h.cards⟩
  | card p =>
    rcases apply_card s p with heq | ⟨hany,heq⟩ <;> rw [heq]
    · exact h
    · exact ⟨h.aggregates,h.rollups,append_keyed h.cards⟩

theorem run_keyed (h : s.Keyed) (ops : List Op) : (s.run ops).Keyed := by
  induction ops generalizing s with
  | nil => exact h
  | cons op ops ih => exact ih (apply_keyed h op)

theorem SameVersion_symm {a b : PriceCard} (h : a.SameVersion b) : b.SameVersion a :=
  ⟨h.1.symm,h.2.1.symm,h.2.2.symm⟩

theorem apart_of_admitted (hkeyed : s.Keyed) {p : PriceCard}
    (h : (s.cards.values.any fun entry => supersedes p entry.2) = false) {id : String} {entry : Digest × PriceCard}
    (hget : s.cards.get id = some entry) (hid : id ≠ p.cardId) (hversion : entry.2.SameVersion p) :
    ¬∃ t, entry.2.InForce t ∧ p.InForce t := by
  intro hcommon
  have hmem : entry ∈ s.cards.values := Dict.mem_values.mpr ⟨id,hget⟩
  have hnone := List.any_eq_false.mp h entry hmem
  apply hnone
  apply supersedes_iff.mpr
  rw [hkeyed.cards id entry hget] at hid
  exact ⟨hid,hversion,hcommon⟩

theorem apply_apart (hkeyed : s.Keyed) (h : s.CardsApart) (op : Op) : (s.apply op).2.CardsApart := by
  cases op with
  | card p =>
    rcases apply_card s p with heq | ⟨hany,heq⟩ <;> rw [heq]
    · exact h
    · rcases append_cases s.cards p.cardId p.cardDigest p with ⟨refusal,hleft,-⟩ | ⟨hleft,-⟩ | ⟨hleft,-⟩
      · rw [hleft]
        exact h
      · rw [hleft]
        exact h
      · rw [hleft]
        intro id id' entry entry' hid hid' hne hversion
        simp only [Dict.get_set] at hid hid'
        split_ifs at hid hid' with hnew hnew' hnew'
        · exact absurd (hnew.trans hnew'.symm) hne
        · cases hid
          rintro ⟨t,hp,ht⟩
          exact apart_of_admitted hkeyed hany hid' hnew' (SameVersion_symm hversion) ⟨t,ht,hp⟩
        · cases hid'
          exact apart_of_admitted hkeyed hany hid hnew hversion
        · exact h id id' entry entry' hid hid' hne hversion
  | fact f => exact h
  | correction c => exact h
  | aggregate a => exact h
  | rollup r => exact h
  | tombstone t => exact h

theorem after_invariant (ops : List Op) : (after ops).Keyed ∧ (after ops).CardsApart := by
  induction ops using List.reverseRecOn with
  | nil =>
    constructor
    · constructor
      all_goals
        intro id entry h
        cases h
    · intro id id' entry entry' h
      cases h
  | append_singleton ops op ih =>
    rw [after_append]
    exact ⟨apply_keyed ih.1 op,apply_apart ih.1 ih.2 op⟩

theorem truthful_iff : s.Truthful op ↔ s.Agrees op := by
  cases op with
  | fact f =>
    refine append_truthful.trans (forall_congr' fun g => imp_congr_right fun _ => ?_)
    exact UsageFact.identityPayload_injective.eq_iff.symm
  | correction c =>
    refine append_truthful.trans (forall_congr' fun g => imp_congr_right fun _ => ?_)
    constructor
    · rintro rfl
      exact ⟨rfl,rfl⟩
    · rintro ⟨hpayload,hcreated⟩
      exact UsageCorrection.eq_of_payload hpayload hcreated
  | aggregate a =>
    refine append_truthful.trans (forall_congr' fun g => imp_congr_right fun _ => ?_)
    exact WindowAggregate.identityPayload_injective.eq_iff.symm
  | rollup r =>
    refine append_truthful.trans (forall_congr' fun g => imp_congr_right fun _ => ?_)
    exact SloWindowRollup.identityPayload_injective.eq_iff.symm
  | tombstone t =>
    refine append_truthful.trans (forall_congr' fun g => imp_congr_right fun _ => ?_)
    exact UsageTombstone.identityPayload_injective.eq_iff.symm
  | card p =>
    cases hany : s.cards.values.any fun entry => supersedes p entry.2 with
    | true =>
      constructor
      · intro _ hadmitted
        rw [hany] at hadmitted
        cases hadmitted
      · intro _ receipt hreceipt
        rw [show (s.apply (.card p)).1 = _ from congrArg Prod.fst (putPriceCard_refused hany)] at hreceipt
        cases hreceipt
    | false =>
      have heq : (s.apply (.card p)).1 = (append s.cards p.cardId p.cardDigest p).1 :=
        congrArg Prod.fst (putPriceCard_admitted hany)
      have hcards : s.Agrees (.card p) ↔ ∀ g, s.cards.get p.cardId = some (p.cardDigest,g) → g = p := by
        constructor
        · intro h g hg
          exact PriceCard.eq_of_payload (h hany g hg).1 (h hany g hg).2
        · intro h _ g hg
          rw [h g hg]
          exact ⟨rfl,rfl⟩
      rw [hcards,← append_truthful]
      unfold Truthful
      rw [heq]
      rfl

end Repository

/-- Nothing stored is changed or removed and cards of a version stay apart in every run; and all replays of a run are
acknowledged truthfully iff at each of its steps the stored record agrees. -/
theorem append_only_iff (ops : List Op) : AppendOnly ops ↔
    ∀ before op later, ops = before ++ op :: later → (Repository.after before).Agrees op := by
  constructor
  · intro h before op later hops
    exact Repository.truthful_iff.mp (h.truthful before op later hops)
  · intro h
    refine ⟨?_,(Repository.after_invariant ops).2,?_⟩
    · intro before later hops
      rw [hops,Repository.after_append]
      exact Repository.run_extends _ later
    · intro before op later hops
      exact Repository.truthful_iff.mpr (h before op later hops)

namespace Fixture
def retraction (hours : ℕ) (h : hours < 24) : UsageCorrection where
  tenantId := tenant
  originalFactId := ⟨"usage:0",by decide +kernel⟩
  originalFactDigest := digest
  replacementFactId := none
  replacementFactDigest := none
  reason := .privacyRetraction
  createdAt := ⟨newYear.1 + hours * 3600000000,by
    have hstart : newYear.1 = 1767225600000000 := rfl
    unfold Arbora.Scaling.supportedFrom Arbora.Scaling.supportedUntil
    omega⟩
  together := rfl
  notItself := by simp

end Fixture

/-- Two retractions of one fact at different times: the second is acknowledged as a replay of the first. -/
theorem retraction_not_stored : ¬∀ ops, AppendOnly ops := by
  intro h
  obtain ⟨first,hfirst⟩ : ∃ c, c = Fixture.retraction 0 (by decide) := ⟨_,rfl⟩
  obtain ⟨second,hsecond⟩ : ∃ c, c = Fixture.retraction 1 (by decide) := ⟨_,rfl⟩
  have hpayload : first.identityPayload = second.identityPayload := by
    rw [hfirst,hsecond]
    rfl
  have hdigest : first.originalFactDigest = second.originalFactDigest := by
    rw [hfirst,hsecond]
    rfl
  have hid : first.correctionId = second.correctionId := congrArg (identityOf "correction:") hpayload
  have htruthful := (h [.correction first,.correction second]).truthful [.correction first] (.correction second) [] rfl
  have hstored : (Repository.after [.correction first]).corrections.get second.correctionId =
      some (second.originalFactDigest,first) := by
    rw [← hid,← hdigest]
    exact Dict.get_set_self _ _ _
  have hcreated := (Repository.truthful_iff.mp htruthful first hstored).2
  rw [hfirst,hsecond] at hcreated
  exact absurd (congrArg Subtype.val hcreated) (by decide)

end Arbora.Economics
