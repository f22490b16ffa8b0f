import Arbora.Placement.Soundness

/-! A placement is total, does not depend on the order of the candidates, and shows its evidence. -/
namespace Arbora.Placement
open Arbora.Scaling (isRef)
open Json (Document sorted)

def digestPayload (snapshot : ResourcePoolSnapshot) : Document :=
  sorted [("kind",.string "resource_pool_snapshot"),("identity",snapshot.identityPayload)]

def CollisionFree (candidates : List ResourcePoolSnapshot) : Prop :=
  ∀ a ∈ candidates, ∀ b ∈ candidates, contentDigest (digestPayload a) = contentDigest (digestPayload b) →
    digestPayload a = digestPayload b

def evidenceRow (requirement : PlacementRequirement) (current : Instant) (snapshot : ResourcePoolSnapshot) :
    PlacementEvidence :=
  ⟨snapshot.snapshotId,snapshot.snapshotDigest,checkSnapshot snapshot requirement current = [],
    checkSnapshot snapshot requirement current⟩

structure Evident (requirement : PlacementRequirement) (candidates : List ResourcePoolSnapshot) (current : Instant)
    (decision : PlacementDecision) : Prop where
  placed : decision.status = .placed ↔ ∃ snapshot ∈ candidates, checkSnapshot snapshot requirement current = []
  best : decision.status = .placed → ∃ best ∈ candidates, checkSnapshot best requirement current = [] ∧
    (∀ other ∈ candidates, checkSnapshot other requirement current = [] → candidateRank best ≤ candidateRank other) ∧
    decision.selectedPoolRef = some best.poolRef.1 ∧ decision.selectedSnapshotId = some best.snapshotId ∧
    decision.selectedSnapshotDigest = some best.snapshotDigest ∧
    evidenceRow requirement current best ∈ decision.evidence
  count : decision.evidence.length = min candidates.length maxEvidence
  distinct : (decision.evidence.map (·.snapshotId)).Nodup
  ordered : decision.evidence.Pairwise fun a b => a.snapshotDigest.1 < b.snapshotDigest.1
  own : ∀ row ∈ decision.evidence, ∃ snapshot ∈ candidates, row = evidenceRow requirement current snapshot

section

theorem patched_sublist {α : Type} {all : List α} {n : ℕ} {x : α} (hx : x ∈ all.drop n) :
    ((all.take n).dropLast ++ [x]).Sublist all := by
  have htail : [x].Sublist (all.drop n) := List.singleton_sublist.mpr hx
  have hall := ((all.take n).dropLast_sublist).append htail
  rwa [List.take_append_drop] at hall

variable {all : List PlacementEvidence} {selected : Option ResourcePoolSnapshot}

theorem length_take_evidence : (all.take maxEvidence).length = min all.length maxEvidence :=
  List.length_take.trans (min_comm _ _)

theorem buildEvidenceRows_spec (hsorted : all.Pairwise fun a b => a.snapshotDigest.1 < b.snapshotDigest.1)
    (hsel : ∀ best ∈ selected, ∃ row ∈ all, row.snapshotId = best.snapshotId) :
    (buildEvidenceRows all selected).Sublist all ∧
    (buildEvidenceRows all selected).length = min all.length maxEvidence ∧
    ∀ best ∈ selected, ∃ row ∈ buildEvidenceRows all selected, row.snapshotId = best.snapshotId := by
  have hrows := @length_take_evidence all
  unfold buildEvidenceRows
  cases selected with
  | none => exact ⟨List.take_sublist _ _,hrows,by simp⟩
  | some best =>
    dsimp only
    split_ifs with hany
    · refine ⟨List.take_sublist _ _,hrows,?_⟩
      rintro _ ⟨⟩
      simpa using hany
    · obtain ⟨row,hrow,hid⟩ := hsel best rfl
      cases hfind : all.find? fun item => item.snapshotId = best.snapshotId with
      | none =>
        have := List.find?_eq_none.mp hfind row hrow
        simp [hid] at this
      | some item =>
        have hitem : item.snapshotId = best.snapshotId := by simpa using List.find?_some hfind
        have hmem := List.mem_of_find?_eq_some hfind
        have hlater : item ∈ all.drop maxEvidence := by
          rw [← List.take_append_drop maxEvidence all] at hmem
          rcases List.mem_append.mp hmem with hfirst | hlast
          · refine absurd ?_ hany
            exact List.any_eq_true.mpr ⟨item,hfirst,by simpa using hitem⟩
          · exact hlast
        have hsub := patched_sublist hlater
        have hlong : maxEvidence < all.length := by
          by_contra hshort
          rw [List.drop_eq_nil_of_le (not_lt.mp hshort)] at hlater
          cases hlater
        have hkept : ((all.take maxEvidence).dropLast ++ [item]).insertionSort
            (fun a b => a.snapshotDigest.1 ≤ b.snapshotDigest.1) = (all.take maxEvidence).dropLast ++ [item] :=
          ((hsorted.sublist hsub).imp le_of_lt).insertionSort_eq
        dsimp only
        rw [hkept]
        refine ⟨hsub,?_,?_⟩
        · have : 0 < maxEvidence := by decide
          rw [List.length_append,List.length_dropLast,hrows,List.length_singleton]
          omega
        · rintro _ ⟨⟩
          exact ⟨item,by simp,hitem⟩

end

section
variable {requirement : PlacementRequirement} {candidates : List ResourcePoolSnapshot} {current : Instant}

theorem length_checkSnapshot (snapshot : ResourcePoolSnapshot) :
    (checkSnapshot snapshot requirement current).length ≤ maxDenialReasons :=
  List.length_take_le _ _

theorem evidenceRow_valid (snapshot : ResourcePoolSnapshot) :
    (evidenceRow requirement current snapshot).validate = .ok (evidenceRow requirement current snapshot) := by
  have hid : isBoundedRef 100 (evidenceRow requirement current snapshot).snapshotId = true :=
    (snapshotId_valid snapshot).1
  have hfew : ¬ maxDenialReasons < (evidenceRow requirement current snapshot).denialReasons.length :=
    not_lt.mpr (length_checkSnapshot snapshot)
  unfold PlacementEvidence.validate
  rw [if_neg (by simp [hid]),if_neg hfew]
  simp [evidenceRow]

abbrev byDigest (candidates : List ResourcePoolSnapshot) : List ResourcePoolSnapshot :=
  candidates.insertionSort fun a b => a.snapshotDigest.1 ≤ b.snapshotDigest.1

private theorem buildAllEvidence_map (snapshots : List ResourcePoolSnapshot) :
    buildAllEvidence (snapshots.map fun snapshot => (snapshot,checkSnapshot snapshot requirement current)) =
      .ok (snapshots.map (evidenceRow requirement current)) := by
  induction snapshots with
  | nil => rfl
  | cons snapshot rest ih =>
    unfold buildAllEvidence at ih ⊢
    rw [List.map_cons,List.mapM_cons,ih]
    change (evidenceRow requirement current snapshot).validate >>= _ = _
    rw [evidenceRow_valid]
    rfl

theorem identityPayload_of_digestPayload {a b : ResourcePoolSnapshot} (h : digestPayload a = digestPayload b) :
    a.identityPayload = b.identityPayload := by
  have hswap : ∀ payload : Document, sorted [("kind",.string "resource_pool_snapshot"),("identity",payload)] =
      .object [("identity",payload),("kind",.string "resource_pool_snapshot")] := by
    have hkey : ¬ "kind" ≤ "identity" := by decide
    simp [sorted,hkey]
  unfold digestPayload at h
  rw [hswap,hswap] at h
  simpa using h

theorem CollisionFree.eq (hfree : CollisionFree candidates) (hids : (candidates.map (·.snapshotId)).Nodup)
    {a b : ResourcePoolSnapshot} (ha : a ∈ candidates) (hb : b ∈ candidates)
    (h : a.snapshotDigest.1 = b.snapshotDigest.1) : a = b := by
  have hpayload := identityPayload_of_digestPayload (hfree a ha b hb (Subtype.ext h))
  refine List.inj_on_of_nodup_map hids ha hb ?_
  unfold ResourcePoolSnapshot.snapshotId
  rw [hpayload]

private theorem byDigest_pairwise (candidates : List ResourcePoolSnapshot) :
    (byDigest candidates).Pairwise fun a b => a.snapshotDigest.1 ≤ b.snapshotDigest.1 :=
  haveI : Std.Total fun a b : ResourcePoolSnapshot => a.snapshotDigest.1 ≤ b.snapshotDigest.1 :=
    ⟨fun _ _ => le_total _ _⟩
  haveI : IsTrans ResourcePoolSnapshot fun a b => a.snapshotDigest.1 ≤ b.snapshotDigest.1 :=
    ⟨fun _ _ _ => le_trans⟩
  List.pairwise_insertionSort _ candidates

theorem byDigest_strict (hfree : CollisionFree candidates) (hids : (candidates.map (·.snapshotId)).Nodup) :
    (byDigest candidates).Pairwise fun a b => a.snapshotDigest.1 < b.snapshotDigest.1 := by
  have hperm := List.perm_insertionSort (fun a b : ResourcePoolSnapshot => a.snapshotDigest.1 ≤ b.snapshotDigest.1)
    candidates
  have hnodup : (byDigest candidates).Nodup := hperm.nodup_iff.mpr (List.Nodup.of_map _ hids)
  refine ((byDigest_pairwise candidates).and hnodup).imp_of_mem ?_
  intro a b ha hb ⟨hle,hne⟩
  refine lt_of_le_of_ne hle fun heq => hne ?_
  exact hfree.eq hids (hperm.mem_iff.mp ha) (hperm.mem_iff.mp hb) heq

theorem byDigest_perm (hfree : CollisionFree candidates) (hids : (candidates.map (·.snapshotId)).Nodup)
    {others : List ResourcePoolSnapshot} (hperm : others.Perm candidates) : byDigest others = byDigest candidates := by
  have hothers := (List.perm_insertionSort (fun a b : ResourcePoolSnapshot =>
    a.snapshotDigest.1 ≤ b.snapshotDigest.1) others).trans hperm
  have hsorted := List.perm_insertionSort (fun a b : ResourcePoolSnapshot =>
    a.snapshotDigest.1 ≤ b.snapshotDigest.1) candidates
  refine (hothers.trans hsorted.symm).eq_of_pairwise ?_ (byDigest_pairwise others) (byDigest_pairwise candidates)
  intro a b ha hb hab hba
  exact hfree.eq hids (hothers.mem_iff.mp ha) (hsorted.mem_iff.mp hb) (le_antisymm hab hba)

def decisionFor (requirement : PlacementRequirement) (candidates : List ResourcePoolSnapshot) (current : Instant) :
    PlacementDecision :=
  let checked := checkAllSnapshots requirement candidates current
  let selected := selectEligibleCandidate checked
  let fields := resolveDecisionFields selected checked
  { requirementId := requirement.requirementId
    evaluatedAt := current
    status := fields.1
    denialReasons := fields.2.1
    selectedPoolRef := fields.2.2.1
    selectedSnapshotId := fields.2.2.2.1
    selectedSnapshotDigest := fields.2.2.2.2
    evidence := buildEvidenceRows ((byDigest candidates).map (evidenceRow requirement current)) selected
    candidateCount := candidates.length
    evidenceTruncated := maxEvidence < ((byDigest candidates).map (evidenceRow requirement current)).length }

theorem place_eq (hmany : candidates.length ≤ maxCandidates) (hids : (candidates.map (·.snapshotId)).Nodup) :
    place requirement candidates (.utc current.1) = (decisionFor requirement candidates current).validate := by
  have hvalid : validatePlacementCandidates candidates = .ok () := by
    unfold validatePlacementCandidates
    rw [if_neg (not_lt.mpr hmany),if_neg (not_not.mpr hids)]
  unfold place
  rw [currentOf_utc]
  simp only [bind,Except.bind,hvalid]
  rw [show buildAllEvidence (checkAllSnapshots requirement candidates current) = _ from buildAllEvidence_map _]
  rfl

theorem decisionFor_perm (hfree : CollisionFree candidates) (hids : (candidates.map (·.snapshotId)).Nodup)
    {others : List ResourcePoolSnapshot} (hperm : others.Perm candidates) :
    decisionFor requirement others current = decisionFor requirement candidates current := by
  have hchecked : checkAllSnapshots requirement others current = checkAllSnapshots requirement candidates current :=
    congrArg (List.map _) (byDigest_perm hfree hids hperm)
  unfold decisionFor
  rw [hchecked,byDigest_perm hfree hids hperm,hperm.length_eq]

theorem rank_le {best other : ResourcePoolSnapshot}
    (h : best ∈ (passing requirement candidates current).argmin candidateRank) (hother : other ∈ candidates)
    (hpassed : checkSnapshot other requirement current = []) : candidateRank best ≤ candidateRank other :=
  List.le_of_mem_argmin (List.mem_filter.mpr ⟨hother,decide_eq_true hpassed⟩) h

theorem selected_spec {best : ResourcePoolSnapshot}
    (h : selectEligibleCandidate (checkAllSnapshots requirement candidates current) = some best) :
    best ∈ candidates ∧ checkSnapshot best requirement current = [] ∧
      ∀ other ∈ candidates, checkSnapshot other requirement current = [] → candidateRank best ≤ candidateRank other := by
  rw [selectEligibleCandidate_checkAll] at h
  obtain ⟨hmem,hpass⟩ := List.mem_filter.mp (List.argmin_mem h)
  exact ⟨hmem,of_decide_eq_true hpass,fun other => rank_le h⟩

theorem selected_isSome : (selectEligibleCandidate (checkAllSnapshots requirement candidates current)).isSome = true ↔
      ∃ snapshot ∈ candidates, checkSnapshot snapshot requirement current = [] := by
  rw [selectEligibleCandidate_checkAll,Option.isSome_iff_ne_none,ne_eq,List.argmin_eq_none]
  simp [passing,List.filter_eq_nil_iff]

theorem mem_allRows {row : PlacementEvidence} (h : row ∈ (byDigest candidates).map (evidenceRow requirement current)) :
    ∃ snapshot ∈ candidates, row = evidenceRow requirement current snapshot := by
  obtain ⟨snapshot,hmem,rfl⟩ := List.mem_map.mp h
  exact ⟨snapshot,(List.mem_insertionSort _).mp hmem,rfl⟩

theorem allRows_strict (hfree : CollisionFree candidates) (hids : (candidates.map (·.snapshotId)).Nodup) :
    ((byDigest candidates).map (evidenceRow requirement current)).Pairwise
      fun a b => a.snapshotDigest.1 < b.snapshotDigest.1 :=
  List.pairwise_map.mpr (byDigest_strict hfree hids)

variable (requirement current) in
theorem decisionFor_rows (hfree : CollisionFree candidates) (hids : (candidates.map (·.snapshotId)).Nodup) :
    (decisionFor requirement candidates current).evidence.Sublist
      ((byDigest candidates).map (evidenceRow requirement current)) ∧
    (decisionFor requirement candidates current).evidence.length = min candidates.length maxEvidence ∧
    ∀ best, selectEligibleCandidate (checkAllSnapshots requirement candidates current) = some best →
      evidenceRow requirement current best ∈ (decisionFor requirement candidates current).evidence := by
  have hsel : ∀ best ∈ selectEligibleCandidate (checkAllSnapshots requirement candidates current),
      ∃ row ∈ (byDigest candidates).map (evidenceRow requirement current), row.snapshotId = best.snapshotId := by
    intro best hbest
    have hmem := (selected_spec hbest).1
    exact ⟨_,List.mem_map_of_mem ((List.mem_insertionSort _).mpr hmem),rfl⟩
  obtain ⟨hsub,hlen,hbest⟩ := buildEvidenceRows_spec (allRows_strict hfree hids) hsel
  refine ⟨hsub,?_,?_⟩
  · rw [List.length_map,List.length_insertionSort] at hlen
    exact hlen
  · intro best hsome
    obtain ⟨row,hrow,hid⟩ := hbest best hsome
    obtain ⟨snapshot,hmem,rfl⟩ := mem_allRows (hsub.subset hrow)
    obtain rfl := List.inj_on_of_nodup_map hids hmem (selected_spec hsome).1 hid
    exact hrow

theorem allRows_ids : ((byDigest candidates).map (evidenceRow requirement current)).map (·.snapshotId) =
    (byDigest candidates).map (·.snapshotId) :=
  List.map_map

variable (requirement current) in
theorem decisionFor_distinct (hfree : CollisionFree candidates) (hids : (candidates.map (·.snapshotId)).Nodup) :
    ((decisionFor requirement candidates current).evidence.map (·.snapshotId)).Nodup := by
  have hsub := (decisionFor_rows requirement current hfree hids).1
  refine (hsub.map (·.snapshotId)).nodup ?_
  rw [allRows_ids]
  exact ((List.perm_insertionSort _ candidates).map _).nodup_iff.mpr hids

theorem decisionFor_evident (hfree : CollisionFree candidates) (hids : (candidates.map (·.snapshotId)).Nodup) :
    Evident requirement candidates current (decisionFor requirement candidates current) := by
  obtain ⟨hsub,hlen,hbest⟩ := decisionFor_rows requirement current hfree hids
  have hstatus : (decisionFor requirement candidates current).status = .placed ↔
      (selectEligibleCandidate (checkAllSnapshots requirement candidates current)).isSome = true := by
    cases hsel : selectEligibleCandidate (checkAllSnapshots requirement candidates current) with
    | none => simp [decisionFor,hsel,resolveDecisionFields]
    | some best => simp [decisionFor,hsel,resolveDecisionFields]
  refine ⟨hstatus.trans selected_isSome,?_,hlen,decisionFor_distinct _ _ hfree hids,?_,?_⟩
  · intro hplaced
    obtain ⟨best,hsome⟩ := Option.isSome_iff_exists.mp (hstatus.mp hplaced)
    obtain ⟨hmem,hpass,hmin⟩ := selected_spec hsome
    refine ⟨best,hmem,hpass,hmin,?_,?_,?_,hbest best hsome⟩
    · simp [decisionFor,hsome,resolveDecisionFields]
    · simp [decisionFor,hsome,resolveDecisionFields]
    · simp [decisionFor,hsome,resolveDecisionFields]
  · exact (allRows_strict hfree hids).sublist hsub
  · intro row hrow
    exact mem_allRows (hsub.subset hrow)

theorem resolveDecisionFields_denied {checked : CheckedSnapshots} : (resolveDecisionFields none checked).2.1 ≠ [] ∧
      (resolveDecisionFields none checked).2.1.length ≤ maxDenialReasons := by
  unfold resolveDecisionFields
  split_ifs with hnil
  · exact ⟨by simp,by decide⟩
  · exact ⟨hnil,List.length_take_le _ _⟩

theorem snapshotId_bounded (snapshot : ResourcePoolSnapshot) :
    isRef snapshot.snapshotId = true ∧ snapshot.snapshotId.length = 46 ∧ snapshot.snapshotId ≠ "" := by
  obtain ⟨hid,hlength⟩ := snapshotId_valid snapshot
  refine ⟨(Bool.and_eq_true_iff.mp hid).2,hlength,?_⟩
  intro hempty
  rw [hempty] at hlength
  exact absurd hlength (by decide)

theorem poolRef_nonempty (snapshot : ResourcePoolSnapshot) : snapshot.poolRef.1 ≠ "" := by
  intro hempty
  have hvalid := snapshot.poolRef.2
  rw [hempty] at hvalid
  exact absurd hvalid (by decide)

theorem decisionFor_fields (hmany : candidates.length ≤ maxCandidates)
    (hlen : (decisionFor requirement candidates current).evidence.length = min candidates.length maxEvidence) :
    (decisionFor requirement candidates current).fieldsValid = true := by
  have hrows : (decisionFor requirement candidates current).evidence.length ≤ maxEvidence :=
    hlen.trans_le (min_le_right _ _)
  have hcount : (decisionFor requirement candidates current).candidateCount ≤ maxCandidates := hmany
  have hreq : isBoundedRef 100 (decisionFor requirement candidates current).requirementId = true :=
    requirementId_valid requirement
  unfold PlacementDecision.fieldsValid
  rw [hreq,decide_eq_true (p := _ ∧ _ ∧ _) ⟨?_,hrows,hcount⟩]
  · cases hsel : selectEligibleCandidate (checkAllSnapshots requirement candidates current) with
    | none => simp [decisionFor,hsel,resolveDecisionFields]
    | some best =>
      obtain ⟨href,hlength,_⟩ := snapshotId_bounded best
      simp [decisionFor,hsel,resolveDecisionFields,best.poolRef.2,href,hlength]
  · cases hsel : selectEligibleCandidate (checkAllSnapshots requirement candidates current) with
    | none =>
      have := (@resolveDecisionFields_denied (checkAllSnapshots requirement candidates current)).2
      simpa [decisionFor,hsel] using this
    | some best => simp [decisionFor,hsel,resolveDecisionFields]

theorem decisionFor_shape (hfree : CollisionFree candidates) (hids : (candidates.map (·.snapshotId)).Nodup)
    (hlen : (decisionFor requirement candidates current).evidence.length = min candidates.length maxEvidence) :
    (decisionFor requirement candidates current).assertEvidenceShape = .ok () := by
  have hcount : (decisionFor requirement candidates current).candidateCount = candidates.length := rfl
  have htruncated : (decisionFor requirement candidates current).evidenceTruncated =
      decide (maxEvidence < candidates.length) := by
    simp [decisionFor]
  have hdistinct := decisionFor_distinct requirement current hfree hids
  unfold PlacementDecision.assertEvidenceShape
  rw [hcount,htruncated,hlen]
  rcases le_or_gt candidates.length maxEvidence with hsmall | hlarge
  · rw [min_eq_left hsmall]
    simp [hsmall,hdistinct,not_lt.mpr hsmall]
  · rw [min_eq_right hlarge.le]
    simp [hlarge,hdistinct,not_le.mpr hlarge,not_lt.mpr hlarge.le]

theorem decisionFor_status : (decisionFor requirement candidates current).assertStatusConsistency = .ok () := by
  unfold PlacementDecision.assertStatusConsistency
  cases hsel : selectEligibleCandidate (checkAllSnapshots requirement candidates current) with
  | none =>
    have := (@resolveDecisionFields_denied (checkAllSnapshots requirement candidates current)).1
    have hstatus : (decisionFor requirement candidates current).status = .denied := by
      simp [decisionFor,hsel,resolveDecisionFields]
    have hreasons : (decisionFor requirement candidates current).denialReasons ≠ [] := by
      simpa [decisionFor,hsel] using this
    simp [hstatus,hreasons]
  | some best =>
    obtain ⟨_,_,hid⟩ := snapshotId_bounded best
    simp [decisionFor,hsel,resolveDecisionFields,hid,poolRef_nonempty best]

theorem decisionFor_valid (hmany : candidates.length ≤ maxCandidates) (hfree : CollisionFree candidates)
    (hids : (candidates.map (·.snapshotId)).Nodup) :
    (decisionFor requirement candidates current).validate = .ok (decisionFor requirement candidates current) := by
  have hlen := (decisionFor_rows requirement current hfree hids).2.1
  unfold PlacementDecision.validate
  rw [decisionFor_fields hmany hlen,decisionFor_shape hfree hids hlen,decisionFor_status]
  rfl

end

/-- Candidates with distinct identifiers, at most 256 of them, are placed on at every instant in range. -/
theorem placement_complete (requirement : PlacementRequirement) (candidates : List ResourcePoolSnapshot)
    (current : Instant) (hmany : candidates.length ≤ maxCandidates) (hids : (candidates.map (·.snapshotId)).Nodup)
    (hfree : CollisionFree candidates) : ∃ decision, (∀ others : List ResourcePoolSnapshot, others.Perm candidates →
      place requirement others (.utc current.1) = .ok decision) ∧
    Evident requirement candidates current decision := by
  refine ⟨decisionFor requirement candidates current,?_,decisionFor_evident hfree hids⟩
  intro others hperm
  have hidsOthers : (others.map (·.snapshotId)).Nodup := (hperm.map _).nodup_iff.mpr hids
  rw [place_eq (hperm.length_eq ▸ hmany) hidsOthers,decisionFor_perm hfree hids hperm]
  exact decisionFor_valid hmany hfree hids

theorem noon_placement : ∃ decision, (∀ others : List ResourcePoolSnapshot, others.Perm [Fixture.snapshot .known] →
      place Fixture.requirement others (.utc (Fixture.hour 0).1) = .ok decision) ∧
    Evident Fixture.requirement [Fixture.snapshot .known] (Fixture.hour 0) decision := by
  refine placement_complete Fixture.requirement [Fixture.snapshot .known] (Fixture.hour 0) (by decide)
    (List.nodup_singleton _) ?_
  intro a ha b hb _
  rw [List.mem_singleton.mp ha,List.mem_singleton.mp hb]

/-- A time without a zone is refused before any candidate is looked at. -/
theorem naive_now_refused : ¬∀ requirement candidates now, candidates.length ≤ maxCandidates →
    (candidates.map (·.snapshotId)).Nodup → CollisionFree candidates → ∃ current decision,
      (∀ others : List ResourcePoolSnapshot, others.Perm candidates → place requirement others now = .ok decision) ∧
      Evident requirement candidates current decision := by
  intro h
  have hfree : CollisionFree [] := fun _ ha => absurd ha List.not_mem_nil
  obtain ⟨_,_,hplace,_⟩ := h Fixture.requirement [] .naive (by decide) List.nodup_nil hfree
  cases hplace [] (List.Perm.refl _)

/-- With more candidates: placed where it was, no worse, and elsewhere only on a candidate that is new. -/
structure Improves (candidates others : List ResourcePoolSnapshot) (decision wider : PlacementDecision) : Prop where
  placed : decision.status = .placed → wider.status = .placed
  rank : ∀ a ∈ candidates, ∀ b ∈ others, decision.selectedSnapshotId = some a.snapshotId →
    wider.selectedSnapshotId = some b.snapshotId → candidateRank b ≤ candidateRank a
  kept : ∀ b ∈ candidates, wider.selectedSnapshotId = some b.snapshotId →
    decision.selectedSnapshotId = some b.snapshotId

section
variable {requirement : PlacementRequirement} {candidates others : List ResourcePoolSnapshot} {now : Scaling.DateTime}
  {decision wider : PlacementDecision} {current : Instant} {a b : ResourcePoolSnapshot}

theorem argmin_of_subset (hsub : candidates ⊆ others)
    (ha : a ∈ (passing requirement candidates current).argmin candidateRank)
    (hb : b ∈ (passing requirement others current).argmin candidateRank) :
    candidateRank b ≤ candidateRank a ∧ (b ∈ candidates → candidateRank a ≤ candidateRank b) := by
  obtain ⟨hcandidate,hpassed⟩ := List.mem_filter.mp (List.argmin_mem ha)
  refine ⟨rank_le hb (hsub hcandidate) (of_decide_eq_true hpassed),fun hmem => ?_⟩
  exact rank_le ha hmem (of_decide_eq_true (List.mem_filter.mp (List.argmin_mem hb)).2)

theorem mem_argmin_of_selected (hids : (candidates.map (·.snapshotId)).Nodup) (ha : a ∈ candidates)
    (h : ((passing requirement candidates current).argmin candidateRank).map (·.snapshotId) = some a.snapshotId) :
    a ∈ (passing requirement candidates current).argmin candidateRank := by
  obtain ⟨best,hbest,hid⟩ := Option.map_eq_some_iff.mp h
  cases List.inj_on_of_nodup_map hids (List.mem_filter.mp (List.argmin_mem hbest)).1 ha hid
  exact hbest

theorem isSome_argmin (ha : a ∈ passing requirement candidates current) :
    ((passing requirement candidates current).argmin candidateRank).isSome = true := by
  rw [Option.isSome_iff_ne_none,Ne,List.argmin_eq_none]
  exact List.ne_nil_of_mem ha

end

end Arbora.Placement
