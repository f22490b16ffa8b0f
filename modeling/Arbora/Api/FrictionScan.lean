import Arbora.Api.Contradiction

/-! The scan of all pairs says what the check of one claim says. -/
namespace Arbora.Api
variable (U : Unicode) {minSimilarity : ℚ}

theorem lexicalSimilarity_comm (a b : String) : lexicalSimilarity U a b = lexicalSimilarity U b a := by
  unfold lexicalSimilarity
  dsimp only
  rw [Finset.inter_comm,Finset.union_comm,Finset.inter_comm (bigrams _),Finset.union_comm (bigrams _)]
  refine if_congr or_comm rfl ?_
  rw [if_congr (or_comm (a := bigrams (contentTokens U a) ≠ ∅)) rfl rfl]

/-- What a finding says of a pair, whichever claim is the new one. -/
def weight (D : ContradictionDetector) (a b : Claim) : Option (ℚ × Severity) :=
  (friction U D a b).map fun f => (f.similarity,f.severity)

theorem weight_comm (a b : Claim) :
    weight U (lexicalDetector U minSimilarity) a b = weight U (lexicalDetector U minSimilarity) b a := by
  unfold weight friction lexicalDetector
  dsimp only
  rw [lexicalSimilarity_comm,opposes_comm]
  split_ifs <;> rfl

theorem friction_ids {D : ContradictionDetector} {a b : Claim} {f : FrictionFinding} (h : friction U D a b = some f) :
    f.newId = a.id ∧ f.conflictId = b.id := by
  unfold friction at h
  dsimp only at h
  split_ifs at h
  obtain rfl := Option.some.inj h
  exact ⟨rfl,rfl⟩

theorem weight_eq_some {D : ContradictionDetector} {a b : Claim} {sim : ℚ} {sev : Severity} :
    weight U D a b = some (sim,sev) ↔ ∃ f, friction U D a b = some f ∧ f.similarity = sim ∧ f.severity = sev := by
  unfold weight
  rw [Option.map_eq_some_iff]
  exact exists_congr fun f => and_congr_right fun _ => Prod.mk_inj

section
variable (D : ContradictionDetector) (claims : List Claim)

def ScanReports (x y : Claim) (sim : ℚ) (sev : Severity) : Prop :=
  ∃ f ∈ scan U D claims, s(f.newId,f.conflictId) = s(x.id,y.id) ∧ f.similarity = sim ∧ f.severity = sev
def CheckReports (x y : Claim) (sim : ℚ) (sev : Severity) : Prop :=
  ∃ f ∈ check U D x claims, f.conflictId = y.id ∧ f.similarity = sim ∧ f.severity = sev

end

variable {claims claims' : List Claim} {x y : Claim} {sim : ℚ} {sev : Severity} {f : FrictionFinding}

section
variable (hids : (claims.map Claim.id).Nodup)
include hids

theorem eq_of_id (hx : x ∈ claims) (hy : y ∈ claims) (h : x.id = y.id) : x = y :=
  List.inj_on_of_nodup_map hids hx hy h

theorem orient_swap (hx : x ∈ claims) (hy : y ∈ claims) : orient (x,y) = orient (y,x) := by
  unfold orient
  dsimp only [Prod.swap]
  split_ifs with h h'
  · rw [eq_of_id hids hx hy (le_antisymm h h')]
  · rfl
  · rfl
  · exact absurd (le_total x.id y.id) (not_or.mpr ⟨h,‹_›⟩)

theorem mem_scan {D : ContradictionDetector} :
    f ∈ scan U D claims ↔ ∃ a ∈ claims, ∃ b ∈ claims, a.id < b.id ∧ friction U D a b = some f := by
  unfold scan
  rw [(Keyset.sortBy_perm _).mem_iff,Pairing.mem_filterMap_pairs hids.of_map
    fun a ha b hb => by rw [orient_swap hids ha hb]]
  constructor
  · rintro ⟨a,ha,b,hb,hne,hf⟩
    have hid : a.id ≠ b.id := fun h => hne (eq_of_id hids ha hb h)
    rcases lt_or_gt_of_ne hid with hlt | hgt
    · rw [orient,if_pos hlt.le] at hf
      exact ⟨a,ha,b,hb,hlt,hf⟩
    · rw [orient,if_neg hgt.not_ge] at hf
      exact ⟨b,hb,a,ha,hgt,hf⟩
  · rintro ⟨a,ha,b,hb,hlt,hf⟩
    refine ⟨a,ha,b,hb,fun h => hlt.ne (congrArg Claim.id h),?_⟩
    rw [orient,if_pos hlt.le]
    exact hf

theorem nodup_scan {D : ContradictionDetector} : ((scan U D claims).map fun f => s(f.newId,f.conflictId)).Nodup := by
  unfold scan
  rw [((Keyset.sortBy_perm _).map _).nodup_iff]
  refine Pairing.nodup_filterMap_pairs hids fun p _ f hf => ?_
  obtain ⟨hnew,hconflict⟩ := friction_ids U hf
  rw [hnew,hconflict]
  unfold orient
  split_ifs
  · rfl
  · exact Sym2.eq_swap

theorem scan_perm {D : ContradictionDetector} (h : claims'.Perm claims) : scan U D claims' = scan U D claims := by
  have hids' : (claims'.map Claim.id).Nodup := ((h.map _).nodup_iff).mpr hids
  have hsame : (scan U D claims').Perm (scan U D claims) := by
    refine (List.perm_ext_iff_of_nodup (nodup_scan U hids').of_map (nodup_scan U hids).of_map).mpr fun f => ?_
    rw [mem_scan U hids',mem_scan U hids]
    simp only [h.mem_iff]
  refine hsame.eq_of_pairwise (fun f g hf hg hle hge => ?_) (Keyset.pairwise_sortBy _) (Keyset.pairwise_sortBy _)
  have hkey := le_antisymm hle hge
  have hpair := Prod.mk.inj (congrArg ofLex (Prod.mk.inj (congrArg ofLex hkey)).2)
  refine List.inj_on_of_nodup_map (nodup_scan U hids') hf (hsame.mem_iff.mpr hg) ?_
  rw [hpair.1,hpair.2]

theorem scanReports_iff (hx : x ∈ claims) (hy : y ∈ claims) :
    ScanReports U (lexicalDetector U minSimilarity) claims x y sim sev ↔
      x ≠ y ∧ weight U (lexicalDetector U minSimilarity) x y = some (sim,sev) := by
  constructor
  · rintro ⟨f,hf,hpair,hsim,hsev⟩
    obtain ⟨a,ha,b,hb,hlt,hab⟩ := (mem_scan U hids).mp hf
    obtain ⟨hnew,hconflict⟩ := friction_ids U hab
    rw [hnew,hconflict] at hpair
    have hweight := (weight_eq_some U).mpr ⟨f,hab,hsim,hsev⟩
    rcases Sym2.eq_iff.mp hpair with ⟨h,h'⟩ | ⟨h,h'⟩
    · obtain rfl := eq_of_id hids ha hx h
      obtain rfl := eq_of_id hids hb hy h'
      exact ⟨fun heq => hlt.ne (congrArg Claim.id heq),hweight⟩
    · obtain rfl := eq_of_id hids ha hy h
      obtain rfl := eq_of_id hids hb hx h'
      exact ⟨fun heq => hlt.ne (congrArg Claim.id heq.symm),weight_comm U a b ▸ hweight⟩
  · rintro ⟨hne,hweight⟩
    have hid : x.id ≠ y.id := fun h => hne (eq_of_id hids hx hy h)
    rcases lt_or_gt_of_ne hid with hlt | hgt
    · obtain ⟨f,hf,hsim,hsev⟩ := (weight_eq_some U).mp hweight
      obtain ⟨hnew,hconflict⟩ := friction_ids U hf
      exact ⟨f,(mem_scan U hids).mpr ⟨x,hx,y,hy,hlt,hf⟩,by rw [hnew,hconflict],hsim,hsev⟩
    · rw [weight_comm] at hweight
      obtain ⟨f,hf,hsim,hsev⟩ := (weight_eq_some U).mp hweight
      obtain ⟨hnew,hconflict⟩ := friction_ids U hf
      refine ⟨f,(mem_scan U hids).mpr ⟨y,hy,x,hx,hgt,hf⟩,?_,hsim,hsev⟩
      rw [hnew,hconflict,Sym2.eq_swap]

theorem checkReports_iff {D : ContradictionDetector} (hx : x ∈ claims)
    (hy : y ∈ claims) : CheckReports U D claims x y sim sev ↔ x ≠ y ∧ weight U D x y = some (sim,sev) := by
  unfold CheckReports check
  simp only [(Keyset.sortBy_perm _).mem_iff,List.mem_filterMap,List.mem_filter,decide_eq_true_eq,weight_eq_some]
  constructor
  · rintro ⟨f,⟨z,⟨hz,hne⟩,hf⟩,hid,hsim⟩
    rw [(friction_ids U hf).2] at hid
    obtain rfl := eq_of_id hids hz hy hid
    exact ⟨fun h => hne (congrArg Claim.id h.symm),f,hf,hsim⟩
  · rintro ⟨hne,f,hf,hsim⟩
    exact ⟨f,⟨y,⟨hy,fun h => hne (eq_of_id hids hy hx h).symm⟩,hf⟩,(friction_ids U hf).2,hsim⟩

end

/-- The scan does not depend on the order of the claims, has each pair once, and reports it as the checks of its two
claims do. -/
theorem scan_agrees_check (minSimilarity : ℚ) (claims : List Claim) (hids : (claims.map Claim.id).Nodup) :
    (∀ claims', claims'.Perm claims →
      scan U (lexicalDetector U minSimilarity) claims' = scan U (lexicalDetector U minSimilarity) claims) ∧
    ((scan U (lexicalDetector U minSimilarity) claims).map fun f => s(f.newId,f.conflictId)).Nodup ∧
    ∀ x ∈ claims, ∀ y ∈ claims, ∀ sim sev, (ScanReports U (lexicalDetector U minSimilarity) claims x y sim sev ↔
        CheckReports U (lexicalDetector U minSimilarity) claims x y sim sev) ∧
      (CheckReports U (lexicalDetector U minSimilarity) claims x y sim sev ↔
        CheckReports U (lexicalDetector U minSimilarity) claims y x sim sev) := by
  refine ⟨fun claims' h => scan_perm U hids h,nodup_scan U hids,fun x hx y hy sim sev => ⟨?_,?_⟩⟩
  · rw [scanReports_iff U hids hx hy,checkReports_iff U hids hx hy]
  · rw [checkReports_iff U hids hx hy,checkReports_iff U hids hy hx,weight_comm U x y,ne_comm]

theorem two_claims_agree : (∀ claims', claims'.Perm [(⟨"b","prices rise"⟩ : Claim),⟨"a","prices fall"⟩] →
      scan ascii (lexicalDetector ascii (3/20)) claims' =
        scan ascii (lexicalDetector ascii (3/20)) [⟨"b","prices rise"⟩,⟨"a","prices fall"⟩]) ∧
    (CheckReports ascii (lexicalDetector ascii (3/20)) [⟨"b","prices rise"⟩,⟨"a","prices fall"⟩] ⟨"b","prices rise"⟩
        ⟨"a","prices fall"⟩ (7/30) .low ↔
      CheckReports ascii (lexicalDetector ascii (3/20)) [⟨"b","prices rise"⟩,⟨"a","prices fall"⟩] ⟨"a","prices fall"⟩
        ⟨"b","prices rise"⟩ (7/30) .low) := by
  obtain ⟨hperm,_,hreports⟩ := scan_agrees_check ascii (3/20) [⟨"b","prices rise"⟩,⟨"a","prices fall"⟩] (by decide)
  exact ⟨hperm,(hreports _ (by simp) _ (by simp) _ _).2⟩

end Arbora.Api
