import Arbora.Economics.Reconciliation

/-! When the reconciliation of samples reports at all, what its report says, and whether it depends on the order in which
the facts arrived. -/
namespace Arbora.Economics
open Arbora.Scaling (isRef)
open Checks (mapError_ok)
open Keyset (sortBy)
open Repetition (firstSeen repeated mem_firstSeen nodup_firstSeen length_firstSeen firstSeen_perm mem_repeated nodup_repeated
  repeated_perm repeated_eq_nil_iff length_repeated)

theorem SampleRef.key_injective : Function.Injective SampleRef.key := by
  intro a b h
  have hpair := toLex.injective h
  have hrest := toLex.injective (congrArg Prod.snd hpair)
  apply SampleRef.ext
  · exact Subtype.ext (congrArg Prod.fst hpair)
  · exact Subtype.ext (congrArg Prod.fst hrest)
  · exact congrArg Prod.snd hrest

def Orderable (keys : List SampleRef) : Prop := ∀ a ∈ keys, ∀ b ∈ keys, ¬a.Incomparable b

theorem Orderable.subset {keys keys' : List SampleRef} (h : Orderable keys) (hsubset : keys' ⊆ keys) : Orderable keys' :=
  fun a ha b hb => h a (hsubset ha) b (hsubset hb)

theorem sortedKeys_ok {keys l : List SampleRef} :
    sortedKeys keys = .ok l ↔ Orderable keys ∧ sortBy SampleRef.key keys = l := by
  unfold sortedKeys Orderable
  rw [refuse_ok,Except.ok.injEq]
  simp

theorem sortBy_key_perm {keys keys' : List SampleRef} (h : keys.Perm keys') (hnodup : keys.Nodup) :
    sortBy SampleRef.key keys = sortBy SampleRef.key keys' :=
  Keyset.sortBy_eq_of_perm h (hnodup.map SampleRef.key_injective)

section
variable {expected observed : List SampleRef} {factIds : List String} {report : ReconciliationReport}

def missingOf (expected observed : List SampleRef) : List SampleRef :=
  (sortBy SampleRef.key (firstSeen expected)).filter (· ∉ observed)
def unexpectedOf (expected observed : List SampleRef) : List SampleRef := (firstSeen observed).filter (· ∉ expected)
def duplicatesOf (expected observed : List SampleRef) : List SampleRef :=
  sortBy SampleRef.key (repeated expected ∪ repeated observed)

@[simp] theorem mem_missingOf {k : SampleRef} : k ∈ missingOf expected observed ↔ k ∈ expected ∧ k ∉ observed := by
  simp [missingOf,Keyset.mem_sortBy]
@[simp] theorem mem_unexpectedOf {k : SampleRef} : k ∈ unexpectedOf expected observed ↔ k ∈ observed ∧ k ∉ expected := by
  simp [unexpectedOf]

@[simp] theorem mem_duplicatesOf {k : SampleRef} :
    k ∈ duplicatesOf expected observed ↔ 1 < expected.count k ∨ 1 < observed.count k := by
  simp [duplicatesOf,Keyset.mem_sortBy,List.mem_union_iff]

theorem nodup_missingOf : (missingOf expected observed).Nodup :=
  ((Keyset.sortBy_perm _).nodup_iff.mpr (nodup_firstSeen expected)).filter _
theorem nodup_unexpectedOf : (unexpectedOf expected observed).Nodup := (nodup_firstSeen observed).filter _
theorem nodup_duplicatesOf : (duplicatesOf expected observed).Nodup :=
  (Keyset.sortBy_perm _).nodup_iff.mpr ((nodup_repeated observed).union _)

/-- The key occurs more than once on a side. -/
def Twice (expected observed : List SampleRef) (k : SampleRef) : Prop := 1 < expected.count k ∨ 1 < observed.count k

/-- No source has the same digest once with a sequence and once without, among the expected keys and among those that
occur more than once. -/
structure Sortable (expected observed : List SampleRef) : Prop where
  wanted : ∀ a ∈ expected, ∀ b ∈ expected, ¬a.Incomparable b
  twice : ∀ a b, Twice expected observed a → Twice expected observed b → ¬a.Incomparable b

theorem orderable_duplicatesOf : Orderable (duplicatesOf expected observed) ↔
      ∀ a b, Twice expected observed a → Twice expected observed b → ¬a.Incomparable b := by
  simp only [Orderable,mem_duplicatesOf,Twice]
  exact ⟨fun h a b ha hb => h a ha b hb,fun h a ha b hb => h a b ha hb⟩

theorem reconcileMissingAndUnexpected_ok {sides : List SampleRef × List SampleRef} :
    reconcileMissingAndUnexpected expected observed = .ok sides ↔
      Orderable expected ∧ sides = (missingOf expected observed,unexpectedOf expected observed) := by
  unfold reconcileMissingAndUnexpected
  rw [bind_ok]
  constructor
  · rintro ⟨keys,hkeys,hsides⟩
    obtain ⟨horderable,rfl⟩ := sortedKeys_ok.mp hkeys
    cases hsides
    exact ⟨horderable.subset fun k hk => mem_firstSeen.mpr hk,rfl⟩
  · rintro ⟨horderable,rfl⟩
    exact ⟨_,sortedKeys_ok.mpr ⟨horderable.subset fun k hk => mem_firstSeen.mp hk,rfl⟩,rfl⟩

theorem reconcileDuplicates_ok {duplicates : List SampleRef × List String} :
    reconcileDuplicates expected observed factIds = .ok duplicates ↔
      Orderable (duplicatesOf expected observed) ∧ duplicates = (duplicatesOf expected observed,repeated factIds) := by
  have hsame : ∀ k, k ∈ duplicatesOf expected observed ↔ k ∈ repeated expected ∪ repeated observed :=
    fun k => Keyset.mem_sortBy
  unfold reconcileDuplicates
  rw [bind_ok]
  constructor
  · rintro ⟨keys,hkeys,hduplicates⟩
    obtain ⟨horderable,rfl⟩ := sortedKeys_ok.mp hkeys
    cases hduplicates
    exact ⟨horderable.subset fun k hk => (hsame k).mp hk,rfl⟩
  · rintro ⟨horderable,rfl⟩
    exact ⟨_,sortedKeys_ok.mpr ⟨horderable.subset fun k hk => (hsame k).mpr hk,rfl⟩,rfl⟩

/-- The content of the report of two sides. -/
structure Reports (expected observed : List SampleRef) (factIds : List String) (report : ReconciliationReport) : Prop where
  expectedCount : report.expectedCount = expected.length
  observedCount : report.observedCount = observed.length
  missing : report.missing = missingOf expected observed
  unexpected : report.unexpected = unexpectedOf expected observed
  duplicateSamples : report.duplicateSamples = sortBy SampleRef.rank (duplicatesOf expected observed)
  duplicateFactIds : report.duplicateFactIds = ReconciliationReport.factIdSet (repeated factIds)
  status : report.status = reconciliationStatus (missingOf expected observed) (unexpectedOf expected observed)
    (duplicatesOf expected observed) (repeated factIds)

def reportOf (expected observed : List SampleRef) (factIds : List String) : Except Refusal ReconciliationReport :=
  ReconciliationReport.make expected.length observed.length (missingOf expected observed) (unexpectedOf expected observed)
    (duplicatesOf expected observed) (repeated factIds) (reconciliationStatus (missingOf expected observed)
      (unexpectedOf expected observed) (duplicatesOf expected observed) (repeated factIds))

theorem reports_of_ok (h : reportOf expected observed factIds = .ok report) :
    Reports expected observed factIds report := by
  unfold reportOf ReconciliationReport.make at h
  iterate 8 obtain ⟨_,h⟩ := Checks.dite_ok.mp h
  cases h
  exact ⟨rfl,rfl,rfl,rfl,rfl,rfl,rfl⟩

theorem Reports.unique {report' : ReconciliationReport} (h : Reports expected observed factIds report)
    (h' : Reports expected observed factIds report') : report = report' :=
  ReconciliationReport.ext (h.expectedCount.trans h'.expectedCount.symm) (h.observedCount.trans h'.observedCount.symm)
    (h.missing.trans h'.missing.symm) (h.unexpected.trans h'.unexpected.symm)
    (h.duplicateSamples.trans h'.duplicateSamples.symm) (h.duplicateFactIds.trans h'.duplicateFactIds.symm)
    (h.status.trans h'.status.symm)

theorem shaped_status {missing unexpected duplicateSamples : List SampleRef} {ids : List String} :
    ReconciliationReport.shaped missing unexpected (sortBy SampleRef.rank duplicateSamples)
      (ReconciliationReport.factIdSet ids) (reconciliationStatus missing unexpected duplicateSamples ids) := by
  have hduplicates : sortBy SampleRef.rank duplicateSamples = [] ↔ duplicateSamples = [] := by
    rw [← List.length_eq_zero_iff,Keyset.length_sortBy,List.length_eq_zero_iff]
  have hids : ReconciliationReport.factIdSet ids = [] ↔ ids = [] := by
    simp [List.eq_nil_iff_forall_not_mem,ReconciliationReport.mem_factIdSet]
  unfold reconciliationStatus
  split_ifs with hmissing hdrift
  · exact hmissing
  · simpa [ReconciliationReport.shaped,hduplicates,hids] using hdrift
  · simp only [not_or,not_not] at hmissing hdrift
    simpa [ReconciliationReport.shaped,hduplicates,hids] using ⟨hmissing,hdrift⟩

theorem factId_valid (f : UsageFact) : isRef f.factId = true :=
  Arbora.Placement.isRef_label_hash _ (by decide) (by decide) (by decide) (by decide +kernel)

variable {facts : List UsageFact}

theorem length_duplicatesOf : 2 * (duplicatesOf expected observed).length ≤ expected.length + observed.length := by
  have hsubset : duplicatesOf expected observed ⊆ repeated expected ++ repeated observed := by
    intro k hk
    simpa using hk
  have hlength := (List.subperm_of_subset nodup_duplicatesOf hsubset).length_le
  have hexpected := length_repeated expected
  have hobserved := length_repeated observed
  rw [List.length_append] at hlength
  omega

theorem exists_report (hexpected : expected.length ≤ 10000) (hobserved : observed.length ≤ 10000)
    (hfactIds : factIds.length ≤ 10000) (hvalid : ∀ id ∈ factIds, isRef id = true) :
    ∃ report, reportOf expected observed factIds = .ok report := by
  have hmissing : (missingOf expected observed).length ≤ expected.length := by
    refine (List.length_filter_le _ _).trans ?_
    rw [Keyset.length_sortBy]
    exact length_firstSeen expected
  have hunexpected : (unexpectedOf expected observed).length ≤ observed.length :=
    (List.length_filter_le _ _).trans (length_firstSeen observed)
  have hduplicates : 2 * (duplicatesOf expected observed).length ≤ expected.length + observed.length :=
    length_duplicatesOf
  have hids := length_repeated factIds
  unfold reportOf ReconciliationReport.make maxReconciliationItems
  rw [dif_pos ⟨hexpected,hobserved⟩,dif_pos (hmissing.trans hexpected),dif_pos (hunexpected.trans hobserved),
    dif_pos (by omega),dif_pos nodup_duplicatesOf,dif_pos (by omega),dif_pos,dif_pos shaped_status]
  · exact ⟨_,rfl⟩
  · intro id hid
    have htwice := mem_repeated.mp hid
    exact hvalid id (List.count_pos_iff.mp (by omega))

theorem exists_reportOf (hexpected : expected.length ≤ 10000) (hfacts : facts.length ≤ 10000) :
    ∃ report, reportOf expected (facts.map (·.sample)) (facts.map (·.factId)) = .ok report := by
  apply exists_report hexpected (by simpa using hfacts) (by simpa using hfacts)
  intro id hid
  obtain ⟨f,-,rfl⟩ := List.mem_map.mp hid
  exact factId_valid f

theorem reconcileSamples_ok : reconcileSamples expected facts = .ok report ↔
    (expected.length ≤ 10000 ∧ facts.length ≤ 10000) ∧ Sortable expected (facts.map (·.sample)) ∧
      Reports expected (facts.map (·.sample)) (facts.map (·.factId)) report := by
  have hmake : ReconciliationReport.make expected.length facts.length (missingOf expected (facts.map (·.sample)))
      (unexpectedOf expected (facts.map (·.sample))) (duplicatesOf expected (facts.map (·.sample)))
      (repeated (facts.map (·.factId))) (reconciliationStatus (missingOf expected (facts.map (·.sample)))
        (unexpectedOf expected (facts.map (·.sample))) (duplicatesOf expected (facts.map (·.sample)))
        (repeated (facts.map (·.factId)))) = reportOf expected (facts.map (·.sample)) (facts.map (·.factId)) := by
    rw [reportOf,List.length_map]
  unfold reconcileSamples
  rw [refuse_ok,bind_ok,not_or,Nat.not_lt,Nat.not_lt]
  constructor
  · rintro ⟨hbounded,sides,hsides,h⟩
    obtain ⟨horderable,rfl⟩ := reconcileMissingAndUnexpected_ok.mp hsides
    obtain ⟨duplicates,hduplicates,hreport⟩ := bind_ok.mp h
    obtain ⟨hrepeated,rfl⟩ := reconcileDuplicates_ok.mp hduplicates
    rw [hmake] at hreport
    exact ⟨hbounded,⟨horderable,orderable_duplicatesOf.mp hrepeated⟩,reports_of_ok (mapError_ok.mp hreport)⟩
  · rintro ⟨hbounded,⟨horderable,hrepeated⟩,hreport⟩
    obtain ⟨r,hr⟩ := exists_reportOf hbounded.1 hbounded.2
    refine ⟨hbounded,_,reconcileMissingAndUnexpected_ok.mpr ⟨horderable,rfl⟩,?_⟩
    refine bind_ok.mpr ⟨_,reconcileDuplicates_ok.mpr ⟨orderable_duplicatesOf.mpr hrepeated,rfl⟩,?_⟩
    rw [hmake,hreport.unique (reports_of_ok hr)]
    exact mapError_ok.mpr hr

theorem exists_reconciled (hbounded : expected.length ≤ 10000 ∧ facts.length ≤ 10000)
    (hsortable : Sortable expected (facts.map (·.sample))) : ∃ report, reconcileSamples expected facts = .ok report := by
  obtain ⟨report,hreport⟩ := exists_reportOf hbounded.1 hbounded.2
  exact ⟨report,reconcileSamples_ok.mpr ⟨hbounded,hsortable,reports_of_ok hreport⟩⟩

end

section
variable {expected observed : List SampleRef} {factIds : List String} {report : ReconciliationReport}

structure ExactReport (expected observed : List SampleRef) (report : ReconciliationReport) : Prop where
  missing : report.missing.Nodup ∧ ∀ k, k ∈ report.missing ↔ k ∈ expected ∧ k ∉ observed
  unexpected : report.unexpected.Nodup ∧ ∀ k, k ∈ report.unexpected ↔ k ∈ observed ∧ k ∉ expected
  duplicates : report.duplicateSamples.Nodup ∧
    ∀ k, k ∈ report.duplicateSamples ↔ 1 < expected.count k ∨ 1 < observed.count k
  complete : report.status = .complete ↔ expected.Nodup ∧ expected.Perm observed
  gap : report.status = .gap ↔ ∃ k ∈ expected, k ∉ observed
  drift : report.status = .drift ↔ ¬(expected.Nodup ∧ expected.Perm observed) ∧ ¬∃ k ∈ expected, k ∉ observed

theorem agrees_iff : (missingOf expected observed = [] ∧ unexpectedOf expected observed = [] ∧
    duplicatesOf expected observed = []) ↔ expected.Nodup ∧ expected.Perm observed := by
  simp only [List.eq_nil_iff_forall_not_mem,mem_missingOf,mem_unexpectedOf,mem_duplicatesOf,not_and,not_not,not_or,
    not_lt]
  constructor
  · rintro ⟨hmissing,hunexpected,honce⟩
    have hexpected : expected.Nodup := List.nodup_iff_count_le_one.mpr fun k => (honce k).1
    have hobserved : observed.Nodup := List.nodup_iff_count_le_one.mpr fun k => (honce k).2
    exact ⟨hexpected,(List.perm_ext_iff_of_nodup hexpected hobserved).mpr fun k => ⟨hmissing k,hunexpected k⟩⟩
  · rintro ⟨hnodup,hperm⟩
    have honce := List.nodup_iff_count_le_one.mp hnodup
    exact ⟨fun k => hperm.mem_iff.mp,fun k => hperm.mem_iff.mpr,fun k => ⟨honce k,by rw [← hperm.count_eq]; exact honce k⟩⟩

theorem missingOf_ne_nil_iff : missingOf expected observed ≠ [] ↔ ∃ k ∈ expected, k ∉ observed := by
  rw [ne_eq,List.eq_nil_iff_forall_not_mem,not_forall]
  simp

theorem status_gap {missing unexpected duplicates : List SampleRef} {ids : List String} :
    reconciliationStatus missing unexpected duplicates ids = .gap ↔ missing ≠ [] := by
  unfold reconciliationStatus
  split_ifs with hgap hdrift
  · simp [hgap]
  · simp [hgap]
  · simp [hgap]

theorem status_complete {missing unexpected duplicates : List SampleRef} {ids : List String} :
    reconciliationStatus missing unexpected duplicates ids = .complete ↔
      (missing = [] ∧ unexpected = [] ∧ duplicates = []) ∧ ids = [] := by
  unfold reconciliationStatus
  split_ifs with hgap hdrift
  · simp [hgap]
  · simp only [false_iff]
    rintro ⟨⟨-,hunexpected,hduplicates⟩,hids⟩
    simp [hunexpected,hduplicates,hids] at hdrift
  · simp only [not_or,not_not] at hgap hdrift
    simp [hgap,hdrift]

/-- The sides agree, and still two of the facts have one id. -/
def Collide (expected observed : List SampleRef) (factIds : List String) : Prop :=
  expected.Nodup ∧ expected.Perm observed ∧ ¬factIds.Nodup

theorem exactReport_iff (h : Reports expected observed factIds report) :
    ExactReport expected observed report ↔ ¬Collide expected observed factIds := by
  have hstatus := h.status
  have hids : repeated factIds = [] ↔ factIds.Nodup := repeated_eq_nil_iff
  have hagrees : missingOf expected observed = [] ∧ unexpectedOf expected observed = [] ∧
      duplicatesOf expected observed = [] ↔ expected.Nodup ∧ expected.Perm observed := agrees_iff
  have hmissing : missingOf expected observed ≠ [] ↔ ∃ k ∈ expected, k ∉ observed := missingOf_ne_nil_iff
  constructor
  · rintro hexact ⟨hnodup,hperm,hcollision⟩
    obtain ⟨hnone,-,-⟩ := hagrees.mpr ⟨hnodup,hperm⟩
    rw [hexact.complete.mpr ⟨hnodup,hperm⟩] at hstatus
    unfold reconciliationStatus at hstatus
    rw [if_neg (not_not.mpr hnone),if_pos (.inr (.inr fun hnil => hcollision (hids.mp hnil)))] at hstatus
    cases hstatus
  · intro hdistinct
    have hcomplete : report.status = .complete ↔ expected.Nodup ∧ expected.Perm observed := by
      rw [hstatus,status_complete,hagrees,hids]
      exact and_iff_left_of_imp fun hsides => by_contra fun hnot => hdistinct ⟨hsides.1,hsides.2,hnot⟩
    have hgap : report.status = .gap ↔ ∃ k ∈ expected, k ∉ observed := by
      rw [hstatus,status_gap,hmissing]
    refine ⟨⟨?_,?_⟩,⟨?_,?_⟩,⟨?_,?_⟩,hcomplete,hgap,?_⟩
    · rw [h.missing]
      exact nodup_missingOf
    · simp [h.missing]
    · rw [h.unexpected]
      exact nodup_unexpectedOf
    · simp [h.unexpected]
    · rw [h.duplicateSamples]
      exact (Keyset.sortBy_perm _).nodup_iff.mpr nodup_duplicatesOf
    · simp [h.duplicateSamples,Keyset.mem_sortBy]
    · rw [← hcomplete,← hgap]
      cases report.status with
      | complete => simp
      | gap => simp
      | drift => simp

/-- A reconciliation reports, and exactly, iff the keys it sorts compare and no two facts of sides that agree have one
id. -/
theorem reconciliation_exact_iff (expected : List SampleRef) (observed : List UsageFact)
    (hexpected : expected.length ≤ 10000) (hobserved : observed.length ≤ 10000) :
    (∃ report, reconcileSamples expected observed = .ok report ∧
        ExactReport expected (observed.map (·.sample)) report) ↔ Sortable expected (observed.map (·.sample)) ∧
        ¬Collide expected (observed.map (·.sample)) (observed.map (·.factId)) := by
  constructor
  · rintro ⟨report,hreport,hexact⟩
    obtain ⟨-,hsortable,hreports⟩ := reconcileSamples_ok.mp hreport
    exact ⟨hsortable,(exactReport_iff hreports).mp hexact⟩
  · rintro ⟨hsortable,hdistinct⟩
    obtain ⟨report,hreport⟩ := exists_reconciled ⟨hexpected,hobserved⟩ hsortable
    obtain ⟨-,-,hreports⟩ := reconcileSamples_ok.mp hreport
    exact ⟨report,hreport,(exactReport_iff hreports).mpr hdistinct⟩

end

namespace Fixture

def sample (sequence : Option ℕ) (h : ∀ n ∈ sequence, n < 2 ^ 63) : SampleRef := ⟨tenant,digest,sequence,h⟩
def numbered : SampleRef := sample (some 1) (by simp)

theorem no_number : ∀ n ∈ (none : Option ℕ), n < 2 ^ 63 := by simp

def unnumbered : SampleRef := sample none no_number

theorem numbered_sortable : Sortable [numbered] ([fact 0].map (·.sample)) where
  wanted a ha b hb := by
    rw [List.mem_singleton.mp ha,List.mem_singleton.mp hb]
    decide
  twice a b ha := by
    have honce : ¬Twice [numbered] ([fact 0].map (·.sample)) a := by
      have hwanted := List.nodup_iff_count_le_one.mp (List.nodup_singleton numbered) a
      have hseen := List.nodup_iff_count_le_one.mp (List.nodup_singleton (fact 0).sample) a
      simp only [Twice,List.map_cons,List.map_nil]
      omega
    exact absurd ha honce

end Fixture

theorem one_sample_each_exact : ∃ report, reconcileSamples [Fixture.numbered] [Fixture.fact 0] = .ok report ∧
    ExactReport [Fixture.numbered] ([Fixture.fact 0].map (·.sample)) report := by
  apply (reconciliation_exact_iff _ _ (by decide) (by decide)).mpr ⟨Fixture.numbered_sortable,?_⟩
  rintro ⟨-,-,hids⟩
  exact hids (List.nodup_singleton _)

/-- One source, with a sequence and without. -/
theorem mixed_sequences_unreported : ¬∀ (expected : List SampleRef) (observed : List UsageFact),
    expected.length ≤ 10000 → observed.length ≤ 10000 → ∃ report, reconcileSamples expected observed = .ok report ∧
        ExactReport expected (observed.map (·.sample)) report := by
  intro hall
  obtain ⟨report,hreport,-⟩ := hall [Fixture.numbered,Fixture.unnumbered] [] (by decide) (by decide)
  obtain ⟨-,hsortable,-⟩ := reconcileSamples_ok.mp hreport
  exact hsortable.wanted Fixture.numbered (by simp) Fixture.unnumbered (by simp) (by decide)

section
variable {expected expected' : List SampleRef} {observed observed' : List SampleRef} {factIds factIds' : List String}

section
variable (hexpected : expected'.Perm expected) (hobserved : observed'.Perm observed)
include hexpected hobserved

theorem missingOf_perm : missingOf expected' observed' = missingOf expected observed := by
  unfold missingOf
  rw [sortBy_key_perm (firstSeen_perm hexpected) (nodup_firstSeen expected')]
  simp only [hobserved.mem_iff]

theorem unexpectedOf_perm : (unexpectedOf expected' observed').Perm (unexpectedOf expected observed) := by
  apply (List.perm_ext_iff_of_nodup nodup_unexpectedOf nodup_unexpectedOf).mpr
  simp [hexpected.mem_iff,hobserved.mem_iff]

theorem duplicatesOf_perm : duplicatesOf expected' observed' = duplicatesOf expected observed := by
  apply sortBy_key_perm
  · apply (List.perm_ext_iff_of_nodup ((nodup_repeated _).union _) ((nodup_repeated _).union _)).mpr
    simp [hexpected.count_eq,hobserved.count_eq]
  · exact (nodup_repeated _).union _

end

theorem factIdSet_perm (h : factIds'.Perm factIds) :
    ReconciliationReport.factIdSet factIds' = ReconciliationReport.factIdSet factIds :=
  Keyset.sortBy_eq_of_perm h.dedup (by simpa using List.nodup_dedup factIds')

theorem eq_of_single {l l' : List SampleRef} (h : l'.Perm l) (hnodup : l.Nodup) (hsingle : ∀ a ∈ l, ∀ b ∈ l, a = b) :
    l' = l := by
  cases l with
  | nil => exact List.perm_nil.mp h
  | cons a rest =>
    cases rest with
    | nil => exact List.perm_singleton.mp h
    | cons b rest =>
      have hsame := hsingle a List.mem_cons_self b (List.mem_cons_of_mem a List.mem_cons_self)
      exact absurd hnodup (by simp [hsame])

theorem Reports.perm {report : ReconciliationReport} (h : Reports expected observed factIds report)
    (hexpected : expected'.Perm expected) (hobserved : observed'.Perm observed) (hids : factIds'.Perm factIds)
    (hsingle : ∀ a ∈ unexpectedOf expected observed, ∀ b ∈ unexpectedOf expected observed, a = b) :
    Reports expected' observed' factIds' report := by
  have hunexpected := eq_of_single (unexpectedOf_perm hexpected hobserved) nodup_unexpectedOf hsingle
  have hrepeated := repeated_perm hids
  have hnil : repeated factIds' = [] ↔ repeated factIds = [] :=
    ⟨fun hzero => List.nil_perm.mp (hzero ▸ hrepeated),fun hzero => List.perm_nil.mp (hzero ▸ hrepeated)⟩
  refine ⟨?_,?_,?_,?_,?_,?_,?_⟩
  · rw [h.expectedCount,hexpected.length_eq]
  · rw [h.observedCount,hobserved.length_eq]
  · rw [h.missing,missingOf_perm hexpected hobserved]
  · rw [h.unexpected,hunexpected]
  · rw [h.duplicateSamples,duplicatesOf_perm hexpected hobserved]
  · rw [h.duplicateFactIds,factIdSet_perm hrepeated]
  · rw [h.status,missingOf_perm hexpected hobserved,hunexpected,duplicatesOf_perm hexpected hobserved]
    simp only [reconciliationStatus,ne_eq,hnil]

theorem Sortable.perm (h : Sortable expected observed) (hexpected : expected'.Perm expected)
    (hobserved : observed'.Perm observed) : Sortable expected' observed' where
  wanted a ha b hb := h.wanted a (hexpected.mem_iff.mp ha) b (hexpected.mem_iff.mp hb)
  twice a b ha hb := by
    simp only [Twice,hexpected.count_eq,hobserved.count_eq] at ha hb
    exact h.twice a b ha hb

theorem head_unexpectedOf {k : SampleRef} (h : k ∉ expected) (rest : List SampleRef) :
    (unexpectedOf expected (k :: rest)).head? = some k := by
  simp [unexpectedOf,firstSeen,h]

/-- A report does not depend on the order of arrival iff at most one key is unexpected: these alone are left as they
were seen. -/
theorem reconciliation_order_independent_iff (expected : List SampleRef) (observed : List UsageFact)
    (report : ReconciliationReport) (h : reconcileSamples expected observed = .ok report) :
    (∀ expected' observed', expected'.Perm expected → observed'.Perm observed →
        ∃ report', reconcileSamples expected' observed' = .ok report' ∧ report' = report ∧
          report'.reportDigest = report.reportDigest) ↔
      ∀ f ∈ observed, ∀ g ∈ observed, f.sample ∉ expected → g.sample ∉ expected → f.sample = g.sample := by
  obtain ⟨hbounded,hsortable,hreports⟩ := reconcileSamples_ok.mp h
  constructor
  · intro hall f hf g hg hunexpected hunexpected'
    -- each of the two can have arrived first
    have hfirst : ∀ fact ∈ observed, fact.sample ∉ expected → report.unexpected.head? = some fact.sample := by
      intro fact hfact hnot
      obtain ⟨before,after,rfl⟩ := List.append_of_mem hfact
      obtain ⟨report',hreport',rfl,-⟩ := hall expected (fact :: (before ++ after)) (.refl _) List.perm_middle.symm
      obtain ⟨-,-,hreports'⟩ := reconcileSamples_ok.mp hreport'
      rw [hreports'.unexpected,List.map_cons]
      exact head_unexpectedOf hnot _
    exact Option.some.inj ((hfirst f hf hunexpected).symm.trans (hfirst g hg hunexpected'))
  · intro hsingle expected' observed' hexpected hobserved
    refine ⟨report,reconcileSamples_ok.mpr ⟨?_,hsortable.perm hexpected (hobserved.map _),?_⟩,rfl,rfl⟩
    · rw [hexpected.length_eq,hobserved.length_eq]
      exact hbounded
    · apply hreports.perm hexpected (hobserved.map _) (hobserved.map _)
      intro a ha b hb
      obtain ⟨hobs,hnot⟩ := mem_unexpectedOf.mp ha
      obtain ⟨hobs',hnot'⟩ := mem_unexpectedOf.mp hb
      obtain ⟨f,hf,rfl⟩ := List.mem_map.mp hobs
      obtain ⟨g,hg,rfl⟩ := List.mem_map.mp hobs'
      exact hsingle f hf g hg hnot hnot'

end

namespace Fixture

def elsewhere : UsageFact := { fact midnight with sourceRef := ⟨"source:two",by decide +kernel⟩ }

end Fixture

theorem one_unexpected_order_independent : ∃ report, reconcileSamples [Fixture.numbered] [Fixture.fact 0] = .ok report ∧
    ∀ expected' observed', expected'.Perm [Fixture.numbered] → observed'.Perm [Fixture.fact 0] →
      ∃ report', reconcileSamples expected' observed' = .ok report' ∧ report' = report ∧
        report'.reportDigest = report.reportDigest := by
  have hexists : ∃ report, reconcileSamples [Fixture.numbered] [Fixture.fact 0] = .ok report :=
    exists_reconciled (by decide) Fixture.numbered_sortable
  obtain ⟨report,hreport⟩ := hexists
  refine ⟨report,hreport,(reconciliation_order_independent_iff _ _ report hreport).mpr ?_⟩
  intro f hf g hg hnot hnot'
  rw [List.mem_singleton.mp hf,List.mem_singleton.mp hg]

/-- Two unexpected facts are reported in the order of their arrival. -/
theorem unexpected_left_as_seen : ¬∀ (expected : List SampleRef) (observed : List UsageFact) (report : ReconciliationReport),
    reconcileSamples expected observed = .ok report →
      ∀ expected' observed', expected'.Perm expected → observed'.Perm observed →
        ∃ report', reconcileSamples expected' observed' = .ok report' ∧ report' = report ∧
          report'.reportDigest = report.reportDigest := by
  intro hall
  have hsortable : Sortable [] ([Fixture.fact 0,Fixture.elsewhere].map (·.sample)) :=
    ⟨by simp,fun a b ha => absurd ha (by
      have hseen : ([Fixture.fact 0,Fixture.elsewhere].map (·.sample)).Nodup := by decide +kernel
      have honce := List.nodup_iff_count_le_one.mp hseen a
      simpa [Twice] using honce)⟩
  have hexists : ∃ report, reconcileSamples [] [Fixture.fact 0,Fixture.elsewhere] = .ok report :=
    exists_reconciled (by decide) hsortable
  obtain ⟨report,hreport⟩ := hexists
  obtain ⟨-,-,hreports⟩ := reconcileSamples_ok.mp hreport
  obtain ⟨report',hreport',rfl,-⟩ := hall _ _ report hreport [] [Fixture.elsewhere,Fixture.fact 0] (.refl _)
    (List.Perm.swap _ _ _)
  obtain ⟨-,-,hreports'⟩ := reconcileSamples_ok.mp hreport'
  have hfirst : report'.unexpected.head? = some (Fixture.fact 0).sample := by
    rw [hreports.unexpected]
    exact head_unexpectedOf (by simp) _
  have hsecond : report'.unexpected.head? = some Fixture.elsewhere.sample := by
    rw [hreports'.unexpected]
    exact head_unexpectedOf (by simp) _
  have hsame : (Fixture.fact 0).sample = Fixture.elsewhere.sample := Option.some.inj (hfirst.symm.trans hsecond)
  exact absurd hsame (by decide +kernel)

end Arbora.Economics
