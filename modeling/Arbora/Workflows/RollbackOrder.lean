import Arbora.Lib.Checks
import Arbora.Lib.SemanticVersion
import Arbora.Workflows.Catalog
import Mathlib.Data.List.TakeWhile

/-! The order of versions that a rollback goes by, and where it is that of semantic versions. -/
namespace Arbora.Workflows
open Catalog SemanticVersion
open PolicyPlane (isVersion isLabel isSuffix isLetter isDigit)

section

variable (version : String)

def unbuilt : List Char := version.toList.takeWhile (· ≠ '+')
def buildMetadata : List Char := version.toList.dropWhile (· ≠ '+')
def coreNumerals : List (List Char) := ((unbuilt version).takeWhile (· ≠ '-')).splitOn '.'

def prereleaseLabels : List (List Char) :=
  match (unbuilt version).dropWhile (· ≠ '-') with
  | [] => []
  | _ :: text => text.splitOn '.'

/-- What `partition` leaves after the first hyphen, which can be one of the build metadata. -/
def afterHyphen : List Char := (version.toList.dropWhile (· ≠ '-')).drop 1

def semanticVersion : SemanticVersion.Version :=
  ⟨(coreNumerals version).map decimal,(prereleaseLabels version).map identifier⟩

/-- The numerals are not longer than what `int` reads. -/
def Readable : Prop := ∀ digits ∈ coreNumerals version, digits.length ≤ 4300

end

/-- Of versions with the same numerals, those that the text after the first hyphen puts in the order of their
precedence. -/
def OrderKept (a b : String) : Prop :=
  match prereleaseLabels a, prereleaseLabels b with
  | [], [] => afterHyphen a = [] ∨ afterHyphen b ≠ [] ∧ ¬afterHyphen a < afterHyphen b
  | [], _ :: _ => afterHyphen a = [] ∨ ¬afterHyphen a < afterHyphen b
  | _ :: _, [] => afterHyphen b = [] ∨ afterHyphen a < afterHyphen b
  | x :: labels, y :: labels' => Aligned (buildMetadata a) (buildMetadata b) (x :: labels) (y :: labels')

section

variable {version : String}

theorem precedenceKey_bind : precedenceKey version = do
    let numbers ← (coreNumerals version).mapM numeral
    return (numbers,if (afterHyphen version).isEmpty then 1 else 0,afterHyphen version) := by
  have hcore : (version.toList.takeWhile (· ≠ '-')).takeWhile (· ≠ '+') = (unbuilt version).takeWhile (· ≠ '-') := by
    rw [unbuilt,List.takeWhile_takeWhile,List.takeWhile_takeWhile]
    simp only [and_comm]
  rw [coreNumerals,← hcore]
  rfl

variable (version) in
theorem build_buildMetadata : Build (buildMetadata version) := by
  unfold Build buildMetadata
  cases hplus : version.toList.dropWhile (· ≠ '+') with
  | nil => exact Or.inl rfl
  | cons c text =>
    have hc := List.head?_dropWhile_not (· ≠ '+') version.toList
    rw [hplus] at hc
    have hc : c = '+' := by simpa using hc
    exact Or.inr ⟨text,by rw [hc]⟩

theorem trailing_splitOn (text build : List Char) : trailing (text.splitOn '.') build = '.' :: (text ++ build) := by
  have hjoin : ∀ {L : List (List Char)}, L ≠ [] → trailing L build = '.' :: (['.'].intercalate L ++ build) := by
    intro L hL
    induction L with
    | nil => exact absurd rfl hL
    | cons x L ih =>
      cases L with
      | nil => simp [trailing]
      | cons y L =>
        rw [trailing,ih (List.cons_ne_nil y L)]
        simp
  rw [hjoin (by simp),List.intercalate_splitOn]

theorem trailing_labels (hlabels : prereleaseLabels version ≠ []) :
    trailing (prereleaseLabels version) (buildMetadata version) = '.' :: afterHyphen version := by
  have hwhole : unbuilt version ++ buildMetadata version = version.toList := List.takeWhile_append_dropWhile
  have hempty : (unbuilt version).dropWhile (· ≠ '-') = [] → prereleaseLabels version = [] := by
    intro hpre
    rw [prereleaseLabels,hpre]
  cases hpre : (unbuilt version).dropWhile (· ≠ '-') with
  | nil => exact absurd (hempty hpre) hlabels
  | cons c text =>
    rw [afterHyphen,← hwhole,List.dropWhile_append,prereleaseLabels,hpre]
    exact trailing_splitOn text (buildMetadata version)

theorem characters_labels (hversion : isVersion version = true) :
    ∀ x ∈ prereleaseLabels version, x ≠ [] ∧ Characters x := by
  have hsuffix : isSuffix ((unbuilt version).dropWhile (· ≠ '-')) = true := by
    have hbne (d : Char) : (fun c => c != d) = fun c => decide (c ≠ d) := by
      funext c
      rw [bne,decide_not]
      rfl
    simp only [isVersion,List.span_eq_takeWhile_dropWhile,Bool.and_eq_true,hbne] at hversion
    exact hversion.1.2
  intro x hx
  unfold prereleaseLabels at hx
  cases hpre : (unbuilt version).dropWhile (· ≠ '-') with
  | nil =>
    rw [hpre] at hx
    exact absurd hx List.not_mem_nil
  | cons c text =>
    rw [hpre] at hx hsuffix
    have hlabel : isLabel x = true := by
      simp only [isSuffix,List.isEmpty_cons,Bool.false_or,List.all_eq_true] at hsuffix
      exact hsuffix x hx
    simp only [isLabel,Bool.and_eq_true,List.all_eq_true] at hlabel
    refine ⟨by simpa using hlabel.1,fun c hc => ?_⟩
    have hchar := hlabel.2 c hc
    simp only [isLetter,isDigit,Bool.or_eq_true,Bool.and_eq_true,decide_eq_true_eq,beq_iff_eq] at hchar
    rcases hchar with ((hupper | hlower) | hdigit) | hhyphen
    · exact Or.inr (lt_of_lt_of_le (by decide) hupper.1)
    · exact Or.inr (lt_of_lt_of_le (by decide) hlower.1)
    · exact Or.inr (lt_of_lt_of_le (by decide) hdigit.1)
    · exact Or.inl hhyphen

theorem mapM_numeral {L : List (List Char)} (hread : ∀ digits ∈ L, digits.length ≤ 4300) :
    L.mapM numeral = .ok (L.map decimal) := by
  induction L with
  | nil => rfl
  | cons digits L ih =>
    have hfirst : numeral digits = .ok (decimal digits) := if_neg (not_lt.mpr (hread digits List.mem_cons_self))
    rw [List.mapM_cons,hfirst,ih (fun d hd => hread d (List.mem_cons_of_mem _ hd))]
    rfl

theorem length_of_mapM_numeral {L : List (List Char)} {numbers : List ℕ} (h : L.mapM numeral = .ok numbers) :
    ∀ digits ∈ L, digits.length ≤ 4300 := by
  induction L generalizing numbers with
  | nil => simp
  | cons digits L ih =>
    rw [List.mapM_cons] at h
    obtain ⟨n,hn,h⟩ := Checks.bind_ok.mp h
    obtain ⟨rest,hrest,-⟩ := Checks.bind_ok.mp h
    have hfirst : digits.length ≤ 4300 := by
      by_contra hlong
      rw [numeral,if_pos (not_le.mp hlong)] at hn
      nomatch hn
    simpa using ⟨hfirst,ih hrest⟩

theorem afterHyphen_ne_nil (hversion : isVersion version = true) {x : List Char} {labels : List (List Char)}
    (hlabels : prereleaseLabels version = x :: labels) : afterHyphen version ≠ [] := by
  have htrailing := trailing_labels (by simp [hlabels] : prereleaseLabels version ≠ [])
  have hx := (characters_labels hversion x (by rw [hlabels]; exact List.mem_cons_self)).1
  rw [hlabels,trailing,List.cons.injEq,and_iff_right rfl] at htrailing
  rw [← htrailing]
  exact List.append_ne_nil_of_left_ne_nil hx _

theorem precedenceKey_eq (hread : Readable version) :
    precedenceKey version = .ok ((semanticVersion version).core,if (afterHyphen version).isEmpty then 1 else 0,
      afterHyphen version) := by
  rw [precedenceKey_bind,mapM_numeral hread]
  rfl

theorem readable_of_ok {key : List ℕ × ℕ × List Char} (h : precedenceKey version = .ok key) : Readable version := by
  rw [precedenceKey_bind] at h
  obtain ⟨numbers,hnumbers,-⟩ := Checks.bind_ok.mp h
  exact length_of_mapM_numeral hnumbers

end

variable {a b : String}

section
variable (ha : isVersion a = true) (hb : isVersion b = true)
include ha hb

theorem isPriorVersion_eq (hreada : Readable a) (hreadb : Readable b) : isPriorVersion a b = .ok (decide (
      (semanticVersion a).core < (semanticVersion b).core ∨ (semanticVersion a).core = (semanticVersion b).core ∧
        afterHyphen a ≠ [] ∧ (afterHyphen b = [] ∨ afterHyphen a < afterHyphen b))) := by
  rw [isPriorVersion,if_neg (by simp [ha,hb]),precedenceKey_eq hreada,precedenceKey_eq hreadb]
  change Except.ok (decide _) = _
  cases afterHyphen a <;> cases afterHyphen b <;> simp

theorem readable_of_isPriorVersion {prior : Bool} (h : isPriorVersion a b = .ok prior) : Readable a ∧ Readable b := by
  rw [isPriorVersion,if_neg (by simp [ha,hb])] at h
  obtain ⟨before,hbefore,h⟩ := Checks.bind_ok.mp h
  obtain ⟨after,hafter,-⟩ := Checks.bind_ok.mp h
  exact ⟨readable_of_ok hbefore,readable_of_ok hafter⟩

theorem orderKept_iff : (afterHyphen a ≠ [] ∧ (afterHyphen b = [] ∨ afterHyphen a < afterHyphen b) ↔
      (semanticVersion a).prerelease ≠ [] ∧ ((semanticVersion b).prerelease = [] ∨
        Earlier (semanticVersion a).prerelease (semanticVersion b).prerelease)) ↔ OrderKept a b := by
  unfold OrderKept semanticVersion
  cases hla : prereleaseLabels a with
  | nil =>
    cases hlb : prereleaseLabels b with
    | nil =>
      grind
    | cons y labels' =>
      have hsb := afterHyphen_ne_nil hb hlb
      grind
  | cons x labels =>
    have hsa := afterHyphen_ne_nil ha hla
    cases hlb : prereleaseLabels b with
    | nil => simp [hsa]
    | cons y labels' =>
      have hsb := afterHyphen_ne_nil hb hlb
      have haligned := trailing_order_iff (build_buildMetadata a) (build_buildMetadata b) (x :: labels)
        (y :: labels') (fun z hz => (characters_labels ha z (by rwa [hla])).2)
        (fun z hz => (characters_labels hb z (by rwa [hlb])).2)
      have htexts : trailing (x :: labels) (buildMetadata a) < trailing (y :: labels') (buildMetadata b) ↔
          afterHyphen a < afterHyphen b := by
        rw [← hla,← hlb,trailing_labels (by simp [hla]),trailing_labels (by simp [hlb]),List.cons_lt_cons_iff,
          or_iff_right (lt_irrefl '.'),and_iff_right rfl]
      rw [htexts] at haligned
      refine Iff.trans ?_ haligned
      simp [hsa,hsb]

end

/-- A rollback's order is the precedence of semantic versions exactly where the numerals are read, and, if they are the
same, the texts after them are in order. -/
theorem isPriorVersion_precedes_iff (a b : String) (ha : isVersion a = true) (hb : isVersion b = true) :
    (∃ prior, isPriorVersion a b = .ok prior ∧
      (prior = true ↔ LowerPrecedence (semanticVersion a) (semanticVersion b))) ↔
    Readable a ∧ Readable b ∧ ((semanticVersion a).core = (semanticVersion b).core → OrderKept a b) := by
  have hkept := orderKept_iff ha hb
  constructor
  · rintro ⟨prior,hprior,hiff⟩
    obtain ⟨hreada,hreadb⟩ := readable_of_isPriorVersion ha hb hprior
    refine ⟨hreada,hreadb,fun hcore => hkept.mp ?_⟩
    rw [isPriorVersion_eq ha hb hreada hreadb,Except.ok.injEq] at hprior
    rw [← hprior,decide_eq_true_eq,LowerPrecedence,hcore] at hiff
    simpa using hiff
  · rintro ⟨hreada,hreadb,horder⟩
    refine ⟨_,isPriorVersion_eq ha hb hreada hreadb,?_⟩
    rw [decide_eq_true_eq,LowerPrecedence]
    exact or_congr Iff.rfl (and_congr_right fun hcore => hkept.mpr (horder hcore))

theorem candidate_precedes_release : ∃ prior, isPriorVersion "1.0.0-rc.1" "1.0.0" = .ok prior ∧
    (prior = true ↔ LowerPrecedence (semanticVersion "1.0.0-rc.1") (semanticVersion "1.0.0")) := by
  have hread (version : String) (h : (coreNumerals version).all (fun d => d.length ≤ 4300) = true) :
      Readable version := by simpa [Readable] using h
  refine (isPriorVersion_precedes_iff "1.0.0-rc.1" "1.0.0" (by decide +kernel) (by decide +kernel)).mpr
    ⟨hread _ (by decide +kernel),hread _ (by decide +kernel),fun _ => ?_⟩
  exact Or.inl (by decide +kernel)

/-- The second of ten pre-releases precedes the tenth, but its digit is above the first one of ten. -/
theorem second_not_prior : isVersion "1.0.0-2" = true ∧ isVersion "1.0.0-10" = true ∧
    ¬∃ prior, isPriorVersion "1.0.0-2" "1.0.0-10" = .ok prior ∧
      (prior = true ↔ LowerPrecedence (semanticVersion "1.0.0-2") (semanticVersion "1.0.0-10")) := by
  refine ⟨by decide +kernel,by decide +kernel,?_⟩
  rintro ⟨prior,hprior,hiff⟩
  have hfalse : isPriorVersion "1.0.0-2" "1.0.0-10" = .ok false := by decide +kernel
  have hprecedes : LowerPrecedence (semanticVersion "1.0.0-2") (semanticVersion "1.0.0-10") := by
    exact Or.inr ⟨rfl,List.cons_ne_nil _ _,Or.inr (List.Lex.rel (by decide : 2 < 10))⟩
  rw [hfalse,Except.ok.injEq] at hprior
  have h := hiff.mpr hprecedes
  rw [← hprior] at h
  cases h

end Arbora.Workflows
