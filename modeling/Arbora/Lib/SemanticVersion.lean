import Mathlib.Data.Char
import Mathlib.Data.List.Lex

/-! Semantic versions and their precedence, and where the characters of pre-releases are in the same order as
their identifiers. -/
namespace SemanticVersion

inductive Identifier where
  | numeric (n : ℕ)
  | alphanumeric (text : List Char)
  deriving DecidableEq

def isNumeric (text : List Char) : Bool := text.all fun c => '0' ≤ c && c ≤ '9'

/-- The number that digits are read as. -/
def decimal (digits : List Char) : ℕ := digits.foldl (fun n c => 10 * n + (c.toNat - 48)) 0

def identifier (text : List Char) : Identifier :=
  if isNumeric text then .numeric (decimal text) else .alphanumeric text

/-- Numbers are compared as such and are below texts, which are compared by their characters. -/
def Below : Identifier → Identifier → Prop
  | .numeric m, .numeric n => m < n
  | .numeric _, .alphanumeric _ => True
  | .alphanumeric _, .numeric _ => False
  | .alphanumeric s, .alphanumeric t => s < t

/-- Pre-releases, field by field; one that continues another one is above it. -/
abbrev Earlier (a b : List Identifier) : Prop := List.Lex Below a b

/-- A version without its build metadata; a release has no pre-release identifiers. -/
structure Version where
  core : List ℕ
  prerelease : List Identifier
  deriving DecidableEq

def LowerPrecedence (a b : Version) : Prop :=
  a.core < b.core ∨ a.core = b.core ∧ a.prerelease ≠ [] ∧ (b.prerelease = [] ∨ Earlier a.prerelease b.prerelease)

theorem not_below_self (i : Identifier) : ¬Below i i := by
  cases i with
  | numeric n => exact lt_irrefl n
  | alphanumeric text => exact List.lt_irrefl text

section

/-- What follows an identifier: further ones with dots before them, and the build metadata. -/
def trailing : List (List Char) → List Char → List Char
  | [], build => build
  | x :: rest, build => '.' :: (x ++ trailing rest build)

/-- The characters of identifiers: hyphens, and others that come after the dot. -/
def Characters (x : List Char) : Prop := ∀ c ∈ x, c = '-' ∨ '.' < c

/-- Build metadata, with its plus if there is any. -/
def Build (build : List Char) : Prop := build = [] ∨ ∃ text, build = '+' :: text

/-- The other identifier continues this one with a hyphen, and this one is followed by a dot, which comes after it. -/
def Continued (x : List Char) (rest : List (List Char)) (y : List Char) : Prop := rest ≠ [] ∧ x ++ ['-'] <+: y

/-- Different identifiers come in the order of their characters, unless one of them is so continued. -/
def Before (x y : List Char) (rest rest' : List (List Char)) : Prop :=
  x < y ∧ ¬Continued x rest y ∨ Continued y rest' x

/-- The first identifiers that differ are in the same order as their characters, with the build metadata after them;
where none does, the build metadata of the first version is not before that of the other. -/
def Aligned (build build' : List Char) : List (List Char) → List (List Char) → Prop
  | [], [] => ¬build < build'
  | [], _ :: _ | _ :: _, [] => True
  | x :: rest, y :: rest' =>
    if x = y then Aligned build build' rest rest'
    else match isNumeric x, isNumeric y with
      | true, true => x < y ↔
        decimal x < decimal y ∨ decimal x = decimal y ∧ Earlier (rest.map identifier) (rest'.map identifier)
      | true, false => x < y ∧ ¬Continued x rest y
      | false, true => y < x ∧ ¬Continued y rest' x
      | false, false => ¬Continued x rest y ∧ ¬Continued y rest' x

variable {x y : List Char} {rest rest' : List (List Char)} {build build' : List Char}

private theorem hyphen_lt_dot : '-' < '.' := by decide

private theorem plus_lt {c : Char} (hc : c = '-' ∨ '.' < c) : '+' < c := by
  rcases hc with rfl | hc
  · decide
  · exact lt_trans (by decide) hc

theorem trailing_lt_cons {c : Char} (hc : c = '-' ∨ '.' < c) (hbuild : Build build) (l : List Char) :
    trailing rest build < c :: l ↔ ¬(rest ≠ [] ∧ c = '-') := by
  cases rest with
  | nil =>
    rcases hbuild with rfl | ⟨text,rfl⟩
    · simp [trailing]
    · simp [trailing,List.cons_lt_cons_iff,plus_lt hc]
  | cons z rest =>
    rcases hc with rfl | hc
    · simp [trailing,List.cons_lt_cons_iff]
    · have hne : c ≠ '-' := by
        rintro rfl
        exact not_lt_of_gt hyphen_lt_dot hc
      simp [trailing,List.cons_lt_cons_iff,hc,hne]

theorem cons_lt_trailing {c : Char} (hc : c = '-' ∨ '.' < c) (hbuild : Build build) (l : List Char) :
    c :: l < trailing rest build ↔ rest ≠ [] ∧ c = '-' := by
  cases rest with
  | nil =>
    rcases hbuild with rfl | ⟨text,rfl⟩
    · simp [trailing]
    · have hgt := plus_lt hc
      simp only [trailing,List.cons_lt_cons_iff,not_lt_of_gt hgt,ne_of_gt hgt,false_and,or_self,ne_eq,not_true_eq_false]
  | cons z rest =>
    rcases hc with rfl | hc
    · simp [trailing,List.cons_lt_cons_iff,hyphen_lt_dot]
    · have hne : c ≠ '-' := by
        rintro rfl
        exact not_lt_of_gt hyphen_lt_dot hc
      simp only [trailing,List.cons_lt_cons_iff,not_lt_of_gt hc,ne_of_gt hc,hne,false_and,or_self,and_false]

/-- At the first identifier that differs the texts are in the order that is said. -/
theorem append_trailing_lt (hx : Characters x) (hy : Characters y) (hne : x ≠ y) (hbuild : Build build)
    (hbuild' : Build build') : x ++ trailing rest build < y ++ trailing rest' build' ↔ Before x y rest rest' := by
  have hsingle (d : Char) (l : List Char) : ['-'] <+: d :: l ↔ d = '-' := by
    rw [List.cons_prefix_cons,and_iff_left List.nil_prefix]
    exact eq_comm
  unfold Before Continued
  induction x generalizing y with
  | nil =>
    cases y with
    | nil => exact absurd rfl hne
    | cons d y =>
      rw [List.nil_append,List.cons_append,trailing_lt_cons (hy d List.mem_cons_self) hbuild,List.nil_append,
        hsingle]
      have hnot : ¬d :: y ++ ['-'] <+: [] := by simp
      rw [and_iff_right (List.nil_lt_cons d y),or_iff_left (fun h => hnot h.2)]
  | cons c x ih =>
    cases y with
    | nil =>
      rw [List.nil_append,List.cons_append,cons_lt_trailing (hx c List.mem_cons_self) hbuild',List.nil_append,
        hsingle,or_iff_right (fun h => List.not_lt_nil _ h.1)]
    | cons d y =>
      rw [List.cons_append,List.cons_append,List.cons_lt_cons_iff,List.cons_lt_cons_iff,List.cons_append,
        List.cons_append,List.cons_prefix_cons,List.cons_prefix_cons]
      by_cases hcd : c = d
      · subst hcd
        have hrest := ih (fun z hz => hx z (List.mem_cons_of_mem _ hz)) (fun z hz => hy z (List.mem_cons_of_mem _ hz))
          (fun heq => hne (by rw [heq]))
        simp [hrest]
      · simp [hcd,Ne.symm hcd]

variable (x rest) in
theorem not_continued_of_numeric (hy : isNumeric y = true) : ¬Continued x rest y := by
  intro h
  have hmem : '-' ∈ y := h.2.subset (List.mem_append_right _ List.mem_cons_self)
  have hdigit := List.all_eq_true.mp hy '-' hmem
  simp at hdigit

theorem lt_of_continued (h : Continued x rest y) : x < y := by
  obtain ⟨tail,rfl⟩ := h.2
  induction x with
  | nil => exact List.nil_lt_cons _ _
  | cons c x ih => exact List.cons_lt_cons_iff.mpr (Or.inr ⟨rfl,ih ⟨h.1,List.prefix_append _ _⟩⟩)

theorem append_lt_append (z l l' : List Char) : z ++ l < z ++ l' ↔ l < l' := by
  induction z with
  | nil => rfl
  | cons c z ih => simp only [List.cons_append,List.cons_lt_cons_iff,lt_irrefl,false_or,true_and,ih]

theorem earlier_cons {i j : Identifier} {l l' : List Identifier} :
    Earlier (i :: l) (j :: l') ↔ Below i j ∨ i = j ∧ Earlier l l' := by
  constructor
  · intro h
    cases h with
    | rel hbelow => exact Or.inl hbelow
    | cons hrest => exact Or.inr ⟨rfl,hrest⟩
  · rintro (hbelow | ⟨rfl,hrest⟩)
    · exact List.Lex.rel hbelow
    · exact List.Lex.cons hrest

theorem trailing_order_iff (hbuild : Build build) (hbuild' : Build build') (A B : List (List Char))
    (hA : ∀ x ∈ A, Characters x) (hB : ∀ y ∈ B, Characters y) :
    (trailing A build < trailing B build' ↔ Earlier (A.map identifier) (B.map identifier)) ↔
      Aligned build build' A B := by
  induction A generalizing B with
  | nil =>
    cases B with
    | nil => simp [trailing,Aligned]
    | cons y rest' =>
      have hlt : build < trailing (y :: rest') build' := by
        rcases hbuild with rfl | ⟨text,rfl⟩
        · exact List.nil_lt_cons _ _
        · exact List.cons_lt_cons_iff.mpr (Or.inl (by decide))
      change (build < trailing (y :: rest') build' ↔ _) ↔ _
      simp [Aligned,hlt]
  | cons x rest ih =>
    cases B with
    | nil =>
      have hnot : ¬trailing (x :: rest) build < build' := by
        rcases hbuild' with rfl | ⟨text,rfl⟩
        · exact List.not_lt_nil _
        · intro h
          rcases List.cons_lt_cons_iff.mp h with hlt | ⟨heq,-⟩
          · exact absurd hlt (by decide)
          · exact absurd heq (by decide)
      change (trailing (x :: rest) build < build' ↔ _) ↔ _
      simp [Aligned,hnot]
    | cons y rest' =>
      have hx := hA x List.mem_cons_self
      have hy := hB y List.mem_cons_self
      have hrest := ih rest' (fun z hz => hA z (List.mem_cons_of_mem _ hz)) (fun z hz => hB z (List.mem_cons_of_mem _ hz))
      rw [trailing,trailing,List.cons_lt_cons_iff,or_iff_right (lt_irrefl '.'),and_iff_right rfl,List.map_cons,
        List.map_cons,earlier_cons,Aligned]
      by_cases hxy : x = y
      · subst hxy
        rw [if_pos rfl,← hrest,append_lt_append,or_iff_right (not_below_self _),and_iff_right rfl]
      · rw [if_neg hxy,append_trailing_lt hx hy hxy hbuild hbuild']
        have hnumx (hnum : isNumeric x = true) := not_continued_of_numeric y rest' hnum
        have hnumy (hnum : isNumeric y = true) := not_continued_of_numeric x rest hnum
        have hltx (h : Continued x rest y) := lt_of_continued h
        have hlty (h : Continued y rest' x) := lt_of_continued h
        cases hnx : isNumeric x with
        | false =>
          cases hny : isNumeric y with
          | false =>
            simp only [identifier,hnx,hny,Bool.false_eq_true,if_false,Below,Identifier.alphanumeric.injEq,hxy,
              false_and,or_false,Before]
            grind
          | true =>
            simp only [identifier,hnx,hny,Bool.false_eq_true,if_false,if_true,Below,reduceCtorEq,false_and,
              or_false,iff_false,Before]
            grind
        | true =>
          cases hny : isNumeric y with
          | false =>
            simp only [identifier,hnx,hny,Bool.false_eq_true,if_false,if_true,Below,true_or,iff_true,Before]
            grind
          | true =>
            simp only [identifier,hnx,hny,if_true,Below,Identifier.numeric.injEq,Before,hnumx hnx,hnumy hny,
              not_false_eq_true,and_true,or_false]

end
end SemanticVersion
