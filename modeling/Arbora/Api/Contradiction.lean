import Arbora.Lib.Binary64
import Arbora.Lib.Keyset
import Arbora.Lib.Lists
import Arbora.Lib.Texts
import Mathlib.Data.Prod.Lex
import Mathlib.Data.String.Basic

/-! Which two claims of an answer contradict each other, by the words they are made of. -/
namespace Arbora.Api

/-- `str.lower` and the digits of `\d`. -/
structure Unicode where
  lower : List Char → List Char
  digit : Char → Bool

section

def isLetter (c : Char) : Bool := 'a' ≤ c && c ≤ 'z'
def isWordChar (c : Char) : Bool := isLetter c || ('0' ≤ c && c ≤ '9')

/-- How far a match of `_WORD` has come. -/
inductive WordMatch
  | none | word (w : List Char) | apostrophe (w : List Char) | tail (w : List Char)

def WordMatch.start (c : Char) : WordMatch := if isWordChar c then .word [c] else .none

/-- `_WORD.findall` -/
def findWords : WordMatch → List Char → List (List Char)
  | .none, [] => []
  | .word w, [] | .apostrophe w, [] | .tail w, [] => [w]
  | .none, c :: rest => findWords (.start c) rest
  | .word w, c :: rest =>
    if isWordChar c then findWords (.word (w ++ [c])) rest
    else if c = '\x27' then findWords (.apostrophe w) rest
    else w :: findWords .none rest
  | .apostrophe w, c :: rest =>
    if isLetter c then findWords (.tail (w ++ ['\x27',c])) rest else w :: findWords (.start c) rest
  | .tail w, c :: rest =>
    if isLetter c then findWords (.tail (w ++ [c])) rest
    else if c = '\x27' then findWords (.apostrophe w) rest
    else w :: findWords (.start c) rest

/-- How far a match of `_NUM` has come. -/
inductive NumberMatch
  | none | minus | whole (n : List Char) | point (n : List Char) | fraction (n : List Char)

variable (digit : Char → Bool)

def NumberMatch.start (c : Char) : NumberMatch :=
  if c = '-' then .minus else if digit c then .whole [c] else .none

/-- `_NUM.findall` -/
def findNumbers : NumberMatch → List Char → List (List Char)
  | .none, [] | .minus, [] => []
  | .whole n, [] | .point n, [] | .fraction n, [] => [n]
  | .none, c :: rest => findNumbers (.start digit c) rest
  | .minus, c :: rest =>
    if digit c then findNumbers (.whole ['-',c]) rest else findNumbers (.start digit c) rest
  | .whole n, c :: rest =>
    if digit c then findNumbers (.whole (n ++ [c])) rest
    else if c = '.' then findNumbers (.point n) rest
    else n :: findNumbers (.start digit c) rest
  | .point n, c :: rest =>
    if digit c then findNumbers (.fraction (n ++ ['.',c])) rest else n :: findNumbers (.start digit c) rest
  | .fraction n, c :: rest =>
    if digit c then findNumbers (.fraction (n ++ [c])) rest else n :: findNumbers (.start digit c) rest

end

def stopWords : List String := ["a","an","the","of","to","in","on","for","and","or","is","are","be","was","were","with",
  "as","at","by","from","this","that","it","its","into","about","over","under","what","which","who","whom","how","why",
  "when","where","will","would","can","could","should","than","then","so","but","if"]

def blockerCues : List String := ["constraint","constraints","bottleneck","blocker","blockers","barrier","barriers",
  "limit","limiting","limitation","binding","obstacle","problem","expensive","costly","prohibitive"]
def resolverCues : List String := ["undercut","undercuts","undercutting","solve","solves","solved","resolves","resolved",
  "overcome","overcomes","eliminates","eliminate","cheaper","affordable","removes","alleviates","alleviate"]
def negations : List String := ["not","no","never","none","cannot","cant","dont","doesnt","didnt","wont","isnt","arent",
  "wasnt","werent","without","fails","failed"]

def antonymPairs : List (String × String) := [("increase","decrease"),("increases","decreases"),
  ("increased","decreased"),("rise","fall"),("rises","falls"),("rose","fell"),("rising","falling"),
  ("improve","degrade"),("improves","degrades"),("improved","degraded"),("strengthen","weaken"),
  ("strengthens","weakens"),("cheaper","costlier"),("cheap","expensive"),("undercut","exceed"),
  ("undercuts","exceeds"),("true","false"),("supports","contradicts"),("support","contradict"),
  ("enable","prevent"),("enables","prevents"),("up","down"),("higher","lower"),("more","less"),("faster","slower"),
  ("win","lose"),("wins","loses"),("gain","loss"),("positive","negative")]

/-- The pairs in both directions. -/
def antonyms (token : String) : List String :=
  (antonymPairs.filter (·.1 = token)).map (·.2) ++ (antonymPairs.filter (·.2 = token)).map (·.1)

section

def stripped (word : List Char) : String := String.ofList (word.filter (· ≠ '\x27'))

variable (U : Unicode)

def wordsOf (text : String) : List (List Char) := findWords .none (U.lower text.toList)
def contentTokens (text : String) : List String := ((wordsOf U text).map stripped).filter (· ∉ stopWords)
def bigrams (tokens : List String) : Finset (String × String) := (tokens.zip tokens.tail).toFinset

def lexicalSimilarity (a b : String) : ℚ :=
  let ta := contentTokens U a
  let tb := contentTokens U b
  if ta = [] ∨ tb = [] then 0
  else
    let sa := ta.toFinset
    let sb := tb.toFinset
    let jaccard : ℚ := (sa ∩ sb).card / (sa ∪ sb).card
    let ba := bigrams ta
    let bb := bigrams tb
    let bigram : ℚ := if ba ≠ ∅ ∨ bb ≠ ∅ then (ba ∩ bb).card / (ba ∪ bb).card else 0
    max 0 (min 1 (7/10 * jaccard + 3/10 * bigram))

def endsInNt (token : String) : Bool := ['n','t'].isSuffixOf token.toList
def countsAsNegation (token : String) : Bool := token ∈ negations || endsInNt token
def negationCount (tokens : List String) : ℕ := tokens.countP countsAsNegation
def sharedTopicTokens (ta tb : List String) : Finset String :=
  (ta.toFinset ∩ tb.toFinset).filter fun t => t ∉ negations ∧ antonyms t = []
def antonymFlip (sa sb sharedTopic : Finset String) : Bool :=
  sharedTopic ≠ ∅ ∧ ∃ token ∈ sa, ∃ anti ∈ antonyms token, anti ∈ sb
def coreOf (tokens : List String) : Finset String := (tokens.filter fun t => !countsAsNegation t).toFinset

def coresShared (ta tb : List String) : Bool :=
  coreOf ta ≠ ∅ ∧ coreOf tb ≠ ∅ ∧
    (1/2 : ℚ) ≤ (coreOf ta ∩ coreOf tb).card / (min (coreOf ta).card (coreOf tb).card : ℕ)

def negationFlip (ta tb : List String) : Bool :=
  decide (0 < negationCount ta) ≠ decide (0 < negationCount tb) ∧ coresShared ta tb

def numericContradiction (a b : String) (sharedTopic : Finset String) : Bool :=
  let numsA := findNumbers U.digit .none a.toList
  let numsB := findNumbers U.digit .none b.toList
  sharedTopic ≠ ∅ ∧ numsA ≠ [] ∧ numsB ≠ [] ∧ numsA.toFinset ≠ numsB.toFinset

def frameFlip (sa sb sharedTopic : Finset String) : Bool :=
  let holds (s : Finset String) (cues : List String) : Prop := ∃ cue ∈ cues, cue ∈ s
  sharedTopic ≠ ∅ ∧ (holds sa blockerCues ∧ holds sb resolverCues ∨ holds sb blockerCues ∧ holds sa resolverCues)

def opposes (a b : String) : Bool :=
  let ta := contentTokens U a
  let tb := contentTokens U b
  let sharedTopic := sharedTopicTokens ta tb
  ta ≠ [] && tb ≠ [] && (antonymFlip ta.toFinset tb.toFinset sharedTopic || negationFlip ta tb ||
    numericContradiction U a b sharedTopic || frameFlip ta.toFinset tb.toFinset sharedTopic)

end

section

structure Claim where
  (id text : String)

inductive Severity
  | high | medium | low

structure FrictionFinding where
  (newId conflictId : String)
  similarity : ℚ
  reason : String
  severity : Severity

def severityFor (similarity : ℚ) : Severity :=
  if 3/5 ≤ similarity then .high else if 2/5 ≤ similarity then .medium else .low
def roundSix (x : ℚ) : ℚ := FloatingPoint.roundHalfEven (10^6 * x) / 10^6

/-- `f"{x:.2f}"` of what is not negative. -/
def twoPlaces (x : ℚ) : String :=
  let hundredths := (FloatingPoint.roundHalfEven (100 * x)).toNat
  toString (hundredths / 100) ++ "." ++ String.ofList (DigitText.digits 2 (hundredths % 100))

structure ContradictionDetector where
  similarityFn : String → String → ℚ
  minSimilarity : ℚ

def lexicalDetector (U : Unicode) (minSimilarity : ℚ) : ContradictionDetector := ⟨lexicalSimilarity U,minSimilarity⟩

variable (U : Unicode) (D : ContradictionDetector)

def friction (new existing : Claim) : Option FrictionFinding :=
  let sim := D.similarityFn new.text existing.text
  if sim < D.minSimilarity then none
  else if !opposes U new.text existing.text then none
  else some ⟨new.id,existing.id,roundSix sim,"[FRICTION] new claim '" ++ new.text ++ "' opposes existing belief '" ++
    existing.text ++ "' (topical similarity " ++ twoPlaces sim ++ ")",severityFor sim⟩

def check (newClaim : Claim) (existing : List Claim) : List FrictionFinding :=
  Keyset.sortBy (fun f => toLex (-f.similarity,f.conflictId))
    ((existing.filter (·.id ≠ newClaim.id)).filterMap (friction U D newClaim))

/-- The pair with the smaller id in front. -/
def orient (p : Claim × Claim) : Claim × Claim := if p.1.id ≤ p.2.id then p else p.swap

def scan (claims : List Claim) : List FrictionFinding :=
  Keyset.sortBy (fun f => toLex (-f.similarity,toLex (f.newId,f.conflictId)))
    ((Pairing.pairs claims).filterMap fun p => friction U D (orient p).1 (orient p).2)

end

section
variable (U : Unicode)

theorem mem_antonyms_comm {t u : String} : u ∈ antonyms t ↔ t ∈ antonyms u := by
  unfold antonyms
  simp only [List.mem_append,List.mem_map,List.mem_filter,decide_eq_true_eq]
  constructor
  · rintro (⟨p,⟨hp,rfl⟩,rfl⟩ | ⟨p,⟨hp,rfl⟩,rfl⟩)
    · exact .inr ⟨p,⟨hp,rfl⟩,rfl⟩
    · exact .inl ⟨p,⟨hp,rfl⟩,rfl⟩
  · rintro (⟨p,⟨hp,rfl⟩,rfl⟩ | ⟨p,⟨hp,rfl⟩,rfl⟩)
    · exact .inr ⟨p,⟨hp,rfl⟩,rfl⟩
    · exact .inl ⟨p,⟨hp,rfl⟩,rfl⟩

theorem sharedTopicTokens_comm (ta tb : List String) : sharedTopicTokens ta tb = sharedTopicTokens tb ta := by
  unfold sharedTopicTokens
  rw [Finset.inter_comm]

theorem antonymFlip_comm (sa sb topic : Finset String) : antonymFlip sa sb topic = antonymFlip sb sa topic := by
  apply decide_eq_decide.mpr
  refine and_congr_right fun _ => ?_
  constructor
  · rintro ⟨t,ht,u,hu,hsb⟩
    exact ⟨u,hsb,t,mem_antonyms_comm.mp hu,ht⟩
  · rintro ⟨t,ht,u,hu,hsb⟩
    exact ⟨u,hsb,t,mem_antonyms_comm.mp hu,ht⟩

theorem coresShared_comm (ta tb : List String) : coresShared ta tb = coresShared tb ta := by
  unfold coresShared
  rw [Finset.inter_comm,Nat.min_comm]
  exact decide_eq_decide.mpr and_left_comm

theorem negationFlip_comm (ta tb : List String) : negationFlip ta tb = negationFlip tb ta := by
  unfold negationFlip
  rw [coresShared_comm]
  exact decide_eq_decide.mpr (and_congr_left fun _ => ne_comm)

theorem numericContradiction_comm (a b : String) (topic : Finset String) :
    numericContradiction U a b topic = numericContradiction U b a topic := by
  exact decide_eq_decide.mpr (and_congr_right fun _ => (and_left_comm.trans
    (and_congr_right fun _ => and_congr_right fun _ => ne_comm)))

theorem frameFlip_comm (sa sb topic : Finset String) : frameFlip sa sb topic = frameFlip sb sa topic := by
  exact decide_eq_decide.mpr (and_congr_right fun _ => or_comm)

theorem opposes_comm (a b : String) : opposes U a b = opposes U b a := by
  unfold opposes
  dsimp only
  rw [sharedTopicTokens_comm,antonymFlip_comm,negationFlip_comm,numericContradiction_comm,frameFlip_comm,
    Bool.and_comm (decide (contentTokens U a ≠ []))]

def isNegation (word : List Char) : Bool := stripped word ∈ negations || ['n','\x27','t'].isSuffixOf word
def Negated (text : String) : Prop := ∃ word ∈ wordsOf U text, isNegation word = true

def TwoSided (text : String) : Prop :=
  (∃ t ∈ contentTokens U text, t ∉ negations ∧ antonyms t = []) ∧
    ((∃ t ∈ contentTokens U text, ∃ anti ∈ antonyms t, anti ∈ contentTokens U text) ∨
      (∃ cue ∈ blockerCues, cue ∈ contentTokens U text) ∧ ∃ cue ∈ resolverCues, cue ∈ contentTokens U text)

/-- Ordinary words in -nt are all that tells `a` from `b`, which has none and shares the rest by half. -/
def Misread (a b : String) : Prop :=
  (∃ t ∈ contentTokens U a, countsAsNegation t = true) ∧ ¬Negated U a ∧
    (∀ t ∈ contentTokens U b, countsAsNegation t = false) ∧ coresShared (contentTokens U a) (contentTokens U b) = true

/-- What a test of opposition is to say of two texts. -/
structure SoundAt (a b : String) : Prop where
  symmetric : opposes U a b = opposes U b a
  irreflexive : opposes U a a = false
  negation : negationFlip (contentTokens U a) (contentTokens U b) = true →
    (Negated U a ∧ ¬Negated U b) ∨ (Negated U b ∧ ¬Negated U a)

theorem negationCount_pos {tokens : List String} :
    0 < negationCount tokens ↔ ∃ t ∈ tokens, countsAsNegation t = true := List.countP_pos_iff

theorem Negated.counted {text : String} (h : Negated U text) : ∃ t ∈ contentTokens U text, countsAsNegation t = true := by
  obtain ⟨word,hword,hneg⟩ := h
  have hcounts : countsAsNegation (stripped word) = true ∧ stripped word ∉ stopWords := by
    rcases Bool.or_eq_true_iff.mp hneg with hlisted | hcontracted
    · have hapart : ∀ n ∈ negations, n ∉ stopWords := by decide +kernel
      exact ⟨Bool.or_eq_true_iff.mpr (.inl hlisted),hapart _ (of_decide_eq_true hlisted)⟩
    · obtain ⟨front,rfl⟩ := List.isSuffixOf_iff_suffix.mp hcontracted
      have hends : endsInNt (stripped (front ++ ['n','\x27','t'])) = true := by
        unfold endsInNt stripped
        rw [String.toList_ofList,List.filter_append]
        exact List.isSuffixOf_iff_suffix.mpr ⟨_,rfl⟩
      have hapart : ∀ n ∈ stopWords, endsInNt n = false := by decide +kernel
      refine ⟨Bool.or_eq_true_iff.mpr (.inr hends),fun hstop => ?_⟩
      rw [hapart _ hstop] at hends
      exact Bool.false_ne_true hends
  exact ⟨_,List.mem_filter.mpr ⟨List.mem_map_of_mem hword,decide_eq_true hcounts.2⟩,hcounts.1⟩

theorem opposes_self_iff (a : String) : opposes U a a = true ↔ TwoSided U a := by
  have htopic : sharedTopicTokens (contentTokens U a) (contentTokens U a) ≠ ∅ ↔
      ∃ t ∈ contentTokens U a, t ∉ negations ∧ antonyms t = [] := by
    rw [← Finset.nonempty_iff_ne_empty,sharedTopicTokens,Finset.inter_self]
    simp only [Finset.Nonempty,Finset.mem_filter,List.mem_toFinset]
  have hnegation : negationFlip (contentTokens U a) (contentTokens U a) = false := by simp [negationFlip]
  have hnumeric : ∀ topic, numericContradiction U a a topic = false := by simp [numericContradiction]
  unfold opposes TwoSided
  dsimp only
  rw [hnegation,hnumeric,Bool.or_false,Bool.or_false]
  simp only [Bool.and_eq_true,Bool.or_eq_true,decide_eq_true_eq,antonymFlip,frameFlip,htopic,List.mem_toFinset,or_self]
  constructor
  · rintro ⟨_,⟨ht,h⟩ | ⟨ht,hb,hr⟩⟩
    · exact ⟨ht,.inl h⟩
    · exact ⟨ht,.inr ⟨hb,hr⟩⟩
  · rintro ⟨ht,h⟩
    have hne : contentTokens U a ≠ [] := List.ne_nil_of_mem ht.choose_spec.1
    rcases h with h | h
    · exact ⟨⟨hne,hne⟩,.inl ⟨ht,h⟩⟩
    · exact ⟨⟨hne,hne⟩,.inr ⟨ht,h.1,h.2⟩⟩

/-- Exactly one text counts as negated where the signal fires. -/
theorem negationFlip_iff {ta tb : List String} : negationFlip ta tb = true ↔
    coresShared ta tb = true ∧ ((∃ t ∈ ta, countsAsNegation t = true) ↔ ∀ t ∈ tb, countsAsNegation t = false) := by
  unfold negationFlip
  have hnone : (∀ t ∈ tb, countsAsNegation t = false) ↔ ¬0 < negationCount tb := by
    rw [negationCount_pos]
    simp
  rw [hnone,← negationCount_pos]
  by_cases ha : 0 < negationCount ta <;> by_cases hb : 0 < negationCount tb <;> simp [ha,hb]

theorem Misread.fires {a b : String} (h : Misread U a b) :
    negationFlip (contentTokens U a) (contentTokens U b) = true ∧ ¬Negated U a ∧ ¬Negated U b := by
  obtain ⟨hcounted,hplain,hnone,hshared⟩ := h
  refine ⟨negationFlip_iff.mpr ⟨hshared,iff_of_true hcounted hnone⟩,hplain,fun hb => ?_⟩
  obtain ⟨t,ht,hcounts⟩ := hb.counted
  exact Bool.false_ne_true ((hnone t ht).symm.trans hcounts)

/-- Opposition is sound at its edges exactly for a first text that does not speak on both sides of a topic, and for two
texts neither of which is told from the other by ordinary words in -nt. -/
theorem opposes_sound_iff (a b : String) : SoundAt U a b ↔ ¬TwoSided U a ∧ ¬Misread U a b ∧ ¬Misread U b a := by
  constructor
  · intro h
    refine ⟨fun hsides => ?_,fun hm => ?_,fun hm => ?_⟩
    · exact Bool.false_ne_true (h.irreflexive.symm.trans ((opposes_self_iff U a).mpr hsides))
    · obtain ⟨hfires,ha,hb⟩ := hm.fires
      exact (h.negation hfires).elim (fun hn => ha hn.1) fun hn => hb hn.1
    · obtain ⟨hfires,hb,ha⟩ := hm.fires
      rw [negationFlip_comm] at hfires
      exact (h.negation hfires).elim (fun hn => ha hn.1) fun hn => hb hn.1
  · rintro ⟨hsides,hab,hba⟩
    refine ⟨opposes_comm U a b,?_,fun hfires => ?_⟩
    · exact Bool.eq_false_iff.mpr fun hself => hsides ((opposes_self_iff U a).mp hself)
    · obtain ⟨hshared,hone⟩ := negationFlip_iff.mp hfires
      by_cases hcounted : ∃ t ∈ contentTokens U a, countsAsNegation t = true
      · have hnone := hone.mp hcounted
        refine .inl ⟨by_contra fun hplain => hab ⟨hcounted,hplain,hnone,hshared⟩,fun hb => ?_⟩
        obtain ⟨t,ht,hcounts⟩ := hb.counted
        exact Bool.false_ne_true ((hnone t ht).symm.trans hcounts)
      · have hb : ∃ t ∈ contentTokens U b, countsAsNegation t = true := by
          by_contra hb
          exact hcounted (hone.mpr fun t ht => Bool.eq_false_iff.mpr fun hcounts => hb ⟨t,ht,hcounts⟩)
        have hnone : ∀ t ∈ contentTokens U a, countsAsNegation t = false :=
          fun t ht => Bool.eq_false_iff.mpr fun hcounts => hcounted ⟨t,ht,hcounts⟩
        refine .inr ⟨by_contra fun hplain => hba ⟨hb,hplain,hnone,coresShared_comm _ _ ▸ hshared⟩,fun ha => ?_⟩
        exact hcounted ha.counted

def ascii : Unicode := ⟨List.map Char.toLower,Char.isDigit⟩

/-- An agent is taken for a negation, and one text is found to oppose itself. -/
theorem agent_negates : negationFlip (contentTokens ascii "agent works") (contentTokens ascii "works") = true ∧
    ¬SoundAt ascii "agent works" "works" ∧ opposes ascii "oil up down" "oil up down" = true := by
  have hfires : negationFlip (contentTokens ascii "agent works") (contentTokens ascii "works") = true := by decide +kernel
  have hplain : ¬Negated ascii "agent works" := by
    unfold Negated
    decide +kernel
  have hplain' : ¬Negated ascii "works" := by
    unfold Negated
    decide +kernel
  refine ⟨hfires,fun h => ?_,by decide +kernel⟩
  exact (h.negation hfires).elim (fun hn => hplain hn.1) fun hn => hplain' hn.1

end

end Arbora.Api
