import Arbora.Security.SpawnScope

/-! The token as a code for what it was minted for. -/
namespace Arbora.Security
variable {Time : Type} (F : FloatText Time)

section
variable [Add Time] {env : Environment} {s : String}

def MintedFor (env : Environment) (s : String) (token : RunToken Time) : Prop :=
  ∃ now ttlSeconds, token.expiresAt = now + ttlSeconds ∧
    mintToken F env token.runId token.project token.endpoints token.operations ttlSeconds token.actorId token.tenantId
      now = .ok s

def Unforged (env : Environment) (key : List ℕ) (s : String) : Prop :=
  ∀ body, splitDot s.toList = some (body,signature key body) → ∃ s' token rest, MintedFor F env s' token ∧
    s'.toList = body ++ '.' :: rest

def IsTokenError (e : Raised) : Prop := e = .malformedToken ∨ e = .badSignature

structure Codec (env : Environment) (s : String) : Prop where
  raises : ∀ e, decodeToken F env s = .error e → IsTokenError e
  returns : (∃ token, decodeToken F env s = .ok token) ↔ ∃ token, MintedFor F env s token
  fields : ∀ token, MintedFor F env s token → decodeToken F env s = .ok token
  single : ∀ token token', MintedFor F env s token → MintedFor F env s token' → token = token'

def AsciiSignature (s : String) : Prop :=
  ∀ body sig, splitDot s.toList = some (body,sig) → sig.any (fun c => 128 ≤ c.toNat) = false

theorem MintedFor.decodes {token : RunToken Time} (h : MintedFor F env s token) : decodeToken F env s = .ok token := by
  obtain ⟨now,ttlSeconds,hexpires,hmint⟩ := h
  rw [decodeToken_mintToken F hmint,← hexpires]

theorem MintedFor.split {key : List ℕ} (hkey : secret env = .ok key) {token : RunToken Time}
    (h : MintedFor F env s token) : ∃ data, s.toList = Base64.encode data ++ '.' :: signature key (Base64.encode data) := by
  obtain ⟨now,ttlSeconds,_,hmint⟩ := h
  unfold mintToken at hmint
  rw [hkey] at hmint
  obtain rfl := Except.ok.inj hmint
  exact ⟨_,String.toList_ofList⟩

theorem splitDot_eq {text body sig : List Char} (h : splitDot text = some (body,sig)) : text = body ++ '.' :: sig := by
  unfold splitDot at h
  split at h
  · cases h
  · rename_i c rest hdrop
    obtain ⟨rfl,rfl⟩ := Prod.mk.inj (Option.some.inj h)
    have hc := List.head?_dropWhile_not (fun c => decide (c ≠ '.')) text
    rw [hdrop] at hc
    obtain rfl : c = '.' := by simpa using hc
    rw [← hdrop]
    exact (List.takeWhile_append_dropWhile ..).symm

theorem minted_of_signed {key : List ℕ} (hkey : secret env = .ok key) (hunforged : Unforged F env key s)
    {body : List Char} (hsplit : splitDot s.toList = some (body,signature key body)) : ∃ token, MintedFor F env s token := by
  obtain ⟨s',token,rest,hminted,hs'⟩ := hunforged body hsplit
  obtain ⟨data,hdata⟩ := hminted.split F hkey
  have hsplit' := splitDot_encode data (signature key (Base64.encode data))
  have hbody : splitDot s'.toList = some (body,rest) := by
    rw [hs']
    unfold splitDot
    have hfree : ∀ c ∈ body, decide (c ≠ '.') = true := by
      intro c hc
      have hall := List.all_takeWhile (p := fun c => decide (c ≠ '.')) (l := s.toList)
      unfold splitDot at hsplit
      split at hsplit
      · cases hsplit
      · rw [(Prod.mk.inj (Option.some.inj hsplit)).1] at hall
        exact List.all_eq_true.mp hall c hc
    have hdrop : ('.' :: rest).dropWhile (· ≠ '.') = '.' :: rest := rfl
    have htake : ('.' :: rest).takeWhile (· ≠ '.') = [] := rfl
    rw [List.dropWhile_append_of_pos hfree,hdrop,List.takeWhile_append_of_pos hfree,htake,List.append_nil]
  rw [hdata,hsplit'] at hbody
  obtain ⟨rfl,rfl⟩ := Prod.mk.inj (Option.some.inj hbody)
  have hsame : s = s' := String.toList_inj.mp ((splitDot_eq hsplit).trans hdata.symm)
  exact ⟨token,hsame ▸ hminted⟩

omit [Add Time] in
theorem refused_or_signed {key : List ℕ} (hkey : secret env = .ok key) (hascii : AsciiSignature s) :
    (∃ e, decodeToken F env s = .error e ∧ IsTokenError e) ∨
      ∃ body, splitDot s.toList = some (body,signature key body) := by
  unfold decodeToken
  cases hsplit : splitDot s.toList with
  | none => exact .inl ⟨_,rfl,.inl rfl⟩
  | some parts =>
    obtain ⟨body,sig⟩ := parts
    dsimp only
    rw [hkey]
    dsimp only [bind,Except.bind]
    rw [hascii body sig hsplit,if_neg Bool.false_ne_true]
    by_cases hsig : sig = signature key body
    · exact .inr ⟨body,hsig ▸ rfl⟩
    · rw [if_pos hsig]
      exact .inl ⟨_,rfl,.inr rfl⟩

/-- The codec keeps its law on a text exactly where what stands for the signature is ASCII. -/
theorem codec_law_iff {key : List ℕ} (hkey : secret env = .ok key) (hunforged : Unforged F env key s) :
    Codec F env s ↔ AsciiSignature s := by
  constructor
  · intro h body sig hsplit
    by_contra hascii
    have hraised : decodeToken F env s = .error .typeError := by
      unfold decodeToken
      rw [hsplit]
      rw [hkey]
      exact if_pos (Bool.eq_true_of_not_eq_false hascii)
    obtain herror | herror := h.raises _ hraised <;> cases herror
  · intro hascii
    have hcases := refused_or_signed F hkey hascii
    refine ⟨?_,⟨?_,?_⟩,fun _ h => h.decodes F,?_⟩
    · intro e he
      obtain ⟨e',hrefused,htoken⟩ | ⟨body,hsplit⟩ := hcases
      · rw [hrefused] at he
        exact Except.error.inj he ▸ htoken
      · obtain ⟨token,hminted⟩ := minted_of_signed F hkey hunforged hsplit
        rw [hminted.decodes F] at he
        cases he
    · rintro ⟨token,hdecoded⟩
      obtain ⟨e',hrefused,_⟩ | ⟨body,hsplit⟩ := hcases
      · rw [hrefused] at hdecoded
        cases hdecoded
      · exact minted_of_signed F hkey hunforged hsplit
    · rintro ⟨token,hminted⟩
      exact ⟨token,hminted.decodes F⟩
    · intro token token' h h'
      exact Except.ok.inj ((h.decodes F).symm.trans (h'.decodes F))

end

theorem codec_law_minted : ∃ s, MintedFor wholeSeconds configured s ⟨"run","arbora",["*"],["read"],1060,"alice","acme"⟩ ∧
    (Codec wholeSeconds configured s ↔ AsciiSignature s) := by
  have hkey : secret configured = .ok (Base64.utf8 "secret") := rfl
  have hminted : MintedFor wholeSeconds configured _ ⟨"run","arbora",["*"],["read"],1060,"alice","acme"⟩ := ⟨1000,60,rfl,rfl⟩
  refine ⟨_,hminted,codec_law_iff wholeSeconds hkey fun body hsplit => ?_⟩
  exact ⟨_,_,_,hminted,splitDot_eq hsplit⟩

/-- A letter beyond ASCII where the signature stands is answered by the `TypeError` of the comparison. -/
theorem accented_signature : Unforged wholeSeconds configured (Base64.utf8 "secret") "a.é" ∧
    decodeToken wholeSeconds configured "a.é" = .error .typeError ∧ ¬Codec wholeSeconds configured "a.é" := by
  have hkey : secret configured = .ok (Base64.utf8 "secret") := rfl
  have hsplit : splitDot "a.é".toList = some (['a'],['é']) := by decide +kernel
  have hraised : decodeToken wholeSeconds configured "a.é" = .error .typeError := by
    unfold decodeToken
    rw [hsplit]
    have haccent : ['é'].any (fun c => decide (128 ≤ c.toNat)) = true := by decide +kernel
    dsimp only
    rw [hkey]
    dsimp only [bind,Except.bind]
    rw [haccent,if_pos rfl]
  refine ⟨?_,hraised,fun h => ?_⟩
  · intro body hsigned
    rw [hsplit] at hsigned
    obtain ⟨rfl,hsig⟩ := Prod.mk.inj (Option.some.inj hsigned)
    have hascii := signature_ascii (Base64.utf8 "secret") ['a']
    rw [← hsig] at hascii
    exact absurd hascii (by decide)
  · obtain herror | herror := h.raises _ hraised <;> cases herror

end Arbora.Security
