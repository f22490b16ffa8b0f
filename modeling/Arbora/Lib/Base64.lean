import Mathlib.Data.List.Basic

/-! Bytes as text in the alphabet for URLs, six bits a character and no padding. -/
namespace Base64

def alphabet : List Char := "ABCDEFGHIJKLMNOPQRSTUVWXYZabcdefghijklmnopqrstuvwxyz0123456789-_".toList
def digit (n : ℕ) : Char := alphabet.getD n 'A'
def valueOf (c : Char) : Option ℕ := if alphabet.idxOf c < 64 then some (alphabet.idxOf c) else none

/-- Three bytes are four times six bits; the last of them may be fewer. -/
def sextets : List ℕ → List ℕ
  | a :: b :: c :: rest => a/4 :: (a%4*16+b/16) :: (b%16*4+c/64) :: c%64 :: sextets rest
  | [a,b] => [a/4,a%4*16+b/16,b%16*4]
  | [a] => [a/4,a%4*16]
  | [] => []

def bytes : List ℕ → Option (List ℕ)
  | a :: b :: c :: d :: rest => (bytes rest).map fun more => (a*4+b/16) :: (b%16*16+c/4) :: (c%4*64+d) :: more
  | [a,b,c] => some [a*4+b/16,b%16*16+c/4]
  | [a,b] => some [a*4+b/16]
  | [_] => none
  | [] => some []

def encode (data : List ℕ) : List Char := (sextets data).map digit
def decode (text : List Char) : Option (List ℕ) := (text.mapM valueOf).bind bytes

example : encode ("Man is".toList.map Char.toNat) = "TWFuIGlz".toList := by decide +kernel

theorem valueOf_digit : ∀ n < 64, valueOf (digit n) = some n := by decide +kernel

theorem digit_mem (n : ℕ) : digit n ∈ alphabet := by
  unfold digit
  rw [List.getD_eq_getElem?_getD]
  cases hn : alphabet[n]? with
  | none => decide
  | some c => exact List.mem_of_getElem? hn

theorem sextets_lt {data : List ℕ} (h : ∀ b ∈ data, b < 256) : ∀ n ∈ sextets data, n < 64 := by
  induction data using sextets.induct with
  | case1 a b c rest ih =>
    simp only [List.forall_mem_cons] at h
    have hrest := ih h.2.2.2
    simp only [sextets,List.forall_mem_cons]
    exact ⟨by omega,by omega,by omega,by omega,hrest⟩
  | case2 a b =>
    simp only [List.forall_mem_cons] at h
    simp only [sextets,List.forall_mem_cons]
    exact ⟨by omega,by omega,by omega,fun _ hn => nomatch hn⟩
  | case3 a =>
    simp only [List.forall_mem_cons] at h
    simp only [sextets,List.forall_mem_cons]
    exact ⟨by omega,by omega,fun _ hn => nomatch hn⟩
  | case4 => exact fun n hn => nomatch hn

theorem bytes_sextets {data : List ℕ} (h : ∀ b ∈ data, b < 256) : bytes (sextets data) = some data := by
  induction data using sextets.induct with
  | case1 a b c rest ih =>
    simp only [List.forall_mem_cons] at h
    rw [sextets,bytes,ih h.2.2.2,Option.map_some]
    have ha : a/4*4+(a%4*16+b/16)/16 = a := by omega
    have hb : (a%4*16+b/16)%16*16+(b%16*4+c/64)/4 = b := by omega
    have hc : (b%16*4+c/64)%4*64+c%64 = c := by omega
    rw [ha,hb,hc]
  | case2 a b =>
    simp only [List.forall_mem_cons] at h
    have ha : a/4*4+(a%4*16+b/16)/16 = a := by omega
    have hb : (a%4*16+b/16)%16*16+b%16*4/4 = b := by omega
    rw [sextets,bytes,ha,hb]
  | case3 a =>
    have ha : a/4*4+a%4*16/16 = a := by omega
    rw [sextets,bytes,ha]
  | case4 => rfl

theorem mapM_valueOf {values : List ℕ} (h : ∀ n ∈ values, n < 64) : (values.map digit).mapM valueOf = some values := by
  induction values with
  | nil => rfl
  | cons n values ih =>
    rw [List.forall_mem_cons] at h
    rw [List.map_cons,List.mapM_cons,valueOf_digit n h.1,ih h.2]
    rfl

theorem decode_encode {data : List ℕ} (h : ∀ b ∈ data, b < 256) : decode (encode data) = some data := by
  unfold decode encode
  rw [mapM_valueOf (sextets_lt h),Option.bind_some,bytes_sextets h]

theorem mem_alphabet_of_mem_encode {data : List ℕ} {c : Char} (h : c ∈ encode data) : c ∈ alphabet := by
  obtain ⟨n,_,rfl⟩ := List.mem_map.mp h
  exact digit_mem n

def utf8 (s : String) : List ℕ := s.toByteArray.data.toList.map UInt8.toNat
def fromUtf8 (data : List ℕ) : Option String := String.fromUTF8? ⟨(data.map UInt8.ofNat).toArray⟩

theorem utf8_lt (s : String) : ∀ b ∈ utf8 s, b < 256 := by
  intro b hb
  obtain ⟨byte,_,rfl⟩ := List.mem_map.mp hb
  exact byte.toNat_lt

theorem fromUtf8_utf8 (s : String) : fromUtf8 (utf8 s) = some s := by
  have hbytes : (utf8 s).map UInt8.ofNat = s.toByteArray.data.toList := by
    unfold utf8
    rw [List.map_map]
    have hself : UInt8.ofNat ∘ UInt8.toNat = id := by
      funext byte
      exact UInt8.ofNat_toNat
    rw [hself,List.map_id]
  unfold fromUtf8
  rw [hbytes,Array.toArray_toList]
  exact dif_pos s.isValidUTF8

end Base64
