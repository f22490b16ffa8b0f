import Mathlib.Algebra.Group.Nat.Defs
import Mathlib.Data.List.Basic

/-! SHA-256 over bytes, and its hexadecimal text: eight digits for each of the eight words. -/
namespace Sha256

/-- The chaining value: eight words of 32 bits. -/
structure Words where
  (a b c d e f g h : ℕ)

def word (n : ℕ) : ℕ := n % 4294967296
def rotateRight (x n : ℕ) : ℕ := (x >>> n) ||| word (x <<< (32 - n))
def initial : Words :=
  ⟨0x6a09e667,0xbb67ae85,0x3c6ef372,0xa54ff53a,0x510e527f,0x9b05688c,0x1f83d9ab,0x5be0cd19⟩

def constants : List ℕ := [
  0x428a2f98,0x71374491,0xb5c0fbcf,0xe9b5dba5,0x3956c25b,0x59f111f1,0x923f82a4,0xab1c5ed5,
  0xd807aa98,0x12835b01,0x243185be,0x550c7dc3,0x72be5d74,0x80deb1fe,0x9bdc06a7,0xc19bf174,
  0xe49b69c1,0xefbe4786,0x0fc19dc6,0x240ca1cc,0x2de92c6f,0x4a7484aa,0x5cb0a9dc,0x76f988da,
  0x983e5152,0xa831c66d,0xb00327c8,0xbf597fc7,0xc6e00bf3,0xd5a79147,0x06ca6351,0x14292967,
  0x27b70a85,0x2e1b2138,0x4d2c6dfc,0x53380d13,0x650a7354,0x766a0abb,0x81c2c92e,0x92722c85,
  0xa2bfe8a1,0xa81a664b,0xc24b8b70,0xc76c51a3,0xd192e819,0xd6990624,0xf40e3585,0x106aa070,
  0x19a4c116,0x1e376c08,0x2748774c,0x34b0bcb5,0x391c0cb3,0x4ed8aa4a,0x5b9cca4f,0x682e6ff3,
  0x748f82ee,0x78a5636f,0x84c87814,0x8cc70208,0x90befffa,0xa4506ceb,0xbef9a3f7,0xc67178f2]

def round (s : Words) (k w : ℕ) : Words :=
  let choice := (s.e &&& s.f) ^^^ ((s.e ^^^ 0xffffffff) &&& s.g)
  let majority := (s.a &&& s.b) ^^^ (s.a &&& s.c) ^^^ (s.b &&& s.c)
  let high := rotateRight s.e 6 ^^^ rotateRight s.e 11 ^^^ rotateRight s.e 25
  let low := rotateRight s.a 2 ^^^ rotateRight s.a 13 ^^^ rotateRight s.a 22
  let first := word (s.h + high + choice + k + w)
  ⟨word (first + low + majority),s.a,s.b,s.c,word (s.d + first),s.e,s.f,s.g⟩

def schedule : ℕ → List ℕ → List ℕ
  | 0, ws => ws
  | n + 1, ws =>
    let x := ws.getD 14 0
    let y := ws.getD 1 0
    let low := rotateRight x 7 ^^^ rotateRight x 18 ^^^ (x >>> 3)
    let high := rotateRight y 17 ^^^ rotateRight y 19 ^^^ (y >>> 10)
    schedule n (word (ws.getD 15 0 + low + ws.getD 6 0 + high) :: ws)

def rounds : Words → List ℕ → List ℕ → Words
  | s, k :: ks, w :: ws => rounds (round s k w) ks ws
  | s, _, _ => s

def compress (s : Words) (block : List ℕ) : Words :=
  let t := rounds s constants (schedule 48 block.reverse).reverse
  ⟨word (s.a + t.a),word (s.b + t.b),word (s.c + t.c),word (s.d + t.d),
    word (s.e + t.e),word (s.f + t.f),word (s.g + t.g),word (s.h + t.h)⟩

def pad (bytes : List ℕ) : List ℕ :=
  bytes ++ 0x80 :: List.replicate ((119 - bytes.length % 64) % 64) 0 ++
    (List.range 8).map fun i => 8 * bytes.length / 256 ^ (7 - i) % 256

def wordsOf : List ℕ → List ℕ
  | a :: b :: c :: d :: rest => (a * 256 ^ 3 + b * 256 ^ 2 + c * 256 + d) :: wordsOf rest
  | _ => []

def blocks : ℕ → Words → List ℕ → Words
  | 0, s, _ => s
  | n + 1, s, ws => blocks n (compress s (ws.take 16)) (ws.drop 16)

def digest (bytes : List ℕ) : Words :=
  let ws := wordsOf (pad bytes)
  blocks (ws.length / 16) initial ws

def hexWord (w : ℕ) : List Char := (List.range 8).map fun i => Nat.digitChar (w / 16 ^ (7 - i) % 16)

def hexdigest (bytes : List ℕ) : List Char :=
  let s := digest bytes
  [s.a,s.b,s.c,s.d,s.e,s.f,s.g,s.h].flatMap hexWord

/-- The digits a digest is written with. -/
def hexadecimal (c : Char) : Bool := ('0' ≤ c && c ≤ '9') || ('a' ≤ c && c ≤ 'f')

theorem hexadecimal_digitChar : ∀ n < 16, hexadecimal (Nat.digitChar n) = true := by decide
theorem length_hexdigest (bytes : List ℕ) : (hexdigest bytes).length = 64 := by
  simp [hexdigest,hexWord]

theorem all_hexdigest {p : Char → Bool} (hp : ∀ n < 16, p (Nat.digitChar n) = true) (bytes : List ℕ) :
    (hexdigest bytes).all p = true := by
  rw [List.all_eq_true]
  intro c hc
  obtain ⟨w,_,hw⟩ := List.mem_flatMap.mp hc
  obtain ⟨i,_,rfl⟩ := List.mem_map.mp hw
  exact hp _ (Nat.mod_lt _ (by omega))

theorem hexadecimal_hexdigest (bytes : List ℕ) : (hexdigest bytes).all hexadecimal = true :=
  all_hexdigest hexadecimal_digitChar bytes

example : String.ofList (hexdigest ("abc".toList.map Char.toNat)) =
    "ba7816bf8f01cfea414140de5dae2223b00361a396177a9cb410ff61f20015ad" := by decide +kernel

def digestBytes (bytes : List ℕ) : List ℕ :=
  let s := digest bytes
  [s.a,s.b,s.c,s.d,s.e,s.f,s.g,s.h].flatMap fun w => (List.range 4).map fun i => w / 256 ^ (3 - i) % 256

def hmac (key message : List ℕ) : List ℕ :=
  let short := if 64 < key.length then digestBytes key else key
  let block := short ++ List.replicate (64 - short.length) 0
  digestBytes (block.map (· ^^^ 0x5c) ++ digestBytes (block.map (· ^^^ 0x36) ++ message))

theorem hexadecimal_take (bytes : List ℕ) (n : ℕ) : ((hexdigest bytes).take n).all hexadecimal = true := by
  have hall := hexadecimal_hexdigest bytes
  rw [List.all_eq_true] at hall ⊢
  exact fun c hc => hall c (List.mem_of_mem_take hc)

theorem labelled_hexadecimal {hex : List Char} (hlength : hex.length = 64) (hhex : hex.all hexadecimal = true) :
    (decide ((String.ofList ("sha256:".toList ++ hex)).toList.take 7 = "sha256:".toList) &&
      decide (((String.ofList ("sha256:".toList ++ hex)).toList.drop 7).length = 64) &&
      ((String.ofList ("sha256:".toList ++ hex)).toList.drop 7).all hexadecimal) = true := by
  have hlabel : "sha256:".toList.length = 7 := by decide
  rw [String.toList_ofList,List.take_left' hlabel,List.drop_left' hlabel,hhex,hlength]
  simp

theorem digestBytes_lt (bytes : List ℕ) : ∀ b ∈ digestBytes bytes, b < 256 := by
  intro b hb
  obtain ⟨w,_,hw⟩ := List.mem_flatMap.mp hb
  obtain ⟨i,_,rfl⟩ := List.mem_map.mp hw
  exact Nat.mod_lt _ (by omega)

end Sha256
