import Mathlib.Algebra.Order.Field.Power
import Mathlib.Data.Int.Log
import Mathlib.Data.Rat.Floor
import Mathlib.Tactic.Positivity

/-! Round to nearest, ties to even, of a rational number into a binary floating point format,
and where the rounded value leaves the format's range. -/
namespace FloatingPoint

/-- The integer nearest to `x`, the even one of two. -/
def roundHalfEven (x : ℚ) : ℤ :=
  if Int.fract x < 1/2 then ⌊x⌋
  else if 1/2 < Int.fract x then ⌊x⌋ + 1
  else if ⌊x⌋ % 2 = 0 then ⌊x⌋ else ⌊x⌋ + 1

section
variable {x : ℚ} {k : ℤ}

private theorem roundHalfEven_cases (x : ℚ) :
    (roundHalfEven x = ⌊x⌋ ∧ Int.fract x ≤ 1/2) ∨ (roundHalfEven x = ⌊x⌋ + 1 ∧ 1/2 ≤ Int.fract x) := by
  unfold roundHalfEven
  split_ifs with h1 h2 h3
  · exact .inl ⟨rfl,h1.le⟩
  · exact .inr ⟨rfl,h2.le⟩
  · exact .inl ⟨rfl,not_lt.mp h2⟩
  · exact .inr ⟨rfl,not_lt.mp h1⟩

theorem le_roundHalfEven (h : (k : ℚ) ≤ x) : k ≤ roundHalfEven x := by
  have hk : k ≤ ⌊x⌋ := Int.le_floor.mpr h
  rcases roundHalfEven_cases x with ⟨hr,_⟩ | ⟨hr,_⟩
  · omega
  · omega

theorem roundHalfEven_le (h : x ≤ k) : roundHalfEven x ≤ k := by
  have hf := Int.floor_add_fract x
  rcases roundHalfEven_cases x with ⟨hr,_⟩ | ⟨hr,hhalf⟩
  · rw [hr]
    exact Int.floor_le_iff.mpr (by linarith)
  · -- a fractional part of at least one half keeps `x` strictly above its floor
    have hlt : (⌊x⌋ : ℚ) < k := by linarith
    have hlt' : ⌊x⌋ < k := by exact_mod_cast hlt
    omega

theorem abs_roundHalfEven_sub_le (x : ℚ) : |(roundHalfEven x : ℚ) - x| ≤ 1/2 := by
  have hf := Int.floor_add_fract x
  have h0 := Int.fract_nonneg x
  have h1 := Int.fract_lt_one x
  rw [abs_le]
  rcases roundHalfEven_cases x with ⟨hr,hx⟩ | ⟨hr,hx⟩
  · rw [hr]
    constructor <;> linarith
  · rw [hr]
    push_cast
    constructor <;> linarith

theorem roundHalfEven_lt_iff (hk : k % 2 = 0) : roundHalfEven x < k ↔ x < k - 1/2 := by
  have hf := Int.floor_add_fract x
  constructor
  · intro h
    by_contra hx
    rcases lt_or_ge x k with hlt | hge
    · -- the floor is the odd `k - 1`, so a tie goes up as well
      have hfloor : ⌊x⌋ = k - 1 := by
        rw [Int.floor_eq_iff]
        push_cast
        constructor <;> linarith
      have hcast : (⌊x⌋ : ℚ) = k - 1 := by
        rw [hfloor]
        push_cast
        rfl
      have hfract : 1/2 ≤ Int.fract x := by linarith
      have hodd : ¬ ⌊x⌋ % 2 = 0 := by omega
      have hup : roundHalfEven x = ⌊x⌋ + 1 := by
        unfold roundHalfEven
        rw [if_neg (not_lt.mpr hfract),if_neg hodd,ite_self]
      omega
    · have := le_roundHalfEven hge
      omega
  · intro h
    have hfloor : ⌊x⌋ < k := Int.floor_lt.mpr (by linarith)
    rcases roundHalfEven_cases x with ⟨hr,_⟩ | ⟨hr,hhalf⟩
    · omega
    · have hlt : (⌊x⌋ : ℚ) < ((k - 1 : ℤ) : ℚ) := by
        push_cast
        linarith
      have hlt' : ⌊x⌋ < k - 1 := by exact_mod_cast hlt
      omega

end

/-- A binary format: significands of `precision` bits, the least exponent of a unit in the last
place, and the power of two that values stay below. -/
structure Format where
  precision : ℕ
  (minExponent maxExponent : ℤ)
  precision_pos : 1 ≤ precision
  exponents : minExponent + precision ≤ maxExponent

def binary64 : Format := ⟨53,-1074,1024,by decide,by decide⟩

namespace Format
variable (F : Format) {q : ℚ}

/-- The exponent of the unit in the last place at `q`. -/
def ulpExponent (q : ℚ) : ℤ := max (Int.log 2 |q| - (F.precision - 1)) F.minExponent

def nearest (q : ℚ) : ℚ :=
  roundHalfEven (q / 2 ^ F.ulpExponent q) * 2 ^ F.ulpExponent q

/-- The rounded value, or nothing where it is too large for the format. -/
def round (q : ℚ) : Option ℚ :=
  if |F.nearest q| < 2 ^ F.maxExponent then some (F.nearest q) else none

private theorem zpow_split (k e : ℤ) (h : e ≤ k) : (2 : ℚ) ^ k = ((2 ^ (k - e).toNat : ℤ) : ℚ) * 2 ^ e := by
  have hk : k = ((k - e).toNat : ℤ) + e := by omega
  conv_lhs => rw [hk,zpow_add₀ two_ne_zero,zpow_natCast]
  push_cast
  rfl

section
variable {m : ℤ} {e : ℤ}

private theorem scale_le (h : (m : ℚ) * 2 ^ e ≤ q) : (m : ℚ) ≤ q / 2 ^ e := by
  rw [le_div_iff₀ (by positivity)]
  exact h

private theorem le_scale (h : q ≤ (m : ℚ) * 2 ^ e) : q / 2 ^ e ≤ m := by
  rw [div_le_iff₀ (by positivity)]
  exact h

theorem le_nearest (h : (m : ℚ) * 2 ^ F.ulpExponent q ≤ q) : (m : ℚ) * 2 ^ F.ulpExponent q ≤ F.nearest q := by
  have hm : (m : ℚ) ≤ roundHalfEven (q / 2 ^ F.ulpExponent q) := by
    exact_mod_cast le_roundHalfEven (scale_le h)
  exact mul_le_mul_of_nonneg_right hm (by positivity)

theorem nearest_le (h : q ≤ (m : ℚ) * 2 ^ F.ulpExponent q) : F.nearest q ≤ (m : ℚ) * 2 ^ F.ulpExponent q := by
  have hm : (roundHalfEven (q / 2 ^ F.ulpExponent q) : ℚ) ≤ m := by
    exact_mod_cast roundHalfEven_le (le_scale h)
  exact mul_le_mul_of_nonneg_right hm (by positivity)

theorem abs_nearest_sub_le (q : ℚ) : |F.nearest q - q| ≤ 2 ^ F.ulpExponent q / 2 := by
  have hpos : (0 : ℚ) < 2 ^ F.ulpExponent q := by positivity
  have hq : F.nearest q - q =
      (roundHalfEven (q / 2 ^ F.ulpExponent q) - q / 2 ^ F.ulpExponent q) * 2 ^ F.ulpExponent q := by
    rw [sub_mul,div_mul_cancel₀ _ hpos.ne']
    rfl
  rw [hq,abs_mul,abs_of_pos hpos]
  have := mul_le_mul_of_nonneg_right (abs_roundHalfEven_sub_le (q / 2 ^ F.ulpExponent q)) hpos.le
  linarith

end

theorem nearest_nonneg (h : 0 ≤ q) : 0 ≤ F.nearest q := by
  have := F.le_nearest (q := q) (m := 0) (by simpa using h)
  simpa using this

theorem two_zpow_le_nearest {k : ℤ} (hk : F.minExponent + F.precision ≤ k + 1) (h : 2 ^ k ≤ q) :
    2 ^ k ≤ F.nearest q := by
  have hpos : (0 : ℚ) < 2 ^ k := by positivity
  have hq : 0 < q := hpos.trans_le h
  have hlog : (2 : ℚ) ^ Int.log 2 q ≤ q := Int.zpow_log_le_self Nat.one_lt_two hq
  have hkl : k ≤ Int.log 2 q := (Int.zpow_le_iff_le_log Nat.one_lt_two hq).mp (by exact_mod_cast h)
  have hprec := F.precision_pos
  have he : F.ulpExponent q ≤ Int.log 2 q := by
    unfold ulpExponent
    rw [abs_of_pos hq]
    omega
  have hsplit := zpow_split _ _ he
  have hround := F.le_nearest (q := q) (m := 2 ^ (Int.log 2 q - F.ulpExponent q).toNat) (hsplit ▸ hlog)
  calc (2 : ℚ) ^ k ≤ 2 ^ Int.log 2 q := zpow_le_zpow_right₀ one_le_two hkl
    _ = _ := hsplit
    _ ≤ _ := hround

theorem nearest_le_two_zpow {k : ℤ} (hk : F.minExponent ≤ k) (h0 : 0 < q) (h : q < 2 ^ k) : F.nearest q ≤ 2 ^ k := by
  have hlog : Int.log 2 q < k := (Int.lt_zpow_iff_log_lt Nat.one_lt_two h0).mp (by exact_mod_cast h)
  have he : F.ulpExponent q ≤ k := by
    unfold ulpExponent
    rw [abs_of_pos h0]
    omega
  have hsplit := zpow_split _ _ he
  have hround := F.nearest_le (q := q) (m := 2 ^ (k - F.ulpExponent q).toNat) (hsplit ▸ h.le)
  rw [hsplit]
  exact hround

private theorem fixed_eq {v : ℚ} (h : F.nearest v = v) : ∃ m : ℤ, v = (m : ℚ) * 2 ^ F.ulpExponent v := ⟨_,h.symm⟩

private theorem ulpExponent_mono {v : ℚ} (h0 : q ≠ 0) (h : |q| ≤ |v|) : F.ulpExponent q ≤ F.ulpExponent v := by
  have hlog := Int.log_mono_right (b := 2) (abs_pos.mpr h0) h
  unfold ulpExponent
  omega

/-- Below zero a coarser unit only comes with values beyond the next power of two. -/
private theorem nearest_le_of_coarser {v : ℚ} (hq : q < 0) (hv : v < 0) (he : F.ulpExponent v < F.ulpExponent q) :
    F.nearest q ≤ v := by
  have hprec := F.precision_pos
  have hunit : F.ulpExponent q = Int.log 2 |q| - (F.precision - 1) := by
    unfold ulpExponent at he ⊢
    omega
  have hlog : Int.log 2 |v| + 1 ≤ Int.log 2 |q| := by
    unfold ulpExponent at he
    omega
  have hsplit := zpow_split (Int.log 2 |q|) (F.ulpExponent q) (by omega)
  have hpow : (2 : ℚ) ^ Int.log 2 |q| ≤ |q| := Int.zpow_log_le_self Nat.one_lt_two (abs_pos.mpr hq.ne)
  have hround := F.nearest_le (q := q) (m := -2 ^ (Int.log 2 |q| - F.ulpExponent q).toNat) (by
    rw [Int.cast_neg,neg_mul,← hsplit]
    rw [abs_of_neg hq] at hpow ⊢
    linarith)
  rw [Int.cast_neg,neg_mul,← hsplit] at hround
  have hlt : |v| < (2 : ℚ) ^ (Int.log 2 |v| + 1) := Int.lt_zpow_succ_log_self Nat.one_lt_two |v|
  have hmono : (2 : ℚ) ^ (Int.log 2 |v| + 1) ≤ 2 ^ Int.log 2 |q| := zpow_le_zpow_right₀ one_le_two hlog
  rw [abs_of_neg hv] at hlt hmono
  linarith

/-- Rounding does not cross a value of the format. -/
theorem nearest_le_of_fixed {v : ℚ} (h : q ≤ v) (hv : F.nearest v = v) : F.nearest q ≤ v := by
  obtain ⟨m,hm⟩ := F.fixed_eq hv
  rcases lt_trichotomy q 0 with hneg | rfl | hpos
  · rcases le_or_gt 0 v with hv0 | hv0
    · have hle := F.nearest_le (q := q) (m := 0) (by simpa using hneg.le)
      simp only [Int.cast_zero,zero_mul] at hle
      exact hle.trans hv0
    · have hle : F.ulpExponent v ≤ F.ulpExponent q := by
        refine F.ulpExponent_mono hv0.ne ?_
        rw [abs_of_neg hv0,abs_of_neg hneg]
        linarith
      rcases hle.eq_or_lt with heq | hlt
      · rw [heq] at hm
        rw [hm] at h ⊢
        exact F.nearest_le h
      · exact F.nearest_le_of_coarser hneg hv0 hlt
  · have hle := F.nearest_le (q := 0) (m := 0) (by simp)
    simp only [Int.cast_zero,zero_mul] at hle
    exact hle.trans h
  · -- the unit at `v` is a multiple of the one at `q`
    have he : F.ulpExponent q ≤ F.ulpExponent v := by
      refine F.ulpExponent_mono hpos.ne' ?_
      rw [abs_of_pos hpos,abs_of_pos (hpos.trans_le h)]
      exact h
    have hsplit := zpow_split _ _ he
    have hv' : v = ((m * 2 ^ (F.ulpExponent v - F.ulpExponent q).toNat : ℤ) : ℚ) * 2 ^ F.ulpExponent q := by
      rw [Int.cast_mul,mul_assoc,← hsplit]
      exact hm
    rw [hv'] at h ⊢
    exact F.nearest_le h

theorem nearest_zero : F.nearest 0 = 0 := by
  simp [nearest,roundHalfEven]

theorem round_of_lt {k : ℤ} (hmin : F.minExponent ≤ k) (hmax : k < F.maxExponent) (h0 : 0 ≤ q) (h : q < 2 ^ k) :
    F.round q = some (F.nearest q) := by
  have hk : (2 : ℚ) ^ k < 2 ^ F.maxExponent := zpow_lt_zpow_right₀ one_lt_two hmax
  have hpos : (0 : ℚ) < 2 ^ F.maxExponent := by positivity
  have hlt : |F.nearest q| < 2 ^ F.maxExponent := by
    rw [abs_of_nonneg (F.nearest_nonneg h0)]
    rcases h0.eq_or_lt with rfl | hq
    · rw [nearest_zero]
      exact hpos
    · exact (F.nearest_le_two_zpow hmin hq h).trans_lt hk
  rw [round,if_pos hlt]

theorem abs_nearest_sub_le_of_lt {k : ℤ} (hmin : F.minExponent ≤ k - F.precision) (h0 : 0 < q) (h : q < 2 ^ k) :
    |F.nearest q - q| ≤ 2 ^ (k - F.precision) / 2 := by
  have hlog : Int.log 2 q < k := (Int.lt_zpow_iff_log_lt Nat.one_lt_two h0).mp (by exact_mod_cast h)
  have he : F.ulpExponent q ≤ k - F.precision := by
    unfold ulpExponent
    rw [abs_of_pos h0]
    omega
  have hpow : (2 : ℚ) ^ F.ulpExponent q ≤ 2 ^ (k - F.precision) := zpow_le_zpow_right₀ one_le_two he
  have herr := F.abs_nearest_sub_le q
  linarith

/-- An integer that fits the significand is not crossed from above. -/
theorem natCast_le_nearest {n : ℕ} (hmin : F.minExponent ≤ 0) (hn : n < 2 ^ F.precision) (h : (n : ℚ) ≤ q) :
    (n : ℚ) ≤ F.nearest q := by
  rcases le_or_gt (F.ulpExponent q) 0 with he | he
  · have hsplit := zpow_split 0 _ he
    have hn' : (n : ℚ) = ((n * 2 ^ (0 - F.ulpExponent q).toNat : ℤ) : ℚ) * 2 ^ F.ulpExponent q := by
      rw [Int.cast_mul,mul_assoc,← hsplit]
      simp
    rw [hn'] at h ⊢
    exact F.le_nearest h
  · -- a coarser unit only comes with values beyond every such integer
    have hlog : (F.precision : ℤ) ≤ Int.log 2 |q| := by
      unfold ulpExponent at he
      omega
    have hq : 0 < q := by
      refine lt_of_le_of_ne ((Nat.cast_nonneg n).trans h) ?_
      rintro rfl
      have hprec := F.precision_pos
      simp only [abs_zero,Int.log_zero_right] at hlog
      omega
    rw [abs_of_pos hq] at hlog
    have hpow : (2 : ℚ) ^ (F.precision : ℤ) ≤ q := by
      exact_mod_cast (Int.zpow_le_iff_le_log (R := ℚ) Nat.one_lt_two hq).mpr hlog
    have hround := F.two_zpow_le_nearest (by omega) hpow
    have hn' : (n : ℚ) ≤ 2 ^ (F.precision : ℤ) := by
      exact_mod_cast hn.le
    exact hn'.trans hround

/-- In the topmost binade the last half unit goes over the bound. -/
private theorem nearest_lt_iff_top (hlow : 2 ^ (F.maxExponent - 1) ≤ q) (htop : q < 2 ^ F.maxExponent) :
    F.nearest q < 2 ^ F.maxExponent ↔ q < 2 ^ F.maxExponent - 2 ^ (F.maxExponent - F.precision - 1) := by
  have hprec := F.precision_pos
  have hexp := F.exponents
  have hpos : (0 : ℚ) < 2 ^ (F.maxExponent - 1) := by positivity
  have hq : 0 < q := hpos.trans_le hlow
  have hlog : Int.log 2 q = F.maxExponent - 1 := by
    have h1 := (Int.zpow_le_iff_le_log (R := ℚ) Nat.one_lt_two hq (x := F.maxExponent - 1)).mp
      (by exact_mod_cast hlow)
    have h2 := (Int.lt_zpow_iff_log_lt (R := ℚ) Nat.one_lt_two hq (x := F.maxExponent)).mp
      (by exact_mod_cast htop)
    omega
  have he : F.ulpExponent q = F.maxExponent - F.precision := by
    unfold ulpExponent
    rw [abs_of_pos hq,hlog]
    omega
  have hunit : (0 : ℚ) < 2 ^ (F.maxExponent - F.precision) := by positivity
  have hbound : (2 : ℚ) ^ F.maxExponent = ((2 ^ F.precision : ℤ) : ℚ) * 2 ^ (F.maxExponent - F.precision) := by
    have hsplit := zpow_split F.maxExponent (F.maxExponent - F.precision) (by omega)
    rw [hsplit]
    congr 3
    omega
  have hulp : (2 : ℚ) ^ (F.maxExponent - F.precision - 1) = 1/2 * 2 ^ (F.maxExponent - F.precision) := by
    have hs : F.maxExponent - F.precision = 1 + (F.maxExponent - F.precision - 1) := by omega
    conv_rhs => rw [hs,zpow_one_add₀ two_ne_zero]
    ring
  have heven : (2 ^ F.precision : ℤ) % 2 = 0 := by
    obtain ⟨p,hp⟩ : ∃ p, F.precision = p + 1 := ⟨F.precision - 1,by omega⟩
    rw [hp,pow_succ]
    omega
  unfold nearest
  rw [he,hbound,hulp,mul_lt_mul_iff_left₀ hunit,Int.cast_lt,roundHalfEven_lt_iff heven,
    div_lt_iff₀ hunit,sub_mul]

/-- Values stay in range exactly up to half a unit in the last place below the bound. -/
theorem nearest_lt_iff (h : 0 ≤ q) : F.nearest q < 2 ^ F.maxExponent ↔
    q < 2 ^ F.maxExponent - 2 ^ (F.maxExponent - F.precision - 1) := by
  have hprec := F.precision_pos
  have hexp := F.exponents
  have hhalf : (2 : ℚ) ^ F.maxExponent = 2 * 2 ^ (F.maxExponent - 1) := by
    rw [← zpow_one_add₀ two_ne_zero]
    congr 1
    omega
  have hsmall : (2 : ℚ) ^ (F.maxExponent - F.precision - 1) ≤ 2 ^ (F.maxExponent - 1) :=
    zpow_le_zpow_right₀ one_le_two (by omega)
  have hpos' : (0 : ℚ) < 2 ^ (F.maxExponent - F.precision - 1) := by positivity
  rcases lt_or_ge q (2 ^ (F.maxExponent - 1)) with hlow | hlow
  · -- below the topmost binade nothing is rounded up to the bound
    refine iff_of_true ?_ (by linarith)
    rcases h.eq_or_lt with rfl | hz
    · rw [nearest_zero]
      positivity
    · have hle := F.nearest_le_two_zpow (by omega) hz hlow
      linarith
  · rcases lt_or_ge q (2 ^ F.maxExponent) with htop | htop
    · exact F.nearest_lt_iff_top hlow htop
    · refine iff_of_false ?_ (by linarith)
      exact not_lt.mpr (F.two_zpow_le_nearest (by omega) htop)

theorem round_eq_none_iff (h : 0 ≤ q) : F.round q = none ↔
    2 ^ F.maxExponent - 2 ^ (F.maxExponent - F.precision - 1) ≤ q := by
  unfold round
  rw [abs_of_nonneg (F.nearest_nonneg h),← not_lt (a := q),← F.nearest_lt_iff h]
  split_ifs with hlt
  · simp [hlt]
  · simp [hlt]

end Format
end FloatingPoint

/-! Values that a format has, what is exact among them, and sums with a running compensation: a sum of values that are
not negative is not negative. -/
namespace FloatingPoint

theorem roundHalfEven_intCast (k : ℤ) : roundHalfEven (k : ℚ) = k :=
  le_antisymm (roundHalfEven_le le_rfl) (le_roundHalfEven le_rfl)

theorem roundHalfEven_neg (x : ℚ) : roundHalfEven (-x) = -roundHalfEven x := by
  by_cases hzero : Int.fract x = 0
  · have hx : x = (⌊x⌋ : ℤ) := by
      have h := Int.floor_add_fract x
      rw [hzero,add_zero] at h
      exact h.symm
    rw [hx,← Int.cast_neg,roundHalfEven_intCast,roundHalfEven_intCast]
  · have hfract : Int.fract (-x) = 1 - Int.fract x := Int.fract_neg hzero
    have hfloor : ⌊-x⌋ = -⌊x⌋ - 1 := by
      have h := Int.floor_add_fract x
      have h' := Int.floor_add_fract (-x)
      have hsum : ((⌊-x⌋ : ℤ) : ℚ) = ((-⌊x⌋ - 1 : ℤ) : ℚ) := by
        push_cast
        linarith
      exact_mod_cast hsum
    unfold roundHalfEven
    split_ifs <;> first | omega | linarith

namespace Format
variable {F : Format} {q v : ℚ}

variable (F) in
/-- A value of the format, however large. -/
def Fixed (v : ℚ) : Prop := F.nearest v = v

theorem ulpExponent_neg (q : ℚ) : F.ulpExponent (-q) = F.ulpExponent q := by
  unfold ulpExponent
  rw [abs_neg]

theorem nearest_neg (q : ℚ) : F.nearest (-q) = -F.nearest q := by
  unfold nearest
  rw [ulpExponent_neg,neg_div,roundHalfEven_neg]
  push_cast
  ring

theorem Fixed.neg (h : F.Fixed v) : F.Fixed (-v) := by
  unfold Fixed
  rw [nearest_neg,h]

theorem fixed_zero : F.Fixed 0 := F.nearest_zero

theorem two_zpow_split {k e : ℤ} (h : e ≤ k) : (2 : ℚ) ^ k = ((2 ^ (k - e).toNat : ℤ) : ℚ) * 2 ^ e := by
  have hk : k = ((k - e).toNat : ℤ) + e := by omega
  conv_lhs => rw [hk,zpow_add₀ two_ne_zero,zpow_natCast]
  push_cast
  rfl

theorem fixed_of_multiple {m e : ℤ} (hq : q = m * 2 ^ e) (he : F.ulpExponent q ≤ e) : F.Fixed q := by
  have hsplit := two_zpow_split he
  have hunit : q / 2 ^ F.ulpExponent q = ((m * 2 ^ (e - F.ulpExponent q).toNat : ℤ) : ℚ) := by
    have hpos : (0 : ℚ) < 2 ^ F.ulpExponent q := by positivity
    rw [div_eq_iff hpos.ne']
    push_cast at hsplit ⊢
    rw [mul_assoc,← hsplit]
    exact hq
  unfold Fixed nearest
  rw [hunit,roundHalfEven_intCast,← hunit,div_mul_cancel₀ _ (by positivity)]

theorem Fixed.multiple (h : F.Fixed v) : ∃ m : ℤ, v = m * 2 ^ F.ulpExponent v := ⟨_,h.symm⟩

theorem ulpExponent_le {k : ℤ} (hmin : F.minExponent ≤ k) (h0 : q ≠ 0) (h : |q| < 2 ^ (k + F.precision)) :
    F.ulpExponent q ≤ k := by
  have hlog : Int.log 2 |q| < k + F.precision :=
    (Int.lt_zpow_iff_log_lt Nat.one_lt_two (abs_pos.mpr h0)).mp (by exact_mod_cast h)
  unfold ulpExponent
  omega

theorem minExponent_le_ulpExponent (q : ℚ) : F.minExponent ≤ F.ulpExponent q := le_max_right _ _

theorem abs_lt_ulpExponent (q : ℚ) : |q| < 2 ^ (F.ulpExponent q + F.precision) := by
  have hlt : |q| < (2 : ℚ) ^ (Int.log 2 |q| + 1) := Int.lt_zpow_succ_log_self Nat.one_lt_two |q|
  have hle : Int.log 2 |q| + 1 ≤ F.ulpExponent q + F.precision := by
    unfold ulpExponent
    omega
  exact hlt.trans_le (zpow_le_zpow_right₀ one_le_two hle)

theorem ulpExponent_mono_abs (h0 : q ≠ 0) (h : |q| ≤ |v|) : F.ulpExponent q ≤ F.ulpExponent v :=
  ulpExponent_le (minExponent_le_ulpExponent v) h0 (h.trans_lt (abs_lt_ulpExponent v))

theorem le_nearest_of_fixed (h : v ≤ q) (hv : F.Fixed v) : v ≤ F.nearest q := by
  have hle := F.nearest_le_of_fixed (neg_le_neg h) hv.neg
  rw [nearest_neg] at hle
  exact neg_le_neg_iff.mp hle

/-- What is rounded is a value of the format. -/
theorem fixed_nearest (q : ℚ) : F.Fixed (F.nearest q) := by
  by_cases h0 : F.nearest q = 0
  · rw [h0]
    exact fixed_zero
  · have hunit : (0 : ℚ) < 2 ^ F.ulpExponent q := by positivity
    have hbound : |q / 2 ^ F.ulpExponent q| ≤ ((2 ^ F.precision : ℤ) : ℚ) := by
      rw [abs_div,abs_of_pos hunit,div_le_iff₀ hunit]
      have hlt := (F.abs_lt_ulpExponent q).le
      rw [add_comm,zpow_add₀ two_ne_zero,zpow_natCast] at hlt
      exact_mod_cast hlt
    obtain ⟨hlow,hhigh⟩ := abs_le.mp hbound
    have hk : |roundHalfEven (q / 2 ^ F.ulpExponent q)| ≤ 2 ^ F.precision := by
      rw [abs_le]
      refine ⟨le_roundHalfEven ?_,roundHalfEven_le hhigh⟩
      exact hlow
    have hvalue : |F.nearest q| ≤ 2 ^ (F.ulpExponent q + F.precision) := by
      unfold nearest
      rw [abs_mul,abs_of_pos hunit,add_comm,zpow_add₀ two_ne_zero,zpow_natCast]
      exact mul_le_mul_of_nonneg_right (by exact_mod_cast hk) hunit.le
    rcases hvalue.lt_or_eq with hlt | heq
    · exact fixed_of_multiple rfl (ulpExponent_le (minExponent_le_ulpExponent q) h0 hlt)
    · -- the power of two above the binade is a multiple of the next unit
      obtain ⟨p,hp⟩ : ∃ p, F.precision = p + 1 := ⟨F.precision - 1,by have := F.precision_pos; omega⟩
      have hpower : |F.nearest q| = ((2 ^ p : ℤ) : ℚ) * 2 ^ (F.ulpExponent q + 1) := by
        rw [heq,hp]
        push_cast
        rw [← zpow_natCast,← zpow_add₀ two_ne_zero]
        congr 1
        omega
      have hunit' : F.ulpExponent |F.nearest q| ≤ F.ulpExponent q + 1 := by
        apply ulpExponent_le
        · have := F.minExponent_le_ulpExponent q
          omega
        · exact abs_ne_zero.mpr h0
        · rw [abs_abs,heq]
          exact zpow_lt_zpow_right₀ one_lt_two (by omega)
      have hfixed : F.Fixed |F.nearest q| := fixed_of_multiple hpower hunit'
      rcases abs_choice (F.nearest q) with habs | habs
      · rwa [habs] at hfixed
      · rw [habs] at hfixed
        simpa using hfixed.neg

theorem Fixed.double (h : F.Fixed v) : F.Fixed (2 * v) := by
  obtain ⟨m,hm⟩ := h.multiple
  by_cases h0 : v = 0
  · rw [h0,mul_zero]
    exact fixed_zero
  · refine fixed_of_multiple (m := m) (e := F.ulpExponent v + 1) ?_ ?_
    · rw [zpow_add_one₀ two_ne_zero]
      linarith
    · apply ulpExponent_le
      · have := F.minExponent_le_ulpExponent v
        omega
      · exact mul_ne_zero two_ne_zero h0
      · have hlt := F.abs_lt_ulpExponent v
        have hexp : F.ulpExponent v + 1 + F.precision = F.ulpExponent v + F.precision + 1 := by omega
        rw [abs_mul,abs_two,hexp,zpow_add_one₀ two_ne_zero]
        linarith

/-- The difference of values that are within a factor of two is exact. -/
theorem Fixed.sub {a b : ℚ} (ha : F.Fixed a) (hb : F.Fixed b) (h0 : 0 ≤ a) (hle : a ≤ b) (hdouble : b ≤ 2 * a) :
    F.Fixed (a - b) := by
  obtain ⟨m,hm⟩ := ha.multiple
  obtain ⟨n,hn⟩ := hb.multiple
  by_cases hzero : a - b = 0
  · rw [hzero]
    exact fixed_zero
  · have hpos : a ≠ 0 := by
      intro ha0
      apply hzero
      linarith
    have hunits : F.ulpExponent a ≤ F.ulpExponent b := by
      apply ulpExponent_mono_abs hpos
      rw [abs_of_nonneg h0,abs_of_nonneg (h0.trans hle)]
      exact hle
    have hsplit := two_zpow_split hunits
    refine fixed_of_multiple (m := m - n * 2 ^ (F.ulpExponent b - F.ulpExponent a).toNat) (e := F.ulpExponent a) ?_ ?_
    · rw [hsplit] at hn
      push_cast at hn ⊢
      rw [sub_mul,mul_assoc,← hn,← hm]
    · apply ulpExponent_mono_abs hzero
      rw [abs_of_nonneg h0,abs_le]
      constructor <;> linarith

section

/-- A sum so far and its compensation; nothing stands for what is not finite. -/
structure Running where
  (total compensation : Option ℚ)

/-- What the addition of the smaller to the larger has lost, the sum being `total`. -/
def lost (F : Format) (larger smaller total : ℚ) : Option ℚ :=
  (F.round (larger - total)).bind fun d => F.round (d + smaller)

def Running.add (F : Format) (r : Running) (x : ℚ) : Running :=
  match r.total with
  | none => ⟨none,none⟩
  | some t => match F.round (t + x) with
    | none => ⟨none,none⟩
    | some total => ⟨some total,r.compensation.bind fun c =>
        (if |x| ≤ |t| then lost F t x total else lost F x t total).bind fun e => F.round (c + e)⟩

/-- A compensation that is not finite is left out. -/
def Running.result (F : Format) (r : Running) : Option ℚ :=
  r.total.bind fun t => match r.compensation with
    | none => some t
    | some c => if c = 0 then some t else F.round (t + c)

/-- The sum with the compensation of Neumaier. -/
def sum (F : Format) : List ℚ → Option ℚ
  | [] => some 0
  | x :: rest => (rest.foldl (Running.add F) ⟨some x,some 0⟩).result F

theorem round_some {r : ℚ} (h : F.round q = some r) : r = F.nearest q ∧ |r| < 2 ^ F.maxExponent := by
  unfold round at h
  split_ifs at h with hlt
  cases h
  exact ⟨rfl,hlt⟩

variable (F) in
/-- A finite value of the format that is not negative. -/
structure Amount (v : ℚ) : Prop where
  nonneg : 0 ≤ v
  fixed : F.Fixed v
  finite : v < 2 ^ F.maxExponent

variable (F) in
/-- The compensation takes away no more than there is. -/
structure Covered (r : Running) : Prop where
  amount : ∀ t ∈ r.total, F.Amount t
  above : ∀ t ∈ r.total, ∀ c ∈ r.compensation, -t ≤ c

theorem amount_round {r : ℚ} (h : F.round q = some r) (h0 : 0 ≤ q) : F.Amount r := by
  obtain ⟨rfl,hlt⟩ := round_some h
  exact ⟨F.nearest_nonneg h0,F.fixed_nearest q,(le_abs_self _).trans_lt hlt⟩

theorem le_lost {larger smaller total e : ℚ} (hlarger : F.Amount larger) (hsmaller : F.Amount smaller)
    (hle : smaller ≤ larger) (htotal : F.round (larger + smaller) = some total)
    (h : lost F larger smaller total = some e) : larger - total ≤ e := by
  obtain ⟨rfl,-⟩ := round_some htotal
  have hsmall := hsmaller.nonneg
  have hlow : larger ≤ F.nearest (larger + smaller) := le_nearest_of_fixed (by linarith) hlarger.fixed
  have hhigh : F.nearest (larger + smaller) ≤ 2 * larger := F.nearest_le_of_fixed (by linarith) hlarger.fixed.double
  have hexact : F.Fixed (larger - F.nearest (larger + smaller)) :=
    hlarger.fixed.sub (F.fixed_nearest _) hlarger.nonneg hlow hhigh
  obtain ⟨d,hd,he⟩ := Option.bind_eq_some_iff.mp h
  obtain ⟨rfl,-⟩ := round_some hd
  obtain ⟨rfl,-⟩ := round_some he
  rw [hexact]
  exact le_nearest_of_fixed (by linarith) hexact

theorem Covered.add {r : Running} {x : ℚ} (h : F.Covered r) (hx : F.Amount x) : F.Covered (r.add F x) := by
  unfold Running.add
  cases ht : r.total with
  | none => exact ⟨by simp,by simp⟩
  | some t =>
    have hamount := h.amount t ht
    have hx0 := hx.nonneg
    have ht0 := hamount.nonneg
    dsimp only
    cases htotal : F.round (t + x) with
    | none => exact ⟨by simp,by simp⟩
    | some total =>
      have htotal' := amount_round htotal (by linarith)
      refine ⟨?_,?_⟩
      · intro v hv
        cases hv
        exact htotal'
      · intro v hv c' hc'
        cases hv
        obtain ⟨c,hc,hc'⟩ := Option.bind_eq_some_iff.mp hc'
        obtain ⟨e,he,hround⟩ := Option.bind_eq_some_iff.mp hc'
        obtain ⟨rfl,-⟩ := round_some hround
        have hcovered := h.above t ht c hc
        apply le_nearest_of_fixed _ htotal'.fixed.neg
        rw [abs_of_nonneg hx0,abs_of_nonneg ht0] at he
        split_ifs at he with hle
        · have hlost := le_lost hamount hx hle htotal he
          linarith
        · rw [add_comm] at htotal
          have hlost := le_lost hx hamount (le_of_not_ge hle) htotal he
          linarith

theorem Covered.result {r : Running} {s : ℚ} (h : F.Covered r) (hs : r.result F = some s) : F.Amount s := by
  obtain ⟨t,ht,hresult⟩ := Option.bind_eq_some_iff.mp hs
  have hamount := h.amount t ht
  cases hc : r.compensation with
  | none =>
    rw [hc] at hresult
    cases hresult
    exact hamount
  | some c =>
    have habove := h.above t ht c hc
    simp only [hc] at hresult
    split_ifs at hresult with hzero
    · cases hresult
      exact hamount
    · exact amount_round hresult (by linarith)

theorem amount_sum {values : List ℚ} {s : ℚ} (h : ∀ v ∈ values, F.Amount v) (hs : F.sum values = some s) : F.Amount s := by
  have hzero : F.Amount 0 := ⟨le_rfl,fixed_zero,by positivity⟩
  cases values with
  | nil =>
    cases hs
    exact hzero
  | cons x rest =>
    obtain ⟨hx,hrest⟩ := List.forall_mem_cons.mp h
    have hstart : F.Covered ⟨some x,some 0⟩ := by
      refine ⟨?_,?_⟩
      · intro t ht
        cases ht
        exact hx
      · intro t ht c hc
        cases ht
        cases hc
        linarith [hx.nonneg]
    have hall : ∀ (l : List ℚ) (r : Running), (∀ v ∈ l, F.Amount v) → F.Covered r → F.Covered (l.foldl (Running.add F) r) := by
      intro l
      induction l with
      | nil => exact fun r _ hr => hr
      | cons y l ih =>
        intro r hl hr
        obtain ⟨hy,hl⟩ := List.forall_mem_cons.mp hl
        exact ih _ hl (hr.add hy)
    exact (hall rest _ hrest hstart).result hs

theorem exists_share {s : ℚ} {n : ℕ} (h : F.Amount s) (hn : 1 ≤ n) : ∃ r, F.round (s / n) = some r ∧ F.Amount r := by
  have h0 := h.nonneg
  have hcast : (1 : ℚ) ≤ n := by exact_mod_cast hn
  have hpos : (0 : ℚ) ≤ s / n := by positivity
  have hle : s / n ≤ s := div_le_self h0 hcast
  have hround : F.round (s / n) = some (F.nearest (s / n)) := by
    unfold round
    rw [if_pos]
    rw [abs_of_nonneg (F.nearest_nonneg hpos)]
    exact (F.nearest_le_of_fixed hle h.fixed).trans_lt h.finite
  exact ⟨_,hround,amount_round hround hpos⟩

end

end Format
end FloatingPoint
