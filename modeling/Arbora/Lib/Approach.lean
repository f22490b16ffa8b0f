import Mathlib.Data.Rat.Floor
import Mathlib.Tactic.Positivity

/-! Integers that approach a target by bounded steps, one size upwards and one downwards. -/
namespace Approach

/-- One step from `x` towards the target, never past it. -/
def toward (up down target x : ℤ) : ℤ := if x < target then min (x + up) target else max (x - down) target

/-- The size of the steps taken from `x`. -/
def stride (up down target x : ℤ) : ℤ := if x < target then up else down

variable {up down target x : ℤ}

theorem toward_of_le (hup : 0 < up) (hdown : 0 < down) (hx : x ≤ target) :
    x ≤ toward up down target x ∧ toward up down target x ≤ target := by
  unfold toward
  split_ifs
  · omega
  · omega

theorem toward_of_ge (hdown : 0 < down) (hx : target ≤ x) :
    toward up down target x ≤ x ∧ target ≤ toward up down target x := by
  unfold toward
  split_ifs
  · omega
  · omega

theorem iterate_up (hup : 0 < up) (hx : x ≤ target) (hdown : 0 < down) (n : ℕ) :
    (toward up down target)^[n] x = min (x + n * up) target := by
  induction n with
  | zero => simp [hx]
  | succ n ih =>
    rw [Function.iterate_succ_apply',ih]
    have hnext : x + (n + 1 : ℕ) * up = x + n * up + up := by push_cast; ring
    unfold toward
    split_ifs with h
    · omega
    · omega

theorem iterate_down (hdown : 0 < down) (hx : target ≤ x) (n : ℕ) :
    (toward up down target)^[n] x = max (x - n * down) target := by
  induction n with
  | zero => simp [hx]
  | succ n ih =>
    rw [Function.iterate_succ_apply',ih]
    have hnext : x - (n + 1 : ℕ) * down = x - n * down - down := by push_cast; ring
    unfold toward
    split_ifs with h
    · omega
    · omega

theorem iterate_eq_target_iff (hup : 0 < up) (hdown : 0 < down) (n : ℕ) : (toward up down target)^[n] x = target ↔
      ⌈(|target - x| : ℚ) / stride up down target x⌉₊ ≤ n := by
  unfold stride
  rw [Nat.ceil_le]
  split_ifs with hx
  · have hcast : (0 : ℚ) < up := by exact_mod_cast hup
    have hpos : (0 : ℚ) ≤ target - x := by
      have : (x : ℚ) < target := by exact_mod_cast hx
      linarith
    rw [iterate_up hup hx.le hdown,div_le_iff₀ hcast,abs_of_nonneg hpos,min_eq_right_iff]
    constructor
    · intro h
      have : (target : ℚ) ≤ x + n * up := by exact_mod_cast h
      linarith
    · intro h
      have : (target : ℚ) ≤ x + n * up := by linarith
      exact_mod_cast this
  · have hle : target ≤ x := not_lt.mp hx
    have hcast : (0 : ℚ) < down := by exact_mod_cast hdown
    have hneg : (target : ℚ) - x ≤ 0 := by
      have : (target : ℚ) ≤ x := by exact_mod_cast hle
      linarith
    rw [iterate_down hdown hle,div_le_iff₀ hcast,abs_of_nonpos hneg,max_eq_right_iff]
    constructor
    · intro h
      have : (x : ℚ) - n * down ≤ target := by exact_mod_cast h
      linarith
    · intro h
      have : (x : ℚ) - n * down ≤ target := by linarith
      exact_mod_cast this

end Approach
