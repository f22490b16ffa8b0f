import Mathlib.Algebra.Group.Nat.Defs
import Mathlib.Algebra.Order.Monoid.NatCast
import Mathlib.Data.List.Basic

/-! Decimal texts of a fixed width: their order is that of the numbers, whatever follows. -/
namespace DigitText

/-- The last digits of a number, so many. -/
def digits : ℕ → ℕ → List Char
  | 0, _ => []
  | w + 1, n => digits w (n / 10) ++ [Nat.digitChar (n % 10)]

theorem length_digits (w n : ℕ) : (digits w n).length = w := by
  induction w generalizing n with
  | zero => rfl
  | succ w ih => rw [digits,List.length_append,ih,List.length_singleton]

theorem digits_zero (w : ℕ) : digits w 0 = List.replicate w '0' := by
  induction w with
  | zero => rfl
  | succ w ih =>
    rw [digits,Nat.zero_div,ih,List.replicate_succ']
    rfl

theorem leftpad_toDigits {w n : ℕ} (h : n < 10 ^ (w + 1)) :
    (Nat.toDigits 10 n).leftpad (w + 1) '0' = digits (w + 1) n := by
  induction w generalizing n with
  | zero =>
    have hsmall : n < 10 := by simpa using h
    rw [Nat.toDigits_of_lt_base hsmall,digits,Nat.mod_eq_of_lt hsmall]
    rfl
  | succ w ih =>
    by_cases hsmall : n < 10
    · rw [Nat.toDigits_of_lt_base hsmall,digits,Nat.mod_eq_of_lt hsmall,Nat.div_eq_of_lt hsmall,digits_zero]
      rfl
    · have hquot : n / 10 < 10 ^ (w + 1) := by
        omega
      rw [Nat.toDigits_of_base_le (by decide) (by omega),digits,← ih hquot]
      unfold List.leftpad
      rw [List.length_append,List.length_singleton,Nat.add_sub_add_right,List.append_assoc]

theorem digitChar_lt : ∀ b < 10, ∀ a < b, Nat.digitChar a < Nat.digitChar b := by decide

theorem digits_append_lt {w a b : ℕ} (h : a < b) (hb : b < 10 ^ w) (r r' : List Char) :
    digits w a ++ r < digits w b ++ r' := by
  induction w generalizing a b r r' with
  | zero =>
    omega
  | succ w ih =>
    rw [digits,digits,List.append_assoc,List.append_assoc]
    rcases Nat.lt_or_ge (a / 10) (b / 10) with hlt | hge
    · apply ih hlt
      omega
    · have hsame : a / 10 = b / 10 := by omega
      rw [hsame]
      apply List.append_left_lt
      exact List.cons_lt_cons_iff.mpr (Or.inl (digitChar_lt _ (by omega) _ (by omega)))

end DigitText

/-! Texts joined by a mark: those of one length are known by the whole, and what else a joined text can be of. -/
namespace JoinedText
variable {α : Type}

theorem intercalate_cons_cons (c : α) (text next : List α) (rest : List (List α)) :
    List.intercalate [c] (text :: next :: rest) = text ++ c :: List.intercalate [c] (next :: rest) := by
  simp [List.intercalate]

theorem intercalate_inj {n : ℕ} {c : α} {l l' : List (List α)} (hl : ∀ text ∈ l, text.length = n + 1)
    (hl' : ∀ text ∈ l', text.length = n + 1) (h : List.intercalate [c] l = List.intercalate [c] l') : l = l' := by
  have hlong : ∀ (text : List α) (rest : List (List α)), n + 1 = text.length →
      n + 1 ≤ (List.intercalate [c] (text :: rest)).length := by
    intro text rest htext
    cases rest with
    | nil => simp [List.intercalate,htext]
    | cons next rest =>
      rw [intercalate_cons_cons,List.length_append]
      omega
  induction l generalizing l' with
  | nil =>
    cases l' with
    | nil => rfl
    | cons text' rest' =>
      have hlength := hlong text' rest' (hl' text' List.mem_cons_self).symm
      rw [← h] at hlength
      simp [List.intercalate] at hlength
  | cons text rest ih =>
    have htext := hl text List.mem_cons_self
    cases l' with
    | nil =>
      have hlength := hlong text rest htext.symm
      rw [h] at hlength
      simp [List.intercalate] at hlength
    | cons text' rest' =>
      have htext' := hl' text' List.mem_cons_self
      cases rest with
      | nil =>
        cases rest' with
        | nil => simpa [List.intercalate] using h
        | cons next' rest' =>
          have hlength := congrArg List.length h
          rw [intercalate_cons_cons,List.length_append,List.length_cons,htext'] at hlength
          simp [List.intercalate,htext] at hlength
      | cons next rest =>
        cases rest' with
        | nil =>
          have hlength := congrArg List.length h
          rw [intercalate_cons_cons,List.length_append,List.length_cons,htext] at hlength
          simp [List.intercalate,htext'] at hlength
        | cons next' rest' =>
          obtain ⟨hsame,hrest⟩ := List.append_inj h (htext.trans htext'.symm)
          rw [hsame,ih (fun t ht => hl t (List.mem_cons_of_mem text ht))
            (fun t ht => hl' t (List.mem_cons_of_mem text' ht)) (List.cons.inj hrest).2]

theorem joined_cases {c : α} {a b a' b' : List α} (h : a ++ c :: b = a' ++ c :: b') :
    a = a' ∧ b = b' ∨ (∃ w, a' = a ++ c :: w ∧ b = w ++ c :: b') ∨ ∃ w, a = a' ++ c :: w ∧ b' = w ++ c :: b := by
  rcases List.append_eq_append_iff.mp h with ⟨w,ha,hb⟩ | ⟨w,ha,hb⟩
  · cases w with
    | nil => exact .inl ⟨by simp [ha],(List.cons.inj hb).2⟩
    | cons d w =>
      obtain ⟨rfl,hrest⟩ := List.cons.inj hb
      exact .inr (.inl ⟨w,ha,hrest⟩)
  · cases w with
    | nil => exact .inl ⟨by simp [ha],(List.cons.inj hb).2.symm⟩
    | cons d w =>
      obtain ⟨rfl,hrest⟩ := List.cons.inj hb
      exact .inr (.inr ⟨w,ha,hrest⟩)

end JoinedText
