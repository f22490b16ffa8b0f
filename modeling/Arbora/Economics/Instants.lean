import Arbora.Economics.Models
import Arbora.Lib.Texts
import Mathlib.Data.Int.SuccPred
import Mathlib.Order.SuccPred.IntervalSucc

/-! The texts of instants are in the order of the instants, whatever follows them. -/
namespace Arbora.Economics
open Arbora.Scaling (supportedFrom supportedUntil)
open Arbora.Placement (Instant civil padded isoformat)
open DigitText (digits leftpad_toDigits digits_append_lt)

def commonDays (d : ℤ) : ℤ := d - d / 1460 + d / 36524 - d / 146096
def yearStart (y : ℤ) : ℤ := 365 * y + y / 4 - y / 100

variable {w : ℕ} {d n : ℤ} {zone : String} {r r' : List Char}

theorem commonDays_mono {d' : ℤ} (h : d ≤ d') : commonDays d ≤ commonDays d' := by
  unfold commonDays
  omega

theorem yearStart_common : ∀ y : Fin 400, 365 * (y : ℤ) ≤ commonDays (yearStart y) ∧
    ((y : ℤ) ≠ 0 → commonDays (yearStart y - 1) < 365 * (y : ℤ)) := by decide +kernel

theorem yearOfEra_spec (h0 : 0 ≤ d) (h1 : d < 146097) :
    0 ≤ commonDays d / 365 ∧ commonDays d / 365 < 400 ∧ yearStart (commonDays d / 365) ≤ d ∧
      (commonDays d / 365 < 399 → d < yearStart (commonDays d / 365 + 1)) := by
  have hnonneg : 0 ≤ commonDays d := commonDays_mono h0
  have hbound : commonDays d ≤ commonDays 146096 := commonDays_mono (by omega)
  have hvalue : commonDays 146096 = 145999 := by decide
  obtain ⟨y,hy⟩ : ∃ y : ℤ, y = commonDays d / 365 := ⟨_,rfl⟩
  have hrange : 0 ≤ y ∧ y < 400 := by omega
  rw [← hy]
  refine ⟨hrange.1,hrange.2,?_,?_⟩
  · by_contra hlt
    have hbefore := (yearStart_common ⟨y.toNat,by omega⟩).2
    have hmono : commonDays d ≤ commonDays (yearStart y - 1) := commonDays_mono (by omega)
    have hcast : ((y.toNat : ℕ) : ℤ) = y := by omega
    simp only [hcast] at hbefore
    by_cases hzero : y = 0
    · rw [hzero] at hlt
      exact hlt h0
    · have := hbefore hzero
      omega
  · intro hlast
    by_contra hge
    have hafter := (yearStart_common ⟨(y + 1).toNat,by omega⟩).1
    have hmono : commonDays (yearStart (y + 1)) ≤ commonDays d := commonDays_mono (by omega)
    have hcast : (((y + 1).toNat : ℕ) : ℤ) = y + 1 := by omega
    simp only [hcast] at hafter
    omega

/-- The same over all years. -/
def marchStart (y : ℤ) : ℤ := 365 * y + y / 4 - y / 100 + y / 400

theorem civil_spec (day : ℤ) : ∃ y m d : ℤ,
    civil day = (y + (if m < 10 then 0 else 1),if m < 10 then m + 3 else m - 9,d) ∧ 0 ≤ m ∧ m ≤ 11 ∧ 1 ≤ d ∧ d ≤ 31 ∧
      day + 719468 = marchStart y + (153 * m + 2) / 5 + d - 1 ∧ (5 * (day + 719468 - marchStart y) + 2) / 153 = m ∧
      day + 719468 < marchStart (y + 1) := by
  obtain ⟨e,he⟩ : ∃ e : ℤ, e = (day + 719468) % 146097 := ⟨_,rfl⟩
  obtain ⟨y,hy⟩ : ∃ y : ℤ, y = commonDays e / 365 := ⟨_,rfl⟩
  obtain ⟨h0,h400,hstart,hnext⟩ := yearOfEra_spec (d := e) (by omega) (by omega)
  rw [← hy] at h0 h400 hstart hnext
  obtain ⟨era,hquot⟩ : ∃ era : ℤ, era = (day + 719468) / 146097 := ⟨_,rfl⟩
  have hyears : marchStart (y + era * 400) = yearStart y + 146097 * era := by
    unfold marchStart yearStart
    omega
  have hlength : e - yearStart y ≤ 365 := by
    by_cases hlast : y < 399
    · have := hnext hlast
      unfold yearStart at *
      omega
    · unfold yearStart
      omega
  refine ⟨y + era * 400,(5 * (e - yearStart y) + 2) / 153,
    e - yearStart y - (153 * ((5 * (e - yearStart y) + 2) / 153) + 2) / 5 + 1,?_,?_⟩
  · have hcivil : civil day = (commonDays e / 365 + era * 400 +
        (if (if (5 * (e - yearStart (commonDays e / 365)) + 2) / 153 < 10
          then (5 * (e - yearStart (commonDays e / 365)) + 2) / 153 + 3
          else (5 * (e - yearStart (commonDays e / 365)) + 2) / 153 - 9) ≤ 2 then 1 else 0),
        if (5 * (e - yearStart (commonDays e / 365)) + 2) / 153 < 10
          then (5 * (e - yearStart (commonDays e / 365)) + 2) / 153 + 3
          else (5 * (e - yearStart (commonDays e / 365)) + 2) / 153 - 9,
        e - yearStart (commonDays e / 365) -
          (153 * ((5 * (e - yearStart (commonDays e / 365)) + 2) / 153) + 2) / 5 + 1) := by
      rw [he,hquot]
      rfl
    rw [hcivil,← hy]
    split_ifs <;> first | rfl | omega
  · have hnextStart : y < 399 ∧ marchStart (y + era * 400 + 1) = yearStart (y + 1) + 146097 * era ∨
        y = 399 ∧ marchStart (y + era * 400 + 1) = 146097 * (era + 1) := by
      unfold marchStart yearStart
      omega
    all_goals omega

/-- Dates compare by year, month and day. -/
def Before (a b : ℤ × ℤ × ℤ) : Prop :=
  a.1 < b.1 ∨ a.1 = b.1 ∧ (a.2.1 < b.2.1 ∨ a.2.1 = b.2.1 ∧ a.2.2 < b.2.2)

theorem marchStart_mono {y y' : ℤ} (h : y ≤ y') : marchStart y ≤ marchStart y' := by
  unfold marchStart
  omega

theorem civil_before {day day' : ℤ} (h : day < day') : Before (civil day) (civil day') := by
  obtain ⟨y,m,d,hcivil,hm0,hm11,hd1,hd31,hday,hmonth,hnext⟩ := civil_spec day
  obtain ⟨y',m',d',hcivil',hm0',hm11',hd1',hd31',hday',hmonth',hnext'⟩ := civil_spec day'
  rw [hcivil,hcivil']
  unfold Before
  have hyear : y ≤ y' := by
    by_contra hlt
    have := @marchStart_mono (y' + 1) y (by omega)
    omega
  have hmonths : y = y' → m ≤ m' := by
    rintro rfl
    omega
  have hdays : y = y' → m = m' → d < d' := by
    rintro rfl rfl
    omega
  dsimp only
  split_ifs <;> omega

theorem padded_eq (h0 : 0 ≤ n) (h : n < 10 ^ (w + 1)) : padded (w + 1) n = digits (w + 1) n.toNat := by
  apply leftpad_toDigits
  have hcast : ((10 ^ (w + 1) : ℕ) : ℤ) = 10 ^ (w + 1) := by push_cast; rfl
  omega

theorem length_padded (h0 : 0 ≤ n) (h : n < 10 ^ (w + 1)) : (padded (w + 1) n).length = w + 1 := by
  rw [padded_eq h0 h,DigitText.length_digits]

theorem field_lt {a b : ℤ} (h0 : 0 ≤ a) (hb : b < 10 ^ (w + 1))
    (h : a < b ∨ a = b ∧ r < r') : padded (w + 1) a ++ r < padded (w + 1) b ++ r' := by
  rcases h with hlt | ⟨rfl,hr⟩
  · have hcast : ((10 ^ (w + 1) : ℕ) : ℤ) = 10 ^ (w + 1) := by push_cast; rfl
    rw [padded_eq h0 (by omega),padded_eq (by omega) hb]
    exact digits_append_lt (by omega) (by omega) r r'
  · exact List.append_left_lt hr

theorem separated_lt {c : Char} (h : r < r') : c :: r < c :: r' :=
  List.cons_lt_cons_iff.mpr (Or.inr ⟨rfl,h⟩)

/-- Date and time of a second. -/
def stamp (second : ℤ) : List Char :=
  padded 4 (civil (second / 86400)).1 ++ '-' :: padded 2 (civil (second / 86400)).2.1 ++
    '-' :: padded 2 (civil (second / 86400)).2.2 ++ 'T' :: padded 2 (second / 3600 % 24) ++
    ':' :: padded 2 (second / 60 % 60) ++ ':' :: padded 2 (second % 60)

def fraction (micros : ℤ) : List Char := if micros = 0 then [] else '.' :: padded 6 micros

theorem toList_isoformat (zone : String) (t : Instant) :
    (isoformat zone t).toList = stamp (t.1 / 1000000) ++ (fraction (t.1 % 1000000) ++ zone.toList) := by
  rw [isoformat_eq,timeText,String.toList_ofList,← List.append_assoc]
  rfl

def Supported (second : ℤ) : Prop := supportedFrom ≤ second * 1000000 ∧ second * 1000000 < supportedUntil

theorem supported_second (t : Instant) : Supported (t.1 / 1000000) := by
  have h := t.2
  unfold Supported
  unfold supportedFrom supportedUntil at *
  omega

theorem civil_year {second : ℤ} (h : Supported second) :
    2000 ≤ (civil (second / 86400)).1 ∧ (civil (second / 86400)).1 ≤ 2301 := by
  have hfirst : (civil 10957).1 = 2000 := by decide
  have hlast : (civil 120895).1 = 2301 := by decide
  unfold Supported supportedFrom supportedUntil at h
  constructor
  · rcases Int.lt_or_eq_of_le (show 10957 ≤ second / 86400 by omega) with hlt | heq
    · have := civil_before hlt
      unfold Before at this
      omega
    · rw [← heq,hfirst]
  · have := civil_before (show second / 86400 < 120895 by omega)
    unfold Before at this
    omega

theorem civil_fields (day : ℤ) : 1 ≤ (civil day).2.1 ∧ (civil day).2.1 ≤ 12 ∧ 1 ≤ (civil day).2.2 ∧
    (civil day).2.2 ≤ 31 := by
  obtain ⟨y,m,d,hcivil,hm0,hm11,hd1,hd31,-⟩ := civil_spec day
  rw [hcivil]
  dsimp only
  split_ifs <;> omega

theorem stamp_append_lt {s s' : ℤ} (h : s < s') (hs : Supported s) (hs' : Supported s') (r r' : List Char) :
    stamp s ++ r < stamp s' ++ r' := by
  have hyear := civil_year hs
  have hyear' := civil_year hs'
  have hfields := civil_fields (s / 86400)
  have hfields' := civil_fields (s' / 86400)
  have hdate : Before (civil (s / 86400)) (civil (s' / 86400)) ∨ s / 86400 = s' / 86400 := by
    rcases Int.lt_or_eq_of_le (show s / 86400 ≤ s' / 86400 by omega) with hlt | heq
    · exact Or.inl (civil_before hlt)
    · exact Or.inr heq
  unfold stamp
  simp only [List.append_assoc,List.cons_append]
  rcases hdate with hbefore | hsame
  · rcases hbefore with hlt | ⟨heq,hbefore⟩
    · exact field_lt (by omega) (by omega) (Or.inl hlt)
    refine field_lt (by omega) (by omega) (Or.inr ⟨heq,separated_lt ?_⟩)
    rcases hbefore with hlt | ⟨heq,hlt⟩
    · exact field_lt (by omega) (by omega) (Or.inl hlt)
    refine field_lt (by omega) (by omega) (Or.inr ⟨heq,separated_lt ?_⟩)
    exact field_lt (by omega) (by omega) (Or.inl hlt)
  · rw [hsame]
    refine field_lt (by omega) (by omega) (Or.inr ⟨rfl,separated_lt ?_⟩)
    refine field_lt (by omega) (by omega) (Or.inr ⟨rfl,separated_lt ?_⟩)
    refine field_lt (by omega) (by omega) (Or.inr ⟨rfl,separated_lt ?_⟩)
    rcases Int.lt_or_eq_of_le (show s / 3600 % 24 ≤ s' / 3600 % 24 by omega) with hlt | hhour
    · exact field_lt (by omega) (by omega) (Or.inl hlt)
    refine field_lt (by omega) (by omega) (Or.inr ⟨hhour,separated_lt ?_⟩)
    rcases Int.lt_or_eq_of_le (show s / 60 % 60 ≤ s' / 60 % 60 by omega) with hlt | hminute
    · exact field_lt (by omega) (by omega) (Or.inl hlt)
    refine field_lt (by omega) (by omega) (Or.inr ⟨hminute,separated_lt ?_⟩)
    exact field_lt (by omega) (by omega) (Or.inl (by omega))

theorem isoformat_ne (hzone : zone.toList.head? ≠ some '.') {t t' : Instant} (h : t.1 < t'.1) :
    isoformat zone t ≠ isoformat zone t' := by
  intro heq
  have htexts := congrArg String.toList heq
  rw [toList_isoformat,toList_isoformat] at htexts
  rcases Int.lt_or_eq_of_le (show t.1 / 1000000 ≤ t'.1 / 1000000 by omega) with hlt | hsame
  · exact absurd htexts (ne_of_lt (stamp_append_lt hlt (supported_second t) (supported_second t') _ _))
  · rw [hsame] at htexts
    have hrest := List.append_cancel_left htexts
    have hmicros : t.1 % 1000000 < t'.1 % 1000000 := by omega
    have hlater : t'.1 % 1000000 ≠ 0 := by omega
    rw [fraction,fraction,if_neg hlater] at hrest
    split_ifs at hrest with hzero
    · rw [List.nil_append] at hrest
      rw [hrest] at hzone
      exact hzone rfl
    · have hfields := (List.cons.inj hrest).2
      exact absurd hfields (ne_of_lt (field_lt (by omega) (by omega) (Or.inl hmicros)))

theorem isoformat_injective (hzone : zone.toList.head? ≠ some '.') : Function.Injective (isoformat zone) := by
  intro t t' h
  rcases lt_trichotomy t.1 t'.1 with hlt | heq | hgt
  · exact absurd h (isoformat_ne hzone hlt)
  · exact Subtype.ext heq
  · exact absurd h.symm (isoformat_ne hzone hgt)

end Arbora.Economics
