import Arbora.Economics.Instants
import Arbora.Economics.Repository
import Arbora.Placement.Soundness

/-! Cursor keys: they are in the order of start and identity, and valid references. -/
namespace Arbora.Economics
open Arbora.Scaling (isRef isRefChar sensitiveWords)
open Arbora.Placement (Instant civil isoformat padded clashes hexadecimal_char isRef_of_label)

def keyText (start : Instant) (id : String) : String := isoformat "+00:00" start ++ "/" ++ id

variable {w : ℕ} {n : ℤ} {c : Char} {id id' : String} {date text : List Char} {start start' : Instant}

theorem toList_keyText (hwhole : start.1 % 1000000 = 0) (id : String) :
    (keyText start id).toList = stamp (start.1 / 1000000) ++ ("+00:00/".toList ++ id.toList) := by
  unfold keyText
  rw [String.toList_append,String.toList_append,toList_isoformat,hwhole,fraction,if_pos rfl]
  simp

section
variable (hwhole : start.1 % 1000000 = 0) (hwhole' : start'.1 % 1000000 = 0)
include hwhole hwhole'

theorem keyText_lt (h : toLex (start.1,id) < toLex (start'.1,id')) : keyText start id < keyText start' id' := by
  rw [String.lt_iff_toList_lt,toList_keyText hwhole,toList_keyText hwhole']
  rcases Prod.Lex.toLex_lt_toLex.mp h with hlt | ⟨heq,hid⟩
  · exact stamp_append_lt (by dsimp only at hlt; omega) (supported_second start) (supported_second start') _ _
  · dsimp only at heq hid
    rw [heq]
    exact List.append_left_lt (List.append_left_lt (String.lt_iff_toList_lt.mp hid))

theorem keyText_inj (h : keyText start id = keyText start' id') : id = id' := by
  rcases lt_trichotomy (toLex (start.1,id)) (toLex (start'.1,id')) with hlt | heq | hgt
  · exact absurd h (ne_of_lt (keyText_lt hwhole hwhole' hlt))
  · exact (Prod.mk.inj (toLex.injective heq)).2
  · exact absurd h.symm (ne_of_lt (keyText_lt hwhole' hwhole hgt))

theorem lt_of_keyText_lt (h : keyText start id < keyText start' id') : toLex (start.1,id) < toLex (start'.1,id') := by
  rcases lt_trichotomy (toLex (start.1,id)) (toLex (start'.1,id')) with hlt | heq | hgt
  · exact hlt
  · have hpair := Prod.mk.inj (toLex.injective heq)
    rw [Subtype.ext hpair.1,hpair.2] at h
    exact absurd h (lt_irrefl _)
  · exact absurd h (lt_asymm (keyText_lt hwhole' hwhole hgt))

end

theorem UsageWindow.whole (w : UsageWindow) : w.windowStart.1 % 1000000 = 0 := by
  have h := w.aligned
  cases hg : w.granularity with
  | hour =>
    rw [hg,WindowGranularity.micros,hourMicros] at h
    omega
  | day =>
    rw [hg,WindowGranularity.micros,hourMicros] at h
    omega

/-- The characters of dates and times, but for the `T`. -/
def isDateChar (c : Char) : Bool := ('0' ≤ c && c ≤ '9') || c == '-' || c == ':' || c == '+' || c == '/'

theorem isDateChar_facts (h : isDateChar c = true) : isRefChar c = true ∧ c.toLower = c := by
  unfold isDateChar at h
  simp only [Bool.or_eq_true,beq_iff_eq] at h
  rcases h with (((hdigit | rfl) | rfl) | rfl) | rfl
  · apply hexadecimal_char
    unfold Sha256.hexadecimal
    rw [hdigit,Bool.true_or]
  all_goals decide

theorem isDateChar_of_isDigit (h : c.isDigit = true) : isDateChar c = true := by
  have hbounds : ('0' ≤ c && c ≤ '9') = true := h
  unfold isDateChar
  rw [hbounds]
  rfl

theorem padded_isDigit : ∀ c ∈ padded w n, c.isDigit = true := by
  intro c hc
  rcases List.mem_append.mp hc with hzero | htext
  · rw [(List.mem_replicate.mp hzero).2]
    decide
  · exact Nat.isDigit_of_mem_toDigits (by decide) (by decide) htext

theorem padded_dateChars : ∀ c ∈ padded w n, isDateChar c = true :=
  fun c hc => isDateChar_of_isDigit (padded_isDigit c hc)

theorem padded_cons (h0 : 0 ≤ n) (h : n < 10 ^ (w + 1)) : ∃ c rest, padded (w + 1) n = c :: rest ∧
    c.isDigit = true := by
  have hlength := length_padded h0 h
  cases htext : padded (w + 1) n with
  | nil =>
    rw [htext] at hlength
    cases hlength
  | cons c rest => exact ⟨c,rest,rfl,padded_isDigit c (by rw [htext]; exact List.mem_cons_self)⟩

theorem stamp_chars {s : ℤ} (hs : Supported s) : ∃ first date hour time,
    stamp s = first :: date ++ 'T' :: hour :: time ∧ first.isDigit = true ∧ (∀ c ∈ first :: date, isDateChar c = true) ∧
      (∀ c ∈ hour :: time, isDateChar c = true) ∧ (stamp s).length = 19 := by
  have hyear := civil_year hs
  have hfields := civil_fields (s / 86400)
  have hlength : (stamp s).length = 19 := by
    unfold stamp
    simp only [List.length_append,List.length_cons]
    rw [length_padded (by omega) (by omega),length_padded (by omega) (by omega),length_padded (by omega) (by omega),
      length_padded (by omega) (by omega),length_padded (by omega) (by omega),length_padded (by omega) (by omega)]
  obtain ⟨first,year,htextYear,hfirst⟩ := @padded_cons 3 (civil (s / 86400)).1 (by omega) (by omega)
  obtain ⟨hour,rest,htextHour,-⟩ := @padded_cons 1 (s / 3600 % 24) (by omega) (by omega)
  have hdash : isDateChar '-' = true := by decide
  have hcolon : isDateChar ':' = true := by decide
  have hgroups : ∀ sep, isDateChar sep = true → ∀ i a j b k e,
      ∀ c ∈ padded i a ++ sep :: padded j b ++ sep :: padded k e, isDateChar c = true := by
    intro sep hsep i a j b k e c hc
    simp only [List.mem_append,List.mem_cons] at hc
    rcases hc with (h | rfl | h) | rfl | h
    · exact padded_dateChars c h
    · exact hsep
    · exact padded_dateChars c h
    · exact hsep
    · exact padded_dateChars c h
  refine ⟨first,year ++ '-' :: padded 2 (civil (s / 86400)).2.1 ++ '-' :: padded 2 (civil (s / 86400)).2.2,hour,
    rest ++ ':' :: padded 2 (s / 60 % 60) ++ ':' :: padded 2 (s % 60),?_,hfirst,?_,?_,hlength⟩
  · unfold stamp
    rw [htextYear,htextHour]
    simp only [List.append_assoc,List.cons_append]
  · rw [← List.cons_append,← List.cons_append,← htextYear]
    exact hgroups '-' hdash _ _ _ _ _ _
  · rw [← List.cons_append,← List.cons_append,← htextHour]
    exact hgroups ':' hcolon _ _ _ _ _ _

/-- No sensitive word starts with a date's character, nor with a `t` and such a character. -/
theorem sensitive_heads : ∀ word ∈ sensitiveWords.map String.toList, ∃ c d rest, word = c :: d :: rest ∧
    isDateChar c = false ∧ (c = 't' → isDateChar d = false) := by
  intro word hword
  have hall : ∀ word ∈ sensitiveWords.map String.toList, 2 ≤ word.length ∧ isDateChar (word.getD 0 'a') = false ∧
      (word.getD 0 'a' = 't' → isDateChar (word.getD 1 'a') = false) := by decide +kernel
  obtain ⟨hlength,hfirst,hsecond⟩ := hall word hword
  cases word with
  | nil => exact absurd hlength (by decide)
  | cons c word =>
    cases word with
    | nil => exact absurd hlength (by simp)
    | cons d rest => exact ⟨c,d,rest,rfl,hfirst,hsecond⟩

theorem clashes_head {word : List Char} {d : Char} (h : clashes (c :: word) (d :: text) = true) : c = d := by
  unfold clashes at h
  rw [Bool.and_eq_true,decide_eq_true_eq] at h
  exact (List.cons.inj h.1).1

theorem clashes_heads {word : List Char} {c' d d' : Char}
    (h : clashes (c :: c' :: word) (d :: d' :: text) = true) : c = d ∧ c' = d' := by
  unfold clashes at h
  rw [Bool.and_eq_true,decide_eq_true_eq] at h
  have htail := (List.cons.inj h.1).2
  exact ⟨(List.cons.inj h.1).1,(List.cons.inj htail).1⟩

def NoWord (text : List Char) : Prop := ∀ word ∈ sensitiveWords.map String.toList, clashes word text = false

theorem noWord_append (hdate : ∀ c ∈ date, isDateChar c = true)
    (htext : ∀ rest ∈ text.tails, NoWord rest) : ∀ rest ∈ (date ++ text).tails, NoWord rest := by
  induction date with
  | nil => exact htext
  | cons c date ih =>
    intro rest hrest
    rw [List.cons_append,List.tails_cons,List.mem_cons] at hrest
    rcases hrest with rfl | hlater
    · intro word hword
      obtain ⟨first,second,more,rfl,hfirst,-⟩ := sensitive_heads word hword
      rw [Bool.eq_false_iff]
      intro hclash
      rw [clashes_head hclash,hdate c List.mem_cons_self] at hfirst
      cases hfirst
    · exact ih (fun c hc => hdate c (List.mem_cons_of_mem _ hc)) rest hlater

theorem noWord_time (hc : isDateChar c = true)
    (htext : ∀ rest ∈ (c :: text).tails, NoWord rest) : ∀ rest ∈ ('t' :: c :: text).tails, NoWord rest := by
  intro rest hrest
  rw [List.tails_cons,List.mem_cons] at hrest
  rcases hrest with rfl | hlater
  · intro word hword
    obtain ⟨first,second,more,rfl,-,hsecond⟩ := sensitive_heads word hword
    rw [Bool.eq_false_iff]
    intro hclash
    obtain ⟨hfirst,hsame⟩ := clashes_heads hclash
    rw [hsame,hc] at hsecond
    cases hsecond hfirst
  · exact htext rest hlater

theorem map_toLower_date (h : ∀ c ∈ date, isDateChar c = true) : date.map Char.toLower = date :=
  (List.map_congr_left fun c hc => (isDateChar_facts (h c hc)).2).trans (List.map_id _)
theorem all_isRefChar_date (h : ∀ c ∈ date, isDateChar c = true) : date.all isRefChar = true :=
  List.all_eq_true.mpr fun c hc => (isDateChar_facts (h c hc)).1

/-- A start, the label of an identity and the digits of a hash make a reference. -/
theorem isRef_keyText (hwhole : start.1 % 1000000 = 0) {label : String} {hex : List Char}
    (hhex : hex.all Sha256.hexadecimal = true) (hlength : label.toList.length + hex.length ≤ 200)
    (hchars : label.toList.all isRefChar = true) (hlower : label.toList.map Char.toLower = label.toList)
    (hwords : ∀ rest ∈ label.toList.tails, NoWord rest) :
    isRef (keyText start (String.ofList (label.toList ++ hex))) = true := by
  obtain ⟨first,date,hour,time,hstamp,hfirst,hdate,hclock,hsize⟩ := stamp_chars (supported_second start)
  have hzone : ∀ c ∈ "+00:00/".toList, isDateChar c = true := List.all_eq_true.mp (by decide +kernel)
  have htext : keyText start (String.ofList (label.toList ++ hex)) =
      String.ofList ((stamp (start.1 / 1000000) ++ ("+00:00/".toList ++ label.toList)) ++ hex) := by
    apply String.toList_inj.mp
    rw [toList_keyText hwhole]
    simp only [String.toList_ofList,List.append_assoc]
  rw [htext]
  apply isRef_of_label hhex
  · have hzoneLength : "+00:00/".toList.length = 7 := by decide
    rw [List.length_append,List.length_append,hsize,hzoneLength]
    omega
  · rw [hstamp]
    show Char.isAlphanum first = true
    unfold Char.isAlphanum
    rw [hfirst,Bool.or_true]
  · rw [hstamp,List.all_append,List.all_append,List.all_append,hchars,all_isRefChar_date hzone,
      all_isRefChar_date hdate,List.all_cons,all_isRefChar_date hclock]
    decide
  · have hsmall : (stamp (start.1 / 1000000) ++ ("+00:00/".toList ++ label.toList)).map Char.toLower =
        (first :: date) ++ 't' :: hour :: (time ++ ("+00:00/".toList ++ label.toList)) := by
      rw [hstamp,List.map_append,List.map_append,List.map_append,hlower,map_toLower_date hzone,
        map_toLower_date hdate,List.map_cons,map_toLower_date hclock]
      simp only [List.append_assoc,List.cons_append]
      rfl
    rw [hsmall]
    have hrest := noWord_append hclock (noWord_append hzone hwords)
    have htime := noWord_time (hclock hour List.mem_cons_self) hrest
    intro word hword text htext
    exact noWord_append hdate htime text htext word hword

end Arbora.Economics
