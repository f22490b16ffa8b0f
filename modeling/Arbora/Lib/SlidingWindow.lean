import Mathlib.Data.List.Basic
import Mathlib.Data.List.Count
import Mathlib.Data.List.TakeWhile

/-! Times kept as long as they count. -/
namespace SlidingWindow
variable {α : Type} {expired : α → α → Prop} {now now' t : α} {log kept : List α}

def Tracks (expired : α → α → Prop) (now : α) (log kept : List α) : Prop :=
  ∃ gone, log = gone ++ kept ∧ ∀ t ∈ gone, expired now t

theorem Tracks.empty : Tracks expired now [] [] := ⟨[],rfl,fun _ h => nomatch h⟩

theorem Tracks.pass (h : Tracks expired now log kept) (hlater : ∀ t, expired now t → expired now' t) :
    Tracks expired now' log kept := by
  obtain ⟨gone,hlog,hgone⟩ := h
  exact ⟨gone,hlog,fun t ht => hlater t (hgone t ht)⟩

theorem Tracks.enter (h : Tracks expired now log kept) {stale : α → Bool} (hover : ∀ t, stale t = true → expired now t)
    (t : α) : Tracks expired now (log ++ [t]) ((kept ++ [t]).dropWhile stale) := by
  obtain ⟨gone,rfl,hgone⟩ := h
  refine ⟨gone ++ (kept ++ [t]).takeWhile stale,?_,?_⟩
  · rw [List.append_assoc,List.append_assoc,List.takeWhile_append_dropWhile]
  · intro u hu
    rcases List.mem_append.mp hu with hu | hu
    · exact hgone u hu
    · exact hover u (List.mem_takeWhile_imp hu)

theorem Tracks.countP_le (h : Tracks expired now log kept) {seen : α → Bool} (hseen : ∀ t, seen t = true → ¬expired now t) :
    log.countP seen ≤ kept.length := by
  obtain ⟨gone,rfl,hgone⟩ := h
  have hnone : gone.countP seen = 0 := List.countP_eq_zero.mpr fun t ht hsee => hseen t hsee (hgone t ht)
  rw [List.countP_append,hnone,Nat.zero_add]
  exact List.countP_le_length

theorem Tracks.bounded {ω : Type} {seen : ω → α → Bool} {n : ℕ} (h : Tracks expired t (log ++ [t]) kept)
    (hkept : kept.length ≤ n) (hseen : ∀ w u, seen w t = true → seen w u = true → ¬expired t u)
    (hlog : ∀ w, log.countP (seen w) ≤ n) (w : ω) : (log ++ [t]).countP (seen w) ≤ n := by
  by_cases hw : seen w t = true
  · exact Nat.le_trans (h.countP_le fun u hu => hseen w u hw hu) hkept
  · rw [List.countP_append,List.countP_singleton,if_neg hw]
    exact hlog w

end SlidingWindow
