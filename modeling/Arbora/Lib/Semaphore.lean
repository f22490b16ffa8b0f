import Mathlib.Data.List.Basic
import Mathlib.Data.Nat.Basic

/-! A counting semaphore that hands its permits to those who wait, in their order. -/

inductive Waiter
  | pending | handed | withdrawn
deriving DecidableEq

structure Semaphore (ι : Type) where
  value : ℕ
  waiters : List (ι × Waiter)

namespace Semaphore
variable {ι : Type}

def locked (s : Semaphore ι) : Bool := s.value = 0 || s.waiters.any (·.2 ≠ .withdrawn)

/-- Takes a permit without waiting. -/
def take (s : Semaphore ι) : Semaphore ι := {s with value := s.value-1}

def enqueue (s : Semaphore ι) (i : ι) : Semaphore ι := {s with waiters := s.waiters ++ [(i,.pending)]}

def handFirst : List (ι × Waiter) → Option (List (ι × Waiter))
  | [] => none
  | (i,.pending) :: ws => some ((i,.handed) :: ws)
  | w :: ws => (handFirst ws).map (w :: ·)

def wakeNext (s : Semaphore ι) : Option (Semaphore ι) :=
  (handFirst s.waiters).map fun ws => ⟨s.value-1,ws⟩

/-- Wakes as many as there are permits for, at most so many. -/
def wakeUpTo : ℕ → Semaphore ι → Semaphore ι
  | 0, s => s
  | n+1, s => match s.wakeNext with
    | none => s
    | some t => wakeUpTo n t

def release (s : Semaphore ι) : Semaphore ι :=
  let s := {s with value := s.value+1}
  s.wakeNext.getD s

section
variable [DecidableEq ι]

def status (s : Semaphore ι) (i : ι) : Option Waiter := (s.waiters.find? (·.1 = i)).map (·.2)

/-- Who is told to stop waiting keeps a permit already handed over. -/
def withdraw (s : Semaphore ι) (i : ι) : Semaphore ι :=
  {s with waiters := s.waiters.map fun w => if w.1 = i ∧ w.2 = .pending then (i,.withdrawn) else w}

/-- Goes out of the queue and lets the next ones in. -/
def leave (s : Semaphore ι) (i : ι) : Semaphore ι :=
  let s := {s with waiters := s.waiters.eraseP (·.1 = i)}
  wakeUpTo s.value s

/-- Leaves without a permit; one already handed over goes back. -/
def abort (s : Semaphore ι) (i : ι) : Semaphore ι :=
  let value := if s.status i = some .handed then s.value+1 else s.value
  leave {s with value} i

end

def handed (s : Semaphore ι) : ℕ := s.waiters.countP (·.2 = .handed)

/-- The permits that are free or with someone who has not gone on yet. -/
def permits (s : Semaphore ι) : ℕ := s.value+s.handed

def ids (s : Semaphore ι) : List ι := s.waiters.map (·.1)

variable {s t : Semaphore ι}

theorem value_pos_of_not_locked (h : s.locked = false) : 0 < s.value := by
  unfold locked at h
  simp only [Bool.or_eq_false_iff,decide_eq_false_iff_not] at h
  exact Nat.pos_of_ne_zero h.1

theorem countP_handFirst {ws vs : List (ι × Waiter)} (h : handFirst ws = some vs) :
    vs.countP (·.2 = .handed) = ws.countP (·.2 = .handed)+1 := by
  induction ws generalizing vs with
  | nil => cases h
  | cons w ws ih =>
    obtain ⟨i,state⟩ := w
    cases state with
    | pending =>
      obtain rfl := Option.some.inj h
      simp
    | handed =>
      obtain ⟨vs',hvs,rfl⟩ := Option.map_eq_some_iff.mp h
      simp [ih hvs]
    | withdrawn =>
      obtain ⟨vs',hvs,rfl⟩ := Option.map_eq_some_iff.mp h
      simp [ih hvs]

theorem ids_handFirst {ws vs : List (ι × Waiter)} (h : handFirst ws = some vs) : vs.map (·.1) = ws.map (·.1) := by
  induction ws generalizing vs with
  | nil => cases h
  | cons w ws ih =>
    obtain ⟨i,state⟩ := w
    cases state with
    | pending =>
      obtain rfl := Option.some.inj h
      rfl
    | handed =>
      obtain ⟨vs',hvs,rfl⟩ := Option.map_eq_some_iff.mp h
      simp [ih hvs]
    | withdrawn =>
      obtain ⟨vs',hvs,rfl⟩ := Option.map_eq_some_iff.mp h
      simp [ih hvs]

theorem permits_wakeNext (hpos : 0 < s.value) (h : s.wakeNext = some t) : t.permits = s.permits := by
  obtain ⟨ws,hws,rfl⟩ := Option.map_eq_some_iff.mp h
  have hcount := countP_handFirst hws
  unfold permits handed
  dsimp only
  omega

theorem ids_wakeNext (h : s.wakeNext = some t) : t.ids = s.ids := by
  obtain ⟨ws,hws,rfl⟩ := Option.map_eq_some_iff.mp h
  exact ids_handFirst hws

theorem value_wakeNext (h : s.wakeNext = some t) : t.value = s.value-1 := by
  obtain ⟨ws,-,rfl⟩ := Option.map_eq_some_iff.mp h
  rfl

theorem permits_wakeUpTo {n : ℕ} (hn : n ≤ s.value) : (wakeUpTo n s).permits = s.permits := by
  induction n generalizing s with
  | zero => rfl
  | succ n ih =>
    unfold wakeUpTo
    cases hwake : s.wakeNext with
    | none => rfl
    | some t =>
      have hvalue := value_wakeNext hwake
      exact (ih (by omega)).trans (permits_wakeNext (by omega) hwake)

theorem ids_wakeUpTo (n : ℕ) (s : Semaphore ι) : (wakeUpTo n s).ids = s.ids := by
  induction n generalizing s with
  | zero => rfl
  | succ n ih =>
    unfold wakeUpTo
    cases hwake : s.wakeNext with
    | none => rfl
    | some t => exact (ih t).trans (ids_wakeNext hwake)

section

theorem permits_take {s : Semaphore ι} (h : s.locked = false) : s.take.permits+1 = s.permits := by
  have hpos := value_pos_of_not_locked h
  unfold permits handed take
  dsimp only
  omega

theorem permits_enqueue (s : Semaphore ι) (i : ι) : (s.enqueue i).permits = s.permits := by
  simp [permits,handed,enqueue]
theorem ids_enqueue (s : Semaphore ι) (i : ι) : (s.enqueue i).ids = s.ids ++ [i] := by
  simp [ids,enqueue]

theorem permits_release (s : Semaphore ι) : s.release.permits = s.permits+1 := by
  have hplus : ({s with value := s.value+1} : Semaphore ι).permits = s.permits+1 := by
    unfold permits handed
    dsimp only
    omega
  unfold release
  dsimp only
  cases hwake : ({s with value := s.value+1} : Semaphore ι).wakeNext with
  | none => exact hplus
  | some t => exact (permits_wakeNext (Nat.succ_pos _) hwake).trans hplus

theorem ids_release (s : Semaphore ι) : s.release.ids = s.ids := by
  unfold release
  dsimp only
  cases hwake : ({s with value := s.value+1} : Semaphore ι).wakeNext with
  | none => rfl
  | some t => exact (ids_wakeNext hwake :)

variable [DecidableEq ι]

theorem permits_withdraw (s : Semaphore ι) (i : ι) : (s.withdraw i).permits = s.permits := by
  unfold permits handed withdraw
  rw [List.countP_map]
  refine congrArg (s.value+·) (List.countP_congr fun w _ => ?_)
  simp only [Function.comp_apply,decide_eq_true_iff]
  split_ifs with h
  · simp [h.2]
  · rfl

theorem ids_withdraw (s : Semaphore ι) (i : ι) : (s.withdraw i).ids = s.ids := by
  unfold ids withdraw
  rw [List.map_map]
  refine List.map_congr_left fun w _ => ?_
  simp only [Function.comp_apply]
  split_ifs with h
  · exact h.1.symm
  · rfl

theorem ids_leave (s : Semaphore ι) (i : ι) : (s.leave i).ids = s.ids.erase i := by
  unfold leave
  rw [ids_wakeUpTo]
  unfold ids
  induction s.waiters with
  | nil => rfl
  | cons w ws ih =>
    by_cases h : w.1 = i
    · simp [h]
    · simp [h,ih]

theorem ids_abort (s : Semaphore ι) (i : ι) : (s.abort i).ids = s.ids.erase i := ids_leave _ i

theorem countP_eraseP_add (ws : List (ι × Waiter)) (i : ι) : (ws.eraseP (·.1 = i)).countP (·.2 = .handed)+
      (if (ws.find? (·.1 = i)).map (·.2) = some .handed then 1 else 0) = ws.countP (·.2 = .handed) := by
  induction ws with
  | nil => rfl
  | cons w ws ih =>
    by_cases h : w.1 = i
    · simp [h,List.countP_cons]
    · simp only [List.eraseP_cons,h,List.find?_cons,List.countP_cons,decide_false,cond_false] at ih ⊢
      omega

theorem permits_leave (s : Semaphore ι) (i : ι) :
    (s.leave i).permits+(if s.status i = some .handed then 1 else 0) = s.permits := by
  have h := countP_eraseP_add s.waiters i
  have hleave : (s.leave i).permits = s.value+(s.waiters.eraseP (·.1 = i)).countP (·.2 = .handed) :=
    permits_wakeUpTo (Nat.le_refl s.value)
  rw [hleave]
  unfold permits handed status
  omega

theorem permits_abort (s : Semaphore ι) (i : ι) : (s.abort i).permits = s.permits := by
  let value := if s.status i = some .handed then s.value+1 else s.value
  have h : (s.abort i).permits+(if s.status i = some .handed then 1 else 0) = value+s.handed :=
    permits_leave {s with value} i
  have hvalue : value = s.value+if s.status i = some .handed then 1 else 0 := by
    unfold value
    split_ifs <;> rfl
  have hpermits : s.permits = s.value+s.handed := rfl
  omega

end
end Semaphore
