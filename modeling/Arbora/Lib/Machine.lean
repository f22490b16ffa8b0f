import Mathlib.Data.List.Basic

/-! Machines that take one input at a time, answer it and go on from a new state. -/
namespace Machine
variable {σ ι ο : Type} (step : σ → ι → ο × σ)

/-- The state after some inputs. -/
def after : σ → List ι → σ
  | s, [] => s
  | s, i :: is => after (step s i).2 is

def answers : σ → List ι → List ο
  | _, [] => []
  | s, i :: is => (step s i).1 :: answers (step s i).2 is

/-- The answers to those of the inputs that are `mine`. -/
def answersTo (mine : ι → Bool) : σ → List ι → List ο
  | _, [] => []
  | s, i :: is =>
    if mine i then (step s i).1 :: answersTo mine (step s i).2 is else answersTo mine (step s i).2 is

/-- Every input meets `C` in the state it finds. -/
def Along (C : σ → ι → Prop) : σ → List ι → Prop
  | _, [] => True
  | s, i :: is => C s i ∧ Along C (step s i).2 is

instance Along.decidable {C : σ → ι → Prop} [∀ s i, Decidable (C s i)] : ∀ s is, Decidable (Along step C s is)
  | _, [] => isTrue trivial
  | s, i :: is =>
    haveI : Decidable (Along step C (step s i).2 is) := Along.decidable (step s i).2 is
    inferInstanceAs (Decidable (C s i ∧ Along step C (step s i).2 is))

/-- How many of the inputs meet `C` in the state they find. -/
def count (C : σ → ι → Bool) : σ → List ι → ℕ
  | _, [] => 0
  | s, i :: is => (if C s i then 1 else 0)+count C (step s i).2 is

def Reachable (start s : σ) : Prop := ∃ is, after step start is = s

variable {step}

theorem after_cons (s : σ) (i : ι) (is : List ι) : after step s (i :: is) = after step (step s i).2 is := rfl

theorem after_append (s : σ) (is js : List ι) : after step s (is ++ js) = after step (after step s is) js := by
  induction is generalizing s with
  | nil => rfl
  | cons i is ih => exact ih (step s i).2

variable {s : σ} {is : List ι} {P : σ → Prop} {C : σ → ι → Prop}

variable {start t : σ} {mine : ι → Bool} {V : σ → σ → Prop}

theorem Reachable.next (h : Reachable step start s) (i : ι) : Reachable step start (step s i).2 := by
  obtain ⟨is,rfl⟩ := h
  exact ⟨is ++ [i],after_append start is [i]⟩

theorem forall_answers (P : ο → Prop) (hstep : ∀ s i, P (step s i).1) (s : σ) (is : List ι) :
    ∀ o ∈ answers step s is, P o := by
  induction is generalizing s with
  | nil => exact fun o ho => nomatch ho
  | cons i is ih =>
    intro o ho
    rcases List.mem_cons.mp ho with rfl | hrest
    · exact hstep s i
    · exact ih (step s i).2 o hrest

/-- An invariant is kept by every run whose inputs keep it. -/
theorem Along.invariant (hstep : ∀ s i, P s → C s i → P (step s i).2)
    (hs : P s) (h : Along step C s is) : P (after step s is) := by
  induction is generalizing s with
  | nil => exact hs
  | cons i is ih => exact ih (hstep s i hs h.1) h.2

/-- What an invariant and the condition of a step say together holds of every step. -/
theorem Along.conclude {D : σ → ι → Prop} (hstep : ∀ s i, P s → C s i → P (step s i).2)
    (hD : ∀ s i, P s → C s i → D s i) (hs : P s) (h : Along step C s is) : Along step D s is := by
  induction is generalizing s with
  | nil => trivial
  | cons i is ih => exact ⟨hD s i hs h.1,ih (hstep s i hs h.1) h.2⟩

theorem Along.count_invariant {P : ℕ → σ → Prop} {D : σ → ι → Bool}
    (hstep : ∀ k s i, P k s → C s i → P (k+if D s i then 1 else 0) (step s i).2)
    {k : ℕ} (hs : P k s) (h : Along step C s is) : P (k+count step D s is) (after step s is) := by
  induction is generalizing k s with
  | nil => exact hs
  | cons i is ih =>
    have hrest := ih (hstep k s i hs h.1) h.2
    rw [Nat.add_assoc] at hrest
    exact hrest

theorem Along.of_forall (h : ∀ s i, C s i) : Along step C s is := by
  induction is generalizing s with
  | nil => trivial
  | cons i is ih => exact ⟨h s i,ih⟩

theorem Along.and_mem {P : ι → Prop} (h : Along step C s is)
    (hP : ∀ i ∈ is, P i) : Along step (fun s i => C s i ∧ P i) s is := by
  induction is generalizing s with
  | nil => trivial
  | cons i is ih =>
    exact ⟨⟨h.1,hP i (List.mem_cons_self ..)⟩,ih h.2 fun j hj => hP j (List.mem_cons_of_mem _ hj)⟩

theorem Reachable.invariant (hstep : ∀ s i, P s → P (step s i).2) (hstart : P start) (h : Reachable step start s) :
    P s := by
  obtain ⟨is,rfl⟩ := h
  have hall : Along step (fun _ _ => True) start is := .of_forall fun _ _ => trivial
  exact hall.invariant (fun s i hs _ => hstep s i hs) hstart

theorem along_append {js : List ι} :
    Along step C s (is ++ js) ↔ Along step C s is ∧ Along step C (after step s is) js := by
  induction is generalizing s with
  | nil => simp [Along,after]
  | cons i is ih => simp [Along,after,ih,and_assoc]

theorem Along.purge (hmine : ∀ s t i, mine i = true → C s i → V s t → V (step s i).2 (step t i).2)
    (hothers : ∀ s t i, mine i = false → C s i → V s t → V (step s i).2 t) (hst : V s t) (h : Along step C s is) :
    V (after step s is) (after step t (is.filter mine)) := by
  induction is generalizing s t with
  | nil => exact hst
  | cons i is ih =>
    cases hi : mine i with
    | true =>
      rw [List.filter_cons_of_pos hi]
      exact ih (hmine s t i hi h.1 hst) h.2
    | false =>
      rw [List.filter_cons_of_neg (by rw [hi]; exact Bool.false_ne_true)]
      exact ih (hothers s t i hi h.1 hst) h.2

theorem outflow {α : Type} (level : σ → List α) (inflow : ι → List α) (outflow : ο → List α)
    (hstep : ∀ s i, outflow (step s i).1 ++ level (step s i).2 = level s ++ inflow i) (s : σ) (is : List ι) :
    (answers step s is).flatMap outflow ++ level (after step s is) = level s ++ is.flatMap inflow := by
  induction is generalizing s with
  | nil => simp [answers,after]
  | cons i is ih =>
    calc (answers step s (i :: is)).flatMap outflow ++ level (after step s (i :: is))
        = outflow (step s i).1 ++ ((answers step (step s i).2 is).flatMap outflow ++
            level (after step (step s i).2 is)) := by
          rw [answers,after_cons,List.flatMap_cons,List.append_assoc]
      _ = (outflow (step s i).1 ++ level (step s i).2) ++ is.flatMap inflow := by rw [ih,List.append_assoc]
      _ = level s ++ (i :: is).flatMap inflow := by rw [hstep,List.append_assoc,List.flatMap_cons]

/-- The inputs of others can be left out when they keep what is `mine` looking the same. -/
theorem answersTo_eq_answers (hmine : ∀ s t i, mine i = true → C s i → V s t →
      (step s i).1 = (step t i).1 ∧ V (step s i).2 (step t i).2)
    (hothers : ∀ s t i, mine i = false → C s i → V s t → V (step s i).2 t) (hst : V s t) (h : Along step C s is) :
    answersTo step mine s is = answers step t (is.filter mine) := by
  induction is generalizing s t with
  | nil => rfl
  | cons i is ih =>
    cases hi : mine i with
    | true =>
      obtain ⟨hanswer,hnext⟩ := hmine s t i hi h.1 hst
      simp only [answersTo,hi,if_true,List.filter_cons,answers]
      rw [hanswer,ih hnext h.2]
    | false =>
      have hnext := hothers s t i hi h.1 hst
      simp only [answersTo,hi,List.filter_cons,Bool.false_eq_true,if_false]
      exact ih hnext h.2

end Machine
