import Arbora.Lib.Program
import Mathlib.Algebra.BigOperators.Group.Finset.Piecewise
import Mathlib.Algebra.Order.BigOperators.Group.Finset
import Mathlib.Algebra.Ring.Nat

/-! Any number of programs over one shared state, interleaved call by call. -/
namespace Interaction

/-- The shared state and what is left of every program. -/
structure Pool (ι E : Type) (A : E → Type) (ε α σ : Type) where
  state : σ
  procs : ι → Prog E A ε α

namespace Pool
variable {ι E : Type} {A : E → Type} {ε α σ : Type} [DecidableEq ι]

/-- Schedules of a pool, with the answered calls in the order they took effect. -/
inductive Steps (W : World E A σ) (c : Pool ι E A ε α σ) :
    List (ι × Event E A) → Pool ι E A ε α σ → Prop where
  | refl : Steps W c [] c
  | tail {log : List (ι × Event E A)} {d : Pool ι E A ε α σ} {i : ι} {e : E}
      {k : A e → Prog E A ε α} {r : A e} {s : σ} (h : Steps W c log d)
      (hp : d.procs i = .call e k) (hw : W d.state e r s) :
      Steps W c (log ++ [(i,⟨e,r⟩)]) ⟨s,Function.update d.procs i (k r)⟩

/-- The calls of one program of the pool, in order. -/
def own (i : ι) (log : List (ι × Event E A)) : List (Event E A) :=
  log.filterMap fun x => if x.1 = i then some x.2 else none

@[simp] theorem own_nil (i : ι) : own i ([] : List (ι × Event E A)) = [] := rfl
theorem own_append (i : ι) (log rest : List (ι × Event E A)) :
    own i (log ++ rest) = own i log ++ own i rest := List.filterMap_append

theorem own_single (i j : ι) (x : Event E A) : own i [(j,x)] = if j = i then [x] else [] := by
  unfold own
  split_ifs with h <;> simp [h]

theorem own_snoc_self (i : ι) (log : List (ι × Event E A)) (x : Event E A) :
    own i (log ++ [(i,x)]) = own i log ++ [x] := by
  rw [own_append,own_single,if_pos rfl]

variable {i : ι} {x : Event E A} {Q : List (Event E A) → α → Prop} {X : List (Event E A) → ε → Prop}

theorem own_snoc_ne {j : ι} (h : j ≠ i) (log : List (ι × Event E A)) (x : Event E A) :
    own j (log ++ [(i,x)]) = own j log := by
  rw [own_append,own_single,if_neg (Ne.symm h),List.append_nil]

theorem mem_own {log : List (ι × Event E A)} : x ∈ own i log ↔ (i,x) ∈ log := by
  unfold own
  rw [List.mem_filterMap]
  constructor
  · rintro ⟨⟨j,y⟩,hy,he⟩
    split_ifs at he with hj
    cases hj
    cases he
    exact hy
  · intro hx
    exact ⟨(i,x),hx,if_pos rfl⟩

/-- Seen alone, every program of a pool runs in the environment that answers anything. -/
theorem Steps.own_runs {W : World E A σ} {c d : Pool ι E A ε α σ} {log : List (ι × Event E A)}
    (h : Steps W c log d) (i : ι) : Prog.Runs Prog.record (c.procs i) [] (own i log) (d.procs i) (own i log) := by
  induction h with
  | refl => exact .nil _ _
  | @tail log d j e k r s _ hp _ ih =>
    dsimp only
    by_cases hj : j = i
    · subst hj
      rw [own_snoc_self,Function.update_self]
      rw [hp] at ih
      exact ih.trans (.one rfl)
    · rw [own_snoc_ne (Ne.symm hj),Function.update_of_ne (Ne.symm hj)]
      exact ih

variable {s s' : σ} {p q : Prog E A ε α} {t : List (Event E A)} {G : List (Event E A) → E → Prop}

/-- A rule proved of a program alone holds of what is left of it in every schedule. -/
theorem Steps.meets {W : World E A σ} {c d : Pool ι E A ε α σ} {log : List (ι × Event E A)}
    (h : Steps W c log d) (i : ι) (hm : (c.procs i).Meets Prog.record G Q X []) :
    (d.procs i).Meets Prog.record G Q X (own i log) :=
  hm.runs (h.own_runs i)

/-- Every call of a schedule was answered in some state. -/
theorem Steps.answered {W : World E A σ} {c d : Pool ι E A ε α σ} {log : List (ι × Event E A)} (h : Steps W c log d)
    (hx : (i,x) ∈ log) : ∃ s s', W s x.1 x.2 s' := by
  induction h with
  | refl => cases hx
  | @tail log d j e k r s _ hp hw ih =>
    rcases List.mem_append.mp hx with hx | hx
    · exact ih hx
    · cases List.mem_singleton.mp hx
      exact ⟨_,_,hw⟩

/-- Every call of a schedule was guarded, given what its program had been answered before. -/
theorem Steps.guarded {W : World E A σ} {c d : Pool ι E A ε α σ} {log : List (ι × Event E A)} (h : Steps W c log d)
    {G : ι → List (Event E A) → E → Prop} {Q : ι → List (Event E A) → α → Prop} {X : ι → List (Event E A) → ε → Prop}
    (hm : ∀ i, (c.procs i).Meets Prog.record (G i) (Q i) (X i) []) (hx : (i,x) ∈ log) :
    ∃ u v, own i log = u ++ x :: v ∧ G i u x.1 := by
  obtain ⟨u,v,hsplit⟩ := List.append_of_mem (mem_own.mpr hx)
  have hrun := h.own_runs i
  rw [hsplit] at hrun
  exact ⟨u,v,hsplit,hrun.guarded (hm i)⟩

theorem Steps.left {W : World E A σ} {c d : Pool ι E A ε α σ} {log : List (ι × Event E A)}
    (h : Steps W c log d) (i : ι) (hm : (c.procs i).Meets Prog.record G Q X []) :
    (d.procs i).Meets Prog.record (fun v e => G (own i log ++ v) e) (fun v a => Q (own i log ++ v) a)
      (fun v x => X (own i log ++ v) x) [] := by
  have hrest := h.meets i hm
  rw [← List.append_nil (own i log)] at hrest
  exact (Prog.meets_shift _ _ _).mpr hrest

/-- What every call guarded by its own program's history keeps holds after every schedule. -/
theorem Steps.invariant {W : World E A σ} {c d : Pool ι E A ε α σ} {log : List (ι × Event E A)}
    {G : ι → List (Event E A) → E → Prop} {I : List (ι × Event E A) → σ → Prop} (h : Steps W c log d)
    (hm : ∀ i, (c.procs i).Meets Prog.record (G i) Q X []) (h0 : I [] c.state)
    (hs : ∀ log i e r s s', I log s → G i (own i log) e → W s e r s' → I (log ++ [(i,⟨e,r⟩)]) s') :
    I log d.state := by
  induction h with
  | refl => exact h0
  | @tail log d i e k r s h hp hw ih =>
    have hguard := h.meets i (hm i)
    rw [hp] at hguard
    exact hs _ _ _ _ _ _ ih hguard.1 hw

theorem Steps.trans {W : World E A σ} {c d o : Pool ι E A ε α σ} {log rest : List (ι × Event E A)}
    (h : Steps W c log d) (h' : Steps W d rest o) : Steps W c (log ++ rest) o := by
  induction h' with
  | refl => simpa using h
  | tail _ hp hw ih =>
    rw [← List.append_assoc]
    exact .tail ih hp hw

theorem Steps.of_run {W : World E A σ} {c : Pool ι E A ε α σ} (h : Prog.Runs W p s t q s') (hp : c.procs i = p) (hs :
    c.state = s) : Steps W c (t.map fun x => (i,x)) ⟨s',Function.update c.procs i q⟩ := by
  induction h generalizing c with
  | nil =>
    rw [← hp,Function.update_eq_self,← hs]
    exact .refl
  | @call e k r s s' s'' t q hw _ ih =>
    subst hs
    have hone : Steps W c ([] ++ [(i,⟨e,r⟩)]) ⟨s',Function.update c.procs i (k r)⟩ := .tail .refl hp hw
    have hrest := ih (c := ⟨s',Function.update c.procs i (k r)⟩) (Function.update_self ..) rfl
    rw [Function.update_idem] at hrest
    exact hone.trans hrest

theorem Steps.of_runs {W : World E A σ} (h : Prog.Runs W p s t q s') :
    Steps W ⟨s,fun _ : Unit => p⟩ (t.map fun x => ((),x)) ⟨s',fun _ => q⟩ := by
  induction h with
  | nil => exact .refl
  | @call e k r s s' s'' t q hw _ ih =>
    have hone : Steps W ⟨s,fun _ : Unit => .call e k⟩ ([] ++ [((),⟨e,r⟩)]) ⟨s',fun _ => k r⟩ := by
      exact .tail .refl rfl hw
    exact hone.trans ih

/-- The programs named in the schedule make one call each, in order, answered by a function. -/
def drive (respond : σ → (e : E) → A e × σ) : List ι → Pool ι E A ε α σ → List (ι × Event E A) × Pool ι E A ε α σ
  | [], c => ([],c)
  | i :: rest, c =>
    match c.procs i with
    | .call e k =>
      let out := respond c.state e
      let d := drive respond rest ⟨out.2,Function.update c.procs i (k out.1)⟩
      ((i,⟨e,out.1⟩) :: d.1,d.2)
    | _ => drive respond rest c

theorem drive_steps {W : World E A σ} {respond : σ → (e : E) → A e × σ}
    (hr : ∀ s e, W s e (respond s e).1 (respond s e).2) (schedule : List ι) (c : Pool ι E A ε α σ) :
    Steps W c (drive respond schedule c).1 (drive respond schedule c).2 := by
  induction schedule generalizing c with
  | nil => exact .refl
  | cons i rest ih =>
    unfold drive
    split
    · rename_i e k hp
      have hone : Steps W c ([] ++ [(i,⟨e,(respond c.state e).1⟩)])
          ⟨(respond c.state e).2,Function.update c.procs i (k (respond c.state e).1)⟩ := .tail .refl hp (hr _ _)
      exact hone.trans (ih _)
    · exact ih c

section
variable {W : World E A σ} {C : List (ι × Event E A) → σ → ι → E → Prop} {c d : Pool ι E A ε α σ}
  {log : List (ι × Event E A)}

/-- Schedules each of whose steps meets a condition on what was before it. -/
inductive StepsWhere (W : World E A σ) (C : List (ι × Event E A) → σ → ι → E → Prop) (c : Pool ι E A ε α σ) :
    List (ι × Event E A) → Pool ι E A ε α σ → Prop where
  | refl : StepsWhere W C c [] c
  | tail {log : List (ι × Event E A)} {d : Pool ι E A ε α σ} {i : ι} {e : E}
      {k : A e → Prog E A ε α} {r : A e} {s : σ} (h : StepsWhere W C c log d)
      (hp : d.procs i = .call e k) (hc : C log d.state i e) (hw : W d.state e r s) :
      StepsWhere W C c (log ++ [(i,⟨e,r⟩)]) ⟨s,Function.update d.procs i (k r)⟩

theorem StepsWhere.steps (h : StepsWhere W C c log d) : Steps W c log d := by
  induction h with
  | refl => exact .refl
  | tail _ hp _ hw ih => exact .tail ih hp hw

theorem Steps.heeding {W' : World E A σ} (hW : ∀ {s e r s'}, W' s e r s' → W s e r s')
    (hC : ∀ {log d i e k r s}, Steps W' c log d → d.procs i = .call e k → W' d.state e r s → C log d.state i e)
    (h : Steps W' c log d) : StepsWhere W C c log d := by
  induction h with
  | refl => exact .refl
  | tail h hp hw ih => exact .tail ih hp (hC h hp hw) (hW hw)

/-- What every call that meets the condition and is guarded by its own program's history keeps. -/
theorem StepsWhere.invariant {G : ι → List (Event E A) → E → Prop} {Q : ι → List (Event E A) → α → Prop}
    {X : ι → List (Event E A) → ε → Prop} {I : List (ι × Event E A) → σ → Prop} (h : StepsWhere W C c log d)
    (hm : ∀ i, (c.procs i).Meets Prog.record (G i) (Q i) (X i) []) (h0 : I [] c.state)
    (hs : ∀ log i e r s s', I log s → C log s i e → G i (own i log) e → W s e r s' → I (log ++ [(i,⟨e,r⟩)]) s') :
    I log d.state := by
  induction h with
  | refl => exact h0
  | @tail log d i e k r s h hp hc hw ih =>
    have hguard := h.steps.meets i (hm i)
    rw [hp] at hguard
    exact hs _ _ _ _ _ _ ih hc hguard.1 hw

theorem StepsWhere.before (h : StepsWhere W C c log d) {u v : List (ι × Event E A)} {x : ι × Event E A}
    (hlog : log = u ++ x :: v) : ∃ m s', StepsWhere W C c u m ∧ C u m.state x.1 x.2.1 ∧ W m.state x.2.1 x.2.2 s' := by
  induction h generalizing v with
  | refl => exact absurd hlog.symm (by simp)
  | @tail log d i e k r s h hp hc hw ih =>
    rcases List.eq_nil_or_concat v with rfl | ⟨v,y,rfl⟩
    · obtain ⟨rfl,hx⟩ := List.append_inj' hlog rfl
      cases hx
      exact ⟨d,s,h,hc,hw⟩
    · rw [List.concat_eq_append,← List.cons_append,← List.append_assoc] at hlog
      exact ih (List.append_inj' hlog rfl).1

/-- Where every program stands at one of its stages, what all steps from there keep holds after every schedule. -/
theorem StepsWhere.staged {S : Type} (h : StepsWhere W C c log d) (code : ι → S → Prog E A ε α) (start : ι → S)
    {I : List (ι × Event E A) → σ → (ι → S) → Prop} (hstart : ∀ i, c.procs i = code i (start i))
    (h0 : I [] c.state start)
    (hstep : ∀ log s stages i e k r s', I log s stages → C log s i e → code i (stages i) = .call e k → W s e r s' →
      ∃ next, k r = code i next ∧ I (log ++ [(i,⟨e,r⟩)]) s' (Function.update stages i next)) :
    ∃ stages : ι → S, (∀ i, d.procs i = code i (stages i)) ∧ I log d.state stages := by
  induction h with
  | refl => exact ⟨start,hstart,h0⟩
  | @tail log d i e k r s _ hp hc hw ih =>
    obtain ⟨stages,hcode,hinv⟩ := ih
    obtain ⟨next,hnext,hinv'⟩ := hstep log d.state stages i e k r s hinv hc ((hcode i).symm.trans hp) hw
    refine ⟨Function.update stages i next,fun j => ?_,hinv'⟩
    dsimp only
    by_cases hj : j = i
    · subst hj
      rw [Function.update_self,Function.update_self]
      exact hnext
    · rw [Function.update_of_ne hj,Function.update_of_ne hj]
      exact hcode j

/-- Whether all steps of a schedule are allowed. -/
def heeds (respond : σ → (e : E) → A e × σ) (allowed : List (ι × Event E A) → σ → ι → E → Bool) :
    List ι → List (ι × Event E A) → Pool ι E A ε α σ → Bool
  | [], _, _ => true
  | i :: rest, log, c =>
    match c.procs i with
    | .call e k =>
      let out := respond c.state e
      allowed log c.state i e &&
        heeds respond allowed rest (log ++ [(i,⟨e,out.1⟩)]) ⟨out.2,Function.update c.procs i (k out.1)⟩
    | _ => heeds respond allowed rest log c

theorem drive_stepsWhere {respond : σ → (e : E) → A e × σ} (allowed : List (ι × Event E A) → σ → ι → E → Bool)
    {P : σ → Prop} (hr : ∀ log s i e, P s → allowed log s i e = true →
      C log s i e ∧ W s e (respond s e).1 (respond s e).2 ∧ P (respond s e).2)
    (schedule : List ι) (h : StepsWhere W C c log d) (hP : P d.state)
    (hallowed : heeds respond allowed schedule log d = true) :
    StepsWhere W C c (log ++ (drive respond schedule d).1) (drive respond schedule d).2 := by
  induction schedule generalizing log d with
  | nil =>
    rw [drive,List.append_nil]
    exact h
  | cons i rest ih =>
    rw [heeds] at hallowed
    rw [drive]
    split at hallowed
    · obtain ⟨hhere,hrest⟩ := Bool.and_eq_true_iff.mp hallowed
      rename_i e k hp
      obtain ⟨hc,hw,hnextP⟩ := hr _ _ _ _ hP hhere
      have hnext := ih (h.tail hp hc hw) hnextP hrest
      rw [List.append_assoc] at hnext
      exact hnext
    · exact ih h hP hallowed

end

end Pool
end Interaction

/-! What the events of a pool's schedule add up to. -/
namespace Interaction.Pool
variable {ι E : Type} {A : E → Type} [DecidableEq ι]

theorem sum_own (f : Event E A → ℕ) (log : List (ι × Event E A)) :
    (log.map fun x => f x.2).sum = ∑ i ∈ (log.map Prod.fst).toFinset, ((own i log).map f).sum := by
  have hsum : ∀ S : Finset ι, (∀ x ∈ log, x.1 ∈ S) →
      (log.map fun x => f x.2).sum = ∑ i ∈ S, ((own i log).map f).sum := by
    intro S hS
    induction log with
    | nil => simp
    | cons x log ih =>
      have hx : ∀ i, ((own i (x :: log)).map f).sum = (if i = x.1 then f x.2 else 0)+((own i log).map f).sum := by
        intro i
        rw [← List.singleton_append,own_append,own_single]
        by_cases hi : x.1 = i
        · simp [hi]
        · simp [hi,Ne.symm hi]
      rw [List.map_cons,List.sum_cons,ih (fun y hy => hS y (List.mem_cons_of_mem _ hy)),Finset.sum_congr rfl fun i _ => hx i,
        Finset.sum_add_distrib,Finset.sum_ite_eq_of_mem' S x.1 _ (hS x List.mem_cons_self)]
  exact hsum _ fun x hx => List.mem_toFinset.mpr (List.mem_map_of_mem hx)

/-- What holds of the sums of every program holds of the sums of the schedule. -/
theorem sum_le_of_own {f g : Event E A → ℕ} {log : List (ι × Event E A)}
    (h : ∀ i, ((own i log).map f).sum ≤ ((own i log).map g).sum) :
    (log.map fun x => f x.2).sum ≤ (log.map fun x => g x.2).sum := by
  rw [sum_own,sum_own]
  exact Finset.sum_le_sum fun i _ => h i

end Interaction.Pool
