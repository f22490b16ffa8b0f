import Mathlib.Data.List.Basic

/-! Programs that stop at every call to their environment and go on with whatever they are answered. -/
namespace Interaction

/-- A program making calls in `E`, answered in `A e`, that returns in `α` or raises in `ε`. -/
inductive Prog (E : Type) (A : E → Type) (ε α : Type) : Type where
  | ret (a : α)
  | raise (x : ε)
  | call (e : E) (k : A e → Prog E A ε α)

/-- One answered call. -/
abbrev Event (E : Type) (A : E → Type) := (e : E) × A e

/-- What an environment may answer in a state, and the state it is left in. -/
abbrev World (E : Type) (A : E → Type) (σ : Type) := σ → (e : E) → A e → σ → Prop

namespace Prog
variable {E : Type} {A : E → Type} {ε α β σ τ : Type}

def bind : Prog E A ε α → (α → Prog E A ε β) → Prog E A ε β
  | .ret a, f => f a
  | .raise x, _ => .raise x
  | .call e k, f => .call e (fun r => (k r).bind f)

/-- `try` around a program; the handler sees every exception and may raise it again. -/
def handle : Prog E A ε α → (ε → Prog E A ε α) → Prog E A ε α
  | .ret a, _ => .ret a
  | .raise x, f => f x
  | .call e k, f => .call e (fun r => (k r).handle f)

def ask (e : E) : Prog E A ε (A e) := .call e .ret

instance : Monad (Prog E A ε) where
  pure := .ret
  bind := .bind

instance : MonadExceptOf ε (Prog E A ε) where
  throw := .raise
  tryCatch := .handle

@[simp] theorem pure_eq (a : α) : (pure a : Prog E A ε α) = .ret a := rfl
@[simp] theorem bind_eq (p : Prog E A ε α) (f : α → Prog E A ε β) : (p >>= f) = p.bind f := rfl
@[simp] theorem throw_eq (x : ε) : (throw x : Prog E A ε α) = .raise x := rfl
@[simp] theorem tryCatch_eq (p : Prog E A ε α) (f : ε → Prog E A ε α) : tryCatch p f = p.handle f := rfl
@[simp] theorem ret_bind (a : α) (f : α → Prog E A ε β) : (Prog.ret a).bind f = f a := rfl
@[simp] theorem raise_bind (x : ε) (f : α → Prog E A ε β) : (Prog.raise x : Prog E A ε α).bind f = .raise x := rfl
@[simp] theorem call_bind (e : E) (k : A e → Prog E A ε α) (f : α → Prog E A ε β) :
    (Prog.call e k).bind f = .call e (fun r => (k r).bind f) := rfl

/-- Before every call the guard `G` holds, and every end satisfies `Q` or, when raised, `X`. -/
def Meets (W : World E A σ) (G : σ → E → Prop) (Q : σ → α → Prop) (X : σ → ε → Prop) : Prog E A ε α → σ → Prop
  | .ret a, s => Q s a
  | .raise x, s => X s x
  | .call e k, s => G s e ∧ ∀ r s', W s e r s' → (k r).Meets W G Q X s'

section
variable {W : World E A σ} {G G' : σ → E → Prop} {Q Q' : σ → α → Prop} {X X' : σ → ε → Prop}

variable {R : σ → β → Prop}

theorem meets_bind (p : Prog E A ε α) (f : α → Prog E A ε β) (s : σ) :
    (p.bind f).Meets W G R X s ↔ p.Meets W G (fun s' a => (f a).Meets W G R X s') X s := by
  induction p generalizing s with
  | ret a => exact Iff.rfl
  | raise x => exact Iff.rfl
  | call e k ih =>
    refine and_congr Iff.rfl ?_
    exact forall_congr' fun r => forall_congr' fun s' => imp_congr Iff.rfl (ih r s')

theorem meets_handle (p : Prog E A ε α) (f : ε → Prog E A ε α) (s : σ) :
    (p.handle f).Meets W G Q X s ↔ p.Meets W G Q (fun s' x => (f x).Meets W G Q X s') s := by
  induction p generalizing s with
  | ret a => exact Iff.rfl
  | raise x => exact Iff.rfl
  | call e k ih =>
    refine and_congr Iff.rfl ?_
    exact forall_congr' fun r => forall_congr' fun s' => imp_congr Iff.rfl (ih r s')

variable {s : σ} {p : Prog E A ε α}

theorem Meets.mono (h : p.Meets W G Q X s)
    (hG : ∀ s e, G s e → G' s e) (hQ : ∀ s a, Q s a → Q' s a) (hX : ∀ s x, X s x → X' s x) :
    p.Meets W G' Q' X' s := by
  induction p generalizing s with
  | ret a => exact hQ s a h
  | raise x => exact hX s x h
  | call e k ih => exact ⟨hG s e h.1,fun r s' hw => ih r (h.2 r s' hw)⟩

theorem Meets.seq {f : α → Prog E A ε β} (h : p.Meets W G Q X s)
    (hf : ∀ s a, Q s a → (f a).Meets W G R X s) : (p.bind f).Meets W G R X s :=
  (meets_bind p f s).mpr (h.mono (fun _ _ => id) hf (fun _ _ => id))

theorem Meets.and (h : p.Meets W G Q X s) (h' : p.Meets W G' Q' X' s) :
    p.Meets W (fun s e => G s e ∧ G' s e) (fun s a => Q s a ∧ Q' s a) (fun s x => X s x ∧ X' s x) s := by
  induction p generalizing s with
  | ret a => exact ⟨h,h'⟩
  | raise x => exact ⟨h,h'⟩
  | call e k ih => exact ⟨⟨h.1,h'.1⟩,fun r s' hw => ih r (h.2 r s' hw) (h'.2 r s' hw)⟩

theorem Meets.always {P : σ → Prop} (h : p.Meets W G Q X s)
    (hG : ∀ s e, G s e → P s) (hQ : ∀ s a, Q s a → P s) (hX : ∀ s x, X s x → P s) : P s := by
  cases p with
  | ret a => exact hQ s a h
  | raise x => exact hX s x h
  | call e k => exact hG s e h.1

theorem Meets.returned (h : p.Meets W G Q X s) {a : α} (hp : p = .ret a) : Q s a := by
  subst hp
  exact h

theorem Meets.raised (h : p.Meets W G Q X s) {x : ε} (hp : p = .raise x) : X s x := by
  subst hp
  exact h

end

/-- `p` in state `s` makes the calls of a trace and is left as `q` in state `s'`. -/
inductive Runs (W : World E A σ) :
    Prog E A ε α → σ → List (Event E A) → Prog E A ε α → σ → Prop where
  | nil (p : Prog E A ε α) (s : σ) : Runs W p s [] p s
  | call {e : E} {k : A e → Prog E A ε α} {r : A e} {s s' s'' : σ} {t : List (Event E A)}
      {q : Prog E A ε α} (hw : W s e r s') (h : Runs W (k r) s' t q s'') :
      Runs W (.call e k) s (⟨e,r⟩ :: t) q s''

variable {e : E} {a : α} {s s' : σ} {p : Prog E A ε α} {f : α → Prog E A ε β} {h t u : List (Event E A)}

/-- A rule holds of whatever is left of the program after any part of a run. -/
theorem Meets.runs {W : World E A σ} {G : σ → E → Prop} {Q : σ → α → Prop} {X : σ → ε → Prop}
    {q : Prog E A ε α} (h : p.Meets W G Q X s) (hr : Runs W p s t q s') : q.Meets W G Q X s' := by
  induction hr with
  | nil => exact h
  | call hw _ ih => exact ih (h.2 _ _ hw)

theorem Runs.trans {W : World E A σ} {q o : Prog E A ε α} {s'' : σ}
    (h : Runs W p s t q s') (h' : Runs W q s' u o s'') : Runs W p s (t ++ u) o s'' := by
  induction h with
  | nil => exact h'
  | call hw _ ih => exact .call hw (ih h')

variable {x : ε} {v : List (Event E A)} {k : A e → Prog E A ε α}

theorem Runs.one {W : World E A σ} {r : A e} (hw : W s e r s') : Runs W (.call e k) s [⟨e,r⟩]
    (k r) s' := .call hw (.nil _ _)

theorem Runs.mono {W V : World E A σ} {q : Prog E A ε α} (h : Runs W p s t q s')
    (hW : ∀ s e r s', W s e r s' → V s e r s') : Runs V p s t q s' := by
  induction h with
  | nil => exact .nil _ _
  | call hw _ ih => exact .call (hW _ _ _ _ hw) ih

def record : World E A (List (Event E A)) := fun h e r h' => h' = h ++ [⟨e,r⟩]

theorem meets_shift {G : List (Event E A) → E → Prop} {Q : List (Event E A) → α → Prop}
    {X : List (Event E A) → ε → Prop} (p : Prog E A ε α) (u s : List (Event E A)) :
    p.Meets record (fun v e => G (u ++ v) e) (fun v a => Q (u ++ v) a) (fun v x => X (u ++ v) x) s ↔
      p.Meets record G Q X (u ++ s) := by
  induction p generalizing s with
  | ret a => exact Iff.rfl
  | raise x => exact Iff.rfl
  | call e k ih =>
    refine and_congr Iff.rfl (forall_congr' fun r => ?_)
    constructor
    · intro h s' hs'
      have hrec : record s e r (s ++ [⟨e,r⟩]) := rfl
      have hk := (ih r _).mp (h _ hrec)
      rw [← List.append_assoc] at hk
      exact hs' ▸ hk
    · intro h s' hs'
      rw [hs']
      refine (ih r _).mpr (h _ ?_)
      rw [← List.append_assoc]
      rfl

theorem Meets.kept {P : E → Prop} {Q : List (Event E A) → α → Prop} {X : List (Event E A) → ε → Prop}
    {s : List (Event E A)} (h : p.Meets record (fun _ e => P e) Q X s) (hs : ∀ y ∈ s, P y.1) :
    p.Meets record (fun v e => P e ∧ ∀ y ∈ v, P y.1) (fun v a => Q v a ∧ ∀ y ∈ v, P y.1)
      (fun v x => X v x ∧ ∀ y ∈ v, P y.1) s := by
  induction p generalizing s with
  | ret a => exact ⟨h,hs⟩
  | raise x => exact ⟨h,hs⟩
  | call e k ih =>
    refine ⟨⟨h.1,hs⟩,fun r s' hs' => ih r (h.2 r s' hs') ?_⟩
    intro y hy
    rw [hs'] at hy
    rcases List.mem_append.mp hy with hold | hnew
    · exact hs y hold
    · rw [List.mem_singleton.mp hnew]
      exact h.1

theorem Meets.grown {G : List (Event E A) → E → Prop} {Q : List (Event E A) → α → Prop}
    {X : List (Event E A) → ε → Prop} (hp : p.Meets record G Q X h) :
    p.Meets record G (fun v a => Q v a ∧ h ⊆ v) (fun v x => X v x ∧ h ⊆ v) h := by
  induction p generalizing h with
  | ret a => exact ⟨hp,List.Subset.refl _⟩
  | raise x => exact ⟨hp,List.Subset.refl _⟩
  | call e k ih =>
    refine ⟨hp.1,?_⟩
    rintro r _ rfl
    have hgrow : h ⊆ h ++ [⟨e,r⟩] := List.subset_append_left _ _
    exact (ih r (hp.2 r _ rfl)).mono (fun _ _ hg => hg) (fun _ _ hq => ⟨hq.1,List.Subset.trans hgrow hq.2⟩)
      (fun _ _ hx => ⟨hx.1,List.Subset.trans hgrow hx.2⟩)

theorem Meets.later {G G' : List (Event E A) → E → Prop} {Q Q' : List (Event E A) → α → Prop}
    {X X' : List (Event E A) → ε → Prop} (hp : p.Meets record G Q X [])
    (hG : ∀ v e, G v e → G' (h ++ v) e) (hQ : ∀ v a, Q v a → Q' (h ++ v) a) (hX : ∀ v x, X v x → X' (h ++ v) x) :
    p.Meets record G' Q' X' h := by
  have hshift := (meets_shift p h []).mp (hp.mono hG hQ hX)
  rwa [List.append_nil] at hshift

theorem Meets.after {G G' : List (Event E A) → E → Prop} {Q : List (Event E A) → α → Prop}
    {R : List (Event E A) → β → Prop} {X X' : List (Event E A) → ε → Prop} (hp : p.Meets record G Q X [])
    (hG : ∀ v e, G v e → G' (h ++ v) e) (hX : ∀ v x, X v x → X' (h ++ v) x)
    (hf : ∀ v a, Q v a → (f a).Meets record G' R X' (h ++ v)) : (p.bind f).Meets record G' R X' h :=
  (meets_bind p f h).mpr (hp.later hG hf hX)

/-- Whatever the environment, a run is one of the answer-anything environment. -/
theorem Runs.record {W : World E A σ} {q : Prog E A ε α} (hr : Runs W p s t q s') (h : List (Event E A)) :
    Runs record p h t q (h ++ t) := by
  induction hr generalizing h with
  | nil => simpa using Runs.nil _ h
  | @call e k r s s' s'' t q _ _ ih =>
    have hs := ih (h ++ [⟨e,r⟩])
    rw [List.append_assoc,List.singleton_append] at hs
    exact .call rfl hs

theorem Meets.traced {G : List (Event E A) → E → Prop} {Q : List (Event E A) → α → Prop}
    {X : List (Event E A) → ε → Prop} (hp : p.Meets Prog.record G Q X h) :
    p.Meets Prog.record G (fun v a => Q v a ∧ ∃ t, v = h ++ t ∧ Runs Prog.record p h t (.ret a) v) X h := by
  induction p generalizing h with
  | ret a => exact ⟨hp,[],(List.append_nil h).symm,.nil _ _⟩
  | raise x => exact hp
  | call e k ih =>
    refine ⟨hp.1,?_⟩
    rintro r _ rfl
    refine (ih r (hp.2 r _ rfl)).mono (fun _ _ hg => hg) ?_ fun _ _ hx => hx
    rintro v a ⟨hq,t,rfl,hrun⟩
    exact ⟨hq,⟨e,r⟩ :: t,List.append_assoc ..,.call rfl hrun⟩

/-- A history is what it started with, and the calls made since. -/
theorem Runs.recorded {q : Prog E A ε α} {h' : List (Event E A)} (hr : Runs Prog.record p h t q h') : h' = h ++ t := by
  induction hr with
  | nil => exact (List.append_nil _).symm
  | call hw _ ih =>
    rw [ih,hw,List.append_assoc]
    rfl

theorem Runs.before {W : World E A σ} {q : Prog E A ε α} {r : A e} (hr : Runs W p s
    (u ++ ⟨e,r⟩ :: v) q s') : ∃ k m, Runs W p s u (.call e k) m := by
  induction u generalizing p s with
  | nil =>
    cases hr with
    | call _ _ => exact ⟨_,_,.nil _ _⟩
  | cons x u ih =>
    cases hr with
    | call hw hrest =>
      obtain ⟨k,m,hu⟩ := ih hrest
      exact ⟨k,m,.call hw hu⟩

/-- Every call of a run was guarded, given what the program had been answered before. -/
theorem Runs.guarded {W : World E A σ} {G : List (Event E A) → E → Prop}
    {Q : List (Event E A) → α → Prop} {X : List (Event E A) → ε → Prop} {q : Prog E A ε α} {r :
    A e} (hm : p.Meets Prog.record G Q X []) (hr : Runs W p s (u ++ ⟨e,r⟩ :: v) q s') : G u e := by
  obtain ⟨k,m,hu⟩ := hr.before
  have hrec := hu.record []
  exact (hm.runs hrec).1

/-- The states an environment goes through along a trace. -/
def Path (W : World E A σ) : σ → List (Event E A) → σ → Prop
  | s, [], s' => s' = s
  | s, x :: t, s' => ∃ m, W s x.1 x.2 m ∧ Path W m t s'

theorem path_append {W : World E A σ} : Path W s (t ++ u) s' ↔ ∃ m, Path W s t m ∧ Path W m u s' := by
  induction t generalizing s with
  | nil => simp [Path]
  | cons x t ih =>
    constructor
    · rintro ⟨m,hw,hrest⟩
      obtain ⟨n,hn,hu⟩ := ih.mp hrest
      exact ⟨n,⟨m,hw,hn⟩,hu⟩
    · rintro ⟨n,⟨m,hw,hn⟩,hu⟩
      exact ⟨m,hw,ih.mpr ⟨n,hn,hu⟩⟩

theorem path_single {W : World E A σ} {x : Event E A} : Path W s [x] s' ↔ W s x.1 x.2 s' := by simp [Path]

theorem Runs.path {W : World E A σ} {q : Prog E A ε α} (hr : Runs W p s t q s') : Path W s t s' := by
  induction hr with
  | nil => rfl
  | call hw _ ih => exact ⟨_,hw,ih⟩

/-- What every guarded call keeps, in the state that the calls before it led to, holds after
any part of a run. -/
theorem Runs.invariant {W : World E A σ} {G : List (Event E A) → E → Prop}
    {Q : List (Event E A) → α → Prop} {X : List (Event E A) → ε → Prop} {q : Prog E A ε α} {I : σ → Prop} (hm :
    p.Meets Prog.record G Q X []) (hr : Runs W p s t q s')
    (h0 : I s) (hs : ∀ u e r m m', Path W s u m → G u e → I m → W m e r m' → I m') : I s' := by
  have hsteps : ∀ {m : σ} {u v : List (Event E A)}, t = u ++ v → Path W s u m → I m → Path W m v s' → I s' := by
    intro m u v ht hu hI hv
    induction v generalizing m u with
    | nil => exact (show s' = m from hv) ▸ hI
    | cons x v ih =>
      obtain ⟨n,hw,hrest⟩ := hv
      have hu' : Path W s (u ++ [x]) n := path_append.mpr ⟨m,hu,path_single.mpr hw⟩
      subst ht
      exact ih (by simp) hu' (hs u x.1 x.2 m n hu (hr.guarded hm) hI hw) hrest
  exact hsteps (u := []) rfl rfl h0 hr.path

/-- The program has returned or raised. -/
def Ended (p : Prog E A ε α) : Prop := (∃ a, p = .ret a) ∨ ∃ x, p = .raise x

theorem Runs.of_ret {W : World E A σ} {q : Prog E A ε α} (h : Runs W (.ret a) s t q s') : t =
    [] ∧ q = .ret a ∧ s' = s := by
  cases h with
  | nil => exact ⟨rfl,rfl,rfl⟩

theorem Runs.of_raise {W : World E A σ} {q : Prog E A ε α} (h : Runs W (.raise x) s t q s') : t =
    [] ∧ q = .raise x ∧ s' = s := by
  cases h with
  | nil => exact ⟨rfl,rfl,rfl⟩

theorem not_ended_call : ¬ (Prog.call e k).Ended := by
  rintro (⟨a,h⟩ | ⟨x,h⟩)
  · cases h
  · cases h

theorem Runs.bind {W : World E A σ} {q : Prog E A ε β} {m : σ}
    (h : Runs W p s t (.ret a) m) (hf : Runs W (f a) m u q s') : Runs W (p.bind f) s (t ++ u) q s' := by
  generalize hp : Prog.ret a = r at h
  induction h with
  | nil =>
    subst hp
    exact hf
  | call hw _ ih => exact .call hw (ih hf hp)

theorem Runs.bind_ended {W : World E A σ} {q : Prog E A ε β} (h : Runs W (p.bind f) s t q s') (hq : q.Ended) :
    (∃ x, Runs W p s t (.raise x) s' ∧ q = .raise x) ∨
      ∃ a u v m, t = u ++ v ∧ Runs W p s u (.ret a) m ∧ Runs W (f a) m v q s' := by
  induction p generalizing s t with
  | ret a => exact .inr ⟨a,[],t,s,rfl,.nil _ _,h⟩
  | raise x =>
    obtain ⟨rfl,rfl,rfl⟩ := Runs.of_raise h
    exact .inl ⟨x,.nil _ _,rfl⟩
  | call e k ih =>
    cases h with
    | nil => exact (not_ended_call hq).elim
    | call hw hrest =>
      rcases ih _ hrest with ⟨x,hx,rfl⟩ | ⟨a,u,v,m,rfl,ha,hv⟩
      · exact .inl ⟨x,.call hw hx,rfl⟩
      · exact .inr ⟨a,_,v,m,rfl,.call hw ha,hv⟩

theorem Runs.handle_ended {W : World E A σ} {q : Prog E A ε α} {f : ε → Prog E A ε α} (h : Runs W
    (p.handle f) s t q s') (hq : q.Ended) : (∃ a, Runs W p s t (.ret a) s' ∧ q = .ret a) ∨
      ∃ x u v m, t = u ++ v ∧ Runs W p s u (.raise x) m ∧ Runs W (f x) m v q s' := by
  induction p generalizing s t with
  | ret a =>
    obtain ⟨rfl,rfl,rfl⟩ := Runs.of_ret h
    exact .inl ⟨a,.nil _ _,rfl⟩
  | raise x => exact .inr ⟨x,[],t,s,rfl,.nil _ _,h⟩
  | call e k ih =>
    cases h with
    | nil => exact (not_ended_call hq).elim
    | call hw hrest =>
      rcases ih _ hrest with ⟨a,ha,rfl⟩ | ⟨x,u,v,m,rfl,hx,hv⟩
      · exact .inl ⟨a,.call hw ha,rfl⟩
      · exact .inr ⟨x,_,v,m,rfl,.call hw hx,hv⟩

section
variable {Q Q' : List (Event E A) → α → Prop} {X X' : List (Event E A) → ε → Prop}

/-- Whatever the program is answered, its calls and what it returns are as `Q` says, or what it raises is as `X`
says. -/
def Leaves (Q : List (Event E A) → α → Prop) (X : List (Event E A) → ε → Prop) : Prog E A ε α → Prop
  | .ret a => Q [] a
  | .raise x => X [] x
  | .call e k => ∀ r, (k r).Leaves (fun t => Q (⟨e,r⟩ :: t)) (fun t => X (⟨e,r⟩ :: t))

variable {p : Prog E A ε α}

theorem Leaves.mono (h : p.Leaves Q X) (hQ : ∀ t a, Q t a → Q' t a) (hX : ∀ t x, X t x → X' t x) :
    p.Leaves Q' X' := by
  induction p generalizing Q Q' X X' with
  | ret a => exact hQ [] a h
  | raise x => exact hX [] x h
  | call e k ih => exact fun r => ih r (h r) (fun t a => hQ _ a) (fun t x => hX _ x)

theorem leaves_of_forall (p : Prog E A ε α) (hQ : ∀ t a, Q t a) (hX : ∀ t x, X t x) : p.Leaves Q X := by
  induction p generalizing Q X with
  | ret a => exact hQ [] a
  | raise x => exact hX [] x
  | call e k ih => exact fun r => ih r (fun t => hQ _) (fun t => hX _)

theorem Leaves.bind {R : List (Event E A) → β → Prop} {f : α → Prog E A ε β}
    (h : p.Leaves (fun t a => (f a).Leaves (fun u => R (t ++ u)) (fun u => X (t ++ u))) X) : (p.bind f).Leaves R X := by
  induction p generalizing R X with
  | ret a => exact h
  | raise x => exact h
  | call e k ih => exact fun r => ih r (h r)

theorem Leaves.handle {f : ε → Prog E A ε α}
    (h : p.Leaves Q (fun t x => (f x).Leaves (fun u => Q (t ++ u)) (fun u => X (t ++ u)))) :
    (p.handle f).Leaves Q X := by
  induction p generalizing Q X with
  | ret a => exact h
  | raise x => exact h
  | call e k ih => exact fun r => ih r (h r)

theorem Leaves.returned {W : World E A σ} {s s' : σ} {t : List (Event E A)} {a : α}
    (h : p.Leaves Q X) (hr : Runs W p s t (.ret a) s') : Q t a := by
  generalize hq : Prog.ret a = q at hr
  induction hr generalizing Q X with
  | nil =>
    subst hq
    exact h
  | call hw _ ih => exact ih (h _) hq

end

section
variable {F : Type} {B : F → Type}

/-- A program among others that also make calls of another kind. -/
def left : Prog E A ε α → Prog (E ⊕ F) (Sum.elim A B) ε α
  | .ret a => .ret a
  | .raise x => .raise x
  | .call e k => .call (.inl e) fun r => (k r).left

variable {W : World (E ⊕ F) (Sum.elim A B) σ} {G : σ → E ⊕ F → Prop} {Q : List (Event E A) → α → Prop}
  {X : List (Event E A) → ε → Prop}

theorem Leaves.meets_left {p : Prog E A ε α} {s : σ} (h : p.Leaves Q X) (hG : ∀ s e, G s (.inl e)) :
    p.left.Meets W G (fun _ a => ∃ t : List (Event E A), (∀ x ∈ t, ∃ m m', W m (.inl x.1) x.2 m') ∧ Q t a)
      (fun _ _ => True) s := by
  induction p generalizing Q X s with
  | ret a => exact ⟨[],by simp,h⟩
  | raise x => trivial
  | call e k ih =>
    refine ⟨hG s e,fun r s' hw => (ih r (h r)).mono (fun _ _ hg => hg) ?_ fun _ _ hx => hx⟩
    rintro v a ⟨t,hallowed,hq⟩
    refine ⟨⟨e,r⟩ :: t,?_,hq⟩
    intro x hx
    rcases List.mem_cons.mp hx with rfl | hx
    · exact ⟨s,s',hw⟩
    · exact hallowed x hx

end

theorem Meets.calls {W : World E A σ} {G : σ → E → Prop} {Q : σ → α → Prop} {X : σ → ε → Prop} {q : Prog E A ε α}
    (h : p.Meets W G Q X s) (hr : Runs W p s t q s') : ∀ x ∈ t, ∃ m, G m x.1 := by
  induction hr with
  | nil => simp
  | call hw _ ih =>
    intro x hx
    rcases List.mem_cons.mp hx with rfl | hx
    · exact ⟨_,h.1⟩
    · exact ih (h.2 _ _ hw) x hx

/-- The environment that answers by a function, asked for the next `n` calls. -/
def drive (respond : σ → (e : E) → A e × σ) : Nat → Prog E A ε α → σ → Prog E A ε α × σ
  | n + 1, .call e k, s => drive respond n (k (respond s e).1) (respond s e).2
  | _, p, s => (p,s)

theorem drive_runs {W : World E A σ} {respond : σ → (e : E) → A e × σ}
    (hr : ∀ s e, W s e (respond s e).1 (respond s e).2) (n : Nat) (p : Prog E A ε α) (s : σ) :
    ∃ t, Runs W p s t (drive respond n p s).1 (drive respond n p s).2 := by
  induction n generalizing p s with
  | zero => exact ⟨[],.nil _ _⟩
  | succ n ih =>
    cases p with
    | ret a => exact ⟨[],.nil _ _⟩
    | raise x => exact ⟨[],.nil _ _⟩
    | call e k =>
      obtain ⟨t,ht⟩ := ih (k (respond s e).1) (respond s e).2
      exact ⟨_,.call (hr s e) ht⟩

/-- What the program has returned. -/
def result : Prog E A ε α → Option α
  | .ret a => some a
  | _ => none

theorem eq_ret_of_result (h : p.result = some a) : p = .ret a := by
  cases p with
  | ret b =>
    cases h
    rfl
  | raise x => cases h
  | call e k => cases h

def raised : Prog E A ε α → Option ε
  | .raise x => some x
  | _ => none

theorem eq_raise_of_raised (h : p.raised = some x) : p = .raise x := by
  cases p with
  | ret a => cases h
  | raise y =>
    cases h
    rfl
  | call e k => cases h

end Prog
end Interaction
