import Arbora.Lib.Program

/-! Programs whose calls may be refused: they go on with what they are answered and raise what they are refused with. -/
namespace Interaction.Prog
variable {E : Type} {R : E → Type} {ε α β σ : Type}

/-- Answers that may be refusals. -/
abbrev Fallible (ε : Type) (R : E → Type) (e : E) : Type := Except ε (R e)

theorem bind_assoc {A : E → Type} {γ : Type} (p : Prog E A ε α) (f : α → Prog E A ε β) (h : β → Prog E A ε γ) :
    (p.bind f).bind h = p.bind fun a => (f a).bind h := by
  induction p with
  | ret a => rfl
  | raise x => rfl
  | call e k ih => exact congrArg (Prog.call e) (funext ih)

theorem bind_ret {A : E → Type} (p : Prog E A ε α) : p.bind .ret = p := by
  induction p with
  | ret a => rfl
  | raise x => rfl
  | call e k ih => exact congrArg (Prog.call e) (funext ih)

section
variable {A : E → Type}

def ofExcept : Except ε α → Prog E A ε α
  | .ok a => .ret a
  | .error x => .raise x

/-- The guard `if c: raise x`. -/
def refuse (c : Prop) [Decidable c] (x : ε) : Prog E A ε Unit := if c then .raise x else .ret ()

def found (o : Option α) (x : ε) : Prog E A ε α := o.elim (.raise x) .ret

variable {W : World E A σ} {G : σ → E → Prop} {Q : σ → β → Prop} {X : σ → ε → Prop} {s : σ}

theorem meets_ofExcept_bind {r : Except ε α} {f : α → Prog E A ε β} : ((ofExcept r).bind f).Meets W G Q X s ↔
      (∀ x, r = .error x → X s x) ∧ ∀ a, r = .ok a → (f a).Meets W G Q X s := by
  cases r with
  | ok a =>
    refine ⟨fun h => ⟨?_,?_⟩,fun h => h.2 a rfl⟩
    · rintro x ⟨⟩
    · rintro _ ⟨⟩
      exact h
  | error x =>
    refine ⟨fun h => ⟨?_,?_⟩,fun h => h.1 x rfl⟩
    · rintro _ ⟨⟩
      exact h
    · rintro a ⟨⟩

theorem meets_refuse_bind {c : Prop} {d : Decidable c} {x : ε} {f : Unit → Prog E A ε β} :
    ((refuse c x).bind f).Meets W G Q X s ↔ (c → X s x) ∧ (¬c → (f ()).Meets W G Q X s) := by
  unfold refuse
  split_ifs with h
  · exact ⟨fun hx => ⟨fun _ => hx,fun hn => absurd h hn⟩,fun hx => hx.1 h⟩
  · exact ⟨fun hf => ⟨fun hc => absurd hc h,fun _ => hf⟩,fun hf => hf.2 h⟩

theorem meets_found_bind {o : Option α} {x : ε} {f : α → Prog E A ε β} : ((found o x).bind f).Meets W G Q X s ↔
      (o = none → X s x) ∧ ∀ a, o = some a → (f a).Meets W G Q X s := by
  cases o with
  | none =>
    refine ⟨fun h => ⟨fun _ => h,?_⟩,fun h => h.1 rfl⟩
    rintro a ⟨⟩
  | some a =>
    refine ⟨fun h => ⟨?_,?_⟩,fun h => h.2 a rfl⟩
    · rintro ⟨⟩
    · rintro _ ⟨⟩
      exact h

end

/-- A call that raises what it is refused with. -/
def demand (e : E) : Prog E (Fallible ε R) ε (R e) := .call e ofExcept

theorem meets_demand_bind {W : World E (Fallible ε R) σ} {G : σ → E → Prop} {Q : σ → β → Prop} {X : σ → ε → Prop} {s : σ}
    {e : E} {f : R e → Prog E (Fallible ε R) ε β} : ((demand e).bind f).Meets W G Q X s ↔ G s e ∧ ∀ r s', W s e r s' →
      (∀ x, r = .error x → X s' x) ∧ ∀ a, r = .ok a → (f a).Meets W G Q X s' :=
  and_congr Iff.rfl (forall_congr' fun _ => forall_congr' fun _ => imp_congr Iff.rfl meets_ofExcept_bind)

theorem meets_record_demand_bind {G : List (Event E (Fallible ε R)) → E → Prop}
    {Q : List (Event E (Fallible ε R)) → β → Prop} {X : List (Event E (Fallible ε R)) → ε → Prop}
    {h : List (Event E (Fallible ε R))} {e : E} {f : R e → Prog E (Fallible ε R) ε β} (hg : G h e)
    (hx : ∀ x, X (h ++ [⟨e,.error x⟩]) x) (hf : ∀ a, (f a).Meets record G Q X (h ++ [⟨e,.ok a⟩])) :
    ((demand e).bind f).Meets record G Q X h := by
  refine meets_demand_bind.mpr ⟨hg,?_⟩
  rintro r _ rfl
  refine ⟨?_,?_⟩
  · rintro x rfl
    exact hx x
  · rintro a rfl
    exact hf a

/-- Of a demand whose refusal is no one's concern. -/
theorem meets_ask_bind {G : List (Event E (Fallible ε R)) → E → Prop} {Q : List (Event E (Fallible ε R)) → β → Prop}
    {h : List (Event E (Fallible ε R))} {e : E} {f : R e → Prog E (Fallible ε R) ε β} (hg : G h e)
    (hf : ∀ a, (f a).Meets record G Q (fun _ _ => True) (h ++ [⟨e,.ok a⟩])) :
    ((demand e).bind f).Meets record G Q (fun _ _ => True) h :=
  meets_record_demand_bind hg (fun _ => trivial) hf

section
variable {A : E → Type} {W : World E A σ} {s s' s'' : σ} {p : Prog E A ε α} {a : α} {b : β}

def Reaches (W : World E A σ) (p : Prog E A ε α) (s : σ) (a : α) (s' : σ) : Prop := ∃ t, Runs W p s t (.ret a) s'

theorem Reaches.ret : Reaches W (.ret a : Prog E A ε α) s a s := ⟨[],.nil _ _⟩

theorem Reaches.bind {f : α → Prog E A ε β} (hp : Reaches W p s a s') (hf : Reaches W (f a) s' b s'') :
    Reaches W (p.bind f) s b s'' := by
  obtain ⟨t,ht⟩ := hp
  obtain ⟨u,hu⟩ := hf
  exact ⟨t ++ u,ht.bind hu⟩

theorem Reaches.handle {f : ε → Prog E A ε α} (hp : Reaches W p s a s') : Reaches W (p.handle f) s a s' := by
  obtain ⟨t,ht⟩ := hp
  refine ⟨t,?_⟩
  generalize hq : Prog.ret a = q at ht
  induction ht with
  | nil =>
    subst hq
    exact .nil _ _
  | call hw _ ih => exact .call hw (ih hq)

variable {e : E} {x : ε}

theorem reaches_ask_bind {r : A e} {f : A e → Prog E A ε β} (hw : W s e r s') (hf : Reaches W (f r) s' b s'') :
    Reaches W ((ask e).bind f) s b s'' := by
  obtain ⟨u,hu⟩ := hf
  exact ⟨⟨e,r⟩ :: u,.call hw hu⟩

theorem reaches_refuse {c : Prop} {d : Decidable c} (hc : ¬c) : Reaches W (refuse (E := E) (A := A) c x) s () s := by
  unfold refuse
  rw [if_neg hc]
  exact .ret

theorem reaches_refuse_bind {c : Prop} {d : Decidable c} {f : Unit → Prog E A ε β} (hc : ¬c)
    (hf : Reaches W (f ()) s b s') : Reaches W ((refuse c x).bind f) s b s' := by
  unfold refuse
  rw [if_neg hc]
  exact hf

theorem reaches_found_bind {r : α} {f : α → Prog E A ε β} (hf : Reaches W (f r) s b s') :
    Reaches W ((found (some r) x).bind f) s b s' := hf

variable {V : World E (Fallible ε R) σ}

theorem reaches_demand {r : R e} (hw : V s e (.ok r) s') : Reaches V (demand e) s r s' := ⟨_,.call hw (.nil _ _)⟩

theorem reaches_demand_bind {r : R e} {f : R e → Prog E (Fallible ε R) ε β} (hw : V s e (.ok r) s')
    (hf : Reaches V (f r) s' b s'') : Reaches V ((demand e).bind f) s b s'' := by
  obtain ⟨u,hu⟩ := hf
  exact ⟨⟨e,.ok r⟩ :: u,.call hw hu⟩

end

section
variable {A : E → Type} (g : (e : E) → A e)

/-- What a program comes to when its calls are answered by a function. -/
def eval : Prog E A ε α → Except ε α
  | .ret a => .ok a
  | .raise x => .error x
  | .call e k => eval (k (g e))

def Makes (P : E → Prop) : Prog E A ε α → Prop
  | .ret _ => True
  | .raise _ => True
  | .call e k => P e ∧ Makes P (k (g e))

/-- How many calls a program makes when a function answers them. -/
def calls : Prog E A ε α → ℕ
  | .ret _ => 0
  | .raise _ => 0
  | .call e k => calls (k (g e)) + 1

/-- The calls that a program makes when a function answers them. -/
def made : Prog E A ε α → List E
  | .ret _ => []
  | .raise _ => []
  | .call e k => e :: made (k (g e))

variable {g} {P P' : E → Prop}

theorem runs_made (p : Prog E A ε α) :
    ∃ q, Runs (fun _ e r _ => r = g e) p () ((p.made g).map fun e => ⟨e,g e⟩) q () := by
  induction p with
  | ret a => exact ⟨_,.nil _ _⟩
  | raise x => exact ⟨_,.nil _ _⟩
  | call e k ih =>
    obtain ⟨q,hq⟩ := ih (g e)
    exact ⟨q,.call rfl hq⟩

theorem runs_of_eval {p : Prog E A ε α} {a : α} (h : p.eval g = .ok a) :
    Runs (fun _ e r _ => r = g e) p () ((p.made g).map fun e => ⟨e,g e⟩) (.ret a) () := by
  induction p with
  | ret b =>
    cases h
    exact .nil _ _
  | raise x => cases h
  | call e k ih => exact .call rfl (ih (g e) h)

theorem eval_bind (p : Prog E A ε α) (f : α → Prog E A ε β) :
    (p.bind f).eval g = (p.eval g).bind fun a => (f a).eval g := by
  induction p with
  | ret a => rfl
  | raise x => rfl
  | call e k ih => exact ih (g e)

@[simp] theorem eval_ret (a : α) : (Prog.ret a : Prog E A ε α).eval g = .ok a := rfl
@[simp] theorem eval_raise (x : ε) : (Prog.raise x : Prog E A ε α).eval g = .error x := rfl
@[simp] theorem eval_ask (e : E) : (ask e : Prog E A ε (A e)).eval g = .ok (g e) := rfl
@[simp] theorem eval_ask_bind (e : E) (f : A e → Prog E A ε β) : ((ask e).bind f).eval g = (f (g e)).eval g := rfl
@[simp] theorem eval_ofExcept (r : Except ε α) : (ofExcept r : Prog E A ε α).eval g = r := by cases r <;> rfl

variable {e : E} {f : α → Prog E A ε β}

theorem eval_bind_of_ok {p : Prog E A ε α} {a : α} (h : p.eval g = .ok a) : (p.bind f).eval g = (f a).eval g := by
  rw [eval_bind,h]
  rfl

theorem eval_handle (p : Prog E A ε α) (f : ε → Prog E A ε α) :
    (p.handle f).eval g = match p.eval g with
      | .ok a => .ok a
      | .error x => (f x).eval g := by
  induction p with
  | ret a => rfl
  | raise x => rfl
  | call e k ih => exact ih (g e)

theorem eval_left {F : Type} {B : F → Type} {g : (e : E ⊕ F) → Sum.elim A B e} (p : Prog E A ε α) :
    p.left.eval g = p.eval fun e => g (.inl e) := by
  induction p with
  | ret a => rfl
  | raise x => rfl
  | call e k ih => exact ih _

theorem made_bind_of_ok {p : Prog E A ε α} {a : α} (h : p.eval g = .ok a) :
    (p.bind f).made g = p.made g ++ (f a).made g := by
  induction p with
  | ret b =>
    cases h
    rfl
  | raise x => cases h
  | call e k ih => exact congrArg (e :: ·) (ih (g e) h)

theorem mem_made_left {p : Prog E A ε α} (h : e ∈ p.made g) : e ∈ (p.bind f).made g := by
  induction p with
  | ret a => cases h
  | raise x => cases h
  | call e' k ih =>
    rcases List.mem_cons.mp h with rfl | hrest
    · exact List.mem_cons_self
    · exact List.mem_cons_of_mem _ (ih (g e') hrest)

theorem mem_made_handle {p : Prog E A ε α} {f : ε → Prog E A ε α} (h : e ∈ p.made g) : e ∈ (p.handle f).made g := by
  induction p with
  | ret a => cases h
  | raise x => cases h
  | call e' k ih =>
    rcases List.mem_cons.mp h with rfl | hrest
    · exact List.mem_cons_self
    · exact List.mem_cons_of_mem _ (ih (g e') hrest)

theorem mem_made_right {p : Prog E A ε α} {a : α} (hp : p.eval g = .ok a)
    (h : e ∈ (f a).made g) : e ∈ (p.bind f).made g := by
  induction p with
  | ret b =>
    cases hp
    exact h
  | raise x => cases hp
  | call e' k ih => exact List.mem_cons_of_mem _ (ih (g e') hp)

theorem makes_bind {p : Prog E A ε α} (hp : p.Makes g P)
    (hf : ∀ a, p.eval g = .ok a → (f a).Makes g P) : (p.bind f).Makes g P := by
  induction p with
  | ret a => exact hf a rfl
  | raise x => trivial
  | call e k ih => exact ⟨hp.1,ih (g e) hp.2 hf⟩

/-- What a program comes to, with all calls that it makes, when a function answers them. -/
def Yields (g : (e : E) → A e) (P : E → Prop) (p : Prog E A ε α) (a : α) : Prop := p.eval g = .ok a ∧ p.Makes g P

theorem Yields.bind {p : Prog E A ε α} {a : α} {b : β} (hp : Yields g P p a)
    (hf : Yields g P (f a) b) : Yields g P (p.bind f) b := by
  refine ⟨?_,makes_bind hp.2 fun a' ha' => ?_⟩
  · rw [eval_bind,hp.1]
    exact hf.1
  · rw [hp.1] at ha'
    cases ha'
    exact hf.2

theorem yields_refuse_bind {c : Prop} {d : Decidable c} {x : ε} {f : Unit → Prog E A ε β} {b : β} (hc : ¬c)
    (hf : Yields g P (f ()) b) : Yields g P ((refuse c x).bind f) b := by
  unfold refuse
  rw [if_neg hc]
  exact hf

variable {W : World E A σ} {p q : Prog E A ε α} {s s' : σ} {t : List (Event E A)}

theorem Runs.answered (h : Runs W p s t q s') (ht : ∀ x ∈ t, x.2 = g x.1) :
    q.eval g = p.eval g ∧ p.calls g = t.length + q.calls g := by
  induction h with
  | nil => exact ⟨rfl,(Nat.zero_add _).symm⟩
  | @call e k r s s' s'' t q _ _ ih =>
    have hr : r = g e := ht ⟨e,r⟩ List.mem_cons_self
    obtain ⟨heval,hcalls⟩ := ih fun x hx => ht x (List.mem_cons_of_mem _ hx)
    subst hr
    refine ⟨heval,?_⟩
    rw [calls,hcalls,List.length_cons]
    omega

theorem Makes.runs (hp : p.Makes g P) (h : Runs W p s t q s') (ht : ∀ x ∈ t, x.2 = g x.1) : q.Makes g P := by
  induction h with
  | nil => exact hp
  | @call e k r s s' s'' t q _ _ ih =>
    have hr : r = g e := ht ⟨e,r⟩ List.mem_cons_self
    subst hr
    exact ih hp.2 fun x hx => ht x (List.mem_cons_of_mem _ hx)

theorem Runs.answers (h : Runs W p s t q s') (hp : p.Makes g P) (ht : ∀ x ∈ t, P x.1 → x.2 = g x.1) :
    ∀ x ∈ t, x.2 = g x.1 := by
  induction h with
  | nil => exact fun x hx => absurd hx List.not_mem_nil
  | @call e k r s s' s'' t q _ _ ih =>
    have hr : r = g e := ht ⟨e,r⟩ List.mem_cons_self hp.1
    subst hr
    intro x hx
    rcases List.mem_cons.mp hx with rfl | hrest
    · rfl
    · exact ih hp.2 (fun y hy => ht y (List.mem_cons_of_mem _ hy)) x hrest

theorem eq_ret_of_calls {a : α} (h : p.eval g = .ok a) (hcalls : p.calls g = 0) : p = .ret a := by
  cases p with
  | ret b =>
    cases h
    rfl
  | raise x => cases h
  | call e k => cases hcalls

theorem Makes.mono {p : Prog E A ε α} (h : p.Makes g P) (hP : ∀ e, P e → P' e) : p.Makes g P' := by
  induction p with
  | ret a => trivial
  | raise x => trivial
  | call e k ih => exact ⟨hP e h.1,ih (g e) h.2⟩

end

section
variable {A : E → Type} {rank : E → ℕ} {l m n : ℕ} {p q : Prog E A ε α}

/-- Calls come in the order of their ranks, from `n` on and up to `m`. -/
def Ascends (rank : E → ℕ) (m : ℕ) : Prog E A ε α → ℕ → Prop
  | .ret _, n => n ≤ m
  | .raise _, n => n ≤ m
  | .call e k, n => n ≤ rank e ∧ ∀ r, Ascends rank m (k r) (rank e+1)

theorem Ascends.earlier (h : p.Ascends rank m n) (hl : l ≤ n) : p.Ascends rank m l := by
  cases p with
  | ret a => exact Nat.le_trans hl h
  | raise x => exact Nat.le_trans hl h
  | call e k => exact ⟨Nat.le_trans hl h.1,h.2⟩

theorem Ascends.bind {f : α → Prog E A ε β} (hp : p.Ascends rank m n) (hm : m ≤ l) (hf : ∀ a, (f a).Ascends rank l m) :
    (p.bind f).Ascends rank l n := by
  induction p generalizing n with
  | ret a => exact (hf a).earlier hp
  | raise x => exact Nat.le_trans hp hm
  | call e k ih => exact ⟨hp.1,fun r => ih r (hp.2 r)⟩

theorem Ascends.handle {f : ε → Prog E A ε α} (hp : p.Ascends rank m n) (hm : m ≤ l) (hf : ∀ x, (f x).Ascends rank l m) :
    (p.handle f).Ascends rank l n := by
  induction p generalizing n with
  | ret a => exact Nat.le_trans hp hm
  | raise x => exact (hf x).earlier hp
  | call e k ih => exact ⟨hp.1,fun r => ih r (hp.2 r)⟩

theorem ascends_ofExcept {r : Except ε α} (h : n ≤ m) : (ofExcept r : Prog E A ε α).Ascends rank m n := by
  cases r with
  | ok a => exact h
  | error x => exact h

theorem ascends_ask_bind {e : E} {f : A e → Prog E A ε α} (h : n ≤ rank e) (hf : ∀ r, (f r).Ascends rank m (rank e+1)) :
    ((ask e).bind f).Ascends rank m n := ⟨h,hf⟩

variable {W : World E A σ} {s s' : σ} {t : List (Event E A)}

theorem Runs.ranked (h : Runs W p s t q s') (hp : p.Ascends rank m n) : ∀ x ∈ t, n ≤ rank x.1 := by
  induction h generalizing n with
  | nil => exact fun x hx => absurd hx List.not_mem_nil
  | call _ _ ih =>
    intro x hx
    rcases List.mem_cons.mp hx with rfl | hrest
    · exact hp.1
    · exact Nat.le_trans hp.1 (Nat.le_trans (Nat.le_succ _) (ih (hp.2 _) x hrest))

theorem Runs.ranked_below {a : α} (h : Runs W p s t (.ret a) s') (hp : p.Ascends rank m n) :
    n ≤ m ∧ ∀ x ∈ t, rank x.1 < m := by
  generalize hq : Prog.ret a = q at h
  induction h generalizing n with
  | nil =>
    subst hq
    exact ⟨hp,fun x hx => absurd hx List.not_mem_nil⟩
  | call _ _ ih =>
    obtain ⟨hm,hrest⟩ := ih (hp.2 _) hq
    refine ⟨Nat.le_trans hp.1 (Nat.le_of_succ_le hm),fun x hx => ?_⟩
    rcases List.mem_cons.mp hx with rfl | hx
    · exact hm
    · exact hrest x hx

open Classical in
theorem Runs.answerable (h : Runs W p s t q s') (hp : p.Ascends rank m n) {P : (e : E) → A e → Prop}
    (ht : ∀ x ∈ t, P x.1 x.2) (hP : ∀ e, ∃ r, P e r) : ∃ g : (e : E) → A e, (∀ x ∈ t, x.2 = g x.1) ∧ ∀ e, P e (g e) := by
  induction h generalizing n with
  | nil => exact ⟨fun e => (hP e).choose,fun x hx => absurd hx List.not_mem_nil,fun e => (hP e).choose_spec⟩
  | @call e k r s s' s'' t q _ hrest ih =>
    obtain ⟨g,hg,hgP⟩ := ih (hp.2 r) fun x hx => ht x (List.mem_cons_of_mem _ hx)
    refine ⟨Function.update g e r,?_,?_⟩
    · intro x hx
      rcases List.mem_cons.mp hx with rfl | hx
      · exact (Function.update_self e r g).symm
      · have hne : x.1 ≠ e := by
          intro he
          have hrank := hrest.ranked (hp.2 r) x hx
          rw [he] at hrank
          omega
        rw [Function.update_of_ne hne]
        exact hg x hx
    · intro e'
      by_cases he : e' = e
      · subst he
        rw [Function.update_self]
        exact ht _ List.mem_cons_self
      · rw [Function.update_of_ne he]
        exact hgP e'

theorem Runs.evaluated {a : α} (h : Runs W p s t (.ret a) s') {g : (e : E) → A e} (hg : ∀ x ∈ t, x.2 = g x.1) :
    p.eval g = .ok a := (h.answered hg).1.symm

end

section
variable {P : E → Prop} {g : (e : E) → Fallible ε R e}

/-- A program that makes calls of one kind and raises what it is refused with. -/
inductive Heeds (P : E → Prop) : Prog E (Fallible ε R) ε α → Prop where
  | ret (a : α) : Heeds P (.ret a)
  | raise (x : ε) : Heeds P (.raise x)
  | call {e : E} {k : Fallible ε R e → Prog E (Fallible ε R) ε α} (he : P e) (hx : ∀ x, k (.error x) = .raise x)
      (hk : ∀ a, Heeds P (k (.ok a))) : Heeds P (.call e k)

theorem Heeds.bind {p : Prog E (Fallible ε R) ε α} {f : α → Prog E (Fallible ε R) ε β} (hp : Heeds P p)
    (hf : ∀ a, Heeds P (f a)) : Heeds P (p.bind f) := by
  induction hp with
  | ret a => exact hf a
  | raise x => exact .raise x
  | call he hx _ ih =>
    refine .call he (fun x => ?_) ih
    rw [hx]
    rfl

theorem heeds_refuse {c : Prop} {d : Decidable c} {x : ε} : Heeds P (refuse (E := E) (A := Fallible ε R) c x) := by
  unfold refuse
  split_ifs
  · exact .raise x
  · exact .ret ()

theorem heeds_found {o : Option α} {x : ε} : Heeds P (found (E := E) (A := Fallible ε R) o x) := by
  cases o with
  | none => exact .raise x
  | some a => exact .ret a

theorem heeds_ofExcept {r : Except ε α} : Heeds P (ofExcept r : Prog E (Fallible ε R) ε α) := by
  cases r with
  | ok a => exact .ret a
  | error x => exact .raise x

theorem heeds_demand {e : E} (he : P e) : Heeds P (demand (ε := ε) (R := R) e) := .call he (fun _ => rfl) fun a => .ret a

theorem yields_demand_bind {e : E} {a : R e} {f : R e → Prog E (Fallible ε R) ε β} {b : β} (he : P e) (ha : g e = .ok a)
    (hf : Yields g P (f a) b) : Yields g P ((demand e).bind f) b := by
  have hdemand : Yields g P (demand e) a := by
    refine ⟨?_,he,?_⟩
    · unfold demand eval
      rw [ha]
      rfl
    · rw [ha]
      trivial
  exact hdemand.bind hf

theorem Heeds.makes {p : Prog E (Fallible ε R) ε α} (hp : Heeds P p) : p.Makes g P := by
  induction hp with
  | ret a => trivial
  | raise x => trivial
  | @call e k he hx _ ih =>
    refine ⟨he,?_⟩
    cases g e with
    | error x =>
      rw [hx]
      trivial
    | ok a => exact ih a

/-- All calls are of the kind, whatever they are answered. -/
theorem Heeds.meets {p : Prog E (Fallible ε R) ε α} (hp : Heeds P p) (h : List (Event E (Fallible ε R))) :
    p.Meets record (fun _ e => P e) (fun _ _ => True) (fun _ _ => True) h := by
  induction hp generalizing h with
  | ret a => trivial
  | raise x => trivial
  | @call e k he hx _ ih =>
    refine ⟨he,?_⟩
    rintro r h' -
    cases r with
    | error x =>
      rw [hx]
      trivial
    | ok a => exact ih a h'

theorem Heeds.returned {p q : Prog E (Fallible ε R) ε α} {W : World E (Fallible ε R) σ} {s s' : σ} {a : α}
    {t : List (Event E (Fallible ε R))} (hp : Heeds P p) (h : Runs W p s t q s') (hq : q = .ret a) :
    ∀ x ∈ t, P x.1 ∧ ∃ r, x.2 = .ok r := by
  induction h with
  | nil => exact fun x hx => absurd hx List.not_mem_nil
  | @call e k r s s' s'' t q hw hrest ih =>
    cases hp with
    | call he hx hk =>
      cases r with
      | error x =>
        rw [hx] at hrest
        obtain ⟨-,hraise,-⟩ := Runs.of_raise hrest
        rw [hraise] at hq
        cases hq
      | ok a =>
        intro y hy
        rcases List.mem_cons.mp hy with rfl | hy
        · exact ⟨he,a,rfl⟩
        · exact ih (hk a) hq y hy

end

end Interaction.Prog
