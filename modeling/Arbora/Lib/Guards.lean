import Mathlib.Logic.Basic
import Mathlib.Tactic.SplitIfs

/-! Programs that read and write a state and may raise, where what was written before a
raise stays written. -/
namespace Guards
variable {ε σ α β : Type}

abbrev Op (ε σ α : Type) := EStateM ε σ α

/-- The guard `if c: raise e`. -/
def refuse (c : Prop) [Decidable c] (e : ε) : Op ε σ Unit := if c then throw e else pure ()

/-- What is found, or the error for finding nothing. -/
def found (o : Option α) (e : ε) : Op ε σ α :=
  match o with
  | some a => pure a
  | none => throw e

/-- A check that neither reads nor writes the state. -/
def check (r : Except ε α) : Op ε σ α :=
  match r with
  | .ok a => pure a
  | .error e => throw e

variable {a : α} {e : ε} {c : Prop} {x : Op ε σ α} {f : α → Op ε σ β}

@[simp] theorem pure_ok {b : α} {s t : σ} : (pure a : Op ε σ α).run s = .ok b t ↔ b = a ∧ t = s := by
  rw [EStateM.run_pure,EStateM.Result.ok.injEq]
  exact and_congr eq_comm eq_comm

@[simp] theorem throw_ok {b : α} {s t : σ} : (throw e : Op ε σ α).run s = .ok b t ↔ False := by
  constructor
  · intro h
    cases h
  · exact False.elim

@[simp] theorem get_ok {s t u : σ} : (get : Op ε σ σ).run s = .ok u t ↔ u = s ∧ t = s := by
  rw [EStateM.run_get,EStateM.Result.ok.injEq]
  exact and_congr eq_comm eq_comm

@[simp] theorem modify_ok {f : σ → σ} {u : PUnit} {s t : σ} :
    (modify f : Op ε σ PUnit).run s = .ok u t ↔ t = f s := by
  rw [EStateM.run_modify,EStateM.Result.ok.injEq]
  exact ⟨fun h => h.2.symm,fun h => ⟨rfl,h.symm⟩⟩

@[simp] theorem bind_ok {b : β} {s t : σ} :
    (x >>= f).run s = .ok b t ↔ ∃ a u, x.run s = .ok a u ∧ (f a).run u = .ok b t := by
  rw [EStateM.run_bind]
  cases hx : x.run s with
  | ok a u =>
    constructor
    · intro h
      exact ⟨a,u,rfl,h⟩
    · rintro ⟨_,_,⟨⟩,h⟩
      exact h
  | error e u => simp

@[simp] theorem refuse_ok [Decidable c] {u : Unit} {s t : σ} :
    (refuse c e : Op ε σ Unit).run s = .ok u t ↔ ¬c ∧ t = s := by
  unfold refuse
  split_ifs with h
  · simp [h]
  · simp [h,eq_comm]

@[simp] theorem found_ok {o : Option α} {s t : σ} : (found o e : Op ε σ α).run s = .ok a t ↔ o = some a ∧ t = s := by
  cases o with
  | none => simp [found]
  | some b => simp [found,eq_comm]

@[simp] theorem check_ok {r : Except ε α} {s t : σ} : (check r : Op ε σ α).run s = .ok a t ↔ r = .ok a ∧ t = s := by
  cases r with
  | error e => simp [check]
  | ok b => simp [check,eq_comm]

@[simp] theorem map_ok {g : α → β} {b : β} {s t : σ} :
    (g <$> x).run s = .ok b t ↔ ∃ a, x.run s = .ok a t ∧ g a = b := by
  rw [map_eq_pure_bind,bind_ok]
  constructor
  · rintro ⟨a,u,hx,hb⟩
    obtain ⟨rfl,rfl⟩ := pure_ok.mp hb
    exact ⟨a,hx,rfl⟩
  · rintro ⟨a,hx,rfl⟩
    exact ⟨a,t,hx,rfl⟩

/-! A program that goes on after a look at the state, a guard or a write. -/

theorem get_bind_ok {f : σ → Op ε σ β} {b : β} {s t : σ} :
    (get >>= f).run s = .ok b t ↔ (f s).run s = .ok b t := Iff.rfl
theorem modify_bind_ok {g : σ → σ} {f : PUnit → Op ε σ β} {b : β} {s t : σ} :
    (modify g >>= f).run s = .ok b t ↔ (f ⟨⟩).run (g s) = .ok b t := Iff.rfl

theorem refuse_bind_ok [Decidable c] {f : Unit → Op ε σ β} {b : β} {s t : σ} :
    (refuse c e >>= f).run s = .ok b t ↔ ¬c ∧ (f ()).run s = .ok b t := by
  rw [bind_ok]
  constructor
  · rintro ⟨_,_,hx,h⟩
    obtain ⟨hc,rfl⟩ := refuse_ok.mp hx
    exact ⟨hc,h⟩
  · rintro ⟨hc,h⟩
    exact ⟨(),s,refuse_ok.mpr ⟨hc,rfl⟩,h⟩

theorem refuse_bind_of_not [Decidable c] (h : ¬c) {f : Unit → Op ε σ β} : refuse c e >>= f = f () := by
  rw [refuse,if_neg h,pure_bind]

theorem found_bind_ok {o : Option α} {b : β} {s t : σ} :
    (found o e >>= f).run s = .ok b t ↔ ∃ a, o = some a ∧ (f a).run s = .ok b t := by
  rw [bind_ok]
  constructor
  · rintro ⟨a,_,hx,h⟩
    obtain ⟨ha,rfl⟩ := found_ok.mp hx
    exact ⟨a,ha,h⟩
  · rintro ⟨a,ha,h⟩
    exact ⟨a,s,found_ok.mpr ⟨ha,rfl⟩,h⟩

theorem check_bind_ok {r : Except ε α} {b : β} {s t : σ} :
    (check r >>= f).run s = .ok b t ↔ ∃ a, r = .ok a ∧ (f a).run s = .ok b t := by
  rw [bind_ok]
  constructor
  · rintro ⟨a,_,hx,h⟩
    obtain ⟨ha,rfl⟩ := check_ok.mp hx
    exact ⟨a,ha,h⟩
  · rintro ⟨a,ha,h⟩
    exact ⟨a,s,check_ok.mpr ⟨ha,rfl⟩,h⟩

/-- A raise leaves the state as it was found. -/
def Atomic (x : Op ε σ α) : Prop := ∀ s e t, x.run s = .error e t → t = s

/-- The state is looked at only. -/
def Reads (x : Op ε σ α) : Prop := (∀ s a t, x.run s = .ok a t → t = s) ∧ Atomic x

/-- Nothing is raised. -/
def Returns (x : Op ε σ α) : Prop := ∀ s e t, x.run s ≠ .error e t

theorem Returns.atomic (h : Returns x) : Atomic x := fun s e t hx => absurd hx (h s e t)

theorem reads_pure (a : α) : Reads (pure a : Op ε σ α) := by
  refine ⟨?_,?_⟩
  · intro s b t h
    exact (pure_ok.mp h).2
  · intro s e t h
    cases h

theorem reads_throw (e : ε) : Reads (throw e : Op ε σ α) := by
  refine ⟨?_,?_⟩
  · intro s b t h
    cases h
  · intro s e' t h
    cases h
    rfl

theorem reads_get : Reads (get : Op ε σ σ) := by
  refine ⟨?_,?_⟩
  · intro s b t h
    exact (get_ok.mp h).2
  · intro s e t h
    cases h

theorem reads_refuse (c : Prop) [Decidable c] (e : ε) : Reads (refuse c e : Op ε σ Unit) := by
  unfold refuse
  split_ifs
  · exact reads_throw e
  · exact reads_pure ()

theorem reads_found (o : Option α) (e : ε) : Reads (found o e : Op ε σ α) := by
  cases o with
  | none => exact reads_throw e
  | some a => exact reads_pure a

theorem reads_check (r : Except ε α) : Reads (check r : Op ε σ α) := by
  cases r with
  | error e => exact reads_throw e
  | ok a => exact reads_pure a

theorem bind_error {s t : σ} : (x >>= f).run s = .error e t ↔
      x.run s = .error e t ∨ ∃ a u, x.run s = .ok a u ∧ (f a).run u = .error e t := by
  rw [EStateM.run_bind]
  cases hx : x.run s with
  | ok a u =>
    constructor
    · intro h
      exact .inr ⟨a,u,rfl,h⟩
    · rintro (h | ⟨_,_,⟨⟩,h⟩)
      · cases h
      · exact h
  | error e u => simp

theorem Reads.error_bind (hx : Reads x) {s t : σ}
    (h : (x >>= f).run s = .error e t) : t = s ∨ ∃ a, x.run s = .ok a s ∧ (f a).run s = .error e t := by
  rcases bind_error.mp h with h | ⟨a,u,ha,h⟩
  · exact .inl (hx.2 s e t h)
  · cases hx.1 s a u ha
    exact .inr ⟨a,ha,h⟩

theorem Reads.atomic_bind (hx : Reads x) (hf : ∀ a, Atomic (f a)) : Atomic (x >>= f) := by
  intro s e t h
  rcases bind_error.mp h with h | ⟨a,u,ha,h⟩
  · exact hx.2 s e t h
  · rw [hf a u e t h,hx.1 s a u ha]

theorem Atomic.map (hx : Atomic x) (g : α → β) : Atomic (g <$> x) := by
  intro s e t h
  rcases bind_error.mp h with h | ⟨a,u,_,h⟩
  · exact hx s e t h
  · cases h

theorem Reads.bind (hx : Reads x) (hf : ∀ a, Reads (f a)) : Reads (x >>= f) := by
  refine ⟨?_,hx.atomic_bind fun a => (hf a).2⟩
  intro s b t h
  obtain ⟨a,u,ha,hb⟩ := bind_ok.mp h
  rw [(hf a).1 u b t hb,hx.1 s a u ha]

theorem returns_pure (a : α) : Returns (pure a : Op ε σ α) := by
  intro s e t h
  cases h

theorem returns_modify (f : σ → σ) : Returns (modify f : Op ε σ PUnit) := by
  intro s e t h
  cases h

theorem Returns.bind (hx : Returns x) (hf : ∀ a, Returns (f a)) : Returns (x >>= f) := by
  intro s e t h
  rcases bind_error.mp h with h | ⟨a,u,_,h⟩
  · exact hx s e t h
  · exact hf a u e t h

section
variable {s t : σ}

/-- The state a program leaves, whether or not it raises. -/
def Ends (x : Op ε σ α) (s t : σ) : Prop := (∃ a, x.run s = .ok a t) ∨ ∃ e, x.run s = .error e t

variable {x : Op ε σ α} {f : α → Op ε σ β}

theorem Reads.ends (hx : Reads x) (h : Ends x s t) : t = s := by
  rcases h with ⟨a,h⟩ | ⟨e,h⟩
  · exact hx.1 s a t h
  · exact hx.2 s e t h

theorem ends_bind (h : Ends (x >>= f) s t) :
    (∃ e, x.run s = .error e t) ∨ ∃ a u, x.run s = .ok a u ∧ Ends (f a) u t := by
  rcases h with ⟨b,h⟩ | ⟨e,h⟩
  · obtain ⟨a,u,hx,h⟩ := bind_ok.mp h
    exact .inr ⟨a,u,hx,.inl ⟨b,h⟩⟩
  · rcases bind_error.mp h with h | ⟨a,u,hx,h⟩
    · exact .inl ⟨e,h⟩
    · exact .inr ⟨a,u,hx,.inr ⟨e,h⟩⟩

theorem Reads.ends_bind (hx : Reads x) (h : Ends (x >>= f) s t) :
    t = s ∨ ∃ a, x.run s = .ok a s ∧ Ends (f a) s t := by
  rcases Guards.ends_bind h with ⟨e,h⟩ | ⟨a,u,ha,h⟩
  · exact .inl (hx.2 s e t h)
  · cases hx.1 s a u ha
    exact .inr ⟨a,ha,h⟩

theorem ends_refuse_bind {c : Prop} [Decidable c] {e : ε} {f : Unit → Op ε σ β}
    (h : Ends (refuse c e >>= f) s t) : t = s ∨ ¬c ∧ Ends (f ()) s t := by
  rcases (reads_refuse c e).ends_bind h with h | ⟨_,hc,h⟩
  · exact .inl h
  · exact .inr ⟨(refuse_ok.mp hc).1,h⟩

theorem ends_found_bind {o : Option α} {e : ε} (h : Ends (found o e >>= f) s t) :
    t = s ∨ ∃ a, o = some a ∧ Ends (f a) s t := by
  rcases (reads_found o e).ends_bind h with h | ⟨a,ha,h⟩
  · exact .inl h
  · exact .inr ⟨a,(found_ok.mp ha).1,h⟩

theorem ends_get_bind {f : σ → Op ε σ β} (h : Ends (get >>= f) s t) : Ends (f s) s t := h
theorem ends_modify_bind {g : σ → σ} {f : PUnit → Op ε σ β} (h : Ends (modify g >>= f) s t) : Ends (f ⟨⟩) (g s) t := h

theorem ends_map {g : α → β} (h : Ends (g <$> x) s t) : Ends x s t := by
  rcases ends_bind h with ⟨e,h⟩ | ⟨a,u,hx,h⟩
  · exact .inr ⟨e,h⟩
  · cases (reads_pure (g a)).ends h
    exact .inl ⟨a,hx⟩

end

section
variable {V : σ → σ → Prop} {s t : σ}

/-- Two runs end alike: with the same answer or the same error, in states that are still related. -/
inductive Agrees (V : σ → σ → Prop) : EStateM.Result ε σ α → EStateM.Result ε σ α → Prop where
  | ok {a : α} {s t : σ} (h : V s t) : Agrees V (.ok a s) (.ok a t)
  | error {e : ε} {s t : σ} (h : V s t) : Agrees V (.error e s) (.error e t)

variable {e : ε} {x : Op ε σ α} {f g : α → Op ε σ β}

theorem agrees_bind {y : Op ε σ α} (hxy : Agrees V (x.run s) (y.run t))
    (hfg : ∀ a s' t', V s' t' → Agrees V ((f a).run s') ((g a).run t')) :
    Agrees V ((x >>= f).run s) ((y >>= g).run t) := by
  rw [EStateM.run_bind,EStateM.run_bind]
  generalize x.run s = a at hxy ⊢
  generalize y.run t = b at hxy ⊢
  cases hxy with
  | ok h => exact hfg _ _ _ h
  | error h => exact .error h

theorem agrees_map {y : Op ε σ α} (g : α → β) (hxy : Agrees V (x.run s) (y.run t)) :
    Agrees V ((g <$> x).run s) ((g <$> y).run t) := by
  exact agrees_bind hxy fun a s' t' h => .ok h

theorem agrees_get_bind {f g : σ → Op ε σ β} (h : Agrees V ((f s).run s) ((g t).run t)) :
    Agrees V ((get >>= f).run s) ((get >>= g).run t) := h

theorem agrees_modify_bind {m n : σ → σ} {f g : PUnit → Op ε σ β}
    (h : Agrees V ((f ⟨⟩).run (m s)) ((g ⟨⟩).run (n t))) :
    Agrees V ((modify m >>= f).run s) ((modify n >>= g).run t) := h

theorem agrees_refuse_bind_of {c : Prop} [Decidable c] {f g : Unit → Op ε σ β} (hst : V s t)
    (h : ¬c → Agrees V ((f ()).run s) ((g ()).run t)) :
    Agrees V ((refuse c e >>= f).run s) ((refuse c e >>= g).run t) := by
  by_cases hc : c
  · unfold refuse
    rw [if_pos hc]
    exact .error hst
  · rw [refuse_bind_of_not hc,refuse_bind_of_not hc]
    exact h hc

theorem agrees_refuse_bind {c : Prop} [Decidable c] {f g : Unit → Op ε σ β} (hst : V s t)
    (h : Agrees V ((f ()).run s) ((g ()).run t)) :
    Agrees V ((refuse c e >>= f).run s) ((refuse c e >>= g).run t) := agrees_refuse_bind_of hst fun _ => h

/-- A program that does not look at the state ends alike everywhere. -/
theorem agrees_check_like (hx : ∃ r, x = check r) (hst : V s t) : Agrees V (x.run s) (x.run t) := by
  obtain ⟨r,rfl⟩ := hx
  cases r with
  | error e => exact .error hst
  | ok a => exact .ok hst

theorem agrees_found_bind {o p : Option α} (hst : V s t) (hop : o = p)
    (h : ∀ a, p = some a → Agrees V ((f a).run s) ((g a).run t)) :
    Agrees V ((found o e >>= f).run s) ((found p e >>= g).run t) := by
  subst hop
  cases o with
  | none => exact .error hst
  | some a => exact h a rfl

theorem agrees_check_bind {q r : Except ε α} (hst : V s t) (hqr : q = r)
    (h : ∀ a, r = .ok a → Agrees V ((f a).run s) ((g a).run t)) :
    Agrees V ((check q >>= f).run s) ((check r >>= g).run t) := by
  subst hqr
  cases q with
  | error e => exact .error hst
  | ok a => exact h a rfl

end

end Guards
