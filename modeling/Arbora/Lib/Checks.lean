import Mathlib.Data.List.Forall2

/-! Checks made one after another, the first refusal of which is the answer. -/
namespace Checks
variable {ε α β : Type}

/-- The guard `if c: raise e`. -/
def refuse (c : Prop) [Decidable c] (e : ε) : Except ε Unit := if c then .error e else .ok ()

def found (o : Option α) (e : ε) : Except ε α :=
  match o with
  | some a => .ok a
  | none => .error e

variable {b : β} {e : ε} {a : α} {c : Prop} {x : Except ε α} {f : α → Except ε β}

theorem bind_ok : (x >>= f) = .ok b ↔ ∃ a, x = .ok a ∧ f a = .ok b := by
  cases x with
  | error e => simp [bind,Except.bind]
  | ok a => simp [bind,Except.bind]

theorem exists_ok (h : x.toOption.isSome = true) : ∃ a, x = .ok a := by
  cases x with
  | error e => cases h
  | ok a => exact ⟨a,rfl⟩

theorem map_ok {f : α → β} : f <$> x = .ok b ↔ ∃ a, x = .ok a ∧ f a = b := by
  cases x with
  | error e => simp [Functor.map,Except.map]
  | ok a => simp [Functor.map,Except.map]

theorem refuse_ok [Decidable c] {u : Unit} : refuse c e = .ok u ↔ ¬c := by
  by_cases h : c
  · simp [refuse,h]
  · simp [refuse,h]

theorem dite_ok [Decidable c] {g : c → Except ε α} :
    (if h : c then g h else .error e) = .ok a ↔ ∃ h, g h = .ok a := by
  by_cases h : c
  · simp [h]
  · simp [h]

theorem found_ok {o : Option α} : found o e = .ok a ↔ o = some a := by
  cases o with
  | none => simp [found]
  | some b => simp [found]

theorem refuse_bind_ok [Decidable c] {f : Unit → Except ε β} : (refuse c e >>= f) = .ok b ↔ ¬c ∧ f () = .ok b := by
  rw [bind_ok]
  constructor
  · rintro ⟨u,hu,hb⟩
    exact ⟨refuse_ok.mp hu,hb⟩
  · rintro ⟨hc,hb⟩
    exact ⟨(),refuse_ok.mpr hc,hb⟩

theorem found_bind_ok {o : Option α} : (found o e >>= f) = .ok b ↔ ∃ a, o = some a ∧ f a = .ok b := by
  rw [bind_ok]
  constructor
  · rintro ⟨a,ha,hb⟩
    exact ⟨a,found_ok.mp ha,hb⟩
  · rintro ⟨a,ha,hb⟩
    exact ⟨a,found_ok.mpr ha,hb⟩

theorem then_ok (h : x = .ok a) (hf : f a = .ok b) : (x >>= f) = .ok b := bind_ok.mpr ⟨a,h,hf⟩
theorem passes [Decidable c] (h : ¬c) : refuse c e = .ok () := if_neg h

theorem mapError_ok {ε' : Type} {f : ε → ε'} : x.mapError f = .ok a ↔ x = .ok a := by
  cases x with
  | error e => simp [Except.mapError]
  | ok b => simp [Except.mapError]

section
variable {l : List α}

theorem forM_ok {f : α → Except ε Unit} : l.forM f = .ok () ↔ ∀ a ∈ l, f a = .ok () := by
  induction l with
  | nil => simp [pure,Except.pure]
  | cons a l ih =>
    change (f a >>= fun _ => l.forM f) = .ok () ↔ _
    rw [bind_ok,List.forall_mem_cons,← ih]
    constructor
    · intro h
      obtain ⟨_,ha,hrest⟩ := h
      exact ⟨ha,hrest⟩
    · intro h
      exact ⟨(),h.1,h.2⟩

variable {f : α → Except ε β}

theorem mapM_ok {l' : List β} (h : l.mapM f = .ok l') : List.Forall₂ (fun a b => f a = .ok b) l l' := by
  induction l generalizing l' with
  | nil =>
    cases h
    exact .nil
  | cons a l ih =>
    rw [List.mapM_cons] at h
    obtain ⟨b,hb,hrest⟩ := bind_ok.mp h
    obtain ⟨bs,hbs,hresult⟩ := bind_ok.mp hrest
    cases hresult
    exact .cons hb (ih hbs)

theorem exists_mapM (h : ∀ a ∈ l, ∃ b, f a = .ok b) : ∃ l', l.mapM f = .ok l' := by
  induction l with
  | nil => exact ⟨[],rfl⟩
  | cons a l ih =>
    obtain ⟨b,hb⟩ := h a List.mem_cons_self
    obtain ⟨l',hl'⟩ := ih fun a' ha' => h a' (List.mem_cons_of_mem a ha')
    refine ⟨b :: l',?_⟩
    rw [List.mapM_cons,hb,hl']
    rfl

theorem mapM_map {g : β → α} (h : ∀ b, f (g b) = .ok b) (l : List β) : (l.map g).mapM f = .ok l := by
  induction l with
  | nil => rfl
  | cons b l ih =>
    rw [List.map_cons,List.mapM_cons,h b,ih]
    rfl

end

section
variable {P : ε → Prop}

/-- Whatever is raised is of a kind. -/
def Raises (P : ε → Prop) (x : Except ε α) : Prop := ∀ e, x = .error e → P e

theorem raises_ok (a : α) : Raises P (.ok a : Except ε α) := by
  intro e h
  cases h

variable {e : ε}

theorem raises_error (h : P e) : Raises P (.error e : Except ε α) := by
  intro e' he
  cases he
  exact h

theorem raises_refuse {c : Prop} [Decidable c] (h : P e) : Raises P (refuse c e) := by
  by_cases hc : c
  · rw [refuse,if_pos hc]
    exact raises_error h
  · rw [refuse,if_neg hc]
    exact raises_ok _

theorem raises_found {o : Option α} (h : P e) : Raises P (found o e) := by
  cases o with
  | none => exact raises_error h
  | some a => exact raises_ok a

theorem Raises.bind {x : Except ε α} {f : α → Except ε β} (hx : Raises P x) (hf : ∀ a, x = .ok a → Raises P (f a)) :
    Raises P (x >>= f) := by
  cases x with
  | error e => exact raises_error (hx e rfl)
  | ok a => exact hf a rfl

theorem Raises.of_not_ok {x : Except ε α} (h : Raises P x) (hx : ∀ a, x ≠ .ok a) : ∃ e, x = .error e ∧ P e := by
  cases x with
  | error e => exact ⟨e,rfl,h e rfl⟩
  | ok a => exact (hx a rfl).elim

end
end Checks
