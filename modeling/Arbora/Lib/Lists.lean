import Mathlib.Data.List.MinMax
import Mathlib.Data.List.Sort
import Mathlib.Data.Sym.Sym2

/-! The first least element of a list does not depend on a stable sort before the choice. -/
namespace Selection
variable {α β : Type} [LinearOrder β] {f : α → β}

theorem argmin_swap {a b : α} (l : List α) (h : f a ≠ f b) : (a :: b :: l).argmin f = (b :: a :: l).argmin f := by
  rw [List.argmin_cons,List.argmin_cons,List.argmin_cons,List.argmin_cons]
  cases l.argmin f with
  | none =>
    dsimp only
    rcases lt_or_gt_of_ne h with hlt | hlt
    · rw [if_neg hlt.not_gt,if_pos hlt]
    · rw [if_pos hlt,if_neg hlt.not_gt]
  | some c =>
    by_cases hca : f c < f a
    · by_cases hcb : f c < f b
      · simp [hca,hcb]
      · have hba : f b < f a := (not_lt.mp hcb).trans_lt hca
        simp [hca,hcb,hba]
    · by_cases hcb : f c < f b
      · have hab : f a < f b := (not_lt.mp hca).trans_lt hcb
        simp [hca,hcb,hab]
      · rcases lt_or_gt_of_ne h with hlt | hlt
        · simp [hca,hcb,hlt,hlt.not_gt]
        · simp [hca,hcb,hlt,hlt.not_gt]

theorem argmin_cons_congr (a : α) {l l' : List α} (h : l.argmin f = l'.argmin f) :
    (a :: l).argmin f = (a :: l').argmin f := by
  rw [List.argmin_cons,List.argmin_cons,h]

variable {r : α → α → Prop} [DecidableRel r] (p : α → Bool)

/-- An element passes only those that the choice tells apart from it. -/
theorem argmin_filter_orderedInsert (hr : ∀ a b, ¬r a b → f a ≠ f b) (a : α) (l : List α) :
    ((l.orderedInsert r a).filter p).argmin f = ((a :: l).filter p).argmin f := by
  induction l with
  | nil => rfl
  | cons b l ih =>
    rw [List.orderedInsert_cons]
    split_ifs with hab
    · rfl
    · cases hb : p b with
      | false => simpa [List.filter_cons,hb] using ih
      | true =>
        have hpassed := argmin_cons_congr b ih
        cases ha : p a with
        | false => simpa [List.filter_cons,ha,hb] using hpassed
        | true =>
          have hswap := argmin_swap (l.filter p) (hr a b hab)
          simp only [List.filter_cons,ha,hb,if_true] at hpassed ⊢
          exact hpassed.trans hswap.symm

theorem argmin_filter_insertionSort (hr : ∀ a b, ¬r a b → f a ≠ f b) (l : List α) :
    ((l.insertionSort r).filter p).argmin f = (l.filter p).argmin f := by
  induction l with
  | nil => rfl
  | cons a l ih =>
    rw [List.insertionSort_cons,argmin_filter_orderedInsert p hr]
    cases ha : p a with
    | false => simpa [List.filter_cons,ha] using ih
    | true =>
      simp only [List.filter_cons,ha,if_true]
      exact argmin_cons_congr a ih

end Selection

/-! Items in the order in which they are first seen, and those that are seen more than once. -/
namespace Repetition
variable {α : Type} [DecidableEq α]

def firstSeen : List α → List α
  | [] => []
  | a :: rest => a :: (firstSeen rest).filter (· ≠ a)

def repeated (items : List α) : List α := (firstSeen items).filter fun a => 1 < items.count a

variable {items items' : List α} {a : α}

@[simp] theorem mem_firstSeen : a ∈ firstSeen items ↔ a ∈ items := by
  induction items with
  | nil => rfl
  | cons b rest ih =>
    by_cases h : a = b
    · simp [firstSeen,h]
    · simp [firstSeen,h,ih]

theorem nodup_firstSeen (items : List α) : (firstSeen items).Nodup := by
  induction items with
  | nil => exact List.nodup_nil
  | cons b rest ih =>
    apply List.nodup_cons.mpr
    exact ⟨by simp,ih.filter _⟩

theorem length_firstSeen (items : List α) : (firstSeen items).length ≤ items.length := by
  induction items with
  | nil => simp [firstSeen]
  | cons b rest ih =>
    have hfilter := List.length_filter_le (fun x => decide (x ≠ b)) (firstSeen rest)
    simp only [firstSeen,List.length_cons]
    omega

theorem firstSeen_perm (h : items.Perm items') : (firstSeen items).Perm (firstSeen items') := by
  apply (List.perm_ext_iff_of_nodup (nodup_firstSeen items) (nodup_firstSeen items')).mpr
  simp [h.mem_iff]

@[simp] theorem mem_repeated : a ∈ repeated items ↔ 1 < items.count a := by
  simp only [repeated,List.mem_filter,mem_firstSeen,decide_eq_true_eq,and_iff_right_iff_imp]
  intro h
  exact List.count_pos_iff.mp (by omega)

theorem nodup_repeated (items : List α) : (repeated items).Nodup := (nodup_firstSeen items).filter _

theorem repeated_perm (h : items.Perm items') : (repeated items).Perm (repeated items') := by
  apply (List.perm_ext_iff_of_nodup (nodup_repeated items) (nodup_repeated items')).mpr
  simp [h.count_eq]

theorem repeated_eq_nil_iff : repeated items = [] ↔ items.Nodup := by
  rw [List.eq_nil_iff_forall_not_mem,List.nodup_iff_count_le_one]
  simp

theorem length_repeated (items : List α) : 2 * (repeated items).length ≤ items.length := by
  have hsub : (repeated items ++ repeated items).Subperm items := by
    rw [List.subperm_ext_iff]
    intro a ha
    have hmem : a ∈ repeated items := by
      rcases List.mem_append.mp ha with h | h
      · exact h
      · exact h
    rw [List.count_append,List.count_eq_one_of_mem (nodup_repeated items) hmem]
    exact mem_repeated.mp hmem
  have hlength := hsub.length_le
  rw [List.length_append] at hlength
  omega

end Repetition

/-! The pairs of a list, each taken once. -/
namespace Pairing
variable {α β γ : Type}

/-- Every element with those behind it. -/
def pairs : List α → List (α × α)
  | [] => []
  | a :: rest => rest.map (fun b => (a,b)) ++ pairs rest

variable {l l' : List α} {a b : α}

theorem mem_of_mem_pairs (h : (a,b) ∈ pairs l) : a ∈ l ∧ b ∈ l := by
  induction l with
  | nil => cases h
  | cons c rest ih =>
    rcases List.mem_append.mp h with h | h
    · obtain ⟨b',hb,heq⟩ := List.mem_map.mp h
      obtain ⟨rfl,rfl⟩ := Prod.mk.inj heq
      exact ⟨List.mem_cons_self,List.mem_cons_of_mem _ hb⟩
    · exact ⟨List.mem_cons_of_mem _ (ih h).1,List.mem_cons_of_mem _ (ih h).2⟩

theorem mem_pairs_or_swap (hl : l.Nodup) : (a,b) ∈ pairs l ∨ (b,a) ∈ pairs l ↔ a ∈ l ∧ b ∈ l ∧ a ≠ b := by
  induction l with
  | nil => simp [pairs]
  | cons c rest ih =>
    obtain ⟨hc,hrest⟩ := List.nodup_cons.mp hl
    have ih := ih hrest
    simp only [pairs,List.mem_append,List.mem_map,Prod.mk.injEq,List.mem_cons]
    constructor
    · rintro ((⟨x,hx,rfl,rfl⟩ | h) | ⟨x,hx,rfl,rfl⟩ | h)
      · exact ⟨.inl rfl,.inr hx,fun heq => hc (heq ▸ hx)⟩
      · have hboth := ih.mp (.inl h)
        exact ⟨.inr hboth.1,.inr hboth.2.1,hboth.2.2⟩
      · exact ⟨.inr hx,.inl rfl,fun heq => hc (heq ▸ hx)⟩
      · have hboth := ih.mp (.inr h)
        exact ⟨.inr hboth.1,.inr hboth.2.1,hboth.2.2⟩
    · rintro ⟨rfl | ha,rfl | hb,hne⟩
      · exact absurd rfl hne
      · exact .inl (.inl ⟨b,hb,rfl,rfl⟩)
      · exact .inr (.inl ⟨a,ha,rfl,rfl⟩)
      · rcases ih.mpr ⟨ha,hb,hne⟩ with h | h
        · exact .inl (.inr h)
        · exact .inr (.inr h)

theorem pairs_map (f : α → β) (l : List α) : pairs (l.map f) = (pairs l).map (Prod.map f f) := by
  induction l with
  | nil => rfl
  | cons a rest ih => simp [pairs,ih,Function.comp_def]

theorem nodup_pairs (hl : l.Nodup) : ((pairs l).map fun p => s(p.1,p.2)).Nodup := by
  induction l with
  | nil => exact List.nodup_nil
  | cons a rest ih =>
    obtain ⟨ha,hrest⟩ := List.nodup_cons.mp hl
    rw [pairs,List.map_append,List.map_map]
    refine List.nodup_append.mpr ⟨hrest.map_on fun x _ y _ h => ?_,ih hrest,?_⟩
    · exact (Sym2.congr_right.mp h)
    · intro x hx y hy heq
      obtain ⟨b,_,rfl⟩ := List.mem_map.mp hx
      obtain ⟨p,hp,rfl⟩ := List.mem_map.mp hy
      have hboth := mem_of_mem_pairs hp
      have hmem : a ∈ s(p.1,p.2) := heq ▸ Sym2.mem_mk_left a b
      rcases Sym2.mem_iff.mp hmem with h | h
      · exact ha (h ▸ hboth.1)
      · exact ha (h ▸ hboth.2)

/-- What is made of pairs, and tells which, is made once of each. -/
theorem nodup_filterMap_pairs {g : α × α → Option β} {name : α → γ} {key : β → Sym2 γ} (hl : (l.map name).Nodup)
    (hg : ∀ p ∈ pairs l, ∀ b, g p = some b → key b = s(name p.1,name p.2)) : (((pairs l).filterMap g).map key).Nodup := by
  have hkeys := nodup_pairs hl
  rw [pairs_map,List.map_map] at hkeys
  refine hkeys.sublist ?_
  generalize pairs l = ps at hg
  induction ps with
  | nil => exact .slnil
  | cons p ps ih =>
    have hrest := ih fun q hq => hg q (List.mem_cons_of_mem p hq)
    cases hp : g p with
    | none =>
      rw [List.filterMap_cons_none hp]
      exact hrest.cons _
    | some b =>
      rw [List.filterMap_cons_some hp,List.map_cons,List.map_cons,hg p List.mem_cons_self b hp]
      exact hrest.cons_cons _

/-- What is made of pairs, whichever element comes first. -/
theorem mem_filterMap_pairs {g : α × α → Option β} (hl : l.Nodup) (hg : ∀ a ∈ l, ∀ b ∈ l, g (a,b) = g (b,a)) {x : β} :
    x ∈ (pairs l).filterMap g ↔ ∃ a ∈ l, ∃ b ∈ l, a ≠ b ∧ g (a,b) = some x := by
  rw [List.mem_filterMap]
  constructor
  · rintro ⟨⟨a,b⟩,hp,hx⟩
    obtain ⟨ha,hb,hne⟩ := (mem_pairs_or_swap hl).mp (.inl hp)
    exact ⟨a,ha,b,hb,hne,hx⟩
  · rintro ⟨a,ha,b,hb,hne,hx⟩
    rcases (mem_pairs_or_swap hl).mpr ⟨ha,hb,hne⟩ with h | h
    · exact ⟨_,h,hx⟩
    · exact ⟨_,h,hg a ha b hb ▸ hx⟩

/-- Unless a condition holds at one place at most, it holds at two, one after the other. -/
theorem exists_pair_of_countP {P : α → Bool} (h : ¬l.countP P ≤ 1) :
    ∃ p q, [p,q].Sublist l ∧ P p = true ∧ P q = true := by
  rw [List.countP_eq_length_filter] at h
  have hmem : ∀ x ∈ l.filter P, P x = true := fun x hx => (List.mem_filter.mp hx).2
  have hsub : (l.filter P).Sublist l := List.filter_sublist
  generalize l.filter P = kept at h hmem hsub
  rcases kept with _ | ⟨p,_ | ⟨q,rest⟩⟩
  · simp at h
  · simp at h
  · exact ⟨p,q,.trans (by simp) hsub,hmem p (by simp),hmem q (by simp)⟩

end Pairing
