import Mathlib.Data.List.Sort
import Mathlib.Data.List.Pairwise

/-! Rows sorted by a key, and reading them page by page while more are added: a page holds the least rows
above a cursor, and the key of its last row is the next cursor. -/
namespace Keyset
variable {ρ κ : Type} [LinearOrder κ] (key : ρ → κ)

section

def sortBy (rows : List ρ) : List ρ := rows.insertionSort fun a b => key a ≤ key b

variable {key} {rows rows' : List ρ}

theorem sortBy_perm (rows : List ρ) : (sortBy key rows).Perm rows := List.perm_insertionSort _ rows
theorem mem_sortBy {r : ρ} : r ∈ sortBy key rows ↔ r ∈ rows := List.mem_insertionSort _
theorem length_sortBy : (sortBy key rows).length = rows.length := List.length_insertionSort _ rows
theorem pairwise_sortBy (rows : List ρ) : (sortBy key rows).Pairwise fun a b => key a ≤ key b := by
  exact List.pairwise_insertionSort _ rows

theorem strict_sortBy (h : (rows.map key).Nodup) : (sortBy key rows).Pairwise fun a b => key a < key b := by
  have hnodup : ((sortBy key rows).map key).Nodup := ((sortBy_perm rows).map key).nodup_iff.mpr h
  have hne : (sortBy key rows).Pairwise fun a b => key a ≠ key b := List.pairwise_map.mp hnodup
  exact List.Pairwise.imp₂ (fun _ _ hle hdistinct => lt_of_le_of_ne hle hdistinct) (pairwise_sortBy rows) hne

theorem nodup_of_strict (h : rows.Pairwise fun a b => key a < key b) : (rows.map key).Nodup :=
  List.pairwise_map.mpr (h.imp fun hlt => ne_of_lt hlt)

/-- Only one row has its key. -/
theorem filter_eq_singleton {α β : Type} [DecidableEq β] {f : α → β} {l : List α} (h : (l.map f).Nodup) {a : α}
    (ha : a ∈ l) : (l.filter fun x => f x = f a) = [a] := by
  induction l with
  | nil => cases ha
  | cons b rest ih =>
    rw [List.map_cons,List.nodup_cons] at h
    rcases List.mem_cons.mp ha with rfl | ha
    · rw [List.filter_cons_of_pos (by simp),List.filter_eq_nil_iff.mpr]
      intro x hx hsame
      exact h.1 (List.mem_map.mpr ⟨x,hx,of_decide_eq_true hsame⟩)
    · have hb : f b ≠ f a := fun hb => h.1 (List.mem_map.mpr ⟨a,ha,hb.symm⟩)
      rw [List.filter_cons_of_neg (by simpa using hb)]
      exact ih h.2 ha

theorem eq_of_strict (h : rows.Pairwise fun a b => key a < key b) (h' : rows'.Pairwise fun a b => key a < key b)
    (hmem : ∀ r, r ∈ rows ↔ r ∈ rows') : rows = rows' := by
  exact List.Pairwise.eq_of_mem_iff h h' hmem

theorem sortBy_eq_of_perm (h : rows.Perm rows') (hunique : (rows.map key).Nodup) :
    sortBy key rows = sortBy key rows' := by
  have hunique' : (rows'.map key).Nodup := (h.map key).nodup_iff.mp hunique
  apply eq_of_strict (strict_sortBy hunique) (strict_sortBy hunique')
  intro r
  rw [mem_sortBy,mem_sortBy,h.mem_iff]

theorem sortBy_of_strict (h : rows.Pairwise fun a b => key a < key b) : sortBy key rows = rows :=
  List.Pairwise.insertionSort_eq (h.imp fun hlt => le_of_lt hlt)

theorem greatest_of_getLast? {l : List ρ} {a : ρ} (h : (sortBy key l).getLast? = some a) :
    a ∈ l ∧ ∀ b ∈ l, key b ≤ key a := by
  obtain ⟨init,hinit⟩ := List.getLast?_eq_some_iff.mp h
  have hpairs := @pairwise_sortBy _ _ _ key l
  rw [hinit,List.pairwise_append] at hpairs
  have hmem : ∀ b, b ∈ l ↔ b ∈ init ++ [a] := by
    intro b
    rw [← hinit,mem_sortBy]
  refine ⟨(hmem a).mpr (by simp),?_⟩
  intro b hb
  rcases List.mem_append.mp ((hmem b).mp hb) with hb | hb
  · exact hpairs.2.2 b hb a (by simp)
  · rw [List.mem_singleton.mp hb]

theorem sortBy_append_greatest {l : List ρ} {a : ρ} (h : ∀ b ∈ l, key b ≤ key a) :
    sortBy key (l ++ [a]) = sortBy key l ++ [a] := by
  have hinsert : ∀ (rows : List ρ) (b : ρ), key b ≤ key a →
      (rows ++ [a]).orderedInsert (fun x y => key x ≤ key y) b = rows.orderedInsert (fun x y => key x ≤ key y) b ++ [a] := by
    intro rows b hb
    induction rows with
    | nil => simp [hb]
    | cons c rows ih =>
      rw [List.cons_append,List.orderedInsert_cons,List.orderedInsert_cons]
      split_ifs
      · rfl
      · rw [ih,List.cons_append]
  induction l with
  | nil => rfl
  | cons b l ih =>
    have hrest := ih fun c hc => h c (List.mem_cons_of_mem b hc)
    have hb := hinsert (sortBy key l) b (h b List.mem_cons_self)
    rw [← hrest] at hb
    exact hb

theorem sortBy_self_perm {l l' : List κ} (h : l'.Perm l) : sortBy (fun v => v) l' = sortBy (fun v => v) l := by
  apply List.Perm.eq_of_pairwise
  · exact fun a b _ _ => le_antisymm
  · exact pairwise_sortBy l'
  · exact pairwise_sortBy l
  · exact (sortBy_perm l').trans (h.trans (sortBy_perm l).symm)

theorem perm_of_map_perm {α β : Type} {f : α → β} {l l' : List α} (hknown : ∀ a ∈ l, ∀ b ∈ l', f a = f b → a = b)
    (h : (l.map f).Perm (l'.map f)) : l.Perm l' := by
  induction l generalizing l' with
  | nil => rw [List.map_eq_nil_iff.mp (List.nil_perm.mp h)]
  | cons a l ih =>
    have hmem : f a ∈ l'.map f := h.mem_iff.mp (by simp)
    obtain ⟨b,hb,hsame⟩ := List.mem_map.mp hmem
    have hab := hknown a List.mem_cons_self b hb hsame.symm
    subst hab
    obtain ⟨before,after,rfl⟩ := List.append_of_mem hb
    have hmiddle := @List.perm_middle _ a before after
    refine (List.Perm.cons a (ih ?_ ?_)).trans hmiddle.symm
    · exact fun x hx y hy => hknown x (List.mem_cons_of_mem a hx) y (hmiddle.mem_iff.mpr (List.mem_cons_of_mem a hy))
    · exact List.Perm.cons_inv (h.trans (hmiddle.map f))

end

section

def after (cursor : Option κ) (rows : List ρ) : List ρ :=
  (sortBy key rows).filter fun r => cursor.all fun c => decide (c < key r)

def next (limit : ℕ) (cursor : Option κ) (rows : List ρ) : Option κ :=
  if (after key cursor rows).length ≤ limit then none
  else ((after key cursor rows).take limit).getLast?.map key

/-- Page after page up to the last, the rows growing from one to the next: the rows found at the first page,
those found at the last, and those returned. -/
inductive Reads : Option κ → List ρ → List ρ → List ρ → Prop
  | last {cursor rows limit} (hlimit : 0 < limit) (hunique : (rows.map key).Nodup)
      (h : next key limit cursor rows = none) : Reads cursor rows rows ((after key cursor rows).take limit)
  | more {cursor c rows rows' final out limit} (hlimit : 0 < limit) (hunique : (rows.map key).Nodup)
      (h : next key limit cursor rows = some c) (hgrows : rows ⊆ rows') (hrest : Reads (some c) rows' final out) :
      Reads cursor rows final ((after key cursor rows).take limit ++ out)

variable {key} {limit : ℕ} {cursor : Option κ} {rows final out : List ρ}

theorem mem_after {r : ρ} : r ∈ after key cursor rows ↔ r ∈ rows ∧ ∀ c ∈ cursor, c < key r := by
  unfold after
  rw [List.mem_filter,mem_sortBy]
  cases cursor <;> simp

theorem strict_after (h : (rows.map key).Nodup) :
    (after key cursor rows).Pairwise fun a b => key a < key b := (strict_sortBy h).filter _

theorem next_none (h : next key limit cursor rows = none) (hlimit : 0 < limit) :
    (after key cursor rows).length ≤ limit := by
  unfold next at h
  split_ifs at h with hle
  · exact hle
  · rw [Option.map_eq_none_iff,List.getLast?_eq_none_iff,List.take_eq_nil_iff] at h
    rcases h with hzero | hnil
    · omega
    · rw [hnil]
      exact Nat.zero_le _

theorem next_some {c : κ} (h : next key limit cursor rows = some c) (hunique : (rows.map key).Nodup) :
    (∃ r ∈ (after key cursor rows).take limit, key r = c) ∧ (∀ r ∈ (after key cursor rows).take limit, key r ≤ c) ∧
      ∀ r ∈ (after key cursor rows).drop limit, c < key r := by
  unfold next at h
  split_ifs at h with hle
  obtain ⟨r,hlast,rfl⟩ := Option.map_eq_some_iff.mp h
  have hmem := List.mem_of_getLast? hlast
  have hstrict : (after key cursor rows).Pairwise fun a b => key a < key b := strict_after hunique
  refine ⟨⟨r,hmem,rfl⟩,?_,?_⟩
  · intro x hx
    obtain ⟨front,hfront⟩ := List.getLast?_eq_some_iff.mp hlast
    have hpage : ((after key cursor rows).take limit).Pairwise fun a b => key a < key b :=
      hstrict.sublist (List.take_sublist _ _)
    rw [hfront,List.mem_append,List.mem_singleton] at hx
    rcases hx with hx | rfl
    · rw [hfront,List.pairwise_append] at hpage
      exact le_of_lt (hpage.2.2 x hx r (by simp))
    · exact le_refl _
  · intro x hx
    rw [← List.take_append_drop limit (after key cursor rows),List.pairwise_append] at hstrict
    exact hstrict.2.2 r hmem x hx

section
variable (h : Reads key cursor rows final out)
include h

theorem Reads.subset : rows ⊆ final := by
  induction h with
  | last => exact List.Subset.refl _
  | more hlimit hunique hnext hgrows hrest ih => exact List.Subset.trans hgrows ih

theorem Reads.above : ∀ r ∈ out, r ∈ final ∧ ∀ c ∈ cursor, c < key r := by
  induction h with
  | last => exact fun r hr => mem_after.mp (List.mem_of_mem_take hr)
  | more hlimit hunique hnext hgrows hrest ih =>
    intro r hr
    rcases List.mem_append.mp hr with hpage | hlater
    · obtain ⟨hrow,habove⟩ := mem_after.mp (List.mem_of_mem_take hpage)
      exact ⟨hrest.subset (hgrows hrow),habove⟩
    · obtain ⟨hfinal,habove⟩ := ih r hlater
      obtain ⟨⟨last,hlast,hkey⟩,-,-⟩ := next_some hnext hunique
      have hcursor := (mem_after.mp (List.mem_of_mem_take hlast)).2
      refine ⟨hfinal,fun c hc => (hcursor c hc).trans ?_⟩
      rw [hkey]
      exact habove _ rfl

theorem Reads.strict : out.Pairwise fun a b => key a < key b := by
  induction h with
  | last hlimit hunique => exact (strict_after hunique).sublist (List.take_sublist _ _)
  | more hlimit hunique hnext hgrows hrest ih =>
    obtain ⟨-,hpage,-⟩ := next_some hnext hunique
    refine List.pairwise_append.mpr ⟨(strict_after hunique).sublist (List.take_sublist _ _),ih,?_⟩
    intro a ha b hb
    exact lt_of_le_of_lt (hpage a ha) ((hrest.above b hb).2 _ rfl)

theorem Reads.complete : ∀ r ∈ rows, (∀ c ∈ cursor, c < key r) → r ∈ out := by
  induction h with
  | last hlimit hunique hnext =>
    intro r hr habove
    rw [List.take_of_length_le (next_none hnext hlimit)]
    exact mem_after.mpr ⟨hr,habove⟩
  | @more cursor c rows rows' final out limit hlimit hunique hnext hgrows hrest ih =>
    intro r hr habove
    have hmem : r ∈ after key cursor rows := mem_after.mpr ⟨hr,habove⟩
    rw [← List.take_append_drop limit (after key cursor rows),List.mem_append] at hmem
    obtain ⟨-,-,hdrop⟩ := next_some hnext hunique
    rcases hmem with hpage | hlater
    · exact List.mem_append_left _ hpage
    · apply List.mem_append_right
      apply ih r (hgrows hr)
      intro c' hc'
      cases hc'
      exact hdrop r hlater

end

end

end Keyset
