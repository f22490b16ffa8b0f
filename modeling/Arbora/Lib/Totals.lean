import Arbora.Lib.Dict
import Mathlib.Algebra.BigOperators.Group.List.Basic
import Mathlib.Algebra.Ring.Nat

/-! What the values of a dictionary add up to. -/
namespace Dict
variable {κ ν M : Type} [AddCommMonoid M] (f : ν → M)

def total (d : Dict κ ν) : M := (d.values.map f).sum

theorem length_keys (d : Dict κ ν) : d.keys.length = d.total fun _ => 1 := by
  unfold total values AList.keys List.keys
  rw [List.length_map,List.map_map]
  induction d.entries with
  | nil => rfl
  | cons entry entries ih =>
    rw [List.length_cons,List.map_cons,List.sum_cons,ih]
    exact Nat.add_comm _ _

variable [DecidableEq κ]

theorem total_pop (d : Dict κ ν) (k : κ) : total f (d.pop k)+((d.get k).map f).getD 0 = total f d := by
  obtain ⟨entries,hnodup⟩ := d
  unfold total values pop get AList.erase AList.lookup
  dsimp only
  clear hnodup
  induction entries with
  | nil => exact add_zero _
  | cons entry entries ih =>
    obtain ⟨k',v⟩ := entry
    by_cases h : k = k'
    · subst h
      have herase : List.kerase k (⟨k,v⟩ :: entries : List (Σ _ : κ,ν)) = entries := List.kerase_cons_eq rfl
      rw [herase,List.dlookup_cons_eq]
      exact add_comm _ _
    · have herase : List.kerase k (⟨k',v⟩ :: entries : List (Σ _ : κ,ν)) = ⟨k',v⟩ :: List.kerase k entries :=
        List.kerase_cons_ne h
      have hlookup : List.dlookup k (⟨k',v⟩ :: entries : List (Σ _ : κ,ν)) = List.dlookup k entries :=
        List.dlookup_cons_ne _ _ h
      rw [herase,hlookup,List.map_cons,List.map_cons,List.map_cons,List.map_cons,List.sum_cons,List.sum_cons,
        add_assoc,ih]

theorem total_set (d : Dict κ ν) (k : κ) (v : ν) : total f (d.set k v)+((d.get k).map f).getD 0 = total f d+f v := by
  have hset : total f (d.set k v) = f v+total f (d.pop k) := by
    rfl
  rw [hset,add_assoc,total_pop,add_comm]

section

omit [DecidableEq κ] in
theorem getD_map_one (o : Option ν) : (o.map fun _ => 1).getD 0 = if o.isSome then 1 else 0 := by
  cases o with
  | none => rfl
  | some v => rfl

theorem length_keys_pop (d : Dict κ ν) (k : κ) :
    (d.pop k).keys.length+(if (d.get k).isSome then 1 else 0) = d.keys.length := by
  have h := total_pop (fun _ : ν => 1) d k
  rw [getD_map_one] at h
  rw [length_keys,length_keys,h]

theorem length_keys_set (d : Dict κ ν) (k : κ) (v : ν) :
    (d.set k v).keys.length+(if (d.get k).isSome then 1 else 0) = d.keys.length+1 := by
  have h := total_set (fun _ : ν => 1) d k v
  rw [getD_map_one] at h
  rw [length_keys,length_keys,h]

end
end Dict

/-! Counters: dictionaries that add up amounts by key, and when two lists of amounts add up to the same. -/
namespace Counter
variable {κ : Type} [DecidableEq κ]

def add (d : Dict κ ℕ) (k : κ) (n : ℕ) : Dict κ ℕ := d.set k ((d.get k).getD 0 + n)
def count (amounts : List (κ × ℕ)) : Dict κ ℕ := amounts.foldl (fun d amount => add d amount.1 amount.2) ∅
def total (amounts : List (κ × ℕ)) (k : κ) : ℕ := ((amounts.filter fun amount => amount.1 = k).map Prod.snd).sum

variable {amounts amounts' : List (κ × ℕ)} {k : κ}

theorem total_cons (amount : κ × ℕ) : total (amount :: amounts) k = (if amount.1 = k then amount.2 else 0) + total amounts k := by
  unfold total
  rw [List.filter_cons]
  by_cases h : amount.1 = k
  · rw [if_pos (decide_eq_true h),if_pos h,List.map_cons,List.sum_cons]
  · rw [if_neg (by simpa using h),if_neg h,Nat.zero_add]

theorem total_append : total (amounts ++ amounts') k = total amounts k + total amounts' k := by
  unfold total
  rw [List.filter_append,List.map_append,List.sum_append]

theorem total_of_notMem (h : k ∉ amounts.map Prod.fst) : total amounts k = 0 := by
  have hnone : (amounts.filter fun amount => amount.1 = k) = [] := by
    rw [List.filter_eq_nil_iff]
    intro amount hmem heq
    exact h (List.mem_map.mpr ⟨amount,hmem,of_decide_eq_true heq⟩)
  unfold total
  rw [hnone]
  rfl

theorem get_add (d : Dict κ ℕ) (k k' : κ) (n : ℕ) :
    (add d k' n).get k = if k = k' then some ((d.get k').getD 0 + n) else d.get k := Dict.get_set d k k' _

theorem get_foldl (d : Dict κ ℕ) (amounts : List (κ × ℕ)) (k : κ) :
    (amounts.foldl (fun d amount => add d amount.1 amount.2) d).get k =
      if k ∈ amounts.map Prod.fst then some ((d.get k).getD 0 + total amounts k) else d.get k := by
  induction amounts generalizing d with
  | nil => rfl
  | cons amount amounts ih =>
    rw [List.foldl_cons,ih,get_add,total_cons]
    by_cases hsame : k = amount.1
    · subst hsame
      by_cases hlater : amount.1 ∈ amounts.map Prod.fst
      · simp [hlater,Nat.add_assoc]
      · simp [hlater,total_of_notMem hlater]
    · have hne : amount.1 ≠ k := fun h => hsame h.symm
      have hmem : k ∈ (amount :: amounts).map Prod.fst ↔ k ∈ amounts.map Prod.fst := by
        rw [List.map_cons,List.mem_cons,or_iff_right hsame]
      rw [if_neg hsame,if_neg hne,Nat.zero_add]
      simp only [hmem]

theorem get_count (amounts : List (κ × ℕ)) (k : κ) :
    (count amounts).get k = if k ∈ amounts.map Prod.fst then some (total amounts k) else none := by
  unfold count
  rw [get_foldl,Dict.get_empty,Option.getD_none,Nat.zero_add]

structure Same (amounts amounts' : List (κ × ℕ)) : Prop where
  keys : ∀ k, k ∈ amounts.map Prod.fst ↔ k ∈ amounts'.map Prod.fst
  totals : ∀ k, total amounts k = total amounts' k

theorem Same.get_count (h : Same amounts amounts') (k : κ) : (count amounts).get k = (count amounts').get k := by
  rw [Counter.get_count,Counter.get_count,h.totals k]
  simp only [h.keys k]

theorem Same.of_perm (h : amounts.Perm amounts') : Same amounts amounts' where
  keys _ := (h.map Prod.fst).mem_iff
  totals _ := ((h.filter _).map Prod.snd).sum_eq

theorem Same.trans {amounts'' : List (κ × ℕ)} (h : Same amounts amounts') (h' : Same amounts' amounts'') :
    Same amounts amounts'' := ⟨fun k => (h.keys k).trans (h'.keys k),fun k => (h.totals k).trans (h'.totals k)⟩

theorem Same.append {more more' : List (κ × ℕ)} (h : Same amounts amounts') (h' : Same more more') :
    Same (amounts ++ more) (amounts' ++ more') where
  keys k := by rw [List.map_append,List.map_append,List.mem_append,List.mem_append,h.keys k,h'.keys k]
  totals k := by rw [total_append,total_append,h.totals k,h'.totals k]

theorem Same.flatMap {ι : Type} {f f' : ι → List (κ × ℕ)} {parts : List ι} (h : ∀ i ∈ parts, Same (f i) (f' i)) :
    Same (parts.flatMap f) (parts.flatMap f') := by
  induction parts with
  | nil => exact ⟨fun k => Iff.rfl,fun k => rfl⟩
  | cons i parts ih =>
    apply (h i List.mem_cons_self).append
    exact ih fun j hj => h j (List.mem_cons_of_mem _ hj)

theorem Same.of_entries {entries : List (κ × ℕ)} (hunique : (entries.map Prod.fst).Nodup)
    (hkeys : ∀ k, k ∈ entries.map Prod.fst ↔ k ∈ amounts.map Prod.fst)
    (hentries : ∀ entry ∈ entries, entry.2 = total amounts entry.1) : Same entries amounts where
  keys := hkeys
  totals k := by
    by_cases hmem : k ∈ entries.map Prod.fst
    · obtain ⟨entry,hentry,rfl⟩ := List.mem_map.mp hmem
      have hsingle : (entries.filter fun other => other.1 = entry.1) = [entry] := by
        have hnodup : entries.Nodup := hunique.of_map
        apply List.perm_singleton.mp
        apply (List.perm_ext_iff_of_nodup (hnodup.filter _) (List.nodup_singleton _)).mpr
        intro other
        rw [List.mem_filter,List.mem_singleton,decide_eq_true_eq]
        constructor
        · rintro ⟨hother,heq⟩
          exact List.inj_on_of_nodup_map hunique hother hentry heq
        · rintro rfl
          exact ⟨hentry,rfl⟩
      rw [total,hsingle,List.map_singleton,List.sum_singleton]
      exact hentries entry hentry
    · rw [total_of_notMem hmem,total_of_notMem fun h => hmem ((hkeys k).mpr h)]

end Counter
