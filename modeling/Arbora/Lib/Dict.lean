import Mathlib.Data.List.AList

/-! Dictionaries: what stands under a key, and the values in some order. -/

abbrev Dict (κ ν : Type) := AList fun _ : κ => ν

namespace Dict
variable {κ ν : Type} [DecidableEq κ]

def get (d : Dict κ ν) (k : κ) : Option ν := AList.lookup k d
def set (d : Dict κ ν) (k : κ) (v : ν) : Dict κ ν := AList.insert k v d
def values (d : Dict κ ν) : List ν := d.entries.map Sigma.snd

@[simp] theorem get_empty (k : κ) : get (∅ : Dict κ ν) k = none := AList.lookup_empty k
@[simp] theorem get_set_self (d : Dict κ ν) (k : κ) (v : ν) : (d.set k v).get k = some v :=
  AList.lookup_insert d

variable {v : ν} {k k' : κ}

theorem get_set_ne (d : Dict κ ν) (v : ν) (h : k ≠ k') : (d.set k' v).get k = d.get k :=
  AList.lookup_insert_ne h

theorem get_set (d : Dict κ ν) (k k' : κ) (v : ν) : (d.set k' v).get k = if k = k' then some v else d.get k := by
  split_ifs with h
  · rw [h,get_set_self]
  · exact get_set_ne d v h

theorem get_set_new {d : Dict κ ν} {w : ν} (hk : d.get k = some v) (hnew : d.get k' = none) :
    (d.set k' w).get k = some v := by
  have hne : k ≠ k' := by
    rintro rfl
    rw [hk] at hnew
    cases hnew
  rw [get_set_ne d w hne,hk]

theorem mem_values {d : Dict κ ν} : v ∈ d.values ↔ ∃ k, d.get k = some v := by
  unfold values get
  rw [List.mem_map]
  constructor
  · rintro ⟨⟨k,_⟩,hentry,rfl⟩
    exact ⟨k,AList.mem_lookup_iff.mpr hentry⟩
  · rintro ⟨k,hk⟩
    exact ⟨⟨k,v⟩,AList.mem_lookup_iff.mp hk,rfl⟩

theorem values_set_new {d : Dict κ ν} (v : ν) (h : d.get k = none) : (d.set k v).values = v :: d.values := by
  unfold values set
  rw [AList.entries_insert_of_notMem (AList.lookup_eq_none.mp h)]
  rfl

theorem mem_keys {d : Dict κ ν} : k ∈ d.keys ↔ d.get k ≠ none := by
  unfold get
  rw [Ne,AList.lookup_eq_none,not_not]
  rfl

theorem nodup_values {d : Dict κ ν} {f : ν → κ} (h : ∀ k v, d.get k = some v → k = f v) : (d.values.map f).Nodup := by
  have hkeys : d.values.map f = d.keys := by
    unfold values
    rw [List.map_map]
    apply List.map_congr_left
    intro entry hentry
    exact (h entry.1 entry.2 (AList.mem_lookup_iff.mpr hentry)).symm
  rw [hkeys]
  exact d.nodupKeys

/-- The entries of one dictionary over those of another. -/
def update (d e : Dict κ ν) : Dict κ ν := e ∪ d

theorem get_update (d e : Dict κ ν) (k : κ) : (d.update e).get k = (e.get k).or (d.get k) := by
  unfold update get
  by_cases h : k ∈ e
  · rw [AList.lookup_union_left h]
    cases hget : AList.lookup k e with
    | none => exact absurd h (AList.lookup_eq_none.mp hget)
    | some v => rfl
  · rw [AList.lookup_union_right h,AList.lookup_eq_none.mpr h,Option.none_or]

/-- Takes an entry out. -/
def pop (d : Dict κ ν) (k : κ) : Dict κ ν := AList.erase k d

@[simp] theorem get_pop_self (d : Dict κ ν) (k : κ) : (d.pop k).get k = none := AList.lookup_erase k d
theorem get_pop_ne (d : Dict κ ν) (h : k ≠ k') : (d.pop k').get k = d.get k := AList.lookup_erase_ne h

theorem get_pop (d : Dict κ ν) (k k' : κ) : (d.pop k').get k = if k = k' then none else d.get k := by
  split_ifs with h
  · rw [h,get_pop_self]
  · exact get_pop_ne d h

section
variable {R : Set κ} {d d' : Dict κ ν}

/-- The same stands under each of the keys. -/
def AgreeOn (R : Set κ) (d d' : Dict κ ν) : Prop := ∀ k ∈ R, d.get k = d'.get k

theorem AgreeOn.set (h : AgreeOn R d d') (k : κ) (v : ν) : AgreeOn R (d.set k v) (d'.set k v) := by
  intro r hr
  rw [get_set,get_set,h r hr]

variable {k : κ} {v : ν} {p : ν → Bool}

theorem AgreeOn.set_left (h : AgreeOn R d d') (v : ν) (hk : k ∉ R) : AgreeOn R (d.set k v) d' := by
  intro r hr
  have hne : r ≠ k := fun heq => hk (heq ▸ hr)
  rw [get_set_ne d v hne,h r hr]

theorem filter_values_set (hnew : d.get k = none) (hv : p v = false) :
    (d.set k v).values.filter p = d.values.filter p := by
  rw [values_set_new v hnew,List.filter_cons,hv]
  rfl

theorem filter_values_set_both (h : d.values.filter p = d'.values.filter p)
    (hnew : d.get k = none) (hnew' : d'.get k = none) :
    (d.set k v).values.filter p = (d'.set k v).values.filter p := by
  rw [values_set_new v hnew,values_set_new v hnew',List.filter_cons,List.filter_cons,h]

end

end Dict
