import Arbora.Lib.Machine
import Arbora.Lib.Totals
import Mathlib.Algebra.Order.Ring.Int
import Mathlib.Data.Finset.Basic

/-! Capacity of several resources, acquired by runs all or nothing. -/
namespace Arbora.Runs
open Machine

structure CapacityAcquisition where
  capacity : Dict String ℤ
  held : Dict String (Dict String ℕ)
  redecided : Finset String

namespace CapacityAcquisition

def new (capacity : Dict String ℤ) : CapacityAcquisition := ⟨capacity,∅,∅⟩
def canSatisfy (s : CapacityAcquisition) (resources : Dict String ℕ) : Bool :=
  resources.entries.all fun entry => (entry.2 : ℤ) ≤ (s.capacity.get entry.1).getD 0

def addUnits (sign : ℤ) : List (Σ _ : String,ℕ) → Dict String ℤ → Dict String ℤ
  | [], capacity => capacity
  | ⟨key,units⟩ :: entries, capacity =>
    addUnits sign entries (capacity.set key ((capacity.get key).getD 0+sign*units))

def commit (s : CapacityAcquisition) (runId : String) (resources : Dict String ℕ) : CapacityAcquisition :=
  {s with capacity := addUnits (-1) resources.entries s.capacity, held := s.held.set runId resources}

def acquire (s : CapacityAcquisition) (runId : String) (resources : Dict String ℕ) :
    Except String Bool × CapacityAcquisition :=
  if s.canSatisfy resources then
    let s := s.commit runId resources
    (.ok true,{s with redecided := s.redecided.erase runId})
  else if runId ∈ s.redecided then (.error "capacity_denied_after_redecision",s)
  else (.ok false,{s with redecided := insert runId s.redecided})

def release (s : CapacityAcquisition) (runId : String) : CapacityAcquisition :=
  let t := {s with held := s.held.pop runId, redecided := s.redecided.erase runId}
  match s.held.get runId with
  | none => t
  | some held => {t with capacity := addUnits 1 held.entries t.capacity}

inductive Call
  | acquire (runId : String) (resources : Dict String ℕ)
  | release (runId : String)

inductive Answer
  | acquired (granted : Except String Bool)
  | released

def step (s : CapacityAcquisition) : Call → Answer × CapacityAcquisition
  | .acquire runId resources => (.acquired (s.acquire runId resources).1,(s.acquire runId resources).2)
  | .release runId => (.released,s.release runId)

def free (s : CapacityAcquisition) (key : String) : ℤ := (s.capacity.get key).getD 0
def unitsOf (key : String) (resources : Dict String ℕ) : ℤ := (resources.get key).getD 0

/-- The units of a resource that all runs hold. -/
def unitsHeld (s : CapacityAcquisition) (key : String) : ℤ := s.held.total (unitsOf key)

/-- A run that is granted what it asks for holds nothing when it asks. -/
def Fresh (s : CapacityAcquisition) : Call → Prop
  | .acquire runId resources =>
    s.canSatisfy resources = true → ∀ held ∈ s.held.get runId, ∀ entry ∈ held.entries, entry.2 = 0
  | .release _ => True

instance (s : CapacityAcquisition) : ∀ call, Decidable (Fresh s call)
  | .acquire runId resources => inferInstanceAs (Decidable (s.canSatisfy resources = true →
      ∀ held ∈ s.held.get runId, ∀ entry ∈ held.entries, entry.2 = 0))
  | .release _ => isTrue trivial

/-- What the capacity is made of, at one point. -/
structure Conserved (capacity : Dict String ℤ) (s : CapacityAcquisition) : Prop where
  conserved : ∀ key, s.free key+s.unitsHeld key = (capacity.get key).getD 0
  nonneg : ∀ key, 0 ≤ s.free key
  /-- With every run released, all of it is free. -/
  returned : (∀ runId, s.held.get runId = none) → ∀ key, s.free key = (capacity.get key).getD 0

variable {s : CapacityAcquisition} {runId : String} {resources : Dict String ℕ}

theorem get_addUnits (sign : ℤ) {entries : List (Σ _ : String,ℕ)} (hnodup : entries.NodupKeys)
    (capacity : Dict String ℤ) (key : String) : ((addUnits sign entries capacity).get key).getD 0 =
      (capacity.get key).getD 0+sign*((List.dlookup key entries).getD 0 : ℕ) := by
  induction entries generalizing capacity with
  | nil => simp [addUnits]
  | cons entry entries ih =>
    obtain ⟨key',units⟩ := entry
    rw [List.nodupKeys_cons] at hnodup
    unfold addUnits
    rw [ih hnodup.2,Dict.get_set]
    by_cases h : key = key'
    · subst h
      have hnone : List.dlookup key entries = none := List.dlookup_eq_none.mpr hnodup.1
      rw [hnone,if_pos rfl,List.dlookup_cons_eq]
      simp
    · rw [if_neg h,List.dlookup_cons_ne _ _ h]

theorem free_commit (s : CapacityAcquisition) (runId : String) (resources : Dict String ℕ) (key : String) :
    (s.commit runId resources).free key = s.free key-unitsOf key resources := by
  have hget := get_addUnits (-1) resources.nodupKeys s.capacity key
  unfold free commit unitsOf Dict.get AList.lookup at *
  dsimp only at hget ⊢
  omega

theorem unitsHeld_commit (s : CapacityAcquisition) (runId : String) (resources : Dict String ℕ) (key : String) :
    (s.commit runId resources).unitsHeld key+((s.held.get runId).map (unitsOf key)).getD 0 =
      s.unitsHeld key+unitsOf key resources :=
  Dict.total_set (unitsOf key) s.held runId resources

theorem release_accounts (s : CapacityAcquisition) (runId : String) (key : String) :
    (s.release runId).free key+(s.release runId).unitsHeld key = s.free key+s.unitsHeld key := by
  have hpop := Dict.total_pop (unitsOf key) s.held runId
  unfold release unitsHeld
  cases hheld : s.held.get runId with
  | none =>
    rw [hheld] at hpop
    have hsame : (s.held.pop runId).total (unitsOf key) = s.held.total (unitsOf key) := by simpa using hpop
    exact congrArg (s.free key+·) hsame
  | some held =>
    rw [hheld] at hpop
    have hback := get_addUnits 1 held.nodupKeys s.capacity key
    have hunits : unitsOf key held = ((List.dlookup key held.entries).getD 0 : ℕ) := rfl
    dsimp only [Option.map_some,Option.getD_some] at hpop
    unfold free
    dsimp only
    omega

theorem unitsOf_le (h : s.canSatisfy resources = true) (hfree : ∀ key, 0 ≤ s.free key) (key : String) :
    unitsOf key resources ≤ s.free key := by
  unfold unitsOf
  cases hget : resources.get key with
  | none => exact hfree key
  | some units =>
    have hall := List.all_eq_true.mp h ⟨key,units⟩ (AList.mem_lookup_iff.mp hget)
    exact of_decide_eq_true hall

section
variable {capacity : Dict String ℤ}

def Answer.isDenial : Answer → Bool
  | .acquired (.ok true) | .released => false
  | .acquired _ => true

theorem unitsHeld_of_released (h : ∀ runId, s.held.get runId = none) (key : String) : s.unitsHeld key = 0 := by
  have hvalues : s.held.values = [] := by
    apply List.eq_nil_iff_forall_not_mem.mpr
    intro held hheld
    obtain ⟨runId,hget⟩ := Dict.mem_values.mp hheld
    cases (h runId).symm.trans hget
  unfold unitsHeld Dict.total
  rw [hvalues]
  rfl

theorem Conserved.of_accounts (hconserved : ∀ key, s.free key+s.unitsHeld key = (capacity.get key).getD 0)
    (hnonneg : ∀ key, 0 ≤ s.free key) : Conserved capacity s := by
  refine ⟨hconserved,hnonneg,fun hreleased key => ?_⟩
  have hsum := hconserved key
  rw [unitsHeld_of_released hreleased,add_zero] at hsum
  exact hsum

theorem step_of_denial {call : Call} (h : (step s call).1.isDenial = true) :
    (step s call).2.capacity = s.capacity ∧ (step s call).2.held = s.held := by
  cases call with
  | release runId => cases h
  | acquire runId resources =>
    have hstep : step s (.acquire runId resources) =
      (.acquired (s.acquire runId resources).1,(s.acquire runId resources).2) := rfl
    rw [hstep] at h ⊢
    unfold acquire at h ⊢
    split_ifs at h ⊢
    · cases h
    · exact ⟨rfl,rfl⟩
    · exact ⟨rfl,rfl⟩

theorem commit_conserved_iff (hs : Conserved capacity s) (hroom : s.canSatisfy resources = true) :
    Conserved capacity (s.commit runId resources) ↔
      ∀ held ∈ s.held.get runId, ∀ entry ∈ held.entries, entry.2 = 0 := by
  have haccount (key : String) : (s.commit runId resources).free key+(s.commit runId resources).unitsHeld key+
      ((s.held.get runId).map (unitsOf key)).getD 0 = (capacity.get key).getD 0 := by
    have hunits := unitsHeld_commit s runId resources key
    have hfree := free_commit s runId resources key
    have hconserved := hs.conserved key
    omega
  constructor
  · rintro hcommit held hheld ⟨key,units⟩ hentry
    have hkey := haccount key
    have hsum := hcommit.conserved key
    have hget : held.get key = some units := AList.mem_lookup_iff.mpr hentry
    have hunits : ((s.held.get runId).map (unitsOf key)).getD 0 = units := by
      rw [Option.mem_def.mp hheld,Option.map_some,Option.getD_some]
      unfold unitsOf
      rw [hget]
      rfl
    dsimp only
    omega
  · intro hempty
    refine .of_accounts (fun key => ?_) fun key => ?_
    · have hkey := haccount key
      have hunits : ((s.held.get runId).map (unitsOf key)).getD 0 = 0 := by
        cases hheld : s.held.get runId with
        | none => rfl
        | some held =>
          rw [Option.map_some,Option.getD_some]
          unfold unitsOf
          cases hget : held.get key with
          | none => rfl
          | some units =>
            have hzero := hempty held hheld ⟨key,units⟩ (AList.mem_lookup_iff.mp hget)
            exact congrArg Nat.cast hzero
      omega
    · rw [free_commit]
      exact Int.sub_nonneg.mpr (unitsOf_le hroom hs.nonneg key)

theorem release_conserved (hs : Conserved capacity s) (runId : String) : Conserved capacity (s.release runId) := by
  refine .of_accounts (fun key => (release_accounts s runId key).trans (hs.conserved key)) fun key => ?_
  unfold release
  cases s.held.get runId with
  | none => exact hs.nonneg key
  | some held =>
    have hback := get_addUnits 1 held.nodupKeys s.capacity key
    have hnonneg := hs.nonneg key
    unfold free at hnonneg ⊢
    dsimp only at hback ⊢
    omega

theorem conserved_congr {t : CapacityAcquisition} (hcapacity : t.capacity = s.capacity) (hheld : t.held = s.held) :
    Conserved capacity t ↔ Conserved capacity s := by
  have hfree (key : String) : t.free key = s.free key := by rw [free,free,hcapacity]
  have hunits (key : String) : t.unitsHeld key = s.unitsHeld key := by rw [unitsHeld,unitsHeld,hheld]
  constructor
  · intro h
    exact .of_accounts (fun key => by rw [← hfree,← hunits,h.conserved]) fun key => hfree key ▸ h.nonneg key
  · intro h
    exact .of_accounts (fun key => by rw [hfree,hunits,h.conserved]) fun key => hfree key ▸ h.nonneg key

theorem step_conserved_iff (hs : Conserved capacity s) (call : Call) :
    Conserved capacity (step s call).2 ↔ Fresh s call := by
  cases call with
  | release runId => exact iff_of_true (release_conserved hs runId) trivial
  | acquire runId resources =>
    by_cases hroom : s.canSatisfy resources = true
    · have hcommit : (s.acquire runId resources).2.capacity = (s.commit runId resources).capacity ∧
          (s.acquire runId resources).2.held = (s.commit runId resources).held := by
        unfold acquire
        rw [if_pos hroom]
        exact ⟨rfl,rfl⟩
      refine (conserved_congr hcommit.1 hcommit.2).trans ((commit_conserved_iff hs hroom).trans ?_)
      exact ⟨fun hfresh _ => hfresh,fun hfresh => hfresh hroom⟩
    · have hsame : (s.acquire runId resources).2.capacity = s.capacity ∧
          (s.acquire runId resources).2.held = s.held := by
        unfold acquire
        split_ifs
        · exact ⟨rfl,rfl⟩
        · exact ⟨rfl,rfl⟩
      exact iff_of_true ((conserved_congr hsame.1 hsame.2).mpr hs) fun hroom' => absurd hroom' hroom

/-- After a call all capacity is accounted for, and a denied one has changed no holding. -/
def Kept (capacity : Dict String ℤ) (s : CapacityAcquisition) (call : Call) : Prop :=
  Conserved capacity (step s call).2 ∧ ((step s call).1.isDenial = true → (step s call).2.held = s.held)

theorem along_kept_iff (hs : Conserved capacity s) (calls : List Call) :
    Along step (Kept capacity) s calls ↔ Along step Fresh s calls := by
  induction calls generalizing s with
  | nil => exact Iff.rfl
  | cons call calls ih =>
    have hcall : Kept capacity s call ↔ Fresh s call :=
      ⟨fun h => (step_conserved_iff hs call).mp h.1,
        fun h => ⟨(step_conserved_iff hs call).mpr h,fun hdenial => (step_of_denial hdenial).2⟩⟩
    constructor
    · rintro ⟨hkept,hrest⟩
      exact ⟨hcall.mp hkept,(ih hkept.1).mp hrest⟩
    · rintro ⟨hfresh,hrest⟩
      have hkept := hcall.mpr hfresh
      exact ⟨hkept,(ih hkept.1).mpr hrest⟩

theorem new_conserved_iff : Conserved capacity (new capacity) ↔ ∀ key, 0 ≤ (capacity.get key).getD 0 := by
  constructor
  · exact fun h => h.nonneg
  · intro hnonneg
    exact .of_accounts (fun key => add_zero _) hnonneg

/-- In a run all capacity stays accounted for just when no run that holds something is granted more. -/
theorem capacity_conserved_iff (capacity : Dict String ℤ) (calls : List Call) :
    Conserved capacity (new capacity) ∧ Along step (Kept capacity) (new capacity) calls ↔
      (∀ key, 0 ≤ (capacity.get key).getD 0) ∧ Along step Fresh (new capacity) calls := by
  constructor
  · rintro ⟨hstart,hrun⟩
    exact ⟨new_conserved_iff.mp hstart,(along_kept_iff hstart calls).mp hrun⟩
  · rintro ⟨hnonneg,hrun⟩
    have hstart := new_conserved_iff.mpr hnonneg
    exact ⟨hstart,(along_kept_iff hstart calls).mpr hrun⟩

/-- One run comes back for another unit before it stops. -/
theorem capacity_leaks : ¬ ∀ (capacity : Dict String ℤ) (calls : List Call), (∀ key, 0 ≤ (capacity.get key).getD 0) →
    Conserved capacity (after step (new capacity) calls) := by
  intro h
  have hcapacity (key : String) : 0 ≤ (((∅ : Dict String ℤ).set "gpu" 2).get key).getD 0 := by
    rw [Dict.get_set]
    split_ifs
    · exact Int.zero_le_ofNat 2
    · exact Int.le_refl 0
  have hrun := h ((∅ : Dict String ℤ).set "gpu" 2)
    [.acquire "run-1" ((∅ : Dict String ℕ).set "gpu" 1),.acquire "run-1" ((∅ : Dict String ℕ).set "gpu" 1)] hcapacity
  exact absurd (hrun.conserved "gpu") (by decide)

end
end CapacityAcquisition
end Arbora.Runs
