import Arbora.Lib.Machine
import Arbora.Lib.Totals
import Mathlib.Algebra.Order.Ring.Int
import Mathlib.Data.Finset.Basic

/-! A ledger of capacity slots, and where each of its holders stands: one re-decision after a denial,
and after another denial nothing but a release. -/
namespace Arbora.Runs
open Machine

inductive CapacityError
  | totalInvalid (total : ℤ)
  | amountInvalid (amount : ℤ)
  | redecisionExhausted (holderId : String)

def CapacityError.code : CapacityError → String
  | .totalInvalid _ => "capacity_total_invalid"
  | .amountInvalid _ => "capacity_amount_invalid"
  | .redecisionExhausted _ => "capacity_redecision_exhausted"

structure CapacityDecision where
  granted : Bool
  amount : ℤ
  redecision : Bool

structure CapacityLedger where
  (total available : ℤ)
  held : Dict String ℤ
  (pendingRedecision exhausted : Finset String)

namespace CapacityLedger

def new (total : ℤ) : Except CapacityError CapacityLedger :=
  if total < 0 then .error (.totalInvalid total)
  else .ok ⟨total,total,∅,∅,∅⟩

def acquire (s : CapacityLedger) (holderId : String) (amount : ℤ) :
    Except CapacityError CapacityDecision × CapacityLedger :=
  if amount ≤ 0 then (.error (.amountInvalid amount),s)
  else if holderId ∈ s.exhausted then (.error (.redecisionExhausted holderId),s)
  else if amount ≤ s.available then
    (.ok ⟨true,amount,decide (holderId ∈ s.pendingRedecision)⟩,
      {s with
        available := s.available-amount
        held := s.held.set holderId ((s.held.get holderId).getD 0+amount)
        pendingRedecision := s.pendingRedecision.erase holderId})
  else if holderId ∈ s.pendingRedecision then
    (.error (.redecisionExhausted holderId),
      {s with
        pendingRedecision := s.pendingRedecision.erase holderId
        exhausted := insert holderId s.exhausted})
  else (.ok ⟨false,0,false⟩,{s with pendingRedecision := insert holderId s.pendingRedecision})

def release (s : CapacityLedger) (holderId : String) : ℤ × CapacityLedger :=
  let amount := (s.held.get holderId).getD 0
  (amount,
    {s with
      available := s.available+amount
      held := s.held.pop holderId
      pendingRedecision := s.pendingRedecision.erase holderId
      exhausted := s.exhausted.erase holderId})

inductive Call
  | acquire (holderId : String) (amount : ℤ)
  | release (holderId : String)

inductive Answer
  | raised (error : CapacityError)
  | decided (decision : CapacityDecision)
  | released (amount : ℤ)

def Answer.of : Except CapacityError CapacityDecision → Answer
  | .error e => .raised e
  | .ok decision => .decided decision

def step (s : CapacityLedger) : Call → Answer × CapacityLedger
  | .acquire holderId amount => (.of (s.acquire holderId amount).1,(s.acquire holderId amount).2)
  | .release holderId => (.released (s.release holderId).1,(s.release holderId).2)

inductive Standing
  | clear | denied | exhausted

def standing (s : CapacityLedger) (holderId : String) : Standing :=
  if holderId ∈ s.exhausted then .exhausted
  else if holderId ∈ s.pendingRedecision then .denied
  else .clear

namespace Answer

def isGrant : Answer → Bool
  | .decided decision => decision.granted
  | _ => false

def isDenial : Answer → Bool
  | .decided decision => !decision.granted
  | _ => false

end Answer

variable {s : CapacityLedger} {holderId : String} {amount : ℤ}

inductive Acquired (s : CapacityLedger) (holderId : String) (amount : ℤ) : Answer → CapacityLedger → Prop
  | invalid (h : amount ≤ 0) : Acquired s holderId amount (.raised (.amountInvalid amount)) s
  | barred (hpos : 0 < amount) (h : s.standing holderId = .exhausted) :
      Acquired s holderId amount (.raised (.redecisionExhausted holderId)) s
  | granted (hpos : 0 < amount) (h : s.standing holderId ≠ .exhausted) (hroom : amount ≤ s.available) (redecision : Bool) :
      Acquired s holderId amount (.decided ⟨true,amount,redecision⟩)
        {s with
          available := s.available-amount
          held := s.held.set holderId ((s.held.get holderId).getD 0+amount)
          pendingRedecision := s.pendingRedecision.erase holderId}
  | spent (hpos : 0 < amount) (h : s.standing holderId = .denied) (hroom : s.available < amount) :
      Acquired s holderId amount (.raised (.redecisionExhausted holderId))
        {s with
          pendingRedecision := s.pendingRedecision.erase holderId
          exhausted := insert holderId s.exhausted}
  | denied (hpos : 0 < amount) (h : s.standing holderId = .clear) (hroom : s.available < amount) :
      Acquired s holderId amount (.decided ⟨false,0,false⟩)
        {s with pendingRedecision := insert holderId s.pendingRedecision}

theorem acquired (s : CapacityLedger) (holderId : String) (amount : ℤ) :
    ∃ answer t, step s (.acquire holderId amount) = (answer,t) ∧ Acquired s holderId amount answer t := by
  refine ⟨_,_,rfl,?_⟩
  unfold acquire
  by_cases hpos : amount ≤ 0
  · rw [if_pos hpos]
    exact .invalid hpos
  rw [if_neg hpos]
  have hpos := Int.not_le.mp hpos
  by_cases hexhausted : holderId ∈ s.exhausted
  · rw [if_pos hexhausted]
    exact .barred hpos (if_pos hexhausted)
  rw [if_neg hexhausted]
  by_cases hroom : amount ≤ s.available
  · rw [if_pos hroom]
    refine .granted hpos ?_ hroom _
    unfold standing
    split_ifs <;> exact Standing.noConfusion
  rw [if_neg hroom]
  have hroom := Int.not_le.mp hroom
  by_cases hpending : holderId ∈ s.pendingRedecision
  · rw [if_pos hpending]
    exact .spent hpos ((if_neg hexhausted).trans (if_pos hpending)) hroom
  · rw [if_neg hpending]
    exact .denied hpos ((if_neg hexhausted).trans (if_neg hpending)) hroom

/-- What is free and what the holders hold is all there is. -/
structure Balanced (total : ℤ) (s : CapacityLedger) : Prop where
  conserved : s.available+s.held.total id = total
  nonneg : 0 ≤ s.available
  /-- No holder holds less than nothing. -/
  holdings : ∀ holderId, 0 ≤ (s.held.get holderId).getD 0

theorem new_balanced {total : ℤ} (h : new total = .ok s) : Balanced total s := by
  unfold new at h
  split_ifs at h with hneg
  obtain rfl := Except.ok.inj h
  exact ⟨add_zero total,Int.not_lt.mp hneg,fun _ => Int.le_refl 0⟩

theorem getD_map_id (o : Option ℤ) : (o.map id).getD 0 = o.getD 0 := by
  rw [Option.map_id,id]

theorem acquire_balanced {total : ℤ} (hs : Balanced total s) (holderId : String) (amount : ℤ) :
    Balanced total (step s (.acquire holderId amount)).2 := by
  obtain ⟨answer,t,hstep,h⟩ := acquired s holderId amount
  rw [hstep]
  cases h with
  | invalid => exact hs
  | barred => exact hs
  | granted hpos _ hroom =>
    refine ⟨?_,Int.sub_nonneg.mpr hroom,fun other => ?_⟩
    · have hset := Dict.total_set id s.held holderId ((s.held.get holderId).getD 0+amount)
      rw [getD_map_id] at hset
      have hconserved := hs.conserved
      dsimp only [id] at hset ⊢
      omega
    · dsimp only
      rw [Dict.get_set]
      split_ifs
      · exact Int.add_nonneg (hs.holdings holderId) (Int.le_of_lt hpos)
      · exact hs.holdings other
  | spent => exact ⟨hs.conserved,hs.nonneg,hs.holdings⟩
  | denied => exact ⟨hs.conserved,hs.nonneg,hs.holdings⟩

theorem release_balanced {total : ℤ} (hs : Balanced total s) (holderId : String) :
    Balanced total (step s (.release holderId)).2 := by
  refine ⟨?_,Int.add_nonneg hs.nonneg (hs.holdings holderId),fun other => ?_⟩
  · have hpop := Dict.total_pop id s.held holderId
    rw [getD_map_id] at hpop
    have hconserved := hs.conserved
    show s.available+(s.held.get holderId).getD 0+(s.held.pop holderId).total id = total
    omega
  · show 0 ≤ ((s.held.pop holderId).get other).getD 0
    rw [Dict.get_pop]
    split_ifs
    · exact Int.le_refl 0
    · exact hs.holdings other

theorem step_balanced (total : ℤ) (s : CapacityLedger) (call : Call) (hs : Balanced total s) :
    Balanced total (step s call).2 := by
  cases call with
  | acquire holderId amount => exact acquire_balanced hs holderId amount
  | release holderId => exact release_balanced hs holderId

theorem held_of_not_granted (h : (step s (.acquire holderId amount)).1.isGrant = false) :
    (step s (.acquire holderId amount)).2.held = s.held ∧
      (step s (.acquire holderId amount)).2.available = s.available := by
  obtain ⟨answer,t,hstep,hacquired⟩ := acquired s holderId amount
  rw [hstep] at h ⊢
  cases hacquired with
  | invalid => exact ⟨rfl,rfl⟩
  | barred => exact ⟨rfl,rfl⟩
  | granted => cases h
  | spent => exact ⟨rfl,rfl⟩
  | denied => exact ⟨rfl,rfl⟩

theorem standing_congr {t : CapacityLedger} (hexhausted : holderId ∈ t.exhausted ↔ holderId ∈ s.exhausted)
    (hpending : holderId ∈ t.pendingRedecision ↔ holderId ∈ s.pendingRedecision) :
    t.standing holderId = s.standing holderId := by
  unfold standing
  simp only [hexhausted,hpending]

theorem standing_acquire {other : String} (hne : holderId ≠ other) :
    (step s (.acquire other amount)).2.standing holderId = s.standing holderId := by
  obtain ⟨answer,t,hstep,h⟩ := acquired s other amount
  rw [hstep]
  cases h with
  | invalid => rfl
  | barred => rfl
  | granted => exact standing_congr Iff.rfl (by simp [hne])
  | spent => exact standing_congr (by simp [hne]) (by simp [hne])
  | denied => exact standing_congr Iff.rfl (by simp [hne])

theorem standing_release {other : String} (hne : holderId ≠ other) :
    (step s (.release other)).2.standing holderId = s.standing holderId :=
  standing_congr (by simp [step,release,hne]) (by simp [step,release,hne])

def Unserved (holderId : String) (s : CapacityLedger) (call : Call) : Prop :=
  call ≠ .release holderId ∧ ∀ amount, call = .acquire holderId amount → (step s call).1.isGrant = false
def Unreleased (holderId : String) (_ : CapacityLedger) (call : Call) : Prop := call ≠ .release holderId

theorem exhausted_step (s : CapacityLedger) (call : Call) (hs : s.standing holderId = .exhausted)
    (hcall : Unreleased holderId s call) : (step s call).2.standing holderId = .exhausted := by
  cases call with
  | release other =>
    have hne : holderId ≠ other := by
      rintro rfl
      exact hcall rfl
    rw [standing_release hne,hs]
  | acquire other amount =>
    by_cases hne : holderId = other
    · subst hne
      obtain ⟨answer,t,hstep,h⟩ := acquired s holderId amount
      rw [hstep]
      cases h with
      | invalid => exact hs
      | barred => exact hs
      | granted _ hnot => exact absurd hs hnot
      | spent => exact if_pos (Finset.mem_insert_self _ _)
      | denied _ hclear => cases hs.symm.trans hclear
    · rw [standing_acquire hne,hs]

theorem denied_step (s : CapacityLedger) (call : Call) (hs : s.standing holderId ≠ .clear)
    (hcall : Unserved holderId s call) : (step s call).2.standing holderId ≠ .clear := by
  cases call with
  | release other =>
    have hne : holderId ≠ other := by
      rintro rfl
      exact hcall.1 rfl
    rw [standing_release hne]
    exact hs
  | acquire other amount =>
    by_cases hne : holderId = other
    · subst hne
      have hgrant := hcall.2 amount rfl
      obtain ⟨answer,t,hstep,h⟩ := acquired s holderId amount
      rw [hstep] at hgrant ⊢
      cases h with
      | invalid => exact hs
      | barred => exact hs
      | granted => cases hgrant
      | spent =>
        have hspent : standing {s with
            pendingRedecision := s.pendingRedecision.erase holderId
            exhausted := insert holderId s.exhausted} holderId = .exhausted := if_pos (Finset.mem_insert_self _ _)
        rw [hspent]
        exact Standing.noConfusion
      | denied _ hclear => exact absurd hclear hs
    · rw [standing_acquire hne]
      exact hs

/-- The rule of the one re-decision, for a holder that calls in some state and again after some calls. -/
structure OneRedecision (holderId : String) (s : CapacityLedger) : Prop where
  /-- With no grant and no release since a denial, the next call is granted or raises. -/
  denied : ∀ amount, (step s (.acquire holderId amount)).1.isDenial = true →
    ∀ between, Along step (Unserved holderId) (step s (.acquire holderId amount)).2 between → ∀ amount',
      let answer := (step (after step (step s (.acquire holderId amount)).2 between) (.acquire holderId amount')).1
      answer.isDenial = false ∧
        (answer.isGrant = false → 0 < amount' → answer = .raised (.redecisionExhausted holderId))
  /-- After that every call raises until the holder is released. -/
  exhausted : ∀ amount, (step s (.acquire holderId amount)).1 = .raised (.redecisionExhausted holderId) →
    ∀ between, Along step (Unreleased holderId) (step s (.acquire holderId amount)).2 between → ∀ amount',
      let answer := (step (after step (step s (.acquire holderId amount)).2 between) (.acquire holderId amount')).1
      answer = .raised (.amountInvalid amount') ∨ answer = .raised (.redecisionExhausted holderId)

theorem denied_standing (h : (step s (.acquire holderId amount)).1.isDenial = true) :
    (step s (.acquire holderId amount)).2.standing holderId ≠ .clear := by
  obtain ⟨answer,t,hstep,hacquired⟩ := acquired s holderId amount
  rw [hstep] at h ⊢
  cases hacquired with
  | invalid => cases h
  | barred => cases h
  | granted => cases h
  | spent => cases h
  | denied =>
    unfold standing
    split_ifs with hexhausted hpending
    · exact Standing.noConfusion
    · exact Standing.noConfusion
    · exact absurd (Finset.mem_insert_self _ _) hpending

theorem exhausted_standing (h : (step s (.acquire holderId amount)).1 = .raised (.redecisionExhausted holderId)) :
    (step s (.acquire holderId amount)).2.standing holderId = .exhausted := by
  obtain ⟨answer,t,hstep,hacquired⟩ := acquired s holderId amount
  rw [hstep] at h ⊢
  cases hacquired with
  | invalid => cases h
  | barred _ hstanding => exact hstanding
  | granted => cases h
  | spent => exact if_pos (Finset.mem_insert_self _ _)
  | denied => cases h

theorem oneRedecision (holderId : String) (s : CapacityLedger) : OneRedecision holderId s := by
  refine ⟨fun amount hdenial between hbetween amount' => ?_,fun amount hraised between hbetween amount' => ?_⟩
  · have hstanding := hbetween.invariant (P := fun t => t.standing holderId ≠ .clear) denied_step
      (denied_standing hdenial)
    generalize after step (step s (.acquire holderId amount)).2 between = t at hstanding
    obtain ⟨answer,u,hstep,hacquired⟩ := acquired t holderId amount'
    rw [hstep]
    cases hacquired with
    | invalid hpos => exact ⟨rfl,fun _ hpos' => absurd hpos' (Int.not_lt.mpr hpos)⟩
    | barred => exact ⟨rfl,fun _ _ => rfl⟩
    | granted => exact ⟨rfl,fun hgrant => absurd hgrant.symm Bool.false_ne_true⟩
    | spent => exact ⟨rfl,fun _ _ => rfl⟩
    | denied _ hclear => exact absurd hclear hstanding
  · have hstanding := hbetween.invariant (P := fun t => t.standing holderId = .exhausted) exhausted_step
      (exhausted_standing hraised)
    generalize after step (step s (.acquire holderId amount)).2 between = t at hstanding
    obtain ⟨answer,u,hstep,hacquired⟩ := acquired t holderId amount'
    rw [hstep]
    cases hacquired with
    | invalid => exact .inl rfl
    | barred => exact .inr rfl
    | granted _ hnot => exact absurd hstanding hnot
    | spent => exact .inr rfl
    | denied _ hclear => cases hstanding.symm.trans hclear

/-- The law of a ledger after any calls by any holders. -/
theorem capacity_ledger_law {total : ℤ} {ledger : CapacityLedger} (hnew : new total = .ok ledger)
    (calls : List Call) :
    let s := after step ledger calls
    Balanced total s ∧
      (∀ holderId amount, (step s (.acquire holderId amount)).1.isGrant = false →
        (step s (.acquire holderId amount)).2.held = s.held) ∧
      ∀ holderId, OneRedecision holderId s := by
  have hreach : Reachable step ledger (after step ledger calls) := ⟨calls,rfl⟩
  exact ⟨hreach.invariant (step_balanced total) (new_balanced hnew),fun _ _ h => (held_of_not_granted h).1,
    fun holderId => oneRedecision holderId _⟩

theorem capacity_ledger_law_here :
    Balanced 2 (after step ⟨2,2,∅,∅,∅⟩ [.acquire "a" 1,.acquire "b" 2,.acquire "b" 2,.release "b"]) :=
  (@capacity_ledger_law 2 ⟨2,2,∅,∅,∅⟩ rfl [.acquire "a" 1,.acquire "b" 2,.acquire "b" 2,.release "b"]).1

end CapacityLedger
end Arbora.Runs
