import Arbora.Lib.Pool
import Arbora.Scaling.LedgerFencing
import Arbora.Scaling.ReconcilerRuns

/-! Deliveries of one intent that overlap. -/
namespace Arbora.Scaling
open Interaction Ledger Reconciler

def Terminal (row : Row) : Prop :=
  row.observation.isSome = true ∨
    ∃ e r, row.execution = some e ∧ e.result = some r ∧ (r.state = .succeeded ∨ r.state = .simulated)

def Shaped (e : ScaleExecutionRecord) : Prop :=
  match e.state with
  | .persisted => e.result = none
  | .started => ∀ r, e.result = some r → r.state = .failed
  | .simulated => ∃ r, e.result = some r ∧ r.state = .simulated
  | .succeeded => ∃ r, e.result = some r ∧ r.state = .succeeded
  | .failed => ∃ r, e.result = some r ∧ r.state = .failed
  | .verified => ∃ r, e.result = some r
  | .observed | .denied => False

/-- A row of the ledger under any calls at all. -/
structure WellShaped (row : Row) : Prop where
  execution : ∀ e, row.execution = some e → Shaped e
  verified : ∀ e, row.execution = some e → e.state = .verified → row.observation.isSome = true
  observed : row.observation.isSome = true → ∃ e r, row.execution = some e ∧ e.result = some r

/-- The record of a row comes after `e`: no earlier attempt, a result that may not be retried is
kept, and it is never only persisted again. -/
def ComesAfter (e : ScaleExecutionRecord) (row : Row) : Prop :=
  ∃ e', row.execution = some e' ∧ e.attempt ≤ e'.attempt ∧
    (∀ r, e.result = some r → r.retryable = false → e'.result = some r) ∧
    (e.state ≠ .persisted → e'.state ≠ .persisted)

section
variable {H : Hashes} {L : Ledger} {k uuid : String} {c : LedgerCall}

theorem wellShaped_step (hs : WellShaped (L.row k)) : WellShaped ((L.perform H uuid c).2.row k) := by
  have hrow := perform_row (H := H) (L := L) k uuid c
  generalize (L.perform H uuid c).2.row k = row' at hrow ⊢
  cases hrow with
  | stay => exact hs
  | persist intent hk hn =>
    refine ⟨?_,?_,?_⟩
    · rintro e ⟨⟩
      exact (rfl : (newExecution H intent).result = none)
    · rintro e ⟨⟩ hst
      cases hst
    · intro ho
      obtain ⟨e,_,he,_⟩ := hs.observed ho
      simp [hn] at he
  | lease intent controllerId now hk e l t ht he hx ha hid => exact ⟨hs.execution,hs.verified,hs.observed⟩
  | start intent execution lease now hk e t held hl hid he hset hf =>
    have hshape := hs.execution e he
    refine ⟨?_,?_,?_⟩
    · rintro e' ⟨⟩
      show ∀ r, e.result = some r → r.state = .failed
      intro r hr
      unfold Shaped at hshape
      cases hst : e.state with
      | persisted => simp [hst,hr] at hshape
      | started =>
        simp only [hst] at hshape
        exact hshape r hr
      | failed =>
        simp only [hst] at hshape
        obtain ⟨r',hr',hf'⟩ := hshape
        rw [hr] at hr'
        cases hr'
        exact hf'
      | observed => simp [hst] at hshape
      | denied => simp [hst] at hshape
      | _ => simp [hst,settledState] at hset
    · rintro e' ⟨⟩ hst
      cases hst
    · intro ho
      obtain ⟨e',r,he',hr⟩ := hs.observed ho
      rw [row_execution,he] at he'
      cases he'
      exact ⟨_,r,rfl,hr⟩
  | result intent execution lease result now hk e t held hl hid he hw hc hr =>
    refine ⟨?_,?_,?_⟩
    · rintro e' ⟨⟩
      rcases result.state_cases with hst | hst | hst
      all_goals
        simp only [withResult,hst]
        exact ⟨result,rfl,hst⟩
    · rintro e' ⟨⟩ hst
      exact absurd hst result.not_verified
    · intro _
      exact ⟨_,result,rfl,rfl⟩
  | observe intent execution observation t hk e r he hn hr hm =>
    refine ⟨?_,?_,?_⟩
    · rintro e' ⟨⟩
      exact ⟨r,hr⟩
    · intro _ _ _
      rfl
    · intro _
      exact ⟨_,r,rfl,hr⟩
  | stray intent execution observation now hnow hk e r he hn hr hv hm =>
    exact ⟨hs.execution,fun _ _ _ => rfl,fun _ => ⟨e,r,he,hr⟩⟩

theorem terminal_step (hs : WellShaped (L.row k)) (ht : Terminal (L.row k)) :
    Terminal ((L.perform H uuid c).2.row k) := by
  have hrow := perform_row (H := H) (L := L) k uuid c
  generalize (L.perform H uuid c).2.row k = row' at hrow ⊢
  cases hrow with
  | stay => exact ht
  | persist intent hk hn =>
    rcases ht with ho | ⟨e,_,he,_⟩
    · exact .inl ho
    · simp [hn] at he
  | lease intent controllerId now hk e l t ht' he hx ha hid => exact ht
  | start intent execution lease now hk e t held hl hid he hset hf =>
    rcases ht with ho | ⟨e',r,he',hr,hst⟩
    · exact .inl ho
    · rw [row_execution,he] at he'
      cases he'
      exact .inr ⟨_,r,rfl,hr,hst⟩
  | result intent execution lease result now hk e t held hl hid he hw hc hr =>
    rcases ht with ho | ⟨e',r,he',hres,hst⟩
    · exact .inl ho
    · rw [row_execution,he] at he'
      cases he'
      -- a started record keeps only failures, so this result can only come again as it is
      rcases hw with hn | ⟨hsame,_⟩ | ⟨kept,hkept,_,_,hstarted,_⟩
      · simp [hres] at hn
      · rw [hres] at hsame
        cases hsame
        exact .inr ⟨_,result,rfl,rfl,hst⟩
      · have hshape := hs.execution e he
        unfold Shaped at hshape
        simp only [hstarted] at hshape
        have := hshape r hres
        rcases hst with hst | hst <;> simp [hst] at this
  | observe intent execution observation t hk e r he hn hr hm => exact .inl rfl
  | stray intent execution observation now hnow hk e r he hn hr hv hm => exact .inl rfl

variable {e : ScaleExecutionRecord}

theorem comesAfter_self {row : Row} (he : row.execution = some e) : ComesAfter e row :=
  ⟨e,he,le_rfl,fun _ hr _ => hr,id⟩

/-- A call keeps the key's record, a result that may not be retried, and that it has gone on. -/
private theorem record_step (he : L.executions k = some e) :
    ∃ e', ((L.perform H uuid c).2.row k).execution = some e' ∧
      (∀ r, e.result = some r → r.retryable = false → e'.result = some r) ∧
      (e.state ≠ .persisted → e'.state ≠ .persisted) := by
  have hrow := perform_row (H := H) (L := L) k uuid c
  generalize (L.perform H uuid c).2.row k = row' at hrow ⊢
  cases hrow with
  | persist intent hk hn => simp [hn] at he
  | start intent execution lease now hk e' t held hl hid he' hset hf =>
    rw [he] at he'
    cases he'
    exact ⟨_,rfl,fun _ hr _ => hr,fun _ => nofun⟩
  | result intent execution lease result now hk e' t held hl hid he' hw hc hid' =>
    rw [he] at he'
    cases he'
    refine ⟨_,rfl,?_,?_⟩
    · intro r hr hret
      rcases hw with hn | ⟨hsame,_⟩ | ⟨kept,hkept,_,hret',_⟩
      · simp [hr] at hn
      · rw [← hr,hsame]
        rfl
      · rw [hr] at hkept
        cases hkept
        simp [hret] at hret'
    · intro _ hst
      rcases result.state_cases with hs | hs | hs
      all_goals
        rw [show (withResult e lease result t).state = result.state from rfl,hs] at hst
        cases hst
  | observe intent execution observation t hk e' r he' hn hr hm =>
    rw [he] at he'
    cases he'
    exact ⟨_,rfl,fun _ hr _ => hr,fun _ => nofun⟩
  | _ => exact ⟨e,he,fun _ hr _ => hr,id⟩

/-- What came after `e` still does after a call with a genuine lease. -/
theorem comesAfter_step (ha : ComesAfter e (L.row k)) (ho : Ordered (L.row k))
    (hg : Genuine L c) : ComesAfter e ((L.perform H uuid c).2.row k) := by
  obtain ⟨e₁,he₁,hatt,hres,hper⟩ := ha
  obtain ⟨e₂,he₂,hres',hper'⟩ := @record_step H _ _ uuid c _ he₁
  obtain ⟨_,hadv⟩ := ordered_step (H := H) uuid c ho hg
  obtain ⟨e₃,he₃,hatt',_⟩ := hadv e₁ he₁
  rw [he₂] at he₃
  cases he₃
  refine ⟨e₂,he₂,hatt.trans hatt',?_,fun h => hper' (hper h)⟩
  intro r hr hret
  exact hres' r (hres r hr hret) hret

end

abbrev Log (ι : Type) := List (ι × Event Call Call.Answer)

/-- The answers of interest in a log: an intent persisted, a lease, a start, a stored record. -/
def persistedBy : Event Call Call.Answer → Option PersistedIntent
  | ⟨.ledger (.persistIntent _),.ok p⟩ => some p
  | _ => none

def leasedBy : Event Call Call.Answer → Option ControllerLease
  | ⟨.ledger (.acquireControllerLease ..),.ok l⟩ => l
  | _ => none

def markedBy : Event Call Call.Answer → Option (ControllerLease × ScaleExecutionRecord)
  | ⟨.ledger (.markStarted _ _ l _),.ok e⟩ => some (l,e)
  | _ => none

def recordedBy : Event Call Call.Answer → Option (ScaleActuationResult × ScaleExecutionRecord)
  | ⟨.ledger (.recordResult _ _ _ r _),.ok e⟩ => some (r,e)
  | _ => none

def storedBy : Event Call Call.Answer → Option ScaleExecutionRecord
  | ⟨.ledger (.persistIntent _),.ok p⟩ => some p.execution
  | ⟨.ledger (.markStarted ..),.ok e⟩ => some e
  | ⟨.ledger (.recordResult ..),.ok e⟩ => some e
  | _ => none

theorem storedBy_persistedBy {x : Event Call Call.Answer} {p : PersistedIntent} (h : persistedBy x = some p) :
    storedBy x = some p.execution := by
  unfold persistedBy at h
  split at h
  · cases h
    rfl
  · cases h

theorem storedBy_markedBy {x : Event Call Call.Answer} {l : ControllerLease} {e : ScaleExecutionRecord}
    (h : markedBy x = some (l,e)) : storedBy x = some e := by
  unfold markedBy at h
  split at h
  · cases h
    rfl
  · cases h

def isApply : Event Call Call.Answer → Bool
  | ⟨.apply _,_⟩ => true
  | _ => false

/-- What the calls made so far say about the ledger, whatever their order. -/
structure Traced {ι : Type} (k : String) (log : Log ι) (s : Deployment) : Prop where
  shaped : WellShaped (s.ledger.row k)
  ordered : Ordered (s.ledger.row k)
  named : ∀ held, s.ledger.leases k = some held → ∃ u ∈ s.uuids, held.leaseInstanceId = "lease:" ++ u
  leases : ∀ x ∈ log, ∀ l, leasedBy x.2 = some l → (∃ u ∈ s.uuids, l.leaseInstanceId = "lease:" ++ u) ∧
    ∀ held, s.ledger.leases k = some held → held.leaseInstanceId = l.leaseInstanceId → held = l
  records : ∀ x ∈ log, ∀ e, storedBy x.2 = some e → Shaped e ∧ ComesAfter e (s.ledger.row k)
  marks : ∀ x ∈ log, ∀ l e, markedBy x.2 = some (l,e) → e.state ≠ .persisted
  results : ∀ x ∈ log, ∀ r e, recordedBy x.2 = some (r,e) → e.result = some r
  applied : ∀ x ∈ log, isApply x.2 = true → ∃ y ∈ log, (markedBy y.2).isSome = true

section
variable {H : Hashes} {d : Delivery} {now : Int} {h : History}

theorem Opened.mem {p : PersistedIntent} (ho : Opened d h p) : ∃ x ∈ h, persistedBy x = some p := by
  obtain ⟨q,rfl,_⟩ := ho
  exact ⟨_,List.mem_cons_self,rfl⟩

variable {l : ControllerLease} {e : ScaleExecutionRecord}

theorem Leased.mem {p : PersistedIntent} (hl : Leased d now h p l) :
    (∃ x ∈ h, persistedBy x = some p) ∧ ∃ x ∈ h, leasedBy x = some l := by
  obtain ⟨q,rfl,ho,_⟩ := hl
  obtain ⟨x,hx,hp⟩ := ho.mem
  exact ⟨⟨x,List.mem_append_left _ hx,hp⟩,_,List.mem_append_right _ (List.mem_singleton.mpr rfl),rfl⟩

theorem Marked.mem (hm : Marked d now h l e) :
    (∃ p x, x ∈ h ∧ persistedBy x = some p ∧ Startable d p.execution) ∧ (∃ x ∈ h, leasedBy x = some l) ∧
    ∃ x ∈ h, markedBy x = some (l,e) := by
  obtain ⟨_,p,q,hl,rfl⟩ := hm
  obtain ⟨⟨x,hx,hp⟩,y,hy,hl'⟩ := hl.mem
  exact ⟨⟨p,x,List.mem_append_left _ hx,hp,hl.startable⟩,⟨y,List.mem_append_left _ hy,hl'⟩,
    _,List.mem_append_right _ (List.mem_singleton.mpr rfl),rfl⟩

theorem presented_leased {c : LedgerCall} {k : String} (hf : Follows H d now h (.ledger c))
    (hc : c.presents = some (k,l)) : ∃ x ∈ h, leasedBy x = some l := by
  cases c with
  | markStarted i e l' t =>
    cases hc
    obtain ⟨_,_,_,p,hl,_⟩ := hf
    exact hl.mem.2
  | recordResult i e l' r t =>
    cases hc
    obtain ⟨_,_,hrec⟩ := hf
    rcases hrec with ⟨_,_,p,hl,_⟩ | ⟨_,q,a,hm,rfl⟩
    · exact hl.mem.2
    · obtain ⟨_,⟨x,hx,hl⟩,_⟩ := hm.mem
      exact ⟨x,List.mem_append_left _ hx,hl⟩
  | _ => cases hc

theorem follows_key {c : LedgerCall} (hf : Follows H d now h (.ledger c)) : c.key = d.intent.executionKey := by
  cases c with
  | persistIntent i => rw [hf.1]; rfl
  | acquireControllerLease i c t => rw [hf.1]; rfl
  | markStarted i e l t => rw [hf.1]; rfl
  | recordResult i e l r t => rw [hf.1]; rfl
  | recordObservation i e o t => rw [hf.1]; rfl
  | recordBreakGlass i a t => rw [hf.1]; rfl

theorem storedBy_row {L : Ledger} {uuid : String} {c : LedgerCall} (he : storedBy ⟨.ledger c,
    (L.perform H uuid c).1⟩ = some e) : (L.perform H uuid c).2.executions c.key = some e := by
  cases c with
  | persistIntent i =>
    cases hr : (L.persistIntent H i).1 with
    | error x => simp [storedBy,perform,hr] at he
    | ok p =>
      simp only [storedBy,perform,hr,Option.some.injEq] at he
      subst he
      exact (persistIntent_ok hr).1
  | markStarted i e' l t =>
    cases hr : (L.markStarted H i e' l t).1 with
    | error x => simp [storedBy,perform,hr] at he
    | ok p =>
      simp only [storedBy,perform,hr,Option.some.injEq] at he
      subst he
      exact (markStarted_ok hr).1
  | recordResult i e' l r t =>
    cases hr : (L.recordResult H i e' l r t).1 with
    | error x => simp [storedBy,perform,hr] at he
    | ok p =>
      simp only [storedBy,perform,hr,Option.some.injEq] at he
      subst he
      exact (recordResult_ok hr).1
  | acquireControllerLease i c t => simp [storedBy] at he
  | recordObservation i e' o t => simp [storedBy] at he
  | recordBreakGlass i a t => simp [storedBy] at he

theorem leasedBy_row {L : Ledger} {uuid : String} {c : LedgerCall} (hl : leasedBy ⟨.ledger c,
    (L.perform H uuid c).1⟩ = some l) : (L.perform H uuid c).2.leases c.key = some l := by
  cases c with
  | acquireControllerLease i controllerId t =>
    cases hr : (L.acquireControllerLease H uuid i controllerId t).1 with
    | error x => simp [leasedBy,perform,hr] at hl
    | ok lease =>
      simp only [leasedBy,perform,hr] at hl
      exact acquireControllerLease_ok (hr.trans (by rw [hl]))
  | persistIntent i => simp [leasedBy] at hl
  | markStarted i e l t => simp [leasedBy] at hl
  | recordResult i e l r t => simp [leasedBy] at hl
  | recordObservation i e o t => simp [leasedBy] at hl
  | recordBreakGlass i a t => simp [leasedBy] at hl

theorem markedBy_state {L : Ledger} {uuid : String} {c : LedgerCall} (hm : markedBy ⟨.ledger c,
    (L.perform H uuid c).1⟩ = some (l,e)) : e.state ≠ .persisted := by
  cases c with
  | markStarted i e' l' t =>
    cases hr : (L.markStarted H i e' l' t).1 with
    | error x => simp [markedBy,perform,hr] at hm
    | ok e'' =>
      simp only [markedBy,perform,hr,Option.some.injEq,Prod.mk.injEq] at hm
      obtain ⟨rfl,rfl⟩ := hm
      intro hp
      rcases (markStarted_ok hr).2 with ⟨hset,_⟩ | ⟨e₀,t,_,_,rfl⟩
      · simp [hp,settledState] at hset
      · cases hp
  | persistIntent i => simp [markedBy] at hm
  | acquireControllerLease i controllerId t => simp [markedBy] at hm
  | recordResult i e l r t => simp [markedBy] at hm
  | recordObservation i e o t => simp [markedBy] at hm
  | recordBreakGlass i a t => simp [markedBy] at hm

theorem recordedBy_result {L : Ledger} {uuid : String} {c : LedgerCall} {r : ScaleActuationResult}
    (hm : recordedBy ⟨.ledger c,(L.perform H uuid c).1⟩ = some (r,e)) : e.result = some r := by
  cases c with
  | recordResult i e' l r' t =>
    cases hr : (L.recordResult H i e' l r' t).1 with
    | error x => simp [recordedBy,perform,hr] at hm
    | ok e'' =>
      simp only [recordedBy,perform,hr,Option.some.injEq,Prod.mk.injEq] at hm
      obtain ⟨rfl,rfl⟩ := hm
      exact (recordResult_ok hr).2
  | persistIntent i => simp [recordedBy] at hm
  | acquireControllerLease i controllerId t => simp [recordedBy] at hm
  | markStarted i e l t => simp [recordedBy] at hm
  | recordObservation i e o t => simp [recordedBy] at hm
  | recordBreakGlass i a t => simp [recordedBy] at hm

theorem presents_key {c : LedgerCall} {key : String} (hc : c.presents = some (key,l)) : key = c.key := by
  cases c with
  | markStarted i e l' t =>
    cases hc
    rfl
  | recordResult i e l' r t =>
    cases hc
    rfl
  | _ => cases hc

end

section
variable {H : Hashes} {ι : Type} {k : String} {log : Log ι} {s s' : Deployment} {i : ι}

private theorem traced_ledger {c : LedgerCall} {r : Except Raised c.Answer} (ht : Traced k log s) (hk : c.key = k)
    (hpres : ∀ key l, c.presents = some (key,l) → ∃ x ∈ log, leasedBy x.2 = some l)
    (hw : world H s (.ledger c) r s') : Traced k (log ++ [(i,⟨.ledger c,r⟩)]) s' := by
  obtain ⟨uuid,hfresh,hperform,_,huuids⟩ := hw
  have hL : (s.ledger.perform H uuid c).2 = s'.ledger := by rw [hperform]
  have hr : (s.ledger.perform H uuid c).1 = r := by rw [hperform]
  have hmono : ∀ u ∈ s.uuids, u ∈ s'.uuids := fun u hu => huuids ▸ List.mem_cons_of_mem _ hu
  have hgenuine : Genuine s.ledger c := by
    intro key lease held hc hheld hid
    obtain ⟨x,hx,hl⟩ := hpres key lease hc
    rw [presents_key hc,hk] at hheld
    rw [(ht.leases x hx lease hl).2 held hheld hid]
  have hordered := ordered_step (H := H) uuid c ht.ordered hgenuine
  have hshaped := @wellShaped_step H _ _ uuid c ht.shaped
  rw [hL] at hordered hshaped
  -- a current lease is the old one or named by the new uuid
  have hlease (held : ControllerLease) (hheld : s'.ledger.leases k = some held) :
      s.ledger.leases k = some held ∨ held.leaseInstanceId = "lease:" ++ uuid := by
    rcases @lease_step H s.ledger k uuid c held (by rw [hL]; exact hheld) with hold | ⟨_,hid⟩
    · exact .inl hold
    · exact .inr hid
  have hnamed : ∀ held, s'.ledger.leases k = some held → ∃ u ∈ s'.uuids, held.leaseInstanceId = "lease:" ++ u := by
    intro held hheld
    rcases hlease held hheld with hold | hid
    · obtain ⟨u,hu,hid⟩ := ht.named held hold
      exact ⟨u,hmono u hu,hid⟩
    · exact ⟨uuid,huuids ▸ List.mem_cons_self,hid⟩
  refine ⟨hshaped,hordered.1,hnamed,?_,?_,?_,?_,?_⟩
  · intro x hx l hl
    rcases List.mem_append.mp hx with hx | hx
    · obtain ⟨⟨u,hu,hid⟩,hsame⟩ := ht.leases x hx l hl
      refine ⟨⟨u,hmono u hu,hid⟩,?_⟩
      intro held hheld heq
      rcases hlease held hheld with hold | hnew
      · exact hsame held hold heq
      · have : uuid = u := (String.append_right_inj "lease:").mp (by rw [← hnew,heq,hid])
        exact absurd (this ▸ hu) hfresh
    · cases List.mem_singleton.mp hx
      subst hr
      have hcur := leasedBy_row hl
      rw [hL,hk] at hcur
      refine ⟨hnamed l hcur,?_⟩
      intro held hheld _
      rw [hcur] at hheld
      exact (Option.some.inj hheld).symm
  · intro x hx e he
    rcases List.mem_append.mp hx with hx | hx
    · obtain ⟨hshape,hafter⟩ := ht.records x hx e he
      have hstep := @comesAfter_step H _ _ uuid _ _ hafter ht.ordered hgenuine
      rw [hL] at hstep
      exact ⟨hshape,hstep⟩
    · cases List.mem_singleton.mp hx
      subst hr
      have hcur := storedBy_row he
      rw [hL,hk] at hcur
      exact ⟨hshaped.execution e hcur,comesAfter_self hcur⟩
  · intro x hx l e hm
    rcases List.mem_append.mp hx with hx | hx
    · exact ht.marks x hx l e hm
    · cases List.mem_singleton.mp hx
      subst hr
      exact markedBy_state hm
  · intro x hx r' e hm
    rcases List.mem_append.mp hx with hx | hx
    · exact ht.results x hx r' e hm
    · cases List.mem_singleton.mp hx
      subst hr
      exact recordedBy_result hm
  · intro x hx ha
    rcases List.mem_append.mp hx with hx | hx
    · obtain ⟨y,hy,hm⟩ := ht.applied x hx ha
      exact ⟨y,List.mem_append_left _ hy,hm⟩
    · cases List.mem_singleton.mp hx
      cases ha

/-- A call that leaves the ledger alone keeps the trace; an actuation comes after a start. -/
private theorem traced_other {x : Event Call Call.Answer} (ht : Traced k log s) (hL : s'.ledger = s.ledger)
    (hu : s'.uuids = s.uuids) (hlease : leasedBy x = none) (hstored : storedBy x = none) (hmarked : markedBy x = none)
    (hrecorded : recordedBy x = none) (happly : isApply x = true → ∃ y ∈ log, (markedBy y.2).isSome = true) : Traced k (log ++ [(i,x)]) s' := by
  obtain ⟨shaped,ordered,named,leases,records,marks,results,applied⟩ := ht
  rw [← hL] at shaped ordered named leases records
  rw [← hu] at named leases
  refine ⟨shaped,ordered,named,?_,?_,?_,?_,?_⟩
  · intro y hy l hl
    rcases List.mem_append.mp hy with hy | hy
    · exact leases y hy l hl
    · cases List.mem_singleton.mp hy
      simp [hlease] at hl
  · intro y hy e he
    rcases List.mem_append.mp hy with hy | hy
    · exact records y hy e he
    · cases List.mem_singleton.mp hy
      simp [hstored] at he
  · intro y hy l e hm
    rcases List.mem_append.mp hy with hy | hy
    · exact marks y hy l e hm
    · cases List.mem_singleton.mp hy
      simp [hmarked] at hm
  · intro y hy r e hm
    rcases List.mem_append.mp hy with hy | hy
    · exact results y hy r e hm
    · cases List.mem_singleton.mp hy
      simp [hrecorded] at hm
  · intro y hy ha
    have hex : ∃ y ∈ log, (markedBy y.2).isSome = true := by
      rcases List.mem_append.mp hy with hy | hy
      · exact applied y hy ha
      · cases List.mem_singleton.mp hy
        exact happly ha
    obtain ⟨z,hz,hm⟩ := hex
    exact ⟨z,List.mem_append_left _ hz,hm⟩

theorem traced_step [DecidableEq ι] {d : Delivery} {now : Int} {c : Call} {r : c.Answer} (ht : Traced k log s)
    (hd : d.intent.executionKey = k) (hf : Follows H d now (Pool.own i log) c) (hw : world H s c r s') :
    Traced k (log ++ [(i,⟨c,r⟩)]) s' := by
  cases c with
  | ledger c =>
    refine traced_ledger ht ((follows_key hf).trans hd) ?_ hw
    intro key l hc
    obtain ⟨x,hx,hl⟩ := presented_leased hf hc
    exact ⟨(i,x),Pool.mem_own.mp hx,hl⟩
  | getObservation key =>
    cases hw.2
    exact traced_other ht rfl rfl rfl rfl rfl rfl nofun
  | decide intent =>
    cases (show s' = s from hw)
    exact traced_other ht rfl rfl rfl rfl rfl rfl nofun
  | apply req =>
    obtain ⟨l,e,hm,_⟩ := hf
    cases hw
    refine traced_other ht rfl rfl rfl rfl rfl rfl ?_
    intro _
    obtain ⟨_,_,x,hx,hmark⟩ := hm.mem
    exact ⟨(i,x),Pool.mem_own.mp hx,by simp [hmark]⟩

end
end Arbora.Scaling
