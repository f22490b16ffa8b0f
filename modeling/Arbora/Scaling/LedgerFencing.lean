import Arbora.Scaling.LedgerAbsorption
import Mathlib.Data.List.Induction
import Mathlib.Data.List.Nodup

/-! Leases and attempts. -/
namespace Arbora.Scaling
open Ledger

def LedgerCall.presents : LedgerCall → Option (String × ControllerLease)
  | .markStarted intent _ lease _ => some (intent.executionKey,lease)
  | .recordResult intent _ lease _ _ => some (intent.executionKey,lease)
  | _ => none

def Genuine (L : Ledger) (c : LedgerCall) : Prop :=
  ∀ k lease held, c.presents = some (k,lease) → L.leases k = some held →
    held.leaseInstanceId = lease.leaseInstanceId → lease.attempt = held.attempt

def GenuineAlong (H : Hashes) : Ledger → List (String × LedgerCall) → Prop
  | _, [] => True
  | L, (uuid,c) :: rest => Genuine L c ∧ GenuineAlong H (L.perform H uuid c).2 rest

/-- What `uuid4` gave to the calls that may issue a lease. -/
def leaseUuids (calls : List (String × LedgerCall)) : List String :=
  calls.filterMap fun x => match x.2 with
    | .acquireControllerLease .. => some x.1
    | _ => none

structure Ordered (row : Row) : Prop where
  lease : ∀ l, row.lease = some l → ∃ e, row.execution = some e ∧
    (l.attempt = e.attempt ∨ l.attempt = e.attempt + 1) ∧ ∀ a, e.resultAttempt = some a → a ≤ l.attempt
  unleased : row.lease = none → ∀ e, row.execution = some e → e.resultAttempt = none

def Advances (row row' : Row) : Prop :=
  ∀ e, row.execution = some e → ∃ e', row'.execution = some e' ∧ e.attempt ≤ e'.attempt ∧
    ∀ a, e.resultAttempt = some a → ∃ a', e'.resultAttempt = some a' ∧ a ≤ a'

theorem Advances.refl (row : Row) : Advances row row := fun e he => ⟨e,he,le_rfl,fun a ha => ⟨a,ha,le_rfl⟩⟩

theorem Advances.trans {a b c : Row} (h : Advances a b) (h' : Advances b c) : Advances a c := by
  intro e he
  obtain ⟨e',he',hle,hres⟩ := h e he
  obtain ⟨e'',he'',hle',hres'⟩ := h' e' he'
  refine ⟨e'',he'',hle.trans hle',?_⟩
  intro x hx
  obtain ⟨y,hy,hxy⟩ := hres x hx
  obtain ⟨z,hz,hyz⟩ := hres' y hy
  exact ⟨z,hz,hxy.trans hyz⟩

section
variable {H : Hashes} {L : Ledger} {key : String}

theorem ordered_step (uuid : String) (c : LedgerCall) (ho : Ordered (L.row key)) (hg : Genuine L c) :
    Ordered ((L.perform H uuid c).2.row key) ∧ Advances (L.row key) ((L.perform H uuid c).2.row key) := by
  have hrow := perform_row (H := H) (L := L) key uuid c
  generalize (L.perform H uuid c).2.row key = row' at hrow ⊢
  cases hrow with
  | stay => exact ⟨ho,.refl _⟩
  | persist intent hk hn =>
    refine ⟨⟨?_,?_⟩,?_⟩
    · intro l hl
      obtain ⟨e,he,_⟩ := ho.lease l hl
      simp [hn] at he
    · rintro _ e he
      cases he
      rfl
    · intro e he
      simp [hn] at he
  | lease intent controllerId now hk e l t ht he hx ha hid =>
    refine ⟨⟨?_,?_⟩,.refl _⟩
    · rintro l' hl'
      cases hl'
      refine ⟨e,he,.inr ha,?_⟩
      intro a hra
      cases hcur : L.leases key with
      | none =>
        have hnone := ho.unleased hcur e he
        simp [hnone] at hra
      | some held =>
        obtain ⟨e',he',hatt,hle⟩ := ho.lease held hcur
        rw [row_execution,he] at he'
        cases he'
        have := hle a hra
        omega
    · rintro hl
      cases hl
  | start intent execution lease now hk e t held hl hid he hs hf =>
    have hatt : lease.attempt = held.attempt := hg key lease held (by rw [hk]; rfl) hl hid
    obtain ⟨e',he',hor,hle⟩ := ho.lease held hl
    rw [row_execution,he] at he'
    cases he'
    refine ⟨⟨?_,?_⟩,?_⟩
    · intro l hl'
      rw [hl] at hl'
      cases hl'
      exact ⟨_,rfl,.inl hatt.symm,hle⟩
    · intro hn
      simp [hl] at hn
    · intro e' he'
      rw [row_execution,he] at he'
      cases he'
      refine ⟨_,rfl,?_,fun a ha => ⟨a,ha,le_rfl⟩⟩
      simp only [withStart]
      omega
  | result intent execution lease result now hk e t held hl hid he hw hc hr =>
    have hatt : lease.attempt = held.attempt := hg key lease held (by rw [hk]; rfl) hl hid
    obtain ⟨e',he',hor,hle⟩ := ho.lease held hl
    rw [row_execution,he] at he'
    cases he'
    refine ⟨⟨?_,?_⟩,?_⟩
    · intro l hl'
      rw [hl] at hl'
      cases hl'
      refine ⟨_,rfl,hor,?_⟩
      rintro a ha
      cases ha
      exact hatt.le
    · intro hn
      simp [hl] at hn
    · intro e' he'
      rw [row_execution,he] at he'
      cases he'
      refine ⟨_,rfl,le_rfl,?_⟩
      intro a ha
      exact ⟨lease.attempt,rfl,hatt ▸ hle a ha⟩
  | observe intent execution observation t hk e r he hn hr hm =>
    refine ⟨⟨?_,?_⟩,?_⟩
    · intro l hl
      obtain ⟨e',he',hor,hle⟩ := ho.lease l hl
      rw [row_execution,he] at he'
      cases he'
      exact ⟨_,rfl,hor,hle⟩
    · rintro hl e' he'
      cases he'
      exact ho.unleased hl e he
    · intro e' he'
      rw [row_execution,he] at he'
      cases he'
      exact ⟨_,rfl,le_rfl,fun a ha => ⟨a,ha,le_rfl⟩⟩
  | stray intent execution observation now hnow hk e r he hn hr hv hm => exact ⟨⟨ho.lease,ho.unleased⟩,.refl _⟩

theorem ordered_after {calls : List (String × LedgerCall)} (ho : Ordered (L.row key)) (hg : GenuineAlong H L calls) :
    Ordered ((L.after H calls).row key) ∧ Advances (L.row key) ((L.after H calls).row key) := by
  induction calls generalizing L with
  | nil => exact ⟨ho,.refl _⟩
  | cons x rest ih =>
    obtain ⟨uuid,c⟩ := x
    obtain ⟨ho',hadv⟩ := ordered_step (H := H) uuid c ho hg.1
    obtain ⟨ho'',hadv'⟩ := ih ho' hg.2
    exact ⟨ho'',hadv.trans hadv'⟩

theorem genuineAlong_append {xs ys : List (String × LedgerCall)} (h : GenuineAlong H L (xs ++ ys)) :
    GenuineAlong H L xs ∧ GenuineAlong H (L.after H xs) ys := by
  induction xs generalizing L with
  | nil => exact ⟨trivial,h⟩
  | cons x xs ih =>
    obtain ⟨hxs,hys⟩ := ih h.2
    exact ⟨⟨h.1,hxs⟩,hys⟩

theorem ordered_empty : Ordered (Ledger.empty.row key) := ⟨by rintro l ⟨⟩,by rintro _ e ⟨⟩⟩

end

section
variable {H : Hashes} {L : Ledger} {key : String}

theorem checkLease_stale {intent : ScaleIntentRecord} {execution : ScaleExecutionRecord}
    {lease : ControllerLease} {now : DateTime}
    (h : ∀ held, L.leases intent.executionKey = some held → held.leaseInstanceId ≠ lease.leaseInstanceId) :
    ∃ x, checkLease H L intent execution lease now = .error x := by
  cases hc : checkLease H L intent execution lease now with
  | error x => exact ⟨x,rfl⟩
  | ok y =>
    obtain ⟨_,_,_,_,⟨held,hheld,hid⟩,_⟩ := checkLease_ok hc
    exact absurd hid (h held hheld)

theorem perform_stale {uuid : String} {c : LedgerCall} {lease : ControllerLease} (hc : c.presents = some (key,lease))
    (h : ∀ held, L.leases key = some held → held.leaseInstanceId ≠ lease.leaseInstanceId) :
    ∃ x, L.perform H uuid c = (.error x,L) := by
  cases c with
  | markStarted intent execution lease' now =>
    cases hc
    obtain ⟨x,hx⟩ := @checkLease_stale H _ _ execution _ now h
    exact ⟨x,by simp only [perform,markStarted,hx]⟩
  | recordResult intent execution lease' result now =>
    cases hc
    obtain ⟨x,hx⟩ := @checkLease_stale H _ _ execution _ now h
    exact ⟨x,by simp only [perform,recordResult,hx]⟩
  | _ => cases hc

theorem lease_step (uuid : String) (c : LedgerCall) (l : ControllerLease)
    (hl : (L.perform H uuid c).2.leases key = some l) :
    L.leases key = some l ∨ (uuid ∈ leaseUuids [(uuid,c)] ∧ l.leaseInstanceId = "lease:" ++ uuid) := by
  have hrow := perform_row (H := H) (L := L) key uuid c
  rw [← row_lease] at hl
  generalize (L.perform H uuid c).2.row key = row' at hrow hl
  cases hrow with
  | lease intent controllerId now hk e l' t ht he hx ha hid =>
    cases hl
    exact .inr ⟨by simp [leaseUuids],hid⟩
  | _ => exact .inl hl

theorem leaseUuids_append (xs ys : List (String × LedgerCall)) :
    leaseUuids (xs ++ ys) = leaseUuids xs ++ leaseUuids ys := List.filterMap_append

theorem lease_named {calls : List (String × LedgerCall)} {l : ControllerLease}
    (hl : (Ledger.empty.after H calls).leases key = some l) :
    ∃ u ∈ leaseUuids calls, l.leaseInstanceId = "lease:" ++ u := by
  induction calls using List.reverseRecOn with
  | nil => cases hl
  | append_singleton xs x ih =>
    obtain ⟨uuid,c⟩ := x
    rw [after_append] at hl
    rw [leaseUuids_append]
    rcases lease_step uuid c l hl with hold | ⟨hmem,hid⟩
    · obtain ⟨u,hu,hid⟩ := ih hold
      exact ⟨u,List.mem_append_left _ hu,hid⟩
    · exact ⟨uuid,List.mem_append_right _ hmem,hid⟩

/-- A lease that was current and is not any more never has its name current again. -/
theorem replaced_lease {u : String} {l : ControllerLease} (hid : l.leaseInstanceId = "lease:" ++ u)
    {calls : List (String × LedgerCall)} (hu : u ∉ leaseUuids calls)
    (hcur : ∀ held, L.leases key = some held → held = l ∨ held.leaseInstanceId ≠ l.leaseInstanceId) :
    ∀ held, (L.after H calls).leases key = some held → held = l ∨ held.leaseInstanceId ≠ l.leaseInstanceId := by
  induction calls generalizing L with
  | nil => exact hcur
  | cons x rest ih =>
    obtain ⟨uuid,c⟩ := x
    rw [show (uuid,c) :: rest = [(uuid,c)] ++ rest from rfl,leaseUuids_append,List.mem_append,not_or] at hu
    refine ih hu.2 ?_
    intro held hheld
    rcases lease_step uuid c held hheld with hold | ⟨hmem,hname⟩
    · exact hcur held hold
    · right
      intro hsame
      have : uuid = u := (String.append_right_inj "lease:").mp (by rw [← hname,hsame,hid])
      exact hu.1 (this ▸ hmem)

end

/-- Over any sequence of calls with distinct lease ids: if no presented lease disagrees with
the current lease of the same name about the attempt, attempts stay ordered and never go back;
and a lease replaced by a newer one is refused, the ledger left as it was. -/
theorem lease_fencing (H : Hashes) (xs ys : List (String × LedgerCall)) (key : String)
    (hfresh : (leaseUuids (xs ++ ys)).Nodup) : (GenuineAlong H Ledger.empty (xs ++ ys) →
      (∀ l, (Ledger.empty.after H (xs ++ ys)).leases key = some l →
        ∃ e, (Ledger.empty.after H (xs ++ ys)).executions key = some e ∧
          (l.attempt = e.attempt ∨ l.attempt = e.attempt + 1)) ∧
      Advances ((Ledger.empty.after H xs).row key) ((Ledger.empty.after H (xs ++ ys)).row key)) ∧
    ∀ old new, (Ledger.empty.after H xs).leases key = some old →
      (Ledger.empty.after H (xs ++ ys)).leases key = some new → new ≠ old → ∀ uuid c, c.presents = some (key,old) →
        ∃ x, (Ledger.empty.after H (xs ++ ys)).perform H uuid c = (.error x,Ledger.empty.after H (xs ++ ys)) := by
  refine ⟨?_,?_⟩
  · intro hg
    obtain ⟨hgx,hgy⟩ := genuineAlong_append hg
    obtain ⟨hox,_⟩ := @ordered_after _ _ key _ ordered_empty hgx
    obtain ⟨hoy,hadv⟩ := ordered_after hox hgy
    rw [after_append]
    refine ⟨?_,hadv⟩
    intro l hl
    obtain ⟨e,he,hor,_⟩ := hoy.lease l hl
    exact ⟨e,he,hor⟩
  · intro old new hold hnew hne uuid c hc
    obtain ⟨u,hu,hid⟩ := lease_named hold
    have hu' : u ∉ leaseUuids ys := by
      rw [leaseUuids_append] at hfresh
      exact List.disjoint_of_nodup_append hfresh hu
    have hcur : ∀ held, (Ledger.empty.after H xs).leases key = some held →
        held = old ∨ held.leaseInstanceId ≠ old.leaseInstanceId := by
      intro held hheld
      rw [hold] at hheld
      exact .inl (Option.some.inj hheld).symm
    rw [after_append] at hnew ⊢
    refine perform_stale hc ?_
    intro held hheld
    have hsame : held = new := by
      rw [hnew] at hheld
      exact (Option.some.inj hheld).symm
    exact (replaced_lease hid hu' hcur held hheld).resolve_left (hsame ▸ hne)

theorem genuine_current {L : Ledger} {c : LedgerCall} {k : String} {l : ControllerLease}
    (hc : c.presents = some (k,l)) (hl : L.leases k = some l) : Genuine L c := by
  intro k' lease held hp hheld _
  rw [hc] at hp
  cases hp
  rw [hl] at hheld
  cases hheld
  rfl

open Sample in
/-- One intent delivered twice: attempts advance, and the first lease is refused after the second. -/
theorem first_lease_fenced : Advances ((Ledger.empty.after hashes delivery).row "key")
      ((Ledger.empty.after hashes (delivery ++ redelivery)).row "key") ∧
    ∃ x, (Ledger.empty.after hashes (delivery ++ redelivery)).markStarted hashes intent execution firstLease (.utc 3) =
      (.error x,Ledger.empty.after hashes (delivery ++ redelivery)) := by
  obtain ⟨hordered,hstale⟩ := lease_fencing hashes delivery redelivery "key" (by decide)
  have hsilent : ∀ {L : Ledger} {c : LedgerCall}, c.presents = none → Genuine L c := by
    intro L c hc k lease held hp
    rw [hc] at hp
    cases hp
  have hgenuine : GenuineAlong hashes Ledger.empty (delivery ++ redelivery) :=
    ⟨hsilent rfl,hsilent rfl,genuine_current rfl (by decide),genuine_current rfl (by decide),hsilent rfl,
      genuine_current rfl (by decide),trivial⟩
  refine ⟨(hordered hgenuine).2,?_⟩
  exact hstale firstLease (lease "b" 1 900000000 (by decide)) (by decide) (by decide) (by decide) ""
    (.markStarted intent execution firstLease (.utc 3)) rfl

open Sample in
/-- A copy of the current lease with another attempt is believed: the execution is five
attempts ahead of its lease. -/
theorem forged_attempt_unordered :
    let calls : List (String × LedgerCall) := [("",.persistIntent intent),
      ("a",.acquireControllerLease intent "writer" (.utc 0)),
      ("",.markStarted intent execution { firstLease with attempt := 6, attemptPos := by decide } (.utc 1))]
    (leaseUuids calls).Nodup ∧ ((Ledger.empty.after hashes calls).leases "key").map (·.attempt) = some 1 ∧
    ((Ledger.empty.after hashes calls).executions "key").map (·.attempt) = some 6 := by
  decide

end Arbora.Scaling
