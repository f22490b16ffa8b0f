import Arbora.Scaling.ReconcilerRuns

/-! The retry budget. -/
namespace Arbora.Scaling
open Interaction Ledger Reconciler

def Overruns (s : Deployment) (d : Delivery) : Prop :=
  ∃ e, s.ledger.executions d.intent.executionKey = some e ∧ e.state = .started ∧ e.result.isSome = true ∧
    d.intent.retryPolicy.maxAttempts ≤ e.attempt ∧
    ∀ l now, s.ledger.leases d.intent.executionKey = some l → d.clock = .utc now → l.expiresAt ≤ now

/-- No attempt of the key, running or requested, is past `n`. -/
structure Budgeted (n : Nat) (k : String) (s : Deployment) : Prop where
  execution : ∀ e, s.ledger.executions k = some e → e.attempt ≤ n ∧ (e.state = .persisted → e.attempt = 0)
  lease : ∀ l, s.ledger.leases k = some l → l.attempt ≤ n
  applied : ∀ req ∈ s.applied, req.lease.attempt ≤ n

section
variable {H : Hashes} {d : Delivery} {now : Int} {n : Nat} {k : String}

def WithinBudget (n : Nat) (k : String) (L : Ledger) : LedgerCall → Prop
  | .acquireControllerLease intent _ now => intent.executionKey = k →
      ∀ e t, L.executions k = some e → now = .utc t →
        (∀ held, L.leases k = some held → t < held.expiresAt → isRetryableFailed e = true) → e.attempt < n
  | .markStarted intent _ lease _ => intent.executionKey = k → L.leases k = some lease
  | _ => True

theorem budgeted_step {s s' : Deployment} {uuid : String} {c : LedgerCall} {r : Except Raised c.Answer}
    (hb : Budgeted n k s) (hc : WithinBudget n k s.ledger c) (hp : s.ledger.perform H uuid c = (r,s'.ledger))
    (happlied : s'.applied = s.applied) : Budgeted n k s' := by
  have hrow := perform_row (H := H) (L := s.ledger) k uuid c
  rw [hp] at hrow
  suffices h : (∀ e, (s'.ledger.row k).execution = some e → e.attempt ≤ n ∧ (e.state = .persisted → e.attempt = 0)) ∧
      ∀ l, (s'.ledger.row k).lease = some l → l.attempt ≤ n from ⟨h.1,h.2,happlied ▸ hb.applied⟩
  dsimp only at hrow
  generalize s'.ledger.row k = row' at hrow ⊢
  cases hrow with
  | stay => exact ⟨hb.execution,hb.lease⟩
  | persist intent hk hn =>
    refine ⟨?_,hb.lease⟩
    rintro e ⟨⟩
    exact ⟨Nat.zero_le n,fun _ => rfl⟩
  | lease intent controllerId now hk e l t ht he hx ha hid =>
    refine ⟨hb.execution,?_⟩
    rintro l' ⟨⟩
    have hlt := hc hk.symm e t he ht hx
    omega
  | start intent execution lease now hk e t held hl hid he hs hf =>
    refine ⟨?_,hb.lease⟩
    rintro e' ⟨⟩
    exact ⟨hb.lease lease (hc hk.symm),nofun⟩
  | result intent execution lease result now hk e t held hl hid he hw hcheck hr =>
    refine ⟨?_,hb.lease⟩
    rintro e' ⟨⟩
    refine ⟨(hb.execution e he).1,?_⟩
    intro hst
    rcases result.state_cases with hs | hs | hs
    all_goals
      rw [show (withResult e lease result t).state = result.state from rfl,hs] at hst
      cases hst
  | observe intent execution observation t hk e r he hn hr hm =>
    refine ⟨?_,hb.lease⟩
    rintro e' ⟨⟩
    exact ⟨(hb.execution e he).1,nofun⟩
  | stray intent execution observation now hnow hk e r he hn hr hv hm => exact ⟨hb.execution,hb.lease⟩

/-- A delivery that goes on from a record within its budget leaves room for one more attempt,
unless it overruns. -/
theorem startable_attempt {touched : Prop} {row : Row} {e : ScaleExecutionRecord} (hs : Startable d e)
    (he : row.execution = some e) (hc : Consistent H touched row) (hzero : e.state = .persisted → e.attempt = 0)
    (hkept : e.state = .started → e.result.isSome = true → e.attempt < d.intent.retryPolicy.maxAttempts) :
    e.attempt < d.intent.retryPolicy.maxAttempts := by
  have hset := hs.unsettled he hc
  rw [Consistent.some_iff he] at hc
  cases hst : e.state with
  | persisted =>
    have hpos := d.intent.retryPolicy.attemptsPos
    have := hzero hst
    omega
  | started =>
    cases hr : e.result with
    | none => exact hs.budget hst hr
    | some r => exact hkept hst (by simp [hr])
  | failed =>
    simp only [hst] at hc
    obtain ⟨_,r,hr,_⟩ := hc
    exact (hs.retryable r hst hr).2
  | denied => simp [hst] at hc
  | _ => simp [hst,settledState] at hset

end

section
variable {H : Hashes} {d : Delivery} {now : Int}

theorem budgeted_call {s m m' : Deployment} {u : History} {c : Call} {r : c.Answer}
    (hclock : d.clock = .utc now) (hover : ¬ Overruns s d) (hp : Prog.Path (world H) s u m)
    (hf : Follows H d now u c) (hI : ∀ k, Consistent H (m.Touched k) (m.ledger.row k))
    (hb : Budgeted d.intent.retryPolicy.maxAttempts d.intent.executionKey m) (hw : world H m c r m') :
    Budgeted d.intent.retryPolicy.maxAttempts d.intent.executionKey m' := by
  cases c with
  | ledger c =>
    obtain ⟨uuid,_,hperform,happlied,_⟩ := hw
    refine budgeted_step hb ?_ hperform happlied
    cases c with
    | acquireControllerLease i controllerId t =>
      obtain ⟨rfl,_,rfl,p,ho,hs⟩ := hf
      rintro _ e t he ⟨⟩ hx
      have hpe := opened_execution ho hp
      rw [hpe] at he
      cases he
      refine startable_attempt hs hpe (hI _) (hb.execution _ hpe).2 ?_
      intro hst hres
      by_contra hle
      -- the record and the lease are still those the delivery started with
      rcases opened_row ho hp with hrow | hnew
      · refine hover ⟨p.execution,?_,hst,hres,not_lt.mp hle,?_⟩
        · rw [← row_execution,← hrow]
          exact hpe
        · intro l t hl ht
          rw [hclock] at ht
          cases ht
          by_contra hrunning
          have hlease : m.ledger.leases d.intent.executionKey = some l := by
            rw [← row_lease,hrow]
            exact hl
          have := hx l hlease (not_le.mp hrunning)
          simp [isRetryableFailed,hst] at this
      · rw [hst] at hnew
        cases hnew
    | markStarted i e l t =>
      obtain ⟨rfl,_,_,p,hl,_⟩ := hf
      rintro _
      exact (leased_row hl hp).2
    | _ => trivial
  | getObservation key => exact hw.2 ▸ hb
  | decide i => exact (show m' = m from hw) ▸ hb
  | apply req =>
    obtain ⟨l,e,hm,rfl⟩ := hf
    cases hw
    refine ⟨hb.execution,hb.lease,?_⟩
    intro req hreq
    rcases List.mem_append.mp hreq with hreq | hreq
    · exact hb.applied req hreq
    · rw [List.mem_singleton.mp hreq]
      exact hb.lease l (marked_row hm hp).1

/-- Over live deliveries of one intent that never overrun, each stopped anywhere, no request and
no record goes past the intent's budget. -/
theorem retry_budget_kept (H : Hashes) (intent : ScaleIntentRecord) {s : Deployment}
    (h : Deliveries H (fun m d => d.intent = intent ∧ d.dryRun = false ∧ ¬ Overruns m d) Deployment.empty s) :
    (∀ req ∈ s.applied, req.lease.attempt ≤ intent.retryPolicy.maxAttempts) ∧
    ∀ e, s.ledger.executions intent.executionKey = some e → e.attempt ≤ intent.retryPolicy.maxAttempts := by
  have hb : Budgeted intent.retryPolicy.maxAttempts intent.executionKey s := by
    induction h with
    | refl => exact ⟨by rintro e ⟨⟩,by rintro l ⟨⟩,by rintro req ⟨⟩⟩
    | @tail m s' t q hd d hcond hr ih =>
      obtain ⟨rfl,_,hover⟩ := hcond
      have hinv := hr.invariant
        (I := fun m => (∀ k, Consistent H (m.Touched k) (m.ledger.row k)) ∧
          Budgeted d.intent.retryPolicy.maxAttempts d.intent.executionKey m)
        (reconcile_follows H d) ⟨consistent_deliveries hd,ih⟩ ?_
      · exact hinv.2
      · rintro u c r n n' hp ⟨now,hclock,_,_,hf⟩ ⟨hI,hb⟩ hw
        exact ⟨consistent_call hp hf hI hw,budgeted_call hclock hover hp hf hI hb hw⟩
  exact ⟨hb.applied,fun e he => (hb.execution e he).1⟩

end

namespace Sample

def unreachable : ScaleActuationRequest → Actuation := fun _ => .raised "unreachable"

def crashed : Deployment :=
  (Prog.drive (respond hashes allow unreachable) 4 ((deliver 1 false).program hashes)
    (Prog.drive (respond hashes allow unreachable) 8 ((deliver 0 false).program hashes) Deployment.empty).2).2

def overrun : Deployment :=
  (Prog.drive (respond hashes allow unreachable) 8 ((deliver 1000000000 false).program hashes) crashed).2

end Sample

open Sample in
/-- Two attempts are allowed; the actuator is called with a lease for the third. -/
theorem third_attempt_requested :
    Deliveries hashes (fun _ d => d.intent = intent ∧ d.dryRun = false) Deployment.empty overrun ∧
    intent.retryPolicy.maxAttempts = 2 ∧ overrun.applied.map (·.lease.attempt) = [1,3] ∧
    (overrun.ledger.executions "key").map (·.attempt) = some 3 := by
  refine ⟨?_,by decide,by decide,by decide⟩
  have hfirst := (Deliveries.refl (H := hashes) (P := fun _ d => d.intent = intent ∧ d.dryRun = false)
    Deployment.empty).drive (deliver 0 false) ⟨rfl,rfl⟩ allow unreachable 8
  have hsecond := hfirst.drive (deliver 1 false) ⟨rfl,rfl⟩ allow unreachable 4
  exact hsecond.drive (deliver 1000000000 false) ⟨rfl,rfl⟩ allow unreachable 8

open Sample in
/-- A delivery that converges at its first attempt stays within the budget of two. -/
theorem delivered_within_budget : (∀ req ∈ delivered.applied, req.lease.attempt ≤ 2) ∧
    ∀ e, delivered.ledger.executions "key" = some e → e.attempt ≤ 2 := by
  refine retry_budget_kept hashes intent ((Deliveries.refl _).drive (deliver 0 false) ⟨rfl,rfl,?_⟩ allow _ 8)
  rintro ⟨e,he,_⟩
  cases he

end Arbora.Scaling
