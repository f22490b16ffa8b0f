import Arbora.Scaling.IntentLedger

/-! What one ledger call can do to one execution key. -/
namespace Arbora.Scaling
open Ledger

/-- A call of the ledger protocol; what `uuid4` gives is left to the environment. -/
inductive LedgerCall where
  | persistIntent (intent : ScaleIntentRecord)
  | acquireControllerLease (intent : ScaleIntentRecord) (controllerId : String) (now : DateTime)
  | markStarted (intent : ScaleIntentRecord) (execution : ScaleExecutionRecord) (lease : ControllerLease)
      (now : DateTime)
  | recordResult (intent : ScaleIntentRecord) (execution : ScaleExecutionRecord) (lease : ControllerLease)
      (result : ScaleActuationResult) (now : DateTime)
  | recordObservation (intent : ScaleIntentRecord) (execution : ScaleExecutionRecord)
      (observation : ScaleObservation) (now : DateTime)
  | recordBreakGlass (intent : ScaleIntentRecord) (authorization : BreakGlassAuthorization) (now : DateTime)

@[reducible] def LedgerCall.Answer : LedgerCall → Type
  | .persistIntent _ => PersistedIntent
  | .acquireControllerLease .. => Option ControllerLease
  | .markStarted .. => ScaleExecutionRecord
  | .recordResult .. => ScaleExecutionRecord
  | .recordObservation .. => ScaleObservation
  | .recordBreakGlass .. => BreakGlassAudit

def LedgerCall.key : LedgerCall → String
  | .persistIntent i => i.executionKey
  | .acquireControllerLease i _ _ => i.executionKey
  | .markStarted i _ _ _ => i.executionKey
  | .recordResult i _ _ _ _ => i.executionKey
  | .recordObservation i _ _ _ => i.executionKey
  | .recordBreakGlass i _ _ => i.executionKey

def Ledger.perform (H : Hashes) (uuid : String) (L : Ledger) : (c : LedgerCall) → Outcome c.Answer
  | .persistIntent i => L.persistIntent H i
  | .acquireControllerLease i controllerId now => L.acquireControllerLease H uuid i controllerId now
  | .markStarted i e l now => L.markStarted H i e l now
  | .recordResult i e l r now => L.recordResult H i e l r now
  | .recordObservation i e o now => L.recordObservation H i e o now
  | .recordBreakGlass i a now => L.recordBreakGlass H i a now

/-- What the ledger holds under one execution key. -/
structure Row where
  execution : Option ScaleExecutionRecord
  lease : Option ControllerLease
  observation : Option ScaleObservation

def Ledger.row (L : Ledger) (k : String) : Row := ⟨L.executions k,L.leases k,L.observations k⟩

section
variable (L : Ledger) (k key : String)

@[simp] theorem row_execution : (L.row k).execution = L.executions k := rfl
@[simp] theorem row_lease : (L.row k).lease = L.leases k := rfl
@[simp] theorem row_observation : (L.row k).observation = L.observations k := rfl
@[simp] theorem row_log (s : String) : (L.log s).row k = L.row k := rfl
theorem row_setExecution (e : ScaleExecutionRecord) :
    (L.setExecution key e).row k = if k = key then { L.row k with execution := some e } else L.row k := by
  by_cases h : k = key
  · subst h
    simp [row,setExecution]
  · simp [row,setExecution,h]

theorem row_setLease (l : ControllerLease) :
    (L.setLease key l).row k = if k = key then { L.row k with lease := some l } else L.row k := by
  by_cases h : k = key
  · subst h
    simp [row,setLease]
  · simp [row,setLease,h]

theorem row_setObservation (o : ScaleObservation) :
    (L.setObservation key o).row k = if k = key then { L.row k with observation := some o } else L.row k := by
  by_cases h : k = key
  · subst h
    simp [row,setObservation]
  · simp [row,setObservation,h]

end

section
variable {H : Hashes} {L : Ledger}

variable {now : DateTime} {intent : ScaleIntentRecord} {controllerId uuid : String} {result : ScaleActuationResult}
  {e execution : ScaleExecutionRecord}

theorem checkLease_ok {current : ScaleExecutionRecord} {lease : ControllerLease} {t : Int}
    (h : checkLease H L intent execution lease now = .ok (t,current)) :
    now = .utc t ∧ t < lease.expiresAt ∧ lease.fence = intent.fence ∧ execution.executionKey = intent.executionKey ∧
    (∃ held, L.leases intent.executionKey = some held ∧ held.leaseInstanceId = lease.leaseInstanceId) ∧
    L.executions intent.executionKey = some current ∧ current.identityDigest = H.identityDigest intent := by
  cases now with
  | naive => simp [checkLease,aware,bind,Except.bind] at h
  | outside => simp [checkLease,aware,bind,Except.bind] at h
  | utc t' =>
    cases hl : L.leases intent.executionKey with
    | none => simp [checkLease,aware,bind,Except.bind,hl,throw,throwThe,MonadExceptOf.throw] at h
    | some held =>
      cases he : L.executions intent.executionKey with
      | none =>
        simp only [checkLease,aware,bind,Except.bind,hl,he,Option.filter_none,throw,throwThe,
          MonadExceptOf.throw] at h
        split_ifs at h
      | some current' =>
        simp only [checkLease,aware,bind,Except.bind,hl,he,throw,throwThe,
          MonadExceptOf.throw,pure,Except.pure,Option.filter_some] at h
        split_ifs at h with h1 h2 h3 h4 h5
        obtain ⟨rfl,rfl⟩ := h
        refine ⟨rfl,by omega,not_not.mp h5,not_not.mp h3,⟨held,rfl,?_⟩,rfl,?_⟩
        · simpa using h1
        · simp only [executionIdentityMismatch,Bool.not_eq_true',Bool.or_eq_false_iff] at h4
          simpa using h4.1.1.1.1

theorem persistIntent_row (intent : ScaleIntentRecord) (k : String) : (L.persistIntent H intent).2.row k = L.row k ∨
    (k = intent.executionKey ∧ L.executions k = none ∧
      (L.persistIntent H intent).1 = .ok ⟨newExecution H intent,false⟩ ∧
      (L.persistIntent H intent).2.row k = ⟨some (newExecution H intent),L.leases k,L.observations k⟩) := by
  cases he : L.executions intent.executionKey with
  | some existing =>
    left
    simp only [persistIntent,he]
    split_ifs <;> rfl
  | none =>
    simp only [persistIntent,he]
    split_ifs with h1 h2
    · exact .inl rfl
    · exact .inl rfl
    · rw [row_log,row_setExecution]
      by_cases hk : k = intent.executionKey
      · subst hk
        rw [if_pos rfl]
        exact .inr ⟨rfl,he,rfl,rfl⟩
      · rw [if_neg hk]
        exact .inl rfl

theorem persistIntent_ok {p : PersistedIntent} (h : (L.persistIntent H intent).1 = .ok p) :
    (L.persistIntent H intent).2.executions intent.executionKey = some p.execution ∧
    p.execution.identityDigest = H.identityDigest intent ∧ (L.executions intent.executionKey = some p.execution ∨
      L.executions intent.executionKey = none ∧ p.execution = newExecution H intent) := by
  cases he : L.executions intent.executionKey with
  | some existing =>
    simp only [persistIntent,he] at h ⊢
    split_ifs at h ⊢ with h1 h2
    cases h
    exact ⟨he,not_not.mp h2,.inl rfl⟩
  | none =>
    simp only [persistIntent,he] at h ⊢
    split_ifs at h ⊢ with h1 h2
    cases h
    refine ⟨?_,rfl,.inr ⟨trivial,rfl⟩⟩
    simp [log,setExecution]

/-- A new lease is issued over one that is still running only to retry a failure. -/
theorem resolveExistingLease_unhandled {current : Option ControllerLease} {t : Int} {x : Option ControllerLease}
    (h : resolveExistingLease current e controllerId t = (false,x)) :
    ∀ held, current = some held → t < held.expiresAt → isRetryableFailed e = true := by
  rintro held rfl hlt
  unfold resolveExistingLease at h
  simp only [not_le.mpr hlt,if_false] at h
  split_ifs at h with h1 h2
  · cases h
  · cases h
  · by_contra hr
    exact h1 ⟨not_not.mp h2,by simpa using hr⟩

theorem acquireControllerLease_row (uuid : String) (intent : ScaleIntentRecord) (controllerId : String)
    (now : DateTime) (k : String) :
    let out := L.acquireControllerLease H uuid intent controllerId now
    out.2.row k = L.row k ∨ (k = intent.executionKey ∧ ∃ e l t, now = .utc t ∧ L.executions k = some e ∧
      (∀ held, L.leases k = some held → t < held.expiresAt → isRetryableFailed e = true) ∧
      l.attempt = e.attempt + 1 ∧ l.leaseInstanceId = "lease:" ++ uuid ∧ out.1 = .ok (some l) ∧
      out.2.row k = ⟨L.executions k,some l,L.observations k⟩) := by
  unfold acquireControllerLease
  cases now with
  | naive => exact .inl rfl
  | outside => exact .inl rfl
  | utc t =>
    simp only [aware]
    split_ifs with hf
    · exact .inl rfl
    · split
      · exact .inl rfl
      · rename_i e he
        obtain ⟨hmem,_⟩ := Option.filter_eq_some_iff.mp he
        split
        · exact .inl (row_log _ _ _)
        · exact .inl rfl
        · rename_i x hr
          split
          · exact .inl rfl
          · rename_i cid _
            rw [row_log,row_setLease]
            by_cases hk : k = intent.executionKey
            · subst hk
              rw [if_pos rfl]
              exact .inr ⟨rfl,e,_,t,rfl,hmem,resolveExistingLease_unhandled hr,rfl,rfl,rfl,rfl⟩
            · rw [if_neg hk]
              exact .inl rfl

theorem acquireControllerLease_ok {l : ControllerLease}
    (h : (L.acquireControllerLease H uuid intent controllerId now).1 = .ok (some l)) :
    (L.acquireControllerLease H uuid intent controllerId now).2.leases intent.executionKey = some l := by
  cases now with
  | naive => simp [acquireControllerLease,aware] at h
  | outside => simp [acquireControllerLease,aware] at h
  | utc t =>
    by_cases hf : intent.fence.expiresAt ≤ t
    · simp [acquireControllerLease,aware,hf] at h
    cases he : (L.executions intent.executionKey).filter (·.identityDigest = H.identityDigest intent) with
    | none => simp [acquireControllerLease,aware,hf,he] at h
    | some e =>
      cases hr : resolveExistingLease (L.leases intent.executionKey) e controllerId t with
      | mk handled answer =>
        cases handled with
        | false =>
          cases hc : identifier controllerId "controller_id" with
          | error x => simp [acquireControllerLease,aware,hf,he,hr,hc] at h
          | ok cid =>
            simp only [acquireControllerLease,aware,hf,he,hr,hc,dite_false,Except.ok.injEq,
              Option.some.injEq] at h ⊢
            rw [← h]
            simp [log,setLease]
        | true =>
          cases answer with
          | none => simp [acquireControllerLease,aware,hf,he,hr] at h
          | some lease =>
            simp only [acquireControllerLease,aware,hf,he,hr,dite_false,Except.ok.injEq,
              Option.some.injEq] at h ⊢
            rw [← h]
            unfold resolveExistingLease at hr
            split at hr
            · cases hr
            · rename_i held hl
              split_ifs at hr <;> cases hr
              exact hl

theorem markStarted_row (intent : ScaleIntentRecord) (execution : ScaleExecutionRecord) (lease : ControllerLease)
    (now : DateTime) (k : String) :
    let out := L.markStarted H intent execution lease now
    out.2.row k = L.row k ∨
    (k = intent.executionKey ∧ ∃ e t held, L.leases k = some held ∧
      held.leaseInstanceId = lease.leaseInstanceId ∧ L.executions k = some e ∧ settledState e.state = false ∧
      (e.state = .failed → e.result.any (·.retryable) = true ∧ e.attempt < lease.attempt) ∧
      out.1 = .ok (withStart e lease t) ∧
      out.2.row k = ⟨some (withStart e lease t),L.leases k,L.observations k⟩) := by
  dsimp only
  unfold markStarted
  split
  · exact .inl rfl
  · rename_i t e hc
    obtain ⟨_,_,_,_,⟨held,hl,hi⟩,he,_⟩ := checkLease_ok hc
    split_ifs with h1 h2 h3
    · exact .inl rfl
    · exact .inl rfl
    · exact .inl rfl
    · rw [row_log,row_setExecution]
      by_cases hk : k = intent.executionKey
      · subst hk
        rw [if_pos rfl]
        refine .inr ⟨rfl,e,t,held,hl,hi,he,by simpa using h1,?_,rfl,rfl⟩
        intro hs
        simp only [hs,true_and,not_le] at h2 h3
        exact ⟨by simpa using h2,h3⟩
      · rw [if_neg hk]
        exact .inl rfl

theorem markStarted_ok {lease : ControllerLease} (h : (L.markStarted H intent execution lease now).1 = .ok e) :
    (L.markStarted H intent execution lease now).2.executions intent.executionKey = some e ∧
    ((settledState e.state = true ∧ L.executions intent.executionKey = some e) ∨
      ∃ e' t, L.executions intent.executionKey = some e' ∧ settledState e'.state = false ∧ e = withStart e' lease t) := by
  unfold markStarted at h ⊢
  split at h
  · cases h
  · rename_i t e' hc
    obtain ⟨_,_,_,_,_,he,_⟩ := checkLease_ok hc
    split_ifs at h ⊢ with h1 h2 h3
    · cases h
      exact ⟨he,.inl ⟨h1,he⟩⟩
    · cases h
      refine ⟨by simp [log,setExecution],.inr ⟨e',t,he,?_,rfl⟩⟩
      simpa using h1

/-- Why `record_result` may write: nothing is stored, the stored result comes again under
another attempt, or a newer attempt reports over a retryable one. -/
def Writable (e : ScaleExecutionRecord) (lease : ControllerLease) (result : ScaleActuationResult) : Prop :=
  e.result = none ∨ (e.result = some result ∧ e.resultAttempt ≠ some lease.attempt) ∨
    ∃ kept, e.result = some kept ∧ kept ≠ result ∧ kept.retryable = true ∧ e.state = .started ∧
      ∃ a, e.resultAttempt = some a ∧ a < lease.attempt

theorem isResultReplay_false {lease : ControllerLease} (h : isResultReplay e lease result = .ok false) :
    Writable e lease result := by
  unfold isResultReplay at h
  cases hr : e.result with
  | none => exact .inl hr
  | some kept =>
    simp only [hr] at h
    split_ifs at h with h1
    simp only [Except.ok.injEq,decide_eq_false_iff_not,not_and] at h
    by_cases hk : kept = result
    · exact .inr (.inl ⟨by rw [hr,hk],h hk⟩)
    · simp only [ne_eq,hk,not_false_eq_true,true_and,Bool.not_eq_true',Bool.not_eq_false] at h1
      simp only [retryAttempt,Bool.and_eq_true,beq_iff_eq,Option.any_eq_true,decide_eq_true_eq] at h1
      obtain ⟨⟨hret,a,ha,hlt⟩,hst⟩ := h1
      exact .inr (.inr ⟨kept,hr,hk,hret,hst,a,ha,hlt⟩)

theorem recordResult_row (intent : ScaleIntentRecord) (execution : ScaleExecutionRecord) (lease : ControllerLease)
    (result : ScaleActuationResult) (now : DateTime) (k : String) :
    let out := L.recordResult H intent execution lease result now
    out.2.row k = L.row k ∨
    (k = intent.executionKey ∧ ∃ e t held, L.leases k = some held ∧
      held.leaseInstanceId = lease.leaseInstanceId ∧ L.executions k = some e ∧ Writable e lease result ∧
      checkLease H L intent execution lease now = .ok (t,e) ∧
      (result.executionKey = intent.executionKey ∧ result.target = intent.target) ∧
      out.1 = .ok (withResult e lease result t) ∧
      out.2.row k = ⟨some (withResult e lease result t),L.leases k,L.observations k⟩) := by
  dsimp only
  unfold recordResult
  split
  · exact .inl rfl
  · rename_i t e hc
    obtain ⟨_,_,_,_,⟨held,hl,hi⟩,he,_⟩ := checkLease_ok hc
    split_ifs with h1
    · exact .inl rfl
    · split
      · exact .inl rfl
      · exact .inl rfl
      · rename_i hr
        rw [row_log,row_setExecution]
        by_cases hk : k = intent.executionKey
        · subst hk
          rw [if_pos rfl]
          exact .inr ⟨rfl,e,t,held,hl,hi,he,isResultReplay_false hr,hc,by simpa [not_or] using h1,rfl,rfl⟩
        · rw [if_neg hk]
          exact .inl rfl

theorem recordResult_ok {lease : ControllerLease}
    (h : (L.recordResult H intent execution lease result now).1 = .ok e) :
    (L.recordResult H intent execution lease result now).2.executions intent.executionKey = some e ∧
    e.result = some result := by
  unfold recordResult at h ⊢
  split at h
  · cases h
  · rename_i t e' hc
    obtain ⟨_,_,_,_,_,he,_⟩ := checkLease_ok hc
    split_ifs at h ⊢ with h1
    cases hr : isResultReplay e' lease result with
    | error x => simp [hr] at h
    | ok replay =>
      cases replay with
      | true =>
        simp only [hr,Except.ok.injEq] at h ⊢
        subst h
        refine ⟨he,?_⟩
        unfold isResultReplay at hr
        split at hr
        · cases hr
        · rename_i kept hk
          split_ifs at hr
          simp only [Except.ok.injEq,decide_eq_true_eq] at hr
          rw [hk,hr.1]
      | false =>
        simp only [hr,Except.ok.injEq] at h ⊢
        subst h
        exact ⟨by simp [log,setExecution],rfl⟩

theorem recordObservation_row (intent : ScaleIntentRecord) (execution : ScaleExecutionRecord)
    (observation : ScaleObservation) (now : DateTime) (k : String) :
    let out := L.recordObservation H intent execution observation now
    out.2.row k = L.row k ∨
    (k = intent.executionKey ∧ ∃ e r, L.executions k = some e ∧ L.observations k = none ∧ e.result = some r ∧
      validateObservationIdentity intent execution observation e = .ok () ∧
      observationMatchesResult H observation r = true ∧ ((∃ t, now = .utc t ∧ out.1 = .ok observation ∧
        out.2.row k = ⟨some (withObservation e observation t),L.leases k,some observation⟩) ∨
      (now.instant = none ∧ out.2.row k = ⟨L.executions k,L.leases k,some observation⟩))) := by
  unfold recordObservation
  split
  · exact .inl rfl
  · rename_i e he
    split
    · exact .inl rfl
    · rename_i hv
      split
      · split_ifs
        · exact .inl rfl
        · exact .inl rfl
      · rename_i hn
        split
        · exact .inl rfl
        · rename_i r hr
          split_ifs with hm
          · exact .inl rfl
          · have hm' : observationMatchesResult H observation r = true := by simpa using hm
            by_cases hk : k = intent.executionKey
            · subst hk
              refine .inr ⟨rfl,e,r,he,hn,hr,hv,hm',?_⟩
              cases now with
              | naive =>
                refine .inr ⟨rfl,?_⟩
                simp only [aware,row_setObservation,if_true]
                rfl
              | outside =>
                refine .inr ⟨rfl,?_⟩
                simp only [aware,row_setObservation,if_true]
                rfl
              | utc t =>
                refine .inl ⟨t,rfl,rfl,?_⟩
                simp only [aware,row_log,row_setExecution,row_setObservation,if_true]
                rfl
            · left
              cases now with
              | naive => simp only [aware,row_setObservation,if_neg hk]
              | outside => simp only [aware,row_setObservation,if_neg hk]
              | utc t => simp only [aware,row_log,row_setExecution,row_setObservation,if_neg hk]

theorem recordObservation_ok {observation o : ScaleObservation} (h :
    (L.recordObservation H intent execution observation now).1 = .ok o) :
    (L.recordObservation H intent execution observation now).2.observations intent.executionKey = some o := by
  cases he : L.executions intent.executionKey with
  | none => simp [recordObservation,he] at h
  | some e =>
    cases hv : validateObservationIdentity intent execution observation e with
    | error x => simp [recordObservation,he,hv] at h
    | ok _ =>
      cases hs : L.observations intent.executionKey with
      | some stored =>
        simp only [recordObservation,he,hv,hs] at h ⊢
        split_ifs at h ⊢
        cases h
        exact hs
      | none =>
        cases hr : e.result with
        | none => simp [recordObservation,he,hv,hs,hr] at h
        | some r =>
          simp only [recordObservation,he,hv,hs,hr] at h ⊢
          split_ifs at h ⊢
          cases now with
          | naive => simp [aware] at h
          | outside => simp [aware] at h
          | utc t =>
            cases h
            simp [aware,log,setExecution,setObservation]

theorem recordBreakGlass_row (intent : ScaleIntentRecord) (authorization : BreakGlassAuthorization)
    (now : DateTime) (k : String) : (L.recordBreakGlass H intent authorization now).2.row k = L.row k := by
  unfold recordBreakGlass
  split
  · rfl
  · split_ifs
    · rfl
    · rfl
    · rfl
    · dsimp only
      split
      · split_ifs <;> rfl
      · rfl

inductive RowStep (H : Hashes) (L : Ledger) (k uuid : String) : LedgerCall → Row → Prop where
  | stay (c : LedgerCall) : RowStep H L k uuid c (L.row k)
  | persist (intent : ScaleIntentRecord) (hk : k = intent.executionKey) (hn : L.executions k = none) :
      RowStep H L k uuid (.persistIntent intent) ⟨some (newExecution H intent),L.leases k,L.observations k⟩
  | lease (intent : ScaleIntentRecord) (controllerId : String) (now : DateTime) (hk : k = intent.executionKey)
      (e : ScaleExecutionRecord) (l : ControllerLease) (t : Int) (ht : now = .utc t)
      (he : L.executions k = some e)
      (hx : ∀ held, L.leases k = some held → t < held.expiresAt → isRetryableFailed e = true)
      (ha : l.attempt = e.attempt + 1) (hid : l.leaseInstanceId = "lease:" ++ uuid) :
      RowStep H L k uuid (.acquireControllerLease intent controllerId now)
        ⟨L.executions k,some l,L.observations k⟩
  | start (intent : ScaleIntentRecord) (execution : ScaleExecutionRecord) (lease : ControllerLease)
      (now : DateTime) (hk : k = intent.executionKey) (e : ScaleExecutionRecord) (t : Int)
      (held : ControllerLease) (hl : L.leases k = some held)
      (hid : held.leaseInstanceId = lease.leaseInstanceId) (he : L.executions k = some e)
      (hs : settledState e.state = false)
      (hf : e.state = .failed → e.result.any (·.retryable) = true ∧ e.attempt < lease.attempt) :
      RowStep H L k uuid (.markStarted intent execution lease now)
        ⟨some (withStart e lease t),L.leases k,L.observations k⟩
  | result (intent : ScaleIntentRecord) (execution : ScaleExecutionRecord) (lease : ControllerLease)
      (result : ScaleActuationResult) (now : DateTime) (hk : k = intent.executionKey)
      (e : ScaleExecutionRecord) (t : Int) (held : ControllerLease) (hl : L.leases k = some held)
      (hid : held.leaseInstanceId = lease.leaseInstanceId) (he : L.executions k = some e)
      (hw : Writable e lease result) (hc : checkLease H L intent execution lease now = .ok (t,e))
      (hr : result.executionKey = intent.executionKey ∧ result.target = intent.target) :
      RowStep H L k uuid (.recordResult intent execution lease result now)
        ⟨some (withResult e lease result t),L.leases k,L.observations k⟩
  | observe (intent : ScaleIntentRecord) (execution : ScaleExecutionRecord) (observation : ScaleObservation)
      (t : Int) (hk : k = intent.executionKey) (e : ScaleExecutionRecord) (r : ScaleActuationResult)
      (he : L.executions k = some e) (hn : L.observations k = none) (hr : e.result = some r)
      (hm : observationMatchesResult H observation r = true) :
      RowStep H L k uuid (.recordObservation intent execution observation (.utc t))
        ⟨some (withObservation e observation t),L.leases k,some observation⟩
  | stray (intent : ScaleIntentRecord) (execution : ScaleExecutionRecord) (observation : ScaleObservation)
      (now : DateTime) (hnow : now.instant = none) (hk : k = intent.executionKey) (e : ScaleExecutionRecord) (r : ScaleActuationResult)
      (he : L.executions k = some e) (hn : L.observations k = none) (hr : e.result = some r)
      (hv : validateObservationIdentity intent execution observation e = .ok ())
      (hm : observationMatchesResult H observation r = true) :
      RowStep H L k uuid (.recordObservation intent execution observation now)
        ⟨L.executions k,L.leases k,some observation⟩

theorem perform_row (k uuid : String) (c : LedgerCall) : RowStep H L k uuid c ((L.perform H uuid c).2.row k) := by
  cases c with
  | persistIntent intent =>
    rcases persistIntent_row (H := H) (L := L) intent k with h | ⟨hk,hn,_,h⟩
    · exact h ▸ .stay _
    · exact h ▸ .persist intent hk hn
  | acquireControllerLease intent controllerId now =>
    rcases acquireControllerLease_row (H := H) (L := L) uuid intent controllerId now k with
      h | ⟨hk,e,l,t,ht,he,hx,ha,hid,_,h⟩
    · exact h ▸ .stay _
    · exact h ▸ .lease intent controllerId now hk e l t ht he hx ha hid
  | markStarted intent execution lease now =>
    rcases markStarted_row (H := H) (L := L) intent execution lease now k with
      h | ⟨hk,e,t,held,hl,hid,he,hs,hf,_,h⟩
    · exact h ▸ .stay _
    · exact h ▸ .start intent execution lease now hk e t held hl hid he hs hf
  | recordResult intent execution lease result now =>
    rcases recordResult_row (H := H) (L := L) intent execution lease result now k with
      h | ⟨hk,e,t,held,hl,hid,he,hw,hc,hr,_,h⟩
    · exact h ▸ .stay _
    · exact h ▸ .result intent execution lease result now hk e t held hl hid he hw hc hr
  | recordObservation intent execution observation now =>
    rcases recordObservation_row (H := H) (L := L) intent execution observation now k with
      h | ⟨hk,e,r,he,hn,hr,hv,hm,⟨t,rfl,_,h⟩ | ⟨hnow,h⟩⟩
    · exact h ▸ .stay _
    · exact h ▸ .observe intent execution observation t hk e r he hn hr hm
    · exact h ▸ .stray intent execution observation now hnow hk e r he hn hr hv hm
  | recordBreakGlass intent authorization now =>
    exact recordBreakGlass_row (H := H) (L := L) intent authorization now k ▸ .stay _

theorem perform_error {k : String} {c : LedgerCall} {x : Raised} (h : (L.perform H uuid c).1 = .error x) :
    (L.perform H uuid c).2.row k = L.row k ∨ ∃ i e o now, c = .recordObservation i e o now ∧ now.instant = none := by
  cases c with
  | persistIntent intent =>
    rcases persistIntent_row (H := H) (L := L) intent k with hrow | ⟨_,_,hok,_⟩
    · exact .inl hrow
    · cases hok.symm.trans h
  | acquireControllerLease intent controllerId now =>
    rcases acquireControllerLease_row (H := H) (L := L) uuid intent controllerId now k with
      hrow | ⟨_,_,_,_,_,_,_,_,_,hok,_⟩
    · exact .inl hrow
    · cases hok.symm.trans h
  | markStarted intent execution lease now =>
    rcases markStarted_row (H := H) (L := L) intent execution lease now k with hrow | ⟨_,_,_,_,_,_,_,_,_,hok,_⟩
    · exact .inl hrow
    · cases hok.symm.trans h
  | recordResult intent execution lease result now =>
    rcases recordResult_row (H := H) (L := L) intent execution lease result now k with
      hrow | ⟨_,_,_,_,_,_,_,_,_,_,hok,_⟩
    · exact .inl hrow
    · cases hok.symm.trans h
  | recordObservation intent execution observation now =>
    rcases recordObservation_row (H := H) (L := L) intent execution observation now k with
      hrow | ⟨_,_,_,_,_,_,_,_,⟨t,rfl,hok,_⟩ | ⟨hnow,_⟩⟩
    · exact .inl hrow
    · cases hok.symm.trans h
    · exact .inr ⟨intent,execution,observation,now,rfl,hnow⟩
  | recordBreakGlass intent authorization now => exact .inl (recordBreakGlass_row intent authorization now k)

end

/-- The ledger after a sequence of calls, each with what `uuid4` would give it. -/
def Ledger.after (H : Hashes) (L : Ledger) : List (String × LedgerCall) → Ledger
  | [] => L
  | (uuid,c) :: rest => Ledger.after H (L.perform H uuid c).2 rest

theorem after_append (H : Hashes) (L : Ledger) (xs ys : List (String × LedgerCall)) :
    L.after H (xs ++ ys) = (L.after H xs).after H ys := by
  induction xs generalizing L with
  | nil => rfl
  | cons x xs ih => exact ih _

end Arbora.Scaling
