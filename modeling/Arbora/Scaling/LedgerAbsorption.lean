import Arbora.Scaling.LedgerSteps

/-! When a verified execution stays verified. -/
namespace Arbora.Scaling
open Ledger

/-- A `record_result` that passes its lease check on an observed key, with the stored
result itself, under an attempt other than the recorded one. -/
def Reopens (H : Hashes) (key : String) (L : Ledger) : LedgerCall → Prop
  | .recordResult intent execution lease result now => intent.executionKey = key ∧
      (L.observations key).isSome ∧ result.executionKey = key ∧ result.target = intent.target ∧
      ∃ t e, checkLease H L intent execution lease now = .ok (t,e) ∧ e.result = some result ∧
        e.resultAttempt ≠ some lease.attempt
  | _ => False

/-- A `record_observation` that would store its observation, given a `now` that is no instant. -/
def Strays (H : Hashes) (key : String) (L : Ledger) : LedgerCall → Prop
  | .recordObservation intent execution observation now => intent.executionKey = key ∧ now.instant = none ∧
      L.observations key = none ∧ ∃ e r, L.executions key = some e ∧
        validateObservationIdentity intent execution observation e = .ok () ∧ e.result = some r ∧
        observationMatchesResult H observation r = true
  | _ => False

def Regular (H : Hashes) (key : String) : Ledger → List (String × LedgerCall) → Prop
  | _, [] => True
  | L, (uuid,c) :: rest =>
      ¬ Reopens H key L c ∧ ¬ Strays H key L c ∧ Regular H key (L.perform H uuid c).2 rest

/-- The key is verified by observation `o` of the stored result `r`. -/
def Settled (o : ScaleObservation) (r : ScaleActuationResult) (row : Row) : Prop :=
  row.observation = some o ∧ ∃ e, row.execution = some e ∧ e.state = .verified ∧ e.result = some r ∧
    e.observationId = some o.observationId

/-- The key is settled in every state the sequence goes through, the first included. -/
def SettledAlong (H : Hashes) (key : String) (o : ScaleObservation) (r : ScaleActuationResult) :
    Ledger → List (String × LedgerCall) → Prop
  | L, [] => Settled o r (L.row key)
  | L, (uuid,c) :: rest => Settled o r (L.row key) ∧ SettledAlong H key o r (L.perform H uuid c).2 rest

section
variable {H : Hashes} {L : Ledger} {key : String}

theorem settled_step {o : ScaleObservation} {r : ScaleActuationResult} (hs : Settled o r (L.row key))
    (uuid : String) (c : LedgerCall) (hc : ¬ Reopens H key L c) : Settled o r ((L.perform H uuid c).2.row key) := by
  have hs' := hs
  obtain ⟨hobs,e,he,hst,hres,hid⟩ := hs'
  rw [row_observation] at hobs
  rw [row_execution] at he
  have hrow := perform_row (H := H) (L := L) key uuid c
  generalize (L.perform H uuid c).2.row key = row' at hrow ⊢
  cases hrow with
  | stay => exact hs
  | persist intent hk hn => simp [hn] at he
  | lease intent controllerId now hk e' l t ht he' hx ha hi => exact ⟨hobs,e,he,hst,hres,hid⟩
  | start intent execution lease now hk e' t held hl hi he' hset hf =>
    rw [he] at he'
    cases he'
    simp [hst,settledState] at hset
  | result intent execution lease result now hk e' t held hl hi he' hw hcheck hr =>
    rw [he] at he'
    cases he'
    subst hk
    -- a verified record is written over only by its own result under another attempt
    rcases hw with hn | ⟨hsame,hne⟩ | ⟨kept,_,_,_,hstarted,_⟩
    · simp [hres] at hn
    · exact absurd ⟨rfl,by simp [hobs],hr.1,hr.2,t,e,hcheck,hsame,hne⟩ hc
    · rw [hst] at hstarted
      cases hstarted
  | observe intent execution observation t hk e' r' he' hn hr hm => simp [hn] at hobs
  | stray intent execution observation now hnow hk e' r' he' hn hr hv hm => simp [hn] at hobs

theorem reopens_step {o : ScaleObservation} {r : ScaleActuationResult} {uuid : String} {c : LedgerCall}
    (hc : Reopens H key L c) : ¬ Settled o r ((L.perform H uuid c).2.row key) := by
  cases c with
  | recordResult intent execution lease result now =>
    obtain ⟨hk,_,hkey,htarget,t,e,hcheck,hres,hne⟩ := hc
    subst hk
    have hreplay : isResultReplay e lease result = .ok false := by simp [isResultReplay,hres,hne]
    have hid : ¬(result.executionKey ≠ intent.executionKey ∨ result.target ≠ intent.target) := by
      simp [hkey,htarget]
    rintro ⟨_,e',he',hst,_⟩
    simp only [perform,recordResult,hcheck,hid,if_false,hreplay,row_log,row_setExecution,if_true,
      Option.some.injEq] at he'
    subst he'
    exact result.not_verified hst
  | _ => exact hc.elim

theorem recordObservation_settles {intent : ScaleIntentRecord} {execution : ScaleExecutionRecord}
    {observation o : ScaleObservation} {now : DateTime}
    (hL : ∀ stored, L.observations intent.executionKey = some stored →
      ∃ r, Settled stored r (L.row intent.executionKey))
    (h : (L.recordObservation H intent execution observation now).1 = .ok o) :
    ∃ r, Settled o r ((L.recordObservation H intent execution observation now).2.row intent.executionKey) := by
  have hrow := recordObservation_row (H := H) (L := L) intent execution observation now intent.executionKey
  have hstored := recordObservation_ok h
  rcases hrow with hrow | ⟨_,e,r,he,hn,hr,hv,hm,⟨t,rfl,hok,hrow⟩ | ⟨hnow,hrow⟩⟩
  · rw [hrow]
    refine hL o ?_
    rw [← row_observation,← hrow]
    exact hstored
  · rw [h] at hok
    cases hok
    rw [hrow]
    exact ⟨r,rfl,_,rfl,rfl,hr,rfl⟩
  · -- without an instant `now` raises once the observation is stored
    have hm' : (!observationMatchesResult H observation r) = false := by simp [hm]
    cases now with
    | utc t => cases hnow
    | naive =>
      simp only [recordObservation,he,hv,hn,hr,hm',aware] at h
      cases h
    | outside =>
      simp only [recordObservation,he,hv,hn,hr,hm',aware] at h
      cases h

theorem observed_settled_step (uuid : String) (c : LedgerCall)
    (hL : ∀ o, L.observations key = some o → ∃ r, Settled o r (L.row key))
    (hc : ¬ Reopens H key L c) (hs : ¬ Strays H key L c) : ∀ o, (L.perform H uuid c).2.observations key = some o →
      ∃ r, Settled o r ((L.perform H uuid c).2.row key) := by
  intro o ho
  cases hobs : L.observations key with
  | some stored =>
    obtain ⟨r,hr⟩ := hL stored hobs
    have hkept := settled_step hr uuid c hc
    have hsame : stored = o := by
      have := hkept.1
      rw [row_observation,ho] at this
      exact (Option.some.inj this).symm
    exact ⟨r,hsame ▸ hkept⟩
  | none =>
    have hrow := perform_row (H := H) (L := L) key uuid c
    rw [← row_observation] at ho
    generalize (L.perform H uuid c).2.row key = row' at hrow ho ⊢
    cases hrow with
    | observe intent execution observation t hk e r he hn hr hm =>
      cases ho
      exact ⟨r,rfl,_,rfl,rfl,hr,rfl⟩
    | stray intent execution observation now hnow hk e r he hn hr hv hm =>
      exact absurd ⟨hk.symm,hnow,hn,e,r,he,hv,hr,hm⟩ hs
    | _ => simp [hobs] at ho

end

section
variable {H : Hashes} {key : String}

theorem observed_settled_after {L : Ledger} {calls : List (String × LedgerCall)}
    (hL : ∀ o, L.observations key = some o → ∃ r, Settled o r (L.row key)) (hr : Regular H key L calls) :
    ∀ o, (L.after H calls).observations key = some o → ∃ r, Settled o r ((L.after H calls).row key) := by
  induction calls generalizing L with
  | nil => exact hL
  | cons x rest ih =>
    obtain ⟨uuid,c⟩ := x
    obtain ⟨hc,hs,hrest⟩ := hr
    exact ih (observed_settled_step uuid c hL hc hs) hrest

theorem settledAlong_iff {o : ScaleObservation} {r : ScaleActuationResult} {L : Ledger}
    (hs : Settled o r (L.row key)) (later : List (String × LedgerCall)) :
    SettledAlong H key o r L later ↔ Regular H key L later := by
  induction later generalizing L with
  | nil => exact iff_of_true hs trivial
  | cons x rest ih =>
    obtain ⟨uuid,c⟩ := x
    have hstray : ¬ Strays H key L c := by
      have hobs := hs.1
      cases c with
      | recordObservation intent execution observation now =>
        rintro ⟨_,_,hn,_⟩
        simp [hn] at hobs
      | _ => exact id
    constructor
    · rintro ⟨_,hrest⟩
      have hnext : Settled o r ((L.perform H uuid c).2.row key) := by
        cases rest with
        | nil => exact hrest
        | cons y ys => exact hrest.1
      exact ⟨fun hc => reopens_step hc hnext,hstray,(ih hnext).mp hrest⟩
    · rintro ⟨hc,_,hrest⟩
      exact ⟨hs,(ih (settled_step hs uuid c hc)).mpr hrest⟩

/-- After any regular sequence, once `record_observation` answers for a key, the key's
state, result and observation stay as they are exactly as long as no call reopens it. -/
theorem verified_absorbing_iff_regular (before : List (String × LedgerCall)) (uuid : String)
    (intent : ScaleIntentRecord) (execution : ScaleExecutionRecord) (observation o : ScaleObservation)
    (now : DateTime) (hbefore : Regular H intent.executionKey Ledger.empty before)
    (hok : (((Ledger.empty.after H before).perform H uuid
      (.recordObservation intent execution observation now)).1 : Except Raised ScaleObservation) = .ok o) :
    ∃ r, ∀ later, SettledAlong H intent.executionKey o r ((Ledger.empty.after H before).perform H uuid
        (.recordObservation intent execution observation now)).2 later ↔
      Regular H intent.executionKey ((Ledger.empty.after H before).perform H uuid
        (.recordObservation intent execution observation now)).2 later := by
  have hL := observed_settled_after (L := Ledger.empty) (fun o ho => by cases ho) hbefore
  obtain ⟨r,hr⟩ := recordObservation_settles hL hok
  exact ⟨r,fun later => settledAlong_iff hr later⟩

end

/-! One intent with two attempts, its first delivery and the lease that comes after it. -/
namespace Sample

def hashes : Hashes where
  sha256 := fun s => s
  identityDigest := fun i => i.intentId ++ "@" ++ i.executionKey
  resultDigest := fun r => r.executionKey ++ "#" ++ r.state.value ++ "#" ++ r.detail
  auditDigest := fun i a => i ++ "@" ++ a.authorizationId

def target : ScaleTargetBinding := ⟨"cluster","runtime","workload","uid","1"⟩
def fence : ScaleFence := ⟨"fence",1,1,10000000000⟩

def intent : ScaleIntentRecord where
  intentId := "intent"
  intentRevision := 1
  expectedUnitRevision := 1
  desiredReplicas := 2
  minReplicas := 1
  maxReplicas := 3
  controllerMode := .native
  replicaWriterId := "writer"
  executionKey := "key"
  fence := fence
  target := target
  reason := "load"
  retryPolicy := ⟨2,0,by decide,by decide,by decide⟩
  createdAt := 0
  bounds := by decide

/-- The execution as `persist_intent` returns it. -/
def execution : ScaleExecutionRecord := newExecution hashes intent

def lease (uuid : String) (n : Nat) (now : Int) (h : ¬ intent.fence.expiresAt ≤ now) : ControllerLease :=
  newLease uuid "writer" intent n now h

def succeeded : ScaleActuationResult where
  executionKey := "key"
  target := target
  state := .succeeded
  scaled := true
  observedReplicas := some 2
  valid := by decide

def converged : ScaleObservation where
  observationId := "observation:key"
  executionKey := "key"
  intentId := "intent"
  intentRevision := 1
  target := target
  status := .converged
  scaled := true
  observedReplicas := some 2
  outcomeDigest := hashes.resultDigest succeeded
  observedAt := 3
  detail := ""
  valid := by decide

def firstLease : ControllerLease := lease "a" 0 0 (by decide)

def delivery : List (String × LedgerCall) :=
  [("",.persistIntent intent),("a",.acquireControllerLease intent "writer" (.utc 0)),
   ("",.markStarted intent execution firstLease (.utc 1)),
   ("",.recordResult intent execution firstLease succeeded (.utc 2))]

def redelivery : List (String × LedgerCall) :=
  [("b",.acquireControllerLease intent "writer" (.utc 900000000)),
   ("",.recordResult intent execution (lease "b" 1 900000000 (by decide)) succeeded (.utc 900000001))]

end Sample

open Sample in
theorem verified_after_delivery : ∃ r, ∀ later,
    SettledAlong hashes "key" converged r ((Ledger.empty.after hashes delivery).perform hashes ""
      (.recordObservation intent execution converged (.utc 3))).2 later ↔
    Regular hashes "key" ((Ledger.empty.after hashes delivery).perform hashes ""
      (.recordObservation intent execution converged (.utc 3))).2 later := by
  have hregular : Regular hashes "key" Ledger.empty delivery := by
    refine ⟨id,id,id,id,id,id,?_,id,trivial⟩
    rintro ⟨_,hobs,_⟩
    exact absurd hobs (by decide)
  exact verified_absorbing_iff_regular delivery "" intent execution converged converged (.utc 3) hregular
    (by decide)

open Sample in
/-- The stored observation is kept, but the execution is `succeeded` again. -/
theorem verified_rewritten_by_redelivery :
    ((Ledger.empty.after hashes delivery).recordObservation hashes intent execution converged (.utc 3)).1 =
      .ok converged ∧ ∀ r, ¬ SettledAlong hashes "key" converged r
      ((Ledger.empty.after hashes delivery).recordObservation hashes intent execution converged (.utc 3)).2
      redelivery := by
  refine ⟨by decide,?_⟩
  rintro r ⟨_,_,_,e,he,hst,_⟩
  have hstate : (((((Ledger.empty.after hashes delivery).recordObservation hashes intent execution converged
      (.utc 3)).2.after hashes redelivery).row "key").execution.map (·.state)) = some .succeeded := by decide
  rw [show ((((Ledger.empty.after hashes delivery).recordObservation hashes intent execution converged
      (.utc 3)).2.after hashes redelivery).row "key").execution = some e from he] at hstate
  simp [hst] at hstate

end Arbora.Scaling
