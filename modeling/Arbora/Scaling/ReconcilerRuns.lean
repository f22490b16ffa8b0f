import Arbora.Scaling.ReconcilerCalls
import Arbora.Scaling.LedgerAbsorption

/-! Deliveries one after another over one ledger, each stopped anywhere: a crash is a delivery that makes no further
call. -/
namespace Arbora.Scaling
open Interaction Ledger Reconciler

/-- The ledger, the requests the actuator has been given, and what `uuid4` has given. -/
structure Deployment where
  ledger : Ledger
  applied : List ScaleActuationRequest
  uuids : List String

def Deployment.empty : Deployment := ⟨Ledger.empty,[],[]⟩

def world (H : Hashes) : World Call Call.Answer Deployment := fun s c =>
  match c with
  | .ledger c => fun r s' => ∃ uuid, uuid ∉ s.uuids ∧ s.ledger.perform H uuid c = (r,s'.ledger) ∧
      s'.applied = s.applied ∧ s'.uuids = uuid :: s.uuids
  | .getObservation k => fun r s' => r = s.ledger.getObservation k ∧ s' = s
  | .decide _ => fun _ s' => s' = s
  | .apply req => fun _ s' => s' = { s with applied := s.applied ++ [req] }

/-- Deliveries that each meet `P` in the state they start in; any of them may have crashed. -/
inductive Deliveries (H : Hashes) (P : Deployment → Delivery → Prop) : Deployment → Deployment → Prop where
  | refl (s : Deployment) : Deliveries H P s s
  | tail {s m s' : Deployment} {t : History} {q : Step ScaleReconcileResult} (h : Deliveries H P s m) (d : Delivery)
      (hd : P m d) (hr : Prog.Runs (world H) (d.program H) m t q s') : Deliveries H P s s'

/-- The actuator has been called for the key. -/
def Deployment.Touched (s : Deployment) (k : String) : Prop := ∃ req ∈ s.applied, req.executionKey = k

def Consistent (H : Hashes) (touched : Prop) (row : Row) : Prop :=
  match row.execution with
  | none => row.observation = none ∧ ¬ touched
  | some e => match e.state with
    | .persisted => e.result = none ∧ row.observation = none ∧ ¬ touched
    | .started => row.observation = none ∧ ∀ r, e.result = some r → r.state = .failed
    | .simulated => row.observation = none ∧ (∃ r, e.result = some r ∧ r.state = .simulated) ∧ ¬ touched
    | .succeeded => row.observation = none ∧ ∃ r, e.result = some r ∧ r.state = .succeeded
    | .failed => row.observation = none ∧ ∃ r, e.result = some r ∧ r.state = .failed
    | .verified => ∃ o r, row.observation = some o ∧ e.result = some r ∧
        observationMatchesResult H o r = true ∧ (r.state = .simulated → ¬ touched)
    | .observed | .denied => False

section
variable {H : Hashes} {touched : Prop} {row : Row} {e : ScaleExecutionRecord}

theorem Consistent.some_iff (he : row.execution = some e) : Consistent H touched row ↔ match e.state with
    | .persisted => e.result = none ∧ row.observation = none ∧ ¬ touched
    | .started => row.observation = none ∧ ∀ r, e.result = some r → r.state = .failed
    | .simulated => row.observation = none ∧ (∃ r, e.result = some r ∧ r.state = .simulated) ∧ ¬ touched
    | .succeeded => row.observation = none ∧ ∃ r, e.result = some r ∧ r.state = .succeeded
    | .failed => row.observation = none ∧ ∃ r, e.result = some r ∧ r.state = .failed
    | .verified => ∃ o r, row.observation = some o ∧ e.result = some r ∧
        observationMatchesResult H o r = true ∧ (r.state = .simulated → ¬ touched)
    | .observed | .denied => False := by
  unfold Consistent
  rw [he]

theorem Consistent.observed {o : ScaleObservation} (hc : Consistent H touched row) (ho : row.observation = some o) :
    ∃ e r, row.execution = some e ∧ e.state = .verified ∧ e.result = some r ∧
      observationMatchesResult H o r = true ∧ (r.state = .simulated → ¬ touched) := by
  cases he : row.execution with
  | none => simp [Consistent,he,ho] at hc
  | some e =>
    rw [Consistent.some_iff he] at hc
    cases hs : e.state with
    | verified =>
      simp only [hs] at hc
      obtain ⟨o',r,ho',hr,hm,ht⟩ := hc
      rw [ho] at ho'
      cases ho'
      exact ⟨e,r,rfl,hs,hr,hm,ht⟩
    | _ => simp [hs,ho] at hc

theorem Consistent.simulated {r : ScaleActuationResult} (hc : Consistent H touched row)
    (he : row.execution = some e) (hr : e.result = some r) (hs : r.state = .simulated) : ¬ touched := by
  rw [Consistent.some_iff he] at hc
  cases hst : e.state with
  | persisted => simp [hst,hr] at hc
  | started => simp [hst,hr,hs] at hc
  | simulated => simp only [hst] at hc; exact hc.2.2
  | succeeded => simp [hst,hr,hs] at hc
  | failed => simp [hst,hr,hs] at hc
  | verified =>
    simp only [hst] at hc
    obtain ⟨_,r',_,hr',_,ht⟩ := hc
    rw [hr] at hr'
    cases hr'
    exact ht hs
  | observed => simp [hst] at hc
  | denied => simp [hst] at hc

/-- What a ledger call is asked for by the invariant: a result comes only over an unobserved key,
a simulated one only over an untouched one, and observations come with an instant as `now`. -/
def Admissible (touched : Prop) (k : String) (observation : Option ScaleObservation) : LedgerCall → Prop
  | .recordResult intent _ _ result _ => intent.executionKey = k →
      observation = none ∧ (result.state = .simulated → ¬ touched)
  | .recordObservation _ _ _ now => now.instant ≠ none
  | _ => True

theorem consistent_step {L : Ledger} {k uuid : String} {c : LedgerCall}
    (hc : Consistent H touched (L.row k)) (ha : Admissible touched k (L.observations k) c) :
    Consistent H touched ((L.perform H uuid c).2.row k) := by
  have hrow := perform_row (H := H) (L := L) k uuid c
  generalize (L.perform H uuid c).2.row k = row' at hrow ⊢
  cases hrow with
  | stay => exact hc
  | persist intent hk hn =>
    have hc' : L.observations k = none ∧ ¬ touched := by simpa [Consistent,hn] using hc
    exact ⟨rfl,hc'⟩
  | lease intent controllerId now hk e l t ht he hx hatt hid => exact hc
  | start intent execution lease now hk e t held hl hid he hs hf =>
    rw [Consistent.some_iff he] at hc
    simp only [withStart]
    cases hst : e.state with
    | persisted =>
      simp only [hst] at hc
      exact ⟨hc.2.1,fun r hr => by simp [hc.1] at hr⟩
    | started =>
      simp only [hst] at hc
      exact hc
    | failed =>
      simp only [hst] at hc
      obtain ⟨hobs,r,hr,hrs⟩ := hc
      refine ⟨hobs,?_⟩
      intro r' hr'
      rw [hr] at hr'
      cases hr'
      exact hrs
    | observed => simp [hst] at hc
    | denied => simp [hst] at hc
    | _ => simp [hst,settledState] at hs
  | result intent execution lease result now hk e t held hl hid he hw hcheck hr =>
    obtain ⟨hobs,hsim⟩ := ha hk.symm
    simp only [withResult]
    rcases result.state_cases with hs | hs | hs
    · simp only [hs]
      exact ⟨hobs,⟨result,rfl,hs⟩,hsim hs⟩
    · simp only [hs]
      exact ⟨hobs,result,rfl,hs⟩
    · simp only [hs]
      exact ⟨hobs,result,rfl,hs⟩
  | observe intent execution observation t hk e r he hn hr hm =>
    exact ⟨observation,r,rfl,hr,hm,fun hs => hc.simulated he hr hs⟩
  | stray intent execution observation now hnow hk e r he hn hr hv hm => exact absurd hnow ha

end

section
variable {H : Hashes} {d : Delivery} {now : Int} {s m : Deployment} {h : History} {p : PersistedIntent}
  {l : ControllerLease}

theorem quiet_row {x : Event Call Call.Answer} (hx : Quiet x) (hw : world H s x.1 x.2 m) (k : String) :
    m.ledger.row k = s.ledger.row k := by
  obtain ⟨c,r⟩ := x
  cases c with
  | ledger c =>
    cases c with
    | recordBreakGlass intent authorization now =>
      obtain ⟨uuid,_,hp,_⟩ := hw
      have hrow := recordBreakGlass_row (H := H) (L := s.ledger) intent authorization now k
      rw [show s.ledger.recordBreakGlass H intent authorization now = (r,m.ledger) from hp] at hrow
      exact hrow
    | _ => exact hx.elim
  | getObservation k' => rw [hw.2]
  | decide i => rw [show m = s from hw]
  | apply req => exact hx.elim

theorem quiet_path {q : History} (hq : ∀ x ∈ q, Quiet x) (hp : Prog.Path (world H) s q m) (k : String) :
    m.ledger.row k = s.ledger.row k := by
  induction q generalizing s with
  | nil => rw [show m = s from hp]
  | cons x q ih =>
    obtain ⟨n,hw,hrest⟩ := hp
    rw [ih (fun y hy => hq y (List.mem_cons_of_mem _ hy)) hrest,quiet_row (hq x List.mem_cons_self) hw]

theorem opened_execution (ho : Opened d h p) (hp : Prog.Path (world H) s h m) :
    m.ledger.executions d.intent.executionKey = some p.execution := by
  obtain ⟨q,rfl,hq⟩ := ho
  obtain ⟨n,⟨uuid,_,hn,_⟩,hrest⟩ := hp
  have hpersist : (s.ledger.persistIntent H d.intent) = (.ok p,n.ledger) := hn
  have hok := @persistIntent_ok H s.ledger d.intent p (by rw [hpersist])
  rw [hpersist] at hok
  have hrow := quiet_path hq hrest d.intent.executionKey
  rw [← row_execution,hrow]
  exact hok.1

/-- The key's row is the one the delivery started with, unless it was the first to persist it. -/
theorem opened_row (ho : Opened d h p) (hp : Prog.Path (world H) s h m) :
    m.ledger.row d.intent.executionKey = s.ledger.row d.intent.executionKey ∨ p.execution.state = .persisted := by
  obtain ⟨q,rfl,hq⟩ := ho
  obtain ⟨n,⟨uuid,_,hn,_⟩,hrest⟩ := hp
  have hpersist : (s.ledger.persistIntent H d.intent) = (.ok p,n.ledger) := hn
  have hrow := persistIntent_row (H := H) (L := s.ledger) d.intent d.intent.executionKey
  rw [hpersist] at hrow
  rcases hrow with hrow | ⟨_,_,hok,_⟩
  · left
    rw [quiet_path hq hrest,hrow]
  · right
    cases hok
    rfl

theorem leased_row (hl : Leased d now h p l) (hp : Prog.Path (world H) s h m) :
    m.ledger.executions d.intent.executionKey = some p.execution ∧
    m.ledger.leases d.intent.executionKey = some l := by
  obtain ⟨q,rfl,ho,_⟩ := hl
  obtain ⟨n,hq,hlast⟩ := Prog.path_append.mp hp
  obtain ⟨uuid,_,hn,_⟩ := Prog.path_single.mp hlast
  have hacq : n.ledger.acquireControllerLease H uuid d.intent d.controllerId (.utc now) = (.ok (some l),m.ledger) := hn
  have he := opened_execution ho hq
  have hok := acquireControllerLease_ok (congrArg Prod.fst hacq)
  have hrow := acquireControllerLease_row (H := H) (L := n.ledger) uuid d.intent d.controllerId (.utc now)
    d.intent.executionKey
  rw [hacq] at hok hrow
  refine ⟨?_,hok⟩
  rw [← row_execution]
  rcases hrow with hrow | ⟨_,_,_,_,_,_,_,_,_,_,hrow⟩
  · rw [hrow]
    exact he
  · rw [hrow]
    exact he

theorem marked_row {e : ScaleExecutionRecord} (hm : Marked d now h l e) (hp : Prog.Path (world H) s h m) :
    m.ledger.leases d.intent.executionKey = some l ∧ m.ledger.executions d.intent.executionKey = some e ∧
    ((settledState e.state = true ∧ Startable d e) ∨ (e.state = .started ∧ e.attempt = l.attempt)) := by
  obtain ⟨_,p,q,hl,rfl⟩ := hm
  obtain ⟨n,hq,hlast⟩ := Prog.path_append.mp hp
  obtain ⟨uuid,_,hn,_⟩ := Prog.path_single.mp hlast
  have hmark : n.ledger.markStarted H d.intent p.execution l (.utc now) = (.ok e,m.ledger) := hn
  obtain ⟨he,hlease⟩ := leased_row hl hq
  have hok := markStarted_ok (congrArg Prod.fst hmark)
  have hrow := markStarted_row (H := H) (L := n.ledger) d.intent p.execution l (.utc now) d.intent.executionKey
  rw [hmark] at hok hrow
  refine ⟨?_,hok.1,?_⟩
  · rw [← row_lease]
    rcases hrow with hrow | ⟨_,_,_,_,_,_,_,_,_,_,hrow⟩
    · rw [hrow]
      exact hlease
    · rw [hrow]
      exact hlease
  · rcases hok.2 with ⟨hs,hsame⟩ | ⟨e',t,he',_,rfl⟩
    · rw [he] at hsame
      cases hsame
      exact .inl ⟨hs,hl.startable⟩
    · exact .inr ⟨rfl,rfl⟩

theorem Startable.unsettled {touched : Prop} {row : Row} {e : ScaleExecutionRecord} (hs : Startable d e)
    (he : row.execution = some e) (hc : Consistent H touched row) : settledState e.state = false := by
  rw [Consistent.some_iff he] at hc
  cases hst : e.state with
  | simulated =>
    simp only [hst] at hc
    obtain ⟨_,⟨r,hr,_⟩,_⟩ := hc
    have hn := hs.unresolved (.inl hst)
    simp [hn] at hr
  | succeeded =>
    simp only [hst] at hc
    obtain ⟨_,r,hr,_⟩ := hc
    have hn := hs.unresolved (.inr hst)
    simp [hn] at hr
  | observed => exact absurd hst hs.unobserved.1
  | verified => exact absurd hst hs.unobserved.2
  | _ => rfl

theorem marked_started {touched : Prop} {e : ScaleExecutionRecord} (hm : Marked d now h l e)
    (hp : Prog.Path (world H) s h m) (hc : Consistent H touched (m.ledger.row d.intent.executionKey)) :
    m.ledger.executions d.intent.executionKey = some e ∧ e.state = .started ∧
      m.ledger.observations d.intent.executionKey = none := by
  obtain ⟨_,he,hcase⟩ := marked_row hm hp
  have hstarted : e.state = .started := by
    rcases hcase with ⟨hset,hs⟩ | ⟨hst,_⟩
    · have := hs.unsettled he hc
      simp [hset] at this
    · exact hst
  refine ⟨he,hstarted,?_⟩
  rw [Consistent.some_iff he,hstarted] at hc
  exact hc.1

theorem recording_row {touched : Prop} {e : ScaleExecutionRecord} {r : ScaleActuationResult}
    (hrec : Recording d now h l e r) (hp : Prog.Path (world H) s h m)
    (hc : Consistent H touched (m.ledger.row d.intent.executionKey)) :
    m.ledger.observations d.intent.executionKey = none ∧ (r.state = .simulated → ¬ touched) := by
  rcases hrec with ⟨hd,rfl,p,hl,rfl⟩ | ⟨hr,q,a,hm,rfl⟩
  · obtain ⟨he,_⟩ := leased_row hl hp
    have hset := hl.startable.unsettled he hc
    rw [Consistent.some_iff he] at hc
    rcases hl.startable.dry hd with hst | hst
    · simp only [hst] at hc
      exact ⟨hc.2.1,fun _ => hc.2.2⟩
    · simp [hst,settledState] at hset
  · obtain ⟨n,hq,hlast⟩ := Prog.path_append.mp hp
    have hsame : m.ledger = n.ledger := by rw [show m = _ from Prog.path_single.mp hlast]
    rw [hsame] at hc ⊢
    exact ⟨(marked_started hm hq hc).2.2,fun h => absurd h hr⟩

end

section
variable {H : Hashes} {d : Delivery} {now : Int}

theorem consistent_call {s m m' : Deployment} {u : History} {c : Call} {r : c.Answer}
    (hp : Prog.Path (world H) s u m) (hf : Follows H d now u c)
    (hI : ∀ k, Consistent H (m.Touched k) (m.ledger.row k)) (hw : world H m c r m') :
    ∀ k, Consistent H (m'.Touched k) (m'.ledger.row k) := by
  intro k
  cases c with
  | ledger c =>
    obtain ⟨uuid,_,hperform,happlied,_⟩ := hw
    have htouched : m'.Touched k = m.Touched k := by simp only [Deployment.Touched,happlied]
    have hrow := @consistent_step _ _ _ _ uuid c (hI k) ?_
    · rw [hperform] at hrow
      rw [htouched]
      exact hrow
    · cases c with
      | recordResult i e l result t =>
        obtain ⟨rfl,_,hrec⟩ := hf
        rintro rfl
        exact recording_row hrec hp (hI _)
      | recordObservation i e o t =>
        obtain ⟨_,rfl,_⟩ := hf
        exact nofun
      | _ => trivial
  | getObservation key => exact hw.2 ▸ hI k
  | decide i => exact (show m' = m from hw) ▸ hI k
  | apply req =>
    obtain ⟨l,e,hm,rfl⟩ := hf
    cases hw
    by_cases hk : k = d.intent.executionKey
    · subst hk
      obtain ⟨he,hst,hobs⟩ := marked_started hm hp (hI _)
      have hc := hI d.intent.executionKey
      rw [Consistent.some_iff he] at hc
      rw [@Consistent.some_iff _ _ (m.ledger.row d.intent.executionKey) _ he]
      simp only [hst] at hc ⊢
      exact hc
    · have htouched : Deployment.Touched { m with applied := m.applied ++ [actuationRequest d.intent l] } k ↔
          m.Touched k := by
        simp only [Deployment.Touched,List.mem_append,List.mem_singleton]
        constructor
        · rintro ⟨req,hreq | rfl,hkey⟩
          · exact ⟨req,hreq,hkey⟩
          · exact absurd hkey.symm hk
        · rintro ⟨req,hreq,hkey⟩
          exact ⟨req,.inl hreq,hkey⟩
      have hc := hI k
      rw [← propext htouched] at hc
      exact hc

theorem consistent_run {s s' : Deployment} {t : History} {q : Step ScaleReconcileResult}
    (hr : Prog.Runs (world H) (d.program H) s t q s') (hI : ∀ k, Consistent H (s.Touched k) (s.ledger.row k)) :
    ∀ k, Consistent H (s'.Touched k) (s'.ledger.row k) := by
  refine hr.invariant (I := fun s => ∀ k, Consistent H (s.Touched k) (s.ledger.row k)) (reconcile_follows H d) hI ?_
  rintro u e r m m' hp ⟨now,_,_,_,hf⟩ hI hw
  exact consistent_call hp hf hI hw

theorem consistent_deliveries {P : Deployment → Delivery → Prop} {s : Deployment}
    (h : Deliveries H P Deployment.empty s) : ∀ k, Consistent H (s.Touched k) (s.ledger.row k) := by
  induction h with
  | refl => exact fun k => ⟨rfl,by rintro ⟨req,hreq,_⟩; cases hreq⟩
  | tail _ d _ hr ih => exact consistent_run hr ih

end

section
variable {H : Hashes} {d : Delivery} {k : String} {o : ScaleObservation}

variable {L : Ledger} {s' : Deployment} {intent : ScaleIntentRecord}

theorem observation_kept (ho : L.observations k = some o) (uuid : String) (c : LedgerCall) :
    (L.perform H uuid c).2.observations k = some o := by
  have hrow := perform_row (H := H) (L := L) k uuid c
  rw [← row_observation]
  generalize (L.perform H uuid c).2.row k = row' at hrow ⊢
  cases hrow with
  | observe intent execution observation t hk e r he hn hr hm => simp [hn] at ho
  | stray intent execution observation now hnow hk e r he hn hr hv hm => simp [hn] at ho
  | _ => exact ho

theorem observation_kept_call {s : Deployment} {c : Call} {r : c.Answer} (hw : world H s c r s')
    (ho : s.ledger.observations k = some o) : s'.ledger.observations k = some o := by
  cases c with
  | ledger c =>
    obtain ⟨uuid,_,hperform,_⟩ := hw
    have hkept := observation_kept (H := H) ho uuid c
    rw [hperform] at hkept
    exact hkept
  | getObservation key => exact hw.2 ▸ ho
  | decide i => exact (show s' = s from hw) ▸ ho
  | apply req =>
    cases hw
    exact ho

theorem observation_kept_deliveries {P : Deployment → Delivery → Prop} {s : Deployment}
    (h : Deliveries H P s s') (ho : s.ledger.observations k = some o) : s'.ledger.observations k = some o := by
  induction h with
  | refl => exact ho
  | tail _ d _ hr ih =>
    refine hr.invariant (I := fun s => s.ledger.observations k = some o) (reconcile_follows H d) ih ?_
    exact fun _ _ _ _ _ _ _ ho hw => observation_kept_call hw ho

def Refused (H : Hashes) (s : Deployment) (d : Delivery) (o : ScaleObservation) : Prop :=
  d.clock.instant = none ∨ d.controllerId ≠ d.intent.replicaWriterId ∨
  (∃ now, d.clock = .utc now ∧ d.intent.fence.expiresAt ≤ now) ∨
  (∃ bound, s.ledger.intents (d.intent.intentId,d.intent.intentRevision) = some bound ∧
    bound ≠ (d.intent.executionKey,H.identityDigest d.intent)) ∨
  (∃ e, s.ledger.executions d.intent.executionKey = some e ∧ e.identityDigest ≠ H.identityDigest d.intent) ∨
  (d.dryRun = true ∧ o.status ≠ .simulated)

private theorem persistIntent_error {e : ScaleExecutionRecord} {x : Raised}
    (he : L.executions intent.executionKey = some e) (h : (L.persistIntent H intent).1 = .error x) :
    (∃ bound, L.intents (intent.intentId,intent.intentRevision) = some bound ∧
      bound ≠ (intent.executionKey,H.identityDigest intent)) ∨ e.identityDigest ≠ H.identityDigest intent := by
  simp only [persistIntent,he] at h
  split_ifs at h with h1 h2
  · obtain ⟨hsome,hne⟩ := h1
    obtain ⟨bound,hb⟩ := Option.isSome_iff_exists.mp hsome
    exact .inl ⟨bound,hb,fun heq => hne (by rw [hb,heq])⟩
  · exact .inr h2

/-- The same requests and the same row of the key. -/
private def SameAt (k : String) (s m : Deployment) : Prop :=
  m.applied = s.applied ∧ m.ledger.row k = s.ledger.row k

private theorem validateDryRunReuse_observed {s : Deployment} {e : ScaleExecutionRecord} {dryRun : Bool} (ho :
    s.ledger.observations intent.executionKey = some o) (hst : e.state = .verified) :
    (validateDryRunReuse intent e dryRun).Meets (world H) (fun m _ => m = s) (fun m _ => m = s)
      (fun m _ => m = s ∧ dryRun = true ∧ o.status ≠ .simulated) s := by
  cases dryRun with
  | false => exact (rfl : s = s)
  | true =>
    simp only [validateDryRunReuse,hst,Bool.not_true,Bool.false_eq_true,if_false,if_true]
    refine ⟨rfl,?_⟩
    rintro r m ⟨rfl,rfl⟩
    simp only [getObservation,ho,Prog.ret_bind,Option.all_some]
    split_ifs with hsim
    · exact ⟨rfl,trivial,by simpa using hsim⟩
    · exact (rfl : m = m)

private theorem replayTerminalExecution_observed {s : Deployment} {e : ScaleExecutionRecord} {now : Int} (ho :
    s.ledger.observations intent.executionKey = some o) (hst : e.state = .verified) :
    (replayTerminalExecution H intent e now).Meets (world H) (fun m _ => m = s)
      (fun m a => m = s ∧ ∃ r, a = some r ∧ r.state = .verified ∧ r.observation = some o) (fun _ _ => False) s := by
  have hcond : ¬(e.state ≠ .observed ∧ e.state ≠ .verified) := by simp [hst]
  simp only [replayTerminalExecution,replayVerifiedOrObserved,hcond,if_false]
  refine ⟨rfl,?_⟩
  rintro r m ⟨rfl,rfl⟩
  simp only [getObservation,ho]
  exact ⟨rfl,_,rfl,rfl,rfl⟩

private theorem admitted_observed {s : Deployment} {e : ScaleExecutionRecord} {now : Int}
    (ho : s.ledger.observations d.intent.executionKey = some o)
    (he : s.ledger.executions d.intent.executionKey = some e) (hst : e.state = .verified) :
    (d.admitted H now).Meets (world H) (fun m _ => SameAt d.intent.executionKey s m)
      (fun m a => SameAt d.intent.executionKey s m ∧ a.state = .verified ∧ a.observation = some o)
      (fun m _ => SameAt d.intent.executionKey s m ∧ Refused H s d o) s := by
  refine ⟨⟨rfl,rfl⟩,?_⟩
  rintro r m ⟨uuid,_,hperform,happlied,_⟩
  have hpersist : s.ledger.persistIntent H d.intent = (r,m.ledger) := hperform
  have hsame : SameAt d.intent.executionKey s m := by
    refine ⟨happlied,?_⟩
    have hrow := persistIntent_row (H := H) (L := s.ledger) d.intent d.intent.executionKey
    rw [hpersist] at hrow
    rcases hrow with hrow | ⟨_,hn,_⟩
    · exact hrow
    · simp [he] at hn
  cases r with
  | error x =>
    refine ⟨hsame,.inr (.inr (.inr ?_))⟩
    rcases persistIntent_error (H := H) (x := x) he (by rw [hpersist]) with hbound | hident
    · exact .inl hbound
    · exact .inr (.inl ⟨e,he,hident⟩)
  | ok p =>
    have hpe : p.execution = e := by
      have hok := (persistIntent_ok (H := H) (L := s.ledger) (p := p) (by rw [hpersist])).2.2
      rw [he] at hok
      rcases hok with hok | ⟨hn,_⟩
      · exact (Option.some.inj hok).symm
      · cases hn
    have hst' : p.execution.state = .verified := by rw [hpe,hst]
    have ho' : m.ledger.observations d.intent.executionKey = some o := by
      rw [← row_observation,hsame.2]
      exact ho
    -- both remaining parts only read, and the second one returns the observation it reads
    simp only [Reconciler.ofExcept,Prog.ret_bind,Prog.bind_eq]
    refine (Prog.meets_bind _ _ m).mpr ((validateDryRunReuse_observed ho' hst').mono ?_ ?_ ?_)
    · rintro n _ rfl
      exact hsame
    · rintro n _ rfl
      refine (Prog.meets_bind _ _ n).mpr ((replayTerminalExecution_observed ho' hst').mono ?_ ?_ ?_)
      · rintro m _ rfl
        exact hsame
      · rintro m a ⟨rfl,r,rfl,hr⟩
        exact ⟨hsame,hr⟩
      · exact fun _ _ h => h.elim
    · rintro n _ ⟨rfl,hdry,hsim⟩
      exact ⟨hsame,.inr (.inr (.inr (.inr (.inr ⟨hdry,hsim⟩))))⟩

theorem observed_delivery {s : Deployment} {e : ScaleExecutionRecord} {t : History}
    {q : Step ScaleReconcileResult} (ho : s.ledger.observations d.intent.executionKey = some o)
    (he : s.ledger.executions d.intent.executionKey = some e) (hst : e.state = .verified)
    (hr : Prog.Runs (world H) (d.program H) s t q s') :
    s'.applied = s.applied ∧ s'.ledger.row d.intent.executionKey = s.ledger.row d.intent.executionKey ∧
    (∀ a, q = .ret a → a.state = .verified ∧ a.observation = some o) ∧ (∀ x, q = .raise x → Refused H s d o) := by
  have hmeets : (d.program H).Meets (world H) (fun m _ => SameAt d.intent.executionKey s m)
      (fun m a => SameAt d.intent.executionKey s m ∧ a.state = .verified ∧ a.observation = some o)
      (fun m _ => SameAt d.intent.executionKey s m ∧ Refused H s d o) s := by
    rcases program_cases H d with ⟨x,hp,hx⟩ | ⟨now,_,_,_,hp⟩
    · rw [hp]
      refine ⟨⟨rfl,rfl⟩,?_⟩
      rcases hx with hx | hx | hx
      · exact .inl hx
      · exact .inr (.inl hx)
      · exact .inr (.inr (.inl hx))
    · rw [hp]
      exact admitted_observed ho he hst
  have hend := hmeets.runs hr
  obtain ⟨happlied,hrow⟩ := hend.always (fun _ _ => id) (fun _ _ h => h.1) (fun _ _ h => h.1)
  exact ⟨happlied,hrow,fun _ ha => (hend.returned ha).2,fun _ hx => (hend.raised hx).2⟩

end

/-- After any deliveries, crashed or not, a stored observation is kept by every further one and is
that of the stored result; it is simulated only if the actuator was never called for the key; and a
later delivery calls no actuator, leaves the key as it is and returns the observation unless refused. -/
theorem observation_exactly_once (H : Hashes) {s s' : Deployment}
    (h : Deliveries H (fun _ _ => True) Deployment.empty s) (h' : Deliveries H (fun _ _ => True) s s')
    (k : String) (o : ScaleObservation) (ho : s.ledger.observations k = some o) : s'.ledger.observations k = some o ∧
    (∃ e r, s'.ledger.executions k = some e ∧ e.state = .verified ∧ e.result = some r ∧
      o.status = expectedStatus r.state ∧ o.scaled = r.scaled ∧ o.observedReplicas = r.observedReplicas ∧
      o.outcomeDigest = H.resultDigest r) ∧ (o.status = .simulated → ¬ s'.Touched k) ∧
    ∀ (d : Delivery) t q s'', d.intent.executionKey = k → Prog.Runs (world H) (d.program H) s' t q s'' →
      s''.applied = s'.applied ∧ s''.ledger.row k = s'.ledger.row k ∧
      (∀ a, q = .ret a → a.state = .verified ∧ a.observation = some o) ∧ (∀ x, q = .raise x → Refused H s' d o) := by
  have hkept := observation_kept_deliveries h' ho
  have hI : ∀ k, Consistent H (s'.Touched k) (s'.ledger.row k) := by
    induction h' with
    | refl => exact consistent_deliveries h
    | tail hd d _ hr ih => exact consistent_run hr (ih (observation_kept_deliveries hd ho))
  obtain ⟨e,r,he,hst,hr,hm,htouched⟩ := (hI k).observed hkept
  simp only [observationMatchesResult,Bool.and_eq_true,decide_eq_true_eq] at hm
  obtain ⟨⟨⟨hstatus,hscaled⟩,hreplicas⟩,hdigest⟩ := hm
  refine ⟨hkept,⟨e,r,he,hst,hr,hstatus,hscaled,hreplicas,hdigest⟩,?_,?_⟩
  · intro hsim
    refine htouched ?_
    rw [hsim] at hstatus
    rcases r.state_cases with hs | hs | hs
    · exact hs
    · simp [hs,expectedStatus] at hstatus
    · simp [hs,expectedStatus] at hstatus
  · rintro d t q s'' rfl hrun
    exact observed_delivery hkept he hst hrun

def freshUuid (used : List String) : String :=
  String.ofList (List.replicate (used.foldr (fun u n => max u.length n) 0 + 1) 'a')

theorem freshUuid_notMem (used : List String) : freshUuid used ∉ used := by
  have hle : ∀ (used : List String) u, u ∈ used → u.length ≤ used.foldr (fun u n => max u.length n) 0 := by
    intro used u hu
    induction used with
    | nil => cases hu
    | cons x used ih =>
      rcases List.mem_cons.mp hu with rfl | hu
      · exact le_max_left _ _
      · exact (ih hu).trans (le_max_right _ _)
  intro hmem
  have hlen := hle used _ hmem
  simp only [freshUuid,String.length_ofList,List.length_replicate] at hlen
  omega

/-- An environment to run deliveries in: a fixed policy decision, an actuator given by a function. -/
def respond (H : Hashes) (decision : ScalePolicyDecision) (actuator : ScaleActuationRequest → Actuation)
    (s : Deployment) : (c : Call) → c.Answer × Deployment
  | .ledger c =>
    let out := s.ledger.perform H (freshUuid s.uuids) c
    (out.1,⟨out.2,s.applied,freshUuid s.uuids :: s.uuids⟩)
  | .getObservation k => (s.ledger.getObservation k,s)
  | .decide _ => (.ok decision,s)
  | .apply req => (actuator req,{ s with applied := s.applied ++ [req] })

theorem respond_world (H : Hashes) (decision : ScalePolicyDecision) (actuator : ScaleActuationRequest → Actuation)
    (s : Deployment) (c : Call) :
    world H s c (respond H decision actuator s c).1 (respond H decision actuator s c).2 := by
  cases c with
  | ledger c => exact ⟨_,freshUuid_notMem _,rfl,rfl,rfl⟩
  | getObservation k => exact ⟨rfl,rfl⟩
  | decide i => exact (rfl : _ = s)
  | apply req => exact (rfl : _ = Deployment.mk _ _ _)

theorem Deliveries.drive {H : Hashes} {P : Deployment → Delivery → Prop} {s m : Deployment}
    (h : Deliveries H P s m) (d : Delivery) (hd : P m d) (decision : ScalePolicyDecision)
    (actuator : ScaleActuationRequest → Actuation) (n : Nat) :
    Deliveries H P s (Prog.drive (respond H decision actuator) n (d.program H) m).2 := by
  obtain ⟨t,ht⟩ := Prog.drive_runs (respond_world H decision actuator) n (d.program H) m
  exact .tail h d hd ht

namespace Sample

def allow : ScalePolicyDecision := ⟨"policy:allow",true,"allowed"⟩
def deliver (now : Int) (dryRun : Bool) : Delivery := ⟨.utc now,intent,"writer",dryRun,none⟩

def delivered : Deployment :=
  (Prog.drive (respond hashes allow fun _ => .returned succeeded) 8 ((deliver 0 false).program hashes)
    Deployment.empty).2

theorem delivered_deliveries : Deliveries hashes (fun _ _ => True) Deployment.empty delivered :=
  (Deliveries.refl _).drive (deliver 0 false) trivial allow _ 8

end Sample

open Sample in
/-- The observation of the sample's live delivery is kept by a dry run after it. -/
theorem delivered_observation :
    (Prog.drive (respond hashes allow fun _ => .returned succeeded) 8 ((deliver 1 true).program hashes)
      delivered).2.ledger.observations "key" =
      some { converged with observedAt := 0 } :=
  (observation_exactly_once hashes delivered_deliveries
    ((Deliveries.refl _).drive (deliver 1 true) trivial allow _ 8) "key" _ (by decide)).1

open Sample in
theorem dry_run_refused_after_delivery : Deliveries hashes (fun _ _ => True) Deployment.empty delivered ∧
    (delivered.ledger.observations "key").isSome = true ∧
    ∃ t s', Prog.Runs (world hashes) ((deliver 1 true).program hashes) delivered t
      (.raise ⟨.scaleIntentConflict,"dry-run cannot reuse an execution that may have scaled"⟩) s' := by
  refine ⟨delivered_deliveries,by decide,?_⟩
  obtain ⟨t,ht⟩ := Prog.drive_runs (respond_world hashes allow fun _ => .returned succeeded) 8
    ((deliver 1 true).program hashes) delivered
  exact ⟨t,_,ht⟩

end Arbora.Scaling
