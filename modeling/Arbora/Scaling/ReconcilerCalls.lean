import Arbora.Scaling.Reconciler

/-! The order of a delivery's calls: before each call, what the delivery has been answered so far. -/
namespace Arbora.Scaling
open Interaction Ledger Reconciler

/-- The arguments of one `reconcile` call and the clock reading it gets. -/
structure Delivery where
  clock : DateTime
  intent : ScaleIntentRecord
  controllerId : String
  dryRun : Bool
  breakGlass : Option BreakGlassAuthorization

def Delivery.program (H : Hashes) (d : Delivery) : Step ScaleReconcileResult :=
  reconcile H d.clock d.intent d.controllerId d.dryRun d.breakGlass

abbrev History := List (Event Call Call.Answer)

def Quiet (x : Event Call Call.Answer) : Prop :=
  match x.1 with
  | .ledger (.recordBreakGlass ..) => True
  | .ledger _ => False
  | .getObservation _ => True
  | .decide _ => True
  | .apply _ => False

/-- The delivery has persisted its intent, was answered `p`, and has written nothing since. -/
def Opened (d : Delivery) (h : History) (p : PersistedIntent) : Prop :=
  ∃ q, h = ⟨.ledger (.persistIntent d.intent),.ok p⟩ :: q ∧ ∀ x ∈ q, Quiet x

theorem Opened.quiet {d : Delivery} {h : History} {p : PersistedIntent} {x : Event Call Call.Answer}
    (ho : Opened d h p) (hx : Quiet x) : Opened d (h ++ [x]) p := by
  obtain ⟨q,rfl,hq⟩ := ho
  refine ⟨q ++ [x],rfl,?_⟩
  intro y hy
  rcases List.mem_append.mp hy with hy | hy
  · exact hq y hy
  · rw [List.mem_singleton.mp hy]
    exact hx

structure Startable (d : Delivery) (e : ScaleExecutionRecord) : Prop where
  unobserved : e.state ≠ .observed ∧ e.state ≠ .verified
  unresolved : e.state = .simulated ∨ e.state = .succeeded → e.result = none
  retryable : ∀ r, e.state = .failed → e.result = some r →
    r.retryable = true ∧ e.attempt < d.intent.retryPolicy.maxAttempts
  budget : e.state = .started → e.result = none → e.attempt < d.intent.retryPolicy.maxAttempts
  dry : d.dryRun = true → e.state = .persisted ∨ e.state = .simulated

def Replayable (d : Delivery) (e : ScaleExecutionRecord) (r : ScaleActuationResult) : Prop :=
  e.result = some r ∧ (e.state = .simulated ∨ e.state = .succeeded ∨
    (e.state = .failed ∧ (r.retryable = true → d.intent.retryPolicy.maxAttempts ≤ e.attempt)))

def Leased (d : Delivery) (now : Int) (h : History) (p : PersistedIntent) (l : ControllerLease) : Prop :=
  ∃ q, h = q ++ [⟨.ledger (.acquireControllerLease d.intent d.controllerId (.utc now)),.ok (some l)⟩] ∧
    Opened d q p ∧ Startable d p.execution

theorem Leased.startable {d : Delivery} {now : Int} {h : History} {p : PersistedIntent} {l : ControllerLease}
    (hl : Leased d now h p l) : Startable d p.execution := by
  obtain ⟨_,_,_,hs⟩ := hl
  exact hs

def Marked (d : Delivery) (now : Int) (h : History) (l : ControllerLease) (e : ScaleExecutionRecord) : Prop :=
  d.dryRun = false ∧ ∃ p q, Leased d now q p l ∧
    h = q ++ [⟨.ledger (.markStarted d.intent p.execution l (.utc now)),.ok e⟩]

/-- The delivery is about to record `r`: what a dry run simulates, or what follows an actuation. -/
def Recording (d : Delivery) (now : Int) (h : History) (l : ControllerLease) (e : ScaleExecutionRecord)
    (r : ScaleActuationResult) : Prop :=
  (d.dryRun = true ∧ r = simulatedResult d.intent ∧ ∃ p, Leased d now h p l ∧ e = p.execution) ∨
  (r.state ≠ .simulated ∧ ∃ q a, Marked d now q l e ∧
    h = q ++ [⟨.apply (actuationRequest d.intent l),a⟩])

def Follows (H : Hashes) (d : Delivery) (now : Int) (h : History) : Call → Prop
  | .ledger (.persistIntent i) => i = d.intent ∧ h = []
  | .ledger (.acquireControllerLease i c t) => i = d.intent ∧ c = d.controllerId ∧ t = .utc now ∧
      ∃ p, Opened d h p ∧ Startable d p.execution
  | .ledger (.markStarted i e l t) => i = d.intent ∧ t = .utc now ∧ d.dryRun = false ∧
      ∃ p, Leased d now h p l ∧ e = p.execution
  | .ledger (.recordResult i e l r t) => i = d.intent ∧ t = .utc now ∧ Recording d now h l e r
  | .ledger (.recordObservation i e o t) => i = d.intent ∧ t = .utc now ∧ ∃ r, o = observationOf H d.intent r now ∧
      ((∃ p, Opened d h p ∧ e = p.execution ∧ Replayable d e r) ∨
        ∃ q e' l, h = q ++ [⟨.ledger (.recordResult d.intent e' l r (.utc now)),.ok e⟩] ∧
          Recording d now q l e' r ∧
          ¬(r.state = .failed ∧ r.retryable = true ∧ l.attempt < d.intent.retryPolicy.maxAttempts))
  | .ledger (.recordBreakGlass i _ t) => i = d.intent ∧ t = .utc now ∧ ∃ p, Opened d h p
  | .getObservation k => k = d.intent.executionKey ∧ ∃ p, Opened d h p
  | .decide i => i = d.intent ∧ ∃ p, Opened d h p
  | .apply req => ∃ l e, Marked d now h l e ∧ req = actuationRequest d.intent l

/-- Every call of a part follows, and when it returns its answer is as `Q` says. -/
def Tracks (H : Hashes) (d : Delivery) (now : Int) {α : Type} (p : Step α) (Q : History → α → Prop)
    (h : History) : Prop :=
  p.Meets Prog.record (Follows H d now) Q (fun _ _ => True) h

section
variable {H : Hashes} {d : Delivery} {now : Int} {h : History} {α β : Type}

theorem tracks_raise (x : Raised) (Q : History → α → Prop) : Tracks H d now (.raise x) Q h := trivial

theorem tracks_bind {p : Step α} {f : α → Step β} {Q : History → α → Prop} {R : History → β → Prop}
    (hp : Tracks H d now p Q h) (hf : ∀ h' a, Q h' a → Tracks H d now (f a) R h') : Tracks H d now (p.bind f) R h :=
  hp.seq hf

theorem tracks_ledger {c : LedgerCall} {Q : History → c.Answer → Prop} (hc : Follows H d now h (.ledger c))
    (hq : ∀ a, Q (h ++ [⟨.ledger c,.ok a⟩]) a) : Tracks H d now (ledger c) Q h := by
  refine ⟨hc,?_⟩
  rintro r h' rfl
  cases r with
  | ok a => exact hq a
  | error x => trivial

theorem tracks_ask {e : Call} {Q : History → e.Answer → Prop} (hc : Follows H d now h e)
    (hq : ∀ a, Q (h ++ [⟨e,a⟩]) a) : Tracks H d now (.ask e) Q h := by
  refine ⟨hc,?_⟩
  rintro r h' rfl
  exact hq r

end

section
variable {H : Hashes} {d : Delivery} {now : Int} {h : History} {p : PersistedIntent}

section
variable (ho : Opened d h p)
include ho

private theorem validateDryRunReuse_tracks : Tracks H d now (validateDryRunReuse d.intent p.execution d.dryRun)
      (fun h' _ => Opened d h' p ∧ (d.dryRun = true → p.execution.state = .verified ∨
        p.execution.state = .persisted ∨ p.execution.state = .simulated)) h := by
  unfold validateDryRunReuse
  split_ifs with hd hv hs
  · refine ⟨ho,?_⟩
    intro hdry
    simp [hdry] at hd
  · refine tracks_bind (Q := fun h' _ => Opened d h' p) (tracks_ask ⟨rfl,p,ho⟩ fun a => ho.quiet trivial) ?_
    intro h' a ho'
    split_ifs
    · exact tracks_raise _ _
    · exact ⟨ho',fun _ => .inl hv⟩
  · exact tracks_raise _ _
  · refine ⟨ho,?_⟩
    intro _
    by_cases hp : p.execution.state = .persisted
    · exact .inr (.inl hp)
    · exact .inr (.inr (by_contra fun hn => hs ⟨hp,hn⟩))

private theorem replayVerifiedOrObserved_tracks : Tracks H d now (replayVerifiedOrObserved d.intent p.execution)
      (fun h' a => a = none → Opened d h' p ∧ p.execution.state ≠ .observed ∧ p.execution.state ≠ .verified) h := by
  unfold replayVerifiedOrObserved
  split_ifs with hs
  · exact fun _ => ⟨ho,hs⟩
  · refine tracks_bind (Q := fun _ _ => True) (tracks_ask ⟨rfl,p,ho⟩ fun _ => trivial) ?_
    intro h' a _
    cases a with
    | none => exact tracks_raise _ _
    | some o => exact fun hn => by cases hn

private theorem observeReplay_tracks {r : ScaleActuationResult} (hr : Replayable d p.execution r) (f :
    ScaleObservation → Option ScaleReconcileResult) (hf : ∀ o, f o ≠ none) {Q : History → Prop} :
    Tracks H d now (observeResult H d.intent p.execution r now >>= fun o => pure (f o))
      (fun h' a => a = none → Q h') h := by
  refine tracks_bind (Q := fun _ _ => True) (tracks_ledger ⟨rfl,rfl,r,rfl,.inl ⟨p,ho,rfl,hr⟩⟩ fun _ => trivial) ?_
  intro h' o _ hn
  exact absurd hn (hf o)

private theorem replayDurableSuccess_tracks : Tracks H d now (replayDurableSuccess H d.intent p.execution now)
      (fun h' a => a = none → Opened d h' p ∧
        (p.execution.state = .simulated ∨ p.execution.state = .succeeded → p.execution.result = none)) h := by
  unfold replayDurableSuccess
  split
  · rename_i hn
    exact fun _ => ⟨ho,fun _ => hn⟩
  · rename_i r hr
    split_ifs with hs
    · exact fun _ => ⟨ho,fun h => (h.elim hs.1 hs.2).elim⟩
    · refine observeReplay_tracks ho ⟨hr,?_⟩ _ (fun o => Option.some_ne_none _)
      by_cases h1 : p.execution.state = .simulated
      · exact .inl h1
      · exact .inr (.inl (by_contra fun h2 => hs ⟨h1,h2⟩))

private theorem replayTerminalFailure_tracks : Tracks H d now (replayTerminalFailure H d.intent p.execution now)
      (fun h' a => a = none → Opened d h' p ∧ ∀ r, p.execution.state = .failed → p.execution.result = some r →
        r.retryable = true ∧ p.execution.attempt < d.intent.retryPolicy.maxAttempts) h := by
  unfold replayTerminalFailure
  split
  · rename_i hn
    exact fun _ => ⟨ho,fun r _ hr => by simp [hn] at hr⟩
  · rename_i r hr
    split_ifs with hs hb
    · exact fun _ => ⟨ho,fun _ hf _ => absurd hf hs⟩
    · refine fun _ => ⟨ho,?_⟩
      intro r' _ hr'
      rw [hr] at hr'
      cases hr'
      exact hb
    · refine observeReplay_tracks ho ⟨hr,.inr (.inr ⟨not_not.mp hs,?_⟩)⟩ _ (fun o => Option.some_ne_none _)
      intro hret
      exact not_lt.mp fun hlt => hb ⟨hret,hlt⟩

private theorem rejectExhaustedRetryBudget_tracks : Tracks H d now (rejectExhaustedRetryBudget d.intent p.execution)
      (fun h' _ => Opened d h' p ∧ (p.execution.state = .started → p.execution.result = none →
        p.execution.attempt < d.intent.retryPolicy.maxAttempts)) h := by
  unfold rejectExhaustedRetryBudget
  split_ifs with hb
  · exact tracks_raise _ _
  · exact ⟨ho,fun hs hr => not_le.mp fun hle => hb ⟨hs,hr,hle⟩⟩

/-- A replay that gives nothing back has read a record to go on from. -/
private theorem replayTerminalExecution_tracks (hdry : d.dryRun = true → p.execution.state = .verified ∨
      p.execution.state = .persisted ∨ p.execution.state = .simulated) :
    Tracks H d now (replayTerminalExecution H d.intent p.execution now)
      (fun h' a => a = none → Opened d h' p ∧ Startable d p.execution) h := by
  refine tracks_bind (replayVerifiedOrObserved_tracks ho) ?_
  rintro h1 (_ | r) hq
  · obtain ⟨ho1,hunobserved⟩ := hq rfl
    refine tracks_bind (replayDurableSuccess_tracks ho1) ?_
    rintro h2 (_ | r) hq
    · obtain ⟨ho2,hunresolved⟩ := hq rfl
      refine tracks_bind (replayTerminalFailure_tracks ho2) ?_
      rintro h3 (_ | r) hq
      · obtain ⟨ho3,hretryable⟩ := hq rfl
        refine tracks_bind (rejectExhaustedRetryBudget_tracks ho3) ?_
        rintro h4 _ ⟨ho4,hbudget⟩ _
        refine ⟨ho4,hunobserved,hunresolved,hretryable,hbudget,?_⟩
        intro hd
        exact (hdry hd).resolve_left hunobserved.2
      · exact fun hn => by cases hn
    · exact fun hn => by cases hn
  · exact fun hn => by cases hn

private theorem decidePolicyAndBreakGlass_tracks :
    Tracks H d now (decidePolicyAndBreakGlass d.intent p d.breakGlass now)
      (fun h' a => a.1 = none → Opened d h' p) h := by
  refine ⟨⟨rfl,p,ho⟩,?_⟩
  rintro r h' rfl
  cases r with
  | error x => trivial
  | ok decision =>
    have ho' : Opened d (h ++ [⟨Call.decide d.intent,.ok decision⟩]) p := ho.quiet trivial
    simp only [Reconciler.ofExcept,Prog.ret_bind]
    split_ifs with hallowed
    · exact fun _ => ho'
    · cases d.breakGlass with
      | none => exact fun hn => by cases hn
      | some authorization =>
        refine tracks_bind (Q := fun h'' _ => Opened d h'' p) ?_ ?_
        · unfold validateBreakGlass
          split_ifs <;> first | exact tracks_raise _ _ | exact ho'
        · intro h'' _ ho''
          refine tracks_bind (Q := fun h'' _ => Opened d h'' p)
            (tracks_ledger ⟨rfl,rfl,p,ho''⟩ fun a => ho''.quiet trivial) ?_
          exact fun h3 a ho3 _ => ho3

end

private theorem executeDryRun_tracks {l : ControllerLease} (hl : Leased d now h p l) (hd : d.dryRun = true)
    (audit : Option BreakGlassAudit) :
    Tracks H d now (executeDryRun H d.intent p l audit now) (fun _ _ => True) h := by
  have hrec : Recording d now h l p.execution (simulatedResult d.intent) := .inl ⟨hd,rfl,p,hl,rfl⟩
  refine tracks_bind (tracks_ledger (Q := fun h' e => h' = h ++ [⟨.ledger (.recordResult d.intent p.execution l
    (simulatedResult d.intent) (.utc now)),.ok e⟩]) ⟨rfl,rfl,hrec⟩ fun _ => rfl) ?_
  rintro h' e rfl
  refine tracks_bind (Q := fun _ _ => True) (tracks_ledger ⟨rfl,rfl,_,rfl,.inr ⟨h,_,l,rfl,hrec,?_⟩⟩ fun _ => trivial)
    fun _ _ _ => trivial
  rintro ⟨hs,_⟩
  cases hs

private theorem invokeActuator_tracks {l : ControllerLease} {e : ScaleExecutionRecord} (hm : Marked d now h l e) :
    Tracks H d now (invokeActuator d.intent (actuationRequest d.intent l))
      (fun h' r => Recording d now h' l e r) h := by
  refine ⟨⟨l,e,hm,rfl⟩,?_⟩
  rintro a h' rfl
  have hrec (r : ScaleActuationResult) (hr : r.state ≠ .simulated) :
      Recording d now (h ++ [⟨.apply (actuationRequest d.intent l),a⟩]) l e r := .inr ⟨hr,h,a,hm,rfl⟩
  cases a with
  | raised text => exact hrec _ (show ScaleIntentState.failed ≠ .simulated by decide)
  | untyped => exact tracks_raise _ _
  | returned r =>
    simp only [Prog.ret_bind]
    split_ifs with hs hobs
    · exact tracks_raise _ _
    · exact hrec _ (show ScaleIntentState.failed ≠ .simulated by decide)
    · exact hrec r hs

private theorem executeLive_tracks {l : ControllerLease} (hl : Leased d now h p l) (hd : d.dryRun = false)
    (audit : Option BreakGlassAudit) : Tracks H d now (executeLive H d.intent p l audit now) (fun _ _ => True) h := by
  refine tracks_bind (tracks_ledger (Q := fun h' e => Marked d now h' l e) ⟨rfl,rfl,hd,p,hl,rfl⟩
    fun e => ⟨hd,p,h,hl,rfl⟩) ?_
  intro h1 started hm
  refine tracks_bind (invokeActuator_tracks hm) ?_
  intro h2 r hrec
  refine tracks_bind (tracks_ledger (Q := fun h' e => h' = h2 ++ [⟨.ledger (.recordResult d.intent started l r
    (.utc now)),.ok e⟩]) ⟨rfl,rfl,hrec⟩ fun _ => rfl) ?_
  rintro h3 e rfl
  split_ifs with hretry
  · trivial
  · exact tracks_bind (Q := fun _ _ => True)
      (tracks_ledger ⟨rfl,rfl,r,rfl,.inr ⟨h2,started,l,rfl,hrec,hretry⟩⟩ fun _ => trivial) fun _ _ _ => trivial

private theorem proceed_tracks (ho : Opened d h p) (hs : Startable d p.execution) :
    Tracks H d now (proceed H d.intent d.controllerId d.dryRun d.breakGlass p now) (fun _ _ => True) h := by
  refine tracks_bind (decidePolicyAndBreakGlass_tracks ho) ?_
  rintro h1 ⟨early,audit⟩ hq
  cases early with
  | some r => trivial
  | none =>
    have ho1 := hq rfl
    refine tracks_bind (tracks_ledger (Q := fun h' a => ∀ l, a = some l → Leased d now h' p l)
      ⟨rfl,rfl,rfl,p,ho1,hs⟩ ?_) ?_
    · rintro a l rfl
      exact ⟨h1,rfl,ho1,hs⟩
    · rintro h2 (_ | l) hl
      · exact tracks_raise _ _
      · cases hd : d.dryRun with
        | true => exact executeDryRun_tracks (hl l rfl) hd audit
        | false => exact executeLive_tracks (hl l rfl) hd audit

end

/-- The delivery past its preflight. -/
def Delivery.admitted (H : Hashes) (d : Delivery) (now : Int) : Step ScaleReconcileResult := do
  let persisted ← ledger (.persistIntent d.intent)
  validateDryRunReuse d.intent persisted.execution d.dryRun
  if let some result ← replayTerminalExecution H d.intent persisted.execution now then
    return result
  proceed H d.intent d.controllerId d.dryRun d.breakGlass persisted now

theorem program_cases (H : Hashes) (d : Delivery) : (∃ x, d.program H = .raise x ∧
      (d.clock.instant = none ∨ d.controllerId ≠ d.intent.replicaWriterId ∨
        ∃ now, d.clock = .utc now ∧ d.intent.fence.expiresAt ≤ now)) ∨
    ∃ now, d.clock = .utc now ∧ d.controllerId = d.intent.replicaWriterId ∧
      now < d.intent.fence.expiresAt ∧ d.program H = d.admitted H now := by
  unfold Delivery.program reconcile reconcilePreflight
  cases hclock : d.clock with
  | naive => exact .inl ⟨_,rfl,.inl rfl⟩
  | outside => exact .inl ⟨_,rfl,.inl rfl⟩
  | utc now =>
    simp only [aware,Reconciler.ofExcept,Prog.bind_eq,Prog.ret_bind]
    by_cases hwriter : d.controllerId = d.intent.replicaWriterId
    · simp only [hwriter,ne_eq,not_true,if_false]
      by_cases hfence : d.intent.fence.expiresAt ≤ now
      · simp only [hfence,if_true]
        exact .inl ⟨_,rfl,.inr (.inr ⟨now,rfl,hfence⟩)⟩
      · simp only [hfence,if_false]
        refine .inr ⟨now,rfl,trivial,not_le.mp hfence,?_⟩
        simp only [Delivery.admitted,hwriter]
        rfl
    · simp only [ne_eq,hwriter,not_false_eq_true,if_true]
      exact .inl ⟨_,rfl,.inr (.inl trivial)⟩

theorem reconcile_follows (H : Hashes) (d : Delivery) : (d.program H).Meets Prog.record
      (fun h c => ∃ now, d.clock = .utc now ∧ d.controllerId = d.intent.replicaWriterId ∧
        now < d.intent.fence.expiresAt ∧ Follows H d now h c) (fun _ _ => True) (fun _ _ => True) [] := by
  rcases program_cases H d with ⟨x,hp,_⟩ | ⟨now,hclock,hwriter,hfence,hp⟩
  · rw [hp]
    trivial
  · have hmain : Tracks H d now (d.admitted H now) (fun _ _ => True) [] := by
      refine tracks_bind (tracks_ledger (Q := fun h' p => Opened d h' p) ⟨rfl,rfl⟩ ?_) ?_
      · exact fun p => ⟨[],rfl,by simp⟩
      · intro h1 p ho
        refine tracks_bind (validateDryRunReuse_tracks ho) ?_
        rintro h2 _ ⟨ho2,hdry⟩
        refine tracks_bind (replayTerminalExecution_tracks ho2 hdry) ?_
        rintro h3 (_ | r) hq
        · obtain ⟨ho3,hs⟩ := hq rfl
          exact proceed_tracks ho3 hs
        · trivial
    rw [hp]
    refine hmain.mono ?_ (fun _ _ => id) (fun _ _ => id)
    intro h c hc
    exact ⟨now,hclock,hwriter,hfence,hc⟩

end Arbora.Scaling
