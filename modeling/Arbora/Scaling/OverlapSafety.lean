import Arbora.Scaling.ReconcilerInterleaving

/-! When overlapping deliveries of one intent never actuate after a terminal result. -/
namespace Arbora.Scaling
open Interaction Ledger Reconciler

/-- A `record_result` of a success or a simulation, or a `record_observation`, that is answered. -/
def settles : Event Call Call.Answer → Bool
  | ⟨.ledger (.recordResult _ _ _ r _),.ok _⟩ => r.state == .succeeded || r.state == .simulated
  | ⟨.ledger (.recordObservation ..),.ok _⟩ => true
  | _ => false

def commits : Event Call Call.Answer → Bool
  | ⟨.ledger (.markStarted ..),.ok _⟩ => true
  | ⟨.apply _,_⟩ => true
  | _ => false

def simulates : Event Call Call.Answer → Bool
  | ⟨.ledger (.recordResult _ _ _ r _),.ok _⟩ => r.state == .simulated
  | _ => false

/-- Nothing `bad` was called since delivery `i` persisted the intent. -/
def NoneSince {ι : Type} (bad : Event Call Call.Answer → Bool) (i : ι) (log : Log ι) : Prop :=
  ∀ xs x ys, log = xs ++ (i,x) :: ys → (persistedBy x).isSome = true → ∀ y ∈ ys, bad y.2 = false

/-- Nothing is settled between a delivery's `persist_intent` and its start or its actuation, and
no actuation comes between a dry run's `persist_intent` and its result. -/
def Undisturbed {ι : Type} (log : Log ι) : Prop :=
  ∀ xs i x ys, log = xs ++ (i,x) :: ys →
    (commits x = true → NoneSince settles i xs) ∧ (simulates x = true → NoneSince isApply i xs)

section
variable {ι : Type} {bad : Event Call Call.Answer → Bool} {i : ι} {log : Log ι} {y : ι × Event Call Call.Answer}

theorem NoneSince.init (h : NoneSince bad i (log ++ [y])) : NoneSince bad i log := by
  intro xs x ys hlog hx z hz
  refine h xs x (ys ++ [y]) ?_ hx z (List.mem_append_left _ hz)
  rw [hlog]
  simp

theorem NoneSince.last {x : Event Call Call.Answer} (h : NoneSince bad i (log ++ [y])) (hmem : (i,x) ∈ log)
    (hx : (persistedBy x).isSome = true) : bad y.2 = false := by
  obtain ⟨xs,ys,hlog⟩ := List.append_of_mem hmem
  refine h xs x (ys ++ [y]) ?_ hx y (List.mem_append_right _ (List.mem_singleton.mpr rfl))
  rw [hlog]
  simp

theorem Undisturbed.init {rest : Log ι} (h : Undisturbed (log ++ rest)) : Undisturbed log := by
  intro xs j x ys hlog
  refine h xs j x (ys ++ rest) ?_
  rw [hlog]
  simp

theorem Undisturbed.last {x : Event Call Call.Answer} (h : Undisturbed (log ++ [(i,x)])) :
    (commits x = true → NoneSince settles i log) ∧ (simulates x = true → NoneSince isApply i log) :=
  h log i x [] rfl

end

/-- What holds besides the trace as long as the log is undisturbed. -/
structure Guarded {ι : Type} (intent : ScaleIntentRecord) (ds : ι → Delivery) (log : Log ι) (s : Deployment) :
    Prop where
  started : ∀ e, s.ledger.executions intent.executionKey = some e → e.state = .started →
    s.ledger.observations intent.executionKey = none
  exhausted : (s.ledger.observations intent.executionKey).isSome = true →
    ∀ e r, s.ledger.executions intent.executionKey = some e → e.result = some r → r.state = .failed →
      r.retryable = true → intent.retryPolicy.maxAttempts ≤ e.attempt
  unsettled : ∀ i x p, (i,x) ∈ log → persistedBy x = some p → Startable (ds i) p.execution →
    NoneSince settles i log → ¬ Terminal (s.ledger.row intent.executionKey)
  untouched : ∀ i x p, (i,x) ∈ log → persistedBy x = some p → p.execution.state = .persisted →
    NoneSince isApply i log → ∀ y ∈ log, isApply y.2 = false
  simulated : ∀ e r, s.ledger.executions intent.executionKey = some e → e.result = some r →
    r.state = .simulated → ∀ y ∈ log, isApply y.2 = false
  observed : ∀ o, s.ledger.observations intent.executionKey = some o → o.status = .simulated →
    ∀ y ∈ log, isApply y.2 = false
  marks : ∀ x ∈ log, ∀ l e, markedBy x.2 = some (l,e) → e.attempt = l.attempt

section
variable {H : Hashes} {L : Ledger} {k uuid : String} {c : LedgerCall} {d : Delivery} {row : Row}
  {e : ScaleExecutionRecord}

theorem unsettled_of_not_terminal (hs : WellShaped row) (ht : ¬ Terminal row) (he : row.execution = some e) :
    settledState e.state = false := by
  have hshape := hs.execution e he
  unfold Shaped at hshape
  cases hst : e.state with
  | simulated =>
    simp only [hst] at hshape
    obtain ⟨r,hr,hsim⟩ := hshape
    exact absurd (.inr ⟨e,r,he,hr,.inr hsim⟩) ht
  | succeeded =>
    simp only [hst] at hshape
    obtain ⟨r,hr,hsucc⟩ := hshape
    exact absurd (.inr ⟨e,r,he,hr,.inl hsucc⟩) ht
  | verified => exact absurd (.inl (hs.verified e he hst)) ht
  | observed => simp [hst] at hshape
  | _ => rfl

theorem terminal_not_startable (hs : WellShaped row)
    (hstarted : ∀ e, row.execution = some e → e.state = .started → row.observation = none)
    (hexhausted : row.observation.isSome = true → ∀ e r, row.execution = some e → e.result = some r →
      r.state = .failed → r.retryable = true → d.intent.retryPolicy.maxAttempts ≤ e.attempt)
    (ht : Terminal row) (he : row.execution = some e) : ¬ Startable d e := by
  intro hstart
  have hshape := hs.execution e he
  unfold Shaped at hshape
  have hresult (hfail : ∀ r, e.result = some r → r.state = .failed) : row.observation.isSome = true := by
    rcases ht with ho | ⟨e',r,he',hr,hst⟩
    · exact ho
    · rw [he] at he'
      cases he'
      have hf := hfail r hr
      rcases hst with hst | hst <;> simp [hst] at hf
  cases hst : e.state with
  | persisted =>
    simp only [hst] at hshape
    have ho := hresult fun r hr => by simp [hshape] at hr
    obtain ⟨e',r,he',hr⟩ := hs.observed ho
    rw [he] at he'
    cases he'
    simp [hshape] at hr
  | started =>
    simp only [hst] at hshape
    have ho := hresult hshape
    simp [hstarted e he hst] at ho
  | simulated =>
    simp only [hst] at hshape
    obtain ⟨r,hr,_⟩ := hshape
    simp [hstart.unresolved (.inl hst)] at hr
  | succeeded =>
    simp only [hst] at hshape
    obtain ⟨r,hr,_⟩ := hshape
    simp [hstart.unresolved (.inr hst)] at hr
  | failed =>
    simp only [hst] at hshape
    obtain ⟨r,hr,hf⟩ := hshape
    have ho := hresult fun r' hr' => by
      rw [hr] at hr'
      cases hr'
      exact hf
    obtain ⟨hret,hlt⟩ := hstart.retryable r hst hr
    have := hexhausted ho e r he hr hf hret
    omega
  | observed => exact hstart.unobserved.1 hst
  | verified => exact hstart.unobserved.2 hst
  | denied => simp [hst] at hshape

theorem terminal_origin (hnow : ∀ i e o now, c = .recordObservation i e o now → now.instant ≠ none)
    (ht : Terminal ((L.perform H uuid c).2.row k)) :
    Terminal (L.row k) ∨ settles ⟨.ledger c,(L.perform H uuid c).1⟩ = true := by
  cases hr : (L.perform H uuid c).1 with
  | error x =>
    rcases perform_error (k := k) hr with hrow | ⟨i,e,o,now,hc,hnone⟩
    · rw [hrow] at ht
      exact .inl ht
    · exact absurd hnone (hnow i e o now hc)
  | ok a =>
    have hrow := perform_row (H := H) (L := L) k uuid c
    generalize (L.perform H uuid c).2.row k = row' at hrow ht
    cases hrow with
    | stay => exact .inl ht
    | persist intent hk hn =>
      rcases ht with ho | ⟨e',r,he',hres,_⟩
      · exact .inl (.inl ho)
      · cases he'
        cases hres
    | lease intent controllerId now hk e l t ht' he hx ha hid => exact .inl ht
    | start intent execution lease now hk e t held hl hid he hset hf =>
      rcases ht with ho | ⟨e',r,he',hres,hst⟩
      · exact .inl (.inl ho)
      · cases he'
        exact .inl (.inr ⟨e,r,he,hres,hst⟩)
    | result intent execution lease result now hk e t held hl hid he hw hc hid' =>
      rcases ht with ho | ⟨e',r,he',hres,hst⟩
      · exact .inl (.inl ho)
      · cases he'
        cases hres
        right
        rcases hst with hst | hst <;> simp [settles,hst]
    | observe intent execution observation t hk e r he hn hres hm => exact .inr rfl
    | stray intent execution observation now hnone hk e r he hn hres hv hm => exact absurd hnone (hnow _ _ _ _ rfl)

theorem simulated_origin {r : ScaleActuationResult}
    (hnow : ∀ i e o now, c = .recordObservation i e o now → now.instant ≠ none)
    (he : (L.perform H uuid c).2.executions k = some e) (hres : e.result = some r) (hsim : r.state = .simulated) :
    (∃ e', L.executions k = some e' ∧ e'.result = some r) ∨ simulates ⟨.ledger c,(L.perform H uuid c).1⟩ = true := by
  rw [← row_execution] at he
  cases hr : (L.perform H uuid c).1 with
  | error x =>
    rcases perform_error (k := k) hr with hrow | ⟨i,e,o,now,hc,hnone⟩
    · rw [hrow] at he
      exact .inl ⟨e,he,hres⟩
    · exact absurd hnone (hnow i e o now hc)
  | ok a =>
    have hrow := perform_row (H := H) (L := L) k uuid c
    generalize (L.perform H uuid c).2.row k = row' at hrow he
    cases hrow with
    | persist intent hk hn =>
      cases he
      cases hres
    | start intent execution lease now hk e' t held hl hid he' hset hf =>
      cases he
      exact .inl ⟨e',he',hres⟩
    | result intent execution lease result now hk e' t held hl hid he' hw hc hid' =>
      cases he
      cases hres
      exact .inr (by simp [simulates,hsim])
    | observe intent execution observation t hk e' r' he' hn hres' hm =>
      cases he
      exact .inl ⟨e',he',hres⟩
    | _ => exact .inl ⟨e,he,hres⟩

theorem observation_origin {o : ScaleObservation} (ho : (L.perform H uuid c).2.observations k = some o) :
    L.observations k = some o ∨
      ∃ e r, L.executions k = some e ∧ e.result = some r ∧ observationMatchesResult H o r = true := by
  have hrow := perform_row (H := H) (L := L) k uuid c
  rw [← row_observation] at ho
  generalize (L.perform H uuid c).2.row k = row' at hrow ho
  cases hrow with
  | observe intent execution observation t hk e r he hn hres hm =>
    cases ho
    exact .inr ⟨e,r,he,hres,hm⟩
  | stray intent execution observation now hnone hk e r he hn hres hv hm =>
    cases ho
    exact .inr ⟨e,r,he,hres,hm⟩
  | _ => exact .inl ho

theorem guarded_rows {n : Nat} {a : c.Answer} (hr : (L.perform H uuid c).1 = .ok a) (hs : WellShaped (L.row k))
    (hnow : ∀ i e o now, c = .recordObservation i e o now → now.instant ≠ none)
    (hstarted : ∀ e, L.executions k = some e → e.state = .started → L.observations k = none)
    (hexhausted : (L.observations k).isSome = true → ∀ e r, L.executions k = some e → e.result = some r →
      r.state = .failed → r.retryable = true → n ≤ e.attempt)
    (hstart : ∀ i e l t, c = .markStarted i e l t → ¬ Terminal (L.row k))
    (hobserve : ∀ i e o t, c = .recordObservation i e o t → ∀ e' r, L.executions k = some e' → e'.result = some r →
      observationMatchesResult H o r = true → r.state = .failed → r.retryable = true → n ≤ e'.attempt) :
    (∀ e, (L.perform H uuid c).2.executions k = some e → e.state = .started →
      (L.perform H uuid c).2.observations k = none) ∧
    ((((L.perform H uuid c).2.observations k).isSome = true) → ∀ e r, (L.perform H uuid c).2.executions k = some e →
      e.result = some r → r.state = .failed → r.retryable = true → n ≤ e.attempt) := by
  simp only [← row_execution,← row_observation]
  have hrow := perform_row (H := H) (L := L) k uuid c
  generalize (L.perform H uuid c).2.row k = row' at hrow ⊢
  cases hrow with
  | stay => exact ⟨hstarted,hexhausted⟩
  | persist intent hk hn =>
    refine ⟨?_,?_⟩
    · rintro e ⟨⟩ hst
      cases hst
    · rintro _ e r ⟨⟩ hres
      cases hres
  | lease intent controllerId now hk e l t ht he hx ha hid => exact ⟨hstarted,hexhausted⟩
  | start intent execution lease now hk e t held hl hid he hset hf =>
    have hnone : L.observations k = none := by
      by_contra ho
      exact hstart _ _ _ _ rfl (.inl (Option.isSome_iff_ne_none.mpr ho))
    refine ⟨fun _ _ _ => hnone,?_⟩
    intro ho
    simp [hnone] at ho
  | result intent execution lease result now hk e t held hl hid he hw hc hid' =>
    refine ⟨?_,?_⟩
    · rintro e' ⟨⟩ hst
      rcases result.state_cases with h | h | h
      all_goals
        rw [show (withResult e lease result t).state = result.state from rfl,h] at hst
        cases hst
    · rintro ho e' r ⟨⟩ hres hf hret
      cases hres
      -- an observed record is written over only by its own result
      rcases hw with hn | ⟨hsame,_⟩ | ⟨kept,_,_,_,hst,_⟩
      · obtain ⟨e',r,he',hr'⟩ := hs.observed ho
        rw [row_execution,he] at he'
        cases he'
        simp [hn] at hr'
      · exact hexhausted ho e result he hsame hf hret
      · have hnone := hstarted e he hst
        simp [hnone] at ho
  | observe intent execution observation t hk e r he hn hres hm =>
    refine ⟨?_,?_⟩
    · rintro e' ⟨⟩ hst
      cases hst
    · rintro _ e' r' ⟨⟩ hres' hf hret
      rw [show (withObservation e observation t).result = e.result from rfl,hres] at hres'
      cases hres'
      exact hobserve _ _ _ _ rfl e r he hres hm hf hret
  | stray intent execution observation now hnone hk e r he hn hres hv hm => exact absurd hnone (hnow _ _ _ _ rfl)

end

theorem simulated_of_matches {H : Hashes} {o : ScaleObservation} {r : ScaleActuationResult}
    (hm : observationMatchesResult H o r = true) (ho : o.status = .simulated) : r.state = .simulated := by
  simp only [observationMatchesResult,Bool.and_eq_true,decide_eq_true_eq] at hm
  have hstatus := hm.1.1.1
  rw [ho] at hstatus
  rcases r.state_cases with h | h | h
  · exact h
  · simp [h,expectedStatus] at hstatus
  · simp [h,expectedStatus] at hstatus

section
variable {H : Hashes} {ι : Type} [DecidableEq ι] {intent : ScaleIntentRecord} {ds : ι → Delivery} {log : Log ι}
  {s s' : Deployment} {i : ι} {now : Int}

theorem commit_not_terminal {c : Call} {r : c.Answer} (hg : Guarded intent ds log s)
    (hf : Follows H (ds i) now (Pool.own i log) c) (hu : Undisturbed (log ++ [(i,⟨c,r⟩)]))
    (hc : commits ⟨c,r⟩ = true) : ¬ Terminal (s.ledger.row intent.executionKey) := by
  have hsince := hu.last.1 hc
  have hstart : ∃ p x, x ∈ Pool.own i log ∧ persistedBy x = some p ∧ Startable (ds i) p.execution := by
    cases c with
    | ledger c =>
      cases c with
      | markStarted i' e l t =>
        obtain ⟨_,_,_,p,hl,_⟩ := hf
        obtain ⟨⟨x,hx,hp⟩,_⟩ := hl.mem
        exact ⟨p,x,hx,hp,hl.startable⟩
      | _ => simp [commits] at hc
    | apply req =>
      obtain ⟨l,e,hm,_⟩ := hf
      exact hm.mem.1
    | getObservation key => simp [commits] at hc
    | decide i' => simp [commits] at hc
  obtain ⟨p,x,hx,hp,hs⟩ := hstart
  exact hg.unsettled i x p (Pool.mem_own.mp hx) hp hs hsince

/-- What a delivery observes as a retryable failure has used up its budget. -/
theorem observed_exhausted {e : ScaleExecutionRecord} {o : ScaleObservation} {i' : ScaleIntentRecord} {t : DateTime}
    (hds : (ds i).intent = intent) (ht : Traced intent.executionKey log s) (hg : Guarded intent ds log s)
    (hf : Follows H (ds i) now (Pool.own i log) (.ledger (.recordObservation i' e o t)))
    {e' : ScaleExecutionRecord} {r : ScaleActuationResult}
    (he' : s.ledger.executions intent.executionKey = some e') (hr : e'.result = some r)
    (hm : observationMatchesResult H o r = true) (hfail : r.state = .failed) (hret : r.retryable = true) :
    intent.retryPolicy.maxAttempts ≤ e'.attempt := by
  obtain ⟨_,_,r₀,rfl,hcase⟩ := hf
  have hfail₀ : r₀.state = .failed := by
    simp only [observationMatchesResult,observationOf,Bool.and_eq_true] at hm
    have hstatus := hm.1.1.1
    rcases r₀.state_cases with h | h | h <;> simp [h,hfail,expectedStatus] at hstatus ⊢
  -- a record answered before is followed by the current one
  have hlater {x : Event Call Call.Answer} {e₀ : ScaleExecutionRecord} (hx : x ∈ Pool.own i log)
      (he₀ : storedBy x = some e₀) : Shaped e₀ ∧ e₀.attempt ≤ e'.attempt ∧
        (e₀.result = some r₀ → r₀.retryable = true) := by
    obtain ⟨hshape,e₁,he₁,hatt,hkept,_⟩ := ht.records _ (Pool.mem_own.mp hx) e₀ he₀
    rw [row_execution,he'] at he₁
    cases he₁
    refine ⟨hshape,hatt,?_⟩
    intro hres
    by_contra hno
    have hsame := hkept r₀ hres (by simpa using hno)
    rw [hr] at hsame
    cases hsame
    exact hno hret
  rcases hcase with ⟨p,ho,rfl,hres,hrep⟩ | ⟨q,e₀,l,hq,hrec,hbudget⟩
  · obtain ⟨x,hx,hp⟩ := ho.mem
    obtain ⟨hshape,hatt,hretry⟩ := hlater hx (storedBy_persistedBy hp)
    rcases hrep with hs | hs | ⟨_,hbudget⟩
    · simp [Shaped,hs,hres,hfail₀] at hshape
    · simp [Shaped,hs,hres,hfail₀] at hshape
    · rw [hds] at hbudget
      exact (hbudget (hretry hres)).trans hatt
  · have hx : (⟨.ledger (.recordResult (ds i).intent e₀ l r₀ (.utc now)),.ok e⟩ : Event Call Call.Answer) ∈
        Pool.own i log := by
      rw [hq]
      exact List.mem_append_right _ (List.mem_singleton.mpr rfl)
    have hretry := (hlater hx rfl).2.2 (ht.results _ (Pool.mem_own.mp hx) r₀ e rfl)
    have hle : intent.retryPolicy.maxAttempts ≤ l.attempt := by
      rw [hds] at hbudget
      by_contra hlt
      exact hbudget ⟨hfail₀,hretry,not_le.mp hlt⟩
    rcases hrec with ⟨_,rfl,_⟩ | ⟨_,q',a,hmark,rfl⟩
    · cases hfail₀
    · obtain ⟨_,_,y,hy,hm'⟩ := hmark.mem
      have hy' : y ∈ Pool.own i log := by
        rw [hq]
        exact List.mem_append_left _ (List.mem_append_left _ hy)
      have hatt := hg.marks _ (Pool.mem_own.mp hy') l e₀ hm'
      exact (hle.trans hatt.ge).trans (hlater hy' (storedBy_markedBy hm')).2.1

theorem simulates_untouched {c : LedgerCall} {r : Except Raised c.Answer} (ht : Traced intent.executionKey log s)
    (hg : Guarded intent ds log s) (hf : Follows H (ds i) now (Pool.own i log) (.ledger c))
    (hu : Undisturbed (log ++ [(i,⟨.ledger c,r⟩)])) (hc : simulates ⟨.ledger c,r⟩ = true) :
    ∀ y ∈ log, isApply y.2 = false := by
  have hsince := hu.last.2 hc
  cases c with
  | recordResult i' e l res t =>
    have hsim : res.state = .simulated := by
      cases r with
      | error x => simp [simulates] at hc
      | ok e' => simpa [simulates] using hc
    obtain ⟨_,_,hrec⟩ := hf
    rcases hrec with ⟨hdry,rfl,p,hl,_⟩ | ⟨hne,_⟩
    · obtain ⟨⟨x,hx,hp⟩,_⟩ := hl.mem
      have hmem := Pool.mem_own.mp hx
      rcases hl.startable.dry hdry with hst | hst
      · exact hg.untouched i x p hmem hp hst hsince
      · -- a simulated record has its result, and a delivery does not go on from it
        have hshape := (ht.records _ hmem _ (storedBy_persistedBy hp)).1
        have hnone := hl.startable.unresolved (.inl hst)
        simp [Shaped,hst,hnone] at hshape
    · exact absurd hsim hne
  | _ => simp [simulates] at hc

private theorem guarded_ledger {c : LedgerCall} {r : Except Raised c.Answer} (hds : ∀ j, (ds j).intent = intent)
    (ht : Traced intent.executionKey log s) (ht' : Traced intent.executionKey (log ++ [(i,⟨.ledger c,r⟩)]) s')
    (hg : Guarded intent ds log s) (hf : Follows H (ds i) now (Pool.own i log) (.ledger c))
    (hw : world H s (.ledger c) r s') (hu : Undisturbed (log ++ [(i,⟨.ledger c,r⟩)])) :
    Guarded intent ds (log ++ [(i,⟨.ledger c,r⟩)]) s' := by
  obtain ⟨uuid,_,hperform,_,_⟩ := hw
  have hL : (s.ledger.perform H uuid c).2 = s'.ledger := by rw [hperform]
  have hr : (s.ledger.perform H uuid c).1 = r := by rw [hperform]
  have hkey : c.key = intent.executionKey := by rw [follows_key hf,hds]
  have hnow : ∀ i e o now, c = .recordObservation i e o now → now.instant ≠ none := by
    rintro i' e o now' rfl hnone
    rw [hf.2.1] at hnone
    cases hnone
  have hrows : (∀ e, s'.ledger.executions intent.executionKey = some e → e.state = .started →
      s'.ledger.observations intent.executionKey = none) ∧
      ((s'.ledger.observations intent.executionKey).isSome = true → ∀ e r,
        s'.ledger.executions intent.executionKey = some e → e.result = some r → r.state = .failed →
        r.retryable = true → intent.retryPolicy.maxAttempts ≤ e.attempt) := by
    rw [← hL]
    cases r with
    | error x =>
      rcases perform_error (k := intent.executionKey) hr with hrow | ⟨i',e,o,now',hc,hnone⟩
      · simp only [← row_execution,← row_observation,hrow]
        exact ⟨hg.started,hg.exhausted⟩
      · exact absurd hnone (hnow i' e o now' hc)
    | ok a =>
      refine guarded_rows hr ht.shaped hnow hg.started hg.exhausted ?_ ?_
      · rintro i' e l t rfl
        exact commit_not_terminal hg hf hu rfl
      · rintro i' e o t rfl e' r' he' hr' hm hfail hret
        exact observed_exhausted (hds i) ht hg hf he' hr' hm hfail hret
  refine ⟨hrows.1,hrows.2,?_,?_,?_,?_,?_⟩
  · intro j x p hmem hp hs hsince hterm
    rcases List.mem_append.mp hmem with hmem | hmem
    · rw [← hL] at hterm
      rcases terminal_origin hnow hterm with hold | hsettles
      · exact hg.unsettled j x p hmem hp hs hsince.init hold
      · have hno := hsince.last hmem (by simp [hp])
        rw [hr] at hsettles
        simp [hsettles] at hno
    · cases List.mem_singleton.mp hmem
      have hcur : s'.ledger.executions intent.executionKey = some p.execution := by
        have hst := storedBy_persistedBy hp
        rw [← hr] at hst
        have hrow := storedBy_row hst
        rwa [hL,hkey] at hrow
      refine terminal_not_startable ht'.shaped hrows.1 ?_ hterm hcur hs
      rw [hds]
      exact hrows.2
  · intro j x p hmem hp hst hsince y hy
    rcases List.mem_append.mp hy with hy | hy
    · rcases List.mem_append.mp hmem with hmem | hmem
      · exact hg.untouched j x p hmem hp hst hsince.init y hy
      · cases List.mem_singleton.mp hmem
        by_contra happly
        obtain ⟨z,hz,hm⟩ := ht.applied y hy (by simpa using happly)
        obtain ⟨⟨l,e⟩,hmark⟩ := Option.isSome_iff_exists.mp hm
        have hgone := ht.marks z hz l e hmark
        obtain ⟨_,e',he',_,_,hper⟩ := ht'.records z (List.mem_append_left _ hz) e (storedBy_markedBy hmark)
        have hst' := storedBy_persistedBy hp
        rw [← hr] at hst'
        have hcur := storedBy_row hst'
        rw [hL,hkey] at hcur
        rw [row_execution,hcur] at he'
        cases he'
        exact hper hgone hst
    · cases List.mem_singleton.mp hy
      rfl
  · intro e res he hres hsim y hy
    rcases List.mem_append.mp hy with hy | hy
    · rw [← hL] at he
      rcases simulated_origin hnow he hres hsim with ⟨e',he',hres'⟩ | hsimulates
      · exact hg.simulated e' res he' hres' hsim y hy
      · rw [hr] at hsimulates
        exact simulates_untouched ht hg hf hu hsimulates y hy
    · cases List.mem_singleton.mp hy
      rfl
  · intro o ho hstatus y hy
    rcases List.mem_append.mp hy with hy | hy
    · rw [← hL] at ho
      rcases observation_origin ho with hold | ⟨e,res,he,hres,hm⟩
      · exact hg.observed o hold hstatus y hy
      · exact hg.simulated e res he hres (simulated_of_matches hm hstatus) y hy
    · cases List.mem_singleton.mp hy
      rfl
  · intro x hx l e hm
    rcases List.mem_append.mp hx with hx | hx
    · exact hg.marks x hx l e hm
    · cases List.mem_singleton.mp hx
      cases c with
      | markStarted i' e' l' t =>
        cases r with
        | error y => simp [markedBy] at hm
        | ok e'' =>
          simp only [markedBy,Option.some.injEq,Prod.mk.injEq] at hm
          obtain ⟨rfl,rfl⟩ := hm
          have hok := (markStarted_ok hr).2
          have hnot := commit_not_terminal hg hf hu rfl
          rcases hok with ⟨hset,hsame⟩ | ⟨e₀,t₀,_,_,rfl⟩
          · rw [show i'.executionKey = intent.executionKey from hkey] at hsame
            have := unsettled_of_not_terminal ht.shaped hnot hsame
            simp [hset] at this
          · rfl
      | _ => simp [markedBy] at hm

omit [DecidableEq ι] in
private theorem guarded_other {x : Event Call Call.Answer} (hg : Guarded intent ds log s)
    (hL : s'.ledger = s.ledger) (hp : persistedBy x = none) (hm : markedBy x = none)
    (ha : isApply x = true → ¬ Terminal (s.ledger.row intent.executionKey)) :
    Guarded intent ds (log ++ [(i,x)]) s' := by
  obtain ⟨started,exhausted,unsettled,untouched,simulated,observed,marks⟩ := hg
  have hold {j : ι} {y : Event Call Call.Answer} {p : PersistedIntent} (hmem : (j,y) ∈ log ++ [(i,x)])
      (hy : persistedBy y = some p) : (j,y) ∈ log := by
    rcases List.mem_append.mp hmem with hmem | hmem
    · exact hmem
    · cases List.mem_singleton.mp hmem
      simp [hp] at hy
  refine ⟨hL ▸ started,hL ▸ exhausted,?_,?_,?_,?_,?_⟩
  · intro j y p hmem hy hs hsince
    rw [hL]
    exact unsettled j y p (hold hmem hy) hy hs hsince.init
  · intro j y p hmem hy hst hsince z hz
    rcases List.mem_append.mp hz with hz | hz
    · exact untouched j y p (hold hmem hy) hy hst hsince.init z hz
    · cases List.mem_singleton.mp hz
      exact hsince.last (hold hmem hy) (by simp [hy])
  · intro e r he hr hsim z hz
    rw [hL] at he
    rcases List.mem_append.mp hz with hz | hz
    · exact simulated e r he hr hsim z hz
    · cases List.mem_singleton.mp hz
      by_contra happly
      exact ha (by simpa using happly) (.inr ⟨e,r,he,hr,.inr hsim⟩)
  · intro o ho hstatus z hz
    rw [hL] at ho
    rcases List.mem_append.mp hz with hz | hz
    · exact observed o ho hstatus z hz
    · cases List.mem_singleton.mp hz
      by_contra happly
      exact ha (by simpa using happly) (.inl (by simp [ho]))
  · intro y hy l e hmark
    rcases List.mem_append.mp hy with hy | hy
    · exact marks y hy l e hmark
    · cases List.mem_singleton.mp hy
      simp [hm] at hmark

theorem guarded_step {c : Call} {r : c.Answer} (hds : ∀ j, (ds j).intent = intent)
    (ht : Traced intent.executionKey log s) (ht' : Traced intent.executionKey (log ++ [(i,⟨c,r⟩)]) s')
    (hg : Guarded intent ds log s) (hf : Follows H (ds i) now (Pool.own i log) c) (hw : world H s c r s')
    (hu : Undisturbed (log ++ [(i,⟨c,r⟩)])) : Guarded intent ds (log ++ [(i,⟨c,r⟩)]) s' := by
  cases c with
  | ledger c => exact guarded_ledger hds ht ht' hg hf hw hu
  | getObservation key => exact guarded_other hg (by rw [hw.2]) rfl rfl nofun
  | decide i' => exact guarded_other hg (by rw [show s' = s from hw]) rfl rfl nofun
  | apply req =>
    refine guarded_other hg (by rw [show s' = _ from hw]) rfl rfl ?_
    intro _
    exact commit_not_terminal hg hf hu rfl

theorem terminal_call {k : String} {c : Call} {r : c.Answer} (hs : WellShaped (s.ledger.row k))
    (ht : Terminal (s.ledger.row k)) (hw : world H s c r s') : Terminal (s'.ledger.row k) := by
  cases c with
  | ledger c =>
    obtain ⟨uuid,_,hperform,_,_⟩ := hw
    have hstep := @terminal_step H _ _ uuid c hs ht
    rw [hperform] at hstep
    exact hstep
  | getObservation key => exact hw.2 ▸ ht
  | decide i => exact (show s' = s from hw) ▸ ht
  | apply req =>
    cases hw
    exact ht

def overlapping (H : Hashes) (ds : ι → Delivery) : Pool ι Call Call.Answer Raised ScaleReconcileResult Deployment :=
  ⟨Deployment.empty,fun i => (ds i).program H⟩

theorem overlapping_guarded {c : Pool ι Call Call.Answer Raised ScaleReconcileResult Deployment}
    (hds : ∀ i, (ds i).intent = intent) (h : Pool.Steps (world H) (overlapping H ds) log c) :
    Traced intent.executionKey log c.state ∧ (Undisturbed log → Guarded intent ds log c.state) := by
  refine h.invariant (I := fun log s => Traced intent.executionKey log s ∧ (Undisturbed log → Guarded intent ds log s))
    (fun i => reconcile_follows H (ds i)) ?_ ?_
  · refine ⟨⟨⟨?_,?_,?_⟩,ordered_empty,?_,?_,?_,?_,?_,?_⟩,fun _ => ⟨?_,?_,?_,?_,?_,?_,?_⟩⟩
    all_goals simp [overlapping,Deployment.empty,Ledger.empty]
  · rintro log i e r s s' ⟨ht,hg⟩ ⟨now,_,_,_,hf⟩ hw
    have ht' := traced_step ht (by rw [hds]) hf hw
    exact ⟨ht',fun hu => guarded_step hds ht ht' (hg hu.init) hf hw hu⟩

end

/-- In every interleaving of deliveries of one intent by its replica writer: if nothing is settled between a
delivery's `persist_intent` and its start or actuation, and no actuation comes between a dry run's `persist_intent`
and its result, then the actuator is not called once the ledger is terminal, and a simulated observation means that it
never was. -/
theorem no_actuation_after_terminal {ι : Type} [DecidableEq ι] (H : Hashes) (intent : ScaleIntentRecord)
    (ds : ι → Delivery) (hds : ∀ i, (ds i).intent = intent ∧ (ds i).controllerId = intent.replicaWriterId)
    {c d : Pool ι Call Call.Answer Raised ScaleReconcileResult Deployment} {log rest : Log ι}
    (h : Pool.Steps (world H) (overlapping H ds) log c) (h' : Pool.Steps (world H) c rest d)
    (hu : Undisturbed (log ++ rest)) :
    (Terminal (c.state.ledger.row intent.executionKey) → ∀ x ∈ rest, isApply x.2 = false) ∧
    (∀ o, d.state.ledger.observations intent.executionKey = some o → o.status = .simulated →
      ∀ x ∈ log ++ rest, isApply x.2 = false) := by
  have hintent : ∀ i, (ds i).intent = intent := fun i => (hds i).1
  refine ⟨?_,?_⟩
  · intro hterm
    suffices hrun : Terminal (d.state.ledger.row intent.executionKey) ∧ ∀ x ∈ rest, isApply x.2 = false from hrun.2
    induction h' with
    | refl => exact ⟨hterm,fun x hx => absurd hx List.not_mem_nil⟩
    | @tail rest d i e k r s hsteps hp hw ih =>
      rw [← List.append_assoc] at hu
      obtain ⟨hd,hnone⟩ := ih hu.init
      obtain ⟨ht,hg⟩ := overlapping_guarded hintent (h.trans hsteps)
      have hcalls := (h.trans hsteps).meets i (reconcile_follows H (ds i))
      rw [hp] at hcalls
      obtain ⟨⟨now,_,_,_,hf⟩,_⟩ := hcalls
      have hno : isApply ⟨e,r⟩ = false := by
        cases e with
        | apply req => exact absurd hd (commit_not_terminal (hg hu.init) hf hu rfl)
        | _ => rfl
      refine ⟨terminal_call ht.shaped hd hw,?_⟩
      intro x hx
      rcases List.mem_append.mp hx with hx | hx
      · exact hnone x hx
      · cases List.mem_singleton.mp hx
        exact hno
  · intro o ho hstatus
    exact ((overlapping_guarded hintent (h.trans h')).2 hu).observed o ho hstatus

def calm {ι : Type} (settled : Bool) : Log ι → Bool
  | [] => true
  | x :: rest => !(settled && commits x.2) && !simulates x.2 && calm (settled || settles x.2) rest

private theorem calm_no_commit {ι : Type} {log : Log ι} (h : calm true log = true) :
    ∀ x ∈ log, commits x.2 ≠ true := by
  induction log with
  | nil => exact fun x hx => absurd hx List.not_mem_nil
  | cons y log ih =>
    simp only [calm,Bool.true_and,Bool.true_or,Bool.and_eq_true,Bool.not_eq_true'] at h
    intro x hx
    rcases List.mem_cons.mp hx with rfl | hx
    · simp [h.1.1]
    · exact ih h.2 x hx

theorem undisturbed_of_calm {ι : Type} {log : Log ι} (h : calm false log = true) : Undisturbed log := by
  have hsplit : ∀ {settled : Bool} {log xs ys : Log ι} {i : ι} {x : Event Call Call.Answer},
      calm settled log = true → log = xs ++ (i,x) :: ys →
      simulates x = false ∧ (commits x = true → ∀ y ∈ xs, settles y.2 = false) := by
    intro settled log xs ys i x hcalm hlog
    induction xs generalizing settled log with
    | nil =>
      subst hlog
      simp only [calm,List.nil_append,Bool.and_eq_true,Bool.not_eq_true'] at hcalm
      exact ⟨hcalm.1.2,fun _ y hy => absurd hy List.not_mem_nil⟩
    | cons z xs ih =>
      subst hlog
      simp only [calm,List.cons_append,Bool.and_eq_true] at hcalm
      obtain ⟨hsim,hcommit⟩ := ih hcalm.2 rfl
      refine ⟨hsim,?_⟩
      intro hx y hy
      rcases List.mem_cons.mp hy with rfl | hy
      · by_contra hz
        have hz' : settles y.2 = true := by simpa using hz
        have hrest := hcalm.2
        rw [hz',Bool.or_true] at hrest
        exact calm_no_commit hrest (i,x) (by simp) hx
      · exact hcommit hx y hy
  intro xs i x ys hlog
  obtain ⟨hsim,hcommit⟩ := hsplit h hlog
  refine ⟨?_,fun hx => by simp [hsim] at hx⟩
  intro hx zs z ws hzs _ y hy
  exact hcommit hx y (by rw [hzs]; exact List.mem_append_right _ (List.mem_cons_of_mem _ hy))

namespace Sample

/-- Two live deliveries of the sample intent at the same instant. -/
def twice : Bool → Delivery := fun _ => deliver 0 false

def pair (schedule : List Bool) (c : Pool Bool Call Call.Answer Raised ScaleReconcileResult Deployment) :
    Log Bool × Pool Bool Call Call.Answer Raised ScaleReconcileResult Deployment :=
  Pool.drive (respond hashes allow fun _ => .returned succeeded) schedule c

theorem pair_steps (schedule : List Bool) (c : Pool Bool Call Call.Answer Raised ScaleReconcileResult Deployment) :
    Pool.Steps (world hashes) c (pair schedule c).1 (pair schedule c).2 :=
  Pool.drive_steps (respond_world hashes allow _) schedule c

def overtaken : Log Bool × Pool Bool Call Call.Answer Raised ScaleReconcileResult Deployment :=
  pair [false,false,false,false,true,true,true,true,true,true] (overlapping hashes twice)
def finished : Log Bool × Pool Bool Call Call.Answer Raised ScaleReconcileResult Deployment :=
  pair [false,false,false,false,false,false,false] (overlapping hashes twice)

end Sample

open Sample in
/-- The ledger holds a succeeded result, and the first delivery calls the actuator after it. -/
theorem actuation_after_success : Pool.Steps (world hashes) (overlapping hashes twice) overtaken.1 overtaken.2 ∧
    Pool.Steps (world hashes) overtaken.2 (pair [false] overtaken.2).1 (pair [false] overtaken.2).2 ∧
    Terminal (overtaken.2.state.ledger.row "key") ∧ ∃ x ∈ (pair [false] overtaken.2).1, isApply x.2 = true := by
  refine ⟨pair_steps _ _,pair_steps _ _,?_,?_⟩
  · have hstored : (overtaken.2.state.ledger.executions "key").bind (·.result) = some succeeded := by decide
    obtain ⟨e,he,hr⟩ := Option.bind_eq_some_iff.mp hstored
    exact .inr ⟨e,succeeded,he,hr,.inl rfl⟩
  · have hany : (pair [false] overtaken.2).1.any (fun x => isApply x.2) = true := by decide
    simpa [List.any_eq_true] using hany

open Sample in
theorem second_delivery_replays : (pair [true,true,true] finished.2).1.any (fun x => isApply x.2) = false := by
  refine List.any_eq_false.mpr fun x hx => Bool.not_eq_true _ ▸ ?_
  refine (no_actuation_after_terminal hashes intent twice (fun _ => ⟨rfl,rfl⟩)
    (show Pool.Steps _ _ finished.1 finished.2 from pair_steps _ _) (pair_steps [true,true,true] finished.2)
    (undisturbed_of_calm (by decide))).1 (.inl (by decide)) x hx

end Arbora.Scaling
