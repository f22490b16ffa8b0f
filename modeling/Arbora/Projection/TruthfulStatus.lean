import Arbora.Lib.Asking
import Arbora.Projection.Ordering

/-! What the status of a projected page says about the page: the calls that take an event, and where the projection of
a page stops. -/
namespace Arbora.Projection
open Interaction Service

def Replays (scope : ProjectionScope) (current : ProjectionCheckpoint) (event : OutboxEnvelope) : Prop :=
  scope.Covers event ∧ event.sequence = current.lastSequence ∧ some event.eventId = current.lastEventId ∧
    some event.eventDigest = current.lastEventDigest

inductive Takes (scope : ProjectionScope) (fenceToken : ℤ) :
    History → ProjectionCheckpoint → PageItem → ProjectionCheckpoint → Prop
  | replayed {current event} (h : Replays scope current event) :
      Takes scope fenceToken [] current (.envelope event) current
  | applied {current event receipt expected} (hcovers : scope.Covers event)
      (hnext : event.sequence = current.lastSequence + 1) (hf : 1 ≤ fenceToken) (hreceipt : Acknowledged event receipt) :
      Takes scope fenceToken [⟨.applyEvent event fenceToken,.ok (some receipt)⟩,
        ⟨.saveCheckpoint scope expected (current.naming event fenceToken hf),.ok ()⟩] current (.envelope event)
        (current.naming event fenceToken hf)

inductive Processed (scope : ProjectionScope) (fenceToken : ℤ) :
    History → ProjectionCheckpoint → List PageItem → ProjectionCheckpoint → Prop
  | nil {current} : Processed scope fenceToken [] current [] current
  | cons {u v current item next items final} (htakes : Takes scope fenceToken u current item next)
      (hrest : Processed scope fenceToken v next items final) :
      Processed scope fenceToken (u ++ v) current (item :: items) final

/-- After the items before it were taken, an object that is no envelope is met. -/
def MeetsOther (scope : ProjectionScope) (fenceToken : ℤ) (t : History) (current : ProjectionCheckpoint)
    (items : List PageItem) : Prop :=
  ∃ before behind u v mid, items = before ++ .other :: behind ∧ t = u ++ v ∧
    Processed scope fenceToken u current before mid

section
variable {scope : ProjectionScope} {fenceToken : ℤ} {t u v w : History} {current next next' final : ProjectionCheckpoint}
  {item : PageItem} {items : List PageItem}

theorem Takes.envelope (h : Takes scope fenceToken t current item next) : item ≠ .other := by
  cases h with
  | replayed => exact nofun
  | applied => exact nofun

theorem Processed.envelopes (h : Processed scope fenceToken t current items final) : .other ∉ items := by
  induction h with
  | nil => exact List.not_mem_nil
  | cons htakes _ ih =>
    intro hmem
    rcases List.mem_cons.mp hmem with heq | hmem
    · exact htakes.envelope heq.symm
    · exact ih hmem

theorem MeetsOther.mem (h : MeetsOther scope fenceToken t current items) : .other ∈ items := by
  obtain ⟨before,behind,_,_,_,rfl,_⟩ := h
  simp

theorem meetsOther_other : MeetsOther scope fenceToken t current (.other :: items) :=
  ⟨[],items,[],t,current,rfl,rfl,.nil⟩

theorem Takes.unique (h : Takes scope fenceToken u current item next) (h' : Takes scope fenceToken v current item next')
    (hcalls : v <+: u ++ w) : v = u ∧ next' = next := by
  cases h with
  | replayed hreplays =>
    cases h' with
    | replayed => exact ⟨rfl,rfl⟩
    | applied _ hnext =>
      have hsame := hreplays.2.1
      omega
  | applied _ hnext =>
    cases h' with
    | replayed hreplays =>
      have hsame := hreplays.2.1
      omega
    | applied =>
      obtain ⟨rest,hrest⟩ := hcalls
      simp only [List.cons_append,List.nil_append,List.cons.injEq] at hrest
      obtain ⟨happly,hsave,_⟩ := hrest
      rw [happly,hsave]
      exact ⟨rfl,rfl⟩

theorem meetsOther_cons (h : Takes scope fenceToken u current item next) :
    MeetsOther scope fenceToken (u ++ v) current (item :: items) ↔ MeetsOther scope fenceToken v next items := by
  constructor
  · rintro ⟨before,behind,t,w,mid,hitems,hcalls,hbefore⟩
    cases hbefore with
    | nil =>
      cases hitems
      exact absurd rfl h.envelope
    | @cons u' v' _ _ next' before _ htakes hrest =>
      cases hitems
      rw [List.append_assoc] at hcalls
      obtain ⟨rfl,rfl⟩ := h.unique htakes ⟨_,hcalls.symm⟩
      exact ⟨before,behind,v',w,mid,rfl,List.append_cancel_left hcalls,hrest⟩
  · rintro ⟨before,behind,t,w,mid,rfl,rfl,hbefore⟩
    exact ⟨item :: before,behind,u ++ t,w,mid,rfl,(List.append_assoc _ _ _).symm,.cons h hbefore⟩

/-- The calls take nothing, whatever follows them. -/
def TakesNone (scope : ProjectionScope) (fenceToken : ℤ) (t : History) (current : ProjectionCheckpoint)
    (item : PageItem) : Prop :=
  ∀ u v next, t = u ++ v → ¬Takes scope fenceToken u current item next

theorem TakesNone.not_meetsOther (h : TakesNone scope fenceToken t current item) (hitem : item ≠ .other) :
    ¬MeetsOther scope fenceToken t current (item :: items) := by
  rintro ⟨before,behind,u,v,mid,hitems,rfl,hbefore⟩
  cases hbefore with
  | nil =>
    cases hitems
    exact hitem rfl
  | cons htakes _ =>
    cases hitems
    exact h _ _ _ (List.append_assoc _ _ _) htakes

theorem Takes.scope_eq (h : Takes scope fenceToken t current item next) : next.scope = current.scope := by
  cases h with
  | replayed => rfl
  | applied => rfl

end

section
variable {projectorId : String} {scope : ProjectionScope} {fenceToken : ℤ} {current : ProjectionCheckpoint}
  {persisted : Option ProjectionCheckpoint} {event : OutboxEnvelope} {item : PageItem}

def OutcomeStatus.Took (status : OutcomeStatus) : Prop := status = .applied ∨ status = .replayed
def OutcomeStatus.Stopped (status : OutcomeStatus) : Prop :=
  status ∈ [.gap,.conflict,.rejected,.drift] ∨ status = .failed

inductive Stepped (scope : ProjectionScope) (fenceToken : ℤ) (current : ProjectionCheckpoint) :
    History → PageItem → EventStep → Prop
  | taken {t item next outcome persisted} (h : Takes scope fenceToken t current item next) (hstatus : outcome.status.Took) :
      Stepped scope fenceToken current t item ⟨some outcome,false,next,persisted⟩
  | other {t persisted} : Stepped scope fenceToken current t .other ⟨none,true,current,persisted⟩
  | stopped {t item outcome persisted} (h : TakesNone scope fenceToken t current item) (hitem : item ≠ .other)
      (hstatus : outcome.status.Stopped) :
      Stepped scope fenceToken current t item ⟨some outcome,true,current,persisted⟩

theorem leaves_drift {α β : Type} {p : Step β} {a : α} {Q : History → α → Prop} (h : ∀ t, Q t a) :
    (p.bind fun _ => .ret a).Leaves Q (fun _ _ => True) :=
  Prog.Leaves.bind (Prog.leaves_of_forall p (fun _ _ => h _) fun _ _ => trivial)

theorem takesNone_of_not {t : History} (hreplays : ¬Replays scope current event)
    (hnext : ¬(scope.Covers event ∧ event.sequence = current.lastSequence + 1)) :
    TakesNone scope fenceToken t current (.envelope event) := by
  rintro u v next rfl h
  cases h with
  | replayed h => exact hreplays h
  | applied hcovers hsequence => exact hnext ⟨hcovers,hsequence⟩

theorem validateEventIdentity_leaves (fenceToken : ℤ) : (validateEventIdentity projectorId scope item current persisted).Leaves
    (fun t r => (∃ step, r = .inl step ∧ Stepped scope fenceToken current t item step) ∨
      ∃ event, r = .inr event ∧ t = [] ∧ item = .envelope event ∧ scope.Covers event) (fun _ _ => True) := by
  unfold validateEventIdentity
  cases item with
  | other => exact leaves_drift fun t => .inl ⟨_,rfl,.other⟩
  | envelope event =>
    by_cases hc : scope.Covers event
    · have hcovers : ¬(event.aggregateType ≠ scope.aggregateType ∨ event.aggregateId ≠ scope.aggregateId) := by
        rw [not_or,not_not,not_not]
        exact hc
      simp only [if_neg hcovers]
      exact .inr ⟨event,rfl,rfl,rfl,hc⟩
    · have hforeign : event.aggregateType ≠ scope.aggregateType ∨ event.aggregateId ≠ scope.aggregateId := by
        by_contra hsame
        rw [not_or,not_not,not_not] at hsame
        exact hc hsame
      simp only [if_pos hforeign]
      exact leaves_drift fun t => .inl ⟨_,rfl,
        .stopped (takesNone_of_not (fun h => hc h.1) fun h => hc h.1) nofun (.inl (by simp [outcomeOf]))⟩

theorem classifyEventSequence_leaves (fenceToken : ℤ) (hc : scope.Covers event) :
    (classifyEventSequence projectorId scope event current persisted).Leaves
      (fun t r => (∃ step, r = some step ∧ Stepped scope fenceToken current t (.envelope event) step) ∨
        r = none ∧ t = [] ∧ event.sequence = current.lastSequence + 1) (fun _ _ => True) := by
  unfold classifyEventSequence
  split_ifs with hle hreplay hne
  · exact .inl ⟨_,rfl,.taken (.replayed ⟨hc,hreplay⟩) (.inr rfl)⟩
  · refine leaves_drift fun t => .inl ⟨_,rfl,.stopped (takesNone_of_not (fun h => hreplay h.2) ?_) nofun ?_⟩
    · intro hnext
      omega
    · exact .inl (by simp [outcomeOf])
  · refine leaves_drift fun t => .inl ⟨_,rfl,.stopped (takesNone_of_not ?_ fun hnext => hne hnext.2) nofun ?_⟩
    · intro hreplays
      have := hreplays.2.1
      omega
    · exact .inl (by simp [outcomeOf])
  · exact .inr ⟨rfl,rfl,not_not.mp hne⟩

theorem takesNone_of_calls {t : History} (hnext : event.sequence = current.lastSequence + 1)
    (h : ∀ receipt expected hf rest, Acknowledged event receipt →
      t ≠ ⟨.applyEvent event fenceToken,.ok (some receipt)⟩ ::
        ⟨.saveCheckpoint scope expected (current.naming event fenceToken hf),.ok ()⟩ :: rest) :
    TakesNone scope fenceToken t current (.envelope event) := by
  rintro u v next rfl htakes
  cases htakes with
  | replayed hreplays =>
    have := hreplays.2.1
    omega
  | applied _ _ hf hreceipt => exact h _ _ hf v hreceipt rfl

theorem checkReceipt_acknowledged {receipt : GraphProjectionReceipt} (h : Acknowledged event receipt) :
    checkReceipt event (some receipt) = .ok () := by
  have haccepted : ¬(receipt.eventId ≠ event.eventId ∨ (!(receipt.applied || receipt.replayed)) = true) := by
    rw [not_or,not_not,Bool.not_eq_true,Bool.not_eq_false',Bool.or_eq_true]
    exact h
  simp only [checkReceipt,if_neg haccepted]

section
variable (hscope : current.scope = scope) (hc : scope.Covers event) (hnext : event.sequence = current.lastSequence + 1)
include hscope hc hnext

theorem afterEvent_eq (hf : 1 ≤ fenceToken) :
    current.afterEvent event fenceToken = .ok (current.naming event fenceToken hf) := by
  have hcovers : ¬¬current.scope.Covers event := by
    rw [hscope,not_not]
    exact hc
  unfold ProjectionCheckpoint.afterEvent
  rw [if_neg (not_not.mpr hnext),if_neg hcovers,dif_pos hf]

theorem applyAndSave_leaves : (applyAndSave scope event current persisted fenceToken).Leaves
      (fun t next => Takes scope fenceToken t current (.envelope event) next)
      (fun t _ => ∀ u, TakesNone scope fenceToken (t ++ u) current (.envelope event)) := by
  intro answer
  cases answer with
  | error x => exact fun u => takesNone_of_calls hnext (fun _ _ _ _ _ => nofun)
  | ok reply =>
    change (Prog.bind (Service.ofExcept (checkReceipt event reply)) _).Leaves _ _
    cases hreceipt : checkReceipt event reply with
    | error x =>
      refine fun u => takesNone_of_calls hnext fun receipt expected hf rest hacknowledged heq => ?_
      cases heq
      rw [checkReceipt_acknowledged hacknowledged] at hreceipt
      cases hreceipt
    | ok =>
      obtain ⟨receipt,rfl,hacknowledged⟩ := checkReceipt_ok hreceipt
      cases hafter : current.afterEvent event fenceToken with
      | error x =>
        refine fun u => takesNone_of_calls hnext fun receipt expected hf rest _ heq => ?_
        rw [afterEvent_eq hscope hc hnext hf] at hafter
        cases hafter
      | ok next =>
        obtain ⟨_,_,hf,rfl⟩ := ProjectionCheckpoint.afterEvent_ok hafter
        intro saved
        cases saved with
        | error x =>
          refine fun u => takesNone_of_calls hnext fun receipt expected hf rest _ heq => ?_
          cases heq
        | ok => exact .applied hc hnext hf hacknowledged

theorem applyEvent_leaves : (applyEvent projectorId scope event current persisted fenceToken).Leaves
      (fun t step => Stepped scope fenceToken current t (.envelope event) step) (fun _ _ => True) := by
  have hstops : ∀ status reasonCode drift, status.Stopped → ∀ t, (∀ u, TakesNone scope fenceToken (t ++ u) current
      (.envelope event)) → ((recordDrift projectorId drift scope event.sequence (some event)).bind fun _ =>
        Prog.ret (EventStep.mk (some (outcomeOf status event (some reasonCode))) true current persisted)).Leaves
          (fun u step => Stepped scope fenceToken current (t ++ u) (.envelope event) step) (fun _ _ => True) := by
    intro status reasonCode drift hstatus t hnone
    exact leaves_drift fun u => .stopped (hnone u) nofun hstatus
  refine Prog.Leaves.handle (Prog.Leaves.bind ((applyAndSave_leaves hscope hc hnext).mono ?_ ?_))
  · intro t next htakes
    have htaken : Takes scope fenceToken (t ++ []) current (.envelope event) next := by
      rw [List.append_nil]
      exact htakes
    exact .taken htaken (.inl rfl)
  · intro t x hnone
    unfold handler
    cases x.kind with
    | checkpointConflict => exact hstops .drift "checkpoint_conflict" .checkpointConflict (.inl (by decide)) t hnone
    | interrupt => trivial
    | projectionContractError => exact hstops .failed "graph_apply_failed" .graphApplyFailed (.inr rfl) t hnone
    | valueError => exact hstops .failed "graph_apply_failed" .graphApplyFailed (.inr rfl) t hnone
    | validationError => exact hstops .failed "graph_apply_failed" .graphApplyFailed (.inr rfl) t hnone
    | exception => exact hstops .failed "graph_apply_failed" .graphApplyFailed (.inr rfl) t hnone

end

theorem stepEvent_leaves (hscope : current.scope = scope) :
    (stepEvent projectorId scope item current persisted fenceToken).Leaves
      (fun t step => Stepped scope fenceToken current t item step) (fun _ _ => True) := by
  refine Prog.Leaves.bind ((validateEventIdentity_leaves fenceToken).mono ?_ fun _ _ h => h)
  rintro t _ (⟨step,rfl,hstep⟩ | ⟨event,rfl,rfl,rfl,hc⟩)
  · change Stepped scope fenceToken current (t ++ []) item step
    rw [List.append_nil]
    exact hstep
  · refine Prog.Leaves.bind ((classifyEventSequence_leaves fenceToken hc).mono ?_ fun _ _ h => h)
    rintro t _ (⟨step,rfl,hstep⟩ | ⟨rfl,rfl,hnext⟩)
    · change Stepped scope fenceToken current (t ++ []) (.envelope event) step
      rw [List.append_nil]
      exact hstep
    · exact applyEvent_leaves hscope hc hnext

end

section
variable {projectorId : String} {scope : ProjectionScope} {fenceToken limit : ℤ} {current : ProjectionCheckpoint}
  {persisted : Option ProjectionCheckpoint} {items : List PageItem} {outcomes : List ProjectionOutcome}

inductive Looped (scope : ProjectionScope) (fenceToken : ℤ) (t : History) (current : ProjectionCheckpoint)
    (items : List PageItem) (added : List ProjectionOutcome) (final : ProjectionCheckpoint) : Prop
  | through (h : Processed scope fenceToken t current items final) (hadded : ∀ outcome ∈ added, outcome.status.Took)
  | met (h : MeetsOther scope fenceToken t current items) (hadded : ∀ outcome ∈ added, outcome.status.Took)
  | stopped (h : ¬MeetsOther scope fenceToken t current items) (hadded : ∃ outcome ∈ added, outcome.status.Stopped)

theorem Looped.cons {t u : History} {item : PageItem} {next final : ProjectionCheckpoint} {outcome : ProjectionOutcome}
    {added : List ProjectionOutcome} (htakes : Takes scope fenceToken t current item next) (hstatus : outcome.status.Took)
    (h : Looped scope fenceToken u next items added final) :
    Looped scope fenceToken (t ++ u) current (item :: items) (outcome :: added) final := by
  have hall : (∀ o ∈ added, o.status.Took) → ∀ o ∈ outcome :: added, o.status.Took := by
    rintro hadded o ho
    rcases List.mem_cons.mp ho with rfl | ho
    · exact hstatus
    · exact hadded o ho
  cases h with
  | through h hadded => exact .through (.cons htakes h) (hall hadded)
  | met h hadded => exact .met ((meetsOther_cons htakes).mpr h) (hall hadded)
  | stopped h hadded =>
    obtain ⟨o,ho,hstopped⟩ := hadded
    exact .stopped (fun hmeets => h ((meetsOther_cons htakes).mp hmeets)) ⟨o,List.mem_cons_of_mem _ ho,hstopped⟩

theorem projectEvents_leaves (hscope : current.scope = scope) :
    (projectEvents projectorId scope fenceToken items current persisted outcomes).Leaves
      (fun t result => ∃ added, result.1 = outcomes ++ added ∧ Looped scope fenceToken t current items added result.2)
      (fun _ _ => True) := by
  induction items generalizing current persisted outcomes with
  | nil => exact ⟨[],(List.append_nil _).symm,.through .nil (by simp)⟩
  | cons item rest ih =>
    refine Prog.Leaves.bind ((stepEvent_leaves hscope).mono ?_ fun _ _ h => h)
    rintro t step hstep
    cases hstep with
    | @taken _ next outcome persisted htakes hstatus =>
      have hscope' : next.scope = scope := htakes.scope_eq.trans hscope
      refine (ih hscope').mono ?_ fun _ _ h => h
      rintro u ⟨_,final⟩ ⟨added,rfl,hlooped⟩
      exact ⟨outcome :: added,by simp,hlooped.cons htakes hstatus⟩
    | other =>
      refine ⟨[],rfl,.met meetsOther_other (by simp)⟩
    | @stopped _ outcome _ hnone hitem hstatus =>
      refine ⟨[outcome],rfl,.stopped ?_ ⟨outcome,List.mem_singleton_self _,hstatus⟩⟩
      rw [List.append_nil]
      exact hnone.not_meetsOther hitem

def StartsFrom (projectorId : String) (scope : ProjectionScope) (fenceToken : ℤ) :
    Option ProjectionCheckpoint → ProjectionCheckpoint → Prop
  | none, start => ProjectionCheckpoint.initialFor projectorId scope fenceToken = .ok start
  | some stored, start => start = stored ∧ stored.projectorId.1 = projectorId ∧ stored.scope = scope ∧
      stored.fenceToken ≤ fenceToken

def PageRead (projectorId : String) (scope : ProjectionScope) (fenceToken limit : ℤ) (t : History)
    (start : ProjectionCheckpoint) (page : List PageItem) (since : History) : Prop :=
  ∃ stored, StartsFrom projectorId scope fenceToken stored start ∧ (page.length : ℤ) ≤ limit ∧
    t = ⟨.readCheckpoint scope,.ok stored⟩ :: ⟨.readAfter scope start.lastSequence limit,.ok page⟩ :: since

/-- The batch was given up, and says so. -/
def Aborted (projectorId : String) (scope : ProjectionScope) (fenceToken limit : ℤ) (t : History)
    (result : ProjectionBatchResult) : Prop :=
  result.status ∈ [.drift,.failed] ∧ result.hasMore = false ∧
    ∀ start page since, ¬PageRead projectorId scope fenceToken limit t start page since

theorem failureResult_leaves {reasonCode : DriftCode} {checkpoint : Option ProjectionCheckpoint} {sequence : ℕ} :
    (failureResult projectorId scope reasonCode checkpoint sequence).Leaves
      (fun t result => (∃ now u, t = ⟨.now,now⟩ :: u) ∧ result.status ∈ [.drift,.failed] ∧ result.hasMore = false)
      (fun _ _ => True) := by
  intro now
  refine Prog.Leaves.bind (Prog.leaves_of_forall _ (fun t a => ?_) fun _ _ => trivial)
  refine ⟨⟨now,_,rfl⟩,?_,rfl⟩
  by_cases hfailed : reasonCode = .graphApplyFailed ∨ reasonCode = .rebuildFailed
  · simp [hfailed]
  · simp [hfailed]

theorem StartsFrom.spec {stored : Option ProjectionCheckpoint} {start : ProjectionCheckpoint}
    (h : StartsFrom projectorId scope fenceToken stored start) :
    start.scope = scope ∧ start.fenceToken ≤ fenceToken ∧ isIdentifier projectorId = true := by
  cases stored with
  | none =>
    have hinitial : ProjectionCheckpoint.initialFor projectorId scope fenceToken = .ok start := h
    unfold ProjectionCheckpoint.initialFor at hinitial
    split_ifs at hinitial with hid hf
    cases hinitial
    exact ⟨rfl,le_rfl,hid⟩
  | some current =>
    obtain ⟨rfl,rfl,hscope,hfence⟩ := h
    exact ⟨hscope,hfence,start.projectorId.2⟩

theorem readCheckpoint_leaves : (readCheckpoint projectorId scope fenceToken).Leaves
    (fun t start => ∃ stored, StartsFrom projectorId scope fenceToken stored start ∧
      t = [⟨.readCheckpoint scope,.ok stored⟩])
    (fun t _ => t = [] ∨ ∃ answer, t = [⟨.readCheckpoint scope,answer⟩]) := by
  unfold readCheckpoint checkFence
  split_ifs with hf
  · intro answer
    cases answer with
    | error x => exact .inr ⟨_,rfl⟩
    | ok stored =>
      cases stored with
      | none =>
        cases hinitial : ProjectionCheckpoint.initialFor projectorId scope fenceToken with
        | error x => exact .inr ⟨_,rfl⟩
        | ok start => exact ⟨none,hinitial,rfl⟩
      | some current =>
        change Prog.Leaves _ _ (ite _ _ _)
        split_ifs with hmismatch hstale hstale
        · exact .inr ⟨_,rfl⟩
        · exact .inr ⟨_,rfl⟩
        · exact .inr ⟨_,rfl⟩
        · rw [not_or,not_not,not_not] at hmismatch
          exact ⟨some current,⟨rfl,hmismatch.1,hmismatch.2,not_lt.mp hstale⟩,rfl⟩
  · exact .inl rfl

private theorem aborted_early {t u : History} {result : ProjectionBatchResult}
    (ht : t = [] ∨ ∃ answer, t = [⟨.readCheckpoint scope,answer⟩]) (hu : ∃ now w, u = ⟨.now,now⟩ :: w)
    (hresult : result.status ∈ [.drift,.failed] ∧ result.hasMore = false) :
    Aborted projectorId scope fenceToken limit (t ++ u) result := by
  obtain ⟨now,w,rfl⟩ := hu
  refine ⟨hresult.1,hresult.2,?_⟩
  rintro start page since ⟨stored,_,_,heq⟩
  rcases ht with rfl | ⟨answer,rfl⟩
  · cases heq
  · cases heq

def pageOf : Event Call Call.Answer → Option (List PageItem)
  | ⟨.readAfter ..,.ok page⟩ => some page
  | _ => none

theorem PageRead.page {t : History} {start : ProjectionCheckpoint} {page : List PageItem} {since : History}
    (h : PageRead projectorId scope fenceToken limit t start page since) :
    (page.length : ℤ) ≤ limit ∧ (t.map pageOf)[1]? = some (some page) := by
  obtain ⟨_,_,hlimit,rfl⟩ := h
  exact ⟨hlimit,rfl⟩

/-- A program whose every part gives the batch up. -/
private theorem gives_up {reasonCode : DriftCode} {checkpoint : Option ProjectionCheckpoint} {sequence : ℕ} {β : Type}
    {t : History} (h : ∀ u result, (∃ now w, u = ⟨.now,now⟩ :: w) ∧ result.status ∈ [.drift,.failed] ∧
      result.hasMore = false → Aborted projectorId scope fenceToken limit (t ++ u) result) :
    ((failureResult projectorId scope reasonCode checkpoint sequence).bind fun result => .ret (Sum.inl result)).Leaves
      (fun u opened => ∃ result, opened = Sum.inl (β := β) result ∧
        Aborted projectorId scope fenceToken limit (t ++ u) result) (fun _ _ => True) := by
  refine Prog.Leaves.bind (failureResult_leaves.mono ?_ fun _ _ _ => trivial)
  intro u result hresult
  have haborted := h u result hresult
  exact ⟨result,rfl,by simpa using haborted⟩

private theorem opened_leaves (limit : ℤ) : Prog.Leaves
    (fun t opened => (∃ result, opened = Sum.inl result ∧ Aborted projectorId scope fenceToken limit t result) ∨
      ∃ stored start, opened = Sum.inr start ∧ StartsFrom projectorId scope fenceToken stored start ∧
        t = [⟨.readCheckpoint scope,.ok stored⟩]) (fun _ _ => True)
    (guarded (do return Sum.inr (← readCheckpoint projectorId scope fenceToken))
      (do return .inl (← failureResult projectorId scope .checkpointFenceLost))
      (do return .inl (← failureResult projectorId scope .checkpointConflict))) := by
  refine Prog.Leaves.handle (Prog.Leaves.bind (readCheckpoint_leaves.mono ?_ ?_))
  · rintro t start ⟨stored,hstarts,rfl⟩
    exact .inr ⟨stored,start,rfl,hstarts,rfl⟩
  · intro t x ht
    have hearly : ∀ u (result : ProjectionBatchResult), (∃ now w, u = ⟨.now,now⟩ :: w) ∧
        result.status ∈ [.drift,.failed] ∧ result.hasMore = false →
          Aborted projectorId scope fenceToken limit (t ++ u) result := fun u result h => aborted_early ht h.1 h.2
    rcases handler_cases (do return Sum.inl (← failureResult projectorId scope .checkpointFenceLost))
      (do return .inl (← failureResult projectorId scope .checkpointConflict)) x with h | h | h
    · rw [h]
      exact (gives_up hearly).mono (fun _ _ h => .inl h) fun _ _ h => h
    · rw [h]
      exact (gives_up hearly).mono (fun _ _ h => .inl h) fun _ _ h => h
    · rw [h]
      trivial

private theorem read_leaves (fenceToken : ℤ) (stored : Option ProjectionCheckpoint) (after : ℕ) (failed : Step ProjectionBatchResult)
    (hfailed : ∀ t : History, (∀ u result, (∃ now w, u = ⟨.now,now⟩ :: w) ∧ result.status ∈ [.drift,.failed] ∧
        result.hasMore = false → Aborted projectorId scope fenceToken limit (t ++ u) result) →
      (failed.bind fun result => .ret (Sum.inl result)).Leaves
        (fun u read => ∃ result, read = Sum.inl (β := List PageItem) result ∧
          Aborted projectorId scope fenceToken limit (t ++ u) result) (fun _ _ => True)) :
    Prog.Leaves (fun t read => (∃ result, read = Sum.inl result ∧
        Aborted projectorId scope fenceToken limit (⟨.readCheckpoint scope,.ok stored⟩ :: t) result) ∨
      ∃ page, read = Sum.inr page ∧ t = [⟨.readAfter scope after limit,.ok page⟩]) (fun _ _ => True)
    (guarded (do return Sum.inr (← (Prog.call (.readAfter scope after limit) Service.ofExcept : Step (List PageItem))))
      (do return .inl (← failed)) (do return .inl (← failed))) := by
  intro answer
  cases answer with
  | ok page => exact .inr ⟨page,rfl,rfl⟩
  | error x =>
    have hlate : ∀ u (result : ProjectionBatchResult), (∃ now w, u = ⟨.now,now⟩ :: w) ∧
        result.status ∈ [.drift,.failed] ∧ result.hasMore = false →
          Aborted projectorId scope fenceToken limit ([⟨.readCheckpoint scope,.ok stored⟩,
            ⟨.readAfter scope after limit,.error x⟩] ++ u) result := by
      rintro u result ⟨_,hstatus,hmore⟩
      refine ⟨hstatus,hmore,?_⟩
      intro start page since hread
      cases hread.page.2
    change Prog.Leaves _ _ (handler _ _ x)
    rcases handler_cases (do return Sum.inl (← failed)) (do return .inl (← failed)) x with h | h | h
    · rw [h]
      exact (hfailed _ hlate).mono (fun _ _ h => .inl h) fun _ _ h => h
    · rw [h]
      exact (hfailed _ hlate).mono (fun _ _ h => .inl h) fun _ _ h => h
    · rw [h]
      trivial

theorem openBatch_leaves : (openBatch projectorId scope fenceToken limit).Leaves
    (fun t opened => (∃ result, opened = .inl result ∧ Aborted projectorId scope fenceToken limit t result) ∨
      ∃ batch, opened = .inr batch ∧ PageRead projectorId scope fenceToken limit t batch.current batch.events [])
    (fun _ _ => True) := by
  refine Prog.Leaves.bind ((opened_leaves limit).mono ?_ fun _ _ h => h)
  rintro t _ (⟨result,rfl,haborted⟩ | ⟨stored,current,rfl,hstarts,rfl⟩)
  · exact .inl ⟨result,rfl,by simpa using haborted⟩
  · refine Prog.Leaves.bind ((read_leaves fenceToken stored current.lastSequence _ fun t => gives_up).mono ?_ fun _ _ h => h)
    rintro t _ (⟨result,rfl,haborted⟩ | ⟨page,rfl,rfl⟩)
    · exact .inl ⟨result,rfl,by simpa using haborted⟩
    · change Prog.Leaves _ _ (ite _ _ _)
      split_ifs with hlong
      · have hlate : ∀ u (result : ProjectionBatchResult), (∃ now w, u = ⟨.now,now⟩ :: w) ∧
            result.status ∈ [.drift,.failed] ∧ result.hasMore = false →
              Aborted projectorId scope fenceToken limit ([⟨.readCheckpoint scope,.ok stored⟩,
                ⟨.readAfter scope current.lastSequence limit,.ok page⟩] ++ u) result := by
          rintro u result ⟨_,hstatus,hmore⟩
          refine ⟨hstatus,hmore,?_⟩
          intro start page' since hread
          obtain ⟨hlimit,hpage⟩ := hread.page
          cases hpage
          exact absurd hlong (not_lt.mpr hlimit)
        exact (gives_up hlate).mono (fun _ _ h => .inl h) fun _ _ h => h
      · exact .inr ⟨_,rfl,stored,hstarts,not_lt.mp hlong,rfl⟩

theorem statusOf_took (h : ∀ outcome ∈ outcomes, outcome.status.Took) :
    statusOf outcomes ∈ [.complete,.applied,.replayed] := by
  have hdrift : ¬(outcomes.any fun item => item.status ∈ [.gap,.conflict,.rejected,.drift]) = true := by
    intro hany
    obtain ⟨outcome,hmem,hstatus⟩ := List.any_eq_true.mp hany
    rcases h outcome hmem with heq | heq <;> simp [heq] at hstatus
  have hfailed : ¬(outcomes.any fun item => item.status = .failed) = true := by
    intro hany
    obtain ⟨outcome,hmem,hstatus⟩ := List.any_eq_true.mp hany
    rcases h outcome hmem with heq | heq <;> simp [heq] at hstatus
  unfold statusOf
  split_ifs <;> simp

theorem statusOf_stopped (h : ∃ outcome ∈ outcomes, outcome.status.Stopped) : statusOf outcomes ∈ [.drift,.failed] := by
  obtain ⟨outcome,hmem,hstatus⟩ := h
  have hsome : outcomes ≠ [] := List.ne_nil_of_mem hmem
  unfold statusOf
  rw [if_neg hsome]
  rcases hstatus with hstatus | hstatus
  · rw [if_pos (List.any_eq_true.mpr ⟨outcome,hmem,decide_eq_true hstatus⟩)]
    simp
  · have hfailed : (outcomes.any fun item => item.status = .failed) = true :=
      List.any_eq_true.mpr ⟨outcome,hmem,decide_eq_true hstatus⟩
    split_ifs
    · simp
    · simp

def AllTaken (projectorId : String) (scope : ProjectionScope) (fenceToken limit : ℤ) (t : History)
    (page : List PageItem) (final : ProjectionCheckpoint) : Prop :=
  ∃ start since, PageRead projectorId scope fenceToken limit t start page since ∧
    Processed scope fenceToken since start page final

structure Truthful (projectorId : String) (scope : ProjectionScope) (fenceToken limit : ℤ) (t : History)
    (result : ProjectionBatchResult) : Prop where
  taken : result.status ∈ [.complete,.applied,.replayed] →
    ∃ page final, AllTaken projectorId scope fenceToken limit t page final ∧ result.checkpoint = some final
  full : result.hasMore = true →
    ∃ page final, AllTaken projectorId scope fenceToken limit t page final ∧ (page.length : ℤ) = limit
  early : (¬∃ page final, AllTaken projectorId scope fenceToken limit t page final) → result.status ∈ [.drift,.failed]

/-- After items that were all taken, an object that is no envelope was met. -/
def MetOther (projectorId : String) (scope : ProjectionScope) (fenceToken limit : ℤ) (t : History) : Prop :=
  ∃ start page since, PageRead projectorId scope fenceToken limit t start page since ∧
    MeetsOther scope fenceToken since start page

theorem projectScope_leaves : (projectScope projectorId scope fenceToken limit).Leaves
    (fun t result => Aborted projectorId scope fenceToken limit t result ∨
      ∃ start page since added final, PageRead projectorId scope fenceToken limit t start page since ∧
        Looped scope fenceToken since start page added final ∧ result.status = statusOf added ∧
        result.checkpoint = some final ∧ (result.hasMore = true ↔ (page.length : ℤ) = limit ∧
          statusOf added ∈ [.complete,.applied,.replayed])) (fun _ _ => True) := by
  unfold projectScope checkLimit
  split_ifs with hlimit
  · change Prog.Leaves _ _ (Prog.bind (openBatch projectorId scope fenceToken limit) _)
    refine Prog.Leaves.bind (openBatch_leaves.mono ?_ fun _ _ h => h)
    rintro t _ (⟨result,rfl,haborted⟩ | ⟨batch,rfl,hread⟩)
    · exact .inl (by simpa using haborted)
    · obtain ⟨stored,hstarts,hlength,rfl⟩ := hread
      refine Prog.Leaves.bind ((projectEvents_leaves hstarts.spec.1).mono ?_ fun _ _ h => h)
      rintro since ⟨outcomes,final⟩ ⟨added,hadded,hlooped⟩
      obtain rfl : outcomes = added := hadded
      refine .inr ⟨batch.current,batch.events,since,outcomes,final,⟨stored,hstarts,hlength,by simp⟩,hlooped,rfl,rfl,?_⟩
      simp
  · trivial

theorem PageRead.unique {t since since' : History} {start start' : ProjectionCheckpoint} {page page' : List PageItem}
    (h : PageRead projectorId scope fenceToken limit t start page since)
    (h' : PageRead projectorId scope fenceToken limit t start' page' since') :
    start' = start ∧ page' = page ∧ since' = since := by
  have hpages := h.page.2.symm.trans h'.page.2
  cases hpages
  obtain ⟨stored,hstarts,_,rfl⟩ := h
  obtain ⟨stored',hstarts',_,heq⟩ := h'
  rw [List.cons.injEq,List.cons.injEq] at heq
  obtain ⟨hstored,_,rfl⟩ := heq
  cases hstored
  refine ⟨?_,rfl,rfl⟩
  cases stored with
  | none => exact Except.ok.inj (hstarts'.symm.trans hstarts)
  | some stored => rw [hstarts.1,hstarts'.1]

/-- The status is truthful exactly if no object that is no envelope was met after items that were all taken. -/
theorem status_truthful {σ : Type} {W : World Call Call.Answer σ} {s s' : σ} {t : History}
    {result : ProjectionBatchResult} (h : Prog.Runs W (projectScope projectorId scope fenceToken limit) s t (.ret result) s') :
    Truthful projectorId scope fenceToken limit t result ↔ ¬MetOther projectorId scope fenceToken limit t := by
  rcases projectScope_leaves.returned h with ⟨hstatus,hmore,hunread⟩ |
    ⟨start,page,since,added,final,hread,hlooped,hstatus,hcheckpoint,hmore⟩
  · refine iff_of_true ⟨?_,?_,fun _ => hstatus⟩ ?_
    · intro hgood
      simp only [List.mem_cons,List.not_mem_nil,or_false] at hstatus hgood
      rcases hstatus with h | h <;> rw [h] at hgood <;> simp at hgood
    · intro hfull
      rw [hmore] at hfull
      cases hfull
    · rintro ⟨start,page,since,hread,_⟩
      exact hunread start page since hread
  · have hmet : MetOther projectorId scope fenceToken limit t ↔ MeetsOther scope fenceToken since start page := by
      constructor
      · rintro ⟨_,_,_,hread',hmeets⟩
        obtain ⟨rfl,rfl,rfl⟩ := hread.unique hread'
        exact hmeets
      · exact fun hmeets => ⟨start,page,since,hread,hmeets⟩
    rw [hmet]
    cases hlooped with
    | through hprocessed hadded =>
      have htaken : AllTaken projectorId scope fenceToken limit t page final := ⟨start,since,hread,hprocessed⟩
      refine iff_of_true ⟨fun _ => ⟨page,final,htaken,hcheckpoint⟩,?_,fun hnone => absurd ⟨page,final,htaken⟩ hnone⟩ ?_
      · exact fun hfull => ⟨page,final,htaken,(hmore.mp hfull).1⟩
      · exact fun hmeets => hprocessed.envelopes hmeets.mem
    | met hmeets hadded =>
      refine iff_of_false (fun htruthful => ?_) (not_not.mpr hmeets)
      obtain ⟨_,_,⟨_,_,hread',hprocessed⟩,_⟩ := htruthful.taken (hstatus ▸ statusOf_took hadded)
      obtain ⟨rfl,rfl,rfl⟩ := hread.unique hread'
      exact hprocessed.envelopes hmeets.mem
    | stopped hmeets hadded =>
      have hstopped := statusOf_stopped hadded
      have hbad : statusOf added ∉ [.complete,.applied,.replayed] := by
        intro hgood
        simp only [List.mem_cons,List.not_mem_nil,or_false] at hstopped hgood
        rcases hstopped with h | h <;> rw [h] at hgood <;> simp at hgood
      refine iff_of_true ⟨fun hgood => absurd (hstatus ▸ hgood) hbad,?_,fun _ => hstatus ▸ hstopped⟩ hmeets
      exact fun hfull => absurd (hmore.mp hfull).2 hbad

end

namespace Sample

/-- An outbox whose page holds what it is told. -/
def reading (page : List PageItem) : (c : Call) → c.Answer
  | .readCheckpoint _ => .ok none
  | .saveCheckpoint .. => .ok ()
  | .resetCheckpoint .. => .ok ()
  | .readAfter .. => .ok page
  | .applyEvent event _ => .ok (some ⟨event.eventId,true,false⟩)
  | .resetProjection .. => .ok ()
  | .now => 0
  | .record _ => .ok ()

def pageReport (page : List PageItem) : Except Raised ProjectionBatchResult :=
  (projectScope "projector:test" scope 1 1).eval (reading page)
def calls (page : List PageItem) : History :=
  ((projectScope "projector:test" scope 1 1).made (reading page)).map fun c => ⟨c,reading page c⟩

theorem reported_runs {page : List PageItem} {result : ProjectionBatchResult} (h : pageReport page = .ok result) :
    Prog.Runs (fun _ c r _ => r = reading page c) (projectScope "projector:test" scope 1 1) () (calls page)
      (.ret result) () := Prog.runs_of_eval h

end Sample

open Sample in
theorem first_truthful : ∃ result, pageReport [.envelope first] = .ok result ∧ result.status = .applied ∧
    (Truthful "projector:test" scope 1 1 (calls [.envelope first]) result ↔
      ¬MetOther "projector:test" scope 1 1 (calls [.envelope first])) := by
  have hstatus : (pageReport [.envelope first]).toOption.map (·.status) = some .applied := by decide +kernel
  obtain ⟨result,hresult,happlied⟩ := Option.map_eq_some_iff.mp hstatus
  have hok : pageReport [.envelope first] = .ok result := by
    cases h : pageReport [.envelope first] with
    | error x =>
      rw [h] at hresult
      cases hresult
    | ok r =>
      rw [h] at hresult
      exact congrArg _ (Option.some.inj hresult)
  exact ⟨result,hok,happlied,status_truthful (reported_runs hok)⟩

open Sample in
theorem other_reported_complete : ∃ result, pageReport [.other] = .ok result ∧ result.status = .complete ∧
    result.hasMore = true ∧ ¬Truthful "projector:test" scope 1 1 (calls [.other]) result := by
  refine ⟨_,rfl,rfl,rfl,?_⟩
  rintro ⟨htaken,_,_⟩
  obtain ⟨page,final,⟨start,since,hread,hprocessed⟩,_⟩ := htaken (by decide)
  have hpage := hread.page.2
  cases hpage
  exact hprocessed.envelopes (by simp)

end Arbora.Projection
