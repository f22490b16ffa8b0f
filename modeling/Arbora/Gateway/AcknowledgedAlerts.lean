import Arbora.Gateway.StormCap

/-! What a sender that is answered 200 may rely on: all alerts of its payload are in the graph and queued for triage
exactly where none of them was passed over and the engine took all of them, or none. -/
namespace Arbora.Gateway
open Interaction

section

variable {α : Type} {g : (e : Call) → e.Result}

theorem eval_attempt (p : Step α) : (attempt p).eval g = .ok (p.eval g).toOption := by
  induction p with
  | ret a => rfl
  | raise x => rfl
  | call e k ih => exact ih (g e)

theorem made_attempt (p : Step α) : (attempt p).made g = p.made g := by
  induction p with
  | ret a => rfl
  | raise x => rfl
  | call e k ih => exact congrArg (e :: ·) (ih (g e))

/-- A program has given the engine the node of an event, and was told that the engine has it. -/
def Persisted (p : Step α) (g : (e : Call) → e.Result) (i : ℕ) (event : FleetEvent) : Prop :=
  ∃ eventId node, .addNode i event eventId node ∈ p.made g ∧ (g (.addNode i event eventId node)).outcome = .ok ()

def Submitted (p : Step α) (g : (e : Call) → e.Result) (i : ℕ) : Prop :=
  ∃ eventId sourceType, .submitTask i eventId sourceType ∈ p.made g ∧ ∃ job, g (.submitTask i eventId sourceType) = .ok job

variable {β γ : Type} {p : Step α} {q : Step β} {r : Step γ} {i : ℕ} {event : FleetEvent}

theorem persisted_append (h : p.made g = q.made g ++ r.made g) :
    Persisted p g i event ↔ Persisted q g i event ∨ Persisted r g i event := by
  unfold Persisted
  simp only [h,List.mem_append,or_and_right,exists_or]

theorem submitted_append (h : p.made g = q.made g ++ r.made g) : Submitted p g i ↔ Submitted q g i ∨ Submitted r g i := by
  unfold Submitted
  simp only [h,List.mem_append,or_and_right,exists_or]

end

variable (B : Builtins) (g : (e : Call) → e.Result)

section

variable (i : ℕ) (event : FleetEvent)

def eventId : String := "fleet_event:" ++ g (.uuid i)
def Persists : Prop := ∃ refs, references B event = .ok refs ∧
  (g (.addNode i event (eventId g i) (node B event refs (g (.correlationStamp i))))).outcome = .ok ()
def Submits : Prop := g (.submitter i) = true ∧ ∃ job, g (.submitTask i (eventId g i) (sourceType B event.source)) = .ok job

variable {B g i event}

theorem persistEvent_of_references {refs : String × String × String} (hrefs : references B event = .ok refs) :
    (persistEvent B i event).eval g =
        ((g (.addNode i event (eventId g i) (node B event refs (g (.correlationStamp i))))).outcome.map fun _ => eventId g i) ∧
      (persistEvent B i event).made g =
        [.uuid i,.correlationStamp i,.addNode i event (eventId g i) (node B event refs (g (.correlationStamp i)))] := by
  unfold persistEvent
  rw [hrefs]
  change ((Prog.ofExcept (g (.addNode i event (eventId g i) (node B event refs (g (.correlationStamp i))))).outcome).bind
    fun _ => (.ret (eventId g i) : Step String)).eval g = _ ∧ _ :: _ :: _ :: ((Prog.ofExcept
    (g (.addNode i event (eventId g i) (node B event refs (g (.correlationStamp i))))).outcome).bind
    fun _ => (.ret (eventId g i) : Step String)).made g = _
  cases (g (.addNode i event (eventId g i) (node B event refs (g (.correlationStamp i))))).outcome with
  | ok u => exact ⟨rfl,rfl⟩
  | error failure => exact ⟨rfl,rfl⟩

theorem persistEvent_of_error {failure : Failure} (hrefs : references B event = .error failure) :
    (persistEvent B i event).eval g = .error failure ∧ (persistEvent B i event).made g = [.uuid i] := by
  unfold persistEvent
  rw [hrefs]
  exact ⟨rfl,rfl⟩

variable (B g i event) in
theorem persistEvent_eval : (persistEvent B i event).eval g = .ok (eventId g i) ∧ Persists B g i event ∨
    (∃ failure, (persistEvent B i event).eval g = .error failure) ∧ ¬Persists B g i event := by
  cases hrefs : references B event with
  | error failure =>
    exact Or.inr ⟨⟨failure,(persistEvent_of_error hrefs).1⟩,fun ⟨refs,hok,_⟩ => by rw [hrefs] at hok; cases hok⟩
  | ok refs =>
    rw [(persistEvent_of_references hrefs).1]
    cases houtcome : (g (.addNode i event (eventId g i) (node B event refs (g (.correlationStamp i))))).outcome with
    | ok u => exact Or.inl ⟨rfl,refs,hrefs,houtcome⟩
    | error failure =>
      refine Or.inr ⟨⟨failure,rfl⟩,?_⟩
      rintro ⟨refs',hrefs',hok⟩
      rw [hrefs] at hrefs'
      cases hrefs'
      rw [houtcome] at hok
      cases hok

theorem acceptEvent_of_persists (h : Persists B g i event) :
    (∃ record, (acceptEvent B i event).eval g = .ok (some record)) ∧
      (acceptEvent B i event).made g = (persistEvent B i event).made g ++ (enqueueTriage B i (eventId g i) event).made g := by
  rcases persistEvent_eval B g i event with ⟨heval,-⟩ | ⟨-,hnot⟩
  · have hattempt : (attempt (persistEvent B i event)).eval g = .ok (some (eventId g i)) := by
      rw [eval_attempt,heval]
      rfl
    unfold acceptEvent
    rw [Prog.bind_eq,Prog.eval_bind_of_ok hattempt,Prog.made_bind_of_ok hattempt,made_attempt]
    dsimp only
    rw [Prog.bind_eq,Prog.eval_bind_of_ok (eval_attempt _),Prog.made_bind_of_ok (eval_attempt _),made_attempt]
    refine ⟨⟨_,rfl⟩,?_⟩
    rw [Prog.pure_eq,Prog.made,List.append_nil]
  · exact absurd h hnot

theorem acceptEvent_of_not_persists (h : ¬Persists B g i event) : (acceptEvent B i event).eval g = .ok none ∧
    (acceptEvent B i event).made g = (persistEvent B i event).made g := by
  rcases persistEvent_eval B g i event with ⟨-,hyes⟩ | ⟨⟨failure,heval⟩,-⟩
  · exact absurd hyes h
  · have hattempt : (attempt (persistEvent B i event)).eval g = .ok none := by
      rw [eval_attempt,heval]
      rfl
    unfold acceptEvent
    rw [Prog.bind_eq,Prog.eval_bind_of_ok hattempt,Prog.made_bind_of_ok hattempt,made_attempt]
    exact ⟨rfl,List.append_nil _⟩

theorem enqueueTriage_made (id : String) : (enqueueTriage B i id event).made g =
    .submitter i :: if g (.submitter i) = true then [.submitTask i id (sourceType B event.source)] else [] := by
  unfold enqueueTriage
  simp only [Prog.bind_eq,Prog.ask,Prog.call_bind,Prog.ret_bind]
  refine congrArg (Call.submitter i :: ·) ?_
  dsimp only
  by_cases hsubmitter : g (.submitter i) = true
  · rw [if_pos hsubmitter,if_pos hsubmitter]
    refine congrArg (_ :: ·) ?_
    cases g (.submitTask i id (sourceType B event.source)) with
    | ok job => rfl
    | error failure => rfl
  · rw [if_neg hsubmitter,if_neg hsubmitter]
    rfl

theorem mem_persistEvent_addNode {j : ℕ} {ev : FleetEvent} {id : String} {nd : Node} :
    .addNode j ev id nd ∈ (persistEvent B i event).made g ↔ ∃ refs, references B event = .ok refs ∧
      Call.addNode j ev id nd = .addNode i event (eventId g i) (node B event refs (g (.correlationStamp i))) := by
  cases hrefs : references B event with
  | error failure =>
    rw [(persistEvent_of_error hrefs).2]
    simp
  | ok refs =>
    rw [(persistEvent_of_references hrefs).2]
    simp

theorem not_mem_persistEvent_submitTask {j : ℕ} {id st : String} : .submitTask j id st ∉ (persistEvent B i event).made g := by
  cases hrefs : references B event with
  | error failure =>
    rw [(persistEvent_of_error hrefs).2]
    simp
  | ok refs =>
    rw [(persistEvent_of_references hrefs).2]
    simp

theorem persisted_acceptEvent {j : ℕ} {ev : FleetEvent} :
    Persisted (acceptEvent B i event) g j ev ↔ j = i ∧ ev = event ∧ Persists B g i event := by
  have hmade : ∀ id nd, .addNode j ev id nd ∈ (acceptEvent B i event).made g ↔
      .addNode j ev id nd ∈ (persistEvent B i event).made g := by
    intro id nd
    by_cases hpersists : Persists B g i event
    · rw [(acceptEvent_of_persists hpersists).2,List.mem_append,enqueueTriage_made]
      refine or_iff_left fun hmem => ?_
      split_ifs at hmem <;> simp at hmem
    · rw [(acceptEvent_of_not_persists hpersists).2]
  constructor
  · rintro ⟨id,nd,hmem,houtcome⟩
    obtain ⟨refs,hrefs,heq⟩ := mem_persistEvent_addNode.mp ((hmade id nd).mp hmem)
    cases heq
    exact ⟨rfl,rfl,refs,hrefs,houtcome⟩
  · rintro ⟨rfl,rfl,refs,hrefs,houtcome⟩
    exact ⟨_,_,(hmade _ _).mpr (mem_persistEvent_addNode.mpr ⟨refs,hrefs,rfl⟩),houtcome⟩

theorem submitted_acceptEvent {j : ℕ} :
    Submitted (acceptEvent B i event) g j ↔ j = i ∧ Persists B g i event ∧ Submits B g i event := by
  by_cases hpersists : Persists B g i event
  · unfold Submitted Submits
    rw [(acceptEvent_of_persists hpersists).2,enqueueTriage_made]
    simp only [List.mem_append,not_mem_persistEvent_submitTask,false_or]
    constructor
    · rintro ⟨id,st,hmem,job,hjob⟩
      split_ifs at hmem with hsubmitter
      · simp only [List.mem_cons,reduceCtorEq,false_or,List.not_mem_nil,or_false,Call.submitTask.injEq] at hmem
        obtain ⟨rfl,rfl,rfl⟩ := hmem
        exact ⟨rfl,hpersists,hsubmitter,job,hjob⟩
      · simp at hmem
    · rintro ⟨rfl,-,hsubmitter,job,hjob⟩
      refine ⟨_,_,?_,job,hjob⟩
      rw [if_pos hsubmitter]
      exact List.mem_cons_of_mem _ List.mem_cons_self
  · unfold Submitted
    rw [(acceptEvent_of_not_persists hpersists).2]
    constructor
    · rintro ⟨id,st,hmem,-⟩
      exact absurd hmem not_mem_persistEvent_submitTask
    · rintro ⟨-,hyes,-⟩
      exact absurd hyes hpersists

variable (B g i event) in
theorem acceptEvent_eval : ∃ record, (acceptEvent B i event).eval g = .ok record ∧ (record = none ↔ ¬Persists B g i event) := by
  by_cases hpersists : Persists B g i event
  · obtain ⟨⟨record,heval⟩,-⟩ := acceptEvent_of_persists hpersists
    exact ⟨some record,heval,fun h => (nomatch h),fun h => absurd hpersists h⟩
  · exact ⟨none,(acceptEvent_of_not_persists hpersists).1,fun _ => hpersists,fun _ => rfl⟩

variable {k j : ℕ} {events : List FleetEvent} {ev : FleetEvent}

theorem acceptEvents_cons : acceptEvents B k (event :: events) =
    (acceptEvent B k event).bind fun record => (acceptEvents B (k+1) events).bind fun records =>
      .ret (record.toList ++ records) := rfl

variable (B g) in
theorem acceptEvents_eval (k : ℕ) (events : List FleetEvent) :
    ∃ records, (acceptEvents B k events).eval g = .ok records ∧
      (records = [] ↔ ∀ i event, events[i]? = some event → ¬Persists B g (k+i) event) := by
  induction events generalizing k with
  | nil => exact ⟨[],rfl,fun _ i event h => by simp at h,fun _ => rfl⟩
  | cons event events ih =>
    obtain ⟨record,hrecord,hnone⟩ := acceptEvent_eval B g k event
    obtain ⟨records,hrecords,hempty⟩ := ih (k+1)
    refine ⟨record.toList ++ records,?_,?_⟩
    · rw [acceptEvents_cons,Prog.eval_bind_of_ok hrecord,Prog.eval_bind_of_ok hrecords]
      rfl
    · have hlist : record.toList = [] ↔ record = none := by cases record <;> simp
      rw [List.append_eq_nil_iff,hlist,hnone,hempty]
      constructor
      · rintro ⟨hfirst,hrest⟩ i ev hev
        cases i with
        | zero =>
          cases hev
          exact hfirst
        | succ i =>
          have h := hrest i ev hev
          rwa [Nat.add_assoc,Nat.add_comm 1] at h
      · intro h
        refine ⟨h 0 event rfl,fun i ev hev => ?_⟩
        rw [Nat.add_assoc,Nat.add_comm 1]
        exact h (i+1) ev hev

theorem acceptEvents_made : (acceptEvents B k (event :: events)).made g =
    (acceptEvent B k event).made g ++ (acceptEvents B (k+1) events).made g := by
  obtain ⟨record,hrecord,-⟩ := acceptEvent_eval B g k event
  obtain ⟨records,hrecords,-⟩ := acceptEvents_eval B g (k+1) events
  rw [acceptEvents_cons,Prog.made_bind_of_ok hrecord,Prog.made_bind_of_ok hrecords]
  exact congrArg ((acceptEvent B k event).made g ++ ·) (List.append_nil _)

theorem persisted_acceptEvents : Persisted (acceptEvents B k events) g j ev ↔
    ∃ i, j = k+i ∧ events[i]? = some ev ∧ Persists B g j ev := by
  induction events generalizing k with
  | nil =>
    constructor
    · rintro ⟨id,nd,hmem,-⟩
      cases hmem
    · rintro ⟨i,-,hev,-⟩
      simp at hev
  | cons event events ih =>
    rw [persisted_append acceptEvents_made,persisted_acceptEvent,ih]
    constructor
    · rintro (⟨rfl,rfl,hpersists⟩ | ⟨i,rfl,hev,hpersists⟩)
      · exact ⟨0,rfl,rfl,hpersists⟩
      · exact ⟨i+1,by omega,hev,hpersists⟩
    · rintro ⟨i,rfl,hev,hpersists⟩
      cases i with
      | zero =>
        cases hev
        exact Or.inl ⟨rfl,rfl,hpersists⟩
      | succ i => exact Or.inr ⟨i,by omega,hev,hpersists⟩

theorem submitted_acceptEvents : Submitted (acceptEvents B k events) g j ↔
    ∃ i ev, j = k+i ∧ events[i]? = some ev ∧ Persists B g j ev ∧ Submits B g j ev := by
  induction events generalizing k with
  | nil =>
    constructor
    · rintro ⟨id,st,hmem,-⟩
      cases hmem
    · rintro ⟨i,ev,-,hev,-⟩
      simp at hev
  | cons event events ih =>
    rw [submitted_append acceptEvents_made,submitted_acceptEvent,ih]
    constructor
    · rintro (⟨rfl,hpersists,hsubmits⟩ | ⟨i,ev,rfl,hev,hboth⟩)
      · exact ⟨0,event,rfl,rfl,hpersists,hsubmits⟩
      · exact ⟨i+1,ev,by omega,hev,hboth⟩
    · rintro ⟨i,ev,rfl,hev,hboth⟩
      cases i with
      | zero =>
        cases hev
        exact Or.inl ⟨rfl,hboth⟩
      | succ i => exact Or.inr ⟨i,ev,by omega,hev,hboth⟩

end

section

variable (request : Request)

structure Reaches (payload : Value) (events : List FleetEvent) : Prop where
  authenticated : ∃ settings, request.settings = .ok settings ∧ authenticateRequest request settings = .ok none ∧
    readPayload B request settings = .ok payload
  read : readReports B request.receivedAt payload (some (sourceHint request)) = events.map .ok
  admitted : ∃ event sourceRef, events.head? = some event ∧ B.ephemeralSourceRef event.source = .ok sourceRef ∧
    g (.count (g .clock/60) sourceRef events.length) = false
  engine : g .engine = true

def Faithful : Prop :=
  (statusSeen ((fleetEventsReceive B request).eval g) = 200 →
    ∀ settings payload, request.settings = .ok settings → readPayload B request settings = .ok payload →
      ∀ i report, (reports B request.receivedAt payload (some (sourceHint request)))[i]? = some report →
        ∃ event, report = .ok event ∧ Persisted (fleetEventsReceive B request) g i event ∧
          Submitted (fleetEventsReceive B request) g i) ∧
  (statusSeen ((fleetEventsReceive B request).eval g) ≠ 200 →
    400 ≤ statusSeen ((fleetEventsReceive B request).eval g) ∧ statusSeen ((fleetEventsReceive B request).eval g) < 600)

/-- Where a request's events meet the engine, it takes none of them, or all events and their tasks, and no alert was
passed over. -/
def Complete : Prop := ∀ payload events, Reaches B g request payload events →
  (∀ i event, events[i]? = some event → ¬Persists B g i event) ∨
    Whole payload ∧ ∀ i event, events[i]? = some event → Persists B g i event ∧ Submits B g i event

variable {B g request} {payload : Value} {events : List FleetEvent}

theorem receive_of_reaches (h : Reaches B g request payload events) :
    ∃ sourceRef n, (fleetEventsReceive B request).eval g = ((acceptEvents B 0 events).eval g).map acceptedResponse ∧
      (fleetEventsReceive B request).made g =
        [.clock,.count (g .clock/60) sourceRef n,.engine] ++ (acceptEvents B 0 events).made g := by
  obtain ⟨⟨settings,hsettings,hauth,hpayload⟩,hread,⟨event,sourceRef,hhead,href,hcount⟩,hengine⟩ := h
  obtain ⟨records,hrecords,-⟩ := acceptEvents_eval B g 0 events
  have hnormalize := normalizePayload_ok.mpr hread
  cases events with
  | nil => cases hhead
  | cons first rest =>
    cases hhead
    refine ⟨sourceRef,(event :: rest).length,?_⟩
    have herror : (eventRequestError B (event :: rest)).eval g = .ok none ∧ (eventRequestError B (event :: rest)).made g =
        [.clock,.count (g .clock/60) sourceRef (event :: rest).length] := by
      unfold eventRequestError stormCapped
      simp only [Prog.bind_eq,Prog.ask,Prog.call_bind,href,Prog.ofExcept,Prog.ret_bind,Prog.eval,Prog.made,hcount]
      exact ⟨rfl,rfl⟩
    unfold fleetEventsReceive
    simp only [Prog.bind_eq,hsettings,Prog.ofExcept,Prog.ret_bind,hauth,hpayload,hnormalize]
    rw [Prog.eval_bind_of_ok herror.1,Prog.made_bind_of_ok herror.1,herror.2]
    simp only [Prog.ask,Prog.call_bind,Prog.ret_bind,Prog.eval,Prog.made,hengine,if_true]
    rw [Prog.eval_bind_of_ok hrecords,Prog.made_bind_of_ok hrecords,hrecords]
    exact ⟨rfl,congrArg ([Call.clock,.count (g .clock/60) sourceRef (event :: rest).length] ++ Call.engine :: ·)
      (List.append_nil _)⟩

/-- Statuses that tell of an error. -/
abbrev Refused (status : ℕ) : Prop := 400 ≤ status ∧ status < 600 ∧ status ≠ 200

theorem authenticateRequest_refused {settings : Settings} {refused : Response}
    (h : authenticateRequest request settings = .ok (some refused)) : Refused refused.status := by
  unfold authenticateRequest at h
  split at h
  · cases h
    decide
  · obtain ⟨authenticated,-,h⟩ := Checks.bind_ok.mp h
    cases authenticated with
    | true => cases h
    | false =>
      cases h
      decide

theorem readBody_refused {limit : ℤ} {chunks : List (Except Failure (List UInt8))} {body : List UInt8} {refused : Response}
    (h : readBody limit chunks body = .error refused) : Refused refused.status := by
  induction chunks generalizing body with
  | nil => cases h
  | cons chunk chunks ih =>
    cases chunk with
    | error failure =>
      cases h
      decide
    | ok chunk =>
      unfold readBody at h
      split_ifs at h
      · cases h
        decide
      · exact ih h

theorem readPayload_refused {settings : Settings} {refused : Response} (h : readPayload B request settings = .error refused) :
    Refused refused.status := by
  unfold readPayload at h
  cases hbody : readBody (max 1 (min settings.maxUploadSize maxEventBodyBytes)) request.chunks [] with
  | error refused' =>
    rw [hbody] at h
    cases h
    exact readBody_refused hbody
  | ok body =>
    rw [hbody] at h
    cases hloads : B.loads body with
    | ok payload =>
      simp only [bind,Except.bind,hloads] at h
      cases h
    | error failure =>
      simp only [bind,Except.bind,hloads] at h
      cases h
      decide

variable (B g request) in
theorem refused_or_reaches : Refused (statusSeen ((fleetEventsReceive B request).eval g)) ∨
    ∃ payload events, Reaches B g request payload events := by
  unfold fleetEventsReceive
  simp only [Prog.bind_eq]
  cases hsettings : request.settings with
  | error failure => exact Or.inl (by decide : Refused 500)
  | ok settings =>
    simp only [Prog.ofExcept,Prog.ret_bind]
    cases hauth : authenticateRequest request settings with
    | error failure => exact Or.inl (by decide : Refused 500)
    | ok refused =>
      simp only [Prog.ret_bind]
      cases refused with
      | some refused =>
        exact Or.inl (authenticateRequest_refused hauth)
      | none =>
        dsimp only
        cases hpayload : readPayload B request settings with
        | error refused =>
          exact Or.inl (readPayload_refused hpayload)
        | ok payload =>
          dsimp only
          cases hnormalize : normalizePayload B request.receivedAt payload (some (sourceHint request)) with
          | error failure => exact Or.inl (by decide : Refused 500)
          | ok events =>
            dsimp only
            cases events with
            | nil => exact Or.inl (by decide : Refused 400)
            | cons event rest =>
              have hread := normalizePayload_ok.mp hnormalize
              unfold eventRequestError stormCapped
              simp only [Prog.bind_eq,Prog.ask,Prog.call_bind,Prog.ret_bind,Prog.eval,Prog.ofExcept]
              cases href : B.ephemeralSourceRef event.source with
              | error failure => exact Or.inl (by decide : Refused 500)
              | ok sourceRef =>
                simp only [Prog.ret_bind,Prog.call_bind,Prog.eval]
                cases hcount : g (.count (g .clock/60) sourceRef (event :: rest).length) with
                | true => exact Or.inl (by decide : Refused 429)
                | false =>
                  cases hengine : g .engine with
                  | false =>
                    refine Or.inl ?_
                    change Refused (statusSeen (Prog.eval g (if g .engine = true then _ else _)))
                    rw [hengine]
                    exact (by decide : Refused 503)
                  | true =>
                    exact Or.inr ⟨payload,event :: rest,⟨settings,hsettings,hauth,hpayload⟩,hread,
                      ⟨event,sourceRef,rfl,href,hcount⟩,hengine⟩

theorem Reaches.unique {payload' : Value} {events' : List FleetEvent} (h : Reaches B g request payload events)
    (h' : Reaches B g request payload' events') : payload' = payload ∧ events' = events := by
  obtain ⟨⟨settings,hsettings,-,hpayload⟩,hread,-,-⟩ := h
  obtain ⟨⟨settings',hsettings',-,hpayload'⟩,hread',-,-⟩ := h'
  rw [hsettings] at hsettings'
  cases hsettings'
  rw [hpayload] at hpayload'
  cases hpayload'
  rw [hread] at hread'
  exact ⟨rfl,List.map_injective_iff.mpr (fun _ _ => Except.ok.inj) hread'.symm⟩

theorem done_of_reaches (h : Reaches B g request payload events) (i : ℕ) :
    (∀ event, Persisted (fleetEventsReceive B request) g i event ↔ events[i]? = some event ∧ Persists B g i event) ∧
      (Submitted (fleetEventsReceive B request) g i ↔
        ∃ event, events[i]? = some event ∧ Persists B g i event ∧ Submits B g i event) := by
  obtain ⟨sourceRef,n,-,hmade⟩ := receive_of_reaches h
  constructor
  · intro event
    have hsame : Persisted (fleetEventsReceive B request) g i event ↔ Persisted (acceptEvents B 0 events) g i event := by
      unfold Persisted
      simp [hmade]
    rw [hsame,persisted_acceptEvents]
    constructor
    · rintro ⟨j,rfl,hevent,hpersists⟩
      rw [Nat.zero_add] at hpersists ⊢
      exact ⟨hevent,hpersists⟩
    · rintro ⟨hevent,hpersists⟩
      exact ⟨i,(Nat.zero_add i).symm,hevent,hpersists⟩
  · have hsame : Submitted (fleetEventsReceive B request) g i ↔ Submitted (acceptEvents B 0 events) g i := by
      unfold Submitted
      simp [hmade]
    rw [hsame,submitted_acceptEvents]
    constructor
    · rintro ⟨j,event,rfl,hevent,hboth⟩
      rw [Nat.zero_add] at hboth ⊢
      exact ⟨event,hevent,hboth⟩
    · rintro ⟨event,hevent,hboth⟩
      exact ⟨i,event,(Nat.zero_add i).symm,hevent,hboth⟩

theorem status_of_reaches (h : Reaches B g request payload events) :
    (∀ i event, events[i]? = some event → ¬Persists B g i event) ∧
        statusSeen ((fleetEventsReceive B request).eval g) = 500 ∨
      (¬∀ i event, events[i]? = some event → ¬Persists B g i event) ∧
        statusSeen ((fleetEventsReceive B request).eval g) = 200 := by
  obtain ⟨sourceRef,n,heval,-⟩ := receive_of_reaches h
  obtain ⟨records,hrecords,hempty⟩ := acceptEvents_eval B g 0 events
  simp only [Nat.zero_add] at hempty
  rw [heval,hrecords,← hempty]
  cases records with
  | nil => exact Or.inl ⟨rfl,rfl⟩
  | cons record records => exact Or.inr ⟨List.cons_ne_nil _ _,rfl⟩

theorem faithful_iff : Faithful B g request ↔ Complete B g request := by
  have hrefused : Refused (statusSeen ((fleetEventsReceive B request).eval g)) → (Faithful B g request ↔ Complete B g request) := by
    intro hrefused
    refine ⟨fun _ payload events hreaches => ?_,fun _ => ⟨fun h => absurd h hrefused.2.2,fun _ => ⟨hrefused.1,hrefused.2.1⟩⟩⟩
    rcases status_of_reaches hreaches with ⟨hnone,-⟩ | ⟨-,hstatus⟩
    · exact Or.inl hnone
    · exact absurd hstatus hrefused.2.2
  rcases refused_or_reaches B g request with hstatus | ⟨payload,events,hreaches⟩
  · exact hrefused hstatus
  rcases status_of_reaches hreaches with ⟨-,hstatus⟩ | ⟨hsome,hstatus⟩
  · exact hrefused (by rw [hstatus]; decide)
  -- some event persists, so the sender is answered 200
  have hdone := done_of_reaches hreaches
  obtain ⟨⟨settings,hsettings,-,hpayload⟩,hread,-,-⟩ := id hreaches
  obtain ⟨rest,hreports,hwhole⟩ := readReports_append B request.receivedAt payload (some (sourceHint request))
  rw [hread] at hreports
  constructor
  · rintro ⟨hkept,-⟩ payload' events' hreaches'
    obtain ⟨rfl,rfl⟩ := hreaches.unique hreaches'
    have hkept := hkept hstatus settings payload' hsettings hpayload
    rw [hreports] at hkept
    refine Or.inr ⟨hwhole.mp ?_,fun i event hevent => ?_⟩
    · cases rest with
      | nil => rfl
      | cons report rest =>
        obtain ⟨event,-,hpersisted,-⟩ := hkept events'.length report (by simp)
        have hplace := (((hdone events'.length).1 event).mp hpersisted).1
        simp at hplace
    · have hreport : (events'.map Except.ok ++ rest)[i]? = some (Except.ok event : Except Failure FleetEvent) := by
        rw [List.getElem?_append_left,List.getElem?_map,hevent]
        · rfl
        · rw [List.length_map]
          exact (List.getElem?_eq_some_iff.mp hevent).1
      obtain ⟨event',heq,hpersisted,hsubmitted⟩ := hkept i _ hreport
      cases heq
      obtain ⟨event'',hevent'',-,hsubmits⟩ := (hdone i).2.mp hsubmitted
      rw [hevent] at hevent''
      cases hevent''
      exact ⟨(((hdone i).1 event).mp hpersisted).2,hsubmits⟩
  · intro hcomplete
    rcases hcomplete payload events hreaches with hnone | ⟨hall,htaken⟩
    · exact absurd hnone hsome
    · refine ⟨fun _ settings' payload' hsettings' hpayload' i report hreport => ?_,fun h => absurd hstatus h⟩
      rw [hsettings] at hsettings'
      cases hsettings'
      rw [hpayload] at hpayload'
      cases hpayload'
      rw [hreports,hwhole.mpr hall,List.append_nil,List.getElem?_map,Option.map_eq_some_iff] at hreport
      obtain ⟨event,hevent,rfl⟩ := hreport
      obtain ⟨hpersists,hsubmits⟩ := htaken i event hevent
      exact ⟨event,rfl,((hdone i).1 event).mpr ⟨hevent,hpersists⟩,(hdone i).2.mpr ⟨event,hevent,hpersists,hsubmits⟩⟩

/-- Payloads are normalized, senders are answered faithfully and storms are capped exactly where their payloads are
shaped so, the engine takes all of their alerts or none, and the clock is timely. -/
theorem acknowledged_alerts (B : Builtins) : (∀ receivedAt payload hint,
      (∃ events, normalizePayload B receivedAt payload hint = .ok events) ↔ Shaped payload) ∧
    (∀ g request, Faithful B g request ↔ Complete B g request) ∧
    ∀ {ι : Type} [DecidableEq ι] (requests : ι → Request) (now : ℕ) (log : List (ι × Event Call Call.Result))
      (d : Pool ι Call Call.Result Failure Response Server),
      Pool.StepsWhere Serves Timely (ingress B requests now) log d →
      ∀ minute source, nodesGiven log minute source ≤ rateCapPerMinute :=
  ⟨fun _ _ _ => normalizePayload_returns,fun _ _ => faithful_iff,
    fun requests now _ _ h minute source => nodesGiven_le requests now h minute source⟩

end

def outage : Value := .dict [("name",.str "db")]
def outageText : String := "\x7b\"name\": \"db\"\x7d"

def readers : Builtins where
  str _ := outageText
  dumps _ := outageText
  lower text := String.ofList (text.toList.map Char.toLower)
  ephemeralSourceRef source := .ok ("source_" ++ source)
  persistenceReference kind value scope := .ok (kind ++ ":" ++ scope ++ ":" ++ value)
  loads _ := .ok outage

def outageRequest : Request where
  settings := .ok ⟨none,1048576⟩
  resolveRef _ := .ok none
  offeredToken := none
  actorAuthenticated := .ok true
  chunks := [.ok (outageText.toList.map fun c => c.toNat.toUInt8)]
  sourceParam := none
  sourceHeader := none
  receivedAt := "2024-01-01T00:00:00Z"

def outageEvent : FleetEvent := normalizeGeneric readers "2024-01-01T00:00:00Z" [("name",.str "db")] (some (sourceHint outageRequest))

def engineAnswers (submits : Except Failure (Option String)) : (e : Call) → e.Result
  | .clock => (0 : ℕ)
  | .count _ _ _ => false
  | .engine => true
  | .uuid _ => "0"
  | .correlationStamp _ => []
  | .addNode _ _ _ _ => ⟨0,.ok ()⟩
  | .submitter _ => true
  | .submitTask _ _ _ => submits

theorem outage_reaches (submits : Except Failure (Option String)) :
    Reaches readers (engineAnswers submits) outageRequest outage [outageEvent] where
  authenticated := ⟨⟨none,1048576⟩,rfl,rfl,rfl⟩
  read := rfl
  admitted := ⟨outageEvent,_,rfl,rfl,rfl⟩
  engine := rfl

theorem outage_persists (submits : Except Failure (Option String)) : Persists readers (engineAnswers submits) 0 outageEvent :=
  ⟨_,rfl,rfl⟩

/-- The event is in the graph and its task is not queued, yet the sender is answered 200. -/
theorem outage_lost : ¬Faithful readers (engineAnswers (.error (.other "queue is full"))) outageRequest := by
  intro h
  rcases faithful_iff.mp h outage [outageEvent] (outage_reaches _) with hnone | ⟨-,hall⟩
  · exact hnone 0 outageEvent rfl (outage_persists _)
  · obtain ⟨-,job,hjob⟩ := (hall 0 outageEvent rfl).2
    cases hjob

def respond (s : Server) : (e : Call) → e.Result × Server
  | .clock => (s.now,s.after s.counters s.now)
  | .count minute sourceRef n =>
    ((countEvents s.counters minute sourceRef n).1,s.after (countEvents s.counters minute sourceRef n).2 s.now)
  | .engine => (true,s.after s.counters s.now)
  | .uuid _ => ("0",s.after s.counters s.now)
  | .correlationStamp _ => ([],s.after s.counters s.now)
  | .addNode _ _ _ _ => (⟨s.now,.ok ()⟩,s.after s.counters s.now)
  | .submitter _ => (true,s.after s.counters s.now)
  | .submitTask _ _ _ => (.ok none,s.after s.counters s.now)

theorem respond_serves (s : Server) (e : Call) : Serves s e (respond s e).1 (respond s e).2 := by
  cases e with
  | clock => exact .clock s s.now
  | count minute sourceRef n => exact .count s minute sourceRef n s.now
  | addNode i event eventId node => exact .addNode s i event eventId node (.ok ()) s.now
  | _ => exact .outside s rfl _ s.now

theorem timely_of_still {ι : Type} [DecidableEq ι] {requests : ι → Request} {now : ℕ} {log : List (ι × Event Call Call.Result)}
    {d : Pool ι Call Call.Result Failure Response Server}
    (h : Pool.Steps (fun s e r s' => Serves s e r s' ∧ s'.now = s.now) (ingress B requests now) log d) :
    Pool.StepsWhere Serves Timely (ingress B requests now) log d := by
  refine h.heeding (fun hserves => hserves.1) fun {log d i e k r s} hrun _ _ => ?_
  have hinv : (d.state.now = now ∧ ∀ t ∈ d.state.past, t = now) ∧ ∀ x ∈ log, ∀ t : ℕ, x.2 = ⟨.clock,t⟩ → t = now := by
    refine hrun.invariant (I := fun log s => (s.now = now ∧ ∀ t ∈ s.past, t = now) ∧
      ∀ x ∈ log, ∀ t : ℕ, x.2 = ⟨.clock,t⟩ → t = now) (fun i => fleetEventsReceive_guarded (requests i)) ?_ ?_
    · exact ⟨⟨rfl,fun t ht => absurd ht List.not_mem_nil⟩,fun x hx => absurd hx List.not_mem_nil⟩
    · rintro log i e r s s' ⟨⟨hnow,hpast⟩,hclock⟩ - ⟨hserves,hstill⟩
      have hafter : s'.past = s.now :: s.past := by cases hserves <;> rfl
      refine ⟨⟨hstill.trans hnow,?_⟩,?_⟩
      · rw [hafter]
        exact List.forall_mem_cons.mpr ⟨hnow,hpast⟩
      · intro x hx t ht
        rcases List.mem_append.mp hx with hx | hx
        · exact hclock x hx t ht
        · cases List.mem_singleton.mp hx
          cases ht
          cases hserves with
          | clock _ _ => exact hnow
          | outside _ he _ _ => cases he
  obtain ⟨⟨hnow,hpast⟩,hclock⟩ := hinv
  refine ⟨fun t ht => (hpast t ht).trans_le hnow.ge,fun _ t ht => ?_⟩
  rw [hclock _ (Pool.mem_own.mp ht) t rfl,hnow]

def outageRun : List (Bool × Event Call Call.Result) × Pool Bool Call Call.Result Failure Response Server :=
  Pool.drive respond [false,true,true,false,false,false,false,false,true,true,true,true]
    (ingress readers (fun _ => outageRequest) 0)

theorem outage_acknowledged : (∃ events, normalizePayload readers "2024-01-01T00:00:00Z" outage none = .ok events) ∧
    Faithful readers (engineAnswers (.ok (some "job"))) outageRequest ∧
    nodesGiven outageRun.1 0 "generic" ≤ rateCapPerMinute := by
  obtain ⟨hnormalize,hfaithful,hcap⟩ := acknowledged_alerts readers
  refine ⟨(hnormalize _ _ _).mpr fun h => (nomatch h),(hfaithful _ _).mpr fun payload events hreaches => ?_,
    hcap (fun _ => outageRequest) 0 outageRun.1 outageRun.2 ?_ 0 "generic"⟩
  · obtain ⟨rfl,rfl⟩ := (outage_reaches _).unique hreaches
    refine Or.inr ⟨fun alerts h => (nomatch h),fun i event hevent => ?_⟩
    cases i with
    | zero =>
      cases hevent
      exact ⟨outage_persists _,rfl,_,rfl⟩
    | succ i => simp at hevent
  · refine timely_of_still readers (Pool.drive_steps (fun s e => ⟨respond_serves s e,?_⟩) _ _)
    cases e <;> rfl
end Arbora.Gateway
