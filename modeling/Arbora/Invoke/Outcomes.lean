import Arbora.Invoke.Checks

/-! What the acting parts of the pipeline leave behind: the record of an outcome, the dispatch in
its context, and the reservation in front of both. -/
namespace Arbora.Invoke
open Interaction Arbora.Api

def dispatched (op : OpSpec) (params : Value) (context : ExecutionContext) (value : Value) :
    Event Authority Authority.Answer := ⟨.dispatch op params context,Attempt.returned value⟩
def written (event : AuditEvent) (audit : AuditClass) (caller : VerifiedCaller) : Event Authority Authority.Answer :=
  ⟨.auditWrite event audit caller,Attempt.returned ()⟩
def completed (reference : String) (outcome : Reply) : Event Authority Authority.Answer :=
  ⟨.complete reference outcome,Attempt.returned ()⟩
def reserved (key binding : String) (reservation : EffectReservation) : Event Authority Authority.Answer :=
  ⟨.reserve key binding,Attempt.returned (some reservation)⟩
def failedDispatch (op : OpSpec) (params : Value) (context : ExecutionContext) (x : Raised) :
    Event Authority Authority.Answer := ⟨.dispatch op params context,Attempt.raised x⟩
def failedWrite (event : AuditEvent) (audit : AuditClass) (caller : VerifiedCaller) (x : Raised) :
    Event Authority Authority.Answer := ⟨.auditWrite event audit caller,Attempt.raised x⟩
def failedComplete (reference : String) (outcome : Reply) (x : Raised) : Event Authority Authority.Answer :=
  ⟨.complete reference outcome,Attempt.raised x⟩
def left (l : Left) : Event Authority Authority.Answer := ⟨.leave,l⟩

/-- A refusal tells that the effect did not take place. -/
def Raised.refuses : Raised → Bool
  | .operationRefused _ _ => true
  | .engineRefusal _ => true
  | .fleetRefusal _ _ _ _ => true
  | _ => false

def Started (h : History) : Prop := ∃ op params context a,
  (⟨.dispatch op params context,a⟩ : Event Authority Authority.Answer) ∈ h

/-- The effect was started, and it is not known what came of it. -/
def InDoubt (h : History) : Prop :=
  (∃ op params context x, failedDispatch op params context x ∈ h ∧ x.refuses = false) ∨
  (Started h ∧ ∃ l, left l ∈ h ∧ l ≠ .returned)

def Unrecorded (h : History) : Prop :=
  (∃ event audit caller x, failedWrite event audit caller x ∈ h) ∨
  ∃ reference outcome x, failedComplete reference outcome x ∈ h

def Settled (h : History) : Prop := ∃ reference outcome, completed reference outcome ∈ h

section
variable (services : InvokeServices) (call : Call)

def Records : Authority → Prop
  | .auditWrite _ _ _ => True
  | .complete _ _ => True
  | _ => False

theorem writeAudit_meets (auditRef status : String) : (writeAudit services call auditRef status).Meets Prog.record
    (fun v e => v = [] ∧ e = .auditWrite (auditEvent services call status auditRef) call.op.audit call.caller)
    (fun v _ => v = [] ∧ auditRef = "" ∨
      v = [written (auditEvent services call status auditRef) call.op.audit call.caller])
    (fun v x => v = [failedWrite (auditEvent services call status auditRef) call.op.audit call.caller x]) [] := by
  unfold writeAudit
  split
  · refine ⟨⟨rfl,rfl⟩,?_⟩
    rintro a h rfl
    cases a with
    | returned u => exact .inr rfl
    | raised x => exact rfl
  · rename_i href
    exact .inl ⟨rfl,not_not.mp href⟩

theorem settle_meets (reservation : Option EffectReservation) (result : Reply) :
    (settle reservation result).Meets Prog.record
      (fun v e => v = [] ∧ ∃ r, reservation = some r ∧ result.settles = true ∧ e = .complete r.reference result)
      (fun v _ => (v = [] ∧ ∀ r, reservation = some r → result.settles = false) ∨
        ∃ r, reservation = some r ∧ result.settles = true ∧ v = [completed r.reference result])
      (fun v x => ∃ r, reservation = some r ∧ v = [failedComplete r.reference result x]) [] := by
  unfold settle
  split
  · exact .inl ⟨rfl,by simp⟩
  · rename_i r
    split
    · rename_i hsettles
      refine ⟨⟨rfl,r,rfl,hsettles,rfl⟩,?_⟩
      rintro a h rfl
      cases a with
      | returned u => exact .inr ⟨r,rfl,hsettles,rfl⟩
      | raised x => exact ⟨r,rfl,rfl⟩
    · rename_i hsettles
      refine .inl ⟨rfl,fun r' hr' => ?_⟩
      simpa using hsettles

structure Recorded (auditRef : String) (reservation : Option EffectReservation) (result : Reply) (v : History) :
    Prop where
  audited : auditRef ≠ "" → written (auditEvent services call result.code auditRef) call.op.audit call.caller ∈ v
  settled : ∀ r, reservation = some r → result.settles = true → completed r.reference result ∈ v
  unsettled : result.settles = false → ¬Settled v
  clean : ¬Unrecorded v

def RecordGuard (auditRef : String) (reservation : Option EffectReservation) (result : Reply) (v : History)
    (e : Authority) : Prop :=
  (v = [] ∧ e = .auditWrite (auditEvent services call result.code auditRef) call.op.audit call.caller) ∨
  ∃ r, reservation = some r ∧ result.settles = true ∧ e = .complete r.reference result ∧
    (v = [] ∧ auditRef = "" ∨ v = [written (auditEvent services call result.code auditRef) call.op.audit call.caller])

private theorem not_unrecorded_of {v : History} (h : ∀ y ∈ v, (∃ event audit caller, y = written event audit caller) ∨
    ∃ reference outcome, y = completed reference outcome) : ¬Unrecorded v := by
  rintro (⟨event,audit,caller,x,hin⟩ | ⟨reference,outcome,x,hin⟩)
  · rcases h _ hin with ⟨_,_,_,heq⟩ | ⟨_,_,heq⟩ <;> cases heq
  · rcases h _ hin with ⟨_,_,_,heq⟩ | ⟨_,_,heq⟩ <;> cases heq

theorem writeOutcome_meets (auditRef : String) (reservation : Option EffectReservation) (result : Reply) :
    (writeOutcome services call auditRef reservation result).Meets Prog.record
      (RecordGuard services call auditRef reservation result)
      (fun v _ => (∀ y ∈ v, Records y.1) ∧ Recorded services call auditRef reservation result v)
      (fun v _ => (∀ y ∈ v, Records y.1) ∧ Unrecorded v ∧ ¬Settled v) [] := by
  refine (writeAudit_meets services call auditRef result.code).after (h := []) ?_ ?_ ?_
  · exact fun v e he => .inl he
  · rintro v x rfl
    refine ⟨by simp [Records,failedWrite],.inl ⟨_,_,_,x,List.mem_singleton_self _⟩,?_⟩
    rintro ⟨reference,outcome,hin⟩
    cases List.mem_singleton.mp hin
  · intro v _ hv
    refine (settle_meets reservation result).later ?_ ?_ ?_
    · rintro w e ⟨rfl,r,hr,hsettles,he⟩
      exact .inr ⟨r,hr,hsettles,he,by simpa using hv⟩
    · intro w _ hw
      have hvw : ∀ y ∈ [] ++ v ++ w, (∃ event audit caller, y = written event audit caller) ∨
          ∃ reference outcome, y = completed reference outcome := by
        intro y hy
        rcases List.mem_append.mp hy with hin | hin
        · rcases hv with ⟨rfl,_⟩ | rfl
          · cases hin
          · exact .inl ⟨_,_,_,List.mem_singleton.mp hin⟩
        · rcases hw with ⟨rfl,_⟩ | ⟨r,_,_,rfl⟩
          · cases hin
          · exact .inr ⟨_,_,List.mem_singleton.mp hin⟩
      refine ⟨?_,?_,?_,?_,not_unrecorded_of hvw⟩
      · intro y hy
        rcases hvw y hy with ⟨_,_,_,rfl⟩ | ⟨_,_,rfl⟩ <;> trivial
      · intro href
        rcases hv with ⟨_,hempty⟩ | rfl
        · exact absurd hempty href
        · simp
      · intro r hr hsettles
        rcases hw with ⟨_,hno⟩ | ⟨r',hr',_,rfl⟩
        · rw [hno r hr] at hsettles
          cases hsettles
        · rw [hr] at hr'
          cases hr'
          simp
      · rintro hsettles ⟨reference,outcome,hin⟩
        rcases List.mem_append.mp hin with hin | hin
        · rcases hv with ⟨rfl,_⟩ | rfl
          · cases hin
          · cases List.mem_singleton.mp hin
        · rcases hw with ⟨rfl,_⟩ | ⟨r,_,hyes,_⟩
          · cases hin
          · rw [hsettles] at hyes
            cases hyes
    · rintro w x ⟨r,hr,rfl⟩
      refine ⟨?_,.inr ⟨r.reference,result,x,by simp⟩,?_⟩
      · intro y hy
        rcases List.mem_append.mp hy with hin | hin
        · rcases hv with ⟨rfl,_⟩ | rfl
          · cases hin
          · rw [List.mem_singleton.mp hin]
            trivial
        · rw [List.mem_singleton.mp hin]
          trivial
      · rintro ⟨reference,outcome,hin⟩
        rcases List.mem_append.mp hin with hin | hin
        · rcases hv with ⟨rfl,_⟩ | rfl
          · cases hin
          · cases List.mem_singleton.mp hin
        · cases List.mem_singleton.mp hin

end

/-- Going on with whatever came of a part. -/
theorem attempt_bind {α β σ : Type} {W : World Authority Authority.Answer σ} {G : σ → Authority → Prop}
    {Q : σ → α → Prop} {X X' : σ → Raised → Prop} {R : σ → β → Prop} {p : Invocation α} {f : Attempt α → Invocation β}
    {s : σ} (hp : p.Meets W G Q X s) (hret : ∀ s a, Q s a → (f (.returned a)).Meets W G R X' s)
    (hraise : ∀ s x, X s x → (f (.raised x)).Meets W G R X' s) : ((attempt p).bind f).Meets W G R X' s := by
  unfold attempt
  rw [Prog.meets_bind,Prog.meets_handle,Prog.meets_bind]
  exact hp.mono (fun _ _ => id) hret hraise

theorem record_meets (services : InvokeServices) (call : Call) (auditRef : String)
    (reservation : Option EffectReservation) (result : Reply) :
    (record services call auditRef reservation result).Meets Prog.record
      (RecordGuard services call auditRef reservation result) (fun v reply => (∀ y ∈ v, Records y.1) ∧
        (reply = result ∧ Recorded services call auditRef reservation result v ∨
          reply = .error (indeterminate auditRef) ∧ Unrecorded v ∧ ¬Settled v))
      (fun v x => (∀ y ∈ v, Records y.1) ∧ x = .cancelled ∧ ¬Settled v) [] := by
  refine attempt_bind (writeOutcome_meets services call auditRef reservation result) ?_ ?_
  · exact fun v _ hv => ⟨hv.1,.inl ⟨rfl,hv.2⟩⟩
  · rintro v x ⟨hrec,hun,hset⟩
    cases x with
    | cancelled => exact ⟨hrec,rfl,hset⟩
    | _ => exact ⟨hrec,.inr ⟨rfl,hun,hset⟩⟩

section
variable (services : InvokeServices) (call : Call) (key : Option String)

theorem not_started_of_quiet {v : History} (h : ∀ y ∈ v, Quiet y.1) : ¬Started v := by
  rintro ⟨op,params,context,a,hin⟩
  exact h _ hin

theorem not_inDoubt_of_quiet {v : History} (h : ∀ y ∈ v, Quiet y.1) : ¬InDoubt v := by
  rintro (⟨op,params,context,x,hin,_⟩ | ⟨hstarted,_⟩)
  · exact h _ hin
  · exact not_started_of_quiet h hstarted

def Dispatches : Authority → Prop
  | .dispatch _ _ _ => True
  | .leave => True
  | e => Quiet e

theorem dispatches_of_quiet {e : Authority} (h : Quiet e) : Dispatches e := by
  cases e <;> first | exact h | trivial

def Entered (x : Event Authority Authority.Answer) : Prop :=
  x.1 = if call.op.executor = .service then .asService call.caller.tenant call.op.executorScopes
    else .asCaller call.caller

/-- The dispatch follows everything that `_recheck` asks for, in an open context. -/
inductive DispatchGuard (v : History) : Authority → Prop where
  | quiet {e : Authority} (h : Dispatches e) (hne : ∀ op params context, e ≠ .dispatch op params context) :
      DispatchGuard v e
  | dispatch {entered : Event Authority Authority.Answer} {within : History} (hv : v = entered :: within)
      (hentered : Entered call entered) (hquiet : ∀ y ∈ v, Quiet y.1)
      (hgranted : Granted services within call.op call.arguments.value call.caller call.decision) :
      DispatchGuard v (.dispatch call.op call.arguments.value (call.context services key))

private theorem quiet_guard {v : History} {e : Authority} (h : Quiet e) : DispatchGuard services call key v e := by
  refine .quiet (dispatches_of_quiet h) ?_
  rintro op params context rfl
  exact h

theorem enterContext_asks : Asks (enterContext call) fun v _ => ∃ x, v = [x] ∧ Entered call x := by
  unfold enterContext
  split
  · rename_i hservice
    refine ⟨trivial,?_⟩
    rintro a h rfl
    exact ⟨_,rfl,(if_pos hservice).symm⟩
  · rename_i hservice
    refine ⟨trivial,?_⟩
    rintro a h rfl
    exact ⟨_,rfl,(if_neg hservice).symm⟩

inductive DispatchTrace (v : History) : Attempt Value → Prop where
  | refused (hquiet : ∀ y ∈ v, Quiet y.1) (x : Raised) : DispatchTrace v (.raised x)
  | answered {checks : History} (hquiet : ∀ y ∈ checks, Quiet y.1) (a : Attempt Value)
      (hv : v = checks ++ [⟨.dispatch call.op call.arguments.value (call.context services key),a⟩]) :
      DispatchTrace v a

theorem dispatchChecked_meets : (dispatchChecked services call key).Meets Prog.record
    (fun v e => Quiet e ∨ (∀ y ∈ v, Quiet y.1) ∧
      Granted services v call.op call.arguments.value call.caller call.decision ∧
      e = .dispatch call.op call.arguments.value (call.context services key))
    (fun v value => DispatchTrace services call key v (.returned value))
    (fun v x => DispatchTrace services call key v (.raised x)) [] := by
  refine (recheck_asks services call.op call.arguments.value call.caller call.decision).within ?_ ?_ ?_
  · exact fun v e he _ => .inl he
  · exact fun v x hv => .refused (by simpa using hv) x
  · intro v r hr hv
    cases r with
    | some refused => exact .refused (by simpa using hv) _
    | none =>
      refine ⟨.inr ⟨by simpa using hv,by simpa using hr rfl,rfl⟩,?_⟩
      rintro a h rfl
      cases a with
      | returned value => exact .answered (by simpa using hv) _ rfl
      | raised x => exact .answered (by simpa using hv) _ rfl

theorem leaveContext_meets {x : Event Authority Authority.Answer} {w : History} {outcome : Attempt Value}
    (hx : Quiet x.1) (ht : DispatchTrace services call key w outcome) :
    (leaveContext outcome).Meets Prog.record (DispatchGuard services call key)
      (fun v value => (∀ y ∈ v, Dispatches y.1) ∧ ¬InDoubt v ∧
        dispatched call.op call.arguments.value (call.context services key) value ∈ v)
      (fun v x => (∀ y ∈ v, Dispatches y.1) ∧ (InDoubt v → x.refuses = false)) (x :: w) := by
  have hcalls : ∀ l, ∀ y ∈ x :: w ++ [left l], Dispatches y.1 := by
    intro l y hy
    rcases List.mem_append.mp hy with hin | hin
    · rcases List.mem_cons.mp hin with rfl | hw
      · exact dispatches_of_quiet hx
      · cases ht with
        | refused hquiet _ => exact dispatches_of_quiet (hquiet y hw)
        | answered hquiet _ hv =>
          rw [hv] at hw
          rcases List.mem_append.mp hw with hc | hd
          · exact dispatches_of_quiet (hquiet y hc)
          · rw [List.mem_singleton.mp hd]
            trivial
    · rw [List.mem_singleton.mp hin]
      trivial
  refine ⟨.quiet trivial (by intro op params context h; cases h),?_⟩
  rintro l h rfl
  cases l with
  | raised => exact ⟨hcalls _,fun _ => rfl⟩
  | cancelled => exact ⟨hcalls _,fun _ => rfl⟩
  | returned =>
    cases ht with
    | refused hquiet y =>
      refine ⟨hcalls _,fun hd => ?_⟩
      exfalso
      have hnone : ¬Started (x :: w ++ [left .returned]) := by
        rintro ⟨op,params,context,a,hin⟩
        rcases List.mem_append.mp hin with hin | hin
        · rcases List.mem_cons.mp hin with rfl | hw
          · exact hx
          · exact hquiet _ hw
        · cases List.mem_singleton.mp hin
      rcases hd with ⟨op,params,context,y,hin,_⟩ | ⟨hstarted,_⟩
      · exact hnone ⟨op,params,context,_,hin⟩
      · exact hnone hstarted
    | answered hquiet a hv =>
      -- the only dispatch is the one answered, and the context was left normally
      have hdoubt : InDoubt (x :: w ++ [left .returned]) → ∃ y, outcome = .raised y ∧ y.refuses = false := by
        rintro (⟨op,params,context,y,hin,hy⟩ | ⟨_,l,hin,hl⟩)
        · rcases List.mem_append.mp hin with hin | hin
          · rcases List.mem_cons.mp hin with rfl | hw
            · exact absurd hx id
            · rw [hv] at hw
              rcases List.mem_append.mp hw with hc | hd
              · exact absurd (hquiet _ hc) id
              · cases List.mem_singleton.mp hd
                exact ⟨y,rfl,hy⟩
          · cases List.mem_singleton.mp hin
        · rcases List.mem_append.mp hin with hin | hin
          · rcases List.mem_cons.mp hin with rfl | hw
            · exact absurd hx id
            · rw [hv] at hw
              rcases List.mem_append.mp hw with hc | hd
              · exact absurd (hquiet _ hc) id
              · cases List.mem_singleton.mp hd
          · cases List.mem_singleton.mp hin
            exact absurd rfl hl
      cases outcome with
      | returned value =>
        refine ⟨hcalls _,fun hd => ?_,?_⟩
        · obtain ⟨y,hy,_⟩ := hdoubt hd
          cases hy
        · rw [hv]
          simp [dispatched]
      | raised y =>
        refine ⟨hcalls _,fun hd => ?_⟩
        obtain ⟨y',hy,href⟩ := hdoubt hd
        cases hy
        exact href

theorem dispatch_meets : (dispatch services call key).Meets Prog.record (DispatchGuard services call key)
    (fun v value => (∀ y ∈ v, Dispatches y.1) ∧ ¬InDoubt v ∧
      dispatched call.op call.arguments.value (call.context services key) value ∈ v)
    (fun v x => (∀ y ∈ v, Dispatches y.1) ∧ (InDoubt v → x.refuses = false)) [] := by
  refine (enterContext_asks call).within ?_ ?_ ?_
  · exact fun v e he _ => quiet_guard services call key he
  · intro v x hv
    exact ⟨fun y hy => dispatches_of_quiet (hv y (by simpa using hy)),
      fun hd => absurd (by simpa using hd) (not_inDoubt_of_quiet hv)⟩
  · rintro v a ⟨x,rfl,hentered⟩ hv
    have hx : Quiet x.1 := hv x (List.mem_singleton_self _)
    cases a with
    | raised y =>
      exact ⟨fun z hz => dispatches_of_quiet (hv z (by simpa using hz)),
        fun hd => absurd (by simpa using hd) (not_inDoubt_of_quiet hv)⟩
    | returned u =>
      refine attempt_bind (Q := fun h value => ∃ w, h = x :: w ∧ DispatchTrace services call key w (.returned value))
        (X := fun h y => ∃ w, h = x :: w ∧ DispatchTrace services call key w (.raised y)) ?_ ?_ ?_
      · refine (dispatchChecked_meets services call key).later ?_ ?_ ?_
        · rintro w e (he | ⟨hquiet,hgranted,rfl⟩)
          · exact quiet_guard services call key he
          · refine .dispatch rfl hentered ?_ hgranted
            intro y hy
            rcases List.mem_append.mp hy with hin | hin
            · exact hv y (by simpa using hin)
            · exact hquiet y hin
        · exact fun w value hw => ⟨w,rfl,hw⟩
        · exact fun w y hw => ⟨w,rfl,hw⟩
      · rintro h value ⟨w,rfl,ht⟩
        exact leaveContext_meets services call key hx ht
      · rintro h y ⟨w,rfl,ht⟩
        exact leaveContext_meets services call key hx ht

theorem waitFor_meets : (waitFor (dispatch services call key)).Meets Prog.record (DispatchGuard services call key)
    (fun v value => (∀ y ∈ v, Dispatches y.1) ∧ ¬InDoubt v ∧
      dispatched call.op call.arguments.value (call.context services key) value ∈ v)
    (fun v x => (∀ y ∈ v, Dispatches y.1) ∧ (InDoubt v → x.refuses = false)) [] := by
  refine attempt_bind (dispatch_meets services call key) ?_ ?_
  · exact fun v value hv => hv
  · intro v x hv
    cases x with
    | cancelled =>
      refine ⟨quiet_guard services call key trivial,?_⟩
      rintro timedOut h rfl
      have hcalls : ∀ y ∈ v ++ [⟨.expired,timedOut⟩], Dispatches y.1 := by
        intro y hy
        rcases List.mem_append.mp hy with hin | hin
        · exact hv.1 y hin
        · rw [List.mem_singleton.mp hin]
          trivial
      cases timedOut with
      | true => exact ⟨hcalls,fun _ => rfl⟩
      | false => exact ⟨hcalls,fun _ => rfl⟩
    | _ => exact hv

/-- A value comes from the owner; an effect in doubt is reported as such. -/
theorem dispatchOutcome_meets (auditRef : String) : (dispatchOutcome services call auditRef).Meets Prog.record
    (DispatchGuard services call call.dispatchKey) (fun v reply => (∀ y ∈ v, Dispatches y.1) ∧
      (InDoubt v → ∃ ungoverned, reply = .error (unsettled call auditRef ungoverned)) ∧
      (∀ r, reply = .result r → r.code = "OK" ∧
        dispatched call.op call.arguments.value (call.context services call.dispatchKey) r.value ∈ v))
    (fun v x => (∀ y ∈ v, Dispatches y.1) ∧ x = .cancelled) [] := by
  refine attempt_bind (waitFor_meets services call call.dispatchKey) ?_ ?_
  · rintro v value ⟨hcalls,hdoubt,hin⟩
    refine ⟨hcalls,fun hd => absurd hd hdoubt,?_⟩
    intro r hr
    cases hr
    exact ⟨rfl,hin⟩
  · rintro v x ⟨hcalls,hrefuses⟩
    have hrefused : ∀ e, (InDoubt v → False) → (∀ y ∈ v, Dispatches y.1) ∧
        (InDoubt v → ∃ ungoverned, Reply.error e = .error (unsettled call auditRef ungoverned)) ∧
        (∀ r, Reply.error e = .result r → r.code = "OK" ∧
          dispatched call.op call.arguments.value (call.context services call.dispatchKey) r.value ∈ v) := by
      intro e hno
      refine ⟨hcalls,fun hd => absurd hd hno,?_⟩
      intro r hr
      cases hr
    cases x with
    | operationRefused code details => exact hrefused _ fun hd => by cases hrefuses hd
    | engineRefusal code => exact hrefused _ fun hd => by cases hrefuses hd
    | fleetRefusal code server tool detail => exact hrefused _ fun hd => by cases hrefuses hd
    | timeoutError =>
      refine ⟨hcalls,fun _ => ⟨"TIMEOUT",rfl⟩,?_⟩
      intro r hr
      cases hr
    | exception =>
      refine ⟨hcalls,fun _ => ⟨"INTERNAL",rfl⟩,?_⟩
      intro r hr
      cases hr
    | cancelled => exact ⟨hcalls,rfl⟩

end

section
variable (services : InvokeServices) (call : Call)

/-- The calls that confirm an effect, and those of their checks. -/
def Confirms : Authority → Prop
  | .consumePlan _ _ => True
  | e => Quiet e

theorem confirms_of_quiet {e : Authority} (h : Quiet e) : Confirms e := by
  cases e <;> first | exact h | trivial

theorem effect_meets (hplan : call.needsPlan = true → call.planRef.isSome = true) :
    (call.effect services call.planRef).Meets Prog.record
      (fun _ e => Quiet e ∨ ∃ reference, call.planRef = some reference ∧ e = .consumePlan reference (call.binding services))
      (fun v r => (∀ y ∈ v, Confirms y.1) ∧ (∀ reply, r = some reply → ∃ e, reply = .error e) ∧
        (r = none → call.needsPlan = true → ∃ reference, call.planRef = some reference ∧
          consumed reference (call.binding services) ∈ v)) (fun v _ => ∀ y ∈ v, Confirms y.1) [] := by
  unfold Call.effect
  split
  · rename_i hneeds
    refine ⟨by simp,?_,?_⟩
    · intro reply h
      split at h
      · cases h
        exact ⟨_,rfl⟩
      · cases h
    · intro _ h
      rw [h] at hneeds
      cases hneeds
  · split
    · rename_i hneeds _ hnone
      have hsome := hplan (by simpa using hneeds)
      rw [hnone] at hsome
      cases hsome
    · rename_i reference href
      refine (consoleConfirmed_asks call).within ?_ ?_ ?_
      · exact fun v e he _ => .inl he
      · exact fun v x hv y hy => confirms_of_quiet (hv y (by simpa using hy))
      · intro v ready _ hv
        have hcalls : ∀ y ∈ [] ++ v, Confirms y.1 := fun y hy => confirms_of_quiet (hv y (by simpa using hy))
        split
        · refine ⟨hcalls,?_,?_⟩
          · intro reply h
            cases h
            exact ⟨_,rfl⟩
          · intro h
            cases h
        · refine ⟨.inr ⟨reference,href,rfl⟩,?_⟩
          rintro a h rfl
          have hcalls' : ∀ y ∈ [] ++ v ++ [⟨.consumePlan reference (call.binding services),a⟩], Confirms y.1 := by
            intro y hy
            rcases List.mem_append.mp hy with hin | hin
            · exact hcalls y hin
            · rw [List.mem_singleton.mp hin]
              trivial
          refine Attempt.caught_bind a ?_ ?_ hcalls'
          · rintro answer rfl
            refine ⟨hcalls',?_,?_⟩
            · intro reply h
              cases answer with
              | none => cases h
              | some e =>
                cases h
                exact ⟨e,rfl⟩
            · intro h _
              cases answer with
              | none => exact ⟨reference,href,by simp [consumed]⟩
              | some e => cases h
          · refine ⟨hcalls',?_,?_⟩
            · intro reply h
              cases h
              exact ⟨_,rfl⟩
            · intro h
              cases h

end
end Arbora.Invoke
