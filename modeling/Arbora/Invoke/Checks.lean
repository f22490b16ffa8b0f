import Arbora.Invoke.Pipeline

/-! What each check of the pipeline has been answered when it lets a call pass. -/
namespace Arbora.Invoke
open Interaction Arbora.Api

/-- Calls that neither confirm, reserve, carry out, leave nor record anything. -/
def Quiet : Authority → Prop
  | .leave => False
  | .dispatch _ _ _ => False
  | .reserve _ _ => False
  | .complete _ _ => False
  | .auditWrite _ _ _ => False
  | .consumePlan _ _ => False
  | _ => True

/-- A part of the pipeline that asks quietly, by what it has been answered when it returns. -/
abbrev Asks {α : Type} (p : Invocation α) (Q : History → α → Prop) : Prop :=
  p.Meets Prog.record (fun _ e => Quiet e) Q (fun _ _ => True) []

def verified (caller current : VerifiedCaller) : Event Authority Authority.Answer :=
  ⟨.verifyCurrent caller,Attempt.returned (some current)⟩
def allowed (op : OpSpec) (caller : VerifiedCaller) : Event Authority Authority.Answer :=
  ⟨.checkOp op caller,Attempt.returned true⟩
def accessible (caller : VerifiedCaller) (subject : String) : Event Authority Authority.Answer :=
  ⟨.checkSubjectAccess caller subject,Attempt.returned true⟩

def decided (op : OpSpec) (params : Value) (caller : VerifiedCaller) (decision : FleetCallDecision) :
    Event Authority Authority.Answer :=
  ⟨.fleetEffect op params caller,Attempt.returned (.decision decision)⟩

def consumed (reference : String) (binding : PlanBinding) : Event Authority Authority.Answer :=
  ⟨.consumePlan reference binding,Attempt.returned none⟩

/-- The runtime was asked for this caller and returned the same one again. -/
structure Reverified (answers : History) (caller : VerifiedCaller) : Prop where
  authentic : authenticate (some caller) = none
  same : ∃ current, verified caller current ∈ answers ∧ authenticate (some current) = none ∧
    ({ current with requestId := caller.requestId } : VerifiedCaller).same caller = true

/-- Everything `_authorize` asks for was granted. -/
structure Granted (services : InvokeServices) (answers : History) (op : OpSpec) (params : Value)
    (caller : VerifiedCaller) (decision : Option FleetCallDecision) : Prop where
  reverified : Reverified answers caller
  principal : principalRule op caller = none
  scopes : requireScopes op caller = none
  policy : allowed op caller ∈ answers
  subject : op.executor = .service → ∃ subject, serviceSubject services op params caller
    (decision.bind FleetCallDecision.subjectId) = .ok subject ∧ accessible caller subject ∈ answers

/-- The operation a registered one stands for. -/
inductive Effective (registered : OpSpec) (params : Value) (caller : VerifiedCaller) (answers : History) :
    OpSpec → Option FleetCallDecision → Prop where
  | itself (h : registered.id ≠ "fleet.call") : Effective registered params caller answers registered none
  | fleet {decision : FleetCallDecision} (h : registered.id = "fleet.call")
      (hvalid : validFleetDecision registered decision = true)
      (hasked : decided registered params caller decision ∈ answers) :
      Effective registered params caller answers (fleetOp registered decision) (some decision)

section
variable {services : InvokeServices} {answers more : History} {op : OpSpec} {params : Value} {caller : VerifiedCaller}
  {decision : Option FleetCallDecision}

theorem Reverified.mono (h : Reverified answers caller) (hs : answers ⊆ more) : Reverified more caller := by
  obtain ⟨current,hin,hauth,hsame⟩ := h.same
  exact ⟨h.authentic,current,hs hin,hauth,hsame⟩

theorem Granted.mono (h : Granted services answers op params caller decision) (hs : answers ⊆ more) :
    Granted services more op params caller decision := by
  refine ⟨h.reverified.mono hs,h.principal,h.scopes,hs h.policy,?_⟩
  intro hservice
  obtain ⟨subject,hsubject,hin⟩ := h.subject hservice
  exact ⟨subject,hsubject,hs hin⟩

theorem Effective.mono {effective : OpSpec} (h : Effective op params caller answers effective decision)
    (hs : answers ⊆ more) : Effective op params caller more effective decision := by
  cases h with
  | itself hid => exact .itself hid
  | fleet hid hvalid hasked => exact .fleet hid hvalid (hs hasked)

end

section
variable {σ α β : Type} {W : World Authority Authority.Answer σ} {G : σ → Authority → Prop} {Q : σ → β → Prop}
  {X : σ → Raised → Prop} {s : σ}

variable {h : History} {p : Invocation α} {R : History → β → Prop} {f : Option α → Invocation β}

theorem Attempt.caught_cases (a : Attempt α) (hsome : ∀ x, a = .returned x → (f (some x)).Meets W G Q X s)
    (hnone : (∀ x, a ≠ .returned x) → (f none).Meets W G Q X s) (hx : X s .cancelled) :
    ((Attempt.caught a).bind f).Meets W G Q X s := by
  cases a with
  | returned x => exact hsome x rfl
  | raised x =>
    have hno : ∀ y, Attempt.raised x ≠ (.returned y : Attempt α) := by
      intro y h
      cases h
    cases x with
    | cancelled => exact hx
    | _ => exact hnone hno

theorem Attempt.caught_bind (a : Attempt α)
    (hsome : ∀ x, a = .returned x → (f (some x)).Meets W G Q X s) (hnone : (f none).Meets W G Q X s)
    (hx : X s .cancelled) : ((Attempt.caught a).bind f).Meets W G Q X s :=
  a.caught_cases hsome (fun _ => hnone) hx

theorem Asks.step {Q : History → α → Prop} {f : α → Invocation β} (hp : Asks p Q) (hf : ∀ v a, Q v a →
      (f a).Meets Prog.record (fun _ e => Quiet e) R (fun _ _ => True) (h ++ v)) :
    (p.bind f).Meets Prog.record (fun _ e => Quiet e) R (fun _ _ => True) h :=
  hp.after (fun _ _ => id) (fun _ _ => id) hf

theorem Asks.last {Q R : History → α → Prop} (hp : Asks p Q)
    (hR : ∀ v a, Q v a → R (h ++ v) a) : p.Meets Prog.record (fun _ e => Quiet e) R (fun _ _ => True) h :=
  hp.later (fun _ _ => id) hR (fun _ _ => id)

theorem Asks.within {Q : History → α → Prop} {f : α → Invocation β}
    {G : History → Authority → Prop} {X : History → Raised → Prop} (hp : Asks p Q)
    (hG : ∀ v e, Quiet e → (∀ y ∈ v, Quiet y.1) → G (h ++ v) e) (hX : ∀ v x, (∀ y ∈ v, Quiet y.1) → X (h ++ v) x)
    (hf : ∀ v a, Q v a → (∀ y ∈ v, Quiet y.1) → (f a).Meets Prog.record G R X (h ++ v)) :
    (p.bind f).Meets Prog.record G R X h :=
  (hp.kept (by simp)).after (fun v e he => hG v e he.1 he.2) (fun v x hx => hX v x hx.2) (fun v a ha => hf v a ha.1 ha.2)

end

theorem refresh_asks (caller : Option VerifiedCaller) : Asks (refresh caller) fun v r => ∀ current, r = .ok current →
    ∃ c answer, caller = some c ∧ v = [verified c answer] ∧ current = { answer with requestId := c.requestId } ∧
      current.same c = true ∧ Reverified v c := by
  unfold refresh
  split
  · intro current h
    cases h
  · trivial
  · rename_i c hauth
    refine ⟨trivial,?_⟩
    rintro a h rfl
    refine Attempt.caught_bind a ?_ ?_ trivial
    · rintro answer rfl
      dsimp only
      split
      · intro current h
        cases h
      · trivial
      · rename_i answer hauth'
        split_ifs with hid hsame
        · intro current h
          cases h
        · intro current h
          cases h
          exact ⟨c,answer,rfl,rfl,rfl,hsame,hauth,answer,List.mem_singleton_self _,hauth',hsame⟩
        · intro current h
          cases h
    · intro current h
      cases h

theorem policy_asks (op : OpSpec) (caller : VerifiedCaller) :
    Asks (policy op caller) fun v r => r = none → allowed op caller ∈ v := by
  refine ⟨trivial,?_⟩
  rintro a h rfl
  refine Attempt.caught_bind a ?_ ?_ trivial
  · rintro answer rfl hnone
    cases answer with
    | true => exact List.mem_singleton_self _
    | false => cases hnone
  · intro h
    cases h

theorem baseAuthority_asks (op : OpSpec) (caller : VerifiedCaller) : Asks (baseAuthority op caller) fun v r =>
    r = none → principalRule op caller = none ∧ requireScopes op caller = none ∧ allowed op caller ∈ v := by
  unfold baseAuthority
  split
  · intro h
    cases h
  · rename_i hprincipal
    split
    · intro h
      cases h
    · rename_i hscopes
      exact (policy_asks op caller).last fun v r hv hnone => ⟨hprincipal,hscopes,hv hnone⟩

section
variable (services : InvokeServices) (op : OpSpec) (params : Value)
include services op params

theorem effectiveOp_asks (caller : VerifiedCaller) :
    Asks (effectiveOp services op params caller) fun v r => ∀ effective decision, r = .ok (effective,decision) →
      Effective op params caller v effective decision := by
  unfold effectiveOp
  split_ifs with hid hserved
  · intro effective decision h
    cases h
    exact .itself hid
  · intro effective decision h
    cases h
  · refine ⟨trivial,?_⟩
    rintro a h rfl
    refine Attempt.caught_bind a ?_ ?_ trivial
    · rintro answer rfl
      cases answer with
      | decision d =>
        dsimp only
        split_ifs with hvalid
        · intro effective decision h
          cases h
          exact .fleet (not_not.mp hid) hvalid (List.mem_singleton_self _)
        · intro effective decision h
          cases h
      | illTyped =>
        intro effective decision h
        cases h
      | other =>
        intro effective decision h
        cases h
    · intro effective decision h
      cases h

theorem prepareExecutor_asks (caller : VerifiedCaller)
    (verifiedSubject : Option String) : Asks (prepareExecutor services op params caller verifiedSubject) fun v r =>
      r = none → op.executor = .service → ∃ subject, serviceSubject services op params caller verifiedSubject =
        .ok subject ∧ accessible caller subject ∈ v := by
  unfold prepareExecutor
  split_ifs with hexec
  · intro _ hservice
    exact absurd hservice hexec
  · split
    · intro h
      cases h
    · rename_i subject hsubject
      refine ⟨trivial,?_⟩
      rintro a h rfl
      refine Attempt.caught_bind a ?_ ?_ trivial
      · rintro answer rfl hnone _
        cases answer with
        | true => exact ⟨subject,hsubject,List.mem_singleton_self _⟩
        | false => cases hnone
      · intro h
        cases h

theorem authorize_asks (caller : VerifiedCaller)
    (decision : Option FleetCallDecision) : Asks (authorize services op params caller decision) fun v r =>
      r = none → Granted services v op params caller decision := by
  refine (refresh_asks (some caller)).step fun v r hr => ?_
  cases r with
  | error refused =>
    intro h
    cases h
  | ok current =>
    obtain ⟨c,answer,hc,_,_,_,hver⟩ := hr current rfl
    cases hc
    refine (baseAuthority_asks op caller).step fun w r hr => ?_
    cases r with
    | some refused =>
      intro h
      cases h
    | none =>
      obtain ⟨hprincipal,hscopes,hpolicy⟩ := hr rfl
      refine (prepareExecutor_asks services op params caller _).last fun u r hr hnone => ?_
      refine ⟨hver.mono (by simp),hprincipal,hscopes,by simp [hpolicy],?_⟩
      intro hservice
      obtain ⟨subject,hsubject,hin⟩ := hr hnone hservice
      exact ⟨subject,hsubject,by simp [hin]⟩

theorem recheckDecision_asks (caller : VerifiedCaller) (decision : Option FleetCallDecision) :
    Asks (recheckDecision services op params caller decision) fun _ _ => True := by
  unfold recheckDecision
  split
  · trivial
  · split
    · trivial
    · rename_i registered _
      refine (effectiveOp_asks services registered params caller).step fun v r _ => ?_
      cases r with
      | error refused => trivial
      | ok found =>
        dsimp only
        split_ifs <;> trivial

theorem recheck_asks (caller : VerifiedCaller)
    (decision : Option FleetCallDecision) : Asks (recheck services op params caller decision) fun v r =>
      r = none → Granted services v op params caller decision := by
  refine (authorize_asks services op params caller decision).step fun v r hr => ?_
  cases r with
  | some refused =>
    intro h
    cases h
  | none =>
    refine (recheckDecision_asks services op params caller decision).step fun w changed _ => ?_
    cases changed with
    | some refused =>
      intro h
      cases h
    | none =>
      refine (refresh_asks (some caller)).step fun u r' _ => ?_
      cases r' with
      | error refused =>
        intro h
        cases h
      | ok current =>
        intro _
        exact (hr rfl).mono (by simp)

end

def Validated (answers : History) (params : Value) (entries : List (Key × Value)) : Prop :=
  (∃ model, (⟨.validateModel model params,ModelAnswer.dumped entries⟩ : Event Authority Authority.Answer) ∈ answers) ∨
  ∃ path, (⟨.validateSchema path params,SchemaAnswer.mapping entries⟩ : Event Authority Authority.Answer) ∈ answers

theorem Validated.mono {answers more : History} {params : Value} {entries : List (Key × Value)}
    (h : Validated answers params entries) (hs : answers ⊆ more) : Validated more params entries := by
  rcases h with ⟨model,hin⟩ | ⟨path,hin⟩
  · exact .inl ⟨model,hs hin⟩
  · exact .inr ⟨path,hs hin⟩

theorem validateProvider_asks (services : InvokeServices) (path : String) (params : Value) :
    Asks (validateProvider services path params) fun v r => ∀ entries, r = .ok (some entries) →
      Validated v params entries := by
  unfold validateProvider
  split_ifs
  · intro entries h
    cases h
  · have hask : Asks (Ask.validateSchema path params) fun v a => v = [⟨.validateSchema path params,a⟩] :=
      ⟨trivial,fun _ _ h => h⟩
    refine hask.step fun v a hv => ?_
    subst hv
    cases a with
    | mapping entries =>
      dsimp only
      split_ifs
      · intro entries' h
        cases h
      · intro entries' h
        cases h
        exact .inr ⟨path,by simp⟩
    | _ =>
      intro entries' h
      cases h

theorem validateParams_asks (services : InvokeServices) (op : OpSpec) (params : Value) :
    Asks (validateParams services op params) fun v r => ∀ validated, r = .ok validated →
      forbiddenPath forbiddenAuthority "" params = none ∧
      ∀ entries, validated = some entries → Validated v params entries := by
  unfold validateParams
  split_ifs
  · intro validated h
    cases h
  · split
    · intro validated h
      cases h
    · rename_i hfree
      split
      · refine (validateProvider_asks services _ params).mono (fun _ _ => id) ?_ (fun _ _ => id)
        intro v r hr validated h
        refine ⟨hfree,fun entries he => hr entries ?_⟩
        rw [h,he]
      · intro validated h
        cases h
      · rename_i name _
        have hask : Asks (Ask.validateModel name params) fun v a => v = [⟨.validateModel name params,a⟩] :=
          ⟨trivial,fun _ _ h => h⟩
        refine hask.step fun v a hv => ?_
        subst hv
        cases a with
        | dumped entries =>
          intro validated h
          cases h
          refine ⟨hfree,fun entries' he => ?_⟩
          cases he
          exact .inl ⟨name,by simp⟩
        | undumpable =>
          intro validated h
          cases h
          refine ⟨hfree,fun entries' he => ?_⟩
          cases he
        | invalid fields =>
          intro validated h
          cases h
        | raised => trivial

theorem arguments_asks (services : InvokeServices) (op : OpSpec) (params : Value) :
    Asks (arguments services op params) fun v r => ∀ arguments, r = .ok arguments →
      forbiddenPath forbiddenAuthority "" params = none ∧
      ∃ entries, Validated v params entries ∧ frozenArguments entries = some arguments := by
  refine (validateParams_asks services op params).step fun v r hr => ?_
  cases r with
  | error refused =>
    intro arguments h
    cases h
  | ok entries =>
    obtain ⟨hfree,hvalid⟩ := hr entries rfl
    cases entries with
    | none =>
      intro arguments h
      cases h
    | some entries =>
      dsimp only
      split
      · intro arguments h
        cases h
      · rename_i hfrozen
        intro arguments h
        cases h
        exact ⟨hfree,entries,hvalid entries rfl,hfrozen⟩

structure Resolution (services : InvokeServices) (answers : History) (registered : OpSpec) (params : Value)
    (caller : VerifiedCaller) (resolved : Resolved) : Prop where
  reverified : Reverified answers caller
  same : resolved.caller.same caller = true
  requestId : resolved.caller.requestId = caller.requestId
  principal : principalRule registered resolved.caller = none
  scopes : requireScopes registered resolved.caller = none
  effective : Effective registered params resolved.caller answers resolved.op resolved.decision
  granted : Granted services answers resolved.op params resolved.caller resolved.decision

theorem resolve_asks (services : InvokeServices) (op : OpSpec) (arguments : Arguments) (caller : Option VerifiedCaller) :
    Asks (resolve services op arguments caller) fun v r => ∀ resolved, r = .ok resolved →
      ∃ c, caller = some c ∧ Resolution services v op arguments.value c resolved := by
  refine (refresh_asks caller).step fun v r hr => ?_
  cases r with
  | error refused =>
    intro resolved h
    cases h
  | ok refreshed =>
    obtain ⟨c,answer,hc,_,hcurrent,hsame,hver⟩ := hr refreshed rfl
    refine (baseAuthority_asks op refreshed).step fun w r hr => ?_
    cases r with
    | some refused =>
      intro resolved h
      cases h
    | none =>
      obtain ⟨hprincipal,hscopes,_⟩ := hr rfl
      refine (effectiveOp_asks services op arguments.value refreshed).step fun u r hr => ?_
      cases r with
      | error refused =>
        intro resolved h
        cases h
      | ok found =>
        obtain ⟨effective,decision⟩ := found
        have heffective := hr effective decision rfl
        refine (authorize_asks services effective arguments.value refreshed decision).step fun t r hr => ?_
        cases r with
        | some refused =>
          intro resolved h
          cases h
        | none =>
          intro resolved h
          cases h
          have hid : refreshed.requestId = c.requestId := by rw [hcurrent]
          exact ⟨c,hc,hver.mono (by simp),hsame,hid,hprincipal,hscopes,heffective.mono fun x hx => by simp [hx],
            (hr rfl).mono fun x hx => by simp [hx]⟩

section
variable (services : InvokeServices) (call : Call)

theorem consoleReady_asks (caller : VerifiedCaller) (surface : Surface) :
    Asks (consoleReady caller surface) fun _ _ => True := by
  unfold consoleReady
  split
  · trivial
  · split
    · trivial
    · exact ⟨trivial,fun _ _ _ => trivial⟩

theorem consoleConfirmed_asks : Asks call.consoleConfirmed fun _ _ => True := by
  unfold Call.consoleConfirmed
  split
  · exact consoleReady_asks call.caller call.surface
  · trivial

theorem executionRefusal_asks : Asks (executionRefusal services call) fun _ r => r = none →
    call.governed = true → call.nativeReplay services = false → call.externalReplay services = true := by
  refine (consoleConfirmed_asks call).step fun v ready _ => ?_
  split_ifs with hready hkey howner
  · intro h
    cases h
  · intro h
    cases h
  · intro h
    cases h
  · intro _ hgoverned hnative
    simpa [hgoverned,hnative] using howner

/-- A reply that carries no outcome of an effect. -/
def Reply.Preliminary (reply : Reply) : Prop := ∀ r, reply = .result r → r.code ≠ "OK"

theorem preliminary_error (e : OpError) : Reply.Preliminary (.error e) := by
  intro r h
  cases h

theorem issuePlan_asks (op : OpSpec) (binding : PlanBinding) (params : Value) :
    Asks (issuePlan op binding params) fun _ reply => reply.Preliminary := by
  refine ⟨trivial,?_⟩
  rintro a h rfl
  refine Attempt.caught_bind a ?_ (preliminary_error _) trivial
  rintro answer rfl
  cases answer with
  | none => exact preliminary_error _
  | some reference =>
    dsimp only
    split_ifs
    · exact preliminary_error _
    · intro r h
      cases h
      simp
    · intro r h
      cases h
      simp

theorem preview_asks (hneeds : call.needsPlan = true) :
    Asks (call.effect services none) fun _ r => ∃ reply, r = some reply ∧ reply.Preliminary := by
  unfold Call.effect
  rw [if_neg (by simp [hneeds])]
  exact (issuePlan_asks call.op (call.binding services) call.arguments.value).step fun v r hr => ⟨r,rfl,hr⟩

theorem confirmationGate_asks : Asks (confirmationGate services call) fun _ r =>
    (∀ reply, r = some reply → reply.Preliminary) ∧ (r = none → requestRefusal services call = none ∧
      (call.needsPlan = true → call.planRef.isSome = true) ∧
      (call.governed = true → call.nativeReplay services = false → call.externalReplay services = true)) := by
  unfold confirmationGate
  split
  · refine ⟨?_,?_⟩
    · intro reply h
      cases h
      exact preliminary_error _
    · intro h
      cases h
  · rename_i hrequest
    split
    · rename_i hplan
      have hneeds : call.needsPlan = true := (Bool.and_eq_true_iff.mp hplan).1
      refine (preview_asks services call hneeds).mono (fun _ _ => id) ?_ (fun _ _ => id)
      rintro v r ⟨reply,rfl,hreply⟩
      refine ⟨?_,?_⟩
      · intro reply' h
        cases h
        exact hreply
      · intro h
        cases h
    · rename_i hplan
      refine (executionRefusal_asks services call).step fun v r hr => ⟨?_,?_⟩
      · intro reply h
        obtain ⟨e,_,rfl⟩ := Option.map_eq_some_iff.mp h
        exact preliminary_error e
      intro hnone
      have hr' := hr (Option.map_eq_none_iff.mp hnone)
      refine ⟨hrequest,fun hneeds => ?_,hr'⟩
      cases href : call.planRef with
      | none => simp [hneeds,href] at hplan
      | some reference => rfl

inductive Identifies (answers : History) (own : String) : List Char → Prop where
  | plan {reference : String} (h : call.planRef = some reference) :
      Identifies answers own (requestText call.caller call.op "plan" reference)
  | key {key : String} (hplan : call.planRef = none) (h : journalKey services call = some key) :
      Identifies answers own (requestText call.caller call.op "key" key)
  | request {id : String} (hplan : call.planRef = none) (h : journalKey services call = none)
      (hid : id = own ∨ (⟨.token,id⟩ : Event Authority Authority.Answer) ∈ answers) :
      Identifies answers own (requestText call.caller call.op "request" id)

variable {services call} in
theorem Identifies.mono {answers more : History} {own : String} {text : List Char}
    (h : Identifies services call answers own text) (hs : answers ⊆ more) : Identifies services call more own text := by
  cases h with
  | plan hplan => exact .plan hplan
  | key hplan hkey => exact .key hplan hkey
  | request hplan hkey hid => exact .request hplan hkey (hid.imp_right fun hin => hs hin)

theorem requestToken_asks (caller : VerifiedCaller) : Asks (requestToken caller) fun v id =>
    id = caller.requestId ∨ (⟨.token,id⟩ : Event Authority Authority.Answer) ∈ v := by
  unfold requestToken
  split_ifs
  · exact .inl rfl
  · refine ⟨trivial,?_⟩
    rintro id h rfl
    exact .inr (List.mem_singleton_self _)

def BoundAs (v : History) (bound : VerifiedCaller) : Prop :=
  ∃ id, bound = { call.caller with requestId := id } ∧ (call.governed = true →
    ∃ text, Identifies services call v call.caller.requestId text ∧ id = services.sha256 text)

theorem identifiedCaller_asks : Asks (identifiedCaller services call) fun v r => ∀ bound, r = .ok bound →
    BoundAs services call v bound := by
  unfold identifiedCaller
  split_ifs with hgoverned
  · unfold requestCaller
    split
    · intro bound h
      cases h
      exact ⟨_,rfl,fun _ => ⟨_,.plan ‹_›,rfl⟩⟩
    · rename_i hplan
      split
      · split_ifs
        · intro bound h
          cases h
          exact ⟨_,rfl,fun _ => ⟨_,.key hplan ‹_›,rfl⟩⟩
        · intro bound h
          cases h
      · rename_i hkey
        split_ifs
        · refine (requestToken_asks call.caller).step fun v id hid => ?_
          intro bound h
          cases h
          exact ⟨_,rfl,fun _ => ⟨_,.request hplan hkey hid,rfl⟩⟩
        · intro bound h
          cases h
  · intro bound h
    cases h
    exact ⟨call.caller.requestId,rfl,fun hg => absurd hg hgoverned⟩

theorem bindCaller_asks : Asks (bindCaller services call) fun v r => ∀ bound, r = .ok bound →
    BoundAs services call v bound := by
  refine (identifiedCaller_asks services call).step fun v r hr => ?_
  cases r with
  | error refused =>
    intro bound h
    cases h
  | ok caller =>
    refine (refresh_asks (some caller)).step fun w r _ => ?_
    cases r with
    | error refused =>
      intro bound h
      cases h
    | ok refreshed =>
      dsimp only
      split_ifs
      · intro bound h
        cases h
        obtain ⟨id,hbound,hid⟩ := hr _ rfl
        refine ⟨id,hbound,fun hgov => ?_⟩
        obtain ⟨text,htext,hsha⟩ := hid hgov
        exact ⟨text,htext.mono (by simp),hsha⟩
      · intro bound h
        cases h

theorem auditPreflight_asks : Asks (auditPreflight services call) fun _ r => ∀ auditRef, r = .ok auditRef →
    auditRef ≠ "" := by
  unfold auditPreflight
  split_ifs
  · intro auditRef h
    cases h
  · refine ⟨trivial,?_⟩
    rintro a h rfl
    refine Attempt.caught_bind a ?_ ?_ trivial
    · rintro answer rfl
      cases answer with
      | none =>
        intro auditRef h
        cases h
      | some reference =>
        dsimp only
        split_ifs with href
        · intro auditRef h
          cases h
          exact href
        · intro auditRef h
          cases h
    · intro auditRef h
      cases h

end
end Arbora.Invoke
