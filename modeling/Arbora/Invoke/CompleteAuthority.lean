import Arbora.Invoke.Lifecycle

/-! No dispatch without complete authority: what was checked and answered whenever a call reaches
the dispatcher, in any environment. -/
namespace Arbora.Invoke
open Interaction Arbora.Api

section
variable {a b : VerifiedCaller}

theorem sameSet_iff {l l' : List String} (h : sameSet l l' = true) (s : String) : s ∈ l ↔ s ∈ l' := by
  simp only [sameSet,Bool.and_eq_true,List.all_eq_true,decide_eq_true_eq] at h
  exact ⟨h.1 s,h.2 s⟩

theorem VerifiedCaller.same_fields (h : a.same b = true) : a.principal = b.principal ∧ a.tenant = b.tenant ∧
    (∀ s, s ∈ a.effectiveScopes ↔ s ∈ b.effectiveScopes) ∧ a.principalKind = b.principalKind ∧
    a.delegated = b.delegated ∧ a.policyRevision = b.policyRevision := by
  simp only [VerifiedCaller.same,Bool.and_eq_true,decide_eq_true_eq] at h
  obtain ⟨⟨⟨⟨⟨⟨⟨⟨⟨⟨hp,ht⟩,hs⟩,_⟩,hk⟩,_⟩,hd⟩,_⟩,hr⟩,_⟩,_⟩ := h
  exact ⟨hp,ht,sameSet_iff hs,hk,hd,hr⟩

theorem PrincipalAllowed.congr {op : OpSpec} (hkind : a.principalKind = b.principalKind)
    (hdelegated : a.delegated = b.delegated) (h : PrincipalAllowed op a) : PrincipalAllowed op b := by
  unfold PrincipalAllowed at *
  rw [← hkind,← hdelegated]
  exact h

end

def PlanNeeded (op : OpSpec) (resolvedFromIntent : Bool) : Prop :=
  op.effect = .destructive ∨ op.effect = .admin ∨ op.confirm = .plan ∨ op.confirm = .console ∨
  op.effect = .write ∧ resolvedFromIntent = true

/-- Everything that holds of a dispatch: `before` was answered before its context was opened, and
`within` after that. -/
structure Authorized (services : InvokeServices) (request : Request) (registered : OpSpec) (caller : VerifiedCaller)
    (before : History) (entered : Event Authority Authority.Answer) (within : History) (op : OpSpec) (params : Value)
    (context : ExecutionContext) : Prop where
  get : services.registry.get request.opId = some registered
  surface : request.surface ∈ registered.surfaces
  forbidden : ∀ entries, Value.Within (.mapping entries) request.params → ∀ key child, (key,child) ∈ entries →
    ∀ name ∈ forbiddenAuthority, key ≠ .str name
  presented : request.caller = some caller
  authenticated : authenticate (some caller) = none
  identity : ({ context.caller with requestId := caller.requestId } : VerifiedCaller).same caller = true
  opened : entered.1 = if op.executor = .service then .asService context.caller.tenant op.executorScopes
    else .asCaller context.caller
  reverified : Reverified within context.caller
  effective : Effective registered params { context.caller with requestId := caller.requestId } before op
    context.fleetDecision
  scopes : (∀ s ∈ registered.scopes, s ∈ caller.effectiveScopes) ∧ ∀ s ∈ op.scopes, s ∈ caller.effectiveScopes
  principals : PrincipalAllowed registered caller ∧ PrincipalAllowed op caller
  policy : allowed op context.caller ∈ within
  subject : op.executor = .service → ∃ subject, serviceSubject services op params context.caller
    (context.fleetDecision.bind FleetCallDecision.subjectId) = .ok subject ∧ accessible context.caller subject ∈ within
  plan : PlanNeeded op request.resolvedFromIntent → ∃ reference document, request.planRef = some reference ∧
    params.toJson = some document ∧ consumed reference
      ⟨op.id,services.sha256 (Json.write document),caller.principal,caller.tenant,caller.policyRevision,
        services.registry.digest,op.effect.value,op.confirm.value⟩ ∈ before

theorem effectAuthorityValid_confirm {effect : Effect} {confirm : Confirm} {principals : PrincipalRule}
    (h : effectAuthorityValid effect confirm principals = true) (he : effect = .destructive ∨ effect = .admin) :
    confirm = .plan ∨ confirm = .console := by
  rcases he with rfl | rfl
  · exact .inl (by simpa [effectAuthorityValid] using h)
  · right
    simp only [effectAuthorityValid,Bool.and_eq_true,decide_eq_true_eq] at h
    exact h.1

theorem effective_authority {registered op : OpSpec} {params : Value} {caller : VerifiedCaller} {answers : History}
    {decision : Option FleetCallDecision}
    (hvalid : effectAuthorityValid registered.effect registered.confirm registered.principals = true)
    (h : Effective registered params caller answers op decision) :
    effectAuthorityValid op.effect op.confirm op.principals = true := by
  cases h with
  | itself _ => exact hvalid
  | fleet _ hdecision _ =>
    simp only [validFleetDecision,Bool.and_eq_true] at hdecision
    exact hdecision.1.2

theorem requiresPlan_of_needed {op : OpSpec} {resolvedFromIntent : Bool}
    (hvalid : effectAuthorityValid op.effect op.confirm op.principals = true) (h : PlanNeeded op resolvedFromIntent) :
    requiresPlan op resolvedFromIntent = true := by
  have hconfirmed : op.confirm = .plan ∨ op.confirm = .console ∨ op.effect = .write ∧ resolvedFromIntent = true := by
    rcases h with he | he | hc | hc | hw
    · rcases effectAuthorityValid_confirm hvalid (.inl he) with hc | hc
      · exact .inl hc
      · exact .inr (.inl hc)
    · rcases effectAuthorityValid_confirm hvalid (.inr he) with hc | hc
      · exact .inl hc
      · exact .inr (.inl hc)
    · exact .inl hc
    · exact .inr (.inl hc)
    · exact .inr (.inr hw)
  rcases hconfirmed with hc | hc | ⟨he,hi⟩
  · simp [requiresPlan,hc]
  · simp [requiresPlan,hc]
  · simp [requiresPlan,he,hi]

theorem staticRefusal_none {op : OpSpec} {surface : Surface} (h : staticRefusal op surface = none) :
    effectAuthorityValid op.effect op.confirm op.principals = true ∧ surface ∈ op.surfaces := by
  unfold staticRefusal at h
  split_ifs at h with hvalid hsurface
  exact ⟨by simpa using hvalid,by simpa using hsurface⟩

/-- In every environment, a dispatch is reached only with complete authority. -/
theorem dispatch_requires_authority {σ : Type} (W : World Authority Authority.Answer σ) (services : InvokeServices)
    (request : Request) (s s' : σ) (t : History) (op : OpSpec) (params : Value) (context : ExecutionContext)
    (k : Authority.Answer (.dispatch op params context) → Invocation Reply)
    (h : Prog.Runs W (invoke services request) s t (.call (.dispatch op params context) k) s') :
    ∃ registered caller before entered within, t = before ++ entered :: within ∧
      Authorized services request registered caller before entered within op params context := by
  have hguard : InvokeGuard services request t (.dispatch op params context) :=
    ((invoke_meets services request).runs (h.record [])).1
  rcases hguard with hquiet | ⟨answers,v,registered,caller,call,rfl,hp,hstage⟩
  · exact absurd hquiet id
  cases hstage with
  | reserving hr =>
    cases hr with
    | quiet hq => exact absurd hq id
  | @executing r w auditRef reservation _ hv hr he =>
    cases he with
    | quiet hq =>
      rcases hq with hq | hq
      · exact absurd hq id
      · cases hq
    | @dispatch before within entered hw hentered hgranted hplan _ =>
      have hsub : answers ⊆ answers ++ r ++ before := by
        intro x hx
        simp [hx]
      obtain ⟨hvalid,hsurface⟩ := staticRefusal_none hp.static
      have heffective := hp.resolution.effective
      obtain ⟨hprincipal,htenant,hscopes,hkind,hdelegated,hrevision⟩ :=
        VerifiedCaller.same_fields hp.resolution.same
      refine ⟨registered,caller,answers ++ r ++ before,entered,within,by rw [hv,hw]; simp,?_⟩
      refine ⟨hp.get,hsurface,?_,hp.presented,hp.resolution.reverified.authentic,hp.resolution.same,hentered,
        hgranted.reverified,heffective.mono hsub,?_,?_,hgranted.policy,hgranted.subject,?_⟩
      · intro entries hin key child hmem name hname
        exact forbiddenPath_none hin hp.params hmem name hname
      · refine ⟨fun s hs => (hscopes s).mp ?_,fun s hs => (hscopes s).mp ?_⟩
        · exact requireScopes_none hp.resolution.scopes s hs
        · exact requireScopes_none hgranted.scopes s hs
      · refine ⟨(principalRule_none hp.resolution.principal).congr hkind hdelegated,?_⟩
        exact (principalRule_none hgranted.principal).congr hkind hdelegated
      · intro hneeded
        have hneeds : call.needsPlan = true := by
          refine requiresPlan_of_needed (effective_authority hvalid heffective) ?_
          rw [hp.resolvedFromIntent]
          exact hneeded
        obtain ⟨reference,href,hin⟩ := hplan hneeds
        refine ⟨reference,call.arguments.document,hp.planRef ▸ href,call.arguments.digestible,?_⟩
        have hbinding : call.binding services = ⟨call.op.id,services.sha256 (Json.write call.arguments.document),
            caller.principal,caller.tenant,caller.policyRevision,services.registry.digest,call.op.effect.value,
            call.op.confirm.value⟩ := by
          unfold Call.binding bindPlan paramsDigest
          rw [← hprincipal,← htenant,← hrevision]
        rw [← hbinding]
        exact List.mem_append_right _ hin

namespace Sample

def op : OpSpec :=
  { id := "docs.purge", params := .model "Purge", scopes := ["docs:purge"], effect := .destructive, confirm := .plan,
    audit := .event }

def registry : Registry where
  get id := if id = "docs.purge" then some op else none
  digest := "registry"
  get_id id op' h := by
    split_ifs at h with hid
    cases h
    exact hid.symm

def services : InvokeServices where
  registry := registry
  serviceScopes := []
  externalEffectOperations := ["docs.purge"]
  sha256 := String.ofList
  external_registered := by simp [registry]
  native_registered := by simp
  agents_owned := by simp [registry]
  fleet_served := by simp [registry]
  schema_served := by
    intro id op' path h hparams
    simp only [registry] at h
    split_ifs at h
    cases h
    cases hparams

def caller : VerifiedCaller where
  principal := "alice"
  tenant := "acme"
  effectiveScopes := ["docs:purge"]
  engineClaims := .dict [("principal",.str "alice"),("tenant",.str "acme"),("scopes",.tuple [.str "docs:purge"]),
    ("policy_version",.str "r1")]
  principalKind := "human"
  authenticated := true
  delegated := false
  credentialKind := "session"
  policyRevision := "r1"

def request : Request :=
  { opId := "docs.purge", params := .dict [("name",.str "notes")], caller := some caller, surface := .http,
    planRef := some "plan-1" }

def grant (dispatch : Attempt Value) (reservation : EffectReservation) : (e : Authority) → e.Answer
  | .validateModel _ (.mapping entries) => ModelAnswer.dumped entries
  | .validateModel _ _ => ModelAnswer.raised
  | .validateSchema _ _ => SchemaAnswer.other
  | .verifyCurrent caller => Attempt.returned (some caller)
  | .checkOp _ _ => Attempt.returned true
  | .fleetEffect _ _ _ => Attempt.returned FleetAnswer.other
  | .checkSubjectAccess _ _ => Attempt.returned true
  | .issuePlan _ _ => Attempt.returned (some "plan-1")
  | .consumePlan _ _ => Attempt.returned none
  | .time => (0 : Int)
  | .token => "token"
  | .auditPreflight _ _ _ => Attempt.returned (some "audit-1")
  | .reserve _ _ => Attempt.returned (some reservation)
  | .complete _ _ => Attempt.returned ()
  | .auditWrite _ _ _ => Attempt.returned ()
  | .asService _ _ => Attempt.returned ()
  | .asCaller _ => Attempt.returned ()
  | .leave => Left.returned
  | .dispatch _ _ _ => dispatch
  | .expired => false

def granting (_ : Unit) (e : Authority) : e.Answer × Unit :=
  (grant (.returned .null) ⟨"ref-1",.acquired,none⟩ e,())

def dispatching : Invocation Reply → Option String
  | .call (.dispatch op _ _) _ => some op.id
  | _ => none

theorem dispatching_some {p : Invocation Reply} {id : String} (h : dispatching p = some id) :
    ∃ op params context k, p = .call (.dispatch op params context) k ∧ op.id = id := by
  cases p with
  | ret a => cases h
  | raise x => cases h
  | call e k =>
    cases e with
    | dispatch op params context => exact ⟨op,params,context,k,rfl,Option.some.inj h⟩
    | _ => cases h

end Sample

open Sample in
/-- A confirmed purge that reaches the dispatcher, with all its authority. -/
theorem purge_requires_authority : ∃ t op params context registered caller before entered within,
    op.id = "docs.purge" ∧ t = before ++ entered :: within ∧
    Authorized services request registered caller before entered within op params context := by
  have hstands : dispatching (Prog.drive granting 13 (invoke services request) ()).1 = some "docs.purge" := by
    decide +kernel
  obtain ⟨op,params,context,k,hp,hid⟩ := dispatching_some hstands
  obtain ⟨t,ht⟩ := Prog.drive_runs (W := fun _ _ _ _ => True) (fun _ _ => trivial) 13 (invoke services request) ()
  rw [hp] at ht
  obtain ⟨registered,caller,before,entered,within,hsplit,hauth⟩ :=
    dispatch_requires_authority _ services request _ _ t op params context k ht
  exact ⟨t,op,params,context,registered,caller,before,entered,within,hid,hsplit,hauth⟩

end Arbora.Invoke
