import Arbora.Autonomy.Authorization

/-! The three answers to a request, with side effects and without, under an engine that works and shows nothing of the past. -/
namespace Arbora.Autonomy
open Interaction Prog

section
variable (policy : ActionPolicy) (request : ActionRequest) (g : Engine)

/-- A healthy engine with an empty ledger and no approvals, whatever overrides it returns. -/
structure Calm : Prop where
  rules : ∃ rows, g .governanceRules = .ok rows
  granted : ∀ digest, g (.grantedApproval digest) = .ok (some [])
  pending : ∀ kind target, g (.pendingApproval kind target) = .ok (some [])
  ledger : ∀ purpose kind, g (.ledger purpose kind) = .ok (some [])
  addApproval : ∀ id node, g (.addApproval id node) = .ok ()
  addDecision : ∀ id node, g (.addDecision id node) = .ok ()

def Answerable : Prop :=
  ∃ v, policy.verify request = .ok v ∧ (v.ok = true → ∃ rule, (matchRule policy request).eval g = .ok rule)
def Lifted : Prop :=
  ∃ rule, (matchRule policy request).eval g = .ok rule ∧ rule.tier = .approvalRequired ∧ graduates policy request = true
def ActionDecision.Outright (d : ActionDecision) : Prop :=
  d.disposition = .deny ∧ (d.ruleOrigin = "assurance" ∨ d.reason = "forbidden by policy")

structure Agreement (e : ActionDecision) (tier : Tier) (d : ActionDecision) : Prop where
  same : e.tier = tier
  outright : d.Outright ↔ tier = .forbidden ∧ Answerable policy request g
  unanswerable : ¬Answerable policy request g → tier = .forbidden ∧ d.disposition = .unavailable
  held : ¬Lifted policy request g → tier = .auto ∨ tier = .autoNotify →
    ¬(d.disposition = .hold ∧ d.reason = "tier requires human approval")
  allowed : d.allowed = true → e.decision.allowing = true

variable {policy request g} {rule : ActionRule} {v : VerifyResult}

theorem Calm.exceeded (h : Calm g) {budget : Budget} {limit : Limit} (hfree : ∀ most, 0 < most → budget.used [] most = false) :
    exceededFor policy request budget limit g = .ok false := by
  obtain ⟨most,window,_,_⟩ := limit
  have hrecent : recentFor policy request budget.purpose g = .ok (some []) := by
    unfold recentFor
    rw [h.ledger]
    split_ifs <;> rfl
  unfold exceededFor
  cases most with
  | none => rfl
  | some most =>
    cases window with
    | none => rfl
    | some window =>
      dsimp only
      split_ifs with hmost
      · rfl
      · rw [hrecent]
        exact congrArg Except.ok (hfree most (not_le.mp hmost))

theorem Calm.rate (h : Calm g) : rateUsed policy request g rule = .ok false := by
  rw [rateUsed_eq]
  cases rateOf policy rule with
  | none => rfl
  | some limit => exact h.exceeded fun most hmost => decide_eq_false (not_le.mpr hmost)

theorem Calm.blast (h : Calm g) : blastUsed policy request g rule = .ok false := by
  rw [blastUsed_eq]
  cases blastOf policy rule with
  | none => rfl
  | some limit =>
    refine h.exceeded fun most hmost => decide_eq_false ?_
    have hone : (targetsOf request []).card = 1 := rfl
    omega

theorem Calm.grantedFor (h : Calm g) : grantedFor policy request g = none := by
  unfold Autonomy.grantedFor
  split_ifs
  · cases request.digest with
    | error x => rfl
    | ok digest =>
      dsimp only
      rw [h.granted]
      rfl
  · rfl

theorem Calm.ruling_autonomous (h : Calm g) (policy : ActionPolicy) (request : ActionRequest) (hauto : rule.autonomous) :
    Ruling policy request g rule (passing rule (baseDecision request rule)) ∨
      ∃ reason, reason ≠ "tier requires human approval" ∧
        Ruling policy request g rule (heldFor policy (baseDecision request rule) g reason) := by
  cases hkind : policy.irreversibilityAversion && isIrreversible request.kind with
  | true => exact .inr ⟨_,by decide,.waits h.grantedFor (.irreversible hauto h.rate h.blast hkind)⟩
  | false =>
    cases hwindow : inMaintenanceWindow rule.maintenanceWindow (g (.now .window)) with
    | true => exact .inl (.cleared h.grantedFor ⟨hauto,h.rate,h.blast,hkind,hwindow⟩)
    | false =>
      refine .inr ⟨_,fun hreason => ?_,.waits h.grantedFor (.window hauto h.rate h.blast hkind hwindow)⟩
      have hhead := congrArg (fun text => text.toList.head?) hreason
      have hwindowHead : (windowReason rule).toList.head? = some 'o' := by
        unfold windowReason
        rw [String.toList_append,String.toList_append]
        rfl
      have happrovalHead : "tier requires human approval".toList.head? = some 't' := by decide
      rw [hwindowHead,happrovalHead] at hhead
      cases hhead

theorem disposition_heldFor_ne (policy : ActionPolicy) (g : Engine) (base : ActionDecision) (reason : String) :
    (heldFor policy base g reason).disposition ≠ .deny ∧ (heldFor policy base g reason).disposition ≠ .approve := by
  rcases disposition_heldFor policy g base reason with ⟨hhold,_⟩ | hun
  · rw [hhold]
    exact ⟨nofun,nofun⟩
  · rw [hun]
    exact ⟨nofun,nofun⟩

theorem reason_heldFor {base : ActionDecision} {reason : String} (h : (heldFor policy base g reason).disposition = .hold) :
    (heldFor policy base g reason).reason = reason := by
  unfold heldFor at h ⊢
  cases hqueued : queuedFor policy base.request g reason with
  | none =>
    rw [hqueued] at h
    cases h
  | some id => rfl

theorem boundFor_of_not_approve {d : ActionDecision} (h : d.disposition ≠ .approve) :
    boundFor policy g d = auditedFor policy g .decision d := by
  exact if_pos (.inl h)

theorem eval_evaluate : (evaluate policy request).eval g = .ok (match policy.verify request with
    | .error x => unavailable request ("policy unavailable (fail closed): " ++ x)
    | .ok v => if v.ok then
        match (matchRule policy request).eval g with
        | .error x => unavailable request ("policy unavailable (fail closed): " ++ x)
        | .ok rule => ⟨(rampedTier policy request rule).verdict,rampedTier policy request rule,request,
            "tier " ++ (rampedTier policy request rule).value,rule.origin,none,none,none,""⟩
      else assuranceDenial request v) := by
  unfold evaluate evaluateInner
  rw [eval_handle,bind_eq,eval_bind,eval_ofExcept]
  cases policy.verify request with
  | error x => rfl
  | ok v =>
    dsimp only [Except.bind]
    split_ifs
    · rw [bind_eq,eval_bind]
      cases (matchRule policy request).eval g with
      | error x => rfl
      | ok rule => rfl
    · rfl

theorem eval_classify : (classify policy request).eval g = .ok (match policy.verify request with
    | .error _ => .forbidden
    | .ok v => if v.ok then
        match (matchRule policy request).eval g with
        | .error _ => .forbidden
        | .ok rule => rampedTier policy request rule
      else .forbidden) := by
  unfold classify classifyInner
  rw [eval_handle,bind_eq,eval_bind,eval_ofExcept]
  cases policy.verify request with
  | error x => rfl
  | ok v =>
    dsimp only [Except.bind]
    split_ifs
    · rw [bind_eq,eval_bind]
      cases (matchRule policy request).eval g with
      | error x => rfl
      | ok rule => rfl
    · rfl

theorem innerFor_of_unanswerable (h : ¬Answerable policy request g) : ∃ text, innerFor policy request g = unavailable request text := by
  have hinner : ∃ x, (decideInner policy request).eval g = .error x := by
    unfold decideInner
    cases hverify : policy.verify request with
    | error x => exact ⟨x,rfl⟩
    | ok v =>
      rw [bind_eq,eval_bind_of_ok (eval_ofExcept _)]
      split_ifs with hok
      · rw [bind_eq,eval_bind]
        cases hrule : (matchRule policy request).eval g with
        | error x => exact ⟨x,rfl⟩
        | ok rule => exact absurd ⟨v,hverify,fun _ => ⟨rule,hrule⟩⟩ h
      · exact absurd ⟨v,hverify,fun hok' => absurd hok' hok⟩ h
  obtain ⟨x,hx⟩ := hinner
  unfold innerFor
  rw [hx]
  exact ⟨_,rfl⟩

theorem innerFor_of_denied (hverify : policy.verify request = .ok v) (hok : v.ok = false) :
    innerFor policy request g = assuranceDenial request v := by
  unfold innerFor decideInner
  rw [hverify,bind_eq,eval_bind_of_ok (eval_ofExcept _),hok]
  rfl

theorem agreement_unanswerable (h : ¬Answerable policy request g) {e : ActionDecision}
    (he : (evaluate policy request).eval g = .ok e) : (classify policy request).eval g = .ok .forbidden ∧
      Agreement policy request g e .forbidden (boundFor policy g (innerFor policy request g)) := by
  obtain ⟨text,hinner⟩ := innerFor_of_unanswerable h
  have hdisposition : (boundFor policy g (innerFor policy request g)).disposition = .unavailable := by
    rw [hinner]
    rfl
  have hallowed : (boundFor policy g (innerFor policy request g)).allowed = false := by
    rw [hinner,boundFor_of_not_approve (by rintro ⟨⟩)]
    refine Bool.eq_false_iff.mpr fun hallowed => ?_
    cases ((allowed_receipted _ _).mp hallowed).1
  have htiers : e.tier = .forbidden ∧ (classify policy request).eval g = .ok .forbidden := by
    rw [eval_evaluate] at he
    rw [eval_classify]
    cases hverify : policy.verify request with
    | error x =>
      rw [hverify] at he
      cases he
      exact ⟨rfl,rfl⟩
    | ok v =>
      rw [hverify] at he
      dsimp only at he ⊢
      split_ifs at he ⊢ with hok
      · cases hrule : (matchRule policy request).eval g with
        | error x =>
          rw [hrule] at he
          cases he
          exact ⟨rfl,rfl⟩
        | ok rule => exact absurd ⟨v,hverify,fun _ => ⟨rule,hrule⟩⟩ h
      · exact absurd ⟨v,hverify,fun hok' => absurd hok' hok⟩ h
  refine ⟨htiers.2,htiers.1,⟨?_,fun h' => absurd h'.2 h⟩,fun _ => ⟨rfl,hdisposition⟩,fun _ htier => ?_,?_⟩
  · rintro ⟨hdeny,_⟩
    rw [hdisposition] at hdeny
    cases hdeny
  · rcases htier with htier | htier <;> cases htier
  · rw [hallowed]
    nofun

theorem agreement_denied (hverify : policy.verify request = .ok v) (hok : v.ok = false) :
    Agreement policy request g (assuranceDenial request v) .forbidden (boundFor policy g (innerFor policy request g)) := by
  have hanswerable : Answerable policy request g := ⟨v,hverify,fun hok' => by rw [hok] at hok'; cases hok'⟩
  rw [innerFor_of_denied hverify hok,boundFor_of_not_approve (by rintro ⟨⟩)]
  refine ⟨rfl,⟨fun _ => ⟨rfl,hanswerable⟩,fun _ => ⟨rfl,.inl rfl⟩⟩,fun h => absurd hanswerable h,fun _ htier => ?_,?_⟩
  · rcases htier with htier | htier <;> cases htier
  · intro hallowed
    cases ((allowed_receipted _ _).mp hallowed).1

def evaluated (policy : ActionPolicy) (request : ActionRequest) (rule : ActionRule) : ActionDecision :=
  ⟨(rampedTier policy request rule).verdict,rampedTier policy request rule,request,
    "tier " ++ (rampedTier policy request rule).value,rule.origin,none,none,none,""⟩

theorem agreement_held {reason : String} (hanswerable : Answerable policy request g)
    (hinner : innerFor policy request g = heldFor policy (baseDecision request rule) g reason)
    (htier : rampedTier policy request rule ≠ .forbidden)
    (hreason : ¬Lifted policy request g → rampedTier policy request rule = .auto ∨ rampedTier policy request rule = .autoNotify →
      reason ≠ "tier requires human approval") :
    Agreement policy request g (evaluated policy request rule) (rampedTier policy request rule)
      (boundFor policy g (innerFor policy request g)) := by
  obtain ⟨hdeny,happrove⟩ := disposition_heldFor_ne policy g (baseDecision request rule) reason
  rw [hinner,boundFor_of_not_approve happrove]
  refine ⟨rfl,⟨fun hout => absurd hout.1 hdeny,fun hout => absurd hout.1 htier⟩,fun h => absurd hanswerable h,?_,?_⟩
  · rintro hlifted htier' ⟨hhold,hsame⟩
    have hsame' : (heldFor policy (baseDecision request rule) g reason).reason = "tier requires human approval" := hsame
    rw [reason_heldFor hhold] at hsame'
    exact hreason hlifted htier' hsame'
  · intro hallowed
    exact absurd ((allowed_receipted _ _).mp hallowed).1 happrove

theorem agreement_ruled (h : Calm g) (hv : Verified policy request) (hrule : (matchRule policy request).eval g = .ok rule) :
    Agreement policy request g (evaluated policy request rule) (rampedTier policy request rule)
      (boundFor policy g (innerFor policy request g)) := by
  have hanswerable : Answerable policy request g := by
    obtain ⟨v,hverify,_⟩ := hv
    exact ⟨v,hverify,fun _ => ⟨rule,hrule⟩⟩
  by_cases hforbidden : rule.tier = .forbidden
  · have hramped : rampedTier policy request rule = .forbidden := by
      unfold rampedTier
      rw [if_neg (by rw [hforbidden]; nofun),hforbidden]
    rw [innerFor_of_ruling hv hrule (.forbidden hforbidden),boundFor_of_not_approve (by rintro ⟨⟩),hramped]
    refine ⟨hramped,⟨fun _ => ⟨rfl,hanswerable⟩,fun _ => ⟨rfl,.inr rfl⟩⟩,fun h => absurd hanswerable h,fun _ htier => ?_,?_⟩
    · rcases htier with htier | htier <;> cases htier
    · intro hallowed
      cases ((allowed_receipted _ _).mp hallowed).1
  by_cases happroval : rule.tier = .approvalRequired
  · have hruling : Ruling policy request g rule
        (heldFor policy (baseDecision request rule) g "tier requires human approval") :=
      .waits h.grantedFor (.approval happroval)
    have hramped : rampedTier policy request rule = .approvalRequired ∨
        graduates policy request = true ∧ rampedTier policy request rule = .autoNotify := by
      unfold rampedTier
      split_ifs with hlift
      · exact .inr ⟨hlift.2,rfl⟩
      · exact .inl happroval
    refine agreement_held hanswerable (innerFor_of_ruling hv hrule hruling) ?_ ?_
    · rcases hramped with hramped | ⟨_,hramped⟩ <;> rw [hramped] <;> nofun
    · intro hlifted htier
      rcases hramped with hramped | ⟨hlift,_⟩
      · rw [hramped] at htier
        rcases htier with htier | htier <;> cases htier
      · exact absurd ⟨rule,hrule,happroval,hlift⟩ hlifted
  · have hramped : rampedTier policy request rule = rule.tier := by
      unfold rampedTier
      rw [if_neg (fun hlift => happroval hlift.1)]
    have hauto : rule.autonomous := by
      unfold ActionRule.autonomous
      cases htier : rule.tier with
      | auto => exact .inl rfl
      | autoNotify => exact .inr rfl
      | approvalRequired => exact absurd htier happroval
      | forbidden => exact absurd htier hforbidden
    rcases h.ruling_autonomous policy request hauto with hruling | ⟨reason,hreason,hruling⟩
    · have hinner := innerFor_of_ruling hv hrule hruling
      have happrove := disposition_passing rule (baseDecision request rule)
      rw [hinner]
      refine ⟨rfl,⟨fun hout => ?_,fun hout => ?_⟩,fun h => absurd hanswerable h,?_,fun _ => ?_⟩
      · have hdeny := (disposition_boundFor (.inl rfl)).mp hout.1
        rw [happrove] at hdeny
        cases hdeny
      · exact absurd (hramped ▸ hout.1) hforbidden
      · rintro _ _ ⟨hhold,_⟩
        have hhold := (disposition_boundFor (.inr rfl)).mp hhold
        rw [happrove] at hhold
        cases hhold
      · have hverdict : (evaluated policy request rule).decision = rule.tier.verdict := congrArg Tier.verdict hramped
        rw [hverdict]
        rcases hauto with htier | htier <;> rw [htier] <;> rfl
    · exact agreement_held hanswerable (innerFor_of_ruling hv hrule hruling) (hramped ▸ hforbidden) fun _ _ => hreason

/-- With no past, the three answers agree on every request that the ramp does not lift, and where the policy cannot be
read two of them say forbidden and the decision is unavailable. -/
theorem verdicts_agree (policy : ActionPolicy) (request : ActionRequest) {g : Engine} (h : Calm g) :
    ∃ e tier d, (evaluate policy request).eval g = .ok e ∧ (classify policy request).eval g = .ok tier ∧
      (decide policy request).eval g = .ok d ∧ Agreement policy request g e tier d := by
  by_cases hanswerable : Answerable policy request g
  · obtain ⟨v,hverify,hrule⟩ := hanswerable
    cases hok : v.ok with
    | false =>
      refine ⟨_,_,_,eval_evaluate,eval_classify,eval_decide,?_⟩
      rw [hverify]
      dsimp only
      rw [if_neg (by rw [hok]; exact Bool.false_ne_true),if_neg (by rw [hok]; exact Bool.false_ne_true)]
      exact agreement_denied hverify hok
    | true =>
      obtain ⟨rule,hrule⟩ := hrule hok
      refine ⟨_,_,_,eval_evaluate,eval_classify,eval_decide,?_⟩
      rw [hverify,hrule]
      dsimp only
      rw [if_pos hok,if_pos hok]
      exact agreement_ruled h ⟨v,hverify,hok⟩ hrule
  · obtain ⟨htier,hagree⟩ := agreement_unanswerable hanswerable eval_evaluate
    exact ⟨_,_,_,eval_evaluate,htier,eval_decide,hagree⟩

namespace Fixture

theorem calm_engine (rows : Rows RawItem) : Calm (engine rows) :=
  ⟨⟨rows,rfl⟩,fun _ => rfl,fun _ _ => rfl,fun _ _ => rfl,fun _ _ => rfl,fun _ _ => rfl⟩

end Fixture

open Fixture in
/-- Where an override cannot be read, the tier is forbidden and the decision is no denial. -/
theorem unreadable_override_diverges : Calm (engine (some [.malformed "invalid literal for int()"])) ∧
    (classify lenient restart).eval (engine (some [.malformed "invalid literal for int()"])) = .ok .forbidden ∧
    ∃ d, (decide lenient restart).eval (engine (some [.malformed "invalid literal for int()"])) = .ok d ∧ ¬d.Outright := by
  refine ⟨calm_engine _,rfl,_,eval_decide,?_⟩
  rintro ⟨hdeny,_⟩
  cases hdeny

open Fixture in
theorem verdicts_agree_restart : ∃ e tier d, (evaluate lenient restart).eval (engine (some [])) = .ok e ∧
    (classify lenient restart).eval (engine (some [])) = .ok tier ∧ (decide lenient restart).eval (engine (some [])) = .ok d ∧
    Agreement lenient restart (engine (some [])) e tier d :=
  verdicts_agree lenient restart (calm_engine (some []))

end

end Arbora.Autonomy
