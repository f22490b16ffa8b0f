import Arbora.Autonomy.ActionPolicy

/-! What a decision comes to when the engine answers its calls, whatever it answers. -/
namespace Arbora.Autonomy
open Interaction Prog

abbrev Engine := (e : Call) → e.Answer

section
variable {policy : ActionPolicy} {request : ActionRequest} {g : Engine} {rule : ActionRule} {base d : ActionDecision}

def grantedFor (policy : ActionPolicy) (request : ActionRequest) (g : Engine) : Option String :=
  if policy.engine then
    match request.digest with
    | .error _ => none
    | .ok digest => grantedOf digest (g (.grantedApproval digest))
  else none

theorem eval_grantedApprovalId : (grantedApprovalId policy request).eval g = .ok (grantedFor policy request g) := by
  unfold grantedApprovalId grantedFor
  split_ifs
  · cases request.digest with
    | error x => rfl
    | ok digest => rfl
  · rfl

def queuedFor (policy : ActionPolicy) (request : ActionRequest) (g : Engine) (reason : String) : Option String :=
  if policy.engine then
    (pendingOf (g (.pendingApproval request.kind request.target))).or
      (match request.digest with
        | .error _ => none
        | .ok digest => accepted ("action_approval:" ++ g (.uuid .approval)) (g (.addApproval
            ("action_approval:" ++ g (.uuid .approval)) (request.approvalNode reason digest (g (.now .approval))))))
  else none

theorem eval_queueApproval (reason : String) :
    (queueApproval policy request reason).eval g = .ok (queuedFor policy request g reason) := by
  unfold queueApproval queuedFor
  split_ifs
  · rw [eval_ask_bind]
    cases hpending : pendingOf (g (.pendingApproval request.kind request.target)) with
    | some id => rfl
    | none =>
      unfold fileApproval draw clock
      rw [Option.elim_none,Option.none_or,bind_eq,eval_ask_bind]
      cases request.digest with
      | error x => rfl
      | ok digest => rfl
  · rfl

/-- A decision that waits, or one that could not be made to wait. -/
def heldFor (policy : ActionPolicy) (base : ActionDecision) (g : Engine) (reason : String) : ActionDecision :=
  match queuedFor policy base.request g reason with
  | some id => { base with decision := .queueApproval, reason := reason, approvalId := some id }
  | none => { base with decision := .unavailable, reason := "approval receipt unavailable (fail closed)",
                        ruleOrigin := "unavailable", approvalId := none }

theorem eval_hold (reason : String) : (hold policy base reason).eval g = .ok (heldFor policy base g reason) := by
  unfold hold heldFor
  rw [bind_eq,eval_bind_of_ok (eval_queueApproval reason)]
  cases queuedFor policy base.request g reason with
  | none => rfl
  | some id => rfl

def auditFor (policy : ActionPolicy) (g : Engine) (purpose : Purpose) (d : ActionDecision) : Option String :=
  if policy.engine then
    match d.request.digest with
    | .error _ => none
    | .ok digest => accepted ("action_decision:" ++ g (.uuid purpose)) (g (.addDecision
        ("action_decision:" ++ g (.uuid purpose)) (d.node digest (g (.now purpose)))))
  else none

theorem eval_audit (purpose : Purpose) : (audit policy purpose d).eval g = .ok (auditFor policy g purpose d) := by
  unfold audit auditFor
  split_ifs
  · unfold draw clock
    cases d.request.digest with
    | error x => rfl
    | ok digest => rfl
  · rfl

def receipted (d : ActionDecision) (auditId : Option String) : ActionDecision :=
  { d with auditId := auditId, receipt := policyReceipt { d with auditId := auditId } }
def auditedFor (policy : ActionPolicy) (g : Engine) (purpose : Purpose) (d : ActionDecision) : ActionDecision :=
  receipted d (auditFor policy g purpose d)

theorem eval_audited (purpose : Purpose) : (audited policy purpose d).eval g = .ok (auditedFor policy g purpose d) := by
  unfold audited
  rw [bind_eq,eval_bind_of_ok (eval_audit purpose)]
  rfl

/-- What is answered in the end. -/
def boundFor (policy : ActionPolicy) (g : Engine) (d : ActionDecision) : ActionDecision :=
  if d.disposition ≠ .approve ∨ (auditedFor policy g .decision d).receipt.isSome = true then auditedFor policy g .decision d
  else auditedFor policy g .withdrawal (unavailable d.request "policy receipt unavailable (fail closed)")

theorem eval_bindDecisionReceipt : (bindDecisionReceipt policy d).eval g = .ok (boundFor policy g d) := by
  unfold bindDecisionReceipt boundFor
  rw [bind_eq,eval_bind_of_ok (eval_audited .decision)]
  have hsame : (auditedFor policy g .decision d).disposition = d.disposition := rfl
  rw [hsame]
  split_ifs
  · rfl
  · exact eval_audited .withdrawal

def innerFor (policy : ActionPolicy) (request : ActionRequest) (g : Engine) : ActionDecision :=
  match (decideInner policy request).eval g with
  | .ok d => d
  | .error x => unavailable request ("policy unavailable (fail closed): " ++ x)

theorem eval_decide : (decide policy request).eval g = .ok (boundFor policy g (innerFor policy request g)) := by
  unfold decide innerFor
  rw [bind_eq,eval_bind,eval_handle]
  cases (decideInner policy request).eval g with
  | error x => exact eval_bindDecisionReceipt
  | ok d => exact eval_bindDecisionReceipt

end

section
variable (policy : ActionPolicy) (request : ActionRequest) (g : Engine) (rule : ActionRule)

def ActionRule.autonomous : Prop := rule.tier = .auto ∨ rule.tier = .autoNotify
def rateUsed : Except Failure Bool := (checked (rateOf policy rule) (rateExceeded policy request)).eval g
def blastUsed : Except Failure Bool := (checked (blastOf policy rule) (blastExceeded policy request)).eval g

/-- Nothing stands against an action that may go by itself. -/
structure Cleared : Prop where
  autonomous : rule.autonomous
  rate : rateUsed policy request g rule = .ok false
  blast : blastUsed policy request g rule = .ok false
  reversible : (policy.irreversibilityAversion && isIrreversible request.kind) = false
  inWindow : inMaintenanceWindow rule.maintenanceWindow (g (.now .window)) = true

inductive Waits : String → Prop where
  | approval (h : rule.tier = .approvalRequired) : Waits "tier requires human approval"
  | blast (h : rule.autonomous) (hrate : rateUsed policy request g rule = .ok false)
      (hblast : blastUsed policy request g rule = .ok true) : Waits (blastReason (blastOf policy rule))
  | irreversible (h : rule.autonomous) (hrate : rateUsed policy request g rule = .ok false)
      (hblast : blastUsed policy request g rule = .ok false)
      (hkind : (policy.irreversibilityAversion && isIrreversible request.kind) = true) :
      Waits "irreversible action — queued for approval (SAFE-1.5)"
  | window (h : rule.autonomous) (hrate : rateUsed policy request g rule = .ok false)
      (hblast : blastUsed policy request g rule = .ok false)
      (hkind : (policy.irreversibilityAversion && isIrreversible request.kind) = false)
      (hwindow : inMaintenanceWindow rule.maintenanceWindow (g (.now .window)) = false) : Waits (windowReason rule)

inductive Ruling : ActionDecision → Prop where
  | forbidden (h : rule.tier = .forbidden) : Ruling { baseDecision request rule with reason := "forbidden by policy" }
  | granted {id : String} (h : rule.tier ≠ .forbidden) (hgranted : grantedFor policy request g = some id) :
      Ruling (granted (baseDecision request rule) id)
  | rate (h : rule.autonomous) (hnone : grantedFor policy request g = none)
      (hrate : rateUsed policy request g rule = .ok true) :
      Ruling { baseDecision request rule with reason := rateReason (rateOf policy rule) }
  | waits {reason : String} (hnone : grantedFor policy request g = none) (h : Waits policy request g rule reason) :
      Ruling (heldFor policy (baseDecision request rule) g reason)
  | cleared (hnone : grantedFor policy request g = none) (h : Cleared policy request g rule) :
      Ruling (passing rule (baseDecision request rule))

variable {policy request g rule} {d : ActionDecision}

theorem eval_windowCheck (base : ActionDecision) : (windowCheck policy rule base).eval g =
    .ok (if inMaintenanceWindow rule.maintenanceWindow (g (.now .window)) then passing rule base
      else heldFor policy base g (windowReason rule)) := by
  unfold windowCheck clock
  rw [bind_eq,eval_ask_bind]
  split_ifs
  · rfl
  · exact eval_hold _

theorem eval_ruled_autonomous (h : rule.autonomous) (hnone : grantedFor policy request g = none) :
    (ruled policy request rule).eval g = (preChecks policy request rule (baseDecision request rule)).eval g := by
  have hforbidden : rule.tier ≠ .forbidden := by rcases h with h | h <;> rw [h] <;> decide
  have happroval : rule.tier ≠ .approvalRequired := by rcases h with h | h <;> rw [h] <;> decide
  have hsettled : (tierDecision policy request rule (baseDecision request rule)).eval g = .ok none := by
    unfold tierDecision
    rw [if_neg hforbidden,bind_eq,eval_bind_of_ok eval_grantedApprovalId,hnone]
    rw [if_neg happroval]
    rfl
  unfold ruled
  rw [bind_eq,eval_bind_of_ok hsettled]
  rfl

theorem eval_preChecks : (preChecks policy request rule (baseDecision request rule)).eval g =
    (rateUsed policy request g rule).bind fun used =>
      if used then .ok { baseDecision request rule with reason := rateReason (rateOf policy rule) }
      else (blastUsed policy request g rule).bind fun used =>
        if used then .ok (heldFor policy (baseDecision request rule) g (blastReason (blastOf policy rule)))
        else if policy.irreversibilityAversion && isIrreversible request.kind then
          .ok (heldFor policy (baseDecision request rule) g "irreversible action — queued for approval (SAFE-1.5)")
        else .ok (if inMaintenanceWindow rule.maintenanceWindow (g (.now .window)) then
            passing rule (baseDecision request rule)
          else heldFor policy (baseDecision request rule) g (windowReason rule)) := by
  unfold preChecks
  rw [bind_eq,eval_bind]
  unfold rateUsed
  cases (checked (rateOf policy rule) (rateExceeded policy request)).eval g with
  | error x => rfl
  | ok used =>
    cases used with
    | true => rfl
    | false =>
      change ((checked (blastOf policy rule) (blastExceeded policy request)).bind _).eval g = Except.bind _ _
      rw [eval_bind]
      unfold blastUsed
      cases (checked (blastOf policy rule) (blastExceeded policy request)).eval g with
      | error x => rfl
      | ok used =>
        cases used with
        | true => exact eval_hold _
        | false =>
          by_cases hkind : (policy.irreversibilityAversion && isIrreversible request.kind) = true
          · rw [if_pos hkind,if_pos hkind]
            exact eval_hold _
          · rw [if_neg hkind,if_neg hkind]
            exact eval_windowCheck _

theorem eval_ruled_forbidden (h : rule.tier = .forbidden) : (ruled policy request rule).eval g =
    .ok { baseDecision request rule with reason := "forbidden by policy" } := by
  unfold ruled tierDecision
  rw [if_pos h]
  rfl

theorem eval_ruled_granted {id : String} (h : rule.tier ≠ .forbidden) (hgranted : grantedFor policy request g = some id) :
    (ruled policy request rule).eval g = .ok (granted (baseDecision request rule) id) := by
  have hsettled : (tierDecision policy request rule (baseDecision request rule)).eval g =
      .ok (some (granted (baseDecision request rule) id)) := by
    unfold tierDecision
    rw [if_neg h,bind_eq,eval_bind_of_ok eval_grantedApprovalId,hgranted]
    rfl
  unfold ruled
  rw [bind_eq,eval_bind_of_ok hsettled]
  rfl

theorem eval_ruled_approval (h : rule.tier = .approvalRequired) (hnone : grantedFor policy request g = none) :
    (ruled policy request rule).eval g =
      .ok (heldFor policy (baseDecision request rule) g "tier requires human approval") := by
  have hforbidden : rule.tier ≠ .forbidden := by
    rw [h]
    decide
  have hsettled : (tierDecision policy request rule (baseDecision request rule)).eval g =
      .ok (some (heldFor policy (baseDecision request rule) g "tier requires human approval")) := by
    unfold tierDecision
    rw [if_neg hforbidden,bind_eq,eval_bind_of_ok eval_grantedApprovalId,hnone]
    rw [if_pos h,bind_eq,eval_bind_of_ok (eval_hold _)]
    rfl
  unfold ruled
  rw [bind_eq,eval_bind_of_ok hsettled]
  rfl

theorem eval_of_ruling (h : Ruling policy request g rule d) : (ruled policy request rule).eval g = .ok d := by
  cases h with
  | forbidden h => exact eval_ruled_forbidden h
  | granted h hgranted => exact eval_ruled_granted h hgranted
  | rate h hnone hrate =>
    rw [eval_ruled_autonomous h hnone,eval_preChecks,hrate]
    rfl
  | waits hnone h =>
    cases h with
    | approval h => exact eval_ruled_approval h hnone
    | blast h hrate hblast =>
      rw [eval_ruled_autonomous h hnone,eval_preChecks,hrate,hblast]
      rfl
    | irreversible h hrate hblast hkind =>
      rw [eval_ruled_autonomous h hnone,eval_preChecks,hrate,hblast,hkind]
      rfl
    | window h hrate hblast hkind hwindow =>
      rw [eval_ruled_autonomous h hnone,eval_preChecks,hrate,hblast,hkind,hwindow]
      rfl
  | cleared hnone h =>
    rw [eval_ruled_autonomous h.autonomous hnone,eval_preChecks,h.rate,h.blast,h.reversible,h.inWindow]
    rfl

/-- Nothing else comes of a rule. -/
theorem ruling_of_eval (h : (ruled policy request rule).eval g = .ok d) : Ruling policy request g rule d := by
  by_cases hforbidden : rule.tier = .forbidden
  · rw [eval_ruled_forbidden hforbidden] at h
    cases h
    exact .forbidden hforbidden
  cases hgranted : grantedFor policy request g with
  | some id =>
    rw [eval_ruled_granted hforbidden hgranted] at h
    cases h
    exact .granted hforbidden hgranted
  | none =>
    by_cases happroval : rule.tier = .approvalRequired
    · rw [eval_ruled_approval happroval hgranted] at h
      cases h
      exact .waits hgranted (.approval happroval)
    have hauto : rule.autonomous := by
      unfold ActionRule.autonomous
      cases htier : rule.tier with
      | auto => exact .inl rfl
      | autoNotify => exact .inr rfl
      | approvalRequired => exact absurd htier happroval
      | forbidden => exact absurd htier hforbidden
    rw [eval_ruled_autonomous hauto hgranted,eval_preChecks] at h
    cases hrate : rateUsed policy request g rule with
    | error x =>
      rw [hrate] at h
      cases h
    | ok used =>
      rw [hrate] at h
      cases used with
      | true =>
        cases h
        exact .rate hauto hgranted hrate
      | false =>
        cases hblast : blastUsed policy request g rule with
        | error x =>
          rw [hblast] at h
          cases h
        | ok used =>
          rw [hblast] at h
          cases used with
          | true =>
            cases h
            exact .waits hgranted (.blast hauto hrate hblast)
          | false =>
            cases hkind : policy.irreversibilityAversion && isIrreversible request.kind with
            | true =>
              rw [hkind] at h
              cases h
              exact .waits hgranted (.irreversible hauto hrate hblast hkind)
            | false =>
              rw [hkind] at h
              cases hwindow : inMaintenanceWindow rule.maintenanceWindow (g (.now .window)) with
              | true =>
                rw [hwindow] at h
                cases h
                exact .cleared hgranted ⟨hauto,hrate,hblast,hkind,hwindow⟩
              | false =>
                rw [hwindow] at h
                cases h
                exact .waits hgranted (.window hauto hrate hblast hkind hwindow)

end

section
variable {policy : ActionPolicy} {request : ActionRequest} {g : Engine} {d : ActionDecision}

theorem policyReceipt_eq_some {r : PolicyReceipt} (h : policyReceipt d = some r) : d.auditId = some r.receiptId ∧
    d.request.digest = .ok r.requestDigest ∧ r.disposition = d.disposition := by
  unfold policyReceipt at h
  cases haudit : d.auditId with
  | none =>
    rw [haudit] at h
    cases h
  | some auditId =>
    cases hdigest : d.request.digest with
    | error x =>
      rw [haudit,hdigest] at h
      cases h
    | ok digest =>
      rw [haudit,hdigest] at h
      dsimp only at h
      split_ifs at h
      cases h
      exact ⟨rfl,rfl,rfl⟩

theorem receipted_isSome {digest id : String} (hdigest : d.request.digest = .ok digest) (hid : isBounded 256 id = true)
    (horigin : isBounded 128 d.ruleOrigin = true) (happroval : d.approvalId.all (isBounded 256) = true) :
    (receipted d (some id)).receipt.isSome = true := by
  unfold receipted policyReceipt
  rw [hdigest]
  dsimp only
  rw [dif_pos ⟨⟨hid,horigin,happroval⟩,isSha256_digest hdigest⟩]
  rfl

def Recorded (policy : ActionPolicy) (g : Engine) (d : ActionDecision) : Prop :=
  (auditedFor policy g .decision d).receipt.isSome = true

theorem allowed_receipted (d : ActionDecision) (auditId : Option String) : (receipted d auditId).allowed = true ↔
    d.disposition = .approve ∧ (receipted d auditId).receipt.isSome = true := by
  unfold ActionDecision.allowed
  cases hreceipt : (receipted d auditId).receipt with
  | none => simp
  | some r =>
    have hdisposition : r.disposition = d.disposition := (policyReceipt_eq_some hreceipt).2.2
    unfold PolicyReceipt.authorizesEffect
    simp [hdisposition]

theorem allowed_boundFor : (boundFor policy g d).allowed = true ↔ d.disposition = .approve ∧ Recorded policy g d := by
  unfold boundFor Recorded
  split_ifs with hdone
  · exact allowed_receipted d _
  · rw [not_or,not_not] at hdone
    unfold auditedFor
    rw [allowed_receipted]
    constructor
    · rintro ⟨h,_⟩
      cases h
    · rintro ⟨_,h⟩
      exact absurd h hdone.2

theorem disposition_boundFor {x : PolicyDisposition} (hx : x = .deny ∨ x = .hold) :
    (boundFor policy g d).disposition = x ↔ d.disposition = x := by
  unfold boundFor
  split_ifs with hdone
  · exact Iff.rfl
  · rw [not_or,not_not] at hdone
    rw [hdone.1]
    rcases hx with rfl | rfl
    · exact ⟨nofun,nofun⟩
    · exact ⟨nofun,nofun⟩

def Verified (policy : ActionPolicy) (request : ActionRequest) : Prop :=
  ∃ v, policy.verify request = .ok v ∧ v.ok = true

theorem innerFor_of_ruling {rule : ActionRule} (hv : Verified policy request)
    (hrule : (matchRule policy request).eval g = .ok rule) (h : Ruling policy request g rule d) :
    innerFor policy request g = d := by
  obtain ⟨v,hverify,hok⟩ := hv
  have hinner : (decideInner policy request).eval g = .ok d := by
    unfold decideInner
    rw [hverify,bind_eq,eval_bind_of_ok (eval_ofExcept _),if_pos hok,bind_eq,eval_bind_of_ok hrule]
    exact eval_of_ruling h
  unfold innerFor
  rw [hinner]

theorem innerFor_cases (policy : ActionPolicy) (request : ActionRequest) (g : Engine) :
    (∃ rule, Verified policy request ∧ (matchRule policy request).eval g = .ok rule ∧
      Ruling policy request g rule (innerFor policy request g)) ∨
    (innerFor policy request g).disposition = .unavailable ∨
    ∃ v, policy.verify request = .ok v ∧ v.ok = false ∧ innerFor policy request g = assuranceDenial request v := by
  unfold innerFor
  cases hinner : (decideInner policy request).eval g with
  | error x => exact .inr (.inl rfl)
  | ok d =>
    unfold decideInner at hinner
    cases hverify : policy.verify request with
    | error x =>
      rw [hverify] at hinner
      cases hinner
    | ok v =>
      rw [hverify,bind_eq,eval_bind_of_ok (eval_ofExcept _)] at hinner
      split_ifs at hinner with hok
      · rw [bind_eq,eval_bind] at hinner
        cases hrule : (matchRule policy request).eval g with
        | error x =>
          rw [hrule] at hinner
          cases hinner
        | ok rule =>
          rw [hrule] at hinner
          exact .inl ⟨rule,⟨v,hverify,hok⟩,rfl,ruling_of_eval hinner⟩
      · cases hinner
        exact .inr (.inr ⟨v,rfl,Bool.not_eq_true _ ▸ hok,rfl⟩)

end

end Arbora.Autonomy
