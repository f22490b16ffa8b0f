import Arbora.Autonomy.Authorization

/-! Runs of a decision. None of them makes a call twice, so each is what the decision comes to under some engine. -/
namespace Arbora.Autonomy
open Interaction Prog

def rank : Call → ℕ
  | .governanceRules => 0
  | .grantedApproval _ => 1
  | .ledger .rate _ => 2
  | .now .rate => 3
  | .ledger .blast _ => 4
  | .now .blast => 5
  | .now .window => 6
  | .pendingApproval _ _ => 7
  | .uuid .approval => 8
  | .now .approval => 9
  | .addApproval _ _ => 10
  | .uuid .decision => 11
  | .now .decision => 12
  | .addDecision _ node => if node.decision.allowing then 13 else 16
  | .uuid .withdrawal => 14
  | .now .withdrawal => 15
  | .ledger _ _ | .uuid _ => 17

section
variable {policy : ActionPolicy} {request : ActionRequest} {rule : ActionRule} {base d : ActionDecision} {n : ℕ}

theorem ascends_matchRule : (matchRule policy request).Ascends rank 1 0 := by
  unfold matchRule kgRules
  refine Ascends.bind (m := 1) ?_ le_rfl fun rules => ascends_ofExcept le_rfl
  split_ifs
  · exact ascends_ask_bind le_rfl fun answer => ascends_ofExcept le_rfl
  · exact Nat.zero_le 1

theorem ascends_grantedApprovalId : (grantedApprovalId policy request).Ascends rank 2 1 := by
  unfold grantedApprovalId
  split_ifs
  · cases request.digest with
    | error x => exact Nat.le_succ 1
    | ok digest => exact ascends_ask_bind le_rfl fun answer => le_rfl
  · exact Nat.le_succ 1

theorem ascends_exceeded {budget : Budget} {limit : Limit} (hledger : rank (.ledger budget.purpose request.kind) = n)
    (hnow : rank (.now budget.purpose) = n+1) : (exceeded policy request budget limit).Ascends rank (n+2) n := by
  obtain ⟨most,window,_,_⟩ := limit
  unfold exceeded
  cases most with
  | none => exact Nat.le_add_right n 2
  | some most =>
    cases window with
    | none => exact Nat.le_add_right n 2
    | some window =>
      dsimp only
      split_ifs
      · exact Nat.le_add_right n 2
      refine Ascends.bind (m := n+1) ?_ (by omega) fun recent => ?_
      · unfold recentDecisions
        split_ifs
        · exact ascends_ask_bind hledger.ge fun answer => ascends_ofExcept (by omega)
        · exact Nat.le_succ n
      · cases recent with
        | none => exact Nat.le_succ (n+1)
        | some rows =>
          refine ascends_ask_bind hnow.ge fun now => ?_
          rw [hnow]
          exact (ascends_ofExcept le_rfl).bind le_rfl fun spent => le_rfl

theorem ascends_queueApproval (reason : String) : (queueApproval policy request reason).Ascends rank 11 7 := by
  unfold queueApproval
  split_ifs
  · refine ascends_ask_bind le_rfl fun answer => ?_
    cases pendingOf answer with
    | some id => exact (by decide : 8 ≤ 11)
    | none =>
      refine ascends_ask_bind le_rfl fun uuid => ?_
      cases request.digest with
      | error x => exact (by decide : 9 ≤ 11)
      | ok digest => exact ascends_ask_bind le_rfl fun created => ascends_ask_bind le_rfl fun answer => le_rfl
  · exact (by decide : 7 ≤ 11)

theorem ascends_hold (reason : String) : (hold policy base reason).Ascends rank 11 7 := by
  refine (ascends_queueApproval reason).bind le_rfl fun id => ?_
  cases id with
  | none => exact le_rfl
  | some id => exact le_rfl

theorem ascends_checked {limit : Option Limit} {isExceeded : Limit → Step Bool}
    (h : ∀ limit, (isExceeded limit).Ascends rank (n+2) n) : (checked limit isExceeded).Ascends rank (n+2) n := by
  cases limit with
  | none => exact Nat.le_add_right n 2
  | some limit => exact h limit

theorem ascends_windowCheck : (windowCheck policy rule base).Ascends rank 11 6 := by
  refine ascends_ask_bind le_rfl fun now => ?_
  split_ifs
  · exact (by decide : 7 ≤ 11)
  · exact ascends_hold _

theorem ascends_preChecks : (preChecks policy request rule base).Ascends rank 11 2 := by
  refine Ascends.bind (ascends_checked fun limit => ascends_exceeded rfl rfl) (by decide : 4 ≤ 11) fun rateUsed => ?_
  cases rateUsed with
  | true => exact (by decide : 4 ≤ 11)
  | false =>
    refine Ascends.bind (ascends_checked fun limit => ascends_exceeded rfl rfl) (by decide : 6 ≤ 11) fun blastUsed => ?_
    cases blastUsed with
    | true => exact (ascends_hold _).earlier (by decide)
    | false =>
      rw [if_neg Bool.false_ne_true]
      split_ifs
      · exact (ascends_hold _).earlier (by decide)
      · exact ascends_windowCheck

theorem ruled_eq (h : rule.tier ≠ .forbidden) : ruled policy request rule =
    (grantedApprovalId policy request).bind fun
      | some id => .ret (granted (baseDecision request rule) id)
      | none => if rule.tier = .approvalRequired then hold policy (baseDecision request rule) "tier requires human approval"
        else preChecks policy request rule (baseDecision request rule) := by
  unfold ruled tierDecision
  rw [if_neg h,bind_eq,bind_eq,bind_assoc]
  congr 1
  funext id
  cases id with
  | some id => rfl
  | none =>
    split_ifs
    · rw [bind_eq,bind_assoc]
      exact bind_ret _
    · rfl

theorem ascends_ruled : (ruled policy request rule).Ascends rank 11 1 := by
  by_cases hforbidden : rule.tier = .forbidden
  · unfold ruled tierDecision
    rw [if_pos hforbidden]
    exact (by decide : 1 ≤ 11)
  · rw [ruled_eq hforbidden]
    refine ascends_grantedApprovalId.bind (by decide) fun id => ?_
    cases id with
    | some id => exact (by decide : 2 ≤ 11)
    | none =>
      split_ifs
      · exact (ascends_hold _).earlier (by decide)
      · exact ascends_preChecks

def innerDecision (policy : ActionPolicy) (request : ActionRequest) : Step ActionDecision :=
  Prog.handle (decideInner policy request) fun x => .ret (unavailable request ("policy unavailable (fail closed): " ++ x))

theorem ascends_innerDecision : (innerDecision policy request).Ascends rank 11 0 := by
  refine Ascends.handle (m := 11) ?_ le_rfl fun x => le_rfl
  refine Ascends.bind (m := 0) (ascends_ofExcept le_rfl) (by decide) fun verify => ?_
  split_ifs
  · exact ascends_matchRule.bind (by decide) fun rule => ascends_ruled
  · exact (by decide : 0 ≤ 11)

theorem allowing_of_approve (h : d.disposition = .approve) : d.decision.allowing = true := by
  unfold ActionDecision.disposition at h
  cases hdecision : d.decision with
  | allow => rfl
  | allowNotify => rfl
  | queueApproval =>
    rw [hdecision] at h
    split_ifs at h
  | deny =>
    rw [hdecision] at h
    cases h
  | unavailable =>
    rw [hdecision] at h
    cases h

theorem bindDecisionReceipt_eq : bindDecisionReceipt policy d = (audit policy .decision d).bind fun auditId =>
    if d.disposition ≠ .approve ∨ (receipted d auditId).receipt.isSome = true then .ret (receipted d auditId)
    else audited policy .withdrawal (unavailable d.request "policy receipt unavailable (fail closed)") := by
  unfold bindDecisionReceipt audited
  rw [bind_eq,bind_eq,bind_assoc]
  rfl

variable {σ : Type} {W : World Call Call.Answer σ} {s s' : σ} {t : List (Event Call Call.Answer)}

end

end Arbora.Autonomy
