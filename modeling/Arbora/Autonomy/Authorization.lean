import Arbora.Autonomy.FailClosed

/-! What stands behind a decision to allow, and what one failure of the engine can make of a refusal. -/
namespace Arbora.Autonomy
open Interaction Prog

section
variable {policy : ActionPolicy} {request : ActionRequest} {g : Engine} {rule : ActionRule} {d : ActionDecision} {e : Call}

theorem mem_made_ruled (hv : Verified policy request) (hrule : (matchRule policy request).eval g = .ok rule)
    (h : e ∈ (ruled policy request rule).made g) : e ∈ (decide policy request).made g := by
  obtain ⟨v,hverify,hok⟩ := hv
  unfold decide
  refine mem_made_left (mem_made_handle ?_)
  unfold decideInner
  refine mem_made_right (a := v) (by rw [hverify]; rfl) ?_
  rw [if_pos hok]
  exact mem_made_right hrule h

theorem mem_made_granted {digest : String} (hengine : policy.engine = true) (hdigest : request.digest = .ok digest)
    (hforbidden : rule.tier ≠ .forbidden) : .grantedApproval digest ∈ (ruled policy request rule).made g := by
  unfold ruled tierDecision
  rw [if_neg hforbidden]
  refine mem_made_left (mem_made_left ?_)
  unfold grantedApprovalId
  rw [if_pos hengine,hdigest]
  exact List.mem_cons_self

theorem mem_made_audit {digest : String} {purpose : Purpose} (hengine : policy.engine = true)
    (hdigest : d.request.digest = .ok digest) : .addDecision ("action_decision:" ++ g (.uuid purpose))
      (d.node digest (g (.now purpose))) ∈ (audit policy purpose d).made g := by
  unfold audit
  rw [if_pos hengine]
  refine mem_made_right (a := g (.uuid purpose)) rfl ?_
  rw [hdigest]
  exact mem_made_right (a := g (.now purpose)) rfl List.mem_cons_self

theorem mem_made_decide (h : e ∈ (audit policy .decision (innerFor policy request g)).made g) :
    e ∈ (decide policy request).made g := by
  have hinner : (Prog.handle (decideInner policy request) fun x =>
      .ret (unavailable request ("policy unavailable (fail closed): " ++ x))).eval g = .ok (innerFor policy request g) := by
    rw [eval_handle]
    unfold innerFor
    cases (decideInner policy request).eval g with
    | error x => rfl
    | ok d => rfl
  unfold decide
  refine mem_made_right hinner ?_
  unfold bindDecisionReceipt
  refine mem_made_left ?_
  unfold audited
  exact mem_made_left h

end

section
variable (policy : ActionPolicy) (request : ActionRequest) (g : Engine) (rule : ActionRule)

def Granted (d : ActionDecision) : Prop :=
  ∃ digest rows row id, request.digest = .ok digest ∧ .grantedApproval digest ∈ (decide policy request).made g ∧
    g (.grantedApproval digest) = .ok (some rows) ∧ some row ∈ rows ∧ row.requestDigest = some digest ∧ row.id = some id ∧
    d.approvalId = some id

def Audited (d : ActionDecision) : Prop :=
  ∃ digest id node receipt, request.digest = .ok digest ∧ node.requestDigest = digest ∧
    .addDecision id node ∈ (decide policy request).made g ∧ g (.addDecision id node) = .ok () ∧
    d.receipt = some receipt ∧ receipt.receiptId = id ∧ receipt.requestDigest = digest

/-- What stands behind a decision to allow. -/
structure Authorized (d : ActionDecision) : Prop where
  verified : Verified policy request
  ruled : ∃ rule, (matchRule policy request).eval g = .ok rule ∧ rule.tier ≠ .forbidden ∧
    (Granted policy request g d ∨ d.approvalId = none ∧ Cleared policy request g rule)
  audited : Audited policy request g d

inductive Allows : ActionDecision → Prop where
  | granted {id : String} (h : rule.tier ≠ .forbidden) (hgranted : grantedFor policy request g = some id) :
      Allows (granted (baseDecision request rule) id)
  | cleared (hnone : grantedFor policy request g = none) (h : Cleared policy request g rule) :
      Allows (passing rule (baseDecision request rule))

/-- A rule that stands against the action. -/
inductive Restrains : Prop where
  | forbidden (h : rule.tier = .forbidden)
  | rate (h : rule.autonomous) (hnone : grantedFor policy request g = none) (hrate : rateUsed policy request g rule = .ok true)
  | waits {reason id : String} (hnone : grantedFor policy request g = none) (h : Waits policy request g rule reason)
      (hfiled : queuedFor policy request g reason = some id)

variable {policy request g rule} {d : ActionDecision}

theorem disposition_passing (rule : ActionRule) (base : ActionDecision) : (passing rule base).disposition = .approve := by
  unfold passing ActionDecision.disposition
  split_ifs <;> rfl

theorem disposition_heldFor (policy : ActionPolicy) (g : Engine) (base : ActionDecision) (reason : String) :
    ((heldFor policy base g reason).disposition = .hold ∧ ∃ id, queuedFor policy base.request g reason = some id) ∨
      (heldFor policy base g reason).disposition = .unavailable := by
  unfold heldFor
  cases queuedFor policy base.request g reason with
  | none => exact .inr rfl
  | some id => exact .inl ⟨rfl,id,rfl⟩

theorem Ruling.allows (h : Ruling policy request g rule d) (hd : d.disposition = .approve) : Allows policy request g rule d := by
  cases h with
  | forbidden _ => cases hd
  | granted hforbidden hgranted => exact .granted hforbidden hgranted
  | rate _ _ _ => cases hd
  | waits _ _ =>
    rcases disposition_heldFor policy g (baseDecision request rule) _ with ⟨hhold,_⟩ | hun
    · rw [hhold] at hd
      cases hd
    · rw [hun] at hd
      cases hd
  | cleared hnone hcleared => exact .cleared hnone hcleared

theorem Allows.ruling (h : Allows policy request g rule d) : Ruling policy request g rule d ∧ d.disposition = .approve := by
  cases h with
  | granted hforbidden hgranted => exact ⟨.granted hforbidden hgranted,rfl⟩
  | cleared hnone hcleared => exact ⟨.cleared hnone hcleared,disposition_passing rule _⟩

theorem Ruling.restrains (h : Ruling policy request g rule d) (hd : d.disposition = .deny ∨ d.disposition = .hold) :
    Restrains policy request g rule := by
  cases h with
  | forbidden hforbidden => exact .forbidden hforbidden
  | granted _ _ => rcases hd with hd | hd <;> cases hd
  | rate hauto hnone hrate => exact .rate hauto hnone hrate
  | waits hnone hwaits =>
    rcases disposition_heldFor policy g (baseDecision request rule) _ with ⟨_,id,hid⟩ | hun
    · exact .waits hnone hwaits hid
    · rw [hun] at hd
      rcases hd with hd | hd <;> cases hd
  | cleared _ _ =>
    rw [disposition_passing] at hd
    rcases hd with hd | hd <;> cases hd

theorem Restrains.ruling (h : Restrains policy request g rule) :
    ∃ d, Ruling policy request g rule d ∧ (d.disposition = .deny ∨ d.disposition = .hold) := by
  cases h with
  | forbidden hforbidden => exact ⟨_,.forbidden hforbidden,.inl rfl⟩
  | rate hauto hnone hrate => exact ⟨_,.rate hauto hnone hrate,.inl rfl⟩
  | @waits reason id hnone hwaits hfiled =>
    refine ⟨_,.waits hnone hwaits,.inr ?_⟩
    unfold heldFor
    have hqueued : queuedFor policy (baseDecision request rule).request g reason = some id := hfiled
    rw [hqueued]
    rfl

theorem allowed_decide : (boundFor policy g (innerFor policy request g)).allowed = true ↔ Verified policy request ∧
    ∃ rule d, (matchRule policy request).eval g = .ok rule ∧ Allows policy request g rule d ∧ Recorded policy g d ∧
      innerFor policy request g = d := by
  rw [allowed_boundFor]
  constructor
  · rintro ⟨hd,hrecorded⟩
    rcases innerFor_cases policy request g with ⟨rule,hv,hrule,hruling⟩ | hun | ⟨v,_,_,hdenial⟩
    · exact ⟨hv,rule,_,hrule,hruling.allows hd,hrecorded,rfl⟩
    · rw [hun] at hd
      cases hd
    · rw [hdenial] at hd
      cases hd
  · rintro ⟨_,rule,d,_,hallows,hrecorded,rfl⟩
    exact ⟨hallows.ruling.2,hrecorded⟩

theorem restrained_decide (hv : Verified policy request) :
    ((boundFor policy g (innerFor policy request g)).disposition = .deny ∨
      (boundFor policy g (innerFor policy request g)).disposition = .hold) ↔
    ∃ rule, (matchRule policy request).eval g = .ok rule ∧ Restrains policy request g rule := by
  rw [disposition_boundFor (.inl rfl),disposition_boundFor (.inr rfl)]
  constructor
  · intro hd
    rcases innerFor_cases policy request g with ⟨rule,_,hrule,hruling⟩ | hun | ⟨v,hverify,hok,_⟩
    · exact ⟨rule,hrule,hruling.restrains hd⟩
    · rw [hun] at hd
      rcases hd with hd | hd <;> cases hd
    · obtain ⟨v',hverify',hok'⟩ := hv
      rw [hverify] at hverify'
      cases hverify'
      rw [hok] at hok'
      cases hok'
  · rintro ⟨rule,hrule,h⟩
    obtain ⟨d,hruling,hd⟩ := h.ruling
    rw [innerFor_of_ruling hv hrule hruling]
    exact hd

theorem grantedIn_eq_some {digest id : String} {rows : List (Option ApprovalRow)} (h : grantedIn digest rows = some id) :
    ∃ row, some row ∈ rows ∧ row.requestDigest = some digest ∧ row.id = some id := by
  induction rows with
  | nil => cases h
  | cons row rest ih =>
    cases row with
    | none => cases h
    | some row =>
      unfold grantedIn at h
      split_ifs at h with hrow
      · unfold ApprovalRow.named at h
        exact ⟨row,List.mem_cons_self,hrow.1,(Option.filter_eq_some_iff.mp h).1⟩
      · obtain ⟨row',hmem,hfound⟩ := ih h
        exact ⟨row',List.mem_cons_of_mem _ hmem,hfound⟩

theorem granted_of_grantedFor {id : String} (hv : Verified policy request)
    (hrule : (matchRule policy request).eval g = .ok rule) (hforbidden : rule.tier ≠ .forbidden)
    (h : grantedFor policy request g = some id) (hd : d.approvalId = some id) : Granted policy request g d := by
  unfold grantedFor at h
  split_ifs at h with hengine
  cases hdigest : request.digest with
  | error x =>
    rw [hdigest] at h
    cases h
  | ok digest =>
    rw [hdigest] at h
    dsimp only at h
    have hmade := mem_made_ruled hv hrule (mem_made_granted (g := g) hengine hdigest hforbidden)
    cases hrows : g (.grantedApproval digest) with
    | error x =>
      rw [hrows] at h
      cases h
    | ok rows =>
      rw [hrows] at h
      cases rows with
      | none => cases h
      | some rows =>
        obtain ⟨row,hmem,hrow,hid⟩ := grantedIn_eq_some h
        exact ⟨digest,rows,row,id,hdigest,hmade,hrows,hmem,hrow,hid,hd⟩

theorem accepted_eq_some {α : Type} {a b : α} {r : Except Failure Unit} (h : accepted a r = some b) : r = .ok () ∧ b = a := by
  cases r with
  | error x => cases h
  | ok u =>
    cases h
    exact ⟨rfl,rfl⟩

theorem audited_of_recorded (hd : innerFor policy request g = d) (hsame : d.request = request)
    (hrecorded : Recorded policy g d) : Audited policy request g (auditedFor policy g .decision d) := by
  subst hd
  obtain ⟨receipt,hreceipt⟩ := Option.isSome_iff_exists.mp hrecorded
  obtain ⟨haudit,hdigest,_⟩ := policyReceipt_eq_some hreceipt
  unfold auditFor at haudit
  split_ifs at haudit with hengine
  rw [hdigest] at haudit
  obtain ⟨hwritten,hid⟩ := accepted_eq_some haudit
  exact ⟨receipt.requestDigest,receipt.receiptId,_,receipt,hsame ▸ hdigest,rfl,
    hid ▸ mem_made_decide (mem_made_audit hengine hdigest),hid ▸ hwritten,hreceipt,rfl,rfl⟩

theorem authorized_of_allowed (h : (boundFor policy g (innerFor policy request g)).allowed = true) :
    Authorized policy request g (boundFor policy g (innerFor policy request g)) := by
  obtain ⟨hv,rule,d,hrule,hallows,hrecorded,hd⟩ := allowed_decide.mp h
  have hbound : boundFor policy g (innerFor policy request g) = auditedFor policy g .decision d := by
    rw [hd]
    exact if_pos (.inr hrecorded)
  have hsame : d.request = request := by cases hallows <;> rfl
  rw [hbound]
  refine ⟨hv,⟨rule,hrule,?_⟩,audited_of_recorded hd hsame hrecorded⟩
  cases hallows with
  | granted hforbidden hgranted => exact ⟨hforbidden,.inl (granted_of_grantedFor hv hrule hforbidden hgranted rfl)⟩
  | cleared _ hcleared =>
    refine ⟨?_,.inr ⟨rfl,hcleared⟩⟩
    rcases hcleared.autonomous with htier | htier <;> rw [htier] <;> decide

end

section
variable {policy : ActionPolicy} {request : ActionRequest} {g g' : Engine} {rule : ActionRule} {e : Call}

def Failed (g : Engine) : Call → Prop
  | .governanceRules => ∃ x, g .governanceRules = .error x
  | .grantedApproval digest => ∃ x, g (.grantedApproval digest) = .error x
  | .pendingApproval kind target => ∃ x, g (.pendingApproval kind target) = .error x
  | .ledger purpose kind => ∃ x, g (.ledger purpose kind) = .error x
  | .addApproval id node => ∃ x, g (.addApproval id node) = .error x
  | .addDecision id node => ∃ x, g (.addDecision id node) = .error x
  | .now _ | .uuid _ => False

structure FailsAt (g g' : Engine) (e : Call) : Prop where
  failed : Failed g' e
  same : ∀ e', e' ≠ e → g' e' = g e'

theorem FailsAt.now (h : FailsAt g g' e) (purpose : Purpose) : g' (.now purpose) = g (.now purpose) := by
  refine h.same _ ?_
  rintro rfl
  exact h.failed

def recentFor (policy : ActionPolicy) (request : ActionRequest) (purpose : Purpose) (g : Engine) :
    Except Failure (Option (List LedgerRow)) :=
  if policy.engine then recentOf (g (.ledger purpose request.kind)) else .ok (some [])

theorem eval_recentDecisions {purpose : Purpose} :
    (recentDecisions policy request purpose).eval g = recentFor policy request purpose g := by
  unfold recentDecisions recentFor
  split_ifs
  · rw [eval_ask_bind,eval_ofExcept]
  · rfl

def usedFor (budget : Budget) (most : ℤ) (window : ℚ) (rows : List LedgerRow) (g : Engine) : Except Failure Bool :=
  (spentSince (g (.now budget.purpose)-window) (rows.filter budget.relevant)).map fun spent => budget.used spent most

variable {limit : Limit} {budget : Budget}

theorem eval_usedSince {most : ℤ} {window : ℚ} {rows : List LedgerRow} :
    (usedSince budget most window rows).eval g = usedFor budget most window rows g := by
  unfold usedSince usedFor clock
  rw [bind_eq,eval_ask_bind,bind_eq,eval_bind,eval_ofExcept]
  cases spentSince (g (.now budget.purpose)-window) (rows.filter budget.relevant) with
  | error x => rfl
  | ok spent => rfl

def exceededFor (policy : ActionPolicy) (request : ActionRequest) (budget : Budget) (limit : Limit) (g : Engine) :
    Except Failure Bool :=
  match limit.most, limit.window with
  | some most, some window =>
    if most ≤ 0 then .ok false
    else (recentFor policy request budget.purpose g).bind fun recent =>
      recent.elim (.ok true) fun rows => usedFor budget most window rows g
  | _, _ => .ok false

theorem eval_exceeded :
    (exceeded policy request budget limit).eval g = exceededFor policy request budget limit g := by
  unfold exceeded exceededFor
  cases limit.most with
  | none => rfl
  | some most =>
    cases limit.window with
    | none => rfl
    | some window =>
      dsimp only
      split_ifs
      · rfl
      · rw [bind_eq,eval_bind,eval_recentDecisions]
        congr 1
        funext recent
        cases recent with
        | none => rfl
        | some rows => exact eval_usedSince

theorem FailsAt.exceeded (h : FailsAt g g' e) (hfree : exceededFor policy request budget limit g' = .ok false) :
    exceededFor policy request budget limit g = .ok false := by
  obtain ⟨most,window,_,_⟩ := limit
  unfold exceededFor at hfree ⊢
  cases most with
  | none => rfl
  | some most =>
    cases window with
    | none => rfl
    | some window =>
      dsimp only at hfree ⊢
      split_ifs with hmost
      · rfl
      rw [if_neg hmost] at hfree
      have hrecent : recentFor policy request budget.purpose g' = recentFor policy request budget.purpose g := by
        unfold recentFor at hfree ⊢
        split_ifs with hengine
        · by_cases he : e = .ledger budget.purpose request.kind
          · -- the scan is what fails: the budget counts as used up
            subst he
            obtain ⟨x,hx⟩ := h.failed
            rw [if_pos hengine,hx] at hfree
            cases hfree
          · rw [h.same _ (Ne.symm he)]
        · rfl
      rw [hrecent] at hfree
      unfold usedFor at hfree ⊢
      rwa [h.now] at hfree

theorem FailsAt.granted (h : FailsAt g g' e) {id : String} (hgranted : grantedFor policy request g' = some id) :
    grantedFor policy request g = some id := by
  unfold grantedFor at hgranted ⊢
  split_ifs at hgranted ⊢ with hengine
  cases hdigest : request.digest with
  | error x =>
    rw [hdigest] at hgranted
    cases hgranted
  | ok digest =>
    rw [hdigest] at hgranted
    dsimp only at hgranted ⊢
    by_cases he : e = .grantedApproval digest
    · subst he
      obtain ⟨x,hx⟩ := h.failed
      rw [hx] at hgranted
      cases hgranted
    · rwa [h.same _ (Ne.symm he)] at hgranted

theorem rateUsed_eq : rateUsed policy request g rule =
    (rateOf policy rule).elim (.ok false) fun limit => exceededFor policy request (rateBudget request) limit g := by
  unfold rateUsed checked
  cases rateOf policy rule with
  | none => rfl
  | some limit => exact eval_exceeded

theorem blastUsed_eq : blastUsed policy request g rule =
    (blastOf policy rule).elim (.ok false) fun limit => exceededFor policy request (blastBudget request) limit g := by
  unfold blastUsed checked
  cases blastOf policy rule with
  | none => rfl
  | some limit => exact eval_exceeded

theorem FailsAt.cleared (h : FailsAt g g' e) (hcleared : Cleared policy request g' rule) : Cleared policy request g rule := by
  obtain ⟨hauto,hrate,hblast,hkind,hwindow⟩ := hcleared
  refine ⟨hauto,?_,?_,hkind,h.now .window ▸ hwindow⟩
  · rw [rateUsed_eq] at hrate ⊢
    cases hlimit : rateOf policy rule with
    | none => rfl
    | some limit =>
      rw [hlimit] at hrate
      exact h.exceeded hrate
  · rw [blastUsed_eq] at hblast ⊢
    cases hlimit : blastOf policy rule with
    | none => rfl
    | some limit =>
      rw [hlimit] at hblast
      exact h.exceeded hblast

/-- A rule that lets an action go when the engine fails does not stand against it otherwise. -/
theorem FailsAt.not_restrains (h : FailsAt g g' e) {d : ActionDecision} (hallows : Allows policy request g' rule d) :
    ¬Restrains policy request g rule := by
  intro hrestrains
  cases hallows with
  | granted hforbidden hgranted =>
    have hgranted := h.granted hgranted
    cases hrestrains with
    | forbidden h => exact hforbidden h
    | rate _ hnone _ =>
      rw [hgranted] at hnone
      cases hnone
    | waits hnone _ _ =>
      rw [hgranted] at hnone
      cases hnone
  | cleared _ hcleared =>
    obtain ⟨hauto,hrate,hblast,hkind,hwindow⟩ := h.cleared hcleared
    cases hrestrains with
    | forbidden h => rcases hauto with hauto | hauto <;> rw [h] at hauto <;> cases hauto
    | rate _ _ hused =>
      rw [hrate] at hused
      cases hused
    | waits _ hwaits _ =>
      cases hwaits with
      | approval h => rcases hauto with hauto | hauto <;> rw [h] at hauto <;> cases hauto
      | blast _ _ hused =>
        rw [hblast] at hused
        cases hused
      | irreversible _ _ _ hused =>
        rw [hkind] at hused
        cases hused
      | window _ _ _ _ hused =>
        rw [hwindow] at hused
        cases hused

/-- Engines that differ in the overrides alone. -/
def Agree (g g' : Engine) : Prop := ∀ e, e ≠ .governanceRules → g' e = g e

theorem Agree.symm (h : Agree g g') : Agree g' g := fun e he => (h e he).symm

theorem Agree.grantedFor (h : Agree g g') : grantedFor policy request g' = grantedFor policy request g := by
  unfold Autonomy.grantedFor
  split_ifs
  · cases request.digest with
    | error x => rfl
    | ok digest => exact congrArg (grantedOf digest) (h (.grantedApproval digest) nofun)
  · rfl

theorem Agree.exceededFor (h : Agree g g') :
    exceededFor policy request budget limit g' = exceededFor policy request budget limit g := by
  have hrecent : recentFor policy request budget.purpose g' = recentFor policy request budget.purpose g := by
    unfold recentFor
    rw [h (.ledger budget.purpose request.kind) nofun]
  have hused : ∀ most window rows, usedFor budget most window rows g' = usedFor budget most window rows g := by
    intro most window rows
    unfold usedFor
    rw [h (.now budget.purpose) nofun]
  unfold Autonomy.exceededFor
  simp only [hrecent,hused]

theorem Agree.allows (h : Agree g g') {d : ActionDecision} (hallows : Allows policy request g rule d) :
    Allows policy request g' rule d := by
  cases hallows with
  | granted hforbidden hgranted => exact .granted hforbidden (h.grantedFor ▸ hgranted)
  | cleared hnone hcleared =>
    obtain ⟨hauto,hrate,hblast,hkind,hwindow⟩ := hcleared
    refine .cleared (h.grantedFor ▸ hnone) ⟨hauto,?_,?_,hkind,(h (.now .window) nofun) ▸ hwindow⟩
    · rw [rateUsed_eq] at hrate ⊢
      simpa only [h.exceededFor] using hrate
    · rw [blastUsed_eq] at hblast ⊢
      simpa only [h.exceededFor] using hblast

theorem Agree.recorded (h : Agree g g') {d : ActionDecision} (hrecorded : Recorded policy g d) : Recorded policy g' d := by
  have haudit : auditFor policy g' .decision d = auditFor policy g .decision d := by
    unfold auditFor
    rw [h (.uuid .decision) nofun,h (.now .decision) nofun]
    cases d.request.digest with
    | error x => rfl
    | ok digest =>
      dsimp only
      rw [h (.addDecision _ _) nofun]
  unfold Recorded auditedFor at hrecorded ⊢
  rwa [haudit]

theorem eval_matchRule : (matchRule policy request).eval g =
    (if policy.engine then kgRulesOf (g .governanceRules) else .ok []).bind (matchIn policy request) := by
  unfold matchRule kgRules
  rw [bind_eq,eval_bind]
  simp only [eval_ofExcept]
  split_ifs
  · rw [eval_ask_bind,eval_ofExcept]
  · rfl

theorem eval_matchRule_failed (h : Failed g .governanceRules) :
    (matchRule policy request).eval g = matchIn policy request [] := by
  obtain ⟨x,hx⟩ := h
  rw [eval_matchRule,hx]
  split_ifs <;> rfl

section
variable (policy : ActionPolicy) (request : ActionRequest) (g : Engine)

def FailsClosed : Prop :=
  ∃ d, (decide policy request).eval g = .ok d ∧ (d.allowed = true → Authorized policy request g d) ∧
    ∀ g' e d', FailsAt g g' e → (decide policy request).eval g' = .ok d' → d'.allowed = true →
      d.disposition ≠ .deny ∧ d.disposition ≠ .hold

def Undercut : Prop :=
  Verified policy request ∧ ∃ rule d, matchIn policy request [] = .ok rule ∧ Allows policy request g rule d ∧ Recorded policy g d ∧
    ∃ override, (matchRule policy request).eval g = .ok override ∧ Restrains policy request g override

def withoutOverrides (g : Engine) : Engine
  | .governanceRules => .error "engine unavailable"
  | e => g e

variable {policy request g}

theorem failsAt_withoutOverrides : FailsAt g (withoutOverrides g) .governanceRules := by
  refine ⟨⟨_,rfl⟩,fun e he => ?_⟩
  cases e <;> first | rfl | exact absurd rfl he

theorem not_fails_closed (h : Undercut policy request g) : ¬FailsClosed policy request g := by
  obtain ⟨hv,rule,d₀,hrule,hallows,hrecorded,override,hoverride,hrestrains⟩ := h
  rintro ⟨d,hd,_,hfails⟩
  rw [eval_decide] at hd
  cases hd
  have hagree : Agree g (withoutOverrides g) := failsAt_withoutOverrides.same
  have hmatch : (matchRule policy request).eval (withoutOverrides g) = .ok rule :=
    (eval_matchRule_failed ⟨_,rfl⟩).trans hrule
  have hallows := hagree.allows hallows
  have hinner : innerFor policy request (withoutOverrides g) = d₀ := innerFor_of_ruling hv hmatch hallows.ruling.1
  have hallowed := allowed_decide.mpr ⟨hv,rule,d₀,hmatch,hallows,hagree.recorded hrecorded,hinner⟩
  obtain ⟨hdeny,hhold⟩ := hfails _ _ _ failsAt_withoutOverrides eval_decide hallowed
  rcases (restrained_decide hv).mpr ⟨override,hoverride,hrestrains⟩ with h | h
  · exact hdeny h
  · exact hhold h

theorem fails_closed_of_not_undercut (h : ¬Undercut policy request g) : FailsClosed policy request g := by
  refine ⟨_,eval_decide,authorized_of_allowed,?_⟩
  intro g' e d' hfails hd' hallowed
  rw [eval_decide] at hd'
  cases hd'
  obtain ⟨hv,rule,d,hrule,hallows,hrecorded,_⟩ := allowed_decide.mp hallowed
  rw [← not_or]
  intro hrestrained
  obtain ⟨override,hoverride,hrestrains⟩ := (restrained_decide hv).mp hrestrained
  by_cases he : e = .governanceRules
  · subst he
    have hagree : Agree g' g := Agree.symm hfails.same
    rw [eval_matchRule_failed hfails.failed] at hrule
    exact h ⟨hv,rule,d,hrule,hagree.allows hallows,hagree.recorded hrecorded,override,hoverride,hrestrains⟩
  · -- any other failure leaves the rule that matches as it is
    have hsame : (matchRule policy request).eval g' = (matchRule policy request).eval g := by
      rw [eval_matchRule,eval_matchRule,hfails.same _ (Ne.symm he)]
    rw [hsame,hoverride] at hrule
    cases hrule
    exact hfails.not_restrains hallows hrestrains

/-- The gate fails closed just if the overrides stand against nothing that the rules without them let go. -/
theorem fails_closed_iff (policy : ActionPolicy) (request : ActionRequest) (g : Engine) :
    FailsClosed policy request g ↔ ¬Undercut policy request g :=
  ⟨fun h hundercut => not_fails_closed hundercut h,fails_closed_of_not_undercut⟩

theorem recorded_of_written {d : ActionDecision} {digest : String} (hengine : policy.engine = true)
    (hdigest : d.request.digest = .ok digest) (hwritten : ∀ id node, g (.addDecision id node) = .ok ())
    (hid : isBounded 256 ("action_decision:" ++ g (.uuid .decision)) = true) (horigin : isBounded 128 d.ruleOrigin = true)
    (happroval : d.approvalId.all (isBounded 256) = true) : Recorded policy g d := by
  have haudit : auditFor policy g .decision d = some ("action_decision:" ++ g (.uuid .decision)) := by
    unfold auditFor
    rw [if_pos hengine,hdigest]
    dsimp only
    rw [hwritten]
    rfl
  unfold Recorded auditedFor
  rw [haudit]
  exact receipted_isSome hdigest hid horigin happroval

namespace Fixture

def lenient : ActionPolicy :=
  ⟨true,false,[],"auto",none,none,[],fun _ => .ok ⟨true,"",""⟩,none⟩
def restart : ActionRequest := ⟨"restart_service","web",some [],"reactor","",""⟩
def lockdown : RawRule := ⟨true,"*","*","forbidden",none,none,none,0⟩

/-- An engine with overrides and nothing else. -/
def engine (rows : Rows RawItem) : Engine
  | .governanceRules => .ok rows
  | .grantedApproval _ => .ok (some [])
  | .pendingApproval _ _ => .ok (some [])
  | .ledger _ _ => .ok (some [])
  | .addApproval _ _ => .ok ()
  | .addDecision _ _ => .ok ()
  | .now _ => 0
  | .uuid _ => "1"

end Fixture

open Fixture in
theorem fails_open_without_overrides : ¬FailsClosed lenient restart (engine (some [.rule lockdown])) := by
  have hcleared : Cleared lenient restart (engine (some [.rule lockdown])) lenient.defaultRule :=
    ⟨.inl rfl,rfl,rfl,rfl,rfl⟩
  have hlockdown : matchIn lenient restart [coerceRule "kg" lockdown] = .ok (coerceRule "kg" lockdown) := by
    have hmatches : (coerceRule "kg" lockdown).matches restart = true := by
      change (Glob.fnmatchcase restart.kind "*" && Glob.fnmatchcase restart.target "*") = true
      rw [Glob.fnmatchcase_star,Glob.fnmatchcase_star]
      rfl
    unfold matchIn
    rw [List.find?_cons,hmatches]
  refine not_fails_closed
    ⟨⟨_,rfl,rfl⟩,lenient.defaultRule,_,rfl,.cleared rfl hcleared,?_,coerceRule "kg" lockdown,?_,.forbidden rfl⟩
  · exact recorded_of_written rfl rfl (fun _ _ => rfl) (by decide) (by decide) rfl
  · rw [eval_matchRule]
    exact hlockdown

end

end

end Arbora.Autonomy
