import Arbora.Autonomy.DecisionRuns

/-! An engine that works: it stores what it is given and returns the rows that match, any of them up to the limit of
the query, with the columns that the query names. -/
namespace Arbora.Autonomy
open Interaction Prog

/-- The nodes that the policy reads and writes, by their ids, and the clock. -/
structure Store where
  rules : List RawItem
  approvals : List (String × ApprovalNode)
  decisions : List (String × DecisionNode)
  time : ℚ

def ledgerScanLimit : ℕ := 500
def Limited {α : Type} (limit : ℕ) (found rows : List α) : Prop :=
  rows.Subperm found ∧ rows.length = min limit found.length

namespace Store
variable (s : Store)

def blank : Store := ⟨[],[],[],0⟩
def granted (digest : String) : List (String × ApprovalNode) :=
  s.approvals.filter fun a => a.2.status = "approved" ∧ a.2.requestDigest = digest
def pending (kind target : String) : List (String × ApprovalNode) :=
  s.approvals.filter fun a => a.2.kind = kind ∧ a.2.target = target ∧ a.2.status = "pending"
def ledger (kind : String) : List (String × DecisionNode) := s.decisions.filter fun d => d.2.kind = kind

/-- No node has the id that is drawn. -/
def Fresh (uuid : String) : Prop :=
  "action_approval:" ++ uuid ∉ s.approvals.map (·.1) ∧ "action_decision:" ++ uuid ∉ s.decisions.map (·.1)

end Store

/-- `RETURN a.id AS id` -/
def approvalRow (a : String × ApprovalNode) : Option ApprovalRow := some ⟨some a.1,none⟩

/-- `RETURN d.id AS id, d.target AS target, d.decision AS decision, d.decided_unix AS ts` -/
def ledgerRow (d : String × DecisionNode) : LedgerRow :=
  ⟨some d.2.target,some d.2.decision.value,some d.2.decidedUnix⟩

def healthy : World Call Call.Answer Store
  | s, .governanceRules, r, s' => s' = s ∧ ∃ rows, Limited 100 s.rules rows ∧ r = .ok (some rows)
  | s, .grantedApproval digest, r, s' =>
    s' = s ∧ ∃ rows, Limited 1 (s.granted digest) rows ∧ r = .ok (some (rows.map approvalRow))
  | s, .pendingApproval kind target, r, s' =>
    s' = s ∧ ∃ rows, Limited 1 (s.pending kind target) rows ∧ r = .ok (some (rows.map approvalRow))
  | s, .ledger _ kind, r, s' =>
    s' = s ∧ ∃ rows, Limited ledgerScanLimit (s.ledger kind) rows ∧ r = .ok (some (rows.map ledgerRow))
  | s, .addApproval id node, r, s' => r = .ok () ∧ s' = { s with approvals := s.approvals ++ [(id,node)] }
  | s, .addDecision id node, r, s' => r = .ok () ∧ s' = { s with decisions := s.decisions ++ [(id,node)] }
  | s, .now _, r, s' => s.time ≤ r ∧ s' = { s with time := r }
  | s, .uuid _, r, s' => s.Fresh r ∧ s' = s

section
variable (policy : ActionPolicy)

inductive Act where
  | decided (request : ActionRequest) (d : ActionDecision) (time : ℚ)
  | granted (id : String)

def Store.grant (id : String) (s : Store) : Store :=
  { s with approvals := s.approvals.map fun a => if a.1 = id then (a.1,{ a.2 with status := "approved" }) else a }

def Acts (s : Store) : Act → Store → Prop
  | .decided request d time, s' => Reaches healthy (decide policy request) s d s' ∧ s'.time = time
  | .granted id, s' => (∃ node, (id,node) ∈ s.approvals ∧ node.status = "pending") ∧ s' = s.grant id

/-- One act after another, each under a condition on what it finds. -/
inductive Acting (C : Store → Act → Prop) : Store → List Act → Store → Prop where
  | nil (s : Store) : Acting C s [] s
  | cons {s m s' : Store} {act : Act} {acts : List Act} (hC : C s act) (h : Acts policy s act m)
      (hrest : Acting C m acts s') : Acting C s (act :: acts) s'

end

section
variable {policy : ActionPolicy} {request : ActionRequest} {s m s' : Store} {d : ActionDecision}
  {t : List (Event Call Call.Answer)}

def Fits (s m : Store) : (e : Call) → e.Answer → Prop
  | .governanceRules, r => ∃ rows, Limited 100 s.rules rows ∧ r = .ok (some rows)
  | .grantedApproval _, r => ∃ rows : List (String × ApprovalNode), r = .ok (some (rows.map approvalRow))
  | .ledger _ kind, r => ∃ rows, Limited ledgerScanLimit (s.ledger kind) rows ∧ r = .ok (some (rows.map ledgerRow))
  | .now _, r => s.time ≤ r ∧ r ≤ m.time
  | .pendingApproval _ _, _ | .addApproval _ _, _ | .addDecision _ _, _ | .uuid _, _ => True

variable {α : Type} {e : Call}

theorem limited_take (limit : ℕ) (found : List α) : Limited limit found (found.take limit) :=
  ⟨(List.take_sublist limit found).subperm,List.length_take⟩

theorem exists_fits (hm : s.time ≤ m.time) : ∀ e : Call, ∃ r, Fits s m e r
  | .governanceRules => ⟨_,_,limited_take 100 s.rules,rfl⟩
  | .grantedApproval _ => ⟨_,[],rfl⟩
  | .pendingApproval _ _ => ⟨.error "",trivial⟩
  | .ledger _ kind => ⟨_,_,limited_take ledgerScanLimit (s.ledger kind),rfl⟩
  | .addApproval _ _ => ⟨.error "",trivial⟩
  | .addDecision _ _ => ⟨.error "",trivial⟩
  | .now _ => ⟨s.time,le_rfl,hm⟩
  | .uuid _ => ⟨"",trivial⟩

theorem healthy_kept {r : e.Answer} (h : healthy s e r m) (he : ∀ id node, e ≠ .addDecision id node) :
    m.decisions = s.decisions := by
  cases e with
  | governanceRules => exact congrArg _ h.1
  | grantedApproval digest => exact congrArg _ h.1
  | pendingApproval kind target => exact congrArg _ h.1
  | ledger purpose kind => exact congrArg _ h.1
  | addApproval id node =>
    obtain ⟨_,rfl⟩ := h
    rfl
  | addDecision id node => exact absurd rfl (he id node)
  | now purpose =>
    obtain ⟨_,rfl⟩ := h
    rfl
  | uuid purpose => exact congrArg _ h.2

theorem healthy_grows {r : e.Answer} (h : healthy s e r m) : s.decisions <+: m.decisions := by
  by_cases he : ∃ id node, e = .addDecision id node
  · obtain ⟨id,node,rfl⟩ := he
    obtain ⟨_,rfl⟩ := h
    exact List.prefix_append _ _
  · have hkept := healthy_kept h fun id node hnode => he ⟨id,node,hnode⟩
    rw [hkept]

theorem healthy_time {r : e.Answer} (h : healthy s e r m) : m.rules = s.rules ∧ s.time ≤ m.time := by
  cases e with
  | governanceRules => exact ⟨congrArg _ h.1,(congrArg _ h.1).ge⟩
  | grantedApproval digest => exact ⟨congrArg _ h.1,(congrArg _ h.1).ge⟩
  | pendingApproval kind target => exact ⟨congrArg _ h.1,(congrArg _ h.1).ge⟩
  | ledger purpose kind => exact ⟨congrArg _ h.1,(congrArg _ h.1).ge⟩
  | addApproval id node =>
    obtain ⟨_,rfl⟩ := h
    exact ⟨rfl,le_rfl⟩
  | addDecision id node =>
    obtain ⟨_,rfl⟩ := h
    exact ⟨rfl,le_rfl⟩
  | now purpose =>
    obtain ⟨htime,rfl⟩ := h
    exact ⟨rfl,htime⟩
  | uuid purpose => exact ⟨congrArg _ h.2,(congrArg _ h.2).ge⟩

theorem fits_of_healthy {r : e.Answer} (h : healthy s e r s') (hm : s'.time ≤ m.time) : Fits s m e r := by
  cases e with
  | governanceRules => exact h.2
  | grantedApproval digest =>
    obtain ⟨_,rows,_,hr⟩ := h
    exact ⟨rows,hr⟩
  | ledger purpose kind => exact h.2
  | now purpose =>
    obtain ⟨hr,rfl⟩ := h
    exact ⟨hr,hm⟩
  | pendingApproval kind target => trivial
  | addApproval id node => trivial
  | addDecision id node => trivial
  | uuid purpose => trivial

theorem Fits.earlier {r : e.Answer} (h : Fits s' m e r) (hrules : s'.rules = s.rules)
    (hdecisions : s'.decisions = s.decisions) (htime : s.time ≤ s'.time) : Fits s m e r := by
  cases e with
  | governanceRules =>
    obtain ⟨rows,hrows,hr⟩ := h
    exact ⟨rows,hrules ▸ hrows,hr⟩
  | grantedApproval digest => exact h
  | ledger purpose kind =>
    obtain ⟨rows,hrows,hr⟩ := h
    have hledger : s'.ledger kind = s.ledger kind := by
      unfold Store.ledger
      rw [hdecisions]
    exact ⟨rows,hledger ▸ hrows,hr⟩
  | now purpose => exact ⟨htime.trans h.1,h.2⟩
  | pendingApproval kind target => trivial
  | addApproval id node => trivial
  | addDecision id node => trivial
  | uuid purpose => trivial

theorem healthy_run {p q : Step ActionDecision} (h : Runs healthy p s t q m) (ht : ∀ x ∈ t, rank x.1 < 11) :
    m.rules = s.rules ∧ s.time ≤ m.time ∧ m.decisions = s.decisions ∧ ∀ x ∈ t, Fits s m x.1 x.2 := by
  induction h with
  | nil => exact ⟨rfl,le_rfl,rfl,fun x hx => absurd hx List.not_mem_nil⟩
  | @call e k r s s' m t q hw _ ih =>
    obtain ⟨hrules,htime⟩ := healthy_time hw
    have hdecisions : s'.decisions = s.decisions := by
      refine healthy_kept hw ?_
      rintro id node rfl
      have hrank : (if node.decision.allowing then 13 else 16) < 11 := ht _ List.mem_cons_self
      split_ifs at hrank <;> omega
    obtain ⟨hrules',htime',hdecisions',hfits⟩ := ih fun x hx => ht x (List.mem_cons_of_mem _ hx)
    refine ⟨hrules'.trans hrules,htime.trans htime',hdecisions'.trans hdecisions,fun x hx => ?_⟩
    rcases List.mem_cons.mp hx with rfl | hx
    · exact fits_of_healthy hw htime'
    · exact (hfits x hx).earlier hrules hdecisions htime

theorem inner_of_run (h : Runs healthy (innerDecision policy request) s t (.ret d) m) :
    m.rules = s.rules ∧ s.time ≤ m.time ∧ m.decisions = s.decisions ∧
      ∃ g : Engine, (∀ e, Fits s m e (g e)) ∧ innerFor policy request g = d := by
  obtain ⟨hrules,htime,hdecisions,hfits⟩ := healthy_run h (h.ranked_below ascends_innerDecision).2
  obtain ⟨g,hg,hfits⟩ := h.answerable ascends_innerDecision hfits (exists_fits htime)
  refine ⟨hrules,htime,hdecisions,g,hfits,?_⟩
  have heval : (innerDecision policy request).eval g = .ok d := h.evaluated hg
  unfold innerDecision at heval
  rw [eval_handle] at heval
  unfold innerFor
  cases hinner : (decideInner policy request).eval g with
  | error x =>
    rw [hinner] at heval
    cases heval
    rfl
  | ok d' =>
    rw [hinner] at heval
    cases heval
    rfl

theorem grantedIn_approvalRow (digest : String) (rows : List (String × ApprovalNode)) :
    grantedIn digest (rows.map approvalRow) = none := by
  induction rows with
  | nil => rfl
  | cons row rest ih =>
    exact ih

theorem grantedFor_of_fits {g : Engine} (h : ∀ e, Fits s m e (g e)) : grantedFor policy request g = none := by
  unfold grantedFor
  split_ifs
  · cases request.digest with
    | error x => rfl
    | ok digest =>
      obtain ⟨rows,hrows⟩ := h (.grantedApproval digest)
      dsimp only
      rw [hrows]
      exact grantedIn_approvalRow digest rows
  · rfl

theorem ledger_grows {p q : Step α} (h : Runs healthy p s t q s') :
    s.decisions <+: s'.decisions ∧ s.time ≤ s'.time ∧ s'.rules = s.rules := by
  induction h with
  | nil => exact ⟨List.prefix_rfl,le_rfl,rfl⟩
  | call hw _ ih =>
    obtain ⟨hgrows,htime,hrules⟩ := ih
    obtain ⟨hrules',htime'⟩ := healthy_time hw
    exact ⟨(healthy_grows hw).trans hgrows,htime'.trans htime,hrules.trans hrules'⟩

theorem audit_run {purpose : Purpose} {id : String} (h : Runs healthy (audit policy purpose d) s t (.ret (some id)) s') :
    ∃ digest time, policy.engine = true ∧ d.request.digest = .ok digest ∧ s.time ≤ time ∧
      s' = { s with decisions := s.decisions ++ [(id,d.node digest time)], time := time } := by
  unfold audit at h
  split_ifs at h with hengine
  · cases hdigest : d.request.digest with
    | error x =>
      rw [hdigest] at h
      cases h with
      | call hw h =>
        cases h
    | ok digest =>
      rw [hdigest] at h
      cases h with
      | call hw h =>
        obtain ⟨_,rfl⟩ := hw
        cases h with
        | call hw h =>
          obtain ⟨htime,rfl⟩ := hw
          cases h with
          | call hw h =>
            obtain ⟨rfl,rfl⟩ := hw
            cases h
            exact ⟨digest,_,hengine,rfl,htime,rfl⟩
  · cases h

structure Passed (policy : ActionPolicy) (request : ActionRequest) (s s' : Store) (d : ActionDecision) (g : Engine)
    (rule : ActionRule) : Prop where
  engine : policy.engine = true
  fits : ∃ m : Store, s.time ≤ m.time ∧ m.time ≤ s'.time ∧ ∀ e, Fits s m e (g e)
  verified : Verified policy request
  matched : (matchRule policy request).eval g = .ok rule
  cleared : Cleared policy request g rule
  unaided : d.approvalId = none
  recorded : ∃ id node, s'.decisions = s.decisions ++ [(id,node)] ∧ d.auditId = some id ∧ node.kind = request.kind ∧
    node.target = request.target ∧ node.decision.allowing = true ∧ node.decidedUnix = s'.time

theorem passed_of_allowed (h : Reaches healthy (decide policy request) s d s') (hd : d.allowed = true) :
    ∃ g rule, Passed policy request s s' d g rule := by
  obtain ⟨t,h⟩ := h
  rcases h.bind_ended (.inl ⟨d,rfl⟩) with ⟨x,_,hx⟩ | ⟨d₀,u,v,m,_,hinner,hbound⟩
  · cases hx
  obtain ⟨_,htime,hdecisions,g,hfits,hd₀⟩ := inner_of_run hinner
  rw [bindDecisionReceipt_eq] at hbound
  rcases hbound.bind_ended (.inl ⟨d,rfl⟩) with ⟨x,_,hx⟩ | ⟨auditId,u',v',m',_,haudit,hlast⟩
  · cases hx
  split_ifs at hlast with hdone
  · obtain ⟨_,hret,rfl⟩ := hlast.of_ret
    cases hret
    obtain ⟨happrove,hreceipt⟩ := (allowed_receipted d₀ auditId).mp hd
    obtain ⟨receipt,hreceipt⟩ := Option.isSome_iff_exists.mp hreceipt
    obtain ⟨hid,_,_⟩ := policyReceipt_eq_some hreceipt
    subst hid
    obtain ⟨digest,time,hengine,_,htime',rfl⟩ := audit_run haudit
    rcases innerFor_cases policy request g with ⟨rule,hv,hrule,hruling⟩ | hun | ⟨v,_,_,hdenial⟩
    · rw [hd₀] at hruling
      cases hruling.allows happrove with
      | granted _ hgranted =>
        rw [grantedFor_of_fits hfits] at hgranted
        cases hgranted
      | cleared _ hcleared =>
        refine ⟨g,rule,hengine,⟨m,htime,htime',hfits⟩,hv,hrule,hcleared,rfl,receipt.receiptId,
          (passing rule (baseDecision request rule)).node digest time,?_,rfl,rfl,rfl,?_,rfl⟩
        · rw [hdecisions]
        · exact allowing_of_approve happrove
    · rw [hd₀,happrove] at hun
      cases hun
    · rw [hd₀] at hdenial
      rw [hdenial] at happrove
      cases happrove
  · -- the decision was withdrawn
    rcases hlast.bind_ended (.inl ⟨d,rfl⟩) with ⟨x,_,hx⟩ | ⟨auditId',_,_,_,_,_,hret⟩
    · cases hx
    · obtain ⟨_,hret,_⟩ := hret.of_ret
      cases hret
      cases ((allowed_receipted _ auditId').mp hd).1

end

section
variable {policy : ActionPolicy} {request : ActionRequest} {s : Store} {d base : ActionDecision} {rule : ActionRule}
  {digest uuid : String}

theorem reaches_matchRule {rows : List RawItem} (hengine : policy.engine = true) (hrows : Limited 100 s.rules rows)
    (hrule : (overrides (some rows)).bind (matchIn policy request) = .ok rule) :
    Reaches healthy (matchRule policy request) s rule s := by
  unfold matchRule kgRules
  rw [if_pos hengine,bind_eq,bind_assoc]
  have hanswer : healthy s .governanceRules (.ok (some rows)) s := ⟨rfl,rows,hrows,rfl⟩
  refine reaches_ask_bind hanswer ?_
  change Reaches healthy ((Prog.ofExcept (overrides (some rows))).bind fun rules =>
    Prog.ofExcept (matchIn policy request rules)) s rule s
  cases hoverrides : overrides (some rows) with
  | error x =>
    rw [hoverrides] at hrule
    cases hrule
  | ok rules =>
    rw [hoverrides] at hrule
    have hrule : matchIn policy request rules = .ok rule := hrule
    change Reaches healthy (Prog.ofExcept (matchIn policy request rules)) s rule s
    rw [hrule]
    exact .ret

theorem reaches_grantedApprovalId (hengine : policy.engine = true) (hdigest : request.digest = .ok digest) :
    Reaches healthy (grantedApprovalId policy request) s none s := by
  unfold grantedApprovalId
  rw [if_pos hengine,hdigest]
  have hanswer : healthy s (.grantedApproval digest) (.ok (some (((s.granted digest).take 1).map approvalRow))) s :=
    ⟨rfl,_,limited_take 1 (s.granted digest),rfl⟩
  refine reaches_ask_bind hanswer ?_
  rw [show grantedOf digest (.ok (some (((s.granted digest).take 1).map approvalRow))) = none from
    grantedIn_approvalRow digest _]
  exact .ret

theorem reaches_exceeded {budget : Budget} {limit : Limit} {most : ℤ} {window : ℚ} {rows : List (String × DecisionNode)}
    {used : Bool} (hengine : policy.engine = true) (hmost : limit.most = some most) (hpos : 0 < most)
    (hwindow : limit.window = some window) (hrows : Limited ledgerScanLimit (s.ledger request.kind) rows)
    (hused : (spentSince (s.time-window) ((rows.map ledgerRow).filter budget.relevant)).map (budget.used · most) = .ok used) :
    Reaches healthy (exceeded policy request budget limit) s used s := by
  have hscan : healthy s (.ledger budget.purpose request.kind) (.ok (some (rows.map ledgerRow))) s := ⟨rfl,rows,hrows,rfl⟩
  have hclock : healthy s (.now budget.purpose) s.time s := ⟨le_rfl,rfl⟩
  unfold exceeded
  rw [hmost,hwindow]
  dsimp only
  rw [if_neg (not_le.mpr hpos)]
  unfold recentDecisions
  rw [if_pos hengine,bind_eq,bind_assoc]
  refine reaches_ask_bind hscan ?_
  refine reaches_ask_bind hclock ?_
  cases hspent : spentSince (s.time-window) ((rows.map ledgerRow).filter budget.relevant) with
  | error x =>
    rw [hspent] at hused
    cases hused
  | ok spent =>
    rw [hspent] at hused
    cases hused
    exact .ret

variable {d₀ : ActionDecision}

theorem reaches_ruled_autonomous (hauto : rule.autonomous) (hengine : policy.engine = true)
    (hdigest : request.digest = .ok digest) (h : Reaches healthy (preChecks policy request rule (baseDecision request rule)) s d₀ s) :
    Reaches healthy (ruled policy request rule) s d₀ s := by
  have hforbidden : rule.tier ≠ .forbidden := by rcases hauto with htier | htier <;> rw [htier] <;> decide
  have happroval : rule.tier ≠ .approvalRequired := by rcases hauto with htier | htier <;> rw [htier] <;> decide
  rw [ruled_eq hforbidden]
  refine (reaches_grantedApprovalId hengine hdigest).bind ?_
  rw [if_neg happroval]
  exact h

theorem reaches_rate_used (hrate : Reaches healthy (checked (rateOf policy rule) (rateExceeded policy request)) s true s) :
    Reaches healthy (preChecks policy request rule base) s
      { base with decision := .deny, reason := rateReason (rateOf policy rule) } s := by
  exact hrate.bind .ret

theorem reaches_passing (hrate : Reaches healthy (checked (rateOf policy rule) (rateExceeded policy request)) s false s)
    (hblast : Reaches healthy (checked (blastOf policy rule) (blastExceeded policy request)) s false s)
    (hkind : (policy.irreversibilityAversion && isIrreversible request.kind) = false)
    (hwindow : inMaintenanceWindow rule.maintenanceWindow s.time = true) :
    Reaches healthy (preChecks policy request rule base) s (passing rule base) s := by
  have hclock : healthy s (.now .window) s.time s := ⟨le_rfl,rfl⟩
  refine hrate.bind ?_
  refine hblast.bind ?_
  rw [if_neg Bool.false_ne_true,if_neg (by rw [hkind]; exact Bool.false_ne_true)]
  refine reaches_ask_bind hclock ?_
  rw [if_pos hwindow]
  exact .ret

def Store.filed (s : Store) (request : ActionRequest) (reason digest uuid : String) : Store :=
  { s with approvals := s.approvals ++ [("action_approval:" ++ uuid,request.approvalNode reason digest s.time)] }

theorem reaches_hold {reason : String} (hengine : policy.engine = true) (hdigest : base.request.digest = .ok digest)
    (hpending : s.pending base.request.kind base.request.target = []) (hfresh : s.Fresh uuid) :
    Reaches healthy (hold policy base reason) s
      { base with decision := .queueApproval, reason := reason, approvalId := some ("action_approval:" ++ uuid) }
      (s.filed base.request reason digest uuid) := by
  have hnone : healthy s (.pendingApproval base.request.kind base.request.target) (.ok (some [])) s := by
    refine ⟨rfl,[],?_,rfl⟩
    rw [hpending]
    exact limited_take 1 []
  have hdraw : healthy s (.uuid .approval) uuid s := ⟨hfresh,rfl⟩
  have hclock : healthy s (.now .approval) s.time s := ⟨le_rfl,rfl⟩
  have hadd : healthy s (.addApproval ("action_approval:" ++ uuid) (base.request.approvalNode reason digest s.time)) (.ok ())
      (s.filed base.request reason digest uuid) := ⟨rfl,rfl⟩
  have hfile : Reaches healthy (fileApproval base.request reason) s (some ("action_approval:" ++ uuid))
      (s.filed base.request reason digest uuid) := by
    refine reaches_ask_bind hdraw ?_
    rw [hdigest]
    exact reaches_ask_bind hclock (reaches_ask_bind hadd .ret)
  unfold hold queueApproval
  rw [if_pos hengine]
  exact (reaches_ask_bind hnone hfile).bind .ret

def Store.audited (s : Store) (d : ActionDecision) (digest uuid : String) : Store :=
  { s with decisions := s.decisions ++ [("action_decision:" ++ uuid,d.node digest s.time)] }

theorem reaches_audit {purpose : Purpose} (hengine : policy.engine = true) (hdigest : d.request.digest = .ok digest)
    (hfresh : s.Fresh uuid) :
    Reaches healthy (audit policy purpose d) s (some ("action_decision:" ++ uuid)) (s.audited d digest uuid) := by
  have hdraw : healthy s (.uuid purpose) uuid s := ⟨hfresh,rfl⟩
  have hclock : healthy s (.now purpose) s.time s := ⟨le_rfl,rfl⟩
  have hadd : healthy s (.addDecision ("action_decision:" ++ uuid) (d.node digest s.time)) (.ok ()) (s.audited d digest uuid) :=
    ⟨rfl,rfl⟩
  unfold audit
  rw [if_pos hengine]
  refine reaches_ask_bind hdraw ?_
  rw [hdigest]
  exact reaches_ask_bind hclock (reaches_ask_bind hadd .ret)

theorem reaches_bindDecisionReceipt (hengine : policy.engine = true) (hdigest : d.request.digest = .ok digest)
    (hfresh : s.Fresh uuid)
    (hd : d.disposition ≠ .approve ∨ (receipted d (some ("action_decision:" ++ uuid))).receipt.isSome = true) :
    Reaches healthy (bindDecisionReceipt policy d) s (receipted d (some ("action_decision:" ++ uuid)))
      (s.audited d digest uuid) := by
  rw [bindDecisionReceipt_eq]
  refine (reaches_audit hengine hdigest hfresh).bind ?_
  rw [if_pos hd]
  exact .ret

theorem reaches_decide {m s' : Store} (hv : Verified policy request)
    (hrule : Reaches healthy (matchRule policy request) s rule s)
    (hruled : Reaches healthy (ruled policy request rule) s d₀ m) (hbound : Reaches healthy (bindDecisionReceipt policy d₀) m d s') :
    Reaches healthy (decide policy request) s d s' := by
  obtain ⟨v,hverify,hok⟩ := hv
  refine Reaches.bind (Reaches.handle ?_) hbound
  unfold decideInner
  rw [hverify]
  change Reaches healthy (if v.ok = true then _ else _) s d₀ m
  rw [if_pos hok]
  exact hrule.bind hruled

end

end Arbora.Autonomy
