import Arbora.Autonomy.Models
import Arbora.Lib.Asking
import Mathlib.Data.Finset.Card

/-! The decision point for autonomous actions. Each of its calls to the engine may answer anything, or fail. -/
namespace Arbora.Autonomy
open Interaction
open Prog (ask)

/-- What a clock is read, an id is drawn or the ledger is scanned for. -/
inductive Purpose where
  | rate | blast | window | approval | decision | withdrawal

inductive Call where
  | governanceRules
  | grantedApproval (requestDigest : String)
  | pendingApproval (kind target : String)
  | ledger (purpose : Purpose) (kind : String)
  | addApproval (id : String) (node : ApprovalNode)
  | addDecision (id : String) (node : DecisionNode)
  | now (purpose : Purpose)
  | uuid (purpose : Purpose)

structure ApprovalRow where
  (id requestDigest : Option String)

def ApprovalRow.named (row : ApprovalRow) : Option String := row.id.filter fun id => id ≠ ""

structure LedgerRow where
  (target decision : Option String)
  ts : Option ℚ

/-- Rows, if the answer can be gone through. -/
abbrev Rows (α : Type) := Option (List α)

@[reducible] def Call.Answer : Call → Type
  | .governanceRules => Except Failure (Rows RawItem)
  | .grantedApproval _ | .pendingApproval .. => Except Failure (Rows (Option ApprovalRow))
  | .ledger .. => Except Failure (Rows LedgerRow)
  | .addApproval .. | .addDecision .. => Except Failure Unit
  | .now _ => ℚ
  | .uuid _ => String

abbrev Step (α : Type) := Prog Call Call.Answer Failure α

def clock (purpose : Purpose) : Step ℚ := ask (Call.now purpose)
def draw (purpose : Purpose) : Step String := ask (Call.uuid purpose)

/-- The verdict of the assurance verifier. -/
structure VerifyResult where
  ok : Bool
  (reason invariant : String)

structure ActionPolicy where
  /-- whether an engine is bound -/
  (engine irreversibilityAversion : Bool)
  rules : List RawItem
  defaultTier : String
  (defaultRateLimit defaultBlastRadius : Option Limit)
  /-- the patterns of the allowlist; one that is missing makes its reading fail -/
  rampEligible : List (Option String)
  verify : ActionRequest → Except Failure VerifyResult
  trustRamp : Option (String → String → Except Failure Bool)

section
variable (policy : ActionPolicy) (request : ActionRequest)

def coerceRows : List RawItem → Except Failure (List ActionRule)
  | [] => .ok []
  | .other :: rest => coerceRows rest
  | .malformed x :: _ => .error x
  | .rule raw :: rest =>
    if raw.active then (coerceRows rest).map fun rules => coerceRule "kg" raw :: rules else coerceRows rest

def byPriority (rules : List ActionRule) : List ActionRule := rules.insertionSort fun a b => b.priority ≤ a.priority
def iterated {α : Type} (rows : Rows α) : Except Failure (List α) :=
  rows.elim (.error "object is not iterable") .ok
def overrides (rows : Rows RawItem) : Except Failure (List ActionRule) :=
  ((iterated rows).bind coerceRows).map byPriority

/-- What is left of the overrides when their load fails is none. -/
def kgRulesOf : Except Failure (Rows RawItem) → Except Failure (List ActionRule)
  | .error _ => .ok []
  | .ok rows => overrides rows

def kgRules : Step (List ActionRule) :=
  if policy.engine then (ask .governanceRules).bind fun answer => Prog.ofExcept (kgRulesOf answer) else .ret []

def fileRule : List RawItem → Except Failure (Option ActionRule)
  | [] => .ok none
  | .other :: rest => fileRule rest
  | .malformed x :: _ => .error x
  | .rule raw :: rest =>
    if (coerceRule "file" raw).matches request then .ok (some (coerceRule "file" raw)) else fileRule rest

def ActionPolicy.defaultRule : ActionRule :=
  ⟨"*","*",readTier policy.defaultTier,none,none,none,"default",0⟩

def matchIn (rules : List ActionRule) : Except Failure ActionRule :=
  match rules.find? (·.matches request) with
  | some rule => .ok rule
  | none => (fileRule request policy.rules).map fun rule => rule.getD policy.defaultRule

def matchRule : Step ActionRule := do
  let rules ← kgRules policy
  Prog.ofExcept (matchIn policy request rules)

end

section
variable (policy : ActionPolicy) (request : ActionRequest)

/-- What the ledger shows, or nothing if its scan fails. -/
def recentOf : Except Failure (Rows LedgerRow) → Except Failure (Option (List LedgerRow))
  | .error _ => .ok none
  | .ok rows => (iterated rows).map some

def recentDecisions (purpose : Purpose) : Step (Option (List LedgerRow)) :=
  if policy.engine then (ask (.ledger purpose request.kind)).bind fun answer => Prog.ofExcept (recentOf answer)
  else .ret (some [])

def LedgerRow.allowing (row : LedgerRow) : Bool := row.decision = some "allow" || row.decision = some "allow_notify"

def spentSince (since : ℚ) : List LedgerRow → Except Failure (List LedgerRow)
  | [] => .ok []
  | row :: rest =>
    if row.allowing then
      match row.ts with
      | none => .error "could not convert to float"
      | some ts => (spentSince since rest).map fun rows => if since ≤ ts then row :: rows else rows
    else spentSince since rest

structure Budget where
  purpose : Purpose
  relevant : LedgerRow → Bool
  used : List LedgerRow → ℤ → Bool

def usedSince (budget : Budget) (most : ℤ) (window : ℚ) (rows : List LedgerRow) : Step Bool := do
  let now ← clock budget.purpose
  let spent ← Prog.ofExcept (spentSince (now-window) (rows.filter budget.relevant))
  return budget.used spent most

/-- Whether a budget is used up. A ledger that cannot be read shows the worst. -/
def exceeded (budget : Budget) (limit : Limit) : Step Bool :=
  match limit.most, limit.window with
  | some most, some window =>
    if most ≤ 0 then .ret false
    else do
      let recent ← recentDecisions policy request budget.purpose
      recent.elim (.ret true) (usedSince budget most window)
  | _, _ => .ret false

def rateBudget : Budget :=
  ⟨.rate,fun row => row.target = some request.target,fun spent most => decide (most ≤ spent.length)⟩

/-- The targets that would have been touched. -/
def targetsOf (spent : List LedgerRow) : Finset (Option String) :=
  insert (some request.target) (spent.map (·.target)).toFinset

def blastBudget : Budget := ⟨.blast,fun _ => true,fun spent most => decide (most < (targetsOf request spent).card)⟩
def rateExceeded (limit : Limit) : Step Bool := exceeded policy request (rateBudget request) limit
def blastExceeded (limit : Limit) : Step Bool := exceeded policy request (blastBudget request) limit

end

section
variable (policy : ActionPolicy) (request : ActionRequest)

def grantedIn (digest : String) : List (Option ApprovalRow) → Option String
  | [] => none
  | none :: _ => none
  | some row :: rest => if row.requestDigest = some digest ∧ row.named.isSome then row.named else grantedIn digest rest

def grantedOf (digest : String) : Except Failure (Rows (Option ApprovalRow)) → Option String
  | .error _ => none
  | .ok rows => grantedIn digest (rows.getD [])

def grantedApprovalId : Step (Option String) :=
  if policy.engine then
    match request.digest with
    | .error _ => .ret none
    | .ok digest => (ask (Call.grantedApproval digest)).bind fun answer => .ret (grantedOf digest answer)
  else .ret none

def pendingOf : Except Failure (Rows (Option ApprovalRow)) → Option String
  | .error _ => none
  | .ok rows => ((rows.getD []).head?.getD none).bind (·.named)

def accepted {α : Type} (a : α) : Except Failure Unit → Option α
  | .error _ => none
  | .ok _ => some a

def ActionRequest.approvalNode (r : ActionRequest) (reason digest : String) (created : ℚ) : ApprovalNode :=
  ⟨r.kind,r.target,r.source,if reason = "" then r.reason else reason,digest,"pending",created⟩

def fileApproval (reason : String) : Step (Option String) := do
  let uuid ← draw .approval
  match request.digest with
  | .error _ => return none
  | .ok digest =>
    let created ← clock .approval
    (ask (Call.addApproval ("action_approval:" ++ uuid) (request.approvalNode reason digest created))).bind fun answer =>
      .ret (accepted ("action_approval:" ++ uuid) answer)

def queueApproval (reason : String) : Step (Option String) :=
  if policy.engine then (ask (Call.pendingApproval request.kind request.target)).bind fun answer =>
    (pendingOf answer).elim (fileApproval request reason) fun id => .ret (some id)
  else .ret none

def hold (base : ActionDecision) (reason : String) : Step ActionDecision := do
  let approvalId ← queueApproval policy base.request reason
  match approvalId with
  | some id => return { base with decision := .queueApproval, reason := reason, approvalId := some id }
  | none => return { base with decision := .unavailable, reason := "approval receipt unavailable (fail closed)",
                               ruleOrigin := "unavailable", approvalId := none }

end

section
variable (policy : ActionPolicy) (request : ActionRequest)

/-- A refusal that the policy could not answer otherwise. -/
def unavailable (reason : String) : ActionDecision :=
  ⟨.unavailable,.forbidden,request,reason,"unavailable",none,none,none,""⟩

def assuranceDenial (v : VerifyResult) : ActionDecision :=
  ⟨.deny,.forbidden,request,"assurance gate (" ++ v.invariant ++ "): " ++ v.reason,"assurance",none,none,none,v.invariant⟩
def baseDecision (rule : ActionRule) : ActionDecision :=
  ⟨.deny,rule.tier,request,"",rule.origin,none,none,none,""⟩
def granted (base : ActionDecision) (id : String) : ActionDecision :=
  { base with decision := .allow, reason := "matching durable approval granted", approvalId := some id }

def tierDecision (rule : ActionRule) (base : ActionDecision) : Step (Option ActionDecision) :=
  if rule.tier = .forbidden then .ret (some { base with reason := "forbidden by policy" })
  else do
    let grantedId ← grantedApprovalId policy request
    match grantedId with
    | some id => return some (granted base id)
    | none =>
      if rule.tier = .approvalRequired then
        let held ← hold policy base "tier requires human approval"
        return some held
      else return none

/-- A limit of the rule, or else of the defaults. -/
def checked (limit : Option Limit) (isExceeded : Limit → Step Bool) : Step Bool :=
  limit.elim (.ret false) isExceeded

def rateOf (rule : ActionRule) : Option Limit := rule.rateLimit <|> policy.defaultRateLimit
def blastOf (rule : ActionRule) : Option Limit := rule.blastRadius <|> policy.defaultBlastRadius
def limitText (limit : Option Limit) (f : Limit → String) : String := limit.elim "None" f

def rateReason (limit : Option Limit) : String :=
  "rate limit exceeded (" ++ limitText limit (·.mostText) ++ "/" ++ limitText limit (·.windowText) ++
    "s for this action+target)"

def blastReason (limit : Option Limit) : String :=
  "blast-radius cap (" ++ limitText limit (·.mostText) ++ " targets/" ++ limitText limit (·.windowText) ++
    "s) — queued for approval"

def windowReason (rule : ActionRule) : String :=
  "outside maintenance window " ++ rule.maintenanceWindow.getD "None" ++ " — queued"
def passing (rule : ActionRule) (base : ActionDecision) : ActionDecision :=
  { base with decision := if rule.tier = .autoNotify then .allowNotify else .allow, reason := "tier " ++ rule.tier.value }

/-- The last check is the time of the day. -/
def windowCheck (rule : ActionRule) (base : ActionDecision) : Step ActionDecision := do
  let now ← clock .window
  if inMaintenanceWindow rule.maintenanceWindow now then return passing rule base
  else hold policy base (windowReason rule)

def preChecks (rule : ActionRule) (base : ActionDecision) : Step ActionDecision := do
  let rateUsed ← checked (rateOf policy rule) (rateExceeded policy request)
  if rateUsed then return { base with decision := .deny, reason := rateReason (rateOf policy rule) }
  else
    let blastUsed ← checked (blastOf policy rule) (blastExceeded policy request)
    if blastUsed then hold policy base (blastReason (blastOf policy rule))
    else if policy.irreversibilityAversion && isIrreversible request.kind then
      hold policy base "irreversible action — queued for approval (SAFE-1.5)"
    else windowCheck policy rule base

/-- What the matched rule comes to. -/
def ruled (rule : ActionRule) : Step ActionDecision := do
  let settled ← tierDecision policy request rule (baseDecision request rule)
  settled.elim (preChecks policy request rule (baseDecision request rule)) .ret

def decideInner : Step ActionDecision := do
  let verify ← Prog.ofExcept (policy.verify request)
  if verify.ok then
    let rule ← matchRule policy request
    ruled policy request rule
  else return assuranceDenial request verify

def ActionDecision.node (d : ActionDecision) (digest : String) (decided : ℚ) : DecisionNode :=
  ⟨d.request.kind,d.request.target,d.request.source,d.tier,d.decision,String.ofList (d.reason.toList.take 500),d.ruleOrigin,
    d.approvalId.getD "",digest,decided⟩

def audit (purpose : Purpose) (d : ActionDecision) : Step (Option String) :=
  if policy.engine then do
    let uuid ← draw purpose
    match d.request.digest with
    | .error _ => return none
    | .ok digest =>
      let decided ← clock purpose
      (ask (Call.addDecision ("action_decision:" ++ uuid) (d.node digest decided))).bind fun answer =>
        .ret (accepted ("action_decision:" ++ uuid) answer)
  else .ret none

def audited (purpose : Purpose) (d : ActionDecision) : Step ActionDecision := do
  let auditId ← audit policy purpose d
  let d := { d with auditId := auditId }
  return { d with receipt := policyReceipt d }

def bindDecisionReceipt (d : ActionDecision) : Step ActionDecision := do
  let d ← audited policy .decision d
  if d.disposition ≠ .approve ∨ d.receipt.isSome = true then return d
  else audited policy .withdrawal (unavailable d.request "policy receipt unavailable (fail closed)")

def decide : Step ActionDecision := do
  let d ← Prog.handle (decideInner policy request) fun x => .ret (unavailable request ("policy unavailable (fail closed): " ++ x))
  bindDecisionReceipt policy d

end

section
variable (policy : ActionPolicy) (request : ActionRequest)

/-- Whether a pattern of the allowlist matches, before one cannot be read. -/
def eligible : List (Option String) → Bool
  | [] => false
  | none :: _ => false
  | some pattern :: rest => Glob.fnmatchcase request.kind pattern || eligible rest

def graduates : Bool :=
  if request.actorId = "" then false
  else if eligible request policy.rampEligible then
    policy.trustRamp.elim false fun reader => (reader request.actorId request.kind).toOption.getD false
  else false

def rampedTier (rule : ActionRule) : Tier :=
  if rule.tier = .approvalRequired ∧ graduates policy request = true then .autoNotify else rule.tier

def Tier.verdict : Tier → Verdict
  | .autoNotify => .allowNotify
  | .approvalRequired => .queueApproval
  | .forbidden => .deny
  | .auto => .allow

def evaluateInner : Step ActionDecision := do
  let verify ← Prog.ofExcept (policy.verify request)
  if verify.ok then
    let rule ← matchRule policy request
    let tier := rampedTier policy request rule
    return ⟨tier.verdict,tier,request,"tier " ++ tier.value,rule.origin,none,none,none,""⟩
  else return assuranceDenial request verify

def evaluate : Step ActionDecision :=
  Prog.handle (evaluateInner policy request) fun x => .ret (unavailable request ("policy unavailable (fail closed): " ++ x))

def classifyInner : Step Tier := do
  let verify ← Prog.ofExcept (policy.verify request)
  if verify.ok then
    let rule ← matchRule policy request
    return rampedTier policy request rule
  else return .forbidden

def classify : Step Tier := Prog.handle (classifyInner policy request) fun _ => .ret .forbidden

end

end Arbora.Autonomy
