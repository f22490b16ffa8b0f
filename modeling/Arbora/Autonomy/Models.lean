import Arbora.Lib.Base64
import Arbora.Lib.Glob
import Arbora.Lib.Json
import Arbora.Lib.Sha256
import Mathlib.Data.List.Infix
import Mathlib.Data.Rat.Floor

/-! Proposed actions, the rules that say how far they may go by themselves, and the answers to them. -/
namespace Arbora.Autonomy
open Json (Document)

/-- The text of an exception. -/
abbrev Failure := String

inductive Tier where
  | auto | autoNotify | approvalRequired | forbidden
  deriving DecidableEq

def Tier.value : Tier → String
  | .auto => "auto" | .autoNotify => "auto_notify" | .approvalRequired => "approval_required" | .forbidden => "forbidden"

inductive Verdict where
  | allow | allowNotify | queueApproval | deny | unavailable

def Verdict.value : Verdict → String
  | .allow => "allow" | .allowNotify => "allow_notify" | .queueApproval => "queue_approval" | .deny => "deny"
  | .unavailable => "unavailable"

def Verdict.allowing : Verdict → Bool
  | .allow | .allowNotify => true
  | .queueApproval | .deny | .unavailable => false

inductive PolicyDisposition where
  | deny | unavailable | hold | approve
  deriving DecidableEq

/-- One proposed action. Parameters that no JSON stands for are left out. -/
structure ActionRequest where
  (kind target : String)
  params : Option (List (String × Document))
  (source reason actorId : String)

mutual

def canonicalValue : Document → Document
  | .array items => .array (canonicalItems items)
  | .object members => Json.sorted (canonicalMembers members)
  | d => d

def canonicalItems : List Document → List Document
  | [] => []
  | item :: rest => canonicalValue item :: canonicalItems rest

def canonicalMembers : List (String × Document) → List (String × Document)
  | [] => []
  | (key,value) :: rest => (key,canonicalValue value) :: canonicalMembers rest

end

def ActionRequest.payload (r : ActionRequest) (params : List (String × Document)) : Document := Json.sorted [
  ("actor_id",.string r.actorId),("kind",.string r.kind),("params",canonicalValue (.object params)),
  ("reason",.string r.reason),("source",.string r.source),("target",.string r.target)]

def ActionRequest.digest (r : ActionRequest) : Except Failure String :=
  match r.params with
  | none => .error "unsupported policy request value"
  | some params =>
    .ok (String.ofList (Sha256.hexdigest (Base64.utf8 (String.ofList (Json.write (r.payload params))))))

/-- What `max` or `max_targets` and `window_s` come to as numbers, if they do, and how they are printed. -/
structure Limit where
  most : Option ℤ
  window : Option ℚ
  (mostText windowText : String)

structure ActionRule where
  (kind target : String)
  tier : Tier
  (rateLimit blastRadius : Option Limit)
  maintenanceWindow : Option String
  origin : String
  priority : ℤ

def ActionRule.matches (rule : ActionRule) (request : ActionRequest) : Bool :=
  Glob.fnmatchcase request.kind rule.kind && Glob.fnmatchcase request.target rule.target

/-- A rule as it is written. An empty limit counts as none. -/
structure RawRule where
  active : Bool
  (kind target tier : String)
  (rateLimit blastRadius : Option Limit)
  maintenanceWindow : Option String
  priority : ℤ

/-- What may stand in place of a rule: something else, or what makes its reading fail. -/
inductive RawItem where
  | rule (raw : RawRule)
  | other
  | malformed (x : Failure)

/-- `tier if tier in _TIERS else TIER_APPROVAL` -/
def readTier (text : String) : Tier :=
  if text = "auto" then .auto else if text = "auto_notify" then .autoNotify else if text = "forbidden" then .forbidden
  else .approvalRequired

def orStar (text : String) : String := if text = "" then "*" else text
def coerceRule (origin : String) (raw : RawRule) : ActionRule :=
  ⟨orStar raw.kind,orStar raw.target,readTier raw.tier,raw.rateLimit,raw.blastRadius,raw.maintenanceWindow,origin,raw.priority⟩
def isBlank (c : Char) : Bool := c = ' ' || c = '\t' || c = '\n' || c = '\r' || c = '\x0b' || c = '\x0c'
def strip (text : List Char) : List Char := ((text.dropWhile isBlank).reverse.dropWhile isBlank).reverse

/-- Digits in groups that single underscores stand between. -/
def digitsOf (text : List Char) : Option ℤ :=
  let groups := text.splitOn '_'
  if groups.all (fun group => group ≠ [] && group.all Char.isDigit) then some (Nat.ofDigitChars 10 groups.flatten 0) else none

def int (text : List Char) : Option ℤ :=
  match strip text with
  | '-' :: digits => (digitsOf digits).map fun n => -n
  | '+' :: digits => digitsOf digits
  | digits => digitsOf digits

/-- The minute of the day that `HH:MM` names. -/
def minuteOf (text : List Char) : Option ℤ :=
  match ((strip text).splitOn ':').mapM int with
  | some (hour :: minute :: _) => some (hour*60+minute)
  | some [hour] => some (hour*60)
  | _ => none

def parseWindow (window : String) : Option (ℤ × ℤ) :=
  match window.toList.span (· ≠ '-') with
  | (start,_ :: stop) => (minuteOf start).bind fun s => (minuteOf stop).map fun e => (s,e)
  | (_,[]) => none

def inMaintenanceWindow (window : Option String) (now : ℚ) : Bool :=
  match window.bind parseWindow with
  | none => true
  | some (start,stop) =>
    let minute := ⌊now/60⌋ % 1440
    if start ≤ stop then start ≤ minute && minute < stop else start ≤ minute || minute < stop

example : inMaintenanceWindow (some "02:00-04:00") (5*3600) = false ∧ inMaintenanceWindow (some "22:00 - 4") (3*3600) = true ∧
    inMaintenanceWindow (some "later") 0 = true := by decide +kernel

def irreversibleTokens : List String := [
  "delete","remove","destroy","drop","purge","wipe","prune","merge_promotion","deploy","rollback","rotate",
  "decommission","format"]

def isIrreversible (actionKind : String) : Bool :=
  irreversibleTokens.any fun token => token.toList <:+: actionKind.toList.map Char.toLower

/-- `_bounded_identity` -/
def isBounded (most : ℕ) (text : String) : Bool := decide (1 ≤ text.length ∧ text.length ≤ most)

/-- `_sha256_identity` -/
def isSha256 (text : String) : Bool := decide (text.length = 64) && text.toList.all fun c => c ∈ "0123456789abcdef".toList

theorem isSha256_digest {r : ActionRequest} {digest : String} (h : r.digest = .ok digest) : isSha256 digest = true := by
  unfold ActionRequest.digest at h
  cases hparams : r.params with
  | none =>
    rw [hparams] at h
    cases h
  | some params =>
    rw [hparams] at h
    cases h
    unfold isSha256
    rw [String.length_ofList,Sha256.length_hexdigest,String.toList_ofList]
    exact Sha256.all_hexdigest (p := fun c => c ∈ "0123456789abcdef".toList) (by decide) _

structure PolicyReceipt where
  (receiptId requestDigest : String)
  disposition : PolicyDisposition
  policyOrigin : String
  approvalId : Option String
  bounded : isBounded 256 receiptId = true ∧ isBounded 128 policyOrigin = true ∧ approvalId.all (isBounded 256) = true
  digested : isSha256 requestDigest = true

def PolicyReceipt.authorizesEffect (r : PolicyReceipt) : Bool := r.disposition = .approve

structure ActionDecision where
  decision : Verdict
  tier : Tier
  request : ActionRequest
  (reason ruleOrigin : String)
  (approvalId auditId : Option String)
  receipt : Option PolicyReceipt
  invariant : String

namespace ActionDecision
variable (d : ActionDecision)

def allowed : Bool := d.receipt.any (·.authorizesEffect)

def disposition : PolicyDisposition :=
  match d.decision with
  | .unavailable => .unavailable
  | .queueApproval => if d.approvalId.isSome then .hold else .unavailable
  | .allow | .allowNotify => .approve
  | .deny => .deny

end ActionDecision

def policyReceipt (d : ActionDecision) : Option PolicyReceipt :=
  match d.auditId, d.request.digest with
  | some auditId, .ok digest =>
    if h : (isBounded 256 auditId = true ∧ isBounded 128 d.ruleOrigin = true ∧ d.approvalId.all (isBounded 256) = true) ∧
        isSha256 digest = true then
      some ⟨auditId,digest,d.disposition,d.ruleOrigin,d.approvalId,h.1,h.2⟩
    else none
  | _, _ => none

structure ApprovalNode where
  (kind target source reason requestDigest status : String)
  createdUnix : ℚ

structure DecisionNode where
  (kind target source : String)
  tier : Tier
  decision : Verdict
  (reason ruleOrigin approvalId requestDigest : String)
  decidedUnix : ℚ

end Arbora.Autonomy
