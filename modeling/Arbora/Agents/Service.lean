import Arbora.Agents.Models
import Arbora.Lib.Checks
import Mathlib.Algebra.Order.Ring.Int

/-! The resolution of agent releases over a repository, and their projection; nothing here dispatches. -/
namespace Arbora.Agents
open Json (natural sorted)
open Checks (found refuse)
open PolicyPlane (Digest canonicalDigest isDigit)

def numberOf (digits : List Char) : ℕ := digits.foldl (fun n c => 10*n+(c.toNat-48)) 0
def isLeap (year : ℕ) : Bool := decide (year % 4 = 0) && (decide (year % 100 ≠ 0) || decide (year % 400 = 0))
def daysInMonth (year month : ℕ) : ℕ :=
  [31,if isLeap year then 29 else 28,31,30,31,30,31,31,30,31,30,31].getD (month-1) 0

/-- The days of the proleptic calendar up to a date. -/
def ordinal (year month day : ℕ) : ℕ :=
  let before := year-1
  365*before+before/4-before/100+before/400+(((List.range (month-1)).map fun m => daysInMonth year (m+1)).sum)+day

def micros (digits : List Char) : ℕ := numberOf ((digits ++ List.replicate 6 '0').take 6)

def offsetOf : List Char → Option ℤ
  | ['Z'] | ['z'] => some 0
  | sign :: rest =>
    let minutes := 60*numberOf (rest.take 2)+numberOf (rest.drop 3)
    if 1440 ≤ minutes then none else some (if sign = '-' then -(minutes : ℤ) else minutes)
  | [] => none

/-- `_parse_timestamp`, in microseconds; nothing stands for the `ValueError`. -/
def parseTimestamp (value : Timestamp) : Option ℤ :=
  let chars := value.1.toList
  let part := fun start count => numberOf ((chars.drop start).take count)
  let year := part 0 4
  let month := part 5 2
  let day := part 8 2
  let hour := part 11 2
  let minute := part 14 2
  let second := part 17 2
  let rest := chars.drop 19
  let digits := if rest.head? = some '.' then (rest.drop 1).takeWhile isDigit else []
  let zone := if rest.head? = some '.' then (rest.drop 1).dropWhile isDigit else rest
  if 1 ≤ year ∧ 1 ≤ month ∧ month ≤ 12 ∧ 1 ≤ day ∧ day ≤ daysInMonth year month ∧ hour ≤ 23 ∧ minute ≤ 59 ∧
      second ≤ 59 then
    (offsetOf zone).map fun offset =>
      (((ordinal year month day : ℤ)*86400+hour*3600+minute*60+second)-offset*60)*1000000+micros digits
  else none

inductive ErrorKind
  | agentResolution | repositoryContract
  /-- A refusal of the models themselves. -/
  | validation

structure Raised where
  kind : ErrorKind
  code : String

/-- What a repository reads; it raises for a broken contract. -/
structure AgentRepository where
  getVersion : AccessScope → Identifier → Except String (Option AgentVersion)
  getReleasePointer : AccessScope → Identifier → ReleaseTrack → Except String (Option AgentReleasePointer)
  getReleasePointerForVersion : AccessScope → Identifier → Identifier → Except String (Option AgentReleasePointer)
  getApproval : AccessScope → Identifier → Identifier → Identifier → Except String (Option ApprovalRecord)

def read {α : Type} (answer : Except String α) : Except Raised α :=
  match answer with
  | .ok a => .ok a
  | .error message => .error ⟨.repositoryContract,message⟩

def unresolved (code : String) : Raised := ⟨.agentResolution,code⟩
def broken (message : String) : Raised := ⟨.repositoryContract,message⟩

def approvalState (approval : Option ApprovalRecord) (agentId versionId : Identifier) (channel : ReleaseTrack)
    (atTime : Option Timestamp) : ApprovalState :=
  match approval with
  | none => .missing
  | some approval =>
    if approval.agentId ≠ agentId ∨ approval.versionId ≠ versionId ∨ approval.channel ≠ channel then .stale
    else if approval.outcome ≠ .approved then .denied
    else
      match atTime with
      | none => .approved
      | some atTime =>
        match parseTimestamp approval.expiresAt,parseTimestamp atTime,parseTimestamp approval.approvedAt with
        | some expires,some now,some approved => if expires ≤ now then .stale else if now < approved then .stale else .approved
        | _,_,_ => .stale

namespace AgentControlPlane
variable (repository : AgentRepository)

def readPointer (request : AgentResolutionRequest) : Except Raised (Option AgentReleasePointer) :=
  match request.channel,request.versionId with
  | some channel,_ => read (repository.getReleasePointer request.scope request.agentId channel)
  | none,some versionId => read (repository.getReleasePointerForVersion request.scope request.agentId versionId)
  | none,none => .ok none

def resolvePointerForRequest (request : AgentResolutionRequest) : Except Raised AgentReleasePointer := do
  let answer ← readPointer repository request
  let pointer ← found answer (unresolved "release_pointer_unavailable")
  refuse (pointer.agentId ≠ request.agentId) (broken "repository returned a cross-agent release pointer")
  refuse (request.channel.any (pointer.channel ≠ ·) = true)
    (broken "repository returned a cross-channel release pointer")
  refuse (request.versionId.any (pointer.versionId ≠ ·) = true) (unresolved "version_not_active_on_selected_pointer")
  .ok pointer

def resolveVersionForPointer (scope : AccessScope) (agentId : Identifier) (pointer : AgentReleasePointer) :
    Except Raised AgentVersion := do
  let answer ← read (repository.getVersion scope pointer.versionId)
  let version ← found answer (unresolved "agent_version_unavailable")
  refuse (version.agentId ≠ agentId) (broken "repository returned a cross-agent release")
  .ok version

def validateApproval (request : AgentResolutionRequest) (pointer : AgentReleasePointer) (version : AgentVersion)
    (approval : Option ApprovalRecord) : Except Raised ApprovalRecord := do
  let state := approvalState approval version.agentId version.versionId pointer.channel (some request.atTime)
  refuse (state = .missing) (unresolved "approval_required")
  refuse (state = .stale) (unresolved "approval_stale")
  refuse (state = .denied) (unresolved "approval_denied")
  let approval ← found approval (unresolved "approval_required")
  refuse (approval.approvalId ≠ request.approvalId) (unresolved "approval_stale")
  refuse (approval.policySetDigest ≠ version.policies.policySetDigest ∨
    approval.evaluationDigest ≠ version.evaluation.evidenceDigest) (unresolved "approval_release_evidence_mismatch")
  .ok approval

def askedBindings (request : AgentResolutionRequest) (version : AgentVersion) : List Identifier :=
  if request.requestedBindingIds = [] then version.bindings.bindingIds else request.requestedBindingIds

def resolveSelectedBindings (request : AgentResolutionRequest) (version : AgentVersion) :
    Except Raised (List Identifier) := do
  let selected := askedBindings request version
  refuse (selected.any (· ∉ version.bindings.bindingIds) = true) (unresolved "capability_mismatch")
  .ok selected

def validateTeamPolicy (request : AgentResolutionRequest) (version : AgentVersion) (selected : List Identifier) :
    Except Raised Unit := do
  let team := version.policies.team
  refuse (team.allowedBindingIds ≠ [] ∧ selected.any (· ∉ team.allowedBindingIds) = true)
    (unresolved "team_capability_mismatch")
  refuse (request.teamRef.any (· ≠ team.teamRef) = true) (unresolved "team_policy_mismatch")
  refuse (team.maxMembers < request.teamMemberCount) (unresolved "team_budget_escalation")

def validateDelegationPolicy (request : AgentResolutionRequest) (version : AgentVersion) : Except Raised Unit := do
  let delegation := version.policies.delegation
  refuse (delegation.maxDepth < request.delegationDepth) (unresolved "delegation_depth_escalation")
  refuse (delegation.maxChildren < request.delegationChildren) (unresolved "delegation_fanout_escalation")
  refuse (delegation.maxBudgetMicros < request.requestedCostMicros) (unresolved "delegation_budget_escalation")

def validateBudgetPolicy (request : AgentResolutionRequest) (version : AgentVersion) : Except Raised Unit := do
  let budget := version.policies.budget
  refuse (budget.maxTokens < request.requestedTokens) (unresolved "token_budget_escalation")
  refuse (budget.maxCostMicros < request.requestedCostMicros) (unresolved "cost_budget_escalation")
  refuse (budget.maxTimeMs < request.requestedTimeMs) (unresolved "time_budget_escalation")

def byText (ids : List Identifier) : List Identifier := ids.insertionSort fun a b => a.1 ≤ b.1

def validateRequest (request : AgentResolutionRequest) (version : AgentVersion) : Except Raised (List Identifier) := do
  let selected ← resolveSelectedBindings request version
  validateTeamPolicy request version selected
  validateDelegationPolicy request version
  validateBudgetPolicy request version
  .ok (byText selected)

def resolutionDigest (request : AgentResolutionRequest) (pointer : AgentReleasePointer) (version : AgentVersion)
    (approval : ApprovalRecord) (selected : List Identifier) : Digest := canonicalDigest <| sorted [
  ("agent_id",text version.agentId.1),("version_id",text version.versionId.1),("channel",text pointer.channel.value),
  ("pointer_digest",text pointer.pointerDigest.1),("approval_digest",text approval.approvalDigest.1),
  ("binding_ids",texts selected),("policy_set_digest",text version.policies.policySetDigest.1),
  ("evaluation_digest",text version.evaluation.evidenceDigest.1),
  ("team_ref",text (request.teamRef.getD version.policies.team.teamRef).1),
  ("team_member_count",natural request.teamMemberCount),("delegation_depth",natural request.delegationDepth),
  ("delegation_children",natural request.delegationChildren),("requested_tokens",natural request.requestedTokens),
  ("requested_cost_micros",natural request.requestedCostMicros),("requested_time_ms",natural request.requestedTimeMs),
  ("at",text request.atTime.1)]

def planOf (request : AgentResolutionRequest) (pointer : AgentReleasePointer) (version : AgentVersion)
    (approval : ApprovalRecord) (selected : List Identifier) : Except Raised ResolvedAgentPlan :=
  if h : 3 ≤ selected.length ∧ selected.length ≤ maxBindings then
    .ok {
      agentId := version.agentId
      versionId := version.versionId
      channel := pointer.channel
      pointerDigest := pointer.pointerDigest
      approvalId := approval.approvalId
      bindingIds := selected
      policySetDigest := version.policies.policySetDigest
      evaluationDigest := version.evaluation.evidenceDigest
      resolutionDigest := resolutionDigest request pointer version approval selected
      counted := h }
  else .error ⟨.validation,"binding_ids"⟩

def resolve (request : AgentResolutionRequest) : Except Raised ResolvedAgentPlan := do
  let pointer ← resolvePointerForRequest repository request
  let version ← resolveVersionForPointer repository request.scope request.agentId pointer
  let answer ← read (repository.getApproval request.scope version.agentId version.versionId request.approvalId)
  let approval ← validateApproval request pointer version answer
  let selected ← validateRequest request version
  planOf request pointer version approval selected

def coerceReleaseChannel (channel : String) : Except Raised ReleaseTrack :=
  if channel = "stable" then .ok .stable
  else if channel = "beta" then .ok .beta
  else if channel = "edge" then .ok .edge
  else .error (unresolved "release_channel_unknown")

def resolveProjectionPointer (scope : AccessScope) (agentId : Identifier) (channel : ReleaseTrack) :
    Except Raised AgentReleasePointer := do
  let answer ← read (repository.getReleasePointer scope agentId channel)
  let pointer ← found answer (unresolved "release_pointer_unavailable")
  refuse (pointer.agentId ≠ agentId ∨ pointer.channel ≠ channel) (broken "repository returned an invalid agent pointer")
  .ok pointer

def resolveProjectionApprovalState (scope : AccessScope) (agentId : Identifier) (version : AgentVersion)
    (pointer : AgentReleasePointer) (approvalId : Option Identifier) (atTime : Option Timestamp) :
    Except Raised ApprovalState := do
  match approvalId with
  | none => .ok (approvalState none agentId version.versionId pointer.channel atTime)
  | some approvalId =>
    let answer ← read (repository.getApproval scope agentId version.versionId approvalId)
    if (answer.all fun approval => approval.approvalId ≠ approvalId ||
        approval.policySetDigest ≠ version.policies.policySetDigest ||
        approval.evaluationDigest ≠ version.evaluation.evidenceDigest) = true then .ok .stale
    else .ok (approvalState answer agentId version.versionId pointer.channel atTime)

def projectionOf (scope : AccessScope) (agentId : Identifier) (pointer : AgentReleasePointer) (version : AgentVersion)
    (state : ApprovalState) : Except Raised AgentGraphProjection :=
  if h : 3 ≤ version.bindings.allBindings.length ∧ version.bindings.allBindings.length ≤ maxBindings then
    .ok {
      tenantId := scope.tenantId
      agentId := agentId
      versionId := version.versionId
      channel := pointer.channel
      pointerRevision := pointer.revision
      bindingCount := version.bindings.allBindings.length
      bindingSetDigest := version.bindings.setDigest
      policySetDigest := version.policies.policySetDigest
      evaluationDigest := version.evaluation.evidenceDigest
      approvalState := state
      revised := pointer.counted
      counted := h }
  else .error ⟨.validation,"binding_count"⟩

def project (scope : AccessScope) (agentId : Identifier) (channel : String) (approvalId : Option Identifier)
    (atTime : Option Timestamp) : Except Raised AgentGraphProjection := do
  let releaseChannel ← coerceReleaseChannel channel
  let pointer ← resolveProjectionPointer repository scope agentId releaseChannel
  let version ← resolveVersionForPointer repository scope agentId pointer
  let state ← resolveProjectionApprovalState repository scope agentId version pointer approvalId atTime
  projectionOf scope agentId pointer version state

end AgentControlPlane
end Arbora.Agents
