import Arbora.PolicyPlane.Models
import Mathlib.Data.List.Dedup
import Mathlib.Data.List.Infix

/-! Releases of agents with their exact bindings, policies and evaluation, and what a resolution asks for and answers.
-/
namespace Arbora.Agents
open Json (Document natural sorted)
open PolicyPlane (Digest canonicalDigest isDigit isLetter)

def isWordChar (c : Char) : Bool := isLetter c || isDigit c
def isIdentifierChar (c : Char) : Bool :=
  isWordChar c || c == '.' || c == '_' || c == ':' || c == '/' || c == '@' || c == '+' || c == '-'

def isIdentifierOf (most : ℕ) (text : String) : Bool :=
  match text.toList with
  | [] => false
  | c :: rest => isWordChar c && decide (rest.length < most) && rest.all isIdentifierChar

def isVersionText (text : String) : Bool :=
  match text.toList with
  | [] => false
  | c :: rest => isWordChar c && decide (rest.length < 96) &&
      rest.all fun c => isWordChar c || c == '.' || c == '_' || c == ':' || c == '+' || c == '-'

/-- A character for each of the shape, where `d` stands for a digit. -/
def fits : List Char → List Char → Bool
  | [],[] => true
  | shape :: shapes,c :: rest => (if shape = 'd' then isDigit c else c == shape) && fits shapes rest
  | _,_ => false

def isZone : List Char → Bool
  | ['Z'] | ['z'] => true
  | '+' :: rest | '-' :: rest => fits "dd:dd".toList rest
  | _ => false

def isTimestamp (text : String) : Bool :=
  let chars := text.toList
  decide (20 ≤ chars.length ∧ chars.length ≤ 64) && fits "dddd-dd-ddTdd:dd:dd".toList (chars.take 19) &&
    match chars.drop 19 with
    | '.' :: rest => !(rest.takeWhile isDigit).isEmpty && isZone (rest.dropWhile isDigit)
    | rest => isZone rest

abbrev Identifier := {text : String // isIdentifierOf 192 text = true}

instance : LawfulBEq Identifier := inferInstance

abbrev VersionText := {text : String // isVersionText text = true}
abbrev Timestamp := {text : String // isTimestamp text = true}

def forbiddenRefPrefixes : List String :=
  ["http:","https:","file:","env:","secret:","vault:","body:","result:","data:","base64:"]
def inlineMarkers : List String :=
  ["password=","secret=","token=","authorization:","-----begin","\x7b\"","[\x7b"]

def isOpaque (text : Identifier) : Bool :=
  let lowered := text.1.toList.map Char.toLower
  forbiddenRefPrefixes.all (fun start => !start.toList.isPrefixOf lowered) &&
    inlineMarkers.all fun marker => !(lowered.tails.any fun rest => marker.toList.isPrefixOf rest)

/-- `_canonical`; identifiers have no blanks around them and nothing but ASCII in them. -/
def canonical (text : String) : List Char := text.toList.map Char.toLower

def joined (parts : List (List Char)) : List Char := (parts.intersperse [Char.ofNat 31]).flatten
def hashed (label : String) (parts : List (List Char)) : String :=
  String.ofList (label.toList ++ Sha256.hexdigest ((joined parts).map Char.toNat))

theorem isIdentifierChar_hexadecimal {c : Char} (h : Sha256.hexadecimal c = true) : isIdentifierChar c = true := by
  simp only [Sha256.hexadecimal,Bool.or_eq_true,Bool.and_eq_true,decide_eq_true_eq] at h
  simp only [isIdentifierChar,isWordChar,isLetter,isDigit,Bool.or_eq_true,Bool.and_eq_true,decide_eq_true_eq]
  rcases h with ⟨hlow,hhigh⟩ | ⟨hlow,hhigh⟩
  · exact .inl (.inl (.inl (.inl (.inl (.inl (.inl (.inr ⟨hlow,hhigh⟩)))))))
  · exact .inl (.inl (.inl (.inl (.inl (.inl (.inl (.inl (.inr ⟨hlow,le_trans hhigh (by decide)⟩))))))))

theorem isIdentifier_hexdigest {label : String} (hlabel : isIdentifierOf 128 label = true) (bytes : List ℕ) :
    isIdentifierOf 192 (String.ofList (label.toList ++ Sha256.hexdigest bytes)) = true := by
  have hnames : (Sha256.hexdigest bytes).all isIdentifierChar = true :=
    List.all_eq_true.mpr fun x hx =>
      isIdentifierChar_hexadecimal (List.all_eq_true.mp (Sha256.hexadecimal_hexdigest _) x hx)
  unfold isIdentifierOf at hlabel
  unfold isIdentifierOf
  rw [String.toList_ofList]
  split at hlabel
  · cases hlabel
  · rename_i c rest hcons
    simp only [Bool.and_eq_true,decide_eq_true_eq] at hlabel
    rw [hcons,List.cons_append]
    dsimp only
    rw [hlabel.1.1,List.all_append,hlabel.2,hnames,List.length_append,Sha256.length_hexdigest,Bool.true_and,
      Bool.and_true,Bool.and_true]
    exact decide_eq_true (by omega)

theorem isIdentifier_hashed {label : String} (hlabel : isIdentifierOf 128 label = true) (parts : List (List Char)) :
    isIdentifierOf 192 (hashed label parts) = true := isIdentifier_hexdigest hlabel _

inductive BindingKind
  | configuration | model | prompt | skill | tool | connector | workflow

def BindingKind.value : BindingKind → String
  | .configuration => "configuration" | .model => "model" | .prompt => "prompt" | .skill => "skill" | .tool => "tool"
  | .connector => "connector" | .workflow => "workflow"

inductive ReleaseTrack
  | stable | beta | edge
deriving DecidableEq

def ReleaseTrack.value : ReleaseTrack → String
  | .stable => "stable" | .beta => "beta" | .edge => "edge"

inductive ApprovalOutcome
  | pending | approved | denied | revoked
deriving DecidableEq

def ApprovalOutcome.value : ApprovalOutcome → String
  | .pending => "pending" | .approved => "approved" | .denied => "denied" | .revoked => "revoked"
def maxBindings : ℕ := 256

def agentIdFor (publisher packageName agentName : Identifier) : Identifier :=
  ⟨hashed "agent:" [canonical publisher.1,canonical packageName.1,canonical agentName.1],
    isIdentifier_hashed (by decide) _⟩

def bindingIdFor (kind : BindingKind) (logicalId : Identifier) (version : VersionText)
    (artifactDigest schemaDigest : Digest) : Identifier :=
  ⟨hashed "agent-binding:" [canonical kind.value,canonical logicalId.1,version.1.toList,artifactDigest.1.toList,
    schemaDigest.1.toList],isIdentifier_hashed (by decide) _⟩

def pointerIdFor (agentId : Identifier) (channel : ReleaseTrack) : Identifier :=
  ⟨hashed "agent-pointer:" [canonical agentId.1,channel.value.toList],isIdentifier_hashed (by decide) _⟩
def text (value : String) : Document := .string value
def texts (values : List Identifier) : Document := .array (values.map fun value => .string value.1)

def pointerDigestFor (agentId : Identifier) (channel : ReleaseTrack) (versionId : Identifier) (revision : ℕ)
    (previousVersionId : Option Identifier) : Digest := canonicalDigest <| sorted [
  ("agent_id",text agentId.1),("channel",text channel.value),("version_id",text versionId.1),
  ("revision",natural revision),("previous_version_id",Json.orNull (fun id : Identifier => text id.1) previousVersionId)]

def ascending (ids : List String) : Prop := ids.Pairwise (· ≤ ·)

instance (ids : List String) : Decidable (ascending ids) := inferInstanceAs (Decidable (List.Pairwise _ _))

structure AgentIdentity where
  (agentId publisher packageName agentName : Identifier)
  derived : agentId = agentIdFor publisher packageName agentName

structure ArtifactBinding where
  bindingId : Identifier
  kind : BindingKind
  logicalId : Identifier
  version : VersionText
  artifactRef : Identifier
  (artifactDigest schemaDigest : Digest)
  dependsOn : List Identifier := []
  lengths : dependsOn.length ≤ 64
  opaqueRef : isOpaque artifactRef = true
  derived : bindingId = bindingIdFor kind logicalId version artifactDigest schemaDigest
  unique : dependsOn.Nodup
  sorted : ascending (dependsOn.map (·.1))
  noSelf : bindingId ∉ dependsOn

def ArtifactBinding.document (b : ArtifactBinding) : Document := Json.sorted [
  ("binding_version",text "agent-artifact-binding.v1"),("binding_id",text b.bindingId.1),("kind",text b.kind.value),
  ("logical_id",text b.logicalId.1),("version",text b.version.1),("artifact_ref",text b.artifactRef.1),
  ("artifact_digest",text b.artifactDigest.1),("schema_digest",text b.schemaDigest.1),
  ("depends_on",texts b.dependsOn)]

/-- `_visit_binding`: what is visited afterwards, nothing where there is a cycle. A visit is never deeper than there are
bindings. -/
def visitBinding (dependencies : Identifier → List Identifier) :
    ℕ → List Identifier → List Identifier → Identifier → Option (List Identifier)
  | 0,_,_,_ => none
  | depth+1,visiting,visited,bindingId =>
    if bindingId ∈ visiting then none
    else if bindingId ∈ visited then some visited
    else
      ((dependencies bindingId).foldlM (fun visited dependency =>
        visitBinding dependencies depth (bindingId :: visiting) visited dependency) visited).map (bindingId :: ·)

def dependenciesIn (bindings : List ArtifactBinding) (bindingId : Identifier) : List Identifier :=
  ((bindings.find? fun b => b.bindingId = bindingId).map (·.dependsOn)).getD []

/-- The loop of `_validate_binding_dependencies`. -/
def acyclic (bindings : List ArtifactBinding) : Bool :=
  ((bindings.map (·.bindingId)).foldlM (fun visited bindingId =>
    visitBinding (dependenciesIn bindings) (bindings.length+1) [] visited bindingId) []).isSome

def byBindingId (bindings : List ArtifactBinding) : List ArtifactBinding :=
  bindings.insertionSort fun a b => a.bindingId.1 ≤ b.bindingId.1

structure Grouped (kind : BindingKind) (items : List ArtifactBinding) : Prop where
  bounded : items.length ≤ maxBindings
  kinds : ∀ item ∈ items, item.kind = kind
  noAlias : (items.map (·.logicalId)).Nodup
  sorted : ascending (items.map (·.bindingId.1))

structure AgentBindings where
  (configuration model prompt : ArtifactBinding)
  skills : List ArtifactBinding := []
  tools : List ArtifactBinding := []
  connectors : List ArtifactBinding := []
  workflows : List ArtifactBinding := []
  oneConfiguration : Grouped .configuration [configuration]
  oneModel : Grouped .model [model]
  onePrompt : Grouped .prompt [prompt]
  groupedSkills : Grouped .skill skills
  groupedTools : Grouped .tool tools
  groupedConnectors : Grouped .connector connectors
  groupedWorkflows : Grouped .workflow workflows
  unique : ((configuration :: model :: prompt :: (skills ++ tools ++ connectors ++ workflows)).map (·.bindingId)).Nodup
  known : ∀ item ∈ configuration :: model :: prompt :: (skills ++ tools ++ connectors ++ workflows),
    ∀ dependency ∈ item.dependsOn,
      dependency ∈ (configuration :: model :: prompt :: (skills ++ tools ++ connectors ++ workflows)).map (·.bindingId)
  noCycle : acyclic (byBindingId (configuration :: model :: prompt :: (skills ++ tools ++ connectors ++ workflows))) = true

namespace AgentBindings

def values (b : AgentBindings) : List ArtifactBinding :=
  b.configuration :: b.model :: b.prompt :: (b.skills ++ b.tools ++ b.connectors ++ b.workflows)
def allBindings (b : AgentBindings) : List ArtifactBinding := byBindingId b.values
def bindingIds (b : AgentBindings) : List Identifier := b.allBindings.map (·.bindingId)
def setDigest (b : AgentBindings) : Digest := canonicalDigest (.array (b.allBindings.map (·.document)))

end AgentBindings

structure TeamPolicyRef where
  policyRef : Identifier
  policyDigest : Digest
  teamRef : Identifier
  maxMembers : ℕ
  allowedBindingIds : List Identifier := []
  members : 1 ≤ maxMembers ∧ maxMembers ≤ maxBindings
  bounded : allowedBindingIds.length ≤ maxBindings
  opaquePolicy : isOpaque policyRef = true
  opaqueTeam : isOpaque teamRef = true
  unique : allowedBindingIds.Nodup
  sorted : ascending (allowedBindingIds.map (·.1))

structure DelegationPolicyRef where
  policyRef : Identifier
  policyDigest : Digest
  (maxDepth maxChildren maxBudgetMicros : ℕ)
  depth : maxDepth ≤ 64
  children : maxChildren ≤ maxBindings
  budget : maxBudgetMicros ≤ 1000000000000
  opaquePolicy : isOpaque policyRef = true

structure BudgetPolicyRef where
  policyRef : Identifier
  policyDigest : Digest
  (maxTokens maxCostMicros maxTimeMs : ℕ)
  tokens : maxTokens ≤ 1000000000
  costMicros : maxCostMicros ≤ 1000000000000
  timeMs : maxTimeMs ≤ 1000000000
  opaquePolicy : isOpaque policyRef = true

def TeamPolicyRef.document (r : TeamPolicyRef) : Document := Json.sorted [
  ("policy_version",text "agent-team-policy-ref.v1"),("policy_ref",text r.policyRef.1),
  ("policy_digest",text r.policyDigest.1),("team_ref",text r.teamRef.1),("max_members",natural r.maxMembers),
  ("allowed_binding_ids",texts r.allowedBindingIds)]

def DelegationPolicyRef.document (r : DelegationPolicyRef) : Document := Json.sorted [
  ("policy_version",text "agent-delegation-policy-ref.v1"),("policy_ref",text r.policyRef.1),
  ("policy_digest",text r.policyDigest.1),("max_depth",natural r.maxDepth),("max_children",natural r.maxChildren),
  ("max_budget_micros",natural r.maxBudgetMicros)]

def BudgetPolicyRef.document (r : BudgetPolicyRef) : Document := Json.sorted [
  ("policy_version",text "agent-budget-policy-ref.v1"),("policy_ref",text r.policyRef.1),
  ("policy_digest",text r.policyDigest.1),("max_tokens",natural r.maxTokens),
  ("max_cost_micros",natural r.maxCostMicros),("max_time_ms",natural r.maxTimeMs)]

def policySetDigestFor (team : TeamPolicyRef) (delegation : DelegationPolicyRef) (budget : BudgetPolicyRef) : Digest :=
  canonicalDigest <| Json.sorted [
    ("team",team.document),("delegation",delegation.document),("budget",budget.document)]

structure PolicySet where
  team : TeamPolicyRef
  delegation : DelegationPolicyRef
  budget : BudgetPolicyRef
  policySetDigest : Digest
  consistent : policySetDigest = policySetDigestFor team delegation budget

inductive DatasetSplit
  | train | validation | test | heldOut

def DatasetSplit.value : DatasetSplit → String
  | .train => "train" | .validation => "validation" | .test => "test" | .heldOut => "held_out"

structure EvaluationDatasetRef where
  datasetRef : Identifier
  datasetVersion : VersionText
  datasetDigest : Digest
  split : DatasetSplit
  opaqueRef : isOpaque datasetRef = true

structure EvaluationRunRef where
  runRef : Identifier
  runVersion : VersionText
  (runDigest datasetDigest : Digest)
  opaqueRef : isOpaque runRef = true

def EvaluationDatasetRef.document (r : EvaluationDatasetRef) : Document := Json.sorted [
  ("artifact_version",text "agent-evaluation-dataset-ref.v1"),("dataset_ref",text r.datasetRef.1),
  ("dataset_version",text r.datasetVersion.1),("dataset_digest",text r.datasetDigest.1),("split",text r.split.value)]

def EvaluationRunRef.document (r : EvaluationRunRef) : Document := Json.sorted [
  ("artifact_version",text "agent-evaluation-run-ref.v1"),("run_ref",text r.runRef.1),
  ("run_version",text r.runVersion.1),("run_digest",text r.runDigest.1),("dataset_digest",text r.datasetDigest.1),
  ("outcome",text "passed")]

def evaluationEvidenceDigestFor (datasets : List EvaluationDatasetRef) (runs : List EvaluationRunRef) : Digest :=
  canonicalDigest <| Json.sorted [
    ("datasets",.array ((datasets.insertionSort fun a b => a.datasetRef.1 ≤ b.datasetRef.1).map (·.document))),
    ("runs",.array ((runs.insertionSort fun a b => a.runRef.1 ≤ b.runRef.1).map (·.document)))]

structure EvaluationEvidence where
  datasets : List EvaluationDatasetRef
  runs : List EvaluationRunRef
  evidenceDigest : Digest
  lengths : 1 ≤ datasets.length ∧ datasets.length ≤ 64 ∧ 1 ≤ runs.length ∧ runs.length ≤ 64
  uniqueDatasets : (datasets.map (·.datasetRef)).Nodup
  uniqueRuns : (runs.map (·.runRef)).Nodup
  sortedDatasets : ascending (datasets.map (·.datasetRef.1))
  sortedRuns : ascending (runs.map (·.runRef.1))
  linked : ∀ run ∈ runs, run.datasetDigest ∈ datasets.map (·.datasetDigest)
  consistent : evidenceDigest = evaluationEvidenceDigestFor datasets runs

def agentVersionIdFor (agentId : Identifier) (version : VersionText)
    (bindingsDigest policyDigest evaluationDigest : Digest) : Identifier :=
  ⟨hashed "agent-version:" [agentId.1.toList,version.1.toList,bindingsDigest.1.toList,policyDigest.1.toList,
    evaluationDigest.1.toList],isIdentifier_hashed (by decide) _⟩

structure AgentVersion where
  (versionId agentId : Identifier)
  version : VersionText
  bindings : AgentBindings
  policies : PolicySet
  evaluation : EvaluationEvidence
  knownToTeam : ∀ bindingId ∈ policies.team.allowedBindingIds, bindingId ∈ bindings.bindingIds
  derived : versionId = agentVersionIdFor agentId version bindings.setDigest policies.policySetDigest
    evaluation.evidenceDigest

structure AgentRegistration where
  identity : AgentIdentity
  version : AgentVersion
  consistent : version.agentId = identity.agentId

structure AgentReleasePointer where
  (pointerId agentId : Identifier)
  channel : ReleaseTrack
  versionId : Identifier
  revision : ℕ
  previousVersionId : Option Identifier := none
  pointerDigest : Digest
  counted : 1 ≤ revision
  stable : pointerId = pointerIdFor agentId channel
  changed : previousVersionId ≠ some versionId
  derived : pointerDigest = pointerDigestFor agentId channel versionId revision previousVersionId

def approvalDigestFor (approvalId agentId versionId : Identifier) (channel : ReleaseTrack)
    (policySetDigest evaluationDigest : Digest) (outcome : ApprovalOutcome) (approvedAt expiresAt : Timestamp)
    (approverRef evidenceRef : Identifier) : Digest := canonicalDigest <| Json.sorted [
  ("approval_id",text approvalId.1),("agent_id",text agentId.1),("version_id",text versionId.1),
  ("channel",text channel.value),("policy_set_digest",text policySetDigest.1),
  ("evaluation_digest",text evaluationDigest.1),("outcome",text outcome.value),("approved_at",text approvedAt.1),
  ("expires_at",text expiresAt.1),("approver_ref",text approverRef.1),("evidence_ref",text evidenceRef.1)]

structure ApprovalRecord where
  (approvalId agentId versionId : Identifier)
  channel : ReleaseTrack
  (policySetDigest evaluationDigest : Digest)
  outcome : ApprovalOutcome
  (approvedAt expiresAt : Timestamp)
  (approverRef evidenceRef : Identifier)
  approvalDigest : Digest
  opaqueRefs : isOpaque approvalId = true ∧ isOpaque approverRef = true ∧ isOpaque evidenceRef = true
  derived : approvalDigest = approvalDigestFor approvalId agentId versionId channel policySetDigest evaluationDigest
    outcome approvedAt expiresAt approverRef evidenceRef

def scopeDigestFor (tenantId principalId : Identifier) (grantDigests : List Digest) : Digest :=
  canonicalDigest <| Json.sorted [
    ("tenant_id",text tenantId.1),("principal_id",text principalId.1),
    ("grant_digests",.array (((grantDigests.map (·.1)).dedup.insertionSort (· ≤ ·)).map text))]

structure AccessScope where
  (tenantId principalId : Identifier)
  grantDigests : List Digest := []
  scopeDigest : Digest
  bounded : grantDigests.length ≤ 64
  unique : grantDigests.Nodup
  sorted : ascending (grantDigests.map (·.1))
  consistent : scopeDigest = scopeDigestFor tenantId principalId grantDigests

structure AgentResolutionRequest where
  agentId : Identifier
  scope : AccessScope
  channel : Option ReleaseTrack := none
  versionId : Option Identifier := none
  approvalId : Identifier
  requestedBindingIds : List Identifier := []
  teamRef : Option Identifier := none
  teamMemberCount : ℕ := 1
  delegationDepth : ℕ := 0
  delegationChildren : ℕ := 0
  requestedTokens : ℕ := 0
  requestedCostMicros : ℕ := 0
  requestedTimeMs : ℕ := 0
  atTime : Timestamp
  bounded : requestedBindingIds.length ≤ maxBindings
  members : 1 ≤ teamMemberCount ∧ teamMemberCount ≤ maxBindings
  delegation : delegationDepth ≤ 64 ∧ delegationChildren ≤ maxBindings
  budget : requestedTokens ≤ 1000000000 ∧ requestedCostMicros ≤ 1000000000000 ∧ requestedTimeMs ≤ 1000000000
  oneSelector : channel.isNone ≠ versionId.isNone
  opaqueApproval : isOpaque approvalId = true
  opaqueTeam : teamRef.all isOpaque = true
  unique : requestedBindingIds.Nodup
  sorted : ascending (requestedBindingIds.map (·.1))

structure ResolvedAgentPlan where
  (agentId versionId : Identifier)
  channel : ReleaseTrack
  pointerDigest : Digest
  approvalId : Identifier
  bindingIds : List Identifier
  (policySetDigest evaluationDigest resolutionDigest : Digest)
  counted : 3 ≤ bindingIds.length ∧ bindingIds.length ≤ maxBindings

inductive ApprovalState
  | missing | approved | stale | denied
deriving DecidableEq

structure AgentGraphProjection where
  (tenantId agentId versionId : Identifier)
  channel : ReleaseTrack
  (pointerRevision bindingCount : ℕ)
  (bindingSetDigest policySetDigest evaluationDigest : Digest)
  approvalState : ApprovalState
  revised : 1 ≤ pointerRevision
  counted : 3 ≤ bindingCount ∧ bindingCount ≤ maxBindings

end Arbora.Agents
