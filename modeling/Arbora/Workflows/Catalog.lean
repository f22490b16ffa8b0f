import Arbora.Lib.Dict
import Arbora.Lib.Pool
import Arbora.PolicyPlane.Models

/-! Workflow definitions: graphs of steps with exact bindings, and the digest that does not depend on the
order in which steps and dependencies are declared. -/
namespace Arbora.Workflows
open Json (Document natural sorted)
open PolicyPlane (StableId OpaqueRef Version Digest canonicalDigest)

/-- `_CHANNEL_RE` -/
def isChannel (text : String) : Bool :=
  match text.toList with
  | [] => false
  | c :: rest => ('a' ≤ c && c ≤ 'z') && decide (rest.length < 32) &&
      rest.all fun c => ('a' ≤ c && c ≤ 'z') || ('0' ≤ c && c ≤ '9') || c == '.' || c == '_' || c == '-'

abbrev ChannelName := {text : String // isChannel text = true}

structure ArtifactRef where
  ref : OpaqueRef
  digest : Digest

def ArtifactRef.document (a : ArtifactRef) : Document := sorted [("ref",.string a.ref),("digest",.string a.digest)]

inductive BindingKind where
  | agent | skill | tool | policy | delegation
  deriving DecidableEq

def BindingKind.value : BindingKind → String
  | .agent => "agent" | .skill => "skill" | .tool => "tool" | .policy => "policy" | .delegation => "delegation"

/-- An exact capability: the grammar of identifiers has no `@`. -/
@[ext]
structure ApprovedBinding where
  kind : BindingKind
  bindingId : StableId
  version : Version
  digest : Digest
  noAlias : String.ofList (bindingId.1.toList.map Char.toLower) ∉ ["latest","current","default"]

def ApprovedBinding.document (b : ApprovedBinding) : Document := sorted [
  ("kind",.string b.kind.value),("binding_id",.string b.bindingId),("version",.string b.version),
  ("digest",.string b.digest)]

structure StepContract where
  contractId : StableId
  (inputSchema outputSchema : ArtifactRef)
  inputArtifacts : List ArtifactRef := []
  outputArtifacts : List ArtifactRef := []
  inputsUnique : inputArtifacts.Nodup
  outputsUnique : outputArtifacts.Nodup

def StepContract.document (c : StepContract) : Document := sorted [
  ("contract_id",.string c.contractId),("input_schema",c.inputSchema.document),
  ("output_schema",c.outputSchema.document),("input_artifacts",.array (c.inputArtifacts.map (·.document))),
  ("output_artifacts",.array (c.outputArtifacts.map (·.document)))]

structure WorkflowStep where
  stepId : StableId
  binding : ApprovedBinding
  contract : StepContract
  dependsOn : List StableId := []
  policyBinding : Option ApprovedBinding := none
  summary : String := "step"
  dependenciesUnique : dependsOn.Nodup
  notSelf : stepId ∉ dependsOn
  executable : binding.kind ≠ .policy
  policyKind : ∀ b, policyBinding = some b → b.kind = .policy

def WorkflowStep.document (s : WorkflowStep) : Document := sorted <| [
  ("step_id",.string s.stepId),("binding",s.binding.document),("contract",s.contract.document),
  ("depends_on",.array ((s.dependsOn.insertionSort fun a b => a.1 ≤ b.1).map fun d => .string d)),
  ("summary",.string s.summary)] ++ (s.policyBinding.map fun b => ("policy_binding",b.document)).toList

@[ext]
structure WorkflowBudget where
  (maxSteps maxDepth maxFanout maxToolCalls maxTokens maxSeconds maxCostMicros : ℕ)
  steps : 1 ≤ maxSteps ∧ maxSteps ≤ 256
  depth : 1 ≤ maxDepth ∧ maxDepth ≤ 64
  fanout : 1 ≤ maxFanout ∧ maxFanout ≤ 32
  toolCalls : maxToolCalls ≤ 256
  tokens : 1 ≤ maxTokens ∧ maxTokens ≤ 4000000
  seconds : 1 ≤ maxSeconds ∧ maxSeconds ≤ 86400
  costMicros : maxCostMicros ≤ 10000000

def WorkflowBudget.document (b : WorkflowBudget) : Document := sorted [
  ("max_steps",natural b.maxSteps),("max_depth",natural b.maxDepth),("max_fanout",natural b.maxFanout),
  ("max_tool_calls",natural b.maxToolCalls),("max_tokens",natural b.maxTokens),("max_seconds",natural b.maxSeconds),
  ("max_cost_micros",natural b.maxCostMicros)]

def budgetWithin (requested approved : WorkflowBudget) : Bool :=
  requested.maxSteps ≤ approved.maxSteps && requested.maxDepth ≤ approved.maxDepth &&
    requested.maxFanout ≤ approved.maxFanout && requested.maxToolCalls ≤ approved.maxToolCalls &&
    requested.maxTokens ≤ approved.maxTokens && requested.maxSeconds ≤ approved.maxSeconds &&
    requested.maxCostMicros ≤ approved.maxCostMicros

inductive GraphError where
  | workflowCycle
  /-- statistics beyond what any budget allows -/
  | validation

structure WorkflowGraphStats where
  (stepCount depth maxFanout toolStepCount : ℕ)

def WorkflowGraphStats.validate (stats : WorkflowGraphStats) : Except GraphError WorkflowGraphStats :=
  if 1 ≤ stats.stepCount ∧ stats.stepCount ≤ 256 ∧ 1 ≤ stats.depth ∧ stats.depth ≤ 64 ∧ stats.maxFanout ≤ 32 ∧
      stats.toolStepCount ≤ 256 then .ok stats
  else .error .validation

def childrenOf (steps : List WorkflowStep) (stepId : StableId) : List StableId :=
  ((steps.filter fun step => stepId ∈ step.dependsOn).map (·.stepId)).insertionSort fun a b => a.1 ≤ b.1

/-- What `_topological_stats` keeps while it goes through the graph. -/
structure Traversal where
  ready : List StableId
  (longest indegree : StableId → ℕ)
  visited : List StableId

def Traversal.reach (stepId : StableId) (t : Traversal) (child : StableId) : Traversal :=
  { t with
    longest := Function.update t.longest child (max (t.longest child) (t.longest stepId + 1))
    indegree := Function.update t.indegree child (t.indegree child - 1)
    ready := if t.indegree child - 1 = 0 then (t.ready ++ [child]).insertionSort fun a b => a.1 ≤ b.1 else t.ready }

/-- The loop of `_topological_stats`. A step is ready once at most, so as many rounds as there are steps do. -/
def Traversal.run (steps : List WorkflowStep) : ℕ → Traversal → Traversal
  | 0, t => t
  | rounds + 1, t =>
    match t.ready with
    | [] => t
    | stepId :: rest =>
      let visited := { t with ready := rest, visited := t.visited ++ [stepId] }
      Traversal.run steps rounds ((childrenOf steps stepId).foldl (Traversal.reach stepId) visited)

def topologicalStats (steps : List WorkflowStep) : Traversal :=
  let degree := fun stepId => ((steps.find? fun step => step.stepId = stepId).map (·.dependsOn.length)).getD 0
  Traversal.run steps steps.length
    { ready := ((steps.map (·.stepId)).filter fun stepId => degree stepId = 0).insertionSort fun a b => a.1 ≤ b.1
      longest := fun _ => 1
      indegree := degree
      visited := [] }

/-- `_graph_stats`, once all dependencies are known. -/
def graphStats (steps : List WorkflowStep) : Except GraphError WorkflowGraphStats :=
  let t := topologicalStats steps
  if t.visited.length ≠ steps.length then .error .workflowCycle
  else WorkflowGraphStats.validate {
    stepCount := steps.length
    depth := (steps.map fun step => t.longest step.stepId).foldl max 0
    maxFanout := (steps.map fun step => (childrenOf steps step.stepId).length).foldl max 0
    toolStepCount := (steps.filter fun step => step.binding.kind = .tool).length }

/-- `_enforce_graph_bounds` -/
def WorkflowGraphStats.within (stats : WorkflowGraphStats) (budget : WorkflowBudget) : Bool :=
  stats.stepCount ≤ budget.maxSteps && stats.depth ≤ budget.maxDepth && stats.maxFanout ≤ budget.maxFanout &&
    stats.toolStepCount ≤ budget.maxToolCalls

structure WorkflowDefinition where
  (workflowId templateId : StableId)
  templateDigest : Digest
  version : Version
  policyBinding : ApprovedBinding
  (budget policyBudget : WorkflowBudget)
  steps : List WorkflowStep
  summary : String := "immutable workflow definition"
  lengths : 1 ≤ steps.length ∧ steps.length ≤ 256
  policyKind : policyBinding.kind = .policy
  budgeted : budgetWithin budget policyBudget = true
  stepsUnique : (steps.map (·.stepId)).Nodup
  dependenciesKnown : ∀ step ∈ steps, ∀ dependency ∈ step.dependsOn, dependency ∈ steps.map (·.stepId)
  graphBounded : (graphStats steps).toOption.any (·.within budget) = true

def WorkflowDefinition.canonical (d : WorkflowDefinition) : Document := sorted [
  ("workflow_id",.string d.workflowId),("template_id",.string d.templateId),
  ("template_digest",.string d.templateDigest),("version",.string d.version),
  ("policy_binding",d.policyBinding.document),("budget",d.budget.document),
  ("policy_budget",d.policyBudget.document),
  ("steps",.array ((d.steps.insertionSort fun a b => a.stepId.1 ≤ b.stepId.1).map (·.document))),
  ("summary",.string d.summary)]

def WorkflowDefinition.definitionDigest (d : WorkflowDefinition) : Digest := canonicalDigest d.canonical

/-- The bindings that `_validate_bindings` asks about, in order. -/
def WorkflowDefinition.allBindings (d : WorkflowDefinition) : List ApprovedBinding :=
  d.policyBinding :: d.steps.map (·.binding) ++ d.steps.filterMap (·.policyBinding)

/-! The in-memory repository of workflow versions and release pointers, each of its methods one step under its
lock, and the catalog, whose methods are made of several. -/
open Interaction
open PolicyPlane (StableId Version Digest canonicalDigest isId isVersion isDigest)

inductive ErrorKind where
  | workflowDomainError | workflowConflictError | workflowNotFoundError
  /-- a refusal of the models themselves -/
  | validationError
  /-- `None` where a pointer was read, or a number too long for `int` -/
  | attributeError | valueError
  /-- whatever the binding registry raises -/
  | registryError
  deriving DecidableEq

structure WorkflowError where
  kind : ErrorKind
  code : String
  deriving DecidableEq

structure ReleasePointer where
  workflowId : StableId
  channel : ChannelName
  version : Version
  definitionDigest : Digest
  generation : ℕ
  deriving DecidableEq

structure Repository where
  versions : Dict (String × String) WorkflowDefinition
  pointers : Dict (String × String) ReleasePointer
  history : Dict (String × String) (List ReleasePointer)

def Repository.empty : Repository := ⟨∅,∅,∅⟩

namespace Repository

def putVersion (definition : WorkflowDefinition) (s : Repository) : Except WorkflowError Unit × Repository :=
  let key := (definition.workflowId.1,definition.version.1)
  if (s.versions.get key).any (·.definitionDigest ≠ definition.definitionDigest) then
    (.error ⟨.workflowConflictError,"immutable_version_conflict"⟩,s)
  else (.ok (),{ s with versions := s.versions.set key definition })

def getVersion (workflowId version : String) (s : Repository) : Option WorkflowDefinition :=
  s.versions.get (workflowId,version)
def readPointer (workflowId channel : String) (s : Repository) : Option ReleasePointer :=
  s.pointers.get (workflowId,channel)
def releaseHistory (workflowId channel : String) (s : Repository) : List ReleasePointer :=
  (s.history.get (workflowId,channel)).getD []

/-- The model's own checks of what a pointer is made of. -/
def buildPointer (workflowId channel version definitionDigest : String) (generation : ℕ) :
    Except WorkflowError ReleasePointer :=
  if hworkflow : isId workflowId = true then
    if hchannel : isChannel channel = true then
      if hversion : isVersion version = true then
        if hdigest : isDigest definitionDigest = true then
          .ok ⟨⟨workflowId,hworkflow⟩,⟨channel,hchannel⟩,⟨version,hversion⟩,⟨definitionDigest,hdigest⟩,generation⟩
        else .error ⟨.validationError,"definition_digest"⟩
      else .error ⟨.validationError,"version"⟩
    else .error ⟨.validationError,"channel"⟩
  else .error ⟨.validationError,"workflow_id"⟩

def installPointer (pointer : ReleasePointer) (workflowId channel : String) (s : Repository) : Repository :=
  { s with
    pointers := s.pointers.set (workflowId,channel) pointer
    history := s.history.set (workflowId,channel) (s.releaseHistory workflowId channel ++ [pointer]) }

def compareAndSetPointer (workflowId channel : String) (expected : Option ReleasePointer)
    (version definitionDigest : String) (s : Repository) : Except WorkflowError ReleasePointer × Repository :=
  let current := s.readPointer workflowId channel
  if current ≠ expected then (.error ⟨.workflowConflictError,"release_pointer_cas_conflict"⟩,s)
  else
    match s.getVersion workflowId version with
    | none => (.error ⟨.workflowNotFoundError,"immutable_version_missing"⟩,s)
    | some definition =>
      if definition.definitionDigest.1 ≠ definitionDigest then
        (.error ⟨.workflowConflictError,"release_digest_mismatch"⟩,s)
      else
        match buildPointer workflowId channel version definitionDigest (current.elim 0 (·.generation + 1)) with
        | .error x => (.error x,s)
        | .ok pointer => (.ok pointer,s.installPointer pointer workflowId channel)

end Repository

/-- The steps a catalog's methods are made of: the repository's, and questions to the registry of bindings. -/
inductive Call where
  | putVersion (definition : WorkflowDefinition)
  | getVersion (workflowId version : String)
  | readPointer (workflowId channel : String)
  | compareAndSetPointer (workflowId channel : String) (expected : Option ReleasePointer)
      (version definitionDigest : String)
  | isApproved (binding : ApprovedBinding)

@[reducible] def Call.Answer : Call → Type
  | .putVersion _ => Except WorkflowError Unit
  | .getVersion .. => Option WorkflowDefinition
  | .readPointer .. => Option ReleasePointer
  | .compareAndSetPointer .. => Except WorkflowError ReleasePointer
  | .isApproved _ => Except WorkflowError Bool

/-- The repository under its lock; a registry of bindings may answer anything and changes nothing. -/
inductive Repository.Serves : World Call Call.Answer Repository
  | putVersion (s : Repository) (definition : WorkflowDefinition) :
      Serves s (.putVersion definition) (s.putVersion definition).1 (s.putVersion definition).2
  | getVersion (s : Repository) (workflowId version : String) :
      Serves s (.getVersion workflowId version) (s.getVersion workflowId version) s
  | readPointer (s : Repository) (workflowId channel : String) :
      Serves s (.readPointer workflowId channel) (s.readPointer workflowId channel) s
  | compareAndSetPointer (s : Repository) (workflowId channel : String) (expected : Option ReleasePointer)
      (version definitionDigest : String) :
      Serves s (.compareAndSetPointer workflowId channel expected version definitionDigest)
        (s.compareAndSetPointer workflowId channel expected version definitionDigest).1
        (s.compareAndSetPointer workflowId channel expected version definitionDigest).2
  | isApproved (s : Repository) (binding : ApprovedBinding) (r : Except WorkflowError Bool) :
      Serves s (.isApproved binding) r s

abbrev Step (α : Type) := Prog Call Call.Answer WorkflowError α

namespace Catalog

def ofExcept {α : Type} : Except WorkflowError α → Step α
  | .ok a => .ret a
  | .error x => .raise x

def validateChannel (channel : String) : Step Unit :=
  if isChannel channel = true then .ret () else .raise ⟨.workflowDomainError,"channel_invalid"⟩

def validateBindings : List ApprovedBinding → Step Unit
  | [] => .ret ()
  | binding :: rest => .call (.isApproved binding) fun approved =>
    (ofExcept approved).bind fun ok =>
      if ok then validateBindings rest else .raise ⟨.workflowDomainError,"binding_unresolved_or_unapproved"⟩

def publish (definition : WorkflowDefinition) : Step Digest := do
  validateBindings definition.allBindings
  Prog.call (.putVersion definition) ofExcept
  return definition.definitionDigest

def release (definition : WorkflowDefinition) (channel : String) (expected : Option ReleasePointer) :
    Step ReleasePointer := do
  validateChannel channel
  discard (publish definition)
  Prog.call (.compareAndSetPointer definition.workflowId channel expected definition.version
    definition.definitionDigest) ofExcept

/-- The digits of a numeral, which `int` reads if they are not too many. -/
def numeral (digits : List Char) : Except WorkflowError ℕ :=
  if 4300 < digits.length then .error ⟨.valueError,"int_max_str_digits"⟩
  else .ok (digits.foldl (fun n c => 10 * n + (c.toNat - 48)) 0)

/-- What versions are compared by: their numbers, whether nothing follows the first hyphen, and what does. -/
def precedenceKey (version : String) : Except WorkflowError (List ℕ × ℕ × List Char) := do
  let core := version.toList.takeWhile (· ≠ '-')
  let suffix := (version.toList.dropWhile (· ≠ '-')).drop 1
  let numbers ← ((core.takeWhile (· ≠ '+')).splitOn '.').mapM numeral
  return (numbers,if suffix.isEmpty then 1 else 0,suffix)

def isPriorVersion (candidate current : String) : Except WorkflowError Bool :=
  if isVersion candidate = false ∨ isVersion current = false then .ok false
  else do
    let before ← precedenceKey candidate
    let after ← precedenceKey current
    return decide (before.1 < after.1 ∨ before.1 = after.1 ∧
      (before.2.1 < after.2.1 ∨ before.2.1 = after.2.1 ∧ before.2.2 < after.2.2))

def rollback (workflowId channel priorVersion : String) (expected : Option ReleasePointer) : Step ReleasePointer := do
  validateChannel channel
  let current ← (Prog.ask (Call.readPointer workflowId channel) : Step (Option ReleasePointer))
  if current ≠ expected then throw ⟨.workflowConflictError,"rollback_pointer_cas_conflict"⟩
  else
    match current with
    | none => throw ⟨.attributeError,"version"⟩
    | some pointer =>
      if ← ofExcept (isPriorVersion priorVersion pointer.version) then
        match ← (Prog.ask (Call.getVersion workflowId priorVersion) : Step (Option WorkflowDefinition)) with
        | none => throw ⟨.workflowNotFoundError,"rollback_version_missing"⟩
        | some target =>
          validateBindings target.allBindings
          Prog.call (.compareAndSetPointer workflowId channel current target.version target.definitionDigest) ofExcept
      else throw ⟨.workflowConflictError,"rollback_target_not_prior"⟩

structure WorkflowResolution where
  definition : WorkflowDefinition
  channel : String
  pointerGeneration : ℕ

def resolve (workflowId channel : String) : Step WorkflowResolution := do
  validateChannel channel
  match ← (Prog.ask (Call.readPointer workflowId channel) : Step (Option ReleasePointer)) with
  | none => throw ⟨.workflowNotFoundError,"release_pointer_missing"⟩
  | some pointer =>
    if pointer.workflowId.1 ≠ workflowId ∨ pointer.channel.1 ≠ channel then
      throw ⟨.workflowConflictError,"release_pointer_identity_mismatch"⟩
    else
      match ← (Prog.ask (Call.getVersion workflowId pointer.version) : Step (Option WorkflowDefinition)) with
      | none => throw ⟨.workflowNotFoundError,"released_immutable_version_missing"⟩
      | some definition =>
        if definition.definitionDigest ≠ pointer.definitionDigest then
          throw ⟨.workflowConflictError,"released_definition_digest_mismatch"⟩
        else
          validateBindings definition.allBindings
          return ⟨definition,channel,pointer.generation⟩

end Catalog

inductive CatalogCall where
  | publish (definition : WorkflowDefinition)
  | release (definition : WorkflowDefinition) (channel : String) (expected : Option ReleasePointer)
  | rollback (workflowId channel priorVersion : String) (expected : Option ReleasePointer)
  | resolve (workflowId channel : String)

inductive Reply where
  | published (digest : Digest)
  | pointer (pointer : ReleasePointer)
  | resolved (resolution : Catalog.WorkflowResolution)

def CatalogCall.run : CatalogCall → Step Reply
  | .publish definition => do return .published (← Catalog.publish definition)
  | .release definition channel expected => do return .pointer (← Catalog.release definition channel expected)
  | .rollback workflowId channel priorVersion expected => do
    return .pointer (← Catalog.rollback workflowId channel priorVersion expected)
  | .resolve workflowId channel => do return .resolved (← Catalog.resolve workflowId channel)

def CatalogCall.expected : CatalogCall → Option (Option ReleasePointer)
  | .publish _ | .resolve .. => none
  | .release _ _ expected => some expected
  | .rollback _ _ _ expected => some expected

end Arbora.Workflows
