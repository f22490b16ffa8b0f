import Arbora.PolicyPlane.Models
import Mathlib.Data.List.Dedup

/-! References of a resolved run and of the one work item it is admitted with. -/
namespace Arbora.Runs
open Json (Document natural sorted)
open PolicyPlane (CapabilityBinding Digest OpaqueRef PolicyAuthorization StableId StableKey Version canonicalDigest
  isDigest isId isName isNameChar isRef)

def labelled (label : String) (digest : Digest) : String :=
  String.ofList (label.toList ++ digest.1.toList.drop 7)

theorem isNameChar_hexadecimal {c : Char} (h : Sha256.hexadecimal c = true) : isNameChar c = true := by
  simp only [Sha256.hexadecimal,Bool.or_eq_true,Bool.and_eq_true,decide_eq_true_eq] at h
  simp only [isNameChar,PolicyPlane.isLetter,PolicyPlane.isDigit,Bool.or_eq_true,Bool.and_eq_true,
    decide_eq_true_eq]
  rcases h with ⟨hlow,hhigh⟩ | ⟨hlow,hhigh⟩
  · exact .inl (.inl (.inl (.inl (.inl (.inr ⟨hlow,hhigh⟩)))))
  · exact .inl (.inl (.inl (.inl (.inl (.inl (.inr ⟨hlow,le_trans hhigh (by decide)⟩))))))

theorem isId_labelled {label : String} (hlabel : isName 64 label = true) (digest : Digest) :
    isId (labelled label digest) = true := by
  have hdigest := digest.2
  simp only [isDigest,Bool.and_eq_true,decide_eq_true_eq] at hdigest
  obtain ⟨⟨-,hcount⟩,hhex⟩ := hdigest
  have hnames : (digest.1.toList.drop 7).all isNameChar = true :=
    List.all_eq_true.mpr fun x hx => isNameChar_hexadecimal (List.all_eq_true.mp hhex x hx)
  unfold isName at hlabel
  unfold isId isName labelled
  rw [String.toList_ofList]
  split at hlabel
  · cases hlabel
  · rename_i c rest hcons
    simp only [Bool.and_eq_true,decide_eq_true_eq] at hlabel
    rw [hcons,List.cons_append]
    dsimp only
    rw [hlabel.1.1,List.all_append,hlabel.2,hnames,List.length_append,hcount,Bool.true_and,Bool.and_true,
      Bool.and_true]
    exact decide_eq_true (by omega)

theorem isRef_of_isId {text : String} (h : isId text = true) : isRef text = true := by
  unfold isId isName at h
  unfold isRef isName
  split
  · rename_i hnil
    rw [hnil] at h
    exact h
  · rename_i c rest hcons
    rw [hcons] at h
    simp only [Bool.and_eq_true,decide_eq_true_eq] at h ⊢
    exact ⟨⟨h.1.1,by omega⟩,h.2⟩

/-- A reference of the shape of an identifier. -/
def refOfId (text : StableId) : OpaqueRef := ⟨text.1,isRef_of_isId text.2⟩

/-- References have no blanks around them, which the source looks for. -/
def deterministicAdmissionId (tenantRef : OpaqueRef) (idempotencyKey : StableKey) : StableId :=
  ⟨labelled "run:" (canonicalDigest (sorted
      [("tenant_ref",.string tenantRef.1),("idempotency_key",.string idempotencyKey.1)])),
    isId_labelled (by decide) _⟩

/-- A run's identity has the prefix that the source looks for. -/
def nativeWorkItemId (runId : StableId) : StableId :=
  ⟨labelled "work_item:" (canonicalDigest (.string runId.1)),isId_labelled (by decide) _⟩

structure TraceRef where
  traceId : StableId
  digest : Digest
deriving DecidableEq

structure ArtifactRef where
  artifactId : StableId
  digest : Digest
deriving DecidableEq

structure JobRef where
  jobId : StableId
  version : Version
  digest : Digest
deriving DecidableEq

@[ext]
structure TaskRef where
  (taskId jobId : StableId)
  version : Version
  digest : Digest
  dependsOn : List StableId := []
  noSelf : taskId ∉ dependsOn
  unique : dependsOn.Nodup

instance : DecidableEq TaskRef := fun _ _ => decidable_of_iff _ TaskRef.ext_iff.symm

structure ToolBindingRef where
  binding : CapabilityBinding
  toolOnly : binding.kind = .tool
deriving DecidableEq

structure InvocationRef where
  (invocationId taskId toolBindingId : StableId)
  (toolBindingDigest inputDigest : Digest)
  traceRef : TraceRef
  artifactRefs : List ArtifactRef := []
  unique : artifactRefs.Nodup
deriving DecidableEq

def TraceRef.document (r : TraceRef) : Document := sorted [("trace_id",.string r.traceId.1),("digest",.string r.digest.1)]
def ArtifactRef.document (r : ArtifactRef) : Document := sorted [
  ("artifact_id",.string r.artifactId.1),("digest",.string r.digest.1)]
def JobRef.document (r : JobRef) : Document := sorted [
  ("job_id",.string r.jobId.1),("version",.string r.version.1),("digest",.string r.digest.1)]

def TaskRef.document (r : TaskRef) : Document := sorted [
  ("task_id",.string r.taskId.1),("job_id",.string r.jobId.1),("version",.string r.version.1),
  ("digest",.string r.digest.1),("depends_on",.array (r.dependsOn.map fun taskId => .string taskId.1))]

def ToolBindingRef.document (r : ToolBindingRef) : Document := sorted [("binding",r.binding.document)]

def InvocationRef.document (r : InvocationRef) : Document := sorted [
  ("invocation_id",.string r.invocationId.1),("task_id",.string r.taskId.1),
  ("tool_binding_id",.string r.toolBindingId.1),("tool_binding_digest",.string r.toolBindingDigest.1),
  ("input_digest",.string r.inputDigest.1),("trace_ref",r.traceRef.document),
  ("artifact_refs",.array (r.artifactRefs.map (·.document)))]

/-- What is absent is left out. -/
def authorizationDocument (a : PolicyAuthorization) : Document := sorted <|
  (a.approvalRef.map fun r => ("approval_ref",sorted
    [("approval_id",.string r.approvalId.1),("decision_digest",.string r.decisionDigest.1)])).toList ++
  (a.exceptionRef.map fun r => ("exception_ref",sorted
    [("exception_id",.string r.exceptionId.1),("exception_digest",.string r.exceptionDigest.1)])).toList ++
  [("policy_ref",a.policyRef.document),("operation",.string a.operation.1),("request_digest",.string a.requestDigest.1),
    ("bindings",.array (a.bindings.map (·.document))),("budget",a.budget.document),
    ("resolved_at",natural a.resolvedAt)]

/-- What `_graph_depth` keeps while it goes through the tasks. -/
structure TaskTraversal where
  ready : List StableId
  (depth indegree : StableId → ℕ)
  visited : List StableId

def byText (ids : List StableId) : List StableId := ids.insertionSort fun a b => a.1 ≤ b.1

/-- The children of a task, of which `_graph_edges` makes a dictionary. -/
def childrenOf (tasks : List TaskRef) (taskId : StableId) : List StableId :=
  (tasks.filter fun task => taskId ∈ task.dependsOn).map (·.taskId)

def TaskTraversal.reach (taskId : StableId) (t : TaskTraversal) (child : StableId) : TaskTraversal where
  ready := if t.indegree child-1 = 0 then byText (t.ready ++ [child]) else t.ready
  depth := Function.update t.depth child (max (t.depth child) (t.depth taskId+1))
  indegree := Function.update t.indegree child (t.indegree child-1)
  visited := t.visited

def TaskTraversal.run (tasks : List TaskRef) : ℕ → TaskTraversal → TaskTraversal
  | 0,t => t
  | rounds+1,t =>
    match t.ready with
    | [] => t
    | taskId :: rest =>
      let visited := {t with ready := rest, visited := t.visited ++ [taskId]}
      TaskTraversal.run tasks rounds ((byText (childrenOf tasks taskId)).foldl (TaskTraversal.reach taskId) visited)

/-- `_graph_shape`, the depth and the fanout; nothing where there is a cycle. -/
def graphShape (tasks : List TaskRef) : Option (ℕ × ℕ) :=
  let degree := fun taskId => ((tasks.find? fun task => task.taskId = taskId).map (·.dependsOn.length)).getD 0
  let start : TaskTraversal :=
    ⟨byText ((tasks.map (·.taskId)).filter fun taskId => degree taskId = 0),fun _ => 1,degree,[]⟩
  let t := TaskTraversal.run tasks tasks.length start
  if t.visited.length ≠ tasks.length then none
  else some ((tasks.map fun task => t.depth task.taskId).foldl max 0,
    (tasks.map fun task => (childrenOf tasks task.taskId).length).foldl max 0)

structure RunResolution where
  tenantRef : OpaqueRef
  idempotencyKey : StableKey
  requestDigest : Digest
  authorization : PolicyAuthorization
  job : JobRef
  tasks : List TaskRef
  toolBindings : List ToolBindingRef := []
  invocations : List InvocationRef := []
  traceRef : TraceRef
  artifactRefs : List ArtifactRef := []
  lengths : 1 ≤ tasks.length ∧ tasks.length ≤ 256 ∧ toolBindings.length ≤ 256 ∧ invocations.length ≤ 512 ∧
    artifactRefs.length ≤ 512
  sameRequest : authorization.requestDigest = requestDigest
  taskBudget : tasks.length ≤ authorization.budget.maxTasks
  distinctTasks : (tasks.map (·.taskId)).Nodup
  oneJob : ∀ task ∈ tasks, task.jobId = job.jobId
  knownDependencies : ∀ task ∈ tasks, ∀ taskId ∈ task.dependsOn, taskId ∈ tasks.map (·.taskId)
  graphBudget : (graphShape tasks).any fun shape =>
    shape.1 ≤ authorization.budget.maxDepth && shape.2 ≤ authorization.budget.maxFanout
  distinctBindings : (toolBindings.map (·.binding.bindingId)).Nodup
  authorized : ∀ tool ∈ toolBindings, tool.binding ∈ authorization.bindings
  toolBudget : invocations.length ≤ authorization.budget.maxToolCalls
  knownTasks : ∀ invocation ∈ invocations, invocation.taskId ∈ tasks.map (·.taskId)
  exactBindings : ∀ invocation ∈ invocations, ∃ tool ∈ toolBindings,
    tool.binding.bindingId = invocation.toolBindingId ∧ tool.binding.digest = invocation.toolBindingDigest
  distinctArtifacts : artifactRefs.Nodup
deriving DecidableEq

namespace RunResolution

def runId (r : RunResolution) : StableId := deterministicAdmissionId r.tenantRef r.idempotencyKey

def resolutionDigest (r : RunResolution) : Digest := canonicalDigest <| sorted [
  ("tenant_ref",.string r.tenantRef.1),("idempotency_key",.string r.idempotencyKey.1),
  ("request_digest",.string r.requestDigest.1),("authorization",authorizationDocument r.authorization),
  ("job",r.job.document),("tasks",.array (r.tasks.map (·.document))),
  ("tool_bindings",.array (r.toolBindings.map (·.document))),
  ("invocations",.array (r.invocations.map (·.document))),("trace_ref",r.traceRef.document),
  ("artifact_refs",.array (r.artifactRefs.map (·.document)))]

end RunResolution

structure NativeWorkItemAdmission where
  (runId workItemId : StableId)
  tenantRef : OpaqueRef
  (idempotencyKey kind : StableKey)
  payloadRef : OpaqueRef
  (payloadDigest requestDigest resolutionDigest : Digest)
  dependsOn : List StableId := []
  deterministicRun : runId = deterministicAdmissionId tenantRef idempotencyKey
  deterministicItem : workItemId = nativeWorkItemId runId
  unique : dependsOn.Nodup
deriving DecidableEq

def NativeWorkItemAdmission.document (w : NativeWorkItemAdmission) : Document := sorted [
  ("run_id",.string w.runId.1),("work_item_id",.string w.workItemId.1),("tenant_ref",.string w.tenantRef.1),
  ("idempotency_key",.string w.idempotencyKey.1),("kind",.string w.kind.1),("payload_ref",.string w.payloadRef.1),
  ("payload_digest",.string w.payloadDigest.1),("request_digest",.string w.requestDigest.1),
  ("resolution_digest",.string w.resolutionDigest.1),
  ("depends_on",.array (w.dependsOn.map fun workItemId => .string workItemId.1))]

structure NativeAdmissionRequest where
  resolution : RunResolution
  workItem : NativeWorkItemAdmission
  sameRun : workItem.runId = resolution.runId
  sameTenant : workItem.tenantRef = resolution.tenantRef
  sameKey : workItem.idempotencyKey = resolution.idempotencyKey
  sameRequest : workItem.requestDigest = resolution.requestDigest
  sameResolution : workItem.resolutionDigest = resolution.resolutionDigest

structure RunRecord where
  resolution : RunResolution
  workItem : NativeWorkItemAdmission
  auditEventIds : List StableId := []

structure AdmissionReceipt where
  (runId workItemId : StableId)
  (resolutionDigest workItemDigest : Digest)
  created : Bool

end Arbora.Runs
