import Arbora.PolicyPlane.Models
import Mathlib.Algebra.Order.Ring.Rat

/-! Records of governed retrieval. A record carries what its validators check; a cleanup checkpoint's own digest
follows from the rest of it and is left out. -/
namespace Arbora.Retrieval
open Json (Document natural sorted)
open PolicyPlane (Version Digest canonicalDigest isRef)

abbrev StableId := {text : String // isRef text = true}
abbrev OpaqueRef := {text : String // isRef text = true}
abbrev Timestamp := ℕ
abbrev Dimension := {n : ℕ // 1 ≤ n ∧ n ≤ 65536}

def maxHits : ℕ := 128
def maxCitations : ℕ := 64
def maxIndexChunks : ℕ := 1000000

abbrev ChunkCount := {n : ℕ // n ≤ maxIndexChunks}

def isExact (ref : OpaqueRef) : Bool := String.ofList (ref.1.toList.map Char.toLower) ∉ ["latest","current","default"]

structure ArtifactRef where
  artifactId : StableId
  digest : Digest
  mediaType : OpaqueRef
deriving DecidableEq

structure DocumentRef where
  (tenantRef graphRef : OpaqueRef)
  documentId : StableId
  (sourceRef sourceVersion : OpaqueRef)
  contentDigest : Digest
  generationId : StableId
  artifactRef : ArtifactRef
  exactVersion : isExact sourceVersion = true
  exactGeneration : isExact generationId = true
  noDrift : contentDigest = artifactRef.digest
deriving DecidableEq

structure ChunkRef where
  document : DocumentRef
  chunkId : StableId
  ordinal : ChunkCount
  contentDigest : Digest
  artifactRef : ArtifactRef
  artifactHash : contentDigest = artifactRef.digest
deriving DecidableEq

structure EmbeddingModelRef where
  modelId : StableId
  version : Version
  digest : Digest
  dimension : Dimension
deriving DecidableEq

structure VectorAuthorityRef where
  (tenantRef graphRef : OpaqueRef)
  generationId : StableId
  model : EmbeddingModelRef
  dimension : Dimension
  vectorRef : OpaqueRef
  (vectorDigest sourceContentDigest : Digest)
  exactGeneration : isExact generationId = true
  sameDimension : dimension = model.dimension
deriving DecidableEq

structure IndexRef where
  (tenantRef graphRef : OpaqueRef)
  indexId : StableId
  version : Version
  digest : Digest
  generationId : StableId
  model : EmbeddingModelRef
  dimension : Dimension
  exactIndex : isExact indexId = true
  exactGeneration : isExact generationId = true
  sameDimension : dimension = model.dimension
deriving DecidableEq

structure GenerationManifest where
  (tenantRef graphRef : OpaqueRef)
  generationId : StableId
  sourceVersion : OpaqueRef
  sourceDigest : Digest
  indexRef : IndexRef
  model : EmbeddingModelRef
  expectedChunks : {n : ℕ // 1 ≤ n ∧ n ≤ maxIndexChunks}
  exactGeneration : isExact generationId = true
  exactVersion : isExact sourceVersion = true
  indexTenant : indexRef.tenantRef = tenantRef
  indexGraph : indexRef.graphRef = graphRef
  indexGeneration : indexRef.generationId = generationId
  indexModel : indexRef.model = model
deriving DecidableEq

structure CleanupCheckpoint where
  (tenantRef graphRef : OpaqueRef)
  generationId : StableId
  indexRef : IndexRef
  checkpointId : StableId
  (expectedVectors deletedVectors remainingVectors : ChunkCount)
  complete : Bool
  recordedAt : Timestamp
  indexTenant : indexRef.tenantRef = tenantRef
  indexGraph : indexRef.graphRef = graphRef
  indexGeneration : indexRef.generationId = generationId
  accounting : deletedVectors.1+remainingVectors.1 = expectedVectors.1
  completion : complete = true ↔ deletedVectors.1 = expectedVectors.1 ∧ remainingVectors.1 = 0

inductive GenerationState
  | active | retiring | deleted | cleanupFailed
deriving DecidableEq

def GenerationManifest.owns (manifest : GenerationManifest) (checkpoint : CleanupCheckpoint) : Bool :=
  checkpoint.generationId = manifest.generationId && checkpoint.indexRef = manifest.indexRef

structure GenerationRecord where
  manifest : GenerationManifest
  state : GenerationState
  cleanupCheckpoint : Option CleanupCheckpoint
  activeBare : state = .active → cleanupCheckpoint = none
  deletedProven : state = .deleted → cleanupCheckpoint.any (·.complete) = true
  ownCheckpoint : cleanupCheckpoint.all manifest.owns = true

namespace ChunkRef

/-- The identifiers may have the separator in them. -/
def chunkKey (chunk : ChunkRef) : String :=
  String.ofList (chunk.document.documentId.1.toList ++ ':' :: chunk.chunkId.1.toList)

end ChunkRef

structure AuthorizationEvidence where
  (authorizationId requestId : StableId)
  (tenantRef graphRef : OpaqueRef)
  indexRef : IndexRef
  generationId : StableId
  policyRef : OpaqueRef
  allowedChunks : List ChunkRef
  deniedCount : ChunkCount
  (evaluatedAt expiresAt : Timestamp)
  bounded : allowedChunks.length ≤ maxHits
  expiry : evaluatedAt < expiresAt
  indexTenant : indexRef.tenantRef = tenantRef
  indexGraph : indexRef.graphRef = graphRef
  indexGeneration : indexRef.generationId = generationId
  chunkTenant : ∀ chunk ∈ allowedChunks, chunk.document.tenantRef = tenantRef
  chunkGraph : ∀ chunk ∈ allowedChunks, chunk.document.graphRef = graphRef
  chunkGeneration : ∀ chunk ∈ allowedChunks, chunk.document.generationId = generationId
  distinct : (allowedChunks.map ChunkRef.chunkKey).Nodup
deriving DecidableEq

structure RetrievalRequest where
  requestId : StableId
  (tenantRef graphRef : OpaqueRef)
  indexRef : IndexRef
  queryArtifactRef : ArtifactRef
  queryVectorRef : VectorAuthorityRef
  limit : {n : ℕ // 1 ≤ n ∧ n ≤ maxHits}
  indexTenant : indexRef.tenantRef = tenantRef
  indexGraph : indexRef.graphRef = graphRef
  vectorTenant : queryVectorRef.tenantRef = tenantRef
  vectorGraph : queryVectorRef.graphRef = graphRef
  vectorGeneration : queryVectorRef.generationId = indexRef.generationId
  vectorModel : queryVectorRef.model = indexRef.model
  queryContent : queryVectorRef.sourceContentDigest = queryArtifactRef.digest
deriving DecidableEq

abbrev Score := {q : ℚ // -1 ≤ q ∧ q ≤ 1}

/-- What the engine returns, unranked. -/
structure EngineCandidate where
  chunk : ChunkRef
  indexRef : IndexRef
  vectorRef : VectorAuthorityRef
  score : Score
  engineResultRef : OpaqueRef
  tenant : chunk.document.tenantRef = indexRef.tenantRef
  graph : chunk.document.graphRef = indexRef.graphRef
  generation : chunk.document.generationId = indexRef.generationId
  vectorTenant : vectorRef.tenantRef = indexRef.tenantRef
  vectorGraph : vectorRef.graphRef = indexRef.graphRef
  vectorGeneration : vectorRef.generationId = indexRef.generationId
  vectorModel : vectorRef.model = indexRef.model
  content : vectorRef.sourceContentDigest = chunk.contentDigest

def ArtifactRef.document (a : ArtifactRef) : Document := sorted [
  ("artifact_id",.string a.artifactId.1),("digest",.string a.digest.1),("media_type",.string a.mediaType.1)]

def DocumentRef.canonical (d : DocumentRef) : Document := sorted [
  ("tenant_ref",.string d.tenantRef.1),("graph_ref",.string d.graphRef.1),("document_id",.string d.documentId.1),
  ("source_ref",.string d.sourceRef.1),("source_version",.string d.sourceVersion.1),
  ("content_digest",.string d.contentDigest.1),("generation_id",.string d.generationId.1),
  ("artifact_ref",d.artifactRef.document)]

def ChunkRef.canonical (c : ChunkRef) : Document := sorted [
  ("document",c.document.canonical),("chunk_id",.string c.chunkId.1),("ordinal",natural c.ordinal.1),
  ("content_digest",.string c.contentDigest.1),("artifact_ref",c.artifactRef.document)]

def EmbeddingModelRef.document (m : EmbeddingModelRef) : Document := sorted [
  ("model_id",.string m.modelId.1),("version",.string m.version.1),("digest",.string m.digest.1),
  ("dimension",natural m.dimension.1)]

def VectorAuthorityRef.document (v : VectorAuthorityRef) : Document := sorted [
  ("tenant_ref",.string v.tenantRef.1),("graph_ref",.string v.graphRef.1),("generation_id",.string v.generationId.1),
  ("model",v.model.document),("dimension",natural v.dimension.1),("vector_ref",.string v.vectorRef.1),
  ("vector_digest",.string v.vectorDigest.1),("source_content_digest",.string v.sourceContentDigest.1)]

def IndexRef.document (i : IndexRef) : Document := sorted [
  ("tenant_ref",.string i.tenantRef.1),("graph_ref",.string i.graphRef.1),("index_id",.string i.indexId.1),
  ("version",.string i.version.1),("digest",.string i.digest.1),("generation_id",.string i.generationId.1),
  ("model",i.model.document),("dimension",natural i.dimension.1)]

def AuthorizationEvidence.evidenceDigest (e : AuthorizationEvidence) : Digest := canonicalDigest <| sorted [
  ("authorization_id",.string e.authorizationId.1),("request_id",.string e.requestId.1),
  ("tenant_ref",.string e.tenantRef.1),("graph_ref",.string e.graphRef.1),("index_ref",e.indexRef.document),
  ("generation_id",.string e.generationId.1),("policy_ref",.string e.policyRef.1),
  ("allowed_chunks",.array (e.allowedChunks.map ChunkRef.canonical)),("denied_count",natural e.deniedCount.1),
  ("evaluated_at",natural e.evaluatedAt),("expires_at",natural e.expiresAt)]

def RetrievalRequest.requestDigest (r : RetrievalRequest) : Digest := canonicalDigest <| sorted [
  ("request_id",.string r.requestId.1),("tenant_ref",.string r.tenantRef.1),("graph_ref",.string r.graphRef.1),
  ("index_ref",r.indexRef.document),("query_artifact_ref",r.queryArtifactRef.document),
  ("query_vector_ref",r.queryVectorRef.document),("limit",natural r.limit.1)]

end Arbora.Retrieval
