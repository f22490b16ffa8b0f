import Arbora.Lib.Dict
import Arbora.Lib.Machine
import Arbora.Retrieval.Models

/-! Retrieval for one exact request: authorize, verify what the engine returns, rank, cache. -/
namespace Arbora.Retrieval
open PolicyPlane (Digest)

inductive ErrorKind
  | retrievalDomain | retrievalAuthorization | staleGeneration | generationConflict | generationNotFound
  | cleanupIncomplete
  /-- A refusal of the models themselves. -/
  | validation
  /-- Whatever an adapter raises. -/
  | adapter
deriving DecidableEq

structure Raised where
  kind : ErrorKind
  code : String

/-- `allows`: the keys are compared, not the chunks. -/
def AuthorizationEvidence.allows (e : AuthorizationEvidence) (chunk : ChunkRef) : Bool :=
  chunk.chunkKey ∈ e.allowedChunks.map ChunkRef.chunkKey

structure RankedHit where
  chunk : ChunkRef
  indexRef : IndexRef
  score : Score
  rank : ℕ
  authorizationDigest : Digest
  engineResultRef : OpaqueRef

def identityDrift (request : RetrievalRequest) (authorization : AuthorizationEvidence) : Option String :=
  if authorization.requestId ≠ request.requestId then some "result_request_identity_drift"
  else if authorization.tenantRef ≠ request.tenantRef then some "result_tenant_drift"
  else if authorization.graphRef ≠ request.graphRef then some "result_graph_drift"
  else if authorization.indexRef ≠ request.indexRef then some "result_index_drift"
  else if authorization.generationId ≠ request.indexRef.generationId then some "result_generation_drift"
  else none

def hitsDrift (request : RetrievalRequest) (authorization : AuthorizationEvidence) :
    ℕ → List String → List RankedHit → Option String
  | _, _, [] => none
  | expected, seen, hit :: hits =>
    if hit.rank ≠ expected then some "result_rank_not_contiguous"
    else if hit.authorizationDigest ≠ authorization.evidenceDigest then some "result_authorization_drift"
    else if hit.indexRef ≠ request.indexRef then some "result_hit_index_drift"
    else if authorization.allows hit.chunk = false then some "result_contains_denied_chunk"
    else if hit.chunk.chunkKey ∈ seen then some "result_duplicate_chunk"
    else hitsDrift request authorization (expected+1) (hit.chunk.chunkKey :: seen) hits

def resultDrift (request : RetrievalRequest) (authorization : AuthorizationEvidence) (hits : List RankedHit) :
    Option String :=
  match identityDrift request authorization with
  | some code => some code
  | none =>
    if request.limit.1 < hits.length then some "result_limit_exceeded" else hitsDrift request authorization 1 [] hits

structure RetrievalResult where
  request : RetrievalRequest
  authorization : AuthorizationEvidence
  hits : List RankedHit
  authorized : resultDrift request authorization hits = none

def RetrievalResult.new (request : RetrievalRequest) (authorization : AuthorizationEvidence) (hits : List RankedHit) :
    Except Raised RetrievalResult :=
  match h : resultDrift request authorization hits with
  | some code => .error ⟨.validation,code⟩
  | none => .ok ⟨request,authorization,hits,h⟩

structure CitationRef where
  (citationId requestId : StableId)
  chunk : ChunkRef
  sourceVersion : OpaqueRef
  sourceArtifactRef : ArtifactRef
  generationId : StableId
  version : sourceVersion = chunk.document.sourceVersion
  artifact : sourceArtifactRef = chunk.artifactRef
  generation : generationId = chunk.document.generationId

def citationsDrift (retrieval : RetrievalResult) : List CitationRef → Option String
  | [] => none
  | citation :: citations =>
    if citation.requestId ≠ retrieval.request.requestId then some "citation_request_drift"
    else if citation.chunk.chunkKey ∉ retrieval.hits.map (·.chunk.chunkKey) then some "citation_not_in_retrieval"
    else if retrieval.authorization.allows citation.chunk = false then some "citation_contains_denied_chunk"
    else citationsDrift retrieval citations

structure CitationRecord where
  retrieval : RetrievalResult
  citations : List CitationRef
  bounded : citations.length ≤ maxCitations
  continuous : citationsDrift retrieval citations = none
  distinct : (citations.map (·.chunk.chunkKey)).Nodup

structure Surroundings where
  current : Option GenerationRecord
  now : ℤ
  evidence : Option AuthorizationEvidence
  candidates : Option (List EngineCandidate)
  (cached missed kept refused : Bool)

abbrev RetrievalCache := Dict String RetrievalResult

namespace GovernedRetriever

def requireCurrent (w : Surroundings) (request : RetrievalRequest) : Except Raised GenerationRecord :=
  match w.current with
  | none => .error ⟨.staleGeneration,"current_generation_unresolved"⟩
  | some current =>
    if current.state ≠ .active then .error ⟨.staleGeneration,"current_generation_unresolved"⟩
    else if current.manifest.tenantRef ≠ request.tenantRef ∨ current.manifest.graphRef ≠ request.graphRef ∨
        current.manifest.generationId ≠ request.indexRef.generationId ∨ current.manifest.indexRef ≠ request.indexRef then
      .error ⟨.staleGeneration,"request_generation_stale"⟩
    else .ok current

def validateEvidence (request : RetrievalRequest) (current : GenerationRecord) (evidence : AuthorizationEvidence)
    (now : ℤ) : Except Raised Unit :=
  if now < evidence.evaluatedAt ∨ evidence.expiresAt ≤ now then
    .error ⟨.retrievalAuthorization,"acl_evidence_expired_or_future"⟩
  else if evidence.requestId ≠ request.requestId then .error ⟨.retrievalAuthorization,"acl_request_drift"⟩
  else if evidence.tenantRef ≠ request.tenantRef then .error ⟨.retrievalAuthorization,"acl_tenant_drift"⟩
  else if evidence.graphRef ≠ request.graphRef then .error ⟨.retrievalAuthorization,"acl_graph_drift"⟩
  else if evidence.indexRef ≠ request.indexRef then .error ⟨.retrievalAuthorization,"acl_index_drift"⟩
  else if evidence.generationId ≠ current.manifest.generationId then
    .error ⟨.retrievalAuthorization,"acl_generation_stale"⟩
  else if evidence.allowedChunks.any fun chunk => chunk.document.sourceVersion ≠ current.manifest.sourceVersion then
    .error ⟨.retrievalAuthorization,"acl_source_version_drift"⟩
  else .ok ()

def verifyEach (request : RetrievalRequest) (evidence : AuthorizationEvidence) :
    List String → List EngineCandidate → Except Raised Unit
  | _, [] => .ok ()
  | seen, candidate :: candidates =>
    if candidate.indexRef ≠ request.indexRef then .error ⟨.retrievalDomain,"engine_index_drift"⟩
    else if evidence.allows candidate.chunk = false then
      .error ⟨.retrievalAuthorization,"engine_returned_denied_candidate"⟩
    else if candidate.chunk.chunkKey ∈ seen then .error ⟨.retrievalDomain,"engine_candidate_duplicate"⟩
    else verifyEach request evidence (candidate.chunk.chunkKey :: seen) candidates

def verifyCandidates (request : RetrievalRequest) (evidence : AuthorizationEvidence)
    (candidates : List EngineCandidate) : Except Raised Unit :=
  if maxHits < candidates.length then .error ⟨.retrievalDomain,"engine_candidate_bound_exceeded"⟩
  else verifyEach request evidence [] candidates

def before (a b : EngineCandidate) : Bool :=
  b.score.1 < a.score.1 || (a.score.1 = b.score.1 && (a.chunk.chunkKey < b.chunk.chunkKey ||
    (a.chunk.chunkKey = b.chunk.chunkKey && a.engineResultRef.1 ≤ b.engineResultRef.1)))

def ranked (request : RetrievalRequest) (candidates : List EngineCandidate) : List EngineCandidate :=
  (candidates.insertionSort fun a b => before a b = true).take request.limit.1
def hitOf (evidence : AuthorizationEvidence) (i : ℕ) (candidate : EngineCandidate) : RankedHit :=
  ⟨candidate.chunk,candidate.indexRef,candidate.score,i+1,evidence.evidenceDigest,candidate.engineResultRef⟩

def validateCached (cached : RetrievalResult) (request : RetrievalRequest) (evidence : AuthorizationEvidence)
    (current : GenerationRecord) (now : ℤ) : Except Raised Unit :=
  if cached.request ≠ request then .error ⟨.retrievalDomain,"cache_request_drift"⟩
  else if cached.authorization.evidenceDigest ≠ evidence.evidenceDigest then
    .error ⟨.retrievalAuthorization,"cache_acl_evidence_drift"⟩
  else validateEvidence request current cached.authorization now

def store (w : Surroundings) (result : RetrievalResult) (s : RetrievalCache) :
    Except Raised RetrievalResult × RetrievalCache :=
  if w.cached = false then (.ok result,s)
  else if w.refused then (.error ⟨.retrievalDomain,"cache_write_failed"⟩,s)
  else (.ok result,if w.kept then s.set result.request.requestDigest.1 result else s)

def search (w : Surroundings) (request : RetrievalRequest) (evidence : AuthorizationEvidence) :
    Except Raised RetrievalResult :=
  match w.candidates with
  | none => .error ⟨.retrievalDomain,"engine_search_failed"⟩
  | some candidates =>
    match verifyCandidates request evidence candidates with
    | .error e => .error e
    | .ok () => RetrievalResult.new request evidence ((ranked request candidates).mapIdx (hitOf evidence))

def compute (w : Surroundings) (request : RetrievalRequest) (evidence : AuthorizationEvidence) (s : RetrievalCache) :
    Except Raised RetrievalResult × RetrievalCache :=
  match if evidence.allowedChunks = [] then RetrievalResult.new request evidence [] else search w request evidence with
  | .error e => (.error e,s)
  | .ok result => store w result s

def lookup (w : Surroundings) (request : RetrievalRequest) (s : RetrievalCache) : Option RetrievalResult :=
  if w.cached = false ∨ w.missed then none else s.get request.requestDigest.1

def retrieve (w : Surroundings) (request : RetrievalRequest) (s : RetrievalCache) :
    Except Raised RetrievalResult × RetrievalCache :=
  match requireCurrent w request with
  | .error e => (.error e,s)
  | .ok current =>
    match w.evidence with
    | none => (.error ⟨.retrievalAuthorization,"acl_authorization_failed"⟩,s)
    | some evidence =>
      match validateEvidence request current evidence w.now with
      | .error e => (.error e,s)
      | .ok () =>
        match lookup w request s with
        | none => compute w request evidence s
        | some cached =>
          match validateCached cached request evidence current w.now with
          | .ok () => (.ok cached,s)
          | .error _ => compute w request evidence (s.pop request.requestDigest.1)

def step (s : RetrievalCache) (call : Surroundings × RetrievalRequest) : Except Raised RetrievalResult × RetrievalCache :=
  retrieve call.1 call.2 s

end GovernedRetriever

end Arbora.Retrieval
