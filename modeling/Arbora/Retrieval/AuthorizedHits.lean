import Arbora.Retrieval.Retriever
import Mathlib.Tactic.NormNum

/-! What is returned was authorized, as long as no chunk passes under the key of another. -/
namespace Arbora.Retrieval
open Machine
namespace GovernedRetriever

section
variable {w : Surroundings} {request : RetrievalRequest} {evidence : AuthorizationEvidence} {s t : RetrievalCache}
  {result : RetrievalResult}

def Authorized (evidence : AuthorizationEvidence) (result : RetrievalResult) : Prop :=
  ∀ hit ∈ result.hits, hit.chunk ∈ evidence.allowedChunks

structure NoImpostor (s : RetrievalCache) (call : Surroundings × RetrievalRequest) : Prop where
  engine : ∀ evidence candidates, call.1.evidence = some evidence → call.1.candidates = some candidates →
    ∀ candidate ∈ ranked call.2 candidates, evidence.allows candidate.chunk = true →
      candidate.chunk ∈ evidence.allowedChunks
  cache : ∀ evidence cached, call.1.evidence = some evidence → s.get call.2.requestDigest.1 = some cached →
    cached.authorization.evidenceDigest = evidence.evidenceDigest → cached.authorization = evidence

structure Computed (w : Surroundings) (request : RetrievalRequest) (evidence : AuthorizationEvidence)
    (result : RetrievalResult) : Prop where
  authorization : result.authorization = evidence
  hits : result.hits = [] ∨ ∃ candidates, w.candidates = some candidates ∧
    verifyCandidates request evidence candidates = .ok () ∧
    result.hits = (ranked request candidates).mapIdx (hitOf evidence)

theorem new_ok {hits : List RankedHit} (h : RetrievalResult.new request evidence hits = .ok result) :
    result.request = request ∧ result.authorization = evidence ∧ result.hits = hits := by
  unfold RetrievalResult.new at h
  split at h
  · cases h
  · cases h
    exact ⟨rfl,rfl,rfl⟩

theorem search_ok (h : search w request evidence = .ok result) : Computed w request evidence result := by
  unfold search at h
  split at h
  · cases h
  · rename_i candidates hcandidates
    split at h
    · cases h
    · rename_i hverified
      obtain ⟨_,hauthorization,hhits⟩ := new_ok h
      exact ⟨hauthorization,.inr ⟨candidates,hcandidates,hverified,hhits⟩⟩

theorem store_cases (w : Surroundings) (result : RetrievalResult) (s : RetrievalCache) :
    (∃ e, store w result s = (.error e,s)) ∨ store w result s = (.ok result,s) ∨
      store w result s = (.ok result,s.set result.request.requestDigest.1 result) := by
  unfold store
  split_ifs
  · exact .inr (.inl rfl)
  · exact .inl ⟨_,rfl⟩
  · exact .inr (.inr rfl)
  · exact .inr (.inl rfl)

theorem compute_cases (w : Surroundings) (request : RetrievalRequest) (evidence : AuthorizationEvidence)
    (s : RetrievalCache) : (∃ e, compute w request evidence s = (.error e,s)) ∨
      ∃ result, Computed w request evidence result ∧ (compute w request evidence s = (.ok result,s) ∨
        compute w request evidence s = (.ok result,s.set result.request.requestDigest.1 result)) := by
  have hmade : ∀ result, (if evidence.allowedChunks = [] then RetrievalResult.new request evidence [] else
      search w request evidence) = .ok result → Computed w request evidence result := by
    intro result h
    split_ifs at h
    · obtain ⟨_,hauthorization,hhits⟩ := new_ok h
      exact ⟨hauthorization,.inl hhits⟩
    · exact search_ok h
  unfold compute
  split
  · exact .inl ⟨_,rfl⟩
  · rename_i result hresult
    rcases store_cases w result s with ⟨e,he⟩ | hstored
    · exact .inl ⟨e,he⟩
    · exact .inr ⟨result,hmade result hresult,hstored⟩

theorem retrieve_cases (w : Surroundings) (request : RetrievalRequest) (s : RetrievalCache) :
    (∃ e, retrieve w request s = (.error e,s)) ∨ ∃ evidence, w.evidence = some evidence ∧
      ((∃ cached, s.get request.requestDigest.1 = some cached ∧
        cached.authorization.evidenceDigest = evidence.evidenceDigest ∧ retrieve w request s = (.ok cached,s)) ∨
      ∃ t, (t = s ∨ t = s.pop request.requestDigest.1) ∧ retrieve w request s = compute w request evidence t) := by
  unfold retrieve
  split
  · exact .inl ⟨_,rfl⟩
  · split
    · exact .inl ⟨_,rfl⟩
    · rename_i evidence hevidence
      split
      · exact .inl ⟨_,rfl⟩
      · split
        · exact .inr ⟨evidence,hevidence,.inr ⟨s,.inl rfl,rfl⟩⟩
        · rename_i cached hlookup
          have hget : s.get request.requestDigest.1 = some cached := by
            unfold lookup at hlookup
            split_ifs at hlookup
            exact hlookup
          split
          · rename_i hvalid
            have hdigest : cached.authorization.evidenceDigest = evidence.evidenceDigest := by
              unfold validateCached at hvalid
              split_ifs at hvalid with hrequest hdigest
              exact not_not.mp hdigest
            exact .inr ⟨evidence,hevidence,.inl ⟨cached,hget,hdigest,rfl⟩⟩
          · exact .inr ⟨evidence,hevidence,.inr ⟨_,.inr rfl,rfl⟩⟩

theorem allows_of_verifyEach {seen : List String} {candidates : List EngineCandidate}
    (h : verifyEach request evidence seen candidates = .ok ()) :
    ∀ candidate ∈ candidates, evidence.allows candidate.chunk = true := by
  induction candidates generalizing seen with
  | nil => exact fun candidate hmem => nomatch hmem
  | cons first rest ih =>
    rw [verifyEach] at h
    split_ifs at h with hindex hallows hseen
    intro candidate hmem
    rcases List.mem_cons.mp hmem with rfl | hlater
    · exact Bool.not_eq_false _ ▸ hallows
    · exact ih h candidate hlater

theorem Computed.authorized (h : Computed w request evidence result) (hevidence : w.evidence = some evidence)
    (hsafe : NoImpostor s (w,request)) : Authorized evidence result := by
  rcases h.hits with hnone | ⟨candidates,hcandidates,hverified,hhits⟩
  · intro hit hmem
    rw [hnone] at hmem
    cases hmem
  · intro hit hmem
    rw [hhits,List.mem_mapIdx] at hmem
    obtain ⟨i,hi,rfl⟩ := hmem
    have hranked : (ranked request candidates)[i] ∈ ranked request candidates := List.getElem_mem hi
    have hcandidate : (ranked request candidates)[i] ∈ candidates :=
      (List.mem_insertionSort _).mp (List.mem_of_mem_take hranked)
    have hallows : evidence.allows (ranked request candidates)[i].chunk = true := by
      unfold verifyCandidates at hverified
      split_ifs at hverified
      exact allows_of_verifyEach hverified _ hcandidate
    exact hsafe.engine evidence candidates hevidence hcandidates _ hranked hallows

def Sound (s : RetrievalCache) : Prop := ∀ key result, s.get key = some result → Authorized result.authorization result

theorem Sound.set (h : Sound s) (key : String) (hresult : Authorized result.authorization result) :
    Sound (s.set key result) := by
  intro key' result' hget
  rw [Dict.get_set] at hget
  split_ifs at hget
  · cases hget
    exact hresult
  · exact h key' result' hget

theorem Sound.pop (h : Sound s) (key : String) : Sound (s.pop key) := by
  intro key' result' hget
  rw [Dict.get_pop] at hget
  split_ifs at hget
  exact h key' result' hget

theorem step_authorized (s : RetrievalCache) (call : Surroundings × RetrievalRequest) (hs : Sound s)
    (hsafe : NoImpostor s call) : Sound (step s call).2 ∧ ∀ evidence result, call.1.evidence = some evidence →
      (step s call).1 = .ok result → Authorized evidence result := by
  obtain ⟨w,request⟩ := call
  have hstep : step s (w,request) = retrieve w request s := rfl
  rw [hstep]
  rcases retrieve_cases w request s with ⟨e,he⟩ | ⟨evidence,hevidence,⟨cached,hget,hdigest,hcached⟩ | ⟨t,ht,hcompute⟩⟩
  · rw [he]
    exact ⟨hs,fun _ _ _ hok => by cases hok⟩
  · rw [hcached]
    refine ⟨hs,fun evidence' result hevidence' hok => ?_⟩
    cases hevidence.symm.trans hevidence'
    cases hok
    have hsame := hsafe.cache evidence cached hevidence hget hdigest
    have hauthorized := hs _ cached hget
    rw [hsame] at hauthorized
    exact hauthorized
  · have htsound : Sound t := by
      rcases ht with rfl | rfl
      · exact hs
      · exact hs.pop _
    rw [hcompute]
    rcases compute_cases w request evidence t with ⟨e,he⟩ | ⟨result,hresult,hkept⟩
    · rw [he]
      exact ⟨htsound,fun _ _ _ hok => by cases hok⟩
    · have hauthorized := hresult.authorized hevidence hsafe
      have hown : Authorized result.authorization result := by
        rw [hresult.authorization]
        exact hauthorized
      have hfst : (compute w request evidence t).1 = .ok result := by
        rcases hkept with h | h
        · rw [h]
        · rw [h]
      refine ⟨?_,fun evidence' result' hevidence' hok => ?_⟩
      · rcases hkept with h | h
        · rw [h]
          exact htsound
        · rw [h]
          exact htsound.set _ hown
      · cases hevidence.symm.trans hevidence'
        cases hfst.symm.trans hok
        exact hauthorized

theorem citationsDrift_none {retrieval : RetrievalResult} {citations : List CitationRef}
    (h : citationsDrift retrieval citations = none) :
    ∀ citation ∈ citations, ∃ hit ∈ retrieval.hits, hit.chunk.chunkKey = citation.chunk.chunkKey := by
  induction citations with
  | nil => exact fun citation hmem => nomatch hmem
  | cons first rest ih =>
    rw [citationsDrift] at h
    split_ifs at h with hrequest hkey hallows
    intro citation hmem
    rcases List.mem_cons.mp hmem with rfl | hlater
    · exact List.mem_map.mp hkey
    · exact ih h citation hlater

theorem hitsDrift_none {expected : ℕ} {seen : List String} {hits : List RankedHit}
    (h : hitsDrift request evidence expected seen hits = none) :
    (hits.map (·.chunk.chunkKey)).Nodup ∧ ∀ hit ∈ hits, hit.chunk.chunkKey ∉ seen := by
  induction hits generalizing expected seen with
  | nil => exact ⟨List.nodup_nil,fun hit hmem => nomatch hmem⟩
  | cons first rest ih =>
    rw [hitsDrift] at h
    split_ifs at h with hrank hauthorization hindex hallows hseen
    obtain ⟨hnodup,hrest⟩ := ih h
    refine ⟨?_,fun hit hmem => ?_⟩
    · rw [List.map_cons,List.nodup_cons]
      refine ⟨fun hmem => ?_,hnodup⟩
      obtain ⟨hit,hhit,hkey⟩ := List.mem_map.mp hmem
      exact hrest hit hhit (hkey ▸ List.mem_cons_self)
    · rcases List.mem_cons.mp hmem with rfl | hlater
      · exact hseen
      · exact fun hold => hrest hit hlater (List.mem_cons_of_mem _ hold)

theorem hit_eq_of_key (result : RetrievalResult) {hit hit' : RankedHit} (h : hit ∈ result.hits) (h' : hit' ∈ result.hits)
    (hkey : hit.chunk.chunkKey = hit'.chunk.chunkKey) : hit = hit' := by
  have hvalid := result.authorized
  unfold resultDrift at hvalid
  split at hvalid
  · cases hvalid
  · split_ifs at hvalid
    exact List.inj_on_of_nodup_map (hitsDrift_none hvalid).1 h h' hkey

/-- In a run without impostors every hit that is returned is an allowed chunk. The citations of a record are
chunks of its hits just when none of them has a hit's key and is another chunk. -/
theorem retrieval_authorized {calls : List (Surroundings × RetrievalRequest)}
    (h : Along step NoImpostor (∅ : RetrievalCache) calls) :
    Along step (fun s call => ∀ evidence result, call.1.evidence = some evidence → (step s call).1 = .ok result →
      ∀ hit ∈ result.hits, hit.chunk ∈ evidence.allowedChunks) (∅ : RetrievalCache) calls ∧
    ∀ record : CitationRecord, (∀ citation ∈ record.citations, ∃ hit ∈ record.retrieval.hits,
        citation.chunk = hit.chunk) ↔ ∀ citation ∈ record.citations, ∀ hit ∈ record.retrieval.hits,
        hit.chunk.chunkKey = citation.chunk.chunkKey → hit.chunk = citation.chunk := by
  constructor
  · have hempty : Sound ∅ := by
      intro key result hget
      cases hget
    exact h.conclude (fun s call hs hsafe => (step_authorized s call hs hsafe).1)
      (fun s call hs hsafe => (step_authorized s call hs hsafe).2) hempty
  · intro record
    constructor
    · intro hcited citation hcitation hit hhit hkey
      obtain ⟨hit',hhit',hsame⟩ := hcited citation hcitation
      rw [hsame] at hkey
      rw [hit_eq_of_key record.retrieval hhit hhit' hkey,hsame]
    · intro honly citation hcitation
      obtain ⟨hit,hhit,hkey⟩ := citationsDrift_none record.continuous citation hcitation
      exact ⟨hit,hhit,(honly citation hcitation hit hhit hkey).symm⟩

end

namespace Fixture
open PolicyPlane (Digest)

def digestA : Digest :=
  ⟨"sha256:aaaaaaaaaaaaaaaaaaaaaaaaaaaaaaaaaaaaaaaaaaaaaaaaaaaaaaaaaaaaaaaa",by decide +kernel⟩
def digestB : Digest :=
  ⟨"sha256:bbbbbbbbbbbbbbbbbbbbbbbbbbbbbbbbbbbbbbbbbbbbbbbbbbbbbbbbbbbbbbbb",by decide +kernel⟩

def tenant : OpaqueRef := ⟨"tenant:one",by decide +kernel⟩
def graph : OpaqueRef := ⟨"graph:knowledge",by decide +kernel⟩
def generation : StableId := ⟨"generation:one",by decide +kernel⟩
def revision : OpaqueRef := ⟨"revision:42",by decide +kernel⟩
def plain : OpaqueRef := ⟨"text/markdown",by decide +kernel⟩
def dimension : Dimension := ⟨3,by decide⟩
def model : EmbeddingModelRef := ⟨⟨"model:retrieval",by decide +kernel⟩,⟨"1.2.0",by decide +kernel⟩,digestA,dimension⟩

def index : IndexRef where
  tenantRef := tenant
  graphRef := graph
  indexId := ⟨"index:one",by decide +kernel⟩
  version := ⟨"1.2.0",by decide +kernel⟩
  digest := digestA
  generationId := generation
  model := model
  dimension := dimension
  exactIndex := by decide +kernel
  exactGeneration := by decide +kernel
  sameDimension := rfl

def manifest : GenerationManifest where
  tenantRef := tenant
  graphRef := graph
  generationId := generation
  sourceVersion := revision
  sourceDigest := digestA
  indexRef := index
  model := model
  expectedChunks := ⟨2,by decide⟩
  exactGeneration := index.exactGeneration
  exactVersion := by decide +kernel
  indexTenant := rfl
  indexGraph := rfl
  indexGeneration := rfl
  indexModel := rfl

def published : GenerationRecord where
  manifest := manifest
  state := .active
  cleanupCheckpoint := none
  activeBare _ := rfl
  deletedProven h := by cases h
  ownCheckpoint := rfl

def artifact (digest : Digest) : ArtifactRef := ⟨⟨"artifact:source",by decide +kernel⟩,digest,plain⟩

def chunk (documentId chunkId : StableId) (digest : Digest) : ChunkRef where
  document := {
    tenantRef := tenant
    graphRef := graph
    documentId := documentId
    sourceRef := ⟨"source:git",by decide +kernel⟩
    sourceVersion := revision
    contentDigest := digest
    generationId := generation
    artifactRef := artifact digest
    exactVersion := manifest.exactVersion
    exactGeneration := index.exactGeneration
    noDrift := rfl }
  chunkId := chunkId
  ordinal := ⟨0,by decide⟩
  contentDigest := digest
  artifactRef := artifact digest
  artifactHash := rfl

def vector (digest : Digest) : VectorAuthorityRef where
  tenantRef := tenant
  graphRef := graph
  generationId := generation
  model := model
  dimension := dimension
  vectorRef := ⟨"engine-vector:query",by decide +kernel⟩
  vectorDigest := digestA
  sourceContentDigest := digest
  exactGeneration := index.exactGeneration
  sameDimension := rfl

def request : RetrievalRequest where
  requestId := ⟨"request:one",by decide +kernel⟩
  tenantRef := tenant
  graphRef := graph
  indexRef := index
  queryArtifactRef := artifact digestA
  queryVectorRef := vector digestA
  limit := ⟨2,by decide⟩
  indexTenant := rfl
  indexGraph := rfl
  vectorTenant := rfl
  vectorGraph := rfl
  vectorGeneration := rfl
  vectorModel := rfl
  queryContent := rfl

def allowed : ChunkRef := chunk ⟨"manual",by decide +kernel⟩ ⟨"a:b",by decide +kernel⟩ digestA
def impostor : ChunkRef := chunk ⟨"manual:a",by decide +kernel⟩ ⟨"b",by decide +kernel⟩ digestB

def evidence : AuthorizationEvidence where
  authorizationId := ⟨"acl:request-one",by decide +kernel⟩
  requestId := request.requestId
  tenantRef := tenant
  graphRef := graph
  indexRef := index
  generationId := generation
  policyRef := ⟨"policy:retrieval",by decide +kernel⟩
  allowedChunks := [allowed]
  deniedCount := ⟨0,by decide⟩
  evaluatedAt := 90
  expiresAt := 120
  bounded := by decide
  expiry := by decide
  indexTenant := rfl
  indexGraph := rfl
  indexGeneration := rfl
  chunkTenant := by
    intro chunk hchunk
    rw [List.mem_singleton.mp hchunk]
    rfl
  chunkGraph := by
    intro chunk hchunk
    rw [List.mem_singleton.mp hchunk]
    rfl
  chunkGeneration := by
    intro chunk hchunk
    rw [List.mem_singleton.mp hchunk]
    rfl
  distinct := List.nodup_singleton _

def candidate (chunk : ChunkRef) (digest : Digest) (h : chunk.contentDigest = digest)
    (htenant : chunk.document.tenantRef = tenant) (hgraph : chunk.document.graphRef = graph)
    (hgeneration : chunk.document.generationId = generation) : EngineCandidate where
  chunk := chunk
  indexRef := index
  vectorRef := vector digest
  score := ⟨1/2,by norm_num,by norm_num⟩
  engineResultRef := ⟨"engine-result:one",by decide +kernel⟩
  tenant := htenant
  graph := hgraph
  generation := hgeneration
  vectorTenant := rfl
  vectorGraph := rfl
  vectorGeneration := rfl
  vectorModel := rfl
  content := h.symm

def surroundings (candidates : List EngineCandidate) : Surroundings :=
  ⟨some published,100,some evidence,some candidates,true,false,true,false⟩
def honest : EngineCandidate := candidate allowed digestA rfl rfl rfl rfl
def drifted : EngineCandidate := candidate impostor digestB rfl rfl rfl rfl

variable {c : EngineCandidate} {q : RetrievalRequest} {e : AuthorizationEvidence}

theorem new_of_none {hits : List RankedHit}
    (h : resultDrift q e hits = none) : RetrievalResult.new q e hits = .ok ⟨q,e,hits,h⟩ := by
  unfold RetrievalResult.new
  split
  · rename_i code hcode
    rw [h] at hcode
    cases hcode
  · rfl

theorem identityDrift_none (hrequest : e.requestId = q.requestId)
    (htenant : e.tenantRef = q.tenantRef) (hgraph : e.graphRef = q.graphRef) (hindex : e.indexRef = q.indexRef)
    (hgeneration : e.generationId = q.indexRef.generationId) : identityDrift q e = none := by
  unfold identityDrift
  rw [if_neg (not_not.mpr hrequest),if_neg (not_not.mpr htenant),if_neg (not_not.mpr hgraph),
    if_neg (not_not.mpr hindex),if_neg (not_not.mpr hgeneration)]

theorem hitsDrift_single (hindex : c.indexRef = q.indexRef) (hallows : e.allows c.chunk = true) :
    hitsDrift q e 1 [] [hitOf e 0 c] = none := by
  have hrank : (hitOf e 0 c).rank = 1 := rfl
  have hdigest : (hitOf e 0 c).authorizationDigest = e.evidenceDigest := rfl
  have hhit : (hitOf e 0 c).indexRef = q.indexRef := hindex
  have hchunk : e.allows (hitOf e 0 c).chunk = true := hallows
  rw [hitsDrift,if_neg (not_not.mpr hrank),if_neg (not_not.mpr hdigest),if_neg (not_not.mpr hhit),hchunk,
    if_neg (by decide),if_neg List.not_mem_nil,hitsDrift]

theorem result_of_key (hindex : c.indexRef = index) (hallows : evidence.allows c.chunk = true) :
    resultDrift request evidence [hitOf evidence 0 c] = none := by
  have hlength : ¬request.limit.1 < [hitOf evidence 0 c].length := by
    rw [List.length_singleton]
    decide
  unfold resultDrift
  rw [identityDrift_none rfl rfl rfl rfl rfl]
  exact (if_neg hlength).trans (hitsDrift_single hindex hallows)

theorem valid_of_same {now : ℤ}
    (htimes : ¬(now < e.evaluatedAt ∨ e.expiresAt ≤ now)) (hrequest : e.requestId = q.requestId)
    (htenant : e.tenantRef = q.tenantRef) (hgraph : e.graphRef = q.graphRef) (hindex : e.indexRef = q.indexRef)
    (hgeneration : e.generationId = published.manifest.generationId)
    (hchunks : ¬(e.allowedChunks.any fun chunk => chunk.document.sourceVersion ≠ published.manifest.sourceVersion) = true) :
    validateEvidence q published e now = .ok () := by
  unfold validateEvidence
  rw [if_neg htimes,if_neg (not_not.mpr hrequest),if_neg (not_not.mpr htenant),if_neg (not_not.mpr hgraph),
    if_neg (not_not.mpr hindex),if_neg (not_not.mpr hgeneration),if_neg hchunks]

theorem current_of_index {w : Surroundings} (hcurrent : w.current = some published)
    (htenant : q.tenantRef = tenant) (hgraph : q.graphRef = graph) (hindex : q.indexRef = index) :
    requireCurrent w q = .ok published := by
  have hactive : published.state = .active := rfl
  have hsame : ¬(published.manifest.tenantRef ≠ q.tenantRef ∨ published.manifest.graphRef ≠ q.graphRef ∨
      published.manifest.generationId ≠ q.indexRef.generationId ∨ published.manifest.indexRef ≠ q.indexRef) := by
    rw [htenant,hgraph,hindex]
    rintro (h | h | h | h)
    · exact h rfl
    · exact h rfl
    · exact h rfl
    · exact h rfl
  unfold requireCurrent
  rw [hcurrent]
  dsimp only
  rw [if_neg (not_not.mpr hactive),if_neg hsame]

theorem searched (hindex : c.indexRef = index) (hallows : evidence.allows c.chunk = true) :
    search (surroundings [c]) request evidence =
      .ok ⟨request,evidence,[hitOf evidence 0 c],result_of_key hindex hallows⟩ := by
  have hverified : verifyCandidates request evidence [c] = .ok () := by
    have hlength : ¬maxHits < [c].length := by
      rw [List.length_singleton]
      decide
    have hrequested : c.indexRef = request.indexRef := hindex
    unfold verifyCandidates
    rw [if_neg hlength,verifyEach,if_neg (not_not.mpr hrequested),hallows,if_neg (by decide),
      if_neg List.not_mem_nil,verifyEach]
  have hcandidates : (surroundings [c]).candidates = some [c] := rfl
  unfold search
  rw [hcandidates]
  dsimp only
  rw [hverified]
  exact new_of_none (result_of_key hindex hallows)

theorem returned (hindex : c.indexRef = index) (hallows : evidence.allows c.chunk = true) :
    (retrieve (surroundings [c]) request ∅).1 =
      .ok ⟨request,evidence,[hitOf evidence 0 c],result_of_key hindex hallows⟩ := by
  have hevidence : (surroundings [c]).evidence = some evidence := rfl
  have hnow : (surroundings [c]).now = 100 := rfl
  have hlookup : lookup (surroundings [c]) request ∅ = none := by
    unfold lookup
    split_ifs
    · rfl
    · rfl
  have hsome : evidence.allowedChunks ≠ [] := List.cons_ne_nil _ _
  have hvalid : validateEvidence request published evidence 100 = .ok () :=
    valid_of_same (by decide) rfl rfl rfl rfl rfl (by decide +kernel)
  unfold retrieve
  rw [current_of_index rfl rfl rfl rfl,hevidence]
  dsimp only
  rw [hnow,hvalid,hlookup]
  dsimp only
  unfold compute
  rw [if_neg hsome,searched hindex hallows]
  rfl

theorem drifted_allowed : evidence.allows drifted.chunk = true := by decide +kernel

end Fixture

open Fixture in
/-- A retrieval without an impostor, which answers with what is allowed. -/
theorem retrieval_authorized_here :
    (∃ result, (retrieve (surroundings [honest]) request ∅).1 = .ok result ∧ result.hits.length = 1) ∧
    Along step (fun s call => ∀ evidence result, call.1.evidence = some evidence → (step s call).1 = .ok result →
      ∀ hit ∈ result.hits, hit.chunk ∈ evidence.allowedChunks) (∅ : RetrievalCache)
      [(surroundings [honest],request)] := by
  have hsafe : Along step NoImpostor (∅ : RetrievalCache) [(surroundings [honest],request)] := by
    refine ⟨⟨?_,?_⟩,trivial⟩
    · intro e candidates he hcandidates c hc _
      cases he
      cases hcandidates
      have hc : c ∈ [honest] := hc
      rw [List.mem_singleton.mp hc]
      exact List.mem_singleton_self _
    · intro e cached he hget
      cases hget
  exact ⟨⟨_,returned rfl (by decide +kernel),rfl⟩,(retrieval_authorized hsafe).1⟩

open Fixture in
/-- The key `manual:a:b` lets another document's chunk through, and a citation of the chunk that it hides. -/
theorem impostor_returned : ∃ result, (retrieve (surroundings [drifted]) request ∅).1 = .ok result ∧
    result.hits.map (·.chunk) = [impostor] ∧ impostor ∉ evidence.allowedChunks ∧
    ∃ record : CitationRecord, record.retrieval = result ∧ record.citations.map (·.chunk) = [allowed] ∧
      allowed ∉ result.hits.map (·.chunk) := by
  have hdiffer : impostor ≠ allowed := by
    intro h
    exact absurd (congrArg (fun c : ChunkRef => c.chunkId.1) h) (by decide)
  have hdrift : citationsDrift ⟨request,evidence,[hitOf evidence 0 drifted],result_of_key rfl drifted_allowed⟩
      [⟨tenant,request.requestId,allowed,revision,artifact digestA,generation,rfl,rfl,rfl⟩] = none := by
    rw [citationsDrift,if_neg (not_not.mpr rfl),if_neg (by decide +kernel),if_neg (by decide +kernel),
      citationsDrift]
  refine ⟨_,returned rfl drifted_allowed,rfl,?_,⟨⟨_,_,by decide,hdrift,List.nodup_singleton _⟩,rfl,rfl,?_⟩⟩
  · exact fun h => hdiffer (List.mem_singleton.mp h)
  · exact fun h => hdiffer (List.mem_singleton.mp h).symm

end GovernedRetriever
end Arbora.Retrieval
