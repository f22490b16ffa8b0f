import Arbora.Retrieval.AuthorizedHits

/-! With a bounded cache, retrievals answer what they answer without one, as long as the cache takes more. -/
namespace Arbora.Retrieval
open Machine

deriving instance DecidableEq for RankedHit, RetrievalResult

namespace GovernedRetriever

/-- What is the same at every call: the catalog, the clock, and what the authority and the engine answer. -/
structure Fixed where
  current : OpaqueRef → OpaqueRef → Option GenerationRecord
  now : ℤ
  authorize : RetrievalRequest → Option AuthorizationEvidence
  search : RetrievalRequest → AuthorizationEvidence → Option (List EngineCandidate)

def Fixed.around (F : Fixed) (request : RetrievalRequest) : Surroundings where
  current := F.current request.tenantRef request.graphRef
  now := F.now
  evidence := F.authorize request
  candidates := (F.authorize request).bind (F.search request)
  cached := false
  missed := false
  kept := false
  refused := false

/-- `InMemoryRetrievalCache.put` -/
def put (maxEntries : {n : ℕ // 1 ≤ n ∧ n ≤ 65536}) (result : RetrievalResult) (s : RetrievalCache) :
    Except String RetrievalCache :=
  match s.get result.request.requestDigest.1 with
  | some prior =>
    if prior ≠ result then .error "cache_identity_conflict" else .ok (s.set result.request.requestDigest.1 result)
  | none =>
    if maxEntries.1 ≤ s.keys.length then .error "cache_capacity_exceeded"
    else .ok (s.set result.request.requestDigest.1 result)

section
variable (F : Fixed) (maxEntries : {n : ℕ // 1 ≤ n ∧ n ≤ 65536})

def found (request : RetrievalRequest) (evidence : AuthorizationEvidence) : Except Raised RetrievalResult :=
  if evidence.allowedChunks = [] then RetrievalResult.new request evidence []
  else search (F.around request) request evidence

/-- The rest of `retrieve` once the cache has nothing to return. -/
def computeInto (request : RetrievalRequest) (evidence : AuthorizationEvidence) (s : RetrievalCache) :
    Except Raised RetrievalResult × RetrievalCache :=
  match found F request evidence with
  | .error e => (.error e,s)
  | .ok result =>
    match put maxEntries result s with
    | .error _ => (.error ⟨.retrievalDomain,"cache_write_failed"⟩,s)
    | .ok t => (.ok result,t)

/-- `retrieve` with an `InMemoryRetrievalCache`. -/
def retrieveInto (s : RetrievalCache) (request : RetrievalRequest) : Except Raised RetrievalResult × RetrievalCache :=
  match requireCurrent (F.around request) request with
  | .error e => (.error e,s)
  | .ok current =>
    match F.authorize request with
    | none => (.error ⟨.retrievalAuthorization,"acl_authorization_failed"⟩,s)
    | some evidence =>
      match validateEvidence request current evidence F.now with
      | .error e => (.error e,s)
      | .ok () =>
        match s.get request.requestDigest.1 with
        | none => computeInto F maxEntries request evidence s
        | some cached =>
          match validateCached cached request evidence current F.now with
          | .ok () => (.ok cached,s)
          | .error _ => computeInto F maxEntries request evidence (s.pop request.requestDigest.1)

/-- What a retriever without a cache answers. -/
def uncached (request : RetrievalRequest) : Except Raised RetrievalResult := (retrieve (F.around request) request ∅).1

def Crowded (s : RetrievalCache) (request : RetrievalRequest) : Prop :=
  (∃ result, uncached F request = .ok result) ∧ s.get request.requestDigest.1 = none ∧ maxEntries.1 ≤ s.keys.length

def Transparent (s : RetrievalCache) (request : RetrievalRequest) : Prop :=
  (Crowded F maxEntries s request → (retrieveInto F maxEntries s request).1 = .error ⟨.retrievalDomain,"cache_write_failed"⟩) ∧
    (¬Crowded F maxEntries s request → (retrieveInto F maxEntries s request).1 = uncached F request)

/-- What is kept is what the same request would be answered now. -/
structure Faithful (s : RetrievalCache) : Prop where
  same : ∀ key result, s.get key = some result →
    uncached F result.request = .ok result ∧ F.authorize result.request = some result.authorization
  bounded : s.keys.length ≤ maxEntries.1

end

section
variable {F : Fixed} {maxEntries : {n : ℕ // 1 ≤ n ∧ n ≤ 65536}} {s t : RetrievalCache} {request : RetrievalRequest}
  {current : GenerationRecord} {evidence : AuthorizationEvidence} {result : RetrievalResult}

theorem uncached_eq (hcurrent : requireCurrent (F.around request) request = .ok current)
    (hevidence : F.authorize request = some evidence) (hvalid : validateEvidence request current evidence F.now = .ok ()) :
    uncached F request = found F request evidence := by
  unfold uncached retrieve
  rw [hcurrent]
  have hauthorized : (F.around request).evidence = some evidence := hevidence
  have hnow : (F.around request).now = F.now := rfl
  rw [hauthorized]
  dsimp only
  rw [hnow,hvalid]
  have hlookup : lookup (F.around request) request ∅ = none := rfl
  rw [hlookup]
  dsimp only
  unfold compute found
  split
  · rename_i e he
    exact he.symm
  · rename_i result hresult
    exact hresult.symm

theorem found_eq (h : found F request evidence = .ok result) :
    result.request = request ∧ result.authorization = evidence := by
  unfold found at h
  split_ifs at h
  · exact (new_ok h).imp_right And.left
  · unfold search at h
    split at h
    · cases h
    · split at h
      · cases h
      · exact (new_ok h).imp_right And.left

theorem Faithful.pop (hs : Faithful F maxEntries s) (key : String) : Faithful F maxEntries (s.pop key) := by
  constructor
  · intro key' result' hget
    rw [Dict.get_pop] at hget
    split_ifs at hget
    exact hs.same key' result' hget
  · rw [Dict.pop,AList.keys_erase]
    exact (List.erase_sublist.length_le).trans hs.bounded

theorem length_pop (hget : s.get request.requestDigest.1 = some result) :
    (s.pop request.requestDigest.1).keys.length < s.keys.length := by
  have hkey : request.requestDigest.1 ∈ s.keys := Dict.mem_keys.mpr (by rw [hget]; exact Option.some_ne_none _)
  rw [Dict.pop,AList.keys_erase,List.length_erase_of_mem hkey]
  exact Nat.sub_lt (List.length_pos_of_mem hkey) Nat.one_pos

theorem Faithful.set (hs : Faithful F maxEntries s) (hresult : uncached F result.request = .ok result)
    (hevidence : F.authorize result.request = some result.authorization)
    (hroom : s.keys.length < maxEntries.1) : Faithful F maxEntries (s.set result.request.requestDigest.1 result) := by
  constructor
  · intro key result' hget
    rw [Dict.get_set] at hget
    split_ifs at hget
    · cases hget
      exact ⟨hresult,hevidence⟩
    · exact hs.same key result' hget
  · rw [Dict.set,AList.keys_insert,List.length_cons]
    have herase := (List.erase_sublist (a := result.request.requestDigest.1) (l := s.keys)).length_le
    omega

theorem computeInto_room (hs : Faithful F maxEntries s) (huncached : uncached F request = found F request evidence)
    (hevidence : F.authorize request = some evidence) (hnone : s.get request.requestDigest.1 = none)
    (hroom : s.keys.length < maxEntries.1) : (computeInto F maxEntries request evidence s).1 = uncached F request ∧
      Faithful F maxEntries (computeInto F maxEntries request evidence s).2 := by
  unfold computeInto
  rw [huncached]
  cases hfound : found F request evidence with
  | error e => exact ⟨rfl,hs⟩
  | ok result =>
    obtain ⟨hrequest,hauthorization⟩ := found_eq hfound
    have hput : put maxEntries result s = .ok (s.set result.request.requestDigest.1 result) := by
      unfold put
      rw [hrequest,hnone]
      exact if_neg (Nat.not_le.mpr hroom)
    dsimp only
    rw [hput]
    refine ⟨rfl,hs.set ?_ ?_ hroom⟩
    · rw [hrequest,huncached,hfound]
    · rw [hrequest,hauthorization,hevidence]

theorem computeInto_full (hnone : s.get request.requestDigest.1 = none) (hfull : maxEntries.1 ≤ s.keys.length)
    (hfound : found F request evidence = .ok result) :
    computeInto F maxEntries request evidence s = (.error ⟨.retrievalDomain,"cache_write_failed"⟩,s) := by
  have hput : put maxEntries result s = .error "cache_capacity_exceeded" := by
    unfold put
    rw [(found_eq hfound).1,hnone]
    exact if_pos hfull
  unfold computeInto
  rw [hfound]
  dsimp only
  rw [hput]

theorem transparent_of_eq (h : (retrieveInto F maxEntries s request).1 = uncached F request)
    (hfree : ¬Crowded F maxEntries s request) : Transparent F maxEntries s request :=
  ⟨fun hcrowded => absurd hcrowded hfree,fun _ => h⟩

theorem retrieveInto_new (hcurrent : requireCurrent (F.around request) request = .ok current)
    (hevidence : F.authorize request = some evidence) (hvalid : validateEvidence request current evidence F.now = .ok ())
    (hget : s.get request.requestDigest.1 = none) :
    retrieveInto F maxEntries s request = computeInto F maxEntries request evidence s := by
  unfold retrieveInto
  simp only [hcurrent,hevidence,hvalid,hget]

theorem validated_transparent (hs : Faithful F maxEntries s)
    (hcurrent : requireCurrent (F.around request) request = .ok current)
    (hevidence : F.authorize request = some evidence) (hvalid : validateEvidence request current evidence F.now = .ok ()) :
    Transparent F maxEntries s request ∧ Faithful F maxEntries (retrieveInto F maxEntries s request).2 := by
  have huncached := uncached_eq hcurrent hevidence hvalid
  cases hget : s.get request.requestDigest.1 with
  | none =>
    have hinto : retrieveInto F maxEntries s request = _ := retrieveInto_new hcurrent hevidence hvalid hget
    by_cases hroom : s.keys.length < maxEntries.1
    · obtain ⟨hanswer,hkept⟩ := computeInto_room hs huncached hevidence hget hroom
      rw [← hinto] at hanswer hkept
      exact ⟨transparent_of_eq hanswer fun hcrowded => absurd hroom (Nat.not_lt.mpr hcrowded.2.2),hkept⟩
    · cases hfound : found F request evidence with
      | error e =>
        have hrefused : computeInto F maxEntries request evidence s = (.error e,s) := by
          unfold computeInto
          rw [hfound]
        have hfree : ¬Crowded F maxEntries s request := by
          rintro ⟨⟨result,hresult⟩,_⟩
          rw [huncached,hfound] at hresult
          cases hresult
        rw [hfound] at huncached
        rw [hinto,hrefused]
        refine ⟨transparent_of_eq ?_ hfree,hs⟩
        rw [hinto,hrefused,huncached]
      | ok result =>
        have hcrowded : Crowded F maxEntries s request :=
          ⟨⟨result,huncached.trans hfound⟩,hget,Nat.le_of_not_lt hroom⟩
        have hrefused := computeInto_full hget hcrowded.2.2 hfound
        rw [hinto,hrefused]
        refine ⟨⟨fun _ => ?_,fun hfree => absurd hcrowded hfree⟩,hs⟩
        rw [hinto,hrefused]
  | some cached =>
    have hfree : ¬Crowded F maxEntries s request := by
      rintro ⟨_,hnone,_⟩
      rw [hget] at hnone
      cases hnone
    by_cases hsame : cached.request = request
    · obtain ⟨hanswer,hown⟩ := hs.same _ cached hget
      rw [hsame] at hanswer hown
      cases hevidence.symm.trans hown
      have haccepted : validateCached cached request cached.authorization current F.now = .ok () := by
        unfold validateCached
        rw [if_neg (not_not.mpr hsame),if_neg (not_not.mpr rfl),hvalid]
      have hinto : retrieveInto F maxEntries s request = (.ok cached,s) := by
        unfold retrieveInto
        simp only [hcurrent,hevidence,hvalid,hget,haccepted]
      rw [hinto]
      refine ⟨transparent_of_eq ?_ hfree,hs⟩
      rw [hinto,hanswer]
    · -- The digest is that of another request, whose result makes room.
      have hdropped : validateCached cached request evidence current F.now =
          .error ⟨.retrievalDomain,"cache_request_drift"⟩ := if_pos hsame
      have hinto : retrieveInto F maxEntries s request =
          computeInto F maxEntries request evidence (s.pop request.requestDigest.1) := by
        unfold retrieveInto
        simp only [hcurrent,hevidence,hvalid,hget,hdropped]
      obtain ⟨hanswer,hkept⟩ := computeInto_room (hs.pop _) huncached hevidence (Dict.get_pop_self _ _)
        (lt_of_lt_of_le (length_pop hget) hs.bounded)
      rw [← hinto] at hanswer hkept
      exact ⟨transparent_of_eq hanswer hfree,hkept⟩

theorem refused_transparent {e : Raised} (hs : Faithful F maxEntries s)
    (hinto : retrieveInto F maxEntries s request = (.error e,s)) (huncached : uncached F request = .error e) :
    Transparent F maxEntries s request ∧ Faithful F maxEntries (retrieveInto F maxEntries s request).2 := by
  have hfree : ¬Crowded F maxEntries s request := by
    rintro ⟨⟨result,hresult⟩,_⟩
    rw [huncached] at hresult
    cases hresult
  rw [hinto]
  refine ⟨transparent_of_eq ?_ hfree,hs⟩
  rw [hinto,huncached]

theorem retrieveInto_transparent (s : RetrievalCache) (request : RetrievalRequest) (hs : Faithful F maxEntries s) :
    Transparent F maxEntries s request ∧ Faithful F maxEntries (retrieveInto F maxEntries s request).2 := by
  have haround : (F.around request).evidence = F.authorize request ∧ (F.around request).now = F.now := ⟨rfl,rfl⟩
  cases hcurrent : requireCurrent (F.around request) request with
  | error e =>
    apply refused_transparent hs (e := e)
    · simp only [retrieveInto,hcurrent]
    · simp only [uncached,retrieve,hcurrent]
  | ok current =>
    cases hevidence : F.authorize request with
    | none =>
      apply refused_transparent hs (e := ⟨.retrievalAuthorization,"acl_authorization_failed"⟩)
      · simp only [retrieveInto,hcurrent,hevidence]
      · simp only [uncached,retrieve,hcurrent,haround,hevidence]
    | some evidence =>
      cases hvalid : validateEvidence request current evidence F.now with
      | error e =>
        apply refused_transparent hs (e := e)
        · simp only [retrieveInto,hcurrent,hevidence,hvalid]
        · simp only [uncached,retrieve,hcurrent,haround,hevidence,hvalid]
      | ok _ => exact validated_transparent hs hcurrent hevidence hvalid

/-- In every run each retrieval answers as it would without a cache, but for a new result when the cache is full. -/
theorem cache_transparent (F : Fixed) (maxEntries : {n : ℕ // 1 ≤ n ∧ n ≤ 65536}) (requests : List RetrievalRequest) :
    Along (retrieveInto F maxEntries) (Transparent F maxEntries) ∅ requests := by
  have hempty : Faithful F maxEntries ∅ := by
    refine ⟨fun key result hget => ?_,Nat.zero_le _⟩
    cases hget
  have hall : Along (retrieveInto F maxEntries) (fun _ _ => True) ∅ requests := .of_forall fun _ _ => trivial
  exact hall.conclude (fun s request hs _ => (retrieveInto_transparent s request hs).2)
    (fun s request hs _ => (retrieveInto_transparent s request hs).1) hempty

end

namespace Fixture

def denial (q : RetrievalRequest) : AuthorizationEvidence where
  authorizationId := ⟨"acl:denied",by decide +kernel⟩
  requestId := q.requestId
  tenantRef := q.tenantRef
  graphRef := q.graphRef
  indexRef := q.indexRef
  generationId := q.indexRef.generationId
  policyRef := evidence.policyRef
  allowedChunks := []
  deniedCount := evidence.deniedCount
  evaluatedAt := 90
  expiresAt := 120
  bounded := by decide
  expiry := evidence.expiry
  indexTenant := q.indexTenant
  indexGraph := q.indexGraph
  indexGeneration := rfl
  chunkTenant _ h := nomatch h
  chunkGraph _ h := nomatch h
  chunkGeneration _ h := nomatch h
  distinct := List.nodup_nil

def denying : Fixed := ⟨fun _ _ => some published,100,fun q => some (denial q),fun _ _ => none⟩
def nextRequest : RetrievalRequest := {request with requestId := ⟨"request:two",by decide +kernel⟩}

theorem next_digest : nextRequest.requestDigest.1 ≠ request.requestDigest.1 := by decide +kernel

theorem denial_valid {q : RetrievalRequest} (hindex : q.indexRef = index) :
    validateEvidence q published (denial q) denying.now = .ok () :=
  valid_of_same (by decide : ¬((100 : ℤ) < ((90 : ℕ) : ℤ) ∨ ((120 : ℕ) : ℤ) ≤ 100)) rfl rfl rfl rfl
    (congrArg IndexRef.generationId hindex) Bool.false_ne_true

theorem denying_found (q : RetrievalRequest) : ∃ result, found denying q (denial q) = .ok result := by
  have hdrift : resultDrift q (denial q) [] = none := by
    unfold resultDrift
    rw [identityDrift_none rfl rfl rfl rfl rfl]
    exact if_neg (Nat.not_lt_zero _)
  exact ⟨_,(if_pos rfl).trans (new_of_none hdrift)⟩

end Fixture

open Fixture in
/-- The second request finds a cache of one entry full, where a retriever without a cache answers it. -/
theorem second_request_refused : ¬Along (retrieveInto denying ⟨1,by decide⟩)
    (fun s request => (retrieveInto denying ⟨1,by decide⟩ s request).1 = uncached denying request) ∅
    [request,nextRequest] := by
  obtain ⟨result,hresult⟩ := denying_found request
  obtain ⟨nextResult,hnextResult⟩ := denying_found nextRequest
  have hcurrent : ∀ q : RetrievalRequest, q.tenantRef = tenant → q.graphRef = graph → q.indexRef = index →
      requireCurrent (denying.around q) q = .ok published := fun q => current_of_index rfl
  have hevidence : ∀ q, denying.authorize q = some (denial q) := fun _ => rfl
  have hput : put ⟨1,by decide⟩ result ∅ = .ok ((∅ : RetrievalCache).set request.requestDigest.1 result) := by
    unfold put
    rw [(found_eq hresult).1]
    rfl
  have hfirst : (retrieveInto denying ⟨1,by decide⟩ ∅ request).2 =
      (∅ : RetrievalCache).set request.requestDigest.1 result := by
    rw [retrieveInto_new (hcurrent request rfl rfl rfl) (hevidence request) (denial_valid rfl) (Dict.get_empty _)]
    unfold computeInto
    rw [hresult]
    dsimp only
    rw [hput]
  have hfresh : ((∅ : RetrievalCache).set request.requestDigest.1 result).get nextRequest.requestDigest.1 = none := by
    rw [Dict.get_set_ne _ _ next_digest,Dict.get_empty]
  have hsecond : (retrieveInto denying ⟨1,by decide⟩ ((∅ : RetrievalCache).set request.requestDigest.1 result)
      nextRequest).1 = .error ⟨.retrievalDomain,"cache_write_failed"⟩ := by
    have hlength : 1 ≤ ((∅ : RetrievalCache).set request.requestDigest.1 result).keys.length := by
      rw [Dict.set,AList.keys_insert,List.length_cons]
      exact Nat.le_add_left 1 _
    rw [retrieveInto_new (hcurrent nextRequest rfl rfl rfl) (hevidence nextRequest) (denial_valid rfl) hfresh,
      computeInto_full hfresh hlength hnextResult]
  rintro ⟨_,hsame,_⟩
  rw [hfirst,hsecond,uncached_eq (hcurrent nextRequest rfl rfl rfl) rfl (denial_valid rfl),hnextResult] at hsame
  cases hsame

end GovernedRetriever
end Arbora.Retrieval
