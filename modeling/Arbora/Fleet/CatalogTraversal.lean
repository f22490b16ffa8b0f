import Arbora.Lib.Checks
import Arbora.Lib.Dict
import Arbora.Lib.Keyset
import Arbora.OAuth.Models
import Mathlib.Algebra.Ring.Nat
import Mathlib.Data.Finset.Basic
import Mathlib.Data.Prod.Lex

/-! The fleet catalog: the items of several sources merged for one caller, searched page by page or looked up by id. -/
namespace Arbora.Fleet
open Keyset (sortBy)
open OAuth (words)

section
variable {Mapping : Type} [DecidableEq Mapping] [EmptyCollection Mapping]

inductive ItemKind
  | tool | prompt | resource | resourceTemplate | skill | connectorItem
  deriving DecidableEq

inductive CredentialMode
  | delegated | service
  deriving DecidableEq

structure CatalogItem (Mapping : Type) [EmptyCollection Mapping] where
  id : String
  kind : ItemKind
  name : String
  description : String := ""
  server : Option String := none
  schema : Mapping := ∅
  schemaFingerprint : Option String := none
  requiredScopes : Finset String := ∅
  body : Option String := none
  op : Option String := none
  params : Mapping := ∅
  annotations : Option Mapping := none
  effectOverride : Option String := none
  credentialMode : CredentialMode := .delegated
  executorScopes : Finset String := ∅
  subjectId : Option String := none
  deriving DecidableEq

/-- What discovery tells of an item; an absent key is `none`. -/
structure PublicItem (Mapping : Type) where
  id : String
  kind : ItemKind
  (name description : String)
  server : Option String
  inputSchema : Option Mapping
  schemaFingerprint : Option String
  operation : Option (String × Mapping)

def CatalogItem.public (item : CatalogItem Mapping) : PublicItem Mapping where
  id := item.id
  kind := item.kind
  name := item.name
  description := item.description
  server := item.server
  inputSchema := if item.schema = ∅ then none else some item.schema
  schemaFingerprint := item.schemaFingerprint
  operation := item.op.map fun op => (op,item.params)

def occurs (term text : String) : Bool := decide (term.toList <:+: text.toList)

def rank (lower : String → String) (item : CatalogItem Mapping) (query : String) : ℕ :=
  let terms := words (lower query)
  let text := lower (item.name ++ " " ++ item.description ++ " " ++ item.server.getD "")
  ((terms.filter fun term => occurs term text).map fun term => if occurs term (lower item.name) then 3 else 1).sum

end

section
variable {Mapping Identity : Type} [DecidableEq Mapping] [EmptyCollection Mapping] (lower : String → String)

structure SearchRequest where
  query : String := ""
  kinds : List ItemKind := []
  servers : List String := []
  browse : Bool := false
  cursor : Option String := none
  limit : ℤ := 20
  contextBudgetTokens : Option ℤ := none

structure SearchAnswer (Mapping : Type) where
  items : List (PublicItem Mapping)
  nextCursor : Option String

structure Caller (Identity : Type) where
  identity : Identity
  effectiveScopes : Finset String

structure FleetCatalog (Mapping Identity : Type) [EmptyCollection Mapping] where
  sources : List (List (CatalogItem Mapping))
  visible : CatalogItem Mapping → Caller Identity → Bool

open Checks (refuse)

def validateSearchRequest (request : SearchRequest) : Except String Unit := do
  refuse (request.query = "" ∧ request.browse = false) "query or browse=true is required"
  refuse (¬(1 ≤ request.limit ∧ request.limit ≤ 100)) "limit must be in 1..100"
  refuse (∃ budget ∈ request.contextBudgetTokens, budget < 1) "context budget must be positive"

def passesFilters (item : CatalogItem Mapping) (kindFilter : List ItemKind) (serverFilter : List String)
    (query : String) : Bool :=
  if kindFilter ≠ [] ∧ item.kind ∉ kindFilter then false
  else if serverFilter ≠ [] ∧ ∀ server ∈ item.server, server ∉ serverFilter then false
  else decide ¬(query ≠ "" ∧ rank lower item query = 0)

def paginate (items : List (CatalogItem Mapping)) (cursor : Option String) (limit : ℕ) :
    Except String (List (CatalogItem Mapping) × Option String) := do
  let ids := items.map (·.id)
  refuse (∃ c ∈ cursor, c ∉ ids) "catalog cursor expired"
  let start := match cursor with
    | none => 0
    | some c => ids.idxOf c + 1
  let page := (items.drop start).take limit
  return (page,if start + limit < items.length then page.getLast?.map (·.id) else none)

/-- What `_matching_items` does with an authorized item that passes the filters. -/
def addMatched (matched : Dict String (CatalogItem Mapping)) (item : CatalogItem Mapping) :
    Except String (Dict String (CatalogItem Mapping)) := do
  refuse (∃ previous ∈ matched.get item.id, previous ≠ item) ("conflicting fleet descriptor: " ++ item.id)
  return matched.set item.id item

def searchKey (query : String) (item : CatalogItem Mapping) : ℤ ×ₗ String :=
  toLex (-(rank lower item query : ℤ),item.id)

def pageLimit (request : SearchRequest) : ℤ :=
  match request.contextBudgetTokens with
  | none => request.limit
  | some budget => min request.limit (max 1 (budget / 80))

namespace FleetCatalog
variable (catalog : FleetCatalog Mapping Identity) (caller : Caller Identity)

def items : List (CatalogItem Mapping) := catalog.sources.flatten

def authorized (item : CatalogItem Mapping) : Bool :=
  decide ("mcp:discover" ∈ caller.effectiveScopes) && decide (item.requiredScopes ⊆ caller.effectiveScopes) &&
    catalog.visible item caller

def rawGet (itemId : String) : Option (CatalogItem Mapping) := catalog.items.find? fun item => item.id = itemId
def get (itemId : String) : Option (CatalogItem Mapping) :=
  (catalog.rawGet itemId).filter fun item => catalog.authorized caller item
def Matches (request : SearchRequest) (item : CatalogItem Mapping) : Bool :=
  passesFilters lower item request.kinds request.servers request.query && catalog.authorized caller item
def matchingItems (request : SearchRequest) : Except String (Dict String (CatalogItem Mapping)) :=
  (catalog.items.filter (catalog.Matches lower caller request)).foldlM addMatched ∅

def search (request : SearchRequest) : Except String (SearchAnswer Mapping) := do
  validateSearchRequest request
  let matched ← catalog.matchingItems lower caller request
  let items := sortBy (searchKey lower request.query) matched.values
  let (page,nextCursor) ← paginate items request.cursor (pageLimit request).toNat
  return {items := page.map CatalogItem.public,nextCursor}

end FleetCatalog

end

/-! Following the cursors of a search to its end, and what looking an item up by its id adds to that. -/
open Checks (refuse_bind_ok bind_ok)

variable {Mapping Identity : Type} [EmptyCollection Mapping] {lower : String → String}

section
variable {items : List (CatalogItem Mapping)} {cursor : Option String} {limit : ℕ}

/-- The items a search with the cursor starts from. -/
def remaining (items : List (CatalogItem Mapping)) : Option String → List (CatalogItem Mapping)
  | none => items
  | some c => items.drop ((items.map (·.id)).idxOf c + 1)

def nextCursor (rest : List (CatalogItem Mapping)) (limit : ℕ) : Option String :=
  if limit < rest.length then (rest.take limit).getLast?.map (·.id) else none

theorem paginate_eq (hcursor : ∀ c ∈ cursor, c ∈ items.map (·.id)) : paginate items cursor limit =
      .ok ((remaining items cursor).take limit,nextCursor (remaining items cursor) limit) := by
  have hfresh : ¬∃ c ∈ cursor, c ∉ items.map (·.id) := fun ⟨c,hc,hout⟩ => hout (hcursor c hc)
  simp only [paginate,Checks.refuse,if_neg hfresh]
  cases cursor with
  | none =>
    simp only [remaining,nextCursor,List.drop_zero,zero_add]
    rfl
  | some c =>
    have hiff : (items.map (·.id)).idxOf c + 1 + limit < items.length ↔
        limit < (items.drop ((items.map (·.id)).idxOf c + 1)).length := by
      rw [List.length_drop]
      omega
    simp only [remaining,nextCursor,hiff]
    rfl

theorem remaining_append {before behind : List (CatalogItem Mapping)} {item : CatalogItem Mapping}
    (hitems : items = before ++ item :: behind) (hids : (items.map (·.id)).Nodup) :
    remaining items (some item.id) = behind := by
  have hnot : item.id ∉ before.map (·.id) := by
    rw [hitems,List.map_append,List.nodup_append] at hids
    intro hmem
    exact hids.2.2 _ hmem _ (by simp) rfl
  have hindex : (items.map (·.id)).idxOf item.id = before.length := by
    rw [hitems,List.map_append,List.map_cons,List.idxOf_append_of_notMem hnot,List.idxOf_cons_self,
      List.length_map,add_zero]
  simp only [remaining,hindex]
  rw [hitems,List.drop_append,List.drop_eq_nil_of_le (Nat.le_succ _),List.nil_append,
    Nat.add_sub_cancel_left,List.drop_succ_cons,List.drop_zero]

theorem remaining_suffix : ∃ before, items = before ++ remaining items cursor := by
  cases cursor with
  | none => exact ⟨[],rfl⟩
  | some c => exact ⟨_,(List.take_append_drop _ items).symm⟩

theorem nextCursor_some {c : String} (hids : (items.map (·.id)).Nodup)
    (h : nextCursor (remaining items cursor) limit = some c) :
    limit < (remaining items cursor).length ∧ c ∈ items.map (·.id) ∧
      remaining items (some c) = (remaining items cursor).drop limit := by
  unfold nextCursor at h
  split_ifs at h with hlt
  obtain ⟨item,hlast,rfl⟩ := Option.map_eq_some_iff.mp h
  obtain ⟨front,hfront⟩ := List.getLast?_eq_some_iff.mp hlast
  obtain ⟨before,hbefore⟩ : ∃ before, items = before ++ remaining items cursor := remaining_suffix
  have hitems : items = (before ++ front) ++ item :: (remaining items cursor).drop limit := by
    calc
      items = before ++ remaining items cursor := hbefore
      _ = before ++ ((remaining items cursor).take limit ++ (remaining items cursor).drop limit) := by
        rw [List.take_append_drop]
      _ = (before ++ front) ++ item :: (remaining items cursor).drop limit := by
        rw [hfront]
        simp
  refine ⟨hlt,?_,remaining_append hitems hids⟩
  rw [hitems]
  simp

theorem nextCursor_none (hlimit : 0 < limit) {rest : List (CatalogItem Mapping)} (h : nextCursor rest limit = none) :
    rest.length ≤ limit := by
  unfold nextCursor at h
  split_ifs at h with hlt
  · rw [Option.map_eq_none_iff,List.getLast?_eq_none_iff,List.take_eq_nil_iff] at h
    rcases h with hzero | hnil
    · omega
    · rw [hnil]
      exact Nat.zero_le _
  · omega

end

section
variable [DecidableEq Mapping] {matched matched' : Dict String (CatalogItem Mapping)} {item : CatalogItem Mapping}

def Filed (matched : Dict String (CatalogItem Mapping)) : Prop := ∀ k v, matched.get k = some v → k = v.id

theorem addMatched_ok (h : addMatched matched item = .ok matched') :
    (∀ previous ∈ matched.get item.id, previous = item) ∧ matched' = matched.set item.id item := by
  obtain ⟨hsame,hset⟩ := refuse_bind_ok.mp h
  refine ⟨fun previous hprevious => ?_,(Except.ok.inj hset).symm⟩
  by_contra hne
  exact hsame ⟨previous,hprevious,hne⟩

omit [DecidableEq Mapping] in
theorem Filed.set (h : Filed matched) : Filed (matched.set item.id item) := by
  intro k v hv
  rw [Dict.get_set] at hv
  split_ifs at hv with hk
  · rw [hk,Option.some.inj hv]
  · exact h k v hv

theorem get_addMatched (h : addMatched matched item = .ok matched') (v : CatalogItem Mapping) :
    matched'.get v.id = some v ↔ matched.get v.id = some v ∨ v = item := by
  obtain ⟨hsame,rfl⟩ := addMatched_ok h
  rw [Dict.get_set]
  by_cases hid : v.id = item.id
  · rw [if_pos hid]
    constructor
    · intro hitem
      exact .inr (Option.some.inj hitem).symm
    · rintro (hv | rfl)
      · rw [hid] at hv
        rw [hsame v hv]
      · rfl
  · rw [if_neg hid]
    constructor
    · exact .inl
    · rintro (hv | rfl)
      · exact hv
      · exact absurd rfl hid

theorem foldlM_addMatched {found : List (CatalogItem Mapping)} (hfiled : Filed matched)
    (h : found.foldlM addMatched matched = .ok matched') :
    Filed matched' ∧ ∀ v, matched'.get v.id = some v ↔ matched.get v.id = some v ∨ v ∈ found := by
  induction found generalizing matched with
  | nil =>
    cases h
    exact ⟨hfiled,fun v => by simp⟩
  | cons item rest ih =>
    obtain ⟨next,hadd,hrest⟩ := bind_ok.mp h
    have hnext : Filed next := by
      rw [(addMatched_ok hadd).2]
      exact hfiled.set
    obtain ⟨hfinal,hget⟩ := ih hnext hrest
    refine ⟨hfinal,fun v => ?_⟩
    rw [hget v,get_addMatched hadd v,List.mem_cons,or_assoc]

end

section
variable [DecidableEq Mapping] (lower) (catalog : FleetCatalog Mapping Identity) (caller : Caller Identity)

structure Paging where
  limit : ℤ := 20
  contextBudgetTokens : Option ℤ := none

def SearchRequest.paged (request : SearchRequest) (cursor : Option String) (paging : Paging) : SearchRequest :=
  {request with cursor,limit := paging.limit,contextBudgetTokens := paging.contextBudgetTokens}

/-- Following `next_cursor` from a cursor to the end, each call with the next limit and budget: what is returned. -/
inductive Traverses (request : SearchRequest) : (ℕ → Paging) → Option String → List (PublicItem Mapping) → Prop
  | last {pagings cursor page} (h : catalog.search lower caller (request.paged cursor (pagings 0)) = .ok ⟨page,none⟩) :
      Traverses request pagings cursor page
  | more {pagings cursor page c rest}
      (h : catalog.search lower caller (request.paged cursor (pagings 0)) = .ok ⟨page,some c⟩)
      (hrest : Traverses request (fun k => pagings (k + 1)) (some c) rest) :
      Traverses request pagings cursor (page ++ rest)

/-- Calls none of which is refused for its limit or its budget. -/
def Valid (request : SearchRequest) (pagings : ℕ → Paging) : Prop :=
  ∀ k, validateSearchRequest (request.paged none (pagings k)) = .ok ()

def Lossless (request : SearchRequest) (out : List (PublicItem Mapping)) : Prop :=
  ∃ items : List (CatalogItem Mapping), out = items.map CatalogItem.public ∧
    items.Pairwise (fun a b => searchKey lower request.query a < searchKey lower request.query b) ∧
    (items.map (·.id)).Nodup ∧
    ∀ item, item ∈ items ↔ item ∈ catalog.items ∧ catalog.Matches lower caller request item

variable {lower catalog caller} {request : SearchRequest} {matched : Dict String (CatalogItem Mapping)}
  {pagings : ℕ → Paging} {cursor : Option String} {out : List (PublicItem Mapping)}

theorem matching_ok (h : catalog.matchingItems lower caller request = .ok matched) :
    Filed matched ∧ ∀ item, matched.get item.id = some item ↔
      item ∈ catalog.items ∧ catalog.Matches lower caller request item := by
  have hempty : Filed (∅ : Dict String (CatalogItem Mapping)) := by
    intro k v hv
    cases hv
  obtain ⟨hfiled,hget⟩ := foldlM_addMatched hempty h
  refine ⟨hfiled,fun item => ?_⟩
  rw [hget item,Dict.get_empty,List.mem_filter]
  simp

def sorted (lower : String → String) (request : SearchRequest) (matched : Dict String (CatalogItem Mapping)) :
    List (CatalogItem Mapping) := sortBy (searchKey lower request.query) matched.values

omit [DecidableEq Mapping] in
theorem nodup_sorted (hfiled : Filed matched) : ((sorted lower request matched).map (·.id)).Nodup :=
  ((Keyset.sortBy_perm _).map _).nodup_iff.mpr (Dict.nodup_values hfiled)

theorem mem_sorted (h : catalog.matchingItems lower caller request = .ok matched) (item : CatalogItem Mapping) :
    item ∈ sorted lower request matched ↔ item ∈ catalog.items ∧ catalog.Matches lower caller request item := by
  obtain ⟨hfiled,hget⟩ := matching_ok h
  unfold sorted
  rw [Keyset.mem_sortBy,Dict.mem_values,← hget item]
  constructor
  · rintro ⟨k,hk⟩
    rw [← hfiled k item hk]
    exact hk
  · intro hitem
    exact ⟨item.id,hitem⟩

theorem strict_sorted (h : catalog.matchingItems lower caller request = .ok matched) :
    (sorted lower request matched).Pairwise fun a b =>
      searchKey lower request.query a < searchKey lower request.query b := by
  refine Keyset.strict_sortBy (List.Nodup.of_map (fun key : ℤ ×ₗ String => (ofLex key).2) ?_)
  rw [List.map_map]
  exact Dict.nodup_values (matching_ok h).1

theorem lossless_sorted (h : catalog.matchingItems lower caller request = .ok matched) :
    Lossless lower catalog caller request ((sorted lower request matched).map CatalogItem.public) :=
  ⟨_,rfl,strict_sorted h,nodup_sorted (matching_ok h).1,mem_sorted h⟩

theorem pageLimit_pos (h : validateSearchRequest request = .ok ()) : 0 < (pageLimit request).toNat := by
  obtain ⟨_,hrest⟩ := refuse_bind_ok.mp h
  obtain ⟨hlimit,_⟩ := refuse_bind_ok.mp hrest
  unfold pageLimit
  cases request.contextBudgetTokens with
  | none =>
    simp only
    omega
  | some budget =>
    simp only
    omega

theorem search_paged {paging : Paging} (hvalid : validateSearchRequest (request.paged none paging) = .ok ())
    (hmatched : catalog.matchingItems lower caller request = .ok matched)
    (hcursor : ∀ c ∈ cursor, c ∈ (sorted lower request matched).map (·.id)) :
    ∃ limit, 0 < limit ∧ catalog.search lower caller (request.paged cursor paging) =
      .ok ⟨((remaining (sorted lower request matched) cursor).take limit).map CatalogItem.public,
        nextCursor (remaining (sorted lower request matched) cursor) limit⟩ := by
  refine ⟨(pageLimit (request.paged none paging)).toNat,pageLimit_pos hvalid,?_⟩
  have hvalid' : validateSearchRequest (request.paged cursor paging) = .ok () := hvalid
  have hmatched' : catalog.matchingItems lower caller (request.paged cursor paging) = .ok matched := hmatched
  unfold FleetCatalog.search
  rw [hvalid',hmatched']
  change (paginate (sorted lower request matched) cursor (pageLimit (request.paged none paging)).toNat >>= _) = _
  rw [paginate_eq hcursor]
  rfl

theorem traverses_iff (hmatched : catalog.matchingItems lower caller request = .ok matched)
    (hvalid : Valid request pagings) (hcursor : ∀ c ∈ cursor, c ∈ (sorted lower request matched).map (·.id)) :
    Traverses lower catalog caller request pagings cursor out ↔
      out = (remaining (sorted lower request matched) cursor).map CatalogItem.public := by
  induction hleft : (remaining (sorted lower request matched) cursor).length using Nat.strong_induction_on
    generalizing pagings cursor out with
  | _ left ih =>
    obtain ⟨limit,hlimit,hsearch⟩ := search_paged (hvalid 0) hmatched hcursor
    have hids : ((sorted lower request matched).map (·.id)).Nodup := nodup_sorted (matching_ok hmatched).1
    cases hnext : nextCursor (remaining (sorted lower request matched) cursor) limit with
    | none =>
      rw [hnext,List.take_of_length_le (nextCursor_none hlimit hnext)] at hsearch
      constructor
      · intro h
        cases h with
        | last h =>
          rw [hsearch] at h
          cases h
          rfl
        | more h =>
          rw [hsearch] at h
          cases h
      · rintro rfl
        exact .last hsearch
    | some c =>
      obtain ⟨hlt,hc,hbehind⟩ := nextCursor_some hids hnext
      have hvalid' : Valid request fun k => pagings (k + 1) := fun k => hvalid (k + 1)
      have hc' : ∀ c' ∈ some c, c' ∈ (sorted lower request matched).map (·.id) := by
        rintro c' ⟨⟩
        exact hc
      have hless : (remaining (sorted lower request matched) (some c)).length < left := by
        rw [hbehind,List.length_drop]
        omega
      have hrest : ∀ out, Traverses lower catalog caller request (fun k => pagings (k + 1)) (some c) out ↔ _ :=
        fun out => ih _ hless hvalid' hc' rfl
      rw [hnext] at hsearch
      have hsplit := List.take_append_drop limit (remaining (sorted lower request matched) cursor)
      constructor
      · intro h
        cases h with
        | last h =>
          rw [hsearch] at h
          cases h
        | more h hmore =>
          rw [hsearch] at h
          cases h
          rw [(hrest _).mp hmore,hbehind,← List.map_append,hsplit]
      · rintro rfl
        rw [← hsplit,List.map_append,← hbehind]
        exact .more hsearch ((hrest _).mpr rfl)

/-- Nothing is lost by a traversal: every request that is not refused, every sequence of limits and budgets. -/
theorem traversal_lossless {paging : Paging} {answer : SearchAnswer Mapping}
    (h : catalog.search lower caller (request.paged none paging) = .ok answer) :
    ∃ matched, catalog.matchingItems lower caller request = .ok matched ∧
      validateSearchRequest (request.paged none paging) = .ok () ∧ ∀ pagings, Valid request pagings → ∀ out,
        Traverses lower catalog caller request pagings none out ↔
          out = (sorted lower request matched).map CatalogItem.public := by
  obtain ⟨_,hvalid,hrest⟩ := bind_ok.mp h
  obtain ⟨matched,hmatched,_⟩ := bind_ok.mp hrest
  refine ⟨matched,hmatched,hvalid,fun pagings hpagings out => ?_⟩
  exact traverses_iff hmatched hpagings (by simp)

end

section
variable [DecidableEq Mapping] {catalog other : FleetCatalog Mapping Identity} {caller caller' : Caller Identity}
  {request : SearchRequest} {matched : Dict String (CatalogItem Mapping)} {answer : SearchAnswer Mapping}

/-- What stands or is found under the id of an item that is found is that item. -/
def Agreeing (matched : Dict String (CatalogItem Mapping)) (found : List (CatalogItem Mapping)) : Prop :=
  ∀ item ∈ found, ∀ v, matched.get item.id = some v ∨ v ∈ found ∧ v.id = item.id → v = item

theorem exists_foldlM_addMatched {found : List (CatalogItem Mapping)} (h : Agreeing matched found) :
    ∃ matched', found.foldlM addMatched matched = .ok matched' := by
  induction found generalizing matched with
  | nil => exact ⟨matched,rfl⟩
  | cons item rest ih =>
    have hadd : addMatched matched item = .ok (matched.set item.id item) := by
      refine refuse_bind_ok.mpr ⟨?_,rfl⟩
      rintro ⟨previous,hprevious,hne⟩
      exact hne (h item List.mem_cons_self previous (.inl hprevious))
    have hrest : Agreeing (matched.set item.id item) rest := by
      rintro next hnext v (hv | ⟨hv,hid⟩)
      · rw [Dict.get_set] at hv
        split_ifs at hv with hid
        · cases hv
          exact h next (List.mem_cons_of_mem _ hnext) item (.inr ⟨List.mem_cons_self,hid.symm⟩)
        · exact h next (List.mem_cons_of_mem _ hnext) v (.inl hv)
      · exact h next (List.mem_cons_of_mem _ hnext) v (.inr ⟨List.mem_cons_of_mem _ hv,hid⟩)
    obtain ⟨matched',hmatched⟩ := ih hrest
    exact ⟨matched',bind_ok.mpr ⟨_,hadd,hmatched⟩⟩

section
variable (hsame : ∀ item, item ∈ catalog.items ∧ catalog.authorized caller item ↔
  item ∈ other.items ∧ other.authorized caller' item)
include hsame

theorem matchingItems_same (h : catalog.matchingItems lower caller request = .ok matched) :
    ∃ matched', other.matchingItems lower caller' request = .ok matched' ∧
      sorted lower request matched' = sorted lower request matched := by
  have hmatches : ∀ item, item ∈ other.items ∧ other.Matches lower caller' request item ↔
      item ∈ catalog.items ∧ catalog.Matches lower caller request item := by
    intro item
    simp only [FleetCatalog.Matches,Bool.and_eq_true]
    have := hsame item
    tauto
  obtain ⟨_,hget⟩ := matching_ok h
  have hagreeing : Agreeing ∅ (other.items.filter (other.Matches lower caller' request)) := by
    rintro item hitem v (hv | ⟨hv,hid⟩)
    · cases hv
    · have hitem := (hget item).mpr ((hmatches item).mp (List.mem_filter.mp hitem))
      have hv := (hget v).mpr ((hmatches v).mp (List.mem_filter.mp hv))
      rw [hid,hitem] at hv
      exact (Option.some.inj hv).symm
  obtain ⟨matched',h'⟩ := exists_foldlM_addMatched hagreeing
  refine ⟨matched',h',Keyset.eq_of_strict (strict_sorted h') (strict_sorted h) fun item => ?_⟩
  rw [mem_sorted h',mem_sorted h,hmatches]

theorem search_of_same (h : catalog.search lower caller request = .ok answer) :
    other.search lower caller' request = .ok answer := by
  obtain ⟨_,hvalid,h⟩ := bind_ok.mp h
  obtain ⟨matched,hmatched,h⟩ := bind_ok.mp h
  obtain ⟨matched',hmatched',hsorted⟩ := matchingItems_same hsame hmatched
  refine bind_ok.mpr ⟨_,hvalid,bind_ok.mpr ⟨matched',hmatched',?_⟩⟩
  unfold sorted at hsorted
  rw [hsorted]
  exact h

end

/-- Items that a caller is not authorized for, the order of the sources and repetitions change no answer. -/
theorem answers_of_authorized (hsame : ∀ item, item ∈ catalog.items ∧ catalog.authorized caller item ↔
    item ∈ other.items ∧ other.authorized caller' item) :
    catalog.search lower caller request = .ok answer ↔ other.search lower caller' request = .ok answer :=
  ⟨search_of_same hsame,search_of_same fun item => (hsame item).symm⟩

end

section
variable {catalog : FleetCatalog Mapping Identity} {caller : Caller Identity} {item : CatalogItem Mapping}

def browsing : SearchRequest := {browse := true}

theorem matches_browsing : catalog.Matches lower caller browsing item = catalog.authorized caller item := by
  simp [FleetCatalog.Matches,passesFilters,browsing]
theorem rawGet_some {id : String} (h : catalog.rawGet id = some item) : item ∈ catalog.items ∧ item.id = id :=
  ⟨List.mem_of_find?_eq_some h,by simpa using List.find?_some h⟩

theorem get_some {id : String} : catalog.get caller id = some item ↔
    catalog.rawGet id = some item ∧ catalog.authorized caller item := by
  unfold FleetCatalog.get
  rw [Option.filter_eq_some_iff]

def FirstAuthorized (catalog : FleetCatalog Mapping Identity) (caller : Caller Identity) : Prop :=
  ∀ item ∈ catalog.items, catalog.authorized caller item →
    ∃ first, catalog.rawGet item.id = some first ∧ catalog.authorized caller first

variable [DecidableEq Mapping] {matched : Dict String (CatalogItem Mapping)}

def AgreesWithGet (catalog : FleetCatalog Mapping Identity) (caller : Caller Identity)
    (out : List (PublicItem Mapping)) : Prop :=
  ∀ descriptor : PublicItem Mapping, descriptor ∈ out ↔ (catalog.get caller descriptor.id).map CatalogItem.public = some descriptor

section
variable (h : catalog.matchingItems lower caller browsing = .ok matched)
include h

theorem mem_browsed :
    item ∈ sorted lower browsing matched ↔ item ∈ catalog.items ∧ catalog.authorized caller item := by
  rw [mem_sorted h,matches_browsing]

theorem eq_of_authorized {first : CatalogItem Mapping}
    (hfirst : first ∈ catalog.items ∧ catalog.authorized caller first)
    (hitem : item ∈ catalog.items ∧ catalog.authorized caller item) (hid : first.id = item.id) : first = item := by
  have hget := (matching_ok h).2
  have hstands : matched.get first.id = some first := (hget first).mpr (by rwa [matches_browsing])
  have hstands' : matched.get item.id = some item := (hget item).mpr (by rwa [matches_browsing])
  rw [hid,hstands'] at hstands
  exact (Option.some.inj hstands).symm

theorem agreesWithGet_iff : AgreesWithGet catalog caller ((sorted lower browsing matched).map CatalogItem.public) ↔
      FirstAuthorized catalog caller := by
  constructor
  · intro hagrees item hitem hauthorized
    have hout : item.public ∈ (sorted lower browsing matched).map CatalogItem.public :=
      List.mem_map_of_mem ((mem_browsed h).mpr ⟨hitem,hauthorized⟩)
    obtain ⟨first,hfirst,_⟩ := Option.map_eq_some_iff.mp ((hagrees item.public).mp hout)
    exact ⟨first,get_some.mp hfirst⟩
  · intro hfirst descriptor
    rw [List.mem_map]
    constructor
    · rintro ⟨item,hitem,rfl⟩
      have hmem := (mem_browsed h).mp hitem
      obtain ⟨first,hraw,hauthorized⟩ := hfirst item hmem.1 hmem.2
      have hsame : first = item := eq_of_authorized h ⟨(rawGet_some hraw).1,hauthorized⟩ hmem (rawGet_some hraw).2
      have hget : catalog.get caller item.public.id = some item := by
        rw [← hsame] at hraw ⊢
        exact get_some.mpr ⟨hraw,hauthorized⟩
      rw [hget]
      rfl
    · intro hget
      obtain ⟨item,hitem,hpublic⟩ := Option.map_eq_some_iff.mp hget
      obtain ⟨hraw,hauthorized⟩ := get_some.mp hitem
      exact ⟨item,(mem_browsed h).mpr ⟨(rawGet_some hraw).1,hauthorized⟩,hpublic⟩

end

/-- A traversal returns each matching item once, and agrees with the lookups by id exactly if the first item of
each authorized id is authorized. -/
theorem discovery_agrees {paging : Paging} {answer : SearchAnswer Mapping}
    (h : catalog.search lower caller (browsing.paged none paging) = .ok answer) :
    (∀ pagings, Valid browsing pagings → ∃ out,
      (∀ returned, Traverses lower catalog caller browsing pagings none returned ↔ returned = out) ∧
        Lossless lower catalog caller browsing out ∧ AgreesWithGet catalog caller out) ↔
      FirstAuthorized catalog caller := by
  obtain ⟨matched,hmatched,hvalid,htraverses⟩ := traversal_lossless h
  rw [← agreesWithGet_iff hmatched]
  constructor
  · intro hall
    obtain ⟨out,hout,_,hagrees⟩ := hall (fun _ => paging) fun _ => hvalid
    have hsorted := (hout _).mp ((htraverses (fun _ => paging) (fun _ => hvalid) _).mpr rfl)
    rw [hsorted]
    exact hagrees
  · intro hagrees pagings hpagings
    exact ⟨_,htraverses pagings hpagings,lossless_sorted hmatched,hagrees⟩

end

private def caller : Caller Unit where
  identity := ()
  effectiveScopes := {"mcp:discover"}

private def ownItem : CatalogItem (List String) where
  id := "fleet:tool:eg/x"
  kind := .tool
  name := "x"
  requiredScopes := {"admin"}

private def childItem : CatalogItem (List String) where
  id := "fleet:tool:eg/x"
  kind := .tool
  name := "x"

private def oneSource : FleetCatalog (List String) Unit where
  sources := [[childItem]]
  visible := fun _ _ => true

private def twoSources : FleetCatalog (List String) Unit where
  sources := [[ownItem],[childItem]]
  visible := fun _ _ => true

private theorem search_oneSource :
    oneSource.search id caller (browsing.paged none {}) = .ok ⟨[childItem.public],none⟩ := by
  rfl

theorem discovery_agrees_one : (∀ pagings, Valid browsing pagings → ∃ out,
      (∀ returned, Traverses id oneSource caller browsing pagings none returned ↔ returned = out) ∧
        Lossless id oneSource caller browsing out ∧ AgreesWithGet oneSource caller out) ↔
      FirstAuthorized oneSource caller := discovery_agrees search_oneSource

/-- The item a search returns is hidden from the lookup by another source's item that needs a scope. -/
theorem discovered_not_found : Traverses id twoSources caller browsing (fun _ => {}) none [childItem.public] ∧
    twoSources.get caller childItem.id = none := by
  constructor
  · exact .last rfl
  · rfl

/-- An item that the caller may not see, and twice the one it may. -/
private def crowded : FleetCatalog (List String) Unit where
  sources := [[childItem],[ownItem],[childItem]]
  visible := fun _ _ => true

theorem crowded_answer : crowded.search id caller browsing = .ok ⟨[childItem.public],none⟩ := by
  have hsame : ∀ item, item ∈ oneSource.items ∧ oneSource.authorized caller item ↔
      item ∈ crowded.items ∧ crowded.authorized caller item := by
    have hhidden : crowded.authorized caller ownItem = false := by decide
    intro item
    constructor
    · rintro ⟨hitem,hauthorized⟩
      cases List.mem_singleton.mp hitem
      exact ⟨List.mem_cons_self,hauthorized⟩
    · rintro ⟨hitem,hauthorized⟩
      have hitems : item = childItem ∨ item = ownItem ∨ item = childItem := by
        simpa [FleetCatalog.items,crowded] using hitem
      rcases hitems with rfl | rfl | rfl
      · exact ⟨List.mem_cons_self,hauthorized⟩
      · rw [hhidden] at hauthorized
        cases hauthorized
      · exact ⟨List.mem_cons_self,hauthorized⟩
  exact (answers_of_authorized hsame).mp search_oneSource

end Arbora.Fleet
