import Arbora.Economics.Models
import Arbora.Lib.Dict

/-! The in-memory economics repository: appends that are idempotent by the derived identity of a record, and
reads that go on behind a cursor. -/
namespace Arbora.Economics
open Arbora.Scaling (Ref Digest isRef)
open Arbora.Placement (Instant isoformat refDocument)
open Json (sorted orNull)
open Keyset (sortBy)

inductive AppendDisposition where
  | inserted | replayed

structure AppendReceipt where
  identity : String
  digest : Digest
  disposition : AppendDisposition

abbrev Store (α : Type) := Dict String (Digest × α)

def append {α : Type} (store : Store α) (identity : String) (digest : Digest) (value : α) :
    Except Refusal AppendReceipt × Store α :=
  match store.get identity with
  | some (previousDigest,_) =>
    if previousDigest ≠ digest then
      (.error ⟨.conflict,"append-only identity '" ++ identity ++ "' already exists with a different digest"⟩,store)
    else (.ok ⟨identity,digest,.replayed⟩,store)
  | none => (.ok ⟨identity,digest,.inserted⟩,store.set identity (digest,value))

/-- An open interval extends past every bounded one. -/
def intervalsOverlap (first second : PriceCard) : Bool :=
  (first.effectiveTo.all fun firstEnd => second.effectiveFrom.1 < firstEnd.1) &&
    second.effectiveTo.all fun secondEnd => first.effectiveFrom.1 < secondEnd.1

structure Repository where
  facts : Store UsageFact := ∅
  corrections : Store UsageCorrection := ∅
  aggregates : Store WindowAggregate := ∅
  rollups : Store SloWindowRollup := ∅
  cards : Store PriceCard := ∅
  tombstones : Store UsageTombstone := ∅

namespace Repository
variable (s : Repository)

def appendUsageFact (fact : UsageFact) : Except Refusal AppendReceipt × Repository :=
  let (receipt,facts) := append s.facts fact.factId fact.factDigest fact
  (receipt,{s with facts})

def appendCorrection (correction : UsageCorrection) : Except Refusal AppendReceipt × Repository :=
  let (receipt,corrections) :=
    append s.corrections correction.correctionId correction.originalFactDigest correction
  (receipt,{s with corrections})

def appendWindowAggregate (aggregate : WindowAggregate) : Except Refusal AppendReceipt × Repository :=
  let (receipt,aggregates) := append s.aggregates aggregate.aggregateId aggregate.aggregateDigest aggregate
  (receipt,{s with aggregates})

def appendSloRollup (rollup : SloWindowRollup) : Except Refusal AppendReceipt × Repository :=
  let (receipt,rollups) := append s.rollups rollup.rollupId rollup.rollupDigest rollup
  (receipt,{s with rollups})

def supersedes (card : PriceCard) (previous : PriceCard) : Bool :=
  previous.cardId != card.cardId && previous.providerRef == card.providerRef &&
    previous.serviceRef == card.serviceRef && previous.version == card.version && intervalsOverlap previous card

def putPriceCard (card : PriceCard) : Except Refusal AppendReceipt × Repository :=
  if s.cards.values.any fun entry => supersedes card entry.2 then
    (.error ⟨.conflict,"price-card versions may not overlap with a different digest"⟩,s)
  else
    let (receipt,cards) := append s.cards card.cardId card.cardDigest card
    (receipt,{s with cards})

def appendTombstone (tombstone : UsageTombstone) : Except Refusal AppendReceipt × Repository :=
  let (receipt,tombstones) := append s.tombstones tombstone.tombstoneId tombstone.targetDigest tombstone
  (receipt,{s with tombstones})

end Repository

structure TenantReadScope where
  (tenantId principalRef : Ref)

structure KeysetCursor where
  tenantId : Ref
  queryDigest : Digest
  lastKey : Ref

def KeysetCursor.key (cursor : KeysetCursor) : String := cursor.lastKey.1
def KeysetCursor.make (tenantId : Ref) (queryDigest : Digest) (lastKey : String) : Except Refusal KeysetCursor :=
  if h : isRef lastKey = true then .ok ⟨tenantId,queryDigest,lastKey,h⟩ else .error ⟨.validation,"last_key"⟩

structure UsageReadRequest where
  scope : TenantReadScope
  granularity : Option WindowGranularity
  (allocationProjectRef allocationCostCenterRef : Option Ref)
  limit : ℕ
  after : Option KeysetCursor
  limitBounded : 0 < limit ∧ limit ≤ maxPageSize
  cursorScope : ∀ c ∈ after, c.tenantId = scope.tenantId

def UsageReadRequest.queryDigest (r : UsageReadRequest) : Digest := contentDigest <| sorted [
  ("tenant_id",refDocument r.scope.tenantId),("principal_ref",refDocument r.scope.principalRef),
  ("granularity",orNull (fun g => .string g.value) r.granularity),
  ("project_ref",orNull refDocument r.allocationProjectRef),
  ("cost_center_ref",orNull refDocument r.allocationCostCenterRef)]

structure SloReadRequest where
  scope : TenantReadScope
  objectiveId : Option (IdRef 100)
  limit : ℕ
  after : Option KeysetCursor
  limitBounded : 0 < limit ∧ limit ≤ maxPageSize
  cursorScope : ∀ c ∈ after, c.tenantId = scope.tenantId

def SloReadRequest.queryDigest (r : SloReadRequest) : Digest := contentDigest <| sorted [
  ("tenant_id",refDocument r.scope.tenantId),("principal_ref",refDocument r.scope.principalRef),
  ("objective_id",orNull (fun id => .string id.1) r.objectiveId)]

/-- A page of usage windows or of SLO rollups. -/
structure ReadPage (ρ : Type) where
  scope : TenantReadScope
  rows : List ρ
  nextCursor : Option KeysetCursor
  exhausted : Bool

/-- `validate_page` of both kinds of page; `foreignRow` is the message that differs. -/
def ReadPage.make {ρ : Type} (tenantOf : ρ → Ref) (foreignRow : String) (page : ReadPage ρ) :
    Except Refusal (ReadPage ρ) :=
  if maxPageSize < page.rows.length then .error ⟨.validation,"rows"⟩
  else if page.rows.any fun row => tenantOf row != page.scope.tenantId then .error ⟨.validation,foreignRow⟩
  else if page.nextCursor.any fun c => c.tenantId != page.scope.tenantId then
    .error ⟨.validation,"next cursor contains a foreign tenant"⟩
  else .ok page

def usageReadPage : ReadPage WindowAggregate → Except Refusal (ReadPage WindowAggregate) :=
  ReadPage.make (·.tenantId) "usage read page contains a foreign tenant row"
def sloReadPage : ReadPage SloWindowRollup → Except Refusal (ReadPage SloWindowRollup) :=
  ReadPage.make (·.tenantId) "SLO read page contains a foreign tenant row"
def aggregateKey (a : WindowAggregate) : String := isoformat "+00:00" a.window.windowStart ++ "/" ++ a.aggregateId
def rollupKey (r : SloWindowRollup) : String := isoformat "+00:00" r.window.windowStart ++ "/" ++ r.rollupId

def matchesUsageWindow (a : WindowAggregate) (r : UsageReadRequest) : Bool :=
  a.tenantId == r.scope.tenantId && (r.granularity.all fun g => a.window.granularity == g) &&
    (r.allocationProjectRef.all fun p => a.allocation.projectRef == p) &&
    r.allocationCostCenterRef.all fun c => a.allocation.costCenterRef == c

def matchesSloRollup (rollup : SloWindowRollup) (r : SloReadRequest) : Bool :=
  rollup.tenantId == r.scope.tenantId && r.objectiveId.all fun id => rollup.objectiveId == id

def cursorBehind {ρ : Type} (keyOf : ρ → String) (tenantId : Ref) (queryDigest : Digest) (exhausted : Bool)
    (pageRows : List ρ) : Except Refusal (Option KeysetCursor) :=
  if exhausted then .ok none
  else match pageRows.getLast? with
  | none => .ok none
  | some last => (KeysetCursor.make tenantId queryDigest (keyOf last)).map some

def readRows {ρ : Type} (startOf : ρ → Instant) (idOf : ρ → String) (keyOf : ρ → String)
    (make : ReadPage ρ → Except Refusal (ReadPage ρ)) (scope : TenantReadScope) (queryDigest : Digest) (limit : ℕ)
    (after : Option KeysetCursor) (matching : List ρ) : Except Refusal (ReadPage ρ) :=
  let ordered := sortBy (fun row => toLex ((startOf row).1,idOf row)) matching
  let rows := ordered.filter fun row => after.all fun cursor => decide (cursor.key < keyOf row)
  let pageRows := rows.take limit
  let exhausted := decide (rows.length ≤ limit)
  (cursorBehind keyOf scope.tenantId queryDigest exhausted pageRows).bind fun nextCursor =>
    make ⟨scope,pageRows,nextCursor,exhausted⟩

namespace Repository
variable (s : Repository)

def usageRows (r : UsageReadRequest) : List WindowAggregate :=
  (s.aggregates.values.map Prod.snd).filter fun a => matchesUsageWindow a r
def sloRows (r : SloReadRequest) : List SloWindowRollup :=
  (s.rollups.values.map Prod.snd).filter fun rollup => matchesSloRollup rollup r

def readUsageWindows (r : UsageReadRequest) : Except Refusal (ReadPage WindowAggregate) :=
  if r.after.any fun cursor => cursor.queryDigest != r.queryDigest then
    .error ⟨.tenantScope,"cursor is bound to a different usage query"⟩
  else
    readRows (·.window.windowStart) (·.aggregateId) aggregateKey usageReadPage r.scope r.queryDigest r.limit r.after
      (s.usageRows r)

def readSloRollups (r : SloReadRequest) : Except Refusal (ReadPage SloWindowRollup) :=
  if r.after.any fun cursor => cursor.queryDigest != r.queryDigest then
    .error ⟨.tenantScope,"cursor is bound to a different SLO query"⟩
  else
    readRows (·.window.windowStart) (·.rollupId) rollupKey sloReadPage r.scope r.queryDigest r.limit r.after
      (s.sloRows r)

end Repository

end Arbora.Economics
