import Arbora.Economics.AppendOnly
import Arbora.Economics.CursorKeys

/-! Following the cursors of a read while records are appended. -/
namespace Arbora.Economics
open Arbora.Scaling (Ref Digest isRef isRefChar)
open Arbora.Placement (Instant)
open Keyset (sortBy)

theorem isRef_labelled {start : Instant} (hwhole : start.1 % 1000000 = 0) {label : String} (document : Json.Document)
    (hlength : label.toList.length ≤ 100) (hchars : label.toList.all isRefChar = true)
    (hlower : label.toList.map Char.toLower = label.toList) (hwords : ∀ rest ∈ label.toList.tails, NoWord rest) :
    isRef (keyText start (identityOf label document)) = true := by
  apply isRef_keyText hwhole (Sha256.hexadecimal_take _ 32) _ hchars hlower hwords
  rw [List.length_take]
  omega

theorem aggregateKey_valid (a : WindowAggregate) : isRef (aggregateKey a) = true := by
  apply isRef_labelled a.window.whole
  · decide
  · decide
  · decide
  · unfold NoWord
    decide +kernel

theorem rollupKey_valid (r : SloWindowRollup) : isRef (rollupKey r) = true := by
  apply isRef_labelled r.window.whole
  · decide
  · decide
  · decide
  · unfold NoWord
    decide +kernel

section
variable {ρ : Type}

structure Readable (startOf : ρ → Instant) (idOf keyOf : ρ → String) (tenantOf : ρ → Ref) (tenantId : Ref)
    (rows : List ρ) : Prop where
  key : ∀ r, keyOf r = keyText (startOf r) (idOf r)
  whole : ∀ r, (startOf r).1 % 1000000 = 0
  valid : ∀ r, isRef (keyOf r) = true
  unique : (rows.map idOf).Nodup
  tenant : ∀ r ∈ rows, tenantOf r = tenantId

variable {startOf : ρ → Instant} {idOf keyOf : ρ → String} {tenantOf : ρ → Ref} {rows : List ρ}
  {scope : TenantReadScope}

theorem Readable.keysUnique (h : Readable startOf idOf keyOf tenantOf scope.tenantId rows) :
    (rows.map keyOf).Nodup := by
  have hids : rows.Pairwise fun a b => idOf a ≠ idOf b := List.pairwise_map.mp h.unique
  apply List.pairwise_map.mpr
  refine hids.imp fun {a b} hne heq => hne ?_
  rw [h.key a,h.key b] at heq
  exact keyText_inj (h.whole a) (h.whole b) heq

theorem Readable.sorted (h : Readable startOf idOf keyOf tenantOf scope.tenantId rows) :
    sortBy (fun row => toLex ((startOf row).1,idOf row)) rows = sortBy keyOf rows := by
  have hpairs : (rows.map fun row => toLex ((startOf row).1,idOf row)).Nodup := by
    have hids : rows.Pairwise fun a b => idOf a ≠ idOf b := List.pairwise_map.mp h.unique
    apply List.pairwise_map.mpr
    exact hids.imp fun {a b} hne heq => hne (Prod.mk.inj (toLex.injective heq)).2
  apply @Keyset.eq_of_strict _ _ _ keyOf
  · refine (Keyset.strict_sortBy hpairs).imp fun {a b} hlt => ?_
    rw [h.key a,h.key b]
    exact keyText_lt (h.whole a) (h.whole b) hlt
  · exact Keyset.strict_sortBy h.keysUnique
  · intro r
    rw [Keyset.mem_sortBy,Keyset.mem_sortBy]

theorem after_eq (after : Option KeysetCursor) :
    ((sortBy keyOf rows).filter fun row => after.all fun cursor => decide (cursor.key < keyOf row)) =
      Keyset.after keyOf (after.map (·.key)) rows := by
  cases after with
  | none => rfl
  | some cursor => rfl

section
variable (h : Readable startOf idOf keyOf tenantOf scope.tenantId rows)
include h

theorem page_made (foreignRow : String) {limit : ℕ}
    (hlimit : limit ≤ maxPageSize) (after : Option String) {nextCursor : Option KeysetCursor}
    (hcursor : ∀ c ∈ nextCursor, c.tenantId = scope.tenantId) (exhausted : Bool) :
    ReadPage.make tenantOf foreignRow ⟨scope,(Keyset.after keyOf after rows).take limit,nextCursor,exhausted⟩ =
      .ok ⟨scope,(Keyset.after keyOf after rows).take limit,nextCursor,exhausted⟩ := by
  have hlength : ¬maxPageSize < ((Keyset.after keyOf after rows).take limit).length := by
    rw [List.length_take]
    omega
  have hrows : ((Keyset.after keyOf after rows).take limit).any (fun row => tenantOf row != scope.tenantId) = false := by
    rw [List.any_eq_false]
    intro row hrow
    rw [h.tenant row (Keyset.mem_after.mp (List.mem_of_mem_take hrow)).1]
    simp
  have hnext : nextCursor.any (fun c => c.tenantId != scope.tenantId) = false := by
    cases nextCursor with
    | none => rfl
    | some c => simp [hcursor c rfl]
  unfold ReadPage.make
  rw [if_neg hlength,hrows,hnext]
  rfl

theorem cursorBehind_ok {limit : ℕ} (hlimit : 0 < limit)
    (tenantId : Ref) (queryDigest : Digest) (after : Option String) :
    ∃ next, cursorBehind keyOf tenantId queryDigest (decide ((Keyset.after keyOf after rows).length ≤ limit))
        ((Keyset.after keyOf after rows).take limit) = .ok next ∧
      next.map KeysetCursor.key = Keyset.next keyOf limit after rows ∧
      (∀ c ∈ next, c.tenantId = tenantId ∧ c.queryDigest = queryDigest) ∧
      (decide ((Keyset.after keyOf after rows).length ≤ limit) = true ↔ next = none) := by
  unfold cursorBehind Keyset.next
  by_cases hle : (Keyset.after keyOf after rows).length ≤ limit
  · refine ⟨none,?_,?_,?_,?_⟩
    · rw [decide_eq_true hle]
      rfl
    · rw [if_pos hle]
      rfl
    · intro c hc
      cases hc
    · rw [decide_eq_true hle]
      exact iff_of_true rfl rfl
  · cases hlast : ((Keyset.after keyOf after rows).take limit).getLast? with
    | none =>
      rw [List.getLast?_eq_none_iff,List.take_eq_nil_iff] at hlast
      rcases hlast with hzero | hnil
      · omega
      · rw [hnil] at hle
        exact absurd (Nat.zero_le _) hle
    | some last =>
      refine ⟨some ⟨tenantId,queryDigest,keyOf last,h.valid last⟩,?_,?_,?_,?_⟩
      · have hmake : KeysetCursor.make tenantId queryDigest (keyOf last) =
            .ok ⟨tenantId,queryDigest,keyOf last,h.valid last⟩ := dif_pos (h.valid last)
        rw [decide_eq_false hle]
        dsimp only
        rw [hmake]
        rfl
      · rw [if_neg hle]
        rfl
      · intro c hc
        cases hc
        exact ⟨rfl,rfl⟩
      · rw [decide_eq_false hle]
        exact iff_of_false Bool.false_ne_true (Option.some_ne_none _)

theorem readRows_ok (foreignRow : String)
    (queryDigest : Digest) {limit : ℕ} (hlimit : 0 < limit ∧ limit ≤ maxPageSize) (after : Option KeysetCursor) :
    ∃ page, readRows startOf idOf keyOf (ReadPage.make tenantOf foreignRow) scope queryDigest limit after rows =
        .ok page ∧ page.rows = (Keyset.after keyOf (after.map KeysetCursor.key) rows).take limit ∧
      page.nextCursor.map KeysetCursor.key = Keyset.next keyOf limit (after.map KeysetCursor.key) rows ∧
      (∀ c ∈ page.nextCursor, c.tenantId = scope.tenantId ∧ c.queryDigest = queryDigest) ∧
      (page.exhausted = true ↔ page.nextCursor = none) := by
  obtain ⟨next,hnext,hkey,hbound,hexhausted⟩ :=
    cursorBehind_ok h hlimit.1 scope.tenantId queryDigest (after.map KeysetCursor.key)
  have hmade := page_made h foreignRow hlimit.2 (after.map KeysetCursor.key)
    (fun c hc => (hbound c hc).1) (decide ((Keyset.after keyOf (after.map KeysetCursor.key) rows).length ≤ limit))
  refine ⟨⟨scope,(Keyset.after keyOf (after.map KeysetCursor.key) rows).take limit,next,_⟩,?_,rfl,hkey,hbound,hexhausted⟩
  unfold readRows
  rw [h.sorted]
  simp only [after_eq]
  rw [hnext]
  exact hmade

end

end

section
variable {ρ Q : Type}

inductive Pages (read : Repository → Q → Except Refusal (ReadPage ρ)) (follows : Q → KeysetCursor → Q → Prop) :
    Repository → Q → Repository → Except Refusal (List ρ) → Prop
  | refused {s r refusal} (h : read s r = .error refusal) : Pages read follows s r s (.error refusal)
  | last {s r page} (h : read s r = .ok page) (hdone : page.nextCursor = none) :
      Pages read follows s r s (.ok page.rows)
  | more {s r page cursor r' final outcome} (ops : List Op) (h : read s r = .ok page)
      (hcursor : page.nextCursor = some cursor) (hfollows : follows r cursor r')
      (hrest : Pages read follows (s.run ops) r' final outcome) :
      Pages read follows s r final (outcome.map fun later => page.rows ++ later)

structure Paged (read : Repository → Q → Except Refusal (ReadPage ρ)) (follows : Q → KeysetCursor → Q → Prop)
    (rowsOf : Repository → Q → List ρ) (keyOf : ρ → String) (afterOf : Q → Option KeysetCursor) (limitOf : Q → ℕ)
    (digestOf : Q → Digest) : Prop where
  answers : ∀ s r, s.Keyed → (∀ c ∈ afterOf r, c.queryDigest = digestOf r) → ∃ page, read s r = .ok page ∧
    page.rows = (Keyset.after keyOf ((afterOf r).map KeysetCursor.key) (rowsOf s r)).take (limitOf r) ∧
    page.nextCursor.map KeysetCursor.key =
      Keyset.next keyOf (limitOf r) ((afterOf r).map KeysetCursor.key) (rowsOf s r) ∧
    ∀ c ∈ page.nextCursor, c.queryDigest = digestOf r
  positive : ∀ r, 0 < limitOf r
  following : ∀ r c r', follows r c r' → afterOf r' = some c ∧ digestOf r' = digestOf r ∧
    ∀ s, rowsOf s r' = rowsOf s r
  grows : ∀ s s' r, s.Extends s' → rowsOf s r ⊆ rowsOf s' r
  unique : ∀ s r, s.Keyed → ((rowsOf s r).map keyOf).Nodup

variable {read : Repository → Q → Except Refusal (ReadPage ρ)} {follows : Q → KeysetCursor → Q → Prop}
  {rowsOf : Repository → Q → List ρ} {keyOf : ρ → String} {afterOf : Q → Option KeysetCursor} {limitOf : Q → ℕ}
  {digestOf : Q → Digest} {s final : Repository} {r : Q} {outcome : Except Refusal (List ρ)}

theorem Pages.reads (h : Pages read follows s r final outcome)
    (hpaged : Paged read follows rowsOf keyOf afterOf limitOf digestOf) (hkeyed : s.Keyed)
    (hcursor : ∀ c ∈ afterOf r, c.queryDigest = digestOf r) : ∃ rows, outcome = .ok rows ∧
      Keyset.Reads keyOf ((afterOf r).map KeysetCursor.key) (rowsOf s r) (rowsOf final r) rows := by
  induction h with
  | refused h =>
    obtain ⟨page,hpage,-⟩ := hpaged.answers _ _ hkeyed hcursor
    rw [h] at hpage
    cases hpage
  | last h hdone =>
    obtain ⟨page,hpage,hrows,hnext,-⟩ := hpaged.answers _ _ hkeyed hcursor
    rw [h] at hpage
    cases hpage
    refine ⟨_,rfl,?_⟩
    rw [hrows]
    rw [hdone] at hnext
    exact .last (hpaged.positive _) (hpaged.unique _ _ hkeyed) hnext.symm
  | @more s r page cursor r' final outcome ops h hnextCursor hfollows hrest ih =>
    obtain ⟨page',hpage,hrows,hnext,hbound⟩ := hpaged.answers _ _ hkeyed hcursor
    rw [h] at hpage
    cases hpage
    obtain ⟨hafter,hdigest,hsame⟩ := hpaged.following _ _ _ hfollows
    have hcursor' : ∀ c ∈ afterOf r', c.queryDigest = digestOf r' := by
      intro c hc
      rw [hafter] at hc
      rw [hdigest]
      exact hbound c (by rw [hnextCursor]; exact hc)
    obtain ⟨later,rfl,hreads⟩ := ih (Repository.run_keyed hkeyed ops) hcursor'
    refine ⟨_,rfl,?_⟩
    rw [hrows]
    rw [hnextCursor] at hnext
    rw [hafter,hsame,hsame] at hreads
    exact .more (hpaged.positive _) (hpaged.unique _ _ hkeyed) hnext.symm
      (hpaged.grows _ _ _ (Repository.run_extends s ops)) hreads

theorem Pages.keyed (h : Pages read follows s r final outcome) (hkeyed : s.Keyed) : final.Keyed := by
  induction h with
  | refused => exact hkeyed
  | last => exact hkeyed
  | more ops h hcursor hfollows hrest ih => exact ih (Repository.run_keyed hkeyed ops)

end

/-- The same query behind a cursor; the limit may be another. -/
def UsageReadRequest.Follows (r : UsageReadRequest) (cursor : KeysetCursor) (r' : UsageReadRequest) : Prop :=
  r'.after = some cursor ∧ r'.scope = r.scope ∧ r'.granularity = r.granularity ∧
    r'.allocationProjectRef = r.allocationProjectRef ∧ r'.allocationCostCenterRef = r.allocationCostCenterRef

def SloReadRequest.Follows (r : SloReadRequest) (cursor : KeysetCursor) (r' : SloReadRequest) : Prop :=
  r'.after = some cursor ∧ r'.scope = r.scope ∧ r'.objectiveId = r.objectiveId

section
variable {ρ : Type} {store store' : Store ρ} (p : ρ → Bool)

theorem storeRows_unique {idOf : ρ → String} (h : ∀ id entry, store.get id = some entry → id = idOf entry.2) :
    (((store.values.map Prod.snd).filter p).map idOf).Nodup := by
  have hids := Dict.nodup_values h
  rw [show (fun entry : Digest × ρ => idOf entry.2) = idOf ∘ Prod.snd from rfl,← List.map_map] at hids
  exact hids.sublist (List.filter_sublist.map idOf)

theorem storeRows_grow (h : ∀ id entry, store.get id = some entry → store'.get id = some entry) :
    (store.values.map Prod.snd).filter p ⊆ (store'.values.map Prod.snd).filter p := by
  intro row hrow
  obtain ⟨hmem,hmatches⟩ := List.mem_filter.mp hrow
  obtain ⟨entry,hentry,rfl⟩ := List.mem_map.mp hmem
  obtain ⟨id,hid⟩ := Dict.mem_values.mp hentry
  exact List.mem_filter.mpr ⟨List.mem_map_of_mem (Dict.mem_values.mpr ⟨id,h id entry hid⟩),hmatches⟩

end

theorem usage_readable {s : Repository} (hkeyed : s.Keyed) (r : UsageReadRequest) :
    Readable (·.window.windowStart) (·.aggregateId) aggregateKey (·.tenantId) r.scope.tenantId (s.usageRows r) where
  key a := rfl
  whole a := a.window.whole
  valid := aggregateKey_valid
  unique := storeRows_unique _ hkeyed.aggregates
  tenant a ha := by
    have hmatches := (List.mem_filter.mp ha).2
    unfold matchesUsageWindow at hmatches
    simp only [Bool.and_eq_true,beq_iff_eq] at hmatches
    exact hmatches.1.1.1

theorem usage_paged : Paged Repository.readUsageWindows UsageReadRequest.Follows Repository.usageRows aggregateKey
    (·.after) (·.limit) (·.queryDigest) where
  answers s r hkeyed hcursor := by
    have hbound : r.after.any (fun cursor => cursor.queryDigest != r.queryDigest) = false := by
      cases hafter : r.after with
      | none => rfl
      | some c => simp [hcursor c hafter]
    obtain ⟨page,hpage,hrows,hnext,hbinds,-⟩ := readRows_ok (usage_readable hkeyed r)
      "usage read page contains a foreign tenant row" r.queryDigest r.limitBounded r.after
    refine ⟨page,?_,hrows,hnext,fun c hc => (hbinds c hc).2⟩
    unfold Repository.readUsageWindows
    rw [hbound]
    exact hpage
  positive r := r.limitBounded.1
  following r c r' h := by
    obtain ⟨hafter,hscope,hgranularity,hproject,hcenter⟩ := h
    refine ⟨hafter,?_,fun s => ?_⟩
    · unfold UsageReadRequest.queryDigest
      rw [hscope,hgranularity,hproject,hcenter]
    · unfold Repository.usageRows matchesUsageWindow
      rw [hscope,hgranularity,hproject,hcenter]
  grows s s' r hextends := storeRows_grow _ hextends.aggregates
  unique s r hkeyed := (usage_readable hkeyed r).keysUnique

theorem slo_readable {s : Repository} (hkeyed : s.Keyed) (r : SloReadRequest) :
    Readable (·.window.windowStart) (·.rollupId) rollupKey (·.tenantId) r.scope.tenantId (s.sloRows r) where
  key rollup := rfl
  whole rollup := rollup.window.whole
  valid := rollupKey_valid
  unique := storeRows_unique _ hkeyed.rollups
  tenant rollup hrollup := by
    have hmatches := (List.mem_filter.mp hrollup).2
    unfold matchesSloRollup at hmatches
    simp only [Bool.and_eq_true,beq_iff_eq] at hmatches
    exact hmatches.1

theorem slo_paged : Paged Repository.readSloRollups SloReadRequest.Follows Repository.sloRows rollupKey (·.after)
    (·.limit) (·.queryDigest) where
  answers s r hkeyed hcursor := by
    have hbound : r.after.any (fun cursor => cursor.queryDigest != r.queryDigest) = false := by
      cases hafter : r.after with
      | none => rfl
      | some c => simp [hcursor c hafter]
    obtain ⟨page,hpage,hrows,hnext,hbinds,-⟩ := readRows_ok (slo_readable hkeyed r)
      "SLO read page contains a foreign tenant row" r.queryDigest r.limitBounded r.after
    refine ⟨page,?_,hrows,hnext,fun c hc => (hbinds c hc).2⟩
    unfold Repository.readSloRollups
    rw [hbound]
    exact hpage
  positive r := r.limitBounded.1
  following r c r' h := by
    obtain ⟨hafter,hscope,hobjective⟩ := h
    refine ⟨hafter,?_,fun s => ?_⟩
    · unfold SloReadRequest.queryDigest
      rw [hscope,hobjective]
    · unfold Repository.sloRows matchesSloRollup
      rw [hscope,hobjective]
  grows s s' r hextends := storeRows_grow _ hextends.rollups
  unique s r hkeyed := (slo_readable hkeyed r).keysUnique

/-- What is returned to a reader: in order of start and identity, nothing twice, all that was there at the first page,
and nothing of another tenant. -/
structure CompleteRead {ρ : Type} (startOf : ρ → Instant) (idOf : ρ → String) (tenantOf : ρ → Ref) (tenantId : Ref)
    (present rows : List ρ) : Prop where
  ordered : rows.Pairwise fun a b => toLex ((startOf a).1,idOf a) < toLex ((startOf b).1,idOf b)
  once : rows.Nodup
  complete : present ⊆ rows
  tenant : ∀ row ∈ rows, tenantOf row = tenantId

theorem Readable.completeRead {ρ : Type} {startOf : ρ → Instant} {idOf keyOf : ρ → String} {tenantOf : ρ → Ref}
    {tenantId : Ref} {present final rows : List ρ} (h : Readable startOf idOf keyOf tenantOf tenantId final)
    (hreads : Keyset.Reads keyOf none present final rows) :
    CompleteRead startOf idOf tenantOf tenantId present rows := by
  have hordered : rows.Pairwise fun a b => toLex ((startOf a).1,idOf a) < toLex ((startOf b).1,idOf b) := by
    refine hreads.strict.imp fun {a b} hlt => ?_
    rw [h.key a,h.key b] at hlt
    exact lt_of_keyText_lt (h.whole a) (h.whole b) hlt
  refine ⟨hordered,hordered.imp fun hlt heq => ?_,?_,?_⟩
  · rw [heq] at hlt
    exact absurd hlt (lt_irrefl _)
  · intro row hrow
    apply hreads.complete row hrow
    intro c hc
    cases hc
  · intro row hrow
    exact h.tenant row (hreads.above row hrow).1

/-- Following the cursors of a usage or SLO read from its first page to its last, with any appends and limits on the
way, no page is refused and the rows are complete. -/
theorem pages_complete (ops : List Op) : (∀ (r : UsageReadRequest) final outcome, r.after = none →
      Pages Repository.readUsageWindows UsageReadRequest.Follows (Repository.after ops) r final outcome →
      ∃ rows, outcome = .ok rows ∧ CompleteRead (·.window.windowStart) (·.aggregateId) (·.tenantId) r.scope.tenantId
        ((Repository.after ops).usageRows r) rows) ∧ ∀ (r : SloReadRequest) final outcome, r.after = none →
      Pages Repository.readSloRollups SloReadRequest.Follows (Repository.after ops) r final outcome →
      ∃ rows, outcome = .ok rows ∧ CompleteRead (·.window.windowStart) (·.rollupId) (·.tenantId) r.scope.tenantId
        ((Repository.after ops).sloRows r) rows := by
  have hkeyed := (Repository.after_invariant ops).1
  constructor
  · intro r final outcome hfirst h
    obtain ⟨rows,houtcome,hreads⟩ := h.reads usage_paged hkeyed (by simp [hfirst])
    rw [hfirst] at hreads
    exact ⟨rows,houtcome,(usage_readable (h.keyed hkeyed) r).completeRead hreads⟩
  · intro r final outcome hfirst h
    obtain ⟨rows,houtcome,hreads⟩ := h.reads slo_paged hkeyed (by simp [hfirst])
    rw [hfirst] at hreads
    exact ⟨rows,houtcome,(slo_readable (h.keyed hkeyed) r).completeRead hreads⟩

namespace Fixture

def aggregate : WindowAggregate where
  tenantId := tenant
  allocation := ⟨tenant,⟨"project:one",by decide +kernel⟩,⟨"center:one",by decide +kernel⟩,none⟩
  window := ⟨.hour,newYear,by decide⟩
  factIds := ["usage:0"]
  priceCardId := ⟨"price:0",by decide +kernel⟩
  priceCardDigest := digest
  totals := [oneToken]
  factIdsBounded := by decide
  totalsBounded := oneToken_counted
  sameTenant := rfl
  factIdsSorted := by simp
  totalsSorted := oneToken_sorted

def usageRequest : UsageReadRequest where
  scope := ⟨tenant,⟨"principal:one",by decide +kernel⟩⟩
  granularity := none
  allocationProjectRef := none
  allocationCostCenterRef := none
  limit := 1
  after := none
  limitBounded := by decide
  cursorScope := by simp

end Fixture

theorem one_window_read : CompleteRead (·.window.windowStart) (·.aggregateId) (·.tenantId) Fixture.tenant
    ((Repository.after [.aggregate Fixture.aggregate]).usageRows Fixture.usageRequest) [Fixture.aggregate] := by
  have hread : (Repository.after [.aggregate Fixture.aggregate]).readUsageWindows Fixture.usageRequest =
      .ok ⟨Fixture.usageRequest.scope,[Fixture.aggregate],none,true⟩ := by
    rfl
  obtain ⟨rows,hrows,hcomplete⟩ :=
    (pages_complete [.aggregate Fixture.aggregate]).1 Fixture.usageRequest _ _ rfl (.last hread rfl)
  cases hrows
  exact hcomplete

end Arbora.Economics
