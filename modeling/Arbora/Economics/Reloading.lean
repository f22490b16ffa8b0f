import Arbora.Economics.RecordFields

/-! Records made again of all the fields they were dumped into: only a window whose end is no longer supported stands in
the way. -/
namespace Arbora.Economics
open Arbora.Scaling (Digest supportedUntil)
open Arbora.Placement (Instant isoformat)
open Checks (then_ok passes mapM_map)
open Keyset (sortBy sortBy_of_strict)

def DimensionRef.fields (d : DimensionRef) : DimensionFields := ⟨d.key.1,d.value.1⟩
def AllocationRef.fields (a : AllocationRef) : AllocationFields :=
  ⟨a.tenantId.1,a.projectRef.1,a.costCenterRef.1,a.workloadRef.map fun ref => ref.1⟩

def UsageFact.dump (f : UsageFact) : FactFields where
  schemaVersion := "1"
  factId := some f.factId
  factDigest := some f.factDigest.1
  tenantId := f.tenantId.1
  allocation := f.allocation.fields
  sourceRef := f.sourceRef.1
  sourceDigest := f.sourceDigest.1
  occurredAt := f.occurredAt.1
  metric := f.metric.value
  quantity := f.quantity
  inputQuantity := f.inputQuantity.map Int.ofNat
  outputQuantity := f.outputQuantity.map Int.ofNat
  serviceRef := f.serviceRef.1
  meterRef := f.meterRef.1
  sampleSequence := f.sampleSequence.map Int.ofNat
  dimensions := f.dimensions.map DimensionRef.fields

def PriceRate.fields (r : PriceRate) : RateFields := ⟨r.metric.value,r.microsPerUnit⟩

def PriceCard.dump (card : PriceCard) : CardFields where
  schemaVersion := "1"
  cardId := some card.cardId
  cardDigest := some card.cardDigest.1
  providerRef := card.providerRef.1
  serviceRef := card.serviceRef.1
  currency := card.currency.1
  version := card.version
  effectiveFrom := card.effectiveFrom.1
  effectiveTo := card.effectiveTo.map fun t => t.1
  rates := card.rates.map PriceRate.fields
  sourceRef := card.sourceRef.1
  sourceDigest := card.sourceDigest.1

def UsageWindow.dump (w : UsageWindow) : WindowFields :=
  ⟨"1",w.granularity.value,w.windowStart.1,some w.windowEnd,some w.windowId⟩
def MetricTotal.fields (t : MetricTotal) : TotalFields := ⟨t.metric.value,t.quantity,t.costMicros⟩

def WindowAggregate.dump (a : WindowAggregate) : AggregateFields where
  schemaVersion := "1"
  aggregateId := some a.aggregateId
  aggregateDigest := some a.aggregateDigest.1
  tenantId := a.tenantId.1
  allocation := a.allocation.fields
  window := a.window.dump
  factIds := a.factIds
  priceCardId := a.priceCardId.1
  priceCardDigest := a.priceCardDigest.1
  totals := a.totals.map MetricTotal.fields

def SloWindowRollup.dump (r : SloWindowRollup) : RollupFields where
  schemaVersion := "1"
  rollupId := some r.rollupId
  rollupDigest := some r.rollupDigest.1
  tenantId := r.tenantId.1
  objectiveId := r.objectiveId.1
  window := r.window.dump
  goodEvents := r.goodEvents
  totalEvents := r.totalEvents
  badEvents := r.badEvents
  measuredMicros := r.measuredMicros.map Int.ofNat
  sourceFactDigests := r.sourceFactDigests.map fun d => d.1
  status := r.status.value

section
variable {α β : Type}

variable {bound : ℕ} {field : String}

@[simp] theorem checked_val {p : String → Bool} (x : {text : String // p text = true}) :
    checked field x.1 = .ok x := dif_pos x.2
@[simp] theorem ensureUtc_val (t : Instant) : ensureUtc field t.1 = .ok t := dif_pos t.2

theorem optional_map {f : α → Except Refusal β} {g : β → α} (h : ∀ b, f (g b) = .ok b) (o : Option β) :
    optional f (o.map g) = .ok o := by
  cases o with
  | none => rfl
  | some b =>
    rw [Option.map_some,optional,h b]
    rfl

theorem literal_value {all : List α} {value : α → String} (hvalue : Function.Injective value) {a : α}
    (ha : a ∈ all) : literal all value field (value a) = .ok a := by
  apply Checks.found_ok.mpr
  cases hfind : all.find? fun x => decide (value x = value a) with
  | none => exact absurd (List.find?_eq_none.mp hfind a ha) (by simp)
  | some b =>
    have hb := List.find?_some hfind
    rw [hvalue (of_decide_eq_true hb)]

@[simp] theorem literal_metric (m : MetricKind) : literal MetricKind.all MetricKind.value field m.value = .ok m :=
  literal_value MetricKind.value_injective (by cases m <;> decide)

@[simp] theorem literal_granularity (g : WindowGranularity) :
    literal WindowGranularity.all WindowGranularity.value field g.value = .ok g :=
  literal_value WindowGranularity.value_injective (by cases g <;> decide)

@[simp] theorem literal_status (s : SloStatus) : literal SloStatus.all SloStatus.value field s.value = .ok s :=
  literal_value SloStatus.value_injective (by cases s <;> decide)
theorem currentSchema_one : currentSchema "1" = .ok () := rfl

@[simp] theorem confirmDigest_self (digest : Digest) (message : String) :
    confirmDigest (some digest.1) digest message = .ok () := by
  simp [confirmDigest,digest.2,Checks.refuse]

theorem confirmId_self {id : String} {message : String} (h : 1 ≤ id.length ∧ id.length ≤ bound) :
    confirmId bound (some id) id message = .ok () := by
  simp [confirmId,h,Checks.refuse]

theorem length_identityOf (label : String) (document : Json.Document) :
    (identityOf label document).length = label.length + 32 := by
  unfold identityOf hashOf
  rw [String.length_ofList,List.length_append,List.length_take,Sha256.length_hexdigest,String.length_toList]
  rfl

theorem confirmId_identity {label message : String} (document : Json.Document) (h : label.length + 32 ≤ bound) :
    confirmId bound (some (identityOf label document)) (identityOf label document) message = .ok () := by
  apply confirmId_self
  rw [length_identityOf]
  omega

@[simp] theorem map_toNat (o : Option ℕ) : (o.map Int.ofNat).map Int.toNat = o := by
  cases o with
  | none => rfl
  | some n => rfl

theorem within_cast {o : Option ℕ} (h : ∀ n ∈ o, n ≤ bound) : ∀ n ∈ o.map Int.ofNat, wholeWithin bound n := by
  intro n hn
  obtain ⟨m,hm,rfl⟩ := Option.map_eq_some_iff.mp hn
  exact ⟨Int.natCast_nonneg m,Int.ofNat_le.mpr (h m hm)⟩

end

theorem DimensionRef.construct_fields (d : DimensionRef) : construct d.fields = .ok d := by
  refine then_ok (checked_val d.key) ?_
  exact then_ok (checked_val d.value) rfl

theorem AllocationRef.construct_fields (a : AllocationRef) : construct a.fields = .ok a := by
  refine then_ok (checked_val a.tenantId) ?_
  refine then_ok (checked_val a.projectRef) ?_
  refine then_ok (checked_val a.costCenterRef) ?_
  exact then_ok (optional_map checked_val a.workloadRef) rfl

theorem PriceRate.construct_fields (r : PriceRate) : construct r.fields = .ok r := by
  have hbound := r.bounded
  have hwithin : wholeWithin (10 ^ 12) r.microsPerUnit := ⟨Int.natCast_nonneg _,by omega⟩
  exact then_ok (literal_metric r.metric) (dif_pos hwithin)

theorem MetricTotal.construct_fields (t : MetricTotal) : construct t.fields = .ok t := by
  refine then_ok (literal_metric t.metric) ?_
  exact (dif_pos t.quantityBounded).trans (dif_pos t.costBounded)

theorem confirmed {record : β} {label : String} {bound : ℕ} {idMessage digestMessage : String}
    (document : Json.Document) (digest : Digest) (h : label.length + 32 ≤ bound) :
    (do
      confirmId bound (some (identityOf label document)) (identityOf label document) idMessage
      confirmDigest (some digest.1) digest digestMessage
      .ok record) = Except.ok record :=
  then_ok (confirmId_identity document h) (then_ok (confirmDigest_self digest digestMessage) rfl)

theorem UsageFact.construct_dump (f : UsageFact) : construct f.dump = .ok f := by
  have hquantity : wholeWithin maxFactQuantity f.quantity :=
    ⟨Int.natCast_nonneg _,Int.ofNat_le.mpr f.quantityBounded⟩
  have hparts : ∀ part ∈ [f.inputQuantity.map Int.ofNat,f.outputQuantity.map Int.ofNat], ∀ q ∈ part,
      wholeWithin maxFactQuantity q := by
    intro part hpart
    simp only [List.mem_cons,List.not_mem_nil,or_false] at hpart
    rcases hpart with rfl | rfl
    · exact within_cast (f.partsBounded _ (by simp))
    · exact within_cast (f.partsBounded _ (by simp))
  have hsequence : ∀ n ∈ f.sampleSequence.map Int.ofNat, wholeWithin (2 ^ 63 - 1) n :=
    within_cast fun n hn => Nat.le_pred_of_lt (f.sequenceBounded n hn)
  have hcoherent : coherentParts f.metric (f.quantity : ℤ).toNat ((f.inputQuantity.map Int.ofNat).map Int.toNat)
      ((f.outputQuantity.map Int.ofNat).map Int.toNat) = .ok () := by
    rw [map_toNat,map_toNat]
    exact coherentParts_ok.mpr ⟨f.tokenParts,f.otherParts⟩
  refine then_ok currentSchema_one ?_
  refine then_ok (checked_val f.tenantId) ?_
  refine then_ok f.allocation.construct_fields ?_
  refine then_ok (checked_val f.sourceRef) ?_
  refine then_ok (checked_val f.sourceDigest) ?_
  refine then_ok (ensureUtc_val f.occurredAt) ?_
  refine then_ok (literal_metric f.metric) ?_
  refine then_ok (checked_val f.serviceRef) ?_
  refine then_ok (checked_val f.meterRef) ?_
  refine then_ok (mapM_map DimensionRef.construct_fields f.dimensions) ?_
  refine (dif_pos hquantity).trans ((dif_pos hparts).trans ((dif_pos hsequence).trans ?_))
  refine (dif_pos f.dimensionsBounded).trans ((dif_pos f.sameTenant).trans ((dif_pos f.keysUnique).trans ?_))
  refine (dif_pos hcoherent).trans ?_
  have hsame : ∀ fact : UsageFact, fact = f → (do
      confirmId 80 (some f.factId) fact.factId "fact_id does not match the immutable fact identity"
      confirmDigest (some f.factDigest.1) fact.factDigest "fact_digest does not match the immutable fact identity"
      .ok fact) = Except.ok f := by
    rintro fact rfl
    exact confirmed fact.identityPayload fact.factDigest (by decide)
  exact hsame _ (UsageFact.ext rfl rfl rfl rfl rfl rfl rfl (map_toNat _) (map_toNat _) rfl rfl (map_toNat _) rfl)

theorem PriceCard.construct_dump (card : PriceCard) : construct card.dump = .ok card := by
  have hversion : (1 : ℤ) ≤ card.version ∧ (card.version : ℤ) ≤ 2 ^ 31 - 1 := by
    have hbound := card.versionBounded
    omega
  refine then_ok currentSchema_one ?_
  refine then_ok (checked_val card.providerRef) ?_
  refine then_ok (checked_val card.serviceRef) ?_
  refine then_ok (checked_val card.currency) ?_
  refine then_ok (ensureUtc_val card.effectiveFrom) ?_
  refine then_ok (optional_map ensureUtc_val card.effectiveTo) ?_
  refine then_ok (mapM_map PriceRate.construct_fields card.rates) ?_
  refine then_ok (checked_val card.sourceRef) ?_
  refine then_ok (checked_val card.sourceDigest) ?_
  refine (dif_pos hversion).trans ((dif_pos card.ratesBounded).trans ?_)
  refine (dif_pos card.follows).trans ((dif_pos card.ratesUnique).trans ?_)
  exact confirmed card.identityPayload card.cardDigest (by decide)

theorem length_stamp {second : ℤ} (h : Supported second) : (stamp second).length = 19 := by
  have hyear := civil_year h
  have hfields := civil_fields (second / 86400)
  unfold stamp
  simp only [List.length_append,List.length_cons]
  rw [length_padded (w := 3) (by omega) (by omega),length_padded (w := 1) (by omega) (by omega),
    length_padded (w := 1) (by omega) (by omega),length_padded (w := 1) (by omega) (by omega),
    length_padded (w := 1) (by omega) (by omega),length_padded (w := 1) (by omega) (by omega)]

theorem UsageWindow.length_windowId (w : UsageWindow) : 1 ≤ w.windowId.length ∧ w.windowId.length ≤ 80 := by
  have hvalue : w.granularity.value.length ≤ 4 := by cases w.granularity <;> decide
  have hfraction : (fraction (w.windowStart.1 % 1000000)).length ≤ 7 := by
    unfold fraction
    split_ifs
    · simp
    · rw [List.length_cons,length_padded (w := 5) (by omega) (by omega)]
  have htext : (isoformat "+00:00" w.windowStart).length ≤ 32 := by
    rw [← String.length_toList,toList_isoformat,List.length_append,List.length_append,
      length_stamp (supported_second w.windowStart)]
    have hzone : "+00:00".toList.length = 6 := by decide
    omega
  have hlabel : "window:".length = 7 := by decide
  have hcolon : ":".length = 1 := by decide
  unfold windowId
  rw [String.length_append,String.length_append,String.length_append]
  omega

theorem UsageWindow.aligned_hour (w : UsageWindow) : w.windowStart.1 % hourMicros = 0 := by
  have haligned := w.aligned
  cases hgranularity : w.granularity with
  | hour => rwa [hgranularity] at haligned
  | day =>
    rw [hgranularity] at haligned
    unfold WindowGranularity.micros hourMicros at *
    dsimp only at haligned
    omega

theorem UsageWindow.construct_dump {w w' : UsageWindow} :
    construct w.dump = .ok w' ↔ w.windowEnd < supportedUntil ∧ w' = w := by
  have hstart := w.windowStart.2
  have hlater : w.windowStart.1 ≤ w.windowEnd := by
    unfold windowEnd
    cases w.granularity <;> simp [WindowGranularity.micros,hourMicros]
  by_cases hend : w.windowEnd < supportedUntil
  · have hsame : construct w.dump = .ok w := by
      refine then_ok currentSchema_one ?_
      refine then_ok (literal_granularity w.granularity) ?_
      refine then_ok (ensureUtc_val w.windowStart) ?_
      refine then_ok (optional_map ensureUtc_val (some ⟨w.windowEnd,hstart.1.trans hlater,hend⟩)) ?_
      refine then_ok (passes (not_not.mpr w.aligned_hour)) ?_
      refine (dif_pos w.aligned).trans ?_
      refine then_ok (passes (by simp)) ?_
      exact then_ok (confirmId_self w.length_windowId) rfl
    rw [hsame,Except.ok.injEq]
    simp [hend,eq_comm]
  · have hrefused : ∀ field, ensureUtc field w.windowEnd = .error ⟨.validation,field ++ " is outside the supported time range"⟩ :=
      fun field => dif_neg fun h => hend h.2
    constructor
    · intro h
      obtain ⟨_,_,h⟩ := Checks.bind_ok.mp h
      obtain ⟨_,_,h⟩ := Checks.bind_ok.mp h
      obtain ⟨_,_,h⟩ := Checks.bind_ok.mp h
      obtain ⟨windowEnd,hgiven,-⟩ := Checks.bind_ok.mp h
      change (ensureUtc _ w.windowEnd >>= _) = _ at hgiven
      rw [hrefused] at hgiven
      cases hgiven
    · intro h
      exact absurd h.1 hend

theorem WindowAggregate.make_self (a : WindowAggregate) :
    make a.tenantId a.allocation a.window a.factIds a.priceCardId.1 a.priceCardDigest a.totals = .ok a := by
  have hids : a.factIds.Nodup := a.factIdsSorted.imp fun h => ne_of_lt h
  have hmetrics : (a.totals.map fun t => t.metric.value).Nodup := Keyset.nodup_of_strict a.totalsSorted
  unfold make
  rw [dif_pos a.factIdsBounded,dif_pos a.priceCardId.2,dif_pos a.totalsBounded,dif_pos a.sameTenant,dif_pos hids,
    dif_pos hmetrics]
  have hfacts : sortBy (fun text => text) a.factIds = a.factIds := sortBy_of_strict a.factIdsSorted
  have htotals : sortBy (fun t : MetricTotal => t.metric.value) a.totals = a.totals := sortBy_of_strict a.totalsSorted
  exact congrArg Except.ok (WindowAggregate.ext rfl rfl rfl hfacts rfl rfl htotals)

theorem WindowAggregate.construct_dump {a a' : WindowAggregate} :
    construct a.dump = .ok a' ↔ a.window.windowEnd < supportedUntil ∧ a' = a := by
  have hsame : a.window.windowEnd < supportedUntil → construct a.dump = .ok a := by
    intro hend
    refine then_ok currentSchema_one ?_
    refine then_ok (checked_val a.tenantId) ?_
    refine then_ok a.allocation.construct_fields ?_
    refine then_ok (UsageWindow.construct_dump.mpr ⟨hend,rfl⟩) ?_
    refine then_ok (checked_val a.priceCardDigest) ?_
    refine then_ok (mapM_map MetricTotal.construct_fields a.totals) ?_
    refine then_ok a.make_self ?_
    exact confirmed a.identityPayload a.aggregateDigest (by decide)
  constructor
  · intro h
    obtain ⟨_,_,hrest⟩ := Checks.bind_ok.mp h
    obtain ⟨_,_,hrest⟩ := Checks.bind_ok.mp hrest
    obtain ⟨_,_,hrest⟩ := Checks.bind_ok.mp hrest
    obtain ⟨w,hw,-⟩ := Checks.bind_ok.mp hrest
    obtain ⟨hend,-⟩ := UsageWindow.construct_dump.mp hw
    rw [hsame hend] at h
    exact ⟨hend,(Except.ok.inj h).symm⟩
  · rintro ⟨hend,rfl⟩
    exact hsame hend

theorem SloWindowRollup.make_self (r : SloWindowRollup) :
    make r.tenantId r.objectiveId.1 r.window r.goodEvents r.totalEvents r.badEvents (r.measuredMicros.map Int.ofNat)
      r.sourceFactDigests r.status = .ok r := by
  have hcounts : ∀ n ∈ [(r.goodEvents : ℤ),(r.totalEvents : ℤ),(r.badEvents : ℤ)],
      0 ≤ n ∧ n ≤ maxFactQuantity * maxFactIdsPerAggregate := by
    have htotal := r.totalBounded
    have hwithin := r.within
    intro n hn
    simp only [List.mem_cons,List.not_mem_nil,or_false] at hn
    rcases hn with rfl | rfl | rfl <;> omega
  have hmeasured : ∀ m ∈ r.measuredMicros.map Int.ofNat, 0 ≤ m ∧ m ≤ 1000000 := within_cast r.measuredBounded
  have hunique : (r.sourceFactDigests.map fun d => d.1).Nodup := Keyset.nodup_of_strict r.sourcesSorted
  have hwithin : (r.goodEvents : ℤ) ≤ r.totalEvents ∧ (r.badEvents : ℤ) ≤ r.totalEvents := by
    have h := r.within
    omega
  have hempty : (r.totalEvents : ℤ) = 0 → r.status = .insufficientData ∧ r.measuredMicros.map Int.ofNat = none := by
    intro hzero
    obtain ⟨hstatus,hnone⟩ := r.empty (by omega)
    simp [hstatus,hnone]
  have hpopulated : (r.totalEvents : ℤ) ≠ 0 → r.status ≠ .insufficientData ∧ r.measuredMicros.map Int.ofNat ≠ none := by
    intro hpositive
    obtain ⟨hstatus,hsome⟩ := r.populated (by omega)
    simp [hstatus,hsome]
  have hsources : sortBy (fun d : Digest => d.1) r.sourceFactDigests = r.sourceFactDigests :=
    sortBy_of_strict r.sourcesSorted
  unfold make
  rw [dif_pos r.objectiveId.2,dif_pos hcounts,dif_pos hmeasured,dif_pos r.sourcesBounded,dif_pos hunique,
    dif_pos hwithin,dif_pos hempty,dif_pos hpopulated]
  exact congrArg Except.ok (SloWindowRollup.ext rfl rfl rfl rfl rfl rfl (map_toNat _) hsources rfl)

theorem SloWindowRollup.construct_dump {r r' : SloWindowRollup} :
    construct r.dump = .ok r' ↔ r.window.windowEnd < supportedUntil ∧ r' = r := by
  have hsame : r.window.windowEnd < supportedUntil → construct r.dump = .ok r := by
    intro hend
    refine then_ok currentSchema_one ?_
    refine then_ok (checked_val r.tenantId) ?_
    refine then_ok (UsageWindow.construct_dump.mpr ⟨hend,rfl⟩) ?_
    refine then_ok (mapM_map checked_val r.sourceFactDigests) ?_
    refine then_ok (literal_status r.status) ?_
    refine then_ok r.make_self ?_
    exact confirmed r.identityPayload r.rollupDigest (by decide)
  constructor
  · intro h
    obtain ⟨_,_,hrest⟩ := Checks.bind_ok.mp h
    obtain ⟨_,_,hrest⟩ := Checks.bind_ok.mp hrest
    obtain ⟨w,hw,-⟩ := Checks.bind_ok.mp hrest
    obtain ⟨hend,-⟩ := UsageWindow.construct_dump.mp hw
    rw [hsame hend] at h
    exact ⟨hend,(Except.ok.inj h).symm⟩
  · rintro ⟨hend,rfl⟩
    exact hsame hend

inductive StoredRecord where
  | fact (f : UsageFact)
  | card (c : PriceCard)
  | window (w : UsageWindow)
  | aggregate (a : WindowAggregate)
  | rollup (r : SloWindowRollup)

/-- The same model, of all the fields of the record. -/
def StoredRecord.reload : StoredRecord → Except Refusal StoredRecord
  | .fact f => .fact <$> UsageFact.construct f.dump
  | .card c => .card <$> PriceCard.construct c.dump
  | .window w => .window <$> UsageWindow.construct w.dump
  | .aggregate a => .aggregate <$> WindowAggregate.construct a.dump
  | .rollup r => .rollup <$> SloWindowRollup.construct r.dump

def StoredRecord.identity : StoredRecord → String × Option Digest
  | .fact f => (f.factId,some f.factDigest)
  | .card c => (c.cardId,some c.cardDigest)
  | .window w => (w.windowId,none)
  | .aggregate a => (a.aggregateId,some a.aggregateDigest)
  | .rollup r => (r.rollupId,some r.rollupDigest)

def StoredRecord.itsWindow : StoredRecord → Option UsageWindow
  | .fact _ => none
  | .card _ => none
  | .window w => some w
  | .aggregate a => some a.window
  | .rollup r => some r.window

def StoredRecord.Reloads (record : StoredRecord) : Prop :=
  ∃ record', record.reload = .ok record' ∧ record' = record ∧ record'.identity = record.identity

/-- A record is made again of its fields iff its window, if it has one, ends within the supported time. -/
theorem stored_record_reloads_iff (record : StoredRecord) :
    record.Reloads ↔ ∀ w ∈ record.itsWindow, w.windowEnd < supportedUntil := by
  have hreloads : record.Reloads ↔ record.reload = .ok record := by
    constructor
    · rintro ⟨_,h,rfl,-⟩
      exact h
    · intro h
      exact ⟨record,h,rfl,rfl⟩
  rw [hreloads]
  cases record with
  | fact f => simp [StoredRecord.reload,StoredRecord.itsWindow,f.construct_dump]
  | card c => simp [StoredRecord.reload,StoredRecord.itsWindow,c.construct_dump]
  | window w => simp [StoredRecord.reload,StoredRecord.itsWindow,Checks.map_ok,UsageWindow.construct_dump]
  | aggregate a => simp [StoredRecord.reload,StoredRecord.itsWindow,Checks.map_ok,WindowAggregate.construct_dump]
  | rollup r => simp [StoredRecord.reload,StoredRecord.itsWindow,Checks.map_ok,SloWindowRollup.construct_dump]

namespace Fixture

def lastHour : UsageWindow := ⟨.hour,⟨supportedUntil - hourMicros,by decide⟩,by decide⟩

end Fixture

theorem last_hour_not_reloaded : ¬∀ record : StoredRecord, record.Reloads := by
  intro hall
  obtain ⟨record,hreload,-⟩ := hall (.window Fixture.lastHour)
  obtain ⟨w,hw,-⟩ := Checks.map_ok.mp hreload
  obtain ⟨hend,-⟩ := UsageWindow.construct_dump.mp hw
  exact absurd hend (by decide)

end Arbora.Economics
