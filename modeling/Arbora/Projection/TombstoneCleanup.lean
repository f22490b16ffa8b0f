import Arbora.Projection.TruthfulStatus

/-! `cleanup_tombstones`: the calls of the projector, and two more of its adapters. -/
namespace Arbora.Projection
open Interaction Service

inductive CleanupCall where
  | readTombstonesBefore (scope : ProjectionScope) (beforeSequence limit : ℤ)
  | cleanupTombstone (event : OutboxEnvelope) (fenceToken : ℤ)

@[reducible] def CleanupCall.Answer : CleanupCall → Type
  | .readTombstonesBefore .. => Except Raised (List PageItem)
  | .cleanupTombstone .. => Except Raised Unit

abbrev CleanupStep (α : Type) := Prog (Call ⊕ CleanupCall) (Sum.elim Call.Answer CleanupCall.Answer) Raised α

structure ProjectionCleanupResult where
  scope : ProjectionScope
  outcomes : List ProjectionOutcome := []
  checkpoint : Option ProjectionCheckpoint := none
  hasMore : Bool := false

namespace Service
variable (projectorId : String)

def recordCleanupDrift (reasonCode : DriftCode) (scope : ProjectionScope) (sequence : ℕ)
    (event : Option OutboxEnvelope := none) : CleanupStep Unit :=
  (recordDrift projectorId reasonCode scope sequence event).left

/-- `except CheckpointConflict` and `except Exception` of `_open_cleanup_batch`. -/
def cleanupAborted (scope : ProjectionScope) (x : Raised) :
    CleanupStep (ProjectionCleanupResult ⊕ ProjectionCheckpoint × List PageItem) :=
  match x.kind with
  | .checkpointConflict => do
    recordCleanupDrift projectorId .checkpointFenceLost scope 0
    return .inl {scope}
  | .interrupt => .raise x
  | _ => do
    recordCleanupDrift projectorId .tombstoneCleanupFailed scope 0
    return .inl {scope}

/-- The `try` block of `_open_cleanup_batch`. -/
def readCleanupBatch (scope : ProjectionScope) (fenceToken beforeSequence limit : ℤ) :
    CleanupStep (ProjectionCheckpoint × List PageItem) := do
  let checkpoint ← (readCheckpoint projectorId scope fenceToken).left
  let events ← Prog.call (.inr (.readTombstonesBefore scope beforeSequence limit)) Prog.ofExcept
  return (checkpoint,events)

def openCleanupBatch (scope : ProjectionScope) (fenceToken beforeSequence limit : ℤ) :
    CleanupStep (ProjectionCleanupResult ⊕ ProjectionCheckpoint × List PageItem) := do
  let opened ← Prog.handle
    (do return Sum.inr (← readCleanupBatch projectorId scope fenceToken beforeSequence limit))
    (cleanupAborted projectorId scope)
  match opened with
  | .inl aborted => return .inl aborted
  | .inr (checkpoint,events) =>
    if limit < events.length then throw ⟨.projectionContractError,"tombstone_reader_exceeded_limit"⟩
    return .inr (checkpoint,events)

def stepTombstoneEvent (scope : ProjectionScope) (item : PageItem) (checkpoint : ProjectionCheckpoint)
    (fenceToken : ℤ) : CleanupStep (Option ProjectionOutcome) := do
  match item with
  | .other =>
    recordCleanupDrift projectorId .tombstoneCleanupFailed scope 0
    return none
  | .envelope event =>
    if event.operation ≠ .tombstone ∨ checkpoint.lastSequence < event.sequence then
      recordCleanupDrift projectorId .tombstoneCleanupFailed scope event.sequence (some event)
      return some (outcomeOf .rejected event (some "tombstone_not_durable"))
    else
      let cleaned : CleanupStep ProjectionOutcome := do
        Prog.call (.inr (.cleanupTombstone event fenceToken)) Prog.ofExcept
        return outcomeOf .cleaned event
      return some (← cleaned.handle fun x => match x.kind with
        | .interrupt => .raise x
        | _ => do
          recordCleanupDrift projectorId .tombstoneCleanupFailed scope event.sequence (some event)
          return outcomeOf .failed event (some "tombstone_cleanup_failed"))

def stepTombstoneEvents (scope : ProjectionScope) (checkpoint : ProjectionCheckpoint) (fenceToken : ℤ) :
    List PageItem → List ProjectionOutcome → CleanupStep (List ProjectionOutcome)
  | [], outcomes => return outcomes
  | item :: rest, outcomes => do
    let outcome ← stepTombstoneEvent projectorId scope item checkpoint fenceToken
    stepTombstoneEvents scope checkpoint fenceToken rest (outcomes ++ outcome.toList)

/-- `cleanup_tombstones` of a service with a tombstone reader or without one. -/
def cleanupTombstones (reader : Bool) (scope : ProjectionScope) (fenceToken beforeSequence limit : ℤ) :
    CleanupStep ProjectionCleanupResult := do
  (checkLimit limit).left
  if beforeSequence < 1 then throw ⟨.projectionContractError,"tombstone_cleanup_boundary_invalid"⟩
  if reader = false then throw ⟨.projectionContractError,"tombstone_reader_required"⟩
  match ← openCleanupBatch projectorId scope fenceToken beforeSequence limit with
  | .inl aborted => return aborted
  | .inr (checkpoint,events) =>
    let outcomes ← stepTombstoneEvents projectorId scope checkpoint fenceToken events []
    return {scope,outcomes,checkpoint := some checkpoint,hasMore := (events.length : ℤ) = limit}

end Service

section
variable {projectorId : String} {reader : Bool} {scope : ProjectionScope} {fenceToken beforeSequence limit : ℤ}
  {stored : Option ProjectionCheckpoint} {page : List PageItem} {start : ProjectionCheckpoint} {event : OutboxEnvelope}

def answering (stored : Option ProjectionCheckpoint) (page : List PageItem) :
    World (Call ⊕ CleanupCall) (Sum.elim Call.Answer CleanupCall.Answer) Unit
  | _, .inl (.readCheckpoint _), r, _ => r = .ok stored
  | _, .inr (.readTombstonesBefore ..), r, _ => r = .ok page
  | _, _, _, _ => True

structure InWindow (scope : ProjectionScope) (beforeSequence : ℤ) (start : ProjectionCheckpoint) (event : OutboxEnvelope) :
    Prop where
  tombstone : event.operation = .tombstone
  covered : scope.Covers event
  before : (event.sequence : ℤ) < beforeSequence
  durable : event.sequence ≤ start.lastSequence

def Allowed (projectorId : String) (scope : ProjectionScope) (fenceToken beforeSequence : ℤ)
    (stored : Option ProjectionCheckpoint) : Call ⊕ CleanupCall → Prop
  | .inr (.cleanupTombstone event fence) => ∃ start, StartsFrom projectorId scope fenceToken stored start ∧
      InWindow scope beforeSequence start event ∧ fence = fenceToken ∧ start.fenceToken ≤ fence
  | _ => True

def PageInWindow (scope : ProjectionScope) (beforeSequence : ℤ) (start : ProjectionCheckpoint) (page : List PageItem) :
    Prop :=
  ∀ event, .envelope event ∈ page → event.operation = .tombstone → event.sequence ≤ start.lastSequence →
    scope.Covers event ∧ (event.sequence : ℤ) < beforeSequence

/-- Nothing is in the way of the cleanup before it looks at the page. -/
def Accepted (reader : Bool) (beforeSequence limit : ℤ) (page : List PageItem) : Prop :=
  reader = true ∧ 1 ≤ beforeSequence ∧ (1 ≤ limit ∧ limit ≤ maxBatchSize) ∧ (page.length : ℤ) ≤ limit

/-- Every call of a part is allowed, and what it returns is as `Q` says. -/
def Guarded (projectorId : String) (scope : ProjectionScope) (fenceToken beforeSequence : ℤ)
    (stored : Option ProjectionCheckpoint) (page : List PageItem) {α : Type} (Q : α → Prop) (p : CleanupStep α) : Prop :=
  p.Meets (answering stored page) (fun _ => Allowed projectorId scope fenceToken beforeSequence stored) (fun _ => Q)
    (fun _ _ => True) ()

section
variable {α β : Type} {Q : α → Prop} {R : β → Prop}

theorem Guarded.bind {p : CleanupStep α} {f : α → CleanupStep β}
    (hp : Guarded projectorId scope fenceToken beforeSequence stored page Q p)
    (hf : ∀ a, Q a → Guarded projectorId scope fenceToken beforeSequence stored page R (f a)) :
    Guarded projectorId scope fenceToken beforeSequence stored page R (p.bind f) :=
  Prog.Meets.seq hp fun _ a ha => hf a ha

theorem Guarded.handle {p : CleanupStep α} {f : Raised → CleanupStep α}
    (hp : Guarded projectorId scope fenceToken beforeSequence stored page Q p)
    (hf : ∀ x, Guarded projectorId scope fenceToken beforeSequence stored page Q (f x)) :
    Guarded projectorId scope fenceToken beforeSequence stored page Q (p.handle f) :=
  (Prog.meets_handle p f ()).mpr (hp.mono (fun _ _ h => h) (fun _ _ h => h) fun _ x _ => hf x)

theorem guarded_left (p : Step α) :
    Guarded projectorId scope fenceToken beforeSequence stored page (fun _ => True) p.left :=
  ((Prog.leaves_of_forall p (fun _ _ => trivial) fun _ _ => trivial).meets_left fun _ _ => trivial).mono
    (fun _ _ h => h) (fun _ _ _ => trivial) fun _ _ h => h

end

open Service

theorem recordCleanupDrift_guarded {reasonCode : DriftCode} {sequence : ℕ} {given : Option OutboxEnvelope} {α : Type}
    {Q : α → Prop} {a : α} (ha : Q a) : Guarded projectorId scope fenceToken beforeSequence stored page Q
      ((recordCleanupDrift projectorId reasonCode scope sequence given).bind fun _ => .ret a) :=
  (guarded_left _).bind fun _ _ => ha

theorem readCheckpoint_guarded : Guarded projectorId scope fenceToken beforeSequence stored page
    (StartsFrom projectorId scope fenceToken stored) (readCheckpoint projectorId scope fenceToken).left := by
  refine (readCheckpoint_leaves.meets_left fun _ _ => trivial).mono (fun _ _ h => h) ?_ fun _ _ h => h
  rintro _ start ⟨t,hallowed,stored',hstarts,rfl⟩
  obtain ⟨_,_,hanswer⟩ := hallowed _ (List.mem_singleton_self _)
  have hsame : stored' = stored := Except.ok.inj hanswer
  exact hsame ▸ hstarts

theorem readCleanupBatch_guarded : Guarded projectorId scope fenceToken beforeSequence stored page
    (fun pair => StartsFrom projectorId scope fenceToken stored pair.1 ∧ pair.2 = page)
    (readCleanupBatch projectorId scope fenceToken beforeSequence limit) := by
  refine readCheckpoint_guarded.bind fun start hstarts => ⟨trivial,?_⟩
  rintro r _ hr
  have hpage : r = .ok page := hr
  subst hpage
  exact ⟨hstarts,rfl⟩

theorem openCleanupBatch_guarded : Guarded projectorId scope fenceToken beforeSequence stored page
    (fun opened => ∀ checkpoint events, opened = .inr (checkpoint,events) →
      StartsFrom projectorId scope fenceToken stored checkpoint ∧ events = page ∧ (page.length : ℤ) ≤ limit)
    (openCleanupBatch projectorId scope fenceToken beforeSequence limit) := by
  have hopened : Guarded projectorId scope fenceToken beforeSequence stored page
      (fun opened : ProjectionCleanupResult ⊕ ProjectionCheckpoint × List PageItem =>
        ∀ checkpoint events, opened = .inr (checkpoint,events) →
          StartsFrom projectorId scope fenceToken stored checkpoint ∧ events = page)
      (Prog.handle (do return Sum.inr (← readCleanupBatch projectorId scope fenceToken beforeSequence limit))
        (cleanupAborted projectorId scope)) := by
    refine Guarded.handle (readCleanupBatch_guarded.bind fun pair hpair => ?_) fun x => ?_
    · rintro _ _ ⟨⟩
      exact hpair
    · unfold cleanupAborted
      cases x.kind with
      | interrupt => trivial
      | checkpointConflict => exact recordCleanupDrift_guarded nofun
      | projectionContractError => exact recordCleanupDrift_guarded nofun
      | valueError => exact recordCleanupDrift_guarded nofun
      | validationError => exact recordCleanupDrift_guarded nofun
      | exception => exact recordCleanupDrift_guarded nofun
  refine hopened.bind fun opened h => ?_
  cases opened with
  | inl aborted =>
    intro checkpoint events h
    cases h
  | inr pair =>
    obtain ⟨hstarts,rfl⟩ := h _ _ rfl
    change Prog.Meets _ _ _ _ (ite _ _ _) _
    split_ifs with hlong
    · trivial
    · rintro _ _ ⟨⟩
      exact ⟨hstarts,rfl,not_lt.mp hlong⟩

theorem stepTombstoneEvent_guarded {item : PageItem} (hstarts : StartsFrom projectorId scope fenceToken stored start)
    (hpage : PageInWindow scope beforeSequence start page) (hitem : item ∈ page) :
    Guarded projectorId scope fenceToken beforeSequence stored page (fun _ => True)
      (stepTombstoneEvent projectorId scope item start fenceToken) := by
  cases item with
  | other => exact recordCleanupDrift_guarded trivial
  | envelope event =>
    simp only [stepTombstoneEvent]
    split_ifs with hrejected
    · exact recordCleanupDrift_guarded trivial
    · rw [not_or,not_not,not_lt] at hrejected
      obtain ⟨hcovered,hbefore⟩ := hpage event hitem hrejected.1 hrejected.2
      refine Guarded.bind (Guarded.handle (Q := fun _ => True) ?_ fun x => ?_) fun _ _ => trivial
      · refine ⟨⟨start,hstarts,⟨hrejected.1,hcovered,hbefore,hrejected.2⟩,rfl,hstarts.spec.2.1⟩,?_⟩
        rintro r _ _
        cases r with
        | ok => trivial
        | error x => trivial
      · cases x.kind with
        | interrupt => trivial
        | checkpointConflict => exact recordCleanupDrift_guarded trivial
        | projectionContractError => exact recordCleanupDrift_guarded trivial
        | valueError => exact recordCleanupDrift_guarded trivial
        | validationError => exact recordCleanupDrift_guarded trivial
        | exception => exact recordCleanupDrift_guarded trivial

theorem stepTombstoneEvents_guarded {items : List PageItem} {outcomes : List ProjectionOutcome}
    (hstarts : StartsFrom projectorId scope fenceToken stored start) (hpage : PageInWindow scope beforeSequence start page)
    (hitems : items ⊆ page) : Guarded projectorId scope fenceToken beforeSequence stored page (fun _ => True)
      (stepTombstoneEvents projectorId scope start fenceToken items outcomes) := by
  induction items generalizing outcomes with
  | nil => trivial
  | cons item rest ih =>
    rw [List.cons_subset] at hitems
    exact (stepTombstoneEvent_guarded hstarts hpage hitems.1).bind fun _ _ => ih hitems.2

theorem cleanupTombstones_guarded (h : Accepted reader beforeSequence limit page →
      ∀ start, StartsFrom projectorId scope fenceToken stored start → PageInWindow scope beforeSequence start page) :
    Guarded projectorId scope fenceToken beforeSequence stored page (fun _ => True)
      (cleanupTombstones projectorId reader scope fenceToken beforeSequence limit) := by
  have hlimit : Guarded projectorId scope fenceToken beforeSequence stored page
      (fun _ => 1 ≤ limit ∧ limit ≤ maxBatchSize) (checkLimit limit).left := by
    unfold checkLimit
    split_ifs with hl
    · exact hl
    · trivial
  refine hlimit.bind fun _ hl => ?_
  change Prog.Meets _ _ _ _ (ite _ _ _) _
  split_ifs with hbefore hreader hreader
  · trivial
  · trivial
  · trivial
  · refine openCleanupBatch_guarded.bind fun opened hopened => ?_
    cases opened with
    | inl aborted => trivial
    | inr pair =>
      obtain ⟨hstarts,hevents,hlength⟩ := hopened _ _ rfl
      have hpage := h ⟨by simpa using hreader,not_lt.mp hbefore,hl,hlength⟩ _ hstarts
      exact (stepTombstoneEvents_guarded hstarts hpage (hevents ▸ List.Subset.refl _)).bind fun _ _ => trivial

end

section
variable {projectorId : String} {reader : Bool} {scope : ProjectionScope} {fenceToken beforeSequence limit : ℤ}
  {stored : Option ProjectionCheckpoint} {page : List PageItem} {start : ProjectionCheckpoint} {event : OutboxEnvelope}

open Service

/-- Adapters that do what they are asked for. -/
def serving (stored : Option ProjectionCheckpoint) (page : List PageItem) :
    (e : Call ⊕ CleanupCall) → Sum.elim Call.Answer CleanupCall.Answer e
  | .inl (.readCheckpoint _) => .ok stored
  | .inl (.saveCheckpoint ..) => .ok ()
  | .inl (.resetCheckpoint ..) => .ok ()
  | .inl (.readAfter ..) => .ok page
  | .inl (.applyEvent ..) => .ok none
  | .inl (.resetProjection ..) => .ok ()
  | .inl .now => (0 : ℤ)
  | .inl (.record _) => .ok ()
  | .inr (.readTombstonesBefore ..) => .ok page
  | .inr (.cleanupTombstone ..) => .ok ()

theorem serving_answering (stored : Option ProjectionCheckpoint) (page : List PageItem) (e : Call ⊕ CleanupCall) :
    answering stored page () e (serving stored page e) () := by
  cases e with
  | inl c => cases c with
    | readCheckpoint => rfl
    | _ => trivial
  | inr c => cases c with
    | readTombstonesBefore => rfl
    | _ => trivial

theorem recordCleanupDrift_eval (hid : isIdentifier projectorId = true) {reasonCode : DriftCode} {sequence : ℕ}
    {given : Option OutboxEnvelope} :
    (recordCleanupDrift projectorId reasonCode scope sequence given).eval (serving stored page) = .ok () := by
  unfold recordCleanupDrift
  rw [Prog.eval_left]
  simp [recordDrift,hid,Prog.eval,Prog.ask,serving,Service.ofExcept]

theorem StartsFrom.fenced (h : StartsFrom projectorId scope fenceToken stored start) : 1 ≤ fenceToken :=
  start.fenced.trans h.spec.2.1

theorem readCheckpoint_eval {g : (c : Call) → c.Answer} (hg : g (.readCheckpoint scope) = .ok stored)
    (h : StartsFrom projectorId scope fenceToken stored start) :
    (readCheckpoint projectorId scope fenceToken).eval g = .ok start := by
  unfold readCheckpoint checkFence
  rw [if_pos h.fenced]
  change Prog.eval g (Prog.bind (Service.ofExcept (g (.readCheckpoint scope))) _) = _
  rw [hg]
  cases stored with
  | none =>
    have hinitial : ProjectionCheckpoint.initialFor projectorId scope fenceToken = .ok start := h
    rw [hinitial]
    rfl
  | some current =>
    obtain ⟨rfl,hprojector,hscope,hfence⟩ := h
    have hsame : ¬(start.projectorId.1 ≠ projectorId ∨ start.scope ≠ scope) := by
      rw [not_or,not_not,not_not]
      exact ⟨hprojector,hscope⟩
    change Prog.eval g (ite _ _ _) = _
    rw [if_neg hsame,if_neg (not_lt.mpr hfence)]
    rfl

theorem readCleanupBatch_eval (h : StartsFrom projectorId scope fenceToken stored start) :
    (readCleanupBatch projectorId scope fenceToken beforeSequence limit).eval (serving stored page) =
      .ok (start,page) := by
  have hcheckpoint : (readCheckpoint projectorId scope fenceToken).left.eval (serving stored page) = .ok start := by
    rw [Prog.eval_left]
    exact readCheckpoint_eval rfl h
  exact Prog.eval_bind_of_ok hcheckpoint

theorem openCleanupBatch_eval (h : StartsFrom projectorId scope fenceToken stored start)
    (hlength : (page.length : ℤ) ≤ limit) :
    (openCleanupBatch projectorId scope fenceToken beforeSequence limit).eval (serving stored page) =
      .ok (.inr (start,page)) := by
  have hread : (do return Sum.inr (← readCleanupBatch projectorId scope fenceToken beforeSequence limit) : CleanupStep
      (ProjectionCleanupResult ⊕ ProjectionCheckpoint × List PageItem)).eval (serving stored page) =
        .ok (.inr (start,page)) := Prog.eval_bind_of_ok (readCleanupBatch_eval h)
  have hopened : (Prog.handle (do return Sum.inr (← readCleanupBatch projectorId scope fenceToken beforeSequence limit))
      (cleanupAborted projectorId scope)).eval (serving stored page) = .ok (.inr (start,page)) := by
    rw [Prog.eval_handle,hread]
  refine (Prog.eval_bind_of_ok hopened).trans ?_
  change Prog.eval _ (ite _ _ _) = _
  rw [if_neg (not_lt.mpr hlength)]
  rfl

theorem stepTombstoneEvent_eval (hid : isIdentifier projectorId = true) {item : PageItem} :
    ∃ outcome, (stepTombstoneEvent projectorId scope item start fenceToken).eval (serving stored page) = .ok outcome := by
  cases item with
  | other => exact ⟨none,Prog.eval_bind_of_ok (recordCleanupDrift_eval hid)⟩
  | envelope event =>
    simp only [stepTombstoneEvent]
    split_ifs with hrejected
    · exact ⟨_,Prog.eval_bind_of_ok (recordCleanupDrift_eval hid)⟩
    · exact ⟨_,rfl⟩

theorem made_stepTombstoneEvent (htombstone : event.operation = .tombstone)
    (hdurable : event.sequence ≤ start.lastSequence) : .inr (.cleanupTombstone event fenceToken) ∈
      (stepTombstoneEvent projectorId scope (.envelope event) start fenceToken).made (serving stored page) := by
  have hdue : ¬(event.operation ≠ .tombstone ∨ start.lastSequence < event.sequence) := by
    rw [not_or,not_not,not_lt]
    exact ⟨htombstone,hdurable⟩
  simp only [stepTombstoneEvent,if_neg hdue]
  exact List.mem_cons_self

theorem made_stepTombstoneEvents (hid : isIdentifier projectorId = true) {items : List PageItem}
    {outcomes : List ProjectionOutcome} (hitem : .envelope event ∈ items) (htombstone : event.operation = .tombstone)
    (hdurable : event.sequence ≤ start.lastSequence) : .inr (.cleanupTombstone event fenceToken) ∈
      (stepTombstoneEvents projectorId scope start fenceToken items outcomes).made (serving stored page) := by
  induction items generalizing outcomes with
  | nil => cases hitem
  | cons item rest ih =>
    rcases List.mem_cons.mp hitem with rfl | hrest
    · exact Prog.mem_made_left (made_stepTombstoneEvent htombstone hdurable)
    · obtain ⟨outcome,houtcome⟩ := stepTombstoneEvent_eval hid
      exact Prog.mem_made_right houtcome (ih hrest)

theorem made_cleanupTombstones (h : Accepted reader beforeSequence limit page)
    (hstarts : StartsFrom projectorId scope fenceToken stored start) (hitem : .envelope event ∈ page)
    (htombstone : event.operation = .tombstone) (hdurable : event.sequence ≤ start.lastSequence) :
    .inr (.cleanupTombstone event fenceToken) ∈
      (cleanupTombstones projectorId reader scope fenceToken beforeSequence limit).made (serving stored page) := by
  obtain ⟨rfl,hbefore,hlimit,hlength⟩ := h
  unfold cleanupTombstones checkLimit
  rw [if_pos hlimit,if_neg (not_lt.mpr hbefore)]
  change _ ∈ Prog.made _ (Prog.bind (openCleanupBatch projectorId scope fenceToken beforeSequence limit) _)
  exact Prog.mem_made_right (openCleanupBatch_eval hstarts hlength)
    (Prog.mem_made_left (made_stepTombstoneEvents hstarts.spec.2.2 hitem htombstone hdurable))

theorem runs_to_cleanup (h : Accepted reader beforeSequence limit page)
    (hstarts : StartsFrom projectorId scope fenceToken stored start) (hitem : .envelope event ∈ page)
    (htombstone : event.operation = .tombstone) (hdurable : event.sequence ≤ start.lastSequence) :
    ∃ t q, Prog.Runs (answering stored page)
      (cleanupTombstones projectorId reader scope fenceToken beforeSequence limit) () t q () ∧
        ∃ x ∈ t, x.1 = .inr (.cleanupTombstone event fenceToken) := by
  have hmade := made_cleanupTombstones h hstarts hitem htombstone hdurable
  obtain ⟨q,hq⟩ := Prog.runs_made (g := serving stored page)
    (cleanupTombstones projectorId reader scope fenceToken beforeSequence limit)
  refine ⟨_,q,hq.mono ?_,_,List.mem_map_of_mem hmade,rfl⟩
  rintro _ e _ _ rfl
  exact serving_answering stored page e

end

/-- Every cleanup call is in the window, whatever the store has and the reader returns, exactly if the tombstones of
an accepted page that the checkpoint has passed are. -/
theorem cleanup_in_window (projectorId : String) (reader : Bool) (scope : ProjectionScope)
    (fenceToken beforeSequence limit : ℤ) (stored : Option ProjectionCheckpoint) (page : List PageItem) :
    (∀ t q, Prog.Runs (answering stored page)
        (Service.cleanupTombstones projectorId reader scope fenceToken beforeSequence limit) () t q () →
      ∀ event fence, ∀ x ∈ t, x.1 = .inr (.cleanupTombstone event fence) → ∃ start,
        StartsFrom projectorId scope fenceToken stored start ∧ InWindow scope beforeSequence start event ∧
          fence = fenceToken ∧ start.fenceToken ≤ fence) ↔
      (Accepted reader beforeSequence limit page → ∀ start, StartsFrom projectorId scope fenceToken stored start →
        PageInWindow scope beforeSequence start page) := by
  constructor
  · intro hall haccepted start hstarts event hitem htombstone hdurable
    obtain ⟨t,q,hrun,x,hx,hcall⟩ := runs_to_cleanup haccepted hstarts hitem htombstone hdurable
    obtain ⟨start',hstarts',hwindow,_⟩ := hall t q hrun event fenceToken x hx hcall
    exact ⟨hwindow.covered,hwindow.before⟩
  · intro h t q hrun event fence x hx hcall
    obtain ⟨_,hallowed⟩ := (cleanupTombstones_guarded h).calls hrun x hx
    rw [hcall] at hallowed
    exact hallowed

namespace Sample

theorem projector_isIdentifier : isIdentifier "projector:test" = true := by decide
theorem first_fenced : (1 : ℤ) ≤ 1 := le_rfl
theorem first_known : 1 = 0 → some first.eventId = none ∧ some digest = none := by decide
theorem first_advanced : 0 < 1 → (some first.eventId).isSome = true ∧ (some digest).isSome = true := fun _ => ⟨rfl,rfl⟩

def passed : ProjectionCheckpoint where
  projectorId := ⟨"projector:test",projector_isIdentifier⟩
  scope := scope
  lastSequence := 1
  lastEventId := some first.eventId
  lastEventDigest := some digest
  fenceToken := 1
  fenced := first_fenced
  initial := first_known
  advanced := first_advanced

def removed : OutboxEnvelope := {first with operation := .tombstone}

end Sample

open Sample in
/-- A tombstone at the boundary is cleaned when the reader returns it. -/
theorem boundary_tombstone_cleaned : ∃ t q, Prog.Runs (answering (some passed) [.envelope removed])
    (Service.cleanupTombstones "projector:test" true scope 1 1 256) () t q () ∧
      ∃ x ∈ t, x.1 = .inr (.cleanupTombstone removed 1) ∧ ¬InWindow scope 1 passed removed := by
  have haccepted : Accepted true 1 256 [.envelope removed] := ⟨rfl,by decide,by decide,by decide⟩
  have hstarts : StartsFrom "projector:test" scope 1 (some passed) passed := ⟨rfl,rfl,rfl,by decide⟩
  obtain ⟨t,q,hrun,x,hx,hcall⟩ := runs_to_cleanup haccepted hstarts (List.mem_singleton_self _) rfl (le_refl 1)
  refine ⟨t,q,hrun,x,hx,hcall,fun hwindow => ?_⟩
  exact absurd hwindow.before (by decide)

end Arbora.Projection
