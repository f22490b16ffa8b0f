import Arbora.Projection.Projector

/-! What `project_scope` has been answered before each call it makes. -/
namespace Arbora.Projection
open Interaction Service

abbrev History := List (Event Call Call.Answer)

/-- The graph has acknowledged the event: a receipt that `_apply_event` accepts. -/
def Acknowledged (event : OutboxEnvelope) (receipt : GraphProjectionReceipt) : Prop :=
  receipt.eventId = event.eventId ∧ (receipt.applied = true ∨ receipt.replayed = true)

theorem checkReceipt_ok {event : OutboxEnvelope} {reply : Option GraphProjectionReceipt}
    (h : checkReceipt event reply = .ok ()) : ∃ receipt, reply = some receipt ∧ Acknowledged event receipt := by
  cases reply with
  | none => cases h
  | some receipt =>
    refine ⟨receipt,rfl,?_⟩
    simp only [checkReceipt] at h
    split_ifs at h with hx
    rw [not_or,not_not,Bool.not_eq_true,Bool.not_eq_false',Bool.or_eq_true] at hx
    exact hx

/-- `next` names the event after `current`, and the store is expected to hold what was read or written last. -/
structure Names (scope : ProjectionScope) (fenceToken : ℤ) (current : ProjectionCheckpoint) (event : OutboxEnvelope)
    (expected : Option ProjectionCheckpoint) (next : ProjectionCheckpoint) : Prop where
  covered : scope.Covers event
  following : event.sequence = current.lastSequence + 1
  unfenced : current.fenceToken ≤ fenceToken
  expects : expected = persistedOf current
  named : ∃ hf, next = current.naming event fenceToken hf

/-- What has been answered before each call. -/
def Follows (scope : ProjectionScope) (fenceToken : ℤ) (h : History) : Call → Prop
  | .saveCheckpoint key expected next => key = scope ∧ ∃ current event receipt,
      ⟨.applyEvent event fenceToken,.ok (some receipt)⟩ ∈ h ∧ Acknowledged event receipt ∧
      Names scope fenceToken current event expected next
  | .applyEvent event _ => ∃ after limit page, ⟨.readAfter scope after limit,.ok page⟩ ∈ h ∧ .envelope event ∈ page
  | .resetCheckpoint .. | .resetProjection .. => False
  | .readCheckpoint _ | .readAfter .. | .now | .record _ => True

/-- Every call of a part follows, and what it returns is as `Q` says. -/
def Tracks (scope : ProjectionScope) (fenceToken : ℤ) {α : Type} (p : Step α) (Q : History → α → Prop) (h : History) :
    Prop :=
  p.Meets Prog.record (Follows scope fenceToken) Q (fun _ _ => True) h

section
variable {scope : ProjectionScope} {fenceToken : ℤ} {h : History} {α β : Type}

theorem tracks_raise (x : Raised) (Q : History → α → Prop) : Tracks scope fenceToken (.raise x) Q h := trivial

variable {Q : History → α → Prop}

theorem tracks_bind {p : Step α} {f : α → Step β} {R : History → β → Prop}
    (hp : Tracks scope fenceToken p Q h) (hf : ∀ h' a, h ⊆ h' → Q h' a → Tracks scope fenceToken (f a) R h') :
    Tracks scope fenceToken (p.bind f) R h :=
  hp.grown.mono (fun _ _ hg => hg) (fun _ _ hq => hq) (fun _ _ _ => trivial) |>.seq
    fun h' a hq => hf h' a hq.2 hq.1

theorem tracks_ofExcept {x : Except Raised α} (hx : ∀ a, x = .ok a → Q h a) :
    Tracks scope fenceToken (Service.ofExcept x) Q h := by
  cases x with
  | ok a => exact hx a rfl
  | error x => exact tracks_raise _ _

theorem tracks_call {c : Call} {f : c.Answer → Step α} (hc : Follows scope fenceToken h c)
    (hf : ∀ r, Tracks scope fenceToken (f r) Q (h ++ [⟨c,r⟩])) : Tracks scope fenceToken (.call c f) Q h := by
  refine ⟨hc,?_⟩
  rintro r _ rfl
  exact hf r

theorem tracks_guarded {body conflict failure : Step α} (hb : Tracks scope fenceToken body Q h) (hc :
    ∀ h', Tracks scope fenceToken conflict Q h')
    (hf : ∀ h', Tracks scope fenceToken failure Q h') : Tracks scope fenceToken (guarded body conflict failure) Q h := by
  refine (Prog.meets_handle _ _ _).mpr (hb.mono (fun _ _ hg => hg) (fun _ _ hq => hq) ?_)
  intro h' x _
  rcases handler_cases conflict failure x with hx | hx | hx
  · rw [hx]
    exact hc h'
  · rw [hx]
    exact hf h'
  · rw [hx]
    exact tracks_raise _ _

end

section
variable {projectorId : String} {scope : ProjectionScope} {fenceToken limit : ℤ} {h : History}

variable {sequence : ℕ} {code : DriftCode} {key : ProjectionScope}

variable {event : Option OutboxEnvelope} {expected observed : Option Digest}

theorem recordDrift_tracks {Q : History → Unit → Prop} (hQ : ∀ h' u, Q h' u) :
    Tracks scope fenceToken (recordDrift projectorId code key sequence event expected observed) Q h := by
  refine tracks_call trivial ?_
  intro now
  split_ifs
  · refine tracks_call trivial ?_
    intro r
    exact tracks_ofExcept fun _ _ => hQ _ _
  · exact tracks_raise _ _

theorem drifting_tracks {α : Type} {a : α} {Q : History → α → Prop} (hQ : ∀ h', Q h' a) :
    Tracks scope fenceToken ((recordDrift projectorId code key sequence event expected observed).bind
      fun _ => .ret a) Q h :=
  tracks_bind (recordDrift_tracks fun _ _ => trivial) fun h' _ _ (_ : True) => hQ h'

theorem failureResult_tracks {α : Type} {checkpoint : Option ProjectionCheckpoint} {f : ProjectionBatchResult → α}
    {Q : History → α → Prop} (hQ : ∀ h' r, Q h' (f r)) :
    Tracks scope fenceToken ((failureResult projectorId key code checkpoint sequence).bind fun r => .ret (f r)) Q h :=
  tracks_bind (drifting_tracks fun _ => trivial) fun h' r _ (_ : True) => hQ h' r

/-- A checkpoint the batch may go on from. -/
def Usable (scope : ProjectionScope) (fenceToken : ℤ) (current : ProjectionCheckpoint) : Prop :=
  current.scope = scope ∧ current.fenceToken ≤ fenceToken

theorem checkFence_tracks : Tracks scope fenceToken (checkFence fenceToken) (fun _ _ => True) h := by
  unfold checkFence
  split_ifs
  · trivial
  · exact tracks_raise _ _

theorem checkLimit_tracks : Tracks scope fenceToken (checkLimit limit) (fun _ _ => True) h := by
  unfold checkLimit
  split_ifs
  · trivial
  · exact tracks_raise _ _

theorem readCheckpoint_tracks : Tracks scope fenceToken (readCheckpoint projectorId scope fenceToken)
    (fun _ current => Usable scope fenceToken current) h := by
  refine tracks_bind checkFence_tracks ?_
  intro h₁ _ _ _
  refine tracks_bind (Q := fun _ _ => True) (tracks_call trivial fun r => tracks_ofExcept fun _ _ => trivial) ?_
  intro h₂ stored _ _
  cases stored with
  | none =>
    refine tracks_ofExcept ?_
    intro current hc
    unfold ProjectionCheckpoint.initialFor at hc
    split_ifs at hc
    cases hc
    exact ⟨rfl,le_refl _⟩
  | some current =>
    dsimp only
    split_ifs with hm hs hs
    · exact tracks_raise _ _
    · exact tracks_raise _ _
    · exact tracks_raise _ _
    · rw [not_or,not_not,not_not] at hm
      exact ⟨hm.2,not_lt.mp hs⟩

def Opened (scope : ProjectionScope) (fenceToken : ℤ) (h : History) (batch : Batch) : Prop :=
  Usable scope fenceToken batch.current ∧ batch.persisted = persistedOf batch.current ∧
    ∃ after limit, ⟨.readAfter scope after limit,.ok batch.events⟩ ∈ h

theorem openBatch_tracks : Tracks scope fenceToken (openBatch projectorId scope fenceToken limit)
    (fun h' opened => ∀ batch, opened = .inr batch → Opened scope fenceToken h' batch) h := by
  refine tracks_bind (Q := fun _ opened => ∀ current, opened = .inr current → Usable scope fenceToken current) ?_ ?_
  · refine tracks_guarded ?_ ?_ ?_
    · refine tracks_bind readCheckpoint_tracks ?_
      intro h' current _ hu c hc
      cases hc
      exact hu
    · exact fun _ => failureResult_tracks fun _ _ _ hno => by cases hno
    · exact fun _ => failureResult_tracks fun _ _ _ hno => by cases hno
  · intro h' opened _ hopened
    cases opened with
    | inl aborted => exact fun _ hno => by cases hno
    | inr current =>
      refine tracks_bind (Q := fun h' read => ∀ events, read = .inr events →
        (⟨.readAfter scope current.lastSequence limit,.ok events⟩ : Event Call Call.Answer) ∈ h') ?_ ?_
      · refine tracks_guarded ?_ ?_ ?_
        · refine tracks_bind (Q := fun h' events =>
            (⟨.readAfter scope current.lastSequence limit,.ok events⟩ : Event Call Call.Answer) ∈ h') ?_ ?_
          · refine tracks_call trivial fun r => tracks_ofExcept ?_
            rintro a rfl
            exact List.mem_append_right _ (List.mem_singleton_self _)
          · intro h' events _ hpage e he
            cases he
            exact hpage
        · exact fun _ => failureResult_tracks fun _ _ _ hno => by cases hno
        · exact fun _ => failureResult_tracks fun _ _ _ hno => by cases hno
      · intro h' read _ hread
        cases read with
        | inl aborted => exact fun _ hno => by cases hno
        | inr events =>
          dsimp only
          split_ifs
          · exact failureResult_tracks fun _ _ _ hno => by cases hno
          · intro batch hb
            cases hb
            exact ⟨hopened _ rfl,rfl,_,_,hread _ rfl⟩

/-- The state of the loop over the page. -/
def Ready (scope : ProjectionScope) (fenceToken : ℤ) (step : EventStep) : Prop :=
  Usable scope fenceToken step.current ∧ step.persisted = persistedOf step.current

variable {current : ProjectionCheckpoint}

theorem applyAndSave_tracks {event : OutboxEnvelope} (hu : Usable scope fenceToken current) (hc : scope.Covers event)
    (hpage : Follows scope fenceToken h (.applyEvent event fenceToken)) :
    Tracks scope fenceToken (applyAndSave scope event current (persistedOf current) fenceToken)
      (fun _ next => Usable scope fenceToken next ∧ 0 < next.lastSequence) h := by
  refine tracks_bind (Q := fun h' reply => (⟨.applyEvent event fenceToken,.ok reply⟩ : Event Call Call.Answer) ∈ h') ?_ ?_
  · refine tracks_call hpage fun r => tracks_ofExcept ?_
    rintro reply rfl
    exact List.mem_append_right _ (List.mem_singleton_self _)
  intro h₁ reply _ hreply
  refine tracks_bind (Q := fun h' _ => h' = h₁ ∧ checkReceipt event reply = .ok ()) (tracks_ofExcept fun _ hok => ⟨rfl,hok⟩) ?_
  rintro _ _ _ ⟨rfl,hok⟩
  obtain ⟨receipt,rfl,hack⟩ := checkReceipt_ok hok
  refine tracks_bind (Q := fun h' next => h' = _ ∧ current.afterEvent event fenceToken = .ok next)
    (tracks_ofExcept fun _ hnext => ⟨rfl,hnext⟩) ?_
  rintro _ next _ ⟨rfl,hnext⟩
  obtain ⟨hseq,_,hf,rfl⟩ := ProjectionCheckpoint.afterEvent_ok hnext
  refine tracks_bind (Q := fun _ _ => True) ?_ ?_
  · refine tracks_call ?_ fun r => tracks_ofExcept fun _ _ => trivial
    exact ⟨rfl,current,event,receipt,hreply,hack,hc,hseq,hu.2,rfl,hf,rfl⟩
  · intro _ _ _ _
    exact ⟨⟨hu.1,le_refl _⟩,event.positive⟩

theorem applyEvent_tracks {event : OutboxEnvelope} (hu : Usable scope fenceToken current) (hc : scope.Covers event)
    (hpage : Follows scope fenceToken h (.applyEvent event fenceToken)) :
    Tracks scope fenceToken (applyEvent projectorId scope event current (persistedOf current) fenceToken)
      (fun _ step => Ready scope fenceToken step) h := by
  refine tracks_guarded ?_ ?_ ?_
  · refine tracks_bind (applyAndSave_tracks hu hc hpage) ?_
    intro _ next _ hnext
    exact ⟨hnext.1,(if_pos hnext.2).symm⟩
  · exact fun _ => drifting_tracks fun _ => ⟨hu,rfl⟩
  · exact fun _ => drifting_tracks fun _ => ⟨hu,rfl⟩

theorem stepEvent_tracks {item : PageItem} (hu : Usable scope fenceToken current)
    (hpage : ∃ after limit page, ⟨.readAfter scope after limit,.ok page⟩ ∈ h ∧ item ∈ page) :
    Tracks scope fenceToken (stepEvent projectorId scope item current (persistedOf current) fenceToken)
      (fun _ step => Ready scope fenceToken step) h := by
  refine tracks_bind (Q := fun _ checked => (∀ step, checked = .inl step → Ready scope fenceToken step) ∧
    ∀ event, checked = .inr event → item = .envelope event ∧ scope.Covers event) ?_ ?_
  · unfold validateEventIdentity
    cases item with
    | other =>
      refine drifting_tracks fun _ => ⟨?_,fun _ hno => by cases hno⟩
      rintro _ ⟨⟩
      exact ⟨hu,rfl⟩
    | envelope event =>
      dsimp only
      split_ifs with hout
      · refine drifting_tracks fun _ => ⟨?_,fun _ hno => by cases hno⟩
        rintro _ ⟨⟩
        exact ⟨hu,rfl⟩
      · refine ⟨fun _ hno => (by cases hno),?_⟩
        rintro _ ⟨⟩
        rw [not_or,not_not,not_not] at hout
        exact ⟨rfl,hout⟩
  · intro h' checked hgrow hchecked
    cases checked with
    | inl step => exact hchecked.1 _ rfl
    | inr event =>
      obtain ⟨rfl,hc⟩ := hchecked.2 _ rfl
      obtain ⟨after,lim,page,hread,hitem⟩ := hpage
      refine tracks_bind (Q := fun _ classified => ∀ step, classified = some step → Ready scope fenceToken step) ?_ ?_
      · unfold classifyEventSequence
        split_ifs
        · rintro _ ⟨⟩
          exact ⟨hu,rfl⟩
        · refine drifting_tracks fun _ => ?_
          rintro _ ⟨⟩
          exact ⟨hu,rfl⟩
        · refine drifting_tracks fun _ => ?_
          rintro _ ⟨⟩
          exact ⟨hu,rfl⟩
        · exact fun _ hno => by cases hno
      · intro h'' classified hgrow' hclassified
        cases classified with
        | some step => exact hclassified _ rfl
        | none => exact applyEvent_tracks hu hc ⟨after,lim,page,hgrow' (hgrow hread),hitem⟩

theorem projectEvents_tracks {page : List PageItem} {after : ℕ} (items : List PageItem) (hsub : items ⊆ page)
    (hu : Usable scope fenceToken current) (outcomes : List ProjectionOutcome)
    (hread : ⟨.readAfter scope after limit,.ok page⟩ ∈ h) :
    Tracks scope fenceToken (projectEvents projectorId scope fenceToken items current (persistedOf current) outcomes)
      (fun _ _ => True) h := by
  induction items generalizing current outcomes h with
  | nil => exact trivial
  | cons item rest ih =>
    have hitem : item ∈ page := hsub (List.mem_cons_self ..)
    have hrest : rest ⊆ page := fun x hx => hsub (List.mem_cons_of_mem _ hx)
    refine tracks_bind (stepEvent_tracks hu ⟨after,limit,page,hread,hitem⟩) ?_
    intro h' step hgrow hready
    split_ifs
    · exact trivial
    · rw [hready.2]
      exact ih hrest hready.1 _ (hgrow hread)

theorem projectScope_follows (projectorId : String) (scope : ProjectionScope) (fenceToken limit : ℤ) :
    (projectScope projectorId scope fenceToken limit).Meets Prog.record (Follows scope fenceToken) (fun _ _ => True)
      (fun _ _ => True) [] := by
  refine tracks_bind checkLimit_tracks ?_
  intro h₁ _ _ _
  refine tracks_bind openBatch_tracks ?_
  intro h₂ opened _ hopened
  cases opened with
  | inl aborted => exact trivial
  | inr batch =>
    obtain ⟨hu,hp,after,lim,hread⟩ := hopened _ rfl
    dsimp only
    rw [hp]
    refine tracks_bind (projectEvents_tracks _ (List.Subset.refl _) hu [] hread) ?_
    intro _ _ _ _
    exact trivial

end
end Arbora.Projection
