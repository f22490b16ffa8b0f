import Arbora.WebUi.Isolation

/-! What an anonymous pilot replaces when it saves an entity. -/
namespace Arbora.WebUi
open Guards Machine
open PolicyPlane (OpaqueRef)

def pilotEntityIsBound (entity : WebUiEntity) (context : AccessContext) : Bool :=
  decide (entity.visibility = .private) && [(entity.sessionRef,context.sessionRef),(entity.userRef,pilotUser),
    (entity.ownerRef,pilotUser),(entity.actorRef,pilotActor),(entity.requesterRef,pilotActor)].all fun (value,expected) =>
      value.getD expected = expected

def pilotGuard (entity : WebUiEntity) (context : AccessContext) : Op Unit :=
  refuse (context.anonymousPilot = true ∧ (pilotEntityIsBound entity context = false ∨ entity.isNamedSession = true))
    (plain .pilotBoundary)

def saveEntity (entity : WebUiEntity) (context : AccessContext) (expectedVersion : Option ℤ) (clock : Clock) :
    Op WebUiEntity := do
  pilotGuard entity context
  put entity context expectedVersion clock

structure Save where
  entity : WebUiEntity
  context : AccessContext
  expectedVersion : Option ℤ
  clock : Clock

/-- The save leaves something else where `old` stood. -/
def Replaces (s : InMemoryWebUiRepository) (x : Save) (old : WebUiEntity) : Prop :=
  s.entities.get (keyFor x.entity x.context) = some old ∧
    ∃ t, Ends (saveEntity x.entity x.context x.expectedVersion x.clock) s t ∧
      t.entities.get (keyFor x.entity x.context) ≠ some old

structure InPilotBoundary (entity : WebUiEntity) (context : AccessContext) : Prop where
  visibility : entity.visibility = .private
  sessionRef : ∀ ref ∈ entity.sessionRef, ref = context.sessionRef
  userRef : ∀ ref ∈ entity.userRef, ref = pilotUser
  ownerRef : ∀ ref ∈ entity.ownerRef, ref = pilotUser
  actorRef : ∀ ref ∈ entity.actorRef, ref = pilotActor
  requesterRef : ∀ ref ∈ entity.requesterRef, ref = pilotActor

/-- The new entity is seen by, and belongs to, those whom the old one was seen by and belonged to. -/
structure SameOwners (old new : WebUiEntity) : Prop where
  visibility : old.visibility = new.visibility
  sessionRef : old.sessionRef = new.sessionRef
  userRef : old.userRef = new.userRef
  ownerRef : old.ownerRef = new.ownerRef
  actorRef : old.actorRef = new.actorRef
  requesterRef : old.requesterRef = new.requesterRef

variable {s : InMemoryWebUiRepository} {entity old new : WebUiEntity} {context : AccessContext}

theorem inPilotBoundary_of_bound (h : pilotEntityIsBound entity context = true) : InPilotBoundary entity context := by
  have heq : ∀ {value : Option OpaqueRef} {expected : OpaqueRef}, value.getD expected = expected →
      ∀ ref ∈ value, ref = expected := by
    intro value expected h ref href
    rw [Option.mem_def.mp href] at h
    exact h
  simp only [pilotEntityIsBound,List.all_cons,List.all_nil,Bool.and_true,Bool.and_eq_true,decide_eq_true_eq] at h
  obtain ⟨hvisibility,hsession,huser,howner,hactor,hrequester⟩ := h
  exact ⟨hvisibility,heq hsession,heq huser,heq howner,heq hactor,heq hrequester⟩

theorem owners_of_kind (h : old.entityKind = new.entityKind) :
    old.sessionRef.isSome = new.sessionRef.isSome ∧ old.userRef.isSome = new.userRef.isSome ∧
      old.ownerRef.isSome = new.ownerRef.isSome ∧ old.actorRef.isSome = new.actorRef.isSome ∧
      old.requesterRef.isSome = new.requesterRef.isSome := by
  have hsome : ∀ e : WebUiEntity, e.sessionRef.isSome = decide (e.entityKind ∈ [EntityKind.session,.conversation]) ∧
      e.userRef.isSome = decide (e.entityKind ∈ [EntityKind.user,.profile,.session,.preference]) ∧
      e.ownerRef.isSome = decide (e.entityKind ∈ [EntityKind.savedQuery,.dashboard]) ∧
      e.actorRef.isSome = decide (e.entityKind = .feedback) ∧ e.requesterRef.isSome = decide (e.entityKind = .support) := by
    intro e
    cases e <;> exact ⟨rfl,rfl,rfl,rfl,rfl⟩
  obtain ⟨hsession,huser,howner,hactor,hrequester⟩ := hsome old
  obtain ⟨hsession',huser',howner',hactor',hrequester'⟩ := hsome new
  rw [hsession,huser,howner,hactor,hrequester,hsession',huser',howner',hactor',hrequester',h]
  exact ⟨rfl,rfl,rfl,rfl,rfl⟩

theorem ref_eq {a b : Option OpaqueRef} {expected : OpaqueRef} (hsome : a.isSome = b.isSome)
    (ha : ∀ ref ∈ a, ref = expected) (hb : ∀ ref ∈ b, ref = expected) : a = b := by
  cases a with
  | none =>
    cases b with
    | none => rfl
    | some b => cases hsome
  | some a =>
    cases b with
    | none => cases hsome
    | some b => rw [ha a rfl,hb b rfl]

theorem inPilotBoundary_iff (hkind : old.entityKind = new.entityKind) (hnew : InPilotBoundary new context) :
    InPilotBoundary old context ↔ SameOwners old new := by
  constructor
  · intro hold
    obtain ⟨hsession,huser,howner,hactor,hrequester⟩ := owners_of_kind hkind
    exact ⟨hold.visibility.trans hnew.visibility.symm,ref_eq hsession hold.sessionRef hnew.sessionRef,
      ref_eq huser hold.userRef hnew.userRef,ref_eq howner hold.ownerRef hnew.ownerRef,
      ref_eq hactor hold.actorRef hnew.actorRef,ref_eq hrequester hold.requesterRef hnew.requesterRef⟩
  · intro hsame
    exact ⟨hsame.visibility ▸ hnew.visibility,hsame.sessionRef ▸ hnew.sessionRef,hsame.userRef ▸ hnew.userRef,
      hsame.ownerRef ▸ hnew.ownerRef,hsame.actorRef ▸ hnew.actorRef,hsame.requesterRef ▸ hnew.requesterRef⟩

/-- A pilot replaces an entity of its own exactly when the owners stay what they were. -/
theorem pilot_takeover_iff (hs : Reachable step .empty s) (x : Save) (hpilot : x.context.anonymousPilot = true)
    (h : Replaces s x old) : InPilotBoundary old x.context ↔ SameOwners old x.entity := by
  obtain ⟨hold,t,hends,hnew⟩ := h
  rcases ends_refuse_bind hends with rfl | ⟨hbound,-⟩
  · exact absurd hold hnew
  · obtain ⟨requests,rfl⟩ := hs
    have hbound : pilotEntityIsBound x.entity x.context = true := by
      by_contra hfalse
      exact hbound ⟨hpilot,.inl (Bool.not_eq_true _ ▸ hfalse)⟩
    have hhome := (kept_after kept_empty requests).home _ _ hold { x.context with
      tenantRef := (keyFor x.entity x.context).tenantRef, workspaceRef := (keyFor x.entity x.context).workspaceRef } ⟨rfl,rfl⟩
    exact inPilotBoundary_iff (congrArg Key.entityKind hhome) (inPilotBoundary_of_bound hbound)

namespace Fixture

def taken : Save where
  entity := .conversation {
    version := ⟨2,by decide⟩
    digest := digest
    tenantRef := tenant
    workspaceRef := workspace
    conversationRef := key.entityRef
    sessionRef := pilot.sessionRef
    archived := false }
  context := pilot
  expectedVersion := some 1
  clock := clock

theorem replaces_conversation : Replaces (after step .empty (requests.take 1)) taken conversation := by
  refine ⟨by decide +kernel,_,.inl ⟨_,rfl⟩,?_⟩
  decide +kernel

end Fixture

theorem conversation_taken_iff : InPilotBoundary Fixture.conversation Fixture.pilot ↔
    SameOwners Fixture.conversation Fixture.taken.entity :=
  pilot_takeover_iff ⟨Fixture.requests.take 1,rfl⟩ Fixture.taken rfl Fixture.replaces_conversation

/-- A pilot replaces a conversation of an administrator's session. -/
theorem conversation_taken : ¬∀ s x old, Reachable step .empty s → x.context.anonymousPilot = true → Replaces s x old →
    InPilotBoundary old x.context := by
  intro h
  have hinside := h _ _ _ ⟨Fixture.requests.take 1,rfl⟩ rfl Fixture.replaces_conversation
  exact absurd (hinside.sessionRef _ rfl) (by decide)

end Arbora.WebUi
