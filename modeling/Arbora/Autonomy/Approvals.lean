import Arbora.Autonomy.HealthyEngine

/-! Holding and granting. -/
namespace Arbora.Autonomy
open Interaction Prog

section
variable (acts : List Act)

def Granting (request : ActionRequest) (a : String) (between : List Act) (request' : ActionRequest) (d' : ActionDecision) :
    Prop :=
  ∃ before held after d time time', acts = before ++ .decided request d time :: held ++ .granted a :: between ++
    .decided request' d' time' :: after ∧ d.disposition = .hold ∧ d.approvalId = some a

def Retried (request : ActionRequest) (a : String) (d' : ActionDecision) : Prop :=
  ∃ between, Granting acts request a between request d' ∧ ∀ d time, .decided request d time ∉ between

def Composes : Prop :=
  (∀ request a d', Retried acts request a d' → d'.allowed = true ∧ d'.approvalId = some a) ∧
  ∀ request a between request' d', Granting acts request a between request' d' → request'.digest ≠ request.digest →
    ¬(d'.allowed = true ∧ d'.approvalId = some a)

end

section
variable {policy : ActionPolicy} {s s' : Store} {acts : List Act}

variable {a : String} {d' : ActionDecision} {C : Store → Act → Prop} {request : ActionRequest}

theorem unaided_of_acting (h : Acting policy C s acts s') {d : ActionDecision} {time : ℚ} (hmem :
    .decided request d time ∈ acts) (hd : d.allowed = true) : d.approvalId = none := by
  induction h with
  | nil => cases hmem
  | cons _ hact _ ih =>
    rcases List.mem_cons.mp hmem with rfl | hrest
    · obtain ⟨g,rule,hpassed⟩ := passed_of_allowed hact.1 hd
      exact hpassed.unaided
    · exact ih hrest

theorem Granting.mem {request' : ActionRequest} {between : List Act} (h :
    Granting acts request a between request' d') : ∃ time, .decided request' d' time ∈ acts := by
  obtain ⟨_,_,_,_,_,time,rfl,_⟩ := h
  exact ⟨time,List.mem_append_right _ List.mem_cons_self⟩

theorem not_composes_of_retried (h : Acting policy C s acts s') (hretried : Retried acts request a d') :
    ¬Composes acts := by
  intro hcomposes
  obtain ⟨hallowed,hcarried⟩ := hcomposes.1 request a d' hretried
  obtain ⟨_,hgranting,_⟩ := hretried
  obtain ⟨time,hmem⟩ := hgranting.mem
  rw [unaided_of_acting h hmem hallowed] at hcarried
  cases hcarried

/-- In a run of decisions and grants, grants are good for nothing: holding and granting compose just where no held
request is decided again after its grant, and what is allowed is so without an approval. -/
theorem approvals_compose_iff (policy : ActionPolicy) {s s' : Store} {acts : List Act}
    (h : Acting policy (fun _ _ => True) s acts s') : (Composes acts ↔ ∀ request a d', ¬Retried acts request a d') ∧
      ∀ request d time, .decided request d time ∈ acts → d.allowed = true → d.approvalId = none := by
  refine ⟨⟨?_,?_⟩,fun request d time hmem hd => unaided_of_acting h hmem hd⟩
  · intro hcomposes request a d' hretried
    exact not_composes_of_retried h hretried hcomposes
  · intro hnone
    refine ⟨fun request a d' hretried => absurd hretried (hnone request a d'),?_⟩
    rintro request a between request' d' hgranting _ ⟨hallowed,hcarried⟩
    obtain ⟨time,hmem⟩ := hgranting.mem
    rw [unaided_of_acting h hmem hallowed] at hcarried
    cases hcarried

namespace Fixture

def careful : ActionPolicy :=
  ⟨true,false,[],"approval_required",none,none,[],fun _ => .ok ⟨true,"",""⟩,none⟩

def holding (approval : String) : ActionDecision :=
  { baseDecision restart careful.defaultRule with
    decision := .queueApproval, reason := "tier requires human approval", approvalId := some ("action_approval:" ++ approval) }

def held (approval audit : String) : ActionDecision := receipted (holding approval) (some ("action_decision:" ++ audit))
def Store.after (s : Store) (digest approval audit : String) : Store :=
  (s.filed restart "tier requires human approval" digest approval).audited (holding approval) digest audit
def retry : List Act := [
  .decided restart (held "1" "2") 0,.granted "action_approval:1",.decided restart (held "3" "4") 0]

theorem reaches_held {s : Store} {digest approval audit : String} (hdigest : restart.digest = .ok digest)
    (hrules : s.rules = []) (hpending : s.pending restart.kind restart.target = []) (hfresh : s.Fresh approval)
    (hfresh' : (s.filed restart "tier requires human approval" digest approval).Fresh audit) :
    Reaches healthy (decide careful restart) s (held approval audit) (Store.after s digest approval audit) := by
  have hnone : Limited 100 s.rules [] := by
    rw [hrules]
    exact limited_take 100 []
  have hrule : Reaches healthy (matchRule careful restart) s careful.defaultRule s := reaches_matchRule rfl hnone rfl
  have hforbidden : careful.defaultRule.tier ≠ .forbidden := by decide
  refine reaches_decide ⟨_,rfl,rfl⟩ hrule ?_ (reaches_bindDecisionReceipt rfl hdigest hfresh' (.inl ?_))
  · rw [ruled_eq hforbidden]
    exact (reaches_grantedApprovalId rfl hdigest).bind (reaches_hold rfl hdigest hpending hfresh)
  · intro hd
    cases hd

theorem acting : ∃ s, Acting careful (fun _ _ => True) .blank retry s := by
  obtain ⟨digest,hdigest⟩ : ∃ digest, restart.digest = .ok digest := ⟨_,rfl⟩
  have hfirst : Reaches healthy (decide careful restart) .blank (held "1" "2") (Store.after .blank digest "1" "2") := by
    refine reaches_held hdigest rfl rfl ?_ ?_ <;> simp [Store.Fresh,Store.filed,Store.blank]
  have hsecond : Reaches healthy (decide careful restart) ((Store.after .blank digest "1" "2").grant "action_approval:1")
      (held "3" "4") (Store.after ((Store.after .blank digest "1" "2").grant "action_approval:1") digest "3" "4") := by
    refine reaches_held hdigest rfl ?_ ?_ ?_ <;>
      simp [Store.Fresh,Store.filed,Store.audited,Store.grant,Store.after,Store.pending,Store.blank]
  exact ⟨_,.cons trivial ⟨hfirst,rfl⟩ (.cons trivial ⟨⟨_,List.mem_singleton.mpr rfl,rfl⟩,rfl⟩
    (.cons trivial ⟨hsecond,rfl⟩ (.nil _)))⟩

theorem retried : Retried retry restart "action_approval:1" (held "3" "4") :=
  ⟨[],⟨[],[],[],held "1" "2",0,0,rfl,rfl,rfl⟩,fun _ _ => List.not_mem_nil⟩

end Fixture

open Fixture in
/-- The restart is held again, with another approval. -/
theorem granted_approval_lost : (∃ s, Acting careful (fun _ _ => True) .blank retry s) ∧ ¬Composes retry := by
  obtain ⟨s,hacting⟩ := acting
  exact ⟨⟨s,hacting⟩,not_composes_of_retried hacting retried⟩

open Fixture in
theorem approvals_compose_iff_retry : ¬Composes retry := by
  obtain ⟨s,hacting⟩ := acting
  exact fun hcomposes => (approvals_compose_iff careful hacting).1.mp hcomposes _ _ _ retried

end

end Arbora.Autonomy
