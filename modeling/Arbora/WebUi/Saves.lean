import Mathlib.Data.List.Induction
import Arbora.WebUi.RetentionLaw

/-! What was saved under a key, and what the calls tell of it. -/
namespace Arbora.WebUi
open Guards Machine

/-- What a save expects that stores the next version. -/
def expectedAt : ℕ → Option ℤ
  | 0 => none
  | n+1 => some (n+1)

/-- What the call expected and stored, if it changed what is stored under the key. -/
def saveOf (key : Key) (s : InMemoryWebUiRepository) (request : Request) : List (Option ℤ × WebUiEntity) :=
  if (step s request).2.entities.get key = s.entities.get key then []
  else match request.call with
    | .put entity _ expectedVersion => [(expectedVersion,entity)]
    | _ => []

def saves (key : Key) : InMemoryWebUiRepository → List Request → List (Option ℤ × WebUiEntity)
  | _, [] => []
  | s, request :: rest => saveOf key s request ++ saves key (step s request).2 rest

/-- One line of saves: each expects the version before its own, and the last is stored. -/
structure Line (saves : List (Option ℤ × WebUiEntity)) (stored : Option WebUiEntity) : Prop where
  numbered : saves.map (fun save => (save.1,save.2.version.1)) =
    (List.range saves.length).map fun n => (expectedAt n,n+1)
  version : stored.elim 0 (·.version.1) = saves.length
  stored : stored = saves.getLast?.map Prod.snd

/-- Whatever a call answers is the last save; a save that is refused is a first one. -/
structure Told (requests : List Request) (request : Request) : Prop where
  entities : ∀ answer, (step (after step .empty requests) request).1 = .ok answer → ∀ entity ∈ answer.entities,
    (saves (keyFor entity request.call.context) .empty (requests ++ [request])).getLast?.map Prod.snd = some entity
  nothing : ∀ entityKind entityRef context, request.call = .get entityKind entityRef context →
    (step (after step .empty requests) request).1 = .ok .nothing → ∃ kind ref, kindOf entityKind = some kind ∧
      refOf entityRef = some ref ∧ saves ⟨kind,context.tenantRef,context.workspaceRef,ref⟩ .empty requests = []
  refused : ∀ e, (step (after step .empty requests) request).1 = .error e → ∀ key,
    saveOf key (after step .empty requests) request ≠ [] → saves key .empty requests = []

section
variable {s t : InMemoryWebUiRepository} {key : Key} {entity : WebUiEntity} {context : AccessContext}

theorem saves_concat (s : InMemoryWebUiRepository) (requests : List Request) (request : Request) :
    saves key s (requests ++ [request]) = saves key s requests ++ saveOf key (after step s requests) request := by
  induction requests generalizing s with
  | nil => exact List.append_nil _
  | cons first rest ih =>
    rw [List.cons_append,saves,ih,after_cons,saves,List.append_assoc]

theorem Line.next {history : List (Option ℤ × WebUiEntity)} (h : Line history (s.entities.get key)) (request : Request) :
    Line (history ++ saveOf key s request) ((step s request).2.entities.get key) := by
  unfold saveOf
  split_ifs with hsame
  · rwa [List.append_nil,hsame]
  have heffect := step_effect s request
  generalize (step s request).2 = t at heffect hsame
  cases heffect with
  | idle => exact absurd rfl hsame
  | looked _ _ hlooked => exact absurd (by rw [hlooked.entities]) hsame
  | moved => exact absurd rfl hsame
  | @stored entity context expectedVersion clock t _ hswap hlooked =>
    by_cases hkey : key = keyFor entity context
    · have hnext : expectedVersion = expectedAt history.length ∧ entity.version.1 = history.length+1 := by
        rw [← h.version,hkey]
        rcases hswap with ⟨hnone,rfl,hversion⟩ | ⟨existing,hget,rfl,hversion,_⟩
        · rw [hnone]
          exact ⟨rfl,hversion⟩
        · obtain ⟨n,hn⟩ : ∃ n, existing.version.1 = n+1 := ⟨_,(Nat.sub_add_cancel existing.version.2.1).symm⟩
          rw [hget,Option.elim_some,hversion,hn]
          exact ⟨rfl,rfl⟩
      have hstored : (setEntity (keyFor entity context) entity t).entities.get key = some entity := by
        rw [hkey]
        exact Dict.get_set_self ..
      rw [hstored]
      refine ⟨?_,by simp [hnext.2],by simp⟩
      rw [List.map_append,h.numbered,List.length_append,List.length_singleton,List.range_succ,List.map_append]
      simp [hnext]
    · refine absurd ?_ hsame
      rw [setEntity,Dict.get_set_ne _ _ hkey,hlooked.entities]

theorem line_after (key : Key) (requests : List Request) :
    Line (saves key .empty requests) ((after step .empty requests).entities.get key) := by
  induction requests using List.reverseRecOn with
  | nil => exact ⟨rfl,rfl,rfl⟩
  | append_singleton requests request ih =>
    rw [saves_concat,after_append]
    exact ih.next request

variable {expectedVersion : Option ℤ} {clock : Clock} {e : WebUiError} {saved : WebUiEntity}

theorem storeEntity_recorded {record : RetentionRecord} (hrecord : s.retention.get key = some record) :
    (storeEntity key entity clock).run s = .ok entity (setEntity key entity s) := by
  have hrun : (retentionFor key clock).run (setEntity key entity s) = .ok record (setEntity key entity s) := by
    unfold retentionFor
    rw [get_bind_ok,setEntity,hrecord]
    rfl
  exact modify_bind_ok.mpr (bind_ok.mpr ⟨_,_,map_ok.mpr ⟨record,hrun,rfl⟩,rfl⟩)

theorem put_refused (h : (put entity context expectedVersion clock).run s = .error e t)
    (hpresent : s.entities.get (keyFor entity context) ≠ none) : t.entities = s.entities := by
  rcases (reads_refuse _ _).error_bind h with rfl | ⟨_,_,h⟩
  · rfl
  rcases (reads_requireContext _ _).error_bind h with rfl | ⟨_,_,h⟩
  · rfl
  rcases (reads_found _ _).error_bind h with rfl | ⟨ref,href,h⟩
  · rfl
  cases (refOf_coe entity.entityRef).symm.trans (found_ok.mp href).1
  rcases (reads_requireScope _ _ _ _).error_bind h with rfl | ⟨_,_,h⟩
  · rfl
  rcases (reads_refuse _ _).error_bind h with rfl | ⟨_,_,h⟩
  · rfl
  rcases reads_get.error_bind h with rfl | ⟨_,hget,h⟩
  · rfl
  cases hget
  obtain ⟨existing,hexisting⟩ := Option.ne_none_iff_exists'.mp hpresent
  have hfound := hexisting
  unfold keyFor at hfound
  simp only [hfound] at h
  rcases bind_error.mp h with h | ⟨record,u,hrecord,h⟩
  · rw [atomic_retentionFor _ _ _ _ _ h]
  obtain ⟨_,_,hrecord,hentities⟩ := retentionFor_ok hrecord
  rcases (reads_refuse _ _).error_bind h with rfl | ⟨_,_,h⟩
  · exact hentities
  split_ifs at h with hsame
  · cases h
  rcases (reads_refuse _ _).error_bind h with rfl | ⟨_,_,h⟩
  · exact hentities
  rcases (reads_refuse _ _).error_bind h with rfl | ⟨_,_,h⟩
  · exact hentities
  rw [storeEntity_recorded hrecord] at h
  cases h

theorem told_entities (hkept : Kept s) {request : Request} {answer : Answer} (h : (step s request).1 = .ok answer)
    (hentity : entity ∈ answer.entities) :
    (step s request).2.entities.get (keyFor entity request.call.context) = some entity := by
  obtain ⟨t,hrun⟩ := run_of_step h
  have hstep : (step s request).2 = t := by rw [step,hrun]
  rw [hstep]
  obtain ⟨call,clock⟩ := request
  cases call with
  | put submitted context expectedVersion =>
    obtain ⟨saved,hput,rfl⟩ := map_ok.mp hrun
    cases List.mem_singleton.mp hentity
    obtain ⟨rfl,hstored,_⟩ := put_ok hkept hput
    exact hstored
  | get entityKind entityRef context =>
    obtain ⟨a,ha,rfl⟩ := map_ok.mp hrun
    cases (reads_getEntity _ _ _).1 _ _ _ ha
    obtain ⟨kind,ref,_,_,hget,_⟩ := getEntity_ok ha
    cases a with
    | none => cases hentity
    | some found =>
      cases List.mem_singleton.mp hentity
      exact (congrArg s.entities.get (hkept.home _ _ hget context ⟨rfl,rfl⟩)).trans hget
  | page entityKind context pageRequest =>
    obtain ⟨p,hpage,rfl⟩ := map_ok.mp hrun
    cases (reads_page _ _ _).1 _ _ _ hpage
    obtain ⟨kind,hrows⟩ := page_ok hpage
    obtain ⟨_,hrow⟩ := hrows entity hentity
    obtain ⟨ref,_,hget,_⟩ := mem_pageRows.mp hrow
    exact (congrArg s.entities.get (hkept.home _ _ hget context ⟨rfl,rfl⟩)).trans hget
  | transitionRetention entityKind entityRef context expectedVersion target legalHoldRef =>
    obtain ⟨record,_,rfl⟩ := map_ok.mp hrun
    cases hentity

theorem refused_first {request : Request} (h : (step s request).1 = .error e)
    (hsave : saveOf key s request ≠ []) : s.entities.get key = none := by
  unfold saveOf at hsave
  split_ifs at hsave with hsame
  · exact absurd rfl hsave
  by_contra hpresent
  refine hsame ?_
  have heffect := step_effect s request
  unfold step at h heffect ⊢
  cases hrun : request.run.run s with
  | ok answer t =>
    rw [hrun] at h
    cases h
  | error e' t =>
    simp only [hrun] at heffect ⊢
    cases heffect with
    | idle => rfl
    | looked _ _ hlooked => rw [hlooked.entities]
    | moved => rfl
    | @stored entity context expectedVersion clock u _ _ hlooked =>
      rcases eq_or_ne key (keyFor entity context) with rfl | hne
      · obtain hput | ⟨_,_,_,hput⟩ := bind_error.mp hrun
        · rw [put_refused hput hpresent]
        · cases hput
      · rw [setEntity,Dict.get_set_ne _ _ hne,hlooked.entities]

/-- The saves under a key are one line, and nothing but the last of them is told. -/
theorem saves_linear (requests : List Request) :
    (∀ key, Line (saves key .empty requests) ((after step .empty requests).entities.get key)) ∧
      ∀ request, Told requests request := by
  have hkept := kept_after kept_empty requests
  refine ⟨fun key => line_after key requests,fun request => ⟨?_,?_,?_⟩⟩
  · intro answer h entity hentity
    rw [← (line_after _ _).stored,after_append]
    exact told_entities hkept h hentity
  · intro entityKind entityRef context hcall h
    obtain ⟨t,hrun⟩ := run_of_step h
    rw [Request.run,hcall] at hrun
    obtain ⟨a,ha,hanswer⟩ := map_ok.mp hrun
    cases a with
    | some entity => cases hanswer
    | none =>
      obtain ⟨kind,ref,hkind,href,hget,_⟩ := getEntity_ok ha
      have hline := (line_after ⟨kind,context.tenantRef,context.workspaceRef,ref⟩ requests).version
      rw [hget] at hline
      exact ⟨kind,ref,hkind,href,List.length_eq_zero_iff.mp hline.symm⟩
  · intro e h key hsave
    have hline := (line_after key requests).version
    rw [refused_first h hsave] at hline
    exact List.length_eq_zero_iff.mp hline.symm

end
end Arbora.WebUi
