import Arbora.WebUi.RetentionLaw

/-! Who may place a hold and lift it, where a hold goes back to, and that tenants and workspaces are apart. -/
namespace Arbora.WebUi
open Guards Machine
open PolicyPlane (OpaqueRef)

section
variable {s t : InMemoryWebUiRepository} {request : Request}

theorem held_of_alike {key : Key} (h : Alike (standing t key) (standing s key)) : Held s key ↔ Held t key := by
  unfold Held
  rw [h.state]

theorem held_record {key : Key} {record : RetentionRecord} (h : Current s key record) (hheld : record.state = .legalHold) :
    s.retention.get key = some record := by
  rcases h with h | ⟨_,_,rfl⟩
  · exact h
  · cases hheld

theorem holdsAreAdmins_or_lifts (s : InMemoryWebUiRepository) (request : Request) :
    HoldsAreAdmins s request ∨ LiftsWithoutAdmin s request := by
  have heffect := step_effect s request
  unfold HoldsAreAdmins
  generalize (step s request).2 = t at heffect
  cases heffect with
  | idle => exact .inl fun key => .inl Iff.rfl
  | looked hkey hpresent hlooked => exact .inl fun key => .inl (held_of_alike (hlooked.alike key))
  | stored hkey hswap hlooked => exact .inl fun key => .inl (held_of_alike (hlooked.alike key))
  | @moved entityKind entityRef target context expectedVersion clock legalHoldRef kind ref state hold updated hkind href
      htarget hhold hclock hmoved =>
    obtain ⟨current,next,effectiveAt,hcurrent,hversion,_,htransition,hbuild⟩ := hmoved.found
    have hstate := (buildRecord_eq hbuild).1
    have hpermitted := hmoved.permitted
    have hothers : next.state ≠ .legalHold → current.state ≠ .legalHold → ∀ key, Held s key ↔
        Held (setRetention ⟨kind,context.tenantRef,context.workspaceRef,ref⟩ updated s) key := by
      intro hnext hcur key
      unfold Held
      rw [standing_setRetention]
      split_ifs with hkey
      · subst hkey
        rw [← hcurrent.alike.state,hstate]
        exact iff_of_false hcur hnext
      · exact Iff.rfl
    cases htransition with
    | place hresume => exact .inl fun key => .inr hpermitted
    | standard hnext =>
      refine .inl fun key => .inl (hothers ?_ ?_ key)
      · intro hsame
        unfold standardNext at hnext
        split at hnext <;> cases hnext <;> cases hsame
      · intro hsame
        rw [hsame] at hnext
        cases hnext
    | @release resume hheld hresume =>
      by_cases hadmin : context.allows .admin = true
      · exact .inl fun key => .inr hadmin
      have hresumes : resume ≠ .deletionPending := by
        rintro rfl
        exact hadmin hpermitted
      have hwrite : context.allows .write = true := by
        cases resume with
        | active => exact hpermitted
        | retained => exact hpermitted
        | deletionPending => exact absurd rfl hresumes
      have hcap : current.version.1 < 2147483647 := by
        unfold buildRecord at hbuild
        split_ifs at hbuild with hlt
        exact hlt
      cases hhold rfl
      cases hversion
      exact .inr ⟨entityKind,entityRef,context,target,kind,ref,current,resume,rfl,hkind,href,
        held_record hcurrent hheld,hheld,hresume,htarget,hresumes,hwrite,Bool.not_eq_true _ ▸ hadmin,hcap,hclock⟩

theorem buildRecord_free {current : RetentionRecord} {state : LifecycleState} (hstate : state ≠ .legalHold)
    (hcap : current.version.1 < 2147483647) (effectiveAt : ℕ) :
    ∃ updated, buildRecord current ⟨state,none,none⟩ effectiveAt = some updated ∧ updated.state = state := by
  have hconsistent : Consistent state none none := by
    unfold Consistent
    rw [if_neg hstate]
    exact ⟨rfl,rfl⟩
  unfold buildRecord
  rw [dif_pos hcap,dif_pos hconsistent]
  exact ⟨_,rfl,rfl⟩

theorem resume_ne_held (resume : RetentionResumeState) : resume.state ≠ .legalHold := by
  cases resume <;> decide

theorem transitionRetention_lifts {entityKind entityRef target : String} {context : AccessContext} {kind : EntityKind}
    {ref : OpaqueRef} {record : RetentionRecord} {resume : RetentionResumeState} {clock : Clock} (hkept : Kept s)
    (hkind : kindOf entityKind = some kind) (href : refOf entityRef = some ref)
    (hget : s.retention.get ⟨kind,context.tenantRef,context.workspaceRef,ref⟩ = some record)
    (hheld : record.state = .legalHold) (hresume : record.resumeState = some resume)
    (htarget : targetOf target = some resume.state)
    (hpermission : context.allows (retentionPermission resume.state) = true) (hcap : record.version.1 < 2147483647)
    (hclock : clock.updated.isSome = true) : ∃ updated, updated.state = resume.state ∧
      (transitionRetention entityKind entityRef context record.version.1 target none clock).run s =
        .ok updated (setRetention ⟨kind,context.tenantRef,context.workspaceRef,ref⟩ updated s) := by
  obtain ⟨now,hnow⟩ := Option.isSome_iff_exists.mp hclock
  obtain ⟨updated,hbuild,hupdated⟩ := buildRecord_free (resume_ne_held resume) hcap (max 0 now).toNat
  refine ⟨updated,hupdated,?_⟩
  have hpresent : s.entities.get ⟨kind,context.tenantRef,context.workspaceRef,ref⟩ ≠ none := by
    intro hnone
    rw [hkept.recorded _ hnone] at hget
    cases hget
  have hretained : (retentionFor ⟨kind,context.tenantRef,context.workspaceRef,ref⟩ clock).run s = .ok record s := by
    unfold retentionFor
    rw [get_bind_ok,hget]
    exact pure_ok.mpr ⟨rfl,rfl⟩
  have hrelease : (retentionTransition record resume.state none).run s = .ok ⟨resume.state,none,none⟩ s := by
    unfold retentionTransition
    rw [if_neg (resume_ne_held resume),if_pos hheld]
    refine refuse_bind_ok.mpr ⟨?_,pure_ok.mpr ⟨rfl,rfl⟩⟩
    rw [hresume]
    simp
  have hrecord : (updatedRetention record ⟨resume.state,none,none⟩ clock).run s = .ok updated s := by
    refine refuse_bind_ok.mpr ⟨not_le.mpr hcap,found_bind_ok.mpr ⟨(max 0 now).toNat,?_,found_ok.mpr ⟨hbuild,rfl⟩⟩⟩
    rw [hnow]
    rfl
  have hversion : ¬ (Option.any (· < 1) (some (record.version.1 : ℤ))) = true := by
    have hpos := record.version.2.1
    simp only [Option.any_some,decide_eq_true_eq]
    omega
  have hchange : resume.state ≠ record.state := by
    rw [hheld]
    exact resume_ne_held resume
  unfold transitionRetention
  refine found_bind_ok.mpr ⟨kind,hkind,found_bind_ok.mpr ⟨ref,href,refuse_bind_ok.mpr ⟨hversion,?_⟩⟩⟩
  refine found_bind_ok.mpr ⟨resume.state,htarget,bind_ok.mpr ⟨none,s,pure_ok.mpr ⟨rfl,rfl⟩,?_⟩⟩
  refine requireContext_bind_ok.mpr ⟨hpermission,requireScope_bind_ok.mpr ⟨hpermission,⟨rfl,rfl⟩,?_⟩⟩
  refine get_bind_ok.mpr (refuse_bind_ok.mpr ⟨not_not.mpr (Dict.mem_keys.mpr hpresent),?_⟩)
  refine bind_ok.mpr ⟨record,s,hretained,refuse_bind_ok.mpr ⟨not_not.mpr rfl,?_⟩⟩
  rw [if_neg hchange]
  exact bind_ok.mpr ⟨_,s,hrelease,bind_ok.mpr ⟨updated,s,hrecord,modify_bind_ok.mpr (pure_ok.mpr ⟨rfl,rfl⟩)⟩⟩

theorem lifts_of_liftsWithoutAdmin (hkept : Kept s) (h : LiftsWithoutAdmin s request) : ¬ HoldsAreAdmins s request := by
  obtain ⟨entityKind,entityRef,context,target,kind,ref,record,resume,hcall,hkind,href,hget,hheld,hresume,htarget,hne,
    hwrite,hadmin,hcap,hclock⟩ := h
  obtain ⟨call,clock⟩ := request
  cases hcall
  have hpermission : context.allows (retentionPermission resume.state) = true := by
    cases resume with
    | active => exact hwrite
    | retained => exact hwrite
    | deletionPending => exact absurd rfl hne
  obtain ⟨updated,hupdated,hrun⟩ :=
    transitionRetention_lifts hkept hkind href hget hheld hresume htarget hpermission hcap hclock
  have hmap : (Answer.retention <$> transitionRetention entityKind entityRef context record.version.1 target none
      clock).run s = .ok (.retention updated) _ := map_ok.mpr ⟨updated,hrun,rfl⟩
  have hafter : (step s ⟨.transitionRetention entityKind entityRef context record.version.1 target none,clock⟩).2 =
      setRetention ⟨kind,context.tenantRef,context.workspaceRef,ref⟩ updated s := by
    unfold step Request.run
    dsimp only
    rw [hmap]
  intro hadmins
  rcases hadmins ⟨kind,context.tenantRef,context.workspaceRef,ref⟩ with hiff | hallowed
  · have hstill := hiff.mp ((Current.alike (.inl hget)).state.symm.trans hheld)
    rw [hafter,Held,standing_setRetention,if_pos rfl,hupdated] at hstill
    exact resume_ne_held resume hstill
  · exact absurd (hallowed.symm.trans hadmin) (by decide)

theorem holdsAreAdmins_iff (hkept : Kept s) (request : Request) :
    HoldsAreAdmins s request ↔ ¬ LiftsWithoutAdmin s request := by
  constructor
  · intro h hlifts
    exact lifts_of_liftsWithoutAdmin hkept hlifts h
  · intro h
    exact (holdsAreAdmins_or_lifts s request).resolve_right h

end

section
variable {s : InMemoryWebUiRepository} {key : Key}

/-- What a call keeps of the state a hold goes back to. -/
structure Resumes (before after : RetentionRecord) : Prop where
  placed : before.state ≠ .legalHold → after.state = .legalHold → after.resumeState.map (·.state) = some before.state
  kept : before.state = .legalHold → after.state = .legalHold → after.resumeState = before.resumeState
  lifted : before.state = .legalHold → after.state ≠ .legalHold → before.resumeState.map (·.state) = some after.state

theorem Alike.resumes {r r' : RetentionRecord} (h : Alike r' r) : Resumes r r' :=
  ⟨fun hnot hheld => absurd (h.state.symm.trans hheld) hnot,fun _ _ => h.resumeState,
    fun hheld hnot => absurd (h.state.trans hheld) hnot⟩

theorem Transition.resumes {current updated : RetentionRecord} {state : LifecycleState} {hold : Option OpaqueRef}
    {next : Next} {effectiveAt : ℕ} (h : Transition current state hold next) (hchange : state ≠ current.state)
    (hbuild : buildRecord current next effectiveAt = some updated) : Resumes current updated := by
  obtain ⟨hstate,_,hresume⟩ := buildRecord_eq hbuild
  cases h with
  | @place ref resume h =>
    refine ⟨fun _ _ => ?_,fun hheld _ => absurd hheld.symm hchange,fun hheld _ => absurd hheld.symm hchange⟩
    rw [hresume,h]
    rfl
  | @release resume hheld h =>
    refine ⟨fun hnot _ => absurd hheld hnot,fun _ hstill => ?_,fun _ _ => ?_⟩
    · exact absurd (hstate.symm.trans hstill) (resume_ne_held resume)
    · rw [h,hstate]
      rfl
  | standard h =>
    have hends : current.state ≠ .legalHold ∧ state ≠ .legalHold := by
      generalize current.state = source at h
      unfold standardNext at h
      split at h <;> cases h <;> decide
    refine ⟨fun _ hheld => ?_,fun hheld _ => absurd hheld hends.1,fun hheld _ => absurd hheld hends.1⟩
    exact absurd (hstate.symm.trans hheld) hends.2

theorem resumes_step (s : InMemoryWebUiRepository) (request : Request) (key : Key) :
    Resumes (standing s key) (standing (step s request).2 key) := by
  have heffect := step_effect s request
  generalize (step s request).2 = t at heffect
  cases heffect with
  | idle => exact (Alike.refl _).resumes
  | looked hkey hpresent hlooked => exact (hlooked.alike key).resumes
  | stored hkey hswap hlooked => exact (hlooked.alike key).resumes
  | moved hkind href htarget hhold hclock hmoved =>
    obtain ⟨current,next,effectiveAt,hcurrent,_,hchange,htransition,hbuild⟩ := hmoved.found
    rw [standing_setRetention]
    split_ifs with hkey
    · subst hkey
      have hresumes := htransition.resumes hchange hbuild
      obtain ⟨hstate,_,_,hresume⟩ := hcurrent.alike
      exact ⟨hstate ▸ hresumes.placed,hstate ▸ hresume ▸ hresumes.kept,hstate ▸ hresume ▸ hresumes.lifted⟩
    · exact (Alike.refl _).resumes

theorem resumeState_of_held {requests : List Request} (hheld : Held s key)
    (hall : ∀ n ≤ requests.length, Held (after step s (requests.take n)) key) :
    (standing (after step s requests) key).resumeState = (standing s key).resumeState := by
  induction requests generalizing s with
  | nil => rfl
  | cons request rest ih =>
    have hnext : Held (step s request).2 key := hall 1 (by simp)
    rw [after_cons,ih hnext fun n hn => hall (n+1) (Nat.succ_le_succ hn)]
    exact (resumes_step s request key).kept hheld hnext

/-- Whoever lifts a hold, and whatever came between, the entity is where the hold was placed. -/
def HoldsReturn (start : InMemoryWebUiRepository) (requests : List Request) : Prop :=
  ∀ before place between lift rest key, requests = before ++ place :: (between ++ lift :: rest) →
    ¬ Held (after step start before) key →
    (∀ n ≤ between.length, Held (after step start (before ++ place :: between.take n)) key) →
    ¬ Held (after step start (before ++ place :: (between ++ [lift]))) key →
    (standing (after step start (before ++ place :: (between ++ [lift]))) key).state =
      (standing (after step start before) key).state

theorem holdsReturn (start : InMemoryWebUiRepository) (requests : List Request) : HoldsReturn start requests := by
  intro before place between lift rest key _ hbefore hbetween hlifted
  simp only [after_append,after_cons] at hbetween hlifted ⊢
  have hplaced : Held (step (after step start before) place).2 key := hbetween 0 (Nat.zero_le _)
  have hlasts := hbetween between.length le_rfl
  rw [List.take_length] at hlasts
  have hplace := (resumes_step (after step start before) place key).placed hbefore hplaced
  have hkept := resumeState_of_held hplaced hbetween
  have hlift := (resumes_step _ lift key).lifted hlasts hlifted
  rw [hkept,hplace] at hlift
  exact (Option.some.inj hlift).symm

end

end Arbora.WebUi
