import Arbora.Sources.Service

/-! What a reconciliation has seen before each of its steps. -/
namespace Arbora.Sources
open Agents (Identifier)
open Interaction Prog

abbrev History := List (Event Call Call.Answer)

def Checked (scope : SourceScope) (manifest : SourceManifest) (h : History) (o : EntryReconciliation) : Prop :=
  match o.outcome with
  | .failed | .partially | .timeout => True
  | .tombstoned => manifest.entry o.entryId = none ∧ ∃ previous,
      ⟨.getCatalogEntry scope o.entryId,.ok (some previous)⟩ ∈ h ∧ previous.tenantId = scope.tenantId ∧
        previous.authorityId = manifest.authorityId ∧ some previous.entryDigest = o.expectedEntryDigest ∧
        previous.relativePath = o.relativePath
  | .added | .updated | .unchanged => ∃ current, manifest.entry o.entryId = some current ∧
      current.relativePath = o.relativePath ∧ o.observedEntryDigest = some current.entryDigest

structure Built (request : SourceReconciliationRequest) (manifest : SourceManifest) (r : SourceReconciliation) : Prop where
  authorityId : r.authorityId = manifest.authorityId
  tenantId : r.tenantId = manifest.tenantId
  manifestId : r.manifestId = manifest.manifestId
  manifestDigest : r.manifestDigest = manifest.manifestDigest
  selected : r.selectedEntryIds = selection request manifest

structure Evidenced (request : SourceReconciliationRequest) (h : History) (manifest : SourceManifest)
    (r : SourceReconciliation) : Prop where
  loaded : ⟨.getManifest request.scope request.manifestId,.ok (some manifest)⟩ ∈ h
  named : manifest.manifestId = request.manifestId
  tenant : manifest.tenantId = request.scope.tenantId
  observed : manifest.observationStatus = .complete
  built : Built request manifest r
  checked : ∀ o ∈ r.outcomes, Checked request.scope manifest h o

/-- The evidence is stored, by this request or before. -/
def Persisted (scope : SourceScope) (h : History) (r stored : SourceReconciliation) : Prop :=
  ⟨.getReconciliation scope r.reconciliationId,.ok (some stored)⟩ ∈ h ∧ ¬ drifted stored r ∨
    ⟨.putReconciliation r,.ok ()⟩ ∈ h ∧ stored = r

structure Current (request : SourceReconciliationRequest) (h : History) (manifest : SourceManifest)
    (current : Option SourceCheckpoint) : Prop where
  read : ⟨.getCheckpoint request.scope manifest.authorityId,.ok current⟩ ∈ h
  scope : ∀ c, current = some c → c.authorityId = manifest.authorityId ∧ c.tenantId = request.scope.tenantId

structure Advances (request : SourceReconciliationRequest) (h : History) (scope : SourceScope)
    (mutation : CheckpointMutation) (checkpoint : SourceCheckpoint) (manifest : SourceManifest)
    (r stored : SourceReconciliation) (current : Option SourceCheckpoint) : Prop where
  evidenced : Evidenced request h manifest r
  persisted : Persisted request.scope h r stored
  complete : stored.complete = true
  goesOn : Current request h manifest current
  later : ∀ c, current = some c → c.manifestRevision.1 ≤ manifest.manifestRevision.1
  scope : scope = request.scope
  mutation : mutation = mutationFor request manifest stored current
  authorityId : checkpoint.authorityId = manifest.authorityId
  tenantId : checkpoint.tenantId = manifest.tenantId
  revision : checkpoint.revision.1 = current.elim 0 (·.revision.1)+1
  manifestId : checkpoint.manifestId = manifest.manifestId
  manifestRevision : checkpoint.manifestRevision = manifest.manifestRevision
  manifestDigest : checkpoint.manifestDigest = manifest.manifestDigest
  reconciliationId : checkpoint.reconciliationId = stored.reconciliationId

def Guard (job : Job) (h : History) : Call → Prop
  | .putReconciliation r =>
    match job with
    | .reconcile request => ∃ manifest, Evidenced request h manifest r
    | .register _ => False
  | .compareAndSwapCheckpoint scope mutation checkpoint =>
    match job with
    | .reconcile request => ∃ manifest r stored current,
        Advances request h scope mutation checkpoint manifest r stored current
    | .register _ => False
  | .putAuthority _ | .putCatalogEntry _ | .putManifest _ =>
    match job with
    | .reconcile _ => False
    | .register _ => True
  | _ => True

/-- No checkpoint is stored so far, if the repository hands out what it stores. -/
def Unswapped (h : History) : Prop :=
  ∀ scope mutation checkpoint applied, ⟨.compareAndSwapCheckpoint scope mutation checkpoint,.ok applied⟩ ∈ h →
    applied ≠ checkpoint

def Call.isRead : Call → Bool
  | .getAuthority .. | .getManifest .. | .getCatalogEntry .. | .getReconciliation .. | .getCheckpoint .. => true
  | _ => false

section
variable {request : SourceReconciliationRequest} {h h' : History} {manifest : SourceManifest} {r : SourceReconciliation}

theorem unswapped_append {x : Event Call Call.Answer} (hun : Unswapped h)
    (hx : ∀ scope mutation checkpoint, x.1 ≠ .compareAndSwapCheckpoint scope mutation checkpoint) :
    Unswapped (h ++ [x]) := by
  intro scope mutation checkpoint applied hmem
  rcases List.mem_append.mp hmem with hold | hnew
  · exact hun scope mutation checkpoint applied hold
  · cases List.mem_singleton.mp hnew
    exact absurd rfl (hx scope mutation checkpoint)

variable {e : Call} {scope : SourceScope}

theorem unswapped_read (hun : Unswapped h) (he : e.isRead = true) (a : e.Answer) : Unswapped (h ++ [⟨e,a⟩]) := by
  refine unswapped_append hun ?_
  rintro scope mutation checkpoint rfl
  cases he

theorem guard_of_isRead {job : Job} (he : e.isRead = true) : Guard job h e := by
  cases e <;> trivial

theorem Checked.mono {o : EntryReconciliation} (hc : Checked scope manifest h o) (hsub : h ⊆ h') :
    Checked scope manifest h' o := by
  unfold Checked at hc ⊢
  split
  all_goals rename_i hout
  all_goals simp only [hout] at hc
  · trivial
  · trivial
  · trivial
  · exact ⟨hc.1,hc.2.choose,hsub hc.2.choose_spec.1,hc.2.choose_spec.2⟩
  · exact hc
  · exact hc
  · exact hc

theorem Evidenced.mono (he : Evidenced request h manifest r) (hsub : h ⊆ h') : Evidenced request h' manifest r :=
  ⟨hsub he.loaded,he.named,he.tenant,he.observed,he.built,fun o ho => (he.checked o ho).mono hsub⟩

theorem Persisted.mono {stored : SourceReconciliation} (hp : Persisted scope h r stored)
    (hsub : h ⊆ h') : Persisted scope h' r stored :=
  hp.imp (fun hr => ⟨hsub hr.1,hr.2⟩) fun hr => ⟨hsub hr.1,hr.2⟩

end

section
variable {α β : Type} {request : SourceReconciliationRequest} {h : History} {Q : History → β → Prop}

/-- A part of a reconciliation that keeps its guards and, where it raises, has stored no checkpoint. -/
abbrev Sound (request : SourceReconciliationRequest) (p : Step β) (Q : History → β → Prop) (h : History) : Prop :=
  p.Meets record (Guard (.reconcile request)) Q (fun v _ => Unswapped v) h

variable {c : Prop} {f : α → Step β} {x : SourceError}

theorem sound_refuse_bind {d : Decidable c} {f : Unit → Step β} (hun : Unswapped h)
    (hf : ¬c → Sound request (f ()) Q h) : Sound request ((refuse c x).bind f) Q h :=
  meets_refuse_bind.mpr ⟨fun _ => hun,hf⟩

theorem sound_refuse {d : Decidable c} {Q : History → Unit → Prop} (hun : Unswapped h)
    (hQ : ¬c → Q h ()) : Sound request (refuse c x) Q h := by
  unfold refuse
  split_ifs with hc
  · exact hun
  · exact hQ hc

theorem sound_found_bind {o : Option α} (hun : Unswapped h)
    (hf : ∀ a, o = some a → Sound request (f a) Q h) : Sound request ((found o x).bind f) Q h :=
  meets_found_bind.mpr ⟨fun _ => hun,hf⟩

theorem sound_read_bind {e : Call} {f : e.Result → Step β} (he : e.isRead = true) (hun : Unswapped h)
    (hf : ∀ a, Unswapped (h ++ [⟨e,.ok a⟩]) → Sound request (f a) Q (h ++ [⟨e,.ok a⟩])) :
    Sound request ((ask e).bind f) Q h :=
  meets_record_demand_bind (guard_of_isRead he) (fun _ => unswapped_read hun he _)
    fun a => hf a (unswapped_read hun he _)

theorem Sound.seq {R : History → α → Prop} {p : Step α} (hp : Sound request p R h)
    (hf : ∀ v a, R v a → h ⊆ v → Sound request (f a) Q v) : Sound request (p.bind f) Q h :=
  Meets.seq (hp.grown.mono (fun _ _ hg => hg) (fun _ _ hq => hq) fun _ _ hx => hx.1) fun v a hR => hf v a hR.1 hR.2

end

section
variable {request : SourceReconciliationRequest} {h : History} {manifest : SourceManifest}

theorem loadManifest_spec (hun : Unswapped h) (authorityId : Identifier) :
    Sound request (loadManifest request.scope authorityId request.manifestId)
      (fun v m => (⟨.getManifest request.scope request.manifestId,.ok (some m)⟩ ∈ v ∧ m.manifestId = request.manifestId ∧
        m.tenantId = request.scope.tenantId) ∧ Unswapped v) h := by
  refine sound_read_bind rfl hun fun manifest hun => sound_found_bind hun fun manifest hm => ?_
  refine sound_refuse_bind hun fun htenant => sound_refuse_bind hun fun hname => sound_read_bind rfl hun fun authority hun => ?_
  refine sound_found_bind hun fun _ _ => sound_refuse_bind hun fun _ => sound_refuse_bind hun fun _ => ?_
  refine sound_refuse_bind hun fun _ => sound_refuse_bind hun fun _ => ?_
  subst hm
  exact ⟨⟨by simp,not_not.mp hname,not_not.mp htenant⟩,hun⟩

theorem validateOutcome_spec (hun : Unswapped h) (o : EntryReconciliation) :
    Sound request (validateOutcome request.scope manifest o)
      (fun v _ => Checked request.scope manifest v o ∧ Unswapped v) h := by
  have hpresent : (o.outcome = .added ∨ o.outcome = .updated ∨ o.outcome = .unchanged) →
      Sound request (validatePresentOutcome o (manifest.entry o.entryId))
        (fun v _ => Checked request.scope manifest v o ∧ Unswapped v) h := by
    intro hkind
    refine sound_found_bind hun fun current hcurrent => sound_refuse_bind hun fun hpath => ?_
    refine sound_refuse_bind hun fun hdigest => ?_
    have hchecked : Checked request.scope manifest h o ∧ Unswapped h := by
      refine ⟨?_,hun⟩
      unfold Checked
      rcases hkind with hkind | hkind | hkind <;> rw [hkind] <;>
        exact ⟨current,hcurrent,not_not.mp hpath,not_not.mp hdigest⟩
    unfold validateDigests
    rcases hkind with hkind | hkind | hkind <;> rw [hkind]
    · exact sound_refuse hun fun _ => hchecked
    · exact sound_refuse_bind hun fun _ => sound_refuse hun fun _ => hchecked
    · exact sound_refuse hun fun _ => hchecked
  have hscope : Sound request (validateOutcomeScope request.scope manifest o) (fun v _ => v = h) h :=
    sound_refuse_bind hun fun _ => sound_refuse hun fun _ => rfl
  refine hscope.seq ?_
  rintro v ⟨⟩ rfl _
  unfold validateKind
  cases hkind : o.outcome with
  | added => exact hpresent (.inl hkind)
  | updated => exact hpresent (.inr (.inl hkind))
  | unchanged => exact hpresent (.inr (.inr hkind))
  | tombstoned =>
    refine sound_refuse_bind hun fun habsent => sound_read_bind rfl hun fun previous hun => ?_
    refine sound_found_bind hun fun previous hprevious => sound_refuse_bind hun fun htenant => ?_
    refine sound_refuse_bind hun fun hauthority => sound_refuse_bind hun fun hdigest => sound_refuse hun fun hpath => ?_
    subst hprevious
    unfold Checked
    rw [hkind]
    exact ⟨⟨not_not.mp habsent,previous,by simp,not_not.mp htenant,not_not.mp hauthority,not_not.mp hdigest,
      not_not.mp hpath⟩,hun⟩
  | failed | partially | timeout =>
    refine sound_refuse_bind hun fun _ => sound_refuse hun fun _ => ⟨?_,hun⟩
    unfold Checked
    rw [hkind]
    trivial

theorem validateOutcomes_spec (hun : Unswapped h) (outcomes : List EntryReconciliation) :
    Sound request (validateOutcomes request.scope manifest outcomes)
      (fun v _ => (∀ o ∈ outcomes, Checked request.scope manifest v o) ∧ Unswapped v) h := by
  induction outcomes generalizing h with
  | nil => exact ⟨fun o ho => absurd ho List.not_mem_nil,hun⟩
  | cons o rest ih =>
    refine (validateOutcome_spec hun o).seq fun v _ hv _ => ?_
    refine (ih hv.2).grown.mono (fun _ _ hg => hg) (fun u _ hu => ⟨?_,hu.1.2⟩) fun _ _ hx => hx.1
    intro o' ho'
    rcases List.mem_cons.mp ho' with rfl | hrest
    · exact hv.1.mono hu.2
    · exact hu.1.1 o' hrest

theorem buildReconciliation_spec {selected : List Identifier} (hun : Unswapped h) (hselected : selected = selection request manifest)
    (hchecked : ∀ o ∈ request.outcomes, Checked request.scope manifest h o) :
    Sound request (buildReconciliation request manifest selected) (fun v r => (Built request manifest r ∧
      ∀ o ∈ r.outcomes, Checked request.scope manifest v o) ∧ Unswapped v) h := by
  unfold buildReconciliation
  dsimp only
  split_ifs with hvalid
  · refine ⟨⟨⟨rfl,rfl,rfl,rfl,hselected⟩,fun o ho => hchecked o ?_⟩,hun⟩
    exact (List.perm_insertionSort _ _).mem_iff.mp ho
  · exact hun

theorem evidence_spec (request : SourceReconciliationRequest) (hun : Unswapped h) :
    Sound request (evidence request) (fun v a => Evidenced request v a.1 a.2 ∧ Unswapped v) h := by
  refine (loadManifest_spec hun request.authorityId).seq fun v manifest hv _ => ?_
  obtain ⟨⟨hloaded,hnamed,htenant⟩,hun⟩ := hv
  have hcomplete : Sound request (validateManifestForCheckpoint manifest)
      (fun u _ => u = v ∧ manifest.observationStatus = .complete) v :=
    sound_refuse_bind hun fun hstatus => sound_refuse hun fun _ => ⟨rfl,not_not.mp hstatus⟩
  refine hcomplete.seq ?_
  rintro u ⟨⟩ ⟨rfl,hobserved⟩ _
  have hselect : Sound request (selectedEntryIds request manifest)
      (fun w selected => w = u ∧ selected = selection request manifest) u := by
    refine sound_refuse_bind hun fun _ => sound_refuse_bind hun fun _ => ?_
    exact ⟨rfl,rfl⟩
  refine hselect.seq ?_
  rintro w selected ⟨rfl,hselected⟩ _
  refine (validateOutcomes_spec hun request.outcomes).seq fun x _ hx hsub => ?_
  refine (buildReconciliation_spec hx.2 hselected hx.1).seq fun y r hy hsub' => ?_
  exact ⟨⟨hsub' (hsub hloaded),hnamed,htenant,hobserved,hy.1.1,hy.1.2⟩,hy.2⟩

variable {stored : SourceReconciliation} {current : Option SourceCheckpoint}

theorem Persisted.same {scope : SourceScope} {r : SourceReconciliation} (hp : Persisted scope h r stored) :
    stored.manifestId = r.manifestId ∧ stored.manifestDigest = r.manifestDigest ∧ stored.authorityId = r.authorityId ∧
      stored.tenantId = r.tenantId ∧ stored.reconciliationId = r.reconciliationId := by
  rcases hp with ⟨_,hsame⟩ | ⟨_,rfl⟩
  · unfold drifted at hsame
    simp only [not_or,not_not] at hsame
    obtain ⟨hdigest,hauthority,htenant,hmanifest,hmanifestDigest⟩ := hsame
    refine ⟨hmanifest,hmanifestDigest,hauthority,htenant,?_⟩
    unfold SourceReconciliation.reconciliationId
    rw [hdigest,hauthority,hmanifest]
  · exact ⟨rfl,rfl,rfl,rfl,rfl⟩

theorem persistReconciliation_spec {r : SourceReconciliation} (hun : Unswapped h) (he : Evidenced request h manifest r) :
    Sound request (persistReconciliation request.scope r)
      (fun v stored => Persisted request.scope v r stored ∧ Unswapped v) h := by
  refine sound_read_bind rfl hun fun existing hun' => ?_
  cases existing with
  | some existing =>
    refine sound_refuse_bind hun' fun hsame => ?_
    exact ⟨.inl ⟨by simp,hsame⟩,hun'⟩
  | none =>
    have hguard : Guard (.reconcile request) (h ++ [⟨.getReconciliation request.scope r.reconciliationId,.ok none⟩])
        (.putReconciliation r) := ⟨manifest,he.mono (List.subset_append_left _ _)⟩
    refine meets_record_demand_bind hguard (fun _ => unswapped_append hun' (by rintro _ _ _ ⟨⟩)) fun _ => ?_
    exact ⟨.inr ⟨by simp,rfl⟩,unswapped_append hun' (by rintro _ _ _ ⟨⟩)⟩

structure Concluded (request : SourceReconciliationRequest) (h : History) (manifest : SourceManifest)
    (r : SourceReconciliation) (result : SourceReconcileResult) : Prop where
  evidenced : Evidenced request h manifest r
  persisted : Persisted request.scope h r result.reconciliation
  scope : ∀ c, result.checkpoint = some c → c.authorityId = manifest.authorityId ∧ c.tenantId = request.scope.tenantId

theorem advanceCheckpoint_spec {r : SourceReconciliation} (hun : Unswapped h)
    (he : Evidenced request h manifest r) (hp : Persisted request.scope h r stored) (hcomplete : stored.complete = true)
    (hcurrent : Current request h manifest current) :
    Sound request (advanceCheckpoint request manifest stored current) (fun _ c => c.authorityId = manifest.authorityId ∧
      c.tenantId = manifest.tenantId ∧ c.manifestId = manifest.manifestId ∧
        c.reconciliationId = stored.reconciliationId) h := by
  refine sound_refuse_bind hun fun hlater => sound_refuse_bind hun fun _ => sound_refuse_bind hun fun _ => ?_
  have hnotLower : ∀ c, current = some c → c.manifestRevision.1 ≤ manifest.manifestRevision.1 := by
    rintro c rfl
    simpa using hlater
  unfold checkpointFor
  split_ifs with hvalid
  swap
  · exact hun
  refine meets_record_demand_bind ⟨manifest,r,stored,current,he,hp,hcomplete,hcurrent,hnotLower,rfl,rfl,rfl,rfl,rfl,rfl,rfl,
    rfl,rfl⟩ (fun _ => ?_) fun applied => meets_refuse_bind.mpr ⟨fun hother => ?_,fun _ => ⟨rfl,rfl,rfl,rfl⟩⟩
  · intro scope mutation checkpoint applied hmem
    rcases List.mem_append.mp hmem with hold | hnew
    · exact hun scope mutation checkpoint applied hold
    · cases List.mem_singleton.mp hnew
  · intro scope mutation checkpoint applied' hmem
    rcases List.mem_append.mp hmem with hold | hnew
    · exact hun scope mutation checkpoint applied' hold
    · cases List.mem_singleton.mp hnew
      exact hother

theorem settle_spec {r : SourceReconciliation} (hun : Unswapped h)
    (he : Evidenced request h manifest r) (hp : Persisted request.scope h r stored) (hcomplete : stored.complete = true)
    (hcurrent : Current request h manifest current) :
    Sound request (settle request manifest stored current) (fun v result => Concluded request v manifest r result) h := by
  unfold settle
  split_ifs with hsettled
  · unfold reconcileResult
    split_ifs with hbound
    · exact ⟨he,hp,hcurrent.scope⟩
    · exact hun
  · refine (advanceCheckpoint_spec hun he hp hcomplete hcurrent).seq fun v c hc hsub => ?_
    obtain ⟨hauthority,htenant,hmanifest,hreconciliation⟩ := hc
    unfold reconcileResult
    rw [dif_pos]
    · refine ⟨he.mono hsub,hp.mono hsub,?_⟩
      rintro _ ⟨⟩
      exact ⟨hauthority,htenant.trans he.tenant⟩
    · rintro _ ⟨⟩
      exact ⟨hcomplete,hreconciliation,hmanifest.trans (he.built.manifestId.symm.trans hp.same.1.symm)⟩

theorem persistAndAdvance_spec {r : SourceReconciliation} (hun : Unswapped h) (he : Evidenced request h manifest r) :
    Sound request (persistAndAdvance request manifest r)
      (fun v result => Concluded request v manifest r result) h := by
  refine (persistReconciliation_spec hun he).seq fun v stored hv hsub => ?_
  obtain ⟨hp,hun⟩ := hv
  replace he := he.mono hsub
  split_ifs with hcomplete
  · refine sound_read_bind rfl hun fun current hun => sound_refuse_bind hun fun hscope => ?_
    have hsub := List.subset_append_left v [⟨.getCheckpoint request.scope manifest.authorityId,.ok current⟩]
    refine settle_spec hun (he.mono hsub) (hp.mono hsub) hcomplete ⟨by simp,?_⟩
    rintro c rfl
    simpa using hscope
  · unfold reconcileResult
    exact ⟨he,hp,by rintro c ⟨⟩⟩

theorem reconcile_spec (request : SourceReconciliationRequest) : Sound request (reconcile request)
    (fun v result => ∃ manifest r, Concluded request v manifest r result) [] := by
  have hun : Unswapped [] := fun _ _ _ _ hmem => absurd hmem List.not_mem_nil
  refine (evidence_spec request hun).seq fun v a hv _ => ?_
  exact (persistAndAdvance_spec hv.2 hv.1).mono (fun _ _ hg => hg) (fun _ _ hq => ⟨a.1,a.2,hq⟩) fun _ _ hx => hx

theorem putEntries_spec {registration : SourceRegistration} (entries : List SourceCatalogEntry) (h : History)
    (hun : Unswapped h) : (putEntries entries).Meets record (Guard (.register registration)) (fun v _ => Unswapped v)
      (fun v _ => Unswapped v) h := by
  induction entries generalizing h with
  | nil => exact hun
  | cons entry rest ih =>
    refine meets_record_demand_bind trivial (fun _ => unswapped_append hun (by rintro _ _ _ ⟨⟩)) fun _ => ?_
    exact ih _ (unswapped_append hun (by rintro _ _ _ ⟨⟩))

def Answered : Job → History → Option SourceReconcileResult → Prop
  | .register _, h, _ => Unswapped h
  | .reconcile request, h, some result => ∃ manifest r, Concluded request h manifest r result
  | .reconcile _, _, none => False

theorem run_spec (job : Job) : job.run.Meets record (Guard job) (Answered job) (fun v _ => Unswapped v) [] := by
  cases job with
  | reconcile request => exact Meets.seq (reconcile_spec request) fun v result hv => hv
  | register registration =>
    have hun : Unswapped [] := fun _ _ _ _ hmem => absurd hmem List.not_mem_nil
    refine Meets.seq (Q := fun v _ => Unswapped v) ?_ fun v _ hv => hv
    refine meets_record_demand_bind trivial (fun _ => unswapped_append hun (by rintro _ _ _ ⟨⟩)) fun _ => ?_
    refine Meets.seq (putEntries_spec _ _ (unswapped_append hun (by rintro _ _ _ ⟨⟩))) fun v _ hv => ?_
    refine ⟨trivial,?_⟩
    rintro (x | a) _ rfl
    · exact unswapped_append hv (by rintro _ _ _ ⟨⟩)
    · exact unswapped_append hv (by rintro _ _ _ ⟨⟩)

end

end Arbora.Sources
