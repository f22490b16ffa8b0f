import Arbora.Sources.Snapshots

/-! Checkpoints advance linearly, on evidence that is stored, and a reconciliation whose checkpoint stands can be
repeated for nothing. -/
namespace Arbora.Sources
open Agents (Identifier)
open Interaction PolicyPlane Prog

structure Succeeds (s s' : Store) (id : Identifier) (checkpoint : SourceCheckpoint) (manifest : SourceManifest)
    (evidence : SourceReconciliation) : Prop where
  stored : s'.checkpoints.get id = some checkpoint
  revision : checkpoint.revision.1 = (s.checkpoints.get id).elim 0 (·.revision.1)+1
  notLower : ∀ prior, s.checkpoints.get id = some prior → prior.manifestRevision.1 ≤ checkpoint.manifestRevision.1
  manifestStored : s'.manifests.get checkpoint.manifestId = some manifest
  itsOwn : manifest.authorityId = id ∧ checkpoint.manifestId = manifest.manifestId ∧
    checkpoint.manifestRevision = manifest.manifestRevision ∧ checkpoint.manifestDigest = manifest.manifestDigest
  persisted : s'.reconciliations.get checkpoint.reconciliationId = some evidence
  complete : evidence.complete = true
  ofManifest : evidence.manifestId = manifest.manifestId ∧ evidence.manifestDigest = manifest.manifestDigest ∧
    evidence.authorityId = manifest.authorityId

section
variable {ι α : Type} [DecidableEq ι] {sees : Sight} {jobs : ι → Job} {s' : Store}
  {c d : Pool ι Call Call.Answer SourceError α Store} {log : List (ι × Event Call Call.Answer)} {i : ι} {e : Call}
  {a : e.Answer}

theorem swap_succeeds (hg : Guarded jobs c.procs) (h : Pool.Steps (Store.Serves sees) c log d)
    {scope : SourceScope} {mutation : CheckpointMutation} {checkpoint : SourceCheckpoint}
    (hguard : Guard (jobs i) (Pool.own i log) (.compareAndSwapCheckpoint scope mutation checkpoint))
    (hswap : Swaps d.state mutation checkpoint s') :
    ∃ manifest evidence, Succeeds d.state s' mutation.authorityId checkpoint manifest evidence := by
  have hshown : ∀ x ∈ Pool.own i log, Shown d.state x ∧ Reached d.state x := fun x hx => shown_of_steps hg h _ (Pool.mem_own.mp hx)
  cases hjob : jobs i with
  | register registration =>
    rw [hjob] at hguard
    exact hguard.elim
  | reconcile request =>
    rw [hjob] at hguard
    obtain ⟨manifest,r,stored,current,ha⟩ := hguard
    have hrevision : (d.state.checkpoints.get mutation.authorityId).elim 0 (·.revision.1) = current.elim 0 (·.revision.1) := by
      rw [hswap.revision,ha.mutation]
      rfl
    -- a checkpoint of the revision that was read is the one that was read
    have hprior : ∀ prior, d.state.checkpoints.get mutation.authorityId = some prior → current = some prior := by
      intro prior hprior
      have hid : manifest.authorityId = mutation.authorityId := by
        rw [ha.mutation]
        rfl
      rw [hprior,Option.elim_some] at hrevision
      have hread := ha.goesOn.read
      cases hcurrent : current with
      | none =>
        rw [hcurrent] at hrevision
        have hpositive := prior.revision.2
        rw [Option.elim_none] at hrevision
        omega
      | some c =>
        rw [hcurrent] at hread hrevision
        obtain ⟨now,hnow,hle⟩ := (hshown _ hread).2
        rw [hid,hprior] at hnow
        cases hnow
        rcases hle with rfl | hlt
        · rfl
        · rw [Option.elim_some] at hrevision
          omega
    have hstored := ha.persisted.stored fun x hx => (hshown x hx).1
    have hmanifest := ha.evidenced.stored fun x hx => (hshown x hx).1
    have hsame := ha.persisted.same
    have hbuilt := ha.evidenced.built
    rw [hswap.swapped]
    refine ⟨manifest,stored,⟨Dict.get_set_self _ _ _,?_,?_,?_,?_,?_,ha.complete,?_⟩⟩
    · rw [ha.revision,hrevision]
    · intro prior hprior'
      rw [ha.manifestRevision]
      exact ha.later prior (hprior prior hprior')
    · rw [ha.manifestId]
      exact hmanifest
    · refine ⟨?_,ha.manifestId,ha.manifestRevision,ha.manifestDigest⟩
      rw [ha.mutation]
      rfl
    · rw [ha.reconciliationId]
      exact hstored
    · exact ⟨hsame.1.trans hbuilt.manifestId,hsame.2.1.trans hbuilt.manifestDigest,hsame.2.2.1.trans hbuilt.authorityId⟩

theorem step_succeeds (hg : Guarded jobs c.procs) (h : Pool.Steps (Store.Serves sees) c log d)
    {k : e.Answer → Step α} (hp : d.procs i = .call e k) (hw : Store.Serves sees d.state e a s') (id : Identifier) :
    s'.checkpoints.get id = d.state.checkpoints.get id ∨
      ∃ checkpoint manifest evidence, Succeeds d.state s' id checkpoint manifest evidence := by
  rcases serves_checkpoints hw with hsame | ⟨scope,mutation,checkpoint,hevent,hswap⟩
  · rw [hsame]
    exact .inl rfl
  · have hguard := h.meets i (hg i)
    rw [hp] at hguard
    cases hevent
    by_cases hid : id = mutation.authorityId
    · subst hid
      exact .inr ⟨checkpoint,swap_succeeds hg h hguard.1 hswap⟩
    · rw [hswap.swapped]
      exact .inl (Dict.get_set_ne _ _ hid)

end

section
variable {request : SourceReconciliationRequest} {scope : SourceScope} {manifest : SourceManifest}

def Call.isLookup : Call → Bool
  | .getAuthority .. | .getManifest .. | .getCatalogEntry .. => true
  | _ => false

/-- A part of a reconciliation that only looks at the snapshot. -/
abbrev Looks {β : Type} (p : Step β) : Prop := p.Heeds fun e => e.isLookup = true

theorem looks_loadManifest (authorityId manifestId : Identifier) : Looks (loadManifest scope authorityId manifestId) := by
  refine .bind (heeds_demand rfl) fun manifest => .bind heeds_found fun manifest => .bind heeds_refuse fun _ => ?_
  refine .bind heeds_refuse fun _ => .bind (heeds_demand rfl) fun authority => .bind heeds_found fun authority => ?_
  refine .bind heeds_refuse fun _ => .bind heeds_refuse fun _ => .bind heeds_refuse fun _ => ?_
  exact .bind heeds_refuse fun _ => .ret manifest

theorem looks_validateOutcome (o : EntryReconciliation) : Looks (validateOutcome scope manifest o) := by
  have hpresent : Looks (validatePresentOutcome o (manifest.entry o.entryId)) := by
    refine .bind heeds_found fun current => .bind heeds_refuse fun _ => .bind heeds_refuse fun _ => ?_
    unfold validateDigests
    split
    · exact heeds_refuse
    · exact .bind heeds_refuse fun _ => heeds_refuse
    · exact heeds_refuse
    · exact .ret ()
  refine .bind (.bind heeds_refuse fun _ => heeds_refuse) fun _ => ?_
  unfold validateKind
  cases o.outcome with
  | added | updated | unchanged => exact hpresent
  | failed | partially | timeout => exact .bind heeds_refuse fun _ => heeds_refuse
  | tombstoned =>
    refine .bind heeds_refuse fun _ => .bind (heeds_demand rfl) fun previous => .bind heeds_found fun previous => ?_
    exact .bind heeds_refuse fun _ => .bind heeds_refuse fun _ => .bind heeds_refuse fun _ => heeds_refuse

theorem looks_validateOutcomes (outcomes : List EntryReconciliation) : Looks (validateOutcomes scope manifest outcomes) := by
  induction outcomes with
  | nil => exact .ret ()
  | cons o rest ih => exact .bind (looks_validateOutcome o) fun _ => ih

theorem looks_evidence (request : SourceReconciliationRequest) : Looks (evidence request) := by
  refine .bind (looks_loadManifest _ _) fun manifest => .bind (.bind heeds_refuse fun _ => heeds_refuse) fun _ => ?_
  refine .bind (.bind heeds_refuse fun _ => .bind heeds_refuse fun _ => .ret _) fun selected => ?_
  refine .bind (looks_validateOutcomes _) fun _ => .bind ?_ fun reconciliation => .ret (manifest,reconciliation)
  unfold buildReconciliation
  dsimp only
  split_ifs with hvalid
  · exact .ret _
  · exact .raise _

end

section
variable {request : SourceReconciliationRequest} {manifest : SourceManifest} {r stored : SourceReconciliation}
  {checkpoint : SourceCheckpoint} {g : (e : Call) → e.Answer}

def Repeated (request : SourceReconciliationRequest) (manifest : SourceManifest) (r : SourceReconciliation) (e : Call) : Prop :=
  e.isLookup = true ∨ e = .getReconciliation request.scope r.reconciliationId ∨
    e = .getCheckpoint request.scope manifest.authorityId

theorem isRead_of_repeated {e : Call} (h : Repeated request manifest r e) : e.isRead = true := by
  rcases h with h | rfl | rfl
  · cases e <;> first | rfl | cases h
  · rfl
  · rfl

/-- Evidence and checkpoint are found as they were left. -/
theorem persistAndAdvance_repeated {result : SourceReconcileResult}
    (hstored : g (.getReconciliation request.scope r.reconciliationId) = .ok (some result.reconciliation))
    (hsame : ¬drifted result.reconciliation r)
    (hstands : g (.getCheckpoint request.scope manifest.authorityId) = .ok (some checkpoint))
    (hscope : checkpoint.authorityId = manifest.authorityId ∧ checkpoint.tenantId = request.scope.tenantId)
    (hresult : result.checkpoint = some checkpoint) :
    Yields g (Repeated request manifest r) (persistAndAdvance request manifest r) result := by
  have hpersist : Yields g (Repeated request manifest r) (persistReconciliation request.scope r) result.reconciliation :=
    yields_demand_bind (.inr (.inl rfl)) hstored (yields_refuse_bind hsame ⟨rfl,trivial⟩)
  have hbound := result.bound checkpoint hresult
  refine hpersist.bind ?_
  rw [if_pos hbound.1]
  refine yields_demand_bind (.inr (.inr rfl)) hstands (yields_refuse_bind ?_ ?_)
  · simpa using hscope
  · unfold settle
    rw [if_pos (by simpa using hbound.2.1)]
    unfold reconcileResult
    rw [dif_pos]
    · refine ⟨?_,trivial⟩
      obtain ⟨reconciliation,checkpoint',hbound'⟩ := result
      cases hresult
      rfl
    · rintro c ⟨⟩
      exact hbound

end

section
variable {ι : Type} [DecidableEq ι] {sees : Sight} {requests : ι → SourceReconciliationRequest} {s s' : Store}
  {c d o : Pool ι Call Call.Answer SourceError SourceReconcileResult Store} {log later : List (ι × Event Call Call.Answer)}
  {e : Call} {a : e.Answer}

/-- Two states of the repository with the same snapshots. -/
structure SameSnapshots (s s' : Store) : Prop where
  authorities : s'.authorities = s.authorities
  entries : s'.entries = s.entries
  manifests : s'.manifests = s.manifests

theorem SameSnapshots.refl (s : Store) : SameSnapshots s s := ⟨rfl,rfl,rfl⟩
theorem SameSnapshots.trans {s'' : Store} (h : SameSnapshots s s') (h' : SameSnapshots s' s'') : SameSnapshots s s'' :=
  ⟨h'.authorities.trans h.authorities,h'.entries.trans h.entries,h'.manifests.trans h.manifests⟩

theorem serves_sameSnapshots {request : SourceReconciliationRequest} {h : History} (hg : Guard (.reconcile request) h e)
    (hw : Store.Serves sees s e a s') : SameSnapshots s s' := by
  cases hw with
  | refused => exact .refl s
  | served =>
    cases e with
    | putAuthority | putCatalogEntry | putManifest => exact hg.elim
    | putReconciliation => exact ⟨rfl,rfl,rfl⟩
    | getAuthority | getManifest | getCatalogEntry | getReconciliation | getCheckpoint => exact .refl s
    | compareAndSwapCheckpoint scope mutation checkpoint =>
      unfold Store.respond
      dsimp only
      split_ifs
      · exact ⟨rfl,rfl,rfl⟩
      · exact .refl s

theorem respond_lookup (h : SameSnapshots s s') (he : e.isLookup = true) : (s'.respond sees e).1 = (s.respond sees e).1 := by
  cases e with
  | getAuthority | getManifest | getCatalogEntry =>
    unfold Store.respond Store.latest
    simp only [h.authorities,h.manifests,h.entries]
  | putAuthority | putCatalogEntry | putManifest | putReconciliation => cases he
  | getReconciliation | getCheckpoint | compareAndSwapCheckpoint => cases he

theorem serves_ok {r : e.Result} (hw : Store.Serves sees s e (.ok r) s') : (s.respond sees e).1 = .ok r := by
  generalize ha : (Except.ok r : e.Answer) = answer at hw
  cases hw with
  | served => rfl
  | refused => cases ha

theorem lookups_of_steps (hg : Guarded (fun i => .reconcile (requests i)) c.procs)
    (h : Pool.Steps (Store.Serves sees) c log d) : SameSnapshots c.state d.state ∧
      ∀ x ∈ log, x.2.1.isLookup = true → (∃ r, x.2.2 = .ok r) → x.2.2 = (c.state.respond sees x.2.1).1 := by
  refine Pool.Steps.invariant (I := fun log s => SameSnapshots c.state s ∧
    ∀ x ∈ log, x.2.1.isLookup = true → (∃ r, x.2.2 = .ok r) → x.2.2 = (c.state.respond sees x.2.1).1) h hg
    ⟨.refl _,fun x hx => absurd hx List.not_mem_nil⟩ ?_
  intro log i e a s s' hI hguard hw
  refine ⟨hI.1.trans (serves_sameSnapshots hguard hw),fun x hx hlookup hok => ?_⟩
  rcases List.mem_append.mp hx with hold | hnew
  · exact hI.2 x hold hlookup hok
  · rw [List.mem_singleton.mp hnew] at hlookup hok ⊢
    dsimp only at hlookup hok ⊢
    obtain ⟨r,rfl⟩ := hok
    rw [← respond_lookup hI.1 hlookup]
    exact (serves_ok hw).symm

def standing (sees : Sight) (s : Store) (checkpoint : SourceCheckpoint) (e : Call) : e.Answer :=
  (Store.respond sees { s with checkpoints := s.checkpoints.set checkpoint.authorityId checkpoint } e).1

variable {request : SourceReconciliationRequest} {manifest : SourceManifest} {r stored : SourceReconciliation}
  {checkpoint : SourceCheckpoint}

theorem respond_standing (hsame : SameSnapshots s s') (hext : Extends s s')
    (hstored : s.reconciliations.get r.reconciliationId = some stored)
    (hstands : s'.checkpoints.get checkpoint.authorityId = some checkpoint)
    (hid : checkpoint.authorityId = manifest.authorityId) (he : Repeated request manifest r e) :
    (s'.respond sees e).1 = standing sees s checkpoint e := by
  rcases he with hlookup | rfl | rfl
  · exact respond_lookup ⟨hsame.authorities,hsame.entries,hsame.manifests⟩ hlookup
  · unfold standing Store.respond
    dsimp only
    rw [hext.reconciliations _ _ hstored,hstored]
  · unfold standing Store.respond
    dsimp only
    rw [← hid,hstands,Dict.get_set_self]

theorem answered_of_standing {j : ι} (hg : Guarded (fun i => .reconcile (requests i)) c.procs)
    (h : Pool.Steps (Store.Serves sees) c log d)
    (hstored : d.state.reconciliations.get r.reconciliationId = some stored)
    (hid : checkpoint.authorityId = manifest.authorityId) (h' : Pool.StepsWhere (Store.Serves sees)
      (fun _ s i _ => i = j → s.checkpoints.get checkpoint.authorityId = some checkpoint) d later o)
    (hread : ∀ e x, e.isRead = true → (⟨e,.error x⟩ : Event Call Call.Answer) ∉ Pool.own j later) :
    ∀ x ∈ Pool.own j later, Repeated request manifest r x.1 → x.2 = standing sees d.state checkpoint x.1 := by
  have hinv := Pool.StepsWhere.invariant (I := fun later s => (SameSnapshots d.state s ∧ Extends d.state s) ∧
      ∀ x, (j,x) ∈ later → Repeated request manifest r x.1 → (∃ v, x.2 = .ok v) →
        x.2 = standing sees d.state checkpoint x.1) h' (fun i => h.left i (hg i))
    ⟨⟨.refl _,.refl _⟩,fun x hx => absurd hx List.not_mem_nil⟩ ?_
  · intro x hx hrepeated
    refine hinv.2 x (Pool.mem_own.mp hx) hrepeated ?_
    obtain ⟨e,answer⟩ := x
    cases answer with
    | error y => exact absurd hx (hread e y (isRead_of_repeated hrepeated))
    | ok v => exact ⟨v,rfl⟩
  · intro later i e a s s' hI hstands hguard hw
    have hsame := hI.1.1.trans (serves_sameSnapshots hguard hw)
    refine ⟨⟨hsame,hI.1.2.trans (serves_extends hw)⟩,fun x hx hrepeated hok => ?_⟩
    rcases List.mem_append.mp hx with hold | hnew
    · exact hI.2 x hold hrepeated hok
    · cases List.mem_singleton.mp hnew
      dsimp only at hrepeated hok ⊢
      obtain ⟨v,rfl⟩ := hok
      rw [← respond_standing hI.1.1 hI.1.2 hstored (hstands rfl) hid hrepeated]
      exact (serves_ok hw).symm

theorem yields_of_returned {i : ι} {result : SourceReconcileResult}
    (h : Pool.Steps (Store.Serves sees) c log d) (hstart : ∀ i, c.procs i = reconcile (requests i))
    (hreturned : d.procs i = .ret result) (hresult : result.checkpoint = some checkpoint) :
    ∃ manifest r, Yields (standing sees d.state checkpoint) (Repeated (requests i) manifest r) (reconcile (requests i)) result ∧
      d.state.reconciliations.get r.reconciliationId = some result.reconciliation ∧
      checkpoint.authorityId = manifest.authorityId := by
  have hg : Guarded (fun i => .reconcile (requests i)) c.procs := by
    intro i
    rw [hstart i]
    exact (reconcile_spec (requests i)).mono (fun _ _ => id) (fun _ _ _ => trivial) fun _ _ _ => trivial
  have hshown : ∀ x ∈ Pool.own i log, Shown d.state x := fun x hx => (shown_of_steps hg h _ (Pool.mem_own.mp hx)).1
  have hlookups := lookups_of_steps hg h
  have hrun := h.own_runs i
  rw [hstart i,hreturned] at hrun
  rcases Runs.bind_ended hrun (.inl ⟨result,rfl⟩) with ⟨x,_,hraise⟩ | ⟨found,u,v,m,hown,hfirst,hsecond⟩
  · cases hraise
  obtain ⟨manifest,r⟩ := found
  have hun : Unswapped [] := fun _ _ _ _ hmem => absurd hmem List.not_mem_nil
  have hev := (evidence_spec (requests i) hun).runs hfirst
  have hm : m = u := hfirst.recorded
  subst hm
  have hconcluded := (persistAndAdvance_spec hev.2 hev.1).runs hsecond
  have hscope := hconcluded.scope checkpoint hresult
  have hanswers : ∀ x ∈ m, x.2 = standing sees d.state checkpoint x.1 := by
    intro x hx
    obtain ⟨hlookup,hok⟩ := (looks_evidence (requests i)).returned hfirst rfl x hx
    have hmem : x ∈ Pool.own i log := by
      rw [hown]
      exact List.mem_append_left _ hx
    rw [hlookups.2 _ (Pool.mem_own.mp hmem) hlookup hok]
    have hsame : SameSnapshots c.state { d.state with
        checkpoints := d.state.checkpoints.set checkpoint.authorityId checkpoint } :=
      ⟨hlookups.1.authorities,hlookups.1.entries,hlookups.1.manifests⟩
    exact (respond_lookup hsame hlookup).symm
  have hstored : d.state.reconciliations.get r.reconciliationId = some result.reconciliation := by
    rw [← hconcluded.persisted.same.2.2.2.2]
    exact hconcluded.persisted.stored hshown
  -- the scope of the request sees the snapshot, and therefore evidence and checkpoint
  have hsees : sees (requests i).scope manifest.tenantId manifest.authorityId = true := by
    have hmanifest := hanswers _ hev.1.loaded
    exact (Option.filter_eq_some_iff.mp (Except.ok.inj hmanifest).symm).2
  refine ⟨manifest,r,?_,hstored,hscope.1⟩
  have hfirstYields : Yields (standing sees d.state checkpoint) (Repeated (requests i) manifest r) (evidence (requests i))
      (manifest,r) := by
    refine ⟨(hfirst.answered hanswers).1.symm,?_⟩
    exact (looks_evidence (requests i)).makes.mono fun e he => .inl he
  have hsame := hconcluded.persisted.same
  refine hfirstYields.bind (persistAndAdvance_repeated ?_ ?_ ?_ hscope hresult)
  · unfold standing Store.respond
    dsimp only
    rw [hstored,Option.filter_eq_some_iff.mpr ⟨rfl,?_⟩]
    rw [hsame.2.2.2.1,hsame.2.2.1,hev.1.built.tenantId,hev.1.built.authorityId]
    exact hsees
  · rcases hconcluded.persisted with ⟨_,hsame⟩ | ⟨_,hsame⟩
    · exact hsame
    · rw [hsame]
      unfold drifted
      simp
  · unfold standing Store.respond
    dsimp only
    rw [← hscope.1,Dict.get_set_self,Option.filter_eq_some_iff.mpr ⟨rfl,?_⟩]
    rw [hscope.1,hscope.2,← hev.1.tenant]
    exact hsees

end

section
variable {ι : Type} [DecidableEq ι]

def Repeats (sees : Sight) (j : ι) (d : Pool ι Call Call.Answer SourceError SourceReconcileResult Store)
    (result : SourceReconcileResult) (checkpoint : SourceCheckpoint) : Prop :=
  ∃ n, ∀ later o, Pool.StepsWhere (Store.Serves sees)
      (fun _ s i _ => i = j → s.checkpoints.get checkpoint.authorityId = some checkpoint) d later o →
    (∀ e x, e.isRead = true → (⟨e,.error x⟩ : Event Call Call.Answer) ∉ Pool.own j later) →
      (Pool.own j later).length ≤ n ∧ ((Pool.own j later).length = n → o.procs j = .ret result) ∧
        ∀ e k a s, o.procs j = .call e k → Store.Serves sees o.state e a s → s = o.state

end

end Arbora.Sources
