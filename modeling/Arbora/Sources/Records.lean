import Arbora.Sources.Evidence

/-! What the calls of a run show of the store: a record that was once read or written stays, and a checkpoint only
makes way for one of a higher revision. -/
namespace Arbora.Sources
open Agents (Identifier)
open Interaction PolicyPlane

/-- No record is lost or replaced. -/
structure Extends (s s' : Store) : Prop where
  manifests : ∀ k v, s.manifests.get k = some v → s'.manifests.get k = some v
  entries : ∀ k v, s.entries.get k = some v → s'.entries.get k = some v
  reconciliations : ∀ k v, s.reconciliations.get k = some v → s'.reconciliations.get k = some v

def Shown (s : Store) : Event Call Call.Answer → Prop
  | ⟨.getManifest _ id,.ok (some m)⟩ => s.manifests.get id = some m
  | ⟨.getCatalogEntry _ id,.ok (some e)⟩ => e ∈ s.entries.values ∧ e.entryId = id
  | ⟨.getReconciliation _ id,.ok (some r)⟩ => s.reconciliations.get id = some r
  | ⟨.putReconciliation r,.ok ()⟩ => s.reconciliations.get r.reconciliationId = some r
  | ⟨.compareAndSwapCheckpoint _ _ checkpoint,.ok applied⟩ => applied = checkpoint
  | _ => True

/-- A checkpoint that was read is the one that stands, or was followed by later ones. -/
def Reached (s : Store) : Event Call Call.Answer → Prop
  | ⟨.getCheckpoint _ id,.ok (some c)⟩ =>
    ∃ now, s.checkpoints.get id = some now ∧ (now = c ∨ c.revision.1 < now.revision.1)
  | _ => True

section
variable {sees : Sight} {s s' : Store} {e : Call} {a : e.Answer}

theorem Extends.refl (s : Store) : Extends s s := ⟨fun _ _ => id,fun _ _ => id,fun _ _ => id⟩

theorem Extends.trans {s'' : Store} (h : Extends s s') (h' : Extends s' s'') : Extends s s'' :=
  ⟨fun k v hv => h'.manifests k v (h.manifests k v hv),fun k v hv => h'.entries k v (h.entries k v hv),
    fun k v hv => h'.reconciliations k v (h.reconciliations k v hv)⟩

theorem retain_get {κ ν : Type} [DecidableEq κ] [DecidableEq ν] {d : Dict κ ν} {k k' : κ} {v w : ν}
    (h : d.get k' = some w) : (retain d k v).2.get k' = some w := by
  unfold retain
  split
  · rename_i hnew
    exact Dict.get_set_new h hnew
  · exact h

/-- What `retain` has taken stands under its name. -/
theorem retain_ok {κ ν : Type} [DecidableEq κ] [DecidableEq ν] {d : Dict κ ν} {k : κ} {v : ν}
    (h : (retain d k v).1 = .ok ()) : (retain d k v).2.get k = some v := by
  unfold retain at h ⊢
  split
  · exact Dict.get_set_self d k v
  · rename_i stored hstored
    rw [hstored] at h
    dsimp only at h
    split_ifs at h with hsame
    rw [hstored,hsame]

theorem retain_inv {κ ν : Type} [DecidableEq κ] [DecidableEq ν] {d : Dict κ ν} {k k' : κ} {v w : ν}
    (h : (retain d k v).2.get k' = some w) : d.get k' = some w ∨ k' = k ∧ w = v := by
  unfold retain at h
  split at h
  · rw [Dict.get_set] at h
    split_ifs at h with hk
    · cases h
      exact .inr ⟨hk,rfl⟩
    · exact .inl h
  · exact .inl h

theorem respond_extends (s : Store) (e : Call) : Extends s (s.respond sees e).2 := by
  cases e with
  | putAuthority a => exact ⟨fun _ _ => id,fun _ _ => id,fun _ _ => id⟩
  | putCatalogEntry e => exact ⟨fun _ _ => id,fun _ _ => retain_get,fun _ _ => id⟩
  | putManifest m => exact ⟨fun _ _ => retain_get,fun _ _ => id,fun _ _ => id⟩
  | putReconciliation r => exact ⟨fun _ _ => id,fun _ _ => id,fun _ _ => retain_get⟩
  | getAuthority | getManifest | getCatalogEntry | getReconciliation | getCheckpoint => exact .refl s
  | compareAndSwapCheckpoint scope mutation checkpoint =>
    unfold Store.respond
    dsimp only
    split_ifs
    · exact ⟨fun _ _ => id,fun _ _ => id,fun _ _ => id⟩
    · exact .refl s

theorem serves_extends (h : Store.Serves sees s e a s') : Extends s s' := by
  cases h with
  | served => exact respond_extends s e
  | refused => exact .refl s

theorem respond_read (s : Store) (he : e.isRead = true) : (s.respond sees e).2 = s := by
  cases e with
  | getAuthority | getManifest | getCatalogEntry | getReconciliation | getCheckpoint => rfl
  | putAuthority | putCatalogEntry | putManifest | putReconciliation | compareAndSwapCheckpoint => cases he

theorem serves_read (h : Store.Serves sees s e a s') (he : e.isRead = true) : s' = s := by
  cases h with
  | served => exact respond_read s he
  | refused => rfl

theorem mem_entries_of_latest {scope : SourceScope} {id : Identifier} {entry : SourceCatalogEntry}
    (h : s.latest sees scope id = some entry) : entry ∈ s.entries.values ∧ entry.entryId = id ∧
      sees scope entry.tenantId entry.authorityId = true := by
  have hmem := List.argmax_mem (Option.mem_def.mpr h)
  obtain ⟨hstored,hseen⟩ := List.mem_filter.mp hmem
  obtain ⟨hname,hsees⟩ := of_decide_eq_true hseen
  exact ⟨hstored,hname,hsees⟩

theorem serves_shown (h : Store.Serves sees s e a s') : Shown s' ⟨e,a⟩ := by
  cases h with
  | refused x => cases e <;> trivial
  | served =>
    cases e with
    | putAuthority | putCatalogEntry | putManifest | getAuthority | getCheckpoint => trivial
    | putReconciliation r =>
      have hok := retain_ok (d := s.reconciliations) (k := r.reconciliationId) (v := r)
      unfold Store.respond
      cases hout : (retain s.reconciliations r.reconciliationId r).1 with
      | error x => trivial
      | ok u => exact hok hout
    | getManifest scope id =>
      unfold Store.respond
      dsimp only
      cases hget : (s.manifests.get id).filter fun m => sees scope m.tenantId m.authorityId with
      | none => trivial
      | some m => exact (Option.filter_eq_some_iff.mp hget).1
    | getReconciliation scope id =>
      unfold Store.respond
      dsimp only
      cases hget : (s.reconciliations.get id).filter fun r => sees scope r.tenantId r.authorityId with
      | none => trivial
      | some r => exact (Option.filter_eq_some_iff.mp hget).1
    | getCatalogEntry scope id =>
      unfold Store.respond
      dsimp only
      cases hget : s.latest sees scope id with
      | none => trivial
      | some entry => exact ⟨(mem_entries_of_latest hget).1,(mem_entries_of_latest hget).2.1⟩
    | compareAndSwapCheckpoint scope mutation checkpoint =>
      unfold Store.respond
      dsimp only
      split_ifs
      · rfl
      · trivial

theorem Shown.mono {x : Event Call Call.Answer} (h : Shown s x) (hext : Extends s s') : Shown s' x := by
  unfold Shown at h ⊢
  split
  · exact hext.manifests _ _ h
  · obtain ⟨k,hk⟩ := Dict.mem_values.mp h.1
    exact ⟨Dict.mem_values.mpr ⟨k,hext.entries _ _ hk⟩,h.2⟩
  · exact hext.reconciliations _ _ h
  · exact hext.reconciliations _ _ h
  · exact h
  · trivial

section
variable {request : SourceReconciliationRequest} {scope : SourceScope} {h : History} {manifest : SourceManifest}
  {r kept : SourceReconciliation}

theorem Evidenced.stored (he : Evidenced request h manifest r) (hshown : ∀ x ∈ h, Shown s x) :
    s.manifests.get manifest.manifestId = some manifest := by
  rw [he.named]
  exact hshown _ he.loaded

theorem Persisted.stored (hp : Persisted scope h r kept) (hshown : ∀ x ∈ h, Shown s x) :
    s.reconciliations.get kept.reconciliationId = some kept := by
  rw [hp.same.2.2.2.2]
  rcases hp with ⟨hread,_⟩ | ⟨hput,rfl⟩
  · exact hshown _ hread
  · exact hshown _ hput

end

end

section
variable {sees : Sight} {s s' : Store} {e : Call} {a : e.Answer}

structure Swaps (s : Store) (mutation : CheckpointMutation) (checkpoint : SourceCheckpoint) (s' : Store) : Prop where
  revision : (s.checkpoints.get mutation.authorityId).elim 0 (·.revision.1) = mutation.expectedRevision
  checkpointId : (s.checkpoints.get mutation.authorityId).map (·.checkpointId) = mutation.expectedCheckpointId
  swapped : s' = { s with checkpoints := s.checkpoints.set mutation.authorityId checkpoint }

theorem serves_checkpoints (h : Store.Serves sees s e a s') : s'.checkpoints = s.checkpoints ∨
    ∃ scope mutation checkpoint, (⟨e,a⟩ : Event Call Call.Answer) =
      ⟨.compareAndSwapCheckpoint scope mutation checkpoint,.ok checkpoint⟩ ∧ Swaps s mutation checkpoint s' := by
  cases h with
  | refused => exact .inl rfl
  | served =>
    cases e with
    | putAuthority | putCatalogEntry | putManifest | putReconciliation => exact .inl rfl
    | getAuthority | getManifest | getCatalogEntry | getReconciliation | getCheckpoint => exact .inl rfl
    | compareAndSwapCheckpoint scope mutation checkpoint =>
      unfold Store.respond
      dsimp only
      split_ifs with hexpected
      · exact .inr ⟨scope,mutation,checkpoint,rfl,hexpected.1,hexpected.2,rfl⟩
      · exact .inl rfl

theorem guard_next {job : Job} {h : History} {scope : SourceScope} {mutation : CheckpointMutation}
    {checkpoint : SourceCheckpoint} (hg : Guard job h (.compareAndSwapCheckpoint scope mutation checkpoint)) :
    checkpoint.revision.1 = mutation.expectedRevision+1 := by
  cases job with
  | register registration => exact hg.elim
  | reconcile request =>
    obtain ⟨manifest,r,stored,current,ha⟩ := hg
    rw [ha.revision,ha.mutation]
    rfl

theorem Reached.mono {job : Job} {h : History} {x : Event Call Call.Answer} (hx : Reached s x) (hg : Guard job h e)
    (hw : Store.Serves sees s e a s') : Reached s' x := by
  rcases serves_checkpoints hw with hsame | ⟨scope,mutation,checkpoint,hevent,hswap⟩
  · unfold Reached at hx ⊢
    rw [hsame]
    exact hx
  · cases hevent
    have hnext := guard_next hg
    rw [hswap.swapped]
    unfold Reached at hx ⊢
    split
    · rename_i _ id c
      obtain ⟨now,hnow,hle⟩ := hx
      by_cases hid : id = mutation.authorityId
      · subst hid
        refine ⟨checkpoint,Dict.get_set_self _ _ _,.inr ?_⟩
        have hexpected := hswap.revision
        rw [hnow,Option.elim_some] at hexpected
        rcases hle with rfl | hlt
        · omega
        · omega
      · exact ⟨now,(Dict.get_set_ne _ _ hid).trans hnow,hle⟩
    · trivial

theorem serves_reached (h : Store.Serves sees s e a s') : Reached s' ⟨e,a⟩ := by
  cases h with
  | refused x => cases e <;> trivial
  | served =>
    cases e with
    | getCheckpoint scope id =>
      unfold Store.respond
      dsimp only
      cases hget : (s.checkpoints.get id).filter fun c => sees scope c.tenantId c.authorityId with
      | none => trivial
      | some c => exact ⟨c,(Option.filter_eq_some_iff.mp hget).1,.inl rfl⟩
    | compareAndSwapCheckpoint scope mutation checkpoint => trivial
    | putAuthority | putCatalogEntry | putManifest | putReconciliation => trivial
    | getAuthority | getManifest | getCatalogEntry | getReconciliation => trivial

end

section
variable {ι α : Type} [DecidableEq ι] {sees : Sight} {jobs : ι → Job}
  {c d : Pool ι Call Call.Answer SourceError α Store} {log : List (ι × Event Call Call.Answer)}

/-- Programs that make sure of what a job makes sure of. -/
abbrev Guarded (jobs : ι → Job) (procs : ι → Step α) : Prop :=
  ∀ i, (procs i).Meets Prog.record (Guard (jobs i)) (fun _ _ => True) (fun _ _ => True) []

theorem shown_of_steps (hg : Guarded jobs c.procs) (h : Pool.Steps (Store.Serves sees) c log d) :
    ∀ x ∈ log, Shown d.state x.2 ∧ Reached d.state x.2 := by
  refine Pool.Steps.invariant (I := fun log s => ∀ x ∈ log, Shown s x.2 ∧ Reached s x.2) h hg
    (fun x hx => absurd hx List.not_mem_nil) ?_
  intro log i e a s s' hI hguard hw x hx
  rcases List.mem_append.mp hx with hold | hnew
  · exact ⟨(hI x hold).1.mono (serves_extends hw),(hI x hold).2.mono hguard hw⟩
  · rw [List.mem_singleton.mp hnew]
    exact ⟨serves_shown hw,serves_reached hw⟩

end

end Arbora.Sources
