import Arbora.Foundation.Steps

/-! Over any calls a release pointer agrees with its history, and what it points at is active and is not
tombstoned. -/
namespace Arbora.Foundation
open Machine
variable {s t : Repository} {scope : TenantScope}

def previous (history : List ActivationRecord) : ℕ → Option ActivationRecord
  | 0 => none
  | i + 1 => history[i]?

structure EntryFits (pointerId : String) (history : List ActivationRecord) (i : ℕ) (e : ActivationRecord) : Prop where
  ofPointer : e.pointerId = pointerId ∧ releasePointerId e.tenantId e.targetKind e.targetId = pointerId
  revision : e.releaseRevision.1 = i + 1
  follows : e.previousTargetVersion = (previous history i).map (·.targetVersion)
  rollsBack : e.operation = .rollback → ∃ j < i, ∃ e', history[j]? = some e' ∧ e'.targetVersion = e.targetVersion
  moves : ∀ e', previous history i = some e' → e'.targetVersion ≠ e.targetVersion

def Chained (pointerId : String) (history : List ActivationRecord) : Prop :=
  ∀ i e, history[i]? = some e → EntryFits pointerId history i e

theorem previous_append {history : List ActivationRecord} {e : ActivationRecord} {i : ℕ} (h : i ≤ history.length) :
    previous (history ++ [e]) i = previous history i := by
  cases i with
  | zero => rfl
  | succ i => exact List.getElem?_append_left h

theorem previous_length (history : List ActivationRecord) : previous history history.length = history.getLast? := by
  cases hlength : history.length with
  | zero =>
    rw [List.eq_nil_of_length_eq_zero hlength]
    rfl
  | succ n =>
    rw [List.getLast?_eq_getElem?,hlength]
    rfl

theorem EntryFits.append {pointerId : String} {history : List ActivationRecord} {e e' : ActivationRecord} {i : ℕ}
    (h : EntryFits pointerId history i e) (hi : i ≤ history.length) : EntryFits pointerId (history ++ [e']) i e := by
  refine ⟨h.ofPointer,h.revision,?_,?_,?_⟩
  · rw [previous_append hi]
    exact h.follows
  · intro hrolls
    obtain ⟨j,hj,e'',hget,hsame⟩ := h.rollsBack hrolls
    exact ⟨j,hj,e'',(List.getElem?_append_left (by omega)).trans hget,hsame⟩
  · rw [previous_append hi]
    exact h.moves

theorem Chained.append {pointerId : String} {history : List ActivationRecord} {e : ActivationRecord}
    (h : Chained pointerId history) (he : EntryFits pointerId history history.length e) :
    Chained pointerId (history ++ [e]) := by
  intro i e' hget
  rcases Nat.lt_trichotomy i history.length with hi | hi | hi
  · rw [List.getElem?_append_left hi] at hget
    exact (h i e' hget).append hi.le
  · subst hi
    rw [List.getElem?_concat_length] at hget
    cases hget
    exact he.append le_rfl
  · have hnone : (history ++ [e])[i]? = none :=
      List.getElem?_eq_none (by rw [List.length_append,List.length_singleton]; omega)
    rw [hnone] at hget
    cases hget

structure ReleaseInvariant (s : Repository) (pointerId : String) (p : ReleasePointer) : Prop where
  named : pointerId = p.pointerId
  revision : p.revision.1 = (s.historyOf pointerId).length
  chained : Chained pointerId (s.historyOf pointerId)
  last : ∃ e, (s.historyOf pointerId).getLast? = some e ∧ e.targetKind = p.targetKind ∧ e.targetId = p.targetId ∧
    e.targetVersion = p.targetVersion ∧ e.targetDigest = p.targetDigest
  target : ∃ v, s.version p.targetKind p.targetId.1 p.targetVersion.1 = some v ∧ v.owner = p.owner ∧
    v.lifecycle.status = .active ∧ v.recordDigest = p.targetDigest
  untombed : (s.records .tombstone).get (p.targetKind,p.targetId.1,p.targetVersion.1) = none

structure Consistent (s : Repository) : Prop where
  released : ∀ pointerId p, s.releasePointers.get pointerId = some p → ReleaseInvariant s pointerId p
  unreleased : ∀ pointerId, s.releasePointers.get pointerId = none → s.historyOf pointerId = []
  tombed : ∀ key tombstone, (s.records .tombstone).get key = some tombstone →
    ∃ v, s.version key.1 key.2.1 key.2.2 = some v ∧ v.owner = Kind.owner .tombstone tombstone

theorem consistent_empty : Consistent Repository.empty := by
  refine ⟨?_,fun _ _ => rfl,?_⟩
  · intro pointerId p hp
    cases hp
  · intro key tombstone h
    cases h

theorem historyOf_congr (h : t.activationHistory = s.activationHistory) (pointerId : String) :
    t.historyOf pointerId = s.historyOf pointerId := by
  unfold Repository.historyOf
  rw [h]

theorem Consistent.of_records (h : Consistent s) (hpointers : t.releasePointers = s.releasePointers)
    (hhistory : t.activationHistory = s.activationHistory)
    (hkeeps : ∀ {k : Kind} {key : k.Key} {r : k.Record}, (s.records k).get key = some r →
      (t.records k).get key = some r)
    (htombstones : ∀ key tombstone, (t.records .tombstone).get key = some tombstone →
      (s.records .tombstone).get key = some tombstone ∨
        (∃ v, s.version key.1 key.2.1 key.2.2 = some v ∧ v.owner = Kind.owner .tombstone tombstone) ∧
        ∀ pointerId p, s.releasePointers.get pointerId = some p →
          key ≠ (p.targetKind,p.targetId.1,p.targetVersion.1)) : Consistent t := by
  refine ⟨?_,?_,?_⟩
  · intro pointerId p hp
    rw [hpointers] at hp
    obtain ⟨hnamed,hrevision,hchained,hlast,⟨v,hv,hrest⟩,huntombed⟩ := h.released pointerId p hp
    rw [← historyOf_congr hhistory] at hrevision hchained hlast
    refine ⟨hnamed,hrevision,hchained,hlast,⟨v,version_kept hkeeps hv,hrest⟩,?_⟩
    rw [← Option.not_isSome_iff_eq_none,Option.isSome_iff_exists]
    rintro ⟨tombstone,htombstone⟩
    rcases htombstones _ tombstone htombstone with hold | ⟨-,hother⟩
    · rw [huntombed] at hold
      cases hold
    · exact hother pointerId p hp rfl
  · intro pointerId hnone
    rw [hpointers] at hnone
    rw [historyOf_congr hhistory]
    exact h.unreleased pointerId hnone
  · intro key tombstone htombstone
    have hversion : ∃ v, s.version key.1 key.2.1 key.2.2 = some v ∧ v.owner = Kind.owner .tombstone tombstone := by
      rcases htombstones key tombstone htombstone with hold | ⟨hnew,-⟩
      · exact h.tombed key tombstone hold
      · exact hnew
    obtain ⟨v,hv,howner⟩ := hversion
    exact ⟨v,version_kept hkeeps hv,howner⟩

theorem owner_eq {v v' : GatewayVersion} {o : Option GatewayVersion} {owner owner' : String × String}
    (hv : o = some v) (hv' : o = some v') (h : v.owner = owner) (h' : v'.owner = owner') : owner = owner' := by
  rw [hv] at hv'
  cases hv'
  exact h.symm.trans h'

theorem consistent_register {k : Kind} {record : k.Record} (hs : Consistent s)
    (h : register scope k record s = .ok t) : Consistent t := by
  obtain ⟨howner,hput⟩ := register_ok h
  obtain ⟨hpointers,hhistory⟩ := put_releases hput
  refine hs.of_records hpointers hhistory (put_keeps hput) ?_
  intro key tombstone htombstone
  by_cases hk : .tombstone = k
  · subst hk
    rw [put_get hput] at htombstone
    rcases Option.or_eq_some_iff.mp htombstone with hold | ⟨-,hnew⟩
    · exact .inl hold
    · split_ifs at hnew with hkey
      obtain rfl : record = tombstone := Option.some.inj hnew
      obtain ⟨⟨v,hv,hvowner⟩,hpointer⟩ := tombstoneChecks_ok (gated_ok.mp h).2.1
      have htombed : Kind.owner .tombstone record = (scope.organizationId.1,scope.tenantId.1) :=
        congrArg (fun o : Identifier × Identifier => (o.1.1,o.2.1)) howner
      subst hkey
      refine .inr ⟨⟨v,hv,hvowner.trans htombed.symm⟩,?_⟩
      -- The target is in the tombstone's scope, and so the pointer at it would have been seen.
      intro pointerId p hp htarget
      obtain ⟨hnamed,-,-,-,⟨v',hv',hv'owner,-⟩,-⟩ := hs.released pointerId p hp
      obtain ⟨hkind,hid,hversion⟩ : record.resourceKind = p.targetKind ∧ record.resourceId.1 = p.targetId.1 ∧
          record.resourceVersion.1 = p.targetVersion.1 := by
        simpa [Kind.keyOf] using htarget
      rw [hkind,hid,hversion] at hv
      have hpowner := owner_eq hv' hv hv'owner hvowner
      have htenant : p.tenantId = scope.tenantId := Subtype.ext (congrArg Prod.snd hpowner)
      rw [hnamed] at hp
      have hname : p.pointerId = releasePointerId scope.tenantId record.resourceKind record.resourceId := by
        rw [hkind,hid,← htenant]
        rfl
      rw [hname] at hp
      exact hpointer p hp hpowner (Subtype.ext hversion.symm)
  · rw [put_other hput hk] at htombstone
    exact .inl htombstone

section
variable {request : ActivationRequest} {pointer : ReleasePointer} {activation : ActivationRecord}

theorem Consistent.current (hs : Consistent s) (pointerId : String) :
    revisionOf (s.releasePointers.get pointerId) = (s.historyOf pointerId).length ∧
      (s.releasePointers.get pointerId).map (·.targetVersion) =
        (s.historyOf pointerId).getLast?.map (·.targetVersion) := by
  cases hget : s.releasePointers.get pointerId with
  | none =>
    rw [hs.unreleased pointerId hget]
    exact ⟨rfl,rfl⟩
  | some p =>
    have hp := hs.released pointerId p hget
    obtain ⟨e,he,-,-,hversion,-⟩ := hp.last
    rw [he]
    exact ⟨hp.revision,congrArg some hversion.symm⟩

theorem Activated.revision (h : Activated s scope request pointer activation t) (hs : Consistent s) :
    pointer.revision.1 = (s.historyOf pointer.pointerId).length + 1 := by
  rw [h.prepared.revision.1,h.own,(hs.current pointer.pointerId).1]

theorem mem_history {pointerId : String} {e : ActivationRecord}
    (h : e ∈ (s.reads scope).activationHistory pointerId) : e ∈ s.historyOf pointerId := by
  unfold Repository.reads at h
  dsimp only at h
  split_ifs at h
  · exact h
  · cases h

section
variable (h : Activated s scope request pointer activation t)
include h

theorem Activated.entryFits (hs : Consistent s) :
    EntryFits pointer.pointerId (s.historyOf pointer.pointerId) (s.historyOf pointer.pointerId).length activation := by
  obtain ⟨hkind,hid,hversion,-⟩ := h.prepared.agrees
  obtain ⟨-,hcurrent⟩ := hs.current pointer.pointerId
  refine ⟨⟨h.prepared.ofPointer.1,?_⟩,?_,?_,?_,?_⟩
  · rw [h.prepared.ofPointer.2,hkind,hid]
    rfl
  · rw [h.prepared.revision.2]
    exact h.revision hs
  · rw [previous_length,h.prepared.previous,h.own]
    exact hcurrent
  · intro hrolls
    obtain ⟨e,he,hsame⟩ := h.prepared.rollsBack hrolls
    obtain ⟨j,hj,hget⟩ := List.mem_iff_getElem.mp (mem_history he)
    exact ⟨j,hj,e,List.getElem?_eq_some_iff.mpr ⟨hj,hget⟩,hsame.trans hversion.symm⟩
  · intro e he hsame
    rw [previous_length] at he
    rw [he,Option.map_some] at hcurrent
    obtain ⟨p,hp,hpversion⟩ := Option.map_eq_some_iff.mp hcurrent
    exact h.prepared.moves p (h.own.trans hp) (hpversion.trans (hsame.trans hversion))

theorem Activated.records : t.records = s.records := by
  rcases h.stored with ⟨-,rfl⟩ | rfl
  · rfl
  · rfl

theorem Activated.pointers : t.releasePointers = s.releasePointers.set pointer.pointerId pointer := by
  rcases h.stored with ⟨-,rfl⟩ | rfl
  · rfl
  · rfl

theorem Activated.history (hs : Consistent s)
    (pointerId : String) : t.historyOf pointerId = if pointerId = pointer.pointerId then
      s.historyOf pointer.pointerId ++ [activation] else s.historyOf pointerId := by
  rcases h.stored with ⟨hmem,-⟩ | rfl
  · exfalso
    obtain ⟨i,hi,hget⟩ := List.mem_iff_getElem.mp hmem
    have hfits : EntryFits pointer.pointerId (s.historyOf pointer.pointerId) i activation := by
      cases hcurrent : s.releasePointers.get pointer.pointerId with
      | none =>
        rw [hs.unreleased _ hcurrent] at hi
        cases hi
      | some p => exact (hs.released _ p hcurrent).chained i activation (List.getElem?_eq_some_iff.mpr ⟨hi,hget⟩)
    have hnew := (h.entryFits hs).revision
    rw [hfits.revision] at hnew
    omega
  · unfold Repository.historyOf
    rw [Dict.get_set]
    split_ifs with hsame
    · rfl
    · rfl

theorem Activated.invariant (hs : Consistent s) : ReleaseInvariant t pointer.pointerId pointer := by
  have hhistory : t.historyOf pointer.pointerId = s.historyOf pointer.pointerId ++ [activation] := by
    rw [h.history hs,if_pos rfl]
  have hchained : Chained pointer.pointerId (s.historyOf pointer.pointerId) := by
    cases hcurrent : s.releasePointers.get pointer.pointerId with
    | none =>
      rw [hs.unreleased _ hcurrent]
      intro i e hget
      cases hget
    | some p => exact (hs.released _ p hcurrent).chained
  obtain ⟨v,hv,hactive,hdigest⟩ := h.prepared.target
  rw [lookupVersion_reads] at hv
  obtain ⟨hv,howner⟩ := scopeRecord_eq_some.mp hv
  have hpowner : pointer.owner = (scope.organizationId.1,scope.tenantId.1) :=
    Prod.ext (congrArg Subtype.val h.prepared.owner.1) (congrArg Subtype.val h.prepared.owner.2)
  refine ⟨rfl,?_,?_,⟨activation,?_,h.prepared.agrees⟩,⟨v,?_,howner.trans hpowner.symm,hactive,hdigest⟩,?_⟩
  · rw [hhistory,List.length_append]
    exact h.revision hs
  · rw [hhistory]
    exact hchained.append (h.entryFits hs)
  · rw [hhistory]
    exact List.getLast?_concat
  · exact version_kept (fun hget => by rw [h.records]; exact hget) hv
  · rw [h.records,← Option.not_isSome_iff_eq_none,Option.isSome_iff_exists]
    -- A tombstone of the target would be in its scope, and the read would have found it.
    rintro ⟨tombstone,htombstone⟩
    obtain ⟨v',hv',hv'owner⟩ := hs.tombed _ tombstone htombstone
    have hseen : (s.reads scope).get .tombstone (pointer.targetKind,pointer.targetId.1,pointer.targetVersion.1) =
        some tombstone := scopeRecord_eq_some.mpr ⟨htombstone,owner_eq hv' hv hv'owner howner⟩
    rw [h.prepared.untombed] at hseen
    cases hseen

theorem Activated.consistent (hs : Consistent s) : Consistent t := by
  refine ⟨?_,?_,?_⟩
  · intro pointerId p hp
    rw [h.pointers,Dict.get_set] at hp
    split_ifs at hp with hsame
    · cases hp
      subst hsame
      exact h.invariant hs
    · obtain ⟨hnamed,hrevision,hchained,hlast,htarget,huntombed⟩ := hs.released pointerId p hp
      have hhistory : t.historyOf pointerId = s.historyOf pointerId := by rw [h.history hs,if_neg hsame]
      rw [← hhistory] at hrevision hchained hlast
      obtain ⟨v,hv,hrest⟩ := htarget
      refine ⟨hnamed,hrevision,hchained,hlast,⟨v,?_,hrest⟩,?_⟩
      · exact version_kept (fun hget => by rw [h.records]; exact hget) hv
      · rw [h.records]
        exact huntombed
  · intro pointerId hnone
    rw [h.pointers,Dict.get_set] at hnone
    split_ifs at hnone with hsame
    rw [h.history hs,if_neg hsame]
    exact hs.unreleased pointerId hnone
  · intro key tombstone htombstone
    rw [h.records] at htombstone
    obtain ⟨v,hv,howner⟩ := hs.tombed key tombstone htombstone
    exact ⟨v,version_kept (fun hget => by rw [h.records]; exact hget) hv,howner⟩

end

end

theorem consistent_step (s : Repository) (call : Call) (hs : Consistent s) : Consistent (step s call).2 := by
  have hleaves := leaves_step s call
  generalize (step s call).2 = t at hleaves
  cases hleaves with
  | refused => exact hs
  | organization => exact hs.of_records rfl rfl (fun hget => hget) fun _ _ htombstone => .inl htombstone
  | tenant => exact hs.of_records rfl rfl (fun hget => hget) fun _ _ htombstone => .inl htombstone
  | registered h => exact consistent_register hs h
  | activated h => exact h.consistent hs

/-- Whatever calls are made, every release pointer agrees with its history and points at an active version
that has no tombstone. -/
theorem release_pointers_consistent (calls : List Call) : Consistent (after step Repository.empty calls) :=
  Reachable.invariant consistent_step consistent_empty ⟨calls,rfl⟩

end Arbora.Foundation
