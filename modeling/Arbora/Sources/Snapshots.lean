import Arbora.Sources.Records

/-! What a stored checkpoint proves of its snapshot: the entries that the request selected, and no others. -/
namespace Arbora.Sources
open Agents (Identifier)
open Interaction PolicyPlane Prog

def Attested (s : Store) (manifest : SourceManifest) (o : EntryReconciliation) : Prop :=
  match o.outcome with
  | .failed | .partially | .timeout => True
  | .tombstoned => manifest.entry o.entryId = none ∧ ∃ previous ∈ s.entries.values, previous.entryId = o.entryId ∧
      previous.authorityId = manifest.authorityId ∧ some previous.entryDigest = o.expectedEntryDigest ∧
        previous.relativePath = o.relativePath
  | .added | .updated | .unchanged => ∃ current, manifest.entry o.entryId = some current ∧
      current.relativePath = o.relativePath ∧ o.observedEntryDigest = some current.entryDigest

def Proven {ι : Type} (jobs : ι → Job) (s : Store) (r : SourceReconciliation) : Prop :=
  ∃ i request manifest, jobs i = .reconcile request ∧ s.manifests.get r.manifestId = some manifest ∧
    Built request manifest r ∧ ∀ o ∈ r.outcomes, Attested s manifest o

inductive Outcome (s : Store) (manifest : SourceManifest) (o : EntryReconciliation) : Prop where
  | present (entry : SourceCatalogEntry) (hmem : entry ∈ manifest.entries) (hid : entry.entryId = o.entryId)
      (hkind : o.outcome = .added ∨ o.outcome = .updated ∨ o.outcome = .unchanged)
      (hpath : o.relativePath = entry.relativePath) (hdigest : o.observedEntryDigest = some entry.entryDigest)
  | absent (previous : SourceCatalogEntry) (hstored : previous ∈ s.entries.values)
      (hauthority : previous.authorityId = manifest.authorityId) (hid : previous.entryId = o.entryId)
      (habsent : o.entryId ∉ manifest.entryIds) (hkind : o.outcome = .tombstoned) (hverified : o.absenceVerified = true)
      (hpath : o.relativePath = previous.relativePath) (hdigest : o.expectedEntryDigest = some previous.entryDigest)

structure Proves (s : Store) (request : SourceReconciliationRequest) (manifest : SourceManifest) (r : SourceReconciliation)
    (checkpoint : SourceCheckpoint) : Prop where
  stored : s.manifests.get checkpoint.manifestId = some manifest
  itsOwn : checkpoint.authorityId = manifest.authorityId ∧ checkpoint.manifestRevision = manifest.manifestRevision ∧
    checkpoint.manifestDigest = manifest.manifestDigest
  persisted : s.reconciliations.get checkpoint.reconciliationId = some r
  complete : r.complete = true
  ofManifest : r.manifestId = manifest.manifestId ∧ r.manifestDigest = manifest.manifestDigest
  selected : r.selectedEntryIds = selection request manifest
  covers : ∀ id ∈ selection request manifest, ∃ o ∈ r.outcomes, o.entryId = id ∧ Outcome s manifest o
  once : (r.outcomes.map (·.entryId)).Nodup
  only : ∀ o ∈ r.outcomes, o.entryId ∈ selection request manifest

section
variable {ι : Type} {jobs : ι → Job} {s s' : Store} {manifest : SourceManifest} {o : EntryReconciliation}
  {r : SourceReconciliation}

theorem mem_entries_mono (hext : Extends s s') {entry : SourceCatalogEntry} (h : entry ∈ s.entries.values) :
    entry ∈ s'.entries.values := by
  obtain ⟨k,hk⟩ := Dict.mem_values.mp h
  exact Dict.mem_values.mpr ⟨k,hext.entries _ _ hk⟩

theorem Attested.mono (h : Attested s manifest o) (hext : Extends s s') : Attested s' manifest o := by
  unfold Attested at h ⊢
  cases hkind : o.outcome with
  | failed | partially | timeout => trivial
  | added | updated | unchanged =>
    rw [hkind] at h
    exact h
  | tombstoned =>
    rw [hkind] at h
    obtain ⟨habsent,previous,hstored,hprevious⟩ := h
    exact ⟨habsent,previous,mem_entries_mono hext hstored,hprevious⟩

theorem Proven.mono (h : Proven jobs s r) (hext : Extends s s') : Proven jobs s' r := by
  obtain ⟨i,request,manifest,hjob,hstored,hbuilt,hattested⟩ := h
  exact ⟨i,request,manifest,hjob,hext.manifests _ _ hstored,hbuilt,fun o ho => (hattested o ho).mono hext⟩

theorem attested_of_checked {scope : SourceScope} {h : History} (hc : Checked scope manifest h o)
    (hshown : ∀ x ∈ h, Shown s x) : Attested s manifest o := by
  unfold Checked at hc
  unfold Attested
  cases hkind : o.outcome with
  | failed | partially | timeout => trivial
  | added | updated | unchanged =>
    rw [hkind] at hc
    exact hc
  | tombstoned =>
    rw [hkind] at hc
    obtain ⟨habsent,previous,hread,_,hauthority,hdigest,hpath⟩ := hc
    obtain ⟨hstored,hid⟩ := hshown _ hread
    exact ⟨habsent,previous,hstored,hid,hauthority,hdigest,hpath⟩

theorem outcome_ids (r : SourceReconciliation) : r.outcomes.map (·.entryId) = r.selectedEntryIds := by
  have hnormalized : (r.outcomes.map (·.entryId)).Pairwise fun a b => a.1 < b.1 := by
    have h := r.normalized
    unfold ascending at h
    rwa [← Function.comp_def Subtype.val,← List.map_map,List.pairwise_map] at h
  exact hnormalized.eq_of_mem_iff (List.pairwise_map.mp r.selection) fun id => r.covers id

theorem terminal_of_complete (h : r.complete = true) (ho : o ∈ r.outcomes) : o.terminal = true := by
  have hcount := of_decide_eq_true h
  rw [← outcome_ids r,List.length_map] at hcount
  exact List.countP_eq_length.mp hcount o ho

theorem outcome_of_attested (h : Attested s manifest o) (hterminal : o.terminal = true) : Outcome s manifest o := by
  have hpresent : (o.outcome = .added ∨ o.outcome = .updated ∨ o.outcome = .unchanged) →
      (∃ current, manifest.entry o.entryId = some current ∧ current.relativePath = o.relativePath ∧
        o.observedEntryDigest = some current.entryDigest) → Outcome s manifest o := by
    rintro hkind ⟨current,hentry,hpath,hdigest⟩
    have hid : current.entryId = o.entryId := by simpa using List.find?_some hentry
    exact .present current (List.mem_of_find?_eq_some hentry) hid hkind hpath.symm hdigest
  unfold Attested at h
  unfold EntryReconciliation.terminal at hterminal
  cases hkind : o.outcome with
  | failed | partially | timeout =>
    rw [hkind] at hterminal
    cases hterminal
  | added =>
    rw [hkind] at h
    exact hpresent (.inl hkind) h
  | updated =>
    rw [hkind] at h
    exact hpresent (.inr (.inl hkind)) h
  | unchanged =>
    rw [hkind] at h
    exact hpresent (.inr (.inr hkind)) h
  | tombstoned =>
    rw [hkind] at h
    obtain ⟨habsent,previous,hstored,hid,hauthority,hdigest,hpath⟩ := h
    have hverified := o.evidenced
    rw [hkind] at hverified
    refine .absent previous hstored hauthority hid ?_ hkind hverified.2.2 hpath.symm hdigest.symm
    intro hmem
    obtain ⟨entry,hentry,hsame⟩ := List.mem_map.mp hmem
    exact absurd (decide_eq_true hsame) (List.find?_eq_none.mp habsent entry hentry)

end

section
variable {ι : Type} [DecidableEq ι] {sees : Sight} {jobs : ι → Job} {s s' : Store} {e : Call} {a : e.Answer}
  {log : List (ι × Event Call Call.Answer)}

theorem serves_reconciliations {id : Identifier} {r : SourceReconciliation} (hw : Store.Serves sees s e a s')
    (h : s'.reconciliations.get id = some r) :
    s.reconciliations.get id = some r ∨ id = r.reconciliationId ∧ e = .putReconciliation r := by
  cases hw with
  | refused => exact .inl h
  | served =>
    cases e with
    | putReconciliation r' =>
      rcases retain_inv h with hold | ⟨hid,rfl⟩
      · exact .inl hold
      · exact .inr ⟨hid,rfl⟩
    | compareAndSwapCheckpoint scope mutation checkpoint =>
      unfold Store.respond at h
      dsimp only at h
      split_ifs at h
      · exact .inl h
      · exact .inl h
    | putAuthority | putCatalogEntry | putManifest => exact .inl h
    | getAuthority | getManifest | getCatalogEntry | getReconciliation | getCheckpoint => exact .inl h

structure Referring (s : Store) (checkpoint : SourceCheckpoint) (manifest : SourceManifest) (r : SourceReconciliation) :
    Prop where
  stored : s.manifests.get checkpoint.manifestId = some manifest
  named : checkpoint.manifestId = manifest.manifestId
  itsOwn : checkpoint.authorityId = manifest.authorityId ∧ checkpoint.manifestRevision = manifest.manifestRevision ∧
    checkpoint.manifestDigest = manifest.manifestDigest
  persisted : s.reconciliations.get checkpoint.reconciliationId = some r
  complete : r.complete = true
  ofManifest : r.manifestId = manifest.manifestId

theorem Referring.mono {checkpoint : SourceCheckpoint} {manifest : SourceManifest} {r : SourceReconciliation}
    (h : Referring s checkpoint manifest r) (hext : Extends s s') : Referring s' checkpoint manifest r :=
  ⟨hext.manifests _ _ h.stored,h.named,h.itsOwn,hext.reconciliations _ _ h.persisted,h.complete,h.ofManifest⟩

/-- What holds of the store of a control plane that has started with nothing. -/
structure Evident (jobs : ι → Job) (log : List (ι × Event Call Call.Answer)) (s : Store) : Prop where
  shown : ∀ x ∈ log, Shown s x.2
  proven : ∀ id r, s.reconciliations.get id = some r → Proven jobs s r
  referring : ∀ id checkpoint, s.checkpoints.get id = some checkpoint → ∃ manifest r, Referring s checkpoint manifest r

theorem evident_step {i : ι} (h : Evident jobs log s) (hg : Guard (jobs i) (Pool.own i log) e)
    (hw : Store.Serves sees s e a s') : Evident jobs (log ++ [(i,⟨e,a⟩)]) s' := by
  have hext := serves_extends hw
  have hown : ∀ x ∈ Pool.own i log, Shown s x := fun x hx => h.shown _ (Pool.mem_own.mp hx)
  refine ⟨fun x hx => ?_,fun id r hr => ?_,fun id checkpoint hcheckpoint => ?_⟩
  · rcases List.mem_append.mp hx with hold | hnew
    · exact (h.shown x hold).mono hext
    · rw [List.mem_singleton.mp hnew]
      exact serves_shown hw
  · rcases serves_reconciliations hw hr with hold | ⟨_,rfl⟩
    · exact (h.proven id r hold).mono hext
    · cases hjob : jobs i with
      | register registration =>
        rw [hjob] at hg
        exact hg.elim
      | reconcile request =>
        rw [hjob] at hg
        obtain ⟨manifest,hev⟩ := hg
        have hproven : Proven jobs s r := by
          refine ⟨i,request,manifest,hjob,?_,hev.built,fun o ho => attested_of_checked (hev.checked o ho) hown⟩
          rw [hev.built.manifestId]
          exact hev.stored hown
        exact hproven.mono hext
  · rcases serves_checkpoints hw with hsame | ⟨scope,mutation,checkpoint',hevent,hswap⟩
    · rw [hsame] at hcheckpoint
      obtain ⟨manifest,r,hreferring⟩ := h.referring id checkpoint hcheckpoint
      exact ⟨manifest,r,hreferring.mono hext⟩
    · rw [hswap.swapped,Dict.get_set] at hcheckpoint
      split_ifs at hcheckpoint with hid
      · cases hcheckpoint
        cases hevent
        cases hjob : jobs i with
        | register registration =>
          rw [hjob] at hg
          exact hg.elim
        | reconcile request =>
          rw [hjob] at hg
          obtain ⟨manifest,r,stored,current,ha⟩ := hg
          have hreferring : Referring s checkpoint manifest stored := by
            refine ⟨?_,ha.manifestId,⟨ha.authorityId,ha.manifestRevision,ha.manifestDigest⟩,?_,ha.complete,?_⟩
            · rw [ha.manifestId]
              exact ha.evidenced.stored hown
            · rw [ha.reconciliationId]
              exact ha.persisted.stored hown
            · exact ha.persisted.same.1.trans ha.evidenced.built.manifestId
          exact ⟨manifest,stored,hreferring.mono hext⟩
      · obtain ⟨manifest,r,hreferring⟩ := h.referring id checkpoint hcheckpoint
        exact ⟨manifest,r,hreferring.mono hext⟩

end

namespace Fixture

def name (t : String) (h : Agents.isIdentifierOf 192 t = true := by decide +kernel) : Identifier := ⟨t,h⟩
def opaqueRef (t : String) (h : Agents.isIdentifierOf 192 t = true := by decide +kernel)
    (h' : Agents.isOpaque (name t h) = true := by decide +kernel) : OpaqueRef := ⟨name t h,h'⟩
def path (t : String) (h : isRelativePath t = true := by decide +kernel) : RelativePath := ⟨t,h⟩

theorem tenant_isIdentifier : Agents.isIdentifierOf 192 "tenant" = true := by decide +kernel
theorem publisher_isIdentifier : Agents.isIdentifierOf 192 "publisher" = true := by decide +kernel
theorem package_isIdentifier : Agents.isIdentifierOf 192 "package" = true := by decide +kernel
theorem operator_isIdentifier : Agents.isIdentifierOf 192 "operator" = true := by decide +kernel
theorem change_isIdentifier : Agents.isIdentifierOf 192 "change:one" = true := by decide +kernel

theorem content_isDigest :
    PolicyPlane.isDigest "sha256:eeeeeeeeeeeeeeeeeeeeeeeeeeeeeeeeeeeeeeeeeeeeeeeeeeeeeeeeeeeeeeee" = true := by decide +kernel
theorem newYear_isTimestamp : Agents.isTimestamp "2026-01-01T00:00:00Z" = true := by decide +kernel

theorem first_revision : 1 ≤ 1 := le_rfl
theorem byte_fits : 1 ≤ 10^12 := by decide
theorem none_few : 0 ≤ 64 := Nat.zero_le 64
theorem none_ordered : List.Pairwise (fun a b : String => a < b) [] := .nil

def content : Digest := ⟨"sha256:eeeeeeeeeeeeeeeeeeeeeeeeeeeeeeeeeeeeeeeeeeeeeeeeeeeeeeeeeeeeeeee",content_isDigest⟩

def authority : SourceAuthority where
  authorityId := _
  tenantId := name "tenant" tenant_isIdentifier
  publisher := name "publisher" publisher_isIdentifier
  packageName := name "package" package_isIdentifier
  sourceName := name "source"
  sourceKind := .git
  sourceRef := opaqueRef "repository:one"
  rootRef := none
  authorityRevision := ⟨1,first_revision⟩
  schemaDigest := none
  authorityDigest := _
  stable := rfl
  digested := rfl

def entryAt (p : RelativePath) : SourceCatalogEntry where
  entryId := _
  authorityId := authority.authorityId
  tenantId := authority.tenantId
  relativePath := p
  entryRevision := ⟨1,first_revision⟩
  entryKind := .file
  contentDigest := content
  artifactRef := opaqueRef "artifact:one"
  schemaDigest := none
  sizeBytes := ⟨1,byte_fits⟩
  entryDigest := _
  stable := rfl
  digested := rfl

def first : SourceCatalogEntry := entryAt (path "a.md")
def second : SourceCatalogEntry := entryAt (path "b.md")

theorem ordered : first.entryId.1 < second.entryId.1 := by decide +kernel

def manifest : SourceManifest where
  manifestId := _
  authorityId := authority.authorityId
  authorityDigest := authority.authorityDigest
  tenantId := authority.tenantId
  manifestRevision := ⟨1,first_revision⟩
  entries := [first,second]
  observationStatus := .complete
  observedAt := ⟨"2026-01-01T00:00:00Z",newYear_isTimestamp⟩
  verifiedEmpty := none
  manifestDigest := _
  few := by decide
  scope := by
    intro entry hentry
    rcases List.mem_pair.mp hentry with rfl | rfl
    · exact ⟨rfl,rfl⟩
    · exact ⟨rfl,rfl⟩
  normalized := List.pairwise_pair.mpr ordered
  evidence := ⟨nofun,fun h => absurd h.1 (List.cons_ne_nil _ _)⟩
  digested := rfl
  derived := rfl

def added : EntryReconciliation where
  entryId := first.entryId
  authorityId := authority.authorityId
  tenantId := authority.tenantId
  relativePath := first.relativePath
  outcome := .added
  expectedEntryDigest := none
  observedEntryDigest := some first.entryDigest
  evidenceRef := opaqueRef "evidence:one"
  evidenceDigest := content
  absenceVerified := false
  evidenced := ⟨rfl,rfl,rfl⟩

def request : SourceReconciliationRequest where
  scope := ⟨authority.tenantId,name "operator" operator_isIdentifier,[],none_few,none_ordered⟩
  authorityId := authority.authorityId
  manifestId := manifest.manifestId
  selectedEntryIds := [first.entryId]
  outcomes := [added]
  expectedCheckpointRevision := 0
  expectedCheckpointId := none
  changeRef := opaqueRef "change:one" change_isIdentifier
  few := ⟨by decide,by decide⟩
  selection := List.pairwise_singleton _ _

def jobs : Fin 2 → Job
  | 0 => .register ⟨authority,manifest,rfl,rfl,rfl⟩
  | 1 => .reconcile request

abbrev all : Sight := fun _ _ _ => true

def registered : Store where
  authorities := Dict.set ∅ (authority.authorityId,authority.authorityDigest) authority
  entries := (Dict.set ∅ (first.entryId,1) first).set (second.entryId,1) second
  manifests := Dict.set ∅ manifest.manifestId manifest
  reconciliations := ∅
  checkpoints := ∅

theorem retain_new {κ ν : Type} [DecidableEq κ] [DecidableEq ν] {d : Dict κ ν} {k : κ} {v : ν} (h : d.get k = none) :
    retain d k v = (.ok (),d.set k v) := by
  unfold retain
  rw [h]

section
variable {s : Store}

theorem serves_putAuthority {a : SourceAuthority} (h : s.authorities.get (a.authorityId,a.authorityDigest) = none) :
    Store.Serves all s (.putAuthority a) (.ok ())
      { s with authorities := s.authorities.set (a.authorityId,a.authorityDigest) a } := by
  have hserved := @Store.Serves.served all s (.putAuthority a)
  unfold Store.respond at hserved
  dsimp only at hserved
  rwa [retain_new h] at hserved

theorem serves_putCatalogEntry {e : SourceCatalogEntry} (h : s.entries.get (e.entryId,e.entryRevision.1) = none) :
    Store.Serves all s (.putCatalogEntry e) (.ok ())
      { s with entries := s.entries.set (e.entryId,e.entryRevision.1) e } := by
  have hserved := @Store.Serves.served all s (.putCatalogEntry e)
  unfold Store.respond at hserved
  dsimp only at hserved
  rwa [retain_new h] at hserved

theorem serves_putManifest {m : SourceManifest} (h : s.manifests.get m.manifestId = none) :
    Store.Serves all s (.putManifest m) (.ok ()) { s with manifests := s.manifests.set m.manifestId m } := by
  have hserved := @Store.Serves.served all s (.putManifest m)
  unfold Store.respond at hserved
  dsimp only at hserved
  rwa [retain_new h] at hserved

theorem serves_putReconciliation {r : SourceReconciliation} (h : s.reconciliations.get r.reconciliationId = none) :
    Store.Serves all s (.putReconciliation r) (.ok ())
      { s with reconciliations := s.reconciliations.set r.reconciliationId r } := by
  have hserved := @Store.Serves.served all s (.putReconciliation r)
  unfold Store.respond at hserved
  dsimp only at hserved
  rwa [retain_new h] at hserved

variable {scope : SourceScope} {id : Identifier}

theorem serves_getManifest {m : SourceManifest} (h : s.manifests.get id = some m) :
    Store.Serves all s (.getManifest scope id) (.ok (some m)) s := by
  have hserved := @Store.Serves.served all s (.getManifest scope id)
  unfold Store.respond at hserved
  dsimp only at hserved
  rwa [h] at hserved

theorem serves_getAuthority {digest : Digest} {a : SourceAuthority} (h : s.authorities.get (id,digest) = some a) :
    Store.Serves all s (.getAuthority scope id digest) (.ok (some a)) s := by
  have hserved := @Store.Serves.served all s (.getAuthority scope id digest)
  unfold Store.respond at hserved
  dsimp only at hserved
  rwa [h] at hserved

theorem serves_getReconciliation (h : s.reconciliations.get id = none) :
    Store.Serves all s (.getReconciliation scope id) (.ok none) s := by
  have hserved := @Store.Serves.served all s (.getReconciliation scope id)
  unfold Store.respond at hserved
  dsimp only at hserved
  rwa [h] at hserved

theorem serves_getCheckpoint (h : s.checkpoints.get id = none) :
    Store.Serves all s (.getCheckpoint scope id) (.ok none) s := by
  have hserved := @Store.Serves.served all s (.getCheckpoint scope id)
  unfold Store.respond at hserved
  dsimp only at hserved
  rwa [h] at hserved

theorem serves_compareAndSwap {mutation : CheckpointMutation} {checkpoint : SourceCheckpoint}
    (h : s.checkpoints.get mutation.authorityId = none) (hrevision : mutation.expectedRevision = 0)
    (hid : mutation.expectedCheckpointId = none) :
    Store.Serves all s (.compareAndSwapCheckpoint scope mutation checkpoint) (.ok checkpoint)
      { s with checkpoints := s.checkpoints.set mutation.authorityId checkpoint } := by
  have hserved := @Store.Serves.served all s (.compareAndSwapCheckpoint scope mutation checkpoint)
  unfold Store.respond at hserved
  dsimp only at hserved
  rwa [if_pos] at hserved
  rw [h,hrevision,hid]
  exact ⟨rfl,rfl⟩

end

theorem reaches_register : Reaches (Store.Serves all) (jobs 0).run Store.empty none registered := by
  have hnew : (Dict.set ∅ (first.entryId,1) first).get (second.entryId,1) = none := by
    rw [Dict.get_set_ne _ _ fun h => ?_,Dict.get_empty]
    have hsame : second.entryId = first.entryId := (Prod.mk.inj h).1
    have hlt := ordered
    rw [hsame] at hlt
    exact lt_irrefl _ hlt
  have hentries : Reaches (Store.Serves all) (putEntries manifest.entries)
      { registered with entries := ∅, manifests := ∅ } () { registered with manifests := ∅ } := by
    refine reaches_demand_bind (serves_putCatalogEntry (Dict.get_empty _)) ?_
    exact reaches_demand_bind (serves_putCatalogEntry hnew) .ret
  have hmanifest : Store.Serves all { registered with manifests := ∅ } (.putManifest manifest) (.ok ()) registered :=
    serves_putManifest (Dict.get_empty _)
  have hregister : Reaches (Store.Serves all) (Sources.register ⟨authority,manifest,rfl,rfl,rfl⟩) Store.empty () registered := by
    refine reaches_demand_bind (serves_putAuthority (Dict.get_empty _)) ?_
    exact hentries.bind (reaches_demand hmanifest)
  exact hregister.bind .ret

seal authorityIdFor authorityDigestFor entryIdFor catalogEntryDigestFor manifestIdFor manifestDigestFor

def reconciliation : SourceReconciliation where
  authorityId := manifest.authorityId
  tenantId := manifest.tenantId
  manifestId := manifest.manifestId
  manifestDigest := manifest.manifestDigest
  selectedEntryIds := [first.entryId]
  outcomes := [added]
  few := ⟨by decide,by decide⟩
  selection := List.pairwise_singleton _ _
  normalized := List.pairwise_singleton _ _
  covers := fun _ => Iff.rfl
  scope := by
    intro o ho
    cases List.mem_singleton.mp ho
    exact ⟨rfl,rfl⟩

def checkpoint : SourceCheckpoint :=
  ⟨manifest.authorityId,manifest.tenantId,⟨1,first_revision⟩,manifest.manifestId,manifest.manifestRevision,manifest.manifestDigest,
    reconciliation.reconciliationId,1,1,by decide,rfl⟩

def reconciled : Store := { registered with
  reconciliations := Dict.set ∅ reconciliation.reconciliationId reconciliation
  checkpoints := Dict.set ∅ manifest.authorityId checkpoint }

theorem reaches_loadManifest : Reaches (Store.Serves all)
    (loadManifest request.scope request.authorityId request.manifestId) registered manifest registered := by
  have hmanifest : registered.manifests.get request.manifestId = some manifest := Dict.get_set_self _ _ _
  have hauthority : registered.authorities.get (request.authorityId,manifest.authorityDigest) = some authority :=
    Dict.get_set_self _ _ _
  refine reaches_demand_bind (serves_getManifest hmanifest) (reaches_found_bind ?_)
  refine reaches_refuse_bind (not_not.mpr rfl) (reaches_refuse_bind (not_not.mpr rfl) ?_)
  refine reaches_demand_bind (serves_getAuthority hauthority) (reaches_found_bind ?_)
  refine reaches_refuse_bind (not_not.mpr rfl) (reaches_refuse_bind (not_not.mpr rfl) ?_)
  exact reaches_refuse_bind (not_not.mpr rfl) (reaches_refuse_bind (not_not.mpr rfl) .ret)

theorem reaches_validateOutcomes :
    Reaches (Store.Serves all) (validateOutcomes request.scope manifest [added]) registered () registered := by
  have hentry : manifest.entry added.entryId = some first := by
    exact List.find?_cons_of_pos (decide_eq_true rfl)
  have hkind : Reaches (Store.Serves all) (validateKind request.scope manifest added) registered () registered := by
    have hpresent : Reaches (Store.Serves all) (validatePresentOutcome added (some first)) registered () registered := by
      unfold validatePresentOutcome
      apply reaches_found_bind
      refine reaches_refuse_bind (not_not.mpr rfl) (reaches_refuse_bind (not_not.mpr rfl) ?_)
      exact reaches_refuse (not_not.mpr rfl)
    rw [← hentry] at hpresent
    exact hpresent
  have hscope : Reaches (Store.Serves all) (validateOutcomeScope request.scope manifest added) registered () registered :=
    reaches_refuse_bind (not_not.mpr rfl) (reaches_refuse (not_not.mpr rfl))
  exact Reaches.bind (hscope.bind hkind) .ret

theorem reaches_evidence :
    Reaches (Store.Serves all) (evidence request) registered (manifest,reconciliation) registered := by
  have hchecked : Reaches (Store.Serves all) (validateManifestForCheckpoint manifest) registered () registered :=
    reaches_refuse_bind (not_not.mpr rfl) (reaches_refuse fun h => List.cons_ne_nil _ _ h.1)
  refine reaches_loadManifest.bind (hchecked.bind ?_)
  have hselected : Reaches (Store.Serves all) (selectedEntryIds request manifest) registered [first.entryId] registered :=
    reaches_refuse_bind (not_not.mpr rfl) (reaches_refuse_bind (not_not.mpr (List.pairwise_singleton _ _)) .ret)
  refine hselected.bind (reaches_validateOutcomes.bind ?_)
  have hbuilt : Reaches (Store.Serves all) (buildReconciliation request manifest [first.entryId]) registered reconciliation
      registered := by
    unfold buildReconciliation
    rw [dif_pos]
    · exact .ret
    · exact ⟨reconciliation.few,reconciliation.selection,reconciliation.normalized,rfl,reconciliation.scope⟩
  exact hbuilt.bind .ret

theorem complete : reconciliation.complete = true := rfl

def result : SourceReconcileResult where
  reconciliation := reconciliation
  checkpoint := some checkpoint
  bound := by
    rintro c ⟨⟩
    exact ⟨complete,rfl,rfl⟩

theorem reaches_persistAndAdvance :
    Reaches (Store.Serves all) (persistAndAdvance request manifest reconciliation) registered result reconciled := by
  have hpersist : Reaches (Store.Serves all) (persistReconciliation request.scope reconciliation) registered reconciliation
      { reconciled with checkpoints := ∅ } := by
    refine reaches_demand_bind (serves_getReconciliation (Dict.get_empty _)) ?_
    exact reaches_demand_bind (serves_putReconciliation (Dict.get_empty _)) .ret
  have hadvance : Reaches (Store.Serves all) (advanceCheckpoint request manifest reconciliation none)
      { reconciled with checkpoints := ∅ } checkpoint reconciled := by
    refine reaches_demand_bind (serves_compareAndSwap (Dict.get_empty _) rfl rfl) ?_
    exact reaches_refuse_bind (not_not.mpr rfl) .ret
  refine hpersist.bind ?_
  refine reaches_demand_bind (serves_getCheckpoint (Dict.get_empty _)) ?_
  refine hadvance.bind ?_
  unfold reconcileResult
  rw [dif_pos]
  exact .ret

theorem reaches_reconcile : Reaches (Store.Serves all) (reconcile request) registered result reconciled :=
  reaches_evidence.bind reaches_persistAndAdvance

def settled : Pool (Fin 2) Call Call.Answer SourceError (Option SourceReconcileResult) Store :=
  ⟨reconciled,Function.update (Function.update (fun i => (jobs i).run) 0 (.ret none)) 1 (.ret (some result))⟩

theorem steps_settled : ∃ log, Pool.Steps (Store.Serves all) ⟨Store.empty,fun i => (jobs i).run⟩ log settled := by
  obtain ⟨t,ht⟩ := reaches_register
  have hreconcile : Reaches (Store.Serves all) (jobs 1).run registered (some result) reconciled :=
    reaches_reconcile.bind .ret
  obtain ⟨u,hu⟩ := hreconcile
  have hfirst : Pool.Steps (Store.Serves all) ⟨Store.empty,fun i => (jobs i).run⟩ _ _ := .of_run (i := 0) ht rfl rfl
  exact ⟨_,hfirst.trans (.of_run (i := 1) hu rfl rfl)⟩

end Fixture

end Arbora.Sources
