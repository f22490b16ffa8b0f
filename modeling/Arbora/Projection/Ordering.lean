import Arbora.Lib.Pool
import Arbora.Projection.ProjectorCalls

/-! Any number of `project_scope` calls over one checkpoint store and one graph, interleaved call by call. -/
namespace Arbora.Projection
open Interaction Service

structure Shared where
  store : ProjectionScope → Option ProjectionCheckpoint
  graph : List OutboxEnvelope

def Shared.Holds (s : Shared) (event : OutboxEnvelope) : Prop := ∃ applied ∈ s.graph, applied.eventId = event.eventId

/-- `last_sequence`, and 0 where nothing is stored. -/
def cursor : Option ProjectionCheckpoint → ℕ
  | none => 0
  | some checkpoint => checkpoint.lastSequence

def Shared.saved (s : Shared) (scope : ProjectionScope) (stored : Option ProjectionCheckpoint) : Shared :=
  { s with store := Function.update s.store scope stored }

/-- What the adapters may answer. Any call may raise. The outbox answers with any objects at all, of which the
envelopes are `published`, and the store with any checkpoint. A save that raises may have been made. -/
def world (published : OutboxEnvelope → Prop) : World Call Call.Answer Shared
  | s, .saveCheckpoint scope expected next, r, s' =>
    (s' = s ∧ ∃ x, r = .error x) ∨ (s.store scope = expected ∧ s' = s.saved scope (some next))
  | s, .applyEvent event _, r, s' =>
    s'.store = s.store ∧ (s'.graph = s.graph ∨ (¬ s.Holds event ∧ s'.graph = s.graph ++ [event])) ∧
      ∀ receipt, r = .ok (some receipt) → Acknowledged event receipt → s'.Holds event
  | s, .readAfter _ _ _, r, s' => s' = s ∧ ∀ page, r = .ok page → ∀ event, .envelope event ∈ page → published event
  | s, .resetProjection scope _, r, s' =>
    s'.store = s.store ∧ ∃ lost : OutboxEnvelope → Bool, (r = .ok () → ∀ event, lost event = true) ∧
      s'.graph = s.graph.filter fun event => !(decide (scope.Covers event) && lost event)
  | s, .resetCheckpoint scope _, r, s' =>
    (s' = s ∧ ∃ x, r = .error x) ∨ ∃ stored, cursor stored = 0 ∧ s' = s.saved scope stored
  | s, .readCheckpoint _, _, s' => s' = s
  | s, .now, _, s' => s' = s
  | s, .record _, _, s' => s' = s

def Projected (published : OutboxEnvelope → Prop) (s : Shared) (scope : ProjectionScope) : Prop :=
  ∀ n, 1 ≤ n → n ≤ cursor (s.store scope) →
    ∃ event, published event ∧ scope.Covers event ∧ event.sequence = n ∧ s.Holds event

structure Moved (published : OutboxEnvelope → Prop) (s s' : Shared) (scope : ProjectionScope)
    (next : ProjectionCheckpoint) (event : OutboxEnvelope) : Prop where
  stored : s'.store scope = some next
  following : next.lastSequence = cursor (s.store scope) + 1
  fence : ∀ checkpoint, s.store scope = some checkpoint → checkpoint.fenceToken ≤ next.fenceToken
  named : next.lastSequence = event.sequence ∧ next.lastEventId = some event.eventId ∧
    next.lastEventDigest = some event.eventDigest
  covered : scope.Covers event
  published : published event
  applied : s.Holds event

/-- What one step may do to the checkpoint of a scope. -/
def Advances (published : OutboxEnvelope → Prop) (s s' : Shared) (scope : ProjectionScope) : Prop :=
  s'.store scope = s.store scope ∨ ∃ next event, Moved published s s' scope next event

structure ProjectCall where
  scope : ProjectionScope
  (fenceToken limit : ℤ)

def ProjectCall.program (projectorId : String) (c : ProjectCall) : Step ProjectionBatchResult :=
  projectScope projectorId c.scope c.fenceToken c.limit

section
variable {published : OutboxEnvelope → Prop} {s s' : Shared} {scope : ProjectionScope} {fenceToken : ℤ}
  {ι : Type} [DecidableEq ι]

theorem Shared.Holds.mono {event : OutboxEnvelope} (h : s.Holds event) (hsub : s.graph ⊆ s'.graph) : s'.Holds event := by
  obtain ⟨applied,hmem,hid⟩ := h
  exact ⟨applied,hsub hmem,hid⟩

structure Witnessed (published : OutboxEnvelope → Prop) (log : List (ι × Event Call Call.Answer)) (s : Shared) :
    Prop where
  pages : ∀ i scope after limit page, (i,⟨.readAfter scope after limit,.ok page⟩) ∈ log →
    ∀ event, .envelope event ∈ page → published event
  events : ∀ i event fenceToken r, (i,⟨.applyEvent event fenceToken,r⟩) ∈ log → published event
  applied : ∀ i event fenceToken receipt, (i,⟨.applyEvent event fenceToken,.ok (some receipt)⟩) ∈ log →
    Acknowledged event receipt → s.Holds event

theorem graph_grows {c : Call} {r : c.Answer} {h : History} (hg : Follows scope fenceToken h c)
    (hw : world published s c r s') : s.graph ⊆ s'.graph := by
  cases c with
  | saveCheckpoint key expected next =>
    rcases hw with ⟨rfl,_⟩ | ⟨_,rfl⟩
    · exact List.Subset.refl _
    · exact List.Subset.refl _
  | applyEvent event f =>
    rcases hw.2.1 with h | ⟨_,h⟩
    · rw [h]
      exact List.Subset.refl _
    · rw [h]
      exact List.subset_append_left _ _
  | resetProjection key f => exact hg.elim
  | resetCheckpoint key f => exact hg.elim
  | readAfter key after limit =>
    rw [hw.1]
    exact List.Subset.refl _
  | readCheckpoint key =>
    rw [show s' = s from hw]
    exact List.Subset.refl _
  | now =>
    rw [show s' = s from hw]
    exact List.Subset.refl _
  | record drift =>
    rw [show s' = s from hw]
    exact List.Subset.refl _

theorem Witnessed.step {log : List (ι × Event Call Call.Answer)} {i : ι} {c : Call} {r : c.Answer}
    (hs : Witnessed published log s) (hg : Follows scope fenceToken (Pool.own i log) c)
    (hw : world published s c r s') : Witnessed published (log ++ [(i,⟨c,r⟩)]) s' := by
  have hgrow := graph_grows hg hw
  refine ⟨?_,?_,?_⟩
  · intro j key after limit page hmem event hevent
    rcases List.mem_append.mp hmem with hold | hnew
    · exact hs.pages j key after limit page hold event hevent
    · cases List.mem_singleton.mp hnew
      exact hw.2 page rfl event hevent
  · intro j event f reply hmem
    rcases List.mem_append.mp hmem with hold | hnew
    · exact hs.events j event f reply hold
    · cases List.mem_singleton.mp hnew
      obtain ⟨after,limit,page,hread,hevent⟩ := hg
      exact hs.pages _ _ _ _ _ (Pool.mem_own.mp hread) event hevent
  · intro j event f receipt hmem hack
    rcases List.mem_append.mp hmem with hold | hnew
    · exact (hs.applied j event f receipt hold hack).mono hgrow
    · cases List.mem_singleton.mp hnew
      exact hw.2.2 receipt rfl hack

theorem cursor_persistedOf (current : ProjectionCheckpoint) : cursor (persistedOf current) = current.lastSequence := by
  unfold persistedOf
  split_ifs with h
  · rfl
  · exact (Nat.eq_zero_of_not_pos h).symm

theorem Witnessed.advances {log : List (ι × Event Call Call.Answer)} {i : ι} {c : Call} {r : c.Answer}
    (hs : Witnessed published log s) (hg : Follows scope fenceToken (Pool.own i log) c)
    (hw : world published s c r s') (key : ProjectionScope) : Advances published s s' key := by
  cases c with
  | saveCheckpoint target expected next =>
    obtain ⟨rfl,current,event,receipt,happly,hack,hnames⟩ := hg
    rcases hw with ⟨rfl,_⟩ | ⟨hcas,rfl⟩
    · exact .inl rfl
    · by_cases hkey : key = target
      · subst hkey
        obtain ⟨hf,rfl⟩ := hnames.named
        rw [hnames.expects] at hcas
        have hmem := Pool.mem_own.mp happly
        refine .inr ⟨_,event,Function.update_self ..,?_,?_,⟨rfl,rfl,rfl⟩,hnames.covered,hs.events _ _ _ _ hmem,
          hs.applied _ _ _ _ hmem hack⟩
        · rw [hcas,cursor_persistedOf]
          exact hnames.following
        · intro checkpoint hstored
          rw [hcas] at hstored
          unfold persistedOf at hstored
          split_ifs at hstored
          cases hstored
          exact hnames.unfenced
      · exact .inl (Function.update_of_ne hkey _ _)
  | applyEvent event f => exact .inl (by rw [hw.1])
  | resetProjection target f => exact hg.elim
  | resetCheckpoint target f => exact hg.elim
  | readAfter target after limit => exact .inl (by rw [hw.1])
  | readCheckpoint target => exact .inl (by rw [show s' = s from hw])
  | now => exact .inl (by rw [show s' = s from hw])
  | record drift => exact .inl (by rw [show s' = s from hw])

theorem Projected.step (hp : Projected published s scope) (hgrow : s.graph ⊆ s'.graph)
    (ha : Advances published s s' scope) : Projected published s' scope := by
  intro n h1 hn
  have hkept : n ≤ cursor (s.store scope) →
      ∃ event, published event ∧ scope.Covers event ∧ event.sequence = n ∧ s'.Holds event := by
    intro hle
    obtain ⟨event,hpub,hcov,hseq,hholds⟩ := hp n h1 hle
    exact ⟨event,hpub,hcov,hseq,hholds.mono hgrow⟩
  rcases ha with hsame | ⟨next,event,hm⟩
  · rw [hsame] at hn
    exact hkept hn
  · rw [hm.stored] at hn
    change n ≤ next.lastSequence at hn
    rcases Nat.lt_or_ge (cursor (s.store scope)) n with hlt | hle
    · have hfollow := hm.following
      refine ⟨event,hm.published,hm.covered,?_,hm.applied.mono hgrow⟩
      rw [← hm.named.1]
      omega
    · exact hkept hle

end

section
variable {published : OutboxEnvelope → Prop} {projectorId : String} {ι : Type} [DecidableEq ι]
  {calls : ι → ProjectCall} {s : Shared} {log : List (ι × Event Call Call.Answer)}
  {d : Pool ι Call Call.Answer Raised ProjectionBatchResult Shared}

def projecting (projectorId : String) (calls : ι → ProjectCall) (s : Shared) :
    Pool ι Call Call.Answer Raised ProjectionBatchResult Shared :=
  ⟨s,fun i => (calls i).program projectorId⟩

theorem Witnessed.run (h : Pool.Steps (world published) (projecting projectorId calls s) log d) :
    Witnessed published log d.state := by
  refine h.invariant (I := Witnessed published) (G := fun i => Follows (calls i).scope (calls i).fenceToken)
    (fun i => projectScope_follows projectorId _ _ _) ⟨?_,?_,?_⟩ ?_
  · intro i scope after limit page h
    exact absurd h List.not_mem_nil
  · intro i event fenceToken r h
    exact absurd h List.not_mem_nil
  · intro i event fenceToken receipt h
    exact absurd h List.not_mem_nil
  · intro log i c r s s' hs hg hw
    exact hs.step hg hw

theorem next_advances (h : Pool.Steps (world published) (projecting projectorId calls s) log d) {i : ι} {c : Call}
    {k : c.Answer → Step ProjectionBatchResult} {r : c.Answer} {s' : Shared} (hp : d.procs i = .call c k)
    (hw : world published d.state c r s') :
    d.state.graph ⊆ s'.graph ∧ ∀ scope, Advances published d.state s' scope := by
  have hguard := h.meets i (projectScope_follows projectorId (calls i).scope (calls i).fenceToken (calls i).limit)
  rw [hp] at hguard
  exact ⟨graph_grows hguard.1 hw,(Witnessed.run h).advances hguard.1 hw⟩

/-- What the graph held for a scope it still holds after every schedule. -/
theorem Projected.run {scope : ProjectionScope}
    (h : Pool.Steps (world published) (projecting projectorId calls s) log d) (hs : Projected published s scope) :
    Projected published d.state scope := by
  induction h with
  | refl => exact hs
  | tail h hp hw ih =>
    obtain ⟨hgrow,hadv⟩ := next_advances h hp hw
    exact ih.step hgrow (hadv scope)

/-- Projection never skips or reorders: whatever the schedule and whatever fails, a step leaves the checkpoint of
every scope or moves it by one, to an event the graph has already, and no number up to the cursor is without its
event. -/
theorem projection_never_skips (published : OutboxEnvelope → Prop) (projectorId : String) (calls : ι → ProjectCall)
    (graph : List OutboxEnvelope) (log : List (ι × Event Call Call.Answer))
    (d : Pool ι Call Call.Answer Raised ProjectionBatchResult Shared)
    (h : Pool.Steps (world published) (projecting projectorId calls ⟨fun _ => none,graph⟩) log d) :
    (∀ scope, Projected published d.state scope) ∧
      ∀ (i : ι) (c : Call) (k : c.Answer → Step ProjectionBatchResult) (r : c.Answer) (s' : Shared),
        d.procs i = .call c k → world published d.state c r s' → ∀ scope, Advances published d.state s' scope := by
  refine ⟨?_,?_⟩
  · intro scope
    refine Projected.run h ?_
    intro n h1 hn
    change n ≤ 0 at hn
    omega
  · intro i c k r s' hp hw
    exact (next_advances h hp hw).2

end

namespace Memory

/-- Adapters that keep everything in memory, over a fixed outbox. -/
def answer (outbox : List OutboxEnvelope) (s : Shared) : (c : Call) → c.Answer × Shared
  | .readCheckpoint scope => (.ok (s.store scope),s)
  | .saveCheckpoint scope expected next =>
    if s.store scope ≠ expected then (.error ⟨.checkpointConflict,"checkpoint_cas"⟩,s)
    else if expected.any fun stored => next.fenceToken < stored.fenceToken then
      (.error ⟨.checkpointConflict,"checkpoint_fence"⟩,s)
    else (.ok (),s.saved scope (some next))
  | .resetCheckpoint scope fenceToken =>
    if (s.store scope).any fun stored => fenceToken < stored.fenceToken then
      (.error ⟨.checkpointConflict,"checkpoint_fence"⟩,s)
    else (.ok (),s.saved scope none)
  | .readAfter scope afterSequence limit =>
    (.ok (((outbox.filter fun event => scope.Covers event ∧ afterSequence < event.sequence).take limit.toNat).map
      .envelope),s)
  | .applyEvent event _ =>
    if s.graph.any fun applied => applied.eventId = event.eventId then (.ok (some ⟨event.eventId,false,true⟩),s)
    else (.ok (some ⟨event.eventId,true,false⟩),{ s with graph := s.graph ++ [event] })
  | .resetProjection scope _ => (.ok (),{ s with graph := s.graph.filter fun event => !decide (scope.Covers event) })
  | .now => (0,s)
  | .record _ => (.ok (),s)

theorem answer_world (outbox : List OutboxEnvelope) (s : Shared) (c : Call) :
    world (· ∈ outbox) s c (answer outbox s c).1 (answer outbox s c).2 := by
  cases c with
  | readCheckpoint scope => rfl
  | saveCheckpoint scope expected next =>
    simp only [answer]
    split_ifs with hcas hfence
    · exact .inl ⟨rfl,_,rfl⟩
    · exact .inl ⟨rfl,_,rfl⟩
    · exact .inr ⟨not_not.mp hcas,rfl⟩
  | resetCheckpoint scope fenceToken =>
    simp only [answer]
    split_ifs with hfence
    · exact .inl ⟨rfl,_,rfl⟩
    · exact .inr ⟨none,rfl,rfl⟩
  | readAfter scope afterSequence limit =>
    refine ⟨rfl,?_⟩
    rintro _ ⟨⟩ event he
    obtain ⟨event',hmem,heq⟩ := List.mem_map.mp he
    cases heq
    exact (List.mem_filter.mp (List.mem_of_mem_take hmem)).1
  | applyEvent event fenceToken =>
    simp only [answer]
    split_ifs with hheld
    · obtain ⟨applied,hmem,hid⟩ := List.any_eq_true.mp hheld
      exact ⟨rfl,.inl rfl,fun _ _ _ => ⟨applied,hmem,of_decide_eq_true hid⟩⟩
    · refine ⟨rfl,.inr ⟨?_,rfl⟩,fun _ _ _ => ⟨event,by simp,rfl⟩⟩
      rintro ⟨applied,hmem,hid⟩
      exact hheld (List.any_eq_true.mpr ⟨applied,hmem,decide_eq_true hid⟩)
  | resetProjection scope fenceToken =>
    refine ⟨rfl,fun _ => true,fun _ _ => rfl,?_⟩
    simp [answer]
  | now => rfl
  | record drift => rfl

end Memory

namespace Sample

def scope : ProjectionScope := ⟨⟨"service",by decide⟩,⟨"service:one",by decide⟩,none⟩
def digest : Digest := ⟨"sha256:0000000000000000000000000000000000000000000000000000000000000000",by decide⟩

def first : OutboxEnvelope where
  aggregateType := scope.aggregateType
  aggregateId := scope.aggregateId
  sequence := 1
  eventType := ⟨"service.changed",by decide⟩
  operation := .upsert
  payloadDigest := digest
  aggregateDigest := digest
  eventDigest := digest
  positive := le_refl 1

def race : List (Bool × Event Call Call.Answer) × Pool Bool Call Call.Answer Raised ProjectionBatchResult Shared :=
  Pool.drive (Memory.answer [first]) [false,true,false,true,false,true,false,true]
    (projecting "projector:test" (fun _ => ⟨scope,1,2⟩) ⟨fun _ => none,[]⟩)

end Sample

open Sample in
/-- Both apply the first event, and one of them stores the checkpoint. -/
theorem race_never_skips : cursor (race.2.state.store scope) = 1 ∧
    (∀ scope, Projected (· ∈ [first]) race.2.state scope) ∧
      ∀ (i : Bool) (c : Call) (k : c.Answer → Step ProjectionBatchResult) (r : c.Answer) (s' : Shared),
        race.2.procs i = .call c k → world (· ∈ [first]) race.2.state c r s' →
          ∀ scope, Advances (· ∈ [first]) race.2.state s' scope :=
  ⟨by decide +kernel,projection_never_skips (· ∈ [first]) "projector:test" (fun _ => ⟨scope,1,2⟩) [] race.1 race.2
    (Pool.drive_steps (Memory.answer_world [first]) _ _)⟩

end Arbora.Projection
