import Arbora.Projection.Ordering

/-! `rebuild_scope`: two stores are reset one after the other. -/
namespace Arbora.Projection
open Interaction Service

def Single (published : OutboxEnvelope → Prop) : Prop :=
  ∀ event event', published event → published event' → event.aggregateType = event'.aggregateType →
    event.aggregateId = event'.aggregateId → event.sequence = event'.sequence → event = event'

theorem Projected.holds {published : OutboxEnvelope → Prop} {s : Shared} {scope : ProjectionScope}
    (hp : Projected published s scope) (hsingle : Single published) {event : OutboxEnvelope} (he : published event)
    (hc : scope.Covers event) (hn : event.sequence ≤ cursor (s.store scope)) : s.Holds event := by
  obtain ⟨event',he',hc',hseq,hholds⟩ := hp event.sequence event.positive hn
  have : event' = event := hsingle event' event he' he (hc'.1.trans hc.1.symm) (hc'.2.trans hc.2.symm) hseq
  rwa [← this]

/-- The two resets of a rebuild are over, both done or one of them raised, and have led from `s` to `m`. -/
def ResetTo (published : OutboxEnvelope → Prop) (scope : ProjectionScope) (fenceToken : ℤ) (s : Shared)
    (t : History) (m : Shared) : Prop :=
  ∃ u p, u <+: t ∧ Prog.Runs (world published) (resetBoth scope fenceToken) s u p m ∧ p.Ended

/-- After the call, and after any further `project_scope` calls, the graph holds every event up to the cursor. -/
def NoHole (published : OutboxEnvelope → Prop) (projectorId : String) (scope : ProjectionScope) (s : Shared) : Prop :=
  ∀ (ι : Type) [DecidableEq ι] (calls : ι → ProjectCall) (log : List (ι × Event Call Call.Answer))
    (d : Pool ι Call Call.Answer Raised ProjectionBatchResult Shared),
    Pool.Steps (world published) (projecting projectorId calls s) log d → Projected published d.state scope

section
variable {published : OutboxEnvelope → Prop} {projectorId : String} {scope : ProjectionScope} {fenceToken limit : ℤ}
  {s m s' : Shared}

theorem noHole_iff : NoHole published projectorId scope s ↔ Projected published s scope := by
  constructor
  · intro h
    exact h Empty (fun i => i.elim) [] (projecting projectorId (fun i => i.elim) s) .refl
  · intro h ι _ calls log d hd
    exact Projected.run hd h

private theorem cursor_saved {stored : Option ProjectionCheckpoint} (h : cursor stored = 0) :
    cursor ((s.saved scope stored).store scope) = 0 := by
  change cursor (Function.update s.store scope stored scope) = 0
  rw [Function.update_self]
  exact h

theorem resetBoth_meets (s : Shared) : (resetBoth scope fenceToken).Meets (world published) (fun _ _ => True)
    (fun m _ => cursor (m.store scope) = 0)
    (fun m _ => cursor (m.store scope) = 0 ∨ m.store scope = s.store scope) s := by
  refine ⟨trivial,?_⟩
  intro r n hn
  cases r with
  | error x => exact .inr (by rw [hn.1])
  | ok _ =>
    refine ⟨trivial,?_⟩
    intro r m hm
    cases r with
    | ok _ =>
      rcases hm with ⟨_,_,hx⟩ | ⟨stored,hzero,rfl⟩
      · cases hx
      · exact cursor_saved hzero
    | error x =>
      rcases hm with ⟨rfl,_⟩ | ⟨stored,hzero,rfl⟩
      · exact .inr (by rw [hn.1])
      · exact .inl (cursor_saved hzero)

/-- The part leaves the adapters as they are. -/
def Silent (published : OutboxEnvelope → Prop) {α : Type} (p : Step α) : Prop :=
  ∀ m, p.Meets (world published) (fun _ _ => True) (fun s _ => s = m) (fun s _ => s = m) m

theorem silent_bind {α β : Type} {p : Step α} {f : α → Step β} (hp : Silent published p)
    (hf : ∀ a, Silent published (f a)) : Silent published (p.bind f) := by
  intro m
  refine (hp m).seq ?_
  rintro _ a rfl
  exact hf a _

theorem silent_ofExcept {α : Type} (x : Except Raised α) : Silent published (Service.ofExcept x) := by
  intro m
  cases x with
  | ok a => rfl
  | error x => rfl

theorem silent_call {α : Type} {c : Call} {f : c.Answer → Step α} (hc : ∀ s r s', world published s c r s' → s' = s)
    (hf : ∀ r, Silent published (f r)) : Silent published (.call c f) := by
  intro m
  refine ⟨trivial,?_⟩
  intro r s' hw
  obtain rfl := hc m r s' hw
  exact hf r _

theorem silent_guarded {α : Type} {body conflict failure : Step α} (hb : Silent published body)
    (hc : Silent published conflict) (hf : Silent published failure) :
    Silent published (guarded body conflict failure) := by
  intro m
  refine (Prog.meets_handle _ _ _).mpr ((hb m).mono (fun _ _ hg => hg) (fun _ _ hq => hq) ?_)
  rintro _ x rfl
  rcases handler_cases conflict failure x with hx | hx | hx
  · rw [hx]
    exact hc _
  · rw [hx]
    exact hf _
  · rw [hx]
    rfl

theorem recordDrift_silent {code : DriftCode} {sequence : ℕ} {event : Option OutboxEnvelope}
    {expected observed : Option Digest} :
    Silent published (recordDrift projectorId code scope sequence event expected observed) := by
  refine silent_call (fun _ _ _ hw => hw) fun now => ?_
  split_ifs
  · exact silent_call (fun _ _ _ hw => hw) silent_ofExcept
  · exact silent_ofExcept (.error _)

theorem rebuildFailed_silent : Silent published (rebuildFailed projectorId scope) := by
  refine silent_bind (silent_guarded ?_ (silent_ofExcept (.ok _)) (silent_ofExcept (.ok _))) fun current => ?_
  · exact silent_call (fun _ _ _ hw => hw) silent_ofExcept
  · exact silent_bind recordDrift_silent fun _ => silent_ofExcept (.ok _)

end

section
variable {published : OutboxEnvelope → Prop} {projectorId : String} {scope : ProjectionScope} {fenceToken limit : ℤ}
  {s s' : Shared} {t : History} {q : Step ProjectionBatchResult}

theorem Silent.unchanged {α : Type} {p q : Step α} {m : Shared} (hp : Silent published p)
    (h : Prog.Runs (world published) p m t q s') (hq : q.Ended) : s' = m := by
  have hend := (hp m).runs h
  rcases hq with ⟨a,rfl⟩ | ⟨x,rfl⟩
  · exact hend
  · exact hend

/-- The resets as `rebuild_scope` tries them, and what it returns when one has raised. -/
private abbrev tried (scope : ProjectionScope) (fenceToken : ℤ) : Step (Option ProjectionBatchResult) :=
  (resetBoth scope fenceToken).bind fun _ => .ret none

private abbrev reported (projectorId : String) (scope : ProjectionScope) : Step (Option ProjectionBatchResult) :=
  (rebuildFailed projectorId scope).bind fun result => .ret (some result)

private theorem rebuildScope_eq (hlimit : 1 ≤ limit ∧ limit ≤ maxBatchSize) :
    rebuildScope projectorId scope fenceToken limit =
      (guarded (tried scope fenceToken) (reported projectorId scope) (reported projectorId scope)).bind fun failed =>
        match failed with
        | some result => .ret result
        | none => projectScope projectorId scope fenceToken limit := by
  have hcheck : checkLimit limit = .ret () := if_pos hlimit
  unfold rebuildScope
  rw [hcheck]
  rfl

private theorem reported_ended {q : Step (Option ProjectionBatchResult)} {m : Shared}
    (h : Prog.Runs (world published) (reported projectorId scope) m t q s') (hq : q.Ended) :
    s' = m ∧ q ≠ .ret none := by
  refine ⟨(silent_bind rebuildFailed_silent fun _ => silent_ofExcept (.ok _)).unchanged h hq,?_⟩
  rintro rfl
  rcases h.bind_ended hq with ⟨x,_,hx⟩ | ⟨a,u,v,n,_,_,hv⟩
  · cases hx
  · cases hv.of_ret.2.1

theorem rebuildScope_ended (hlimit : 1 ≤ limit ∧ limit ≤ maxBatchSize)
    (h : Prog.Runs (world published) (rebuildScope projectorId scope fenceToken limit) s t q s') (hq : q.Ended) :
    ∃ m, ResetTo published scope fenceToken s t m ∧ (s' = m ∨ (cursor (m.store scope) = 0 ∧
      ∃ v, Prog.Runs (world published) (projectScope projectorId scope fenceToken limit) m v q s')) := by
  -- what a reset that raised leads to: the report, or an interrupt that goes on
  have hraised : ∀ {u v : History} {x : Raised} {m n : Shared} {p : Step (Option ProjectionBatchResult)},
      Prog.Runs (world published) (tried scope fenceToken) s u (.raise x) m →
      Prog.Runs (world published) (handler (reported projectorId scope) (reported projectorId scope) x) m v p n →
      p.Ended →
      Prog.Runs (world published) (resetBoth scope fenceToken) s u (.raise x) m ∧ n = m ∧ p ≠ .ret none := by
    intro u v x m n p hu hv hp
    refine ⟨?_,?_⟩
    · rcases hu.bind_ended (.inr ⟨x,rfl⟩) with ⟨y,hy,heq⟩ | ⟨a,_,_,_,_,_,hlast⟩
      · cases heq
        exact hy
      · cases hlast.of_ret.2.1
    · rcases handler_cases (reported projectorId scope) (reported projectorId scope) x with hx | hx | hx
      · rw [hx] at hv
        exact reported_ended hv hp
      · rw [hx] at hv
        exact reported_ended hv hp
      · rw [hx] at hv
        obtain ⟨_,rfl,rfl⟩ := hv.of_raise
        exact ⟨rfl,nofun⟩
  rw [rebuildScope_eq hlimit] at h
  rcases h.bind_ended hq with ⟨x,hx,rfl⟩ | ⟨failed,u,v,m,rfl,hu,hv⟩
  · rcases hx.handle_ended (.inr ⟨x,rfl⟩) with ⟨a,_,ha⟩ | ⟨y,u,v,m,rfl,hy,hv⟩
    · cases ha
    · obtain ⟨hreset,rfl,_⟩ := hraised hy hv (.inr ⟨x,rfl⟩)
      exact ⟨_,⟨u,_,List.prefix_append u v,hreset,.inr ⟨y,rfl⟩⟩,.inl rfl⟩
  · rcases hu.handle_ended (.inl ⟨failed,rfl⟩) with ⟨a,ha,heq⟩ | ⟨y,u₁,v₁,n,rfl,hy,hv₁⟩
    · cases heq
      rcases ha.bind_ended (.inl ⟨failed,rfl⟩) with ⟨y,_,hy⟩ | ⟨b,u₁,v₁,n,rfl,hreset,hlast⟩
      · cases hy
      · obtain ⟨rfl,hnone,rfl⟩ := hlast.of_ret
        cases hnone
        have hzero := (resetBoth_meets s).runs hreset
        refine ⟨_,⟨u₁,_,?_,hreset,.inl ⟨b,rfl⟩⟩,.inr ⟨hzero,v,hv⟩⟩
        rw [List.append_nil]
        exact List.prefix_append u₁ v
    · obtain ⟨hreset,rfl,hsome⟩ := hraised hy hv₁ (.inl ⟨failed,rfl⟩)
      cases failed with
      | none => exact absurd rfl hsome
      | some result =>
        obtain ⟨_,_,rfl⟩ := hv.of_ret
        refine ⟨_,⟨u₁,_,?_,hreset,.inr ⟨y,rfl⟩⟩,.inl rfl⟩
        rw [List.append_assoc]
        exact List.prefix_append u₁ _

/-- The resets have set the cursor to zero or removed nothing that it stands for. -/
def Consistent (published : OutboxEnvelope → Prop) (scope : ProjectionScope) (s m : Shared) : Prop :=
  cursor (m.store scope) = 0 ∨
    ∀ event, published event → scope.Covers event → event.sequence ≤ cursor (s.store scope) → m.Holds event

private theorem projected_iff_consistent {m : Shared} (hsingle : Single published) (hs : Projected published s scope)
    (hm : cursor (m.store scope) = 0 ∨ m.store scope = s.store scope) :
    Projected published m scope ↔ Consistent published scope s m := by
  constructor
  · intro hp
    rcases hm with hzero | hsame
    · exact .inl hzero
    · refine .inr ?_
      intro event he hc hn
      rw [← hsame] at hn
      exact hp.holds hsingle he hc hn
  · intro hc n h1 hn
    have hpos : cursor (m.store scope) ≠ 0 := by omega
    have hsame := hm.resolve_left hpos
    rw [hsame] at hn
    obtain ⟨event,he,hcov,hseq,_⟩ := hs n h1 hn
    refine ⟨event,he,hcov,hseq,hc.resolve_left hpos event he hcov ?_⟩
    omega

end

namespace Sample

def standing : Shared where
  store := Function.update (fun _ => none) scope (some
    { projectorId := ⟨"projector:test",by decide⟩, scope := scope, lastSequence := 1
      lastEventId := some first.eventId, lastEventDigest := some digest, fenceToken := 2, fenced := by decide
      initial := by decide, advanced := fun _ => ⟨rfl,rfl⟩ })
  graph := [first]

def rebuilt (fenceToken : ℤ) : Step ProjectionBatchResult × Shared :=
  Prog.drive (Memory.answer [first]) 16 (rebuildScope "projector:test" scope fenceToken 256) standing

theorem first_single : Single (· ∈ [first]) := by
  intro event event' he he' _ _ _
  rw [List.mem_singleton.mp he,List.mem_singleton.mp he']

theorem standing_projected : Projected (· ∈ [first]) standing scope := by
  intro n h1 hn
  exact ⟨first,List.mem_singleton_self _,⟨rfl,rfl⟩,le_antisymm h1 hn,first,List.mem_singleton_self _,rfl⟩

theorem rebuilt_ended (fenceToken : ℤ) (h : (rebuilt fenceToken).1.result.isSome = true) :
    (rebuilt fenceToken).1.Ended := by
  obtain ⟨a,ha⟩ := Option.isSome_iff_exists.mp h
  exact .inl ⟨a,Prog.eq_ret_of_result ha⟩

end Sample

end Arbora.Projection
