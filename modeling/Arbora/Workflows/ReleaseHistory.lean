import Arbora.Workflows.Catalog

/-! The release history of every channel is one line: whatever the clients do and however their calls
interleave, each pointer replaces the one its caller expected. -/
namespace Arbora.Workflows
open Interaction Repository
open PolicyPlane (Digest canonicalDigest)

section
variable {s : Repository} {workflowId channel version digest : String} {expected : Option ReleasePointer}

theorem buildPointer_ok {generation : ℕ} {pointer : ReleasePointer}
    (h : buildPointer workflowId channel version digest generation = .ok pointer) :
    pointer.workflowId.1 = workflowId ∧ pointer.channel.1 = channel ∧ pointer.version.1 = version ∧
      pointer.definitionDigest.1 = digest ∧ pointer.generation = generation := by
  unfold buildPointer at h
  split_ifs at h
  cases h
  exact ⟨rfl,rfl,rfl,rfl,rfl⟩

/-- What a swap that succeeds has found and what it installs. -/
structure Swapped (s : Repository) (workflowId channel : String) (expected : Option ReleasePointer)
    (version digest : String) (pointer : ReleasePointer) : Prop where
  matched : s.readPointer workflowId channel = expected
  stored : ∃ definition, s.getVersion workflowId version = some definition ∧ definition.definitionDigest.1 = digest
  names : pointer.workflowId.1 = workflowId ∧ pointer.channel.1 = channel
  versioned : pointer.version.1 = version ∧ pointer.definitionDigest.1 = digest
  generation : pointer.generation = expected.elim 0 (·.generation + 1)

/-- A swap succeeds or changes nothing. -/
theorem compareAndSetPointer_cases (s : Repository) (workflowId channel : String) (expected : Option ReleasePointer)
    (version digest : String) :
    (∃ x, s.compareAndSetPointer workflowId channel expected version digest = (.error x,s)) ∨
      ∃ pointer, Swapped s workflowId channel expected version digest pointer ∧
        s.compareAndSetPointer workflowId channel expected version digest =
          (.ok pointer,s.installPointer pointer workflowId channel) := by
  unfold compareAndSetPointer
  dsimp only
  split_ifs with hcurrent
  · exact .inl ⟨_,rfl⟩
  rw [not_not] at hcurrent
  cases hversion : s.getVersion workflowId version with
  | none => exact .inl ⟨_,rfl⟩
  | some definition =>
    dsimp only
    split_ifs with hdigest
    · exact .inl ⟨_,rfl⟩
    cases hbuild : buildPointer workflowId channel version digest
        ((s.readPointer workflowId channel).elim 0 (·.generation + 1)) with
    | error x => exact .inl ⟨x,rfl⟩
    | ok pointer =>
      obtain ⟨hw,hc,hv,hd,hg⟩ := buildPointer_ok hbuild
      rw [hcurrent] at hg
      exact .inr ⟨pointer,⟨hcurrent,⟨definition,hversion,not_not.mp hdigest⟩,⟨hw,hc⟩,⟨hv,hd⟩,hg⟩,rfl⟩

theorem putVersion_cases (s : Repository) (definition : WorkflowDefinition) :
    (∃ x, s.putVersion definition = (.error x,s)) ∨
      (∀ prior, s.getVersion definition.workflowId definition.version = some prior →
        prior.definitionDigest = definition.definitionDigest) ∧ s.putVersion definition = (.ok (),
        { s with versions := s.versions.set (definition.workflowId.1,definition.version.1) definition }) := by
  unfold putVersion getVersion
  dsimp only
  split_ifs with hprior
  · exact .inl ⟨_,rfl⟩
  · refine .inr ⟨?_,rfl⟩
    intro prior hget
    simpa [hget] using hprior

@[simp] theorem releaseHistory_install {pointer : ReleasePointer} (w c : String) :
    (s.installPointer pointer workflowId channel).releaseHistory w c =
      if (w,c) = (workflowId,channel) then s.releaseHistory workflowId channel ++ [pointer]
      else s.releaseHistory w c := by
  unfold releaseHistory installPointer
  rw [Dict.get_set]
  split_ifs with h
  · rfl
  · rfl

@[simp] theorem readPointer_install {pointer : ReleasePointer} (w c : String) :
    (s.installPointer pointer workflowId channel).readPointer w c =
      if (w,c) = (workflowId,channel) then some pointer else s.readPointer w c := by
  unfold readPointer installPointer
  rw [Dict.get_set]

end

def Kept (s s' : Repository) : Prop := ∀ workflowId version definition, s.getVersion workflowId version = some definition →
  ∃ definition', s'.getVersion workflowId version = some definition' ∧
    definition'.definitionDigest = definition.definitionDigest

section
variable {s s' s'' : Repository}

theorem Kept.refl (s : Repository) : Kept s s := fun _ _ definition h => ⟨definition,h,rfl⟩

theorem Kept.trans (h : Kept s s') (h' : Kept s' s'') : Kept s s'' := by
  intro w v definition hget
  obtain ⟨d',hget',hdigest⟩ := h w v definition hget
  obtain ⟨d'',hget'',hdigest'⟩ := h' w v d' hget'
  exact ⟨d'',hget'',hdigest'.trans hdigest⟩

theorem kept_putVersion (s : Repository) (definition : WorkflowDefinition) : Kept s (s.putVersion definition).2 := by
  rcases putVersion_cases s definition with ⟨x,hx⟩ | ⟨hprior,hput⟩
  · rw [hx]
    exact .refl s
  · rw [hput]
    intro w v stored hget
    unfold getVersion
    rw [Dict.get_set]
    split_ifs with hkey
    · cases hkey
      exact ⟨definition,rfl,(hprior stored hget).symm⟩
    · exact ⟨stored,hget,rfl⟩

theorem kept_serves {e : Call} {r : e.Answer} (h : Serves s e r s') : Kept s s' := by
  cases h with
  | putVersion _ definition => exact kept_putVersion s definition
  | getVersion | readPointer | isApproved => exact .refl s
  | compareAndSetPointer _ w c expected v d =>
    rcases compareAndSetPointer_cases s w c expected v d with ⟨x,hx⟩ | ⟨pointer,_,hswap⟩
    · rw [hx]
      exact .refl s
    · rw [hswap]
      exact .refl s

theorem kept_steps {ι : Type} [DecidableEq ι] {c d : Pool ι Call Call.Answer WorkflowError Reply Repository}
    {log : List (ι × Event Call Call.Answer)} (h : Pool.Steps Serves c log d) : Kept c.state d.state := by
  induction h with
  | refl => exact .refl _
  | tail _ _ hw ih => exact ih.trans (kept_serves hw)

end
abbrev Log (ι : Type) := List (ι × Event Call Call.Answer)

def installed {ι : Type} (workflowId channel : String) (log : Log ι) : List ReleasePointer :=
  log.filterMap fun x => match x.2 with
    | ⟨.compareAndSetPointer w c _ _ _,.ok pointer⟩ => if (workflowId,channel) = (w,c) then some pointer else none
    | _ => none

def HandsOver (call : CatalogCall) : Call → Prop
  | .compareAndSetPointer _ _ expected _ _ => call.expected = some expected
  | _ => True

section
variable {call : CatalogCall} {α : Type} {h : List (Event Call Call.Answer)}

/-- Every swap a part makes hands over what the call expects. -/
def Honest (call : CatalogCall) (p : Step α) : Prop :=
  ∀ h, p.Meets Prog.record (fun _ e => HandsOver call e) (fun _ _ => True) (fun _ _ => True) h

theorem honest_ret (a : α) : Honest call (.ret a : Step α) := fun _ => trivial
theorem honest_raise (x : WorkflowError) : Honest call (.raise x : Step α) := fun _ => trivial
theorem honest_call {e : Call} {k : e.Answer → Step α} (he : HandsOver call e) (hk : ∀ r, Honest call (k r)) :
    Honest call (.call e k) := fun _ => ⟨he,fun r _ _ => hk r _⟩

theorem honest_bind {β : Type} {p : Step α} {f : α → Step β} (hp : Honest call p) (hf : ∀ a, Honest call (f a)) :
    Honest call (p.bind f) := by
  intro h
  exact (Prog.meets_bind p f h).mpr ((hp h).mono (fun _ _ hg => hg) (fun _ a _ => hf a _) fun _ _ hx => hx)

theorem honest_ofExcept (r : Except WorkflowError α) : Honest call (Catalog.ofExcept r) := by
  cases r with
  | ok a => exact honest_ret a
  | error x => exact honest_raise x

theorem honest_validateChannel (channel : String) : Honest call (Catalog.validateChannel channel) := by
  unfold Catalog.validateChannel
  split_ifs
  · exact honest_ret _
  · exact honest_raise _

theorem honest_validateBindings (bindings : List ApprovedBinding) : Honest call (Catalog.validateBindings bindings) := by
  induction bindings with
  | nil => exact honest_ret _
  | cons binding rest ih =>
    refine honest_call trivial fun approved => honest_bind (honest_ofExcept approved) fun ok => ?_
    split_ifs
    · exact ih
    · exact honest_raise _

theorem honest_publish (definition : WorkflowDefinition) : Honest call (Catalog.publish definition) := by
  refine honest_bind (honest_validateBindings _) fun _ => ?_
  refine honest_bind (honest_call trivial fun r => honest_ofExcept r) fun _ => ?_
  exact honest_ret _

theorem honest_release {definition : WorkflowDefinition} {channel : String} {expected : Option ReleasePointer}
    (he : call.expected = some expected) : Honest call (Catalog.release definition channel expected) := by
  refine honest_bind (honest_validateChannel channel) fun _ => ?_
  refine honest_bind (honest_bind (honest_publish definition) fun _ => honest_ret _) fun _ => ?_
  exact honest_call he fun r => honest_ofExcept r

theorem honest_rollback {workflowId channel priorVersion : String} {expected : Option ReleasePointer}
    (he : call.expected = some expected) : Honest call (Catalog.rollback workflowId channel priorVersion expected) := by
  refine honest_bind (honest_validateChannel channel) fun _ => ?_
  refine honest_bind (honest_call trivial fun r => honest_ret r) fun current => ?_
  split_ifs with hcurrent
  · exact honest_raise _
  rw [not_not] at hcurrent
  cases hread : current with
  | none => exact honest_raise _
  | some pointer =>
    refine honest_bind (honest_ofExcept _) fun prior => ?_
    split_ifs
    · refine honest_bind (honest_call trivial fun r => honest_ret r) fun target => ?_
      cases target with
      | none => exact honest_raise _
      | some target =>
        refine honest_bind (honest_validateBindings _) fun _ => ?_
        refine honest_call ?_ fun r => honest_ofExcept r
        rw [← hread,hcurrent]
        exact he
    · exact honest_raise _

theorem honest_resolve (workflowId channel : String) : Honest call (Catalog.resolve workflowId channel) := by
  refine honest_bind (honest_validateChannel channel) fun _ => ?_
  refine honest_bind (honest_call trivial fun r => honest_ret r) fun pointer => ?_
  cases pointer with
  | none => exact honest_raise _
  | some pointer =>
    dsimp only
    split_ifs
    · exact honest_raise _
    refine honest_bind (honest_call trivial fun r => honest_ret r) fun definition => ?_
    cases definition with
    | none => exact honest_raise _
    | some definition =>
      dsimp only
      split_ifs
      · exact honest_raise _
      exact honest_bind (honest_validateBindings _) fun _ => honest_ret _

theorem honest_run (call : CatalogCall) : Honest call call.run := by
  cases call with
  | publish definition => exact honest_bind (honest_publish definition) fun _ => honest_ret _
  | release definition channel expected => exact honest_bind (honest_release rfl) fun _ => honest_ret _
  | rollback workflowId channel priorVersion expected => exact honest_bind (honest_rollback rfl) fun _ => honest_ret _
  | resolve workflowId channel => exact honest_bind (honest_resolve workflowId channel) fun _ => honest_ret _

end
structure LinearHistory {ι : Type} (calls : ι → CatalogCall) (log : Log ι) (s : Repository) (workflowId channel : String) :
    Prop where
  installs : s.releaseHistory workflowId channel = installed workflowId channel log
  current : s.readPointer workflowId channel = (s.releaseHistory workflowId channel).getLast?
  generations : (s.releaseHistory workflowId channel).map (·.generation) =
    List.range (s.releaseHistory workflowId channel).length
  replaces : ∀ n pointer, (s.releaseHistory workflowId channel)[n]? = some pointer →
    ∃ i version digest, (calls i).expected = some ((s.releaseHistory workflowId channel).take n).getLast? ∧
      (i,⟨.compareAndSetPointer workflowId channel ((s.releaseHistory workflowId channel).take n).getLast? version digest,
        .ok pointer⟩) ∈ log
  stored : ∀ pointer ∈ s.releaseHistory workflowId channel, pointer.workflowId.1 = workflowId ∧
    pointer.channel.1 = channel ∧ ∃ definition, s.getVersion workflowId pointer.version = some definition ∧
      definition.definitionDigest = pointer.definitionDigest

section
variable {ι : Type} {calls : ι → CatalogCall} {log : Log ι} {s s' : Repository} {w c : String}

theorem installed_append (log rest : Log ι) : installed w c (log ++ rest) = installed w c log ++ installed w c rest :=
  List.filterMap_append

theorem linearHistory_empty : LinearHistory calls [] Repository.empty w c := by
  have hempty : Repository.empty.releaseHistory w c = [] := by
    unfold releaseHistory Repository.empty
    rw [Dict.get_empty,Option.getD_none]
  have hpointer : Repository.empty.readPointer w c = none := Dict.get_empty _
  refine ⟨hempty,by rw [hempty,hpointer]; rfl,by rw [hempty]; rfl,?_,?_⟩
  · intro n pointer hn
    cases hn
  · intro pointer hp
    cases hp

theorem LinearHistory.keep {x : ι × Event Call Call.Answer} (h : LinearHistory calls log s w c)
    (hhistory : s'.releaseHistory w c = s.releaseHistory w c) (hpointer : s'.readPointer w c = s.readPointer w c)
    (hkept : Kept s s') (hx : installed w c [x] = []) : LinearHistory calls (log ++ [x]) s' w c := by
  refine ⟨?_,?_,?_,?_,?_⟩
  · rw [hhistory,h.installs,installed_append,hx,List.append_nil]
  · rw [hhistory,hpointer]
    exact h.current
  · rw [hhistory]
    exact h.generations
  · rw [hhistory]
    intro n pointer hn
    obtain ⟨i,v,d,hexpected,hevent⟩ := h.replaces n pointer hn
    exact ⟨i,v,d,hexpected,List.mem_append_left _ hevent⟩
  · rw [hhistory]
    intro pointer hp
    obtain ⟨hw,hc,definition,hget,hdigest⟩ := h.stored pointer hp
    obtain ⟨definition',hget',hdigest'⟩ := hkept _ _ _ hget
    exact ⟨hw,hc,definition',hget',hdigest'.trans hdigest⟩

/-- A swap puts one more pointer at the end, of the next generation. -/
theorem LinearHistory.install {i : ι} {expected : Option ReleasePointer} {v d : String} {pointer : ReleasePointer}
    (h : LinearHistory calls log s w c) (hswap : Swapped s w c expected v d pointer)
    (hexpected : (calls i).expected = some expected) :
    LinearHistory calls (log ++ [(i,⟨.compareAndSetPointer w c expected v d,.ok pointer⟩)])
      (s.installPointer pointer w c) w c := by
  have hhistory : (s.installPointer pointer w c).releaseHistory w c = s.releaseHistory w c ++ [pointer] := by
    rw [releaseHistory_install,if_pos rfl]
  have hlast : expected = (s.releaseHistory w c).getLast? := hswap.matched.symm.trans h.current
  have hgeneration : pointer.generation = (s.releaseHistory w c).length := by
    rw [hswap.generation,hlast]
    cases hlen : (s.releaseHistory w c).getLast? with
    | none =>
      rw [List.getLast?_eq_none_iff.mp hlen]
      rfl
    | some last =>
      have hnth : ((s.releaseHistory w c).map (·.generation)).getLast? = some last.generation := by
        rw [List.getLast?_map,hlen]
        rfl
      rw [h.generations,List.getLast?_range] at hnth
      split_ifs at hnth with hzero
      have hlastgen := Option.some.inj hnth
      dsimp only [Option.elim]
      omega
  refine ⟨?_,?_,?_,?_,?_⟩
  · rw [hhistory,h.installs,installed_append]
    simp [installed]
  · rw [hhistory,readPointer_install,if_pos rfl,List.getLast?_concat]
  · rw [hhistory,List.map_append,h.generations,List.length_append,List.length_singleton,List.range_succ,
      List.map_singleton,hgeneration]
  · rw [hhistory]
    intro n other hn
    rcases Nat.lt_or_ge n (s.releaseHistory w c).length with hlt | hge
    · rw [List.getElem?_append_left hlt] at hn
      obtain ⟨j,v',d',hold,hevent⟩ := h.replaces n other hn
      rw [List.take_append_of_le_length hlt.le]
      exact ⟨j,v',d',hold,List.mem_append_left _ hevent⟩
    · rw [List.getElem?_append_right hge,List.getElem?_singleton] at hn
      split_ifs at hn with hzero
      cases hn
      have heq : n = (s.releaseHistory w c).length := by omega
      rw [heq,List.take_left,← hlast]
      exact ⟨i,v,d,hexpected,List.mem_append_right _ (List.mem_singleton_self _)⟩
  · rw [hhistory]
    intro other hother
    rcases List.mem_append.mp hother with hold | hnew
    · exact h.stored other hold
    · cases List.mem_singleton.mp hnew
      obtain ⟨definition,hget,hdigest⟩ := hswap.stored
      refine ⟨hswap.names.1,hswap.names.2,definition,?_,Subtype.ext (hdigest.trans hswap.versioned.2.symm)⟩
      rw [hswap.versioned.1]
      exact hget

theorem LinearHistory.step {i : ι} {e : Call} {r : e.Answer} (h : LinearHistory calls log s w c)
    (hguard : HandsOver (calls i) e) (hserves : Serves s e r s') : LinearHistory calls (log ++ [(i,⟨e,r⟩)]) s' w c := by
  have hkept : Kept s s' := kept_serves hserves
  cases hserves with
  | putVersion _ definition =>
    rcases putVersion_cases s definition with ⟨x,hx⟩ | ⟨_,hput⟩
    · rw [hx] at hkept ⊢
      exact h.keep rfl rfl hkept rfl
    · rw [hput] at hkept ⊢
      exact h.keep rfl rfl hkept rfl
  | getVersion _ workflowId version => exact h.keep rfl rfl hkept rfl
  | readPointer _ workflowId channel => exact h.keep rfl rfl hkept rfl
  | isApproved _ binding r => exact h.keep rfl rfl hkept rfl
  | compareAndSetPointer _ workflowId channel expected v d =>
    rcases compareAndSetPointer_cases s workflowId channel expected v d with ⟨x,hx⟩ | ⟨pointer,hswap,heq⟩
    · rw [hx] at hkept ⊢
      exact h.keep rfl rfl hkept rfl
    · rw [heq] at hkept ⊢
      by_cases hkey : (w,c) = (workflowId,channel)
      · cases hkey
        exact h.install hswap hguard
      · refine h.keep ?_ ?_ hkept ?_
        · rw [releaseHistory_install,if_neg hkey]
        · rw [readPointer_install,if_neg hkey]
        · simpa [installed] using hkey

end

/-- Whatever calls clients make and however their steps interleave, the history of every channel is linear, and a
stored version keeps its digest. -/
theorem release_history_linear {ι : Type} [DecidableEq ι] (calls : ι → CatalogCall) {log rest : Log ι}
    {c d : Pool ι Call Call.Answer WorkflowError Reply Repository}
    (h : Pool.Steps Serves ⟨Repository.empty,fun i => (calls i).run⟩ log c) (h' : Pool.Steps Serves c rest d) :
    (∀ workflowId channel, LinearHistory calls log c.state workflowId channel) ∧ Kept c.state d.state := by
  refine ⟨?_,kept_steps h'⟩
  intro workflowId channel
  refine h.invariant (G := fun i _ e => HandsOver (calls i) e) (I := fun log s => LinearHistory calls log s workflowId channel)
    (fun i => honest_run (calls i) []) linearHistory_empty ?_
  intro log i e r s s' hlinear hguard hserves
  exact hlinear.step hguard hserves

section
variable {s : Repository} {definition : WorkflowDefinition} {channel : String} {expected : Option ReleasePointer}

theorem validateBindings_runs (s : Repository) (bindings : List ApprovedBinding) :
    ∃ t, Prog.Runs Serves (Catalog.validateBindings bindings) s t (.ret ()) s := by
  induction bindings with
  | nil => exact ⟨[],.nil _ _⟩
  | cons binding rest ih =>
    obtain ⟨t,ht⟩ := ih
    exact ⟨_,.call (.isApproved s binding (.ok true)) ht⟩

def WorkflowDefinition.pointer (d : WorkflowDefinition) (channel : ChannelName) (generation : ℕ) : ReleasePointer :=
  ⟨d.workflowId,channel,d.version,d.definitionDigest,generation⟩

theorem compareAndSetPointer_swaps (channel : ChannelName) (hstored : s.getVersion definition.workflowId definition.version = some definition)
    (hcurrent : s.readPointer definition.workflowId channel = expected) :
    s.compareAndSetPointer definition.workflowId channel expected definition.version definition.definitionDigest =
      (.ok (definition.pointer channel (expected.elim 0 (·.generation + 1))),
        s.installPointer (definition.pointer channel (expected.elim 0 (·.generation + 1))) definition.workflowId channel) := by
  unfold compareAndSetPointer
  rw [hcurrent,hstored]
  simp [buildPointer,WorkflowDefinition.pointer,definition.workflowId.2,channel.2,definition.version.2,
    definition.definitionDigest.2]

theorem putVersion_stores (hprior : ∀ prior, s.getVersion definition.workflowId definition.version = some prior →
      prior.definitionDigest = definition.definitionDigest) : (s.putVersion definition).1 = .ok () ∧
      (s.putVersion definition).2.getVersion definition.workflowId definition.version = some definition ∧
      (s.putVersion definition).2.pointers = s.pointers ∧ (s.putVersion definition).2.history = s.history := by
  have hsame : ¬(s.versions.get (definition.workflowId.1,definition.version.1)).any
      (·.definitionDigest ≠ definition.definitionDigest) = true := by
    cases hget : s.versions.get (definition.workflowId.1,definition.version.1) with
    | none => simp
    | some prior => simpa using hprior prior hget
  unfold putVersion getVersion
  rw [if_neg hsame]
  exact ⟨rfl,Dict.get_set_self ..,rfl,rfl⟩

/-- A release of an approved definition by a client that knows the current pointer ends with the next one. -/
theorem release_runs (channel : ChannelName) (hprior : ∀ prior,
      s.getVersion definition.workflowId definition.version = some prior → prior.definitionDigest = definition.definitionDigest)
    (hcurrent : s.readPointer definition.workflowId channel = expected) : ∃ t s',
      Prog.Runs Serves (Catalog.release definition channel expected) s t
        (.ret (definition.pointer channel (expected.elim 0 (·.generation + 1)))) s' ∧
      s'.releaseHistory definition.workflowId channel = s.releaseHistory definition.workflowId channel ++
        [definition.pointer channel (expected.elim 0 (·.generation + 1))] := by
  obtain ⟨t,ht⟩ := validateBindings_runs s definition.allBindings
  obtain ⟨hok,hget,hpointers,hhistory⟩ := putVersion_stores hprior
  have hcurrent' : (s.putVersion definition).2.readPointer definition.workflowId channel = expected := by
    unfold readPointer
    rw [hpointers]
    exact hcurrent
  have hswap := compareAndSetPointer_swaps channel hget hcurrent'
  have hput : Prog.Runs Serves (Prog.call (Call.putVersion definition) Catalog.ofExcept : Step Unit) s
      [⟨.putVersion definition,.ok ()⟩] (.ret ()) (s.putVersion definition).2 := by
    have hserves := Serves.putVersion s definition
    rw [hok] at hserves
    exact .call hserves (.nil _ _)
  have hcas : Prog.Runs Serves (Prog.call (Call.compareAndSetPointer definition.workflowId channel expected
      definition.version definition.definitionDigest) Catalog.ofExcept : Step ReleasePointer) (s.putVersion definition).2
      [⟨.compareAndSetPointer definition.workflowId channel expected definition.version definition.definitionDigest,
        .ok (definition.pointer channel (expected.elim 0 (·.generation + 1)))⟩]
      (.ret (definition.pointer channel (expected.elim 0 (·.generation + 1))))
      ((s.putVersion definition).2.installPointer (definition.pointer channel (expected.elim 0 (·.generation + 1)))
        definition.workflowId channel) := by
    have hserves := Serves.compareAndSetPointer (s.putVersion definition).2 definition.workflowId channel expected
      definition.version definition.definitionDigest
    rw [hswap] at hserves
    exact .call hserves (.nil _ _)
  have hpublish : ∃ u, Prog.Runs Serves (Catalog.publish definition) s u (.ret definition.definitionDigest)
      (s.putVersion definition).2 := ⟨_,ht.bind (hput.bind (.nil _ _))⟩
  obtain ⟨u,hu⟩ := hpublish
  refine ⟨_,_,.bind (a := ()) (t := []) ?_ (.bind (a := PUnit.unit) (.bind hu (.nil _ _)) hcas),?_⟩
  · unfold Catalog.validateChannel
    rw [if_pos channel.2]
    exact .nil _ _
  · rw [releaseHistory_install,if_pos rfl]
    unfold releaseHistory
    rw [hhistory]

end

namespace Sample

def digest : Digest := canonicalDigest .null
def binding (kind : BindingKind) : ApprovedBinding :=
  ⟨kind,⟨"capability:one",by decide +kernel⟩,⟨"2.0.0",by decide +kernel⟩,digest,by decide +kernel⟩
def artifact : ArtifactRef := ⟨⟨"schema:any",by decide +kernel⟩,digest⟩

def step : WorkflowStep where
  stepId := ⟨"fetch",by decide +kernel⟩
  binding := binding .agent
  contract := ⟨⟨"contract:fetch",by decide +kernel⟩,artifact,artifact,[],[],List.nodup_nil,List.nodup_nil⟩
  dependenciesUnique := List.nodup_nil
  notSelf := List.not_mem_nil
  executable := by decide
  policyKind := by simp

def budget : WorkflowBudget :=
  ⟨6,3,5,9,2000,90,7,by decide,by decide,by decide,by decide,by decide,by decide,by decide⟩

def first : WorkflowDefinition where
  workflowId := ⟨"workflow:report",by decide +kernel⟩
  templateId := ⟨"template:report",by decide +kernel⟩
  templateDigest := digest
  version := ⟨"2.0.0",by decide +kernel⟩
  policyBinding := binding .policy
  budget := budget
  policyBudget := budget
  steps := [step]
  lengths := by decide
  policyKind := rfl
  budgeted := by decide
  stepsUnique := List.nodup_singleton _
  dependenciesKnown := by simp [step]
  graphBounded := by decide +kernel

def stable : ChannelName := ⟨"stable",by decide +kernel⟩

end Sample

open Sample in
theorem first_release_linear : ∃ log c, Pool.Steps Serves ⟨Repository.empty,fun _ : Unit => (CatalogCall.release first
      "stable" none).run⟩ log c ∧ LinearHistory (fun _ => .release first "stable" none) log c.state "workflow:report" "stable" ∧
    c.state.releaseHistory "workflow:report" "stable" = [first.pointer stable 0] := by
  obtain ⟨t,s',hrun,hhistory⟩ := @release_runs Repository.empty first none stable (fun _ h => by cases h) rfl
  have hcall : Prog.Runs Serves (CatalogCall.release first "stable" none).run Repository.empty (t ++ [])
      (.ret (.pointer (first.pointer stable 0))) s' := hrun.bind (.nil _ _)
  have hsteps := Pool.Steps.of_runs hcall
  refine ⟨_,_,hsteps,?_,hhistory⟩
  exact (release_history_linear (fun _ => .release first "stable" none) hsteps .refl).1 _ _

end Arbora.Workflows
