import Arbora.Lib.Graphs
import Arbora.Workflows.Catalog

/-! The statistics of a workflow graph: its cycles, its depth and its fanout, whatever the order it is declared in. -/
namespace Arbora.Workflows
open PolicyPlane (StableId)
open LongestPath (IsPath Ranks)

section
variable {steps : List WorkflowStep}

abbrev stepIds (steps : List WorkflowStep) : List StableId := steps.map (·.stepId)

def dependenciesOf (steps : List WorkflowStep) (stepId : StableId) : List StableId :=
  ((steps.find? fun step => step.stepId = stepId).map (·.dependsOn)).getD []
def Precedes (steps : List WorkflowStep) (dependency stepId : StableId) : Prop :=
  ∃ step ∈ steps, step.stepId = stepId ∧ dependency ∈ step.dependsOn
def Known (steps : List WorkflowStep) : Prop := ∀ step ∈ steps, ∀ dependency ∈ step.dependsOn, dependency ∈ stepIds steps
def Cyclic (steps : List WorkflowStep) : Prop := ∃ stepId, Relation.TransGen (Precedes steps) stepId stepId

theorem dependenciesOf_of_mem (hids : (stepIds steps).Nodup) {step : WorkflowStep} (hstep : step ∈ steps) :
    dependenciesOf steps step.stepId = step.dependsOn := by
  have hfind : steps.find? (fun s => s.stepId = step.stepId) = some step := by
    cases hfound : steps.find? fun s => s.stepId = step.stepId with
    | none =>
      have := List.find?_eq_none.mp hfound step hstep
      simp at this
    | some found =>
      have hid : found.stepId = step.stepId := by simpa using List.find?_some hfound
      rw [List.inj_on_of_nodup_map hids (List.mem_of_find?_eq_some hfound) hstep hid]
  unfold dependenciesOf
  rw [hfind]
  rfl

theorem dependenciesOf_of_not_mem {stepId : StableId} (h : stepId ∉ stepIds steps) : dependenciesOf steps stepId = [] := by
  have hfind : steps.find? (fun s => s.stepId = stepId) = none := by
    rw [List.find?_eq_none]
    intro step hstep heq
    exact h (List.mem_map.mpr ⟨step,hstep,by simpa using heq⟩)
  unfold dependenciesOf
  rw [hfind]
  rfl

theorem mem_dependenciesOf (hids : (stepIds steps).Nodup) {dependency stepId : StableId} :
    dependency ∈ dependenciesOf steps stepId ↔ Precedes steps dependency stepId := by
  constructor
  · intro h
    by_cases hmem : stepId ∈ stepIds steps
    · obtain ⟨step,hstep,rfl⟩ := List.mem_map.mp hmem
      rw [dependenciesOf_of_mem hids hstep] at h
      exact ⟨step,hstep,rfl,h⟩
    · rw [dependenciesOf_of_not_mem hmem] at h
      cases h
  · rintro ⟨step,hstep,rfl,h⟩
    rwa [dependenciesOf_of_mem hids hstep]

theorem nodup_dependenciesOf (hids : (stepIds steps).Nodup) (stepId : StableId) :
    (dependenciesOf steps stepId).Nodup ∧ stepId ∉ dependenciesOf steps stepId := by
  by_cases hmem : stepId ∈ stepIds steps
  · obtain ⟨step,hstep,rfl⟩ := List.mem_map.mp hmem
    rw [dependenciesOf_of_mem hids hstep]
    exact ⟨step.dependenciesUnique,step.notSelf⟩
  · rw [dependenciesOf_of_not_mem hmem]
    simp

theorem mem_childrenOf (hids : (stepIds steps).Nodup) {stepId child : StableId} :
    child ∈ childrenOf steps stepId ↔ stepId ∈ dependenciesOf steps child := by
  rw [mem_dependenciesOf hids]
  unfold childrenOf Precedes
  rw [List.mem_insertionSort,List.mem_map]
  constructor
  · rintro ⟨step,hstep,rfl⟩
    obtain ⟨hmem,hdep⟩ := List.mem_filter.mp hstep
    exact ⟨step,hmem,rfl,by simpa using hdep⟩
  · rintro ⟨step,hmem,rfl,hdep⟩
    exact ⟨step,List.mem_filter.mpr ⟨hmem,by simpa using hdep⟩,rfl⟩

theorem nodup_childrenOf (hids : (stepIds steps).Nodup) (stepId : StableId) : (childrenOf steps stepId).Nodup := by
  unfold childrenOf
  rw [(List.perm_insertionSort _ _).nodup_iff]
  exact (List.filter_sublist.map _).nodup hids

end

section
variable {steps : List WorkflowStep}

@[simp] theorem Traversal.reach_visited (stepId : StableId) (t : Traversal) (child : StableId) :
    (t.reach stepId child).visited = t.visited := rfl

theorem foldl_reach {stepId : StableId} {children : List StableId} (hnodup : children.Nodup) (hself : stepId ∉ children)
    (t : Traversal) : (children.foldl (Traversal.reach stepId) t).visited = t.visited ∧
    (∀ v, (children.foldl (Traversal.reach stepId) t).longest v =
      if v ∈ children then max (t.longest v) (t.longest stepId + 1) else t.longest v) ∧
    (∀ v, (children.foldl (Traversal.reach stepId) t).indegree v =
      if v ∈ children then t.indegree v - 1 else t.indegree v) ∧
    (children.foldl (Traversal.reach stepId) t).ready.Perm
      (t.ready ++ children.filter fun child => t.indegree child - 1 = 0) := by
  induction children generalizing t with
  | nil => simp
  | cons child rest ih =>
    obtain ⟨hchild,hrest⟩ := List.nodup_cons.mp hnodup
    have hne : stepId ≠ child := fun heq => hself (heq ▸ List.mem_cons_self)
    have hself : stepId ∉ rest := fun hmem => hself (List.mem_cons_of_mem _ hmem)
    obtain ⟨hvisited,hlongest,hindegree,hready⟩ := ih hrest hself (t.reach stepId child)
    have hsame : ∀ c ∈ rest, (t.reach stepId child).indegree c = t.indegree c := by
      intro c hc
      have hcne : c ≠ child := by
        rintro rfl
        exact hchild hc
      exact Function.update_of_ne hcne ..
    rw [List.foldl_cons]
    refine ⟨hvisited,?_,?_,?_⟩
    · intro v
      have hstep : (t.reach stepId child).longest stepId = t.longest stepId := Function.update_of_ne hne ..
      rw [hlongest,hstep]
      by_cases hv : v = child
      · subst hv
        simp [hchild,Traversal.reach]
      · have : (t.reach stepId child).longest v = t.longest v := Function.update_of_ne hv ..
        simp [hv,this]
    · intro v
      rw [hindegree]
      by_cases hv : v = child
      · subst hv
        simp [hchild,Traversal.reach]
      · have : (t.reach stepId child).indegree v = t.indegree v := Function.update_of_ne hv ..
        simp [hv,this]
    · have hfilter : (rest.filter fun c => (t.reach stepId child).indegree c - 1 = 0) =
          rest.filter fun c => t.indegree c - 1 = 0 := by
        apply List.filter_congr
        intro c hc
        rw [hsame c hc]
      rw [hfilter] at hready
      refine hready.trans ?_
      by_cases hzero : t.indegree child - 1 = 0
      · have hadd : (t.reach stepId child).ready.Perm (t.ready ++ [child]) := by
          simp only [Traversal.reach,hzero,if_true]
          exact List.perm_insertionSort _ _
        rw [List.filter_cons_of_pos (by simpa using hzero)]
        exact (hadd.append_right _).trans (by simp)
      · rw [List.filter_cons_of_neg (by simpa using hzero)]
        simp [Traversal.reach,hzero]

structure Traversal.Keeps (steps : List WorkflowStep) (t : Traversal) : Prop where
  nodup : (t.visited ++ t.ready).Nodup
  done : ∀ v, v ∈ t.visited ++ t.ready ↔ v ∈ stepIds steps ∧ ∀ d ∈ dependenciesOf steps v, d ∈ t.visited
  degree : ∀ v, t.indegree v = ((dependenciesOf steps v).filter fun d => d ∉ t.visited).length
  pos : ∀ v, 1 ≤ t.longest v
  above : ∀ v, ∀ d ∈ dependenciesOf steps v, d ∈ t.visited → t.longest d + 1 ≤ t.longest v
  attained : ∀ v, t.longest v = 1 ∨ ∃ d ∈ dependenciesOf steps v, d ∈ t.visited ∧ t.longest v = t.longest d + 1

theorem length_waiting {dependencies visited : List StableId} {s : StableId} (hnodup : dependencies.Nodup)
    (hs : s ∉ visited) : (dependencies.filter fun d => d ∉ visited ++ [s]).length =
      (dependencies.filter fun d => d ∉ visited).length - if s ∈ dependencies then 1 else 0 := by
  have hsplit : (dependencies.filter fun d => d ∉ visited ++ [s]) =
      (dependencies.filter fun d => d ∉ visited).erase s := by
    rw [(hnodup.filter _).erase_eq_filter,List.filter_filter]
    apply List.filter_congr
    intro d _
    by_cases hd : d = s
    · simp [hd]
    · simp [hd]
  have hmem : s ∈ dependencies.filter (fun d => d ∉ visited) ↔ s ∈ dependencies := by
    simp [hs]
  rw [hsplit,List.length_erase]
  split_ifs with h1 h2 h2
  · rfl
  · exact absurd (hmem.mp h1) h2
  · exact absurd (hmem.mpr h2) h1
  · rfl

variable {t : Traversal} {s : StableId} {rest : List StableId}

section
variable (hids : (stepIds steps).Nodup)
include hids

theorem Traversal.Keeps.visit (h : t.Keeps steps) (hready : t.ready = s :: rest) :
    ((childrenOf steps s).foldl (Traversal.reach s)
      { t with ready := rest, visited := t.visited ++ [s] }).Keeps steps := by
  have hnodup := h.nodup
  rw [hready] at hnodup
  have hfresh : s ∉ t.visited := fun hmem => (List.disjoint_of_nodup_append hnodup) hmem List.mem_cons_self
  have hself : s ∉ childrenOf steps s := by
    rw [mem_childrenOf hids]
    exact (nodup_dependenciesOf hids s).2
  -- what waits for the step has not been visited, and is not ready
  have hwaiting : ∀ c, s ∈ dependenciesOf steps c → c ∉ t.visited ++ t.ready :=
    fun c hc hmem => hfresh (((h.done c).mp hmem).2 s hc)
  have hlen : ∀ v, ((dependenciesOf steps v).filter fun d => d ∉ t.visited ++ [s]).length =
      if v ∈ childrenOf steps s then t.indegree v - 1 else t.indegree v := by
    intro v
    rw [length_waiting (nodup_dependenciesOf hids v).1 hfresh,← h.degree v]
    simp only [mem_childrenOf hids]
    split_ifs <;> rfl
  have hzero : ∀ v, s ∈ dependenciesOf steps v →
      (t.indegree v - 1 = 0 ↔ ∀ d ∈ dependenciesOf steps v, d ∈ t.visited ++ [s]) := by
    intro v hv
    have := hlen v
    rw [if_pos ((mem_childrenOf hids).mpr hv)] at this
    rw [← this,List.length_eq_zero_iff,List.filter_eq_nil_iff]
    exact forall₂_congr fun d _ => by rw [decide_eq_true_eq,not_not]
  obtain ⟨hvisited,hlongest,hindegree,hperm⟩ := foldl_reach (nodup_childrenOf hids s) hself
    { t with ready := rest, visited := t.visited ++ [s] }
  have hkept : ∀ v, v ∈ t.visited ++ [s] → v ∉ childrenOf steps s := by
    intro v hv hchild
    refine hwaiting v ((mem_childrenOf hids).mp hchild) ?_
    rw [hready]
    simp only [List.mem_append,List.mem_cons,List.not_mem_nil,or_false] at hv ⊢
    exact hv.imp_right .inl
  have hmem : ∀ v, v ∈ t.visited ++ [s] ++ (rest ++ (childrenOf steps s).filter fun c => t.indegree c - 1 = 0) ↔
      v ∈ t.visited ++ t.ready ∨ (s ∈ dependenciesOf steps v ∧ t.indegree v - 1 = 0) := by
    rw [hready]
    simp only [List.mem_append,List.mem_cons,List.mem_filter,decide_eq_true_eq,mem_childrenOf hids,
      List.not_mem_nil,or_false]
    tauto
  refine ⟨?_,?_,?_,?_,?_,?_⟩
  · rw [hvisited,(hperm.append_left _).nodup_iff]
    have hold : t.visited ++ [s] ++ (rest ++ (childrenOf steps s).filter fun c => t.indegree c - 1 = 0) =
        t.visited ++ s :: rest ++ (childrenOf steps s).filter fun c => t.indegree c - 1 = 0 := by simp
    rw [hold]
    refine hnodup.append ((nodup_childrenOf hids s).filter _) ?_
    intro v hv hchild
    refine hwaiting v ((mem_childrenOf hids).mp (List.mem_filter.mp hchild).1) ?_
    rwa [hready]
  · intro v
    rw [hvisited,(hperm.append_left _).mem_iff,hmem,h.done]
    constructor
    · rintro (⟨hid,hdeps⟩ | ⟨hs,hdeg⟩)
      · exact ⟨hid,fun d hd => List.mem_append_left _ (hdeps d hd)⟩
      · refine ⟨?_,(hzero v hs).mp hdeg⟩
        by_contra hid
        rw [dependenciesOf_of_not_mem hid] at hs
        cases hs
    · rintro ⟨hid,hdeps⟩
      by_cases hs : s ∈ dependenciesOf steps v
      · exact .inr ⟨hs,(hzero v hs).mpr hdeps⟩
      · refine .inl ⟨hid,fun d hd => ?_⟩
        rcases List.mem_append.mp (hdeps d hd) with hold | hnew
        · exact hold
        · rw [List.mem_singleton.mp hnew] at hd
          exact absurd hd hs
  · intro v
    rw [hindegree,hvisited]
    exact (hlen v).symm
  · intro v
    have := h.pos v
    rw [hlongest]
    split_ifs <;> omega
  · intro v d hd hvis
    rw [hvisited] at hvis
    rw [hlongest,hlongest,if_neg (hkept d hvis)]
    dsimp only
    rcases List.mem_append.mp hvis with hold | hnew
    · have := h.above v d hd hold
      split_ifs <;> omega
    · obtain rfl := List.mem_singleton.mp hnew
      rw [if_pos ((mem_childrenOf hids).mpr hd)]
      omega
  · intro v
    have hold : ∀ d ∈ t.visited ++ [s], t.longest d = ((childrenOf steps s).foldl (Traversal.reach s)
        { t with ready := rest, visited := t.visited ++ [s] }).longest d := by
      intro d hd
      rw [hlongest,if_neg (hkept d hd)]
    rw [hvisited,hlongest]
    have hprev : t.longest v = 1 ∨ ∃ d ∈ dependenciesOf steps v, d ∈ t.visited ++ [s] ∧ t.longest v = t.longest d + 1 := by
      refine (h.attained v).imp_right ?_
      rintro ⟨d,hd,hvis,hlong⟩
      exact ⟨d,hd,List.mem_append_left _ hvis,hlong⟩
    have hnext : t.longest v = 1 ∨ ∃ d ∈ dependenciesOf steps v, d ∈ t.visited ++ [s] ∧
        t.longest v = ((childrenOf steps s).foldl (Traversal.reach s)
          { t with ready := rest, visited := t.visited ++ [s] }).longest d + 1 := by
      refine hprev.imp_right ?_
      rintro ⟨d,hd,hvis,hlong⟩
      exact ⟨d,hd,hvis,hold d hvis ▸ hlong⟩
    split_ifs with hchild
    · rcases le_total (t.longest v) (t.longest s + 1) with hle | hle
      · rw [max_eq_right hle]
        exact .inr ⟨s,(mem_childrenOf hids).mp hchild,by simp,by rw [hold s (by simp)]⟩
      · rw [max_eq_left hle]
        exact hnext
    · exact hnext

theorem Traversal.Keeps.run (h : t.Keeps steps) (rounds : ℕ) :
    (Traversal.run steps rounds t).Keeps steps ∧ ((Traversal.run steps rounds t).ready = [] ∨
      (Traversal.run steps rounds t).visited.length = t.visited.length + rounds) := by
  induction rounds generalizing t with
  | zero => exact ⟨h,.inr rfl⟩
  | succ rounds ih =>
    cases hready : t.ready with
    | nil =>
      have hstop : Traversal.run steps (rounds + 1) t = t := by
        unfold Traversal.run
        rw [hready]
      rw [hstop]
      exact ⟨h,.inl hready⟩
    | cons s rest =>
      have hgo : Traversal.run steps (rounds + 1) t = Traversal.run steps rounds ((childrenOf steps s).foldl
          (Traversal.reach s) { t with ready := rest, visited := t.visited ++ [s] }) := by
        conv_lhs => unfold Traversal.run
        rw [hready]
      have hself : s ∉ childrenOf steps s := by
        rw [mem_childrenOf hids]
        exact (nodup_dependenciesOf hids s).2
      have hvisited := (foldl_reach (nodup_childrenOf hids s) hself
        { t with ready := rest, visited := t.visited ++ [s] }).1
      obtain ⟨hkeeps,hend⟩ := ih (h.visit hids hready)
      rw [hgo]
      refine ⟨hkeeps,hend.imp_right fun hlen => ?_⟩
      rw [hlen,hvisited,List.length_append,List.length_singleton]
      omega

/-- Nothing is left ready in the end. -/
theorem topologicalStats_keeps : (topologicalStats steps).Keeps steps ∧ (topologicalStats steps).ready = [] := by
  have hdegree : ∀ v, ((steps.find? fun step => step.stepId = v).map (·.dependsOn.length)).getD 0 =
      (dependenciesOf steps v).length := by
    intro v
    unfold dependenciesOf
    cases steps.find? fun step => step.stepId = v <;> rfl
  have hstart : Traversal.Keeps steps
      { ready := ((steps.map (·.stepId)).filter fun stepId =>
          ((steps.find? fun step => step.stepId = stepId).map (·.dependsOn.length)).getD 0 = 0).insertionSort
            fun a b => a.1 ≤ b.1
        longest := fun _ => 1
        indegree := fun stepId => ((steps.find? fun step => step.stepId = stepId).map (·.dependsOn.length)).getD 0
        visited := [] } := by
    refine ⟨?_,?_,?_,fun _ => le_rfl,?_,fun _ => .inl rfl⟩
    · rw [List.nil_append,(List.perm_insertionSort _ _).nodup_iff]
      exact hids.filter _
    · intro v
      rw [List.nil_append,List.mem_insertionSort,List.mem_filter,decide_eq_true_eq,hdegree,
        List.length_eq_zero_iff,List.eq_nil_iff_forall_not_mem]
      simp
    · intro v
      simp [hdegree]
    · intro v d _ hvis
      cases hvis
  obtain ⟨hkeeps,hend⟩ := hstart.run hids steps.length
  refine ⟨hkeeps,hend.elim id fun hlen => ?_⟩
  have hall : ((topologicalStats steps).visited ++ (topologicalStats steps).ready).length ≤ (stepIds steps).length :=
    (hkeeps.nodup.subperm fun v hv => ((hkeeps.done v).mp hv).1).length_le
  have hlen' : (topologicalStats steps).visited.length = 0 + steps.length := hlen
  rw [List.length_append,hlen',List.length_map] at hall
  exact List.length_eq_zero_iff.mp (by omega)

theorem visited_all : (topologicalStats steps).visited.length = steps.length ↔
    ∀ v ∈ stepIds steps, v ∈ (topologicalStats steps).visited := by
  obtain ⟨hkeeps,hready⟩ := topologicalStats_keeps hids
  have hnodup := hkeeps.nodup
  have hdone := hkeeps.done
  rw [hready,List.append_nil] at hnodup
  simp only [hready,List.append_nil] at hdone
  have hsub := hnodup.subperm fun v hv => ((hdone v).mp hv).1
  have hlen : (stepIds steps).length = steps.length := List.length_map ..
  constructor
  · intro heq v hv
    exact (hsub.perm_of_length_le (by omega)).mem_iff.mpr hv
  · intro hall
    have := (hids.subperm hall).length_le
    have := hsub.length_le
    omega

theorem ranks_of_visited (hknown : Known steps) (hall : ∀ v ∈ stepIds steps, v ∈ (topologicalStats steps).visited) :
    Ranks (Precedes steps) (topologicalStats steps).longest := by
  obtain ⟨hkeeps,_⟩ := topologicalStats_keeps hids
  refine ⟨hkeeps.pos,?_,?_⟩
  · intro u v huv
    have hu : u ∈ stepIds steps := by
      obtain ⟨step,hstep,_,hdep⟩ := huv
      exact hknown step hstep u hdep
    exact hkeeps.above v u ((mem_dependenciesOf hids).mpr huv) (hall u hu)
  · intro v
    exact (hkeeps.attained v).imp_right fun ⟨d,hd,_,hlong⟩ => ⟨d,(mem_dependenciesOf hids).mp hd,hlong⟩

/-- The traversal gets stuck on the cycles. -/
theorem cyclic_iff (hknown : Known steps) :
    Cyclic steps ↔ ¬∀ v ∈ stepIds steps, v ∈ (topologicalStats steps).visited := by
  constructor
  · rintro ⟨v,hcycle⟩ hall
    exact (ranks_of_visited hids hknown hall).acyclic v hcycle
  · intro hleft
    obtain ⟨hkeeps,hready⟩ := topologicalStats_keeps hids
    have hdone := hkeeps.done
    simp only [hready,List.append_nil] at hdone
    simp only [not_forall] at hleft
    obtain ⟨v,hv,hunvisited⟩ := hleft
    have hfin : {u | u ∈ stepIds steps ∧ u ∉ (topologicalStats steps).visited}.Finite :=
      (List.finite_toSet (stepIds steps)).subset fun u hu => hu.1
    have hpred : ∀ u ∈ {u | u ∈ stepIds steps ∧ u ∉ (topologicalStats steps).visited},
        ∃ d ∈ {u | u ∈ stepIds steps ∧ u ∉ (topologicalStats steps).visited}, Precedes steps d u := by
      rintro u ⟨hu,hunvisited⟩
      have hwaits : ¬∀ d ∈ dependenciesOf steps u, d ∈ (topologicalStats steps).visited :=
        fun hdeps => hunvisited ((hdone u).mpr ⟨hu,hdeps⟩)
      simp only [not_forall] at hwaits
      obtain ⟨d,hd,hdun⟩ := hwaits
      have hprec := (mem_dependenciesOf hids).mp hd
      obtain ⟨step,hstep,_,hdep⟩ := hprec
      exact ⟨d,⟨hknown step hstep d hdep,hdun⟩,(mem_dependenciesOf hids).mp hd⟩
    obtain ⟨u,_,hcycle⟩ := LongestPath.exists_cycle hfin ⟨v,hv,hunvisited⟩ hpred
    exact ⟨u,hcycle⟩

end

end

section
variable {steps : List WorkflowStep}

def pathLengths (steps : List WorkflowStep) : Set ℕ :=
  {n | ∃ p : List StableId, (∀ v ∈ p, v ∈ stepIds steps) ∧ IsPath (Precedes steps) p ∧ p.length = n}
def dependents (steps : List WorkflowStep) (stepId : StableId) : ℕ := steps.countP fun step => stepId ∈ step.dependsOn
def fanouts (steps : List WorkflowStep) : Set ℕ := {n | n = 0 ∨ ∃ stepId ∈ stepIds steps, dependents steps stepId = n}

/-- Statistics that say of a graph what it is. -/
structure WorkflowGraphStats.Exact (steps : List WorkflowStep) (stats : WorkflowGraphStats) : Prop where
  stepCount : stats.stepCount = steps.length
  depth : IsGreatest (pathLengths steps) stats.depth
  maxFanout : IsGreatest (fanouts steps) stats.maxFanout
  toolStepCount : stats.toolStepCount = steps.countP fun step => step.binding.kind = .tool

theorem foldl_max_spec (l : List ℕ) (m : ℕ) :
    m ≤ l.foldl max m ∧ (∀ n ∈ l, n ≤ l.foldl max m) ∧ (l.foldl max m = m ∨ l.foldl max m ∈ l) := by
  induction l generalizing m with
  | nil => simp
  | cons n rest ih =>
    obtain ⟨hle,hall,hmem⟩ := ih (max m n)
    rw [List.foldl_cons]
    refine ⟨by omega,?_,?_⟩
    · intro k hk
      rcases List.mem_cons.mp hk with rfl | hk
      · omega
      · exact hall k hk
    · rcases hmem with heq | hin
      · rw [heq]
        rcases le_total m n with hmn | hnm
        · exact .inr (by simp [hmn])
        · exact .inl (max_eq_left hnm)
      · exact .inr (List.mem_cons_of_mem _ hin)

/-- The statistics that an acyclic graph is given. -/
def measured (steps : List WorkflowStep) : WorkflowGraphStats where
  stepCount := steps.length
  depth := (steps.map fun step => (topologicalStats steps).longest step.stepId).foldl max 0
  maxFanout := (steps.map fun step => (childrenOf steps step.stepId).length).foldl max 0
  toolStepCount := (steps.filter fun step => step.binding.kind = .tool).length

theorem graphStats_eq (hids : (stepIds steps).Nodup) (hknown : Known steps) [Decidable (Cyclic steps)] :
    graphStats steps = if Cyclic steps then .error .workflowCycle else (measured steps).validate := by
  unfold graphStats
  simp only [ne_eq,visited_all hids,cyclic_iff hids hknown]
  rfl

theorem length_childrenOf (stepId : StableId) : (childrenOf steps stepId).length = dependents steps stepId := by
  unfold childrenOf dependents
  rw [List.length_insertionSort,List.length_map,List.countP_eq_length_filter]

theorem mem_of_isPath (hknown : Known steps) {p : List StableId} {v : StableId} (hp : IsPath (Precedes steps) (p ++ [v]))
    (hv : v ∈ stepIds steps) : ∀ u ∈ p ++ [v], u ∈ stepIds steps := by
  induction p with
  | nil => simpa using hv
  | cons u rest ih =>
    rw [List.cons_append,IsPath,List.isChain_cons] at hp
    have hrest := ih hp.2
    have hu : u ∈ stepIds steps := by
      cases hnext : (rest ++ [v]).head? with
      | none => simp at hnext
      | some w =>
        obtain ⟨step,hstep,_,hdep⟩ := hp.1 w hnext
        exact hknown step hstep u hdep
    exact List.forall_mem_cons.mpr ⟨hu,hrest⟩

theorem measured_exact (hids : (stepIds steps).Nodup) (hknown : Known steps) (hacyclic : ¬Cyclic steps) :
    (measured steps).Exact steps := by
  rw [cyclic_iff hids hknown,not_not] at hacyclic
  have hranks := ranks_of_visited hids hknown hacyclic
  obtain ⟨_,hdepth,hdeepest⟩ := foldl_max_spec (steps.map fun step => (topologicalStats steps).longest step.stepId) 0
  obtain ⟨_,hfan,hwidest⟩ := foldl_max_spec (steps.map fun step => (childrenOf steps step.stepId).length) 0
  refine ⟨rfl,⟨?_,?_⟩,⟨?_,?_⟩,?_⟩
  · rcases hdeepest with hzero | hmem
    · exact ⟨[],by simp,List.isChain_nil,hzero.symm⟩
    · obtain ⟨step,hstep,hrank⟩ := List.mem_map.mp hmem
      obtain ⟨p,hp,hlen⟩ := hranks.exists_path step.stepId
      exact ⟨p ++ [step.stepId],mem_of_isPath hknown hp (List.mem_map.mpr ⟨step,hstep,rfl⟩),hp,hlen.trans hrank⟩
  · rintro n ⟨p,hmem,hp,rfl⟩
    rcases List.eq_nil_or_concat p with rfl | ⟨q,v,rfl⟩
    · exact Nat.zero_le _
    · rw [List.concat_eq_append] at hp hmem ⊢
      obtain ⟨step,hstep,rfl⟩ := List.mem_map.mp (hmem v (by simp))
      exact (hranks.length_le hp).trans (hdepth _ (List.mem_map.mpr ⟨step,hstep,rfl⟩))
  · refine hwidest.imp_right fun hmem => ?_
    obtain ⟨step,hstep,hlen⟩ := List.mem_map.mp hmem
    exact ⟨step.stepId,List.mem_map.mpr ⟨step,hstep,rfl⟩,(length_childrenOf _).symm.trans hlen⟩
  · rintro n (rfl | ⟨v,hv,rfl⟩)
    · exact Nat.zero_le _
    · obtain ⟨step,hstep,rfl⟩ := List.mem_map.mp hv
      rw [← length_childrenOf]
      exact hfan _ (List.mem_map.mpr ⟨step,hstep,rfl⟩)
  · exact List.countP_eq_length_filter.symm

theorem WorkflowGraphStats.Exact.unique {stats stats' : WorkflowGraphStats} {others : List WorkflowStep}
    (h : stats.Exact steps) (h' : stats'.Exact others) (hcount : others.length = steps.length)
    (hpaths : pathLengths others = pathLengths steps) (hfans : fanouts others = fanouts steps)
    (htools : others.countP (fun step => step.binding.kind = .tool) =
      steps.countP fun step => step.binding.kind = .tool) : stats' = stats := by
  obtain ⟨n,d,f,k⟩ := stats
  obtain ⟨n',d',f',k'⟩ := stats'
  have hd := h.depth
  have hf := h.maxFanout
  rw [← hpaths] at hd
  rw [← hfans] at hf
  have hn : n' = n := h'.stepCount.trans (hcount.trans h.stepCount.symm)
  have hk : k' = k := h'.toolStepCount.trans (htools.trans h.toolStepCount.symm)
  obtain rfl : d' = d := h'.depth.unique hd
  obtain rfl : f' = f := h'.maxFanout.unique hf
  rw [hn,hk]

end

section
variable {steps others : List WorkflowStep}

/-- Two declarations of a step that differ in the order of its dependencies. -/
structure SameStep (a b : WorkflowStep) : Prop where
  stepId : a.stepId = b.stepId
  binding : a.binding = b.binding
  dependsOn : a.dependsOn.Perm b.dependsOn

/-- Two declarations of a graph that differ in the order of the steps and of their dependencies. -/
def Reordered (steps others : List WorkflowStep) : Prop :=
  ∃ listed, steps.Perm listed ∧ List.Forall₂ SameStep listed others

section
variable (h : Reordered steps others)
include h

theorem Reordered.countP {p : WorkflowStep → Bool}
    (hp : ∀ a b, SameStep a b → p a = p b) : others.countP p = steps.countP p := by
  obtain ⟨listed,hperm,hsame⟩ := h
  rw [hperm.countP_eq]
  clear hperm
  induction hsame with
  | nil => rfl
  | cons hab _ ih => simp only [List.countP_cons,ih,hp _ _ hab]

theorem Reordered.stepIds_perm : (stepIds others).Perm (stepIds steps) := by
  obtain ⟨listed,hperm,hsame⟩ := h
  have hids : stepIds listed = stepIds others := by
    clear hperm
    induction hsame with
    | nil => rfl
    | cons hab _ ih => simp only [stepIds,List.map_cons,hab.stepId] at ih ⊢; rw [ih]
  rw [← hids]
  exact (hperm.map _).symm

theorem Reordered.precedes (u v : StableId) : Precedes others u v ↔ Precedes steps u v := by
  have hcount := h.countP (p := fun step => step.stepId = v ∧ u ∈ step.dependsOn) ?_
  · have hpos : ∀ l : List WorkflowStep, Precedes l u v ↔ 0 < l.countP fun step => step.stepId = v ∧ u ∈ step.dependsOn := by
      simp [Precedes]
    rw [hpos,hpos,hcount]
  · intro a b hab
    simp only [hab.stepId,hab.dependsOn.mem_iff]

theorem Reordered.dependents (v : StableId) : Workflows.dependents others v = Workflows.dependents steps v := by
  apply h.countP
  intro a b hab
  simp only [hab.dependsOn.mem_iff]

theorem Reordered.measures : (Cyclic others ↔ Cyclic steps) ∧
    pathLengths others = pathLengths steps ∧ fanouts others = fanouts steps := by
  have hprec : Precedes others = Precedes steps := by
    funext u v
    exact propext (h.precedes u v)
  have hids : ∀ v, v ∈ stepIds others ↔ v ∈ stepIds steps := fun v => h.stepIds_perm.mem_iff
  refine ⟨?_,?_,?_⟩
  · unfold Cyclic
    rw [hprec]
  · unfold pathLengths
    simp only [hprec,hids]
  · unfold fanouts
    simp only [h.dependents,hids]

theorem Reordered.known (hknown : Known steps) : Known others := by
  intro step hstep d hd
  obtain ⟨step',hstep',_,hdep⟩ := (h.precedes d step.stepId).mp ⟨step,hstep,rfl,hd⟩
  exact h.stepIds_perm.mem_iff.mpr (hknown step' hstep' d hdep)

end

end

/-- The statistics say of a cyclic graph that it has a cycle, of another one its numbers of steps and of tools, the
greatest number of steps on a dependency path and the greatest number of dependents, as far as the record's bounds
allow; and the same for every order of declaration. -/
theorem graph_statistics_exact (steps : List WorkflowStep) (hids : (stepIds steps).Nodup) (hknown : Known steps) :
    (graphStats steps = .error .workflowCycle ↔ Cyclic steps) ∧
    (¬Cyclic steps → ∃ stats : WorkflowGraphStats, stats.Exact steps ∧ graphStats steps = stats.validate) ∧
    ∀ others, Reordered steps others → graphStats others = graphStats steps := by
  classical
  refine ⟨?_,?_,?_⟩
  · rw [graphStats_eq hids hknown]
    by_cases hcyclic : Cyclic steps
    · simp [hcyclic]
    · simp only [hcyclic,if_false,iff_false]
      unfold WorkflowGraphStats.validate
      split_ifs <;> nofun
  · intro hacyclic
    refine ⟨measured steps,measured_exact hids hknown hacyclic,?_⟩
    rw [graphStats_eq hids hknown,if_neg hacyclic]
  · intro others h
    have hids' : (stepIds others).Nodup := h.stepIds_perm.nodup_iff.mpr hids
    obtain ⟨hcyclic,hpaths,hfans⟩ := h.measures
    rw [graphStats_eq hids hknown,graphStats_eq hids' (h.known hknown),hcyclic]
    by_cases hc : Cyclic steps
    · rw [if_pos hc,if_pos hc]
    · rw [if_neg hc,if_neg hc]
      have htools : others.countP (fun step => step.binding.kind = .tool) =
          steps.countP fun step => step.binding.kind = .tool := by
        apply h.countP
        intro a b hab
        rw [hab.binding]
      have hlen : others.length = steps.length := by
        simpa using h.stepIds_perm.length_eq
      rw [(measured_exact hids hknown hc).unique
        (measured_exact hids' (h.known hknown) (hcyclic.not.mpr hc)) hlen hpaths hfans htools]

namespace Fan

theorem isId_name (n : Fin 34) : PolicyPlane.isId (String.ofList ('s' :: List.replicate n 'a')) = true := by
  have hn : n.1 < 128 := n.2.trans (by decide)
  have hs : PolicyPlane.isLetter 's' = true := by decide
  have ha : PolicyPlane.isNameChar 'a' = true := by decide
  simp [PolicyPlane.isId,PolicyPlane.isName,hn,hs,ha]

def name (n : Fin 34) : StableId := ⟨String.ofList ('s' :: List.replicate n 'a'),isId_name n⟩

theorem name_injective : Function.Injective name := by
  intro m n h
  have hchars := congrArg (fun id : StableId => id.1.toList.length) h
  simpa [name,Fin.ext_iff] using hchars

def source : PolicyPlane.Digest := PolicyPlane.canonicalDigest .null
def schema : ArtifactRef := ⟨⟨"schema:source",by decide +kernel⟩,source⟩
def dependencies (n : Fin 34) : List StableId := if n = 0 then [] else [name 0]

theorem dependencies_spec (n : Fin 34) : (dependencies n).Nodup ∧ name n ∉ dependencies n ∧
    ∀ d, d ∈ dependencies n ↔ n ≠ 0 ∧ d = name 0 := by
  unfold dependencies
  split_ifs with hn
  · simp [hn]
  · simp [hn,name_injective.eq_iff]

theorem version_isVersion : PolicyPlane.isVersion "1.0.0" = true := by decide +kernel
theorem no_policy : ∀ binding : ApprovedBinding, none = some binding → binding.kind = .policy := fun _ h => nomatch h

/-- A step that waits for the first one, unless it is the first. -/
def stepAt (n : Fin 34) : WorkflowStep where
  stepId := name n
  binding := ⟨.agent,⟨"capability:fan",by decide +kernel⟩,⟨"1.0.0",version_isVersion⟩,source,by decide +kernel⟩
  contract := ⟨⟨"contract:fan",by decide +kernel⟩,schema,schema,[],[],List.nodup_nil,List.nodup_nil⟩
  dependsOn := dependencies n
  dependenciesUnique := (dependencies_spec n).1
  notSelf := (dependencies_spec n).2.1
  executable := nofun
  policyKind := no_policy

/-- The first step and those that wait for it. -/
def fan (indices : List (Fin 34)) : List WorkflowStep := (0 :: indices).map stepAt

theorem stepIds_fan (indices : List (Fin 34)) : stepIds (fan indices) = (0 :: indices).map name := List.map_map

theorem fan_known (indices : List (Fin 34)) : Known (fan indices) := by
  intro step hstep d hd
  obtain ⟨n,_,rfl⟩ := List.mem_map.mp hstep
  rw [((dependencies_spec n).2.2 d |>.mp hd).2,stepIds_fan]
  exact List.mem_cons_self

theorem fan_acyclic (indices : List (Fin 34)) : ¬Cyclic (fan indices) := by
  have hedge : ∀ u v, Precedes (fan indices) u v → u = name 0 ∧ v ≠ name 0 := by
    rintro u v ⟨step,hstep,rfl,hdep⟩
    obtain ⟨n,_,rfl⟩ := List.mem_map.mp hstep
    obtain ⟨hn,hu⟩ := ((dependencies_spec n).2.2 u).mp hdep
    exact ⟨hu,fun heq => hn (name_injective heq)⟩
  rintro ⟨v,hcycle⟩
  obtain ⟨w,hfirst,_⟩ := Relation.TransGen.head'_iff.mp hcycle
  obtain ⟨u,_,hlast⟩ := Relation.TransGen.tail'_iff.mp hcycle
  exact (hedge u v hlast).2 (hedge v w hfirst).1

theorem nodup_fan {indices : List (Fin 34)} (h : (0 :: indices).Nodup) : (stepIds (fan indices)).Nodup := by
  rw [stepIds_fan]
  exact h.map name_injective

/-- One step too many waits for the first. -/
theorem wide_refused (stats : WorkflowGraphStats) : graphStats (fan (List.finRange 34).tail) ≠ .ok stats := by
  classical
  have hids := nodup_fan (by decide : (0 :: (List.finRange 34).tail).Nodup)
  have hexact := measured_exact hids (fan_known _) (fan_acyclic _)
  intro hok
  rw [graphStats_eq hids (fan_known _),if_neg (fan_acyclic _)] at hok
  have hbound : (measured (fan (List.finRange 34).tail)).maxFanout ≤ 32 := by
    unfold WorkflowGraphStats.validate at hok
    split_ifs at hok with hbounds
    exact hbounds.2.2.2.2.1
  have hwide : dependents (fan (List.finRange 34).tail) (name 0) = 33 := by
    have htest : ∀ n : Fin 34, decide (name 0 ∈ (stepAt n).dependsOn) = decide (n ≠ 0) := by
      intro n
      rw [decide_eq_decide]
      exact ((dependencies_spec n).2.2 (name 0)).trans (and_iff_left rfl)
    unfold dependents fan
    rw [List.countP_map]
    simp only [Function.comp_def,htest]
    decide
  have hmem : dependents (fan (List.finRange 34).tail) (name 0) ∈ fanouts (fan (List.finRange 34).tail) := by
    refine .inr ⟨name 0,?_,rfl⟩
    rw [stepIds_fan]
    exact List.mem_cons_self
  have := hexact.maxFanout.2 hmem
  omega

end Fan

open Fan in
theorem pair_statistics : ∃ stats : WorkflowGraphStats, stats.Exact (fan [1]) ∧
    graphStats (fan [1]) = stats.validate :=
  (graph_statistics_exact (fan [1]) (nodup_fan (by decide)) (fan_known [1])).2.1 (fan_acyclic [1])

open Fan in
theorem wide_graph_refused : ¬∀ steps : List WorkflowStep, (stepIds steps).Nodup → Known steps →
    (graphStats steps = .error .workflowCycle ↔ Cyclic steps) ∧
    (¬Cyclic steps → ∃ stats : WorkflowGraphStats, stats.Exact steps ∧ graphStats steps = .ok stats) ∧
    ∀ others, Reordered steps others → graphStats others = graphStats steps := by
  intro h
  obtain ⟨stats,-,hok⟩ := (h (fan (List.finRange 34).tail) (nodup_fan (by decide)) (fan_known _)).2.1 (fan_acyclic _)
  exact wide_refused stats hok

end Arbora.Workflows
