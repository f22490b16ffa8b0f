import Arbora.Runs.Models
import Arbora.Workflows.GraphStatistics

/-! The graph of a run's tasks is measured as the graph of a workflow's steps is. -/
namespace Arbora.Runs
open PolicyPlane (StableId)
open Workflows (Cyclic Known Reordered SameStep Traversal WorkflowGraphStats WorkflowStep cyclic_iff graphStats
  graphStats_eq measured measured_exact stepIds topologicalStats visited_all)

structure Corresponds (task : TaskRef) (step : WorkflowStep) : Prop where
  name : task.taskId = step.stepId
  dependsOn : task.dependsOn.Perm step.dependsOn

def stepOf (task : TaskRef) (step : WorkflowStep) : WorkflowStep := { step with
  stepId := task.taskId
  dependsOn := task.dependsOn
  dependenciesUnique := task.unique
  notSelf := task.noSelf }

variable {tasks : List TaskRef} {steps listed : List WorkflowStep}

def Mirrors (tasks : List TaskRef) (steps : List WorkflowStep) : Prop :=
  List.Forall₂ (fun task step => task.taskId = step.stepId ∧ task.dependsOn = step.dependsOn) tasks steps

theorem exists_mirror (h : List.Forall₂ Corresponds tasks listed) :
    ∃ mirror, Mirrors tasks mirror ∧ List.Forall₂ SameStep listed mirror := by
  induction h with
  | nil => exact ⟨[],.nil,.nil⟩
  | @cons task step _ _ hab _ ih =>
    obtain ⟨mirror,hmirror,hsame⟩ := ih
    exact ⟨stepOf task step :: mirror,.cons ⟨rfl,rfl⟩ hmirror,.cons ⟨hab.name.symm,rfl,hab.dependsOn.symm⟩ hsame⟩

theorem Mirrors.length (h : Mirrors tasks steps) : tasks.length = steps.length := List.Forall₂.length_eq h

theorem Mirrors.map {β : Type} (h : Mirrors tasks steps) (f : StableId → List StableId → β) :
    tasks.map (fun task => f task.taskId task.dependsOn) = steps.map fun step => f step.stepId step.dependsOn := by
  induction h with
  | nil => rfl
  | cons hab _ ih => rw [List.map_cons,List.map_cons,ih,hab.1,hab.2]

theorem Mirrors.childrenOf (h : Mirrors tasks steps) (id : StableId) :
    byText (Runs.childrenOf tasks id) = Workflows.childrenOf steps id := by
  have hchildren : Runs.childrenOf tasks id = (steps.filter fun step => id ∈ step.dependsOn).map (·.stepId) := by
    unfold Runs.childrenOf
    induction h with
    | nil => rfl
    | cons hab _ ih =>
      rw [List.filter_cons,List.filter_cons,hab.2]
      split_ifs
      · rw [List.map_cons,List.map_cons,hab.1,ih]
      · exact ih
  rw [hchildren]
  rfl

theorem Mirrors.indegree (h : Mirrors tasks steps) (id : StableId) :
    ((tasks.find? fun task => task.taskId = id).map (·.dependsOn.length)).getD 0 =
      ((steps.find? fun step => step.stepId = id).map (·.dependsOn.length)).getD 0 := by
  induction h with
  | nil => rfl
  | cons hab _ ih =>
    rw [List.find?_cons,List.find?_cons,hab.1]
    split
    · rw [Option.map_some,Option.map_some,hab.2]
    · exact ih

def TaskTraversal.view (t : TaskTraversal) : Traversal := ⟨t.ready,t.depth,t.indegree,t.visited⟩

theorem view_foldl (id : StableId) (ids : List StableId) (t : TaskTraversal) :
    (ids.foldl (TaskTraversal.reach id) t).view = ids.foldl (Traversal.reach id) t.view := by
  induction ids generalizing t with
  | nil => rfl
  | cons child rest ih => exact ih (t.reach id child)

theorem Mirrors.run (h : Mirrors tasks steps) (rounds : ℕ) (t : TaskTraversal) :
    (TaskTraversal.run tasks rounds t).view = Traversal.run steps rounds t.view := by
  induction rounds generalizing t with
  | zero => rfl
  | succ rounds ih =>
    obtain ⟨ready,depth,degree,visited⟩ := t
    cases ready with
    | nil => rfl
    | cons id rest =>
      refine (ih _).trans ?_
      rw [view_foldl,h.childrenOf id]
      rfl

theorem Mirrors.graphShape (h : Mirrors tasks steps) (hids : (stepIds steps).Nodup) (hknown : Known steps)
    [Decidable (Cyclic steps)] : Runs.graphShape tasks =
      if Cyclic steps then none else some ((measured steps).depth,(measured steps).maxFanout) := by
  have hfanout : (tasks.map fun task => (Runs.childrenOf tasks task.taskId).length) =
      steps.map fun step => (Workflows.childrenOf steps step.stepId).length := by
    rw [← h.map fun id _ => (Workflows.childrenOf steps id).length]
    exact List.map_congr_left fun task _ => by rw [← h.childrenOf,byText,List.length_insertionSort]
  have hend : TaskTraversal.view (TaskTraversal.run tasks tasks.length
      ⟨byText ((tasks.map (·.taskId)).filter fun id =>
        ((tasks.find? fun task => task.taskId = id).map (·.dependsOn.length)).getD 0 = 0),fun _ => 1,
        fun id => ((tasks.find? fun task => task.taskId = id).map (·.dependsOn.length)).getD 0,[]⟩) =
      topologicalStats steps := by
    rw [h.run,h.length,h.map fun id _ => id]
    simp only [h.indegree,TaskTraversal.view]
    rfl
  unfold Runs.graphShape
  dsimp only
  rw [hfanout]
  generalize TaskTraversal.run tasks tasks.length _ = t at hend ⊢
  have hvisited : t.visited = (topologicalStats steps).visited := congrArg Traversal.visited hend
  have hdepth : t.depth = (topologicalStats steps).longest := congrArg Traversal.longest hend
  rw [hvisited,hdepth,h.length,h.map fun id _ => (topologicalStats steps).longest id]
  simp only [ne_eq,visited_all hids,cyclic_iff hids hknown]
  rfl

namespace Fixture

def tasksOf (steps : List WorkflowStep) : List TaskRef := steps.map fun step =>
  ⟨step.stepId,⟨"job:fan",by decide +kernel⟩,⟨"1.0.0",Workflows.Fan.version_isVersion⟩,Workflows.Fan.source,step.dependsOn,step.notSelf,
    step.dependenciesUnique⟩

theorem tasksOf_corresponds (steps : List WorkflowStep) :
    ∃ listed, steps.Perm listed ∧ List.Forall₂ Corresponds (tasksOf steps) listed :=
  ⟨steps,.refl _,List.forall₂_map_left_iff.mpr (List.forall₂_same.mpr fun _ _ => ⟨rfl,.refl _⟩)⟩

end Fixture

end Arbora.Runs
