import Arbora.Workflows.ReleaseHistory
import Arbora.Lib.JsonReader
import Arbora.Lib.Keyset

/-! What the digest of a workflow definition forgets: the order of the steps and of the dependencies of each, and nothing
else. -/
namespace Arbora.Workflows
open Json (Document sorted_inj perm_of_sorted_eq natural_injective writeAscii writeAscii_injective)
open Keyset (sortBy sortBy_perm sortBy_eq_of_perm)
open PolicyPlane (StableId canonicalDigest)

@[simp] theorem string_inj {p : String → Prop} {a b : {text : String // p text}} :
    Document.string a.1 = .string b.1 ↔ a = b := by
  rw [Document.string.injEq,Subtype.coe_inj]

theorem ArtifactRef.document_injective : Function.Injective ArtifactRef.document := by
  intro a b h
  have hmembers := sorted_inj h (by simp) (by simp)
  simp only [List.cons.injEq,Prod.mk.injEq,true_and,and_true,string_inj] at hmembers
  obtain ⟨ref,digest⟩ := a
  obtain ⟨rfl,rfl⟩ := hmembers
  rfl

theorem BindingKind.value_injective : Function.Injective BindingKind.value := by
  intro a b
  cases a <;> cases b <;> decide

theorem ApprovedBinding.document_injective : Function.Injective ApprovedBinding.document := by
  intro a b h
  have hmembers := sorted_inj h (by simp) (by simp)
  simp only [List.cons.injEq,Prod.mk.injEq,true_and,and_true,Document.string.injEq,
    BindingKind.value_injective.eq_iff,Subtype.coe_inj] at hmembers
  obtain ⟨hkind,hid,hversion,hdigest⟩ := hmembers
  exact ApprovedBinding.ext hkind hid hversion hdigest

theorem artifacts_inj {l l' : List ArtifactRef} :
    Document.array (l.map (·.document)) = .array (l'.map (·.document)) ↔ l = l' := by
  rw [Document.array.injEq,(List.map_injective_iff.mpr ArtifactRef.document_injective).eq_iff]

theorem StepContract.document_injective : Function.Injective StepContract.document := by
  intro a b h
  have hmembers := sorted_inj h (by simp) (by simp)
  simp only [List.cons.injEq,Prod.mk.injEq,true_and,and_true,Document.string.injEq,Subtype.coe_inj,
    ArtifactRef.document_injective.eq_iff,artifacts_inj] at hmembers
  obtain ⟨id,input,output,inputs,outputs,_,_⟩ := a
  obtain ⟨rfl,rfl,rfl,rfl,rfl⟩ := hmembers
  rfl

theorem WorkflowBudget.document_injective : Function.Injective WorkflowBudget.document := by
  intro a b h
  have hmembers := sorted_inj h (by simp) (by simp)
  simp only [List.cons.injEq,Prod.mk.injEq,true_and,and_true,natural_injective.eq_iff] at hmembers
  obtain ⟨hsteps,hdepth,hfanout,hcalls,htokens,hseconds,hcost⟩ := hmembers
  exact WorkflowBudget.ext hsteps hdepth hfanout hcalls htokens hseconds hcost

theorem dependencies_eq_iff {l l' : List StableId} (hl : l.Nodup) :
    Document.array ((l.insertionSort fun a b => a.1 ≤ b.1).map fun d => .string d) =
      .array ((l'.insertionSort fun a b => a.1 ≤ b.1).map fun d => .string d) ↔ l.Perm l' := by
  have hstring : Function.Injective fun d : StableId => Document.string d.1 := fun _ _ h => string_inj.mp h
  simp only [Document.array.injEq,List.bind_eq_flatMap,List.pure_def,← List.map_eq_flatMap,List.map_map,
    Function.comp_def,(List.map_injective_iff.mpr hstring).eq_iff]
  constructor
  · intro h
    exact (List.perm_insertionSort _ l).symm.trans (h ▸ List.perm_insertionSort _ l')
  · intro h
    exact sortBy_eq_of_perm h (hl.map Subtype.val_injective)

/-- Two steps that differ in the order of their dependencies at most. -/
structure WorkflowStep.Reordered (s t : WorkflowStep) : Prop where
  stepId : s.stepId = t.stepId
  binding : s.binding = t.binding
  contract : s.contract = t.contract
  dependsOn : s.dependsOn.Perm t.dependsOn
  policyBinding : s.policyBinding = t.policyBinding
  summary : s.summary = t.summary

theorem WorkflowStep.document_eq_iff {s t : WorkflowStep} : s.document = t.document ↔ s.Reordered t := by
  have hdependencies := @dependencies_eq_iff s.dependsOn t.dependsOn s.dependenciesUnique
  constructor
  · intro h
    have hlength := (perm_of_sorted_eq h).length_eq
    unfold document at h
    cases hs : s.policyBinding with
    | none =>
      cases ht : t.policyBinding with
      | none =>
        rw [hs,ht] at h
        have hmembers := sorted_inj h (by simp) (by simp)
        simp only [Option.map_none,Option.toList_none,List.append_nil,List.cons.injEq,Prod.mk.injEq,true_and,
          and_true,Document.string.injEq,Subtype.coe_inj,ApprovedBinding.document_injective.eq_iff,
          StepContract.document_injective.eq_iff,hdependencies] at hmembers
        obtain ⟨hid,hbinding,hcontract,hdepends,hsummary⟩ := hmembers
        exact ⟨hid,hbinding,hcontract,hdepends,hs.trans ht.symm,hsummary⟩
      | some b =>
        rw [hs,ht] at hlength
        cases hlength
    | some b =>
      cases ht : t.policyBinding with
      | none =>
        rw [hs,ht] at hlength
        cases hlength
      | some b' =>
        rw [hs,ht] at h
        have hmembers := sorted_inj h (by simp) (by simp)
        simp only [Option.map_some,Option.toList_some,List.cons_append,List.nil_append,List.cons.injEq,
          Prod.mk.injEq,true_and,and_true,Document.string.injEq,Subtype.coe_inj,
          ApprovedBinding.document_injective.eq_iff,StepContract.document_injective.eq_iff,hdependencies] at hmembers
        obtain ⟨hid,hbinding,hcontract,hdepends,hsummary,hpolicy⟩ := hmembers
        exact ⟨hid,hbinding,hcontract,hdepends,by rw [hs,ht,hpolicy],hsummary⟩
  · intro h
    unfold document
    rw [h.stepId,h.binding,h.contract,h.policyBinding,h.summary,hdependencies.mpr h.dependsOn]

def canonicalSteps (steps : List WorkflowStep) : List Document :=
  (sortBy (fun step => step.stepId.1) steps).map (·.document)

/-- Lists of steps that differ in their order and in that of the dependencies at most. -/
def ReorderedSteps (steps steps' : List WorkflowStep) : Prop :=
  ∃ middle, steps.Perm middle ∧ List.Forall₂ WorkflowStep.Reordered middle steps'

variable {l l' : List WorkflowStep}

theorem orderedInsert_reordered {s s' : WorkflowStep} (hs : s.Reordered s')
    (hl : List.Forall₂ WorkflowStep.Reordered l l') :
    List.Forall₂ WorkflowStep.Reordered (l.orderedInsert (fun a b => a.stepId.1 ≤ b.stepId.1) s)
      (l'.orderedInsert (fun a b => a.stepId.1 ≤ b.stepId.1) s') := by
  induction hl with
  | nil => exact .cons hs .nil
  | cons hfirst hrest ih =>
    rw [List.orderedInsert_cons,List.orderedInsert_cons,hs.stepId,hfirst.stepId]
    split_ifs with hle
    · exact .cons hs (.cons hfirst hrest)
    · exact .cons hfirst ih

theorem sortBy_reordered (h : List.Forall₂ WorkflowStep.Reordered l l') :
    List.Forall₂ WorkflowStep.Reordered (sortBy (fun step => step.stepId.1) l)
      (sortBy (fun step => step.stepId.1) l') := by
  induction h with
  | nil => exact .nil
  | cons hfirst _ ih => exact orderedInsert_reordered hfirst ih

theorem forall₂_document : l.map (·.document) = l'.map (·.document) ↔ List.Forall₂ WorkflowStep.Reordered l l' := by
  rw [← List.forall₂_eq_eq_eq,List.forall₂_map_left_iff,List.forall₂_map_right_iff]
  simp only [WorkflowStep.document_eq_iff]

theorem canonicalSteps_eq_iff (hids : (l.map (·.stepId)).Nodup) :
    canonicalSteps l = canonicalSteps l' ↔ ReorderedSteps l l' := by
  unfold canonicalSteps
  rw [forall₂_document]
  constructor
  · intro h
    have hcomp : Relation.Comp (List.Forall₂ WorkflowStep.Reordered) List.Perm (sortBy (fun step => step.stepId.1) l) l' :=
      ⟨_,h,sortBy_perm l'⟩
    rw [List.forall₂_comp_perm_eq_perm_comp_forall₂] at hcomp
    obtain ⟨middle,hperm,hmiddle⟩ := hcomp
    exact ⟨middle,(sortBy_perm l).symm.trans hperm,hmiddle⟩
  · rintro ⟨middle,hperm,hmiddle⟩
    have hkeys : (l.map fun step => step.stepId.1).Nodup := by
      have hvalues := hids.map Subtype.val_injective
      rwa [List.map_map] at hvalues
    rw [sortBy_eq_of_perm hperm hkeys]
    exact sortBy_reordered hmiddle

/-- Two definitions that differ in the order of the steps and of their dependencies at most. -/
structure WorkflowDefinition.Reordered (a b : WorkflowDefinition) : Prop where
  workflowId : a.workflowId = b.workflowId
  templateId : a.templateId = b.templateId
  templateDigest : a.templateDigest = b.templateDigest
  version : a.version = b.version
  policyBinding : a.policyBinding = b.policyBinding
  budget : a.budget = b.budget
  policyBudget : a.policyBudget = b.policyBudget
  steps : ReorderedSteps a.steps b.steps
  summary : a.summary = b.summary

theorem WorkflowDefinition.canonical_eq_iff {a b : WorkflowDefinition} : a.canonical = b.canonical ↔ a.Reordered b := by
  have hsteps : Document.array (canonicalSteps a.steps) = .array (canonicalSteps b.steps) ↔
      ReorderedSteps a.steps b.steps := by
    rw [Document.array.injEq,canonicalSteps_eq_iff a.stepsUnique]
  constructor
  · intro h
    have hmembers := sorted_inj h (by simp) (by simp)
    simp only [List.cons.injEq,Prod.mk.injEq,true_and,and_true,Document.string.injEq,Subtype.coe_inj,
      ApprovedBinding.document_injective.eq_iff,WorkflowBudget.document_injective.eq_iff] at hmembers
    obtain ⟨hworkflow,htemplate,hdigest,hversion,hpolicy,hbudget,hpolicyBudget,hlisted,hsummary⟩ := hmembers
    exact ⟨hworkflow,htemplate,hdigest,hversion,hpolicy,hbudget,hpolicyBudget,hsteps.mp hlisted,hsummary⟩
  · intro h
    have hlisted := hsteps.mpr h.steps
    unfold canonicalSteps sortBy at hlisted
    unfold canonical
    rw [h.workflowId,h.templateId,h.templateDigest,h.version,h.policyBinding,h.budget,h.policyBudget,h.summary,
      hlisted]

def CollisionFree (a b : WorkflowDefinition) : Prop :=
  canonicalDigest a.canonical = canonicalDigest b.canonical → writeAscii a.canonical = writeAscii b.canonical

/-- Definitions have one digest iff they are the same but for the order of the steps and of the dependencies. -/
theorem definition_digest_eq_iff (a b : WorkflowDefinition) (hfree : CollisionFree a b) :
    a.definitionDigest = b.definitionDigest ↔ a.Reordered b := by
  rw [← WorkflowDefinition.canonical_eq_iff]
  constructor
  · intro h
    exact writeAscii_injective (hfree h)
  · intro h
    exact congrArg canonicalDigest h

namespace Sample

theorem one_dependency : [step.stepId].Nodup := List.nodup_singleton _

def later : WorkflowStep where
  stepId := ⟨"report",by decide +kernel⟩
  binding := binding .skill
  contract := step.contract
  dependsOn := [step.stepId]
  dependenciesUnique := one_dependency
  notSelf := by decide +kernel
  executable := by decide
  policyKind := step.policyKind

def forward : WorkflowDefinition := { first with
  steps := [step,later]
  lengths := by decide
  stepsUnique := by decide +kernel
  dependenciesKnown := by decide +kernel
  graphBounded := by decide +kernel }

def backward : WorkflowDefinition := { first with
  steps := [later,step]
  lengths := by decide
  stepsUnique := by decide +kernel
  dependenciesKnown := by decide +kernel
  graphBounded := by decide +kernel }

theorem forward_reordered : forward.Reordered backward where
  workflowId := rfl
  templateId := rfl
  templateDigest := rfl
  version := rfl
  policyBinding := rfl
  budget := rfl
  policyBudget := rfl
  steps := ⟨[later,step],List.Perm.swap _ _ _,List.forall₂_same.mpr fun _ _ => ⟨rfl,rfl,rfl,.refl _,rfl,rfl⟩⟩
  summary := rfl

end Sample

theorem reversed_steps_one_digest : Sample.forward.definitionDigest = Sample.backward.definitionDigest ↔
    Sample.forward.Reordered Sample.backward := by
  apply definition_digest_eq_iff
  intro _
  rw [WorkflowDefinition.canonical_eq_iff.mpr Sample.forward_reordered]

end Arbora.Workflows
