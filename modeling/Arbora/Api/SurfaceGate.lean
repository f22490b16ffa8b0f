import Arbora.Lib.Dict
import Mathlib.Data.List.Dedup
import Mathlib.Data.List.Sort
import Mathlib.Data.String.Basic

/-! Declarations of the operation registry, with the fields the policy gate and the invoke
pipeline read. -/
namespace Arbora.Api

inductive Executor where
  | caller | service
  deriving DecidableEq

def Executor.value : Executor → String
  | .caller => "caller" | .service => "service"

inductive Effect where
  | read | write | destructive | admin
  deriving DecidableEq

def Effect.value : Effect → String
  | .read => "read" | .write => "write" | .destructive => "destructive" | .admin => "admin"

inductive PrincipalRule where
  | any | human | humanUndelegated | serviceOnly
  deriving DecidableEq

def PrincipalRule.value : PrincipalRule → String
  | .any => "any" | .human => "human" | .humanUndelegated => "human_undelegated"
  | .serviceOnly => "service_only"

inductive Confirm where
  | none | plan | console
  deriving DecidableEq

def Confirm.value : Confirm → String
  | .none => "none" | .plan => "plan" | .console => "console"

inductive Surface where
  | mcp | http | a2a | console
  deriving DecidableEq

def Surface.value : Surface → String
  | .mcp => "mcp" | .http => "http" | .a2a => "a2a" | .console => "console"

inductive Idempotency where
  | keyRequired | natural | none
  deriving DecidableEq

inductive AuditClass where
  | none | event | identityChain
  deriving DecidableEq

inductive SubjectRef where
  | param (path : String)
  | callerTenant

inductive ParamsBinding where
  | model (name : String)
  | egSchema (path : String)
  | unbound

structure OpSpec where
  id : String
  params : ParamsBinding
  executor : Executor := .caller
  scopes : List String := []
  executorScopes : List String := []
  subject : Option SubjectRef := none
  effect : Effect := .read
  principals : PrincipalRule := .any
  confirm : Confirm := .none
  surfaces : List Surface := [.mcp,.http,.a2a]
  idempotency : Idempotency := .none
  audit : AuditClass := .none

/-! The gate that compares a reviewed baseline of the operations with the current ones. -/

def principalWidth : PrincipalRule → ℕ
  | .any => 3
  | .human => 2
  | .serviceOnly => 2
  | .humanUndelegated => 1

/-- The incompatible narrowings of published operations. -/
structure CompatBreak where
  (removedOps narrowedScopes narrowedPrincipals : List String)

def CompatBreak.found (b : CompatBreak) : Bool :=
  b.removedOps ≠ [] || b.narrowedScopes ≠ [] || b.narrowedPrincipals ≠ []

abbrev Operations := Dict String OpSpec

def comparing (baseline current : Operations) (test : OpSpec → Option OpSpec → Bool) : List String :=
  ((baseline.entries.filter fun entry => test entry.2 (current.get entry.1)).map Sigma.fst).insertionSort (· ≤ ·)
def scopesNarrowed (old new : OpSpec) : Bool := new.scopes.any fun scope => scope ∉ old.scopes
def principalsNarrowed (old new : OpSpec) : Bool := principalWidth new.principals < principalWidth old.principals

def diffBackwardCompat (baseline current : Operations) : CompatBreak where
  removedOps := comparing baseline current fun _ new => new.isNone
  narrowedScopes := comparing baseline current fun old new => new.any (scopesNarrowed old)
  narrowedPrincipals := comparing baseline current fun old new => new.any (principalsNarrowed old)

theorem comparing_nil {baseline current : Operations} {test : OpSpec → Option OpSpec → Bool} :
    comparing baseline current test = [] ↔ ∀ id old, baseline.get id = some old → test old (current.get id) = false := by
  have hperm := List.perm_insertionSort (· ≤ ·)
    ((baseline.entries.filter fun entry => test entry.2 (current.get entry.1)).map Sigma.fst)
  unfold comparing
  rw [← List.length_eq_zero_iff,hperm.length_eq,List.length_eq_zero_iff,List.map_eq_nil_iff,List.filter_eq_nil_iff]
  constructor
  · intro h id old hold
    exact Bool.eq_false_iff.mpr (h ⟨id,old⟩ (AList.mem_lookup_iff.mp hold))
  · intro h entry hentry
    exact Bool.eq_false_iff.mp (h entry.1 entry.2 (AList.mem_lookup_iff.mpr hentry))

theorem diffBackwardCompat_found {baseline current : Operations} :
    (diffBackwardCompat baseline current).found = false ↔ ∀ id old, baseline.get id = some old →
      ∃ new, current.get id = some new ∧ (∀ scope ∈ new.scopes, scope ∈ old.scopes) ∧
        principalWidth old.principals ≤ principalWidth new.principals := by
  have hsplit : (diffBackwardCompat baseline current).found = false ↔
      (diffBackwardCompat baseline current).removedOps = [] ∧ (diffBackwardCompat baseline current).narrowedScopes = [] ∧
        (diffBackwardCompat baseline current).narrowedPrincipals = [] := by
    simp [CompatBreak.found,and_assoc]
  rw [hsplit]
  unfold diffBackwardCompat
  simp only [comparing_nil]
  constructor
  · rintro ⟨hremoved,hscopes,hprincipals⟩ id old hold
    have hthere := hremoved id old hold
    have hscope := hscopes id old hold
    have hprincipal := hprincipals id old hold
    cases hnew : current.get id with
    | none => simp [hnew] at hthere
    | some new =>
      refine ⟨new,rfl,?_,?_⟩
      · simpa [hnew,scopesNarrowed] using hscope
      · simpa [hnew,principalsNarrowed] using hprincipal
  · intro h
    refine ⟨?_,?_,?_⟩
    · intro id old hold
      obtain ⟨new,hnew,_⟩ := h id old hold
      simp [hnew]
    · intro id old hold
      obtain ⟨new,hnew,hscope,_⟩ := h id old hold
      simpa [hnew,scopesNarrowed] using hscope
    · intro id old hold
      obtain ⟨new,hnew,_,hprincipal⟩ := h id old hold
      simpa [hnew,principalsNarrowed] using hprincipal

end Arbora.Api
