import Arbora.Invoke.Steps

/-! What the compatibility gate says of authority: whether every caller of a published operation is still let through. -/
namespace Arbora.Invoke
open Arbora.Api

def Authenticated (caller : VerifiedCaller) : Prop :=
  caller.authenticated = true ∧ (caller.principalKind = "human" ∨ caller.principalKind = "service")
def Admits (op : OpSpec) (caller : VerifiedCaller) : Prop := principalRule op caller = none ∧ requireScopes op caller = none

/-- Every published operation is still there, for every caller that it has let through. -/
def Compatible (baseline current : Operations) : Prop :=
  ∀ id old, baseline.get id = some old → ∃ new, current.get id = some new ∧
    ∀ caller, Authenticated caller → Admits old caller → Admits new caller

/-- A move from a rule to one that is as wide and lets other callers through. -/
def Crosses (old new : PrincipalRule) : Prop :=
  old ≠ new ∧ new = .serviceOnly ∧ old ≠ .any ∨ old = .serviceOnly ∧ new = .human

def Crossing (baseline current : Operations) : Prop :=
  ∃ id old new, baseline.get id = some old ∧ current.get id = some new ∧ Crosses old.principals new.principals

def Broken (baseline current : Operations) : Prop :=
  ∃ id old, baseline.get id = some old ∧ ∀ new, current.get id = some new →
    (∃ scope ∈ new.scopes, scope ∉ old.scopes) ∨ principalWidth new.principals < principalWidth old.principals

/-- Whether a rule lets a kind of caller through. -/
def ruleAllows : PrincipalRule → Bool → Bool → Bool
  | .any, _, _ => true
  | .human, service, _ => !service
  | .humanUndelegated, service, delegated => !service && !delegated
  | .serviceOnly, service, _ => service

variable {op : OpSpec} {caller : VerifiedCaller} {baseline current : Operations}

theorem principalRule_iff :
    principalRule op caller = none ↔ ruleAllows op.principals (caller.principalKind == "service") caller.delegated = true := by
  unfold principalRule ruleAllows
  cases op.principals <;> simp

theorem requireScopes_iff : requireScopes op caller = none ↔ ∀ scope ∈ op.scopes, scope ∈ caller.effectiveScopes := by
  refine ⟨requireScopes_none,fun h => ?_⟩
  have hnone : op.scopes.filter (fun scope => !caller.effectiveScopes.contains scope) = [] := by
    rw [List.filter_eq_nil_iff]
    intro scope hscope
    simpa using h scope hscope
  unfold requireScopes
  rw [hnone]
  rfl

theorem ruleAllows_le {old new : PrincipalRule} :
    (∀ service delegated, ruleAllows old service delegated = true → ruleAllows new service delegated = true) ↔
      principalWidth old ≤ principalWidth new ∧ ¬Crosses old new := by
  unfold Crosses
  cases old <;> cases new <;> decide

def callerOf (service delegated : Bool) (scopes : List String) : VerifiedCaller where
  principal := "alice"
  tenant := "acme"
  effectiveScopes := scopes
  engineClaims := .dict [("principal",.str "alice"),("tenant",.str "acme"),("scopes",.tuple (scopes.map .str)),
    ("policy_version",.str "1"),("delegation",.bool delegated)]
  principalKind := if service then "service" else "human"
  authenticated := true
  delegated := delegated
  credentialKind := "oidc"
  policyRevision := "1"

theorem authenticated_callerOf (service delegated : Bool) (scopes : List String) :
    Authenticated (callerOf service delegated scopes) := by
  cases service
  · exact ⟨rfl,.inl rfl⟩
  · exact ⟨rfl,.inr rfl⟩

theorem callerOf_kind (service delegated : Bool) (scopes : List String) :
    ((callerOf service delegated scopes).principalKind == "service") = service := by
  cases service with
  | false => exact beq_false_of_ne (by decide : "human" ≠ "service")
  | true => exact beq_self_eq_true "service"

theorem ruleAllows_some (rule : PrincipalRule) : ∃ service, ruleAllows rule service false = true := by
  cases rule with
  | any => exact ⟨false,rfl⟩
  | human => exact ⟨false,rfl⟩
  | humanUndelegated => exact ⟨false,rfl⟩
  | serviceOnly => exact ⟨true,rfl⟩

theorem admits_callerOf {service delegated : Bool}
    (h : ruleAllows op.principals service delegated = true) : Admits op (callerOf service delegated op.scopes) := by
  refine ⟨principalRule_iff.mpr ?_,requireScopes_iff.mpr fun _ hscope => hscope⟩
  rw [callerOf_kind]
  exact h

theorem admits_le {old new : OpSpec} : (∀ caller, Authenticated caller → Admits old caller → Admits new caller) ↔
    (∀ scope ∈ new.scopes, scope ∈ old.scopes) ∧
      principalWidth old.principals ≤ principalWidth new.principals ∧ ¬Crosses old.principals new.principals := by
  rw [← ruleAllows_le]
  constructor
  · intro h
    refine ⟨?_,?_⟩
    · obtain ⟨service,hallows⟩ := ruleAllows_some old.principals
      exact requireScopes_iff.mp (h _ (authenticated_callerOf _ _ _) (admits_callerOf hallows)).2
    · intro service delegated hallows
      have hnew := principalRule_iff.mp (h _ (authenticated_callerOf _ _ _) (admits_callerOf hallows)).1
      rwa [callerOf_kind] at hnew
  · rintro ⟨hscopes,hrule⟩ caller _ ⟨hold,hhas⟩
    refine ⟨principalRule_iff.mpr (hrule _ _ (principalRule_iff.mp hold)),requireScopes_iff.mpr ?_⟩
    intro scope hscope
    exact requireScopes_iff.mp hhas scope (hscopes scope hscope)

theorem broken_iff : Broken baseline current ↔ (diffBackwardCompat baseline current).found = true := by
  rw [← Bool.not_eq_false,diffBackwardCompat_found]
  unfold Broken
  push Not
  simp only [or_iff_not_imp_left,not_exists,not_and,not_not]

theorem compatible_iff : Compatible baseline current ↔
    (diffBackwardCompat baseline current).found = false ∧ ¬Crossing baseline current := by
  rw [diffBackwardCompat_found]
  unfold Compatible
  simp only [admits_le]
  constructor
  · intro h
    refine ⟨?_,?_⟩
    · intro id old hold
      obtain ⟨new,hnew,hscopes,hwidth,_⟩ := h id old hold
      exact ⟨new,hnew,hscopes,hwidth⟩
    · rintro ⟨id,old,new,hold,hnew,hcrosses⟩
      obtain ⟨new',hnew',_,_,hstays⟩ := h id old hold
      rw [hnew] at hnew'
      cases hnew'
      exact hstays hcrosses
  · rintro ⟨h,hcrossing⟩ id old hold
    obtain ⟨new,hnew,hscopes,hwidth⟩ := h id old hold
    exact ⟨new,hnew,hscopes,hwidth,fun hcrosses => hcrossing ⟨id,old,new,hold,hnew,hcrosses⟩⟩

/-- The gate tells compatible registries from others exactly where no rule crosses, or something else is broken. -/
theorem gate_exact_iff (baseline current : Operations) :
    ((diffBackwardCompat baseline current).found = false ↔ Compatible baseline current) ↔
      (Crossing baseline current → Broken baseline current) := by
  rw [compatible_iff,broken_iff]
  cases (diffBackwardCompat baseline current).found <;> simp

/-- An operation for humans, and then for services. -/
def disable (principals : PrincipalRule) : OpSpec := { id := "identity.users.disable", params := .unbound, principals := principals }

def published (principals : PrincipalRule) : Operations := (∅ : Operations).set "identity.users.disable" (disable principals)

/-- The gate passes where all human callers are locked out. -/
theorem lockout_passes : ¬∀ baseline current : Operations,
    (diffBackwardCompat baseline current).found = false ↔ Compatible baseline current := by
  intro h
  have hpass : (diffBackwardCompat (published .human) (published .serviceOnly)).found = false := by decide +kernel
  obtain ⟨new,hnew,hadmits⟩ := (h _ _).mp hpass "identity.users.disable" (disable .human) rfl
  cases hnew
  have hhuman : Admits (disable .human) (callerOf false false []) := admits_callerOf rfl
  have hservice := principalRule_iff.mp (hadmits _ (authenticated_callerOf _ _ _) hhuman).1
  cases hservice

-- the caller is one that every transport lets in
example : authenticate (some (callerOf false false [])) = none := by decide +kernel
end Arbora.Invoke
