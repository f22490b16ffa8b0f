import Arbora.Agents.Service
import Arbora.Lib.Keyset

/-! Which requests are resolved: all that a release admits, but for the bounds that plans and projections put on the
number of its bindings. -/
namespace Arbora.Agents
open Checks
namespace AgentControlPlane

structure Offered (repository : AgentRepository) (request : AgentResolutionRequest) (pointer : AgentReleasePointer)
    (version : AgentVersion) (approval : ApprovalRecord) : Prop where
  byChannel : ∀ channel, request.channel = some channel →
    repository.getReleasePointer request.scope request.agentId channel = .ok (some pointer) ∧ pointer.channel = channel
  byVersion : ∀ versionId, request.versionId = some versionId →
    repository.getReleasePointerForVersion request.scope request.agentId versionId = .ok (some pointer) ∧
      pointer.versionId = versionId
  agent : pointer.agentId = request.agentId
  release : repository.getVersion request.scope pointer.versionId = .ok (some version)
  owner : version.agentId = request.agentId
  approval : repository.getApproval request.scope version.agentId version.versionId request.approvalId =
    .ok (some approval)

structure InForce (request : AgentResolutionRequest) (pointer : AgentReleasePointer) (version : AgentVersion)
    (approval : ApprovalRecord) : Prop where
  agent : approval.agentId = version.agentId
  release : approval.versionId = version.versionId
  channel : approval.channel = pointer.channel
  outcome : approval.outcome = .approved
  requested : approval.approvalId = request.approvalId
  policies : approval.policySetDigest = version.policies.policySetDigest
  evaluation : approval.evaluationDigest = version.evaluation.evidenceDigest
  timely : ∃ approved now expires, parseTimestamp approval.approvedAt = some approved ∧
    parseTimestamp request.atTime = some now ∧ parseTimestamp approval.expiresAt = some expires ∧ approved ≤ now ∧
    now < expires

structure Within (request : AgentResolutionRequest) (version : AgentVersion) : Prop where
  known : ∀ bindingId ∈ askedBindings request version, bindingId ∈ version.bindings.bindingIds
  allowed : version.policies.team.allowedBindingIds ≠ [] →
    ∀ bindingId ∈ askedBindings request version, bindingId ∈ version.policies.team.allowedBindingIds
  team : ∀ teamRef, request.teamRef = some teamRef → teamRef = version.policies.team.teamRef
  members : request.teamMemberCount ≤ version.policies.team.maxMembers
  depth : request.delegationDepth ≤ version.policies.delegation.maxDepth
  children : request.delegationChildren ≤ version.policies.delegation.maxChildren
  delegated : request.requestedCostMicros ≤ version.policies.delegation.maxBudgetMicros
  tokens : request.requestedTokens ≤ version.policies.budget.maxTokens
  costMicros : request.requestedCostMicros ≤ version.policies.budget.maxCostMicros
  timeMs : request.requestedTimeMs ≤ version.policies.budget.maxTimeMs

structure Admissible (repository : AgentRepository) (request : AgentResolutionRequest) (pointer : AgentReleasePointer)
    (version : AgentVersion) (approval : ApprovalRecord) : Prop where
  offered : Offered repository request pointer version approval
  inForce : InForce request pointer version approval
  within : Within request version

section
variable {repository : AgentRepository} {request : AgentResolutionRequest} {pointer : AgentReleasePointer}
  {version : AgentVersion} {approval : ApprovalRecord}

theorem read_ok {α : Type} {answer : Except String α} {a : α} : read answer = .ok a ↔ answer = .ok a := by
  cases answer with
  | ok b =>
    constructor
    · intro h
      cases h
      rfl
    · intro h
      cases h
      rfl
  | error message =>
    constructor
    · intro h
      cases h
    · intro h
      cases h

theorem any_ne_iff {α : Type} [DecidableEq α] {o : Option α} {a : α} :
    ¬o.any (a ≠ ·) = true ↔ ∀ b, o = some b → a = b := by
  cases o with
  | none => simp
  | some b => simp

theorem readPointer_ok : readPointer repository request = .ok (some pointer) ↔
    (∀ channel, request.channel = some channel →
      repository.getReleasePointer request.scope request.agentId channel = .ok (some pointer)) ∧
    ∀ versionId, request.versionId = some versionId →
      repository.getReleasePointerForVersion request.scope request.agentId versionId = .ok (some pointer) := by
  have hone := request.oneSelector
  unfold readPointer
  cases hchannel : request.channel with
  | some channel =>
    cases hversion : request.versionId with
    | some versionId =>
      rw [hchannel,hversion] at hone
      exact (hone rfl).elim
    | none =>
      rw [read_ok]
      constructor
      · intro h
        constructor
        · intro other hother
          cases hother
          exact h
        · intro other hother
          cases hother
      · exact fun h => h.1 channel rfl
  | none =>
    cases hversion : request.versionId with
    | some versionId =>
      rw [read_ok]
      constructor
      · intro h
        constructor
        · intro other hother
          cases hother
        · intro other hother
          cases hother
          exact h
      · exact fun h => h.2 versionId rfl
    | none =>
      rw [hchannel,hversion] at hone
      exact (hone rfl).elim

theorem resolvePointerForRequest_ok : resolvePointerForRequest repository request = .ok pointer ↔
    readPointer repository request = .ok (some pointer) ∧ pointer.agentId = request.agentId ∧
    (∀ channel, request.channel = some channel → pointer.channel = channel) ∧
    ∀ versionId, request.versionId = some versionId → pointer.versionId = versionId := by
  simp only [resolvePointerForRequest,bind_ok,found_ok,refuse_ok,exists_const,any_ne_iff,ne_eq,not_not]
  constructor
  · rintro ⟨answer,hread,found,rfl,hagent,hchannel,hversion,⟨⟩⟩
    exact ⟨hread,hagent,hchannel,hversion⟩
  · rintro ⟨hread,hagent,hchannel,hversion⟩
    exact ⟨_,hread,pointer,rfl,hagent,hchannel,hversion,rfl⟩

theorem resolveVersionForPointer_ok {scope : AccessScope} {agentId : Identifier} :
    resolveVersionForPointer repository scope agentId pointer = .ok version ↔
    repository.getVersion scope pointer.versionId = .ok (some version) ∧ version.agentId = agentId := by
  simp only [resolveVersionForPointer,bind_ok,found_ok,refuse_ok,exists_const,read_ok,ne_eq,not_not]
  constructor
  · rintro ⟨answer,hread,found,rfl,hagent,⟨⟩⟩
    exact ⟨hread,hagent⟩
  · rintro ⟨hread,hagent⟩
    exact ⟨_,hread,version,rfl,hagent,rfl⟩

theorem approvalState_approved {agentId versionId : Identifier} {channel : ReleaseTrack} {atTime : Timestamp} :
    approvalState (some approval) agentId versionId channel (some atTime) = .approved ↔
    approval.agentId = agentId ∧ approval.versionId = versionId ∧ approval.channel = channel ∧
    approval.outcome = .approved ∧
    ∃ approved now expires, parseTimestamp approval.approvedAt = some approved ∧ parseTimestamp atTime = some now ∧
      parseTimestamp approval.expiresAt = some expires ∧ approved ≤ now ∧ now < expires := by
  unfold approvalState
  dsimp only
  by_cases hbound : approval.agentId ≠ agentId ∨ approval.versionId ≠ versionId ∨ approval.channel ≠ channel
  · rw [if_pos hbound]
    constructor
    · intro h
      cases h
    · rintro ⟨hagent,hversion,hchannel,-⟩
      exact (hbound.elim (· hagent) fun h => h.elim (· hversion) (· hchannel)).elim
  rw [if_neg hbound]
  simp only [not_or,ne_eq,not_not] at hbound
  by_cases houtcome : approval.outcome = .approved
  · rw [if_neg (not_not.mpr houtcome)]
    cases hexpires : parseTimestamp approval.expiresAt with
    | none => simp
    | some expires =>
      cases hnow : parseTimestamp atTime with
      | none => simp
      | some now =>
        cases happroved : parseTimestamp approval.approvedAt with
        | none => simp
        | some approved =>
          dsimp only
          split_ifs with hlate hearly
          · simp [not_lt.mpr hlate]
          · simp [not_le.mpr hearly]
          · simp [hbound,houtcome,not_lt.mp hearly,not_le.mp hlate]
  · rw [if_pos houtcome]
    simp [houtcome]

theorem validateApproval_ok {answer : Option ApprovalRecord} :
    validateApproval request pointer version answer = .ok approval ↔
    answer = some approval ∧ InForce request pointer version approval := by
  simp only [validateApproval,bind_ok,found_ok,refuse_ok,exists_const,ne_eq,not_or,not_not]
  constructor
  · rintro ⟨hmissing,hstale,hdenied,found,rfl,hrequested,⟨hpolicies,hevaluation⟩,⟨⟩⟩
    have happroved : approvalState (some approval) version.agentId version.versionId pointer.channel
        (some request.atTime) = .approved := by
      generalize approvalState (some approval) version.agentId version.versionId pointer.channel
        (some request.atTime) = state at hmissing hstale hdenied ⊢
      cases state with
      | missing => exact (hmissing rfl).elim
      | stale => exact (hstale rfl).elim
      | denied => exact (hdenied rfl).elim
      | approved => rfl
    obtain ⟨hagent,hversion,hchannel,houtcome,htimely⟩ := approvalState_approved.mp happroved
    exact ⟨rfl,hagent,hversion,hchannel,houtcome,hrequested,hpolicies,hevaluation,htimely⟩
  · rintro ⟨rfl,h⟩
    have happroved := approvalState_approved.mpr ⟨h.agent,h.release,h.channel,h.outcome,h.timely⟩
    rw [happroved]
    refine ⟨?_,?_,?_,approval,rfl,h.requested,⟨h.policies,h.evaluation⟩,rfl⟩
    · exact ApprovalState.noConfusion
    · exact ApprovalState.noConfusion
    · exact ApprovalState.noConfusion

variable {u : Unit} {selected : List Identifier}

theorem resolveSelectedBindings_ok : resolveSelectedBindings request version = .ok selected ↔
    (∀ bindingId ∈ askedBindings request version, bindingId ∈ version.bindings.bindingIds) ∧
      selected = askedBindings request version := by
  simp only [resolveSelectedBindings,bind_ok,refuse_ok,exists_const,Except.ok.injEq,List.any_eq_true,
    decide_eq_true_eq,not_exists,not_and,not_not]
  exact and_congr_right fun _ => eq_comm

theorem validateTeamPolicy_ok : validateTeamPolicy request version selected = .ok u ↔
    (version.policies.team.allowedBindingIds ≠ [] →
      ∀ bindingId ∈ selected, bindingId ∈ version.policies.team.allowedBindingIds) ∧
    (∀ teamRef, request.teamRef = some teamRef → teamRef = version.policies.team.teamRef) ∧
    request.teamMemberCount ≤ version.policies.team.maxMembers := by
  simp only [validateTeamPolicy,bind_ok,refuse_ok,exists_const,List.any_eq_true,Option.any_eq_true,
    decide_eq_true_eq,not_exists,not_and,not_not,not_lt]

theorem validateDelegationPolicy_ok : validateDelegationPolicy request version = .ok u ↔
    request.delegationDepth ≤ version.policies.delegation.maxDepth ∧
    request.delegationChildren ≤ version.policies.delegation.maxChildren ∧
    request.requestedCostMicros ≤ version.policies.delegation.maxBudgetMicros := by
  simp only [validateDelegationPolicy,bind_ok,refuse_ok,exists_const,not_lt]

theorem validateBudgetPolicy_ok : validateBudgetPolicy request version = .ok u ↔
    request.requestedTokens ≤ version.policies.budget.maxTokens ∧
    request.requestedCostMicros ≤ version.policies.budget.maxCostMicros ∧
    request.requestedTimeMs ≤ version.policies.budget.maxTimeMs := by
  simp only [validateBudgetPolicy,bind_ok,refuse_ok,exists_const,not_lt]

theorem validateRequest_ok : validateRequest request version = .ok selected ↔
    Within request version ∧ selected = byText (askedBindings request version) := by
  simp only [validateRequest,bind_ok,resolveSelectedBindings_ok,validateTeamPolicy_ok,validateDelegationPolicy_ok,
    validateBudgetPolicy_ok,exists_const]
  constructor
  · rintro ⟨asked,⟨hknown,rfl⟩,⟨hallowed,hteam,hmembers⟩,⟨hdepth,hchildren,hdelegated⟩,⟨htokens,hcost,htime⟩,⟨⟩⟩
    exact ⟨⟨hknown,hallowed,hteam,hmembers,hdepth,hchildren,hdelegated,htokens,hcost,htime⟩,rfl⟩
  · rintro ⟨h,rfl⟩
    exact ⟨_,⟨h.known,rfl⟩,⟨h.allowed,h.team,h.members⟩,⟨h.depth,h.children,h.delegated⟩,
      ⟨h.tokens,h.costMicros,h.timeMs⟩,rfl⟩

end

section
variable {repository : AgentRepository} {request : AgentResolutionRequest} {pointer : AgentReleasePointer}
  {version : AgentVersion} {approval : ApprovalRecord}

def Governed (x : Raised) : Prop := x.kind = .agentResolution ∨ x.kind = .repositoryContract

theorem governed_unresolved (code : String) : Governed (unresolved code) := .inl rfl
theorem governed_broken (message : String) : Governed (broken message) := .inr rfl

theorem raises_read {α : Type} (answer : Except String α) : Raises Governed (read answer) := by
  cases answer with
  | ok a => exact raises_ok a
  | error message => exact raises_error (governed_broken message)

theorem raises_pointer : Raises Governed (resolvePointerForRequest repository request) := by
  have hread : Raises Governed (readPointer repository request) := by
    unfold readPointer
    split
    · exact raises_read _
    · exact raises_read _
    · exact raises_ok _
  refine hread.bind fun answer _ => (raises_found (governed_unresolved _)).bind fun pointer _ => ?_
  refine (raises_refuse (governed_broken _)).bind fun _ _ => (raises_refuse (governed_broken _)).bind fun _ _ => ?_
  exact (raises_refuse (governed_unresolved _)).bind fun _ _ => raises_ok _

theorem raises_version {scope : AccessScope} {agentId : Identifier} :
    Raises Governed (resolveVersionForPointer repository scope agentId pointer) :=
  (raises_read _).bind fun _ _ => (raises_found (governed_unresolved _)).bind fun _ _ =>
    (raises_refuse (governed_broken _)).bind fun _ _ => raises_ok _

theorem raises_approval {answer : Option ApprovalRecord} :
    Raises Governed (validateApproval request pointer version answer) := by
  refine (raises_refuse (governed_unresolved _)).bind fun _ _ => (raises_refuse (governed_unresolved _)).bind fun _ _ => ?_
  refine (raises_refuse (governed_unresolved _)).bind fun _ _ => (raises_found (governed_unresolved _)).bind fun _ _ => ?_
  exact (raises_refuse (governed_unresolved _)).bind fun _ _ =>
    (raises_refuse (governed_unresolved _)).bind fun _ _ => raises_ok _

theorem raises_request : Raises Governed (validateRequest request version) := by
  have hthree {c₁ c₂ c₃ : Prop} [Decidable c₁] [Decidable c₂] [Decidable c₃] {m₁ m₂ m₃ : String} :
      Raises Governed (do refuse c₁ (unresolved m₁); refuse c₂ (unresolved m₂); refuse c₃ (unresolved m₃)) :=
    (raises_refuse (governed_unresolved _)).bind fun _ _ => (raises_refuse (governed_unresolved _)).bind fun _ _ =>
      raises_refuse (governed_unresolved _)
  have hselected : Raises Governed (resolveSelectedBindings request version) :=
    (raises_refuse (governed_unresolved _)).bind fun _ _ => raises_ok _
  exact hselected.bind fun _ _ => Raises.bind hthree fun _ _ => Raises.bind hthree fun _ _ => Raises.bind hthree
    fun _ _ => raises_ok _

theorem resolve_eq (h : Admissible repository request pointer version approval) :
    resolve repository request = planOf request pointer version approval (byText (askedBindings request version)) := by
  have hpointer : resolvePointerForRequest repository request = .ok pointer :=
    resolvePointerForRequest_ok.mpr ⟨readPointer_ok.mpr ⟨fun channel hchannel => (h.offered.byChannel channel hchannel).1,
      fun versionId hversion => (h.offered.byVersion versionId hversion).1⟩,h.offered.agent,
      fun channel hchannel => (h.offered.byChannel channel hchannel).2,
      fun versionId hversion => (h.offered.byVersion versionId hversion).2⟩
  have hversion : resolveVersionForPointer repository request.scope request.agentId pointer = .ok version :=
    resolveVersionForPointer_ok.mpr ⟨h.offered.release,h.offered.owner⟩
  have happroval := validateApproval_ok.mpr ⟨rfl,h.inForce⟩
  have hselected := validateRequest_ok.mpr ⟨h.within,rfl⟩
  unfold resolve
  rw [hpointer]
  dsimp only [bind,Except.bind]
  rw [hversion]
  dsimp only
  rw [read_ok.mpr h.offered.approval]
  dsimp only
  rw [happroval]
  rw [hselected]

variable {selected : List Identifier}

theorem admissible_of_stages {answer : Option ApprovalRecord} (hpointer :
    resolvePointerForRequest repository request = .ok pointer)
    (hversion : resolveVersionForPointer repository request.scope request.agentId pointer = .ok version)
    (hanswer : read (repository.getApproval request.scope version.agentId version.versionId request.approvalId) =
      .ok answer) (happroval : validateApproval request pointer version answer = .ok approval)
    (hselected : validateRequest request version = .ok selected) :
    Admissible repository request pointer version approval := by
  obtain ⟨hread,hagent,hchannel,hrelease⟩ := resolvePointerForRequest_ok.mp hpointer
  obtain ⟨hbyChannel,hbyVersion⟩ := readPointer_ok.mp hread
  obtain ⟨hget,howner⟩ := resolveVersionForPointer_ok.mp hversion
  obtain ⟨rfl,hforce⟩ := validateApproval_ok.mp happroval
  exact ⟨⟨fun channel h => ⟨hbyChannel channel h,hchannel channel h⟩,
    fun versionId h => ⟨hbyVersion versionId h,hrelease versionId h⟩,hagent,hget,howner,read_ok.mp hanswer⟩,hforce,
    (validateRequest_ok.mp hselected).1⟩

theorem resolve_refused
    (hnone : ∀ pointer version approval, ¬Admissible repository request pointer version approval) :
    ∃ x, resolve repository request = .error x ∧ Governed x := by
  refine Raises.of_not_ok ?_ fun plan hplan => ?_
  · exact raises_pointer.bind fun pointer hpointer => raises_version.bind fun version hversion =>
      (raises_read _).bind fun answer hanswer => raises_approval.bind fun approval happroval =>
        raises_request.bind fun selected hselected =>
          (hnone _ _ _ (admissible_of_stages hpointer hversion hanswer happroval hselected)).elim
  · simp only [resolve,bind_ok] at hplan
    obtain ⟨pointer,hpointer,version,hversion,answer,hanswer,approval,happroval,selected,hselected,-⟩ := hplan
    exact hnone _ _ _ (admissible_of_stages hpointer hversion hanswer happroval hselected)

theorem byText_asked (request : AgentResolutionRequest) (version : AgentVersion) :
    byText (askedBindings request version) = askedBindings request version := by
  have hsorted : version.bindings.allBindings.Pairwise fun a b => a.bindingId.1 ≤ b.bindingId.1 :=
    Keyset.pairwise_sortBy version.bindings.values
  have hall : version.bindings.bindingIds.Pairwise fun a b => a.1 ≤ b.1 := List.pairwise_map.mpr hsorted
  have hrequested : request.requestedBindingIds.Pairwise fun a b => a.1 ≤ b.1 := List.pairwise_map.mp request.sorted
  apply List.Pairwise.insertionSort_eq
  unfold askedBindings
  split_ifs
  · exact hall
  · exact hrequested

theorem planOf_ok {plan : ResolvedAgentPlan} : planOf request pointer version approval selected = .ok plan →
    plan.bindingIds = selected ∧ 3 ≤ selected.length ∧ selected.length ≤ maxBindings := by
  unfold planOf
  split_ifs with hcounted
  · intro h
    cases h
    exact ⟨rfl,hcounted⟩
  · intro h
    cases h

theorem planOf_counted (h : 3 ≤ selected.length ∧ selected.length ≤ maxBindings) :
    ∃ plan, planOf request pointer version approval selected = .ok plan ∧ plan.bindingIds = selected := by
  unfold planOf
  rw [dif_pos h]
  exact ⟨_,rfl,rfl⟩

end

section
variable {repository : AgentRepository} {request : AgentResolutionRequest} {pointer : AgentReleasePointer}
  {version : AgentVersion} {approval : ApprovalRecord}

def Sole (repository : AgentRepository) (scope : AccessScope) (pointer : AgentReleasePointer) : Prop :=
  repository.getReleasePointer scope pointer.agentId pointer.channel = .ok (some pointer)

theorem coerceReleaseChannel_value (channel : ReleaseTrack) : coerceReleaseChannel channel.value = .ok channel := by
  cases channel with
  | stable => rfl
  | beta => rfl
  | edge => rfl

theorem three_bindings (bindings : AgentBindings) : 3 ≤ bindings.allBindings.length := by
  unfold AgentBindings.allBindings byBindingId
  rw [List.length_insertionSort,AgentBindings.values,List.length_cons,List.length_cons,List.length_cons]
  omega

theorem project_eq (h : Admissible repository request pointer version approval)
    (hsole : Sole repository request.scope pointer) {approvalId : Option Identifier}
    (happroval : approvalId = none ∨ approvalId = some request.approvalId) (atTime : Option Timestamp) :
    ∃ state, project repository request.scope request.agentId pointer.channel.value approvalId atTime =
      projectionOf request.scope request.agentId pointer version state := by
  have hpointer : resolveProjectionPointer repository request.scope request.agentId pointer.channel = .ok pointer := by
    have hread : repository.getReleasePointer request.scope request.agentId pointer.channel = .ok (some pointer) :=
      h.offered.agent ▸ hsole
    simp only [resolveProjectionPointer,bind_ok,found_ok,refuse_ok,exists_const,read_ok]
    refine ⟨_,hread,pointer,rfl,?_,rfl⟩
    rintro (hagent | hchannel)
    · exact hagent h.offered.agent
    · exact hchannel rfl
  have hversion : resolveVersionForPointer repository request.scope request.agentId pointer = .ok version :=
    resolveVersionForPointer_ok.mpr ⟨h.offered.release,h.offered.owner⟩
  obtain ⟨state,hstate⟩ : ∃ state, resolveProjectionApprovalState repository request.scope request.agentId version pointer
      approvalId atTime = .ok state := by
    rcases happroval with rfl | rfl
    · exact ⟨_,rfl⟩
    · have hread := h.offered.approval
      rw [h.offered.owner] at hread
      unfold resolveProjectionApprovalState
      dsimp only
      rw [read_ok.mpr hread]
      dsimp only [bind,Except.bind]
      split_ifs
      · exact ⟨_,rfl⟩
      · exact ⟨_,rfl⟩
  refine ⟨state,?_⟩
  unfold project
  rw [coerceReleaseChannel_value]
  dsimp only [bind,Except.bind]
  rw [hpointer]
  dsimp only
  rw [hversion]
  dsimp only
  rw [hstate]

theorem projectionOf_ok {state : ApprovalState} :
    (∃ projection, projectionOf request.scope request.agentId pointer version state = .ok projection) ↔
    version.bindings.allBindings.length ≤ maxBindings := by
  unfold projectionOf
  split_ifs with hcounted
  · exact ⟨fun _ => hcounted.2,fun _ => ⟨_,rfl⟩⟩
  · constructor
    · rintro ⟨projection,h⟩
      cases h
    · intro h
      exact (hcounted ⟨three_bindings _,h⟩).elim

end

def Resolves (repository : AgentRepository) (request : AgentResolutionRequest) : Prop :=
  (∀ pointer version approval, Admissible repository request pointer version approval →
    (∃ plan, resolve repository request = .ok plan ∧ plan.bindingIds = askedBindings request version) ∧
    (Sole repository request.scope pointer → ∀ approvalId, approvalId = none ∨ approvalId = some request.approvalId →
      ∀ atTime, ∃ projection,
        project repository request.scope request.agentId pointer.channel.value approvalId atTime = .ok projection)) ∧
  ((∀ pointer version approval, ¬Admissible repository request pointer version approval) →
    ∃ x, resolve repository request = .error x ∧ Governed x)

/-- An admissible request asks for three bindings or more and at most as many as a plan has, and the release has no
more than a projection counts. -/
def Sized (repository : AgentRepository) (request : AgentResolutionRequest) : Prop :=
  ∀ pointer version approval, Admissible repository request pointer version approval →
    3 ≤ (askedBindings request version).length ∧ (askedBindings request version).length ≤ maxBindings ∧
    (Sole repository request.scope pointer → version.bindings.allBindings.length ≤ maxBindings)

theorem resolves_iff_sized (repository : AgentRepository) (request : AgentResolutionRequest) :
    Resolves repository request ↔ Sized repository request := by
  constructor
  · rintro ⟨hadmissible,-⟩ pointer version approval h
    obtain ⟨⟨plan,hplan,-⟩,hproject⟩ := hadmissible pointer version approval h
    rw [resolve_eq h,byText_asked] at hplan
    obtain ⟨-,hleast,hmost⟩ := planOf_ok hplan
    refine ⟨hleast,hmost,fun hsole => ?_⟩
    obtain ⟨state,hstate⟩ := project_eq h hsole (.inl rfl) none
    obtain ⟨projection,hprojection⟩ := hproject hsole none (.inl rfl) none
    exact projectionOf_ok.mp ⟨projection,hstate.symm.trans hprojection⟩
  · intro hsized
    refine ⟨fun pointer version approval h => ?_,resolve_refused⟩
    obtain ⟨hleast,hmost,hall⟩ := hsized pointer version approval h
    constructor
    · rw [resolve_eq h,byText_asked]
      exact planOf_counted ⟨hleast,hmost⟩
    · intro hsole approvalId happroval atTime
      obtain ⟨state,hstate⟩ := project_eq h hsole happroval atTime
      rw [hstate]
      exact projectionOf_ok.mpr (hall hsole)

section
open PolicyPlane (Digest)

namespace Fixture

def digest : Digest :=
  ⟨"sha256:cccccccccccccccccccccccccccccccccccccccccccccccccccccccccccccccc",by decide +kernel⟩
def one : VersionText := ⟨"1.0.0",by decide⟩
def identity : AgentIdentity := ⟨_,⟨"publisher",by decide⟩,⟨"package",by decide⟩,⟨"agent",by decide⟩,rfl⟩

def binding (kind : BindingKind) (logicalId : Identifier) : ArtifactBinding where
  bindingId := bindingIdFor kind logicalId one digest digest
  kind := kind
  logicalId := logicalId
  version := one
  artifactRef := ⟨"artifact",by decide⟩
  artifactDigest := digest
  schemaDigest := digest
  dependsOn := []
  lengths := by decide
  opaqueRef := by decide +kernel
  derived := rfl
  unique := List.nodup_nil
  sorted := List.Pairwise.nil
  noSelf := List.not_mem_nil

theorem grouped_single (kind : BindingKind) (logicalId : Identifier) : Grouped kind [binding kind logicalId] where
  bounded := by
    rw [List.length_singleton]
    decide
  kinds item hitem := by
    rw [List.mem_singleton.mp hitem]
    rfl
  noAlias := List.nodup_singleton _
  sorted := List.pairwise_singleton _ _

theorem grouped_nil (kind : BindingKind) : Grouped kind [] :=
  ⟨Nat.zero_le _,fun _ h => (List.not_mem_nil h).elim,List.nodup_nil,List.Pairwise.nil⟩

def main : Identifier := ⟨"main",by decide⟩

theorem bindings_free {item : ArtifactBinding}
    (h : item ∈ [binding .configuration main,binding .model main,binding .prompt main]) : item.dependsOn = [] := by
  simp only [List.mem_cons,List.not_mem_nil,or_false] at h
  rcases h with rfl | rfl | rfl <;> rfl

theorem acyclic_of_free {bindings : List ArtifactBinding} (h : ∀ item ∈ bindings, item.dependsOn = []) :
    acyclic bindings = true := by
  have hnone (bindingId : Identifier) : dependenciesIn bindings bindingId = [] := by
    unfold dependenciesIn
    cases hfind : bindings.find? fun b => b.bindingId = bindingId with
    | none => rfl
    | some b => exact h b (List.mem_of_find?_eq_some hfind)
  have hall (ids visited : List Identifier) : (ids.foldlM (fun visited bindingId =>
      visitBinding (dependenciesIn bindings) (bindings.length+1) [] visited bindingId) visited).isSome = true := by
    induction ids generalizing visited with
    | nil => rfl
    | cons bindingId ids ih =>
      have hvisit : ∃ t, visitBinding (dependenciesIn bindings) (bindings.length+1) [] visited bindingId = some t := by
        unfold visitBinding
        rw [if_neg List.not_mem_nil,hnone]
        split_ifs <;> exact ⟨_,rfl⟩
      obtain ⟨t,ht⟩ := hvisit
      rw [List.foldlM_cons,ht]
      exact ih t
  exact hall _ _

def bindings : AgentBindings where
  configuration := binding .configuration main
  model := binding .model main
  prompt := binding .prompt main
  skills := []
  tools := []
  connectors := []
  workflows := []
  oneConfiguration := grouped_single _ _
  oneModel := grouped_single _ _
  onePrompt := grouped_single _ _
  groupedSkills := grouped_nil _
  groupedTools := grouped_nil _
  groupedConnectors := grouped_nil _
  groupedWorkflows := grouped_nil _
  unique := by decide +kernel
  known item hitem dependency hdependency := by
    rw [bindings_free hitem] at hdependency
    exact (List.not_mem_nil hdependency).elim
  noCycle := acyclic_of_free fun item hitem => bindings_free ((List.mem_insertionSort _).mp hitem)

def policies : PolicySet where
  team := ⟨⟨"policy",by decide⟩,digest,⟨"team",by decide⟩,1,[],by decide,by decide,by decide +kernel,by decide +kernel,
    List.nodup_nil,List.Pairwise.nil⟩
  delegation := ⟨⟨"policy",by decide⟩,digest,0,0,0,by decide,by decide,by decide,by decide +kernel⟩
  budget := ⟨⟨"policy",by decide⟩,digest,0,0,0,by decide,by decide,by decide,by decide +kernel⟩
  policySetDigest := policySetDigestFor _ _ _
  consistent := rfl

def evaluation : EvaluationEvidence where
  datasets := [⟨⟨"dataset",by decide⟩,one,digest,.test,by decide +kernel⟩]
  runs := [⟨⟨"run",by decide⟩,one,digest,digest,by decide +kernel⟩]
  evidenceDigest := evaluationEvidenceDigestFor _ _
  lengths := by decide
  uniqueDatasets := List.nodup_singleton _
  uniqueRuns := List.nodup_singleton _
  sortedDatasets := List.pairwise_singleton _ _
  sortedRuns := List.pairwise_singleton _ _
  linked run hrun := by
    rw [List.mem_singleton.mp hrun]
    exact List.mem_singleton_self _
  consistent := rfl

def version : AgentVersion where
  versionId := agentVersionIdFor identity.agentId one bindings.setDigest policies.policySetDigest evaluation.evidenceDigest
  agentId := identity.agentId
  version := one
  bindings := bindings
  policies := policies
  evaluation := evaluation
  knownToTeam _ h := (List.not_mem_nil h).elim
  derived := rfl

def registration : AgentRegistration := ⟨identity,version,rfl⟩

def pointer : AgentReleasePointer where
  pointerId := pointerIdFor identity.agentId .stable
  agentId := identity.agentId
  channel := .stable
  versionId := version.versionId
  revision := 1
  previousVersionId := none
  pointerDigest := pointerDigestFor identity.agentId .stable version.versionId 1 none
  counted := Nat.one_pos
  stable := rfl
  changed h := by cases h
  derived := rfl

def approvalId : Identifier := ⟨"approval",by decide⟩
def approved : Timestamp := ⟨"2026-01-01T00:00:00Z",by decide +kernel⟩
def expires : Timestamp := ⟨"2027-01-01T00:00:00+00:00",by decide +kernel⟩
def now : Timestamp := ⟨"2026-06-01T12:30:00.5Z",by decide +kernel⟩

def approval : ApprovalRecord where
  approvalId := approvalId
  agentId := version.agentId
  versionId := version.versionId
  channel := .stable
  policySetDigest := version.policies.policySetDigest
  evaluationDigest := version.evaluation.evidenceDigest
  outcome := .approved
  approvedAt := approved
  expiresAt := expires
  approverRef := ⟨"approver",by decide⟩
  evidenceRef := ⟨"evidence",by decide⟩
  approvalDigest := approvalDigestFor approvalId version.agentId version.versionId .stable version.policies.policySetDigest
    version.evaluation.evidenceDigest .approved approved expires ⟨"approver",by decide⟩ ⟨"evidence",by decide⟩
  opaqueRefs := by decide +kernel
  derived := rfl

def repository : AgentRepository where
  getVersion _ _ := .ok (some registration.version)
  getReleasePointer _ _ _ := .ok (some pointer)
  getReleasePointerForVersion _ _ _ := .ok (some pointer)
  getApproval _ _ _ _ := .ok (some approval)

def scope : AccessScope :=
  ⟨⟨"tenant",by decide⟩,⟨"principal",by decide⟩,[],_,by decide,List.nodup_nil,List.Pairwise.nil,rfl⟩

def request : AgentResolutionRequest where
  agentId := identity.agentId
  scope := scope
  channel := some .stable
  versionId := none
  approvalId := approvalId
  requestedBindingIds := [(binding .prompt main).bindingId]
  teamRef := none
  teamMemberCount := 1
  delegationDepth := 0
  delegationChildren := 0
  requestedTokens := 0
  requestedCostMicros := 0
  requestedTimeMs := 0
  atTime := now
  bounded := by
    rw [List.length_singleton]
    decide
  members := by decide
  delegation := by decide
  budget := by decide
  oneSelector := by decide
  opaqueApproval := by decide +kernel
  opaqueTeam := rfl
  unique := List.nodup_singleton _
  sorted := List.pairwise_singleton _ _

theorem admissible : Admissible repository request pointer version approval where
  offered := {
    byChannel := fun channel h => ⟨rfl,Option.some.inj h⟩
    byVersion := fun versionId h => by cases h
    agent := rfl
    release := rfl
    owner := rfl
    approval := rfl }
  inForce := ⟨rfl,rfl,rfl,rfl,rfl,rfl,rfl,_,_,_,rfl,rfl,rfl,by decide +kernel,by decide +kernel⟩
  within := {
    known := fun bindingId h => by
      rw [List.mem_singleton.mp h]
      have hvalue : binding .prompt main ∈ version.bindings.values :=
        List.mem_cons_of_mem _ (List.mem_cons_of_mem _ List.mem_cons_self)
      exact List.mem_map_of_mem ((List.mem_insertionSort _).mpr hvalue)
    allowed := fun h => (h rfl).elim
    team := fun teamRef h => by cases h
    members := le_rfl
    depth := le_rfl
    children := le_rfl
    delegated := le_rfl
    tokens := le_rfl
    costMicros := le_rfl
    timeMs := le_rfl }

end Fixture

open Fixture in
/-- One of a release's three bindings: nothing refuses the request, and no plan takes it. -/
theorem one_binding_unresolved : Admissible repository request pointer version approval ∧
    resolve repository request = .error ⟨.validation,"binding_ids"⟩ ∧ ¬Resolves repository request := by
  have hresolve : resolve repository request = .error ⟨.validation,"binding_ids"⟩ := by
    rw [resolve_eq admissible,byText_asked]
    exact dif_neg (by decide)
  refine ⟨admissible,hresolve,fun h => ?_⟩
  obtain ⟨⟨plan,hplan,-⟩,-⟩ := h.1 _ _ _ admissible
  rw [hresolve] at hplan
  cases hplan

end
end AgentControlPlane
end Arbora.Agents
