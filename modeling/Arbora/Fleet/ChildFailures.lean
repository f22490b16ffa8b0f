import Arbora.Fleet.ChildRuntime

/-! What a failed child-side call counts as. -/
namespace Arbora.Fleet

/-- An exception that is no group. -/
inductive Thrown
  /-- One of `TRANSPORT_EXCEPTIONS`; some of them are timeouts. -/
  | transport (className : String) (timeoutError : Bool)
  /-- `MCPError` with what its `error` says, if it has one, and its own text. -/
  | protocol (error : Option (ℤ × String)) (text : String)
  | preflightDeadlineExpired
  | generationChanged
  | other (className : String)
deriving DecidableEq

/-- An exception, or a group of at least one, which itself is of no class that is looked for. -/
inductive Exc
  | single (thrown : Thrown)
  | group (first : Exc) (rest : List Exc)

def sessionDeadSignatures : List (ℤ × List Char) :=
  [(-32000,"connection closed".toList),(-32600,"session terminated".toList),(32600,"session terminated".toList)]

def Thrown.isSessionDead : Thrown → Bool
  | .protocol (some (code,message)) text =>
    (code,(if message = "" then text else message).toList.map Char.toLower) ∈ sessionDeadSignatures
  | _ => false

def Thrown.isTransport : Thrown → Bool
  | .transport .. => true
  | _ => false

def Thrown.className : Thrown → String
  | .transport className _ => className
  | .protocol .. => "MCPError"
  | .preflightDeadlineExpired => "_PreflightDeadlineExpired"
  | .generationChanged => "_GenerationChanged"
  | .other className => className

mutual

def excLeaves : Exc → List Thrown
  | .single thrown => [thrown]
  | .group first rest => excLeaves first ++ excLeavesOf rest

def excLeavesOf : List Exc → List Thrown
  | [] => []
  | sub :: rest => excLeaves sub ++ excLeavesOf rest

end

def isTransientChildDeath (exc : Exc) : Bool := (excLeaves exc).any fun e => e.isSessionDead || e.isTransport

/-- What the end of a failed call does to the runtime and its counters. -/
inductive CallEffect
  | recordFailure
  | record (outcome : String)
  | requestRestart (reason : String)
deriving DecidableEq

def finishCallFailure (exc : Exc) (abandoned : Bool) : List CallEffect :=
  match exc with
  | .single .preflightDeadlineExpired => []
  | .single thrown =>
    if thrown.isTransport || thrown.isSessionDead then
      [.recordFailure] ++ (if abandoned then [] else [.record "transport_error"]) ++
        [.requestRestart (if thrown.isSessionDead then "session_terminated" else thrown.className)]
    else if abandoned then [] else [.record "error"]
  | .group .. => if abandoned then [] else [.record "error"]

/-- What a caller sees of the exception; a timeout of the child's own becomes the caller's. -/
def delivered : Exc → Exc
  | .single (.transport _ true) => .single (.other "MCPChildCallTimeoutError")
  | exc => exc

/-- Whether `call_tool` goes round again. -/
def recoverToolCall (exc : Exc) (retryOnTransient : Bool) (attempt : ℕ) : List CallEffect × Bool :=
  match exc with
  | .single .generationChanged => ([],false)
  | exc =>
    if !isTransientChildDeath exc then ([],false)
    else ([.requestRestart "transient_child_death"],retryOnTransient && attempt = 0)

inductive Handling
  /-- Another request is built for the generation that came. -/
  | rebuilt
  /-- The connection was dead, and the request is sent once more. -/
  | retried
  | raised
deriving DecidableEq

/-- What `call_request` does about an exception. -/
def handleRequestFailure (requestFactory retryOnTransient : Bool) (exc : Exc) (attempt : ℕ) : Handling :=
  match exc with
  | .single .generationChanged => if requestFactory && attempt = 0 then .rebuilt else .raised
  | exc => if retryOnTransient && attempt = 0 && isTransientChildDeath exc then .retried else .raised

section

/-- An exception within another, as deep as may be. -/
inductive LeafOf (thrown : Thrown) : Exc → Prop
  | single : LeafOf thrown (.single thrown)
  | group {first : Exc} {rest : List Exc} {sub : Exc} : sub ∈ first :: rest → LeafOf thrown sub →
      LeafOf thrown (.group first rest)

/-- A dead pipe, a closed stream or a session that is gone. -/
def DeadTransport (thrown : Thrown) : Prop := thrown.isTransport = true ∨ thrown.isSessionDead = true

variable {thrown : Thrown}

theorem mem_excLeavesOf {subs : List Exc} : thrown ∈ excLeavesOf subs ↔ ∃ sub ∈ subs, thrown ∈ excLeaves sub := by
  induction subs with
  | nil => simp [excLeavesOf]
  | cons sub rest ih => simp [excLeavesOf,ih]

theorem mem_excLeaves_group {first : Exc} {rest : List Exc} :
    thrown ∈ excLeaves (.group first rest) ↔ ∃ sub ∈ first :: rest, thrown ∈ excLeaves sub := by
  simp [excLeaves,mem_excLeavesOf]

theorem leaf_of_mem : ∀ {exc : Exc}, thrown ∈ excLeaves exc → LeafOf thrown exc
  | .single t, h => by
    cases List.mem_singleton.mp h
    exact .single
  | .group first rest, h => by
    obtain ⟨sub,hsub,hleaf⟩ := mem_excLeaves_group.mp h
    exact .group hsub (leaf_of_mem hleaf)

theorem mem_excLeaves_iff {exc : Exc} : thrown ∈ excLeaves exc ↔ LeafOf thrown exc := by
  refine ⟨leaf_of_mem,fun h => ?_⟩
  induction h with
  | single => exact List.mem_singleton_self _
  | group hsub _ ih => exact mem_excLeaves_group.mpr ⟨_,hsub,ih⟩

theorem isTransientChildDeath_iff {exc : Exc} :
    isTransientChildDeath exc = true ↔ ∃ thrown, LeafOf thrown exc ∧ DeadTransport thrown := by
  unfold isTransientChildDeath DeadTransport
  rw [List.any_eq_true]
  refine exists_congr fun thrown => ?_
  rw [mem_excLeaves_iff,Bool.or_eq_true,or_comm]

end

section
variable {exc : Exc} {abandoned : Bool}

def BreakerCounts (exc : Exc) (abandoned : Bool) : Prop := .recordFailure ∈ finishCallFailure exc abandoned
def RestartRequested (exc : Exc) (abandoned : Bool) : Prop :=
  ∃ reason, .requestRestart reason ∈ finishCallFailure exc abandoned

/-- One of the two callers sends it once more, because of what it gets of the exception. -/
def RetriedAsDead (exc : Exc) : Prop :=
  (∃ retryOnTransient attempt, (recoverToolCall (delivered exc) retryOnTransient attempt).2 = true) ∨
    ∃ requestFactory retryOnTransient attempt,
      handleRequestFailure requestFactory retryOnTransient (delivered exc) attempt = .retried

theorem finishCallFailure_single {thrown : Thrown} (h : thrown ≠ .preflightDeadlineExpired) :
    finishCallFailure (.single thrown) abandoned =
      if thrown.isTransport || thrown.isSessionDead then
        [.recordFailure] ++ (if abandoned then [] else [.record "transport_error"]) ++
          [.requestRestart (if thrown.isSessionDead then "session_terminated" else thrown.className)]
      else if abandoned then [] else [.record "error"] := by
  cases thrown with
  | preflightDeadlineExpired => exact absurd rfl h
  | _ => rfl

theorem finishCallFailure_dead (abandoned : Bool) {thrown : Thrown} (h : DeadTransport thrown) :
    ∃ reason, finishCallFailure (.single thrown) abandoned =
      [.recordFailure] ++ (if abandoned then [] else [.record "transport_error"]) ++ [.requestRestart reason] := by
  have hexpired : thrown ≠ .preflightDeadlineExpired := by
    rintro rfl
    exact h.elim nofun nofun
  rw [finishCallFailure_single hexpired,if_pos (Bool.or_eq_true_iff.mpr h)]
  exact ⟨_,rfl⟩

theorem finishCallFailure_alive (abandoned : Bool) (h : ∀ thrown, exc = .single thrown → ¬DeadTransport thrown) :
    finishCallFailure exc abandoned = [] ∨ finishCallFailure exc abandoned = [.record "error"] := by
  have herror : (if abandoned then [] else [CallEffect.record "error"]) = [] ∨
      (if abandoned then [] else [CallEffect.record "error"]) = [CallEffect.record "error"] := by
    cases abandoned with
    | false => exact .inr rfl
    | true => exact .inl rfl
  cases exc with
  | group first rest => exact herror
  | single thrown =>
    by_cases hexpired : thrown = .preflightDeadlineExpired
    · rw [hexpired]
      exact .inl rfl
    · rw [finishCallFailure_single hexpired,if_neg fun hdead => h thrown rfl (Bool.or_eq_true_iff.mp hdead)]
      exact herror

theorem breakerCounts_iff : BreakerCounts exc abandoned ↔ ∃ thrown, exc = .single thrown ∧ DeadTransport thrown := by
  constructor
  · intro hcounts
    by_contra hnone
    push Not at hnone
    unfold BreakerCounts at hcounts
    rcases finishCallFailure_alive abandoned hnone with h | h
    · rw [h] at hcounts
      cases hcounts
    · rw [h] at hcounts
      simp at hcounts
  · intro h
    obtain ⟨thrown,rfl,hdead⟩ := h
    obtain ⟨reason,h⟩ := finishCallFailure_dead abandoned hdead
    unfold BreakerCounts
    rw [h]
    simp

theorem restartRequested_iff : RestartRequested exc abandoned ↔ BreakerCounts exc abandoned := by
  rw [breakerCounts_iff]
  constructor
  · intro h
    obtain ⟨reason,hrestart⟩ := h
    by_contra hnone
    push Not at hnone
    rcases finishCallFailure_alive abandoned hnone with h | h
    · rw [h] at hrestart
      cases hrestart
    · rw [h] at hrestart
      simp at hrestart
  · intro h
    obtain ⟨thrown,rfl,hdead⟩ := h
    obtain ⟨reason,h⟩ := finishCallFailure_dead abandoned hdead
    exact ⟨reason,by simp [h]⟩

theorem transient_of_recovered {retryOnTransient : Bool} {attempt : ℕ}
    (h : (recoverToolCall exc retryOnTransient attempt).2 = true) : isTransientChildDeath exc = true := by
  unfold recoverToolCall at h
  split at h
  · cases h
  · split_ifs at h with hdeath
    simpa using hdeath

theorem transient_of_retried {requestFactory retryOnTransient : Bool} {attempt : ℕ}
    (h : handleRequestFailure requestFactory retryOnTransient exc attempt = .retried) : isTransientChildDeath exc = true := by
  unfold handleRequestFailure at h
  split at h
  · split_ifs at h
  · split_ifs at h with hdeath
    simp only [Bool.and_eq_true] at hdeath
    exact hdeath.2

/-- A caller goes round again only for a death, and for none that was turned into a timeout. -/
theorem transient_of_retriedAsDead (h : RetriedAsDead exc) : isTransientChildDeath exc = true := by
  have hdelivered : isTransientChildDeath (delivered exc) = true := by
    rcases h with ⟨_,_,h⟩ | ⟨_,_,_,h⟩
    · exact transient_of_recovered h
    · exact transient_of_retried h
  unfold delivered at hdelivered
  split at hdelivered
  · cases hdelivered
  · exact hdelivered

/-- Both sides agree on an exception exactly if it is no group, or a group with no dead transport in it at any depth. -/
theorem classified_alike_iff (exc : Exc) (abandoned : Bool) :
    ((BreakerCounts exc abandoned ∧ RestartRequested exc abandoned ↔ isTransientChildDeath exc = true) ∧
        (RetriedAsDead exc → BreakerCounts exc abandoned)) ↔
      (∃ thrown, exc = .single thrown) ∨ ∀ thrown, LeafOf thrown exc → ¬DeadTransport thrown := by
  rw [restartRequested_iff,and_self,breakerCounts_iff,isTransientChildDeath_iff]
  constructor
  · intro hagree
    by_cases hdead : ∃ thrown, LeafOf thrown exc ∧ DeadTransport thrown
    · obtain ⟨thrown,hsingle,-⟩ := hagree.1.mpr hdead
      exact .inl ⟨thrown,hsingle⟩
    · exact .inr fun thrown hleaf hthrown => hdead ⟨thrown,hleaf,hthrown⟩
  · intro hcondition
    have hagree : (∃ thrown, exc = .single thrown ∧ DeadTransport thrown) ↔
        ∃ thrown, LeafOf thrown exc ∧ DeadTransport thrown := by
      constructor
      · intro hsingle
        obtain ⟨thrown,rfl,hdead⟩ := hsingle
        exact ⟨thrown,.single,hdead⟩
      · intro hleaf
        obtain ⟨thrown,hleaf,hdead⟩ := hleaf
        rcases hcondition with ⟨t,rfl⟩ | hnone
        · cases hleaf
          exact ⟨thrown,rfl,hdead⟩
        · exact absurd hdead (hnone thrown hleaf)
    exact ⟨hagree,fun hretried => hagree.mpr (isTransientChildDeath_iff.mp (transient_of_retriedAsDead hretried))⟩

/-- A crash as a task group reports it: the call is sent once more on a new connection, and the breaker has not counted it. -/
theorem grouped_crash_uncounted : isTransientChildDeath (.group (.single (.transport "BrokenResourceError" false)) []) = true ∧
    finishCallFailure (.group (.single (.transport "BrokenResourceError" false)) []) false = [.record "error"] ∧
    recoverToolCall (delivered (.group (.single (.transport "BrokenResourceError" false)) [])) true 0 =
      ([.requestRestart "transient_child_death"],true) ∧
    handleRequestFailure false true (delivered (.group (.single (.transport "BrokenResourceError" false)) [])) 0 =
      .retried := by
  decide

end

end Arbora.Fleet
