import Arbora.Fleet.ChildRuntime

/-! What a step of an attempt does to the breaker, and what it leaves of the attempt. -/
namespace Arbora.Fleet

def Child.unresolved : Child → Bool
  | .created | .preflight | .dispatched => true
  | .done _ | .finished _ => false

/-- What the completion callback accounts for, or a local expiry that has been accounted for. -/
def Outcome.settles : Outcome → Bool
  | .success | .failure (.transport _) | .preflightDeadlineExpired => true
  | .failure .generationChanged | .failure .application | .cancelled => false

namespace Stage

/-- The child-side call goes on, whether its caller waits for it or not. -/
def unresolved : Stage → Bool
  | .sent child _ => child.unresolved
  | _ => false

/-- Neither ended nor timed out. -/
def live : Stage → Bool
  | .awaitingReady _ | .queued | .selecting => true
  | .refused _ => false
  | .sent child result => child.unresolved && result ≠ some .callTimeout

/-- Something is still to come of it that the breaker is told. -/
def pending : Stage → Bool
  | .awaitingReady _ | .queued | .selecting => true
  | .refused _ => false
  | .sent (.done outcome) _ => outcome ≠ .preflightDeadlineExpired
  | .sent (.finished _) _ => false
  | .sent _ _ => true

/-- Neither the caller nor the child has anything left to do. -/
def ended : Stage → Bool
  | .refused _ | .sent (.finished _) (some _) => true
  | _ => false

theorem pending_of_ended {s : Stage} (h : s.ended = true) : s.pending = false := by
  unfold ended at h
  split at h
  · rfl
  · rfl
  · cases h

end Stage

def Attempt.Owes (a : Attempt) : Prop := a.probeClaimed = true ∧ a.stage.pending = true

/-- The breaker is told nothing. -/
structure Kept (f g : Frame) : Prop where
  now : g.runtime.now = f.runtime.now
  breaker : g.runtime.breaker = f.runtime.breaker
  live : g.attempt.stage.live = true → f.attempt.stage.live = true
  owes : f.attempt.Owes → g.attempt.Owes

inductive Effect (f g : Frame) : Prop
  | kept (h : Kept f g)
  | failed (hbreaker : g.runtime.breaker = f.runtime.breaker.recordFailure f.runtime.now)
      (hlive : g.attempt.stage.live = false)
  | succeeded (hbreaker : g.runtime.breaker = f.runtime.breaker.recordSuccess)
      (hlive : g.attempt.stage.live = false)

/-- The child-side call has ended in a way the breaker is never told of. -/
structure Dropped (f g : Frame) : Prop where
  breaker : g.runtime.breaker = f.runtime.breaker
  live : g.attempt.stage.live = false
  outcome : ∃ outcome result, f.attempt.stage = .sent (.done outcome) result ∧ outcome.settles = false

variable {f g h : Frame}

theorem Kept.refl (f : Frame) : Kept f f := ⟨rfl,rfl,id,id⟩

theorem Kept.andThen (hfg : Kept f g) (hgh : Effect g h) : Effect f h := by
  cases hgh with
  | kept hkept =>
    exact .kept ⟨hkept.now.trans hfg.now,hkept.breaker.trans hfg.breaker,hfg.live ∘ hkept.live,
      hkept.owes ∘ hfg.owes⟩
  | failed hbreaker hlive =>
    rw [hfg.breaker,hfg.now] at hbreaker
    exact .failed hbreaker hlive
  | succeeded hbreaker hlive =>
    rw [hfg.breaker] at hbreaker
    exact .succeeded hbreaker hlive

theorem Effect.kept_of_halfOpen (hfg : Effect f g) (hsound : f.runtime.breaker.Sound)
    (hstate : g.runtime.breaker.state = .halfOpen) : Kept f g := by
  cases hfg with
  | kept hkept => exact hkept
  | failed hbreaker _ =>
    rw [hbreaker] at hstate
    exact absurd hstate (CircuitBreaker.recordFailure_state hsound)
  | succeeded hbreaker _ =>
    rw [hbreaker,CircuitBreaker.recordSuccess_state hsound] at hstate
    cases hstate

theorem Effect.sound (hfg : Effect f g) (hsound : f.runtime.breaker.Sound) : g.runtime.breaker.Sound := by
  cases hfg with
  | kept hkept =>
    rw [hkept.breaker]
    exact hsound
  | failed hbreaker _ =>
    rw [hbreaker]
    exact CircuitBreaker.recordFailure_sound hsound
  | succeeded hbreaker _ =>
    rw [hbreaker]
    exact CircuitBreaker.recordSuccess_sound hsound

namespace Frame
variable {i : ℕ} {f : Frame} {hooks : Hooks}

theorem refuse_effect (f : Frame) (result : Result) : Effect f (f.refuse result) := by
  unfold refuse
  cases hclaimed : f.attempt.probeClaimed with
  | true => exact .failed rfl rfl
  | false =>
    refine .kept ⟨rfl,rfl,Bool.false_ne_true.elim,fun howes => ?_⟩
    have hclaim := howes.1
    rw [hclaimed] at hclaim
    cases hclaim

section
variable (hlive : f.attempt.stage.live = true)
include hlive

theorem reserveSession_effect : Effect f (f.reserveSession hooks) := by
  unfold reserveSession
  cases f.selectSession hooks with
  | ok => exact .kept ⟨rfl,rfl,fun _ => hlive,fun howes => ⟨howes.1,rfl⟩⟩
  | error result =>
    have hrelease : Kept f f.releaseSlot := ⟨rfl,rfl,id,id⟩
    exact hrelease.andThen (refuse_effect _ result)

theorem acquireSlot_effect : Effect f (f.acquireSlot i hooks) := by
  unfold acquireSlot
  split
  · exact .kept ⟨rfl,rfl,fun _ => hlive,fun howes => ⟨howes.1,rfl⟩⟩
  · refine Kept.andThen ?_ (reserveSession_effect rfl)
    exact ⟨rfl,rfl,fun _ => hlive,fun howes => ⟨howes.1,rfl⟩⟩

theorem prepareRequest_effect : Effect f (f.prepareRequest i hooks) := by
  have hsnapshot : Kept f f.takeSnapshot := ⟨rfl,rfl,id,id⟩
  unfold prepareRequest
  cases f.takeSnapshot.buildRequest hooks with
  | error fault => exact hsnapshot.andThen (refuse_effect _ _)
  | ok => exact hsnapshot.andThen (acquireSlot_effect hlive)

theorem awaitReady_effect : Effect f (f.awaitReady i hooks) := by
  unfold awaitReady
  split
  · exact refuse_effect _ _
  · split
    · exact prepareRequest_effect hlive
    · exact .kept ⟨rfl,rfl,fun _ => hlive,fun howes => ⟨howes.1,rfl⟩⟩

end

theorem resumeReady_effect (i : ℕ) (f : Frame) (hooks : Hooks) : Effect f (f.resumeReady i hooks) := by
  unfold resumeReady
  split
  · rename_i seen hstage _
    have hlive : f.attempt.stage.live = true := by rw [hstage]; rfl
    split
    · exact .kept (.refl f)
    · split
      · exact refuse_effect _ _
      · exact prepareRequest_effect hlive
  · exact .kept (.refl f)

theorem resumeSlot_effect (i : ℕ) (f : Frame) (hooks : Hooks) : Effect f (f.resumeSlot i hooks) := by
  unfold resumeSlot
  split
  · rename_i hstage _
    split
    · exact .kept (.refl f)
    · refine Kept.andThen ?_ (reserveSession_effect rfl)
      exact ⟨rfl,rfl,fun _ => by rw [hstage]; rfl,fun howes => ⟨howes.1,rfl⟩⟩
  · exact .kept (.refl f)

theorem interrupt_effect (i : ℕ) (f : Frame) (kind : Interrupt) : Effect f (f.interrupt i kind) := by
  unfold interrupt
  split
  · exact .kept (.refl f)
  · exact .kept ⟨rfl,rfl,id,id⟩

/-- A call that times out is a failure, unless its local deadline has been accounted for. -/
theorem timeout_effect {child : Child} (hstage : f.attempt.stage = .sent child none) :
    Effect f ((f.recordTimeout child).abandon child .callTimeout) := by
  have hdead : (Stage.sent child (some .callTimeout)).live = false := Bool.and_false _
  unfold recordTimeout
  split
  · rename_i hexpired
    refine .kept ⟨rfl,rfl,fun hlive => absurd (hdead.symm.trans hlive) Bool.false_ne_true,fun howes => ?_⟩
    have hpending := howes.2
    rw [hstage] at hpending
    rcases hexpired with rfl | rfl
    · cases hpending
    · cases hpending
  · exact .failed rfl hdead

theorem deliver_effect (i : ℕ) (f : Frame) : Effect f (f.deliver i) := by
  have hleave : Kept f (f.leaveQueue i) := ⟨rfl,rfl,id,id⟩
  unfold deliver
  split
  · exact refuse_effect _ _
  · exact refuse_effect _ _
  · exact hleave.andThen (refuse_effect _ _)
  · exact hleave.andThen (refuse_effect _ _)
  · rename_i child hstage _
    refine .kept ⟨rfl,rfl,fun hlive => ?_,fun howes => ⟨howes.1,?_⟩⟩
    · rw [hstage]
      exact Bool.and_eq_true_iff.mpr ⟨(Bool.and_eq_true_iff.mp hlive).1,rfl⟩
    · have hpending := howes.2
      rw [hstage] at hpending
      cases child <;> exact hpending
  · rename_i child hstage _
    exact timeout_effect hstage
  · exact .kept (.refl f)

theorem startChild_effect (f : Frame) : Effect f f.startChild := by
  unfold startChild
  split
  · rename_i result hstage
    refine .kept ⟨rfl,rfl,fun hlive => ?_,fun howes => ⟨howes.1,?_⟩⟩
    · rw [hstage]
      exact Bool.and_eq_true_iff.mpr ⟨rfl,(Bool.and_eq_true_iff.mp hlive).2⟩
    · show Stage.pending (.sent (if f.attempt.call.hasPreflight then .preflight else .dispatched) result) = true
      split <;> rfl
  · exact .kept (.refl f)

/-- A call that has ended one way or another can still settle its probe, but for a local expiry. -/
theorem done_kept {outcome : Outcome} {result : Option Result} (houtcome : outcome ≠ .preflightDeadlineExpired) :
    Kept f (f.move (.sent (.done outcome) result)) :=
  ⟨rfl,rfl,Bool.false_ne_true.elim,fun howes => ⟨howes.1,decide_eq_true houtcome⟩⟩

theorem settlePreflightProbe_effect {outcome : Outcome} {result : Option Result}
    (houtcome : outcome ≠ .preflightDeadlineExpired) :
    Effect f (f.settlePreflightProbe.move (.sent (.done outcome) result)) := by
  unfold settlePreflightProbe
  split
  · exact .failed rfl rfl
  · exact .kept (done_kept houtcome)

theorem preflightReturns_effect (f : Frame) (fault : Option Fault) (hooks : Hooks) :
    Effect f (f.preflightReturns fault hooks) := by
  unfold preflightReturns
  split
  · rename_i result hstage
    cases f.checkToolPreflight fault hooks with
    | none =>
      refine .kept ⟨rfl,rfl,fun hlive => ?_,fun howes => ⟨howes.1,rfl⟩⟩
      have htimely : (Child.dispatched.unresolved && result ≠ some .callTimeout) = true := hlive
      rw [hstage]
      exact htimely
    | some outcome =>
      dsimp only
      unfold settlePreflightFailure
      split
      · exact .failed rfl rfl
      · rename_i houtcome
        exact settlePreflightProbe_effect houtcome
  · exact .kept (.refl f)

theorem childEnds_effect (f : Frame) (fault : Option Fault) : Effect f (f.childEnds fault) := by
  unfold childEnds
  split
  · refine .kept (done_kept ?_)
    cases fault <;> exact Outcome.noConfusion
  · exact .kept (.refl f)

theorem cancelChild_effect (f : Frame) : Effect f f.cancelChild := by
  have hcancelled : Outcome.cancelled ≠ .preflightDeadlineExpired := Outcome.noConfusion
  unfold cancelChild
  split
  · exact .kept (done_kept hcancelled)
  · exact settlePreflightProbe_effect hcancelled
  · exact .kept (done_kept hcancelled)
  · exact .kept (.refl f)

/-- The completion callback tells the breaker of results and dead transports only. -/
theorem finishCall_effect (f : Frame) : Effect f f.finishCall ∨ Dropped f f.finishCall := by
  unfold finishCall
  split
  · rename_i outcome result hstage
    cases outcome with
    | success => exact .inl (.succeeded rfl rfl)
    | failure fault =>
      cases fault with
      | transport => exact .inl (.failed rfl rfl)
      | generationChanged => exact .inr ⟨rfl,rfl,_,_,hstage,rfl⟩
      | application => exact .inr ⟨rfl,rfl,_,_,hstage,rfl⟩
    | preflightDeadlineExpired =>
      refine .inl (.kept ⟨rfl,rfl,Bool.false_ne_true.elim,fun howes => ?_⟩)
      have hpending := howes.2
      rw [hstage] at hpending
      cases hpending
    | cancelled => exact .inr ⟨rfl,rfl,_,_,hstage,rfl⟩
  · exact .inl (.kept (.refl f))

theorem returnResult_effect (f : Frame) : Effect f f.returnResult := by
  unfold returnResult
  split
  · rename_i outcome hstage _
    have hquiet (result : Result) : Kept f (f.move (.sent (.finished outcome) (some result))) := by
      refine ⟨rfl,rfl,Bool.false_ne_true.elim,fun howes => ?_⟩
      have hpending := howes.2
      rw [hstage] at hpending
      cases hpending
    split
    · exact .kept (hquiet _)
    · exact .failed rfl rfl
    · exact .kept (hquiet _)
    · exact .kept (hquiet _)
    · exact .kept (hquiet _)
  · exact .kept (.refl f)

theorem advance_effect (i : ℕ) (f : Frame) (action : Action) :
    Effect f (f.advance i action) ∨ action = .finishCall ∧ Dropped f (f.advance i action) := by
  cases action with
  | resumeReady hooks => exact .inl (resumeReady_effect i f hooks)
  | resumeSlot hooks => exact .inl (resumeSlot_effect i f hooks)
  | interrupt kind => exact .inl (interrupt_effect i f kind)
  | deliver => exact .inl (deliver_effect i f)
  | startChild => exact .inl (startChild_effect f)
  | preflightReturns fault hooks => exact .inl (preflightReturns_effect f fault hooks)
  | childEnds fault => exact .inl (childEnds_effect f fault)
  | cancelChild => exact .inl (cancelChild_effect f)
  | finishCall => exact (finishCall_effect f).imp_right fun hdropped => ⟨rfl,hdropped⟩
  | returnResult => exact .inl (returnResult_effect f)

end Frame

inductive StepCase (w : World) (e : Event) (v : World) : Prop
  | idle (hattempts : v.attempts = w.attempts) (hbreaker : v.runtime.breaker = w.runtime.breaker)
  | connected (hattempts : v.attempts = w.attempts)
      (hbreaker : v.runtime.breaker = w.runtime.breaker.recordSuccess)
  | begun (call : Call) (breaker : CircuitBreaker) (g : Frame)
      (hbefore : w.runtime.breaker.beforeCall w.runtime.now = .ok breaker)
      (heffect : Effect ⟨{w.runtime with breaker},beginRequest call breaker⟩ g)
      (hstep : v = ⟨g.runtime,w.attempts ++ [g.attempt]⟩)
  | ran (i : ℕ) (action : Action) (a : Attempt) (g : Frame) (hevent : e = .on i action)
      (ha : w.attempts[i]? = some a)
      (heffect : Effect ⟨w.runtime,a⟩ g ∨ action = .finishCall ∧ Dropped ⟨w.runtime,a⟩ g)
      (hstep : v = ⟨g.runtime,w.attempts.set i g.attempt⟩)

theorem step_cases (w : World) (e : Event) : StepCase w e (step w e).2 := by
  cases e with
  | tick now => exact .idle rfl rfl
  | begin call hooks =>
    cases hbefore : w.runtime.breaker.beforeCall w.runtime.now with
    | error message =>
      have hstep : step w (.begin call hooks) = (some .circuitOpen,w) := by simp only [step,hbefore]
      rw [hstep]
      exact .idle rfl rfl
    | ok breaker =>
      exact .begun call breaker (Frame.awaitReady w.attempts.length _ hooks) hbefore
        (Frame.awaitReady_effect rfl) (by simp only [step,hbefore])
  | on i action =>
    cases ha : w.attempts[i]? with
    | none =>
      have hstep : step w (.on i action) = (none,w) := by simp only [step,ha]
      rw [hstep]
      exact .idle rfl rfl
    | some a =>
      exact .ran i action a _ rfl ha (Frame.advance_effect i ⟨w.runtime,a⟩ action) (by simp only [step,ha])
  | change change =>
    cases change with
    | connected => exact .connected rfl rfl
    | adoptSessions => exact .idle rfl rfl
    | publish => exact .idle rfl rfl
    | requestRestart => exact .idle rfl rfl
    | requestRecycle => exact .idle rfl rfl
    | tearDown => exact .idle rfl rfl
    | restartPlan => exact .idle rfl rfl
    | aclose => exact .idle rfl rfl
end Arbora.Fleet
