import Arbora.Fleet.ChildSteps

/-! The probe of a half open breaker: when it is sure to be settled, and how many there can be. -/
namespace Arbora.Fleet
open Machine

def World.probe (w : World) : Option ℕ :=
  if w.runtime.breaker.state = .halfOpen then some (w.attempts.length-1) else none

/-- No attempt is under way, and no child-side call either. -/
def World.Quiescent (w : World) : Prop := ∀ a ∈ w.attempts, a.stage.ended = true

instance (w : World) : Decidable w.Quiescent := inferInstanceAs (Decidable (∀ a ∈ w.attempts, a.stage.ended = true))

/-- What the completion callback of a child-side call would tell the breaker. -/
def Stage.settles : Stage → Bool
  | .sent (.done outcome) _ => outcome.settles
  | _ => true

/-- The completion callback that runs, if one does, is not that of a probe that ended with an
application error or was cancelled on the child's side. -/
def ProbeSettles (w : World) : Event → Prop
  | .on i .finishCall => w.probe = some i → ∀ a ∈ w.attempts[i]?, a.stage.settles = true
  | _ => True

instance (w : World) : ∀ e, Decidable (ProbeSettles w e)
  | .on i .finishCall =>
    inferInstanceAs (Decidable (w.probe = some i → ∀ a ∈ w.attempts[i]?, a.stage.settles = true))
  | .on _ (.resumeReady _) | .on _ (.resumeSlot _) | .on _ (.interrupt _) | .on _ .deliver
  | .on _ .startChild | .on _ (.preflightReturns ..) | .on _ (.childEnds _) | .on _ .cancelChild
  | .on _ .returnResult | .tick _ | .begin .. | .change _ => isTrue trivial

structure Settling (w : World) : Prop where
  sound : w.runtime.breaker.Sound
  owed : w.runtime.breaker.state = .halfOpen → ∃ a, w.attempts[w.attempts.length-1]? = some a ∧ a.Owes

variable {w : World} {g : Frame} {i k n : ℕ} {a b : Attempt} {l : List Attempt}

theorem StepCase.sound {v : World} {e : Event} (h : StepCase w e v) (hw : w.runtime.breaker.Sound) :
    v.runtime.breaker.Sound := by
  cases h with
  | idle _ hbreaker =>
    rw [hbreaker]
    exact hw
  | connected _ hbreaker =>
    rw [hbreaker]
    exact CircuitBreaker.recordSuccess_sound hw
  | begun call breaker g hbefore heffect hstep =>
    subst hstep
    exact heffect.sound (CircuitBreaker.beforeCall_sound hw hbefore)
  | ran i action a g _ _ heffect hstep =>
    subst hstep
    rcases heffect with heffect | ⟨-,hdropped⟩
    · exact heffect.sound hw
    · show g.runtime.breaker.Sound
      rw [hdropped.breaker]
      exact hw

theorem begun_owed {call : Call} {breaker : CircuitBreaker} (hsound : breaker.Sound) (heffect :
    Effect ⟨{w.runtime with breaker},beginRequest call breaker⟩ g)
    (hstate : g.runtime.breaker.state = .halfOpen) : g.attempt.Owes := by
  have hkept := heffect.kept_of_halfOpen hsound hstate
  have hclaimed : breaker.state = .halfOpen := by
    rw [← hstate,hkept.breaker]
  exact hkept.owes ⟨decide_eq_true hclaimed,rfl⟩

theorem ran_owed {action : Action} (hsound : w.runtime.breaker.Sound)
    (ha : w.attempts[i]? = some a) (howes : a.Owes) (hprobe : w.probe = some i)
    (hsettles : ProbeSettles w (.on i action))
    (heffect : Effect ⟨w.runtime,a⟩ g ∨ action = .finishCall ∧ Dropped ⟨w.runtime,a⟩ g)
    (hstate : g.runtime.breaker.state = .halfOpen) : g.attempt.Owes := by
  rcases heffect with heffect | ⟨rfl,hdropped⟩
  · exact (heffect.kept_of_halfOpen hsound hstate).owes howes
  · obtain ⟨outcome,result,hstage,hsilent⟩ := hdropped.outcome
    have htold := hsettles hprobe a ha
    have hstage' : a.stage = .sent (.done outcome) result := hstage
    rw [hstage'] at htold
    exact absurd (hsilent.symm.trans htold) Bool.false_ne_true

theorem settling_step (w : World) (e : Event) (hw : Settling w) (he : ProbeSettles w e) : Settling (step w e).2 := by
  have hcase := step_cases w e
  refine ⟨hcase.sound hw.sound,fun hstate => ?_⟩
  generalize (step w e).2 = v at hcase hstate
  cases hcase with
  | idle hattempts hbreaker =>
    rw [hbreaker] at hstate
    rw [hattempts]
    exact hw.owed hstate
  | connected _ hbreaker =>
    rw [hbreaker,CircuitBreaker.recordSuccess_state hw.sound] at hstate
    cases hstate
  | begun call breaker g hbefore heffect hstep =>
    subst hstep
    refine ⟨g.attempt,?_,begun_owed (CircuitBreaker.beforeCall_sound hw.sound hbefore) heffect hstate⟩
    simp
  | ran i action a g hevent ha heffect hstep =>
    subst hstep hevent
    have hbefore : w.runtime.breaker.state = .halfOpen := by
      rcases heffect with heffect | ⟨-,hdropped⟩
      · rw [← hstate,(heffect.kept_of_halfOpen hw.sound hstate).breaker]
      · rw [← hstate,hdropped.breaker]
    obtain ⟨last,hlast,howes⟩ := hw.owed hbefore
    rw [List.length_set,List.getElem?_set]
    by_cases hi : i = w.attempts.length-1
    · subst hi
      obtain rfl := Option.some.inj (ha.symm.trans hlast)
      have hprobe : w.probe = some (w.attempts.length-1) := if_pos hbefore
      have hlt : w.attempts.length-1 < w.attempts.length := (List.getElem?_eq_some_iff.mp ha).1
      rw [if_pos rfl,if_pos hlt]
      exact ⟨_,rfl,ran_owed hw.sound ha howes hprobe he heffect hstate⟩
    · rw [if_neg hi]
      exact ⟨last,hlast,howes⟩

theorem start_settling (config : Config) : Settling (World.start config) :=
  ⟨CircuitBreaker.new_sound _ _,fun hstate => by cases hstate⟩

/-- Once nothing is under way no probe is in flight, and none is said to be. -/
theorem probe_settled (config : Config) (events : List Event)
    (h : Along step ProbeSettles (World.start config) events)
    (hquiet : (after step (World.start config) events).Quiescent) :
    let breaker := (after step (World.start config) events).runtime.breaker
    ¬ (breaker.state = .halfOpen ∧ breaker.probeInFlight = true) ∧
      ∀ now, breaker.beforeCall now ≠ .error "MCP child server probe is already in flight" := by
  have hsettling := h.invariant (P := Settling) settling_step (start_settling config)
  have hstate : (after step (World.start config) events).runtime.breaker.state ≠ .halfOpen := by
    intro hhalf
    obtain ⟨a,ha,howes⟩ := hsettling.owed hhalf
    have hended := Stage.pending_of_ended (hquiet a (List.mem_of_getElem? ha))
    exact absurd (hended.symm.trans howes.2) Bool.false_ne_true
  exact ⟨fun hprobe => hstate hprobe.1,fun now hrefused => hstate (CircuitBreaker.beforeCall_probe hrefused)⟩

def touchyConfig : Config where
  maxConcurrency := ⟨4,by decide⟩
  queueTimeout := ⟨1,by decide +kernel⟩
  callTimeout := ⟨10,by decide +kernel⟩
  breakerThreshold := ⟨1,by decide⟩
  breakerCooldown := ⟨1,by decide +kernel⟩
  supervised := false

def beginsCall : Event := .begin (.tool none false false) ⟨.ok true,none,false⟩
def runsChild (i : ℕ) (fault : Option Fault) : List Event :=
  [.on i .startChild,.on i (.childEnds fault),.on i .finishCall,.on i .returnResult]
def opensCircuit : List Event :=
  [.change (.adoptSessions 1),beginsCall] ++ runsChild 0 (some (.transport false))
def probeRefused : List Event := opensCircuit ++ [.tick 5,beginsCall] ++ runsChild 1 (some .application)

def Event.reconnects : Event → Bool
  | .change (.connected _) => true
  | _ => false

theorem probe_left_in_flight : ¬ ∀ (config : Config) (events : List Event),
    0 < config.breakerThreshold.1 → (∀ e ∈ events, e.reconnects = false) →
    (after step (World.start config) events).Quiescent →
      ¬ ((after step (World.start config) events).runtime.breaker.state = .halfOpen ∧
        (after step (World.start config) events).runtime.breaker.probeInFlight = true) := by
  intro h
  exact h touchyConfig probeRefused (by decide) (by decide) (by decide +kernel) (by decide +kernel)

/-- The probe comes back with a result. -/
theorem probe_settled_here :
    (after step (World.start touchyConfig) (opensCircuit ++ [.tick 5,beginsCall] ++ runsChild 1 none)).Quiescent ∧
      ∀ now, (after step (World.start touchyConfig)
          (opensCircuit ++ [.tick 5,beginsCall] ++ runsChild 1 none)).runtime.breaker.beforeCall now ≠
        .error "MCP child server probe is already in flight" :=
  ⟨by decide +kernel,(probe_settled touchyConfig (opensCircuit ++ [.tick 5,beginsCall] ++ runsChild 1 none)
    (by decide +kernel) (by decide +kernel)).2⟩

def Event.attempt : Event → Option ℕ
  | .on i _ => some i
  | .tick _ | .begin .. | .change _ => none

def failsElsewhere (w : World) (e : Event) : Bool :=
  w.runtime.breaker.state = .halfOpen && (step w e).2.runtime.breaker.state = .opened && e.attempt ≠ w.probe
def StaysOpen (w : World) (e : Event) : Prop := (step w e).2.runtime.breaker.state ≠ .closed

instance (w : World) (e : Event) : Decidable (StaysOpen w e) :=
  inferInstanceAs (Decidable ((step w e).2.runtime.breaker.state ≠ .closed))

/-- The calls among some that have neither ended nor timed out. -/
def inProgress (attempts : List Attempt) : ℕ := attempts.countP (·.stage.live)

theorem inProgress_dropLast (l : List Attempt) : inProgress l ≤ inProgress l.dropLast+1 := by
  rcases List.eq_nil_or_concat l with rfl | ⟨l,a,rfl⟩
  · exact Nat.zero_le _
  · unfold inProgress
    rw [List.concat_eq_append,List.dropLast_concat,List.countP_append]
    exact Nat.add_le_add_left List.countP_le_length _

theorem inProgress_set {j : ℕ} (ha : l[j]? = some a)
    (hlive : b.stage.live = true → a.stage.live = true) : inProgress (l.set j b) ≤ inProgress l := by
  induction l generalizing j with
  | nil => cases ha
  | cons c l ih =>
    cases j with
    | zero =>
      obtain rfl := Option.some.inj ha
      unfold inProgress
      rw [List.set_cons_zero,List.countP_cons,List.countP_cons]
      refine Nat.add_le_add_left ?_ _
      split
      · rename_i hb
        rw [if_pos (hlive hb)]
      · exact Nat.zero_le _
    | succ j =>
      have hrest := ih ha
      unfold inProgress at hrest ⊢
      rw [List.set_cons_succ,List.countP_cons,List.countP_cons]
      exact Nat.add_le_add_right hrest _

theorem inProgress_set_dropLast {j : ℕ} (ha : l[j]? = some a) (hlive : b.stage.live = true → a.stage.live = true) :
    inProgress (l.set j b).dropLast ≤ inProgress l.dropLast := by
  rcases List.eq_nil_or_concat l with rfl | ⟨l,c,rfl⟩
  · cases ha
  · rw [List.concat_eq_append] at ha ⊢
    rcases Nat.lt_or_ge j l.length with hj | hj
    · rw [List.getElem?_append_left hj] at ha
      rw [List.set_append_left _ _ hj,List.dropLast_concat,List.dropLast_concat]
      exact inProgress_set ha hlive
    · have hlast : ∃ d, [c].set (j-l.length) b = [d] := by
        cases j-l.length with
        | zero => exact ⟨b,rfl⟩
        | succ n => exact ⟨c,rfl⟩
      obtain ⟨d,hd⟩ := hlast
      rw [List.set_append_right _ _ hj,hd,List.dropLast_concat,List.dropLast_concat]

/-- Since the first `n` attempts, with `k` failures of other calls while a probe was in flight. -/
structure Admits (n k : ℕ) (w : World) : Prop where
  sound : w.runtime.breaker.Sound
  started : n ≤ w.attempts.length
  broken : w.runtime.breaker.state ≠ .closed
  opened : w.runtime.breaker.state = .opened → inProgress (w.attempts.drop n) ≤ k
  halfOpen : w.runtime.breaker.state = .halfOpen → inProgress (w.attempts.drop n).dropLast ≤ k

theorem Admits.inProgress_le (h : Admits n k w) : inProgress (w.attempts.drop n) ≤ k+1 := by
  cases hstate : w.runtime.breaker.state with
  | closed => exact absurd hstate h.broken
  | opened => exact (h.opened hstate).trans (Nat.le_succ k)
  | halfOpen =>
    exact (inProgress_dropLast _).trans (Nat.succ_le_succ (h.halfOpen hstate))

theorem begun_admits {call : Call} {breaker : CircuitBreaker} (hw : Admits n k w) (hbefore :
    w.runtime.breaker.beforeCall w.runtime.now = .ok breaker)
    (heffect : Effect ⟨{w.runtime with breaker},beginRequest call breaker⟩ g)
    (hbroken : g.runtime.breaker.state ≠ .closed) :
    Admits n k ⟨g.runtime,w.attempts ++ [g.attempt]⟩ := by
  have hsound := CircuitBreaker.beforeCall_sound hw.sound hbefore
  have hopened : inProgress (w.attempts.drop n) ≤ k := by
    rcases CircuitBreaker.beforeCall_ok hw.sound hbefore with ⟨-,hclosed⟩ | ⟨hopened,-,-⟩
    · exact absurd hclosed hw.broken
    · exact hw.opened hopened
  refine ⟨heffect.sound hsound,?_,hbroken,fun hstate => ?_,fun _ => ?_⟩
  · rw [List.length_append]
    exact hw.started.trans (Nat.le_add_right _ _)
  · have hdead : g.attempt.stage.live = false := by
      cases heffect with
      | kept hkept =>
        have hopen : breaker.state = .opened := by rw [← hstate,hkept.breaker]
        rcases CircuitBreaker.beforeCall_ok hw.sound hbefore with ⟨-,hclosed⟩ | ⟨-,-,rfl⟩
        · exact absurd hclosed hw.broken
        · cases hopen
      | failed _ hlive => exact hlive
      | succeeded _ hlive => exact hlive
    rw [List.drop_append_of_le_length hw.started]
    unfold inProgress at hopened ⊢
    rw [List.countP_append,List.countP_singleton,if_neg (by rw [hdead]; exact Bool.false_ne_true)]
    exact hopened
  · dsimp only
    rw [List.drop_append_of_le_length hw.started,List.dropLast_concat]
    exact hopened

theorem drop_set_inProgress (ha : l[i]? = some a) (hlive : b.stage.live = true → a.stage.live = true) :
    inProgress ((l.set i b).drop n) ≤ inProgress (l.drop n) ∧
      inProgress ((l.set i b).drop n).dropLast ≤ inProgress (l.drop n).dropLast := by
  rw [List.drop_set]
  split
  · exact ⟨Nat.le_refl _,Nat.le_refl _⟩
  · rename_i hi
    have ha' : (l.drop n)[i-n]? = some a := by
      rw [List.getElem?_drop,Nat.add_sub_cancel' (Nat.le_of_not_lt hi)]
      exact ha
    exact ⟨inProgress_set ha' hlive,inProgress_set_dropLast ha' hlive⟩

theorem drop_set_last (hdead : b.stage.live = false) :
    inProgress ((l.set (l.length-1) b).drop n) ≤ inProgress (l.drop n).dropLast := by
  rcases List.eq_nil_or_concat l with rfl | ⟨l,c,rfl⟩
  · exact Nat.le_of_eq (by simp [inProgress])
  · rw [List.concat_eq_append,List.length_append,List.length_singleton,Nat.add_sub_cancel,
      List.set_append_right _ _ (Nat.le_refl _),Nat.sub_self,List.set_cons_zero]
    rcases Nat.lt_or_ge l.length n with hn | hn
    · rw [List.drop_of_length_le (by rw [List.length_append]; exact hn)]
      exact Nat.zero_le _
    · rw [List.drop_append_of_le_length hn,List.drop_append_of_le_length hn,List.dropLast_concat]
      unfold inProgress
      rw [List.countP_append,List.countP_singleton,if_neg (by rw [hdead]; exact Bool.false_ne_true)]
      exact Nat.le_refl _

theorem silent_admits (hw : Admits n k w)
    (ha : w.attempts[i]? = some a) (hbreaker : g.runtime.breaker = w.runtime.breaker)
    (hlive : g.attempt.stage.live = true → a.stage.live = true) :
    Admits n k ⟨g.runtime,w.attempts.set i g.attempt⟩ := by
  obtain ⟨hall,hothers⟩ := drop_set_inProgress (n := n) ha hlive
  refine ⟨hbreaker ▸ hw.sound,?_,hbreaker ▸ hw.broken,fun hstate => ?_,fun hstate => ?_⟩
  · rw [List.length_set]
    exact hw.started
  · rw [hbreaker] at hstate
    exact hall.trans (hw.opened hstate)
  · rw [hbreaker] at hstate
    exact hothers.trans (hw.halfOpen hstate)

/-- A failure counts when it is not the probe's own and comes while the probe is in flight. -/
theorem failed_admits {action : Action} (hw : Admits n k w) (ha : w.attempts[i]? = some a)
    (hstep : (step w (.on i action)).2 = ⟨g.runtime,w.attempts.set i g.attempt⟩)
    (hbreaker : g.runtime.breaker = w.runtime.breaker.recordFailure w.runtime.now)
    (hdead : g.attempt.stage.live = false) (hbroken : g.runtime.breaker.state ≠ .closed) :
    Admits n (k+if failsElsewhere w (.on i action) then 1 else 0) ⟨g.runtime,w.attempts.set i g.attempt⟩ := by
  have hsound : g.runtime.breaker.Sound := hbreaker ▸ CircuitBreaker.recordFailure_sound hw.sound
  have hnever : g.runtime.breaker.state ≠ .halfOpen := hbreaker ▸ CircuitBreaker.recordFailure_state hw.sound
  have hlive : g.attempt.stage.live = true → a.stage.live = true := by
    rw [hdead]
    exact Bool.false_ne_true.elim
  have hall := (drop_set_inProgress (n := n) ha hlive).1
  refine ⟨hsound,?_,hbroken,fun hopened => ?_,fun hstate => absurd hstate hnever⟩
  · rw [List.length_set]
    exact hw.started
  · dsimp only
    cases hstate : w.runtime.breaker.state with
    | closed => exact absurd hstate hw.broken
    | opened => exact (hall.trans (hw.opened hstate)).trans (Nat.le_add_right _ _)
    | halfOpen =>
      have hprobe : w.probe = some (w.attempts.length-1) := if_pos hstate
      by_cases hi : i = w.attempts.length-1
      · subst hi
        exact ((drop_set_last hdead).trans (hw.halfOpen hstate)).trans (Nat.le_add_right _ _)
      · have hforeign : failsElsewhere w (.on i action) = true := by
          unfold failsElsewhere
          rw [hstep,hprobe]
          have hafter : g.runtime.breaker.state = .opened := hopened
          simpa [hstate,hafter,Event.attempt] using hi
        rw [if_pos hforeign]
        exact hall.trans hw.inProgress_le

theorem admits_step (n k : ℕ) (w : World) (e : Event) (hw : Admits n k w) (he : StaysOpen w e) :
    Admits n (k+if failsElsewhere w e then 1 else 0) (step w e).2 := by
  have hmono {v : World} (h : Admits n k v) : Admits n (k+if failsElsewhere w e then 1 else 0) v :=
    ⟨h.sound,h.started,h.broken,fun hstate => (h.opened hstate).trans (Nat.le_add_right _ _),
      fun hstate => (h.halfOpen hstate).trans (Nat.le_add_right _ _)⟩
  cases step_cases w e with
  | idle hattempts hbreaker =>
    refine hmono ⟨?_,?_,?_,?_,?_⟩
    · exact hbreaker ▸ hw.sound
    · exact hattempts ▸ hw.started
    · exact hbreaker ▸ hw.broken
    · rw [hattempts,hbreaker]
      exact hw.opened
    · rw [hattempts,hbreaker]
      exact hw.halfOpen
  | connected _ hbreaker =>
    unfold StaysOpen at he
    rw [hbreaker,CircuitBreaker.recordSuccess_state hw.sound] at he
    exact absurd rfl he
  | begun call breaker g hbefore heffect hstep =>
    unfold StaysOpen at he
    rw [hstep] at he ⊢
    exact hmono (begun_admits hw hbefore heffect he)
  | ran i action a g hevent ha heffect hstep =>
    subst hevent
    unfold StaysOpen at he
    rcases heffect with heffect | ⟨-,hdropped⟩
    · cases heffect with
      | kept hkept =>
        rw [hstep]
        exact hmono (silent_admits hw ha hkept.breaker hkept.live)
      | failed hbreaker hdead =>
        rw [hstep] at he ⊢
        exact failed_admits hw ha hstep hbreaker hdead he
      | succeeded hbreaker hdead =>
        rw [hstep] at he
        rw [hbreaker,CircuitBreaker.recordSuccess_state hw.sound] at he
        exact absurd rfl he
    · rw [hstep]
      have hlive : g.attempt.stage.live = true → a.stage.live = true := by
        rw [hdropped.live]
        exact Bool.false_ne_true.elim
      exact hmono (silent_admits hw ha hdropped.breaker hlive)

def probeTimesOut : List Event :=
  [.tick 5,beginsCall,.on 1 .startChild,.tick 100,.on 1 (.interrupt .timeout),.on 1 .deliver,
    .tick 200,beginsCall,.on 2 .startChild]

end Arbora.Fleet
