import Arbora.Fleet.Supervisor
import Arbora.Lib.SlidingWindow

/-! The restarts of a child: how many are counted in any window of time, and what is a restart and what a recycle. -/
namespace Arbora.Fleet.Supervisor
open FloatingPoint (binary64)
open SlidingWindow (Tracks)
open Supervision

section
variable {s s' : Supervision} {e : Event}

/-- What leaves the records of the supervisor alone. -/
structure Quiet (s s' : Supervision) : Prop where
  policy : s'.policy = s.policy
  now : s.now ≤ s'.now
  history : s'.history = s.history
  restartTimes : s'.restartTimes = s.restartTimes
  restartCount : s'.restartCount = s.restartCount
  ended : s.phase = .ended → s'.phase = .ended
  failed : s'.lifecycle.state = .failed → s.lifecycle.state = .failed

theorem Quiet.refl (s : Supervision) : Quiet s s := ⟨rfl,le_refl _,rfl,rfl,rfl,id,id⟩
theorem quiet_publish (hs : s.phase ≠ .ended) : Quiet s s.publish :=
  ⟨rfl,le_refl _,rfl,rfl,rfl,fun h => absurd h hs,id⟩

theorem quiet_connected (hs : s.phase ≠ .ended) (sessions : ℕ) : Quiet s (s.connected sessions) := by
  unfold connected publish
  dsimp only
  split_ifs
  all_goals exact ⟨rfl,le_refl _,rfl,rfl,rfl,fun h => absurd h hs,nofun⟩

theorem requestRestart_state (l : Lifecycle) (h : (l.requestRestart true).state = .failed) : l.state = .failed := by
  unfold Lifecycle.requestRestart at h
  split_ifs at h
  exact h

theorem requestRecycle_state (l : Lifecycle) (h : (l.requestRecycle true).state = .failed) : l.state = .failed := by
  unfold Lifecycle.requestRecycle at h
  split_ifs at h
  exact h

theorem quiet_requestRestart (s : Supervision) : Quiet s s.requestRestart := by
  unfold requestRestart
  split_ifs
  · exact ⟨rfl,le_refl _,rfl,rfl,rfl,id,requestRestart_state _⟩
  · exact .refl s

theorem quiet_requestRecycle (s : Supervision) : Quiet s s.requestRecycle := by
  unfold requestRecycle
  split_ifs
  · exact ⟨rfl,le_refl _,rfl,rfl,rfl,id,requestRecycle_state _⟩
  · exact .refl s

/-- A step makes an attempt, or sees the run of a connection over, or leaves the records alone. -/
theorem step_cases (s : Supervision) (e : Event) : Quiet s (step s e) ∨ (s.phase ≠ .ended ∧ step s e = s.attempt) ∨
      ∃ raised jitter, e = .exits raised jitter ∧ s.phase = .unwinding ∧ step s e = s.exits raised jitter.1 := by
  cases e with
  | tick now => exact .inl ⟨rfl,le_max_left _ _,rfl,rfl,rfl,id,id⟩
  | begins =>
    by_cases h : s.phase = .scheduled
    · exact .inr (.inl ⟨by simp [h],if_pos h⟩)
    · exact .inl (by rw [show step s .begins = s from if_neg h]; exact .refl s)
  | abandoned => exact .inl ⟨rfl,le_refl _,rfl,rfl,rfl,id,id⟩
  | connected sessions =>
    refine .inl ?_
    by_cases h : s.phase = .connecting
    · rw [show step s (.connected sessions) = s.connected sessions from if_pos h]
      exact quiet_connected (by simp [h]) sessions
    · rw [show step s (.connected sessions) = s from if_neg h]
      exact .refl s
  | notified =>
    refine .inl ?_
    by_cases h : s.phase = .notifying
    · rw [show step s .notified = s.publish from if_pos h]
      exact quiet_publish (by simp [h])
    · rw [show step s .notified = s from if_neg h]
      exact .refl s
  | fails =>
    refine .inl ?_
    by_cases h : s.phase = .connecting ∨ s.phase = .notifying ∨ s.phase = .living
    · rw [show step s .fails = s.fails from if_pos h]
      exact ⟨rfl,le_refl _,rfl,rfl,rfl,fun hended => by simp [hended] at h,id⟩
    · rw [show step s .fails = s from if_neg h]
      exact .refl s
  | stops =>
    refine .inl ?_
    by_cases h : s.phase = .living ∧ s.stopGeneration = some true
    · rw [show step s .stops = {s with phase := .unwinding} from if_pos h]
      exact ⟨rfl,le_refl _,rfl,rfl,rfl,fun hended => by simp [hended] at h,id⟩
    · rw [show step s .stops = s from if_neg h]
      exact .refl s
  | exits raised jitter =>
    by_cases h : s.phase = .unwinding
    · exact .inr (.inr ⟨raised,jitter,rfl,h,if_pos h⟩)
    · exact .inl (by rw [show step s (.exits raised jitter) = s from if_neg h]; exact .refl s)
  | wakes =>
    cases h : s.phase with
    | sleeping delay => exact .inr (.inl ⟨by simp,by simp [step,h]⟩)
    | _ => exact .inl (by rw [show step s .wakes = s by simp [step,h]]; exact .refl s)
  | requestRestart => exact .inl (quiet_requestRestart s)
  | requestRecycle => exact .inl (quiet_requestRecycle s)
  | aclose => exact .inl ⟨rfl,le_refl _,rfl,rfl,rfl,id,id⟩
  | cancelled => exact .inl ⟨rfl,le_refl _,rfl,rfl,rfl,fun _ => rfl,id⟩
  | closes =>
    refine .inl ?_
    by_cases h : s.phase = .ended ∧ s.closed = true
    · rw [show step s .closes = {s with lifecycle := s.lifecycle.aclose} from if_pos h]
      exact ⟨rfl,le_refl _,rfl,rfl,rfl,id,nofun⟩
    · rw [show step s .closes = s from if_neg h]
      exact .refl s

/-- What is left when the run of a connection is over. -/
structure Exited (s s' : Supervision) (outcome : Outcome) : Prop where
  policy : s'.policy = s.policy
  now : s'.now = s.now
  history : s'.history = s.history ++ ⟨s.now,.concluded s.cause outcome⟩ ::
    (if outcome = .recycled then [⟨s.now,.attempt⟩] else [])
  /-- Only a recycle that was asked for is one. -/
  recycled : outcome = .recycled → s.lifecycle.recycleRequested = true
  goesOn : outcome = .recycled ∨ outcome = .counted → s'.cause = none ∧ s'.lifecycle.recycleRequested = false
  kept : outcome = .recycled → s'.restartTimes = s.restartTimes
  counted : outcome = .counted → s'.restartTimes = s.recentRestarts ∧ s'.restartTimes.length ≤ s.policy.maxRestarts.1
  restartCount : s'.restartCount = s.restartCount+if outcome = .counted then 1 else 0
  ended : s'.phase = .ended ∨ outcome = .recycled ∨ outcome = .counted
  failed : s'.lifecycle.state = .failed → s'.phase = .ended

theorem attempt_open (h : s.closed = false) :
    s.attempt = {s.mark .attempt with pending := s.first, phase := .connecting} := if_neg (by simp [h])

theorem restartPlan_exited (hopen : s.closed = false) (jitter : ℚ) :
    ∃ outcome, Exited s (s.restartPlan jitter) outcome ∧ (s.lifecycle.recycleRequested = true → outcome = .recycled) := by
  unfold restartPlan
  by_cases hflag : s.lifecycle.recycleRequested = true
  · rw [if_pos hflag,attempt_open]
    swap
    · exact hopen
    refine ⟨.recycled,⟨rfl,rfl,by simp [concluded,mark],fun _ => hflag,fun _ => ⟨rfl,?_⟩,fun _ => rfl,nofun,rfl,.inr (.inl rfl),?_⟩,
      fun _ => rfl⟩
    · simp [Lifecycle.restartPlan,concluded,mark,hflag]
    · simp [Lifecycle.restartPlan,concluded,mark,hflag]
  · rw [if_neg hflag]
    dsimp only
    by_cases hfull : s.policy.maxRestarts.1 = 0 ∨ s.policy.maxRestarts.1 < s.recentRestarts.length
    · rw [if_pos hfull]
      exact ⟨.exhausted,⟨rfl,rfl,rfl,nofun,fun h => by simp at h,nofun,nofun,rfl,.inl rfl,fun _ => rfl⟩,fun h => absurd h hflag⟩
    · rw [if_neg hfull]
      refine ⟨.counted,⟨rfl,rfl,rfl,nofun,fun _ => ⟨rfl,?_⟩,nofun,fun _ => ⟨rfl,?_⟩,rfl,.inr (.inr rfl),?_⟩,
        fun h => absurd h hflag⟩
      · simp [Lifecycle.restartPlan,hflag]
      · exact not_lt.mp (not_or.mp hfull).2
      · simp [Lifecycle.restartPlan,hflag]

theorem exits_exited (s : Supervision) (raised : Bool) (jitter : ℚ) :
    ∃ outcome, Exited s (s.exits raised jitter) outcome ∧
      (s.lifecycle.recycleRequested = true → ¬(raised = true ∧ s.first = true) → outcome = .recycled ∨ outcome = .closed) := by
  unfold exits
  dsimp only
  by_cases hfirst : (raised && s.first) = true
  · rw [if_pos hfirst]
    have hboth := Bool.and_eq_true_iff.mp hfirst
    refine ⟨if s.answered then .died else .bootFailed,⟨rfl,rfl,?_,?_,?_,?_,?_,?_,.inl rfl,fun _ => rfl⟩,
      fun _ hneither => absurd hboth hneither⟩
    all_goals cases s.answered <;> simp [concluded,mark]
  · rw [if_neg hfirst]
    by_cases hclosed : s.closed = true
    · rw [if_pos hclosed]
      exact ⟨.closed,⟨rfl,rfl,rfl,nofun,fun h => by simp at h,nofun,nofun,rfl,.inl rfl,fun _ => rfl⟩,fun _ _ => .inr rfl⟩
    · rw [if_neg hclosed]
      obtain ⟨outcome,h,hflag⟩ := restartPlan_exited (s := {s with
        lifecycle := s.lifecycle.tearDown
        first := if raised then s.first else s.pending
        backoff := if raised then s.backoff else s.policy.backoffBase.1}) (Bool.not_eq_true _ ▸ hclosed) jitter
      exact ⟨outcome,⟨h.policy,h.now,h.history,h.recycled,h.goesOn,h.kept,h.counted,h.restartCount,h.ended,h.failed⟩,
        fun hrecycle _ => .inl (hflag hrecycle)⟩

end

section

def countedTimes (history : List Mark) : List Instant :=
  (history.filter fun m => match m.happening with
    | .concluded _ .counted => true
    | _ => false).map (·.time)

def attempts (history : List Mark) : ℕ := history.countP (·.happening = .attempt)

/-- The closed interval of a length from a time on. -/
def within (length a : ℚ) (t : Instant) : Bool := a ≤ t.1 && t.1 ≤ a+length

def Prompt : List Mark → Prop
  | [] => True
  | m :: rest =>
    (∀ cause, m.happening = .concluded cause .recycled → ∃ more, rest = ⟨m.time,.attempt⟩ :: more) ∧ Prompt rest

variable {history more : List Mark} {m : Mark} {now : Instant} {cause : Option Cause} {outcome : Outcome}

theorem countedTimes_append : countedTimes (history ++ more) = countedTimes history ++ countedTimes more := by
  simp [countedTimes]

theorem countedTimes_concluded : countedTimes (⟨now,.concluded cause outcome⟩ ::
    (if outcome = .recycled then [⟨now,.attempt⟩] else [])) = if outcome = .counted then [now] else [] := by
  cases outcome <;> rfl

theorem Prompt.append (h : Prompt history) (hmore : Prompt more) : Prompt (history ++ more) := by
  induction history with
  | nil => exact hmore
  | cons m rest ih =>
    refine ⟨fun cause hm => ?_,ih h.2⟩
    obtain ⟨more',hrest⟩ := h.1 cause hm
    exact ⟨more' ++ more,by rw [hrest]; rfl⟩

theorem prompt_concluded : Prompt (⟨now,.concluded cause outcome⟩ :: (if outcome = .recycled then [⟨now,.attempt⟩] else [])) := by
  by_cases h : outcome = .recycled
  · rw [if_pos h]
    exact ⟨fun _ _ => ⟨[],rfl⟩,nofun,trivial⟩
  · rw [if_neg h]
    exact ⟨fun _ hm => absurd (Happening.concluded.inj hm).2 h,trivial⟩

theorem Prompt.next (h : Prompt history) {before after : List Mark} (hsplit : history = before ++ m :: after)
    (hm : m.happening = .concluded cause .recycled) : ∃ rest, after = ⟨m.time,.attempt⟩ :: rest := by
  induction before generalizing history with
  | nil =>
    subst hsplit
    exact h.1 cause hm
  | cons first before ih =>
    subst hsplit
    exact ih h.2 rfl

end

section
variable {s s' : Supervision}

/-- A restart is out of a window that ends now. -/
def Expired (length : ℚ) (now t : Instant) : Prop := t.1 < now.1-length

theorem expired_of_old {length : ℚ} {now t : Instant} (h : t.1 < binary64.nearest (now.1-length)) : Expired length now t := by
  by_contra hlive
  exact absurd (binary64.nearest_le_of_fixed (not_lt.mp hlive) t.2) (not_le.mpr h)

theorem not_expired_of_within {length a : ℚ} {now t : Instant} (hnow : within length a now = true)
    (ht : within length a t = true) : ¬Expired length now t := by
  simp only [within,Bool.and_eq_true,decide_eq_true_eq] at hnow ht
  unfold Expired
  linarith [hnow.2,ht.1]

theorem Expired.later {length : ℚ} {now now' t : Instant} (hnow : now ≤ now') (h : Expired length now t) :
    Expired length now' t := by
  have hle : now.1 ≤ now'.1 := hnow
  unfold Expired at h ⊢
  linarith

structure Accounted (s : Supervision) : Prop where
  counter : s.restartCount = (countedTimes s.history).length
  budget : ∀ a, (countedTimes s.history).countP (within s.policy.restartWindow.1 a) ≤ s.policy.maxRestarts.1
  tracks : s.phase ≠ .ended → Tracks (Expired s.policy.restartWindow.1) s.now (countedTimes s.history) s.restartTimes
  parked : s.lifecycle.state = .failed → s.phase = .ended
  prompt : Prompt s.history

theorem Accounted.new (policy : Policy) (now : Instant) : Accounted (.new policy now) :=
  ⟨rfl,fun _ => Nat.zero_le _,fun _ => .empty,nofun,trivial⟩

theorem Accounted.quiet (h : Accounted s) (hquiet : Quiet s s') : Accounted s' where
  counter := by
    rw [hquiet.restartCount,hquiet.history]
    exact h.counter
  budget a := by
    rw [hquiet.policy,hquiet.history]
    exact h.budget a
  tracks hphase := by
    rw [hquiet.policy,hquiet.history,hquiet.restartTimes]
    exact (h.tracks fun hended => hphase (hquiet.ended hended)).pass fun t => Expired.later hquiet.now
  parked hfailed := hquiet.ended (h.parked (hquiet.failed hfailed))
  prompt := by
    rw [hquiet.history]
    exact h.prompt

theorem Accounted.attempt (h : Accounted s) (hphase : s.phase ≠ .ended) : Accounted s.attempt := by
  unfold Supervision.attempt
  split_ifs
  · exact ⟨h.counter,h.budget,fun hended => absurd rfl hended,fun _ => rfl,h.prompt⟩
  · have hcounted : countedTimes (s.mark .attempt).history = countedTimes s.history := by
      simp [mark,countedTimes]
    refine ⟨?_,fun a => ?_,fun _ => ?_,fun hfailed => absurd (h.parked hfailed) hphase,?_⟩
    · change s.restartCount = (countedTimes (s.mark .attempt).history).length
      rw [hcounted]
      exact h.counter
    · change (countedTimes (s.mark .attempt).history).countP _ ≤ _
      rw [hcounted]
      exact h.budget a
    · change Tracks _ _ (countedTimes (s.mark .attempt).history) _
      rw [hcounted]
      exact h.tracks hphase
    · exact h.prompt.append ⟨nofun,trivial⟩

theorem Accounted.exited {outcome : Outcome} (h : Accounted s) (hphase : s.phase ≠ .ended) (hexited : Exited s s' outcome) :
    Accounted s' := by
  have hcounted : countedTimes s'.history = countedTimes s.history ++ if outcome = .counted then [s.now] else [] := by
    rw [hexited.history,countedTimes_append,countedTimes_concluded]
  have hprompt : Prompt s'.history := by
    rw [hexited.history]
    exact h.prompt.append prompt_concluded
  have hcounter : s'.restartCount = (countedTimes s'.history).length := by
    rw [hexited.restartCount,hcounted,h.counter,List.length_append]
    by_cases hcount : outcome = .counted
    · rw [if_pos hcount,if_pos hcount,List.length_singleton]
    · rw [if_neg hcount,if_neg hcount,List.length_nil]
  by_cases hcount : outcome = .counted
  · obtain ⟨htimes,hlength⟩ := hexited.counted hcount
    rw [if_pos hcount] at hcounted
    have htracks : Tracks (Expired s.policy.restartWindow.1) s.now (countedTimes s.history ++ [s.now]) s'.restartTimes := by
      rw [htimes]
      exact (h.tracks hphase).enter (fun t ht => expired_of_old (of_decide_eq_true ht)) s.now
    refine ⟨hcounter,fun a => ?_,fun _ => ?_,hexited.failed,hprompt⟩
    · rw [hcounted,hexited.policy]
      exact htracks.bounded hlength (fun _ _ => not_expired_of_within) h.budget a
    · rw [hcounted,hexited.policy,hexited.now]
      exact htracks
  · rw [if_neg hcount,List.append_nil] at hcounted
    refine ⟨hcounter,fun a => ?_,fun hlive => ?_,hexited.failed,hprompt⟩
    · rw [hcounted,hexited.policy]
      exact h.budget a
    · have hrecycled : outcome = .recycled := (hexited.ended.resolve_left hlive).resolve_right hcount
      rw [hcounted,hexited.policy,hexited.now,hexited.kept hrecycled]
      exact h.tracks hphase

theorem Accounted.step (h : Accounted s) (e : Event) : Accounted (step s e) := by
  rcases step_cases s e with hquiet | ⟨hphase,hattempt⟩ | ⟨raised,jitter,rfl,hphase,hexits⟩
  · exact h.quiet hquiet
  · rw [hattempt]
    exact h.attempt hphase
  · rw [hexits]
    obtain ⟨outcome,hexited,-⟩ := exits_exited s raised jitter.1
    exact h.exited (by simp [hphase]) hexited

theorem accounted_run (h : Accounted s) (events : List Event) : Accounted (run s events) := by
  induction events generalizing s with
  | nil => exact h
  | cons e events ih => exact ih (h.step e)

theorem history_of_ended (h : s.phase = .ended) (events : List Event) : (run s events).history = s.history := by
  induction events generalizing s with
  | nil => rfl
  | cons e events ih =>
    rcases step_cases s e with hquiet | ⟨hphase,-⟩ | ⟨_,_,-,hphase,-⟩
    · exact (ih (hquiet.ended h)).trans hquiet.history
    · exact absurd h hphase
    · rw [h] at hphase
      cases hphase

end

section
variable {s s' : Supervision} {e : Event}

/-- No recycle is taken up for a connection that has failed of itself and is still unwinding, and the first connection does
not raise when it unwinds for a recycle. -/
def Heeds (s : Supervision) : Event → Prop
  | .requestRecycle => s.listens = true → s.cause ≠ some .failure
  | .exits raised _ => raised = true → s.first = true → s.cause ≠ some .recycle
  | _ => True

def Heeded : Supervision → List Event → Prop
  | _, [] => True
  | s, e :: events => Heeds s e ∧ Heeded (step s e) events

/-- The flag of the supervisor is set exactly while the connection comes to its end by a recycle. -/
def Flagged (lifecycle : Lifecycle) (cause : Option Cause) : Prop :=
  lifecycle.recycleRequested = true ↔ cause = some .recycle

theorem Flagged.failure {l l' : Lifecycle} {cause : Option Cause} (h : Flagged l cause)
    (hsame : l'.recycleRequested = l.recycleRequested) : Flagged l' (some (cause.getD .failure)) := by
  unfold Flagged at h ⊢
  rw [hsame,h]
  cases cause with
  | none => simp
  | some cause => rfl

theorem flagged_connected (h : Flagged s.lifecycle s.cause) (sessions : ℕ) :
    Flagged (s.connected sessions).lifecycle (s.connected sessions).cause := by
  unfold connected publish
  dsimp only
  split_ifs
  · exact h.failure rfl
  · exact h
  · exact h
  · exact h

theorem flagged_requestRestart (h : Flagged s.lifecycle s.cause) :
    Flagged s.requestRestart.lifecycle s.requestRestart.cause := by
  have hsame : (s.lifecycle.requestRestart true).recycleRequested = s.lifecycle.recycleRequested := by
    unfold Lifecycle.requestRestart
    split_ifs
    · rfl
    · rfl
  unfold requestRestart
  split_ifs
  · exact h.failure hsame
  · exact h

theorem flagged_requestRecycle (h : Flagged s.lifecycle s.cause) (hheeds : Heeds s .requestRecycle) :
    Flagged s.requestRecycle.lifecycle s.requestRecycle.cause := by
  unfold requestRecycle
  split_ifs with hlistens
  · have hup : s.lifecycle.state = .up := by
      simp only [listens,Bool.and_eq_true,decide_eq_true_eq] at hlistens
      exact hlistens.2
    refine iff_of_true ?_ ?_
    · simp [stop,Lifecycle.requestRecycle,hup]
    · change some (s.cause.getD .recycle) = some .recycle
      cases hcause : s.cause with
      | none => rfl
      | some cause =>
        cases cause with
        | recycle => rfl
        | failure => exact absurd hcause (hheeds hlistens)
  · exact h

theorem flagged_attempt (h : Flagged s.lifecycle s.cause) : Flagged s.attempt.lifecycle s.attempt.cause := by
  unfold attempt
  split_ifs
  · exact h
  · exact h

/-- Every recycle is taken as one, and nothing else is. -/
structure Told (s : Supervision) : Prop where
  flagged : s.phase ≠ .ended → Flagged s.lifecycle s.cause
  recycles : ∀ m ∈ s.history, ∀ outcome, m.happening = .concluded (some .recycle) outcome →
    outcome = .recycled ∨ outcome = .closed
  failures : ∀ m ∈ s.history, ∀ cause, m.happening = .concluded cause .recycled → cause = some .recycle

theorem Told.new (policy : Policy) (now : Instant) : Told (.new policy now) :=
  ⟨fun _ => iff_of_false nofun nofun,List.forall_mem_nil _,List.forall_mem_nil _⟩

theorem Told.same (h : Told s) (hhistory : s'.history = s.history)
    (hflagged : s'.phase ≠ .ended → Flagged s'.lifecycle s'.cause) : Told s' := by
  refine ⟨hflagged,?_,?_⟩
  · rw [hhistory]
    exact h.recycles
  · rw [hhistory]
    exact h.failures

theorem Told.attempt (h : Told s) (hphase : s.phase ≠ .ended) : Told s.attempt := by
  have hflagged := flagged_attempt (h.flagged hphase)
  unfold Supervision.attempt at hflagged ⊢
  split_ifs at hflagged ⊢
  · exact h.same rfl fun _ => hflagged
  · refine ⟨fun _ => hflagged,fun m hm => ?_,fun m hm => ?_⟩
    all_goals
      rcases List.mem_append.mp hm with hm | hm
    · exact h.recycles m hm
    · rw [List.mem_singleton.mp hm]
      exact fun _ => nofun
    · exact h.failures m hm
    · rw [List.mem_singleton.mp hm]
      exact fun _ => nofun

theorem Told.exits (h : Told s) {raised : Bool} {jitter : {j : ℚ // 1/2 ≤ j ∧ j ≤ 3/2}} (hphase : s.phase ≠ .ended)
    (hheeds : Heeds s (.exits raised jitter)) : Told (s.exits raised jitter.1) := by
  obtain ⟨outcome,hexited,hflag⟩ := exits_exited s raised jitter.1
  have hnew : ∀ m ∈ (s.exits raised jitter.1).history, m ∈ s.history ∨ m.happening = .concluded s.cause outcome ∨
      m.happening = .attempt := by
    intro m hm
    rw [hexited.history,List.mem_append,List.mem_cons] at hm
    rcases hm with hm | rfl | hm
    · exact .inl hm
    · exact .inr (.inl rfl)
    · split_ifs at hm
      · rw [List.mem_singleton.mp hm]
        exact .inr (.inr rfl)
      · cases hm
  refine ⟨fun hlive => ?_,fun m hm outcome' hm' => ?_,fun m hm cause hm' => ?_⟩
  · obtain ⟨hcause,hnone⟩ := hexited.goesOn (hexited.ended.resolve_left hlive)
    exact iff_of_false (by simp [hnone]) (by simp [hcause])
  · rcases hnew m hm with hold | hover | hattempt
    · exact h.recycles m hold outcome' hm'
    · obtain ⟨hcause,rfl⟩ := Happening.concluded.inj (hm'.symm.trans hover)
      have hboth : ¬(raised = true ∧ s.first = true) := fun hboth => hheeds hboth.1 hboth.2 hcause.symm
      exact hflag ((h.flagged hphase).mpr hcause.symm) hboth
    · rw [hattempt] at hm'
      cases hm'
  · rcases hnew m hm with hold | hover | hattempt
    · exact h.failures m hold cause hm'
    · obtain ⟨rfl,hrecycled⟩ := Happening.concluded.inj (hm'.symm.trans hover)
      exact (h.flagged hphase).mp (hexited.recycled hrecycled.symm)
    · rw [hattempt] at hm'
      cases hm'

theorem flagged_step (h : s.phase ≠ .ended → Flagged s.lifecycle s.cause) (hheeds : Heeds s e) (hquiet : Quiet s (step s e))
    (hlive : (step s e).phase ≠ .ended) : Flagged (step s e).lifecycle (step s e).cause := by
  have hflagged := h fun hended => hlive (hquiet.ended hended)
  cases e with
  | connected sessions =>
    unfold step
    dsimp only
    split_ifs
    · exact flagged_connected hflagged sessions
    · exact hflagged
  | fails =>
    unfold step
    dsimp only
    split_ifs
    · exact hflagged.failure rfl
    · exact hflagged
  | requestRestart => exact flagged_requestRestart hflagged
  | requestRecycle => exact flagged_requestRecycle hflagged hheeds
  | exits raised jitter =>
    by_cases hphase : s.phase = .unwinding
    · obtain ⟨outcome,hexited,-⟩ := exits_exited s raised jitter.1
      have hstep : step s (.exits raised jitter) = s.exits raised jitter.1 := if_pos hphase
      have hhistory := hquiet.history
      rw [hstep,hexited.history] at hhistory
      simp at hhistory
    · rw [show step s (.exits raised jitter) = s from if_neg hphase]
      exact hflagged
  | cancelled => exact absurd rfl hlive
  | begins =>
    unfold step
    dsimp only
    split_ifs
    · exact flagged_attempt hflagged
    · exact hflagged
  | wakes =>
    unfold step
    dsimp only
    split
    · exact flagged_attempt hflagged
    · exact hflagged
  | _ =>
    unfold step
    dsimp only
    try split_ifs
    all_goals exact hflagged

theorem Told.step (h : Told s) (hheeds : Heeds s e) : Told (step s e) := by
  rcases step_cases s e with hquiet | ⟨hphase,hattempt⟩ | ⟨raised,jitter,rfl,hphase,hexits⟩
  · exact h.same hquiet.history (flagged_step h.flagged hheeds hquiet)
  · rw [hattempt]
    exact h.attempt hphase
  · rw [hexits]
    exact h.exits (by simp [hphase]) hheeds

theorem told_run (h : Told s) {events : List Event} (hheeded : Heeded s events) : Told (run s events) := by
  induction events generalizing s with
  | nil => exact h
  | cons e events ih => exact ih (h.step hheeded.1) hheeded.2

end

/-- The law of restarts, in a state. -/
structure Lawful (s : Supervision) : Prop where
  /-- The supervisor's own count is of the counted restarts. -/
  counter : s.restartCount = (countedTimes s.history).length
  /-- No window holds more counted restarts than allowed. -/
  budget : ∀ a, (countedTimes s.history).countP (within s.policy.restartWindow.1 a) ≤ s.policy.maxRestarts.1
  /-- A connection that ends by a recycle is recycled, unless the supervisor is closed; it is not counted. -/
  recycles : ∀ m ∈ s.history, ∀ outcome, m.happening = .concluded (some .recycle) outcome →
    outcome = .recycled ∨ outcome = .closed
  /-- The next attempt is made at the time of the recycle. -/
  prompt : ∀ before m after cause, s.history = before ++ m :: after → m.happening = .concluded cause .recycled →
    ∃ rest, after = ⟨m.time,.attempt⟩ :: rest
  /-- A connection that ends by a failure is never recycled. -/
  failures : ∀ m ∈ s.history, ∀ cause, m.happening = .concluded cause .recycled → cause = some .recycle

/-- The law holds in every run that takes up no recycle while a failed connection unwinds and whose first connection does not
raise at its recycle; and once the state is failed there are no more attempts, whatever happens. -/
theorem restart_law {policy : Policy} {now : Instant} {events : List Event} (h : Heeded (.new policy now) events) :
    Lawful (run (.new policy now) events) ∧ ((run (.new policy now) events).lifecycle.state = .failed →
        ∀ more, attempts (run (run (.new policy now) events) more).history = attempts (run (.new policy now) events).history) := by
  have haccounted := accounted_run (.new policy now) events
  have htold := told_run (.new policy now) h
  refine ⟨⟨haccounted.counter,haccounted.budget,htold.recycles,fun before m after cause hsplit hm => haccounted.prompt.next hsplit hm,
    htold.failures⟩,fun hfailed more => ?_⟩
  rw [history_of_ended (haccounted.parked hfailed)]

namespace Sample

def policy : Policy := ⟨⟨3,by decide⟩,⟨300,by norm_num⟩,⟨1/2,by norm_num⟩,⟨30,by norm_num⟩,false⟩
def zero : Instant := ⟨0,binary64.nearest_zero⟩
def half : {j : ℚ // 1/2 ≤ j ∧ j ≤ 3/2} := ⟨1/2,by norm_num⟩

def crashed : List Event :=
  [.begins,.connected 1,.requestRestart,.stops,.exits false half,.wakes,.connected 1,.fails,.requestRecycle,
    .exits true half]

def torn : List Event := [.begins,.connected 1,.requestRecycle,.stops,.exits true half]
def renewed : List Event := [.begins,.connected 1,.requestRecycle,.stops,.exits false half]

end Sample

open Sample in
theorem crash_recycled : (run (.new policy zero) crashed).history.getLast? = some ⟨zero,.attempt⟩ ∧
    ⟨zero,.concluded (some .failure) .recycled⟩ ∈ (run (.new policy zero) crashed).history ∧
    (run (.new policy zero) crashed).restartCount = 1 ∧
    (run (.new policy zero) torn).history = [⟨zero,.attempt⟩,⟨zero,.concluded (some .recycle) .died⟩] ∧
    (run (.new policy zero) torn).lifecycle.state = .failed := by
  decide +kernel

open Sample in
theorem restart_law_renewed : Lawful (run (.new policy zero) renewed) ∧ (run (.new policy zero) renewed).history =
      [⟨zero,.attempt⟩,⟨zero,.concluded (some .recycle) .recycled⟩,⟨zero,.attempt⟩] := by
  have h : Heeded (.new policy zero) renewed := ⟨trivial,trivial,fun _ => nofun,trivial,nofun,trivial⟩
  exact ⟨(restart_law h).1,by decide +kernel⟩

end Arbora.Fleet.Supervisor
