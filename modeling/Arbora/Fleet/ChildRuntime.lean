import Arbora.Lib.Machine
import Arbora.Lib.Semaphore
import Mathlib.Algebra.Order.Ring.Rat

/-! The breaker of one child transport: closed, opened, or half open with one probe in flight. -/
namespace Arbora.Fleet

inductive CircuitState
  | closed | opened | halfOpen
deriving DecidableEq

structure CircuitBreaker where
  threshold : ℕ
  cooldown : ℚ
  failures : ℕ
  state : CircuitState
  openedAt : ℚ
  probeInFlight : Bool

namespace CircuitBreaker

def new (threshold : ℕ) (cooldown : ℚ) : CircuitBreaker := ⟨threshold,cooldown,0,.closed,0,false⟩
def enabled (b : CircuitBreaker) : Bool := 0 < b.threshold

def beforeCall (b : CircuitBreaker) (now : ℚ) : Except String CircuitBreaker :=
  if !b.enabled then .ok b
  else match b.state with
    | .closed => .ok b
    | .opened =>
      if 0 < b.openedAt+b.cooldown-now then .error "MCP child server circuit is open"
      else .ok {b with state := .halfOpen, probeInFlight := true}
    | .halfOpen =>
      if b.probeInFlight then .error "MCP child server probe is already in flight"
      else .ok {b with probeInFlight := true}

def recordSuccess (b : CircuitBreaker) : CircuitBreaker :=
  if !b.enabled then b else {b with failures := 0, probeInFlight := false, state := .closed}

def recordFailure (b : CircuitBreaker) (now : ℚ) : CircuitBreaker :=
  if !b.enabled then b
  else
    let failed := {b with failures := b.failures+1, probeInFlight := false}
    if b.probeInFlight || b.threshold ≤ failed.failures then {failed with openedAt := now, state := .opened}
    else failed

structure Sound (b : CircuitBreaker) : Prop where
  probe : b.state = .halfOpen ↔ b.probeInFlight = true
  disabled : b.enabled = false → b.state = .closed

variable {b c : CircuitBreaker} {now : ℚ}

theorem new_sound (threshold : ℕ) (cooldown : ℚ) : (new threshold cooldown).Sound :=
  ⟨by simp [new],fun _ => rfl⟩

theorem beforeCall_enabled (hon : b.enabled = true) : b.beforeCall now = match b.state with
    | .closed => .ok b
    | .opened =>
      if 0 < b.openedAt+b.cooldown-now then .error "MCP child server circuit is open"
      else .ok {b with state := .halfOpen, probeInFlight := true}
    | .halfOpen =>
      if b.probeInFlight then .error "MCP child server probe is already in flight"
      else .ok {b with probeInFlight := true} := by
  unfold beforeCall
  rw [hon]
  rfl

theorem beforeCall_ok (hb : b.Sound) (h : b.beforeCall now = .ok c) : c = b ∧ b.state = .closed ∨
      b.state = .opened ∧ b.openedAt+b.cooldown ≤ now ∧ c = {b with state := .halfOpen, probeInFlight := true} := by
  cases hon : b.enabled with
  | false =>
    have hsame : b.beforeCall now = .ok b := by simp [beforeCall,hon]
    rw [hsame] at h
    exact .inl ⟨(Except.ok.inj h).symm,hb.disabled hon⟩
  | true =>
    rw [beforeCall_enabled hon] at h
    cases hstate : b.state with
    | closed =>
      simp only [hstate] at h
      exact .inl ⟨(Except.ok.inj h).symm,rfl⟩
    | opened =>
      simp only [hstate] at h
      split_ifs at h with hwait
      exact .inr ⟨rfl,sub_nonpos.mp (not_lt.mp hwait),(Except.ok.inj h).symm⟩
    | halfOpen =>
      simp only [hstate,hb.probe.mp hstate,if_true] at h
      cases h

theorem beforeCall_probe (h : b.beforeCall now = .error "MCP child server probe is already in flight") :
    b.state = .halfOpen := by
  cases hon : b.enabled with
  | false =>
    have hsame : b.beforeCall now = .ok b := by simp [beforeCall,hon]
    rw [hsame] at h
    cases h
  | true =>
    rw [beforeCall_enabled hon] at h
    cases hstate : b.state with
    | closed =>
      simp only [hstate] at h
      cases h
    | opened =>
      simp only [hstate] at h
      split_ifs at h
      exact absurd (Except.error.inj h) (by decide)
    | halfOpen => rfl

theorem beforeCall_sound (hb : b.Sound) (h : b.beforeCall now = .ok c) : c.Sound := by
  rcases beforeCall_ok hb h with ⟨rfl,-⟩ | ⟨hopened,-,rfl⟩
  · exact hb
  · refine ⟨by simp,fun hoff => ?_⟩
    have hclosed := hb.disabled hoff
    rw [hopened] at hclosed
    cases hclosed

theorem recordSuccess_state (hb : b.Sound) : b.recordSuccess.state = .closed := by
  unfold recordSuccess
  split_ifs with hoff
  · exact hb.disabled (by simpa using hoff)
  · rfl

theorem recordSuccess_sound (hb : b.Sound) : b.recordSuccess.Sound := by
  unfold recordSuccess
  split_ifs with hoff
  · exact hb
  · exact ⟨by simp,fun _ => rfl⟩

theorem recordFailure_cases (b : CircuitBreaker) (now : ℚ) : b.enabled = false ∧ b.recordFailure now = b ∨
      b.enabled = true ∧ (b.recordFailure now).enabled = true ∧ (b.recordFailure now).probeInFlight = false ∧
        ((b.recordFailure now).state = .opened ∨
          b.probeInFlight = false ∧ (b.recordFailure now).state = b.state) := by
  unfold recordFailure
  cases hon : b.enabled with
  | false => exact .inl ⟨rfl,rfl⟩
  | true =>
    refine .inr ⟨rfl,?_⟩
    by_cases hopen : (b.probeInFlight || b.threshold ≤ b.failures+1) = true
    · rw [if_pos hopen]
      exact ⟨hon,rfl,.inl rfl⟩
    · rw [if_neg hopen]
      exact ⟨hon,rfl,.inr ⟨by simp_all,rfl⟩⟩

theorem recordFailure_state (hb : b.Sound) : (b.recordFailure now).state ≠ .halfOpen := by
  rcases recordFailure_cases b now with ⟨hoff,hsame⟩ | ⟨-,-,-,hopened | ⟨hprobe,hstate⟩⟩
  · rw [hsame,hb.disabled hoff]
    exact CircuitState.noConfusion
  · rw [hopened]
    exact CircuitState.noConfusion
  · rw [hstate]
    intro hhalf
    rw [hb.probe.mp hhalf] at hprobe
    cases hprobe

theorem recordFailure_sound (hb : b.Sound) : (b.recordFailure now).Sound := by
  have hstate : (b.recordFailure now).state ≠ .halfOpen := recordFailure_state hb
  rcases recordFailure_cases b now with ⟨-,hsame⟩ | ⟨-,hon,hprobe,-⟩
  · rw [hsame]
    exact hb
  · exact ⟨⟨fun h => absurd h hstate,fun h => by rw [hprobe] at h; cases h⟩,fun h => by rw [hon] at h; cases h⟩

end CircuitBreaker
/-! The runtime of one child server and the attempts to call it, on one event loop. -/

structure Config where
  maxConcurrency : {n : ℕ // 1 ≤ n ∧ n ≤ 128}
  queueTimeout : {t : ℚ // 1/1000 ≤ t ∧ t ≤ 300}
  callTimeout : {t : ℚ // 1/1000 ≤ t ∧ t ≤ 3600}
  breakerThreshold : {n : ℕ // n ≤ 100}
  breakerCooldown : {t : ℚ // 1/1000 ≤ t ∧ t ≤ 3600}
  /-- Whether it was given a way to connect, and so has a supervisor. -/
  supervised : Bool

inductive RuntimeState
  | starting | up | restarting | failed | closed
deriving DecidableEq

structure Lifecycle where
  state : RuntimeState
  ready : Bool
  /-- How often `ready` has been set, which is what wakes those who wait for it. -/
  published : ℕ
  generation : ℤ
  sessions : ℕ
  recycleRequested : Bool

structure ChildRuntime where
  config : Config
  now : ℚ
  breaker : CircuitBreaker
  semaphore : Semaphore ℕ
  (inFlight queued : ℤ)
  lifecycle : Lifecycle

def ChildRuntime.new (config : Config) : ChildRuntime where
  config := config
  now := 0
  breaker := .new config.breakerThreshold.1 config.breakerCooldown.1
  semaphore := ⟨config.maxConcurrency.1,[]⟩
  inFlight := 0
  queued := 0
  lifecycle := ⟨.starting,false,0,0,0,false⟩

inductive Fault
  /-- A dead transport; some of its errors are timeouts too. -/
  | transport (timeoutError : Bool)
  | generationChanged
  | application
deriving DecidableEq

/-- How a child-side call ends. -/
inductive Outcome
  | success
  | failure (fault : Fault)
  | preflightDeadlineExpired
  | cancelled
deriving DecidableEq

/-- What a caller gets. -/
inductive Result
  | returned
  | raised (fault : Fault)
  | circuitOpen
  | unavailable
  | busy
  | callTimeout
  | preflightDeadlineExpired
  | cancelled
deriving DecidableEq

/-- A child-side call: its task, and at last its completion callback. -/
inductive Child
  | created
  | preflight
  | dispatched
  | done (outcome : Outcome)
  | finished (outcome : Outcome)
deriving DecidableEq

inductive Stage
  /-- Waits for the runtime to get ready, having seen it so so often. -/
  | awaitingReady (seen : ℕ)
  | queued
  /-- Holds a slot and selects a session. -/
  | selecting
  /-- Ended with no child-side call. -/
  | refused (result : Result)
  /-- There is a child-side call, which the caller waits for until it has a result. -/
  | sent (child : Child) (result : Option Result)
deriving DecidableEq

inductive Call
  | tool (generationMarker : Option ℤ) (beforeSend preflight : Bool)
  | request (given requestFactory : Bool) (generationMarker : Option ℤ) (beforeSend : Bool)

inductive Interrupt
  | cancel | timeout
deriving DecidableEq

structure Attempt where
  call : Call
  probeClaimed : Bool
  snapshotGeneration : ℤ
  /-- When the wait it is in, or the call, is out of time. -/
  due : ℚ
  stage : Stage
  /-- What its task has been told and has not acted on yet. -/
  interrupt : Option Interrupt
  abandoned : Bool
  (acquired released : ℕ)

structure Hooks where
  requestFactory : Except Fault Bool
  beforeSend : Option Fault
  /-- Whether the caller's task was told to stop before this attempt. -/
  cancelling : Bool

structure Frame where
  runtime : ChildRuntime
  attempt : Attempt

namespace Lifecycle

def adoptSessions (l : Lifecycle) (sessions : ℕ) : Lifecycle :=
  {l with sessions, generation := l.generation+1, state := .up, ready := true, published := l.published+1}
def connected (l : Lifecycle) (sessions : ℕ) : Lifecycle :=
  {l with sessions, generation := l.generation+1, state := .up}
def publish (l : Lifecycle) : Lifecycle := {l with ready := true, published := l.published+1}
def requestRestart (l : Lifecycle) (supervised : Bool) : Lifecycle :=
  if !supervised || l.state ≠ .up then l else {l with state := .restarting, ready := false}

def requestRecycle (l : Lifecycle) (supervised : Bool) : Lifecycle :=
  if !supervised || l.state ≠ .up then l
  else {l with recycleRequested := true, state := .restarting, ready := false}

def tearDown (l : Lifecycle) : Lifecycle := {l with ready := false, sessions := 0}

def restartPlan (l : Lifecycle) (exhausted : Bool) : Lifecycle :=
  if l.recycleRequested then {l with recycleRequested := false, state := .restarting}
  else {l with state := if exhausted then .failed else .restarting}

def aclose (l : Lifecycle) : Lifecycle := {l with ready := false, sessions := 0, state := .closed}

end Lifecycle

namespace Call

def generationMarker : Call → Option ℤ
  | .tool marker _ _ => marker
  | .request _ _ marker _ => marker

def beforeSend : Call → Bool
  | .tool _ beforeSend _ => beforeSend
  | .request _ _ _ beforeSend => beforeSend

def hasPreflight : Call → Bool
  | .tool _ _ preflight => preflight
  | .request .. => false

end Call

namespace Frame

def recordSuccess (f : Frame) : Frame :=
  {f with runtime := {f.runtime with breaker := f.runtime.breaker.recordSuccess}}
def recordFailure (f : Frame) : Frame :=
  {f with runtime := {f.runtime with breaker := f.runtime.breaker.recordFailure f.runtime.now}}
def move (f : Frame) (stage : Stage) : Frame := {f with attempt := {f.attempt with stage}}

/-- Gives up with no child-side call; a claimed probe has failed. -/
def refuse (f : Frame) (result : Result) : Frame :=
  (if f.attempt.probeClaimed then f.recordFailure else f).move (.refused result)

def releaseSlot (f : Frame) : Frame :=
  ⟨{f.runtime with semaphore := f.runtime.semaphore.release},{f.attempt with released := f.attempt.released+1}⟩
def pickSession (f : Frame) : Except Result Unit :=
  if f.runtime.lifecycle.sessions = 0 then .error .unavailable else .ok ()

def selectRequestSession (f : Frame) (hooks : Hooks) : Except Result Unit :=
  if f.runtime.lifecycle.generation ≠ f.attempt.call.generationMarker.getD f.attempt.snapshotGeneration then
    .error (.raised .generationChanged)
  else match if f.attempt.call.beforeSend then hooks.beforeSend else none with
    | some fault => .error (.raised fault)
    | none => f.pickSession

def selectSession (f : Frame) (hooks : Hooks) : Except Result Unit :=
  match f.attempt.call with
  | .tool none false _ => f.pickSession
  | _ => f.selectRequestSession hooks

/-- The slot goes over to the child-side call. -/
def send (f : Frame) : Frame :=
  ⟨{f.runtime with inFlight := f.runtime.inFlight+1},
    {f.attempt with stage := .sent .created none, due := f.runtime.now+f.runtime.config.callTimeout.1}⟩

def reserveSession (f : Frame) (hooks : Hooks) : Frame :=
  match f.selectSession hooks with
  | .ok _ => f.send
  | .error result => f.releaseSlot.refuse result

def acquireSlot (i : ℕ) (f : Frame) (hooks : Hooks) : Frame :=
  if f.runtime.semaphore.locked then
    ⟨{f.runtime with semaphore := f.runtime.semaphore.enqueue i, queued := f.runtime.queued+1},
      {f.attempt with stage := .queued, due := f.runtime.now+f.runtime.config.queueTimeout.1}⟩
  else
    reserveSession ⟨{f.runtime with semaphore := f.runtime.semaphore.take},
      {f.attempt with stage := .selecting, acquired := f.attempt.acquired+1}⟩ hooks

def buildRequest (f : Frame) (hooks : Hooks) : Except Fault Unit :=
  match f.attempt.call with
  | .tool .. => .ok ()
  | .request given requestFactory _ _ =>
    match if requestFactory then hooks.requestFactory else .ok given with
    | .error fault => .error fault
    | .ok true => .ok ()
    -- `ValueError`: neither a request nor a factory that makes one
    | .ok false => .error .application

def takeSnapshot (f : Frame) : Frame :=
  {f with attempt := {f.attempt with snapshotGeneration := f.runtime.lifecycle.generation}}

def prepareRequest (i : ℕ) (f : Frame) (hooks : Hooks) : Frame :=
  match f.takeSnapshot.buildRequest hooks with
  | .error fault => f.takeSnapshot.refuse (.raised fault)
  | .ok _ => f.takeSnapshot.acquireSlot i hooks

/-- `min(queue_timeout, _READY_WAIT_CEILING)` is how long a call waits for recovery. -/
def awaitReady (i : ℕ) (f : Frame) (hooks : Hooks) : Frame :=
  if f.runtime.lifecycle.state = .failed then f.refuse .unavailable
  else if f.runtime.lifecycle.ready then f.prepareRequest i hooks
  else {f with
    attempt := {f.attempt with
      stage := .awaitingReady f.runtime.lifecycle.published
      due := f.runtime.now+min f.runtime.config.queueTimeout.1 5}}

def resumeReady (i : ℕ) (f : Frame) (hooks : Hooks) : Frame :=
  match f.attempt.stage, f.attempt.interrupt with
  | .awaitingReady seen, none =>
    if f.runtime.lifecycle.published ≤ seen then f
    else if f.runtime.lifecycle.state = .failed then f.refuse .unavailable
    else f.prepareRequest i hooks
  | _, _ => f

def resumeSlot (i : ℕ) (f : Frame) (hooks : Hooks) : Frame :=
  match f.attempt.stage, f.attempt.interrupt with
  | .queued, none =>
    if f.runtime.semaphore.status i ≠ some .handed then f
    else reserveSession
      ⟨{f.runtime with semaphore := f.runtime.semaphore.leave i, queued := f.runtime.queued-1},
        {f.attempt with stage := .selecting, acquired := f.attempt.acquired+1}⟩ hooks
  | _, _ => f

/-- Tells the task to stop; a task that is cancelled is not also timed out. -/
def interrupt (i : ℕ) (f : Frame) (kind : Interrupt) : Frame :=
  if kind = .timeout && (f.attempt.interrupt.isSome || f.runtime.now < f.attempt.due) then f
  else
    ⟨{f.runtime with semaphore := f.runtime.semaphore.withdraw i},{f.attempt with interrupt := some kind}⟩

/-- A local expiry already accounted for is not counted again. -/
def recordTimeout (f : Frame) (child : Child) : Frame :=
  if child = .done .preflightDeadlineExpired ∨ child = .finished .preflightDeadlineExpired then f
  else f.recordFailure

def abandon (f : Frame) (child : Child) (result : Result) : Frame :=
  {f with attempt := {f.attempt with abandoned := true, stage := .sent child (some result)}}

def leaveQueue (i : ℕ) (f : Frame) : Frame :=
  {f with
    runtime := {f.runtime with semaphore := f.runtime.semaphore.abort i, queued := f.runtime.queued-1}}

/-- The task acts on what it has been told. -/
def deliver (i : ℕ) (f : Frame) : Frame :=
  match f.attempt.stage, f.attempt.interrupt with
  | .awaitingReady _, some .cancel => f.refuse .cancelled
  | .awaitingReady _, some .timeout => f.refuse .unavailable
  | .queued, some .cancel => (f.leaveQueue i).refuse .cancelled
  | .queued, some .timeout => (f.leaveQueue i).refuse .busy
  | .sent child none, some .cancel => f.abandon child .cancelled
  | .sent child none, some .timeout => (f.recordTimeout child).abandon child .callTimeout
  | _, _ => f

def startChild (f : Frame) : Frame :=
  match f.attempt.stage with
  | .sent .created result => f.move (.sent (if f.attempt.call.hasPreflight then .preflight else .dispatched) result)
  | _ => f

def settlePreflightProbe (f : Frame) : Frame :=
  if f.attempt.probeClaimed && f.runtime.breaker.state = .halfOpen then f.recordFailure else f
def settlePreflightFailure (f : Frame) (outcome : Outcome) : Frame :=
  if outcome = .preflightDeadlineExpired then f.recordFailure else f.settlePreflightProbe

/-- Why a preflight that came to an end does not lead to a call. -/
def checkToolPreflight (f : Frame) (fault : Option Fault) (hooks : Hooks) : Option Outcome :=
  match fault with
  | some fault => some (.failure fault)
  | none =>
    if f.attempt.abandoned || f.attempt.interrupt.isSome || hooks.cancelling then some .cancelled
    else if f.attempt.due ≤ f.runtime.now then some .preflightDeadlineExpired
    else if f.runtime.lifecycle.generation ≠
        f.attempt.call.generationMarker.getD f.attempt.snapshotGeneration then
      some (.failure .generationChanged)
    else (if f.attempt.call.beforeSend then hooks.beforeSend else none).map .failure

def preflightReturns (f : Frame) (fault : Option Fault) (hooks : Hooks) : Frame :=
  match f.attempt.stage with
  | .sent .preflight result =>
    match f.checkToolPreflight fault hooks with
    | none => f.move (.sent .dispatched result)
    | some outcome => (f.settlePreflightFailure outcome).move (.sent (.done outcome) result)
  | _ => f

def childEnds (f : Frame) (fault : Option Fault) : Frame :=
  match f.attempt.stage with
  | .sent .dispatched result => f.move (.sent (.done ((fault.map .failure).getD .success)) result)
  | _ => f

def cancelChild (f : Frame) : Frame :=
  match f.attempt.stage with
  | .sent .created result => f.move (.sent (.done .cancelled) result)
  | .sent .preflight result => f.settlePreflightProbe.move (.sent (.done .cancelled) result)
  | .sent .dispatched result => f.move (.sent (.done .cancelled) result)
  | _ => f

def requestRestart (f : Frame) : Frame :=
  {f with
    runtime := {f.runtime with lifecycle := f.runtime.lifecycle.requestRestart f.runtime.config.supervised}}

def finishCallFailure (f : Frame) : Fault → Frame
  | .transport _ => f.recordFailure.requestRestart
  | .generationChanged => f
  | .application => f

/-- The slot is given back when the child has truly finished. -/
def freeChildSlot (f : Frame) : Frame :=
  releaseSlot {f with runtime := {f.runtime with inFlight := f.runtime.inFlight-1}}

def finishCall (f : Frame) : Frame :=
  match f.attempt.stage with
  | .sent (.done outcome) result =>
    let f := f.freeChildSlot.move (.sent (.finished outcome) result)
    match outcome with
    | .success => f.recordSuccess
    | .failure fault => f.finishCallFailure fault
    | .preflightDeadlineExpired => f
    | .cancelled => f
  | _ => f

/-- The caller gets what the child-side call came to; a timeout of the child's own counts again. -/
def returnResult (f : Frame) : Frame :=
  match f.attempt.stage, f.attempt.interrupt with
  | .sent (.finished outcome) none, none =>
    match outcome with
    | .success => f.move (.sent (.finished outcome) (some .returned))
    | .failure (.transport true) => f.recordFailure.move (.sent (.finished outcome) (some .callTimeout))
    | .failure fault => f.move (.sent (.finished outcome) (some (.raised fault)))
    | .preflightDeadlineExpired => f.move (.sent (.finished outcome) (some .preflightDeadlineExpired))
    | .cancelled => f.move (.sent (.finished outcome) (some .cancelled))
  | _, _ => f
end Frame

inductive Action
  | resumeReady (hooks : Hooks)
  | resumeSlot (hooks : Hooks)
  | interrupt (kind : Interrupt)
  | deliver
  | startChild
  | preflightReturns (fault : Option Fault) (hooks : Hooks)
  | childEnds (fault : Option Fault)
  | cancelChild
  | finishCall
  | returnResult

inductive Change
  | adoptSessions (sessions : ℕ)
  | connected (sessions : ℕ)
  | publish
  | requestRestart
  | requestRecycle
  | tearDown
  | restartPlan (exhausted : Bool)
  | aclose

inductive Event
  | tick (now : ℚ)
  | begin (call : Call) (hooks : Hooks)
  | on (i : ℕ) (action : Action)
  | change (change : Change)

/-- The runtime and the attempts begun on it that the breaker let through. -/
structure World where
  runtime : ChildRuntime
  attempts : List Attempt

def World.start (config : Config) : World := ⟨.new config,[]⟩

def Frame.advance (i : ℕ) (f : Frame) : Action → Frame
  | .resumeReady hooks => f.resumeReady i hooks
  | .resumeSlot hooks => f.resumeSlot i hooks
  | .interrupt kind => f.interrupt i kind
  | .deliver => f.deliver i
  | .startChild => f.startChild
  | .preflightReturns fault hooks => f.preflightReturns fault hooks
  | .childEnds fault => f.childEnds fault
  | .cancelChild => f.cancelChild
  | .finishCall => f.finishCall
  | .returnResult => f.returnResult

def ChildRuntime.change (runtime : ChildRuntime) : Change → ChildRuntime
  | .adoptSessions sessions => {runtime with lifecycle := runtime.lifecycle.adoptSessions sessions}
  | .connected sessions =>
    {runtime with lifecycle := runtime.lifecycle.connected sessions, breaker := runtime.breaker.recordSuccess}
  | .publish => {runtime with lifecycle := runtime.lifecycle.publish}
  | .requestRestart => {runtime with lifecycle := runtime.lifecycle.requestRestart runtime.config.supervised}
  | .requestRecycle => {runtime with lifecycle := runtime.lifecycle.requestRecycle runtime.config.supervised}
  | .tearDown => {runtime with lifecycle := runtime.lifecycle.tearDown}
  | .restartPlan exhausted => {runtime with lifecycle := runtime.lifecycle.restartPlan exhausted}
  | .aclose => {runtime with lifecycle := runtime.lifecycle.aclose}

def beginRequest (call : Call) (breaker : CircuitBreaker) : Attempt :=
  ⟨call,breaker.state = .halfOpen,0,0,.awaitingReady 0,none,false,0,0⟩

def step (w : World) : Event → Option Result × World
  | .tick now => (none,{w with runtime := {w.runtime with now := max w.runtime.now now}})
  | .begin call hooks =>
    match w.runtime.breaker.beforeCall w.runtime.now with
    | .error _ => (some .circuitOpen,w)
    | .ok breaker =>
      let f := Frame.awaitReady w.attempts.length ⟨{w.runtime with breaker},beginRequest call breaker⟩ hooks
      (none,⟨f.runtime,w.attempts ++ [f.attempt]⟩)
  | .on i action =>
    match w.attempts[i]? with
    | none => (none,w)
    | some attempt =>
      let f := Frame.advance i ⟨w.runtime,attempt⟩ action
      (none,⟨f.runtime,w.attempts.set i f.attempt⟩)
  | .change change => (none,{w with runtime := w.runtime.change change})
end Arbora.Fleet
