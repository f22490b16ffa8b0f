import Arbora.Fleet.ChildRuntime
import Arbora.Lib.Binary64

/-! The supervisor of one child: it connects, owns the connection until that is over and plans what comes next. -/
namespace Arbora.Fleet.Supervisor
open FloatingPoint (binary64)

/-- What the clock can show: a float. -/
abbrev Instant := {t : ℚ // binary64.nearest t = t}

structure Policy where
  maxRestarts : {n : ℕ // n ≤ 100}
  restartWindow : {t : ℚ // 1/1000 ≤ t ∧ t ≤ 86400}
  backoffBase : {t : ℚ // 1/1000 ≤ t ∧ t ≤ 300}
  backoffCap : {t : ℚ // backoffBase.1 ≤ t ∧ t ≤ 3600}
  /-- Whether it was given an `on_generation`. -/
  onGeneration : Bool

/-- What the supervisor's task is waiting for. -/
inductive Phase
  /-- To run for the first time. -/
  | scheduled
  | connecting
  | notifying
  /-- The connection is up; it waits to be told to stop. -/
  | living
  /-- The stack of the connection unwinds. -/
  | unwinding
  | sleeping (delay : ℚ)
  | ended
deriving DecidableEq

/-- Why the present connection comes to its end: a recycle was asked for, or it failed. -/
inductive Cause
  | recycle | failure
deriving DecidableEq

/-- What the supervisor does when the run of a connection is over. -/
inductive Outcome
  | closed
  | recycled
  | counted
  /-- The restarts are used up. -/
  | exhausted
  /-- `start` is told that the first connection failed. -/
  | bootFailed
  /-- `start` has its answer already, and giving it another raises `InvalidStateError`. -/
  | died
deriving DecidableEq

inductive Happening
  | attempt
  | concluded (cause : Option Cause) (outcome : Outcome)
deriving DecidableEq

structure Mark where
  time : Instant
  happening : Happening
deriving DecidableEq

structure Supervision where
  policy : Policy
  now : Instant
  lifecycle : Lifecycle
  closed : Bool
  /-- The event that stops the present connection, and whether it is set. -/
  stopGeneration : Option Bool
  restartTimes : List Instant
  restartCount : ℕ
  backoff : ℚ
  /-- Whether `_supervise` still has the future that `start` waits for. -/
  first : Bool
  /-- Whether `_run_generation` still has it. -/
  pending : Bool
  /-- Whether that future has an answer, or nobody waits for it any more. -/
  answered : Bool
  phase : Phase
  cause : Option Cause
  history : List Mark

def Supervision.new (policy : Policy) (now : Instant) : Supervision where
  policy := policy
  now := now
  lifecycle := ⟨.starting,false,0,0,0,false⟩
  closed := false
  stopGeneration := none
  restartTimes := []
  restartCount := 0
  backoff := policy.backoffBase.1
  first := true
  pending := true
  answered := false
  phase := .scheduled
  cause := none
  history := []

namespace Supervision

def mark (s : Supervision) (happening : Happening) : Supervision := {s with history := s.history ++ [⟨s.now,happening⟩]}

/-- The head of the loop. -/
def attempt (s : Supervision) : Supervision :=
  if s.closed then {s with phase := .ended}
  else {s.mark .attempt with pending := s.first, phase := .connecting}

def publish (s : Supervision) : Supervision := {s with lifecycle := s.lifecycle.publish, phase := .living}

/-- The first connection answers `start`, a later one is told to the observer before it takes calls. -/
def connected (s : Supervision) (sessions : ℕ) : Supervision :=
  let s := {s with lifecycle := s.lifecycle.connected sessions, stopGeneration := some false}
  if s.pending then
    if s.answered then {s with cause := some (s.cause.getD .failure), phase := .unwinding}
    else publish {s with answered := true, pending := false}
  else if s.policy.onGeneration then {s with phase := .notifying}
  else s.publish

/-- Something is thrown into the run of the connection. -/
def fails (s : Supervision) : Supervision := {s with cause := some (s.cause.getD .failure), phase := .unwinding}

def recentRestarts (s : Supervision) : List Instant :=
  (s.restartTimes ++ [s.now]).dropWhile fun t => t.1 < binary64.nearest (s.now.1-s.policy.restartWindow.1)
def concluded (s : Supervision) (outcome : Outcome) : Supervision := {s.mark (.concluded s.cause outcome) with cause := none}

def restartPlan (s : Supervision) (jitter : ℚ) : Supervision :=
  if s.lifecycle.recycleRequested then attempt {s.concluded .recycled with lifecycle := s.lifecycle.restartPlan false}
  else
    let times := s.recentRestarts
    if s.policy.maxRestarts.1 = 0 ∨ s.policy.maxRestarts.1 < times.length then
      {s.concluded .exhausted with lifecycle := s.lifecycle.restartPlan true, restartTimes := times, phase := .ended}
    else
      {s.concluded .counted with
        lifecycle := s.lifecycle.restartPlan false
        restartTimes := times
        restartCount := s.restartCount+1
        backoff := min (s.backoff*2) s.policy.backoffCap.1
        phase := .sleeping (min s.backoff s.policy.backoffCap.1*jitter)}

/-- The run of the connection is over, by an exception or not. -/
def exits (s : Supervision) (raised : Bool) (jitter : ℚ) : Supervision :=
  let s := {s with lifecycle := s.lifecycle.tearDown}
  if raised && s.first then
    {s.concluded (if s.answered then .died else .bootFailed) with
      lifecycle := {s.lifecycle with state := .failed}, answered := true, phase := .ended}
  else
    let s := {s with
      first := if raised then s.first else s.pending
      backoff := if raised then s.backoff else s.policy.backoffBase.1}
    if s.closed then {s.concluded .closed with phase := .ended} else s.restartPlan jitter

def stop (s : Supervision) : Supervision := {s with stopGeneration := s.stopGeneration.map fun _ => true}

/-- Whether a request is listened to. -/
def listens (s : Supervision) : Bool := !s.closed && s.lifecycle.state = .up

def requestRestart (s : Supervision) : Supervision :=
  if s.listens then
    stop {s with lifecycle := s.lifecycle.requestRestart true, cause := some (s.cause.getD .failure)}
  else s

def requestRecycle (s : Supervision) : Supervision :=
  if s.listens then
    stop {s with lifecycle := s.lifecycle.requestRecycle true, cause := some (s.cause.getD .recycle)}
  else s

def aclose (s : Supervision) : Supervision := stop {s with closed := true, lifecycle := {s.lifecycle with ready := false}}
end Supervision

section

inductive Event
  | tick (now : Instant)
  /-- The task runs for the first time. -/
  | begins
  /-- `start` is cancelled while it waits. -/
  | abandoned
  | connected (sessions : ℕ)
  /-- The observer has been told. -/
  | notified
  /-- Connecting fails, or the connection fails of itself. -/
  | fails
  /-- The stop event wakes the supervisor. -/
  | stops
  | exits (raised : Bool) (jitter : {j : ℚ // 1/2 ≤ j ∧ j ≤ 3/2})
  | wakes
  | requestRestart
  | requestRecycle
  | aclose
  /-- The supervisor's task is cancelled. -/
  | cancelled
  /-- The last of `aclose`, when the task has ended. -/
  | closes

open Supervision in
def step (s : Supervision) : Event → Supervision
  | .tick now => {s with now := max s.now now}
  | .begins => if s.phase = .scheduled then s.attempt else s
  | .abandoned => {s with answered := true}
  | .connected sessions => if s.phase = .connecting then s.connected sessions else s
  | .notified => if s.phase = .notifying then s.publish else s
  | .fails => if s.phase = .connecting ∨ s.phase = .notifying ∨ s.phase = .living then s.fails else s
  | .stops => if s.phase = .living ∧ s.stopGeneration = some true then {s with phase := .unwinding} else s
  | .exits raised jitter => if s.phase = .unwinding then s.exits raised jitter.1 else s
  | .wakes =>
    match s.phase with
    | .sleeping _ => s.attempt
    | _ => s
  | .requestRestart => s.requestRestart
  | .requestRecycle => s.requestRecycle
  | .aclose => s.aclose
  | .cancelled => {s with phase := .ended}
  | .closes => if s.phase = .ended ∧ s.closed = true then {s with lifecycle := s.lifecycle.aclose} else s

def run (s : Supervision) (events : List Event) : Supervision := events.foldl step s

end

end Arbora.Fleet.Supervisor
