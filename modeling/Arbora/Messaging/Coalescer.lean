import Arbora.Lib.Dict
import Arbora.Lib.Machine
import Mathlib.Algebra.Notation.Defs
import Mathlib.Order.Lattice

/-! Messages of one conversation are held for a quiet window and answered as one batch. -/
namespace Arbora.Messaging

inductive TimerPhase
  | created | sleeping | flushing | done
deriving DecidableEq

structure TimerTask where
  key : String
  phase : TimerPhase
  cancelRequested : Bool

structure BurstCoalescer (Item Time : Type) where
  (window maxWait : Time)
  buffers : Dict String (List Item)
  timers : Dict String ℕ
  first : Dict String Time
  tasks : Dict ℕ TimerTask
  nextTask : ℕ

/-- What can happen next. The clock may read anything. -/
inductive Choice (Item Time : Type)
  /-- A submission, from within a timer task when its handler submits. -/
  | submit (current : Option ℕ) (key : String) (item : Item) (now : Time)
  | starts (task : ℕ)
  /-- The sleep ends. One that is cancelled may return all the same. -/
  | wakes (task : ℕ) (swallowed : Bool)
  /-- The handler returns or fails, in a timer task or in a submission. -/
  | handled (current : Option ℕ) (failed : Bool)

/-- A call of the flush handler. -/
structure Batch (Item : Type) where
  key : String
  items : List Item

namespace BurstCoalescer
variable {Item Time : Type}

def new [Zero Time] [Max Time] (windowS maxWaitS : Time) : BurstCoalescer Item Time :=
  ⟨max 0 windowS,max (max 0 windowS) maxWaitS,∅,∅,∅,∅,0⟩
def buffered (s : BurstCoalescer Item Time) (key : String) : List Item := (s.buffers.get key).getD []

def finished (s : BurstCoalescer Item Time) (t : ℕ) : Bool :=
  match s.tasks.get t with
  | none => true
  | some task => task.phase = .done

def cancel (s : BurstCoalescer Item Time) (t : ℕ) : BurstCoalescer Item Time :=
  match s.tasks.get t with
  | none => s
  | some task => {s with tasks := s.tasks.set t {task with cancelRequested := true}}

def enter (s : BurstCoalescer Item Time) (t : ℕ) (task : TimerTask) (phase : TimerPhase) : BurstCoalescer Item Time :=
  {s with tasks := s.tasks.set t {task with phase := phase}}

def popped (s : BurstCoalescer Item Time) (key : String) : BurstCoalescer Item Time :=
  {s with buffers := s.buffers.pop key, first := s.first.pop key, timers := s.timers.pop key}

def flush (s : BurstCoalescer Item Time) (current : Option ℕ) (key : String) :
    Option (Batch Item) × BurstCoalescer Item Time :=
  let items := s.buffered key
  let rest :=
    match s.timers.get key with
    | none => s.popped key
    | some timer =>
      if some timer ≠ current ∧ s.finished timer = false then (s.popped key).cancel timer else s.popped key
  (if items = [] then none else some ⟨key,items⟩,rest)

def added (s : BurstCoalescer Item Time) (key : String) (item : Item) (now : Time) : BurstCoalescer Item Time :=
  {s with
    buffers := s.buffers.set key (s.buffered key ++ [item])
    first := s.first.set key ((s.first.get key).getD now)}

def rearmed (s : BurstCoalescer Item Time) (key : String) : BurstCoalescer Item Time :=
  let s : BurstCoalescer Item Time :=
    match s.timers.get key with
    | none => s
    | some old => if s.finished old then s else s.cancel old
  {s with
    timers := s.timers.set key s.nextTask
    tasks := s.tasks.set s.nextTask ⟨key,.created,false⟩
    nextTask := s.nextTask+1}

def submit [Sub Time] [LE Time] [DecidableLE Time] (s : BurstCoalescer Item Time) (current : Option ℕ)
    (key : String) (item : Item) (now : Time) : Option (Batch Item) × BurstCoalescer Item Time :=
  let s := s.added key item now
  -- the hard cap, for one who never pauses
  if s.maxWait ≤ now-(s.first.get key).getD now then s.flush current key else (none,s.rearmed key)

def starts (s : BurstCoalescer Item Time) (t : ℕ) : BurstCoalescer Item Time :=
  match s.tasks.get t with
  | none => s
  | some task =>
    if task.phase = .created then s.enter t task (if task.cancelRequested then .done else .sleeping) else s

def wakes (s : BurstCoalescer Item Time) (t : ℕ) (swallowed : Bool) :
    Option (Batch Item) × BurstCoalescer Item Time :=
  match s.tasks.get t with
  | none => (none,s)
  | some task =>
    if task.phase ≠ .sleeping then (none,s)
    else if task.cancelRequested ∧ swallowed = false then (none,s.enter t task .done)
    else
      let phase := if s.buffered task.key = [] then TimerPhase.done else .flushing
      (s.enter t {task with cancelRequested := false} phase).flush (some t) task.key

/-- Whatever the handler raises is logged. -/
def handled (s : BurstCoalescer Item Time) (current : Option ℕ) : BurstCoalescer Item Time :=
  match current with
  | none => s
  | some t =>
    match s.tasks.get t with
    | none => s
    | some task => if task.phase = .flushing then s.enter t task .done else s

def step [Sub Time] [LE Time] [DecidableLE Time] (s : BurstCoalescer Item Time) :
    Choice Item Time → Option (Batch Item) × BurstCoalescer Item Time
  | .submit current key item now => s.submit current key item now
  | .starts t => (none,s.starts t)
  | .wakes t swallowed => s.wakes t swallowed
  | .handled current _ => (none,s.handled current)

def pending (s : BurstCoalescer Item Time) (key : String) (t : ℕ) : Prop :=
  ∃ task, s.tasks.get t = some task ∧ task.key = key ∧ (task.phase = .created ∨ task.phase = .sleeping) ∧
    task.cancelRequested = false

end BurstCoalescer

def batches {Item : Type} (key : String) (calls : List (Option (Batch Item))) : List (List Item) :=
  (calls.reduceOption.filter (·.key = key)).map (·.items)

def submissions {Item Time : Type} (key : String) (run : List (Choice Item Time)) : List Item :=
  run.filterMap fun
    | .submit _ key' item _ => if key' = key then some item else none
    | _ => none

end Arbora.Messaging
