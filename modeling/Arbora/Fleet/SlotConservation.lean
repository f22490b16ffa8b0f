import Arbora.Fleet.ChildSteps
import Mathlib.Algebra.Order.Ring.Int
import Mathlib.Data.List.Nodup

/-! Where the slots of a child runtime are: free, with an attempt, or with a child-side call. -/
namespace Arbora.Fleet
open Machine

/-- The completion callback has not run yet. -/
def Child.uncompleted : Child → Bool
  | .created | .preflight | .dispatched | .done _ => true
  | .finished _ => false

namespace Stage

def isQueued : Stage → Bool
  | .queued => true
  | _ => false

/-- A slot is held by the attempt itself, before there is a child-side call. -/
def selects : Stage → Bool
  | .selecting => true
  | _ => false

def uncompleted : Stage → Bool
  | .sent child _ => child.uncompleted
  | _ => false

/-- A child-side call has ended and its completion callback is due. -/
def callbackDue (s : Stage) : Bool := s.uncompleted && !s.unresolved

def holdsSlot (s : Stage) : Bool := s.selects || s.uncompleted

/-- No slot has been acquired yet. -/
def before : Stage → Bool
  | .awaitingReady _ | .queued => true
  | _ => false

end Stage

structure Attempt.Accounted (a : Attempt) : Prop where
  once : a.acquired ≤ 1
  balance : a.released+a.stage.holdsSlot.toNat = a.acquired
  fresh : a.stage.before = true → a.acquired = 0

section

structure Tracked (i : ℕ) (f : Frame) : Prop where
  nodup : f.runtime.semaphore.ids.Nodup
  mem : i ∈ f.runtime.semaphore.ids ↔ f.attempt.stage.isQueued = true

structure Conserves (i : ℕ) (f g : Frame) : Prop where
  config : g.runtime.config = f.runtime.config
  permits : g.runtime.semaphore.permits+g.attempt.stage.holdsSlot.toNat =
    f.runtime.semaphore.permits+f.attempt.stage.holdsSlot.toNat
  inFlight : g.runtime.inFlight-g.attempt.stage.uncompleted.toNat = f.runtime.inFlight-f.attempt.stage.uncompleted.toNat
  queued : g.runtime.queued-g.attempt.stage.isQueued.toNat = f.runtime.queued-f.attempt.stage.isQueued.toNat
  accounted : f.attempt.Accounted → g.attempt.Accounted
  tracked : Tracked i f → Tracked i g
  others : ∀ j ≠ i, j ∈ g.runtime.semaphore.ids ↔ j ∈ f.runtime.semaphore.ids

variable {i : ℕ} {f g h : Frame} {hooks : Hooks}

theorem Conserves.refl (i : ℕ) (f : Frame) : Conserves i f f :=
  ⟨rfl,rfl,rfl,rfl,id,id,fun _ _ => Iff.rfl⟩

theorem Conserves.trans (hfg : Conserves i f g) (hgh : Conserves i g h) : Conserves i f h where
  config := hgh.config.trans hfg.config
  permits := hgh.permits.trans hfg.permits
  inFlight := hgh.inFlight.trans hfg.inFlight
  queued := hgh.queued.trans hfg.queued
  accounted := hgh.accounted ∘ hfg.accounted
  tracked := hgh.tracked ∘ hfg.tracked
  others j hj := (hgh.others j hj).trans (hfg.others j hj)

/-- The counters and the queue stay as they are, and so does what is held. -/
theorem Conserves.of_same (hconfig : g.runtime.config = f.runtime.config)
    (hpermits : g.runtime.semaphore.permits = f.runtime.semaphore.permits)
    (hids : g.runtime.semaphore.ids = f.runtime.semaphore.ids) (hinFlight : g.runtime.inFlight = f.runtime.inFlight)
    (hqueued : g.runtime.queued = f.runtime.queued) (hslot : g.attempt.stage.holdsSlot = f.attempt.stage.holdsSlot)
    (huncompleted : g.attempt.stage.uncompleted = f.attempt.stage.uncompleted)
    (hisQueued : g.attempt.stage.isQueued = f.attempt.stage.isQueued)
    (hbefore : g.attempt.stage.before = true → f.attempt.stage.before = true)
    (hacquired : g.attempt.acquired = f.attempt.acquired) (hreleased : g.attempt.released = f.attempt.released) :
    Conserves i f g := by
  refine ⟨hconfig,by rw [hpermits,hslot],by rw [hinFlight,huncompleted],by rw [hqueued,hisQueued],
    fun ha => ⟨?_,?_,?_⟩,fun ht => ⟨?_,?_⟩,fun j _ => by rw [hids]⟩
  · rw [hacquired]
    exact ha.once
  · rw [hacquired,hreleased,hslot]
    exact ha.balance
  · intro hg
    rw [hacquired]
    exact ha.fresh (hbefore hg)
  · rw [hids]
    exact ht.nodup
  · rw [hids,hisQueued]
    exact ht.mem

end

namespace Frame
variable {i : ℕ} {f : Frame} {hooks : Hooks}

theorem refuse_conserves {result : Result} (hslot : f.attempt.stage.holdsSlot = false)
    (hqueued : f.attempt.stage.isQueued = false) : Conserves i f (f.refuse result) := by
  have huncompleted : f.attempt.stage.uncompleted = false := (Bool.or_eq_false_iff.mp hslot).2
  have hmove : Conserves i f (f.move (.refused result)) :=
    .of_same rfl rfl rfl rfl rfl hslot.symm huncompleted.symm hqueued.symm Bool.false_ne_true.elim rfl rfl
  unfold refuse
  split
  · exact hmove.trans (.of_same rfl rfl rfl rfl rfl rfl rfl rfl id rfl rfl)
  · exact hmove

/-- An attempt that has taken a slot hands it to its child-side call, or gives it back. -/
theorem reserveSession_conserves (hstage : f.attempt.stage = .selecting) : Conserves i f (f.reserveSession hooks) := by
  unfold reserveSession
  cases f.selectSession hooks with
  | ok =>
    refine ⟨rfl,by rw [hstage]; rfl,?_,by rw [hstage]; rfl,fun ha => ⟨ha.once,?_,Bool.false_ne_true.elim⟩,
      fun ht => ⟨ht.nodup,?_⟩,fun _ _ => Iff.rfl⟩
    · rw [hstage]
      simp [send,Stage.uncompleted,Child.uncompleted]
    · have hbalance := ha.balance
      rw [hstage] at hbalance
      exact hbalance
    · have hmem := ht.mem
      rw [hstage] at hmem
      exact hmem
  | error result =>
    have hback : Conserves i f (f.releaseSlot.move (.refused result)) := by
      refine ⟨rfl,?_,by rw [hstage]; rfl,by rw [hstage]; rfl,fun ha => ⟨ha.once,?_,Bool.false_ne_true.elim⟩,
        fun ht => ⟨?_,?_⟩,fun j _ => ?_⟩
      · rw [hstage]
        exact Semaphore.permits_release _
      · have hbalance := ha.balance
        rw [hstage] at hbalance
        exact hbalance
      · show f.runtime.semaphore.release.ids.Nodup
        rw [Semaphore.ids_release]
        exact ht.nodup
      · show i ∈ f.runtime.semaphore.release.ids ↔ _
        have hmem := ht.mem
        rw [hstage] at hmem
        rw [Semaphore.ids_release]
        exact hmem
      · show j ∈ f.runtime.semaphore.release.ids ↔ _
        rw [Semaphore.ids_release]
    dsimp only
    unfold refuse
    split
    · exact hback.trans (.of_same rfl rfl rfl rfl rfl rfl rfl rfl id rfl rfl)
    · exact hback

theorem acquireSlot_conserves (hbefore : f.attempt.stage.before = true) (hqueued : f.attempt.stage.isQueued = false)
    (hslot : f.attempt.stage.holdsSlot = false) : Conserves i f (f.acquireSlot i hooks) := by
  have huncompleted : f.attempt.stage.uncompleted = false := (Bool.or_eq_false_iff.mp hslot).2
  unfold acquireSlot
  cases hlocked : f.runtime.semaphore.locked with
  | true =>
    rw [if_pos rfl]
    refine ⟨rfl,?_,by rw [huncompleted]; rfl,?_,fun ha => ⟨ha.once,?_,fun _ => ha.fresh hbefore⟩,fun ht => ⟨?_,?_⟩,
      fun j hj => ?_⟩
    · rw [hslot]
      exact Semaphore.permits_enqueue _ _
    · rw [hqueued]
      simp [Stage.isQueued]
    · have hbalance := ha.balance
      rw [hslot] at hbalance
      exact hbalance
    · have hmem := ht.mem
      rw [hqueued] at hmem
      rw [Semaphore.ids_enqueue,List.nodup_append]
      refine ⟨ht.nodup,List.nodup_singleton i,fun a ha b hb => ?_⟩
      rw [List.mem_singleton.mp hb]
      rintro rfl
      exact absurd (hmem.mp ha) Bool.false_ne_true
    · dsimp only
      rw [Semaphore.ids_enqueue]
      simp [Stage.isQueued]
    · dsimp only
      rw [Semaphore.ids_enqueue]
      simp [hj]
  | false =>
    refine Conserves.trans ?_ (reserveSession_conserves rfl)
    refine ⟨rfl,?_,by rw [huncompleted]; rfl,by rw [hqueued]; rfl,fun ha => ⟨?_,?_,Bool.false_ne_true.elim⟩,
      fun ht => ⟨ht.nodup,?_⟩,fun _ _ => Iff.rfl⟩
    · rw [hslot]
      exact Semaphore.permits_take hlocked
    · rw [ha.fresh hbefore]
    · have hbalance := ha.balance
      rw [hslot] at hbalance
      exact congrArg (·+1) hbalance
    · have hmem := ht.mem
      rw [hqueued] at hmem
      exact hmem

theorem takeSnapshot_conserves (i : ℕ) (f : Frame) : Conserves i f f.takeSnapshot :=
  .of_same rfl rfl rfl rfl rfl rfl rfl rfl id rfl rfl

theorem prepareRequest_conserves {seen : ℕ} (hstage : f.attempt.stage = .awaitingReady seen) :
    Conserves i f (f.prepareRequest i hooks) := by
  have hsnapshot : f.takeSnapshot.attempt.stage = .awaitingReady seen := hstage
  unfold prepareRequest
  cases f.takeSnapshot.buildRequest hooks with
  | error fault =>
    refine (takeSnapshot_conserves i f).trans (refuse_conserves ?_ ?_)
    · rw [hsnapshot]
      rfl
    · rw [hsnapshot]
      rfl
  | ok =>
    refine (takeSnapshot_conserves i f).trans (acquireSlot_conserves ?_ ?_ ?_)
    · rw [hsnapshot]
      rfl
    · rw [hsnapshot]
      rfl
    · rw [hsnapshot]
      rfl

theorem unavailable_conserves {seen : ℕ} (hstage : f.attempt.stage = .awaitingReady seen) (result : Result) :
    Conserves i f (f.refuse result) :=
  refuse_conserves (by rw [hstage]; rfl) (by rw [hstage]; rfl)

theorem awaitReady_conserves {seen : ℕ} (hstage : f.attempt.stage = .awaitingReady seen) :
    Conserves i f (f.awaitReady i hooks) := by
  unfold awaitReady
  split
  · exact unavailable_conserves hstage _
  · split
    · exact prepareRequest_conserves hstage
    · refine .of_same rfl rfl rfl rfl rfl ?_ ?_ ?_ (fun _ => ?_) rfl rfl
      · rw [hstage]
        rfl
      · rw [hstage]
        rfl
      · rw [hstage]
        rfl
      · rw [hstage]
        rfl

theorem resumeReady_conserves (i : ℕ) (f : Frame) (hooks : Hooks) : Conserves i f (f.resumeReady i hooks) := by
  unfold resumeReady
  split
  · rename_i seen hstage _
    split
    · exact .refl i f
    · split
      · exact unavailable_conserves hstage _
      · exact prepareRequest_conserves hstage
  · exact .refl i f

theorem tracked_leave {s : Semaphore ℕ} (ht : Tracked i f) (hids : s.ids = f.runtime.semaphore.ids.erase i) :
    s.ids.Nodup ∧ i ∉ s.ids ∧ ∀ j ≠ i, j ∈ s.ids ↔ j ∈ f.runtime.semaphore.ids := by
  rw [hids]
  refine ⟨ht.nodup.erase i,ht.nodup.not_mem_erase,fun j hj => ?_⟩
  exact List.mem_erase_of_ne hj

theorem resumeSlot_conserves (i : ℕ) (f : Frame) (hooks : Hooks) : Conserves i f (f.resumeSlot i hooks) := by
  unfold resumeSlot
  split
  · rename_i hstage _
    by_cases hstatus : f.runtime.semaphore.status i = some .handed
    · rw [if_neg (not_not_intro hstatus)]
      refine Conserves.trans ?_ (reserveSession_conserves rfl)
      have hpermits := Semaphore.permits_leave f.runtime.semaphore i
      rw [if_pos hstatus] at hpermits
      refine ⟨rfl,?_,by rw [hstage]; rfl,?_,fun ha => ⟨?_,?_,Bool.false_ne_true.elim⟩,fun ht => ⟨?_,?_⟩,fun j hj => ?_⟩
      · rw [hstage]
        exact hpermits
      · rw [hstage]
        simp [Stage.isQueued]
      · rw [ha.fresh (by rw [hstage]; rfl)]
      · have hbalance := ha.balance
        rw [hstage] at hbalance
        exact congrArg (·+1) hbalance
      · exact (tracked_leave ht (Semaphore.ids_leave _ _)).1
      · exact iff_of_false (tracked_leave ht (Semaphore.ids_leave _ _)).2.1 Bool.false_ne_true
      · show j ∈ (f.runtime.semaphore.leave i).ids ↔ _
        rw [Semaphore.ids_leave]
        exact List.mem_erase_of_ne hj
    · rw [if_pos hstatus]
      exact .refl i f
  · exact .refl i f

theorem interrupt_conserves (i : ℕ) (f : Frame) (kind : Interrupt) : Conserves i f (f.interrupt i kind) := by
  unfold interrupt
  split
  · exact .refl i f
  · exact .of_same rfl (Semaphore.permits_withdraw _ _) (Semaphore.ids_withdraw _ _) rfl rfl rfl rfl rfl id rfl rfl

theorem leaveQueue_conserves {result : Result} (hstage : f.attempt.stage = .queued) :
    Conserves i f ((f.leaveQueue i).refuse result) := by
  have hmove : Conserves i f ((f.leaveQueue i).move (.refused result)) := by
    refine ⟨rfl,?_,by rw [hstage]; rfl,?_,fun ha => ⟨ha.once,?_,Bool.false_ne_true.elim⟩,fun ht => ⟨?_,?_⟩,fun j hj => ?_⟩
    · rw [hstage]
      exact Semaphore.permits_abort _ _
    · rw [hstage]
      simp [leaveQueue,move,Stage.isQueued]
    · have hbalance := ha.balance
      rw [hstage] at hbalance
      exact hbalance
    · exact (tracked_leave ht (Semaphore.ids_abort _ _)).1
    · exact iff_of_false (tracked_leave ht (Semaphore.ids_abort _ _)).2.1 Bool.false_ne_true
    · show j ∈ (f.runtime.semaphore.abort i).ids ↔ _
      rw [Semaphore.ids_abort]
      exact List.mem_erase_of_ne hj
  unfold refuse
  split
  · exact hmove.trans (.of_same rfl rfl rfl rfl rfl rfl rfl rfl id rfl rfl)
  · exact hmove

theorem sent_conserves {child child' : Child} {result result' : Option Result}
    (hstage : f.attempt.stage = .sent child result) (hg : g.attempt.stage = .sent child' result')
    (hchild : child'.uncompleted = child.uncompleted) (hconfig : g.runtime.config = f.runtime.config)
    (hsemaphore : g.runtime.semaphore = f.runtime.semaphore) (hinFlight : g.runtime.inFlight = f.runtime.inFlight)
    (hqueued : g.runtime.queued = f.runtime.queued) (hacquired : g.attempt.acquired = f.attempt.acquired)
    (hreleased : g.attempt.released = f.attempt.released) : Conserves i f g := by
  refine .of_same hconfig (by rw [hsemaphore]) (by rw [hsemaphore]) hinFlight hqueued ?_ ?_ ?_ ?_ hacquired hreleased
  · rw [hstage,hg]
    exact hchild
  · rw [hstage,hg]
    exact hchild
  · rw [hstage,hg]
    rfl
  · rw [hg]
    exact Bool.false_ne_true.elim

theorem deliver_conserves (i : ℕ) (f : Frame) : Conserves i f (f.deliver i) := by
  unfold deliver
  split
  · rename_i hstage _
    exact unavailable_conserves hstage _
  · rename_i hstage _
    exact unavailable_conserves hstage _
  · rename_i hstage _
    exact leaveQueue_conserves hstage
  · rename_i hstage _
    exact leaveQueue_conserves hstage
  · rename_i child hstage _
    exact sent_conserves hstage rfl rfl rfl rfl rfl rfl rfl rfl
  · rename_i child hstage _
    unfold recordTimeout
    split
    · exact sent_conserves hstage rfl rfl rfl rfl rfl rfl rfl rfl
    · exact sent_conserves hstage rfl rfl rfl rfl rfl rfl rfl rfl
  · exact .refl i f

theorem startChild_conserves (i : ℕ) (f : Frame) : Conserves i f f.startChild := by
  unfold startChild
  split
  · rename_i result hstage
    refine sent_conserves hstage rfl ?_ rfl rfl rfl rfl rfl rfl
    split <;> rfl
  · exact .refl i f

theorem settlePreflightProbe_conserves {outcome : Outcome} {result : Option Result}
    (hstage : f.attempt.stage = .sent .preflight result) :
    Conserves i f (f.settlePreflightProbe.move (.sent (.done outcome) result)) := by
  unfold settlePreflightProbe
  split
  · exact sent_conserves hstage rfl rfl rfl rfl rfl rfl rfl rfl
  · exact sent_conserves hstage rfl rfl rfl rfl rfl rfl rfl rfl

theorem preflightReturns_conserves (i : ℕ) (f : Frame) (fault : Option Fault) (hooks : Hooks) :
    Conserves i f (f.preflightReturns fault hooks) := by
  unfold preflightReturns
  split
  · rename_i result hstage
    cases f.checkToolPreflight fault hooks with
    | none => exact sent_conserves hstage rfl rfl rfl rfl rfl rfl rfl rfl
    | some outcome =>
      dsimp only
      unfold settlePreflightFailure
      split
      · exact sent_conserves hstage rfl rfl rfl rfl rfl rfl rfl rfl
      · exact settlePreflightProbe_conserves hstage
  · exact .refl i f

theorem childEnds_conserves (i : ℕ) (f : Frame) (fault : Option Fault) : Conserves i f (f.childEnds fault) := by
  unfold childEnds
  split
  · rename_i result hstage
    exact sent_conserves hstage rfl rfl rfl rfl rfl rfl rfl rfl
  · exact .refl i f

theorem cancelChild_conserves (i : ℕ) (f : Frame) : Conserves i f f.cancelChild := by
  unfold cancelChild
  split
  · rename_i result hstage
    exact sent_conserves hstage rfl rfl rfl rfl rfl rfl rfl rfl
  · rename_i result hstage
    exact settlePreflightProbe_conserves hstage
  · rename_i result hstage
    exact sent_conserves hstage rfl rfl rfl rfl rfl rfl rfl rfl
  · exact .refl i f

/-- The slot of a child-side call comes back with its completion callback. -/
theorem freeChildSlot_conserves {outcome : Outcome} {result : Option Result}
    (hstage : f.attempt.stage = .sent (.done outcome) result) :
    Conserves i f (f.freeChildSlot.move (.sent (.finished outcome) result)) := by
  refine ⟨rfl,?_,?_,by rw [hstage]; rfl,fun ha => ⟨ha.once,?_,Bool.false_ne_true.elim⟩,fun ht => ⟨?_,?_⟩,fun j _ => ?_⟩
  · rw [hstage]
    exact Semaphore.permits_release _
  · rw [hstage]
    simp [freeChildSlot,releaseSlot,move,Stage.uncompleted,Child.uncompleted]
  · have hbalance := ha.balance
    rw [hstage] at hbalance
    exact hbalance
  · show f.runtime.semaphore.release.ids.Nodup
    rw [Semaphore.ids_release]
    exact ht.nodup
  · show i ∈ f.runtime.semaphore.release.ids ↔ _
    have hmem := ht.mem
    rw [hstage] at hmem
    rw [Semaphore.ids_release]
    exact hmem
  · show j ∈ f.runtime.semaphore.release.ids ↔ _
    rw [Semaphore.ids_release]

theorem finishCall_conserves (i : ℕ) (f : Frame) : Conserves i f f.finishCall := by
  unfold finishCall
  split
  · rename_i outcome result hstage
    refine (freeChildSlot_conserves hstage).trans ?_
    cases outcome with
    | success => exact .of_same rfl rfl rfl rfl rfl rfl rfl rfl id rfl rfl
    | failure fault =>
      cases fault with
      | transport => exact .of_same rfl rfl rfl rfl rfl rfl rfl rfl id rfl rfl
      | generationChanged => exact .refl i _
      | application => exact .refl i _
    | preflightDeadlineExpired => exact .refl i _
    | cancelled => exact .refl i _
  · exact .refl i f

theorem returnResult_conserves (i : ℕ) (f : Frame) : Conserves i f f.returnResult := by
  unfold returnResult
  split
  · rename_i outcome hstage _
    split
    · exact sent_conserves hstage rfl rfl rfl rfl rfl rfl rfl rfl
    · exact sent_conserves hstage rfl rfl rfl rfl rfl rfl rfl rfl
    · exact sent_conserves hstage rfl rfl rfl rfl rfl rfl rfl rfl
    · exact sent_conserves hstage rfl rfl rfl rfl rfl rfl rfl rfl
    · exact sent_conserves hstage rfl rfl rfl rfl rfl rfl rfl rfl
  · exact .refl i f

theorem advance_conserves (i : ℕ) (f : Frame) (action : Action) : Conserves i f (f.advance i action) := by
  cases action with
  | resumeReady hooks => exact resumeReady_conserves i f hooks
  | resumeSlot hooks => exact resumeSlot_conserves i f hooks
  | interrupt kind => exact interrupt_conserves i f kind
  | deliver => exact deliver_conserves i f
  | startChild => exact startChild_conserves i f
  | preflightReturns fault hooks => exact preflightReturns_conserves i f fault hooks
  | childEnds fault => exact childEnds_conserves i f fault
  | cancelChild => exact cancelChild_conserves i f
  | finishCall => exact finishCall_conserves i f
  | returnResult => exact returnResult_conserves i f

end Frame

/-- All slots of `m` are accounted for, and so are all that were ever acquired. -/
structure SlotsConserved (m : ℕ) (w : World) : Prop where
  /-- Free, handed to one in the queue, with one that selects a session, or with a child-side call. -/
  permits : w.runtime.semaphore.value+(w.runtime.semaphore.handed+w.attempts.countP (·.stage.selects))+
    w.attempts.countP (·.stage.uncompleted) = m
  inFlight : w.runtime.inFlight = w.attempts.countP (·.stage.uncompleted)
  bounded : w.runtime.inFlight ≤ m
  /-- With no completion callback due these are the calls that go on. -/
  running : (∀ a ∈ w.attempts, a.stage.callbackDue = false) → w.runtime.inFlight = w.attempts.countP (·.stage.unresolved)
  queued : w.runtime.queued = w.attempts.countP (·.stage.isQueued)
  waiters : w.runtime.semaphore.ids.Nodup ∧
    ∀ i, i ∈ w.runtime.semaphore.ids ↔ ∃ a, w.attempts[i]? = some a ∧ a.stage.isQueued = true
  accounted : ∀ a ∈ w.attempts, a.Accounted

/-- The same, as a step of one attempt keeps it. -/
structure SlotsBalanced (m : ℕ) (w : World) : Prop where
  permits : w.runtime.semaphore.permits+w.attempts.countP (·.stage.holdsSlot) = m
  inFlight : w.runtime.inFlight = w.attempts.countP (·.stage.uncompleted)
  queued : w.runtime.queued = w.attempts.countP (·.stage.isQueued)
  nodup : w.runtime.semaphore.ids.Nodup
  mem : ∀ i, i ∈ w.runtime.semaphore.ids ↔ ∃ a, w.attempts[i]? = some a ∧ a.stage.isQueued = true
  accounted : ∀ a ∈ w.attempts, a.Accounted

theorem countP_holdsSlot (l : List Attempt) :
    l.countP (·.stage.holdsSlot) = l.countP (·.stage.selects)+l.countP (·.stage.uncompleted) := by
  induction l with
  | nil => rfl
  | cons a l ih =>
    rw [List.countP_cons,List.countP_cons,List.countP_cons,ih]
    cases hstage : a.stage with
    | sent child result =>
      cases child <;> simp [Stage.holdsSlot,Stage.selects,Stage.uncompleted,Child.uncompleted,Nat.add_assoc]
    | awaitingReady => simp [Stage.holdsSlot,Stage.selects,Stage.uncompleted]
    | queued => simp [Stage.holdsSlot,Stage.selects,Stage.uncompleted]
    | selecting =>
      simp only [Stage.holdsSlot,Stage.selects,Stage.uncompleted,Bool.true_or,if_true,Bool.false_eq_true,if_false]
      omega
    | refused => simp [Stage.holdsSlot,Stage.selects,Stage.uncompleted]

theorem uncompleted_of_unresolved {s : Stage} (h : s.unresolved = true) : s.uncompleted = true := by
  cases s with
  | sent child result => cases child <;> first | rfl | cases h
  | awaitingReady => cases h
  | queued => cases h
  | selecting => cases h
  | refused => cases h

theorem SlotsBalanced.conserved {m : ℕ} {w : World} (h : SlotsBalanced m w) : SlotsConserved m w := by
  have hpermits := h.permits
  rw [countP_holdsSlot] at hpermits
  unfold Semaphore.permits at hpermits
  refine ⟨by omega,h.inFlight,?_,fun hquiet => ?_,h.queued,⟨h.nodup,h.mem⟩,h.accounted⟩
  · rw [h.inFlight]
    exact_mod_cast (show w.attempts.countP (·.stage.uncompleted) ≤ m by omega)
  · rw [h.inFlight]
    refine congrArg Nat.cast (List.countP_congr fun a ha => ⟨fun huncompleted => ?_,uncompleted_of_unresolved⟩)
    have hdue := hquiet a ha
    unfold Stage.callbackDue at hdue
    rw [huncompleted,Bool.true_and,Bool.not_eq_false'] at hdue
    exact hdue

theorem countP_set_add {p : Attempt → Bool} {l : List Attempt} {i : ℕ} {a b : Attempt} (ha : l[i]? = some a) :
    (l.set i b).countP p+(p a).toNat = l.countP p+(p b).toNat := by
  induction l generalizing i with
  | nil => cases ha
  | cons c l ih =>
    cases i with
    | zero =>
      obtain rfl := Option.some.inj ha
      rw [List.set_cons_zero,List.countP_cons,List.countP_cons]
      cases p c <;> cases p b <;> simp
    | succ i =>
      have hrest := ih ha
      rw [List.set_cons_succ,List.countP_cons,List.countP_cons]
      omega

theorem ran_balanced {m i : ℕ} {w : World} {a : Attempt} {g : Frame} (hw : SlotsBalanced m w)
    (ha : w.attempts[i]? = some a) (h : Conserves i ⟨w.runtime,a⟩ g) :
    SlotsBalanced m ⟨g.runtime,w.attempts.set i g.attempt⟩ := by
  have htracked : Tracked i ⟨w.runtime,a⟩ := by
    refine ⟨hw.nodup,(hw.mem i).trans ⟨fun ⟨b,hb,hqueued⟩ => ?_,fun hqueued => ⟨a,ha,hqueued⟩⟩⟩
    obtain rfl := Option.some.inj (ha.symm.trans hb)
    exact hqueued
  have hlt : i < w.attempts.length := (List.getElem?_eq_some_iff.mp ha).1
  refine ⟨?_,?_,?_,(h.tracked htracked).nodup,fun j => ?_,fun b hb => ?_⟩
  · have hset := countP_set_add (p := (·.stage.holdsSlot)) (b := g.attempt) ha
    have hpermits := h.permits
    have hold := hw.permits
    dsimp only at hset hpermits ⊢
    omega
  · have hset := countP_set_add (p := (·.stage.uncompleted)) (b := g.attempt) ha
    have hinFlight := h.inFlight
    have hold := hw.inFlight
    dsimp only at hset hinFlight ⊢
    omega
  · have hset := countP_set_add (p := (·.stage.isQueued)) (b := g.attempt) ha
    have hqueued := h.queued
    have hold := hw.queued
    dsimp only at hset hqueued ⊢
    omega
  · dsimp only
    rw [List.getElem?_set]
    by_cases hj : i = j
    · subst hj
      rw [if_pos rfl,if_pos hlt]
      refine (h.tracked htracked).mem.trans ⟨fun hqueued => ⟨_,rfl,hqueued⟩,fun ⟨b,hb,hqueued⟩ => ?_⟩
      obtain rfl := Option.some.inj hb
      exact hqueued
    · rw [if_neg hj]
      exact (h.others j (Ne.symm hj)).trans (hw.mem j)
  · rcases List.mem_or_eq_of_mem_set hb with hb | rfl
    · exact hw.accounted b hb
    · exact h.accounted (hw.accounted a (List.mem_of_getElem? ha))

theorem begun_balanced {m : ℕ} {w : World} {f g : Frame} {seen : ℕ} (hw : SlotsBalanced m w)
    (hsemaphore : f.runtime.semaphore = w.runtime.semaphore) (hinFlight : f.runtime.inFlight = w.runtime.inFlight)
    (hqueued : f.runtime.queued = w.runtime.queued) (hstage : f.attempt.stage = .awaitingReady seen)
    (hfresh : f.attempt.acquired = 0 ∧ f.attempt.released = 0) (h : Conserves w.attempts.length f g) :
    SlotsBalanced m ⟨g.runtime,w.attempts ++ [g.attempt]⟩ := by
  have hnew : w.attempts.length ∉ w.runtime.semaphore.ids := by
    intro hmem
    obtain ⟨a,ha,-⟩ := (hw.mem _).mp hmem
    rw [List.getElem?_eq_none (Nat.le_refl _)] at ha
    cases ha
  have htracked : Tracked w.attempts.length f := by
    refine ⟨hsemaphore ▸ hw.nodup,?_⟩
    rw [hsemaphore,hstage]
    exact iff_of_false hnew Bool.false_ne_true
  have haccounted : f.attempt.Accounted := by
    refine ⟨hfresh.1 ▸ Nat.zero_le 1,?_,fun _ => hfresh.1⟩
    rw [hfresh.1,hfresh.2,hstage]
    rfl
  have hcount (p : Attempt → Bool) : (w.attempts ++ [g.attempt]).countP p = w.attempts.countP p+(p g.attempt).toNat := by
    rw [List.countP_append,List.countP_singleton]
    cases p g.attempt <;> rfl
  refine ⟨?_,?_,?_,(h.tracked htracked).nodup,fun j => ?_,fun b hb => ?_⟩
  · have hpermits := h.permits
    rw [hsemaphore,hstage] at hpermits
    have hzero : (Stage.awaitingReady seen).holdsSlot.toNat = 0 := rfl
    have hold := hw.permits
    dsimp only
    rw [hcount]
    omega
  · have hflight := h.inFlight
    rw [hinFlight,hstage] at hflight
    have hzero : (Stage.awaitingReady seen).uncompleted.toNat = 0 := rfl
    have hold := hw.inFlight
    dsimp only
    rw [hcount]
    omega
  · have hline := h.queued
    rw [hqueued,hstage] at hline
    have hzero : (Stage.awaitingReady seen).isQueued.toNat = 0 := rfl
    have hold := hw.queued
    dsimp only
    rw [hcount]
    omega
  · dsimp only
    by_cases hj : j = w.attempts.length
    · subst hj
      rw [List.getElem?_append_right (Nat.le_refl _),Nat.sub_self]
      refine (h.tracked htracked).mem.trans ⟨fun hline => ⟨_,rfl,hline⟩,fun ⟨b,hb,hline⟩ => ?_⟩
      obtain rfl := Option.some.inj hb
      exact hline
    · refine (h.others j hj).trans (hsemaphore ▸ (hw.mem j).trans ?_)
      rcases Nat.lt_or_ge j w.attempts.length with hlt | hge
      · rw [List.getElem?_append_left hlt]
      · have hlen : (w.attempts ++ [g.attempt]).length ≤ j := by
          rw [List.length_append,List.length_singleton]
          omega
        rw [List.getElem?_eq_none hge,List.getElem?_eq_none hlen]
  · rcases List.mem_append.mp hb with hb | hb
    · exact hw.accounted b hb
    · rw [List.mem_singleton.mp hb]
      exact h.accounted haccounted

theorem SlotsBalanced.of_same {m : ℕ} {w v : World} (hw : SlotsBalanced m w) (hattempts : v.attempts = w.attempts)
    (hsemaphore : v.runtime.semaphore = w.runtime.semaphore) (hinFlight : v.runtime.inFlight = w.runtime.inFlight)
    (hqueued : v.runtime.queued = w.runtime.queued) : SlotsBalanced m v := by
  refine ⟨?_,?_,?_,?_,?_,?_⟩
  · rw [hattempts,hsemaphore]
    exact hw.permits
  · rw [hattempts,hinFlight]
    exact hw.inFlight
  · rw [hattempts,hqueued]
    exact hw.queued
  · rw [hsemaphore]
    exact hw.nodup
  · rw [hattempts,hsemaphore]
    exact hw.mem
  · rw [hattempts]
    exact hw.accounted

theorem balanced_step (m : ℕ) (w : World) (e : Event) (hw : SlotsBalanced m w) : SlotsBalanced m (step w e).2 := by
  cases e with
  | tick now => exact hw.of_same rfl rfl rfl rfl
  | begin call hooks =>
    cases hbefore : w.runtime.breaker.beforeCall w.runtime.now with
    | error message =>
      have hstep : step w (.begin call hooks) = (some .circuitOpen,w) := by simp only [step,hbefore]
      rw [hstep]
      exact hw
    | ok breaker =>
      let f : Frame := ⟨{w.runtime with breaker},beginRequest call breaker⟩
      have hstep : step w (.begin call hooks) = (none,⟨(f.awaitReady w.attempts.length hooks).runtime,
          w.attempts ++ [(f.awaitReady w.attempts.length hooks).attempt]⟩) := by
        simp only [step,hbefore,f]
      rw [hstep]
      have hf : Conserves w.attempts.length f (f.awaitReady w.attempts.length hooks) :=
        Frame.awaitReady_conserves rfl
      exact begun_balanced hw rfl rfl rfl rfl ⟨rfl,rfl⟩ hf
  | on i action =>
    cases ha : w.attempts[i]? with
    | none =>
      have hstep : step w (.on i action) = (none,w) := by simp only [step,ha]
      rw [hstep]
      exact hw
    | some a =>
      have hstep : step w (.on i action) = (none,⟨(Frame.advance i ⟨w.runtime,a⟩ action).runtime,
          w.attempts.set i (Frame.advance i ⟨w.runtime,a⟩ action).attempt⟩) := by
        simp only [step,ha]
      rw [hstep]
      exact ran_balanced hw ha (Frame.advance_conserves i ⟨w.runtime,a⟩ action)
  | change change => cases change <;> exact hw.of_same rfl rfl rfl rfl

theorem start_balanced (config : Config) : SlotsBalanced config.maxConcurrency.1 (World.start config) := by
  refine ⟨rfl,rfl,rfl,List.nodup_nil,fun i => ⟨fun hmem => ?_,fun hqueued => ?_⟩,fun a ha => ?_⟩
  · cases hmem
  · obtain ⟨a,ha,-⟩ := hqueued
    cases ha
  · cases ha

/-- No slot of a runtime is lost and none is given back twice, whatever happens in between. -/
theorem slots_conserved (config : Config) (events : List Event) :
    SlotsConserved config.maxConcurrency.1 (after step (World.start config) events) := by
  have hreach : Reachable step (World.start config) (after step (World.start config) events) := ⟨events,rfl⟩
  have hbalanced := hreach.invariant (P := SlotsBalanced config.maxConcurrency.1)
    (balanced_step config.maxConcurrency.1) (start_balanced config)
  exact hbalanced.conserved
end Arbora.Fleet
