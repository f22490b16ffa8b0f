import Arbora.Lib.Asking
import Arbora.Lib.Base64
import Arbora.Lib.Pool
import Arbora.Lib.Sha256

/-! The inbox: an inbound message is recorded before it is replied to, marked once a reply has got through, and retried
by a reaper until then. The times of answers and of retries are left out. -/
namespace Arbora.Messaging.Inbox
open Interaction

def maxAttempts : ℕ := 4

inductive Status where
  | pending | answered | deadLetter | backfilled
  deriving DecidableEq

/-- The properties of a node, as far as it has them. -/
structure Row where
  (platform channelId messageId text session : Option String)
  status : Status
  receivedAt : Option String
  attempts : Option ℕ

/-- Whether nothing is left to be done about a message. -/
def Row.settled (row : Row) : Prop := row.status = .answered ∨ row.status = .deadLetter

structure Message where
  id : String
  row : Row

def Message.attempts (m : Message) : ℕ := m.row.attempts.getD 0

def inboxId (platform channelId messageId text : String) : String :=
  let raw := platform ++ ":" ++ channelId ++ ":" ++ messageId ++ ":" ++ text
  "inbound:" ++ platform ++ ":" ++ channelId ++ ":" ++
    String.ofList ((Sha256.hexdigest (Base64.utf8 raw)).take 32)

theorem inboxId_ne_empty (platform channelId messageId text : String) : inboxId platform channelId messageId text ≠ "" := by
  intro h
  have htext := congrArg String.toList h
  simp [inboxId,String.toList_append] at htext

section
variable {Time : Type}

inductive Call where
  /-- whether it has not raised -/
  | addNode (id : String) (row : Row)
  /-- the rows that are pending, or nothing where the query raised -/
  | scan (limit : ℕ)
  | nowText
  | now
  /-- a reply is sent from a start to an end, where it may have raised -/
  | sendStart (m : Message)
  | sendEnd (m : Message)

variable (Time) in
@[reducible] def Call.Result : Call → Type
  | .addNode .. => Bool
  | .scan _ => Option (List Message)
  | .nowText => String
  | .now => Time
  | .sendStart _ => Unit
  | .sendEnd _ => Option Bool

/-- Nothing is raised. -/
abbrev Step (Time α : Type) := Prog Call (Call.Result Time) Empty α

abbrev ask (e : Call) : Step Time (e.Result Time) := Prog.ask e

def receivedText (receivedAt : Option String) : Step Time String :=
  if receivedAt.getD "" = "" then ask .nowText else .ret (receivedAt.getD "")

def recordInbound (platform channelId messageId text session : String) (status : Status) (receivedAt : Option String) :
    Step Time (Option String) := do
  let id := inboxId platform channelId messageId text
  let received ← receivedText receivedAt
  let ok ← ask (.addNode id {
    platform := some platform
    channelId := some channelId
    messageId := some messageId
    text := some (String.ofList (text.toList.take 4000))
    session := some session
    status := status
    receivedAt := some received
    attempts := some 0 })
  return if ok then some id else none

def set (id : String) (row : Row) : Step Time Unit :=
  if id = "" then .ret () else do
    let _ ← ask (.addNode id row)
    return ()

def answeredRow : Row := ⟨none,none,none,none,none,.answered,none,none⟩
def deadLetterRow (attempts : ℕ) : Row := ⟨none,none,none,none,none,.deadLetter,none,some attempts⟩

def markAnswered (inboxId : Option String) : Step Time Unit :=
  match inboxId with
  | some id => set id answeredRow
  | none => .ret ()

variable [LinearOrder Time] [Sub Time] [OfNat Time 90] [OfNat Time 0]
  -- what `fromisoformat` makes of a text, if anything
  (timestamp : String → Option Time)

/-- Whether the first attempt may yet land. -/
def inGrace (cutoff : Time) (m : Message) : Bool :=
  let received := ((m.row.receivedAt.filter (· ≠ "")).bind timestamp).getD 0
  received ≠ 0 ∧ cutoff < received

def pendingUnanswered : Step Time (List Message) := do
  let rows ← ask (.scan 20)
  match rows with
  | none => return []
  | some rows => do
    let now ← ask .now
    return rows.filter fun m => inGrace timestamp (now - 90) m = false

/-- The record that a failed attempt leaves. -/
def bumped (m : Message) : Row := { m.row with status := .pending, attempts := some (m.attempts+1) }

def retryOne (m : Message) : Step Time Bool :=
  if maxAttempts ≤ m.attempts then do
    set m.id (deadLetterRow m.attempts)
    return false
  else do
    ask (.sendStart m)
    let outcome ← ask (.sendEnd m)
    if outcome = some true then do
      markAnswered (some m.id)
      return true
    else do
      set m.id (bumped m)
      return false

def retryAll : List Message → ℕ → Step Time ℕ
  | [], answered => .ret answered
  | m :: rest, answered => do
    let ok ← retryOne m
    retryAll rest (if ok then answered+1 else answered)

def retryUnanswered : Step Time ℕ := do
  let messages ← pendingUnanswered timestamp
  retryAll messages 0

/-- What is done about the inbox: an intake, the end of a turn, a pass of the reaper. -/
inductive Operation where
  | record (platform channelId messageId text session : String) (status : Status) (receivedAt : Option String)
  | markAnswered (inboxId : Option String)
  | retry

def Operation.program : Operation → Step Time Unit
  | .record platform channelId messageId text session status receivedAt => do
    let _ ← recordInbound platform channelId messageId text session status receivedAt
    return ()
  | .markAnswered inboxId => Inbox.markAnswered inboxId
  | .retry => do
    let _ ← retryUnanswered timestamp
    return ()

end

section
variable {Time ι : Type}

structure Engine where
  rows : String → Option Row

def Engine.write (s : Engine) (id : String) (row : Row) : Engine := ⟨Function.update s.rows id (some row)⟩

@[simp] theorem Engine.write_self (s : Engine) (id : String) (row : Row) : (s.write id row).rows id = some row :=
  Function.update_self ..
theorem Engine.write_of_ne {s : Engine} {id other : String} {row : Row} (h : other ≠ id) :
    (s.write id row).rows other = s.rows other := Function.update_of_ne h ..

inductive Serves : World Call (Call.Result Time) Engine
  | addNode (s : Engine) (id : String) (row : Row) : Serves s (.addNode id row) true (s.write id row)
  | scanned (s : Engine) (limit : ℕ) (rows : List Message) (hlimit : rows.length ≤ limit)
      (hrows : ∀ m ∈ rows, s.rows m.id = some m.row ∧ m.row.status = .pending) (hnodup : (rows.map (·.id)).Nodup) :
      Serves s (.scan limit) (some rows) s
  | unscanned (s : Engine) (limit : ℕ) : Serves s (.scan limit) none s
  | nowText (s : Engine) (r : String) : Serves s .nowText r s
  | now (s : Engine) (r : Time) : Serves s .now r s
  | sendStart (s : Engine) (m : Message) : Serves s (.sendStart m) () s
  | sendEnd (s : Engine) (m : Message) (r : Option Bool) : Serves s (.sendEnd m) r s

abbrev History (Time : Type) := List (Event Call (Call.Result Time))
abbrev Log (Time ι : Type) := List (ι × Event Call (Call.Result Time))

def empty : Engine := ⟨fun _ => none⟩

variable [LinearOrder Time] [Sub Time] [OfNat Time 90] [OfNat Time 0] (timestamp : String → Option Time)

def inbox (ops : ι → Operation) : Pool ι Call (Call.Result Time) Empty Unit Engine :=
  ⟨empty,fun i => (ops i).program timestamp⟩

end

end Arbora.Messaging.Inbox
