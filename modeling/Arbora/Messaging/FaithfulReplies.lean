import Arbora.Messaging.Inbox

/-! The reaper as the router runs it: the replies it sends through the connected backends, and what its
passes and the intake leave in the inbox. -/
namespace Arbora.Messaging.Inbox
open Interaction

structure Backend where
  (id platform : String)

def Backend.serves (backend : Backend) (platform : String) : Bool :=
  backend.id = platform || backend.platform = platform

def backendFor (backends : List Backend) (platform : String) : Option Backend :=
  match backends.find? fun backend => platform ≠ "" && backend.serves platform with
  | some backend => some backend
  | none => backends.head?

/-- What the turn handler does about a message; a reply may be empty. -/
inductive Turn where
  | unbound | raised | replied (reply : String)

structure Attempt where
  turn : Turn
  /-- whether the backend reports success, nothing where it raises -/
  sent : Option Bool
  /-- whether the write after it gets through -/
  stored : Bool

structure Reply where
  backend : Backend
  (channelId text session : Option String)
  reply : String

/-- `_reply_send`: what it returns, nothing where it raises, and what it sends. A platform that is missing is read as `None`. -/
def replySend (backends : List Backend) (m : Message) (a : Attempt) : Option Bool × Option Reply :=
  match backendFor backends (m.row.platform.getD "None") with
  | none => (some false,none)
  | some backend =>
    match a.turn with
    | .unbound => (some false,none)
    | .raised => (none,none)
    | .replied reply =>
      if reply = "" then (some false,none)
      else (a.sent,some ⟨backend,m.row.channelId,m.row.text,m.row.session,reply⟩)

section
variable {Time : Type}

structure Inbound where
  (platform channelId messageId text : String)

def Inbound.id (q : Inbound) : String := inboxId q.platform q.channelId q.messageId q.text

/-- An intake, with the time it reads and whether its write gets through. -/
structure Intake where
  inbound : Inbound
  session : String
  status : Status
  receivedAt : Option String
  nowText : String
  stored : Bool

variable (Time) in
structure Pass where
  backends : List Backend
  scanned : Option (List Message)
  now : Time
  attempt : String → Attempt

variable (Time) in
inductive Move where
  | intake (q : Intake)
  | pass (p : Pass Time)

variable [LinearOrder Time] [Sub Time] [OfNat Time 90] [OfNat Time 0] (timestamp : String → Option Time)

namespace Move

def program : Move Time → Inbox.Step Time Unit
  | .intake q => (Operation.record q.inbound.platform q.inbound.channelId q.inbound.messageId q.inbound.text q.session
      q.status q.receivedAt).program timestamp
  | .pass _ => Operation.retry.program timestamp

def stored : Move Time → String → Bool
  | .intake q, _ => q.stored
  | .pass p, id => (p.attempt id).stored

def answers (move : Move Time) : (e : Call) → e.Result Time
  | .addNode id _ => move.stored id
  | .scan _ => match move with
    | .intake _ => none
    | .pass p => p.scanned
  | .nowText => match move with
    | .intake q => q.nowText
    | .pass _ => ""
  | .now => match move with
    | .intake _ => 0
    | .pass p => p.now
  | .sendStart _ => ()
  | .sendEnd m => match move with
    | .intake _ => none
    | .pass p => (replySend p.backends m (p.attempt m.id)).1

def effect (move : Move Time) (s : Engine) : Call → Engine
  | .addNode id row => if move.stored id then s.write id row else s
  | _ => s

def after (move : Move Time) (s : Engine) : Engine :=
  ((move.program timestamp).made move.answers).foldl move.effect s

def replyOf (move : Move Time) : Call → Option (Message × Reply)
  | .sendEnd m => match move with
    | .intake _ => none
    | .pass p => (replySend p.backends m (p.attempt m.id)).2.map fun reply => (m,reply)
  | _ => none

def replies (move : Move Time) : List (Message × Reply) :=
  ((move.program timestamp).made move.answers).filterMap move.replyOf

end Move
end
/-! Which runs of the intake and the reaper keep to what was recorded: where replies go, what a change of status
leaves of a row, and which messages share a row. -/

/-- The text that is hashed into a row's identifier. -/
def Inbound.raw (q : Inbound) : String := q.platform ++ ":" ++ q.channelId ++ ":" ++ q.messageId ++ ":" ++ q.text

def Inbound.digest (q : Inbound) : List Char := (Sha256.hexdigest (Base64.utf8 q.raw)).take 32
def Inbound.joined (q : Inbound) : String × String :=
  (q.platform ++ ":" ++ q.channelId,q.messageId ++ ":" ++ q.text)

private theorem Inbound.toList_id (q : Inbound) :
    q.id.toList = "inbound:".toList ++ (q.joined.1.toList ++ (":".toList ++ q.digest)) := by
  simp [Inbound.id,inboxId,Inbound.joined,Inbound.digest,Inbound.raw,String.toList_append]

private theorem Inbound.toList_raw (q : Inbound) :
    q.raw.toList = q.joined.1.toList ++ (":".toList ++ q.joined.2.toList) := by
  simp [Inbound.raw,Inbound.joined,String.toList_append]

private theorem Inbound.length_digest (q : Inbound) : q.digest.length = 32 := by
  simp [Inbound.digest,Sha256.length_hexdigest]

theorem Inbound.id_eq_iff {q q' : Inbound} (hfree : q.digest = q'.digest → q.raw = q'.raw) :
    q.id = q'.id ↔ q.joined = q'.joined := by
  constructor
  · intro h
    have htext := congrArg String.toList h
    rw [q.toList_id,q'.toList_id] at htext
    have hrest := List.append_cancel_left htext
    rw [← List.append_assoc,← List.append_assoc] at hrest
    obtain ⟨hfront,hdigest⟩ := List.append_inj' hrest (q.length_digest.trans q'.length_digest.symm)
    have hfirst := List.append_cancel_right hfront
    have hraw := congrArg String.toList (hfree hdigest)
    rw [q.toList_raw,q'.toList_raw,hfirst] at hraw
    have hsecond := List.append_cancel_left (List.append_cancel_left hraw)
    exact Prod.ext (String.toList_inj.mp hfirst) (String.toList_inj.mp hsecond)
  · intro h
    have hraw : q.raw = q'.raw := by
      apply String.toList_inj.mp
      rw [q.toList_raw,q'.toList_raw,h]
    apply String.toList_inj.mp
    rw [q.toList_id,q'.toList_id,h,Inbound.digest,Inbound.digest,hraw]

section
variable {Time : Type} [LinearOrder Time] [Sub Time] [OfNat Time 90] [OfNat Time 0] {timestamp : String → Option Time}

/-- What a row says of its message. -/
structure Content where
  (platform channelId messageId text session : Option String)

def Row.content (row : Row) : Content := ⟨row.platform,row.channelId,row.messageId,row.text,row.session⟩

def Intake.row (q : Intake) : Row where
  platform := some q.inbound.platform
  channelId := some q.inbound.channelId
  messageId := some q.inbound.messageId
  text := some (String.ofList (q.inbound.text.toList.take 4000))
  session := some q.session
  status := q.status
  receivedAt := some (if q.receivedAt.getD "" = "" then q.nowText else q.receivedAt.getD "")
  attempts := some 0

theorem made_intake (q : Intake) : ((Move.intake q : Move Time).program timestamp).made (Move.intake q).answers =
    (if q.receivedAt.getD "" = "" then [.nowText] else []) ++ [.addNode q.inbound.id q.row] := by
  by_cases h : q.receivedAt.getD "" = "" <;>
    simp [Move.program,Operation.program,recordInbound,receivedText,h,Prog.made,ask,Prog.ask,Intake.row,
      Inbound.id,Move.answers]

theorem after_intake (q : Intake) (s : Engine) :
    (Move.intake q : Move Time).after timestamp s = if q.stored then s.write q.inbound.id q.row else s := by
  rw [Move.after,made_intake]
  split_ifs <;> simp_all [Move.effect,Move.stored]

theorem replies_intake (q : Intake) : (Move.intake q : Move Time).replies timestamp = [] := by
  rw [Move.replies,made_intake]
  split_ifs <;> simp [Move.replyOf]

section
variable {p : Pass Time}

variable (timestamp) in
def Pass.taken (p : Pass Time) : List Message :=
  match p.scanned with
  | none => []
  | some rows => rows.filter fun m => inGrace timestamp (p.now - 90) m = false

def Pass.attempted (p : Pass Time) (m : Message) : Option Bool × Option Reply :=
  replySend p.backends m (p.attempt m.id)

def Pass.written (p : Pass Time) (m : Message) : Row :=
  if maxAttempts ≤ m.attempts then deadLetterRow m.attempts
  else if (p.attempted m).1 = some true then answeredRow
  else bumped m

def callsFor (p : Pass Time) (m : Message) : List Call :=
  (if maxAttempts ≤ m.attempts then [] else [.sendStart m,.sendEnd m]) ++
    if m.id = "" then [] else [.addNode m.id (p.written m)]

omit [LinearOrder Time] [Sub Time] [OfNat Time 90] in
theorem made_retryOne (m : Message) : (∃ ok, (retryOne m : Inbox.Step Time Bool).eval (Move.pass p).answers = .ok ok) ∧
    (retryOne m : Inbox.Step Time Bool).made (Move.pass p).answers = callsFor p m := by
  unfold retryOne callsFor Pass.written
  by_cases hcap : maxAttempts ≤ m.attempts
  · by_cases hid : m.id = "" <;> simp [hcap,hid,set,Prog.made,ask,Prog.ask,Prog.eval]
  · have hsent : (Move.pass p).answers (.sendEnd m) = (p.attempted m).1 := rfl
    by_cases hok : (p.attempted m).1 = some true <;> by_cases hid : m.id = "" <;>
      simp [hcap,hid,hok,hsent,set,markAnswered,Prog.made,ask,Prog.ask,Prog.eval]

omit [LinearOrder Time] [Sub Time] [OfNat Time 90] in
theorem made_retryAll (messages : List Message) (n : ℕ) :
    (∃ k, (retryAll messages n : Inbox.Step Time ℕ).eval (Move.pass p).answers = .ok k) ∧
    (retryAll messages n : Inbox.Step Time ℕ).made (Move.pass p).answers = messages.flatMap (callsFor p) := by
  induction messages generalizing n with
  | nil => exact ⟨⟨n,rfl⟩,rfl⟩
  | cons m rest ih =>
    obtain ⟨⟨ok,hok⟩,hmade⟩ := made_retryOne (p := p) m
    obtain ⟨⟨k,hk⟩,hrest⟩ := ih (if ok then n+1 else n)
    refine ⟨⟨k,?_⟩,?_⟩
    · exact (Prog.eval_bind_of_ok hok).trans hk
    · rw [List.flatMap_cons,← hmade,← hrest]
      exact Prog.made_bind_of_ok hok

variable (timestamp p) in
theorem made_pass : ∃ readings : List Call, (∀ e ∈ readings, e = .scan 20 ∨ e = .now) ∧
    ((Move.pass p).program timestamp).made (Move.pass p).answers =
      readings ++ (p.taken timestamp).flatMap (callsFor p) := by
  have htail (messages : List Message) : ((retryAll messages 0 : Inbox.Step Time ℕ).bind fun _ => .ret ()).made
      (Move.pass p).answers = messages.flatMap (callsFor p) := by
    obtain ⟨⟨k,hk⟩,hmade⟩ := made_retryAll (p := p) messages 0
    rw [Prog.made_bind_of_ok hk,hmade]
    exact List.append_nil _
  unfold Pass.taken
  cases hscan : p.scanned with
  | none =>
    refine ⟨[.scan 20],by simp,?_⟩
    have := htail []
    simpa [Move.program,Operation.program,retryUnanswered,pendingUnanswered,Prog.made,ask,Prog.ask,Move.answers,
      hscan] using this
  | some rows =>
    refine ⟨[.scan 20,.now],by simp,?_⟩
    have := htail (rows.filter fun m => inGrace timestamp (p.now - 90) m = false)
    simpa [Move.program,Operation.program,retryUnanswered,pendingUnanswered,Prog.made,ask,Prog.ask,Move.answers,
      hscan] using this

def Pass.put (p : Pass Time) (s : Engine) (m : Message) : Engine :=
  if m.id ≠ "" ∧ (p.attempt m.id).stored = true then s.write m.id (p.written m) else s

omit [LinearOrder Time] [Sub Time] [OfNat Time 90] [OfNat Time 0] in
theorem effect_callsFor (s : Engine) (m : Message) : (callsFor p m).foldl (Move.pass p).effect s = p.put s m := by
  have hskip : (if maxAttempts ≤ m.attempts then [] else [Call.sendStart m,.sendEnd m]).foldl (Move.pass p).effect s = s := by
    split_ifs <;> rfl
  unfold callsFor Pass.put
  rw [List.foldl_append,hskip]
  by_cases hid : m.id = ""
  · simp [hid]
  · cases hstored : (p.attempt m.id).stored with
    | true => simp [hid,hstored,Move.effect,Move.stored]
    | false => simp [hid,hstored,Move.effect,Move.stored]

theorem after_pass (s : Engine) : (Move.pass p).after timestamp s = (p.taken timestamp).foldl p.put s := by
  obtain ⟨readings,hread,hmade⟩ := made_pass timestamp p
  have hskip : readings.foldl (Move.pass p).effect s = s := by
    clear hmade
    induction readings with
    | nil => rfl
    | cons e rest ih =>
      rcases hread e List.mem_cons_self with rfl | rfl <;>
        exact ih fun e he => hread e (List.mem_cons_of_mem _ he)
  unfold Move.after
  rw [hmade,List.foldl_append,hskip]
  clear hread hmade hskip
  induction p.taken timestamp generalizing s with
  | nil => rfl
  | cons m rest ih => rw [List.flatMap_cons,List.foldl_append,effect_callsFor,List.foldl_cons,ih]

omit [LinearOrder Time] [Sub Time] [OfNat Time 90] [OfNat Time 0] in
theorem put_other {s : Engine} {m : Message} {id : String}
    (h : m.id = id → id = "" ∨ (p.attempt id).stored = false) : (p.put s m).rows id = s.rows id := by
  unfold Pass.put
  split_ifs with hput
  · apply Engine.write_of_ne
    rintro rfl
    rcases h rfl with hid | hlost
    · exact hput.1 hid
    · simp [hlost] at hput
  · rfl

omit [LinearOrder Time] [Sub Time] [OfNat Time 90] [OfNat Time 0] in
theorem puts_other {messages : List Message} {s : Engine} {id : String}
    (h : ∀ m ∈ messages, m.id = id → id = "" ∨ (p.attempt id).stored = false) :
    (messages.foldl p.put s).rows id = s.rows id := by
  induction messages generalizing s with
  | nil => rfl
  | cons m rest ih =>
    rw [List.foldl_cons,ih fun m' hm' => h m' (List.mem_cons_of_mem _ hm')]
    exact put_other (h m List.mem_cons_self)

omit [LinearOrder Time] [Sub Time] [OfNat Time 90] [OfNat Time 0] in
theorem puts_self {messages : List Message} {s : Engine} {m : Message} (hnodup : (messages.map (·.id)).Nodup)
    (hm : m ∈ messages) (hid : m.id ≠ "") (hstored : (p.attempt m.id).stored = true) :
    (messages.foldl p.put s).rows m.id = some (p.written m) := by
  induction messages generalizing s with
  | nil => cases hm
  | cons first rest ih =>
    obtain ⟨hfirst,hrest⟩ := List.nodup_cons.mp (List.map_cons ▸ hnodup)
    rw [List.foldl_cons]
    rcases List.mem_cons.mp hm with rfl | hm
    · rw [puts_other]
      · rw [Pass.put,if_pos ⟨hid,hstored⟩,Engine.write_self]
      · intro m' hm' heq
        exact absurd (heq ▸ List.mem_map_of_mem hm') hfirst
    · exact ih hrest hm

theorem mem_replies_pass {x : Message × Reply} : x ∈ (Move.pass p).replies timestamp ↔
    x.1 ∈ p.taken timestamp ∧ x.1.attempts < maxAttempts ∧ (p.attempted x.1).2 = some x.2 := by
  obtain ⟨readings,hread,hmade⟩ := made_pass timestamp p
  have hnone : readings.filterMap (Move.pass p).replyOf = [] := by
    rw [List.filterMap_eq_nil_iff]
    intro e he
    rcases hread e he with rfl | rfl <;> rfl
  have hcalls (m : Message) : x ∈ (callsFor p m).filterMap (Move.pass p).replyOf ↔
      m = x.1 ∧ m.attempts < maxAttempts ∧ (p.attempted m).2 = some x.2 := by
    obtain ⟨m',reply⟩ := x
    unfold callsFor
    by_cases hcap : maxAttempts ≤ m.attempts
    · have : ¬ m.attempts < maxAttempts := Nat.not_lt.mpr hcap
      by_cases hid : m.id = "" <;> simp [hcap,hid,this,Move.replyOf]
    · have : m.attempts < maxAttempts := Nat.lt_of_not_le hcap
      by_cases hid : m.id = "" <;> simp [hcap,hid,this,Move.replyOf,Pass.attempted,and_comm]
  unfold Move.replies
  rw [hmade,List.filterMap_append,hnone,List.nil_append,List.filterMap_flatMap,List.mem_flatMap]
  constructor
  · rintro ⟨m,hm,hx⟩
    obtain ⟨rfl,hrest⟩ := (hcalls m).mp hx
    exact ⟨hm,hrest⟩
  · rintro ⟨hm,hrest⟩
    exact ⟨x.1,hm,(hcalls x.1).mpr ⟨rfl,hrest⟩⟩

end
theorem mem_of_backendFor {backends : List Backend} {platform : String} {backend : Backend}
    (h : backendFor backends platform = some backend) : backend ∈ backends := by
  unfold backendFor at h
  split at h
  · rename_i found hfind
    cases h
    exact List.mem_of_find?_eq_some hfind
  · exact List.mem_of_head? h

theorem replySend_reply {backends : List Backend} {m : Message} {a : Attempt} {r : Reply} :
    (replySend backends m a).2 = some r ↔ ∃ backend reply, backendFor backends (m.row.platform.getD "None") = some backend ∧
      a.turn = .replied reply ∧ reply ≠ "" ∧ r = ⟨backend,m.row.channelId,m.row.text,m.row.session,reply⟩ := by
  unfold replySend
  cases hbackend : backendFor backends (m.row.platform.getD "None") with
  | none => simp
  | some backend =>
    cases hturn : a.turn with
    | unbound => simp
    | raised => simp
    | replied reply =>
      by_cases hempty : reply = ""
      · simp [hempty]
      · simp [hempty,eq_comm]

theorem replySend_delivered {backends : List Backend} {m : Message} {a : Attempt}
    (h : (replySend backends m a).1 = some true) : (∃ r, (replySend backends m a).2 = some r) ∧ a.sent = some true := by
  unfold replySend at h ⊢
  cases hbackend : backendFor backends (m.row.platform.getD "None") with
  | none => simp [hbackend] at h
  | some backend =>
    cases hturn : a.turn with
    | unbound => simp [hbackend,hturn] at h
    | raised => simp [hbackend,hturn] at h
    | replied reply =>
      by_cases hempty : reply = ""
      · simp [hbackend,hturn,hempty] at h
      · simp only [hbackend,hturn,hempty,if_false] at h ⊢
        exact ⟨⟨_,rfl⟩,h⟩

section

def intakes : List (Move Time) → List Intake
  | [] => []
  | .intake q :: rest => q :: intakes rest
  | .pass _ :: rest => intakes rest

variable (timestamp) in
def stateAfter (moves : List (Move Time)) : Engine := moves.foldl (fun s move => move.after timestamp s) empty

def Truthful (s : Engine) : Move Time → Prop
  | .intake _ => True
  | .pass p => ∀ rows, p.scanned = some rows → rows.length ≤ 20 ∧
      (∀ m ∈ rows, s.rows m.id = some m.row ∧ m.row.status = .pending) ∧ (rows.map (·.id)).Nodup

/-- Something that holds at every step of a run, of what went before it and of the step. -/
inductive Throughout (P : List (Move Time) → Move Time → Prop) : List (Move Time) → Prop
  | nil : Throughout P []
  | snoc (before : List (Move Time)) (move : Move Time) (hbefore : Throughout P before) (hmove : P before move) :
      Throughout P (before ++ [move])

def backends : Move Time → List Backend
  | .intake _ => []
  | .pass p => p.backends

variable (timestamp) in
def Directed (before : List (Move Time)) (move : Move Time) (m : Message) (reply : Reply) : Prop :=
  ∃ row, (stateAfter timestamp before).rows m.id = some row ∧
    (∃ q ∈ intakes before, q.inbound.id = m.id ∧ row.content = q.row.content) ∧
    reply.backend ∈ backends move ∧ (∃ platform, row.platform = some platform ∧ reply.backend.serves platform = true) ∧
    reply.channelId = row.channelId ∧ reply.text = row.text ∧ reply.session = row.session

variable (timestamp) in
/-- A step that is faithful to what was recorded before it. -/
structure FaithfulAt (before : List (Move Time)) (move : Move Time) : Prop where
  directed : ∀ x ∈ move.replies timestamp, Directed timestamp before move x.1 x.2
  kept : ∀ id row row', (stateAfter timestamp before).rows id = some row →
    (stateAfter timestamp (before ++ [move])).rows id = some row' → row'.status ≠ row.status →
    row'.content = row.content
  apart : ∀ q, move = .intake q → ∀ q' ∈ intakes before, q.inbound.id = q'.inbound.id → q.inbound = q'.inbound

variable (timestamp) in
def SoundAt (before : List (Move Time)) : Move Time → Prop
  | .intake q =>
    (∀ q' ∈ intakes before, q.inbound.joined = q'.inbound.joined → q.inbound = q'.inbound) ∧
    (q.stored = true → ∀ row, (stateAfter timestamp before).rows q.inbound.id = some row → row.status ≠ q.status →
      row.session = some q.session)
  | .pass p => ∀ m ∈ p.taken timestamp,
    (maxAttempts ≤ m.attempts → (p.attempt m.id).stored = false) ∧
    ∀ reply ≠ "", m.attempts < maxAttempts → (p.attempt m.id).turn = .replied reply →
      ∀ backend platform, m.row.platform = some platform → backendFor p.backends platform = some backend →
        backend.serves platform = true ∧ ((p.attempt m.id).sent = some true → (p.attempt m.id).stored = false)

/-- No two of the texts that are hashed have the same truncated digest. -/
def CollisionFree (moves : List (Move Time)) : Prop :=
  ∀ q ∈ intakes moves, ∀ q' ∈ intakes moves, q.inbound.digest = q'.inbound.digest → q.inbound.raw = q'.inbound.raw

def Recorded (before : List (Move Time)) (s : Engine) : Prop :=
  ∀ id row, s.rows id = some row → ∃ q ∈ intakes before, q.inbound.id = id ∧ row.content = q.row.content

omit [LinearOrder Time] [Sub Time] [OfNat Time 90] [OfNat Time 0] in
theorem intakes_append (before later : List (Move Time)) : intakes (before ++ later) = intakes before ++ intakes later := by
  induction before with
  | nil => rfl
  | cons move rest ih =>
    cases move with
    | intake q => exact congrArg (q :: ·) ih
    | pass p => exact ih

theorem stateAfter_snoc (before : List (Move Time)) (move : Move Time) :
    stateAfter timestamp (before ++ [move]) = move.after timestamp (stateAfter timestamp before) :=
  List.foldl_append

section
variable {before : List (Move Time)} {p : Pass Time} {q : Intake} {m : Message} {s : Engine}

variable (timestamp) in
theorem Truthful.taken (h : Truthful s (.pass p)) : ((p.taken timestamp).map (·.id)).Nodup ∧
    ∀ m ∈ p.taken timestamp, s.rows m.id = some m.row ∧ m.row.status = .pending := by
  unfold Pass.taken
  cases hscan : p.scanned with
  | none => simp
  | some rows =>
    obtain ⟨_,hrows,hnodup⟩ := h rows hscan
    refine ⟨(List.filter_sublist.map _).nodup hnodup,?_⟩
    intro m hm
    exact hrows m (List.mem_filter.mp hm).1

omit [LinearOrder Time] [Sub Time] [OfNat Time 90] [OfNat Time 0] in
theorem Recorded.row (h : Recorded before s) {id : String} {row : Row} (hrow : s.rows id = some row) :
    (∃ platform, row.platform = some platform) ∧ id ≠ "" := by
  obtain ⟨q,_,hid,hcontent⟩ := h id row hrow
  refine ⟨⟨q.inbound.platform,congrArg Content.platform hcontent⟩,?_⟩
  rw [← hid]
  exact inboxId_ne_empty _ _ _ _

theorem SoundAt.written (h : SoundAt timestamp before (.pass p)) (hm : m ∈ p.taken timestamp) {platform : String}
    (hplatform : m.row.platform = some platform) (hstored : (p.attempt m.id).stored = true) : p.written m = bumped m := by
  obtain ⟨hcap,hreply⟩ := h m hm
  have hfew : ¬ maxAttempts ≤ m.attempts := by
    intro hmany
    rw [hcap hmany] at hstored
    cases hstored
  have hundelivered : (p.attempted m).1 ≠ some true := by
    intro hok
    obtain ⟨⟨r,hr⟩,hsent⟩ := replySend_delivered hok
    obtain ⟨backend,reply,hbackend,hturn,hne,_⟩ := replySend_reply.mp hr
    rw [hplatform] at hbackend
    have hlost := (hreply reply hne (Nat.lt_of_not_le hfew) hturn backend platform hplatform hbackend).2 hsent
    rw [hlost] at hstored
    cases hstored
  rw [Pass.written,if_neg hfew,if_neg hundelivered]

theorem Recorded.pass (h : Recorded before (stateAfter timestamp before))
    (htrue : Truthful (stateAfter timestamp before) (.pass p)) (hsound : SoundAt timestamp before (.pass p)) :
    Recorded before (stateAfter timestamp (before ++ [.pass p])) := by
  obtain ⟨hnodup,hrows⟩ := htrue.taken timestamp
  intro id row hrow
  rw [stateAfter_snoc,after_pass] at hrow
  by_cases hseen : ∃ m ∈ p.taken timestamp, m.id = id ∧ (p.attempt id).stored = true
  · obtain ⟨m,hm,rfl,hstored⟩ := hseen
    obtain ⟨⟨platform,hplatform⟩,hid⟩ := h.row (hrows m hm).1
    rw [puts_self hnodup hm hid hstored,hsound.written hm hplatform hstored] at hrow
    cases hrow
    exact h m.id m.row (hrows m hm).1
  · rw [puts_other] at hrow
    · exact h id row hrow
    · intro m hm heq
      right
      by_contra hstored
      exact hseen ⟨m,hm,heq,by simpa using hstored⟩

variable (timestamp before q) in
theorem rows_after_intake (id : String) : (stateAfter timestamp (before ++ [.intake q])).rows id =
    if q.stored = true ∧ id = q.inbound.id then some q.row else (stateAfter timestamp before).rows id := by
  rw [stateAfter_snoc,after_intake]
  split_ifs with hstored hboth hboth
  · rw [hboth.2,Engine.write_self]
  · apply Engine.write_of_ne
    rintro rfl
    exact hboth ⟨hstored,rfl⟩
  · exact absurd hboth.1 hstored
  · rfl

theorem Recorded.intake (h : Recorded before (stateAfter timestamp before)) :
    Recorded (before ++ [.intake q]) (stateAfter timestamp (before ++ [.intake q])) := by
  intro id row hrow
  rw [rows_after_intake] at hrow
  rw [intakes_append]
  split_ifs at hrow with hboth
  · cases hrow
    exact ⟨q,List.mem_append_right _ List.mem_cons_self,hboth.2.symm,rfl⟩
  · obtain ⟨q',hq',hid⟩ := h id row hrow
    exact ⟨q',List.mem_append_left _ hq',hid⟩

theorem faithfulAt_intake (hrec : Recorded before (stateAfter timestamp before))
    (hfree : ∀ q' ∈ intakes before, q.inbound.digest = q'.inbound.digest → q.inbound.raw = q'.inbound.raw) :
    FaithfulAt timestamp before (.intake q) ↔ SoundAt timestamp before (.intake q) := by
  constructor
  · intro h
    refine ⟨?_,?_⟩
    · intro q' hq' hjoined
      exact h.apart q rfl q' hq' ((Inbound.id_eq_iff (hfree q' hq')).mpr hjoined)
    · intro hstored row hrow hstatus
      have hnew := rows_after_intake timestamp before q q.inbound.id
      rw [if_pos ⟨hstored,rfl⟩] at hnew
      have hcontent := h.kept q.inbound.id row q.row hrow hnew hstatus.symm
      exact (congrArg Content.session hcontent).symm
  · rintro ⟨hapart,hsession⟩
    have happart : ∀ q' ∈ intakes before, q.inbound.id = q'.inbound.id → q.inbound = q'.inbound :=
      fun q' hq' hid => hapart q' hq' ((Inbound.id_eq_iff (hfree q' hq')).mp hid)
    refine ⟨?_,?_,?_⟩
    · intro x hx
      rw [replies_intake] at hx
      cases hx
    · intro id row row' hrow hnew hstatus
      rw [rows_after_intake] at hnew
      split_ifs at hnew with hboth
      · obtain ⟨hstored,rfl⟩ := hboth
        cases hnew
        obtain ⟨q',hq',hid,hcontent⟩ := hrec _ row hrow
        have hsame := happart q' hq' hid.symm
        have hses := hsession hstored row hrow hstatus.symm
        have hses' : some q'.session = some q.session := (congrArg Content.session hcontent).symm.trans hses
        rw [hcontent]
        simp [Row.content,Intake.row,hsame,Option.some.inj hses']
      · rw [hrow] at hnew
        cases hnew
        exact absurd rfl hstatus
    · rintro _ ⟨⟩ q' hq' hid
      exact happart q' hq' hid

theorem FaithfulAt.not_wiped (h : FaithfulAt timestamp before (.pass p))
    (hrec : Recorded before (stateAfter timestamp before)) (htrue : Truthful (stateAfter timestamp before) (.pass p))
    (hm : m ∈ p.taken timestamp) (hstored : (p.attempt m.id).stored = true) :
    (p.written m).status = .pending ∨ (p.written m).platform ≠ none := by
  obtain ⟨hnodup,hrows⟩ := htrue.taken timestamp
  obtain ⟨hrow,hpending⟩ := hrows m hm
  obtain ⟨⟨platform,hplatform⟩,hid⟩ := hrec.row hrow
  by_cases hstatus : (p.written m).status = .pending
  · exact .inl hstatus
  · right
    have hnew : (stateAfter timestamp (before ++ [.pass p])).rows m.id = some (p.written m) := by
      rw [stateAfter_snoc,after_pass]
      exact puts_self hnodup hm hid hstored
    have hcontent := h.kept m.id m.row _ hrow hnew (hpending ▸ hstatus)
    have hsame : (p.written m).platform = m.row.platform := congrArg Content.platform hcontent
    rw [hsame,hplatform]
    nofun

theorem faithfulAt_pass (hrec : Recorded before (stateAfter timestamp before))
    (htrue : Truthful (stateAfter timestamp before) (.pass p)) :
    FaithfulAt timestamp before (.pass p) ↔ SoundAt timestamp before (.pass p) := by
  obtain ⟨hnodup,hrows⟩ := htrue.taken timestamp
  constructor
  · intro h m hm
    refine ⟨?_,?_⟩
    · intro hcap
      by_contra hstored
      have hwiped := h.not_wiped hrec htrue hm (by simpa using hstored)
      rw [Pass.written,if_pos hcap] at hwiped
      simp [deadLetterRow] at hwiped
    · intro reply hne hfew hturn backend platform hplatform hbackend
      have hreply : (p.attempted m).2 = some ⟨backend,m.row.channelId,m.row.text,m.row.session,reply⟩ :=
        replySend_reply.mpr ⟨backend,reply,by rw [hplatform]; exact hbackend,hturn,hne,rfl⟩
      refine ⟨?_,?_⟩
      · obtain ⟨row,hrow,_,_,⟨platform',hplatform',hserves⟩,_⟩ := h.directed (m,_) (mem_replies_pass.mpr ⟨hm,hfew,hreply⟩)
        rw [(hrows m hm).1] at hrow
        cases hrow
        rw [hplatform] at hplatform'
        cases hplatform'
        exact hserves
      · intro hsent
        by_contra hstored
        have hok : (p.attempted m).1 = some true := by
          unfold Pass.attempted replySend
          simp [hplatform,hbackend,hturn,hne,hsent]
        have hwiped := h.not_wiped hrec htrue hm (by simpa using hstored)
        rw [Pass.written,if_neg (Nat.not_le.mpr hfew),if_pos hok] at hwiped
        simp [answeredRow] at hwiped
  · intro h
    refine ⟨?_,?_,nofun⟩
    · intro x hx
      obtain ⟨hm,hfew,hreply⟩ := mem_replies_pass.mp hx
      obtain ⟨hrow,_⟩ := hrows x.1 hm
      obtain ⟨⟨platform,hplatform⟩,_⟩ := hrec.row hrow
      obtain ⟨backend,reply,hbackend,hturn,hne,heq⟩ := replySend_reply.mp hreply
      rw [hplatform] at hbackend
      have hserves := ((h x.1 hm).2 reply hne hfew hturn backend platform hplatform hbackend).1
      rw [heq]
      exact ⟨x.1.row,hrow,hrec _ _ hrow,mem_of_backendFor hbackend,⟨platform,hplatform,hserves⟩,rfl,rfl,rfl⟩
    · intro id row row' hrow hnew hstatus
      exfalso
      rw [stateAfter_snoc,after_pass] at hnew
      by_cases hseen : ∃ m ∈ p.taken timestamp, m.id = id ∧ (p.attempt id).stored = true
      · obtain ⟨m,hm,rfl,hstored⟩ := hseen
        obtain ⟨hmrow,hpending⟩ := hrows m hm
        obtain ⟨⟨platform,hplatform⟩,hid⟩ := hrec.row hmrow
        rw [puts_self hnodup hm hid hstored,h.written hm hplatform hstored] at hnew
        rw [hmrow] at hrow
        cases hrow
        cases hnew
        exact hstatus hpending.symm
      · rw [puts_other] at hnew
        · rw [hrow] at hnew
          cases hnew
          exact hstatus rfl
        · intro m hm heq
          right
          by_contra hstored
          exact hseen ⟨m,hm,heq,by simpa using hstored⟩

end

omit [LinearOrder Time] [Sub Time] [OfNat Time 90] [OfNat Time 0] in
theorem throughout_snoc {P : List (Move Time) → Move Time → Prop} (before : List (Move Time)) (move : Move Time) :
    Throughout P (before ++ [move]) ↔ Throughout P before ∧ P before move := by
  constructor
  · intro h
    generalize hmoves : before ++ [move] = moves at h
    cases h with
    | nil => simp at hmoves
    | snoc before' move' hbefore hmove =>
      obtain ⟨rfl,hlast⟩ := List.append_inj' hmoves rfl
      cases hlast
      exact ⟨hbefore,hmove⟩
  · rintro ⟨hbefore,hmove⟩
    exact .snoc before move hbefore hmove

variable (timestamp) in
/-- In a sound run every row says what was recorded under its identifier. -/
theorem recorded_of_sound {moves : List (Move Time)}
    (hscan : Throughout (fun before move => Truthful (stateAfter timestamp before) move) moves)
    (hsound : Throughout (SoundAt timestamp) moves) : Recorded moves (stateAfter timestamp moves) := by
  induction hscan with
  | nil => exact fun _ _ h => nomatch h
  | snoc before move _ htrue ih =>
    obtain ⟨hbefore,hmove⟩ := (throughout_snoc _ _).mp hsound
    cases move with
    | intake q => exact (ih hbefore).intake
    | pass p =>
      have hsame : intakes (before ++ [Move.pass p]) = intakes before := by
        simp [intakes_append,intakes]
      have hrec := (ih hbefore).pass htrue hmove
      unfold Recorded at hrec ⊢
      rwa [hsame]

omit [LinearOrder Time] [Sub Time] [OfNat Time 90] [OfNat Time 0] in
theorem CollisionFree.before {before : List (Move Time)} {move : Move Time} (h : CollisionFree (before ++ [move])) :
    CollisionFree before ∧ ∀ q, move = .intake q → ∀ q' ∈ intakes before,
      q.inbound.digest = q'.inbound.digest → q.inbound.raw = q'.inbound.raw := by
  unfold CollisionFree at h
  rw [intakes_append] at h
  refine ⟨fun q hq q' hq' => h q (List.mem_append_left _ hq) q' (List.mem_append_left _ hq'),?_⟩
  rintro q rfl q' hq'
  exact h q (List.mem_append_right _ List.mem_cons_self) q' (List.mem_append_left _ hq')

end
end

/-- A run is faithful to what was recorded exactly when every one of its steps is sound. -/
theorem replies_faithful_iff {Time : Type} [LinearOrder Time] [Sub Time] [OfNat Time 90] [OfNat Time 0]
    (timestamp : String → Option Time) (moves : List (Move Time))
    (hscan : Throughout (fun before move => Truthful (stateAfter timestamp before) move) moves)
    (hfree : CollisionFree moves) :
    Throughout (FaithfulAt timestamp) moves ↔ Throughout (SoundAt timestamp) moves := by
  induction hscan with
  | nil => exact ⟨fun _ => .nil,fun _ => .nil⟩
  | snoc before move hscan htrue ih =>
    obtain ⟨hfree,hlast⟩ := hfree.before
    rw [throughout_snoc,throughout_snoc,ih hfree]
    refine and_congr_right fun hsound => ?_
    have hrec := recorded_of_sound timestamp hscan hsound
    cases move with
    | intake q => exact faithfulAt_intake hrec (hlast q rfl)
    | pass p => exact faithfulAt_pass hrec htrue

namespace Sample

def hello : Intake := ⟨⟨"telegram","42","1","hi"⟩,"s",.pending,some "t","t",true⟩

/-- A pass that reads the message, has a reply made for it and hands it to a backend that reports a failure. -/
def failing (backend : Backend) : Pass ℕ where
  backends := [backend]
  scanned := some [⟨hello.inbound.id,hello.row⟩]
  now := 0
  attempt := fun _ => ⟨.replied "hello",some false,true⟩

def unreadable : String → Option ℕ := fun _ => none
def telegram : Backend := ⟨"telegram","telegram"⟩
def slack : Backend := ⟨"slack","slack"⟩

theorem hello_stored : (stateAfter unreadable [.intake hello]).rows hello.inbound.id = some hello.row := by
  have := rows_after_intake unreadable [] hello hello.inbound.id
  simpa [hello] using this

theorem taken_failing (backend : Backend) : (failing backend).taken unreadable = [⟨hello.inbound.id,hello.row⟩] := by
  have hnone (text : Option String) : text.bind unreadable = none := by cases text <;> rfl
  simp [Pass.taken,failing,inGrace,hnone]

theorem hello_scanned (backend : Backend) :
    Throughout (fun before move => Truthful (stateAfter unreadable before) move) [.intake hello,.pass (failing backend)] := by
  refine .snoc [.intake hello] _ (.snoc [] _ .nil trivial) ?_
  rintro rows ⟨⟩
  refine ⟨by simp,?_,by simp⟩
  intro m hm
  rw [List.mem_singleton.mp hm]
  exact ⟨hello_stored,rfl⟩

theorem hello_free (backend : Backend) : CollisionFree [.intake hello,.pass (failing backend)] := by
  intro q hq q' hq' _
  simp only [intakes,List.mem_singleton] at hq hq'
  rw [hq,hq']

theorem hello_recorded : Recorded ([.intake hello] : List (Move ℕ)) (stateAfter unreadable [.intake hello]) := by
  have hempty : Recorded ([] : List (Move ℕ)) (stateAfter unreadable []) := fun _ _ h => nomatch h
  exact hempty.intake

end Sample

open Sample in
theorem telegram_failing_faithful : Throughout (FaithfulAt unreadable) [.intake hello,.pass (failing telegram)] := by
  refine (replies_faithful_iff unreadable _ (hello_scanned telegram) (hello_free telegram)).mpr ?_
  refine .snoc [.intake hello] _ (.snoc [] _ .nil ⟨nofun,?_⟩) ?_
  · intro _ row hrow
    cases hrow
  · intro m hm
    rw [taken_failing,List.mem_singleton] at hm
    subst hm
    refine ⟨nofun,?_⟩
    rintro reply _ _ _ backend platform hplatform hbackend
    cases hplatform
    cases hbackend
    exact ⟨by decide,nofun⟩

open Sample in
/-- A reply to a message from a platform without a backend goes out through another one. -/
theorem reply_misdirected : ¬∀ (timestamp : String → Option ℕ) (moves : List (Move ℕ)),
    Throughout (fun before move => Truthful (stateAfter timestamp before) move) moves → CollisionFree moves →
      Throughout (FaithfulAt timestamp) moves := by
  intro h
  have hfaithful := h unreadable _ (hello_scanned slack) (hello_free slack)
  obtain ⟨_,hpass⟩ := (throughout_snoc [.intake hello] _).mp hfaithful
  have htrue := ((throughout_snoc [.intake hello] _).mp (hello_scanned slack)).2
  have hsound := (faithfulAt_pass hello_recorded htrue).mp hpass
  have hmem : (⟨hello.inbound.id,hello.row⟩ : Message) ∈ (failing slack).taken unreadable := by
    rw [taken_failing]
    exact List.mem_singleton_self _
  have := ((hsound _ hmem).2 "hello" (by decide) (by decide) rfl slack "telegram" rfl rfl).1
  exact absurd this (by decide)

end Arbora.Messaging.Inbox
