import Arbora.Messaging.Inbox

/-! A message that is settled stays settled, where nobody writes over what others have written. -/
namespace Arbora.Messaging.Inbox
open Interaction
open Prog (Meets)

section
variable {Time : Type}

/-- The message of which a sending is not yet written down. -/
def underway (h : History Time) : Option Message :=
  match h.getLast? with
  | some ⟨.sendStart m,_⟩ | some ⟨.sendEnd m,_⟩ => some m
  | _ => none

@[simp] theorem underway_nil : underway ([] : History Time) = none := rfl

@[simp] theorem underway_snoc (h : History Time) (x : Event Call (Call.Result Time)) :
    underway (h ++ [x]) = match x with
      | ⟨.sendStart m,_⟩ | ⟨.sendEnd m,_⟩ => some m
      | _ => none := by
  unfold underway
  rw [List.getLast?_concat]
  rcases x with ⟨e,r⟩
  cases e <;> rfl

/-- Whether nothing of a message with a name is underway. -/
def Idle (h : History Time) : Prop := ∀ m, underway h = some m → m.id = ""

def Allowed (op : Operation) (h : History Time) : Call → Prop
  | .addNode id row => id ≠ "" ∧ match op with
    | .record .. => Idle h ∧ row.attempts = some 0
    | .markAnswered _ => Idle h ∧ row.status = .answered
    | .retry => (∀ m, underway h = some m → m.id = "" ∨ m.id = id) ∧
      (row.settled ∨ row.status = .pending ∧ ∃ m, underway h = some m ∧ m.id = id ∧ row.attempts = some (m.attempts+1))
  | .sendStart m => op = .retry ∧ Idle h ∧ m.attempts < maxAttempts
  | .sendEnd m => op = .retry ∧ underway h = some m
  | _ => Idle h

variable {op : Operation} {h : History Time}

theorem meets_ask_bind {ε α : Type} {G : History Time → Call → Prop} {Q : History Time → α → Prop}
    {X : History Time → ε → Prop} {e : Call} {f : e.Result Time → Prog Call (Call.Result Time) ε α} (hg : G h e)
    (hf : ∀ r, (f r).Meets Prog.record G Q X (h ++ [⟨e,r⟩])) : ((Prog.ask e).bind f).Meets Prog.record G Q X h := by
  refine ⟨hg,?_⟩
  rintro r _ rfl
  exact hf r

theorem idle_nil : Idle ([] : History Time) := by
  intro m hm
  cases hm

theorem set_meets {id : String} {row : Row} (hg : id ≠ "" → Allowed op h (.addNode id row)) (hidle : id = "" → Idle h) :
    (set id row).Meets Prog.record (Allowed op) (fun h' _ => Idle h') (fun _ _ => True) h := by
  unfold set
  split_ifs with hid
  · exact hidle hid
  · exact meets_ask_bind (hg hid) fun _ => by simp [Meets,Idle]

theorem markAnswered_meets {inboxId : Option String} (hidle : Idle h) :
    (markAnswered inboxId).Meets Prog.record (Allowed (.markAnswered inboxId)) (fun _ _ => True) (fun _ _ => True) h := by
  cases inboxId with
  | none => trivial
  | some id =>
    have hallowed : id ≠ "" → Allowed (.markAnswered (some id)) h (.addNode id answeredRow) := fun hid => ⟨hid,hidle,rfl⟩
    exact (set_meets hallowed fun _ => hidle).mono (fun _ _ hg => hg) (fun _ _ _ => trivial) fun _ _ hx => hx

theorem retryOne_meets {m : Message} (hidle : Idle h) :
    (retryOne m).Meets Prog.record (Allowed .retry) (fun h' _ => Idle h') (fun _ _ => True) h := by
  unfold retryOne
  split_ifs with hattempts
  · refine Meets.seq (set_meets (fun hid => ?_) fun _ => hidle) fun _ _ hdone => hdone
    exact ⟨hid,fun m' hm' => .inl (hidle m' hm'),.inl (.inr rfl)⟩
  · refine meets_ask_bind ⟨rfl,hidle,Nat.lt_of_not_le hattempts⟩ fun _ => ?_
    refine meets_ask_bind ⟨rfl,by simp⟩ fun outcome => ?_
    have hunderway : underway (h ++ [⟨.sendStart m,()⟩] ++ [⟨.sendEnd m,outcome⟩]) = some m := underway_snoc ..
    generalize h ++ [⟨.sendStart m,()⟩] ++ [⟨.sendEnd m,outcome⟩] = h' at hunderway
    have hown : ∀ m', underway h' = some m' → m'.id = "" ∨ m'.id = m.id := by
      intro m' hm'
      obtain rfl := Option.some.inj (hunderway.symm.trans hm')
      exact .inr rfl
    have hnameless : m.id = "" → Idle h' := by
      intro hid m' hm'
      obtain rfl := Option.some.inj (hunderway.symm.trans hm')
      exact hid
    split_ifs with houtcome
    · exact Meets.seq (set_meets (fun hid => ⟨hid,hown,.inl (.inl rfl)⟩) hnameless) fun _ _ hdone => hdone
    · refine Meets.seq (set_meets (fun hid => ⟨hid,hown,.inr ⟨rfl,m,hunderway,rfl,rfl⟩⟩) hnameless) fun _ _ hdone => hdone

theorem retryAll_meets (messages : List Message) (answered : ℕ) {h : History Time} (hidle : Idle h) :
    (retryAll messages answered).Meets Prog.record (Allowed .retry) (fun _ _ => True) (fun _ _ => True) h := by
  induction messages generalizing answered h with
  | nil => trivial
  | cons m rest ih => exact Meets.seq (retryOne_meets hidle) fun _ _ hnext => ih _ hnext

variable [LinearOrder Time] [Sub Time] [OfNat Time 90] [OfNat Time 0] {timestamp : String → Option Time}

theorem program_meets (op : Operation) :
    (op.program timestamp).Meets Prog.record (Allowed op) (fun _ _ => True) (fun _ _ => True) [] := by
  cases op with
  | markAnswered inboxId => exact markAnswered_meets idle_nil
  | record platform channelId messageId text session status receivedAt =>
    refine Meets.seq (Q := fun _ _ => True) ?_ fun _ _ _ => trivial
    refine Meets.seq (Q := fun h _ => Idle h) ?_ fun h received hidle => ?_
    · unfold receivedText
      split_ifs
      · refine ⟨idle_nil,?_⟩
        rintro r _ rfl m hm
        cases hm
      · exact idle_nil
    · exact meets_ask_bind ⟨inboxId_ne_empty _ _ _ _,hidle,rfl⟩ fun _ => trivial
  | retry =>
    refine Meets.seq (Q := fun _ _ => True) ?_ fun _ _ _ => trivial
    refine Meets.seq (Q := fun h _ => Idle h) ?_ fun h messages hidle => retryAll_meets messages 0 hidle
    refine meets_ask_bind idle_nil fun rows => ?_
    have hscanned : Idle [(⟨.scan 20,rows⟩ : Event Call (Call.Result Time))] := by
      intro m hm
      cases hm
    cases rows with
    | none => exact hscanned
    | some rows =>
      refine meets_ask_bind hscanned fun now m hm => ?_
      cases hm

end

section
variable {Time ι : Type} [DecidableEq ι] {log rest : Log Time ι} {id : String} {i j : ι}
  {x : Event Call (Call.Result Time)}

def startsSend (id : String) : Call → Bool
  | .sendStart m => m.id = id
  | _ => false

/-- How often a reply to a message has been started. -/
def sends (id : String) (log : Log Time ι) : ℕ := log.countP fun x => startsSend id x.2.1

/-- A sending of the message is not yet written down. -/
def Going (log : Log Time ι) (id : String) (i : ι) : Prop := ∃ m, underway (Pool.own i log) = some m ∧ m.id = id

def SettledIn (log : Log Time ι) (id : String) : Prop := ∃ i row, (i,⟨.addNode id row,true⟩) ∈ log ∧ row.settled

omit [DecidableEq ι] in
theorem sends_snoc : sends id (log ++ [(i,x)]) = sends id log + if startsSend id x.1 then 1 else 0 := by
  unfold sends
  rw [List.countP_append,List.countP_singleton]

omit [DecidableEq ι] in
theorem sends_quiet (hx : startsSend id x.1 = false) : sends id (log ++ [(i,x)]) = sends id log := by
  rw [sends_snoc,hx]
  rfl

theorem going_other (hj : j ≠ i) : Going (log ++ [(i,x)]) id j ↔ Going log id j := by
  unfold Going
  rw [Pool.own_snoc_ne hj]

theorem going_none (hx : ∀ h : History Time, underway (h ++ [x]) = none) : ¬Going (log ++ [(i,x)]) id i := by
  rintro ⟨m,hm,-⟩
  rw [Pool.own_snoc_self,hx] at hm
  cases hm

theorem going_send {m : Message} (hx : ∀ h : History Time, underway (h ++ [x]) = some m) :
    Going (log ++ [(i,x)]) id i ↔ m.id = id := by
  unfold Going
  rw [Pool.own_snoc_self,hx]
  exact ⟨fun ⟨_,heq,hid⟩ => Option.some.inj heq ▸ hid,fun hid => ⟨m,rfl,hid⟩⟩

omit [DecidableEq ι] in
theorem settledIn_quiet (hx : ∀ row, x ≠ ⟨.addNode id row,true⟩) (h : SettledIn (log ++ [(i,x)]) id) :
    SettledIn log id := by
  obtain ⟨j,row,hj,hsettled⟩ := h
  rcases List.mem_append.mp hj with hj | hj
  · exact ⟨j,row,hj,hsettled⟩
  · exact absurd (Prod.mk.inj (List.mem_singleton.mp hj)).2.symm (hx row)

/-- An intake writes where there is no row or nothing has happened to it, a reaper starts and writes down only what is
as it has read it, and one at a time. -/
def Undisturbed (ops : ι → Operation) (log : Log Time ι) (s : Engine) (i : ι) (e : Call) : Prop :=
  match ops i, e with
  | .record .., .addNode id _ =>
    s.rows id = none ∨ ∃ row, s.rows id = some row ∧ row.status = .pending ∧ row.attempts.getD 0 = 0
  | .retry, .sendStart m => (∃ row, s.rows m.id = some row ∧ row.status = .pending ∧ row.attempts.getD 0 = m.attempts) ∧
    ∀ j, ¬Going log m.id j
  | .retry, .addNode id row => row.status = .pending →
    ∃ old, s.rows id = some old ∧ old.status = .pending ∧ old.attempts.getD 0 + 1 = row.attempts.getD 0
  | _, _ => True

structure Counted (log : Log Time ι) (s : Engine) : Prop where
  nameless : s.rows "" = none
  named : ∀ {i m}, underway (Pool.own i log) = some m → s.rows m.id ≠ none
  settled : ∀ {id}, SettledIn log id → ∃ row, s.rows id = some row ∧ row.settled
  bounded : ∀ id, sends id log ≤ maxAttempts
  one : ∀ {id i j}, Going log id i → Going log id j → i = j
  absent : ∀ {id}, s.rows id = none → sends id log = 0
  still : ∀ {id row}, s.rows id = some row → row.status = .pending → (∀ i, ¬Going log id i) →
    sends id log ≤ row.attempts.getD 0
  going : ∀ {id row}, s.rows id = some row → row.status = .pending → sends id log ≤ row.attempts.getD 0 + 1

variable {s : Engine}

theorem Counted.not_going (h : Counted log s) (hidle : Idle (Pool.own i log)) : ¬Going log id i := by
  rintro ⟨m,hm,-⟩
  have hnamed := h.named hm
  rw [hidle m hm] at hnamed
  exact hnamed h.nameless

theorem Counted.later (h : Counted log s) (hnone : ∀ h : History Time, underway (h ++ [x]) = none)
    (hidle : Idle (Pool.own i log)) (hx : ∀ id, startsSend id x.1 = false) (hsettled : ∀ id row, x ≠ ⟨.addNode id row,true⟩) :
    Counted (log ++ [(i,x)]) s := by
  have hgoing : ∀ {id j}, Going (log ++ [(i,x)]) id j ↔ Going log id j := by
    intro id j
    by_cases hj : j = i
    · subst hj
      exact ⟨fun hg => absurd hg (going_none hnone),fun hg => absurd hg (h.not_going hidle)⟩
    · exact going_other hj
  refine ⟨h.nameless,fun {j m} hm => ?_,fun hset => h.settled (settledIn_quiet (hsettled _) hset),fun id => ?_,?_,?_,?_,?_⟩
  · obtain ⟨m',hm',hid⟩ := hgoing.mp ⟨m,hm,rfl⟩
    rw [← hid]
    exact h.named hm'
  · rw [sends_quiet (hx id)]
    exact h.bounded id
  · intro id j k hj hk
    exact h.one (hgoing.mp hj) (hgoing.mp hk)
  · intro id hrow
    rw [sends_quiet (hx id)]
    exact h.absent hrow
  · intro id row hrow hpending hnone
    rw [sends_quiet (hx id)]
    exact h.still hrow hpending fun j hj => hnone j (hgoing.mpr hj)
  · intro id row hrow hpending
    rw [sends_quiet (hx id)]
    exact h.going hrow hpending

theorem Counted.write (h : Counted log s) {row : Row} (hid : id ≠ "")
    (hmine : ∀ m, underway (Pool.own i log) = some m → m.id = "" ∨ m.id = id)
    (hsettled : SettledIn log id → row.settled)
    (hstill : row.status = .pending → (∀ j, j ≠ i → ¬Going log id j) → sends id log ≤ row.attempts.getD 0)
    (hgoing : row.status = .pending → sends id log ≤ row.attempts.getD 0 + 1) :
    Counted (log ++ [(i,⟨.addNode id row,true⟩)]) (s.write id row) := by
  have hnone : ∀ h : History Time, underway (h ++ [⟨.addNode id row,true⟩]) = none := fun h => underway_snoc ..
  have hbefore : ∀ {d j}, Going (log ++ [(i,⟨.addNode id row,true⟩)]) d j → j ≠ i ∧ Going log d j := by
    intro d j hj
    have hne : j ≠ i := by
      rintro rfl
      exact going_none hnone hj
    exact ⟨hne,(going_other hne).mp hj⟩
  refine ⟨?_,fun {j m} hm => ?_,?_,fun d => ?_,?_,fun {d} hrow => ?_,?_,?_⟩
  · rw [Engine.write_of_ne (Ne.symm hid)]
    exact h.nameless
  · obtain ⟨-,m',hm',hsame⟩ := hbefore ⟨m,hm,rfl⟩
    by_cases hmid : m.id = id
    · rw [hmid,Engine.write_self]
      exact nofun
    · rw [Engine.write_of_ne hmid,← hsame]
      exact h.named hm'
  · rintro d ⟨j,row',hj,hrow'⟩
    by_cases hd : d = id
    · subst hd
      refine ⟨row,Engine.write_self ..,?_⟩
      rcases List.mem_append.mp hj with hj | hj
      · exact hsettled ⟨j,row',hj,hrow'⟩
      · cases List.mem_singleton.mp hj
        exact hrow'
    · rw [Engine.write_of_ne hd]
      refine h.settled ⟨j,row',?_,hrow'⟩
      rcases List.mem_append.mp hj with hj | hj
      · exact hj
      · cases List.mem_singleton.mp hj
        exact absurd rfl hd
  · rw [sends_quiet rfl]
    exact h.bounded d
  · intro d j k hj hk
    exact h.one (hbefore hj).2 (hbefore hk).2
  · by_cases hd : d = id
    · rw [hd,Engine.write_self] at hrow
      cases hrow
    · rw [Engine.write_of_ne hd] at hrow
      rw [sends_quiet rfl]
      exact h.absent hrow
  · intro d row' hrow hpending hquiet
    rw [sends_quiet rfl]
    by_cases hd : d = id
    · subst hd
      rw [Engine.write_self] at hrow
      cases hrow
      exact hstill hpending fun j hj hg => hquiet j ((going_other hj).mpr hg)
    · rw [Engine.write_of_ne hd] at hrow
      refine h.still hrow hpending fun j hg => ?_
      by_cases hj : j = i
      · subst hj
        obtain ⟨m,hm,rfl⟩ := hg
        rcases hmine m hm with hm' | hm'
        · exact h.named hm (hm' ▸ h.nameless)
        · exact hd hm'
      · exact hquiet j ((going_other hj).mpr hg)
  · intro d row' hrow hpending
    rw [sends_quiet rfl]
    by_cases hd : d = id
    · subst hd
      rw [Engine.write_self] at hrow
      cases hrow
      exact hgoing hpending
    · rw [Engine.write_of_ne hd] at hrow
      exact h.going hrow hpending

theorem Counted.start (h : Counted log s) {m : Message} {row : Row} (hidle : Idle (Pool.own i log))
    (hrow : s.rows m.id = some row) (hpending : row.status = .pending) (hattempts : row.attempts.getD 0 < maxAttempts)
    (hquiet : ∀ j, ¬Going log m.id j) : Counted (log ++ [(i,⟨.sendStart m,()⟩)]) s := by
  have hone : ∀ h : History Time, underway (h ++ [⟨.sendStart m,()⟩]) = some m := fun h => underway_snoc ..
  have hcases : ∀ {d j}, Going (log ++ [(i,⟨.sendStart m,()⟩)]) d j → j = i ∧ d = m.id ∨ j ≠ i ∧ Going log d j := by
    intro d j hj
    by_cases hne : j = i
    · subst hne
      exact .inl ⟨rfl,((going_send hone).mp hj).symm⟩
    · exact .inr ⟨hne,(going_other hne).mp hj⟩
  have hothers : ∀ {d}, d ≠ m.id → sends d (log ++ [(i,⟨.sendStart m,()⟩)]) = sends d log :=
    fun hd => sends_quiet (decide_eq_false (Ne.symm hd))
  have hown : sends m.id (log ++ [(i,⟨.sendStart m,()⟩)]) = sends m.id log + 1 := by
    rw [sends_snoc]
    simp [startsSend]
  have hstill := h.still hrow hpending hquiet
  refine ⟨h.nameless,fun {j m'} hm' => ?_,fun hset => h.settled (settledIn_quiet (fun _ heq => by cases heq) hset),
    fun d => ?_,?_,fun {d} hnone => ?_,?_,?_⟩
  · rcases hcases ⟨m',hm',rfl⟩ with ⟨-,hid⟩ | ⟨-,m'',hm'',hid⟩
    · rw [hid,hrow]
      exact nofun
    · rw [← hid]
      exact h.named hm''
  · by_cases hd : d = m.id
    · rw [hd,hown]
      omega
    · rw [hothers hd]
      exact h.bounded d
  · intro d j k hj hk
    rcases hcases hj with ⟨rfl,rfl⟩ | ⟨-,hj'⟩
    · rcases hcases hk with ⟨rfl,-⟩ | ⟨-,hk'⟩
      · rfl
      · exact absurd hk' (hquiet k)
    · rcases hcases hk with ⟨rfl,rfl⟩ | ⟨-,hk'⟩
      · exact absurd hj' (hquiet j)
      · exact h.one hj' hk'
  · by_cases hd : d = m.id
    · rw [hd,hrow] at hnone
      cases hnone
    · rw [hothers hd]
      exact h.absent hnone
  · intro d row' hrow' hpending' hnone
    by_cases hd : d = m.id
    · exact absurd ((going_send hone).mpr hd.symm) (hnone i)
    · rw [hothers hd]
      refine h.still hrow' hpending' fun j hg => ?_
      by_cases hj : j = i
      · exact h.not_going hidle (hj ▸ hg)
      · exact hnone j ((going_other hj).mpr hg)
  · intro d row' hrow' hpending'
    by_cases hd : d = m.id
    · subst hd
      rw [hrow] at hrow'
      cases hrow'
      omega
    · rw [hothers hd]
      exact h.going hrow' hpending'

/-- While a reply is sent nothing changes. -/
theorem Counted.finish (h : Counted log s) {m : Message} {r : Option Bool} (hm : underway (Pool.own i log) = some m) :
    Counted (log ++ [(i,⟨.sendEnd m,r⟩)]) s := by
  have hone : ∀ h : History Time, underway (h ++ [⟨.sendEnd m,r⟩]) = some m := fun h => underway_snoc ..
  have hgoing : ∀ {d j}, Going (log ++ [(i,⟨.sendEnd m,r⟩)]) d j ↔ Going log d j := by
    intro d j
    by_cases hj : j = i
    · subst hj
      rw [going_send hone]
      exact ⟨fun hd => ⟨m,hm,hd⟩,fun ⟨m',hm',hd⟩ => Option.some.inj (hm.symm.trans hm') ▸ hd⟩
    · exact going_other hj
  refine ⟨h.nameless,fun {j m'} hm' => ?_,fun hset => h.settled (settledIn_quiet (fun _ heq => by cases heq) hset),
    fun d => ?_,fun hj hk => h.one (hgoing.mp hj) (hgoing.mp hk),fun {d} hnone => ?_,?_,?_⟩
  · obtain ⟨m'',hm'',hid⟩ := hgoing.mp ⟨m',hm',rfl⟩
    rw [← hid]
    exact h.named hm''
  · rw [sends_quiet rfl]
    exact h.bounded d
  · rw [sends_quiet rfl]
    exact h.absent hnone
  · intro d row hrow hpending hnone
    rw [sends_quiet rfl]
    exact h.still hrow hpending fun j hj => hnone j (hgoing.mpr hj)
  · intro d row hrow hpending
    rw [sends_quiet rfl]
    exact h.going hrow hpending

theorem not_pending_of_settled {row : Row} (h : row.settled) : row.status ≠ .pending := by
  rcases h with h | h
  · rw [h]
    exact nofun
  · rw [h]
    exact nofun

theorem counted_step {ops : ι → Operation} {s s' : Engine} {e : Call} {r : e.Result Time} (h : Counted log s)
    (hc : Undisturbed ops log s i e) (hg : Allowed (ops i) (Pool.own i log) e) (hw : Serves s e r s') :
    Counted (log ++ [(i,⟨e,r⟩)]) s' := by
  cases hw with
  | addNode _ id row =>
    obtain ⟨hid,hg⟩ := hg
    have hfresh : Idle (Pool.own i log) → ∀ m, underway (Pool.own i log) = some m → m.id = "" ∨ m.id = id :=
      fun hidle m hm => .inl (hidle m hm)
    unfold Undisturbed at hc
    generalize hop : ops i = op at hg hc
    cases op with
    | markAnswered inboxId =>
      obtain ⟨hidle,hanswered⟩ := hg
      have hsettled : row.settled := .inl hanswered
      exact h.write hid (hfresh hidle) (fun _ => hsettled) (fun hp => absurd hp (not_pending_of_settled hsettled))
        fun hp => absurd hp (not_pending_of_settled hsettled)
    | record =>
      obtain ⟨hidle,hattempts⟩ := hg
      refine h.write hid (hfresh hidle) (fun hset => ?_) (fun _ hquiet => ?_) fun _ => ?_
      · obtain ⟨old,hold,hsettled⟩ := h.settled hset
        rcases hc with hnone | ⟨row',hrow',hpending,-⟩
        · rw [hnone] at hold
          cases hold
        · rw [hrow'] at hold
          cases hold
          exact absurd hpending (not_pending_of_settled hsettled)
      · rcases hc with hnone | ⟨row',hrow',hpending,hzero⟩
        · rw [h.absent hnone]
          exact Nat.zero_le _
        · have hstill := h.still hrow' hpending fun j hj => by
            by_cases hji : j = i
            · exact h.not_going hidle (hji ▸ hj)
            · exact hquiet j hji hj
          omega
      · rcases hc with hnone | ⟨row',hrow',hpending,hzero⟩
        · rw [h.absent hnone]
          exact Nat.zero_le _
        · have hgoing := h.going hrow' hpending
          omega
    | retry =>
      obtain ⟨hmine,hsettled | ⟨hpending,m,hm,rfl,hattempts⟩⟩ := hg
      · exact h.write hid hmine (fun _ => hsettled) (fun hp => absurd hp (not_pending_of_settled hsettled))
          fun hp => absurd hp (not_pending_of_settled hsettled)
      · obtain ⟨old,hold,hpending',hcount⟩ := hc hpending
        have hgoing := h.going hold hpending'
        refine h.write hid hmine (fun hset => ?_) (fun _ _ => by omega) fun _ => by omega
        obtain ⟨row',hrow',hsettled⟩ := h.settled hset
        rw [hold] at hrow'
        cases hrow'
        exact absurd hpending' (not_pending_of_settled hsettled)
  | sendStart _ m =>
    obtain ⟨hop,hidle,hattempts⟩ := hg
    unfold Undisturbed at hc
    rw [hop] at hc
    obtain ⟨⟨row,hrow,hpending,hsame⟩,hquiet⟩ := hc
    exact h.start hidle hrow hpending (hsame.trans_lt hattempts) hquiet
  | sendEnd _ m r => exact h.finish hg.2
  | scanned | unscanned | nowText | now =>
    exact h.later (fun h => underway_snoc ..) hg (fun _ => rfl) fun _ _ heq => nomatch heq

end

section
variable {Time ι : Type} [DecidableEq ι] [LinearOrder Time] [Sub Time] [OfNat Time 90] [OfNat Time 0]
  {timestamp : String → Option Time} {ops : ι → Operation} {log : Log Time ι} {d : Pool ι Call (Call.Result Time) Empty Unit Engine}

theorem counted (h : Pool.StepsWhere Serves (Undisturbed ops) (inbox timestamp ops) log d) : Counted log d.state := by
  refine h.invariant (G := fun i => Allowed (ops i)) (Q := fun _ _ _ => True) (X := fun _ _ _ => True) (I := Counted)
    (fun i => program_meets (ops i)) ?_ fun log i e r s s' hm hc hg hw => counted_step hm hc hg hw
  refine ⟨rfl,fun hm => (nomatch hm),fun ⟨_,_,hj,_⟩ => (nomatch hj),fun _ => Nat.zero_le _,fun ⟨_,hm,_⟩ => (nomatch hm),
    fun _ => rfl,fun hrow => (nomatch hrow),fun hrow => (nomatch hrow)⟩

/-- Where nobody writes over what others have written, a settled message stays settled, no message is replied to more
often than is allowed, and none after it has been settled. -/
theorem settled_once (h : Pool.StepsWhere Serves (Undisturbed ops) (inbox timestamp ops) log d) :
    (∀ id, SettledIn log id → ∃ row, d.state.rows id = some row ∧ row.settled) ∧ (∀ id, sends id log ≤ maxAttempts) ∧
    ∀ before later i m, log = before ++ (i,⟨.sendStart m,()⟩) :: later → ¬SettledIn before m.id := by
  refine ⟨fun id => (counted h).settled,(counted h).bounded,fun before later i m hlog hsettled => ?_⟩
  have hmem : (i,⟨.sendStart m,()⟩) ∈ log := hlog ▸ List.mem_append_right _ List.mem_cons_self
  obtain ⟨u,v,-,hop,-⟩ := h.steps.guarded (fun i => program_meets (ops i)) hmem
  obtain ⟨c,s',hbefore,hc,-⟩ := h.before hlog
  unfold Undisturbed at hc
  rw [hop] at hc
  obtain ⟨⟨row,hrow,hpending,-⟩,-⟩ := hc
  obtain ⟨row',hrow',hsettled'⟩ := (counted hbefore).settled hsettled
  rw [hrow] at hrow'
  cases hrow'
  exact not_pending_of_settled hsettled' hpending

end

def greeting : String := inboxId "telegram" "42" "1" "hi"

/-- A greeting that is delivered, answered and delivered again, and a pass of the reaper. -/
def redelivered : Fin 4 → Operation
  | 0 | 2 => .record "telegram" "42" "1" "hi" "s" .pending none
  | 1 => .markAnswered (some greeting)
  | 3 => .retry

/-- A clock that is never read. -/
def unread : String → Option ℕ := fun _ => none

def greetingRow : Row := ⟨some "telegram",some "42",some "1",some "hi",some "s",.pending,some "t",some 0⟩

theorem greeting_ne_empty : greeting ≠ "" := inboxId_ne_empty _ _ _ _

theorem record_runs (s : Engine) :
    Prog.Runs Serves ((redelivered 0).program unread) s [⟨.nowText,"t"⟩,⟨.addNode greeting greetingRow,true⟩] (.ret ())
      (s.write greeting greetingRow) := .call (.nowText s "t") (.call (.addNode s greeting greetingRow) (.nil _ _))

theorem set_runs (s : Engine) {id : String} (hid : id ≠ "") (row : Row) :
    Prog.Runs (Serves : World Call (Call.Result ℕ) Engine) (set id row) s [⟨.addNode id row,true⟩] (.ret ()) (s.write id row) := by
  unfold set
  rw [if_neg hid]
  exact .call (.addNode s id row) (.nil _ _)

def greetingMessage : Message := ⟨greeting,greetingRow⟩

theorem serves_scan {s : Engine} (hrow : s.rows greeting = some greetingRow) :
    (Serves : World Call (Call.Result ℕ) Engine) s (.scan 20) (some [greetingMessage]) s := by
  refine .scanned s 20 _ (by decide) (fun m hm => ?_) (by simp)
  obtain rfl := List.mem_singleton.mp hm
  exact ⟨hrow,rfl⟩

theorem retry_starts {s : Engine} (hrow : s.rows greeting = some greetingRow) : ∃ q,
    Prog.Runs Serves ((redelivered 3).program unread) s
      [⟨.scan 20,some [greetingMessage]⟩,⟨.now,0⟩,⟨.sendStart greetingMessage,()⟩] q s :=
  ⟨_,.call (serves_scan hrow) (.call (.now s 0) (.call (.sendStart s greetingMessage) (.nil _ _)))⟩

theorem settled_once_greeting : ∃ log d, Pool.StepsWhere Serves (Undisturbed redelivered) (inbox unread redelivered) log d ∧
    sends greeting log = 1 ∧ (∀ id, sends id log ≤ maxAttempts) ∧
    ∀ before later i m, log = before ++ (i,⟨.sendStart m,()⟩) :: later → ¬SettledIn before m.id := by
  have h₀ : Pool.StepsWhere Serves (Undisturbed redelivered) (inbox unread redelivered) [] (inbox unread redelivered) := .refl
  have hfree : Undisturbed redelivered ([] : Log ℕ (Fin 4)) empty 0 .nowText := trivial
  have h₁ := h₀.tail (i := 0) (e := Call.nowText) rfl hfree (.nowText _ "t")
  have h₂ := h₁.tail (i := 0) (e := Call.addNode greeting greetingRow) rfl (.inl rfl) (.addNode _ _ _)
  have h₃ := h₂.tail (i := 3) (e := Call.scan 20) rfl trivial (serves_scan (Engine.write_self ..))
  have h₄ := h₃.tail (i := 3) (e := Call.now) rfl trivial (.now _ 0)
  have h₅ := h₄.tail (i := 3) (e := Call.sendStart greetingMessage) rfl ?_ (.sendStart _ _)
  · have hsettled := settled_once h₅
    refine ⟨_,_,h₅,?_,hsettled.2.1,hsettled.2.2⟩
    simp [sends,startsSend,greetingMessage]
  · refine ⟨⟨greetingRow,Engine.write_self ..,rfl,rfl⟩,?_⟩
    rintro j ⟨m,hm,-⟩
    match j with
    | 0 => cases hm
    | 1 => cases hm
    | 2 => cases hm
    | 3 => cases hm

/-- The same message again: what was answered is pending anew, and the reaper replies to it. -/
theorem greeting_revived : ∃ log d, Pool.Steps Serves (inbox unread redelivered) log d ∧
    SettledIn log greeting ∧ (∃ row, d.state.rows greeting = some row ∧ row.status = .pending) ∧
    ∃ before later i m, log = before ++ (i,⟨.sendStart m,()⟩) :: later ∧ m.id = greeting ∧ SettledIn before greeting := by
  have h₀ : Pool.Steps Serves (inbox unread redelivered) [] (inbox unread redelivered) := .refl
  have h₁ := h₀.trans (Pool.Steps.of_run (i := 0) (record_runs _) rfl rfl)
  have h₂ := h₁.trans (Pool.Steps.of_run (i := 1) (set_runs _ greeting_ne_empty answeredRow) rfl rfl)
  have h₃ := h₂.trans (Pool.Steps.of_run (i := 2) (record_runs _) rfl rfl)
  obtain ⟨q,hretry⟩ := retry_starts (Engine.write_self _ greeting greetingRow)
  have h₄ := h₃.trans (Pool.Steps.of_run (i := 3) hretry rfl rfl)
  have hsettled : answeredRow.settled := .inl rfl
  refine ⟨_,_,h₄,⟨1,answeredRow,by simp,hsettled⟩,⟨greetingRow,Engine.write_self ..,rfl⟩,
    [(0,⟨.nowText,"t"⟩),(0,⟨.addNode greeting greetingRow,true⟩),(1,⟨.addNode greeting answeredRow,true⟩),
      (2,⟨.nowText,"t"⟩),(2,⟨.addNode greeting greetingRow,true⟩),(3,⟨.scan 20,some [greetingMessage]⟩),(3,⟨.now,0⟩)],
    [],3,greetingMessage,rfl,rfl,1,answeredRow,by simp,hsettled⟩

end Arbora.Messaging.Inbox
