import Arbora.Invoke.Outcomes

/-! The life of one call: where it stands whenever it reserves, confirms, dispatches or records, and
what its ends say. -/
namespace Arbora.Invoke
open Interaction Arbora.Api

section
variable {u v : History}

theorem settled_append : Settled (u ++ v) ↔ Settled u ∨ Settled v := by
  simp only [Settled,List.mem_append]
  grind

theorem started_append : Started (u ++ v) ↔ Started u ∨ Started v := by
  simp only [Started,List.mem_append]
  grind

theorem unrecorded_append : Unrecorded (u ++ v) ↔ Unrecorded u ∨ Unrecorded v := by
  simp only [Unrecorded,List.mem_append]
  grind

/-- The calls that decide whether an effect is in doubt. -/
def Decides : Authority → Prop
  | .dispatch _ _ _ => True
  | .leave => True
  | _ => False

theorem inDoubt_append_left (hu : ∀ y ∈ u, ¬Decides y.1) : InDoubt (u ++ v) ↔ InDoubt v := by
  have hstarted : ¬Started u := by
    rintro ⟨op,params,context,a,hin⟩
    exact hu _ hin trivial
  constructor
  · rintro (⟨op,params,context,x,hin,hx⟩ | ⟨hs,l,hin,hl⟩)
    · rcases List.mem_append.mp hin with hin | hin
      · exact absurd trivial (hu _ hin)
      · exact .inl ⟨op,params,context,x,hin,hx⟩
    · rcases List.mem_append.mp hin with hin | hin
      · exact absurd trivial (hu _ hin)
      · exact .inr ⟨(started_append.mp hs).resolve_left hstarted,l,hin,hl⟩
  · rintro (⟨op,params,context,x,hin,hx⟩ | ⟨hs,l,hin,hl⟩)
    · exact .inl ⟨op,params,context,x,List.mem_append_right _ hin,hx⟩
    · exact .inr ⟨started_append.mpr (.inr hs),l,List.mem_append_right _ hin,hl⟩

theorem inDoubt_append_right (hv : ∀ y ∈ v, ¬Decides y.1) : InDoubt (u ++ v) ↔ InDoubt u := by
  have hstarted : ¬Started v := by
    rintro ⟨op,params,context,a,hin⟩
    exact hv _ hin trivial
  constructor
  · rintro (⟨op,params,context,x,hin,hx⟩ | ⟨hs,l,hin,hl⟩)
    · rcases List.mem_append.mp hin with hin | hin
      · exact .inl ⟨op,params,context,x,hin,hx⟩
      · exact absurd trivial (hv _ hin)
    · rcases List.mem_append.mp hin with hin | hin
      · exact .inr ⟨(started_append.mp hs).resolve_right hstarted,l,hin,hl⟩
      · exact absurd trivial (hv _ hin)
  · rintro (⟨op,params,context,x,hin,hx⟩ | ⟨hs,l,hin,hl⟩)
    · exact .inl ⟨op,params,context,x,List.mem_append_left _ hin,hx⟩
    · exact .inr ⟨started_append.mpr (.inl hs),l,List.mem_append_left _ hin,hl⟩

theorem not_decides_of_records {e : Authority} (h : Records e) : ¬Decides e := by
  cases e <;> first | exact id | exact fun _ => h
theorem not_decides_of_confirms {e : Authority} (h : Confirms e) : ¬Decides e := by
  cases e <;> first | exact id | exact fun _ => h

theorem not_inDoubt_of (h : ∀ y ∈ v, ¬Decides y.1) : ¬InDoubt v := by
  rintro (⟨op,params,context,x,hin,_⟩ | ⟨_,l,hin,_⟩)
  · exact h _ hin trivial
  · exact h _ hin trivial

variable {K : Authority → Prop}

theorem not_settled_of (hK : ∀ reference outcome, ¬K (.complete reference outcome))
    (h : ∀ y ∈ v, K y.1) : ¬Settled v := by
  rintro ⟨reference,outcome,hin⟩
  exact hK _ _ (h _ hin)

theorem not_started_of (hK : ∀ op params context, ¬K (.dispatch op params context))
    (h : ∀ y ∈ v, K y.1) : ¬Started v := by
  rintro ⟨op,params,context,a,hin⟩
  exact hK _ _ _ (h _ hin)

theorem not_unrecorded_of_calls (hK : ∀ reference outcome, ¬K (.complete reference outcome))
    (hW : ∀ event audit caller, ¬K (.auditWrite event audit caller)) (h : ∀ y ∈ v, K y.1) : ¬Unrecorded v := by
  rintro (⟨event,audit,caller,x,hin⟩ | ⟨reference,outcome,x,hin⟩)
  · exact hW _ _ _ (h _ hin)
  · exact hK _ _ (h _ hin)

end

section
variable (services : InvokeServices) (call : Call) (auditRef : String) (reservation : Option EffectReservation)

/-- Where an execution stands when it acts. -/
inductive ExecuteGuard (v : History) : Authority → Prop where
  | quiet {e : Authority} (h : Quiet e ∨ e = .leave) : ExecuteGuard v e
  | consume {reference : String} (h : call.planRef = some reference) :
      ExecuteGuard v (.consumePlan reference (call.binding services))
  | dispatch {before within : History} {entered : Event Authority Authority.Answer}
      (hv : v = before ++ entered :: within) (hentered : Entered call entered)
      (hgranted : Granted services within call.op call.arguments.value call.caller call.decision)
      (hplan : call.needsPlan = true → ∃ reference, call.planRef = some reference ∧
        consumed reference (call.binding services) ∈ before)
      (hfirst : ¬Started v) :
      ExecuteGuard v (.dispatch call.op call.arguments.value (call.context services call.dispatchKey))
  | audit {event : AuditEvent} {audit : AuditClass} {caller : VerifiedCaller} :
      ExecuteGuard v (.auditWrite event audit caller)
  | complete {r : EffectReservation} {outcome : Reply} (hr : reservation = some r) (hsettles : outcome.settles = true)
      (hsure : ¬InDoubt v) (hclean : ¬Unrecorded v) (hfirst : ¬Settled v)
      (haudit : auditRef ≠ "" →
        written (auditEvent services call outcome.code auditRef) call.op.audit call.caller ∈ v)
      (hresult : ∀ r, outcome = .result r → r.code = "OK" ∧
        dispatched call.op call.arguments.value (call.context services call.dispatchKey) r.value ∈ v) :
      ExecuteGuard v (.complete r.reference outcome)

structure ExecuteEnd (v : History) (reply : Reply) : Prop where
  doubt : call.governed = true → InDoubt v ∨ Unrecorded v →
    (∃ e, reply = .error e ∧ e.code = "INDETERMINATE") ∧ ¬Settled v
  ok : ∀ r, reply = .result r → r.code = "OK" ∧
    dispatched call.op call.arguments.value (call.context services call.dispatchKey) r.value ∈ v ∧
    (auditRef ≠ "" → written (auditEvent services call "OK" auditRef) call.op.audit call.caller ∈ v) ∧
    ∀ res, reservation = some res → completed res.reference reply ∈ v

structure Outcome (h : History) (result : Reply) : Prop where
  clean : ¬Unrecorded h
  unsettled : ¬Settled h
  doubt : call.governed = true → InDoubt h → ∃ e, result = .error e ∧ e.code = "INDETERMINATE"
  ok : ∀ r, result = .result r → r.code = "OK" ∧
    dispatched call.op call.arguments.value (call.context services call.dispatchKey) r.value ∈ h

variable {services call auditRef reservation}

variable {h : History} {result : Reply}

theorem Outcome.not_settles (ho : Outcome services call h result)
    (hgov : call.governed = true) (hd : InDoubt h) : result.settles = false := by
  obtain ⟨e,rfl,hcode⟩ := ho.doubt hgov hd
  simp [Reply.settles,Reply.code,hcode]

theorem record_executes (hres : reservation.isSome = true → call.governed = true)
    (ho : Outcome services call h result) : (record services call auditRef reservation result).Meets Prog.record
      (ExecuteGuard services call auditRef reservation) (ExecuteEnd services call auditRef reservation)
      (fun v x => ¬Settled v ∧ x = .cancelled) h := by
  have hcalls : ∀ {w : History}, (∀ y ∈ w, Records y.1) → ∀ y ∈ w, ¬Decides y.1 :=
    fun hw y hy => not_decides_of_records (hw y hy)
  refine (record_meets services call auditRef reservation result).later ?_ ?_ ?_
  · rintro w e (⟨_,rfl⟩ | ⟨r,hr,hsettles,rfl,hw⟩)
    · exact .audit
    · -- the journal is asked once the audit took the outcome
      have hrec : ∀ y ∈ w, y.1 = .auditWrite (auditEvent services call result.code auditRef) call.op.audit call.caller := by
        rcases hw with ⟨rfl,_⟩ | rfl
        · simp
        · simp [written]
      have hrecords : ∀ y ∈ w, Records y.1 := fun y hy => by rw [hrec y hy]; trivial
      refine .complete hr hsettles ?_ ?_ ?_ ?_ ?_
      · rw [inDoubt_append_right (hcalls hrecords)]
        intro hd
        rw [ho.not_settles (hres (by rw [hr]; rfl)) hd] at hsettles
        cases hsettles
      · rw [unrecorded_append,not_or]
        refine ⟨ho.clean,?_⟩
        rcases hw with ⟨rfl,_⟩ | rfl
        · exact not_unrecorded_of_calls (K := Quiet) (by simp [Quiet]) (by simp [Quiet]) (by simp)
        · rintro (⟨event,audit,caller,x,hin⟩ | ⟨reference,outcome,x,hin⟩) <;> cases List.mem_singleton.mp hin
      · rw [settled_append,not_or]
        refine ⟨ho.unsettled,?_⟩
        rintro ⟨reference,outcome,hin⟩
        cases hrec _ hin
      · intro href
        rcases hw with ⟨_,hempty⟩ | rfl
        · exact absurd hempty href
        · simp
      · intro r' hr'
        exact ⟨(ho.ok r' hr').1,List.mem_append_left _ (ho.ok r' hr').2⟩
  · rintro w reply ⟨hw,hreply⟩
    rcases hreply with ⟨rfl,hrec⟩ | ⟨rfl,hun,hset⟩
    · refine ⟨fun hgov hbad => ?_,fun r hr => ?_⟩
      · have hd : InDoubt h := by
          rcases hbad with hd | hun
          · exact (inDoubt_append_right (hcalls hw)).mp hd
          · exact absurd (unrecorded_append.mp hun) (by simp [ho.clean,hrec.clean])
        refine ⟨ho.doubt hgov hd,?_⟩
        rw [settled_append,not_or]
        exact ⟨ho.unsettled,hrec.unsettled (ho.not_settles hgov hd)⟩
      · obtain ⟨hcode,hin⟩ := ho.ok r hr
        have hreply : reply.code = "OK" := by rw [hr]; exact hcode
        refine ⟨hcode,List.mem_append_left _ hin,fun href => ?_,fun res hres => ?_⟩
        · have haudit := hrec.audited href
          rw [hreply] at haudit
          exact List.mem_append_right _ haudit
        · exact List.mem_append_right _ (hrec.settled res hres (by simp [Reply.settles,hreply]))
    · refine ⟨fun _ _ => ⟨⟨_,rfl,rfl⟩,?_⟩,?_⟩
      · rw [settled_append,not_or]
        exact ⟨ho.unsettled,hset⟩
      · intro r hr
        cases hr
  · rintro w x ⟨_,hx,hset⟩
    exact ⟨by rw [settled_append,not_or]; exact ⟨ho.unsettled,hset⟩,hx⟩

theorem record_unsettled (hs : result.settles = false) (hh : ¬Settled h) :
    (record services call auditRef reservation result).Meets Prog.record (fun _ _ => True)
      (fun v _ => ¬Settled v) (fun v _ => ¬Settled v) h := by
  refine (record_meets services call auditRef reservation result).later (fun _ _ _ => trivial) ?_ ?_
  · rintro w reply ⟨_,hreply⟩
    rw [settled_append,not_or]
    rcases hreply with ⟨_,hrec⟩ | ⟨_,_,hset⟩
    · exact ⟨hh,hrec.unsettled hs⟩
    · exact ⟨hh,hset⟩
  · rintro w x ⟨_,_,hset⟩
    rw [settled_append,not_or]
    exact ⟨hh,hset⟩

private theorem dispatches_cases {e : Authority} (h : Dispatches e)
    (hne : ∀ op params context, e ≠ .dispatch op params context) : Quiet e ∨ e = .leave := by
  cases e with
  | leave => exact .inr rfl
  | dispatch op params context => exact absurd rfl (hne op params context)
  | _ => exact .inl h

theorem execute_meets (hplan : call.needsPlan = true → call.planRef.isSome = true)
    (hres : reservation.isSome = true → call.governed = true) :
    (execute services call auditRef reservation).Meets Prog.record (ExecuteGuard services call auditRef reservation)
      (ExecuteEnd services call auditRef reservation) (fun v x => ¬Settled v ∧ (Started v → x = .cancelled)) [] := by
  refine (effect_meets services call hplan).after (h := []) ?_ ?_ ?_
  · rintro v e (he | ⟨reference,href,rfl⟩)
    · exact .quiet (.inl he)
    · exact .consume href
  · intro v x hv
    refine ⟨not_settled_of (K := Confirms) (by simp [Confirms,Quiet]) hv,fun hs => ?_⟩
    exact absurd hs (not_started_of (K := Confirms) (by simp [Confirms,Quiet]) hv)
  · rintro v r ⟨hv,herror,hnone⟩
    rw [List.nil_append]
    have hsettled : ¬Settled v := not_settled_of (K := Confirms) (by simp [Confirms,Quiet]) hv
    have hclean : ¬Unrecorded v :=
      not_unrecorded_of_calls (K := Confirms) (by simp [Confirms,Quiet]) (by simp [Confirms,Quiet]) hv
    have hstarted : ¬Started v := not_started_of (K := Confirms) (by simp [Confirms,Quiet]) hv
    have hdecides : ∀ y ∈ v, ¬Decides y.1 := fun y hy => not_decides_of_confirms (hv y hy)
    cases r with
    | some effect =>
      obtain ⟨e,rfl⟩ := herror effect rfl
      refine (record_executes hres ⟨hclean,hsettled,?_,?_⟩).mono (fun _ _ => id) (fun _ _ => id) ?_
      · exact fun _ hd => absurd hd (not_inDoubt_of hdecides)
      · intro r hr
        cases hr
      · exact fun w x hx => ⟨hx.1,fun _ => hx.2⟩
    | none =>
      refine attempt_bind (Q := fun h reply => Outcome services call h reply)
        (X := fun h x => Outcome services call h (.error (indeterminate auditRef)) ∧ x = .cancelled) ?_ ?_ ?_
      · -- the dispatch, with what went before it in front
        have hkinds : ∀ {d : History}, (∀ y ∈ d, Dispatches y.1) → ¬Unrecorded (v ++ d) ∧ ¬Settled (v ++ d) := by
          intro d hd
          rw [unrecorded_append,not_or,settled_append,not_or]
          exact ⟨⟨hclean,not_unrecorded_of_calls (K := Dispatches) (by simp [Dispatches,Quiet])
              (by simp [Dispatches,Quiet]) hd⟩,hsettled,not_settled_of (K := Dispatches) (by simp [Dispatches,Quiet]) hd⟩
        refine (dispatchOutcome_meets services call auditRef).later ?_ ?_ ?_
        · intro d e he
          cases he with
          | quiet hd hne => exact .quiet (dispatches_cases hd hne)
          | dispatch hw hentered hquiet hgranted =>
            refine .dispatch (by rw [hw]) hentered hgranted (hnone rfl) ?_
            rw [started_append,not_or]
            exact ⟨hstarted,not_started_of_quiet hquiet⟩
        · rintro d reply ⟨hd,hdoubt,hok⟩
          refine ⟨(hkinds hd).1,(hkinds hd).2,fun hgov hin => ?_,fun r hr => ?_⟩
          · obtain ⟨ungoverned,rfl⟩ := hdoubt ((inDoubt_append_left hdecides).mp hin)
            exact ⟨_,rfl,by simp [unsettled,hgov]⟩
          · exact ⟨(hok r hr).1,List.mem_append_right _ (hok r hr).2⟩
        · rintro d x ⟨hd,rfl⟩
          refine ⟨⟨(hkinds hd).1,(hkinds hd).2,fun _ _ => ⟨_,rfl,rfl⟩,?_⟩,rfl⟩
          intro r hr
          cases hr
      · intro h reply ho
        exact (record_executes hres ho).mono (fun _ _ => id) (fun _ _ => id) fun w x hx => ⟨hx.1,fun _ => hx.2⟩
      · rintro h x ⟨ho,rfl⟩
        -- cancelled: the outcome is recorded as indeterminate, which settles nothing
        have hunsettled : (record services call auditRef reservation (.error (indeterminate auditRef))).Meets
            Prog.record (fun _ _ => True) (fun v _ => ¬Settled v) (fun v _ => ¬Settled v) h :=
          record_unsettled (by simp [Reply.settles,Reply.code,indeterminate]) ho.unsettled
        have hboth := (record_executes hres ho).and hunsettled
        refine (hboth.mono (fun _ _ he => he.1) (fun _ _ hq => hq.2) ?_).seq ?_
        · exact fun w x hx => ⟨hx.1.1,fun _ => hx.1.2⟩
        · exact fun w _ hw => ⟨hw,fun _ => rfl⟩

end
section
variable (services : InvokeServices) (call : Call)

def reservationAsked (a : Attempt (Option EffectReservation)) : Event Authority Authority.Answer :=
  ⟨.reserve call.caller.requestId (journalBinding services call),a⟩

/-- Where a reservation stands when it asks. -/
inductive ReserveGuard (v : History) : Authority → Prop where
  | quiet {e : Authority} (h : Quiet e) : ReserveGuard v e
  | reserve (hgoverned : call.governed = true) (hnative : call.nativeReplay services = false)
      (hquiet : ∀ y ∈ v, Quiet y.1) : ReserveGuard v (.reserve call.caller.requestId (journalBinding services call))
  | replay {event : AuditEvent} {audit : AuditClass} {caller : VerifiedCaller} : ReserveGuard v (.auditWrite event audit caller)

inductive ReserveEnd (v : History) : Except Reply Reserved → Prop where
  | ungoverned (hgoverned : call.governed = false) (hv : v = []) : ReserveEnd v (.ok ("",none))
  | native {auditRef : String} (hgoverned : call.governed = true) (hnative : call.nativeReplay services = true)
      (href : auditRef ≠ "") (hquiet : ∀ y ∈ v, Quiet y.1) : ReserveEnd v (.ok (auditRef,none))
  | acquired {before : History} {r : EffectReservation} {auditRef : String} (hgoverned : call.governed = true)
      (hnative : call.nativeReplay services = false) (href : auditRef ≠ "") (hbefore : ∀ y ∈ before, Quiet y.1)
      (hv : v = before ++ [reservationAsked services call (.returned (some r))]) (hstate : r.state = .acquired)
      (hreference : r.reference ≠ "") : ReserveEnd v (.ok (auditRef,some r))
  | unaudited (hquiet : ∀ y ∈ v, Quiet y.1) (e : OpError) : ReserveEnd v (.error (.error e))
  | unreserved {before : History} {a : Attempt (Option EffectReservation)} (hbefore : ∀ y ∈ before, Quiet y.1)
      (hv : v = before ++ [reservationAsked services call a])
      (ha : ∀ r, a = .returned (some r) → r.reference = "") (e : OpError) : ReserveEnd v (.error (.error e))
  | pending {before : History} {r : EffectReservation} {auditRef : String} (hbefore : ∀ y ∈ before, Quiet y.1)
      (hv : v = before ++ [reservationAsked services call (.returned (some r))]) (hstate : r.state = .pending)
      (hreference : r.reference ≠ "") : ReserveEnd v (.error (.error (indeterminate auditRef)))
  | conflict {before : History} {r : EffectReservation} (hbefore : ∀ y ∈ before, Quiet y.1)
      (hv : v = before ++ [reservationAsked services call (.returned (some r))])
      (hstate : r.state = .conflict ∨ r.state = .completed ∧ r.outcome = none) (hreference : r.reference ≠ "")
      (e : OpError) (hcode : e.code = "INVALID_ARGUMENT") : ReserveEnd v (.error (.error e))
  | denied {before checks : History} {r : EffectReservation} {outcome : Reply} (hbefore : ∀ y ∈ before, Quiet y.1)
      (hv : v = before ++ reservationAsked services call (.returned (some r)) :: checks) (hstate : r.state = .completed)
      (houtcome : r.outcome = some outcome) (hreference : r.reference ≠ "") (hchecks : ∀ y ∈ checks, Quiet y.1)
      (e : OpError) : ReserveEnd v (.error (.error e))
  | replayed {before checks records : History} {r : EffectReservation} {auditRef : String} {outcome reply : Reply}
      (href : auditRef ≠ "") (hbefore : ∀ y ∈ before, Quiet y.1)
      (hv : v = before ++ reservationAsked services call (.returned (some r)) :: (checks ++ records))
      (hstate : r.state = .completed) (houtcome : r.outcome = some outcome) (hreference : r.reference ≠ "")
      (hchecks : ∀ y ∈ checks, Quiet y.1)
      (hgranted : Granted services checks call.op call.arguments.value call.caller call.decision)
      (hrecords : ∀ y ∈ records, Records y.1)
      (hreply : reply = outcome ∧ Recorded services call auditRef none outcome records ∨
        reply = .error (indeterminate auditRef) ∧ Unrecorded records)
      (hsettled : ¬Settled records) : ReserveEnd v (.error reply)

/-- The calls of a reservation: none starts or settles an effect. -/
def Reserves : Authority → Prop
  | .reserve _ _ => True
  | .auditWrite _ _ _ => True
  | e => Quiet e

theorem reserves_of_quiet {e : Authority} (h : Quiet e) : Reserves e := by
  cases e <;> first | exact h | trivial

theorem reserves_of_guard {v : History} {e : Authority} (h : ReserveGuard services call v e) : Reserves e := by
  cases h with
  | quiet h => exact reserves_of_quiet h
  | reserve _ _ _ => trivial
  | replay => trivial

theorem replay_meets (auditRef : String) (outcome : Reply) : (record services call auditRef none outcome).Meets Prog.record
    (fun _ e => ∃ event audit caller, e = .auditWrite event audit caller)
    (fun v reply => (∀ y ∈ v, Records y.1) ∧ (reply = outcome ∧ Recorded services call auditRef none outcome v ∨
      reply = .error (indeterminate auditRef) ∧ Unrecorded v) ∧ ¬Settled v) (fun _ _ => True) [] := by
  have hrecord := record_meets services call auditRef none outcome
  have hunsettled : (record services call auditRef none outcome).Meets Prog.record
      (fun _ e => Reserves e) (fun _ _ => True) (fun _ _ => True) [] := by
    refine hrecord.mono ?_ (fun _ _ _ => trivial) (fun _ _ _ => trivial)
    rintro v e (⟨_,rfl⟩ | ⟨r,hr,_⟩)
    · trivial
    · cases hr
  refine (hrecord.and (hunsettled.kept (by simp))).mono ?_ ?_ (fun _ _ _ => trivial)
  · rintro v e ⟨⟨_,rfl⟩ | ⟨r,hr,_⟩,_⟩
    · exact ⟨_,_,_,rfl⟩
    · cases hr
  · rintro v reply ⟨⟨hrecords,hreply⟩,_,hkinds⟩
    refine ⟨hrecords,?_,not_settled_of (K := Reserves) (by simp [Reserves,Quiet]) hkinds⟩
    rcases hreply with hleft | ⟨hreply,hun,_⟩
    · exact .inl hleft
    · exact .inr ⟨hreply,hun⟩

theorem reserveEffect_meets : (reserveEffect services call).Meets Prog.record
    (fun v e => v = [] ∧ e = .reserve call.caller.requestId (journalBinding services call))
    (fun v r => ∃ a, v = [reservationAsked services call a] ∧
      (∀ reservation, r = .ok reservation → a = .returned (some reservation) ∧ reservation.reference ≠ "") ∧
      (∀ e, r = .error e → ∀ reservation, a = .returned (some reservation) → reservation.reference = ""))
    (fun _ _ => True) [] := by
  refine ⟨⟨rfl,rfl⟩,?_⟩
  rintro a h rfl
  refine Attempt.caught_cases a ?_ ?_ trivial
  · rintro answer rfl
    cases answer with
    | none =>
      refine ⟨_,rfl,?_,?_⟩
      · intro reservation h
        cases h
      · intro e _ reservation h
        cases h
    | some reservation =>
      dsimp only
      split
      · rename_i hreference
        refine ⟨_,rfl,?_,?_⟩
        · intro r h
          cases h
          exact ⟨rfl,hreference⟩
        · intro e h
          cases h
      · rename_i hreference
        refine ⟨_,rfl,?_,?_⟩
        · intro r h
          cases h
        · intro e _ r h
          cases h
          exact not_not.mp hreference
  · intro hno
    refine ⟨a,rfl,?_,?_⟩
    · intro r h
      cases h
    · intro e _ r h
      exact absurd h (hno _)

theorem reserve_meets : (reserve services call).Meets Prog.record (ReserveGuard services call)
    (ReserveEnd services call) (fun _ _ => True) [] := by
  unfold reserve
  split
  · rename_i hgov
    exact .ungoverned (by simpa using hgov) rfl
  · rename_i hgov
    have hgoverned : call.governed = true := by simpa using hgov
    refine (auditPreflight_asks services call).within (fun v e he _ => .quiet he) (fun _ _ _ => trivial) ?_
    intro v r hr hv
    cases r with
    | error refused => exact .unaudited hv refused
    | ok auditRef =>
      have href := hr auditRef rfl
      dsimp only
      split
      · rename_i hnative
        exact .native hgoverned hnative href hv
      · rename_i hnative
        refine (reserveEffect_meets services call).after ?_ (fun _ _ _ => trivial) ?_
        · rintro w e ⟨rfl,rfl⟩
          exact .reserve hgoverned (by simpa using hnative) (by simpa using hv)
        · rintro w r ⟨a,rfl,hok,herror⟩
          cases r with
          | error refused => exact .unreserved hv rfl (herror refused rfl) refused
          | ok reservation =>
            obtain ⟨rfl,hreference⟩ := hok reservation rfl
            have hcompleted : ∀ outcome, reservation.state = .completed → reservation.outcome = some outcome →
                ((replayCompleted services call auditRef outcome).bind fun reply => .ret (.error reply)).Meets
                  Prog.record (ReserveGuard services call) (ReserveEnd services call) (fun _ _ => True)
                  (v ++ [reservationAsked services call (.returned (some reservation))]) := by
              intro outcome hstate houtcome
              rw [Prog.meets_bind]
              refine (recheck_asks services call.op call.arguments.value call.caller call.decision).within
                (fun _ _ he _ => .quiet he) (fun _ _ _ => trivial) ?_
              intro checks r hr hchecks
              cases r with
              | some refused =>
                exact .denied hv (by simp) hstate houtcome hreference hchecks refused
              | none =>
                refine (replay_meets services call auditRef outcome).later ?_ ?_ (fun _ _ _ => trivial)
                · rintro w e ⟨event,audit,caller,rfl⟩
                  exact .replay
                · rintro records reply ⟨hrecords,hreply,hsettled⟩
                  exact .replayed href hv (by simp) hstate houtcome hreference hchecks (hr rfl) hrecords hreply hsettled
            dsimp only
            split
            · rename_i outcome hstate houtcome
              exact hcompleted outcome hstate houtcome
            · rename_i hstate
              exact .acquired hgoverned (by simpa using hnative) href hv rfl hstate hreference
            · rename_i hstate
              exact .pending hv rfl hstate hreference
            · rename_i hacq hpend hnot
              refine .conflict hv rfl ?_ hreference _ rfl
              cases hs : reservation.state with
              | acquired => exact absurd hs hacq
              | pending => exact absurd hs hpend
              | conflict => exact .inl rfl
              | completed =>
                cases ho : reservation.outcome with
                | none => exact .inr ⟨rfl,rfl⟩
                | some outcome => exact absurd ho (hnot outcome hs)

end
section
variable (services : InvokeServices) (request : Request)

/-- What a call that is going to be carried out rests on. -/
structure Prepared (answers : History) (registered : OpSpec) (caller : VerifiedCaller) (call : Call) : Prop where
  quiet : ∀ y ∈ answers, Quiet y.1
  get : services.registry.get request.opId = some registered
  static : staticRefusal registered request.surface = none
  params : forbiddenPath forbiddenAuthority "" request.params = none
  presented : request.caller = some caller
  resolution : Resolution services answers registered call.arguments.value caller
    ⟨call.op,{ call.caller with requestId := caller.requestId },call.decision⟩
  surface : call.surface = request.surface
  planRef : call.planRef = request.planRef
  idempotencyKey : call.idempotencyKey = request.idempotencyKey
  resolvedFromIntent : call.resolvedFromIntent = request.resolvedFromIntent
  validated : ∃ entries, Validated answers request.params entries ∧ frozenArguments entries = some call.arguments
  identified : call.governed = true → ∃ text, Identifies services call answers caller.requestId text ∧
    call.caller.requestId = services.sha256 text
  requested : requestRefusal services call = none
  plan : call.needsPlan = true → call.planRef.isSome = true
  owner : call.governed = true → call.nativeReplay services = false → call.externalReplay services = true

inductive Stage (call : Call) (v : History) : Authority → Prop where
  | reserving {e : Authority} (h : ReserveGuard services call v e) : Stage call v e
  | executing {r w : History} {auditRef : String} {reservation : Option EffectReservation} {e : Authority}
      (hv : v = r ++ w) (hr : ReserveEnd services call r (.ok (auditRef,reservation)))
      (h : ExecuteGuard services call auditRef reservation w e) : Stage call v e

/-- How a prepared call returns. -/
inductive CallEnd (call : Call) (v : History) (reply : Reply) : Prop where
  | reserved (h : ReserveEnd services call v (.error reply)) : CallEnd call v reply
  | executed {r w : History} {auditRef : String} {reservation : Option EffectReservation} (hv : v = r ++ w)
      (hr : ReserveEnd services call r (.ok (auditRef,reservation)))
      (h : ExecuteEnd services call auditRef reservation w reply) : CallEnd call v reply

/-- Where an invocation stands when it asks. -/
def InvokeGuard (h : History) (e : Authority) : Prop :=
  Quiet e ∨ ∃ answers v registered caller call, h = answers ++ v ∧
    Prepared services request answers registered caller call ∧ Stage services call v e

/-- How an invocation returns. -/
def InvokeEnd (h : History) (reply : Reply) : Prop :=
  ((∀ y ∈ h, Quiet y.1) ∧ reply.Preliminary) ∨ ∃ answers v registered caller call, h = answers ++ v ∧
    Prepared services request answers registered caller call ∧ CallEnd services call v reply

variable {services request}

theorem ReserveEnd.ok_quiet {call : Call} {r : History} {auditRef : String} {reservation : Option EffectReservation}
    (h : ReserveEnd services call r (.ok (auditRef,reservation))) : ∀ y ∈ r, Reserves y.1 := by
  intro y hy
  cases h with
  | ungoverned _ hv =>
    rw [hv] at hy
    cases hy
  | native _ _ _ hquiet => exact reserves_of_quiet (hquiet y hy)
  | acquired _ _ _ hbefore hv =>
    rw [hv] at hy
    rcases List.mem_append.mp hy with hin | hin
    · exact reserves_of_quiet (hbefore y hin)
    · rw [List.mem_singleton.mp hin]
      trivial

theorem ReserveEnd.governed {call : Call} {r : History} {auditRef : String} {reservation : Option EffectReservation}
    (h : ReserveEnd services call r (.ok (auditRef,reservation))) :
    reservation.isSome = true → call.governed = true := by
  intro hsome
  cases h with
  | ungoverned _ _ => cases hsome
  | native hgov _ _ _ => exact hgov
  | acquired hgov _ _ _ _ => exact hgov

theorem not_started_of_reserves {v : History} (h : ∀ y ∈ v, Reserves y.1) : ¬Started v :=
  not_started_of (K := Reserves) (by simp [Reserves,Quiet]) h
theorem not_settled_of_reserves {v : History} (h : ∀ y ∈ v, Reserves y.1) : ¬Settled v :=
  not_settled_of (K := Reserves) (by simp [Reserves,Quiet]) h

theorem prepared_meets {answers : History} {registered : OpSpec} {caller : VerifiedCaller} {call : Call}
    (hp : Prepared services request answers registered caller call) : ((reserve services call).bind fun
      | .error reply => .ret reply
      | .ok (auditRef,reservation) => execute services call auditRef reservation).Meets Prog.record
      (InvokeGuard services request) (InvokeEnd services request)
      (fun v x => ¬Settled v ∧ (Started v → x = .cancelled)) answers := by
  have hanswers : ∀ y ∈ answers, Reserves y.1 := fun y hy => reserves_of_quiet (hp.quiet y hy)
  have hreserve : (reserve services call).Meets Prog.record
      (fun v e => ReserveGuard services call v e ∧ ∀ y ∈ v, Reserves y.1)
      (fun v r => ReserveEnd services call v r) (fun v _ => ∀ y ∈ v, Reserves y.1) [] := by
    have hkinds := (((reserve_meets services call).mono (fun v e he => reserves_of_guard services call he)
      (fun _ _ => id) (fun _ _ => id))).kept (by simp)
    refine ((reserve_meets services call).and hkinds).mono ?_ ?_ ?_
    · exact fun v e he => ⟨he.1,he.2.2⟩
    · exact fun v r hr => hr.1
    · exact fun v x hx => hx.2.2
  refine hreserve.after ?_ ?_ ?_
  · exact fun v e he => .inr ⟨answers,v,registered,caller,call,rfl,hp,.reserving he.1⟩
  · intro v x hv
    rw [settled_append,not_or,started_append]
    refine ⟨⟨not_settled_of_reserves hanswers,not_settled_of_reserves hv⟩,?_⟩
    rintro (hs | hs)
    · exact absurd hs (not_started_of_reserves hanswers)
    · exact absurd hs (not_started_of_reserves hv)
  · intro v r hr
    cases r with
    | error reply => exact .inr ⟨answers,v,registered,caller,call,rfl,hp,.reserved hr⟩
    | ok reserved =>
      have hv : ∀ y ∈ answers ++ v, Reserves y.1 := by
        intro y hy
        rcases List.mem_append.mp hy with hin | hin
        · exact hanswers y hin
        · exact hr.ok_quiet y hin
      refine (execute_meets hp.plan hr.governed).later ?_ ?_ ?_
      · intro w e he
        refine .inr ⟨answers,v ++ w,registered,caller,call,by simp,hp,.executing rfl hr he⟩
      · intro w reply hend
        exact .inr ⟨answers,v ++ w,registered,caller,call,by simp,hp,.executed rfl hr hend⟩
      · rintro w x ⟨hset,hx⟩
        rw [settled_append,not_or,started_append]
        refine ⟨⟨not_settled_of_reserves hv,hset⟩,?_⟩
        rintro (hs | hs)
        · exact absurd hs (not_started_of_reserves hv)
        · exact hx hs

theorem identifies_bound {call : Call} {answers : History} {own : String} {text : List Char} (id : String)
    (h : Identifies services call answers own text) :
    Identifies services { call with caller := { call.caller with requestId := id } } answers own text := by
  cases h with
  | plan hplan => exact .plan hplan
  | key hplan hkey => exact .key hplan hkey
  | request hplan hkey hid => exact .request hplan hkey hid

theorem quiet_append {u v : History} (hu : ∀ y ∈ u, Quiet y.1) (hv : ∀ y ∈ v, Quiet y.1) : ∀ y ∈ u ++ v, Quiet y.1 := by
  intro y hy
  rcases List.mem_append.mp hy with hin | hin
  · exact hu y hin
  · exact hv y hin

private theorem quiet_raise {h : History} (hq : ∀ y ∈ h, Quiet y.1) (x : Raised) :
    ¬Settled h ∧ (Started h → x = .cancelled) :=
  ⟨not_settled_of (K := Quiet) (by simp [Quiet]) hq,fun hs => absurd hs (not_started_of_quiet hq)⟩

theorem carryOut_meets {answers : History} {registered op : OpSpec} {caller verified : VerifiedCaller}
    {arguments : Arguments} {decision : Option FleetCallDecision} (hquiet : ∀ y ∈ answers, Quiet y.1)
    (hget : services.registry.get request.opId = some registered)
    (hstatic : staticRefusal registered request.surface = none)
    (hparams : forbiddenPath forbiddenAuthority "" request.params = none)
    (hvalid : ∃ entries, Validated answers request.params entries ∧ frozenArguments entries = some arguments)
    (hcaller : request.caller = some caller)
    (hres : Resolution services answers registered arguments.value caller ⟨op,verified,decision⟩) :
    (carryOut services ⟨op,arguments,verified,request.surface,decision,request.planRef,request.idempotencyKey,
      request.resolvedFromIntent⟩).Meets Prog.record (InvokeGuard services request) (InvokeEnd services request)
      (fun v x => ¬Settled v ∧ (Started v → x = .cancelled)) answers := by
  refine (confirmationGate_asks services _).within (fun _ _ he _ => .inl he)
    (fun v x hv => quiet_raise (quiet_append hquiet hv) x) ?_
  intro v r hr hv
  have hquiet' := quiet_append hquiet hv
  cases r with
  | some early => exact .inl ⟨hquiet',hr.1 early rfl⟩
  | none =>
    obtain ⟨hrequest,hplan,howner⟩ := hr.2 rfl
    refine (bindCaller_asks services _).within (fun _ _ he _ => .inl he)
      (fun w x hw => quiet_raise (quiet_append hquiet' hw) x) ?_
    intro w r hr hw
    cases r with
    | error refused => exact .inl ⟨quiet_append hquiet' hw,preliminary_error _⟩
    | ok bound =>
      obtain ⟨id,rfl,hid⟩ := hr bound rfl
      have heq : ({ verified with requestId := caller.requestId } : VerifiedCaller) = verified := by
        rw [← hres.requestId]
      have hsub : answers ⊆ answers ++ v ++ w := by
        intro x hx
        simp [hx]
      obtain ⟨entries,hentries,hfrozen⟩ := hvalid
      refine prepared_meets ⟨quiet_append hquiet' hw,hget,hstatic,hparams,hcaller,?_,rfl,rfl,rfl,rfl,
        ⟨entries,hentries.mono hsub,hfrozen⟩,fun hgov => ?_,hrequest,hplan,howner⟩
      rotate_left
      · obtain ⟨text,htext,hsha⟩ := hid hgov
        rw [hres.requestId] at htext
        exact ⟨text,identifies_bound id (htext.mono (by simp)),hsha⟩
      refine ⟨hres.reverified.mono hsub,?_,rfl,?_,?_,?_,?_⟩
      · exact heq ▸ hres.same
      · exact heq ▸ hres.principal
      · exact heq ▸ hres.scopes
      · exact heq ▸ hres.effective.mono hsub
      · exact heq ▸ hres.granted.mono hsub

theorem invoke_meets (services : InvokeServices) (request : Request) :
    (invoke services request).Meets Prog.record (InvokeGuard services request) (InvokeEnd services request)
      (fun v x => ¬Settled v ∧ (Started v → x = .cancelled)) [] := by
  unfold invoke
  have hnil : ∀ y ∈ ([] : History), Quiet y.1 := by simp
  split
  · exact .inl ⟨hnil,preliminary_error _⟩
  · rename_i registered hget
    split
    · exact .inl ⟨hnil,preliminary_error _⟩
    · rename_i hstatic
      refine (arguments_asks services registered request.params).within (fun _ _ he _ => .inl he)
        (fun v x hv => quiet_raise (quiet_append hnil hv) x) ?_
      intro v r hr hv
      cases r with
      | error refused => exact .inl ⟨quiet_append hnil hv,preliminary_error _⟩
      | ok arguments =>
        obtain ⟨hparams,entries,hentries,hfrozen⟩ := hr arguments rfl
        -- resolving only looks at its own answers, so the ones before do not matter
        refine (resolve_asks services registered arguments request.caller).within (fun _ _ he _ => .inl he)
          (fun w x hw => quiet_raise (quiet_append (quiet_append hnil hv) hw) x) ?_
        intro w r hr hw
        have hquiet := quiet_append (quiet_append hnil hv) hw
        cases r with
        | error refused => exact .inl ⟨hquiet,preliminary_error _⟩
        | ok resolved =>
          obtain ⟨caller,hcaller,hres⟩ := hr resolved rfl
          have hsub : w ⊆ [] ++ v ++ w := by
            intro x hx
            simp [hx]
          refine carryOut_meets hquiet hget hstatic hparams ⟨entries,hentries.mono (by simp),hfrozen⟩ hcaller ?_
          exact ⟨hres.reverified.mono hsub,hres.same,hres.requestId,hres.principal,hres.scopes,
            hres.effective.mono hsub,hres.granted.mono hsub⟩

end
end Arbora.Invoke
