import Arbora.Invoke.CompleteAuthority
import Arbora.Lib.Lists
import Arbora.Lib.Pool

/-! What a governed call tells of its effect, alone and among any number of calls around one journal. -/
namespace Arbora.Invoke
open Interaction Arbora.Api

section
variable {services : InvokeServices} {request : Request} {t : History} {reply : Reply}

/-- What a reply tells: an effect in doubt is told as such and left unsettled; success is what the
dispatch returned, recorded, or the stored outcome of an earlier call. -/
structure Truthful (services : InvokeServices) (t : History) (reply : Reply) : Prop where
  doubt : InDoubt t ∨ Unrecorded t → (∃ e, reply = .error e ∧ e.code = "INDETERMINATE") ∧ ¬Settled t
  ok : ∀ r, reply = .result r → r.code = "OK" →
    (∃ event audit caller, written event audit caller ∈ t ∧ ("result_status","OK") ∈ event) ∧
    ((∃ op params context, dispatched op params context r.value ∈ t ∧
        (op.id ∈ services.nativeIdempotency ∨ ∃ key binding reservation, reserved key binding reservation ∈ t ∧
          reservation.state = .acquired ∧ completed reservation.reference reply ∈ t)) ∨
      ¬Started t ∧ ∃ key binding reservation, reserved key binding reservation ∈ t ∧
        reservation.state = .completed ∧ reservation.outcome = some reply)

/-- The calls made before there is an outcome to record. -/
def Asked (e : Authority) : Prop := Quiet e ∨ ∃ key binding, e = .reserve key binding

theorem not_decides_of_asked {e : Authority} (h : Asked e) : ¬Decides e := by
  rcases h with h | ⟨key,binding,rfl⟩
  · cases e <;> first | exact id | exact fun _ => h
  · exact id

theorem not_unrecorded_of_asked (h : ∀ y ∈ t, Asked y.1) : ¬Unrecorded t :=
  not_unrecorded_of_calls (K := Asked) (by simp [Asked,Quiet]) (by simp [Asked,Quiet]) h
theorem not_started_of_asked (h : ∀ y ∈ t, Asked y.1) : ¬Started t :=
  not_started_of (K := Asked) (by simp [Asked,Quiet]) h

theorem Truthful.of_asked (h : ∀ y ∈ t, Asked y.1) (hreply : reply.Preliminary) : Truthful services t reply where
  doubt hbad := by
    rcases hbad with hdoubt | hun
    · exact absurd hdoubt (not_inDoubt_of fun y hy => not_decides_of_asked (h y hy))
    · exact absurd hun (not_unrecorded_of_asked h)
  ok r hr hcode := absurd hcode (hreply r hr)

theorem asked_append {u v : History} (hu : ∀ y ∈ u, Quiet y.1) (hv : ∀ y ∈ v, Asked y.1) : ∀ y ∈ u ++ v, Asked y.1 := by
  intro y hy
  rcases List.mem_append.mp hy with hin | hin
  · exact .inl (hu y hin)
  · exact hv y hin

theorem asked_reservation {call : Call} {before after : History} {a : Attempt (Option EffectReservation)}
    (hbefore : ∀ y ∈ before, Quiet y.1) (hafter : ∀ y ∈ after, Quiet y.1) :
    ∀ y ∈ before ++ reservationAsked services call a :: after, Asked y.1 := by
  refine asked_append hbefore ?_
  intro y hy
  rcases List.mem_cons.mp hy with rfl | hin
  · exact .inr ⟨_,_,rfl⟩
  · exact .inl (hafter y hin)

theorem Effective.governed {registered op : OpSpec} {params : Value} {caller : VerifiedCaller} {answers : History}
    {decision : Option FleetCallDecision} (h : Effective registered params caller answers op decision)
    (hregistered : registered.effect ≠ .read ∨ registered.id = "fleet.call") :
    op.effect ≠ .read ∨ op.id = "fleet.call" := by
  cases h with
  | itself _ => exact hregistered
  | fleet hid _ _ => exact .inr hid

theorem mem_auditEvent (call : Call) (status auditRef : String) :
    ("result_status",status) ∈ auditEvent services call status auditRef := by simp [auditEvent]

/-- A call that its reservation ends starts no effect; the stored outcome is all it can tell as success. -/
theorem ReserveEnd.truthful {answers v : History} {call : Call} (hanswers : ∀ y ∈ answers, Quiet y.1)
    (h : ReserveEnd services call v (.error reply)) : Truthful services (answers ++ v) reply := by
  have hrefused : ∀ {w : History} (e : OpError), (∀ y ∈ w, Asked y.1) → Truthful services (answers ++ w) (.error e) :=
    fun e hw => .of_asked (asked_append hanswers hw) (preliminary_error e)
  cases h with
  | unaudited hquiet e => exact hrefused e fun y hy => .inl (hquiet y hy)
  | unreserved hbefore hv _ e => exact hrefused e (hv ▸ asked_reservation hbefore (by simp))
  | pending hbefore hv _ _ => exact hrefused _ (hv ▸ asked_reservation hbefore (by simp))
  | conflict hbefore hv _ _ e _ => exact hrefused e (hv ▸ asked_reservation hbefore (by simp))
  | denied hbefore hv _ _ _ hchecks e => exact hrefused e (hv ▸ asked_reservation hbefore hchecks)
  | @replayed before checks records r auditRef outcome _ href hbefore hv hstate houtcome _ hchecks _ hrecords hreply
      hsettled =>
    have hown : ∀ y ∈ before ++ reservationAsked services call (.returned (some r)) :: checks, Asked y.1 :=
      asked_reservation hbefore hchecks
    have hasked := asked_append hanswers hown
    have hin : reserved call.caller.requestId (journalBinding services call) r ∈
        answers ++ (before ++ reservationAsked services call (.returned (some r)) :: checks) := by
      simp [reserved,reservationAsked]
    have ht : answers ++ v = answers ++ (before ++ reservationAsked services call (.returned (some r)) :: checks) ++
        records := by
      rw [hv]
      simp
    rw [ht]
    generalize answers ++ (before ++ reservationAsked services call (.returned (some r)) :: checks) = asked at hasked hin
    have hdecides : ∀ y ∈ records, ¬Decides y.1 := fun y hy => not_decides_of_records (hrecords y hy)
    have hunsettled : ¬Settled (asked ++ records) := by
      rw [settled_append,not_or]
      exact ⟨not_settled_of (K := Asked) (by simp [Asked,Quiet]) hasked,hsettled⟩
    have hstarted : ¬Started (asked ++ records) := by
      rw [started_append,not_or]
      exact ⟨not_started_of_asked hasked,not_started_of (K := Records) (by simp [Records]) hrecords⟩
    rcases hreply with ⟨rfl,hrecorded⟩ | ⟨rfl,_⟩
    · refine ⟨fun hbad => ?_,fun r' hr' hcode => ?_⟩
      · rcases hbad with hdoubt | hun
        · rw [inDoubt_append_right hdecides] at hdoubt
          exact absurd hdoubt (not_inDoubt_of fun y hy => not_decides_of_asked (hasked y hy))
        · exact absurd (unrecorded_append.mp hun) (not_or.mpr ⟨not_unrecorded_of_asked hasked,hrecorded.clean⟩)
      · have hwritten := hrecorded.audited href
        rw [show reply.code = "OK" by rw [hr']; exact hcode] at hwritten
        refine ⟨⟨_,_,_,List.mem_append_right _ hwritten,mem_auditEvent _ _ _⟩,.inr
          ⟨hstarted,_,_,r,List.mem_append_left _ hin,hstate,houtcome⟩⟩
    · exact ⟨fun _ => ⟨⟨_,rfl,rfl⟩,hunsettled⟩,fun r' hr' => by cases hr'⟩

/-- How a reservation lets a governed call go on. -/
theorem ReserveEnd.going {r : History} {call : Call} {auditRef : String} {reservation : Option EffectReservation}
    (h : ReserveEnd services call r (.ok (auditRef,reservation))) (hgoverned : call.governed = true) :
    auditRef ≠ "" ∧ (∀ y ∈ r, Asked y.1) ∧ (call.op.id ∈ services.nativeIdempotency ∨ ∃ res, reservation = some res ∧
      reserved call.caller.requestId (journalBinding services call) res ∈ r ∧ res.state = .acquired) := by
  cases h with
  | ungoverned hnot _ =>
    rw [hgoverned] at hnot
    cases hnot
  | native _ hnative href hquiet =>
    refine ⟨href,fun y hy => .inl (hquiet y hy),.inl ?_⟩
    simp only [Call.nativeReplay,Bool.and_eq_true,List.contains_iff_mem] at hnative
    exact hnative.1
  | @acquired before res _ _ _ href hbefore hv hstate _ =>
    refine ⟨href,hv ▸ asked_reservation hbefore (by simp),.inr ⟨res,rfl,?_,hstate⟩⟩
    rw [hv]
    simp [reserved,reservationAsked]

theorem ExecuteEnd.truthful {answers r w : History} {call : Call} {auditRef : String}
    {reservation : Option EffectReservation} (hanswers : ∀ y ∈ answers, Quiet y.1) (hgoverned : call.governed = true)
    (hr : ReserveEnd services call r (.ok (auditRef,reservation)))
    (h : ExecuteEnd services call auditRef reservation w reply) : Truthful services (answers ++ (r ++ w)) reply := by
  obtain ⟨href,hasked,howner⟩ := hr.going hgoverned
  have hbefore := asked_append hanswers hasked
  rw [← List.append_assoc]
  refine ⟨fun hbad => ?_,fun result hresult _ => ?_⟩
  · have hown : InDoubt w ∨ Unrecorded w := by
      rw [inDoubt_append_left fun y hy => not_decides_of_asked (hbefore y hy),unrecorded_append] at hbad
      exact hbad.imp_right fun hun => hun.resolve_left (not_unrecorded_of_asked hbefore)
    obtain ⟨hreply,hset⟩ := h.doubt hgoverned hown
    refine ⟨hreply,?_⟩
    rw [settled_append,not_or]
    exact ⟨not_settled_of (K := Asked) (by simp [Asked,Quiet]) hbefore,hset⟩
  · obtain ⟨_,hdispatched,haudit,hcompleted⟩ := h.ok result hresult
    refine ⟨⟨_,_,_,List.mem_append_right _ (haudit href),mem_auditEvent _ _ _⟩,.inl
      ⟨_,_,_,List.mem_append_right _ hdispatched,howner.imp_right ?_⟩⟩
    rintro ⟨res,hres,hin,hstate⟩
    exact ⟨_,_,res,List.mem_append_left _ (List.mem_append_right _ hin),hstate,
      List.mem_append_right _ (hcompleted res hres)⟩

/-- Where a call stands that dispatches: prepared and reserved, with nothing dispatched before. -/
theorem InvokeGuard.dispatching {op : OpSpec} {params : Value} {context : ExecutionContext}
    (h : InvokeGuard services request t (.dispatch op params context)) : ¬Started t ∧
      ∃ answers registered caller call r auditRef reservation, Prepared services request answers registered caller call ∧
        ReserveEnd services call r (.ok (auditRef,reservation)) ∧ r ⊆ t ∧ call.op = op ∧ call.caller = context.caller := by
  rcases h with hquiet | ⟨answers,v,registered,caller,call,rfl,hp,hstage⟩
  · exact absurd hquiet id
  cases hstage with
  | reserving hr =>
    cases hr with
    | quiet hq => exact absurd hq id
  | @executing r w auditRef reservation _ hv hr he =>
    cases he with
    | quiet hq => exact hq.elim (fun hq => absurd hq id) fun hleave => nomatch hleave
    | dispatch _ _ _ _ hfirst =>
      refine ⟨?_,answers,registered,caller,call,r,auditRef,reservation,hp,hr,by simp [hv],rfl,rfl⟩
      rw [hv,started_append,started_append]
      rintro (hs | hs | hs)
      · exact not_started_of_quiet hp.quiet hs
      · exact not_started_of_reserves hr.ok_quiet hs
      · exact hfirst hs

end

namespace Sample

/-- The owner raises when the purge is under way. -/
def failing (_ : Unit) (e : Authority) : e.Answer × Unit :=
  (grant (.raised .exception) ⟨"ref-1",.acquired,none⟩ e,())

def answering : Invocation Reply → Option String
  | .ret reply => some reply.code
  | _ => none

end Sample

section
variable {σ ι : Type} [DecidableEq ι] {W : World Authority Authority.Answer σ} {taken : σ → String → Prop}

/-- What the owner of the journal promises: a key is acquired at most once, whatever is asked. -/
structure JournalContract (W : World Authority Authority.Answer σ) (taken : σ → String → Prop) : Prop where
  kept : ∀ s e r s' key, W s e r s' → taken s key → taken s' key
  once : ∀ s key binding reservation s', W s (.reserve key binding) (.returned (some reservation)) s' →
    reservation.state = .acquired → ¬taken s key ∧ taken s' key

def Acquires (key : String) (x : Event Authority Authority.Answer) : Prop :=
  ∃ binding reservation, x = reserved key binding reservation ∧ reservation.state = .acquired

theorem acquired_once (hW : JournalContract W taken) {c d : Pool ι Authority Authority.Answer Raised Reply σ}
    {log : List (ι × Event Authority Authority.Answer)} (h : Pool.Steps W c log d) :
    (∀ key, (∃ p ∈ log, Acquires key p.2) → taken d.state key) ∧
      log.Pairwise fun p q => ∀ key, ¬(Acquires key p.2 ∧ Acquires key q.2) := by
  induction h with
  | refl => exact ⟨fun key hp => by simp at hp,.nil⟩
  | @tail log d i e k r s _ _ hw ih =>
    have hnew : ∀ key, Acquires key ⟨e,r⟩ → ¬taken d.state key ∧ taken s key := by
      rintro key ⟨binding,reservation,hx,hstate⟩
      cases hx
      exact hW.once _ _ _ _ _ hw hstate
    refine ⟨?_,List.pairwise_append.mpr ⟨ih.2,List.pairwise_singleton _ _,?_⟩⟩
    · rintro key ⟨p,hp,hacquires⟩
      rcases List.mem_append.mp hp with hin | hin
      · exact hW.kept _ _ _ _ _ hw (ih.1 key ⟨p,hin,hacquires⟩)
      · rw [List.mem_singleton.mp hin] at hacquires
        exact (hnew key hacquires).2
    · rintro p hp q hq key ⟨hfirst,hsecond⟩
      rw [List.mem_singleton.mp hq] at hsecond
      exact (hnew key hsecond).1 (ih.1 key ⟨p,hp,hfirst⟩)

/-- A dispatch of a governed operation whose owner is not idempotent itself, under one key. -/
def startsUnder (services : InvokeServices) (key : String) : Authority → Bool
  | .dispatch op _ context => (op.effect ≠ .read || op.id = "fleet.call") &&
      !services.nativeIdempotency.contains op.id && context.caller.requestId = key
  | _ => false

theorem started_of_startsUnder {services : InvokeServices} {key : String} {x : Event Authority Authority.Answer}
    {t : History} (hx : x ∈ t) (h : startsUnder services key x.1 = true) : Started t := by
  obtain ⟨e,a⟩ := x
  cases e with
  | dispatch op params context => exact ⟨op,params,context,a,hx⟩
  | _ => cases h

theorem acquired_of_startsUnder {services : InvokeServices} {request : Request} {t : History} {key : String}
    {e : Authority} (h : InvokeGuard services request t e) (hkey : startsUnder services key e = true) :
    ∃ y ∈ t, Acquires key y := by
  cases e with
  | dispatch op params context =>
    obtain ⟨_,_,_,_,call,r,_,_,_,hr,hsub,rfl,hcaller⟩ := h.dispatching
    simp only [startsUnder,Bool.and_eq_true,Bool.or_eq_true,decide_eq_true_eq,Bool.not_eq_true',
      ← Bool.not_eq_true,List.contains_iff_mem] at hkey
    obtain ⟨⟨hgoverned,hnative⟩,hid⟩ := hkey
    obtain ⟨_,_,howner⟩ := hr.going (by simpa [Call.governed] using hgoverned)
    obtain ⟨res,_,hin,hstate⟩ := howner.resolve_left hnative
    rw [hcaller,hid] at hin
    exact ⟨_,hsub hin,_,res,rfl,hstate⟩
  | _ => cases hkey

theorem not_started_of_startsUnder {services : InvokeServices} {request : Request} {t : History} {key : String}
    {e : Authority} (h : InvokeGuard services request t e) (hkey : startsUnder services key e = true) : ¬Started t := by
  cases e with
  | dispatch op params context => exact h.dispatching.1
  | _ => cases hkey

/-- The identity of a governed dispatch is the digest of whose request it is. -/
theorem InvokeGuard.identity {services : InvokeServices} {request : Request} {t : History} {op : OpSpec} {params : Value}
    {context : ExecutionContext} (h : InvokeGuard services request t (.dispatch op params context))
    (hgoverned : op.effect ≠ .read ∨ op.id = "fleet.call") : (∀ reference, request.planRef = some reference →
      context.caller.requestId = services.sha256 (requestText context.caller op "plan" reference)) ∧
    ∀ key, request.planRef = none → request.idempotencyKey = some key →
      context.caller.requestId = services.sha256 (requestText context.caller op "key" key) := by
  obtain ⟨_,_,_,_,call,_,_,_,hp,_,_,rfl,hcaller⟩ := h.dispatching
  obtain ⟨_,htext,hsha⟩ := hp.identified (by simpa [Call.governed] using hgoverned)
  rw [← hcaller,hsha]
  refine ⟨fun reference href => ?_,fun key hplan hkey => ?_⟩
  · rw [← hp.planRef] at href
    cases htext with
    | plan hplan => rw [Option.some.inj (hplan.symm.trans href)]
    | key hplan _ => exact absurd (hplan.symm.trans href) nofun
    | request hplan _ _ => exact absurd (hplan.symm.trans href) nofun
  · rw [← hp.planRef] at hplan
    rw [← hp.idempotencyKey] at hkey
    have hjournal : journalKey services call = some key := by simp [journalKey,hkey]
    cases htext with
    | plan href => exact absurd (hplan.symm.trans href) nofun
    | key _ hown => rw [Option.some.inj (hown.symm.trans hjournal)]
    | request _ hown _ => exact absurd (hown.symm.trans hjournal) nofun

end

namespace Sample

/-- A journal of the keys that were acquired. -/
def keeping (keys : List String) : (e : Authority) → e.Answer × List String
  | .reserve key _ =>
    if key ∈ keys then (Attempt.returned (some ⟨"ref-1",.pending,none⟩),keys)
    else (Attempt.returned (some ⟨"ref-1",.acquired,none⟩),key :: keys)
  | e => (grant (.returned .null) ⟨"ref-1",.acquired,none⟩ e,keys)

def journalled : World Authority Authority.Answer (List String) := fun s e r s' => (r,s') = keeping s e

theorem journalled_contract : JournalContract journalled fun s key => key ∈ s where
  kept s e r s' key h hkey := by
    obtain rfl : s' = (keeping s e).2 := congrArg Prod.snd h
    cases e with
    | reserve key' binding =>
      simp only [keeping]
      split_ifs
      · exact hkey
      · exact List.mem_cons_of_mem _ hkey
    | _ => exact hkey
  once s key binding reservation s' h hstate := by
    simp only [journalled,keeping] at h
    split_ifs at h with hin
    · cases h
      cases hstate
    · cases h
      exact ⟨hin,List.mem_cons_self⟩

def twice : Pool Bool Authority Authority.Answer Raised Reply (List String) := ⟨[],fun _ => invoke services request⟩
def schedule : List Bool := List.replicate 9 true ++ List.replicate 30 false ++ List.replicate 30 true

end Sample

end Arbora.Invoke
