import Arbora.Gateway.FleetEvents
import Arbora.Lib.Checks
import Mathlib.Data.List.ReduceOption

/-! What the alerts of a payload come to as events, and when a payload is normalized. -/
namespace Arbora.Gateway

variable (B : Builtins) (receivedAt : String)

def reportsOf (payload : Members) (alerts : List Value) : List (Except Failure FleetEvent) :=
  alerts.filterMap fun alert =>
    match alert with
    | .dict alert => some (alertmanagerEvent B receivedAt alert payload)
    | _ => none

def soleReport (payload : Members) (sourceHint : Option String) : Except Failure FleetEvent :=
  if isUptimeKuma payload then normalizeUptimeKuma B receivedAt payload
  else .ok (normalizeGeneric B receivedAt payload sourceHint)

def reports (payload : Value) (sourceHint : Option String) : List (Except Failure FleetEvent) :=
  match payload with
  | .dict payload =>
    match envelope payload with
    | some alerts => reportsOf B receivedAt payload alerts
    | none => [soleReport B receivedAt payload sourceHint]
  | _ => []

def readReports (payload : Value) (sourceHint : Option String) : List (Except Failure FleetEvent) :=
  match payload with
  | .dict payload =>
    match envelope payload with
    | some alerts => reportsOf B receivedAt payload (alerts.take maxEventsPerRequest)
    | none => [soleReport B receivedAt payload sourceHint]
  | _ => []

/-- What is read as an object is one, if it is there at all. -/
def Fielded (v : Value) : Prop := v.truthy = true → v.isDict = true

def Shaped : Value → Prop
  | .dict payload =>
    match envelope payload with
    | some alerts => ∀ alert : Members, .dict alert ∈ alerts.take maxEventsPerRequest →
      Fielded (get alert "labels") ∧ Fielded (get alert "annotations")
    | none => isUptimeKuma payload = true → Fielded (get payload "heartbeat") ∧ Fielded (get payload "monitor")
  | _ => True

def Whole : Value → Prop
  | .dict payload => ∀ alerts, envelope payload = some alerts → ∀ v ∈ alerts.drop maxEventsPerRequest, v.isDict = false
  | _ => True

variable {B receivedAt}

section

variable {payload : Members}

theorem normalize_alerts {alerts : List Value} {events : List FleetEvent} :
    List.reduceOption <$> alerts.mapM (alertEvent B receivedAt payload) = .ok events ↔
      reportsOf B receivedAt payload alerts = events.map .ok := by
  rw [Checks.map_ok]
  induction alerts generalizing events with
  | nil =>
    have hnil : ∀ found, (pure [] : Except Failure (List (Option FleetEvent))) = .ok found ↔ found = [] := by
      intro found
      exact ⟨fun h => by cases h; rfl,fun h => by rw [h]; rfl⟩
    simp only [List.mapM_nil,hnil,exists_eq_left,reportsOf,List.filterMap_nil]
    cases events with
    | nil => exact ⟨fun _ => rfl,fun _ => rfl⟩
    | cons event events => exact ⟨fun h => (nomatch h),fun h => nomatch h⟩
  | cons v alerts ih =>
    simp only [List.mapM_cons,Checks.bind_ok]
    constructor
    · rintro ⟨found,⟨first,hfirst,rest,hrest,hfound⟩,rfl⟩
      cases hfound
      have htail := ih.mp ⟨rest,hrest,rfl⟩
      cases v with
      | dict alert =>
        obtain ⟨event,hevent,rfl⟩ := Checks.map_ok.mp hfirst
        change alertmanagerEvent B receivedAt alert payload :: reportsOf B receivedAt payload alerts = _
        rw [hevent,htail,List.reduceOption_cons_of_some]
        rfl
      | _ =>
        cases hfirst
        exact htail
    · intro h
      cases v with
      | dict alert =>
        cases events with
        | nil => cases h
        | cons event events =>
          obtain ⟨hevent,hrest⟩ := List.cons.inj h
          obtain ⟨rest,hfound,rfl⟩ := ih.mpr hrest
          exact ⟨some event :: rest,⟨some event,Checks.map_ok.mpr ⟨event,hevent,rfl⟩,rest,hfound,rfl⟩,
            List.reduceOption_cons_of_some event rest⟩
      | _ =>
        obtain ⟨rest,hrest,rfl⟩ := ih.mpr h
        exact ⟨none :: rest,⟨none,rfl,rest,hrest,rfl⟩,List.reduceOption_cons_of_none rest⟩

theorem normalize_sole {hint : Option String} :
    (if isUptimeKuma payload then (fun event => [event]) <$> normalizeUptimeKuma B receivedAt payload
      else .ok [normalizeGeneric B receivedAt payload hint]) =
      (fun event => [event]) <$> soleReport B receivedAt payload hint := by
  unfold soleReport
  split_ifs
  · rfl
  · rfl

theorem normalizePayload_ok {payload : Value} {hint : Option String} {events : List FleetEvent} :
    normalizePayload B receivedAt payload hint = .ok events ↔ readReports B receivedAt payload hint = events.map .ok := by
  unfold normalizePayload readReports
  cases payload with
  | dict payload =>
    dsimp only
    cases envelope payload with
    | some alerts => exact normalize_alerts
    | none =>
      rw [normalize_sole]
      constructor
      · intro h
        obtain ⟨event,hevent,rfl⟩ := Checks.map_ok.mp h
        rw [hevent]
        rfl
      · intro h
        cases events with
        | nil => cases h
        | cons event events =>
          obtain ⟨hevent,hnil⟩ := List.cons.inj h
          rw [hevent,List.map_eq_nil_iff.mp hnil.symm]
          rfl
  | _ =>
    cases events with
    | nil => exact ⟨fun _ => rfl,fun _ => rfl⟩
    | cons event events => exact ⟨fun h => (nomatch h),fun h => nomatch h⟩

variable (B receivedAt) in
theorem source_of_readReports (payload : Value) (hint : Option String) :
    ∃ source, ∀ event, .ok event ∈ readReports B receivedAt payload hint → event.source = source := by
  cases payload with
  | dict payload =>
    unfold readReports
    dsimp only
    cases envelope payload with
    | some alerts =>
      refine ⟨clip 256 "alertmanager",fun event hevent => ?_⟩
      obtain ⟨v,-,hv⟩ := List.mem_filterMap.mp hevent
      cases v with
      | dict alert =>
        obtain ⟨labels,-,h⟩ := Checks.bind_ok.mp (Option.some.inj hv)
        obtain ⟨annotations,-,h⟩ := Checks.bind_ok.mp h
        cases h
        rfl
      | _ => cases hv
    | none =>
      cases hreport : soleReport B receivedAt payload hint with
      | ok event =>
        refine ⟨event.source,fun e he => ?_⟩
        cases List.mem_singleton.mp he
        rfl
      | error failure => exact ⟨"",fun e he => nomatch List.mem_singleton.mp he⟩
  | _ => exact ⟨"",fun event hevent => absurd hevent List.not_mem_nil⟩

theorem members_or_ok {v : Value} : (∃ m, (v.or (.dict [])).members = .ok m) ↔ Fielded v := by
  unfold Value.or Fielded
  by_cases hv : v.truthy = true
  · rw [if_pos hv]
    cases v with
    | dict m => exact ⟨fun _ _ => rfl,fun _ => ⟨m,rfl⟩⟩
    | _ => exact ⟨fun ⟨m,hm⟩ => (nomatch hm),fun h => nomatch h hv⟩
  · rw [if_neg hv]
    exact ⟨fun _ h => absurd h hv,fun _ => ⟨[],rfl⟩⟩

theorem alertmanagerEvent_ok {alert : Members} : (∃ event, alertmanagerEvent B receivedAt alert payload = .ok event) ↔
      Fielded (get alert "labels") ∧ Fielded (get alert "annotations") := by
  rw [← members_or_ok,← members_or_ok]
  constructor
  · rintro ⟨event,h⟩
    obtain ⟨labels,hlabels,h⟩ := Checks.bind_ok.mp h
    obtain ⟨annotations,hannotations,-⟩ := Checks.bind_ok.mp h
    exact ⟨⟨labels,hlabels⟩,annotations,hannotations⟩
  · rintro ⟨⟨labels,hlabels⟩,annotations,hannotations⟩
    exact ⟨_,Checks.bind_ok.mpr ⟨labels,hlabels,Checks.bind_ok.mpr ⟨annotations,hannotations,rfl⟩⟩⟩

theorem soleReport_ok {hint : Option String} : (∃ event, soleReport B receivedAt payload hint = .ok event) ↔
    (isUptimeKuma payload = true → Fielded (get payload "heartbeat") ∧ Fielded (get payload "monitor")) := by
  unfold soleReport
  by_cases hkuma : isUptimeKuma payload = true
  · rw [if_pos hkuma,forall_prop_of_true hkuma,← members_or_ok,← members_or_ok]
    constructor
    · rintro ⟨event,h⟩
      obtain ⟨heartbeat,hheartbeat,h⟩ := Checks.bind_ok.mp h
      obtain ⟨monitor,hmonitor,-⟩ := Checks.bind_ok.mp h
      exact ⟨⟨heartbeat,hheartbeat⟩,monitor,hmonitor⟩
    · rintro ⟨⟨heartbeat,hheartbeat⟩,monitor,hmonitor⟩
      exact ⟨_,Checks.bind_ok.mpr ⟨heartbeat,hheartbeat,Checks.bind_ok.mpr ⟨monitor,hmonitor,rfl⟩⟩⟩
  · rw [if_neg hkuma]
    exact ⟨fun _ h => absurd h hkuma,fun _ => ⟨_,rfl⟩⟩

end

section

variable {payload : Value} {hint : Option String}

theorem exists_map_ok {α ε : Type} {l : List (Except ε α)} :
    (∃ l' : List α, l = l'.map .ok) ↔ ∀ x ∈ l, ∃ a, x = .ok a := by
  induction l with
  | nil => exact ⟨fun _ x hx => absurd hx List.not_mem_nil,fun _ => ⟨[],rfl⟩⟩
  | cons x l ih =>
    rw [List.forall_mem_cons,← ih]
    constructor
    · rintro ⟨l',h⟩
      cases l' with
      | nil => cases h
      | cons a l' =>
        obtain ⟨hx,hl⟩ := List.cons.inj h
        exact ⟨⟨a,hx⟩,l',hl⟩
    · rintro ⟨⟨a,rfl⟩,l',rfl⟩
      exact ⟨a :: l',rfl⟩

theorem normalizePayload_returns :
    (∃ events, normalizePayload B receivedAt payload hint = .ok events) ↔ Shaped payload := by
  rw [exists_congr fun _ => normalizePayload_ok,exists_map_ok]
  cases payload with
  | dict payload =>
    unfold readReports Shaped
    dsimp only
    cases envelope payload with
    | some alerts =>
      constructor
      · intro h alert halert
        exact alertmanagerEvent_ok.mp (h _ (List.mem_filterMap.mpr ⟨_,halert,rfl⟩))
      · intro h x hx
        obtain ⟨v,hv,hx⟩ := List.mem_filterMap.mp hx
        cases v with
        | dict alert =>
          rw [← Option.some.inj hx]
          exact alertmanagerEvent_ok.mpr (h alert hv)
        | _ => cases hx
    | none => exact (List.forall_mem_singleton).trans soleReport_ok
  | _ => exact ⟨fun _ => trivial,fun _ x hx => absurd hx List.not_mem_nil⟩

variable (B receivedAt) in
theorem readReports_append (payload : Value) (hint : Option String) :
    ∃ rest, reports B receivedAt payload hint = readReports B receivedAt payload hint ++ rest ∧
      (rest = [] ↔ Whole payload) := by
  cases payload with
  | dict payload =>
    unfold readReports reports Whole
    dsimp only
    cases envelope payload with
    | some alerts =>
      refine ⟨reportsOf B receivedAt payload (alerts.drop maxEventsPerRequest),?_,?_⟩
      · dsimp only [reportsOf]
        rw [← List.filterMap_append,List.take_append_drop]
      · unfold reportsOf
        rw [List.filterMap_eq_nil_iff]
        constructor
        · rintro h _ ⟨⟩ v hv
          have hv := h v hv
          cases v with
          | dict alert => cases hv
          | _ => rfl
        · intro h v hv
          have hv := h alerts rfl v hv
          cases v with
          | dict alert => cases hv
          | _ => rfl
    | none => exact ⟨[],rfl,fun _ _ h => (nomatch h),fun _ => rfl⟩
  | _ => exact ⟨[],rfl,fun _ => trivial,fun _ => rfl⟩

end
end Arbora.Gateway
