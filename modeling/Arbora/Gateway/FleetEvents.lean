import Arbora.Lib.Asking
import Arbora.Lib.Pool
import Arbora.Lib.Dict
import Arbora.Invoke.Values
import Arbora.Scaling.IntentRecords

/-! The webhook by which monitoring systems report events of the fleet: what a payload is normalized to, and what is
done with its events before the sender is answered. -/
namespace Arbora.Gateway
open Interaction

inductive Failure where
  | attributeError (name : String)
  | typeError
  /-- whatever else the environment raises -/
  | other (text : String)

/-- What `json.loads` returns. -/
inductive Value where
  | null
  | bool (b : Bool)
  | int (i : ℤ)
  | float (x : Invoke.PyFloat)
  | str (s : String)
  | list (items : List Value)
  | dict (members : List (String × Value))

abbrev Members := List (String × Value)

namespace Value

def truthy : Value → Bool
  | .null => false
  | .bool b => b
  | .int i => i ≠ 0
  | .float (.finite _ q) => q ≠ 0
  | .float _ => true
  | .str s => s ≠ ""
  | .list items => !items.isEmpty
  | .dict members => !members.isEmpty

def isDict : Value → Bool
  | .dict _ => true
  | _ => false

def or (x y : Value) : Value := if x.truthy then x else y

/-- What has a method `get`. -/
def members : Value → Except Failure Members
  | .dict members => .ok members
  | _ => .error (.attributeError "get")

end Value

def get (values : Members) (key : String) : Value := ((values.find? fun m => m.1 = key).map Prod.snd).getD .null
def has (values : Members) (key : String) : Bool := values.any fun m => m.1 = key
def firstValue (values : Members) (keys : List String) : Value :=
  ((keys.map (get values)).find? Value.truthy).getD (.str "unknown")

structure FleetEvent where
  (source severity subject status summary : String)
  raw : Value
  receivedAt : String

/-- What is not under the program's control but of a value alone: `str` and `json.dumps` of JSON, `lower`, the opaque
references of the rate counters and of the graph, and the reader of bodies. -/
structure Builtins where
  (str dumps : Value → String)
  lower : String → String
  ephemeralSourceRef : String → Except Failure String
  persistenceReference : String → String → String → Except Failure String
  loads : List UInt8 → Except Failure Value

variable (B : Builtins)

section

def maxEventsPerRequest : ℕ := 256

def Builtins.text : Value → String
  | .str s => s
  | v => B.str v

def clip (n : ℕ) (text : String) : String := String.ofList (text.toList.take n)
def folded (text : String) : String := B.lower (Scaling.strip text)

def severityMap : List (String × String) := [
  ("critical","critical"),("fatal","critical"),("emergency","critical"),("page","critical"),("error","error"),
  ("major","error"),("warning","warning"),("warn","warning"),("minor","warning"),("info","info"),
  ("information","info"),("ok","info"),("none","info")]

def normalizeSeverity (raw : Value) (default : String) : String :=
  (severityMap.lookup (folded B (B.text (raw.or (.str ""))))).getD default

def fleetEvent (source severity subject status summary : String) (raw : Value) (receivedAt : String) : FleetEvent where
  source := clip 256 source
  severity := normalizeSeverity B (.str severity) "info"
  subject := clip 1024 subject
  status := clip 64 status
  summary := clip 4096 summary
  raw
  receivedAt

variable (receivedAt : String)

def isUnknown : Value → Bool
  | .str "unknown" => true
  | _ => false

def alertmanagerEvent (alert payload : Members) : Except Failure FleetEvent := do
  let labels ← ((get alert "labels").or (.dict [])).members
  let annotations ← ((get alert "annotations").or (.dict [])).members
  let status := B.text (((get alert "status").or (get payload "status")).or (.str "firing"))
  let severity := normalizeSeverity B (get labels "severity") "warning"
  let summary := firstValue annotations ["summary","description"]
  return fleetEvent B "alertmanager" (if status = "resolved" then "info" else severity)
    (B.text (firstValue labels ["service","instance","job","alertname"])) status
    (B.text (if isUnknown summary then (get labels "alertname").or (.str "alert") else summary)) (.dict alert) receivedAt

/-- `_alertmanager_event`; what is no alert is passed over. -/
def alertEvent (payload : Members) : Value → Except Failure (Option FleetEvent)
  | .dict alert => some <$> alertmanagerEvent B receivedAt alert payload
  | _ => .ok none

def normalizeAlertmanager (payload : Members) (alerts : List Value) : Except Failure (List FleetEvent) :=
  List.reduceOption <$> (alerts.take maxEventsPerRequest).mapM (alertEvent B receivedAt payload)

/-- The heartbeat's status code; a truth value is an integer. -/
def kumaStatus : Value → String
  | .int 0 | .bool false => "down"
  | .int 1 | .bool true => "up"
  | .int 2 => "pending"
  | .int 3 => "maintenance"
  | _ => "unknown"

def normalizeUptimeKuma (payload : Members) : Except Failure FleetEvent := do
  let heartbeat ← ((get payload "heartbeat").or (.dict [])).members
  let monitor ← ((get payload "monitor").or (.dict [])).members
  let status := kumaStatus (get heartbeat "status")
  let subject := ((get monitor "name").or (get monitor "url")).or (.str "unknown")
  let summary := ((get payload "msg").or (get heartbeat "msg")).or (.str ("monitor " ++ status))
  return fleetEvent B "uptime-kuma" (if status = "down" then "critical" else "info") (B.text subject) status
    (B.text summary) (.dict payload) receivedAt

def normalizeGeneric (payload : Members) (sourceHint : Option String) : FleetEvent :=
  let source := B.text (((sourceHint.elim .null .str : Value).or (get payload "source")).or (.str "generic"))
  let subject := firstValue payload ["service","subject","name","host"]
  let summary := firstValue payload ["summary","message","msg"]
  fleetEvent B source (normalizeSeverity B (get payload "severity") "info") (B.text subject)
    (B.text ((get payload "status").or (.str "unknown")))
    (if isUnknown summary then clip 200 (B.dumps (.dict payload)) else B.text summary) (.dict payload) receivedAt

def envelope (payload : Members) : Option (List Value) :=
  match get payload "alerts" with
  | .list alerts => if has payload "receiver" || has payload "version" || has payload "groupKey" then some alerts else none
  | _ => none

def isUptimeKuma (payload : Members) : Bool := (get payload "heartbeat").isDict || (get payload "monitor").isDict

def normalizePayload (payload : Value) (sourceHint : Option String) : Except Failure (List FleetEvent) :=
  match payload with
  | .dict payload =>
    match envelope payload with
    | some alerts => normalizeAlertmanager B receivedAt payload alerts
    | none =>
      if isUptimeKuma payload then (fun event => [event]) <$> normalizeUptimeKuma B receivedAt payload
      else .ok [normalizeGeneric B receivedAt payload sourceHint]
  | _ => .ok []

end

/-- The properties of a `FleetEvent` node, with those that `_correlation_stamp` adds. -/
structure Node where
  (sourceType sourceRef severity subject subjectRef status summaryRef receivedAt : String)
  triageStatus : String
  stamp : List (String × String)

/-- What a request asks of its environment; calls for an event carry its place. -/
inductive Call where
  | clock
  /-- the locked section on the rate counters -/
  | count (minute : ℕ) (sourceRef : String) (n : ℕ)
  | engine
  | uuid (i : ℕ)
  | correlationStamp (i : ℕ)
  | addNode (i : ℕ) (event : FleetEvent) (eventId : String) (node : Node)
  /-- whether the engine has a callable `submit_task` -/
  | submitter (i : ℕ)
  | submitTask (i : ℕ) (eventId sourceType : String)

/-- When the engine was given a node, and what the caller is told. -/
structure Written where
  time : ℕ
  outcome : Except Failure Unit

@[reducible] def Call.Result : Call → Type
  | .clock => ℕ
  | .count _ _ _ => Bool
  | .engine => Bool
  | .uuid _ => String
  | .correlationStamp _ => List (String × String)
  | .addNode _ _ _ _ => Written
  | .submitter _ => Bool
  | .submitTask _ _ _ => Except Failure (Option String)

abbrev Step (α : Type) := Prog Call Call.Result Failure α

/-- What a program returns, or nothing if it raises. -/
def attempt {α : Type} (p : Step α) : Step (Option α) := (p.bind fun a => .ret (some a)).handle fun _ => .ret none

def sourceType (source : String) : String :=
  if folded B source ∈ ["alertmanager","uptime-kuma","portainer"] then folded B source else "generic"

def references (event : FleetEvent) : Except Failure (String × String × String) := do
  let source ← B.persistenceReference "fleet_source" event.source "fleet-event"
  let subject ← B.persistenceReference "fleet_subject" event.subject (sourceType B event.source)
  let summary ← B.persistenceReference "fleet_summary" event.summary (sourceType B event.source)
  return (source,subject,summary)

def node (event : FleetEvent) (refs : String × String × String) (stamp : List (String × String)) : Node where
  sourceType := sourceType B event.source
  sourceRef := refs.1
  severity := event.severity
  subject := event.subject
  subjectRef := refs.2.1
  status := event.status
  summaryRef := refs.2.2
  receivedAt := event.receivedAt
  triageStatus := "pending"
  stamp

def persistEvent (i : ℕ) (event : FleetEvent) : Step String := do
  let unique ← (Prog.ask (Call.uuid i) : Step String)
  let refs ← Prog.ofExcept (references B event)
  let stamp ← (Prog.ask (Call.correlationStamp i) : Step (List (String × String)))
  let eventId := "fleet_event:" ++ unique
  Prog.call (Call.addNode i event eventId (node B event refs stamp)) fun written =>
    Prog.ofExcept written.outcome >>= fun _ => return eventId

def enqueueTriage (i : ℕ) (eventId : String) (event : FleetEvent) : Step (Option String) := do
  if ← (Prog.ask (Call.submitter i) : Step Bool) then
    Prog.call (Call.submitTask i eventId (sourceType B event.source)) Prog.ofExcept
  else return none

structure Record where
  eventId : String
  jobId : Option String
  (source severity : String)

def acceptEvent (i : ℕ) (event : FleetEvent) : Step (Option Record) := do
  match ← attempt (persistEvent B i event) with
  | none => return none
  | some eventId =>
    let jobId ← attempt (enqueueTriage B i eventId event)
    return some ⟨eventId,jobId.join,sourceType B event.source,event.severity⟩

/-- The records of the events that are accepted, the first of which is in place `i`. -/
def acceptEvents : ℕ → List FleetEvent → Step (List Record)
  | _, [] => return []
  | i, event :: events => do
    let record ← acceptEvent B i event
    let records ← acceptEvents (i+1) events
    return record.toList ++ records

def stormCapped (source : String) (n : ℕ) : Step Bool := do
  let now ← (Prog.ask Call.clock : Step ℕ)
  let sourceRef ← Prog.ofExcept (B.ephemeralSourceRef source)
  (Prog.ask (Call.count (now/60) sourceRef n) : Step Bool)

inductive Body where
  | error (message : String)
  | accepted (records : List Record)

structure Response where
  status : ℕ
  body : Body

def refusal (status : ℕ) (message : String) : Response := ⟨status,.error message⟩
def acceptedResponse (accepted : List Record) : Response := ⟨if accepted.isEmpty then 500 else 200,.accepted accepted⟩

def eventRequestError : List FleetEvent → Step (Option Response)
  | [] => return some (refusal 400 "no events recognized in payload")
  | event :: events => do
    if ← stormCapped B event.source (event :: events).length then
      return some (refusal 429 "event storm: per-source cap (120/min) exceeded")
    else return none

structure Settings where
  fleetEventsTokenRef : Option String
  maxUploadSize : ℤ

/-- A request with what it meets before the engine: the settings, the secrets client, the actor and the clock's text. -/
structure Request where
  settings : Except Failure Settings
  resolveRef : String → Except Failure (Option String)
  offeredToken : Option String
  actorAuthenticated : Except Failure Bool
  chunks : List (Except Failure (List UInt8))
  (sourceParam sourceHeader : Option String)
  receivedAt : String

section

variable (request : Request)

def resolveWebhookSecret (settings : Settings) : Except Failure (Option String) := do
  let reference := Scaling.strip (settings.fleetEventsTokenRef.getD "")
  if reference = "" then return none
  else
    match ← request.resolveRef reference with
    | none | some "" => .error (.other "fleet-events secret reference did not resolve")
    | some secret => return some secret

/-- `hmac.compare_digest` of texts -/
def compareDigest (offered required : String) : Except Failure Bool :=
  if (offered.toList ++ required.toList).all fun c => c.toNat < 128 then .ok (offered = required) else .error .typeError

/-- By the shared secret, where there is one, or by the identity of the caller. -/
def authenticated : Option String → Except Failure Bool
  | some required => compareDigest (request.offeredToken.getD "") required
  | none => .ok (request.actorAuthenticated.toOption.getD false)

def authenticateRequest (settings : Settings) : Except Failure (Option Response) :=
  match resolveWebhookSecret request settings with
  | .error _ => .ok (some (refusal 503 "webhook authentication unavailable"))
  | .ok required => do
    let authenticated ← authenticated request required
    return if authenticated then none else some (refusal 401 "authentication required")

def maxEventBodyBytes : ℤ := 16*1024*1024

def readBody (limit : ℤ) : List (Except Failure (List UInt8)) → List UInt8 → Except Response (List UInt8)
  | [], body => .ok body
  | .error _ :: _, _ => .error (refusal 400 "body must be JSON")
  | .ok chunk :: chunks, body =>
    if limit < ((body ++ chunk).length : ℤ) then .error (refusal 413 "request body is too large")
    else readBody limit chunks (body ++ chunk)

def readPayload (settings : Settings) : Except Response Value := do
  let body ← readBody (max 1 (min settings.maxUploadSize maxEventBodyBytes)) request.chunks []
  match B.loads body with
  | .ok payload => .ok payload
  | .error _ => .error (refusal 400 "body must be JSON")

def sourceHint : String :=
  clip 256 (match request.sourceParam,request.sourceHeader with
    | some "",header | none,header => header.getD ""
    | some param,_ => param)

end

def fleetEventsReceive (request : Request) : Step Response := do
  let settings ← Prog.ofExcept request.settings
  match ← Prog.ofExcept (authenticateRequest request settings) with
  | some refused => return refused
  | none =>
    match readPayload B request settings with
    | .error refused => return refused
    | .ok payload =>
      let events ← Prog.ofExcept (normalizePayload B request.receivedAt payload (some (sourceHint request)))
      match ← eventRequestError B events with
      | some refused => return refused
      | none =>
        if ← (Prog.ask Call.engine : Step Bool) then return acceptedResponse (← acceptEvents B 0 events)
        else return refusal 503 "knowledge-graph engine unavailable"

/-- The status that the sender sees: what is raised is answered by the server. -/
def statusSeen : Except Failure Response → ℕ
  | .ok response => response.status
  | .error _ => 500

def rateCapPerMinute : ℕ := 120

/-- `_rate_counters`: the minute of every source's counter, and what it has counted. -/
abbrev Counters := Dict String (ℕ × ℕ)

def dropStale (minute : ℕ) (counters : Counters) : Counters :=
  (counters.keys.filter fun key => (counters.get key).map Prod.fst ≠ some minute).foldl Dict.pop counters
def crowded (counters : Counters) : Bool := 4096 ≤ counters.keys.length

/-- The counters that are there for a source, of which there are not too many. -/
def room (minute : ℕ) (counters : Counters) : Counters :=
  if crowded counters then dropStale minute counters else counters

def inWindow (minute : ℕ) (window : Option (ℕ × ℕ)) : ℕ :=
  match window with
  | some (m,count) => if m = minute then count else 0
  | none => 0

/-- The locked section: whether events are one too many, and the counters it leaves. -/
def countEvents (counters : Counters) (minute : ℕ) (sourceRef : String) (n : ℕ) : Bool × Counters :=
  let kept := room minute counters
  if crowded counters && crowded kept && (kept.get sourceRef).isNone then (true,kept)
  else
    let count := inWindow minute (kept.get sourceRef)
    if rateCapPerMinute < count+n then (true,kept.set sourceRef (minute,count))
    else (false,kept.set sourceRef (minute,count+n))

structure Server where
  counters : Counters
  now : ℕ
  past : List ℕ

/-- After a call any time has passed, or the clock was set. -/
def Server.after (s : Server) (counters : Counters) (now : ℕ) : Server := ⟨counters,now,s.now :: s.past⟩

/-- The calls that are answered by something else than the server. -/
def Call.outside : Call → Bool
  | .clock | .count _ _ _ | .addNode _ _ _ _ => false
  | _ => true

inductive Serves : World Call Call.Result Server
  | clock (s : Server) (now : ℕ) : Serves s .clock s.now (s.after s.counters now)
  | count (s : Server) (minute : ℕ) (sourceRef : String) (n now : ℕ) :
    Serves s (.count minute sourceRef n) (countEvents s.counters minute sourceRef n).1
      (s.after (countEvents s.counters minute sourceRef n).2 now)
  | addNode (s : Server) (i : ℕ) (event : FleetEvent) (eventId : String) (node : Node) (outcome : Except Failure Unit)
    (now : ℕ) : Serves s (.addNode i event eventId node) ⟨s.now,outcome⟩ (s.after s.counters now)
  | outside (s : Server) {e : Call} (he : e.outside = true) (r : e.Result) (now : ℕ) :
    Serves s e r (s.after s.counters now)

def ingress {ι : Type} (requests : ι → Request) (now : ℕ) : Pool ι Call Call.Result Failure Response Server :=
  ⟨⟨∅,now,[]⟩,fun i => fleetEventsReceive B (requests i)⟩
end Arbora.Gateway
