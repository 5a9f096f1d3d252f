import SplitTest.Registry

/-! Exposures: events that tell that someone was shown a variant, and who is told of them. -/
namespace SplitTest

/-- Whether a value counts as none given. -/
def Value.isBlank : Value → Bool
  | .null => true
  | .bool b => !b
  | .int n => n == 0
  | .float x => x.eq (.ofInt 0)
  | .text s => s == ""
  | .list items => items.isEmpty
  | .object entries => entries.isEmpty
  | _ => false

/-- What a caller tells of an exposure. Values are kept as they are given. -/
structure ExposureEvent where
  variantName : Value
  isOverride : Value
  id : Value
  correlationId : Value
  deviceId : Value
  userId : Value
  loggedIn : Value
  cookieCreatedAt : Value
  oauthClientId : Value
  clientTimestamp : Value
  appName : Value
  sessionId : Value
  eventType : Value
deriving Repr

namespace ExposureEvent

def blank : ExposureEvent :=
  { variantName := .text ""
    isOverride := .bool false
    id := .null
    correlationId := .null
    deviceId := .null
    userId := .text ""
    loggedIn := .null
    cookieCreatedAt := .null
    oauthClientId := .text ""
    clientTimestamp := .null
    appName := .text ""
    sessionId := .text ""
    eventType := .text "" }

/-- An event with one field changed; the experiment is taken from the manifest in any case. An
unknown field is given back by its name. -/
def setField (e : ExposureEvent) (name : String) (v : Value) : Except String ExposureEvent :=
  match name with
  | "variant_name" => .ok { e with variantName := v }
  | "is_override" => .ok { e with isOverride := v }
  | "experiment" => .ok e
  | "id" => .ok { e with id := v }
  | "correlation_id" => .ok { e with correlationId := v }
  | "device_id" => .ok { e with deviceId := v }
  | "user_id" => .ok { e with userId := v }
  | "logged_in" => .ok { e with loggedIn := v }
  | "cookie_created_at" => .ok { e with cookieCreatedAt := v }
  | "oauth_client_id" => .ok { e with oauthClientId := v }
  | "client_timestamp" => .ok { e with clientTimestamp := v }
  | "app_name" => .ok { e with appName := v }
  | "session_id" => .ok { e with sessionId := v }
  | "event_type" => .ok { e with eventType := v }
  | _ => .error name

def ofFields (fields : List (String × Value)) : Except String ExposureEvent :=
  fields.foldlM (fun e (name, v) => e.setField name v) blank

/-- The fields of an event by name, its experiment apart. -/
def fields (e : ExposureEvent) : List (String × Value) :=
  [("variant_name", e.variantName), ("is_override", e.isOverride), ("id", e.id),
    ("correlation_id", e.correlationId), ("device_id", e.deviceId), ("user_id", e.userId),
    ("logged_in", e.loggedIn), ("cookie_created_at", e.cookieCreatedAt),
    ("oauth_client_id", e.oauthClientId), ("client_timestamp", e.clientTimestamp),
    ("app_name", e.appName), ("session_id", e.sessionId), ("event_type", e.eventType)]

/-- The type of events that have none of their own. -/
def defaultType : Value := .text "EXPOSE"

/-- An event as it is told, always with a type. -/
def withType (e : ExposureEvent) : ExposureEvent :=
  { e with eventType := if e.eventType.isBlank then defaultType else e.eventType }

end ExposureEvent

/-- An event as it is told: with the configuration of its experiment, and with what the caller
hands on. -/
structure Exposure where
  event : ExposureEvent
  experiment : Configuration
  context : Value
deriving Repr

inductive ExposureLog where
  | missing
  /-- Keeps the exposures in the order in which they are told. -/
  | recording (exposures : List Exposure)
  /-- Refuses every exposure with a message. -/
  | failing (message : String)
deriving Repr

inductive ExposureError where
  | unknownExperiment (name : String)
  | noLog
  | refused (message : String)
deriving DecidableEq, Repr

def ExposureError.message : ExposureError → String
  | unknownExperiment name => (RegistryError.unknownExperiment name).message
  | noLog => "no event logger configured to expose experiments"
  | refused message => message

/-- The exposure of an event, told if the experiment is known and there is someone to tell. -/
def ExposureLog.expose (log : ExposureLog) (m : Manifest) (name : String) (event : ExposureEvent)
    (context : Value) : Except ExposureError Exposure × ExposureLog :=
  match m.find? name with
  | none => (.error (.unknownExperiment name), log)
  | some config =>
    match log with
    | .missing => (.error .noLog, log)
    | .failing message => (.error (.refused message), log)
    | .recording exposures =>
      let exposure := ⟨event.withType, config, context⟩
      (.ok exposure, .recording (exposures ++ [exposure]))

end SplitTest
