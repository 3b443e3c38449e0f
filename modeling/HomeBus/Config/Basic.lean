import HomeBus.Connection
import HomeBus.Toml.Decode
import HomeBus.Toml.Document

/-!
# Configuration

What a client is configured with: the broker it talks to, how its requests behave and what it logs.
Every setting has a default. A configuration is read from a TOML document, section by section, and
is valid if its port and timeout are not zero and its delivery guarantee exists.
-/

namespace HomeBus

/-- How log lines are written. -/
inductive LogFormat where
  | pretty
  | json
  deriving DecidableEq, Repr

namespace LogFormat

def tag : LogFormat → String
  | .pretty => "pretty"
  | .json => "json"

/-- The formats with their names. -/
def known : List (String × LogFormat) := [("pretty", .pretty), ("json", .json)]

def ofTag? (text : String) : Option LogFormat := Entries.get? text known

end LogFormat

/-- The broker and how to connect to it. Models `BrokerConfig` with `BrokerConfig::default`. -/
structure BrokerSettings where
  host : String := "localhost"
  port : UInt16 := 1883
  keepaliveSecs : UInt64 := 60
  clientId : Option String := none
  qos : UInt8 := 1
  deriving DecidableEq

/-- How requests are answered. Models `RequestConfig` with `RequestConfig::default`. -/
structure RequestSettings where
  timeoutSecs : UInt64 := 60
  /-- A reply must carry the `corid` of its request. -/
  matchByCorrelationId : Bool := false
  /-- Outgoing envelopes carry a `corid`. -/
  emitCorid : Bool := false
  deriving DecidableEq

/-- What is logged. Models `LoggingConfig` with `LoggingConfig::default`. -/
structure LoggingSettings where
  /-- The filter directives that hold when the environment gives none. -/
  level : String := "info"
  format : LogFormat := .pretty
  deriving DecidableEq

/-- A client's configuration. Models `FimpConfig`. -/
structure Config where
  broker : BrokerSettings := {}
  requests : RequestSettings := {}
  logging : LoggingSettings := {}
  deriving DecidableEq

namespace BrokerSettings

/-- How to connect to the broker. Models `BrokerConfig::connect_options`. -/
def connectOptions (b : BrokerSettings) : ConnectOptions :=
  { host := b.host, port := b.port, keepaliveSecs := b.keepaliveSecs, clientId := b.clientId }

def toml : Toml.Section BrokerSettings where
  title := "struct BrokerConfig"
  keys := [
    .to "host" .text fun b host => { b with host },
    .to "port" .uint16 fun b port => { b with port },
    .to "keepalive_secs" .uint64 fun b keepaliveSecs => { b with keepaliveSecs },
    .to "client_id" .text fun b clientId => { b with clientId := some clientId },
    .to "qos" .uint8 fun b qos => { b with qos }]
  defaults := {}

end BrokerSettings

def RequestSettings.toml : Toml.Section RequestSettings where
  title := "struct RequestConfig"
  keys := [
    .to "timeout_secs" .uint64 fun r timeoutSecs => { r with timeoutSecs },
    .to "match_by_correlation_id" .bool fun r matchByCorrelationId =>
      { r with matchByCorrelationId },
    .to "emit_corid" .bool fun r emitCorid => { r with emitCorid }]
  defaults := {}

def LoggingSettings.toml : Toml.Section LoggingSettings where
  title := "struct LoggingConfig"
  keys := [
    .to "level" .text fun l level => { l with level },
    .to "format" (.oneOf LogFormat.known) fun l format => { l with format }]
  defaults := {}

namespace Config

/-- The sections of a document. -/
def toml : Toml.Section Config where
  title := "a configuration"
  keys := [
    .to "broker" BrokerSettings.toml.decode fun c broker => { c with broker },
    .to "requests" RequestSettings.toml.decode fun c requests => { c with requests },
    .to "logging" LoggingSettings.toml.decode fun c logging => { c with logging }]
  defaults := {}

/-- Refuses settings that no client can work with; the first fault in this order is reported. Models
    `FimpConfig::validate`. -/
def validate (c : Config) : Except Error Unit := do
  if c.broker.port = 0 then .error (.config .zeroPort)
  let _ ← QoS.ofLevel c.broker.qos
  if c.requests.timeoutSecs = 0 then .error (.config .zeroTimeout)

/-- The valid configuration that the entries of a document describe. -/
def ofTable (entries : List (String × Toml)) : Except Error Config :=
  match toml.readTable entries with
  | .error cause => .error (.config (.document cause))
  | .ok c => do
    c.validate
    return c

/-- The valid configuration that a document describes. Models `FimpConfig::from_toml_str`. -/
def ofText (text : String) : Except Error Config :=
  match Toml.parse text with
  | .error cause => .error (.config (.document cause))
  | .ok entries => ofTable entries

end Config

end HomeBus
