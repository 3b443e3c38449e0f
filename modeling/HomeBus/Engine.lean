import HomeBus.Config.Basic
import HomeBus.Envelope
import HomeBus.Pending
import HomeBus.Router

/-!
# Engines

An engine turns payloads into messages and hands each one to those who wait for it: to a pending
request that it answers, to the general handler, and to the channels that select it. A payload that
is no message is dropped.
-/

namespace HomeBus

/-- An engine apart from the facade that it uses. Models `EngineInner`. -/
structure Engine where
  codec : Codec
  /-- A reply must name the request that it answers. -/
  strict : Bool
  /-- How long a request waits when nothing else is said, in milliseconds. -/
  defaultTimeout : Nat
  pending : PendingTable := .empty
  router : Router := .empty
  /-- Whether the general handler is installed. -/
  handling : Bool := false

namespace Engine

/-- An engine with nothing registered yet. Models `CorrelationEngine::new`. -/
def new (codec : Codec) (strict : Bool) (defaultTimeout : Nat) : Engine :=
  { codec, strict, defaultTimeout }

/-- The engine of a configuration, and the delivery guarantee its facade asks for. Models
    `CorrelationEngine::from_config`. -/
def ofConfig (config : Config) : Except Error (Engine × QoS) := do
  config.validate
  let qos ← QoS.ofLevel config.broker.qos
  let requests := config.requests
  return (new (.json requests.emitCorid) requests.matchByCorrelationId
    (requests.timeoutSecs.toNat * 1000), qos)

/-- What an arriving payload led to. -/
structure Dispatched where
  engine : Engine
  /-- The waiter of the request that was answered. -/
  completed : Option Ticket := none
  /-- What the general handler was called with. -/
  handled : Option Inbound := none
  /-- The channels that took the message. -/
  channels : List Nat := []

/-- Hands a message to those who wait for it. Models `EngineInner::dispatch` for a payload that was
    decoded. -/
def accept (e : Engine) (topic : String) (m : Message) : Dispatched :=
  let inbound : Inbound := ⟨topic, .ofTopic topic, m⟩
  let (pending, completed) := e.pending.complete e.strict topic m
  let (router, channels) := e.router.route inbound
  { engine := { e with pending, router }
    completed
    handled := if e.handling then some inbound else none
    channels }

/-- Takes in a payload that arrived on a topic. Models `EngineInner::dispatch`. -/
def dispatch (e : Engine) (topic : String) (payload : Bytes) : Dispatched :=
  match e.codec.decode payload with
  | .ok m => e.accept topic m
  | .error _ => { engine := e }

end Engine

end HomeBus
