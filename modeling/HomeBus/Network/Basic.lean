import HomeBus.Engine
import HomeBus.Facade
import HomeBus.Hub

/-!
# Networks

A network is one hub in memory, the endpoints around it, and the parties that use them, with a
clock that is moved from outside. Whatever takes time is a task; a task that waits says when it is
due. A network changes in small steps, which are functions on it: a delivery is handed over, a task
is polled, the clock moves.

Apart from endpoints of the hub there are scripted ones, which write down each call and answer as
their script says.
-/

namespace HomeBus

/-! ## Endpoints -/

/-- A request to an endpoint. Models the operations of `Transport`. -/
inductive Call where
  | connect (options : ConnectOptions)
  | subscribe (topic : String) (qos : QoS)
  | publish (topic : String) (payload : Bytes) (qos : QoS) (retain : Bool)
  | close
  deriving DecidableEq

/-- How a scripted endpoint tells of a new connection. -/
inductive Announcement where
  /-- Where the call was made, so that there is somewhere to run further work. -/
  | inline
  /-- From elsewhere, where there is nothing to run further work. -/
  | outside
  | silent
  deriving DecidableEq

/-- How a scripted endpoint answers a call. -/
structure Reaction where
  /-- It never answers. -/
  stall : Bool := false
  /-- After how many milliseconds it answers. -/
  delay : Nat := 0
  /-- Why it refuses. -/
  error : Option String := none
  deriving DecidableEq

/-- How a scripted endpoint answers each kind of call. -/
structure Script where
  connect : Reaction := {}
  subscribe : Reaction := {}
  publish : Reaction := {}
  close : Reaction := {}
  announcement : Announcement := .inline
  deriving DecidableEq

namespace Script

def reaction (s : Script) : Call → Reaction
  | .connect _ => s.connect
  | .subscribe _ _ => s.subscribe
  | .publish _ _ _ _ => s.publish
  | .close => s.close

end Script

/-- The error with which a call is refused. -/
def Call.refusal : Call → String → Error
  | .connect _, reason => .connect reason
  | .close, reason => .connect reason
  | .subscribe topic _, reason => .subscribe topic reason
  | .publish topic _ _ _, reason => .publish topic reason

inductive EndpointKind where
  /-- An endpoint of the hub. -/
  | memory
  | scripted (script : Script)
  deriving DecidableEq

/-- Who gets what arrives at an endpoint. -/
inductive Sink where
  /-- A party that only writes it down. -/
  | recorder (party : Nat)
  /-- A party's engine. -/
  | engine (party : Nat)
  deriving DecidableEq

structure Endpoint where
  kind : EndpointKind
  /-- The party that it was made for. -/
  owner : Nat
  onMessage : Option Sink := none
  /-- The party whose facade is told of new connections. -/
  onConnect : Option Nat := none
  deriving DecidableEq

/-- A call that was not answered yet. -/
structure Wait where
  /-- When the answer comes, if it ever does. -/
  due : Option Nat
  result : Except Error Unit
  /-- How a new connection is announced with the answer. -/
  announcement : Option Announcement

namespace Wait

/-- Whether the answer is there. -/
def isDue (w : Wait) (clock : Nat) : Bool := w.due.any (· ≤ clock)

end Wait

/-- How far a call has come. -/
inductive Progress where
  | done (result : Except Error Unit)
  | waiting (w : Wait)

/-! ## Tasks -/

/-- What a party does with its endpoint, directly or through its facade. -/
inductive Operation where
  | connect (options : ConnectOptions)
  | close
  | subscribe (topic : String) (qos : Option QoS)
  | publish (topic : String) (payload : Bytes) (qos : Option QoS) (retain : Bool)
  deriving DecidableEq

inductive OperationState where
  | fresh
  | waiting (w : Wait)
  | finished (result : Except Error Unit)

structure OperationTask where
  party : Nat
  throughFacade : Bool
  operation : Operation
  state : OperationState := .fresh

/-- Which replies a request accepts apart from their topic; empty conditions accept everything. -/
structure ResponseFilter where
  service : String := ""
  msgType : String := ""
  deriving DecidableEq

/-- Where a request stands that was registered. -/
inductive Stage where
  | subscribing (w : Wait)
  | publishing (w : Wait)
  | awaiting

/-- A request that was registered and is still under way. -/
structure Running where
  /-- The message with its identity. -/
  message : Message
  ticket : Ticket
  deadline : Nat
  stage : Stage

inductive RequestState where
  | fresh
  | running (r : Running)
  /-- A reply, nothing in time, or an error. -/
  | finished (result : Except Error (Option Message))
  | dropped

/-- A request with all that it was made with. Models a call of
    `CorrelationEngine::send_request_until`. -/
structure RequestTask where
  party : Nat
  topic : String
  message : Message
  responseTopic : String
  filter : ResponseFilter := {}
  /-- How long it waits, in milliseconds. -/
  timeout : Nat
  /-- Whether it can be cancelled. -/
  cancellable : Bool := false
  cancelled : Bool := false
  state : RequestState := .fresh

/-- The work of making subscriptions again on a new connection. Models the task that the connect
    callback of `TransportFacade::new` spawns. -/
structure ResubscriptionTask where
  endpoint : Nat
  wait : Option Wait := none
  rest : List Subscription

inductive ResponderState where
  | idle
  /-- Waits before it answers. -/
  | resting (due : Nat) (inbound : Inbound)
  | publishing (inbound : Inbound) (rest : List Message) (w : Wait)
  | ended

/-- Answers every message of a channel. -/
structure ResponderTask where
  party : Nat
  channel : Nat
  topic : String
  /-- How long it waits before it answers, in milliseconds. -/
  delay : Nat
  replies : List Message
  /-- The replies come from the service that was asked. -/
  echoService : Bool
  /-- The replies name the request. -/
  replyTo : Bool
  state : ResponderState := .idle

inductive Task where
  | operation (task : OperationTask)
  | request (task : RequestTask)
  | resubscription (task : ResubscriptionTask)
  | responder (task : ResponderTask)

/-- Whether a task keeps the engine of a party going. -/
def Task.usesEngine (party : Nat) : Task → Bool
  | .request task =>
    task.party == party &&
      match task.state with
      | .fresh | .running _ => true
      | .finished _ | .dropped => false
  | .responder task =>
    task.party == party &&
      match task.state with
      | .ended => false
      | .idle | .resting _ _ | .publishing _ _ _ => true
  | .operation _ | .resubscription _ => false

/-- Whether a task keeps an endpoint going. -/
def Task.usesEndpoint (endpoint : Nat) : Task → Bool
  | .resubscription task => task.endpoint == endpoint && (task.wait.isSome || task.rest ≠ [])
  | .operation _ | .request _ | .responder _ => false

/-! ## The network -/

/-- What a party saw. -/
inductive Event where
  | payload (topic : String) (payload : Bytes)
  | message (inbound : Inbound)
  | called (call : Call)
  deriving DecidableEq

/-- Someone with an endpoint, and perhaps a facade and an engine. -/
structure Party where
  endpoint : Nat
  facade : Option Facade := none
  engine : Option Engine := none
  /-- Whether the party still holds its endpoint. -/
  holdsEndpoint : Bool := true
  /-- Whether the party still holds its facade and its engine. -/
  holdsClient : Bool := true

/-- Something that can be run next. -/
inductive Job where
  /-- Hands over what is in a session's mailbox. -/
  | deliver (session : Nat)
  | poll (task : Nat)
  deriving DecidableEq

structure Network where
  /-- The identities that messages get, one after the other. -/
  mint : Nat → Identity
  minted : Nat := 0
  /-- The time in milliseconds. -/
  clock : Nat := 0
  hub : Hub := .new
  endpoints : List Endpoint := []
  parties : List Party := []
  tasks : List Task := []
  /-- What can be run, first come first served. -/
  ready : List Job := []
  /-- What the parties saw, in order. -/
  log : List (Nat × Event) := []

namespace Network

/-! ## Parts of a network -/

def endpoint? (net : Network) (endpoint : Nat) : Option Endpoint := net.endpoints[endpoint]?

def party? (net : Network) (party : Nat) : Option Party := net.parties[party]?

def facade? (net : Network) (party : Nat) : Option Facade := (net.party? party).bind Party.facade

def engine? (net : Network) (party : Nat) : Option Engine := (net.party? party).bind Party.engine

def modifyEndpoint (net : Network) (endpoint : Nat) (f : Endpoint → Endpoint) : Network :=
  { net with endpoints := net.endpoints.modify endpoint f }

def modifyParty (net : Network) (party : Nat) (f : Party → Party) : Network :=
  { net with parties := net.parties.modify party f }

def setEngine (net : Network) (party : Nat) (engine : Engine) : Network :=
  net.modifyParty party fun p => { p with engine := some engine }

def modifyEngine (net : Network) (party : Nat) (f : Engine → Engine) : Network :=
  net.modifyParty party fun p => { p with engine := p.engine.map f }

def modifyFacade (net : Network) (party : Nat) (f : Facade → Facade) : Network :=
  net.modifyParty party fun p => { p with facade := p.facade.map f }

def setTask (net : Network) (i : Nat) (task : Task) : Network :=
  { net with tasks := net.tasks.set i task }

/-- Writes down what a party saw. -/
def record (net : Network) (party : Nat) (event : Event) : Network :=
  { net with log := net.log ++ [(party, event)] }

/-- Puts a job at the end of those that can be run, unless it is there already. -/
def wake (net : Network) (job : Job) : Network :=
  if job ∈ net.ready then net else { net with ready := net.ready ++ [job] }

/-- Wakes the tasks of some kind, in order. -/
def wakeTasks (net : Network) (which : Task → Bool) : Network :=
  net.tasks.zipIdx.foldl (fun net entry => if which entry.1 then net.wake (.poll entry.2) else net) net

/-- Adds a task, which can be run at once, and gives its number. -/
def spawn (net : Network) (task : Task) : Network × Nat :=
  ({ net with tasks := net.tasks ++ [task] }.wake (.poll net.tasks.length), net.tasks.length)

/-- Whether anyone still holds the engine of a party. -/
def engineHeld (net : Network) (party : Nat) : Bool :=
  (net.party? party).any (fun p => p.holdsClient && p.engine.isSome) ||
    net.tasks.any (Task.usesEngine party)

/-- Whether a party holds an endpoint, itself or through what it holds. -/
def partyHolds (net : Network) (endpoint party : Nat) (p : Party) : Bool :=
  p.endpoint == endpoint &&
    (p.holdsEndpoint || (p.holdsClient && p.facade.isSome) || net.tasks.any (Task.usesEngine party))

/-- Whether anyone still holds an endpoint. -/
def endpointHeld (net : Network) (endpoint : Nat) : Bool :=
  (net.parties.zipIdx.any fun entry => net.partyHolds endpoint entry.2 entry.1) ||
    net.tasks.any (Task.usesEndpoint endpoint)

end Network

end HomeBus
