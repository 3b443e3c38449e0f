import HomeBus.Network.Schedule

/-!
# A bench for networks

Steps on one network whose parties, requests and receivers have names. After each step all tasks run
until every one waits; then `Bench.report` says what the parties saw and which requests ended.
-/

namespace HomeBus.Bench

/-- How the engine of a party is made. -/
inductive EngineMaker where
  /-- From a document. -/
  | document (text : String)
  /-- From a configuration that nobody looked at yet. -/
  | config (config : Config)
  /-- From its parts; a codec that refuses to encode takes the place of the usual one. -/
  | parts (qos : UInt8) (strict emitCorid : Bool) (defaultTimeout : Nat) (refusing : Bool)

/-- What a party works with on top of its endpoint. -/
inductive Equipment where
  | none
  | facade (qos : UInt8) (runtimeKnown : Bool)
  | engine (maker : EngineMaker)

/-- The endpoint of a new party. -/
inductive EndpointChoice where
  | new (kind : EndpointKind)
  /-- The one of another party. -/
  | shared (name : String)

/-- A request of a party. -/
structure RequestOrder where
  id : String
  topic : String
  message : Message
  responseTopic : String
  filter : ResponseFilter
  /-- How long it waits; without that, as long as the engine waits. -/
  timeout : Option Nat
  cancellable : Bool

/-- A responder of a party. -/
structure ResponderOrder where
  filter : MessageFilter
  topic : String
  delay : Nat
  replies : List Message
  echoService : Bool
  replyTo : Bool

/-- A step of one party. -/
inductive PartyStep where
  | connect (options : ConnectOptions)
  | close
  | subscribe (topic : String) (qos : Option UInt8)
  | publish (topic : String) (message : Message) (payload : Bytes) (qos : Option UInt8)
      (retain : Bool)
  | publishTo (address : Address) (message : Message)
  | facadeSubscribe (topic : String) (qos : Option UInt8)
  | facadePublish (topic : String) (payload : Bytes) (qos : Option UInt8)
  | handle (installed : Bool)
  | register (name : String) (filter : MessageFilter) (capacity : Nat)
  | unregister (name : String)
  | receive (name : String)
  | leave (name : String)
  | request (order : RequestOrder)
  | respond (order : ResponderOrder)
  | dropEngine
  | isConnected
  | isSubscribed (topic : String)
  | subscriptions
  | script (script : Script)
  | inject (topic : String) (payload : Bytes)
  | announce (announcement : Announcement) (dropEndpoint : Bool)

inductive Step where
  | advance (milliseconds : Nat)
  | setOnline (online : Bool)
  | restart
  | cancel (id : String)
  | drop (id : String)
  | add (name : String) (endpoint : EndpointChoice) (equipment : Equipment)
  | party (name : String) (step : PartyStep)

/-- What a step answers. -/
inductive Outcome where
  | nothing
  | flag (value : Bool)
  | result (result : Except Error Unit)
  | recorderAdded
  | facadeAdded (qos : QoS)
  | engineAdded (qos : QoS) (strict : Bool) (defaultTimeout : Nat)
  | started
  | received (received : Router.Received)
  | subscriptions (subscriptions : List Subscription)
  | unknownParty
  | unknownRequest
  | noEngine
  | noFacade
  | noReceiver
  | noCallback

structure State where
  net : Network
  /-- The names of the parties, in order. -/
  names : List String := []
  /-- The tasks of the requests; of requests with one name the last one counts. -/
  requests : List (String × Nat) := []
  /-- The channels of the parties' receivers. -/
  receivers : List ((Nat × String) × Nat) := []
  /-- The requests that were reported to have ended. -/
  reported : List Nat := []

namespace State

def new (mint : Nat → Identity) : State := { net := .new mint }

/-- The party of a name; of parties with one name the last one counts. -/
def party? (s : State) (name : String) : Option Nat :=
  (s.names.zipIdx.filter fun entry => entry.1 == name).getLast?.map Prod.snd

/-- The task of a request. -/
def request? (s : State) (id : String) : Option Nat :=
  (s.requests.filter fun entry => entry.1 == id).getLast?.map Prod.snd

/-! ## New parties -/

/-- A codec that writes nothing and reads JSON. -/
def refusingCodec : Codec where
  encode _ := .error (.codec (.refused "encode refused"))
  decode := Envelope.decode

/-- Makes an engine and says which delivery guarantee its facade asks for. -/
def makeEngine : EngineMaker → Except Error (Engine × QoS)
  | .document text => do
    let config ← Config.ofText text
    Engine.ofConfig config
  | .config config => Engine.ofConfig config
  | .parts qos strict emitCorid defaultTimeout refusing => do
    let qos ← QoS.ofLevel qos
    return (.new (if refusing then refusingCodec else .json emitCorid) strict defaultTimeout, qos)

/-- The endpoint of a new party. -/
def endpointFor (s : State) : EndpointChoice → Option (Network × Nat)
  | .new kind => some (s.net.addEndpoint kind s.net.parties.length)
  | .shared name =>
    ((s.party? name).bind s.net.party?).map fun party => (s.net, party.endpoint)

/-- Adds the name of the party that was added last. -/
def named (s : State) (name : String) (net : Network) : State :=
  { s with net, names := s.names ++ [name] }

def addParty (s : State) (name : String) (choice : EndpointChoice) (equipment : Equipment) :
    State × Outcome :=
  match s.endpointFor choice with
  | none => (s, .unknownParty)
  | some (net, endpoint) =>
    match equipment with
    | .none => (s.named name (net.addRecorder endpoint).1, .recorderAdded)
    | .facade qos runtimeKnown =>
      match QoS.ofLevel qos with
      | .error e => (s, .result (.error e))
      | .ok qos =>
        (s.named name (net.addFacade { endpoint, defaultQos := qos, runtimeKnown }).1,
          .facadeAdded qos)
    | .engine maker =>
      match makeEngine maker with
      | .error e => (s, .result (.error e))
      | .ok (engine, qos) =>
        (s.named name (net.addEngine { endpoint, defaultQos := qos } engine).1,
          .engineAdded qos engine.strict engine.defaultTimeout)

/-! ## Steps of a party -/

/-- Has a party perform an operation. -/
def perform (s : State) (party : Nat) (throughFacade : Bool) (operation : Operation) :
    State × Outcome :=
  match s.net.perform { party, throughFacade, operation } with
  | (net, some result) => ({ s with net }, .result result)
  | (net, none) => ({ s with net }, .nothing)

/-- Reads the delivery guarantee of a step. -/
def withQoS (s : State) (level : Option UInt8) (go : Option QoS → State × Outcome) :
    State × Outcome :=
  match level with
  | none => go none
  | some level =>
    match QoS.ofLevel level with
    | .ok qos => go (some qos)
    | .error e => (s, .result (.error e))

/-- Has a party's engine publish a message. -/
def publishMessage (s : State) (party : Nat) (engine : Engine) (topic : String) (m : Message) :
    State × Outcome :=
  match engine.codec.encode m with
  | .error e => (s, .result (.error e))
  | .ok payload => s.perform party true (.publish topic payload none false)

/-- Changes the engine of a party. -/
def updateEngine (s : State) (party : Nat) (engine : Engine) : State :=
  { s with net := s.net.setEngine party engine }

/-- Changes the channels of a party, which ends a responder that loses its own. -/
def updateRouter (s : State) (party : Nat) (engine : Engine) (router : Router) : State :=
  { s with net := (s.net.setEngine party { engine with router }).wakeResponders party }

def receiver? (s : State) (party : Nat) (name : String) : Option Nat :=
  (s.receivers.find? fun entry => entry.1 == (party, name)).map Prod.snd

/-- Lets a receiver of a party go, if there is one. -/
def release (s : State) (party : Nat) (name : String) : State :=
  { s with
    net := match s.receiver? party name with
      | some channel =>
        s.net.modifyEngine party fun e => { e with router := e.router.leave channel }
      | none => s.net
    receivers := s.receivers.filter fun entry => entry.1 != (party, name) }

/-- Lets a party's receiver look. A channel whose engine is gone is disconnected. -/
def receive (s : State) (party : Nat) (name : String) : State × Outcome :=
  match s.receiver? party name, s.net.engine? party with
  | some channel, some engine =>
    let (router, received) := engine.router.receive channel
    let received :=
      if received = .empty && !s.net.engineHeld party then .disconnected else received
    (s.updateEngine party { engine with router }, .received received)
  | _, _ => (s, .noReceiver)

/-- Starts a request. -/
def startRequest (s : State) (party : Nat) (engine : Engine) (order : RequestOrder) : State :=
  let task : RequestTask :=
    { party
      topic := order.topic
      message := order.message
      responseTopic := order.responseTopic
      filter := order.filter
      timeout := order.timeout.getD engine.defaultTimeout
      cancellable := order.cancellable }
  let (net, i) := s.net.spawn (.request task)
  { s with net, requests := s.requests ++ [(order.id, i)] }

/-- The name of the channel that a responder receives from. -/
def responderChannel : String := "responder"

/-- How many messages a responder's channel holds. -/
def responderCapacity : Nat := 64

/-- Starts a responder. -/
def startResponder (s : State) (party : Nat) (engine : Engine) (order : ResponderOrder) : State :=
  let (router, channel) := engine.router.register responderChannel order.filter responderCapacity
  let task : ResponderTask :=
    { party
      channel
      topic := order.topic
      delay := order.delay
      replies := order.replies
      echoService := order.echoService
      replyTo := order.replyTo }
  let s := s.updateRouter party engine router
  { s with net := (s.net.spawn (.responder task)).1 }

/-- Whether an endpoint follows a script. -/
def scripted (e : Endpoint) : Bool :=
  match e.kind with
  | .scripted _ => true
  | .memory => false

/-- Gives a scripted endpoint another script. -/
def setScript (script : Script) (e : Endpoint) : Endpoint :=
  if scripted e then { e with kind := .scripted script } else e

/-- Has a scripted endpoint announce a connection. -/
def announce (s : State) (party endpoint : Nat) (announcement : Announcement)
    (dropEndpoint : Bool) : State × Outcome :=
  match s.net.endpoint? endpoint with
  | some e =>
    if scripted e && e.onConnect.isSome then
      let net :=
        if dropEndpoint then
          s.net.modifyParty party fun p => { p with holdsEndpoint := false, holdsClient := false }
        else s.net
      ({ s with net := net.announce endpoint announcement }, .nothing)
    else (s, .noCallback)
  | none => (s, .noCallback)

/-- Has something arrive at a scripted endpoint. -/
def inject (s : State) (endpoint : Nat) (d : Delivery) : State × Outcome :=
  match s.net.endpoint? endpoint with
  | some e =>
    if scripted e && e.onMessage.isSome then ({ s with net := s.net.arrive endpoint d }, .nothing)
    else (s, .noCallback)
  | none => (s, .noCallback)

/-- A step that needs an engine. -/
def engineStep (s : State) (party : Nat) (engine : Engine) : PartyStep → State × Outcome
  | .publishTo address m => s.publishMessage party engine address.topic m
  | .handle installed =>
    (s.updateEngine party { engine with handling := installed }, .nothing)
  | .register name filter capacity =>
    let (router, channel) := engine.router.register name filter capacity
    let s := (s.updateRouter party engine router).release party name
    ({ s with receivers := s.receivers ++ [((party, name), channel)] }, .nothing)
  | .unregister name =>
    let (router, was) := engine.router.unregister name
    (s.updateRouter party engine router, .flag was)
  | .request order => (s.startRequest party engine order, .started)
  | .respond order => (s.startResponder party engine order, .nothing)
  | _ => (s, .nothing)

/-- Takes a step of a party, with its engine if it has one, else its facade, else its endpoint. -/
def partyStep (s : State) (i : Nat) (party : Party) (step : PartyStep) : State × Outcome :=
  let facade := if party.holdsClient then party.facade else none
  let engine := if party.holdsClient then party.engine else none
  let through := facade.isSome
  match step with
  | .connect options => s.perform i through (.connect options)
  | .close => s.perform i through .close
  | .subscribe topic qos =>
    if engine.isSome then s.perform i true (.subscribe topic none)
    else s.withQoS qos fun qos => s.perform i through (.subscribe topic qos)
  | .publish topic m payload qos retain =>
    match engine with
    | some engine => s.publishMessage i engine topic m
    | none => s.withQoS qos fun qos => s.perform i through (.publish topic payload qos retain)
  | .facadeSubscribe topic qos =>
    if through then s.withQoS qos fun qos => s.perform i true (.subscribe topic qos)
    else (s, .noFacade)
  | .facadePublish topic payload qos =>
    if through then s.withQoS qos fun qos => s.perform i true (.publish topic payload qos false)
    else (s, .noFacade)
  | .receive name => s.receive i name
  | .leave name => (s.release i name, .flag (s.receiver? i name).isSome)
  | .dropEngine =>
    ({ s with net := s.net.modifyParty i fun p => { p with holdsClient := false } }, .nothing)
  | .isConnected =>
    match s.net.endpoint? party.endpoint with
    | some e => (s, if scripted e then .nothing else .flag (s.net.hub.isConnected party.endpoint))
    | none => (s, .nothing)
  | .isSubscribed topic =>
    (s, match facade with
      | some f => .flag (f.isSubscribed topic)
      | none => .nothing)
  | .subscriptions =>
    (s, match facade with
      | some f => .subscriptions f.subscriptions
      | none => .nothing)
  | .script script =>
    ({ s with net := s.net.modifyEndpoint party.endpoint (setScript script) }, .nothing)
  | .inject topic payload => s.inject party.endpoint ⟨topic, payload⟩
  | .announce announcement dropEndpoint =>
    s.announce i party.endpoint announcement dropEndpoint
  | step =>
    match engine with
    | some engine => s.engineStep i engine step
    | none => (s, .noEngine)

/-! ## Steps -/

/-- Takes a step. -/
def takeStep (s : State) : Step → State × Outcome
  | .advance milliseconds => ({ s with net := s.net.advance milliseconds }, .nothing)
  | .setOnline online => ({ s with net := s.net.step (.setOnline online) }, .nothing)
  | .restart => ({ s with net := s.net.step .restart }, .nothing)
  | .cancel id =>
    match s.request? id with
    | some i =>
      let (net, taken) := s.net.cancel i
      ({ s with net }, .flag taken)
    | none => (s, .flag false)
  | .drop id =>
    match s.request? id with
    | some i => ({ s with net := (s.net.drop i).1 }, .nothing)
    | none => (s, .unknownRequest)
  | .add name choice equipment => s.addParty name choice equipment
  | .party name step =>
    match s.party? name with
    | none => (s, .unknownParty)
    | some i =>
      match s.net.party? i with
      | none => (s, .unknownParty)
      | some party => s.partyStep i party step

/-- The result of a request that ended. -/
def resultOf? (s : State) (i : Nat) : Option (Except Error (Option Message)) :=
  match s.net.tasks[i]? with
  | some (.request { state := .finished result, .. }) => some result
  | _ => none

/-- What happened in a step. -/
structure Report where
  outcome : Outcome
  /-- What the parties saw, party by party. -/
  events : List (String × Event)
  /-- The requests that ended. -/
  ended : List (String × Except Error (Option Message))
  /-- How many requests are pending at each engine. -/
  pending : List (String × Nat)
  sessions : Nat
  clock : Nat

/-- The parties with their names. -/
def namedParties (s : State) : List (String × Nat) := s.names.zipIdx

/-- What the parties saw since the log was emptied. -/
def events (s : State) : List (String × Event) :=
  s.namedParties.flatMap fun (name, i) =>
    (s.net.log.filter fun entry => entry.1 == i).map fun entry => (name, entry.2)

/-- How many requests are pending at the engine of a party that holds one. -/
def pendingOf? (s : State) (entry : String × Nat) : Option (String × Nat) := do
  let party ← s.net.party? entry.2
  let engine ← if party.holdsClient then party.engine else none
  return (entry.1, engine.pending.size)

/-- Takes a step, runs all tasks until every one waits, and reports. -/
def step (s : State) (step : Step) : State × Report :=
  let (s, outcome) := s.takeStep step
  let s := { s with net := s.net.settle }
  let fresh := s.requests.filter fun entry => !s.reported.contains entry.2
  let ended := fresh.filterMap fun entry =>
    (s.resultOf? entry.2).map fun result => (entry, result)
  let report : Report :=
    { outcome
      events := s.events
      ended := ended.map fun (entry, result) => (entry.1, result)
      pending := s.namedParties.filterMap s.pendingOf?
      sessions := s.net.hub.sessionCount
      clock := s.net.clock }
  ({ s with
    net := { s.net with log := [] }
    reported := s.reported ++ ended.map fun (entry, _) => entry.2 }, report)

end State

end HomeBus.Bench
