import HomeBus.Network.Request
import HomeBus.Network.Responder

/-!
# Steps of a network

All that can happen to a network once its parties are there, in the smallest steps: `Network.step`
takes one `Action`, and a run is a list of them in any order. The order in which the steps are taken
by themselves, first come first served, is laid down in `HomeBus.Network.Schedule`; there a reply is
looked at before a signal to cancel.
-/

namespace HomeBus

/-- A step of a network. -/
inductive Action where
  /-- A party starts an operation. -/
  | operate (task : OperationTask)
  /-- A party starts a request. -/
  | request (task : RequestTask)
  /--
  A task is run as far as it goes. A request whose reply and whose signal to cancel are both there
  ends by the one that is looked at first, which is left open.
  -/
  | poll (task : Nat) (cancelFirst : Bool)
  /-- The next delivery of a session is handed over. -/
  | deliver (session : Nat)
  /-- Time passes. -/
  | elapse (milliseconds : Nat)
  /-- A request is cancelled. -/
  | cancel (task : Nat)
  /-- A request is dropped. -/
  | drop (task : Nat)
  /-- The hub accepts new connections, or refuses them. -/
  | setOnline (online : Bool)
  /-- The hub drops all sessions. -/
  | restart

namespace Network

/-- Runs a task as far as it goes; of a request, `cancelFirst` says what is looked at first. -/
def poll (net : Network) (i : Nat) (cancelFirst : Bool) : Network :=
  match net.tasks[i]? with
  | none => net
  | some (.operation task) => net.pollOperation i task
  | some (.request task) => net.pollRequest i task cancelFirst
  | some (.resubscription task) => net.pollResubscription i task
  | some (.responder task) => net.pollResponder i task

/-- Drops a request; tells whether there is one. -/
def drop (net : Network) (i : Nat) : Network × Bool :=
  match net.tasks[i]? with
  | some (.request task) => (net.dropRequest i task, true)
  | _ => (net, false)

/-- Sends a request the signal to cancel; tells whether it took the signal. -/
def cancel (net : Network) (i : Nat) : Network × Bool :=
  match net.tasks[i]? with
  | some (.request task) => net.cancelRequest i task
  | _ => (net, false)

/-- Takes one step. -/
def step (net : Network) : Action → Network
  | .operate task => (net.spawn (.operation { task with state := .fresh })).1
  | .request task => (net.spawn (.request { task with cancelled := false, state := .fresh })).1
  | .poll i cancelFirst => net.poll i cancelFirst
  | .deliver session => net.deliver session
  | .elapse milliseconds => { net with clock := net.clock + milliseconds }
  | .cancel i => (net.cancel i).1
  | .drop i => (net.drop i).1
  | .setOnline online => { net with hub := net.hub.setOnline online }
  | .restart => { net with hub := net.hub.restart }

/-- Takes steps one after the other. -/
def run (net : Network) (actions : List Action) : Network := actions.foldl step net

/-! ## Endpoints and parties -/

/-- A network with nobody in it. -/
def new (mint : Nat → Identity) : Network := { mint }

/-- Adds an endpoint and gives its number. -/
def addEndpoint (net : Network) (kind : EndpointKind) (owner : Nat) : Network × Nat :=
  ({ net with endpoints := net.endpoints ++ [{ kind, owner }] }, net.endpoints.length)

/-- Adds a party and gives its number. -/
def addParty (net : Network) (party : Party) : Network × Nat :=
  ({ net with parties := net.parties ++ [party] }, net.parties.length)

/-- Adds a party that uses an endpoint directly and writes down what arrives. -/
def addRecorder (net : Network) (endpoint : Nat) : Network × Nat :=
  let (net, party) := net.addParty { endpoint }
  (net.modifyEndpoint endpoint fun e => { e with onMessage := some (.recorder party) }, party)

/-- Adds a party that uses an endpoint through a facade and writes down what arrives. Models
    `TransportFacade::new`. -/
def addFacade (net : Network) (facade : Facade) : Network × Nat :=
  let (net, party) := net.addParty { endpoint := facade.endpoint, facade := some facade }
  (net.modifyEndpoint facade.endpoint fun e =>
    { e with onMessage := some (.recorder party), onConnect := some party }, party)

/-- Adds a party with an engine on top of a facade. Models `CorrelationEngine::new`. -/
def addEngine (net : Network) (facade : Facade) (engine : Engine) : Network × Nat :=
  let (net, party) :=
    net.addParty { endpoint := facade.endpoint, facade := some facade, engine := some engine }
  (net.modifyEndpoint facade.endpoint fun e =>
    { e with onMessage := some (.engine party), onConnect := some party }, party)

end Network

end HomeBus
