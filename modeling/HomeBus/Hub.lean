import HomeBus.Error
import HomeBus.Topic

/-!
# The broker in memory

A hub connects any number of endpoints. An endpoint that connects opens a session, in place of the
one it had before; subscriptions belong to the session and end with it. A publication is put into
the mailbox of every session that subscribed to its topic, once each. Mailboxes outlive their
sessions: what was put there is delivered to the endpoint, in order, whatever becomes of the session.

An endpoint remembers its last session until it closes it. After a restart the hub knows none of the
sessions any more, and an endpoint notices only when it uses its own.
-/

namespace HomeBus

/-- A publication on its way to a session. -/
structure Delivery where
  topic : String
  payload : Bytes
  deriving DecidableEq

/-- What a hub knows of a connected client. -/
structure Session where
  id : Nat
  clientName : String
  filters : List String := []
  deriving DecidableEq

/-- The deliveries that a session has still to hand over to its endpoint. -/
structure Mailbox where
  session : Nat
  endpoint : Nat
  queue : List Delivery := []
  deriving DecidableEq

/-- A hub and what its endpoints remember. Models `MemoryBroker` with every `MemoryTransport` of
    it. -/
structure Hub where
  /-- Whether new connections are accepted. -/
  online : Bool := true
  /-- The identifier of the session that was opened last. -/
  lastId : Nat := 0
  sessions : List Session := []
  /-- The mailboxes of all sessions that were ever opened. -/
  mailboxes : List Mailbox := []
  /-- The session that each endpoint remembers. -/
  connection : Nat → Option Nat := fun _ => none

namespace Hub

def new : Hub := {}

/-- Accepts new connections, or refuses them. Models `MemoryBroker::set_online`. -/
def setOnline (hub : Hub) (online : Bool) : Hub := { hub with online }

/-- Drops all sessions. Models `MemoryBroker::restart`. -/
def restart (hub : Hub) : Hub := { hub with sessions := [] }

/-- How many sessions there are. Models `MemoryBroker::session_count`. -/
def sessionCount (hub : Hub) : Nat := hub.sessions.length

/-- Whether a session is there. Models `MemoryBroker::has_session`. -/
def hasSession (hub : Hub) (id : Nat) : Bool := hub.sessions.any fun session => session.id == id

/-- Changes the session that an endpoint remembers. -/
def setConnection (hub : Hub) (endpoint : Nat) (id : Option Nat) : Hub :=
  { hub with connection := fun e => if e = endpoint then id else hub.connection e }

/-- Ends a session, if it is still there. Models `MemoryBroker::close_session`. -/
def dropSession (hub : Hub) : Option Nat → Hub
  | some id => { hub with sessions := hub.sessions.filter fun session => session.id != id }
  | none => hub

/-- Why a connection is refused while the hub is not online. -/
def refusal : String := "broker is not accepting connections"

/-- Opens a session for an endpoint, which ends its previous one, and gives its identifier. Models
    `MemoryBroker::open_session` and `MemoryTransport::connect`. -/
def connect (hub : Hub) (endpoint : Nat) (clientName : String) : Hub × Except Error Nat :=
  if !hub.online then (hub, .error (.connect refusal))
  else
    let id := hub.lastId + 1
    let opened : Hub := { hub with
      lastId := id
      sessions := hub.sessions ++ [⟨id, clientName, []⟩]
      mailboxes := hub.mailboxes ++ [⟨id, endpoint, []⟩] }
    ((opened.dropSession (hub.connection endpoint)).setConnection endpoint (some id), .ok id)

/-- Ends the session of an endpoint. Models `MemoryTransport::close`. -/
def close (hub : Hub) (endpoint : Nat) : Hub :=
  (hub.dropSession (hub.connection endpoint)).setConnection endpoint none

/-- Whether the session that an endpoint remembers is still there. Models
    `MemoryTransport::is_connected`. -/
def isConnected (hub : Hub) (endpoint : Nat) : Bool := (hub.connection endpoint).any hub.hasSession

/-- Adds a filter to a session, once. -/
def addFilter (id : Nat) (filter : String) (session : Session) : Session :=
  if session.id = id && !session.filters.contains filter then
    { session with filters := session.filters ++ [filter] }
  else session

/-- Subscribes an endpoint's session to a topic filter. Models `MemoryBroker::subscribe` and
    `MemoryTransport::subscribe`. -/
def subscribe (hub : Hub) (endpoint : Nat) (filter : String) : Hub × Except Error Unit :=
  match hub.connection endpoint with
  | none => (hub, .error .notConnected)
  | some id =>
    if hub.hasSession id then
      ({ hub with sessions := hub.sessions.map (addFilter id filter) }, .ok ())
    else (hub, .error (.subscribe filter Error.notConnected.message))

/-- The sessions that a publication on a topic goes to. Models the condition in the loop of
    `MemoryBroker::publish`. -/
def reached (hub : Hub) (topic : String) : List Nat :=
  (hub.sessions.filter fun session => session.filters.any (Topic.selects · topic)).map Session.id

/-- Puts a delivery into the mailboxes of some sessions. Models the sending in the loop of
    `MemoryBroker::publish`. -/
def post (hub : Hub) (sessions : List Nat) (delivery : Delivery) : Hub :=
  { hub with
    mailboxes := hub.mailboxes.map fun mailbox =>
      if mailbox.session ∈ sessions then { mailbox with queue := mailbox.queue ++ [delivery] }
      else mailbox }

/-- Publishes for an endpoint, and gives the sessions that were reached. Models
    `MemoryBroker::publish` and `MemoryTransport::publish`. -/
def publish (hub : Hub) (endpoint : Nat) (topic : String) (payload : Bytes) :
    Hub × Except Error (List Nat) :=
  match hub.connection endpoint with
  | none => (hub, .error .notConnected)
  | some id =>
    if hub.hasSession id then
      (hub.post (hub.reached topic) ⟨topic, payload⟩, .ok (hub.reached topic))
    else (hub, .error (.publish topic Error.notConnected.message))

/-- The mailbox of a session. -/
def mailbox? (hub : Hub) (session : Nat) : Option Mailbox :=
  hub.mailboxes.find? fun mailbox => mailbox.session == session

/-- Takes the next delivery out of a session's mailbox, and gives it and its endpoint. Models one
    turn of the delivery task that `MemoryTransport::connect` spawns. -/
def deliver (hub : Hub) (session : Nat) : Hub × Option (Nat × Delivery) :=
  match hub.mailbox? session with
  | some { endpoint, queue := delivery :: rest, .. } =>
    ({ hub with
      mailboxes := hub.mailboxes.map fun mailbox =>
        if mailbox.session = session then { mailbox with queue := rest } else mailbox },
      some (endpoint, delivery))
  | _ => (hub, none)

end Hub

end HomeBus
