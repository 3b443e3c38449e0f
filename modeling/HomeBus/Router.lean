import HomeBus.Address
import HomeBus.Topic

/-!
# Channels

A router hands arriving messages to named channels. Each channel has a filter and a queue of bounded
size; a message for a full queue is dropped. A name that is registered again keeps its place among
the others but gets a new channel. What is queued can still be received after a channel lost its
name. A channel whose receiver is gone loses its name when the next message for it arrives.
-/

namespace HomeBus

/-- A message and where it arrived. Models `InboundMessage`. -/
structure Inbound where
  topic : String
  address : Address
  message : Message
  deriving DecidableEq

/-- A bounded queue. -/
structure Channel where
  capacity : Nat
  queue : List Inbound := []
  /-- Whether someone still receives from it. -/
  hasReceiver : Bool := true
  deriving DecidableEq

/-- What becomes of a message that is offered to a channel. -/
inductive Offer where
  | taken
  | full
  | closed
  deriving DecidableEq

namespace Channel

/-- What becomes of the next message that is offered. Models the answer of `try_send` in
    `ChannelRouter::route`. -/
def offer (c : Channel) : Offer :=
  if !c.hasReceiver then .closed else if c.queue.length < c.capacity then .taken else .full

/-- Puts a message at the end of the queue. -/
def push (inbound : Inbound) (c : Channel) : Channel := { c with queue := c.queue ++ [inbound] }

/-- Takes the first message out of the queue. -/
def pop (c : Channel) : Channel := { c with queue := c.queue.tail }

/-- Lets the receiver go, with all that is queued. -/
def abandon (c : Channel) : Channel := { c with queue := [], hasReceiver := false }

end Channel

/-- A name for a channel, and which messages go there. -/
structure Route where
  name : String
  filter : MessageFilter
  /-- The place of the channel among all channels. -/
  channel : Nat
  deriving DecidableEq

/-- The named channels in order, and all channels that there ever were. Models `ChannelRouter`. -/
structure Router where
  routes : List Route := []
  channels : List Channel := []
  deriving DecidableEq

namespace Router

def empty : Router := {}

/-- How many channels have a name. Models `ChannelRouter::len`. -/
def size (r : Router) : Nat := r.routes.length

/-- Puts a route at the place of the one with its name, or at the end. -/
def place (route : Route) : List Route → List Route
  | [] => [route]
  | other :: rest => if other.name = route.name then route :: rest else other :: place route rest

/-- Registers a channel and gives its number; every channel holds at least one message. Models
    `ChannelRouter::register`. -/
def register (r : Router) (name : String) (filter : MessageFilter) (capacity : Nat) :
    Router × Nat :=
  let channel := r.channels.length
  (⟨place ⟨name, filter, channel⟩ r.routes, r.channels ++ [{ capacity := max capacity 1 }]⟩, channel)

/-- Takes a name away; tells whether there was such a channel. Models
    `ChannelRouter::unregister`. -/
def unregister (r : Router) (name : String) : Router × Bool :=
  ({ r with routes := r.routes.filter fun route => route.name != name },
    r.routes.any fun route => route.name == name)

/-- What becomes of a message that is offered to the channel of a route. -/
def offer (r : Router) (route : Route) : Offer :=
  match r.channels[route.channel]? with
  | some c => c.offer
  | none => .closed

/-- Puts a message at the end of a channel's queue. -/
def push (r : Router) (inbound : Inbound) (channel : Nat) : Router :=
  { r with channels := r.channels.modify channel (Channel.push inbound) }

/-- Hands a message to all channels that select it, and gives the numbers of those that took it.
    Models `ChannelRouter::route`. -/
def route (r : Router) (inbound : Inbound) : Router × List Nat :=
  let selected := r.routes.filter fun route => route.filter.selects inbound.topic inbound.message
  let taking := (selected.filter fun route => r.offer route = .taken).map Route.channel
  let closed := selected.filter fun route => r.offer route = .closed
  let r := taking.foldl (fun r channel => r.push inbound channel) r
  ({ r with routes := r.routes.filter fun route => route ∉ closed }, taking)

/-- What a receiver finds when it looks. -/
inductive Received where
  | inbound (inbound : Inbound)
  | empty
  /-- The queue is empty and nothing will come any more. -/
  | disconnected
  deriving DecidableEq

/-- Whether a channel still has a name. -/
def connected (r : Router) (channel : Nat) : Bool :=
  r.routes.any fun route => route.channel == channel

/-- Takes the first message out of a channel's queue. -/
def receive (r : Router) (channel : Nat) : Router × Received :=
  match (r.channels[channel]?).bind fun c => c.queue.head? with
  | some inbound => ({ r with channels := r.channels.modify channel Channel.pop }, .inbound inbound)
  | none => (r, if r.connected channel then .empty else .disconnected)

/-- Lets a channel's receiver go, with all that is queued. -/
def leave (r : Router) (channel : Nat) : Router :=
  { r with channels := r.channels.modify channel Channel.abandon }

end Router

end HomeBus
