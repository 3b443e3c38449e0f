import HomeBus.Dict
import HomeBus.Router

/-!
# A bench for channels

Steps on one router whose receivers have names. A new receiver takes the name over, and the one that
had it before is let go.
-/

namespace HomeBus.Bench.Channels

structure State where
  router : Router := .empty
  receivers : List (String × Nat) := []

inductive Step where
  | register (name : String) (filter : MessageFilter) (capacity : Nat) (receiver : String)
  | unregister (name : String)
  | route (topic : String) (m : Message)
  | receive (receiver : String)
  | leave (receiver : String)

inductive Outcome where
  | registered
  | flag (value : Bool)
  | delivered (count : Nat)
  | received (received : Router.Received)
  | noReceiver

def State.receiver? (s : State) (name : String) : Option Nat := Entries.get? name s.receivers

/-- Lets the receiver of a name go, if there is one. -/
def State.release (s : State) (name : String) : State :=
  { router := match s.receiver? name with
      | some channel => s.router.leave channel
      | none => s.router
    receivers := s.receivers.filter fun entry => entry.1 != name }

def step (s : State) : Step → State × Outcome
  | .register name filter capacity receiver =>
    let (router, channel) := s.router.register name filter capacity
    let s := State.release { s with router } receiver
    ({ s with receivers := s.receivers ++ [(receiver, channel)] }, .registered)
  | .unregister name =>
    let (router, was) := s.router.unregister name
    ({ s with router }, .flag was)
  | .route topic m =>
    let (router, taking) := s.router.route ⟨topic, .ofTopic topic, m⟩
    ({ s with router }, .delivered taking.length)
  | .receive receiver =>
    match s.receiver? receiver with
    | none => (s, .noReceiver)
    | some channel =>
      let (router, received) := s.router.receive channel
      ({ s with router }, .received received)
  | .leave receiver => (s.release receiver, .flag (s.receiver? receiver).isSome)

end HomeBus.Bench.Channels
