import HomeBus.Connection

/-!
# Facades

A facade stands between a client and its endpoint. It knows the delivery guarantee to ask for when
nothing else is said, and it remembers the client's subscriptions, each topic once and in the order
in which they were made, so that they can be made again on a new connection.
-/

namespace HomeBus

/-- A topic that a client asked to receive. -/
structure Subscription where
  topic : String
  qos : QoS
  deriving DecidableEq

/-- What a facade knows. Models `TransportFacade`. -/
structure Facade where
  endpoint : Nat
  defaultQos : QoS
  subscriptions : List Subscription := []
  /-- Whether it is known where to run the work of subscribing again. -/
  runtimeKnown : Bool := true
  deriving DecidableEq

namespace Facade

/-- Whether a subscription to a topic is remembered. Models `TransportFacade::is_subscribed`. -/
def isSubscribed (f : Facade) (topic : String) : Bool :=
  f.subscriptions.any fun s => s.topic == topic

/-- Remembers a subscription; one that is known stays as it is. Models the end of
    `TransportFacade::subscribe`. -/
def remember (f : Facade) (topic : String) (qos : QoS) : Facade :=
  if f.isSubscribed topic then f
  else { f with subscriptions := f.subscriptions ++ [⟨topic, qos⟩] }

theorem isSubscribed_remember (f : Facade) (topic other : String) (qos : QoS) :
    (f.remember topic qos).isSubscribed other = (f.isSubscribed other || topic == other) := by
  unfold remember
  split
  · next h =>
    by_cases same : topic = other
    · subst same
      simp [h]
    · simp [same]
  · simp [isSubscribed]

end Facade

end HomeBus
