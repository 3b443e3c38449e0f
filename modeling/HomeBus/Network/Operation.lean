import HomeBus.Network.Call

/-!
# Operations and re-subscriptions

An operation is one call that a party makes, directly or through its facade. The facade fills in the
delivery guarantee, skips a subscription that it knows, and remembers one that was made.

A re-subscription makes the subscriptions of a facade again, one after the other; one that fails is
passed over.
-/

namespace HomeBus.Network

/-! ## Operations -/

/-- Starts an operation of a party without a facade. -/
def callDirectly (net : Network) (endpoint : Nat) : Operation → Network × Progress
  | .connect options => net.call endpoint (.connect options)
  | .close => net.call endpoint .close
  | .subscribe topic qos => net.call endpoint (.subscribe topic (qos.getD default))
  | .publish topic payload qos retain =>
    net.call endpoint (.publish topic payload (qos.getD default) retain)

/-- Remembers a subscription of a party. -/
def remember (net : Network) (party : Nat) (topic : String) (qos : QoS) : Network :=
  net.modifyFacade party (·.remember topic qos)

/-- Starts an operation of a party through its facade. Models the operations of `TransportFacade`,
    up to the answer of its transport. -/
def callThrough (net : Network) (party : Nat) (facade : Facade) : Operation → Network × Progress
  | .connect options =>
    (net.modifyFacade party fun f => { f with runtimeKnown := true }).call facade.endpoint
      (.connect options)
  | .close => net.call facade.endpoint .close
  | .subscribe topic qos =>
    if facade.isSubscribed topic then (net, .done (.ok ()))
    else net.call facade.endpoint (.subscribe topic (qos.getD facade.defaultQos))
  | .publish topic payload qos _ =>
    net.call facade.endpoint (.publish topic payload (qos.getD facade.defaultQos) false)

/-- What is left to do when the call of an operation was answered. Models the end of
    `TransportFacade::subscribe`. -/
def afterCall (net : Network) (task : OperationTask) (result : Except Error Unit) : Network :=
  match result, task.throughFacade, task.operation, net.facade? task.party with
  | .ok (), true, .subscribe topic qos, some facade =>
    net.remember task.party topic (qos.getD facade.defaultQos)
  | _, _, _, _ => net

/-- Runs an operation as far as it goes. -/
def pollOperation (net : Network) (i : Nat) (task : OperationTask) : Network :=
  match task.state, net.party? task.party with
  | .finished _, _ | _, none => net
  | state, some party =>
    let (net, progress) := match state with
      | .waiting w => net.resume party.endpoint w
      | _ =>
        match task.throughFacade, party.facade with
        | true, some facade => net.callThrough task.party facade task.operation
        | _, _ => net.callDirectly party.endpoint task.operation
    match progress with
    | .waiting w => net.setTask i (.operation { task with state := .waiting w })
    | .done result =>
      (net.afterCall task result).setTask i (.operation { task with state := .finished result })

/-! ## Re-subscriptions -/

/-- Makes subscriptions one after the other until one waits; gives what is left then. Models the
    loop of the task that the connect callback of `TransportFacade::new` spawns. -/
def subscribeAll (net : Network) (endpoint : Nat) :
    List Subscription → Network × Option Wait × List Subscription
  | [] => (net, none, [])
  | s :: rest =>
    match net.call endpoint (.subscribe s.topic s.qos) with
    | (net, .done _) => net.subscribeAll endpoint rest
    | (net, .waiting w) => (net, some w, rest)

/-- Runs a re-subscription as far as it goes. -/
def pollResubscription (net : Network) (i : Nat) (task : ResubscriptionTask) : Network :=
  let go (net : Network) : Network :=
    let (net, wait, rest) := net.subscribeAll task.endpoint task.rest
    net.setTask i (.resubscription { task with wait, rest })
  match task.wait with
  | none => go net
  | some w =>
    match net.resume task.endpoint w with
    | (net, .done _) => go net
    | (net, .waiting _) => net

end HomeBus.Network
