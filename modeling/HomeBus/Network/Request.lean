import HomeBus.Network.Operation

/-!
# Requests

A request is registered before anything is sent. Then its response topic is subscribed to, unless
the facade knows it, the message is published, and the reply is awaited, all of it until a deadline.
A request that is over, in whatever way, has no entry in the table any more: with a reply, without
one when the deadline is reached or it is cancelled, with an error, or because it was dropped.

A request belongs to a party with a facade and an engine; without them it only waits.
-/

namespace HomeBus.Network

/-- The last time that can be named, in milliseconds. -/
def lastTime : Nat := (0x8000_0000_0000_0000 - 1) * 1000 - 1

/-- The timeout that stands for one that leads past `lastTime`: thirty years. Models
    `FAR_FUTURE`. -/
def longTimeout : Nat := 30 * 365 * 86400 * 1000

/-- When a request that starts now has to be answered. Models the deadline in
    `CorrelationEngine::send_request_until`. -/
def deadlineFrom (clock timeout : Nat) : Nat :=
  if clock + timeout ≤ lastTime then clock + timeout else clock + longTimeout

/-- How far the exchange of a request has come. -/
inductive Exchange where
  | finished (result : Except Error (Option Message))
  | waiting (stage : Stage)

/-- Looks for the reply. Models the last step of the exchange in
    `CorrelationEngine::send_request_until`. -/
def awaitReply (net : Network) (task : RequestTask) (r : Running) : Network × Exchange :=
  match net.engine? task.party with
  | none => (net, .waiting .awaiting)
  | some engine =>
    let (pending, received) := engine.pending.receive r.ticket
    let net := net.setEngine task.party { engine with pending }
    match received with
    | .message m => (net, .finished (.ok (some m)))
    | .closed => (net, .finished (.ok none))
    | .empty => (net, .waiting .awaiting)

/-- What follows the publication of a request. -/
def afterPublish (net : Network) (task : RequestTask) (r : Running) :
    Progress → Network × Exchange
  | .done (.ok ()) => net.awaitReply task r
  | .done (.error e) => (net, .finished (.error e))
  | .waiting w => (net, .waiting (.publishing w))

/-- Publishes a request. Models the exchange in `CorrelationEngine::send_request_until` from its
    encoding on. -/
def publishRequest (net : Network) (task : RequestTask) (r : Running) : Network × Exchange :=
  match net.engine? task.party, net.facade? task.party with
  | some engine, some facade =>
    match engine.codec.encode r.message with
    | .error e => (net, .finished (.error e))
    | .ok payload =>
      let (net, progress) :=
        net.call facade.endpoint (.publish task.topic payload facade.defaultQos false)
      net.afterPublish task r progress
  | _, _ => (net, .waiting .awaiting)

/-- What follows the subscription to a request's response topic. -/
def afterSubscribe (net : Network) (task : RequestTask) (r : Running) (qos : QoS) :
    Progress → Network × Exchange
  | .done (.ok ()) => (net.remember task.party task.responseTopic qos).publishRequest task r
  | .done (.error e) => (net, .finished (.error e))
  | .waiting w => (net, .waiting (.subscribing w))

/-- Starts the exchange of a request that was registered. Models the exchange in
    `CorrelationEngine::send_request_until`. -/
def startExchange (net : Network) (task : RequestTask) (r : Running) : Network × Exchange :=
  match net.facade? task.party with
  | none => (net, .waiting .awaiting)
  | some facade =>
    if facade.isSubscribed task.responseTopic then net.publishRequest task r
    else
      let (net, progress) :=
        net.call facade.endpoint (.subscribe task.responseTopic facade.defaultQos)
      net.afterSubscribe task r facade.defaultQos progress

/-- Goes on with the exchange of a request. -/
def resumeExchange (net : Network) (task : RequestTask) (r : Running) : Network × Exchange :=
  match net.facade? task.party with
  | none => (net, .waiting r.stage)
  | some facade =>
    match r.stage with
    | .subscribing w =>
      let (net, progress) := net.resume facade.endpoint w
      net.afterSubscribe task r facade.defaultQos progress
    | .publishing w =>
      let (net, progress) := net.resume facade.endpoint w
      net.afterPublish task r progress
    | .awaiting => net.awaitReply task r

/-- Takes a request's entry and its waiter out of the table. Models `PendingGuard::drop`. -/
def withdraw (net : Network) (party : Nat) (r : Running) : Network :=
  net.modifyEngine party fun engine =>
    { engine with pending := (engine.pending.remove r.message.uid).1.leave r.ticket }

/-- Ends a request that was registered. -/
def endRequest (net : Network) (i : Nat) (task : RequestTask) (r : Running)
    (state : RequestState) : Network :=
  (net.withdraw task.party r).setTask i (.request { task with state })

/--
Decides what becomes of a request after its exchange was looked at: a result counts before the
deadline does, and the deadline before a cancellation. Models the choice of the outcome in
`CorrelationEngine::send_request_until`.
-/
def conclude (net : Network) (i : Nat) (task : RequestTask) (r : Running) : Exchange → Network
  | .finished result => net.endRequest i task r (.finished result)
  | .waiting stage =>
    if r.deadline ≤ net.clock then net.endRequest i task r (.finished (.ok none))
    else if task.cancellable && task.cancelled then net.endRequest i task r (.finished (.ok none))
    else net.setTask i (.request { task with state := .running { r with stage } })

/-- Gives a message the identity that it lacks. Models the call of `Message::ensure_identity`. -/
def identify (net : Network) (m : Message) : Network × Message :=
  if m.isComplete then (net, m)
  else ({ net with minted := net.minted + 1 }, m.ensureIdentity (net.mint net.minted))

/--
Looks at a registered request. With `cancelFirst` its signal to cancel is looked at before its
exchange; a signal that is there then ends the request, and its exchange goes no further.
-/
def look (net : Network) (i : Nat) (task : RequestTask) (r : Running) (cancelFirst : Bool)
    (exchange : Network → RequestTask → Running → Network × Exchange) : Network :=
  if cancelFirst && task.cancellable && task.cancelled then
    net.endRequest i task r (.finished (.ok none))
  else
    let (net, exchange) := exchange net task r
    net.conclude i task r exchange

/-- Registers a request and starts its exchange. Models the first poll of
    `CorrelationEngine::send_request_until`. -/
def startRequest (net : Network) (i : Nat) (task : RequestTask) (cancelFirst : Bool) : Network :=
  let (net, message) := net.identify task.message
  match net.engine? task.party with
  | none => net
  | some engine =>
    let (pending, ticket, registered) := engine.pending.register
      ⟨message.uid, task.responseTopic, task.filter.service, task.filter.msgType⟩
    match registered with
    | .error e =>
      (net.setEngine task.party { engine with pending := pending.leave ticket }).setTask i
        (.request { task with state := .finished (.error e) })
    | .ok () =>
      let net := net.setEngine task.party { engine with pending }
      let r : Running :=
        { message, ticket, deadline := deadlineFrom net.clock task.timeout, stage := .awaiting }
      net.look i task r cancelFirst startExchange

/-- Runs a request as far as it goes. Models a poll of `CorrelationEngine::send_request_until`. -/
def pollRequest (net : Network) (i : Nat) (task : RequestTask) (cancelFirst : Bool) : Network :=
  match task.state with
  | .fresh => net.startRequest i task cancelFirst
  | .running r => net.look i task r cancelFirst resumeExchange
  | .finished _ | .dropped => net

/-- Drops a request without a result. -/
def dropRequest (net : Network) (i : Nat) (task : RequestTask) : Network :=
  match task.state with
  | .fresh => net.setTask i (.request { task with state := .dropped })
  | .running r => net.endRequest i task r .dropped
  | .finished _ | .dropped => net

/--
Sends a request the signal to cancel; tells whether it took the signal, which a request under way
does once. A request that is not cancellable goes on all the same.
-/
def cancelRequest (net : Network) (i : Nat) (task : RequestTask) : Network × Bool :=
  let underWay := match task.state with
    | .fresh | .running _ => true
    | .finished _ | .dropped => false
  if underWay && !task.cancelled then
    ((net.setTask i (.request { task with cancelled := true })).wake (.poll i), true)
  else (net, false)

end HomeBus.Network
