import HomeBus.Network.Basic

/-!
# Calls and deliveries

What happens between endpoints, facades and engines: an endpoint answers a call, at once or later;
it announces a new connection to its facade, which has its subscriptions made again; and it passes
on what arrives.
-/

namespace HomeBus.Network

/-! ## New connections -/

/--
Tells the facade of an endpoint of a new connection. If it remembers subscriptions, and there is
somewhere to run that work, they are made again by a task of their own. Models the connect callback
of `TransportFacade::new`.
-/
def announce (net : Network) (endpoint : Nat) (announcement : Announcement) : Network :=
  let facade := ((net.endpoint? endpoint).bind Endpoint.onConnect).bind net.facade?
  match facade with
  | none => net
  | some facade =>
    let runs := match announcement with
      | .inline => true
      | .outside => facade.runtimeKnown
      | .silent => false
    if runs && facade.subscriptions ≠ [] && net.endpointHeld endpoint then
      (net.spawn (.resubscription { endpoint, rest := facade.subscriptions })).1
    else net

/-! ## Calls -/

/-- Makes a call at an endpoint of the hub, which always answers at once. Models the operations of
    `MemoryTransport`. -/
def callHub (net : Network) (endpoint : Nat) : Call → Network × Except Error Unit
  | .connect options =>
    match net.hub.connect endpoint options.clientName with
    | (hub, .ok session) =>
      ((({ net with hub }).wake (.deliver session)).announce endpoint .inline, .ok ())
    | (hub, .error e) => ({ net with hub }, .error e)
  | .subscribe topic _ =>
    let (hub, result) := net.hub.subscribe endpoint topic
    ({ net with hub }, result)
  | .publish topic payload _ _ =>
    match net.hub.publish endpoint topic payload with
    | (hub, .ok sessions) =>
      (sessions.foldl (fun net session => net.wake (.deliver session)) { net with hub }, .ok ())
    | (hub, .error e) => ({ net with hub }, .error e)
  | .close => ({ net with hub := net.hub.close endpoint }, .ok ())

/-- What a scripted endpoint answers to a call. -/
def scriptedWait (script : Script) (clock : Nat) (call : Call) : Wait :=
  let reaction := script.reaction call
  { due := if reaction.stall then none else some (clock + reaction.delay)
    result := match reaction.error with
      | some reason => .error (call.refusal reason)
      | none => .ok ()
    announcement := match call with
      | .connect _ => some script.announcement
      | _ => none }

/-- Takes the answer to a call that is due. -/
def answer (net : Network) (endpoint : Nat) (w : Wait) : Network × Except Error Unit :=
  match w.result, w.announcement with
  | .ok (), some announcement => (net.announce endpoint announcement, .ok ())
  | result, _ => (net, result)

/-- Goes on with a call that was not answered before. -/
def resume (net : Network) (endpoint : Nat) (w : Wait) : Network × Progress :=
  if w.isDue net.clock then
    let (net, result) := net.answer endpoint w
    (net, .done result)
  else (net, .waiting w)

/-- Makes a call. -/
def call (net : Network) (endpoint : Nat) (call : Call) : Network × Progress :=
  match net.endpoint? endpoint with
  | none => (net, .done (.error .notConnected))
  | some e =>
    match e.kind with
    | .memory =>
      let (net, result) := net.callHub endpoint call
      (net, .done result)
    | .scripted script =>
      (net.record e.owner (.called call)).resume endpoint (scriptedWait script net.clock call)

/-! ## Deliveries -/

/-- Whether a task waits for the answer to a request. -/
def awaits (party : Nat) (ticket : Ticket) : Task → Bool
  | .request task =>
    task.party == party &&
      match task.state with
      | .running r => r.ticket == ticket
      | _ => false
  | _ => false

/-- Whether a task receives from a channel. -/
def receivesFrom (party : Nat) (channels : List Nat) : Task → Bool
  | .responder task => task.party == party && channels.contains task.channel
  | _ => false

/-- Wakes the responders of a party, because one of them may have lost its channel. -/
def wakeResponders (net : Network) (party : Nat) : Network :=
  net.wakeTasks fun
    | .responder task => task.party == party
    | _ => false

/-- Takes over what a dispatch led to, and wakes those it concerns. -/
def settleDispatch (net : Network) (party : Nat) (d : Engine.Dispatched) : Network :=
  let net := net.setEngine party d.engine
  let net := match d.completed with
    | some ticket => net.wakeTasks (awaits party ticket)
    | none => net
  let net := match d.handled with
    | some inbound => net.record party (.message inbound)
    | none => net
  net.wakeTasks (receivesFrom party d.channels)

/-- Passes on what arrived at an endpoint. Models the message callback of
    `CorrelationEngine::new`. -/
def arrive (net : Network) (endpoint : Nat) (d : Delivery) : Network :=
  match (net.endpoint? endpoint).bind Endpoint.onMessage with
  | none => net
  | some (.recorder party) => net.record party (.payload d.topic d.payload)
  | some (.engine party) =>
    if net.engineHeld party then
      match net.engine? party with
      | some engine => net.settleDispatch party (engine.dispatch d.topic d.payload)
      | none => net
    else net

/-- Hands over the next delivery of a session. -/
def deliver (net : Network) (session : Nat) : Network :=
  match net.hub.deliver session with
  | (hub, some (endpoint, d)) => ({ net with hub }).arrive endpoint d
  | (hub, none) => { net with hub }

end HomeBus.Network
