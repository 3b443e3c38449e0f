import HomeBus.Network.Call

/-!
# Responders

A responder takes the messages of a channel one at a time. For each one it waits its delay and then
publishes its replies; what becomes of them is not its concern. It ends when its channel does.
-/

namespace HomeBus.Network

/-- The reply to a message. -/
def reply (task : ResponderTask) (request reply : Message) : Message :=
  let reply := if task.echoService then { reply with service := request.service } else reply
  if task.replyTo then reply.replyTo request else reply

/-- Publishes replies one after the other until one waits; gives what is left then. -/
def publishReplies (net : Network) (task : ResponderTask) (request : Message) :
    List Message → Network × Option (List Message × Wait)
  | [] => (net, none)
  | m :: rest =>
    match net.engine? task.party, net.facade? task.party with
    | some engine, some facade =>
      match engine.codec.encode (reply task request m) with
      | .error _ => net.publishReplies task request rest
      | .ok payload =>
        match net.call facade.endpoint (.publish task.topic payload facade.defaultQos false) with
        | (net, .done _) => net.publishReplies task request rest
        | (net, .waiting w) => (net, some (rest, w))
    | _, _ => (net, none)

/-- Publishes replies to a message, and says whether the responder has to wait for it. -/
def respond (net : Network) (task : ResponderTask) (inbound : Inbound) (replies : List Message) :
    Network × Option ResponderState :=
  match net.publishReplies task inbound.message replies with
  | (net, none) => (net, none)
  | (net, some (rest, w)) => (net, some (.publishing inbound rest w))

/-- Takes up to `count` messages and answers them; gives the state that the responder is left in. -/
def serve (net : Network) (task : ResponderTask) : (count : Nat) → Network × ResponderState
  | 0 => (net, .idle)
  | count + 1 =>
    match net.engine? task.party with
    | none => (net, .ended)
    | some engine =>
      let (router, received) := engine.router.receive task.channel
      let net := net.setEngine task.party { engine with router }
      match received with
      | .empty => (net, .idle)
      | .disconnected => (net, .ended)
      | .inbound inbound =>
        if task.delay = 0 then
          match net.respond task inbound task.replies with
          | (net, none) => net.serve task count
          | (net, some state) => (net, state)
        else (net, .resting (net.clock + task.delay) inbound)

/-- How many messages are queued for a responder. -/
def queued (net : Network) (task : ResponderTask) : Nat :=
  match (net.engine? task.party).bind fun engine => engine.router.channels[task.channel]? with
  | some channel => channel.queue.length
  | none => 0

/-- Serves the messages that are queued, and leaves the responder as it is then. -/
def serveQueued (net : Network) (i : Nat) (task : ResponderTask) : Network :=
  let (net, state) := net.serve task (net.queued task + 1)
  net.setTask i (.responder { task with state })

/-- Goes on after some replies were published. -/
def afterReplies (net : Network) (i : Nat) (task : ResponderTask) :
    Option ResponderState → Network
  | none => net.serveQueued i task
  | some state => net.setTask i (.responder { task with state })

/-- Runs a responder as far as it goes. -/
def pollResponder (net : Network) (i : Nat) (task : ResponderTask) : Network :=
  match task.state with
  | .ended => net
  | .idle => net.serveQueued i task
  | .resting due inbound =>
    if due ≤ net.clock then
      let (net, state) := net.respond task inbound task.replies
      net.afterReplies i task state
    else net
  | .publishing inbound rest w =>
    match (net.facade? task.party).map fun facade => net.resume facade.endpoint w with
    | none => net
    | some (net, .waiting _) => net
    | some (net, .done _) =>
      let (net, state) := net.respond task inbound rest
      net.afterReplies i task state

end HomeBus.Network
