import HomeBus.Proofs.Network.Effect
import HomeBus.Proofs.Network.Rewiring

/-!
# What a request over the hub does when it starts

Over the hub a request that starts comes all the way to its reply, or ends, the first time that it
is polled. In between lie a few moments: it is registered, its response topic is subscribed to
unless the facade remembers it, and its message is published.

Results:
* `opening_poll`: how a request over the hub starts, with the network that it leaves.
* `poll_of_publishes`: what follows the moment at which its message was published.
-/

namespace HomeBus.Network

variable {net : Network}

/-! ## Moments -/

/-- A network in which a request was registered. -/
def enrol (net : Network) (task : RequestTask) (engine : Engine) : Network :=
  (net.identify task.message).1.setEngine task.party
    { engine with pending := (engine.pending.register (task.expectation (net.uidOf task))).1 }

/-- A request that was registered. -/
def enrolled (net : Network) (task : RequestTask) (engine : Engine) : Running :=
  ⟨(net.identify task.message).2, engine.pending.nextTicket (net.uidOf task),
    deadlineFrom net.clock task.timeout, .awaiting⟩

/-- The network in which a response topic is subscribed to, as far as the facade knows. -/
inductive Subscribes (net : Network) (task : RequestTask) (facade : Facade) : Network → Prop where
  | known : facade.isSubscribed task.responseTopic = true → Subscribes net task facade net
  | made {net' : Network} : facade.isSubscribed task.responseTopic = false →
      net.call facade.endpoint (.subscribe task.responseTopic facade.defaultQos) =
        (net', .done (.ok ())) →
      Subscribes net task facade (net'.remember task.party task.responseTopic facade.defaultQos)

/-- The network at the moment at which the message of a request that starts was published. -/
structure Publishes (net : Network) (i : ℕ) (cancelFirst : Bool) (task : RequestTask) (r : Running)
    (sent : Network) : Prop where
  request : net.request? i = some task
  fresh : task.state = .fresh
  /-- No signal to cancel is looked at first. -/
  quiet : (cancelFirst && task.cancellable && task.cancelled) = false
  published : ∃ engine facade payload before, net.engine? task.party = some engine ∧
    net.facade? task.party = some facade ∧ net.uidOf task ∉ engine.pending.keys ∧
    r = net.enrolled task engine ∧ (net.enrol task engine).Subscribes task facade before ∧
    engine.codec.encode r.message = .ok payload ∧
    before.call facade.endpoint (.publish task.topic payload facade.defaultQos false) =
      (sent, .done (.ok ()))

/-! ## Starting -/

theorem startRequest_of_mem {i : ℕ} {task : RequestTask} {engine : Engine}
    (here : net.engine? task.party = some engine) (mem : net.uidOf task ∈ engine.pending.keys)
    (cancelFirst : Bool) :
    net.startRequest i task cancelFirst =
      ((net.identify task.message).1.setEngine task.party { engine with
        pending := engine.pending.refuse (task.expectation (net.uidOf task)) }).setTask i
        (.request
          { task with state := .finished (.error (.duplicateRequest (net.uidOf task))) }) := by
  have still := (engine?_identify net task.message task.party).trans here
  have refused : engine.pending.register (task.expectation (net.uidOf task)) =
      ((engine.pending.register (task.expectation (net.uidOf task))).1,
        engine.pending.nextTicket (net.uidOf task),
        .error (.duplicateRequest (net.uidOf task))) := by
    rw [PendingTable.register_of_mem mem]
    rfl
  unfold startRequest
  dsimp only
  rw [still]
  dsimp only
  rw [← RequestTask.expectation, ← uidOf, refused]
  rfl

theorem startRequest_of_not_mem {i : ℕ} {task : RequestTask} {engine : Engine}
    (here : net.engine? task.party = some engine) (absent : net.uidOf task ∉ engine.pending.keys)
    (cancelFirst : Bool) :
    net.startRequest i task cancelFirst =
      (net.enrol task engine).look i task (net.enrolled task engine) cancelFirst startExchange := by
  have still := (engine?_identify net task.message task.party).trans here
  have registered : engine.pending.register (task.expectation (net.uidOf task)) =
      ((engine.pending.register (task.expectation (net.uidOf task))).1,
        engine.pending.nextTicket (net.uidOf task), .ok ()) := by
    rw [PendingTable.register_of_not_mem absent]
    rfl
  have clock : (net.identify task.message).1.clock = net.clock :=
    congrArg Correlation.clock (correlation_identify net task.message)
  unfold startRequest
  dsimp only
  rw [still]
  dsimp only
  rw [← RequestTask.expectation, ← uidOf, registered]
  unfold enrol enrolled
  rw [← clock]
  rfl

/-! ## Over the hub -/

section Memory

variable {endpoint : ℕ} (memory : (net.endpoint? endpoint).map Endpoint.kind = some .memory)
include memory

/-- Nothing can be subscribed to or published without a session, and nothing changes. -/
theorem call_of_not_connected (off : net.hub.isConnected endpoint = false) {call : Call}
    (uses : (∃ topic qos, call = .subscribe topic qos) ∨
      ∃ topic payload qos retain, call = .publish topic payload qos retain) :
    ∃ e, net.call endpoint call = (net, .done (.error e)) := by
  rw [call_of_memory memory]
  rcases uses with ⟨topic, qos, rfl⟩ | ⟨topic, payload, qos, retain, rfl⟩
  · rcases net.hub.subscribe_cases endpoint topic with ⟨id, there, open_, -⟩ | ⟨-, e, eq⟩
    · have on := Hub.isConnected_iff.2 ⟨id, there, open_⟩
      cases off.symm.trans on
    · exact ⟨e, by simp only [callHub, eq]⟩
  · rcases net.hub.publish_cases endpoint topic payload with ⟨on, -⟩ | ⟨-, e, eq⟩
    · cases off.symm.trans on
    · exact ⟨e, by simp only [callHub, eq]⟩

theorem call_subscribe_of_connected (on : net.hub.isConnected endpoint = true) (topic : String)
    (qos : QoS) : net.call endpoint (.subscribe topic qos) =
      ({ net with hub := (net.hub.subscribe endpoint topic).1 }, .done (.ok ())) := by
  rw [call_of_memory memory]
  rcases net.hub.subscribe_cases endpoint topic with ⟨_, -, -, eq⟩ | ⟨off, -⟩
  · simp only [callHub, eq]
  · cases on.symm.trans off

theorem call_publish_of_connected (on : net.hub.isConnected endpoint = true) (topic : String)
    (payload : Bytes) (qos : QoS) (retain : Bool) :
    ∃ sent, net.call endpoint (.publish topic payload qos retain) = (sent, .done (.ok ())) ∧
      sent.wiring = { net.wiring with hub := net.hub.apply (.publish endpoint topic payload) } := by
  have op : net.hub.apply (.publish endpoint topic payload) =
    (net.hub.publish endpoint topic payload).1 := rfl
  rw [call_of_memory memory, op]
  rcases net.hub.publish_cases endpoint topic payload with ⟨-, eq⟩ | ⟨off, -⟩
  · simp only [callHub, eq]
    exact ⟨_, rfl, wiring_foldl _ _ (fun net _ => wiring_wake net _) _⟩
  · cases on.symm.trans off

/-- A publication that succeeds found a session, and only mailboxes change. -/
theorem wiring_of_call_publish {topic : String} {payload : Bytes} {qos : QoS} {retain : Bool}
    {sent : Network}
    (called : net.call endpoint (.publish topic payload qos retain) = (sent, .done (.ok ()))) :
    net.hub.isConnected endpoint = true ∧
      sent.wiring = { net.wiring with hub := net.hub.apply (.publish endpoint topic payload) } := by
  cases on : net.hub.isConnected endpoint with
  | true =>
    obtain ⟨sent', called', wired⟩ := call_publish_of_connected memory on topic payload qos retain
    cases called.symm.trans called'
    exact ⟨rfl, wired⟩
  | false =>
    obtain ⟨e, eq⟩ := call_of_not_connected memory on (.inr ⟨topic, payload, qos, retain, rfl⟩)
    cases called.symm.trans eq

end Memory

/-- The reply is looked for at once after a publication that succeeds at once. -/
theorem publishRequest_of_call {task : RequestTask} {r : Running} {engine : Engine}
    {facade : Facade} (engineHere : net.engine? task.party = some engine)
    (facadeHere : net.facade? task.party = some facade) {payload : Bytes}
    (encoded : engine.codec.encode r.message = .ok payload) {sent : Network}
    (called : net.call facade.endpoint (.publish task.topic payload facade.defaultQos false) =
      (sent, .done (.ok ()))) :
    net.publishRequest task r = sent.awaitReply task r := by
  simp only [publishRequest, engineHere, facadeHere, encoded, called, afterPublish]

/-- A message that cannot be encoded, or published, ends the exchange. -/
theorem publishRequest_of_fails {task : RequestTask} (r : Running) {engine : Engine}
    {facade : Facade} (engineHere : net.engine? task.party = some engine)
    (facadeHere : net.facade? task.party = some facade)
    (memory : (net.endpoint? facade.endpoint).map Endpoint.kind = some .memory)
    (fails : net.hub.isConnected facade.endpoint = false ∨
      ∃ e, engine.codec.encode r.message = .error e) :
    ∃ e, net.publishRequest task r = (net, .finished (.error e)) := by
  cases encoded : engine.codec.encode r.message with
  | error e => exact ⟨e, by simp only [publishRequest, engineHere, facadeHere, encoded]⟩
  | ok payload =>
    have off := fails.resolve_right (by simp [encoded])
    obtain ⟨e, called⟩ := call_of_not_connected memory off
      (.inr ⟨task.topic, payload, facade.defaultQos, false, rfl⟩)
    exact ⟨e, by simp only [publishRequest, engineHere, facadeHere, encoded, called, afterPublish]⟩

/-- An exchange is about publication once the response topic is subscribed to. -/
theorem startExchange_of_subscribes {task : RequestTask} {facade : Facade} {before : Network}
    (facadeHere : net.facade? task.party = some facade)
    (subscribes : net.Subscribes task facade before) (r : Running) :
    net.startExchange task r = before.publishRequest task r := by
  cases subscribes with
  | known known => simp only [startExchange, facadeHere, known, if_true]
  | made unknown called =>
    simp only [startExchange, facadeHere, unknown, Bool.false_eq_true, if_false, called,
      afterSubscribe]

theorem memory_of_onHub {party : ℕ} {facade : Facade} (hub : net.OnHub party)
    (here : net.facade? party = some facade) :
    (net.endpoint? facade.endpoint).map Endpoint.kind = some .memory := by
  simpa [OnHub, correlation, here] using hub

/-! ### Frames -/

theorem wiring_enrol (net : Network) (task : RequestTask) (engine : Engine) :
    (net.enrol task engine).wiring = net.wiring := by
  rw [enrol, wiring_setEngine, wiring_identify]

/-- What is known of a network in which a request over the hub is about to be encoded. -/
theorem Subscribes.cases {task : RequestTask} {facade : Facade} {before : Network}
    (h : net.Subscribes task facade before)
    (memory : (net.endpoint? facade.endpoint).map Endpoint.kind = some .memory) :
    facade.isSubscribed task.responseTopic = true ∧ before = net ∨
      facade.isSubscribed task.responseTopic = false ∧ before =
        ({ net with hub := (net.hub.subscribe facade.endpoint task.responseTopic).1 } :
          Network).remember task.party task.responseTopic facade.defaultQos := by
  cases h with
  | known known => exact .inl ⟨known, rfl⟩
  | @made net' unknown called =>
    refine .inr ⟨unknown, ?_⟩
    cases on : net.hub.isConnected facade.endpoint with
    | true =>
      rw [call_subscribe_of_connected memory on] at called
      cases called
      rfl
    | false =>
      obtain ⟨e, eq⟩ := call_of_not_connected memory on
        (.inl ⟨task.responseTopic, facade.defaultQos, rfl⟩)
      cases called.symm.trans eq

/-- A response topic can be subscribed to while there is a session. -/
theorem exists_subscribes {facade : Facade}
    (memory : (net.endpoint? facade.endpoint).map Endpoint.kind = some .memory)
    (on : net.hub.isConnected facade.endpoint = true) (task : RequestTask) :
    ∃ before, net.Subscribes task facade before := by
  cases known : facade.isSubscribed task.responseTopic with
  | true => exact ⟨net, .known known⟩
  | false => exact ⟨_, .made known (call_subscribe_of_connected memory on ..)⟩

theorem Subscribes.correlation {task : RequestTask} {facade : Facade} {before : Network}
    (h : net.Subscribes task facade before) : before.correlation = net.correlation := by
  cases h with
  | known => rfl
  | made _ called =>
    have same := correlation_call net facade.endpoint
      (.subscribe task.responseTopic facade.defaultQos)
    rw [called] at same
    exact (correlation_remember ..).trans same

theorem Subscribes.engine? {task : RequestTask} {facade : Facade} {before : Network}
    (h : net.Subscribes task facade before) {party : ℕ} {engine : Engine}
    (here : net.engine? party = some engine) :
    ∃ engine', before.engine? party = some engine' ∧ engine'.codec = engine.codec := by
  have rules : before.correlation.rules party = net.correlation.rules party :=
    congrArg (Correlation.rules · party) h.correlation
  simp only [Network.correlation, here, Option.map_some, Option.map_eq_some_iff] at rules
  obtain ⟨engine', there, same⟩ := rules
  exact ⟨engine', there, congrArg Prod.fst same⟩

section Frame

variable {task : RequestTask} {facade : Facade} {before : Network}
  (h : net.Subscribes task facade before)
  (memory : (net.endpoint? facade.endpoint).map Endpoint.kind = some .memory)
include h memory

/-- The facade remembers the response topic, and all other facades stay as they are. -/
theorem Subscribes.facades (here : net.facade? task.party = some facade) (party : ℕ) :
    before.facade? party = if party = task.party then
      some (facade.remember task.responseTopic facade.defaultQos) else net.facade? party := by
  rcases h.cases memory with ⟨known, rfl⟩ | ⟨-, rfl⟩
  · rw [Facade.remember, if_pos known]
    split
    · next same => rw [same, here]
    · rfl
  · rw [remember, facade?_modifyFacade]
    by_cases same : task.party = party
    · rw [if_pos same, if_pos same.symm, ← same]
      exact congrArg (Option.map _) here
    · rw [if_neg same, if_neg (Ne.symm same)]
      rfl

theorem Subscribes.facade_self (here : net.facade? task.party = some facade) :
    before.facade? task.party = some (facade.remember task.responseTopic facade.defaultQos) := by
  rw [h.facades memory here, if_pos rfl]

theorem Subscribes.hub : before.hub = if facade.isSubscribed task.responseTopic then net.hub
    else (net.hub.subscribe facade.endpoint task.responseTopic).1 := by
  rcases h.cases memory with ⟨known, rfl⟩ | ⟨unknown, rfl⟩
  · rw [if_pos known]
  · rw [unknown]
    rfl

theorem Subscribes.isConnected (endpoint : ℕ) :
    before.hub.isConnected endpoint = net.hub.isConnected endpoint := by
  rw [h.hub memory]
  split
  · rfl
  · exact Hub.isConnected_subscribe ..

theorem Subscribes.endpoint_eq (endpoint : ℕ) :
    before.endpoint? endpoint = net.endpoint? endpoint := by
  rcases h.cases memory with ⟨-, rfl⟩ | ⟨-, rfl⟩ <;> rfl

theorem Subscribes.tasks : before.tasks = net.tasks := by
  rcases h.cases memory with ⟨-, rfl⟩ | ⟨-, rfl⟩ <;> rfl

end Frame

/-! ## The first poll -/

/-- How a request over the hub starts, and the network that it leaves. -/
inductive Opening (net : Network) (i : ℕ) (task : RequestTask) (cancelFirst : Bool)
    (engine : Engine) (facade : Facade) : Network → Prop where
  | refused : net.uidOf task ∈ engine.pending.keys →
      Opening net i task cancelFirst engine facade
        (((net.identify task.message).1.setEngine task.party { engine with
          pending := engine.pending.refuse (task.expectation (net.uidOf task)) }).setTask i
          (.request { task with
            state := .finished (.error (.duplicateRequest (net.uidOf task))) }))
  | cancelled : net.uidOf task ∉ engine.pending.keys →
      (cancelFirst && task.cancellable && task.cancelled) = true →
      Opening net i task cancelFirst engine facade ((net.enrol task engine).endRequest i task
        (net.enrolled task engine) (.finished (.ok none)))
  | unconnected {e : Error} : net.uidOf task ∉ engine.pending.keys →
      net.hub.isConnected facade.endpoint = false →
      Opening net i task cancelFirst engine facade ((net.enrol task engine).endRequest i task
        (net.enrolled task engine) (.finished (.error e)))
  | unencodable {e e' : Error} {before : Network} : net.uidOf task ∉ engine.pending.keys →
      net.hub.isConnected facade.endpoint = true →
      (net.enrol task engine).Subscribes task facade before →
      engine.codec.encode (net.enrolled task engine).message = .error e' →
      Opening net i task cancelFirst engine facade (before.endRequest i task
        (net.enrolled task engine) (.finished (.error e)))
  | published {payload : Bytes} {sent : Network} : net.uidOf task ∉ engine.pending.keys →
      net.hub.isConnected facade.endpoint = true →
      engine.codec.encode (net.enrolled task engine).message = .ok payload →
      net.Publishes i cancelFirst task (net.enrolled task engine) sent →
      Opening net i task cancelFirst engine facade ((sent.awaitReply task
        (net.enrolled task engine)).1.conclude i task (net.enrolled task engine)
          (sent.awaitReply task (net.enrolled task engine)).2)

theorem engine?_enrol {task : RequestTask} {engine : Engine}
    (here : net.engine? task.party = some engine) :
    (net.enrol task engine).engine? task.party = some { engine with
      pending := (engine.pending.register (task.expectation (net.uidOf task))).1 } := by
  obtain ⟨p, partyHere, -⟩ := exists_party_of_engine
    ((engine?_identify net task.message task.party).trans here)
  rw [enrol, setEngine, engine?, party?_modifyParty, if_pos rfl, partyHere]
  rfl

theorem defaults_remember (facade : Facade) (topic : String) (qos : QoS) :
    (facade.remember topic qos).endpoint = facade.endpoint ∧
      (facade.remember topic qos).defaultQos = facade.defaultQos := by
  unfold Facade.remember
  split <;> exact ⟨rfl, rfl⟩

section Opening

variable {i : ℕ} {task : RequestTask} {engine : Engine} {facade : Facade}

/-- What a request over the hub that was registered finds. -/
theorem enrol_frame (engine : Engine) (facadeHere : net.facade? task.party = some facade)
    (hub : net.OnHub task.party) :
    (net.enrol task engine).facade? task.party = some facade ∧
      ((net.enrol task engine).endpoint? facade.endpoint).map Endpoint.kind = some .memory ∧
      (net.enrol task engine).hub = net.hub := by
  have wired := wiring_enrol net task engine
  refine ⟨?_, ?_, congrArg Wiring.hub wired⟩
  · rw [← facade?_wiring, wired, facade?_wiring, facadeHere]
  · have endpoints : (net.enrol task engine).endpoints = net.endpoints :=
      congrArg Wiring.endpoints wired
    rw [Network.endpoint?, endpoints]
    exact memory_of_onHub hub facadeHere

/-- What follows the moment at which the message of a request was published. -/
theorem poll_of_publishes {cancelFirst : Bool} {r : Running} {sent : Network}
    (h : net.Publishes i cancelFirst task r sent) (hub : net.OnHub task.party) :
    net.poll i cancelFirst =
      (sent.awaitReply task r).1.conclude i task r (sent.awaitReply task r).2 := by
  obtain ⟨engine, facade, payload, before, engineHere, facadeHere, absent, rfl, subscribes, encoded,
    called⟩ := h.published
  obtain ⟨facadeThere, memory, -⟩ := enrol_frame engine facadeHere hub
  obtain ⟨engine', engineThere, codec⟩ := subscribes.engine? (engine?_enrol engineHere)
  obtain ⟨endpoint, qos⟩ := defaults_remember facade task.responseTopic facade.defaultQos
  have publishes : before.publishRequest task (net.enrolled task engine) =
      sent.awaitReply task (net.enrolled task engine) := by
    refine publishRequest_of_call engineThere (subscribes.facade_self memory facadeThere)
      (codec ▸ encoded) ?_
    rwa [endpoint, qos]
  rw [poll_of_request h.request, pollRequest, h.fresh]
  dsimp only
  rw [startRequest_of_not_mem engineHere absent, look, h.quiet, if_neg Bool.false_ne_true,
    startExchange_of_subscribes facadeThere subscribes, publishes]

/-- A request whose message was published is in the table. -/
theorem Publishes.registered {cancelFirst : Bool} {r : Running} {sent : Network}
    (h : net.Publishes i cancelFirst task r sent) :
    ∃ t, net.table? task.party = some t ∧ net.uidOf task ∉ t.keys ∧
      r.message.uid = net.uidOf task ∧ r.ticket = t.nextTicket (net.uidOf task) ∧
      sent.correlation = net.correlation.setTable task.party
        (t.register (task.expectation (net.uidOf task))).1 := by
  obtain ⟨engine, facade, payload, before, engineHere, -, absent, rfl, subscribes, -, called⟩ :=
    h.published
  have same := correlation_call before facade.endpoint
    (.publish task.topic payload facade.defaultQos false)
  rw [called, subscribes.correlation] at same
  exact ⟨engine.pending, congrArg (Option.map Engine.pending) engineHere, absent, rfl, rfl,
    same.trans (correlation_identify_setEngine h.request engineHere _).1⟩

variable (request : net.request? i = some task) (fresh : task.state = .fresh)
  (engineHere : net.engine? task.party = some engine)
  (facadeHere : net.facade? task.party = some facade) (hub : net.OnHub task.party)
include request fresh engineHere facadeHere hub

/-- A request over the hub is published, if nothing stands against it. -/
theorem exists_publishes {cancelFirst : Bool}
    (quiet : (cancelFirst && task.cancellable && task.cancelled) = false)
    (absent : net.uidOf task ∉ engine.pending.keys)
    (on : net.hub.isConnected facade.endpoint = true) {payload : Bytes}
    (encoded : engine.codec.encode (net.enrolled task engine).message = .ok payload) :
    ∃ sent, net.Publishes i cancelFirst task (net.enrolled task engine) sent ∧
      sent.hub = (if facade.isSubscribed task.responseTopic then net.hub
        else (net.hub.subscribe facade.endpoint task.responseTopic).1).apply
          (.publish facade.endpoint task.topic payload) := by
  obtain ⟨facadeThere, memory, hubs⟩ := enrol_frame engine facadeHere hub
  obtain ⟨before, subscribes⟩ := exists_subscribes memory (hubs ▸ on) task
  have memoryThere : (before.endpoint? facade.endpoint).map Endpoint.kind = some .memory :=
    subscribes.endpoint_eq memory _ ▸ memory
  have onThere : before.hub.isConnected facade.endpoint = true := by
    rw [subscribes.isConnected memory, hubs, on]
  obtain ⟨sent, called, wired⟩ := call_publish_of_connected memoryThere onThere task.topic payload
    facade.defaultQos false
  refine ⟨sent, ⟨request, fresh, quiet, engine, facade, payload, before, engineHere, facadeHere,
    absent, rfl, subscribes, encoded, called⟩, ?_⟩
  rw [← hubs, ← subscribes.hub memory]
  exact congrArg Wiring.hub wired

/-- How a request over the hub starts. -/
theorem opening_poll (cancelFirst : Bool) :
    net.Opening i task cancelFirst engine facade (net.poll i cancelFirst) := by
  have polled : net.poll i cancelFirst = net.startRequest i task cancelFirst := by
    rw [poll_of_request request, pollRequest, fresh]
  by_cases mem : net.uidOf task ∈ engine.pending.keys
  · rw [polled, startRequest_of_mem engineHere mem]
    exact .refused mem
  have started := startRequest_of_not_mem (i := i) engineHere mem cancelFirst
  cases quiet : cancelFirst && task.cancellable && task.cancelled with
  | true =>
    rw [polled, started, look, if_pos quiet]
    exact .cancelled mem quiet
  | false =>
    obtain ⟨facadeThere, memory, hubs⟩ := enrol_frame engine facadeHere hub
    rw [look, quiet, if_neg Bool.false_ne_true] at started
    cases on : net.hub.isConnected facade.endpoint with
    | false =>
      rw [← hubs] at on
      have failed : ∃ e, (net.enrol task engine).startExchange task (net.enrolled task engine) =
          (net.enrol task engine, .finished (.error e)) := by
        cases known : facade.isSubscribed task.responseTopic with
        | true =>
          rw [startExchange_of_subscribes facadeThere (.known known)]
          exact publishRequest_of_fails _ (engine?_enrol engineHere) facadeThere memory (.inl on)
        | false =>
          obtain ⟨e, called⟩ := call_of_not_connected memory on
            (.inl ⟨task.responseTopic, facade.defaultQos, rfl⟩)
          refine ⟨e, ?_⟩
          simp only [startExchange, facadeThere, known, Bool.false_eq_true, if_false, called,
            afterSubscribe]
      obtain ⟨e, eq⟩ := failed
      rw [polled, started, eq]
      exact .unconnected mem (hubs ▸ on)
    | true =>
      cases encoded : engine.codec.encode (net.enrolled task engine).message with
      | error e =>
        obtain ⟨before, subscribes⟩ := exists_subscribes memory (hubs ▸ on) task
        obtain ⟨engine', engineThere, codec⟩ := subscribes.engine? (engine?_enrol engineHere)
        obtain ⟨e', eq⟩ := publishRequest_of_fails (net.enrolled task engine) engineThere
          (subscribes.facade_self memory facadeThere)
          (by rw [(defaults_remember ..).1, subscribes.endpoint_eq memory, memory])
          (.inr ⟨e, codec ▸ encoded⟩)
        rw [polled, started, startExchange_of_subscribes facadeThere subscribes, eq]
        exact .unencodable mem on subscribes encoded
      | ok payload =>
        obtain ⟨sent, publishes, -⟩ := exists_publishes request fresh engineHere facadeHere hub
          quiet mem on encoded
        rw [poll_of_publishes publishes hub]
        exact .published mem on encoded publishes

end Opening

end HomeBus.Network
