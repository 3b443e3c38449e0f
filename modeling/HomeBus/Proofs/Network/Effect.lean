import HomeBus.Proofs.Network.Exchange

/-!
# What a step does to requests

A step of a network changes little of its correlation: a request comes, is registered or refused,
goes on or ends, a delivery is dispatched to a table, or the clock moves. `Network.Effect` lists
these changes with all that is known of each, and `effect_step` says that there are no others.

Results:
* `look_startRequest`, `correlation_startRequest_of_mem`: a request that starts is registered and
  looked at, or refused because its uid is in the table.
* `look_poll`: a request that was registered is looked at when it is polled.
* `correlation_deliver`: a message that is dispatched is offered to the requests that wait.
* `effect_step`: what every step does to requests.
* `advances_step`: what every step makes of one request.
-/

namespace HomeBus.Network

variable {net : Network}

/-! ## Starting and dropping -/

theorem correlation_identify (net : Network) (m : Message) :
    (net.identify m).1.correlation = net.correlation := by
  unfold identify
  split <;> rfl

theorem engine?_identify (net : Network) (m : Message) (party : ℕ) :
    (net.identify m).1.engine? party = net.engine? party := by
  unfold identify
  split <;> rfl

theorem engine?_of_table {party : ℕ} {t : PendingTable} (h : net.table? party = some t) :
    ∃ engine, net.engine? party = some engine ∧ engine.pending = t :=
  Option.map_eq_some_iff.1 h

theorem table_of_engine {party : ℕ} {engine : Engine} (h : net.engine? party = some engine) :
    net.table? party = some engine.pending :=
  congrArg (Option.map Engine.pending) h

/-- The uid under which a request is registered when it starts. -/
def uidOf (net : Network) (task : RequestTask) : String := (net.identify task.message).2.uid

/-- A request that starts changes the table of its party and then is another request. -/
theorem correlation_identify_setEngine {i : ℕ} {task : RequestTask} {engine : Engine}
    (h : net.request? i = some task) (here : net.engine? task.party = some engine)
    (t : PendingTable) :
    ((net.identify task.message).1.setEngine task.party { engine with pending := t }).correlation =
        net.correlation.setTable task.party t ∧
      ((net.identify task.message).1.setEngine task.party { engine with pending := t }).request? i =
        some task := by
  have changed : ((net.identify task.message).1.setEngine task.party
      { engine with pending := t }).correlation = net.correlation.setTable task.party t := by
    have still := (engine?_identify net task.message task.party).trans here
    rw [correlation_setEngine _ still { engine with pending := t } rfl rfl, correlation_identify]
  exact ⟨changed, (congrArg (Correlation.request · i) changed).trans h⟩

/-- A request whose uid is in the table is refused. -/
theorem correlation_startRequest_of_mem {i : ℕ} {task : RequestTask} {t : PendingTable}
    (h : net.request? i = some task) (table : net.table? task.party = some t)
    (mem : net.uidOf task ∈ t.keys) (cancelFirst : Bool) :
    (net.startRequest i task cancelFirst).correlation =
      (net.correlation.setTable task.party
        (t.refuse (task.expectation (net.uidOf task)))).setRequest i
        { task with state := .finished (.error (.duplicateRequest (net.uidOf task))) } := by
  obtain ⟨engine, here, rfl⟩ := engine?_of_table table
  have still := (engine?_identify net task.message task.party).trans here
  have refused : engine.pending.register (task.expectation (net.uidOf task)) =
      ((engine.pending.register (task.expectation (net.uidOf task))).1,
        engine.pending.nextTicket (net.uidOf task),
        .error (.duplicateRequest (net.uidOf task))) := by
    rw [PendingTable.register_of_mem mem]
    rfl
  obtain ⟨changed, there⟩ := correlation_identify_setEngine h here
    (engine.pending.refuse (task.expectation (net.uidOf task)))
  rw [← changed, ← correlation_setRequest _ there]
  unfold startRequest
  dsimp only
  rw [still]
  dsimp only
  rw [← RequestTask.expectation, ← uidOf, refused]
  rfl

/-- A request whose uid is not in the table is registered, and then looked at. -/
theorem look_startRequest {i : ℕ} {task : RequestTask} {t : PendingTable}
    (h : net.request? i = some task) (table : net.table? task.party = some t)
    (mem : net.uidOf task ∉ t.keys) (cancelFirst : Bool) :
    (net.correlation.setTable task.party
        (t.register (task.expectation (net.uidOf task))).1).Look i task
      ⟨(net.identify task.message).2, t.nextTicket (net.uidOf task),
        deadlineFrom net.clock task.timeout, .awaiting⟩ cancelFirst False
      (net.startRequest i task cancelFirst).correlation := by
  obtain ⟨engine, here, rfl⟩ := engine?_of_table table
  have still := (engine?_identify net task.message task.party).trans here
  have registered : engine.pending.register (task.expectation (net.uidOf task)) =
      ((engine.pending.register (task.expectation (net.uidOf task))).1,
        engine.pending.nextTicket (net.uidOf task), .ok ()) := by
    rw [PendingTable.register_of_not_mem mem]
    rfl
  obtain ⟨changed, there⟩ := correlation_identify_setEngine h here
    (engine.pending.register (task.expectation (net.uidOf task))).1
  have clock : Network.clock _ = net.clock := congrArg Correlation.clock changed
  unfold startRequest
  dsimp only
  rw [still]
  dsimp only
  rw [← RequestTask.expectation, ← uidOf, registered]
  dsimp only
  rw [← changed, clock]
  exact look_of_exchanged cancelFirst there (exchanged_startExchange ..)

/-! ## Deliveries -/

/-- A delivery on its way into the engine of a party. -/
structure Dispatch where
  party : ℕ
  engine : Engine
  delivery : Delivery

/-- The message that a dispatched delivery carries. -/
def Dispatch.Carries (d : Dispatch) (m : Message) : Prop :=
  d.engine.codec.decode d.delivery.payload = .ok m

/-- The waiter whose request a dispatched delivery completes. -/
def Dispatch.completes (d : Dispatch) : Option Ticket :=
  (d.engine.dispatch d.delivery.topic d.delivery.payload).completed

/-- What becomes of a delivery that arrives at an endpoint, if an engine gets it. -/
def arrival? (net : Network) (endpoint : ℕ) (delivery : Delivery) : Option Dispatch :=
  match (net.endpoint? endpoint).bind Endpoint.onMessage with
  | some (.engine party) =>
    if net.engineHeld party then (net.engine? party).map (⟨party, ·, delivery⟩) else none
  | some (.recorder _) | none => none

/-- What becomes of the next delivery of a session, if an engine gets it. -/
def dispatch? (net : Network) (session : ℕ) : Option Dispatch :=
  (net.hub.deliver session).2.bind fun next => net.arrival? next.1 next.2

theorem engine?_of_arrival {endpoint : ℕ} {delivery : Delivery} {d : Dispatch}
    (h : net.arrival? endpoint delivery = some d) : net.engine? d.party = some d.engine := by
  unfold arrival? at h
  split at h
  · split at h
    · obtain ⟨engine, here, rfl⟩ := Option.map_eq_some_iff.1 h
      exact here
    · cases h
  · cases h
  · cases h

theorem engine?_of_dispatch {session : ℕ} {d : Dispatch} (h : net.dispatch? session = some d) :
    net.engine? d.party = some d.engine := by
  obtain ⟨next, _, arrives⟩ := Option.bind_eq_some_iff.1 h
  exact engine?_of_arrival arrives

theorem correlation_settleDispatch (party : ℕ) (d : Engine.Dispatched) :
    (net.settleDispatch party d).correlation = (net.setEngine party d.engine).correlation := by
  unfold settleDispatch
  refine (correlation_wakeTasks ..).trans ?_
  -- a record of what was handled, and the wakes of the waiter, change nothing here
  cases d.handled <;> cases d.completed
  · rfl
  · exact correlation_wakeTasks ..
  · rfl
  · exact correlation_wakeTasks ..

/-- A dispatch may change an engine's table, and nothing else matters to requests. -/
theorem correlation_setEngine_dispatch {party : ℕ} {engine : Engine}
    (h : net.engine? party = some engine) (topic : String) (payload : Bytes) :
    (net.setEngine party (engine.dispatch topic payload).engine).correlation =
      net.correlation.setTable party (engine.dispatch topic payload).engine.pending := by
  apply correlation_setEngine net h
  · unfold Engine.dispatch
    split <;> rfl
  · unfold Engine.dispatch
    split <;> rfl

/-- A delivery that an engine gets is dispatched there. -/
theorem arrive_of_arrival {endpoint : ℕ} {delivery : Delivery} {d : Dispatch}
    (h : net.arrival? endpoint delivery = some d) : net.arrive endpoint delivery =
      net.settleDispatch d.party (d.engine.dispatch d.delivery.topic d.delivery.payload) := by
  unfold arrival? at h
  unfold arrive
  split at h
  · next party sink =>
    rw [sink]
    split at h
    · next held =>
      obtain ⟨engine, here, rfl⟩ := Option.map_eq_some_iff.1 h
      simp only [held, if_true, here]
    · cases h
  · cases h
  · cases h

/-- A delivery that no engine gets leaves requests alone. -/
theorem correlation_arrive_of_none {endpoint : ℕ} {delivery : Delivery}
    (h : net.arrival? endpoint delivery = none) :
    (net.arrive endpoint delivery).correlation = net.correlation := by
  unfold arrival? at h
  unfold arrive
  split at h
  · next party sink =>
    rw [sink]
    split at h
    · next held => simp only [held, if_true, Option.map_eq_none_iff.1 h]
    · next free =>
      dsimp only
      rw [if_neg free]
  · next sink => rw [sink]; rfl
  · next sink => rw [sink]

theorem deliver_of_dispatch {session : ℕ} {d : Dispatch} (h : net.dispatch? session = some d) :
    net.deliver session = ({ net with hub := (net.hub.deliver session).1 } : Network).settleDispatch
      d.party (d.engine.dispatch d.delivery.topic d.delivery.payload) := by
  obtain ⟨next, eq, arrives⟩ := Option.bind_eq_some_iff.1 h
  have split : net.hub.deliver session = ((net.hub.deliver session).1, some next) := Prod.ext rfl eq
  unfold deliver
  rw [split]
  exact arrive_of_arrival arrives

theorem correlation_deliver_of_none {session : ℕ} (h : net.dispatch? session = none) :
    (net.deliver session).correlation = net.correlation := by
  unfold deliver
  split
  · next eq =>
    rw [dispatch?, eq] at h
    exact correlation_arrive_of_none h
  · rfl

/-- The engine that a delivery is dispatched to may change its table, and nothing else matters. -/
theorem correlation_deliver_of_dispatch {session : ℕ} {d : Dispatch}
    (h : net.dispatch? session = some d) :
    (net.deliver session).correlation = net.correlation.setTable d.party
      (d.engine.dispatch d.delivery.topic d.delivery.payload).engine.pending := by
  rw [deliver_of_dispatch h, correlation_settleDispatch]
  exact correlation_setEngine_dispatch (engine?_of_dispatch h) ..

/-- A message that is dispatched is offered to the requests that wait. -/
theorem correlation_deliver {session : ℕ} {d : Dispatch} {m : Message}
    (h : net.dispatch? session = some d) (carries : d.Carries m) :
    (net.deliver session).correlation = net.correlation.setTable d.party
      (d.engine.pending.complete d.engine.strict d.delivery.topic m).1 := by
  rw [correlation_deliver_of_dispatch h, Engine.dispatch, carries]
  rfl

/-- A delivery that no engine gets, or that is no message, leaves requests alone. -/
theorem correlation_deliver_of_forall {session : ℕ}
    (h : ∀ d m, net.dispatch? session = some d → ¬ d.Carries m) :
    (net.deliver session).correlation = net.correlation := by
  cases eq : net.dispatch? session with
  | none => exact correlation_deliver_of_none eq
  | some d =>
    rw [correlation_deliver_of_dispatch eq, Engine.dispatch]
    cases decoded : d.engine.codec.decode d.delivery.payload with
    | ok m => exact absurd decoded (h d m eq)
    | error e =>
      have table : net.correlation.table d.party = some d.engine.pending :=
        table_of_engine (engine?_of_dispatch eq)
      exact Correlation.setTable_eq_self table

/-! ## Steps -/

/-- Whether a step leaves requests alone. -/
def Idles (net : Network) : Action → Prop
  | .operate _ | .cancel _ | .setOnline _ | .restart => True
  | .elapse _ | .request _ => False
  | .deliver session => ∀ d m, net.dispatch? session = some d → ¬ d.Carries m
  | .poll i _ => ∀ task, net.request? i = some task →
      task.state.isOver = true ∨ task.state = .fresh ∧ net.table? task.party = none
  | .drop i => ∀ task, net.request? i = some task → task.state.isOver = true

/-- What a step does to requests. -/
inductive Effect (net : Network) : Action → Correlation → Prop where
  | idle {a} : net.Idles a → Effect net a net.correlation
  | elapsed {milliseconds} :
      Effect net (.elapse milliseconds)
        { net.correlation with clock := net.clock + milliseconds }
  | opened {task} :
      Effect net (.request task)
        (net.correlation.setRequest net.tasks.length { task with cancelled := false, state := .fresh })
  | signalled {i task} : net.request? i = some task → task.state.isOver = false →
      Effect net (.cancel i) (net.correlation.setRequest i { task with cancelled := true })
  | dispatched {session d m} : net.dispatch? session = some d → d.Carries m →
      Effect net (.deliver session) (net.correlation.setTable d.party
        (d.engine.pending.complete d.engine.strict d.delivery.topic m).1)
  | discarded {i task} : net.request? i = some task → task.state = .fresh →
      Effect net (.drop i) (net.correlation.setRequest i { task with state := .dropped })
  | dropped {i task r} : net.request? i = some task → task.state = .running r →
      Effect net (.drop i) (net.correlation.close i task r .dropped)
  | refused {i cancelFirst task t} : net.request? i = some task → task.state = .fresh →
      net.table? task.party = some t → net.uidOf task ∈ t.keys →
      Effect net (.poll i cancelFirst)
        ((net.correlation.setTable task.party
          (t.refuse (task.expectation (net.uidOf task)))).setRequest i
          { task with state := .finished (.error (.duplicateRequest (net.uidOf task))) })
  | started {i cancelFirst task t c} : net.request? i = some task → task.state = .fresh →
      net.table? task.party = some t → net.uidOf task ∉ t.keys →
      (net.correlation.setTable task.party
          (t.register (task.expectation (net.uidOf task))).1).Look i task
        ⟨(net.identify task.message).2, t.nextTicket (net.uidOf task),
          deadlineFrom net.clock task.timeout, .awaiting⟩ cancelFirst False c →
      Effect net (.poll i cancelFirst) c
  | looked {i cancelFirst task r c} : net.request? i = some task → task.state = .running r →
      net.correlation.Look i task r cancelFirst (net.correlation.Listens task r) c →
      Effect net (.poll i cancelFirst) c

theorem poll_of_request {i : ℕ} {task : RequestTask} (h : net.request? i = some task)
    (cancelFirst : Bool) : net.poll i cancelFirst = net.pollRequest i task cancelFirst := by
  simp only [poll, request?_eq_some.1 h]

/-- A task that is no request does nothing to requests. -/
theorem correlation_poll_of_none {i : ℕ} (h : net.request? i = none) (cancelFirst : Bool) :
    (net.poll i cancelFirst).correlation = net.correlation := by
  unfold poll
  split
  · rfl
  · exact correlation_pollOperation net h _
  · next here => cases h.symm.trans (request?_eq_some.2 here)
  · exact correlation_pollResubscription net h _
  · exact correlation_pollResponder net h _

/-- A request that was registered is looked at when it is polled. -/
theorem look_poll {i : ℕ} {task : RequestTask} {r : Running} (h : net.request? i = some task)
    (running : task.state = .running r) (cancelFirst : Bool) :
    net.correlation.Look i task r cancelFirst (net.correlation.Listens task r)
      (net.poll i cancelFirst).correlation := by
  rw [poll_of_request h, pollRequest, running]
  exact look_of_exchanged cancelFirst h (exchanged_resumeExchange ..)

theorem effect_startRequest {i : ℕ} {task : RequestTask} (h : net.request? i = some task)
    (fresh : task.state = .fresh) (cancelFirst : Bool) :
    Effect net (.poll i cancelFirst) (net.startRequest i task cancelFirst).correlation := by
  cases table : net.table? task.party with
  | none =>
    have none_ : (net.identify task.message).1.engine? task.party = none := by
      rw [engine?_identify]
      exact Option.map_eq_none_iff.1 table
    have same : (net.startRequest i task cancelFirst).correlation = net.correlation := by
      unfold startRequest
      dsimp only
      rw [none_]
      exact correlation_identify ..
    rw [same]
    refine .idle fun task' here => .inr ?_
    cases h.symm.trans here
    exact ⟨fresh, table⟩
  | some t =>
    by_cases mem : net.uidOf task ∈ t.keys
    · rw [correlation_startRequest_of_mem h table mem]
      exact .refused h fresh table mem
    · exact .started h fresh table mem (look_startRequest h table mem cancelFirst)

theorem effect_poll (net : Network) (i : ℕ) (cancelFirst : Bool) :
    Effect net (.poll i cancelFirst) (net.poll i cancelFirst).correlation := by
  cases here : net.request? i with
  | none =>
    rw [correlation_poll_of_none here]
    exact .idle fun task eq => nomatch here.symm.trans eq
  | some task =>
    have ended (h : task.state.isOver = true) : net.Idles (.poll i cancelFirst) := by
      intro task' eq
      cases here.symm.trans eq
      exact .inl h
    cases state : task.state with
    | fresh =>
      rw [poll_of_request here, pollRequest, state]
      exact effect_startRequest here state cancelFirst
    | running r => exact .looked here state (look_poll here state cancelFirst)
    | finished result =>
      rw [poll_of_request here, pollRequest, state]
      exact .idle (ended (by rw [state]; rfl))
    | dropped =>
      rw [poll_of_request here, pollRequest, state]
      exact .idle (ended (by rw [state]; rfl))

/-- A request takes the signal to cancel while it is under way, and once. -/
theorem cancelRequest_eq (net : Network) (i : ℕ) (task : RequestTask) :
    net.cancelRequest i task =
      if task.state.isOver = false ∧ task.cancelled = false then
        ((net.setTask i (.request { task with cancelled := true })).wake (.poll i), true)
      else (net, false) := by
  unfold cancelRequest
  cases task.state <;> simp [RequestState.isOver]

theorem effect_cancel (net : Network) (i : ℕ) :
    Effect net (.cancel i) (net.cancel i).1.correlation := by
  unfold cancel
  split
  · next task here =>
    have here := request?_eq_some.2 here
    rw [cancelRequest_eq]
    split
    · next underWay =>
      rw [correlation_wake, correlation_setRequest _ here]
      exact .signalled here underWay.1
    · exact .idle trivial
  · exact .idle trivial

theorem effect_drop (net : Network) (i : ℕ) : Effect net (.drop i) (net.drop i).1.correlation := by
  unfold drop
  split
  · next task here =>
    have here := request?_eq_some.2 here
    have ended (h : task.state.isOver = true) : net.Idles (.drop i) := by
      intro task' eq
      cases here.symm.trans eq
      exact h
    unfold dropRequest
    split
    · next fresh =>
      rw [correlation_setRequest _ here]
      exact .discarded here fresh
    · next r running =>
      rw [correlation_endRequest here]
      exact .dropped here running
    · next finished => exact .idle (ended (by rw [finished]; rfl))
    · next dropped => exact .idle (ended (by rw [dropped]; rfl))
  · next none_ =>
    refine .idle fun task here => absurd (request?_eq_some.1 here) (none_ task)

/-- What every step does to requests. -/
theorem effect_step (net : Network) (a : Action) : Effect net a (net.step a).correlation := by
  cases a with
  | operate task =>
    rw [step, correlation_spawn net rfl]
    exact .idle trivial
  | request task =>
    rw [step, correlation_spawnRequest]
    exact .opened
  | poll i cancelFirst => exact effect_poll net i cancelFirst
  | deliver session =>
    by_cases h : ∃ d m, net.dispatch? session = some d ∧ d.Carries m
    · obtain ⟨d, m, here, carries⟩ := h
      rw [step, correlation_deliver here carries]
      exact .dispatched here carries
    · have none_ : ∀ d m, net.dispatch? session = some d → ¬ d.Carries m :=
        fun d m here carries => h ⟨d, m, here, carries⟩
      rw [step, correlation_deliver_of_forall none_]
      exact .idle none_
  | elapse milliseconds => exact .elapsed
  | cancel i => exact effect_cancel net i
  | drop i => exact effect_drop net i
  | setOnline online => exact .idle trivial
  | restart => exact .idle trivial

/-! ## What becomes of one request -/

/-- A request that is looked at goes on or ends, and no other request changes. -/
theorem request_of_look {c c' : Correlation} {i : ℕ} {task : RequestTask} {r : Running}
    {cancelFirst : Bool} {due : Prop} (look : c.Look i task r cancelFirst due c') :
    ∃ state, state ≠ .fresh ∧
      c'.request = Function.update c.request i (some { task with state }) := by
  cases look with
  | @goesOn stage => exact ⟨.running { r with stage }, by simp, rfl⟩
  | @ends result => exact ⟨.finished result, by simp, rfl⟩

/-- The requests after a step. -/
inductive Reworked (net : Network) : Action → (ℕ → Option RequestTask) → Prop where
  | same {a} : Reworked net a net.request?
  | opened {task} : Reworked net (.request task)
      (Function.update net.request? net.tasks.length
        (some { task with cancelled := false, state := .fresh }))
  | signalled {i task} : net.request? i = some task → task.state.isOver = false →
      Reworked net (.cancel i)
        (Function.update net.request? i (some { task with cancelled := true }))
  | moved {a i task state} : a = .drop i ∨ (∃ cancelFirst, a = .poll i cancelFirst) →
      net.request? i = some task → task.state.isOver = false → state ≠ .fresh →
      Reworked net a (Function.update net.request? i (some { task with state }))

theorem reworked_step (net : Network) (a : Action) : Reworked net a (net.step a).request? := by
  have running {task : RequestTask} {r : Running} (h : task.state = .running r) :
      task.state.isOver = false := by rw [h]; rfl
  have fresh {task : RequestTask} (h : task.state = .fresh) : task.state.isOver = false := by
    rw [h]; rfl
  have effect := effect_step net a
  generalize eq : (net.step a).correlation = c at effect
  rw [show (net.step a).request? = c.request from congrArg Correlation.request eq]
  cases effect with
  | idle | elapsed | dispatched => exact .same
  | opened => exact .opened
  | signalled here underWay => exact .signalled here underWay
  | discarded here state => exact .moved (.inl rfl) here (fresh state) (by simp)
  | dropped here state => exact .moved (.inl rfl) here (running state) (by simp)
  | refused here state => exact .moved (.inr ⟨_, rfl⟩) here (fresh state) (by simp)
  | started here state _ _ look =>
    obtain ⟨state', ne, eq⟩ := request_of_look look
    rw [eq]
    exact .moved (.inr ⟨_, rfl⟩) here (fresh state) ne
  | looked here state look =>
    obtain ⟨state', ne, eq⟩ := request_of_look look
    rw [eq]
    exact .moved (.inr ⟨_, rfl⟩) here (running state) ne

/-- A request stays what it is apart from its state, which only its own polls and its being dropped
    change, and its signal to cancel. -/
theorem exists_request_step {i : ℕ} {task : RequestTask} (h : net.request? i = some task)
    (a : Action) : ∃ cancelled state,
      (net.step a).request? i = some { task with cancelled, state } ∧
      (state = task.state ∨ task.state.isOver = false ∧ state ≠ .fresh ∧
        (a = .drop i ∨ ∃ cancelFirst, a = .poll i cancelFirst)) ∧
      (cancelled = task.cancelled ∨ a = .cancel i) := by
  have step := reworked_step net a
  generalize (net.step a).request? = request at step
  cases step with
  | same => exact ⟨_, _, h, .inl rfl, .inl rfl⟩
  | opened =>
    have ne : i ≠ net.tasks.length := by
      rintro rfl
      rw [request?_of_length_le net (Nat.le_refl _)] at h
      cases h
    exact ⟨_, _, by rw [Function.update_of_ne ne, h], .inl rfl, .inl rfl⟩
  | @signalled j _ here underWay =>
    by_cases same : i = j
    · subst same
      cases h.symm.trans here
      exact ⟨_, _, Function.update_self .., .inl rfl, .inr rfl⟩
    · exact ⟨_, _, by rw [Function.update_of_ne same, h], .inl rfl, .inl rfl⟩
  | @moved _ j _ _ cause here underWay ne =>
    by_cases same : i = j
    · subst same
      cases h.symm.trans here
      exact ⟨_, _, Function.update_self .., .inr ⟨underWay, ne, cause⟩, .inl rfl⟩
    · exact ⟨_, _, by rw [Function.update_of_ne same, h], .inl rfl, .inl rfl⟩

/-- What a step makes of a request that is there. -/
inductive Advances (net : Network) (i : ℕ) (task : RequestTask) (a : Action) :
    RequestTask → Prop where
  | stays : Advances net i task a task
  | signalled : a = .cancel i → task.state.isOver = false →
      Advances net i task a { task with cancelled := true }
  | dropped : a = .drop i → Advances net i task a { task with state := .dropped }
  | refused {cancelFirst} : a = .poll i cancelFirst → task.state = .fresh →
      Advances net i task a
        { task with state := .finished (.error (.duplicateRequest (net.uidOf task))) }
  | started {cancelFirst t task'} : a = .poll i cancelFirst → task.state = .fresh →
      net.table? task.party = some t → net.uidOf task ∉ t.keys →
      (net.correlation.setTable task.party
          (t.register (task.expectation (net.uidOf task))).1).Look i task
        ⟨(net.identify task.message).2, t.nextTicket (net.uidOf task),
          deadlineFrom net.clock task.timeout, .awaiting⟩ cancelFirst False
        (net.step a).correlation →
      Advances net i task a task'
  | looked {cancelFirst r task'} : a = .poll i cancelFirst → task.state = .running r →
      net.correlation.Look i task r cancelFirst (net.correlation.Listens task r)
        (net.step a).correlation →
      Advances net i task a task'

theorem advances_step {i : ℕ} {task task' : RequestTask} (here : net.request? i = some task)
    {a : Action} (there : (net.step a).request? i = some task') :
    net.Advances i task a task' := by
  have effect := effect_step net a
  have after : (net.step a).correlation.request i = some task' := there
  clear there
  -- another request moves, and this one stays
  have other {j : ℕ} {new : Option RequestTask} (ne : i ≠ j)
      (after : Function.update net.correlation.request j new i = some task') :
      net.Advances i task a task' := by
    rw [Function.update_of_ne ne] at after
    cases here.symm.trans after
    exact .stays
  generalize eq : (net.step a).correlation = c at effect after
  cases effect with
  | idle | elapsed | dispatched =>
    cases here.symm.trans after
    exact .stays
  | opened =>
    refine other ?_ after
    rintro rfl
    rw [request?_of_length_le net (Nat.le_refl _)] at here
    cases here
  | @signalled j _ there underWay =>
    by_cases same : i = j
    · subst same
      rw [Correlation.request_setRequest_self] at after
      cases after
      cases here.symm.trans there
      exact .signalled rfl underWay
    · exact other same after
  | @discarded j _ there =>
    by_cases same : i = j
    · subst same
      rw [Correlation.request_setRequest_self] at after
      cases after
      cases here.symm.trans there
      exact .dropped rfl
    · exact other same after
  | @dropped j _ _ there =>
    by_cases same : i = j
    · subst same
      rw [Correlation.request_close_self] at after
      cases after
      cases here.symm.trans there
      exact .dropped rfl
    · exact other same after
  | @refused j _ _ _ there fresh =>
    by_cases same : i = j
    · subst same
      rw [Correlation.request_setRequest_self] at after
      cases after
      cases here.symm.trans there
      exact .refused rfl fresh
    · exact other same after
  | @started j _ _ _ _ there fresh table absent look =>
    by_cases same : i = j
    · subst same
      cases here.symm.trans there
      exact .started rfl fresh table absent (eq ▸ look)
    · obtain ⟨state, -, moved⟩ := request_of_look look
      exact other same (moved ▸ after)
  | @looked j _ _ _ _ there running look =>
    by_cases same : i = j
    · subst same
      cases here.symm.trans there
      exact .looked rfl running (eq ▸ look)
    · obtain ⟨state, -, moved⟩ := request_of_look look
      exact other same (moved ▸ after)

/-- A request that was not there before a step is a new one. -/
theorem request_step_of_none {i : ℕ} {task : RequestTask} (h : net.request? i = none) {a : Action}
    (after : (net.step a).request? i = some task) : task.state = .fresh := by
  have step := reworked_step net a
  generalize (net.step a).request? = request at step after
  cases step with
  | same => cases h.symm.trans after
  | opened =>
    by_cases same : i = net.tasks.length
    · subst same
      rw [Function.update_self] at after
      cases after
      rfl
    · rw [Function.update_of_ne same, h] at after
      cases after
  | @signalled j _ here | @moved _ j _ _ _ here =>
    have ne : i ≠ j := by
      rintro rfl
      cases h.symm.trans here
    rw [Function.update_of_ne ne, h] at after
    cases after

end HomeBus.Network
