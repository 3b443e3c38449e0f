import HomeBus.Proofs.Network.Facades
import HomeBus.Proofs.Network.Listening

/-!
# What facades remember

A facade remembers a subscription when its endpoint granted it, and never forgets one. So what a
client's facade remembers is what was granted to it over the run, in order; and when all its
re-subscriptions were made, its session is subscribed to all of it, whatever sessions came before.

Results:
* `subscriptions?_of_call`: a facade that asks for a subscription remembers it if it is granted.
* `Serves.subscriptions?_pollOperation`, `Serves.subscriptions?_pollRequest`: what operations and
  requests add to what a client's facade remembers.
* `Serves.subscriptions?_step`, `Serves.subscriptions?_run`: what a step and a run add to what a
  client's facade remembers.
* `subscriptions_survive_reconnects`: in every state, what a client's facade remembers and what its
  session is subscribed to.
-/

namespace HomeBus

/-- Whether a call was answered, and did not fail. -/
def Progress.isGranted : Progress → Bool
  | .done (.ok ()) => true
  | .done (.error _) | .waiting _ => false

theorem Progress.isGranted_iff {progress : Progress} :
    progress.isGranted = true ↔ progress = .done (.ok ()) := by
  unfold isGranted
  split <;> simp_all

/-- Whether an operation has a party's facade subscribe to a topic. -/
def OperationTask.Subscribing (task : OperationTask) (party : ℕ) : Prop :=
  task.party = party ∧ task.throughFacade = true ∧
    ∃ topic qos, task.operation = .subscribe topic qos

namespace Network

variable {net net' : Network} {party endpoint i : ℕ}

/-! ## What is remembered -/

/-- What a party's facade remembers. -/
def subscriptions? (net : Network) (party : ℕ) : Option (List Subscription) :=
  (net.facade? party).map Facade.subscriptions

theorem subscriptions?_congr (h : net'.facade? = net.facade?) :
    net'.subscriptions? = net.subscriptions? := by
  funext other
  rw [subscriptions?, h, subscriptions?]

theorem subscriptions?_callThrough (net : Network) (party : ℕ) (facade : Facade)
    (operation : Operation) :
    (net.callThrough party facade operation).1.subscriptions? = net.subscriptions? := by
  cases operation with
  | connect options =>
    refine (subscriptions?_congr (facade?_call ..)).trans (funext fun other => ?_)
    rw [subscriptions?, facade?_modifyFacade, subscriptions?]
    split
    · cases net.facade? other <;> rfl
    · rfl
  | close => exact subscriptions?_congr (facade?_call ..)
  | subscribe topic qos =>
    rw [callThrough]
    split
    · rfl
    · exact subscriptions?_congr (facade?_call ..)
  | publish topic payload qos retain => exact subscriptions?_congr (facade?_call ..)

theorem subscriptions?_startOperation (net : Network) (p : Party) (task : OperationTask) :
    (net.startOperation p task).1.subscriptions? = net.subscriptions? := by
  unfold startOperation
  split
  · exact subscriptions?_callThrough ..
  · unfold callDirectly
    split <;> exact subscriptions?_congr (facade?_call ..)

theorem subscriptions?_remember_of_ne {other : ℕ} (ne : other ≠ party) (net : Network)
    (topic : String) (qos : QoS) :
    (net.remember other topic qos).subscriptions? party = net.subscriptions? party := by
  rw [subscriptions?, remember, facade?_modifyFacade, if_neg ne, subscriptions?]

theorem subscriptions?_remember {facade : Facade} (here : net.facade? party = some facade)
    (topic : String) (qos : QoS) : (net.remember party topic qos).subscriptions? party =
      some (facade.remember topic qos).subscriptions := by
  rw [subscriptions?, remember, facade?_modifyFacade, if_pos rfl, here]
  rfl

/-! ## What is granted -/

/-- What a step has a party's facade subscribe to, whether or not the facade knows the topic. -/
def wanted? (net : Network) (party : ℕ) (facade : Facade) : Action → Option Subscription
  | .poll i cancelFirst =>
    match net.tasks[i]? with
    | some (.operation ⟨other, true, .subscribe topic qos, .fresh⟩) =>
      if other = party then some ⟨topic, qos.getD facade.defaultQos⟩ else none
    | some (.request task) =>
      match task.state, net.engine? party with
      | .fresh, some engine =>
        if task.party ≠ party ∨ net.uidOf task ∈ engine.pending.keys ∨
          (cancelFirst && task.cancellable && task.cancelled) = true then none
        else some ⟨task.responseTopic, facade.defaultQos⟩
      | _, _ => none
    | _ => none
  | _ => none

/-- A subscription that a facade makes at its endpoint, which grants it; a facade does not ask for
    a topic that it knows. -/
def grant? (net : Network) (facade : Facade) (s : Subscription) : Option Subscription :=
  if facade.isSubscribed s.topic then none
  else if (net.call facade.endpoint (.subscribe s.topic s.qos)).2.isGranted then some s
  else none

/-- The subscription that is granted to a party's facade in a step. -/
def granted? (net : Network) (party : ℕ) (a : Action) : Option Subscription :=
  (net.facade? party).bind fun facade => (net.wanted? party facade a).bind (net.grant? facade)

/-- The subscriptions that are granted to a party's facade in a run, in order. -/
def granted (net : Network) (party : ℕ) : List Action → List Subscription
  | [] => []
  | a :: actions => (net.granted? party a).toList ++ (net.step a).granted party actions

variable {facade : Facade} {a : Action}

/-- What is granted is remembered at the end of the others. -/
theorem subscriptions_remember (s : Subscription)
    (granted : (net.call facade.endpoint (.subscribe s.topic s.qos)).2.isGranted = true) :
    (facade.remember s.topic s.qos).subscriptions =
      facade.subscriptions ++ (net.grant? facade s).toList := by
  unfold Facade.remember grant?
  by_cases known : facade.isSubscribed s.topic = true
  · rw [if_pos known, if_pos known]
    exact (List.append_nil _).symm
  · rw [if_neg known, if_neg known, if_pos granted]
    rfl

theorem grant?_of_refused (s : Subscription)
    (refused : (net.call facade.endpoint (.subscribe s.topic s.qos)).2.isGranted = false) :
    net.grant? facade s = none := by
  unfold grant?
  rw [refused]
  split <;> rfl

theorem grant?_of_known {s : Subscription} (known : facade.isSubscribed s.topic = true) :
    net.grant? facade s = none :=
  if_pos known

/-- The hub grants a subscription to a client that has a session. -/
theorem grant?_of_client (client : net.wiring.Client party endpoint)
    (stands : facade.endpoint = endpoint) (s : Subscription) : net.grant? facade s =
      if facade.isSubscribed s.topic = false ∧ net.hub.isConnected endpoint = true then some s
      else none := by
  subst stands
  have answered : (net.call facade.endpoint (.subscribe s.topic s.qos)).2.isGranted =
      net.hub.isConnected facade.endpoint := by
    rw [call_of_client client]
    rcases net.hub.subscribe_cases facade.endpoint s.topic with
      ⟨id, there, open_, eq⟩ | ⟨off, e, eq⟩
    · rw [Hub.isConnected_iff.2 ⟨id, there, open_⟩]
      simp only [callHub, eq]
      rfl
    · rw [off]
      simp only [callHub, eq]
      rfl
  unfold grant?
  rw [answered]
  cases facade.isSubscribed s.topic <;> simp

theorem granted?_eq (here : net.facade? party = some facade) (a : Action) :
    net.granted? party a = (net.wanted? party facade a).bind (net.grant? facade) := by
  rw [granted?, here]
  rfl

/-- What is granted was not known. -/
theorem not_mem_of_granted? {s : Subscription} (granted : net.granted? party a = some s)
    (here : net.facade? party = some facade) :
    s.topic ∉ facade.subscriptions.map Subscription.topic := by
  rw [granted?_eq here] at granted
  obtain ⟨s', -, granted⟩ := Option.bind_eq_some_iff.1 granted
  unfold grant? at granted
  split_ifs at granted with known
  cases granted
  intro mem
  obtain ⟨other, mem, same⟩ := List.mem_map.1 mem
  exact known (List.any_eq_true.2 ⟨other, mem, beq_iff_eq.2 same⟩)

/-- A step in which the facade is not made to subscribe to anything adds nothing. -/
theorem subscriptions?_of_not_wanted (here : net.facade? party = some facade)
    (none_ : net.wanted? party facade a = none)
    (same : net'.subscriptions? party = net.subscriptions? party) : net'.subscriptions? party =
      some (facade.subscriptions ++ (net.granted? party a).toList) := by
  rw [same, granted?_eq here, none_, subscriptions?, here]
  exact congrArg some (List.append_nil _).symm

/-- A facade that asks its endpoint for a subscription remembers it if it is granted. -/
theorem subscriptions?_of_call (here : net.facade? party = some facade) (s : Subscription)
    (after : Network × Progress → Network)
    (granted : ∀ mid, mid.facade? party = some facade → (after (mid, .done (.ok ()))).subscriptions?
      party = (mid.remember party s.topic s.qos).subscriptions? party)
    (refused : ∀ mid progress, progress.isGranted = false →
      (after (mid, progress)).subscriptions? party = mid.subscriptions? party) :
    (after (net.call facade.endpoint (.subscribe s.topic s.qos))).subscriptions? party =
      some (facade.subscriptions ++ (net.grant? facade s).toList) := by
  have still := facade?_call net facade.endpoint (.subscribe s.topic s.qos)
  have there := (congrFun still party).trans here
  cases answer : (net.call facade.endpoint (.subscribe s.topic s.qos)).2.isGranted with
  | true =>
    have done := Progress.isGranted_iff.1 answer
    rw [← subscriptions_remember s answer, ← subscriptions?_remember there, ← granted _ there,
      ← done]
  | false =>
    rw [refused _ _ answer, subscriptions?, there, grant?_of_refused s answer]
    exact congrArg some (List.append_nil _).symm

/-! ## Operations -/

theorem subscriptions?_afterCall {task : OperationTask} (other : ¬ task.Subscribing party)
    (result : Except Error Unit) :
    (net.afterCall task result).subscriptions? party = net.subscriptions? party := by
  unfold afterCall
  split
  · next topic qos facade through operation _ =>
    exact subscriptions?_remember_of_ne (fun own => other ⟨own, through, topic, qos, operation⟩) ..
  · rfl

theorem subscriptions?_settleOperation {task : OperationTask} (other : ¬ task.Subscribing party)
    (out : Network × Progress) :
    (settleOperation i task out).subscriptions? party = out.1.subscriptions? party := by
  unfold settleOperation
  split
  · rfl
  · exact subscriptions?_afterCall other _

/-- Only operations that have a party's facade subscribe add to what it remembers. -/
theorem subscriptions?_pollOperation_of_not {task : OperationTask}
    (other : ¬ task.Subscribing party) :
    (net.pollOperation i task).subscriptions? party = net.subscriptions? party := by
  cases partyHere : net.party? task.party with
  | none =>
    unfold pollOperation
    rw [partyHere]
    cases task.state <;> rfl
  | some p =>
    cases state : task.state with
    | finished result =>
      unfold pollOperation
      rw [state]
    | waiting w =>
      rw [pollOperation_of_waiting partyHere state, subscriptions?_settleOperation other,
        subscriptions?_congr (facade?_resume ..)]
    | fresh =>
      rw [pollOperation_of_fresh partyHere state, subscriptions?_settleOperation other,
        subscriptions?_startOperation]

/-- A facade that is made to subscribe remembers what is granted. -/
theorem subscriptions?_settleOperation_subscribe (here : net.facade? party = some facade)
    (topic : String) (qos : Option QoS) :
    (settleOperation i ⟨party, true, .subscribe topic qos, .fresh⟩
      (net.callThrough party facade (.subscribe topic qos))).subscriptions? party =
        some (facade.subscriptions ++
          (net.grant? facade ⟨topic, qos.getD facade.defaultQos⟩).toList) := by
  have remembers {mid : Network} (there : mid.facade? party = some facade) :
      (mid.afterCall ⟨party, true, .subscribe topic qos, .fresh⟩ (.ok ())).subscriptions? party =
        (mid.remember party topic (qos.getD facade.defaultQos)).subscriptions? party := by
    simp only [afterCall, there]
  rw [callThrough]
  split
  · next known =>
    rw [grant?_of_known known]
    refine (remembers here).trans ((subscriptions?_remember here ..).trans ?_)
    rw [Facade.remember, if_pos known]
    exact congrArg some (List.append_nil _).symm
  · refine subscriptions?_of_call here ⟨topic, qos.getD facade.defaultQos⟩ (settleOperation i _)
      (fun mid there => remembers there) fun mid progress refused => ?_
    obtain (e | ⟨⟩) | w := progress
    · rfl
    · cases refused
    · rfl

/-- What an operation adds to what a client's facade remembers. -/
theorem Serves.subscriptions?_pollOperation (h : net.Serves party endpoint)
    (here : net.facade? party = some facade) {task : OperationTask}
    (at_ : net.tasks[i]? = some (.operation task)) (cancelFirst : Bool) :
    (net.pollOperation i task).subscriptions? party =
      some (facade.subscriptions ++ (net.granted? party (.poll i cancelFirst)).toList) := by
  have prompt : Task.Prompt party endpoint (.operation task) :=
    h.steady.prompt _ (List.mem_of_getElem? at_)
  obtain ⟨owner, through, operation, state⟩ := task
  by_cases own : OperationTask.Subscribing ⟨owner, through, operation, state⟩ party
  · obtain ⟨rfl, rfl, topic, qos, rfl⟩ := own
    obtain ⟨-, p, -, -, -, -, partyHere, -⟩ := exists_client h.steady.client
    cases state with
    | fresh =>
      have through :
          (OperationTask.mk owner true (.subscribe topic qos) .fresh).throughFacade = true := rfl
      obtain ⟨_, there, started⟩ :=
        startOperation_of_client h.steady.toSound partyHere rfl through
      cases here.symm.trans there
      rw [pollOperation_of_fresh partyHere rfl, started,
        subscriptions?_settleOperation_subscribe here, granted?_eq here]
      simp only [wanted?, at_, if_true, Option.bind_some]
    | waiting w => exact absurd rfl (prompt rfl rfl w)
    | finished result =>
      refine subscriptions?_of_not_wanted here ?_ (by rw [pollOperation])
      simp only [wanted?, at_]
  · refine subscriptions?_of_not_wanted here ?_ (subscriptions?_pollOperation_of_not own)
    simp only [wanted?, at_]
    split
    · next eq =>
      cases eq
      exact if_neg fun same => own ⟨same, rfl, _, _, rfl⟩
    · next eq => cases eq
    · rfl

/-! ## Requests -/

section Requests

variable {task : RequestTask}

/-- A request that starts adds its response topic, if the facade is granted it. -/
theorem subscriptions?_startExchange (here : net.facade? task.party = some facade) (r : Running) :
    (net.startExchange task r).1.subscriptions? task.party = some (facade.subscriptions ++
      (net.grant? facade ⟨task.responseTopic, facade.defaultQos⟩).toList) := by
  unfold startExchange
  rw [here]
  dsimp only
  split
  · next known =>
    rw [grant?_of_known known, subscriptions?_congr (facade?_publishRequest ..), subscriptions?,
      here]
    exact congrArg some (List.append_nil _).symm
  · refine subscriptions?_of_call here ⟨task.responseTopic, facade.defaultQos⟩
      (fun out => (out.1.afterSubscribe task r facade.defaultQos out.2).1) (fun mid there => ?_)
      fun mid progress refused => ?_
    · exact congrFun (subscriptions?_congr (facade?_publishRequest ..)) _
    · obtain (e | ⟨⟩) | w := progress
      · rfl
      · cases refused
      · rfl

theorem subscriptions?_afterSubscribe_of_ne (ne : task.party ≠ party) (net : Network) (r : Running)
    (qos : QoS) (progress : Progress) :
    (net.afterSubscribe task r qos progress).1.subscriptions? party = net.subscriptions? party := by
  unfold afterSubscribe
  split
  · rw [subscriptions?_congr (facade?_publishRequest ..), subscriptions?_remember_of_ne ne]
  · rfl
  · rfl

theorem subscriptions?_startExchange_of_ne (ne : task.party ≠ party) (net : Network) (r : Running) :
    (net.startExchange task r).1.subscriptions? party = net.subscriptions? party := by
  unfold startExchange
  split
  · rfl
  · split
    · rw [subscriptions?_congr (facade?_publishRequest ..)]
    · rw [subscriptions?_afterSubscribe_of_ne ne, subscriptions?_congr (facade?_call ..)]

/-- A request that only waits for its reply adds nothing, and neither do those of others. -/
theorem subscriptions?_resumeExchange (net : Network) {r : Running}
    (awaiting : task.party = party → r.stage = .awaiting) :
    (net.resumeExchange task r).1.subscriptions? party = net.subscriptions? party := by
  unfold resumeExchange
  split
  · rfl
  · next facade _ =>
    split
    · next w at_ =>
      have ne : task.party ≠ party := fun same => nomatch at_.symm.trans (awaiting same)
      rw [subscriptions?_afterSubscribe_of_ne ne, subscriptions?_congr (facade?_resume ..)]
    · rw [subscriptions?_congr ((facade?_afterPublish ..).trans (facade?_resume ..))]
    · rw [subscriptions?_congr (facade?_of_wiring (wiring_awaitReply ..))]

theorem subscriptions?_look (net : Network) (i : ℕ) (task : RequestTask) (r : Running)
    (cancelFirst : Bool) (exchange : Network → RequestTask → Running → Network × Exchange) :
    (net.look i task r cancelFirst exchange).subscriptions? =
      if (cancelFirst && task.cancellable && task.cancelled) = true then net.subscriptions?
      else (exchange net task r).1.subscriptions? := by
  unfold look
  split
  · exact subscriptions?_congr (facade?_endRequest ..)
  · exact subscriptions?_congr (facade?_conclude ..)

/-- A request that starts adds nothing, or it starts its exchange. -/
theorem subscriptions?_startRequest_cases (net : Network) (i : ℕ) (task : RequestTask)
    (cancelFirst : Bool) :
    (net.startRequest i task cancelFirst).subscriptions? = net.subscriptions? ∧
      (∀ engine, net.engine? task.party = some engine → net.uidOf task ∈ engine.pending.keys ∨
        (cancelFirst && task.cancellable && task.cancelled) = true) ∨
    ∃ engine, net.engine? task.party = some engine ∧ net.uidOf task ∉ engine.pending.keys ∧
      ¬ (cancelFirst && task.cancellable && task.cancelled) = true ∧
      (net.startRequest i task cancelFirst).subscriptions? = ((net.enrol task engine).startExchange
        task (net.enrolled task engine)).1.subscriptions? := by
  have identified : (net.identify task.message).1.facade? = net.facade? :=
    facade?_of_wiring (wiring_identify ..)
  cases engineHere : net.engine? task.party with
  | none =>
    have none_ := (engine?_identify net task.message task.party).trans engineHere
    refine .inl ⟨?_, fun engine here => nomatch here⟩
    unfold startRequest
    dsimp only
    rw [none_]
    exact subscriptions?_congr identified
  | some engine =>
    by_cases mem : net.uidOf task ∈ engine.pending.keys
    · refine .inl ⟨?_, fun _ here => .inl (Option.some.inj here ▸ mem)⟩
      rw [startRequest_of_mem engineHere mem]
      exact subscriptions?_congr ((facade?_of_wiring (wiring_setEngine ..)).trans identified)
    · rw [startRequest_of_not_mem engineHere mem, subscriptions?_look]
      split
      · next cancelled =>
        have enrolled := facade?_of_wiring (wiring_enrol net task engine)
        exact .inl ⟨subscriptions?_congr enrolled, fun _ _ => .inr cancelled⟩
      · next quiet => exact .inr ⟨engine, rfl, mem, quiet, rfl⟩

/-- What a request that starts adds to what a client's facade remembers. -/
theorem subscriptions?_startRequest (client : net.wiring.Client party endpoint)
    (here : net.facade? party = some facade) (at_ : net.tasks[i]? = some (.request task))
    (fresh : task.state = .fresh) (cancelFirst : Bool) :
    (net.startRequest i task cancelFirst).subscriptions? party =
      some (facade.subscriptions ++ (net.granted? party (.poll i cancelFirst)).toList) := by
  have wanted : net.wanted? party facade (.poll i cancelFirst) =
      (net.engine? party).bind fun engine => if task.party ≠ party ∨
        net.uidOf task ∈ engine.pending.keys ∨
          (cancelFirst && task.cancellable && task.cancelled) = true then none
        else some ⟨task.responseTopic, facade.defaultQos⟩ := by
    simp only [wanted?, at_, fresh]
    cases net.engine? party <;> rfl
  rcases net.subscriptions?_startRequest_cases i task cancelFirst with
    ⟨same, idle⟩ | ⟨engine, engineHere, absent, quiet, eq⟩
  · refine subscriptions?_of_not_wanted here (wanted.trans ?_) (congrFun same party)
    rw [Option.bind_eq_none_iff]
    refine fun engine engineHere => if_pos (or_iff_not_imp_left.2 fun own => ?_)
    exact idle engine (not_not.1 own ▸ engineHere)
  · have enrolled := wiring_enrol net task engine
    have facades := facade?_of_wiring enrolled
    rw [eq]
    by_cases own : task.party = party
    · subst own
      have stands := endpoint_of_client client here
      have same (s : Subscription) :
          (net.enrol task engine).grant? facade s = net.grant? facade s := by
        have hub : (net.enrol task engine).hub = net.hub := congrArg Wiring.hub enrolled
        rw [grant?_of_client client stands, grant?_of_client (enrolled.symm ▸ client) stands, hub]
      rw [subscriptions?_startExchange (congrFun facades _ ▸ here), granted?_eq here, wanted,
        engineHere, Option.bind_some, if_neg (by simp [absent, quiet]), same, Option.bind_some]
    · refine subscriptions?_of_not_wanted here (wanted.trans ?_) ?_
      · cases net.engine? party with
        | none => rfl
        | some engine => exact if_pos (.inl own)
      · rw [subscriptions?_startExchange_of_ne own, subscriptions?_congr facades]

/-- What a request adds to what a client's facade remembers. -/
theorem Serves.subscriptions?_pollRequest (h : net.Serves party endpoint)
    (here : net.facade? party = some facade) (at_ : net.tasks[i]? = some (.request task))
    (cancelFirst : Bool) : (net.pollRequest i task cancelFirst).subscriptions? party =
      some (facade.subscriptions ++ (net.granted? party (.poll i cancelFirst)).toList) := by
  have started {state : RequestState} (is : task.state = state) (ne : state ≠ .fresh) :
      net.wanted? party facade (.poll i cancelFirst) = none := by
    subst is
    simp only [wanted?, at_]
    split
    · next fresh _ => exact absurd fresh ne
    · rfl
  cases state : task.state with
  | fresh =>
    rw [pollRequest, state]
    exact subscriptions?_startRequest h.steady.client here at_ state cancelFirst
  | running r =>
    refine subscriptions?_of_not_wanted here (started state (by simp)) ?_
    have awaiting (own : task.party = party) : r.stage = .awaiting := by
      subst own
      exact (h.regular i task r (request?_eq_some.2 at_) state).awaiting
        (onHub_of_client h.steady.client)
    rw [pollRequest, state]
    dsimp only
    rw [subscriptions?_look]
    split
    · rfl
    · exact subscriptions?_resumeExchange net awaiting
  | finished result =>
    refine subscriptions?_of_not_wanted here (started state (by simp)) ?_
    rw [pollRequest, state]
  | dropped =>
    refine subscriptions?_of_not_wanted here (started state (by simp)) ?_
    rw [pollRequest, state]

end Requests

/-! ## Steps and runs -/

/-- What a step adds to what a client's facade remembers. -/
theorem Serves.subscriptions?_step (h : net.Serves party endpoint)
    (here : net.facade? party = some facade) (a : Action) :
    (net.step a).subscriptions? party =
      some (facade.subscriptions ++ (net.granted? party a).toList) := by
  have nothing (none_ : net.wanted? party facade a = none)
      (same : (net.step a).facade? = net.facade?) : (net.step a).subscriptions? party =
        some (facade.subscriptions ++ (net.granted? party a).toList) :=
    subscriptions?_of_not_wanted here none_ (congrFun (subscriptions?_congr same) party)
  cases a with
  | operate task => exact nothing rfl (facade?_spawn ..)
  | request task => exact nothing rfl (facade?_spawn ..)
  | deliver session => exact nothing rfl (facade?_deliver ..)
  | elapse milliseconds => exact nothing rfl rfl
  | cancel j => exact nothing rfl (facade?_cancel ..)
  | drop j => exact nothing rfl (facade?_drop ..)
  | setOnline online => exact nothing rfl rfl
  | restart => exact nothing rfl rfl
  | poll j cancelFirst =>
    cases at_ : net.tasks[j]? with
    | none =>
      refine nothing (by simp only [wanted?, at_]) ?_
      rw [Network.step, poll, at_]
    | some task =>
      cases task with
      | operation task =>
        rw [Network.step, poll, at_]
        exact h.subscriptions?_pollOperation here at_ cancelFirst
      | request task =>
        rw [Network.step, poll, at_]
        exact h.subscriptions?_pollRequest here at_ cancelFirst
      | resubscription task =>
        refine nothing (by simp only [wanted?, at_]) ?_
        rw [Network.step, poll, at_]
        exact facade?_pollResubscription ..
      | responder task =>
        refine nothing (by simp only [wanted?, at_]) ?_
        rw [Network.step, poll, at_]
        exact facade?_pollResponder ..

/-- What a run adds to what a client's facade remembers: what was granted, in order. -/
theorem Serves.subscriptions?_run (h : net.Serves party endpoint) {known : List Subscription}
    (here : net.subscriptions? party = some known) (actions : List Action) :
    (net.run actions).subscriptions? party = some (known ++ net.granted party actions) := by
  induction actions generalizing net known with
  | nil => exact here.trans (congrArg some (List.append_nil _).symm)
  | cons a actions ih =>
    obtain ⟨facade, facadeHere, rfl⟩ := Option.map_eq_some_iff.1 here
    rw [run_cons, ih (h.step a) (h.subscriptions?_step facadeHere a), List.append_assoc, granted]

/-- A facade never remembers a topic twice. -/
theorem Serves.nodup_run (h : net.Serves party endpoint) {known : List Subscription}
    (here : net.subscriptions? party = some known)
    (nodup : (known.map Subscription.topic).Nodup) (actions : List Action) :
    ((known ++ net.granted party actions).map Subscription.topic).Nodup := by
  induction actions generalizing net known with
  | nil => rwa [granted, List.append_nil]
  | cons a actions ih =>
    obtain ⟨facade, facadeHere, rfl⟩ := Option.map_eq_some_iff.1 here
    rw [granted, ← List.append_assoc]
    refine ih (h.step a) (h.subscriptions?_step facadeHere a) ?_
    cases granted : net.granted? party a with
    | none => rwa [Option.toList_none, List.append_nil]
    | some s =>
      have absent := not_mem_of_granted? granted facadeHere
      rw [Option.toList_some, List.map_append, List.map_singleton]
      exact List.nodup_append.2 ⟨nodup, List.nodup_singleton _, by
        rintro topic mem _ (_ | ⟨_, ⟨⟩⟩) rfl
        exact absent mem⟩

/-- A topic that is to be subscribed to again keeps a task going. -/
theorem usesEndpoint_of_resubscribes {task : Task} {topic : String}
    (does : task.Resubscribes endpoint topic) : task.usesEndpoint endpoint = true := by
  obtain ⟨resubscription, rfl⟩ := exists_resubscription does
  obtain ⟨same, s, mem, -⟩ := does
  simp [Task.usesEndpoint, same, List.ne_nil_of_mem mem]

/-- When a client has a session and all its re-subscriptions were made, the session is subscribed to
    what its facade remembers. -/
theorem Serves.filters_of_settled (h : net.Serves party endpoint)
    (here : net.facade? party = some facade) {session : Session}
    (live : net.hub.session? endpoint = some session)
    (settled : ∀ task ∈ net.tasks, task.usesEndpoint endpoint = false) :
    ∀ s ∈ facade.subscriptions, s.topic ∈ session.filters := by
  intro s mem
  have known : facade.isSubscribed s.topic = true :=
    List.any_eq_true.2 ⟨s, mem, beq_iff_eq.2 rfl⟩
  rcases h.steady.covered facade s.topic ((facade?_wiring ..).trans here) known with
    filters | ⟨task, memTask, does⟩
  · exact filters session live
  · cases (settled task memTask).symm.trans (usesEndpoint_of_resubscribes does)

/--
In every state, after any connections, closures, restarts, subscriptions and requests in any order,
and whenever the re-subscriptions are run that are due after a connection, a client's facade
remembers what its endpoint granted it, in order and with the delivery guarantee that was asked for
then. No topic is among it twice, and what is remembered stays so: more may only come behind it. And
if the client has a session, and none of its re-subscriptions is outstanding, the session is
subscribed to every topic that the facade remembers.
-/
theorem subscriptions_survive_reconnects {net : Network} (outset : net.Outset)
    (client : net.wiring.Client party endpoint) (actions : List Action) :
    ∃ facade, (net.run actions).facade? party = some facade ∧
      facade.subscriptions = net.granted party actions ∧
      (facade.subscriptions.map Subscription.topic).Nodup ∧
      (∀ after, ∃ later, (net.run (actions ++ after)).facade? party = some later ∧
        facade.subscriptions <+: later.subscriptions) ∧
      ∀ session, (net.run actions).hub.session? endpoint = some session →
        (∀ task ∈ (net.run actions).tasks, task.usesEndpoint endpoint = false) →
        ∀ s ∈ facade.subscriptions, s.topic ∈ session.filters := by
  have serves := outset.serves client
  obtain ⟨_, _, first, -, -, -, partyHere, -, -, facadeHere, -⟩ := exists_client client
  have begins : net.facade? party = some first := by
    rw [facade?, partyHere, Option.bind_some, facadeHere]
  have empty : net.subscriptions? party = some [] := by
    rw [subscriptions?, begins, Option.map_some, outset.facades begins]
  have ends (actions : List Action) : ∃ facade, (net.run actions).facade? party = some facade ∧
      facade.subscriptions = net.granted party actions :=
    Option.map_eq_some_iff.1 (serves.subscriptions?_run empty actions)
  obtain ⟨facade, here, eq⟩ := ends actions
  refine ⟨facade, here, eq, ?_, fun after => ?_, fun session live settled => ?_⟩
  · rw [eq]
    exact serves.nodup_run empty List.nodup_nil actions
  · have here' : (net.run actions).subscriptions? party = some facade.subscriptions := by
      rw [subscriptions?, here, Option.map_some]
    obtain ⟨later, there, longer⟩ :=
      Option.map_eq_some_iff.1 ((serves.run actions).subscriptions?_run here' after)
    rw [run_append]
    exact ⟨later, there, longer ▸ List.prefix_append ..⟩
  · exact (serves.run actions).filters_of_settled here live settled

/-- The party makes a request, loses its session, connects once more, and subscribes to a topic
    before its first subscription is made again. -/
def returning : List Action :=
  asking "a" ++ [.restart, .operate ⟨0, true, .connect {}, .fresh⟩, .poll 2 false,
    .operate ⟨0, true, .subscribe "news" none, .fresh⟩, .poll 4 false, .poll 3 false]

/-- In `loopback` the new session is subscribed to what was remembered before and after it came. -/
theorem subscriptions_survive_in_loopback : loopback.Outset ∧ loopback.wiring.Client 0 0 ∧
    ∃ facade session, (loopback.run returning).facade? 0 = some facade ∧
      facade.subscriptions.map Subscription.topic = ["echo", "news"] ∧
      (loopback.run returning).hub.session? 0 = some session ∧ session.id = 2 ∧
      ∀ s ∈ facade.subscriptions, s.topic ∈ session.filters := by
  obtain ⟨facade, here, granted, -, -, heard⟩ :=
    subscriptions_survive_reconnects outset_loopback client_loopback returning
  obtain ⟨session, live, id⟩ :
      ∃ session, (loopback.run returning).hub.session? 0 = some session ∧ session.id = 2 :=
    ⟨_, rfl, rfl⟩
  have topics : (loopback.granted 0 returning).map Subscription.topic = ["echo", "news"] := by
    decide +kernel
  exact ⟨outset_loopback, client_loopback, facade, session, here, granted ▸ topics, live, id,
    heard session live (by decide +kernel)⟩

end Network

end HomeBus
