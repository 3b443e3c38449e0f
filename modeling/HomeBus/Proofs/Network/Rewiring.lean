import HomeBus.Proofs.Network.Waiters
import HomeBus.Proofs.Network.Wiring

/-!
# What a step does to the wiring of a network

A step leads from one wiring to another; besides, a task may come, or the task that is run is put
back. A re-subscription is only put back when its subscriptions were made.

Results:
* `Wiring.Runs.steady`: what holds of a client in every state is kept.
* `runs_poll`, `runs_cancel`, `runs_drop`: how a wiring goes on when a task is run, cancelled or
  dropped.
* `runs_step`: how a wiring goes on in any step.
-/

namespace HomeBus

/-- Whether nothing that a client asked its endpoint for is left without an answer. -/
def Task.Prompt (party endpoint : ℕ) : Task → Prop
  | .operation task =>
    task.party = party → task.throughFacade = true → ∀ w, task.state ≠ .waiting w
  | .resubscription task => task.endpoint = endpoint → task.wait = none
  | .request _ | .responder _ => True

namespace Wiring

variable {party endpoint i : ℕ} {w w' : Wiring}

/-- What holds of the wiring of a client, and of the tasks, in every state. -/
structure Steady (w : Wiring) (party endpoint : ℕ) : Prop extends w.Sound party endpoint where
  prompt : ∀ task ∈ w.tasks, task.Prompt party endpoint

/-- How a wiring goes on in a step, in which a task may come or be run. -/
inductive Runs (party endpoint i : ℕ) (w : Wiring) : Wiring → Prop where
  | goesOn {w' : Wiring} : Leads party endpoint w w' → Runs party endpoint i w w'
  | comes {mid : Wiring} {task : Task} : Leads party endpoint w mid → task.Prompt party endpoint →
      Runs party endpoint i w { mid with tasks := mid.tasks ++ [task] }
  /-- The task is put back, and has made the subscriptions that it had to make. -/
  | putBack {mid : Wiring} {task : Task} : Leads party endpoint w mid → task.Prompt party endpoint →
      (∀ old topic, mid.tasks[i]? = some old → old.Resubscribes endpoint topic →
        mid.Filters endpoint topic) →
      Runs party endpoint i w { mid with tasks := mid.tasks.set i task }

theorem Leads.prompt (h : Leads party endpoint w w') (steady : w.Steady party endpoint) :
    w'.Steady party endpoint := by
  obtain ⟨new, prompt, tasks⟩ := h.tasks
  refine ⟨h.sound, fun task mem => ?_⟩
  rw [tasks, List.mem_append] at mem
  rcases mem with old | new
  · exact steady.prompt task old
  · obtain ⟨task, mem, rfl⟩ := List.mem_map.1 new
    exact fun _ => prompt task mem

/-- A task that is there stays. -/
theorem Leads.getElem? (h : Leads party endpoint w w') {j : ℕ} {task : Task}
    (there : w.tasks[j]? = some task) : w'.tasks[j]? = some task := by
  obtain ⟨new, -, tasks⟩ := h.tasks
  rw [tasks, List.getElem?_append_left (List.getElem?_eq_some_iff.1 there).1, there]

theorem Runs.hub (h : Runs party endpoint i w w') : ∃ ops, w'.hub = w.hub.run ops := by
  cases h with
  | goesOn leads | comes leads | putBack leads => exact leads.hub

/-- A task that is not run stays. -/
theorem Runs.getElem? (h : Runs party endpoint i w w') {j : ℕ} {task : Task} (ne : j ≠ i)
    (there : w.tasks[j]? = some task) : w'.tasks[j]? = some task := by
  cases h with
  | goesOn leads => exact leads.getElem? there
  | comes leads =>
    have there := leads.getElem? there
    exact (List.getElem?_append_left (List.getElem?_eq_some_iff.1 there).1).trans there
  | putBack leads => exact (List.getElem?_set_ne (Ne.symm ne)).trans (leads.getElem? there)

theorem Runs.steady (h : Runs party endpoint i w w') (steady : w.Steady party endpoint) :
    w'.Steady party endpoint := by
  cases h with
  | goesOn leads => exact leads.prompt steady
  | comes leads prompt =>
    have mid := leads.prompt steady
    refine ⟨⟨mid.hub, ⟨mid.client.told, mid.client.holds⟩, fun facade topic here known => ?_⟩,
      fun task mem => ?_⟩
    · exact (mid.covered facade topic here known).imp_right (·.mono (List.subset_append_left ..))
    · rcases List.mem_append.1 mem with old | new
      · exact mid.prompt task old
      · exact List.mem_singleton.1 new ▸ prompt
  | @putBack mid new leads prompt made =>
    have steady := leads.prompt steady
    refine ⟨⟨steady.hub, ⟨steady.client.told, steady.client.holds⟩,
      fun facade topic here known => ?_⟩, fun task mem => ?_⟩
    · rcases steady.covered facade topic here known with filters | ⟨task, mem, does⟩
      · exact .inl filters
      · obtain ⟨j, there⟩ := List.getElem?_of_mem mem
        by_cases same : j = i
        · exact .inl (made task topic (same ▸ there) does)
        · have kept := (List.getElem?_set_ne (a := new) (Ne.symm same)).trans there
          exact .inr ⟨task, List.mem_of_getElem? kept, does⟩
    · rcases List.mem_or_eq_of_mem_set mem with old | rfl
      · exact steady.prompt task old
      · exact prompt

end Wiring

namespace Network

open Wiring (Leads Runs)

variable {net : Network} {party endpoint i : ℕ}

/-! ## Operations -/

theorem endpoint_of_client (client : net.wiring.Client party endpoint) {facade : Facade}
    (here : net.facade? party = some facade) : facade.endpoint = endpoint := by
  obtain ⟨e, p, facade', -, -, -, partyHere, -, -, facadeHere, stands⟩ := exists_client client
  rw [facade?, partyHere, Option.bind_some, facadeHere] at here
  cases here
  exact stands

theorem leads_callDirectly (sound : net.wiring.Sound party endpoint) (other : ℕ)
    (operation : Operation) :
    Leads party endpoint net.wiring (net.callDirectly other operation).1.wiring := by
  cases operation <;> exact leads_call sound ..

theorem leads_learn (sound : net.wiring.Sound party endpoint) (other : ℕ) :
    Leads party endpoint net.wiring
      (net.modifyFacade other fun f => { f with runtimeKnown := true }).wiring :=
  leads_modifyFacade sound other _ (fun _ => rfl) fun _ _ _ _ known => .inl known

theorem leads_callThrough (sound : net.wiring.Sound party endpoint) (other : ℕ) (facade : Facade)
    (operation : Operation) :
    Leads party endpoint net.wiring (net.callThrough other facade operation).1.wiring := by
  cases operation with
  | connect options =>
    have learnt := leads_learn sound other
    exact learnt.trans (leads_call learnt.sound ..)
  | close => exact leads_call sound ..
  | subscribe topic qos =>
    simp only [callThrough]
    split
    · exact Leads.refl sound
    · exact leads_call sound ..
  | publish topic payload qos retain => exact leads_call sound ..

/-- What a client does through its facade is answered at once. -/
theorem callThrough_ne_waiting (sound : net.wiring.Sound party endpoint) {facade : Facade}
    (here : net.facade? party = some facade) (operation : Operation) (w : Wait) :
    (net.callThrough party facade operation).2 ≠ .waiting w := by
  have stands := endpoint_of_client sound.client here
  cases operation with
  | connect options =>
    rw [callThrough, stands, call_of_client (leads_learn sound party).sound.client]
    simp
  | close =>
    rw [callThrough, stands, call_of_client sound.client]
    simp
  | subscribe topic qos =>
    rw [callThrough]
    split
    · simp
    · rw [stands, call_of_client sound.client]
      simp
  | publish topic payload qos retain =>
    rw [callThrough, stands, call_of_client sound.client]
    simp

/-- A client that subscribes through its facade has the filter in its session, if the facade did
    not remember the topic. -/
theorem subscribed_callThrough (sound : net.wiring.Sound party endpoint) {facade : Facade}
    (here : net.facade? party = some facade) (topic : String) (qos : Option QoS) :
    (∃ facade', (net.callThrough party facade (.subscribe topic qos)).1.facade? party =
        some facade' ∧ facade'.isSubscribed topic = true) ∨
      (net.callThrough party facade (.subscribe topic qos)).1.wiring.Filters endpoint topic := by
  rw [callThrough]
  split
  · next known => exact .inl ⟨facade, here, known⟩
  · rw [endpoint_of_client sound.client here]
    exact .inr (filters_call sound topic (qos.getD facade.defaultQos))

/-- What a client's operation does when it was answered. -/
theorem leads_afterCall (sound : net.wiring.Sound party endpoint) (task : OperationTask)
    (result : Except Error Unit)
    (subscribed : task.party = party → task.throughFacade = true → ∀ topic qos,
      task.operation = .subscribe topic qos →
        (∃ facade, net.facade? party = some facade ∧ facade.isSubscribed topic = true) ∨
          net.wiring.Filters endpoint topic) :
    Leads party endpoint net.wiring (net.afterCall task result).wiring := by
  unfold afterCall
  split
  · next topic qos facade through operation _ =>
    exact leads_remember sound _ _ _ fun same => subscribed same through topic qos operation
  · exact Leads.refl sound

/-- How an operation starts. -/
def startOperation (net : Network) (p : Party) (task : OperationTask) : Network × Progress :=
  match task.throughFacade, p.facade with
  | true, some facade => net.callThrough task.party facade task.operation
  | _, _ => net.callDirectly p.endpoint task.operation

/-- How an operation goes on after it was started, or looked at again. -/
def settleOperation (i : ℕ) (task : OperationTask) (out : Network × Progress) : Network :=
  match out.2 with
  | .waiting w => out.1.setTask i (.operation { task with state := .waiting w })
  | .done result =>
    (out.1.afterCall task result).setTask i (.operation { task with state := .finished result })

theorem pollOperation_of_fresh {task : OperationTask} {p : Party}
    (here : net.party? task.party = some p) (state : task.state = .fresh) :
    net.pollOperation i task = settleOperation i task (net.startOperation p task) := by
  unfold pollOperation
  rw [state, here]
  rfl

theorem pollOperation_of_waiting {task : OperationTask} {p : Party} {w : Wait}
    (here : net.party? task.party = some p) (state : task.state = .waiting w) :
    net.pollOperation i task = settleOperation i task (net.resume p.endpoint w) := by
  unfold pollOperation
  rw [state, here]
  rfl

theorem leads_startOperation (sound : net.wiring.Sound party endpoint) (p : Party)
    (task : OperationTask) :
    Leads party endpoint net.wiring (net.startOperation p task).1.wiring := by
  unfold startOperation
  split
  · exact leads_callThrough sound ..
  · exact leads_callDirectly sound ..

/-- A client's operation through its facade starts there. -/
theorem startOperation_of_client (sound : net.wiring.Sound party endpoint) {p : Party}
    {task : OperationTask} (here : net.party? task.party = some p) (same : task.party = party)
    (through : task.throughFacade = true) :
    ∃ facade, net.facade? party = some facade ∧
      net.startOperation p task = net.callThrough party facade task.operation := by
  subst same
  obtain ⟨-, q, facade, -, -, -, there, -, -, facadeHere, -⟩ := exists_client sound.client
  cases here.symm.trans there
  refine ⟨facade, by rw [facade?, here, Option.bind_some, facadeHere], ?_⟩
  rw [startOperation, through, facadeHere]

theorem runs_settleOperation {task : OperationTask} (here : net.tasks[i]? = some (.operation task))
    {out : Network × Progress} (leads : Leads party endpoint net.wiring out.1.wiring)
    (own : task.party = party → task.throughFacade = true → (∀ w, out.2 ≠ .waiting w) ∧
      ∀ topic qos, task.operation = .subscribe topic qos →
        (∃ facade, out.1.facade? party = some facade ∧ facade.isSubscribed topic = true) ∨
          out.1.wiring.Filters endpoint topic) :
    Runs party endpoint i net.wiring (settleOperation i task out).wiring := by
  have none_ {mid : Wiring} (leads : Leads party endpoint net.wiring mid) (old : Task)
      (topic : String) (there : mid.tasks[i]? = some old) :
      old.Resubscribes endpoint topic → mid.Filters endpoint topic := by
    cases (leads.getElem? here).symm.trans there
    exact False.elim
  obtain ⟨net', progress⟩ := out
  cases progress with
  | waiting w =>
    refine .putBack leads (fun same through _ _ => ?_) (none_ leads)
    exact (own same through).1 w rfl
  | done result =>
    have after := leads.trans (leads_afterCall leads.sound task result fun same through =>
      (own same through).2)
    exact .putBack after (fun _ _ _ eq => nomatch eq) (none_ after)

theorem runs_pollOperation (steady : net.wiring.Steady party endpoint) {task : OperationTask}
    (here : net.tasks[i]? = some (.operation task)) :
    Runs party endpoint i net.wiring (net.pollOperation i task).wiring := by
  have sound := steady.toSound
  have still : Runs party endpoint i net.wiring net.wiring := .goesOn (Leads.refl sound)
  have prompt : Task.Prompt party endpoint (.operation task) :=
    steady.prompt _ (List.mem_of_getElem? here)
  cases partyHere : net.party? task.party with
  | none =>
    unfold pollOperation
    rw [partyHere]
    cases task.state <;> exact still
  | some p =>
    cases state : task.state with
    | finished result =>
      unfold pollOperation
      rw [state]
      exact still
    | waiting w =>
      rw [pollOperation_of_waiting partyHere state]
      exact runs_settleOperation here (leads_resume sound ..) fun same through =>
        absurd state (prompt same through w)
    | fresh =>
      rw [pollOperation_of_fresh partyHere state]
      refine runs_settleOperation here (leads_startOperation sound ..) fun same through => ?_
      obtain ⟨facade, facadeHere, eq⟩ := startOperation_of_client sound partyHere same through
      rw [eq]
      refine ⟨callThrough_ne_waiting sound facadeHere _, fun topic qos operation => ?_⟩
      rw [operation]
      exact subscribed_callThrough sound facadeHere topic qos

/-! ## Re-subscriptions -/

theorem leads_subscribeAll (sound : net.wiring.Sound party endpoint) (other : ℕ)
    (rest : List Subscription) :
    Leads party endpoint net.wiring (net.subscribeAll other rest).1.wiring := by
  induction rest generalizing net with
  | nil => exact Leads.refl sound
  | cons s rest ih =>
    have called := leads_call sound other (.subscribe s.topic s.qos)
    rw [subscribeAll]
    split
    · next net' result eq =>
      rw [eq] at called
      exact called.trans (ih called.sound)
    · next net' w eq =>
      rw [eq] at called
      exact called

/-- A client makes its subscriptions again at one go. -/
theorem subscribeAll_of_client (sound : net.wiring.Sound party endpoint)
    (rest : List Subscription) : (net.subscribeAll endpoint rest).2 = (none, []) ∧
      ∀ topic, net.wiring.Filters endpoint topic ∨ (∃ s ∈ rest, s.topic = topic) →
        (net.subscribeAll endpoint rest).1.wiring.Filters endpoint topic := by
  induction rest generalizing net with
  | nil => exact ⟨rfl, fun topic had => had.resolve_right (by simp)⟩
  | cons s rest ih =>
    have called := leads_call sound endpoint (.subscribe s.topic s.qos)
    have made := filters_call sound s.topic s.qos
    have kept {topic : String} (had : net.wiring.Filters endpoint topic) :
        (net.call endpoint (.subscribe s.topic s.qos)).1.wiring.Filters endpoint topic := by
      rw [call_of_client sound.client]
      have other (clientName : String) :
          Hub.Operation.subscribe endpoint s.topic ≠ .connect endpoint clientName := nofun
      exact had.apply sound.hub other
    have eq := call_of_client sound.client (.subscribe s.topic s.qos)
    rw [eq] at called made kept
    rw [subscribeAll, eq]
    obtain ⟨done, all⟩ := ih called.sound
    refine ⟨done, fun topic had => all topic ?_⟩
    rcases had with had | ⟨s', mem, rfl⟩
    · exact .inl (kept had)
    · rcases List.mem_cons.1 mem with rfl | mem
      · exact .inl made
      · exact .inr ⟨s', mem, rfl⟩

/-- A client's re-subscription makes all its subscriptions when it is run. -/
theorem pollResubscription_of_client (sound : net.wiring.Sound party endpoint)
    {task : ResubscriptionTask} (same : task.endpoint = endpoint) (prompt : task.wait = none) :
    net.pollResubscription i task = (net.subscribeAll endpoint task.rest).1.setTask i
      (.resubscription { task with wait := none, rest := [] }) := by
  have done := (subscribeAll_of_client sound task.rest).1
  unfold pollResubscription
  simp only [prompt, same, done]

/-- A re-subscription that is run makes what it has to make for a client. -/
theorem filters_pollResubscription (sound : net.wiring.Sound party endpoint)
    {task : ResubscriptionTask} (prompt : task.endpoint = endpoint → task.wait = none)
    {topic : String} (does : (Task.resubscription task).Resubscribes endpoint topic) :
    (net.pollResubscription i task).wiring.Filters endpoint topic := by
  obtain ⟨same, has⟩ := does
  rw [pollResubscription_of_client sound same (prompt same)]
  exact (subscribeAll_of_client sound task.rest).2 topic (.inr has)

theorem runs_pollResubscription (steady : net.wiring.Steady party endpoint)
    {task : ResubscriptionTask} (here : net.tasks[i]? = some (.resubscription task)) :
    Runs party endpoint i net.wiring (net.pollResubscription i task).wiring := by
  have sound := steady.toSound
  have prompt : Task.Prompt party endpoint (.resubscription task) :=
    steady.prompt _ (List.mem_of_getElem? here)
  by_cases same : task.endpoint = endpoint
  · have leads := leads_subscribeAll sound endpoint task.rest
    rw [pollResubscription_of_client sound same (prompt same)]
    refine .putBack leads (fun _ => rfl) fun old topic there does => ?_
    cases (leads.getElem? here).symm.trans there
    exact (subscribeAll_of_client sound task.rest).2 topic (.inr does.2)
  · -- the subscriptions of another endpoint are no concern of the client
    have goes {net' : Network} (leads : Leads party endpoint net.wiring net'.wiring)
        (new : ResubscriptionTask) (stays : new.endpoint = task.endpoint) :
        Runs party endpoint i net.wiring (net'.setTask i (.resubscription new)).wiring := by
      refine .putBack leads (fun eq => absurd (stays.symm.trans eq) same)
        fun old topic there does => ?_
      cases (leads.getElem? here).symm.trans there
      exact absurd does.1 same
    unfold pollResubscription
    dsimp only
    split
    · exact goes (leads_subscribeAll sound ..) _ rfl
    · next w _ =>
      have resumed := leads_resume sound task.endpoint w
      split
      · next net' result eq =>
        rw [eq] at resumed
        exact goes (resumed.trans (leads_subscribeAll resumed.sound ..)) _ rfl
      · next net' w' eq =>
        rw [eq] at resumed
        exact .goesOn resumed

/-! ## Responders -/

/-- An engine changes, which is no concern of connections. -/
theorem leads_setEngine (sound : net.wiring.Sound party endpoint) (other : ℕ) (engine : Engine) :
    Leads party endpoint net.wiring (net.setEngine other engine).wiring := by
  rw [wiring_setEngine]
  exact Leads.refl sound

theorem leads_publishReplies (sound : net.wiring.Sound party endpoint) (task : ResponderTask)
    (request : Message) (replies : List Message) :
    Leads party endpoint net.wiring (net.publishReplies task request replies).1.wiring := by
  induction replies generalizing net with
  | nil => exact Leads.refl sound
  | cons m rest ih =>
    rw [publishReplies]
    split
    · next engine facade _ _ =>
      split
      · exact ih sound
      · next payload _ =>
        have called := leads_call sound facade.endpoint
          (.publish task.topic payload facade.defaultQos false)
        split
        · next net' result eq =>
          rw [eq] at called
          exact called.trans (ih called.sound)
        · next net' w eq =>
          rw [eq] at called
          exact called
    · exact Leads.refl sound

theorem leads_respond (sound : net.wiring.Sound party endpoint) (task : ResponderTask)
    (inbound : Inbound) (replies : List Message) :
    Leads party endpoint net.wiring (net.respond task inbound replies).1.wiring := by
  have published := leads_publishReplies sound task inbound.message replies
  unfold respond
  split
  all_goals
    next eq =>
    rw [eq] at published
    exact published

theorem leads_serve (sound : net.wiring.Sound party endpoint) (task : ResponderTask) (count : ℕ) :
    Leads party endpoint net.wiring (net.serve task count).1.wiring := by
  induction count generalizing net with
  | zero => exact Leads.refl sound
  | succ count ih =>
    rw [serve]
    split
    · exact Leads.refl sound
    · next engine _ =>
      have taken := leads_setEngine sound task.party
        { engine with router := (engine.router.receive task.channel).1 }
      dsimp only
      split
      · exact taken
      · exact taken
      · next inbound _ =>
        split
        · have responded := taken.trans (leads_respond taken.sound task inbound task.replies)
          split
          · next eq =>
            rw [eq] at responded
            exact responded.trans (ih responded.sound)
          · next eq =>
            rw [eq] at responded
            exact responded
        · exact taken

/-- A task that subscribes to nothing again is put back. -/
theorem runs_setTask {net' : Network} {old new : Task} (here : net.tasks[i]? = some old)
    (leads : Leads party endpoint net.wiring net'.wiring)
    (none_ : ∀ topic, ¬ old.Resubscribes endpoint topic) (prompt : new.Prompt party endpoint) :
    Runs party endpoint i net.wiring (net'.setTask i new).wiring := by
  refine .putBack leads prompt fun task topic there does => ?_
  cases (leads.getElem? here).symm.trans there
  exact absurd does (none_ topic)

theorem runs_serveQueued {task task' : ResponderTask}
    (here : net.tasks[i]? = some (.responder task)) {net' : Network}
    (leads : Leads party endpoint net.wiring net'.wiring) :
    Runs party endpoint i net.wiring (net'.serveQueued i task').wiring := by
  have served := leads_serve leads.sound task' (net'.queued task' + 1)
  exact runs_setTask here (leads.trans served) (fun _ => id) trivial

theorem runs_afterReplies {task : ResponderTask} (here : net.tasks[i]? = some (.responder task))
    {net' : Network} (leads : Leads party endpoint net.wiring net'.wiring) (inbound : Inbound)
    (replies : List Message) :
    Runs party endpoint i net.wiring ((net'.respond task inbound replies).1.afterReplies i task
      (net'.respond task inbound replies).2).wiring := by
  have responded := leads.trans (leads_respond leads.sound task inbound replies)
  cases (net'.respond task inbound replies).2 with
  | none => exact runs_serveQueued here responded
  | some state => exact runs_setTask here responded (fun _ => id) trivial

theorem runs_pollResponder (sound : net.wiring.Sound party endpoint) {task : ResponderTask}
    (here : net.tasks[i]? = some (.responder task)) :
    Runs party endpoint i net.wiring (net.pollResponder i task).wiring := by
  have still := Leads.refl sound
  unfold pollResponder
  split
  · exact .goesOn still
  · exact runs_serveQueued here still
  · split
    · exact runs_afterReplies here still ..
    · exact .goesOn still
  · next inbound rest w _ =>
    cases net.facade? task.party with
    | none => exact .goesOn still
    | some facade =>
      have resumed := leads_resume sound facade.endpoint w
      rw [Option.map_some]
      split
      · next eq => cases eq
      · next eq =>
        rw [Option.some.inj eq] at resumed
        exact .goesOn resumed
      · next eq =>
        rw [Option.some.inj eq] at resumed
        exact runs_afterReplies here resumed ..

/-! ## Requests -/

theorem wiring_awaitReply (net : Network) (task : RequestTask) (r : Running) :
    (net.awaitReply task r).1.wiring = net.wiring := by
  unfold awaitReply
  split
  · rfl
  · dsimp only
    split <;> exact wiring_setEngine ..

theorem leads_awaitReply (sound : net.wiring.Sound party endpoint) (task : RequestTask)
    (r : Running) : Leads party endpoint net.wiring (net.awaitReply task r).1.wiring := by
  rw [wiring_awaitReply]
  exact Leads.refl sound

theorem leads_afterPublish (sound : net.wiring.Sound party endpoint) (task : RequestTask)
    (r : Running) (progress : Progress) :
    Leads party endpoint net.wiring (net.afterPublish task r progress).1.wiring := by
  unfold afterPublish
  split
  · exact leads_awaitReply sound ..
  · exact Leads.refl sound
  · exact Leads.refl sound

theorem leads_publishRequest (sound : net.wiring.Sound party endpoint) (task : RequestTask)
    (r : Running) : Leads party endpoint net.wiring (net.publishRequest task r).1.wiring := by
  unfold publishRequest
  split
  · split
    · exact Leads.refl sound
    · next facade _ _ _ payload _ =>
      have called := leads_call sound facade.endpoint
        (.publish task.topic payload facade.defaultQos false)
      exact called.trans (leads_afterPublish called.sound ..)
  · exact Leads.refl sound

/-- A request goes on after its response topic was subscribed to. -/
theorem leads_afterSubscribe (sound : net.wiring.Sound party endpoint) (task : RequestTask)
    (r : Running) (qos : QoS) (progress : Progress)
    (filters : task.party = party → net.wiring.Filters endpoint task.responseTopic) :
    Leads party endpoint net.wiring (net.afterSubscribe task r qos progress).1.wiring := by
  unfold afterSubscribe
  split
  · have remembered := leads_remember sound task.party task.responseTopic qos fun same =>
      .inr (filters same)
    exact remembered.trans (leads_publishRequest remembered.sound ..)
  · exact Leads.refl sound
  · exact Leads.refl sound

theorem leads_startExchange (sound : net.wiring.Sound party endpoint) (task : RequestTask)
    (r : Running) : Leads party endpoint net.wiring (net.startExchange task r).1.wiring := by
  unfold startExchange
  split
  · exact Leads.refl sound
  · next facade here =>
    split
    · exact leads_publishRequest sound ..
    · have called := leads_call sound facade.endpoint
        (.subscribe task.responseTopic facade.defaultQos)
      refine called.trans (leads_afterSubscribe called.sound task r _ _ fun same => ?_)
      subst same
      rw [endpoint_of_client sound.client here]
      exact filters_call sound task.responseTopic facade.defaultQos

/-- A client's request that was registered only waits for its reply. -/
theorem leads_resumeExchange (sound : net.wiring.Sound party endpoint) (task : RequestTask)
    (r : Running) (awaiting : task.party = party → r.stage = .awaiting) :
    Leads party endpoint net.wiring (net.resumeExchange task r).1.wiring := by
  unfold resumeExchange
  split
  · exact Leads.refl sound
  · next facade _ =>
    split
    · next w at_ =>
      have resumed := leads_resume sound facade.endpoint w
      refine resumed.trans (leads_afterSubscribe resumed.sound task r _ _ fun same => ?_)
      cases at_.symm.trans (awaiting same)
    · next w _ =>
      have resumed := leads_resume sound facade.endpoint w
      exact resumed.trans (leads_afterPublish resumed.sound ..)
    · exact leads_awaitReply sound ..

/-- A request that ends is put back, and nothing else changes. -/
theorem wiring_endRequest (net : Network) (i : ℕ) (task : RequestTask) (r : Running)
    (state : RequestState) : (net.endRequest i task r state).wiring =
      { net.wiring with tasks := net.tasks.set i (.request { task with state }) } := by
  have withdrawn : (net.withdraw task.party r).wiring = net.wiring := wiring_modifyEngine ..
  have tasks : (net.withdraw task.party r).tasks = net.tasks := congrArg Wiring.tasks withdrawn
  rw [endRequest, ← tasks, ← withdrawn]
  rfl

/-- A request is put back after it was looked at, and nothing else changes. -/
theorem wiring_conclude (net : Network) (i : ℕ) (task : RequestTask) (r : Running)
    (exchange : Exchange) : ∃ state, (net.conclude i task r exchange).wiring =
      { net.wiring with tasks := net.tasks.set i (.request { task with state }) } := by
  cases exchange with
  | finished result => exact ⟨_, wiring_endRequest ..⟩
  | waiting stage =>
    unfold conclude
    split_ifs
    · exact ⟨_, wiring_endRequest ..⟩
    · exact ⟨_, wiring_endRequest ..⟩
    · exact ⟨_, rfl⟩

theorem runs_look {old : RequestTask} (here : net.tasks[i]? = some (.request old)) {net' : Network}
    (leads : Leads party endpoint net.wiring net'.wiring) (task : RequestTask) (r : Running)
    (cancelFirst : Bool) {exchange : Network → RequestTask → Running → Network × Exchange}
    (exchanged : Leads party endpoint net'.wiring (exchange net' task r).1.wiring) :
    Runs party endpoint i net.wiring (net'.look i task r cancelFirst exchange).wiring := by
  have put {mid : Network} (leads : Leads party endpoint net.wiring mid.wiring)
      (state : RequestState) : Runs party endpoint i net.wiring
        { mid.wiring with tasks := mid.tasks.set i (.request { task with state }) } :=
    runs_setTask here leads (fun _ => id) trivial
  unfold look
  split
  · rw [wiring_endRequest]
    exact put leads _
  · obtain ⟨state, eq⟩ := wiring_conclude (exchange net' task r).1 i task r
      (exchange net' task r).2
    dsimp only
    rw [eq]
    exact put (leads.trans exchanged) state

theorem runs_startRequest (sound : net.wiring.Sound party endpoint) {task : RequestTask}
    (here : net.tasks[i]? = some (.request task)) (cancelFirst : Bool) :
    Runs party endpoint i net.wiring (net.startRequest i task cancelFirst).wiring := by
  have identified : Leads party endpoint net.wiring (net.identify task.message).1.wiring := by
    rw [wiring_identify]
    exact Leads.refl sound
  unfold startRequest
  dsimp only
  split
  · exact .goesOn identified
  · next engine _ =>
    split
    · exact runs_setTask here (identified.trans (leads_setEngine identified.sound ..))
        (fun _ => id) trivial
    · have registered (engine : Engine) :=
        identified.trans (leads_setEngine identified.sound task.party engine)
      exact runs_look here (registered _) task _ cancelFirst
        (leads_startExchange (registered _).sound ..)

/-- A client stands on the hub. -/
theorem onHub_of_client (client : net.wiring.Client party endpoint) : net.OnHub party := by
  obtain ⟨e, p, facade, there, kind, -, here, -, -, facadeHere, stands⟩ := exists_client client
  simp [OnHub, correlation, facade?, here, facadeHere, stands, there, kind]

theorem runs_pollRequest (sound : net.wiring.Sound party endpoint)
    (regular : Regular net.correlation) {task : RequestTask}
    (here : net.tasks[i]? = some (.request task)) (cancelFirst : Bool) :
    Runs party endpoint i net.wiring (net.pollRequest i task cancelFirst).wiring := by
  have still := Leads.refl sound
  unfold pollRequest
  split
  · exact runs_startRequest sound here cancelFirst
  · next r running =>
    refine runs_look here still task r cancelFirst
      (leads_resumeExchange sound task r fun same => ?_)
    subst same
    exact (regular i task r (request?_eq_some.2 here) running).awaiting
      (onHub_of_client sound.client)
  · exact .goesOn still
  · exact .goesOn still

/-! ## Steps -/

theorem runs_poll (steady : net.wiring.Steady party endpoint) (regular : Regular net.correlation)
    (i : ℕ) (cancelFirst : Bool) :
    Runs party endpoint i net.wiring (net.poll i cancelFirst).wiring := by
  unfold poll
  split
  · exact .goesOn (Leads.refl steady.toSound)
  · next here => exact runs_pollOperation steady here
  · next here => exact runs_pollRequest steady.toSound regular here cancelFirst
  · next here => exact runs_pollResubscription steady here
  · next here => exact runs_pollResponder steady.toSound here

theorem wiring_settleDispatch (net : Network) (other : ℕ) (d : Engine.Dispatched) :
    (net.settleDispatch other d).wiring = net.wiring := by
  unfold settleDispatch
  refine (wiring_wakeTasks ..).trans ?_
  refine Eq.trans ?_ (wiring_setEngine net other d.engine)
  cases d.handled <;> cases d.completed
  · rfl
  · exact wiring_wakeTasks ..
  · rfl
  · exact wiring_wakeTasks ..

theorem wiring_arrive (net : Network) (other : ℕ) (d : Delivery) :
    (net.arrive other d).wiring = net.wiring := by
  unfold arrive
  split
  · rfl
  · rfl
  · split
    · split
      · exact wiring_settleDispatch ..
      · rfl
    · rfl

/-- A delivery that is handed over leaves its mailbox, and nothing else changes. -/
theorem wiring_deliver (net : Network) (session : ℕ) : (net.deliver session).wiring =
    { net.wiring with hub := net.hub.apply (.deliver session) } := by
  have op : net.hub.apply (.deliver session) = (net.hub.deliver session).1 := rfl
  rw [op]
  unfold deliver
  split
  · next hub _ _ eq =>
    rw [eq]
    exact wiring_arrive ..
  · next hub eq =>
    rw [eq]
    rfl

/-- A cancellation or a drop concerns one request. -/
theorem runs_cancel (sound : net.wiring.Sound party endpoint) {task : RequestTask}
    (here : net.tasks[i]? = some (.request task)) :
    Runs party endpoint i net.wiring (net.cancelRequest i task).1.wiring := by
  unfold cancelRequest
  dsimp only
  split_ifs
  · rw [wiring_wake]
    exact runs_setTask here (Leads.refl sound) (fun _ => id) trivial
  · exact .goesOn (Leads.refl sound)

theorem runs_drop (sound : net.wiring.Sound party endpoint) {task : RequestTask}
    (here : net.tasks[i]? = some (.request task)) :
    Runs party endpoint i net.wiring (net.dropRequest i task).wiring := by
  have put (state : RequestState) : Runs party endpoint i net.wiring
      { net.wiring with tasks := net.tasks.set i (.request { task with state }) } :=
    runs_setTask here (Leads.refl sound) (fun _ => id) trivial
  unfold dropRequest
  split
  · exact put _
  · rw [wiring_endRequest]
    exact put _
  · exact .goesOn (Leads.refl sound)
  · exact .goesOn (Leads.refl sound)

/-- What a step does to the wiring of a network; a re-subscription is only run when it is polled. -/
theorem runs_step (steady : net.wiring.Steady party endpoint) (regular : Regular net.correlation)
    (a : Action) : ∃ i, Runs party endpoint i net.wiring (net.step a).wiring ∧
      ∀ task, net.tasks[i]? = some (.resubscription task) →
        ∃ cancelFirst, a = .poll i cancelFirst := by
  have sound := steady.toSound
  have still := Leads.refl sound
  have nobody {P : Prop} (task : ResubscriptionTask)
      (there : net.tasks[net.tasks.length]? = some (.resubscription task)) : P := by simp at there
  -- a step in which no task is run
  have goes {net' : Network} (leads : Leads party endpoint net.wiring net'.wiring) :
      ∃ i, Runs party endpoint i net.wiring net'.wiring ∧
        ∀ task, net.tasks[i]? = some (.resubscription task) →
          ∃ cancelFirst, a = .poll i cancelFirst := ⟨_, .goesOn leads, nobody⟩
  cases a with
  | operate task =>
    refine ⟨_, ?_, nobody⟩
    rw [step, wiring_spawn]
    exact .comes still fun _ _ _ => by simp
  | request task =>
    refine ⟨_, ?_, nobody⟩
    rw [step, wiring_spawn]
    exact .comes still trivial
  | poll i cancelFirst => exact ⟨i, runs_poll steady regular i cancelFirst, fun _ _ => ⟨_, rfl⟩⟩
  | deliver session =>
    refine goes ?_
    rw [step, wiring_deliver]
    exact Wiring.leads_hub sound (.deliver session) (by simp)
  | elapse milliseconds =>
    have same : (net.step (.elapse milliseconds)).wiring = net.wiring := rfl
    exact goes (same ▸ still)
  | cancel i =>
    rw [step, cancel]
    split
    · next task here =>
      refine ⟨i, runs_cancel sound here, fun _ there => ?_⟩
      cases here.symm.trans there
    · exact goes still
  | drop i =>
    rw [step, drop]
    split
    · next task here =>
      refine ⟨i, runs_drop sound here, fun _ there => ?_⟩
      cases here.symm.trans there
    · exact goes still
  | setOnline online => exact goes (Wiring.leads_hub sound (.setOnline online) (by simp))
  | restart => exact goes (Wiring.leads_hub sound .restart (by simp))

end Network

end HomeBus
