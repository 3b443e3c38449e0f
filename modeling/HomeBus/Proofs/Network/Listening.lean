import HomeBus.Proofs.Network.Sending

/-!
# Whether replies are heard

A client's facade skips a subscription that it remembers, and after a new connection the filters of
its session are only there when a re-subscription was run. In every state what the facade remembers
is a filter of the client's session, if it has one, or is still to be made again. So when the message
of a request was published, replies are heard at once, or as soon as that re-subscription was run.

Results:
* `Serves.run`: what a client's facade remembers is covered in every state of a run.
* `Serves.filters_of_poll`: a re-subscription that is run makes its subscriptions.
* `Publishes.subscribed`: what the client's session is subscribed to when a request was published.
* `replies_are_heard_once_subscribed`: in every run, whether the replies to a request are heard.
-/

namespace HomeBus.Network

open Wiring (Leads)

variable {net : Network} {party endpoint : ℕ} {task : RequestTask}

/-! ## What a client is subscribed to -/

/-- What holds of a client and of all requests in every state. -/
structure Serves (net : Network) (party endpoint : ℕ) : Prop where
  steady : net.wiring.Steady party endpoint
  regular : Regular net.correlation

theorem Serves.step (h : net.Serves party endpoint) (a : Action) :
    (net.step a).Serves party endpoint := by
  obtain ⟨i, runs, -⟩ := runs_step h.steady h.regular a
  exact ⟨runs.steady h.steady, regular_step h.regular a⟩

/-- What a client's facade remembers is covered in every state of a run. -/
theorem Serves.run (h : net.Serves party endpoint) (actions : List Action) :
    (net.run actions).Serves party endpoint := by
  induction actions using List.reverseRecOn with
  | nil => exact h
  | append_singleton actions a ih =>
    rw [run_concat]
    exact ih.step a

/-- Over a run the hub goes on by its operations. -/
theorem Serves.hub_run (h : net.Serves party endpoint) (actions : List Action) :
    ∃ ops, (net.run actions).hub = net.hub.run ops := by
  induction actions using List.reverseRecOn with
  | nil => exact ⟨[], rfl⟩
  | append_singleton actions a ih =>
    obtain ⟨ops, hub⟩ := ih
    obtain ⟨i, runs, -⟩ := runs_step (h.run actions).steady (h.run actions).regular a
    obtain ⟨ops', hub'⟩ := runs.hub
    refine ⟨ops ++ ops', ?_⟩
    rw [run_concat, Hub.run_append, ← hub]
    exact hub'

theorem exists_resubscription {task : Task} {topic : String}
    (does : task.Resubscribes endpoint topic) : ∃ t, task = .resubscription t := by
  cases task with
  | resubscription t => exact ⟨t, rfl⟩
  | operation | request | responder => exact does.elim

/-- Whether a task has a topic to subscribe to again for an endpoint. -/
def Resubscribing (net : Network) (j endpoint : ℕ) (topic : String) : Prop :=
  ∃ task, net.tasks[j]? = some task ∧ task.Resubscribes endpoint topic

/-- A re-subscription that is polled makes what it has to make. -/
theorem Serves.filters_poll (h : net.Serves party endpoint) {j : ℕ} {topic : String}
    (there : net.Resubscribing j endpoint topic) (cancelFirst : Bool) :
    (net.poll j cancelFirst).wiring.Filters endpoint topic := by
  obtain ⟨_, here, does⟩ := there
  obtain ⟨task, rfl⟩ := exists_resubscription does
  have prompt : Task.Prompt party endpoint (.resubscription task) :=
    h.steady.prompt _ (List.mem_of_getElem? here)
  have made := filters_pollResubscription (i := j) h.steady.toSound prompt does
  rwa [show net.poll j cancelFirst = net.pollResubscription j task by rw [poll, here]]

/-- A re-subscription stays until it is made. -/
theorem Serves.resubscribing_step (h : net.Serves party endpoint) {j : ℕ} {topic : String}
    (there : net.Resubscribing j endpoint topic) (a : Action) :
    (net.step a).Resubscribing j endpoint topic ∨ (net.step a).wiring.Filters endpoint topic := by
  obtain ⟨task, here, does⟩ := there
  obtain ⟨i, runs, polled⟩ := runs_step h.steady h.regular a
  by_cases same : j = i
  · subst same
    obtain ⟨resubscription, rfl⟩ := exists_resubscription does
    obtain ⟨cancelFirst, rfl⟩ := polled resubscription here
    exact .inr (h.filters_poll ⟨_, here, does⟩ cancelFirst)
  · exact .inl ⟨task, runs.getElem? same here, does⟩

/-- Whether nothing happened yet. -/
structure Outset (net : Network) : Prop extends Initial net where
  hub : net.hub = .new
  tasks : net.tasks = []
  facades : ∀ {party facade}, net.facade? party = some facade → facade.subscriptions = []

theorem outset_loopback : loopback.Outset := by
  refine ⟨initial_loopback, rfl, rfl, fun {party facade} here => ?_⟩
  cases party with
  | zero =>
    cases here
    rfl
  | succ => cases here

theorem Outset.serves (h : net.Outset) (client : net.wiring.Client party endpoint) :
    net.Serves party endpoint := by
  have hub : net.wiring.hub = .new := h.hub
  have tasks : net.wiring.tasks = [] := h.tasks
  refine ⟨⟨⟨hub ▸ Hub.sound_new, client, fun facade topic here known => ?_⟩, ?_⟩,
    h.toInitial.regular⟩
  · rw [facade?_wiring] at here
    simp [Facade.isSubscribed, h.facades here] at known
  · rw [tasks]
    exact List.forall_mem_nil _

/-! ## Before the publication -/

/-- Before a request is published its response topic is a filter of the client's session, unless the
    facade knew it from before. -/
theorem Subscribes.leads {facade : Facade} {before : Network}
    (h : net.Subscribes task facade before) (sound : net.wiring.Sound party endpoint)
    (stands : facade.endpoint = endpoint) :
    Leads party endpoint net.wiring before.wiring ∧
      (before.wiring.Filters endpoint task.responseTopic ∨
        facade.isSubscribed task.responseTopic = true ∧ before = net) := by
  subst stands
  cases h with
  | known known => exact ⟨Leads.refl sound, .inr ⟨known, rfl⟩⟩
  | made unknown called =>
    have leads := leads_call sound facade.endpoint (.subscribe task.responseTopic facade.defaultQos)
    have filters := filters_call sound task.responseTopic facade.defaultQos
    rw [called] at leads filters
    exact ⟨leads.trans (leads_remember leads.sound _ _ _ fun _ => .inr filters), .inl filters⟩

variable {i : ℕ} {cancelFirst : Bool} {r : Running} {sent : Network}

/-- When a request was published the client has a session. The response topic is a filter of it, or
    the facade knew the topic and it is to be subscribed to again. -/
theorem Publishes.subscribed (h : net.Publishes i cancelFirst task r sent)
    (serves : net.Serves party endpoint) (own : task.party = party) :
    sent.hub.isConnected endpoint = true ∧ (sent.wiring.Filters endpoint task.responseTopic ∨
      (∃ facade, net.facade? party = some facade ∧
        facade.isSubscribed task.responseTopic = true) ∧
      sent.wiring.Outstanding endpoint task.responseTopic) := by
  subst own
  have sound := serves.steady.toSound
  obtain ⟨engine, facade, payload, before, -, facadeHere, -, -, subscribes, -, called⟩ :=
    h.published
  have stands := endpoint_of_client sound.client facadeHere
  obtain ⟨facadeThere, memory, -⟩ := enrol_frame engine facadeHere (onHub_of_client sound.client)
  have memoryThere : (before.endpoint? facade.endpoint).map Endpoint.kind = some .memory :=
    subscribes.endpoint_eq memory _ ▸ memory
  rw [stands] at called memoryThere
  have enrolled : (net.enrol task engine).wiring.Sound task.party endpoint := by
    rwa [wiring_enrol]
  obtain ⟨leads, origin⟩ := subscribes.leads enrolled stands
  obtain ⟨on, wired⟩ := wiring_of_call_publish memoryThere called
  have hubs : sent.hub = before.hub.apply (.publish endpoint task.topic payload) :=
    congrArg Wiring.hub wired
  refine ⟨by rw [← Hub.isSome_session?, hubs, Hub.apply, Hub.session?_publish,
    Hub.isSome_session?, on], ?_⟩
  rw [wired]
  rcases origin with filters | ⟨known, rfl⟩
  · exact .inl (filters.apply leads.sound.hub (by simp))
  · rcases enrolled.covered facade task.responseTopic ((facade?_wiring ..).trans facadeThere) known
      with filters | outstanding
    · exact .inl (filters.apply enrolled.hub (by simp))
    · exact .inr ⟨⟨facade, facadeHere, known⟩, outstanding⟩

/-- After a request was published, nothing but the request changes any more in the same step. -/
theorem Publishes.wiring_poll (h : net.Publishes i cancelFirst task r sent)
    (hub : net.OnHub task.party) : ∃ state, (net.poll i cancelFirst).wiring =
      { sent.wiring with tasks := sent.tasks.set i (.request { task with state }) } := by
  obtain ⟨state, eq⟩ := wiring_conclude (sent.awaitReply task r).1 i task r
    (sent.awaitReply task r).2
  have same := wiring_awaitReply sent task r
  have tasks : (sent.awaitReply task r).1.tasks = sent.tasks := congrArg Wiring.tasks same
  exact ⟨state, by rw [poll_of_publishes h hub, eq, same, tasks]⟩

/-- A re-subscription that is to be made when a request was published is still to be made after the
    step. -/
theorem Publishes.resubscribing (h : net.Publishes i cancelFirst task r sent)
    (hub : net.OnHub task.party) {j : ℕ} {topic : String}
    (there : sent.Resubscribing j endpoint topic) :
    (net.poll i cancelFirst).Resubscribing j endpoint topic := by
  obtain ⟨new, at_, does⟩ := there
  obtain ⟨state, wired⟩ := h.wiring_poll hub
  have tasks : (net.poll i cancelFirst).tasks = sent.tasks.set i (.request { task with state }) :=
    congrArg Wiring.tasks wired
  have ne : j ≠ i := by
    rintro rfl
    obtain ⟨t, -, -, -, -, registered⟩ := h.registered
    have request : sent.request? j = some task :=
      (congrArg (Correlation.request · j) registered).trans h.request
    cases at_.symm.trans (request?_eq_some.1 request)
    exact does
  refine ⟨new, ?_, does⟩
  rw [tasks, List.getElem?_set_ne (Ne.symm ne), at_]

/-- A request that was published is in the table, and waits. -/
theorem Publishes.listed (h : net.Publishes i cancelFirst task r sent)
    (c : net.ledger.Consistent) : ∃ t, sent.table? task.party = some t ∧
      (r.message.uid, ⟨task.expectation r.message.uid, r.ticket, false⟩) ∈ t.entries ∧
      t.slot r.ticket = .waiting := by
  obtain ⟨t, table, absent, uid, ticket, registered⟩ := h.registered
  refine ⟨_, (congrArg (Correlation.table · task.party) registered).trans
    (Function.update_self ..), ?_⟩
  rw [uid, ticket, PendingTable.register_of_not_mem absent]
  exact ⟨List.mem_append_right _ (List.mem_singleton_self _),
    PendingTable.slot_append_self _ ((c.sound table).nextTicket_not_mem _) _⟩

/-! ## After the publication -/

/-- Once a re-subscription was polled, its topics are filters of the client's session. -/
theorem Serves.filters_of_poll (h : net.Serves party endpoint) {j : ℕ} {topic : String}
    (there : net.Resubscribing j endpoint topic) {actions : List Action} {cancelFirst : Bool}
    (polled : .poll j cancelFirst ∈ actions) :
    ∃ before rest, actions = before ++ rest ∧ (net.run before).wiring.Filters endpoint topic := by
  induction actions generalizing net with
  | nil => cases polled
  | cons a actions ih =>
    rcases List.mem_cons.1 polled with rfl | polled
    · exact ⟨[.poll j cancelFirst], actions, rfl, h.filters_poll there cancelFirst⟩
    · rcases h.resubscribing_step there a with there | filters
      · obtain ⟨before, rest, rfl, filters⟩ := ih (h.step a) there polled
        exact ⟨a :: before, rest, rfl, filters⟩
      · exact ⟨[a], actions, rfl, filters⟩

/-- Replies are put into the mailbox of a client's session as long as it is open, from the moment at
    which their topic is a filter of it. -/
theorem Serves.hears_run (h : net.Serves party endpoint) {session : Session}
    (here : net.hub.session? endpoint = some session) {topic : String}
    (selects : Topic.selects topic topic = true) {after : List Action} {ops : List Hub.Operation}
    (subscribed : ∃ before rest, after = before ++ rest ∧
      (net.run before).wiring.Filters endpoint topic)
    (open_ : ((net.run after).hub.run ops).hasSession session.id = true) :
    ((net.run after).hub.run ops).Hears endpoint session.id topic := by
  obtain ⟨before, rest, rfl, filters⟩ := subscribed
  have mid := h.run before
  obtain ⟨opsBefore, hubBefore⟩ := h.hub_run before
  obtain ⟨opsRest, hubRest⟩ := mid.hub_run rest
  rw [run_append, hubRest, ← Hub.run_append] at open_ ⊢
  -- the session was open when the filter was there
  have le : session.id ≤ (net.run before).hub.lastId := by
    rw [hubBefore]
    exact Nat.le_trans (h.steady.hub.opened session (h.steady.hub.session?_eq_some.1 here).2)
      (Hub.lastId_le_run ..)
  have openBefore := Hub.hasSession_of_run open_ le
  rw [hubBefore] at openBefore
  obtain ⟨new, there, same, -⟩ := Hub.Sound.session?_run h.steady.hub here opsBefore openBefore
  have there : (net.run before).hub.session? endpoint = some new := hubBefore ▸ there
  rw [← same] at open_ ⊢
  exact Hub.Sound.hears_run mid.steady.hub there (filters new there) selects _ open_

/--
In every run, when the message of a request was published, the request is in the table and waits,
and the client has a session. The response topic is among the filters of the session, unless the
facade knew it from before and a re-subscription is to make it again. If the topic has no `#` before
its end, then whatever is published on it from then on, once that re-subscription was polled where
one is needed, is put into the session's mailbox for as long as the session is open.
-/
theorem replies_are_heard_once_subscribed {net : Network} (outset : net.Outset)
    (client : net.wiring.Client party endpoint) (actions : List Action) (own : task.party = party)
    (publishes : (net.run actions).Publishes i cancelFirst task r sent) :
    ((net.run actions).step (.poll i cancelFirst) =
      (sent.awaitReply task r).1.conclude i task r (sent.awaitReply task r).2) ∧
    (∃ t, sent.table? party = some t ∧
      (r.message.uid, ⟨task.expectation r.message.uid, r.ticket, false⟩) ∈ t.entries ∧
      t.slot r.ticket = .waiting) ∧
    ∃ session, sent.hub.session? endpoint = some session ∧
      (task.responseTopic ∈ session.filters ∨
        (∃ facade, (net.run actions).facade? party = some facade ∧
          facade.isSubscribed task.responseTopic = true) ∧
        ∃ j, sent.Resubscribing j endpoint task.responseTopic) ∧
      (['#'] ∉ (Topic.levels task.responseTopic).dropLast → ∀ after ops,
        (task.responseTopic ∈ session.filters ∨ ∃ j cancelFirst,
          sent.Resubscribing j endpoint task.responseTopic ∧ .poll j cancelFirst ∈ after) →
        ((net.run (actions ++ .poll i cancelFirst :: after)).hub.run ops).hasSession session.id →
        ((net.run (actions ++ .poll i cancelFirst :: after)).hub.run ops).Hears endpoint session.id
          task.responseTopic) := by
  subst own
  have serves := (outset.serves client).run actions
  have hub := onHub_of_client serves.steady.client
  obtain ⟨on, subscribed⟩ := publishes.subscribed serves rfl
  obtain ⟨session, here⟩ := Option.isSome_iff_exists.1
    ((Hub.isSome_session? sent.hub endpoint).trans on)
  refine ⟨poll_of_publishes publishes hub, publishes.listed (outset.consistent_run actions),
    session, here, ?_, fun selects after ops heard open_ => ?_⟩
  · refine subscribed.imp (fun filters => filters session here) (And.imp_right ?_)
    rintro ⟨new, mem, does⟩
    obtain ⟨j, at_⟩ := List.getElem?_of_mem mem
    exact ⟨j, new, at_, does⟩
  · obtain ⟨state, wired⟩ := publishes.wiring_poll hub
    have hubs : ((net.run actions).poll i cancelFirst).hub = sent.hub := congrArg Wiring.hub wired
    have next := serves.step (.poll i cancelFirst)
    rw [run_append, run_cons] at open_ ⊢
    refine next.hears_run (hubs.symm ▸ here) ((Topic.selects_self_iff _).2 selects) ?_ open_
    rcases heard with mem | ⟨j, cancelFirst', there, polled⟩
    · refine ⟨[], after, rfl, fun session' here' => ?_⟩
      cases (hubs.symm ▸ here : ((net.run actions).poll i cancelFirst).hub.session? endpoint =
        some session).symm.trans here'
      exact mem
    · exact next.filters_of_poll (publishes.resubscribing hub there) polled

theorem client_loopback : loopback.wiring.Client 0 0 :=
  ⟨⟨_, rfl, rfl, rfl⟩, ⟨_, rfl, rfl, rfl, rfl⟩⟩

/-- The request of `loopback` is published, and its replies are heard. -/
theorem replies_are_heard_in_loopback :
    ∃ r sent session, (loopback.run ((asking "a").take 3)).Publishes 1 false (echoed "a") r sent ∧
      sent.hub.session? 0 = some session ∧ "echo" ∈ session.filters ∧ ∀ after ops,
        ((loopback.run (asking "a" ++ after)).hub.run ops).hasSession session.id →
          ((loopback.run (asking "a" ++ after)).hub.run ops).Hears 0 session.id "echo" := by
  obtain ⟨sent, publishes, -⟩ := exists_publishes
    (show (loopback.run ((asking "a").take 3)).request? 1 = some (echoed "a") from rfl) rfl rfl rfl
    rfl (show (false && (echoed "a").cancellable && (echoed "a").cancelled) = false from rfl)
    (by decide +kernel) (by decide +kernel) rfl
  obtain ⟨-, -, session, here, subscribed, heard⟩ := replies_are_heard_once_subscribed
    outset_loopback client_loopback ((asking "a").take 3) rfl publishes
  have mem : "echo" ∈ session.filters := by
    refine subscribed.resolve_right ?_
    rintro ⟨⟨facade, facadeHere, known⟩, -⟩
    cases facadeHere
    revert known
    decide +kernel
  exact ⟨_, sent, session, publishes, here, mem, fun after ops =>
    heard (by decide +kernel) after ops (.inl mem)⟩

/-- The party makes a request, connects once more, and makes a second one before its subscription is
    made again. -/
def reconnecting : List Action :=
  asking "a" ++ [.operate ⟨0, true, .close, .fresh⟩, .poll 2 false,
    .operate ⟨0, true, .connect {}, .fresh⟩, .poll 3 false, .request (echoed "b")]

/-- A request whose response topic has a `#` before its end. -/
def astray : RequestTask := { echoed "a" with responseTopic := "a/#/b" }

/-- In `loopback` a request is published without a filter for its replies, while the subscription is
    still to be made again. Another one is published whose session has the filter, and what is
    published on its response topic is not put into the mailbox. -/
theorem replies_are_missed_in_loopback : loopback.Outset ∧ loopback.wiring.Client 0 0 ∧
    (∃ r sent session, (loopback.run reconnecting).Publishes 5 false (echoed "b") r sent ∧
      sent.hub.session? 0 = some session ∧ "echo" ∉ session.filters) ∧
    ∃ r sent session payload hub,
      (loopback.run ((asking "a").take 2 ++ [.request astray])).Publishes 1 false astray r sent ∧
      sent.hub.session? 0 = some session ∧ "a/#/b" ∈ session.filters ∧
      sent.hub.publish 0 "a/#/b" payload = (hub, .ok []) ∧
      hub.mailbox? session.id = sent.hub.mailbox? session.id := by
  refine ⟨outset_loopback, client_loopback, ?_, ?_⟩
  · obtain ⟨sent, publishes, hub⟩ := exists_publishes
      (show (loopback.run reconnecting).request? 5 = some (echoed "b") from rfl) rfl rfl rfl rfl
      (show (false && (echoed "b").cancellable && (echoed "b").cancelled) = false from rfl)
      (by decide +kernel) (by decide +kernel) rfl
    obtain ⟨session, here, bare⟩ :
        ∃ session, sent.hub.session? 0 = some session ∧ session.filters = [] := by
      rw [hub]
      exact ⟨_, rfl, rfl⟩
    exact ⟨_, sent, session, publishes, here, bare ▸ List.not_mem_nil⟩
  · obtain ⟨sent, publishes, hub⟩ := exists_publishes
      (show (loopback.run ((asking "a").take 2 ++ [.request astray])).request? 1 = some astray
        from rfl) rfl rfl rfl rfl
      (show (false && astray.cancellable && astray.cancelled) = false from rfl)
      (by decide +kernel) (by decide +kernel) rfl
    obtain ⟨session, after, here, filters, published, missed⟩ : ∃ session after,
        sent.hub.session? 0 = some session ∧ session.filters = ["a/#/b"] ∧
          sent.hub.publish 0 "a/#/b" [] = (after, .ok []) ∧
          after.mailbox? session.id = sent.hub.mailbox? session.id := by
      rw [hub]
      exact ⟨_, _, rfl, rfl, rfl, by decide +kernel⟩
    exact ⟨_, sent, session, [], after, publishes, here, filters ▸ List.mem_singleton_self _,
      published, missed⟩

end HomeBus.Network
