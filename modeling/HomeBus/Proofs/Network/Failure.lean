import HomeBus.Proofs.Network.Registration
import HomeBus.Proofs.Network.Sending

/-!
# Requests that fail

A request over the hub fails when it starts or not at all: because its uid is in the table, because
there is no session, or because its message cannot be encoded. A request that fails for one of the
first two reasons leaves no trace.

Results:
* `Untouched.completesAs`: a table whose entries and waiters are as before completes the same
  requests.
* `failed_of_run`: a request that did not fail when it was polled first never does.
* `failed_iff`: why a request over the hub has failed.
* `undone_of_refused`, `kept_of_unencodable`: what a request that failed leaves.
* `failed_requests_leave_no_trace`: in every reachable state, why a request fails and what is as it
  was before it.
-/

namespace HomeBus

namespace PendingTable

/-- A scan depends on what is gone of the entries' own waiters only. -/
theorem scan_congr {gone gone' : Ticket → Bool} {accepts : Expectation → Bool}
    {entries : List (String × PendingRequest)}
    (h : ∀ entry ∈ entries, gone entry.2.ticket = gone' entry.2.ticket) :
    scan gone accepts entries = scan gone' accepts entries := by
  induction entries with
  | nil => rfl
  | cons head rest ih =>
    rw [List.forall_mem_cons] at h
    rw [scan, scan, h.1, ih h.2]

end PendingTable

/-- A request that only waits for its reply when it is looked at goes on or returns, and does not
    fail. -/
theorem Correlation.fine_of_look {c c' : Correlation} {i : ℕ} {task : RequestTask} {r : Running}
    {cancelFirst : Bool} {due : Prop} (look : c.Look i task r cancelFirst due c')
    (listens : due) : ∃ state, state ≠ .fresh ∧ (∀ e, state ≠ .finished (.error e)) ∧
      c'.request i = some { task with state } := by
  cases look with
  | goesOn => exact ⟨.running _, by simp, by simp, request_setRequest_self ..⟩
  | @ends result verdict =>
    refine ⟨.finished result, by simp, fun e same => ?_, request_close_self ..⟩
    cases same
    cases verdict with
    | failed notDue => exact notDue listens

namespace Network

variable {net : Network} {i : ℕ} {task : RequestTask}

/-- Whether messages complete the same requests in a table as in another one, and their waiters
    take them. -/
def CompletesAs (t t' : PendingTable) : Prop :=
  ∀ strict topic m, (t'.complete strict topic m).2 = (t.complete strict topic m).2 ∧
    (t'.complete strict topic m).1.entries = (t.complete strict topic m).1.entries ∧
    ∀ ticket, (t'.complete strict topic m).2 = some ticket →
      (t'.complete strict topic m).1.slot ticket = .answered m

/-- A table whose entries and waiters are as before completes the same requests. -/
theorem Untouched.completesAs {t t' : PendingTable} (h : Untouched t t') (sound : t.Sound)
    (sound' : t'.Sound) : CompletesAs t t' := by
  intro strict topic m
  have scanned : PendingTable.scan (fun ticket => t'.slot ticket == .gone)
      (·.accepts strict topic m) t'.entries =
        PendingTable.scan (fun ticket => t.slot ticket == .gone)
          (·.accepts strict topic m) t.entries := by
    rw [h.1]
    refine PendingTable.scan_congr fun entry mem => ?_
    rw [h.2 _ (sound.handed entry mem)]
  refine ⟨?_, ?_, fun ticket taken => sound'.slot_complete_of_eq strict topic m taken⟩
  all_goals
    unfold PendingTable.complete
    rw [scanned]
    dsimp only
    split <;> rfl

/-! ## When a request fails -/

/-- Whether a request has returned an error. -/
def Failed (net : Network) (i : ℕ) : Prop :=
  ∃ task e, net.request? i = some task ∧ task.state = .finished (.error e)

/-- A request that failed stays so. -/
theorem Failed.step (failed : net.Failed i) (a : Action) : (net.step a).Failed i := by
  obtain ⟨task, e, here, returned⟩ := failed
  obtain ⟨cancelled, state, there, moves, -⟩ := exists_request_step here a
  refine ⟨_, e, there, ?_⟩
  rcases moves with same | ⟨ongoing, -, -⟩
  · exact same.trans returned
  · rw [returned] at ongoing
    cases ongoing

theorem Failed.run (failed : net.Failed i) (actions : List Action) :
    (net.run actions).Failed i := by
  induction actions using List.reverseRecOn with
  | nil => exact failed
  | append_singleton actions a ih =>
    rw [run_concat]
    exact ih.step a

/-- A request over the hub that was polled before fails in no step. -/
theorem failed_of_step (regular : Regular net.correlation) (hub : net.OnHub task.party)
    (request : net.request? i = some task) (begun : task.state ≠ .fresh) {a : Action}
    (failed : (net.step a).Failed i) : net.Failed i := by
  obtain ⟨task', e, after, returned⟩ := failed
  cases advances_step request after with
  | stays | signalled => exact ⟨task, e, request, returned⟩
  | dropped => cases returned
  | refused _ fresh | started _ fresh => exact absurd fresh begun
  | looked _ running look =>
    -- over the hub it only waits for its reply, and that is no reason to fail
    have listens : net.correlation.Listens task _ :=
      ⟨hub, (regular i task _ request running).awaiting hub⟩
    obtain ⟨state, -, fine, there⟩ := Correlation.fine_of_look look listens
    cases there.symm.trans after
    exact absurd returned (fine e)

/-- A request over the hub that did not fail when it was first polled never does. -/
theorem failed_of_run (regular : Regular net.correlation) (hub : net.OnHub task.party)
    (request : net.request? i = some task) (begun : task.state ≠ .fresh) (actions : List Action)
    (failed : (net.run actions).Failed i) : net.Failed i := by
  -- it stays polled, by the same party and on the same kind of endpoint
  have stays (actions : List Action) : ∃ cancelled state, state ≠ .fresh ∧
      (net.run actions).request? i = some { task with cancelled, state } := by
    induction actions using List.reverseRecOn with
    | nil => exact ⟨_, _, begun, request⟩
    | append_singleton actions a ih =>
      obtain ⟨cancelled, state, begun, there⟩ := ih
      rw [run_concat]
      obtain ⟨cancelled', state', after, moves, -⟩ := exists_request_step there a
      refine ⟨_, _, ?_, after⟩
      rcases moves with rfl | ⟨-, ne, -⟩
      · exact begun
      · exact ne
  induction actions using List.reverseRecOn with
  | nil => exact failed
  | append_singleton actions a ih =>
    obtain ⟨cancelled, state, begun, there⟩ := stays actions
    rw [run_concat] at failed
    refine ih (failed_of_step (regular_run regular actions) ?_ there begun failed)
    rw [OnHub, kind_run]
    exact hub

/-! ## Why a request fails -/

theorem request?_endRequest {old : RequestTask} (here : net.request? i = some old) (r : Running)
    (state : RequestState) :
    (net.endRequest i task r state).request? i = some { task with state } :=
  (congrArg (Correlation.request · i) (correlation_endRequest here task r state)).trans
    (Correlation.request_close_self ..)

/-- A request that looks for its reply goes on or returns, and does not fail. -/
theorem exists_request_of_awaits {sent : Network} (here : sent.request? i = some task)
    (r : Running) : ∃ state, state ≠ .fresh ∧ (∀ e, state ≠ .finished (.error e)) ∧
      ((sent.awaitReply task r).1.conclude i task r (sent.awaitReply task r).2).request? i =
        some { task with state } :=
  Correlation.fine_of_look (look_conclude false here (exchanged_awaitReply sent task r True))
    trivial

/-- A task is put back into a network that connections do not tell from another one. -/
theorem wiring_setTask {net' : Network} (same : net'.wiring = net.wiring) (new : Task) :
    (net'.setTask i new).wiring = { net.wiring with tasks := net.tasks.set i new } := by
  have tasks : net'.tasks = net.tasks := congrArg Wiring.tasks same
  rw [← same, ← tasks]
  rfl

/-- What a request over the hub that was polled first leaves, according to whether it failed. -/
inductive Launched (net : Network) (i : ℕ) (task : RequestTask) (engine : Engine) (facade : Facade)
    (net' : Network) : Prop where
  /-- It is refused or finds no session, and nothing but the request changes. -/
  | refused {e : Error} {new : Task} :
      net.uidOf task ∈ engine.pending.keys ∨ net.hub.isConnected facade.endpoint = false →
      net'.request? i = some { task with state := .finished (.error e) } →
      net'.wiring = { net.wiring with tasks := net.tasks.set i new } →
      Launched net i task engine facade net'
  /-- It cannot be encoded, after its response topic was subscribed to. -/
  | unencodable {e e' : Error} {before : Network} {new : Task} :
      net.uidOf task ∉ engine.pending.keys → net.hub.isConnected facade.endpoint = true →
      engine.codec.encode (net.identify task.message).2 = .error e →
      net'.request? i = some { task with state := .finished (.error e') } →
      (net.enrol task engine).Subscribes task facade before →
      net'.wiring = { before.wiring with tasks := net.tasks.set i new } →
      Launched net i task engine facade net'
  | fine {payload : Bytes} {state : RequestState} :
      net.uidOf task ∉ engine.pending.keys → net.hub.isConnected facade.endpoint = true →
      engine.codec.encode (net.identify task.message).2 = .ok payload → state ≠ .fresh →
      (∀ e, state ≠ .finished (.error e)) → net'.request? i = some { task with state } →
      Launched net i task engine facade net'

section Start

variable {engine : Engine} {facade : Facade} {cancelFirst : Bool}
  (request : net.request? i = some task) (fresh : task.state = .fresh)
  (engineHere : net.engine? task.party = some engine)
  (facadeHere : net.facade? task.party = some facade) (hub : net.OnHub task.party)
  (quiet : (cancelFirst && task.cancellable && task.cancelled) = false)
include request fresh engineHere facadeHere hub quiet

/-- A request over the hub starts, with no signal to cancel looked at first. -/
theorem launched_poll : net.Launched i task engine facade (net.poll i cancelFirst) := by
  have opening := opening_poll request fresh engineHere facadeHere hub cancelFirst
  have enrolled : (net.enrol task engine).request? i = some task :=
    (correlation_identify_setEngine request engineHere _).2
  have wired := wiring_enrol net task engine
  have tasks : (net.enrol task engine).tasks = net.tasks := congrArg Wiring.tasks wired
  generalize net.poll i cancelFirst = net' at opening
  cases opening with
  | refused mem =>
    obtain ⟨-, there⟩ := correlation_identify_setEngine request engineHere
      (engine.pending.refuse (task.expectation (net.uidOf task)))
    have returned := congrArg (Correlation.request · i) (correlation_setRequest _ there
      { task with state := .finished (.error (.duplicateRequest (net.uidOf task))) })
    refine .refused (.inl mem) (returned.trans (Correlation.request_setRequest_self ..))
      (wiring_setTask ?_ _)
    rw [wiring_setEngine, wiring_identify]
  | cancelled _ signal => cases quiet.symm.trans signal
  | @unconnected e absent off =>
    have ended := wiring_endRequest (net.enrol task engine) i task (net.enrolled task engine)
      (.finished (.error e))
    rw [wired, tasks] at ended
    exact .refused (.inr off) (request?_endRequest enrolled _ _) ended
  | @unencodable e _ before absent on subscribes encoded =>
    have there := (congrArg (Correlation.request · i) subscribes.correlation).trans enrolled
    obtain ⟨-, memory, -⟩ := enrol_frame engine facadeHere hub
    have ended := wiring_endRequest before i task (net.enrolled task engine) (.finished (.error e))
    rw [subscribes.tasks memory, tasks] at ended
    exact .unencodable absent on encoded (request?_endRequest there _ _) subscribes ended
  | published absent on encoded publishes =>
    obtain ⟨t, -, -, -, -, registered⟩ := publishes.registered
    obtain ⟨state, begun, fine, there⟩ := exists_request_of_awaits
      ((congrArg (Correlation.request · i) registered).trans request) (net.enrolled task engine)
    exact .fine absent on encoded begun fine there

/-- Why a request over the hub has failed, at any time after it was polled first. -/
theorem failed_iff (regular : Regular net.correlation) (after : List Action) :
    ((net.poll i cancelFirst).run after).Failed i ↔
      net.uidOf task ∈ engine.pending.keys ∨ net.hub.isConnected facade.endpoint = false ∨
        ∃ e, engine.codec.encode (net.identify task.message).2 = .error e := by
  cases launched_poll request fresh engineHere facadeHere hub quiet with
  | refused fails there =>
    exact iff_of_true (Failed.run ⟨_, _, there, rfl⟩ after) (fails.imp_right .inl)
  | unencodable absent on encoded there =>
    exact iff_of_true (Failed.run ⟨_, _, there, rfl⟩ after) (.inr (.inr ⟨_, encoded⟩))
  | @fine payload state absent on encoded begun fine there =>
    refine iff_of_false (fun failed => ?_) ?_
    · have onHub :
          (net.step (.poll i cancelFirst)).OnHub ({ task with state } : RequestTask).party :=
        (congrFun (kind_step net (.poll i cancelFirst)) _).trans hub
      obtain ⟨task', e, there', returned⟩ := failed_of_run
        (regular_step regular (.poll i cancelFirst)) onHub there begun after failed
      cases there.symm.trans there'
      exact fine e returned
    · rintro (mem | off | ⟨e, encoded'⟩)
      · exact absent mem
      · cases on.symm.trans off
      · cases encoded.symm.trans encoded'

end Start

/-! ## What a request that failed leaves -/

/-- Whether a network can be reached from one in which nothing was requested yet. -/
def Reachable (net : Network) : Prop :=
  ∃ origin actions, Initial origin ∧ net = origin.run actions

theorem Reachable.consistent (h : net.Reachable) : net.ledger.Consistent := by
  obtain ⟨origin, actions, initial, rfl⟩ := h
  exact initial.consistent_run actions

theorem Reachable.regular (h : net.Reachable) : Regular net.correlation := by
  obtain ⟨origin, actions, initial, rfl⟩ := h
  exact regular_run initial.regular actions

theorem Reachable.step (h : net.Reachable) (a : Action) : (net.step a).Reachable := by
  obtain ⟨origin, actions, initial, rfl⟩ := h
  exact ⟨origin, actions ++ [a], initial, (run_concat ..).symm⟩

/-- What is as it was before in a network in which only a request moved. -/
structure Kept (net net' : Network) (i : ℕ) : Prop where
  /-- The tables keep their entries in order, and complete them as before. -/
  tables : ∀ {party t}, net.table? party = some t →
    ∃ t', net'.table? party = some t' ∧ Untouched t t' ∧ CompletesAs t t'
  /-- What was sent and not delivered yet. -/
  mailboxes : net'.hub.mailboxes = net.hub.mailboxes
  others : ∀ j ≠ i, net'.tasks[j]? = net.tasks[j]?

/-- What is as it was before in a network in which a request left no trace. -/
structure Undone (net net' : Network) (i : ℕ) : Prop extends Kept net net' i where
  /-- What each facade remembers. -/
  facades : ∀ party, net'.facade? party = net.facade? party
  /-- All sessions, with their filters. -/
  hub : net'.hub = net.hub

/-- A request that fails when it starts touches no table. -/
theorem tables_of_failed (reachable : net.Reachable) (request : net.request? i = some task)
    (fresh : task.state = .fresh) {cancelFirst : Bool} (failed : (net.poll i cancelFirst).Failed i)
    {party : ℕ} {t : PendingTable} (table : net.table? party = some t) :
    ∃ t', (net.poll i cancelFirst).table? party = some t' ∧ Untouched t t' ∧ CompletesAs t t' := by
  obtain ⟨task', e, after, returned⟩ := failed
  have ended : (net.step (.poll i cancelFirst)).isOver i = true := by
    rw [isOver, step, after, Option.any_some, returned]
    rfl
  obtain ⟨t', there, same⟩ := untouched_poll reachable.consistent (hold_of_fresh request fresh)
    (hold_of_isOver ended) table
  exact ⟨t', there, same, same.completesAs (reachable.consistent.sound table)
    ((reachable.step (.poll i cancelFirst)).consistent.sound there)⟩

section Start

variable {engine : Engine} {facade : Facade} {cancelFirst : Bool} (reachable : net.Reachable)
  (request : net.request? i = some task) (fresh : task.state = .fresh)
  (engineHere : net.engine? task.party = some engine)
  (facadeHere : net.facade? task.party = some facade) (hub : net.OnHub task.party)
  (quiet : (cancelFirst && task.cancellable && task.cancelled) = false)
include reachable request fresh engineHere facadeHere hub quiet

/-- A request that is refused, or finds no session, leaves no trace. -/
theorem undone_of_refused
    (fails : net.uidOf task ∈ engine.pending.keys ∨ net.hub.isConnected facade.endpoint = false) :
    net.Undone (net.poll i cancelFirst) i := by
  have failed := (failed_iff request fresh engineHere facadeHere hub quiet reachable.regular []).2
    (fails.imp_right .inl)
  cases launched_poll request fresh engineHere facadeHere hub quiet with
  | @refused _ new _ _ wired =>
    have hubs : (net.poll i cancelFirst).hub = net.hub := congrArg Wiring.hub wired
    have tasks : (net.poll i cancelFirst).tasks = net.tasks.set i new := congrArg Wiring.tasks wired
    refine ⟨⟨tables_of_failed reachable request fresh failed, by rw [hubs], fun j ne => ?_⟩,
      fun party => ?_, hubs⟩
    · rw [tasks, List.getElem?_set_ne (Ne.symm ne)]
    · rw [← facade?_wiring, wired]
      exact facade?_wiring net party
  | unencodable absent on | fine absent on =>
    rcases fails with mem | off
    · exact absurd mem absent
    · cases on.symm.trans off

/-- A request that cannot be encoded leaves its response topic subscribed to, and no other trace. -/
theorem kept_of_unencodable (absent : net.uidOf task ∉ engine.pending.keys)
    (on : net.hub.isConnected facade.endpoint = true) {e : Error}
    (encoded : engine.codec.encode (net.identify task.message).2 = .error e) :
    net.Kept (net.poll i cancelFirst) i ∧
      (∀ party, (net.poll i cancelFirst).facade? party =
        if party = task.party then some (facade.remember task.responseTopic facade.defaultQos)
        else net.facade? party) ∧
      (net.poll i cancelFirst).hub = if facade.isSubscribed task.responseTopic then net.hub
        else (net.hub.subscribe facade.endpoint task.responseTopic).1 := by
  have failed := (failed_iff request fresh engineHere facadeHere hub quiet reachable.regular []).2
    (.inr (.inr ⟨e, encoded⟩))
  cases launched_poll request fresh engineHere facadeHere hub quiet with
  | refused fails =>
    rcases fails with mem | off
    · exact absurd mem absent
    · cases on.symm.trans off
  | @unencodable _ _ before new _ _ _ _ subscribes wired =>
    obtain ⟨facadeThere, memory, hubs⟩ := enrol_frame engine facadeHere hub
    have hubs' : (net.poll i cancelFirst).hub = before.hub := congrArg Wiring.hub wired
    have tasks : (net.poll i cancelFirst).tasks = net.tasks.set i new := congrArg Wiring.tasks wired
    have mailboxes : before.hub.mailboxes = net.hub.mailboxes := by
      rw [subscribes.hub memory, hubs]
      split
      · rfl
      · exact Hub.mailboxes_subscribe ..
    refine ⟨⟨tables_of_failed reachable request fresh failed, by rw [hubs', mailboxes],
      fun j ne => ?_⟩, fun party => ?_, ?_⟩
    · rw [tasks, List.getElem?_set_ne (Ne.symm ne)]
    · rw [← facade?_wiring, wired]
      refine (facade?_wiring before party).trans ?_
      refine (subscribes.facades memory facadeThere party).trans ?_
      rw [← facade?_wiring (net.enrol task engine), wiring_enrol, facade?_wiring]
    · rw [hubs', subscribes.hub memory, hubs]
  | fine _ _ encoded' => cases encoded.symm.trans encoded'

/--
In every reachable state, a request over the hub fails, now or later, if and only if, when it is
polled first, its uid is in the table, or there is no session, or its message cannot be encoded,
which JSON always can. In the first two cases it leaves no trace. In the third case its response
topic stays subscribed to, and all else is as it was.
-/
theorem failed_requests_leave_no_trace :
    (∀ after, ((net.poll i cancelFirst).run after).Failed i ↔
      net.uidOf task ∈ engine.pending.keys ∨ net.hub.isConnected facade.endpoint = false ∨
        ∃ e, engine.codec.encode (net.identify task.message).2 = .error e) ∧
    (net.uidOf task ∈ engine.pending.keys ∨ net.hub.isConnected facade.endpoint = false →
      net.Undone (net.poll i cancelFirst) i) ∧
    (net.uidOf task ∉ engine.pending.keys → net.hub.isConnected facade.endpoint = true →
      (∃ e, engine.codec.encode (net.identify task.message).2 = .error e) →
        net.Kept (net.poll i cancelFirst) i ∧
        (∀ party, (net.poll i cancelFirst).facade? party = if party = task.party then
          some (facade.remember task.responseTopic facade.defaultQos) else net.facade? party) ∧
        (net.poll i cancelFirst).hub = if facade.isSubscribed task.responseTopic then net.hub
          else (net.hub.subscribe facade.endpoint task.responseTopic).1) ∧
    ∀ emitCorid m, ∃ payload, (Codec.json emitCorid).encode m = .ok payload := by
  refine ⟨failed_iff request fresh engineHere facadeHere hub quiet reachable.regular,
    undone_of_refused reachable request fresh engineHere facadeHere hub quiet,
    fun absent on ⟨e, encoded⟩ => ?_, fun emitCorid m => ⟨_, rfl⟩⟩
  exact kept_of_unencodable reachable request fresh engineHere facadeHere hub quiet absent on
    encoded

end Start

/-- A second request with the uid of the first one fails in `loopback`, and leaves no trace. -/
theorem no_trace_of_duplicate_in_loopback :
    ∃ net, net = loopback.run (asking "a" ++ [.request (echoed "a")]) ∧
      (∀ after, ((net.poll 2 false).run after).Failed 2) ∧ net.Undone (net.poll 2 false) 2 := by
  refine ⟨_, rfl, ?_⟩
  have reachable : (loopback.run (asking "a" ++ [.request (echoed "a")])).Reachable :=
    ⟨loopback, _, initial_loopback, rfl⟩
  generalize now : loopback.run (asking "a" ++ [.request (echoed "a")]) = net at reachable ⊢
  obtain ⟨task, engine, facade, request, fresh, engineHere, facadeHere, hub, mem⟩ :
      ∃ task engine facade, net.request? 2 = some task ∧ task.state = .fresh ∧
        net.engine? task.party = some engine ∧ net.facade? task.party = some facade ∧
        net.OnHub task.party ∧ net.uidOf task ∈ engine.pending.keys := by
    subst now
    exact ⟨_, _, _, rfl, rfl, rfl, rfl, rfl, by decide +kernel⟩
  obtain ⟨failed, undone, -⟩ := failed_requests_leave_no_trace reachable request fresh engineHere
    facadeHere hub (show (false && task.cancellable && task.cancelled) = false from rfl)
  exact ⟨fun after => (failed after).2 (.inl mem), undone (.inl mem)⟩

/-- `loopback` with an engine that cannot encode anything. -/
def mute : Network :=
  let (net, endpoint) := (new fun n => ⟨toString n, toString n⟩).addEndpoint .memory 0
  let codec : Codec := { Codec.json true with encode _ := .error (.codec (.refused "mute")) }
  (net.addEngine { endpoint, defaultQos := default } (.new codec false 1000)).1

/-- A request of `mute` fails although its uid is free and there is a session, and its response
    topic stays subscribed to. -/
theorem trace_of_unencodable_in_mute :
    ∃ net task engine facade, net = mute.run ((asking "a").take 3) ∧ net.Reachable ∧
      net.request? 1 = some task ∧ task.state = .fresh ∧ task.cancellable = false ∧
      net.engine? task.party = some engine ∧ net.facade? task.party = some facade ∧
      net.OnHub task.party ∧ net.uidOf task ∉ engine.pending.keys ∧
      net.hub.isConnected facade.endpoint = true ∧ (net.poll 1 false).Failed 1 ∧
      ¬ net.Undone (net.poll 1 false) 1 := by
  have initial : mute.Initial := ((initial_new _).addEndpoint .memory 0).addEngine _ rfl
  refine ⟨_, _, _, _, rfl, ⟨_, _, initial, rfl⟩, rfl, rfl, rfl, rfl, rfl, rfl, by decide +kernel,
    by decide +kernel, ⟨_, _, rfl, rfl⟩, fun undone => ?_⟩
  have forgets := undone.facades 0
  revert forgets
  decide +kernel

end Network

end HomeBus
