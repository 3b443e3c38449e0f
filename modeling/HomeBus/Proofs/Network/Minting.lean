import HomeBus.Proofs.Network.Ledger

/-!
# Where identities come from

The identities that a network gives to messages are laid down from the start: no step changes them.
When none of them has an empty uid, no request is registered under one.

Results:
* `mint_step`: a network goes on giving out the same identities.
* `Initial.hold_run`: every request under way has a uid.
* `Initial.uid_ne_empty`: no pending request of a party stands under the empty uid.
-/

namespace HomeBus.Network

variable (net : Network)

/-! ## The identities of a network stay the same -/

@[grind =] theorem mint_wake (job : Job) : (net.wake job).mint = net.mint := by
  unfold wake
  split <;> rfl

theorem mint_foldl {α : Type*} (f : Network → α → Network)
    (h : ∀ net a, (f net a).mint = net.mint) (l : List α) : (l.foldl f net).mint = net.mint := by
  induction l generalizing net with
  | nil => rfl
  | cons a l ih => rw [List.foldl_cons, ih, h]

@[grind =] theorem mint_wakeTasks (which : Task → Bool) :
    (net.wakeTasks which).mint = net.mint := by
  refine mint_foldl net _ (fun net entry => ?_) _
  split
  · exact mint_wake net _
  · rfl

@[grind =] theorem mint_spawn (task : Task) : (net.spawn task).1.mint = net.mint := mint_wake _ _

@[grind =] theorem mint_setTask (i : ℕ) (task : Task) : (net.setTask i task).mint = net.mint := rfl

@[grind =] theorem mint_setEngine (party : ℕ) (engine : Engine) :
    (net.setEngine party engine).mint = net.mint := rfl

@[grind =] theorem mint_modifyFacade (party : ℕ) (f : Facade → Facade) :
    (net.modifyFacade party f).mint = net.mint := rfl

@[grind =] theorem mint_record (party : ℕ) (event : Event) :
    (net.record party event).mint = net.mint := rfl

@[grind =] theorem mint_identify (m : Message) : (net.identify m).1.mint = net.mint := by
  unfold identify
  split <;> rfl

/-! ### Calls and deliveries -/

@[grind =] theorem mint_announce (endpoint : ℕ) (announcement : Announcement) :
    (net.announce endpoint announcement).mint = net.mint := by
  unfold announce
  grind

@[grind =] theorem mint_callHub (endpoint : ℕ) (call : Call) :
    (net.callHub endpoint call).1.mint = net.mint := by
  have wakes (net : Network) (sessions : List ℕ) :
      (sessions.foldl (fun net session => net.wake (.deliver session)) net).mint = net.mint :=
    mint_foldl net _ (fun net _ => mint_wake net _) sessions
  unfold callHub
  cases call <;> grind

@[grind =] theorem mint_resume (endpoint : ℕ) (w : Wait) :
    (net.resume endpoint w).1.mint = net.mint := by
  unfold resume answer
  grind

@[grind =] theorem mint_call (endpoint : ℕ) (call : Call) :
    (net.call endpoint call).1.mint = net.mint := by
  unfold Network.call
  grind

@[grind =] theorem mint_settleDispatch (party : ℕ) (d : Engine.Dispatched) :
    (net.settleDispatch party d).mint = net.mint := by
  unfold settleDispatch
  grind

@[grind =] theorem mint_deliver (session : ℕ) : (net.deliver session).mint = net.mint := by
  unfold deliver arrive
  grind

/-! ### Operations, re-subscriptions and responders -/

@[grind =] theorem mint_pollOperation (i : ℕ) (task : OperationTask) :
    (net.pollOperation i task).mint = net.mint := by
  have after (net : Network) (result : Except Error Unit) :
      (net.afterCall task result).mint = net.mint := by
    unfold afterCall
    split <;> rfl
  unfold pollOperation callThrough callDirectly
  grind

@[grind =] theorem mint_subscribeAll (endpoint : ℕ) (subscriptions : List Subscription) :
    (net.subscribeAll endpoint subscriptions).1.mint = net.mint := by
  induction subscriptions generalizing net with
  | nil => rfl
  | cons s rest ih =>
    unfold subscribeAll
    grind

@[grind =] theorem mint_pollResubscription (i : ℕ) (task : ResubscriptionTask) :
    (net.pollResubscription i task).mint = net.mint := by
  unfold pollResubscription
  grind

@[grind =] theorem mint_publishReplies (task : ResponderTask) (request : Message)
    (replies : List Message) : (net.publishReplies task request replies).1.mint = net.mint := by
  induction replies generalizing net with
  | nil => rfl
  | cons m rest ih =>
    unfold publishReplies
    grind

@[grind =] theorem mint_respond (task : ResponderTask) (inbound : Inbound)
    (replies : List Message) : (net.respond task inbound replies).1.mint = net.mint := by
  unfold respond
  grind

@[grind =] theorem mint_serve (task : ResponderTask) (count : ℕ) :
    (net.serve task count).1.mint = net.mint := by
  induction count generalizing net with
  | zero => rfl
  | succ count ih =>
    unfold serve
    grind

@[grind =] theorem mint_afterReplies (i : ℕ) (task : ResponderTask)
    (state : Option ResponderState) : (net.afterReplies i task state).mint = net.mint := by
  unfold afterReplies serveQueued
  grind

@[grind =] theorem mint_pollResponder (i : ℕ) (task : ResponderTask) :
    (net.pollResponder i task).mint = net.mint := by
  unfold pollResponder
  split
  · rfl
  · exact mint_afterReplies net i task none
  · grind
  · next inbound rest w _ =>
    cases net.facade? task.party with
    | none => rfl
    | some facade =>
      have resumed := mint_resume net facade.endpoint w
      grind

/-! ### Requests -/

@[grind =] theorem mint_awaitReply (task : RequestTask) (r : Running) :
    (net.awaitReply task r).1.mint = net.mint := by
  unfold awaitReply
  grind

@[grind =] theorem mint_publishRequest (task : RequestTask) (r : Running) :
    (net.publishRequest task r).1.mint = net.mint := by
  unfold publishRequest afterPublish
  grind

@[grind =] theorem mint_startExchange (task : RequestTask) (r : Running) :
    (net.startExchange task r).1.mint = net.mint := by
  unfold startExchange afterSubscribe remember
  grind

@[grind =] theorem mint_resumeExchange (task : RequestTask) (r : Running) :
    (net.resumeExchange task r).1.mint = net.mint := by
  unfold resumeExchange afterSubscribe afterPublish remember
  grind

@[grind =] theorem mint_endRequest (i : ℕ) (task : RequestTask) (r : Running)
    (state : RequestState) : (net.endRequest i task r state).mint = net.mint := rfl

@[grind =] theorem mint_conclude (i : ℕ) (task : RequestTask) (r : Running) (exchange : Exchange) :
    (net.conclude i task r exchange).mint = net.mint := by
  unfold conclude
  cases exchange <;> grind

theorem mint_look (i : ℕ) (task : RequestTask) (r : Running) (cancelFirst : Bool)
    {exchange : Network → RequestTask → Running → Network × Exchange}
    (h : ∀ net task r, (exchange net task r).1.mint = net.mint) :
    (net.look i task r cancelFirst exchange).mint = net.mint := by
  unfold look
  grind

@[grind =] theorem mint_startRequest (i : ℕ) (task : RequestTask) (cancelFirst : Bool) :
    (net.startRequest i task cancelFirst).mint = net.mint := by
  have looked (net : Network) (r : Running) :
      (net.look i task r cancelFirst startExchange).mint = net.mint :=
    mint_look net i task r cancelFirst mint_startExchange
  unfold startRequest
  grind

@[grind =] theorem mint_pollRequest (i : ℕ) (task : RequestTask) (cancelFirst : Bool) :
    (net.pollRequest i task cancelFirst).mint = net.mint := by
  unfold pollRequest
  split
  · exact mint_startRequest ..
  · exact mint_look net i task _ cancelFirst mint_resumeExchange
  · rfl
  · rfl

/-- A network goes on giving out the same identities. -/
theorem mint_step (a : Action) : (net.step a).mint = net.mint := by
  unfold step poll cancel drop cancelRequest dropRequest
  cases a <;> grind

theorem mint_run (actions : List Action) : (net.run actions).mint = net.mint := by
  induction actions using List.reverseRecOn with
  | nil => rfl
  | append_singleton actions a ih => rw [run_concat, mint_step, ih]

/-! ## Requests have uids -/

variable {net}

theorem uidOf_ne_empty (minted : ∀ n, (net.mint n).uid ≠ "") (task : RequestTask) :
    net.uidOf task ≠ "" := by
  unfold uidOf identify
  split
  · next complete =>
    rw [Message.isComplete, Bool.and_eq_true] at complete
    simpa using complete.1
  · rw [Message.ensureIdentity]
    dsimp only
    split
    · exact minted _
    · next given => exact given

/-- Every request under way was registered under a uid. -/
theorem hold_ne_empty_step {i : ℕ} {h : Hold} (minted : ∀ n, (net.mint n).uid ≠ "")
    (before : ∀ i h, net.ledger.hold i = some h → h.expectation.uid ≠ "") (a : Action)
    (hold : (net.step a).ledger.hold i = some h) : h.expectation.uid ≠ "" := by
  have turn := turn_step net a
  generalize (net.step a).ledger = l at turn hold
  cases turn with
  | still | offered | refused => exact before i h hold
  | entered admitted =>
    obtain ⟨_, _, task, _, -, -, -, -, -, rfl⟩ := admission?_eq_some admitted
    rcases Ledger.hold_enter_eq_some hold with ⟨-, rfl⟩ | ⟨-, hold⟩
    · exact uidOf_ne_empty minted task
    · exact before i h hold
  | left => exact before i h (Ledger.hold_leave_eq_some hold).2
  | passed =>
    obtain ⟨ne, hold⟩ := Ledger.hold_leave_eq_some hold
    rcases Ledger.hold_enter_eq_some hold with ⟨same, -⟩ | ⟨-, hold⟩
    · exact absurd same ne
    · exact before i h hold

theorem Initial.hold_run (initial : net.Initial) (minted : ∀ n, (net.mint n).uid ≠ "")
    (actions : List Action) {i : ℕ} {h : Hold} (hold : (net.run actions).ledger.hold i = some h) :
    h.expectation.uid ≠ "" := by
  induction actions using List.reverseRecOn generalizing i h with
  | nil =>
    rw [run, List.foldl_nil, ledger_hold, initial.request i] at hold
    cases hold
  | append_singleton actions a ih =>
    rw [run_concat] at hold
    exact hold_ne_empty_step (by rwa [mint_run]) (fun _ _ => ih) a hold

/-- No pending request of a party stands under the empty uid. -/
theorem Initial.uid_ne_empty (initial : net.Initial) (minted : ∀ n, (net.mint n).uid ≠ "")
    (actions : List Action) {party : ℕ} {t : PendingTable}
    (table : (net.run actions).table? party = some t) {entry : String × PendingRequest}
    (mem : entry ∈ t.entries) : entry.2.expectation.uid ≠ "" := by
  have c := initial.consistent_run actions
  obtain ⟨i, h, hold, rfl, ticket⟩ := c.owned table mem
  obtain ⟨t', table', completed, listed⟩ := c.listed hold
  cases table.symm.trans table'
  rw [(c.sound table).entry_unique_of_ticket mem listed ticket.symm]
  exact initial.hold_run minted actions hold

end HomeBus.Network
