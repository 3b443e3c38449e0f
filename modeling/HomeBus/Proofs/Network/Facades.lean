import HomeBus.Proofs.Network.Rewiring

/-!
# What leaves facades alone

A facade changes when it learns where to run work, and when it remembers a subscription. Everything
else that happens in a network leaves all facades as they are.

Results:
* `facade?_call`, `facade?_resume`: calls of endpoints.
* `facade?_pollResubscription`, `facade?_pollResponder`: re-subscriptions and responders.
* `facade?_publishRequest`, `facade?_conclude`, `facade?_endRequest`: what a request does after its
  response topic was subscribed to.
* `facade?_spawn`, `facade?_deliver`, `facade?_cancel`, `facade?_drop`: steps.
-/

namespace HomeBus.Network

variable {net net' : Network}

/-- Facades belong to parties; engines, tasks and the hub have no part in them. -/
theorem facade?_of_parties (h : net'.wiring.parties = net.wiring.parties) :
    net'.facade? = net.facade? := by
  funext other
  rw [← facade?_wiring, ← facade?_wiring, Wiring.facade?, h]
  rfl

theorem facade?_of_wiring (h : net'.wiring = net.wiring) :
    net'.facade? = net.facade? :=
  facade?_of_parties (congrArg Wiring.parties h)

theorem facade?_wake (net : Network) (job : Job) :
    (net.wake job).facade? = net.facade? :=
  facade?_of_wiring (wiring_wake net job)

/-! ## Calls of endpoints -/

theorem facade?_announce (net : Network) (endpoint : ℕ) (announcement : Announcement) :
    (net.announce endpoint announcement).facade? = net.facade? := by
  rcases wiring_announce net endpoint announcement with eq | ⟨rest, eq⟩
  · exact facade?_of_wiring eq
  · exact facade?_of_parties (by rw [eq])

theorem facade?_callHub (net : Network) (endpoint : ℕ) (call : Call) :
    (net.callHub endpoint call).1.facade? = net.facade? := by
  cases call with
  | connect options =>
    simp only [callHub]
    split
    · exact (facade?_announce ..).trans (facade?_wake ..)
    · rfl
  | subscribe topic qos => rfl
  | publish topic payload qos retain =>
    simp only [callHub]
    split
    · next hub sessions _ =>
      have woken := wiring_foldl { net with hub } _ (fun net session =>
        wiring_wake net (.deliver session)) sessions
      exact (facade?_of_wiring woken).trans rfl
    · rfl
  | close => rfl

theorem facade?_resume (net : Network) (endpoint : ℕ) (w : Wait) :
    (net.resume endpoint w).1.facade? = net.facade? := by
  unfold resume answer
  split
  · dsimp only
    split
    · exact facade?_announce ..
    · rfl
  · rfl

theorem facade?_call (net : Network) (endpoint : ℕ) (call : Call) :
    (net.call endpoint call).1.facade? = net.facade? := by
  unfold Network.call
  split
  · rfl
  · split
    · exact facade?_callHub ..
    · exact facade?_resume ..

/-! ## Re-subscriptions and responders -/

theorem facade?_subscribeAll (net : Network) (endpoint : ℕ) (rest : List Subscription) :
    (net.subscribeAll endpoint rest).1.facade? = net.facade? := by
  induction rest generalizing net with
  | nil => rfl
  | cons s rest ih =>
    have called := facade?_call net endpoint (.subscribe s.topic s.qos)
    rw [subscribeAll]
    split
    · next eq =>
      rw [eq] at called
      exact (ih _).trans called
    · next eq =>
      rw [eq] at called
      exact called

theorem facade?_pollResubscription (net : Network) (i : ℕ) (task : ResubscriptionTask) :
    (net.pollResubscription i task).facade? = net.facade? := by
  unfold pollResubscription
  dsimp only
  split
  · exact facade?_subscribeAll ..
  · next w _ =>
    have resumed := facade?_resume net task.endpoint w
    split
    · next eq =>
      rw [eq] at resumed
      exact (facade?_subscribeAll ..).trans resumed
    · next eq =>
      rw [eq] at resumed
      exact resumed

theorem facade?_publishReplies (net : Network) (task : ResponderTask) (request : Message)
    (replies : List Message) :
    (net.publishReplies task request replies).1.facade? = net.facade? := by
  induction replies generalizing net with
  | nil => rfl
  | cons m rest ih =>
    rw [publishReplies]
    split
    · next engine facade _ _ =>
      split
      · exact ih net
      · next payload _ =>
        have called := facade?_call net facade.endpoint
          (.publish task.topic payload facade.defaultQos false)
        split
        · next eq =>
          rw [eq] at called
          exact (ih _).trans called
        · next eq =>
          rw [eq] at called
          exact called
    · rfl

theorem facade?_respond (net : Network) (task : ResponderTask) (inbound : Inbound)
    (replies : List Message) :
    (net.respond task inbound replies).1.facade? = net.facade? := by
  have published := facade?_publishReplies net task inbound.message replies
  unfold respond
  split
  all_goals
    next eq =>
    rw [eq] at published
    exact published

theorem facade?_serve (net : Network) (task : ResponderTask) (count : ℕ) :
    (net.serve task count).1.facade? = net.facade? := by
  induction count generalizing net with
  | zero => rfl
  | succ count ih =>
    rw [serve]
    split
    · rfl
    · next engine _ =>
      have taken (engine : Engine) :
          (net.setEngine task.party engine).facade? = net.facade? :=
        facade?_of_wiring (wiring_setEngine ..)
      dsimp only
      split
      · exact taken _
      · exact taken _
      · next inbound _ =>
        split
        · have responded := (facade?_respond (net.setEngine task.party
            { engine with router := (engine.router.receive task.channel).1 }) task inbound
              task.replies).trans (taken _)
          split
          · next eq =>
            rw [eq] at responded
            exact (ih _).trans responded
          · next eq =>
            rw [eq] at responded
            exact responded
        · exact taken _

theorem facade?_serveQueued (net : Network) (i : ℕ) (task : ResponderTask) :
    (net.serveQueued i task).facade? = net.facade? :=
  facade?_serve net task (net.queued task + 1)

theorem facade?_afterReplies (net : Network) (i : ℕ) (task : ResponderTask)
    (inbound : Inbound) (replies : List Message) :
    ((net.respond task inbound replies).1.afterReplies i task
      (net.respond task inbound replies).2).facade? = net.facade? := by
  have responded := facade?_respond net task inbound replies
  cases (net.respond task inbound replies).2 with
  | none => exact (facade?_serveQueued ..).trans responded
  | some state => exact responded

theorem facade?_pollResponder (net : Network) (i : ℕ) (task : ResponderTask) :
    (net.pollResponder i task).facade? = net.facade? := by
  unfold pollResponder
  split
  · rfl
  · exact facade?_serveQueued ..
  · split
    · exact facade?_afterReplies ..
    · rfl
  · next inbound rest w _ =>
    cases net.facade? task.party with
    | none => rfl
    | some facade =>
      have resumed := facade?_resume net facade.endpoint w
      rw [Option.map_some]
      split
      · next eq => cases eq
      · next eq =>
        rw [Option.some.inj eq] at resumed
        exact resumed
      · next eq =>
        rw [Option.some.inj eq] at resumed
        exact (facade?_afterReplies ..).trans resumed

/-! ## Requests -/

theorem facade?_afterPublish (net : Network) (task : RequestTask) (r : Running)
    (progress : Progress) : (net.afterPublish task r progress).1.facade? = net.facade? := by
  unfold afterPublish
  split
  · exact facade?_of_wiring (wiring_awaitReply ..)
  · rfl
  · rfl

theorem facade?_publishRequest (net : Network) (task : RequestTask) (r : Running) :
    (net.publishRequest task r).1.facade? = net.facade? := by
  unfold publishRequest
  split
  · split
    · rfl
    · next facade _ _ _ payload _ =>
      have called := facade?_call net facade.endpoint
        (.publish task.topic payload facade.defaultQos false)
      exact (facade?_afterPublish ..).trans called
  · rfl

theorem facade?_conclude (net : Network) (i : ℕ) (task : RequestTask) (r : Running)
    (exchange : Exchange) : (net.conclude i task r exchange).facade? = net.facade? := by
  obtain ⟨state, eq⟩ := wiring_conclude net i task r exchange
  exact facade?_of_parties (by rw [eq])

theorem facade?_endRequest (net : Network) (i : ℕ) (task : RequestTask) (r : Running)
    (state : RequestState) : (net.endRequest i task r state).facade? = net.facade? :=
  facade?_of_parties (by rw [wiring_endRequest])

/-! ## Steps -/

theorem facade?_spawn (net : Network) (task : Task) :
    (net.spawn task).1.facade? = net.facade? :=
  facade?_of_parties (by rw [wiring_spawn])

theorem facade?_deliver (net : Network) (session : ℕ) :
    (net.deliver session).facade? = net.facade? :=
  facade?_of_parties (by rw [wiring_deliver])

theorem facade?_cancel (net : Network) (i : ℕ) : (net.cancel i).1.facade? = net.facade? := by
  unfold cancel cancelRequest
  split
  · dsimp only
    split_ifs
    · exact facade?_wake ..
    · rfl
  · rfl

theorem facade?_drop (net : Network) (i : ℕ) : (net.drop i).1.facade? = net.facade? := by
  unfold drop dropRequest
  split
  · dsimp only
    split
    · rfl
    · exact facade?_endRequest ..
    · rfl
    · rfl
  · rfl

end HomeBus.Network
