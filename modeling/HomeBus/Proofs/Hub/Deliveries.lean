import HomeBus.Proofs.Hub.Sessions

/-!
# What a session hands over

A publication that succeeds is put once into the queue of every session that has subscribed to its
topic by then, and only the session's own delivery steps take it out again, in order. What has been
handed over together with what is still queued is therefore what was published to the session,
whatever becomes of the session itself.

Results:
* `handed_append_queue`: what one operation hands over, queues and publishes.
* `handedOver_append_queue`: the same of a run.
* `deliveries_are_publications`: the balance of every session that was ever opened.
-/

namespace HomeBus.Hub

variable {hub : Hub} {id : ℕ}

/-! ## Histories -/

/-- A session is open and one of its filters selects a topic. -/
def Subscribed (hub : Hub) (id : ℕ) (topic : String) : Prop :=
  ∃ session ∈ hub.sessions, session.id = id ∧
    ∃ filter ∈ session.filters, Topic.selects filter topic = true

instance (hub : Hub) (id : ℕ) (topic : String) : Decidable (hub.Subscribed id topic) :=
  inferInstanceAs (Decidable (∃ session ∈ hub.sessions, session.id = id ∧
    ∃ filter ∈ session.filters, Topic.selects filter topic = true))

/-- What an operation publishes to a session: one copy of a publication that succeeds, if the
    session is subscribed to its topic. -/
def addressed (hub : Hub) (id : ℕ) : Operation → List Delivery
  | .publish endpoint topic payload =>
    match (hub.publish endpoint topic payload).2 with
    | .ok _ => if hub.Subscribed id topic then [⟨topic, payload⟩] else []
    | .error _ => []
  | _ => []

/-- What an operation makes a session hand over. -/
def handed (hub : Hub) (id : ℕ) : Operation → List Delivery
  | .deliver session =>
    if session = id then (hub.deliver session).2.toList.map Prod.snd else []
  | _ => []

/-- All that was published to a session in a run, in order. -/
def publishedTo (hub : Hub) (id : ℕ) : List Operation → List Delivery
  | [] => []
  | op :: ops => hub.addressed id op ++ (hub.apply op).publishedTo id ops

/-- All that a session handed over in a run, in order. -/
def handedOver (hub : Hub) (id : ℕ) : List Operation → List Delivery
  | [] => []
  | op :: ops => hub.handed id op ++ (hub.apply op).handedOver id ops

/-- What is queued for a session. -/
def queue (hub : Hub) (id : ℕ) : List Delivery := ((hub.mailbox? id).map Mailbox.queue).getD []

/-! ## Mailboxes -/

theorem mailbox?_map {f : Mailbox → Mailbox} (same : ∀ box, (f box).session = box.session)
    (hub : Hub) (id : ℕ) :
    ({ hub with mailboxes := hub.mailboxes.map f } : Hub).mailbox? id =
      (hub.mailbox? id).map f := by
  have there : (fun box : Mailbox => box.session == id) ∘ f = fun box => box.session == id :=
    funext fun box => by rw [Function.comp_apply, same]
  rw [mailbox?, List.find?_map, there, mailbox?]

theorem session_of_mailbox? {box : Mailbox} (found : hub.mailbox? id = some box) :
    box.session = id := by
  simpa using List.find?_some found

theorem mem_reached_iff {topic : String} : id ∈ hub.reached topic ↔ hub.Subscribed id topic := by
  simp only [reached, Subscribed, List.mem_map, List.mem_filter, List.any_eq_true]
  constructor
  · rintro ⟨session, ⟨mem, selects⟩, same⟩
    exact ⟨session, mem, same, selects⟩
  · rintro ⟨session, mem, same, selects⟩
    exact ⟨session, ⟨mem, selects⟩, same⟩

/-- A mailbox for a session that is opened changes no queue. -/
theorem queue_opened (hub : Hub) (endpoint : ℕ) (clientName : String) (id : ℕ) :
    (hub.opened endpoint clientName).queue id = hub.queue id := by
  unfold queue mailbox? opened
  rw [List.find?_append]
  cases hub.mailboxes.find? _ with
  | some box => rfl
  | none =>
    rw [Option.none_or, List.find?_singleton]
    split <;> rfl

theorem queue_congr {other : Hub} (same : other.mailboxes = hub.mailboxes) (id : ℕ) :
    other.queue id = hub.queue id := by
  rw [queue, mailbox?, same, queue, mailbox?]

/-! ## One operation -/

/-- A publication goes to the end of the queues of the sessions that are subscribed to its topic. -/
theorem Sound.queue_post (h : hub.Sound) (id : ℕ) (delivery : Delivery) :
    (hub.post (hub.reached delivery.topic) delivery).queue id =
      hub.queue id ++ if hub.Subscribed id delivery.topic then [delivery] else [] := by
  rw [queue, post, mailbox?_map fun box => by split <;> rfl, queue]
  cases found : hub.mailbox? id with
  | some box =>
    simp only [Option.map_some, Option.getD_some, session_of_mailbox? found, mem_reached_iff]
    split
    · rfl
    · exact (List.append_nil _).symm
  | none =>
    -- a session that is subscribed is open, and has a mailbox
    have off : ¬hub.Subscribed id delivery.topic := by
      rintro ⟨session, mem, rfl, -⟩
      obtain ⟨box, memBox, same, -⟩ := h.boxed session mem
      rw [← same, h.mailbox?_of_mem memBox] at found
      cases found
    rw [if_neg off]
    rfl

/-- A delivery step takes the front of a session's queue out of its mailbox, if anything is there. -/
theorem deliver_takes (hub : Hub) (session : ℕ) :
    (hub.queue session = [] ∧ hub.deliver session = (hub, none)) ∨
      ∃ box delivery rest, hub.mailbox? session = some box ∧ box.queue = delivery :: rest ∧
        hub.deliver session =
          ({ hub with mailboxes := hub.mailboxes.map fun box =>
              if box.session = session then { box with queue := rest } else box },
            some (box.endpoint, delivery)) := by
  unfold deliver queue
  cases found : hub.mailbox? session with
  | none => exact .inl ⟨rfl, rfl⟩
  | some box =>
    obtain ⟨_, endpoint, _ | ⟨delivery, rest⟩⟩ := box
    · exact .inl ⟨rfl, rfl⟩
    · exact .inr ⟨_, delivery, rest, rfl, rfl, rfl⟩

/-- What a session hands over is taken off the front of its queue, and no other queue is
    changed. -/
theorem handed_append_queue_deliver (hub : Hub) (session id : ℕ) :
    hub.handed id (.deliver session) ++ (hub.deliver session).1.queue id = hub.queue id := by
  rw [handed]
  rcases hub.deliver_takes session with ⟨-, eq⟩ | ⟨box, delivery, rest, found, front, eq⟩
  · rw [eq]
    split_ifs <;> rfl
  · rw [eq, queue, queue, mailbox?_map fun box => by split <;> rfl]
    split_ifs with same
    · subst same
      rw [found, Option.map_some, if_pos (session_of_mailbox? found), Option.map_some,
        Option.map_some, front]
      rfl
    · cases other : hub.mailbox? id with
      | none => rfl
      | some box' =>
        have ne : box'.session ≠ session := fun eq => same (eq ▸ session_of_mailbox? other)
        rw [Option.map_some, if_neg ne]
        rfl

/-- What an operation makes a session hand over and what is queued after it are what was queued
    before and what the operation publishes to the session. -/
theorem Sound.handed_append_queue (h : hub.Sound) (id : ℕ) (op : Operation) :
    hub.handed id op ++ (hub.apply op).queue id = hub.queue id ++ hub.addressed id op := by
  cases op with
  | connect endpoint clientName =>
    change (hub.connect endpoint clientName).1.queue id = hub.queue id ++ []
    rw [List.append_nil]
    rcases hub.connect_cases endpoint clientName with eq | eq
    · rw [eq]
      exact (queue_congr (mailboxes_replace ..) id).trans (hub.queue_opened ..)
    · rw [eq]
  | close endpoint => exact (queue_congr (mailboxes_replace ..) id).trans (List.append_nil _).symm
  | subscribe endpoint filter =>
    exact (queue_congr (mailboxes_subscribe ..) id).trans (List.append_nil _).symm
  | publish endpoint topic payload =>
    rw [addressed, apply]
    rcases hub.publish_cases endpoint topic payload with ⟨-, eq⟩ | ⟨-, e, eq⟩
    · rw [eq]
      exact h.queue_post id ⟨topic, payload⟩
    · rw [eq]
      exact (List.append_nil _).symm
  | deliver session =>
    exact (hub.handed_append_queue_deliver session id).trans (List.append_nil _).symm
  | setOnline online => exact (List.append_nil _).symm
  | restart => exact (List.append_nil _).symm

/-! ## Runs -/

/-- What a session hands over in a run and what is queued after it are what was queued before and
    what was published to the session. -/
theorem Sound.handedOver_append_queue (h : hub.Sound) (id : ℕ) (ops : List Operation) :
    hub.handedOver id ops ++ (hub.run ops).queue id = hub.queue id ++ hub.publishedTo id ops := by
  induction ops generalizing hub with
  | nil => exact (List.append_nil _).symm
  | cons op ops ih =>
    calc hub.handedOver id (op :: ops) ++ (hub.run (op :: ops)).queue id
        = hub.handed id op ++
            ((hub.apply op).handedOver id ops ++ ((hub.apply op).run ops).queue id) :=
          List.append_assoc ..
      _ = hub.handed id op ++ (hub.apply op).queue id ++ (hub.apply op).publishedTo id ops := by
          rw [ih (sound_apply h op), List.append_assoc]
      _ = hub.queue id ++ hub.publishedTo id (op :: ops) := by
          rw [h.handed_append_queue, List.append_assoc, publishedTo]

/-- A mailbox stays where it is. -/
theorem Sound.exists_mailbox_run (h : hub.Sound) {box : Mailbox} (mem : box ∈ hub.mailboxes)
    (ops : List Operation) :
    ∃ now, (hub.run ops).mailbox? box.session = some now ∧ now.endpoint = box.endpoint := by
  have kept : ∃ now ∈ (hub.run ops).mailboxes,
      now.session = box.session ∧ now.endpoint = box.endpoint := by
    induction ops using List.reverseRecOn with
    | nil => exact ⟨box, mem, rfl, rfl⟩
    | append_singleton ops op ih =>
      obtain ⟨now, there, same⟩ := ih
      rw [run_concat]
      rcases (hub.run ops).apply_cases op with keeps | ⟨_, -, eq⟩ | ⟨_, _, -, eq⟩
      · have both : (now.session, now.endpoint) ∈ _ := keeps.boxes ▸ List.mem_map_of_mem there
        obtain ⟨later, memLater, sameLater⟩ := List.mem_map.1 both
        rw [Prod.mk.injEq] at sameLater
        exact ⟨later, memLater, sameLater.1.trans same.1, sameLater.2.trans same.2⟩
      · exact ⟨now, by rwa [eq, mailboxes_replace], same⟩
      · exact ⟨now, by rw [eq, mailboxes_replace]; exact List.mem_append_left _ there, same⟩
  obtain ⟨now, there, same, owner⟩ := kept
  exact ⟨now, same ▸ (sound_run h ops).mailbox?_of_mem there, owner⟩

/-- A session that was opened has a mailbox of its endpoint from then on. -/
theorem exists_mailbox_of_connect {before : List Operation} {endpoint : ℕ} {clientName : String}
    (opened : ((new.run before).connect endpoint clientName).2 = .ok id) (after : List Operation) :
    ∃ box, (new.run (before ++ .connect endpoint clientName :: after)).mailbox? id = some box ∧
      box.endpoint = endpoint := by
  rcases (new.run before).connect_cases endpoint clientName with eq | eq
  · rw [eq] at opened
    cases opened
    have sound := sound_apply (sound_run sound_new before) (.connect endpoint clientName)
    have mem : (⟨(new.run before).lastId + 1, endpoint, []⟩ : Mailbox) ∈
        ((new.run before).apply (.connect endpoint clientName)).mailboxes := by
      rw [apply, eq, mailboxes_replace]
      exact List.mem_append_right _ (List.mem_singleton_self _)
    rw [run_append]
    exact sound.exists_mailbox_run mem after
  · rw [eq] at opened
    cases opened

/-- In every run of a hub, what a session has handed over to its endpoint and what is queued for it
    are the publications that succeeded while the session was open and subscribed to their topics,
    each once and in order. -/
theorem deliveries_are_publications {before : List Operation} {endpoint : ℕ} {clientName : String}
    (opened : ((new.run before).connect endpoint clientName).2 = .ok id) (after : List Operation) :
    let ops := before ++ .connect endpoint clientName :: after
    ∃ box, (new.run ops).mailbox? id = some box ∧ box.endpoint = endpoint ∧
      new.handedOver id ops ++ box.queue = new.publishedTo id ops := by
  intro ops
  obtain ⟨box, there, owner⟩ := exists_mailbox_of_connect opened after
  have balance := sound_new.handedOver_append_queue id ops
  rw [queue, there] at balance
  exact ⟨box, there, owner, balance⟩

/-- A run in which a session with two filters that overlap is replaced, and the hub restarted,
    before the session has handed over all that was published to it. -/
def replacedRun : List Operation :=
  [.connect 0 "a", .subscribe 0 "x/#", .subscribe 0 "x/+", .publish 0 "x/y" [1],
    .publish 0 "x/y" [2], .publish 0 "x/z" [3], .deliver 1, .connect 0 "a", .publish 0 "x/y" [4],
    .restart, .deliver 1]

/-- Both filters select each publication, which the session gets once; what is published after its
    replacement is not for it. It goes on handing over what it has got, and keeps the rest. -/
theorem deliveries_are_publications_replaced :
    ((new.run []).connect 0 "a").2 = .ok 1 ∧
      new.publishedTo 1 replacedRun = [⟨"x/y", [1]⟩, ⟨"x/y", [2]⟩, ⟨"x/z", [3]⟩] ∧
      new.handedOver 1 replacedRun = [⟨"x/y", [1]⟩, ⟨"x/y", [2]⟩] ∧
      ∃ box, (new.run replacedRun).mailbox? 1 = some box ∧ box.endpoint = 0 ∧
        box.queue = [⟨"x/z", [3]⟩] ∧
        new.handedOver 1 replacedRun ++ box.queue = new.publishedTo 1 replacedRun := by
  have opened : ((new.run []).connect 0 "a").2 = .ok 1 := rfl
  have published : new.publishedTo 1 replacedRun =
      [⟨"x/y", [1]⟩, ⟨"x/y", [2]⟩, ⟨"x/z", [3]⟩] := rfl
  have handed : new.handedOver 1 replacedRun = [⟨"x/y", [1]⟩, ⟨"x/y", [2]⟩] := rfl
  obtain ⟨box, there, owner, balance⟩ := deliveries_are_publications opened replacedRun.tail
  change new.handedOver 1 replacedRun ++ box.queue = new.publishedTo 1 replacedRun at balance
  -- what is queued is what is left of the publications when those handed over are taken off
  have queued : box.queue = [⟨"x/z", [3]⟩] := by
    rw [handed, published] at balance
    exact List.append_cancel_left balance
  exact ⟨opened, published, handed, box, there, owner, queued, balance⟩

end HomeBus.Hub
