import HomeBus.Proofs.Hub.Deliveries

/-!
# In which order an endpoint gets its deliveries

Each session hands over its deliveries in order. An endpoint that reconnects has several sessions,
one of which is open; the older ones may have deliveries left, and nothing but the schedule says
which of its sessions hands over first. As long as an older session always comes first, the endpoint
gets all that was published to its sessions in order.

Results:
* `Ordered.arrived_append_backlog`: what one operation hands over to an endpoint, leaves for it and
  publishes to it.
* `Ordered.arrivals_append_backlog`: the same of a run in which the sessions of the endpoint take
  turns.
* `arrivals_prefix_sentTo`: in such a run the endpoint gets its deliveries in order.
-/

namespace HomeBus.Hub

variable {hub : Hub} {endpoint id : ℕ} {op : Operation}

/-! ## Histories of an endpoint -/

/-- All sessions that an endpoint ever opened, in order. -/
def sessionsOf (hub : Hub) (endpoint : ℕ) : List ℕ :=
  (hub.mailboxes.filter (·.endpoint = endpoint)).map Mailbox.session

/-- What is left for an endpoint, older sessions first. -/
def backlog (hub : Hub) (endpoint : ℕ) : List Delivery :=
  (hub.sessionsOf endpoint).flatMap hub.queue

/-- What an operation hands over to an endpoint. -/
def arrived (hub : Hub) (endpoint : ℕ) (op : Operation) : List Delivery :=
  (hub.sessionsOf endpoint).flatMap (hub.handed · op)

/-- What an operation publishes to the sessions of an endpoint. -/
def sent (hub : Hub) (endpoint : ℕ) (op : Operation) : List Delivery :=
  (hub.sessionsOf endpoint).flatMap (hub.addressed · op)

/-- All that an endpoint got in a run, in order. -/
def arrivals (hub : Hub) (endpoint : ℕ) : List Operation → List Delivery
  | [] => []
  | op :: ops => hub.arrived endpoint op ++ (hub.apply op).arrivals endpoint ops

/-- All that was published to the sessions of an endpoint in a run, in order. -/
def sentTo (hub : Hub) (endpoint : ℕ) : List Operation → List Delivery
  | [] => []
  | op :: ops => hub.sent endpoint op ++ (hub.apply op).sentTo endpoint ops

/-- A session of an endpoint hands over only when nothing is left of the older ones. -/
def InTurn (hub : Hub) (endpoint : ℕ) : Operation → Prop
  | .deliver session => session ∈ hub.sessionsOf endpoint →
      ∀ older ∈ hub.sessionsOf endpoint, older < session → hub.queue older = []
  | _ => True

/-- The sessions of an endpoint hand over in turn in a whole run. -/
def TakesTurns (hub : Hub) (endpoint : ℕ) : List Operation → Prop
  | [] => True
  | op :: ops => hub.InTurn endpoint op ∧ (hub.apply op).TakesTurns endpoint ops

/-! ## Ordered hubs -/

/-- What holds of the mailboxes of a hub in every state. -/
structure Ordered (hub : Hub) : Prop extends hub.Sound where
  ascending : (hub.mailboxes.map Mailbox.session).Pairwise (· < ·)
  /-- The session that an endpoint remembers is its last one. -/
  latest : ∀ box ∈ hub.mailboxes, ∀ {id}, hub.connection box.endpoint = some id → box.session ≤ id

theorem ordered_new : new.Ordered := ⟨sound_new, List.Pairwise.nil, nofun⟩

theorem Ordered.apply (h : hub.Ordered) (op : Operation) : (hub.apply op).Ordered := by
  refine ⟨sound_apply h.toSound op, ?_, fun box mem id remembers => ?_⟩
  · rcases hub.apply_cases op with keeps | ⟨_, -, eq⟩ | ⟨_, _, -, eq⟩
    · have sessions := congrArg (List.map Prod.fst) keeps.boxes
      rw [List.map_map, List.map_map] at sessions
      exact sessions ▸ h.ascending
    · rw [eq, mailboxes_replace]
      exact h.ascending
    · rw [eq, mailboxes_replace, opened, List.map_append, List.pairwise_append]
      refine ⟨h.ascending, List.pairwise_singleton .., fun old mem new memNew => ?_⟩
      obtain ⟨box, memBox, rfl⟩ := List.mem_map.1 mem
      rw [List.mem_singleton.1 memNew]
      exact Nat.lt_succ_of_le (h.toSound.posted box memBox)
  · rcases hub.apply_cases op with keeps | ⟨_, -, eq⟩ | ⟨other, _, -, eq⟩
    · have both : (box.session, box.endpoint) ∈ _ := keeps.boxes ▸ List.mem_map_of_mem mem
      obtain ⟨old, memOld, same⟩ := List.mem_map.1 both
      rw [Prod.mk.injEq] at same
      rw [keeps.connection, ← same.2] at remembers
      exact same.1 ▸ h.latest old memOld remembers
    · rw [eq, mailboxes_replace] at mem
      rw [eq, connection_replace] at remembers
      split at remembers
      · cases remembers
      · exact h.latest box mem remembers
    · rw [eq, mailboxes_replace] at mem
      rw [eq, connection_replace] at remembers
      rcases List.mem_append.1 mem with old | new
      · split at remembers
        · cases remembers
          exact Nat.le_succ_of_le (h.toSound.posted box old)
        · exact h.latest box old remembers
      · cases List.mem_singleton.1 new
        rw [if_pos rfl] at remembers
        cases remembers
        exact Nat.le_refl _

theorem mem_sessionsOf :
    id ∈ hub.sessionsOf endpoint ↔ ∃ box ∈ hub.mailboxes, box.endpoint = endpoint ∧
      box.session = id := by
  simp [sessionsOf, and_assoc]

/-- The sessions of an endpoint stand in the order in which they were opened. -/
theorem Ordered.ascending_sessionsOf (h : hub.Ordered) (endpoint : ℕ) :
    (hub.sessionsOf endpoint).Pairwise (· < ·) :=
  h.ascending.sublist (List.filter_sublist.map _)

/-- The open session of an endpoint is its last one. -/
theorem Ordered.le_of_subscribed (h : hub.Ordered) (mem : id ∈ hub.sessionsOf endpoint)
    {topic : String} (subscribed : hub.Subscribed id topic) {other : ℕ}
    (memOther : other ∈ hub.sessionsOf endpoint) : other ≤ id := by
  obtain ⟨session, open_, rfl, -⟩ := subscribed
  obtain ⟨box, memBox, same, remembers⟩ := h.boxed session open_
  obtain ⟨box', memBox', owner, same'⟩ := mem_sessionsOf.1 mem
  obtain ⟨last, memLast, ownerLast, rfl⟩ := mem_sessionsOf.1 memOther
  have eq : box = box' := List.inj_on_of_nodup_map h.boxes_nodup memBox memBox'
    (same.trans same'.symm)
  refine h.latest last memLast ?_
  rw [ownerLast, ← owner, ← eq, remembers]

/-! ## One operation -/

/-- What each item gives in two parts comes in two rows, if no second part is followed by a first
    part. -/
theorem flatMap_append_comm {α β : Type} {f g : α → List β} {l : List α}
    (apart : l.Pairwise fun a b => g a = [] ∨ f b = []) :
    l.flatMap (fun a => f a ++ g a) = l.flatMap f ++ l.flatMap g := by
  induction l with
  | nil => rfl
  | cons a l ih =>
    obtain ⟨head, tail⟩ := List.pairwise_cons.1 apart
    have swap : g a ++ l.flatMap f = l.flatMap f ++ g a := by
      by_cases none_ : g a = []
      · rw [none_, List.append_nil, List.nil_append]
      · have rest : l.flatMap f = [] :=
          List.flatMap_eq_nil_iff.2 fun b mem => (head b mem).resolve_left none_
        rw [rest, List.append_nil, List.nil_append]
    calc (a :: l).flatMap (fun a => f a ++ g a)
        = f a ++ (g a ++ l.flatMap f) ++ l.flatMap g := by
          rw [List.flatMap_cons, ih tail]
          simp only [List.append_assoc]
      _ = (a :: l).flatMap f ++ (a :: l).flatMap g := by
          rw [swap, List.flatMap_cons, List.flatMap_cons]
          simp only [List.append_assoc]

/-- A session that is opened has nothing in its queue, and no other session comes to belong to an
    endpoint. -/
theorem Ordered.backlog_apply (h : hub.Ordered) (endpoint : ℕ) (op : Operation) :
    (hub.apply op).backlog endpoint = (hub.sessionsOf endpoint).flatMap (hub.apply op).queue := by
  have same (boxes : (hub.apply op).mailboxes.map (fun box => (box.session, box.endpoint)) =
      hub.mailboxes.map fun box => (box.session, box.endpoint)) :
      (hub.apply op).sessionsOf endpoint = hub.sessionsOf endpoint := by
    have sessions (hub : Hub) : hub.sessionsOf endpoint =
        ((hub.mailboxes.map fun box => (box.session, box.endpoint)).filter
          (·.2 = endpoint)).map Prod.fst := by
      rw [sessionsOf, List.filter_map, List.map_map]
      rfl
    rw [sessions, boxes, ← sessions]
  rw [backlog]
  rcases hub.apply_cases op with keeps | ⟨_, -, eq⟩ | ⟨other, clientName, -, eq⟩
  · rw [same keeps.boxes]
  · rw [same (by rw [eq, mailboxes_replace])]
  · have empty : (hub.apply op).queue (hub.lastId + 1) = [] := by
      rw [eq, queue_congr (mailboxes_replace ..), queue_opened, queue, mailbox?,
        List.find?_eq_none.2 fun box mem => ?_]
      · rfl
      · have le := h.toSound.posted box mem
        simpa using Nat.ne_of_lt (Nat.lt_succ_of_le le)
    have boxes : (hub.apply op).mailboxes =
        hub.mailboxes ++ [⟨hub.lastId + 1, other, []⟩] := by
      rw [eq, mailboxes_replace, opened]
    rw [sessionsOf, boxes, List.filter_append, List.map_append, List.flatMap_append, sessionsOf]
    by_cases own : other = endpoint
    · simp [own, empty]
    · simp [own]

/-- What an operation hands over to an endpoint and what is left after it are what was left before
    and what the operation publishes to the endpoint, if the sessions of the endpoint hand over in
    turn. -/
theorem Ordered.arrived_append_backlog (h : hub.Ordered) (turn : hub.InTurn endpoint op) :
    hub.arrived endpoint op ++ (hub.apply op).backlog endpoint =
      hub.backlog endpoint ++ hub.sent endpoint op := by
  have ascending := h.ascending_sessionsOf endpoint
  have handed : (hub.sessionsOf endpoint).Pairwise fun a b =>
      (hub.apply op).queue a = [] ∨ hub.handed b op = [] := by
    refine ascending.imp_of_mem fun {a b} memA memB lt => ?_
    cases op with
    | deliver session =>
      by_cases own : session = b
      · -- nothing is left of an older session, and it hands over nothing else
        subst own
        have balance := h.toSound.handed_append_queue a (.deliver session)
        rw [turn memB a memA lt] at balance
        exact .inl (List.append_eq_nil_iff.1 balance).2
      · exact .inr (if_neg own)
    | _ => exact .inr rfl
  have addressed : (hub.sessionsOf endpoint).Pairwise fun a b =>
      hub.addressed a op = [] ∨ hub.queue b = [] := by
    refine ascending.imp_of_mem fun {a b} memA memB lt => .inl ?_
    cases op with
    | publish publisher topic payload =>
      -- a later session was opened, so this one is not open any more
      have off : ¬hub.Subscribed a topic := fun on =>
        Nat.not_le_of_lt lt (h.le_of_subscribed memA on memB)
      rw [Hub.addressed, if_neg off]
      split <;> rfl
    | _ => rfl
  calc hub.arrived endpoint op ++ (hub.apply op).backlog endpoint
      = (hub.sessionsOf endpoint).flatMap fun id =>
          hub.handed id op ++ (hub.apply op).queue id := by
        rw [arrived, h.backlog_apply, flatMap_append_comm handed]
    _ = (hub.sessionsOf endpoint).flatMap fun id => hub.queue id ++ hub.addressed id op :=
        congrArg (List.flatMap · _) (funext fun id => h.toSound.handed_append_queue id op)
    _ = hub.backlog endpoint ++ hub.sent endpoint op := flatMap_append_comm addressed

/-! ## Runs -/

/-- In every run in which the sessions of an endpoint hand over in turn, what the endpoint has got
    and what is left for it are what was published to its sessions, in order. -/
theorem Ordered.arrivals_append_backlog (h : hub.Ordered) {ops : List Operation}
    (turns : hub.TakesTurns endpoint ops) :
    hub.arrivals endpoint ops ++ (hub.run ops).backlog endpoint =
      hub.backlog endpoint ++ hub.sentTo endpoint ops := by
  induction ops generalizing hub with
  | nil => exact (List.append_nil _).symm
  | cons op ops ih =>
    calc hub.arrivals endpoint (op :: ops) ++ (hub.run (op :: ops)).backlog endpoint
        = hub.arrived endpoint op ++ ((hub.apply op).arrivals endpoint ops ++
            ((hub.apply op).run ops).backlog endpoint) := List.append_assoc ..
      _ = hub.arrived endpoint op ++ (hub.apply op).backlog endpoint ++
            (hub.apply op).sentTo endpoint ops := by
          rw [ih (h.apply op) turns.2, List.append_assoc]
      _ = hub.backlog endpoint ++ hub.sentTo endpoint (op :: ops) := by
          rw [h.arrived_append_backlog turns.1, List.append_assoc, sentTo]

/-- Whoever gets deliveries in turn gets them in the order in which they were published. -/
theorem arrivals_prefix_sentTo {ops : List Operation} (turns : new.TakesTurns endpoint ops) :
    new.arrivals endpoint ops <+: new.sentTo endpoint ops :=
  ⟨_, ordered_new.arrivals_append_backlog turns⟩

/-- A schedule need not keep to the turns: what was published to the second session of an endpoint
    overtakes what is left of its first one. -/
example :
    let ops : List Operation := [.connect 0 "a", .subscribe 0 "x", .publish 0 "x" [1],
      .connect 0 "a", .subscribe 0 "x", .publish 0 "x" [2], .deliver 2, .deliver 1]
    new.sentTo 0 ops = [⟨"x", [1]⟩, ⟨"x", [2]⟩] ∧
      new.arrivals 0 ops = [⟨"x", [2]⟩, ⟨"x", [1]⟩] := by
  decide +kernel

end HomeBus.Hub
