import HomeBus.Proofs.Router.Run

/-!
# Channels on their own

A feed is a channel as its receiver knows it: a queue of bounded size that takes the messages its
filter selects while it has its name, and that can be emptied ever after. It knows of no other
channel. A router with any number of channels, whose names are given away, taken back and used
again, is to each receiver the feed that it would be alone.

Results:
* `Feed.received_append_queue`, `Feed.received_prefix_taken`: a feed gives out what it took, in
  order and once.
* `Feed.named_next_iff`, `Feed.named_run_iff`: how long a feed keeps its name.
* `Feed.takes_run_iff`: which messages are queued.
* `Router.Shows.apply`, `Router.Shows.run`: a router shows each receiver its feed, in every step and
  in every run.
* `Router.receivers_have_queues_of_their_own`: what each receiver gets, and what routing a message
  does to channels and names.
-/

namespace HomeBus

/-! ## Feeds -/

/-- A channel as its receiver knows it. -/
structure Feed where
  filter : MessageFilter
  capacity : ℕ
  queue : List Inbound := []
  /-- Whether the channel has its name still. -/
  named : Bool := true
  hasReceiver : Bool := true
  deriving DecidableEq

/-- The message that a receiver finds. -/
def Router.Received.inbound? : Router.Received → Option Inbound
  | .inbound m => some m
  | .empty | .disconnected => none

namespace Feed

/-- What happens to a channel. -/
inductive Event where
  /-- A message is routed, whether or not the channel selects it. -/
  | routed (inbound : Inbound)
  /-- The name is taken away, or given to another channel. -/
  | released
  /-- The receiver looks. -/
  | looked
  /-- The receiver goes, with all that is queued. -/
  | left
  deriving DecidableEq

def Event.inbound? : Event → Option Inbound
  | .routed inbound => some inbound
  | .released | .looked | .left => none

def selects (f : Feed) (inbound : Inbound) : Bool := f.filter.selects inbound.topic inbound.message

/-- Whether a message that is routed is queued: not without a name or a receiver, not if the filter
    does not select it, and not into a full queue. -/
def takes (f : Feed) (inbound : Inbound) : Bool :=
  f.named && f.hasReceiver && f.selects inbound && decide (f.queue.length < f.capacity)

/-- What an event makes of a feed. A message that is selected takes the name away if nobody receives
    any more. -/
def next (f : Feed) : Event → Feed
  | .routed inbound =>
    { f with
      queue := if f.takes inbound then f.queue ++ [inbound] else f.queue
      named := f.named && (f.hasReceiver || !f.selects inbound) }
  | .released => { f with named := false }
  | .looked => { f with queue := f.queue.tail }
  | .left => { f with queue := [], hasReceiver := false }

def run (f : Feed) (events : List Event) : Feed := events.foldl next f

/-- What the receiver finds, if it looks. -/
def seen? (f : Feed) : Event → Option Router.Received
  | .looked =>
    match f.queue with
    | inbound :: _ => some (.inbound inbound)
    | [] => some (if f.named then .empty else .disconnected)
  | .routed _ | .released | .left => none

/-- All that the receiver finds in a run, in order. -/
def sights (f : Feed) : List Event → List Router.Received
  | [] => []
  | e :: events => (f.seen? e).toList ++ (f.next e).sights events

/-- The messages that the receiver gets in a run, in order. -/
def received (f : Feed) (events : List Event) : List Inbound :=
  (f.sights events).filterMap Router.Received.inbound?

/-- The message that an event puts into the queue. -/
def taken? (f : Feed) : Event → Option Inbound
  | .routed inbound => if f.takes inbound then some inbound else none
  | .released | .looked | .left => none

/-- The messages that are queued in a run, in order. -/
def taken (f : Feed) : List Event → List Inbound
  | [] => []
  | e :: events => (f.taken? e).toList ++ (f.next e).taken events

variable {f : Feed} {e : Event} {events : List Event}

theorem run_concat (f : Feed) (events : List Event) (e : Event) :
    f.run (events ++ [e]) = (f.run events).next e := by
  simp [run]

@[simp] theorem selects_next (f : Feed) (e : Event) : (f.next e).selects = f.selects := by
  cases e <;> rfl

@[simp] theorem capacity_next (f : Feed) (e : Event) : (f.next e).capacity = f.capacity := by
  cases e <;> rfl

theorem selects_run (f : Feed) (events : List Event) : (f.run events).selects = f.selects := by
  induction events using List.reverseRecOn with
  | nil => rfl
  | append_singleton events e ih => rw [run_concat, selects_next, ih]

theorem capacity_run (f : Feed) (events : List Event) : (f.run events).capacity = f.capacity := by
  induction events using List.reverseRecOn with
  | nil => rfl
  | append_singleton events e ih => rw [run_concat, capacity_next, ih]

/-! ### What goes in and what comes out -/

/-- The message that the receiver gets, if it looks. -/
theorem received_cons (f : Feed) (e : Event) (events : List Event) : f.received (e :: events) =
    ((f.seen? e).bind Router.Received.inbound?).toList ++ (f.next e).received events := by
  rw [received, sights, List.filterMap_append, received]
  cases f.seen? e with
  | none => rfl
  | some sight => cases sight <;> rfl

theorem received_append (f : Feed) (before after : List Event) :
    f.received (before ++ after) = f.received before ++ (f.run before).received after := by
  induction before generalizing f with
  | nil => rfl
  | cons e before ih =>
    rw [List.cons_append, received_cons, received_cons, ih, List.append_assoc]
    rfl

/-- A receiver that keeps looking gets all that is queued. -/
theorem received_drain (f : Feed) :
    f.received (List.replicate f.queue.length .looked) = f.queue := by
  obtain ⟨filter, capacity, queue, named, hasReceiver⟩ := f
  induction queue with
  | nil => rfl
  | cons inbound queue ih =>
    rw [List.length_cons, List.replicate_succ, received_cons]
    exact congrArg (inbound :: ·) ih

/-- What a receiver that does not go gets from an event and what is queued after it are what was
    queued before and what the event puts there. -/
theorem received_append_queue_next (f : Feed) (ne : e ≠ .left) :
    ((f.seen? e).bind Router.Received.inbound?).toList ++ (f.next e).queue =
      f.queue ++ (f.taken? e).toList := by
  cases e with
  | routed inbound =>
    by_cases takes : f.takes inbound = true <;> simp [seen?, next, taken?, takes]
  | released => simp [seen?, next, taken?]
  | looked =>
    obtain ⟨filter, capacity, _ | ⟨inbound, rest⟩, named, hasReceiver⟩ := f
    · cases named <;> rfl
    · exact (List.append_nil _).symm
  | left => exact absurd rfl ne

/-- What a receiver that does not go has got and what is queued for it is what was queued, in
    order. -/
theorem received_append_queue (f : Feed) (stays : .left ∉ events) :
    f.received events ++ (f.run events).queue = f.queue ++ f.taken events := by
  induction events generalizing f with
  | nil => exact (List.append_nil _).symm
  | cons e events ih =>
    obtain ⟨ne, stays⟩ := List.ne_and_not_mem_of_not_mem_cons stays
    have step := f.received_append_queue_next ne.symm
    calc f.received (e :: events) ++ (f.run (e :: events)).queue
        = ((f.seen? e).bind Router.Received.inbound?).toList ++
            ((f.next e).received events ++ ((f.next e).run events).queue) := by
          rw [received_cons, List.append_assoc]
          rfl
      _ = ((f.seen? e).bind Router.Received.inbound?).toList ++ (f.next e).queue ++
            (f.next e).taken events := by
          rw [ih (f.next e) stays, List.append_assoc]
      _ = f.queue ++ f.taken (e :: events) := by
          rw [step, List.append_assoc, taken]

/-- A receiver that does not go can get all that was queued, whatever became of the name. -/
theorem received_append_drain (f : Feed) (stays : .left ∉ events) :
    f.received (events ++ List.replicate (f.run events).queue.length .looked) =
      f.queue ++ f.taken events := by
  rw [received_append, received_drain, received_append_queue f stays]

/-- Nothing is queued for a receiver that is gone. -/
theorem taken_eq_nil (f : Feed) (gone : f.hasReceiver = false) : f.taken events = [] := by
  induction events generalizing f with
  | nil => rfl
  | cons e events ih =>
    have still : (f.next e).hasReceiver = false := by
      cases e
      case left => rfl
      all_goals exact gone
    have none_ : f.taken? e = none := by
      cases e <;> simp [taken?, takes, gone]
    rw [taken, none_, ih _ still]
    rfl

/-- What a receiver gets is what was queued, in order, whether or not it goes. -/
theorem received_prefix_taken (f : Feed) (events : List Event) :
    f.received events <+: f.queue ++ f.taken events := by
  induction events generalizing f with
  | nil => exact List.nil_prefix
  | cons e events ih =>
    have rest := ih (f.next e)
    rw [received_cons]
    by_cases left : e = .left
    · subst left
      -- who goes has nothing left to get
      rw [taken_eq_nil (f.next .left) rfl] at rest
      rw [List.prefix_nil.1 rest]
      exact List.nil_prefix
    · rw [taken, ← List.append_assoc, ← f.received_append_queue_next left, List.append_assoc]
      exact (List.prefix_append_right_inj _).2 rest

/-- Only messages that the filter selects are queued, each once and in the order in which they were
    routed. -/
theorem taken_sublist (f : Feed) (events : List Event) :
    (f.taken events).Sublist ((events.filterMap Event.inbound?).filter f.selects) := by
  induction events generalizing f with
  | nil => exact List.Sublist.refl _
  | cons e events ih =>
    have rest := ih (f.next e)
    rw [selects_next] at rest
    cases e with
    | routed inbound =>
      rw [taken, taken?, List.filterMap_cons_some (by rfl)]
      by_cases takes : f.takes inbound = true
      · have selects : f.selects inbound = true := by simp_all [Feed.takes]
        rw [if_pos takes, List.filter_cons_of_pos selects]
        exact rest.cons_cons inbound
      · rw [if_neg takes]
        exact rest.trans ((List.sublist_cons_self ..).filter _)
    | released => exact rest
    | looked => exact rest
    | left => exact rest

/-- A queue never grows beyond its capacity. -/
theorem length_queue_run_le (f : Feed) (fits : f.queue.length ≤ f.capacity) (events : List Event) :
    (f.run events).queue.length ≤ f.capacity := by
  induction events generalizing f with
  | nil => exact fits
  | cons e events ih =>
    have step : (f.next e).queue.length ≤ (f.next e).capacity := by
      rw [capacity_next]
      cases e with
      | routed inbound =>
        rw [next]
        split
        · next takes =>
          have room : f.queue.length < f.capacity := by simp_all [Feed.takes]
          rw [List.length_append]
          exact room
        · exact fits
      | released => exact fits
      | looked => exact Nat.le_trans (by simp [next]) fits
      | left => exact Nat.zero_le _
    rw [← capacity_next f e]
    exact ih (f.next e) step

/-! ### Names -/

theorem hasReceiver_run_iff (f : Feed) (events : List Event) :
    (f.run events).hasReceiver = true ↔ f.hasReceiver = true ∧ .left ∉ events := by
  induction events using List.reverseRecOn with
  | nil => simp [run]
  | append_singleton events e ih =>
    rw [run_concat, List.mem_append, not_or, ← and_assoc, ← ih]
    cases e <;> simp [next]

/-- A feed keeps its name in an event, unless it is released, or a message that it selects is routed
    and nobody receives. -/
theorem named_next_iff (f : Feed) (e : Event) : (f.next e).named = true ↔
    f.named = true ∧ e ≠ .released ∧
      (f.hasReceiver = false → ∀ inbound, e = .routed inbound → f.selects inbound = false) := by
  cases e with
  | routed inbound => cases receiver : f.hasReceiver <;> simp [next, receiver]
  | released => simp [next]
  | looked => simp [next]
  | left => simp [next]

/-- A feed that is received from keeps its name until it is released, or until a message that it
    selects is routed after its receiver went. -/
theorem named_run_iff (f : Feed) (here : f.hasReceiver = true) (events : List Event) :
    (f.run events).named = true ↔ f.named = true ∧ .released ∉ events ∧
      events.Pairwise fun early late =>
        early = .left → ∀ inbound, late = .routed inbound → f.selects inbound = false := by
  induction events using List.reverseRecOn with
  | nil => simp [run]
  | append_singleton events e ih =>
    have gone : (f.run events).hasReceiver = false ↔ .left ∈ events := by
      rw [← Bool.not_eq_true, f.hasReceiver_run_iff, and_iff_right here, not_not]
    rw [run_concat, named_next_iff, ih, gone, selects_run, List.mem_append, not_or,
      List.pairwise_append, List.mem_singleton]
    constructor
    · rintro ⟨⟨named, kept, early⟩, ne, late⟩
      refine ⟨named, ⟨kept, ne.symm⟩, early, List.pairwise_singleton .., ?_⟩
      rintro _ mem _ (_ | ⟨_, ⟨⟩⟩) rfl
      exact late mem
    · rintro ⟨named, ⟨kept, ne⟩, early, -, late⟩
      exact ⟨⟨named, kept, early⟩, Ne.symm ne,
        fun left => late .left left e (List.mem_singleton_self e) rfl⟩

/-- A message is queued if the name was not taken away, the receiver did not go, the filter selects
    the message and there is room for it. -/
theorem takes_run_iff (named : f.named = true) (here : f.hasReceiver = true) (events : List Event)
    (inbound : Inbound) : (f.run events).takes inbound = true ↔ .released ∉ events ∧
      .left ∉ events ∧ f.selects inbound = true ∧ (f.run events).queue.length < f.capacity := by
  have spelled : (f.run events).takes inbound = true ↔ ((f.run events).named = true ∧
      (f.run events).hasReceiver = true) ∧ f.selects inbound = true ∧
        (f.run events).queue.length < f.capacity := by
    simp [takes, selects_run, capacity_run, and_assoc]
  have apart (stays : .left ∉ events) : events.Pairwise fun early late =>
      early = .left → ∀ inbound, late = .routed inbound → f.selects inbound = false :=
    List.Pairwise.imp_of_mem (R := fun _ _ => True)
      (fun mem _ _ left => absurd (left ▸ mem) stays) (List.pairwise_of_forall fun _ _ => trivial)
  rw [spelled, f.named_run_iff here, f.hasReceiver_run_iff]
  constructor
  · rintro ⟨⟨⟨-, kept, -⟩, -, stays⟩, wanted⟩
    exact ⟨kept, stays, wanted⟩
  · rintro ⟨kept, stays, wanted⟩
    exact ⟨⟨⟨named, kept, apart stays⟩, here, stays⟩, wanted⟩

end Feed

namespace Router

/-! ## Routers -/

/-- What an operation is to a channel, which has or had a name. -/
def Operation.event? (k : ℕ) (name : String) : Operation → Option Feed.Event
  | .register other _ _ | .unregister other => if other = name then some .released else none
  | .route inbound => some (.routed inbound)
  | .receive channel => if channel = k then some .looked else none
  | .leave channel => if channel = k then some .left else none

/-- What the receiver of a channel finds, if it looks. -/
def seen? (r : Router) (k : ℕ) : Operation → Option Received
  | .receive channel => if channel = k then some (r.receive k).2 else none
  | .register .. | .unregister _ | .route _ | .leave _ => none

/-- All that the receiver of a channel finds in a run, in order. -/
def sights (r : Router) (k : ℕ) : List Operation → List Received
  | [] => []
  | op :: ops => (r.seen? k op).toList ++ (r.apply op).sights k ops

/-- A router has a channel as a feed describes it, with the name of the feed or without any. -/
structure Shows (r : Router) (k : ℕ) (name : String) (f : Feed) : Prop where
  channel : r.channels[k]? = some ⟨f.capacity, f.queue, f.hasReceiver⟩
  routes : ∀ route, route ∈ r.routes ∧ route.channel = k ↔
    f.named = true ∧ route = ⟨name, f.filter, k⟩

variable {r : Router} {k : ℕ} {name : String} {f : Feed} {inbound : Inbound}

theorem Shows.connected (h : r.Shows k name f) : r.connected k = f.named := by
  rw [Bool.eq_iff_iff, Router.connected, List.any_eq_true]
  constructor
  · rintro ⟨route, mem, same⟩
    exact ((h.routes route).1 ⟨mem, beq_iff_eq.1 same⟩).1
  · intro named
    obtain ⟨mem, same⟩ := (h.routes _).2 ⟨named, rfl⟩
    exact ⟨_, mem, beq_iff_eq.2 same⟩

theorem Shows.offer (h : r.Shows k name f) (filter : MessageFilter) :
    r.offer ⟨name, filter, k⟩ = Channel.offer ⟨f.capacity, f.queue, f.hasReceiver⟩ := by
  simp only [Router.offer, h.channel]

/-- A channel takes the messages that its feed takes. -/
theorem Shows.mem_taking_iff (h : r.Shows k name f) :
    k ∈ (r.route inbound).2 ↔ f.takes inbound = true := by
  rw [Router.mem_taking_iff]
  constructor
  · rintro ⟨route, mem, same, selects, taken⟩
    obtain ⟨named, rfl⟩ := (h.routes route).1 ⟨mem, same⟩
    obtain ⟨receiver, room⟩ := Channel.offer_eq_taken_iff.1 (h.offer _ ▸ taken)
    simp_all [Feed.takes, Feed.selects]
  · intro takes
    obtain ⟨⟨⟨named, receiver⟩, selects⟩, room⟩ : ((f.named = true ∧ f.hasReceiver = true) ∧
        f.selects inbound = true) ∧ f.queue.length < f.capacity := by
      simpa [Feed.takes] using takes
    obtain ⟨mem, same⟩ := (h.routes _).2 ⟨named, rfl⟩
    exact ⟨_, mem, same, selects, (h.offer _).trans (Channel.offer_eq_taken_iff.2 ⟨receiver, room⟩)⟩

/-- A name that is given away or taken back is gone for the channel that had it. -/
theorem Shows.released (h : r.Shows k name f) {r' : Router} {other : String}
    (channel : r'.channels[k]? = r.channels[k]?)
    (routes : ∀ route, route ∈ r'.routes ∧ route.channel = k ↔
      (route ∈ r.routes ∧ route.channel = k) ∧ route.name ≠ other) :
    r'.Shows k name (f.run (if other = name then some Feed.Event.released else none).toList) := by
  split
  · next same =>
    refine ⟨channel.trans h.channel, fun route => ?_⟩
    rw [routes, h.routes]
    constructor
    · rintro ⟨⟨-, rfl⟩, ne⟩
      exact absurd same.symm ne
    · rintro ⟨named, -⟩
      cases named
  · next differs =>
    refine ⟨channel.trans h.channel, fun route => ?_⟩
    rw [routes, h.routes]
    constructor
    · exact And.left
    · rintro ⟨named, rfl⟩
      exact ⟨⟨named, rfl⟩, Ne.symm differs⟩

/-- A message that is routed does to a channel what it does to its feed. -/
theorem Shows.routed (h : r.Shows k name f) (sound : r.Sound) (inbound : Inbound) :
    (r.route inbound).1.Shows k name (f.next (.routed inbound)) := by
  refine ⟨?_, fun route => ?_⟩
  · rw [sound.getElem?_channels_route, h.channel, Feed.next]
    simp only [h.mem_taking_iff]
    split <;> rfl
  · rw [mem_routes_route_iff, and_right_comm, h.routes]
    have kept (named : f.named = true) : (f.next (.routed inbound)).named = true ↔
        ¬ (f.selects inbound = true ∧ r.offer ⟨name, f.filter, k⟩ = .closed) := by
      rw [h.offer, Channel.offer_eq_closed_iff, Feed.next]
      cases f.hasReceiver <;> simp [named]
    constructor
    · rintro ⟨⟨named, rfl⟩, stays⟩
      exact ⟨(kept named).2 stays, rfl⟩
    · rintro ⟨still, rfl⟩
      have named : f.named = true := (Bool.and_eq_true_iff.1 still).1
      exact ⟨⟨named, rfl⟩, (kept named).1 still⟩

/-- What a receiver finds, and what that leaves. -/
theorem Shows.looked (h : r.Shows k name f) :
    (r.receive k).1.Shows k name (f.next .looked) ∧ f.seen? .looked = some (r.receive k).2 := by
  rcases r.receive_cases k with ⟨c, m, here, head, eq⟩ | ⟨vacant, eq⟩
  · obtain rfl := Option.some.inj (here.symm.trans h.channel)
    obtain ⟨rest, queue⟩ := List.head?_eq_some_iff.1 head
    have queued : f.queue = m :: rest := queue
    rw [eq]
    refine ⟨⟨?_, h.routes⟩, ?_⟩
    · simp [h.channel, Channel.pop, Feed.next]
    · simp [Feed.seen?, queued]
  · have queued : f.queue = [] := vacant _ h.channel
    rw [eq]
    refine ⟨⟨?_, h.routes⟩, ?_⟩
    · simp [h.channel, Feed.next, queued]
    · simp [Feed.seen?, queued, h.connected]

/-- What other receivers do leaves a channel as it is. -/
theorem Shows.elsewhere (h : r.Shows k name f) {change : Channel → Channel} {channel : ℕ}
    (other : channel ≠ k) :
    ({ r with channels := r.channels.modify channel change } : Router).Shows k name f := by
  refine ⟨?_, h.routes⟩
  rw [List.getElem?_modify_ne _ _ other]
  exact h.channel

/-- A step of a router is to each channel what its feed makes of it. -/
theorem Shows.apply (h : r.Shows k name f) (sound : r.Sound) (op : Operation) :
    (r.apply op).Shows k name (f.run (op.event? k name).toList) := by
  cases op with
  | register other filter capacity =>
    obtain ⟨bound, -⟩ := List.getElem?_eq_some_iff.1 h.channel
    refine h.released (List.getElem?_append_left bound) fun route => ?_
    rw [Router.apply, register, mem_place_iff sound.names_nodup, or_and_right, and_right_comm]
    refine or_iff_right ?_
    rintro ⟨rfl, same⟩
    exact Nat.ne_of_gt bound same
  | unregister other =>
    refine h.released rfl fun route => ?_
    rw [Router.apply, unregister, List.mem_filter, and_right_comm, bne_iff_ne]
  | route inbound => exact h.routed sound inbound
  | receive channel =>
    by_cases same : channel = k
    · subst same
      rw [Operation.event?, if_pos rfl]
      exact h.looked.1
    · rw [Operation.event?, if_neg same, Router.apply]
      rcases r.receive_cases channel with ⟨c, m, -, -, eq⟩ | ⟨-, eq⟩
      · rw [eq]
        exact h.elsewhere same
      · rw [eq]
        exact h
  | leave channel =>
    by_cases same : channel = k
    · subst same
      rw [Operation.event?, if_pos rfl]
      refine ⟨?_, h.routes⟩
      simp [Router.apply, leave, h.channel, Feed.run, Feed.next, Channel.abandon]
    · rw [Operation.event?, if_neg same]
      exact h.elsewhere same

/-- A receiver finds what is in its feed. -/
theorem Shows.seen? (h : r.Shows k name f) (op : Operation) :
    r.seen? k op = (op.event? k name).bind f.seen? := by
  cases op with
  | register other filter capacity => rw [Operation.event?]; split <;> rfl
  | unregister other => rw [Operation.event?]; split <;> rfl
  | route inbound => rfl
  | receive channel =>
    rw [Router.seen?, Operation.event?]
    split
    · exact h.looked.2.symm
    · rfl
  | leave channel => rw [Operation.event?]; split <;> rfl

/-- A run of a router is to each channel what its feed makes of it, and its receiver finds what is
    in its feed. -/
theorem Shows.run (h : r.Shows k name f) (sound : r.Sound) (ops : List Operation) :
    (r.run ops).Shows k name (f.run (ops.filterMap (Operation.event? k name))) ∧
      r.sights k ops = f.sights (ops.filterMap (Operation.event? k name)) := by
  induction ops generalizing r f with
  | nil => exact ⟨h, rfl⟩
  | cons op ops ih =>
    have first := h.seen? op
    obtain ⟨shows, sights⟩ := ih (h.apply sound op) (sound.apply op)
    rw [Router.sights, first, sights]
    cases event : op.event? k name with
    | none =>
      rw [event] at shows
      rw [List.filterMap_cons_none event]
      exact ⟨shows, rfl⟩
    | some e =>
      rw [event] at shows
      rw [List.filterMap_cons_some event]
      exact ⟨shows, rfl⟩

/-- A channel that is registered is a feed of its own, and holds at least one message. -/
theorem shows_register (sound : r.Sound) (name : String) (filter : MessageFilter) (capacity : ℕ) :
    (r.register name filter capacity).1.Shows (r.register name filter capacity).2 name
      { filter, capacity := max capacity 1 } := by
  refine ⟨by simp [register], fun route => ?_⟩
  rw [register, mem_place_iff sound.names_nodup]
  constructor
  · rintro ⟨rfl | ⟨mem, -⟩, same⟩
    · exact ⟨rfl, rfl⟩
    · exact absurd same (Nat.ne_of_lt (sound.bound route mem))
  · rintro ⟨-, rfl⟩
    exact ⟨.inl rfl, rfl⟩

/-- Each receiver, from the registration of its channel on, finds exactly what it would find in a
    feed of its own, which only the messages that are routed, the loss of its name and what it does
    itself are told to, and which holds `max capacity 1` messages at most. It gets the messages that
    were queued for it, in the order in which they were routed and each once, and if it does not go
    it can get them all, with or without a name. A message is queued unless the name was taken away,
    the receiver went, the filter does not select it or the queue is full just then; and the channel
    has its name until that is taken away, or until the first message that the filter selects after
    the receiver went.

    Routing a message gives the channels that took it, each once, puts the message at the end of
    their queues and changes no other channel; and it takes the names from the channels that select
    the message and that nobody receives from, and from no others. -/
theorem receivers_have_queues_of_their_own :
    (∀ (before : List Operation) name filter capacity (after : List Operation),
      let opened := (empty.run before).register name filter capacity
      let k := opened.2
      let events := after.filterMap (Operation.event? k name)
      let feed : Feed := { filter, capacity := max capacity 1 }
      let r := empty.run (before ++ .register name filter capacity :: after)
      opened.1.sights k after = feed.sights events ∧
      r.Shows k name (feed.run events) ∧
      (feed.run events).queue.length ≤ max capacity 1 ∧
      feed.received events <+: feed.taken events ∧
      (feed.taken events).Sublist ((events.filterMap Feed.Event.inbound?).filter fun inbound =>
        filter.selects inbound.topic inbound.message) ∧
      (.left ∉ events → feed.received
        (events ++ List.replicate (feed.run events).queue.length .looked) = feed.taken events) ∧
      (∀ inbound, k ∈ (r.route inbound).2 ↔ .released ∉ events ∧ .left ∉ events ∧
        filter.selects inbound.topic inbound.message = true ∧
        (feed.run events).queue.length < max capacity 1) ∧
      (r.connected k = true ↔ .released ∉ events ∧ events.Pairwise fun early late =>
        early = .left → ∀ inbound, late = .routed inbound →
          filter.selects inbound.topic inbound.message = false)) ∧
    ∀ (ops : List Operation) inbound,
      let r := empty.run ops
      let routed := r.route inbound
      routed.2.Nodup ∧
      (∀ k, if k ∈ routed.2 then ∃ c, r.channels[k]? = some c ∧
          routed.1.channels[k]? = some (c.push inbound)
        else routed.1.channels[k]? = r.channels[k]?) ∧
      ∀ route, route ∈ routed.1.routes ↔ route ∈ r.routes ∧
        ¬ (route.filter.selects inbound.topic inbound.message = true ∧
          ∃ c, r.channels[route.channel]? = some c ∧ c.hasReceiver = false) := by
  refine ⟨fun before name filter capacity after => ?_, fun ops inbound => ?_⟩
  · intro opened k events feed r
    have sound : (empty.run before).Sound := sound_run sound_empty before
    have fresh : opened.1.Shows k name feed := shows_register sound name filter capacity
    have split : r = opened.1.run after := run_append empty before _
    have soundOpened : opened.1.Sound := sound.apply (.register name filter capacity)
    obtain ⟨shows, sights⟩ := fresh.run soundOpened after
    rw [← split] at shows
    refine ⟨sights, shows, ?_, ?_, ?_, ?_, ?_, ?_⟩
    · exact feed.length_queue_run_le (Nat.zero_le _) events
    · exact feed.received_prefix_taken events
    · exact feed.taken_sublist events
    · exact fun stays => feed.received_append_drain stays
    · exact fun inbound => shows.mem_taking_iff.trans (feed.takes_run_iff rfl rfl events inbound)
    · rw [shows.connected, feed.named_run_iff rfl]
      exact and_iff_right rfl
  · intro r routed
    have sound : r.Sound := sound_run sound_empty ops
    refine ⟨sound.nodup_taking inbound, fun k => ?_, fun route => ?_⟩
    · have after := sound.getElem?_channels_route inbound k
      split
      · next taking =>
        obtain ⟨route, mem, rfl, -⟩ := mem_taking_iff.1 taking
        have here := List.getElem?_eq_getElem (sound.bound route mem)
        rw [if_pos taking, here] at after
        exact ⟨_, here, after⟩
      · next spared => rwa [if_neg spared] at after
    · rw [mem_routes_route_iff]
      refine and_congr_right fun mem => not_congr (and_congr_right fun _ => ?_)
      exact sound.offer_eq_closed_iff mem

end Router

end HomeBus
