import HomeBus.Router
import Mathlib.Data.List.Induction
import Mathlib.Data.List.Nodup
import Mathlib.Tactic.Common

/-!
# Runs of a router

A router starts empty and is changed by operations in any order: channels are registered and lose
their names, messages are routed, and receivers look or leave. Names and channels stay one to one.

Results:
* `Sound.apply`, `sound_run`: no name and no channel stands twice among the routes.
* `mem_taking_iff`, `Sound.nodup_taking`: which channels take a message, each of them once.
* `getElem?_channels_route`, `mem_routes_route_iff`: what becomes of channels and names when a
  message is routed.
-/

namespace HomeBus

theorem Channel.offer_eq_closed_iff {c : Channel} : c.offer = .closed ↔ c.hasReceiver = false := by
  unfold offer
  cases c.hasReceiver
  · simp
  · by_cases room : c.queue.length < c.capacity <;> simp [room]

theorem Channel.offer_eq_taken_iff {c : Channel} :
    c.offer = .taken ↔ c.hasReceiver = true ∧ c.queue.length < c.capacity := by
  unfold offer
  cases c.hasReceiver
  · simp
  · by_cases room : c.queue.length < c.capacity <;> simp [room]

namespace Router

/-- What is done with a router. -/
inductive Operation where
  | register (name : String) (filter : MessageFilter) (capacity : ℕ)
  | unregister (name : String)
  | route (inbound : Inbound)
  /-- A receiver looks. -/
  | receive (channel : ℕ)
  /-- A receiver goes. -/
  | leave (channel : ℕ)
  deriving DecidableEq

def apply (r : Router) : Operation → Router
  | .register name filter capacity => (r.register name filter capacity).1
  | .unregister name => (r.unregister name).1
  | .route inbound => (r.route inbound).1
  | .receive channel => (r.receive channel).1
  | .leave channel => r.leave channel

def run (r : Router) (ops : List Operation) : Router := ops.foldl apply r

theorem run_append (r : Router) (before after : List Operation) :
    r.run (before ++ after) = (r.run before).run after :=
  List.foldl_append

theorem run_concat (r : Router) (ops : List Operation) (op : Operation) :
    r.run (ops ++ [op]) = (r.run ops).apply op := by
  simp [run]

/-- What holds of a router in every state. -/
structure Sound (r : Router) : Prop where
  names_nodup : (r.routes.map Route.name).Nodup
  channels_nodup : (r.routes.map Route.channel).Nodup
  bound : ∀ route ∈ r.routes, route.channel < r.channels.length

theorem sound_empty : empty.Sound := ⟨List.nodup_nil, List.nodup_nil, List.forall_mem_nil _⟩

variable {r : Router} {inbound : Inbound} {route : Route} {k : ℕ}

/-! ## Names -/

/-- A route that is placed stands behind the others, or in place of the one with its name. -/
theorem pairwise_place {R : Route → Route → Prop} {routes : List Route} (new : Route)
    (h : routes.Pairwise R) (behind : ∀ route ∈ routes, route.name ≠ new.name → R route new)
    (instead : ∀ old ∈ routes, old.name = new.name → ∀ route ∈ routes, R old route → R new route) :
    (place new routes).Pairwise R ∧ ∀ route ∈ place new routes, route = new ∨ route ∈ routes := by
  induction routes with
  | nil => exact ⟨List.pairwise_singleton .., fun route mem => .inl (List.mem_singleton.1 mem)⟩
  | cons other rest ih =>
    obtain ⟨head, tail⟩ := List.pairwise_cons.1 h
    have inRest {route : Route} (mem : route ∈ rest) : route ∈ other :: rest :=
      List.mem_cons_of_mem _ mem
    rw [place]
    split
    · next same =>
      refine ⟨List.pairwise_cons.2 ⟨fun route mem => ?_, tail⟩, fun route mem => ?_⟩
      · exact instead other List.mem_cons_self same route (inRest mem) (head route mem)
      · exact (List.mem_cons.1 mem).imp_right inRest
    · next differs =>
      obtain ⟨placed, among⟩ := ih tail (fun route mem => behind route (inRest mem))
        fun old memOld same route mem => instead old (inRest memOld) same route (inRest mem)
      refine ⟨List.pairwise_cons.2 ⟨fun route mem => ?_, placed⟩, fun route mem => ?_⟩
      · rcases among route mem with rfl | mem
        · exact behind other List.mem_cons_self differs
        · exact head route mem
      · rcases List.mem_cons.1 mem with rfl | mem
        · exact .inr List.mem_cons_self
        · exact (among route mem).imp_right inRest

/-- Of the routes that were there, one that is placed replaces the one with its name. -/
theorem mem_place_iff {new : Route} {routes : List Route} (nodup : (routes.map Route.name).Nodup) :
    route ∈ place new routes ↔ route = new ∨ route ∈ routes ∧ route.name ≠ new.name := by
  induction routes with
  | nil => simp [place]
  | cons other rest ih =>
    obtain ⟨absent, nodup⟩ := List.nodup_cons.1 nodup
    rw [place]
    split
    · next same =>
      have away (mem : route ∈ rest) : route.name ≠ new.name := fun eq =>
        absent (same.trans eq.symm ▸ List.mem_map_of_mem mem)
      rw [List.mem_cons, List.mem_cons]
      constructor
      · exact Or.imp_right fun mem => ⟨.inr mem, away mem⟩
      · rintro (rfl | ⟨rfl | mem, ne⟩)
        · exact .inl rfl
        · exact absurd same ne
        · exact .inr mem
    · next differs =>
      rw [List.mem_cons, List.mem_cons, ih nodup]
      constructor
      · rintro (rfl | rfl | ⟨mem, ne⟩)
        · exact .inr ⟨.inl rfl, differs⟩
        · exact .inl rfl
        · exact .inr ⟨.inr mem, ne⟩
      · rintro (rfl | ⟨rfl | mem, ne⟩)
        · exact .inr (.inl rfl)
        · exact .inl rfl
        · exact .inr (.inr ⟨mem, ne⟩)

/-! ## Routing -/

/-- The channels that take a message, in the order of their names. -/
theorem snd_route (r : Router) (inbound : Inbound) :
    (r.route inbound).2 = ((r.routes.filter fun route =>
      route.filter.selects inbound.topic inbound.message).filter
        fun route => r.offer route = .taken).map Route.channel := rfl

/-- A channel takes a message if its route selects it, someone still receives from the channel, and
    its queue is not full. -/
theorem mem_taking_iff : k ∈ (r.route inbound).2 ↔ ∃ route ∈ r.routes, route.channel = k ∧
    route.filter.selects inbound.topic inbound.message = true ∧ r.offer route = .taken := by
  simp only [snd_route, List.mem_map, List.mem_filter, decide_eq_true_eq]
  constructor
  · rintro ⟨route, ⟨⟨mem, selects⟩, taken⟩, same⟩
    exact ⟨route, mem, same, selects, taken⟩
  · rintro ⟨route, mem, same, selects, taken⟩
    exact ⟨route, ⟨⟨mem, selects⟩, taken⟩, same⟩

/-- The channel of a route is closed if nobody receives from it. -/
theorem Sound.offer_eq_closed_iff (h : r.Sound) (mem : route ∈ r.routes) :
    r.offer route = .closed ↔ ∃ c, r.channels[route.channel]? = some c ∧ c.hasReceiver = false := by
  have here := List.getElem?_eq_getElem (h.bound route mem)
  simp only [offer, here, Channel.offer_eq_closed_iff, Option.some.injEq, exists_eq_left']

theorem Sound.nodup_taking (h : r.Sound) (inbound : Inbound) : (r.route inbound).2.Nodup :=
  h.channels_nodup.sublist ((List.filter_sublist.trans List.filter_sublist).map _)

/-- Puts a message at the end of the queues of some channels. -/
def pushAll (r : Router) (inbound : Inbound) (taking : List ℕ) : Router :=
  taking.foldl (fun r channel => r.push inbound channel) r

/-- Messages that are pushed change no routes. -/
theorem pushAll_frame (r : Router) (inbound : Inbound) (taking : List ℕ) :
    (r.pushAll inbound taking).routes = r.routes ∧
      (r.pushAll inbound taking).channels.length = r.channels.length := by
  induction taking generalizing r with
  | nil => exact ⟨rfl, rfl⟩
  | cons channel taking ih =>
    obtain ⟨routes, length⟩ := ih (r.push inbound channel)
    exact ⟨routes, length.trans (List.length_modify ..)⟩

theorem getElem?_channels_pushAll (r : Router) (inbound : Inbound) {taking : List ℕ}
    (nodup : taking.Nodup) (k : ℕ) : (r.pushAll inbound taking).channels[k]? =
      if k ∈ taking then r.channels[k]?.map (Channel.push inbound) else r.channels[k]? := by
  induction taking generalizing r with
  | nil => exact (if_neg List.not_mem_nil).symm
  | cons channel taking ih =>
    obtain ⟨absent, nodup⟩ := List.nodup_cons.1 nodup
    refine (ih (r.push inbound channel) nodup).trans ?_
    rw [push, List.getElem?_modify]
    by_cases same : channel = k
    · subst same
      simp [absent]
    · simp [same, Ne.symm same]

theorem channels_route (r : Router) (inbound : Inbound) :
    (r.route inbound).1.channels = (r.pushAll inbound (r.route inbound).2).channels := rfl

theorem routes_route (r : Router) (inbound : Inbound) :
    (r.route inbound).1.routes = r.routes.filter fun route => route ∉ (r.routes.filter fun route =>
      route.filter.selects inbound.topic inbound.message).filter
        fun route => r.offer route = .closed :=
  congrArg (List.filter _) (r.pushAll_frame inbound (r.route inbound).2).1

/-- A message stands at the end of the queues of the channels that take it, and nothing else is
    changed in any channel. -/
theorem Sound.getElem?_channels_route (h : r.Sound) (inbound : Inbound) (k : ℕ) :
    (r.route inbound).1.channels[k]? =
      if k ∈ (r.route inbound).2 then r.channels[k]?.map (Channel.push inbound)
      else r.channels[k]? := by
  rw [channels_route]
  exact r.getElem?_channels_pushAll inbound (h.nodup_taking inbound) k

/-- A name is taken away from a channel that nobody receives from, when a message is routed that it
    selects. -/
theorem mem_routes_route_iff : route ∈ (r.route inbound).1.routes ↔
    route ∈ r.routes ∧ ¬ (route.filter.selects inbound.topic inbound.message = true ∧
      r.offer route = .closed) := by
  simp only [routes_route, List.mem_filter, decide_eq_true_eq]
  tauto

/-! ## Receiving -/

/-- A receiver takes the first message out of its queue, or finds the queue empty. -/
theorem receive_cases (r : Router) (k : ℕ) :
    (∃ c m, r.channels[k]? = some c ∧ c.queue.head? = some m ∧
      r.receive k = ({ r with channels := r.channels.modify k Channel.pop }, .inbound m)) ∨
    (∀ c, r.channels[k]? = some c → c.queue = []) ∧
      r.receive k = (r, if r.connected k then .empty else .disconnected) := by
  unfold receive
  split
  · next m found =>
    obtain ⟨c, here, head⟩ := Option.bind_eq_some_iff.1 found
    exact .inl ⟨c, m, here, head, rfl⟩
  · next none_ =>
    refine .inr ⟨fun c here => ?_, rfl⟩
    rwa [here, Option.bind_some, List.head?_eq_none_iff] at none_

/-! ## What operations keep -/

theorem Sound.place (h : r.Sound) (name : String) (filter : MessageFilter) (channels : List Channel)
    (more : channels.length = r.channels.length + 1) :
    (⟨Router.place ⟨name, filter, r.channels.length⟩ r.routes, channels⟩ : Router).Sound := by
  have fresh (route : Route) (mem : route ∈ r.routes) : route.channel ≠ r.channels.length :=
    Nat.ne_of_lt (h.bound route mem)
  have names := pairwise_place ⟨name, filter, r.channels.length⟩
    (List.pairwise_map.1 h.names_nodup) (fun _ _ ne => ne)
    fun old _ same route _ ne => same ▸ ne
  have numbers := pairwise_place ⟨name, filter, r.channels.length⟩
    (List.pairwise_map.1 h.channels_nodup) (fun route mem _ => fresh route mem)
    fun _ _ _ route mem _ => (fresh route mem).symm
  refine ⟨List.pairwise_map.2 names.1, List.pairwise_map.2 numbers.1, fun route mem => ?_⟩
  rw [more]
  rcases names.2 route mem with rfl | mem
  · exact Nat.lt_succ_self _
  · exact Nat.lt_succ_of_lt (h.bound route mem)

theorem Sound.sublist (h : r.Sound) {r' : Router} (routes : r'.routes.Sublist r.routes)
    (length : r'.channels.length = r.channels.length) : r'.Sound :=
  ⟨h.names_nodup.sublist (routes.map _), h.channels_nodup.sublist (routes.map _),
    fun route mem => length ▸ h.bound route (routes.subset mem)⟩

theorem Sound.apply (h : r.Sound) (op : Operation) : (r.apply op).Sound := by
  cases op with
  | register name filter capacity => exact h.place name filter _ (by simp)
  | unregister name => exact h.sublist List.filter_sublist rfl
  | route inbound =>
    refine h.sublist ?_ (r.pushAll_frame inbound (r.route inbound).2).2
    rw [Router.apply, routes_route]
    exact List.filter_sublist
  | receive channel =>
    rcases r.receive_cases channel with ⟨c, m, -, -, eq⟩ | ⟨-, eq⟩
    · rw [Router.apply, eq]
      exact h.sublist (List.Sublist.refl _) (List.length_modify ..)
    · rw [Router.apply, eq]
      exact h
  | leave channel => exact h.sublist (List.Sublist.refl _) (List.length_modify ..)

theorem sound_run (h : r.Sound) (ops : List Operation) : (r.run ops).Sound := by
  induction ops using List.reverseRecOn with
  | nil => exact h
  | append_singleton ops op ih =>
    rw [run_concat]
    exact ih.apply op

end Router

end HomeBus
