import HomeBus.Proofs.Hub.Sessions
import HomeBus.Proofs.Network.Correlation

/-!
# What of a network connections have to do with

`Network.wiring` is the part of a network that sessions and subscriptions depend on: the hub, the
endpoints, the parties apart from their engines, and the tasks. What is done within a step leads
from one wiring to another (`Wiring.Leads`): the hub goes on by operations, the only tasks that come
are re-subscriptions, a client stays one, and what its facade remembers stays covered by the filters
of its session and by the re-subscriptions that are outstanding.

Results:
* `leads_hub`, `leads_spawn`, `leads_modifyFacade`: the small moves that lead on.
* `leads_call`: calls lead on.
* `filters_call`: a topic that a client subscribed to is a filter of its session.
-/

namespace HomeBus

/-- What of a network connections have to do with. -/
@[ext] structure Wiring where
  hub : Hub
  endpoints : List Endpoint
  /-- The parties without their engines. -/
  parties : List Party
  tasks : List Task

def Party.unplug (p : Party) : Party := { p with engine := none }

/-- Whether a task has a topic to subscribe to again, for an endpoint. -/
def Task.Resubscribes (endpoint : ℕ) (topic : String) : Task → Prop
  | .resubscription task => task.endpoint = endpoint ∧ ∃ s ∈ task.rest, s.topic = topic
  | .operation _ | .request _ | .responder _ => False

namespace Wiring

def facade? (w : Wiring) (party : ℕ) : Option Facade := w.parties[party]?.bind Party.facade

/-- Whether a party holds a facade on an endpoint of the hub that tells it of new connections. -/
structure Client (w : Wiring) (party endpoint : ℕ) : Prop where
  told : ∃ e, w.endpoints[endpoint]? = some e ∧ e.kind = .memory ∧ e.onConnect = some party
  holds : ∃ p, w.parties[party]? = some p ∧ p.endpoint = endpoint ∧ p.holdsClient = true ∧
    p.facade.map Facade.endpoint = some endpoint

/-- Whether a task is there that has a topic to subscribe to again. -/
def Outstanding (w : Wiring) (endpoint : ℕ) (topic : String) : Prop :=
  ∃ task ∈ w.tasks, task.Resubscribes endpoint topic

/-- Whether the session of an endpoint, if it has one, has a filter. -/
def Filters (w : Wiring) (endpoint : ℕ) (topic : String) : Prop :=
  ∀ session, w.hub.session? endpoint = some session → topic ∈ session.filters

/-- Whether what a client's facade remembers is subscribed to, or will be. -/
def Covered (w : Wiring) (party endpoint : ℕ) : Prop :=
  ∀ facade topic, w.facade? party = some facade → facade.isSubscribed topic = true →
    w.Filters endpoint topic ∨ w.Outstanding endpoint topic

/-- What holds of the wiring of a client in every state. -/
structure Sound (w : Wiring) (party endpoint : ℕ) : Prop where
  hub : w.hub.Sound
  client : w.Client party endpoint
  covered : w.Covered party endpoint

/-- How a wiring goes on within a step. -/
structure Leads (party endpoint : ℕ) (w w' : Wiring) : Prop where
  hub : ∃ ops, w'.hub = w.hub.run ops
  tasks : ∃ new : List ResubscriptionTask, (∀ task ∈ new, task.wait = none) ∧
    w'.tasks = w.tasks ++ new.map .resubscription
  sound : w'.Sound party endpoint

variable {party endpoint : ℕ} {w w' w'' : Wiring}

theorem Leads.refl (sound : w.Sound party endpoint) : Leads party endpoint w w :=
  ⟨⟨[], rfl⟩, ⟨[], List.forall_mem_nil _, (List.append_nil _).symm⟩, sound⟩

theorem Leads.trans (h : Leads party endpoint w w') (h' : Leads party endpoint w' w'') :
    Leads party endpoint w w'' := by
  obtain ⟨ops, hub⟩ := h.hub
  obtain ⟨ops', hub'⟩ := h'.hub
  obtain ⟨new, prompt, tasks⟩ := h.tasks
  obtain ⟨new', prompt', tasks'⟩ := h'.tasks
  refine ⟨⟨ops ++ ops', ?_⟩, ⟨new ++ new', fun task mem => ?_, ?_⟩, h'.sound⟩
  · rw [hub', hub, Hub.run_append]
  · rcases List.mem_append.1 mem with mem | mem
    · exact prompt task mem
    · exact prompt' task mem
  · rw [tasks', tasks, List.map_append, List.append_assoc]

theorem Outstanding.mono {topic : String} (h : w.Outstanding endpoint topic)
    (tasks : w.tasks ⊆ w'.tasks) : w'.Outstanding endpoint topic := by
  obtain ⟨task, mem, does⟩ := h
  exact ⟨task, tasks mem, does⟩

/-! ## Small moves -/

theorem Filters.apply {topic : String} (filters : w.Filters endpoint topic) (hub : w.hub.Sound)
    {op : Hub.Operation} (other : ∀ clientName, op ≠ .connect endpoint clientName) :
    { w with hub := w.hub.apply op }.Filters endpoint topic := by
  intro session after
  obtain ⟨old, before, -, subset⟩ := hub.session?_of_apply after other
  exact subset (filters old before)

/-- The hub goes on, without a new connection of the client. -/
theorem leads_hub (sound : w.Sound party endpoint) (op : Hub.Operation)
    (other : ∀ clientName, op ≠ .connect endpoint clientName) :
    Leads party endpoint w { w with hub := w.hub.apply op } := by
  refine ⟨⟨[op], rfl⟩, ⟨[], List.forall_mem_nil _, (List.append_nil _).symm⟩,
    Hub.sound_apply sound.hub op, ⟨sound.client.told, sound.client.holds⟩, fun facade topic here subscribed => ?_⟩
  exact (sound.covered facade topic here subscribed).imp_left (·.apply sound.hub other)

/-- A re-subscription comes. -/
theorem leads_spawn (sound : w.Sound party endpoint) {task : ResubscriptionTask}
    (prompt : task.wait = none) :
    Leads party endpoint w { w with tasks := w.tasks ++ [.resubscription task] } := by
  refine ⟨⟨[], rfl⟩, ⟨[task], ?_, rfl⟩, sound.hub, ⟨sound.client.told, sound.client.holds⟩,
    fun facade topic here subscribed => ?_⟩
  · rintro _ (_ | ⟨_, ⟨⟩⟩)
    exact prompt
  · exact (sound.covered facade topic here subscribed).imp_right
      (·.mono (List.subset_append_left ..))

end Wiring

namespace Network

/-- What of a network connections have to do with. -/
def wiring (net : Network) : Wiring where
  hub := net.hub
  endpoints := net.endpoints
  parties := net.parties.map Party.unplug
  tasks := net.tasks

variable (net : Network)

/-! ## What changes nothing -/

theorem facade?_wiring (party : ℕ) : net.wiring.facade? party = net.facade? party := by
  unfold Wiring.facade? facade? party? wiring
  rw [List.getElem?_map]
  cases net.parties[party]? <;> rfl

@[simp] theorem wiring_wake (job : Job) : (net.wake job).wiring = net.wiring := by
  unfold wake
  split <;> rfl

theorem wiring_foldl {α : Type*} (f : Network → α → Network)
    (h : ∀ net a, (f net a).wiring = net.wiring) (l : List α) :
    (l.foldl f net).wiring = net.wiring := by
  induction l generalizing net with
  | nil => rfl
  | cons a l ih => rw [List.foldl_cons, ih, h]

@[simp] theorem wiring_wakeTasks (which : Task → Bool) :
    (net.wakeTasks which).wiring = net.wiring := by
  refine wiring_foldl net _ (fun net entry => ?_) _
  split
  · exact wiring_wake net _
  · rfl

@[simp] theorem wiring_identify (m : Message) : (net.identify m).1.wiring = net.wiring := by
  unfold identify
  split <;> rfl

/-- A party changes apart from its engine, or not at all. -/
theorem wiring_modifyParty (party : ℕ) {f g : Party → Party}
    (h : ∀ p, (f p).unplug = g p.unplug) :
    (net.modifyParty party f).wiring =
      { net.wiring with parties := net.wiring.parties.modify party g } := by
  have parties : (net.parties.modify party f).map Party.unplug =
      (net.parties.map Party.unplug).modify party g := by
    apply List.ext_getElem?
    intro other
    rw [List.getElem?_map, List.getElem?_modify, List.getElem?_modify, List.getElem?_map]
    cases net.parties[other]? with
    | none => rfl
    | some p =>
      by_cases here : party = other
      · simp [here, h]
      · simp [here]
  simp only [wiring, modifyParty, parties]

/-- An engine changes. -/
theorem wiring_modifyParty_of_unplug (party : ℕ) {f : Party → Party}
    (h : ∀ p, (f p).unplug = p.unplug) : (net.modifyParty party f).wiring = net.wiring := by
  rw [wiring_modifyParty net party (g := id) h, List.modify_id]

@[simp] theorem wiring_setEngine (party : ℕ) (engine : Engine) :
    (net.setEngine party engine).wiring = net.wiring :=
  wiring_modifyParty_of_unplug net party fun _ => rfl

@[simp] theorem wiring_modifyEngine (party : ℕ) (f : Engine → Engine) :
    (net.modifyEngine party f).wiring = net.wiring :=
  wiring_modifyParty_of_unplug net party fun _ => rfl

theorem wiring_spawn (task : Task) :
    (net.spawn task).1.wiring = { net.wiring with tasks := net.tasks ++ [task] } :=
  wiring_wake ..

theorem facade?_modifyFacade (party other : ℕ) (f : Facade → Facade) :
    (net.modifyFacade other f).facade? party =
      if other = party then (net.facade? party).map f else net.facade? party := by
  rw [modifyFacade, facade?, party?_modifyParty]
  split
  · unfold facade?
    cases net.party? party <;> rfl
  · rfl

variable {net} {party endpoint : ℕ}

open Wiring (Leads)

/-! ## Facades -/

/-- A facade changes that stands on the same endpoint; what a client remembers from then on is
    subscribed to. -/
theorem leads_modifyFacade (sound : net.wiring.Sound party endpoint) (other : ℕ)
    (f : Facade → Facade) (stands : ∀ facade, (f facade).endpoint = facade.endpoint)
    (subscribed : other = party → ∀ facade topic, net.facade? party = some facade →
      (f facade).isSubscribed topic = true →
        facade.isSubscribed topic = true ∨ net.wiring.Filters endpoint topic) :
    Leads party endpoint net.wiring (net.modifyFacade other f).wiring := by
  have wired : (net.modifyFacade other f).wiring = { net.wiring with
      parties := net.wiring.parties.modify other fun p => { p with facade := p.facade.map f } } :=
    wiring_modifyParty net other fun _ => rfl
  refine ⟨⟨[], rfl⟩, ⟨[], List.forall_mem_nil _, (List.append_nil _).symm⟩, sound.hub, ?_, ?_⟩
  · obtain ⟨p, here, at_, held, facade⟩ := sound.client.holds
    refine ⟨sound.client.told, ?_⟩
    rw [wired, List.getElem?_modify, here]
    by_cases same : other = party
    · refine ⟨{ p with facade := p.facade.map f }, by simp [same], at_, held, ?_⟩
      rw [Option.map_map, show Facade.endpoint ∘ f = Facade.endpoint from funext stands, facade]
    · exact ⟨p, by simp [same], at_, held, facade⟩
  · intro facade topic here known
    rw [facade?_wiring, facade?_modifyFacade] at here
    split at here
    · next same =>
      obtain ⟨old, was, rfl⟩ := Option.map_eq_some_iff.1 here
      rcases subscribed same old topic was known with known | filters
      · exact sound.covered old topic ((facade?_wiring net party).trans was) known
      · exact .inl filters
    · exact sound.covered facade topic ((facade?_wiring net party).trans here) known

/-- A client remembers a topic that its session has among its filters. -/
theorem leads_remember (sound : net.wiring.Sound party endpoint) (other : ℕ) (topic : String)
    (qos : QoS) (subscribed : other = party →
      (∃ facade, net.facade? party = some facade ∧ facade.isSubscribed topic = true) ∨
        net.wiring.Filters endpoint topic) :
    Leads party endpoint net.wiring (net.remember other topic qos).wiring := by
  refine leads_modifyFacade sound other _ (fun facade => ?_) fun same facade t here known => ?_
  · unfold Facade.remember
    split <;> rfl
  · rw [Facade.isSubscribed_remember, Bool.or_eq_true, beq_iff_eq] at known
    rcases known with known | rfl
    · exact .inl known
    · refine (subscribed same).imp_left ?_
      rintro ⟨_, was, known⟩
      cases here.symm.trans was
      exact known

/-! ## New connections -/

theorem wiring_announce (net : Network) (other : ℕ) (announcement : Announcement) :
    (net.announce other announcement).wiring = net.wiring ∨
      ∃ rest, (net.announce other announcement).wiring = { net.wiring with
        tasks := net.tasks ++ [.resubscription { endpoint := other, rest }] } := by
  unfold announce
  dsimp only
  split
  · exact .inl rfl
  · split_ifs
    · exact .inr ⟨_, wiring_spawn ..⟩
    · exact .inl rfl

theorem leads_announce (sound : net.wiring.Sound party endpoint) (other : ℕ)
    (announcement : Announcement) :
    Leads party endpoint net.wiring (net.announce other announcement).wiring := by
  rcases wiring_announce net other announcement with eq | ⟨rest, eq⟩
  · rw [eq]
    exact Leads.refl sound
  · rw [eq]
    exact Wiring.leads_spawn sound rfl

theorem exists_client (client : net.wiring.Client party endpoint) :
    ∃ e p facade, net.endpoint? endpoint = some e ∧ e.kind = .memory ∧ e.onConnect = some party ∧
      net.party? party = some p ∧ p.endpoint = endpoint ∧ p.holdsClient = true ∧
      p.facade = some facade ∧ facade.endpoint = endpoint := by
  obtain ⟨e, there, kind, told⟩ := client.told
  obtain ⟨p, here, at_, held, stands⟩ := client.holds
  have parties : net.wiring.parties = net.parties.map Party.unplug := rfl
  rw [parties, List.getElem?_map] at here
  obtain ⟨q, partyHere, rfl⟩ := Option.map_eq_some_iff.1 here
  obtain ⟨facade, facadeHere, stands⟩ := Option.map_eq_some_iff.1 stands
  exact ⟨e, q, facade, there, kind, told, partyHere, at_, held, facadeHere, stands⟩

/-- What a client's facade remembers is made again after a connection is announced. -/
theorem outstanding_announce (client : net.wiring.Client party endpoint) {facade : Facade}
    (here : net.facade? party = some facade) {topic : String}
    (known : facade.isSubscribed topic = true) :
    (net.announce endpoint .inline).wiring.Outstanding endpoint topic := by
  obtain ⟨e, p, _, there, -, told, partyHere, at_, held, facadeHere, -⟩ := exists_client client
  obtain ⟨s, mem, same⟩ := List.any_eq_true.1 known
  have some_ : facade.subscriptions ≠ [] := List.ne_nil_of_mem mem
  have holds : net.endpointHeld endpoint = true := by
    have entry : (p, party) ∈ net.parties.zipIdx := List.mem_zipIdx_iff_getElem?.2 partyHere
    have own : net.partyHolds endpoint party p = true := by
      simp [partyHolds, at_, held, facadeHere]
    exact Bool.or_eq_true_iff.2 (.inl (List.any_eq_true.2 ⟨_, entry, own⟩))
  unfold announce
  simp only [there, Option.bind_some, told, here, some_, holds, ne_eq, not_false_eq_true,
    decide_true, Bool.and_self, if_true]
  rw [wiring_spawn]
  refine ⟨_, List.mem_append_right _ (List.mem_singleton_self _), rfl, s, mem, ?_⟩
  simpa using same

/-! ## Calls -/

/-- A client connects, and what its facade remembers is made again. -/
theorem leads_connect (sound : net.wiring.Sound party endpoint) (clientName : String)
    {connected : Network} (wired : connected.wiring =
      { net.wiring with hub := net.hub.apply (.connect endpoint clientName) }) :
    Leads party endpoint net.wiring (connected.announce endpoint .inline).wiring := by
  have client : connected.wiring.Client party endpoint := by
    rw [wired]
    exact ⟨sound.client.told, sound.client.holds⟩
  have hub : connected.wiring.hub.Sound := by
    rw [wired]
    exact Hub.sound_apply sound.hub (.connect endpoint clientName)
  have step : connected.wiring.hub = net.wiring.hub.run [.connect endpoint clientName] := by
    rw [wired]
    rfl
  have tasks : connected.tasks = net.tasks := congrArg Wiring.tasks wired
  have outstanding {facade : Facade} {topic : String} (here : connected.facade? party = some facade)
      (known : facade.isSubscribed topic = true) :=
    outstanding_announce client here known
  rcases wiring_announce connected endpoint .inline with eq | ⟨rest, eq⟩
  · rw [eq] at outstanding ⊢
    refine ⟨⟨_, step⟩, ⟨[], List.forall_mem_nil _, tasks.trans (List.append_nil _).symm⟩, hub,
      client,
      fun facade topic here known => .inr ?_⟩
    exact outstanding ((facade?_wiring connected party).symm.trans here) known
  · rw [eq] at outstanding ⊢
    refine ⟨⟨_, step⟩, ⟨[{ endpoint, rest }], ?_, congrArg (· ++ _) tasks⟩, hub,
      ⟨client.told, client.holds⟩, fun facade topic here known => .inr ?_⟩
    · rintro _ (_ | ⟨_, ⟨⟩⟩)
      rfl
    · exact outstanding ((facade?_wiring connected party).symm.trans here) known

theorem leads_callHub (sound : net.wiring.Sound party endpoint) (other : ℕ) (call : Call) :
    Leads party endpoint net.wiring (net.callHub other call).1.wiring := by
  have applied (op : Hub.Operation) (keeps : ∀ clientName, op ≠ .connect endpoint clientName) :
      Leads party endpoint net.wiring { net.wiring with hub := net.hub.apply op } :=
    Wiring.leads_hub sound op keeps
  cases call with
  | connect options =>
    simp only [callHub]
    rcases net.hub.connect_cases other options.clientName with eq | eq
    · have hub : ((net.hub.opened other options.clientName).replace other
          (some (net.hub.lastId + 1))) = net.hub.apply (.connect other options.clientName) :=
        (congrArg Prod.fst eq).symm
      rw [eq]
      dsimp only
      rw [hub]
      set connected := ({ net with
        hub := net.hub.apply (.connect other options.clientName) } : Network).wake
          (.deliver (net.hub.lastId + 1))
      have wired : connected.wiring = { net.wiring with
        hub := net.hub.apply (.connect other options.clientName) } := wiring_wake ..
      by_cases same : other = endpoint
      · subst same
        exact leads_connect sound _ wired
      · have leads := applied (.connect other options.clientName) fun _ eq => by
          cases eq
          exact same rfl
        rw [← wired] at leads
        exact leads.trans (leads_announce leads.sound ..)
    · rw [eq]
      exact Leads.refl sound
  | subscribe topic qos => exact applied (.subscribe other topic) (by simp)
  | publish topic payload qos retain =>
    have leads := applied (.publish other topic payload) (by simp)
    rw [Hub.apply] at leads
    simp only [callHub]
    split
    · next hub sessions eq =>
      rw [eq] at leads
      rwa [wiring_foldl _ _ fun net _ => wiring_wake net _]
    · next hub e eq =>
      rw [eq] at leads
      exact leads
  | close => exact applied (.close other) (by simp)

theorem leads_answer (sound : net.wiring.Sound party endpoint) (other : ℕ) (w : Wait) :
    Leads party endpoint net.wiring (net.answer other w).1.wiring := by
  unfold answer
  split
  · exact leads_announce sound ..
  · exact Leads.refl sound

theorem leads_resume (sound : net.wiring.Sound party endpoint) (other : ℕ) (w : Wait) :
    Leads party endpoint net.wiring (net.resume other w).1.wiring := by
  unfold resume
  split
  · exact leads_answer sound ..
  · exact Leads.refl sound

theorem leads_call (sound : net.wiring.Sound party endpoint) (other : ℕ) (call : Call) :
    Leads party endpoint net.wiring (net.call other call).1.wiring := by
  have recorded (owner : ℕ) : (net.record owner (.called call)).wiring.Sound party endpoint := sound
  unfold Network.call
  split
  · exact Leads.refl sound
  · split
    · exact leads_callHub sound ..
    · exact leads_resume (recorded _) ..

/-- The hub answers calls at once. -/
theorem call_of_memory (memory : (net.endpoint? endpoint).map Endpoint.kind = some .memory)
    (call : Call) : net.call endpoint call =
      ((net.callHub endpoint call).1, .done (net.callHub endpoint call).2) := by
  obtain ⟨e, there, kind⟩ := Option.map_eq_some_iff.1 memory
  simp only [Network.call, there, kind]

theorem call_of_client (client : net.wiring.Client party endpoint) (call : Call) :
    net.call endpoint call =
      ((net.callHub endpoint call).1, .done (net.callHub endpoint call).2) := by
  obtain ⟨e, -, -, there, kind, -⟩ := exists_client client
  exact call_of_memory (Option.map_eq_some_iff.2 ⟨e, there, kind⟩) call

/-- A topic that a client subscribed to is among the filters of its session. -/
theorem filters_call (sound : net.wiring.Sound party endpoint) (topic : String) (qos : QoS) :
    (net.call endpoint (.subscribe topic qos)).1.wiring.Filters endpoint topic := by
  rw [call_of_client sound.client]
  exact fun session after => sound.hub.mem_filters_subscribe after

end Network

end HomeBus
