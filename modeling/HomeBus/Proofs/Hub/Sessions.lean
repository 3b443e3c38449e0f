import HomeBus.Hub
import Mathlib.Data.List.Induction
import Mathlib.Data.List.Nodup
import Mathlib.Tactic.Common

/-!
# Sessions of a hub

Identifiers of sessions are given out once. A session belongs to the endpoint that remembers it for
as long as it is open, and its mailbox is one of that endpoint. It gains filters and never loses
one.

Results:
* `sound_apply`, `sound_run`: what holds of the sessions and mailboxes of a hub in every state.
* `Sound.session?_of_apply`: the session of an endpoint is the one it had before, with no fewer
  filters, unless the endpoint has just connected.
* `Sound.session?_run`: a session that is still open is still the one of its endpoint.
* `Sound.hears_run`: from its subscription on, a session that is open gets into its mailbox
  whatever is published on a topic that selects itself.
-/

namespace HomeBus.Hub

/-! ## Operations -/

/-- What is done with a hub. -/
inductive Operation where
  | connect (endpoint : ℕ) (clientName : String)
  | close (endpoint : ℕ)
  | subscribe (endpoint : ℕ) (filter : String)
  | publish (endpoint : ℕ) (topic : String) (payload : Bytes)
  /-- The next delivery of a session is handed over. -/
  | deliver (session : ℕ)
  | setOnline (online : Bool)
  | restart

def apply (hub : Hub) : Operation → Hub
  | .connect endpoint clientName => (hub.connect endpoint clientName).1
  | .close endpoint => hub.close endpoint
  | .subscribe endpoint filter => (hub.subscribe endpoint filter).1
  | .publish endpoint topic payload => (hub.publish endpoint topic payload).1
  | .deliver session => (hub.deliver session).1
  | .setOnline online => hub.setOnline online
  | .restart => hub.restart

def run (hub : Hub) (ops : List Operation) : Hub := ops.foldl apply hub

theorem run_append (hub : Hub) (before after : List Operation) :
    hub.run (before ++ after) = (hub.run before).run after :=
  List.foldl_append

theorem run_concat (hub : Hub) (ops : List Operation) (op : Operation) :
    hub.run (ops ++ [op]) = (hub.run ops).apply op := by
  simp [run]

/-- The open session of an endpoint. -/
def session? (hub : Hub) (endpoint : ℕ) : Option Session :=
  (hub.connection endpoint).bind fun id => hub.sessions.find? (·.id == id)

/-- The session that an endpoint remembers is dropped, and it remembers another one. -/
def replace (hub : Hub) (endpoint : ℕ) (id : Option ℕ) : Hub :=
  (hub.dropSession (hub.connection endpoint)).setConnection endpoint id

/-- What holds of the identifiers of sessions in every state. -/
structure Numbered (hub : Hub) : Prop where
  ids_nodup : (hub.sessions.map Session.id).Nodup
  /-- Identifiers are counted up. -/
  opened : ∀ session ∈ hub.sessions, session.id ≤ hub.lastId
  remembered : ∀ {endpoint id}, hub.connection endpoint = some id → id ≤ hub.lastId
  posted : ∀ box ∈ hub.mailboxes, box.session ≤ hub.lastId
  /-- No two endpoints remember one session. -/
  apart : ∀ {endpoint other id}, hub.connection endpoint = some id →
    hub.connection other = some id → endpoint = other
  boxes_nodup : (hub.mailboxes.map Mailbox.session).Nodup

/-- What holds of a hub in every state. -/
structure Sound (hub : Hub) : Prop extends hub.Numbered where
  /-- An open session has a mailbox, of the endpoint that remembers it. -/
  boxed : ∀ session ∈ hub.sessions, ∃ box ∈ hub.mailboxes,
    box.session = session.id ∧ hub.connection box.endpoint = some session.id

variable {hub : Hub}

theorem sound_new : new.Sound := by
  constructor
  · constructor <;> simp [new]
  · simp [new]

/-! ## What operations do -/

theorem hasSession_iff {id : ℕ} :
    hub.hasSession id = true ↔ ∃ session ∈ hub.sessions, session.id = id := by
  simp [hasSession]

theorem isConnected_iff {endpoint : ℕ} :
    hub.isConnected endpoint = true ↔
      ∃ id, hub.connection endpoint = some id ∧ hub.hasSession id = true := by
  simp [isConnected, Option.any_eq_true]

theorem mem_replace {endpoint : ℕ} {id : Option ℕ} {session : Session} :
    session ∈ (hub.replace endpoint id).sessions ↔
      session ∈ hub.sessions ∧ hub.connection endpoint ≠ some session.id := by
  unfold replace setConnection
  cases hub.connection endpoint with
  | none => simp [dropSession]
  | some previous =>
    rw [dropSession, List.mem_filter, bne_iff_ne, ne_comm, ne_eq, ne_eq, Option.some.injEq]

theorem sublist_replace (hub : Hub) (endpoint : ℕ) (id : Option ℕ) :
    (hub.replace endpoint id).sessions.Sublist hub.sessions := by
  unfold replace setConnection
  cases hub.connection endpoint with
  | none => exact List.Sublist.refl _
  | some previous => exact List.filter_sublist

@[simp] theorem lastId_replace (hub : Hub) (endpoint : ℕ) (id : Option ℕ) :
    (hub.replace endpoint id).lastId = hub.lastId := by
  unfold replace
  cases hub.connection endpoint <;> rfl

@[simp] theorem mailboxes_replace (hub : Hub) (endpoint : ℕ) (id : Option ℕ) :
    (hub.replace endpoint id).mailboxes = hub.mailboxes := by
  unfold replace
  cases hub.connection endpoint <;> rfl

theorem connection_replace (hub : Hub) (endpoint : ℕ) (id : Option ℕ) (other : ℕ) :
    (hub.replace endpoint id).connection other =
      if other = endpoint then id else hub.connection other := by
  unfold replace
  cases hub.connection endpoint <;> rfl

@[simp] theorem id_addFilter (id : ℕ) (filter : String) (session : Session) :
    (addFilter id filter session).id = session.id := by
  unfold addFilter
  split <;> rfl

theorem filters_subset_addFilter (id : ℕ) (filter : String) (session : Session) :
    session.filters ⊆ (addFilter id filter session).filters := by
  unfold addFilter
  split
  · exact List.subset_append_left ..
  · exact List.Subset.refl _

theorem mem_filters_addFilter (filter : String) (session : Session) :
    filter ∈ (addFilter session.id filter session).filters := by
  unfold addFilter
  split
  · exact List.mem_append_right _ (List.mem_singleton_self filter)
  · next h => simpa using h

/-- A subscription that succeeds adds the filter to the endpoint's session, and one that fails
    changes nothing. -/
theorem subscribe_cases (hub : Hub) (endpoint : ℕ) (filter : String) :
    (∃ id, hub.connection endpoint = some id ∧ hub.hasSession id = true ∧
      hub.subscribe endpoint filter =
        ({ hub with sessions := hub.sessions.map (addFilter id filter) }, .ok ())) ∨
    hub.isConnected endpoint = false ∧
      ∃ e, hub.subscribe endpoint filter = (hub, .error e) := by
  unfold subscribe isConnected
  cases connection : hub.connection endpoint with
  | none => exact .inr ⟨rfl, _, rfl⟩
  | some id =>
    cases there : hub.hasSession id with
    | true => exact .inl ⟨id, rfl, there, if_pos there⟩
    | false => exact .inr ⟨there, _, if_neg (by simp [there])⟩

theorem isConnected_subscribe (hub : Hub) (endpoint : ℕ) (filter : String) (other : ℕ) :
    (hub.subscribe endpoint filter).1.isConnected other = hub.isConnected other := by
  rcases hub.subscribe_cases endpoint filter with ⟨id, -, -, eq⟩ | ⟨-, e, eq⟩
  · have open_ (n : ℕ) : ({ hub with sessions := hub.sessions.map (addFilter id filter) } :
        Hub).hasSession n = hub.hasSession n := by
      simp [hasSession, Function.comp_def]
    rw [eq, isConnected, isConnected, funext open_]
  · rw [eq]

theorem mailboxes_subscribe (hub : Hub) (endpoint : ℕ) (filter : String) :
    (hub.subscribe endpoint filter).1.mailboxes = hub.mailboxes := by
  rcases hub.subscribe_cases endpoint filter with ⟨id, -, -, eq⟩ | ⟨-, e, eq⟩ <;> rw [eq]

/-- A publication that succeeds is put into mailboxes, and one that fails changes nothing. -/
theorem publish_cases (hub : Hub) (endpoint : ℕ) (topic : String) (payload : Bytes) :
    hub.isConnected endpoint = true ∧ hub.publish endpoint topic payload =
        (hub.post (hub.reached topic) ⟨topic, payload⟩, .ok (hub.reached topic)) ∨
    hub.isConnected endpoint = false ∧
      ∃ e, hub.publish endpoint topic payload = (hub, .error e) := by
  unfold publish isConnected
  cases connection : hub.connection endpoint with
  | none => exact .inr ⟨rfl, _, rfl⟩
  | some id =>
    cases there : hub.hasSession id with
    | true => exact .inl ⟨there, if_pos there⟩
    | false => exact .inr ⟨there, _, if_neg (by simp [there])⟩

/-- A delivery changes the queue of a mailbox, if anything. -/
theorem deliver_cases (hub : Hub) (session : ℕ) :
    (hub.deliver session).1 = hub ∨ ∃ rest, (hub.deliver session).1 =
      { hub with mailboxes := hub.mailboxes.map fun box =>
          if box.session = session then { box with queue := rest } else box } := by
  unfold deliver
  split
  · exact .inr ⟨_, rfl⟩
  · exact .inl rfl

/-- A hub with a session that no endpoint remembers yet. -/
def opened (hub : Hub) (endpoint : ℕ) (clientName : String) : Hub :=
  { hub with
    lastId := hub.lastId + 1
    sessions := hub.sessions ++ [⟨hub.lastId + 1, clientName, []⟩]
    mailboxes := hub.mailboxes ++ [⟨hub.lastId + 1, endpoint, []⟩] }

/-- An endpoint that connects gets a new session in place of its previous one, unless the hub
    refuses it. -/
theorem connect_cases (hub : Hub) (endpoint : ℕ) (clientName : String) :
    hub.connect endpoint clientName =
        ((hub.opened endpoint clientName).replace endpoint (some (hub.lastId + 1)),
          .ok (hub.lastId + 1)) ∨
      hub.connect endpoint clientName = (hub, .error (.connect refusal)) := by
  unfold connect
  by_cases online : hub.online = true
  · exact .inl (if_neg (by simp [online]))
  · exact .inr (if_pos (by simp [online]))

/-- What an operation that opens and closes no session does to a hub, and one that drops them. -/
structure Keeps (hub hub' : Hub) : Prop where
  lastId : hub'.lastId = hub.lastId
  connection : hub'.connection = hub.connection
  ids : (hub'.sessions.map Session.id).Sublist (hub.sessions.map Session.id)
  filters : ∀ session ∈ hub'.sessions, ∃ old ∈ hub.sessions,
    old.id = session.id ∧ old.filters ⊆ session.filters
  boxes : hub'.mailboxes.map (fun box => (box.session, box.endpoint)) =
    hub.mailboxes.map fun box => (box.session, box.endpoint)

theorem Keeps.refl (hub : Hub) : hub.Keeps hub :=
  ⟨rfl, rfl, List.Sublist.refl _, fun session mem => ⟨session, mem, rfl, List.Subset.refl _⟩, rfl⟩

theorem keeps_mapMailboxes (hub : Hub) {f : Mailbox → Mailbox}
    (same : ∀ box, (f box).session = box.session ∧ (f box).endpoint = box.endpoint) :
    hub.Keeps { hub with mailboxes := hub.mailboxes.map f } := by
  refine ⟨rfl, rfl, List.Sublist.refl _, (Keeps.refl hub).filters, ?_⟩
  rw [List.map_map]
  exact List.map_congr_left fun box _ => Prod.ext (same box).1 (same box).2

theorem keeps_subscribe (hub : Hub) (endpoint : ℕ) (filter : String) :
    hub.Keeps (hub.subscribe endpoint filter).1 := by
  rcases hub.subscribe_cases endpoint filter with ⟨id, -, -, eq⟩ | ⟨-, e, eq⟩
  · rw [eq]
    refine ⟨rfl, rfl, ?_, fun session mem => ?_, rfl⟩
    · rw [List.map_map, show Session.id ∘ addFilter id filter = Session.id from
        funext (id_addFilter id filter)]
    · obtain ⟨old, memOld, rfl⟩ := List.mem_map.1 mem
      exact ⟨old, memOld, (id_addFilter ..).symm, filters_subset_addFilter ..⟩
  · rw [eq]
    exact Keeps.refl hub

theorem keeps_publish (hub : Hub) (endpoint : ℕ) (topic : String) (payload : Bytes) :
    hub.Keeps (hub.publish endpoint topic payload).1 := by
  rcases hub.publish_cases endpoint topic payload with ⟨-, eq⟩ | ⟨-, e, eq⟩
  · rw [eq]
    refine hub.keeps_mapMailboxes fun box => ?_
    split <;> exact ⟨rfl, rfl⟩
  · rw [eq]
    exact Keeps.refl hub

theorem keeps_deliver (hub : Hub) (session : ℕ) : hub.Keeps (hub.deliver session).1 := by
  rcases hub.deliver_cases session with eq | ⟨rest, eq⟩
  · rw [eq]
    exact Keeps.refl hub
  · rw [eq]
    refine hub.keeps_mapMailboxes fun box => ?_
    split <;> exact ⟨rfl, rfl⟩

/-- What an operation does. -/
theorem apply_cases (hub : Hub) (op : Operation) :
    hub.Keeps (hub.apply op) ∨
      (∃ endpoint, op = .close endpoint ∧ hub.apply op = hub.replace endpoint none) ∨
      ∃ endpoint clientName, op = .connect endpoint clientName ∧
        hub.apply op =
          (hub.opened endpoint clientName).replace endpoint (some (hub.lastId + 1)) := by
  cases op with
  | connect endpoint clientName =>
    rcases hub.connect_cases endpoint clientName with eq | eq
    · exact .inr (.inr ⟨endpoint, clientName, rfl, congrArg Prod.fst eq⟩)
    · refine .inl ?_
      rw [apply, eq]
      exact Keeps.refl hub
  | close endpoint => exact .inr (.inl ⟨endpoint, rfl, rfl⟩)
  | subscribe endpoint filter => exact .inl (hub.keeps_subscribe endpoint filter)
  | publish endpoint topic payload => exact .inl (hub.keeps_publish endpoint topic payload)
  | deliver session => exact .inl (hub.keeps_deliver session)
  | setOnline online => exact .inl ⟨rfl, rfl, List.Sublist.refl _, (Keeps.refl hub).filters, rfl⟩
  | restart => exact .inl ⟨rfl, rfl, List.nil_sublist _, nofun, rfl⟩

theorem lastId_le_apply (hub : Hub) (op : Operation) : hub.lastId ≤ (hub.apply op).lastId := by
  rcases hub.apply_cases op with keeps | ⟨_, -, eq⟩ | ⟨_, _, -, eq⟩
  · exact Nat.le_of_eq keeps.lastId.symm
  · exact Nat.le_of_eq (by rw [eq, lastId_replace])
  · rw [eq, lastId_replace]
    exact Nat.le_succ _

/-- A session that is there after an operation was there before with no more filters, or it was
    opened. -/
theorem exists_session_of_apply {op : Operation} {session : Session}
    (mem : session ∈ (hub.apply op).sessions) :
    (∃ old ∈ hub.sessions, old.id = session.id ∧ old.filters ⊆ session.filters) ∨
      session.id = hub.lastId + 1 := by
  rcases hub.apply_cases op with keeps | ⟨_, -, eq⟩ | ⟨_, _, -, eq⟩
  · exact .inl (keeps.filters session mem)
  · rw [eq] at mem
    exact .inl ((Keeps.refl hub).filters session (mem_replace.1 mem).1)
  · rw [eq] at mem
    rcases List.mem_append.1 (mem_replace.1 mem).1 with old | new
    · exact .inl ((Keeps.refl hub).filters session old)
    · cases List.mem_singleton.1 new
      exact .inr rfl

/-- What an endpoint remembers after an operation it remembered before, or it has just connected. -/
theorem connection_of_apply {op : Operation} {endpoint id : ℕ}
    (remembers : (hub.apply op).connection endpoint = some id) :
    hub.connection endpoint = some id ∨
      id = hub.lastId + 1 ∧ ∃ clientName, op = .connect endpoint clientName := by
  rcases hub.apply_cases op with keeps | ⟨other, -, eq⟩ | ⟨other, clientName, connects, eq⟩
  · exact .inl (keeps.connection ▸ remembers)
  · rw [eq, connection_replace] at remembers
    split at remembers
    · cases remembers
    · exact .inl remembers
  · rw [eq, connection_replace] at remembers
    split at remembers
    · next same =>
      cases remembers
      exact .inr ⟨rfl, clientName, same ▸ connects⟩
    · exact .inl remembers

/-! ## Sound hubs -/

theorem Sound.keeps {hub' : Hub} (h : hub.Sound) (keeps : hub.Keeps hub') : hub'.Sound := by
  refine ⟨⟨h.ids_nodup.sublist keeps.ids, fun session mem => ?_, fun {endpoint id} eq => ?_,
    fun box mem => ?_, fun {e e' id} eq eq' => ?_, ?_⟩, fun session mem => ?_⟩
  · obtain ⟨old, memOld, same, -⟩ := keeps.filters session mem
    rw [keeps.lastId, ← same]
    exact h.opened old memOld
  · rw [keeps.lastId]
    exact h.remembered (keeps.connection ▸ eq)
  · have both : (box.session, box.endpoint) ∈ _ := keeps.boxes ▸ List.mem_map_of_mem mem
    obtain ⟨old, memOld, same⟩ := List.mem_map.1 both
    rw [Prod.mk.injEq] at same
    rw [keeps.lastId, ← same.1]
    exact h.posted old memOld
  · rw [keeps.connection] at eq eq'
    exact h.apart eq eq'
  · have sessions := congrArg (List.map Prod.fst) keeps.boxes
    rw [List.map_map, List.map_map] at sessions
    exact sessions ▸ h.boxes_nodup
  · obtain ⟨old, memOld, same, -⟩ := keeps.filters session mem
    obtain ⟨box, memBox, sameBox, owner⟩ := h.boxed old memOld
    have both : (box.session, box.endpoint) ∈ _ := keeps.boxes ▸ List.mem_map_of_mem memBox
    obtain ⟨new, memNew, eq⟩ := List.mem_map.1 both
    rw [Prod.mk.injEq] at eq
    refine ⟨new, memNew, eq.1.trans (sameBox.trans same), ?_⟩
    rw [eq.2, keeps.connection, owner, same]

/-- An endpoint comes to remember another session, which no endpoint remembered. -/
theorem Numbered.replace (h : hub.Numbered) (endpoint : ℕ) {id : Option ℕ}
    (le : ∀ {n}, id = some n → n ≤ hub.lastId)
    (new : ∀ {n other}, id = some n → hub.connection other ≠ some n) :
    (hub.replace endpoint id).Numbered := by
  refine ⟨h.ids_nodup.sublist ((hub.sublist_replace endpoint id).map _), fun session mem => ?_,
    fun {e n} eq => ?_, fun box mem => ?_, fun {e e' n} eq eq' => ?_, ?_⟩
  · rw [lastId_replace]
    exact h.opened session (mem_replace.1 mem).1
  · rw [connection_replace] at eq
    rw [lastId_replace]
    split at eq
    · exact le eq
    · exact h.remembered eq
  · rw [mailboxes_replace] at mem
    rw [lastId_replace]
    exact h.posted box mem
  · rw [connection_replace] at eq eq'
    split at eq <;> split at eq'
    · next same same' => exact same.trans same'.symm
    · exact absurd eq' (new eq)
    · exact absurd eq (new eq')
    · exact h.apart eq eq'
  · rw [mailboxes_replace]
    exact h.boxes_nodup

theorem Sound.close (h : hub.Sound) (endpoint : ℕ) : (hub.close endpoint).Sound := by
  refine ⟨h.toNumbered.replace endpoint nofun nofun, fun session mem => ?_⟩
  obtain ⟨mem, kept⟩ := mem_replace.1 mem
  obtain ⟨box, memBox, same, owner⟩ := h.boxed session mem
  have ne : box.endpoint ≠ endpoint := by
    rintro rfl
    exact kept owner
  refine ⟨box, (mailboxes_replace ..).symm ▸ memBox, same, ?_⟩
  exact (connection_replace ..).trans ((if_neg ne).trans owner)

/-- The identifier of a session that is opened is remembered by no endpoint. -/
theorem Numbered.fresh (h : hub.Numbered) (endpoint : ℕ) :
    hub.connection endpoint ≠ some (hub.lastId + 1) :=
  fun remembers => absurd (h.remembered remembers) (Nat.not_succ_le_self _)

theorem numbered_opened (h : hub.Numbered) (endpoint : ℕ) (clientName : String) :
    (hub.opened endpoint clientName).Numbered := by
  have last {ids : List ℕ} (nodup : ids.Nodup) (le : ∀ id ∈ ids, id ≤ hub.lastId) :
      (ids ++ [hub.lastId + 1]).Nodup := by
    refine List.nodup_append.2 ⟨nodup, List.nodup_singleton _, fun id mem other memOther => ?_⟩
    rw [List.mem_singleton.1 memOther]
    exact Nat.ne_of_lt (Nat.lt_succ_of_le (le id mem))
  refine ⟨?_, fun session mem => ?_, fun eq => Nat.le_succ_of_le (h.remembered eq),
    fun box mem => ?_, h.apart, ?_⟩
  · rw [Hub.opened, List.map_append]
    exact last h.ids_nodup (List.forall_mem_map.2 h.opened)
  · rcases List.mem_append.1 mem with old | new
    · exact Nat.le_succ_of_le (h.opened session old)
    · rw [List.mem_singleton.1 new]
      exact Nat.le_refl _
  · rcases List.mem_append.1 mem with old | new
    · exact Nat.le_succ_of_le (h.posted box old)
    · rw [List.mem_singleton.1 new]
      exact Nat.le_refl _
  · rw [Hub.opened, List.map_append]
    exact last h.boxes_nodup (List.forall_mem_map.2 h.posted)

theorem Sound.connect (h : hub.Sound) (endpoint : ℕ) (clientName : String) :
    ((hub.opened endpoint clientName).replace endpoint (some (hub.lastId + 1))).Sound := by
  refine ⟨(numbered_opened h.toNumbered endpoint clientName).replace endpoint ?_ ?_,
    fun session mem => ?_⟩
  · rintro n ⟨⟩
    exact Nat.le_refl _
  · rintro n other ⟨⟩
    exact h.fresh other
  · obtain ⟨mem, kept⟩ := mem_replace.1 mem
    rw [mailboxes_replace]
    rcases List.mem_append.1 mem with old | new
    · obtain ⟨box, memBox, same, owner⟩ := h.boxed session old
      have ne : box.endpoint ≠ endpoint := by
        rintro rfl
        exact kept owner
      refine ⟨box, List.mem_append_left _ memBox, same, ?_⟩
      rw [connection_replace, if_neg ne]
      exact owner
    · cases List.mem_singleton.1 new
      refine ⟨⟨hub.lastId + 1, endpoint, []⟩, List.mem_append_right _ (List.mem_singleton_self _),
        rfl, ?_⟩
      rw [connection_replace, if_pos rfl]

theorem sound_apply (h : hub.Sound) (op : Operation) : (hub.apply op).Sound := by
  rcases hub.apply_cases op with keeps | ⟨endpoint, -, eq⟩ | ⟨endpoint, clientName, -, eq⟩
  · exact h.keeps keeps
  · rw [eq]
    exact h.close endpoint
  · rw [eq]
    exact h.connect endpoint clientName

theorem sound_run (h : hub.Sound) (ops : List Operation) : (hub.run ops).Sound := by
  induction ops using List.reverseRecOn with
  | nil => exact h
  | append_singleton ops op ih =>
    rw [run_concat]
    exact sound_apply ih op

/-! ## The session of an endpoint -/

theorem Numbered.session?_eq_some (h : hub.Numbered) {endpoint : ℕ} {session : Session} :
    hub.session? endpoint = some session ↔
      hub.connection endpoint = some session.id ∧ session ∈ hub.sessions := by
  unfold session?
  rw [Option.bind_eq_some_iff]
  constructor
  · rintro ⟨id, remembers, found⟩
    have same : session.id = id := by simpa using List.find?_some found
    exact ⟨same ▸ remembers, List.mem_of_find?_eq_some found⟩
  · rintro ⟨remembers, mem⟩
    refine ⟨session.id, remembers, ?_⟩
    cases found : hub.sessions.find? (·.id == session.id) with
    | none => exact absurd (List.find?_eq_none.1 found session mem) (by simp)
    | some other =>
      have same : other.id = session.id := by simpa using List.find?_some found
      rw [List.inj_on_of_nodup_map h.ids_nodup (List.mem_of_find?_eq_some found) mem same]

theorem isSome_session? (hub : Hub) (endpoint : ℕ) :
    (hub.session? endpoint).isSome = hub.isConnected endpoint := by
  unfold session? isConnected hasSession
  cases hub.connection endpoint with
  | none => rfl
  | some id =>
    rw [Option.bind_some, Option.any_some, Bool.eq_iff_iff, List.find?_isSome, List.any_eq_true]

/-- A publication concerns no session. -/
theorem session?_publish (hub : Hub) (endpoint : ℕ) (topic : String) (payload : Bytes)
    (other : ℕ) : (hub.publish endpoint topic payload).1.session? other = hub.session? other := by
  rcases hub.publish_cases endpoint topic payload with ⟨-, eq⟩ | ⟨-, e, eq⟩ <;> rw [eq]
  rfl

/-- An endpoint that does not connect goes on with the session that it has, if that is still
    open. -/
theorem Sound.session?_of_apply (h : hub.Sound) {op : Operation} {endpoint : ℕ} {session : Session}
    (after : (hub.apply op).session? endpoint = some session)
    (other : ∀ clientName, op ≠ .connect endpoint clientName) :
    ∃ old, hub.session? endpoint = some old ∧ old.id = session.id ∧
      old.filters ⊆ session.filters := by
  obtain ⟨remembers, mem⟩ := (sound_apply h op).session?_eq_some.1 after
  rcases connection_of_apply remembers with remembers | ⟨-, clientName, eq⟩
  · rcases exists_session_of_apply mem with ⟨old, memOld, same, filters⟩ | new
    · exact ⟨old, h.session?_eq_some.2 ⟨same ▸ remembers, memOld⟩, same, filters⟩
    · exact absurd (new ▸ remembers) (h.fresh endpoint)
  · exact absurd eq (other clientName)

/-- A session that is still open is still the one of its endpoint. -/
theorem Sound.session?_apply (h : hub.Sound) {op : Operation} {endpoint : ℕ} {session : Session}
    (before : hub.session? endpoint = some session)
    (open_ : (hub.apply op).hasSession session.id = true) :
    ∃ new, (hub.apply op).session? endpoint = some new ∧ new.id = session.id ∧
      session.filters ⊆ new.filters := by
  obtain ⟨remembers, mem⟩ := h.session?_eq_some.1 before
  obtain ⟨new, memNew, same⟩ := hasSession_iff.1 open_
  have ne : new.id ≠ hub.lastId + 1 := by
    rw [same]
    exact Nat.ne_of_lt (Nat.lt_succ_of_le (h.opened session mem))
  -- whoever remembers the session now remembered it before, and that is this endpoint only
  obtain ⟨box, -, -, owner⟩ := (sound_apply h op).boxed new memNew
  rcases connection_of_apply owner with was | ⟨eq, -⟩
  · obtain rfl := h.apart (same ▸ was) remembers
    rcases exists_session_of_apply memNew with ⟨old, memOld, sameOld, filters⟩ | eq
    · obtain rfl := List.inj_on_of_nodup_map h.ids_nodup memOld mem (sameOld.trans same)
      exact ⟨new, (sound_apply h op).session?_eq_some.2 ⟨owner, memNew⟩, same, filters⟩
    · exact absurd eq ne
  · exact absurd eq ne

/-- A session that is open after an operation was open before it, or has just been opened. -/
theorem hasSession_of_apply {op : Operation} {id : ℕ} (open_ : (hub.apply op).hasSession id = true)
    (le : id ≤ hub.lastId) : hub.hasSession id = true := by
  obtain ⟨session, mem, rfl⟩ := hasSession_iff.1 open_
  rcases exists_session_of_apply mem with ⟨old, memOld, same, -⟩ | new
  · exact hasSession_iff.2 ⟨old, memOld, same⟩
  · exact absurd (new ▸ le) (Nat.not_succ_le_self _)

theorem lastId_le_run (hub : Hub) (ops : List Operation) : hub.lastId ≤ (hub.run ops).lastId := by
  induction ops using List.reverseRecOn with
  | nil => exact Nat.le_refl _
  | append_singleton ops op ih =>
    rw [run_concat]
    exact Nat.le_trans ih (lastId_le_apply ..)

/-- A session that is open after some operations was so before, if it was opened before. -/
theorem hasSession_of_run {ops : List Operation} {id : ℕ}
    (open_ : (hub.run ops).hasSession id = true) (le : id ≤ hub.lastId) :
    hub.hasSession id = true := by
  induction ops using List.reverseRecOn with
  | nil => exact open_
  | append_singleton ops op ih =>
    rw [run_concat] at open_
    exact ih (hasSession_of_apply open_ (Nat.le_trans le (lastId_le_run hub ops)))

/-- A session that is still open after some operations is still the one of its endpoint, and has
    lost no filter. -/
theorem Sound.session?_run (h : hub.Sound) {endpoint : ℕ} {session : Session}
    (before : hub.session? endpoint = some session) (ops : List Operation)
    (open_ : (hub.run ops).hasSession session.id = true) :
    ∃ new, (hub.run ops).session? endpoint = some new ∧ new.id = session.id ∧
      session.filters ⊆ new.filters := by
  induction ops using List.reverseRecOn with
  | nil => exact ⟨session, before, rfl, List.Subset.refl _⟩
  | append_singleton ops op ih =>
    rw [run_concat] at open_ ⊢
    have le : session.id ≤ (hub.run ops).lastId :=
      Nat.le_trans (h.opened session (h.session?_eq_some.1 before).2) (lastId_le_run hub ops)
    obtain ⟨new, there, same, filters⟩ := ih (hasSession_of_apply open_ le)
    obtain ⟨newer, after, same', filters'⟩ := (sound_run h ops).session?_apply there (same ▸ open_)
    exact ⟨newer, after, same'.trans same, List.Subset.trans filters filters'⟩

/-- An endpoint that subscribes has the filter in its session, if it has a session. -/
theorem Sound.mem_filters_subscribe (h : hub.Sound) {endpoint : ℕ} {filter : String}
    {session : Session}
    (after : (hub.subscribe endpoint filter).1.session? endpoint = some session) :
    filter ∈ session.filters := by
  have sound : (hub.subscribe endpoint filter).1.Sound := sound_apply h (.subscribe endpoint filter)
  obtain ⟨remembers, mem⟩ := sound.session?_eq_some.1 after
  rcases hub.subscribe_cases endpoint filter with ⟨id, connection, -, eq⟩ | ⟨off, e, eq⟩
  · rw [eq] at remembers mem
    obtain ⟨old, -, rfl⟩ := List.mem_map.1 mem
    rw [id_addFilter] at remembers
    cases connection.symm.trans remembers
    exact mem_filters_addFilter filter old
  · rw [eq] at after
    rw [← isSome_session?, after] at off
    cases off

/-! ## What a session hears -/

/-- Whether all that is published on a topic is put into the mailbox of a session, for an
    endpoint. -/
def Hears (hub : Hub) (endpoint id : ℕ) (topic : String) : Prop :=
  ∀ publisher payload hub' reached,
    hub.publish publisher topic payload = (hub', .ok reached) →
      ∃ box, hub.mailbox? id = some box ∧ box.endpoint = endpoint ∧
        hub'.mailbox? id = some { box with queue := box.queue ++ [⟨topic, payload⟩] }

theorem Numbered.mailbox?_of_mem (h : hub.Numbered) {box : Mailbox} (mem : box ∈ hub.mailboxes) :
    hub.mailbox? box.session = some box := by
  unfold mailbox?
  cases found : hub.mailboxes.find? (·.session == box.session) with
  | none => exact absurd (List.find?_eq_none.1 found box mem) (by simp)
  | some other =>
    have same : other.session = box.session := by simpa using List.find?_some found
    rw [List.inj_on_of_nodup_map h.boxes_nodup (List.mem_of_find?_eq_some found) mem same]

/-- What is published on a topic is put into the mailbox of a session that has it among its
    filters, if the topic selects itself. -/
theorem Sound.hears (h : hub.Sound) {endpoint : ℕ} {session : Session}
    (here : hub.session? endpoint = some session) {topic : String} (mem : topic ∈ session.filters)
    (selects : Topic.selects topic topic = true) : hub.Hears endpoint session.id topic := by
  intro publisher payload hub' reached published
  obtain ⟨remembers, memSession⟩ := h.session?_eq_some.1 here
  obtain ⟨box, memBox, same, owner⟩ := h.boxed session memSession
  refine ⟨box, same ▸ h.mailbox?_of_mem memBox, h.apart owner remembers, ?_⟩
  have sound : hub'.Sound := by
    have applied := sound_apply h (.publish publisher topic payload)
    rwa [apply, published] at applied
  rcases hub.publish_cases publisher topic payload with ⟨-, eq⟩ | ⟨-, e, eq⟩
  · cases published.symm.trans eq
    have reaches : box.session ∈ hub.reached topic := by
      rw [same]
      refine List.mem_map_of_mem (List.mem_filter.2 ⟨memSession, ?_⟩)
      exact List.any_eq_true.2 ⟨topic, mem, selects⟩
    rw [← same]
    have memPosted : ({ box with queue := box.queue ++ [⟨topic, payload⟩] } : Mailbox) ∈
        (hub.post (hub.reached topic) ⟨topic, payload⟩).mailboxes :=
      List.mem_map.2 ⟨box, memBox, if_pos reaches⟩
    exact sound.mailbox?_of_mem memPosted
  · cases published.symm.trans eq

/-- From its subscription on, a session hears a topic that selects itself for as long as it is
    open. -/
theorem Sound.hears_run (h : hub.Sound) {endpoint : ℕ} {session : Session}
    (here : hub.session? endpoint = some session) {topic : String} (mem : topic ∈ session.filters)
    (selects : Topic.selects topic topic = true) (ops : List Operation)
    (open_ : (hub.run ops).hasSession session.id = true) :
    (hub.run ops).Hears endpoint session.id topic := by
  obtain ⟨new, there, same, filters⟩ := h.session?_run here ops open_
  rw [← same]
  exact (sound_run h ops).hears there (filters mem) selects

end HomeBus.Hub
