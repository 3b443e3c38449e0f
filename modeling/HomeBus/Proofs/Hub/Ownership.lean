import HomeBus.Proofs.Hub.Sessions

/-!
# Whom a session belongs to

A session belongs to the endpoint that opened it, and that endpoint remembers it for as long as it
is open. Identifiers are counted up from 1 and never given out again, so an identifier that an endpoint
still remembers after its session was dropped names no other session later. What an endpoint does
therefore concerns its own session and nobody else's.

Results:
* `openings_run`, `lastId_run`: the identifiers that a run gives out.
* `Sound.connection_of_box`: who opened a session remembers it.
* `Sound.mem_sessions_apply_iff`: an operation of one endpoint leaves the sessions of the others.
* `sessions_belong_to_their_endpoints`: what holds of sessions and their endpoints after every run.
-/

namespace HomeBus.Hub

variable {hub : Hub} {endpoint other id : ℕ} {op : Operation}

/-! ## Histories -/

/-- The endpoint that an operation is one of. -/
def Operation.actor? : Operation → Option ℕ
  | .connect endpoint _ | .close endpoint | .subscribe endpoint _ | .publish endpoint _ _ =>
    some endpoint
  | .deliver _ | .setOnline _ | .restart => none

def Operation.isConnect : Operation → Bool
  | .connect _ _ => true
  | _ => false

/-- The session that an operation opens, with the endpoint that opens it. -/
def opening? (hub : Hub) : Operation → Option (ℕ × ℕ)
  | .connect endpoint clientName =>
    match (hub.connect endpoint clientName).2 with
    | .ok id => some (id, endpoint)
    | .error _ => none
  | _ => none

/-- The sessions that are opened in a run, in order, each with the endpoint that opens it. -/
def openings (hub : Hub) : List Operation → List (ℕ × ℕ)
  | [] => []
  | op :: ops => (hub.opening? op).toList ++ (hub.apply op).openings ops

/-- The sessions that have mailboxes, each with its endpoint. -/
def owners (hub : Hub) : List (ℕ × ℕ) := hub.mailboxes.map fun box => (box.session, box.endpoint)

/-! ## Identifiers -/

/-- An operation opens no session, or the one with the next identifier, which it gives a mailbox. -/
theorem opening?_cases (hub : Hub) (op : Operation) :
    (hub.opening? op = none ∧ (hub.apply op).lastId = hub.lastId ∧
      (hub.apply op).owners = hub.owners) ∨
    ∃ endpoint clientName, op = .connect endpoint clientName ∧
      hub.opening? op = some (hub.lastId + 1, endpoint) ∧
      (hub.apply op).lastId = hub.lastId + 1 ∧
      (hub.apply op).owners = hub.owners ++ [(hub.lastId + 1, endpoint)] := by
  cases op with
  | connect endpoint clientName =>
    rcases hub.connect_cases endpoint clientName with eq | eq
    · refine .inr ⟨endpoint, clientName, rfl, ?_, ?_, ?_⟩
      · rw [opening?, eq]
      · rw [apply, eq, lastId_replace]
        rfl
      · rw [apply, eq, owners, mailboxes_replace, opened, List.map_append]
        rfl
    · refine .inl ⟨?_, ?_, ?_⟩
      · rw [opening?, eq]
      · rw [apply, eq]
      · rw [apply, eq]
  | close endpoint =>
    refine .inl ⟨rfl, lastId_replace .., ?_⟩
    rw [owners, owners, ← mailboxes_replace hub endpoint none]
    rfl
  | subscribe endpoint filter =>
    have keeps := hub.keeps_subscribe endpoint filter
    exact .inl ⟨rfl, keeps.lastId, keeps.boxes⟩
  | publish endpoint topic payload =>
    have keeps := hub.keeps_publish endpoint topic payload
    exact .inl ⟨rfl, keeps.lastId, keeps.boxes⟩
  | deliver session =>
    have keeps := hub.keeps_deliver session
    exact .inl ⟨rfl, keeps.lastId, keeps.boxes⟩
  | setOnline online => exact .inl ⟨rfl, rfl, rfl⟩
  | restart => exact .inl ⟨rfl, rfl, rfl⟩

/-- The last identifier counts the sessions that were opened. -/
theorem lastId_run (hub : Hub) (ops : List Operation) :
    (hub.run ops).lastId = hub.lastId + (hub.openings ops).length := by
  induction ops generalizing hub with
  | nil => rfl
  | cons op ops ih =>
    have rest : (hub.run (op :: ops)).lastId =
        (hub.apply op).lastId + ((hub.apply op).openings ops).length := ih (hub.apply op)
    rw [rest, openings, List.length_append]
    rcases hub.opening?_cases op with ⟨none_, last, -⟩ | ⟨_, _, -, some_, last, -⟩
    · rw [none_, last, Option.toList_none, List.length_nil, Nat.zero_add]
    · rw [some_, last, Option.toList_some, List.length_singleton, Nat.add_assoc]

/-- Identifiers are given out one after the other. -/
theorem map_fst_openings (hub : Hub) (ops : List Operation) :
    (hub.openings ops).map Prod.fst =
      List.range' (hub.lastId + 1) (hub.openings ops).length := by
  induction ops generalizing hub with
  | nil => rfl
  | cons op ops ih =>
    have rest := ih (hub.apply op)
    rw [openings, List.map_append, rest]
    rcases hub.opening?_cases op with ⟨none_, last, -⟩ | ⟨_, _, -, some_, last, -⟩
    · rw [none_, last]
      rfl
    · rw [some_, last]
      rfl

/-- The mailboxes tell which sessions were opened, and by whom. -/
theorem openings_run (hub : Hub) (ops : List Operation) :
    (hub.run ops).owners = hub.owners ++ hub.openings ops := by
  induction ops generalizing hub with
  | nil => exact (List.append_nil _).symm
  | cons op ops ih =>
    have rest : (hub.run (op :: ops)).owners =
        (hub.apply op).owners ++ (hub.apply op).openings ops := ih (hub.apply op)
    rw [rest, openings]
    rcases hub.opening?_cases op with ⟨none_, -, same⟩ | ⟨_, _, -, some_, -, same⟩
    · rw [none_, same]
      rfl
    · rw [some_, same, List.append_assoc]
      rfl

theorem length_openings_le (hub : Hub) (ops : List Operation) :
    (hub.openings ops).length ≤ ops.countP Operation.isConnect := by
  induction ops generalizing hub with
  | nil => exact Nat.le_refl _
  | cons op ops ih =>
    have rest := ih (hub.apply op)
    rw [openings, List.length_append]
    rcases hub.opening?_cases op with ⟨none_, -⟩ | ⟨_, _, rfl, some_, -⟩
    · rw [none_, Option.toList_none, List.length_nil, Nat.zero_add]
      exact Nat.le_trans rest (List.Sublist.countP_le (List.sublist_cons_self ..))
    · rw [some_, Option.toList_some, List.length_singleton, List.countP_cons_of_pos rfl]
      omega

/-! ## Owners -/

theorem mem_owners : (id, endpoint) ∈ hub.owners ↔
    ∃ box ∈ hub.mailboxes, box.session = id ∧ box.endpoint = endpoint := by
  simp [owners]

/-- Who opened a session that is open remembers it. -/
theorem Sound.connection_of_owner (h : hub.Sound) {session : Session} (mem : session ∈ hub.sessions)
    (owner : (session.id, endpoint) ∈ hub.owners) : hub.connection endpoint = some session.id := by
  obtain ⟨box, memBox, same, remembers⟩ := h.boxed session mem
  obtain ⟨box', memBox', same', rfl⟩ := mem_owners.1 owner
  rw [← List.inj_on_of_nodup_map h.boxes_nodup memBox memBox' (same.trans same'.symm), remembers]

theorem Sound.exists_owner (h : hub.Sound) {session : Session} (mem : session ∈ hub.sessions) :
    ∃ endpoint, (session.id, endpoint) ∈ hub.owners ∧
      hub.connection endpoint = some session.id := by
  obtain ⟨box, memBox, same, remembers⟩ := h.boxed session mem
  exact ⟨box.endpoint, mem_owners.2 ⟨box, memBox, same, rfl⟩, remembers⟩

/-- No other endpoint remembers a session than the one that opened it. -/
theorem Sound.connection_ne_of_owner (h : hub.Sound) {session : Session}
    (mem : session ∈ hub.sessions) (owner : (session.id, other) ∈ hub.owners)
    (ne : other ≠ endpoint) : hub.connection endpoint ≠ some session.id :=
  fun remembers => ne (h.apart (h.connection_of_owner mem owner) remembers)

/-- An endpoint has a session if and only if one is open that it opened. -/
theorem Sound.isConnected_iff_exists (h : hub.Sound) :
    hub.isConnected endpoint = true ↔
      ∃ session ∈ hub.sessions, (session.id, endpoint) ∈ hub.owners := by
  rw [isConnected_iff]
  constructor
  · rintro ⟨_, remembers, there⟩
    obtain ⟨session, mem, rfl⟩ := hasSession_iff.1 there
    obtain ⟨owner, owns, remembersToo⟩ := h.exists_owner mem
    exact ⟨session, mem, h.apart remembersToo remembers ▸ owns⟩
  · rintro ⟨session, mem, owner⟩
    exact ⟨session.id, h.connection_of_owner mem owner, hasSession_iff.2 ⟨session, mem, rfl⟩⟩

/-- An endpoint has one open session at most. -/
theorem Sound.session_unique (h : hub.Sound) {session session' : Session}
    (mem : session ∈ hub.sessions) (mem' : session' ∈ hub.sessions)
    (owner : (session.id, endpoint) ∈ hub.owners) (owner' : (session'.id, endpoint) ∈ hub.owners) :
    session = session' := by
  have same : some session.id = some session'.id :=
    (h.connection_of_owner mem owner).symm.trans (h.connection_of_owner mem' owner')
  exact List.inj_on_of_nodup_map h.ids_nodup mem mem' (Option.some.inj same)

/-! ## What an operation leaves alone -/

/-- An endpoint that comes to remember another session drops no session of another endpoint. -/
theorem Sound.mem_sessions_replace_iff (h : hub.Sound) {session : Session}
    (owner : (session.id, other) ∈ hub.owners) (ne : other ≠ endpoint) (new : Option ℕ) :
    session ∈ (hub.replace endpoint new).sessions ↔ session ∈ hub.sessions := by
  rw [mem_replace, and_iff_left_iff_imp]
  exact fun mem => h.connection_ne_of_owner mem owner ne

/-- A session that is opened is no other one that was opened before. -/
theorem Sound.mem_sessions_opened_iff (h : hub.Sound) {session : Session}
    (owner : (session.id, other) ∈ hub.owners) (endpoint : ℕ) (clientName : String) :
    session ∈ (hub.opened endpoint clientName).sessions ↔ session ∈ hub.sessions := by
  obtain ⟨box, memBox, same, -⟩ := mem_owners.1 owner
  have le : session.id ≤ hub.lastId := same ▸ h.posted box memBox
  rw [opened, List.mem_append, or_iff_left_iff_imp, List.mem_singleton]
  rintro rfl
  exact absurd le (Nat.not_succ_le_self _)

/-- A filter is added to no session of another endpoint. -/
theorem Sound.mem_map_addFilter_iff (h : hub.Sound) {session : Session}
    (owner : (session.id, other) ∈ hub.owners) (ne : other ≠ endpoint)
    (remembers : hub.connection endpoint = some id) (filter : String) :
    session ∈ hub.sessions.map (addFilter id filter) ↔ session ∈ hub.sessions := by
  have untouched {s : Session} (mem : s ∈ hub.sessions) (same : s.id = session.id) :
      addFilter id filter s = s := by
    have away : s.id ≠ id := by
      rintro rfl
      exact h.connection_ne_of_owner mem (same ▸ owner) ne remembers
    rw [addFilter, if_neg (by simp [away])]
  constructor
  · intro mem
    obtain ⟨old, memOld, rfl⟩ := List.mem_map.1 mem
    rwa [untouched memOld (id_addFilter ..).symm]
  · exact fun mem => List.mem_map.2 ⟨session, mem, untouched mem rfl⟩

/-- What an endpoint does opens, closes and changes no session of another endpoint. -/
theorem Sound.mem_sessions_apply_iff (h : hub.Sound) (actor : op.actor? = some endpoint)
    (ne : other ≠ endpoint) {session : Session} (owner : (session.id, other) ∈ hub.owners) :
    session ∈ (hub.apply op).sessions ↔ session ∈ hub.sessions := by
  cases op with
  | connect _ clientName =>
    cases actor
    rcases hub.connect_cases endpoint clientName with eq | eq
    · rw [apply, eq, mem_replace, h.mem_sessions_opened_iff owner, and_iff_left_iff_imp]
      exact fun mem => h.connection_ne_of_owner mem owner ne
    · rw [apply, eq]
  | close =>
    cases actor
    exact h.mem_sessions_replace_iff owner ne none
  | subscribe _ filter =>
    cases actor
    rcases hub.subscribe_cases endpoint filter with ⟨id, remembers, -, eq⟩ | ⟨-, e, eq⟩
    · rw [apply, eq]
      exact h.mem_map_addFilter_iff owner ne remembers filter
    · rw [apply, eq]
  | publish _ topic payload =>
    cases actor
    rcases hub.publish_cases endpoint topic payload with ⟨-, eq⟩ | ⟨-, e, eq⟩
    · rw [apply, eq]
      rfl
    · rw [apply, eq]
  | deliver | setOnline | restart => cases actor

/-- What an endpoint does changes what no other endpoint remembers. -/
theorem connection_apply_of_ne (hub : Hub) (actor : op.actor? = some endpoint)
    (ne : other ≠ endpoint) : (hub.apply op).connection other = hub.connection other := by
  rcases hub.apply_cases op with keeps | ⟨_, rfl, eq⟩ | ⟨_, _, rfl, eq⟩
  · rw [keeps.connection]
  · cases actor
    rw [eq, connection_replace, if_neg ne]
  · cases actor
    rw [eq, connection_replace, if_neg ne]
    rfl

/-! ## Who may do what -/

/-- A subscription succeeds where there is a session, and changes nothing elsewhere. -/
theorem subscribe_succeeds_iff (hub : Hub) (endpoint : ℕ) (filter : String) :
    ((hub.subscribe endpoint filter).2 = .ok () ↔ hub.isConnected endpoint = true) ∧
      (hub.isConnected endpoint = false → (hub.subscribe endpoint filter).1 = hub) := by
  rcases hub.subscribe_cases endpoint filter with ⟨id, remembers, there, eq⟩ | ⟨off, e, eq⟩
  · have on : hub.isConnected endpoint = true := isConnected_iff.2 ⟨id, remembers, there⟩
    simp [eq, on]
  · simp [eq, off]

/-- A publication succeeds where there is a session, and changes nothing elsewhere. -/
theorem publish_succeeds_iff (hub : Hub) (endpoint : ℕ) (topic : String) (payload : Bytes) :
    ((∃ reached, (hub.publish endpoint topic payload).2 = .ok reached) ↔
        hub.isConnected endpoint = true) ∧
      (hub.isConnected endpoint = false → (hub.publish endpoint topic payload).1 = hub) := by
  rcases hub.publish_cases endpoint topic payload with ⟨on, eq⟩ | ⟨off, e, eq⟩
  · simp [eq, on]
  · simp [eq, off]

/-- A connection that is refused changes nothing. -/
theorem connect_of_offline (off : hub.online = false) (endpoint : ℕ) (clientName : String) :
    hub.connect endpoint clientName = (hub, .error (.connect refusal)) := by
  rw [connect, off]
  rfl

/--
After every run: the sessions that are open have different identifiers, none above the last one. The
identifiers are given out one after the other from 1 on, so that none is given out twice, and no more
of them than connections were asked for, so that 64 bits hold them for fewer than 2^64 connections.
No two endpoints remember one session. An open session is remembered by the endpoint that opened it,
and an endpoint has one open session at most. An endpoint subscribes and publishes with success
exactly when it is connected, that is, when a session is open that it opened, and otherwise changes
nothing. A connection that is refused changes nothing. What an endpoint does leaves every session
that another one ever opened as it is, open with its filters or closed, and what the other one
remembers.
-/
theorem sessions_belong_to_their_endpoints (ops : List Operation) :
    let hub := new.run ops
    let opened := new.openings ops
    (hub.sessions.map Session.id).Nodup ∧
    (∀ session ∈ hub.sessions, session.id ≤ hub.lastId) ∧
    opened.map Prod.fst = List.range' 1 hub.lastId ∧
    hub.lastId ≤ ops.countP Operation.isConnect ∧
    (∀ endpoint other id, hub.connection endpoint = some id → hub.connection other = some id →
      endpoint = other) ∧
    (∀ session ∈ hub.sessions, ∃ endpoint, (session.id, endpoint) ∈ opened ∧
      hub.connection endpoint = some session.id) ∧
    (∀ endpoint, ∀ session ∈ hub.sessions, ∀ session' ∈ hub.sessions,
      (session.id, endpoint) ∈ opened → (session'.id, endpoint) ∈ opened → session = session') ∧
    (∀ endpoint, hub.isConnected endpoint = true ↔
      ∃ session ∈ hub.sessions, (session.id, endpoint) ∈ opened) ∧
    (∀ endpoint filter,
      ((hub.subscribe endpoint filter).2 = .ok () ↔ hub.isConnected endpoint = true) ∧
      (hub.isConnected endpoint = false → (hub.subscribe endpoint filter).1 = hub)) ∧
    (∀ endpoint topic payload,
      ((∃ reached, (hub.publish endpoint topic payload).2 = .ok reached) ↔
        hub.isConnected endpoint = true) ∧
      (hub.isConnected endpoint = false → (hub.publish endpoint topic payload).1 = hub)) ∧
    (∀ endpoint clientName, hub.online = false →
      hub.connect endpoint clientName = (hub, .error (.connect refusal))) ∧
    ∀ op endpoint other, op.actor? = some endpoint → other ≠ endpoint →
      (hub.apply op).connection other = hub.connection other ∧
      ∀ session : Session, (session.id, other) ∈ opened →
        (session ∈ (hub.apply op).sessions ↔ session ∈ hub.sessions) := by
  intro hub opened
  have sound : hub.Sound := sound_run sound_new ops
  have owners : hub.owners = opened := openings_run new ops
  have last : hub.lastId = opened.length := (lastId_run new ops).trans (Nat.zero_add _)
  refine ⟨sound.ids_nodup, sound.opened, ?_, ?_, fun _ _ _ => sound.apart, fun session mem => ?_,
    fun endpoint session mem session' mem' => ?_, fun endpoint => ?_, hub.subscribe_succeeds_iff,
    hub.publish_succeeds_iff, fun endpoint clientName off => connect_of_offline off ..,
    fun op endpoint other actor ne => ⟨hub.connection_apply_of_ne actor ne, fun session => ?_⟩⟩
  · rw [last]
    exact map_fst_openings new ops
  · rw [last]
    exact length_openings_le new ops
  · exact owners ▸ sound.exists_owner mem
  · exact owners ▸ sound.session_unique mem mem'
  · exact owners ▸ sound.isConnected_iff_exists
  · exact owners ▸ sound.mem_sessions_apply_iff actor ne

/-- An endpoint that still remembers a session from before a restart neither gets it back nor loses
    anything of it when another one connects. -/
example :
    let hub := new.run [.connect 0 "a", .subscribe 0 "x", .restart, .connect 1 "b", .close 0]
    hub.sessions = [⟨2, "b", []⟩] ∧ (new.run [.connect 0 "a", .restart]).connection 0 = some 1 ∧
      hub.connection 0 = none := by
  decide +kernel

end HomeBus.Hub
