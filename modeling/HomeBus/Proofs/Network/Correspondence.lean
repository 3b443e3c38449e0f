import HomeBus.Proofs.Envelope.Identity
import HomeBus.Proofs.Network.Minting
import HomeBus.Proofs.Network.Replies

/-!
# Replies by correlation

A request goes onto the wire under its uid; whoever reads it replies with that uid as `corid`, and
the engine of the request looks for the entry that stands under it. Between the two ends lie two
writers and two readers, which need not be set up alike: a writer that leaves `corid` out writes
replies that a strict engine does not take.

Results:
* `PendingTable.Sound.accepts_eq_false`: a strict engine never takes a reply for a request that it
  does not name.
* `Network.replies_reach_their_request`: a reply to what was read of a request is taken by the entry
  of that request and by no other one, and by none if it was written without `corid`.
-/

namespace HomeBus

/-! ## Writers -/

namespace Envelope

variable {emitCorid : Bool} {m m' : Message} {payload : Bytes}

/-- What a codec writes for a message, whose properties may stand in any order. A request that goes
    onto the wire is encoded as one of these payloads. -/
def Writes (emitCorid : Bool) (m : Message) (payload : Bytes) : Prop :=
  ∃ props, props.Perm m.props.entries ∧ payload = encodeOrdered emitCorid props m

theorem writes_encode (emitCorid : Bool) (m : Message) :
    Writes emitCorid m (encode emitCorid m) :=
  ⟨m.props.entries, .refl _, rfl⟩

theorem Writes.decode (writes : Writes emitCorid m payload) (canonical : m.value.Canonical)
    (integral : m.value.Integral) (fits : m.value.depth ≤ 126) :
    decode payload = .ok (delivered emitCorid m) := by
  obtain ⟨props, perm, rfl⟩ := writes
  exact decode_encodeOrdered emitCorid perm canonical integral fits

theorem Writes.uid_of_decode (writes : Writes emitCorid m payload)
    (received : Envelope.decode payload = .ok m') : m'.uid = m.uid := by
  obtain ⟨props, -, rfl⟩ := writes
  exact Envelope.uid_of_decode received

end Envelope

/-! ## Strict engines -/

/-- What an entry of a strict engine accepts. -/
theorem Expectation.accepts_strict_iff (e : Expectation) (topic : String) (m : Message) :
    e.accepts true topic m = true ↔ (topic = e.responseTopic ∧
      (e.service ≠ "" → m.service = e.service) ∧ (e.msgType ≠ "" → m.msgType = e.msgType)) ∧
      m.corid = e.uid := by
  simp only [accepts_iff, forall_const, and_assoc]

/-- An entry of a strict engine accepts nothing that does not name it. -/
theorem PendingTable.Sound.accepts_eq_false {t : PendingTable} (sound : t.Sound)
    {entry : String × PendingRequest} (mem : entry ∈ t.entries) {m : Message}
    (other : m.corid ≠ entry.1) (topic : String) :
    entry.2.expectation.accepts true topic m = false := by
  rw [← Bool.not_eq_true, Expectation.accepts_strict_iff, ← sound.keyed entry mem]
  exact fun accepted => other accepted.2

namespace Network

variable {net : Network}

/-- A request under way has its entry in the table of its party. -/
theorem Initial.exists_entry (initial : net.Initial) (actions : List Action) {i : ℕ}
    {task : RequestTask} {r : Running} {engine : Engine}
    (here : (net.run actions).request? i = some task) (running : task.state = .running r)
    (owner : (net.run actions).engine? task.party = some engine) :
    engine.pending.Sound ∧ ∃ completed, (task.holdAs r).entry completed ∈ engine.pending.entries := by
  have c := initial.consistent_run actions
  obtain ⟨t, table, completed, listed⟩ := c.listed (hold_of_running here running)
  have same : (net.run actions).ledger.table task.party = some engine.pending :=
    table_of_engine owner
  cases same.symm.trans table
  exact ⟨c.sound same, completed, listed⟩

/-- A request under way has the uid that it was made with, if it was made with one. -/
theorem Initial.uid_of_running (initial : net.Initial) (actions : List Action) {i : ℕ}
    {task : RequestTask} {r : Running} (here : (net.run actions).request? i = some task)
    (running : task.state = .running r) (given : task.message.uid ≠ "") :
    r.message.uid = task.message.uid := by
  obtain ⟨id, identified⟩ := (regular_run initial.regular actions i task r here running).identified
  rw [identified, Message.ensureIdentity]
  exact if_neg given

/-- A request of a strict engine goes onto the wire, and someone reads it and replies. What the
    requester reads of the reply is taken by the entry of that request, on its response topic and as
    far as its filters allow, and by no other entry; what was written without `corid` is taken by
    none. This holds as long as the request is under way, whatever happens in between. -/
theorem replies_reach_their_request (initial : net.Initial) (minted : ∀ n, (net.mint n).uid ≠ "")
    (actions : List Action) {i : ℕ} {task : RequestTask} {r : Running} {engine : Engine}
    {emitCorid : Bool} {payload : Bytes} {request : Message}
    (here : (net.run actions).request? i = some task) (running : task.state = .running r)
    (owner : (net.run actions).engine? task.party = some engine) (strict : engine.strict = true)
    (codec : engine.codec = .json emitCorid)
    (published : Envelope.Writes emitCorid r.message payload)
    (received : Envelope.decode payload = .ok request) :
    (task.message.uid ≠ "" → r.message.uid = task.message.uid) ∧
    ∃ entry ∈ engine.pending.entries, entry.1 = r.message.uid ∧ entry.2.ticket = r.ticket ∧
      ∀ reply : Message,
        reply.value.Canonical → reply.value.Integral → reply.value.depth ≤ 126 →
        (∀ wire, Envelope.Writes true (reply.replyTo request) wire →
          ∃ m, engine.codec.decode wire = .ok m ∧ ∀ topic,
            (entry.2.expectation.accepts engine.strict topic m = true ↔
              topic = task.responseTopic ∧
              (task.filter.service ≠ "" → reply.service = task.filter.service) ∧
              (task.filter.msgType ≠ "" → reply.msgType = task.filter.msgType)) ∧
            ∀ other ∈ engine.pending.entries, other ≠ entry →
              other.2.expectation.accepts engine.strict topic m = false) ∧
        ∀ wire, Envelope.Writes false (reply.replyTo request) wire →
          ∃ m, engine.codec.decode wire = .ok m ∧ ∀ topic, ∀ other ∈ engine.pending.entries,
            other.2.expectation.accepts engine.strict topic m = false := by
  obtain ⟨sound, completed, listed⟩ := initial.exists_entry actions here running owner
  have named : request.uid = r.message.uid := published.uid_of_decode received
  refine ⟨initial.uid_of_running actions here running, _, listed, rfl, rfl, ?_⟩
  intro reply canonical integral fits
  rw [strict, codec]
  refine ⟨fun wire written => ?_, fun wire written => ?_⟩
  · refine ⟨reply.replyTo request, written.decode canonical integral fits, fun topic => ⟨?_, ?_⟩⟩
    · rw [Expectation.accepts_strict_iff]
      exact and_iff_left named
    · intro other mem ne
      refine sound.accepts_eq_false mem (fun same => ne ?_) topic
      exact sound.entry_unique mem listed (same.symm.trans named)
  · refine ⟨_, written.decode canonical integral fits, fun topic other mem => ?_⟩
    -- the reply names the empty uid, and nothing stands under it
    have ne := initial.uid_ne_empty minted actions (table_of_engine owner) mem
    rw [← sound.keyed other mem] at ne
    exact sound.accepts_eq_false mem ne.symm topic

/-- One strict engine on an endpoint of the hub. -/
def vigilant : Network :=
  let (net, endpoint) := (new fun n => ⟨toString n, toString n⟩).addEndpoint .memory 0
  (net.addEngine { endpoint, defaultQos := default } (.new (.json false) true 1000)).1

theorem initial_vigilant : vigilant.Initial :=
  ((initial_new _).addEndpoint .memory 0).addEngine _ rfl

theorem mint_vigilant (n : ℕ) : (vigilant.mint n).uid ≠ "" := Nat.repr_ne_empty

/-- The party connects and makes two requests. The first one comes without a uid and asks for a
    service. -/
def askingTwice : List Action :=
  [.operate ⟨0, true, .connect {}, .fresh⟩, .poll 0 false,
    .request { echoed "" with filter := { service := "s" } }, .poll 1 false,
    .request (echoed "b"), .poll 2 false]

/-- A reply from the service that the first request asks for. -/
def serviced : Message := { service := "s", msgType := "t" }

/-- The reply to the first request of `vigilant` is taken by its entry, on the topic of its replies,
    and not by that of the second one; without `corid` no entry takes it. -/
theorem replies_reach_their_request_in_vigilant : ∃ task r engine,
    (vigilant.run askingTwice).request? 1 = some task ∧ task.state = .running r ∧
    (vigilant.run askingTwice).engine? 0 = some engine ∧ engine.pending.keys = ["0", "b"] ∧
    (∃ m, engine.codec.decode (Envelope.encode true (serviced.replyTo r.message)) = .ok m ∧
      ∃ entry ∈ engine.pending.entries, entry.1 = "0" ∧ ∀ topic,
        (entry.2.expectation.accepts engine.strict topic m = true ↔ topic = "echo") ∧
        ∀ other ∈ engine.pending.entries, other ≠ entry →
          other.2.expectation.accepts engine.strict topic m = false) ∧
    ∃ m, engine.codec.decode (Envelope.encode false (serviced.replyTo r.message)) = .ok m ∧
      ∀ topic, ∀ other ∈ engine.pending.entries,
        other.2.expectation.accepts engine.strict topic m = false := by
  obtain ⟨task, r, engine, here, running, party, topic, filter, owner, strict, codec, uid, keys,
      value⟩ :
      ∃ task r engine, (vigilant.run askingTwice).request? 1 = some task ∧
        task.state = .running r ∧ task.party = 0 ∧ task.responseTopic = "echo" ∧
        task.filter = { service := "s" } ∧
        (vigilant.run askingTwice).engine? 0 = some engine ∧ engine.strict = true ∧
        engine.codec = .json false ∧ r.message.uid = "0" ∧ engine.pending.keys = ["0", "b"] ∧
        r.message.value = .null :=
    ⟨_, _, _, rfl, rfl, rfl, rfl, rfl, rfl, rfl, rfl, rfl, by decide +kernel, rfl⟩
  have published := Envelope.writes_encode false r.message
  have plain (v : Json) (null : v = .null) : v.Canonical ∧ v.Integral ∧ v.depth ≤ 126 := by
    subst null
    exact ⟨trivial, trivial, by decide⟩
  obtain ⟨canonical, integral, fits⟩ := plain _ value
  have received := published.decode canonical integral fits
  obtain ⟨-, entry, mem, key, -, replies⟩ := replies_reach_their_request initial_vigilant
    mint_vigilant askingTwice here running (party ▸ owner) strict codec published received
  obtain ⟨canonical, integral, fits⟩ := plain serviced.value rfl
  obtain ⟨written, unwritten⟩ := replies serviced canonical integral fits
  obtain ⟨m, read, accepts⟩ := written _ (Envelope.writes_encode ..)
  refine ⟨task, r, engine, here, running, owner, keys, ⟨m, read, entry, mem, key.trans uid, ?_⟩,
    unwritten _ (Envelope.writes_encode ..)⟩
  intro on
  refine ⟨?_, (accepts on).2⟩
  rw [(accepts on).1, topic, filter]
  simp [serviced]

end Network

end HomeBus
