import HomeBus.Engine
import HomeBus.Proofs.Pending.Run
import HomeBus.Proofs.Router.Feeds

/-!
# What reception owes to requests

An engine hands a message that it takes in to the general handler and to its channels, whether or
not it is the reply to a request. So the handlers that are called and the channels are the same in
any two runs that differ in their requests alone.

Results:
* `Attended.router_run`, `Attended.sights_eq`: the channels see a run of their own.
* `Attended.calls_eq`: what the handlers are called with.
* `Attended.apply_of_decode_error`: a payload that is no message changes nothing.
* `Attended.reception_is_independent_of_requests`: runs that differ in their requests alone.
-/

namespace HomeBus.Engine

/-- What is done with an engine. -/
inductive Operation where
  /-- A payload arrives. -/
  | dispatch (topic : String) (payload : Bytes)
  /-- A general handler is installed in place of the one before, or the handler is taken away. -/
  | install (handler : Option ℕ)
  | channels (op : Router.Operation)
  /-- A request comes, looks for its reply, or goes. -/
  | pending (op : PendingTable.Operation)

namespace Operation

/-- Whether an operation has to do with more than requests. -/
def isGeneral : Operation → Bool
  | .dispatch .. | .install _ | .channels _ => true
  | .pending _ => false

/-- What an operation is to the channels. -/
def routing? (codec : Codec) : Operation → Option Router.Operation
  | .dispatch topic payload =>
    match codec.decode payload with
    | .ok m => some (.route ⟨topic, .ofTopic topic, m⟩)
    | .error _ => none
  | .channels op => some op
  | .install _ | .pending _ => none

/-- What a handler is called with for each payload that is a message: once for each, in order, and
    for the handler that is installed when the payload arrives. -/
def deliveries (codec : Codec) : Option ℕ → List Operation → List (ℕ × Inbound)
  | _, [] => []
  | handler, .dispatch topic payload :: ops =>
    match codec.decode payload with
    | .ok m =>
      (handler.map fun h => (h, ⟨topic, .ofTopic topic, m⟩)).toList ++ deliveries codec handler ops
    | .error _ => deliveries codec handler ops
  | _, .install handler :: ops => deliveries codec handler ops
  | handler, .channels _ :: ops | handler, .pending _ :: ops => deliveries codec handler ops

end Operation

/-- An engine, and the general handler that is installed in it. -/
structure Attended where
  engine : Engine
  handler : Option ℕ := none
  installed : engine.handling = handler.isSome

/-! ## Dispatches -/

theorem dispatch_of_ok {e : Engine} {topic : String} {payload : Bytes} {m : Message}
    (decoded : e.codec.decode payload = .ok m) : e.dispatch topic payload = e.accept topic m := by
  simp only [dispatch, decoded]

theorem dispatch_of_error {e : Engine} {payload : Bytes} {error : Error}
    (rejected : e.codec.decode payload = .error error) (topic : String) :
    e.dispatch topic payload = { engine := e } := by
  simp only [dispatch, rejected]

/-- A payload that arrives changes pending requests and channels, and nothing else of an engine. -/
theorem dispatch_frame (e : Engine) (topic : String) (payload : Bytes) :
    (e.dispatch topic payload).engine.codec = e.codec ∧
      (e.dispatch topic payload).engine.handling = e.handling ∧
      (e.dispatch topic payload).engine.router =
        e.router.run ((Operation.dispatch topic payload).routing? e.codec).toList := by
  cases decoded : e.codec.decode payload with
  | ok m =>
    rw [dispatch_of_ok decoded, Operation.routing?, decoded]
    exact ⟨rfl, rfl, rfl⟩
  | error error =>
    rw [dispatch_of_error decoded topic, Operation.routing?, decoded]
    exact ⟨rfl, rfl, rfl⟩

namespace Attended

def apply (a : Attended) : Operation → Attended
  | .dispatch topic payload =>
    { a with
      engine := (a.engine.dispatch topic payload).engine
      installed := (a.engine.dispatch_frame topic payload).2.1.trans a.installed }
  | .install handler => ⟨{ a.engine with handling := handler.isSome }, handler, rfl⟩
  | .channels op => { a with engine := { a.engine with router := a.engine.router.apply op } }
  | .pending op => { a with engine := { a.engine with pending := a.engine.pending.apply op } }

def run (a : Attended) (ops : List Operation) : Attended := ops.foldl apply a

/-- What the installed handler is called with in a step. -/
def called? (a : Attended) : Operation → Option (ℕ × Inbound)
  | .dispatch topic payload =>
    a.handler.bind fun h => (a.engine.dispatch topic payload).handled.map (h, ·)
  | .install _ | .channels _ | .pending _ => none

/-- What the handlers are called with in a run, in order. -/
def calls (a : Attended) : List Operation → List (ℕ × Inbound)
  | [] => []
  | op :: ops => (a.called? op).toList ++ (a.apply op).calls ops

/-- What the receiver of a channel finds in a step. -/
def seen? (a : Attended) (k : ℕ) : Operation → Option Router.Received
  | .channels op => a.engine.router.seen? k op
  | .dispatch .. | .install _ | .pending _ => none

/-- What the receiver of a channel finds in a run, in order. -/
def sights (a : Attended) (k : ℕ) : List Operation → List Router.Received
  | [] => []
  | op :: ops => (a.seen? k op).toList ++ (a.apply op).sights k ops

variable {a a' : Attended} {op : Operation} {ops ops' : List Operation}

/-! ## Steps -/

theorem codec_apply (a : Attended) (op : Operation) :
    (a.apply op).engine.codec = a.engine.codec := by
  cases op with
  | dispatch topic payload => exact (a.engine.dispatch_frame topic payload).1
  | install | channels | pending => rfl

/-- The channels see of a step what it is to them. -/
theorem router_apply (a : Attended) (op : Operation) :
    (a.apply op).engine.router = a.engine.router.run (op.routing? a.engine.codec).toList := by
  cases op with
  | dispatch topic payload => exact (a.engine.dispatch_frame topic payload).2.2
  | install | channels | pending => rfl

/-- A payload that is no message changes nothing, and nobody hears of it. -/
theorem apply_of_decode_error {payload : Bytes} {error : Error}
    (rejected : a.engine.codec.decode payload = .error error) (topic : String) :
    a.engine.dispatch topic payload = { engine := a.engine } ∧
      a.apply (.dispatch topic payload) = a ∧ a.called? (.dispatch topic payload) = none := by
  have same := dispatch_of_error rejected topic
  obtain ⟨engine, handler, installed⟩ := a
  refine ⟨same, ?_, ?_⟩
  · simp only [apply, same]
  · rw [called?, same]
    cases handler <;> rfl

/-- A payload that is a message reaches the handler, if one is installed. -/
theorem called?_of_decode_ok {topic : String} {payload : Bytes} {m : Message}
    (decoded : a.engine.codec.decode payload = .ok m) :
    a.called? (.dispatch topic payload) =
      a.handler.map fun h => (h, ⟨topic, .ofTopic topic, m⟩) := by
  rw [called?, dispatch_of_ok decoded, accept, a.installed]
  cases a.handler <;> rfl

/-! ## Runs -/

theorem codec_run (a : Attended) (ops : List Operation) :
    (a.run ops).engine.codec = a.engine.codec := by
  induction ops generalizing a with
  | nil => rfl
  | cons op ops ih => exact (ih (a.apply op)).trans (codec_apply a op)

/-- The channels see a run of their own, which no request has a part in. -/
theorem router_run (a : Attended) (ops : List Operation) : (a.run ops).engine.router =
    a.engine.router.run (ops.filterMap (Operation.routing? a.engine.codec)) := by
  induction ops generalizing a with
  | nil => rfl
  | cons op ops ih =>
    have rest := ih (a.apply op)
    rw [codec_apply, router_apply, ← Router.run_append] at rest
    refine rest.trans (congrArg a.engine.router.run ?_)
    rw [List.filterMap_cons]
    cases op.routing? a.engine.codec <;> rfl

/-- What a receiver finds is what it finds in the run of the channels. -/
theorem sights_eq (a : Attended) (k : ℕ) (ops : List Operation) : a.sights k ops =
    a.engine.router.sights k (ops.filterMap (Operation.routing? a.engine.codec)) := by
  induction ops generalizing a with
  | nil => rfl
  | cons op ops ih =>
    have rest := ih (a.apply op)
    rw [codec_apply, router_apply] at rest
    rw [sights, rest, List.filterMap_cons]
    cases op with
    | dispatch topic payload =>
      rw [Operation.routing?]
      cases a.engine.codec.decode payload <;> rfl
    | install | channels | pending => rfl

/-- What the handlers are called with. -/
theorem calls_eq (a : Attended) (ops : List Operation) :
    a.calls ops = Operation.deliveries a.engine.codec a.handler ops := by
  induction ops generalizing a with
  | nil => rfl
  | cons op ops ih =>
    have rest := ih (a.apply op)
    rw [codec_apply] at rest
    rw [calls, rest]
    cases op with
    | dispatch topic payload =>
      cases decoded : a.engine.codec.decode payload with
      | ok m =>
        rw [called?_of_decode_ok decoded, Operation.deliveries, decoded]
        rfl
      | error error =>
        rw [(apply_of_decode_error decoded topic).2.2, Operation.deliveries, decoded]
        rfl
    | install | channels | pending => rfl

/-- Requests have no part in what the handlers are called with. -/
theorem deliveries_filter (codec : Codec) (handler : Option ℕ) (ops : List Operation) :
    Operation.deliveries codec handler (ops.filter Operation.isGeneral) =
      Operation.deliveries codec handler ops := by
  induction ops generalizing handler with
  | nil => rfl
  | cons op ops ih =>
    cases op with
    | dispatch topic payload =>
      rw [List.filter_cons_of_pos rfl, Operation.deliveries, Operation.deliveries, ih]
    | install handler => exact ih handler
    | channels op => exact ih handler
    | pending op => exact ih handler

/-- Requests are nothing to the channels. -/
theorem routings_filter (codec : Codec) (ops : List Operation) :
    (ops.filter Operation.isGeneral).filterMap (Operation.routing? codec) =
      ops.filterMap (Operation.routing? codec) := by
  rw [List.filterMap_filter]
  refine List.filterMap_congr fun op _ => ?_
  cases op <;> rfl

/--
Two engines read payloads alike, have the same channels and the same general handler; they may have
any requests pending, and one may ask replies to name their requests while the other does not. When
the same payloads, handlers and operations on channels come to both in the same order, and requests
come and go in each as they like, then the same handlers are called with the same messages, all
channels and names are the same afterwards, and every receiver finds the same. Each payload that is
a message reaches the handler that is installed just then, once and in order, with its topic and its
address. A payload that is no message completes no request, reaches no handler and no channel, and
changes nothing in an engine.
-/
theorem reception_is_independent_of_requests (codec : a'.engine.codec = a.engine.codec)
    (router : a'.engine.router = a.engine.router) (handler : a'.handler = a.handler)
    (same : ops'.filter Operation.isGeneral = ops.filter Operation.isGeneral) :
    a.calls ops = Operation.deliveries a.engine.codec a.handler ops ∧
    a'.calls ops' = a.calls ops ∧
    (a'.run ops').engine.router = (a.run ops).engine.router ∧
    (∀ k, a'.sights k ops' = a.sights k ops) ∧
    ∀ topic payload error, a.engine.codec.decode payload = .error error →
      (a.run ops).engine.dispatch topic payload = { engine := (a.run ops).engine } ∧
      (a.run ops).apply (.dispatch topic payload) = a.run ops := by
  have routings : ops'.filterMap (Operation.routing? a.engine.codec) =
      ops.filterMap (Operation.routing? a.engine.codec) := by
    rw [← routings_filter, same, routings_filter]
  refine ⟨a.calls_eq ops, ?_, ?_, fun k => ?_, fun topic payload error rejected => ?_⟩
  · rw [calls_eq, calls_eq, codec, handler, ← deliveries_filter, same, deliveries_filter]
  · rw [router_run, router_run, codec, router, routings]
  · rw [sights_eq, sights_eq, codec, router, routings]
  · rw [← codec_run a ops] at rejected
    obtain ⟨nothing, stays, -⟩ := apply_of_decode_error rejected topic
    exact ⟨nothing, stays⟩

/-- An engine in which a request waits for a reply, and one in which none does. -/
def waiting : Attended :=
  ⟨{ new (.json false) false 0 with
    pending := (PendingTable.empty.register ⟨"u", "t", "", ""⟩).1
    handling := true }, some 1, rfl⟩

def idle : Attended := ⟨{ new (.json false) true 0 with handling := true }, some 1, rfl⟩

/-- A reply. -/
def reply : Message := { service := "s", msgType := "t", ctime := "0", uid := "r" }

/-- A channel is registered, a reply arrives, the handler is replaced, a payload arrives that is no
    message, the reply arrives once more, and the receiver of the channel looks. -/
def arrivals : List Operation :=
  [.channels (.register "all" {} 1), .dispatch "t" (Envelope.encode false reply),
    .install (some 2), .dispatch "t" [], .dispatch "t" (Envelope.encode false reply),
    .channels (.receive 0)]

/-- The reply completes the request that waits for it, and nothing where none does. Both times the
    handlers are called and the receiver finds the reply. -/
theorem reception_is_independent_in_waiting :
    (waiting.engine.dispatch "t" (Envelope.encode false reply)).completed = some ⟨"u", 0⟩ ∧
    (idle.engine.dispatch "t" (Envelope.encode false reply)).completed = none ∧
    idle.calls (.pending (.register ⟨"v", "t", "", ""⟩) :: arrivals) = waiting.calls arrivals ∧
    waiting.calls arrivals =
      [(1, ⟨"t", .ofTopic "t", reply⟩), (2, ⟨"t", .ofTopic "t", reply⟩)] ∧
    idle.sights 0 (.pending (.register ⟨"v", "t", "", ""⟩) :: arrivals) =
      waiting.sights 0 arrivals ∧
    waiting.sights 0 arrivals = [.inbound ⟨"t", .ofTopic "t", reply⟩] ∧
    (waiting.run arrivals).engine.dispatch "t" [] =
      { engine := (waiting.run arrivals).engine } := by
  have codec : idle.engine.codec = waiting.engine.codec := rfl
  have same : (Operation.pending (.register ⟨"v", "t", "", ""⟩) :: arrivals).filter
      Operation.isGeneral = arrivals.filter Operation.isGeneral := rfl
  obtain ⟨deliveries, calls, -, sights, unread⟩ :=
    reception_is_independent_of_requests codec rfl rfl same
  refine ⟨by decide +kernel, by decide +kernel, calls, deliveries.trans (by decide +kernel),
    sights 0, by decide +kernel, ?_⟩
  obtain ⟨error, rejected⟩ : ∃ error, waiting.engine.codec.decode [] = .error error := ⟨_, rfl⟩
  exact (unread "t" [] error rejected).1

end Attended

end HomeBus.Engine
