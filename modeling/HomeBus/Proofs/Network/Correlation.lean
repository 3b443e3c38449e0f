import HomeBus.Network.Step
import Mathlib.Logic.Function.Basic
import Mathlib.Tactic.Common

/-!
# What of a network requests have to do with

Most of what happens in a network leaves requests alone. `Network.correlation` is the part that
matters to them: the clock, the requests among the tasks, and of every party the table of pending
requests, how its engine reads and matches messages, and the kind of its endpoint.

Results: wakes, calls of endpoints, operations, re-subscriptions and responders leave the
correlation of a network as it is (`correlation_call`, `correlation_pollOperation`,
`correlation_pollResubscription`, `correlation_pollResponder`), and changes of an engine's table or
of a request change just that (`correlation_setEngine`, `correlation_setRequest`).
-/

namespace HomeBus

/-- What of a network requests have to do with. -/
@[ext] structure Correlation where
  clock : ℕ
  /-- The requests among the tasks. -/
  request : ℕ → Option RequestTask
  /-- The pending requests of each party. -/
  table : ℕ → Option PendingTable
  /-- How each party's engine reads messages, and whether a reply must name its request. -/
  rules : ℕ → Option (Codec × Bool)
  /-- What each party's facade stands on. -/
  kind : ℕ → Option EndpointKind

namespace Correlation

def setTable (c : Correlation) (party : ℕ) (t : PendingTable) : Correlation :=
  { c with table := Function.update c.table party (some t) }

def setRequest (c : Correlation) (i : ℕ) (task : RequestTask) : Correlation :=
  { c with request := Function.update c.request i (some task) }

@[simp] theorem request_setRequest_self (c : Correlation) (i : ℕ) (task : RequestTask) :
    (c.setRequest i task).request i = some task :=
  Function.update_self ..

/-- A table that takes its own place. -/
theorem setTable_eq_self {c : Correlation} {party : ℕ} {t : PendingTable}
    (h : c.table party = some t) : c.setTable party t = c := by
  unfold setTable
  rw [← h, Function.update_eq_self]

end Correlation

/-- A task as a request, if it is one. -/
def Task.request? : Task → Option RequestTask
  | .request task => some task
  | .operation _ | .resubscription _ | .responder _ => none

namespace Network

/-- The request that runs as a task. -/
def request? (net : Network) (i : ℕ) : Option RequestTask := net.tasks[i]?.bind Task.request?

/-- The pending requests of a party. -/
def table? (net : Network) (party : ℕ) : Option PendingTable :=
  (net.engine? party).map Engine.pending

/-- What of a network requests have to do with. -/
def correlation (net : Network) : Correlation where
  clock := net.clock
  request := net.request?
  table := net.table?
  rules party := (net.engine? party).map fun e => (e.codec, e.strict)
  kind party := ((net.facade? party).map Facade.endpoint).bind fun endpoint =>
    (net.endpoint? endpoint).map Endpoint.kind

variable (net : Network)

/-! ## Tasks -/

theorem request?_eq_some {net : Network} {i : ℕ} {task : RequestTask} :
    net.request? i = some task ↔ net.tasks[i]? = some (.request task) := by
  unfold request?
  cases net.tasks[i]? with
  | none => simp
  | some other => cases other <;> simp [Task.request?]

theorem request?_of_length_le {i : ℕ} (h : net.tasks.length ≤ i) : net.request? i = none := by
  simp [request?, List.getElem?_eq_none h]

/-- A network with other tasks. -/
theorem correlation_tasks (tasks : List Task) (request : ℕ → Option RequestTask)
    (h : ∀ i, tasks[i]?.bind Task.request? = request i) :
    ({ net with tasks } : Network).correlation = { net.correlation with request } := by
  rw [← funext h]
  rfl

@[simp] theorem correlation_wake (job : Job) : (net.wake job).correlation = net.correlation := by
  unfold wake
  split <;> rfl

theorem correlation_foldl {α : Type*} (f : Network → α → Network)
    (h : ∀ net a, (f net a).correlation = net.correlation) (l : List α) :
    (l.foldl f net).correlation = net.correlation := by
  induction l generalizing net with
  | nil => rfl
  | cons a l ih => rw [List.foldl_cons, ih, h]

@[simp] theorem correlation_wakeTasks (which : Task → Bool) :
    (net.wakeTasks which).correlation = net.correlation := by
  refine correlation_foldl net _ (fun net entry => ?_) _
  split
  · exact correlation_wake net _
  · rfl

/-- A task that is no request takes the place of another. -/
theorem correlation_setTask {i : ℕ} {task : Task} (old : net.request? i = none)
    (new : task.request? = none) : (net.setTask i task).correlation = net.correlation := by
  refine correlation_tasks net _ net.request? fun j => ?_
  rw [List.getElem?_set]
  split
  · next same =>
    subst same
    rw [old]
    split <;> simp [new]
  · rfl

/-- A request changes. -/
theorem correlation_setRequest {i : ℕ} {old : RequestTask} (h : net.request? i = some old)
    (task : RequestTask) :
    (net.setTask i (.request task)).correlation = net.correlation.setRequest i task := by
  have lt : i < net.tasks.length := (List.getElem?_eq_some_iff.1 (request?_eq_some.1 h)).1
  refine correlation_tasks net _ _ fun j => ?_
  by_cases same : j = i
  · subst same
    simp [List.getElem?_set_self lt, Task.request?]
  · rw [List.getElem?_set_ne (Ne.symm same), Function.update_of_ne same]
    rfl

/-- A task comes that is no request. -/
theorem correlation_spawn {task : Task} (new : task.request? = none) :
    (net.spawn task).1.correlation = net.correlation := by
  refine (correlation_wake _ _).trans (correlation_tasks net _ net.request? fun j => ?_)
  by_cases lt : j < net.tasks.length
  · rw [List.getElem?_append_left lt]
    rfl
  · have le := Nat.le_of_not_lt lt
    rw [List.getElem?_append_right le, request?_of_length_le net le]
    cases eq : [task][j - net.tasks.length]? with
    | none => rfl
    | some other =>
      rw [List.mem_singleton.1 (List.mem_of_getElem? eq)]
      exact new

/-- A request comes. -/
theorem correlation_spawnRequest (task : RequestTask) :
    (net.spawn (.request task)).1.correlation =
      net.correlation.setRequest net.tasks.length task := by
  refine (correlation_wake _ _).trans (correlation_tasks net _ _ fun j => ?_)
  rcases Nat.lt_trichotomy j net.tasks.length with lt | rfl | gt
  · rw [List.getElem?_append_left lt, Function.update_of_ne (Nat.ne_of_lt lt)]
    rfl
  · simp [Task.request?]
  · have past : (net.tasks ++ [Task.request task]).length ≤ j := by simpa [Nat.succ_le_iff] using gt
    rw [Function.update_of_ne (Nat.ne_of_gt gt), List.getElem?_eq_none past]
    exact (request?_of_length_le net (Nat.le_of_lt gt)).symm

/-! ## Parties -/

theorem party?_modifyParty (party other : ℕ) (f : Party → Party) :
    (net.modifyParty party f).party? other =
      if party = other then (net.party? other).map f else net.party? other := by
  simp only [party?, modifyParty, List.getElem?_modify]
  split <;> simp

theorem modifyParty_of_none {party : ℕ} (h : net.party? party = none) (f : Party → Party) :
    net.modifyParty party f = net := by
  have same : net.parties.modify party f = net.parties := by
    apply List.ext_getElem?
    intro other
    rw [List.getElem?_modify]
    split
    · next eq =>
      subst eq
      simp [show net.parties[party]? = none from h]
    · simp
  unfold modifyParty
  rw [same]

/-- A party changes that keeps what its facade stands on. -/
theorem correlation_modifyParty {party : ℕ} {p : Party} (h : net.party? party = some p)
    (f : Party → Party) (facade : (f p).facade.map Facade.endpoint = p.facade.map Facade.endpoint) :
    (net.modifyParty party f).correlation =
      { net.correlation with
        table := Function.update net.correlation.table party ((f p).engine.map Engine.pending)
        rules := Function.update net.correlation.rules party
          ((f p).engine.map fun e => (e.codec, e.strict)) } := by
  have here : (net.modifyParty party f).party? party = some (f p) := by
    simp [party?_modifyParty, h]
  have there (other : ℕ) (ne : other ≠ party) :
      (net.modifyParty party f).party? other = net.party? other := by
    simp [party?_modifyParty, Ne.symm ne]
  apply Correlation.ext
  · rfl
  · rfl
  · funext other
    by_cases same : other = party
    · subst same
      simp [correlation, table?, engine?, here]
    · simp [correlation, table?, engine?, there other same, same]
  · funext other
    by_cases same : other = party
    · subst same
      simp [correlation, engine?, here]
    · simp [correlation, engine?, there other same, same]
  · funext other
    have stands : ((net.modifyParty party f).facade? other).map Facade.endpoint =
        (net.facade? other).map Facade.endpoint := by
      by_cases same : other = party
      · subst same
        simpa [facade?, here, h] using facade
      · simp [facade?, there other same]
    simp only [correlation, stands]
    rfl

/-- A party changes that keeps its engine and what its facade stands on. -/
theorem correlation_modifyParty_of_engine (party : ℕ) (f : Party → Party)
    (engine : ∀ p, (f p).engine = p.engine)
    (facade : ∀ p, (f p).facade.map Facade.endpoint = p.facade.map Facade.endpoint) :
    (net.modifyParty party f).correlation = net.correlation := by
  cases h : net.party? party with
  | none => rw [modifyParty_of_none net h]
  | some p =>
    rw [correlation_modifyParty net h f (facade p), engine p]
    apply Correlation.ext
    · rfl
    · rfl
    · refine Function.update_eq_self_iff.2 ?_
      simp [correlation, table?, engine?, h]
    · refine Function.update_eq_self_iff.2 ?_
      simp [correlation, engine?, h]
    · rfl

/-- A facade changes that goes on to stand on the same endpoint. -/
theorem correlation_modifyFacade (party : ℕ) (f : Facade → Facade)
    (h : ∀ facade, (f facade).endpoint = facade.endpoint) :
    (net.modifyFacade party f).correlation = net.correlation := by
  refine correlation_modifyParty_of_engine net party _ (fun _ => rfl) fun p => ?_
  cases p.facade with
  | none => rfl
  | some facade => exact congrArg some (h facade)

theorem exists_party_of_engine {net : Network} {party : ℕ} {e : Engine}
    (h : net.engine? party = some e) :
    ∃ p, net.party? party = some p ∧ p.engine = some e := by
  simpa [engine?, Option.bind_eq_some_iff] using h

/-- An engine changes that goes on to read and match messages as it did. -/
theorem correlation_setEngine {party : ℕ} {e : Engine} (h : net.engine? party = some e)
    (e' : Engine) (codec : e'.codec = e.codec) (strict : e'.strict = e.strict) :
    (net.setEngine party e').correlation = net.correlation.setTable party e'.pending := by
  obtain ⟨p, here, engine⟩ := exists_party_of_engine h
  refine (correlation_modifyParty net here _ rfl).trans ?_
  apply Correlation.ext
  · rfl
  · rfl
  · rfl
  · refine Function.update_eq_self_iff.2 ?_
    simp [correlation, h, codec, strict]
  · rfl

/-- An engine changes apart from its table. -/
theorem correlation_setEngine_of_pending {party : ℕ} {e e' : Engine}
    (h : net.engine? party = some e) (codec : e'.codec = e.codec) (strict : e'.strict = e.strict)
    (pending : e'.pending = e.pending) :
    (net.setEngine party e').correlation = net.correlation := by
  rw [correlation_setEngine net h e' codec strict, pending]
  exact Correlation.setTable_eq_self (by simp [correlation, table?, h])

/-- The table of an engine changes, if there is one. -/
theorem correlation_modifyPending (party : ℕ) (f : PendingTable → PendingTable) :
    (net.modifyEngine party fun e => { e with pending := f e.pending }).correlation =
      { net.correlation with
        table := Function.update net.correlation.table party ((net.table? party).map f) } := by
  cases h : net.party? party with
  | none =>
    rw [modifyEngine, modifyParty_of_none net h]
    apply Correlation.ext
    · rfl
    · rfl
    · refine (Function.update_eq_self_iff.2 ?_).symm
      simp [correlation, table?, engine?, h]
    · rfl
    · rfl
  | some p =>
    refine (correlation_modifyParty net h _ rfl).trans ?_
    apply Correlation.ext
    · rfl
    · rfl
    · simp only [table?, engine?, h, Option.bind_some, Option.map_map]
      rfl
    · refine Function.update_eq_self_iff.2 ?_
      simp only [correlation, engine?, h, Option.bind_some, Option.map_map]
      rfl
    · rfl

/-! ## Calls of endpoints -/

@[simp] theorem correlation_announce (endpoint : ℕ) (announcement : Announcement) :
    (net.announce endpoint announcement).correlation = net.correlation := by
  have spawned (task : ResubscriptionTask) :
      (net.spawn (.resubscription task)).1.correlation = net.correlation :=
    correlation_spawn net rfl
  unfold announce
  dsimp only
  split
  · rfl
  · simp only [apply_ite Network.correlation, spawned, ite_self]

@[simp] theorem correlation_callHub (endpoint : ℕ) (call : Call) :
    (net.callHub endpoint call).1.correlation = net.correlation := by
  cases call with
  | connect options =>
    simp only [callHub]
    split
    · exact (correlation_announce ..).trans (correlation_wake ..)
    · rfl
  | subscribe topic qos => rfl
  | publish topic payload qos retain =>
    simp only [callHub]
    split
    · exact correlation_foldl _ _ (fun net _ => correlation_wake net _) _
    · rfl
  | close => rfl

@[simp] theorem correlation_answer (endpoint : ℕ) (w : Wait) :
    (net.answer endpoint w).1.correlation = net.correlation := by
  unfold answer
  split
  · exact correlation_announce ..
  · rfl

@[simp] theorem correlation_resume (endpoint : ℕ) (w : Wait) :
    (net.resume endpoint w).1.correlation = net.correlation := by
  unfold resume
  split
  · exact correlation_answer ..
  · rfl

@[simp] theorem correlation_call (endpoint : ℕ) (call : Call) :
    (net.call endpoint call).1.correlation = net.correlation := by
  unfold Network.call
  split
  · rfl
  · split
    · exact correlation_callHub ..
    · exact correlation_resume ..

/-! ## Operations, re-subscriptions and responders -/

@[simp] theorem correlation_remember (party : ℕ) (topic : String) (qos : QoS) :
    (net.remember party topic qos).correlation = net.correlation := by
  refine correlation_modifyFacade net party _ fun facade => ?_
  unfold Facade.remember
  split <;> rfl

theorem correlation_callDirectly (endpoint : ℕ) (operation : Operation) :
    (net.callDirectly endpoint operation).1.correlation = net.correlation := by
  cases operation <;> exact correlation_call ..

theorem correlation_callThrough (party : ℕ) (facade : Facade) (operation : Operation) :
    (net.callThrough party facade operation).1.correlation = net.correlation := by
  cases operation with
  | connect options =>
    exact (correlation_call ..).trans (correlation_modifyFacade net party _ fun _ => rfl)
  | close => exact correlation_call ..
  | subscribe topic qos =>
    simp only [callThrough]
    split
    · rfl
    · exact correlation_call ..
  | publish topic payload qos retain => exact correlation_call ..

theorem correlation_afterCall (task : OperationTask) (result : Except Error Unit) :
    (net.afterCall task result).correlation = net.correlation := by
  unfold afterCall
  split
  · exact correlation_remember ..
  · rfl

/-- What is done with a task that is no request ends with the task being put back. -/
theorem correlation_putBack {net net' : Network} {i : ℕ} {task : Task}
    (h : net'.correlation = net.correlation) (old : net.request? i = none)
    (new : task.request? = none) : (net'.setTask i task).correlation = net.correlation := by
  refine (correlation_setTask net' ?_ new).trans h
  exact (congrArg (Correlation.request · i) h).trans old

theorem correlation_pollOperation {i : ℕ} (old : net.request? i = none) (task : OperationTask) :
    (net.pollOperation i task).correlation = net.correlation := by
  unfold pollOperation
  split
  · rfl
  · rfl
  · split
    next called progress eq =>
    have same : called.correlation = net.correlation := by
      refine (congrArg (fun pair => pair.1.correlation) eq).symm.trans ?_
      split
      · exact correlation_resume ..
      · split
        · exact correlation_callThrough ..
        · exact correlation_callDirectly ..
    split
    · exact correlation_putBack same old rfl
    · exact correlation_putBack ((correlation_afterCall ..).trans same) old rfl

theorem correlation_subscribeAll (endpoint : ℕ) (subscriptions : List Subscription) :
    (net.subscribeAll endpoint subscriptions).1.correlation = net.correlation := by
  induction subscriptions generalizing net with
  | nil => rfl
  | cons s rest ih =>
    have called := correlation_call net endpoint (.subscribe s.topic s.qos)
    unfold subscribeAll
    split
    · next eq =>
      rw [eq] at called
      exact (ih _).trans called
    · next eq =>
      rw [eq] at called
      exact called

theorem correlation_pollResubscription {i : ℕ} (old : net.request? i = none)
    (task : ResubscriptionTask) :
    (net.pollResubscription i task).correlation = net.correlation := by
  unfold pollResubscription
  dsimp only
  split
  · exact correlation_putBack (correlation_subscribeAll ..) old rfl
  · next w _ =>
    have resumed := correlation_resume net task.endpoint w
    split
    · next eq =>
      rw [eq] at resumed
      exact correlation_putBack ((correlation_subscribeAll ..).trans resumed) old rfl
    · next eq =>
      rw [eq] at resumed
      exact resumed

theorem correlation_publishReplies (task : ResponderTask) (request : Message)
    (replies : List Message) :
    (net.publishReplies task request replies).1.correlation = net.correlation := by
  induction replies generalizing net with
  | nil => rfl
  | cons m rest ih =>
    unfold publishReplies
    split
    · next engine facade _ _ =>
      split
      · exact ih net
      · next payload _ =>
        have called := correlation_call net facade.endpoint
          (.publish task.topic payload facade.defaultQos false)
        split
        · next eq =>
          rw [eq] at called
          exact (ih _).trans called
        · next eq =>
          rw [eq] at called
          exact called
    · rfl

theorem correlation_respond (task : ResponderTask) (inbound : Inbound) (replies : List Message) :
    (net.respond task inbound replies).1.correlation = net.correlation := by
  have published := correlation_publishReplies net task inbound.message replies
  unfold respond
  split
  · next eq => rwa [eq] at published
  · next eq => rwa [eq] at published

theorem correlation_serve (task : ResponderTask) (count : ℕ) :
    (net.serve task count).1.correlation = net.correlation := by
  induction count generalizing net with
  | zero => rfl
  | succ count ih =>
    unfold serve
    split
    · rfl
    · next engine here =>
      have taken (router : Router) :
          (net.setEngine task.party { engine with router }).correlation = net.correlation :=
        correlation_setEngine_of_pending net here rfl rfl rfl
      dsimp only
      split
      · exact taken _
      · exact taken _
      · next inbound _ =>
        split
        · have responded := correlation_respond
            (net.setEngine task.party
              { engine with router := (engine.router.receive task.channel).1 })
            task inbound task.replies
          split
          · next eq =>
            rw [eq] at responded
            exact (ih _).trans (responded.trans (taken _))
          · next eq =>
            rw [eq] at responded
            exact responded.trans (taken _)
        · exact taken _

theorem correlation_serveQueued {i : ℕ} (old : net.request? i = none) (task : ResponderTask) :
    (net.serveQueued i task).correlation = net.correlation :=
  correlation_putBack (correlation_serve net task (net.queued task + 1)) old rfl

theorem correlation_afterReplies {i : ℕ} (old : net.request? i = none) (task : ResponderTask)
    (state : Option ResponderState) :
    (net.afterReplies i task state).correlation = net.correlation := by
  cases state with
  | none => exact correlation_serveQueued net old task
  | some state => exact correlation_putBack rfl old rfl

theorem correlation_pollResponder {i : ℕ} (old : net.request? i = none) (task : ResponderTask) :
    (net.pollResponder i task).correlation = net.correlation := by
  -- the request that there is not at `i` is not there either after replies were published
  have after {net' : Network} (h : net'.correlation = net.correlation) (inbound : Inbound)
      (replies : List Message) :
      ((net'.respond task inbound replies).1.afterReplies i task
        (net'.respond task inbound replies).2).correlation = net.correlation := by
    have responded := (correlation_respond net' task inbound replies).trans h
    refine (correlation_afterReplies _ ?_ task _).trans responded
    exact (congrArg (Correlation.request · i) responded).trans old
  unfold pollResponder
  split
  · rfl
  · exact correlation_serveQueued net old task
  · split
    · exact after rfl ..
    · rfl
  · next inbound rest w _ =>
    cases net.facade? task.party with
    | none => rfl
    | some facade =>
      have resumed := correlation_resume net facade.endpoint w
      rw [Option.map_some]
      split
      · next eq => cases eq
      · next eq =>
        rw [Option.some.inj eq] at resumed
        exact resumed
      · next eq =>
        rw [Option.some.inj eq] at resumed
        exact after resumed ..

end Network

end HomeBus
