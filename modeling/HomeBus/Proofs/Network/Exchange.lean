import HomeBus.Proofs.Network.Correlation
import HomeBus.Proofs.Pending.Table

/-!
# Looking at a request

A request that was registered is looked at whenever its task is polled. Its exchange goes on as far
as it can, and then the request goes on or is over. Whatever its exchange did to endpoints and
facades, of the correlation only its own entry, its own waiter and its own state change.

Results:
* `exchanged_startExchange`, `exchanged_resumeExchange`: how far an exchange comes, and that it
  looks at the reply at once when it only waits for one.
* `look_of_exchanged`: the request goes on, or it ends for one of the reasons of `Verdict` and
  leaves the table.
-/

namespace HomeBus

/-- Whether a request has returned or was dropped. -/
def RequestState.isOver : RequestState → Bool
  | .fresh | .running _ => false
  | .finished _ | .dropped => true

/-- What a request waits for, once its message has a uid. -/
def RequestTask.expectation (task : RequestTask) (uid : String) : Expectation :=
  ⟨uid, task.responseTopic, task.filter.service, task.filter.msgType⟩

namespace Correlation

/-- A request that was registered ends: its entry and its waiter leave the table. -/
def close (c : Correlation) (i : ℕ) (task : RequestTask) (r : Running) (state : RequestState) :
    Correlation :=
  { c with
    table := Function.update c.table task.party
      ((c.table task.party).map (PendingTable.withdraw · r.message.uid r.ticket))
    request := Function.update c.request i (some { task with state }) }

@[simp] theorem request_close_self (c : Correlation) (i : ℕ) (task : RequestTask) (r : Running)
    (state : RequestState) : (c.close i task r state).request i = some { task with state } :=
  Function.update_self ..

/-- Whether nothing has come for a request yet. -/
def Waits (c : Correlation) (task : RequestTask) (r : Running) : Prop :=
  ∀ t, c.table task.party = some t → t.slot r.ticket = .waiting

/-- Whether a request stands on the hub and only waits for its reply. -/
def Listens (c : Correlation) (task : RequestTask) (r : Running) : Prop :=
  c.kind task.party = some .memory ∧ r.stage = .awaiting

/-- Why a request ends. If its reply was `due` to be looked at, no other reason but a signal to
    cancel that came first counts while there is a reply. -/
inductive Verdict (c : Correlation) (task : RequestTask) (r : Running) (cancelFirst : Bool)
    (due : Prop) : Except Error (Option Message) → Prop where
  | replied {t m} : c.table task.party = some t → t.slot r.ticket = .answered m →
      Verdict c task r cancelFirst due (.ok (some m))
  | closed {t} : c.table task.party = some t →
      t.slot r.ticket = .closed ∨ t.slot r.ticket = .gone →
      Verdict c task r cancelFirst due (.ok none)
  | expired : r.deadline ≤ c.clock → (due → c.Waits task r) →
      Verdict c task r cancelFirst due (.ok none)
  | cancelled : task.cancellable = true → task.cancelled = true →
      cancelFirst = true ∨ (due → c.Waits task r) → Verdict c task r cancelFirst due (.ok none)
  | failed {e} : ¬ due → Verdict c task r cancelFirst due (.error e)

/-- What becomes of the correlation when a registered request is looked at. -/
inductive Look (c : Correlation) (i : ℕ) (task : RequestTask) (r : Running) (cancelFirst : Bool)
    (due : Prop) : Correlation → Prop where
  | goesOn {stage} : c.clock < r.deadline → ¬ (task.cancellable = true ∧ task.cancelled = true) →
      (due → c.Waits task r) → (c.Listens task r → stage = .awaiting) →
      Look c i task r cancelFirst due
        (c.setRequest i { task with state := .running { r with stage } })
  | ends {result} : Verdict c task r cancelFirst due result →
      Look c i task r cancelFirst due (c.close i task r (.finished result))

end Correlation

namespace Network

variable {net : Network}

/-! ## Exchanges -/

/-- How far an exchange came, and what it did to the correlation: it looked at the reply, or at
    nothing. -/
inductive Exchanged (c : Correlation) (task : RequestTask) (r : Running) (due : Prop) :
    Network × Exchange → Prop where
  | waits {net' stage} : net'.correlation = c → (due → c.Waits task r) →
      (c.Listens task r → stage = .awaiting) → Exchanged c task r due (net', .waiting stage)
  | fails {net' e} : net'.correlation = c → ¬ due →
      Exchanged c task r due (net', .finished (.error e))
  | closed {net' t} : net'.correlation = c → c.table task.party = some t →
      t.slot r.ticket = .closed ∨ t.slot r.ticket = .gone →
      Exchanged c task r due (net', .finished (.ok none))
  | replied {net' t m} : c.table task.party = some t → t.slot r.ticket = .answered m →
      net'.correlation = c.setTable task.party (t.setSlot r.ticket .closed) →
      Exchanged c task r due (net', .finished (.ok (some m)))

theorem exchanged_awaitReply (net : Network) (task : RequestTask) (r : Running) (due : Prop) :
    Exchanged net.correlation task r due (net.awaitReply task r) := by
  unfold awaitReply
  split
  · next none_ =>
    refine .waits rfl (fun _ t here => ?_) fun _ => rfl
    simp [correlation, table?, none_] at here
  · next engine here =>
    have table : net.correlation.table task.party = some engine.pending := by
      simp [correlation, table?, here]
    have same : (net.setEngine task.party engine).correlation = net.correlation :=
      correlation_setEngine_of_pending net here rfl rfl rfl
    unfold PendingTable.receive
    cases slot : engine.pending.slot r.ticket with
    | waiting =>
      refine .waits same (fun _ t eq => ?_) fun _ => rfl
      rw [table] at eq
      cases eq
      exact slot
    | answered m => exact .replied table slot (correlation_setEngine net here _ rfl rfl)
    | closed => exact .closed same table (.inl slot)
    | gone => exact .closed same table (.inr slot)

/-- A call of an endpoint of the hub is answered at once. -/
theorem call_ne_waiting {party : ℕ} {facade : Facade} (here : net.facade? party = some facade)
    (memory : net.correlation.kind party = some .memory) (call : Call) (w : Wait) :
    (net.call facade.endpoint call).2 ≠ .waiting w := by
  simp only [correlation, here, Option.map_some, Option.bind_some, Option.map_eq_some_iff] at memory
  obtain ⟨e, endpoint, kind⟩ := memory
  simp [Network.call, endpoint, kind]

section Exchange

variable {c : Correlation} {due : Prop} (h : net.correlation = c) (task : RequestTask)
  (r : Running) (notDue : ¬ due)

include h notDue

theorem exchanged_afterPublish {progress : Progress}
    (off : ∀ w, progress = .waiting w → ¬ c.Listens task r) :
    Exchanged c task r due (net.afterPublish task r progress) := by
  cases progress with
  | done result =>
    cases result with
    | ok => exact h ▸ exchanged_awaitReply net task r due
    | error e => exact .fails h notDue
  | waiting w => exact .waits h (absurd · notDue) fun listens => absurd listens (off w rfl)

theorem exchanged_publishRequest : Exchanged c task r due (net.publishRequest task r) := by
  unfold publishRequest
  split
  · next engine facade _ here =>
    split
    · exact .fails h notDue
    · next payload _ =>
      dsimp only
      refine exchanged_afterPublish ((correlation_call ..).trans h) task r notDue ?_
      intro w waiting listens
      exact call_ne_waiting here (h ▸ listens.1) _ w waiting
  · exact .waits h (absurd · notDue) fun _ => rfl

theorem exchanged_afterSubscribe (qos : QoS) {progress : Progress}
    (off : ∀ w, progress = .waiting w → ¬ c.Listens task r) :
    Exchanged c task r due (net.afterSubscribe task r qos progress) := by
  cases progress with
  | done result =>
    cases result with
    | ok => exact exchanged_publishRequest ((correlation_remember ..).trans h) task r notDue
    | error e => exact .fails h notDue
  | waiting w => exact .waits h (absurd · notDue) fun listens => absurd listens (off w rfl)

end Exchange

theorem exchanged_startExchange (net : Network) (task : RequestTask) (r : Running) :
    Exchanged net.correlation task r False (net.startExchange task r) := by
  unfold startExchange
  split
  · exact .waits rfl False.elim fun _ => rfl
  · next facade here =>
    split
    · exact exchanged_publishRequest rfl task r id
    · dsimp only
      refine exchanged_afterSubscribe (correlation_call ..) task r id _ ?_
      intro w waiting listens
      exact call_ne_waiting here listens.1 _ w waiting

theorem exchanged_resumeExchange (net : Network) (task : RequestTask) (r : Running) :
    Exchanged net.correlation task r (net.correlation.Listens task r)
      (net.resumeExchange task r) := by
  have busy {stage : Stage} (at_ : r.stage = stage) (ne : stage ≠ .awaiting) :
      ¬ net.correlation.Listens task r := fun listens => ne (at_.symm.trans listens.2)
  unfold resumeExchange
  split
  · next none_ =>
    have off : ¬ net.correlation.Listens task r := by
      intro listens
      have kind := listens.1
      simp [correlation, none_] at kind
    exact .waits rfl (absurd · off) (absurd · off)
  · next facade here =>
    split
    · next w at_ =>
      have off := busy at_ (by simp)
      exact exchanged_afterSubscribe (correlation_resume ..) task r off _ fun _ _ => off
    · next w at_ =>
      have off := busy at_ (by simp)
      exact exchanged_afterPublish (correlation_resume ..) task r off fun _ _ => off
    · exact exchanged_awaitReply net task r _

/-! ## Looking at a registered request -/

theorem correlation_endRequest {i : ℕ} {old : RequestTask} (h : net.request? i = some old)
    (task : RequestTask) (r : Running) (state : RequestState) :
    (net.endRequest i task r state).correlation = net.correlation.close i task r state := by
  have withdrawn : (net.withdraw task.party r).correlation =
      { net.correlation with
        table := Function.update net.correlation.table task.party
          ((net.table? task.party).map (PendingTable.withdraw · r.message.uid r.ticket)) } :=
    correlation_modifyPending net task.party fun t => t.withdraw r.message.uid r.ticket
  have still : (net.withdraw task.party r).request? i = some old :=
    (congrArg (Correlation.request · i) withdrawn).trans h
  rw [endRequest, correlation_setRequest _ still, withdrawn]
  rfl

/-- What is decided after an exchange was looked at. -/
theorem look_conclude {i : ℕ} {task old : RequestTask} {r : Running} {due : Prop}
    {out : Network × Exchange} (cancelFirst : Bool) (h : net.request? i = some old)
    (exchanged : Exchanged net.correlation task r due out) :
    net.correlation.Look i task r cancelFirst due
      (out.1.conclude i task r out.2).correlation := by
  -- a network with the same requests closes a request as `net` does
  have closed {net' : Network} (same : net'.correlation = net.correlation) (state : RequestState) :
      (net'.endRequest i task r state).correlation = net.correlation.close i task r state := by
    have still : net'.request? i = some old := (congrArg (Correlation.request · i) same).trans h
    rw [correlation_endRequest still, same]
  cases exchanged with
  | @waits net' stage same waits awaiting =>
    have clock : net'.clock = net.correlation.clock := congrArg Correlation.clock same
    simp only [conclude]
    split
    · next late =>
      rw [closed same]
      exact .ends (.expired (clock ▸ late) waits)
    · next early =>
      split
      · next signal =>
        rw [Bool.and_eq_true] at signal
        rw [closed same]
        exact .ends (.cancelled signal.1 signal.2 (.inr waits))
      · next quiet =>
        have still : net'.request? i = some old :=
          (congrArg (Correlation.request · i) same).trans h
        rw [correlation_setRequest _ still, same]
        refine .goesOn (Nat.lt_of_not_le (clock ▸ early)) ?_ waits awaiting
        simpa using quiet
  | fails same notDue =>
    simp only [conclude, closed same]
    exact .ends (.failed notDue)
  | closed same table slot =>
    simp only [conclude, closed same]
    exact .ends (.closed table slot)
  | @replied net' t m table slot taken =>
    have still : net'.request? i = some old := (congrArg (Correlation.request · i) taken).trans h
    have eq : (net'.endRequest i task r (.finished (.ok (some m)))).correlation =
        net.correlation.close i task r (.finished (.ok (some m))) := by
      rw [correlation_endRequest still, taken]
      unfold Correlation.close Correlation.setTable
      apply Correlation.ext
      · rfl
      · rfl
      · simp only [Function.update_self, Function.update_idem, table, Option.map_some]
        rw [PendingTable.withdraw_setSlot t _ (by simp [slot]) (by simp)]
      · rfl
      · rfl
    simp only [conclude, eq]
    exact .ends (.replied table slot)

theorem look_of_exchanged {i : ℕ} {task old : RequestTask} {r : Running} {due : Prop}
    {exchange : Network → RequestTask → Running → Network × Exchange} (cancelFirst : Bool)
    (h : net.request? i = some old)
    (exchanged : Exchanged net.correlation task r due (exchange net task r)) :
    net.correlation.Look i task r cancelFirst due
      (net.look i task r cancelFirst exchange).correlation := by
  unfold look
  split
  · next signal =>
    simp only [Bool.and_eq_true] at signal
    rw [correlation_endRequest h]
    exact .ends (.cancelled signal.1.2 signal.2 (.inl signal.1.1))
  · exact look_conclude cancelFirst h exchanged

end Network

end HomeBus
