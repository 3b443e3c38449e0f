import HomeBus.Proofs.Network.Ledger
import HomeBus.Proofs.Pending.Run

/-!
# What the waiters of requests see

The waiter of a request waits from its registration until a delivery completes the entry, and then
sees the message until the request is over. Nothing else that happens to other requests, and no
other delivery, changes what it sees.

Results:
* `Network.waiter_step`: a step changes what the waiter of a request sees only if it dispatches the
  delivery that completes the request's entry.
* `Network.holds_or_spent_run`: once a request has left its entry, nothing is ever handed to its
  waiter.
* `Network.regular_run`: a request under way carries the message it was made for, and over the hub
  only waits for its reply.
-/

namespace HomeBus

namespace Ledger

variable {l : Ledger}

/-- What the waiter of a request sees. -/
def slot (l : Ledger) (h : Hold) : Option Slot :=
  (l.table h.party).map (PendingTable.slot · h.ticket)

/-- The waiter of a request looks at the table of its party. -/
theorem slot_of_table {h : Hold} {t : PendingTable} (table : l.table h.party = some t) :
    l.slot h = some (t.slot h.ticket) := by
  rw [slot, table, Option.map_some]

theorem slot_setTable_of_ne {party : ℕ} (t : PendingTable) {h : Hold} (ne : h.party ≠ party) :
    (l.setTable party t).slot h = l.slot h := by
  rw [slot, table_setTable_of_ne l t ne, slot]

theorem slot_setTable_self {party : ℕ} (t : PendingTable) {h : Hold} (eq : h.party = party) :
    (l.setTable party t).slot h = some (t.slot h.ticket) :=
  slot_of_table (eq ▸ table_setTable_self ..)

/-- A message is seen by the waiter that takes it and by no other one. -/
theorem Consistent.slot_offer (c : l.Consistent) {party : ℕ} {t : PendingTable}
    (table : l.table party = some t) (strict : Bool) (topic : String) (m : Message) (h : Hold) :
    (l.setTable party (t.complete strict topic m).1).slot h = l.slot h ∨
      party = h.party ∧ (t.complete strict topic m).2 = some h.ticket ∧
        (l.setTable party (t.complete strict topic m).1).slot h = some (.answered m) := by
  by_cases here : h.party = party
  · subst here
    rw [slot_setTable_self _ rfl, slot_of_table table]
    by_cases taken : (t.complete strict topic m).2 = some h.ticket
    · refine .inr ⟨rfl, taken, ?_⟩
      rw [(c.sound table).slot_complete_of_eq strict topic m taken]
    · exact .inl (congrArg some (PendingTable.slot_complete_of_ne strict topic m taken))
  · exact .inl (slot_setTable_of_ne _ here)

/-- A request that is refused concerns no waiter of another one. -/
theorem Consistent.slot_refuse (c : l.Consistent) {party : ℕ} {t : PendingTable}
    (table : l.table party = some t) {e : Expectation} (present : e.uid ∈ t.keys) {i : ℕ} {h : Hold}
    (hold : l.hold i = some h) : (l.setTable party (t.refuse e)).slot h = l.slot h := by
  by_cases here : h.party = party
  · subst here
    have other : h.ticket ≠ t.nextTicket e.uid := fun same =>
      (c.sound table).nextTicket_not_mem e.uid (same ▸ c.handed hold table)
    rw [slot_setTable_self _ rfl, slot_of_table table, PendingTable.slot_refuse present other]
  · exact slot_setTable_of_ne _ here

/-- A request that is registered concerns no waiter of another one. -/
theorem Consistent.slot_enter (c : l.Consistent) {party : ℕ} {t : PendingTable}
    (table : l.table party = some t) {e : Expectation} (absent : e.uid ∉ t.keys) (i : ℕ) {j : ℕ}
    {h : Hold} (hold : l.hold j = some h) : (l.enter i party t e).slot h = l.slot h := by
  by_cases here : h.party = party
  · subst here
    have other : h.ticket ≠ t.nextTicket e.uid := fun same =>
      (c.sound table).nextTicket_not_mem e.uid (same ▸ c.handed hold table)
    rw [slot_of_table table, slot_of_table (table_enter_self l t e),
      PendingTable.register_of_not_mem absent, PendingTable.slot_append_of_ne _ other]
  · rw [slot, table_enter_of_ne l t e here, slot]

/-- A request that is registered waits. -/
theorem Consistent.slot_enter_self (c : l.Consistent) {party : ℕ} {t : PendingTable}
    (table : l.table party = some t) {e : Expectation} (absent : e.uid ∉ t.keys) (i : ℕ) :
    (l.enter i party t e).slot ⟨party, e, t.nextTicket e.uid⟩ = some .waiting := by
  refine (slot_of_table (table_enter_self l t e)).trans ?_
  rw [PendingTable.register_of_not_mem absent,
    PendingTable.slot_append_self _ ((c.sound table).nextTicket_not_mem e.uid)]

/-- A request that leaves its entry concerns no waiter of another one. -/
theorem Consistent.slot_leave (c : l.Consistent) {i j : ℕ} {h h' : Hold} (hold : l.hold i = some h)
    (hold' : l.hold j = some h') (ne : i ≠ j) : (l.leave j h').slot h = l.slot h := by
  by_cases here : h.party = h'.party
  · obtain ⟨t, table, completed, mem⟩ := c.listed hold'
    have other : h.ticket ≠ h'.ticket := fun same => ne (c.apart hold hold' here same)
    have kept : ∀ entry, (h'.expectation.uid, entry) ∈ t.entries → entry.ticket ≠ h.ticket := by
      intro entry memEntry same
      have eq := (c.sound table).entry_unique memEntry mem rfl
      exact other (same.symm.trans (congrArg (·.2.ticket) eq))
    have before : l.table h.party = some t := here ▸ table
    have after : (l.leave j h').table h.party = _ := here ▸ table_leave_self table
    rw [slot_of_table before, slot_of_table after, PendingTable.slot_withdraw_of_ne _ other kept]
  · rw [slot, table_leave_of_ne l here, slot]

/-! ### Waiters that have nothing to wait for -/

/-- Whether a waiter has nothing to wait for any more. -/
def Spent (l : Ledger) (party : ℕ) (ticket : Ticket) : Prop :=
  ∃ t, l.table party = some t ∧ t.Spent ticket

/-- A table changes, and its waiters that have nothing to wait for go on so. -/
theorem Spent.update {party other : ℕ} {ticket : Ticket} (s : l.Spent party ticket)
    {t t' : PendingTable} {hold : ℕ → Option Hold} (table : l.table other = some t)
    (keeps : t.Spent ticket → t'.Spent ticket) :
    (Ledger.mk hold (Function.update l.table other (some t'))).Spent party ticket := by
  obtain ⟨u, at_, spent⟩ := s
  by_cases same : party = other
  · subst same
    cases table.symm.trans at_
    exact ⟨t', Function.update_self .., keeps spent⟩
  · exact ⟨u, (Function.update_of_ne same ..).trans at_, spent⟩

theorem Spent.setTable {party other : ℕ} {ticket : Ticket} (s : l.Spent party ticket)
    {t t' : PendingTable} (table : l.table other = some t)
    (keeps : t.Spent ticket → t'.Spent ticket) : (l.setTable other t').Spent party ticket :=
  s.update table keeps

theorem Spent.enter {party other : ℕ} {ticket : Ticket} (s : l.Spent party ticket)
    (c : l.Consistent) {t : PendingTable} (table : l.table other = some t) (e : Expectation)
    (i : ℕ) : (l.enter i other t e).Spent party ticket :=
  s.update table fun spent => spent.apply (c.sound table) (.register e)

theorem Spent.leave {party : ℕ} {ticket : Ticket} (s : l.Spent party ticket) (c : l.Consistent)
    {i : ℕ} {h : Hold} (holds : l.hold i = some h) : (l.leave i h).Spent party ticket := by
  obtain ⟨t, table, -⟩ := c.listed holds
  have sound := c.sound table
  rw [Ledger.leave, table]
  refine s.update table fun spent => ?_
  exact (spent.apply sound (.remove h.expectation.uid)).apply (PendingTable.sound_remove sound _)
    (.leave h.ticket)

/-- The waiter of a request that leaves its entry has nothing to wait for. -/
theorem Consistent.spent_leave (c : l.Consistent) {i : ℕ} {h : Hold} (holds : l.hold i = some h) :
    (l.leave i h).Spent h.party h.ticket := by
  obtain ⟨t, table, -⟩ := c.listed holds
  have handed : h.ticket ∈ (t.remove h.expectation.uid).1.tickets := by
    rw [PendingTable.tickets_remove]
    exact c.handed holds table
  refine ⟨_, table_leave_self table, ?_, ?_⟩
  · rwa [PendingTable.withdraw, PendingTable.leave, PendingTable.tickets_setSlot]
  · rw [PendingTable.withdraw, PendingTable.leave, PendingTable.slot_setSlot_self handed]
    simp

end Ledger

namespace Network

variable {net : Network}

theorem completes_eq {d : Dispatch} {m : Message} (carries : d.Carries m) : d.completes =
    (d.engine.pending.complete d.engine.strict d.delivery.topic m).2 := by
  rw [Dispatch.completes, Engine.dispatch, carries]
  rfl

/-- A delivery that completes an entry carries a message. -/
theorem exists_carries_of_completes {d : Dispatch} {ticket : Ticket}
    (h : d.completes = some ticket) : ∃ m, d.Carries m := by
  unfold Dispatch.completes Engine.dispatch at h
  unfold Dispatch.Carries
  cases decoded : d.engine.codec.decode d.delivery.payload with
  | ok m => exact ⟨m, rfl⟩
  | error e =>
    rw [decoded] at h
    cases h

/-- Whether the next delivery of a session completes an entry with a message. -/
structure Completes (net : Network) (session : ℕ) (h : Hold) (m : Message) (d : Dispatch) :
    Prop where
  dispatched : net.dispatch? session = some d
  carries : d.Carries m
  party : d.party = h.party
  completes : d.completes = some h.ticket

/-- A step changes what the waiter of a request sees only if it dispatches the delivery that
    completes the request's entry; a request that is registered waits. -/
theorem waiter_step (c : net.ledger.Consistent) (a : Action) {i : ℕ} {h : Hold}
    (hold : (net.step a).ledger.hold i = some h) :
    net.ledger.hold i = none ∧ (net.step a).ledger.slot h = some .waiting ∨
      net.ledger.hold i = some h ∧ ((net.step a).ledger.slot h = net.ledger.slot h ∨
        ∃ session m d, a = .deliver session ∧ net.Completes session h m d ∧
          (net.step a).ledger.slot h = some (.answered m)) := by
  have turn := turn_step net a
  generalize (net.step a).ledger = l at turn hold
  cases turn with
  | still => exact .inr ⟨hold, .inl rfl⟩
  | @offered session d m here carries =>
    refine .inr ⟨hold, ?_⟩
    rcases c.slot_offer (table_of_dispatch here) d.engine.strict d.delivery.topic m h with
      eq | ⟨party, taken, eq⟩
    · exact .inl eq
    · have completes := (completes_eq carries).trans taken
      exact .inr ⟨session, m, d, rfl, ⟨here, carries, party, completes⟩, eq⟩
  | refused _ table present => exact .inr ⟨hold, .inl (c.slot_refuse table present hold)⟩
  | @entered _ new t first table =>
    obtain ⟨free, absent⟩ := of_admission first table
    rcases Ledger.hold_enter_eq_some hold with ⟨rfl, rfl⟩ | ⟨-, hold⟩
    · exact .inl ⟨free, c.slot_enter_self table absent _⟩
    · exact .inr ⟨hold, .inl (c.slot_enter table absent _ hold)⟩
  | left _ holds =>
    obtain ⟨ne, hold⟩ := Ledger.hold_leave_eq_some hold
    exact .inr ⟨hold, .inl (c.slot_leave hold holds ne)⟩
  | @passed _ new t first table =>
    obtain ⟨free, absent⟩ := of_admission first table
    obtain ⟨ne, hold⟩ := Ledger.hold_leave_eq_some hold
    have entered := c.enter free table absent
    have eq := entered.slot_leave hold (Ledger.hold_enter_self ..) ne
    rw [Ledger.hold_enter_of_ne _ _ _ ne] at hold
    exact .inr ⟨hold, .inl (eq.trans (c.slot_enter table absent _ hold))⟩

/-- A waiter that has nothing to wait for never will. -/
theorem spent_step (c : net.ledger.Consistent) {party : ℕ} {ticket : Ticket}
    (s : net.ledger.Spent party ticket) (a : Action) : (net.step a).ledger.Spent party ticket := by
  have turn := turn_step net a
  generalize (net.step a).ledger = l at turn
  cases turn with
  | still => exact s
  | @offered _ d m here =>
    have table := table_of_dispatch here
    exact s.setTable table fun spent =>
      spent.apply (c.sound table) (.complete d.engine.strict d.delivery.topic m)
  | @refused _ task _ _ table =>
    have sound := c.sound table
    refine s.setTable table fun spent => ?_
    exact (spent.apply sound (.register (task.expectation (net.uidOf task)))).apply
      (PendingTable.sound_register sound _) (.leave _)
  | entered new table => exact s.enter c table ..
  | left _ holds => exact s.leave c holds
  | passed new table =>
    obtain ⟨free, absent⟩ := of_admission new table
    exact (s.enter c table ..).leave (c.enter free table absent) (Ledger.hold_enter_self ..)

/-- A request goes on to hold its entry, or leaves it, and then its waiter has nothing to wait
    for. -/
theorem holds_or_spent_step (c : net.ledger.Consistent) {i : ℕ} {h : Hold}
    (hold : net.ledger.hold i = some h) (a : Action) :
    (net.step a).ledger.hold i = some h ∨ (net.step a).ledger.Spent h.party h.ticket := by
  have turn := turn_step net a
  generalize (net.step a).ledger = l at turn
  have other {new : Admission} {t : PendingTable} (first : net.admission? a = some new)
      (table : net.table? new.party = some t) : i ≠ new.call := by
    rintro rfl
    cases (of_admission first table).1.symm.trans hold
  cases turn with
  | still | offered | refused => exact .inl hold
  | entered first table =>
    exact .inl ((Ledger.hold_enter_of_ne _ _ _ (other first table)).trans hold)
  | @left _ j h' _ holds =>
    by_cases same : i = j
    · subst same
      cases hold.symm.trans holds
      exact .inr (c.spent_leave hold)
    · exact .inl ((Ledger.hold_leave_of_ne _ same).trans hold)
  | passed first table =>
    have ne := other first table
    exact .inl ((Ledger.hold_leave_of_ne _ ne).trans
      ((Ledger.hold_enter_of_ne _ _ _ ne).trans hold))

/-- Once a request has left its entry, its waiter has nothing to wait for in the rest of a run. -/
theorem holds_or_spent_run (c : net.ledger.Consistent) {i : ℕ} {h : Hold}
    (hold : net.ledger.hold i = some h) (actions : List Action) :
    (net.run actions).ledger.hold i = some h ∨ (net.run actions).ledger.Spent h.party h.ticket := by
  induction actions using List.reverseRecOn with
  | nil => exact .inl hold
  | append_singleton actions a ih =>
    rw [run_concat]
    rcases ih with hold | spent
    · exact holds_or_spent_step (consistent_run c actions) hold a
    · exact .inr (spent_step (consistent_run c actions) spent a)

/-! ## Requests under way -/

/-- Whether a party's facade stands on an endpoint of the hub. -/
def OnHub (net : Network) (party : ℕ) : Prop := net.correlation.kind party = some .memory

/-- What holds of a request under way. -/
structure RegularAs (c : Correlation) (task : RequestTask) (r : Running) : Prop where
  /-- Its message is the one that it was made for, with an identity. -/
  identified : ∃ id, r.message = task.message.ensureIdentity id
  /-- Over the hub it only waits for its reply. -/
  awaiting : c.kind task.party = some .memory → r.stage = .awaiting

/-- What holds of all requests under way. -/
def Regular (c : Correlation) : Prop :=
  ∀ i task r, c.request i = some task → task.state = .running r → RegularAs c task r

/-- A request changes, and is regular if it goes on. -/
theorem Regular.update {c c' : Correlation} (h : Regular c) {i : ℕ} {task : RequestTask}
    (request : c'.request = Function.update c.request i (some task)) (kind : c'.kind = c.kind)
    (own : ∀ r, task.state = .running r → RegularAs c task r) : Regular c' := by
  intro j other r here running
  rw [request] at here
  by_cases same : j = i
  · subst same
    rw [Function.update_self] at here
    cases here
    exact ⟨(own r running).identified, kind ▸ (own r running).awaiting⟩
  · rw [Function.update_of_ne same] at here
    exact ⟨(h j other r here running).identified, kind ▸ (h j other r here running).awaiting⟩

theorem Regular.of_eq {c c' : Correlation} (h : Regular c) (request : c'.request = c.request)
    (kind : c'.kind = c.kind) : Regular c' := by
  intro i task r here running
  have own := h i task r (request ▸ here) running
  exact ⟨own.identified, kind ▸ own.awaiting⟩

/-- A registered request that is looked at is regular if it goes on. -/
theorem Regular.look {c c' : Correlation} (h : Regular c) {i : ℕ} {task : RequestTask} {r : Running}
    {cancelFirst : Bool} {due : Prop} (look : c.Look i task r cancelFirst due c')
    (own : RegularAs c task r) : Regular c' := by
  cases look with
  | goesOn _ _ _ awaiting =>
    refine h.update rfl rfl fun r' running => ?_
    cases running
    exact ⟨own.identified, fun memory => awaiting ⟨memory, own.awaiting memory⟩⟩
  | ends => exact h.update rfl rfl fun _ running => nomatch running

theorem exists_identify (net : Network) (m : Message) :
    ∃ id, (net.identify m).2 = m.ensureIdentity id := by
  unfold identify
  split
  · next complete =>
    have full : m.uid ≠ "" ∧ m.ctime ≠ "" := by simpa [Message.isComplete] using complete
    exact ⟨⟨"", ""⟩, by simp [Message.ensureIdentity, full.1, full.2]⟩
  · exact ⟨_, rfl⟩

theorem regular_step (h : Regular net.correlation) (a : Action) :
    Regular (net.step a).correlation := by
  have effect := effect_step net a
  generalize (net.step a).correlation = c at effect
  cases effect with
  | idle => exact h
  | elapsed | dispatched => exact h.of_eq rfl rfl
  | opened => exact h.update rfl rfl fun _ running => nomatch running
  | @signalled i task here =>
    exact h.update rfl rfl fun r running =>
      ⟨(h i task r here running).identified, (h i task r here running).awaiting⟩
  | discarded | dropped | refused => exact h.update rfl rfl fun _ running => nomatch running
  | @started _ _ task t _ _ _ _ _ look =>
    have registered : Regular (net.correlation.setTable task.party
        (t.register (task.expectation (net.uidOf task))).1) := h.of_eq rfl rfl
    exact registered.look look ⟨exists_identify net task.message, fun _ => rfl⟩
  | looked here running look => exact h.look look (h _ _ _ here running)

theorem regular_run (h : Regular net.correlation) (actions : List Action) :
    Regular (net.run actions).correlation := by
  induction actions using List.reverseRecOn with
  | nil => exact h
  | append_singleton actions a ih =>
    rw [run_concat]
    exact regular_step ih a

theorem Initial.regular (initial : net.Initial) : Regular net.correlation := by
  intro i task r here
  cases (initial.request i).symm.trans here

theorem kind_step (net : Network) (a : Action) :
    (net.step a).correlation.kind = net.correlation.kind := by
  have effect := effect_step net a
  generalize (net.step a).correlation = c at effect
  cases effect with
  | started _ _ _ _ look | looked _ _ look => cases look <;> rfl
  | _ => rfl

theorem kind_run (net : Network) (actions : List Action) :
    (net.run actions).correlation.kind = net.correlation.kind := by
  induction actions using List.reverseRecOn with
  | nil => rfl
  | append_singleton actions a ih => rw [run_concat, kind_step, ih]

end Network

end HomeBus
