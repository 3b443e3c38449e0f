import HomeBus.Proofs.Network.Effect
import Mathlib.Data.List.Induction

/-!
# Who holds which entry

The ledger of a network says of each request that was registered and is under way which entry it
holds, next to the tables of all parties. A step changes a ledger in one of few ways: a message is
offered to a table, a request is refused, a request enters its entry or leaves it, or it does both
at once.

Results:
* `Ledger.Consistent`: the holds of a ledger and the entries of its tables stand for each other, and
  no two requests hold the same entry. It is kept by all that a step can do.
* `Network.turn_step`: what every step does to the ledger.
* `Network.consistent_run`: the ledger is consistent in every run.
-/

namespace HomeBus

/-- The entry that a request holds: whose table it is in, what it waits for, and its waiter. -/
@[ext] structure Hold where
  party : ℕ
  expectation : Expectation
  ticket : Ticket

/-- The entry of a hold in its table. -/
def Hold.entry (h : Hold) (completed : Bool) : String × PendingRequest :=
  (h.expectation.uid, ⟨h.expectation, h.ticket, completed⟩)

@[ext] structure Ledger where
  /-- What each request holds. -/
  hold : ℕ → Option Hold
  /-- The pending requests of each party. -/
  table : ℕ → Option PendingTable

namespace Ledger

def setTable (l : Ledger) (party : ℕ) (t : PendingTable) : Ledger :=
  { l with table := Function.update l.table party (some t) }

/-- A request is registered with a party. -/
def enter (l : Ledger) (i : ℕ) (party : ℕ) (t : PendingTable) (e : Expectation) : Ledger where
  hold := Function.update l.hold i (some ⟨party, e, t.nextTicket e.uid⟩)
  table := Function.update l.table party (some (t.register e).1)

/-- A request gives up what it holds. -/
def leave (l : Ledger) (i : ℕ) (h : Hold) : Ledger where
  hold := Function.update l.hold i none
  table := Function.update l.table h.party
    ((l.table h.party).map (PendingTable.withdraw · h.expectation.uid h.ticket))

/-- What an updated partial function gives is the new value at its place, or was there before. -/
theorem update_eq_some {α : Type} {f : ℕ → Option α} {i j : ℕ} {new a : α}
    (h : Function.update f i (some new) j = some a) :
    j = i ∧ a = new ∨ j ≠ i ∧ f j = some a := by
  rw [Function.update_apply] at h
  split at h
  · next same => exact .inl ⟨same, (Option.some.inj h).symm⟩
  · next ne => exact .inr ⟨ne, h⟩

section

variable (l : Ledger) {i j party other : ℕ} (t : PendingTable) (e : Expectation) {h : Hold}

@[simp] theorem table_setTable_self : (l.setTable party t).table party = some t :=
  Function.update_self ..

theorem table_setTable_of_ne (ne : other ≠ party) :
    (l.setTable party t).table other = l.table other :=
  Function.update_of_ne ne ..

@[simp] theorem hold_enter_self :
    (l.enter i party t e).hold i = some ⟨party, e, t.nextTicket e.uid⟩ :=
  Function.update_self ..

theorem hold_enter_of_ne (ne : j ≠ i) : (l.enter i party t e).hold j = l.hold j :=
  Function.update_of_ne ne ..

@[simp] theorem table_enter_self : (l.enter i party t e).table party = some (t.register e).1 :=
  Function.update_self ..

theorem table_enter_of_ne (ne : other ≠ party) :
    (l.enter i party t e).table other = l.table other :=
  Function.update_of_ne ne ..

@[simp] theorem hold_leave_self : (l.leave i h).hold i = none := Function.update_self ..

theorem hold_leave_of_ne (ne : j ≠ i) : (l.leave i h).hold j = l.hold j :=
  Function.update_of_ne ne ..

theorem table_leave_self {l : Ledger} {t : PendingTable} (table : l.table h.party = some t) :
    (l.leave i h).table h.party = some (t.withdraw h.expectation.uid h.ticket) := by
  rw [leave, table]
  exact Function.update_self ..

theorem table_leave_of_ne (ne : other ≠ h.party) : (l.leave i h).table other = l.table other :=
  Function.update_of_ne ne ..

variable {l} {t} {e} {u : PendingTable} {held : Hold}

theorem table_setTable_eq_some (at_ : (l.setTable party t).table other = some u) :
    other = party ∧ u = t ∨ other ≠ party ∧ l.table other = some u :=
  update_eq_some at_

theorem hold_enter_eq_some (hold : (l.enter i party t e).hold j = some held) :
    j = i ∧ held = ⟨party, e, t.nextTicket e.uid⟩ ∨ j ≠ i ∧ l.hold j = some held :=
  update_eq_some hold

theorem table_enter_eq_some (at_ : (l.enter i party t e).table other = some u) :
    other = party ∧ u = (t.register e).1 ∨ other ≠ party ∧ l.table other = some u :=
  update_eq_some at_

theorem hold_leave_eq_some (hold : (l.leave i h).hold j = some held) :
    j ≠ i ∧ l.hold j = some held := by
  by_cases same : j = i
  · subst same
    rw [hold_leave_self] at hold
    cases hold
  · exact ⟨same, (hold_leave_of_ne l same).symm.trans hold⟩

theorem table_leave_eq_some (table : l.table h.party = some t)
    (at_ : (l.leave i h).table other = some u) :
    other = h.party ∧ u = t.withdraw h.expectation.uid h.ticket ∨
      other ≠ h.party ∧ l.table other = some u := by
  rw [leave, table] at at_
  exact update_eq_some at_

/-- A request that enters its entry and leaves it at once. -/
theorem table_leave_enter (ticket : Ticket) :
    ((l.enter i party t e).leave j ⟨party, e, ticket⟩).table =
      Function.update l.table party (some ((t.register e).1.withdraw e.uid ticket)) := by
  simp only [leave, enter, Function.update_self, Option.map_some, Function.update_idem]

end

/-! ## Consistent ledgers -/

/-- What holds of a ledger in every state. -/
structure Consistent (l : Ledger) : Prop where
  sound : ∀ {party t}, l.table party = some t → t.Sound
  /-- What a request holds is in the table. -/
  listed : ∀ {i h}, l.hold i = some h →
    ∃ t, l.table h.party = some t ∧ ∃ completed, h.entry completed ∈ t.entries
  /-- An entry is held by a request. -/
  owned : ∀ {party t entry}, l.table party = some t → entry ∈ t.entries →
    ∃ i h, l.hold i = some h ∧ h.party = party ∧ h.ticket = entry.2.ticket
  /-- Two requests never hold the same entry. -/
  apart : ∀ {i j h h'}, l.hold i = some h → l.hold j = some h' → h.party = h'.party →
    h.ticket = h'.ticket → i = j

variable {l : Ledger}

/-- A request that holds an entry has been handed its ticket. -/
theorem Consistent.handed (c : l.Consistent) {i : ℕ} {h : Hold} {t : PendingTable}
    (hold : l.hold i = some h) (table : l.table h.party = some t) : h.ticket ∈ t.tickets := by
  obtain ⟨t', table', completed, mem⟩ := c.listed hold
  cases table.symm.trans table'
  exact (c.sound table).handed _ mem

/-- Requests that hold entries of one table hold different uids. -/
theorem Consistent.apart_of_uid (c : l.Consistent) {i j : ℕ} {h h' : Hold}
    (hold : l.hold i = some h) (hold' : l.hold j = some h') (party : h.party = h'.party)
    (uid : h.expectation.uid = h'.expectation.uid) : i = j := by
  obtain ⟨t, table, completed, mem⟩ := c.listed hold
  obtain ⟨t', table', completed', mem'⟩ := c.listed hold'
  cases (party ▸ table).symm.trans table'
  have same := (c.sound table').entry_unique mem mem' uid
  exact c.apart hold hold' party (congrArg (·.2.ticket) same)

/-- A ledger is consistent as long as a table changes but keeps who holds its entries. -/
theorem Consistent.setTable (c : l.Consistent) {party : ℕ} {t t' : PendingTable}
    (table : l.table party = some t) (sound : t'.Sound)
    (kept : ∀ h : Hold, ∀ completed, h.entry completed ∈ t.entries →
      ∃ completed', h.entry completed' ∈ t'.entries)
    (old : ∀ entry' ∈ t'.entries, ∃ entry ∈ t.entries, entry.2.ticket = entry'.2.ticket) :
    (l.setTable party t').Consistent := by
  refine ⟨fun {other u} at_ => ?_, fun {i h} hold => ?_, fun {other u entry} at_ mem => ?_,
    fun hold hold' => c.apart hold hold'⟩
  · rcases table_setTable_eq_some at_ with ⟨-, rfl⟩ | ⟨-, at_⟩
    · exact sound
    · exact c.sound at_
  · obtain ⟨u, at_, completed, mem⟩ := c.listed hold
    by_cases same : h.party = party
    · rw [same] at at_ ⊢
      cases table.symm.trans at_
      exact ⟨t', table_setTable_self .., kept h completed mem⟩
    · exact ⟨u, (table_setTable_of_ne l t' same).trans at_, completed, mem⟩
  · rcases table_setTable_eq_some at_ with ⟨rfl, rfl⟩ | ⟨-, at_⟩
    · obtain ⟨before, memBefore, ticket⟩ := old entry mem
      obtain ⟨i, h, hold, there, eq⟩ := c.owned table memBefore
      exact ⟨i, h, hold, there, eq.trans ticket⟩
    · exact c.owned at_ mem

/-- A message that is offered to a table changes nothing about who holds what. -/
theorem Consistent.offer (c : l.Consistent) {party : ℕ} {t : PendingTable}
    (table : l.table party = some t) (strict : Bool) (topic : String) (m : Message) :
    (l.setTable party (t.complete strict topic m).1).Consistent := by
  have sound := c.sound table
  refine c.setTable table (PendingTable.sound_complete strict topic m sound) ?_ ?_
  · intro h completed mem
    obtain ⟨entry', mem', ⟨rfl, -⟩ | ⟨rfl, -⟩⟩ := sound.exists_mem_complete strict topic m mem
    · exact ⟨completed, mem'⟩
    · exact ⟨true, mem'⟩
  · intro entry' mem'
    obtain ⟨entry, mem, ⟨rfl, -⟩ | ⟨rfl, -⟩⟩ := sound.exists_of_mem_complete strict topic m mem'
    · exact ⟨_, mem, rfl⟩
    · exact ⟨entry, mem, rfl⟩

/-- A request that is refused changes nothing about who holds what. -/
theorem Consistent.refuse (c : l.Consistent) {party : ℕ} {t : PendingTable}
    (table : l.table party = some t) {e : Expectation} (present : e.uid ∈ t.keys) :
    (l.setTable party (t.refuse e)).Consistent := by
  have entries := PendingTable.entries_refuse present
  refine c.setTable table (PendingTable.sound_refuse (c.sound table) e) ?_ ?_
  · intro h completed mem
    exact ⟨completed, entries ▸ mem⟩
  · intro entry mem
    exact ⟨entry, entries ▸ mem, rfl⟩

/-- A request that is registered holds a new entry. -/
theorem Consistent.enter (c : l.Consistent) {i party : ℕ} {t : PendingTable}
    (free : l.hold i = none) (table : l.table party = some t) {e : Expectation}
    (absent : e.uid ∉ t.keys) : (l.enter i party t e).Consistent := by
  have fresh := (c.sound table).nextTicket_not_mem e.uid
  have entries : (t.register e).1.entries =
      t.entries ++ [(e.uid, ⟨e, t.nextTicket e.uid, false⟩)] := by
    rw [PendingTable.register_of_not_mem absent]
  -- whoever holds an entry of this table has another ticket than the new one
  have old {j : ℕ} {h : Hold} (hold : l.hold j = some h) (there : party = h.party) :
      t.nextTicket e.uid ≠ h.ticket :=
    fun same => fresh (same ▸ c.handed hold (there ▸ table))
  have other {j : ℕ} {h : Hold} (hold : l.hold j = some h) : j ≠ i := by
    rintro rfl
    cases free.symm.trans hold
  refine ⟨fun {q u} at_ => ?_, fun {j h} hold => ?_, fun {q u entry} at_ mem => ?_,
    fun {j k h h'} hold hold' there same => ?_⟩
  · rcases table_enter_eq_some at_ with ⟨-, rfl⟩ | ⟨-, at_⟩
    · exact PendingTable.sound_register (c.sound table) e
    · exact c.sound at_
  · rcases hold_enter_eq_some hold with ⟨-, rfl⟩ | ⟨-, hold⟩
    · exact ⟨_, table_enter_self .., false, by simp [entries, Hold.entry]⟩
    · obtain ⟨u, at_, completed, mem⟩ := c.listed hold
      by_cases there : h.party = party
      · rw [there] at at_ ⊢
        cases table.symm.trans at_
        exact ⟨_, table_enter_self .., completed, by simp [entries, mem]⟩
      · exact ⟨u, (table_enter_of_ne l t e there).trans at_, completed, mem⟩
  · rcases table_enter_eq_some at_ with ⟨rfl, rfl⟩ | ⟨-, at_⟩
    · rw [entries, List.mem_append, List.mem_singleton] at mem
      rcases mem with mem | rfl
      · obtain ⟨j, h, hold, owns⟩ := c.owned table mem
        exact ⟨j, h, (hold_enter_of_ne l t e (other hold)).trans hold, owns⟩
      · exact ⟨i, _, hold_enter_self .., rfl, rfl⟩
    · obtain ⟨j, h, hold, owns⟩ := c.owned at_ mem
      exact ⟨j, h, (hold_enter_of_ne l t e (other hold)).trans hold, owns⟩
  · rcases hold_enter_eq_some hold with ⟨eq, rfl⟩ | ⟨-, hold⟩ <;>
      rcases hold_enter_eq_some hold' with ⟨eq', rfl⟩ | ⟨-, hold'⟩
    · rw [eq, eq']
    · exact absurd same (old hold' there)
    · exact absurd same.symm (old hold there.symm)
    · exact c.apart hold hold' there same

/-- A request that leaves its entry leaves those of all others. -/
theorem Consistent.leave (c : l.Consistent) {i : ℕ} {h : Hold} (holds : l.hold i = some h) :
    (l.leave i h).Consistent := by
  obtain ⟨t, table, completed, mem⟩ := c.listed holds
  have sound := c.sound table
  refine ⟨fun {q u} at_ => ?_, fun {j h'} hold => ?_, fun {q u entry} at_ mem' => ?_,
    fun hold hold' => c.apart (hold_leave_eq_some hold).2 (hold_leave_eq_some hold').2⟩
  · rcases table_leave_eq_some table at_ with ⟨-, rfl⟩ | ⟨-, at_⟩
    · exact PendingTable.sound_withdraw sound ..
    · exact c.sound at_
  · obtain ⟨ne, hold⟩ := hold_leave_eq_some hold
    obtain ⟨u, at_, completed', mem'⟩ := c.listed hold
    by_cases there : h'.party = h.party
    · have kept : h'.expectation.uid ≠ h.expectation.uid :=
        fun uid => ne (c.apart_of_uid hold holds there uid)
      rw [there] at at_ ⊢
      cases table.symm.trans at_
      refine ⟨_, table_leave_self table, completed', ?_⟩
      rw [PendingTable.entries_withdraw]
      exact List.mem_filter.2 ⟨mem', bne_iff_ne.2 kept⟩
    · exact ⟨u, (table_leave_of_ne l there).trans at_, completed', mem'⟩
  · rcases table_leave_eq_some table at_ with ⟨rfl, rfl⟩ | ⟨eq, at_⟩
    · rw [PendingTable.entries_withdraw, List.mem_filter, bne_iff_ne] at mem'
      obtain ⟨j, h', hold, there, ticket⟩ := c.owned table mem'.1
      -- the entry that `i` held is the one that goes
      have ne : j ≠ i := by
        rintro rfl
        cases holds.symm.trans hold
        have same := sound.entry_unique_of_ticket mem mem'.1 ticket
        exact mem'.2 (congrArg Prod.fst same).symm
      exact ⟨j, h', (hold_leave_of_ne l ne).trans hold, there, ticket⟩
    · obtain ⟨j, h', hold, there, ticket⟩ := c.owned at_ mem'
      have ne : j ≠ i := by
        rintro rfl
        cases holds.symm.trans hold
        exact eq there.symm
      exact ⟨j, h', (hold_leave_of_ne l ne).trans hold, there, ticket⟩

end Ledger

/-! ## The ledger of a network -/

/-- What a request holds once it was registered. -/
def RequestTask.holdAs (task : RequestTask) (r : Running) : Hold :=
  ⟨task.party, task.expectation r.message.uid, r.ticket⟩

/-- What a request holds: an entry from its registration until it is over. -/
def RequestTask.hold? (task : RequestTask) : Option Hold :=
  match task.state with
  | .running r => some (task.holdAs r)
  | .fresh | .finished _ | .dropped => none

theorem RequestTask.hold?_of_isOver {task : RequestTask} (h : task.state.isOver = true) :
    task.hold? = none := by
  unfold hold?
  cases state : task.state <;> simp [state, RequestState.isOver] at h ⊢

/-- A request that was registered holds its entry as long as it is not over. -/
theorem RequestTask.isSome_hold? {task : RequestTask} (h : task.state ≠ .fresh) :
    task.hold?.isSome = !task.state.isOver := by
  unfold hold?
  cases state : task.state <;> simp [state, RequestState.isOver] at h ⊢

namespace Correlation

def ledger (c : Correlation) : Ledger where
  hold i := (c.request i).bind RequestTask.hold?
  table := c.table

theorem ledger_setRequest (c : Correlation) (i : ℕ) (task : RequestTask) :
    (c.setRequest i task).ledger =
      { c.ledger with hold := Function.update c.ledger.hold i task.hold? } := by
  apply Ledger.ext
  · funext j
    by_cases same : j = i
    · subst same
      simp [ledger, setRequest]
    · simp [ledger, setRequest, same]
  · rfl

/-- A request changes that holds what it held before. -/
theorem ledger_setRequest_of_hold {c : Correlation} {i : ℕ} {task : RequestTask}
    (h : c.ledger.hold i = task.hold?) : (c.setRequest i task).ledger = c.ledger := by
  rw [ledger_setRequest, ← h, Function.update_eq_self]

theorem ledger_close (c : Correlation) (i : ℕ) (task : RequestTask) (r : Running)
    {state : RequestState} (ended : state.isOver = true) :
    (c.close i task r state).ledger = c.ledger.leave i (task.holdAs r) := by
  have none_ : RequestTask.hold? { task with state } = none := RequestTask.hold?_of_isOver ended
  apply Ledger.ext
  · funext j
    by_cases same : j = i
    · subst same
      simp [ledger, close, none_]
    · rw [Ledger.hold_leave_of_ne _ same]
      simp [ledger, close, same]
  · rfl

/-- A registered request that is looked at goes on to hold its entry, or leaves it. -/
theorem ledger_look {c c' : Correlation} {i : ℕ} {task : RequestTask} {r : Running}
    {cancelFirst : Bool} {due : Prop} (look : c.Look i task r cancelFirst due c') :
    c'.ledger = { c.ledger with hold := Function.update c.ledger.hold i (some (task.holdAs r)) } ∨
      c'.ledger = c.ledger.leave i (task.holdAs r) := by
  cases look with
  | goesOn => exact .inl (ledger_setRequest ..)
  | ends => exact .inr (ledger_close c i task r rfl)

end Correlation

namespace Network

variable {net : Network}

/-- Which request holds which entry. -/
def ledger (net : Network) : Ledger := net.correlation.ledger

/-- A request that is registered with a party. -/
structure Admission where
  call : ℕ
  party : ℕ
  expectation : Expectation

/-- The request that a step registers, if its registration succeeds. -/
def admission? (net : Network) : Action → Option Admission
  | .poll i _ => do
    let task ← net.request? i
    let t ← net.table? task.party
    let e := task.expectation (net.uidOf task)
    match task.state, (t.register e).2.2 with
    | .fresh, .ok () => some ⟨i, task.party, e⟩
    | _, _ => none
  | _ => none

/-- The requests that were registered in a run, in order. -/
def admissions (net : Network) : List Action → List Admission
  | [] => []
  | a :: rest => (net.admission? a).toList ++ (net.step a).admissions rest

/-- What every step does to the ledger. -/
inductive Turn (net : Network) : Action → Ledger → Prop where
  | still {a} : net.admission? a = none → Turn net a net.ledger
  | offered {session d m} : net.dispatch? session = some d → d.Carries m →
      Turn net (.deliver session) (net.ledger.setTable d.party
        (d.engine.pending.complete d.engine.strict d.delivery.topic m).1)
  | refused {a task t} : net.admission? a = none → net.table? task.party = some t →
      net.uidOf task ∈ t.keys →
      Turn net a (net.ledger.setTable task.party (t.refuse (task.expectation (net.uidOf task))))
  | entered {a new t} : net.admission? a = some new → net.table? new.party = some t →
      Turn net a (net.ledger.enter new.call new.party t new.expectation)
  | left {a i h} : net.admission? a = none → net.ledger.hold i = some h →
      a = .drop i ∨ (∃ cancelFirst, a = .poll i cancelFirst) → Turn net a (net.ledger.leave i h)
  | passed {a new t} : net.admission? a = some new → net.table? new.party = some t →
      Turn net a ((net.ledger.enter new.call new.party t new.expectation).leave new.call
        ⟨new.party, new.expectation, t.nextTicket new.expectation.uid⟩)

theorem ledger_hold (net : Network) (i : ℕ) :
    net.ledger.hold i = (net.request? i).bind RequestTask.hold? := rfl

theorem hold_of_running {i : ℕ} {task : RequestTask} {r : Running} (h : net.request? i = some task)
    (running : task.state = .running r) : net.ledger.hold i = some (task.holdAs r) := by
  rw [ledger_hold, h, Option.bind_some, RequestTask.hold?, running]

theorem hold_of_fresh {i : ℕ} {task : RequestTask} (h : net.request? i = some task)
    (fresh : task.state = .fresh) : net.ledger.hold i = none := by
  rw [ledger_hold, h, Option.bind_some, RequestTask.hold?, fresh]

/-- Whether a request has returned or was dropped. -/
def isOver (net : Network) (i : ℕ) : Bool := (net.request? i).any (·.state.isOver)

theorem hold_of_isOver {i : ℕ} (ended : net.isOver i = true) : net.ledger.hold i = none := by
  cases here : net.request? i with
  | none => rw [ledger_hold, here, Option.bind_none]
  | some task =>
    rw [isOver, here, Option.any_some] at ended
    rw [ledger_hold, here, Option.bind_some, RequestTask.hold?_of_isOver ended]

/-- What a request holds it was registered for. -/
theorem exists_running_of_hold {i : ℕ} {h : Hold} (hold : net.ledger.hold i = some h) :
    ∃ task r, net.request? i = some task ∧ task.state = .running r ∧ h = task.holdAs r := by
  obtain ⟨task, here, holds⟩ := Option.bind_eq_some_iff.1 hold
  unfold RequestTask.hold? at holds
  split at holds
  · next r running => exact ⟨task, r, here, running, (Option.some.inj holds).symm⟩
  all_goals cases holds

/-- A step registers a request if the request is new and its uid is not in the table. -/
theorem admission?_poll {i : ℕ} {task : RequestTask} {t : PendingTable}
    (h : net.request? i = some task) (fresh : task.state = .fresh)
    (table : net.table? task.party = some t) (absent : net.uidOf task ∉ t.keys)
    (cancelFirst : Bool) : net.admission? (.poll i cancelFirst) =
      some ⟨i, task.party, task.expectation (net.uidOf task)⟩ := by
  simp only [admission?, h, table, fresh, Option.bind_eq_bind, Option.bind_some,
    PendingTable.register_of_not_mem (e := task.expectation (net.uidOf task)) absent]

theorem admission?_poll_of_mem {i : ℕ} {task : RequestTask} {t : PendingTable}
    (h : net.request? i = some task) (table : net.table? task.party = some t)
    (present : net.uidOf task ∈ t.keys) (cancelFirst : Bool) :
    net.admission? (.poll i cancelFirst) = none := by
  simp only [admission?, h, table, Option.bind_eq_bind, Option.bind_some,
    PendingTable.register_of_mem (e := task.expectation (net.uidOf task)) present]
  cases task.state <;> rfl

theorem admission?_poll_of_ne {i : ℕ} (h : ∀ task, net.request? i = some task →
      task.state ≠ .fresh ∨ net.table? task.party = none) (cancelFirst : Bool) :
    net.admission? (.poll i cancelFirst) = none := by
  cases here : net.request? i with
  | none => simp [admission?, here]
  | some task =>
    cases table : net.table? task.party with
    | none => simp [admission?, here, table]
    | some t =>
      have begun : task.state ≠ .fresh := (h task here).resolve_right (by simp [table])
      cases state : task.state <;> simp [admission?, here, table, state] at begun ⊢

/-- A step that registers a request polls it for the first time. -/
theorem admission?_eq_some {a : Action} {new : Admission} (h : net.admission? a = some new) :
    ∃ i cancelFirst task t, a = .poll i cancelFirst ∧ net.request? i = some task ∧
      task.state = .fresh ∧ net.table? task.party = some t ∧ net.uidOf task ∉ t.keys ∧
      new = ⟨i, task.party, task.expectation (net.uidOf task)⟩ := by
  cases a with
  | poll i cancelFirst =>
    obtain ⟨task, here, rest⟩ := Option.bind_eq_some_iff.1 h
    obtain ⟨t, table, rest⟩ := Option.bind_eq_some_iff.1 rest
    by_cases present : net.uidOf task ∈ t.keys
    · rw [admission?_poll_of_mem here table present] at h
      cases h
    · by_cases fresh : task.state = .fresh
      · rw [admission?_poll here fresh table present] at h
        exact ⟨i, cancelFirst, task, t, rfl, here, fresh, table, present, (Option.some.inj h).symm⟩
      · have begun : ∀ other, net.request? i = some other →
            other.state ≠ .fresh ∨ net.table? other.party = none := by
          intro other eq
          cases here.symm.trans eq
          exact .inl fresh
        rw [admission?_poll_of_ne begun] at h
        cases h
  | _ => cases h

theorem admission?_of_idles {a : Action} (h : net.Idles a) : net.admission? a = none := by
  cases a with
  | poll i cancelFirst =>
    refine admission?_poll_of_ne (fun task here => ?_) cancelFirst
    rcases h task here with ended | ⟨-, none_⟩
    · refine .inl fun fresh => ?_
      rw [fresh] at ended
      cases ended
    · exact .inr none_
  | _ => rfl

/-- What every step does to the ledger. -/
theorem turn_step (net : Network) (a : Action) : Turn net a (net.step a).ledger := by
  have effect := effect_step net a
  unfold ledger
  generalize (net.step a).correlation = c at effect
  cases effect with
  | idle h => exact .still (admission?_of_idles h)
  | elapsed => exact .still rfl
  | @opened task =>
    rw [Correlation.ledger_setRequest_of_hold]
    · exact .still rfl
    · refine (ledger_hold ..).trans ?_
      rw [request?_of_length_le net (Nat.le_refl _)]
      rfl
  | @signalled i task here =>
    rw [Correlation.ledger_setRequest_of_hold]
    · exact .still rfl
    · refine (ledger_hold ..).trans ?_
      rw [here]
      rfl
  | dispatched here carries => exact .offered here carries
  | @discarded i task here fresh =>
    rw [Correlation.ledger_setRequest_of_hold]
    · exact .still rfl
    · exact hold_of_fresh here fresh
  | dropped here running =>
    rw [Correlation.ledger_close _ _ _ _ rfl]
    exact .left rfl (hold_of_running here running) (.inl rfl)
  | @refused i cancelFirst task t here fresh table present =>
    rw [Correlation.ledger_setRequest_of_hold]
    · exact .refused (admission?_poll_of_mem here table present cancelFirst) table present
    · exact hold_of_fresh here fresh
  | @started i cancelFirst task t _ here fresh table absent look =>
    have new := admission?_poll here fresh table absent cancelFirst
    rcases Correlation.ledger_look look with eq | eq
    · rw [eq]
      exact .entered new table
    · rw [eq]
      have same : ((net.correlation.setTable task.party
          (t.register (task.expectation (net.uidOf task))).1).ledger.leave i
            ⟨task.party, task.expectation (net.uidOf task), t.nextTicket (net.uidOf task)⟩) =
          (net.ledger.enter i task.party t (task.expectation (net.uidOf task))).leave i
            ⟨task.party, task.expectation (net.uidOf task), t.nextTicket (net.uidOf task)⟩ := by
        apply Ledger.ext
        · exact (Function.update_idem ..).symm
        · rfl
      exact same ▸ .passed new table
  | @looked i cancelFirst task r _ here running look =>
    have none_ : net.admission? (.poll i cancelFirst) = none := by
      refine admission?_poll_of_ne (fun other eq => .inl ?_) cancelFirst
      cases here.symm.trans eq
      simp [running]
    have holds := hold_of_running here running
    rcases Correlation.ledger_look look with eq | eq
    · have same : Function.update net.correlation.ledger.hold i (some (task.holdAs r)) =
          net.correlation.ledger.hold := by
        rw [← holds]
        exact Function.update_eq_self ..
      rw [eq, same]
      exact .still none_
    · rw [eq]
      exact .left none_ holds (.inr ⟨cancelFirst, rfl⟩)

theorem table_of_dispatch {session : ℕ} {d : Dispatch} (h : net.dispatch? session = some d) :
    net.ledger.table d.party = some d.engine.pending :=
  table_of_engine (engine?_of_dispatch h)

/-- What a request that is registered needs: it holds nothing, and its uid is not in the table. -/
theorem of_admission {a : Action} {new : Admission} {t : PendingTable}
    (h : net.admission? a = some new) (table : net.table? new.party = some t) :
    net.ledger.hold new.call = none ∧ new.expectation.uid ∉ t.keys := by
  obtain ⟨i, _, task, _, -, here, fresh, at_, absent, rfl⟩ := admission?_eq_some h
  cases table.symm.trans at_
  exact ⟨hold_of_fresh here fresh, absent⟩

theorem consistent_step (c : net.ledger.Consistent) (a : Action) :
    (net.step a).ledger.Consistent := by
  have turn := turn_step net a
  generalize (net.step a).ledger = l at turn
  cases turn with
  | still => exact c
  | offered here => exact c.offer (table_of_dispatch here) ..
  | refused _ table present => exact c.refuse table present
  | entered new table => exact c.enter (of_admission new table).1 table (of_admission new table).2
  | left _ holds => exact c.leave holds
  | passed new table =>
    obtain ⟨free, absent⟩ := of_admission new table
    exact (c.enter free table absent).leave (Ledger.hold_enter_self ..)

/-! ## Runs -/

theorem run_append (net : Network) (before after : List Action) :
    net.run (before ++ after) = (net.run before).run after :=
  List.foldl_append

theorem run_cons (net : Network) (a : Action) (rest : List Action) :
    net.run (a :: rest) = (net.step a).run rest := rfl

theorem run_concat (net : Network) (actions : List Action) (a : Action) :
    net.run (actions ++ [a]) = (net.run actions).step a := by
  simp [run]

/-- Whether nothing was requested yet. -/
structure Initial (net : Network) : Prop where
  request : ∀ i, net.request? i = none
  table : ∀ {party t}, net.table? party = some t → t = .empty

theorem initial_new (mint : ℕ → Identity) : (new mint).Initial :=
  ⟨fun _ => rfl, nofun⟩

theorem Initial.addEndpoint (h : net.Initial) (kind : EndpointKind) (owner : ℕ) :
    (net.addEndpoint kind owner).1.Initial :=
  ⟨h.request, h.table⟩

theorem Initial.addParty (h : net.Initial) {p : Party}
    (pending : ∀ e, p.engine = some e → e.pending = .empty) : (net.addParty p).1.Initial := by
  refine ⟨h.request, fun {party t} table => ?_⟩
  obtain ⟨e, engine, rfl⟩ := engine?_of_table table
  obtain ⟨p', here, there⟩ := exists_party_of_engine engine
  rw [Network.addParty, party?, List.getElem?_append] at here
  split at here
  · exact h.table (by rw [table?, engine?, party?, here, Option.bind_some, there]; rfl)
  · rw [List.mem_singleton.1 (List.mem_of_getElem? here)] at there
    exact pending e there

/-- A party comes with an engine that has nothing registered. -/
theorem Initial.addEngine (h : net.Initial) (facade : Facade) {e : Engine}
    (pending : e.pending = .empty) : (net.addEngine facade e).1.Initial := by
  have added : (net.addParty
      { endpoint := facade.endpoint, facade := some facade, engine := some e }).1.Initial :=
    h.addParty fun e' same => (Option.some.inj same) ▸ pending
  exact ⟨added.request, added.table⟩

/-- One engine on an endpoint of the hub. What it publishes on a topic that it subscribed to comes
    back to it. -/
def loopback : Network :=
  let (net, endpoint) := (new fun n => ⟨toString n, toString n⟩).addEndpoint .memory 0
  (net.addEngine { endpoint, defaultQos := default } (.new (.json true) false 1000)).1

theorem initial_loopback : loopback.Initial :=
  ((initial_new _).addEndpoint .memory 0).addEngine _ rfl

/-- A request that is published on the topic of its replies. -/
def echoed (uid : String) : RequestTask :=
  { party := 0, topic := "echo", message := { uid, ctime := "0" }, responseTopic := "echo"
    timeout := 10 }

/-- The party connects and makes a request. -/
def asking (uid : String) : List Action :=
  [.operate ⟨0, true, .connect {}, .fresh⟩, .poll 0 false, .request (echoed uid), .poll 1 false]

theorem Initial.consistent (h : net.Initial) : net.ledger.Consistent := by
  have free (i : ℕ) : net.ledger.hold i = none := by rw [ledger_hold, h.request i, Option.bind_none]
  refine ⟨fun at_ => ?_, fun {i} _ hold => ?_, fun at_ mem => ?_, fun {i} _ _ _ hold => ?_⟩
  · rw [h.table at_]
    exact PendingTable.sound_empty
  · cases (free i).symm.trans hold
  · rw [h.table at_] at mem
    cases mem
  · cases (free i).symm.trans hold

theorem consistent_run (c : net.ledger.Consistent) (actions : List Action) :
    (net.run actions).ledger.Consistent := by
  induction actions using List.reverseRecOn with
  | nil => exact c
  | append_singleton actions a ih =>
    rw [run_concat]
    exact consistent_step ih a

/-- The ledger is consistent in every run. -/
theorem Initial.consistent_run (h : net.Initial) (actions : List Action) :
    (net.run actions).ledger.Consistent :=
  Network.consistent_run h.consistent actions

end Network

end HomeBus
