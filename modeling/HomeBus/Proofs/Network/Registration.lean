import HomeBus.Proofs.Network.Ledger

/-!
# The requests under way and the tables

A table lists the requests under way. An entry comes with a registration that succeeds and goes when
its own request is over, in whatever way; a request that was refused, or is over, touches no table.

Results:
* `Ledger.Books`: what the tables have to do with the registrations so far, kept by every step.
* `Network.keys_are_requests_under_way`: in every run the keys of a table are the uids of the
  requests that were registered and are not over, in the order of their registration.
-/

namespace HomeBus

open Network (Admission)

namespace Ledger

/-- The registrations with a party whose requests still hold their entries. -/
def standing (l : Ledger) (party : ℕ) (admitted : List Admission) : List Admission :=
  admitted.filter fun new => new.party == party && (l.hold new.call).isSome

/-- What the tables have to do with the registrations so far. -/
structure Books (l : Ledger) (admitted : List Admission) : Prop where
  /-- A request is registered once. -/
  calls_nodup : (admitted.map Admission.call).Nodup
  /-- A request holds the entry that it was registered for. -/
  held : ∀ new ∈ admitted, ∀ h, l.hold new.call = some h →
    h.party = new.party ∧ h.expectation = new.expectation
  keys : ∀ {party t}, l.table party = some t →
    t.keys = (l.standing party admitted).map (·.expectation.uid)

variable {l : Ledger} {admitted : List Admission}

/-- A table changes that keeps its keys. -/
theorem Books.setTable (b : l.Books admitted) {party : ℕ} {t t' : PendingTable}
    (table : l.table party = some t) (keys : t'.keys = t.keys) :
    (l.setTable party t').Books admitted := by
  refine ⟨b.calls_nodup, b.held, fun {other u} at_ => ?_⟩
  rcases table_setTable_eq_some at_ with ⟨rfl, rfl⟩ | ⟨-, at_⟩
  · exact keys.trans (b.keys table)
  · exact b.keys at_

/-- A request that was not registered before is. -/
theorem Books.enter (b : l.Books admitted) {new : Admission} {t : PendingTable}
    (table : l.table new.party = some t) (absent : new.expectation.uid ∉ t.keys)
    (first : new.call ∉ admitted.map Admission.call) :
    (l.enter new.call new.party t new.expectation).Books (admitted ++ [new]) := by
  have ne : ∀ old ∈ admitted, old.call ≠ new.call :=
    fun old mem same => first (same ▸ List.mem_map_of_mem mem)
  have standing (party : ℕ) :
      (l.enter new.call new.party t new.expectation).standing party (admitted ++ [new]) =
        l.standing party admitted ++ if new.party = party then [new] else [] := by
    have old : (l.enter new.call new.party t new.expectation).standing party admitted =
        l.standing party admitted := by
      refine List.filter_congr fun old mem => ?_
      rw [hold_enter_of_ne l t new.expectation (ne old mem)]
    rw [Ledger.standing, List.filter_append]
    refine congrArg₂ _ old ?_
    split
    · next same => simp [same]
    · next other => simp [other]
  refine ⟨?_, ?_, fun {party u} at_ => ?_⟩
  · rw [List.map_append]
    refine List.nodup_append.2 ⟨b.calls_nodup, List.nodup_singleton _, ?_⟩
    rintro call mem call' mem' rfl
    exact first (List.mem_singleton.1 mem' ▸ mem)
  · intro old mem h hold
    rcases List.mem_append.1 mem with mem | mem
    · rw [hold_enter_of_ne l t new.expectation (ne old mem)] at hold
      exact b.held old mem h hold
    · cases List.mem_singleton.1 mem
      rw [hold_enter_self] at hold
      cases hold
      exact ⟨rfl, rfl⟩
  · rw [standing]
    rcases table_enter_eq_some at_ with ⟨rfl, rfl⟩ | ⟨same, at_⟩
    · rw [PendingTable.register_of_not_mem absent, if_pos rfl, List.map_append, ← b.keys table]
      simp [PendingTable.keys]
    · rw [if_neg (Ne.symm same), List.append_nil]
      exact b.keys at_

/-- A request leaves its entry. -/
theorem Books.leave (b : l.Books admitted) (c : l.Consistent) {i : ℕ} {h : Hold}
    (holds : l.hold i = some h) : (l.leave i h).Books admitted := by
  obtain ⟨t, table, -⟩ := c.listed holds
  refine ⟨b.calls_nodup, fun new mem h' hold => ?_, fun {party u} at_ => ?_⟩
  · exact b.held new mem h' (hold_leave_eq_some hold).2
  · rcases table_leave_eq_some table at_ with ⟨rfl, rfl⟩ | ⟨same, at_⟩
    · rw [PendingTable.keys_withdraw, b.keys table, List.filter_map]
      refine congrArg _ ?_
      rw [standing, standing, List.filter_filter]
      refine List.filter_congr fun new mem => ?_
      by_cases left : new.call = i
      · obtain ⟨-, expectation⟩ := b.held new mem h (left ▸ holds)
        simp [left, ← expectation]
      · rw [hold_leave_of_ne l left]
        cases hold : l.hold new.call with
        | none => simp
        | some h' =>
          -- another request of this party holds another uid
          obtain ⟨there, expectation⟩ := b.held new mem h' hold
          by_cases here : new.party = h.party
          · have ne : new.expectation.uid ≠ h.expectation.uid := fun uid =>
              left (c.apart_of_uid hold holds (there.trans here) (expectation ▸ uid))
            simp [here, ne]
          · simp [here]
    · rw [b.keys at_]
      refine congrArg _ (List.filter_congr fun new mem => ?_)
      by_cases left : new.call = i
      · obtain ⟨there, -⟩ := b.held new mem h (left ▸ holds)
        have other : (new.party == party) = false := by
          rw [← there]
          exact beq_false_of_ne (Ne.symm same)
        rw [other, Bool.false_and, Bool.false_and]
      · rw [hold_leave_of_ne l left]

end Ledger

namespace Network

variable {net : Network}

/-! ## Registrations in a run -/

theorem admissions_concat (net : Network) (actions : List Action) (a : Action) :
    net.admissions (actions ++ [a]) =
      net.admissions actions ++ ((net.run actions).admission? a).toList := by
  induction actions generalizing net with
  | nil => simp [admissions, run]
  | cons first rest ih =>
    rw [List.cons_append, admissions, admissions, ih, List.append_assoc]
    rfl

/-- Whether the request of a registration is there and not new any more. -/
def Begun (net : Network) (new : Admission) : Prop :=
  ∃ task, net.request? new.call = some task ∧ task.party = new.party ∧ task.state ≠ .fresh

theorem Begun.step {new : Admission} (h : net.Begun new) (a : Action) : (net.step a).Begun new := by
  obtain ⟨task, here, party, begun⟩ := h
  obtain ⟨cancelled, state, after, moves, -⟩ := exists_request_step here a
  refine ⟨_, after, party, ?_⟩
  rcases moves with rfl | ⟨-, ne, -⟩
  · exact begun
  · exact ne

theorem begun_of_admission {a : Action} {new : Admission} (h : net.admission? a = some new) :
    (net.step a).Begun new := by
  obtain ⟨i, cancelFirst, task, t, rfl, here, fresh, table, absent, rfl⟩ := admission?_eq_some h
  have look := look_startRequest here table absent cancelFirst
  obtain ⟨state, ne, eq⟩ := request_of_look look
  have polled : net.step (.poll i cancelFirst) = net.startRequest i task cancelFirst := by
    rw [step, poll_of_request here, pollRequest, fresh]
  refine ⟨{ task with state }, ?_, rfl, ne⟩
  rw [polled]
  exact (congrFun eq i).trans (Function.update_self ..)

/-- The registrations so far, with all that holds of them in a state. -/
structure Registered (net : Network) (admitted : List Admission) : Prop where
  consistent : net.ledger.Consistent
  books : net.ledger.Books admitted
  begun : ∀ new ∈ admitted, net.Begun new

theorem Initial.registered (h : net.Initial) : net.Registered [] := by
  refine ⟨h.consistent, ⟨List.nodup_nil, by simp, fun table => ?_⟩, by simp⟩
  rw [h.table table]
  rfl

/-- A request that is registered was not registered before. -/
theorem Registered.first {admitted : List Admission} (r : net.Registered admitted) {a : Action}
    {new : Admission} (h : net.admission? a = some new) :
    new.call ∉ admitted.map Admission.call := by
  intro mem
  obtain ⟨old, memOld, same⟩ := List.mem_map.1 mem
  obtain ⟨i, _, task, _, -, here, fresh, -, -, rfl⟩ := admission?_eq_some h
  obtain ⟨task', here', -, begun⟩ := r.begun old memOld
  rw [same] at here'
  cases here.symm.trans here'
  exact begun fresh

theorem Registered.books_step {admitted : List Admission} (r : net.Registered admitted)
    (a : Action) : (net.step a).ledger.Books (admitted ++ (net.admission? a).toList) := by
  have turn := turn_step net a
  generalize (net.step a).ledger = l at turn
  cases turn with
  | still none_ =>
    rw [none_, Option.toList_none, List.append_nil]
    exact r.books
  | offered here =>
    rw [show net.admission? (.deliver _) = none from rfl, Option.toList_none, List.append_nil]
    exact r.books.setTable (table_of_dispatch here) (PendingTable.keys_complete ..)
  | refused none_ table present =>
    rw [none_, Option.toList_none, List.append_nil]
    refine r.books.setTable table ?_
    rw [PendingTable.keys, PendingTable.entries_refuse present]
    rfl
  | entered new table =>
    rw [new, Option.toList_some]
    exact r.books.enter table (of_admission new table).2 (r.first new)
  | left none_ holds =>
    rw [none_, Option.toList_none, List.append_nil]
    exact r.books.leave r.consistent holds
  | passed new table =>
    obtain ⟨free, absent⟩ := of_admission new table
    rw [new, Option.toList_some]
    exact (r.books.enter table absent (r.first new)).leave (r.consistent.enter free table absent)
      (Ledger.hold_enter_self ..)

theorem Registered.step {admitted : List Admission} (r : net.Registered admitted) (a : Action) :
    (net.step a).Registered (admitted ++ (net.admission? a).toList) := by
  refine ⟨consistent_step r.consistent a, r.books_step a, fun new mem => ?_⟩
  rcases List.mem_append.1 mem with mem | mem
  · exact (r.begun new mem).step a
  · exact begun_of_admission (Option.mem_toList.1 mem)

theorem Initial.registered_run (h : net.Initial) (actions : List Action) :
    (net.run actions).Registered (net.admissions actions) := by
  induction actions using List.reverseRecOn with
  | nil => exact h.registered
  | append_singleton actions a ih =>
    rw [run_concat, admissions_concat]
    exact ih.step a

/-! ## Requests that hold nothing -/

/-- A request that was registered holds its entry as long as it is not over. -/
theorem Begun.isSome_hold {new : Admission} (h : net.Begun new) :
    (net.ledger.hold new.call).isSome = !net.isOver new.call := by
  obtain ⟨task, here, -, begun⟩ := h
  rw [ledger_hold, isOver, here, Option.bind_some, RequestTask.isSome_hold? begun, Option.any_some]

/-- Whether a table keeps its entries, and those who wait for them, as they were. -/
def Untouched (t t' : PendingTable) : Prop :=
  t'.entries = t.entries ∧ ∀ ticket ∈ t.tickets, t'.slot ticket = t.slot ticket

/-- A request that holds nothing before and after it is polled touches no table. -/
theorem untouched_poll (c : net.ledger.Consistent) {i : ℕ} {cancelFirst : Bool}
    (before : net.ledger.hold i = none)
    (after : (net.step (.poll i cancelFirst)).ledger.hold i = none) {party : ℕ} {t : PendingTable}
    (table : net.table? party = some t) :
    ∃ t', (net.step (.poll i cancelFirst)).table? party = some t' ∧ Untouched t t' := by
  have turn := turn_step net (.poll i cancelFirst)
  -- a change of one party's table that leaves it untouched
  have changed {q : ℕ} {u u' : PendingTable} (at_ : net.table? q = some u) (same : Untouched u u') :
      ∃ t', Function.update net.table? q (some u') party = some t' ∧ Untouched t t' := by
    by_cases eq : party = q
    · subst eq
      cases table.symm.trans at_
      exact ⟨u', Function.update_self .., same⟩
    · exact ⟨t, (Function.update_of_ne eq ..).trans table, rfl, fun _ _ => rfl⟩
  have apart {q : ℕ} {u : PendingTable} (at_ : net.table? q = some u) (uid : String) :
      ∀ ticket ∈ u.tickets, ticket ≠ u.nextTicket uid := by
    rintro ticket mem rfl
    exact (c.sound at_).nextTicket_not_mem uid mem
  rw [show (net.step (.poll i cancelFirst)).table? =
    (net.step (.poll i cancelFirst)).ledger.table from rfl]
  generalize (net.step (.poll i cancelFirst)).ledger = l at turn after
  cases turn with
  | still => exact ⟨t, table, rfl, fun _ _ => rfl⟩
  | refused _ at_ present =>
    exact changed at_ ⟨PendingTable.entries_refuse present,
      fun ticket mem => PendingTable.slot_refuse present (apart at_ _ ticket mem)⟩
  | entered new =>
    obtain ⟨j, _, _, _, eq, -, -, -, -, rfl⟩ := admission?_eq_some new
    cases eq
    rw [Ledger.hold_enter_self] at after
    cases after
  | left _ holds cause =>
    rcases cause with eq | ⟨_, eq⟩
    · cases eq
    · cases eq
      cases before.symm.trans holds
  | @passed _ new u first at_ =>
    have absent := (of_admission first at_).2
    rw [Ledger.table_leave_enter]
    exact changed at_
      ⟨PendingTable.entries_withdraw_register absent (u.nextTicket new.expectation.uid),
        fun ticket mem => PendingTable.slot_withdraw_register absent (apart at_ _ ticket mem)⟩

/-- A request that is over does nothing more, whether it is polled or dropped. -/
theorem correlation_step_of_isOver {i : ℕ} (ended : net.isOver i = true) {a : Action}
    (own : a = .drop i ∨ ∃ cancelFirst, a = .poll i cancelFirst) :
    (net.step a).correlation = net.correlation := by
  have not_under {task : RequestTask} (here : net.request? i = some task) :
      task.state.isOver = true := by
    rwa [isOver, here, Option.any_some] at ended
  have effect := effect_step net a
  generalize (net.step a).correlation = c at effect
  rcases own with rfl | ⟨cancelFirst, rfl⟩
  · cases effect with
    | idle => rfl
    | discarded here state | dropped here state =>
      have ended := not_under here
      rw [state] at ended
      cases ended
  · cases effect with
    | idle => rfl
    | refused here state | started here state | looked here state =>
      have ended := not_under here
      rw [state] at ended
      cases ended

/-! ## The keys of a table -/

/--
In every run the keys of a table are the uids of the requests that were registered with its party
and neither returned nor were dropped, one each, in the order of their registration. A request that
is refused because its uid is taken leaves every entry and every waiter as they are, and so does
one that is over.
-/
theorem keys_are_requests_under_way {net : Network} (initial : net.Initial) (actions : List Action)
    {party : ℕ} {t : PendingTable} (table : (net.run actions).table? party = some t) :
    t.keys = ((net.admissions actions).filter fun new =>
        new.party == party && !(net.run actions).isOver new.call).map (·.expectation.uid) ∧
      t.keys.Nodup ∧ ((net.admissions actions).map Admission.call).Nodup ∧
      (∀ i cancelFirst (task : RequestTask) uid,
        (net.run actions).request? i = some { task with state := .fresh } →
        ((net.run actions).step (.poll i cancelFirst)).request? i =
          some { task with state := .finished (.error (.duplicateRequest uid)) } →
        ∃ t', ((net.run actions).step (.poll i cancelFirst)).table? party = some t' ∧
          Untouched t t') ∧
      ∀ i a, (net.run actions).isOver i = true →
        (a = .drop i ∨ ∃ cancelFirst, a = .poll i cancelFirst) →
        ((net.run actions).step a).table? party = some t := by
  have registered := initial.registered_run actions
  refine ⟨?_, (registered.consistent.sound table).keys_nodup, registered.books.calls_nodup, ?_, ?_⟩
  · rw [registered.books.keys table]
    refine congrArg _ (List.filter_congr fun new mem => ?_)
    rw [(registered.begun new mem).isSome_hold]
  · intro i cancelFirst task uid here after
    exact untouched_poll registered.consistent (hold_of_fresh here rfl)
      (by rw [ledger_hold, after]; rfl) table
  · intro i a ended own
    have same := correlation_step_of_isOver ended own
    exact (congrArg (Correlation.table · party) same).trans table

/-- A second request with the uid of the first one is refused, and the entry of the first one
    stays. -/
theorem keys_of_loopback_twice :
    ((loopback.run (asking "a" ++ [.request (echoed "a"), .poll 2 false])).table? 0).map
      PendingTable.keys = some ["a"] := by
  obtain ⟨t, table⟩ : ∃ t, (loopback.run (asking "a" ++ [.request (echoed "a"),
      .poll 2 false])).table? 0 = some t := ⟨_, rfl⟩
  rw [table, Option.map_some, (keys_are_requests_under_way initial_loopback _ table).1]
  decide +kernel

end Network

end HomeBus
