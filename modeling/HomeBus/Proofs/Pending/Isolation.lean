import HomeBus.Proofs.Pending.Run

/-!
# Requests do not disturb each other

What a table has to do with a uid are its entry, if there is one, and the waiters of that uid. The
operations of other uids leave that part alone, and a message concerns it only if its entry accepts
the message. So a uid sees of a run what it would see if the others had never been there, unless a
message of the run is accepted by the entries of two uids at once.

Results:
* `only_apply`, `seen?_only`: an operation of a uid, or a message, does to the part of that uid what
  it does to the table, and all others do nothing to it.
* `separate_of_strict`: where replies must name their requests, no two entries accept one message.
* `uids_do_not_interfere`: a uid sees the same in a run and in the run without the others.
-/

namespace HomeBus.PendingTable

/-! ## What a uid sees -/

/-- The part of a table that a uid has to do with. -/
def only (t : PendingTable) (uid : String) : PendingTable where
  entries := t.entries.filter (·.1 == uid)
  slots := t.slots.filter (·.1.uid == uid)

/-- The entry of a uid. -/
def pending? (t : PendingTable) (uid : String) : Option PendingRequest :=
  (t.entries.find? (·.1 == uid)).map Prod.snd

/-- Whether an operation is one of a uid and its waiters, or offers a message. -/
def Operation.concerns (uid : String) : Operation → Bool
  | .register e => e.uid == uid
  | .complete _ _ _ => true
  | .remove other => other == uid
  | .receive ticket | .leave ticket => ticket.uid == uid

/-- What can be seen of an operation by the uid that it is about. -/
inductive Sight where
  | registered (ticket : Ticket) (result : Except Error Unit)
  | handed (ticket : Ticket) (m : Message)
  | removed (entry : Option PendingRequest)
  | received (ticket : Ticket) (received : Received)

/-- What a uid and its waiters see of an operation. -/
def seen? (t : PendingTable) (uid : String) : Operation → Option Sight
  | .register e =>
    if e.uid = uid then some (.registered (t.register e).2.1 (t.register e).2.2) else none
  | .complete strict topic m =>
    ((t.complete strict topic m).2.filter (·.uid == uid)).map (.handed · m)
  | .remove other => if other = uid then some (.removed (t.remove other).2) else none
  | .receive ticket =>
    if ticket.uid = uid then some (.received ticket (t.receive ticket).2) else none
  | .leave _ => none

/-- What a uid and its waiters see of a run. -/
def sights (t : PendingTable) (uid : String) : List Operation → List Sight
  | [] => []
  | op :: ops => (t.seen? uid op).toList ++ (t.apply op).sights uid ops

/-- Whether the message that an operation offers, if it does, is accepted under one uid at most. -/
def Apart (t : PendingTable) : Operation → Prop
  | .complete strict topic m => ∀ a ∈ t.entries, ∀ b ∈ t.entries,
      a.2.expectation.accepts strict topic m = true →
      b.2.expectation.accepts strict topic m = true → a.1 = b.1
  | .register _ | .remove _ | .receive _ | .leave _ => True

/-- Whether no message of a run is accepted under two uids at once. -/
def Separate (t : PendingTable) : List Operation → Prop
  | [] => True
  | op :: ops => t.Apart op ∧ (t.apply op).Separate ops

/-- Whether an operation, if it offers a message, wants it to name the request. -/
def Operation.Strict : Operation → Prop
  | .complete strict _ _ => strict = true
  | .register _ | .remove _ | .receive _ | .leave _ => True

instance (t : PendingTable) : (op : Operation) → Decidable (t.Apart op)
  | .complete strict topic m => inferInstanceAs (Decidable (∀ a ∈ t.entries, ∀ b ∈ t.entries,
      a.2.expectation.accepts strict topic m = true →
      b.2.expectation.accepts strict topic m = true → a.1 = b.1))
  | .register _ | .remove _ | .receive _ | .leave _ => isTrue trivial

instance decidableSeparate (t : PendingTable) : (ops : List Operation) → Decidable (t.Separate ops)
  | [] => isTrue trivial
  | op :: ops =>
    have := decidableSeparate (t.apply op) ops
    inferInstanceAs (Decidable (t.Apart op ∧ (t.apply op).Separate ops))

variable {t : PendingTable} {uid : String}

/-! ## The part of a uid -/

theorem slotIn_filter {ticket : Ticket} (h : ticket.uid = uid) (slots : List (Ticket × Slot)) :
    slotIn ticket (slots.filter (·.1.uid == uid)) = slotIn ticket slots := by
  induction slots with
  | nil => rfl
  | cons head rest ih =>
    by_cases own : head.1.uid = uid
    · rw [List.filter_cons_of_pos (by simpa using own), slotIn, slotIn, ih]
    · have ne : head.1 ≠ ticket := fun same => own (same ▸ h)
      rw [List.filter_cons_of_neg (by simpa using own), slotIn, if_neg ne, ih]

theorem filter_putSlot (ticket : Ticket) (slot : Slot) (slots : List (Ticket × Slot)) :
    (putSlot ticket slot slots).filter (·.1.uid == uid) =
      if ticket.uid = uid then putSlot ticket slot (slots.filter (·.1.uid == uid))
      else slots.filter (·.1.uid == uid) := by
  induction slots with
  | nil => simp [putSlot]
  | cons head rest ih =>
    obtain ⟨other, old⟩ := head
    by_cases same : other = ticket
    · subst same
      by_cases own : other.uid = uid <;> simp [putSlot, own]
    · by_cases own : other.uid = uid
      · simp only [putSlot, if_neg same, List.filter_cons, own, beq_self_eq_true, if_true, ih]
        split <;> rfl
      · simp only [putSlot, if_neg same, List.filter_cons, beq_eq_false_iff_ne.2 own,
          Bool.false_eq_true, if_false, ih]

/-- A waiter of a uid has its slot in the part of that uid. -/
theorem slot_only {ticket : Ticket} (h : ticket.uid = uid) :
    (t.only uid).slot ticket = t.slot ticket :=
  slotIn_filter h t.slots

/-- The slot of a waiter that is changed changes in the part of its own uid. -/
theorem only_setSlot (ticket : Ticket) (slot : Slot) :
    (t.setSlot ticket slot).only uid =
      if ticket.uid = uid then (t.only uid).setSlot ticket slot else t.only uid := by
  rw [only, setSlot, filter_putSlot]
  split <;> rfl

theorem mem_keys_only : uid ∈ (t.only uid).keys ↔ uid ∈ t.keys := by
  simp [keys, only]

theorem nextTicket_only : (t.only uid).nextTicket uid = t.nextTicket uid := by
  simp [nextTicket, only, List.countP_filter]

theorem find?_entries_only :
    (t.only uid).entries.find? (·.1 == uid) = t.entries.find? (·.1 == uid) := by
  rw [only, List.find?_filter]
  congr 1
  funext entry
  simp only [and_self, Bool.decide_eq_true]

theorem pending?_only : (t.only uid).pending? uid = t.pending? uid := by
  rw [pending?, find?_entries_only, pending?]

@[simp] theorem only_empty : empty.only uid = empty := rfl

/-! ## Operations of requests and waiters -/

theorem only_register (e : Expectation) :
    (t.register e).1.only uid =
      if e.uid = uid then ((t.only uid).register e).1 else t.only uid := by
  by_cases own : e.uid = uid
  · subst own
    rw [if_pos rfl]
    by_cases present : e.uid ∈ t.keys
    · rw [register_of_mem present, register_of_mem (mem_keys_only.2 present), nextTicket_only]
      simp [only, nextTicket]
    · rw [register_of_not_mem present, register_of_not_mem (mt mem_keys_only.1 present),
        nextTicket_only]
      simp [only, nextTicket]
  · rw [if_neg own]
    by_cases present : e.uid ∈ t.keys
    · rw [register_of_mem present]
      simp [only, nextTicket, own]
    · rw [register_of_not_mem present]
      simp [only, nextTicket, own]

/-- Whether a uid is registered hangs on its own part of the table alone. -/
theorem register_only (e : Expectation) :
    ((t.only e.uid).register e).2 = (t.register e).2 := by
  by_cases present : e.uid ∈ t.keys
  · rw [register_of_mem present, register_of_mem (mem_keys_only.2 present), nextTicket_only]
  · rw [register_of_not_mem present, register_of_not_mem (mt mem_keys_only.1 present),
      nextTicket_only]

theorem only_remove_self (h : t.Sound) :
    (t.remove uid).1.only uid = ((t.only uid).remove uid).1 ∧
      ((t.only uid).remove uid).2 = (t.remove uid).2 := by
  unfold remove
  rw [find?_entries_only]
  cases eq : t.entries.find? (·.1 == uid) with
  | none => exact ⟨rfl, rfl⟩
  | some entry =>
    obtain ⟨key, entry⟩ := entry
    have own : entry.ticket.uid = uid :=
      (h.ticketed _ (List.mem_of_find?_eq_some eq)).trans (by simpa using List.find?_some eq)
    have rest : ({ t with entries := t.entries.filter (·.1 != uid) } : PendingTable).only uid =
        { t.only uid with entries := (t.only uid).entries.filter (·.1 != uid) } := by
      simp [only, List.filter_filter, Bool.and_comm]
    have slot : ({ t.only uid with
        entries := (t.only uid).entries.filter (·.1 != uid) } : PendingTable).slot entry.ticket =
        ({ t with entries := t.entries.filter (·.1 != uid) } : PendingTable).slot entry.ticket :=
      slot_only (t := t) own
    dsimp only
    rw [slot]
    split
    · rw [only_setSlot, if_pos own, rest]
      exact ⟨rfl, rfl⟩
    · exact ⟨rest, rfl⟩

theorem only_remove_of_ne (h : t.Sound) {other : String} (ne : other ≠ uid) :
    (t.remove other).1.only uid = t.only uid := by
  rcases remove_cases t other with ⟨-, eq⟩ | ⟨entry, mem, eq⟩
  · rw [eq]
  · have rest : (PendingTable.mk (t.entries.filter (·.1 != other)) t.slots).only uid =
        t.only uid := by
      simp only [only, List.filter_filter, PendingTable.mk.injEq, and_true]
      refine List.filter_congr fun entry _ => ?_
      by_cases own : entry.1 = uid
      · simp [own, Ne.symm ne]
      · simp [own]
    have apart : entry.ticket.uid ≠ uid := by
      rw [h.ticketed _ mem]
      exact ne
    rw [eq]
    split
    · rw [only_setSlot, if_neg apart, rest]
    · exact rest

theorem only_receive (ticket : Ticket) :
    (t.receive ticket).1.only uid =
      if ticket.uid = uid then ((t.only uid).receive ticket).1 else t.only uid := by
  by_cases own : ticket.uid = uid
  · rw [if_pos own, receive, receive, slot_only own]
    cases t.slot ticket with
    | answered m => exact (only_setSlot ..).trans (if_pos own)
    | _ => rfl
  · rw [if_neg own, receive]
    cases t.slot ticket with
    | answered m => exact (only_setSlot ..).trans (if_neg own)
    | _ => rfl

theorem receive_only {ticket : Ticket} (own : ticket.uid = uid) :
    ((t.only uid).receive ticket).2 = (t.receive ticket).2 := by
  rw [receive, receive, slot_only own]
  cases t.slot ticket <;> rfl

/-! ## Messages -/

section Scan

variable {gone gone' : Ticket → Bool} {accepts : Expectation → Bool}

/-- A message that no entry accepts changes none. -/
theorem scan_of_forall_not {entries : List (String × PendingRequest)}
    (h : ∀ entry ∈ entries, accepts entry.2.expectation = false) :
    scan gone accepts entries = (entries, none) := by
  induction entries with
  | nil => rfl
  | cons head rest ih =>
    rw [List.forall_mem_cons] at h
    simp only [scan, h.1, Bool.false_and, Bool.false_eq_true, if_false, ih h.2]

/-- A message that the entry of a uid does not accept leaves it as it is. -/
theorem filter_scan_of_forall_not {entries : List (String × PendingRequest)}
    (h : ∀ entry ∈ entries, entry.1 = uid → accepts entry.2.expectation = false) :
    (scan gone accepts entries).1.filter (·.1 == uid) = entries.filter (·.1 == uid) := by
  induction entries with
  | nil => rfl
  | cons head rest ih =>
    rw [List.forall_mem_cons] at h
    obtain ⟨key, entry⟩ := head
    have ih := ih h.2
    unfold scan
    split
    · next takes =>
      have other : key ≠ uid := by
        rintro rfl
        simp [h.1 rfl] at takes
      split
      · simpa [other] using ih
      · simp [other]
    · rw [List.filter_cons, List.filter_cons, ih]

/-- A message that no other entry accepts finds the entry of a uid as if that were the only one. -/
theorem filter_scan_of_forall {entries : List (String × PendingRequest)}
    (h : ∀ entry ∈ entries, accepts entry.2.expectation = true → entry.1 = uid)
    (same : ∀ entry ∈ entries, entry.1 = uid → gone' entry.2.ticket = gone entry.2.ticket) :
    scan gone' accepts (entries.filter (·.1 == uid)) =
      ((scan gone accepts entries).1.filter (·.1 == uid), (scan gone accepts entries).2) := by
  induction entries with
  | nil => rfl
  | cons head rest ih =>
    rw [List.forall_mem_cons] at h same
    obtain ⟨key, entry⟩ := head
    have ih := ih h.2 same.2
    by_cases own : key = uid
    · subst own
      have gone_ := same.1 rfl
      dsimp only at gone_
      rw [List.filter_cons_of_pos (by simp)]
      unfold scan
      rw [gone_, ih]
      split
      · split <;> simp
      · simp
    · have refuses : accepts entry.expectation = false := by
        rw [← Bool.not_eq_true]
        exact fun takes => own (h.1 takes)
      rw [List.filter_cons_of_neg (by simpa using own), ih]
      simp [scan, refuses, own]

end Scan

/-- A message that only the entry of a uid accepts does to the part of that uid what it does to the
    table. -/
theorem only_complete_of_forall (h : t.Sound) {strict : Bool} {topic : String} {m : Message}
    (sole : ∀ entry ∈ t.entries,
      entry.2.expectation.accepts strict topic m = true → entry.1 = uid) :
    (t.complete strict topic m).1.only uid = ((t.only uid).complete strict topic m).1 ∧
      ((t.only uid).complete strict topic m).2 =
        (t.complete strict topic m).2.filter (·.uid == uid) := by
  have scanned : scan (fun ticket => (t.only uid).slot ticket == .gone)
      (·.accepts strict topic m) (t.entries.filter (·.1 == uid)) =
        ((scan (fun ticket => t.slot ticket == .gone) (·.accepts strict topic m)
            t.entries).1.filter (·.1 == uid),
          (scan (fun ticket => t.slot ticket == .gone) (·.accepts strict topic m) t.entries).2) :=
    filter_scan_of_forall sole fun entry mem same => by
      rw [slot_only ((h.ticketed entry mem).trans same)]
  have taker : ∀ ticket, (t.complete strict topic m).2 = some ticket → ticket.uid = uid := by
    intro ticket taken
    obtain ⟨⟨entry, mem, rfl, takes⟩, -⟩ := complete_eq_some strict topic m taken
    exact (h.ticketed entry mem).trans (sole entry mem takes.1)
  unfold complete at taker ⊢
  dsimp only at taker ⊢
  rw [show (t.only uid).entries = t.entries.filter (·.1 == uid) from rfl, scanned]
  generalize scan _ _ t.entries = scanned at taker ⊢
  obtain ⟨entries, taken⟩ := scanned
  cases taken with
  | none => exact ⟨rfl, rfl⟩
  | some ticket =>
    have own := taker ticket rfl
    refine ⟨(only_setSlot ..).trans (if_pos own), ?_⟩
    simp [Option.filter, own]

/-- A message that the entry of a uid does not accept is no concern of the uid. -/
theorem only_complete_of_forall_not (h : t.Sound) {strict : Bool} {topic : String} {m : Message}
    (refuses : ∀ entry ∈ t.entries, entry.1 = uid →
      entry.2.expectation.accepts strict topic m = false) :
    (t.complete strict topic m).1.only uid = ((t.only uid).complete strict topic m).1 ∧
      ((t.only uid).complete strict topic m).2 =
        (t.complete strict topic m).2.filter (·.uid == uid) := by
  have kept : (scan (fun ticket => t.slot ticket == .gone) (·.accepts strict topic m)
      t.entries).1.filter (·.1 == uid) = t.entries.filter (·.1 == uid) :=
    filter_scan_of_forall_not refuses
  have nobody : scan (fun ticket => (t.only uid).slot ticket == .gone)
      (·.accepts strict topic m) (t.only uid).entries = ((t.only uid).entries, none) := by
    refine scan_of_forall_not fun entry mem => ?_
    obtain ⟨mem, same⟩ := List.mem_filter.1 mem
    exact refuses entry mem (by simpa using same)
  have taker : ∀ ticket, (t.complete strict topic m).2 = some ticket → ticket.uid ≠ uid := by
    intro ticket taken same
    obtain ⟨⟨entry, mem, rfl, takes⟩, -⟩ := complete_eq_some strict topic m taken
    rw [h.ticketed entry mem] at same
    cases (refuses entry mem same).symm.trans takes.1
  unfold complete at taker ⊢
  dsimp only at taker ⊢
  rw [nobody]
  generalize scan _ _ t.entries = scanned at taker kept ⊢
  obtain ⟨entries, taken⟩ := scanned
  have rest : ({ t with entries } : PendingTable).only uid = t.only uid := by
    rw [only, only, kept]
  cases taken with
  | none => exact ⟨rest, rfl⟩
  | some ticket =>
    have other := taker ticket rfl
    refine ⟨((only_setSlot ..).trans (if_neg other)).trans rest, ?_⟩
    simp [Option.filter, other]

/-- Who takes a message and what becomes of the part of a uid, if no message is accepted under two
    uids. -/
theorem only_complete (h : t.Sound) {strict : Bool} {topic : String} {m : Message}
    (apart : t.Apart (.complete strict topic m)) :
    (t.complete strict topic m).1.only uid = ((t.only uid).complete strict topic m).1 ∧
      ((t.only uid).complete strict topic m).2 =
        (t.complete strict topic m).2.filter (·.uid == uid) := by
  by_cases own : ∃ entry ∈ t.entries, entry.1 = uid ∧
      entry.2.expectation.accepts strict topic m = true
  · obtain ⟨entry, mem, rfl, accepts⟩ := own
    exact only_complete_of_forall h fun other memOther takes =>
      apart other memOther entry mem takes accepts
  · refine only_complete_of_forall_not h fun entry mem same => ?_
    rw [← Bool.not_eq_true]
    exact fun takes => own ⟨entry, mem, same, takes⟩

/-! ## Runs -/

/-- An operation of a uid, or a message, does to the part of that uid what it does to the table. The
    operations of others do nothing to it. -/
theorem only_apply (h : t.Sound) {op : Operation} (apart : t.Apart op) :
    (t.apply op).only uid =
      if op.concerns uid = true then (t.only uid).apply op else t.only uid := by
  cases op with
  | register e => simpa [apply, Operation.concerns] using only_register e
  | complete strict topic m => exact (only_complete h apart).1
  | remove other =>
    by_cases own : other = uid
    · subst own
      simpa [apply, Operation.concerns] using (only_remove_self h).1
    · simpa [apply, Operation.concerns, own] using only_remove_of_ne h own
  | receive ticket => simpa [apply, Operation.concerns] using only_receive ticket
  | leave ticket => simpa [apply, leave, Operation.concerns] using only_setSlot ticket .gone

/-- What a uid sees of an operation hangs on its own part of the table, and of the operations of
    others it sees nothing. -/
theorem seen?_only (h : t.Sound) {op : Operation} (apart : t.Apart op) :
    t.seen? uid op = if op.concerns uid = true then (t.only uid).seen? uid op else none := by
  cases op with
  | register e =>
    by_cases own : e.uid = uid
    · subst own
      simp [seen?, Operation.concerns, register_only]
    · simp [seen?, Operation.concerns, own]
  | complete strict topic m =>
    rw [if_pos (by rfl), seen?, seen?, (only_complete h apart).2, Option.filter_filter]
    simp
  | remove other =>
    by_cases own : other = uid
    · subst own
      simp [seen?, Operation.concerns, (only_remove_self h).2]
    · simp [seen?, Operation.concerns, own]
  | receive ticket =>
    by_cases own : ticket.uid = uid
    · simp [seen?, Operation.concerns, own, receive_only own]
    · simp [seen?, Operation.concerns, own]
  | leave ticket => simp [seen?]

/-- A uid sees of a run what it sees of the run without the operations of others, which leads to
    its part of the table. -/
theorem only_run (uid : String) (h : t.Sound) (ops : List Operation) (separate : t.Separate ops) :
    (t.run ops).only uid = (t.only uid).run (ops.filter (·.concerns uid)) ∧
      t.sights uid ops = (t.only uid).sights uid (ops.filter (·.concerns uid)) := by
  induction ops generalizing t with
  | nil => exact ⟨rfl, rfl⟩
  | cons op ops ih =>
    obtain ⟨apart, separate⟩ := separate
    obtain ⟨table, seen⟩ := ih (sound_apply h op) separate
    rw [only_apply h apart] at table seen
    rw [run_cons, table, sights, seen, seen?_only h apart]
    by_cases own : op.concerns uid = true
    · rw [if_pos own, if_pos own, List.filter_cons_of_pos own, run_cons, sights]
      exact ⟨rfl, rfl⟩
    · rw [if_neg own, if_neg own, List.filter_cons_of_neg own]
      exact ⟨rfl, rfl⟩

/-- Where replies must name their requests, no message is accepted under two uids. -/
theorem separate_of_strict (h : t.Sound) {ops : List Operation} (strict : ∀ op ∈ ops, op.Strict) :
    t.Separate ops := by
  induction ops generalizing t with
  | nil => trivial
  | cons op ops ih =>
    rw [List.forall_mem_cons] at strict
    refine ⟨?_, ih (sound_apply h op) strict.2⟩
    cases op with
    | complete named topic m =>
      obtain rfl : named = true := strict.1
      intro a memA b memB takesA takesB
      -- both entries stand under the uid that the message names
      have corid {e : Expectation} (takes : e.accepts true topic m = true) : m.corid = e.uid := by
        simp only [Expectation.accepts, Bool.and_eq_true] at takes
        simpa using takes.2
      rw [h.keyed a memA, h.keyed b memB, ← corid takesA, ← corid takesB]
    | _ => trivial

/--
Take a run from the empty table in which no message is accepted under two uids at once. Then every
uid is left with the same entry and the same slots as in the run without the operations of others
and their waiters; its registrations have the same results, and its waiters are handed the same
messages. Where all replies must name their requests, every run is such a run.
-/
theorem uids_do_not_interfere (ops : List Operation) :
    (empty.Separate ops → ∀ uid,
      let without := ops.filter (·.concerns uid)
      (empty.run ops).pending? uid = (empty.run without).pending? uid ∧
        (∀ nth, (empty.run ops).slot ⟨uid, nth⟩ = (empty.run without).slot ⟨uid, nth⟩) ∧
        empty.sights uid ops = empty.sights uid without) ∧
    ((∀ op ∈ ops, op.Strict) → empty.Separate ops) := by
  refine ⟨fun separate uid => ?_, separate_of_strict sound_empty⟩
  obtain ⟨table, seen⟩ := only_run uid sound_empty ops separate
  rw [only_empty] at table seen
  refine ⟨?_, fun nth => ?_, seen⟩
  · rw [← pending?_only, table]
  · have own : (⟨uid, nth⟩ : Ticket).uid = uid := rfl
    rw [← slot_only own, table]

/-- A request that has a topic to itself gets the message that is meant for it, whether or not
    another one is registered, answered and removed in between. -/
theorem uids_do_not_interfere_on_two_topics :
    let one : Operation := .register { uid := "a", responseTopic := "x" }
    let two : Operation := .register { uid := "b", responseTopic := "y" }
    empty.Separate [one, two, .complete false "y" {}, .remove "b", .complete false "x" {}] ∧
      empty.sights "a" [one, two, .complete false "y" {}, .remove "b", .complete false "x" {}] =
        empty.sights "a" [one, .complete false "y" {}, .complete false "x" {}] := by
  have separate : empty.Separate [.register { uid := "a", responseTopic := "x" },
      .register { uid := "b", responseTopic := "y" }, .complete false "y" {}, .remove "b",
      .complete false "x" {}] := by decide +kernel
  exact ⟨separate, ((uids_do_not_interfere _).1 separate "a").2.2⟩

end HomeBus.PendingTable
