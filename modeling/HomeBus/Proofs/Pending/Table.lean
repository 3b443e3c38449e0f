import HomeBus.Pending
import Mathlib.Data.List.Nodup
import Mathlib.Tactic.Common

/-!
# What holds of every table of pending requests

A table is *sound* when its entries stand under the uids of their requests, no uid twice, and when
entries and slots tell the same story: an entry that is not completed has a waiter that waits or is
gone, and a waiter that waits has such an entry.

Results:
* `sound_empty`, `sound_register`, `sound_complete`, `sound_remove`, `sound_receive`,
  `sound_leave`: every operation keeps a table sound.
* `complete_cases`: who takes a message, and what becomes of the entries.
* `nextTicket_not_mem`: every registration has a waiter of its own.
-/

namespace HomeBus.PendingTable

/-! ## Slots -/

/-- The tickets that were handed out, oldest first. -/
def tickets (t : PendingTable) : List Ticket := t.slots.map Prod.fst

theorem map_fst_putSlot (ticket : Ticket) (slot : Slot) (slots : List (Ticket × Slot)) :
    (putSlot ticket slot slots).map Prod.fst = slots.map Prod.fst := by
  induction slots with
  | nil => rfl
  | cons entry rest ih =>
    unfold putSlot
    split
    · rfl
    · simp only [List.map_cons, ih]

/-- Of two changes of one slot the later one counts. -/
theorem putSlot_putSlot (ticket : Ticket) (slot old : Slot) (slots : List (Ticket × Slot)) :
    putSlot ticket slot (putSlot ticket old slots) = putSlot ticket slot slots := by
  induction slots with
  | nil => rfl
  | cons entry rest ih =>
    obtain ⟨other, s⟩ := entry
    by_cases same : other = ticket
    · simp [putSlot, same]
    · simp [putSlot, same, ih]

/-- Changes of two slots can be made in either order. -/
theorem putSlot_comm {ticket other : Ticket} (h : ticket ≠ other) (a b : Slot)
    (slots : List (Ticket × Slot)) :
    putSlot ticket a (putSlot other b slots) = putSlot other b (putSlot ticket a slots) := by
  induction slots with
  | nil => rfl
  | cons entry rest ih =>
    obtain ⟨k, s⟩ := entry
    by_cases first : k = ticket
    · subst first
      simp [putSlot, h]
    · by_cases second : k = other
      · subst second
        simp [putSlot, first]
      · simp [putSlot, first, second, ih]

@[simp] theorem tickets_setSlot (t : PendingTable) (ticket : Ticket) (slot : Slot) :
    (t.setSlot ticket slot).tickets = t.tickets :=
  map_fst_putSlot ticket slot t.slots

@[simp] theorem entries_setSlot (t : PendingTable) (ticket : Ticket) (slot : Slot) :
    (t.setSlot ticket slot).entries = t.entries := rfl

theorem slot_setSlot_self {t : PendingTable} {ticket : Ticket} (h : ticket ∈ t.tickets)
    (slot : Slot) : (t.setSlot ticket slot).slot ticket = slot :=
  slotIn_putSlot_self slot (by simpa [tickets] using h)

theorem slotIn_of_not_mem {ticket : Ticket} {slots : List (Ticket × Slot)}
    (h : ticket ∉ slots.map Prod.fst) : slotIn ticket slots = .gone := by
  induction slots with
  | nil => rfl
  | cons entry rest ih =>
    rw [List.map_cons, List.mem_cons, not_or] at h
    rw [slotIn, if_neg (Ne.symm h.1), ih h.2]

/-- A slot that is changed waits only if it is told to. -/
theorem slot_setSlot_ne_waiting {slot : Slot} (h : slot ≠ .waiting) (t : PendingTable)
    (ticket : Ticket) : (t.setSlot ticket slot).slot ticket ≠ .waiting := by
  by_cases mem : ticket ∈ t.tickets
  · rwa [slot_setSlot_self mem]
  · rw [← tickets_setSlot t ticket slot] at mem
    rw [PendingTable.slot, slotIn_of_not_mem mem]
    simp

theorem slotIn_append (ticket : Ticket) (slots more : List (Ticket × Slot)) :
    slotIn ticket (slots ++ more) =
      if ticket ∈ slots.map Prod.fst then slotIn ticket slots else slotIn ticket more := by
  induction slots with
  | nil => simp
  | cons entry rest ih =>
    obtain ⟨other, slot⟩ := entry
    by_cases same : other = ticket
    · simp [slotIn, same]
    · simp only [List.cons_append, slotIn, if_neg same, ih, List.map_cons, List.mem_cons,
        Ne.symm same, false_or]

/-- A waiter whose slot says anything but that it is gone has been handed its ticket. -/
theorem mem_tickets_of_slot_ne_gone {t : PendingTable} {ticket : Ticket}
    (h : t.slot ticket ≠ .gone) : ticket ∈ t.tickets := by
  by_contra absent
  exact h (slotIn_of_not_mem absent)

/-! ## Sound tables -/

/-- What holds of a table in every state. -/
structure Sound (t : PendingTable) : Prop where
  /-- An entry stands under the uid of its request. -/
  keyed : ∀ entry ∈ t.entries, entry.1 = entry.2.expectation.uid
  /-- Its waiter is one of that uid. -/
  ticketed : ∀ entry ∈ t.entries, entry.2.ticket.uid = entry.1
  keys_nodup : t.keys.Nodup
  /-- The waiter of an entry has been handed its ticket. -/
  handed : ∀ entry ∈ t.entries, entry.2.ticket ∈ t.tickets
  tickets_nodup : t.tickets.Nodup
  /-- The tickets of a uid are numbered from 0. -/
  numbered : ∀ ticket ∈ t.tickets, ticket.nth < t.tickets.countP (·.uid == ticket.uid)
  /-- The waiter of an entry that is not completed waits, unless it is gone. -/
  waits : ∀ entry ∈ t.entries, entry.2.completed = false →
    t.slot entry.2.ticket = .waiting ∨ t.slot entry.2.ticket = .gone
  /-- A waiter that waits has an entry that is not completed. -/
  awaited : ∀ ticket, t.slot ticket = .waiting →
    ∃ entry ∈ t.entries, entry.2.ticket = ticket ∧ entry.2.completed = false

variable {t : PendingTable}

theorem sound_empty : Sound empty := by
  constructor <;> simp [empty, keys, tickets, slot, slotIn]

theorem contains_iff (t : PendingTable) (uid : String) : t.contains uid = true ↔ uid ∈ t.keys := by
  simp [contains, keys]

/-- In a sound table entries with one key are the same entry. -/
theorem Sound.entry_unique (h : t.Sound) {a b : String × PendingRequest} (ha : a ∈ t.entries)
    (hb : b ∈ t.entries) (same : a.1 = b.1) : a = b :=
  List.inj_on_of_nodup_map h.keys_nodup ha hb same

/-- In a sound table entries with one waiter are the same entry. -/
theorem Sound.entry_unique_of_ticket (h : t.Sound) {a b : String × PendingRequest}
    (ha : a ∈ t.entries) (hb : b ∈ t.entries) (same : a.2.ticket = b.2.ticket) : a = b := by
  apply h.entry_unique ha hb
  rw [← h.ticketed a ha, ← h.ticketed b hb, same]

/-- The ticket that a registration hands out was not handed out before. -/
theorem Sound.nextTicket_not_mem (h : t.Sound) (uid : String) : t.nextTicket uid ∉ t.tickets := by
  intro mem
  have lt := h.numbered _ mem
  simp [nextTicket, tickets, List.countP_map, Function.comp_def] at lt

/-! ## Registration -/

/-- A uid that is in the table is refused; nothing but the new waiter's slot is added. -/
theorem register_of_mem {e : Expectation} (h : e.uid ∈ t.keys) :
    t.register e =
      ({ t with slots := t.slots ++ [(t.nextTicket e.uid, .closed)] }, t.nextTicket e.uid,
        .error (.duplicateRequest e.uid)) := by
  simp only [register, (contains_iff t e.uid).2 h, if_true]

/-- A uid that is not in the table gets an entry at the end, and its waiter waits. -/
theorem register_of_not_mem {e : Expectation} (h : e.uid ∉ t.keys) :
    t.register e =
      (⟨t.entries ++ [(e.uid, ⟨e, t.nextTicket e.uid, false⟩)],
        t.slots ++ [(t.nextTicket e.uid, .waiting)]⟩, t.nextTicket e.uid, .ok ()) := by
  simp only [register, contains_iff, h, if_false]

@[simp] theorem tickets_append (entries : List (String × PendingRequest)) (ticket : Ticket)
    (slot : Slot) :
    (PendingTable.mk entries (t.slots ++ [(ticket, slot)])).tickets = t.tickets ++ [ticket] := by
  simp [tickets]

/-- A new waiter changes the slot of no other one. -/
theorem slot_append_of_ne (entries : List (String × PendingRequest)) {ticket other : Ticket}
    (h : other ≠ ticket) (slot : Slot) :
    (PendingTable.mk entries (t.slots ++ [(ticket, slot)])).slot other = t.slot other := by
  rw [PendingTable.slot, slotIn_append]
  split
  · rfl
  · next absent => simp [slotIn, Ne.symm h, PendingTable.slot, slotIn_of_not_mem absent]

/-- A new waiter has the slot that it was given. -/
theorem slot_append_self (entries : List (String × PendingRequest)) {ticket : Ticket}
    (h : ticket ∉ t.tickets) (slot : Slot) :
    (PendingTable.mk entries (t.slots ++ [(ticket, slot)])).slot ticket = slot := by
  rw [PendingTable.slot, slotIn_append, if_neg (show ticket ∉ t.slots.map Prod.fst from h)]
  simp [slotIn]

/-- The numbering of tickets goes on with the one that is handed out next. -/
theorem Sound.numbered_append (h : t.Sound) (uid : String) :
    ∀ ticket ∈ t.tickets ++ [t.nextTicket uid],
      ticket.nth < (t.tickets ++ [t.nextTicket uid]).countP (·.uid == ticket.uid) := by
  intro ticket mem
  rw [List.countP_append]
  rcases List.mem_append.1 mem with mem | mem
  · exact Nat.lt_add_right _ (h.numbered ticket mem)
  · rw [List.mem_singleton.1 mem]
    simp [nextTicket, tickets, List.countP_map, Function.comp_def]

theorem Sound.tickets_nodup_append (h : t.Sound) (uid : String) :
    (t.tickets ++ [t.nextTicket uid]).Nodup := by
  refine List.nodup_append.2 ⟨h.tickets_nodup, List.nodup_singleton _, ?_⟩
  rintro ticket mem other memOther rfl
  exact h.nextTicket_not_mem uid (List.mem_singleton.1 memOther ▸ mem)

theorem sound_register (h : t.Sound) (e : Expectation) : (t.register e).1.Sound := by
  have fresh := h.nextTicket_not_mem e.uid
  -- the waiter of an entry that was there is not the new one
  have old : ∀ entry ∈ t.entries, entry.2.ticket ≠ t.nextTicket e.uid :=
    fun entry mem same => fresh (same ▸ h.handed entry mem)
  by_cases present : e.uid ∈ t.keys
  · rw [register_of_mem present]
    refine ⟨h.keyed, h.ticketed, h.keys_nodup, fun entry mem => ?_, ?_, ?_,
      fun entry mem open_ => ?_, fun ticket waiting => ?_⟩
    · rw [tickets_append]
      exact List.mem_append_left _ (h.handed entry mem)
    · rw [tickets_append]
      exact h.tickets_nodup_append e.uid
    · rw [tickets_append]
      exact h.numbered_append e.uid
    · rw [slot_append_of_ne _ (old entry mem)]
      exact h.waits entry mem open_
    · by_cases same : ticket = t.nextTicket e.uid
      · subst same
        rw [slot_append_self _ fresh] at waiting
        cases waiting
      · rw [slot_append_of_ne _ same] at waiting
        exact h.awaited ticket waiting
  · rw [register_of_not_mem present]
    refine ⟨List.forall_mem_append.2 ⟨h.keyed, by simp⟩,
      List.forall_mem_append.2 ⟨h.ticketed, by simp [nextTicket]⟩, ?_,
      List.forall_mem_append.2 ⟨fun entry mem => ?_, by simp⟩, ?_, ?_,
      List.forall_mem_append.2 ⟨fun entry mem open_ => ?_, ?_⟩, fun ticket waiting => ?_⟩
    · rw [keys, List.map_append]
      refine List.nodup_append.2 ⟨h.keys_nodup, List.nodup_singleton _, ?_⟩
      rintro a ha b hb rfl
      rw [List.mem_singleton.1 hb] at ha
      exact present ha
    · rw [tickets_append]
      exact List.mem_append_left _ (h.handed entry mem)
    · rw [tickets_append]
      exact h.tickets_nodup_append e.uid
    · rw [tickets_append]
      exact h.numbered_append e.uid
    · rw [slot_append_of_ne _ (old entry mem)]
      exact h.waits entry mem open_
    · rintro entry mem -
      rw [List.mem_singleton.1 mem]
      exact .inl (slot_append_self _ fresh _)
    · by_cases same : ticket = t.nextTicket e.uid
      · exact ⟨_, List.mem_append_right _ (List.mem_singleton_self _), same.symm, rfl⟩
      · rw [slot_append_of_ne _ same] at waiting
        obtain ⟨entry, mem, rest⟩ := h.awaited ticket waiting
        exact ⟨entry, List.mem_append_left _ mem, rest⟩

/-! ## Completion -/

/-- Whether an entry would take a message: it accepts it, it is not completed, and its waiter is
    still there. -/
def WouldTake (t : PendingTable) (strict : Bool) (topic : String) (m : Message)
    (entry : PendingRequest) : Prop :=
  entry.expectation.accepts strict topic m = true ∧ entry.completed = false ∧
    t.slot entry.ticket ≠ .gone

/-- What becomes of an entry that a message passes by: one that accepts it but has lost its waiter
    is completed. -/
def passBy (t : PendingTable) (strict : Bool) (topic : String) (m : Message)
    (entry : PendingRequest) : PendingRequest :=
  if entry.expectation.accepts strict topic m = true ∧ t.slot entry.ticket = .gone then
    { entry with completed := true }
  else entry

section Completion

variable (strict : Bool) (topic : String) (m : Message)

theorem passBy_eq (t : PendingTable) (entry : PendingRequest) :
    t.passBy strict topic m entry = entry ∨
      t.passBy strict topic m entry = { entry with completed := true } ∧
        t.slot entry.ticket = .gone := by
  unfold passBy
  split
  · next h => exact .inr ⟨rfl, h.2⟩
  · exact .inl rfl

/-- The entries after a message was offered to them, and who takes it. -/
theorem scan_cases (t : PendingTable) (entries : List (String × PendingRequest)) :
    (scan (fun ticket => t.slot ticket == .gone) (·.accepts strict topic m) entries =
        (entries.map (Prod.map id (t.passBy strict topic m)), none) ∧
      ∀ entry ∈ entries, ¬ t.WouldTake strict topic m entry.2) ∨
    ∃ before key entry after, entries = before ++ (key, entry) :: after ∧
      (∀ entry ∈ before, ¬ t.WouldTake strict topic m entry.2) ∧
      t.WouldTake strict topic m entry ∧
      scan (fun ticket => t.slot ticket == .gone) (·.accepts strict topic m) entries =
        (before.map (Prod.map id (t.passBy strict topic m)) ++
          (key, { entry with completed := true }) :: after, some entry.ticket) := by
  induction entries with
  | nil => exact .inl ⟨rfl, by simp⟩
  | cons head rest ih =>
    obtain ⟨key, entry⟩ := head
    by_cases takes : t.WouldTake strict topic m entry
    · refine .inr ⟨[], key, entry, rest, rfl, by simp, takes, ?_⟩
      simp [scan, takes.1, takes.2.1, takes.2.2]
    · -- the entry passes the message on
      have step : scan (fun ticket => t.slot ticket == .gone) (·.accepts strict topic m)
          ((key, entry) :: rest) =
          ((key, t.passBy strict topic m entry) ::
            (scan (fun ticket => t.slot ticket == .gone) (·.accepts strict topic m) rest).1,
            (scan (fun ticket => t.slot ticket == .gone) (·.accepts strict topic m) rest).2) := by
        obtain ⟨e, ticket, completed⟩ := entry
        by_cases accepts : e.accepts strict topic m = true <;>
          by_cases gone : t.slot ticket = .gone <;> cases completed <;>
          simp_all [scan, passBy, WouldTake]
      rcases ih with ⟨eq, none⟩ | ⟨before, k, taker, after, rfl, passed, taken, eq⟩
      · refine .inl ⟨by rw [step, eq]; rfl, ?_⟩
        exact List.forall_mem_cons.2 ⟨takes, none⟩
      · refine .inr ⟨(key, entry) :: before, k, taker, after, rfl, ?_, taken, ?_⟩
        · exact List.forall_mem_cons.2 ⟨takes, passed⟩
        · rw [step, eq]
          rfl

/-- Who takes a message, and what becomes of the table: the first entry that would take it is
    completed and its waiter answered, and only entries before it whose waiters are gone are
    completed as well. -/
theorem complete_cases (t : PendingTable) :
    (t.complete strict topic m =
        ({ t with entries := t.entries.map (Prod.map id (t.passBy strict topic m)) }, none) ∧
      ∀ entry ∈ t.entries, ¬ t.WouldTake strict topic m entry.2) ∨
    ∃ before key entry after, t.entries = before ++ (key, entry) :: after ∧
      (∀ entry ∈ before, ¬ t.WouldTake strict topic m entry.2) ∧
      t.WouldTake strict topic m entry ∧
      t.complete strict topic m =
        ((PendingTable.mk (before.map (Prod.map id (t.passBy strict topic m)) ++
          (key, { entry with completed := true }) :: after) t.slots).setSlot entry.ticket
          (.answered m), some entry.ticket) := by
  rcases scan_cases strict topic m t t.entries with
    ⟨eq, none⟩ | ⟨before, key, entry, after, split, passed, takes, eq⟩
  · exact .inl ⟨by simp only [complete, eq], none⟩
  · exact .inr ⟨before, key, entry, after, split, passed, takes, by simp only [complete, eq]⟩

/-- A message changes no keys. -/
theorem keys_complete (t : PendingTable) : (t.complete strict topic m).1.keys = t.keys := by
  rcases complete_cases strict topic m t with
    ⟨eq, -⟩ | ⟨before, key, entry, after, split, -, -, eq⟩
  · simp [eq, keys, Function.comp_def]
  · simp [eq, keys, split, Function.comp_def]

@[simp] theorem tickets_complete (t : PendingTable) :
    (t.complete strict topic m).1.tickets = t.tickets := by
  rcases complete_cases strict topic m t with ⟨eq, -⟩ | ⟨before, key, entry, after, -, -, -, eq⟩
  · rw [eq]
    rfl
  · rw [eq, tickets_setSlot]
    rfl

/-- The entries around one of a sound table have other waiters. -/
theorem Sound.ticket_ne_of_split (h : t.Sound) {before after : List (String × PendingRequest)}
    {entry : String × PendingRequest} (split : t.entries = before ++ entry :: after) :
    (∀ other ∈ before, other.2.ticket ≠ entry.2.ticket) ∧
      ∀ other ∈ after, other.2.ticket ≠ entry.2.ticket := by
  have nodup : (before ++ entry :: after).Nodup := split ▸ h.keys_nodup.of_map
  have mem : entry ∈ t.entries := by simp [split]
  obtain ⟨-, nodupAfter, apart⟩ := List.nodup_append.1 nodup
  refine ⟨fun other memOther same => ?_, fun other memOther same => ?_⟩
  · have eq := h.entry_unique_of_ticket (by simp [split, memOther]) mem same
    exact apart other memOther entry List.mem_cons_self eq
  · have eq := h.entry_unique_of_ticket (by simp [split, memOther]) mem same
    exact (List.nodup_cons.1 nodupAfter).1 (eq ▸ memOther)

/-- An entry after a message was offered to the table: as it was, or completed because its waiter
    takes the message or is gone. -/
def Offered (t : PendingTable) (taker : Option Ticket) (entry entry' : String × PendingRequest) :
    Prop :=
  entry' = entry ∧ taker ≠ some entry.2.ticket ∨
    entry' = (entry.1, { entry.2 with completed := true }) ∧
      (t.slot entry.2.ticket = .gone ∨ taker = some entry.2.ticket)

/-- Entry by entry, a message completes those whose waiter takes it or is gone, and no others. -/
theorem Sound.offered_complete (h : t.Sound) :
    List.Forall₂ (t.Offered (t.complete strict topic m).2) t.entries
      (t.complete strict topic m).1.entries := by
  have pass (taker : Option Ticket) (entries : List (String × PendingRequest))
      (others : ∀ entry ∈ entries, taker ≠ some entry.2.ticket) :
      List.Forall₂ (t.Offered taker) entries
        (entries.map (Prod.map id (t.passBy strict topic m))) := by
    rw [List.forall₂_map_right_iff, List.forall₂_same]
    intro entry mem
    rcases passBy_eq strict topic m t entry.2 with eq | ⟨eq, gone⟩
    · exact .inl ⟨by rw [Prod.map, eq]; rfl, others entry mem⟩
    · exact .inr ⟨by rw [Prod.map, eq]; rfl, .inl gone⟩
  rcases complete_cases strict topic m t with
    ⟨eq, -⟩ | ⟨before, key, entry, after, split, -, -, eq⟩
  · rw [eq]
    exact pass _ _ (by simp)
  · obtain ⟨apartBefore, apartAfter⟩ := h.ticket_ne_of_split split
    rw [eq, entries_setSlot, split]
    refine List.rel_append (pass _ _ fun other mem same => ?_) (.cons (.inr ⟨rfl, .inr rfl⟩) ?_)
    · exact apartBefore other mem (Option.some.inj same).symm
    · refine List.forall₂_same.2 fun other mem => .inl ⟨rfl, fun same => ?_⟩
      exact apartAfter other mem (Option.some.inj same).symm

/-- Who takes a message has an entry that would take it, and is answered. -/
theorem complete_eq_some {t : PendingTable} {ticket : Ticket}
    (h : (t.complete strict topic m).2 = some ticket) :
    (∃ entry ∈ t.entries, entry.2.ticket = ticket ∧ t.WouldTake strict topic m entry.2) ∧
      (ticket ∈ t.tickets → (t.complete strict topic m).1.slot ticket = .answered m) := by
  rcases complete_cases strict topic m t with
    ⟨eq, -⟩ | ⟨before, key, entry, after, split, -, takes, eq⟩
  · rw [eq] at h
    cases h
  · rw [eq] at h ⊢
    cases h
    refine ⟨⟨(key, entry), by simp [split], rfl, takes⟩, fun mem => ?_⟩
    exact slot_setSlot_self (by simpa [tickets] using mem) _

/-- A message changes the slot of nobody but the waiter that takes it. -/
theorem slot_complete_of_ne {t : PendingTable} {ticket : Ticket}
    (h : (t.complete strict topic m).2 ≠ some ticket) :
    (t.complete strict topic m).1.slot ticket = t.slot ticket := by
  rcases complete_cases strict topic m t with ⟨eq, -⟩ | ⟨before, key, entry, after, -, -, -, eq⟩
  · rw [eq]
    rfl
  · rw [eq] at h ⊢
    refine slot_setSlot_of_ne (fun same => h ?_) _ _
    rw [same]

/-- The waiter that takes a message was waiting. -/
theorem Sound.waiting_of_complete (h : t.Sound) {ticket : Ticket}
    (taken : (t.complete strict topic m).2 = some ticket) : t.slot ticket = .waiting := by
  obtain ⟨⟨entry, mem, rfl, takes⟩, -⟩ := complete_eq_some strict topic m taken
  exact (h.waits entry mem takes.2.1).resolve_right takes.2.2

theorem Sound.slot_complete_of_eq (h : t.Sound) {ticket : Ticket}
    (taken : (t.complete strict topic m).2 = some ticket) :
    (t.complete strict topic m).1.slot ticket = .answered m := by
  obtain ⟨⟨entry, mem, rfl, -⟩, answered⟩ := complete_eq_some strict topic m taken
  exact answered (h.handed entry mem)

theorem exists_mem_of_forall₂ {α β : Type*} {R : α → β → Prop} {l : List α} {l' : List β}
    (h : List.Forall₂ R l l') : ∀ a ∈ l, ∃ b ∈ l', R a b := by
  induction h with
  | nil => simp
  | cons head _ ih =>
    refine List.forall_mem_cons.2 ⟨⟨_, List.mem_cons_self, head⟩, fun a mem => ?_⟩
    obtain ⟨b, mem, rel⟩ := ih a mem
    exact ⟨b, List.mem_cons_of_mem _ mem, rel⟩

/-- An entry is still there after a message, as it was or completed. -/
theorem Sound.exists_mem_complete (h : t.Sound) {entry : String × PendingRequest}
    (mem : entry ∈ t.entries) : ∃ entry' ∈ (t.complete strict topic m).1.entries,
      t.Offered (t.complete strict topic m).2 entry entry' :=
  exists_mem_of_forall₂ (h.offered_complete strict topic m) entry mem

/-- An entry after a message was there before, as it is or not completed. -/
theorem Sound.exists_of_mem_complete (h : t.Sound) {entry' : String × PendingRequest}
    (mem : entry' ∈ (t.complete strict topic m).1.entries) :
    ∃ entry ∈ t.entries, t.Offered (t.complete strict topic m).2 entry entry' :=
  exists_mem_of_forall₂ (h.offered_complete strict topic m).flip entry' mem

theorem sound_complete (h : t.Sound) : (t.complete strict topic m).1.Sound := by
  refine ⟨fun entry' mem' => ?_, fun entry' mem' => ?_, ?_, fun entry' mem' => ?_, ?_, ?_,
    fun entry' mem' open_ => ?_, fun ticket waiting => ?_⟩
  · obtain ⟨entry, mem, ⟨rfl, -⟩ | ⟨rfl, -⟩⟩ := h.exists_of_mem_complete strict topic m mem'
    · exact h.keyed _ mem
    · exact h.keyed entry mem
  · obtain ⟨entry, mem, ⟨rfl, -⟩ | ⟨rfl, -⟩⟩ := h.exists_of_mem_complete strict topic m mem'
    · exact h.ticketed _ mem
    · exact h.ticketed entry mem
  · rw [keys_complete]
    exact h.keys_nodup
  · rw [tickets_complete]
    obtain ⟨entry, mem, ⟨rfl, -⟩ | ⟨rfl, -⟩⟩ := h.exists_of_mem_complete strict topic m mem'
    · exact h.handed _ mem
    · exact h.handed entry mem
  · rw [tickets_complete]
    exact h.tickets_nodup
  · rw [tickets_complete]
    exact h.numbered
  · obtain ⟨entry, mem, ⟨rfl, other⟩ | ⟨rfl, -⟩⟩ := h.exists_of_mem_complete strict topic m mem'
    · rw [slot_complete_of_ne strict topic m other]
      exact h.waits _ mem open_
    · cases open_
  · by_cases taken : (t.complete strict topic m).2 = some ticket
    · rw [h.slot_complete_of_eq strict topic m taken] at waiting
      cases waiting
    · rw [slot_complete_of_ne strict topic m taken] at waiting
      obtain ⟨entry, mem, rfl, open_⟩ := h.awaited ticket waiting
      obtain ⟨entry', mem', ⟨rfl, -⟩ | ⟨rfl, gone | taker⟩⟩ :=
        h.exists_mem_complete strict topic m mem
      · exact ⟨_, mem', rfl, open_⟩
      · rw [gone] at waiting
        cases waiting
      · exact absurd taker taken

end Completion

/-! ## Waiters that look or leave -/

/-- A slot that no open entry depends on can be changed to one that does not wait. -/
theorem Sound.setSlot (h : t.Sound) {ticket : Ticket} {slot : Slot} (done : slot ≠ .waiting)
    (free : slot = .gone ∨ ∀ entry ∈ t.entries, entry.2.ticket = ticket →
      entry.2.completed = true) :
    (t.setSlot ticket slot).Sound := by
  refine ⟨h.keyed, h.ticketed, h.keys_nodup, fun entry mem => ?_, ?_, ?_,
    fun entry mem open_ => ?_, fun other waiting => ?_⟩
  · rw [tickets_setSlot]
    exact h.handed entry mem
  · rw [tickets_setSlot]
    exact h.tickets_nodup
  · rw [tickets_setSlot]
    exact h.numbered
  · by_cases same : entry.2.ticket = ticket
    · subst same
      rw [slot_setSlot_self (h.handed entry mem)]
      rcases free with rfl | free
      · exact .inr rfl
      · rw [free entry mem rfl] at open_
        cases open_
    · rw [slot_setSlot_of_ne same]
      exact h.waits entry mem open_
  · by_cases same : other = ticket
    · subst same
      have mem : other ∈ t.tickets := by
        rw [← tickets_setSlot t other slot]
        exact mem_tickets_of_slot_ne_gone (by simp [waiting])
      rw [slot_setSlot_self mem] at waiting
      exact absurd waiting done
    · rw [slot_setSlot_of_ne same] at waiting
      exact h.awaited other waiting

theorem sound_leave (h : t.Sound) (ticket : Ticket) : (t.leave ticket).Sound :=
  h.setSlot (by simp) (.inl rfl)

theorem sound_receive (h : t.Sound) (ticket : Ticket) : (t.receive ticket).1.Sound := by
  unfold receive
  split
  · exact h
  · next m answered =>
    refine h.setSlot (by simp) (.inr fun entry mem same => ?_)
    -- an open entry of this waiter would have it wait or gone
    cases completed : entry.2.completed with
    | true => rfl
    | false =>
      have waits := h.waits entry mem completed
      rw [same, answered] at waits
      rcases waits with eq | eq <;> cases eq
  all_goals exact h

/-! ## Removal -/

theorem remove_cases (t : PendingTable) (uid : String) :
    (uid ∉ t.keys ∧ t.remove uid = (t, none)) ∨
    ∃ entry, (uid, entry) ∈ t.entries ∧
      t.remove uid =
        (if t.slot entry.ticket = .waiting then
          (PendingTable.mk (t.entries.filter (·.1 != uid)) t.slots).setSlot entry.ticket .closed
        else PendingTable.mk (t.entries.filter (·.1 != uid)) t.slots, some entry) := by
  unfold remove
  cases found : t.entries.find? fun entry => entry.1 == uid with
  | none =>
    refine .inl ⟨fun mem => ?_, rfl⟩
    obtain ⟨entry, memEntry, rfl⟩ := List.mem_map.1 mem
    have := List.find?_eq_none.1 found entry memEntry
    simp at this
  | some entry =>
    obtain ⟨key, entry⟩ := entry
    have same : key = uid := by simpa using List.find?_some found
    subst same
    refine .inr ⟨entry, List.mem_of_find?_eq_some found, ?_⟩
    by_cases waiting : slotIn entry.ticket t.slots = .waiting <;> simp [slot, waiting]

theorem entries_remove (t : PendingTable) (uid : String) :
    (t.remove uid).1.entries = t.entries.filter (·.1 != uid) := by
  rcases remove_cases t uid with ⟨absent, eq⟩ | ⟨entry, -, eq⟩
  · rw [eq, List.filter_eq_self.2]
    intro entry mem
    rw [bne_iff_ne]
    rintro rfl
    exact absent (List.mem_map_of_mem mem)
  · rw [eq]
    split <;> rfl

theorem keys_remove (t : PendingTable) (uid : String) :
    (t.remove uid).1.keys = t.keys.filter (· != uid) := by
  simp only [keys, entries_remove, List.filter_map]
  rfl

@[simp] theorem tickets_remove (t : PendingTable) (uid : String) :
    (t.remove uid).1.tickets = t.tickets := by
  rcases remove_cases t uid with ⟨-, eq⟩ | ⟨entry, -, eq⟩
  · rw [eq]
  · rw [eq]
    split
    · rw [tickets_setSlot]
      rfl
    · rfl

/-- A removal changes the slot of nobody but the waiter of the entry that goes, which is closed if
    it waits. -/
theorem slot_remove_of_ne (uid : String) {ticket : Ticket}
    (h : ∀ entry, (uid, entry) ∈ t.entries → entry.ticket ≠ ticket ∨ t.slot ticket ≠ .waiting) :
    (t.remove uid).1.slot ticket = t.slot ticket := by
  rcases remove_cases t uid with ⟨-, eq⟩ | ⟨entry, mem, eq⟩
  · rw [eq]
  · rw [eq]
    split
    · next waiting =>
      refine slot_setSlot_of_ne (fun same => ?_) _ _
      rcases h entry mem with ne | ne
      · exact ne same.symm
      · exact ne (same ▸ waiting)
    · rfl

theorem Sound.slot_remove_self (h : t.Sound) {uid : String} {entry : PendingRequest}
    (mem : (uid, entry) ∈ t.entries) (waiting : t.slot entry.ticket = .waiting) :
    (t.remove uid).1.slot entry.ticket = .closed := by
  rcases remove_cases t uid with ⟨absent, -⟩ | ⟨other, memOther, eq⟩
  · exact absurd (List.mem_map_of_mem mem) absent
  · obtain rfl : other = entry := congrArg Prod.snd (h.entry_unique memOther mem rfl)
    rw [eq, if_pos waiting]
    exact slot_setSlot_self (h.handed _ mem) _

theorem sound_remove (h : t.Sound) (uid : String) : (t.remove uid).1.Sound := by
  have left : ∀ entry ∈ (t.remove uid).1.entries, entry ∈ t.entries ∧ entry.1 ≠ uid := by
    intro entry mem
    simpa [entries_remove] using mem
  -- an entry that stays has another waiter than the one that goes
  have kept : ∀ entry ∈ t.entries, entry.1 ≠ uid →
      (t.remove uid).1.slot entry.2.ticket = t.slot entry.2.ticket := by
    intro entry mem ne
    refine slot_remove_of_ne uid fun other memOther => .inl fun same => ne ?_
    rw [← h.ticketed entry mem, ← same, h.ticketed _ memOther]
  refine ⟨fun entry mem => h.keyed entry (left entry mem).1,
    fun entry mem => h.ticketed entry (left entry mem).1, ?_, fun entry mem => ?_, ?_, ?_,
    fun entry mem open_ => ?_, fun ticket waiting => ?_⟩
  · rw [keys_remove]
    exact h.keys_nodup.filter _
  · rw [tickets_remove]
    exact h.handed entry (left entry mem).1
  · rw [tickets_remove]
    exact h.tickets_nodup
  · rw [tickets_remove]
    exact h.numbered
  · rw [kept entry (left entry mem).1 (left entry mem).2]
    exact h.waits entry (left entry mem).1 open_
  · have before : t.slot ticket = .waiting := by
      rw [← waiting, slot_remove_of_ne uid]
      intro entry mem
      by_cases same : entry.ticket = ticket
      · refine .inr fun before => ?_
        subst same
        rw [h.slot_remove_self mem before] at waiting
        cases waiting
      · exact .inl same
    obtain ⟨entry, mem, rfl, open_⟩ := h.awaited ticket before
    refine ⟨entry, ?_, rfl, open_⟩
    rw [entries_remove, List.mem_filter]
    refine ⟨mem, ?_⟩
    rw [bne_iff_ne]
    rintro rfl
    rw [h.slot_remove_self (show (entry.1, entry.2) ∈ t.entries from mem) before] at waiting
    cases waiting

/-! ## Requests that come and go -/

/-- Takes a request out of the table together with its waiter. -/
def withdraw (t : PendingTable) (uid : String) (ticket : Ticket) : PendingTable :=
  (t.remove uid).1.leave ticket

/-- What a waiter saw last does not matter once it is gone. -/
theorem withdraw_setSlot (t : PendingTable) (uid : String) {ticket : Ticket} {slot : Slot}
    (before : t.slot ticket ≠ .waiting) (after : slot ≠ .waiting) :
    (t.setSlot ticket slot).withdraw uid ticket = t.withdraw uid ticket := by
  have overwritten (t : PendingTable) : (t.setSlot ticket slot).leave ticket = t.leave ticket := by
    simp only [leave, setSlot, putSlot_putSlot]
  unfold withdraw remove
  rw [entries_setSlot]
  cases t.entries.find? fun entry => entry.1 == uid with
  | none => exact overwritten t
  | some entry =>
    obtain ⟨key, entry⟩ := entry
    let rest : PendingTable := { t with entries := t.entries.filter fun entry => entry.1 != uid }
    change PendingTable.leave
        (if (rest.setSlot ticket slot).slot entry.ticket = .waiting then
          ((rest.setSlot ticket slot).setSlot entry.ticket .closed, some entry)
        else (rest.setSlot ticket slot, some entry)).1 ticket =
      PendingTable.leave
        (if rest.slot entry.ticket = .waiting then (rest.setSlot entry.ticket .closed, some entry)
        else (rest, some entry)).1 ticket
    by_cases same : entry.ticket = ticket
    · subst same
      have still : rest.slot entry.ticket ≠ .waiting := before
      rw [if_neg (slot_setSlot_ne_waiting after _ _), if_neg still]
      exact overwritten rest
    · rw [slot_setSlot_of_ne same]
      split
      · simp only [leave, setSlot, putSlot_comm same, putSlot_putSlot]
      · exact overwritten rest

theorem sound_withdraw (h : t.Sound) (uid : String) (ticket : Ticket) :
    (t.withdraw uid ticket).Sound :=
  sound_leave (sound_remove h uid) ticket

theorem entries_withdraw (t : PendingTable) (uid : String) (ticket : Ticket) :
    (t.withdraw uid ticket).entries = t.entries.filter (·.1 != uid) :=
  entries_remove t uid

theorem keys_withdraw (t : PendingTable) (uid : String) (ticket : Ticket) :
    (t.withdraw uid ticket).keys = t.keys.filter (· != uid) :=
  keys_remove t uid

/-- Only the waiters of the request that goes are concerned. -/
theorem slot_withdraw_of_ne (uid : String) {ticket other : Ticket} (h : other ≠ ticket)
    (kept : ∀ entry, (uid, entry) ∈ t.entries → entry.ticket ≠ other) :
    (t.withdraw uid ticket).slot other = t.slot other := by
  rw [withdraw, leave, slot_setSlot_of_ne h]
  exact slot_remove_of_ne uid fun entry mem => .inl (kept entry mem)

/-- Refuses a request whose uid is in the table already; its waiter goes at once. -/
def refuse (t : PendingTable) (e : Expectation) : PendingTable :=
  (t.register e).1.leave (t.nextTicket e.uid)

theorem sound_refuse (h : t.Sound) (e : Expectation) : (t.refuse e).Sound :=
  sound_leave (sound_register h e) _

/-- A request that is refused leaves all entries as they are. -/
theorem entries_refuse {e : Expectation} (h : e.uid ∈ t.keys) :
    (t.refuse e).entries = t.entries := by
  rw [refuse, register_of_mem h]
  rfl

/-- A request that is refused leaves all other waiters as they are. -/
theorem slot_refuse {e : Expectation} (h : e.uid ∈ t.keys) {ticket : Ticket}
    (ne : ticket ≠ t.nextTicket e.uid) : (t.refuse e).slot ticket = t.slot ticket := by
  rw [refuse, register_of_mem h, leave, slot_setSlot_of_ne ne, slot_append_of_ne _ ne]

/-- A request that is registered and goes again leaves all entries as they were. -/
theorem entries_withdraw_register {e : Expectation} (h : e.uid ∉ t.keys) (ticket : Ticket) :
    ((t.register e).1.withdraw e.uid ticket).entries = t.entries := by
  have others : ∀ entry ∈ t.entries, (entry.1 != e.uid) = true := by
    intro entry mem
    rw [bne_iff_ne]
    rintro same
    exact h (same ▸ List.mem_map_of_mem mem)
  rw [entries_withdraw, register_of_not_mem h, List.filter_append, List.filter_eq_self.2 others]
  simp

/-- A request that is registered and goes again leaves all other waiters as they were. -/
theorem slot_withdraw_register {e : Expectation} (absent : e.uid ∉ t.keys) {ticket : Ticket}
    (ne : ticket ≠ t.nextTicket e.uid) :
    ((t.register e).1.withdraw e.uid (t.nextTicket e.uid)).slot ticket = t.slot ticket := by
  rw [slot_withdraw_of_ne _ ne, register_of_not_mem absent, slot_append_of_ne _ ne]
  intro entry mem same
  rw [register_of_not_mem absent, List.mem_append, List.mem_singleton] at mem
  rcases mem with mem | mem
  · exact absent (List.mem_map_of_mem mem)
  · cases mem
    exact ne same.symm

end HomeBus.PendingTable
