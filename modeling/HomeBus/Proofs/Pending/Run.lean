import HomeBus.Proofs.Pending.Table

/-!
# Runs of a table of pending requests

A table starts empty and is changed by operations in any order: requests are registered and removed,
messages are offered, and waiters look or leave.

Results:
* `sound_run`: a table is sound after every run.
* `run_serves_in_order`: after every run the entries stand in the order of their registrations, a
  message goes to the first entry that would take it and to nobody else, and no waiter is handed
  two messages in the whole run.
-/

namespace HomeBus.PendingTable

/-! ## Operations -/

/-- What is done with a table. -/
inductive Operation where
  | register (e : Expectation)
  | complete (strict : Bool) (topic : String) (m : Message)
  | remove (uid : String)
  /-- A waiter looks. -/
  | receive (ticket : Ticket)
  /-- A waiter goes. -/
  | leave (ticket : Ticket)
  deriving DecidableEq

def apply (t : PendingTable) : Operation → PendingTable
  | .register e => (t.register e).1
  | .complete strict topic m => (t.complete strict topic m).1
  | .remove uid => (t.remove uid).1
  | .receive ticket => (t.receive ticket).1
  | .leave ticket => t.leave ticket

def run (t : PendingTable) (ops : List Operation) : PendingTable := ops.foldl apply t

@[simp] theorem run_cons (t : PendingTable) (op : Operation) (ops : List Operation) :
    t.run (op :: ops) = (t.apply op).run ops := rfl

/-- The uid that an operation registers with success. -/
def admitted? (t : PendingTable) : Operation → Option String
  | .register e =>
    match (t.register e).2.2 with
    | .ok () => some e.uid
    | .error _ => none
  | _ => none

/-- The waiter that comes with an operation. -/
def newcomer? (t : PendingTable) : Operation → Option Ticket
  | .register e => some (t.register e).2.1
  | _ => none

/-- The waiter that an operation hands a message to. -/
def taker? (t : PendingTable) : Operation → Option Ticket
  | .complete strict topic m => (t.complete strict topic m).2
  | _ => none

/-! ## Histories -/

/-- The uids that a run registers with success and does not remove later, oldest first. -/
def standing (t : PendingTable) : List Operation → List String
  | [] => []
  | op :: ops =>
    (t.admitted? op).toList.filter (fun uid => .remove uid ∉ ops) ++ (t.apply op).standing ops

/-- The waiters that come in a run, one for each attempt to register. -/
def newcomers (t : PendingTable) : List Operation → List Ticket
  | [] => []
  | op :: ops => (t.newcomer? op).toList ++ (t.apply op).newcomers ops

/-- The waiters that are handed a message in a run, once for each message. -/
def takers (t : PendingTable) : List Operation → List Ticket
  | [] => []
  | op :: ops => (t.taker? op).toList ++ (t.apply op).takers ops

/-! ## What operations keep -/

variable {t : PendingTable}

theorem sound_apply (h : t.Sound) (op : Operation) : (t.apply op).Sound := by
  cases op with
  | register e => exact sound_register h e
  | complete strict topic m => exact sound_complete strict topic m h
  | remove uid => exact sound_remove h uid
  | receive ticket => exact sound_receive h ticket
  | leave ticket => exact sound_leave h ticket

theorem sound_run (h : t.Sound) (ops : List Operation) : (t.run ops).Sound := by
  induction ops generalizing t with
  | nil => exact h
  | cons op ops ih => exact ih (sound_apply h op)

/-- A waiter that looks changes neither the entries nor who has been handed a ticket. -/
theorem receive_frame (t : PendingTable) (ticket : Ticket) :
    (t.receive ticket).1.entries = t.entries ∧ (t.receive ticket).1.tickets = t.tickets := by
  unfold receive
  split
  · exact ⟨rfl, rfl⟩
  · exact ⟨rfl, tickets_setSlot ..⟩
  all_goals exact ⟨rfl, rfl⟩

/-- The keys after an operation: one more at the end, or one less. -/
theorem keys_apply (t : PendingTable) (op : Operation) :
    (t.apply op).keys = t.keys.filter (fun uid => op ≠ .remove uid) ++ (t.admitted? op).toList := by
  cases op with
  | register e =>
    by_cases present : e.uid ∈ t.keys
    · simp [apply, admitted?, register_of_mem present, keys]
    · simp [apply, admitted?, register_of_not_mem present, keys]
  | complete strict topic m => simp [apply, admitted?, keys_complete]
  | remove uid =>
    rw [apply, keys_remove]
    simp [admitted?, bne, beq_eq_decide, eq_comm]
  | receive ticket => simp [apply, admitted?, keys, (t.receive_frame ticket).1]
  | leave ticket => simp [apply, admitted?, keys, leave]

/-- The tickets after an operation: those that were there, and that of the newcomer. -/
theorem tickets_apply (t : PendingTable) (op : Operation) :
    (t.apply op).tickets = t.tickets ++ (t.newcomer? op).toList := by
  cases op with
  | register e =>
    by_cases present : e.uid ∈ t.keys
    · simp [apply, newcomer?, register_of_mem present]
    · simp [apply, newcomer?, register_of_not_mem present]
  | complete strict topic m => simp [apply, newcomer?]
  | remove uid => simp [apply, newcomer?]
  | receive ticket => simp [apply, newcomer?, (t.receive_frame ticket).2]
  | leave ticket => simp [apply, newcomer?, leave]

/-! ## Waiters that have had their message -/

/-- Whether a waiter has nothing to wait for any more. -/
def Spent (t : PendingTable) (ticket : Ticket) : Prop :=
  ticket ∈ t.tickets ∧ t.slot ticket ≠ .waiting

/-- A slot that does not wait is changed by nobody but its waiter. -/
theorem Spent.apply (h : t.Sound) {ticket : Ticket} (spent : t.Spent ticket) (op : Operation) :
    (t.apply op).Spent ticket := by
  refine ⟨by rw [tickets_apply]; exact List.mem_append_left _ spent.1, ?_⟩
  cases op with
  | register e =>
    have ne : ticket ≠ t.nextTicket e.uid := by
      rintro rfl
      exact h.nextTicket_not_mem e.uid spent.1
    by_cases present : e.uid ∈ t.keys
    · rw [PendingTable.apply, register_of_mem present, slot_append_of_ne _ ne]
      exact spent.2
    · rw [PendingTable.apply, register_of_not_mem present, slot_append_of_ne _ ne]
      exact spent.2
  | complete strict topic m =>
    rw [PendingTable.apply, slot_complete_of_ne]
    · exact spent.2
    · exact fun taken => spent.2 (h.waiting_of_complete strict topic m taken)
  | remove uid =>
    rw [PendingTable.apply, slot_remove_of_ne]
    · exact spent.2
    · exact fun _ _ => .inr spent.2
  | receive other =>
    rw [PendingTable.apply, receive]
    split
    · exact spent.2
    · by_cases same : ticket = other
      · rw [same, slot_setSlot_self (same ▸ spent.1)]
        simp
      · rw [slot_setSlot_of_ne same]
        exact spent.2
    all_goals exact spent.2
  | leave other =>
    rw [PendingTable.apply, leave]
    by_cases same : ticket = other
    · rw [same, slot_setSlot_self (same ▸ spent.1)]
      simp
    · rw [slot_setSlot_of_ne same]
      exact spent.2

/-- Who is handed a message was waiting for it, and is not waiting after. -/
theorem taker?_eq_some (h : t.Sound) {op : Operation} {ticket : Ticket}
    (taken : t.taker? op = some ticket) :
    t.slot ticket = .waiting ∧ (t.apply op).Spent ticket := by
  cases op with
  | complete strict topic m =>
    have waiting := h.waiting_of_complete strict topic m taken
    refine ⟨waiting, ?_, ?_⟩
    · rw [tickets_apply]
      exact List.mem_append_left _ (mem_tickets_of_slot_ne_gone (by simp [waiting]))
    · rw [PendingTable.apply, h.slot_complete_of_eq strict topic m taken]
      simp
  | _ => cases taken

theorem Spent.not_mem_takers (h : t.Sound) {ticket : Ticket} (spent : t.Spent ticket)
    (ops : List Operation) : ticket ∉ t.takers ops := by
  induction ops generalizing t with
  | nil => exact List.not_mem_nil
  | cons op ops ih =>
    rw [takers, List.mem_append, Option.mem_toList, not_or]
    exact ⟨fun taken => spent.2 (taker?_eq_some h taken).1,
      ih (sound_apply h op) (spent.apply h op)⟩

/-! ## Whole runs -/

theorem takers_nodup (h : t.Sound) (ops : List Operation) : (t.takers ops).Nodup := by
  induction ops generalizing t with
  | nil => exact List.nodup_nil
  | cons op ops ih =>
    rw [takers]
    cases taken : t.taker? op with
    | none => exact ih (sound_apply h op)
    | some ticket =>
      have spent := (taker?_eq_some h taken).2
      exact List.nodup_cons.2 ⟨spent.not_mem_takers (sound_apply h op) ops, ih (sound_apply h op)⟩

theorem tickets_run (t : PendingTable) (ops : List Operation) :
    (t.run ops).tickets = t.tickets ++ t.newcomers ops := by
  induction ops generalizing t with
  | nil => simp [run, newcomers]
  | cons op ops ih => rw [run_cons, ih, tickets_apply, newcomers, List.append_assoc]

/-- The keys after a run: what was there and was not removed, then what the run registered. -/
theorem keys_run (t : PendingTable) (ops : List Operation) :
    (t.run ops).keys = t.keys.filter (fun uid => .remove uid ∉ ops) ++ t.standing ops := by
  induction ops generalizing t with
  | nil => simp [run, standing]
  | cons op ops ih =>
    rw [run_cons, ih, keys_apply, standing, List.filter_append, List.append_assoc,
      List.filter_filter]
    congr 2
    funext uid
    simp [eq_comm, Bool.and_comm]

/--
After every run of a table that was empty at first: no key stands there twice, each key is the uid
of its entry, and the keys stand in the order of their registrations. A message that is offered then
is taken exactly when some entry would take it. The first such entry is completed, its waiter is
answered and no other one is, and of the other entries only those before it change that accept the
message and have lost their waiters. In the whole run every waiter has a ticket of its own and is
handed one message at most.
-/
theorem run_serves_in_order (ops : List Operation) :
    (empty.run ops).keys.Nodup ∧
    (∀ entry ∈ (empty.run ops).entries, entry.1 = entry.2.expectation.uid) ∧
    (empty.run ops).keys = empty.standing ops ∧
    (empty.newcomers ops).Nodup ∧
    (empty.takers ops).Nodup ∧
    ∀ (strict : Bool) (topic : String) (m : Message),
      let t := empty.run ops
      let t' := (t.complete strict topic m).1
      let taker := (t.complete strict topic m).2
      (taker.isSome = true ↔ ∃ entry ∈ t.entries, t.WouldTake strict topic m entry.2) ∧
      (taker = none → (∀ ticket, t'.slot ticket = t.slot ticket) ∧
        t'.entries = t.entries.map (Prod.map id (t.passBy strict topic m))) ∧
      ∀ ticket, taker = some ticket →
        t.slot ticket = .waiting ∧ t'.slot ticket = .answered m ∧
        (∀ other, other ≠ ticket → t'.slot other = t.slot other) ∧
        ∃ before key entry after, t.entries = before ++ (key, entry) :: after ∧
          entry.ticket = ticket ∧ t.WouldTake strict topic m entry ∧
          (∀ other ∈ before, ¬ t.WouldTake strict topic m other.2) ∧
          t'.entries = before.map (Prod.map id (t.passBy strict topic m)) ++
            (key, { entry with completed := true }) :: after := by
  have sound := sound_run sound_empty ops
  refine ⟨sound.keys_nodup, sound.keyed, ?_, ?_, takers_nodup sound_empty ops, ?_⟩
  · simpa [keys, empty] using keys_run empty ops
  · have eq := tickets_run empty ops
    rw [show empty.tickets = [] from rfl, List.nil_append] at eq
    exact eq ▸ sound.tickets_nodup
  intro strict topic m t t' taker
  rcases complete_cases strict topic m t with
    ⟨eq, nobody⟩ | ⟨before, key, entry, after, split, passed, takes, eq⟩
  · have none_ : taker = none := congrArg Prod.snd eq
    refine ⟨?_, fun _ => ?_, fun ticket taken => ?_⟩
    · simpa [none_] using nobody
    · refine ⟨fun ticket => slot_complete_of_ne strict topic m fun taken => ?_,
        congrArg (PendingTable.entries ∘ Prod.fst) eq⟩
      cases none_.symm.trans taken
    · rw [none_] at taken
      cases taken
  · have some_ : taker = some entry.ticket := congrArg Prod.snd eq
    refine ⟨?_, fun none_ => ?_, fun ticket taken => ?_⟩
    · rw [some_]
      exact iff_of_true rfl ⟨(key, entry), by simp [split], takes⟩
    · rw [some_] at none_
      cases none_
    · refine ⟨sound.waiting_of_complete strict topic m taken,
        sound.slot_complete_of_eq strict topic m taken, fun other ne => ?_,
        before, key, entry, after, split, ?_, takes, passed, ?_⟩
      · refine slot_complete_of_ne strict topic m fun takenToo => ne ?_
        exact Option.some.inj (takenToo.symm.trans taken)
      · exact Option.some.inj (some_.symm.trans taken)
      · exact congrArg (PendingTable.entries ∘ Prod.fst) eq

end HomeBus.PendingTable
