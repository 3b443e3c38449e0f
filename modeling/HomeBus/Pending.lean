import HomeBus.Error

/-!
# Pending requests

The table of requests that wait for a reply. An entry says which replies it accepts; its one waiter
gets at most one message. Entries are scanned in the order of their registration and the first one
that accepts a reply and is still waited for takes it. A completed entry stays in the table until it
is removed, and accepts nothing more.

Waiters are told apart by tickets: the uid of the request and how many waiters that uid had before.
A ticket's slot keeps what its waiter can see.
-/

namespace HomeBus

/-- What a request waits for; empty conditions accept everything. Models the conditions of a
    `PendingRequest`. -/
structure Expectation where
  uid : String
  responseTopic : String
  service : String := ""
  msgType : String := ""
  deriving DecidableEq

namespace Expectation

/-- Whether a message that arrives on a topic is a reply; with `strict` it must name the request.
    Models `PendingRequest::accepts`. -/
def accepts (e : Expectation) (strict : Bool) (topic : String) (m : Message) : Bool :=
  e.responseTopic == topic && (e.service == "" || e.service == m.service) &&
    (e.msgType == "" || e.msgType == m.msgType) && (!strict || m.corid == e.uid)

end Expectation

/-- Names a waiter: the `nth` one of a uid, counted from 0. -/
structure Ticket where
  uid : String
  nth : Nat
  deriving DecidableEq

/-- What a waiter sees. -/
inductive Slot where
  | waiting
  | answered (m : Message)
  /-- Nothing will come any more. -/
  | closed
  /-- The waiter itself is gone. -/
  | gone
  deriving DecidableEq

/-- A request in the table. -/
structure PendingRequest where
  expectation : Expectation
  ticket : Ticket
  completed : Bool
  deriving DecidableEq

/--
The requests that wait for a reply, each under its key and in order of registration, and the slots
of all waiters. Models `PendingRequestTable`.
-/
structure PendingTable where
  entries : List (String × PendingRequest) := []
  slots : List (Ticket × Slot) := []
  deriving DecidableEq

namespace PendingTable

def empty : PendingTable := {}

/-- How many requests are in the table. Models `PendingRequestTable::len`. -/
def size (t : PendingTable) : Nat := t.entries.length

/-- The keys in order. -/
def keys (t : PendingTable) : List String := t.entries.map Prod.fst

/-- Whether a uid is in the table. Models `PendingRequestTable::contains`. -/
def contains (t : PendingTable) (uid : String) : Bool := t.entries.any fun entry => entry.1 == uid

/-- The slot of a waiter in a list; a waiter that there never was is gone. -/
def slotIn (ticket : Ticket) : List (Ticket × Slot) → Slot
  | [] => .gone
  | (other, slot) :: rest => if other = ticket then slot else slotIn ticket rest

/-- Changes the slot of a waiter in a list. -/
def putSlot (ticket : Ticket) (slot : Slot) : List (Ticket × Slot) → List (Ticket × Slot)
  | [] => []
  | (other, old) :: rest =>
    if other = ticket then (other, slot) :: rest else (other, old) :: putSlot ticket slot rest

/-- The slot of a waiter. -/
def slot (t : PendingTable) (ticket : Ticket) : Slot := slotIn ticket t.slots

/-- Changes the slot of a waiter. -/
def setSlot (t : PendingTable) (ticket : Ticket) (slot : Slot) : PendingTable :=
  { t with slots := putSlot ticket slot t.slots }

theorem slotIn_putSlot_of_ne {ticket other : Ticket} (h : other ≠ ticket) (slot : Slot)
    (slots : List (Ticket × Slot)) :
    slotIn other (putSlot ticket slot slots) = slotIn other slots := by
  induction slots with
  | nil => rfl
  | cons entry rest ih =>
    unfold putSlot
    split
    · next same =>
      have ne : entry.1 ≠ other := fun eq => h (eq.symm.trans same)
      simp [slotIn, ne]
    · simp only [slotIn, ih]

theorem slotIn_putSlot_self {ticket : Ticket} (slot : Slot) {slots : List (Ticket × Slot)}
    (h : ∃ entry ∈ slots, entry.1 = ticket) : slotIn ticket (putSlot ticket slot slots) = slot := by
  induction slots with
  | nil => simp at h
  | cons entry rest ih =>
    unfold putSlot
    split
    · next same => simp [slotIn, same]
    · next differs =>
      have rest : ∃ entry ∈ rest, entry.1 = ticket := by simpa [differs] using h
      simp [slotIn, differs, ih rest]

/-- Changing one waiter's slot leaves the others alone. -/
theorem slot_setSlot_of_ne {ticket other : Ticket} (h : other ≠ ticket) (t : PendingTable)
    (slot : Slot) : (t.setSlot ticket slot).slot other = t.slot other :=
  slotIn_putSlot_of_ne h slot t.slots

/-- The ticket of the next waiter of a uid. -/
def nextTicket (t : PendingTable) (uid : String) : Ticket :=
  ⟨uid, t.slots.countP fun entry => entry.1.uid == uid⟩

/--
Registers a request and hands out the ticket of its waiter. A uid that is already in the table is
refused; its waiter is closed at once. Models `PendingRequest::new` and
`PendingRequestTable::register`.
-/
def register (t : PendingTable) (e : Expectation) : PendingTable × Ticket × Except Error Unit :=
  let ticket := t.nextTicket e.uid
  if t.contains e.uid then
    ({ t with slots := t.slots ++ [(ticket, .closed)] }, ticket, .error (.duplicateRequest e.uid))
  else
    ({ entries := t.entries ++ [(e.uid, ⟨e, ticket, false⟩)]
       slots := t.slots ++ [(ticket, .waiting)] },
      ticket, .ok ())

/--
Offers a message to entries in order. Gives the entries afterwards and the ticket of the waiter that
takes it; an accepting entry whose waiter is gone is completed on the way. Models the loop of
`PendingRequestTable::match_and_complete`.
-/
def scan (gone : Ticket → Bool) (accepts : Expectation → Bool) :
    List (String × PendingRequest) → List (String × PendingRequest) × Option Ticket
  | [] => ([], none)
  | (key, entry) :: rest =>
    if accepts entry.expectation && !entry.completed then
      if gone entry.ticket then
        let (rest, taker) := scan gone accepts rest
        ((key, { entry with completed := true }) :: rest, taker)
      else ((key, { entry with completed := true }) :: rest, some entry.ticket)
    else
      let (rest, taker) := scan gone accepts rest
      ((key, entry) :: rest, taker)

/-- Completes the first request that a message is a reply to, and gives the waiter's ticket. Models
    `PendingRequestTable::match_and_complete`. -/
def complete (t : PendingTable) (strict : Bool) (topic : String) (m : Message) :
    PendingTable × Option Ticket :=
  let (entries, taker) :=
    scan (fun ticket => t.slot ticket == .gone) (·.accepts strict topic m) t.entries
  let t := { t with entries }
  match taker with
  | some ticket => (t.setSlot ticket (.answered m), some ticket)
  | none => (t, none)

/-- Takes a request out of the table; its waiter, if it still waits, is closed. Models
    `PendingRequestTable::remove`. -/
def remove (t : PendingTable) (uid : String) : PendingTable × Option PendingRequest :=
  match t.entries.find? fun entry => entry.1 == uid with
  | none => (t, none)
  | some (_, entry) =>
    let t := { t with entries := t.entries.filter fun entry => entry.1 != uid }
    if t.slot entry.ticket = .waiting then (t.setSlot entry.ticket .closed, some entry)
    else (t, some entry)

/-- What a waiter finds when it looks. -/
inductive Received where
  | message (m : Message)
  | empty
  | closed
  deriving DecidableEq

/-- Lets a waiter look; a message is there once. -/
def receive (t : PendingTable) (ticket : Ticket) : PendingTable × Received :=
  match t.slot ticket with
  | .waiting => (t, .empty)
  | .answered m => (t.setSlot ticket .closed, .message m)
  | .closed | .gone => (t, .closed)

/-- Lets a waiter go. -/
def leave (t : PendingTable) (ticket : Ticket) : PendingTable := t.setSlot ticket .gone

end PendingTable

end HomeBus
