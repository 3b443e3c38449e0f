import HomeBus.Pending

/-!
# A bench for the table of pending requests

Steps on one table whose waiters have names. A new waiter takes the name over, and the one that had
it before is let go.
-/

namespace HomeBus.Bench.Table

structure State where
  table : PendingTable := .empty
  waiters : List (String × Ticket) := []

inductive Step where
  | register (e : Expectation) (waiter : String)
  | complete (topic : String) (m : Message) (strict : Bool)
  | remove (uid : String)
  | contains (uid : String)
  | leave (waiter : String)
  | receive (waiter : String)

inductive Outcome where
  | registered (result : Except Error Unit)
  | flag (value : Bool)
  | removed (request : Option PendingRequest)
  | received (received : PendingTable.Received)
  | noReceiver

def State.waiter? (s : State) (name : String) : Option Ticket := Entries.get? name s.waiters

/-- Lets the waiter of a name go, if there is one. -/
def State.release (s : State) (name : String) : State :=
  { table := match s.waiter? name with
      | some ticket => s.table.leave ticket
      | none => s.table
    waiters := s.waiters.filter fun entry => entry.1 != name }

def step (s : State) : Step → State × Outcome
  | .register e waiter =>
    let (table, ticket, result) := s.table.register e
    let s := State.release { s with table } waiter
    ({ s with waiters := s.waiters ++ [(waiter, ticket)] }, .registered result)
  | .complete topic m strict =>
    let (table, taker) := s.table.complete strict topic m
    ({ s with table }, .flag taker.isSome)
  | .remove uid =>
    let (table, request) := s.table.remove uid
    ({ s with table }, .removed request)
  | .contains uid => (s, .flag (s.table.contains uid))
  | .leave waiter => (s.release waiter, .flag (s.waiter? waiter).isSome)
  | .receive waiter =>
    match s.waiter? waiter with
    | none => (s, .noReceiver)
    | some ticket =>
      let (table, received) := s.table.receive ticket
      ({ s with table }, .received received)

end HomeBus.Bench.Table
