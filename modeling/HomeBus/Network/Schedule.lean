import HomeBus.Network.Step

/-!
# Running a network

Jobs are run first come first served until every task waits; only then does the clock move, to the
time at which the next task is due and no further than asked for. Tasks could keep each other busy
for ever, so the number of jobs between two movements of the clock is bounded, as is the number of
movements.
-/

namespace HomeBus

/-- When a task is due next, if it waits for a time at all. -/
def Task.due? : Task → Option Nat
  | .operation { state := .waiting w, .. } => w.due
  | .request { state := .running r, .. } =>
    match r.stage with
    | .subscribing { due := some due, .. } | .publishing { due := some due, .. } =>
      some (min due r.deadline)
    | _ => some r.deadline
  | .resubscription { wait := some w, .. } => w.due
  | .responder { state := .resting due _, .. } => some due
  | .responder { state := .publishing _ _ w, .. } => w.due
  | _ => none

namespace Network

/-- How many jobs are run, and how often the clock is moved, at most. -/
def maxJobs : Nat := 1000000

/-- Hands over deliveries of a session. -/
def deliverAll (net : Network) (session : Nat) : (count : Nat) → Network
  | 0 => net
  | count + 1 => (net.deliver session).deliverAll session count

/-- Runs a job. -/
def runJob (net : Network) : Job → Network
  | .poll i => net.poll i false
  | .deliver session =>
    match net.hub.mailbox? session with
    | some mailbox => net.deliverAll session mailbox.queue.length
    | none => net

/-- Runs up to `count` jobs. -/
def runJobs (net : Network) : (count : Nat) → Network
  | 0 => net
  | count + 1 =>
    match net.ready with
    | [] => net
    | job :: rest => (({ net with ready := rest }).runJob job).runJobs count

/-- Runs jobs until every task waits. -/
def settle (net : Network) : Network := net.runJobs maxJobs

/-- The time at which the next task is due. -/
def nextDue? (net : Network) : Option Nat := (net.tasks.filterMap Task.due?).min?

/-- Moves the clock on to a time and wakes the tasks that are due then. -/
def moveTo (net : Network) (time : Nat) : Network :=
  ({ net with clock := max net.clock time }).wakeTasks fun task => task.due?.any (· ≤ time)

/-- Moves the clock up to a time, through all times at which tasks are due, up to `count` of them. -/
def advanceTo (net : Network) (time : Nat) : (count : Nat) → Network
  | 0 => net
  | count + 1 =>
    match net.nextDue? with
    | some due =>
      if due ≤ time then (net.moveTo due).settle.advanceTo time count
      else { net with clock := max net.clock time }
    | none => { net with clock := max net.clock time }

/-- Lets time pass. -/
def advance (net : Network) (milliseconds : Nat) : Network :=
  net.settle.advanceTo (net.clock + milliseconds) maxJobs

/-- The result of an operation that is over. -/
def operationResult? (net : Network) (i : Nat) : Option (Except Error Unit) :=
  match net.tasks[i]? with
  | some (.operation { state := .finished result, .. }) => some result
  | _ => none

/--
Runs an operation to its end. While it waits, jobs are run and the clock moves; what is due at the
same time as the operation comes after it. An operation that never ends has no result.
-/
def awaitOperation (net : Network) (i : Nat) : (count : Nat) → Network × Option (Except Error Unit)
  | 0 => (net, none)
  | count + 1 =>
    match net.operationResult? i with
    | some result => (net, some result)
    | none =>
      let net := net.settle
      match net.nextDue? with
      | none => (net, none)
      | some due =>
        (((({ net with clock := max net.clock due }).poll i false).moveTo due).awaitOperation i count)

/-- Has a party do something, and waits until it is done. -/
def perform (net : Network) (task : OperationTask) : Network × Option (Except Error Unit) :=
  let i := net.tasks.length
  (({ net with tasks := net.tasks ++ [Task.operation task] }).poll i false).awaitOperation i maxJobs

end Network

end HomeBus
