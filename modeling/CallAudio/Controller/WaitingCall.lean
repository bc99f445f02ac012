import CallAudio.Controller.Worker

/-!
Calls that wait for the worker. A flush waits until everything submitted before it has been
processed; a shutdown waits until the worker has ended. Both put an entry of their own into the
mailbox, for which they may have to wait; they go forward only when they are looked at, and may be
given up at any time.
-/

namespace CallAudio

open Log (Logged)

/-- What a waiting call waits for. -/
inductive WaitingCall.Kind
  | flush
  | shutdown
  deriving DecidableEq, Repr

/-- How far a waiting call has come. -/
inductive WaitingCall.Stage
  /-- It was not looked at yet. -/
  | fresh
  /-- It waits for a place in the mailbox, or holds one it has not used. -/
  | waiting
  /-- Its entry was put into the mailbox. -/
  | entered
  deriving DecidableEq, Repr

/-- A flush or a shutdown in progress. -/
structure WaitingCall where
  kind : WaitingCall.Kind
  ticket : Ticket
  stage : WaitingCall.Stage := .fresh
  deriving DecidableEq, Repr

namespace WaitingCall

/-- The entry that the call puts into the mailbox. -/
def command (w : WaitingCall) : Command :=
  match w.kind with
  | .flush => .flush w.ticket
  | .shutdown => .stop

/-- What is seen of a waiting call when it is looked at. -/
inductive Outcome
  | pending (w : WaitingCall)
  | done (answer : Except RouteError Unit)

end WaitingCall

/-- Whether the command is the flush with this ticket. -/
def Command.isFlush (ticket : Ticket) : Command → Bool
  | flush t => t == ticket
  | item _ | stop => false

namespace Controller

/-- Opens a call, which does nothing before it is looked at. -/
def openCall (c : Controller) (kind : WaitingCall.Kind) : WaitingCall × Controller :=
  ({ kind, ticket := c.nextTicket }, { c with nextTicket := c.nextTicket + 1 })

/-- How the worker ended, as a reason. -/
def abnormalEnd : Panic → String
  | .text s => "task <n> panicked with message " ++ Text.quote s
  | .other => "task <n> panicked"

/-- Looks at a call whose entry is in the mailbox or was. A flush is over once the worker has come to
its entry, and fails if the entry was dropped; a shutdown is over once the worker has ended. -/
def settle (c : Controller) (w : WaitingCall) : Logged WaitingCall.Outcome :=
  match w.kind with
  | .flush =>
    if w.ticket ∈ c.acknowledged then return .done (.ok ())
    else if c.mailbox.queue.any (Command.isFlush w.ticket) then return .pending w
    else return .done (.error .workerStopped)
  | .shutdown =>
    match c.phase with
    | .fresh | .running => return .pending w
    | .stopped => return .done (.ok ())
    | .crashed cause => do
      Logged.emit .warn ("Routing worker ended abnormally: " ++ abnormalEnd cause) [c.workerField]
      return .done (.ok ())

/-- Tries to put the entry of a call into the mailbox. -/
def tryEnter (c : Controller) (w : WaitingCall) : Logged (WaitingCall.Outcome × Controller) :=
  match c.mailbox.enter w.ticket w.command with
  | (.entered, mailbox) => do
    let c := { c with mailbox }
    let outcome ← c.settle { w with stage := .entered }
    return (outcome, c)
  | (.waiting, mailbox) => return (.pending { w with stage := .waiting }, { c with mailbox })
  | (.refused, mailbox) => return (.done (.error .workerStopped), { c with mailbox })

/-- Looks at a call, without running the worker. The first look at a call fails if a shutdown has
begun already; the first look at a shutdown ends the taking of submissions, for good. -/
def poll (c : Controller) (w : WaitingCall) : Logged (WaitingCall.Outcome × Controller) :=
  match w.stage with
  | .fresh =>
    if c.accepting then
      match w.kind with
      | .flush => c.tryEnter w
      | .shutdown => { c with accepting := false }.tryEnter w
    else return (.done (.error .workerStopped), c)
  | .waiting => c.tryEnter w
  | .entered => do
    let outcome ← c.settle w
    return (outcome, c)

/-- Gives up a call. An entry that is in the mailbox stays there. -/
def cancel (c : Controller) (w : WaitingCall) : Controller :=
  match w.stage with
  | .waiting => { c with mailbox := c.mailbox.withdraw w.ticket }
  | .fresh | .entered => c

/-- Looks at a call time and again, running the worker in between, until the call is over; no answer
if `fuel` looks do not suffice. -/
def complete (workerFuel : Nat) :
    Nat → Controller → WaitingCall → Logged (Option (Except RouteError Unit) × Controller)
  | 0, c, _ => return (none, c)
  | fuel + 1, c, w => do
    let (outcome, c) ← c.poll w
    match outcome with
    | .done answer => return (some answer, c)
    | .pending w =>
      let c ← c.drive workerFuel
      complete workerFuel fuel c w

end Controller

end CallAudio
