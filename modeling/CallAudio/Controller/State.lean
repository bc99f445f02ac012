import CallAudio.Adapter
import CallAudio.Config
import CallAudio.Mailbox

/-!
The routing controller: one bounded mailbox, and one worker that takes entries out of it in order
and alone touches the arbiter and the state machine. After each item the worker publishes a
snapshot, which is all that callers see of it.
-/

namespace CallAudio

open Log (Logged Field)

/-- Something for the worker to process. -/
inductive Item
  | message (m : RoutedMessage)
  | task (work : Work) (session : Session)

namespace Item

/-- The item that a submission made in `session` turns into. -/
def ofSubmission (session : Session) : Submission → Item
  | .message m => message { message := m, session }
  | .withArg m arg => message { message := m, arg := some arg, session }
  | .withPayload m arg payload =>
    message { message := m, arg := some arg, payload := some payload, session }
  | .task work => task work session

/-- The name under which a rejection of the item is reported. -/
def name : Item → String
  | message m => m.message.name
  | task _ _ => "task"

/-- The description kept in the history. -/
def description : Item → String
  | message m => m.display
  | task _ _ => "task"

/-- The session in which the item was submitted. -/
def session : Item → Session
  | message m => m.session
  | task _ s => s

end Item

/-- An entry of the mailbox. -/
inductive Command
  | item (i : Item)
  /-- Tells the sender with this ticket that everything before it has been processed. -/
  | flush (ticket : Ticket)
  /-- The worker ends when it takes this entry. -/
  | stop

/-- The item of a command that carries one. -/
def Command.item? : Command → Option Item
  | item i => some i
  | flush _ | stop => none

/-- The diagnostic text that a state machine gives of itself. -/
structure Diagnosis where
  /-- The text; where there is none, the recorded messages are counted. -/
  text : Option String := none
  /-- From this many recorded messages on, asking for the text panics. -/
  failsFrom : Option Nat := none
  deriving DecidableEq, Repr

/-- The routing state machine: it records every message and then follows the script that its policy
has for it. -/
structure Machine where
  policy : RouteMessage → List Action := fun _ => []
  hfpAvailable : Bool := false
  state : CallAudioState := {}
  recorded : List RoutedMessage := []
  /-- A machine without a diagnosis answers with the empty text, and never panics over it. -/
  diagnosis : Option Diagnosis := some {}

namespace Machine

/-- Takes note of a message. -/
def record (m : Machine) (message : RoutedMessage) : Machine :=
  { m with recorded := m.recorded ++ [message] }

/-- Whether asking for the diagnostic text panics. -/
def dumpFails (m : Machine) : Bool :=
  match m.diagnosis.bind Diagnosis.failsFrom with
  | none => false
  | some n => n ≤ m.recorded.length

/-- The diagnostic text, where asking for it does not panic. -/
def dumpText (m : Machine) : String :=
  match m.diagnosis with
  | none => ""
  | some d => d.text.getD ("recorded " ++ toString m.recorded.length ++ " messages")

/-- The answer to a request for the diagnostic text. -/
def dump (m : Machine) : Except Panic String :=
  if m.dumpFails then .error (.text "dump failed") else .ok m.dumpText

end Machine

/-- What the worker publishes. -/
structure RouteSnapshot where
  audioState : CallAudioState := {}
  hfpAvailable : Bool := false
  selection : Selection := {}
  processed : Nat := 0
  machineDump : String := ""
  deriving DecidableEq, Repr

/-- A processed item as the history keeps it. -/
structure HistoryEntry where
  description : String
  session : Session
  deriving DecidableEq, Repr

/-- Where the worker stands. -/
inductive Phase
  /-- It has not run yet. -/
  | fresh
  | running
  /-- It ended in order. -/
  | stopped
  /-- A panic that nothing guards against ended it. -/
  | crashed (cause : Panic)
  deriving DecidableEq, Repr

/-- Whether the worker is yet to end. -/
def Phase.alive : Phase → Bool
  | fresh | running => true
  | stopped | crashed _ => false

/-- The controller with its worker, and with the platform that the worker acts on. -/
structure Controller where
  config : RoutingConfig
  mailbox : Mailbox Command
  system : AudioSystem
  machine : Machine
  published : RouteSnapshot
  /-- Cleared for good when a shutdown begins. -/
  accepting : Bool := true
  /-- Whether anybody holds a handle; without one no submission can be made. -/
  held : Bool := true
  phase : Phase := .fresh
  processed : Nat := 0
  history : List HistoryEntry := []
  /-- How many snapshots were published since the first. -/
  version : Nat := 0
  /-- The flush tickets that the worker has come to. -/
  acknowledged : List Ticket := []
  nextTicket : Ticket := 0
  /-- Every item whose submission succeeded, in order. -/
  accepted : List Item := []
  /-- Every item that was processed, in order. -/
  executed : List Item := []
  /-- The replies to actions of scripts, in order. -/
  effects : List Reply := []

/-- Why no controller came into being. -/
inductive StartFailure
  | error (e : RouteError)
  /-- The sizes asked for cannot be laid out in memory. -/
  | panic

namespace Controller

/-- The largest capacity that a mailbox can count. -/
def maxCapacity : Nat := Nat.pow 2 61 - 1

/-- The longest history that fits the address space, at 88 bytes an entry. -/
def maxHistory : Nat := (Nat.pow 2 63 - 1) / 88

/-- A field that names the worker. -/
def workerField (c : Controller) : Field :=
  .text "worker" c.config.workerName

/-- Whether the controller takes submissions. -/
def isRunning (c : Controller) : Bool :=
  c.accepting && !c.mailbox.closed

/-- What the worker would publish now, or the panic that publishing ends in. -/
def current (c : Controller) : Except Panic RouteSnapshot :=
  c.machine.dump.map fun machineDump =>
    { audioState := c.machine.state
      hfpAvailable := c.machine.hfpAvailable
      selection := c.system.arbiter.selection
      processed := c.processed
      machineDump }

/-- The items that wait in the mailbox, oldest first. -/
def queued (c : Controller) : List Item :=
  c.mailbox.queue.filterMap Command.item?

/-- Brings up a controller whose worker has not run yet. The configuration is validated before
anything else. -/
def start (config : RoutingConfig) (system : AudioSystem) (machine : Machine) :
    Except StartFailure (Logged Controller) :=
  match config.validate with
  | .error e => .error (.error e)
  | .ok () =>
    if config.queueCapacity ≤ maxCapacity ∧ config.historySize ≤ maxHistory then
      let c : Controller :=
        { config, system, machine, mailbox := { capacity := config.queueCapacity }, published := {} }
      match c.current with
      | .error _ => .error .panic
      | .ok published => .ok do
        Logged.emit .info "Routing controller started"
          [c.workerField, .text "capacity" (toString config.queueCapacity)]
        return { c with published }
    else .error .panic

end Controller

end CallAudio
