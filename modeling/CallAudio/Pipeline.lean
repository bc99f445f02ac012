import CallAudio.Arbiter.Run
import CallAudio.Controller.Dump
import CallAudio.Controller.WaitingCall
import CallAudio.Peripheral
import CallAudio.Registry

/-!
The whole of call audio routing: peripherals and the call registry submit to a controller, whose
worker acts on the platform. A run is a list of steps; the worker runs only in the steps that say so,
and there until it is idle.
-/

namespace CallAudio

open Log (Logged Record Watch)

/-- The parts of a routing pipeline, and what its users hold on to. -/
structure Pipeline where
  controller : Controller
  /-- The call registry, where there is one; it is what listens to the peripherals. -/
  registry : Option Registry := none
  peripherals : Peripherals := {}
  /-- The waiting calls that were begun; those that are over or were given up leave a gap. -/
  slots : List (Option WaitingCall) := []
  /-- For each subscriber the version of the snapshot it has seen. -/
  subscribers : List Nat := []

namespace Pipeline

/-- What a pipeline is brought up with. -/
structure Setup where
  config : RoutingConfig := {}
  devices : List DeviceDescriptor := []
  kinds : List (BluetoothAddress × BluetoothKind) := []
  machine : Machine := {}
  withCalls : Bool := true

/-- A step of a run. -/
inductive Step
  | send (s : Submission)
  | sendMany (n : Nat) (s : Submission)
  | add (id : CallId)
  | remove (id : CallId)
  | route (route : AudioRoute) (address : Option BluetoothAddress)
  | mute (on : Bool)
  | report (r : Report)
  | setDevices (devices : List DeviceDescriptor)
  | decline (on : Bool)
  /-- A flush or a shutdown, seen through to its end. -/
  | await (kind : WaitingCall.Kind)
  | drive
  /-- Opens a call and looks at it once. -/
  | begin (kind : WaitingCall.Kind)
  | poll (slot : Nat)
  /-- Sees a call through to its end. -/
  | finish (slot : Nat)
  | cancel (slot : Nat)
  | snapshot
  | state
  | dump
  | subscribe
  /-- Whether a snapshot was published that the subscriber has not seen. -/
  | changed (subscriber : Nat)
  /-- The subscriber sees the latest snapshot. -/
  | seen (subscriber : Nat)
  /-- Gives up all calls and all handles. -/
  | drop

/-- What a step answers. -/
inductive Answer
  | nothing
  | outcome (r : Except RouteError Unit)
  | sent (accepted : Nat) (firstError : Option RouteError)
  /-- A call in the numbered slot, and its answer if it is over. -/
  | begun (slot : Nat) (r : Option (Except RouteError Unit))
  /-- The answer of a call if it is over. -/
  | polled (r : Option (Except RouteError Unit))
  | snapshot (s : RouteSnapshot)
  | state (audioState : CallAudioState) (hfpAvailable : Bool) (config : RoutingConfig)
  /-- The diagnostic text, which names origins as far as they are watched. -/
  | dump (text : Watch → String)
  | index (n : Nat)
  | flag (b : Bool)
  /-- There will be no further snapshots. -/
  | closed

/-- Brings up a pipeline. -/
def start (setup : Setup) : Except StartFailure (Logged Pipeline) :=
  (Controller.start setup.config (.start setup.devices setup.kinds) setup.machine).map
    fun started => do
      let controller ← started
      if setup.withCalls then
        let peripherals ← Peripherals.attach {}
        return { controller, peripherals, registry := some {} }
      else return { controller }

/-- Sends the same submission several times, counting those accepted. -/
def sendMany (c : Controller) (s : Submission) (accepted : Nat) (firstError : Option RouteError) :
    Nat → Logged (Answer × Controller)
  | 0 => return (.sent accepted firstError, c)
  | n + 1 => do
    let (answer, c) ← c.submit [] s
    match answer with
    | .ok () => sendMany c s (accepted + 1) firstError n
    | .error e => sendMany c s accepted (firstError.or (some e)) n

/-- Does something with the registry; without one there is nothing to do. -/
def withRegistry (p : Pipeline)
    (f : Registry → Controller → Logged (Except RouteError Unit × Registry × Controller)) :
    Logged (Answer × Pipeline) :=
  match p.registry with
  | none => return (.nothing, p)
  | some registry => do
    let (answer, registry, controller) ← f registry p.controller
    return (.outcome answer, { p with registry := some registry, controller })

/-- The answer of a call that was looked at, and what is left in its slot. -/
def ofOutcome : WaitingCall.Outcome → Option (Except RouteError Unit) × Option WaitingCall
  | .pending w => (none, some w)
  | .done r => (some r, none)

/-- The call in a slot, unless it is over or was given up. -/
def call? (p : Pipeline) (slot : Nat) : Option WaitingCall :=
  (p.slots[slot]?).join

/-- Sees a call through to its end, and then runs the worker until it is idle. -/
def complete (fuel : Nat) (c : Controller) (w : WaitingCall) : Logged (Answer × Controller) := do
  let (answer, c) ← c.complete fuel fuel w
  let c ← c.drive fuel
  return (answer.elim .nothing .outcome, c)

/-- Gives up every waiting call. -/
def cancelAll (c : Controller) (slots : List (Option WaitingCall)) : Controller :=
  slots.reduceOption.foldl Controller.cancel c

/-- Takes one step, while there are handles; `fuel` bounds the steps of the worker and the looks at a
call. -/
def heldStep (fuel : Nat) (p : Pipeline) : Step → Logged (Answer × Pipeline)
  | .send s => do
    let (answer, controller) ← p.controller.submit [] s
    return (.outcome answer, { p with controller })
  | .sendMany n s => do
    let (answer, controller) ← sendMany p.controller s 0 none n
    return (answer, { p with controller })
  | .add id => p.withRegistry fun r c => r.add c id
  | .remove id => p.withRegistry fun r c => r.remove c id
  | .route route address => p.withRegistry fun r c => do
    let (answer, c) ← Registry.requestRoute c route address
    return (answer, r, c)
  | .mute on => p.withRegistry fun r c => do
    let (answer, c) ← Registry.setMuted c on
    return (answer, r, c)
  | .report r => do
    let (peripherals, controller) ← p.peripherals.deliver p.controller r
    return (.nothing, { p with peripherals, controller })
  | .await kind => do
    let (w, controller) := p.controller.openCall kind
    let (answer, controller) ← complete fuel controller w
    return (answer, { p with controller })
  | .begin kind => do
    let (w, controller) := p.controller.openCall kind
    let (outcome, controller) ← controller.poll w
    let (answer, slot) := ofOutcome outcome
    return (.begun p.slots.length answer, { p with controller, slots := p.slots ++ [slot] })
  | .poll slot =>
    match p.call? slot with
    | none => return (.nothing, p)
    | some w => do
      let (outcome, controller) ← p.controller.poll w
      let (answer, left) := ofOutcome outcome
      return (.polled answer, { p with controller, slots := p.slots.set slot left })
  | .finish slot =>
    match p.call? slot with
    | none => return (.nothing, p)
    | some w => do
      let (answer, controller) ← complete fuel p.controller w
      return (answer, { p with controller, slots := p.slots.set slot none })
  | .cancel slot =>
    match p.call? slot with
    | none => return (.nothing, p)
    | some w =>
      return (.nothing,
        { p with controller := p.controller.cancel w, slots := p.slots.set slot none })
  | .snapshot => return (.snapshot p.controller.published, p)
  | .state =>
    return (.state p.controller.published.audioState p.controller.published.hfpAvailable
      p.controller.config, p)
  | .dump => return (.dump p.controller.dump, p)
  | .subscribe =>
    return (.index p.subscribers.length, { p with subscribers := p.subscribers ++ [0] })
  | .drop => do
    let controller ← Controller.drive fuel
      { cancelAll p.controller p.slots with held := false }
    return (.nothing, { p with controller, slots := p.slots.map fun _ => none })
  | .setDevices _ | .decline _ | .drive | .changed _ | .seen _ => return (.nothing, p)

/-- Takes one step. Changes of the platform, runs of the worker and subscribers need no handle. -/
def step (fuel : Nat) (p : Pipeline) : Step → Logged (Answer × Pipeline)
  | .setDevices devices =>
    return (.nothing, { p with
      controller := { p.controller with system := p.controller.system.setDevices devices } })
  | .decline on =>
    return (.nothing, { p with
      controller := { p.controller with system := p.controller.system.decline on } })
  | .drive => do
    let controller ← p.controller.drive fuel
    return (.nothing, { p with controller })
  | .changed subscriber =>
    match p.subscribers[subscriber]? with
    | none => return (.nothing, p)
    | some seen =>
      if p.controller.phase.alive then return (.flag (seen != p.controller.version), p)
      else return (.closed, p)
  | .seen subscriber =>
    match p.subscribers[subscriber]? with
    | none => return (.nothing, p)
    | some _ => return (.snapshot p.controller.published,
        { p with subscribers := p.subscribers.set subscriber p.controller.version })
  | s => if p.controller.held then heldStep fuel p s else return (.nothing, p)

/-- What can be seen after a step. Without a handle the mailbox cannot be looked into, and without a
registry there is no count of calls. -/
structure Observation where
  answer : Answer
  pending : Option Nat
  running : Option Bool
  processed : List RoutedMessage
  effects : List Reply
  calls : List CatalogCall
  notices : List BluetoothNotice
  ringtone : List Bool
  callCount : Option Nat
  records : List Record

/-- One step, observed. -/
def observe (fuel : Nat) (p : Pipeline) (step : Step) : Observation × Pipeline :=
  let result := p.step fuel step
  let p' := result.value.2
  let c := p.controller
  let c' := p'.controller
  ({ answer := result.value.1
     pending := if c'.held then some c'.mailbox.pending else none
     running := if c'.held then some c'.isRunning else none
     processed := since c.machine.recorded c'.machine.recorded
     effects := since c.effects c'.effects
     calls := since c.system.catalog.calls c'.system.catalog.calls
     notices := since c.system.bluetooth.notices c'.system.bluetooth.notices
     ringtone := since p.peripherals.ringtone p'.peripherals.ringtone
     callCount := p'.registry.map Registry.count
     records := result.records }, p')

/-- The state after a run of steps. -/
def run (fuel : Nat) (p : Pipeline) : List Step → Pipeline
  | [] => p
  | step :: rest => run fuel (p.observe fuel step).2 rest

/-- What can be seen along a run of steps, and the state after it. -/
def observations (fuel : Nat) (p : Pipeline) : List Step → List Observation × Pipeline
  | [] => ([], p)
  | step :: rest =>
    let first := p.observe fuel step
    let more := first.2.observations fuel rest
    (first.1 :: more.1, more.2)

end Pipeline

end CallAudio
