import CallAudio.Adapter

/-!
Peripheral reports and what becomes of them. Bluetooth and dock reports become exactly one routing
message each. Jack reports may repeat the current state and become a message only where the state
flips. The ringtone player hears whether Bluetooth audio is up.
-/

namespace CallAudio

open Log (Logged Field Span)

/-- What the Bluetooth stack reports. -/
inductive BluetoothEvent
  | deviceListChanged
  | activeDevicePresent
  | activeDeviceGone
  | audioConnected
  | audioConnecting
  | audioDisconnected
  /-- A state was reached for which routing did not ask. -/
  | unexpectedStateChange
  deriving DecidableEq, Repr

namespace BluetoothEvent

/-- The key under which the event is written in scripts. -/
def key : BluetoothEvent → String
  | deviceListChanged => "device_list_changed"
  | activeDevicePresent => "active_device_present"
  | activeDeviceGone => "active_device_gone"
  | audioConnected => "audio_connected"
  | audioConnecting => "audio_connecting"
  | audioDisconnected => "audio_disconnected"
  | unexpectedStateChange => "unexpected_state_change"

instance : Keyed BluetoothEvent where
  all := [deviceListChanged, activeDevicePresent, activeDeviceGone, audioConnected,
    audioConnecting, audioDisconnected, unexpectedStateChange]
  key := key

/-- The routing message of the event. Routing treats a connection that is coming up as one that is
up. -/
def message : BluetoothEvent → RouteMessage
  | deviceListChanged => .bluetoothDeviceListChanged
  | activeDevicePresent => .btActiveDevicePresent
  | activeDeviceGone => .btActiveDeviceGone
  | audioConnected | audioConnecting => .btAudioConnected
  | audioDisconnected => .btAudioDisconnected
  | unexpectedStateChange => .updateSystemAudioRoute

/-- What the ringtone player is told, if anything: only a connection that is up counts. -/
def ringtone? : BluetoothEvent → Option Bool
  | audioConnected => some true
  | audioConnecting | audioDisconnected => some false
  | deviceListChanged | activeDevicePresent | activeDeviceGone | unexpectedStateChange => none

end BluetoothEvent

/-- A report of a peripheral. -/
inductive Report
  | bluetooth (event : BluetoothEvent)
  /-- The wired jack is plugged or not, whether or not that is news. -/
  | wired (plugged : Bool)
  | dock (docked : Bool)
  deriving DecidableEq, Repr

/-- The span in which a report is handled. -/
def Report.span : Report → Span
  | bluetooth event => ⟨⟨.debug, "on_" ++ event.key⟩, []⟩
  | wired plugged => ⟨⟨.debug, "on_wired_headset_changed"⟩, [.flag "plugged" plugged]⟩
  | dock docked => ⟨⟨.debug, "on_dock_changed"⟩, [.flag "docked" docked]⟩

/-- What is remembered of the reports: the jack, what the ringtone player was told, and how many
times the peripheral sources deliver each report. -/
structure Peripherals where
  plugged : Bool := false
  ringtone : List Bool := []
  listeners : Nat := 0
  deriving DecidableEq, Repr

namespace Peripherals

/-- The message that a report is turned into, if any. -/
def message? (p : Peripherals) : Report → Option RouteMessage
  | .bluetooth event => some event.message
  | .wired plugged =>
    if p.plugged == plugged then none
    else some (if plugged then .connectWiredHeadset else .disconnectWiredHeadset)
  | .dock docked => some (if docked then .connectDock else .disconnectDock)

/-- What is remembered after a report. -/
def after (p : Peripherals) : Report → Peripherals
  | .bluetooth event => { p with ringtone := p.ringtone ++ event.ringtone?.toList }
  | .wired plugged => { p with plugged }
  | .dock _ => p

/-- Registers with the peripheral sources once more. -/
def attach (p : Peripherals) : Logged Peripherals := do
  Logged.emit .debug "Peripheral event translator attached" []
  return { p with listeners := p.listeners + 1 }

variable {σ : Type} [Adapter σ]

/-- Submits a message; a rejection is recorded and otherwise ignored. -/
def forward (routing : σ) (span : Span) (m : RouteMessage) : Logged σ := do
  let (answer, routing) ← Adapter.submit routing [span.place] (.message m)
  match answer with
  | .ok () => return routing
  | .error e =>
    Logged.emit .warn ("Failed to forward peripheral event: " ++ e.message)
      [.text "message" m.name]
    return routing

/-- Handles one delivery of a report. -/
def handle (p : Peripherals) (routing : σ) (report : Report) : Logged (Peripherals × σ) :=
  Logged.within report.span do
    match p.message? report with
    | none =>
      Logged.emit .debug "Wired headset state unchanged" [.flag "plugged" p.plugged]
      return (p.after report, routing)
    | some m =>
      let routing ← forward routing report.span m
      return (p.after report, routing)

/-- Handles the same report several times. -/
def handleTimes (p : Peripherals) (routing : σ) (report : Report) : Nat → Logged (Peripherals × σ)
  | 0 => return (p, routing)
  | n + 1 => do
    let (p, routing) ← p.handle routing report
    p.handleTimes routing report n

/-- A source delivers a report, once to each registration. -/
def deliver (p : Peripherals) (routing : σ) (report : Report) : Logged (Peripherals × σ) :=
  p.handleTimes routing report p.listeners

end Peripherals

end CallAudio
