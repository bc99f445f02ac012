import CallAudio.Keyed
import CallAudio.Log.Record

/-!
Routing messages, and the session in which a message was submitted. Identifiers of sessions and the
times at which they were opened are random or read from a clock, so texts show placeholders.
-/

namespace CallAudio

open Log (Scope Watch)

/-- Values of the call audio focus, carried by `RouteMessage.switchFocus`. -/
def Focus.none : Int := 1

@[inherit_doc Focus.none] def Focus.active : Int := 2

@[inherit_doc Focus.none] def Focus.ringing : Int := 3

/-- What the routing state machine can be told. -/
inductive RouteMessage
  | connectWiredHeadset
  | disconnectWiredHeadset
  | connectDock
  | disconnectDock
  | bluetoothDeviceListChanged
  | btActiveDevicePresent
  | btActiveDeviceGone
  | btAudioConnected
  | btAudioDisconnected
  | updateSystemAudioRoute
  | userSwitchEarpiece
  | userSwitchBluetooth
  | userSwitchHeadset
  | userSwitchSpeaker
  | userSwitchBaseline
  | speakerOn
  | speakerOff
  | muteOn
  | muteOff
  | switchFocus
  deriving DecidableEq, Repr

namespace RouteMessage

/-- Every message: peripheral changes, then user intents, then mute and focus. -/
def all : List RouteMessage :=
  [connectWiredHeadset, disconnectWiredHeadset, connectDock, disconnectDock,
    bluetoothDeviceListChanged, btActiveDevicePresent, btActiveDeviceGone, btAudioConnected,
    btAudioDisconnected, updateSystemAudioRoute, userSwitchEarpiece, userSwitchBluetooth,
    userSwitchHeadset, userSwitchSpeaker, userSwitchBaseline, speakerOn, speakerOff, muteOn,
    muteOff, switchFocus]

/-- The code of the message, which never changes. -/
def code : RouteMessage → Nat
  | connectWiredHeadset => 1
  | disconnectWiredHeadset => 2
  | connectDock => 5
  | disconnectDock => 6
  | bluetoothDeviceListChanged => 7
  | btActiveDevicePresent => 8
  | btActiveDeviceGone => 9
  | btAudioConnected => 1302
  | btAudioDisconnected => 1301
  | updateSystemAudioRoute => 1201
  | userSwitchEarpiece => 1101
  | userSwitchBluetooth => 1102
  | userSwitchHeadset => 1103
  | userSwitchSpeaker => 1104
  | userSwitchBaseline => 1105
  | speakerOn => 1006
  | speakerOff => 1007
  | muteOn => 3001
  | muteOff => 3002
  | switchFocus => 4001

/-- The key under which the message is written in documents. -/
def key : RouteMessage → String
  | connectWiredHeadset => "CONNECT_WIRED_HEADSET"
  | disconnectWiredHeadset => "DISCONNECT_WIRED_HEADSET"
  | connectDock => "CONNECT_DOCK"
  | disconnectDock => "DISCONNECT_DOCK"
  | bluetoothDeviceListChanged => "BLUETOOTH_DEVICE_LIST_CHANGED"
  | btActiveDevicePresent => "BT_ACTIVE_DEVICE_PRESENT"
  | btActiveDeviceGone => "BT_ACTIVE_DEVICE_GONE"
  | btAudioConnected => "BT_AUDIO_CONNECTED"
  | btAudioDisconnected => "BT_AUDIO_DISCONNECTED"
  | updateSystemAudioRoute => "UPDATE_SYSTEM_AUDIO_ROUTE"
  | userSwitchEarpiece => "USER_SWITCH_EARPIECE"
  | userSwitchBluetooth => "USER_SWITCH_BLUETOOTH"
  | userSwitchHeadset => "USER_SWITCH_HEADSET"
  | userSwitchSpeaker => "USER_SWITCH_SPEAKER"
  | userSwitchBaseline => "USER_SWITCH_BASELINE"
  | speakerOn => "SPEAKER_ON"
  | speakerOff => "SPEAKER_OFF"
  | muteOn => "MUTE_ON"
  | muteOff => "MUTE_OFF"
  | switchFocus => "SWITCH_FOCUS"

/-- The name used in records and diagnostics: the key, but for the baseline switch. -/
def name (m : RouteMessage) : String :=
  match m with
  | userSwitchBaseline => "USER_SWITCH_BASELINE_ROUTE"
  | m => m.key

/-- The name shown when the value itself is inspected. -/
def inspect : RouteMessage → String
  | connectWiredHeadset => "ConnectWiredHeadset"
  | disconnectWiredHeadset => "DisconnectWiredHeadset"
  | connectDock => "ConnectDock"
  | disconnectDock => "DisconnectDock"
  | bluetoothDeviceListChanged => "BluetoothDeviceListChanged"
  | btActiveDevicePresent => "BtActiveDevicePresent"
  | btActiveDeviceGone => "BtActiveDeviceGone"
  | btAudioConnected => "BtAudioConnected"
  | btAudioDisconnected => "BtAudioDisconnected"
  | updateSystemAudioRoute => "UpdateSystemAudioRoute"
  | userSwitchEarpiece => "UserSwitchEarpiece"
  | userSwitchBluetooth => "UserSwitchBluetooth"
  | userSwitchHeadset => "UserSwitchHeadset"
  | userSwitchSpeaker => "UserSwitchSpeaker"
  | userSwitchBaseline => "UserSwitchBaseline"
  | speakerOn => "SpeakerOn"
  | speakerOff => "SpeakerOff"
  | muteOn => "MuteOn"
  | muteOff => "MuteOff"
  | switchFocus => "SwitchFocus"

instance : Keyed RouteMessage where
  all := all
  key := key

theorem mem_all (m : RouteMessage) : m ∈ all := by
  cases m <;> decide

end RouteMessage

/-- Where a submission was made: the places that were open at the time. -/
structure Session where
  scope : Scope := []
  deriving DecidableEq, Repr

namespace Session

/-- The name of the innermost watched place in which the submission was made. -/
def origin (s : Session) (watch : Watch) : String :=
  s.scope.origin watch

/-- The origin and the identifier. -/
def display (s : Session) (watch : Watch) : String :=
  s.origin watch ++ "@" ++ Log.sessionId

end Session

/-- A message on its way to the state machine. -/
structure RoutedMessage where
  message : RouteMessage
  arg : Option Int := none
  payload : Option String := none
  session : Session := {}
  deriving DecidableEq, Repr

/-- The name of the message, then its argument and its payload as far as it has them. -/
def RoutedMessage.display (m : RoutedMessage) : String :=
  m.message.name ++
    (match m.arg with
      | none => ""
      | some n => " arg=" ++ toString n) ++
    (match m.payload with
      | none => ""
      | some p => " payload=" ++ p)

end CallAudio
