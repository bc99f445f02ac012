import CallAudio.Device

/-! The audio state of a call: the route in use, the routes on offer, and whether it is muted. -/

namespace CallAudio

/-- A route as the call sees it. -/
inductive AudioRoute
  | earpiece
  | wiredHeadset
  | speaker
  | bluetooth
  | streaming
  deriving DecidableEq, Repr

namespace AudioRoute

/-- The name shown in diagnostics. -/
def inspect : AudioRoute → String
  | earpiece => "Earpiece"
  | wiredHeadset => "WiredHeadset"
  | speaker => "Speaker"
  | bluetooth => "Bluetooth"
  | streaming => "Streaming"

/-- The key under which the route is written in documents. -/
def key : AudioRoute → String
  | earpiece => "earpiece"
  | wiredHeadset => "wired_headset"
  | speaker => "speaker"
  | bluetooth => "bluetooth"
  | streaming => "streaming"

instance : Keyed AudioRoute where
  all := [earpiece, wiredHeadset, speaker, bluetooth, streaming]
  key := key

end AudioRoute

/-- The audio state that the routing engine reports. A call starts on the earpiece, with the
earpiece and the speaker on offer. -/
structure CallAudioState where
  route : AudioRoute := .earpiece
  supported : List AudioRoute := [.earpiece, .speaker]
  muted : Bool := false
  device : Option BluetoothAddress := none
  deriving DecidableEq, Repr

namespace CallAudioState

/-- The one-line form of diagnostics; the Bluetooth device is named only when there is one. -/
def display (s : CallAudioState) : String :=
  "route=" ++ s.route.inspect ++
    " supported=" ++ Text.Inspect.list (s.supported.map AudioRoute.inspect) ++
    " muted=" ++ Text.Inspect.bool s.muted ++
    (match s.device with
      | none => ""
      | some a => " bt=" ++ a.text)

/-- The state as an inspected value. -/
def inspect (s : CallAudioState) : String :=
  Text.Inspect.record "CallAudioState"
    [("route", s.route.inspect),
     ("supported_routes", Text.Inspect.list (s.supported.map AudioRoute.inspect)),
     ("is_muted", Text.Inspect.bool s.muted),
     ("active_bluetooth_device", Text.Inspect.option (s.device.map BluetoothAddress.inspect))]

end CallAudioState

end CallAudio
