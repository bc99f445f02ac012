import CallAudio.Arbiter
import CallAudio.AudioState
import CallAudio.Config
import CallAudio.Controller.State
import CallAudio.Json.Shape
import CallAudio.Json.Value
import CallAudio.Message

/-! How the values of the domain are written in documents, and read from them. -/

namespace CallAudio

open Json (Reader Shape Value)

/-- A value that may be absent is written as `null`. -/
def Json.Value.ofOption {α : Type} (f : α → Value) : Option α → Value
  | none => .null
  | some a => f a

/-- A member of a closed set is written by its key. -/
def Json.Value.ofKeyed {α : Type} [Keyed α] (a : α) : Value :=
  .string (Keyed.key a)

namespace BluetoothAddress

/-- An address is written as its text. -/
def toDocument (a : BluetoothAddress) : Value :=
  .string a.text

/-- Reads an address. -/
def reader : Reader BluetoothAddress := fun cs =>
  (Json.readText cs).map fun (s, rest) => (⟨s⟩, rest)

end BluetoothAddress

namespace DeviceDescriptor

/-- A descriptor as a document. -/
def toDocument (d : DeviceDescriptor) : Value :=
  .object
    [("device_type", .ofKeyed d.type), ("address", .ofOption BluetoothAddress.toDocument d.address)]

/-- How a descriptor is read. -/
def shape : Shape DeviceDescriptor where
  name := "DeviceDescriptor"
  base := { type := .earpiece }
  mayBeShort := false
  fields :=
    [{ key := "device_type", required := true,
       read := fun d cs => (Json.readKeyed cs).map fun (type, rest) => ({ d with type }, rest) },
     { key := "address", required := false,
       read := fun d cs => (Json.readOption BluetoothAddress.reader cs).map
         fun (address, rest) => ({ d with address }, rest) }]

end DeviceDescriptor

namespace Selection

/-- A selection as a document. -/
def toDocument (s : Selection) : Value :=
  .object
    [("device_type", .ofOption .ofKeyed s.type),
     ("bluetooth_address", .ofOption BluetoothAddress.toDocument s.address)]

/-- How a selection is read. -/
def shape : Shape Selection where
  name := "ArbiterSnapshot"
  base := {}
  mayBeShort := false
  fields :=
    [{ key := "device_type", required := false,
       read := fun s cs => (Json.readOption Json.readKeyed cs).map
         fun (type, rest) => ({ s with type }, rest) },
     { key := "bluetooth_address", required := false,
       read := fun s cs => (Json.readOption BluetoothAddress.reader cs).map
         fun (address, rest) => ({ s with address }, rest) }]

end Selection

namespace CallAudioState

/-- An audio state as a document. -/
def toDocument (s : CallAudioState) : Value :=
  .object
    [("route", .ofKeyed s.route),
     ("supported_routes", .list (s.supported.map .ofKeyed)),
     ("is_muted", .bool s.muted),
     ("active_bluetooth_device", .ofOption BluetoothAddress.toDocument s.device)]

/-- How an audio state is read. -/
def shape : Shape CallAudioState where
  name := "CallAudioState"
  base := {}
  mayBeShort := false
  fields :=
    [{ key := "route", required := true,
       read := fun s cs => (Json.readKeyed cs).map fun (route, rest) => ({ s with route }, rest) },
     { key := "supported_routes", required := true,
       read := fun s cs => (Json.readList Json.readKeyed cs).map
         fun (supported, rest) => ({ s with supported }, rest) },
     { key := "is_muted", required := true,
       read := fun s cs => (Json.readBool cs).map fun (muted, rest) => ({ s with muted }, rest) },
     { key := "active_bluetooth_device", required := false,
       read := fun s cs => (Json.readOption BluetoothAddress.reader cs).map
         fun (device, rest) => ({ s with device }, rest) }]

end CallAudioState

/-- A snapshot as a document. -/
def RouteSnapshot.toDocument (s : RouteSnapshot) : Value :=
  .object
    [("audio_state", s.audioState.toDocument),
     ("hfp_device_available", .bool s.hfpAvailable),
     ("communication_device", s.selection.toDocument),
     ("processed", .nat s.processed),
     ("machine_dump", .string s.machineDump)]

namespace RoutingConfig

/-- A configuration as a document. -/
def toDocument (c : RoutingConfig) : Value :=
  .object
    [("queue_capacity", .nat c.queueCapacity), ("worker_name", .string c.workerName),
     ("history_size", .nat c.historySize)]

/-- How a configuration is read: a field that is absent keeps its default. -/
def shape : Shape RoutingConfig where
  name := "RoutingConfig"
  base := {}
  mayBeShort := true
  fields :=
    [{ key := "queue_capacity", required := false,
       read := fun c cs => (Json.readNat cs).map
         fun (queueCapacity, rest) => ({ c with queueCapacity }, rest) },
     { key := "worker_name", required := false,
       read := fun c cs => (Json.readText cs).map
         fun (workerName, rest) => ({ c with workerName }, rest) },
     { key := "history_size", required := false,
       read := fun c cs => (Json.readNat cs).map
         fun (historySize, rest) => ({ c with historySize }, rest) }]

/-- The usable configuration that a text holds. -/
def ofText (text : String) : Except RouteError RoutingConfig :=
  match Json.read shape.reader text with
  | .error e => .error (.config ("Parse error: " ++ e.message))
  | .ok c => c.validated

end RoutingConfig

end CallAudio
