import CallAudio.Keyed
import CallAudio.Text.Inspect

/-!
Communication devices: their types, the addresses of Bluetooth devices, and the descriptors under
which the platform lists what is available.
-/

namespace CallAudio

open Text (quote)

/-- A kind of device to which the voice of a call can be routed. -/
inductive DeviceType
  | earpiece
  | speaker
  | wiredHeadset
  | usbHeadset
  | bluetoothSco
  | bluetoothHearingAid
  | bluetoothLeHeadset
  deriving DecidableEq, Repr

namespace DeviceType

/-- Every device type, built-in devices first, Bluetooth devices last. -/
def all : List DeviceType :=
  [earpiece, speaker, wiredHeadset, usbHeadset, bluetoothSco, bluetoothHearingAid,
    bluetoothLeHeadset]

/-- The three types that are reached over Bluetooth. -/
def isBluetooth : DeviceType → Bool
  | bluetoothSco | bluetoothHearingAid | bluetoothLeHeadset => true
  | earpiece | speaker | wiredHeadset | usbHeadset => false

/-- A request is satisfied by a device of its own type, and a request for a wired headset also by a
USB headset. The converse does not hold. -/
def isSatisfiedBy (request candidate : DeviceType) : Bool :=
  request == candidate || (request == wiredHeadset && candidate == usbHeadset)

/-- The name used in records and diagnostics. -/
def name : DeviceType → String
  | earpiece => "EARPIECE"
  | speaker => "SPEAKER"
  | wiredHeadset => "WIRED_HEADSET"
  | usbHeadset => "USB_HEADSET"
  | bluetoothSco => "BLUETOOTH_SCO"
  | bluetoothHearingAid => "BLUETOOTH_HEARING_AID"
  | bluetoothLeHeadset => "BLUETOOTH_LE_HEADSET"

/-- The name shown when the value itself is inspected. -/
def inspect : DeviceType → String
  | earpiece => "Earpiece"
  | speaker => "Speaker"
  | wiredHeadset => "WiredHeadset"
  | usbHeadset => "UsbHeadset"
  | bluetoothSco => "BluetoothSco"
  | bluetoothHearingAid => "BluetoothHearingAid"
  | bluetoothLeHeadset => "BluetoothLeHeadset"

/-- The key under which the type is written in documents. -/
def key : DeviceType → String
  | earpiece => "earpiece"
  | speaker => "speaker"
  | wiredHeadset => "wired_headset"
  | usbHeadset => "usb_headset"
  | bluetoothSco => "bluetooth_sco"
  | bluetoothHearingAid => "bluetooth_hearing_aid"
  | bluetoothLeHeadset => "bluetooth_le_headset"

instance : Keyed DeviceType where
  all := all
  key := key

theorem mem_all (t : DeviceType) : t ∈ all := by
  cases t <;> decide

theorem isSatisfiedBy_self (t : DeviceType) : t.isSatisfiedBy t = true := by
  cases t <;> decide

/-- Bluetooth requests are satisfied by Bluetooth devices only, and other requests by others. -/
theorem isBluetooth_eq_of_isSatisfiedBy {t u : DeviceType} (h : t.isSatisfiedBy u = true) :
    t.isBluetooth = u.isBluetooth := by
  revert h
  cases t <;> cases u <;> decide

end DeviceType

/-- The hardware address of a Bluetooth device, as the Bluetooth stack reports it. Any text is
accepted. -/
structure BluetoothAddress where
  text : String
  deriving DecidableEq, Repr

/-- The address as an inspected value. -/
def BluetoothAddress.inspect (a : BluetoothAddress) : String :=
  Text.Inspect.wrap "BluetoothAddress" [quote a.text]

/-- The profile under which the Bluetooth stack exposes a device. -/
inductive BluetoothKind
  | hearingAid
  | leAudio
  | other
  deriving DecidableEq, Repr

namespace BluetoothKind

/-- The type of communication device as which a device of this kind is listed. -/
def deviceType : BluetoothKind → DeviceType
  | hearingAid => .bluetoothHearingAid
  | leAudio => .bluetoothLeHeadset
  | other => .bluetoothSco

/-- The name shown when the value itself is inspected. -/
def inspect : BluetoothKind → String
  | hearingAid => "HearingAid"
  | leAudio => "LeAudio"
  | other => "Other"

/-- The key under which the kind is written in documents. -/
def key : BluetoothKind → String
  | hearingAid => "hearing_aid"
  | leAudio => "le_audio"
  | other => "other"

instance : Keyed BluetoothKind where
  all := [hearingAid, leAudio, other]
  key := key

theorem isBluetooth_deviceType (k : BluetoothKind) : k.deviceType.isBluetooth = true := by
  cases k <;> rfl

end BluetoothKind

/-- A communication device as the platform lists it. -/
structure DeviceDescriptor where
  type : DeviceType
  address : Option BluetoothAddress := none
  deriving DecidableEq, Repr

namespace DeviceDescriptor

/-- A device type, followed by the address in square brackets when there is one. -/
def displayTyped (type : DeviceType) : Option BluetoothAddress → String
  | none => type.name
  | some a => type.name ++ "[" ++ a.text ++ "]"

/-- The name of the type, followed by the address in square brackets when there is one. -/
def display (d : DeviceDescriptor) : String :=
  displayTyped d.type d.address

/-- The descriptor as an inspected value. -/
def inspect (d : DeviceDescriptor) : String :=
  Text.Inspect.record "DeviceDescriptor"
    [("device_type", d.type.inspect),
     ("address", Text.Inspect.option (d.address.map BluetoothAddress.inspect))]

end DeviceDescriptor

end CallAudio
