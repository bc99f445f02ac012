import CallAudio.Log.Record
import CallAudio.Platform

/-!
The communication device arbiter: the one owner of which device the platform was last asked to use.
Every set or clear of the platform device goes through it.

Two rules shape the matching. A request for a wired headset is satisfied by a USB headset. A request
that names a Bluetooth address other than the tracked one is always a switch, even where the type
stays the same, so that one headset can take over from another of its type.
-/

namespace CallAudio

open Log (Logged Field)

/-- The device that is believed to be active, if any; the address only of a Bluetooth device. -/
structure Selection where
  type : Option DeviceType := none
  address : Option BluetoothAddress := none
  deriving DecidableEq, Repr

namespace Selection

/-- `NONE`, or the device as a descriptor is displayed. -/
def display (s : Selection) : String :=
  match s.type with
  | none => "NONE"
  | some t => DeviceDescriptor.displayTyped t s.address

/-- The selection as an inspected value. -/
def inspect (s : Selection) : String :=
  Text.Inspect.record "ArbiterSnapshot"
    [("device_type", Text.Inspect.option (s.type.map DeviceType.inspect)),
     ("bluetooth_address", Text.Inspect.option (s.address.map BluetoothAddress.inspect))]

end Selection

/-- The arbiter's own state. -/
structure Arbiter where
  /-- Cleared for good when the device catalog is detached. -/
  attached : Bool := true
  selection : Selection := {}
  deriving DecidableEq, Repr

namespace Arbiter

/-- Whether a request for `type` is satisfied by the active device. -/
def isActive (a : Arbiter) (type : DeviceType) : Bool :=
  match a.selection.type with
  | none => false
  | some active => type.isSatisfiedBy active

/-- The device types a request for which is satisfied by the active device. -/
def activeTypes (a : Arbiter) : List DeviceType :=
  DeviceType.all.filter a.isActive

/-- Whether a request that names `address` names a device other than the tracked one. -/
def isSwitch (a : Arbiter) : Option BluetoothAddress → Bool
  | none => false
  | some address => a.selection.address != some address

/-- Whether `address` is the tracked address. -/
def tracks (a : Arbiter) (address : Option BluetoothAddress) : Bool :=
  match a.selection.address, address with
  | some tracked, some address => tracked == address
  | _, _ => false

/-- The devices that may be selected for a request: those that satisfy it, except the Bluetooth
device that is tracked now, which is being switched away from. -/
def isEligible (a : Arbiter) (request : DeviceType) (d : DeviceDescriptor) : Bool :=
  request.isSatisfiedBy d.type && !a.tracks d.address

/-- The arbiter as an inspected value. -/
def inspect (a : Arbiter) : String :=
  Text.Inspect.record "CommunicationDeviceArbiter"
    [("active_device_type", Text.Inspect.option (a.selection.type.map DeviceType.inspect)),
     ("active_bluetooth_address",
       Text.Inspect.option (a.selection.address.map BluetoothAddress.inspect)),
     ("catalog_attached", Text.Inspect.bool a.attached)]

end Arbiter

/-- The arbiter together with the platform it acts on. -/
structure AudioSystem where
  arbiter : Arbiter := {}
  catalog : Catalog := {}
  bluetooth : BluetoothStack := {}
  deriving DecidableEq, Repr

namespace AudioSystem

/-- A field that names a device type. -/
def deviceField (type : DeviceType) : Field :=
  .text "device" type.name

/-- Detaches the catalog. Requests fail from then on; a clear still resets the arbiter but does not
reach the platform. -/
def detach (s : AudioSystem) : Logged AudioSystem :=
  if s.arbiter.attached then do
    Logged.emit .info "Device catalog detached" []
    return { s with arbiter := { s.arbiter with attached := false } }
  else
    return s

/-- Reports the tracked address as lost and forgets it; does nothing where none is tracked. -/
def reportLost (s : AudioSystem) : AudioSystem :=
  match s.arbiter.selection.address with
  | none => s
  | some address =>
    { s with
      arbiter := { s.arbiter with selection := { s.arbiter.selection with address := none } }
      bluetooth := s.bluetooth.notify (.audioLost address) }

/-- Clears the platform device, unless the catalog is detached. -/
def clearPlatform (s : AudioSystem) (type : DeviceType) : Logged AudioSystem :=
  if s.arbiter.attached then
    return { s with catalog := s.catalog.clear }
  else do
    Logged.emit .info "Device catalog unavailable, resetting locally" [deviceField type]
    return s

/-- Clears the active device if it satisfies a request for `type`. Clearing any other type does
nothing: a newer request may have replaced the device meanwhile. -/
def clear (s : AudioSystem) (type : DeviceType) : Logged AudioSystem :=
  if s.arbiter.isActive type then do
    let s ← (if type.isBluetooth then s.reportLost else s).clearPlatform type
    Logged.emit .debug "Communication device cleared" [deviceField type]
    return { s with
      arbiter := { s.arbiter with selection := { s.arbiter.selection with type := none } } }
  else do
    Logged.emit .info "Not clearing communication device that is not active"
      [deviceField type, .text "active" s.arbiter.selection.display]
    return s

/-- Clears the active device, whatever its type. -/
def clearActive (s : AudioSystem) : Logged AudioSystem :=
  match s.arbiter.selection.type with
  | none => return s
  | some active => s.clear active

/-- Clears the active device if a Bluetooth address is tracked. -/
def clearBluetooth (s : AudioSystem) : Logged AudioSystem :=
  match s.arbiter.selection.address with
  | none => do
    Logged.emit .info "No Bluetooth communication device to clear" []
    return s
  | some _ => s.clearActive

/-- Takes `device` as the active one, which the platform has accepted. The address is tracked for
Bluetooth devices only, and audio is reported on for LE devices with an address. -/
def adopt (s : AudioSystem) (device : DeviceDescriptor) : AudioSystem :=
  let address := if device.type.isBluetooth then device.address else s.arbiter.selection.address
  let bluetooth := match device.type, device.address with
    | .bluetoothLeHeadset, some a => s.bluetooth.notify (.audioOn a)
    | _, _ => s.bluetooth
  { s with
    arbiter := { s.arbiter with selection := { type := some device.type, address } }
    bluetooth }

/-- Makes `device` active in place of whatever is: the old device is cleared first, also when the
platform then declines the new one. -/
def switchTo (s : AudioSystem) (device : DeviceDescriptor) : Logged (Bool × AudioSystem) := do
  let s ← s.clearActive
  let answer := s.catalog.set device
  let s := { s with catalog := answer.2 }
  if answer.1 then
    Logged.emit .info "Communication device set" [.text "device" device.display]
    return (true, s.adopt device)
  else
    Logged.emit .warn "Platform declined communication device" [.text "device" device.display]
    return (false, s)

/-- Leaves a record of every device that a search for the first eligible one looks at. -/
def recordSearch (eligible : DeviceDescriptor → Bool) : List DeviceDescriptor → Logged Unit
  | [] => return ()
  | d :: rest => do
    Logged.emit .debug "Available communication device" [.text "available" d.display]
    if eligible d then return () else recordSearch eligible rest

/-- Makes a device that satisfies `type` the active one; `address` names the Bluetooth device that
is wanted. The answer is `true` only if the platform device changed: a request that is satisfied
already, or cannot be met, answers `false`. -/
def request (s : AudioSystem) (type : DeviceType) (address : Option BluetoothAddress) :
    Logged (Bool × AudioSystem) :=
  if s.arbiter.isActive type && !s.arbiter.isSwitch address then do
    Logged.emit .debug "Communication device already active" [deviceField type]
    return (false, s)
  else if !s.arbiter.attached then do
    Logged.emit .info "Device catalog unavailable, cannot set communication device"
      [deviceField type]
    return (false, s)
  else
    let s := { s with catalog := s.catalog.list }
    let eligible := s.arbiter.isEligible type
    if s.catalog.devices.isEmpty then do
      Logged.emit .info "No communication devices available" [deviceField type]
      return (false, s)
    else do
      recordSearch eligible s.catalog.devices
      match s.catalog.devices.find? eligible with
      | none =>
        Logged.emit .info "Requested communication device is unavailable" [deviceField type]
        return (false, s)
      | some device => s.switchTo device

/-- Requests the Bluetooth device at `address` under the type as which the Bluetooth stack exposes
it. -/
def requestBluetooth (s : AudioSystem) (address : BluetoothAddress) :
    Logged (Bool × AudioSystem) := do
  let type := (s.bluetooth.classify address).deviceType
  Logged.emit .debug "Classified Bluetooth device" [.text "address" address.text, deviceField type]
  s.request type (some address)

end AudioSystem

end CallAudio
