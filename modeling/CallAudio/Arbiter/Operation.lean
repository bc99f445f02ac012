import CallAudio.Arbiter
import CallAudio.Error

/-!
The operations of the arbiter as values, with their replies, so that runs of operations can be
written down and quantified over.
-/

namespace CallAudio

open Log (Logged)

/-- What an operation answers. -/
inductive Reply
  | nothing
  | flag (b : Bool)
  | types (ts : List DeviceType)
  | selection (s : Selection)
  | text (s : String)
  /-- The devices that the catalog was asked to activate, and how often it was cleared. -/
  | counts (activations : List DeviceDescriptor) (clears : Nat)
  /-- Whether a submission was accepted. -/
  | outcome (r : Except RouteError Unit)

namespace AudioSystem

/-- An operation of the arbiter. -/
inductive Operation
  | request (type : DeviceType) (address : Option BluetoothAddress)
  /-- Without an address nothing is requested. -/
  | requestBluetooth (address : Option BluetoothAddress)
  | clear (type : DeviceType)
  | clearBluetooth
  | detach
  | hasCatalog
  | isActive (type : DeviceType)
  | activeTypes
  | selection
  | inspect
  deriving DecidableEq, Repr

/-- A Bluetooth request that names no address takes `address`. -/
def Operation.withAddress (address : Option BluetoothAddress) : Operation → Operation
  | requestBluetooth none => requestBluetooth address
  | op => op

/-- Carries out an operation. -/
def perform (s : AudioSystem) : Operation → Logged (Reply × AudioSystem)
  | .request type address => do
    let (changed, s) ← s.request type address
    return (.flag changed, s)
  | .requestBluetooth none => return (.nothing, s)
  | .requestBluetooth (some address) => do
    let (changed, s) ← s.requestBluetooth address
    return (.flag changed, s)
  | .clear type => do
    let s ← s.clear type
    return (.nothing, s)
  | .clearBluetooth => do
    let s ← s.clearBluetooth
    return (.nothing, s)
  | .detach => do
    let s ← s.detach
    return (.flag s.arbiter.attached, s)
  | .hasCatalog => return (.flag s.arbiter.attached, s)
  | .isActive type => return (.flag (s.arbiter.isActive type), s)
  | .activeTypes => return (.types s.arbiter.activeTypes, s)
  | .selection => return (.selection s.arbiter.selection, s)
  | .inspect => return (.text s.arbiter.inspect, s)

end AudioSystem

end CallAudio
