import CallAudio.Device

/-!
The platform around the arbiter, kept in memory: the catalog of communication devices, of which at
most one is active, and the Bluetooth stack. Both remember what they were asked to do, oldest first.
-/

namespace CallAudio

/-- One call made to the catalog. -/
inductive CatalogCall
  | list
  | set (device : DeviceDescriptor)
  | clear
  deriving DecidableEq, Repr

/-- The call as a line of a report. -/
def CatalogCall.display : CatalogCall → String
  | list => "list"
  | set d => "set " ++ d.display
  | clear => "clear"

/-- The device catalog of the platform. -/
structure Catalog where
  devices : List DeviceDescriptor := []
  active : Option DeviceDescriptor := none
  /-- While set, the platform declines every activation. -/
  declining : Bool := false
  calls : List CatalogCall := []
  deriving DecidableEq, Repr

namespace Catalog

/-- Lists the devices; the answer is `devices`. -/
def list (c : Catalog) : Catalog :=
  { c with calls := c.calls ++ [.list] }

/-- Asks for `device` to become the active one, which the platform may decline. -/
def set (c : Catalog) (device : DeviceDescriptor) : Bool × Catalog :=
  let c := { c with calls := c.calls ++ [.set device] }
  if c.declining then (false, c) else (true, { c with active := some device })

/-- Leaves no device active. -/
def clear (c : Catalog) : Catalog :=
  { c with active := none, calls := c.calls ++ [.clear] }

/-- The devices that `set` was called with, in order. -/
def setDevices (c : Catalog) : List DeviceDescriptor :=
  c.calls.filterMap fun
    | .set d => some d
    | .list | .clear => none

/-- How often `clear` was called. -/
def clearCount (c : Catalog) : Nat :=
  c.calls.count .clear

end Catalog

/-- What the Bluetooth stack is told. -/
inductive BluetoothNotice
  /-- Audio was turned on for the device. -/
  | audioOn (address : BluetoothAddress)
  /-- Audio of the device was torn down. -/
  | audioLost (address : BluetoothAddress)
  deriving DecidableEq, Repr

/-- The notice as a line of a report. -/
def BluetoothNotice.display : BluetoothNotice → String
  | audioOn a => "on " ++ a.text
  | audioLost a => "lost " ++ a.text

/-- The Bluetooth stack: the kinds under which it exposes devices, and the notices it was given. -/
structure BluetoothStack where
  /-- The latest entry of an address counts, and stands first. -/
  kinds : List (BluetoothAddress × BluetoothKind) := []
  notices : List BluetoothNotice := []
  deriving DecidableEq, Repr

namespace BluetoothStack

/-- Devices of unknown kind are classified as `other`. -/
def classify (b : BluetoothStack) (address : BluetoothAddress) : BluetoothKind :=
  (b.kinds.lookup address).getD .other

/-- From now on `address` is of the given kind. -/
def setKind (b : BluetoothStack) (address : BluetoothAddress) (kind : BluetoothKind) :
    BluetoothStack :=
  { b with kinds := (address, kind) :: b.kinds }

/-- Gives the stack a notice. -/
def notify (b : BluetoothStack) (notice : BluetoothNotice) : BluetoothStack :=
  { b with notices := b.notices ++ [notice] }

/-- This stack reports no connection of its own. -/
def connectedOrPending (_ : BluetoothStack) : Bool :=
  false

theorem classify_setKind_self (b : BluetoothStack) (a : BluetoothAddress) (k : BluetoothKind) :
    (b.setKind a k).classify a = k := by
  simp [classify, setKind]

end BluetoothStack

end CallAudio
