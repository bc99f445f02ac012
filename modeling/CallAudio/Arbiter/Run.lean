import CallAudio.Arbiter.Operation

/-!
Runs of the arbiter: operations mixed with changes of the platform, and what can be observed after
each step.
-/

namespace CallAudio

open Log (Logged Record)

/-- What was appended to a growing list. -/
def since {α : Type} (before after : List α) : List α :=
  after.drop before.length

theorem since_append {α : Type} (xs ys : List α) : since xs (xs ++ ys) = ys := by
  simp [since]

namespace AudioSystem

/-- A step of a run. -/
inductive Step
  | operate (op : Operation)
  | setDevices (devices : List DeviceDescriptor)
  | decline (on : Bool)
  | setKind (address : BluetoothAddress) (kind : BluetoothKind)
  /-- The catalog forgets the calls it has counted. -/
  | resetCalls
  | counts
  | connectedOrPending

/-- From now on the catalog lists these devices. -/
def setDevices (s : AudioSystem) (devices : List DeviceDescriptor) : AudioSystem :=
  { s with catalog := { s.catalog with devices } }

/-- From now on the platform declines activations, or accepts them. -/
def decline (s : AudioSystem) (on : Bool) : AudioSystem :=
  { s with catalog := { s.catalog with declining := on } }

/-- Takes one step. -/
def step (s : AudioSystem) : Step → Logged (Reply × AudioSystem)
  | .operate op => s.perform op
  | .setDevices devices => return (.nothing, s.setDevices devices)
  | .decline on => return (.nothing, s.decline on)
  | .setKind address kind =>
    return (.nothing, { s with bluetooth := s.bluetooth.setKind address kind })
  | .resetCalls => return (.nothing, { s with catalog := { s.catalog with calls := [] } })
  | .counts => return (.counts s.catalog.setDevices s.catalog.clearCount, s)
  | .connectedOrPending => return (.flag s.bluetooth.connectedOrPending, s)

/-- What can be seen after a step: its reply, the calls and notices it made, the state it left. -/
structure Observation where
  reply : Reply
  calls : List CatalogCall
  notices : List BluetoothNotice
  selection : Selection
  platform : Option DeviceDescriptor
  records : List Record

/-- One step, observed. -/
def observe (s : AudioSystem) (step : Step) : Observation × AudioSystem :=
  let result := s.step step
  let s' := result.value.2
  ({ reply := result.value.1
     calls := since s.catalog.calls s'.catalog.calls
     notices := since s.bluetooth.notices s'.bluetooth.notices
     selection := s'.arbiter.selection
     platform := s'.catalog.active
     records := result.records }, s')

/-- The state after a run of steps. -/
def run (s : AudioSystem) : List Step → AudioSystem
  | [] => s
  | step :: rest => (s.observe step).2.run rest

/-- What can be seen along a run of steps. -/
def observations (s : AudioSystem) : List Step → List Observation
  | [] => []
  | step :: rest => (s.observe step).1 :: (s.observe step).2.observations rest

/-- The state before any step: nothing active, nothing asked for. -/
def start (devices : List DeviceDescriptor) (kinds : List (BluetoothAddress × BluetoothKind)) :
    AudioSystem :=
  { catalog := { devices }, bluetooth := { kinds } }

end AudioSystem

end CallAudio
