import CallAudio.Peripheral.Run
import CallAudio.Registry

/-! Runs of the call registry and of peripheral reports over one recording adapter. -/

namespace CallAudio.Registry

open Log (Logged Record)

/-- A step of a run. -/
inductive Step
  | add (id : CallId)
  | remove (id : CallId)
  | route (route : AudioRoute) (address : Option BluetoothAddress)
  | mute (on : Bool)
  | peripheral (step : Peripherals.Step)

/-- What a run works on. -/
structure Desk where
  registry : Registry := {}
  peripherals : Peripherals := {}
  adapter : Recorder := {}

/-- Registers with the peripheral sources, once. -/
def Desk.attached : Logged Desk := do
  let peripherals ← Peripherals.attach {}
  return { peripherals }

/-- Takes one step; a peripheral report has no answer. -/
def Desk.step (d : Desk) : Step → Logged (Option (Except RouteError Unit) × Desk)
  | .add id => do
    let (answer, registry, adapter) ← d.registry.add d.adapter id
    return (some answer, { d with registry, adapter })
  | .remove id => do
    let (answer, registry, adapter) ← d.registry.remove d.adapter id
    return (some answer, { d with registry, adapter })
  | .route route address => do
    let (answer, adapter) ← requestRoute d.adapter route address
    return (some answer, { d with adapter })
  | .mute on => do
    let (answer, adapter) ← setMuted d.adapter on
    return (some answer, { d with adapter })
  | .peripheral step => do
    let desk ← Peripherals.Desk.step ⟨d.peripherals, d.adapter⟩ step
    return (none, { d with peripherals := desk.peripherals, adapter := desk.adapter })

/-- What can be seen after a step. -/
structure Observation where
  answer : Option (Except RouteError Unit)
  sent : List Submission
  ringtone : List Bool
  count : Nat
  hasCalls : Bool
  plugged : Bool
  audioState : CallAudioState
  hfpAvailable : Bool
  messageCount : Nat
  records : List Record

/-- One step, observed. -/
def Desk.observe (d : Desk) (step : Step) : Observation × Desk :=
  let result := d.step step
  let d' := result.value.2
  ({ answer := result.value.1
     sent := since d.adapter.accepted d'.adapter.accepted
     ringtone := since d.peripherals.ringtone d'.peripherals.ringtone
     count := d'.registry.count
     hasCalls := d'.registry.hasCalls
     plugged := d'.peripherals.plugged
     audioState := d'.adapter.audioState
     hfpAvailable := d'.adapter.hfpAvailable
     messageCount := d'.adapter.messages.length
     records := result.records }, d')

/-- The state after a run of steps. -/
def Desk.run (d : Desk) : List Step → Desk
  | [] => d
  | step :: rest => (d.observe step).2.run rest

/-- What can be seen along a run of steps. -/
def Desk.observations (d : Desk) : List Step → List Observation
  | [] => []
  | step :: rest => (d.observe step).1 :: (d.observe step).2.observations rest

end CallAudio.Registry
