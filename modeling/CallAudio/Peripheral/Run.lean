import CallAudio.Arbiter.Run
import CallAudio.Peripheral

/-! Runs of peripheral reports over a recording adapter. -/

namespace CallAudio.Peripherals

open Log (Logged Record)

/-- A step of a run. -/
inductive Step
  | attach
  /-- A report, delivered through its source or handed over directly. -/
  | report (r : Report) (direct : Bool)
  /-- The adapter rejects the next `n` submissions. -/
  | reject (n : Nat)

/-- What a run works on. -/
structure Desk where
  peripherals : Peripherals := {}
  adapter : Recorder := {}

/-- Takes one step. -/
def Desk.step (d : Desk) : Step → Logged Desk
  | .attach => do
    let peripherals ← d.peripherals.attach
    return { d with peripherals }
  | .report r direct => do
    let (peripherals, adapter) ←
      if direct then d.peripherals.handle d.adapter r else d.peripherals.deliver d.adapter r
    return { peripherals, adapter }
  | .reject n => return { d with adapter := { d.adapter with rejections := n } }

/-- What can be seen after a step. -/
structure Observation where
  sent : List Submission
  ringtone : List Bool
  plugged : Bool
  listeners : Nat
  dump : String
  records : List Record

/-- One step, observed. -/
def Desk.observe (d : Desk) (step : Step) : Observation × Desk :=
  let result := d.step step
  let d' := result.value
  ({ sent := since d.adapter.accepted d'.adapter.accepted
     ringtone := since d.peripherals.ringtone d'.peripherals.ringtone
     plugged := d'.peripherals.plugged
     listeners := d'.peripherals.listeners
     dump := d'.adapter.dump
     records := result.records }, d')

/-- The state after a run of steps. -/
def Desk.run (d : Desk) : List Step → Desk
  | [] => d
  | step :: rest => (d.observe step).2.run rest

/-- What can be seen along a run of steps. -/
def Desk.observations (d : Desk) : List Step → List Observation
  | [] => []
  | step :: rest => (d.observe step).1 :: (d.observe step).2.observations rest

end CallAudio.Peripherals
