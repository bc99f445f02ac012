import CallAudio.Log.Setup
import CallAudio.Peripheral

/-!
A probe of the logging setup: records of every level from two targets of a host, and three
peripheral reports of which the second is rejected.
-/

namespace CallAudio.Log

/-- The target of records about peripheral reports. -/
def peripheralTarget : String := "callroute_audio_route_core::events::translator"

/-- A record of each level, the most important first. -/
def levelProbes (target : String) : List Emission :=
  Level.all.map fun level =>
    .record target
      { level, message := "probe " ++ level.name.map Char.toLower, fields := [] }

/-- What handling a report emits: its records, and then the end of its span. -/
def reportEmissions (report : Report) (result : Logged (Peripherals × Recorder)) : List Emission :=
  result.records.map (.record peripheralTarget) ++ [.close peripheralTarget report.span]

/-- A jack report that is no news, and a dock report that is rejected. -/
def peripheralProbes : List Emission :=
  let unplugged := Report.wired false
  let docked := Report.dock true
  let first := Peripherals.handle {} ({} : Recorder) unplugged
  let (peripherals, adapter) := first.value
  let second := peripherals.handle { adapter with rejections := 1 } docked
  reportEmissions unplugged first ++ reportEmissions docked second

/-- Everything that the probe emits. -/
def probes : List Emission :=
  levelProbes "host" ++ levelProbes "host::audio" ++ peripheralProbes

/-- The lines of the probe under the settings that hold; without settings nothing is written. -/
def probeLines (installed : Option Settings) (environment : String) : List Written :=
  match installed with
  | none => []
  | some s => written s environment probes

end CallAudio.Log
