import CallAudio.Text.Inspect

/-!
What can go wrong around routing: a full queue, a stopped worker, an unusable configuration, a
failed logging setup. The arbiter itself never fails: it answers `false` and leaves a record.
-/

namespace CallAudio

open Text (quote)

/-- The causes of a failed operation. -/
inductive RouteError
  /-- The queue had no free place for the named submission. -/
  | queueFull (submission : String)
  /-- The worker no longer takes submissions. -/
  | workerStopped
  /-- A configuration is invalid or cannot be read. -/
  | config (reason : String)
  /-- Logging could not be set up. -/
  | logging (reason : String)
  deriving DecidableEq, Repr

namespace RouteError

/-- The name of the cause. -/
def cause : RouteError → String
  | queueFull _ => "QueueFull"
  | workerStopped => "WorkerStopped"
  | config _ => "Config"
  | logging _ => "Logging"

/-- The text shown to a user. -/
def message : RouteError → String
  | queueFull submission => "Routing queue full, dropped " ++ submission
  | workerStopped => "Routing worker has stopped"
  | config reason => "Configuration error: " ++ reason
  | logging reason => "Logging setup failed: " ++ reason

/-- Only a full queue passes: the same submission may succeed later. -/
def isTransient : RouteError → Bool
  | queueFull _ => true
  | workerStopped | config _ | logging _ => false

/-- The error as an inspected value. -/
def inspect : RouteError → String
  | queueFull submission => Text.Inspect.record "QueueFull" [("message", quote submission)]
  | workerStopped => "WorkerStopped"
  | config reason => Text.Inspect.record "Config" [("message", quote reason)]
  | logging reason => Text.Inspect.record "Logging" [("message", quote reason)]

end RouteError

end CallAudio
