import CallAudio.Action

/-!
The submission side of a routing engine, and an adapter that records submissions instead of acting
on them.
-/

namespace CallAudio

open Log (Logged Scope)

/-- What a routing engine is handed. -/
inductive Submission
  | message (m : RouteMessage)
  | withArg (m : RouteMessage) (arg : Int)
  | withPayload (m : RouteMessage) (arg : Int) (payload : String)
  | task (work : Work)

namespace Submission

/-- The form in which a message with these parts is sent: a payload goes with an argument, which is
zero where none is given. -/
def ofParts (m : RouteMessage) : Option Int → Option String → Submission
  | arg, some payload => withPayload m (arg.getD 0) payload
  | some arg, none => withArg m arg
  | none, none => message m

/-- The message, unless the submission is a task. -/
def message? : Submission → Option RouteMessage
  | message m | withArg m _ | withPayload m _ _ => some m
  | task _ => none

/-- The submission as an inspected value. -/
def inspect : Submission → String
  | message m => Text.Inspect.wrap "Message" [m.inspect]
  | withArg m arg => Text.Inspect.wrap "WithArg" [m.inspect, toString arg]
  | withPayload m arg payload =>
    Text.Inspect.wrap "WithPayload" [m.inspect, toString arg, Text.quote payload]
  | task _ => "Task"

end Submission

/-- Something that takes submissions. Submitting never waits. -/
class Adapter (σ : Type) where
  /-- Hands over a submission that was made in the given scope. -/
  submit : σ → Scope → Submission → Logged (Except RouteError Unit × σ)

/-- An adapter that keeps what it is handed, and can be told to reject the next few submissions as
if its queue were full. -/
structure Recorder where
  accepted : List Submission := []
  rejections : Nat := 0

namespace Recorder

/-- Keeps the submission, or uses up one rejection. -/
def record (r : Recorder) (s : Submission) : Except RouteError Unit × Recorder :=
  match r.rejections with
  | n + 1 => (.error (.queueFull s.inspect), { r with rejections := n })
  | 0 => (.ok (), { r with accepted := r.accepted ++ [s] })

instance : Adapter Recorder where
  submit r _ s := return r.record s

/-- The accepted messages, whatever form they were sent in. -/
def messages (r : Recorder) : List RouteMessage :=
  r.accepted.filterMap Submission.message?

/-- The diagnostic text. -/
def dump (r : Recorder) : String :=
  "RecordingRoutingAdapter: " ++ toString r.accepted.length ++ " submissions"

/-- Nothing is routed, so the audio state stays the initial one. -/
def audioState (_ : Recorder) : CallAudioState :=
  {}

/-- No hands-free device is ever reported. -/
def hfpAvailable (_ : Recorder) : Bool :=
  false

end Recorder

end CallAudio
