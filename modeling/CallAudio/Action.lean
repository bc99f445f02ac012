import CallAudio.Arbiter.Operation
import CallAudio.AudioState
import CallAudio.Message

/-!
Scripted behaviour of the state machine and of submitted work: lists of actions, which the worker
carries out one after the other until the list ends or an action panics.
-/

namespace CallAudio

/-- What a panic carries. -/
inductive Panic
  | text (s : String)
  /-- Anything that is not a text. -/
  | other
  deriving DecidableEq, Repr

/-- The text by which a panic is reported. -/
def Panic.message : Panic → String
  | text s => s
  | other => "non-string panic payload"

/-- A change of the audio state; a part that is absent stays as it is. -/
structure StateEdit where
  route : Option AudioRoute := none
  supported : Option (List AudioRoute) := none
  muted : Option Bool := none
  device : Option (Option BluetoothAddress) := none
  /-- The device becomes the payload of the message at hand. -/
  deviceFromPayload : Bool := false
  deriving DecidableEq, Repr

/-- The state after the change, given the payload of the message at hand. -/
def StateEdit.apply (e : StateEdit) (payload : Option String) (s : CallAudioState) :
    CallAudioState :=
  { route := e.route.getD s.route
    supported := e.supported.getD s.supported
    muted := e.muted.getD s.muted
    device := if e.deviceFromPayload then payload.map BluetoothAddress.mk
      else e.device.getD s.device }

/-- One thing that a script does. -/
inductive Action
  /-- An operation of the arbiter; a Bluetooth request without an address takes the payload of the
  message at hand. -/
  | operate (op : AudioSystem.Operation)
  | edit (change : StateEdit)
  /-- Submits a message from within the worker. -/
  | send (message : RouteMessage) (arg : Option Int) (payload : Option String)
  /-- Submits a task from within the worker. -/
  | task (actions : List Action)
  | panic (cause : Panic)
  /-- Done only for a message with this argument. -/
  | ifArg (arg : Int) (action : Action)

/-- Work to be done on the worker with the arbiter at hand. -/
inductive Work
  /-- Clears whichever device is active. -/
  | clearActive
  | script (actions : List Action)

end CallAudio
