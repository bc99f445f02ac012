import CallAudio.Controller.State

/-! Submissions to the controller: they are accepted at once or rejected at once. -/

namespace CallAudio

open Log (Logged Scope)

namespace Controller

/-- Submits an item. A controller that is shutting down or whose worker is gone rejects it for good;
a full mailbox rejects it for now. -/
def enqueue (c : Controller) (item : Item) : Logged (Except RouteError Unit × Controller) :=
  if c.accepting then
    match c.mailbox.trySend (.item item) with
    | .ok mailbox => return (.ok (), { c with mailbox, accepted := c.accepted ++ [item] })
    | .error .full => do
      Logged.emit .warn "Routing queue full, dropping submission"
        [c.workerField, .text "message" item.name]
      return (.error (.queueFull item.name), c)
    | .error .closed => do
      Logged.emit .debug "Routing worker stopped, rejecting submission"
        [.text "message" item.name]
      return (.error .workerStopped, c)
  else do
    Logged.emit .debug "Routing controller shut down, rejecting submission"
      [.text "message" item.name]
    return (.error .workerStopped, c)

/-- Submits what was handed over in the given scope. -/
def submit (c : Controller) (scope : Scope) (s : Submission) :
    Logged (Except RouteError Unit × Controller) :=
  c.enqueue (Item.ofSubmission ⟨scope⟩ s)

instance : Adapter Controller where
  submit := submit

end Controller

end CallAudio
