import CallAudio.Adapter
import CallAudio.CallId

/-!
The registry of calls that hold call audio. Routing focus follows it: the first call in takes focus,
the last call out releases focus and clears whichever device is still active.
-/

namespace CallAudio

open Log (Logged Field)

/-- The calls that hold call audio, each with the session in which it was added. -/
structure Registry where
  calls : List (CallId × Session) := []
  deriving DecidableEq, Repr

namespace Registry

/-- Whether a call is tracked. -/
def contains (r : Registry) (id : CallId) : Bool :=
  (r.calls.lookup id).isSome

/-- How many calls are tracked. -/
def count (r : Registry) : Nat :=
  r.calls.length

/-- Whether any call is tracked. -/
def hasCalls (r : Registry) : Bool :=
  !r.calls.isEmpty

/-- Tracks a call. -/
def track (r : Registry) (id : CallId) : Registry :=
  { calls := r.calls ++ [(id, {})] }

/-- Stops tracking a call. -/
def untrack (r : Registry) (id : CallId) : Registry :=
  { calls := r.calls.filter fun c => c.1 != id }

/-- A field that names a call. -/
def callField (id : CallId) : Field :=
  .text "call_id" id.text

variable {σ : Type} [Adapter σ]

/-- Starts tracking a call; a tracked call may be added again to no effect. The first call takes
focus, and stays untracked if the focus message is not accepted. -/
def add (r : Registry) (routing : σ) (id : CallId) :
    Logged (Except RouteError Unit × Registry × σ) :=
  if r.contains id then do
    Logged.emit .debug "Call already tracked" [callField id]
    return (.ok (), r, routing)
  else do
    let first := !r.hasCalls
    let (answer, routing) ←
      if first then Adapter.submit routing [] (.withArg .switchFocus Focus.active)
      else pure (.ok (), routing)
    match answer with
    | .error e => return (.error e, r, routing)
    | .ok () =>
      Logged.emit .info "Call added to audio routing" [callField id, .flag "first" first]
      return (.ok (), r.track id, routing)

/-- Releases focus and has the active device cleared. Both are always attempted; the first failure
is the answer. -/
def release (routing : σ) : Logged (Except RouteError Unit × σ) := do
  let (released, routing) ← Adapter.submit routing [] (.withArg .switchFocus Focus.none)
  let (cleared, routing) ← Adapter.submit routing [] (.task .clearActive)
  match released with
  | .error e => return (.error e, routing)
  | .ok () => return (cleared, routing)

/-- Stops tracking a call; an unknown call may be removed to no effect. The last call releases call
audio, and stays tracked if that is not accepted, so that the removal can be tried again. -/
def remove (r : Registry) (routing : σ) (id : CallId) :
    Logged (Except RouteError Unit × Registry × σ) :=
  match r.calls.lookup id with
  | none => do
    Logged.emit .debug "Call not tracked" [callField id]
    return (.ok (), r, routing)
  | some session => do
    let (answer, routing) ←
      if r.count = 1 then do
        Logged.emit .info "Last call removed, releasing call audio" [callField id]
        release routing
      else pure (.ok (), routing)
    match answer with
    | .error e =>
      Logged.emit .warn ("Failed to release call audio, keeping call tracked: " ++ e.message)
        [callField id]
      return (.error e, r, routing)
    | .ok () =>
      Logged.emit .debug "Call removed from audio routing"
        [callField id, ⟨"session", .session session.scope⟩]
      return (.ok (), r.untrack id, routing)

/-- The message by which a user selects a route; streaming cannot be selected. -/
def routeMessage? : AudioRoute → Option RouteMessage
  | .earpiece => some .userSwitchEarpiece
  | .wiredHeadset => some .userSwitchHeadset
  | .speaker => some .userSwitchSpeaker
  | .bluetooth => some .userSwitchBluetooth
  | .streaming => none

/-- Asks for a route that a user selected; an address counts for the Bluetooth route only. -/
def requestRoute (routing : σ) (route : AudioRoute) (address : Option BluetoothAddress) :
    Logged (Except RouteError Unit × σ) :=
  match routeMessage? route with
  | none => do
    Logged.emit .warn "Streaming route cannot be selected by the user" []
    return (.ok (), routing)
  | some m =>
    match route, address with
    | .bluetooth, some a => Adapter.submit routing [] (.withPayload m 0 a.text)
    | _, _ => Adapter.submit routing [] (.message m)

/-- Asks for the call to be muted or heard again. -/
def setMuted (routing : σ) (muted : Bool) : Logged (Except RouteError Unit × σ) :=
  Adapter.submit routing [] (.message (if muted then .muteOn else .muteOff))

end Registry

end CallAudio
