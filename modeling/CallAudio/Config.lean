import CallAudio.Error
import CallAudio.Text.Blank

/-! The configuration of the routing worker. -/

namespace CallAudio

/-- How the routing worker is set up. -/
structure RoutingConfig where
  /-- The number of places of the inbound mailbox. -/
  queueCapacity : Nat := 256
  /-- The name used in records and dumps. -/
  workerName : String := "call-audio-route"
  /-- How many processed items are kept for the dump. -/
  historySize : Nat := 32
  deriving DecidableEq, Repr

namespace RoutingConfig

/-- A usable configuration has room for a submission and a name that is not blank; the capacity is
looked at first. -/
def validate (c : RoutingConfig) : Except RouteError Unit :=
  if c.queueCapacity = 0 then .error (.config "queue_capacity must be greater than zero")
  else if Text.Blank c.workerName then .error (.config "worker_name must not be empty")
  else .ok ()

theorem validate_eq_ok_iff {c : RoutingConfig} :
    c.validate = .ok () ↔ 0 < c.queueCapacity ∧ ¬Text.Blank c.workerName := by
  unfold validate
  split
  · rename_i none
    simp [none]
  · rename_i some
    split <;> rename_i blank <;> simp [blank, Nat.pos_of_ne_zero some]

/-- The configuration itself if it is usable. -/
def validated (c : RoutingConfig) : Except RouteError RoutingConfig :=
  c.validate.map fun _ => c

/-- The configuration as an inspected value. -/
def inspect (c : RoutingConfig) : String :=
  Text.Inspect.record "RoutingConfig"
    [("queue_capacity", toString c.queueCapacity),
     ("worker_name", Text.quote c.workerName),
     ("history_size", toString c.historySize)]

end RoutingConfig

end CallAudio
