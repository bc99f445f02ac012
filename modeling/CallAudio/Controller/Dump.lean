import CallAudio.Controller.State

/-! The diagnostic text of a controller. -/

namespace CallAudio

open Log (Watch)

/-- A line without the carriage return that stands right before its line feed. -/
def dropReturn (line : List Char) : List Char :=
  if line.getLast? = some '\r' then line.dropLast else line

/-- The lines of a text. A line ends with a line feed, which may follow a carriage return; what comes
after the last line feed is a line unless it is empty. `line` is what was read of the line at hand. -/
def splitLines (line : List Char) : List Char → List (List Char)
  | [] => if line.isEmpty then [] else [line]
  | '\n' :: rest => dropReturn line :: splitLines [] rest
  | c :: rest => splitLines (line ++ [c]) rest

/-- What is shown for the time at which an item was processed. -/
def HistoryEntry.timeText : String := "<time>"

/-- The line of a history entry. -/
def HistoryEntry.line (watch : Watch) (e : HistoryEntry) : String :=
  "    " ++ timeText ++ " " ++ e.description ++ " (" ++ e.session.display watch ++ ")"

namespace Controller

/-- The lines of the diagnostic text of the state machine, indented under a heading; nothing for an
empty text. -/
def machineLines (dump : String) : List String :=
  if dump.isEmpty then []
  else "  state machine:" ::
    (splitLines [] dump.toList).map fun line => "    " ++ String.ofList line

/-- The lines of the diagnostic text: what was last published, and the history. -/
def dumpLines (c : Controller) (watch : Watch) : List String :=
  ["RoutingController[" ++ c.config.workerName ++ "]",
   "  running: " ++ Text.Inspect.bool c.isRunning ++ ", queue: " ++ toString c.mailbox.pending ++
     "/" ++ toString c.config.queueCapacity,
   "  audio state: " ++ c.published.audioState.display,
   "  hfp device available: " ++ Text.Inspect.bool c.published.hfpAvailable,
   "  communication device: " ++ c.published.selection.display,
   "  processed: " ++ toString c.published.processed] ++
  machineLines c.published.machineDump ++
  "  history:" :: c.history.map (HistoryEntry.line watch)

/-- The diagnostic text, each line ended by a line feed. -/
def dump (c : Controller) (watch : Watch) : String :=
  String.join ((c.dumpLines watch).map (· ++ "\n"))

end Controller

end CallAudio
