import CallAudio.Error
import CallAudio.Json.Value
import CallAudio.Log.Filter
import CallAudio.Log.Line
import CallAudio.Text.Terminal

/-!
Setting up logging, once for the whole program, and the lines that are then written: plain text or
one document a line.
-/

namespace CallAudio.Log

/-- How logging is set up. -/
structure Settings where
  level : Level := .info
  /-- Lines are documents. -/
  json : Bool := false
  /-- Lines tell where in the program they come from. -/
  fileInfo : Bool := false
  /-- The end of a span is written as well. -/
  spans : Bool := false
  appName : String := "callroute"
  deriving DecidableEq, Repr

/-- The level that a text stands for. -/
def Level.read (text : String) : Except RouteError Level :=
  match Level.parse? text with
  | some l => .ok l
  | none => .error (.config ("Invalid log level: " ++ text))

/-- Something to be written: a record, or the end of a span, with the target it comes from. -/
inductive Emission
  | record (target : String) (r : Record)
  | close (target : String) (span : Span)

/-- What is shown for a position in the program. -/
def positionText : String := "<position>"

/-- The version told when logging starts. -/
def version : String := "0.1.0"

/-- The target of the setup itself. -/
def setupTarget : String := "callroute_audio_route_core::logging"

/-- The record emitted once logging is set up. -/
def Settings.welcome (s : Settings) : Emission :=
  .record setupTarget
    { level := .info, message := "Starting " ++ s.appName ++ " v" ++ version, fields := [] }

/-- Sets logging up, unless that was done before. -/
def install (installed : Option Settings) (s : Settings) :
    Except RouteError Unit × Option Settings :=
  match installed with
  | none => (.ok (), some s)
  | some first =>
    (.error (.logging "a global default trace dispatcher has already been set"), some first)

/-- Sets logging up several times: the answers, and what holds in the end. -/
def installAll (installed : Option Settings) :
    List Settings → List (Except RouteError Unit) × Option Settings
  | [] => ([], installed)
  | s :: rest =>
    let (answer, installed) := install installed s
    let (answers, installed) := installAll installed rest
    (answer :: answers, installed)

/-- A field of a plain line. The value of a field called `message` stands alone, and like the message
itself it is made safe for a terminal. -/
def Field.plain (f : Field) : String :=
  if f.name = "message" then Text.disarm (f.value.display none) else f.display none

/-- A span of a plain line: its name, and its fields between braces if it has any. -/
def Span.plain (s : Span) : String :=
  s.place.name ++
    (if s.fields.isEmpty then ""
     else "\x7b" ++ String.intercalate " " (s.fields.map (·.display none)) ++ "\x7d") ++ ":"

/-- A plain line. -/
def plainLine (s : Settings) (target : String) (r : Record) : String :=
  String.intercalate " "
    ([r.level.name] ++
     (if r.spans.isEmpty then [] else [String.join (r.spans.map Span.plain)]) ++
     [target ++ ":"] ++
     (if s.fileInfo then [positionText] else []) ++
     [Text.disarm r.message] ++ r.fields.map Field.plain)

/-- Members with one more, which takes the place of one with the same key. -/
def put (members : List (String × Json.Value)) (key : String) (value : Json.Value) :
    List (String × Json.Value) :=
  if members.any (·.1 == key) then
    members.map fun m => if m.1 == key then (key, value) else m
  else members ++ [(key, value)]

/-- The value of a field in a document. -/
def Value.document : Value → Json.Value
  | .flag b => .bool b
  | v => .string (v.display none)

/-- Fields as members behind a first one. -/
def members (first : String × Json.Value) (fields : List Field) : Json.Value :=
  .object (fields.foldl (fun ms f => put ms f.name f.value.document) [first])

/-- A span as a document. -/
def Span.document (s : Span) : Json.Value :=
  members ("name", .string s.place.name) s.fields

/-- A line that is a document. `outer` are the spans that it lists, outermost first. -/
def documentLine (s : Settings) (target : String) (r : Record) (outer : List Span) : Json.Value :=
  .object
    ([("level", .string r.level.name), ("target", .string target),
      ("fields", members ("message", .string r.message) r.fields)] ++
     (if s.fileInfo then [("position", .bool true)] else []) ++
     (match r.spans.getLast? with
      | none => []
      | some span =>
        [("span", span.document), ("spans", .list (outer.map Span.document))]))

/-- A line as it is written. -/
inductive Written
  | plain (line : String)
  | document (line : Json.Value)

/-- The line of an emission, if it passes the filter. The end of a span is written inside the span,
at the level of the span, and lists no spans. -/
def write? (s : Settings) (f : Filter) : Emission → Option Written
  | .record target r =>
    let watch := f.watch target
    if watch.sees r.level then
      let r := { r with spans := r.spans.filter fun span => watch.sees span.place.level }
      some (if s.json then .document (documentLine s target r r.spans)
        else .plain (plainLine s target r))
    else none
  | .close target span =>
    if s.spans && (f.watch target).sees span.place.level then
      let r : Record :=
        { level := span.place.level, message := "close", fields := [], spans := [span] }
      some (if s.json then .document (documentLine s target r []) else .plain (plainLine s target r))
    else none

/-- The lines of what is emitted after logging was set up, and of the welcome before it. -/
def written (s : Settings) (environment : String) (emissions : List Emission) : List Written :=
  let filter := (Filter.ofText environment).withDefault (some s.level)
  (s.welcome :: emissions).filterMap (write? s filter)

end CallAudio.Log
