import CallAudio.Log.Record

/-!
Records as single lines: the level, the watched spans in square brackets from the outermost in, the
message, and the fields, each `name=value`.
-/

namespace CallAudio.Log

/-- The text of a value. -/
def Value.display (watch : Watch) : Value → String
  | .text s => s
  | .flag b => if b then "true" else "false"
  | .origin scope => scope.origin watch
  | .session scope => scope.origin watch ++ "@" ++ sessionId

/-- A field as `name=value`. -/
def Field.display (watch : Watch) (f : Field) : String :=
  f.name ++ "=" ++ f.value.display watch

/-- A span by its name and fields, separated by spaces. -/
def Span.display (watch : Watch) (s : Span) : String :=
  String.intercalate " " (s.place.name :: s.fields.map (·.display watch))

/-- The line of a record. -/
def Record.line (watch : Watch) (r : Record) : String :=
  let spans := r.spans.filter fun s => watch.sees s.place.level
  String.intercalate " "
    ([r.level.name] ++ spans.map (fun s => "[" ++ s.display watch ++ "]") ++ [r.message] ++
      r.fields.map (·.display watch))

/-- The lines of the watched records. -/
def lines (watch : Watch) (records : List Record) : List String :=
  (records.filter fun r => watch.sees r.level).map (·.line watch)

end CallAudio.Log
