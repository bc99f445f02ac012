import CallAudio.Text.Quoted

/-!
The notation in which diagnostics show a value with its structure: `Name` followed by named parts
in braces or by one part in parentheses, lists in square brackets, texts quoted.
-/

namespace CallAudio.Text.Inspect

/-- A named value with named parts: the name, then `part: value` pairs between braces. -/
def record (name : String) (parts : List (String × String)) : String :=
  name ++ " \x7b " ++ String.intercalate ", " (parts.map fun p => p.1 ++ ": " ++ p.2) ++ " \x7d"

/-- A named value that holds other values by position. -/
def wrap (name : String) (parts : List String) : String :=
  name ++ "(" ++ String.intercalate ", " parts ++ ")"

/-- A value that may be absent. -/
def option (show? : Option String) : String :=
  match show? with
  | none => "None"
  | some s => wrap "Some" [s]

/-- A list, its entries separated by commas. -/
def list (entries : List String) : String :=
  "[" ++ String.intercalate ", " entries ++ "]"

/-- A truth value. -/
def bool (b : Bool) : String :=
  if b then "true" else "false"

end CallAudio.Text.Inspect
