import CallAudio.Log.Record

/-!
Filters of records by where they come from. A directive sets a level for the targets that begin with
its own target; the one with the longest target decides.
-/

namespace CallAudio.Log

/-- A level for a group of targets. -/
structure Directive where
  /-- What the targets begin with; nothing for all targets. -/
  target : Option (List Char)
  /-- The level down to which records pass, or none if nothing passes. -/
  limit : Watch
  deriving DecidableEq, Repr

namespace Directive

/-- A level or `off`, by name or by number. -/
def limit? (s : List Char) : Option Watch :=
  match Level.parse? (String.ofList s) with
  | some l => some (some l)
  | none =>
    if s.map Char.toLower = ['o', 'f', 'f'] ∨ Level.decimal? s = some 0 then some none else none

/-- A directive of the form `level`, `target` or `target=level`. A target without a level passes
everything. -/
def parse? (s : List Char) : Option Directive :=
  match s.dropWhile (· != '=') with
  | [] =>
    if s.isEmpty then none
    else
      match limit? s with
      | some limit => some { target := none, limit }
      | none => some { target := some s, limit := some .trace }
  | _ :: level =>
    let target := s.takeWhile (· != '=')
    if target.isEmpty then none
    else if level.isEmpty then some { target := some target, limit := some .trace }
    else (limit? level).map fun limit => { target := some target, limit }

/-- Whether the directive is about a target. -/
def covers (d : Directive) (target : List Char) : Bool :=
  match d.target with
  | none => true
  | some t => t.isPrefixOf target

/-- The length of the target; a directive for all targets is shorter than any other. -/
def weight (d : Directive) : Nat :=
  match d.target with
  | none => 0
  | some t => t.length + 1

end Directive

/-- Directives; of two with the same target the later one counts. -/
structure Filter where
  directives : List Directive

namespace Filter

/-- The directives of a text, separated by commas; what is not a directive is left out. -/
def ofText (text : String) : Filter :=
  ⟨(text.toList.splitOn ',').filterMap Directive.parse?⟩

/-- The filter with another level for the targets that no other directive is about. -/
def withDefault (f : Filter) (limit : Watch) : Filter :=
  ⟨f.directives ++ [{ target := none, limit }]⟩

/-- The directive that decides about a target. -/
def deciding? (f : Filter) (target : String) : Option Directive :=
  (f.directives.filter (·.covers target.toList)).foldl
    (fun best d =>
      match best with
      | none => some d
      | some b => if b.weight ≤ d.weight then some d else best)
    none

/-- What is watched of a target. -/
def watch (f : Filter) (target : String) : Watch :=
  (f.deciding? target).bind Directive.limit

end Filter

end CallAudio.Log
