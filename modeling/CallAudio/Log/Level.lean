/-! Levels of log records, from errors to the finest trace, and how a level is written. -/

namespace CallAudio.Log

/-- How much a record matters; `error` matters most. -/
inductive Level
  | error
  | warn
  | info
  | debug
  | trace
  deriving DecidableEq, Repr

namespace Level

/-- The position of the level, counted from `error` as 1 to `trace` as 5. -/
def rank : Level → Nat
  | error => 1
  | warn => 2
  | info => 3
  | debug => 4
  | trace => 5

/-- The name as it is written in log lines. -/
def name : Level → String
  | error => "ERROR"
  | warn => "WARN"
  | info => "INFO"
  | debug => "DEBUG"
  | trace => "TRACE"

/-- Every level, the most important first. -/
def all : List Level :=
  [error, warn, info, debug, trace]

/-- The threshold `limit` lets a level pass when it matters at least as much. -/
def passes (limit level : Level) : Bool :=
  level.rank ≤ limit.rank

/-- The number that a run of decimal digits stands for; leading zeros are allowed. -/
def digitsValue? : List Char → Option Nat
  | [] => none
  | cs => if cs.all Char.isDigit then
      some (Nat.ofDigitChars 10 cs 0)
    else none

/-- An unsigned decimal, with or without a plus sign in front. -/
def decimal? (cs : List Char) : Option Nat :=
  match cs with
  | '+' :: rest => digitsValue? rest
  | _ => digitsValue? cs

/-- A level is written by its position as an unsigned decimal, or by its name with ASCII letters in
either case. -/
def parse? (s : String) : Option Level :=
  match decimal? s.toList with
  | some n => all.find? (·.rank == n)
  | none => all.find? fun l => l.name.toList == s.toList.map Char.toUpper

theorem passes_self (l : Level) : l.passes l = true := by
  simp [passes]

theorem parse?_name (l : Level) : parse? l.name = some l := by
  cases l <;> decide

end Level

end CallAudio.Log
