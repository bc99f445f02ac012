import CallAudio.Json.Skip
import CallAudio.Keyed

/-!
Reading values of a known type from the front of a text. A value of the wrong kind is read as far as
is needed to name it, so that whatever is wrong first is what is told.
-/

namespace CallAudio.Json

/-- Reads a value from the front of a text, and returns the rest of the text with it. -/
abbrev Reader (α : Type) := List Char → Except Error (α × List Char)

/-- The value that a whole text holds, with blanks around it. -/
def read {α : Type} (reader : Reader α) (text : String) : Except Error α := do
  let (a, rest) ← reader text.toList
  match skipBlanks rest with
  | [] => .ok a
  | _ => .error .trailingCharacters

/-- What is wrong with a text that begins with a value of another kind than is expected. -/
def mismatch (expected : String) (cs : List Char) : Error :=
  let found : Except Error Found :=
    match cs with
    | [] => .error .endOfValue
    | 'n' :: rest => (readLiteral ['u', 'l', 'l'] rest).map fun _ => .null
    | 't' :: rest => (readLiteral ['r', 'u', 'e'] rest).map fun _ => .bool true
    | 'f' :: rest => (readLiteral ['a', 'l', 's', 'e'] rest).map fun _ => .bool false
    | '"' :: rest => (readString rest).map fun (s, _) => .string (String.ofList s)
    | '[' :: _ => .ok .sequence
    | '\x7b' :: _ => .ok .map
    | c :: _ =>
      if startsNumber c then (readNumber cs).map fun (n, _) => n.found
      else .error .expectedValue
  match found with
  | .ok f => .invalidType f expected
  | .error e => e

/-- How a number from 0 to 2^64 - 1 is called. -/
def natName : String := "usize"

/-- A number from 0 to 2^64 - 1. -/
def readNat : Reader Nat := fun cs =>
  let cs := skipBlanks cs
  if (cs.head?.map startsNumber).getD false then do
    let (n, rest) ← readNumber cs
    match n with
    | .integer (.ofNat n) => .ok (n, rest)
    | .integer (.negSucc n) => .error (.invalidValue (.integer (.negSucc n)) natName)
    | .float negative x => .error (.invalidType (.float (floatText negative x)) natName)
  else .error (mismatch natName cs)

/-- A string. -/
def readText : Reader String := fun cs =>
  match skipBlanks cs with
  | '"' :: rest => (readString rest).map fun (s, r) => (String.ofList s, r)
  | cs => .error (mismatch "a string" cs)

/-- A truth value. -/
def readBool : Reader Bool := fun cs =>
  match skipBlanks cs with
  | 't' :: rest => (readLiteral ['r', 'u', 'e'] rest).map (true, ·)
  | 'f' :: rest => (readLiteral ['a', 'l', 's', 'e'] rest).map (false, ·)
  | cs => .error (mismatch "a boolean" cs)

/-- The value `null`. -/
def readNull : Reader Unit := fun cs =>
  match skipBlanks cs with
  | 'n' :: rest => (readLiteral ['u', 'l', 'l'] rest).map ((), ·)
  | cs => .error (mismatch "unit" cs)

/-- A value, or `null` for none. -/
def readOption {α : Type} (reader : Reader α) : Reader (Option α) := fun cs =>
  match skipBlanks cs with
  | 'n' :: rest => (readLiteral ['u', 'l', 'l'] rest).map (none, ·)
  | cs => (reader cs).map fun (a, r) => (some a, r)

/-- The value that a key stands for. -/
def ofKey {α : Type} [Keyed α] (key : String) : Except Error α :=
  match Keyed.ofKey? key with
  | some a => .ok a
  | none => .error (.unknownVariant key (Keyed.keys α))

/-- The key of an object with a single member, of which the value must be `null`; the opening brace
is read already. -/
def readKeyObject {α : Type} [Keyed α] : Reader α := fun cs =>
  match skipBlanks cs with
  | [] => .error .endOfObject
  | '\x7d' :: _ => .error .expectedValue
  | '"' :: rest => do
    let (key, rest) ← readString rest
    let a ← ofKey (String.ofList key)
    let rest ← readColon rest
    let ((), rest) ← readNull rest
    match skipBlanks rest with
    | '\x7d' :: rest => .ok (a, rest)
    | [] => .error .endOfObject
    | _ => .error .expectedValue
  | _ => .error .keyNotString

/-- One of a closed set of values, by its key: a string, or the key of an object that holds `null`
under it. -/
def readKeyed {α : Type} [Keyed α] : Reader α := fun cs =>
  match skipBlanks cs with
  | [] => .error .endOfValue
  | '"' :: rest => do
    let (key, rest) ← readString rest
    let a ← ofKey (String.ofList key)
    .ok (a, rest)
  | '\x7b' :: rest => readKeyObject rest
  | _ => .error .expectedValue

/-- Where the next item of a list begins, or nothing if the list ends here; its closing bracket is
left in the text. -/
def nextItem (first : Bool) (cs : List Char) : Except Error (Option (List Char)) :=
  match skipBlanks cs with
  | [] => .error .endOfList
  | ']' :: _ => .ok none
  | c :: rest =>
    if first then .ok (some (c :: rest))
    else if c = ',' then
      match skipBlanks rest with
      | [] => .error .endOfValue
      | ']' :: _ => .error .trailingComma
      | cs => .ok (some cs)
    else .error .expectedCommaInList

/-- The end of a list of which all items were read. -/
def readListEnd (cs : List Char) : Except Error (List Char) :=
  match skipBlanks cs with
  | ']' :: rest => .ok rest
  | ',' :: rest =>
    match skipBlanks rest with
    | ']' :: _ => .error .trailingComma
    | _ => .error .trailingCharacters
  | [] => .error .endOfList
  | _ => .error .trailingCharacters

/-- The items of a list up to its end, at most `fuel` of them. -/
def readItems {α : Type} (reader : Reader α) : Nat → Bool → Reader (List α)
  | 0, _, _ => .error .endOfList
  | fuel + 1, first, cs => do
    match ← nextItem first cs with
    | none =>
      let rest ← readListEnd cs
      .ok ([], rest)
    | some cs =>
      let (a, rest) ← reader cs
      let (as, rest) ← readItems reader fuel false rest
      .ok (a :: as, rest)

/-- A list. Every item takes at least one character. -/
def readList {α : Type} (reader : Reader α) : Reader (List α) := fun cs =>
  match skipBlanks cs with
  | '[' :: rest => readItems reader (rest.length + 1) true rest
  | cs => .error (mismatch "a sequence" cs)

end CallAudio.Json
