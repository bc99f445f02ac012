import CallAudio.Json.Number
import CallAudio.Json.Quoted

/-!
Passing over a value of any kind, nested to any depth. Blanks, literals, numbers, strings and the
punctuation of lists and objects are looked at; what they stand for is not.
-/

namespace CallAudio.Json

/-- The four characters that may stand between the parts of a document. -/
def isBlank (c : Char) : Bool :=
  c = ' ' || c = '\t' || c = '\n' || c = '\r'

/-- The text without the blanks at its front. -/
def skipBlanks (cs : List Char) : List Char :=
  cs.dropWhile isBlank

/-- The rest of a literal, of which the first character is read already. -/
def readLiteral : List Char → List Char → Except Error (List Char)
  | [], cs => .ok cs
  | _ :: _, [] => .error .endOfValue
  | e :: expected, c :: cs => if c = e then readLiteral expected cs else .error .misspelt

/-- A colon. -/
def readColon (cs : List Char) : Except Error (List Char) :=
  match skipBlanks cs with
  | ':' :: rest => .ok rest
  | [] => .error .endOfObject
  | _ => .error .expectedColon

/-- Passes over the key of a member and over its colon. -/
def skipKey (cs : List Char) : Except Error (List Char) :=
  match skipBlanks cs with
  | '"' :: rest => do readColon (← skipString rest)
  | [] => .error .endOfObject
  | _ => .error .keyNotString

mutual

/-- Passes over a value; `fuel` bounds how many values and how many parts of values are begun. -/
def skipValueWithin : Nat → List Char → Except Error (List Char)
  | 0, _ => .error .endOfValue
  | fuel + 1, cs =>
    match skipBlanks cs with
    | [] => .error .endOfValue
    | 'n' :: rest => readLiteral ['u', 'l', 'l'] rest
    | 't' :: rest => readLiteral ['r', 'u', 'e'] rest
    | 'f' :: rest => readLiteral ['a', 'l', 's', 'e'] rest
    | '"' :: rest => skipString rest
    | '[' :: rest =>
      match skipBlanks rest with
      | [] => .error .endOfList
      | ']' :: rest => .ok rest
      | rest => skipItems fuel rest
    | '\x7b' :: rest =>
      match skipBlanks rest with
      | [] => .error .endOfObject
      | '\x7d' :: rest => .ok rest
      | rest => skipMembers fuel rest
    | c :: rest => if startsNumber c then skipNumber (c :: rest) else .error .expectedValue

/-- Passes over one or more items of a list, separated by commas, and the bracket behind them. -/
def skipItems : Nat → List Char → Except Error (List Char)
  | 0, _ => .error .endOfValue
  | fuel + 1, cs => do
    let cs ← skipValueWithin fuel cs
    match skipBlanks cs with
    | [] => .error .endOfList
    | ']' :: rest => .ok rest
    | ',' :: rest => skipItems fuel rest
    | _ => .error .expectedCommaInList

/-- Passes over one or more members of an object, separated by commas, and the brace behind them. -/
def skipMembers : Nat → List Char → Except Error (List Char)
  | 0, _ => .error .endOfValue
  | fuel + 1, cs => do
    let cs ← skipKey cs
    let cs ← skipValueWithin fuel cs
    match skipBlanks cs with
    | [] => .error .endOfObject
    | '\x7d' :: rest => .ok rest
    | ',' :: rest => skipMembers fuel rest
    | _ => .error .expectedCommaInObject

end

/-- Passes over a value. Each part that is begun takes at least one character, so twice as many as
there are characters suffice. -/
def skipValue (cs : List Char) : Except Error (List Char) :=
  skipValueWithin (2 * cs.length + 2) cs

end CallAudio.Json
