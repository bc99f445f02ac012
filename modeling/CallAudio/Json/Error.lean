import CallAudio.Text.Quoted

/-! What can be wrong with a document, and how it is told. -/

namespace CallAudio.Json

/-- What was found where a value of another kind was expected. -/
inductive Found
  | null
  | bool (b : Bool)
  | integer (n : Int)
  /-- A number that is not taken as an integer, by its text. -/
  | float (text : String)
  | string (s : String)
  | sequence
  | map
  deriving DecidableEq, Repr

/-- The first thing found wrong with a document, in reading order. -/
inductive Error
  | endOfValue
  | endOfString
  | endOfObject
  | endOfList
  | expectedColon
  | expectedCommaInObject
  | expectedCommaInList
  | trailingComma
  | keyNotString
  | expectedValue
  | misspelt
  | invalidNumber
  | numberOutOfRange
  | trailingCharacters
  | invalidEscape
  /-- The first half of a surrogate pair without a second escape. -/
  | halfPair
  /-- The second half of a surrogate pair alone, or a first half before something else. -/
  | brokenPair
  | controlCharacter
  | invalidType (found : Found) (expected : String)
  | invalidValue (found : Found) (expected : String)
  | invalidLength (n : Nat) (expected : String)
  | unknownVariant (name : String) (known : List String)
  | duplicateField (name : String)
  | missingField (name : String)
  deriving DecidableEq, Repr

/-- A name between backticks. -/
def ticked (s : String) : String :=
  "`" ++ s ++ "`"

/-- What was found, in words. -/
def Found.describe : Found → String
  | null => "null"
  | bool b => "boolean " ++ ticked (if b then "true" else "false")
  | integer n => "integer " ++ ticked (toString n)
  | float t => "floating point " ++ ticked t
  | string s => "string " ++ Text.quote s
  | sequence => "sequence"
  | map => "map"

/-- The text shown to a user. -/
def Error.message : Error → String
  | endOfValue => "EOF while parsing a value"
  | endOfString => "EOF while parsing a string"
  | endOfObject => "EOF while parsing an object"
  | endOfList => "EOF while parsing a list"
  | expectedColon => "expected `:`"
  | expectedCommaInObject => "expected `,` or `\x7d`"
  | expectedCommaInList => "expected `,` or `]`"
  | trailingComma => "trailing comma"
  | keyNotString => "key must be a string"
  | expectedValue => "expected value"
  | misspelt => "expected ident"
  | invalidNumber => "invalid number"
  | numberOutOfRange => "number out of range"
  | trailingCharacters => "trailing characters"
  | invalidEscape => "invalid escape"
  | halfPair => "unexpected end of hex escape"
  | brokenPair => "lone leading surrogate in hex escape"
  | controlCharacter => "control character (\\u0000-\\u001F) found while parsing a string"
  | invalidType found expected => "invalid type: " ++ found.describe ++ ", expected " ++ expected
  | invalidValue found expected => "invalid value: " ++ found.describe ++ ", expected " ++ expected
  | invalidLength n expected => "invalid length " ++ toString n ++ ", expected " ++ expected
  | unknownVariant name known =>
    "unknown variant " ++ ticked name ++ ", expected one of " ++
      String.intercalate ", " (known.map ticked)
  | duplicateField name => "duplicate field " ++ ticked name
  | missingField name => "missing field " ++ ticked name

end CallAudio.Json
