import CallAudio.Decimal.Notation
import CallAudio.Json.Error

/-!
Numbers of documents. Integers from -2^63 to 2^64 - 1 are kept as they are, except for a zero with a
minus sign; all else is taken as a binary floating point number. Digits that would carry the
significand past 2^64 - 1 are dropped, and powers of ten are applied one rounding at a time.
-/

namespace CallAudio.Json

/-- The greatest significand. -/
def maxSignificand : Nat := Nat.pow 2 64 - 1

/-- The greatest exponent that can be written. -/
def maxExponent : Nat := Nat.pow 2 31 - 1

/-- A number that was read. -/
inductive Number
  | integer (n : Int)
  | float (negative : Bool) (x : Binary64)
  deriving DecidableEq, Repr

/-- How a floating point number is shown: places are written out from 10^-5 to below 10^16. -/
def floatLayout : Decimal.Layout :=
  { firstPosition := -4, lastPosition := 16, mark := "e", plus := "+" }

/-- The text of a floating point number. -/
def floatText (negative : Bool) (x : Binary64) : String :=
  (if negative then "-" else "") ++
    (if x.mantissa = 0 then "0.0" else Decimal.render floatLayout x.shortest)

/-- The number as something found in place of another value. -/
def Number.found : Number → Found
  | integer n => .integer n
  | float negative x => .float (floatText negative x)

/-- The value of a decimal digit. -/
def digitValue (c : Char) : Nat :=
  c.toNat - '0'.toNat

/-- The digits at the front of a text, and what follows them. -/
def splitDigits (cs : List Char) : List Char × List Char :=
  (cs.takeWhile Char.isDigit, cs.dropWhile Char.isDigit)

/-- A significand with one more digit, unless that carries it too far. -/
def appendDigit? (significand : Nat) (c : Char) : Option Nat :=
  let next := 10 * significand + digitValue c
  if next ≤ maxSignificand then some next else none

/-- Appends digits in front of the point: the significand, and how many digits were dropped because
they, or one before them, carried it too far. -/
def appendWhole (significand : Nat) : List Char → Nat × Nat
  | [] => (significand, 0)
  | c :: rest =>
    match appendDigit? significand c with
    | some next => appendWhole next rest
    | none => (significand, rest.length + 1)

/-- Appends digits behind the point: the significand, and how many digits it took. -/
def appendFraction (significand taken : Nat) : List Char → Nat × Nat
  | [] => (significand, taken)
  | c :: rest =>
    match appendDigit? significand c with
    | some next => appendFraction next (taken + 1) rest
    | none => (significand, taken)

/-- The greatest power of ten that is applied at once. -/
def maxPower : Nat := 308

/-- Ten to the power `k`, rounded. -/
def power? (k : Nat) : Option Binary64 :=
  Binary64.ofNat (Nat.pow 10 k)

/-- Divides by ten to the power `k`. -/
def divPower (x : Binary64) (k : Nat) : Binary64 :=
  ((power? k).bind x.div).getD Binary64.zero

/-- Divides by the greatest power until at most that power is left, and then by what is left; a zero
is not divided any more. -/
def divPowers (x : Binary64) (k : Nat) : Binary64 :=
  if k ≤ maxPower then divPower x k
  else if x.mantissa = 0 then x
  else divPowers (divPower x maxPower) (k - maxPower)
  termination_by k
  decreasing_by
    simp only [maxPower, Nat.not_le] at *
    omega

/-- The number `significand · 10 ^ exponent`. -/
def ofParts (negative : Bool) (significand : Nat) (exponent : Int) : Except Error Number :=
  match Binary64.ofNat significand with
  | none => .error .numberOutOfRange
  | some x =>
    if exponent < 0 then .ok (.float negative (divPowers x exponent.natAbs))
    else if exponent.toNat ≤ maxPower then
      match (power? exponent.toNat).bind x.mul with
      | some y => .ok (.float negative y)
      | none => .error .numberOutOfRange
    else if significand = 0 then .ok (.float negative Binary64.zero)
    else .error .numberOutOfRange

/-- The exponent after its mark: its sign and its digits, of which there is at least one. -/
def readExponent (cs : List Char) : Except Error ((Bool × List Char) × List Char) :=
  let (negative, cs) := match cs with
    | '+' :: rest => (false, rest)
    | '-' :: rest => (true, rest)
    | _ => (false, cs)
  match splitDigits cs with
  | ([], []) => .error .endOfValue
  | ([], _) => .error .invalidNumber
  | (digits, rest) => .ok ((negative, digits), rest)

/-- The number with the exponent that follows, if one does. An exponent that is too great to be
written makes a number that is not zero too large, or too small to differ from zero. -/
def readScale (negative : Bool) (significand : Nat) (exponent : Int) (cs : List Char) :
    Except Error (Number × List Char) :=
  match cs with
  | c :: rest =>
    if c = 'e' ∨ c = 'E' then do
      let ((small, digits), rest) ← readExponent rest
      let n := Nat.ofDigitChars 10 digits 0
      if maxExponent < n then
        if significand ≠ 0 ∧ small = false then .error .numberOutOfRange
        else .ok (.float negative Binary64.zero, rest)
      else
        let x ← ofParts negative significand (if small then exponent - n else exponent + n)
        .ok (x, rest)
    else (ofParts negative significand exponent).map (·, cs)
  | [] => (ofParts negative significand exponent).map (·, cs)

/-- A number after its digits in front of the point, of which `dropped` were dropped. -/
def readTail (negative : Bool) (significand dropped : Nat) (cs : List Char) :
    Except Error (Number × List Char) :=
  match cs with
  | '.' :: rest =>
    match splitDigits rest with
    | ([], []) => .error .endOfValue
    | ([], _) => .error .invalidNumber
    | (digits, rest) =>
      let (significand, taken) := appendFraction significand 0 digits
      readScale negative significand (dropped - taken : Int) rest
  | c :: _ =>
    if c = 'e' ∨ c = 'E' then readScale negative significand dropped cs
    else whole
  | [] => whole
where
  /-- A number that ends here. -/
  whole : Except Error (Number × List Char) :=
    if dropped ≠ 0 then (ofParts negative significand dropped).map (·, cs)
    else if negative = false then .ok (.integer significand, cs)
    else if 0 < significand ∧ significand ≤ Nat.pow 2 63 then .ok (.integer (-significand), cs)
    else (ofParts true significand 0).map (·, cs)

/-- A number after its sign. A zero in front of the point stands alone. -/
def readUnsigned (negative : Bool) (cs : List Char) : Except Error (Number × List Char) :=
  match cs with
  | [] => .error .endOfValue
  | '0' :: rest =>
    if (rest.head?.map Char.isDigit).getD false then .error .invalidNumber
    else readTail negative 0 0 rest
  | c :: _ =>
    if c.isDigit then
      let (digits, rest) := splitDigits cs
      let (significand, dropped) := appendWhole 0 digits
      readTail negative significand dropped rest
    else .error .invalidNumber

/-- A number: a digit or a minus sign stands first. -/
def readNumber (cs : List Char) : Except Error (Number × List Char) :=
  match cs with
  | '-' :: rest => readUnsigned true rest
  | _ => readUnsigned false cs

/-- Whether a number may begin with this character. -/
def startsNumber (c : Char) : Bool :=
  c = '-' || c.isDigit

/-- Passes over the exponent of a number after its mark. -/
def skipExponent (cs : List Char) : Except Error (List Char) :=
  let cs := match cs with
    | '+' :: rest | '-' :: rest => rest
    | _ => cs
  match splitDigits cs with
  | ([], _) => .error .invalidNumber
  | (_, rest) => .ok rest

/-- Passes over an exponent, if one follows. -/
def skipScale (cs : List Char) : Except Error (List Char) :=
  match cs with
  | c :: rest => if c = 'e' ∨ c = 'E' then skipExponent rest else .ok cs
  | [] => .ok cs

/-- Passes over what follows the digits in front of the point. -/
def skipTail (cs : List Char) : Except Error (List Char) :=
  match cs with
  | '.' :: rest =>
    match splitDigits rest with
    | ([], _) => .error .invalidNumber
    | (_, rest) => skipScale rest
  | _ => skipScale cs

/-- Passes over a number after its sign; only its form is looked at. -/
def skipUnsigned (cs : List Char) : Except Error (List Char) :=
  match cs with
  | '0' :: rest =>
    if (rest.head?.map Char.isDigit).getD false then .error .invalidNumber else skipTail rest
  | _ =>
    match splitDigits cs with
    | ([], _) => .error .invalidNumber
    | (_, rest) => skipTail rest

/-- Passes over a number. -/
def skipNumber (cs : List Char) : Except Error (List Char) :=
  match cs with
  | '-' :: rest => skipUnsigned rest
  | _ => skipUnsigned cs

end CallAudio.Json
