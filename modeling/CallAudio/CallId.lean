import CallAudio.Text.Hex

/-!
Identifiers of calls: 128 bits, written as 32 hexadecimal digits in groups of 8, 4, 4, 4 and 12 with
hyphens between them. Reading also takes the digits without hyphens, and the grouped form in braces
or after `urn:uuid:`.
-/

namespace CallAudio

/-- The identifier of a call. -/
structure CallId where
  bits : BitVec 128
  deriving DecidableEq, Repr

namespace CallId

/-- Writes hyphens between groups of the given sizes; what is left over follows the last one. -/
def hyphenate : List Nat → List Char → List Char
  | [], cs => cs
  | n :: rest, cs => cs.take n ++ '-' :: hyphenate rest (cs.drop n)

/-- The sizes of the groups before the last. -/
def groups : List Nat := [8, 4, 4, 4]

/-- The written form. -/
def text (id : CallId) : String :=
  String.ofList (hyphenate groups (Text.hexDigits id.bits.toNat 32))

/-- Takes the hyphens out from between groups of the given sizes. -/
def unhyphenate? : List Nat → List Char → Option (List Char)
  | [], cs => some cs
  | n :: rest, cs =>
    match cs.drop n with
    | '-' :: tail => do return cs.take n ++ (← unhyphenate? rest tail)
    | _ => none

/-- Reads exactly 32 digits. -/
def ofDigits? (cs : List Char) : Option CallId :=
  if cs.length = 32 then (Text.hexNumber? 0 cs).map fun n => ⟨BitVec.ofNat 128 n⟩ else none

/-- Reads the grouped form. -/
def ofGroups? (cs : List Char) : Option CallId :=
  (unhyphenate? groups cs).bind ofDigits?

/-- The characters of the form in front of which a name space is written. -/
def namePart : List Char := "urn:uuid:".toList

/-- Reads any of the written forms. -/
def parse? (s : String) : Option CallId :=
  let cs := s.toList
  if cs.length = 32 then ofDigits? cs
  else if cs.length = 36 then ofGroups? cs
  else if cs.length = 38 ∧ cs.head? = some '\x7b' ∧ cs.getLast? = some '\x7d' then
    ofGroups? (cs.drop 1).dropLast
  else if cs.take 9 = namePart then ofGroups? (cs.drop 9)
  else none

end CallId

end CallAudio
