import CallAudio.Json.Reader

/-!
Reading records. A record is written as an object, with its fields in any order among other members,
or as a list of its fields in order.
-/

namespace CallAudio.Json

/-- A field of a record of type `α`. -/
structure FieldShape (α : Type) where
  key : String
  /-- An object that lacks the field is no record. -/
  required : Bool
  /-- Reads the field into a record. -/
  read : α → Reader α

/-- A type of records. -/
structure Shape (α : Type) where
  name : String
  fields : List (FieldShape α)
  /-- What the fields are read into. A required field is always replaced. -/
  base : α
  /-- Whether a list may leave out fields at its end. -/
  mayBeShort : Bool

namespace Shape

variable {α : Type}

/-- How a record of this shape is called. -/
def title (shape : Shape α) : String :=
  "struct " ++ shape.name

/-- The field with a given key. -/
def field? (shape : Shape α) (key : String) : Option (FieldShape α) :=
  shape.fields.find? fun f => f.key == key

/-- The record, unless a required field was not seen. -/
def complete (shape : Shape α) (seen : List String) (a : α) : Except Error α :=
  match shape.fields.find? fun f => f.required && !seen.contains f.key with
  | some f => .error (.missingField f.key)
  | none => .ok a

/-- Reads one member, which begins at its key: a field, which may not be repeated, or a member that is
passed over. -/
def readMember (shape : Shape α) (seen : List String) (a : α) : Reader (List String × α) := fun cs =>
  match cs with
  | '"' :: rest => do
    let (key, rest) ← readString rest
    let key := String.ofList key
    match shape.field? key with
    | none =>
      let rest ← readColon rest
      let rest ← skipValue rest
      .ok ((seen, a), rest)
    | some f =>
      if seen.contains key then .error (.duplicateField key)
      else
        let rest ← readColon rest
        let (a, rest) ← f.read a rest
        .ok ((key :: seen, a), rest)
  | _ => .error .keyNotString

/-- Where the next member of an object begins, or nothing if the object ends here, with the text
behind its closing brace. -/
def nextMember (first : Bool) (cs : List Char) : Except Error (List Char ⊕ List Char) :=
  match skipBlanks cs with
  | [] => .error .endOfObject
  | '\x7d' :: rest => .ok (.inr rest)
  | c :: rest =>
    if first then .ok (.inl (c :: rest))
    else if c = ',' then
      match skipBlanks rest with
      | [] => .error .endOfValue
      | '\x7d' :: _ => .error .trailingComma
      | cs => .ok (.inl cs)
    else .error .expectedCommaInObject

/-- Reads the members of an object up to its end, at most `fuel` of them. -/
def readMembers (shape : Shape α) : Nat → Bool → List String → α → Reader α
  | 0, _, _, _, _ => .error .endOfObject
  | fuel + 1, first, seen, a, cs => do
    match ← nextMember first cs with
    | .inr rest =>
      let a ← shape.complete seen a
      .ok (a, rest)
    | .inl cs =>
      let ((seen, a), rest) ← shape.readMember seen a cs
      readMembers shape fuel false seen a rest

/-- Reads the remaining fields of a list, of which `count` were read. -/
def readFields (shape : Shape α) (count : Nat) (a : α) : List (FieldShape α) → Reader α
  | [], cs => do
    let rest ← readListEnd cs
    .ok (a, rest)
  | f :: fields, cs => do
    match ← nextItem (count == 0) cs with
    | none =>
      if shape.mayBeShort then
        let rest ← readListEnd cs
        .ok (a, rest)
      else
        .error (.invalidLength count
          (shape.title ++ " with " ++ toString shape.fields.length ++ " elements"))
    | some cs =>
      let (a, rest) ← f.read a cs
      readFields shape (count + 1) a fields rest

/-- Reads a record. -/
def reader (shape : Shape α) : Reader α := fun cs =>
  match skipBlanks cs with
  | '\x7b' :: rest => shape.readMembers (rest.length + 1) true [] shape.base rest
  | '[' :: rest => shape.readFields 0 shape.base shape.fields rest
  | cs => .error (mismatch shape.title cs)

end Shape

end CallAudio.Json
