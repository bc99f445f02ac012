/-! Closed sets of values that are written by a key: the key of a value, and the value of a key. -/

namespace CallAudio

/-- A finite type whose values are written by keys. -/
class Keyed (α : Type) where
  /-- Every value, in the order in which the keys are listed. -/
  all : List α
  /-- The key of a value. -/
  key : α → String

namespace Keyed

/-- Every key, in order. -/
def keys (α : Type) [Keyed α] : List String :=
  (all : List α).map key

/-- The value that a key stands for, if any. -/
def ofKey? {α : Type} [Keyed α] (k : String) : Option α :=
  (all : List α).find? fun a => key a == k

theorem key_of_ofKey? {α : Type} [Keyed α] {k : String} {a : α} (h : ofKey? k = some a) :
    key a = k := by
  simpa using List.find?_some h

end Keyed

end CallAudio
