import CallAudio.Json.Quoted

/-! Documents as trees, and the compact text of a tree: no blanks, members in the order given. -/

namespace CallAudio.Json

/-- A document. -/
inductive Value
  | null
  | bool (b : Bool)
  | nat (n : Nat)
  | string (s : String)
  | list (items : List Value)
  | object (members : List (String × Value))

namespace Value

mutual

/-- The compact text. -/
def render : Value → List Char
  | null => "null".toList
  | bool b => (if b then "true" else "false").toList
  | nat n => Nat.toDigits 10 n
  | string s => encode s
  | list [] => ['[', ']']
  | list (item :: items) => '[' :: render item ++ renderItems items
  | object [] => ['\x7b', '\x7d']
  | object ((key, value) :: members) =>
    '\x7b' :: encode key ++ ':' :: render value ++ renderMembers members

/-- What follows an item of a list: the other items, each after a comma, and the bracket. -/
def renderItems : List Value → List Char
  | [] => [']']
  | item :: items => ',' :: render item ++ renderItems items

/-- What follows a member of an object: the other members, each after a comma, and the brace. -/
def renderMembers : List (String × Value) → List Char
  | [] => ['\x7d']
  | (key, value) :: members => ',' :: encode key ++ ':' :: render value ++ renderMembers members

end

/-- The compact text as a string. -/
def text (v : Value) : String :=
  String.ofList v.render

end Value

end CallAudio.Json
