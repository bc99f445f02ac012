import CallAudio.Json.Skip

/-!
How a document may be written: with blanks between its parts, and every character of a string plain or
escaped. A document is spelled in as many ways; what it says is a tree. Numbers are whole, and written
without a point or an exponent.
-/

namespace CallAudio.Json

/-- What a document says, apart from how it is laid out. -/
inductive Tree
  | null
  | bool (b : Bool)
  | integer (n : Int)
  | string (s : String)
  | list (items : List Tree)
  | object (members : List (String × Tree))

/-! ## Blanks -/

/-- Blanks, or nothing at all. -/
def Blanks (cs : List Char) : Prop :=
  ∀ c ∈ cs, isBlank c = true

theorem skipBlanks_cons {c : Char} (mark : isBlank c = false) (cs : List Char) :
    skipBlanks (c :: cs) = c :: cs := by
  rw [skipBlanks, List.dropWhile_cons, mark, if_neg Bool.false_ne_true]

theorem Blanks.skipBlanks_append {bs : List Char} (blanks : Blanks bs) (cs : List Char) :
    skipBlanks (bs ++ cs) = skipBlanks cs :=
  List.dropWhile_append_of_pos blanks

theorem skipBlanks_skipBlanks (cs : List Char) : skipBlanks (skipBlanks cs) = skipBlanks cs := by
  induction cs with
  | nil => rfl
  | cons c cs ih =>
    cases blank : isBlank c with
    | true =>
      have skipped : skipBlanks (c :: cs) = skipBlanks cs := by
        rw [skipBlanks, List.dropWhile_cons, if_pos blank, skipBlanks]
      rw [skipped, ih]
    | false => rw [skipBlanks_cons blank, skipBlanks_cons blank]

/-! ## Strings -/

/-- The characters that an escape of one letter stands for, with their letters. -/
def letters : List (Char × Char) :=
  [('"', '"'), ('\\', '\\'), ('/', '/'), ('\x08', 'b'), ('\x0c', 'f'), ('\x0a', 'n'), ('\x0d', 'r'),
    ('\x09', 't')]

/-- A number below 16 as a digit or a letter, of either case. -/
def HexDigit (n : Nat) (c : Char) : Prop :=
  n < 16 ∧ (c = Nat.digitChar n ∨ c = (Nat.digitChar n).toUpper)

/-- Four hexadecimal digits of a number, the highest first. -/
inductive FourDigits : Nat → List Char → Prop
  | intro {p q r s : Nat} {a b c d : Char} (first : HexDigit p a) (second : HexDigit q b)
      (third : HexDigit r c) (fourth : HexDigit s d) :
      FourDigits (((p * 16 + q) * 16 + r) * 16 + s) [a, b, c, d]

/-- The ways to write a character between quotes. -/
inductive SpellsChar (c : Char) : List Char → Prop
  | plain (quote : c ≠ '"') (backslash : c ≠ '\\') (printable : 0x20 ≤ c.toNat) : SpellsChar c [c]
  | letter {e : Char} (known : (c, e) ∈ letters) : SpellsChar c ['\\', e]
  | code {ds : List Char} (digits : FourDigits c.toNat ds) : SpellsChar c ('\\' :: 'u' :: ds)
  /-- A character that is too great for four digits is written as a surrogate pair. -/
  | pair {hs ls : List Char} (great : 0x10000 ≤ c.toNat)
      (high : FourDigits (0xD800 + (c.toNat - 0x10000) / 0x400) hs)
      (low : FourDigits (0xDC00 + (c.toNat - 0x10000) % 0x400) ls) :
      SpellsChar c ('\\' :: 'u' :: (hs ++ '\\' :: 'u' :: ls))

/-- The ways to write characters between quotes. -/
inductive SpellsChars : List Char → List Char → Prop
  | nil : SpellsChars [] []
  | cons {c : Char} {s cs ts : List Char} (head : SpellsChar c cs) (tail : SpellsChars s ts) :
      SpellsChars (c :: s) (cs ++ ts)

/-! ## Values -/

/-- An integer as it is written: no zeros in front, and a sign only if it is negative. -/
def integerText (n : Int) : List Char :=
  n.repr.toList

/-- A part of a document: a value, a value with blanks around it, or the items of a list or the
members of an object, of which there is at least one. -/
inductive Part
  | value (v : Tree)
  | spaced (v : Tree)
  | items (vs : List Tree)
  | members (ms : List (String × Tree))

/-- The ways to write a part of a document. -/
inductive Spells : Part → List Char → Prop
  | null : Spells (.value .null) ['n', 'u', 'l', 'l']
  | bool (b : Bool) :
      Spells (.value (.bool b)) (if b then ['t', 'r', 'u', 'e'] else ['f', 'a', 'l', 's', 'e'])
  | integer (n : Int) : Spells (.value (.integer n)) (integerText n)
  | string {s : String} {cs : List Char} (h : SpellsChars s.toList cs) :
      Spells (.value (.string s)) ('"' :: (cs ++ ['"']))
  | emptyList {bs : List Char} (blanks : Blanks bs) : Spells (.value (.list [])) ('[' :: (bs ++ [']']))
  | list {vs : List Tree} {cs : List Char} (h : Spells (.items vs) cs) :
      Spells (.value (.list vs)) ('[' :: (cs ++ [']']))
  | emptyObject {bs : List Char} (blanks : Blanks bs) :
      Spells (.value (.object [])) ('\x7b' :: (bs ++ ['\x7d']))
  | object {ms : List (String × Tree)} {cs : List Char} (h : Spells (.members ms) cs) :
      Spells (.value (.object ms)) ('\x7b' :: (cs ++ ['\x7d']))
  | spaced {v : Tree} {bs cs bs' : List Char} (before : Blanks bs) (h : Spells (.value v) cs)
      (after : Blanks bs') : Spells (.spaced v) (bs ++ (cs ++ bs'))
  | lastItem {v : Tree} {cs : List Char} (h : Spells (.spaced v) cs) : Spells (.items [v]) cs
  | item {v : Tree} {vs : List Tree} {cs ts : List Char} (h : Spells (.spaced v) cs)
      (others : Spells (.items vs) ts) : Spells (.items (v :: vs)) (cs ++ ',' :: ts)
  | lastMember {key : String} {v : Tree} {bs ks bs' cs : List Char} (before : Blanks bs)
      (name : SpellsChars key.toList ks) (after : Blanks bs') (h : Spells (.spaced v) cs) :
      Spells (.members [(key, v)]) (bs ++ '"' :: (ks ++ '"' :: (bs' ++ ':' :: cs)))
  | member {key : String} {v : Tree} {ms : List (String × Tree)} {bs ks bs' cs ts : List Char}
      (before : Blanks bs) (name : SpellsChars key.toList ks) (after : Blanks bs')
      (h : Spells (.spaced v) cs) (others : Spells (.members ms) ts) :
      Spells (.members ((key, v) :: ms))
        (bs ++ '"' :: (ks ++ '"' :: (bs' ++ ':' :: (cs ++ ',' :: ts))))

/-- A text that says what the tree says, with blanks around it. -/
def Tree.WrittenAs (v : Tree) (text : String) : Prop :=
  Spells (.spaced v) text.toList

end CallAudio.Json
